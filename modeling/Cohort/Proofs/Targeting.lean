import Mathlib.Data.List.Nodup
import Cohort.Proofs.Agreement
import Cohort.Targeting

-- Whom rules let in depends on the worth of the values alone, not on their kinds or on the order of the keys. Fewer
-- rules and further attributes never keep anybody out.
namespace Cohort

namespace Decimal

theorem ofInt_ne_nan (n : Int) : Worth.ofInt n ≠ .nan := by
  unfold Worth.ofInt scaled
  split
  · nofun
  · nofun

end Decimal

namespace Json

def Distinct (members : Members) : Prop := (members.map (·.1)).Nodup

instance (members : Members) : Decidable (Distinct members) := inferInstanceAs (Decidable (List.Nodup _))

theorem Distinct.lookup {members : Members} (distinct : Distinct members) {m : RawText × Json}
    (member : m ∈ members) : lookup m.1 members = some m.2 := by
  obtain ⟨v, found⟩ := Option.isSome_iff_exists.mp (lookup_self member)
  have same : (m.1, v) = m := List.inj_on_of_nodup_map distinct (lookup_mem found) member rfl
  rw [found, ← same]

theorem isNaN_exact {v : Json} : v.isNaN = true ↔ worth? v = some .nan := by
  cases v with
  | float x => simp [isNaN, Decimal.isNaN, worth?]
  | bool _ | int _ => simp [isNaN, worth?, Decimal.ofInt_ne_nan]
  | _ => simp [isNaN, worth?]

theorem isNaN_alike {v w : Json} (same : agrees v w = true) : v.isNaN = w.isNaN := by
  rw [Bool.eq_iff_iff, isNaN_exact, isNaN_exact]
  cases agrees_exact.mp same with
  | number left right => rw [left, right]
  | null | string | array | object => simp [worth?]

theorem equals_alike {v v' w w' : Json} (left : agrees v v' = true) (right : agrees w w' = true)
    (equal : equals v w = true) : equals v' w' = true := by
  rw [equals, Bool.and_eq_true, ← isNaN_alike left]
  rw [equals, Bool.and_eq_true] at equal
  exact ⟨agrees_trans (agrees_symm left) (agrees_trans equal.1 right), equal.2⟩

theorem found_alike {ms ns : Members} (same : objectsAgree ms ns = true) {key : RawText} {v : Json}
    (found : lookup key ms = some v) : ∃ w, lookup key ns = some w ∧ agrees v w = true := by
  have here := agrees_object.mp same key
  rw [found] at here
  cases there : lookup key ns with
  | none =>
    rw [there] at here
    cases here
  | some w =>
    rw [there] at here
    cases here with
    | some same => exact ⟨w, rfl, same⟩

theorem empty_alike {ms : Members} (same : objectsAgree [] ms = true) : ms = [] := by
  cases ms with
  | nil => rfl
  | cons m rest =>
    have here := agrees_object.mp same m.1
    rw [lookup_cons, if_pos rfl] at here
    cases here

end Json

namespace Targeting
open Json
variable {rules rules' attributes attributes' : Members}

theorem holds_exact : holds rules attributes = true ↔
    ∀ rule ∈ rules, ∃ value, lookup rule.1 attributes = some value ∧ equals value rule.2 = true := by
  rw [holds, List.all_eq_true]
  refine forall₂_congr fun rule _ => ?_
  cases lookup rule.1 attributes with
  | none => simp
  | some value => simp

theorem holds_alike (distinct : Distinct rules') (sameRules : objectsAgree rules rules' = true)
    (sameAttributes : objectsAgree attributes attributes' = true) (met : holds rules attributes = true) :
    holds rules' attributes' = true := by
  rw [holds_exact] at met ⊢
  intro rule' member'
  obtain ⟨expected, found, same⟩ := found_alike (agrees_symm sameRules) (distinct.lookup member')
  obtain ⟨value, present, equal⟩ := met _ (lookup_mem found)
  obtain ⟨value', present', same'⟩ := found_alike sameAttributes present
  exact ⟨value', present', equals_alike same' (agrees_symm same) equal⟩

theorem holds_wider (fewer : ∀ rule ∈ rules, rule ∈ rules')
    (wider : ∀ key value, lookup key attributes = some value → lookup key attributes' = some value)
    (met : holds rules' attributes = true) : holds rules attributes' = true := by
  rw [holds_exact] at met ⊢
  intro rule member
  obtain ⟨value, present, equal⟩ := met rule (fewer rule member)
  exact ⟨value, wider _ _ present, equal⟩

theorem admits_exact {rules attributes : Option Members} : admits rules attributes = true ↔
    rules.getD [] = [] ∨ ∃ given, attributes = some given ∧ holds (rules.getD []) given = true := by
  unfold admits
  cases rules.getD [] with
  | nil => simp
  | cons rule rest => cases attributes <;> simp

-- Two objects that count as the same, or two nulls.
def Same : Option Members → Option Members → Prop := Option.Rel fun ms ns => objectsAgree ms ns = true

theorem Same.symm {a b : Option Members} (same : Same a b) : Same b a := found_turned same fun _ _ _ => agrees_symm

theorem Same.getD {a b : Option Members} (same : Same a b) : objectsAgree (a.getD []) (b.getD []) = true := by
  cases same with
  | none => exact agrees_refl (.object [])
  | some same => exact same

theorem admits_alike {rules rules' attributes attributes' : Option Members} (distinct : Distinct (rules'.getD []))
    (sameRules : Same rules rules') (sameAttributes : Same attributes attributes')
    (admitted : admits rules attributes = true) : admits rules' attributes' = true := by
  rw [admits_exact] at admitted ⊢
  rcases admitted with none' | ⟨given, rfl, met⟩
  · have same := sameRules.getD
    rw [none'] at same
    exact .inl (empty_alike same)
  · cases sameAttributes with
    | some same => exact .inr ⟨_, rfl, holds_alike distinct sameRules.getD same met⟩

theorem admits_wider {rules rules' attributes attributes' : Option Members}
    (fewer : ∀ rule ∈ rules.getD [], rule ∈ rules'.getD [])
    (wider : ∀ key value, lookup key (attributes.getD []) = some value → lookup key (attributes'.getD []) = some value)
    (admitted : admits rules' attributes = true) : admits rules attributes' = true := by
  rw [admits_exact] at admitted ⊢
  rcases admitted with none' | ⟨given, rfl, met⟩
  · left
    apply List.eq_nil_iff_forall_not_mem.mpr
    intro rule member
    exact absurd (none' ▸ fewer rule member) List.not_mem_nil
  · have met' := holds_wider fewer wider met
    cases attributes' with
    | some given' => exact .inr ⟨given', rfl, met'⟩
    | none =>
      left
      apply List.eq_nil_iff_forall_not_mem.mpr
      intro rule member
      obtain ⟨value, present, _⟩ := holds_exact.mp met' rule member
      cases present

theorem admission_by_value {rules rules' attributes attributes' : Option Members} :
    (Distinct (rules.getD []) → Distinct (rules'.getD []) → Same rules rules' → Same attributes attributes' →
      admits rules attributes = admits rules' attributes') ∧
    ((∀ rule ∈ rules.getD [], rule ∈ rules'.getD []) →
      (∀ key value, lookup key (attributes.getD []) = some value → lookup key (attributes'.getD []) = some value) →
      admits rules' attributes = true → admits rules attributes' = true) := by
  refine ⟨fun distinct distinct' sameRules sameAttributes => ?_, admits_wider⟩
  rw [Bool.eq_iff_iff]
  constructor
  · exact admits_alike distinct' sameRules sameAttributes
  · exact admits_alike distinct sameRules.symm sameAttributes.symm

-- A plan and its seats, written in two ways.

def seats : Members := [("plan", .int 1), ("seats", .object [("used", .array [.bool true, .null]), ("left", .int 0)])]

def seats' : Members :=
  [("seats", .object [("left", .bool false), ("used", .array [.float 1.0, .null])]), ("plan", .float 1.0)]

def paidSeats : Members := ("paid", .null) :: seats'

def planOnly : Members := [("plan", .int 1)]

theorem seats_admitted :
    Distinct seats ∧ Distinct seats' ∧ Same (some seats) (some seats') ∧ Same (some seats') (some seats) ∧
    admits (some seats) (some seats') = true ∧ admits (some seats') (some seats) = true ∧
    admits (some planOnly) (some paidSeats) = true := by
  have distinct : Distinct seats := by decide
  have distinct' : Distinct seats' := by decide
  have same : Same (some seats) (some seats') := .some (by decide +kernel)
  have admitted : admits (some seats) (some seats') = true := by decide +kernel
  have alike : admits (some seats) (some seats') = admits (some seats') (some seats) :=
    admission_by_value.1 distinct distinct' same same.symm
  have fewer : ∀ rule ∈ planOnly, rule ∈ seats := by
    intro rule member
    cases List.mem_singleton.mp member
    exact List.mem_cons_self
  have wider : ∀ key value, lookup key seats' = some value → lookup key paidSeats = some value := by
    intro key value found
    have unpaid : lookup (.whole "paid") seats' = none := by decide +kernel
    rw [paidSeats, lookup_cons]
    split
    · rename_i hit
      subst hit
      cases unpaid.symm.trans found
    · exact found
  have narrowing := (@admission_by_value (some planOnly) (some seats) (some seats') (some paidSeats)).2
  have narrowed : admits (some planOnly) (some paidSeats) = true := narrowing fewer wider admitted
  exact ⟨distinct, distinct', same, same.symm, admitted, alike ▸ admitted, narrowed⟩

end Targeting
end Cohort
