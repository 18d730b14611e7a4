import Mathlib.Data.List.Forall2
import Cohort.Json.Agreement

-- Counting as the same is an equivalence of values, however deep they go and in whatever order their keys stand.
namespace Cohort.Json

def parts : Json → List Json
  | .array items => items
  | .object members => members.map (·.2)
  | _ => []

theorem part_smaller {u v : Json} (member : u ∈ v.parts) : sizeOf u < sizeOf v := by
  cases v with
  | array items =>
    have smaller : sizeOf u < sizeOf items := List.sizeOf_lt_of_mem member
    simp only [Json.array.sizeOf_spec]
    omega
  | object members =>
    obtain ⟨m, there, rfl⟩ := List.mem_map.mp member
    have smaller := List.sizeOf_lt_of_mem there
    have own : sizeOf m = 1 + sizeOf m.1 + sizeOf m.2 := rfl
    simp only [Json.object.sizeOf_spec]
    omega
  | _ => cases member

theorem by_parts {P : Json → Prop} (step : ∀ v, (∀ u ∈ v.parts, P u) → P v) (v : Json) : P v :=
  step v fun u _ => by_parts step u
termination_by sizeOf v
decreasing_by exact part_smaller ‹_›

theorem lookup_self {members : Members} {m : RawText × Json} (member : m ∈ members) :
    (lookup m.1 members).isSome = true := by
  induction members with
  | nil => exact absurd member List.not_mem_nil
  | cons first rest ih =>
    rw [lookup_cons]
    split
    · rfl
    · rename_i other
      rcases List.mem_cons.mp member with rfl | later
      · exact absurd rfl other
      · exact ih later

theorem lookup_part {members : Members} {key : RawText} {v : Json} (found : lookup key members = some v) :
    v ∈ (Json.object members).parts := List.mem_map_of_mem (lookup_mem found)

-- One step of the comparison. Numbers and truth values go by their worth, and objects by what each key finds in them.
inductive Alike : Json → Json → Prop where
  | null : Alike .null .null
  | number {x : Decimal.Worth} (left : worth? v = some x) (right : worth? w = some x) : Alike v w
  | string (s : RawText) : Alike (.string s) (.string s)
  | array (items : List.Forall₂ (fun v w => agrees v w = true) xs ys) : Alike (.array xs) (.array ys)
  | object (found : ∀ key, Option.Rel (fun v w => agrees v w = true) (lookup key ms) (lookup key ns)) :
      Alike (.object ms) (.object ns)

theorem numbersAgree_exact {v w : Json} :
    numbersAgree v w = true ↔ ∃ x, worth? v = some x ∧ worth? w = some x := by
  unfold numbersAgree
  cases left : worth? v with
  | none => simp
  | some x =>
    cases right : worth? w with
    | none => simp
    | some y =>
      rw [beq_iff_eq]
      constructor
      · rintro rfl
        exact ⟨x, rfl, rfl⟩
      · rintro ⟨z, same, same'⟩
        cases same
        cases same'
        rfl

theorem itemsAgree_exact {xs ys : List Json} :
    itemsAgree xs ys = true ↔ List.Forall₂ (fun v w => agrees v w = true) xs ys := by
  induction xs generalizing ys with
  | nil => cases ys <;> simp [itemsAgree]
  | cons x xs ih =>
    cases ys with
    | nil => simp [itemsAgree]
    | cons y ys => rw [itemsAgree, Bool.and_eq_true, ih, List.forall₂_cons]

theorem found_exact {found : Option Json} {v : Json} :
    (match found with
      | some w => agrees v w
      | none => false) = true ↔ ∃ w, found = some w ∧ agrees v w = true := by
  cases found <;> simp

theorem membersAgree_exact {seen : List RawText} {rest members : Members} :
    membersAgree seen rest members = true ↔ ∀ key, key ∉ seen → ∀ v, lookup key rest = some v →
      ∃ w, lookup key members = some w ∧ agrees v w = true := by
  induction rest generalizing seen with
  | nil => simp [membersAgree]
  | cons m rest ih =>
    obtain ⟨k, u⟩ := m
    rw [membersAgree, Bool.and_eq_true, Bool.or_eq_true, List.contains_iff_mem, ih]
    refine (and_congr_left fun _ => or_congr_right found_exact).trans ?_
    constructor
    · rintro ⟨here, later⟩ key unseen v found
      rw [lookup_cons] at found
      split at found
      · rename_i hit
        subst hit
        cases found
        exact here.resolve_left unseen
      · rename_i other
        exact later key (by simp [unseen, Ne.symm other]) v found
    · intro every
      constructor
      · by_cases passed : k ∈ seen
        · exact .inl passed
        · exact .inr (every k passed u (by rw [lookup_cons, if_pos rfl]))
      · intro key unseen v found
        rw [List.mem_cons, not_or] at unseen
        exact every key unseen.2 v (by rw [lookup_cons, if_neg (Ne.symm unseen.1), found])

theorem agrees_object {ms ns : Members} : agrees (.object ms) (.object ns) = true ↔
    ∀ key, Option.Rel (fun v w => agrees v w = true) (lookup key ms) (lookup key ns) := by
  rw [agrees, Bool.and_eq_true, membersAgree_exact, List.all_eq_true]
  constructor
  · rintro ⟨there, back⟩ key
    cases left : lookup key ms with
    | some v =>
      obtain ⟨w, right, same⟩ := there key List.not_mem_nil v left
      rw [right]
      exact .some same
    | none =>
      cases right : lookup key ns with
      | none => exact .none
      | some w =>
        have present := back _ (lookup_mem right)
        simp [left] at present
  · intro found
    constructor
    · intro key _ v left
      have here := found key
      rw [left] at here
      cases right : lookup key ns with
      | none =>
        rw [right] at here
        cases here
      | some w =>
        rw [right] at here
        cases here with
        | some same => exact ⟨w, rfl, same⟩
    · intro n member
      have here := found n.1
      obtain ⟨w, right⟩ := Option.isSome_iff_exists.mp (lookup_self member)
      rw [right] at here
      cases left : lookup n.1 ms with
      | none =>
        rw [left] at here
        cases here
      | some v => rfl

theorem agrees_exact {v w : Json} : agrees v w = true ↔ Alike v w := by
  constructor
  · intro same
    cases v with
    | null =>
      cases w with
      | null => exact .null
      | _ => cases same
    | string s =>
      cases w with
      | string t =>
        rw [agrees, beq_iff_eq] at same
        exact same ▸ .string s
      | _ => cases same
    | array xs =>
      cases w with
      | array ys => exact .array (itemsAgree_exact.mp same)
      | _ => cases same
    | object ms =>
      cases w with
      | object ns => exact .object (agrees_object.mp same)
      | _ => cases same
    | bool _ | int _ | float _ =>
      rw [agrees] at same
      obtain ⟨x, left, right⟩ := numbersAgree_exact.mp same
      exact .number left right
  · intro alike
    cases alike with
    | null => rfl
    | string s => rw [agrees, beq_iff_eq]
    | array items => exact itemsAgree_exact.mpr items
    | object found => exact agrees_object.mpr found
    | number left right =>
      have same := numbersAgree_exact.mpr ⟨_, left, right⟩
      cases v with
      | bool _ | int _ | float _ => rwa [agrees]
      | _ => cases left

theorem sides_turned {R : α → β → Prop} {S : β → α → Prop} {xs : List α} {ys : List β} (sides : List.Forall₂ R xs ys)
    (turn : ∀ x ∈ xs, ∀ y, R x y → S y x) : List.Forall₂ S ys xs := by
  induction sides with
  | nil => exact .nil
  | cons first _ ih =>
    refine .cons (turn _ List.mem_cons_self _ first) (ih fun x later => ?_)
    exact turn x (List.mem_cons_of_mem _ later)

theorem sides_joined {R : α → β → Prop} {S : β → γ → Prop} {T : α → γ → Prop} {xs : List α} {ys : List β}
    {zs : List γ} (sides : List.Forall₂ R xs ys) (others : List.Forall₂ S ys zs)
    (join : ∀ x ∈ xs, ∀ y z, R x y → S y z → T x z) : List.Forall₂ T xs zs := by
  induction sides generalizing zs with
  | nil =>
    cases others
    exact .nil
  | cons first _ ih =>
    cases others with
    | cons second rest =>
      refine .cons (join _ List.mem_cons_self _ _ first second) (ih rest fun x later => ?_)
      exact join x (List.mem_cons_of_mem _ later)

theorem found_turned {R : α → β → Prop} {S : β → α → Prop} {a : Option α} {b : Option β} (found : Option.Rel R a b)
    (turn : ∀ x, a = some x → ∀ y, R x y → S y x) : Option.Rel S b a := by
  cases found with
  | none => exact .none
  | some first => exact .some (turn _ rfl _ first)

theorem found_joined {R : α → β → Prop} {S : β → γ → Prop} {T : α → γ → Prop} {a : Option α} {b : Option β}
    {c : Option γ} (found : Option.Rel R a b) (others : Option.Rel S b c)
    (join : ∀ x, a = some x → ∀ y z, R x y → S y z → T x z) : Option.Rel T a c := by
  cases found with
  | none =>
    cases others
    exact .none
  | some first =>
    cases others with
    | some second => exact .some (join _ rfl _ _ first second)

theorem agrees_refl (v : Json) : agrees v v = true := by
  induction v using by_parts with
  | step v ih =>
    apply agrees_exact.mpr
    cases v with
    | null => exact .null
    | bool _ | int _ | float _ => exact .number rfl rfl
    | string s => exact .string s
    | array items => exact .array (List.forall₂_same.mpr ih)
    | object members =>
      refine .object fun key => ?_
      cases found : lookup key members with
      | none => exact .none
      | some v => exact .some (ih v (lookup_part found))

theorem agrees_symm {v w : Json} (same : agrees v w = true) : agrees w v = true := by
  induction v using by_parts generalizing w with
  | step v ih =>
    apply agrees_exact.mpr
    cases agrees_exact.mp same with
    | null => exact .null
    | number left right => exact .number right left
    | string s => exact .string s
    | array items => exact .array (sides_turned items fun x member _ => ih x member)
    | object found => exact .object fun key => found_turned (found key) fun x left _ => ih x (lookup_part left)

theorem agrees_trans {u v w : Json} (first : agrees u v = true) (second : agrees v w = true) : agrees u w = true := by
  induction u using by_parts generalizing v w with
  | step u ih =>
    apply agrees_exact.mpr
    cases agrees_exact.mp first with
    | null =>
      cases agrees_exact.mp second with
      | null => exact .null
      | number left _ => cases left
    | string s =>
      cases agrees_exact.mp second with
      | string => exact .string s
      | number left _ => cases left
    | number left right =>
      cases agrees_exact.mp second with
      | number left' right' => exact .number left ((right.symm.trans left').symm ▸ right')
      | null | string | array | object => cases right
    | array items =>
      cases agrees_exact.mp second with
      | array others => exact .array (sides_joined items others fun x member _ _ => ih x member)
      | number left _ => cases left
    | object found =>
      cases agrees_exact.mp second with
      | object others =>
        exact .object fun key => found_joined (found key) (others key) fun x left _ _ => ih x (lookup_part left)
      | number left _ => cases left

end Cohort.Json
