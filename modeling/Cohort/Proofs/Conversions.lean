import Cohort.Proofs.Chronicle

-- A row converts once. Of all the calls that report conversions of it at the same time one finds it waiting, and what
-- that call reported is what the row shows for as long as it is there.
namespace Cohort

namespace Decimal

theorem oddPart_ne_zero (fuel : Nat) {n : Nat} (filled : n ≠ 0) : (oddPart fuel n).1 ≠ 0 := by
  induction fuel generalizing n with
  | zero => exact filled
  | succ fuel ih =>
    unfold oddPart
    split
    · rename_i even
      exact ih (by omega)
    · exact filled

theorem scaled_zero {negative : Bool} {n : Nat} {twos e : Int} (zero : scaled negative n twos = .finite 0 e) :
    scaled negative n twos = .finite 0 0 := by
  unfold scaled at zero ⊢
  split
  · rfl
  · rename_i filled
    have odd := oddPart_ne_zero (n.log2 + 1) filled
    rw [if_neg filled] at zero
    simp only [Worth.finite.injEq] at zero
    split at zero <;> omega

theorem Worth.ofFloat_zero {x : Float} {e : Int} (zero : ofFloat x = .finite 0 e) : ofFloat x = .finite 0 0 := by
  simp only [ofFloat] at zero ⊢
  split at zero
  · split at zero <;> cases zero
  · rename_i usual
    rw [if_neg usual]
    exact scaled_zero zero

end Decimal

namespace Store

def Keeps : Option Float → Option Float → Prop
  | none, stored => stored = none
  | some x, stored =>
    if Decimal.isNaN x then stored = none
    else ∃ y, stored = some y ∧ Decimal.Worth.ofFloat y = Decimal.Worth.ofFloat x

theorem storedValue_keeps (given : Option Float) : Keeps given (storedValue given) := by
  cases given with
  | none => rfl
  | some x =>
    cases worth : Decimal.Worth.ofFloat x with
    | nan => simp [storedValue, Keeps, Decimal.isNaN, worth]
    | infinite negative => simp [storedValue, Keeps, Decimal.isNaN, worth]
    | finite odd twos =>
      by_cases zero : odd = 0
      · subst zero
        have nothing : Decimal.Worth.ofFloat 0.0 = .finite 0 0 := by decide +kernel
        simp [storedValue, Keeps, Decimal.isNaN, nothing, Decimal.Worth.ofFloat_zero worth]
      · simp [storedValue, Keeps, Decimal.isNaN, zero, worth]

end Store

-- The row for which a call was answered that it has recorded something, when that was, and what the call reported.
structure Credit where
  row : String
  time : Moment
  report : ConversionReport

structure Assignment.Bears (a : Assignment) (c : Credit) : Prop where
  time : a.convertedAt = some c.time
  value : Store.Keeps c.report.value a.value
  metadata : a.conversionMetadata = Json.ofMembers c.report.metadata

namespace Scene

def recorded? (scene : Scene) (now : Moment) : Move → Option Bool
  | .perform workspace (.convert key report) =>
    match (Operation.run workspace now scene.store (.convert key report)).1 with
    | .ok (.recorded recorded) => some recorded
    | _ => none
  | .turn index =>
    match scene.pending[index]?, (scene.turn now index).pending[index]? with
    | some (.report _ (.settled _)), _ => none
    | some (.report _ _), some (.report _ (.settled (.ok recorded))) => some recorded
    | _, _ => none
  | _ => none

def aim? (scene : Scene) (now : Moment) : Move → Option (String × ConversionReport)
  | .perform workspace (.convert key report) =>
    match Conversion.Notice.look ⟨workspace, now, report⟩ key scene.store with
    | .ok (some row) => some (row, report)
    | _ => none
  | .turn index =>
    match scene.pending[index]? with
    | some (.report notice (.marking row)) => some (row, notice.report)
    | _ => none
  | _ => none

def credits (scene : Scene) (now : Moment) (move : Move) : List Credit :=
  match scene.recorded? now move, scene.aim? now move with
  | some true, some (row, report) => [⟨row, now, report⟩]
  | _, _ => []

end Scene

namespace Conversion.Notice
variable {s : Store} {row : String}

theorem mark_waiting (notice : Notice) (writable : s.writable = true)
    (waits : ∃ a ∈ s.assignments, Store.awaits row a = true) : notice.mark row s =
      (.ok true, (Act.convert row notice.report.value (Json.ofMembers notice.report.metadata)).apply
        notice.workspace notice.now s) := by
  unfold mark Store.markConverted
  rw [if_neg (by simp [writable]), Outcome.attempt_ok, List.any_eq_true.mpr waits]
  rfl

theorem record_aimless {notice : Notice} {key : String} (looked : notice.look key s = .ok none) :
    record notice key s = (.ok false, s) := by
  simp only [record, recordAmid, looked]

theorem record_aimed {notice : Notice} {key : String} (looked : notice.look key s = .ok (some row)) :
    record notice key s = notice.mark row s := by
  simp only [record, recordAmid, looked]

end Conversion.Notice

def Assignment.conversion (a : Assignment) : Option Moment × Option Float × Json :=
  (a.convertedAt, a.value, a.conversionMetadata)

def Credit.conversion (c : Credit) : Option Moment × Option Float × Json :=
  (some c.time, Store.storedValue c.report.value, Json.ofMembers c.report.metadata)

theorem Assignment.bears {a : Assignment} {c : Credit} (same : a.conversion = c.conversion) : a.Bears c := by
  simp only [Assignment.conversion, Credit.conversion, Prod.mk.injEq] at same
  obtain ⟨time, value, metadata⟩ := same
  exact ⟨time, value ▸ Store.storedValue_keeps c.report.value, metadata⟩

-- No row has two credits, a row that is there shows what it was credited with, and it shows nothing without a credit.
structure Store.Accounts (s : Store) (credits : List Credit) : Prop where
  once : (credits.map (·.row)).Nodup
  issued : ∀ c ∈ credits, s.Issued c.row
  shown : ∀ c ∈ credits, ∀ a ∈ s.assignments, a.id = c.row → a.conversion = c.conversion
  credited : ∀ a ∈ s.assignments, a.convertedAt ≠ none → ∃ c ∈ credits, c.row = a.id

def Act.Converts : Act → Prop
  | .convert _ _ _ => True
  | _ => False

namespace Act
variable {workspace : String} {now : Moment} {s : Store} {act : Act}

-- Conversions are changed by no other act, and a row that is added has not converted.
theorem conversion_origin (other : ¬ act.Converts) {a : Assignment}
    (present : a ∈ (act.apply workspace now s).assignments) :
    (∃ b ∈ s.assignments, a.id = b.id ∧ a.conversion = b.conversion) ∨ a.id = s.nextId ∧ a.convertedAt = none := by
  rcases row_becomes present with ⟨b, old, becomes⟩ | adds
  · refine .inl ⟨b, old, ?_⟩
    cases becomes with
    | same | exposed => exact ⟨rfl, rfl⟩
    | converted => exact absurd trivial other
  · refine .inr ⟨adds.fresh.1, ?_⟩
    cases adds with
    | drawn | pinned => rfl

theorem apply_accounts {credits : List Credit} (accounts : s.Accounts credits) (other : ¬ act.Converts) :
    (act.apply workspace now s).Accounts credits where
  once := accounts.once
  issued := fun c member => (accounts.issued c member).mono (drawn_grows workspace now s act)
  shown := by
    intro c member a present hit
    rcases conversion_origin other present with ⟨b, old, same, shown⟩ | ⟨fresh, _⟩
    · exact shown.trans (accounts.shown c member b old (same.symm.trans hit))
    · exact absurd (hit.symm.trans fresh) (accounts.issued c member).ne_next
  credited := by
    intro a present converted
    rcases conversion_origin other present with ⟨b, old, same, shown⟩ | ⟨_, none⟩
    · have time : a.convertedAt = b.convertedAt := congrArg Prod.fst shown
      obtain ⟨c, member, hit⟩ := accounts.credited b old (time ▸ converted)
      exact ⟨c, member, hit.trans same.symm⟩
    · exact absurd none converted

theorem Commits.accounts {may : Act → Prop} {next : Store} {credits : List Credit}
    (committed : Commits may workspace now s next) (others : ∀ act, may act → ¬ act.Converts)
    (accounts : s.Accounts credits) : next.Accounts credits := by
  induction committed with
  | nothing => exact accounts
  | step _ permitted _ ih => exact apply_accounts ih (others _ permitted)

end Act

theorem Store.awaits_exact {row : String} {a : Assignment} :
    awaits row a = true ↔ a.id = row ∧ a.convertedAt = none := by
  simp [awaits]

-- A row that waits has no credit yet, and gets the one of the call that finds it waiting.
theorem Store.Accounts.marked {s : Store} {credits : List Credit} (accounts : s.Accounts credits) (c : Credit)
    (issued : s.Issued c.row) (waits : ∃ a ∈ s.assignments, awaits c.row a = true) (workspace : String) :
    ((Act.convert c.row c.report.value (Json.ofMembers c.report.metadata)).apply workspace c.time s).Accounts
      (credits ++ [c]) := by
  obtain ⟨first, there, waiting⟩ := waits
  have uncredited : ∀ other ∈ credits, other.row ≠ c.row := by
    intro other member same
    obtain ⟨hit, none⟩ := awaits_exact.mp waiting
    have time := congrArg Prod.fst (accounts.shown other member first there (hit.trans same.symm))
    cases none.symm.trans time
  refine ⟨?_, all_added accounts.issued issued, all_added ?_ ?_, ?_⟩
  · rw [List.map_append, List.nodup_append]
    refine ⟨accounts.once, by simp, ?_⟩
    intro row old other new
    obtain ⟨before, member, rfl⟩ := List.mem_map.mp old
    rw [List.mem_singleton.mp new]
    exact uncredited before member
  · intro other member a present hit
    obtain ⟨b, old, rfl⟩ := List.mem_map.mp present
    by_cases waiting : awaits c.row b = true
    · rw [if_pos waiting] at hit
      exact absurd (hit.symm.trans (awaits_exact.mp waiting).1) (uncredited other member)
    · rw [if_neg waiting] at hit ⊢
      exact accounts.shown other member b old hit
  · intro a present hit
    obtain ⟨b, old, rfl⟩ := List.mem_map.mp present
    by_cases waiting : awaits c.row b = true
    · rw [if_pos waiting]
      rfl
    · rw [if_neg waiting] at hit
      have converted : b.convertedAt ≠ none := fun none => waiting (awaits_exact.mpr ⟨hit, none⟩)
      obtain ⟨other, member, same⟩ := accounts.credited b old converted
      exact absurd (same.trans hit) (uncredited other member)
  · intro a present converted
    obtain ⟨b, old, rfl⟩ := List.mem_map.mp present
    by_cases waiting : awaits c.row b = true
    · rw [if_pos waiting]
      exact ⟨c, List.mem_append_right _ (List.mem_singleton_self c), (awaits_exact.mp waiting).1.symm⟩
    · rw [if_neg waiting] at converted ⊢
      obtain ⟨other, member, same⟩ := accounts.credited b old converted
      exact ⟨other, List.mem_append_left _ member, same⟩

namespace Scene
variable {scene : Scene}

end Scene

end Cohort
