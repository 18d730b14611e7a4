import Cohort.Proofs.Store.Sound

-- What one workspace holds, and the store that has nothing else. A look-up of the workspace finds the same in it,
-- also where the query names no workspace.
namespace Cohort

attribute [ext] Store

@[ext] structure Holdings where
  experiments : List Experiment
  variants : List Variant
  assignments : List Assignment

structure Holdings.Same (a b : Holdings) : Prop where
  experiments : ∀ e, e ∈ a.experiments ↔ e ∈ b.experiments
  variants : ∀ v, v ∈ a.variants ↔ v ∈ b.variants
  assignments : ∀ row, row ∈ a.assignments ↔ row ∈ b.assignments

theorem Holdings.Same.refl (a : Holdings) : a.Same a := ⟨fun _ => .rfl, fun _ => .rfl, fun _ => .rfl⟩

namespace Store

def owns (s : Store) (workspace experiment : String) : Bool :=
  s.experiments.any fun e => e.id = experiment && e.workspace = workspace

def holdings (s : Store) (workspace : String) : Holdings where
  experiments := s.experiments.filter (·.workspace = workspace)
  variants := s.variants.filter fun v => s.owns workspace v.experiment
  assignments := s.assignments.filter fun a => s.owns workspace a.experiment

-- As if there were no other workspace.
def only (s : Store) (workspace : String) : Store :=
  { s with
    experiments := (s.holdings workspace).experiments
    variants := (s.holdings workspace).variants
    assignments := (s.holdings workspace).assignments }

theorem owns_exact {s : Store} {workspace id : String} : s.owns workspace id = true ↔ s.Holds workspace id := by
  simp [owns, Holds]

theorem Holds.owns {s : Store} {workspace id : String} (held : s.Holds workspace id) : s.owns workspace id = true :=
  owns_exact.mpr held

section LookUps
variable {s : Store} {workspace : String}

theorem only_experiment? (id : String) : (s.only workspace).experiment? workspace id = s.experiment? workspace id := by
  apply find_inside
  intro e _ hit
  simp only [Bool.and_eq_true, decide_eq_true_eq] at hit
  simpa using hit.2

theorem only_experimentByKey? (key : String) :
    (s.only workspace).experimentByKey? workspace key = s.experimentByKey? workspace key := by
  apply find_inside
  intro e _ hit
  simp only [Bool.and_eq_true, decide_eq_true_eq] at hit
  simpa using hit.1

theorem only_list (f : Filter) : (s.only workspace).list workspace f = s.list workspace f := by
  unfold list
  apply congrArg
  apply filter_inside
  intro e _ hit
  simp only [Bool.and_eq_true, decide_eq_true_eq] at hit
  simpa using hit.1

theorem variants_inside {id : String} (held : s.Holds workspace id) :
    (s.only workspace).variants.filter (·.experiment = id) = s.variants.filter (·.experiment = id) := by
  apply filter_inside
  intro v _ hit
  rw [show v.experiment = id by simpa using hit]
  exact held.owns

theorem only_variantsOf {id : String} (held : s.Holds workspace id) :
    (s.only workspace).variantsOf id = s.variantsOf id := by
  rw [variantsOf, variants_inside held, variantsOf]

theorem only_nextPosition {id : String} (held : s.Holds workspace id) :
    (s.only workspace).nextPosition id = s.nextPosition id := by
  rw [nextPosition, variants_inside held, nextPosition]

theorem only_view {e : Experiment} (held : s.Holds workspace e.id) : (s.only workspace).view e = s.view e := by
  rw [view, only_variantsOf held, view]

theorem only_rowsOf {id : String} (held : s.Holds workspace id) : (s.only workspace).rowsOf id = s.rowsOf id := by
  apply filter_inside
  intro a _ hit
  rw [show a.experiment = id by simpa using hit]
  exact held.owns

theorem only_find? {id : String} (held : s.Holds workspace id) (subject : Subject) :
    (s.only workspace).find? id subject = s.find? id subject := by
  rw [find?, only_rowsOf held, find?]

-- Variants are looked up by their ids alone, which no two workspaces have in common.
theorem only_variant? (sound : s.Sound) {v : Variant} (present : v ∈ s.variants)
    (held : s.Holds workspace v.experiment) : (s.only workspace).variant? v.id = s.variant? v.id := by
  apply find_inside
  intro other there hit
  rw [sound.same_variant there present (by simpa using hit)]
  exact held.owns

end LookUps

-- What belongs to one workspace does not belong to another.

theorem Sound.foreign {s : Store} (sound : s.Sound) {workspace other id : String} (held : s.Holds workspace id)
    (apart : other ≠ workspace) (owned : s.owns other id = true) : False :=
  apart (sound.one_owner (owns_exact.mp owned) held)

theorem Sound.not_owned {s : Store} (sound : s.Sound) {workspace other id : String} (held : s.Holds workspace id)
    (apart : other ≠ workspace) : s.owns other id = false :=
  Bool.eq_false_iff.mpr (sound.foreign held apart)

end Store
end Cohort
