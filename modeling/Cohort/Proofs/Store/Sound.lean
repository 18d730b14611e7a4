import Cohort.Proofs.Acts.Basic

-- What holds of every store that services have written: ids are unique, rows refer to what is there, and no row
-- of an experiment shares an identifier with another.
namespace Cohort

structure Assignment.Tidy (a : Assignment) : Prop where
  key : a.subject.key = some a.subjectKey
  unseen : a.exposures = 0 ↔ a.firstExposure = none
  together : a.firstExposure = none ↔ a.lastExposure = none
  drawn : a.source = .auto → 1 ≤ a.exposures
  unconverted : a.convertedAt = none → a.value = none ∧ a.conversionMetadata = .null

namespace Store

structure Refers (s : Store) (a : Assignment) : Prop where
  experiment : s.Holds a.workspace a.experiment
  variant : s.Owns a.experiment a.variant

structure Sound (s : Store) : Prop where
  writable : s.writable = true
  experimentIds : (s.experiments.map (·.id)).Nodup
  experimentsIssued : ∀ e ∈ s.experiments, s.Issued e.id
  experimentKeys : ∀ a ∈ s.experiments, ∀ b ∈ s.experiments, a.workspace = b.workspace → a.key = b.key → a.id = b.id
  plain : ∀ e ∈ s.experiments, e.strays = {}
  enough : ∀ e ∈ s.experiments, e.status ≠ .draft → e.status ≠ .archived →
    Fault.leastVariants ≤ (s.variantsOf e.id).length
  variantIds : (s.variants.map (·.id)).Nodup
  variantsIssued : ∀ v ∈ s.variants, s.Issued v.id
  owned : ∀ v ∈ s.variants, ∃ e ∈ s.experiments, e.id = v.experiment
  shares : ∀ e ∈ s.experiments, 0 ≤ e.traffic ∧ e.traffic ≤ 100
  weights : ∀ v ∈ s.variants, 1 ≤ v.weight
  rowIds : (s.assignments.map (·.id)).Nodup
  rowsIssued : ∀ a ∈ s.assignments, s.Issued a.id
  refers : ∀ a ∈ s.assignments, s.Refers a
  tidy : ∀ a ∈ s.assignments, a.Tidy
  apart : ∀ a ∈ s.assignments, ∀ b ∈ s.assignments, a.id ≠ b.id → a.clashes b = false

theorem empty_sound : Sound .empty := by
  constructor <;> simp [empty]

namespace Sound
variable {s : Store}

theorem same_experiment (sound : s.Sound) {a b : Experiment} (first : a ∈ s.experiments)
    (second : b ∈ s.experiments) (same : a.id = b.id) : a = b :=
  unique_row sound.experimentIds first second same

theorem same_variant (sound : s.Sound) {a b : Variant} (first : a ∈ s.variants) (second : b ∈ s.variants)
    (same : a.id = b.id) : a = b :=
  unique_row sound.variantIds first second same

theorem same_row (sound : s.Sound) {a b : Assignment} (first : a ∈ s.assignments) (second : b ∈ s.assignments)
    (same : a.id = b.id) : a = b :=
  unique_row sound.rowIds first second same

theorem same_key (sound : s.Sound) {a b : Experiment} (first : a ∈ s.experiments) (second : b ∈ s.experiments)
    (workspace : a.workspace = b.workspace) (key : a.key = b.key) : a = b :=
  sound.same_experiment first second (sound.experimentKeys a first b second workspace key)

theorem one_owner (sound : s.Sound) {workspace other id : String} (held : s.Holds workspace id)
    (also : s.Holds other id) : workspace = other := by
  obtain ⟨e, present, named, own⟩ := held
  obtain ⟨x, there, same, whose⟩ := also
  rw [← own, ← whose, sound.same_experiment present there (named.trans same.symm)]

theorem draw (sound : s.Sound) : s.draw.Sound := by
  have issued {id : String} (old : s.Issued id) : s.draw.Issued id := old.mono (Nat.le_succ _)
  exact { sound with
    experimentsIssued := fun e present => issued (sound.experimentsIssued e present)
    variantsIssued := fun v present => issued (sound.variantsIssued v present)
    rowsIssued := fun a present => issued (sound.rowsIssued a present)
    refers := fun a present => ⟨(sound.refers a present).experiment, (sound.refers a present).variant⟩ }

end Sound
end Store
end Cohort
