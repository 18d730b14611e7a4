import Cohort.Proofs.Acts.Catalogue
import Cohort.Proofs.Workspaces.Acts
import Cohort.Statistics

-- A service of the catalogue answers the same, and writes the same, whether other workspaces are there or not.
namespace Cohort

def Outcome.only (o : Outcome α) (workspace : String) : Outcome α := (o.1, o.2.only workspace)

namespace Store
variable {s : Store} {workspace : String} {now : Moment}

theorem only_insertExperiment (sound : s.Sound) (draft : ExperimentDraft) :
    (s.only workspace).draw.insertExperiment (draft.row s.nextId workspace now) =
      (s.draw.insertExperiment (draft.row s.nextId workspace now)).map (·.only workspace) := by
  have same : (s.only workspace).draw.experiments.any (sameKey (draft.row s.nextId workspace now)) =
      s.draw.experiments.any (sameKey (draft.row s.nextId workspace now)) := by
    apply any_inside
    intro e _ hit
    rw [sameKey, Bool.and_eq_true] at hit
    exact decide_eq_true (of_decide_eq_true hit.1).symm
  unfold insertExperiment
  rw [same, show (s.only workspace).draw.writable = s.draw.writable from rfl]
  split
  · rfl
  · split
    · rfl
    · split
      · rfl
      · exact congrArg Except.ok (Act.apply_only now sound (.create draft) trivial).symm

theorem only_insertVariant (sound : s.Sound) {id : String} (held : s.Holds workspace id) (draft : VariantDraft) :
    (s.only workspace).draw.insertVariant (draft.row s.nextId id (s.nextPosition id) now) =
      (s.draw.insertVariant (draft.row s.nextId id (s.nextPosition id) now)).map (·.only workspace) := by
  have same : (s.only workspace).draw.variants.any (sameVariantKey (draft.row s.nextId id (s.nextPosition id) now)) =
      s.draw.variants.any (sameVariantKey (draft.row s.nextId id (s.nextPosition id) now)) := by
    apply any_inside
    intro v _ hit
    rw [sameVariantKey, Bool.and_eq_true] at hit
    have own : id = v.experiment := of_decide_eq_true hit.1
    exact own ▸ held.owns
  have added := Act.apply_only now sound (.addVariant id draft) held
  rw [Act.apply, Act.apply, only_nextPosition held] at added
  unfold insertVariant
  rw [same, show (s.only workspace).draw.writable = s.draw.writable from rfl]
  split
  · rfl
  · split
    · rfl
    · split
      · rfl
      · exact congrArg Except.ok added.symm

theorem only_updateExperiment (sound : s.Sound) {e : Experiment} (present : e ∈ s.experiments)
    (own : e.workspace = workspace) (r : ExperimentRevision) : (s.only workspace).updateExperiment now e r =
      (s.updateExperiment now e r).map fun answer => (answer.1, answer.2.only workspace) := by
  have same : (s.only workspace).experiments.any (fun other => other.id ≠ e.id && sameKey (r.applied now e) other) =
      s.experiments.any (fun other => other.id ≠ e.id && sameKey (r.applied now e) other) := by
    apply any_inside
    intro other _ hit
    rw [Bool.and_eq_true, sameKey, Bool.and_eq_true] at hit
    have whose : e.workspace = other.workspace := of_decide_eq_true hit.2.1
    exact decide_eq_true (whose.symm.trans own)
  have put := Act.apply_only now sound (.revise e r) ⟨present, own⟩
  unfold updateExperiment
  split
  · rfl
  · simp only
    rw [same, show (s.only workspace).writable = s.writable from rfl]
    split
    · rfl
    · split
      · rfl
      · split
        · rfl
        · exact congrArg (fun next => Except.ok (r.applied now e, next)) put.symm

theorem updated_holds {next : Store} {e row : Experiment} (present : e ∈ s.experiments) {r : ExperimentRevision}
    (updated : s.updateExperiment now e r = .ok (row, next)) : next.Holds e.workspace row.id := by
  rcases updateExperiment_ok updated with ⟨_, rfl, rfl⟩ | ⟨rfl, rfl⟩
  · exact ⟨row, present, rfl, rfl⟩
  · exact ⟨r.applied now e, List.mem_map.mpr ⟨e, present, if_pos rfl⟩, rfl, rfl⟩

theorem only_updateVariant (sound : s.Sound) {v : Variant} (present : v ∈ s.variants)
    (held : s.Holds workspace v.experiment) (changes : VariantChanges) :
    (s.only workspace).updateVariant now v changes.revision =
      (s.updateVariant now v changes.revision).map fun answer => (answer.1, answer.2.only workspace) := by
  have put := Act.apply_only now sound (.reviseVariant v changes) ⟨present, held⟩
  unfold updateVariant
  rw [show (s.only workspace).writable = s.writable from rfl]
  split
  · rfl
  · simp only
    split
    · rfl
    · split
      · rfl
      · exact congrArg (fun next => Except.ok (changes.revision.applied now v, next)) put.symm

theorem only_removeVariant (now : Moment) (sound : s.Sound) {v : Variant} (present : v ∈ s.variants)
    (held : s.Holds workspace v.experiment) :
    (s.only workspace).removeVariant v.id = (s.removeVariant v.id).map (·.only workspace) := by
  have removed := Act.apply_only now sound (.removeVariant v.id) ⟨v, present, rfl, held⟩
  unfold removeVariant
  rw [show (s.only workspace).writable = s.writable from rfl]
  split
  · rfl
  · exact congrArg Except.ok removed.symm

end Store

namespace Catalogue
variable {s : Store} {workspace : String} {now : Moment}

theorem get_only (s : Store) (workspace id : String) : get (s.only workspace) workspace id = get s workspace id := by
  unfold get Store.view?
  rw [Store.only_experiment?]
  cases found : s.experiment? workspace id with
  | none => rfl
  | some e =>
    obtain ⟨present, _, own⟩ := Store.experiment?_some found
    simp only [Option.map_some]
    rw [Store.only_view ⟨e, present, rfl, own⟩]

theorem getByKey_only (s : Store) (workspace key : String) :
    getByKey (s.only workspace) workspace key = getByKey s workspace key := by
  unfold getByKey Store.viewByKey?
  rw [Store.only_experimentByKey?]
  cases found : s.experimentByKey? workspace key with
  | none => rfl
  | some e =>
    obtain ⟨present, own, _⟩ := Store.experimentByKey?_some found
    simp only [Option.map_some]
    rw [Store.only_view ⟨e, present, rfl, own⟩]

theorem list_only (s : Store) (workspace : String) (f : Store.Filter) :
    list (s.only workspace) workspace f = list s workspace f := by
  unfold list
  rw [Store.only_list]
  refine List.map_congr_left fun e listed => ?_
  obtain ⟨present, own, _⟩ := Store.mem_list.mp listed
  exact Store.only_view ⟨e, present, rfl, own⟩

theorem create_only (sound : s.Sound) (draft : ExperimentDraft) :
    create (s.only workspace) workspace now draft = (create s workspace now draft).only workspace := by
  unfold create
  rw [Store.only_experimentByKey?]
  split
  · rfl
  · have inserted : (s.only workspace).draw.insertExperiment (draft.row s.nextId workspace now) = _ :=
      Store.only_insertExperiment sound draft
    unfold insert
    simp only [show (s.only workspace).nextId = s.nextId from rfl, inserted]
    cases made : s.draw.insertExperiment (draft.row s.nextId workspace now) with
    | error fault => cases fault <;> rfl
    | ok next =>
      have member : draft.row s.nextId workspace now ∈ next.experiments := by
        rw [Store.insertExperiment_ok made]
        exact List.mem_append_right _ List.mem_cons_self
      have viewed : (next.only workspace).view (draft.row s.nextId workspace now) =
        next.view (draft.row s.nextId workspace now) := Store.only_view ⟨_, member, rfl, rfl⟩
      simp only [Except.map]
      rw [viewed]
      rfl

theorem insertVariant_only (sound : s.Sound) {id : String} (held : s.Holds workspace id) (draft : VariantDraft) :
    insertVariant (s.only workspace) now id draft = (insertVariant s now id draft).only workspace := by
  have inserted : (s.only workspace).draw.insertVariant (draft.row s.nextId id (s.nextPosition id) now) = _ :=
    Store.only_insertVariant sound held draft
  unfold insertVariant
  simp only [show (s.only workspace).nextId = s.nextId from rfl, Store.only_nextPosition held, inserted]
  cases made : s.draw.insertVariant (draft.row s.nextId id (s.nextPosition id) now) with
  | error fault => cases fault <;> rfl
  | ok next => rfl

theorem addVariant_only (sound : s.Sound) (id : String) (draft : VariantDraft) :
    addVariant (s.only workspace) workspace now id draft = (addVariant s workspace now id draft).only workspace := by
  unfold addVariant
  rw [get_only]
  cases found : get s workspace id with
  | error fault => rfl
  | ok v =>
    obtain ⟨e, present, _, own, rfl⟩ := get_ok found
    simp only
    split
    · rfl
    · split
      · rfl
      · exact insertVariant_only sound ⟨e, present, rfl, own⟩ draft

theorem revise_only (sound : s.Sound) (id : String) (plan : ExperimentView → Except Fault ExperimentRevision) :
    revise (s.only workspace) workspace now id plan = (revise s workspace now id plan).only workspace := by
  unfold revise
  rw [get_only]
  cases found : get s workspace id with
  | error fault => rfl
  | ok v =>
    obtain ⟨e, present, _, own, rfl⟩ := get_ok found
    simp only [bind, Except.bind]
    cases planned : plan (s.view e) with
    | error fault => rfl
    | ok r =>
      simp only
      have same : (s.only workspace).updateExperiment now (s.view e).experiment r = _ :=
        Store.only_updateExperiment sound present own r
      rw [same]
      cases updated : s.updateExperiment now (s.view e).experiment r with
      | error fault =>
        have refused : s.updateExperiment now e r = .error fault := updated
        rw [refused]
        rfl
      | ok answer =>
        obtain ⟨row, next⟩ := answer
        have written : s.updateExperiment now e r = .ok (row, next) := updated
        have held : next.Holds workspace row.id := own ▸ Store.updated_holds present written
        rw [written]
        simp only [Except.map]
        rw [Store.only_view held]
        rfl

theorem updateVariant_only (sound : s.Sound) (id variant : String) (changes : VariantChanges) :
    updateVariant (s.only workspace) workspace now id variant changes =
      (updateVariant s workspace now id variant changes).only workspace := by
  unfold updateVariant
  rw [get_only]
  cases found : get s workspace id with
  | error fault => rfl
  | ok view =>
    obtain ⟨e, present, _, own, rfl⟩ := get_ok found
    simp only [bind, Except.bind]
    cases mine : ownVariant (s.view e) variant with
    | error fault => rfl
    | ok v =>
      obtain ⟨there, belongs, _⟩ := ownVariant_ok mine
      simp only
      rw [Store.only_updateVariant sound there ⟨e, present, belongs.symm, own⟩]
      cases updated : s.updateVariant now v changes.revision with
      | error fault => rfl
      | ok answer => rfl

theorem deleteVariant_only (sound : s.Sound) (id variant : String) :
    deleteVariant (s.only workspace) workspace id variant =
      (deleteVariant s workspace id variant).only workspace := by
  unfold deleteVariant
  rw [get_only]
  cases found : get s workspace id with
  | error fault => rfl
  | ok view =>
    obtain ⟨e, present, _, own, rfl⟩ := get_ok found
    simp only [bind, Except.bind]
    split
    · rfl
    · cases mine : ownVariant (s.view e) variant with
      | error fault => rfl
      | ok v =>
        obtain ⟨there, belongs, _⟩ := ownVariant_ok mine
        simp only
        rw [Store.only_removeVariant ⟨0⟩ sound there ⟨e, present, belongs.symm, own⟩]
        cases removed : s.removeVariant v.id with
        | error fault => rfl
        | ok next => rfl

end Catalogue

theorem Statistics.of_only (s : Store) (workspace id : String) :
    Statistics.of (s.only workspace) workspace id = Statistics.of s workspace id := by
  unfold Statistics.of
  rw [Catalogue.get_only]
  cases found : Catalogue.get s workspace id with
  | error fault => rfl
  | ok v =>
    obtain ⟨e, present, named, own, rfl⟩ := Catalogue.get_ok found
    simp only [bind, Except.bind]
    rw [Store.only_rowsOf ⟨e, present, named, own⟩]

end Cohort
