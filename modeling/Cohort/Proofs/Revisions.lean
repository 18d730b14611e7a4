import Cohort.Proofs.Winners

-- The row that a planned update of an experiment leaves, and that every such update succeeds.
namespace Cohort

namespace ExperimentRevision

-- A row in which nothing changes is not written, and keeps its time.
def left (r : ExperimentRevision) (now : Moment) (e : Experiment) : Experiment :=
  if r.alters e then r.applied now e else e

variable (r : ExperimentRevision) (now : Moment) (e : Experiment)

theorem left_row : r.left now e = { r.applied now e with updatedAt := (r.left now e).updatedAt } := by
  unfold left
  cases same : r.alters e with
  | true => rfl
  | false =>
    rw [unaltered same]
    rfl

-- Who the experiment is does not change with what is written.
theorem left_id : (r.left now e).id = e.id := by
  rw [left_row]
  rfl

theorem left_workspace : (r.left now e).workspace = e.workspace := by
  rw [left_row]
  rfl

theorem left_plain (plain : e.strays = {}) : (r.left now e).strays = {} := by
  rw [left_row]
  show (r.applied now e).strays = {}
  exact applied_plain plain

end ExperimentRevision

namespace Store
variable {s : Store} {e : Experiment}

theorem Sound.put_self (sound : s.Sound) (present : e ∈ s.experiments) : s.putExperiment e = s := by
  have same : s.experiments.map (fun x => if x.id = e.id then e else x) = s.experiments := by
    refine (List.map_congr_left fun x there => ?_).trans (List.map_id _)
    split
    · rename_i hit
      exact sound.same_experiment present there hit.symm
    · rfl
  rw [putExperiment, same]

theorem Sound.updates_left (sound : s.Sound) (present : e ∈ s.experiments) {now : Moment} {r : ExperimentRevision}
    (plan : Plan s now e r) :
    s.updateExperiment now e r = .ok (r.left now e, s.putExperiment (r.left now e)) := by
  rw [sound.updates present plan, ExperimentRevision.left]
  split
  · rfl
  · rw [sound.put_self present]

theorem put_row {row : Experiment} (present : e ∈ s.experiments) (same : row.id = e.id) :
    row ∈ (s.putExperiment row).experiments := List.mem_map.mpr ⟨e, present, if_pos same.symm⟩

theorem mem_put {row x : Experiment} (present : e ∈ s.experiments) (same : row.id = e.id) :
    x ∈ (s.putExperiment row).experiments ↔ x = row ∨ x ∈ s.experiments ∧ x.id ≠ e.id := by
  constructor
  · intro there
    obtain ⟨b, before, rfl⟩ := List.mem_map.mp there
    split
    · exact .inl rfl
    · rename_i other
      exact .inr ⟨before, same ▸ other⟩
  · rintro (rfl | ⟨before, other⟩)
    · exact put_row present same
    · exact List.mem_map.mpr ⟨x, before, if_neg (same ▸ other)⟩

end Store

namespace Catalogue
variable {s : Store} {now : Moment} {e : Experiment} {r : ExperimentRevision}
  {plan : ExperimentView → Except Fault ExperimentRevision}

theorem revise_left (sound : s.Sound) (present : e ∈ s.experiments) (read : plan (s.view e) = .ok r)
    (planned : Plan s now e r) : revise s e.workspace now e.id plan =
      (.ok ⟨r.left now e, s.variantsOf e.id⟩, s.putExperiment (r.left now e)) := by
  have written := sound.updates_left present planned
  simp only [revise, sound.viewed present, bind, Except.bind, read]
  rw [show (s.view e).experiment = e from rfl, written]
  simp only [pure, Except.pure, Outcome.attempt_ok, Store.view, ExperimentRevision.left_id]
  rfl

theorem Revises.left {may : Act → Prop} {workspace id : String} {o : Outcome ExperimentView} {answer : Answer}
    (revises : Revises may workspace id now s o) (sound : s.Sound) (answered : (o.map .experiment).1 = .ok answer) :
    ∃ e ∈ s.experiments, e.id = id ∧ e.workspace = workspace ∧ ∃ r, may (.revise e r) ∧ Plan s now e r ∧
      o.2 = s.putExperiment (r.left now e) := by
  cases revises with
  | refused fault => cases answered
  | @updated e _ _ r present named own permitted plan written =>
    rw [sound.updates_left present plan] at written
    cases written
    exact ⟨e, present, named, own, r, permitted, plan, rfl⟩

end Catalogue

namespace Operation
variable {s : Store} {workspace : String} {now : Moment} {operation : Operation}

def revised? : Operation → Option String
  | .update id _ | .start id | .pause id | .conclude id _ | .archive id => some id
  | _ => none

theorem run_revises (sound : s.Sound) {id : String} (revised : operation.revised? = some id) {answer : Answer}
    (answered : (operation.run workspace now s).1 = .ok answer) :
    ∃ e ∈ s.experiments, e.id = id ∧ e.workspace = workspace ∧ ∃ r, operation.Permits (.revise e r) ∧ Plan s now e r ∧
      (operation.run workspace now s).2 = s.putExperiment (r.left now e) := by
  cases operation with
  | update _ changes =>
    cases revised
    exact (Catalogue.update_revises id changes).left sound answered
  | start _ =>
    cases revised
    exact (Catalogue.start_revises id).left sound answered
  | pause _ =>
    cases revised
    exact (Catalogue.pause_revises id).left sound answered
  | conclude _ winner =>
    cases revised
    exact (Catalogue.conclude_revises id winner).left sound answered
  | archive _ =>
    cases revised
    exact (Catalogue.archive_revises id).left sound answered
  | _ => cases revised

end Operation
end Cohort
