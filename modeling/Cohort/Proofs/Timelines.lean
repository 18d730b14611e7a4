import Cohort.Proofs.Acts.Accepted
import Cohort.Proofs.Chronicle
import Cohort.Proofs.Updates
import Cohort.Proofs.Verdicts

-- When an experiment starts and ends, as far as no update says so: as it was created, or else as it was started and
-- concluded, and for good as soon as it is known.
namespace Cohort

inductive Stamp where
  | created (startAt endAt : Option Moment)
  | started (now : Moment)
  | concluded (now : Moment)

namespace Stamp

def start? : Stamp → Option Moment
  | .started now => some now
  | _ => none

def conclusion? : Stamp → Option Moment
  | .concluded now => some now
  | _ => none

def firstStart (stamps : List Stamp) : Option Moment := stamps.findSome? start?

def firstConclusion (stamps : List Stamp) : Option Moment := stamps.findSome? conclusion?

theorem firstStart_append (stamps told : List Stamp) :
    firstStart (stamps ++ told) = (firstStart stamps).or (firstStart told) := List.findSome?_append

theorem firstConclusion_append (stamps told : List Stamp) :
    firstConclusion (stamps ++ told) = (firstConclusion stamps).or (firstConclusion told) := List.findSome?_append

end Stamp

open Stamp

namespace Operation

def Retimes : Operation → Prop
  | .update _ changes => changes.startAt ≠ none ∨ changes.endAt ≠ none
  | _ => False

def stamps (now : Moment) : Operation → List Stamp
  | .start _ => [.started now]
  | .conclude _ _ => [.concluded now]
  | _ => []

def stampsOf (id : String) (now : Moment) : Operation → Answer → List Stamp
  | .create draft, .experiment view =>
    if view.experiment.id = id then [.created (draft.startAt.map (·.wall)) (draft.endAt.map (·.wall))] else []
  | operation, _ => if operation.revised? = some id then operation.stamps now else []

end Operation

def Scene.stampsOf (id : String) (scene : Scene) (now : Moment) : Move → List Stamp
  | .perform workspace operation =>
    match (operation.run workspace now scene.store).1 with
    | .ok answer => operation.stampsOf id now answer
    | .error _ => []
  | _ => []

def Move.Retimes (id : String) : Move → Prop
  | .perform _ operation => operation.revised? = some id ∧ operation.Retimes
  | _ => False

-- The experiment shows the times that it was given and those that have been told since.
structure Experiment.Dates (e : Experiment) (startAt endAt : Option Moment) (told : List Stamp) : Prop where
  startAt : e.startAt = startAt.or (firstStart told)
  concludedAt : e.concludedAt = firstConclusion told
  endAt : e.endAt = endAt.or (firstConclusion told)
  ended : firstConclusion told ≠ none → e.status = .concluded ∨ e.status = .archived

namespace Experiment.Dates
variable {x y : Experiment} {startAt endAt : Option Moment} {told : List Stamp}

theorem alike (dates : y.Dates startAt endAt told) (same : x.Alike y) : x.Dates startAt endAt told := by
  cases same with
  | touched _ _ _ => exact ⟨dates.startAt, dates.concludedAt, dates.endAt, dates.ended⟩

theorem unconcluded (dates : x.Dates startAt endAt told) {action : Action}
    (allowed : Lifecycle.allows action x.status = true) (other : action ≠ .archive) : firstConclusion told = none := by
  by_contra concluded
  exact other (Lifecycle.ended_allows (dates.ended concluded) allowed)

-- What is there stays as it is, whatever is told later.
theorem settled (dates : x.Dates startAt endAt told) {later : List Stamp} (next : y.Dates startAt endAt (told ++ later)) :
    (x.startAt.isSome → y.startAt = x.startAt) ∧ (x.concludedAt.isSome → y.concludedAt = x.concludedAt) ∧
      (x.endAt.isSome → y.endAt = x.endAt) := by
  rw [next.startAt, next.concludedAt, next.endAt, firstStart_append, firstConclusion_append, ← Option.or_assoc,
    ← Option.or_assoc, ← dates.startAt, ← dates.endAt, ← dates.concludedAt]
  exact ⟨Option.or_of_isSome, Option.or_of_isSome, Option.or_of_isSome⟩

end Experiment.Dates

namespace Plan
variable {s : Store} {now : Moment} {e : Experiment} {r : ExperimentRevision}

-- A stage writes what it tells, and nothing over a time that is there.
theorem dates (plan : Plan s now e r) {operation : Operation} (permitted : operation.Permits (.revise e r))
    (untimed : ¬ operation.Retimes) {startAt endAt : Option Moment} {told : List Stamp}
    (before : e.Dates startAt endAt told) : (r.upon e).Dates startAt endAt (told ++ operation.stamps now) := by
  cases permitted with
  | update _ changes =>
    rw [Operation.Retimes, not_or, not_not, not_not] at untimed
    simp only [Operation.stamps, List.append_nil]
    refine ⟨?_, before.concludedAt, ?_, before.ended⟩
    · simp only [ExperimentRevision.upon, ExperimentChanges.revision, untimed.1]
      exact before.startAt
    · simp only [ExperimentRevision.upon, ExperimentChanges.revision, untimed.2]
      exact before.endAt
  | start _ target =>
    cases plan with
    | start allowed enough =>
      have open' : firstConclusion told = none := before.unconcluded allowed (by decide)
      have later : firstConclusion (told ++ [.started now]) = none := by
        rw [firstConclusion_append, open']
        rfl
      refine ⟨?_, (before.concludedAt.trans open').trans later.symm, ?_, absurd later⟩
      · simp only [Operation.stamps, firstStart_append, ← Option.or_assoc, ← before.startAt, ExperimentRevision.upon]
        cases e.startAt with
        | none | some _ => rfl
      · simp only [Operation.stamps, later, ← open']
        exact before.endAt
    | update _ | pause _ | conclude _ _ _ | archive => cases target
  | pause _ target =>
    simp only [Operation.stamps, List.append_nil]
    cases plan with
    | pause allowed =>
      exact ⟨before.startAt, before.concludedAt, before.endAt, absurd (before.unconcluded allowed (by decide))⟩
    | update _ | start _ _ | conclude _ _ _ | archive => cases target
  | conclude _ winner target =>
    cases plan with
    | conclude _ allowed own =>
      have open' : firstConclusion told = none := before.unconcluded allowed (by decide)
      have later : firstConclusion (told ++ [.concluded now]) = some now := by
        rw [firstConclusion_append, open']
        rfl
      have silent : firstStart (told ++ [.concluded now]) = firstStart told := by
        rw [firstStart_append]
        exact Option.or_none
      refine ⟨?_, later.symm, ?_, fun _ => .inl rfl⟩
      · simp only [Operation.stamps, silent]
        exact before.startAt
      · simp only [Operation.stamps, later, ExperimentRevision.upon, before.endAt, open', Option.or_none]
        cases endAt with
        | none | some _ => rfl
    | update _ | start _ _ | pause _ | archive => cases target
  | archive _ target =>
    simp only [Operation.stamps, List.append_nil]
    cases plan with
    | archive => exact ⟨before.startAt, before.concludedAt, before.endAt, fun _ => .inr rfl⟩
    | update _ | start _ _ | pause _ | conclude _ _ _ => cases target
  | assign _ _ visits | assignAll _ visits => cases visits
  | convert _ _ reports => cases reports

end Plan

namespace Store
variable {s next : Store} {id : String} {stamps : List Stamp}

-- Of an experiment that is not there nothing has been told, and what is told of another begins with its creation.
structure Stamped (s : Store) (id : String) (stamps : List Stamp) : Prop where
  absent : (∀ x ∈ s.experiments, x.id ≠ id) → stamps = []
  present : ∀ x ∈ s.experiments, x.id = id → ∃ startAt endAt told, stamps = .created startAt endAt :: told ∧
    x.Dates startAt endAt told

theorem empty_stamped (id : String) : Stamped .empty id [] := ⟨fun _ => rfl, fun _ member => absurd member List.not_mem_nil⟩

namespace Stamped

theorem still (stamped : s.Stamped id stamps) (same : next.experiments = s.experiments) :
    next.Stamped id (stamps ++ []) := by
  rw [List.append_nil]
  exact ⟨fun missing => stamped.absent (same ▸ missing), fun x there => stamped.present x (same ▸ there)⟩

-- A new id is the id of no experiment that is there, so nothing has been told of it.
theorem created (stamped : s.Stamped id stamps) (sound : s.Sound) {row : Experiment} (fresh : row.id = s.nextId)
    (rows : next.experiments = s.experiments ++ [row]) {startAt endAt : Option Moment}
    (dates : row.Dates startAt endAt []) :
    next.Stamped id (stamps ++ if row.id = id then [.created startAt endAt] else []) := by
  have apart : ∀ x ∈ s.experiments, x.id ≠ row.id := by
    intro x there
    rw [fresh]
    exact (sound.experimentsIssued x there).ne_next
  split
  · rename_i own
    subst own
    rw [stamped.absent apart]
    constructor
    · intro missing
      exact absurd rfl (missing row (by rw [rows]; exact List.mem_append_right _ (List.mem_singleton_self _)))
    · intro x there same
      rcases List.mem_append.mp (rows ▸ there) with old | new
      · exact absurd same (apart x old)
      · rw [List.mem_singleton.mp new]
        exact ⟨startAt, endAt, [], rfl, dates⟩
  · rename_i other
    rw [List.append_nil]
    constructor
    · intro missing
      exact stamped.absent fun x there => missing x (rows ▸ List.mem_append_left _ there)
    · intro x there same
      rcases List.mem_append.mp (rows ▸ there) with old | new
      · exact stamped.present x old same
      · exact absurd (List.mem_singleton.mp new ▸ same) other

theorem put (stamped : s.Stamped id stamps) {e row : Experiment} (there : e ∈ s.experiments) (named : row.id = e.id)
    {told : List Stamp} (dates : e.id = id → ∀ startAt endAt before, e.Dates startAt endAt before →
      row.Dates startAt endAt (before ++ told)) :
    (s.putExperiment row).Stamped id (stamps ++ if e.id = id then told else []) where
  absent := by
    intro missing
    have elsewhere : e.id ≠ id := named ▸ missing row (put_row there named)
    rw [if_neg elsewhere, List.append_nil]
    apply stamped.absent
    intro x before
    by_cases same : x.id = e.id
    · rwa [same]
    · exact missing x ((mem_put there named).mpr (.inr ⟨before, same⟩))
  present := by
    intro x after own
    rcases (mem_put there named).mp after with rfl | ⟨before, other⟩
    · have hit := named.symm.trans own
      obtain ⟨startAt, endAt, first, begins, shown⟩ := stamped.present e there hit
      rw [if_pos hit, begins]
      exact ⟨startAt, endAt, first ++ told, rfl, dates hit startAt endAt first shown⟩
    · rw [if_neg fun hit => other (own.trans hit.symm), List.append_nil]
      exact stamped.present x before own

end Stamped
end Store

def Move.Stages : Move → Prop
  | .perform _ (.create _) => True
  | .perform _ operation => operation.revised?.isSome = true
  | _ => False

namespace Scene
variable {scene : Scene} {id : String} {stamps : List Stamp} {now : Moment}

theorem Permits.stages {move : Move} {act : Act} (permitted : scene.Permits move act)
    (writes : (∃ draft, act = .create draft) ∨ ∃ e r, act = .revise e r) : move.Stages := by
  have other : ¬ act.OnRows := by
    rcases writes with ⟨draft, rfl⟩ | ⟨e, r, rfl⟩
    · exact not_false
    · exact not_false
  obtain ⟨operation, performed, permitted⟩ := permitted.performs other
  rw [performed]
  cases permitted with
  | create | update _ _ | start _ _ | pause _ _ | conclude _ _ _ | archive _ _ => trivial
  | assign _ _ visits | assignAll _ visits => exact absurd visits.onRows other
  | convert _ _ reports => exact absurd reports.onRows other
  | _ => simp at writes

theorem after_experiments (ready : scene.Ready) {move : Move} (other : ¬ move.Stages) :
    (scene.after now move).store.experiments = scene.store.experiments := by
  refine after_carries (P := fun s => s.experiments = scene.store.experiments) ready ?_ rfl
  rintro s _ ⟨made, act, sound, permitted, allowed⟩ same
  cases act with
  | create draft => exact absurd (Permits.stages permitted (.inl ⟨draft, rfl⟩)) other
  | revise e r => exact absurd (Permits.stages permitted (.inr ⟨e, r, rfl⟩)) other
  | _ => exact same

end Scene

theorem Operation.failed_experiments {s : Store} (sound : s.Sound) {operation : Operation} {workspace : String}
    {now : Moment} {fault : Fault} (failed : (operation.run workspace now s).1 = .error fault) :
    (operation.run workspace now s).2.experiments = s.experiments := by
  by_cases rounds : operation.Rounds
  · cases operation with
    | assignAll request =>
      have ready : Scene.Ready ⟨s, []⟩ := ⟨sound, fun _ member => absurd member List.not_mem_nil⟩
      let move := Move.perform workspace (.assignAll request)
      have same : ((⟨s, []⟩ : Scene).after now move).store.experiments = s.experiments :=
        Scene.after_experiments ready nofun
      exact same
    | _ => exact rounds.elim
  · exact (run_spares sound workspace now rounds fault failed).experiments

theorem Operation.stampsOf_revised {operation : Operation} {own : String} (revised : operation.revised? = some own)
    (id : String) (now : Moment) (answer : Answer) :
    operation.stampsOf id now answer = if own = id then operation.stamps now else [] := by
  cases operation with
  | update _ _ | start _ | pause _ | conclude _ _ | archive _ =>
    cases revised
    simp [stampsOf, revised?]
  | _ => cases revised

namespace Scene
variable {scene : Scene} {id : String} {stamps : List Stamp}

theorem after_stamped (ready : scene.Ready) (stamped : scene.store.Stamped id stamps) (now : Moment) {move : Move}
    (untimed : ¬ move.Retimes id) :
    (scene.after now move).store.Stamped id (stamps ++ scene.stampsOf id now move) := by
  cases move with
  | ask _ _ _ | askAll _ _ | report _ _ _ | turn _ => exact stamped.still (after_experiments ready not_false)
  | perform workspace operation =>
    cases answered : (operation.run workspace now scene.store).1 with
    | error fault =>
      simp only [stampsOf, answered]
      exact stamped.still (Operation.failed_experiments ready.sound answered)
    | ok answer =>
      simp only [stampsOf, answered]
      cases revised : operation.revised? with
      | some own =>
        obtain ⟨e, there, rfl, _, r, permitted, plan, written⟩ :=
          Operation.run_revises ready.sound revised answered
        rw [Operation.stampsOf_revised revised]
        show (operation.run workspace now scene.store).2.Stamped id _
        rw [written]
        refine stamped.put there (r.left_id now e) fun hit startAt endAt before shown => ?_
        have kept : ¬ operation.Retimes := fun retimes => untimed ⟨hit ▸ revised, retimes⟩
        exact (plan.dates permitted kept shown).alike (r.left_alike (ready.sound.plain e there) now)
      | none =>
        cases operation with
        | create draft =>
          obtain ⟨view, accepted, rfl⟩ := Outcome.map_ok answered
          obtain ⟨written, rfl⟩ := Catalogue.create_ok accepted
          have dates : (draft.row scene.store.nextId workspace now).Dates (draft.startAt.map (·.wall))
              (draft.endAt.map (·.wall)) [] := ⟨Option.or_none.symm, rfl, Option.or_none.symm, absurd rfl⟩
          exact stamped.created ready.sound rfl (congrArg Store.experiments written) dates
        | update _ _ | start _ | pause _ | conclude _ _ | archive _ => cases revised
        | _ => exact stamped.still (after_experiments ready (by simp [Move.Stages, Operation.revised?]))

theorem play_stamped (id : String) {moves : List (Moment × Move)} (untimed : ∀ move ∈ moves, ¬ move.2.Retimes id) :
    (empty.play moves).store.Stamped id (empty.chronicle (stampsOf id) moves) := by
  refine play_told (P := fun scene told => scene.store.Stamped id told) (Store.empty_stamped id) ?_
  rintro before now move later rfl ready stamped
  exact after_stamped ready stamped now (untimed _ (List.mem_append_right _ List.mem_cons_self))

end Scene

theorem times_settle {moves later : List (Moment × Move)} {x : Experiment}
    (present : x ∈ (Scene.empty.play moves).store.experiments)
    (untimed : ∀ move ∈ moves ++ later, ¬ move.2.Retimes x.id) :
    let s := (Scene.empty.play moves).store
    (∃ startAt endAt told, Scene.empty.chronicle (Scene.stampsOf x.id) moves = .created startAt endAt :: told ∧
      x.startAt = startAt.or (firstStart told) ∧ x.concludedAt = firstConclusion told ∧
      x.endAt = endAt.or (firstConclusion told)) ∧
    (∃ y ∈ (Scene.empty.play (moves ++ later)).store.experiments, y.id = x.id ∧
      (x.startAt.isSome → y.startAt = x.startAt) ∧ (x.concludedAt.isSome → y.concludedAt = x.concludedAt) ∧
      (x.endAt.isSome → y.endAt = x.endAt)) ∧
    ∀ operation now (outcome : Outcome Answer) fault,
      ((∃ workspace, outcome = Operation.run workspace now s operation) ∨
        ∃ address data, outcome = Operation.runSent address now data s operation) →
      outcome.1 = .error fault → outcome.2.experiments = s.experiments := by
  intro s
  have ready := Scene.play_ready Scene.empty_ready moves
  have stamped := Scene.play_stamped x.id fun move early => untimed move (List.mem_append_left later early)
  obtain ⟨startAt, endAt, told, begins, dates⟩ := stamped.present x present rfl
  refine ⟨⟨startAt, endAt, told, begins, dates.startAt, dates.concludedAt, dates.endAt⟩, ?_, ?_⟩
  · obtain ⟨y, last, named, _⟩ := Scene.key_stays ready present later
    rw [← Scene.play_append] at last
    obtain ⟨startAt', endAt', told', begins', dates'⟩ := (Scene.play_stamped x.id untimed).present y last named
    rw [Scene.chronicle_append, begins, List.cons_append] at begins'
    cases begins'
    exact ⟨y, last, named, dates.settled dates'⟩
  · intro operation now outcome fault asked failed
    rcases asked with ⟨workspace, rfl⟩ | ⟨address, data, rfl⟩
    · exact Operation.failed_experiments ready.sound failed
    · rcases Operation.runSent_spares ready.sound address now data operation with ⟨workspace, same⟩ | spares
      · rw [same] at failed ⊢
        exact Operation.failed_experiments ready.sound failed
      · exact (spares fault failed).experiments

-- The shop pauses its price and resumes it before it settles it.
def resumed : List (Moment × Move) :=
  Scene.shop ++ [(⟨1⟩, .perform "shop" (.pause "id-1")), (⟨2⟩, .perform "shop" (.start "id-1")),
    (⟨3⟩, .perform "shop" (.conclude "id-1" none))]

theorem resumed_times_settle : ∃ x ∈ (Scene.empty.play resumed).store.experiments,
    x.startAt = some ⟨0⟩ ∧ x.concludedAt = some ⟨3⟩ ∧ x.endAt = some ⟨3⟩ ∧
    (∀ move ∈ resumed ++ [(⟨4⟩, Move.perform "shop" (.archive "id-1"))], ¬ move.2.Retimes x.id) ∧
    ∃ y ∈ (Scene.empty.play (resumed ++ [(⟨4⟩, .perform "shop" (.archive "id-1"))])).store.experiments,
      y.id = x.id ∧ y.startAt = x.startAt ∧ y.concludedAt = x.concludedAt ∧ y.endAt = x.endAt := by
  obtain ⟨x, present, startAt, concludedAt, endAt⟩ : ∃ x ∈ (Scene.empty.play resumed).store.experiments,
      x.startAt = some ⟨0⟩ ∧ x.concludedAt = some ⟨3⟩ ∧ x.endAt = some ⟨3⟩ := by decide +kernel
  have untimed : ∀ move ∈ resumed ++ [(⟨4⟩, Move.perform "shop" (.archive "id-1"))], ¬ move.2.Retimes x.id := by
    simp [resumed, Scene.shop, Scene.opening, Move.Retimes, Operation.Retimes]
  obtain ⟨_, ⟨y, last, named, starts, concludes, ends⟩, _⟩ := times_settle present untimed
  refine ⟨x, present, startAt, concludedAt, endAt, untimed, y, last, named, ?_⟩
  exact ⟨starts (by rw [startAt]; rfl), concludes (by rw [concludedAt]; rfl), ends (by rw [endAt]; rfl)⟩

end Cohort
