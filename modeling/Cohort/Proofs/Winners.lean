import Cohort.Proofs.Credit
import Cohort.Proofs.Gates
import Cohort.Proofs.Lifecycle

-- Once an experiment is concluded with a winner, everybody is shown the winner, until the experiment is archived; then
-- nobody is shown anything.
namespace Cohort

theorem Plan.concluded {s : Store} {now : Moment} {e : Experiment} {r : ExperimentRevision} (plan : Plan s now e r)
    (stage : e.status = .concluded) (kept : r.status ≠ .set .archived) :
    (r.applied now e).status = .concluded ∧ (r.applied now e).winner = e.winner := by
  cases plan with
  | update changes => exact ⟨stage, rfl⟩
  | start allowed enough => simp [Lifecycle.allows, stage] at allowed
  | pause allowed => simp [Lifecycle.allows, stage] at allowed
  | conclude winner allowed own => simp [Lifecycle.allows, stage] at allowed
  | archive => exact absurd rfl kept

namespace Store

def Crowned (s : Store) (e : Experiment) (winner : String) : Prop := ∃ x ∈ s.experiments,
  x.id = e.id ∧ x.workspace = e.workspace ∧ x.key = e.key ∧ x.status = .concluded ∧ x.winner = some winner

theorem Crowned.launched {s : Store} {e : Experiment} {winner : String} (crowned : s.Crowned e winner) :
    s.Launched e.workspace e.id := by
  obtain ⟨x, present, id, workspace, _, stage, _⟩ := crowned
  exact ⟨x, present, id, workspace, by simp [stage]⟩

-- Nobody, the nobody that an empty id names, or one of the variants of the experiment.
def Eligible (s : Store) (id : String) (winner : Option String) : Prop :=
  ∀ w, winner = some w → w = "" ∨ s.Owns id w

-- Nothing is written but the experiment, which stands then as in the row.
structure Rewritten (s : Store) (e row : Experiment) (next : Store) : Prop where
  assignments : next.assignments = s.assignments
  variants : next.variants = s.variants
  row : ∃ x ∈ next.experiments, x.id = e.id ∧ x.workspace = e.workspace ∧ x.key = e.key ∧ x.status = row.status ∧
    x.winner = row.winner

namespace Sound
variable {s : Store} {e : Experiment}

-- What a service plans is not refused.
theorem updates (sound : s.Sound) (present : e ∈ s.experiments) {now : Moment} {r : ExperimentRevision}
    (plan : Plan s now e r) : s.updateExperiment now e r =
      .ok (if r.alters e then (r.applied now e, s.putExperiment (r.applied now e)) else (e, s)) := by
  have share := plan.share (sound.plain e present) (sound.shares e present)
  have word : inWord (r.applied now e).traffic = true := by
    have limit : Entry.wordLimit = 9223372036854775808 := rfl
    exact (Bool.and_eq_true _ _).mpr ⟨decide_eq_true (by omega), decide_eq_true (by omega)⟩
  have free : (s.experiments.any fun other => other.id ≠ e.id && sameKey (r.applied now e) other) = false := by
    rw [List.any_eq_false]
    intro other there clash
    simp only [sameKey, Bool.and_eq_true, decide_eq_true_eq] at clash
    exact clash.1 (sound.experimentKeys other there e present clash.2.1.symm clash.2.2.symm)
  unfold updateExperiment
  cases alters : r.alters e with
  | false => rfl
  | true =>
    simp only [Bool.not_true, Bool.false_eq_true, if_false, if_true, word, sound.writable, free]

end Sound
end Store

namespace Catalogue
variable {s : Store} {now : Moment} {e : Experiment} {r : ExperimentRevision}
  {plan : ExperimentView → Except Fault ExperimentRevision}

theorem revise_exact (sound : s.Sound) (present : e ∈ s.experiments) (read : plan (s.view e) = .ok r)
    (planned : Plan s now e r) : revise s e.workspace now e.id plan =
      if r.alters e then
        (.ok ((s.putExperiment (r.applied now e)).view (r.applied now e)), s.putExperiment (r.applied now e))
      else (.ok (s.view e), s) := by
  have written := sound.updates present planned
  unfold revise
  simp only [sound.viewed present, bind, Except.bind, read]
  rw [show (s.view e).experiment = e from rfl, written]
  cases alters : r.alters e with
  | false => rfl
  | true => rfl

-- What has been planned for an experiment is what is stored of it then.
theorem revise_written (sound : s.Sound) (present : e ∈ s.experiments) (read : plan (s.view e) = .ok r)
    (planned : Plan s now e r) :
    s.Rewritten e (r.applied now e) (revise s e.workspace now e.id plan).2 := by
  rw [revise_exact sound present read planned]
  cases alters : r.alters e with
  | false =>
    rw [ExperimentRevision.unaltered alters]
    exact ⟨rfl, rfl, e, present, rfl, rfl, rfl, rfl, rfl⟩
  | true =>
    refine ⟨rfl, rfl, _, List.mem_map_of_mem present, ?_⟩
    have own : e.id = (r.applied now e).id := rfl
    rw [if_pos own]
    exact ⟨rfl, rfl, rfl, rfl, rfl⟩

theorem isOwn_exact {w : String} : isOwn (s.view e) w = true ↔ w = "" ∨ s.Owns e.id w := by
  rw [isOwn, Bool.or_eq_true, decide_eq_true_eq, Store.view_names]

section Timely
variable (timely : Lifecycle.allows .conclude e.status = true)
include timely

theorem moved_timely : moved (s.view e).experiment .conclude = .ok .concluded := by
  simp only [moved, Lifecycle.next?, Store.view, timely, if_true, Lifecycle.target]

theorem conclude_foreign (sound : s.Sound) (present : e ∈ s.experiments) {w : String} (some' : w ≠ "")
    (foreign : ¬ s.Owns e.id w) :
    conclude s e.workspace now e.id (some w) = (.error (.foreignWinner w), s) := by
  have refused : isOwn (s.view e) w = false := by
    rw [← Bool.not_eq_true, isOwn_exact]
    simp [some', foreign]
  simp only [conclude, revise, sound.viewed present, moved_timely timely, refused, Option.filter_some, Bool.not_false,
    if_true, bind, Except.bind, Outcome.attempt]

theorem conclude_stores (sound : s.Sound) (present : e ∈ s.experiments) {winner : Option String}
    (eligible : s.Eligible e.id winner) (now : Moment) :
    (∃ view, (conclude s e.workspace now e.id winner).1 = .ok view) ∧
      s.Rewritten e { e with status := .concluded, winner := winner } (conclude s e.workspace now e.id winner).2 := by
  have own : ∀ w, winner = some w → isOwn (s.view e) w = true := fun w chosen => isOwn_exact.mpr (eligible w chosen)
  have none' : winner.filter (fun w => !isOwn (s.view e) w) = none := by
    cases winner with
    | none => rfl
    | some w => simp [own w rfl]
  let r : ExperimentRevision := {
    status := .set .concluded
    winner := .set winner
    concludedAt := .set (some (Dated.unzoned now))
    endAt := .set (some (Dated.unzoned (e.endAt.getD now))) }
  have planned : Plan s now e r := .conclude winner timely own
  have same : conclude s e.workspace now e.id winner = revise s e.workspace now e.id fun _ => .ok r := by
    simp only [conclude, revise, sound.viewed present, moved_timely timely, none', bind, Except.bind]
    rfl
  rw [same]
  constructor
  · rw [revise_exact sound present rfl planned]
    split
    · exact ⟨_, rfl⟩
    · exact ⟨_, rfl⟩
  · have written : s.Rewritten e (r.applied now e) (revise s e.workspace now e.id fun _ => .ok r).2 :=
      revise_written sound present rfl planned
    obtain ⟨rows, variants, x, there, id, workspace, key, status, won⟩ := written
    exact ⟨rows, variants, x, there, id, workspace, key, status.trans Change.plain_set, won.trans Change.plain_set⟩

end Timely

end Catalogue

-- Nothing takes the winner from an experiment but its archiving.

namespace Scene
variable {scene : Scene} {e : Experiment} {moves : List (Moment × Move)}

theorem variant_stays (ready : scene.Ready) {workspace id : String} (launched : scene.store.Launched workspace id)
    {v : Variant} (present : v ∈ scene.store.variants) (own : v.experiment = id) (moves : List (Moment × Move)) :
    ∃ w ∈ (scene.play moves).store.variants, w.Follows v := by
  have kept := play_kept ready moves
  obtain ⟨w, there, named, _⟩ := kept.owns workspace id v.id launched ⟨v, present, rfl, own⟩
  obtain ⟨u, before, follows⟩ := kept.variants w there (named ▸ ready.sound.variantsIssued v present)
  obtain rfl : u = v := ready.sound.same_variant before present (follows.id.symm.trans named)
  exact ⟨w, there, follows⟩

end Scene

end Cohort
