import Cohort.Proofs.Agreement
import Cohort.Proofs.Failures
import Cohort.Proofs.Ramps
import Cohort.Proofs.Revisions

-- Updates of an experiment compose, each field by its own convention for null, and touch nothing else.
namespace Cohort
open Json (objectsAgree agrees_refl agrees_symm agrees_trans)

namespace Change

def upon (stored : α) : Change α → α
  | .keep => stored
  | .set a => a

def followedBy (first : Change α) : Change α → Change α
  | .keep => first
  | .set a => .set a

def map (f : α → β) : Change α → Change β
  | .keep => .keep
  | .set a => .set (f a)

theorem upon_followedBy (stored : α) (first second : Change α) :
    (first.followedBy second).upon stored = second.upon (first.upon stored) := by
  cases second with
  | keep | set _ => rfl

theorem map_followedBy (f : α → β) (first second : Change α) :
    (first.followedBy second).map f = (first.map f).followedBy (second.map f) := by
  cases second with
  | keep | set _ => rfl

theorem plain_upon [DecidableEq α] (stored : α) (c : Change α) : (c.plain stored).getD stored = c.upon stored := by
  cases c with
  | keep => rfl
  | set a => exact plain_set

theorem time_upon (stored : Option Moment) (c : Change (Option Dated)) :
    (c.time stored).getD stored = (c.map (Option.map Dated.wall)).upon stored := by
  match c with
  | .keep => rfl
  | .set none =>
    cases stored with
    | none | some _ => rfl
  | .set (some t) =>
    show (if t.offset = none ∧ stored = some t.wall then none else some (some t.wall)).getD stored = some t.wall
    split
    · rename_i same
      exact same.2
    · rfl

theorem members_upon (stored : Json.Members) (c : Change Json.Members) :
    objectsAgree ((c.members stored).getD stored) (c.upon stored) = true := by
  cases c with
  | keep => exact agrees_refl _
  | set sent =>
    rw [members, written]
    split
    · rename_i same
      exact same
    · exact agrees_refl _

end Change

-- The same experiment but for the time of the last update and for objects that count as the same.
inductive Experiment.Alike (e : Experiment) : Experiment → Prop where
  | touched (updatedAt : Option Moment) {targeting metadata : Json.Members}
      (rules : objectsAgree e.targeting targeting = true) (notes : objectsAgree e.metadata metadata = true) :
      Alike e { e with updatedAt := updatedAt, targeting := targeting, metadata := metadata }

namespace Experiment.Alike
variable {x y z : Experiment}

theorem symm (same : x.Alike y) : y.Alike x := by
  cases same with
  | touched _ rules notes => exact .touched x.updatedAt (agrees_symm rules) (agrees_symm notes)

theorem trans (first : x.Alike y) (second : y.Alike z) : x.Alike z := by
  cases first with
  | touched _ rules notes =>
    cases second with
    | touched time rules' notes' => exact .touched time (agrees_trans rules rules') (agrees_trans notes notes')

end Experiment.Alike

namespace ExperimentRevision

def upon (r : ExperimentRevision) (e : Experiment) : Experiment :=
  { e with
    name := r.name.upon e.name
    description := r.description.upon e.description
    status := r.status.upon e.status
    startAt := (r.startAt.map (Option.map Dated.wall)).upon e.startAt
    endAt := (r.endAt.map (Option.map Dated.wall)).upon e.endAt
    concludedAt := (r.concludedAt.map (Option.map Dated.wall)).upon e.concludedAt
    traffic := r.traffic.upon e.traffic
    targeting := r.targeting.upon e.targeting
    winner := r.winner.upon e.winner
    metadata := r.metadata.upon e.metadata }

def followedBy (first second : ExperimentRevision) : ExperimentRevision where
  name := first.name.followedBy second.name
  description := first.description.followedBy second.description
  status := first.status.followedBy second.status
  startAt := first.startAt.followedBy second.startAt
  endAt := first.endAt.followedBy second.endAt
  concludedAt := first.concludedAt.followedBy second.concludedAt
  traffic := first.traffic.followedBy second.traffic
  targeting := first.targeting.followedBy second.targeting
  winner := first.winner.followedBy second.winner
  metadata := first.metadata.followedBy second.metadata

theorem upon_followedBy (first second : ExperimentRevision) (e : Experiment) :
    (first.followedBy second).upon e = second.upon (first.upon e) := by
  simp only [upon, followedBy, Change.map_followedBy, Change.upon_followedBy]

theorem upon_alike {x y : Experiment} (r : ExperimentRevision) (same : x.Alike y) : (r.upon x).Alike (r.upon y) := by
  have stays {stored stored' : Json.Members} (c : Change Json.Members) (agree : objectsAgree stored stored' = true) :
      objectsAgree (c.upon stored) (c.upon stored') = true := by
    cases c with
    | keep => exact agree
    | set sent => exact agrees_refl _
  cases same with
  | touched time rules notes => exact .touched time (stays r.targeting rules) (stays r.metadata notes)

theorem left_alike {e : Experiment} (r : ExperimentRevision) (plain : e.strays = {}) (now : Moment) :
    (r.left now e).Alike (r.upon e) := by
  have rules : (r.left now e).targeting = (r.targeting.members e.targeting).getD e.targeting := by
    rw [left_row]
    simp only [applied, newTargeting, plain, Change.replacing]
  have notes : (r.left now e).metadata = (r.metadata.members e.metadata).getD e.metadata := by
    rw [left_row]
    simp only [applied, newMetadata, plain, Change.replacing]
  have rest : r.upon e = { r.left now e with
      updatedAt := e.updatedAt, targeting := (r.upon e).targeting, metadata := (r.upon e).metadata } := by
    rw [left_row]
    simp [upon, applied, Change.plain_upon, Change.time_upon, plain, newTraffic, Change.replacing]
  rw [rest]
  refine .touched e.updatedAt ?_ ?_
  · rw [rules]
    exact Change.members_upon _ _
  · rw [notes]
    exact Change.members_upon _ _

end ExperimentRevision

namespace ExperimentChanges

-- Where a null clears or empties a field it counts as sent.
def lastSent (first second : Option (Option α)) : Option (Option α) := second.or first

-- Where a null is passed over it does not.
def lastFilled (first second : Option (Option α)) : Option (Option α) := if second.join.isSome then second else first

def followedBy (first second : ExperimentChanges) : ExperimentChanges where
  name := lastFilled first.name second.name
  description := lastSent first.description second.description
  traffic := lastFilled first.traffic second.traffic
  targeting := lastFilled first.targeting second.targeting
  startAt := lastSent first.startAt second.startAt
  endAt := lastSent first.endAt second.endAt
  metadata := lastSent first.metadata second.metadata

theorem ofRequired_last (f : α → β) (first second : Option (Option α)) :
    Change.ofRequired f (lastFilled first second) =
      (Change.ofRequired f first).followedBy (Change.ofRequired f second) := by
  match second with
  | none | some none | some (some _) => rfl

theorem ofNullable_last (first second : Option (Option α)) :
    Change.ofNullable (lastSent first second) = (Change.ofNullable first).followedBy (Change.ofNullable second) := by
  cases second with
  | none | some _ => rfl

theorem followedBy_revision (first second : ExperimentChanges) :
    (first.followedBy second).revision = first.revision.followedBy second.revision := by
  have emptied : (lastSent first.metadata second.metadata).map (fun m => some (m.getD [])) =
      lastFilled (first.metadata.map fun m => some (m.getD [])) (second.metadata.map fun m => some (m.getD [])) := by
    cases second.metadata with
    | none | some _ => rfl
  simp only [revision, followedBy, ExperimentRevision.followedBy, emptied, ofRequired_last, ofNullable_last]
  rfl

-- Two updates leave what one leaves that sends both payloads.
theorem left_twice {e : Experiment} (plain : e.strays = {}) (first second : ExperimentChanges)
    (now later other : Moment) : (second.revision.left later (first.revision.left now e)).Alike
      ((first.followedBy second).revision.left other e) := by
  have plain' := first.revision.left_plain now e plain
  have onFirst := second.revision.upon_alike (first.revision.left_alike plain now)
  have twice := (second.revision.left_alike plain' later).trans onFirst
  have once := (first.followedBy second).revision.left_alike plain other
  have merged : (first.followedBy second).revision.upon e = second.revision.upon (first.revision.upon e) := by
    rw [followedBy_revision, ExperimentRevision.upon_followedBy]
  rw [merged] at once
  exact twice.trans once.symm

end ExperimentChanges

structure Experiment.Keeps (x e : Experiment) : Prop where
  id : x.id = e.id
  workspace : x.workspace = e.workspace
  key : x.key = e.key
  category : x.category = e.category
  status : x.status = e.status
  winner : x.winner = e.winner
  concludedAt : x.concludedAt = e.concludedAt
  createdAt : x.createdAt = e.createdAt

theorem Experiment.Keeps.refl (e : Experiment) : e.Keeps e := ⟨rfl, rfl, rfl, rfl, rfl, rfl, rfl, rfl⟩

theorem ExperimentChanges.left_keeps (changes : ExperimentChanges) (now : Moment) (e : Experiment) :
    (changes.revision.left now e).Keeps e := by
  rw [ExperimentRevision.left_row]
  exact ⟨rfl, rfl, rfl, rfl, rfl, rfl, rfl, rfl⟩

namespace Store
variable {s : Store}

-- At most the experiment of this id has changed, and nothing else.
structure Edited (s : Store) (id : String) (next : Store) : Prop where
  variants : next.variants = s.variants
  assignments : next.assignments = s.assignments
  experiments : List.Forall₂ (fun e x => x.Keeps e ∧ (e.id ≠ id → x = e)) s.experiments next.experiments

theorem edited_nothing (s : Store) (id : String) : s.Edited id s where
  variants := rfl
  assignments := rfl
  experiments := List.forall₂_same.mpr fun e _ => ⟨.refl e, fun _ => rfl⟩

theorem Sound.put_edited (sound : s.Sound) {e row : Experiment} (present : e ∈ s.experiments) (keeps : row.Keeps e) :
    s.Edited e.id (s.putExperiment row) where
  variants := rfl
  assignments := rfl
  experiments := by
    refine List.forall₂_map_right_iff.mpr (List.forall₂_same.mpr fun x there => ?_)
    by_cases hit : x.id = e.id
    · obtain rfl := sound.same_experiment there present hit
      rw [if_pos keeps.id.symm]
      exact ⟨keeps, absurd rfl⟩
    · rw [if_neg (keeps.id ▸ hit)]
      exact ⟨.refl x, fun _ => rfl⟩

end Store

theorem Catalogue.get_refused {s : Store} {workspace id : String} {fault : Fault}
    (missing : get s workspace id = .error fault) : fault = .unknownExperiment id := by
  unfold get at missing
  split at missing
  · cases missing
  · cases missing
    rfl

namespace Operation
variable {s : Store}

theorem run_update (sound : s.Sound) {e : Experiment} (present : e ∈ s.experiments) (changes : ExperimentChanges)
    (now : Moment) : run e.workspace now s (.update e.id changes) =
      (.ok (.experiment ⟨changes.revision.left now e, s.variantsOf e.id⟩),
        s.putExperiment (changes.revision.left now e)) :=
  congrArg (Outcome.map Answer.experiment) (Catalogue.revise_left sound present rfl (.update changes))

-- Done by an update: it is refused and the store stays as it is, or the experiment's own workspace has asked for it.
def Mild (s : Store) (id : String) (changes : ExperimentChanges) (now : Moment) (outcome : Outcome Answer) : Prop :=
  outcome.kind? ≠ some .conflict ∧ s.Edited id outcome.2 ∧
    (outcome.1.isOk = false ∧ outcome.2 = s ∨
      ∃ e ∈ s.experiments, e.id = id ∧ outcome = run e.workspace now s (.update id changes))

theorem refused_mild {fault : Fault} (other : fault.kind ≠ .conflict) (s : Store) (id : String)
    (changes : ExperimentChanges) (now : Moment) : Mild s id changes now (.error fault, s) :=
  ⟨fun same => other (Option.some.inj same), s.edited_nothing id, .inl ⟨rfl, rfl⟩⟩

theorem run_mild (sound : s.Sound) (workspace id : String) (changes : ExperimentChanges) (now : Moment) :
    Mild s id changes now (run workspace now s (.update id changes)) := by
  cases found : Catalogue.get s workspace id with
  | error fault =>
    have refused : run workspace now s (.update id changes) = (.error fault, s) := by
      simp only [run, Catalogue.update, Catalogue.revise, found, bind, Except.bind]
      rfl
    rw [refused, Catalogue.get_refused found]
    exact refused_mild (by simp [Fault.kind]) s id changes now
  | ok view =>
    obtain ⟨e, present, rfl, rfl, _⟩ := Catalogue.get_ok found
    have updated := run_update sound present changes now
    refine ⟨?_, ?_, .inr ⟨e, present, rfl, rfl⟩⟩
    · simp [updated, Outcome.kind?]
    · rw [updated]
      exact sound.put_edited present (changes.left_keeps now e)

theorem runSent_mild (sound : s.Sound) (address : Address) (data : Json) (id : String) (changes : ExperimentChanges)
    (now : Moment) : Mild s id changes now (runSent address now data s (.update id changes)) := by
  unfold runSent
  split
  · split
    · exact run_mild sound _ id changes now
    · refine refused_mild ?_ s id changes now
      unfold Garbled.update
      split
      · rename_i missing
        simp [Catalogue.get_refused missing, Fault.kind]
      · simp [Fault.kind]
  · exact refused_mild (by simp [lost, Fault.kind]) s id changes now

end Operation

theorem updates_compose {s : Store} (attained : Attained s) :
    (∀ e ∈ s.experiments, ∀ (first second : ExperimentChanges) (now later other : Moment),
      let once := Operation.run e.workspace now s (.update e.id first)
      let twice := Operation.run e.workspace later once.2 (.update e.id second)
      let merged := Operation.run e.workspace other s (.update e.id (first.followedBy second))
      once.1.isOk = true ∧ ∃ x ∈ twice.2.experiments, ∃ y ∈ merged.2.experiments, x.id = e.id ∧ x.Alike y ∧
        twice.1 = .ok (.experiment ⟨x, s.variantsOf e.id⟩) ∧
        merged.1 = .ok (.experiment ⟨y, s.variantsOf e.id⟩)) ∧
    ∀ id changes now (outcome : Outcome Answer),
      ((∃ workspace, outcome = Operation.run workspace now s (.update id changes)) ∨
        ∃ address data, outcome = Operation.runSent address now data s (.update id changes)) →
      outcome.kind? ≠ some .conflict ∧ s.Edited id outcome.2 ∧
        (outcome.1.isOk = false ∧ outcome.2 = s ∨
          ∃ e ∈ s.experiments, e.id = id ∧ outcome = Operation.run e.workspace now s (.update id changes)) := by
  have sound := attained.sound
  constructor
  · intro e present first second now later other once twice merged
    let row := first.revision.left now e
    have written : once = (.ok (.experiment ⟨row, s.variantsOf e.id⟩), s.putExperiment row) :=
      Operation.run_update sound present first now
    have sound' : once.2.Sound := (Operation.run_commits sound e.workspace now (.update e.id first)).sound sound
    have present' : row ∈ once.2.experiments := written ▸ Store.put_row present (first.revision.left_id now e)
    have lineup : once.2.variantsOf e.id = s.variantsOf e.id := congrArg (fun o => o.2.variantsOf e.id) written
    let x := second.revision.left later row
    have rewritten : twice = (.ok (.experiment ⟨x, s.variantsOf e.id⟩), once.2.putExperiment x) := by
      have updated := Operation.run_update sound' present' second later
      rwa [first.revision.left_id, first.revision.left_workspace, lineup] at updated
    let y := (first.followedBy second).revision.left other e
    have combined : merged = (.ok (.experiment ⟨y, s.variantsOf e.id⟩), s.putExperiment y) :=
      Operation.run_update sound present (first.followedBy second) other
    have named : x.id = row.id := second.revision.left_id later row
    refine ⟨congrArg (fun o => o.1.isOk) written, x, ?_, y, ?_, named.trans (first.revision.left_id now e), ?_,
      congrArg Prod.fst rewritten, congrArg Prod.fst combined⟩
    · exact rewritten ▸ Store.put_row present' named
    · exact combined ▸ Store.put_row present ((first.followedBy second).revision.left_id other e)
    · exact ExperimentChanges.left_twice (sound.plain e present) first second now later other
  · intro id changes now outcome asked
    rcases asked with ⟨workspace, rfl⟩ | ⟨address, data, rfl⟩
    · exact Operation.run_mild sound workspace id changes now
    · exact Operation.runSent_mild sound address data id changes now

-- Each payload has a null of every kind, and the second notes a truth value where the first notes the number one.

def captioned : ExperimentChanges :=
  ⟨some (some "Price"), some (some "trial"), some none, none, none, some (some ⟨⟨9⟩, none⟩), some (some [("on", .int 1)])⟩

def recaptioned : ExperimentChanges :=
  ⟨some none, some none, some (some Share.all), some none, some none, none, some (some [("on", .bool true)])⟩

theorem shop_updates_compose : let s := (Scene.empty.play Scene.shop).store
    Attained s ∧ ∃ e ∈ s.experiments,
      let once := Operation.run e.workspace ⟨1⟩ s (.update e.id captioned)
      let twice := Operation.run e.workspace ⟨2⟩ once.2 (.update e.id recaptioned)
      let merged := Operation.run e.workspace ⟨3⟩ s (.update e.id (captioned.followedBy recaptioned))
      ∃ x ∈ twice.2.experiments, ∃ y ∈ merged.2.experiments, x.Alike y ∧ x.name = "Price" ∧ x.description = none ∧
        x.startAt = none ∧ x.endAt = some ⟨9⟩ ∧ (x.metadata matches [(_, .int 1)]) ∧
        (y.metadata matches [(_, .bool true)]) ∧ twice.1 = .ok (.experiment ⟨x, s.variantsOf e.id⟩) ∧
        once.kind? ≠ some .conflict ∧ s.Edited e.id once.2 := by
  intro s
  have attained : Attained s := ⟨_, rfl⟩
  obtain ⟨e, present, workspace, id⟩ : ∃ e ∈ s.experiments, e.workspace = "shop" ∧ e.id = "id-1" := by decide +kernel
  have composed := (updates_compose attained).1 e present captioned recaptioned ⟨1⟩ ⟨2⟩ ⟨3⟩
  obtain ⟨calm, edited, _⟩ := (updates_compose attained).2 e.id captioned ⟨1⟩ _ (.inl ⟨e.workspace, rfl⟩)
  rw [workspace, id] at composed calm edited
  obtain ⟨_, x, there, y, there', _, alike, answered, _⟩ := composed
  have left : ∀ x ∈ (Operation.run "shop" ⟨2⟩ (Operation.run "shop" ⟨1⟩ s (.update "id-1" captioned)).2
      (.update "id-1" recaptioned)).2.experiments, x.name = "Price" ∧ x.description = none ∧ x.startAt = none ∧
        x.endAt = some ⟨9⟩ ∧ (x.metadata matches [(_, .int 1)]) := by decide +kernel
  have left' : ∀ y ∈ (Operation.run "shop" ⟨3⟩ s (.update "id-1" (captioned.followedBy recaptioned))).2.experiments,
      (y.metadata matches [(_, .bool true)]) := by decide +kernel
  obtain ⟨name, description, startAt, endAt, notes⟩ := left x there
  refine ⟨attained, e, present, ?_⟩
  rw [workspace, id]
  exact ⟨x, there, y, there', alike, name, description, startAt, endAt, notes, left' y there', answered, calm, edited⟩

end Cohort
