import Cohort.Proofs.Conversions
import Cohort.Proofs.Sticky

-- A conversion is credited to the row behind the decision that the subject was shown, whatever is done in between but
-- an override.
namespace Cohort

namespace Scene
variable {scene : Scene}

theorem key_stays (ready : scene.Ready) {e : Experiment} (present : e ∈ scene.store.experiments)
    (moves : List (Moment × Move)) : ∃ x ∈ (scene.play moves).store.experiments,
      x.id = e.id ∧ x.workspace = e.workspace ∧ x.key = e.key := by
  refine play_carries (P := fun s => ∃ x ∈ s.experiments, x.id = e.id ∧ x.workspace = e.workspace ∧ x.key = e.key)
    ready ?_ ⟨e, present, rfl, rfl, rfl⟩
  rintro move _ s _ ⟨made, act, sound, _, allowed⟩ ⟨x, there, id, workspace, key⟩
  obtain ⟨y, after, follows⟩ := Act.experiment_stays sound allowed there
  exact ⟨y, after, follows.id.trans id, follows.workspace.trans workspace, follows.key.trans key⟩

theorem found_later (ready : scene.Ready) (ordered : scene.store.Ordered) {row : Assignment} {subject : Subject}
    (finds : scene.store.Finds row subject) {workspace : String}
    (launched : scene.store.Launched workspace row.experiment) {later : List (Moment × Move)}
    (onward : ∀ move ∈ later, row.createdAt ≤ move.1)
    (avoids : ∀ move ∈ later, move.2.Avoids workspace row.experiment subject ∧
      move.2.Avoids workspace row.experiment row.subject) :
    ∃ a, (scene.play later).store.find? row.experiment subject = some a ∧ Store.Sound.Same a row :=
  (finds_stay ready finds launched onward avoids).found (play_ready ready later).sound
    (play_ordered ready ordered later)

end Scene

namespace Store
variable {s : Store}

theorem Sound.convert_alone (sound : s.Sound) {a : Assignment} (present : a ∈ s.assignments)
    (waits : a.convertedAt = none) (workspace : String) (now : Moment) (value : Option Float) (metadata : Json) :
    (Act.convert a.id value metadata).apply workspace now s = { s with
      assignments := s.assignments.map fun x => if x.id = a.id then converted now value metadata x else x } := by
  have same : ∀ x ∈ s.assignments, (if awaits a.id x then converted now value metadata x else x) =
      if x.id = a.id then converted now value metadata x else x := by
    intro x there
    by_cases hit : x.id = a.id
    · have one : x = a := sound.same_row there present hit
      rw [if_pos hit, if_pos (awaits_exact.mpr ⟨hit, one ▸ waits⟩)]
    · rw [if_neg hit, if_neg fun waiting => hit (awaits_exact.mp waiting).1]
  rw [← List.map_congr_left same]
  rfl

theorem Sound.record_known (sound : s.Sound) {x : Experiment} (listed : x ∈ s.experiments) {a : Assignment}
    {report : ConversionReport} (found : s.find? x.id report.subject = some a) (now : Moment) :
    Operation.run x.workspace now s (.convert x.key report) =
      if a.convertedAt = none then (.ok (.recorded true), { s with
        assignments := s.assignments.map fun b =>
          if b.id = a.id then converted now report.value (Json.ofMembers report.metadata) b else b })
      else (.ok (.recorded false), s) := by
  let notice : Conversion.Notice := ⟨x.workspace, now, report⟩
  obtain ⟨present, _, stands⟩ := find?_some found
  have named := Assignment.standsFor_named stands
  have looked : notice.look x.key s = .ok (if a.convertedAt.isSome then none else some a.id) := by
    simp [Conversion.Notice.look, notice, named, sound.by_key listed, found]
  by_cases waits : a.convertedAt = none
  · have waiting : ∃ b ∈ s.assignments, awaits a.id b = true := ⟨a, present, awaits_exact.mpr ⟨rfl, waits⟩⟩
    rw [waits, Option.isSome_none, if_neg Bool.false_ne_true] at looked
    have run := Conversion.Notice.record_aimed looked
    rw [notice.mark_waiting sound.writable waiting, sound.convert_alone present waits] at run
    rw [if_pos waits]
    exact congrArg (Outcome.map Answer.recorded) run
  · rw [if_pos (Option.isSome_iff_ne_none.mpr waits)] at looked
    rw [if_neg waits]
    exact congrArg (Outcome.map Answer.recorded) (Conversion.Notice.record_aimless looked)

end Store

theorem conversions_credit_shown {before later : List (Moment × Move)} {now : Moment} {e : Experiment}
    {request : DecisionRequest} {decision : Decision}
    (forward : ((before ++ (now, e.asked request) :: later).map (·.1)).Pairwise (· ≤ ·))
    (serves : (Scene.empty.play before).store.Serves now e request decision) :
    ∃ row, ((Scene.empty.play before).after now (e.asked request)).store.Backs e row decision ∧
      ((∀ move ∈ later, move.2.Avoids e.workspace e.id request.subject ∧
          move.2.Avoids e.workspace e.id row.subject) →
        let last := (Scene.empty.play (before ++ (now, e.asked request) :: later)).store
        ∃ a ∈ last.assignments, Store.Sound.Same a row ∧ ∀ time report, report.subject = request.subject →
          Operation.run e.workspace time last (.convert e.key report) =
            if a.convertedAt = none then (.ok (.recorded true), { last with
              assignments := last.assignments.map fun b =>
                if b.id = row.id then { b with
                  convertedAt := some time
                  value := Store.storedValue report.value
                  conversionMetadata := Json.ofMembers report.metadata }
                else b })
            else (.ok (.recorded false), last)) := by
  have ready := Scene.play_ready Scene.empty_ready before
  have ordered := Scene.play_ordered Scene.empty_ready Store.empty_ordered before
  obtain ⟨committed, next⟩ := Scene.after_commits ready now (e.asked request)
  obtain ⟨row, backs, _⟩ := (serves.decides ready.sound).backed ready.sound
  refine ⟨row, backs, ?_⟩
  intro avoids last
  rw [List.map_append, List.map_cons, List.pairwise_append, List.pairwise_cons] at forward
  obtain ⟨_, ⟨onward, _⟩, between⟩ := forward
  have aged : ∀ a ∈ (Scene.empty.play before).store.assignments, a.createdAt ≤ now := by
    refine Scene.play_aged Scene.empty_ready (fun _ member => absurd member List.not_mem_nil) ?_
    intro move member
    exact between _ (List.mem_map_of_mem member) _ List.mem_cons_self
  have bound : row.createdAt ≤ now := Scene.after_aged ready (e.asked request) aged now.refl row backs.present
  have launched := (committed.kept ready.sound).launched _ _ serves.launched
  have finds := serves.finds ready.sound ordered aged next.sound backs
  obtain ⟨a, found, same⟩ := Scene.found_later next (committed.ordered ready.sound ordered) finds
    (backs.experiment ▸ launched) (fun move member => Moment.trans bound (onward _ (List.mem_map_of_mem member)))
    (backs.experiment ▸ avoids)
  obtain ⟨x, listed, id, workspace, key⟩ := Scene.key_stays ready serves.present ((now, e.asked request) :: later)
  have end' : last = ((Scene.empty.play before).play ((now, e.asked request) :: later)).store :=
    congrArg Scene.store (Scene.play_append _ _ _)
  rw [end']
  refine ⟨a, (Store.find?_some found).1, same, ?_⟩
  intro time report subject
  rw [backs.experiment, ← id, ← subject] at found
  rw [← workspace, ← key, ← same.id]
  exact (Scene.play_ready ready _).sound.record_known listed found time

-- A session and a customer have rows of their own when they turn out to be one; the older row is shown, and it is the
-- one that converts after the experiment has been closed.
def beforeMerging : List (Moment × Move) :=
  Scene.shop ++ [(⟨none, some "bob", none⟩ : Subject), ⟨some "ann", none, none⟩].map fun subject =>
    (⟨1⟩, .perform "shop" (.assign "price" ⟨subject, none⟩))

def merged : Subject := ⟨some "ann", some "bob", none⟩

def afterMerging : List (Moment × Move) :=
  [Operation.assign "price" ⟨⟨none, some "bob", some "u"⟩, none⟩, .pause "id-1", .conclude "id-1" (some "id-3"),
    .archive "id-1"].map fun operation => (⟨3⟩, .perform "shop" operation)

theorem merged_is_credited : ∃ e decision,
    ((beforeMerging ++ (⟨2⟩, e.asked ⟨merged, none⟩) :: afterMerging).map (·.1)).Pairwise (· ≤ ·) ∧
    (Scene.empty.play beforeMerging).store.Serves ⟨2⟩ e ⟨merged, none⟩ decision ∧ decision.assignment = "id-4" ∧
    ∃ row : Assignment, (∀ move ∈ afterMerging, move.2.Avoids e.workspace e.id merged ∧
      move.2.Avoids e.workspace e.id row.subject) ∧
    ∃ next, Operation.run e.workspace ⟨4⟩
        (Scene.empty.play (beforeMerging ++ (⟨2⟩, e.asked ⟨merged, none⟩) :: afterMerging)).store
        (.convert e.key ⟨merged, some 9.5, none⟩) = (.ok (.recorded true), next) ∧
      (∃ b ∈ next.assignments, b.id = "id-4") ∧
      ∀ b ∈ next.assignments, b.convertedAt = if b.id = "id-4" then some ⟨4⟩ else none := by
  obtain ⟨e, present, workspace, key, id, running⟩ : ∃ e ∈ (Scene.empty.play beforeMerging).store.experiments,
      e.workspace = "shop" ∧ e.key = "price" ∧ e.id = "id-1" ∧ e.status = .running := by decide +kernel
  have shown : (Scene.empty.play beforeMerging).store.shows "shop" ⟨2⟩ (.assign "price" ⟨merged, none⟩) =
      some ("id-4", "b", false) := by decide +kernel
  obtain ⟨decision, serves, older, _⟩ := Store.Serves.of_shows present workspace key running shown
  have asked : e.asked ⟨merged, none⟩ = .perform "shop" (.assign "price" ⟨merged, none⟩) := by
    rw [Experiment.asked, workspace, key]
  have forward : ((beforeMerging ++ (⟨2⟩, e.asked ⟨merged, none⟩) :: afterMerging).map (·.1)).Pairwise (· ≤ ·) := by
    rw [asked]
    decide
  have unpinned : ∀ move ∈ afterMerging, ∀ workspace id request, move.2 ≠ .perform workspace (.pin id request) := by
    simp [afterMerging]
  have avoids (subject : Subject) : ∀ move ∈ afterMerging, move.2.Avoids e.workspace e.id subject :=
    fun move member request hit => absurd hit (unpinned move member _ _ request)
  obtain ⟨row, backs, credits⟩ := conversions_credit_shown forward serves
  have both := fun move member => And.intro (avoids merged move member) (avoids row.subject move member)
  obtain ⟨a, there, same, credited⟩ := credits both
  have first : row.id = "id-4" := backs.id.symm.trans older
  have waiting : ∀ a ∈ (Scene.empty.play (beforeMerging ++ (⟨2⟩, .perform "shop" (.assign "price" ⟨merged, none⟩)) ::
      afterMerging)).store.assignments, a.convertedAt = none := by decide +kernel
  rw [← asked] at waiting
  have recorded := credited ⟨4⟩ ⟨merged, some 9.5, none⟩ rfl
  rw [if_pos (waiting a there), first] at recorded
  refine ⟨e, decision, forward, serves, older, row, both, _, recorded, ⟨_, List.mem_map_of_mem there, ?_⟩, ?_⟩
  · rw [if_pos (same.id.trans first)]
    exact same.id.trans first
  · intro b changed
    obtain ⟨old, kept, rfl⟩ := List.mem_map.mp changed
    by_cases hit : old.id = "id-4"
    · simp [hit]
    · simp [hit, waiting old kept]

end Cohort
