import Cohort.Proofs.Overrides

-- Targeting and traffic are asked before the rows are, so a pinned subject is shown its variant only where it would have
-- been let in without the pin.
namespace Cohort

namespace Experiment
variable {e : Experiment}

theorem admits_plain (plain : e.strays = {}) (attributes : Option Json.Members) :
    e.admits attributes = .ok (Targeting.admits (some e.targeting) attributes) := by
  simp [admits, plain]

theorem letsIn_plain (plain : e.strays = {}) (id : String) :
    e.letsIn id = .ok (Bucket.inTraffic e.key e.traffic id) := by
  simp [letsIn, plain]

def Opens (e : Experiment) (attributes : Option Json.Members) (id : String) : Prop :=
  Targeting.admits (some e.targeting) attributes = true ∧ Bucket.inTraffic e.key e.traffic id = true

instance (attributes : Option Json.Members) (id : String) : Decidable (e.Opens attributes id) :=
  inferInstanceAs (Decidable (_ ∧ _))

theorem Opens.takes {subject : Subject} {attributes : Option Json.Members} {id : String}
    (opens : e.Opens attributes id) (plain : e.strays = {}) (running : e.status = .running)
    (bucket : subject.bucketId = some id) : e.Takes subject attributes where
  running := running
  targeted := (admits_plain plain attributes).trans (congrArg _ opens.1)
  letIn := ⟨id, bucket, (letsIn_plain plain id).trans (congrArg _ opens.2)⟩

end Experiment

-- Whoever is not let in is turned away, whatever is stored for him.
theorem Visit.enter_shut {visit : Visit} {s : Store} {e : Experiment} {id : String} (plain : e.strays = {})
    (running : e.status = .running) (bucket : visit.subject.bucketId = some id)
    (shut : ¬ e.Opens visit.attributes id) : visit.enter s e = .settled (.ok none) := by
  unfold enter
  rw [if_neg (by simp [running]), Experiment.admits_plain plain, bucket]
  cases admitted : Targeting.admits (some e.targeting) visit.attributes with
  | false => rfl
  | true =>
    cases inside : Bucket.inTraffic e.key e.traffic id with
    | false => simp only [Experiment.letsIn_plain plain, inside]
    | true => exact absurd ⟨admitted, inside⟩ shut

namespace Store.Sound
variable {s : Store}

theorem found_own (sound : s.Sound) {row : Assignment} (present : row ∈ s.assignments) :
    s.find? row.experiment row.subject = some row := by
  have stands : row.standsFor row.subject = true := Assignment.standsFor_exact.mpr (.inr (sound.tidy row present).key)
  refine sound.found_alone present stands fun x there together matches' => ?_
  obtain ⟨i, mine, theirs⟩ := (Assignment.standsFor_shares (sound.tidy x there).key).mp matches'
  exact sound.one_holder there present together theirs mine

theorem assign_known (sound : s.Sound) {e : Experiment} (present : e ∈ s.experiments) (now : Moment)
    (request : DecisionRequest) : Operation.run e.workspace now s (.assign e.key request) =
      ((Operation.visitOf e.workspace now request).settle
        ((Operation.visitOf e.workspace now request).enter s e) s).map .decision := by
  let visit := Operation.visitOf e.workspace now request
  have looked : visit.look e.key s = visit.enter s e := Visit.look_known sound present rfl
  have first := Decision.assign_looks visit e.key s
  rw [looked] at first
  exact congrArg (Outcome.map Answer.decision) first

end Store.Sound

theorem pins_wait_at_gates {scene : Scene} (played : scene.Played) {now : Moment} {e : Experiment} {v : Variant}
    {subject : Subject} {decision : Decision} (present : e ∈ scene.store.experiments) (running : e.status = .running)
    (there : v ∈ scene.store.variants) (own : v.experiment = e.id)
    (answered : (Operation.run e.workspace now scene.store (.pin e.id ⟨subject, v.id⟩)).1 =
      .ok (.decision (some decision))) :
    let pinned := (scene.after now (e.pinning ⟨subject, v.id⟩)).store
    ∃ id, subject.bucketId = some id ∧ ∀ time attributes,
      Operation.run e.workspace time pinned (.assign e.key ⟨subject, attributes⟩) =
        if e.Opens attributes id then
          (.ok (.decision (some (Decision.of e v decision.assignment false))),
            (Act.expose decision.assignment).apply e.workspace time pinned)
        else (.ok (.decision none), pinned) := by
  intro pinned
  obtain ⟨key, allowed, written, named, _⟩ := Decision.pin_written played.ready.sound there answered
  have stored : pinned = (Act.pin e.id v.id subject key).apply e.workspace now scene.store := written
  have sound : pinned.Sound := (Scene.after_commits played.ready now (e.pinning ⟨subject, v.id⟩)).2.sound
  obtain ⟨id, bucket⟩ := Subject.bucketId_some.mpr (Subject.key_some.mp ⟨key, allowed.2.2.1⟩)
  refine ⟨id, bucket, ?_⟩
  intro time attributes
  have listed : e ∈ pinned.experiments := stored ▸ present
  have plain := sound.plain e listed
  rw [sound.assign_known listed]
  by_cases opens : e.Opens attributes id
  · let row := scene.store.pinnedRow e.workspace now e.id v.id subject key
    have kept : row ∈ pinned.assignments := stored ▸ List.mem_append_right _ (List.mem_singleton_self _)
    have found : pinned.find? e.id subject = some row := sound.found_own kept
    obtain ⟨w, member, drawn, settled⟩ :=
      Visit.settle_shown (e := e) (Operation.visitOf e.workspace time ⟨subject, attributes⟩) sound kept
    obtain rfl : w = v := sound.same_variant member (stored ▸ there) drawn
    rw [if_pos opens, Visit.enter_found (opens.takes plain running bucket) found, settled, named]
    rfl
  · rw [if_neg opens, Visit.enter_shut plain running bucket opens, Visit.settle_settled]
    rfl

-- A price that is tried on professionals, pinned for somebody who tests it.
def forPros : Scene :=
  Scene.empty.play (Scene.shop ++ [(⟨0⟩, .perform "shop" (.update "id-1"
    ⟨none, none, none, some (some [("plan", .string "pro")]), none, none, none⟩))])

def tester : Subject := ⟨none, none, some "qa"⟩

theorem tester_waits_at_gates : forPros.Played ∧ ∃ e ∈ forPros.store.experiments, e.status = .running ∧
    ∃ v ∈ forPros.store.variants, v.experiment = e.id ∧ v.key = "b" ∧ ∃ decision,
    (Operation.run e.workspace ⟨1⟩ forPros.store (.pin e.id ⟨tester, v.id⟩)).1 = .ok (.decision (some decision)) ∧
    (Operation.run e.workspace ⟨2⟩ (forPros.after ⟨1⟩ (e.pinning ⟨tester, v.id⟩)).store
      (.assign e.key ⟨tester, none⟩)).1 = .ok (.decision none) ∧
    (Operation.run e.workspace ⟨2⟩ (forPros.after ⟨1⟩ (e.pinning ⟨tester, v.id⟩)).store
      (.assign e.key ⟨tester, some [("plan", .string "pro")]⟩)).1 =
        .ok (.decision (some (Decision.of e v decision.assignment false))) := by
  obtain ⟨e, present, workspace, id, running, shut, opens⟩ : ∃ e ∈ forPros.store.experiments, e.workspace = "shop" ∧
      e.id = "id-1" ∧ e.status = .running ∧ ¬ e.Opens none "qa" ∧ e.Opens (some [("plan", .string "pro")]) "qa" := by
    decide +kernel
  obtain ⟨v, there, named, own, key⟩ : ∃ v ∈ forPros.store.variants, v.id = "id-3" ∧ v.experiment = "id-1" ∧
      v.key = "b" := by decide +kernel
  have shown : forPros.store.shows "shop" ⟨1⟩ (.pin "id-1" ⟨tester, "id-3"⟩) = some ("id-4", "b", true) := by
    decide +kernel
  obtain ⟨decision, answered, _⟩ := Store.shows_exact.mp shown
  rw [← workspace, ← id, ← named] at answered
  have played : forPros.Played := ⟨_, rfl⟩
  have own : v.experiment = e.id := own.trans id.symm
  obtain ⟨known, bucket, asked⟩ := pins_wait_at_gates played present running there own answered
  obtain rfl : "qa" = known := Option.some.inj bucket
  refine ⟨played, e, present, running, v, there, own, key, decision, answered, ?_, ?_⟩
  · rw [asked ⟨2⟩ none, if_neg shut]
  · rw [asked ⟨2⟩ (some _), if_pos opens]

end Cohort
