import Cohort.Proofs.Draws
import Cohort.Proofs.Rounds
import Cohort.Proofs.Showings
import Cohort.Proofs.Winners

-- A larger share of the traffic lets in everybody whom a smaller one lets in. The share decides about nothing else: it
-- has no part in which row is found, which variant is drawn and which id a new row is given.
namespace Cohort

theorem Bucket.inTraffic_mono {key subject : String} {less more : Int} (ramp : less ≤ more)
    (inside : inTraffic key less subject = true) : inTraffic key more subject = true := by
  simp only [inTraffic, Bool.or_eq_true, decide_eq_true_eq] at inside ⊢
  omega

def ExperimentChanges.ofShare (share : Share) : ExperimentChanges where
  name := none
  description := none
  traffic := some (some share)
  targeting := none
  startAt := none
  endAt := none
  metadata := none

def Experiment.ramped (e : Experiment) (share : Share) (touched : Option Moment) : Experiment :=
  { e with traffic := share.val, updatedAt := touched }

def Store.ramp (s : Store) (e : Experiment) (share : Share) (time : Moment) : Store :=
  (Operation.run e.workspace time s (.update e.id (.ofShare share))).2

namespace Change

-- A column that is kept is not written.

@[simp] theorem plain_keep [DecidableEq α] (stored : α) : plain stored .keep = none := rfl

@[simp] theorem members_keep (stored : Json.Members) : members stored .keep = none := rfl

@[simp] theorem time_keep (stored : Option Moment) : time stored .keep = none := rfl

@[simp] theorem replacing_keep (stray : Option Json) (written : Change α → Option α) :
    replacing stray written .keep = written .keep := by cases stray <;> rfl

theorem plain_set_isSome [DecidableEq α] {stored a : α} : ((set a).plain stored).isSome = decide (stored ≠ a) := by
  by_cases same : stored = a <;> simp [plain, written, same]

end Change

namespace ExperimentChanges
variable {e : Experiment} (plain : e.strays = {}) (share : Share)

theorem ofShare_revision : (ofShare share).revision = { traffic := .set share.val } := rfl

include plain

theorem ofShare_newTraffic :
    (ofShare share).revision.newTraffic e = (Change.set share.val).plain e.traffic := by
  rw [ofShare_revision, ExperimentRevision.newTraffic, plain]
  rfl

theorem ofShare_alters : (ofShare share).revision.alters e = decide (e.traffic ≠ share.val) := by
  unfold ExperimentRevision.alters
  rw [ofShare_newTraffic plain, Change.plain_set_isSome]
  simp [ofShare_revision, ExperimentRevision.newTargeting, ExperimentRevision.newMetadata]

theorem ofShare_applied (now : Moment) : (ofShare share).revision.applied now e = e.ramped share (some now) := by
  unfold ExperimentRevision.applied
  rw [ofShare_newTraffic plain, Change.plain_set]
  simp [ofShare_revision, Experiment.ramped, ExperimentRevision.newTargeting, ExperimentRevision.newMetadata, plain]

end ExperimentChanges

namespace Store

structure SameRows (s t : Store) : Prop where
  variants : t.variants = s.variants
  assignments : t.assignments = s.assignments
  drawn : t.drawn = s.drawn
  writable : t.writable = s.writable

namespace SameRows
variable {s t u : Store}

theorem refl (s : Store) : s.SameRows s := ⟨rfl, rfl, rfl, rfl⟩

theorem symm (rows : s.SameRows t) : t.SameRows s :=
  ⟨rows.variants.symm, rows.assignments.symm, rows.drawn.symm, rows.writable.symm⟩

theorem trans (first : s.SameRows t) (second : t.SameRows u) : s.SameRows u :=
  ⟨second.variants.trans first.variants, second.assignments.trans first.assignments, second.drawn.trans first.drawn,
    second.writable.trans first.writable⟩

theorem find? (rows : s.SameRows t) (experiment : String) (subject : Subject) :
    t.find? experiment subject = s.find? experiment subject := by
  unfold Store.find? rowsOf
  rw [rows.assignments]

theorem variantsOf (rows : s.SameRows t) (experiment : String) : t.variantsOf experiment = s.variantsOf experiment := by
  unfold Store.variantsOf
  rw [rows.variants]

theorem exposed (rows : s.SameRows t) (row workspace : String) (now : Moment) :
    ((Act.expose row).apply workspace now s).SameRows ((Act.expose row).apply workspace now t) where
  variants := rows.variants
  assignments := congrArg (List.map _) rows.assignments
  drawn := rows.drawn
  writable := rows.writable

theorem draw (rows : s.SameRows t) : s.draw.SameRows t.draw :=
  ⟨rows.variants, rows.assignments, congrArg (· + 1) rows.drawn, rows.writable⟩

theorem insertAssignment (rows : s.SameRows t) (row : Assignment) :
    (∃ fault, s.insertAssignment row = .error fault ∧ t.insertAssignment row = .error fault) ∨
      ∃ s' t', s.insertAssignment row = .ok s' ∧ t.insertAssignment row = .ok t' ∧ s'.SameRows t' := by
  unfold Store.insertAssignment
  rw [rows.writable, rows.assignments]
  split
  · exact .inl ⟨_, rfl, rfl⟩
  · split
    · exact .inl ⟨_, rfl, rfl⟩
    · exact .inr ⟨_, _, rfl, rfl, rows.variants, rfl, rows.drawn, rfl⟩

-- The new row is the same to its id, or it is refused for the same reason.
theorem addDrawn (rows : s.SameRows t) (now : Moment) (workspace experiment variant : String) (subject : Subject) :
    (t.addDrawn now workspace experiment variant subject).1 = (s.addDrawn now workspace experiment variant subject).1 ∧
      (s.addDrawn now workspace experiment variant subject).2.SameRows
        (t.addDrawn now workspace experiment variant subject).2 := by
  have next : t.nextId = s.nextId := congrArg (fun n => idOf (n + 1)) rows.drawn
  unfold Store.addDrawn addSubject
  rw [rows.writable, next]
  cases subject.key with
  | none => exact ⟨rfl, rows.draw⟩
  | some key =>
    rcases rows.draw.insertAssignment (.new s.nextId workspace experiment variant subject key .auto (some now) now) with
      ⟨fault, refused, refused'⟩ | ⟨s', t', stored, stored', same⟩
    · simp only [refused, refused']
      exact ⟨trivial, rows.draw⟩
    · simp only [stored, stored']
      exact ⟨trivial, same⟩

end SameRows

namespace Sound
variable {s : Store} {e : Experiment}

theorem ramp_sound (sound : s.Sound) (e : Experiment) (share : Share) (time : Moment) : (s.ramp e share time).Sound :=
  (Operation.run_commits sound e.workspace time (.update e.id (.ofShare share))).sound sound

-- The update is done, and changes the experiment alone. If the share is the one that is stored it is not even sent.
theorem ramps (sound : s.Sound) (present : e ∈ s.experiments) (share : Share) (time : Moment) :
    ∃ touched, (Operation.run e.workspace time s (.update e.id (.ofShare share))).1 =
        .ok (.experiment ⟨e.ramped share touched, s.variantsOf e.id⟩) ∧
      e.ramped share touched ∈ (s.ramp e share time).experiments ∧ s.SameRows (s.ramp e share time) := by
  have plain := sound.plain e present
  have written : s.updateExperiment time e (ExperimentChanges.ofShare share).revision = _ :=
    sound.updates present (.update (.ofShare share))
  have word : (s.view e).experiment = e := rfl
  unfold ramp
  simp only [Operation.run, Catalogue.update, Catalogue.revise, sound.viewed present, bind, Except.bind]
  rw [word, written, ExperimentChanges.ofShare_alters plain, ExperimentChanges.ofShare_applied plain]
  by_cases same : e.traffic = share.val
  · have stays : e.ramped share e.updatedAt = e := by rw [Experiment.ramped, ← same]
    refine ⟨e.updatedAt, ?_⟩
    rw [stays]
    simp only [same, ne_eq, not_true, decide_false, Bool.false_eq_true, if_false]
    exact ⟨rfl, present, .refl s⟩
  · refine ⟨some time, ?_⟩
    simp only [same, ne_eq, not_false_eq_true, decide_true, if_true]
    exact ⟨rfl, List.mem_map.mpr ⟨e, present, if_pos rfl⟩, rfl, rfl, rfl, rfl⟩

end Sound
end Store
namespace Visit
variable {s t : Store} {visit : Visit} {e : Experiment}

-- Whoever gets a decision from a running experiment has been let in.
theorem decided_opens (plain : e.strays = {}) (running : e.status = .running) {decision : Decision}
    (decided : (visit.settle (visit.enter s e) s).1 = .ok (some decision)) :
    ∃ id, visit.subject.bucketId = some id ∧ e.Opens visit.attributes id := by
  cases bucket : visit.subject.bucketId with
  | none =>
    rw [enter_unnamed running plain bucket, settle_settled] at decided
    split at decided
    · cases decided
    · cases decided
  | some id =>
    refine ⟨id, rfl, ?_⟩
    by_contra shut
    rw [enter_shut plain running bucket shut, settle_settled] at decided
    cases decided

-- Of an experiment that lets the subject in, the request looks at nothing but the id and the key.
theorem settle_same_rows (visit : Visit) (rows : s.SameRows t) (sound : s.Sound) (sound' : t.Sound) {x : Experiment}
    (present : e ∈ s.experiments) (there : x ∈ t.experiments) (id : x.id = e.id) (key : x.key = e.key)
    (takes : e.Takes visit.subject visit.attributes) (takes' : x.Takes visit.subject visit.attributes) :
    (visit.settle (visit.enter t x) t).1 = (visit.settle (visit.enter s e) s).1 ∧
      (visit.settle (visit.enter s e) s).2.SameRows (visit.settle (visit.enter t x) t).2 := by
  have told (v : Variant) (row : String) (isNew : Bool) : Decision.of x v row isNew = Decision.of e v row isNew := by
    rw [Decision.of, key, Decision.of]
  have looks : t.find? x.id visit.subject = s.find? e.id visit.subject := id ▸ rows.find? x.id visit.subject
  cases found : s.find? e.id visit.subject with
  | some row =>
    have found' := looks.trans found
    obtain ⟨v, shown, named, settled⟩ := settle_shown (e := e) visit sound (Store.find?_some found).1
    obtain ⟨w, shown', named', settled'⟩ := settle_shown (e := x) visit sound' (Store.find?_some found').1
    rw [rows.variants] at shown'
    obtain rfl : w = v := sound.same_variant shown' shown (named'.trans named.symm)
    rw [enter_found takes found, enter_found takes' found', settled, settled', told]
    exact ⟨rfl, rows.exposed row.id visit.workspace visit.now⟩
  | none =>
    have missing := looks.trans found
    obtain ⟨v, _, _, entered⟩ := enter_missing sound present takes found
    obtain ⟨w, _, _, entered'⟩ := enter_missing sound' there takes' missing
    obtain ⟨_, known, bucket, selected⟩ := enter_inserting entered
    obtain ⟨_, known', bucket', selected'⟩ := enter_inserting entered'
    obtain rfl : known = known' := Option.some.inj (bucket.symm.trans bucket')
    rw [id, key, rows.variantsOf, selected] at selected'
    obtain rfl : v = w := Except.ok.inj selected'
    obtain ⟨answer, after⟩ := rows.addDrawn visit.now visit.workspace e.id v.id visit.subject
    rw [entered, entered', settle_missing found, settle_missing missing, id]
    simp only [Outcome.map, told, answer]
    exact ⟨trivial, after⟩

-- Where no identifier is empty, a row is found or there is room for one.
theorem settle_decided (visit : Visit) (sound : s.Sound) (present : e ∈ s.experiments)
    (takes : e.Takes visit.subject visit.attributes) (unblank : ∀ kind, ¬ visit.subject.Blank kind) :
    ∃ decision, (visit.settle (visit.enter s e) s).1 = .ok (some decision) := by
  cases found : s.find? e.id visit.subject with
  | some row =>
    obtain ⟨v, _, _, settled⟩ := settle_shown (e := e) visit sound (Store.find?_some found).1
    rw [enter_found takes found, settled]
    exact ⟨_, rfl⟩
  | none =>
    obtain ⟨v, _, _, entered⟩ := enter_missing sound present takes found
    obtain ⟨key, kept⟩ := Subject.key_some.mpr takes.named
    have unshared : ¬ s.HasShared e.id visit.subject := by
      intro shared
      obtain ⟨row, other⟩ := (sound.find?_shared takes.named).mpr shared
      cases found.symm.trans other
    rw [entered, settle_missing found,
      sound.addDrawn_unshared visit.now visit.workspace e.id v.id kept unblank unshared]
    exact ⟨_, rfl⟩

end Visit

-- While an experiment is running its share of the traffic is set. A larger share gives whoever got a decision the same
-- one and leaves the same rows, and a full share gives one to everybody at whom the experiment is targeted.
theorem ramps_keep_decisions {s : Store} (attained : Attained s) {e : Experiment} (present : e ∈ s.experiments)
    (running : e.status = .running) (now : Moment) (request : DecisionRequest) :
    let ask := fun t => Operation.run e.workspace now t (.assign e.key request)
    (∀ share time, ∃ touched, (Operation.run e.workspace time s (.update e.id (.ofShare share))).1 =
        .ok (.experiment ⟨e.ramped share touched, s.variantsOf e.id⟩) ∧
      e.ramped share touched ∈ (s.ramp e share time).experiments ∧ s.SameRows (s.ramp e share time)) ∧
    (∀ less more : Share, less.val ≤ more.val → ∀ time time' decision,
      (ask (s.ramp e less time)).1 = .ok (.decision (some decision)) →
        (ask (s.ramp e more time')).1 = .ok (.decision (some decision)) ∧
          (ask (s.ramp e less time)).2.SameRows (ask (s.ramp e more time')).2) ∧
    (Targeting.admits (some e.targeting) request.attributes = true → request.subject.hasIdentifier = true →
      (∀ kind, ¬ request.subject.Blank kind) → ∀ time, ∃ decision,
        (ask (s.ramp e .all time)).1 = .ok (.decision (some decision))) := by
  intro ask
  have sound := attained.sound
  have ramped := sound.ramps present
  have plain := sound.plain e present
  let visit := Operation.visitOf e.workspace now request
  -- the update leaves the experiment its place and its key
  have asked : ∀ share time touched, e.ramped share touched ∈ (s.ramp e share time).experiments →
      ask (s.ramp e share time) = (visit.settle (visit.enter (s.ramp e share time) (e.ramped share touched))
        (s.ramp e share time)).map .decision :=
    fun share time touched there => (sound.ramp_sound e share time).assign_known there now request
  refine ⟨ramped, ?_, ?_⟩
  · intro less more wider time time' decision answered
    obtain ⟨touched, _, there, rows⟩ := ramped less time
    obtain ⟨touched', _, there', rows'⟩ := ramped more time'
    rw [asked less time touched there] at answered ⊢
    rw [asked more time' touched' there']
    obtain ⟨served, decided, same⟩ := Outcome.map_ok answered
    cases same
    obtain ⟨id, bucket, targeted, inside⟩ := Visit.decided_opens (e := e.ramped less touched) plain running decided
    have opens : (e.ramped less touched).Opens request.attributes id := ⟨targeted, inside⟩
    have opens' : (e.ramped more touched').Opens request.attributes id := ⟨targeted, Bucket.inTraffic_mono wider inside⟩
    obtain ⟨answer, after⟩ := visit.settle_same_rows (rows.symm.trans rows')
      (sound.ramp_sound e less time) (sound.ramp_sound e more time') there there' rfl rfl
      (opens.takes plain running bucket) (opens'.takes plain running bucket)
    refine ⟨?_, after⟩
    rw [Outcome.map, answer, decided]
    rfl
  · intro targeted named unblank time
    obtain ⟨touched, _, there, _⟩ := ramped .all time
    obtain ⟨id, bucket⟩ := Subject.bucketId_some.mpr named
    have opens : (e.ramped .all touched).Opens request.attributes id := ⟨targeted, rfl⟩
    obtain ⟨decision, decided⟩ := visit.settle_decided (sound.ramp_sound e .all time) there
      (opens.takes plain running bucket) unblank
    refine ⟨decision, ?_⟩
    rw [asked .all time touched there, Outcome.map, decided]
    rfl

-- A customer who is let in from thirty-one per cent on, and one whom nothing less than a full share lets in.
def annAsks : DecisionRequest := ⟨⟨some "ann", none, none⟩, none⟩

def calAsks : DecisionRequest := ⟨⟨some "cal", none, none⟩, none⟩

example : Bucket.trafficHash "price" "ann" % 100 = 30 ∧ Bucket.trafficHash "price" "cal" % 100 = 99 := by decide +kernel

theorem price_ramps : Attained (Scene.empty.play Scene.shop).store ∧
    ∃ e ∈ (Scene.empty.play Scene.shop).store.experiments, e.status = .running ∧ e.key = "price" ∧
    (∃ decision, decision.isNew = true ∧ ∀ time, ∀ more : Share, 31 ≤ more.val →
      (Operation.run e.workspace ⟨3⟩ ((Scene.empty.play Scene.shop).store.ramp e more time) (.assign e.key annAsks)).1 =
        .ok (.decision (some decision))) ∧
    ∀ time, ∃ decision, (Operation.run e.workspace ⟨3⟩ ((Scene.empty.play Scene.shop).store.ramp e .all time)
      (.assign e.key calAsks)).1 = .ok (.decision (some decision)) := by
  have attained : Attained (Scene.empty.play Scene.shop).store := ⟨_, rfl⟩
  obtain ⟨e, present, workspace, id, key, running, open'⟩ : ∃ e ∈ (Scene.empty.play Scene.shop).store.experiments,
      e.workspace = "shop" ∧ e.id = "id-1" ∧ e.key = "price" ∧ e.status = .running ∧ e.targeting.isEmpty = true := by
    decide +kernel
  have shown : (Operation.run "shop" ⟨1⟩ (Scene.empty.play Scene.shop).store
      (.update "id-1" (.ofShare ⟨31, by decide⟩))).2.shows "shop" ⟨3⟩ (.assign "price" annAsks) =
        some ("id-4", "a", true) := by decide +kernel
  obtain ⟨decision, answered, _, _, new⟩ := Store.shows_exact.mp shown
  rw [← workspace, ← id, ← key] at answered
  obtain ⟨_, keeps, _⟩ := ramps_keep_decisions attained present running ⟨3⟩ annAsks
  obtain ⟨_, _, full⟩ := ramps_keep_decisions attained present running ⟨3⟩ calAsks
  have targeted : Targeting.admits (some e.targeting) calAsks.attributes = true := by
    rw [List.isEmpty_iff.mp open']
    rfl
  have unblank : ∀ kind, ¬ calAsks.subject.Blank kind := by
    intro kind
    cases kind <;> simp [calAsks, Subject.Blank, Subject.given]
  refine ⟨attained, e, present, running, key, ⟨decision, new, ?_⟩, full targeted rfl unblank⟩
  intro time more wider
  exact (keeps ⟨31, by decide⟩ more wider ⟨1⟩ time decision answered).1

end Cohort
