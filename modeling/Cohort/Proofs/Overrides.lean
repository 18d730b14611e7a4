import Mathlib.Data.List.Perm.Subperm
import Cohort.Proofs.BlankIdentifiers
import Cohort.Proofs.Sticky

-- What an override leaves in the experiment, and that its row is the one the subject finds from then on.
namespace Cohort

theorem length_le_of_one_each {rows : List α} {keys : List β} {holds : α → β → Prop} (distinct : rows.Nodup)
    (each : ∀ a ∈ rows, ∃ k ∈ keys, holds a k)
    (one : ∀ k ∈ keys, ∀ a ∈ rows, ∀ b ∈ rows, holds a k → holds b k → a = b) : rows.length ≤ keys.length := by
  choose key member held using each
  have injected : (rows.attach.map fun a => key a.1 a.2).Nodup := by
    refine (List.nodup_attach.mpr distinct).map_on fun a _ b _ same => Subtype.ext ?_
    exact one _ (member a.1 a.2) a.1 a.2 b.1 b.2 (held a.1 a.2) (same ▸ held b.1 b.2)
  have inside : (rows.attach.map fun a => key a.1 a.2) ⊆ keys := by
    intro k present
    obtain ⟨a, _, rfl⟩ := List.mem_map.mp present
    exact member a.1 a.2
  have bound := (injected.subperm inside).length_le
  rwa [List.length_map, List.length_attach] at bound

def Experiment.pinning (e : Experiment) (request : PinRequest) : Move := .perform e.workspace (.pin e.id request)

-- The rows that share no identifier with the subject stay, and one that is pinned for it is added. Every row that goes
-- holds an identifier of the subject that no other row holds. Everything else is as before.
structure Store.Pinned (s next : Store) (e : Experiment) (v : Variant) (subject : Subject) (row : Assignment) :
    Prop where
  rows : next.rowsOf e.id = (s.rowsOf e.id).filter (fun a => ¬ subject.Shares a.subject) ++ [row]
  fresh : ∀ a ∈ s.assignments, a.id ≠ row.id
  source : row.source = .override
  variant : row.variant = v.id
  whose : row.subject = subject
  unseen : row.exposures = 0 ∧ row.firstExposure = none ∧ row.lastExposure = none
  unconverted : row.convertedAt = none
  oneEach : ∀ i ∈ subject.identifiers, ∀ a ∈ s.rowsOf e.id, ∀ b ∈ s.rowsOf e.id, i ∈ a.subject.identifiers →
    i ∈ b.subject.identifiers → a = b
  few : ((s.rowsOf e.id).filter fun a => subject.Shares a.subject).length ≤ subject.identifiers.length
  beside : s.Beside e.id next

-- The row is the only one that stands for its subject, and the one that the experiment shows for it.
structure Store.Rules (s : Store) (e : Experiment) (v : Variant) (row : Assignment) : Prop where
  there : ∃ a ∈ s.rowsOf e.id, Sound.Same a row
  alone : ∀ x ∈ s.rowsOf e.id, x.standsFor row.subject = true ↔ x.id = row.id
  shown : ∀ now x request decision, x.id = e.id → request.subject = row.subject →
    s.Serves now x request decision →
      decision.assignment = row.id ∧ decision.variant = v.key ∧ decision.isNew = false

namespace Store.Sound
variable {s : Store} {subject : Subject} {id : String}

theorem one_each (sound : s.Sound) (id : String) (i : IdentifierKind × String) : ∀ a ∈ s.rowsOf id, ∀ b ∈ s.rowsOf id,
    i ∈ a.subject.identifiers → i ∈ b.subject.identifiers → a = b := by
  intro a first b second held also
  obtain ⟨present, own⟩ := mem_rowsOf.mp first
  obtain ⟨there, own'⟩ := mem_rowsOf.mp second
  exact sound.same_row present there (sound.one_holder present there (own.trans own'.symm) held also)

theorem few_shared (sound : s.Sound) (id : String) (subject : Subject) :
    ((s.rowsOf id).filter fun a => subject.Shares a.subject).length ≤ subject.identifiers.length := by
  have distinct : (s.rowsOf id).Nodup := (List.Nodup.of_map _ sound.rowIds).filter _
  have each : ∀ a ∈ (s.rowsOf id).filter fun a => subject.Shares a.subject, ∃ i ∈ subject.identifiers,
      i ∈ a.subject.identifiers := by
    intro a chosen
    exact of_decide_eq_true (List.mem_filter.mp chosen).2
  refine length_le_of_one_each (distinct.filter _) each ?_
  intro i _ a first b second
  exact sound.one_each id i a (List.mem_filter.mp first).1 b (List.mem_filter.mp second).1

theorem without_own (sound : s.Sound) (id : String) (subject : Subject) :
    (s.without id subject).rowsOf id = (s.rowsOf id).filter fun a => ¬ subject.Shares a.subject := by
  unfold rowsOf without
  simp only [List.filter_filter]
  refine List.filter_congr fun a present => ?_
  have stands : a.standsFor subject = true ↔ subject.Shares a.subject :=
    Assignment.standsFor_shares (sound.tidy a present).key
  by_cases shares : subject.Shares a.subject
  · simp [stands.mpr shares, shares]
  · simp [Bool.eq_false_iff.mpr (mt stands.mp shares), shares]

theorem without_other {other : String} (apart : other ≠ id) (s : Store) (subject : Subject) :
    (s.without id subject).rowsOf other = s.rowsOf other := by
  apply filter_inside
  intro a _ own
  have own : a.experiment = other := of_decide_eq_true own
  simp [own, apart]

theorem pinned (sound : s.Sound) {e : Experiment} (v : Variant) (subject : Subject) (key workspace : String)
    (now : Moment) : s.Pinned ((Act.pin e.id v.id subject key).apply workspace now s) e v subject
      (s.pinnedRow workspace now e.id v.id subject key) where
  rows := by
    rw [← sound.without_own]
    exact filter_added (s.without e.id subject).assignments (decide_eq_true rfl)
  fresh := fun a present => (sound.rowsIssued a present).ne_next
  source := rfl
  variant := rfl
  whose := rfl
  unseen := ⟨rfl, rfl, rfl⟩
  unconverted := rfl
  oneEach := fun i _ => sound.one_each e.id i
  few := sound.few_shared e.id subject
  beside := by
    refine ⟨rfl, rfl, fun other apart => ?_⟩
    rw [← without_other apart s subject]
    exact filter_skipped (s.without e.id subject).assignments (decide_eq_false apart.symm)

end Store.Sound

theorem Scene.variants_stay {scene : Scene} (ready : scene.Ready) {id variant : String}
    (owns : scene.store.Owns id variant) {moves : List (Moment × Move)}
    (kept : ∀ move ∈ moves, ∀ workspace experiment, move.2 ≠ .perform workspace (.deleteVariant experiment variant)) :
    (scene.play moves).store.Owns id variant := by
  refine play_carries (P := fun s => s.Owns id variant) ready ?_ owns
  rintro ⟨now, move⟩ member s _ ⟨made, act, sound, permitted, allowed⟩ owns
  refine Act.variant_stays sound allowed owns ?_
  rintro rfl
  obtain ⟨operation, performed, permitted⟩ := permitted.performs not_false
  cases permitted with
  | deleteVariant experiment _ => exact kept _ member _ experiment performed
  | assign _ _ visits | assignAll _ visits => cases visits
  | convert _ _ reports => cases reports

theorem Decision.pin_written {s : Store} (sound : s.Sound) {now : Moment} {e : Experiment} {v : Variant}
    {subject : Subject} {decision : Decision} (there : v ∈ s.variants)
    (answered : (Operation.run e.workspace now s (.pin e.id ⟨subject, v.id⟩)).1 = .ok (.decision (some decision))) :
    ∃ key, (Act.pin e.id v.id subject key).Allowed e.workspace now s ∧
      (Operation.run e.workspace now s (.pin e.id ⟨subject, v.id⟩)).2 =
        (Act.pin e.id v.id subject key).apply e.workspace now s ∧
      decision.assignment = s.nextId ∧ decision.variant = v.key := by
  have pins := pin_pins s e.workspace now e.id ⟨subject, v.id⟩
  simp only [Operation.run, Outcome.map] at answered ⊢
  generalize pin s e.workspace now e.id ⟨subject, v.id⟩ = outcome at pins answered ⊢
  cases pins with
  | unfit fault => cases answered
  | refused fault => cases answered
  | pinned x w key there' named allowed =>
    cases answered
    obtain rfl : w = v := sound.same_variant there' there named
    exact ⟨key, allowed, rfl, rfl, rfl⟩

theorem overrides_rule {scene : Scene} (played : scene.Played) {now : Moment} {e : Experiment} {v : Variant}
    {subject : Subject} {decision : Decision} (present : e ∈ scene.store.experiments)
    (there : v ∈ scene.store.variants) (own : v.experiment = e.id)
    (answered : (Operation.run e.workspace now scene.store (.pin e.id ⟨subject, v.id⟩)).1 =
      .ok (.decision (some decision))) :
    ∃ row, scene.store.Pinned (scene.after now (e.pinning ⟨subject, v.id⟩)).store e v subject row ∧
      (scene.after now (e.pinning ⟨subject, v.id⟩)).store.Backs e row decision ∧
      ∀ later, (∀ move ∈ later, move.2.Avoids e.workspace e.id subject) →
        ((scene.after now (e.pinning ⟨subject, v.id⟩)).play later).store.Owns e.id v.id →
        ((scene.after now (e.pinning ⟨subject, v.id⟩)).play later).store.Rules e v row := by
  have ready := played.ready
  obtain ⟨_, after⟩ := Scene.after_commits ready now (e.pinning ⟨subject, v.id⟩)
  obtain ⟨key, allowed, written, named, shown⟩ := Decision.pin_written ready.sound there answered
  have stored : (scene.after now (e.pinning ⟨subject, v.id⟩)).store = _ := written
  let row := scene.store.pinnedRow e.workspace now e.id v.id subject key
  have stands : row.standsFor subject = true := Assignment.standsFor_exact.mpr (.inr allowed.2.2.1)
  have backs : (scene.after now (e.pinning ⟨subject, v.id⟩)).store.Backs e row decision := by
    rw [stored]
    exact ⟨List.mem_append_right _ (List.mem_singleton_self _), rfl, named, v, there, rfl, own, shown.symm⟩
  refine ⟨row, stored ▸ ready.sound.pinned v subject key e.workspace now, backs, ?_⟩
  intro later avoids owns
  have sound := (Scene.play_ready after later).sound
  have held : (scene.after now (e.pinning ⟨subject, v.id⟩)).store.Holds e.workspace row.experiment := by
    rw [stored]
    exact ⟨e, present, rfl, rfl⟩
  obtain ⟨a, still, same⟩ := Scene.rows_stay after backs.present held avoids owns
  have alone : ∀ x ∈ ((scene.after now (e.pinning ⟨subject, v.id⟩)).play later).store.assignments,
      x.experiment = a.experiment → x.standsFor subject = true → x.id = a.id := by
    intro x member together matches'
    obtain ⟨i, mine, theirs⟩ := (Assignment.standsFor_shares (sound.tidy x member).key).mp matches'
    exact sound.one_holder member still together theirs (same.subject ▸ mine)
  refine ⟨⟨a, Store.mem_rowsOf.mpr ⟨still, same.experiment⟩, same⟩, ?_, ?_⟩
  · intro x listed
    obtain ⟨member, ours⟩ := Store.mem_rowsOf.mp listed
    constructor
    · intro matches'
      exact (alone x member (ours.trans same.experiment.symm) matches').trans same.id
    · intro hit
      rw [sound.same_row member still (hit.trans same.id.symm), same.standsFor]
      exact stands
  · intro time x request next ours whose serves
    have place : a.experiment = x.id := same.experiment.trans ours.symm
    have found := sound.found_alone still ((same.standsFor subject).trans stands) alone
    have asked : request.subject = subject := whose
    obtain ⟨shows, variant, old⟩ := serves.still sound (place ▸ asked ▸ found) same (Scene.play_kept after later)
      after.sound backs
    exact ⟨shows, variant.trans shown, old⟩

-- A customer and a session with rows of their own turn out to be one, while a third visitor keeps his row.
def strangers : Scene :=
  Scene.empty.play (Scene.shop ++
    [(⟨some "ann", none, none⟩ : Subject), ⟨none, some "bob", none⟩, ⟨none, none, some "u"⟩].map fun subject =>
      (⟨1⟩, .perform "shop" (.assign "price" ⟨subject, none⟩)))

def joined : Subject := ⟨some "ann", some "bob", none⟩

def afterJoining : List (Moment × Move) :=
  [Operation.pin "id-1" ⟨⟨none, none, some "u"⟩, "id-2"⟩, .assign "price" ⟨⟨some "ann", none, some "w"⟩, none⟩,
    .pause "id-1", .start "id-1"].map fun operation => (⟨3⟩, .perform "shop" operation)

theorem joined_is_pinned : strangers.Played ∧ ∃ e ∈ strangers.store.experiments, ∃ v ∈ strangers.store.variants,
    v.experiment = e.id ∧ ∃ decision, (Operation.run e.workspace ⟨2⟩ strangers.store (.pin e.id ⟨joined, v.id⟩)).1 =
      .ok (.decision (some decision)) ∧ decision.assignment = "id-7" ∧ ∃ row,
    strangers.store.Pinned (strangers.after ⟨2⟩ (e.pinning ⟨joined, v.id⟩)).store e v joined row ∧
    (∀ move ∈ afterJoining, move.2.Avoids e.workspace e.id joined) ∧
    ((strangers.after ⟨2⟩ (e.pinning ⟨joined, v.id⟩)).play afterJoining).store.Owns e.id v.id ∧
    ((strangers.after ⟨2⟩ (e.pinning ⟨joined, v.id⟩)).play afterJoining).store.Rules e v row := by
  obtain ⟨e, present, workspace, id⟩ : ∃ e ∈ strangers.store.experiments, e.workspace = "shop" ∧ e.id = "id-1" := by
    decide +kernel
  obtain ⟨v, there, named, own⟩ : ∃ v ∈ strangers.store.variants, v.id = "id-3" ∧ v.experiment = "id-1" := by
    decide +kernel
  have shown : strangers.store.shows "shop" ⟨2⟩ (.pin "id-1" ⟨joined, "id-3"⟩) = some ("id-7", "b", true) := by
    decide +kernel
  obtain ⟨decision, answered, fresh, _⟩ := Store.shows_exact.mp shown
  rw [← workspace, ← id, ← named] at answered
  have played : strangers.Played := ⟨_, rfl⟩
  have own : v.experiment = e.id := own.trans id.symm
  have avoids : ∀ move ∈ afterJoining, move.2.Avoids e.workspace e.id joined := by
    rw [workspace, id]
    intro move member request hit
    have other : request.subject = ⟨none, none, some "u"⟩ := by
      simp only [afterJoining, List.map_cons, List.map_nil, List.mem_cons, List.not_mem_nil, or_false] at member
      rcases member with rfl | rfl | rfl | rfl <;> cases hit
      rfl
    rw [other]
    decide
  have undeleted : ∀ move ∈ afterJoining, ∀ workspace experiment,
      move.2 ≠ .perform workspace (.deleteVariant experiment v.id) := by simp [afterJoining]
  obtain ⟨row, pinned, backs, rules⟩ := overrides_rule played present there own answered
  have after := (Scene.after_commits played.ready ⟨2⟩ (e.pinning ⟨joined, v.id⟩)).2
  have held : (strangers.after ⟨2⟩ (e.pinning ⟨joined, v.id⟩)).store.Owns e.id v.id :=
    ⟨v, pinned.beside.variants ▸ there, rfl, own⟩
  have owns := Scene.variants_stay after held undeleted
  exact ⟨played, e, present, v, there, own, decision, answered, fresh, row, pinned, avoids, owns,
    rules afterJoining avoids owns⟩

end Cohort
