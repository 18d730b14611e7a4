import Cohort.Proofs.Sticky

-- An identifier leads to the row that was stored with it. A request that finds a row by one of its identifiers leaves
-- the row as it is, so that the others lead nowhere and get rows of their own.
namespace Cohort

theorem Assignment.standsFor_one {subject : Subject} {i : IdentifierKind × String} (one : subject.identifiers = [i])
    {row : Assignment} (kept : row.subject.key = some row.subjectKey) :
    row.standsFor subject = true ↔ i ∈ row.subject.identifiers := by
  rw [standsFor_shares kept, Subject.Shares, one]
  simp

namespace Store
variable {s : Store} {now : Moment} {e : Experiment} {request : DecisionRequest} {decision : Decision}
  {a : Assignment} {i : IdentifierKind × String}

theorem Sound.found_holder (sound : s.Sound) (present : a ∈ s.assignments) {subject : Subject}
    (one : subject.identifiers = [i]) (held : i ∈ a.subject.identifiers) :
    s.find? a.experiment subject = some a := by
  refine sound.found_alone present ((Assignment.standsFor_one one (sound.tidy a present).key).mpr held) ?_
  intro x there together stands
  exact sound.one_holder there present together ((Assignment.standsFor_one one (sound.tidy x there).key).mp stands) held

theorem Serves.holder (serves : s.Serves now e request decision) (sound : s.Sound) (present : a ∈ s.assignments)
    (own : a.experiment = e.id) (one : request.subject.identifiers = [i]) :
    decision.assignment = a.id ↔ i ∈ a.subject.identifiers := by
  constructor
  · have decides := serves.decides sound
    generalize (Operation.run e.workspace now s (.assign e.key request)).2 = next at decides
    cases decides with
    | seen b v found there named =>
      intro hit
      obtain ⟨member, _, stands⟩ := find?_some found
      obtain rfl : b = a := sound.same_row member present hit
      exact (Assignment.standsFor_one one (sound.tidy b member).key).mp stands
    | drawn v key missing there owned kept free =>
      intro hit
      exact absurd hit.symm (sound.rowsIssued a present).ne_next
  · intro held
    exact (serves.shown sound (own ▸ sound.found_holder present one held)).1

end Store

theorem identifiers_keep_rows {scene : Scene} (played : scene.Played) {now : Moment} {e : Experiment}
    {request : DecisionRequest} {decision : Decision} (serves : scene.store.Serves now e request decision)
    {later : List (Moment × Move)}
    (unpinned : ∀ move ∈ later, ∀ pin, move.2 ≠ .perform e.workspace (.pin e.id pin)) :
    ∃ row, (scene.after now (e.asked request)).store.Backs e row decision ∧
      (decision.isNew = true → row.subject = request.subject) ∧
      ∀ i time x again next, x.id = e.id → again.subject.identifiers = [i] →
        ((scene.after now (e.asked request)).play later).store.Serves time x again next →
        (next.assignment = row.id ↔ i ∈ row.subject.identifiers) ∧
        (i ∈ row.subject.identifiers → next.variant = decision.variant ∧ next.isNew = false) := by
  have ready := played.ready
  obtain ⟨committed, after⟩ := Scene.after_commits ready now (e.asked request)
  obtain ⟨row, backs, new⟩ := (serves.decides ready.sound).backed ready.sound
  refine ⟨row, backs, new, ?_⟩
  intro i time x again next same one serves'
  have sound := (Scene.play_ready after later).sound
  have kept := Scene.play_kept after later
  have launched := (committed.kept ready.sound).launched _ _ serves.launched
  have owns := kept.owns _ _ _ (backs.experiment ▸ launched) (after.sound.refers row backs.present).variant
  obtain ⟨a, there, alike⟩ := Scene.rows_stay after backs.present (backs.experiment ▸ launched.holds)
    (fun move member pin hit => absurd (backs.experiment ▸ hit) (unpinned move member pin)) owns
  have own : a.experiment = x.id := alike.experiment.trans (backs.experiment.trans same.symm)
  refine ⟨?_, ?_⟩
  · rw [← alike.id, ← alike.subject]
    exact serves'.holder sound there own one
  · intro held
    have found := sound.found_holder there one (alike.subject ▸ held)
    exact (serves'.still sound (own ▸ found) alike kept after.sound backs).2

-- A session that is first named together with a known customer is shown her variant; alone it gets a row and a variant
-- of its own.
def knownCustomer : Scene :=
  Scene.empty.play (Scene.shop ++ [(⟨1⟩, .perform "shop" (.assign "price" ⟨⟨some "ann", none, none⟩, none⟩))])

def withSession : DecisionRequest := ⟨⟨some "ann", some "bob", none⟩, none⟩

def sessionAlone : DecisionRequest := ⟨⟨none, some "bob", none⟩, none⟩

theorem session_not_kept : knownCustomer.Played ∧ ∃ e decision,
    knownCustomer.store.Serves ⟨2⟩ e withSession decision ∧ decision.variant = "a" ∧
    (IdentifierKind.session, "bob") ∈ withSession.subject.identifiers ∧
    (∀ move ∈ ([] : List (Moment × Move)), ∀ pin, move.2 ≠ .perform e.workspace (.pin e.id pin)) ∧
    sessionAlone.subject.identifiers = [(IdentifierKind.session, "bob")] ∧ ∃ row x next,
      (knownCustomer.after ⟨2⟩ (e.asked withSession)).store.Backs e row decision ∧ x.id = e.id ∧
      (knownCustomer.after ⟨2⟩ (e.asked withSession)).store.Serves ⟨3⟩ x sessionAlone next ∧
      next.variant = "b" ∧ (IdentifierKind.session, "bob") ∉ row.subject.identifiers := by
  obtain ⟨e, present, workspace, key, id, running, shown⟩ : ∃ e ∈ knownCustomer.store.experiments,
      e.workspace = "shop" ∧ e.key = "price" ∧ e.id = "id-1" ∧ e.status = .running ∧
        knownCustomer.store.shows "shop" ⟨2⟩ (.assign "price" withSession) = some ("id-4", "a", false) := by
    decide +kernel
  obtain ⟨decision, serves, known, variant, _⟩ := Store.Serves.of_shows present workspace key running shown
  have asked : e.asked withSession = .perform "shop" (.assign "price" withSession) := by
    rw [Experiment.asked, workspace, key]
  obtain ⟨x, there, workspace', key', id', running', shown'⟩ :
      ∃ x ∈ (knownCustomer.after ⟨2⟩ (.perform "shop" (.assign "price" withSession))).store.experiments,
        x.workspace = "shop" ∧ x.key = "price" ∧ x.id = "id-1" ∧ x.status = .running ∧
        (knownCustomer.after ⟨2⟩ (.perform "shop" (.assign "price" withSession))).store.shows "shop" ⟨3⟩
          (.assign "price" sessionAlone) = some ("id-5", "b", true) := by decide +kernel
  obtain ⟨next, serves', fresh, variant', _⟩ := Store.Serves.of_shows there workspace' key' running' shown'
  rw [← asked] at serves'
  have played : knownCustomer.Played := ⟨_, rfl⟩
  have same : x.id = e.id := id'.trans id.symm
  have unpinned : ∀ move ∈ ([] : List (Moment × Move)), ∀ pin, move.2 ≠ .perform e.workspace (.pin e.id pin) := by simp
  have one : sessionAlone.subject.identifiers = [(IdentifierKind.session, "bob")] := by decide
  obtain ⟨row, backs, _, keeps⟩ := identifiers_keep_rows played serves unpinned
  obtain ⟨holder, _⟩ := keeps _ ⟨3⟩ x sessionAlone next same one serves'
  refine ⟨played, e, decision, serves, variant, by decide, unpinned, one, row, x, next, backs, same, serves', variant',
    ?_⟩
  rw [← holder, fresh, ← backs.id, known]
  decide

end Cohort
