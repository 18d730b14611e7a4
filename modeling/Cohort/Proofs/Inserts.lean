import Cohort.Proofs.Answers
import Cohort.Proofs.Scene

-- A row is added unless the subject has one. Whether it has one is found out by the insert, and what the look-up finds
-- after a refused insert is the row that was in the way, or another one of the same subject.
namespace Cohort

namespace Store
variable {s : Store} {now : Moment} {workspace experiment variant : String} {subject : Subject}

def HasShared (s : Store) (experiment : String) (subject : Subject) : Prop :=
  ∃ row ∈ s.assignments, row.experiment = experiment ∧ subject.Shares row.subject

theorem insertAssignment_repeated {row : Assignment} {violation : Violation}
    (refused : s.insertAssignment row = .error (.violates violation)) : ∃ columns, violation = .repeated columns := by
  unfold insertAssignment at refused
  split at refused
  · cases refused
  · split at refused
    · cases refused
      exact ⟨_, rfl⟩
    · cases refused

-- A subject with a key is refused for what two rows have in common, never for what is absent.
theorem addSubject_repeated {source : Source} {exposedAt : Option Moment} {violation : Violation} {key : String}
    (kept : subject.key = some key) (refused :
      (s.addSubject now workspace experiment variant subject source exposedAt).1 = .error (.violates violation)) :
    ∃ columns, violation = .repeated columns := by
  simp only [addSubject, kept] at refused
  split at refused
  · cases refused
  · rename_i fault inserted
    cases refused
    exact insertAssignment_repeated inserted

-- A subject without empty identifiers clashes with the rows that share an identifier with it, and with no others.
theorem Sound.clashes_shared (sound : s.Sound) {row other : Assignment} (present : other ∈ s.assignments)
    (kept : row.subject.key = some row.subjectKey) (unblank : ∀ kind, ¬ row.subject.Blank kind) :
    row.clashes other = true ↔ other.experiment = row.experiment ∧ row.subject.Shares other.subject := by
  rw [Assignment.clashes_subject kept, Assignment.standsFor_shares (sound.tidy other present).key]
  constructor
  · rintro ⟨together, shares | ⟨kind, blank, _⟩⟩
    · exact ⟨together.symm, shares⟩
    · exact absurd blank (unblank kind)
  · rintro ⟨together, shares⟩
    exact ⟨together.symm, .inl shares⟩

theorem Sound.find?_shared (sound : s.Sound) (named : subject.hasIdentifier = true) :
    (∃ row, s.find? experiment subject = some row) ↔ s.HasShared experiment subject := by
  constructor
  · rintro ⟨row, found⟩
    obtain ⟨present, own, stands⟩ := find?_some found
    exact ⟨row, present, own, (Assignment.standsFor_shares (sound.tidy row present).key).mp stands⟩
  · rintro ⟨row, present, own, shares⟩
    cases found : s.find? experiment subject with
    | some other => exact ⟨other, rfl⟩
    | none =>
      have stands := (Assignment.standsFor_shares (sound.tidy row present).key).mpr shares
      have misses := (find?_none named).mp found row present own
      exact absurd (misses.symm.trans stands) Bool.false_ne_true

section Adding
variable (now : Moment) (workspace experiment variant : String) {key : String} (kept : subject.key = some key)
  (unblank : ∀ kind, ¬ subject.Blank kind)
include kept unblank

theorem Sound.addDrawn_shared (sound : s.Sound) (shared : s.HasShared experiment subject) :
    ∃ columns, s.addDrawn now workspace experiment variant subject =
      (.error (.violates (.repeated columns)), s.draw) := by
  obtain ⟨row, present, own, shares⟩ := shared
  have clash : (s.drawnRow workspace now experiment variant subject key).clashes row = true :=
    (sound.clashes_shared present kept unblank).mpr ⟨own, shares⟩
  obtain ⟨violation, refused⟩ := addSubject_taken sound.writable kept present clash
  obtain ⟨columns, rfl⟩ := addSubject_repeated kept (congrArg Prod.fst refused)
  exact ⟨columns, refused⟩

theorem Sound.addDrawn_unshared (sound : s.Sound) (unshared : ¬ s.HasShared experiment subject) :
    s.addDrawn now workspace experiment variant subject =
      (.ok (s.drawnRow workspace now experiment variant subject key),
        { s.draw with assignments := s.assignments ++ [s.drawnRow workspace now experiment variant subject key] }) := by
  refine addSubject_free sound.writable kept ?_
  intro row present
  rw [← Bool.not_eq_true]
  intro clash
  obtain ⟨own, shares⟩ := (sound.clashes_shared present kept unblank).mp clash
  exact unshared ⟨row, present, own, shares⟩

end Adding

structure Fresh (s : Store) (now : Moment) (workspace experiment variant : String) (subject : Subject)
    (row : Assignment) : Prop where
  id : row.id = s.nextId
  key : subject.key = some row.subjectKey
  subject : row.subject = subject
  workspace : row.workspace = workspace
  experiment : row.experiment = experiment
  variant : row.variant = variant
  source : row.source = .auto
  seen : row.exposures = 1 ∧ row.firstExposure = some now ∧ row.lastExposure = some now
  unconverted : row.convertedAt = none

end Store

-- What comes of an insert whose turn it is, with nothing in between.
theorem Visit.settle_inserting (visit : Visit) (e : Experiment) (v : Variant) (s : Store) :
    visit.settle (.inserting e v) s =
      match s.createIfAbsent visit.now visit.workspace e.id v.id visit.subject with
      | (.ok (row, true), s') => (.ok (some (Decision.of e v row.id true)), s')
      | (.ok (row, false), s') => visit.settle (.exposing e row) s'
      | (.error fault, s') => (.error fault, s') := by
  rw [settle_advance rfl]
  have advanced : visit.advance (.inserting e v) s = visit.insert e v s := rfl
  rw [advanced, insert, Store.createIfAbsent]
  cases s.addDrawn visit.now visit.workspace e.id v.id visit.subject with
  | mk answer next =>
    cases answer with
    | ok row => exact settle_settled _
    | error fault =>
      cases fault with
      | violates violation =>
        simp only
        cases found : next.find? e.id visit.subject with
        | none => exact settle_refetching found violation
        | some row =>
          rw [settle_advance rfl]
          have again : visit.advance (.refetching e violation) next = (.exposing e row, next) := by
            show visit.refetch e violation next = _
            simp only [refetch, found]
          rw [again]
      | _ => exact settle_settled _

-- For a subject without empty identifiers, whatever has been stored since it was looked for: the insert violates a
-- unique rule exactly if a row of the experiment shares an identifier with it. Then the row that the look-up finds is
-- the answer and no row has changed; otherwise one row is added.
theorem rows_added_once {s : Store} (attained : Attained s) (now : Moment) (workspace experiment variant : String)
    {subject : Subject} (named : subject.hasIdentifier = true) (unblank : ∀ kind, ¬ subject.Blank kind) :
    ((∃ columns, (s.addDrawn now workspace experiment variant subject).1 = .error (.violates (.repeated columns))) ↔
      s.HasShared experiment subject) ∧
    (s.HasShared experiment subject → ∃ row, s.find? experiment subject = some row ∧
      s.createIfAbsent now workspace experiment variant subject = (.ok (row, false), s.draw)) ∧
    (¬ s.HasShared experiment subject → ∃ row, s.Fresh now workspace experiment variant subject row ∧
      s.createIfAbsent now workspace experiment variant subject =
        (.ok (row, true), { s.draw with assignments := s.assignments ++ [row] })) := by
  have sound := attained.sound
  obtain ⟨key, kept⟩ := Subject.key_some.mpr named
  have refused := sound.addDrawn_shared now workspace experiment variant kept unblank
  have added := sound.addDrawn_unshared now workspace experiment variant kept unblank
  refine ⟨⟨?_, ?_⟩, ?_, ?_⟩
  · rintro ⟨columns, failed⟩
    by_contra unshared
    rw [added unshared] at failed
    cases failed
  · intro shared
    obtain ⟨columns, failed⟩ := refused shared
    exact ⟨columns, congrArg Prod.fst failed⟩
  · intro shared
    obtain ⟨columns, failed⟩ := refused shared
    obtain ⟨row, found⟩ := (sound.find?_shared named).mpr shared
    have again : s.draw.find? experiment subject = some row := found
    refine ⟨row, found, ?_⟩
    simp only [Store.createIfAbsent, failed, again]
  · intro unshared
    refine ⟨s.drawnRow workspace now experiment variant subject key, ?_, ?_⟩
    · exact ⟨rfl, kept, rfl, rfl, rfl, rfl, rfl, ⟨rfl, rfl, rfl⟩, rfl⟩
    · simp only [Store.createIfAbsent, added unshared]

-- A customer was drawn and a user has an override, before somebody comes who is both.
def bothKnown : Store :=
  (Scene.empty.play (Scene.shop ++
    [(⟨1⟩, .perform "shop" (.assign "price" ⟨⟨some "ann", none, none⟩, none⟩)),
      (⟨2⟩, .perform "shop" (.pin "id-1" ⟨⟨none, none, some "u1"⟩, "id-3"⟩))])).store

theorem bothKnown_added_once : Attained bothKnown ∧
    ((⟨some "ann", none, some "u1"⟩ : Subject).hasIdentifier = true ∧
      ∀ kind, ¬ (⟨some "ann", none, some "u1"⟩ : Subject).Blank kind) ∧
    bothKnown.HasShared "id-1" ⟨some "ann", none, some "u1"⟩ ∧
    (∃ row, row.source = .override ∧
      bothKnown.createIfAbsent ⟨3⟩ "shop" "id-1" "id-2" ⟨some "ann", none, some "u1"⟩ =
        (.ok (row, false), bothKnown.draw)) ∧
    ((⟨none, some "s9", none⟩ : Subject).hasIdentifier = true ∧
      ∀ kind, ¬ (⟨none, some "s9", none⟩ : Subject).Blank kind) ∧
    ¬ bothKnown.HasShared "id-1" ⟨none, some "s9", none⟩ ∧
    ∃ row, bothKnown.Fresh ⟨3⟩ "shop" "id-1" "id-2" ⟨none, some "s9", none⟩ row ∧
      bothKnown.createIfAbsent ⟨3⟩ "shop" "id-1" "id-2" ⟨none, some "s9", none⟩ =
        (.ok (row, true), { bothKnown.draw with assignments := bothKnown.assignments ++ [row] }) := by
  have attained : Attained bothKnown := ⟨_, rfl⟩
  have both : (⟨some "ann", none, some "u1"⟩ : Subject).hasIdentifier = true ∧
      ∀ kind, ¬ (⟨some "ann", none, some "u1"⟩ : Subject).Blank kind :=
    ⟨by decide, fun kind => by cases kind <;> simp [Subject.Blank, Subject.given]⟩
  have third : (⟨none, some "s9", none⟩ : Subject).hasIdentifier = true ∧
      ∀ kind, ¬ (⟨none, some "s9", none⟩ : Subject).Blank kind :=
    ⟨by decide, fun kind => by cases kind <;> simp [Subject.Blank, Subject.given]⟩
  have known : bothKnown.HasShared "id-1" ⟨some "ann", none, some "u1"⟩ := by
    unfold Store.HasShared
    decide +kernel
  have unknown : ¬ bothKnown.HasShared "id-1" ⟨none, some "s9", none⟩ := by
    unfold Store.HasShared
    decide +kernel
  obtain ⟨row, found, kept⟩ := (rows_added_once attained ⟨3⟩ "shop" "id-1" "id-2" both.1 both.2).2.1 known
  have override : (bothKnown.find? "id-1" ⟨some "ann", none, some "u1"⟩).map (·.source) = some .override := by
    decide +kernel
  rw [found] at override
  have added := (rows_added_once attained ⟨3⟩ "shop" "id-1" "id-2" third.1 third.2).2.2 unknown
  exact ⟨attained, both, known, ⟨row, Option.some.inj override, kept⟩, third, unknown, added⟩

end Cohort
