import Cohort.Proofs.Answers
import Cohort.Proofs.Scene

-- An empty identifier names nobody, and yet it is stored as it was sent and may not be stored twice in one experiment.
-- This is the only way in which a request for a decision or an override can violate a constraint.
namespace Cohort

namespace Store

-- A row of the experiment has an empty text where the subject has one, and nothing else that makes it the subject's.
def Jams (s : Store) (experiment : String) (subject : Subject) : Prop :=
  ∃ row ∈ s.rowsOf experiment, row.standsFor subject = false ∧ subject.SharesBlank row.subject

-- No row is the subject's, so that one is to be added, and a row is in the way.
def Blocks (s : Store) (experiment : String) (subject : Subject) : Prop :=
  s.find? experiment subject = none ∧ s.Jams experiment subject

structure Beside (s : Store) (experiment : String) (next : Store) : Prop where
  experiments : next.experiments = s.experiments
  variants : next.variants = s.variants
  rows : ∀ other, other ≠ experiment → next.rowsOf other = s.rowsOf other

theorem Beside.blocks {s next : Store} {experiment other : String} (beside : s.Beside experiment next)
    (apart : other ≠ experiment) (subject : Subject) : next.Blocks other subject ↔ s.Blocks other subject := by
  simp only [Blocks, Jams, find?, beside.rows other apart]

theorem beside_added (s : Store) (row : Assignment) :
    s.Beside row.experiment { s.draw with assignments := s.assignments ++ [row] } where
  experiments := rfl
  variants := rfl
  rows := by
    intro other apart
    have absent : row.experiment ≠ other := fun same => apart same.symm
    simp [rowsOf, absent]

theorem beside_exposed {s : Store} (sound : s.Sound) {row : Assignment} (present : row ∈ s.assignments) (now : Moment) :
    s.Beside row.experiment
      { s with assignments := s.assignments.map fun a => if a.id = row.id then exposed now a else a } where
  experiments := rfl
  variants := rfl
  rows := by
    intro other apart
    apply filter_untouched
    · intro a _
      split
      · rfl
      · rfl
    · intro a there own
      apply if_neg
      intro hit
      rw [sound.same_row there present hit] at own
      exact apart (of_decide_eq_true own).symm

end Store

-- A request that a row may block: it fails on the constraint if it is blocked, and is served otherwise.
inductive ServedUnless (blocked : Prop) : Except Fault α → Prop where
  | refused (stuck : blocked) (violation : Violation) : ServedUnless blocked (.error (.violates violation))
  | served (free : ¬ blocked) (answer : α) : ServedUnless blocked (.ok answer)

theorem ServedUnless.congr {blocked other : Prop} {answer : Except Fault α} (judged : ServedUnless blocked answer)
    (same : blocked ↔ other) : ServedUnless other answer := by
  cases judged with
  | refused yes violation => exact .refused (same.mp yes) violation
  | served no given => exact .served (fun yes => no (same.mpr yes)) given

def Jammed (answer : Except Fault α) : Prop := ∃ fault, answer = .error fault ∧ fault.kind = .integrity

theorem jammed_map {answer : Except Fault α} {f : α → β} : Jammed (answer.map f) ↔ Jammed answer := by
  cases answer with
  | error fault => simp [Jammed, Except.map]
  | ok a => simp [Jammed, Except.map]

theorem ServedUnless.jammed {blocked : Prop} {answer : Except Fault α} (judged : ServedUnless blocked answer) :
    Jammed answer ↔ blocked := by
  cases judged with
  | refused yes violation => exact ⟨fun _ => yes, fun _ => ⟨_, rfl, rfl⟩⟩
  | served no given =>
    constructor
    · rintro ⟨fault, failed, _⟩
      cases failed
    · intro yes
      exact absurd yes no

namespace Visit
variable {s : Store} {visit : Visit} {e : Experiment}

theorem settle_exposing (visit : Visit) (e : Experiment) (sound : s.Sound) {row : Assignment}
    (present : row ∈ s.assignments) : ∃ decision next, visit.settle (.exposing e row) s = (.ok (some decision), next) ∧
      s.Beside row.experiment next := by
  obtain ⟨v, _, _, settled⟩ := settle_shown visit sound present
  exact ⟨_, _, settled, Store.beside_exposed sound present visit.now⟩

theorem settle_free (sound : s.Sound) {v : Variant} {key : String} (kept : visit.subject.key = some key)
    (free : s.Free (visit.row s e v key)) :
    ∃ decision next, visit.settle (.inserting e v) s = (.ok (some decision), next) ∧ s.Beside e.id next := by
  refine ⟨Decision.of e v s.nextId true, _, ?_, Store.beside_added s (visit.row s e v key)⟩
  rw [settle_advance rfl]
  have inserted : visit.advance (.inserting e v) s = _ := insert_free sound.writable kept free
  rw [inserted, settle_settled]

theorem settle_taken (sound : s.Sound) {v : Variant} {key : String} (kept : visit.subject.key = some key)
    (missing : s.find? e.id visit.subject = none) {other : Assignment} (present : other ∈ s.assignments)
    (clash : (visit.row s e v key).clashes other = true) :
    ∃ violation, visit.settle (.inserting e v) s = (.error (.violates violation), s.draw) := by
  obtain ⟨violation, refused⟩ := insert_taken sound.writable kept present clash
  refine ⟨violation, ?_⟩
  rw [settle_advance rfl]
  have refused : visit.advance (.inserting e v) s = (.refetching e violation, s.draw) := refused
  have missing : s.draw.find? e.id visit.subject = none := missing
  rw [refused]
  exact settle_refetching missing violation

theorem settle_enter (sound : s.Sound) (present : e ∈ s.experiments) (named : visit.subject.hasIdentifier = true) :
    ServedUnless (e.Takes visit.subject visit.attributes ∧ s.Blocks e.id visit.subject)
      (visit.settle (visit.enter s e) s).1 ∧ s.Beside e.id (visit.settle (visit.enter s e) s).2 := by
  by_cases takes : e.Takes visit.subject visit.attributes
  · cases found : s.find? e.id visit.subject with
    | some row =>
      obtain ⟨there, own, _⟩ := Store.find?_some found
      obtain ⟨decision, next, settled, beside⟩ := settle_exposing visit e sound there
      rw [enter_found takes found, settled]
      refine ⟨.served ?_ _, own ▸ beside⟩
      rintro ⟨_, missing, _⟩
      rw [found] at missing
      cases missing
    | none =>
      obtain ⟨key, kept⟩ := Subject.key_some.mpr named
      obtain ⟨v, _, _, entered⟩ := enter_missing sound present takes found
      rw [entered]
      have stored : (visit.row s e v key).subject.key = some (visit.row s e v key).subjectKey := kept
      by_cases jams : s.Jams e.id visit.subject
      · have stuck := jams
        obtain ⟨row, member, _, shares⟩ := jams
        obtain ⟨there, own⟩ := Store.mem_rowsOf.mp member
        have clash := (Assignment.clashes_subject stored).mpr ⟨own.symm, .inr shares⟩
        obtain ⟨violation, failed⟩ := settle_taken sound kept found there clash
        rw [failed]
        exact ⟨.refused ⟨takes, found, stuck⟩ violation, rfl, rfl, fun _ _ => rfl⟩
      · have free : s.Free (visit.row s e v key) := by
          intro row there
          cases clash : (visit.row s e v key).clashes row with
          | false => rfl
          | true =>
            obtain ⟨own, how⟩ := (Assignment.clashes_subject stored).mp clash
            have misses := (Store.find?_none named).mp found row there own.symm
            rcases how with stands | shares
            · exact absurd (misses.symm.trans stands) Bool.false_ne_true
            · exact absurd ⟨row, Store.mem_rowsOf.mpr ⟨there, own.symm⟩, misses, shares⟩ jams
        obtain ⟨decision, next, settled, beside⟩ := settle_free sound kept free
        rw [settled]
        exact ⟨.served (fun both => jams both.2.2) _, beside⟩
  · obtain ⟨decision, entered⟩ := enter_refused sound present named takes
    rw [entered, settle_settled]
    exact ⟨.served (fun both => takes both.1) _, rfl, rfl, fun _ _ => rfl⟩

end Visit

namespace Decision
variable {s : Store} {visit : Visit}

theorem assign_served (visit : Visit) (sound : s.Sound) (named : visit.subject.hasIdentifier = true) (key : String) :
    ServedUnless (∃ e ∈ s.experiments, e.workspace = visit.workspace ∧ e.key = key ∧
      e.Takes visit.subject visit.attributes ∧ s.Blocks e.id visit.subject) (assign visit key s).1 := by
  have looked := assign_looks visit key s
  cases found : s.experimentByKey? visit.workspace key with
  | none =>
    rw [looked, Visit.look, found, Visit.settle_settled]
    refine .served ?_ none
    rintro ⟨e, present, own, same, _⟩
    exact Store.experimentByKey?_none found e present own same
  | some e =>
    obtain ⟨present, own, same⟩ := Store.experimentByKey?_some found
    rw [looked, ← same, Visit.look_known sound present own]
    refine (Visit.settle_enter sound present named).1.congr ?_
    constructor
    · intro both
      exact ⟨e, present, own, rfl, both⟩
    · rintro ⟨x, there, ours, key, both⟩
      exact sound.same_key there present (ours.trans own.symm) key ▸ both

-- Experiments do not get into each other's way, so each is judged as it stands when the round begins.
theorem assignEach_served (named : visit.subject.hasIdentifier = true) {left : List Experiment} (sound : s.Sound)
    (there : ∀ e ∈ left, e ∈ s.experiments ∧ e.workspace = visit.workspace) (distinct : (left.map (·.id)).Nodup) :
    ServedUnless (∃ e ∈ left, e.Takes visit.subject visit.attributes ∧ s.Blocks e.id visit.subject)
      (assignEach visit left s).1 := by
  induction left generalizing s with
  | nil =>
    refine .served ?_ []
    rintro ⟨_, member, _⟩
    exact absurd member List.not_mem_nil
  | cons e rest ih =>
    obtain ⟨present, own⟩ := there e List.mem_cons_self
    rw [List.map_cons, List.nodup_cons] at distinct
    obtain ⟨here, beside⟩ := Visit.settle_enter sound present named
    have committed := Visit.settle_commits visit sound (Visit.enter_grounded sound fun running =>
      (⟨e, present, rfl, own, by simp [running]⟩ : s.Launched visit.workspace e.id))
    unfold assignEach
    cases settled : visit.settle (visit.enter s e) s with
    | mk answer next =>
      rw [settled] at here beside committed
      have others : ∀ x ∈ rest, x ∈ next.experiments ∧ x.workspace = visit.workspace := by
        intro x later
        rw [show next.experiments = s.experiments from beside.experiments]
        exact there x (List.mem_cons_of_mem _ later)
      have same : ∀ x ∈ rest, (next.Blocks x.id visit.subject ↔ s.Blocks x.id visit.subject) := by
        intro x later
        refine beside.blocks ?_ visit.subject
        intro hit
        exact distinct.1 (hit ▸ List.mem_map_of_mem later)
      cases here with
      | refused both violation => exact .refused ⟨e, List.mem_cons_self, both⟩ violation
      | served passes decision =>
        have after := ih (committed.sound sound) others distinct.2
        simp only
        cases done : assignEach visit rest next with
        | mk answer last =>
          rw [done] at after
          cases after with
          | refused later violation =>
            obtain ⟨x, member, takes, blocks⟩ := later
            exact .refused ⟨x, List.mem_cons_of_mem _ member, takes, (same x member).mp blocks⟩ violation
          | served free decisions =>
            refine .served ?_ _
            rintro ⟨x, member, both⟩
            rcases List.mem_cons.mp member with rfl | later
            · exact passes both
            · exact free ⟨x, later, both.1, (same x later).mpr both.2⟩

theorem assignAll_served (visit : Visit) (sound : s.Sound) (named : visit.subject.hasIdentifier = true) :
    ServedUnless (∃ e ∈ s.experiments, e.workspace = visit.workspace ∧
      e.Takes visit.subject visit.attributes ∧ s.Blocks e.id visit.subject) (assignAll visit s).1 := by
  refine (assignEach_served named sound (fun e member => ?_) (sound.list_distinct _ _)).congr ?_
  · obtain ⟨present, own, _⟩ := Store.mem_running.mp member
    exact ⟨present, own⟩
  · constructor
    · rintro ⟨e, member, both⟩
      obtain ⟨present, own, _⟩ := Store.mem_running.mp member
      exact ⟨e, present, own, both⟩
    · rintro ⟨e, present, own, takes, blocks⟩
      exact ⟨e, Store.mem_running.mpr ⟨present, own, takes.running⟩, takes, blocks⟩

-- An override takes out the rows that are the subject's, so that others alone can be in its way.
theorem pin_served (sound : s.Sound) {e : Experiment} (present : e ∈ s.experiments) {v : Variant}
    (there : v ∈ s.variants) (own : v.experiment = e.id) (now : Moment) {subject : Subject}
    (named : subject.hasIdentifier = true) :
    ServedUnless (s.Jams e.id subject) (pin s e.workspace now e.id ⟨subject, v.id⟩).1 := by
  obtain ⟨key, kept⟩ := Subject.key_some.mpr named
  have cleared : s.clearSubject e.id subject = .ok (s.without e.id subject) := by
    simp [Store.clearSubject, sound.writable, Store.without]
  have left {row : Assignment} : row ∈ (s.without e.id subject).assignments ↔
      row ∈ s.assignments ∧ (row.experiment = e.id → row.standsFor subject = false) := by
    simp [Store.without, Classical.or_iff_not_imp_left]
  have stored : (s.pinnedRow e.workspace now e.id v.id subject key).subject.key =
    some (s.pinnedRow e.workspace now e.id v.id subject key).subjectKey := kept
  have replaced : (pin s e.workspace now e.id ⟨subject, v.id⟩).1 =
      ((s.without e.id subject).addSubject now e.workspace e.id v.id subject .override none).1.map
        fun row => Decision.of e v row.id true := by
    simp only [pin, sound.viewed present, sound.own_variant there own, named, Store.replaceSubject, cleared, Outcome.map]
    cases (s.without e.id subject).addSubject now e.workspace e.id v.id subject .override none with
    | mk answer next => cases answer <;> rfl
  rw [replaced]
  by_cases jams : s.Jams e.id subject
  · have stuck := jams
    obtain ⟨row, member, misses, shares⟩ := jams
    obtain ⟨old, ours⟩ := Store.mem_rowsOf.mp member
    have clash := (Assignment.clashes_subject stored).mpr ⟨ours.symm, .inr shares⟩
    obtain ⟨violation, refused⟩ := Store.addSubject_taken (s := s.without e.id subject) sound.writable kept
      (left.mpr ⟨old, fun _ => misses⟩) clash
    rw [refused]
    exact .refused stuck violation
  · have free : (s.without e.id subject).Free (s.pinnedRow e.workspace now e.id v.id subject key) := by
      intro row member
      obtain ⟨old, misses⟩ := left.mp member
      cases clash : (s.pinnedRow e.workspace now e.id v.id subject key).clashes row with
      | false => rfl
      | true =>
        obtain ⟨ours, how⟩ := (Assignment.clashes_subject stored).mp clash
        rcases how with stands | shares
        · exact absurd ((misses ours.symm).symm.trans stands) Bool.false_ne_true
        · exact absurd ⟨row, Store.mem_rowsOf.mpr ⟨old, ours.symm⟩, misses ours.symm, shares⟩ jams
    have added := Store.addSubject_free (s := s.without e.id subject) sound.writable kept free
    rw [added]
    exact .served jams _

end Decision
theorem pin_unknown {s : Store} {workspace id variant : String} {now : Moment} {subject : Subject}
    (jammed : Jammed (Decision.pin s workspace now id ⟨subject, variant⟩).1) :
    ∃ e ∈ s.experiments, e.id = id ∧ e.workspace = workspace ∧ s.Owns e.id variant := by
  obtain ⟨fault, failed, kind⟩ := jammed
  unfold Decision.pin at failed
  cases found : s.experiment? workspace id with
  | none =>
    simp only [Catalogue.get, Store.view?, found, Option.map_none] at failed
    cases failed
    cases kind
  | some e =>
    obtain ⟨present, named, own⟩ := Store.experiment?_some found
    simp only [Catalogue.get, Store.view?, found, Option.map_some] at failed
    cases picked : (s.view e).variant? variant with
    | none =>
      simp only [picked] at failed
      cases failed
      cases kind
    | some v =>
      obtain ⟨there, belongs, same⟩ := Store.view_variant?_some picked
      exact ⟨e, present, named, own, v, there, same, belongs⟩

-- With an identifier that is no empty text, a request violates a constraint exactly if an empty one is in the way.
theorem blank_identifiers_jam {s : Store} (attained : Attained s) (workspace : String) (now : Moment)
    {subject : Subject} (named : subject.hasIdentifier = true) :
    (∀ key attributes, Jammed ((Operation.assign key ⟨subject, attributes⟩).run workspace now s).1 ↔
      ∃ e ∈ s.experiments, e.workspace = workspace ∧ e.key = key ∧ e.Takes subject attributes ∧
        s.Blocks e.id subject) ∧
    (∀ attributes, Jammed ((Operation.assignAll ⟨subject, attributes⟩).run workspace now s).1 ↔
      ∃ e ∈ s.experiments, e.workspace = workspace ∧ e.Takes subject attributes ∧ s.Blocks e.id subject) ∧
    (∀ id variant, Jammed ((Operation.pin id ⟨subject, variant⟩).run workspace now s).1 ↔
      ∃ e ∈ s.experiments, e.id = id ∧ e.workspace = workspace ∧ s.Owns e.id variant ∧ s.Jams e.id subject) := by
  have sound := attained.sound
  refine ⟨?_, ?_, ?_⟩
  · intro key attributes
    exact jammed_map.trans (Decision.assign_served ⟨workspace, now, subject, attributes⟩ sound named key).jammed
  · intro attributes
    exact jammed_map.trans (Decision.assignAll_served ⟨workspace, now, subject, attributes⟩ sound named).jammed
  · intro id variant
    have pinned : Jammed ((Operation.pin id ⟨subject, variant⟩).run workspace now s).1 ↔
        Jammed (Decision.pin s workspace now id ⟨subject, variant⟩).1 := jammed_map
    rw [pinned]
    constructor
    · intro jammed
      obtain ⟨e, present, rfl, rfl, v, there, rfl, own⟩ := pin_unknown jammed
      have jams := (Decision.pin_served sound present there own now named).jammed.mp jammed
      exact ⟨e, present, rfl, rfl, ⟨v, there, rfl, own⟩, jams⟩
    · rintro ⟨e, present, rfl, rfl, ⟨v, there, rfl, own⟩, jams⟩
      exact (Decision.pin_served sound present there own now named).jammed.mpr jams

-- Two customers who have nothing in common but a session that is empty in both requests.
def blankStored : Store :=
  (Scene.empty.play (Scene.shop ++
    [(⟨1⟩, .perform "shop" (.assign "price" ⟨⟨some "ann", some "", none⟩, none⟩))])).store

theorem blankStored_jams : Attained blankStored ∧ (⟨some "bob", some "", none⟩ : Subject).hasIdentifier = true ∧
    Jammed ((Operation.assign "price" ⟨⟨some "bob", some "", none⟩, none⟩).run "shop" ⟨2⟩ blankStored).1 ∧
    Jammed ((Operation.assignAll ⟨⟨some "bob", some "", none⟩, none⟩).run "shop" ⟨2⟩ blankStored).1 ∧
    Jammed ((Operation.pin "id-1" ⟨⟨some "bob", some "", none⟩, "id-2"⟩).run "shop" ⟨2⟩ blankStored).1 := by
  have attained : Attained blankStored := ⟨_, rfl⟩
  have named : (⟨some "bob", some "", none⟩ : Subject).hasIdentifier = true := by decide
  obtain ⟨assign, assignAll, pin⟩ := blank_identifiers_jam attained "shop" ⟨2⟩ named
  obtain ⟨e, present, own, key, id, running, full, open', missing, row, member, misses, session⟩ :
      ∃ e ∈ blankStored.experiments, e.workspace = "shop" ∧ e.key = "price" ∧ e.id = "id-1" ∧ e.status = .running ∧
        100 ≤ e.traffic ∧ e.targeting.isEmpty = true ∧
        (blankStored.find? e.id ⟨some "bob", some "", none⟩).isNone = true ∧ ∃ row ∈ blankStored.rowsOf e.id,
          row.standsFor ⟨some "bob", some "", none⟩ = false ∧ row.subject.session = some "" := by decide +kernel
  have owns : ∃ v ∈ blankStored.variants, v.id = "id-2" ∧ v.experiment = "id-1" := by decide +kernel
  have plain := attained.sound.plain e present
  have takes := Experiment.takes_everyone plain running full (List.isEmpty_iff.mp open') named
  have jams : blankStored.Jams e.id ⟨some "bob", some "", none⟩ := ⟨row, member, misses, .session, rfl, session⟩
  have blocks : blankStored.Blocks e.id ⟨some "bob", some "", none⟩ := ⟨Option.isNone_iff_eq_none.mp missing, jams⟩
  exact ⟨attained, named, (assign "price" none).mpr ⟨e, present, own, key, takes none, blocks⟩,
    (assignAll none).mpr ⟨e, present, own, takes none, blocks⟩,
    (pin "id-1" "id-2").mpr ⟨e, present, id, own, id.symm ▸ owns, jams⟩⟩

end Cohort
