import Cohort.Proofs.Failures
import Cohort.Proofs.Figures

-- What keeps a request for decisions, an override, a report or the figures from its answer. All of it can be read off
-- the request and the rows; nothing fails inside for want of a variant, a weight or a row that another row refers to.
namespace Cohort

inductive Judged (hinders : Fault → Prop) : Except Fault α → Prop where
  | failed (fault : Fault) (why : hinders fault) : Judged hinders (.error fault)
  | answered (free : ∀ fault, ¬ hinders fault) (a : α) : Judged hinders (.ok a)

namespace Judged
variable {hinders others : Fault → Prop} {answer : Except Fault α}

theorem congr (judged : Judged hinders answer) (same : ∀ fault, hinders fault ↔ others fault) :
    Judged others answer := by
  cases judged with
  | failed fault why => exact .failed fault ((same fault).mp why)
  | answered free a => exact .answered (fun fault why => free fault ((same fault).mpr why)) a

theorem map (judged : Judged hinders answer) (f : α → β) : Judged hinders (answer.map f) := by
  cases judged with
  | failed fault why => exact .failed fault why
  | answered free a => exact .answered free (f a)

theorem exact (judged : Judged hinders answer) :
    (∀ fault, answer = .error fault → hinders fault) ∧ ((∃ fault, hinders fault) → ∃ fault, answer = .error fault) := by
  cases judged with
  | failed fault why =>
    refine ⟨?_, fun _ => ⟨fault, rfl⟩⟩
    rintro other same
    cases same
    exact why
  | answered free a =>
    refine ⟨nofun, ?_⟩
    rintro ⟨fault, why⟩
    exact absurd why (free fault)

end Judged

theorem ServedUnless.judged {blocked : Prop} {answer : Except Fault α} (served : ServedUnless blocked answer) :
    Judged (fun fault => blocked ∧ ∃ violation, fault = .violates violation) answer := by
  cases served with
  | refused stuck violation => exact .failed _ ⟨stuck, violation, rfl⟩
  | served free a => exact .answered (fun _ why => free why.1) a

-- An experiment that is open to the attributes asks for an identifier, and a row with an empty one may be in the way.
inductive Experiment.Hinders (s : Store) (e : Experiment) (subject : Subject) (attributes : Option Json.Members) :
    Fault → Prop where
  | unnamed (running : e.status = .running) (targeted : Targeting.admits (some e.targeting) attributes = true)
      (lacking : subject.hasIdentifier = false) : Hinders s e subject attributes (.noSubject .assignment)
  | blocked (takes : e.Takes subject attributes) (blocks : s.Blocks e.id subject) (violation : Violation) :
      Hinders s e subject attributes (.violates violation)

theorem Experiment.Hinders.named {s : Store} {e : Experiment} {subject : Subject} {attributes : Option Json.Members}
    (named : subject.hasIdentifier = true) {fault : Fault} : e.Hinders s subject attributes fault ↔
      (e.Takes subject attributes ∧ s.Blocks e.id subject) ∧ ∃ violation, fault = .violates violation := by
  constructor
  · intro hinders
    cases hinders with
    | unnamed running targeted lacking => cases named.symm.trans lacking
    | blocked takes blocks violation => exact ⟨⟨takes, blocks⟩, violation, rfl⟩
  · rintro ⟨⟨takes, blocks⟩, violation, rfl⟩
    exact .blocked takes blocks violation

def Operation.OnRows : Operation → Prop
  | .assign _ _ | .assignAll _ | .pin _ _ | .convert _ _ | .statistics _ => True
  | _ => False

inductive Operation.Hindered (workspace : String) (s : Store) : Operation → Fault → Prop where
  | assign (e : Experiment) (present : e ∈ s.experiments) (own : e.workspace = workspace) (request : DecisionRequest)
      {fault : Fault} (hinders : e.Hinders s request.subject request.attributes fault) :
      Hindered workspace s (.assign e.key request) fault
  | assignAll (e : Experiment) (present : e ∈ s.experiments) (own : e.workspace = workspace) (request : DecisionRequest)
      {fault : Fault} (hinders : e.Hinders s request.subject request.attributes fault) :
      Hindered workspace s (.assignAll request) fault
  | pinNowhere (id : String) (request : PinRequest) (missing : ¬ s.Holds workspace id) :
      Hindered workspace s (.pin id request) (.unknownExperiment id)
  | pinNothing (id : String) (request : PinRequest) (held : s.Holds workspace id)
      (missing : ¬ s.Owns id request.variant) : Hindered workspace s (.pin id request) (.unknownVariant request.variant)
  | pinNobody (id : String) (request : PinRequest) (held : s.Holds workspace id) (owns : s.Owns id request.variant)
      (lacking : request.subject.hasIdentifier = false) : Hindered workspace s (.pin id request) (.noSubject .override)
  | pinBlocked (id : String) (request : PinRequest) (held : s.Holds workspace id) (owns : s.Owns id request.variant)
      (named : request.subject.hasIdentifier = true) (jams : s.Jams id request.subject) (violation : Violation) :
      Hindered workspace s (.pin id request) (.violates violation)
  | convertNobody (key : String) (report : ConversionReport) (lacking : report.subject.hasIdentifier = false) :
      Hindered workspace s (.convert key report) (.noSubject .conversion)
  | statisticsNowhere (id : String) (missing : ¬ s.Holds workspace id) :
      Hindered workspace s (.statistics id) (.unknownExperiment id)

-- The kinds of failure from inside: nothing to choose from and a word in no list, a division by zero, a row that refers
-- to none, and a key that is in no table.
def Fault.Kind.isInner : Fault.Kind → Bool
  | .value | .division | .reference | .lookup => true
  | _ => false

theorem Operation.Hindered.kind {workspace : String} {s : Store} {operation : Operation} {fault : Fault}
    (hindered : operation.Hindered workspace s fault) : fault.kind.isInner = false := by
  cases hindered with
  | assign e present own request hinders | assignAll e present own request hinders => cases hinders <;> rfl
  | _ => rfl

theorem Catalogue.get_unheld {s : Store} {workspace id : String} (missing : ¬ s.Holds workspace id) :
    get s workspace id = .error (.unknownExperiment id) := by
  cases found : s.experiment? workspace id with
  | none => simp [get, Store.view?, found]
  | some e =>
    obtain ⟨present, named, own⟩ := Store.experiment?_some found
    exact absurd ⟨e, present, named, own⟩ missing

namespace Visit
variable {s : Store} {visit : Visit} {e : Experiment}

-- Without an identifier a request is answered before it has come to the rows.
theorem enter_lacking (plain : e.strays = {}) (unnamed : visit.subject.bucketId = none) :
    ∃ answer, visit.enter s e = .settled answer ∧ Judged (e.Hinders s visit.subject visit.attributes) answer := by
  have lacking : visit.subject.hasIdentifier = false := by
    rw [Bool.eq_false_iff]
    intro named
    obtain ⟨id, bucket⟩ := Subject.bucketId_some.mpr named
    cases unnamed.symm.trans bucket
  by_cases running : e.status = .running
  · refine ⟨_, enter_unnamed running plain unnamed, ?_⟩
    cases targeted : Targeting.admits (some e.targeting) visit.attributes with
    | true => exact .failed _ (.unnamed running targeted lacking)
    | false =>
      refine .answered ?_ none
      intro fault hinders
      cases hinders with
      | unnamed _ admitted => cases targeted.symm.trans admitted
      | blocked takes => cases lacking.symm.trans takes.named
  · refine ⟨.ok (closed s e), if_pos running, .answered ?_ _⟩
    intro fault hinders
    cases hinders with
    | unnamed open' => exact running open'
    | blocked takes => exact running takes.running

theorem settle_judged (visit : Visit) (sound : s.Sound) (present : e ∈ s.experiments) :
    Judged (e.Hinders s visit.subject visit.attributes) (visit.settle (visit.enter s e) s).1 := by
  cases bucket : visit.subject.bucketId with
  | none =>
    obtain ⟨answer, entered, judged⟩ := enter_lacking (s := s) (sound.plain e present) bucket
    rw [entered, settle_settled]
    exact judged
  | some id =>
    have named := Subject.bucketId_some.mp ⟨id, bucket⟩
    exact (settle_enter sound present named).1.judged.congr fun _ => (Experiment.Hinders.named named).symm

end Visit

namespace Decision
variable {s : Store}

theorem assign_judged (workspace : String) (now : Moment) (sound : s.Sound) (key : String) (request : DecisionRequest) :
    Judged ((Operation.assign key request).Hindered workspace s)
      (assign (Operation.visitOf workspace now request) key s).1 := by
  rw [assign_looks]
  cases found : s.experimentByKey? workspace key with
  | none =>
    have looked : (Operation.visitOf workspace now request).look key s = .settled (.ok none) := by
      simp only [Visit.look, Operation.visitOf, found]
    rw [looked, Visit.settle_settled]
    refine .answered ?_ none
    intro fault hindered
    cases hindered with
    | assign e present own => exact Store.experimentByKey?_none found e present own rfl
  | some e =>
    obtain ⟨present, own, rfl⟩ := Store.experimentByKey?_some found
    rw [Visit.look_known sound present own]
    refine (Visit.settle_judged (Operation.visitOf workspace now request) sound present).congr fun fault => ?_
    constructor
    · exact .assign e present own request
    · generalize same : Operation.assign e.key request = asked
      intro hindered
      cases hindered with
      | assign x there ours other hinders =>
        injection same with key request
        rw [request, sound.same_key present there (own.trans ours.symm) key]
        exact hinders
      | _ => cases same

theorem assignEach_lacking {visit : Visit} (unnamed : visit.subject.bucketId = none) {left : List Experiment}
    (plain : ∀ e ∈ left, e.strays = {}) :
    Judged (fun fault => ∃ e ∈ left, e.Hinders s visit.subject visit.attributes fault) (assignEach visit left s).1 := by
  induction left with
  | nil =>
    refine .answered ?_ []
    rintro _ ⟨_, none, _⟩
    exact absurd none List.not_mem_nil
  | cons e rest ih =>
    obtain ⟨answer, entered, judged⟩ := Visit.enter_lacking (s := s) (plain e List.mem_cons_self) unnamed
    have others := ih fun x later => plain x (List.mem_cons_of_mem _ later)
    unfold assignEach
    rw [entered, Visit.settle_settled]
    cases judged with
    | failed fault why => exact .failed fault ⟨e, List.mem_cons_self, why⟩
    | answered free decision =>
      simp only
      cases after : assignEach visit rest s with
      | mk answer last =>
        rw [after] at others
        cases others with
        | failed fault why =>
          obtain ⟨x, later, hinders⟩ := why
          exact .failed fault ⟨x, List.mem_cons_of_mem _ later, hinders⟩
        | answered free' decisions =>
          refine .answered ?_ _
          rintro fault ⟨x, member, hinders⟩
          rcases List.mem_cons.mp member with rfl | later
          · exact free fault hinders
          · exact free' fault ⟨x, later, hinders⟩

theorem assignAll_judged (workspace : String) (now : Moment) (sound : s.Sound) (request : DecisionRequest) :
    Judged ((Operation.assignAll request).Hindered workspace s)
      (assignAll (Operation.visitOf workspace now request) s).1 := by
  cases bucket : request.subject.bucketId with
  | none =>
    have lasting := fun e (listed : e ∈ s.list workspace ⟨some .running, none, false⟩) => (sound.listed_lasts listed).plain
    have unnamed : (Operation.visitOf workspace now request).subject.bucketId = none := bucket
    refine (assignEach_lacking unnamed lasting).congr fun fault => ?_
    constructor
    · rintro ⟨e, listed, hinders⟩
      obtain ⟨present, own, _⟩ := Store.mem_running.mp listed
      exact .assignAll e present own request hinders
    · intro hindered
      cases hindered with
      | assignAll e present own _ hinders =>
        refine ⟨e, Store.mem_running.mpr ⟨present, own, ?_⟩, hinders⟩
        cases hinders with
        | unnamed running => exact running
        | blocked takes => exact takes.running
  | some id =>
    have named := Subject.bucketId_some.mp ⟨id, bucket⟩
    refine (assignAll_served (Operation.visitOf workspace now request) sound named).judged.congr fun fault => ?_
    constructor
    · rintro ⟨⟨e, present, own, both⟩, why⟩
      exact .assignAll e present own request ((Experiment.Hinders.named named).mpr ⟨both, why⟩)
    · intro hindered
      cases hindered with
      | assignAll e present own _ hinders =>
        obtain ⟨both, why⟩ := (Experiment.Hinders.named named).mp hinders
        exact ⟨⟨e, present, own, both⟩, why⟩

theorem pin_judged (workspace : String) (now : Moment) (sound : s.Sound) (id : String) (request : PinRequest) :
    Judged ((Operation.pin id request).Hindered workspace s) (pin s workspace now id request).1 := by
  obtain ⟨subject, variant⟩ := request
  by_cases held : s.Holds workspace id
  · obtain ⟨e, present, rfl, rfl⟩ := held
    have held : s.Holds e.workspace e.id := ⟨e, present, rfl, rfl⟩
    by_cases owns : s.Owns e.id variant
    · obtain ⟨v, there, rfl, own⟩ := owns
      have owns : s.Owns e.id v.id := ⟨v, there, rfl, own⟩
      cases named : subject.hasIdentifier with
      | true =>
        refine (pin_served sound present there own now named).judged.congr fun fault => ?_
        constructor
        · rintro ⟨jams, violation, rfl⟩
          exact .pinBlocked e.id ⟨subject, v.id⟩ held owns named jams violation
        · intro hindered
          cases hindered with
          | pinNowhere _ _ missing => exact absurd held missing
          | pinNothing _ _ _ missing => exact absurd owns missing
          | pinNobody _ _ _ _ lacking => cases named.symm.trans lacking
          | pinBlocked _ _ _ _ _ jams violation => exact ⟨jams, violation, rfl⟩
      | false =>
        have refused : pin s e.workspace now e.id ⟨subject, v.id⟩ = (.error (.noSubject .override), s) := by
          simp only [pin, sound.viewed present, sound.own_variant there own, named, Bool.not_false, if_true]
        rw [refused]
        exact .failed _ (.pinNobody e.id ⟨subject, v.id⟩ held owns named)
    · have refused : pin s e.workspace now e.id ⟨subject, variant⟩ = (.error (.unknownVariant variant), s) := by
        simp only [pin, sound.viewed present, Store.view_variant?_none owns]
      rw [refused]
      exact .failed _ (.pinNothing e.id ⟨subject, variant⟩ held owns)
  · have refused : pin s workspace now id ⟨subject, variant⟩ = (.error (.unknownExperiment id), s) := by
      simp only [pin, Catalogue.get_unheld held]
    rw [refused]
    exact .failed _ (.pinNowhere id ⟨subject, variant⟩ held)

end Decision

theorem Conversion.record_judged {s : Store} (workspace : String) (now : Moment) (sound : s.Sound) (key : String)
    (report : ConversionReport) :
    Judged ((Operation.convert key report).Hindered workspace s) (record ⟨workspace, now, report⟩ key s).1 := by
  cases named : report.subject.hasIdentifier with
  | false =>
    have refused : record ⟨workspace, now, report⟩ key s = (.error (.noSubject .conversion), s) := by
      simp only [record, recordAmid, Notice.look, named, Bool.not_false, if_true]
    rw [refused]
    exact .failed _ (.convertNobody key report named)
  | true =>
    have free : ∀ fault, ¬ (Operation.convert key report).Hindered workspace s fault := by
      intro fault hindered
      cases hindered with
      | convertNobody _ _ lacking => cases named.symm.trans lacking
    have looked : ∃ row, Notice.look ⟨workspace, now, report⟩ key s = .ok row := by
      simp only [Notice.look, named, Bool.not_true, Bool.false_eq_true, if_false]
      split
      · exact ⟨_, rfl⟩
      · split
        · exact ⟨_, rfl⟩
        · exact ⟨_, rfl⟩
    obtain ⟨row, looked⟩ := looked
    unfold record recordAmid
    rw [looked]
    cases row with
    | none => exact .answered free false
    | some row =>
      simp only [Notice.mark, Store.markConverted, sound.writable, Bool.not_true, Bool.false_eq_true, if_false,
        Outcome.attempt_ok]
      exact .answered free _

theorem Statistics.of_judged {s : Store} (workspace : String) (sound : s.Sound) (id : String) :
    Judged ((Operation.statistics id).Hindered workspace s) (Statistics.of s workspace id) := by
  by_cases held : s.Holds workspace id
  · obtain ⟨e, present, rfl, rfl⟩ := held
    have counted : Statistics.of s e.workspace e.id = .ok (ofRows (s.view e) (s.rowsOf e.id)) := by
      simp only [Statistics.of, sound.viewed present, bind, Except.bind]
      rfl
    rw [counted]
    refine .answered ?_ _
    intro fault hindered
    cases hindered with
    | statisticsNowhere _ missing => exact missing ⟨e, present, rfl, rfl⟩
  · have refused : Statistics.of s workspace id = .error (.unknownExperiment id) := by
      simp only [Statistics.of, Catalogue.get_unheld held, bind, Except.bind]
    rw [refused]
    exact .failed _ (.statisticsNowhere id held)

theorem Operation.run_judged {s : Store} (sound : s.Sound) (workspace : String) (now : Moment) {operation : Operation}
    (onRows : operation.OnRows) : Judged (operation.Hindered workspace s) (operation.run workspace now s).1 := by
  cases operation with
  | assign key request => exact (Decision.assign_judged workspace now sound key request).map _
  | assignAll request => exact (Decision.assignAll_judged workspace now sound request).map _
  | pin id request => exact (Decision.pin_judged workspace now sound id request).map _
  | convert key report => exact (Conversion.record_judged workspace now sound key report).map _
  | statistics id => exact (Statistics.of_judged workspace sound id).map _
  | _ => exact onRows.elim

-- Half of a surrogate pair in a text makes a request fail at the text, if it does not fail before that.
namespace Garbled
variable {s : Store}

theorem settle_refuses {visit : Visit} {garbled : List String} {e : Experiment} (plain : e.strays = {}) {fault : Fault}
    (failed : settle visit garbled s e = .error fault) : fault = .halfCharacter := by
  unfold settle at failed
  split at failed
  · cases failed
  · rw [Experiment.admits_plain plain] at failed
    simp only [bind, Except.bind] at failed
    split at failed
    · cases failed
    · split at failed
      · rw [Experiment.letsIn_plain plain] at failed
        simp only at failed
        split at failed
        · cases failed
        · cases failed
          rfl
      · cases failed
        rfl

theorem mapM_refuses {f : α → Except Fault β} {left : List α} {fault : Fault} (failed : left.mapM f = .error fault) :
    ∃ a ∈ left, f a = .error fault := by
  induction left with
  | nil => cases failed
  | cons a rest ih =>
    rw [List.mapM_cons] at failed
    cases first : f a with
    | error other =>
      rw [first] at failed
      cases failed
      exact ⟨a, List.mem_cons_self, first⟩
    | ok b =>
      rw [first] at failed
      cases others : rest.mapM f with
      | error other =>
        rw [others] at failed
        cases failed
        obtain ⟨x, later, refused⟩ := ih others
        exact ⟨x, List.mem_cons_of_mem _ later, refused⟩
      | ok bs =>
        rw [others] at failed
        cases failed

end Garbled

namespace Operation
variable {s : Store}

theorem runGarbled_kind (sound : s.Sound) (workspace : String) (now : Moment) (variant : RawText) (data : Json)
    (garbled : List String) {operation : Operation} (onRows : operation.OnRows) {fault : Fault}
    (failed : (operation.runGarbled workspace now variant data garbled s).1 = .error fault) :
    fault.kind.isInner = false := by
  cases operation with
  | assign key request =>
    have refused : Garbled.assign (visitOf workspace now request) garbled key s = .error fault :=
      (Outcome.map_error (o := (_, s))).mp failed
    unfold Garbled.assign at refused
    split at refused
    · rename_i e found
      rw [Garbled.settle_refuses (sound.plain e (Store.experimentByKey?_some found).1) refused]
      rfl
    · cases refused
  | assignAll request =>
    have refused : Garbled.assignAll (visitOf workspace now request) garbled s = .error fault :=
      (Outcome.map_error (o := (_, s))).mp failed
    obtain ⟨e, listed, refused⟩ := Garbled.mapM_refuses ((Outcome.map_error (o := (_, s))).mp refused)
    rw [Garbled.settle_refuses (sound.listed_lasts listed).plain refused]
    rfl
  | pin id request =>
    cases failed
    unfold Garbled.pin
    by_cases held : s.Holds workspace id
    · obtain ⟨e, present, rfl, rfl⟩ := held
      rw [sound.viewed present]
      simp only
      split
      · split
        · rfl
        · rfl
      · rfl
    · rw [Catalogue.get_unheld held]
      rfl
  | convert key report =>
    have refused : Garbled.convert workspace key s = .error fault := (Outcome.map_error (o := (_, s))).mp failed
    unfold Garbled.convert at refused
    split at refused
    · cases refused
      rfl
    · cases refused
  | statistics id => exact ((run_judged sound workspace now onRows).exact.1 fault failed).kind
  | _ => exact onRows.elim

theorem runSent_kind (sound : s.Sound) (address : Address) (now : Moment) (data : Json) {operation : Operation}
    (onRows : operation.OnRows) {fault : Fault} (failed : (operation.runSent address now data s).1 = .error fault) :
    fault.kind.isInner = false := by
  unfold runSent at failed
  split at failed
  · rename_i workspace _ _
    split at failed
    · exact ((run_judged sound workspace now onRows).exact.1 fault failed).kind
    · exact runGarbled_kind sound workspace now _ data _ onRows failed
  · cases failed
    unfold lost
    split
    · split
      · rfl
      · rfl
    · rfl

end Operation

theorem requests_never_break {s : Store} (attained : Attained s) {operation : Operation} (onRows : operation.OnRows)
    (now : Moment) :
    (∀ workspace fault, (operation.run workspace now s).1 = .error fault →
      operation.Hindered workspace s fault ∧ fault.kind.isInner = false) ∧
    (∀ workspace, (∃ fault, operation.Hindered workspace s fault) →
      ∃ fault, (operation.run workspace now s).1 = .error fault) ∧
    ∀ address data fault, (operation.runSent address now data s).1 = .error fault → fault.kind.isInner = false := by
  have sound := attained.sound
  refine ⟨?_, ?_, ?_⟩
  · intro workspace fault failed
    have hindered := (Operation.run_judged sound workspace now onRows).exact.1 fault failed
    exact ⟨hindered, hindered.kind⟩
  · intro workspace
    exact (Operation.run_judged sound workspace now onRows).exact.2
  · intro address data fault failed
    exact Operation.runSent_kind sound address now data onRows failed

-- A caller whose only identifier is empty asks for everything that runs, where a variant has been deleted under a row.
theorem redrafted_never_breaks :
    let s := (Scene.empty.play redrafted).store
    let nobody : Operation := .assignAll ⟨⟨some "", none, none⟩, none⟩
    Attained s ∧ nobody.OnRows ∧ ∃ e ∈ s.experiments, e.workspace = "shop" ∧
      e.Hinders s ⟨some "", none, none⟩ none (.noSubject .assignment) ∧
      ∃ fault, (nobody.run "shop" ⟨3⟩ s).1 = .error fault ∧ nobody.Hindered "shop" s fault ∧
        fault.kind.isInner = false := by
  intro s nobody
  have attained : Attained s := ⟨redrafted, rfl⟩
  obtain ⟨e, present, own, running, targeted⟩ : ∃ e ∈ (Scene.empty.play redrafted).store.experiments,
      e.workspace = "shop" ∧ e.status = .running ∧ Targeting.admits (some e.targeting) none = true := by decide +kernel
  have hinders : e.Hinders s ⟨some "", none, none⟩ none (.noSubject .assignment) :=
    .unnamed running targeted (by decide)
  have onRows : nobody.OnRows := trivial
  obtain ⟨sound, complete, _⟩ := requests_never_break attained onRows ⟨3⟩
  obtain ⟨fault, failed⟩ := complete "shop" ⟨_, .assignAll e present own _ hinders⟩
  exact ⟨attained, onRows, e, present, own, hinders, fault, failed, sound "shop" fault failed⟩

end Cohort
