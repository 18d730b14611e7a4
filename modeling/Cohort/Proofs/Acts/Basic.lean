import Cohort.Operation
import Cohort.Proofs.Store.Lookups

-- What services write, one committed statement at a time, under which conditions they write it, and which operation
-- comes to which writes. Later facts about stores are shown act by act; no operation is opened again for them.
namespace Cohort

inductive Plan (s : Store) (now : Moment) (e : Experiment) : ExperimentRevision → Prop where
  | update (changes : ExperimentChanges) : Plan s now e changes.revision
  | start (allowed : Lifecycle.allows .start e.status = true)
      (enough : Fault.leastVariants ≤ (s.variantsOf e.id).length) : Plan s now e {
        status := .set .running
        startAt := if e.startAt.isNone then .set (some (Dated.unzoned now)) else .keep }
  | pause (allowed : Lifecycle.allows .pause e.status = true) : Plan s now e { status := .set .paused }
  | conclude (winner : Option String) (allowed : Lifecycle.allows .conclude e.status = true)
      (own : ∀ w, winner = some w → Catalogue.isOwn (s.view e) w = true) : Plan s now e {
        status := .set .concluded
        winner := .set winner
        concludedAt := .set (some (Dated.unzoned now))
        endAt := .set (some (Dated.unzoned (e.endAt.getD now))) }
  | archive : Plan s now e { status := .set .archived }

inductive Act where
  -- an id is given out to a row that is then refused
  | lose
  | create (draft : ExperimentDraft)
  | revise (experiment : Experiment) (revision : ExperimentRevision)
  | addVariant (experiment : String) (draft : VariantDraft)
  | reviseVariant (variant : Variant) (changes : VariantChanges)
  | removeVariant (variant : String)
  | draw (experiment variant : String) (subject : Subject) (key : String)
  | pin (experiment variant : String) (subject : Subject) (key : String)
  | expose (row : String)
  | convert (row : String) (value : Option Float) (metadata : Json)

namespace Store

def Holds (s : Store) (workspace experiment : String) : Prop :=
  ∃ e ∈ s.experiments, e.id = experiment ∧ e.workspace = workspace

-- No longer a draft, so that its variants stay.
def Launched (s : Store) (workspace experiment : String) : Prop :=
  ∃ e ∈ s.experiments, e.id = experiment ∧ e.workspace = workspace ∧ e.status ≠ .draft

def Drafts (s : Store) (workspace experiment : String) : Prop :=
  ∃ e ∈ s.experiments, e.id = experiment ∧ e.workspace = workspace ∧ e.status = .draft

def Owns (s : Store) (experiment variant : String) : Prop :=
  ∃ v ∈ s.variants, v.id = variant ∧ v.experiment = experiment

def Within (s : Store) (workspace row : String) : Prop :=
  s.Issued row ∧ ∀ a ∈ s.assignments, a.id = row → s.Holds workspace a.experiment

def Free (s : Store) (row : Assignment) : Prop := ∀ other ∈ s.assignments, row.clashes other = false

-- Without the rows of the experiment that stand for the subject.
def without (s : Store) (experiment : String) (subject : Subject) : Store :=
  { s with assignments := s.assignments.filter fun a => !(a.experiment = experiment && a.standsFor subject) }

def drawnRow (s : Store) (workspace : String) (now : Moment) (experiment variant : String) (subject : Subject)
    (key : String) : Assignment :=
  Assignment.new s.nextId workspace experiment variant subject key .auto (some now) now

def pinnedRow (s : Store) (workspace : String) (now : Moment) (experiment variant : String) (subject : Subject)
    (key : String) : Assignment :=
  Assignment.new s.nextId workspace experiment variant subject key .override none now

end Store

namespace Act

def apply (workspace : String) (now : Moment) (s : Store) : Act → Store
  | .lose => s.draw
  | .create draft => { s.draw with experiments := s.experiments ++ [draft.row s.nextId workspace now] }
  | .revise e r => s.putExperiment (r.applied now e)
  | .addVariant id draft => { s.draw with variants := s.variants ++ [draft.row s.nextId id (s.nextPosition id) now] }
  | .reviseVariant v changes => s.putVariant (changes.revision.applied now v)
  | .removeVariant id => { s with
      assignments := s.assignments.filter (·.variant ≠ id)
      variants := s.variants.filter (·.id ≠ id) }
  | .draw id variant subject key => { s.draw with
      assignments := s.assignments ++ [s.drawnRow workspace now id variant subject key] }
  | .pin id variant subject key => { s.draw with
      assignments := (s.without id subject).assignments ++ [s.pinnedRow workspace now id variant subject key] }
  | .expose row => { s with assignments := s.assignments.map fun a => if a.id = row then Store.exposed now a else a }
  | .convert row value metadata => { s with
      assignments := s.assignments.map fun a =>
        if Store.awaits row a then Store.converted now value metadata a else a }

def Allowed (workspace : String) (now : Moment) (s : Store) : Act → Prop
  | .lose => True
  | .create draft => ∀ e ∈ s.experiments, e.workspace = workspace → e.key ≠ draft.key.val
  | .revise e r => e ∈ s.experiments ∧ e.workspace = workspace ∧ Plan s now e r
  | .addVariant id draft => s.Drafts workspace id ∧
      ∀ v ∈ s.variants, v.experiment = id → v.key ≠ draft.key.val
  | .reviseVariant v _ => v ∈ s.variants ∧ s.Holds workspace v.experiment
  | .removeVariant id => ∃ v ∈ s.variants, v.id = id ∧ s.Drafts workspace v.experiment
  | .draw id variant subject key => s.Launched workspace id ∧ s.Owns id variant ∧ subject.key = some key ∧
      s.Free (s.drawnRow workspace now id variant subject key)
  | .pin id variant subject key => s.Holds workspace id ∧ s.Owns id variant ∧ subject.key = some key ∧
      (s.without id subject).Free (s.pinnedRow workspace now id variant subject key)
  | .expose row => s.Within workspace row
  | .convert row _ _ => s.Within workspace row

-- What one request leads to, committing one act after the other, all of them read off the same clock and all of them
-- of the kind that `may` lets it come to.
inductive Commits (may : Act → Prop) (workspace : String) (now : Moment) (s : Store) : Store → Prop where
  | nothing : Commits may workspace now s s
  | step {act : Act} (earlier : Commits may workspace now s middle) (permitted : may act)
      (allowed : act.Allowed workspace now middle) : Commits may workspace now s (act.apply workspace now middle)

inductive Once (may : Act → Prop) (workspace : String) (now : Moment) (s : Store) : Store → Prop where
  | nothing : Once may workspace now s s
  | done (act : Act) (permitted : may act) (allowed : act.Allowed workspace now s) :
      Once may workspace now s (act.apply workspace now s)

section Requests
variable {may might : Act → Prop} {workspace : String} {now : Moment} {s middle last : Store}

theorem Once.commits (written : Once may workspace now s last) : Commits may workspace now s last := by
  cases written with
  | nothing => exact .nothing
  | done act permitted allowed => exact .step .nothing permitted allowed

theorem Commits.one (act : Act) (permitted : may act) (allowed : act.Allowed workspace now s) :
    Commits may workspace now s (act.apply workspace now s) := .step .nothing permitted allowed

theorem Commits.followed (earlier : Commits may workspace now s middle)
    (later : Commits may workspace now middle last) : Commits may workspace now s last := by
  induction later with
  | nothing => exact earlier
  | step _ permitted allowed ih => exact .step ih permitted allowed

theorem Once.among (wider : ∀ act, may act → might act) (written : Once may workspace now s last) :
    Once might workspace now s last := by
  cases written with
  | nothing => exact .nothing
  | done act permitted allowed => exact .done act (wider act permitted) allowed

theorem Commits.among (wider : ∀ act, may act → might act) (committed : Commits may workspace now s last) :
    Commits might workspace now s last := by
  induction committed with
  | nothing => exact .nothing
  | step _ permitted allowed ih => exact .step ih (wider _ permitted) allowed

end Requests
end Act

-- What a request for a decision can come to: a row of its own subject, and one exposure.
inductive Visit.Permits (subject : Subject) : Act → Prop where
  | lose : Permits subject .lose
  | draw (experiment variant key : String) : Permits subject (.draw experiment variant subject key)
  | expose (row : String) : Permits subject (.expose row)

inductive Conversion.Permits (report : ConversionReport) : Act → Prop where
  | mark (row : String) : Permits report (.convert row report.value (Json.ofMembers report.metadata))

inductive Operation.Permits : Operation → Act → Prop where
  | createLost (draft : ExperimentDraft) : Permits (.create draft) .lose
  | create (draft : ExperimentDraft) : Permits (.create draft) (.create draft)
  | update (e : Experiment) (changes : ExperimentChanges) : Permits (.update e.id changes) (.revise e changes.revision)
  | start (e : Experiment) {r : ExperimentRevision} (target : r.status = .set .running) :
      Permits (.start e.id) (.revise e r)
  | pause (e : Experiment) {r : ExperimentRevision} (target : r.status = .set .paused) :
      Permits (.pause e.id) (.revise e r)
  | conclude (e : Experiment) (winner : Option String) {r : ExperimentRevision} (target : r.status = .set .concluded) :
      Permits (.conclude e.id winner) (.revise e r)
  | archive (e : Experiment) {r : ExperimentRevision} (target : r.status = .set .archived) :
      Permits (.archive e.id) (.revise e r)
  | variantLost (id : String) (draft : VariantDraft) : Permits (.addVariant id draft) .lose
  | addVariant (id : String) (draft : VariantDraft) : Permits (.addVariant id draft) (.addVariant id draft)
  | updateVariant (id : String) (v : Variant) (changes : VariantChanges) :
      Permits (.updateVariant id v.id changes) (.reviseVariant v changes)
  | deleteVariant (id variant : String) : Permits (.deleteVariant id variant) (.removeVariant variant)
  | assign (key : String) (request : DecisionRequest) {act : Act} (visits : Visit.Permits request.subject act) :
      Permits (.assign key request) act
  | assignAll (request : DecisionRequest) {act : Act} (visits : Visit.Permits request.subject act) :
      Permits (.assignAll request) act
  | pinLost (id : String) (request : PinRequest) : Permits (.pin id request) .lose
  | pin (id key : String) (request : PinRequest) :
      Permits (.pin id request) (.pin id request.variant request.subject key)
  | convert (key : String) (report : ConversionReport) {act : Act} (reports : Conversion.Permits report act) :
      Permits (.convert key report) act

end Cohort
