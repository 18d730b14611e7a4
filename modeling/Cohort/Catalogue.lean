import Cohort.Form.Requests
import Cohort.Outcome
import Cohort.Store.Write

namespace Cohort

def Change.ofRequired (f : α → β) : Option (Option α) → Change β
  | some (some a) => .set (f a)
  | _ => .keep

def Change.ofNullable : Option (Option α) → Change (Option α)
  | some a => .set a
  | none => .keep

-- A null for a column that cannot be empty is passed over, one for the metadata empties it, and one for any
-- other column clears it.
def ExperimentChanges.revision (c : ExperimentChanges) : ExperimentRevision where
  name := .ofRequired id c.name
  description := .ofNullable c.description
  traffic := .ofRequired (·.val) c.traffic
  targeting := .ofRequired id c.targeting
  startAt := .ofNullable c.startAt
  endAt := .ofNullable c.endAt
  metadata := .ofRequired id (c.metadata.map fun m => some (m.getD []))

def VariantChanges.revision (c : VariantChanges) : VariantRevision where
  name := .ofRequired id c.name
  description := .ofNullable c.description
  weight := .ofRequired (·.val) c.weight
  config := .ofRequired id c.config

def ExperimentDraft.row (d : ExperimentDraft) (id workspace : String) (now : Moment) : Experiment where
  id := id
  workspace := workspace
  key := d.key.val
  name := d.name
  description := d.description
  category := d.category
  status := .draft
  createdAt := now
  updatedAt := some now
  startAt := d.startAt.map (·.wall)
  endAt := d.endAt.map (·.wall)
  concludedAt := none
  traffic := d.traffic.val
  targeting := d.targeting
  winner := none
  metadata := d.metadata

def VariantDraft.row (d : VariantDraft) (id experiment : String) (position : Nat) (now : Moment) : Variant where
  id := id
  experiment := experiment
  key := d.key.val
  name := d.name
  description := d.description
  weight := d.weight.val
  isControl := d.isControl
  config := d.config
  position := position
  createdAt := now
  updatedAt := some now

namespace Catalogue

-- The store alone decides whether the key is free; the id is used up either way.
def insert (s : Store) (workspace : String) (now : Moment) (draft : ExperimentDraft) : Outcome ExperimentView :=
  let row := draft.row s.nextId workspace now
  match s.draw.insertExperiment row with
  | .ok s' => (.ok (s'.view row), s')
  | .error (.violates _) => (.error (.keyTaken draft.key.val), s.draw)
  | .error fault => (.error fault, s.draw)

def create (s : Store) (workspace : String) (now : Moment) (draft : ExperimentDraft) : Outcome ExperimentView :=
  if (s.experimentByKey? workspace draft.key.val).isSome then (.error (.keyTaken draft.key.val), s)
  else insert s workspace now draft

def get (s : Store) (workspace id : String) : Except Fault ExperimentView :=
  match s.view? workspace id with
  | some v => .ok v
  | none => .error (.unknownExperiment id)

def getByKey (s : Store) (workspace key : String) : Except Fault ExperimentView :=
  match s.viewByKey? workspace key with
  | some v => .ok v
  | none => .error (.unknownKey key)

def list (s : Store) (workspace : String) (filter : Store.Filter) : List ExperimentView :=
  (s.list workspace filter).map s.view

def revise (s : Store) (workspace : String) (now : Moment) (id : String)
    (plan : ExperimentView → Except Fault ExperimentRevision) : Outcome ExperimentView :=
  Outcome.attempt s do
    let v ← get s workspace id
    let r ← plan v
    let (row, s') ← s.updateExperiment now v.experiment r
    return (s'.view row, s')

def update (s : Store) (workspace : String) (now : Moment) (id : String) (changes : ExperimentChanges) :
    Outcome ExperimentView :=
  revise s workspace now id fun _ => .ok changes.revision

def moved (e : Experiment) (action : Action) : Except Fault Status :=
  match Lifecycle.next? e.status action with
  | some status => .ok status
  | none => .error (.illegalAction action e.status)

-- A resumed experiment keeps the start it has.
def start (s : Store) (workspace : String) (now : Moment) (id : String) : Outcome ExperimentView :=
  revise s workspace now id fun v => do
    let status ← moved v.experiment .start
    if v.variants.length < Fault.leastVariants then .error .tooFewVariants
    else
      return {
        status := .set status
        startAt := if v.experiment.startAt.isNone then .set (some (Dated.unzoned now)) else .keep }

def pause (s : Store) (workspace : String) (now : Moment) (id : String) : Outcome ExperimentView :=
  revise s workspace now id fun v => do
    let status ← moved v.experiment .pause
    return { status := .set status }

def isOwn (v : ExperimentView) (winner : String) : Bool := winner = "" || (v.variant? winner).isSome

-- An end that was planned stays. An empty winner is stored and names nobody.
def conclude (s : Store) (workspace : String) (now : Moment) (id : String) (winner : Option String) :
    Outcome ExperimentView :=
  revise s workspace now id fun v => do
    let status ← moved v.experiment .conclude
    match winner.filter (fun w => !isOwn v w) with
    | some w => .error (.foreignWinner w)
    | none =>
      return {
        status := .set status
        winner := .set winner
        concludedAt := .set (some (Dated.unzoned now))
        endAt := .set (some (Dated.unzoned (v.experiment.endAt.getD now))) }

def archive (s : Store) (workspace : String) (now : Moment) (id : String) : Outcome ExperimentView :=
  revise s workspace now id fun v => do
    let status ← moved v.experiment .archive
    return { status := .set status }

def insertVariant (s : Store) (now : Moment) (experiment : String) (draft : VariantDraft) : Outcome Variant :=
  let row := draft.row s.nextId experiment (s.nextPosition experiment) now
  match s.draw.insertVariant row with
  | .ok s' => (.ok row, s')
  | .error (.violates _) => (.error (.variantKeyTaken draft.key.val), s.draw)
  | .error fault => (.error fault, s.draw)

def insertVariantOf (s : Store) (workspace : String) (now : Moment) (id : String) (draft : VariantDraft) :
    Outcome Variant :=
  match s.experiment? workspace id with
  | some e => insertVariant s now e.id draft
  | none => (.error .noSuchRow, s)

def addVariant (s : Store) (workspace : String) (now : Moment) (id : String) (draft : VariantDraft) :
    Outcome Variant :=
  match get s workspace id with
  | .error fault => (.error fault, s)
  | .ok v =>
    if v.experiment.status ≠ .draft then (.error .addingOutsideDraft, s)
    else if v.variants.any (·.key = draft.key.val) then (.error (.variantKeyTaken draft.key.val), s)
    else insertVariant s now v.experiment.id draft

def ownVariant (v : ExperimentView) (id : String) : Except Fault Variant :=
  match v.variant? id with
  | some variant => .ok variant
  | none => .error (.unknownVariant id)

def updateVariant (s : Store) (workspace : String) (now : Moment) (id variant : String) (changes : VariantChanges) :
    Outcome Variant :=
  Outcome.attempt s do
    let v ← get s workspace id
    let own ← ownVariant v variant
    s.updateVariant now own changes.revision

def deleteVariant (s : Store) (workspace id variant : String) : Outcome Unit :=
  Outcome.attempt s do
    let v ← get s workspace id
    if v.experiment.status ≠ .draft then .error .deletingOutsideDraft
    else
      let own ← ownVariant v variant
      let s' ← s.removeVariant own.id
      return ((), s')

end Catalogue
end Cohort
