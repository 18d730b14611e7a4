import Cohort.Bucket
import Cohort.Fault
import Cohort.Store.Basic
import Cohort.Store.Revision

-- The statements that change the store. Each is one step: it takes effect as a whole or is refused and leaves
-- the store as it was. A number that no word holds is refused before the store sees the statement.
namespace Cohort.Store

def inWord (n : Int) : Bool := -Entry.wordLimit ≤ n && n < Entry.wordLimit

def sameKey (a b : Experiment) : Bool := a.workspace = b.workspace && a.key = b.key

def experimentKeyColumns : List String := ["experiments.workspace_id", "experiments.key"]

def insertExperiment (s : Store) (row : Experiment) : Except Fault Store :=
  if !inWord row.traffic then .error .beyondWord
  else if !s.writable then .error .readOnly
  else if s.experiments.any (sameKey row) then .error (.violates (.repeated experimentKeyColumns))
  else .ok { s with experiments := s.experiments ++ [row] }

def sameVariantKey (a b : Variant) : Bool := a.experiment = b.experiment && a.key = b.key

def insertVariant (s : Store) (row : Variant) : Except Fault Store :=
  if !inWord row.weight then .error .beyondWord
  else if !s.writable then .error .readOnly
  else if s.variants.any (sameVariantKey row) then
    .error (.violates (.repeated ["variants.experiment_id", "variants.key"]))
  else .ok { s with variants := s.variants ++ [row] }

def insertAssignment (s : Store) (row : Assignment) : Except Fault Store :=
  if !s.writable then .error .readOnly
  else
    match s.assignments.findSome? row.clash? with
    | some column => .error (.violates (.repeated ["assignments.experiment_id", "assignments." ++ column]))
    | none => .ok { s with assignments := s.assignments ++ [row] }

def putExperiment (s : Store) (row : Experiment) : Store :=
  { s with experiments := s.experiments.map fun e => if e.id = row.id then row else e }

def putVariant (s : Store) (row : Variant) : Store :=
  { s with variants := s.variants.map fun v => if v.id = row.id then row else v }

-- An update that changes nothing is not sent at all. The answer is the row as it then stands.
def updateExperiment (s : Store) (now : Moment) (e : Experiment) (r : ExperimentRevision) :
    Except Fault (Experiment × Store) :=
  if !r.alters e then .ok (e, s)
  else
    let row := r.applied now e
    if !inWord row.traffic then .error .beyondWord
    else if !s.writable then .error .readOnly
    else if s.experiments.any (fun other => other.id ≠ e.id && sameKey row other) then
      .error (.clashingUpdate (.repeated experimentKeyColumns))
    else .ok (row, s.putExperiment row)

def updateVariant (s : Store) (now : Moment) (v : Variant) (r : VariantRevision) : Except Fault (Variant × Store) :=
  if !r.alters v then .ok (v, s)
  else
    let row := r.applied now v
    if !inWord row.weight then .error .beyondWord
    else if !s.writable then .error .readOnly
    else .ok (row, s.putVariant row)

def removeVariant (s : Store) (id : String) : Except Fault Store :=
  if !s.writable then .error .readOnly
  else
    .ok { s with
      assignments := s.assignments.filter (·.variant ≠ id)
      variants := s.variants.filter (·.id ≠ id) }

def clearSubject (s : Store) (experiment : String) (subject : Subject) : Except Fault Store :=
  if !s.writable then .error .readOnly
  else
    .ok { s with
      assignments := s.assignments.filter fun a => !(a.experiment = experiment && a.standsFor subject) }

def exposed (now : Moment) (row : Assignment) : Assignment :=
  { row with
    exposures := row.exposures + 1
    lastExposure := some now
    firstExposure := some (row.firstExposure.getD now) }

def recordExposure (s : Store) (now : Moment) (id : String) : Except Fault Store :=
  if !s.writable then .error .readOnly
  else .ok { s with assignments := s.assignments.map fun a => if a.id = id then exposed now a else a }

-- A NaN is stored as no value and a negative zero as zero.
def storedValue (value : Option Float) : Option Float :=
  match value with
  | none => none
  | some x =>
    match Decimal.Worth.ofFloat x with
    | .nan => none
    | .finite 0 _ => some 0.0
    | _ => some x

def converted (now : Moment) (value : Option Float) (metadata : Json) (row : Assignment) : Assignment :=
  { row with convertedAt := some now, value := storedValue value, conversionMetadata := metadata }

def awaits (id : String) (row : Assignment) : Bool := row.id = id && row.convertedAt.isNone

def markConverted (s : Store) (now : Moment) (id : String) (value : Option Float) (metadata : Json) :
    Except Fault (Bool × Store) :=
  if !s.writable then .error .readOnly
  else
    .ok (s.assignments.any (awaits id),
      { s with
        assignments := s.assignments.map fun a => if awaits id a then converted now value metadata a else a })

def nextPosition (s : Store) (experiment : String) : Nat :=
  ((s.variants.filter (·.experiment = experiment)).map (·.position + 1)).foldl max 0

end Cohort.Store
