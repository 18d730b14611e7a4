import Cohort.Catalogue
import Cohort.Json.Agreement
import Cohort.Store.Kinds

-- Columns of an experiment written by name, past all the rules of the catalogue.
namespace Cohort

structure Column where
  name : String
  needed : Bool
  holds : Experiment → Json → Bool
  -- what becomes of a value before the statement is made, and what as it is handed over
  converts : Json → Except Fault Json := .ok
  binds : Json → Except Fault Json := .ok
  put : Json → Experiment → Experiment

namespace Column
open Store

def storedName (c : Column) : String := "experiments." ++ (if c.name = "metadata_json" then "metadata" else c.name)

def text (name : String) (held : Experiment → Option String) (put : Option String → Experiment → Experiment) :
    Column where
  name := name
  needed := false
  holds e v := v.equals (Json.ofText (held e))
  binds := asText
  put v := put v.string?

def neededText (name : String) (held : Experiment → String) (put : String → Experiment → Experiment) : Column :=
  { text name (fun e => some (held e)) (fun s => put (s.getD "")) with needed := true }

-- No value that comes as it is is a time, so a time column can only be emptied.
def time (name : String) (held : Experiment → Option Moment) (clear : Experiment → Experiment) : Column where
  name := name
  needed := false
  holds e v := v.isNull && (held e).isNone
  converts := asTime
  put _ := clear

def word (name : String) (held : Experiment → String) (put : String → Experiment → Experiment) : Column where
  name := name
  needed := true
  holds e v := v.equals (.string (held e))
  put v := put (v.string?.getD "")

-- A text need not be in the list, but then the row cannot be read again.
def category (held : Experiment → String) : Column where
  name := "type"
  needed := true
  holds e v := v.equals (.string (held e))
  converts := asWord
  binds := asText
  put v e :=
    let word := v.string?.getD ""
    match Category.ofName? word with
    | some c => { e with category := c }
    | none => { e with strays := { e.strays with category := some word } }

def value (name : String) (held : Experiment → Json) (put : Json → Experiment → Experiment) : Column where
  name := name
  needed := false
  holds e v := v.equals (held e)
  put := put

def ceiling (x : Float) : Int :=
  match Decimal.whole? x.ceil with
  | some n => n
  | none => if x < 0.0 then 0 else 100

def putTraffic (v : Json) (e : Experiment) : Experiment :=
  match v with
  | .int n => { e with traffic := n, strays := { e.strays with traffic := none } }
  | .float x => { e with traffic := ceiling x, strays := { e.strays with traffic := some v } }
  | _ => { e with traffic := 0, strays := { e.strays with traffic := some v } }

def putTargeting (v : Json) (e : Experiment) : Experiment :=
  match v with
  | .object rules => { e with targeting := rules, strays := { e.strays with targeting := none } }
  | _ => { e with targeting := [], strays := { e.strays with targeting := some v } }

def putMetadata (v : Json) (e : Experiment) : Experiment :=
  match v with
  | .object metadata => { e with metadata := metadata, strays := { e.strays with metadata := none } }
  | _ => { e with metadata := [], strays := { e.strays with metadata := some v } }

def all : List Column := [
  neededText "experiment_id" (·.id) fun s e => { e with id := s },
  neededText "workspace_id" (·.workspace) fun s e => { e with workspace := s },
  neededText "key" (·.key) fun s e => { e with key := s },
  neededText "name" (·.name) fun s e => { e with name := s },
  text "description" (·.description) fun s e => { e with description := s },
  category (·.category.name),
  word "status" (·.status.name) fun s e => { e with status := (Status.ofName? s).getD e.status },
  { time "created_at" (fun e => some e.createdAt) id with needed := true },
  time "updated_at" (·.updatedAt) fun e => { e with updatedAt := none },
  time "start_at" (·.startAt) fun e => { e with startAt := none },
  time "end_at" (·.endAt) fun e => { e with endAt := none },
  time "concluded_at" (·.concludedAt) fun e => { e with concludedAt := none },
  { value "traffic_allocation" (·.trafficStored) putTraffic with needed := true, binds := asWhole },
  value "targeting_rules" (·.targetingStored) putTargeting,
  text "winning_variant_id" (·.winner) fun s e => { e with winner := s },
  value "metadata_json" (·.metadataStored) putMetadata]

def changes (set : Json.Members) (e : Experiment) : List (Column × Json) :=
  all.filterMap fun c =>
    match Json.member? c.name set with
    | some v => if c.holds e v then none else some (c, v)
    | none => none

end Column

namespace Columns

def isListed (ofName? : String → Option α) : Json → Bool
  | .string (.whole s) => (ofName? s).isSome
  | _ => false

def lookUp (member : RawText × Json) : Except Fault Unit :=
  if member.1 = "status" && !isListed Status.ofName? member.2 then .error (.unlisted .status member.2) else .ok ()

-- Without a row the first value has no place to go.
def unplaced : Json.Members → Fault
  | [] => .nothingLoaded
  | member :: _ =>
    match lookUp member with
    | .error fault => fault
    | .ok _ => .noSuchRow

def eachValue (step : Column → Json → Except Fault Json) (changes : List (Column × Json)) :
    Except Fault (List (Column × Json)) :=
  changes.mapM fun change => do return (change.1, ← step change.1 change.2)

def missing? (changes : List (Column × Json)) : Option Column :=
  (changes.find? fun change => change.1.needed && change.2.isNull).map (·.1)

def repeated? (s : Store) (e row : Experiment) : Option (List String) :=
  let others := s.experiments.filter (·.id ≠ e.id)
  if others.any (·.id = row.id) then some ["experiments.experiment_id"]
  else if others.any (Store.sameKey row) then some Store.experimentKeyColumns
  else none

-- All changed columns are written at once, and the time of the update with them unless it is sent itself.
def write (s : Store) (now : Moment) (e : Experiment) (changes : List (Column × Json)) :
    Except Fault (Experiment × Store) := do
  let converted ← eachValue Column.converts changes
  let bound ← eachValue Column.binds converted
  if !s.writable then .error .readOnly
  else
    match missing? bound with
    | some c => .error (.clashingUpdate (.absent c.storedName))
    | none =>
      let row := bound.foldl (fun e change => change.1.put change.2 e) { e with updatedAt := some now }
      match repeated? s e row with
      | some columns => .error (.clashingUpdate (.repeated columns))
      | none =>
        return (row, { s with experiments := s.experiments.map fun other => if other.id = e.id then row else other })

def saveIn (s : Store) (workspace : String) (now : Moment) (id : String) (set : Json.Members) :
    Except Fault (ExperimentView × Store) := do
  match s.experiment? workspace id with
  | none => .error (unplaced set)
  | some e =>
    let _ ← set.mapM lookUp
    match Column.changes set e with
    | [] => return (s.view e, s)
    | changes =>
      let (row, s') ← write s now e changes
      return (s'.view row, s')

def save (s : Store) (workspace : RawText) (now : Moment) (id : RawText) (set : Json.Members) :
    Outcome ExperimentView :=
  match workspace, id with
  | .whole workspace, .whole id => Outcome.attempt s (saveIn s workspace now id set)
  | _, _ => (.error .halfCharacter, s)

end Columns
end Cohort
