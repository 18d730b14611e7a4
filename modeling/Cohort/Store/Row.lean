import Cohort.Calendar.Basic
import Cohort.Json.Basic
import Cohort.Lifecycle
import Cohort.Subject

namespace Cohort

-- What stands in a column past the rules for it: no number of per cent, no object, or no category. The column
-- itself then has the nearest number, no entries, or what stood there before.
structure Strays where
  category : Option String := none
  traffic : Option Json := none
  targeting : Option Json := none
  metadata : Option Json := none

structure Experiment where
  id : String
  workspace : String
  key : String
  name : String
  description : Option String
  category : Category
  status : Status
  createdAt : Moment
  updatedAt : Option Moment
  startAt : Option Moment
  endAt : Option Moment
  concludedAt : Option Moment
  traffic : Int
  targeting : Json.Members
  winner : Option String
  metadata : Json.Members
  strays : Strays := {}

namespace Experiment

def trafficStored (e : Experiment) : Json := e.strays.traffic.getD (.int e.traffic)

def targetingStored (e : Experiment) : Json := e.strays.targeting.getD (.object e.targeting)

def metadataStored (e : Experiment) : Json := e.strays.metadata.getD (.object e.metadata)

end Experiment

structure Variant where
  id : String
  experiment : String
  key : String
  name : String
  description : Option String
  weight : Int
  isControl : Bool
  config : Json.Members
  position : Nat
  createdAt : Moment
  updatedAt : Option Moment

inductive Source where
  | auto
  | override
deriving DecidableEq, Repr

def Source.name : Source → String
  | .auto => "auto"
  | .override => "override"

-- The subject is stored as it was sent, empty identifiers included.
structure Assignment where
  id : String
  workspace : String
  experiment : String
  variant : String
  subject : Subject
  subjectKey : String
  source : Source
  firstExposure : Option Moment
  lastExposure : Option Moment
  exposures : Nat
  convertedAt : Option Moment
  value : Option Float
  conversionMetadata : Json
  metadata : Json.Members
  createdAt : Moment

namespace Assignment

def precedes (a b : Assignment) : Bool :=
  match a.source, b.source with
  | .override, .auto => true
  | .auto, .override => false
  | _, _ => a.createdAt < b.createdAt

def standsFor (subject : Subject) (row : Assignment) : Bool :=
  subject.identifiers.any (fun i => row.subject.given i.1 = some i.2) || subject.key = some row.subjectKey

def sameGiven (kind : IdentifierKind) (a b : Assignment) : Bool :=
  (a.subject.given kind).isSome && a.subject.given kind = b.subject.given kind

-- The column that two rows of one experiment may not have in common. Absent identifiers never clash, empty
-- ones do.
def clash? (a b : Assignment) : Option String :=
  if a.experiment ≠ b.experiment then none
  else if a.subjectKey = b.subjectKey then some "subject_key"
  else if sameGiven .customer a b then some "customer_id"
  else if sameGiven .session a b then some "session_id"
  else if sameGiven .user a b then some "user_id"
  else none

def clashes (a b : Assignment) : Bool := (a.clash? b).isSome

end Assignment
end Cohort
