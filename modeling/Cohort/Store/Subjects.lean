import Cohort.Outcome
import Cohort.Store.Write

namespace Cohort

def Assignment.new (id workspace experiment variant : String) (subject : Subject) (key : String) (source : Source)
    (exposedAt : Option Moment) (now : Moment) : Assignment where
  id := id
  workspace := workspace
  experiment := experiment
  variant := variant
  subject := subject
  subjectKey := key
  source := source
  firstExposure := exposedAt
  lastExposure := exposedAt
  exposures := if exposedAt.isSome then 1 else 0
  convertedAt := none
  value := none
  conversionMetadata := .null
  metadata := []
  createdAt := now

namespace Store

-- A subject without an identifier has no key to be stored under.
def addSubject (s : Store) (now : Moment) (workspace experiment variant : String) (subject : Subject)
    (source : Source) (exposedAt : Option Moment) : Outcome Assignment :=
  match subject.key with
  | none => (.error (if s.writable then .violates (.absent "assignments.subject_key") else .readOnly), s.draw)
  | some key =>
    let row := Assignment.new s.nextId workspace experiment variant subject key source exposedAt now
    match s.draw.insertAssignment row with
    | .ok s' => (.ok row, s')
    | .error fault => (.error fault, s.draw)

def addDrawn (s : Store) (now : Moment) (workspace experiment variant : String) (subject : Subject) :
    Outcome Assignment :=
  s.addSubject now workspace experiment variant subject .auto (some now)

-- Adds a row unless the subject has one, which is found out by the insert itself; the flag says which it was.
def createIfAbsent (s : Store) (now : Moment) (workspace experiment variant : String) (subject : Subject) :
    Outcome (Assignment × Bool) :=
  match s.addDrawn now workspace experiment variant subject with
  | (.ok row, s') => (.ok (row, true), s')
  | (.error (.violates violation), s') =>
    match s'.find? experiment subject with
    | some row => (.ok (row, false), s')
    | none => (.error (.violates violation), s')
  | (.error fault, s') => (.error fault, s')

-- Deleting and inserting are one step: if the insert is refused, the deleted rows are back.
def replaceSubject (s : Store) (now : Moment) (workspace experiment variant : String) (subject : Subject) :
    Outcome Assignment :=
  match s.clearSubject experiment subject with
  | .error fault => (.error fault, s)
  | .ok cleared =>
    match cleared.addSubject now workspace experiment variant subject .override none with
    | (.ok row, s') => (.ok row, s')
    | (.error fault, _) => (.error fault, s.draw)

end Store
end Cohort
