import Cohort.Form.Requests
import Cohort.Outcome
import Cohort.Store.Write

namespace Cohort.Conversion

structure Notice where
  workspace : String
  now : Moment
  report : ConversionReport

inductive Turn where
  | looking (key : String)
  | marking (row : String)
  | settled (answer : Except Fault Bool)

namespace Notice

def look (notice : Notice) (key : String) (s : Store) : Except Fault (Option String) :=
  if !notice.report.subject.hasIdentifier then .error (.noSubject .conversion)
  else
    match s.experimentByKey? notice.workspace key with
    | none => .ok none
    | some e =>
      match s.find? e.id notice.report.subject with
      | none => .ok none
      | some row => .ok (if row.convertedAt.isSome then none else some row.id)

-- The write looks once more, for the row may have converted since.
def mark (notice : Notice) (row : String) (s : Store) : Outcome Bool :=
  Outcome.attempt s (s.markConverted notice.now row notice.report.value (Json.ofMembers notice.report.metadata))

def advance (notice : Notice) : Turn → Store → Turn × Store
  | .looking key, s =>
    match notice.look key s with
    | .ok (some row) => (.marking row, s)
    | .ok none => (.settled (.ok false), s)
    | .error fault => (.settled (.error fault), s)
  | .marking row, s =>
    let (answer, s') := notice.mark row s
    (.settled answer, s')
  | .settled answer, s => (.settled answer, s)

end Notice

-- The other requests come between the look and the write, so without a write they are not done.
def recordAmid (notice : Notice) (key : String) (meanwhile : Store → Outcome Unit) (s : Store) : Outcome Bool :=
  match notice.look key s with
  | .error fault => (.error fault, s)
  | .ok none => (.ok false, s)
  | .ok (some row) =>
    match meanwhile s with
    | (.ok (), s') => notice.mark row s'
    | (.error fault, s') => (.error fault, s')

def record (notice : Notice) (key : String) (s : Store) : Outcome Bool :=
  recordAmid notice key (fun s => (.ok (), s)) s

end Cohort.Conversion
