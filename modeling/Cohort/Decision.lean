import Cohort.Catalogue
import Cohort.Store.Subjects
import Cohort.Targeting

-- Which variant a subject sees. A request for a decision takes its turns one by one, each of them a single step
-- of the store, so that other requests can come in between.
namespace Cohort

structure Decision where
  experiment : String
  variant : String
  config : Json.Members
  isControl : Bool
  assignment : String
  isNew : Bool

def Decision.of (e : Experiment) (v : Variant) (assignment : String) (isNew : Bool) : Decision :=
  ⟨e.key, v.key, v.config, v.isControl, assignment, isNew⟩

def Decision.concludedId : String := "concluded"

structure Visit where
  workspace : String
  now : Moment
  subject : Subject
  attributes : Option Json.Members

abbrev Visit.Answer := Except Fault (Option Decision)

inductive Turn where
  | looking (key : String)
  | inserting (experiment : Experiment) (variant : Variant)
  | refetching (experiment : Experiment) (violation : Violation)
  | exposing (experiment : Experiment) (row : Assignment)
  | settled (answer : Visit.Answer)

namespace Experiment

-- Rules that are no object are looked at only if there is something in them and something to hold against them.
def admits (e : Experiment) (attributes : Option Json.Members) : Except Fault Bool :=
  match e.strays.targeting with
  | none => .ok (Targeting.admits (some e.targeting) attributes)
  | some stray =>
    if stray.isNothing then .ok true
    else if attributes.isNone then .ok false
    else .error .noRules

def letsIn (e : Experiment) (subject : String) : Except Fault Bool :=
  match e.strays.traffic with
  | some (.string _) => .error .noShare
  | _ => .ok (Bucket.inTraffic e.key e.traffic subject)

end Experiment

namespace Visit

def closed (s : Store) (e : Experiment) : Option Decision :=
  match e.status, e.winner.filter (· ≠ "") with
  | .concluded, some winner =>
    ((s.view e).variant? winner).map fun v => Decision.of e v Decision.concludedId false
  | _, _ => none

def enter (visit : Visit) (s : Store) (e : Experiment) : Turn :=
  if e.status ≠ .running then .settled (.ok (closed s e))
  else
    match e.admits visit.attributes, visit.subject.bucketId with
    | .error fault, _ => .settled (.error fault)
    | .ok false, _ => .settled (.ok none)
    | .ok true, none => .settled (.error (.noSubject .assignment))
    | .ok true, some id =>
      match e.letsIn id with
      | .error fault => .settled (.error fault)
      | .ok false => .settled (.ok none)
      | .ok true =>
        match s.find? e.id visit.subject with
        | some row => .exposing e row
        | none =>
          match Bucket.select (·.weight) (s.variantsOf e.id) e.key id with
          | .ok v => .inserting e v
          | .error fault => .settled (.error fault)

-- The variant of a row is looked up after the exposure has been counted.
def shown (s : Store) (e : Experiment) (row : Assignment) : Answer :=
  match s.variant? row.variant with
  | some v => .ok (some (Decision.of e v row.id false))
  | none => .error .noSuchRow

def look (visit : Visit) (key : String) (s : Store) : Turn :=
  match s.experimentByKey? visit.workspace key with
  | some e => visit.enter s e
  | none => .settled (.ok none)

-- An insert that violates a constraint means that another request for the subject came first. The answer has the
-- variant as it was looked up; that a session reads it again after its commit is left out.
def insert (visit : Visit) (e : Experiment) (v : Variant) (s : Store) : Turn × Store :=
  match s.addDrawn visit.now visit.workspace e.id v.id visit.subject with
  | (.ok row, s') => (.settled (.ok (some (Decision.of e v row.id true))), s')
  | (.error (.violates violation), s') => (.refetching e violation, s')
  | (.error fault, s') => (.settled (.error fault), s')

def refetch (visit : Visit) (e : Experiment) (violation : Violation) (s : Store) : Turn × Store :=
  match s.find? e.id visit.subject with
  | some row => (.exposing e row, s)
  | none => (.settled (.error (.violates violation)), s)

def expose (visit : Visit) (e : Experiment) (row : Assignment) (s : Store) : Turn × Store :=
  match s.recordExposure visit.now row.id with
  | .ok s' => (.settled (shown s' e row), s')
  | .error fault => (.settled (.error fault), s)

def advance (visit : Visit) : Turn → Store → Turn × Store
  | .looking key, s => (visit.look key s, s)
  | .inserting e v, s => visit.insert e v s
  | .refetching e violation, s => visit.refetch e violation s
  | .exposing e row, s => visit.expose e row s
  | .settled answer, s => (.settled answer, s)

end Visit

def Turn.rank : Turn → Nat
  | .looking _ => 4
  | .inserting _ _ => 3
  | .refetching _ _ => 2
  | .exposing _ _ => 1
  | .settled _ => 0

def Turn.answer? : Turn → Option Visit.Answer
  | .settled answer => some answer
  | _ => none

namespace Visit

theorem enter_rank_lt (visit : Visit) (s : Store) (e : Experiment) : (visit.enter s e).rank < 4 := by
  unfold enter
  repeat' split
  all_goals simp [Turn.rank]

theorem look_rank_lt (visit : Visit) (key : String) (s : Store) : (visit.look key s).rank < 4 := by
  unfold look
  split
  · exact enter_rank_lt _ _ _
  · simp [Turn.rank]

theorem advance_rank_lt {visit : Visit} {turn : Turn} {s : Store} (h : ∀ answer, turn ≠ .settled answer) :
    (visit.advance turn s).1.rank < turn.rank := by
  cases turn with
  | looking key => exact look_rank_lt visit key s
  | inserting e v =>
    show (visit.insert e v s).1.rank < 3
    unfold insert
    split <;> simp [Turn.rank]
  | refetching e violation =>
    show (visit.refetch e violation s).1.rank < 2
    unfold refetch
    split <;> simp [Turn.rank]
  | exposing e row =>
    show (visit.expose e row s).1.rank < 1
    unfold expose
    split <;> simp [Turn.rank]
  | settled answer => exact absurd rfl (h answer)

def settle (visit : Visit) (turn : Turn) (s : Store) : Outcome (Option Decision) :=
  match _open : turn.answer? with
  | some answer => (answer, s)
  | none =>
    let next := visit.advance turn s
    visit.settle next.1 next.2
termination_by turn.rank
decreasing_by
  exact advance_rank_lt fun answer settled => by simp [settled, Turn.answer?] at _open

end Visit

namespace Decision

def assign (visit : Visit) (key : String) (s : Store) : Outcome (Option Decision) :=
  visit.settle (.looking key) s

-- The other requests come between the look and the insert, so without an insert they are not done.
def assignAmid (visit : Visit) (key : String) (meanwhile : Store → Outcome Unit) (s : Store) :
    Outcome (Option Decision) :=
  match visit.look key s with
  | .inserting e v =>
    match meanwhile s with
    | (.ok (), s') => visit.settle (.inserting e v) s'
    | (.error fault, s') => (.error fault, s')
  | turn => visit.settle turn s

-- One experiment after the other; the first fault ends it, and what was decided before stays stored.
def assignEach (visit : Visit) : List Experiment → Store → Outcome (List Decision)
  | [], s => (.ok [], s)
  | e :: rest, s =>
    match visit.settle (visit.enter s e) s with
    | (.error fault, s') => (.error fault, s')
    | (.ok decision, s') =>
      match assignEach visit rest s' with
      | (.error fault, s'') => (.error fault, s'')
      | (.ok decisions, s'') => (.ok (decision.toList ++ decisions), s'')

def assignAll (visit : Visit) (s : Store) : Outcome (List Decision) :=
  assignEach visit (s.list visit.workspace ⟨some .running, none, false⟩) s

def pin (s : Store) (workspace : String) (now : Moment) (id : String) (request : PinRequest) : Outcome Decision :=
  match Catalogue.get s workspace id with
  | .error fault => (.error fault, s)
  | .ok v =>
    match v.variant? request.variant with
    | none => (.error (.unknownVariant request.variant), s)
    | some variant =>
      if !request.subject.hasIdentifier then (.error (.noSubject .override), s)
      else
        (s.replaceSubject now workspace id variant.id request.subject).map fun row =>
          Decision.of v.experiment variant row.id true

end Decision
end Cohort
