import Cohort.Fault
import Cohort.Form.Requests
import Cohort.Tree

namespace Cohort

structure FormReading where
  value : Json.Members
  sent : List String

def asSent (members : Json.Members) (name : RawText) (v : Json) : Json :=
  match Json.lookup name members with
  | some (.string (.halved points)) => .string (.halved points)
  | _ => v

def shownField (members : Json.Members) (entry : RawText × Json) : Except Fault (RawText × Json) :=
  match entry.2 with
  | .object tree => (Tree.shown tree).map (entry.1, ·)
  | v => .ok (entry.1, asSent members entry.1 v)

def Form.show (form : Form α) (fields : α → Json.Members) (data : Json) : Except Fault FormReading :=
  match form.check data with
  | .error complaints => .error (.refused complaints)
  | .ok a => do
    let members := data.members?.getD []
    return ⟨← (fields a).mapM (shownField members), form.present members⟩

def Subject.shownIdentifiers (s : Subject) (data : Json) : List (IdentifierKind × RawText) :=
  s.identifiers.map fun i =>
    match asSent (data.members?.getD []) i.1.field (.string i.2) with
    | .string t => (i.1, t)
    | _ => (i.1, i.2)

end Cohort
