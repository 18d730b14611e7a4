import Cohort.Form.Entry

namespace Cohort

structure Complaint where
  path : List String
  objection : Objection
  value : Json

structure Form (α : Type) where
  names : List String
  read : Json.Members → Except (List Complaint) α

namespace Form

protected def map (f : α → β) (form : Form α) : Form β :=
  ⟨form.names, fun members => (form.read members).map f⟩

protected def seq (f : Form (α → β)) (a : Unit → Form α) : Form β :=
  ⟨f.names ++ (a ()).names, fun members =>
    match f.read members, (a ()).read members with
    | .ok g, .ok x => .ok (g x)
    | .ok _, .error es => .error es
    | .error es, .ok _ => .error es
    | .error es, .error es' => .error (es ++ es')⟩

instance : Functor Form where
  map := Form.map

instance : Seq Form where
  seq := Form.seq

def reading (name : String) (reader : Entry.Reader α) (v : Json) : Except (List Complaint) α :=
  match reader v with
  | .ok a => .ok a
  | .error objection => .error [⟨[name], objection, v⟩]

-- What is missing is missed in the whole object.
def required (name : String) (reader : Entry.Reader α) : Form α :=
  ⟨[name], fun members =>
    match Json.member? name members with
    | some v => reading name reader v
    | none => .error [⟨[name], .missing, .object members⟩]⟩

def defaulting (name : String) (fallback : α) (reader : Entry.Reader α) : Form α :=
  ⟨[name], fun members =>
    match Json.member? name members with
    | some v => reading name reader v
    | none => .ok fallback⟩

def optional (name : String) (reader : Entry.Reader α) : Form (Option α) :=
  defaulting name none (Entry.nullable reader)

-- Null and absent are two: the outer option says whether the field was sent at all.
def sent (name : String) (reader : Entry.Reader α) : Form (Option (Option α)) :=
  ⟨[name], fun members =>
    match Json.member? name members with
    | some v => (reading name (Entry.nullable reader) v).map some
    | none => .ok none⟩

def check (form : Form α) (data : Json) : Except (List Complaint) α :=
  match data with
  | .object members => form.read members
  | v => .error [⟨[], .notForm, v⟩]

def complaintsOf : Except (List Complaint) α → List Complaint
  | .ok _ => []
  | .error complaints => complaints

def isHalved (name : String) (members : Json.Members) : Bool :=
  match Json.member? name members with
  | some (.string s) => !s.isWhole
  | _ => false

def present (form : Form α) (members : Json.Members) : List String :=
  (form.names.filter fun name => (Json.member? name members).isSome).mergeSort

end Form
end Cohort
