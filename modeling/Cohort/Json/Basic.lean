import Cohort.Text.Raw

namespace Cohort

-- Integers and floats stay apart, and an object keeps the order in which its keys came.
inductive Json where
  | null
  | bool (b : Bool)
  | int (n : Int)
  | float (x : Float)
  | string (s : RawText)
  | array (items : List Json)
  | object (members : List (RawText × Json))
deriving Inhabited

namespace Json

abbrev Members := List (RawText × Json)

def lookup [DecidableEq κ] (key : κ) : List (κ × α) → Option α
  | [] => none
  | (k, v) :: rest => if k = key then some v else lookup key rest

-- A repeated key keeps its first place and takes its last value.
def put [DecidableEq κ] (key : κ) (value : α) : List (κ × α) → List (κ × α)
  | [] => [(key, value)]
  | (k, v) :: rest => if k = key then (k, value) :: rest else (k, v) :: put key value rest

@[simp] theorem lookup_nil [DecidableEq κ] (key : κ) : lookup key ([] : List (κ × α)) = none := rfl

theorem lookup_cons [DecidableEq κ] (key k : κ) (v : α) (rest : List (κ × α)) :
    lookup key ((k, v) :: rest) = if k = key then some v else lookup key rest := rfl

theorem lookup_mem [DecidableEq κ] {key : κ} {a : α} {members : List (κ × α)}
    (found : lookup key members = some a) : (key, a) ∈ members := by
  induction members with
  | nil => cases found
  | cons m rest ih =>
    obtain ⟨k, v⟩ := m
    rw [lookup_cons] at found
    split at found
    · rename_i hit
      cases found
      exact hit ▸ List.mem_cons_self
    · exact List.mem_cons_of_mem _ (ih found)

def isNull : Json → Bool
  | .null => true
  | _ => false

def isNothing : Json → Bool
  | .null => true
  | .bool b => !b
  | .int n => n = 0
  | .float x => x == 0.0
  | .string s => s = .whole ""
  | .array items => items.isEmpty
  | .object members => members.isEmpty

def members? : Json → Option Members
  | .object members => some members
  | _ => none

def string? : Json → Option String
  | .string (.whole s) => some s
  | _ => none

def array? : Json → Option (List Json)
  | .array items => some items
  | _ => none

def ofOption (f : α → Json) : Option α → Json
  | none => .null
  | some a => f a

def ofString (s : String) : Json := .string s

def ofText : Option String → Json := ofOption ofString

def ofMembers : Option Members → Json := ofOption .object

def member? (key : String) (members : Members) : Option Json := lookup (.whole key) members

def field (key : String) (members : Members) : Json := (member? key members).getD .null

end Json
end Cohort
