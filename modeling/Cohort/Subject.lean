import Cohort.Json.Basic

namespace Cohort

inductive IdentifierKind where
  | customer
  | session
  | user
deriving DecidableEq, Repr

def IdentifierKind.name : IdentifierKind → String
  | .customer => "customer"
  | .session => "session"
  | .user => "user"

def IdentifierKind.field (kind : IdentifierKind) : String := kind.name ++ "_id"

structure Subject where
  customer : Option String
  session : Option String
  user : Option String
deriving DecidableEq, Repr, Inhabited

namespace Subject

def given (s : Subject) : IdentifierKind → Option String
  | .customer => s.customer
  | .session => s.session
  | .user => s.user

-- An empty identifier counts as absent.
def identifier (s : Subject) (kind : IdentifierKind) : Option String :=
  (s.given kind).filter (· ≠ "")

def named (s : Subject) (kind : IdentifierKind) : Option (IdentifierKind × String) :=
  (s.identifier kind).map (kind, ·)

def identifiers (s : Subject) : List (IdentifierKind × String) :=
  [.customer, .session, .user].filterMap s.named

def hasIdentifier (s : Subject) : Bool := !s.identifiers.isEmpty

def bucketId (s : Subject) : Option String := s.identifiers.head?.map (·.2)

def keyOf (kind : IdentifierKind) (value : String) : String := kind.name ++ ":" ++ value

def key (s : Subject) : Option String := s.identifiers.head?.map fun i => keyOf i.1 i.2

def Shares (s t : Subject) : Prop := ∃ i ∈ s.identifiers, i ∈ t.identifiers

instance (s t : Subject) : Decidable (s.Shares t) := inferInstanceAs (Decidable (∃ i ∈ s.identifiers, _))

theorem Shares.symm {s t : Subject} (h : s.Shares t) : t.Shares s := by
  obtain ⟨i, left, right⟩ := h
  exact ⟨i, right, left⟩

theorem mem_identifiers {s : Subject} {kind : IdentifierKind} {value : String} :
    (kind, value) ∈ s.identifiers ↔ s.given kind = some value ∧ value ≠ "" := by
  cases kind <;> simp [identifiers, named, identifier, given]

end Subject
end Cohort
