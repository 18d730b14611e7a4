import Cohort.Fault
import Cohort.Json.Writer
import Cohort.Limits

namespace Cohort.Tree

mutual

-- What keeps a value out of an answer in which this many more lists and objects may open: keys have to be whole.
def fault? (room : Nat) : Json → Option Fault
  | .array items => if room = 0 then some .tooDeep else itemsFault? (room - 1) items
  | .object members => if room = 0 then some .tooDeep else membersFault? (room - 1) members
  | _ => none

def itemsFault? (room : Nat) : List Json → Option Fault
  | [] => none
  | v :: rest => (fault? room v).or (itemsFault? room rest)

def membersFault? (room : Nat) : List (RawText × Json) → Option Fault
  | [] => none
  | (k, v) :: rest =>
    if k.isWhole then (fault? room v).or (membersFault? room rest) else some .halfCharacter

end

-- The outermost keys are made whole, and keys that become the same are one.
def keysMended (members : Json.Members) : Json.Members :=
  members.foldl (fun mended m => Json.put (.whole m.1.substituted) m.2 mended) []

def shown (members : Json.Members) : Except Fault Json :=
  match members.findSome? fun m => fault? (deepestAnswer - 1) m.2 with
  | some fault => .error fault
  | none => .ok (.object (keysMended members))

def shownFinitely (members : Json.Members) : Except Fault Json := shown (Json.membersFinitely members)

end Cohort.Tree
