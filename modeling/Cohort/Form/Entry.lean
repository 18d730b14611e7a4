import Cohort.Calendar.Reading
import Cohort.Json.Basic
import Cohort.Limits

namespace Cohort

inductive Objection where
  | missing
  | notForm
  | notFields
  | malformed
  | notText
  | halved
  | tooShort
  | notMap
  | notListed
  | notFlag
  | unreadableFlag
  | notWhole
  | unreadableWhole
  | fractional
  | beyondWord
  | notFinite
  | belowLeast
  | aboveMost
  | notReal
  | unreadableReal
  | notTime
  | unreadableTime
  | outsideCalendar
deriving DecidableEq, Repr

def Objection.code : Objection → String
  | .missing => "missing"
  | .notForm => "model_type"
  | .notFields => "model_attributes_type"
  | .malformed => "json_invalid"
  | .notText => "string_type"
  | .halved => "string_unicode"
  | .tooShort => "string_too_short"
  | .notMap => "dict_type"
  | .notListed => "enum"
  | .notFlag => "bool_type"
  | .unreadableFlag => "bool_parsing"
  | .notWhole => "int_type"
  | .unreadableWhole => "int_parsing"
  | .fractional => "int_from_float"
  | .beyondWord => "int_parsing_size"
  | .notFinite => "finite_number"
  | .belowLeast => "greater_than_equal"
  | .aboveMost => "less_than_equal"
  | .notReal => "float_type"
  | .unreadableReal => "float_parsing"
  | .notTime => "datetime_type"
  | .unreadableTime => "datetime_from_date_parsing"
  | .outsideCalendar => "datetime_parsing"

namespace Entry
open Text Decimal

abbrev Reader (α : Type) := Json → Except Objection α

-- A text whose characters are not looked at may have halves of surrogate pairs in it.
def text : Reader String
  | .string s => .ok s.shown
  | _ => .error .notText

def key : Reader Key
  | .string (.whole s) => if filled : s ≠ "" then .ok ⟨s, filled⟩ else .error .tooShort
  | .string (.halved _) => .error .halved
  | _ => .error .notText

def map : Reader Json.Members
  | .object members => .ok members
  | _ => .error .notMap

def listed (ofName? : String → Option α) : Reader α
  | .string (.whole s) =>
    match ofName? s with
    | some a => .ok a
    | none => .error .notListed
  | .string (.halved _) => .error .halved
  | _ => .error .notListed

def flagWord (s : String) : Option Bool :=
  if ["1", "on", "t", "true", "y", "yes"].any (sameLetters s) then some true
  else if ["0", "off", "f", "false", "n", "no"].any (sameLetters s) then some false
  else none

def wordLimit : Int := 9223372036854775808

def wholeFlag (n : Int) (within : Bool) : Except Objection Bool :=
  if n = 1 then .ok true
  else if n = 0 then .ok false
  else .error (if within then .unreadableFlag else .notFlag)

-- Of the numbers only one and zero are flags. A number that no word holds is not looked at as one, and floats
-- stop short of the least word.
def flag : Reader Bool
  | .bool b => .ok b
  | .int n => wholeFlag n (-wordLimit ≤ n && n < wordLimit)
  | .float x =>
    match whole? x with
    | some n => wholeFlag n (-wordLimit < n && n < wordLimit)
    | none => .error .notFlag
  | .string (.whole s) =>
    match flagWord s with
    | some b => .ok b
    | none => .error .unreadableFlag
  | .string (.halved _) => .error .halved
  | _ => .error .notFlag

def whole : Reader Int
  | .int n => .ok n
  | .bool b => .ok (if b then 1 else 0)
  | .float x =>
    if !isFinite x then .error .notFinite
    else
      match whole? x with
      | none => .error .fractional
      | some n => if -wordLimit < n ∧ n < wordLimit then .ok n else .error .beyondWord
  | .string (.whole s) =>
    match Numeral.whole s with
    | .ok n => .ok n
    | .error .tooLong => .error .beyondWord
    | .error .unreadable => .error .unreadableWhole
  | .string (.halved _) => .error .halved
  | _ => .error .notWhole

def weight : Reader Weight := fun v => do
  let n ← whole v
  if least : 1 ≤ n then return ⟨n, least⟩ else .error .belowLeast

def share : Reader Share := fun v => do
  let n ← whole v
  if within : 0 ≤ n ∧ n ≤ 100 then return ⟨n, within⟩
  else .error (if n < 0 then .belowLeast else .aboveMost)

-- An integer past the largest double has no float.
def real : Reader Float
  | .float x => .ok x
  | .int n =>
    let x := ofInt n
    if isFinite x then .ok x else .error .notReal
  | .bool b => .ok (if b then 1.0 else 0.0)
  | .string (.whole s) =>
    match Numeral.real s with
    | some x => .ok x
    | none => .error .unreadableReal
  | .string (.halved _) => .error .halved
  | _ => .error .notReal

def unixTime (t : Option Dated) : Except Objection Dated :=
  match t with
  | some t => .ok t
  | none => .error .outsideCalendar

def time : Reader Dated
  | .string (.whole s) =>
    match Calendar.read s with
    | .ok t => .ok t
    | .error .outside => .error .outsideCalendar
    | .error .unreadable => .error .unreadableTime
  | .string (.halved _) => .error .halved
  | .int n => unixTime (Calendar.ofUnix (.whole n))
  | .float x => unixTime (Calendar.ofUnix (.real x))
  | _ => .error .notTime

def nullable (reader : Reader α) : Reader (Option α)
  | .null => .ok none
  | v => (reader v).map some

end Entry
end Cohort
