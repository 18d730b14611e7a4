import Cohort.Fault
import Cohort.Store.Reckoning
import Cohort.Store.Write
import Cohort.Text.Digits

-- What columns make of values that come as they are, past the forms.
namespace Cohort.Store
open Decimal Numeral

def asText : Json → Except Fault Json
  | .null => .ok .null
  | .bool b => .ok (.string (if b then "1" else "0"))
  | .int n => if inWord n then .ok (.string (Text.decimalInt n)) else .error .beyondWord
  | .float x =>
    if isNaN x then .ok .null
    else if x == 0.0 then .ok (.string "0.0")
    else .ok (.string (Notation.writeAs Reckoning.fifteen stored x))
  | .string (.whole s) => .ok (.string s)
  | .string (.halved _) => .error .halfCharacter
  | _ => .error .notPlain

def ofReal (x : Float) : Json :=
  match whole? x with
  | some n => if -Entry.wordLimit < n ∧ n < Entry.wordLimit then .int n else .float x
  | none => .float x

def isGap (c : Char) : Bool := c = ' ' || ('\t' ≤ c && c ≤ '\r')

def exponentPart (s : List Char) : Option (Bool × List Char) :=
  match s with
  | [] => some (false, [])
  | e :: rest =>
    let (negative, digits) := signed rest
    if (e = 'e' || e = 'E') && digits ≠ [] && digits.all Text.isDigit then some (negative, digits) else none

-- A whole number that a word holds is taken as it is.
def numberOfText (s : String) : Option Json := do
  let (negative, s) := signed (Text.trimOf isGap s.toList)
  let (front, rest) := s.span Text.isDigit
  let (behind, rest) := match rest with
    | '.' :: more => more.span Text.isDigit
    | _ => ([], rest)
  let (below, power) ← exponentPart rest
  if front = [] ∧ behind = [] then none
  else if s = front ∧ inWord (signedValue negative front) then return .int (signedValue negative front)
  else
    let x := Reckoning.ofDigits front behind below power
    return ofReal (if negative then -x else x)

def asWhole : Json → Except Fault Json
  | .null => .ok .null
  | .bool b => .ok (.int (if b then 1 else 0))
  | .int n => if inWord n then .ok (.int n) else .error .beyondWord
  | .float x => .ok (if isNaN x then .null else ofReal x)
  | .string (.whole s) => .ok ((numberOfText s).getD (.string s))
  | .string (.halved _) => .error .halfCharacter
  | _ => .error .notPlain

def betweenDigits : Bool → List Char → Bool
  | _, [] => true
  | afterDigit, c :: rest =>
    if c = '_' then afterDigit && (rest.head?.map Text.isDigit).getD false && betweenDigits false rest
    else betweenDigits (Text.isDigit c) rest

def realOfText (s : String) : Option Float :=
  let s := (Text.trim s.toList).map Text.plainDigit
  if betweenDigits false s then plainReal (s.filter (· ≠ '_')) else none

def asReal : Json → Except Fault (Option Float)
  | .null => .ok none
  | .bool b => .ok (some (if b then 1.0 else 0.0))
  | .int n => if isFinite (ofInt n) then .ok (some (ofInt n)) else .error .wrongKind
  | .float x => .ok (some x)
  | .string (.whole s) =>
    match realOfText s with
    | some x => .ok (some x)
    | none => .error .wrongKind
  | _ => .error .wrongKind

def asWord : Json → Except Fault Json
  | .null => .ok .null
  | .string s => .ok (.string s)
  | _ => .error .wrongKind

def asTime : Json → Except Fault Json
  | .null => .ok .null
  | _ => .error .wrongKind

end Cohort.Store
