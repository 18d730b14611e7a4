import Cohort.Decimal.Notation
import Cohort.Text.Blank

namespace Cohort.Numeral
open Text Decimal

def longest : Nat := 4300

inductive Misread where
  | tooLong
  | unreadable
deriving DecidableEq, Repr

def minus (s : List Char) : Bool × List Char :=
  match s with
  | '-' :: rest => (true, rest)
  | _ => (false, s)

def signed (s : List Char) : Bool × List Char :=
  match s with
  | '+' :: rest => (false, rest)
  | _ => minus s

def signedValue (negative : Bool) (digits : List Char) : Int :=
  let n : Int := digitsValue digits
  if negative then -n else n

def hasDouble : List Char → Bool
  | '_' :: '_' :: _ => true
  | _ :: rest => hasDouble rest
  | [] => false

def linesFit (s : List Char) : Bool := s.head? ≠ some '_' && s.getLast? ≠ some '_' && !hasDouble s

def ungrouped (s : List Char) : Option (List Char) :=
  if linesFit s then some (s.filter (· ≠ '_')) else none

-- A number that is too long as it stands is told by its length, whatever comes after its digits.
def overlong (s : List Char) : Bool :=
  let digits := (minus s).2.takeWhile isDigit
  digits.head? ≠ some '0' && longest < digits.length

-- Zeros in front are skipped together with the low lines among them. What comes next stands for itself,
-- but a point keeps the character before it, and so does the end of the text.
def pastZeros : Char → List Char → List Char
  | last, [] => [last]
  | last, c :: rest =>
    if c = '0' || c = '_' then pastZeros c rest
    else if c = '.' then last :: c :: rest
    else c :: rest

def withoutZeros (s : List Char) : Option (List Char) :=
  match s with
  | [] => none
  | c :: rest => if c = '0' then some (pastZeros c rest) else if isDigit c then some s else none

def withoutFraction (s : List Char) : List Char :=
  match s.span (· ≠ '.') with
  | (front, _ :: zeros) => if zeros ≠ [] ∧ zeros.all (· = '0') then front else s
  | _ => s

def plainWhole (s : List Char) : Option Int :=
  let (negative, digits) := minus s
  if digits ≠ [] ∧ digits.all isDigit ∧ (digits.head? ≠ some '0' ∨ digits = ['0']) ∧ digits.length ≤ longest then
    some (signedValue negative digits)
  else none

-- Signs stand in front of the zeros or right behind them, but not in both places.
def whole (text : String) : Except Misread Int :=
  let s := text.toList
  if overlong s then .error .tooLong
  else
    let (negative, rest) := signed (trim s)
    let found := do
      let digits ← withoutZeros rest
      let digits ← ungrouped (withoutFraction digits)
      plainWhole (if negative then '-' :: digits else digits)
    match found with
    | some n => .ok n
    | none => .error .unreadable

def exponent (s : List Char) : Option Int :=
  match s with
  | [] => some 0
  | e :: rest =>
    if e = 'e' || e = 'E' then
      let (negative, digits) := signed rest
      if digits ≠ [] ∧ digits.all isDigit then some (signedValue negative digits) else none
    else none

def plainReal (s : List Char) : Option Float := do
  let (negative, s) := signed s
  let word := String.ofList s
  if sameLetters word "nan" then return (0.0 / 0.0)
  else if sameLetters word "inf" || sameLetters word "infinity" then
    return (if negative then -(1.0 / 0.0) else 1.0 / 0.0)
  else
    let (front, rest) := s.span isDigit
    let (behind, rest) := match rest with
      | '.' :: more => more.span isDigit
      | _ => ([], rest)
    if front = [] ∧ behind = [] then none
    else
      let power ← exponent rest
      return nearest negative (digitsValue (front ++ behind)) (power - behind.length)

-- Blanks at the ends are passed over only in a number without low lines.
def real (text : String) : Option Float :=
  let s := text.toList
  match plainReal (trim s) with
  | some x => some x
  | none => if s.contains '_' then (ungrouped s).bind plainReal else none

end Cohort.Numeral
