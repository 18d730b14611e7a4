import Cohort.Calendar.Basic
import Cohort.Decimal.Numeral

namespace Cohort.Calendar
open Text Decimal

inductive Misread where
  | outside
  | unreadable
deriving DecidableEq, Repr

def fixed (count : Nat) (s : List Char) : Option (Nat × List Char) :=
  let ds := s.take count
  if ds.length = count ∧ ds.all isDigit then some (digitsValue ds, s.drop count) else none

def expect (c : Char) : List Char → Option (List Char)
  | d :: rest => if d = c then some rest else none
  | [] => none

def readDate (s : List Char) : Option (Date × List Char) := do
  let (year, s) ← fixed 4 s
  let s ← expect '-' s
  let (month, s) ← fixed 2 s
  let s ← expect '-' s
  let (day, s) ← fixed 2 s
  let date : Date := ⟨year, month, day⟩
  if date.real then return (date, s) else none

def readFraction (s : List Char) : Option (Nat × List Char) :=
  match s with
  | c :: rest =>
    if c = '.' || c = ',' then
      match rest.span isDigit with
      | ([], _) => none
      | (ds, rest') => some (digitsValue ((ds ++ List.replicate 6 '0').take 6), rest')
    else some (0, s)
  | [] => some (0, s)

def readClock (s : List Char) : Option (Clock × List Char) := do
  let (hour, s) ← fixed 2 s
  let s ← expect ':' s
  let (minute, s) ← fixed 2 s
  match s with
  | ':' :: rest =>
    let (second, rest) ← fixed 2 rest
    let (micro, rest) ← readFraction rest
    let clock : Clock := ⟨hour, minute, second, micro⟩
    if clock.real then return (clock, rest) else none
  | _ =>
    let clock : Clock := ⟨hour, minute, 0, 0⟩
    if clock.real then return (clock, s) else none

-- The outer option fails; the inner one is a time without a zone. The minus may be a hyphen or the sign itself.
def readZone (s : List Char) : Option (Option Int) :=
  let distance (negative : Bool) (s : List Char) : Option (Option Int) := do
    let (hours, s) ← fixed 2 s
    let s := match s with
      | ':' :: rest => rest
      | _ => s
    let (minutes, s) ← fixed 2 s
    if s = [] ∧ hours < 24 ∧ minutes < 60 then
      let n : Int := 60 * hours + minutes
      return some (if negative then -n else n)
    else none
  match s with
  | [] => some none
  | ['Z'] => some (some 0)
  | ['z'] => some (some 0)
  | '+' :: rest => distance false rest
  | '-' :: rest => distance true rest
  | '−' :: rest => distance true rest
  | _ => none

def isSeparator (c : Char) : Bool := c = 'T' || c = 't' || c = ' ' || c = '_'

def readDated (s : List Char) : Option (Date × Clock × Option Int) := do
  let (date, rest) ← readDate s
  match rest with
  | [] => return (date, ⟨0, 0, 0, 0⟩, none)
  | c :: rest =>
    if isSeparator c then
      let (clock, rest) ← readClock rest
      let zone ← readZone rest
      return (date, clock, zone)
    else none

-- Numbers up to this size are seconds, larger ones milliseconds.
def secondsLimit : Nat := 20000000000

def unixStart : Int := 62135596800000000

inductive Unix where
  | whole (n : Int)
  | real (x : Float)

-- `x` units of `unit` microseconds, to the nearest microsecond: the whole units below it and the fraction above
-- them are reckoned apart.
def unitMicros (x : Float) (unit : Nat) : Option Int := do
  let down ← whole? x.floor
  let fraction ← whole? ((x - x.floor) * Float.ofNat unit).round
  return down * unit + fraction

def Unix.micros : Unix → Option Int
  | .whole n => some (unixStart + n * (if n.natAbs ≤ secondsLimit then 1000000 else 1000))
  | .real x => (unitMicros x (if Float.ofNat secondsLimit < x.abs then 1000 else 1000000)).map (unixStart + ·)

def ofMicros (n : Int) : Option Dated :=
  if 0 ≤ n ∧ n.toNat < Moment.limit then some ⟨⟨n.toNat⟩, some 0⟩ else none

def ofUnix (t : Unix) : Option Dated := t.micros.bind ofMicros

def readUnix (s : List Char) : Option Unix :=
  let (negative, rest) := Numeral.signed s
  match rest.span isDigit with
  | (ds, []) => if ds = [] then none else some (.whole (Numeral.signedValue negative ds))
  | (_, '.' :: _) => (Numeral.plainReal s).map .real
  | _ => none

def inYearZero (n : Int) : Bool := -(366 * microsPerDay : Int) ≤ n && n < 0

-- A text that tells a day of year 0 is read, but the calendar has no such year.
def read (text : String) : Except Misread Dated :=
  let s := text.toList
  match readDated s with
  | some (date, clock, zone) => if date.year = 0 then .error .outside else .ok ⟨Moment.of date clock, zone⟩
  | none =>
    match (readUnix s).bind Unix.micros with
    | none => .error .unreadable
    | some n =>
      match ofMicros n with
      | some t => .ok t
      | none => .error (if inYearZero n then .outside else .unreadable)

end Cohort.Calendar
