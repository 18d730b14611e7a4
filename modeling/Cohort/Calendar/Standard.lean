import Cohort.Calendar.Reading

-- Times in the forms of the international standard, with marks between the parts or none.
namespace Cohort.Calendar.Standard
open Text

-- How much of the text is the day. After a week, digits that make an odd number with it are the day of the week
-- and the rest a time.
def dayLength (s : List Char) : Nat :=
  if s.length = 7 then 7
  else
    match s.drop 4 with
    | '-' :: 'W' :: rest =>
      match rest.drop 2 with
      | '-' :: _ :: c :: _ => if isDigit c then 8 else 10
      | '-' :: _ => 10
      | _ => 8
    | '-' :: _ => 10
    | 'W' :: rest =>
      let reach := 7 + ((rest.drop 2).takeWhile isDigit).length
      if reach < 9 then reach else if reach % 2 = 0 then 7 else 8
    | _ => 8

def weekStart (year : Nat) : Nat :=
  let fourth := daysBefore year + 3
  fourth - fourth % 7

-- The years that begin on a Thursday have a week more, and so have leap years that begin on a Wednesday.
def weeks (year : Nat) : Nat :=
  let first := daysBefore year % 7
  if first = 3 || (first = 2 && isLeap year) then 53 else 52

def mark (marked : Bool) (s : List Char) : Option (List Char) := if marked then expect '-' s else some s

def ofWeek (year week day : Nat) : Option Date :=
  if 1 ≤ week ∧ week ≤ weeks year ∧ 1 ≤ day ∧ day ≤ 7 then
    some (Date.ofDays (weekStart year + 7 * (week - 1) + (day - 1)))
  else none

def readDay (s : List Char) : Option Date := do
  let (year, s) ← fixed 4 s
  let marked := s.head? = some '-'
  let s ← mark marked s
  match s with
  | 'W' :: s =>
    let (week, s) ← fixed 2 s
    if s = [] then ofWeek year week 1
    else
      let (day, s) ← fixed 1 (← mark marked s)
      if s = [] then ofWeek year week day else none
  | s =>
    let (month, s) ← fixed 2 s
    let (day, s) ← fixed 2 (← mark marked s)
    let date : Date := ⟨year, month, day⟩
    if s = [] ∧ date.real then return date else none

-- The smaller parts may be missing, and a fraction is always of a second, whichever part it follows. What stands
-- between the parts, a colon or nothing, may stand before the fraction of a time told to the second too.
def readHours (s : List Char) : Option Clock := do
  let (hour, s) ← fixed 2 s
  let marked := s.head? = some ':'
  let fraction (s : List Char) : Bool := s.head? = some '.' || s.head? = some ','
  let following (s : List Char) : Option (Nat × List Char) :=
    if s = [] || fraction s then some (0, s) else (if marked then expect ':' s else some s).bind (fixed 2)
  let (minute, s) ← following s
  let (second, s) ← following s
  let (micro, s) ← if s = [] || fraction s then readFraction s
    else (if marked then expect ':' s else some s).bind fun s => readFraction ('.' :: s)
  if s = [] then return ⟨hour, minute, second, micro⟩ else none

def isZoneMark (c : Char) : Bool := c = '+' || c = '-' || c = 'Z'

def read (text : String) : Option Moment := do
  let s := text.toList
  let length := dayLength s
  let date ← readDay (s.take length)
  if date.year = 0 then none
  else
    match s.drop length with
    | [] => if s.length = length then return Moment.of date ⟨0, 0, 0, 0⟩ else none
    | _ :: rest =>
      let clock ← readHours (rest.takeWhile fun c => !isZoneMark c)
      if clock.real then return Moment.of date clock else none

end Cohort.Calendar.Standard
