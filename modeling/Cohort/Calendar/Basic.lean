import Cohort.Text.Letters

-- Times without a zone, counted in microseconds from the first day of year 1.
namespace Cohort

structure Moment where
  micros : Nat
deriving DecidableEq, Repr, Inhabited

instance : LE Moment := ⟨fun a b => a.micros ≤ b.micros⟩
instance : LT Moment := ⟨fun a b => a.micros < b.micros⟩
instance (a b : Moment) : Decidable (a ≤ b) := inferInstanceAs (Decidable (a.micros ≤ b.micros))
instance (a b : Moment) : Decidable (a < b) := inferInstanceAs (Decidable (a.micros < b.micros))

namespace Moment

theorem refl (a : Moment) : a ≤ a := Nat.le_refl a.micros

theorem trans {a b c : Moment} (first : a ≤ b) (second : b ≤ c) : a ≤ c := Nat.le_trans first second

theorem lt_exact {a b : Moment} : a < b ↔ a.micros < b.micros := .rfl

end Moment

-- A wall time as a caller gave it, with the zone's distance from UTC in minutes where one was named.
structure Dated where
  wall : Moment
  offset : Option Int
deriving DecidableEq, Repr, Inhabited

def Dated.unzoned (m : Moment) : Dated := ⟨m, none⟩

namespace Calendar
open Text

def isLeap (year : Nat) : Bool := year % 4 = 0 && (year % 100 ≠ 0 || year % 400 = 0)

def monthLengths (year : Nat) : List Nat :=
  [31, if isLeap year then 29 else 28, 31, 30, 31, 30, 31, 31, 30, 31, 30, 31]

def daysBefore (year : Nat) : Nat :=
  let y := year - 1
  365 * y + y / 4 - y / 100 + y / 400

structure Date where
  year : Nat
  month : Nat
  day : Nat
deriving DecidableEq, Repr

def Date.real (d : Date) : Bool :=
  match (monthLengths d.year)[d.month - 1]? with
  | some length => 1 ≤ d.month && 1 ≤ d.day && d.day ≤ length
  | none => false

def Date.days (d : Date) : Nat :=
  daysBefore d.year + ((monthLengths d.year).take (d.month - 1)).foldr (· + ·) 0 + (d.day - 1)

def inMonths (n : Nat) : Nat → List Nat → Nat × Nat
  | month, [] => (month, n + 1)
  | month, length :: rest => if n < length then (month, n + 1) else inMonths (n - length) (month + 1) rest

-- The last day of a cycle of 400, 100, 4 or 1 years stays in its last year.
def Date.ofDays (n : Nat) : Date :=
  let cycles := n / 146097
  let r := n % 146097
  let centuries := min (r / 36524) 3
  let r := r - 36524 * centuries
  let fours := r / 1461
  let r := r % 1461
  let ones := min (r / 365) 3
  let r := r - 365 * ones
  let year := 400 * cycles + 100 * centuries + 4 * fours + ones + 1
  let (month, day) := inMonths r 1 (monthLengths year)
  ⟨year, month, day⟩

def microsPerDay : Nat := 86400000000

structure Clock where
  hour : Nat
  minute : Nat
  second : Nat
  micro : Nat
deriving DecidableEq, Repr

def Clock.micros (c : Clock) : Nat := ((c.hour * 60 + c.minute) * 60 + c.second) * 1000000 + c.micro

def Clock.ofMicros (n : Nat) : Clock :=
  ⟨n / 3600000000, n / 60000000 % 60, n / 1000000 % 60, n % 1000000⟩

def Clock.real (c : Clock) : Bool := c.hour < 24 && c.minute < 60 && c.second < 60

end Calendar

open Calendar

def Moment.of (d : Date) (c : Clock) : Moment := ⟨d.days * microsPerDay + c.micros⟩
def Moment.date (m : Moment) : Date := Date.ofDays (m.micros / microsPerDay)
def Moment.clock (m : Moment) : Clock := Clock.ofMicros (m.micros % microsPerDay)

def Moment.afterSeconds (m : Moment) (n : Nat) : Moment := ⟨m.micros + n * 1000000⟩

def Moment.limit : Nat := 3652059 * microsPerDay

def Moment.text (m : Moment) : String :=
  let d := m.date
  let c := m.clock
  Text.padded 4 d.year ++ "-" ++ Text.padded 2 d.month ++ "-" ++ Text.padded 2 d.day ++ "T" ++
    Text.padded 2 c.hour ++ ":" ++ Text.padded 2 c.minute ++ ":" ++ Text.padded 2 c.second ++
    (if c.micro = 0 then "" else "." ++ Text.padded 6 c.micro)

def Dated.text (t : Dated) : String :=
  t.wall.text ++
    match t.offset with
    | none => ""
    | some 0 => "Z"
    | some n =>
      (if n < 0 then "-" else "+") ++ Text.padded 2 (n.natAbs / 60) ++ ":" ++ Text.padded 2 (n.natAbs % 60)

end Cohort
