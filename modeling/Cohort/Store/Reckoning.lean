import Cohort.Decimal.Shortest
import Cohort.Decimal.Wide
import Cohort.Text.Letters

-- How the store takes real numbers apart and puts them together. It reckons with 64 binary digits and rounds at
-- every step, so the last digit can miss the nearest one.
namespace Cohort.Store
open Decimal Text

namespace Reckoning

def raise (x step : Wide) (tens : Nat) : Nat → Wide × Int → Wide × Int
  | 0, reached => reached
  | fuel + 1, (scale, count) =>
    if x.below (step.mul scale) then (scale, count) else raise x step tens fuel (scale.mul step, count + tens)

def lift (bound step : Wide) (tens : Nat) : Nat → Wide × Int → Wide × Int
  | 0, reached => reached
  | fuel + 1, (x, count) =>
    if x.below bound then lift bound step tens fuel (x.mul step, count - tens) else (x, count)

-- A positive number as one from 1 up to below 10 and a count of tens. No double needs more rounds.
def normal (x : Wide) : Wide × Int :=
  let start : Wide × Int := (.ofNat 1, 0)
  let (scale, count) :=
    raise x .ten 1 10 (raise x (.ofFloat 1e10) 10 10 (raise x (.ofFloat 1e100) 100 4 start))
  lift (.ofNat 1) .ten 1 10 (lift (.ofFloat 1e-8) (.ofFloat 1e8) 8 50 (x.div scale, count))

def leading : Nat → Nat → Wide → Nat
  | 0, n, _ => n
  | count + 1, n, x => leading count (10 * n + x.floor) (x.rest.mul .ten)

-- Half of the fifteenth digit is added before the digits are taken.
def half : Wide := .ofFloat (5e-5 * 1e-10)

def fifteen (s : Span) : Digits :=
  let (x, count) := normal ⟨s.significand, s.scale⟩
  let x := x.add half
  let (x, count) := if x.below .ten then (x, count) else (x.mul (.ofFloat 0.1), count + 1)
  stripZeros 15 ⟨leading 15 0 x, count - 14⟩

def fullest : Nat := (Nat.pow 2 63 - 1 - 9) / 10

-- Digits in front of the point that are not taken in count as tens, and those behind it that are take one away.
def takeWhole : Nat × Int → List Char → Nat × Int
  | taken, [] => taken
  | (n, tens), c :: rest =>
    takeWhole (if n < fullest then (10 * n + digitValue c, tens) else (n, tens + 1)) rest

def takeFraction : Nat × Int → List Char → Nat × Int
  | taken, [] => taken
  | (n, tens), c :: rest =>
    takeFraction (if n < fullest then (10 * n + digitValue c, tens - 1) else (n, tens)) rest

def exponentOf (digits : List Char) : Nat :=
  digits.foldl (fun n c => if n < 10000 then 10 * n + digitValue c else 10000) 0

def settle : Nat → Nat → Int → Nat × Int
  | 0, n, tens => (n, tens)
  | fuel + 1, n, tens =>
    if 0 < tens ∧ n < (Nat.pow 2 63 - 1) / 10 then settle fuel (10 * n) (tens - 1)
    else if tens < 0 ∧ n % 10 = 0 then settle fuel (n / 10) (tens + 1)
    else (n, tens)

def power : Nat → Nat → Wide → Wide → Wide
  | 0, _, _, product => product
  | fuel + 1, n, square, product =>
    let product := if n % 2 = 1 then product.mul square else product
    if n / 2 = 0 then product else power fuel (n / 2) (square.mul square) product

def tenTo (n : Nat) : Wide := power 9 n .ten (.ofNat 1)

-- `n · 10^tens`. Past the 307th power the last 308 tens are reckoned with as a double.
def scaled (n : Nat) (tens : Int) : Float :=
  let moved (count : Nat) : Wide :=
    if tens < 0 then (Wide.ofNat n).div (tenTo count) else (Wide.ofNat n).mul (tenTo count)
  let count := tens.natAbs
  if n = 0 then 0.0
  else if count = 0 then (Wide.ofNat n).toFloat
  else if count ≤ 307 then (moved count).toFloat
  else if count < 342 then
    let x := (moved (count - 308)).toFloat
    if tens < 0 then x / 1e308 else x * 1e308
  else if tens < 0 then 0.0 else 1.0 / 0.0

def ofDigits (front behind : List Char) (negative : Bool) (exponent : List Char) : Float :=
  let (n, tens) := takeFraction (takeWhole (0, 0) front) behind
  let e : Int := exponentOf exponent
  let (n, tens) := settle 20 n ((if negative then -e else e) + tens)
  scaled n tens

end Reckoning
end Cohort.Store
