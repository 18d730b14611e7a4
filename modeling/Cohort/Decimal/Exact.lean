namespace Cohort.Decimal

-- A finite worth is `odd · 2^twos` with `odd` odd, or zero with both parts zero, so equal worths are equal parts.
inductive Worth where
  | nan
  | infinite (negative : Bool)
  | finite (odd : Int) (twos : Int)
deriving DecidableEq, Repr

-- Halves an even number other than zero until it is odd and counts the halvings; the fuel is a bound on the number.
def oddPart : Nat → Nat → Nat × Nat
  | 0, n => (n, 0)
  | fuel + 1, n =>
    if n ≠ 0 ∧ n % 2 = 0 then
      let (odd, count) := oddPart fuel (n / 2)
      (odd, count + 1)
    else (n, 0)

def scaled (negative : Bool) (n : Nat) (twos : Int) : Worth :=
  if n = 0 then .finite 0 0
  else
    let (odd, count) := oddPart (n.log2 + 1) n
    .finite (if negative then -odd else odd) (twos + count)

def Worth.ofInt (n : Int) : Worth := scaled (n < 0) n.natAbs 0

structure Parts where
  negative : Bool
  exponent : Nat
  fraction : Nat
deriving DecidableEq, Repr

def parts (x : Float) : Parts :=
  let bits := x.toBits.toNat
  ⟨bits / Nat.pow 2 63 % 2 == 1, bits / Nat.pow 2 52 % Nat.pow 2 11, bits % Nat.pow 2 52⟩

def Parts.significand (p : Parts) : Nat := if p.exponent = 0 then p.fraction else Nat.pow 2 52 + p.fraction

def Parts.scale (p : Parts) : Int := if p.exponent = 0 then -1074 else (p.exponent : Int) - 1075

def Worth.ofFloat (x : Float) : Worth :=
  let p := parts x
  if p.exponent = 2047 then (if p.fraction = 0 then .infinite p.negative else .nan)
  else scaled p.negative p.significand p.scale

def whole? (x : Float) : Option Int :=
  match Worth.ofFloat x with
  | .finite odd twos => if 0 ≤ twos then some (odd * Nat.pow 2 twos.toNat) else none
  | _ => none

def isFinite (x : Float) : Bool := (parts x).exponent ≠ 2047

def isNaN (x : Float) : Bool := Worth.ofFloat x == .nan

end Cohort.Decimal
