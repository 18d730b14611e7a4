import Cohort.Decimal.Exact

-- Reckoning with 64 binary digits. Each result is rounded to the nearest such number, and of two as near to the even one.
namespace Cohort.Decimal

def halvedEven (n count : Nat) : Nat :=
  let unit := Nat.pow 2 count
  let q := n / unit
  match compare (2 * (n % unit)) unit with
  | .lt => q
  | .eq => q + q % 2
  | .gt => q + 1

-- `bits · 2^scale`
structure Wide where
  bits : Nat
  scale : Int
deriving Repr

namespace Wide

def ofNat (n : Nat) : Wide := ⟨n, 0⟩

def ofFloat (x : Float) : Wide := ⟨(parts x).significand, (parts x).scale⟩

def ten : Wide := ofNat 10

def fit (n : Nat) (scale : Int) : Wide :=
  let excess := n.log2 + 1 - 64
  ⟨halvedEven n excess, scale + excess⟩

protected def mul (x y : Wide) : Wide := fit (x.bits * y.bits) (x.scale + y.scale)

def bitsAt (x : Wide) (scale : Int) : Nat := x.bits * Nat.pow 2 (x.scale - scale).toNat

protected def add (x y : Wide) : Wide :=
  let scale := min x.scale y.scale
  fit (x.bitsAt scale + y.bitsAt scale) scale

-- Two digits more than are kept are divided out, and a last one says whether anything is left.
protected def div (x y : Wide) : Wide :=
  let room := 66 + y.bits.log2 - x.bits.log2
  let n := x.bits * Nat.pow 2 room
  fit (2 * (n / y.bits) + (if n % y.bits = 0 then 0 else 1)) (x.scale - y.scale - room - 1)

def below (x y : Wide) : Bool :=
  let scale := min x.scale y.scale
  x.bitsAt scale < y.bitsAt scale

def floor (x : Wide) : Nat := x.bits * Nat.pow 2 x.scale.toNat / Nat.pow 2 (-x.scale).toNat

def rest (x : Wide) : Wide := if 0 ≤ x.scale then ⟨0, 0⟩ else ⟨x.bits % Nat.pow 2 (-x.scale).toNat, x.scale⟩

-- The doubles up to the power of two above `x` lie `2^grid` apart.
def grid (x : Wide) : Int := max (x.bits.log2 + x.scale - 52) (-1074)

def steps (x : Wide) : Nat :=
  if x.scale < x.grid then halvedEven x.bits (x.grid - x.scale).toNat else x.bitsAt x.grid

def pattern (x : Wide) : Nat := (x.grid + 1074).toNat * Nat.pow 2 52 + x.steps

def toFloat (x : Wide) : Float := Float.ofBits (UInt64.ofNat (min x.pattern (2047 * Nat.pow 2 52)))

end Wide
end Cohort.Decimal
