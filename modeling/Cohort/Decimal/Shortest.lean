import Cohort.Decimal.Exact

namespace Cohort.Decimal

-- `digits · 10^exponent`
structure Digits where
  digits : Nat
  exponent : Int
deriving DecidableEq, Repr

-- A finite positive double as quarters of the gap above it: `4 · significand` at scale `scale - 2`.
-- Below a power of two the gap is half as wide, the very smallest exponent apart.
structure Span where
  significand : Nat
  scale : Int
  narrow : Bool
deriving DecidableEq, Repr

def Span.ofParts (p : Parts) : Span :=
  ⟨p.significand, p.scale, p.fraction = 0 && 1 < p.exponent⟩

def compareScaled (a : Nat) (i : Int) (b : Nat) (j : Int) : Ordering :=
  compare (a * Nat.pow 10 i.toNat * Nat.pow 2 (-j).toNat) (b * Nat.pow 2 j.toNat * Nat.pow 10 (-i).toNat)

-- A real reads back if it lies within half a gap; the ends belong to the span of an even significand.
def Span.holds (s : Span) (d : Digits) : Bool :=
  let low := 4 * s.significand - (if s.narrow then 1 else 2)
  let high := 4 * s.significand + 2
  let closed := s.significand % 2 == 0
  let above := compareScaled d.digits d.exponent low (s.scale - 2)
  let below := compareScaled d.digits d.exponent high (s.scale - 2)
  (above == .gt || (closed && above == .eq)) && (below == .lt || (closed && below == .eq))

def Span.onGrid (s : Span) (grid : Int) : Nat :=
  (s.significand * Nat.pow 2 s.scale.toNat * Nat.pow 10 (-grid).toNat) /
    (Nat.pow 2 (-s.scale).toNat * Nat.pow 10 grid.toNat)

def Span.againstMiddle (s : Span) (grid : Int) (n : Nat) : Ordering :=
  (compareScaled (2 * n + 1) grid (2 * s.significand) s.scale).swap

def Span.hit (s : Span) (grid : Int) : Option Digits :=
  let n := s.onGrid grid
  let low : Digits := ⟨n, grid⟩
  let high : Digits := ⟨n + 1, grid⟩
  match s.holds low, s.holds high with
  | true, true =>
    match s.againstMiddle grid n with
    | .lt => some low
    | .gt => some high
    | .eq => some (if n % 2 = 0 then low else high)
  | true, false => some low
  | false, true => some high
  | false, false => none

def Span.search (s : Span) : Nat → Int → Option Digits
  | 0, _ => none
  | count + 1, grid =>
    match s.hit grid with
    | some d => some d
    | none => s.search count (grid - 1)

def Span.top (s : Span) : Int :=
  let big := s.significand * Nat.pow 2 s.scale.toNat
  let small := Nat.pow 2 (-s.scale).toNat
  if small ≤ big then (Nat.toDigits 10 (big / small)).length
  else 1 - ((Nat.toDigits 10 (small / big)).length - 1 : Int)

def stripZeros : Nat → Digits → Digits
  | 0, d => d
  | fuel + 1, d =>
    if d.digits ≠ 0 ∧ d.digits % 10 = 0 then stripZeros fuel ⟨d.digits / 10, d.exponent + 1⟩ else d

-- Seventeen digits always suffice; should none be found, the exact value stands in.
def shortest (s : Span) : Digits :=
  if s.significand = 0 then ⟨0, 0⟩
  else
    match s.search 20 s.top with
    | some d => stripZeros 20 d
    | none => ⟨s.significand * Nat.pow 2 s.scale.toNat * Nat.pow 5 (-s.scale).toNat, -((-s.scale).toNat : Int)⟩

end Cohort.Decimal
