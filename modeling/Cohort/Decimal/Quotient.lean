import Cohort.Decimal.Wide

namespace Cohort.Decimal

-- `a · 2^(room + 1) / b`, with a last digit that says whether anything is left.
def quotientBits (a b room : Nat) : Nat :=
  let n := a * Nat.pow 2 room
  2 * (n / b) + (if n % b = 0 then 0 else 1)

-- The double nearest to `a / b`, and of two as near the even one.
def quotient (a b : Nat) : Float :=
  if a = 0 then 0.0
  else
    let room := 55 + b.log2 - a.log2
    Wide.toFloat ⟨quotientBits a b room, -(room : Int) - 1⟩

end Cohort.Decimal
