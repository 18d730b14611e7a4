import Cohort.Decimal.Shortest
import Cohort.Text.Letters

namespace Cohort.Decimal
open Text

structure Notation where
  -- decimal exponents written without an exponent mark: from `least` up to, not including, `limit`
  least : Int
  limit : Int
  exponentDigits : Nat
  pointed : Bool
  infinite : String
  nan : String

def plain : Notation := ⟨-4, 16, 2, false, "inf", "nan"⟩

def wire : Notation := { plain with infinite := "Infinity", nan := "NaN" }

def stored : Notation := { plain with limit := 15, pointed := true, infinite := "Inf" }

def zeros (n : Nat) : String := String.ofList (List.replicate n '0')

def Notation.layout (style : Notation) (d : Digits) : String :=
  let cs := Nat.toDigits 10 d.digits
  let exponent : Int := cs.length - 1 + d.exponent
  if style.least ≤ exponent ∧ exponent < style.limit then
    if 0 ≤ d.exponent then String.ofList cs ++ zeros d.exponent.toNat ++ ".0"
    else if 0 ≤ exponent then
      String.ofList (cs.take (exponent.toNat + 1)) ++ "." ++ String.ofList (cs.drop (exponent.toNat + 1))
    else "0." ++ zeros (-exponent - 1).toNat ++ String.ofList cs
  else
    let rest := cs.drop 1
    let behind := if rest ≠ [] then "." ++ String.ofList rest else if style.pointed then ".0" else ""
    String.ofList (cs.take 1) ++ behind ++
      (if exponent < 0 then "e-" else "e+") ++ padded style.exponentDigits exponent.natAbs

def Notation.writeAs (digits : Span → Digits) (style : Notation) (x : Float) : String :=
  let p := parts x
  let sign := if p.negative then "-" else ""
  if p.exponent = 2047 then (if p.fraction = 0 then sign ++ style.infinite else style.nan)
  else if p.significand = 0 then sign ++ "0.0"
  else sign ++ style.layout (digits (Span.ofParts p))

def Notation.write : Notation → Float → String := Notation.writeAs shortest

-- The double nearest to `digits · 10^exponent`. Past the largest and below the smallest power of ten that
-- matters the answer is known, however long the exponent is.
def nearest (negative : Bool) (digits : Nat) (exponent : Int) : Float :=
  let size : Int := (Nat.toDigits 10 digits).length + exponent
  let x : Float :=
    if digits = 0 then 0.0
    else if 310 < size then 1.0 / 0.0
    else if size < -330 then 0.0
    else if exponent < 0 then Float.ofScientific digits true exponent.natAbs
    else Float.ofScientific (digits * Nat.pow 10 exponent.toNat) false 0
  if negative then -x else x

def ofInt (n : Int) : Float := nearest (n < 0) n.natAbs 0

end Cohort.Decimal
