import Cohort.Json.Reader

namespace Cohort.Json.Body
open Reader Text

inductive Layout where
  | bytes
  | pairs (big : Bool)
  | quadruples (big : Bool)
deriving DecidableEq, Repr

-- The first character of a JSON text is below 256, so the zeros around it tell the layout.
def layoutOf : List UInt8 → Layout
  | a :: b :: c :: d :: _ =>
    if a = 0 then (if b = 0 then .quadruples true else .pairs true)
    else if b = 0 then (if c = 0 && d = 0 then .quadruples false else .pairs false)
    else .bytes
  | [a, b] => if a = 0 then .pairs true else if b = 0 then .pairs false else .bytes
  | _ => .bytes

def pairsOf (big : Bool) : List UInt8 → Option (List Nat)
  | [] => some []
  | a :: b :: rest =>
    let (high, low) := if big then (a, b) else (b, a)
    (pairsOf big rest).map ((256 * high.toNat + low.toNat) :: ·)
  | _ => none

def quadruplesOf (big : Bool) : List UInt8 → Option (List Nat)
  | [] => some []
  | a :: b :: c :: d :: rest =>
    let n := if big then [a, b, c, d] else [d, c, b, a]
    let n := n.foldl (fun n byte => 256 * n + byte.toNat) 0
    if n < 0x110000 then (quadruplesOf big rest).map (n :: ·) else none
  | _ => none

def glyph (n : Nat) : Glyph := if RawText.isHalf n then .half n else .char (Char.ofNat n)

def join : List Nat → List Nat
  | high :: low :: rest =>
    if isHighHalf high && isLowHalf low then joined high low :: join rest else high :: join (low :: rest)
  | rest => rest

-- The text that the bytes of a body make, unless they break off within a character. A byte order mark in
-- front is no part of it.
def decode (body : String) : Option (List Glyph) :=
  match body.toList with
  | '\uFEFF' :: rest => some (rest.map Glyph.char)
  | s =>
    let bytes := body.toUTF8.data.toList
    match layoutOf bytes with
    | .bytes => some (s.map Glyph.char)
    | .pairs big => (pairsOf big bytes).map fun units => (join units).map glyph
    | .quadruples big => (quadruplesOf big bytes).map (·.map glyph)

end Cohort.Json.Body
