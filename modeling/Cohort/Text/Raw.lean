namespace Cohort

inductive Glyph where
  | char (c : Char)
  -- a surrogate without the other one
  | half (n : Nat)
deriving DecidableEq, Repr

def Glyph.char? : Glyph → Option Char
  | .char c => some c
  | .half _ => none

def Glyph.meets (p : Char → Bool) (g : Glyph) : Bool := g.char?.any p

-- A text as JSON can write it. Most are strings; one with half of a surrogate pair in it is none and is kept
-- as its code points.
inductive RawText where
  | whole (s : String)
  | halved (points : List Nat)
deriving DecidableEq, Repr, Inhabited

namespace RawText

instance : Coe String RawText := ⟨whole⟩

def isHalf (n : Nat) : Bool := 0xD800 ≤ n && n ≤ 0xDFFF

def ofPoints (points : List Nat) : RawText :=
  if points.any isHalf then .halved points else .whole (String.ofList (points.map Char.ofNat))

def isWhole : RawText → Bool
  | .whole _ => true
  | .halved _ => false

def shown : RawText → String
  | .whole s => s
  | .halved points => String.ofList (points.map fun n => if isHalf n then '\uFFFD' else Char.ofNat n)

def points : RawText → List Nat
  | .whole s => s.toList.map Char.toNat
  | .halved points => points

-- Halves show as a substitute for each of the three bytes that their number takes.
def substituted : RawText → String
  | .whole s => s
  | .halved points =>
    String.ofList (points.flatMap fun n => if isHalf n then List.replicate 3 '\uFFFD' else [Char.ofNat n])

protected def append : RawText → RawText → RawText
  | .whole s, .whole t => .whole (s ++ t)
  | s, t => ofPoints (s.points ++ t.points)

instance : Append RawText where
  append := RawText.append

end RawText

end Cohort
