import Cohort.Text.Letters

namespace Cohort.Text.Percent

-- A character of several bytes part way through, with the values that the next byte may take.
structure Pending where
  owed : Nat
  least : Nat
  most : Nat
  bits : Nat

inductive Lead where
  | whole (c : Char)
  | opens (pending : Pending)
  | refused

def substitute : Char := '\uFFFD'

-- The narrowed second byte after E0, ED, F0 and F4 keeps out long forms, surrogates and values past the last plane.
def lead (b : Nat) : Lead :=
  if b < 0x80 then .whole (Char.ofNat b)
  else if 0xC2 ≤ b && b ≤ 0xDF then .opens ⟨1, 0x80, 0xBF, b - 0xC0⟩
  else if b == 0xE0 then .opens ⟨2, 0xA0, 0xBF, 0⟩
  else if b == 0xED then .opens ⟨2, 0x80, 0x9F, 0xD⟩
  else if 0xE1 ≤ b && b ≤ 0xEF then .opens ⟨2, 0x80, 0xBF, b - 0xE0⟩
  else if b == 0xF0 then .opens ⟨3, 0x90, 0xBF, 0⟩
  else if 0xF1 ≤ b && b ≤ 0xF3 then .opens ⟨3, 0x80, 0xBF, b - 0xF0⟩
  else if b == 0xF4 then .opens ⟨3, 0x80, 0x8F, 4⟩
  else .refused

def begin (b : Nat) : List Char × Option Pending :=
  match lead b with
  | .whole c => ([c], none)
  | .opens p => ([], some p)
  | .refused => ([substitute], none)

-- A byte that does not continue the open character closes it with one substitute and starts afresh.
def feed (pending : Option Pending) (b : Nat) : List Char × Option Pending :=
  match pending with
  | none => begin b
  | some p =>
    if p.least ≤ b && b ≤ p.most then
      let bits := 64 * p.bits + (b - 0x80)
      if p.owed ≤ 1 then ([Char.ofNat bits], none) else ([], some ⟨p.owed - 1, 0x80, 0xBF, bits⟩)
    else
      let (out, next) := begin b
      (substitute :: out, next)

def mend : Option Pending → List UInt8 → List Char
  | none, [] => []
  | some _, [] => [substitute]
  | pending, b :: bytes =>
    let (out, next) := feed pending b.toNat
    out ++ mend next bytes

def textOfBytes (bytes : ByteArray) : String :=
  (String.fromUTF8? bytes).getD (String.ofList (mend none bytes.data.toList))

def unescape : List UInt8 → List UInt8
  | b :: h :: l :: rest =>
    let high := Char.ofNat h.toNat
    let low := Char.ofNat l.toNat
    if b == 37 && isHex high && isHex low then
      UInt8.ofNat (16 * hexValue high + hexValue low) :: unescape rest
    else b :: unescape (h :: l :: rest)
  | b :: rest => b :: unescape rest
  | [] => []

def decode (s : String) : String := textOfBytes ⟨(unescape s.toUTF8.data.toList).toArray⟩

def escapeByte (b : UInt8) : List Char :=
  let digits := (Nat.toDigits 16 b.toNat).map Char.toUpper
  '%' :: (List.replicate (2 - digits.length) '0' ++ digits)

-- Every byte is escaped, so no character of the text can end a segment or begin a query.
def encode (s : String) : String := String.ofList (s.toUTF8.data.toList.flatMap escapeByte)

end Cohort.Text.Percent
