import Cohort.Decimal.Notation
import Cohort.Json.Basic

-- JSON values as text, in which half of a surrogate pair is written by its number.
namespace Cohort.Json.Writer
open Text Decimal

def unit (n : Nat) : List Char := ['\\', 'u'] ++ (hexPadded 4 n).toList

def escape (c : Char) : List Char :=
  if c = '"' || c = '\\' then ['\\', c]
  else if c.toNat < 0x20 || c.toNat = 0x7F then unit c.toNat
  else [c]

def escapePoint (n : Nat) : List Char := if RawText.isHalf n then unit n else escape (Char.ofNat n)

def text : RawText → String
  | .whole s => String.ofList ('"' :: s.toList.flatMap escape ++ ['"'])
  | .halved points => String.ofList ('"' :: points.flatMap escapePoint ++ ['"'])

mutual

def value (number : Float → String) : Json → String
  | .null => "null"
  | .bool b => if b then "true" else "false"
  | .int n => decimalInt n
  | .float x => number x
  | .string s => text s
  | .array xs => "[" ++ ", ".intercalate (items number xs) ++ "]"
  | .object ms => "\x7b" ++ ", ".intercalate (members number ms) ++ "\x7d"

def items (number : Float → String) : List Json → List String
  | [] => []
  | x :: xs => value number x :: items number xs

def members (number : Float → String) : List (RawText × Json) → List String
  | [] => []
  | (k, v) :: rest => (text k ++ ": " ++ value number v) :: members number rest

end

end Writer

def write (v : Json) : String := Writer.value Decimal.wire.write v

-- Floats that are no number stand as texts.
def writeReadable (v : Json) : String :=
  Writer.value (fun x => if Decimal.isFinite x then Decimal.plain.write x else Writer.text (Decimal.plain.write x)) v

mutual

def hasNonFinite : Json → Bool
  | .float x => !Decimal.isFinite x
  | .array xs => itemsHaveNonFinite xs
  | .object ms => membersHaveNonFinite ms
  | _ => false

def itemsHaveNonFinite : List Json → Bool
  | [] => false
  | x :: xs => hasNonFinite x || itemsHaveNonFinite xs

def membersHaveNonFinite : List (RawText × Json) → Bool
  | [] => false
  | (_, v) :: rest => hasNonFinite v || membersHaveNonFinite rest

end

mutual

def hasHalves : Json → Bool
  | .string s => !s.isWhole
  | .array xs => itemsHaveHalves xs
  | .object ms => membersHaveHalves ms
  | _ => false

def itemsHaveHalves : List Json → Bool
  | [] => false
  | x :: xs => hasHalves x || itemsHaveHalves xs

def membersHaveHalves : List (RawText × Json) → Bool
  | [] => false
  | (k, v) :: rest => !k.isWhole || hasHalves v || membersHaveHalves rest

end

mutual

def finitely : Json → Json
  | .float x => if Decimal.isFinite x then .float x else .null
  | .array xs => .array (itemsFinitely xs)
  | .object ms => .object (membersFinitely ms)
  | v => v

def itemsFinitely : List Json → List Json
  | [] => []
  | x :: xs => finitely x :: itemsFinitely xs

def membersFinitely : List (RawText × Json) → List (RawText × Json)
  | [] => []
  | (k, v) :: rest => (k, finitely v) :: membersFinitely rest

end

end Cohort.Json
