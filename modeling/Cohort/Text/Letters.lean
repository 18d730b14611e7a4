namespace Cohort.Text

-- Besides the capitals, the Kelvin sign has one of the twenty-six as its small letter.
def small (c : Char) : Char := if c = '\u212A' then 'k' else c.toLower

def lower (s : String) : String := String.ofList (s.toList.map small)

def sameLetters (a b : String) : Bool := lower a == lower b

-- Besides the small letters, the dotless i and the long s have one of the twenty-six as their capital, and the two
-- ligatures of s and t have two.
def capitals (c : Char) : List Char :=
  if c = 'ı' then ['I'] else if c = 'ſ' then ['S'] else if c = 'ﬅ' || c = 'ﬆ' then ['S', 'T'] else [c.toUpper]

def upper (s : String) : String := String.ofList (s.toList.flatMap capitals)

def isDigit (c : Char) : Bool := '0' ≤ c && c ≤ '9'

def digitValue (c : Char) : Nat := c.toNat - '0'.toNat

def digitsValue (digits : List Char) : Nat := digits.foldl (fun n c => 10 * n + digitValue c) 0

def decimal (n : Nat) : String := String.ofList (Nat.toDigits 10 n)

def decimalInt : Int → String
  | .ofNat n => decimal n
  | .negSucc n => "-" ++ decimal (n + 1)

def padded (width n : Nat) : String :=
  let digits := Nat.toDigits 10 n
  String.ofList (List.replicate (width - digits.length) '0' ++ digits)

def isHex (c : Char) : Bool := isDigit c || ('a' ≤ c && c ≤ 'f') || ('A' ≤ c && c ≤ 'F')

def hexValue (c : Char) : Nat :=
  if isDigit c then digitValue c
  else if 'a' ≤ c && c ≤ 'f' then c.toNat - 'a'.toNat + 10
  else c.toNat - 'A'.toNat + 10

def hexDigits (digits : List Char) : Nat := digits.foldl (fun n c => 16 * n + hexValue c) 0

def hexPadded (width n : Nat) : String :=
  let digits := Nat.toDigits 16 n
  String.ofList (List.replicate (width - digits.length) '0' ++ digits)

end Cohort.Text
