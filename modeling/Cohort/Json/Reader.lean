import Cohort.Decimal.Notation
import Cohort.Json.Basic

-- JSON texts, with the words NaN, Infinity and -Infinity read as numbers.
namespace Cohort.Json

inductive Misread where
  | malformed
  | tooLong
  | tooDeep
deriving DecidableEq, Repr

structure Bounds where
  digits : Nat
  depth : Nat
deriving DecidableEq, Repr

-- What is read of a request, and of the environment.
def Bounds.received : Bounds := ⟨4300, 968⟩

def Bounds.environment : Bounds := ⟨4300, 986⟩

namespace Reader
open Text Decimal

abbrev Step := Except Misread (Json × List Glyph)

def isSpace (c : Char) : Bool := c = ' ' || c = '\t' || c = '\n' || c = '\r'

def skip (s : List Glyph) : List Glyph := s.dropWhile (·.meets isSpace)

def follows (word : String) (s : List Glyph) : Option (List Glyph) :=
  let w := word.toList.map Glyph.char
  if s.take w.length = w then some (s.drop w.length) else none

def digits (s : List Glyph) : List Char × List Glyph :=
  let (found, rest) := s.span (·.meets isDigit)
  (found.filterMap Glyph.char?, rest)

def wholePart (s : List Glyph) : Option (List Char × List Glyph) :=
  match digits s with
  | ([], _) => none
  | ('0' :: extra, rest) => some (['0'], extra.map Glyph.char ++ rest)
  | (ds, rest) => some (ds, rest)

def fractionPart (s : List Glyph) : List Char × List Glyph :=
  match s with
  | .char '.' :: rest =>
    match digits rest with
    | ([], _) => ([], s)
    | found => found
  | _ => ([], s)

def exponentPart (s : List Glyph) : Option Int × List Glyph :=
  let signed (negative : Bool) (rest : List Glyph) : Option Int × List Glyph :=
    match digits rest with
    | ([], _) => (none, s)
    | (ds, rest') => (some (if negative then -(digitsValue ds : Int) else digitsValue ds), rest')
  match s with
  | .char e :: rest =>
    if e = 'e' || e = 'E' then
      match rest with
      | .char '+' :: rest' => signed false rest'
      | .char '-' :: rest' => signed true rest'
      | _ => signed false rest
    else (none, s)
  | _ => (none, s)

-- A point or an exponent makes a float, whatever its worth; only integers are bounded.
def number (bounds : Bounds) (negative : Bool) (s : List Glyph) : Step :=
  match wholePart s with
  | none => .error .malformed
  | some (whole, rest) =>
    let (fraction, rest) := fractionPart rest
    let (exponent, rest) := exponentPart rest
    if fraction = [] ∧ exponent = none then
      if bounds.digits < whole.length then .error .tooLong
      else
        let n : Int := digitsValue whole
        .ok (.int (if negative then -n else n), rest)
    else
      let scale := exponent.getD 0 - fraction.length
      .ok (.float (nearest negative (digitsValue (whole ++ fraction)) scale), rest)

def isHighHalf (n : Nat) : Bool := 0xD800 ≤ n && n ≤ 0xDBFF

def isLowHalf (n : Nat) : Bool := 0xDC00 ≤ n && n ≤ 0xDFFF

def joined (high low : Nat) : Nat := 0x10000 + 0x400 * (high - 0xD800) + (low - 0xDC00)

def fourHex (s : List Glyph) : Option (Nat × List Glyph) :=
  let ds := (s.take 4).filterMap Glyph.char?
  if ds.length = 4 ∧ ds.all isHex then some (hexDigits ds, s.drop 4) else none

-- Two halves make one character; a half without the other stays by itself. Only halves that are both escaped
-- belong together.
def escapedUnit (s : List Glyph) : Option (Nat × List Glyph) := do
  let (unit, rest) ← fourHex s
  match rest with
  | .char '\\' :: .char 'u' :: rest' =>
    match fourHex rest' with
    | some (low, rest'') =>
      if isHighHalf unit && isLowHalf low then return (joined unit low, rest'') else return (unit, rest)
    | none => return (unit, rest)
  | _ => return (unit, rest)

def escaped : List Glyph → Option (Nat × List Glyph)
  | .char '"' :: rest => some (0x22, rest)
  | .char '\\' :: rest => some (0x5C, rest)
  | .char '/' :: rest => some (0x2F, rest)
  | .char 'b' :: rest => some (0x08, rest)
  | .char 'f' :: rest => some (0x0C, rest)
  | .char 'n' :: rest => some (0x0A, rest)
  | .char 'r' :: rest => some (0x0D, rest)
  | .char 't' :: rest => some (0x09, rest)
  | .char 'u' :: rest => escapedUnit rest
  | _ => none

def textFrom : Nat → List Nat → List Glyph → Option (RawText × List Glyph)
  | 0, _, _ => none
  | fuel + 1, read, s =>
    match s with
    | [] => none
    | .char '"' :: rest => some (RawText.ofPoints read.reverse, rest)
    | .char '\\' :: rest =>
      match escaped rest with
      | some (n, rest') => textFrom fuel (n :: read) rest'
      | none => none
    | .char c :: rest => if c.toNat < 0x20 then none else textFrom fuel (c.toNat :: read) rest
    | .half n :: rest => textFrom fuel (n :: read) rest

def text (s : List Glyph) : Except Misread (RawText × List Glyph) :=
  match textFrom (s.length + 1) [] s with
  | some found => .ok found
  | none => .error .malformed

mutual

-- One value from the start of `s`, and what comes after it; `depth` lists and objects may still open.
def value (bounds : Bounds) : Nat → Nat → List Glyph → Step
  | 0, _, _ => .error .malformed
  | fuel + 1, depth, s =>
    match s with
    | .char '"' :: rest => (text rest).map fun (t, rest') => (.string t, rest')
    | .char '{' :: rest =>
      if depth = 0 then .error .tooDeep
      else
        match skip rest with
        | .char '}' :: rest' => .ok (.object [], rest')
        | rest' => members bounds fuel (depth - 1) [] rest'
    | .char '[' :: rest =>
      if depth = 0 then .error .tooDeep
      else
        match skip rest with
        | .char ']' :: rest' => .ok (.array [], rest')
        | rest' => items bounds fuel (depth - 1) [] rest'
    | .char '-' :: rest =>
      match follows "Infinity" rest with
      | some rest' => .ok (.float (-(1.0 / 0.0)), rest')
      | none => number bounds true rest
    | _ =>
      match follows "null" s, follows "true" s, follows "false" s, follows "NaN" s, follows "Infinity" s with
      | some rest, _, _, _, _ => .ok (.null, rest)
      | _, some rest, _, _, _ => .ok (.bool true, rest)
      | _, _, some rest, _, _ => .ok (.bool false, rest)
      | _, _, _, some rest, _ => .ok (.float (0.0 / 0.0), rest)
      | _, _, _, _, some rest => .ok (.float (1.0 / 0.0), rest)
      | _, _, _, _, _ => number bounds false s

def items (bounds : Bounds) : Nat → Nat → List Json → List Glyph → Step
  | 0, _, _, _ => .error .malformed
  | fuel + 1, depth, read, s =>
    match value bounds fuel depth s with
    | .error e => .error e
    | .ok (v, rest) =>
      match skip rest with
      | .char ',' :: rest' => items bounds fuel depth (v :: read) (skip rest')
      | .char ']' :: rest' => .ok (.array (v :: read).reverse, rest')
      | _ => .error .malformed

def members (bounds : Bounds) : Nat → Nat → Members → List Glyph → Step
  | 0, _, _, _ => .error .malformed
  | fuel + 1, depth, read, s =>
    match s with
    | .char '"' :: rest =>
      match text rest with
      | .error e => .error e
      | .ok (key, rest) =>
        match skip rest with
        | .char ':' :: rest =>
          match value bounds fuel depth (skip rest) with
          | .error e => .error e
          | .ok (v, rest) =>
            match skip rest with
            | .char ',' :: rest' => members bounds fuel depth (put key v read) (skip rest')
            | .char '}' :: rest' => .ok (.object (put key v read), rest')
            | _ => .error .malformed
        | _ => .error .malformed
    | _ => .error .malformed

end

end Reader

-- Every call of the reader but the outermost stands behind a glyph of its own, so twice the length is
-- fuel enough.
def parseWithin (bounds : Bounds) (s : List Glyph) : Except Misread Json :=
  match Reader.value bounds (2 * s.length + 2) bounds.depth (Reader.skip s) with
  | .ok (v, rest) => if Reader.skip rest = [] then .ok v else .error .malformed
  | .error e => .error e

def parse (text : String) : Except Misread Json :=
  let s := text.toList.map Glyph.char
  parseWithin ⟨s.length, s.length⟩ s

end Cohort.Json
