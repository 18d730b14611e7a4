import Cohort.Text.Letters
import Cohort.Text.Printable
import Cohort.Text.Raw

namespace Cohort.Text.Quoted

-- Apostrophes are the quotes unless only they would need an escape.
def mark (s : List Char) : Char :=
  if s.contains '\'' && !s.contains '"' then '"' else '\''

def escape (quote c : Char) : List Char :=
  let n := c.toNat
  if c = quote || c = '\\' then ['\\', c]
  else if c = '\n' then ['\\', 'n']
  else if c = '\r' then ['\\', 'r']
  else if c = '\t' then ['\\', 't']
  else if isPrintable c then [c]
  else if n < 0x100 then ['\\', 'x'] ++ (hexPadded 2 n).toList
  else if n < 0x10000 then ['\\', 'u'] ++ (hexPadded 4 n).toList
  else ['\\', 'U'] ++ (hexPadded 8 n).toList

def quoted (s : String) : String :=
  let cs := s.toList
  let quote := mark cs
  String.ofList (quote :: cs.flatMap (escape quote) ++ [quote])

def escapePoint (quote : Char) (n : Nat) : List Char :=
  if RawText.isHalf n then ['\\', 'u'] ++ (hexPadded 4 n).toList else escape quote (Char.ofNat n)

def quotedRaw : RawText → String
  | .whole s => quoted s
  | .halved points =>
    let quote := mark (points.map Char.ofNat)
    String.ofList (quote :: points.flatMap (escapePoint quote) ++ [quote])

end Cohort.Text.Quoted
