import Cohort.Fault
import Cohort.Http.Request

namespace Cohort.Http
open Text

structure Unsent where
  method : String
  target : RawText
  authorization : Option RawText
  -- media type and text
  content : Option (RawText × RawText)

namespace Unsent

def longest : Nat := 65536

def isControl (n : Nat) : Bool := n < 0x20 || n = 0x7F

-- Without an origin a path begins with one slash at most, and not with a colon.
def strays (target : List Char) : Bool :=
  match Origin.read (target.takeWhile fun c => c ≠ '?' && c ≠ '#') with
  | (⟨none, none⟩, '/' :: '/' :: _) => true
  | (⟨none, none⟩, ':' :: _) => true
  | _ => false

def addresses (target : RawText) : Bool :=
  target.points.length ≤ longest && !target.points.any isControl && !strays target.shown.toList

def whole : RawText → Except Fault String
  | .whole s => .ok s
  | .halved _ => .error .halfCharacter

def header (text : RawText) : Except Fault String := do
  let s ← whole text
  if s.toList.all fun c => c.toNat < 0x80 then return s else throw .foreignLetter

def send (u : Unsent) : Except Fault Request := do
  if !addresses u.target then throw .noAddress
  let target ← whole u.target
  let authorization ← u.authorization.mapM header
  let content ← u.content.mapM fun c => return ⟨← header c.1, ← whole c.2⟩
  return ⟨u.method, target, authorization, content⟩

end Unsent
end Cohort.Http
