import Cohort.Decimal.Exact
import Cohort.Json.Basic

-- When two values count as the same: truth values count as one and zero, numbers by their exact worth, objects
-- by their keys and what stands there. Every NaN is the same as every other.
namespace Cohort.Json
open Decimal

def worth? : Json → Option Worth
  | .bool b => some (Worth.ofInt (if b then 1 else 0))
  | .int n => some (Worth.ofInt n)
  | .float x => some (Worth.ofFloat x)
  | _ => none

def numbersAgree (a b : Json) : Bool :=
  match worth? a, worth? b with
  | some x, some y => x == y
  | _, _ => false

mutual

def agrees : Json → Json → Bool
  | .null, .null => true
  | .string s, .string t => s == t
  | .array xs, .array ys => itemsAgree xs ys
  | .object ms, .object ns => membersAgree [] ms ns && ns.all fun n => (lookup n.1 ms).isSome
  | .bool b, other => numbersAgree (.bool b) other
  | .int n, other => numbersAgree (.int n) other
  | .float x, other => numbersAgree (.float x) other
  | _, _ => false

def itemsAgree : List Json → List Json → Bool
  | [], [] => true
  | x :: xs, y :: ys => agrees x y && itemsAgree xs ys
  | _, _ => false

-- Only the first value of a key counts, so keys already seen are passed over.
def membersAgree (seen : List RawText) : List (RawText × Json) → List (RawText × Json) → Bool
  | [], _ => true
  | (k, v) :: rest, ns =>
    (seen.contains k ||
      match lookup k ns with
      | some w => agrees v w
      | none => false) && membersAgree (k :: seen) rest ns

end

def objectsAgree (ms ns : Members) : Bool := agrees (.object ms) (.object ns)

def isNaN : Json → Bool
  | .float x => Decimal.isNaN x
  | _ => false

-- As one value asked for by itself: there a NaN is not even itself.
def equals (a b : Json) : Bool := agrees a b && !a.isNaN

end Cohort.Json
