import Cohort.Digest
import Cohort.Fault

namespace Cohort.Bucket

def trafficHash (key subject : String) : Nat := Digest.fingerprint (key ++ ":traffic:" ++ subject)

def variantHash (key subject : String) : Nat := Digest.fingerprint (key ++ ":variant:" ++ subject)

def inTraffic (key : String) (allocation : Int) (subject : String) : Bool :=
  100 ≤ allocation || ((trafficHash key subject % 100 : Nat) : Int) < allocation

def total (weight : α → Int) (items : List α) : Int := (items.map weight).foldr (· + ·) 0

def reach (weight : α → Int) (bucket : Int) : Int → List α → Option α
  | _, [] => none
  | sum, item :: rest =>
    let sum := sum + weight item
    if bucket < sum then some item else reach weight bucket sum rest

-- The bucket has the sign of the total, as rounding down leaves it. Should no running total pass it, the last
-- item is taken.
def pick (weight : α → Int) (items : List α) (hash : Nat) : Except Fault α :=
  match items.getLast? with
  | none => .error .noVariants
  | some last =>
    if total weight items = 0 then .error .noWeight
    else .ok ((reach weight (Int.fmod hash (total weight items)) 0 items).getD last)

def select (weight : α → Int) (items : List α) (key subject : String) : Except Fault α :=
  pick weight items (variantHash key subject)

end Cohort.Bucket
