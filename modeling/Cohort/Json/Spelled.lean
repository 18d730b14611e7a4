import Cohort.Decimal.Notation
import Cohort.Json.Basic
import Cohort.Text.Quoted

-- Values spelled out on one line, as they stand in messages and in descriptions of rows.
namespace Cohort.Spelled

def nothing : String := "None"

def ofFlag (b : Bool) : String := if b then "True" else "False"

mutual

def value : Json → String
  | .null => nothing
  | .bool b => ofFlag b
  | .int n => Text.decimalInt n
  | .float x => Decimal.plain.write x
  | .string s => Text.Quoted.quotedRaw s
  | .array xs => "[" ++ ", ".intercalate (items xs) ++ "]"
  | .object ms => "\x7b" ++ ", ".intercalate (members ms) ++ "\x7d"

def items : List Json → List String
  | [] => []
  | x :: xs => value x :: items xs

def members : List (RawText × Json) → List String
  | [] => []
  | (k, v) :: rest => (Text.Quoted.quotedRaw k ++ ": " ++ value v) :: members rest

end

end Cohort.Spelled
