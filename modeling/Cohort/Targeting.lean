import Cohort.Json.Agreement

namespace Cohort.Targeting
open Json

def holds (rules attributes : Members) : Bool :=
  rules.all fun rule =>
    match lookup rule.1 attributes with
    | some value => equals value rule.2
    | none => false

-- No rules let everyone in, and rules let in no one who sends no attributes.
def admits (rules attributes : Option Members) : Bool :=
  match rules.getD [], attributes with
  | [], _ => true
  | _, none => false
  | rules, some attributes => holds rules attributes

end Cohort.Targeting
