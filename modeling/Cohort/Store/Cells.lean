import Cohort.Fault
import Cohort.Json.Spelled
import Cohort.Store.Basic

namespace Cohort

inductive Cell where
  | text (value : Option String)
  | whole (value : Int)
  | flag (value : Bool)
  | real (value : Option Float)
  | time (value : Option Moment)
  | any (value : Json)
  | word (list value : String)

namespace Cell
open Spelled

def json : Cell → Json
  | .text value => Json.ofText value
  | .whole value => .int value
  | .flag value => .bool value
  | .real value => Json.ofOption .float value
  | .time value => Json.ofOption (fun m => .string m.text) value
  | .any value => value
  | .word _ value => .string value

def spellMoment (m : Moment) : String :=
  let d := m.date
  let c := m.clock
  let tail :=
    if c.micro ≠ 0 then [c.second, c.micro]
    else if c.second ≠ 0 then [c.second]
    else []
  let numbers := [d.year, d.month, d.day, c.hour, c.minute] ++ tail
  "datetime.datetime(" ++ ", ".intercalate (numbers.map Text.decimal) ++ ")"

def spell : Cell → String
  | .text none => nothing
  | .text (some s) => Text.Quoted.quoted s
  | .whole n => Text.decimalInt n
  | .flag b => ofFlag b
  | .real none => nothing
  | .real (some x) => Decimal.plain.write x
  | .time none => nothing
  | .time (some m) => spellMoment m
  | .any v => value v
  | .word list value => "<" ++ list ++ "." ++ Text.upper value ++ ": " ++ Text.Quoted.quoted value ++ ">"

end Cell

structure Listing where
  name : String
  cells : List (String × Cell)

namespace Listing

def json (l : Listing) : Json := .object (l.cells.map fun c => (c.1, c.2.json))

def spell (l : Listing) : String :=
  l.name ++ "(" ++ ", ".intercalate (l.cells.map fun c => c.1 ++ "=" ++ c.2.spell) ++ ")"

end Listing

def Experiment.listing (e : Experiment) : Listing where
  name := "ExperimentORM"
  cells :=
    [("experiment_id", .text (some e.id)), ("workspace_id", .text (some e.workspace)), ("key", .text (some e.key)),
      ("name", .text (some e.name)), ("description", .text e.description),
      ("type", .word "ExperimentType" e.category.name), ("status", .word "ExperimentStatus" e.status.name),
      ("created_at", .time (some e.createdAt)), ("updated_at", .time e.updatedAt), ("start_at", .time e.startAt),
      ("end_at", .time e.endAt), ("concluded_at", .time e.concludedAt), ("traffic_allocation", .any e.trafficStored),
      ("targeting_rules", .any e.targetingStored), ("winning_variant_id", .text e.winner),
      ("metadata_json", .any e.metadataStored)]

def Variant.listing (v : Variant) : Listing where
  name := "VariantORM"
  cells :=
    [("variant_id", .text (some v.id)), ("experiment_id", .text (some v.experiment)), ("key", .text (some v.key)),
      ("name", .text (some v.name)), ("description", .text v.description), ("weight", .whole v.weight),
      ("is_control", .flag v.isControl), ("config", .any (.object v.config)), ("position", .whole v.position),
      ("created_at", .time (some v.createdAt)), ("updated_at", .time v.updatedAt)]

def Assignment.listing (a : Assignment) : Listing where
  name := "AssignmentORM"
  cells :=
    [("assignment_id", .text (some a.id)), ("workspace_id", .text (some a.workspace)),
      ("experiment_id", .text (some a.experiment)), ("variant_id", .text (some a.variant)),
      ("customer_id", .text a.subject.customer), ("session_id", .text a.subject.session),
      ("user_id", .text a.subject.user), ("subject_key", .text (some a.subjectKey)),
      ("source", .word "AssignmentSource" a.source.name), ("first_exposure_at", .time a.firstExposure),
      ("last_exposure_at", .time a.lastExposure), ("exposure_count", .whole a.exposures),
      ("converted_at", .time a.convertedAt), ("conversion_value", .real a.value),
      ("conversion_metadata", .any a.conversionMetadata), ("metadata_json", .any (.object a.metadata)),
      ("created_at", .time (some a.createdAt))]

namespace Store

def idNumber (id : String) : Nat := Text.digitsValue (id.toList.filter Text.isDigit)

def json (s : Store) : Except Fault Json := do
  let experiments := Order.arrange (fun a b => idNumber a.id < idNumber b.id) s.experiments
  if experiments.any (·.strays.category.isSome) then .error .unreadableRow
  else
    return .object [("experiments", .array (experiments.map (·.listing.json))),
      ("variants", .array (s.variants.map (·.listing.json))),
      ("assignments", .array (s.assignments.map (·.listing.json)))]

end Store
end Cohort
