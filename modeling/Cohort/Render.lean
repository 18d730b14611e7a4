import Cohort.Decision
import Cohort.Json.Writer
import Cohort.Statistics
import Cohort.Tree

namespace Cohort

def ofMoment (m : Option Moment) : Json := Json.ofOption (fun m => .string m.text) m

def Variant.render (v : Variant) : Except Fault Json := do
  let config ← Tree.shownFinitely v.config
  return .object [("variant_id", .string v.id), ("key", .string v.key), ("name", .string v.name),
    ("description", Json.ofText v.description), ("weight", .int v.weight), ("config", config),
    ("is_control", .bool v.isControl)]

namespace ExperimentView

def traffic (v : ExperimentView) : Except Objection Int :=
  match v.experiment.strays.traffic with
  | none => .ok v.experiment.traffic
  | some stray => Entry.whole stray

def complaints (v : ExperimentView) : List Complaint :=
  let e := v.experiment
  (match v.traffic with
    | .ok _ => []
    | .error objection => [⟨["traffic_allocation"], objection, e.trafficStored⟩]) ++
  (e.strays.targeting.toList.map fun stray => ⟨["targeting_rules"], .notMap, stray⟩) ++
  (e.strays.metadata.toList.map fun stray => ⟨["metadata_json"], .notMap, stray⟩)

-- A row that cannot be read has no fields to complain about.
def render (v : ExperimentView) : Except Fault Json := do
  let e := v.experiment
  if e.strays.category.isSome then .error .unreadableRow
  else if !v.complaints.isEmpty then .error (.refused v.complaints)
  else
    let targeting ← Tree.shownFinitely e.targeting
    let metadata ← Tree.shownFinitely e.metadata
    let variants ← v.variants.mapM Variant.render
    return .object [("experiment_id", .string e.id), ("key", .string e.key), ("name", .string e.name),
      ("description", Json.ofText e.description), ("type", .string e.category.name),
      ("status", .string e.status.name), ("traffic_allocation", .int (v.traffic.toOption.getD e.traffic)),
      ("targeting_rules", targeting), ("start_at", ofMoment e.startAt), ("end_at", ofMoment e.endAt),
      ("concluded_at", ofMoment e.concludedAt), ("winning_variant_id", Json.ofText e.winner),
      ("metadata", metadata), ("variants", .array variants),
      ("created_at", ofMoment (some e.createdAt)), ("updated_at", ofMoment e.updatedAt)]

end ExperimentView

def Decision.render (d : Decision) : Except Fault Json := do
  let config ← Tree.shownFinitely d.config
  return .object [("experiment_key", .string d.experiment), ("variant_key", .string d.variant),
    ("variant_config", config), ("is_control", .bool d.isControl),
    ("assignment_id", .string d.assignment), ("is_new_assignment", .bool d.isNew)]

def Statistics.json (t : Statistics) : Json :=
  .object [("experiment_id", .string t.experiment), ("total_assignments", .int t.overall.assignments),
    ("total_exposures", .int t.overall.exposures), ("total_conversions", .int t.overall.conversions),
    ("conversion_rate", .float t.overall.rate), ("total_conversion_value", .float t.overall.value),
    ("variant_stats", .array (t.variants.map fun entry => .object (Statistics.figures entry).fields))]

end Cohort
