import Cohort.Json.Agreement
import Cohort.Store.Row

namespace Cohort

inductive Change (α : Type) where
  | keep
  | set (value : α)

namespace Change

def written (same : α → α → Bool) (stored : α) : Change α → Option α
  | .keep => none
  | .set a => if same stored a then none else some a

def plain [DecidableEq α] (stored : α) : Change α → Option α := written (fun a b => a = b) stored

def members (stored : Json.Members) : Change Json.Members → Option Json.Members :=
  written Json.objectsAgree stored

-- A time with a zone is never the same as a stored one. The zone is dropped, not reckoned with.
def time (stored : Option Moment) : Change (Option Dated) → Option (Option Moment)
  | .keep => none
  | .set none => if stored = none then none else some none
  | .set (some t) => if t.offset = none ∧ stored = some t.wall then none else some (some t.wall)

-- Over a stray value whatever is sent is a change.
def replacing (stray : Option Json) (written : Change α → Option α) (change : Change α) : Option α :=
  match stray, change with
  | some _, .set a => some a
  | _, change => written change

end Change

structure ExperimentRevision where
  name : Change String := .keep
  description : Change (Option String) := .keep
  status : Change Status := .keep
  startAt : Change (Option Dated) := .keep
  endAt : Change (Option Dated) := .keep
  concludedAt : Change (Option Dated) := .keep
  traffic : Change Int := .keep
  targeting : Change Json.Members := .keep
  winner : Change (Option String) := .keep
  metadata : Change Json.Members := .keep

namespace ExperimentRevision

def newTraffic (r : ExperimentRevision) (e : Experiment) : Option Int :=
  r.traffic.replacing e.strays.traffic (Change.plain e.traffic)

def newTargeting (r : ExperimentRevision) (e : Experiment) : Option Json.Members :=
  r.targeting.replacing e.strays.targeting (Change.members e.targeting)

def newMetadata (r : ExperimentRevision) (e : Experiment) : Option Json.Members :=
  r.metadata.replacing e.strays.metadata (Change.members e.metadata)

def alters (r : ExperimentRevision) (e : Experiment) : Bool :=
  (r.name.plain e.name).isSome || (r.description.plain e.description).isSome ||
  (r.status.plain e.status).isSome || (r.startAt.time e.startAt).isSome ||
  (r.endAt.time e.endAt).isSome || (r.concludedAt.time e.concludedAt).isSome ||
  (r.newTraffic e).isSome || (r.newTargeting e).isSome || (r.winner.plain e.winner).isSome ||
  (r.newMetadata e).isSome

def applied (r : ExperimentRevision) (now : Moment) (e : Experiment) : Experiment :=
  { e with
    name := (r.name.plain e.name).getD e.name
    description := (r.description.plain e.description).getD e.description
    status := (r.status.plain e.status).getD e.status
    updatedAt := some now
    startAt := (r.startAt.time e.startAt).getD e.startAt
    endAt := (r.endAt.time e.endAt).getD e.endAt
    concludedAt := (r.concludedAt.time e.concludedAt).getD e.concludedAt
    traffic := (r.newTraffic e).getD e.traffic
    targeting := (r.newTargeting e).getD e.targeting
    winner := (r.winner.plain e.winner).getD e.winner
    metadata := (r.newMetadata e).getD e.metadata
    strays := {
      e.strays with
      traffic := if (r.newTraffic e).isSome then none else e.strays.traffic
      targeting := if (r.newTargeting e).isSome then none else e.strays.targeting
      metadata := if (r.newMetadata e).isSome then none else e.strays.metadata } }

end ExperimentRevision

structure VariantRevision where
  name : Change String := .keep
  description : Change (Option String) := .keep
  weight : Change Int := .keep
  config : Change Json.Members := .keep

namespace VariantRevision

def alters (r : VariantRevision) (v : Variant) : Bool :=
  (r.name.plain v.name).isSome || (r.description.plain v.description).isSome ||
  (r.weight.plain v.weight).isSome || (r.config.members v.config).isSome

def applied (r : VariantRevision) (now : Moment) (v : Variant) : Variant :=
  { v with
    name := (r.name.plain v.name).getD v.name
    description := (r.description.plain v.description).getD v.description
    weight := (r.weight.plain v.weight).getD v.weight
    config := (r.config.members v.config).getD v.config
    updatedAt := some now }

end VariantRevision
end Cohort
