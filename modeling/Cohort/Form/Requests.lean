import Cohort.Form.Basic
import Cohort.Lifecycle
import Cohort.Subject

namespace Cohort
open Form Entry

def Subject.form : Form Subject :=
  Subject.mk <$> optional "customer_id" text <*> optional "session_id" text <*> optional "user_id" text

def Subject.fields (s : Subject) : Json.Members :=
  [("customer_id", Json.ofText s.customer), ("session_id", Json.ofText s.session), ("user_id", Json.ofText s.user)]

structure DecisionRequest where
  subject : Subject
  attributes : Option Json.Members

def DecisionRequest.form : Form DecisionRequest :=
  mk <$> Subject.form <*> optional "attributes" map

def DecisionRequest.fields (r : DecisionRequest) : Json.Members :=
  r.subject.fields ++ ([("attributes", Json.ofMembers r.attributes)] : Json.Members)

structure PinRequest where
  subject : Subject
  variant : String

def PinRequest.form : Form PinRequest :=
  mk <$> Subject.form <*> required "variant_id" text

def PinRequest.fields (r : PinRequest) : Json.Members :=
  r.subject.fields ++ ([("variant_id", .string r.variant)] : Json.Members)

structure ConversionReport where
  subject : Subject
  value : Option Float
  metadata : Option Json.Members

def ConversionReport.form : Form ConversionReport :=
  mk <$> Subject.form <*> optional "value" real <*> optional "metadata" map

def ConversionReport.fields (r : ConversionReport) : Json.Members :=
  r.subject.fields ++
    ([("value", Json.ofOption .float r.value), ("metadata", Json.ofMembers r.metadata)] : Json.Members)

structure VariantDraft where
  key : Key
  name : String
  description : Option String
  weight : Weight
  config : Json.Members
  isControl : Bool

def VariantDraft.form : Form VariantDraft :=
  mk <$> required "key" Entry.key <*> required "name" text <*> optional "description" text <*>
    defaulting "weight" Weight.one Entry.weight <*> defaulting "config" [] map <*> defaulting "is_control" false flag

def VariantDraft.fields (d : VariantDraft) : Json.Members :=
  [("key", .string d.key.val), ("name", .string d.name), ("description", Json.ofText d.description),
    ("weight", .int d.weight.val), ("config", .object d.config), ("is_control", .bool d.isControl)]

-- In changes a field that was not sent is `none` and one sent as null is `some none`.
structure VariantChanges where
  name : Option (Option String)
  description : Option (Option String)
  weight : Option (Option Weight)
  config : Option (Option Json.Members)

def VariantChanges.form : Form VariantChanges :=
  mk <$> sent "name" text <*> sent "description" text <*> sent "weight" Entry.weight <*> sent "config" map

def VariantChanges.fields (c : VariantChanges) : Json.Members :=
  [("name", Json.ofText c.name.join), ("description", Json.ofText c.description.join),
    ("weight", Json.ofOption (fun w => .int w.val) c.weight.join), ("config", Json.ofMembers c.config.join)]

def ofTime (t : Option Dated) : Json := Json.ofOption (fun t => .string t.text) t

structure ExperimentDraft where
  key : Key
  name : String
  description : Option String
  category : Category
  traffic : Share
  targeting : Json.Members
  startAt : Option Dated
  endAt : Option Dated
  metadata : Json.Members

def ExperimentDraft.form : Form ExperimentDraft :=
  mk <$> required "key" Entry.key <*> required "name" text <*> optional "description" text <*>
    defaulting "type" .feature (listed Category.ofName?) <*>
    defaulting "traffic_allocation" Share.all Entry.share <*> defaulting "targeting_rules" [] map <*>
    optional "start_at" time <*> optional "end_at" time <*> defaulting "metadata" [] map

def ExperimentDraft.fields (d : ExperimentDraft) : Json.Members :=
  [("key", .string d.key.val), ("name", .string d.name), ("description", Json.ofText d.description),
    ("type", .string d.category.name), ("traffic_allocation", .int d.traffic.val),
    ("targeting_rules", .object d.targeting), ("start_at", ofTime d.startAt), ("end_at", ofTime d.endAt),
    ("metadata", .object d.metadata)]

structure ExperimentChanges where
  name : Option (Option String)
  description : Option (Option String)
  traffic : Option (Option Share)
  targeting : Option (Option Json.Members)
  startAt : Option (Option Dated)
  endAt : Option (Option Dated)
  metadata : Option (Option Json.Members)

def ExperimentChanges.form : Form ExperimentChanges :=
  mk <$> sent "name" text <*> sent "description" text <*>
    sent "traffic_allocation" Entry.share <*> sent "targeting_rules" map <*>
    sent "start_at" time <*> sent "end_at" time <*> sent "metadata" map

def ExperimentChanges.fields (c : ExperimentChanges) : Json.Members :=
  [("name", Json.ofText c.name.join), ("description", Json.ofText c.description.join),
    ("traffic_allocation", Json.ofOption (fun n => .int n.val) c.traffic.join),
    ("targeting_rules", Json.ofMembers c.targeting.join), ("start_at", ofTime c.startAt.join),
    ("end_at", ofTime c.endAt.join), ("metadata", Json.ofMembers c.metadata.join)]

structure Conclusion where
  winner : Option String

def Conclusion.form : Form Conclusion := mk <$> optional "winning_variant_id" text

def Conclusion.fields (c : Conclusion) : Json.Members := [("winning_variant_id", Json.ofText c.winner)]

structure VariantFigures where
  variant : String
  key : String
  isControl : Bool
  assignments : Int
  exposures : Int
  conversions : Int
  rate : Float
  value : Float

def VariantFigures.form : Form VariantFigures :=
  mk <$> required "variant_id" text <*> required "variant_key" text <*> required "is_control" flag <*>
    required "assignments" whole <*> required "exposures" whole <*> required "conversions" whole <*>
    required "conversion_rate" real <*> required "total_conversion_value" real

def VariantFigures.fields (f : VariantFigures) : Json.Members :=
  [("variant_id", .string f.variant), ("variant_key", .string f.key), ("is_control", .bool f.isControl),
    ("assignments", .int f.assignments), ("exposures", .int f.exposures), ("conversions", .int f.conversions),
    ("conversion_rate", .float f.rate), ("total_conversion_value", .float f.value)]

end Cohort
