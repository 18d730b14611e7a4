import Cohort.Conversion
import Cohort.Decision
import Cohort.Store.Kinds

-- Requests with half of a surrogate pair in one of their texts. Such a text is equal to no text and can be stored
-- nowhere, so a request goes as far as it can without it and fails where the store would first see it.
namespace Cohort.Garbled

def labelNames : List String := ["name", "description"]

def identifierNames : List String := [.customer, .session, .user].map IdentifierKind.field

def namesIn (names : List String) (data : Json) : List String :=
  names.filter fun name => Form.isHalved name (data.members?.getD [])

def textIn (name : String) (data : Json) : RawText :=
  match Json.field name (data.members?.getD []) with
  | .string s => s
  | _ => ""

def leading? (subject : Subject) : Option String := subject.identifiers.head?.map (·.1.field)

def fingerprint : RawText → Except Fault Nat
  | .whole s => .ok (Digest.fingerprint s)
  | .halved _ => .error .halfCharacter

def inTraffic (key : RawText) (allocation : Int) (subject : RawText) : Except Fault Bool :=
  match key, subject with
  | .whole key, .whole subject => .ok (Bucket.inTraffic key allocation subject)
  | _, _ => if 100 ≤ allocation then .ok true else .error .halfCharacter

def select (weight : α → Int) (items : List α) (key subject : RawText) : Except Fault α :=
  match key, subject with
  | .whole key, .whole subject => Bucket.select weight items key subject
  | _, _ => .error (if items.isEmpty then .noVariants else .halfCharacter)

-- Traffic is asked only if the identifier that it looks at is whole; the rows are never found.
def settle (visit : Visit) (garbled : List String) (s : Store) (e : Experiment) : Visit.Answer :=
  if e.status ≠ .running then .ok (Visit.closed s e)
  else do
    if !(← e.admits visit.attributes) then return none
    else
      match visit.subject.bucketId, leading? visit.subject with
      | some id, some name =>
        let inside ← e.letsIn id
        if !garbled.contains name && !inside then return none else .error .halfCharacter
      | _, _ => .error .halfCharacter

def assign (visit : Visit) (garbled : List String) (key : String) (s : Store) : Visit.Answer :=
  match s.experimentByKey? visit.workspace key with
  | some e => settle visit garbled s e
  | none => .ok none

-- Experiments that are closed to the subject are passed over, and none of the others is decided.
def assignAll (visit : Visit) (garbled : List String) (s : Store) : Except Fault (List Decision) :=
  ((s.list visit.workspace ⟨some .running, none, false⟩).mapM (settle visit garbled s)).map (·.filterMap id)

def convert (workspace key : String) (s : Store) : Except Fault Bool :=
  match s.experimentByKey? workspace key with
  | some _ => .error .halfCharacter
  | none => .ok false

def create (s : Store) (workspace : String) (draft : ExperimentDraft) : Fault × Store :=
  if (s.experimentByKey? workspace draft.key.val).isSome then (.keyTaken draft.key.val, s)
  else (.halfCharacter, s.draw)

def addVariant (s : Store) (workspace id : String) (draft : VariantDraft) : Fault × Store :=
  match Catalogue.get s workspace id with
  | .error fault => (fault, s)
  | .ok v =>
    if v.experiment.status ≠ .draft then (.addingOutsideDraft, s)
    else if v.variants.any (·.key = draft.key.val) then (.variantKeyTaken draft.key.val, s)
    else (.halfCharacter, s.draw)

def update (s : Store) (workspace id : String) : Fault :=
  match Catalogue.get s workspace id with
  | .error fault => fault
  | .ok _ => .halfCharacter

def pin (s : Store) (workspace id : String) (variant : RawText) : Fault :=
  match Catalogue.get s workspace id with
  | .error fault => fault
  | .ok v =>
    match variant with
    | .whole name => if (v.variant? name).isSome then .halfCharacter else .unknownVariant variant
    | .halved _ => .unknownVariant variant

def updateVariant (s : Store) (workspace id : String) (variant : RawText) : Fault :=
  match Catalogue.get s workspace id, variant with
  | .error fault, _ => fault
  | .ok v, .whole name => if (v.variant? name).isSome then .halfCharacter else .unknownVariant variant
  | .ok _, .halved _ => .unknownVariant variant

def deleteVariant (s : Store) (workspace id : String) (variant : RawText) : Fault :=
  match Catalogue.get s workspace id with
  | .error fault => fault
  | .ok v => if v.experiment.status ≠ .draft then .deletingOutsideDraft else .unknownVariant variant

def conclude (s : Store) (workspace id : String) (winner : RawText) : Fault :=
  match Catalogue.get s workspace id with
  | .error fault => fault
  | .ok v =>
    match Catalogue.moved v.experiment .conclude with
    | .error fault => fault
    | .ok _ => .foreignWinner winner

def find (s : Store) (experiment : RawText) (subject : Subject) (garbled : List String) :
    Except Fault (Option Assignment) :=
  if !subject.hasIdentifier then .ok none
  else
    match experiment, garbled with
    | .whole experiment, [] => .ok (s.find? experiment subject)
    | _, _ => .error .halfCharacter

def rows (s : Store) : RawText → Except Fault (List Assignment)
  | .whole experiment => .ok (s.rowsOf experiment)
  | .halved _ => .error .halfCharacter

def createIfAbsent (s : Store) (now : Moment) (workspace experiment variant : RawText) (subject : Subject)
    (garbled : List String) : Outcome (Assignment × Bool) :=
  match workspace, experiment, variant, garbled with
  | .whole workspace, .whole experiment, .whole variant, [] =>
    s.createIfAbsent now workspace experiment variant subject
  | _, _, _, _ => (.error .halfCharacter, s.draw)

def recordExposure (s : Store) (now : Moment) : RawText → Outcome Unit
  | .whole id => Outcome.attempt s ((s.recordExposure now id).map fun s' => ((), s'))
  | .halved _ => (.error .halfCharacter, s)

-- The value is turned into a number before the store sees anything.
def markConverted (s : Store) (now : Moment) (id : RawText) (value metadata : Json) : Outcome Bool :=
  Outcome.attempt s do
    let x ← Store.asReal value
    match id with
    | .whole id => s.markConverted now id x metadata
    | .halved _ => .error .halfCharacter

def insert (s : Store) (workspace : RawText) (now : Moment) (draft : ExperimentDraft) (garbled : List String) :
    Outcome ExperimentView :=
  match workspace, garbled with
  | .whole workspace, [] => Catalogue.insert s workspace now draft
  | _, _ => (.error .halfCharacter, s.draw)

def insertVariantOf (s : Store) (workspace : RawText) (now : Moment) (id : RawText) (draft : VariantDraft)
    (garbled : List String) : Outcome Variant :=
  match workspace, id, garbled with
  | .whole workspace, .whole id, [] => Catalogue.insertVariantOf s workspace now id draft
  | .whole workspace, .whole id, _ =>
    match s.experiment? workspace id with
    | some _ => (.error .halfCharacter, s.draw)
    | none => (.error .noSuchRow, s)
  | _, _, _ => (.error .halfCharacter, s)

end Cohort.Garbled
