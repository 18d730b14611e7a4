import Cohort.Garbled
import Cohort.Render

namespace Cohort

inductive Operation where
  | create (draft : ExperimentDraft)
  | get (id : String)
  | getByKey (key : String)
  | list (filter : Store.Filter)
  | update (id : String) (changes : ExperimentChanges)
  | start (id : String)
  | pause (id : String)
  | conclude (id : String) (winner : Option String)
  | archive (id : String)
  | addVariant (id : String) (draft : VariantDraft)
  | updateVariant (id variant : String) (changes : VariantChanges)
  | deleteVariant (id variant : String)
  | assign (key : String) (request : DecisionRequest)
  | assignAll (request : DecisionRequest)
  | pin (id : String) (request : PinRequest)
  | convert (key : String) (report : ConversionReport)
  | statistics (id : String)

inductive Answer where
  | experiment (view : ExperimentView)
  | experiments (views : List ExperimentView)
  | variant (variant : Variant)
  | done
  | decision (decision : Option Decision)
  | decisions (decisions : List Decision)
  | recorded (recorded : Bool)
  | statistics (statistics : Statistics)

def Answer.render : Answer → Except Fault Json
  | .experiment v => v.render
  | .experiments vs => (vs.mapM ExperimentView.render).map .array
  | .variant v => v.render
  | .done => .ok .null
  | .decision none => .ok .null
  | .decision (some d) => d.render
  | .decisions ds => (ds.mapM Decision.render).map .array
  | .recorded b => .ok (.bool b)
  | .statistics t => .ok t.json

namespace Operation

def visitOf (workspace : String) (now : Moment) (request : DecisionRequest) : Visit :=
  ⟨workspace, now, request.subject, request.attributes⟩

def run (workspace : String) (now : Moment) (s : Store) : Operation → Outcome Answer
  | .create draft => (Catalogue.create s workspace now draft).map .experiment
  | .get id => ((Catalogue.get s workspace id).map .experiment, s)
  | .getByKey key => ((Catalogue.getByKey s workspace key).map .experiment, s)
  | .list filter => (.ok (.experiments (Catalogue.list s workspace filter)), s)
  | .update id changes => (Catalogue.update s workspace now id changes).map .experiment
  | .start id => (Catalogue.start s workspace now id).map .experiment
  | .pause id => (Catalogue.pause s workspace now id).map .experiment
  | .conclude id winner => (Catalogue.conclude s workspace now id winner).map .experiment
  | .archive id => (Catalogue.archive s workspace now id).map .experiment
  | .addVariant id draft => (Catalogue.addVariant s workspace now id draft).map .variant
  | .updateVariant id variant changes => (Catalogue.updateVariant s workspace now id variant changes).map .variant
  | .deleteVariant id variant => (Catalogue.deleteVariant s workspace id variant).map fun _ => .done
  | .assign key request => (Decision.assign (visitOf workspace now request) key s).map .decision
  | .assignAll request => (Decision.assignAll (visitOf workspace now request) s).map .decisions
  | .pin id request => (Decision.pin s workspace now id request).map fun d => .decision (some d)
  | .convert key report => (Conversion.record ⟨workspace, now, report⟩ key s).map .recorded
  | .statistics id => ((Statistics.of s workspace id).map .statistics, s)

def textNames : Operation → List String
  | .create _ | .update _ _ | .addVariant _ _ | .updateVariant _ _ _ => Garbled.labelNames
  | .conclude _ _ => ["winning_variant_id"]
  | .assign _ _ | .assignAll _ | .convert _ _ => Garbled.identifierNames
  | .pin _ _ => "variant_id" :: Garbled.identifierNames
  | _ => []

structure Address where
  workspace : RawText
  experiment : RawText := ""
  variant : RawText := ""

-- Nothing is found in a workspace or an experiment by such a name; a conversion asks for its subject first.
def lost : Operation → Fault
  | .convert _ report => if report.subject.hasIdentifier then .halfCharacter else .noSubject .conversion
  | _ => .halfCharacter

def runGarbled (workspace : String) (now : Moment) (variant : RawText) (data : Json) (garbled : List String)
    (s : Store) : Operation → Outcome Answer
  | .create draft =>
    let (fault, s') := Garbled.create s workspace draft
    (.error fault, s')
  | .update id _ => (.error (Garbled.update s workspace id), s)
  | .conclude id _ => (.error (Garbled.conclude s workspace id (Garbled.textIn "winning_variant_id" data)), s)
  | .addVariant id draft =>
    let (fault, s') := Garbled.addVariant s workspace id draft
    (.error fault, s')
  | .updateVariant id name _ =>
    (.error (Garbled.updateVariant s workspace id (if variant.isWhole then name else variant)), s)
  | .deleteVariant id _ => (.error (Garbled.deleteVariant s workspace id variant), s)
  | .assign key request => ((Garbled.assign (visitOf workspace now request) garbled key s).map .decision, s)
  | .assignAll request => ((Garbled.assignAll (visitOf workspace now request) garbled s).map .decisions, s)
  | .pin id _ => (.error (Garbled.pin s workspace id (Garbled.textIn "variant_id" data)), s)
  | .convert key _ => ((Garbled.convert workspace key s).map .recorded, s)
  | operation => operation.run workspace now s

def runSent (address : Address) (now : Moment) (data : Json) (s : Store) (operation : Operation) : Outcome Answer :=
  match address.workspace, address.experiment.isWhole with
  | .whole workspace, true =>
    match Garbled.namesIn operation.textNames data, address.variant.isWhole with
    | [], true => operation.run workspace now s
    | garbled, _ => operation.runGarbled workspace now address.variant data garbled s
  | _, _ => (.error operation.lost, s)

end Operation
end Cohort
