import Cohort.Form.Basic
import Cohort.Json.Spelled
import Cohort.Lifecycle

namespace Cohort

inductive Violation where
  | repeated (columns : List String)
  | absent (column : String)
deriving DecidableEq, Repr

def Violation.message : Violation → String
  | .repeated columns => "UNIQUE constraint failed: " ++ ", ".intercalate columns
  | .absent column => "NOT NULL constraint failed: " ++ column

inductive Purpose where
  | assignment
  | override
  | conversion
deriving DecidableEq, Repr

def Purpose.phrase : Purpose → String
  | .assignment => "for assignment"
  | .override => "for an override"
  | .conversion => "for a conversion"

inductive Vocabulary where
  | status
  | action
  | category
deriving DecidableEq, Repr

def Vocabulary.name : Vocabulary → String
  | .status => "ExperimentStatus"
  | .action => "ExperimentAction"
  | .category => "ExperimentType"

inductive Fault where
  | unknownExperiment (id : String)
  | unknownKey (key : String)
  | unknownVariant (id : RawText)
  | keyTaken (key : String)
  | variantKeyTaken (key : String)
  | clashingUpdate (violation : Violation)
  | illegalAction (action : Action) (status : Status)
  | tooFewVariants
  | addingOutsideDraft
  | deletingOutsideDraft
  | foreignWinner (id : RawText)
  | noSubject (purpose : Purpose)
  | refused (complaints : List Complaint)
  | violates (violation : Violation)
  | readOnly
  | beyondWord
  -- half of a surrogate pair in a text that is to be compared or stored
  | halfCharacter
  | wrongKind
  | notPlain
  -- what a service never runs into unless rows were written around it
  | noVariants
  | noWeight
  | noSuchRow
  | nothingLoaded
  | unreadableRow
  | noRules
  | noShare
  | unlisted (vocabulary : Vocabulary) (word : Json)
  | tooDeep
  | noAddress
  | foreignLetter

namespace Fault

inductive Kind where
  | notFound
  | conflict
  | invalidState
  | subjectRequired
  | refused
  | store
  | overflow
  | value
  | division
  | integrity
  | reference
  | unloaded
  | encoding
  | conversion
  | binding
  | comparison
  | lookup
  | address
deriving DecidableEq, Repr

def kind : Fault → Kind
  | unknownExperiment _ | unknownKey _ | unknownVariant _ => .notFound
  | keyTaken _ | variantKeyTaken _ | clashingUpdate _ => .conflict
  | illegalAction _ _ | tooFewVariants | addingOutsideDraft | deletingOutsideDraft | foreignWinner _ => .invalidState
  | noSubject _ => .subjectRequired
  | refused _ => .refused
  | violates _ => .integrity
  | readOnly => .store
  | beyondWord => .overflow
  | halfCharacter | foreignLetter => .encoding
  | wrongKind => .conversion
  | notPlain => .binding
  | noVariants | unlisted _ _ | tooDeep => .value
  | noWeight => .division
  | noSuchRow | noRules => .reference
  | noShare => .comparison
  | unreadableRow => .lookup
  | nothingLoaded => .unloaded
  | noAddress => .address

def leastVariants : Nat := 2

def message : Fault → RawText
  | unknownExperiment id => "Experiment " ++ id ++ " not found"
  | unknownKey key => "Experiment with key '" ++ key ++ "' not found"
  | unknownVariant id => "Variant " ++ id ++ " not found"
  | keyTaken key => "Experiment with key '" ++ key ++ "' already exists"
  | variantKeyTaken key => "Variant with key '" ++ key ++ "' already exists"
  | clashingUpdate violation => "Update violates a uniqueness rule: " ++ violation.message
  | illegalAction action status => "Cannot " ++ action.name ++ " experiment in status '" ++ status.name ++ "'"
  | tooFewVariants => "Experiment must have at least " ++ Text.decimal leastVariants ++ " variants to start"
  | addingOutsideDraft => "Cannot add variants to a non-draft experiment"
  | deletingOutsideDraft => "Cannot delete variants from a non-draft experiment"
  | foreignWinner id => "Variant " ++ id ++ " not found in experiment"
  | noSubject purpose => "Must provide customer_id, session_id, or user_id " ++ purpose.phrase
  | refused _ => "the request is not well formed"
  | violates violation => violation.message
  | readOnly => "the store takes no writes"
  | beyondWord => "the number does not fit a signed word of 64 bits"
  | halfCharacter => "half of a surrogate pair is no character"
  | wrongKind => "the column holds no such values"
  | notPlain => "the column holds one plain value"
  | noVariants => "Cannot select a variant from an empty list"
  | noWeight => "integer modulo by zero"
  | noSuchRow => "the row referred to does not exist"
  | nothingLoaded => "there is no row to be written"
  | unreadableRow => "a word of the row is in no list"
  | noRules => "the rules are no object"
  | noShare => "the share is no number"
  | unlisted vocabulary word => Spelled.value word ++ " is not a valid " ++ vocabulary.name
  | tooDeep => "Maximum serialization depth exceeded"
  | noAddress => "the target is no address"
  | foreignLetter => "a header holds a letter that headers do not have"

end Fault
end Cohort
