import Cohort.Order
import Cohort.Store.Row
import Cohort.Text.Letters

-- The stored rows, oldest first, and what is read from them.
namespace Cohort

structure Store where
  experiments : List Experiment
  variants : List Variant
  assignments : List Assignment
  drawn : Nat
  writable : Bool

structure ExperimentView where
  experiment : Experiment
  variants : List Variant

namespace Store

def empty : Store := ⟨[], [], [], 0, true⟩

def idOf (n : Nat) : String := "id-" ++ Text.decimal n

-- The id that the next row gets; it stays given out even if the row is refused.
def nextId (s : Store) : String := idOf (s.drawn + 1)

def draw (s : Store) : Store := { s with drawn := s.drawn + 1 }

def experiment? (s : Store) (workspace id : String) : Option Experiment :=
  s.experiments.find? fun e => e.id = id && e.workspace = workspace

def experimentByKey? (s : Store) (workspace key : String) : Option Experiment :=
  s.experiments.find? fun e => e.workspace = workspace && e.key = key

def variantsOf (s : Store) (experiment : String) : List Variant :=
  Order.arrange (fun a b => a.position < b.position) (s.variants.filter (·.experiment = experiment))

def variant? (s : Store) (id : String) : Option Variant := s.variants.find? (·.id = id)

def view (s : Store) (e : Experiment) : ExperimentView := ⟨e, s.variantsOf e.id⟩

def view? (s : Store) (workspace id : String) : Option ExperimentView :=
  (s.experiment? workspace id).map s.view

def viewByKey? (s : Store) (workspace key : String) : Option ExperimentView :=
  (s.experimentByKey? workspace key).map s.view

def rowsOf (s : Store) (experiment : String) : List Assignment :=
  s.assignments.filter (·.experiment = experiment)

def assignment? (s : Store) (id : String) : Option Assignment := s.assignments.find? (·.id = id)

def find? (s : Store) (experiment : String) (subject : Subject) : Option Assignment :=
  if subject.hasIdentifier then
    Order.first? Assignment.precedes ((s.rowsOf experiment).filter (·.standsFor subject))
  else none

structure Filter where
  status : Option Status
  category : Option Category
  archivedToo : Bool

-- A status asked for shows archived experiments if it is theirs, whatever else is said.
def Filter.admits (f : Filter) (e : Experiment) : Bool :=
  (match f.status with
    | some status => e.status = status
    | none => f.archivedToo || e.status ≠ .archived) &&
  f.category.all (e.category = ·)

def list (s : Store) (workspace : String) (f : Filter) : List Experiment :=
  Order.arrange (fun a b => b.createdAt < a.createdAt)
    (s.experiments.filter fun e => e.workspace = workspace && f.admits e)

end Store

def ExperimentView.variant? (v : ExperimentView) (id : String) : Option Variant := v.variants.find? (·.id = id)

end Cohort
