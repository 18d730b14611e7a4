import Cohort.Catalogue
import Cohort.Decimal.Quotient

namespace Cohort

structure Tally where
  assignments : Nat
  exposures : Nat
  conversions : Nat
  value : Float

structure Statistics where
  experiment : String
  overall : Tally
  variants : List (Variant × Tally)

namespace Tally

def isExposed (row : Assignment) : Bool := 0 < row.exposures

def isConverted (row : Assignment) : Bool := row.convertedAt.isSome

-- Values are added in the order of the rows, from zero on; a row without a value adds zero.
def sum (rows : List Assignment) : Float := rows.foldl (fun x row => x + row.value.getD 0.0) 0.0

def of (rows : List Assignment) : Tally where
  assignments := rows.length
  exposures := rows.countP isExposed
  conversions := rows.countP isConverted
  value := sum rows

def rate (t : Tally) : Float :=
  if t.exposures = 0 then 0.0 else Decimal.quotient t.conversions t.exposures

end Tally

namespace Statistics

def ofRows (v : ExperimentView) (rows : List Assignment) : Statistics where
  experiment := v.experiment.id
  overall := Tally.of rows
  variants := v.variants.map fun variant => (variant, Tally.of (rows.filter (·.variant = variant.id)))

def of (s : Store) (workspace id : String) : Except Fault Statistics := do
  let v ← Catalogue.get s workspace id
  return ofRows v (s.rowsOf id)

def figures (entry : Variant × Tally) : VariantFigures where
  variant := entry.1.id
  key := entry.1.key
  isControl := entry.1.isControl
  assignments := entry.2.assignments
  exposures := entry.2.exposures
  conversions := entry.2.conversions
  rate := entry.2.rate
  value := entry.2.value

end Statistics
end Cohort
