import Cohort.Fault
import Cohort.Store.Basic

namespace Cohort

abbrev Outcome (α : Type) := Except Fault α × Store

namespace Outcome

-- Work that fails leaves the store it began with.
def attempt (s : Store) : Except Fault (α × Store) → Outcome α
  | .ok (a, s') => (.ok a, s')
  | .error fault => (.error fault, s)

def map (f : α → β) (o : Outcome α) : Outcome β := (o.1.map f, o.2)

@[simp] theorem attempt_ok {a : α} {s s' : Store} : attempt s (.ok (a, s')) = (.ok a, s') := rfl
@[simp] theorem attempt_error {fault : Fault} {s : Store} :
    attempt s (.error fault : Except Fault (α × Store)) = (.error fault, s) := rfl

theorem attempt_store_of_error {work : Except Fault (α × Store)} {s : Store} {fault : Fault}
    (h : (attempt s work).1 = .error fault) : (attempt s work).2 = s := by
  cases work with
  | ok p => cases h
  | error e => rfl

theorem map_ok {f : α → β} {o : Outcome α} {b : β} (answered : (o.map f).1 = .ok b) :
    ∃ a, o.1 = .ok a ∧ f a = b := by
  cases o with
  | mk answer s =>
    cases answer with
    | error fault => cases answered
    | ok a => exact ⟨a, rfl, Except.ok.inj answered⟩

theorem map_isOk (f : α → β) (o : Outcome α) : (o.map f).1.isOk = o.1.isOk := by
  cases o with
  | mk answer s => cases answer <;> rfl

end Outcome
end Cohort
