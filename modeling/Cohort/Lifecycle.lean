namespace Cohort

inductive Status where
  | draft
  | running
  | paused
  | concluded
  | archived
deriving DecidableEq, Repr, Inhabited

def Status.all : List Status := [.draft, .running, .paused, .concluded, .archived]

def Status.name : Status → String
  | .draft => "draft"
  | .running => "running"
  | .paused => "paused"
  | .concluded => "concluded"
  | .archived => "archived"

def Status.ofName? (name : String) : Option Status := Status.all.find? (·.name = name)

inductive Action where
  | start
  | pause
  | conclude
  | archive
deriving DecidableEq, Repr

def Action.all : List Action := [.start, .pause, .conclude, .archive]

def Action.name : Action → String
  | .start => "start"
  | .pause => "pause"
  | .conclude => "conclude"
  | .archive => "archive"

def Action.ofName? (name : String) : Option Action := Action.all.find? (·.name = name)

inductive Category where
  | feature
  | pricing
  | ui
  | funnel
deriving DecidableEq, Repr, Inhabited

def Category.all : List Category := [.feature, .pricing, .ui, .funnel]

def Category.name : Category → String
  | .feature => "feature"
  | .pricing => "pricing"
  | .ui => "ui"
  | .funnel => "funnel"

def Category.ofName? (name : String) : Option Category := Category.all.find? (·.name = name)

namespace Lifecycle

-- Archiving is the one action that every stage allows, archived experiments included.
def allows : Action → Status → Bool
  | .start, s => s = .draft || s = .paused
  | .pause, s => s = .running
  | .conclude, s => s = .running || s = .paused
  | .archive, _ => true

def target : Action → Status
  | .start => .running
  | .pause => .paused
  | .conclude => .concluded
  | .archive => .archived

def next? (status : Status) (action : Action) : Option Status :=
  if allows action status then some (target action) else none

inductive Moves : Status → Status → Prop where
  | start : Moves .draft .running
  | pause : Moves .running .paused
  | resume : Moves .paused .running
  | concludeRunning : Moves .running .concluded
  | concludePaused : Moves .paused .concluded
  | archive (status : Status) : Moves status .archived

theorem next_exact {before after : Status} :
    (∃ action, next? before action = some after) ↔ Moves before after := by
  constructor
  · rintro ⟨action, h⟩
    cases before <;> cases action <;> simp [next?, allows, target] at h <;> subst h <;> constructor
  · intro h
    cases h with
    | start => exact ⟨.start, rfl⟩
    | pause => exact ⟨.pause, rfl⟩
    | resume => exact ⟨.start, rfl⟩
    | concludeRunning => exact ⟨.conclude, rfl⟩
    | concludePaused => exact ⟨.conclude, rfl⟩
    | archive => exact ⟨.archive, by cases before <;> rfl⟩

end Lifecycle
end Cohort
