import Cohort.Proofs.Decisions

-- How a running experiment comes to a decision, and what the decision leaves behind.
namespace Cohort

namespace Visit
variable {s : Store} {visit : Visit} {e : Experiment}

-- The row that stands for the subject is shown and counted once more; for a subject without a row one is drawn.
inductive Decides (visit : Visit) (s : Store) (e : Experiment) : Decision → Store → Prop where
  | seen (row : Assignment) (v : Variant) (found : s.find? e.id visit.subject = some row) (present : v ∈ s.variants)
      (named : v.id = row.variant) :
      Decides visit s e (Decision.of e v row.id false) ((Act.expose row.id).apply visit.workspace visit.now s)
  | drawn (v : Variant) (key : String) (missing : s.find? e.id visit.subject = none) (present : v ∈ s.variants)
      (own : v.experiment = e.id) (kept : visit.subject.key = some key) (free : s.Free (visit.row s e v key)) :
      Decides visit s e (Decision.of e v s.nextId true)
        ((Act.draw e.id v.id visit.subject key).apply visit.workspace visit.now s)

theorem settle_shown (visit : Visit) (sound : s.Sound) {row : Assignment} (present : row ∈ s.assignments) :
    ∃ v ∈ s.variants, v.id = row.variant ∧ visit.settle (.exposing e row) s =
      (.ok (some (Decision.of e v row.id false)), (Act.expose row.id).apply visit.workspace visit.now s) := by
  obtain ⟨v, there, named, _⟩ := (sound.refers row present).variant
  refine ⟨v, there, named, ?_⟩
  rw [settle_advance rfl]
  have shown : visit.advance (.exposing e row) s = _ := expose_shown sound there named.symm
  rw [shown, settle_settled]
  rfl

-- After a refused insert the look-up finds as little as before.
theorem settle_refetching (missing : s.find? e.id visit.subject = none) (violation : Violation) :
    visit.settle (.refetching e violation) s = (.error (.violates violation), s) := by
  rw [settle_advance rfl]
  have nothing : visit.advance (.refetching e violation) s = (.settled (.error (.violates violation)), s) := by
    show visit.refetch e violation s = _
    simp only [refetch, missing]
  rw [nothing, settle_settled]

inductive Leaves (visit : Visit) (s : Store) (e : Experiment) : Outcome (Option Decision) → Prop where
  | closed (stage : e.status ≠ .running) : Leaves visit s e (.ok (closed s e), s)
  | undecided (answer : Answer) (none : ∀ decision, answer ≠ .ok (some decision)) : Leaves visit s e (answer, s)
  | refused (fault : Fault) : Leaves visit s e (.error fault, s.draw)
  | decided (decision : Decision) (next : Store) (decides : visit.Decides s e decision next) :
      Leaves visit s e (.ok (some decision), next)

theorem inserting_leaves {v : Variant} (missing : s.find? e.id visit.subject = none) (there : v ∈ s.variants)
    (own : v.experiment = e.id) : visit.Leaves s e (visit.settle (.inserting e v) s) := by
  rw [settle_advance rfl]
  have advanced : visit.advance (.inserting e v) s = visit.insert e v s := rfl
  rw [advanced, insert]
  cases added : s.addDrawn visit.now visit.workspace e.id v.id visit.subject with
  | mk answer after =>
    rcases Store.addSubject_exact added with ⟨fault, refused⟩ | ⟨key, kept, free, stored⟩
    · cases refused
      cases fault with
      | violates violation =>
        have still : s.draw.find? e.id visit.subject = none := missing
        simp only [settle_refetching still]
        exact .refused _
      | _ =>
        simp only [settle_settled]
        exact .refused _
    · cases stored
      simp only [settle_settled]
      exact .decided _ _ (.drawn v key missing there own kept free)

theorem settle_leaves (visit : Visit) (e : Experiment) (sound : s.Sound) :
    visit.Leaves s e (visit.settle (visit.enter s e) s) := by
  have enters := visit.enter_enters s e
  generalize visit.enter s e = turn at enters
  cases enters with
  | closed stage =>
    rw [settle_settled]
    exact .closed stage
  | undecided answer none =>
    rw [settle_settled]
    exact .undecided answer none
  | @found row _ found =>
    obtain ⟨v, there, named, settled⟩ := settle_shown visit sound (Store.find?_some found).1
    rw [settled]
    exact .decided _ _ (.seen row v found there named)
  | @drawn v _ missing member =>
    obtain ⟨there, own⟩ := Store.mem_variantsOf.mp member
    exact inserting_leaves missing there own

theorem settle_decides (sound : s.Sound) (running : e.status = .running) {decision : Decision} {next : Store}
    (decided : visit.settle (visit.enter s e) s = (.ok (some decision), next)) : visit.Decides s e decision next := by
  have leaves := visit.settle_leaves e sound
  rw [decided] at leaves
  generalize outcome : ((.ok (some decision), next) : Outcome (Option Decision)) = answered at leaves
  cases leaves with
  | closed stage => exact absurd running stage
  | undecided answer none =>
    cases outcome
    exact absurd rfl (none decision)
  | refused fault => cases outcome
  | decided decision' next' decides =>
    cases outcome
    exact decides

end Visit

structure Store.Backs (s : Store) (e : Experiment) (row : Assignment) (decision : Decision) : Prop where
  present : row ∈ s.assignments
  experiment : row.experiment = e.id
  id : decision.assignment = row.id
  variant : ∃ v ∈ s.variants, v.id = row.variant ∧ v.experiment = e.id ∧ v.key = decision.variant

theorem Visit.Decides.backed {visit : Visit} {s next : Store} {e : Experiment} {decision : Decision}
    (decides : visit.Decides s e decision next) (sound : s.Sound) :
    ∃ row, next.Backs e row decision ∧ (decision.isNew = true → row.subject = visit.subject) := by
  cases decides with
  | seen row v found there named =>
    obtain ⟨present, own, _⟩ := Store.find?_some found
    obtain ⟨w, there', named', own'⟩ := (sound.refers row present).variant
    obtain rfl : w = v := sound.same_variant there' there (named'.trans named.symm)
    refine ⟨Store.exposed visit.now row, ⟨?_, own, rfl, w, there, named, own'.trans own, rfl⟩, nofun⟩
    exact List.mem_map.mpr ⟨row, present, if_pos rfl⟩
  | drawn v key missing there own kept free =>
    have added : visit.row s e v key ∈ s.assignments ++ [visit.row s e v key] :=
      List.mem_append_right _ (List.mem_singleton_self _)
    exact ⟨visit.row s e v key, ⟨added, rfl, rfl, v, there, rfl, own, rfl⟩, fun _ => rfl⟩

namespace Store
variable {s : Store} {now : Moment} {e : Experiment} {request : DecisionRequest} {decision : Decision}

structure Serves (s : Store) (now : Moment) (e : Experiment) (request : DecisionRequest) (decision : Decision) :
    Prop where
  present : e ∈ s.experiments
  running : e.status = .running
  decided : (Operation.run e.workspace now s (.assign e.key request)).1 = .ok (.decision (some decision))

theorem Serves.launched (serves : s.Serves now e request decision) : s.Launched e.workspace e.id :=
  ⟨e, serves.present, rfl, rfl, by simp [serves.running]⟩

theorem Serves.decides (serves : s.Serves now e request decision) (sound : s.Sound) :
    (Operation.visitOf e.workspace now request).Decides s e decision
      (Operation.run e.workspace now s (.assign e.key request)).2 := by
  have looked : Decision.assign (Operation.visitOf e.workspace now request) e.key s =
      (Operation.visitOf e.workspace now request).settle
        ((Operation.visitOf e.workspace now request).enter s e) s := by
    rw [Decision.assign_looks, Visit.look_known sound serves.present rfl]
  obtain ⟨served, answered, same⟩ := Outcome.map_ok serves.decided
  cases same
  rw [looked] at answered
  simp only [Operation.run, looked, Outcome.map]
  exact Visit.settle_decides sound serves.running (Prod.ext answered rfl)

-- Which row and which variant an operation shows, and whether the row is new.
def shows (s : Store) (workspace : String) (now : Moment) (operation : Operation) : Option (String × String × Bool) :=
  match (operation.run workspace now s).1 with
  | .ok (.decision (some decision)) => some (decision.assignment, decision.variant, decision.isNew)
  | _ => none

theorem shows_exact {workspace row variant : String} {operation : Operation} {isNew : Bool} :
    s.shows workspace now operation = some (row, variant, isNew) ↔
      ∃ decision : Decision, (operation.run workspace now s).1 = .ok (.decision (some decision)) ∧
        decision.assignment = row ∧ decision.variant = variant ∧ decision.isNew = isNew := by
  unfold shows
  constructor
  · intro shown
    split at shown
    · rename_i decision answered
      cases shown
      exact ⟨decision, answered, rfl, rfl, rfl⟩
    · cases shown
  · rintro ⟨decision, answered, rfl, rfl, rfl⟩
    rw [answered]

theorem Serves.of_shows (present : e ∈ s.experiments) {workspace key row variant : String} {isNew : Bool}
    (own : e.workspace = workspace) (named : e.key = key) (running : e.status = .running)
    (shown : s.shows workspace now (.assign key request) = some (row, variant, isNew)) :
    ∃ decision, s.Serves now e request decision ∧ decision.assignment = row ∧ decision.variant = variant ∧
      decision.isNew = isNew := by
  subst own named
  obtain ⟨decision, answered, facts⟩ := shows_exact.mp shown
  exact ⟨decision, ⟨present, running, answered⟩, facts⟩

theorem Serves.shown (serves : s.Serves now e request decision) (sound : s.Sound) {row : Assignment}
    (found : s.find? e.id request.subject = some row) : decision.assignment = row.id ∧ decision.isNew = false ∧
      ∃ v ∈ s.variants, v.id = row.variant ∧ v.key = decision.variant := by
  have decides := serves.decides sound
  generalize (Operation.run e.workspace now s (.assign e.key request)).2 = next at decides
  cases decides with
  | seen a v found' there named =>
    obtain rfl : a = row := Option.some.inj (found'.symm.trans found)
    exact ⟨rfl, rfl, v, there, named, rfl⟩
  | drawn v key missing there own kept free => cases missing.symm.trans found

end Store
end Cohort
