import Cohort.Proofs.Answers

-- What requests for decisions do to the rows. Each experiment that is asked counts one row once more or adds one, and
-- every row is of one experiment; so a round over several experiments shows no row twice.
namespace Cohort
namespace Store

-- The row of this id is counted once more or it is added, and nothing else is written.
inductive Touches (now : Moment) (s : Store) (experiment id : String) : Store → Prop where
  | counted (row : Assignment) (present : row ∈ s.assignments) (named : row.id = id)
      (own : row.experiment = experiment) : Touches now s experiment id
        { s with assignments := s.assignments.map fun a =>
          if a.id = id then { a with
            exposures := a.exposures + 1
            lastExposure := some now
            firstExposure := some (a.firstExposure.getD now) }
          else a }
  | added (row : Assignment) (fresh : ¬ s.Issued id) (named : row.id = id) (own : row.experiment = experiment) :
      Touches now s experiment id { s.draw with assignments := s.assignments ++ [row] }

-- Rows of these experiments may have been counted once more, and each of them may have got one row.
structure Visited (now : Moment) (s : Store) (ids : List String) (change : Assignment → Assignment)
    (fresh : List Assignment) (next : Store) : Prop where
  drawn : s.drawn ≤ next.drawn
  rows : next.assignments = s.assignments.map change ++ fresh
  old : ∀ a ∈ s.assignments, change a = a ∨ change a = exposed now a ∧ a.experiment ∈ ids
  unissued : ∀ a ∈ fresh, ¬ s.Issued a.id
  own : (fresh.map (·.experiment)).Sublist ids

def added (s next : Store) : List Assignment :=
  next.assignments.filter fun a => !s.assignments.any fun b => b.id = a.id

-- The rows that were there before and the rows that were not.
theorem added_exact {s next : Store} {old fresh : List Assignment} (sound : s.Sound)
    (rows : next.assignments = old ++ fresh) (known : ∀ a ∈ old, ∃ b ∈ s.assignments, b.id = a.id)
    (unissued : ∀ a ∈ fresh, ¬ s.Issued a.id) : s.added next = fresh := by
  have before : old.filter (fun a => !s.assignments.any fun b => b.id = a.id) = [] := by
    rw [List.filter_eq_nil_iff]
    intro a member
    simpa using known a member
  have after : fresh.filter (fun a => !s.assignments.any fun b => b.id = a.id) = fresh := by
    rw [List.filter_eq_self]
    intro a member
    have apart : ∀ b ∈ s.assignments, b.id ≠ a.id := by
      intro b present hit
      exact unissued a member (hit ▸ sound.rowsIssued b present)
    simpa using apart
  rw [added, rows, List.filter_append, before, after, List.nil_append]

namespace Visited
variable {now : Moment} {s middle last : Store} {ids more : List String} {change later : Assignment → Assignment}
  {fresh others : List Assignment}

theorem still (s : Store) (ids : List String) {next : Store} (drawn : s.drawn ≤ next.drawn)
    (same : next.assignments = s.assignments) : s.Visited now ids id [] next where
  drawn := drawn
  rows := by simp [same]
  old := fun _ _ => .inl rfl
  unissued := fun _ none => absurd none List.not_mem_nil
  own := List.nil_sublist ids

theorem keeps (visited : s.Visited now ids change fresh middle) {a : Assignment} (present : a ∈ s.assignments) :
    (change a).id = a.id ∧ (change a).experiment = a.experiment := by
  rcases visited.old a present with same | ⟨counted, _⟩
  · rw [same]
    exact ⟨rfl, rfl⟩
  · rw [counted]
    exact ⟨rfl, rfl⟩

theorem trans (first : s.Visited now ids change fresh middle) (second : middle.Visited now more later others last)
    (apart : ∀ id ∈ ids, id ∉ more) :
    s.Visited now (ids ++ more) (later ∘ change) (fresh.map later ++ others) last := by
  have before {a : Assignment} (present : a ∈ s.assignments) : change a ∈ middle.assignments := by
    rw [first.rows]
    exact List.mem_append_left _ (List.mem_map_of_mem present)
  have between {a : Assignment} (present : a ∈ fresh) : a ∈ middle.assignments := by
    rw [first.rows]
    exact List.mem_append_right _ present
  refine ⟨Nat.le_trans first.drawn second.drawn, ?_, ?_, ?_, ?_⟩
  · rw [second.rows, first.rows, List.map_append, List.map_map, List.append_assoc]
  · intro a present
    rcases first.old a present with same | ⟨counted, asked⟩
    · have again := second.old (change a) (before present)
      rw [same] at again
      rw [Function.comp_apply, same]
      exact again.imp_right fun ⟨counted, asked⟩ => ⟨counted, List.mem_append_right _ asked⟩
    · rcases second.old (change a) (before present) with same | ⟨_, twice⟩
      · rw [Function.comp_apply, same]
        exact .inr ⟨counted, List.mem_append_left _ asked⟩
      · rw [(first.keeps present).2] at twice
        exact absurd twice (apart _ asked)
  · intro a member
    rcases List.mem_append.mp member with early | late
    · obtain ⟨b, there, rfl⟩ := List.mem_map.mp early
      rw [(second.keeps (between there)).1]
      exact first.unissued b there
    · exact fun issued => second.unissued a late (issued.mono first.drawn)
  · have same : (fresh.map later).map (·.experiment) = fresh.map (·.experiment) := by
      rw [List.map_map]
      exact List.map_congr_left fun a present => (second.keeps (between present)).2
    rw [List.map_append, same]
    exact first.own.append second.own

theorem row (visited : s.Visited now ids change fresh last) {a : Assignment} (present : a ∈ s.assignments) :
    a ∈ last.assignments ∨ exposed now a ∈ last.assignments := by
  have there : change a ∈ last.assignments := by
    rw [visited.rows]
    exact List.mem_append_left _ (List.mem_map_of_mem present)
  rcases visited.old a present with same | ⟨counted, _⟩
  · exact .inl (same ▸ there)
  · exact .inr (counted ▸ there)

theorem added_fresh (visited : s.Visited now ids change fresh last) (sound : s.Sound) : s.added last = fresh := by
  refine added_exact sound visited.rows ?_ visited.unissued
  intro a member
  obtain ⟨b, present, rfl⟩ := List.mem_map.mp member
  exact ⟨b, present, (visited.keeps present).1.symm⟩

end Visited

theorem Touches.visited {now : Moment} {s next : Store} {experiment id : String} (sound : s.Sound)
    (touches : s.Touches now experiment id next) :
    ∃ change fresh, s.Visited now [experiment] change fresh next := by
  cases touches with
  | counted row present named own =>
    refine ⟨fun a => if a.id = id then exposed now a else a, [], Nat.le_refl _, (List.append_nil _).symm, ?_,
      fun _ none => absurd none List.not_mem_nil, List.nil_sublist _⟩
    intro a there
    by_cases hit : a.id = id
    · obtain rfl : a = row := sound.same_row there present (hit.trans named.symm)
      exact .inr ⟨if_pos hit, by simp [own]⟩
    · exact .inl (if_neg hit)
  | added row fresh named own =>
    refine ⟨fun a => a, [row], Nat.le_succ _, ?_, fun _ _ => .inl rfl, ?_, ?_⟩
    · simp
    · simpa [named] using fresh
    · simp [own]

end Store

namespace Visit
variable {s next : Store} {visit : Visit} {e : Experiment}

theorem Decides.touches {decision : Decision} (decides : visit.Decides s e decision next) :
    s.Touches visit.now e.id decision.assignment next := by
  cases decides with
  | seen row v found there named =>
    obtain ⟨present, own, _⟩ := Store.find?_some found
    exact .counted row present rfl own
  | drawn v key missing there own kept free =>
    exact .added (visit.row s e v key) (Store.next_not_issued s) rfl rfl

theorem Leaves.visited {outcome : Outcome (Option Decision)} (leaves : visit.Leaves s e outcome) (sound : s.Sound) :
    ∃ change fresh, s.Visited visit.now [e.id] change fresh outcome.2 := by
  cases leaves with
  | closed _ | undecided _ _ => exact ⟨id, [], .still s _ (Nat.le_refl _) rfl⟩
  | refused _ => exact ⟨id, [], .still s _ (Nat.le_succ _) rfl⟩
  | decided decision next decides => exact decides.touches.visited sound

end Visit

namespace Decision
variable {s : Store} {visit : Visit}

-- A request for one experiment finds it or finds none of its key.
theorem assign_leaves (visit : Visit) (key : String) (sound : s.Sound) :
    assign visit key s = (.ok none, s) ∨
      ∃ e ∈ s.experiments, e.workspace = visit.workspace ∧ visit.Leaves s e (assign visit key s) := by
  rw [assign_looks, Visit.look]
  cases found : s.experimentByKey? visit.workspace key with
  | none => exact .inl (Visit.settle_settled _)
  | some e =>
    obtain ⟨present, own, _⟩ := Store.experimentByKey?_some found
    exact .inr ⟨e, present, own, visit.settle_leaves e sound⟩

theorem assign_visited (visit : Visit) (key : String) (sound : s.Sound) :
    ∃ experiment change fresh, s.Visited visit.now [experiment] change fresh (assign visit key s).2 := by
  rcases assign_leaves visit key sound with same | ⟨e, _, _, leaves⟩
  · rw [same]
    exact ⟨"", id, [], .still s _ (Nat.le_refl _) rfl⟩
  · exact ⟨e.id, leaves.visited sound⟩

-- No experiment is asked twice, and what is done for one leaves the rows of the others alone.
theorem assignEach_visited (visit : Visit) {left : List Experiment} (sound : s.Sound)
    (launched : ∀ e ∈ left, e.status = .running → s.Launched visit.workspace e.id)
    (distinct : (left.map (·.id)).Nodup) :
    ∃ change fresh, s.Visited visit.now (left.map (·.id)) change fresh (assignEach visit left s).2 := by
  induction left generalizing s with
  | nil => exact ⟨id, [], .still s _ (Nat.le_refl _) rfl⟩
  | cons e rest ih =>
    obtain ⟨apart, distinct⟩ := List.nodup_cons.mp distinct
    have committed := Visit.settle_commits visit sound (Visit.enter_grounded sound (launched e List.mem_cons_self))
    obtain ⟨change, fresh, first⟩ := (visit.settle_leaves e sound).visited sound
    unfold assignEach
    cases settled : visit.settle (visit.enter s e) s with
    | mk answer next =>
      rw [settled] at committed first
      have other : ∀ id ∈ [e.id], id ∉ rest.map (·.id) := by simpa using apart
      cases answer with
      | error fault => exact ⟨_, _, first.trans (.still next _ (Nat.le_refl _) rfl) other⟩
      | ok decision =>
        have kept := committed.kept sound
        obtain ⟨later, others, second⟩ := ih (committed.sound sound) (fun x after running =>
          kept.launched _ _ (launched x (List.mem_cons_of_mem _ after) running)) distinct
        simp only
        cases done : assignEach visit rest next with
        | mk answer last =>
          rw [done] at second
          cases answer with
          | error fault => exact ⟨_, _, first.trans second other⟩
          | ok decisions => exact ⟨_, _, first.trans second other⟩

theorem assignAll_visited (visit : Visit) (sound : s.Sound) : ∃ ids change fresh,
    ids.Nodup ∧ (∀ id ∈ ids, ∃ e ∈ s.experiments, e.id = id ∧ e.workspace = visit.workspace ∧ e.status = .running) ∧
      s.Visited visit.now ids change fresh (assignAll visit s).2 := by
  have distinct := sound.list_distinct visit.workspace ⟨some .running, none, false⟩
  obtain ⟨change, fresh, visited⟩ :=
    assignEach_visited visit sound (fun _ listed _ => listed_launched rfl listed) distinct
  refine ⟨_, change, fresh, distinct, ?_, visited⟩
  intro id asked
  obtain ⟨e, listed, rfl⟩ := List.mem_map.mp asked
  obtain ⟨present, own, running⟩ := Store.mem_running.mp listed
  exact ⟨e, present, rfl, own, running⟩

end Decision
end Cohort
