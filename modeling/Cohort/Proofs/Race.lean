import Cohort.Proofs.Decisions
import Cohort.Proofs.Scene

-- Requests that race for the first row of a subject. Whoever inserts first has drawn the variant for all of them.
namespace Cohort

theorem countP_replace (p : α → Bool) {items : List α} {i : Nat} {old : α} (found : items[i]? = some old) (new : α) :
    (items.set i new).countP p + (if p old then 1 else 0) = items.countP p + (if p new then 1 else 0) := by
  obtain ⟨bound, here⟩ := List.getElem?_eq_some_iff.mp found
  have counted := List.countP_set (p := p) (a := new) bound
  rw [here] at counted
  have least : p old = true → 0 < items.countP p := fun hit =>
    List.countP_pos_iff.mpr ⟨old, here ▸ List.getElem_mem bound, hit⟩
  by_cases hit : p old = true
  · have more := least hit
    simp only [hit, if_true] at counted ⊢
    omega
  · simp only [hit, Bool.false_eq_true, if_false] at counted ⊢
    omega

-- A request for an experiment that takes its subject, which has the identifier that all rivals have, no empty one,
-- and no row.
structure Visit.Contends (s : Store) (e : Experiment) (kind : IdentifierKind) (value : String) (visit : Visit) :
    Prop where
  ours : visit.workspace = e.workspace
  takes : e.Takes visit.subject visit.attributes
  unblank : ∀ kind, ¬ visit.subject.Blank kind
  common : visit.subject.given kind = some value
  unstored : s.find? e.id visit.subject = none

namespace Visit.Contends
variable {s : Store} {e : Experiment} {kind : IdentifierKind} {value : String} {visit : Visit}

theorem later (contends : visit.Contends s e kind value) (now : Moment) :
    { visit with now := now }.Contends s e kind value :=
  ⟨contends.ours, contends.takes, contends.unblank, contends.common, contends.unstored⟩

theorem filled (contends : visit.Contends s e kind value) : value ≠ "" := by
  rintro rfl
  exact contends.unblank kind contends.common

theorem kept (contends : visit.Contends s e kind value) : ∃ key, visit.subject.key = some key :=
  Subject.key_some.mpr contends.takes.named

theorem free (contends : visit.Contends s e kind value) {v : Variant} {key : String}
    (kept : visit.subject.key = some key) : s.Free (visit.row s e v key) := by
  intro other present
  cases clash : (visit.row s e v key).clashes other with
  | false => rfl
  | true =>
    have stored : (visit.row s e v key).subject.key = some (visit.row s e v key).subjectKey := kept
    obtain ⟨together, stands | ⟨kind, blank, _⟩⟩ := (Assignment.clashes_subject stored).mp clash
    · have misses := (Store.find?_none contends.takes.named).mp contends.unstored other present together.symm
      exact absurd (misses.symm.trans stands) Bool.false_ne_true
    · exact absurd blank (contends.unblank kind)

end Visit.Contends

-- The store once the race is decided: one row more, which has the identifier that all rivals have.
structure Store.Decided (s : Store) (e : Experiment) (kind : IdentifierKind) (value : String) (v : Variant)
    (row : Assignment) (next : Store) : Prop where
  drawn : s.drawn ≤ next.drawn
  store : next = { s with assignments := s.assignments ++ [row], drawn := next.drawn }
  id : row.id = s.nextId
  experiment : row.experiment = e.id
  variant : row.variant = v.id
  shared : row.subject.given kind = some value

namespace Store.Decided
variable {s next : Store} {e : Experiment} {kind : IdentifierKind} {value : String} {v : Variant} {row : Assignment}
  {visit : Visit}

theorem tables (decided : s.Decided e kind value v row next) : next.experiments = s.experiments ∧
    next.variants = s.variants ∧ next.assignments = s.assignments ++ [row] := by
  rw [decided.store]
  exact ⟨rfl, rfl, rfl⟩

theorem present (decided : s.Decided e kind value v row next) : row ∈ next.assignments := by
  rw [decided.tables.2.2]
  exact List.mem_append_right _ List.mem_cons_self

theorem stands (decided : s.Decided e kind value v row next) (contends : visit.Contends s e kind value) :
    row.standsFor visit.subject = true :=
  Assignment.standsFor_exact.mpr (.inl ⟨kind, value, decided.shared, contends.common, contends.filled⟩)

theorem find (decided : s.Decided e kind value v row next) (contends : visit.Contends s e kind value) :
    next.find? e.id visit.subject = some row := by
  have named := contends.takes.named
  cases found : next.find? e.id visit.subject with
  | none =>
    have missing := (find?_none named).mp found row decided.present decided.experiment
    rw [decided.stands contends] at missing
    cases missing
  | some other =>
    obtain ⟨there, own, stands⟩ := find?_some found
    rw [decided.tables.2.2] at there
    rcases List.mem_append.mp there with old | new
    · rw [(find?_none named).mp contends.unstored other old own] at stands
      cases stands
    · rw [List.mem_singleton.mp new]

theorem clash (decided : s.Decided e kind value v row next) (contends : visit.Contends s e kind value)
    {w : Variant} {key : String} (kept : visit.subject.key = some key) :
    (visit.row next e w key).clashes row = true := by
  have stored : (visit.row next e w key).subject.key = some (visit.row next e w key).subjectKey := kept
  exact (Assignment.clashes_subject stored).mpr ⟨decided.experiment.symm, .inl (decided.stands contends)⟩

theorem draw (decided : s.Decided e kind value v row next) : s.Decided e kind value v row next.draw where
  drawn := Nat.le_succ_of_le decided.drawn
  store := by
    have store := decided.store
    rw [store]
    rfl
  id := decided.id
  experiment := decided.experiment
  variant := decided.variant
  shared := decided.shared

theorem expose (decided : s.Decided e kind value v row next) (sound : s.Sound) (now : Moment) :
    s.Decided e kind value v (exposed now row)
      { next with assignments := next.assignments.map fun a => if a.id = row.id then exposed now a else a } where
  drawn := decided.drawn
  store := by
    have old : (s.assignments.map fun a => if a.id = row.id then exposed now a else a) = s.assignments := by
      have same : ∀ a ∈ s.assignments, (if a.id = row.id then exposed now a else a) = a := by
        intro a member
        apply if_neg
        rw [decided.id]
        exact (sound.rowsIssued a member).ne_next
      rw [List.map_congr_left same, List.map_id']
    have rows := decided.tables.2.2
    have others : next = { s with assignments := next.assignments, drawn := next.drawn } := by
      rw [rows]
      exact decided.store
    rw [rows, List.map_append, old, List.map_singleton, if_pos rfl, others]
  id := decided.id
  experiment := decided.experiment
  variant := decided.variant
  shared := decided.shared

end Store.Decided

-- Before the first insert nothing is stored; after it every turn leads to the new row, which counts those who have
-- been answered.

def Turn.Early (s : Store) (e : Experiment) : Turn → Prop
  | .looking key => key = e.key
  | .inserting x v => x = e ∧ v ∈ s.variants ∧ v.experiment = e.id
  | _ => False

def Turn.Late (s : Store) (e : Experiment) (v : Variant) : Turn → Prop
  | .looking key => key = e.key
  | .inserting x _ => x = e
  | .refetching x _ => x = e
  | .exposing x row => x = e ∧ row.id = s.nextId ∧ row.variant = v.id
  | .settled answer => ∃ isNew, answer = .ok (some (Decision.of e v s.nextId isNew))

namespace Pending

def answer? : Pending → Option Visit.Answer
  | .single _ turn => turn.answer?
  | _ => none

def isAnswered (pending : Pending) : Bool := pending.answer?.isSome

def rank : Pending → Nat
  | .single _ turn => turn.rank
  | _ => 0

def isNew (pending : Pending) : Bool :=
  match pending.answer? with
  | some (.ok (some decision)) => decision.isNew
  | _ => false

end Pending

namespace Visit.Contends
variable {s : Store} {e : Experiment} {kind : IdentifierKind} {value : String} {visit : Visit}

theorem advance_early (contends : visit.Contends s e kind value) (sound : s.Sound) (present : e ∈ s.experiments)
    {turn : Turn} (early : turn.Early s e) :
    (∃ next, visit.advance turn s = (next, s) ∧ next.Early s e) ∨
    ∃ v ∈ s.variants, v.experiment = e.id ∧ ∃ row next, s.Decided e kind value v row next ∧ row.exposures = 1 ∧
      visit.advance turn s = (.settled (.ok (some (Decision.of e v s.nextId true))), next) := by
  cases turn with
  | looking key =>
    have key : key = e.key := early
    subst key
    obtain ⟨v, there, own, entered⟩ := enter_missing sound present contends.takes contends.unstored
    refine .inl ⟨.inserting e v, ?_, rfl, there, own⟩
    show (visit.look e.key s, s) = _
    rw [look_known sound present contends.ours.symm, entered]
  | inserting x v =>
    obtain ⟨rfl, there, own⟩ := early
    obtain ⟨key, kept⟩ := contends.kept
    refine .inr ⟨v, there, own, visit.row s x v key, _, ?_, rfl, insert_free sound.writable kept (contends.free kept)⟩
    exact ⟨Nat.le_succ _, rfl, rfl, rfl, rfl, contends.common⟩
  | refetching x violation => exact early.elim
  | exposing x row => exact early.elim
  | settled answer => exact early.elim

theorem advance_late (contends : visit.Contends s e kind value) (sound : s.Sound) (present : e ∈ s.experiments)
    {v : Variant} (there : v ∈ s.variants) {row : Assignment} {store : Store}
    (decided : s.Decided e kind value v row store) (ready : store.Sound) {turn : Turn} (late : turn.Late s e v) :
    ∃ next row' store', visit.advance turn store = (next, store') ∧ s.Decided e kind value v row' store' ∧
      next.Late s e v ∧ (Pending.single visit next).isNew = (Pending.single visit turn).isNew ∧
      row'.exposures + (if (Pending.single visit turn).isAnswered then 1 else 0) =
        row.exposures + (if (Pending.single visit next).isAnswered then 1 else 0) := by
  obtain ⟨experiments, variants, _⟩ := decided.tables
  cases turn with
  | looking key =>
    have key : key = e.key := late
    subst key
    refine ⟨.exposing e row, row, store, ?_, decided, ⟨rfl, decided.id, decided.variant⟩, rfl, rfl⟩
    show (visit.look e.key store, store) = _
    rw [look_known ready (experiments ▸ present) contends.ours.symm, enter_found contends.takes (decided.find contends)]
  | inserting x w =>
    have same : x = e := late
    subst same
    obtain ⟨key, kept⟩ := contends.kept
    obtain ⟨violation, taken⟩ := insert_taken ready.writable kept decided.present (decided.clash contends kept)
    exact ⟨.refetching x violation, row, store.draw, taken, decided.draw, rfl, rfl, rfl⟩
  | refetching x violation =>
    have same : x = e := late
    subst same
    refine ⟨.exposing x row, row, store, ?_, decided, ⟨rfl, decided.id, decided.variant⟩, rfl, rfl⟩
    show visit.refetch x violation store = _
    unfold refetch
    rw [decided.find contends]
  | exposing x seen =>
    obtain ⟨rfl, id, variant⟩ := late
    have shown : visit.expose x seen store = _ := expose_shown ready (variants ▸ there) variant
    rw [id, ← decided.id] at shown
    refine ⟨_, _, _, shown, decided.expose sound visit.now, ⟨false, ?_⟩, rfl, rfl⟩
    rw [decided.id]
  | settled answer => exact ⟨.settled answer, row, store, rfl, decided, late, rfl, rfl⟩

end Visit.Contends

namespace Pending

theorem answered_last {visit : Visit} {turn : Turn} (last : (Pending.single visit turn).rank = 0) :
    (Pending.single visit turn).isAnswered = true := by
  cases turn with
  | settled answer => rfl
  | looking _ | inserting _ _ | refetching _ _ | exposing _ _ => cases last

theorem advance_rank (pending : Pending) (now : Moment) (s : Store) :
    (pending.advance now s).1.rank ≤ pending.rank - 1 := by
  unfold advance
  split
  · rename_i visit turn
    cases turn with
    | settled answer => exact Nat.zero_le _
    | looking _ | inserting _ _ | refetching _ _ | exposing _ _ =>
      refine Nat.le_sub_one_of_lt (Visit.advance_rank_lt ?_)
      rintro answer ⟨⟩
  · exact Nat.zero_le _
  · exact Nat.zero_le _
  · exact Nat.zero_le _

end Pending

namespace Scene

def race (schedule : List (Moment × Nat)) (scene : Scene) : Scene :=
  scene.play (schedule.map fun turn => (turn.1, .turn turn.2))

-- Everybody has asked, nobody has looked.
def contest (s : Store) (e : Experiment) (visits : List Visit) : Scene :=
  ⟨s, visits.map fun visit => .single visit (.looking e.key)⟩

section Phases
variable (s : Store) (e : Experiment) (kind : IdentifierKind) (value : String)

structure Early (scene : Scene) : Prop where
  store : scene.store = s
  turns : ∀ pending ∈ scene.pending, ∃ visit turn, pending = .single visit turn ∧
    visit.Contends s e kind value ∧ turn.Early s e

structure Late (v : Variant) (row : Assignment) (scene : Scene) : Prop where
  decided : s.Decided e kind value v row scene.store
  turns : ∀ pending ∈ scene.pending, ∃ visit turn, pending = .single visit turn ∧
    visit.Contends s e kind value ∧ turn.Late s e v
  exposures : row.exposures = scene.pending.countP Pending.isAnswered
  one : scene.pending.countP Pending.isNew = 1

end Phases

variable {s : Store} {e : Experiment} {kind : IdentifierKind} {value : String} {scene : Scene}

theorem Early.unanswered (early : scene.Early s e kind value) : ∀ pending ∈ scene.pending, pending.answer? = none := by
  intro pending member
  obtain ⟨visit, turn, rfl, _, ahead⟩ := early.turns pending member
  cases turn with
  | looking _ | inserting _ _ => rfl
  | refetching _ _ | exposing _ _ | settled _ => exact ahead.elim

theorem Early.turn (early : scene.Early s e kind value) (sound : s.Sound) (present : e ∈ s.experiments) (now : Moment)
    (index : Nat) : (scene.turn now index).Early s e kind value ∨
      ∃ v ∈ s.variants, v.experiment = e.id ∧ ∃ row, (scene.turn now index).Late s e kind value v row := by
  unfold Scene.turn
  cases found : scene.pending[index]? with
  | none => exact .inl early
  | some pending =>
    obtain ⟨visit, turn, rfl, contends, ahead⟩ := early.turns pending (List.mem_of_getElem? found)
    rcases (contends.later now).advance_early sound present ahead with
      ⟨next, step, ahead'⟩ | ⟨v, there, own, row, store, decided, once, step⟩
    · refine .inl ⟨?_, ?_⟩
      · simp only [Pending.advance, early.store, step]
      · intro other member
        simp only [Pending.advance, early.store, step] at member
        rcases List.mem_or_eq_of_mem_set member with old | new
        · exact early.turns other old
        · exact ⟨visit, next, new, contends, ahead'⟩
    · refine .inr ⟨v, there, own, row, ?_⟩
      simp only [Pending.advance, early.store, step]
      -- nobody has been answered so far, and the one who inserted is the first
      have unanswered : ∀ other ∈ scene.pending, other.isAnswered = false ∧ other.isNew = false := by
        intro other member
        have open' := early.unanswered other member
        simp [Pending.isAnswered, Pending.isNew, open']
      have none {p : Pending → Bool} (each : ∀ other ∈ scene.pending, p other = false) :
          scene.pending.countP p = 0 := by
        rw [List.countP_eq_zero]
        intro other member
        simp [each other member]
      have before := unanswered _ (List.mem_of_getElem? found)
      refine ⟨decided, ?_, ?_, ?_⟩
      · intro other member
        rcases List.mem_or_eq_of_mem_set member with old | new
        · obtain ⟨visit, turn, same, contends, ahead⟩ := early.turns other old
          refine ⟨visit, turn, same, contends, ?_⟩
          cases turn with
          | looking key => exact ahead
          | inserting x w => exact ahead.1
          | refetching _ _ | exposing _ _ | settled _ => exact ahead.elim
        · exact ⟨visit, _, new, contends, true, rfl⟩
      · have counted := countP_replace Pending.isAnswered found
          (.single visit (.settled (.ok (some (Decision.of e v s.nextId true)))))
        rw [none fun other member => (unanswered other member).1, before.1] at counted
        rw [once]
        simpa [Pending.isAnswered, Pending.answer?, Turn.answer?] using counted.symm
      · have counted := countP_replace Pending.isNew found
          (.single visit (.settled (.ok (some (Decision.of e v s.nextId true)))))
        rw [none fun other member => (unanswered other member).2, before.2] at counted
        simpa [Pending.isNew, Pending.answer?, Turn.answer?, Decision.of] using counted

theorem Late.turn {v : Variant} {row : Assignment} (late : scene.Late s e kind value v row) (sound : s.Sound)
    (ready : scene.Ready) (present : e ∈ s.experiments) (there : v ∈ s.variants) (now : Moment) (index : Nat) :
    ∃ row', (scene.turn now index).Late s e kind value v row' := by
  unfold Scene.turn
  cases found : scene.pending[index]? with
  | none => exact ⟨row, late⟩
  | some pending =>
    obtain ⟨visit, turn, rfl, contends, ahead⟩ := late.turns pending (List.mem_of_getElem? found)
    obtain ⟨next, row', store, step, decided, ahead', new, counted⟩ :=
      (contends.later now).advance_late sound present there late.decided ready.sound ahead
    refine ⟨row', ?_⟩
    simp only [Pending.advance, step]
    refine ⟨decided, ?_, ?_, ?_⟩
    · intro other member
      rcases List.mem_or_eq_of_mem_set member with old | changed
      · exact late.turns other old
      · exact ⟨visit, next, changed, contends, ahead'⟩
    · show row'.exposures = (scene.pending.set index (.single visit next)).countP Pending.isAnswered
      have answered := countP_replace Pending.isAnswered found (.single visit next)
      have before := late.exposures
      have same (turn : Turn) : (Pending.single { visit with now := now } turn).isAnswered =
        (Pending.single visit turn).isAnswered := rfl
      rw [same, same] at counted
      omega
    · show (scene.pending.set index (.single visit next)).countP Pending.isNew = 1
      have firsts := countP_replace Pending.isNew found (.single visit next)
      have same : (Pending.single visit next).isNew = (Pending.single visit turn).isNew := new
      rw [same, late.one] at firsts
      omega

theorem turn_length (scene : Scene) (now : Moment) (index : Nat) :
    (scene.turn now index).pending.length = scene.pending.length := by
  unfold turn
  cases scene.pending[index]? with
  | none => rfl
  | some pending => exact List.length_set

-- Where all races begin, and how they go on.
theorem race_phase (sound : s.Sound) (present : e ∈ s.experiments) (ready : scene.Ready)
    (phase : scene.Early s e kind value ∨
      ∃ v ∈ s.variants, v.experiment = e.id ∧ ∃ row, scene.Late s e kind value v row)
    (schedule : List (Moment × Nat)) : (scene.race schedule).pending.length = scene.pending.length ∧
      ((scene.race schedule).Early s e kind value ∨
        ∃ v ∈ s.variants, v.experiment = e.id ∧ ∃ row, (scene.race schedule).Late s e kind value v row) := by
  induction schedule generalizing scene with
  | nil => exact ⟨rfl, phase⟩
  | cons turn rest ih =>
    obtain ⟨_, next⟩ := turn_commits ready turn.1 turn.2
    rw [← turn_length scene turn.1 turn.2]
    apply ih next
    rcases phase with early | ⟨v, there, own, row, late⟩
    · exact early.turn sound present turn.1 turn.2
    · exact .inr ⟨v, there, own, late.turn sound ready present there turn.1 turn.2⟩

def rankAt (scene : Scene) (index : Nat) : Nat := (scene.pending[index]?.map Pending.rank).getD 0

theorem turn_rank (scene : Scene) (now : Moment) (index place : Nat) :
    (scene.turn now index).rankAt place ≤ scene.rankAt place - (if index = place then 1 else 0) := by
  unfold turn
  cases found : scene.pending[index]? with
  | none =>
    by_cases same : index = place
    · subst same
      simp [rankAt, found]
    · simp [same]
  | some pending =>
    have fewer := pending.advance_rank now scene.store
    by_cases same : index = place
    · subst same
      have bound := (List.getElem?_eq_some_iff.mp found).1
      simp only [rankAt, found, List.getElem?_set_self bound, Option.map_some, Option.getD_some, if_true]
      exact fewer
    · simp only [rankAt, List.getElem?_set_ne same, if_neg same, Nat.sub_zero]
      exact Nat.le_refl _

theorem race_rank (scene : Scene) (schedule : List (Moment × Nat)) (place : Nat) :
    (scene.race schedule).rankAt place ≤ scene.rankAt place - schedule.countP (·.2 = place) := by
  induction schedule generalizing scene with
  | nil => exact Nat.le_refl _
  | cons turn rest ih =>
    have first := turn_rank scene turn.1 turn.2 place
    have others := ih (scene.turn turn.1 turn.2)
    rw [List.countP_cons]
    have same : (scene.race (turn :: rest)) = (scene.turn turn.1 turn.2).race rest := rfl
    rw [same]
    simp only [decide_eq_true_eq]
    omega

theorem contest_ready (sound : s.Sound) (e : Experiment) (visits : List Visit) : (contest s e visits).Ready where
  sound := sound
  grounded := by
    intro pending member
    obtain ⟨visit, _, rfl⟩ := List.mem_map.mp member
    trivial

theorem contest_early {visits : List Visit} (rivals : ∀ visit ∈ visits, visit.Contends s e kind value) :
    (contest s e visits).Early s e kind value where
  store := rfl
  turns := by
    intro pending member
    obtain ⟨visit, asked, rfl⟩ := List.mem_map.mp member
    exact ⟨visit, _, rfl, rivals visit asked, rfl⟩

theorem contest_rank (s : Store) (e : Experiment) (visits : List Visit) (place : Nat) :
    (contest s e visits).rankAt place ≤ 4 := by
  unfold rankAt contest
  rw [List.getElem?_map]
  cases visits[place]? with
  | none => exact Nat.zero_le _
  | some visit => exact Nat.le_refl _

theorem Late.answered {v : Variant} {row : Assignment} (late : scene.Late s e kind value v row) :
    ∀ pending ∈ scene.pending, pending.isAnswered = true →
      pending.answer? = some (.ok (some (Decision.of e v row.id pending.isNew))) := by
  intro pending member answered
  obtain ⟨visit, turn, rfl, _, ahead⟩ := late.turns pending member
  cases turn with
  | settled answer =>
    obtain ⟨isNew, rfl⟩ := ahead
    rw [late.decided.id]
    rfl
  | looking _ | inserting _ _ | refetching _ _ | exposing _ _ => cases answered

theorem Late.outcome {v : Variant} {row : Assignment} (late : scene.Late s e kind value v row)
    (done : ∀ pending ∈ scene.pending, pending.isAnswered = true) :
    row.exposures = scene.pending.length ∧ (scene.pending.map Pending.isNew).count true = 1 ∧
      scene.pending.map Pending.answer? = (scene.pending.map Pending.isNew).map fun isNew =>
        some (.ok (some (Decision.of e v row.id isNew))) := by
  refine ⟨?_, ?_, ?_⟩
  · rw [late.exposures]
    exact List.countP_eq_length.mpr done
  · rw [List.count, List.countP_map, ← late.one]
    exact List.countP_congr fun pending _ => by simp
  · rw [List.map_map]
    refine List.map_congr_left fun pending member => ?_
    exact late.answered pending member (done pending member)

end Scene

-- Any number of rivals, taking their turns in any order: no answer is a fault, four turns are enough for everybody,
-- and once all are answered there is one row more, drawn by one of them and seen by all.
theorem race_has_one_winner {s : Store} (attained : Attained s) {e : Experiment} (present : e ∈ s.experiments)
    {kind : IdentifierKind} {value : String} {visits : List Visit} (asked : visits ≠ [])
    (rivals : ∀ visit ∈ visits, visit.Contends s e kind value) (schedule : List (Moment × Nat)) :
    let scene := (Scene.contest s e visits).race schedule
    (∀ pending ∈ scene.pending, ∀ answer, pending.answer? = some answer → ∃ decision, answer = .ok (some decision)) ∧
    ((∀ index < visits.length, 4 ≤ schedule.countP (·.2 = index)) →
      ∀ pending ∈ scene.pending, pending.isAnswered = true) ∧
    ((∀ pending ∈ scene.pending, pending.isAnswered = true) →
      ∃ row, ∃ v ∈ s.variants, ∃ winners : List Bool,
        scene.store.assignments = s.assignments ++ [row] ∧ scene.store.experiments = s.experiments ∧
        scene.store.variants = s.variants ∧ row.experiment = e.id ∧ row.variant = v.id ∧ v.experiment = e.id ∧
        row.exposures = visits.length ∧ winners.length = visits.length ∧ winners.count true = 1 ∧
        scene.pending.map Pending.answer? =
          winners.map fun isNew => some (.ok (some (Decision.of e v row.id isNew)))) := by
  intro scene
  have sound := attained.sound
  have ready := Scene.contest_ready sound e visits
  obtain ⟨length, phase⟩ := Scene.race_phase sound present ready (.inl (Scene.contest_early rivals)) schedule
  have length : scene.pending.length = visits.length := length.trans (List.length_map _)
  refine ⟨?_, ?_, ?_⟩
  · intro pending member answer given
    rcases phase with early | ⟨v, _, _, row, late⟩
    · rw [early.unanswered pending member] at given
      cases given
    · rw [late.answered pending member (by simp [Pending.isAnswered, given])] at given
      cases given
      exact ⟨_, rfl⟩
  · intro turns pending member
    obtain ⟨index, bound, here⟩ := List.mem_iff_getElem.mp member
    have left := Scene.race_rank (Scene.contest s e visits) schedule index
    have first := Scene.contest_rank s e visits index
    have given := turns index (length ▸ bound)
    have last : pending.rank = 0 := by
      have at' : scene.rankAt index = pending.rank := by simp [Scene.rankAt, bound, here]
      have left : scene.rankAt index ≤ _ := left
      omega
    rcases phase with early | ⟨v, _, _, row, late⟩
    · obtain ⟨visit, turn, rfl, _⟩ := early.turns pending member
      exact Pending.answered_last last
    · obtain ⟨visit, turn, rfl, _⟩ := late.turns pending member
      exact Pending.answered_last last
  · intro done
    rcases phase with early | ⟨v, there, own, row, late⟩
    · -- somebody has asked, and nobody has been answered
      have some' : 0 < scene.pending.length := length ▸ List.length_pos_of_ne_nil asked
      have member := List.getElem_mem some'
      have answered := done _ member
      rw [Pending.isAnswered, early.unanswered _ member] at answered
      cases answered
    · obtain ⟨experiments, variants, assignments⟩ := late.decided.tables
      obtain ⟨seen, winners, answers⟩ := late.outcome done
      refine ⟨row, v, there, scene.pending.map Pending.isNew, assignments, experiments, variants,
        late.decided.experiment, late.decided.variant, own, seen.trans length, ?_, winners, answers⟩
      rw [List.length_map, length]

-- Two rivals with different keys, so that the variants drawn for them may differ, and one identifier in common.
def priceOpened : Store := (Scene.empty.play Scene.shop).store

def twoRivals : List Visit :=
  [⟨"shop", ⟨0⟩, ⟨some "ann", none, some "u"⟩, none⟩, ⟨"shop", ⟨0⟩, ⟨none, some "tab", some "u"⟩, none⟩]

theorem twoRivals_one_winner : Attained priceOpened ∧ twoRivals ≠ [] ∧ ∃ e ∈ priceOpened.experiments,
    (∀ visit ∈ twoRivals, visit.Contends priceOpened e .user "u") ∧
    ∃ row, ((Scene.contest priceOpened e twoRivals).race
        ((List.range 8).map fun n => (⟨n⟩, n % 2))).store.assignments = priceOpened.assignments ++ [row] ∧
      row.exposures = 2 := by
  have attained : Attained priceOpened := ⟨_, rfl⟩
  have asked : twoRivals ≠ [] := by simp [twoRivals]
  obtain ⟨e, present, workspace, running, full, targeting⟩ : ∃ e ∈ priceOpened.experiments, e.workspace = "shop" ∧
      e.status = .running ∧ 100 ≤ e.traffic ∧ e.targeting.isEmpty = true := by decide +kernel
  have empty : priceOpened.assignments.isEmpty = true := by decide +kernel
  have plain := attained.sound.plain e present
  have takes (subject : Subject) (named : subject.hasIdentifier = true) : e.Takes subject none :=
    Experiment.takes_everyone plain running full (List.isEmpty_iff.mp targeting) named none
  have unstored (subject : Subject) : priceOpened.find? e.id subject = none := by
    cases found : priceOpened.find? e.id subject with
    | none => rfl
    | some row =>
      have there := (Store.find?_some found).1
      rw [List.isEmpty_iff.mp empty] at there
      cases there
  have rivals : ∀ visit ∈ twoRivals, visit.Contends priceOpened e .user "u" := by
    intro visit member
    have each : visit.workspace = "shop" ∧ visit.attributes = none ∧ visit.subject.hasIdentifier = true ∧
        visit.subject.user = some "u" ∧ visit.subject.customer ≠ some "" ∧ visit.subject.session ≠ some "" := by
      revert visit
      decide
    obtain ⟨shop, attributes, named, user, customer, session⟩ := each
    refine ⟨shop.trans workspace.symm, attributes ▸ takes visit.subject named, ?_, user, unstored visit.subject⟩
    intro kind blank
    cases kind with
    | customer => exact customer blank
    | session => exact session blank
    | user =>
      rw [Subject.Blank, Subject.given, user] at blank
      revert blank
      decide
  have turns : ∀ index < twoRivals.length, 4 ≤ ((List.range 8).map fun n => ((⟨n⟩ : Moment), n % 2)).countP
      (·.2 = index) := by decide
  obtain ⟨_, all, decided⟩ := race_has_one_winner attained present asked rivals _
  obtain ⟨row, _, _, _, stored, _, _, _, _, _, seen, _⟩ := decided (all turns)
  exact ⟨attained, asked, e, present, rivals, row, stored, seen⟩

end Cohort
