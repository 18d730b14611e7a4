import Cohort.Proofs.Chronicle
import Cohort.Proofs.Rows
import Cohort.Proofs.Showings

-- The exposures stored with a row are the decisions that carried its id to a caller: as many, and from the first of them
-- to the last.
namespace Cohort

instance (answer : Except Fault α) : Decidable (Jammed answer) :=
  match answer with
  | .error fault => decidable_of_iff (fault.kind = .integrity)
      ⟨fun kind => ⟨fault, rfl, kind⟩, fun ⟨_, failed, kind⟩ => Except.error.inj failed ▸ kind⟩
  | .ok _ => isFalse fun ⟨_, failed, _⟩ => nomatch failed

namespace Pending

def Named : Pending → Prop
  | .single visit _ | .round visit _ _ => visit.subject.hasIdentifier = true
  | .report _ _ => False

def Backed (s : Store) : Pending → Prop
  | .single visit turn => turn.Backed visit s
  | .round visit turn left => turn.Backed visit s ∧ ∀ e ∈ left, e.Lasts visit.workspace s
  | .report _ _ => True

theorem Backed.kept {s next : Store} {pending : Pending} (kept : s.Kept next) (backed : pending.Backed s) :
    pending.Backed next := by
  cases pending with
  | single visit turn => exact Turn.Backed.kept kept backed
  | round visit turn left => exact ⟨Turn.Backed.kept kept backed.1, fun e member => (backed.2 e member).kept kept⟩
  | report notice turn => trivial

def makes (now : Moment) (s : Store) : Pending → List Decision
  | .round visit (.settled (.ok _)) (e :: _) => (visit.enter s e).decisions
  | .single _ (.settled _) | .round _ (.settled _) _ | .report _ _ => []
  | .single visit turn | .round visit turn _ => ({ visit with now := now }.advance turn s).1.decisions

def outcome? : Pending → Option (Except Fault Unit)
  | .single _ (.settled answer) => some (answer.map fun _ => ())
  | .round _ (.settled (.error fault)) _ => some (.error fault)
  | .round _ (.settled (.ok _)) [] => some (.ok ())
  | .report _ (.settled answer) => some (answer.map fun _ => ())
  | _ => none

theorem advance_named (pending : Pending) (now : Moment) (s : Store) :
    (pending.advance now s).1.Named ↔ pending.Named := by
  unfold advance
  split <;> exact .rfl

theorem advance_counted {s : Store} {pending : Pending} (sound : s.Sound) (grounded : pending.Grounded s)
    (backed : pending.Backed s) (now : Moment) : (pending.advance now s).1.Backed (pending.advance now s).2 ∧
      s.Counts now (pending.makes now s) (pending.advance now s).2 ∧
      ∀ d ∈ pending.makes now s, d.assignment = Decision.concludedId ∨ pending.Named := by
  have idle {decisions : List Decision} (none : decisions = []) :
      s.Counts now decisions s ∧ ∀ d ∈ decisions, d.assignment = Decision.concludedId ∨ pending.Named := by
    subst none
    exact ⟨.nothing s now, fun _ given => absurd given List.not_mem_nil⟩
  cases pending with
  | report notice turn =>
    have written := (Conversion.Notice.advance_once { notice with now := now } sound grounded).1
    have quiet := written.commits.quiet fun act permitted => by
      cases permitted
      exact id
    exact ⟨trivial, quiet, fun _ none => absurd none List.not_mem_nil⟩
  | single visit turn =>
    have ground : turn.Grounded visit.workspace s := grounded
    cases turn with
    | settled answer => exact ⟨backed, idle rfl⟩
    | looking _ | inserting _ _ | refetching _ _ | exposing _ _ =>
      obtain ⟨next, counts, named⟩ := Visit.advance_counted { visit with now := now } sound ground backed rfl
      exact ⟨next, counts, named⟩
  | round visit turn left =>
    cases turn with
    | settled answer =>
      cases answer with
      | error fault => exact ⟨backed, idle rfl⟩
      | ok decision =>
        cases left with
        | nil => exact ⟨backed, idle rfl⟩
        | cons e rest =>
          have lasts := backed.2 e List.mem_cons_self
          have entered : Visit.Counted { visit with now := now } s (visit.enter s e) s :=
            Visit.enter_counted sound lasts.plain fun _ => lasts
          have others := fun x later => backed.2 x (List.mem_cons_of_mem _ later)
          exact ⟨⟨entered.backed, others⟩, entered.counts, entered.named⟩
    | looking _ | inserting _ _ | refetching _ _ | exposing _ _ =>
      obtain ⟨next, counts, named⟩ := Visit.advance_counted { visit with now := now } sound grounded.1 backed.1 rfl
      have committed := (Visit.advance_commits { visit with now := now } sound grounded.1).1
      have others := fun x later => (backed.2 x later).kept (committed.kept sound)
      exact ⟨⟨next, others⟩, counts, named⟩

-- A request of somebody with an identifier ends well or on a violated constraint.
theorem outcome_named {s : Store} {pending : Pending} (named : pending.Named) (backed : pending.Backed s)
    {answer : Except Fault Unit} (ended : pending.outcome? = some answer) : Jammed answer ∨ answer = .ok () := by
  cases answer with
  | ok done => exact .inr rfl
  | error fault =>
    refine .inl ⟨fault, rfl, ?_⟩
    unfold outcome? at ended
    split at ended
    · rename_i visit given
      cases given with
      | error other =>
        cases ended
        exact backed named fault rfl
      | ok decision => cases ended
    · cases ended
      exact backed.1 named fault rfl
    · cases ended
    · exact named.elim
    · cases ended

end Pending

def Operation.decisions : Operation → Except Fault Answer → List Decision
  | .assign _ _, .ok (.decision decision) => decision.toList
  | .assignAll _, .ok (.decisions decisions) => decisions
  | _, _ => []

theorem Operation.Permits.unshown {operation : Operation} {act : Act} (permitted : operation.Permits act)
    (other : ¬ operation.Decides) : ¬ act.Shows := by
  cases permitted with
  | assign key request visits | assignAll request visits => exact absurd trivial other
  | convert key report reports =>
    cases reports
    exact id
  | _ => exact id

theorem Operation.run_counts {s : Store} (sound : s.Sound) (workspace : String) (now : Moment) (operation : Operation)
    (calm : ¬ Jammed (operation.run workspace now s).1) :
    s.Counts now (operation.decisions (operation.run workspace now s).1) (operation.run workspace now s).2 := by
  cases operation with
  | assign key request =>
    have counts := Decision.assign_counts sound (visitOf workspace now request) key
    simp only [run, Outcome.map]
    generalize Decision.assign (visitOf workspace now request) key s = outcome at counts ⊢
    cases outcome with
    | mk answer next => cases answer <;> exact counts
  | assignAll request =>
    have counts := Decision.assignAll_counts sound (visitOf workspace now request) (mt jammed_map.mpr calm)
    simp only [run, Outcome.map]
    generalize Decision.assignAll (visitOf workspace now request) s = outcome at counts ⊢
    cases outcome with
    | mk answer next => cases answer <;> exact counts
  | _ => exact (run_commits sound workspace now _).quiet fun act permitted => permitted.unshown id

namespace Scene

def made (scene : Scene) (now : Moment) : Move → List Showing
  | .perform workspace operation =>
    (operation.decisions (operation.run workspace now scene.store).1).map (⟨now, ·, none⟩)
  | .turn index =>
    match scene.pending[index]? with
    | some pending => (pending.makes now scene.store).map (⟨now, ·, some index⟩)
    | none => []
  | _ => []

def answers (scene : Scene) (now : Moment) : Move → List (Except Fault Answer)
  | .perform workspace operation => [(operation.run workspace now scene.store).1]
  | _ => []

def handsOver (scene : Scene) (m : Showing) : Bool :=
  match m.request with
  | none => true
  | some index =>
    match scene.pending[index]?.bind Pending.outcome? with
    | some (.ok ()) => true
    | _ => false

-- What has been made so far is what has been counted, and requests under way that were shown a row have an identifier.
structure Accounted (scene : Scene) (made : List Showing) : Prop where
  tallied : scene.store.Tallied made
  backed : ∀ pending ∈ scene.pending, pending.Backed scene.store
  makers : ∀ m ∈ made, ∀ index, m.request = some index → ∃ pending, scene.pending[index]? = some pending ∧
    (m.decision.assignment = Decision.concludedId ∨ pending.Named)

variable {scene : Scene} {told : List Showing}

theorem begin_accounted (accounted : scene.Accounted told) {pending : Pending} (backed : pending.Backed scene.store) :
    (scene.begin pending).Accounted told where
  tallied := accounted.tallied
  backed := Store.all_added accounted.backed backed
  makers := by
    intro m member index maker
    obtain ⟨other, found, whose⟩ := accounted.makers m member index maker
    refine ⟨other, ?_, whose⟩
    show (scene.pending ++ [pending])[index]? = some other
    rwa [List.getElem?_append_left (List.getElem?_eq_some_iff.mp found).1]

theorem perform_accounted (ready : scene.Ready) (accounted : scene.Accounted told) (now : Moment) (workspace : String)
    (operation : Operation) (calm : ¬ Jammed (operation.run workspace now scene.store).1) :
    (scene.after now (.perform workspace operation)).Accounted
      (told ++ scene.made now (.perform workspace operation)) where
  tallied := operation.run_counts ready.sound workspace now calm told none accounted.tallied
  backed := by
    have kept := (operation.run_commits ready.sound workspace now).kept ready.sound
    exact fun pending member => (accounted.backed pending member).kept kept
  makers := by
    intro m member index maker
    rcases List.mem_append.mp member with old | new
    · exact accounted.makers m old index maker
    · obtain ⟨d, _, rfl⟩ := List.mem_map.mp new
      cases maker

theorem turn_accounted (ready : scene.Ready) (accounted : scene.Accounted told) (now : Moment) (index : Nat) :
    (scene.after now (.turn index)).Accounted (told ++ scene.made now (.turn index)) := by
  cases found : scene.pending[index]? with
  | none =>
    simp only [Scene.after, Scene.turn, made, found, List.append_nil]
    exact accounted
  | some pending =>
    simp only [Scene.after, Scene.turn, made, found]
    have member := List.mem_of_getElem? found
    have grounded := ready.grounded pending member
    obtain ⟨backed, counts, named⟩ := Pending.advance_counted ready.sound grounded (accounted.backed pending member) now
    have kept := (Pending.advance_commits ready.sound grounded now).1.kept ready.sound
    refine ⟨counts told (some index) accounted.tallied, ?_, ?_⟩
    · intro other there
      rcases List.mem_or_eq_of_mem_set there with old | rfl
      · exact (accounted.backed other old).kept kept
      · exact backed
    · have still : ∀ (place : Nat) (other : Pending), scene.pending[place]? = some other →
          ∃ later : Pending, (scene.pending.set index (pending.advance now scene.store).1)[place]? = some later ∧
            (later.Named ↔ other.Named) := by
        intro place other there
        by_cases here : index = place
        · subst here
          obtain rfl : pending = other := Option.some.inj (found.symm.trans there)
          refine ⟨_, List.getElem?_set_self (List.getElem?_eq_some_iff.mp found).1, ?_⟩
          exact pending.advance_named now scene.store
        · exact ⟨other, (List.getElem?_set_ne here).trans there, .rfl⟩
      intro m there place maker
      rcases List.mem_append.mp there with old | new
      · obtain ⟨other, at', whose⟩ := accounted.makers m old place maker
        obtain ⟨later, after, same⟩ := still place other at'
        exact ⟨later, after, whose.imp_right same.mpr⟩
      · obtain ⟨d, given, rfl⟩ := List.mem_map.mp new
        obtain rfl : index = place := Option.some.inj maker
        obtain ⟨later, after, same⟩ := still index pending found
        exact ⟨later, after, (named d given).imp_right same.mpr⟩

theorem after_accounted (ready : scene.Ready) (accounted : scene.Accounted told) (now : Moment) (move : Move)
    (calm : ∀ answer ∈ scene.answers now move, ¬ Jammed answer) :
    (scene.after now move).Accounted (told ++ scene.made now move) := by
  cases move with
  | perform workspace operation =>
    exact perform_accounted ready accounted now workspace operation (calm _ (List.mem_singleton_self _))
  | turn index => exact turn_accounted ready accounted now index
  | ask workspace key request => exact (List.append_nil told).symm ▸ begin_accounted accounted trivial
  | report workspace key report => exact (List.append_nil told).symm ▸ begin_accounted accounted trivial
  | askAll workspace request =>
    refine (List.append_nil told).symm ▸ begin_accounted accounted ⟨fun _ _ => nofun, ?_⟩
    exact fun e listed => ready.sound.listed_lasts listed

theorem play_accounted {moves : List (Moment × Move)}
    (calm : ∀ answer ∈ empty.chronicle answers moves, ¬ Jammed answer) :
    (empty.play moves).Accounted (empty.chronicle made moves) := by
  refine play_told (P := Accounted) ⟨Store.empty_tallied, ?_, ?_⟩ ?_
  · exact fun _ member => absurd member List.not_mem_nil
  · exact fun _ member => absurd member List.not_mem_nil
  · intro before now move later split ready accounted
    refine after_accounted ready accounted now move fun answer given => calm answer ?_
    rw [split, chronicle_append]
    exact List.mem_append_right _ (List.mem_append_left _ given)

end Scene

theorem exposures_add_up {moves : List (Moment × Move)}
    (calm : ∀ answer ∈ Scene.empty.chronicle Scene.answers moves, ¬ Jammed answer)
    (finished : ∀ pending ∈ (Scene.empty.play moves).pending,
      ∃ answer, pending.outcome? = some answer ∧ ¬ Jammed answer) :
    ∀ row ∈ (Scene.empty.play moves).store.assignments, row.SeenAt (Showing.timesOf row.id
      ((Scene.empty.chronicle Scene.made moves).filter (Scene.empty.play moves).handsOver)) := by
  have accounted := Scene.play_accounted calm
  have sound := (Scene.play_ready Scene.empty_ready moves).sound
  intro row present
  have handed : ∀ m ∈ Scene.empty.chronicle Scene.made moves, decide (m.decision.assignment = row.id) = true →
      (Scene.empty.play moves).handsOver m = true := by
    intro m member hit
    have hit : m.decision.assignment = row.id := of_decide_eq_true hit
    unfold Scene.handsOver
    cases maker : m.request with
    | none => rfl
    | some index =>
      obtain ⟨pending, found, concluded | named⟩ := accounted.makers m member index maker
      · exact absurd (hit.symm.trans concluded) (sound.rowsIssued row present).ne_concluded
      · have there := List.mem_of_getElem? found
        obtain ⟨answer, ended, passed⟩ := finished pending there
        obtain jammed | rfl := Pending.outcome_named named (accounted.backed pending there) ended
        · exact absurd jammed passed
        · simp only [found, Option.bind_some, ended]
  unfold Showing.timesOf
  rw [filter_inside handed]
  exact accounted.tallied.rows row present

-- After the lost race the customer is shown her row twice more, once by a round that is interrupted, and a row is pinned
-- that nobody is shown.
def busyDay : List (Moment × Move) :=
  lostRace ++
    [(⟨8⟩, .askAll "shop" ⟨⟨some "ann", none, none⟩, none⟩), (⟨9⟩, .turn 2),
      (⟨9⟩, .perform "shop" (.pin "id-1" ⟨⟨none, none, some "u"⟩, "id-2"⟩)), (⟨10⟩, .turn 2),
      (⟨11⟩, .perform "shop" (.assignAll ⟨⟨some "ann", none, none⟩, none⟩))]

theorem busyDay_adds_up : (∀ answer ∈ Scene.empty.chronicle Scene.answers busyDay, ¬ Jammed answer) ∧
    (∀ pending ∈ (Scene.empty.play busyDay).pending, ∃ answer, pending.outcome? = some answer ∧ ¬ Jammed answer) ∧
    (∃ row ∈ (Scene.empty.play busyDay).store.assignments, row.source = .auto ∧
      row.SeenAt [⟨4⟩, ⟨7⟩, ⟨10⟩, ⟨11⟩]) ∧
    ∃ row ∈ (Scene.empty.play busyDay).store.assignments, row.source = .override ∧ row.SeenAt [] := by
  have calm : ∀ answer ∈ Scene.empty.chronicle Scene.answers busyDay, ¬ Jammed answer := by decide +kernel
  have finished : ∀ pending ∈ (Scene.empty.play busyDay).pending,
      ∃ answer, pending.outcome? = some answer ∧ ¬ Jammed answer := by
    have each : ∀ pending ∈ (Scene.empty.play busyDay).pending,
        pending.outcome?.map (fun answer => decide (Jammed answer)) = some false := by decide +kernel
    intro pending member
    obtain ⟨answer, ended, calm⟩ := Option.map_eq_some_iff.mp (each pending member)
    exact ⟨answer, ended, of_decide_eq_false calm⟩
  have seen := exposures_add_up calm finished
  obtain ⟨shown, present, auto, id⟩ : ∃ row ∈ (Scene.empty.play busyDay).store.assignments, row.source = .auto ∧
      row.id = "id-4" := by decide +kernel
  obtain ⟨pinned, there, override, id'⟩ : ∃ row ∈ (Scene.empty.play busyDay).store.assignments,
      row.source = .override ∧ row.id = "id-6" := by decide +kernel
  have times : Showing.timesOf "id-4" ((Scene.empty.chronicle Scene.made busyDay).filter
      (Scene.empty.play busyDay).handsOver) = [⟨4⟩, ⟨7⟩, ⟨10⟩, ⟨11⟩] := by decide +kernel
  have none : Showing.timesOf "id-6" ((Scene.empty.chronicle Scene.made busyDay).filter
      (Scene.empty.play busyDay).handsOver) = [] := by decide +kernel
  refine ⟨calm, finished, ⟨shown, present, auto, ?_⟩, pinned, there, override, ?_⟩
  · rw [← times, ← id]
    exact seen shown present
  · rw [← none, ← id']
    exact seen pinned there

end Cohort
