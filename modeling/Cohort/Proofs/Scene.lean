import Cohort.Proofs.Acts.Turns

-- Requests under way at the same time. Requests for decisions and reports of conversions are done turn by turn, in
-- any order; every turn is one step of the store and reads the clock for itself.
namespace Cohort

-- A request that has begun, with the turn it takes next. A round asks for the experiments that are left, one after
-- the other. What a database session does with the rows it has loaded is left out: here they stay as they were listed,
-- where a session reads them again after each commit of its own.
inductive Pending where
  | single (visit : Visit) (turn : Turn)
  | round (visit : Visit) (turn : Turn) (left : List Experiment)
  | report (notice : Conversion.Notice) (turn : Conversion.Turn)

namespace Pending

def workspace : Pending → String
  | .single visit _ => visit.workspace
  | .round visit _ _ => visit.workspace
  | .report notice _ => notice.workspace

def Permits : Pending → Act → Prop
  | .single visit _ | .round visit _ _ => Visit.Permits visit.subject
  | .report notice _ => Conversion.Permits notice.report

theorem permits_onRows {pending : Pending} {act : Act} (permitted : pending.Permits act) : act.OnRows := by
  cases pending with
  | single visit turn | round visit turn left => exact Visit.Permits.onRows permitted
  | report notice turn => exact Conversion.Permits.onRows permitted

def advance (now : Moment) (s : Store) : Pending → Pending × Store
  | .single visit turn =>
    let next := { visit with now := now }.advance turn s
    (.single visit next.1, next.2)
  | .round visit (.settled (.ok _)) (e :: rest) => (.round visit (visit.enter s e) rest, s)
  | .round visit turn left =>
    let next := { visit with now := now }.advance turn s
    (.round visit next.1 left, next.2)
  | .report notice turn =>
    let next := { notice with now := now }.advance turn s
    (.report notice next.1, next.2)

def Grounded (s : Store) : Pending → Prop
  | .single visit turn => turn.Grounded visit.workspace s
  | .round visit turn left => turn.Grounded visit.workspace s ∧
      ∀ e ∈ left, e.status = .running → s.Launched visit.workspace e.id
  | .report notice turn => turn.Grounded notice.workspace s

theorem Grounded.kept {s next : Store} {pending : Pending} (kept : s.Kept next) (grounded : pending.Grounded s) :
    pending.Grounded next := by
  cases pending with
  | single visit turn => exact Turn.Grounded.kept kept grounded
  | round visit turn left =>
    refine ⟨Turn.Grounded.kept kept grounded.1, ?_⟩
    intro e member running
    exact kept.launched _ _ (grounded.2 e member running)
  | report notice turn => exact Conversion.Turn.Grounded.kept kept grounded

theorem advance_commits {s : Store} {pending : Pending} (sound : s.Sound) (grounded : pending.Grounded s)
    (now : Moment) : Act.Commits pending.Permits pending.workspace now s (pending.advance now s).2 ∧
      (pending.advance now s).1.Grounded (pending.advance now s).2 := by
  unfold advance
  split
  · rename_i visit turn
    exact Visit.advance_commits { visit with now := now } sound grounded
  · rename_i visit decision e rest
    refine ⟨.nothing, Visit.enter_grounded sound (grounded.2 e List.mem_cons_self), ?_⟩
    intro later member
    exact grounded.2 later (List.mem_cons_of_mem _ member)
  · rename_i visit turn left _
    obtain ⟨step, ready⟩ := Visit.advance_commits { visit with now := now } sound grounded.1
    refine ⟨step, ready, ?_⟩
    intro e member running
    exact (step.kept sound).launched _ _ (grounded.2 e member running)
  · rename_i notice turn
    obtain ⟨step, ready⟩ := Conversion.Notice.advance_once { notice with now := now } sound grounded
    exact ⟨step.commits, ready⟩

end Pending

structure Scene where
  store : Store
  pending : List Pending

-- A request is done as a whole, or it begins, or one that has begun takes a turn.
inductive Move where
  | perform (workspace : String) (operation : Operation)
  | ask (workspace key : String) (request : DecisionRequest)
  | askAll (workspace : String) (request : DecisionRequest)
  | report (workspace key : String) (report : ConversionReport)
  | turn (index : Nat)

namespace Scene

def empty : Scene := ⟨.empty, []⟩

def turn (scene : Scene) (now : Moment) (index : Nat) : Scene :=
  match scene.pending[index]? with
  | none => scene
  | some pending =>
    let next := pending.advance now scene.store
    ⟨next.2, scene.pending.set index next.1⟩

def begin (scene : Scene) (pending : Pending) : Scene := { scene with pending := scene.pending ++ [pending] }

def after (scene : Scene) (now : Moment) : Move → Scene
  | .perform workspace operation => { scene with store := (operation.run workspace now scene.store).2 }
  | .ask workspace key request => scene.begin (.single (Operation.visitOf workspace now request) (.looking key))
  | .askAll workspace request => scene.begin (.round (Operation.visitOf workspace now request) (.settled (.ok none))
      (scene.store.list workspace ⟨some .running, none, false⟩))
  | .report workspace key report => scene.begin (.report ⟨workspace, now, report⟩ (.looking key))
  | .turn index => scene.turn now index

def play (moves : List (Moment × Move)) (scene : Scene) : Scene :=
  moves.foldl (fun scene move => scene.after move.1 move.2) scene

theorem play_append (scene : Scene) (first later : List (Moment × Move)) :
    scene.play (first ++ later) = (scene.play first).play later := List.foldl_append

def actor (scene : Scene) : Move → String
  | .perform workspace _ | .ask workspace _ _ | .askAll workspace _ | .report workspace _ _ => workspace
  | .turn index => (scene.pending[index]?.map Pending.workspace).getD ""

def Permits (scene : Scene) : Move → Act → Prop
  | .perform _ operation => operation.Permits
  | .turn index => fun act => ∃ pending, scene.pending[index]? = some pending ∧ pending.Permits act
  | _ => fun _ => False

-- Turns are taken on rows alone, so all else is done by a request as a whole.
theorem Permits.performs {scene : Scene} {move : Move} {act : Act} (permitted : scene.Permits move act)
    (other : ¬ act.OnRows) :
    ∃ operation, move = .perform (scene.actor move) operation ∧ operation.Permits act := by
  cases move with
  | perform workspace operation => exact ⟨operation, rfl, permitted⟩
  | turn index =>
    obtain ⟨pending, _, permitted⟩ := permitted
    exact absurd (Pending.permits_onRows permitted) other
  | ask _ _ _ | askAll _ _ | report _ _ _ => exact permitted.elim

-- The invariant of every scene that is played from the empty store.
structure Ready (scene : Scene) : Prop where
  sound : scene.store.Sound
  grounded : ∀ pending ∈ scene.pending, pending.Grounded scene.store

theorem empty_ready : empty.Ready where
  sound := Store.empty_sound
  grounded := fun _ member => absurd member List.not_mem_nil

-- Whatever is done next, one workspace at most has acted on the store, and all that was under way still stands on
-- firm ground.
theorem turn_commits {scene : Scene} (ready : scene.Ready) (now : Moment) (index : Nat) :
    Act.Commits (scene.Permits (.turn index)) (scene.actor (.turn index)) now scene.store (scene.turn now index).store ∧
      (scene.turn now index).Ready := by
  unfold turn
  cases found : scene.pending[index]? with
  | none => exact ⟨.nothing, ready⟩
  | some pending =>
    have member := List.mem_of_getElem? found
    obtain ⟨step, grounded⟩ := Pending.advance_commits ready.sound (ready.grounded pending member) now
    have actor : scene.actor (.turn index) = pending.workspace := by simp [Scene.actor, found]
    refine ⟨actor ▸ step.among fun _ permitted => ⟨pending, found, permitted⟩, step.sound ready.sound, ?_⟩
    intro other present
    rcases List.mem_or_eq_of_mem_set present with old | new
    · exact (ready.grounded other old).kept (step.kept ready.sound)
    · exact new ▸ grounded

theorem begin_ready {scene : Scene} (ready : scene.Ready) {pending : Pending}
    (grounded : pending.Grounded scene.store) : (scene.begin pending).Ready :=
  ⟨ready.sound, Store.all_added ready.grounded grounded⟩

theorem after_commits {scene : Scene} (ready : scene.Ready) (now : Moment) (move : Move) :
    Act.Commits (scene.Permits move) (scene.actor move) now scene.store (scene.after now move).store ∧
      (scene.after now move).Ready := by
  cases move with
  | perform workspace operation =>
    have step := Operation.run_commits ready.sound workspace now operation
    refine ⟨step, step.sound ready.sound, ?_⟩
    intro pending present
    exact (ready.grounded pending present).kept (step.kept ready.sound)
  | ask workspace key request => exact ⟨.nothing, begin_ready ready trivial⟩
  | askAll workspace request =>
    refine ⟨.nothing, begin_ready ready ⟨trivial, ?_⟩⟩
    intro e listed _
    exact Decision.listed_launched rfl listed
  | report workspace key report => exact ⟨.nothing, begin_ready ready trivial⟩
  | turn index => exact turn_commits ready now index

theorem play_ready {scene : Scene} (ready : scene.Ready) (moves : List (Moment × Move)) :
    (play moves scene).Ready := by
  induction moves generalizing scene with
  | nil => exact ready
  | cons move rest ih =>
    exact ih (after_commits ready move.1 move.2).2

end Scene

inductive Move.Effect (now : Moment) (move : Move) (s : Store) : Store → Prop where
  | act (scene : Scene) (act : Act) (sound : s.Sound) (permitted : scene.Permits move act)
      (allowed : act.Allowed (scene.actor move) now s) : Effect now move s (act.apply (scene.actor move) now s)

theorem Scene.after_carries {P : Store → Prop} {scene : Scene} (ready : scene.Ready) {now : Moment} {move : Move}
    (kept : ∀ s next, move.Effect now s next → P s → P next) (start : P scene.store) :
    P (scene.after now move).store :=
  (after_commits ready now move).1.carries ready.sound
    (fun act s sound permitted allowed => kept s _ (.act scene act sound permitted allowed)) start

-- What every act of every move keeps, all of them together keep.
theorem Scene.play_carries {P : Store → Prop} {scene : Scene} (ready : scene.Ready) {moves : List (Moment × Move)}
    (kept : ∀ move ∈ moves, ∀ s next, move.2.Effect move.1 s next → P s → P next) (start : P scene.store) :
    P (scene.play moves).store := by
  induction moves generalizing scene with
  | nil => exact start
  | cons move rest ih =>
    refine ih (after_commits ready move.1 move.2).2 (fun other later => kept other (List.mem_cons_of_mem _ later)) ?_
    exact after_carries ready (kept move List.mem_cons_self) start

def Scene.Played (scene : Scene) : Prop := ∃ moves, Scene.empty.play moves = scene

theorem Scene.Played.ready {scene : Scene} (played : scene.Played) : scene.Ready := by
  obtain ⟨moves, rfl⟩ := played
  exact play_ready empty_ready moves

-- The stores that requests lead to from the empty one, done one after the other or turn by turn.
def Attained (s : Store) : Prop := ∃ moves, (Scene.empty.play moves).store = s

theorem Attained.sound {s : Store} (attained : Attained s) : s.Sound := by
  obtain ⟨moves, rfl⟩ := attained
  exact (Scene.play_ready Scene.empty_ready moves).sound

-- The shortest way to an experiment that lets everybody in: two variants of equal weight, then the start. The id is
-- the one that the experiment is given.
def Scene.opening (workspace id : String) (key : Key) : List (Moment × Move) :=
  let variant (key : Key) : VariantDraft := ⟨key, "", none, .one, [], false⟩
  [Operation.create ⟨key, "", none, .feature, .all, [], none, none, []⟩, .addVariant id (variant ⟨"a", by decide⟩),
    .addVariant id (variant ⟨"b", by decide⟩), .start id].map fun operation => (⟨0⟩, .perform workspace operation)

-- A shop that tries its prices.
def Scene.shop : List (Moment × Move) := opening "shop" "id-1" ⟨"price", by decide⟩

end Cohort
