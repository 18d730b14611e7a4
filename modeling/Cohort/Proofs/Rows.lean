import Cohort.Proofs.Scene

-- What every stored row satisfies, whichever requests have written it and in whatever order they took their turns.
namespace Cohort

-- A row that has been seen was last seen no earlier than first, and no later than the clock reads.
def Assignment.Timed (clock : Moment) (a : Assignment) : Prop :=
  ∀ first, a.firstExposure = some first → ∃ last, a.lastExposure = some last ∧ first ≤ last ∧ last ≤ clock

def Store.Timed (s : Store) (clock : Moment) : Prop := ∀ a ∈ s.assignments, a.Timed clock

namespace Assignment

theorem Timed.later {a : Assignment} {clock now : Moment} (timed : a.Timed clock) (later : clock ≤ now) :
    a.Timed now := by
  intro first seen
  obtain ⟨last, seenLast, order, bound⟩ := timed first seen
  exact ⟨last, seenLast, order, Moment.trans bound later⟩

theorem exposed_timed {a : Assignment} {now : Moment} (timed : a.Timed now) : (Store.exposed now a).Timed now := by
  rintro first ⟨⟩
  refine ⟨now, rfl, ?_, now.refl⟩
  cases seen : a.firstExposure with
  | none => exact now.refl
  | some before =>
    obtain ⟨last, _, order, bound⟩ := timed before seen
    exact Moment.trans order bound

theorem new_timed {id workspace experiment variant key : String} {subject : Subject} {source : Source}
    {exposedAt : Option Moment} {now : Moment} (seen : exposedAt = none ∨ exposedAt = some now) :
    (new id workspace experiment variant subject key source exposedAt now).Timed now := by
  intro first shown
  rcases seen with rfl | rfl
  · cases shown
  · cases shown
    exact ⟨now, rfl, now.refl, now.refl⟩

end Assignment

namespace Act
variable {workspace : String} {now : Moment} {s : Store}

theorem apply_timed (timed : s.Timed now) (act : Act) : (act.apply workspace now s).Timed now := by
  cases act with
  | lose | create _ | revise _ _ | addVariant _ _ | reviseVariant _ _ => exact timed
  | removeVariant id =>
    intro a kept
    exact timed a (List.mem_filter.mp kept).1
  | draw id variant subject key =>
    exact Store.all_added timed (Assignment.new_timed (.inr rfl))
  | pin id variant subject key =>
    have left : ∀ a ∈ (s.without id subject).assignments, a.Timed now := by
      intro a kept
      exact timed a (List.mem_filter.mp kept).1
    exact Store.all_added left (Assignment.new_timed (.inl rfl))
  | expose row =>
    intro a present
    obtain ⟨b, old, rfl⟩ := List.mem_map.mp present
    split
    · exact Assignment.exposed_timed (timed b old)
    · exact timed b old
  | convert row value metadata =>
    intro a present
    obtain ⟨b, old, rfl⟩ := List.mem_map.mp present
    split
    · exact timed b old
    · exact timed b old

theorem Commits.timed {may : Act → Prop} {next : Store} (committed : Commits may workspace now s next) {clock : Moment}
    (timed : s.Timed clock) (later : clock ≤ now) : next.Timed now := by
  induction committed with
  | nothing => exact fun a present => (timed a present).later later
  | step _ _ _ ih => exact apply_timed ih _

end Act

-- Everything is timed as long as no move reads an earlier clock than the move before it.
theorem Scene.play_timed {scene : Scene} (ready : scene.Ready) {clock : Moment} (timed : scene.store.Timed clock)
    {moves : List (Moment × Move)} (forward : (clock :: moves.map (·.1)).Pairwise (· ≤ ·)) :
    ∃ end', (scene.play moves).store.Timed end' := by
  induction moves generalizing scene clock with
  | nil => exact ⟨clock, timed⟩
  | cons move rest ih =>
    obtain ⟨committed, next⟩ := after_commits ready move.1 move.2
    rw [List.map_cons, List.pairwise_cons] at forward
    have later := forward.1 move.1 List.mem_cons_self
    exact ih next (committed.timed timed later) forward.2

structure Assignment.Proper (s : Store) (row : Assignment) : Prop where
  experiment : ∃ e ∈ s.experiments, e.id = row.experiment ∧ e.workspace = row.workspace
  variant : ∃ v ∈ s.variants, v.id = row.variant ∧ v.experiment = row.experiment
  key : ∃ kind value, row.subject.Leads kind value ∧ row.subjectKey = kind.name ++ ":" ++ value
  alone : ∀ other ∈ s.assignments, other.id ≠ row.id → other.experiment = row.experiment →
    other.subjectKey ≠ row.subjectKey ∧
      ∀ kind value, row.subject.given kind = some value → other.subject.given kind ≠ some value
  unseen : row.exposures = 0 ↔ row.firstExposure = none
  together : row.firstExposure = none ↔ row.lastExposure = none
  drawn : row.source = .auto → 1 ≤ row.exposures
  unconverted : row.convertedAt = none → row.value = none ∧ row.conversionMetadata = .null

theorem Store.Sound.proper {s : Store} (sound : s.Sound) {row : Assignment} (present : row ∈ s.assignments) :
    row.Proper s where
  experiment := (sound.refers row present).experiment
  variant := (sound.refers row present).variant
  key := Subject.key_exact.mp (sound.tidy row present).key
  alone := by
    intro other there different together
    have apart := sound.apart other there row present different
    refine ⟨?_, ?_⟩
    · intro same
      rw [Assignment.clashes_exact.mpr ⟨together, .inl same⟩] at apart
      cases apart
    · intro kind value mine theirs
      rw [Assignment.clashes_exact.mpr ⟨together, .inr ⟨kind, value, theirs, mine⟩⟩] at apart
      cases apart
  unseen := (sound.tidy row present).unseen
  together := (sound.tidy row present).together
  drawn := (sound.tidy row present).drawn
  unconverted := (sound.tidy row present).unconverted

theorem rows_proper (moves : List (Moment × Move)) :
    ((Scene.empty.play moves).store.assignments.map (·.id)).Nodup ∧
    ∀ row ∈ (Scene.empty.play moves).store.assignments, row.Proper (Scene.empty.play moves).store ∧
      ((moves.map (·.1)).Pairwise (· ≤ ·) → ∀ first last, row.firstExposure = some first →
        row.lastExposure = some last → first ≤ last) := by
  have sound := (Scene.play_ready Scene.empty_ready moves).sound
  refine ⟨sound.rowIds, ?_⟩
  intro row present
  refine ⟨sound.proper present, ?_⟩
  intro forward first last seen seenLast
  have start : Scene.empty.store.Timed ⟨0⟩ := fun _ member => absurd member List.not_mem_nil
  have order : ((⟨0⟩ : Moment) :: moves.map (·.1)).Pairwise (· ≤ ·) := by
    rw [List.pairwise_cons]
    exact ⟨fun later _ => Nat.zero_le later.micros, forward⟩
  obtain ⟨_, timed⟩ := Scene.play_timed Scene.empty_ready start order
  obtain ⟨moment, shown, bound, _⟩ := timed row present first seen
  rw [seenLast] at shown
  cases shown
  exact bound

-- Two requests for one customer have both looked before either writes; the slower one finds the row of the other.
def lostRace : List (Moment × Move) :=
  let subject : Subject := ⟨some "ann", some "", none⟩
  Scene.shop ++
    [(⟨1⟩, .ask "shop" "price" ⟨subject, none⟩), (⟨1⟩, .ask "shop" "price" ⟨subject, none⟩)] ++
    [(⟨2⟩, .turn 0), (⟨3⟩, .turn 1), (⟨4⟩, .turn 0), (⟨5⟩, .turn 1), (⟨6⟩, .turn 1), (⟨7⟩, .turn 1)]

theorem lostRace_rows_proper : (lostRace.map (·.1)).Pairwise (· ≤ ·) ∧
    ∃ row ∈ (Scene.empty.play lostRace).store.assignments, row.exposures = 2 ∧
      row.Proper (Scene.empty.play lostRace).store ∧ row.firstExposure = some ⟨4⟩ ∧ row.lastExposure = some ⟨7⟩ ∧
      (⟨4⟩ : Moment) ≤ ⟨7⟩ := by
  have forward : (lostRace.map (·.1)).Pairwise (· ≤ ·) := by decide
  have stored : ∃ row ∈ (Scene.empty.play lostRace).store.assignments, row.exposures = 2 ∧
      row.firstExposure = some ⟨4⟩ ∧ row.lastExposure = some ⟨7⟩ := by decide +kernel
  obtain ⟨row, present, twice, first, last⟩ := stored
  obtain ⟨proper, order⟩ := (rows_proper lostRace).2 row present
  exact ⟨forward, row, present, twice, proper, first, last, order forward ⟨4⟩ ⟨7⟩ first last⟩

end Cohort
