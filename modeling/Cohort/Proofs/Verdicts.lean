import Cohort.Proofs.Winners

-- The winner that is stored of an experiment is one of its own variants, or it is empty and names nobody.
namespace Cohort

theorem Lifecycle.ended_allows {action : Action} {status : Status} (ended : status = .concluded ∨ status = .archived)
    (allowed : allows action status = true) : action = .archive := by
  rcases ended with rfl | rfl
  · cases action <;> simp [allows] at allowed ⊢
  · cases action <;> simp [allows] at allowed ⊢

namespace Store
variable {s next : Store} {e : Experiment}

theorem Issued.ne_blank {id : String} (issued : s.Issued id) : id ≠ "" := by
  rintro rfl
  obtain ⟨n, _, same⟩ := issued
  have spelled := congrArg String.toList same
  simp [idOf, String.toList_append] at spelled

-- Only an experiment that has ended has a winner, and only one that it may have.
structure Judges (s : Store) (e : Experiment) : Prop where
  ended : e.winner ≠ none → e.status = .concluded ∨ e.status = .archived
  eligible : s.Eligible e.id e.winner

theorem judges_open (none' : e.winner = none) : s.Judges e where
  ended := absurd none'
  eligible := by simp [Eligible, none']

-- Once there is a winner, nothing but the archive is left.
theorem Judges.undecided (judges : s.Judges e) {action : Action} (allowed : Lifecycle.allows action e.status = true)
    (other : action ≠ .archive) : e.winner = none := by
  by_contra won
  exact other (Lifecycle.ended_allows (judges.ended won) allowed)

-- An experiment with a winner has been launched, so it loses no variant.
theorem Judges.kept (judges : s.Judges e) (present : e ∈ s.experiments) (kept : s.Kept next) : next.Judges e where
  ended := judges.ended
  eligible := by
    intro w won
    have launched : s.Launched e.workspace e.id := by
      refine ⟨e, present, rfl, rfl, ?_⟩
      rcases judges.ended (by simp [won]) with stage | stage
      · simp [stage]
      · simp [stage]
    exact (judges.eligible w won).imp_right (kept.owns e.workspace e.id w launched)

def Verdicts (s : Store) : Prop := ∀ e ∈ s.experiments, s.Judges e

theorem empty_verdicts : Verdicts .empty := fun _ present => absurd present List.not_mem_nil

end Store

theorem Plan.judges {s : Store} {now : Moment} {e : Experiment} {r : ExperimentRevision} (plan : Plan s now e r)
    (judges : s.Judges e) : s.Judges (r.applied now e) := by
  cases plan with
  | update changes => exact ⟨judges.ended, judges.eligible⟩
  | start allowed enough => exact Store.judges_open (judges.undecided allowed (by decide))
  | pause allowed => exact Store.judges_open (judges.undecided allowed (by decide))
  | conclude winner allowed own =>
    refine ⟨fun _ => .inl Change.plain_set, fun w won => ?_⟩
    exact Catalogue.isOwn_exact.mp (own w (Change.plain_set.symm.trans won))
  | archive => exact ⟨fun _ => .inr Change.plain_set, judges.eligible⟩

theorem Act.apply_verdicts {workspace : String} {now : Moment} {s : Store} {act : Act} (sound : s.Sound)
    (verdicts : s.Verdicts) (allowed : act.Allowed workspace now s) : (act.apply workspace now s).Verdicts := by
  have old {e : Experiment} (present : e ∈ s.experiments) : (act.apply workspace now s).Judges e :=
    (verdicts e present).kept present (apply_kept sound allowed)
  intro x present
  cases act with
  | create draft =>
    rcases List.mem_append.mp present with before | new
    · exact old before
    · rw [List.mem_singleton.mp new]
      exact Store.judges_open rfl
  | revise e r =>
    obtain ⟨b, before, rfl⟩ := List.mem_map.mp present
    split
    · have judges := allowed.2.2.judges (verdicts e allowed.1)
      exact ⟨judges.ended, judges.eligible⟩
    · exact old before
  | lose | addVariant _ _ | reviseVariant _ _ | removeVariant _ | draw _ _ _ _ | pin _ _ _ _ | expose _
    | convert _ _ _ => exact old present

theorem Scene.play_verdicts {scene : Scene} (ready : scene.Ready) (verdicts : scene.store.Verdicts)
    (moves : List (Moment × Move)) : (scene.play moves).store.Verdicts := by
  refine play_carries ready ?_ verdicts
  rintro move _ s _ ⟨made, act, sound, _, allowed⟩ verdicts
  exact Act.apply_verdicts sound verdicts allowed

theorem Attained.verdicts {s : Store} (attained : Attained s) : s.Verdicts := by
  obtain ⟨moves, rfl⟩ := attained
  exact Scene.play_verdicts Scene.empty_ready Store.empty_verdicts moves

-- A winner that is sent with half of a surrogate pair in its name is refused, and nothing is written.
theorem Operation.runSent_concludes (address : Address) (now : Moment) (data : Json) (s : Store) (id : String)
    (winner : Option String) : ((Operation.conclude id winner).runSent address now data s).2 = s ∨
      ∃ workspace, (Operation.conclude id winner).runSent address now data s =
        Operation.run workspace now s (.conclude id winner) := by
  unfold runSent
  split
  · split
    · exact .inr ⟨_, rfl⟩
    · exact .inl rfl
  · exact .inl rfl

theorem winners_real_or_blank {s : Store} (attained : Attained s) :
    (∀ v ∈ s.variants, v.id ≠ "") ∧
    (∀ e ∈ s.experiments,
      (e.winner ≠ none → e.status = .concluded ∨ e.status = .archived) ∧
      (∀ w, e.winner = some w → w ≠ "" → ∃ v ∈ s.variants, v.id = w ∧ v.experiment = e.id) ∧
      (e.status = .running ∨ e.status = .paused → ∀ now winner,
        ((∀ w, winner = some w → w = "" ∨ ∃ v ∈ s.variants, v.id = w ∧ v.experiment = e.id) →
          ∃ view, (Operation.run e.workspace now s (.conclude e.id winner)).1 = .ok (.experiment view) ∧
            ∃ x ∈ (Operation.run e.workspace now s (.conclude e.id winner)).2.experiments,
              x.id = e.id ∧ x.status = .concluded ∧ x.winner = winner) ∧
        ∀ w, winner = some w → w ≠ "" → (∀ v ∈ s.variants, v.id = w → v.experiment ≠ e.id) →
          Operation.run e.workspace now s (.conclude e.id winner) = (.error (.foreignWinner w), s))) ∧
    ∀ address now data id winner, ((Operation.conclude id winner).runSent address now data s).2 = s ∨
      ∃ workspace, (Operation.conclude id winner).runSent address now data s =
        Operation.run workspace now s (.conclude id winner) := by
  have sound := attained.sound
  refine ⟨fun v present => (sound.variantsIssued v present).ne_blank, fun e present => ?_, ?_⟩
  · have judges := attained.verdicts e present
    refine ⟨judges.ended, fun w won some' => (judges.eligible w won).resolve_left some', fun ongoing now winner => ?_⟩
    have timely : Lifecycle.allows .conclude e.status = true := by
      rcases ongoing with stage | stage
      · simp [Lifecycle.allows, stage]
      · simp [Lifecycle.allows, stage]
    constructor
    · intro eligible
      obtain ⟨⟨view, answered⟩, written⟩ := Catalogue.conclude_stores timely sound present eligible now
      obtain ⟨x, there, id, _, _, status, won⟩ := written.row
      refine ⟨view, ?_, x, there, id, status, won⟩
      simp only [Operation.run, Outcome.map, answered, Except.map]
    · rintro w rfl some' foreign
      have missing : ¬ s.Owns e.id w := by
        rintro ⟨v, there, named, own⟩
        exact foreign v there named own
      simp only [Operation.run, Catalogue.conclude_foreign timely sound present some' missing]
      rfl
  · intro address now data id winner
    exact Operation.runSent_concludes address now data s id winner

-- The price is settled for nobody, and then for a variant that it does not have.
theorem shop_names_nobody :
    let s := (Scene.empty.play Scene.shop).store
    Attained s ∧ (∀ v ∈ s.variants, v.id ≠ "") ∧ ∃ e ∈ s.experiments, e.winner = none ∧
      (∃ x ∈ (Operation.run e.workspace ⟨1⟩ s (.conclude e.id (some ""))).2.experiments,
        x.id = e.id ∧ x.status = .concluded ∧ x.winner = some "") ∧
      Operation.run e.workspace ⟨1⟩ s (.conclude e.id (some "id-1")) = (.error (.foreignWinner "id-1"), s) := by
  intro s
  have attained : Attained s := ⟨_, rfl⟩
  obtain ⟨e, present, none', running, foreign⟩ : ∃ e ∈ s.experiments, e.winner = none ∧ e.status = .running ∧
      ∀ v ∈ s.variants, v.id = "id-1" → v.experiment ≠ e.id := by decide +kernel
  obtain ⟨named, stored, _⟩ := winners_real_or_blank attained
  have concludes := (stored e present).2.2 (.inl running) ⟨1⟩
  obtain ⟨_, _, blank⟩ := (concludes (some "")).1 fun w same => .inl (Option.some.inj same).symm
  exact ⟨attained, named, e, present, none', blank, (concludes (some "id-1")).2 "id-1" rfl (by decide) foreign⟩

end Cohort
