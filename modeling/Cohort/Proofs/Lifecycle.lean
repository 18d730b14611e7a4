import Mathlib.Logic.Relation
import Cohort.Proofs.Scene

-- Which stages an experiment goes through in the course of any number of requests, and what it keeps of its variants
-- from its launch on.
namespace Cohort

namespace Order
variable {before : α → α → Bool} {change : α → α}

theorem place_change {x : α} {xs : List α} (same : ∀ y ∈ xs, before (change y) (change x) = before y x) :
    place before (change x) (xs.map change) = (place before x xs).map change := by
  induction xs with
  | nil => rfl
  | cons y rest ih =>
    have others := ih fun z later => same z (List.mem_cons_of_mem _ later)
    simp only [List.map_cons, place, same y List.mem_cons_self, others]
    split
    · rfl
    · rfl

theorem arrange_change {xs : List α} (same : ∀ x ∈ xs, ∀ y ∈ xs, before (change y) (change x) = before y x) :
    arrange before (xs.map change) = (arrange before xs).map change := by
  induction xs with
  | nil => rfl
  | cons x rest ih =>
    have others := ih fun y first z second =>
      same y (List.mem_cons_of_mem _ first) z (List.mem_cons_of_mem _ second)
    show place before (change x) (arrange before (rest.map change)) = (place before x (arrange before rest)).map change
    rw [others]
    apply place_change
    intro y member
    exact same x List.mem_cons_self y (List.mem_cons_of_mem _ (mem_arrange.mp member))

end Order

namespace Lifecycle

def Leads : Status → Status → Prop := Relation.ReflTransGen Moves

variable {first last : Status}

theorem Leads.launched (leads : Leads first last) (launched : first ≠ .draft) : last ≠ .draft := by
  induction leads with
  | refl => exact launched
  | tail _ moves _ => exact moves.launched

theorem Leads.concluded (leads : Leads first last) (concluded : first = .concluded) :
    last = .concluded ∨ last = .archived := by
  induction leads with
  | refl => exact .inl concluded
  | tail _ moves ih =>
    rcases ih with rfl | rfl
    · cases moves
      exact .inr rfl
    · cases moves
      exact .inr rfl

theorem Leads.archived (leads : Leads first last) (archived : first = .archived) : last = .archived := by
  induction leads with
  | refl => exact archived
  | tail _ moves ih =>
    subst ih
    cases moves
    rfl

end Lifecycle

def Variant.face (v : Variant) : String × String × Bool := (v.id, v.key, v.isControl)

namespace Store

def facesOf (s : Store) (id : String) : List (String × String × Bool) := (s.variantsOf id).map Variant.face

theorem facesOf_congr {s next : Store} {id : String}
    (same : next.variants.filter (·.experiment = id) = s.variants.filter (·.experiment = id)) :
    next.facesOf id = s.facesOf id := by
  simp only [facesOf, variantsOf, same]

-- A variant that is put over itself keeps its place.
theorem Sound.put_faces {s : Store} (sound : s.Sound) {v row : Variant} (present : v ∈ s.variants)
    (face : row.face = v.face) (experiment : row.experiment = v.experiment) (position : row.position = v.position)
    (id : String) : (s.putVariant row).facesOf id = s.facesOf id := by
  have named : row.id = v.id := congrArg (·.1) face
  have same {β : Type} (f : Variant → β) (still : f row = f v) {b : Variant} (there : b ∈ s.variants) :=
    put_same f row sound.variantIds present named still there
  have old {b : Variant} (chosen : b ∈ s.variants.filter (·.experiment = id)) : b ∈ s.variants :=
    (List.mem_filter.mp chosen).1
  unfold facesOf variantsOf putVariant
  rw [filter_changed fun b there => by rw [same (·.experiment) experiment there],
    Order.arrange_change fun b first c second => by
      rw [same (·.position) position (old first), same (·.position) position (old second)],
    List.map_map]
  refine List.map_congr_left fun b member => ?_
  exact same Variant.face face (old (Order.mem_arrange.mp member))

end Store

namespace Act
variable {workspace : String} {now : Moment} {s : Store} {act : Act}

def Recasts : Act → Prop
  | .addVariant _ _ | .removeVariant _ => True
  | _ => False

theorem faces_kept (sound : s.Sound) (allowed : act.Allowed workspace now s) (other : ¬ act.Recasts) (id : String) :
    (act.apply workspace now s).facesOf id = s.facesOf id := by
  cases act with
  | reviseVariant v changes =>
    have face : (changes.revision.applied now v).face = v.face := rfl
    exact sound.put_faces allowed.1 face rfl rfl id
  | addVariant _ _ | removeVariant _ => exact absurd trivial other
  | lose | create _ | revise _ _ | draw _ _ _ _ | pin _ _ _ _ | expose _ | convert _ _ _ => rfl

theorem faces_stay (sound : s.Sound) (allowed : act.Allowed workspace now s) {owner id : String}
    (launched : s.Launched owner id) : (act.apply workspace now s).facesOf id = s.facesOf id := by
  cases act with
  | addVariant other draft =>
    refine Store.facesOf_congr (filter_skipped s.variants (decide_eq_false ?_))
    rintro rfl
    exact sound.not_drafts launched allowed.1
  | removeVariant removed =>
    obtain ⟨v, present, named, drafts⟩ := allowed
    refine Store.facesOf_congr (filter_inside fun w there chosen => ?_)
    have own : w.experiment = id := of_decide_eq_true chosen
    apply decide_eq_true
    intro hit
    have same : w = v := sound.same_variant there present (hit.trans named.symm)
    subst same
    exact sound.not_drafts launched (own ▸ drafts)
  | reviseVariant _ _ | lose | create _ | revise _ _ | draw _ _ _ _ | pin _ _ _ _ | expose _ | convert _ _ _ =>
    exact faces_kept sound allowed not_false id

end Act

namespace Store

-- What the stages ask of the stored rows.
structure Fit (s : Store) : Prop where
  unique : (s.experiments.map (·.id)).Nodup
  enough : ∀ e ∈ s.experiments, e.status = .running ∨ e.status = .paused ∨ e.status = .concluded →
    2 ≤ (s.variantsOf e.id).length
  weights : ∀ v ∈ s.variants, 1 ≤ v.weight
  shares : ∀ e ∈ s.experiments, ∃ share : Int, e.trafficStored = .int share ∧ 0 ≤ share ∧ share ≤ 100

theorem Sound.fit {s : Store} (sound : s.Sound) : s.Fit where
  unique := sound.experimentIds
  enough := by
    intro e present open'
    apply sound.enough e present
    · rcases open' with stage | stage | stage <;> simp [stage]
    · rcases open' with stage | stage | stage <;> simp [stage]
  weights := sound.weights
  shares := by
    intro e present
    exact ⟨e.traffic, by simp [Experiment.trafficStored, sound.plain e present], sound.shares e present⟩

-- Every experiment stays where it is or takes one action, and one that was not there before is a draft.
structure Advances (s next : Store) : Prop where
  stays : ∀ e ∈ s.experiments, ∃ x ∈ next.experiments, x.Follows e
  origin : ∀ x ∈ next.experiments,
    (∃ e ∈ s.experiments, x.Follows e) ∨ (∀ e ∈ s.experiments, e.id ≠ x.id) ∧ x.status = .draft

theorem advances_same {s next : Store} (same : next.experiments = s.experiments) : s.Advances next where
  stays := fun e present => ⟨e, same ▸ present, .refl e⟩
  origin := fun x present => .inl ⟨x, same ▸ present, .refl x⟩

-- What becomes of every experiment in the long run.
def Progresses (s next : Store) : Prop := ∀ e ∈ s.experiments, ∃ x ∈ next.experiments,
  x.id = e.id ∧ Lifecycle.Leads e.status x.status ∧ (e.status ≠ .draft → next.facesOf e.id = s.facesOf e.id)

namespace Progresses

theorem refl (s : Store) : s.Progresses s := fun e present => ⟨e, present, rfl, .refl, fun _ => rfl⟩

theorem trans {s middle last : Store} (first : s.Progresses middle) (second : middle.Progresses last) :
    s.Progresses last := by
  intro e present
  obtain ⟨x, there, same, leads, faces⟩ := first e present
  obtain ⟨y, later, same', leads', faces'⟩ := second x there
  refine ⟨y, later, same'.trans same, leads.trans leads', ?_⟩
  intro launched
  rw [← faces launched, ← same]
  exact faces' (leads.launched launched)

end Progresses
end Store

namespace Act
variable {may : Act → Prop} {workspace : String} {now : Moment} {s next : Store} {act : Act}

theorem apply_advances (sound : s.Sound) (allowed : act.Allowed workspace now s) :
    s.Advances (act.apply workspace now s) where
  stays := fun _ present => experiment_stays sound allowed present
  origin := by
    intro x present
    rcases experiment_origin sound allowed present with old | ⟨fresh, draft⟩
    · exact .inl old
    · refine .inr ⟨fun e there hit => ?_, draft⟩
      exact (sound.experimentsIssued e there).ne_next (hit.trans fresh)

theorem apply_progresses (sound : s.Sound) (allowed : act.Allowed workspace now s) :
    s.Progresses (act.apply workspace now s) := by
  intro e present
  obtain ⟨x, there, follows⟩ := experiment_stays sound allowed present
  refine ⟨x, there, follows.id, ?_, ?_⟩
  · rcases follows.stage with same | moves
    · rw [same]
      exact .refl
    · exact .single moves
  · intro launched
    exact faces_stay sound allowed ⟨e, present, rfl, rfl, launched⟩

theorem Once.advances (written : Once may workspace now s next) (sound : s.Sound) : s.Advances next := by
  cases written with
  | nothing => exact Store.advances_same rfl
  | done act _ allowed => exact apply_advances sound allowed

theorem Commits.advances (committed : Commits may workspace now s next) (onRows : ∀ act, may act → act.OnRows)
    (sound : s.Sound) : s.Advances next := by
  apply Store.advances_same
  apply committed.carries sound
  · intro act middle _ permitted _ same
    exact ((onRows act permitted).catalogue workspace now middle).1.trans same
  · rfl

end Act

namespace Scene
variable {scene : Scene}

-- Requests that may write more than once do not write experiments, so that no move takes two actions.
theorem after_advances (ready : scene.Ready) (now : Moment) (move : Move) :
    scene.store.Advances (scene.after now move).store := by
  have committed := (after_commits ready now move).1
  cases move with
  | perform workspace operation =>
    by_cases decides : operation.Decides
    · exact committed.advances (fun _ => decides.onRows) ready.sound
    · exact (Operation.run_once ready.sound workspace now decides).advances ready.sound
  | turn index =>
    refine committed.advances ?_ ready.sound
    rintro act ⟨pending, _, permitted⟩
    exact Pending.permits_onRows permitted
  | ask _ _ _ | askAll _ _ | report _ _ _ => exact Store.advances_same rfl

theorem play_progresses (ready : scene.Ready) (moves : List (Moment × Move)) :
    scene.store.Progresses (scene.play moves).store := by
  refine play_carries ready (fun move _ s next effect progress => ?_) (.refl scene.store)
  cases effect with
  | act _ act sound _ allowed => exact progress.trans (Act.apply_progresses sound allowed)

end Scene

theorem experiments_move_on (moves : List (Moment × Move)) :
    (Scene.empty.play moves).store.Fit ∧
    (∀ now move, (Scene.empty.play moves).store.Advances ((Scene.empty.play moves).after now move).store) ∧
    ∀ later, ∀ e ∈ (Scene.empty.play moves).store.experiments,
      ∃ x ∈ (Scene.empty.play (moves ++ later)).store.experiments, x.id = e.id ∧
        (e.status ≠ .draft → x.status ≠ .draft ∧
          (Scene.empty.play (moves ++ later)).store.facesOf e.id = (Scene.empty.play moves).store.facesOf e.id) ∧
        (e.status = .concluded → x.status = .concluded ∨ x.status = .archived) ∧
        (e.status = .archived → x.status = .archived) := by
  have ready := Scene.play_ready Scene.empty_ready moves
  refine ⟨ready.sound.fit, Scene.after_advances ready, ?_⟩
  intro later e present
  rw [Scene.play_append]
  obtain ⟨x, there, same, leads, faces⟩ := Scene.play_progresses ready later e present
  exact ⟨x, there, same, fun launched => ⟨leads.launched launched, faces launched⟩, leads.concluded, leads.archived⟩

end Cohort
