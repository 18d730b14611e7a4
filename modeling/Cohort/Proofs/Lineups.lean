import Cohort.Proofs.Acts.Accepted
import Cohort.Proofs.Chronicle
import Cohort.Proofs.Draws
import Cohort.Proofs.Failures
import Cohort.Proofs.Lifecycle

-- The variants of an experiment stand in the order in which callers were told that they were added, without those of
-- which callers were told that they were deleted.
namespace Cohort

inductive VariantNotice where
  | added (face : String × String × Bool)
  | deleted (id : String)
deriving DecidableEq

def VariantNotice.face? : VariantNotice → Option (String × String × Bool)
  | .added face => some face
  | .deleted _ => none

-- All that were added, one after the other, but for those that were deleted.
def lineup (notices : List VariantNotice) : List (String × String × Bool) :=
  (notices.filterMap VariantNotice.face?).filter fun face => VariantNotice.deleted face.1 ∉ notices

theorem lineup_added {notices : List VariantNotice} {face : String × String × Bool}
    (fresh : VariantNotice.deleted face.1 ∉ notices) :
    lineup (notices ++ [.added face]) = lineup notices ++ [face] := by
  have same (other : String × String × Bool) :
      VariantNotice.deleted other.1 ∈ notices ++ [.added face] ↔ VariantNotice.deleted other.1 ∈ notices := by simp
  simp only [lineup, same, List.filterMap_append, List.filter_append]
  simp [VariantNotice.face?, fresh]

theorem lineup_deleted (notices : List VariantNotice) (id : String) :
    lineup (notices ++ [.deleted id]) = (lineup notices).filter (·.1 ≠ id) := by
  simp only [lineup, List.filterMap_append, List.filter_filter]
  simp [VariantNotice.face?, not_or, and_comm]

def Scene.noticesOf (id : String) (scene : Scene) (now : Moment) : Move → List VariantNotice
  | .perform workspace (.addVariant experiment draft) =>
    match (Operation.run workspace now scene.store (.addVariant experiment draft)).1 with
    | .ok (.variant v) => if experiment = id then [.added v.face] else []
    | _ => []
  | .perform workspace (.deleteVariant experiment variant) =>
    match (Operation.run workspace now scene.store (.deleteVariant experiment variant)).1 with
    | .ok _ => if experiment = id then [.deleted variant] else []
    | .error _ => []
  | _ => []

namespace Store
variable {s next : Store} {id : String} {notices : List VariantNotice}

-- A place is free again as soon as no variant stands there or behind it.
theorem Placed.nextPosition (placed : s.Placed) (id : String) :
    s.nextPosition id = ((s.variantsOf id).getLast?.map (·.position + 1)).getD 0 := by
  have stored := placed.positions id
  rw [Store.nextPosition, ← placed.variantsOf id]
  generalize s.variantsOf id = variants at stored
  induction variants using List.reverseRecOn with
  | nil => rfl
  | append_singleton before v ih =>
    obtain ⟨sorted, _, last⟩ := List.pairwise_append.mp stored
    rw [List.map_append, List.foldl_append, ih sorted]
    cases ahead : before.getLast? with
    | none => simp
    | some w =>
      have less := last w (List.mem_of_getLast? ahead) v (List.mem_singleton.mpr rfl)
      simp only [Option.map_some, Option.getD_some, List.map_cons, List.map_nil, List.foldl_cons, List.foldl_nil,
        List.getLast?_append, List.getLast?_singleton, Option.some_or]
      omega

theorem Placed.facesOf (placed : s.Placed) (id : String) :
    s.facesOf id = (s.variants.filter (·.experiment = id)).map Variant.face := by
  rw [Store.facesOf, placed.variantsOf id]

-- The store shows what has been told of the experiment, and an id that was told of is not given out again.
structure Lined (s : Store) (id : String) (notices : List VariantNotice) : Prop where
  faces : s.facesOf id = lineup notices
  issued : ∀ variant, VariantNotice.deleted variant ∈ notices → s.Issued variant

theorem empty_lined (id : String) : Lined .empty id [] := ⟨rfl, by simp⟩

namespace Lined

theorem still (lined : s.Lined id notices) (faces : next.facesOf id = s.facesOf id) (drawn : s.drawn ≤ next.drawn) :
    next.Lined id (notices ++ []) := by
  rw [List.append_nil]
  exact ⟨faces.trans lined.faces, fun variant told => (lined.issued variant told).mono drawn⟩

theorem added (lined : s.Lined id notices) (placed : s.Placed) (placed' : next.Placed) {v : Variant}
    (variants : next.variants = s.variants ++ [v]) (own : v.experiment = id) (fresh : v.id = s.nextId)
    (drawn : s.drawn ≤ next.drawn) : next.Lined id (notices ++ [.added v.face]) where
  faces := by
    have unknown : VariantNotice.deleted v.face.1 ∉ notices := fun told => (lined.issued _ told).ne_next fresh
    rw [lineup_added unknown, ← lined.faces, placed.facesOf, placed'.facesOf, variants,
      filter_added s.variants (decide_eq_true own), List.map_append]
    rfl
  issued := by
    intro variant told
    have before : VariantNotice.deleted variant ∈ notices := by simpa using told
    exact (lined.issued variant before).mono drawn

theorem deleted (lined : s.Lined id notices) (placed : s.Placed) (placed' : next.Placed) {variant : String}
    (variants : next.variants = s.variants.filter (·.id ≠ variant)) (issued : s.Issued variant)
    (drawn : s.drawn ≤ next.drawn) : next.Lined id (notices ++ [.deleted variant]) where
  faces := by
    rw [lineup_deleted, ← lined.faces, placed.facesOf, placed'.facesOf, variants, List.filter_map, List.filter_comm]
    rfl
  issued := by
    intro other told
    rcases List.mem_append.mp told with before | last
    · exact (lined.issued other before).mono drawn
    · cases List.mem_singleton.mp last
      exact issued.mono drawn

end Lined
end Store

def Move.Recasts : Move → Prop
  | .perform _ (.addVariant _ _) | .perform _ (.deleteVariant _ _) => True
  | _ => False

namespace Scene
variable {scene : Scene} {id : String} {notices : List VariantNotice}

theorem Permits.recasts {move : Move} {act : Act} (permitted : scene.Permits move act) (recasts : act.Recasts) :
    move.Recasts := by
  have other : ¬ act.OnRows := by
    cases act with
    | addVariant _ _ | removeVariant _ => exact not_false
    | _ => exact recasts.elim
  obtain ⟨operation, performed, permitted⟩ := permitted.performs other
  rw [performed]
  cases permitted with
  | addVariant _ _ | deleteVariant _ _ => trivial
  | assign _ _ visits | assignAll _ visits => exact absurd visits.onRows other
  | convert _ _ reports => exact absurd reports.onRows other
  | _ => exact recasts.elim

theorem after_faces (ready : scene.Ready) {now : Moment} {move : Move} (other : ¬ move.Recasts) (id : String) :
    (scene.after now move).store.facesOf id = scene.store.facesOf id := by
  refine after_carries (P := fun s => s.facesOf id = scene.store.facesOf id) ready ?_ rfl
  rintro s _ ⟨made, act, sound, permitted, allowed⟩ same
  exact (Act.faces_kept sound allowed (fun recasts => other (Permits.recasts permitted recasts)) id).trans same

theorem noticesOf_other {now : Moment} {move : Move} (other : ¬ move.Recasts) : scene.noticesOf id now move = [] := by
  cases move with
  | perform workspace operation =>
    cases operation with
    | addVariant _ _ | deleteVariant _ _ => exact absurd trivial other
    | _ => rfl
  | ask _ _ _ | askAll _ _ | report _ _ _ | turn _ => rfl

theorem refused_lined (ready : scene.Ready) (lined : scene.store.Lined id notices) {now : Moment} {workspace : String}
    {operation : Operation} (single : ¬ operation.Rounds) {fault : Fault}
    (refused : (operation.run workspace now scene.store).1 = .error fault) :
    (scene.after now (.perform workspace operation)).store.Lined id (notices ++ []) := by
  have spared := Operation.run_spares ready.sound workspace now single fault refused
  have drawn := ((after_commits ready now (.perform workspace operation)).1.kept ready.sound).drawn
  exact lined.still (Store.facesOf_congr (congrArg _ spared.variants)) drawn

section Calls
variable (ready : scene.Ready) (placed : scene.store.Placed) (lined : scene.store.Lined id notices) (now : Moment)
  (workspace experiment : String)
include ready placed lined

theorem adding_lined (draft : VariantDraft) :
    let move := Move.perform workspace (.addVariant experiment draft)
    (scene.after now move).store.Lined id (notices ++ scene.noticesOf id now move) := by
  intro move
  have drawn := ((after_commits ready now move).1.kept ready.sound).drawn
  have placed' : (scene.after now move).store.Placed := play_placed ready placed [(now, move)]
  cases answered : (Catalogue.addVariant scene.store workspace now experiment draft).1 with
  | error fault =>
    have refused : (Operation.run workspace now scene.store (.addVariant experiment draft)).1 = .error fault :=
      Outcome.map_error.mpr answered
    have none' : scene.noticesOf id now move = [] := by simp only [move, noticesOf, refused]
    rw [none']
    exact refused_lined ready lined not_false refused
  | ok v =>
    obtain ⟨built, written, _⟩ := Catalogue.addVariant_ok answered
    have variants : (scene.after now move).store.variants = scene.store.variants ++ [v] :=
      congrArg Store.variants written
    have told : scene.noticesOf id now move = if experiment = id then [.added v.face] else [] := by
      simp only [move, noticesOf, Operation.run, Outcome.map, answered, Except.map]
    have belongs : v.experiment = experiment := congrArg Variant.experiment built
    rw [told]
    by_cases own : experiment = id
    · rw [if_pos own]
      exact lined.added placed placed' variants (belongs.trans own) (congrArg Variant.id built) drawn
    · rw [if_neg own]
      refine lined.still (Store.facesOf_congr ?_) drawn
      rw [variants, filter_skipped scene.store.variants (decide_eq_false fun same => own (belongs.symm.trans same))]

theorem deleting_lined (variant : String) :
    let move := Move.perform workspace (.deleteVariant experiment variant)
    (scene.after now move).store.Lined id (notices ++ scene.noticesOf id now move) := by
  intro move
  have drawn := ((after_commits ready now move).1.kept ready.sound).drawn
  have placed' : (scene.after now move).store.Placed := play_placed ready placed [(now, move)]
  cases answered : (Catalogue.deleteVariant scene.store workspace experiment variant).1 with
  | error fault =>
    have refused : (Operation.run workspace now scene.store (.deleteVariant experiment variant)).1 = .error fault :=
      Outcome.map_error.mpr answered
    have none' : scene.noticesOf id now move = [] := by simp only [move, noticesOf, refused]
    rw [none']
    exact refused_lined ready lined not_false refused
  | ok done =>
    obtain ⟨⟨v, there, named, belongs⟩, written⟩ := Catalogue.deleteVariant_ok answered
    have variants : (scene.after now move).store.variants = scene.store.variants.filter (·.id ≠ variant) :=
      congrArg Store.variants written
    have told : scene.noticesOf id now move = if experiment = id then [.deleted variant] else [] := by
      simp only [move, noticesOf, Operation.run, Outcome.map, answered, Except.map]
    rw [told]
    by_cases own : experiment = id
    · rw [if_pos own]
      exact lined.deleted placed placed' variants (named ▸ ready.sound.variantsIssued v there) drawn
    · rw [if_neg own]
      refine lined.still (Store.facesOf_congr ?_) drawn
      rw [variants]
      refine filter_inside fun w present chosen => decide_eq_true fun hit => own ?_
      obtain rfl : w = v := ready.sound.same_variant present there (hit.trans named.symm)
      exact belongs.symm.trans (of_decide_eq_true chosen)

end Calls

theorem after_lined (ready : scene.Ready) (placed : scene.store.Placed) (lined : scene.store.Lined id notices)
    (now : Moment) (move : Move) :
    (scene.after now move).store.Lined id (notices ++ scene.noticesOf id now move) := by
  by_cases recasts : move.Recasts
  · cases move with
    | perform workspace operation =>
      cases operation with
      | addVariant experiment draft => exact adding_lined ready placed lined now workspace experiment draft
      | deleteVariant experiment variant => exact deleting_lined ready placed lined now workspace experiment variant
      | _ => exact recasts.elim
    | ask _ _ _ | askAll _ _ | report _ _ _ | turn _ => exact recasts.elim
  · rw [noticesOf_other recasts]
    exact lined.still (after_faces ready recasts id) ((after_commits ready now move).1.kept ready.sound).drawn

theorem play_lined (id : String) (moves : List (Moment × Move)) :
    (empty.play moves).store.Lined id (empty.chronicle (noticesOf id) moves) := by
  refine play_told (P := fun scene told => scene.store.Lined id told) (Store.empty_lined id) ?_
  intro before now move later _ ready lined
  exact after_lined ready (play_placed empty_ready .empty before) lined now move

end Scene

theorem variants_in_order (moves : List (Moment × Move)) (id : String) :
    let s := (Scene.empty.play moves).store
    ∃ variants : List Variant, (∀ v, v ∈ variants ↔ v ∈ s.variants ∧ v.experiment = id) ∧
      variants.map Variant.face = lineup (Scene.empty.chronicle (Scene.noticesOf id) moves) ∧
      variants.Pairwise (fun a b => a.position < b.position) ∧
      (∀ workspace now draft v, (Operation.run workspace now s (.addVariant id draft)).1 = .ok (.variant v) →
        v.position = (variants.getLast?.map (·.position + 1)).getD 0) ∧
      ∀ e ∈ s.experiments, e.id = id →
        (∀ now, Operation.run e.workspace now s (.get id) = (.ok (.experiment ⟨e, variants⟩), s)) ∧
        (∀ now, Operation.run e.workspace now s (.getByKey e.key) = (.ok (.experiment ⟨e, variants⟩), s)) ∧
        (∀ now filter, ∃ views, Operation.run e.workspace now s (.list filter) = (.ok (.experiments views), s) ∧
          ∀ view ∈ views, view.experiment.id = id → view = ⟨e, variants⟩) ∧
        ∀ visit x v, Visit.enter visit s e = .inserting x v → ∃ subject, visit.subject.bucketId = some subject ∧
          Bucket.select (·.weight) variants e.key subject = .ok v := by
  intro s
  have attained : Attained s := ⟨moves, rfl⟩
  have sound := attained.sound
  refine ⟨s.variantsOf id, fun v => Store.mem_variantsOf, (Scene.play_lined id moves).faces,
    attained.placed.positions id, ?_, ?_⟩
  · intro workspace now draft v answered
    obtain ⟨w, added, same⟩ := Outcome.map_ok answered
    cases same
    obtain ⟨built, _⟩ := Catalogue.addVariant_ok added
    rw [← attained.placed.nextPosition id, built]
    rfl
  · rintro e present rfl
    refine ⟨fun now => ?_, fun now => ?_, fun now filter => ⟨_, rfl, ?_⟩, ?_⟩
    · simp only [Operation.run, sound.viewed present]
      rfl
    · simp only [Operation.run, Catalogue.getByKey, Store.viewByKey?, sound.by_key present]
      rfl
    · intro view listed same
      obtain ⟨x, member, rfl⟩ := List.mem_map.mp listed
      obtain rfl : x = e := sound.same_experiment (Store.mem_list.mp member).1 present same
      rfl
    · intro visit x v entered
      exact (Visit.enter_inserting entered).2

-- The last place is taken again, and so is the first one when there is no variant left.
def recast : List (Moment × Move) :=
  let variant (key : Key) : VariantDraft := ⟨key, "", none, .one, [], false⟩
  Scene.shop.take 3 ++ [Operation.deleteVariant "id-1" "id-3", .addVariant "id-1" (variant ⟨"late", by decide⟩),
    .deleteVariant "id-1" "id-2", .deleteVariant "id-1" "id-4", .addVariant "id-1" (variant ⟨"last", by decide⟩)].map
      fun operation => (⟨1⟩, .perform "shop" operation)

example :
    let places (moves : List (Moment × Move)) :=
      ((Scene.empty.play moves).store.variantsOf "id-1").map fun v => (v.key, v.position)
    places (recast.take 3) = [("a", 0), ("b", 1)] ∧ places (recast.take 5) = [("a", 0), ("late", 1)] ∧
      places recast = [("last", 0)] ∧
      lineup (Scene.empty.chronicle (Scene.noticesOf "id-1") recast) = [("id-5", "last", false)] := by decide +kernel

end Cohort
