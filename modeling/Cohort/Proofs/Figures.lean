import Mathlib.Algebra.GroupWithZero.Nat
import Cohort.Proofs.Decisions
import Cohort.Proofs.Positions

-- The figures of an experiment count every row of it once, and nothing else.
namespace Cohort

theorem countP_by_key [DecidableEq κ] {key : α → κ} {keys : List κ} {rows : List α} (distinct : keys.Nodup)
    (covered : ∀ a ∈ rows, key a ∈ keys) (p : α → Bool) :
    (keys.map fun k => (rows.filter (key · = k)).countP p).sum = rows.countP p := by
  induction keys generalizing rows with
  | nil =>
    have none : rows = [] := List.eq_nil_iff_forall_not_mem.mpr fun a member => by simpa using covered a member
    simp [none]
  | cons k rest ih =>
    obtain ⟨apart, distinct⟩ := List.nodup_cons.mp distinct
    have others := @ih (rows.filter fun a => !decide (key a = k)) distinct fun a member => by
      have chosen := List.mem_filter.mp member
      rcases List.mem_cons.mp (covered a chosen.1) with hit | later
      · simp [hit] at chosen
      · exact later
    have same : ∀ l ∈ rest, (rows.filter fun a => !decide (key a = k)).filter (key · = l) = rows.filter (key · = l) := by
      intro l member
      refine List.filter_filter.trans (List.filter_congr fun a _ => ?_)
      by_cases hit : key a = l
      · have other : l ≠ k := fun hit => apart (hit ▸ member)
        simp [hit, other]
      · simp [hit]
    rw [List.countP_eq_countP_filter_add rows p (fun a => decide (key a = k)), ← others, List.map_cons, List.sum_cons,
      List.map_congr_left fun l member => congrArg (List.countP p) (same l member)]

namespace Tally

structure Counts (t : Tally) (rows : List Assignment) : Prop where
  assignments : t.assignments = rows.length
  exposures : t.exposures = rows.countP (0 < ·.exposures)
  conversions : t.conversions = rows.countP (·.convertedAt.isSome)

theorem of_counts (rows : List Assignment) : (Tally.of rows).Counts rows := ⟨rfl, rfl, rfl⟩

end Tally

namespace Statistics

-- Every variant of the experiment has one entry, by position; every row is counted in the entry of its variant, and in
-- the whole.
structure Complete (t : Statistics) (s : Store) (e : Experiment) : Prop where
  experiment : t.experiment = e.id
  listed : ∀ v, v ∈ t.variants.map (·.1) ↔ v ∈ s.variants ∧ v.experiment = e.id
  distinct : (t.variants.map (·.1.id)).Nodup
  ordered : (t.variants.map (·.1)).Pairwise fun a b => a.position < b.position
  each : ∀ entry ∈ t.variants,
    entry.2.Counts (s.assignments.filter fun a => a.experiment = e.id ∧ a.variant = entry.1.id)
  counted : ∀ a ∈ s.assignments, a.experiment = e.id → ∃! entry, entry ∈ t.variants ∧ entry.1.id = a.variant
  overall : t.overall.Counts (s.assignments.filter fun a => a.experiment = e.id)
  assignments : (t.variants.map (·.2.assignments)).sum = t.overall.assignments
  exposures : (t.variants.map (·.2.exposures)).sum = t.overall.exposures
  conversions : (t.variants.map (·.2.conversions)).sum = t.overall.conversions

end Statistics

namespace Store.Sound
variable {s : Store} {e : Experiment}

theorem variant_ids (sound : s.Sound) (id : String) : ((s.variantsOf id).map (·.id)).Nodup :=
  (Order.perm_arrange.map _).nodup_iff.mpr (Store.distinct_filter _ sound.variantIds)

theorem row_listed (sound : s.Sound) {id : String} {a : Assignment} (present : a ∈ s.rowsOf id) :
    a.variant ∈ (s.variantsOf id).map (·.id) := by
  obtain ⟨there, own⟩ := mem_rowsOf.mp present
  obtain ⟨v, member, named, belongs⟩ := (sound.refers a there).variant
  exact List.mem_map.mpr ⟨v, mem_variantsOf.mpr ⟨member, belongs.trans own⟩, named⟩

theorem statistics_known (sound : s.Sound) (present : e ∈ s.experiments) (now : Moment) :
    Operation.run e.workspace now s (.statistics e.id) =
      (.ok (.statistics (Statistics.ofRows (s.view e) (s.rowsOf e.id))), s) := by
  simp [Operation.run, Statistics.of, Catalogue.get, view?, sound.by_place present, bind, Except.bind, pure, Except.pure,
    Except.map]

theorem complete (sound : s.Sound) (placed : s.Placed) (e : Experiment) :
    (Statistics.ofRows (s.view e) (s.rowsOf e.id)).Complete s e where
  experiment := rfl
  listed := by simp [Statistics.ofRows, view]
  distinct := by simpa [Statistics.ofRows, view, Function.comp_def] using sound.variant_ids e.id
  ordered := by simpa [Statistics.ofRows, view, Function.comp_def] using placed.positions e.id
  each := by
    intro entry member
    obtain ⟨v, _, rfl⟩ := List.mem_map.mp member
    have same : (s.assignments.filter fun a => a.experiment = e.id ∧ a.variant = v.id) =
        (s.rowsOf e.id).filter (·.variant = v.id) := by
      simp [rowsOf, Bool.and_comm]
    rw [same]
    exact Tally.of_counts _
  counted := by
    intro a present own
    obtain ⟨v, member, named⟩ := List.mem_map.mp (sound.row_listed (mem_rowsOf.mpr ⟨present, own⟩))
    refine ⟨_, ⟨List.mem_map_of_mem member, named⟩, ?_⟩
    intro other both
    obtain ⟨also, same⟩ := both
    obtain ⟨w, there, rfl⟩ := List.mem_map.mp also
    rw [sound.same_variant (mem_variantsOf.mp there).1 (mem_variantsOf.mp member).1 (same.trans named.symm)]
  overall := Tally.of_counts _
  assignments := by
    have parts := countP_by_key (sound.variant_ids e.id) (fun _ => sound.row_listed) fun _ => true
    simpa [Statistics.ofRows, Tally.of, view, Function.comp_def] using parts
  exposures := by
    have parts := countP_by_key (sound.variant_ids e.id) (fun _ => sound.row_listed) Tally.isExposed
    simpa [Statistics.ofRows, Tally.of, view, Function.comp_def] using parts
  conversions := by
    have parts := countP_by_key (sound.variant_ids e.id) (fun _ => sound.row_listed) Tally.isConverted
    simpa [Statistics.ofRows, Tally.of, view, Function.comp_def] using parts

end Store.Sound

theorem statistics_complete {s : Store} (attained : Attained s) {e : Experiment} (present : e ∈ s.experiments) :
    ∃ t : Statistics, (∀ now, Operation.run e.workspace now s (.statistics e.id) = (.ok (.statistics t), s)) ∧
      t.Complete s e :=
  ⟨_, attained.sound.statistics_known present, attained.sound.complete attained.placed e⟩

-- A variant is deleted from a draft together with the row that was pinned to it; then there are a draw, a pin and a
-- conversion, and a second experiment with a row of its own.
def redrafted : List (Moment × Move) :=
  let subject (id : String) : Subject := ⟨some id, none, none⟩
  let drafted : List Operation :=
    [.addVariant "id-1" ⟨⟨"c", by decide⟩, "", none, .one, [], true⟩, .pin "id-1" ⟨subject "u", "id-4"⟩,
      .deleteVariant "id-1" "id-4", .pin "id-1" ⟨subject "bob", "id-3"⟩, .start "id-1",
      .assign "price" ⟨subject "ann", none⟩, .convert "price" ⟨subject "bob", none, none⟩]
  Scene.shop.take 3 ++ drafted.map (fun operation => (⟨1⟩, .perform "shop" operation)) ++
    Scene.opening "shop" "id-8" ⟨"fee", by decide⟩ ++
    [(⟨2⟩, .perform "shop" (.assign "fee" ⟨subject "ann", none⟩))]

theorem redrafted_complete : Attained (Scene.empty.play redrafted).store ∧
    (Scene.empty.play redrafted).store.assignments.length = 3 ∧ ∃ e ∈ (Scene.empty.play redrafted).store.experiments,
    e.id = "id-1" ∧ ∃ t : Statistics, t.Complete (Scene.empty.play redrafted).store e ∧
      t.overall.assignments = 2 ∧ t.overall.exposures = 1 ∧ t.overall.conversions = 1 := by
  have attained : Attained (Scene.empty.play redrafted).store := ⟨redrafted, rfl⟩
  obtain ⟨e, present, id⟩ : ∃ e ∈ (Scene.empty.play redrafted).store.experiments, e.id = "id-1" := by decide +kernel
  obtain ⟨t, _, complete⟩ := statistics_complete attained present
  have counts := complete.overall
  rw [id] at counts
  refine ⟨attained, by decide +kernel, e, present, id, t, complete, ?_, ?_, ?_⟩
  · exact counts.assignments.trans (by decide +kernel)
  · exact counts.exposures.trans (by decide +kernel)
  · exact counts.conversions.trans (by decide +kernel)

end Cohort
