import Cohort.Proofs.Scene

-- Every table keeps its rows in the order in which their ids were given out, so it is known by the rows that are in it.
namespace Cohort

namespace Store
variable {s : Store}

def Earlier (a b : String) : Prop := ∃ m n, a = idOf m ∧ b = idOf n ∧ m < n

theorem Earlier.asymm {a b : String} (first : Earlier a b) (second : Earlier b a) : False := by
  obtain ⟨m, n, left, right, less⟩ := first
  obtain ⟨n', m', right', left', less'⟩ := second
  have same : m = m' := idOf_injective (left.symm.trans left')
  have same' : n = n' := idOf_injective (right.symm.trans right')
  omega

theorem Issued.earlier {id : String} (issued : s.Issued id) : Earlier id s.nextId := by
  obtain ⟨n, bound, rfl⟩ := issued
  exact ⟨n, s.drawn + 1, rfl, rfl, by omega⟩

section Tables
variable {column : α → String} {rows others : List α}

theorem ordered_add {row : α} (ordered : (rows.map column).Pairwise Earlier)
    (issued : ∀ a ∈ rows, s.Issued (column a)) (named : column row = s.nextId) :
    ((rows ++ [row]).map column).Pairwise Earlier := by
  rw [List.map_append, List.map_singleton, named, List.pairwise_append]
  refine ⟨ordered, List.pairwise_singleton _ _, ?_⟩
  intro x present y last
  obtain ⟨a, member, rfl⟩ := List.mem_map.mp present
  rw [List.mem_singleton.mp last]
  exact (issued a member).earlier

theorem ordered_change {change : α → α} (ordered : (rows.map column).Pairwise Earlier)
    (kept : ∀ a ∈ rows, column (change a) = column a) : ((rows.map change).map column).Pairwise Earlier := by
  rwa [column_change kept]

theorem ordered_filter (keep : α → Bool) (ordered : (rows.map column).Pairwise Earlier) :
    ((rows.filter keep).map column).Pairwise Earlier :=
  ordered.sublist (List.filter_sublist.map column)

theorem ordered_same (first : (rows.map column).Pairwise Earlier) (second : (others.map column).Pairwise Earlier)
    (same : ∀ a, a ∈ rows ↔ a ∈ others) : rows = others := by
  rw [List.pairwise_map] at first second
  have distinct {items : List α} (ordered : items.Pairwise fun a b => Earlier (column a) (column b)) : items.Nodup := by
    apply ordered.imp
    intro a b earlier hit
    subst hit
    exact earlier.asymm earlier
  have perm : rows.Perm others := (List.perm_ext_iff_of_nodup (distinct first) (distinct second)).mpr same
  exact perm.eq_of_pairwise (fun _ _ _ _ before after => (before.asymm after).elim) first second

end Tables

structure Ordered (s : Store) : Prop where
  experiments : (s.experiments.map (·.id)).Pairwise Earlier
  variants : (s.variants.map (·.id)).Pairwise Earlier
  assignments : (s.assignments.map (·.id)).Pairwise Earlier

theorem empty_ordered : Ordered .empty := ⟨.nil, .nil, .nil⟩

end Store

namespace Act
open Store
variable {may : Act → Prop} {workspace : String} {now : Moment} {s next : Store} {act : Act}

theorem apply_ordered (sound : s.Sound) (ordered : s.Ordered) (allowed : act.Allowed workspace now s) :
    (act.apply workspace now s).Ordered := by
  obtain ⟨experiments, variants, assignments⟩ := ordered
  cases act with
  | lose => exact ⟨experiments, variants, assignments⟩
  | create draft => exact ⟨ordered_add experiments sound.experimentsIssued rfl, variants, assignments⟩
  | revise e r =>
    refine ⟨ordered_change experiments ?_, variants, assignments⟩
    intro b old
    exact put_same (·.id) (r.applied now e) sound.experimentIds allowed.1 rfl rfl old
  | addVariant id draft => exact ⟨experiments, ordered_add variants sound.variantsIssued rfl, assignments⟩
  | reviseVariant v changes =>
    refine ⟨experiments, ordered_change variants ?_, assignments⟩
    intro b old
    exact put_same (·.id) (changes.revision.applied now v) sound.variantIds allowed.1 rfl rfl old
  | removeVariant id => exact ⟨experiments, ordered_filter _ variants, ordered_filter _ assignments⟩
  | draw id variant subject key => exact ⟨experiments, variants, ordered_add assignments sound.rowsIssued rfl⟩
  | pin id variant subject key =>
    have cleared := sound.filter_rows fun a => !(a.experiment = id && a.standsFor subject)
    exact ⟨experiments, variants, ordered_add (ordered_filter _ assignments) cleared.rowsIssued rfl⟩
  | expose row =>
    refine ⟨experiments, variants, ordered_change assignments ?_⟩
    intro a _
    split
    · rfl
    · rfl
  | convert row value metadata =>
    refine ⟨experiments, variants, ordered_change assignments ?_⟩
    intro a _
    split
    · rfl
    · rfl

theorem Commits.ordered (committed : Commits may workspace now s next) (sound : s.Sound) (ordered : s.Ordered) :
    next.Ordered :=
  committed.carries sound (fun _ _ sound _ allowed ordered => apply_ordered sound ordered allowed) ordered

end Act

theorem Scene.play_ordered {scene : Scene} (ready : scene.Ready) (ordered : scene.store.Ordered)
    (moves : List (Moment × Move)) : (scene.play moves).store.Ordered := by
  refine play_carries ready ?_ ordered
  rintro move _ s _ ⟨made, act, sound, _, allowed⟩ ordered
  exact Act.apply_ordered sound ordered allowed

theorem Attained.ordered {s : Store} (attained : Attained s) : s.Ordered := by
  obtain ⟨moves, rfl⟩ := attained
  exact Scene.play_ordered Scene.empty_ready Store.empty_ordered moves

end Cohort
