import Mathlib.Data.List.Fold
import Mathlib.Data.List.MinMax
import Cohort.Proofs.Scene

-- The variants of an experiment stand in the store by position, and no two of them share one.
namespace Cohort

namespace Order
variable {before : α → α → Bool}

theorem place_first {x : α} {xs : List α} (first : ∀ y ∈ xs, before y x = false) :
    place before x xs = x :: xs := by
  cases xs with
  | nil => rfl
  | cons y rest => simp [place, first y List.mem_cons_self]

theorem arrange_ordered {xs : List α} (ordered : xs.Pairwise fun a b => before b a = false) :
    arrange before xs = xs := by
  induction xs with
  | nil => rfl
  | cons x rest ih =>
    obtain ⟨first, others⟩ := List.pairwise_cons.mp ordered
    show place before x (arrange before rest) = x :: rest
    rw [ih others]
    exact place_first first

end Order

namespace Store
variable {s : Store}

def Placed (s : Store) : Prop :=
  s.variants.Pairwise fun a b => a.experiment = b.experiment → a.position < b.position

theorem position_lt_next {v : Variant} (present : v ∈ s.variants) : v.position < s.nextPosition v.experiment := by
  have member : v.position + 1 ∈ (s.variants.filter (·.experiment = v.experiment)).map (·.position + 1) :=
    List.mem_map.mpr ⟨v, List.mem_filter.mpr ⟨present, decide_eq_true rfl⟩, rfl⟩
  unfold nextPosition
  rw [List.foldl_eq_foldr]
  exact List.le_max_of_le' 0 member (Nat.le_refl _)

namespace Placed

theorem empty : Placed .empty := .nil

theorem variantsOf (placed : s.Placed) (id : String) : s.variantsOf id = s.variants.filter (·.experiment = id) := by
  apply Order.arrange_ordered
  refine (placed.filter _).imp_of_mem fun {a b} first second ahead => ?_
  have together : a.experiment = b.experiment := by
    simp only [List.mem_filter, decide_eq_true_eq] at first second
    rw [first.2, second.2]
  have less := ahead together
  simp only [decide_eq_false_iff_not]
  omega

theorem positions (placed : s.Placed) (id : String) :
    (s.variantsOf id).Pairwise fun a b => a.position < b.position := by
  rw [placed.variantsOf id]
  refine (placed.filter _).imp_of_mem fun {a b} first second ahead => ahead ?_
  simp only [List.mem_filter, decide_eq_true_eq] at first second
  rw [first.2, second.2]

end Placed
end Store

namespace Act
variable {workspace : String} {now : Moment} {s : Store} {act : Act}

theorem apply_placed (sound : s.Sound) (placed : s.Placed) (allowed : act.Allowed workspace now s) :
    (act.apply workspace now s).Placed := by
  cases act with
  | addVariant id draft =>
    refine List.pairwise_append.mpr ⟨placed, List.pairwise_singleton _ _, ?_⟩
    intro v present w last together
    obtain rfl := List.mem_singleton.mp last
    have own : v.experiment = id := together
    exact own ▸ Store.position_lt_next present
  | reviseVariant v changes =>
    have same {β : Type} (f : Variant → β) (still : f (changes.revision.applied now v) = f v) {b : Variant}
        (there : b ∈ s.variants) :=
      Store.put_same f (changes.revision.applied now v) sound.variantIds allowed.1 rfl still there
    refine List.pairwise_map.mpr (placed.imp_of_mem fun first second ahead together => ?_)
    rw [same (·.experiment) rfl first, same (·.experiment) rfl second] at together
    rw [same (·.position) rfl first, same (·.position) rfl second]
    exact ahead together
  | removeVariant id => exact placed.filter _
  | lose | create _ | revise _ _ | draw _ _ _ _ | pin _ _ _ _ | expose _ | convert _ _ _ => exact placed

end Act

theorem Scene.play_placed {scene : Scene} (ready : scene.Ready) (placed : scene.store.Placed)
    (moves : List (Moment × Move)) : (scene.play moves).store.Placed := by
  refine play_carries ready (fun move _ s next effect placed => ?_) placed
  cases effect with
  | act _ act sound _ allowed => exact Act.apply_placed sound placed allowed

theorem Attained.placed {s : Store} (attained : Attained s) : s.Placed := by
  obtain ⟨moves, rfl⟩ := attained
  exact Scene.play_placed Scene.empty_ready .empty moves

end Cohort
