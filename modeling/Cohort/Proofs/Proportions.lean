import Mathlib.Algebra.BigOperators.Ring.Finset
import Mathlib.Algebra.Order.BigOperators.Group.Finset
import Mathlib.Algebra.Order.BigOperators.Group.List
import Mathlib.Data.Int.CardIntervalMod
import Mathlib.Data.Rat.Floor
import Cohort.Proofs.Draws

-- The walk over the running totals leaves each item as many buckets as it has weight, side by side. So an item is taken
-- for as many of the hashes as fall into its buckets, and for none if its buckets lie past the last hash.
namespace Cohort.Bucket

def ahead (weight : α → Int) (items : List α) (i : Nat) : Int := ((items.take i).map weight).sum

structure Owns (weight : α → Int) (items : List α) (bucket : Int) (i : Nat) (item : α) : Prop where
  there : items[i]? = some item
  begins : ahead weight items i ≤ bucket
  ends : bucket < ahead weight items i + weight item

-- At which place the choice falls, for items that may look the same.
def place (weight : α → Int) (items : List α) (hash : Nat) : Option Nat :=
  (pick (fun entry => weight entry.1) items.zipIdx hash).toOption.map (·.2)

section Walk
variable {weight : α → Int} {items : List α}

theorem ahead_cons (head : α) (rest : List α) (i : Nat) :
    ahead weight (head :: rest) (i + 1) = weight head + ahead weight rest i := by
  simp [ahead]

theorem ahead_nonneg (nonneg : ∀ item ∈ items, 0 ≤ weight item) (i : Nat) : 0 ≤ ahead weight items i := by
  apply List.sum_nonneg
  intro w member
  obtain ⟨item, taken, rfl⟩ := List.mem_map.mp member
  exact nonneg item (List.mem_of_mem_take taken)

theorem ahead_within (nonneg : ∀ item ∈ items, 0 ≤ weight item) {i : Nat} {item : α} (there : items[i]? = some item) :
    ahead weight items i + weight item ≤ (items.map weight).sum := by
  induction items generalizing i with
  | nil => cases there
  | cons head rest ih =>
    have others := fun item member => nonneg item (List.mem_cons_of_mem head member)
    rw [List.map_cons, List.sum_cons]
    cases i with
    | zero =>
      obtain rfl : head = item := Option.some.inj there
      have more : 0 ≤ (rest.map weight).sum := List.sum_nonneg (by simpa using others)
      simp only [ahead, List.take_zero, List.map_nil, List.sum_nil]
      omega
    | succ i =>
      have less := ih others (i := i) there
      rw [ahead_cons]
      omega

theorem owns_head {bucket : Int} {head item : α} {rest : List α} :
    Owns weight (head :: rest) bucket 0 item ↔ head = item ∧ 0 ≤ bucket ∧ bucket < weight head := by
  constructor
  · rintro ⟨there, begins, ends⟩
    obtain rfl : head = item := Option.some.inj there
    exact ⟨rfl, begins, by simpa [ahead] using ends⟩
  · rintro ⟨rfl, begins, ends⟩
    exact ⟨rfl, begins, by simpa [ahead] using ends⟩

theorem owns_rest {bucket : Int} {head item : α} {rest : List α} {i : Nat} :
    Owns weight (head :: rest) bucket (i + 1) item ↔ Owns weight rest (bucket - weight head) i item := by
  constructor
  · rintro ⟨there, begins, ends⟩
    rw [ahead_cons] at begins ends
    exact ⟨there, by omega, by omega⟩
  · rintro ⟨there, begins, ends⟩
    exact ⟨there, by rw [ahead_cons]; omega, by rw [ahead_cons]; omega⟩

-- The invariant of the walk: what has been summed up so far is taken off the bucket, and the first item that is left is
-- the one at place `first`.
theorem reach_exact (nonneg : ∀ item ∈ items, 0 ≤ weight item) {bucket sum : Int} (passed : sum ≤ bucket)
    (first i : Nat) (item : α) :
    reach (fun entry => weight entry.1) bucket sum (items.zipIdx first) = some (item, first + i) ↔
      Owns weight items (bucket - sum) i item := by
  induction items generalizing sum first i with
  | nil =>
    constructor
    · nofun
    · rintro ⟨there, _, _⟩
      cases there
  | cons head rest ih =>
    have others := fun item member => nonneg item (List.mem_cons_of_mem head member)
    rw [List.zipIdx_cons, reach]
    by_cases hit : bucket < sum + weight head
    · rw [if_pos hit]
      cases i with
      | zero =>
        rw [owns_head, Nat.add_zero, Option.some.injEq, Prod.mk.injEq]
        constructor
        · rintro ⟨same, _⟩
          exact ⟨same, by omega, by omega⟩
        · rintro ⟨same, _, _⟩
          exact ⟨same, rfl⟩
      | succ i =>
        rw [owns_rest]
        constructor
        · intro same
          have place := congrArg Prod.snd (Option.some.inj same)
          simp only at place
          omega
        · rintro ⟨_, begins, _⟩
          have := ahead_nonneg others i
          omega
    · rw [if_neg hit]
      cases i with
      | zero =>
        rw [owns_head]
        constructor
        · intro reached
          have later := (List.mem_zipIdx (reach_mem reached)).1
          omega
        · rintro ⟨_, _, ends⟩
          omega
      | succ i =>
        have shifted : first + (i + 1) = first + 1 + i := by omega
        rw [owns_rest, shifted, ih others (by omega : sum + weight head ≤ bucket), Int.sub_sub]

theorem Owns.unique (nonneg : ∀ item ∈ items, 0 ≤ weight item) {bucket : Int} {i j : Nat} {item other : α}
    (positive : 0 ≤ bucket) (owns : Owns weight items bucket i item) (also : Owns weight items bucket j other) :
    i = j := by
  rw [← Int.sub_zero bucket] at owns also
  have reached := (reach_exact nonneg positive 0 i item).mpr owns
  have reached' := (reach_exact nonneg positive 0 j other).mpr also
  have same := congrArg Prod.snd (Option.some.inj (reached.symm.trans reached'))
  simpa using same

-- As long as the bucket is less than all the weights together, some running total passes it.
theorem reach_inside {bucket sum : Int} (passed : sum ≤ bucket) (inside : bucket < sum + (items.map weight).sum) :
    ∃ item, reach weight bucket sum items = some item := by
  induction items generalizing sum with
  | nil =>
    rw [List.map_nil, List.sum_nil] at inside
    omega
  | cons head rest ih =>
    rw [List.map_cons, List.sum_cons] at inside
    rw [reach]
    by_cases hit : bucket < sum + weight head
    · exact ⟨head, if_pos hit⟩
    · rw [if_neg hit]
      exact ih (by omega) (by omega)

theorem pick_reaches (filled : 0 < (items.map weight).sum) (hash : Nat) :
    ∃ item, reach weight (hash % (items.map weight).sum) 0 items = some item ∧ pick weight items hash = .ok item := by
  have whole : total weight items = (items.map weight).sum := rfl
  obtain ⟨item, reached⟩ : ∃ item, reach weight (hash % (items.map weight).sum) 0 items = some item := by
    have inside := Int.emod_lt_of_pos hash filled
    exact reach_inside (Int.emod_nonneg hash filled.ne') (by omega)
  refine ⟨item, reached, ?_⟩
  unfold pick
  cases last : items.getLast? with
  | none =>
    rw [List.getLast?_eq_none_iff.mp last, List.map_nil, List.sum_nil] at filled
    omega
  | some final =>
    simp only
    rw [whole, if_neg filled.ne', Int.fmod_eq_emod_of_nonneg _ filled.le, reached]
    rfl

theorem pick_owns (nonneg : ∀ item ∈ items, 0 ≤ weight item) (filled : 0 < (items.map weight).sum) (hash : Nat) :
    ∃ i item, place weight items hash = some i ∧ pick weight items hash = .ok item ∧
      Owns weight items (hash % (items.map weight).sum) i item := by
  have whole : (items.zipIdx.map fun entry => weight entry.1).sum = (items.map weight).sum := by
    have bare : (items.zipIdx.map Prod.fst).map weight = items.zipIdx.map fun entry => weight entry.1 := List.map_map
    rw [← bare, List.zipIdx_map_fst]
  obtain ⟨⟨item, i⟩, reached, picked⟩ := pick_reaches (whole ▸ filled) hash
  have bare : pick weight (items.zipIdx.map Prod.fst) hash = .ok item := by
    rw [pick_map, picked]
    rfl
  rw [List.zipIdx_map_fst] at bare
  rw [whole] at reached
  refine ⟨i, item, by rw [place, picked]; rfl, bare, ?_⟩
  rw [← Int.sub_zero (hash % (items.map weight).sum)]
  refine (reach_exact nonneg (Int.emod_nonneg hash filled.ne') 0 i item).mp ?_
  rw [Nat.zero_add]
  exact reached

theorem place_exact (nonneg : ∀ item ∈ items, 0 ≤ weight item) (filled : 0 < (items.map weight).sum) {hash i : Nat} :
    place weight items hash = some i ↔ ∃ item, Owns weight items (hash % (items.map weight).sum) i item := by
  obtain ⟨j, item, placed, _, owns⟩ := pick_owns nonneg filled hash
  rw [placed, Option.some.injEq]
  constructor
  · rintro rfl
    exact ⟨item, owns⟩
  · rintro ⟨other, also⟩
    exact owns.unique nonneg (Int.emod_nonneg hash filled.ne') also

end Walk

theorem card_residue {W v : Nat} (N : Nat) (inside : v < W) :
    ⌊(N : ℚ) / W⌋ ≤ (((Finset.range N).filter (· % W = v)).card : ℤ) ∧
      (((Finset.range N).filter (· % W = v)).card : ℤ) ≤ ⌈(N : ℚ) / W⌉ := by
  have positive : 0 < W := Nat.lt_of_le_of_lt (Nat.zero_le v) inside
  have counted : ((Finset.range N).filter (· % W = v)).card = N.count (· ≡ v [MOD W]) := by
    rw [Nat.count_eq_card_filter_range]
    refine congrArg Finset.card (Finset.filter_congr fun n _ => ?_)
    rw [Nat.ModEq, Nat.mod_eq_of_lt inside]
  constructor
  · rw [counted, Nat.count_modEq_card N positive, Rat.floor_natCast_div_natCast]
    exact_mod_cast Nat.le_add_right _ _
  · rw [counted, Nat.count_modEq_card_eq_ceil N positive]
    refine Int.ceil_le_ceil (div_le_div_of_nonneg_right ?_ (Nat.cast_nonneg W))
    exact sub_le_self _ (Nat.cast_nonneg _)

theorem card_interval {W a w : Nat} (N : Nat) (inside : a + w ≤ W) :
    w * ⌊(N : ℚ) / W⌋ ≤ (((Finset.range N).filter fun n => a ≤ n % W ∧ n % W < a + w).card : ℤ) ∧
      (((Finset.range N).filter fun n => a ≤ n % W ∧ n % W < a + w).card : ℤ) ≤ w * ⌈(N : ℚ) / W⌉ := by
  have parted : (((Finset.range N).filter fun n => a ≤ n % W ∧ n % W < a + w).card : ℤ) =
      ∑ v ∈ Finset.Ico a (a + w), (((Finset.range N).filter (· % W = v)).card : ℤ) := by
    rw [Finset.card_eq_sum_card_fiberwise (f := (· % W)) (t := Finset.Ico a (a + w)), Nat.cast_sum]
    · refine Finset.sum_congr rfl fun v member => ?_
      obtain ⟨begins, ends⟩ := Finset.mem_Ico.mp member
      rw [Finset.filter_filter]
      refine congrArg (fun s : Finset Nat => (s.card : ℤ)) (Finset.filter_congr fun n _ => ?_)
      constructor
      · exact fun both => both.2
      · rintro rfl
        exact ⟨⟨begins, ends⟩, rfl⟩
    · intro n member
      exact Finset.mem_Ico.mpr (Finset.mem_filter.mp member).2
  have within : ∀ v ∈ Finset.Ico a (a + w), v < W := fun v member => by
    have := Finset.mem_Ico.mp member
    omega
  have many : (Finset.Ico a (a + w)).card = w := by rw [Nat.card_Ico]; omega
  rw [parted]
  constructor
  · have least := Finset.card_nsmul_le_sum _ _ _ fun v member => (card_residue N (within v member)).1
    rwa [many, nsmul_eq_mul] at least
  · have most := Finset.sum_le_card_nsmul _ _ _ fun v member => (card_residue N (within v member)).2
    rwa [many, nsmul_eq_mul] at most

def hashes (weight : α → Int) (items : List α) (i : Nat) : Nat :=
  ((Finset.range UInt32.size).filter fun hash => place weight items hash = some i).card

-- The walk serves every hash, and gives each place its part of the hashes.
structure Proportional (weight : α → Int) (items : List α) : Prop where
  hashed : ∀ key subject : String, ∃ hash < UInt32.size, select weight items key subject = pick weight items hash
  -- the last item is never taken for want of another
  met : ∀ hash : Nat, ∃ item, reach weight (hash % (items.map weight).sum) 0 items = some item ∧
    pick weight items hash = .ok item
  picked : ∀ hash : Nat, ∃ i item, place weight items hash = some i ∧ items[i]? = some item ∧
    pick weight items hash = .ok item
  placed : ∀ hash i : Nat, place weight items hash = some i ↔
    ∃ item, Owns weight items (hash % (items.map weight).sum) i item
  weighs : ∀ (hash i : Nat) (item : α), place weight items hash = some i → items[i]? = some item → weight item ≠ 0
  counted : ∀ (i : Nat) (item : α), items[i]? = some item →
    weight item * ⌊(UInt32.size : ℚ) / (items.map weight).sum⌋ ≤ hashes weight items i ∧
      hashes weight items i ≤ weight item * ⌈(UInt32.size : ℚ) / (items.map weight).sum⌉

section Counts
variable {weight : α → Int} {items : List α} (nonneg : ∀ item ∈ items, 0 ≤ weight item)
  (filled : 0 < (items.map weight).sum)
include nonneg filled

theorem hashes_counted {i : Nat} {item : α} (there : items[i]? = some item) :
    weight item * ⌊(UInt32.size : ℚ) / (items.map weight).sum⌋ ≤ hashes weight items i ∧
      hashes weight items i ≤ weight item * ⌈(UInt32.size : ℚ) / (items.map weight).sum⌉ := by
  -- all four numbers are natural
  obtain ⟨W, whole⟩ := Int.eq_ofNat_of_zero_le filled.le
  obtain ⟨a, front⟩ := Int.eq_ofNat_of_zero_le (ahead_nonneg nonneg i)
  obtain ⟨w, own⟩ := Int.eq_ofNat_of_zero_le (nonneg item (List.mem_of_getElem? there))
  have inside : a + w ≤ W := by
    have within := ahead_within nonneg there
    omega
  have chosen : ((Finset.range UInt32.size).filter fun hash => place weight items hash = some i) =
      (Finset.range UInt32.size).filter fun hash => a ≤ hash % W ∧ hash % W < a + w := by
    refine Finset.filter_congr fun hash _ => ?_
    rw [place_exact nonneg filled, whole]
    constructor
    · rintro ⟨other, same, begins, ends⟩
      obtain rfl : item = other := Option.some.inj (there.symm.trans same)
      exact ⟨by omega, by omega⟩
    · rintro ⟨begins, ends⟩
      exact ⟨item, there, by omega, by omega⟩
  rw [hashes, chosen, own, whole]
  exact card_interval UInt32.size inside

theorem picks_proportional : Proportional weight items where
  hashed := fun key subject => ⟨variantHash key subject, Digest.fingerprint_lt _, rfl⟩
  met := pick_reaches filled
  picked := by
    intro hash
    obtain ⟨i, item, placed, picked, owns⟩ := pick_owns nonneg filled hash
    exact ⟨i, item, placed, owns.there, picked⟩
  placed := fun _ _ => place_exact nonneg filled
  weighs := by
    intro hash i item placed there none
    obtain ⟨other, same, begins, ends⟩ := (place_exact nonneg filled).mp placed
    obtain rfl : item = other := Option.some.inj (there.symm.trans same)
    omega
  counted := fun _ _ => hashes_counted nonneg filled

end Counts

-- Five parts of the traffic, with a variant in between that has been switched off.
def twoOffThree : List (String × Int) := [("a", 2), ("off", 0), ("b", 3)]

example : (List.range 6).map (place (·.2) twoOffThree) = [some 0, some 0, some 2, some 2, some 2, some 0] := by decide

theorem twoOffThree_proportional : (∀ entry ∈ twoOffThree, 0 ≤ entry.2) ∧ 0 < (twoOffThree.map (·.2)).sum ∧
    (∀ hash, place (·.2) twoOffThree hash ≠ some 1) ∧
    (2 * 858993459 ≤ hashes (·.2) twoOffThree 0 ∧ hashes (·.2) twoOffThree 0 ≤ 2 * 858993460) ∧
    3 * 858993459 ≤ hashes (·.2) twoOffThree 2 ∧ hashes (·.2) twoOffThree 2 ≤ 3 * 858993460 := by
  have nonneg : ∀ entry ∈ twoOffThree, 0 ≤ entry.2 := by decide
  have filled : 0 < (twoOffThree.map (·.2)).sum := by decide
  have fair : Proportional (·.2) twoOffThree := picks_proportional nonneg filled
  have whole : (twoOffThree.map (·.2)).sum = 5 := rfl
  have least : ⌊(UInt32.size : ℚ) / (5 : Int)⌋ = 858993459 := Rat.floor_natCast_div_natCast UInt32.size 5
  have most : ⌈(UInt32.size : ℚ) / (5 : Int)⌉ = 858993460 := Rat.ceil_natCast_div_natCast UInt32.size 5
  have first := fair.counted 0 ("a", 2) rfl
  have last := fair.counted 2 ("b", 3) rfl
  rw [whole, least, most] at first last
  refine ⟨nonneg, filled, fun hash off => fair.weighs hash 1 ("off", 0) off rfl rfl, ?_, ?_⟩
  · omega
  · omega

-- Hashes end somewhere, and so do the buckets that they fall into.
theorem places_reached {weight : α → Int} {items : List α} (filled : ∀ item ∈ items, 1 ≤ weight item) {i : Nat}
    (inside : i < items.length) :
    (∃ hash < UInt32.size, place weight items hash = some i) ↔ ahead weight items i < UInt32.size := by
  have there : items[i]? = some items[i] := List.getElem?_eq_getElem inside
  have own := filled items[i] (List.getElem_mem inside)
  have nonneg : ∀ item ∈ items, 0 ≤ weight item := fun item member => by
    have := filled item member
    omega
  have front := ahead_nonneg nonneg i
  have within := ahead_within nonneg there
  have whole : 0 < (items.map weight).sum := by omega
  constructor
  · rintro ⟨hash, bound, placed⟩
    obtain ⟨item, _, begins, _⟩ := (place_exact nonneg whole).mp placed
    obtain ⟨W, same⟩ := Int.eq_ofNat_of_zero_le whole.le
    have less : hash % W ≤ hash := Nat.mod_le hash W
    rw [same] at begins
    omega
  · intro bound
    -- the first bucket of the item is a hash
    obtain ⟨hash, same⟩ := Int.eq_ofNat_of_zero_le front
    have bucket : (hash : Int) % (items.map weight).sum = hash := Int.emod_eq_of_lt (by omega) (by omega)
    refine ⟨hash, by omega, (place_exact nonneg whole).mpr ⟨items[i], there, ?_, ?_⟩⟩
    · omega
    · omega

-- Two variants of equal weight, each of which a word holds.
def evenSplit : List (String × Int) := [("a", 2 ^ 32), ("b", 2 ^ 32)]

theorem evenSplit_starves : (∀ entry ∈ evenSplit, 1 ≤ entry.2 ∧ entry.2 ≤ 2 ^ 63 - 1) ∧
    (∃ hash < UInt32.size, place (·.2) evenSplit hash = some 0) ∧
    (¬ ∃ hash < UInt32.size, place (·.2) evenSplit hash = some 1) ∧
    ∀ key subject, select (·.2) evenSplit key subject = .ok ("a", 2 ^ 32) := by
  have words : ∀ entry ∈ evenSplit, 1 ≤ entry.2 ∧ entry.2 ≤ 2 ^ 63 - 1 := by decide
  have reached {i : Nat} := @places_reached _ (·.2) evenSplit (fun entry member => (words entry member).1) i
  have none : ¬ ∃ hash < UInt32.size, place (·.2) evenSplit hash = some 1 :=
    fun some => absurd ((reached (by decide)).mp some) (by decide)
  refine ⟨words, (reached (by decide)).mpr (by decide), none, fun key subject => ?_⟩
  obtain ⟨i, entry, placed, picked, owns⟩ := @pick_owns _ (·.2) evenSplit (by decide) (by decide)
    (variantHash key subject)
  have inside : i < 2 := (List.getElem?_eq_some_iff.mp owns.there).1
  match i with
  | 0 =>
    obtain rfl : ("a", 2 ^ 32) = entry := Option.some.inj owns.there
    exact picked
  | 1 => exact absurd ⟨_, Digest.fingerprint_lt _, placed⟩ none

end Cohort.Bucket
