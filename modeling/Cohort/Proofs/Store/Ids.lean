import Mathlib.Data.List.Nodup
import Cohort.Store.Basic

-- Ids come from one counter and are never given out twice.
namespace Cohort

section Lists
variable {p q : α → Bool} {rows : List α}

theorem filter_inside (inside : ∀ a ∈ rows, p a = true → q a = true) : (rows.filter q).filter p = rows.filter p := by
  rw [List.filter_filter]
  refine List.filter_congr fun a member => ?_
  cases hit : p a with
  | false => simp
  | true => simp [inside a member hit]

theorem find_inside (inside : ∀ a ∈ rows, p a = true → q a = true) : (rows.filter q).find? p = rows.find? p := by
  rw [← List.head?_filter, ← List.head?_filter, filter_inside inside]

theorem any_inside (inside : ∀ a ∈ rows, p a = true → q a = true) : (rows.filter q).any p = rows.any p := by
  rw [Bool.eq_iff_iff, List.any_eq_true, List.any_eq_true]
  constructor
  · rintro ⟨a, kept, hit⟩
    exact ⟨a, (List.mem_filter.mp kept).1, hit⟩
  · rintro ⟨a, member, hit⟩
    exact ⟨a, List.mem_filter.mpr ⟨member, inside a member hit⟩, hit⟩

theorem findSome_inside {f : α → Option β} (inside : ∀ a ∈ rows, q a = false → f a = none) :
    (rows.filter q).findSome? f = rows.findSome? f := by
  induction rows with
  | nil => rfl
  | cons a rest ih =>
    have others := ih fun b member => inside b (List.mem_cons_of_mem _ member)
    cases hit : q a with
    | true => rw [List.filter_cons_of_pos hit, List.findSome?_cons, List.findSome?_cons, others]
    | false =>
      rw [List.filter_cons_of_neg (by simp [hit]), List.findSome?_cons, inside a List.mem_cons_self hit, others]

theorem any_same (same : ∀ a ∈ rows, p a = q a) : rows.any p = rows.any q := by
  rw [Bool.eq_iff_iff, List.any_eq_true, List.any_eq_true]
  constructor
  · rintro ⟨a, member, hit⟩
    exact ⟨a, member, same a member ▸ hit⟩
  · rintro ⟨a, member, hit⟩
    exact ⟨a, member, same a member ▸ hit⟩

theorem filter_added (rows : List α) {row : α} (chosen : p row = true) :
    (rows ++ [row]).filter p = rows.filter p ++ [row] := by
  rw [List.filter_append, List.filter_singleton, chosen]
  rfl

theorem filter_skipped (rows : List α) {row : α} (other : p row = false) :
    (rows ++ [row]).filter p = rows.filter p := by
  rw [List.filter_append, List.filter_singleton, other]
  exact List.append_nil _

end Lists

namespace Store

theorem decimal_injective {m n : Nat} (same : Text.decimal m = Text.decimal n) : m = n := by
  have digits : Nat.toDigits 10 m = Nat.toDigits 10 n := String.ofList_injective same
  rw [← Nat.ofDigitChars_ten_toDigits (n := m), digits, Nat.ofDigitChars_ten_toDigits]

theorem idOf_injective {m n : Nat} (same : idOf m = idOf n) : m = n := by
  apply decimal_injective
  have spelled := congrArg String.toList same
  simp only [idOf, String.toList_append, List.append_cancel_left_eq] at spelled
  exact String.toList_injective spelled

-- Given out to a row, whether that row was kept, refused or deleted since.
def Issued (s : Store) (id : String) : Prop := ∃ n, n ≤ s.drawn ∧ id = idOf n

theorem next_not_issued (s : Store) : ¬ s.Issued s.nextId := by
  rintro ⟨n, bound, same⟩
  have equal := idOf_injective same
  omega

theorem Issued.ne_next {s : Store} {id : String} (issued : s.Issued id) : id ≠ s.nextId := by
  rintro rfl
  exact s.next_not_issued issued

theorem Issued.mono {s next : Store} {id : String} (grown : s.drawn ≤ next.drawn) (issued : s.Issued id) :
    next.Issued id := by
  obtain ⟨n, bound, same⟩ := issued
  exact ⟨n, Nat.le_trans bound grown, same⟩

theorem next_issued {s next : Store} (drawn : next.drawn = s.drawn + 1) : next.Issued s.nextId :=
  ⟨s.drawn + 1, by omega, rfl⟩

theorem unique_row {column : α → String} {rows : List α} (distinct : (rows.map column).Nodup) {a b : α}
    (first : a ∈ rows) (second : b ∈ rows) (same : column a = column b) : a = b :=
  List.inj_on_of_nodup_map distinct first second same

theorem all_added {P : α → Prop} {rows : List α} {row : α} (old : ∀ a ∈ rows, P a) (new : P row) :
    ∀ a ∈ rows ++ [row], P a := by
  intro a present
  rcases List.mem_append.mp present with before | last
  · exact old a before
  · exact List.mem_singleton.mp last ▸ new

-- A row that is put over the one with its id shows the same in all that it leaves as it was.
theorem put_same (f : α → β) (row : α) {column : α → String} {rows : List α} (distinct : (rows.map column).Nodup)
    {old : α} (present : old ∈ rows) (named : column row = column old) (same : f row = f old) {a : α}
    (member : a ∈ rows) : f (if column a = column row then row else a) = f a := by
  by_cases hit : column a = column row
  · rw [if_pos hit, unique_row distinct member present (hit.trans named)]
    exact same
  · rw [if_neg hit]

theorem distinct_add {column : α → String} {rows : List α} {row : α} (distinct : (rows.map column).Nodup)
    (fresh : ∀ a ∈ rows, column a ≠ column row) : ((rows ++ [row]).map column).Nodup := by
  rw [List.map_append, List.map_singleton, List.nodup_append]
  refine ⟨distinct, by simp, ?_⟩
  intro x present y last
  obtain ⟨a, member, rfl⟩ := List.mem_map.mp present
  rw [List.mem_singleton.mp last]
  exact fresh a member

theorem column_change {column : α → String} {rows : List α} {change : α → α}
    (kept : ∀ a ∈ rows, column (change a) = column a) : (rows.map change).map column = rows.map column := by
  rw [List.map_map]
  exact List.map_congr_left kept

theorem distinct_change {column : α → String} {rows : List α} {change : α → α}
    (distinct : (rows.map column).Nodup) (kept : ∀ a ∈ rows, column (change a) = column a) :
    ((rows.map change).map column).Nodup := by
  rwa [column_change kept]

theorem distinct_filter {column : α → String} {rows : List α} (keep : α → Bool)
    (distinct : (rows.map column).Nodup) : ((rows.filter keep).map column).Nodup :=
  distinct.sublist (List.filter_sublist.map column)

-- Rows are changed in place, and the choice does not look at what is changed.
theorem filter_changed {p : α → Bool} {rows : List α} {change : α → α}
    (same : ∀ a ∈ rows, p (change a) = p a) : (rows.map change).filter p = (rows.filter p).map change := by
  rw [List.filter_map]
  exact congrArg _ (List.filter_congr same)

theorem filter_untouched {p : α → Bool} {rows : List α} {change : α → α}
    (same : ∀ a ∈ rows, p (change a) = p a) (untouched : ∀ a ∈ rows, p a = true → change a = a) :
    (rows.map change).filter p = rows.filter p := by
  rw [filter_changed same]
  have kept : ∀ a ∈ rows.filter p, change a = a := by
    intro a member
    obtain ⟨there, hit⟩ := List.mem_filter.mp member
    exact untouched a there hit
  rw [List.map_congr_left kept, List.map_id']

end Store
end Cohort
