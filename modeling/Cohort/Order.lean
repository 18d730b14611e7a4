-- Lists in an order of their own, where members of equal rank keep the order they had.
namespace Cohort.Order

def place (before : α → α → Bool) (x : α) : List α → List α
  | [] => [x]
  | y :: rest => if before y x then y :: place before x rest else x :: y :: rest

def arrange (before : α → α → Bool) (xs : List α) : List α := xs.foldr (place before) []

def first? (before : α → α → Bool) : List α → Option α
  | [] => none
  | x :: rest =>
    match first? before rest with
    | none => some x
    | some y => if before y x then some y else some x

theorem mem_place {before : α → α → Bool} {x y : α} {xs : List α} :
    y ∈ place before x xs ↔ y = x ∨ y ∈ xs := by
  induction xs with
  | nil => simp [place]
  | cons z rest ih =>
    by_cases h : before z x <;> simp [place, h, ih]
    exact ⟨fun h => by rcases h with h | h | h <;> simp [h], fun h => by rcases h with h | h | h <;> simp [h]⟩

theorem mem_arrange {before : α → α → Bool} {y : α} {xs : List α} : y ∈ arrange before xs ↔ y ∈ xs := by
  induction xs with
  | nil => simp [arrange]
  | cons x rest ih =>
    show y ∈ place before x (arrange before rest) ↔ _
    simp [mem_place, ih]

theorem first?_mem {before : α → α → Bool} {xs : List α} {x : α} (h : first? before xs = some x) : x ∈ xs := by
  induction xs generalizing x with
  | nil => simp [first?] at h
  | cons y rest ih =>
    unfold first? at h
    split at h
    · cases h; exact List.mem_cons_self
    · rename_i z found
      split at h <;> cases h
      · exact List.mem_cons_of_mem _ (ih found)
      · exact List.mem_cons_self

theorem first?_eq_none {before : α → α → Bool} {xs : List α} : first? before xs = none ↔ xs = [] := by
  cases xs with
  | nil => simp [first?]
  | cons x rest =>
    simp only [first?, reduceCtorEq, iff_false]
    split
    · simp
    · split <;> simp

end Cohort.Order
