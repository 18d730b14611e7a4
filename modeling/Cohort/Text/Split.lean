namespace Cohort.Text

-- The pieces of a text between the marks; there is always at least one, and it may be empty.
def splitOn (mark : Char) : List Char → List (List Char)
  | [] => [[]]
  | c :: rest =>
    if c = mark then [] :: splitOn mark rest
    else
      match splitOn mark rest with
      | first :: others => (c :: first) :: others
      | [] => [[c]]

theorem splitOn_ne_nil (mark : Char) (s : List Char) : splitOn mark s ≠ [] := by
  cases s with
  | nil => simp [splitOn]
  | cons c rest =>
    unfold splitOn
    split
    · simp
    · split <;> simp

end Cohort.Text
