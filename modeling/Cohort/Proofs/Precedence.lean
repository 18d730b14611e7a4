import Cohort.Proofs.Order

-- Which of the rows that stand for a subject is found.
namespace Cohort

-- What comes before all others in the order or, among members of one rank, in the list.
theorem Order.first?_ahead {before : α → α → Bool} {older : α → α → Prop}
    (trans : ∀ a b c, before a b = true → before b c = true → before a c = true)
    (between : ∀ a b c, before a c = true → before a b = true ∨ before b c = true) {xs : List α}
    (ordered : xs.Pairwise older) {z : α} (first : first? before xs = some z) :
    ∀ x ∈ xs, x = z ∨ before z x = true ∨ before x z = false ∧ older z x := by
  induction xs generalizing z with
  | nil => cases first
  | cons x rest ih =>
    rw [List.pairwise_cons] at ordered
    unfold first? at first
    cases later : first? before rest with
    | none =>
      simp only [later] at first
      cases first
      intro w member
      rw [first?_eq_none.mp later] at member
      exact .inl (List.mem_singleton.mp member)
    | some y =>
      simp only [later] at first
      split at first
      · rename_i ahead
        cases first
        intro w member
        rcases List.mem_cons.mp member with rfl | behind
        · exact .inr (.inl ahead)
        · exact ih ordered.2 later w behind
      · rename_i behind
        cases first
        intro w member
        rcases List.mem_cons.mp member with rfl | after
        · exact .inl rfl
        · refine .inr (.inr ⟨?_, ordered.1 w after⟩)
          -- what came before `x` would leave `y` nothing but to come before it as well
          rw [← Bool.not_eq_true]
          intro ahead
          rcases ih ordered.2 later w after with rfl | leads | ⟨follows, _⟩
          · exact behind ahead
          · exact behind (trans y w x leads ahead)
          · rcases between w y x ahead with first | second
            · exact absurd (follows.symm.trans first) Bool.false_ne_true
            · exact behind second

-- Pinned rows come first.
def Source.rank : Source → Nat
  | .override => 0
  | .auto => 1

namespace Assignment

theorem precedes_exact {a b : Assignment} : a.precedes b = true ↔ a.source.rank < b.source.rank ∨
    a.source.rank = b.source.rank ∧ a.createdAt.micros < b.createdAt.micros := by
  unfold precedes
  cases a.source <;> cases b.source <;> simp [Source.rank, Moment.lt_exact]

theorem precedes_trans (a b c : Assignment) (first : a.precedes b = true) (second : b.precedes c = true) :
    a.precedes c = true := by
  rw [precedes_exact] at first second ⊢
  omega

theorem precedes_between (a b c : Assignment) (ahead : a.precedes c = true) :
    a.precedes b = true ∨ b.precedes c = true := by
  rw [precedes_exact] at ahead
  simp only [precedes_exact]
  omega

-- Of two rows that stand for a subject this one is found.
def Before (a b : Assignment) : Prop := a.precedes b = true ∨ b.precedes a = false ∧ Store.Earlier a.id b.id

theorem Before.asymm {a b : Assignment} (first : a.Before b) (second : b.Before a) : False := by
  rcases first with ahead | ⟨behind, earlier⟩
  · rcases second with behind | ⟨behind, _⟩
    · rw [precedes_exact] at ahead behind
      omega
    · exact Bool.false_ne_true (behind.symm.trans ahead)
  · rcases second with ahead | ⟨_, later⟩
    · exact Bool.false_ne_true (behind.symm.trans ahead)
    · exact earlier.asymm later

end Assignment

theorem Store.Sound.Same.before {a a' b b' : Assignment} (left : Same a a') (right : Same b b') :
    a.Before b ↔ a'.Before b' := by
  simp only [Assignment.Before, Assignment.precedes, left.source, left.createdAt, left.id, right.source,
    right.createdAt, right.id]

namespace Store
variable {s : Store} {subject : Subject} {row : Assignment}

theorem find?_before (ordered : s.Ordered) {id : String} (found : s.find? id subject = some row) {x : Assignment}
    (there : x ∈ s.assignments) (own : x.experiment = id) (stands : x.standsFor subject = true) :
    x = row ∨ row.Before x := by
  unfold find? at found
  split at found
  · have sorted : s.assignments.Pairwise fun a b => Earlier a.id b.id := List.pairwise_map.mp ordered.assignments
    refine Order.first?_ahead Assignment.precedes_trans Assignment.precedes_between
      ((sorted.filter _).filter _) found x ?_
    exact List.mem_filter.mpr ⟨mem_rowsOf.mpr ⟨there, own⟩, stands⟩
  · cases found

theorem Sound.one_holder (sound : s.Sound) {a b : Assignment} (first : a ∈ s.assignments)
    (second : b ∈ s.assignments) (together : a.experiment = b.experiment) {i : IdentifierKind × String}
    (held : i ∈ a.subject.identifiers) (also : i ∈ b.subject.identifiers) : a.id = b.id := by
  by_contra different
  have apart := sound.apart a first b second different
  have clash : a.clashes b = true := by
    refine Assignment.clashes_exact.mpr ⟨together, .inr ⟨i.1, i.2, ?_, ?_⟩⟩
    · exact (Subject.mem_identifiers.mp held).1
    · exact (Subject.mem_identifiers.mp also).1
  exact absurd (apart.symm.trans clash) Bool.false_ne_true

theorem find?_standing (present : row ∈ s.assignments) (stands : row.standsFor subject = true) :
    ∃ x ∈ s.assignments, x.experiment = row.experiment ∧ x.standsFor subject = true ∧
      s.find? row.experiment subject = some x := by
  cases found : s.find? row.experiment subject with
  | none =>
    have missing := (find?_none (Assignment.standsFor_named stands)).mp found row present rfl
    exact absurd (missing.symm.trans stands) Bool.false_ne_true
  | some x =>
    obtain ⟨there, own, stands⟩ := find?_some found
    exact ⟨x, there, own, stands, rfl⟩

theorem Sound.found_alone (sound : s.Sound) (present : row ∈ s.assignments) (stands : row.standsFor subject = true)
    (alone : ∀ x ∈ s.assignments, x.experiment = row.experiment → x.standsFor subject = true → x.id = row.id) :
    s.find? row.experiment subject = some row := by
  obtain ⟨x, there, own, stands, found⟩ := find?_standing present stands
  rw [found, sound.same_row there present (alone x there own stands)]

-- The row, whatever has been seen or reported of it since, is the one that the subject finds.
structure Finds (s : Store) (row : Assignment) (subject : Subject) : Prop where
  there : ∃ a ∈ s.assignments, Sound.Same a row
  stands : row.standsFor subject = true
  first : ∀ x ∈ s.assignments, x.experiment = row.experiment → x.standsFor subject = true →
    x.id = row.id ∨ row.Before x

theorem Finds.of_found (ordered : s.Ordered) {id : String} (found : s.find? id subject = some row) :
    s.Finds row subject := by
  obtain ⟨present, own, stands⟩ := find?_some found
  refine ⟨⟨row, present, .refl row⟩, stands, ?_⟩
  intro x there together stands
  exact (find?_before ordered found there (together.trans own) stands).imp_left (congrArg Assignment.id)

theorem Finds.found (finds : s.Finds row subject) (sound : s.Sound) (ordered : s.Ordered) :
    ∃ a, s.find? row.experiment subject = some a ∧ Sound.Same a row := by
  obtain ⟨a, present, same⟩ := finds.there
  have stands : a.standsFor subject = true := (same.standsFor subject).trans finds.stands
  obtain ⟨b, there, own, stands', found⟩ := find?_standing present stands
  rw [same.experiment] at own found
  refine ⟨b, found, ?_⟩
  rcases finds.first b there own stands' with hit | before
  · rwa [sound.same_row there present (hit.trans same.id.symm)]
  · rcases find?_before ordered found present same.experiment stands with rfl | after
    · exact same
    · exact (before.asymm (((Sound.Same.refl b).before same).mp after)).elim

theorem Finds.congr {a : Assignment} (finds : s.Finds row subject) (same : Sound.Same a row) : s.Finds a subject where
  there := by
    obtain ⟨b, present, alike⟩ := finds.there
    exact ⟨b, present, alike.trans same.symm⟩
  stands := (same.standsFor subject).trans finds.stands
  first := by
    intro x there together stands
    rw [same.id, same.before (.refl x)]
    exact finds.first x there (together.trans same.experiment) stands

end Store
end Cohort
