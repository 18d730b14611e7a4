import Cohort.Proofs.Overrides

-- A look-up asks for a shared identifier and for nothing else. The key under which a row is stored says no more than the
-- first of its identifiers does, so the part of the question that is about the key finds no further row.
namespace Cohort

-- No kind has a colon in its name, so the first colon of a key ends the kind, whatever colons the value has.
theorem Subject.key_head {s t : Subject} : s.key = t.key ↔ s.identifiers.head? = t.identifiers.head? := by
  have injective : Function.Injective fun i : IdentifierKind × String => keyOf i.1 i.2 := by
    intro i j same
    obtain ⟨kind, value⟩ := keyOf_injective same
    exact Prod.ext kind value
  exact (Option.map_injective injective).eq_iff

namespace Store
variable {s : Store} {experiment : String} {subject : Subject} {row : Assignment}

-- A row that stands for the subject, pinned if any such row is, and among those pinned or drawn like it the oldest.
structure Leading (s : Store) (experiment : String) (subject : Subject) (row : Assignment) : Prop where
  present : row ∈ s.rowsOf experiment
  stands : row.standsFor subject = true
  pinned : ∀ x ∈ s.rowsOf experiment, x.standsFor subject = true → x.source = .override → row.source = .override
  oldest : ∀ x ∈ s.rowsOf experiment, x.standsFor subject = true → x.source = row.source → row.createdAt ≤ x.createdAt

theorem Leading.of_found (ordered : s.Ordered) (found : s.find? experiment subject = some row) :
    s.Leading experiment subject row := by
  obtain ⟨present, own, stands⟩ := find?_some found
  -- every other row comes behind in rank, or in time among those of its rank
  have behind : ∀ x ∈ s.rowsOf experiment, x.standsFor subject = true → x = row ∨ row.source.rank < x.source.rank ∨
      row.source.rank = x.source.rank ∧ row.createdAt ≤ x.createdAt := by
    intro x member stands'
    obtain ⟨there, own'⟩ := mem_rowsOf.mp member
    refine (find?_before ordered found there own' stands').imp_right fun before => ?_
    show _ ∨ _ ∧ row.createdAt.micros ≤ x.createdAt.micros
    obtain ahead | ⟨unled, _⟩ := before
    · have ahead := Assignment.precedes_exact.mp ahead
      omega
    · have unled := mt Assignment.precedes_exact.mpr (Bool.eq_false_iff.mp unled)
      omega
  refine ⟨mem_rowsOf.mpr ⟨present, own⟩, stands, ?_, ?_⟩
  · intro x member stands' override
    obtain same | first | ⟨level, _⟩ := behind x member stands'
    · rwa [← same]
    · rw [override] at first
      exact absurd first (Nat.not_lt_zero _)
    · rw [override] at level
      cases source : row.source with
      | override => rfl
      | auto => rw [source] at level; cases level
  · intro x member stands' alike
    obtain same | first | ⟨_, older⟩ := behind x member stands'
    · exact same ▸ row.createdAt.refl
    · rw [alike] at first
      exact absurd first (Nat.lt_irrefl _)
    · exact older

end Store

theorem lookups_share_identifiers {s : Store} (attained : Attained s) (experiment : String) (subject : Subject) :
    (∀ row ∈ s.rowsOf experiment, (row.standsFor subject = true ↔ subject.Shares row.subject) ∧
      (subject.key = some row.subjectKey ↔ subject.identifiers.head? = row.subject.identifiers.head?)) ∧
    (∀ i ∈ subject.identifiers, ∀ a ∈ s.rowsOf experiment, ∀ b ∈ s.rowsOf experiment, i ∈ a.subject.identifiers →
      i ∈ b.subject.identifiers → a = b) ∧
    ((s.rowsOf experiment).filter (·.standsFor subject)).length ≤ subject.identifiers.length ∧
    (s.find? experiment subject = none ↔ ∀ row ∈ s.rowsOf experiment, ¬ subject.Shares row.subject) ∧
    ∀ row, s.find? experiment subject = some row → s.Leading experiment subject row := by
  have sound := attained.sound
  have stored : ∀ row ∈ s.rowsOf experiment, row.subject.key = some row.subjectKey := by
    intro row member
    exact (sound.tidy row (Store.mem_rowsOf.mp member).1).key
  have shared : ∀ row ∈ s.rowsOf experiment, row.standsFor subject = true ↔ subject.Shares row.subject :=
    fun row member => Assignment.standsFor_shares (stored row member)
  refine ⟨?_, fun i _ => sound.one_each experiment i, ?_, ?_, fun row => .of_found attained.ordered⟩
  · intro row member
    refine ⟨shared row member, ?_⟩
    rw [← stored row member]
    exact Subject.key_head
  · have alike : (s.rowsOf experiment).filter (·.standsFor subject) =
        (s.rowsOf experiment).filter fun row => subject.Shares row.subject :=
      List.filter_congr fun row member => by rw [Bool.eq_iff_iff, decide_eq_true_iff, shared row member]
    rw [alike]
    exact sound.few_shared experiment subject
  · constructor
    · intro missing row member shares
      obtain ⟨present, own⟩ := Store.mem_rowsOf.mp member
      obtain ⟨x, _, _, _, found⟩ := Store.find?_standing present ((shared row member).mpr shares)
      cases missing.symm.trans (own ▸ found)
    · intro free
      cases found : s.find? experiment subject with
      | none => rfl
      | some row =>
        have leads := Store.Leading.of_found attained.ordered found
        exact absurd ((shared row leads.present).mp leads.stands) (free row leads.present)

-- A session that is called like the key of a user, and a pin for that user.
def likeNamed : Store :=
  (Scene.empty.play (Scene.shop ++
    [(⟨1⟩, .perform "shop" (.assign "price" ⟨⟨none, some "user:bob", none⟩, none⟩)),
      (⟨2⟩, .perform "shop" (.pin "id-1" ⟨⟨none, none, some "bob"⟩, "id-3"⟩))])).store

theorem likeNamed_told_apart : Attained likeNamed ∧
    (∃ row ∈ likeNamed.rowsOf "id-1", row.subjectKey = "session:user:bob" ∧
      row.standsFor ⟨none, none, some "bob"⟩ = false) ∧
    ∃ row, likeNamed.find? "id-1" ⟨none, some "user:bob", some "bob"⟩ = some row ∧ row.source = .override ∧
      likeNamed.Leading "id-1" ⟨none, some "user:bob", some "bob"⟩ row := by
  have attained : Attained likeNamed := ⟨_, rfl⟩
  obtain ⟨row, member, stored, apart⟩ : ∃ row ∈ likeNamed.rowsOf "id-1", row.subjectKey = "session:user:bob" ∧
      ¬ (⟨none, none, some "bob"⟩ : Subject).Shares row.subject := by decide +kernel
  obtain ⟨pin, member', source, shares⟩ : ∃ pin ∈ likeNamed.rowsOf "id-1", pin.source = .override ∧
      (⟨none, some "user:bob", some "bob"⟩ : Subject).Shares pin.subject := by decide +kernel
  obtain ⟨exact, _⟩ := lookups_share_identifiers attained "id-1" ⟨none, none, some "bob"⟩
  obtain ⟨exact', _, _, none, leads⟩ := lookups_share_identifiers attained "id-1" ⟨none, some "user:bob", some "bob"⟩
  refine ⟨attained, ⟨row, member, stored, ?_⟩, ?_⟩
  · exact Bool.eq_false_iff.mpr (mt (exact row member).1.mp apart)
  · cases found : likeNamed.find? "id-1" ⟨.none, some "user:bob", some "bob"⟩ with
    | none => exact absurd shares (none.mp found pin member')
    | some first =>
      have leading := leads first found
      exact ⟨first, rfl, leading.pinned pin member' ((exact' pin member').1.mpr shares) source, leading⟩

end Cohort
