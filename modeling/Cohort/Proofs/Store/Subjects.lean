import Cohort.Store.Basic

-- Which rows stand for a subject, and which rows one experiment cannot hold together.
namespace Cohort

def Absent (value : Option String) : Prop := value = none ∨ value = some ""

-- The identifier under which the subject is stored: the first that is no empty text.
def Subject.Leads (s : Subject) : IdentifierKind → String → Prop
  | .customer, value => s.customer = some value ∧ value ≠ ""
  | .session, value => s.session = some value ∧ value ≠ "" ∧ Absent s.customer
  | .user, value => s.user = some value ∧ value ≠ "" ∧ Absent s.customer ∧ Absent s.session

namespace Subject

-- An empty text was sent under this name. It is stored although it names nobody.
def Blank (s : Subject) (kind : IdentifierKind) : Prop := s.given kind = some ""

def SharesBlank (s t : Subject) : Prop := ∃ kind, s.Blank kind ∧ t.Blank kind

theorem named_none {s : Subject} {kind : IdentifierKind} : s.named kind = none ↔ Absent (s.given kind) := by
  simp only [named, identifier, Option.map_eq_none_iff, Option.filter_eq_none_iff, Absent]
  cases s.given kind <;> simp

theorem named_some {s : Subject} {kind named : IdentifierKind} {value : String} :
    s.named kind = some (named, value) ↔ s.given kind = some value ∧ value ≠ "" ∧ named = kind := by
  simp only [Subject.named, identifier, Option.map_eq_some_iff, Option.filter_eq_some_iff, Prod.mk.injEq]
  constructor
  · rintro ⟨text, ⟨given, filled⟩, rfl, rfl⟩
    exact ⟨given, by simpa using filled, rfl⟩
  · rintro ⟨given, filled, rfl⟩
    exact ⟨value, ⟨given, by simpa using filled⟩, rfl, rfl⟩

theorem head_exact {s : Subject} {kind : IdentifierKind} {value : String} :
    s.identifiers.head? = some (kind, value) ↔ s.Leads kind value := by
  have first : s.identifiers.head? = (s.named .customer).or ((s.named .session).or (s.named .user)) := by
    simp only [identifiers, List.head?_filterMap, List.findSome?_cons, List.findSome?_nil]
    cases s.named .customer <;> cases s.named .session <;> cases s.named .user <;> rfl
  rw [first]
  simp only [Option.or_eq_some_iff, named_some, named_none]
  cases kind with
  | customer => simp [Leads, given]
  | session =>
    simp only [reduceCtorEq, and_false, false_or, or_false, and_true, Leads, given]
    constructor
    · rintro ⟨absent, has, filled⟩
      exact ⟨has, filled, absent⟩
    · rintro ⟨has, filled, absent⟩
      exact ⟨absent, has, filled⟩
  | user =>
    simp only [reduceCtorEq, and_false, false_or, and_true, Leads, given]
    constructor
    · rintro ⟨customer, session, has, filled⟩
      exact ⟨has, filled, customer, session⟩
    · rintro ⟨has, filled, customer, session⟩
      exact ⟨customer, session, has, filled⟩

theorem key_exact {s : Subject} {key : String} :
    s.key = some key ↔ ∃ kind value, s.Leads kind value ∧ key = kind.name ++ ":" ++ value := by
  simp only [Subject.key, Option.map_eq_some_iff, Prod.exists, head_exact, keyOf]
  constructor
  · rintro ⟨kind, value, leads, rfl⟩; exact ⟨kind, value, leads, rfl⟩
  · rintro ⟨kind, value, leads, rfl⟩; exact ⟨kind, value, leads, rfl⟩

theorem key_some {s : Subject} : (∃ key, s.key = some key) ↔ s.hasIdentifier = true := by
  simp only [Subject.key, hasIdentifier]
  cases s.identifiers <;> simp

theorem keyOf_injective {kind other : IdentifierKind} {value text : String}
    (same : keyOf kind value = keyOf other text) : kind = other ∧ value = text := by
  have spelled := congrArg String.toList same
  cases kind <;> cases other <;> simp [keyOf, IdentifierKind.name] at spelled
  all_goals exact ⟨rfl, String.toList_injective spelled⟩

theorem shared_key {s t : Subject} {key : String} (mine : s.key = some key) (theirs : t.key = some key) :
    s.Shares t := by
  simp only [Subject.key, Option.map_eq_some_iff] at mine theirs
  obtain ⟨⟨kind, value⟩, first, rfl⟩ := mine
  obtain ⟨⟨other, text⟩, second, same⟩ := theirs
  obtain ⟨rfl, rfl⟩ := keyOf_injective same
  exact ⟨_, List.mem_of_head? first, List.mem_of_head? second⟩

theorem bucketId_some {s : Subject} : (∃ id, s.bucketId = some id) ↔ s.hasIdentifier = true := by
  simp only [bucketId, hasIdentifier]
  cases s.identifiers <;> simp

end Subject

namespace Assignment

theorem standsFor_exact {subject : Subject} {row : Assignment} : row.standsFor subject = true ↔
    (∃ kind value, row.subject.given kind = some value ∧ subject.given kind = some value ∧ value ≠ "") ∨
      subject.key = some row.subjectKey := by
  simp only [standsFor, Bool.or_eq_true, List.any_eq_true, decide_eq_true_eq, Prod.exists, Subject.mem_identifiers]
  constructor
  · rintro (⟨kind, value, ⟨given, filled⟩, stored⟩ | key)
    · exact .inl ⟨kind, value, stored, given, filled⟩
    · exact .inr key
  · rintro (⟨kind, value, stored, given, filled⟩ | key)
    · exact .inl ⟨kind, value, ⟨given, filled⟩, stored⟩
    · exact .inr key

-- Under its own key a row is stored for the subjects that share an identifier with its own.
theorem standsFor_shares {subject : Subject} {row : Assignment} (kept : row.subject.key = some row.subjectKey) :
    row.standsFor subject = true ↔ subject.Shares row.subject := by
  rw [standsFor_exact]
  constructor
  · rintro (⟨kind, value, stored, given, filled⟩ | key)
    · exact ⟨(kind, value), Subject.mem_identifiers.mpr ⟨given, filled⟩, Subject.mem_identifiers.mpr ⟨stored, filled⟩⟩
    · exact Subject.shared_key key kept
  · rintro ⟨⟨kind, value⟩, mine, theirs⟩
    obtain ⟨given, filled⟩ := Subject.mem_identifiers.mp mine
    exact .inl ⟨kind, value, (Subject.mem_identifiers.mp theirs).1, given, filled⟩

theorem standsFor_named {subject : Subject} {row : Assignment} (stands : row.standsFor subject = true) :
    subject.hasIdentifier = true := by
  rcases standsFor_exact.mp stands with ⟨kind, value, _, given, filled⟩ | key
  · have member : (kind, value) ∈ subject.identifiers := Subject.mem_identifiers.mpr ⟨given, filled⟩
    simp only [Subject.hasIdentifier, Bool.not_eq_true', List.isEmpty_eq_false_iff]
    exact List.ne_nil_of_mem member
  · exact Subject.key_some.mp ⟨_, key⟩

theorem sameGiven_exact {kind : IdentifierKind} {a b : Assignment} : sameGiven kind a b = true ↔
    ∃ value, a.subject.given kind = some value ∧ b.subject.given kind = some value := by
  simp only [sameGiven, Bool.and_eq_true, decide_eq_true_eq]
  cases a.subject.given kind <;> simp [eq_comm]

theorem clashes_exact {a b : Assignment} : a.clashes b = true ↔ a.experiment = b.experiment ∧
    (a.subjectKey = b.subjectKey ∨
      ∃ kind value, a.subject.given kind = some value ∧ b.subject.given kind = some value) := by
  have kinds : (∃ kind, sameGiven kind a b = true) ↔
      sameGiven .customer a b = true ∨ sameGiven .session a b = true ∨ sameGiven .user a b = true := by
    constructor
    · rintro ⟨kind, same⟩; cases kind <;> simp [same]
    · rintro (same | same | same) <;> exact ⟨_, same⟩
  simp only [← sameGiven_exact, kinds]
  simp only [clashes, clash?]
  split
  · rename_i apart; simp [apart]
  · rename_i together
    have same : a.experiment = b.experiment := by simpa using together
    simp only [same, true_and]
    split
    · rename_i key; simp [key]
    · rename_i key
      simp only [key, false_or]
      cases sameGiven .customer a b <;> cases sameGiven .session a b <;> cases sameGiven .user a b <;> simp

-- A row that is to be stored under the subject's own key clashes with those that stand for the subject, and with
-- those that were sent an empty text under the same name.
theorem clashes_subject {row other : Assignment} (kept : row.subject.key = some row.subjectKey) :
    row.clashes other = true ↔ row.experiment = other.experiment ∧
      (other.standsFor row.subject = true ∨ row.subject.SharesBlank other.subject) := by
  rw [clashes_exact, standsFor_exact, kept, Option.some.injEq]
  refine and_congr_right fun _ => ?_
  constructor
  · rintro (key | ⟨kind, value, mine, theirs⟩)
    · exact .inl (.inr key)
    · by_cases empty : value = ""
      · subst empty; exact .inr ⟨kind, mine, theirs⟩
      · exact .inl (.inl ⟨kind, value, theirs, mine, empty⟩)
  · rintro ((⟨kind, value, theirs, mine, _⟩ | key) | ⟨kind, mine, theirs⟩)
    · exact .inr ⟨kind, value, mine, theirs⟩
    · exact .inl key
    · exact .inr ⟨kind, "", mine, theirs⟩

theorem clashes_symm (a b : Assignment) : a.clashes b = b.clashes a := by
  have turned (x y : Assignment) (clash : x.clashes y = true) : y.clashes x = true := by
    obtain ⟨together, key | ⟨kind, value, left, right⟩⟩ := clashes_exact.mp clash
    · exact clashes_exact.mpr ⟨together.symm, .inl key.symm⟩
    · exact clashes_exact.mpr ⟨together.symm, .inr ⟨kind, value, right, left⟩⟩
  exact Bool.eq_iff_iff.mpr ⟨turned a b, turned b a⟩

end Assignment
end Cohort
