import Cohort.Proofs.Store.Ids
import Cohort.Proofs.Store.Subjects
import Cohort.Store.Subjects

-- What the look-ups find and what the inserts refuse.
namespace Cohort

namespace Order

theorem perm_place {before : α → α → Bool} {x : α} {xs : List α} : (place before x xs).Perm (x :: xs) := by
  induction xs with
  | nil => exact .refl _
  | cons y rest ih =>
    unfold place
    split
    · exact (List.Perm.cons y ih).trans (.swap x y rest)
    · exact .refl _

theorem perm_arrange {before : α → α → Bool} {xs : List α} : (arrange before xs).Perm xs := by
  induction xs with
  | nil => exact .refl _
  | cons x rest ih =>
    show (place before x (arrange before rest)).Perm (x :: rest)
    exact perm_place.trans (List.Perm.cons x ih)

end Order

namespace Store

theorem experiment?_some {s : Store} {workspace id : String} {e : Experiment}
    (found : s.experiment? workspace id = some e) : e ∈ s.experiments ∧ e.id = id ∧ e.workspace = workspace := by
  have matched := List.find?_some found
  simp only [Bool.and_eq_true, decide_eq_true_eq] at matched
  exact ⟨List.mem_of_find?_eq_some found, matched⟩

theorem experimentByKey?_some {s : Store} {workspace key : String} {e : Experiment}
    (found : s.experimentByKey? workspace key = some e) :
    e ∈ s.experiments ∧ e.workspace = workspace ∧ e.key = key := by
  have matched := List.find?_some found
  simp only [Bool.and_eq_true, decide_eq_true_eq] at matched
  exact ⟨List.mem_of_find?_eq_some found, matched⟩

theorem experimentByKey?_none {s : Store} {workspace key : String} (missing : s.experimentByKey? workspace key = none) :
    ∀ e ∈ s.experiments, e.workspace = workspace → e.key ≠ key := by
  intro e present own same
  have refused := List.find?_eq_none.mp missing e present
  simp [own, same] at refused

theorem variant?_some {s : Store} {id : String} {v : Variant} (found : s.variant? id = some v) :
    v ∈ s.variants ∧ v.id = id := by
  have matched := List.find?_some found
  exact ⟨List.mem_of_find?_eq_some found, by simpa using matched⟩

@[simp] theorem mem_variantsOf {s : Store} {id : String} {v : Variant} :
    v ∈ s.variantsOf id ↔ v ∈ s.variants ∧ v.experiment = id := by
  simp [variantsOf, Order.mem_arrange]

theorem length_variantsOf {s : Store} {id : String} :
    (s.variantsOf id).length = s.variants.countP (·.experiment = id) := by
  rw [variantsOf, Order.perm_arrange.length_eq, List.countP_eq_length_filter]

theorem view_variant?_some {s : Store} {e : Experiment} {id : String} {v : Variant}
    (found : (s.view e).variant? id = some v) : v ∈ s.variants ∧ v.experiment = e.id ∧ v.id = id := by
  have member : v ∈ s.variantsOf e.id := List.mem_of_find?_eq_some found
  have matched := List.find?_some found
  rw [mem_variantsOf] at member
  exact ⟨member.1, member.2, by simpa using matched⟩

@[simp] theorem mem_rowsOf {s : Store} {id : String} {row : Assignment} :
    row ∈ s.rowsOf id ↔ row ∈ s.assignments ∧ row.experiment = id := by
  simp [rowsOf]

theorem find?_some {s : Store} {experiment : String} {subject : Subject} {row : Assignment}
    (found : s.find? experiment subject = some row) :
    row ∈ s.assignments ∧ row.experiment = experiment ∧ row.standsFor subject = true := by
  unfold find? at found
  split at found
  · have member := Order.first?_mem found
    simp only [List.mem_filter, mem_rowsOf] at member
    exact ⟨member.1.1, member.1.2, member.2⟩
  · cases found

theorem find?_none {s : Store} {experiment : String} {subject : Subject} (named : subject.hasIdentifier = true) :
    s.find? experiment subject = none ↔
      ∀ row ∈ s.assignments, row.experiment = experiment → row.standsFor subject = false := by
  simp only [find?, named, if_true, Order.first?_eq_none, List.filter_eq_nil_iff, mem_rowsOf, Bool.not_eq_true]
  exact ⟨fun none row present own => none row ⟨present, own⟩, fun none row present => none row present.1 present.2⟩

theorem mem_list {s : Store} {workspace : String} {f : Filter} {e : Experiment} :
    e ∈ s.list workspace f ↔ e ∈ s.experiments ∧ e.workspace = workspace ∧ f.admits e = true := by
  simp [list, Order.mem_arrange]

-- The insert alone decides whether the subject has a row.

theorem insertAssignment_free {s : Store} {row : Assignment} (writable : s.writable = true)
    (free : ∀ other ∈ s.assignments, row.clashes other = false) :
    s.insertAssignment row = .ok { s with assignments := s.assignments ++ [row] } := by
  have clear : s.assignments.findSome? row.clash? = none := by
    rw [List.findSome?_eq_none_iff]
    intro other present
    simpa [Assignment.clashes] using free other present
  simp [insertAssignment, writable, clear]

theorem insertAssignment_taken {s : Store} {row other : Assignment} (writable : s.writable = true)
    (present : other ∈ s.assignments) (clash : row.clashes other = true) :
    ∃ violation, s.insertAssignment row = .error (.violates violation) := by
  cases found : s.assignments.findSome? row.clash? with
  | none =>
    have clear := List.findSome?_eq_none_iff.mp found other present
    simp [Assignment.clashes, clear] at clash
  | some column => exact ⟨_, by simp only [insertAssignment, writable, found, Bool.not_true]; rfl⟩

theorem insertAssignment_ok {s next : Store} {row : Assignment} (inserted : s.insertAssignment row = .ok next) :
    next = { s with assignments := s.assignments ++ [row] } ∧ ∀ other ∈ s.assignments, row.clashes other = false := by
  unfold insertAssignment at inserted
  split at inserted
  · cases inserted
  · split at inserted
    · cases inserted
    · rename_i clear
      cases inserted
      refine ⟨rfl, ?_⟩
      intro other present
      simp [Assignment.clashes, List.findSome?_eq_none_iff.mp clear other present]

section Adding
variable {s : Store} {now : Moment} {workspace experiment variant key : String} {subject : Subject} {source : Source}
  {exposedAt : Option Moment}

theorem addSubject_free (writable : s.writable = true) (kept : subject.key = some key)
    (free : ∀ other ∈ s.assignments,
      (Assignment.new s.nextId workspace experiment variant subject key source exposedAt now).clashes other = false) :
    s.addSubject now workspace experiment variant subject source exposedAt =
      (.ok (Assignment.new s.nextId workspace experiment variant subject key source exposedAt now),
        { s.draw with assignments := s.assignments ++
          [Assignment.new s.nextId workspace experiment variant subject key source exposedAt now] }) := by
  have inserted := insertAssignment_free (s := s.draw) writable free
  simp only [addSubject, kept, inserted]
  rfl

theorem addSubject_taken (writable : s.writable = true) (kept : subject.key = some key) {other : Assignment}
    (present : other ∈ s.assignments) (clash :
      (Assignment.new s.nextId workspace experiment variant subject key source exposedAt now).clashes other = true) :
    ∃ violation, s.addSubject now workspace experiment variant subject source exposedAt =
      (.error (.violates violation), s.draw) := by
  obtain ⟨violation, refused⟩ := insertAssignment_taken (s := s.draw) writable present clash
  exact ⟨violation, by simp only [addSubject, kept, refused]⟩

-- A row that is refused costs an id.
theorem addSubject_exact {answer : Outcome Assignment}
    (added : s.addSubject now workspace experiment variant subject source exposedAt = answer) :
    (∃ fault, answer = (.error fault, s.draw)) ∨ ∃ key, subject.key = some key ∧
      (∀ other ∈ s.assignments,
        (Assignment.new s.nextId workspace experiment variant subject key source exposedAt now).clashes other = false) ∧
      answer = (.ok (Assignment.new s.nextId workspace experiment variant subject key source exposedAt now),
        { s.draw with assignments := s.assignments ++
          [Assignment.new s.nextId workspace experiment variant subject key source exposedAt now] }) := by
  subst added
  cases kept : subject.key with
  | none => exact .inl ⟨_, by simp only [addSubject, kept]; rfl⟩
  | some key =>
    cases inserted : s.draw.insertAssignment
        (Assignment.new s.nextId workspace experiment variant subject key source exposedAt now) with
    | error fault => exact .inl ⟨fault, by simp only [addSubject, kept, inserted]⟩
    | ok next =>
      obtain ⟨same, free⟩ := insertAssignment_ok inserted
      refine .inr ⟨key, rfl, free, ?_⟩
      simp only [addSubject, kept, inserted]
      rw [same]
      rfl

end Adding
end Store
end Cohort
