import Cohort.Proofs.Showings
import Cohort.Proofs.Visits

-- What one operation can do to the table of rows: to each row that is there, and by adding rows.
namespace Cohort

-- A row is taken out by an override for a subject it shares an identifier with, or together with its variant.
def Operation.Drops (workspace : String) (s : Store) (row : Assignment) : Operation → Prop
  | .pin id request => s.Holds workspace id ∧ row.experiment = id ∧ request.subject.Shares row.subject
  | .deleteVariant _ variant => s.Drafts workspace row.experiment ∧ row.variant = variant
  | _ => False

inductive Assignment.Fate (workspace : String) (now : Moment) (operation : Operation) (s next : Store)
    (row : Assignment) : Prop where
  | kept (present : row ∈ next.assignments)
  | shown (decides : operation.Decides) (present : { row with
      exposures := row.exposures + 1
      lastExposure := some now
      firstExposure := some (row.firstExposure.getD now) } ∈ next.assignments)
  | converted (key : String) (report : ConversionReport) (reports : operation = .convert key report)
      (unset : row.convertedAt = none ∧ row.value = none ∧ row.conversionMetadata = .null)
      (present : { row with
        convertedAt := some now
        value := Store.storedValue report.value
        conversionMetadata := Json.ofMembers report.metadata } ∈ next.assignments)
  | gone (drops : operation.Drops workspace s row) (absent : ∀ a ∈ next.assignments, a.id ≠ row.id)

def Operation.Adds (workspace : String) (s : Store) (succeeds : Bool) (added : List Assignment) : Operation → Prop
  | .assign _ _ => added.length ≤ 1
  | .assignAll _ => (added.map (·.experiment)).Nodup ∧ ∀ a ∈ added,
      ∃ e ∈ s.experiments, e.id = a.experiment ∧ e.workspace = workspace ∧ e.status = .running
  | .pin _ _ => added.length = if succeeds then 1 else 0
  | _ => added = []

def Decision.Writes (workspace : String) (now : Moment) (s next : Store) : Option Decision → Prop
  | none => next = s
  | some decision =>
    if decision.assignment = concludedId then next = s
    else ∃ e ∈ s.experiments, e.workspace = workspace ∧ e.key = decision.experiment ∧
      s.Touches now e.id decision.assignment next

structure Store.RowsChange (workspace : String) (now : Moment) (operation : Operation) (s : Store)
    (outcome : Outcome Answer) : Prop where
  distinct : (outcome.2.assignments.map (·.id)).Nodup
  rows : ∀ row ∈ s.assignments, row.Fate workspace now operation s outcome.2
  added : operation.Adds workspace s outcome.1.isOk (s.added outcome.2)
  written : ∀ key request decision, operation = .assign key request → outcome.1 = .ok (.decision decision) →
    Decision.Writes workspace now s outcome.2 decision

namespace Store
variable {workspace : String} {now : Moment} {s next : Store} {operation : Operation}

theorem Sound.dropped (sound : s.Sound) {act : Act} (permitted : operation.Permits act)
    (other : ¬ operation.Decides) (allowed : act.Allowed workspace now s) {row : Assignment}
    (present : row ∈ s.assignments) (removed : act.Removes row) : operation.Drops workspace s row := by
  cases permitted with
  | deleteVariant id variant =>
    obtain ⟨v, there, named, drafts⟩ := allowed
    obtain ⟨w, also, drawn, own⟩ := (sound.refers row present).variant
    have hit : row.variant = variant := removed
    obtain rfl : v = w := sound.same_variant there also (named.trans (hit.symm.trans drawn.symm))
    exact ⟨own ▸ drafts, hit⟩
  | pin id key request =>
    obtain ⟨own, stands⟩ := removed
    exact ⟨allowed.1, own, (Assignment.standsFor_shares (sound.tidy row present).key).mp stands⟩
  | convert key report reports =>
    cases reports
    exact removed.elim
  | assign _ _ _ | assignAll _ _ => exact absurd trivial other
  | _ => exact removed.elim

theorem Sound.once_fate (sound : s.Sound) (other : ¬ operation.Decides)
    (once : Act.Once operation.Permits workspace now s next) {row : Assignment} (present : row ∈ s.assignments) :
    row.Fate workspace now operation s next := by
  cases once with
  | nothing => exact .kept present
  | done act permitted allowed =>
    by_cases removed : act.Removes row
    · exact .gone (sound.dropped permitted other allowed present removed) (Act.row_goes sound present removed)
    · obtain ⟨a, there, becomes⟩ := Act.row_continues present removed
      cases becomes with
      | same => exact .kept there
      | exposed =>
        cases permitted with
        | assign _ _ _ | assignAll _ _ => exact absurd trivial other
        | convert _ _ reports => cases reports
      | converted _ value metadata waits =>
        cases permitted with
        | convert key report reports =>
          cases reports
          exact .converted key report rfl ⟨waits, (sound.tidy row present).unconverted waits⟩ there
        | assign _ _ _ | assignAll _ _ => exact absurd trivial other

theorem Visited.fate {ids : List String} {change : Assignment → Assignment} {fresh : List Assignment}
    (visited : s.Visited now ids change fresh next) (decides : operation.Decides) {row : Assignment}
    (present : row ∈ s.assignments) : row.Fate workspace now operation s next := by
  rcases visited.row present with same | counted
  · exact .kept same
  · exact .shown decides counted

theorem added_none (sound : s.Sound) (known : ∀ a ∈ next.assignments, ∃ b ∈ s.assignments, b.id = a.id) :
    s.added next = [] :=
  added_exact sound (List.append_nil _).symm known fun _ none => absurd none List.not_mem_nil

theorem Sound.once_adds (sound : s.Sound) (once : Act.Once operation.Permits workspace now s next)
    (never : ∀ act a, operation.Permits act → ¬ act.Adds workspace now s a) : s.added next = [] := by
  refine added_none sound ?_
  intro a present
  cases once with
  | nothing => exact ⟨a, present, rfl⟩
  | done act permitted allowed =>
    rcases Act.row_origin present with ⟨b, old, same⟩ | adds
    · exact ⟨b, old, same.id.symm⟩
    · exact absurd adds (never act a permitted)

theorem Sound.pin_adds (sound : s.Sound) (workspace : String) (now : Moment) (id : String) (request : PinRequest) :
    (s.added (Decision.pin s workspace now id request).2).length =
      if (Decision.pin s workspace now id request).1.isOk then 1 else 0 := by
  have pins := Decision.pin_pins s workspace now id request
  generalize Decision.pin s workspace now id request = outcome at pins
  have same : s.added s = [] := added_none sound fun a present => ⟨a, present, rfl⟩
  cases pins with
  | unfit fault => exact congrArg List.length same
  | refused fault => exact congrArg List.length same
  | pinned e v key there named allowed =>
    have one : s.added ((Act.pin id v.id request.subject key).apply workspace now s) =
        [s.pinnedRow workspace now id v.id request.subject key] := by
      refine added_exact sound rfl ?_ ?_
      · intro a left
        exact ⟨a, (List.mem_filter.mp left).1, rfl⟩
      · intro a new
        rw [List.mem_singleton.mp new]
        exact next_not_issued s
    exact congrArg List.length one

end Store

theorem Visit.Decides.carries {visit : Visit} {s next : Store} {e : Experiment} {decision : Decision}
    (decides : visit.Decides s e decision next) (sound : s.Sound) :
    e.key = decision.experiment ∧ decision.assignment ≠ Decision.concludedId := by
  cases decides with
  | seen row v found there named => exact ⟨rfl, (sound.rowsIssued row (Store.find?_some found).1).ne_concluded⟩
  | drawn v key missing there own kept free => exact ⟨rfl, Store.idOf_ne_concluded _⟩

theorem Visit.Leaves.writes {visit : Visit} {s : Store} {e : Experiment} {outcome : Outcome (Option Decision)}
    (leaves : visit.Leaves s e outcome) (sound : s.Sound) (present : e ∈ s.experiments)
    (own : e.workspace = visit.workspace) {decision : Option Decision} (answered : outcome.1 = .ok decision) :
    Decision.Writes visit.workspace visit.now s outcome.2 decision := by
  cases leaves with
  | closed stage =>
    cases answered
    cases served : Visit.closed s e with
    | none => rfl
    | some decision =>
      rw [Decision.Writes, if_pos (Visit.closed_concluded served)]
  | undecided answer none =>
    cases answered
    cases decision with
    | none => rfl
    | some decision => exact absurd rfl (none decision)
  | refused fault => cases answered
  | decided decision next decides =>
    cases answered
    obtain ⟨key, row⟩ := decides.carries sound
    rw [Decision.Writes, if_neg row]
    exact ⟨e, present, own, key, decides.touches⟩

theorem Decision.assign_writes {s : Store} (sound : s.Sound) (visit : Visit) (key : String) {decision : Option Decision}
    (answered : (assign visit key s).1 = .ok decision) :
    Writes visit.workspace visit.now s (assign visit key s).2 decision := by
  rcases assign_leaves visit key sound with same | ⟨e, present, own, leaves⟩
  · rw [same] at answered ⊢
    cases answered
    rfl
  · exact leaves.writes sound present own answered

namespace Operation
variable {s : Store}

theorem run_fate (sound : s.Sound) (workspace : String) (now : Moment) (operation : Operation) {row : Assignment}
    (present : row ∈ s.assignments) : row.Fate workspace now operation s (operation.run workspace now s).2 := by
  cases operation with
  | assign key request =>
    have decides : (assign key request).Decides := trivial
    obtain ⟨_, _, _, visited⟩ := Decision.assign_visited (visitOf workspace now request) key sound
    exact visited.fate decides present
  | assignAll request =>
    have decides : (assignAll request).Decides := trivial
    obtain ⟨_, _, _, _, _, visited⟩ := Decision.assignAll_visited (visitOf workspace now request) sound
    exact visited.fate decides present
  | _ => exact sound.once_fate id (run_once sound workspace now id) present

theorem run_adds (sound : s.Sound) (workspace : String) (now : Moment) (operation : Operation) :
    operation.Adds workspace s (operation.run workspace now s).1.isOk (s.added (operation.run workspace now s).2) := by
  cases operation with
  | assign key request =>
    obtain ⟨_, _, fresh, visited⟩ := Decision.assign_visited (visitOf workspace now request) key sound
    have rows : s.added (Decision.assign (visitOf workspace now request) key s).2 = fresh := visited.added_fresh sound
    have few := visited.own.length_le
    rw [List.length_map] at few
    exact Nat.le_trans (Nat.le_of_eq (congrArg List.length rows)) few
  | assignAll request =>
    obtain ⟨ids, _, fresh, distinct, running, visited⟩ :=
      Decision.assignAll_visited (visitOf workspace now request) sound
    have rows : s.added (Decision.assignAll (visitOf workspace now request) s).2 = fresh := visited.added_fresh sound
    show ((s.added (Decision.assignAll (visitOf workspace now request) s).2).map (·.experiment)).Nodup ∧ _
    rw [rows]
    refine ⟨distinct.sublist visited.own, ?_⟩
    intro a new
    exact running a.experiment (visited.own.subset (List.mem_map_of_mem (rows ▸ new)))
  | pin id request =>
    have answered : (run workspace now s (.pin id request)).1.isOk =
        (Decision.pin s workspace now id request).1.isOk := Outcome.map_isOk _ _
    rw [answered]
    exact sound.pin_adds workspace now id request
  | _ =>
    refine sound.once_adds (run_once sound workspace now id) ?_
    intro act a permitted adds
    cases adds <;> cases permitted <;> contradiction

end Operation

theorem rows_change_by_rule {s : Store} (attained : Attained s) (workspace : String) (now : Moment)
    (operation : Operation) : s.RowsChange workspace now operation (operation.run workspace now s) := by
  have sound := attained.sound
  refine ⟨?_, ?_, Operation.run_adds sound workspace now operation, ?_⟩
  · exact ((Operation.run_commits sound workspace now operation).sound sound).rowIds
  · exact fun row present => Operation.run_fate sound workspace now operation present
  · intro key request decision asked answered
    subst asked
    obtain ⟨served, given, same⟩ := Outcome.map_ok answered
    cases same
    exact Decision.assign_writes sound (Operation.visitOf workspace now request) key given

-- Three who have come separately. Two of them turn out to be one, who is then pinned; the first comes back.
def threeStored : Store :=
  (Scene.empty.play (Scene.shop ++
    [Operation.assign "price" ⟨⟨some "ann", none, none⟩, none⟩, .assign "price" ⟨⟨none, some "till", none⟩, none⟩,
      .assign "price" ⟨⟨none, none, some "u"⟩, none⟩].map fun operation => (⟨1⟩, .perform "shop" operation))).store

theorem threeStored_change : Attained threeStored ∧
    (let pinned := Operation.run "shop" ⟨2⟩ threeStored (.pin "id-1" ⟨⟨some "ann", some "till", none⟩, "id-2"⟩);
      (threeStored.added pinned.2).length = 1 ∧ ∀ row ∈ threeStored.assignments, row ∈ pinned.2.assignments ∨
        row.subject.user = none ∧ ∀ a ∈ pinned.2.assignments, a.id ≠ row.id) ∧
    (let shown := Operation.run "shop" ⟨2⟩ threeStored (.assign "price" ⟨⟨some "ann", none, none⟩, none⟩);
      ∃ row ∈ threeStored.assignments, ∃ e ∈ threeStored.experiments,
        threeStored.Touches ⟨2⟩ e.id row.id shown.2) := by
  have attained : Attained threeStored := ⟨_, rfl⟩
  refine ⟨attained, ⟨?_, ?_⟩, ?_⟩
  · have one := (rows_change_by_rule attained "shop" ⟨2⟩
      (.pin "id-1" ⟨⟨some "ann", some "till", none⟩, "id-2"⟩)).added
    have succeeds : (Operation.run "shop" ⟨2⟩ threeStored
        (.pin "id-1" ⟨⟨some "ann", some "till", none⟩, "id-2"⟩)).1.isOk = true := by decide +kernel
    rw [succeeds] at one
    exact one
  · intro row present
    have sharing : ∀ row ∈ threeStored.assignments,
        (⟨some "ann", some "till", none⟩ : Subject).Shares row.subject → row.subject.user = none := by decide +kernel
    cases (rows_change_by_rule attained "shop" ⟨2⟩
      (.pin "id-1" ⟨⟨some "ann", some "till", none⟩, "id-2"⟩)).rows row present with
    | kept same => exact .inl same
    | shown decides _ => exact decides.elim
    | converted _ _ reports _ _ => cases reports
    | gone drops absent => exact .inr ⟨sharing row present drops.2.2, absent⟩
  · obtain ⟨row, present, variant, seen⟩ : ∃ row ∈ threeStored.assignments, ∃ v ∈ threeStored.variants,
        threeStored.shows "shop" ⟨2⟩ (.assign "price" ⟨⟨some "ann", none, none⟩, none⟩) =
          some (row.id, v.key, false) := by decide +kernel
    obtain ⟨decision, answered, named, _, _⟩ := Store.shows_exact.mp seen.2
    have written := (rows_change_by_rule attained "shop" ⟨2⟩ _).written "price" _ _ rfl answered
    have other : decision.assignment ≠ Decision.concludedId :=
      named ▸ (attained.sound.rowsIssued row present).ne_concluded
    rw [Decision.Writes, if_neg other, named] at written
    obtain ⟨e, there, _, _, touches⟩ := written
    exact ⟨row, present, e, there, touches⟩

end Cohort
