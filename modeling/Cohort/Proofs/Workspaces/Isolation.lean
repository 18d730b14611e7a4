import Cohort.Proofs.Order
import Cohort.Proofs.Workspaces.Services

-- No operation of a workspace tells the stores apart that hold the same for it, and none touches what others hold.
namespace Cohort

namespace Store
variable {s : Store} {workspace : String} {now : Moment}

theorem only_insertAssignment {row : Assignment} (held : s.Holds workspace row.experiment) :
    (s.only workspace).draw.insertAssignment row = (s.draw.insertAssignment row).map (·.only workspace) := by
  have same : (s.only workspace).draw.assignments.findSome? row.clash? = s.draw.assignments.findSome? row.clash? := by
    apply findSome_inside
    intro other _ foreign
    have apart : row.experiment ≠ other.experiment := by
      intro together
      rw [← together, held.owns] at foreign
      cases foreign
    simp [Assignment.clash?, apart]
  unfold insertAssignment
  rw [same, show (s.only workspace).draw.writable = s.draw.writable from rfl]
  split
  · rfl
  · split
    · rfl
    · exact congrArg Except.ok (Store.ext rfl rfl (filter_added s.assignments held.owns).symm rfl rfl)

theorem only_addSubject {id : String} (held : s.Holds workspace id) (variant : String) (subject : Subject)
    (source : Source) (exposedAt : Option Moment) :
    (s.only workspace).addSubject now workspace id variant subject source exposedAt =
      (s.addSubject now workspace id variant subject source exposedAt).only workspace := by
  unfold addSubject
  cases subject.key with
  | none => rfl
  | some key =>
    have inserted : (s.only workspace).draw.insertAssignment
        (Assignment.new s.nextId workspace id variant subject key source exposedAt now) = _ :=
      only_insertAssignment held
    simp only [show (s.only workspace).nextId = s.nextId from rfl, inserted]
    cases s.draw.insertAssignment
        (Assignment.new s.nextId workspace id variant subject key source exposedAt now) with
    | error fault => rfl
    | ok next => rfl

theorem only_clearSubject (id : String) (subject : Subject) :
    (s.only workspace).clearSubject id subject = (s.clearSubject id subject).map (·.only workspace) := by
  unfold clearSubject
  rw [show (s.only workspace).writable = s.writable from rfl]
  split
  · rfl
  · exact congrArg Except.ok (Store.ext rfl rfl (List.filter_comm _ _ _) rfl rfl)

theorem only_replaceSubject {id : String} (held : s.Holds workspace id) (variant : String) (subject : Subject) :
    (s.only workspace).replaceSubject now workspace id variant subject =
      (s.replaceSubject now workspace id variant subject).only workspace := by
  unfold replaceSubject
  rw [only_clearSubject]
  cases cleared : s.clearSubject id subject with
  | error fault => rfl
  | ok next =>
    have still : next.Holds workspace id := by
      unfold clearSubject at cleared
      split at cleared
      · cases cleared
      · cases cleared
        exact held
    simp only [Except.map]
    rw [only_addSubject still]
    cases next.addSubject now workspace id variant subject .override none with
    | mk answer last =>
      cases answer with
      | error fault => rfl
      | ok row => rfl

theorem only_recordExposure (now : Moment) (row : String) (sound : s.Sound) (within : s.Within workspace row) :
    (s.only workspace).recordExposure now row = (s.recordExposure now row).map (·.only workspace) := by
  unfold recordExposure
  rw [show (s.only workspace).writable = s.writable from rfl]
  split
  · rfl
  · exact congrArg Except.ok (Act.apply_only now sound (.expose row) within).symm

theorem only_markConverted (now : Moment) {row : String} (sound : s.Sound) (within : s.Within workspace row)
    (value : Option Float) (metadata : Json) : (s.only workspace).markConverted now row value metadata =
      (s.markConverted now row value metadata).map fun answer => (answer.1, answer.2.only workspace) := by
  have same : (s.only workspace).assignments.any (awaits row) = s.assignments.any (awaits row) := by
    apply any_inside
    intro a there hit
    rw [awaits, Bool.and_eq_true] at hit
    exact (within.2 a there (of_decide_eq_true hit.1)).owns
  unfold markConverted
  rw [same, show (s.only workspace).writable = s.writable from rfl]
  split
  · rfl
  · exact congrArg (fun next => Except.ok (s.assignments.any (awaits row), next))
      (Act.apply_only now sound (.convert row value metadata) within).symm

end Store

-- A request shows the row that it has found itself.
def Turn.Fresh (s : Store) : Turn → Prop
  | .exposing _ row => row ∈ s.assignments
  | _ => True

namespace Visit
variable {s : Store} {visit : Visit}

theorem enter_only {e : Experiment} (held : s.Holds visit.workspace e.id) :
    visit.enter (s.only visit.workspace) e = visit.enter s e := by
  unfold enter closed
  rw [Store.only_view held, Store.only_find? held, Store.only_variantsOf held]

theorem Enters.fresh {e : Experiment} {turn : Turn} (enters : visit.Enters s e turn) : turn.Fresh s := by
  cases enters with
  | closed stage => trivial
  | undecided answer none => trivial
  | found running found => exact (Store.find?_some found).1
  | drawn running missing member => trivial

theorem enter_fresh (visit : Visit) (s : Store) (e : Experiment) : (visit.enter s e).Fresh s :=
  (visit.enter_enters s e).fresh

theorem look_only (visit : Visit) (key : String) (s : Store) :
    visit.look key (s.only visit.workspace) = visit.look key s := by
  unfold look
  rw [Store.only_experimentByKey?]
  cases found : s.experimentByKey? visit.workspace key with
  | none => rfl
  | some e =>
    obtain ⟨present, own, _⟩ := Store.experimentByKey?_some found
    exact enter_only ⟨e, present, rfl, own⟩

theorem look_fresh (visit : Visit) (key : String) (s : Store) : (visit.look key s).Fresh s := by
  unfold look
  split
  · exact enter_fresh _ _ _
  · trivial

theorem insert_only {e : Experiment} (held : s.Holds visit.workspace e.id) (v : Variant) :
    visit.insert e v (s.only visit.workspace) =
      ((visit.insert e v s).1, (visit.insert e v s).2.only visit.workspace) := by
  unfold insert Store.addDrawn
  rw [Store.only_addSubject held]
  cases s.addSubject visit.now visit.workspace e.id v.id visit.subject .auto (some visit.now) with
  | mk answer next =>
    cases answer with
    | error fault => cases fault <;> rfl
    | ok row => rfl

theorem insert_fresh (visit : Visit) (e : Experiment) (v : Variant) (s : Store) :
    (visit.insert e v s).1.Fresh (visit.insert e v s).2 := by
  unfold insert
  split
  · trivial
  · trivial
  · trivial

theorem refetch_only {e : Experiment} (held : s.Holds visit.workspace e.id) (violation : Violation) :
    visit.refetch e violation (s.only visit.workspace) =
      ((visit.refetch e violation s).1, (visit.refetch e violation s).2.only visit.workspace) := by
  unfold refetch
  rw [Store.only_find? held]
  split
  · rfl
  · rfl

theorem refetch_fresh (visit : Visit) (e : Experiment) (violation : Violation) (s : Store) :
    (visit.refetch e violation s).1.Fresh (visit.refetch e violation s).2 := by
  unfold refetch
  cases found : s.find? e.id visit.subject with
  | none => trivial
  | some row => exact (Store.find?_some found).1

theorem expose_only (sound : s.Sound) (e : Experiment) {row : Assignment} (present : row ∈ s.assignments)
    (within : s.Within visit.workspace row.id) : visit.expose e row (s.only visit.workspace) =
      ((visit.expose e row s).1, (visit.expose e row s).2.only visit.workspace) := by
  unfold expose
  rw [Store.only_recordExposure visit.now row.id sound within]
  cases recorded : s.recordExposure visit.now row.id with
  | error fault => rfl
  | ok next =>
    -- the exposure has left the variants as they were
    have same : (next.only visit.workspace).variant? row.variant = next.variant? row.variant := by
      unfold Store.recordExposure at recorded
      split at recorded
      · cases recorded
      · cases recorded
        obtain ⟨v, there, named, own⟩ := (sound.refers row present).variant
        rw [← named]
        exact Store.only_variant? sound there (own ▸ within.2 row present rfl)
    simp only [Except.map, shown, same]

theorem advance_only (sound : s.Sound) {turn : Turn} (grounded : turn.Grounded visit.workspace s)
    (fresh : turn.Fresh s) : visit.advance turn (s.only visit.workspace) =
      ((visit.advance turn s).1, (visit.advance turn s).2.only visit.workspace) := by
  cases turn with
  | looking key => exact congrArg (·, _) (look_only visit key s)
  | inserting e v => exact insert_only grounded.1.holds v
  | refetching e violation => exact refetch_only (Store.Launched.holds grounded) violation
  | exposing e row => exact expose_only sound e fresh grounded
  | settled answer => rfl

theorem advance_fresh (visit : Visit) (turn : Turn) (s : Store) :
    (visit.advance turn s).1.Fresh (visit.advance turn s).2 := by
  cases turn with
  | looking key => exact look_fresh visit key s
  | inserting e v => exact insert_fresh visit e v s
  | refetching e violation => exact refetch_fresh visit e violation s
  | exposing e row =>
    show (visit.expose e row s).1.Fresh (visit.expose e row s).2
    unfold expose
    split
    · trivial
    · trivial
  | settled answer => trivial

theorem settle_only (sound : s.Sound) {turn : Turn} (grounded : turn.Grounded visit.workspace s)
    (fresh : turn.Fresh s) : visit.settle turn (s.only visit.workspace) =
      (visit.settle turn s).only visit.workspace := by
  fun_induction visit.settle turn s with
  | case1 turn s answer done =>
    cases turn <;> cases done
    exact settle_settled answer
  | case2 turn s more next ih =>
    obtain ⟨step, ready⟩ := advance_commits visit sound grounded
    rw [settle_advance more, advance_only sound grounded fresh]
    exact ih (step.sound sound) ready (advance_fresh visit turn s)

end Visit

namespace Decision
variable {s : Store} {visit : Visit}

theorem assignEach_only {left : List Experiment} (sound : s.Sound) (there : ∀ e ∈ left,
      s.Holds visit.workspace e.id ∧ (e.status = .running → s.Launched visit.workspace e.id)) :
    assignEach visit left (s.only visit.workspace) = (assignEach visit left s).only visit.workspace := by
  induction left generalizing s with
  | nil => rfl
  | cons e rest ih =>
    obtain ⟨held, launched⟩ := there e List.mem_cons_self
    have grounded := Visit.enter_grounded sound launched
    have committed := Visit.settle_commits visit sound grounded
    have first := Visit.settle_only sound grounded (Visit.enter_fresh visit s e)
    unfold assignEach
    rw [Visit.enter_only held, first]
    cases settled : visit.settle (visit.enter s e) s with
    | mk answer next =>
      rw [settled] at committed
      have kept := committed.kept sound
      cases answer with
      | error fault => rfl
      | ok decision =>
        have others : ∀ x ∈ rest, next.Holds visit.workspace x.id ∧
            (x.status = .running → next.Launched visit.workspace x.id) := by
          intro x later
          obtain ⟨held, launched⟩ := there x (List.mem_cons_of_mem _ later)
          exact ⟨kept.holds _ _ held, fun running => kept.launched _ _ (launched running)⟩
        simp only [Outcome.only]
        rw [ih (committed.sound sound) others]
        cases assignEach visit rest next with
        | mk answer last =>
          cases answer with
          | error fault => rfl
          | ok decisions => rfl

theorem assignAll_only (visit : Visit) (sound : s.Sound) :
    assignAll visit (s.only visit.workspace) = (assignAll visit s).only visit.workspace := by
  unfold assignAll
  rw [Store.only_list]
  apply assignEach_only sound
  intro e listed
  obtain ⟨present, own, _⟩ := Store.mem_list.mp listed
  exact ⟨⟨e, present, rfl, own⟩, fun _ => listed_launched rfl listed⟩

theorem pin_only (s : Store) (workspace id : String) (now : Moment) (request : PinRequest) :
    pin (s.only workspace) workspace now id request = (pin s workspace now id request).only workspace := by
  unfold pin
  rw [Catalogue.get_only]
  cases found : Catalogue.get s workspace id with
  | error fault => rfl
  | ok view =>
    obtain ⟨e, present, named, own, rfl⟩ := Catalogue.get_ok found
    simp only
    split
    · rfl
    · split
      · rfl
      · rw [Store.only_replaceSubject ⟨e, present, named, own⟩]
        rfl

end Decision

namespace Conversion

theorem Notice.look_only (notice : Notice) (key : String) (s : Store) :
    notice.look key (s.only notice.workspace) = notice.look key s := by
  unfold look
  rw [Store.only_experimentByKey?]
  split
  · rfl
  · cases found : s.experimentByKey? notice.workspace key with
    | none => rfl
    | some e =>
      obtain ⟨present, own, _⟩ := Store.experimentByKey?_some found
      simp only
      rw [Store.only_find? ⟨e, present, rfl, own⟩]

theorem record_only {s : Store} (notice : Notice) (key : String) (sound : s.Sound) :
    record notice key (s.only notice.workspace) = (record notice key s).only notice.workspace := by
  unfold record recordAmid
  rw [Notice.look_only]
  cases found : notice.look key s with
  | error fault => rfl
  | ok row =>
    cases row with
    | none => rfl
    | some row =>
      simp only [Notice.mark]
      rw [Store.only_markConverted notice.now sound (Notice.look_within sound found)]
      cases s.markConverted notice.now row notice.report.value (Json.ofMembers notice.report.metadata) with
      | error fault => rfl
      | ok answer => rfl

end Conversion

theorem Operation.run_only {s : Store} (sound : s.Sound) (workspace : String) (now : Moment) (operation : Operation) :
    operation.run workspace now (s.only workspace) = (operation.run workspace now s).only workspace := by
  cases operation with
  | create draft => exact congrArg (Outcome.map _) (Catalogue.create_only sound draft)
  | get id => exact congrArg (fun answer => (Except.map _ answer, s.only workspace)) (Catalogue.get_only s workspace id)
  | getByKey key =>
    exact congrArg (fun answer => (Except.map _ answer, s.only workspace)) (Catalogue.getByKey_only s workspace key)
  | list filter =>
    exact congrArg (fun views => (Except.ok (Answer.experiments views), s.only workspace))
      (Catalogue.list_only s workspace filter)
  | update id changes => exact congrArg (Outcome.map _) (Catalogue.revise_only sound id _)
  | start id => exact congrArg (Outcome.map _) (Catalogue.revise_only sound id _)
  | pause id => exact congrArg (Outcome.map _) (Catalogue.revise_only sound id _)
  | conclude id winner => exact congrArg (Outcome.map _) (Catalogue.revise_only sound id _)
  | archive id => exact congrArg (Outcome.map _) (Catalogue.revise_only sound id _)
  | addVariant id draft => exact congrArg (Outcome.map _) (Catalogue.addVariant_only sound id draft)
  | updateVariant id variant changes =>
    exact congrArg (Outcome.map _) (Catalogue.updateVariant_only sound id variant changes)
  | deleteVariant id variant => exact congrArg (Outcome.map _) (Catalogue.deleteVariant_only sound id variant)
  | assign key request =>
    have asked : (visitOf workspace now request).settle (.looking key) (s.only workspace) =
        ((visitOf workspace now request).settle (.looking key) s).only workspace :=
      Visit.settle_only sound trivial trivial
    exact congrArg (Outcome.map _) asked
  | assignAll request =>
    exact congrArg (Outcome.map _) (Decision.assignAll_only (visitOf workspace now request) sound)
  | pin id request => exact congrArg (Outcome.map _) (Decision.pin_only s workspace id now request)
  | convert key report => exact congrArg (Outcome.map _) (Conversion.record_only ⟨workspace, now, report⟩ key sound)
  | statistics id =>
    exact congrArg (fun answer => (Except.map _ answer, s.only workspace)) (Statistics.of_only s workspace id)

namespace Store
variable {s t : Store} {workspace : String}

theorem only_holdings (same : s.only workspace = t.only workspace) : s.holdings workspace = t.holdings workspace :=
  Holdings.ext (congrArg (·.experiments) same) (congrArg (·.variants) same) (congrArg (·.assignments) same)

-- Rows that are the same stand in the same order, too.
theorem same_only (first : Attained s) (second : Attained t) (same : (s.holdings workspace).Same (t.holdings workspace))
    (drawn : s.drawn = t.drawn) : s.only workspace = t.only workspace := by
  have left := first.ordered
  have right := second.ordered
  refine Store.ext ?_ ?_ ?_ drawn (first.sound.writable.trans second.sound.writable.symm)
  · exact ordered_same (ordered_filter _ left.experiments) (ordered_filter _ right.experiments) same.experiments
  · exact ordered_same (ordered_filter _ left.variants) (ordered_filter _ right.variants) same.variants
  · exact ordered_same (ordered_filter _ left.assignments) (ordered_filter _ right.assignments) same.assignments

end Store

-- Whatever a workspace names, two stores that hold the same for it, and that have given out as many ids, answer it
-- alike and hold the same for it afterwards; and neither has changed for any other workspace.
theorem workspaces_apart {s t : Store} (first : Attained s) (second : Attained t) {workspace : String}
    (same : (s.holdings workspace).Same (t.holdings workspace)) (drawn : s.drawn = t.drawn) (now : Moment)
    (operation : Operation) :
    (operation.run workspace now s).1 = (operation.run workspace now t).1 ∧
    (operation.run workspace now s).2.holdings workspace = (operation.run workspace now t).2.holdings workspace ∧
    ∀ other, other ≠ workspace → (operation.run workspace now s).2.holdings other = s.holdings other ∧
      (operation.run workspace now t).2.holdings other = t.holdings other := by
  have alone := Store.same_only first second same drawn
  have runs : (operation.run workspace now s).only workspace = (operation.run workspace now t).only workspace := by
    rw [← operation.run_only first.sound workspace now, alone, operation.run_only second.sound workspace now]
  refine ⟨congrArg (·.1) runs, Store.only_holdings (congrArg (·.2) runs), ?_⟩
  intro other apart
  have left := Operation.run_commits first.sound workspace now operation
  have right := Operation.run_commits second.sound workspace now operation
  exact ⟨left.apart first.sound apart, right.apart second.sound apart⟩

-- A shop with one experiment, next to a club that has made one of its own.
def withClub (key : Key) : Store :=
  (Scene.empty.play (Scene.shop ++
    [(⟨1⟩, .perform "club" (.create ⟨key, "", none, .feature, .all, [], none, none, []⟩))])).store

theorem withClub_shop (key : Key) : (withClub key).holdings "shop" =
    (Scene.empty.play Scene.shop).store.holdings "shop" := by
  have sound := (Scene.play_ready Scene.empty_ready Scene.shop).sound
  have made := Operation.run_commits sound "club" ⟨1⟩ (.create ⟨key, "", none, .feature, .all, [], none, none, []⟩)
  rw [withClub, Scene.play, List.foldl_append]
  exact made.apart sound (by decide)

-- What the shop is told of the club's experiment does not tell which one it is.
theorem clubs_apart : (withClub ⟨"song", by decide⟩).experiments.map (·.key) ≠
      (withClub ⟨"dance", by decide⟩).experiments.map (·.key) ∧
    ((Operation.get "id-4").run "club" ⟨2⟩ (withClub ⟨"song", by decide⟩)).1.isOk = true ∧
    ((Operation.get "id-4").run "shop" ⟨2⟩ (withClub ⟨"song", by decide⟩)).1 =
      ((Operation.get "id-4").run "shop" ⟨2⟩ (withClub ⟨"dance", by decide⟩)).1 := by
  have same : ((withClub ⟨"song", by decide⟩).holdings "shop").Same
      ((withClub ⟨"dance", by decide⟩).holdings "shop") := by
    rw [withClub_shop, withClub_shop]
    exact .refl _
  have drawn : (withClub ⟨"song", by decide⟩).drawn = (withClub ⟨"dance", by decide⟩).drawn := by decide +kernel
  refine ⟨by decide +kernel, by decide +kernel, ?_⟩
  exact (workspaces_apart ⟨_, rfl⟩ ⟨_, rfl⟩ same drawn ⟨2⟩ (.get "id-4")).1

end Cohort
