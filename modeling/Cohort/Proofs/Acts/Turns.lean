import Cohort.Operation
import Cohort.Proofs.Acts.Catalogue

-- Requests that write rows take their turns between those of others. What a request knows when its turn comes is
-- still so, because no act takes it away; so each turn commits allowed acts, and so does a request as a whole.
namespace Cohort

namespace Bucket

theorem reach_mem {weight : α → Int} {bucket sum : Int} {items : List α} {item : α}
    (reached : reach weight bucket sum items = some item) : item ∈ items := by
  induction items generalizing sum with
  | nil => cases reached
  | cons first rest ih =>
    simp only [reach] at reached
    split at reached
    · cases reached
      exact List.mem_cons_self
    · exact List.mem_cons_of_mem _ (ih reached)

theorem pick_mem {weight : α → Int} {items : List α} {hash : Nat} {item : α}
    (picked : pick weight items hash = .ok item) : item ∈ items := by
  unfold pick at picked
  cases last : items.getLast? with
  | none => simp [last] at picked
  | some final =>
    simp only [last] at picked
    split at picked
    · cases picked
    · cases picked
      cases reached : reach weight (Int.fmod hash (total weight items)) 0 items with
      | none => exact List.mem_of_getLast? last
      | some item => exact reach_mem reached

end Bucket

-- What stands behind the turn that a request for a decision takes next.
def Turn.Grounded (workspace : String) (s : Store) : Turn → Prop
  | .looking _ => True
  | .inserting e v => s.Launched workspace e.id ∧ s.Owns e.id v.id
  | .refetching e _ => s.Launched workspace e.id
  | .exposing _ row => s.Within workspace row.id
  | .settled _ => True

theorem Turn.Grounded.kept {workspace : String} {s next : Store} {turn : Turn} (kept : s.Kept next)
    (grounded : turn.Grounded workspace s) : turn.Grounded workspace next := by
  cases turn with
  | looking key => trivial
  | inserting e v => exact ⟨kept.launched _ _ grounded.1, kept.owns _ _ _ grounded.1 grounded.2⟩
  | refetching e violation => exact kept.launched _ _ grounded
  | exposing e row => exact kept.within _ _ grounded
  | settled answer => trivial

theorem Store.Sound.within {s : Store} (sound : s.Sound) {workspace : String} {row : Assignment}
    (present : row ∈ s.assignments) (held : s.Holds workspace row.experiment) : s.Within workspace row.id := by
  refine ⟨sound.rowsIssued row present, ?_⟩
  intro a there same
  rwa [sound.same_row there present same]

namespace Visit
variable {s : Store} {visit : Visit}

-- What a request for an experiment comes to when it enters: what a closed experiment answers, no decision, the row
-- that stands for the subject, or a variant of the experiment for a subject without a row.
inductive Enters (visit : Visit) (s : Store) (e : Experiment) : Turn → Prop where
  | closed (stage : e.status ≠ .running) : Enters visit s e (.settled (.ok (closed s e)))
  | undecided (answer : Answer) (none : ∀ decision, answer ≠ .ok (some decision)) : Enters visit s e (.settled answer)
  | found (running : e.status = .running) (found : s.find? e.id visit.subject = some row) :
      Enters visit s e (.exposing e row)
  | drawn (running : e.status = .running) (missing : s.find? e.id visit.subject = none)
      (member : v ∈ s.variantsOf e.id) : Enters visit s e (.inserting e v)

theorem enter_enters (visit : Visit) (s : Store) (e : Experiment) : visit.Enters s e (visit.enter s e) := by
  unfold enter
  split
  · rename_i stage
    exact .closed stage
  · rename_i stage
    have running : e.status = .running := by simpa using stage
    split
    · exact .undecided _ nofun
    · exact .undecided _ nofun
    · exact .undecided _ nofun
    · split
      · exact .undecided _ nofun
      · exact .undecided _ nofun
      · split
        · rename_i row found
          exact .found running found
        · rename_i missing
          split
          · rename_i v selected
            exact .drawn running missing (Bucket.pick_mem selected)
          · exact .undecided _ nofun

theorem Enters.grounded {e : Experiment} {turn : Turn} (enters : visit.Enters s e turn) (sound : s.Sound)
    (launched : e.status = .running → s.Launched visit.workspace e.id) : turn.Grounded visit.workspace s := by
  cases enters with
  | closed stage => trivial
  | undecided answer none => trivial
  | found running found =>
    obtain ⟨present, own, _⟩ := Store.find?_some found
    exact sound.within present (own ▸ (launched running).holds)
  | drawn running missing member =>
    obtain ⟨there, own⟩ := Store.mem_variantsOf.mp member
    exact ⟨launched running, _, there, rfl, own⟩

theorem enter_grounded (sound : s.Sound) {e : Experiment}
    (launched : e.status = .running → s.Launched visit.workspace e.id) :
    (visit.enter s e).Grounded visit.workspace s := (visit.enter_enters s e).grounded sound launched

theorem look_grounded (sound : s.Sound) (key : String) : (visit.look key s).Grounded visit.workspace s := by
  unfold look
  cases found : s.experimentByKey? visit.workspace key with
  | none => trivial
  | some e =>
    obtain ⟨present, own, _⟩ := Store.experimentByKey?_some found
    refine enter_grounded sound fun running => ⟨e, present, rfl, own, ?_⟩
    simp [running]

theorem insert_commits {e : Experiment} {v : Variant} (launched : s.Launched visit.workspace e.id)
    (owns : s.Owns e.id v.id) :
    Act.Commits (Permits visit.subject) visit.workspace visit.now s (visit.insert e v s).2 ∧
      (visit.insert e v s).1.Grounded visit.workspace (visit.insert e v s).2 := by
  unfold insert
  cases added : s.addDrawn visit.now visit.workspace e.id v.id visit.subject with
  | mk answer next =>
    rcases Store.addSubject_exact added with ⟨fault, refused⟩ | ⟨key, kept, free, stored⟩
    · cases refused
      have lost : Act.Commits (Permits visit.subject) visit.workspace visit.now s s.draw := .one .lose .lose trivial
      split
      · rename_i stored
        cases stored
      · rename_i violates
        cases violates
        exact ⟨lost, launched⟩
      · rename_i fails
        cases fails
        exact ⟨lost, trivial⟩
    · cases stored
      exact ⟨.one (.draw e.id v.id visit.subject key) (.draw e.id v.id key) ⟨launched, owns, kept, free⟩, trivial⟩

theorem refetch_commits (sound : s.Sound) {e : Experiment} {violation : Violation}
    (launched : s.Launched visit.workspace e.id) :
    Act.Commits (Permits visit.subject) visit.workspace visit.now s (visit.refetch e violation s).2 ∧
      (visit.refetch e violation s).1.Grounded visit.workspace (visit.refetch e violation s).2 := by
  unfold refetch
  cases found : s.find? e.id visit.subject with
  | none => exact ⟨.nothing, trivial⟩
  | some row =>
    obtain ⟨present, own, _⟩ := Store.find?_some found
    exact ⟨.nothing, sound.within present (own ▸ launched.holds)⟩

theorem expose_commits {e : Experiment} {row : Assignment} (within : s.Within visit.workspace row.id) :
    Act.Commits (Permits visit.subject) visit.workspace visit.now s (visit.expose e row s).2 ∧
      (visit.expose e row s).1.Grounded visit.workspace (visit.expose e row s).2 := by
  unfold expose Store.recordExposure
  split
  · rename_i next exposed
    split at exposed
    · cases exposed
    · cases exposed
      exact ⟨.one (.expose row.id) (.expose row.id) within, trivial⟩
  · exact ⟨.nothing, trivial⟩

theorem advance_commits (visit : Visit) (sound : s.Sound) {turn : Turn}
    (grounded : turn.Grounded visit.workspace s) :
    Act.Commits (Permits visit.subject) visit.workspace visit.now s (visit.advance turn s).2 ∧
      (visit.advance turn s).1.Grounded visit.workspace (visit.advance turn s).2 := by
  cases turn with
  | looking key => exact ⟨.nothing, look_grounded sound key⟩
  | inserting e v => exact insert_commits grounded.1 grounded.2
  | refetching e violation => exact refetch_commits sound grounded
  | exposing e row => exact expose_commits grounded
  | settled answer => exact ⟨.nothing, trivial⟩

theorem settle_settled (answer : Answer) : visit.settle (.settled answer) s = (answer, s) := by
  unfold settle
  rfl

theorem settle_advance {turn : Turn} (more : turn.answer? = none) :
    visit.settle turn s = visit.settle (visit.advance turn s).1 (visit.advance turn s).2 := by
  rw [settle]
  split
  · rename_i answer done
    rw [more] at done
    cases done
  · rfl

theorem settle_commits (visit : Visit) {turn : Turn} (sound : s.Sound) (grounded : turn.Grounded visit.workspace s) :
    Act.Commits (Permits visit.subject) visit.workspace visit.now s (visit.settle turn s).2 := by
  fun_induction visit.settle turn s with
  | case1 turn s answer done => exact .nothing
  | case2 turn s more next ih =>
    obtain ⟨step, ready⟩ := advance_commits visit sound grounded
    exact step.followed (ih (step.sound sound) ready)

end Visit

namespace Decision
variable {s : Store} {visit : Visit}

theorem assignEach_commits (visit : Visit) {left : List Experiment} (sound : s.Sound)
    (launched : ∀ e ∈ left, e.status = .running → s.Launched visit.workspace e.id) :
    Act.Commits (Visit.Permits visit.subject) visit.workspace visit.now s (assignEach visit left s).2 := by
  induction left generalizing s with
  | nil => exact .nothing
  | cons e rest ih =>
    have first := Visit.settle_commits visit sound (Visit.enter_grounded sound (launched e List.mem_cons_self))
    unfold assignEach
    cases done : visit.settle (visit.enter s e) s with
    | mk answer next =>
      rw [done] at first
      cases answer with
      | error fault => exact first
      | ok decision =>
        have kept := first.kept sound
        have others := ih (first.sound sound) fun e later running =>
          kept.launched _ _ (launched e (List.mem_cons_of_mem _ later) running)
        simp only
        cases after : assignEach visit rest next with
        | mk answer last =>
          rw [after] at others
          cases answer with
          | error fault => exact first.followed others
          | ok decisions => exact first.followed others

theorem listed_launched {f : Store.Filter} (open' : f.status = some .running) {workspace : String} {e : Experiment}
    (listed : e ∈ s.list workspace f) : s.Launched workspace e.id := by
  obtain ⟨present, own, admitted⟩ := Store.mem_list.mp listed
  refine ⟨e, present, rfl, own, ?_⟩
  have running : e.status = .running := by
    simp only [Store.Filter.admits, open', Bool.and_eq_true, decide_eq_true_eq] at admitted
    exact admitted.1
  simp [running]

theorem assignAll_commits (visit : Visit) (sound : s.Sound) :
    Act.Commits (Visit.Permits visit.subject) visit.workspace visit.now s (assignAll visit s).2 :=
  assignEach_commits visit sound fun _ listed _ => listed_launched rfl listed

inductive Pins (s : Store) (workspace : String) (now : Moment) (id : String) (request : PinRequest) :
    Outcome Decision → Prop where
  | unfit (fault : Fault) : Pins s workspace now id request (.error fault, s)
  | refused (fault : Fault) : Pins s workspace now id request (.error fault, s.draw)
  | pinned (e : Experiment) (v : Variant) (key : String) (there : v ∈ s.variants) (named : v.id = request.variant)
      (allowed : (Act.pin id v.id request.subject key).Allowed workspace now s) :
      Pins s workspace now id request (.ok (Decision.of e v s.nextId true),
        (Act.pin id v.id request.subject key).apply workspace now s)

theorem pin_pins (s : Store) (workspace : String) (now : Moment) (id : String) (request : PinRequest) :
    Pins s workspace now id request (pin s workspace now id request) := by
  unfold pin
  cases found : Catalogue.get s workspace id with
  | error fault => exact .unfit fault
  | ok view =>
    obtain ⟨e, present, rfl, own, rfl⟩ := Catalogue.get_ok found
    simp only
    cases picked : (s.view e).variant? request.variant with
    | none => exact .unfit _
    | some v =>
      obtain ⟨there, belongs, named⟩ := Store.view_variant?_some picked
      simp only
      split
      · exact .unfit _
      · unfold Store.replaceSubject Store.clearSubject
        split
        · exact .unfit _
        · rename_i cleared taken
          split at taken
          · cases taken
          · cases taken
            cases added : (s.without e.id request.subject).addSubject now workspace e.id v.id request.subject
                .override none with
            | mk answer next =>
              rcases Store.addSubject_exact added with ⟨fault, refused⟩ | ⟨key, kept, free, stored⟩
              · cases refused
                rw [Store.without] at added
                rw [added]
                exact .refused fault
              · cases stored
                rw [Store.without] at added
                rw [added]
                exact .pinned e v key there named ⟨⟨e, present, rfl, own⟩, ⟨v, there, rfl, belongs⟩, kept, free⟩

theorem pin_once {workspace id : String} {now : Moment} {request : PinRequest} :
    Act.Once (Operation.pin id request).Permits workspace now s (pin s workspace now id request).2 := by
  have pinned := pin_pins s workspace now id request
  generalize pin s workspace now id request = outcome at pinned
  cases pinned with
  | unfit fault => exact .nothing
  | refused fault => exact .done .lose (.pinLost id request) trivial
  | pinned e v key there named allowed =>
    exact .done (.pin id v.id request.subject key) (named ▸ .pin id key request) allowed

end Decision

namespace Conversion

def Turn.Grounded (workspace : String) (s : Store) : Turn → Prop
  | .marking row => s.Within workspace row
  | _ => True

theorem Turn.Grounded.kept {workspace : String} {s next : Store} {turn : Turn} (kept : s.Kept next)
    (grounded : turn.Grounded workspace s) : turn.Grounded workspace next := by
  cases turn with
  | looking key => trivial
  | marking row => exact kept.within _ _ grounded
  | settled answer => trivial

namespace Notice
variable {s : Store} {notice : Notice}

theorem look_within (sound : s.Sound) {key row : String} (found : notice.look key s = .ok (some row)) :
    s.Within notice.workspace row := by
  unfold look at found
  split at found
  · cases found
  · split at found
    · cases found
    · rename_i e known
      obtain ⟨present, own, _⟩ := Store.experimentByKey?_some known
      split at found
      · cases found
      · rename_i a stands
        obtain ⟨there, belongs, _⟩ := Store.find?_some stands
        split at found
        · cases found
        · cases found
          exact sound.within there ⟨e, present, belongs.symm, own⟩

theorem mark_once {row : String} (within : s.Within notice.workspace row) :
    Act.Once (Permits notice.report) notice.workspace notice.now s (notice.mark row s).2 := by
  unfold mark Store.markConverted
  split
  · exact .nothing
  · exact .done (.convert row notice.report.value (Json.ofMembers notice.report.metadata)) (.mark row) within

theorem advance_once (notice : Notice) (sound : s.Sound) {turn : Turn}
    (grounded : turn.Grounded notice.workspace s) :
    Act.Once (Permits notice.report) notice.workspace notice.now s (notice.advance turn s).2 ∧
      (notice.advance turn s).1.Grounded notice.workspace (notice.advance turn s).2 := by
  cases turn with
  | looking key =>
    cases found : notice.look key s with
    | error fault => simp only [advance, found]; exact ⟨.nothing, trivial⟩
    | ok row =>
      cases row with
      | none => simp only [advance, found]; exact ⟨.nothing, trivial⟩
      | some row => simp only [advance, found]; exact ⟨.nothing, look_within sound found⟩
  | marking row => exact ⟨mark_once grounded, trivial⟩
  | settled answer => exact ⟨.nothing, trivial⟩

end Notice

theorem record_once (notice : Notice) (sound : s.Sound) {key : String} :
    Act.Once (Permits notice.report) notice.workspace notice.now s (record notice key s).2 := by
  unfold record recordAmid
  cases found : notice.look key s with
  | error fault => exact .nothing
  | ok row =>
    cases row with
    | none => exact .nothing
    | some row => exact Notice.mark_once (Notice.look_within sound found)

end Conversion

namespace Operation
variable {s : Store}

-- A request for decisions may write more than once; all others write once at most.
def Decides : Operation → Prop
  | .assign _ _ | .assignAll _ => True
  | _ => False

theorem Decides.onRows {operation : Operation} (decides : operation.Decides) {act : Act}
    (permitted : operation.Permits act) : act.OnRows := by
  cases permitted with
  | assign key request visits | assignAll request visits => exact visits.onRows
  | _ => exact decides.elim

theorem run_once (sound : s.Sound) (workspace : String) (now : Moment) {operation : Operation}
    (other : ¬ operation.Decides) : Act.Once operation.Permits workspace now s (operation.run workspace now s).2 := by
  cases operation with
  | create draft => exact Catalogue.create_once draft
  | update id changes => exact (Catalogue.update_revises id changes).once
  | start id => exact (Catalogue.start_revises id).once
  | pause id => exact (Catalogue.pause_revises id).once
  | conclude id winner => exact (Catalogue.conclude_revises id winner).once
  | archive id => exact (Catalogue.archive_revises id).once
  | addVariant id draft => exact Catalogue.addVariant_once id draft
  | updateVariant id variant changes => exact Catalogue.updateVariant_once id variant changes
  | deleteVariant id variant => exact Catalogue.deleteVariant_once id variant
  | pin id request => exact Decision.pin_once
  | convert key report =>
    exact (Conversion.record_once ⟨workspace, now, report⟩ sound).among fun _ reports => .convert key report reports
  | assign key request => exact absurd trivial other
  | assignAll request => exact absurd trivial other
  | get id | getByKey key | list filter | statistics id => exact .nothing

theorem run_commits (sound : s.Sound) (workspace : String) (now : Moment) (operation : Operation) :
    Act.Commits operation.Permits workspace now s (operation.run workspace now s).2 := by
  cases operation with
  | assign key request =>
    have step : Act.Commits _ workspace now s (Decision.assign (visitOf workspace now request) key s).2 :=
      Visit.settle_commits (visitOf workspace now request) sound trivial
    exact step.among fun _ visits => .assign key request visits
  | assignAll request =>
    have step := Decision.assignAll_commits (visitOf workspace now request) sound
    exact step.among fun _ visits => .assignAll request visits
  | _ => exact (run_once sound workspace now id).commits

end Operation
end Cohort
