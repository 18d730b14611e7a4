import Cohort.Proofs.Gates

-- What each turn of a request for a decision counts: a row is counted once more exactly if the turn settles on a decision
-- that carries its id. A turn fails on a constraint or for want of an identifier, and in no other way.
namespace Cohort

-- A decision that a request made, with the time of the turn that made it. Requests under way are known by their place.
structure Showing where
  time : Moment
  decision : Decision
  request : Option Nat

namespace Showing

def timesOf (row : String) (made : List Showing) : List Moment :=
  (made.filter (·.decision.assignment = row)).map (·.time)

theorem timesOf_append (row : String) (made more : List Showing) :
    timesOf row (made ++ more) = timesOf row made ++ timesOf row more := by
  simp [timesOf]

theorem timesOf_hit {row : String} (made : List Showing) {m : Showing} (hit : m.decision.assignment = row) :
    timesOf row (made ++ [m]) = timesOf row made ++ [m.time] := by
  simp [timesOf, hit]

theorem timesOf_none {row : String} {made : List Showing} (other : ∀ m ∈ made, m.decision.assignment ≠ row) :
    timesOf row made = [] := by
  unfold timesOf
  rw [List.map_eq_nil_iff, List.filter_eq_nil_iff]
  intro m member
  simpa using other m member

theorem timesOf_miss {row : String} (made : List Showing) {more : List Showing}
    (other : ∀ m ∈ more, m.decision.assignment ≠ row) : timesOf row (made ++ more) = timesOf row made := by
  rw [timesOf_append, timesOf_none other, List.append_nil]

end Showing

-- The row has been counted once for each of the times, and shows the first of them and the last.
structure Assignment.SeenAt (a : Assignment) (times : List Moment) : Prop where
  count : a.exposures = times.length
  first : a.firstExposure = times.head?
  last : a.lastExposure = times.getLast?

namespace Assignment

theorem SeenAt.exposed {a : Assignment} {times : List Moment} (seen : a.SeenAt times) (now : Moment) :
    (Store.exposed now a).SeenAt (times ++ [now]) where
  count := by simp [Store.exposed, seen.count]
  first := by
    cases times with
    | nil => simp [Store.exposed, seen.first]
    | cons first rest => simp [Store.exposed, seen.first]
  last := by simp [Store.exposed]

theorem SeenAt.congr {a b : Assignment} {times : List Moment} (seen : b.SeenAt times)
    (count : a.exposures = b.exposures) (first : a.firstExposure = b.firstExposure)
    (last : a.lastExposure = b.lastExposure) : a.SeenAt times :=
  ⟨count.trans seen.count, first.trans seen.first, last.trans seen.last⟩

end Assignment

namespace Store

theorem idOf_ne_concluded (n : Nat) : idOf n ≠ Decision.concludedId := by
  intro same
  have spelled := congrArg (fun text => text.toList.head?) same
  simp [idOf, Decision.concludedId] at spelled

theorem Issued.ne_concluded {s : Store} {id : String} (issued : s.Issued id) : id ≠ Decision.concludedId := by
  obtain ⟨n, _, rfl⟩ := issued
  exact idOf_ne_concluded n

-- Every row has been counted for the decisions that carry its id, and no decision carries an id that is not given out.
structure Tallied (s : Store) (made : List Showing) : Prop where
  rows : ∀ a ∈ s.assignments, a.SeenAt (Showing.timesOf a.id made)
  known : ∀ m ∈ made, m.decision.assignment = Decision.concludedId ∨ s.Issued m.decision.assignment

theorem empty_tallied : Tallied .empty [] where
  rows := fun _ member => absurd member List.not_mem_nil
  known := fun _ member => absurd member List.not_mem_nil

def Counts (s : Store) (time : Moment) (decisions : List Decision) (next : Store) : Prop :=
  ∀ made request, s.Tallied made → next.Tallied (made ++ decisions.map (⟨time, ·, request⟩))

namespace Counts
variable {s middle last : Store} {time : Moment} {decisions more : List Decision}

theorem nothing (s : Store) (time : Moment) : s.Counts time [] s := by
  intro made request tallied
  rwa [List.map_nil, List.append_nil]

theorem trans (first : s.Counts time decisions middle) (second : middle.Counts time more last) :
    s.Counts time (decisions ++ more) last := by
  intro made request tallied
  rw [List.map_append, ← List.append_assoc]
  exact second _ request (first made request tallied)

theorem concluded (sound : s.Sound) (time : Moment) (rowless : ∀ d ∈ decisions, d.assignment = Decision.concludedId) :
    s.Counts time decisions s := by
  intro made request tallied
  have without : ∀ m ∈ decisions.map fun d => (⟨time, d, request⟩ : Showing),
      m.decision.assignment = Decision.concludedId := by
    intro m member
    obtain ⟨d, given, rfl⟩ := List.mem_map.mp member
    exact rowless d given
  refine ⟨?_, ?_⟩
  · intro a present
    rw [Showing.timesOf_miss made fun m member hit =>
      (sound.rowsIssued a present).ne_concluded (hit.symm.trans (without m member))]
    exact tallied.rows a present
  · intro m member
    rcases List.mem_append.mp member with old | new
    · exact tallied.known m old
    · exact .inl (without m new)

end Counts
end Store

def Act.Shows : Act → Prop
  | .draw _ _ _ _ | .expose _ => True
  | _ => False

namespace Act
open Store
variable {workspace : String} {now : Moment} {s : Store} {act : Act}

theorem known_grows {made : List Showing} (tallied : s.Tallied made) (act : Act) : ∀ m ∈ made,
    m.decision.assignment = Decision.concludedId ∨ (act.apply workspace now s).Issued m.decision.assignment := by
  intro m member
  exact (tallied.known m member).imp_right fun issued => issued.mono (drawn_grows workspace now s act)

theorem fresh_unseen {made : List Showing} (tallied : s.Tallied made) :
    ∀ m ∈ made, m.decision.assignment ≠ s.nextId := by
  intro m member hit
  rcases tallied.known m member with concluded | issued
  · exact idOf_ne_concluded _ (hit.symm.trans concluded)
  · exact issued.ne_next hit

-- What neither draws nor exposes leaves all counts as they are, and a pinned row has not been seen.
theorem quiet_counts (other : ¬ act.Shows) : s.Counts now [] (act.apply workspace now s) := by
  intro made request tallied
  rw [List.map_nil, List.append_nil]
  refine ⟨?_, known_grows tallied act⟩
  intro a present
  rcases row_becomes present with ⟨b, old, becomes⟩ | adds
  · have seen := tallied.rows b old
    cases becomes with
    | same => exact seen
    | exposed => exact absurd trivial other
    | converted => exact seen.congr rfl rfl rfl
  · have unseen : Showing.timesOf a.id made = [] := by
      rw [adds.fresh.1]
      exact Showing.timesOf_none (fresh_unseen tallied)
    rw [unseen]
    cases adds with
    | drawn => exact absurd trivial other
    | pinned => exact ⟨rfl, rfl, rfl⟩

theorem Commits.quiet {may : Act → Prop} {next : Store} (committed : Commits may workspace now s next)
    (others : ∀ act, may act → ¬ act.Shows) : s.Counts now [] next := by
  induction committed with
  | nothing => exact .nothing s now
  | step _ permitted _ ih => exact ih.trans (quiet_counts (others _ permitted))

theorem drawn_counts (sound : s.Sound) {id variant key : String} {subject : Subject} {decision : Decision}
    (named : decision.assignment = s.nextId) :
    s.Counts now [decision] ((Act.draw id variant subject key).apply workspace now s) := by
  intro made request tallied
  let showing : Showing := ⟨now, decision, request⟩
  refine ⟨all_added ?_ ?_, all_added (known_grows tallied _) (.inr (named ▸ next_issued rfl))⟩
  · intro a old
    have apart : ∀ m ∈ [showing], m.decision.assignment ≠ a.id := by
      intro m member hit
      rw [List.mem_singleton.mp member] at hit
      exact (sound.rowsIssued a old).ne_next (hit.symm.trans named)
    rw [List.map_singleton, Showing.timesOf_miss made apart]
    exact tallied.rows a old
  · have hit : Showing.timesOf s.nextId (made ++ [showing]) = [now] := by
      rw [Showing.timesOf_hit made named, Showing.timesOf_none (fresh_unseen tallied)]
      rfl
    exact hit.symm ▸ ⟨rfl, rfl, rfl⟩

theorem exposed_counts {row : String} (issued : s.Issued row) {decision : Decision}
    (named : decision.assignment = row) : s.Counts now [decision] ((Act.expose row).apply workspace now s) := by
  subst named
  intro made request tallied
  let showing : Showing := ⟨now, decision, request⟩
  refine ⟨?_, all_added (known_grows tallied _) (.inr issued)⟩
  intro a present
  obtain ⟨b, old, rfl⟩ := List.mem_map.mp present
  by_cases hit : b.id = decision.assignment
  · have times : Showing.timesOf b.id (made ++ [showing]) = Showing.timesOf b.id made ++ [now] :=
      Showing.timesOf_hit made hit.symm
    rw [if_pos hit]
    exact times.symm ▸ (tallied.rows b old).exposed now
  · have apart : ∀ m ∈ [showing], m.decision.assignment ≠ b.id := by
      intro m member same
      rw [List.mem_singleton.mp member] at same
      exact hit same.symm
    rw [if_neg hit, List.map_singleton, Showing.timesOf_miss made apart]
    exact tallied.rows b old

end Act

def Decision.given : Visit.Answer → List Decision
  | .ok decision => decision.toList
  | .error _ => []

def Turn.decisions : Turn → List Decision
  | .settled answer => Decision.given answer
  | _ => []

theorem Turn.answer?_some {turn : Turn} {answer : Visit.Answer} (done : turn.answer? = some answer) :
    turn = .settled answer := by
  cases turn with
  | settled given => exact congrArg Turn.settled (Option.some.inj done)
  | looking _ | inserting _ _ | refetching _ _ | exposing _ _ => cases done

-- What stands behind the turn a request takes next, beyond its ground: it has an identifier wherever it knows of a row
-- or a variant, the variant of a row that is to be shown is there for good, and no fault other than a violated constraint
-- has ended it.
def Turn.Backed (visit : Visit) (s : Store) : Turn → Prop
  | .looking _ => True
  | .inserting _ _ | .refetching _ _ => visit.subject.hasIdentifier = true
  | .exposing e row => visit.subject.hasIdentifier = true ∧ s.Launched visit.workspace e.id ∧ s.Owns e.id row.variant
  | .settled answer => visit.subject.hasIdentifier = true → ∀ fault, answer = .error fault → fault.kind = .integrity

theorem Turn.Backed.kept {visit : Visit} {s next : Store} {turn : Turn} (kept : s.Kept next)
    (backed : turn.Backed visit s) : turn.Backed visit next := by
  cases turn with
  | exposing e row =>
    obtain ⟨named, launched, owns⟩ := backed
    exact ⟨named, kept.launched _ _ launched, kept.owns _ _ _ launched owns⟩
  | looking _ | inserting _ _ | refetching _ _ | settled _ => exact backed

-- An experiment as a round has listed it: nothing strays in it, and it has been launched with a variant.
structure Experiment.Lasts (e : Experiment) (workspace : String) (s : Store) : Prop where
  plain : e.strays = {}
  launched : s.Launched workspace e.id
  owns : ∃ variant, s.Owns e.id variant

theorem Experiment.Lasts.kept {e : Experiment} {workspace : String} {s next : Store} (kept : s.Kept next)
    (lasts : e.Lasts workspace s) : e.Lasts workspace next := by
  obtain ⟨variant, owns⟩ := lasts.owns
  exact ⟨lasts.plain, kept.launched _ _ lasts.launched, variant, kept.owns _ _ _ lasts.launched owns⟩

theorem Store.Sound.lasts {s : Store} (sound : s.Sound) {e : Experiment} (present : e ∈ s.experiments)
    (running : e.status = .running) : e.Lasts e.workspace s := by
  refine ⟨sound.plain e present, ⟨e, present, rfl, rfl, by simp [running]⟩, ?_⟩
  obtain ⟨v, member⟩ := List.exists_mem_of_ne_nil _ (sound.some_variant present running)
  obtain ⟨there, own⟩ := mem_variantsOf.mp member
  exact ⟨v.id, v, there, rfl, own⟩

theorem Store.Sound.listed_lasts {s : Store} (sound : s.Sound) {workspace : String} {e : Experiment}
    (listed : e ∈ s.list workspace ⟨some .running, none, false⟩) : e.Lasts workspace s := by
  obtain ⟨present, own, running⟩ := mem_running.mp listed
  exact own ▸ sound.lasts present running

namespace Visit
variable {s : Store} {visit : Visit} {e : Experiment}

-- A turn that a request has come to: what it stands on, what has been counted on the way, and that nobody is shown a row
-- without an identifier.
structure Counted (visit : Visit) (s : Store) (turn : Turn) (next : Store) : Prop where
  backed : turn.Backed visit next
  counts : s.Counts visit.now turn.decisions next
  named : ∀ d ∈ turn.decisions, d.assignment = Decision.concludedId ∨ visit.subject.hasIdentifier = true

theorem closed_concluded {decision : Decision} (served : closed s e = some decision) :
    decision.assignment = Decision.concludedId := by
  unfold closed at served
  split at served
  · obtain ⟨v, _, rfl⟩ := Option.map_eq_some_iff.mp served
    rfl
  · cases served

theorem Counted.look {turn : Turn} (sound : s.Sound) (backed : turn.Backed visit s)
    (rowless : ∀ d ∈ turn.decisions, d.assignment = Decision.concludedId) : visit.Counted s turn s where
  backed := backed
  counts := .concluded sound visit.now rowless
  named := fun d given => .inl (rowless d given)

theorem enter_unnamed (running : e.status = .running) (plain : e.strays = {})
    (unnamed : visit.subject.bucketId = none) : visit.enter s e = .settled
      (if Targeting.admits (some e.targeting) visit.attributes then .error (.noSubject .assignment) else .ok none) := by
  unfold enter
  rw [if_neg (by simp [running]), Experiment.admits_plain plain, unnamed]
  cases Targeting.admits (some e.targeting) visit.attributes with
  | false => rfl
  | true => rfl

-- Without an identifier an experiment shows its winner or nothing.
theorem enter_rowless (plain : e.strays = {}) (unnamed : visit.subject.bucketId = none) :
    ∃ answer, visit.enter s e = .settled answer ∧ ∀ d ∈ Decision.given answer, d.assignment = Decision.concludedId := by
  by_cases running : e.status = .running
  · refine ⟨_, enter_unnamed running plain unnamed, ?_⟩
    split
    · exact fun _ given => absurd given List.not_mem_nil
    · exact fun _ given => absurd given List.not_mem_nil
  · refine ⟨.ok (closed s e), if_pos running, ?_⟩
    intro d given
    exact closed_concluded (Option.mem_toList.mp given)

theorem enter_drawing (sound : s.Sound) (lasts : e.Lasts visit.workspace s)
    (takes : e.Takes visit.subject visit.attributes) (missing : s.find? e.id visit.subject = none) :
    ∃ v, visit.enter s e = .inserting e v := by
  obtain ⟨id, bucket, letIn⟩ := takes.letIn
  obtain ⟨_, v, there, _, own⟩ := lasts.owns
  have some' : s.variantsOf e.id ≠ [] := List.ne_nil_of_mem (Store.mem_variantsOf.mpr ⟨there, own⟩)
  obtain ⟨w, _, selected⟩ := Bucket.select_ok some'
    (fun v member => sound.weights v (Store.mem_variantsOf.mp member).1) e.key id
  refine ⟨w, ?_⟩
  unfold enter
  rw [if_neg (by simp [takes.running]), takes.targeted, bucket]
  simp only [letIn, missing, selected]

theorem enter_counted (sound : s.Sound) (plain : e.strays = {})
    (lasts : e.status = .running → e.Lasts visit.workspace s) : visit.Counted s (visit.enter s e) s := by
  cases bucket : visit.subject.bucketId with
  | none =>
    obtain ⟨answer, entered, rowless⟩ := enter_rowless plain bucket
    rw [entered]
    refine .look sound (fun named => ?_) rowless
    obtain ⟨id, some'⟩ := Subject.bucketId_some.mpr named
    cases bucket.symm.trans some'
  | some id =>
    have named := Subject.bucketId_some.mp ⟨id, bucket⟩
    by_cases running : e.status = .running
    · by_cases opens : e.Opens visit.attributes id
      · have takes := opens.takes plain running bucket
        cases found : s.find? e.id visit.subject with
        | some row =>
          obtain ⟨present, own, _⟩ := Store.find?_some found
          rw [enter_found takes found]
          refine .look sound ⟨named, (lasts running).launched, ?_⟩ (fun _ given => absurd given List.not_mem_nil)
          exact own ▸ (sound.refers row present).variant
        | none =>
          obtain ⟨v, entered⟩ := enter_drawing sound (lasts running) takes found
          rw [entered]
          exact .look sound named (fun _ given => absurd given List.not_mem_nil)
      · rw [enter_shut plain running bucket opens]
        exact .look sound (fun _ _ => nofun) (fun _ given => absurd given List.not_mem_nil)
    · have entered : visit.enter s e = .settled (.ok (closed s e)) := if_pos running
      rw [entered]
      refine .look sound (fun _ _ => nofun) ?_
      intro d given
      exact closed_concluded (Option.mem_toList.mp given)

theorem look_counted (sound : s.Sound) (visit : Visit) (key : String) : visit.Counted s (visit.look key s) s := by
  unfold look
  cases found : s.experimentByKey? visit.workspace key with
  | none => exact .look sound (fun _ _ => nofun) (fun _ given => absurd given List.not_mem_nil)
  | some e =>
    obtain ⟨present, own, _⟩ := Store.experimentByKey?_some found
    exact enter_counted sound (sound.plain e present) fun running => own ▸ sound.lasts present running

theorem insert_counted (sound : s.Sound) (e : Experiment) (v : Variant) (named : visit.subject.hasIdentifier = true) :
    visit.Counted s (visit.insert e v s).1 (visit.insert e v s).2 := by
  obtain ⟨key, kept⟩ := Subject.key_some.mpr named
  by_cases free : s.Free (visit.row s e v key)
  · rw [insert_free sound.writable kept free]
    have counts : s.Counts visit.now [Decision.of e v s.nextId true]
        ((Act.draw e.id v.id visit.subject key).apply visit.workspace visit.now s) := Act.drawn_counts sound rfl
    exact ⟨fun _ _ => nofun, counts, fun _ _ => .inr named⟩
  · have taken : ∃ other ∈ s.assignments, (visit.row s e v key).clashes other = true := by
      simpa [Store.Free] using free
    obtain ⟨other, present, clash⟩ := taken
    obtain ⟨violation, refused⟩ := insert_taken sound.writable kept present clash
    have counts : s.Counts visit.now [] (Act.lose.apply visit.workspace visit.now s) := Act.quiet_counts id
    rw [refused]
    exact ⟨named, counts, fun _ _ => .inr named⟩

theorem refetch_counted (sound : s.Sound) (violation : Violation) (named : visit.subject.hasIdentifier = true)
    (launched : s.Launched visit.workspace e.id) :
    visit.Counted s (visit.refetch e violation s).1 (visit.refetch e violation s).2 := by
  unfold refetch
  cases found : s.find? e.id visit.subject with
  | none =>
    refine .look sound ?_ (fun _ given => absurd given List.not_mem_nil)
    intro _ fault failed
    cases failed
    rfl
  | some row =>
    obtain ⟨present, own, _⟩ := Store.find?_some found
    refine .look sound ⟨named, launched, ?_⟩ (fun _ given => absurd given List.not_mem_nil)
    exact own ▸ (sound.refers row present).variant

theorem expose_counted (sound : s.Sound) {row : Assignment} (named : visit.subject.hasIdentifier = true)
    (owns : s.Owns e.id row.variant) (issued : s.Issued row.id) :
    visit.Counted s (visit.expose e row s).1 (visit.expose e row s).2 := by
  obtain ⟨v, present, drawn, _⟩ := owns
  have counts : s.Counts visit.now [Decision.of e v row.id false]
      ((Act.expose row.id).apply visit.workspace visit.now s) := Act.exposed_counts issued rfl
  rw [expose_shown sound present drawn.symm]
  exact ⟨fun _ _ => nofun, counts, fun _ _ => .inr named⟩

theorem advance_counted (visit : Visit) (sound : s.Sound) {turn : Turn} (grounded : turn.Grounded visit.workspace s)
    (backed : turn.Backed visit s) (open' : turn.answer? = none) :
    visit.Counted s (visit.advance turn s).1 (visit.advance turn s).2 := by
  cases turn with
  | looking key => exact look_counted sound visit key
  | inserting e v => exact insert_counted sound e v backed
  | refetching e violation => exact refetch_counted sound violation backed grounded
  | exposing e row => exact expose_counted sound backed.1 backed.2.2 grounded.1
  | settled answer => cases open'

theorem Counted.followed {middle last : Store} {turn later : Turn} (first : visit.Counted s turn middle)
    (open' : turn.answer? = none) (second : visit.Counted middle later last) : visit.Counted s later last where
  backed := second.backed
  counts := by
    have undecided : turn.decisions = [] := by
      cases turn with
      | settled answer => cases open'
      | looking _ | inserting _ _ | refetching _ _ | exposing _ _ => rfl
    have none := first.counts
    rw [undecided] at none
    exact none.trans second.counts
  named := second.named

theorem settle_counted (visit : Visit) {turn : Turn} (sound : s.Sound) (grounded : turn.Grounded visit.workspace s)
    (backed : turn.Backed visit s) (open' : turn.answer? = none) :
    visit.Counted s (.settled (visit.settle turn s).1) (visit.settle turn s).2 := by
  fun_induction visit.settle turn s with
  | case1 turn s answer done => cases open'.symm.trans done
  | case2 turn s more next ih =>
    have step := advance_counted visit sound grounded backed more
    obtain ⟨committed, ready⟩ := advance_commits visit sound grounded
    cases later : next.1.answer? with
    | none => exact step.followed later (ih (committed.sound sound) ready step.backed later)
    | some answer =>
      have settled := Turn.answer?_some later
      rw [settled, settle_settled]
      exact settled ▸ step

theorem settle_entered (sound : s.Sound) (lasts : e.Lasts visit.workspace s) :
    visit.Counted s (.settled (visit.settle (visit.enter s e) s).1) (visit.settle (visit.enter s e) s).2 := by
  have entered := enter_counted sound lasts.plain fun _ => lasts
  have grounded := enter_grounded sound fun _ => lasts.launched
  cases more : (visit.enter s e).answer? with
  | none => exact settle_counted visit sound grounded entered.backed more
  | some answer =>
    rw [Turn.answer?_some more] at entered ⊢
    rwa [settle_settled]

end Visit

namespace Decision
variable {s : Store} {visit : Visit}

def listed : Except Fault (List Decision) → List Decision
  | .ok decisions => decisions
  | .error _ => []

theorem assign_counts (sound : s.Sound) (visit : Visit) (key : String) :
    s.Counts visit.now (given (assign visit key s).1) (assign visit key s).2 := by
  have settled : visit.Counted s (.settled (visit.settle (.looking key) s).1) (visit.settle (.looking key) s).2 :=
    Visit.settle_counted visit sound trivial trivial rfl
  exact settled.counts

theorem assignEach_counts (named : visit.subject.hasIdentifier = true) {left : List Experiment} (sound : s.Sound)
    (lasting : ∀ e ∈ left, e.Lasts visit.workspace s) : Jammed (assignEach visit left s).1 ∨
      ∃ decisions, (assignEach visit left s).1 = .ok decisions ∧
        s.Counts visit.now decisions (assignEach visit left s).2 := by
  induction left generalizing s with
  | nil => exact .inr ⟨[], rfl, .nothing s visit.now⟩
  | cons e rest ih =>
    have here := lasting e List.mem_cons_self
    have first := Visit.settle_entered sound here
    have committed := Visit.settle_commits visit sound (Visit.enter_grounded sound fun _ => here.launched)
    unfold assignEach
    cases done : visit.settle (visit.enter s e) s with
    | mk answer next =>
      rw [done] at first committed
      cases answer with
      | error fault => exact .inl ⟨fault, rfl, first.backed named fault rfl⟩
      | ok decision =>
        have kept := committed.kept sound
        have others := ih (committed.sound sound) fun x later => (lasting x (List.mem_cons_of_mem _ later)).kept kept
        simp only
        cases after : assignEach visit rest next with
        | mk answer last =>
          rw [after] at others
          rcases others with ⟨fault, failed, kind⟩ | ⟨decisions, through, counts⟩
          · cases failed
            exact .inl ⟨fault, rfl, kind⟩
          · cases through
            exact .inr ⟨_, rfl, first.counts.trans counts⟩

-- Without an identifier nothing is stored and no row is shown.
theorem assignEach_unnamed (unnamed : visit.subject.bucketId = none) {left : List Experiment}
    (plain : ∀ e ∈ left, e.strays = {}) : (assignEach visit left s).2 = s ∧
      ∀ d ∈ listed (assignEach visit left s).1, d.assignment = concludedId := by
  induction left with
  | nil => exact ⟨rfl, fun _ none => absurd none List.not_mem_nil⟩
  | cons e rest ih =>
    obtain ⟨answer, entered, rowless⟩ := Visit.enter_rowless (s := s) (plain e List.mem_cons_self) unnamed
    obtain ⟨same, others⟩ := ih fun x later => plain x (List.mem_cons_of_mem _ later)
    unfold assignEach
    rw [entered, Visit.settle_settled]
    cases answer with
    | error fault => exact ⟨rfl, fun _ none => absurd none List.not_mem_nil⟩
    | ok decision =>
      simp only
      cases after : assignEach visit rest s with
      | mk answer last =>
        rw [after] at same others
        cases answer with
        | error fault => exact ⟨same, fun _ none => absurd none List.not_mem_nil⟩
        | ok decisions =>
          refine ⟨same, ?_⟩
          intro d given
          rcases List.mem_append.mp given with first | later
          · exact rowless d first
          · exact others d later

theorem assignAll_counts (sound : s.Sound) (visit : Visit) (calm : ¬ Jammed (assignAll visit s).1) :
    s.Counts visit.now (listed (assignAll visit s).1) (assignAll visit s).2 := by
  have lasting := fun e (member : e ∈ s.list visit.workspace ⟨some .running, none, false⟩) => sound.listed_lasts member
  cases bucket : visit.subject.bucketId with
  | none =>
    obtain ⟨same, rowless⟩ := assignEach_unnamed (s := s) bucket fun e member => (lasting e member).plain
    rw [assignAll, same]
    exact .concluded sound visit.now rowless
  | some id =>
    have named := Subject.bucketId_some.mp ⟨id, bucket⟩
    rcases assignEach_counts named sound lasting with jammed | ⟨decisions, through, counts⟩
    · exact absurd jammed calm
    · rw [assignAll, through]
      exact counts

end Decision
end Cohort
