import Mathlib.Data.List.ReduceOption
import Cohort.Proofs.BlankIdentifiers
import Cohort.Proofs.Inserts
import Cohort.Proofs.Order

-- A round over the running experiments of a workspace asks for one after the other. What is done for one of them leaves
-- alone all that the others look at, so each is answered as if it were asked alone.
namespace Cohort

namespace Order
variable {rank : α → Nat} {earlier : α → α → Prop}

-- Arranged from the highest rank down, members of one rank stay in the order in which they stood.

theorem place_highest {x : α} {xs : List α} (first : ∀ y ∈ xs, earlier x y)
    (sorted : xs.Pairwise fun a b => rank b < rank a ∨ rank a = rank b ∧ earlier a b) :
    (place (fun a b => rank b < rank a) x xs).Pairwise fun a b => rank b < rank a ∨ rank a = rank b ∧ earlier a b := by
  induction xs with
  | nil => exact List.pairwise_singleton _ _
  | cons y rest ih =>
    obtain ⟨head, tail⟩ := List.pairwise_cons.mp sorted
    unfold place
    split
    · rename_i above
      refine List.pairwise_cons.mpr ⟨?_, ih (fun z later => first z (List.mem_cons_of_mem _ later)) tail⟩
      intro z member
      rcases mem_place.mp member with rfl | later
      · exact .inl (of_decide_eq_true above)
      · exact head z later
    · rename_i below
      have least : rank y ≤ rank x := by simpa using below
      refine List.pairwise_cons.mpr ⟨?_, sorted⟩
      intro z member
      have under : rank z ≤ rank y := by
        rcases List.mem_cons.mp member with rfl | later
        · exact Nat.le_refl _
        · have := head z later
          omega
      have := first z member
      rcases Nat.lt_or_eq_of_le (Nat.le_trans under least) with less | same
      · exact .inl less
      · exact .inr ⟨same.symm, this⟩

theorem arrange_highest (rank : α → Nat) {xs : List α} (stood : xs.Pairwise earlier) :
    (arrange (fun a b => rank b < rank a) xs).Pairwise fun a b => rank b < rank a ∨ rank a = rank b ∧ earlier a b := by
  induction xs with
  | nil => exact .nil
  | cons x rest ih =>
    obtain ⟨first, others⟩ := List.pairwise_cons.mp stood
    exact place_highest (fun y member => first y (mem_arrange.mp member)) (ih others)

end Order

namespace Store
variable {s t : Store}

-- The running experiments of a workspace, newest first. Of two that were made at the same moment the one that was
-- stored first comes first.
structure Round (s : Store) (workspace : String) (left : List Experiment) : Prop where
  members : ∀ e, e ∈ left ↔ e ∈ s.experiments ∧ e.workspace = workspace ∧ e.status = .running
  newest : left.Pairwise fun a b => b.createdAt < a.createdAt ∨ a.createdAt = b.createdAt ∧ Earlier a.id b.id

theorem listed_round (ordered : s.Ordered) (workspace : String) :
    s.Round workspace (s.list workspace ⟨some .running, none, false⟩) where
  members := fun _ => mem_running
  newest := by
    have stored : s.experiments.Pairwise fun a b => Earlier a.id b.id := List.pairwise_map.mp ordered.experiments
    refine List.Pairwise.imp ?_ (Order.arrange_highest (fun e => e.createdAt.micros) (stored.filter _))
    intro a b newest
    exact newest.imp id fun ⟨same, first⟩ => ⟨congrArg Moment.mk same, first⟩

-- Two stores in which an experiment stands the same, and so do its variants and its rows.
structure Alike (s : Store) (experiment : String) (t : Store) : Prop where
  experiments : t.experiments = s.experiments
  variants : t.variants = s.variants
  rows : t.rowsOf experiment = s.rowsOf experiment

theorem Alike.refl (s : Store) (experiment : String) : s.Alike experiment s := ⟨rfl, rfl, rfl⟩

theorem Beside.after {experiment other : String} {next : Store} (beside : t.Beside experiment next)
    (apart : other ≠ experiment) (alike : s.Alike other t) : s.Alike other next where
  experiments := beside.experiments.trans alike.experiments
  variants := beside.variants.trans alike.variants
  rows := (beside.rows other apart).trans alike.rows

theorem Alike.find? {experiment : String} (alike : s.Alike experiment t) (subject : Subject) :
    t.find? experiment subject = s.find? experiment subject := by
  unfold Store.find?
  rw [alike.rows]

theorem clash_own (s : Store) (row : Assignment) :
    s.assignments.findSome? row.clash? = (s.rowsOf row.experiment).findSome? row.clash? := by
  symm
  apply findSome_inside
  intro other _ foreign
  have apart : row.experiment ≠ other.experiment := fun together => of_decide_eq_false foreign together.symm
  simp [Assignment.clash?, apart]

theorem Alike.findSome_clash (row : Assignment) (alike : s.Alike row.experiment t) :
    t.assignments.findSome? row.clash? = s.assignments.findSome? row.clash? := by
  rw [clash_own t, clash_own s, alike.rows]

-- Up to the id of the row that is added, an insert comes out the same.
theorem Alike.addDrawn {experiment : String} (alike : s.Alike experiment t) (sound : s.Sound) (sound' : t.Sound)
    (now : Moment) (workspace variant : String) (subject : Subject) :
    (t.addDrawn now workspace experiment variant subject).1.map (fun _ => ()) =
      (s.addDrawn now workspace experiment variant subject).1.map fun _ => () := by
  have writable : t.draw.writable = s.draw.writable := sound'.writable.trans sound.writable.symm
  unfold Store.addDrawn addSubject
  cases subject.key with
  | none =>
    have same : t.writable = s.writable := writable
    rw [same]
  | some key =>
    -- what a row clashes with does not depend on its id
    have same : t.draw.assignments.findSome? (t.drawnRow workspace now experiment variant subject key).clash? =
        s.draw.assignments.findSome? (s.drawnRow workspace now experiment variant subject key).clash? :=
      alike.findSome_clash (s.drawnRow workspace now experiment variant subject key)
    simp only [drawnRow] at same
    simp only [insertAssignment, same, writable]
    cases s.draw.writable with
    | false => rfl
    | true =>
      cases s.draw.assignments.findSome? (Assignment.new s.nextId workspace experiment variant subject key .auto
          (some now) now).clash? with
      | none => rfl
      | some column => rfl

end Store

-- The decision without the id that its row has been given for it.
def Decision.unnumbered (d : Decision) : Decision := if d.isNew then { d with assignment := "" } else d

namespace Visit
variable {s t : Store} {visit : Visit} {e : Experiment}

theorem settle_missing (missing : s.find? e.id visit.subject = none) (v : Variant) :
    visit.settle (.inserting e v) s = (s.addDrawn visit.now visit.workspace e.id v.id visit.subject).map
      fun row => some (Decision.of e v row.id true) := by
  rw [settle_inserting, Store.createIfAbsent]
  cases added : s.addDrawn visit.now visit.workspace e.id v.id visit.subject with
  | mk answer next =>
    cases answer with
    | ok row => rfl
    | error fault =>
      cases fault with
      | violates violation =>
        rcases Store.addSubject_exact added with ⟨_, refused⟩ | ⟨_, _, _, stored⟩
        · cases refused
          have still : s.draw.find? e.id visit.subject = none := missing
          simp only [still]
          rfl
        · cases stored
      | _ => rfl

theorem enter_alike (alike : s.Alike e.id t) : visit.enter t e = visit.enter s e := by
  have variants : t.variantsOf e.id = s.variantsOf e.id := by
    unfold Store.variantsOf
    rw [alike.variants]
  have closes : closed t e = closed s e := by
    unfold closed Store.view
    rw [variants]
  unfold enter
  rw [closes, variants, alike.find? visit.subject]

theorem settle_alike (visit : Visit) (sound : s.Sound) (sound' : t.Sound) (alike : s.Alike e.id t) :
    (visit.settle (visit.enter t e) t).1.map (·.map Decision.unnumbered) =
      (visit.settle (visit.enter s e) s).1.map (·.map Decision.unnumbered) := by
  rw [enter_alike alike]
  have enters := visit.enter_enters s e
  generalize visit.enter s e = turn at enters
  cases enters with
  | closed stage => rw [settle_settled, settle_settled]
  | undecided answer none => rw [settle_settled, settle_settled]
  | @found row running found =>
    have found' := (alike.find? visit.subject).trans found
    obtain ⟨v, there, named, settled⟩ := settle_shown visit sound (Store.find?_some found).1
    obtain ⟨w, there', named', settled'⟩ := settle_shown visit sound' (Store.find?_some found').1
    rw [alike.variants] at there'
    obtain rfl : w = v := sound.same_variant there' there (named'.trans named.symm)
    rw [settled, settled']
  | @drawn v running missing member =>
    have missing' := (alike.find? visit.subject).trans missing
    have same := alike.addDrawn sound sound' visit.now visit.workspace v.id visit.subject
    have forgets (answer : Except Fault Assignment) :
        (answer.map fun row => some (Decision.of e v row.id true)).map (·.map Decision.unnumbered) =
          (answer.map fun _ => ()).map fun _ => some (Decision.of e v "" true) := by
      cases answer <;> rfl
    rw [settle_missing missing, settle_missing missing']
    exact (forgets _).trans ((congrArg _ same).trans (forgets _).symm)

theorem Leaves.beside {outcome : Outcome (Option Decision)} (leaves : visit.Leaves s e outcome) (sound : s.Sound) :
    s.Beside e.id outcome.2 := by
  cases leaves with
  | closed _ | undecided _ _ | refused _ => exact ⟨rfl, rfl, fun _ _ => rfl⟩
  | decided decision next decides =>
    cases decides with
    | seen row v found there named =>
      obtain ⟨present, own, _⟩ := Store.find?_some found
      exact own ▸ Store.beside_exposed sound present visit.now
    | drawn v key missing there own kept free => exact Store.beside_added s (visit.row s e v key)

end Visit

namespace Decision
variable {s t : Store} {visit : Visit}

-- Asks for one experiment after the other by its key. The first fault ends it, and where there is no decision none is
-- listed.
def askEach (visit : Visit) : List String → Store → Outcome (List Decision)
  | [], s => (.ok [], s)
  | key :: rest, s =>
    match assign visit key s with
    | (.error fault, s') => (.error fault, s')
    | (.ok decision, s') =>
      match askEach visit rest s' with
      | (.error fault, s'') => (.error fault, s'')
      | (.ok decisions, s'') => (.ok (decision.toList ++ decisions), s'')

theorem assign_known (sound : s.Sound) {e : Experiment} (present : e ∈ s.experiments)
    (own : e.workspace = visit.workspace) : assign visit e.key s = visit.settle (visit.enter s e) s := by
  rw [assign_looks, Visit.look_known sound present own]

theorem assignEach_asks {left : List Experiment} (sound : s.Sound)
    (there : ∀ e ∈ left, e ∈ s.experiments ∧ e.workspace = visit.workspace ∧ e.status = .running) :
    assignEach visit left s = askEach visit (left.map (·.key)) s := by
  induction left generalizing s with
  | nil => rfl
  | cons e rest ih =>
    obtain ⟨present, own, running⟩ := there e List.mem_cons_self
    have beside := (visit.settle_leaves e sound).beside sound
    have committed := Visit.settle_commits visit sound (Visit.enter_grounded sound fun _ =>
      (⟨e, present, rfl, own, by simp [running]⟩ : s.Launched visit.workspace e.id))
    rw [List.map_cons, assignEach, askEach, assign_known sound present own]
    cases settled : visit.settle (visit.enter s e) s with
    | mk answer next =>
      rw [settled] at beside committed
      cases answer with
      | error fault => rfl
      | ok decision =>
        have others := ih (committed.sound sound) fun x later => by
          rw [show next.experiments = s.experiments from beside.experiments]
          exact there x (List.mem_cons_of_mem _ later)
        cases asked : askEach visit (rest.map (·.key)) next with
        | mk answer last =>
          rw [asked] at others
          cases answer <;> simp only [others, asked]

theorem listed_alike {decision single : Option Decision} {decisions : List Decision} {answers : List (Option Decision)}
    (first : decision.map unnumbered = single.map unnumbered)
    (others : decisions.map unnumbered = answers.reduceOption.map unnumbered) :
    (decision.toList ++ decisions).map unnumbered = (single :: answers).reduceOption.map unnumbered := by
  have listed (d : Option Decision) : d.toList.map unnumbered = (d.map unnumbered).toList := by cases d <;> rfl
  have split : (single :: answers).reduceOption = single.toList ++ answers.reduceOption := by
    cases single with
    | none => exact List.reduceOption_cons_of_none answers
    | some d => exact List.reduceOption_cons_of_some d answers
  rw [split, List.map_append, List.map_append, listed, listed, first, others]

-- Each experiment is answered as it would be in the store with which the round began.
theorem assignEach_alone {left : List Experiment} (sound : s.Sound) (sound' : t.Sound)
    (there : ∀ e ∈ left, e ∈ s.experiments ∧ e.workspace = visit.workspace ∧ e.status = .running)
    (distinct : (left.map (·.id)).Nodup) (alike : ∀ e ∈ left, s.Alike e.id t) :
    (assignEach visit left t).1.map (·.map unnumbered) =
      (left.mapM fun e => (assign visit e.key s).1).map (·.reduceOption.map unnumbered) := by
  induction left generalizing t with
  | nil => rfl
  | cons e rest ih =>
    obtain ⟨present, own, running⟩ := there e List.mem_cons_self
    have first := alike e List.mem_cons_self
    have present' : e ∈ t.experiments := first.experiments.symm ▸ present
    rw [List.map_cons, List.nodup_cons] at distinct
    have beside := (visit.settle_leaves e sound').beside sound'
    have committed := Visit.settle_commits visit sound' (Visit.enter_grounded sound' fun _ =>
      (⟨e, present', rfl, own, by simp [running]⟩ : t.Launched visit.workspace e.id))
    have here := Visit.settle_alike visit sound sound' first
    rw [List.mapM_cons, assignEach, assign_known sound present own]
    generalize (visit.settle (visit.enter s e) s).1 = alone at here
    cases settled : visit.settle (visit.enter t e) t with
    | mk answer next =>
      rw [settled] at beside committed here
      cases answer with
      | error fault =>
        cases alone with
        | error other => exact congrArg Except.error (Except.error.inj here)
        | ok single => cases here
      | ok decision =>
        cases alone with
        | error other => cases here
        | ok single =>
          have same := Except.ok.inj here
          have others := ih (committed.sound sound') (fun x later => there x (List.mem_cons_of_mem _ later)) distinct.2
            fun x later => beside.after (fun hit => distinct.1 (hit ▸ List.mem_map_of_mem later))
              (alike x (List.mem_cons_of_mem _ later))
          cases done : assignEach visit rest next with
          | mk outcome last =>
            rw [done] at others
            simp only [done]
            cases asked : rest.mapM fun x => (assign visit x.key s).1 with
            | error fault =>
              rw [asked] at others
              cases outcome with
              | error other => exact congrArg Except.error (Except.error.inj others)
              | ok decisions => cases others
            | ok answers =>
              rw [asked] at others
              cases outcome with
              | error other => cases others
              | ok decisions => exact congrArg Except.ok (listed_alike same (Except.ok.inj others))

theorem mapM_cons_ok {f : α → Except ε β} {a : α} {rest : List α} {answers : List β} :
    (a :: rest).mapM f = .ok answers ↔
      ∃ answer others, f a = .ok answer ∧ rest.mapM f = .ok others ∧ answers = answer :: others := by
  rw [List.mapM_cons]
  cases f a with
  | error fault => simp [bind, Except.bind]
  | ok answer =>
    cases rest.mapM f with
    | error fault => simp [bind, Except.bind]
    | ok others => simp [bind, Except.bind, pure, Except.pure, eq_comm]

-- Answers that none depends on come in any order.
theorem mapM_perm {f : α → Except ε β} {left order : List α} (perm : left.Perm order) {answers : List β}
    (asked : left.mapM f = .ok answers) : ∃ others, order.mapM f = .ok others ∧ others.Perm answers := by
  induction perm generalizing answers with
  | nil => exact ⟨answers, asked, .refl _⟩
  | cons a _ ih =>
    obtain ⟨answer, rest, first, tail, rfl⟩ := mapM_cons_ok.mp asked
    obtain ⟨others, again, same⟩ := ih tail
    exact ⟨answer :: others, mapM_cons_ok.mpr ⟨answer, others, first, again, rfl⟩, same.cons answer⟩
  | swap a b rest =>
    obtain ⟨second, others, asked', tail, rfl⟩ := mapM_cons_ok.mp asked
    obtain ⟨first, last, asked'', done, rfl⟩ := mapM_cons_ok.mp tail
    refine ⟨first :: second :: last, ?_, .swap _ _ _⟩
    exact mapM_cons_ok.mpr ⟨_, _, asked'', mapM_cons_ok.mpr ⟨_, _, asked', done, rfl⟩, rfl⟩
  | trans _ _ ih ih' =>
    obtain ⟨others, asked, same⟩ := ih asked
    obtain ⟨last, asked, again⟩ := ih' asked
    exact ⟨last, asked, again.trans same⟩

-- In whatever order the listed experiments are asked for, the same decisions come.
theorem askEach_perm {left order : List Experiment} (sound : s.Sound)
    (there : ∀ e ∈ left, e ∈ s.experiments ∧ e.workspace = visit.workspace ∧ e.status = .running)
    (distinct : (left.map (·.id)).Nodup) (perm : order.Perm left) {decisions : List Decision}
    (decided : (assignEach visit left s).1 = .ok decisions) :
    ∃ others, (askEach visit (order.map (·.key)) s).1 = .ok others ∧
      (others.map unnumbered).Perm (decisions.map unnumbered) := by
  have there' : ∀ e ∈ order, e ∈ s.experiments ∧ e.workspace = visit.workspace ∧ e.status = .running :=
    fun e member => there e (perm.mem_iff.mp member)
  have distinct' : (order.map (·.id)).Nodup := (perm.map _).nodup_iff.mpr distinct
  have alone := assignEach_alone sound sound there distinct fun e _ => .refl s e.id
  have alone' := assignEach_alone sound sound there' distinct' fun e _ => .refl s e.id
  rw [decided] at alone
  cases asked : left.mapM fun e => (assign visit e.key s).1 with
  | error fault =>
    rw [asked] at alone
    cases alone
  | ok answers =>
    rw [asked] at alone
    obtain ⟨answers', asked', same⟩ := mapM_perm perm.symm asked
    rw [asked', assignEach_asks sound there'] at alone'
    cases reached : (askEach visit (order.map (·.key)) s).1 with
    | error fault =>
      rw [reached] at alone'
      cases alone'
    | ok others =>
      rw [reached] at alone'
      refine ⟨others, rfl, ?_⟩
      have first : decisions.map unnumbered = answers.reduceOption.map unnumbered := Except.ok.inj alone
      have second : others.map unnumbered = answers'.reduceOption.map unnumbered := Except.ok.inj alone'
      rw [first, second]
      exact (same.filterMap id).map unnumbered

end Decision

open Decision in
-- A round answers and leaves what asking for the running experiments one after the other does. Apart from the ids of
-- new rows each of them is answered as it would be alone, and the order does not matter.
theorem rounds_ask_each {s : Store} (attained : Attained s) (visit : Visit) :
    ∃ left, s.Round visit.workspace left ∧
      assignAll visit s = askEach visit (left.map (·.key)) s ∧
      (assignAll visit s).1.map (·.map unnumbered) =
        (left.mapM fun e => (assign visit e.key s).1).map (·.reduceOption.map unnumbered) ∧
      ∀ order : List Experiment, order.Perm left → ∀ decisions, (assignAll visit s).1 = .ok decisions →
        ∃ others, (askEach visit (order.map (·.key)) s).1 = .ok others ∧
          (others.map unnumbered).Perm (decisions.map unnumbered) := by
  have sound := attained.sound
  have round := Store.listed_round attained.ordered visit.workspace
  have there := fun e member => (round.members e).mp member
  have distinct := sound.list_distinct visit.workspace ⟨some .running, none, false⟩
  refine ⟨_, round, assignEach_asks sound there, ?_, ?_⟩
  · exact assignEach_alone sound sound there distinct fun e _ => .refl s e.id
  · intro order perm decisions decided
    exact askEach_perm sound there distinct perm decided

-- A shop that tries its prices, then its colours, and then a banner that is for professionals. A customer has seen a
-- price before.
def threeTried : Store :=
  let later := fun (n : Nat) (moves : List (Moment × Move)) => moves.map fun move => ((⟨n⟩, move.2) : Moment × Move)
  (Scene.empty.play (Scene.shop ++ later 1 (Scene.opening "shop" "id-4" ⟨"colour", by decide⟩) ++
    later 2 (Scene.opening "shop" "id-7" ⟨"banner", by decide⟩) ++
    [(⟨3⟩, .perform "shop" (.update "id-7"
        ⟨none, none, none, some (some [("plan", .string "pro")]), none, none, none⟩)),
      (⟨4⟩, .perform "shop" (.assign "price" ⟨⟨some "ann", none, none⟩, none⟩))])).store

def annReturns : Visit := ⟨"shop", ⟨5⟩, ⟨some "ann", none, none⟩, none⟩

theorem threeTried_ask_each : Attained threeTried ∧
    ((Decision.assignAll annReturns threeTried).1.toOption.map fun decisions =>
      decisions.map fun d => (d.experiment, d.variant, d.isNew)) = some [("colour", "b", true), ("price", "a", false)] ∧
    ∃ left, threeTried.Round "shop" left ∧
      Decision.assignAll annReturns threeTried = Decision.askEach annReturns (left.map (·.key)) threeTried ∧
      (Decision.assignAll annReturns threeTried).1.map (·.map Decision.unnumbered) =
        (left.mapM fun e => (Decision.assign annReturns e.key threeTried).1).map
          (·.reduceOption.map Decision.unnumbered) ∧
      ∃ others, (Decision.askEach annReturns (left.reverse.map (·.key)) threeTried).1 = .ok others ∧
        others.length = 2 := by
  have attained : Attained threeTried := ⟨_, rfl⟩
  have shown : ((Decision.assignAll annReturns threeTried).1.toOption.map fun decisions =>
      decisions.map fun d => (d.experiment, d.variant, d.isNew)) =
        some [("colour", "b", true), ("price", "a", false)] := by decide +kernel
  obtain ⟨left, round, asks, alone, perm⟩ := rounds_ask_each attained annReturns
  refine ⟨attained, shown, left, round, asks, alone, ?_⟩
  cases decided : (Decision.assignAll annReturns threeTried).1 with
  | error fault =>
    rw [decided] at shown
    cases shown
  | ok decisions =>
    rw [decided] at shown
    have two : decisions.length = 2 := by simpa using congrArg List.length (Option.some.inj shown)
    obtain ⟨others, asked, same⟩ := perm left.reverse left.reverse_perm decisions decided
    exact ⟨others, asked, by simpa [two] using same.length_eq⟩

end Cohort
