import Cohort.Proofs.Inserts
import Cohort.Proofs.Positions

-- A new subject gets the variant that the experiment's key, the subject's identifier and the keys and weights of the
-- variants by position lead to. Nothing else that a store holds has a part in it.
namespace Cohort

namespace Bucket

-- The choice looks at nothing but the weights, so it does not matter what else an item carries.
section Renamed
variable (f : α → β) {weight : β → Int}

theorem reach_map (bucket sum : Int) (items : List α) :
    reach weight bucket sum (items.map f) = (reach (fun a => weight (f a)) bucket sum items).map f := by
  induction items generalizing sum with
  | nil => rfl
  | cons item rest ih =>
    simp only [List.map_cons, reach]
    split
    · rfl
    · exact ih _

theorem total_map (items : List α) : total weight (items.map f) = total (fun a => weight (f a)) items := by
  simp only [total, List.map_map, Function.comp_def]

theorem pick_map (items : List α) (hash : Nat) :
    pick weight (items.map f) hash = (pick (fun a => weight (f a)) items hash).map f := by
  simp only [pick, List.getLast?_map, total_map]
  cases items.getLast? with
  | none => rfl
  | some last =>
    simp only [Option.map_some, reach_map]
    split
    · rfl
    · simp only [Except.map, Option.getD_map]

theorem select_map (items : List α) (key subject : String) :
    select weight (items.map f) key subject = (select (fun a => weight (f a)) items key subject).map f :=
  pick_map f items _

end Renamed
end Bucket

namespace Store
variable {s : Store}

def Lines (s : Store) (experiment : String) (line : List (String × Int)) : Prop :=
  ∃ variants : List Variant, (∀ v, v ∈ variants ↔ v ∈ s.variants ∧ v.experiment = experiment) ∧
    variants.Pairwise (fun a b => a.position < b.position) ∧ line = variants.map fun v => (v.key, v.weight)

-- The list by which a store chooses is the only one that goes by position.
theorem Placed.lines_exact (placed : s.Placed) {experiment : String} {line : List (String × Int)} :
    s.Lines experiment line ↔ line = (s.variantsOf experiment).map fun v => (v.key, v.weight) := by
  constructor
  · rintro ⟨variants, members, sorted, rfl⟩
    have distinct {items : List Variant} (ahead : items.Pairwise fun a b => a.position < b.position) : items.Nodup := by
      refine ahead.imp fun {a b} less same => ?_
      subst same
      omega
    have stored := placed.positions experiment
    have perm : variants.Perm (s.variantsOf experiment) := by
      refine (List.perm_ext_iff_of_nodup (distinct sorted) (distinct stored)).mpr fun v => ?_
      rw [members, mem_variantsOf]
    rw [perm.eq_of_pairwise (fun _ _ _ _ less more => by omega) sorted stored]
  · rintro rfl
    exact ⟨s.variantsOf experiment, fun _ => mem_variantsOf, placed.positions experiment, rfl⟩

end Store

namespace Visit
variable {s next : Store} {visit : Visit} {e : Experiment} {decision : Decision}

theorem enter_inserting {x : Experiment} {v : Variant} (entered : visit.enter s e = .inserting x v) :
    x = e ∧ ∃ id, visit.subject.bucketId = some id ∧ Bucket.select (·.weight) (s.variantsOf e.id) e.key id = .ok v := by
  unfold enter at entered
  split at entered
  · cases entered
  · split at entered
    · cases entered
    · cases entered
    · cases entered
    · rename_i id _ bucket
      split at entered
      · cases entered
      · cases entered
      · split at entered
        · cases entered
        · split at entered
          · rename_i selected
            cases entered
            exact ⟨rfl, id, bucket, selected⟩
          · cases entered

theorem closed_old (answered : closed s e = some decision) : decision.isNew = false := by
  unfold closed at answered
  split at answered
  · obtain ⟨v, _, rfl⟩ := Option.map_eq_some_iff.mp answered
    rfl
  · cases answered

theorem settle_exposing_old {row : Assignment}
    (settled : visit.settle (.exposing e row) s = (.ok (some decision), next)) : decision.isNew = false := by
  rw [settle_advance rfl] at settled
  have advanced : visit.advance (.exposing e row) s = visit.expose e row s := rfl
  rw [advanced, expose] at settled
  split at settled
  · rw [settle_settled] at settled
    have shows := congrArg Prod.fst settled
    unfold shown at shows
    split at shows
    · cases shows
      rfl
    · cases shows
  · rw [settle_settled] at settled
    cases settled

theorem settle_inserting_new {v : Variant} (new : decision.isNew = true)
    (settled : visit.settle (.inserting e v) s = (.ok (some decision), next)) : decision.variant = v.key := by
  rw [settle_inserting] at settled
  split at settled
  · cases settled
    rfl
  · rw [settle_exposing_old settled] at new
    cases new
  · cases settled

theorem settle_new (new : decision.isNew = true)
    (settled : visit.settle (visit.enter s e) s = (.ok (some decision), next)) :
    ∃ v id, visit.subject.bucketId = some id ∧ Bucket.select (·.weight) (s.variantsOf e.id) e.key id = .ok v ∧
      decision.variant = v.key := by
  have enters := visit.enter_enters s e
  generalize entered : visit.enter s e = turn at enters settled
  cases enters with
  | closed stage =>
    rw [settle_settled] at settled
    rw [closed_old (Except.ok.inj (congrArg Prod.fst settled))] at new
    cases new
  | undecided answer none =>
    rw [settle_settled] at settled
    exact absurd (congrArg Prod.fst settled) (none decision)
  | found running found =>
    rw [settle_exposing_old settled] at new
    cases new
  | @drawn v running missing member =>
    obtain ⟨_, id, bucket, selected⟩ := enter_inserting entered
    exact ⟨v, id, bucket, selected, settle_inserting_new new settled⟩

end Visit

theorem Store.Serves.drawn {s : Store} {now : Moment} {e : Experiment} {request : DecisionRequest} {decision : Decision}
    (serves : s.Serves now e request decision) (attained : Attained s) (new : decision.isNew = true)
    {line : List (String × Int)} (lines : s.Lines e.id line) :
    ∃ id weight, request.subject.bucketId = some id ∧
      Bucket.select (·.2) line e.key id = .ok (decision.variant, weight) := by
  have looked : Decision.assign (Operation.visitOf e.workspace now request) e.key s = _ := Decision.assign_looks _ _ s
  rw [Visit.look_known attained.sound serves.present rfl] at looked
  obtain ⟨served, answered, same⟩ := Outcome.map_ok serves.decided
  cases same
  rw [looked] at answered
  obtain ⟨v, id, bucket, selected, named⟩ := Visit.settle_new new (Prod.ext answered rfl)
  refine ⟨id, v.weight, bucket, ?_⟩
  rw [attained.placed.lines_exact.mp lines, Bucket.select_map, selected, named]
  rfl

-- Two stores may differ in all but an experiment's key and the keys and weights of its variants by position. If both
-- draw a variant for a subject with the same first identifier, they draw the same one.
theorem draws_agree {s t : Store} (attained : Attained s) (attained' : Attained t) {now now' : Moment}
    {e e' : Experiment} {request request' : DecisionRequest} {decision decision' : Decision}
    {line : List (String × Int)} (key : e.key = e'.key) (lines : s.Lines e.id line) (lines' : t.Lines e'.id line)
    (serves : s.Serves now e request decision) (serves' : t.Serves now' e' request' decision')
    (same : request.subject.bucketId = request'.subject.bucketId)
    (new : decision.isNew = true) (new' : decision'.isNew = true) :
    decision.variant = decision'.variant ∧ ∃ id weight, request.subject.bucketId = some id ∧
      Bucket.select (·.2) line e.key id = .ok (decision.variant, weight) := by
  obtain ⟨id, weight, bucket, selected⟩ := serves.drawn attained new lines
  obtain ⟨id', weight', bucket', selected'⟩ := serves'.drawn attained' new' lines'
  obtain rfl : id = id' := Option.some.inj (bucket.symm.trans (same.trans bucket'))
  rw [← key, selected] at selected'
  exact ⟨congrArg Prod.fst (Except.ok.inj selected'), id, weight, bucket, selected⟩

-- Two shops sell at the same prices. The second one shares its store with the first, tried its prices after it, took
-- a variant back before it had the two, and knows its customers by their sessions.
def pricesTwice : List (Moment × Move) :=
  let key (first : Char) (rest : String) : Key := ⟨first.toString ++ rest, by simp⟩
  let variant (letter : Char) : Operation := .addVariant "id-4" ⟨key letter "", "", none, .one, [], false⟩
  let outlet := fun (event : Nat × Operation) => ((⟨event.1⟩, .perform "outlet" event.2) : Moment × Move)
  Scene.shop ++ [
    (1, .create ⟨key 'p' "rice", "", none, .pricing, .all, [], none, none, []⟩),
    (2, variant 'c'),
    (3, variant 'a'),
    (4, .deleteVariant "id-4" "id-5"),
    (5, variant 'b'),
    (6, .start "id-4"),
    (7, .assign "price" ⟨⟨none, some "bob", none⟩, none⟩)].map outlet

theorem pricesTwice_agree : Attained (Scene.empty.play Scene.shop).store ∧
    Attained (Scene.empty.play pricesTwice).store ∧ ∃ line e e' decision decision',
    (Scene.empty.play Scene.shop).store.Lines e.id line ∧ (Scene.empty.play pricesTwice).store.Lines e'.id line ∧
    e.key = e'.key ∧ e.workspace = "shop" ∧ e'.workspace = "outlet" ∧
    (Scene.empty.play Scene.shop).store.Serves ⟨8⟩ e ⟨⟨some "ann", none, none⟩, none⟩ decision ∧
    (Scene.empty.play pricesTwice).store.Serves ⟨9⟩ e' ⟨⟨none, some "ann", none⟩, none⟩ decision' ∧
    decision.isNew = true ∧ decision'.isNew = true ∧ decision.assignment ≠ decision'.assignment ∧
    decision.variant = decision'.variant ∧
    ∃ weight, Bucket.select (·.2) line e.key "ann" = .ok (decision.variant, weight) := by
  have attained : Attained (Scene.empty.play Scene.shop).store := ⟨_, rfl⟩
  have attained' : Attained (Scene.empty.play pricesTwice).store := ⟨_, rfl⟩
  obtain ⟨e, present, own, key, running, lines⟩ : ∃ e ∈ (Scene.empty.play Scene.shop).store.experiments,
      e.workspace = "shop" ∧ e.key = "price" ∧ e.status = .running ∧ [("a", 1), ("b", 1)] =
        ((Scene.empty.play Scene.shop).store.variantsOf e.id).map fun v => (v.key, v.weight) := by decide +kernel
  obtain ⟨e', present', own', key', running', lines'⟩ : ∃ e ∈ (Scene.empty.play pricesTwice).store.experiments,
      e.workspace = "outlet" ∧ e.key = "price" ∧ e.status = .running ∧ [("a", 1), ("b", 1)] =
        ((Scene.empty.play pricesTwice).store.variantsOf e.id).map fun v => (v.key, v.weight) := by decide +kernel
  have shown : (Scene.empty.play Scene.shop).store.shows "shop" ⟨8⟩
      (.assign "price" ⟨⟨some "ann", none, none⟩, none⟩) = some ("id-4", "a", true) := by decide +kernel
  have shown' : (Scene.empty.play pricesTwice).store.shows "outlet" ⟨9⟩
      (.assign "price" ⟨⟨none, some "ann", none⟩, none⟩) = some ("id-9", "a", true) := by decide +kernel
  obtain ⟨decision, serves, row, _, new⟩ := Store.Serves.of_shows present own key running shown
  obtain ⟨decision', serves', row', _, new'⟩ := Store.Serves.of_shows present' own' key' running' shown'
  have line := attained.placed.lines_exact.mpr lines
  have line' := attained'.placed.lines_exact.mpr lines'
  have keys := key.trans key'.symm
  obtain ⟨agree, id, weight, bucket, selected⟩ :=
    draws_agree attained attained' keys line line' serves serves' rfl new new'
  obtain rfl : "ann" = id := Option.some.inj bucket
  have apart : decision.assignment ≠ decision'.assignment := by
    rw [row, row']
    decide
  exact ⟨attained, attained', _, e, e', decision, decision', line, line', keys, own, own', serves, serves', new, new',
    apart, agree, weight, selected⟩

end Cohort
