import Cohort.Http.Exchange
import Cohort.Proofs.Acts.Accepted

-- Which answers can be written. Objects that callers have sent come back as far as they go no deeper than answers do,
-- and a text with half of a surrogate pair is no text that could be sent.
namespace Cohort

namespace Json

mutual

def depth : Json → Nat
  | .array items => itemsDepth items + 1
  | .object members => membersDepth members + 1
  | _ => 0

def itemsDepth : List Json → Nat
  | [] => 0
  | v :: rest => max (depth v) (itemsDepth rest)

def membersDepth : List (RawText × Json) → Nat
  | [] => 0
  | (_, v) :: rest => max (depth v) (membersDepth rest)

end

mutual

theorem fault?_none (room : Nat) (v : Json) (fits : v.depth ≤ room) (whole : v.hasHalves = false) :
    Tree.fault? room v = none := by
  cases v with
  | array items =>
    rw [depth] at fits
    rw [hasHalves] at whole
    rw [Tree.fault?, if_neg (by omega)]
    exact itemsFault?_none (room - 1) items (by omega) whole
  | object members =>
    rw [depth] at fits
    rw [hasHalves] at whole
    rw [Tree.fault?, if_neg (by omega)]
    exact membersFault?_none (room - 1) members (by omega) whole
  | _ => rfl

theorem itemsFault?_none (room : Nat) (items : List Json) (fits : itemsDepth items ≤ room)
    (whole : itemsHaveHalves items = false) : Tree.itemsFault? room items = none := by
  cases items with
  | nil => rfl
  | cons v rest =>
    rw [itemsDepth] at fits
    rw [itemsHaveHalves, Bool.or_eq_false_iff] at whole
    rw [Tree.itemsFault?, fault?_none room v (by omega) whole.1, itemsFault?_none room rest (by omega) whole.2]
    rfl

theorem membersFault?_none (room : Nat) (members : List (RawText × Json)) (fits : membersDepth members ≤ room)
    (whole : membersHaveHalves members = false) : Tree.membersFault? room members = none := by
  cases members with
  | nil => rfl
  | cons m rest =>
    obtain ⟨k, v⟩ := m
    rw [membersDepth] at fits
    rw [membersHaveHalves, Bool.or_eq_false_iff, Bool.or_eq_false_iff, Bool.not_eq_false'] at whole
    rw [Tree.membersFault?, if_pos whole.1.1, fault?_none room v (by omega) whole.1.2,
      membersFault?_none room rest (by omega) whole.2]
    rfl

end

-- A null in the place of a number that is not finite is as deep and as whole.

mutual

theorem finitely_alike (v : Json) : v.finitely.depth = v.depth ∧ v.finitely.hasHalves = v.hasHalves := by
  cases v with
  | float x =>
    rw [finitely]
    split <;> exact ⟨rfl, rfl⟩
  | array items =>
    obtain ⟨deep, halved⟩ := itemsFinitely_alike items
    simp only [finitely, depth, hasHalves, deep, halved, and_self]
  | object members =>
    obtain ⟨deep, halved⟩ := membersFinitely_alike members
    simp only [finitely, depth, hasHalves, deep, halved, and_self]
  | _ => exact ⟨rfl, rfl⟩

theorem itemsFinitely_alike (items : List Json) : itemsDepth (itemsFinitely items) = itemsDepth items ∧
    itemsHaveHalves (itemsFinitely items) = itemsHaveHalves items := by
  cases items with
  | nil => exact ⟨rfl, rfl⟩
  | cons v rest =>
    obtain ⟨deep, halved⟩ := finitely_alike v
    obtain ⟨deeps, halves⟩ := itemsFinitely_alike rest
    simp only [itemsFinitely, itemsDepth, itemsHaveHalves, deep, deeps, halved, halves, and_self]

theorem membersFinitely_alike (members : List (RawText × Json)) :
    membersDepth (membersFinitely members) = membersDepth members ∧
      membersHaveHalves (membersFinitely members) = membersHaveHalves members := by
  cases members with
  | nil => exact ⟨rfl, rfl⟩
  | cons m rest =>
    obtain ⟨k, v⟩ := m
    obtain ⟨deep, halved⟩ := finitely_alike v
    obtain ⟨deeps, halves⟩ := membersFinitely_alike rest
    simp only [membersFinitely, membersDepth, membersHaveHalves, deep, deeps, halved, halves, and_self]

end

theorem itemsHaveHalves_none {items : List Json} :
    itemsHaveHalves items = false ↔ ∀ v ∈ items, v.hasHalves = false := by
  induction items with
  | nil => simp [itemsHaveHalves]
  | cons v rest ih => simp [itemsHaveHalves, ih]

theorem membersHaveHalves_none {members : Members} :
    membersHaveHalves members = false ↔ ∀ m ∈ members, m.1.isWhole = true ∧ m.2.hasHalves = false := by
  induction members with
  | nil => simp [membersHaveHalves]
  | cons m rest ih =>
    obtain ⟨k, v⟩ := m
    simp [membersHaveHalves, ih]

theorem membersFinitely_map (members : Members) :
    membersFinitely members = members.map fun m => (m.1, m.2.finitely) := by
  induction members with
  | nil => rfl
  | cons m rest ih => rw [List.map_cons, membersFinitely, ih]

theorem all_put [DecidableEq κ] {P : κ × α → Prop} {key : κ} {value : α} {members : List (κ × α)}
    (all : ∀ m ∈ members, P m) (new : P (key, value)) : ∀ m ∈ put key value members, P m := by
  induction members with
  | nil =>
    intro m member
    rw [List.mem_singleton.mp member]
    exact new
  | cons first rest ih =>
    obtain ⟨head, others⟩ := List.forall_mem_cons.mp all
    intro m member
    unfold put at member
    split at member
    · rename_i hit
      rcases List.mem_cons.mp member with rfl | later
      · exact hit ▸ new
      · exact others m later
    · rcases List.mem_cons.mp member with rfl | later
      · exact head
      · exact ih others m later

-- An object as it is kept goes into an answer: no value in it is too deep or has half of a surrogate pair.
def Fits (members : Members) : Prop := ∀ m ∈ members, m.2.depth < deepestAnswer ∧ m.2.hasHalves = false

def Written (answer : Except Fault Json) : Prop := ∃ value, answer = .ok value ∧ value.hasHalves = false

end Json

namespace Tree
open Json

theorem keysMended_whole {members : Members} (whole : ∀ m ∈ members, m.2.hasHalves = false) :
    ∀ m ∈ keysMended members, m.1.isWhole = true ∧ m.2.hasHalves = false := by
  have mends (mended : Members) (start : ∀ m ∈ mended, m.1.isWhole = true ∧ m.2.hasHalves = false) :
      ∀ m ∈ members.foldl (fun mended m => put (.whole m.1.substituted) m.2 mended) mended,
        m.1.isWhole = true ∧ m.2.hasHalves = false := by
    induction members generalizing mended with
    | nil => exact start
    | cons first rest ih =>
      obtain ⟨head, others⟩ := List.forall_mem_cons.mp whole
      exact ih others _ (all_put start ⟨rfl, head⟩)
  exact mends [] fun _ none => absurd none List.not_mem_nil

theorem shownFinitely_written {members : Members} (fits : Fits members) : Written (shownFinitely members) := by
  have finite : ∀ m ∈ membersFinitely members, m.2.depth < deepestAnswer ∧ m.2.hasHalves = false := by
    rw [membersFinitely_map]
    intro m member
    obtain ⟨n, among, rfl⟩ := List.mem_map.mp member
    obtain ⟨deep, halved⟩ := finitely_alike n.2
    exact ⟨deep ▸ (fits n among).1, halved ▸ (fits n among).2⟩
  have clear : (membersFinitely members).findSome? (fun m => fault? (deepestAnswer - 1) m.2) = none := by
    rw [List.findSome?_eq_none_iff]
    intro m member
    have := (finite m member).1
    exact fault?_none _ m.2 (by omega) (finite m member).2
  refine ⟨.object (keysMended (membersFinitely members)), ?_, ?_⟩
  · simp only [shownFinitely, shown, clear]
  · exact membersHaveHalves_none.mpr (keysMended_whole fun m member => (finite m member).2)

end Tree

namespace Json

theorem written_each {f : α → Except Fault Json} {xs : List α} (each : ∀ a ∈ xs, Written (f a)) :
    ∃ items, xs.mapM f = .ok items ∧ itemsHaveHalves items = false := by
  induction xs with
  | nil => exact ⟨[], rfl, rfl⟩
  | cons a rest ih =>
    obtain ⟨head, others⟩ := List.forall_mem_cons.mp each
    obtain ⟨value, first, whole⟩ := head
    obtain ⟨items, more, wholes⟩ := ih others
    refine ⟨value :: items, ?_, ?_⟩
    · rw [List.mapM_cons, first, more]
      rfl
    · rw [itemsHaveHalves, whole, wholes]
      rfl

theorem ofText_whole (text : Option String) : (ofText text).hasHalves = false := by
  cases text <;> rfl

end Json

theorem ofMoment_whole (m : Option Moment) : (ofMoment m).hasHalves = false := by
  cases m <;> rfl

theorem Variant.render_written {v : Variant} (fits : Json.Fits v.config) : Json.Written v.render := by
  obtain ⟨config, shown, whole⟩ := Tree.shownFinitely_written fits
  refine ⟨_, by simp only [render, shown]; rfl, ?_⟩
  simp [Json.hasHalves, Json.membersHaveHalves, RawText.isWhole, whole, Json.ofText_whole]

theorem Decision.render_written {d : Decision} (fits : Json.Fits d.config) : Json.Written d.render := by
  obtain ⟨config, shown, whole⟩ := Tree.shownFinitely_written fits
  refine ⟨_, by simp only [render, shown]; rfl, ?_⟩
  simp [Json.hasHalves, Json.membersHaveHalves, RawText.isWhole, whole]

def ExperimentView.objects (v : ExperimentView) : List Json.Members :=
  v.experiment.targeting :: v.experiment.metadata :: v.variants.map (·.config)

theorem ExperimentView.render_written {v : ExperimentView} (plain : v.experiment.strays = {})
    (fits : ∀ members ∈ v.objects, Json.Fits members) : Json.Written v.render := by
  obtain ⟨first, second, others⟩ : Json.Fits v.experiment.targeting ∧ Json.Fits v.experiment.metadata ∧
      ∀ w ∈ v.variants, Json.Fits w.config := by simpa [objects] using fits
  obtain ⟨targeting, shown, whole⟩ := Tree.shownFinitely_written first
  obtain ⟨metadata, shown', whole'⟩ := Tree.shownFinitely_written second
  obtain ⟨variants, shown'', whole''⟩ := Json.written_each fun w member => Variant.render_written (others w member)
  have calm : v.complaints = [] := by simp [complaints, traffic, plain]
  refine ⟨_, by simp only [render, plain, calm, shown, shown', shown'']; rfl, ?_⟩
  simp [Json.hasHalves, Json.membersHaveHalves, RawText.isWhole, whole, whole', whole'', Json.ofText_whole,
    ofMoment_whole]

theorem Statistics.json_whole (t : Statistics) : t.json.hasHalves = false := by
  have each : ∀ entry ∈ t.variants.map fun entry => Json.object (figures entry).fields, entry.hasHalves = false := by
    intro value member
    obtain ⟨entry, _, rfl⟩ := List.mem_map.mp member
    rfl
  simp [json, Json.hasHalves, Json.membersHaveHalves, RawText.isWhole, Json.itemsHaveHalves_none.mpr each]

namespace Answer

def views : Answer → List ExperimentView
  | .experiment v => [v]
  | .experiments vs => vs
  | _ => []

def objects : Answer → List Json.Members
  | .experiment v => v.objects
  | .experiments vs => vs.flatMap ExperimentView.objects
  | .variant v => [v.config]
  | .decision d => d.toList.map (·.config)
  | .decisions ds => ds.map (·.config)
  | _ => []

def Plain (answer : Answer) : Prop := ∀ v ∈ answer.views, v.experiment.strays = {}

def Unfit (answer : Answer) : Prop :=
  ∃ members ∈ answer.objects, ∃ m ∈ members, deepestAnswer ≤ m.2.depth ∨ m.2.hasHalves = true

theorem fits_unless {answer : Answer} (fit : ¬ answer.Unfit) {members : Json.Members}
    (shown : members ∈ answer.objects) : Json.Fits members := by
  intro m member
  constructor
  · by_contra deep
    exact fit ⟨members, shown, m, member, .inl (Nat.not_lt.mp deep)⟩
  · rw [← Bool.not_eq_true]
    intro halved
    exact fit ⟨members, shown, m, member, .inr halved⟩

theorem render_written {answer : Answer} (plain : answer.Plain) (fit : ¬ answer.Unfit) :
    Json.Written answer.render := by
  have fits {members : Json.Members} (shown : members ∈ answer.objects) := fits_unless fit shown
  cases answer with
  | experiment v => exact ExperimentView.render_written (plain v List.mem_cons_self) fun _ shown => fits shown
  | experiments vs =>
    have each : ∀ v ∈ vs, Json.Written v.render := fun v member =>
      ExperimentView.render_written (plain v member) fun _ shown => fits (List.mem_flatMap.mpr ⟨v, member, shown⟩)
    obtain ⟨items, shown, whole⟩ := Json.written_each each
    exact ⟨.array items, by rw [render, shown]; rfl, whole⟩
  | variant v => exact Variant.render_written (fits List.mem_cons_self)
  | done => exact ⟨.null, rfl, rfl⟩
  | decision d =>
    cases d with
    | none => exact ⟨.null, rfl, rfl⟩
    | some d => exact Decision.render_written (fits List.mem_cons_self)
  | decisions ds =>
    have each : ∀ d ∈ ds, Json.Written d.render := fun d member =>
      Decision.render_written (fits (List.mem_map_of_mem member))
    obtain ⟨items, shown, whole⟩ := Json.written_each each
    exact ⟨.array items, by rw [render, shown]; rfl, whole⟩
  | recorded b => exact ⟨.bool b, rfl, rfl⟩
  | statistics t => exact ⟨t.json, rfl, t.json_whole⟩

end Answer

-- The experiments that a sound store answers with have no stray column.

namespace Catalogue
variable {s next : Store} {workspace : String} {now : Moment} {view : ExperimentView}

theorem get_plain (sound : s.Sound) {id : String} (found : get s workspace id = .ok view) :
    view.experiment.strays = {} := by
  obtain ⟨e, present, _, _, rfl⟩ := get_ok found
  exact sound.plain e present

theorem create_plain {draft : ExperimentDraft} (created : (create s workspace now draft).1 = .ok view) :
    view.experiment.strays = {} := by
  rw [(create_row created).2]
  rfl

theorem revise_plain (sound : s.Sound) {id : String} {plan : ExperimentView → Except Fault ExperimentRevision}
    (revised : (revise s workspace now id plan).1 = .ok view) : view.experiment.strays = {} := by
  obtain ⟨e, present, _, _, r, _, updated⟩ := revise_ok revised
  have plain := sound.plain e present
  rcases Store.updateExperiment_ok updated with ⟨_, same, _⟩ | ⟨same, _⟩
  · exact same ▸ plain
  · exact same ▸ ExperimentRevision.applied_plain plain

end Catalogue

namespace Operation
variable {s : Store} {workspace : String} {now : Moment} {operation : Operation} {answer : Answer}

theorem plain_view {view : ExperimentView} (plain : view.experiment.strays = {}) :
    (Answer.experiment view).Plain := by
  intro v member
  rw [List.mem_singleton.mp member]
  exact plain

theorem plain_none (none : answer.views = []) : answer.Plain := by
  intro v member
  rw [none] at member
  exact absurd member List.not_mem_nil

theorem run_plain (sound : s.Sound) (answered : (operation.run workspace now s).1 = .ok answer) : answer.Plain := by
  cases operation with
  | create draft =>
    obtain ⟨view, created, rfl⟩ := Outcome.map_ok answered
    exact plain_view (Catalogue.create_plain created)
  | get id =>
    obtain ⟨view, found, rfl⟩ := map_ok answered
    exact plain_view (Catalogue.get_plain sound found)
  | getByKey key =>
    obtain ⟨view, found, rfl⟩ := map_ok answered
    obtain ⟨e, present, rfl⟩ : ∃ e ∈ s.experiments, s.view e = view := by
      unfold Catalogue.getByKey Store.viewByKey? at found
      cases known : s.experimentByKey? workspace key with
      | none => simp [known] at found
      | some e =>
        simp only [known, Option.map_some] at found
        exact ⟨e, (Store.experimentByKey?_some known).1, Except.ok.inj found⟩
    exact plain_view (sound.plain e present)
  | list filter =>
    cases answered
    intro view member
    obtain ⟨e, listed, rfl⟩ := List.mem_map.mp member
    exact sound.plain e (Store.mem_list.mp listed).1
  | update _ _ | start _ | pause _ | conclude _ _ | archive _ =>
    obtain ⟨view, revised, rfl⟩ := Outcome.map_ok answered
    exact plain_view (Catalogue.revise_plain sound revised)
  | addVariant _ _ | updateVariant _ _ _ | deleteVariant _ _ | assign _ _ | assignAll _ | pin _ _ | convert _ _ =>
    obtain ⟨_, _, rfl⟩ := Outcome.map_ok answered
    exact plain_none rfl
  | statistics id =>
    obtain ⟨_, _, rfl⟩ := map_ok answered
    exact plain_none rfl

theorem runGarbled_plain (sound : s.Sound) {variant : RawText} {data : Json} {garbled : List String}
    (answered : (operation.runGarbled workspace now variant data garbled s).1 = .ok answer) : answer.Plain := by
  cases operation with
  | create _ | update _ _ | conclude _ _ | addVariant _ _ | updateVariant _ _ _ | deleteVariant _ _ | pin _ _ =>
    cases answered
  | assign _ _ | assignAll _ | convert _ _ =>
    obtain ⟨_, _, rfl⟩ := map_ok answered
    exact plain_none rfl
  | get _ | getByKey _ | list _ | start _ | pause _ | archive _ | statistics _ => exact run_plain sound answered

theorem runSent_plain (sound : s.Sound) {address : Address} {data : Json}
    (answered : (operation.runSent address now data s).1 = .ok answer) : answer.Plain := by
  unfold runSent at answered
  split at answered
  · split at answered
    · exact run_plain sound answered
    · exact runGarbled_plain sound answered
  · cases answered

end Operation
end Cohort
