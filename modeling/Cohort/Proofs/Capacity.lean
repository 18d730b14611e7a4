import Cohort.Proofs.Acts.Accepted
import Cohort.Proofs.Hindrances
import Cohort.Proofs.Updates

-- What becomes of a body that a form has accepted. Two things in it are too much for the store: a weight that no word
-- holds, and half of a surrogate pair in a name or a description.
namespace Cohort

namespace Operation

inductive Accepts (data : Json) : Operation → Prop where
  | create {draft : ExperimentDraft} (read : ExperimentDraft.form.check data = .ok draft) : Accepts data (.create draft)
  | update (id : String) {changes : ExperimentChanges} (read : ExperimentChanges.form.check data = .ok changes) :
      Accepts data (.update id changes)
  | addVariant (id : String) {draft : VariantDraft} (read : VariantDraft.form.check data = .ok draft) :
      Accepts data (.addVariant id draft)
  | updateVariant (id variant : String) {changes : VariantChanges}
      (read : VariantChanges.form.check data = .ok changes) : Accepts data (.updateVariant id variant changes)

def Writes : Operation → Prop
  | .create _ | .update _ _ | .addVariant _ _ | .updateVariant _ _ _ => True
  | _ => False

theorem Accepts.writes {data : Json} {operation : Operation} (accepts : operation.Accepts data) : operation.Writes := by
  cases accepts <;> trivial

def weight? : Operation → Option Int
  | .addVariant _ draft => some draft.weight.val
  | .updateVariant _ _ changes => changes.weight.join.map (·.val)
  | _ => none

def Heavy (operation : Operation) : Prop := ∃ n, operation.weight? = some n ∧ Entry.wordLimit ≤ n

inductive Objects (workspace : String) (s : Store) : Operation → Fault → Prop where
  | keyTaken (draft : ExperimentDraft) (e : Experiment) (present : e ∈ s.experiments) (own : e.workspace = workspace)
      (taken : e.key = draft.key.val) : Objects workspace s (.create draft) (.keyTaken draft.key.val)
  | updateNowhere (id : String) (changes : ExperimentChanges) (missing : ¬ s.Holds workspace id) :
      Objects workspace s (.update id changes) (.unknownExperiment id)
  | addNowhere (id : String) (draft : VariantDraft) (missing : ¬ s.Holds workspace id) :
      Objects workspace s (.addVariant id draft) (.unknownExperiment id)
  | addLate (id : String) (draft : VariantDraft) (launched : s.Launched workspace id) :
      Objects workspace s (.addVariant id draft) .addingOutsideDraft
  | addTaken (id : String) (draft : VariantDraft) (drafts : s.Drafts workspace id) (v : Variant)
      (present : v ∈ s.variants) (own : v.experiment = id) (taken : v.key = draft.key.val) :
      Objects workspace s (.addVariant id draft) (.variantKeyTaken draft.key.val)
  | changeNowhere (id variant : String) (changes : VariantChanges) (missing : ¬ s.Holds workspace id) :
      Objects workspace s (.updateVariant id variant changes) (.unknownExperiment id)
  | changeNothing (id variant : String) (changes : VariantChanges) (held : s.Holds workspace id)
      (missing : ¬ s.Owns id variant) :
      Objects workspace s (.updateVariant id variant changes) (.unknownVariant variant)

theorem Objects.kind {workspace : String} {s : Store} {operation : Operation} {fault : Fault}
    (objects : operation.Objects workspace s fault) : fault.kind ∈ [.notFound, .invalidState, .conflict] := by
  cases objects <;> simp [Fault.kind]

-- Stopped by what the domain has against the call and, where that is nothing, by what is too much for the store.
def Stopped (workspace : String) (s : Store) (strains : Fault → Prop) (operation : Operation) (fault : Fault) : Prop :=
  operation.Objects workspace s fault ∨ (∀ other, ¬ operation.Objects workspace s other) ∧ strains fault

theorem Stopped.congr {workspace : String} {s : Store} {strains others : Fault → Prop} {operation : Operation}
    (same : ∀ fault, strains fault ↔ others fault) {fault : Fault} :
    operation.Stopped workspace s strains fault ↔ operation.Stopped workspace s others fault := by
  simp only [Stopped, same]

-- A weight that no word holds strains the store; nothing else does in a call whose texts are whole.
def Overweight (operation : Operation) (fault : Fault) : Prop := operation.Heavy ∧ fault = .beyondWord

theorem not_overweight {operation : Operation} (unsent : operation.weight? = none) (fault : Fault) :
    ¬ operation.Overweight fault := by
  intro ⟨⟨_, sent, _⟩, _⟩
  cases unsent.symm.trans sent

-- What a call comes to if its texts are whole, and the fault it comes to if they are not: the domain objects to both
-- alike, or to neither.
inductive Gated (workspace : String) (s : Store) (operation : Operation) : Except Fault α → Fault → Prop where
  | objected {fault : Fault} (objects : operation.Objects workspace s fault) :
      Gated workspace s operation (.error fault) fault
  | passed {answer : Except Fault α} (free : ∀ fault, ¬ operation.Objects workspace s fault)
      (judged : Judged operation.Overweight answer) : Gated workspace s operation answer .halfCharacter

section Gates
variable {workspace : String} {s : Store} {operation : Operation} {answer : Except Fault α} {fault : Fault}

theorem Gated.map (gated : operation.Gated workspace s answer fault) (f : α → β) :
    operation.Gated workspace s (answer.map f) fault := by
  cases gated with
  | objected objects => exact .objected objects
  | passed free judged => exact .passed free (judged.map f)

theorem Gated.whole (gated : operation.Gated workspace s answer fault) :
    Judged (operation.Stopped workspace s operation.Overweight) answer := by
  cases gated with
  | objected objects => exact .failed fault (.inl objects)
  | passed free judged =>
    refine judged.congr fun other => ⟨fun strained => .inr ⟨free, strained⟩, ?_⟩
    intro stopped
    obtain objects | ⟨_, strained⟩ := stopped
    · exact absurd objects (free other)
    · exact strained

theorem Gated.halved (gated : operation.Gated workspace s answer fault) :
    operation.Stopped workspace s (· = .halfCharacter) fault := by
  cases gated with
  | objected objects => exact .inl objects
  | passed free judged => exact .inr ⟨free, rfl⟩

theorem Gated.light {a : α} (gated : operation.Gated workspace s (.ok a) fault) : ¬ operation.Heavy := by
  intro heavy
  cases gated with
  | passed _ judged =>
    obtain ⟨_, failed⟩ := judged.exact.2 ⟨_, heavy, rfl⟩
    cases failed

end Gates

end Operation

-- No variant is heavier than a word can tell.
def Store.Light (s : Store) : Prop := ∀ v ∈ s.variants, v.weight < Entry.wordLimit

namespace Store
variable {s : Store}

theorem inWord_weight {n : Int} (least : 1 ≤ n) : inWord n = true ↔ n < Entry.wordLimit := by
  have limit : Entry.wordLimit = 9223372036854775808 := rfl
  simp only [inWord, Bool.and_eq_true, decide_eq_true_eq]
  omega

theorem Sound.inserts (sound : s.Sound) {workspace : String} {now : Moment} {draft : ExperimentDraft}
    (free : ∀ e ∈ s.experiments, e.workspace = workspace → e.key ≠ draft.key.val) :
    s.draw.insertExperiment (draft.row s.nextId workspace now) =
      .ok { s.draw with experiments := s.experiments ++ [draft.row s.nextId workspace now] } := by
  have word : inWord (draft.row s.nextId workspace now).traffic = true := by
    have limit : Entry.wordLimit = 9223372036854775808 := rfl
    have share : 0 ≤ (draft.row s.nextId workspace now).traffic ∧ (draft.row s.nextId workspace now).traffic ≤ 100 :=
      draft.traffic.property
    simp only [inWord, Bool.and_eq_true, decide_eq_true_eq]
    omega
  have single : s.draw.experiments.any (sameKey (draft.row s.nextId workspace now)) = false := by
    rw [List.any_eq_false]
    intro e present clash
    simp only [sameKey, Bool.and_eq_true, decide_eq_true_eq] at clash
    exact free e present clash.1.symm clash.2.symm
  have writable : s.draw.writable = true := sound.writable
  simp only [insertExperiment, word, single, writable, Bool.not_true, Bool.false_eq_true, if_false]
  rfl

theorem Sound.insertsVariant (sound : s.Sound) {row : Variant} (least : 1 ≤ row.weight)
    (free : ∀ v ∈ s.variants, v.experiment = row.experiment → v.key ≠ row.key) : s.draw.insertVariant row =
      if row.weight < Entry.wordLimit then .ok { s.draw with variants := s.variants ++ [row] }
      else .error .beyondWord := by
  have single : s.draw.variants.any (sameVariantKey row) = false := by
    rw [List.any_eq_false]
    intro v present clash
    simp only [sameVariantKey, Bool.and_eq_true, decide_eq_true_eq] at clash
    exact free v present clash.1.symm clash.2.symm
  have writable : s.draw.writable = true := sound.writable
  unfold insertVariant
  cases word : inWord row.weight with
  | true =>
    have light := (inWord_weight least).mp word
    simp only [single, writable, light, Bool.not_true, Bool.false_eq_true, if_false, if_true]
    rfl
  | false =>
    have heavy : ¬ row.weight < Entry.wordLimit := fun light => by simp [(inWord_weight least).mpr light] at word
    simp only [heavy, Bool.not_false, if_true, if_false]

end Store

theorem VariantChanges.applied_weight (changes : VariantChanges) (now : Moment) (v : Variant) :
    (changes.revision.applied now v).weight = (changes.weight.join.map (·.val)).getD v.weight := by
  show ((Change.ofRequired (·.val) changes.weight).plain v.weight).getD v.weight = _
  match changes.weight with
  | none | some none => rfl
  | some (some weight) => exact Change.plain_set

theorem VariantChanges.alters_weight {changes : VariantChanges} {v : Variant} {w : Weight}
    (sent : changes.weight.join = some w) (other : v.weight ≠ w.val) : changes.revision.alters v = true := by
  have set : changes.weight = some (some w) := Option.join_eq_some_iff.mp sent
  have written : (changes.revision.weight.plain v.weight).isSome = true := by
    simp [VariantChanges.revision, set, Change.ofRequired, Change.plain, Change.written, other]
  simp [VariantRevision.alters, written]

namespace Store
variable {s : Store}

-- What is stored is light, so a row is heavy only by the weight that is sent.
theorem Sound.updatesVariant (sound : s.Sound) {v : Variant} (present : v ∈ s.variants)
    (light : v.weight < Entry.wordLimit) (now : Moment) (id : String) (changes : VariantChanges) :
    Judged (Operation.updateVariant id v.id changes).Overweight (s.updateVariant now v changes.revision) := by
  have weight := changes.applied_weight now v
  have least : 1 ≤ (changes.revision.applied now v).weight := changes.weight_bound (sound.weights v present)
  by_cases heavy : (Operation.updateVariant id v.id changes).Heavy
  · have heavy' := heavy
    obtain ⟨n, sent, beyond⟩ := heavy'
    obtain ⟨w, written, rfl⟩ := Option.map_eq_some_iff.mp sent
    have alters := changes.alters_weight written (fun same : v.weight = w.val => by omega)
    have word : inWord (changes.revision.applied now v).weight = false := by
      rw [Bool.eq_false_iff]
      intro word
      have below := (inWord_weight least).mp word
      rw [weight, written] at below
      exact absurd beyond (not_le.mpr below)
    have refused : s.updateVariant now v changes.revision = .error .beyondWord := by
      simp only [updateVariant, alters, word, Bool.not_true, Bool.not_false, Bool.false_eq_true, if_false, if_true]
    rw [refused]
    exact .failed _ ⟨heavy, rfl⟩
  · have word : inWord (changes.revision.applied now v).weight = true := by
      refine (inWord_weight least).mpr ?_
      rw [weight]
      cases sent : changes.weight.join with
      | none => exact light
      | some w => exact not_le.mp fun beyond => heavy ⟨w.val, by simp [Operation.weight?, sent], beyond⟩
    have free : ∀ fault, ¬ (Operation.updateVariant id v.id changes).Overweight fault :=
      fun _ strained => heavy strained.1
    unfold updateVariant
    cases changes.revision.alters v with
    | false => exact .answered free _
    | true =>
      simp only [word, sound.writable, Bool.not_true, Bool.false_eq_true, if_false]
      exact .answered free _

end Store

namespace Catalogue
variable {s : Store}

theorem create_gated (sound : s.Sound) (workspace : String) (now : Moment) (draft : ExperimentDraft) :
    (Operation.create draft).Gated workspace s (create s workspace now draft).1
      (Garbled.create s workspace draft).1 := by
  unfold create Garbled.create
  cases found : s.experimentByKey? workspace draft.key.val with
  | some e =>
    obtain ⟨present, own, taken⟩ := Store.experimentByKey?_some found
    exact .objected (.keyTaken draft e present own taken)
  | none =>
    have free := Store.experimentByKey?_none found
    refine .passed ?_ ?_
    · intro fault objects
      cases objects with
      | keyTaken _ e present own taken => exact free e present own taken
    · simp only [Option.isSome_none, Bool.false_eq_true, if_false, insert, sound.inserts free]
      exact .answered (Operation.not_overweight rfl) _

theorem update_gated (sound : s.Sound) (workspace id : String) (now : Moment) (changes : ExperimentChanges) :
    (Operation.update id changes).Gated workspace s (update s workspace now id changes).1
      (Garbled.update s workspace id) := by
  unfold Garbled.update
  by_cases held : s.Holds workspace id
  · obtain ⟨e, present, rfl, rfl⟩ := held
    have updated : update s e.workspace now e.id changes = _ := revise_left sound present rfl (.update changes)
    rw [sound.viewed present, updated]
    refine .passed ?_ (.answered (Operation.not_overweight rfl) _)
    intro fault objects
    cases objects with
    | updateNowhere _ _ missing => exact missing ⟨e, present, rfl, rfl⟩
  · simp only [update, revise, get_unheld held, bind, Except.bind]
    exact .objected (.updateNowhere id changes held)

theorem insertVariant_judged (sound : s.Sound) {id : String} (now : Moment) (draft : VariantDraft)
    (free : ∀ v ∈ s.variants, v.experiment = id → v.key ≠ draft.key.val) :
    Judged (Operation.addVariant id draft).Overweight (insertVariant s now id draft).1 := by
  let row := draft.row s.nextId id (s.nextPosition id) now
  have inserted : s.draw.insertVariant row = if draft.weight.val < Entry.wordLimit then
      .ok { s.draw with variants := s.variants ++ [row] } else .error .beyondWord :=
    sound.insertsVariant draft.weight.property free
  by_cases light : draft.weight.val < Entry.wordLimit
  · simp only [insertVariant, inserted, if_pos light, row]
    refine .answered ?_ _
    intro fault strained
    obtain ⟨⟨n, sent, beyond⟩, _⟩ := strained
    cases sent
    exact absurd light (not_lt.mpr beyond)
  · simp only [insertVariant, inserted, if_neg light, row]
    exact .failed _ ⟨⟨_, rfl, not_lt.mp light⟩, rfl⟩

theorem addVariant_gated (sound : s.Sound) (workspace id : String) (now : Moment) (draft : VariantDraft) :
    (Operation.addVariant id draft).Gated workspace s (addVariant s workspace now id draft).1
      (Garbled.addVariant s workspace id draft).1 := by
  unfold addVariant Garbled.addVariant
  by_cases held : s.Holds workspace id
  · obtain ⟨e, present, rfl, rfl⟩ := held
    rw [sound.viewed present]
    dsimp only
    split
    · rename_i stage
      exact .objected (.addLate e.id draft ⟨e, present, rfl, rfl, stage⟩)
    · rename_i stage
      have drafts : e.status = .draft := not_not.mp stage
      split
      · rename_i clash
        obtain ⟨v, listed, taken⟩ := List.any_eq_true.mp clash
        obtain ⟨there, own⟩ := Store.mem_variantsOf.mp listed
        exact .objected (.addTaken e.id draft ⟨e, present, rfl, rfl, drafts⟩ v there own (of_decide_eq_true taken))
      · rename_i fresh
        have free : ∀ v ∈ s.variants, v.experiment = e.id → v.key ≠ draft.key.val := by
          intro v there own taken
          exact fresh (List.any_eq_true.mpr ⟨v, Store.mem_variantsOf.mpr ⟨there, own⟩, decide_eq_true taken⟩)
        refine .passed ?_ (insertVariant_judged sound now draft free)
        intro fault objects
        cases objects with
        | addNowhere _ _ missing => exact missing ⟨e, present, rfl, rfl⟩
        | addLate _ _ launched =>
          obtain ⟨x, there, same, _, left⟩ := launched
          exact left (sound.same_experiment there present same ▸ drafts)
        | addTaken _ _ _ v there own taken => exact free v there own taken
  · rw [get_unheld held]
    exact .objected (.addNowhere id draft held)

theorem updateVariant_gated (sound : s.Sound) (light : s.Light) (workspace id variant : String) (now : Moment)
    (changes : VariantChanges) :
    (Operation.updateVariant id variant changes).Gated workspace s (updateVariant s workspace now id variant changes).1
      (Garbled.updateVariant s workspace id variant) := by
  unfold Garbled.updateVariant
  by_cases held : s.Holds workspace id
  · obtain ⟨e, present, rfl, rfl⟩ := held
    by_cases owns : s.Owns e.id variant
    · obtain ⟨v, there, rfl, own⟩ := owns
      have judged := sound.updatesVariant there (light v there) now e.id changes
      simp only [updateVariant, sound.viewed present, bind, Except.bind, ownVariant, sound.own_variant there own]
      generalize s.updateVariant now v changes.revision = answer at judged ⊢
      refine .passed ?_ ?_
      · intro fault objects
        cases objects with
        | changeNowhere _ _ _ missing => exact missing ⟨e, present, rfl, rfl⟩
        | changeNothing _ _ _ _ missing => exact missing ⟨v, there, rfl, own⟩
      · cases judged with
        | failed fault why => exact .failed fault why
        | answered free a => exact .answered free _
    · simp only [updateVariant, sound.viewed present, bind, Except.bind, ownVariant, Store.view_variant?_none owns]
      exact .objected (.changeNothing e.id variant changes ⟨e, present, rfl, rfl⟩ owns)
  · simp only [updateVariant, get_unheld held, bind, Except.bind]
    exact .objected (.changeNowhere id variant changes held)

end Catalogue

def Act.Weighs : Act → Prop
  | .addVariant _ _ | .reviseVariant _ _ => True
  | _ => False

def Move.Weighs : Move → Prop
  | .perform _ (.addVariant _ _) | .perform _ (.updateVariant _ _ _) => True
  | _ => False

theorem Act.apply_light {workspace : String} {now : Moment} {s : Store} {act : Act} (light : s.Light)
    (other : ¬ act.Weighs) : (act.apply workspace now s).Light := by
  cases act with
  | addVariant _ _ | reviseVariant _ _ => exact absurd trivial other
  | removeVariant _ => exact fun v kept => light v (List.mem_filter.mp kept).1
  | lose | create _ | revise _ _ | draw _ _ _ _ | pin _ _ _ _ | expose _ | convert _ _ _ => exact light

theorem Scene.Permits.weighs {scene : Scene} {move : Move} {act : Act} (permitted : scene.Permits move act)
    (weighs : act.Weighs) : move.Weighs := by
  have other : ¬ act.OnRows := by
    cases act with
    | addVariant _ _ | reviseVariant _ _ => exact not_false
    | _ => exact weighs.elim
  obtain ⟨operation, performed, permitted⟩ := permitted.performs other
  rw [performed]
  cases permitted with
  | addVariant _ _ | updateVariant _ _ _ => trivial
  | assign _ _ visits | assignAll _ visits => exact absurd visits.onRows other
  | convert _ _ reports => exact absurd reports.onRows other
  | _ => exact weighs.elim

namespace Catalogue
variable {s : Store}

-- What is refused is not written, and what is written was light.

theorem addVariant_light (sound : s.Sound) (light : s.Light) (workspace id : String) (now : Moment)
    (draft : VariantDraft) : (addVariant s workspace now id draft).2.Light := by
  have gated := addVariant_gated sound workspace id now draft
  cases answered : (addVariant s workspace now id draft).1 with
  | error fault =>
    have untouched := addVariant_spares draft fault answered
    exact fun v present => light v (untouched.variants ▸ present)
  | ok v =>
    obtain ⟨built, written, _⟩ := addVariant_ok answered
    rw [answered] at gated
    rw [written]
    refine Store.all_added light ?_
    rw [built]
    exact not_le.mp fun beyond => gated.light ⟨_, rfl, beyond⟩

theorem updateVariant_light (sound : s.Sound) (light : s.Light) (workspace id variant : String) (now : Moment)
    (changes : VariantChanges) : (updateVariant s workspace now id variant changes).2.Light := by
  have gated := updateVariant_gated sound light workspace id variant now changes
  cases answered : (updateVariant s workspace now id variant changes).1 with
  | error fault =>
    have left : (updateVariant s workspace now id variant changes).2 = s := Outcome.attempt_store_of_error answered
    rwa [left]
  | ok v =>
    obtain ⟨old, present, _, _, _, updated⟩ := updateVariant_ok answered
    rw [answered] at gated
    obtain ⟨_, _, same⟩ | ⟨_, same⟩ := Store.updateVariant_ok updated
    · rw [same]
      exact light
    · rw [same]
      intro w member
      obtain ⟨b, before, rfl⟩ := List.mem_map.mp member
      split
      · rw [changes.applied_weight]
        cases sent : changes.weight.join with
        | none => exact light old present
        | some weight => exact not_le.mp fun beyond => gated.light ⟨_, by simp [Operation.weight?, sent], beyond⟩
      · exact light b before

end Catalogue

namespace Scene
variable {scene : Scene}

theorem after_light (ready : scene.Ready) (light : scene.store.Light) (now : Moment) (move : Move) :
    (scene.after now move).store.Light := by
  by_cases weighs : move.Weighs
  · cases move with
    | perform workspace operation =>
      cases operation with
      | addVariant id draft => exact Catalogue.addVariant_light ready.sound light workspace id now draft
      | updateVariant id variant changes =>
        exact Catalogue.updateVariant_light ready.sound light workspace id variant now changes
      | _ => exact weighs.elim
    | _ => exact weighs.elim
  · refine after_carries ready ?_ light
    intro s next effect light
    obtain ⟨made, act, _, permitted, _⟩ := effect
    exact Act.apply_light light fun heavy => weighs (Permits.weighs permitted heavy)

theorem play_light (ready : scene.Ready) (light : scene.store.Light) (moves : List (Moment × Move)) :
    (scene.play moves).store.Light := by
  induction moves generalizing scene with
  | nil => exact light
  | cons move rest ih => exact ih (after_commits ready move.1 move.2).2 (after_light ready light move.1 move.2)

end Scene

theorem Attained.light {s : Store} (attained : Attained s) : s.Light := by
  obtain ⟨moves, rfl⟩ := attained
  exact Scene.play_light Scene.empty_ready (fun _ member => absurd member List.not_mem_nil) moves

namespace Operation
variable {s : Store} {operation : Operation}

theorem writes_gated (sound : s.Sound) (light : s.Light) (workspace : String) (now : Moment) (data : Json)
    (garbled : List String) (writes : operation.Writes) :
    ∃ fault, (operation.runGarbled workspace now "" data garbled s).1 = .error fault ∧
      operation.Gated workspace s (operation.run workspace now s).1 fault := by
  cases operation with
  | create draft => exact ⟨_, rfl, (Catalogue.create_gated sound workspace now draft).map _⟩
  | update id changes => exact ⟨_, rfl, (Catalogue.update_gated sound workspace id now changes).map _⟩
  | addVariant id draft => exact ⟨_, rfl, (Catalogue.addVariant_gated sound workspace id now draft).map _⟩
  | updateVariant id variant changes =>
    exact ⟨_, rfl, (Catalogue.updateVariant_gated sound light workspace id variant now changes).map _⟩
  | _ => exact writes.elim

inductive Unstorable (data : Json) (operation : Operation) : Fault → Prop where
  | halved (halved : Garbled.namesIn operation.textNames data ≠ []) : Unstorable data operation .halfCharacter
  | heavy (whole : Garbled.namesIn operation.textNames data = []) (heavy : operation.Heavy) :
      Unstorable data operation .beyondWord

theorem sent_judged (sound : s.Sound) (light : s.Light) (workspace : String) (now : Moment) (data : Json)
    (writes : operation.Writes) :
    Judged (operation.Stopped workspace s (operation.Unstorable data))
      (operation.runSent ⟨workspace, "", ""⟩ now data s).1 := by
  obtain ⟨fault, failed, gated⟩ :=
    writes_gated sound light workspace now data (Garbled.namesIn operation.textNames data) writes
  have texts : operation.runSent ⟨workspace, "", ""⟩ now data s =
      if Garbled.namesIn operation.textNames data = [] then operation.run workspace now s
      else operation.runGarbled workspace now "" data (Garbled.namesIn operation.textNames data) s := by
    unfold runSent
    cases Garbled.namesIn operation.textNames data <;> rfl
  rw [texts]
  by_cases whole : Garbled.namesIn operation.textNames data = []
  · rw [if_pos whole]
    refine gated.whole.congr fun _ => Stopped.congr fun other => ⟨?_, ?_⟩
    · intro overweight
      obtain ⟨heavy, rfl⟩ := overweight
      exact .heavy whole heavy
    · intro unstorable
      cases unstorable with
      | halved halved => exact absurd whole halved
      | heavy _ heavy => exact ⟨heavy, rfl⟩
  · rw [if_neg whole, failed]
    refine .failed fault ?_
    obtain objects | ⟨free, rfl⟩ := gated.halved
    · exact .inl objects
    · exact .inr ⟨free, .halved whole⟩

-- With half of a surrogate pair in an address nothing else is told than that something is not there. Only a variant is
-- looked up by the address; the other calls come to what they come to with a whole one.
theorem garbled_kind (sound : s.Sound) (light : s.Light) (workspace : String) (now : Moment) (variant : RawText)
    (data : Json) (garbled : List String) (writes : operation.Writes) {fault : Fault}
    (failed : (operation.runGarbled workspace now variant data garbled s).1 = .error fault) :
    fault.kind ∈ [.notFound, .invalidState, .conflict] ∨ fault = .halfCharacter := by
  have by_body (same : (operation.runGarbled workspace now "" data garbled s).1 = .error fault) :
      fault.kind ∈ [.notFound, .invalidState, .conflict] ∨ fault = .halfCharacter := by
    obtain ⟨told, said, gated⟩ := writes_gated sound light workspace now data garbled writes
    cases said.symm.trans same
    exact gated.halved.imp Objects.kind And.right
  cases operation with
  | create _ | update _ _ | addVariant _ _ => exact by_body failed
  | updateVariant id name changes =>
    simp only [runGarbled, Garbled.updateVariant] at failed
    split at failed
    · rename_i missing
      cases failed
      rw [Catalogue.get_refused missing]
      exact .inl (by simp [Fault.kind])
    · cases failed
      split
      · exact .inr rfl
      · exact .inl (by simp [Fault.kind])
    · cases failed
      exact .inl (by simp [Fault.kind])
  | _ => exact writes.elim

def Address.IsWhole (address : Address) : Prop :=
  address.workspace.isWhole = true ∧ address.experiment.isWhole = true ∧ address.variant.isWhole = true

theorem sent_kind (sound : s.Sound) (light : s.Light) (address : Address) (now : Moment) (data : Json)
    (writes : operation.Writes) {fault : Fault} (failed : (operation.runSent address now data s).1 = .error fault) :
    fault.kind ∈ [.notFound, .invalidState, .conflict] ∨ fault = .beyondWord ∧ operation.Heavy ∨
      fault = .halfCharacter ∧ ¬ (address.IsWhole ∧ Garbled.namesIn operation.textNames data = []) := by
  unfold runSent at failed
  split at failed
  · rename_i workspace found known
    split at failed
    · obtain ⟨_, _, gated⟩ := writes_gated sound light workspace now data [] writes
      obtain objects | ⟨_, heavy, rfl⟩ := gated.whole.exact.1 fault failed
      · exact .inl objects.kind
      · exact .inr (.inl ⟨rfl, heavy⟩)
    · rename_i garbled
      obtain domain | half := garbled_kind sound light workspace now _ data _ writes failed
      · exact .inl domain
      · refine .inr (.inr ⟨half, ?_⟩)
        intro ⟨⟨_, _, variant⟩, whole⟩
        exact garbled whole variant
  · rename_i lost
    cases failed
    refine .inr (.inr ⟨?_, ?_⟩)
    · cases operation <;> first | rfl | exact writes.elim
    · intro ⟨⟨workspace, experiment, _⟩, _⟩
      cases named : address.workspace with
      | whole text => exact lost text named experiment
      | halved points => cases named ▸ workspace

end Operation

-- What is accepted is done, or the domain objects to it, unless it is too much for the store. The store is all that is
-- looked at: that a runtime can write an object only down to some depth of nesting is no rule of form or column, and no
-- such depth is modelled.
theorem accepted_stored_unless {s : Store} (attained : Attained s) {data : Json} {operation : Operation}
    (accepts : operation.Accepts data) (now : Moment) :
    (∀ workspace : String,
      (∀ fault, (operation.runSent ⟨workspace, "", ""⟩ now data s).1 = .error fault →
        operation.Stopped workspace s (operation.Unstorable data) fault) ∧
      ((∃ fault, operation.Stopped workspace s (operation.Unstorable data) fault) →
        ∃ fault, (operation.runSent ⟨workspace, "", ""⟩ now data s).1 = .error fault)) ∧
    ∀ address fault, (operation.runSent address now data s).1 = .error fault →
      fault.kind ∈ [.notFound, .invalidState, .conflict] ∨ fault = .beyondWord ∧ operation.Heavy ∨
        fault = .halfCharacter ∧ ¬ (address.IsWhole ∧ Garbled.namesIn operation.textNames data = []) := by
  constructor
  · intro workspace
    exact (Operation.sent_judged attained.sound attained.light workspace now data accepts.writes).exact
  · intro address fault failed
    exact Operation.sent_kind attained.sound attained.light address now data accepts.writes failed

-- To the draft of the shop a variant is added with the greatest weight that a word holds, and one with the next.

def shopDraft : Store := (Scene.empty.play (Scene.shop.take 1)).store

def greatestWeight : Weight := ⟨Entry.wordLimit - 1, by decide⟩

def nextWeight : Weight := ⟨Entry.wordLimit, by decide⟩

def weighing (w : Weight) : VariantDraft := ⟨⟨"bulk", by decide⟩, "Bulk", none, w, [], false⟩

theorem shop_stores_greatest :
    let asked (w : Weight) := Operation.addVariant "id-1" (weighing w)
    let sent (w : Weight) := (asked w).runSent ⟨"shop", "", ""⟩ ⟨1⟩ (.object (weighing w).fields) shopDraft
    Attained shopDraft ∧ (∀ w ∈ [greatestWeight, nextWeight], (asked w).Accepts (.object (weighing w).fields)) ∧
      (sent greatestWeight).1.isOk = true ∧ (sent nextWeight).1 = .error .beyondWord ∧
      (asked nextWeight).Stopped "shop" shopDraft
        ((asked nextWeight).Unstorable (.object (weighing nextWeight).fields)) .beyondWord := by
  intro asked sent
  have attained : Attained shopDraft := ⟨_, rfl⟩
  have accepts : ∀ w ∈ [greatestWeight, nextWeight], (asked w).Accepts (.object (weighing w).fields) := by
    simp only [List.forall_mem_cons]
    exact ⟨.addVariant "id-1" rfl, .addVariant "id-1" rfl, fun _ none => absurd none List.not_mem_nil⟩
  have overflow : (sent nextWeight).kind? = some .overflow := by decide +kernel
  obtain ⟨fault, failed, kind⟩ := Outcome.kind?_some.mp overflow
  obtain ⟨judged, told⟩ := accepted_stored_unless attained (accepts nextWeight (by simp)) ⟨1⟩
  obtain domain | ⟨rfl, _⟩ | ⟨rfl, _⟩ := told _ fault failed
  · rw [kind] at domain
    exact absurd domain (by decide)
  · exact ⟨attained, accepts, by decide +kernel, failed, (judged "shop").1 _ failed⟩
  · cases kind

end Cohort
