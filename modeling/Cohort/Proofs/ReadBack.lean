import Cohort.Proofs.Acts.Accepted
import Cohort.Proofs.Agreement
import Cohort.Proofs.Decisions
import Cohort.Proofs.Scene

-- What is read where a caller has sent an object. A new row has the object as it was sent. An object that counts as the
-- same as the stored one is not written, so that the stored one is read, whatever the kinds of its numbers.
namespace Cohort

theorem Change.members_set {stored sent : Json.Members} :
    ((Change.set sent).members stored).getD stored = if Json.objectsAgree stored sent then stored else sent := by
  rw [members, written]
  split
  · rfl
  · rfl

theorem VariantChanges.config_given {changes : VariantChanges} {v : Variant} {sent : Json.Members}
    (given : changes.config = some (some sent)) (now : Moment) : (changes.revision.applied now v).config =
      if Json.objectsAgree v.config sent then v.config else sent := by
  simp only [VariantRevision.applied, revision, given, Change.ofRequired]
  exact Change.members_set

inductive ObjectField where
  | targeting
  | metadata

namespace ObjectField

def stored (e : Experiment) : ObjectField → Json
  | .targeting => e.targetingStored
  | .metadata => e.metadataStored

def object (e : Experiment) : ObjectField → Json.Members
  | .targeting => e.targeting
  | .metadata => e.metadata

def drafted (draft : ExperimentDraft) : ObjectField → Json.Members
  | .targeting => draft.targeting
  | .metadata => draft.metadata

def changed (changes : ExperimentChanges) : ObjectField → Option (Option Json.Members)
  | .targeting => changes.targeting
  | .metadata => changes.metadata

variable {e : Experiment} {now : Moment}

theorem stored_plain (plain : e.strays = {}) (field : ObjectField) : field.stored e = .object (field.object e) := by
  cases field with
  | targeting => simp [stored, object, Experiment.targetingStored, plain]
  | metadata => simp [stored, object, Experiment.metadataStored, plain]

theorem object_row (draft : ExperimentDraft) (id workspace : String) (field : ObjectField) :
    field.object (draft.row id workspace now) = field.drafted draft := by
  cases field with
  | targeting | metadata => rfl

theorem object_unaltered {r : ExperimentRevision} (same : r.alters e = false) (field : ObjectField) :
    field.object (r.applied now e) = field.object e := by
  rw [ExperimentRevision.unaltered same]
  cases field with
  | targeting | metadata => rfl

theorem object_given {changes : ExperimentChanges} {sent : Json.Members} {field : ObjectField} (plain : e.strays = {})
    (given : field.changed changes = some (some sent)) : field.object (changes.revision.applied now e) =
      if Json.objectsAgree (field.object e) sent then field.object e else sent := by
  cases field with
  | targeting =>
    replace given : changes.targeting = some (some sent) := given
    simp only [object, ExperimentRevision.applied, ExperimentRevision.newTargeting, ExperimentChanges.revision, given,
      Change.ofRequired, plain, Change.replacing]
    exact Change.members_set
  | metadata =>
    replace given : changes.metadata = some (some sent) := given
    simp only [object, ExperimentRevision.applied, ExperimentRevision.newMetadata, ExperimentChanges.revision, given,
      Option.map_some, Option.getD_some, Change.ofRequired, plain, Change.replacing]
    exact Change.members_set

end ObjectField

namespace Store
variable {s next : Store} {now : Moment}

-- What has been updated stands in its table with the objects of the update, an update that alters nothing included.

theorem updateExperiment_row {e row : Experiment} {r : ExperimentRevision} (present : e ∈ s.experiments)
    (updated : s.updateExperiment now e r = .ok (row, next)) :
    row ∈ next.experiments ∧ row.id = e.id ∧ row.workspace = e.workspace ∧
      ∀ field : ObjectField, field.object row = field.object (r.applied now e) := by
  rcases updateExperiment_ok updated with ⟨same, rfl, rfl⟩ | ⟨rfl, rfl⟩
  · exact ⟨present, rfl, rfl, fun field => (ObjectField.object_unaltered same field).symm⟩
  · exact ⟨List.mem_map.mpr ⟨e, present, if_pos rfl⟩, rfl, rfl, fun _ => rfl⟩

theorem updateVariant_row {v row : Variant} {r : VariantRevision} (present : v ∈ s.variants)
    (updated : s.updateVariant now v r = .ok (row, next)) :
    row ∈ next.variants ∧ row.id = v.id ∧ row.experiment = v.experiment ∧ row.config = (r.applied now v).config := by
  rcases updateVariant_ok updated with ⟨same, rfl, rfl⟩ | ⟨rfl, rfl⟩
  · simp only [VariantRevision.alters, Bool.or_eq_false_iff, Option.isSome_eq_false_iff,
      Option.isNone_iff_eq_none] at same
    simp [present, same, VariantRevision.applied]
  · exact ⟨List.mem_map.mpr ⟨v, present, if_pos rfl⟩, rfl, rfl, rfl⟩

end Store

inductive Slot where
  | field (field : ObjectField)
  | config (variant : String)

namespace Slot

def of (view : ExperimentView) : Slot → Option Json
  | .field f => some (f.stored view.experiment)
  | .config variant => (view.variant? variant).map fun v => .object v.config

def read (s : Store) (workspace id : String) (slot : Slot) : Option Json :=
  (Catalogue.get s workspace id).toOption.bind fun view => slot.of view

section Reading
variable {s : Store} {workspace id : String} (sound : s.Sound)
include sound

theorem read_field {e : Experiment} (present : e ∈ s.experiments) (named : e.id = id) (own : e.workspace = workspace)
    (f : ObjectField) : (field f).read s workspace id = some (.object (f.object e)) := by
  subst named own
  simp [read, sound.viewed present, of, Store.view, ObjectField.stored_plain (sound.plain e present), Except.toOption]

theorem read_config {variant : String} {v : Variant} (present : v ∈ s.variants) (named : v.id = variant)
    (own : v.experiment = id) (held : s.Holds workspace id) :
    (config variant).read s workspace id = some (.object v.config) := by
  obtain ⟨e, there, rfl, rfl⟩ := held
  subst named
  simp [read, sound.viewed there, of, sound.own_variant present own, Except.toOption]

end Reading
end Slot

namespace Operation

-- The objects that a request sends, and the places for them. Of a new row the answer tells where it is.
inductive Sends : Operation → Answer → String → Slot → Json.Members → Prop where
  | create (draft : ExperimentDraft) (view : ExperimentView) (field : ObjectField) :
      Sends (.create draft) (.experiment view) view.experiment.id (.field field) (field.drafted draft)
  | addVariant (id : String) (draft : VariantDraft) (v : Variant) :
      Sends (.addVariant id draft) (.variant v) id (.config v.id) draft.config
  | update (id : String) {changes : ExperimentChanges} {field : ObjectField} {sent : Json.Members}
      (given : field.changed changes = some (some sent)) (answer : Answer) :
      Sends (.update id changes) answer id (.field field) sent
  | updateVariant (id variant : String) {changes : VariantChanges} {sent : Json.Members}
      (given : changes.config = some (some sent)) (answer : Answer) :
      Sends (.updateVariant id variant changes) answer id (.config variant) sent

def Creates : Operation → Prop
  | .create _ | .addVariant _ _ => True
  | _ => False

section Sent
variable {s : Store} {workspace id : String} {now : Moment} {operation : Operation} {answer : Answer} {slot : Slot}
  {sent : Json.Members} (sound : s.Sound) (answered : (operation.run workspace now s).1 = .ok answer)
  (sends : operation.Sends answer id slot sent)
include sound answered sends

theorem Sends.created (creates : operation.Creates) :
    slot.read (operation.run workspace now s).2 workspace id = some (.object sent) := by
  have committed := run_commits sound workspace now operation
  have sound' := committed.sound sound
  cases sends with
  | create draft view field =>
    obtain ⟨_, accepted, same⟩ := Outcome.map_ok answered
    cases same
    obtain ⟨present, built⟩ := Catalogue.create_row accepted
    have own : view.experiment.workspace = workspace := congrArg Experiment.workspace built
    rw [Slot.read_field sound' present rfl own field, built, ObjectField.object_row]
  | addVariant id draft v =>
    obtain ⟨_, accepted, same⟩ := Outcome.map_ok answered
    cases same
    obtain ⟨built, written, holds⟩ := Catalogue.addVariant_ok accepted
    have present : v ∈ (Catalogue.addVariant s workspace now id draft).2.variants := by
      rw [written]
      exact List.mem_append_right _ (List.mem_singleton.mpr rfl)
    have held := (committed.kept sound).holds workspace id holds
    have own : v.experiment = id := congrArg Variant.experiment built
    have config : v.config = draft.config := congrArg Variant.config built
    rw [Slot.read_config sound' present rfl own held, config]
  | update | updateVariant => exact creates.elim

theorem Sends.updated (updates : ¬ operation.Creates) :
    ∃ stored, slot.read s workspace id = some (.object stored) ∧
      slot.read (operation.run workspace now s).2 workspace id =
        some (.object (if Json.objectsAgree stored sent then stored else sent)) := by
  have committed := run_commits sound workspace now operation
  have sound' := committed.sound sound
  cases sends with
  | create | addVariant => exact absurd trivial updates
  | @update id changes field sent given =>
    obtain ⟨_, accepted, _⟩ := Outcome.map_ok answered
    obtain ⟨e, present, rfl, rfl, r, read, updated⟩ := Catalogue.revise_ok accepted
    cases read
    obtain ⟨there, named, own, objects⟩ := Store.updateExperiment_row present updated
    refine ⟨field.object e, Slot.read_field sound present rfl rfl field, ?_⟩
    rw [← ObjectField.object_given (sound.plain e present) given, ← objects field]
    exact Slot.read_field sound' there named own field
  | updateVariant id variant given =>
    obtain ⟨_, accepted, _⟩ := Outcome.map_ok answered
    obtain ⟨old, present, rfl, rfl, held, updated⟩ := Catalogue.updateVariant_ok accepted
    obtain ⟨there, named, own, config⟩ := Store.updateVariant_row present updated
    refine ⟨old.config, Slot.read_config sound present rfl rfl held, ?_⟩
    rw [← VariantChanges.config_given given now, ← config]
    exact Slot.read_config sound' there named own ((committed.kept sound).holds workspace old.experiment held)

end Sent
end Operation

theorem objects_read_back {s : Store} (attained : Attained s) {workspace id : String} {now : Moment}
    {operation : Operation} {answer : Answer} {slot : Slot} {sent : Json.Members}
    (answered : (operation.run workspace now s).1 = .ok answer) (sends : operation.Sends answer id slot sent) :
    ∃ read, slot.read (operation.run workspace now s).2 workspace id = some (.object read) ∧
      Json.objectsAgree read sent = true ∧ (operation.Creates → read = sent) ∧
      (¬ operation.Creates → ∃ stored, slot.read s workspace id = some (.object stored) ∧
        read = if Json.objectsAgree stored sent then stored else sent) := by
  have sound := attained.sound
  have same : Json.objectsAgree sent sent = true := Json.agrees_refl (.object sent)
  by_cases creates : operation.Creates
  · exact ⟨sent, sends.created sound answered creates, same, fun _ => rfl, absurd creates⟩
  · obtain ⟨stored, before, after⟩ := sends.updated sound answered creates
    refine ⟨_, after, ?_, fun other => absurd other creates, fun _ => ⟨stored, before, rfl⟩⟩
    split
    · rename_i agree
      exact agree
    · exact same

-- A price is noted as a number, and then as a truth value that counts as the same.
def noted : ExperimentDraft := ⟨⟨"tariff", by decide⟩, "", none, .feature, .all, [], none, none, [("a", .int 1)]⟩

def renoted : ExperimentChanges := ⟨none, none, none, none, none, none, some (some [("a", .bool true)])⟩

theorem renoted_reads_old :
    let created := Operation.run "shop" ⟨0⟩ .empty (.create noted)
    let updated := Operation.run "shop" ⟨1⟩ created.2 (.update "id-1" renoted)
    Attained created.2 ∧ (∃ answer, updated.1 = .ok answer ∧
      (Operation.update "id-1" renoted).Sends answer "id-1" (.field .metadata) [("a", .bool true)]) ∧
    (Slot.field .metadata).read created.2 "shop" "id-1" = some (.object [("a", .int 1)]) ∧
    (Slot.field .metadata).read updated.2 "shop" "id-1" = some (.object [("a", .int 1)]) := by
  intro created updated
  have attained : Attained .empty := ⟨[], rfl⟩
  have attained' : Attained created.2 := ⟨[(⟨0⟩, .perform "shop" (.create noted))], rfl⟩
  obtain ⟨view, created', named⟩ : ∃ view, created.1 = .ok (.experiment view) ∧ view.experiment.id = "id-1" :=
    ⟨_, rfl, rfl⟩
  obtain ⟨answer, updated'⟩ : ∃ answer, updated.1 = .ok answer := ⟨_, rfl⟩
  have sends : (Operation.update "id-1" renoted).Sends answer "id-1" (.field .metadata) [("a", .bool true)] :=
    .update "id-1" rfl answer
  obtain ⟨first, read, _, exact', _⟩ := objects_read_back attained created' (.create noted view .metadata)
  obtain ⟨last, reread, _, _, kept⟩ := objects_read_back attained' updated' sends
  obtain rfl : first = noted.metadata := exact' trivial
  rw [named] at read
  obtain ⟨stored, before, settled⟩ := kept not_false
  obtain rfl := Json.object.inj (Option.some.inj (read.symm.trans before))
  rw [if_pos (by decide +kernel)] at settled
  rw [settled] at reread
  exact ⟨attained', ⟨answer, updated', sends⟩, read, reread⟩

end Cohort
