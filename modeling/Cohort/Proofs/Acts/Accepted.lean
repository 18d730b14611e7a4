import Cohort.Proofs.Acts.Catalogue

-- What is stored when a service of the catalogue has given an answer.
namespace Cohort

theorem Outcome.attempt_answered {work : Except Fault (α × Store)} {s : Store} {a : α}
    (answered : (attempt s work).1 = .ok a) : work = .ok (a, (attempt s work).2) := by
  cases work with
  | error fault => cases answered
  | ok result =>
    cases answered
    rfl

theorem Operation.map_ok {f : α → β} {answer : Except ε α} {b : β} (answered : answer.map f = .ok b) :
    ∃ a, answer = .ok a ∧ f a = b := by
  cases answer with
  | error fault => cases answered
  | ok a => exact ⟨a, rfl, Except.ok.inj answered⟩

namespace Catalogue
variable {s : Store} {workspace id : String} {now : Moment}

theorem bind_ok {work : Except Fault α} {next : α → Except Fault β} {b : β} (answered : work >>= next = .ok b) :
    ∃ a, work = .ok a ∧ next a = .ok b := by
  cases work with
  | error fault => cases answered
  | ok a => exact ⟨a, rfl, answered⟩

theorem insert_ok {draft : ExperimentDraft} {view : ExperimentView}
    (inserted : (insert s workspace now draft).1 = .ok view) :
    (insert s workspace now draft).2 =
        { s.draw with experiments := s.experiments ++ [draft.row s.nextId workspace now] } ∧
      view = (insert s workspace now draft).2.view (draft.row s.nextId workspace now) := by
  unfold insert at inserted ⊢
  cases written : s.draw.insertExperiment (draft.row s.nextId workspace now) with
  | error fault =>
    simp only [written] at inserted
    split at inserted
    · rename_i other
      cases other
    · cases inserted
    · cases inserted
  | ok next =>
    simp only [written] at inserted ⊢
    cases inserted
    exact ⟨Store.insertExperiment_ok written, rfl⟩

theorem create_ok {draft : ExperimentDraft} {view : ExperimentView}
    (answered : (create s workspace now draft).1 = .ok view) :
    (create s workspace now draft).2 =
        { s.draw with experiments := s.experiments ++ [draft.row s.nextId workspace now] } ∧
      view = (create s workspace now draft).2.view (draft.row s.nextId workspace now) := by
  unfold create at answered ⊢
  split at answered
  · cases answered
  · rename_i free
    rw [if_neg free]
    exact insert_ok answered

theorem create_row {draft : ExperimentDraft} {view : ExperimentView}
    (answered : (create s workspace now draft).1 = .ok view) :
    view.experiment ∈ (create s workspace now draft).2.experiments ∧
      view.experiment = draft.row s.nextId workspace now := by
  obtain ⟨written, rfl⟩ := create_ok answered
  refine ⟨?_, rfl⟩
  rw [written]
  exact List.mem_append_right _ (List.mem_singleton.mpr rfl)

theorem insertVariant_ok {draft : VariantDraft} {v : Variant} (inserted : (insertVariant s now id draft).1 = .ok v) :
    v = draft.row s.nextId id (s.nextPosition id) now ∧
      (insertVariant s now id draft).2 = { s.draw with variants := s.variants ++ [v] } := by
  unfold insertVariant at inserted ⊢
  cases written : s.draw.insertVariant (draft.row s.nextId id (s.nextPosition id) now) with
  | error fault =>
    simp only [written] at inserted
    split at inserted
    · rename_i other
      cases other
    · cases inserted
    · cases inserted
  | ok next =>
    simp only [written] at inserted ⊢
    cases inserted
    exact ⟨rfl, Store.insertVariant_ok written⟩

theorem addVariant_ok {draft : VariantDraft} {v : Variant} (answered : (addVariant s workspace now id draft).1 = .ok v) :
    v = draft.row s.nextId id (s.nextPosition id) now ∧
      (addVariant s workspace now id draft).2 = { s.draw with variants := s.variants ++ [v] } ∧
      s.Holds workspace id := by
  unfold addVariant at answered ⊢
  cases found : get s workspace id with
  | error fault =>
    simp only [found] at answered
    cases answered
  | ok view =>
    obtain ⟨e, present, rfl, own, rfl⟩ := get_ok found
    simp only [found] at answered ⊢
    split at answered
    · cases answered
    · rename_i stage
      split at answered
      · cases answered
      · rename_i fresh
        rw [if_neg stage, if_neg fresh]
        obtain ⟨built, written⟩ := insertVariant_ok answered
        exact ⟨built, written, e, present, rfl, own⟩

theorem revise_ok {plan : ExperimentView → Except Fault ExperimentRevision} {view : ExperimentView}
    (answered : (revise s workspace now id plan).1 = .ok view) :
    ∃ e ∈ s.experiments, e.id = id ∧ e.workspace = workspace ∧ ∃ r, plan (s.view e) = .ok r ∧
      s.updateExperiment now e r = .ok (view.experiment, (revise s workspace now id plan).2) := by
  obtain ⟨_, found, work⟩ := bind_ok (Outcome.attempt_answered answered)
  obtain ⟨e, present, named, own, rfl⟩ := get_ok found
  obtain ⟨r, read, work⟩ := bind_ok work
  obtain ⟨⟨row, next⟩, updated, work⟩ := bind_ok work
  obtain ⟨rfl, same⟩ := Prod.ext_iff.mp (Except.ok.inj work)
  exact ⟨e, present, named, own, r, read, same ▸ updated⟩

theorem updateVariant_ok {variant : String} {changes : VariantChanges} {v : Variant}
    (answered : (updateVariant s workspace now id variant changes).1 = .ok v) :
    ∃ old ∈ s.variants, old.id = variant ∧ old.experiment = id ∧ s.Holds workspace id ∧
      s.updateVariant now old changes.revision = .ok (v, (updateVariant s workspace now id variant changes).2) := by
  obtain ⟨_, found, work⟩ := bind_ok (Outcome.attempt_answered answered)
  obtain ⟨e, there, rfl, own, rfl⟩ := get_ok found
  obtain ⟨old, mine, updated⟩ := bind_ok work
  obtain ⟨present, belongs, named⟩ := ownVariant_ok mine
  exact ⟨old, present, named, belongs, ⟨e, there, rfl, own⟩, updated⟩

theorem deleteVariant_ok {variant : String} (answered : (deleteVariant s workspace id variant).1 = .ok ()) :
    s.Owns id variant ∧ (deleteVariant s workspace id variant).2 = { s with
      assignments := s.assignments.filter (·.variant ≠ variant)
      variants := s.variants.filter (·.id ≠ variant) } := by
  obtain ⟨_, found, work⟩ := bind_ok (Outcome.attempt_answered answered)
  obtain ⟨e, _, rfl, _, rfl⟩ := get_ok found
  split at work
  · cases work
  · obtain ⟨v, mine, work⟩ := bind_ok work
    obtain ⟨present, belongs, rfl⟩ := ownVariant_ok mine
    obtain ⟨next, removed, work⟩ := bind_ok work
    have same : next = (deleteVariant s workspace e.id v.id).2 := congrArg Prod.snd (Except.ok.inj work)
    exact ⟨⟨v, present, rfl, belongs⟩, same ▸ Store.removeVariant_ok removed⟩

end Catalogue
end Cohort
