import Cohort.Proofs.Acts.Kept

-- Every service of the catalogue commits one allowed act of its own kind or none, refused requests included.
namespace Cohort

theorem Store.insertExperiment_ok {s next : Store} {row : Experiment} (inserted : s.insertExperiment row = .ok next) :
    next = { s with experiments := s.experiments ++ [row] } := by
  unfold insertExperiment at inserted
  split at inserted
  · cases inserted
  · split at inserted
    · cases inserted
    · split at inserted
      · cases inserted
      · cases inserted
        rfl

theorem Store.insertVariant_ok {s next : Store} {row : Variant} (inserted : s.insertVariant row = .ok next) :
    next = { s with variants := s.variants ++ [row] } := by
  unfold insertVariant at inserted
  split at inserted
  · cases inserted
  · split at inserted
    · cases inserted
    · split at inserted
      · cases inserted
      · cases inserted
        rfl

theorem ExperimentRevision.unaltered {r : ExperimentRevision} {e : Experiment} (same : r.alters e = false)
    (now : Moment) : r.applied now e = { e with updatedAt := some now } := by
  simp only [alters, Bool.or_eq_false_iff, Option.isSome_eq_false_iff, Option.isNone_iff_eq_none] at same
  simp [applied, same]

theorem Store.updateExperiment_ok {s next : Store} {now : Moment} {e row : Experiment} {r : ExperimentRevision}
    (updated : s.updateExperiment now e r = .ok (row, next)) :
    (r.alters e = false ∧ row = e ∧ next = s) ∨ (row = r.applied now e ∧ next = s.putExperiment (r.applied now e)) := by
  unfold updateExperiment at updated
  split at updated
  · rename_i same
    cases updated
    exact .inl ⟨(Bool.not_eq_true' _).mp same, rfl, rfl⟩
  · simp only at updated
    split at updated
    · cases updated
    · split at updated
      · cases updated
      · split at updated
        · cases updated
        · cases updated
          exact .inr ⟨rfl, rfl⟩

theorem Store.updateVariant_ok {s next : Store} {now : Moment} {v row : Variant} {r : VariantRevision}
    (updated : s.updateVariant now v r = .ok (row, next)) :
    (r.alters v = false ∧ row = v ∧ next = s) ∨ (row = r.applied now v ∧ next = s.putVariant (r.applied now v)) := by
  unfold updateVariant at updated
  split at updated
  · rename_i same
    cases updated
    exact .inl ⟨(Bool.not_eq_true' _).mp same, rfl, rfl⟩
  · simp only at updated
    split at updated
    · cases updated
    · split at updated
      · cases updated
      · cases updated
        exact .inr ⟨rfl, rfl⟩

theorem Store.removeVariant_ok {s next : Store} {id : String} (removed : s.removeVariant id = .ok next) :
    next = { s with
      assignments := s.assignments.filter (·.variant ≠ id)
      variants := s.variants.filter (·.id ≠ id) } := by
  unfold removeVariant at removed
  split at removed
  · cases removed
  · cases removed
    rfl

namespace Catalogue
variable {s : Store} {workspace : String} {now : Moment}

theorem get_ok {id : String} {v : ExperimentView} (found : get s workspace id = .ok v) :
    ∃ e ∈ s.experiments, e.id = id ∧ e.workspace = workspace ∧ v = s.view e := by
  unfold get Store.view? at found
  cases h : s.experiment? workspace id with
  | none => simp [h] at found
  | some e =>
    simp only [h, Option.map_some] at found
    cases found
    obtain ⟨present, named, own⟩ := Store.experiment?_some h
    exact ⟨e, present, named, own, rfl⟩

theorem moved_ok {e : Experiment} {action : Action} {status : Status} (moves : moved e action = .ok status) :
    Lifecycle.allows action e.status = true ∧ status = Lifecycle.target action := by
  unfold moved Lifecycle.next? at moves
  cases allowed : Lifecycle.allows action e.status with
  | false => simp [allowed] at moves
  | true =>
    simp only [allowed, if_true] at moves
    cases moves
    exact ⟨rfl, rfl⟩

theorem create_once (draft : ExperimentDraft) :
    Act.Once (Operation.create draft).Permits workspace now s (create s workspace now draft).2 := by
  unfold create
  cases taken : s.experimentByKey? workspace draft.key.val with
  | some e => exact .nothing
  | none =>
    have free := Store.experimentByKey?_none taken
    show Act.Once (Operation.create draft).Permits workspace now s (insert s workspace now draft).2
    unfold insert
    cases inserted : s.draw.insertExperiment (draft.row s.nextId workspace now) with
    | error fault =>
      have lost : Act.Once (Operation.create draft).Permits workspace now s s.draw :=
        .done .lose (.createLost draft) trivial
      simp only [inserted]
      split
      · rename_i h; cases h
      · exact lost
      · exact lost
    | ok next =>
      simp only [inserted]
      rw [Store.insertExperiment_ok inserted]
      exact .done (.create draft) (.create draft) free

theorem insertVariant_once {id : String} {draft : VariantDraft} (drafts : s.Drafts workspace id)
    (free : ∀ v ∈ s.variants, v.experiment = id → v.key ≠ draft.key.val) :
    Act.Once (Operation.addVariant id draft).Permits workspace now s (insertVariant s now id draft).2 := by
  unfold insertVariant
  cases inserted : s.draw.insertVariant (draft.row s.nextId id (s.nextPosition id) now) with
  | error fault =>
    have lost : Act.Once (Operation.addVariant id draft).Permits workspace now s s.draw :=
      .done .lose (.variantLost id draft) trivial
    simp only [inserted]
    split
    · rename_i h; cases h
    · exact lost
    · exact lost
  | ok next =>
    simp only [inserted]
    rw [Store.insertVariant_ok inserted]
    exact .done (.addVariant id draft) (.addVariant id draft) ⟨drafts, free⟩

theorem addVariant_once (id : String) (draft : VariantDraft) :
    Act.Once (Operation.addVariant id draft).Permits workspace now s (addVariant s workspace now id draft).2 := by
  unfold addVariant
  cases found : get s workspace id with
  | error fault => exact .nothing
  | ok v =>
    obtain ⟨e, present, rfl, own, rfl⟩ := get_ok found
    simp only
    split
    · exact .nothing
    · rename_i stage
      split
      · exact .nothing
      · rename_i fresh
        apply insertVariant_once
        · exact ⟨e, present, rfl, own, by simpa [Store.view] using stage⟩
        · intro v there belongs same
          apply fresh
          rw [List.any_eq_true]
          exact ⟨v, Store.mem_variantsOf.mpr ⟨there, belongs⟩, by simpa using same⟩

-- What becomes of a revision: it is refused, or it updates the experiment that was read as it was planned.
inductive Revises (may : Act → Prop) (workspace id : String) (now : Moment) (s : Store) :
    Outcome ExperimentView → Prop where
  | refused (fault : Fault) : Revises may workspace id now s (.error fault, s)
  | updated {e row : Experiment} {next : Store} {r : ExperimentRevision} (present : e ∈ s.experiments)
      (named : e.id = id) (own : e.workspace = workspace) (permitted : may (.revise e r)) (plan : Plan s now e r)
      (written : s.updateExperiment now e r = .ok (row, next)) :
      Revises may workspace id now s (.ok (next.view row), next)

theorem Revises.once {may : Act → Prop} {id : String} {o : Outcome ExperimentView}
    (revises : Revises may workspace id now s o) : Act.Once may workspace now s o.2 := by
  cases revises with
  | refused fault => exact .nothing
  | @updated e _ _ r present named own permitted plan written =>
    rcases Store.updateExperiment_ok written with ⟨_, _, rfl⟩ | ⟨_, rfl⟩
    · exact .nothing
    · exact .done (.revise e r) permitted ⟨present, own, plan⟩

theorem revise_revises {may : Act → Prop} {id : String} {plan : ExperimentView → Except Fault ExperimentRevision}
    (planned : ∀ e ∈ s.experiments, e.id = id → ∀ r, plan (s.view e) = .ok r → may (.revise e r) ∧ Plan s now e r) :
    Revises may workspace id now s (revise s workspace now id plan) := by
  unfold revise
  cases found : get s workspace id with
  | error fault => exact .refused fault
  | ok v =>
    obtain ⟨e, present, named, own, rfl⟩ := get_ok found
    cases read : plan (s.view e) with
    | error fault =>
      simp only [bind, Except.bind, read]
      exact .refused fault
    | ok r =>
      simp only [bind, Except.bind, read]
      cases updated : s.updateExperiment now (s.view e).experiment r with
      | error fault => exact .refused fault
      | ok answer =>
        obtain ⟨permitted, plans⟩ := planned e present named r read
        exact .updated present named own permitted plans updated

theorem update_revises (id : String) (changes : ExperimentChanges) :
    Revises (Operation.update id changes).Permits workspace id now s (update s workspace now id changes) := by
  apply revise_revises
  rintro e _ rfl r read
  cases read
  exact ⟨.update e changes, .update changes⟩

theorem start_revises (id : String) :
    Revises (Operation.start id).Permits workspace id now s (start s workspace now id) := by
  apply revise_revises
  rintro e _ rfl r read
  cases allowed : moved (s.view e).experiment .start with
  | error fault => simp [bind, Except.bind, allowed] at read
  | ok status =>
    simp only [bind, Except.bind, allowed] at read
    split at read
    · cases read
    · rename_i many
      cases read
      obtain ⟨may, rfl⟩ := moved_ok allowed
      exact ⟨.start e rfl, .start may (Nat.not_lt.mp many)⟩

theorem pause_revises (id : String) :
    Revises (Operation.pause id).Permits workspace id now s (pause s workspace now id) := by
  apply revise_revises
  rintro e _ rfl r read
  cases allowed : moved (s.view e).experiment .pause with
  | error fault => simp [bind, Except.bind, allowed] at read
  | ok status =>
    simp only [bind, Except.bind, allowed] at read
    cases read
    obtain ⟨may, rfl⟩ := moved_ok allowed
    exact ⟨.pause e rfl, .pause may⟩

theorem conclude_revises (id : String) (winner : Option String) :
    Revises (Operation.conclude id winner).Permits workspace id now s (conclude s workspace now id winner) := by
  apply revise_revises
  rintro e _ rfl r read
  cases allowed : moved (s.view e).experiment .conclude with
  | error fault => simp [bind, Except.bind, allowed] at read
  | ok status =>
    simp only [bind, Except.bind, allowed] at read
    cases foreign : winner.filter (fun w => !isOwn (s.view e) w) with
    | some w => simp [foreign] at read
    | none =>
      simp only [foreign] at read
      cases read
      obtain ⟨may, rfl⟩ := moved_ok allowed
      refine ⟨.conclude e winner rfl, .conclude winner may ?_⟩
      rintro w rfl
      simpa using foreign

theorem archive_revises (id : String) :
    Revises (Operation.archive id).Permits workspace id now s (archive s workspace now id) := by
  apply revise_revises
  rintro e _ rfl r read
  cases allowed : moved (s.view e).experiment .archive with
  | error fault => simp [bind, Except.bind, allowed] at read
  | ok status =>
    simp only [bind, Except.bind, allowed] at read
    cases read
    obtain ⟨_, rfl⟩ := moved_ok allowed
    exact ⟨.archive e rfl, .archive⟩

theorem ownVariant_ok {e : Experiment} {id : String} {v : Variant} (found : ownVariant (s.view e) id = .ok v) :
    v ∈ s.variants ∧ v.experiment = e.id ∧ v.id = id := by
  unfold ownVariant at found
  cases own : (s.view e).variant? id with
  | none => simp [own] at found
  | some variant =>
    rw [own] at found
    cases found
    exact Store.view_variant?_some own

theorem updateVariant_once (id variant : String) (changes : VariantChanges) :
    Act.Once (Operation.updateVariant id variant changes).Permits workspace now s
      (updateVariant s workspace now id variant changes).2 := by
  unfold updateVariant
  cases found : get s workspace id with
  | error fault => exact .nothing
  | ok view =>
    obtain ⟨e, present, named, own, rfl⟩ := get_ok found
    cases mine : ownVariant (s.view e) variant with
    | error fault => simp only [bind, Except.bind, mine]; exact .nothing
    | ok v =>
      obtain ⟨there, belongs, rfl⟩ := ownVariant_ok mine
      simp only [bind, Except.bind, mine]
      cases updated : s.updateVariant now v changes.revision with
      | error fault => exact .nothing
      | ok answer =>
        obtain ⟨row, next⟩ := answer
        rcases Store.updateVariant_ok updated with ⟨_, _, rfl⟩ | ⟨_, rfl⟩
        · exact .nothing
        · exact .done (.reviseVariant v changes) (.updateVariant id v changes) ⟨there, e, present, belongs.symm, own⟩

theorem deleteVariant_once (id variant : String) :
    Act.Once (Operation.deleteVariant id variant).Permits workspace now s
      (deleteVariant s workspace id variant).2 := by
  unfold deleteVariant
  cases found : get s workspace id with
  | error fault => exact .nothing
  | ok view =>
    obtain ⟨e, present, named, own, rfl⟩ := get_ok found
    simp only [bind, Except.bind]
    split
    · exact .nothing
    · rename_i stage
      cases mine : ownVariant (s.view e) variant with
      | error fault => exact .nothing
      | ok v =>
        obtain ⟨there, belongs, rfl⟩ := ownVariant_ok mine
        simp only
        cases removed : s.removeVariant v.id with
        | error fault => exact .nothing
        | ok next =>
          have drafted : e.status = .draft := by simpa [Store.view] using stage
          rw [Store.removeVariant_ok removed]
          exact .done (.removeVariant v.id) (.deleteVariant id v.id)
            ⟨v, there, rfl, e, present, belongs.symm, own, drafted⟩

end Catalogue
end Cohort
