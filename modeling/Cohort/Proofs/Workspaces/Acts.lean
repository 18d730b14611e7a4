import Cohort.Proofs.Acts.Kept
import Cohort.Proofs.Workspaces.Holdings

-- An act of one workspace does the same whether the others are there or not, and does nothing to them.
namespace Cohort.Act
open Store
variable {workspace : String} {now : Moment} {s : Store}

-- What an act names belongs to the workspace it is done for.
def Ours (workspace : String) (s : Store) : Act → Prop
  | .lose | .create _ => True
  | .revise e _ => e ∈ s.experiments ∧ e.workspace = workspace
  | .addVariant id _ | .draw id _ _ _ | .pin id _ _ _ => s.Holds workspace id
  | .reviseVariant v _ => v ∈ s.variants ∧ s.Holds workspace v.experiment
  | .removeVariant id => ∃ v ∈ s.variants, v.id = id ∧ s.Holds workspace v.experiment
  | .expose row | .convert row _ _ => s.Within workspace row

theorem Allowed.ours {act : Act} (allowed : act.Allowed workspace now s) : act.Ours workspace s := by
  cases act with
  | lose | create _ => trivial
  | revise e r => exact ⟨allowed.1, allowed.2.1⟩
  | addVariant id draft =>
    obtain ⟨⟨e, present, named, own, _⟩, _⟩ := allowed
    exact ⟨e, present, named, own⟩
  | reviseVariant v changes => exact allowed
  | removeVariant id =>
    obtain ⟨v, there, named, e, present, same, own, _⟩ := allowed
    exact ⟨v, there, named, e, present, same, own⟩
  | draw id variant subject key => exact allowed.1.holds
  | pin id variant subject key => exact allowed.1
  | expose row => exact allowed
  | convert row value metadata => exact allowed

theorem owns_kept (sound : s.Sound) {act : Act} (ours : act.Ours workspace s) {id : String}
    (known : ∃ e ∈ s.experiments, e.id = id) (owner : String) :
    (act.apply workspace now s).owns owner id = s.owns owner id := by
  cases act with
  | create draft =>
    obtain ⟨e, present, rfl⟩ := known
    have fresh : s.nextId ≠ e.id := (sound.experimentsIssued e present).ne_next.symm
    simp [owns, apply, List.any_append, ExperimentDraft.row, fresh]
  | revise e r =>
    rw [owns, owns, apply, putExperiment, List.any_map]
    refine any_same fun b old => ?_
    exact put_same (fun e : Experiment => decide (e.id = id) && decide (e.workspace = owner)) (r.applied now e)
      sound.experimentIds ours.1 rfl rfl old
  | lose | addVariant _ _ | reviseVariant _ _ | removeVariant _ | draw _ _ _ _ | pin _ _ _ _ | expose _
    | convert _ _ _ => rfl

theorem variants_kept (now : Moment) (sound : s.Sound) {act : Act} (ours : act.Ours workspace s) (owner : String) :
    s.variants.filter (fun v => (act.apply workspace now s).owns owner v.experiment) =
      s.variants.filter fun v => s.owns owner v.experiment := by
  refine List.filter_congr fun v present => ?_
  exact owns_kept sound ours (sound.owned v present) owner

theorem rows_kept (now : Moment) (sound : s.Sound) {act : Act} (ours : act.Ours workspace s) (owner : String) :
    s.assignments.filter (fun a => (act.apply workspace now s).owns owner a.experiment) =
      s.assignments.filter fun a => s.owns owner a.experiment := by
  refine List.filter_congr fun a present => ?_
  obtain ⟨e, there, same, _⟩ := (sound.refers a present).experiment
  exact owns_kept sound ours ⟨e, there, same⟩ owner

theorem apply_only (now : Moment) (sound : s.Sound) (act : Act) (ours : act.Ours workspace s) :
    (act.apply workspace now s).only workspace = act.apply workspace now (s.only workspace) := by
  have variants := variants_kept now sound ours workspace
  have rows := rows_kept now sound ours workspace
  cases act with
  | lose => rfl
  | create draft =>
    refine Store.ext ?_ variants rows rfl rfl
    exact filter_added s.experiments (decide_eq_true rfl)
  | revise e r =>
    refine Store.ext ?_ variants rows rfl rfl
    apply filter_changed
    intro b old
    exact put_same (fun e : Experiment => decide (e.workspace = workspace)) (r.applied now e) sound.experimentIds ours.1
      rfl rfl old
  | addVariant id draft =>
    have own : s.owns workspace id = true := Holds.owns ours
    refine Store.ext rfl ?_ rows rfl rfl
    refine (filter_added s.variants own).trans ?_
    rw [← only_nextPosition ours]
    rfl
  | reviseVariant v changes =>
    refine Store.ext rfl ?_ rows rfl rfl
    apply filter_changed
    intro b old
    exact put_same (fun v : Variant => s.owns workspace v.experiment) (changes.revision.applied now v) sound.variantIds
      ours.1 rfl rfl old
  | removeVariant id =>
    refine Store.ext rfl ?_ ?_ rfl rfl
    · exact List.filter_comm _ _ _
    · exact List.filter_comm _ _ _
  | draw id variant subject key =>
    have own : s.owns workspace id = true := Holds.owns ours
    refine Store.ext rfl variants ?_ rfl rfl
    exact filter_added s.assignments own
  | pin id variant subject key =>
    have own : s.owns workspace id = true := Holds.owns ours
    refine Store.ext rfl variants ?_ rfl rfl
    refine (filter_added (s.without id subject).assignments own).trans ?_
    exact congrArg (· ++ _) (List.filter_comm _ _ _)
  | expose row =>
    refine Store.ext rfl variants ?_ rfl rfl
    apply filter_changed
    intro a _
    split
    · rfl
    · rfl
  | convert row value metadata =>
    refine Store.ext rfl variants ?_ rfl rfl
    apply filter_changed
    intro a _
    split
    · rfl
    · rfl

-- The row that is named, if it is there, is none of another workspace.
theorem row_apart (sound : s.Sound) {row : String} (within : s.Within workspace row) {other : String}
    (apart : other ≠ workspace) {change : Assignment → Assignment} (same : ∀ a, (change a).experiment = a.experiment)
    (untouched : ∀ a, a.id ≠ row → change a = a) :
    (s.assignments.map change).filter (fun a => s.owns other a.experiment) =
      s.assignments.filter fun a => s.owns other a.experiment := by
  refine filter_untouched (fun a _ => by rw [same a]) ?_
  intro a there owned
  apply untouched
  intro hit
  exact sound.foreign (within.2 a there hit) apart owned

theorem apply_apart (sound : s.Sound) {act : Act} (ours : act.Ours workspace s) {other : String}
    (apart : other ≠ workspace) : (act.apply workspace now s).holdings other = s.holdings other := by
  have variants := variants_kept now sound ours other
  have rows := rows_kept now sound ours other
  cases act with
  | lose => rfl
  | create draft =>
    refine Holdings.ext ?_ variants rows
    exact filter_skipped s.experiments (decide_eq_false apart.symm)
  | revise e r =>
    obtain ⟨present, own⟩ := ours
    refine Holdings.ext ?_ variants rows
    apply filter_untouched
    · intro b old
      exact put_same (fun e : Experiment => decide (e.workspace = other)) (r.applied now e) sound.experimentIds present
        rfl rfl old
    · intro b old owned
      apply if_neg
      intro hit
      have one : b = e := sound.same_experiment old present hit
      subst one
      exact apart ((of_decide_eq_true owned).symm.trans own)
  | addVariant id draft =>
    refine Holdings.ext rfl ?_ rows
    exact filter_skipped s.variants (sound.not_owned ours apart)
  | reviseVariant v changes =>
    refine Holdings.ext rfl ?_ rows
    apply filter_untouched
    · intro b old
      exact put_same (fun v : Variant => s.owns other v.experiment) (changes.revision.applied now v) sound.variantIds
        ours.1 rfl rfl old
    · intro b old owned
      apply if_neg
      intro hit
      have one : b = v := sound.same_variant old ours.1 hit
      subst one
      exact sound.foreign ours.2 apart owned
  | removeVariant id =>
    obtain ⟨v, there, named, held⟩ := ours
    refine Holdings.ext rfl ?_ ?_
    · apply filter_inside
      intro b old owned
      apply decide_eq_true
      intro hit
      have one : b = v := sound.same_variant old there (hit.trans named.symm)
      subst one
      exact sound.foreign held apart owned
    · apply filter_inside
      intro a old owned
      apply decide_eq_true
      intro hit
      obtain ⟨w, here, same, own⟩ := (sound.refers a old).variant
      have one : w = v := sound.same_variant here there (same.trans (hit.trans named.symm))
      subst one
      exact sound.foreign (own ▸ held) apart owned
  | draw id variant subject key =>
    refine Holdings.ext rfl variants ?_
    exact filter_skipped s.assignments (sound.not_owned ours apart)
  | pin id variant subject key =>
    refine Holdings.ext rfl variants ?_
    refine (filter_skipped (s.without id subject).assignments (sound.not_owned ours apart)).trans ?_
    apply filter_inside
    intro a _ owned
    have elsewhere : a.experiment ≠ id := by
      rintro rfl
      exact sound.foreign ours apart owned
    simp [elsewhere]
  | expose row =>
    refine Holdings.ext rfl variants (row_apart sound ours apart ?_ fun _ miss => if_neg miss)
    intro a
    split
    · rfl
    · rfl
  | convert row value metadata =>
    refine Holdings.ext rfl variants (row_apart sound ours apart ?_ ?_)
    · intro a
      split
      · rfl
      · rfl
    · intro a miss
      simp [awaits, miss]

theorem Commits.apart {may : Act → Prop} {next : Store} (committed : Commits may workspace now s next)
    (sound : s.Sound) {other : String} (apart : other ≠ workspace) : next.holdings other = s.holdings other := by
  induction committed with
  | nothing => rfl
  | step earlier _ allowed ih => rw [apply_apart (earlier.sound sound) allowed.ours apart, ih]

end Cohort.Act
