import Cohort.Proofs.Store.Sound

-- Every act keeps a store sound. Acts on rows come down to three changes: rows go, rows change in what was seen
-- or reported of them, one row is added.
namespace Cohort
namespace Store.Sound
variable {s : Store}

theorem filter_rows (sound : s.Sound) (keep : Assignment → Bool) :
    Sound { s with assignments := s.assignments.filter keep } := by
  have old {a : Assignment} (kept : a ∈ s.assignments.filter keep) : a ∈ s.assignments := (List.mem_filter.mp kept).1
  exact { sound with
    rowIds := distinct_filter keep sound.rowIds
    rowsIssued := fun a kept => sound.rowsIssued a (old kept)
    refers := fun a kept => ⟨(sound.refers a (old kept)).experiment, (sound.refers a (old kept)).variant⟩
    tidy := fun a kept => sound.tidy a (old kept)
    apart := fun a first b second => sound.apart a (old first) b (old second) }

-- What is seen of a row or reported of it says nothing of whose it is.
structure Same (a b : Assignment) : Prop where
  id : a.id = b.id
  workspace : a.workspace = b.workspace
  experiment : a.experiment = b.experiment
  variant : a.variant = b.variant
  subject : a.subject = b.subject
  subjectKey : a.subjectKey = b.subjectKey
  source : a.source = b.source
  createdAt : a.createdAt = b.createdAt

theorem Same.refl (a : Assignment) : Same a a := ⟨rfl, rfl, rfl, rfl, rfl, rfl, rfl, rfl⟩

theorem Same.symm {a b : Assignment} (same : Same a b) : Same b a :=
  ⟨same.id.symm, same.workspace.symm, same.experiment.symm, same.variant.symm, same.subject.symm,
    same.subjectKey.symm, same.source.symm, same.createdAt.symm⟩

theorem Same.trans {a b c : Assignment} (first : Same a b) (second : Same b c) : Same a c where
  id := first.id.trans second.id
  workspace := first.workspace.trans second.workspace
  experiment := first.experiment.trans second.experiment
  variant := first.variant.trans second.variant
  subject := first.subject.trans second.subject
  subjectKey := first.subjectKey.trans second.subjectKey
  source := first.source.trans second.source
  createdAt := first.createdAt.trans second.createdAt

theorem Same.clashes {a a' b b' : Assignment} (left : Same a a') (right : Same b b') :
    a.clashes b = a'.clashes b' := by
  rw [Bool.eq_iff_iff, Assignment.clashes_exact, Assignment.clashes_exact, left.experiment, right.experiment,
    left.subject, right.subject, left.subjectKey, right.subjectKey]

theorem Same.standsFor {a b : Assignment} (same : Same a b) (subject : Subject) :
    a.standsFor subject = b.standsFor subject := by
  simp only [Assignment.standsFor, same.subject, same.subjectKey]

theorem change_rows (sound : s.Sound) (change : Assignment → Assignment) (same : ∀ a, Same (change a) a)
    (tidy : ∀ a, a.Tidy → (change a).Tidy) : Sound { s with assignments := s.assignments.map change } := by
  have old {P : Assignment → Prop} (all : ∀ a ∈ s.assignments, P (change a)) :
      ∀ a ∈ s.assignments.map change, P a := by
    intro a present
    obtain ⟨before, member, rfl⟩ := List.mem_map.mp present
    exact all before member
  refine { sound with
    rowIds := distinct_change sound.rowIds fun a _ => (same a).id
    rowsIssued := old fun a present => (same a).id ▸ sound.rowsIssued a present
    refers := old fun a present => ?_
    tidy := old fun a present => tidy a (sound.tidy a present)
    apart := old fun a first => old fun b second different => ?_ }
  · have refers := sound.refers a present
    refine ⟨?_, ?_⟩
    · rw [(same a).workspace, (same a).experiment]; exact refers.experiment
    · rw [(same a).experiment, (same a).variant]; exact refers.variant
  · rw [(same a).clashes (same b)]
    apply sound.apart a first b second
    rwa [(same a).id, (same b).id] at different

theorem add_row (sound : s.Sound) {row : Assignment} (named : row.id = s.nextId) (refers : s.Refers row)
    (tidy : row.Tidy) (free : s.Free row) :
    Sound { s.draw with assignments := s.assignments ++ [row] } := by
  have drawn := sound.draw
  have fresh : ∀ a ∈ s.assignments, a.id ≠ row.id := by
    intro a present
    rw [named]
    exact (sound.rowsIssued a present).ne_next
  exact { drawn with
    rowIds := distinct_add sound.rowIds fresh
    rowsIssued := all_added drawn.rowsIssued (named ▸ next_issued rfl)
    refers := all_added (fun a present => ⟨(sound.refers a present).experiment, (sound.refers a present).variant⟩)
      ⟨refers.experiment, refers.variant⟩
    tidy := all_added sound.tidy tidy
    apart := all_added
      (fun a first => all_added (sound.apart a first) (fun _ => (Assignment.clashes_symm a row).trans (free a first)))
      (all_added (fun b second _ => free b second) (fun different => absurd rfl different)) }

theorem exposed_same (now : Moment) (a : Assignment) : Same (exposed now a) a :=
  ⟨rfl, rfl, rfl, rfl, rfl, rfl, rfl, rfl⟩

theorem exposed_tidy (now : Moment) {a : Assignment} (tidy : a.Tidy) : (exposed now a).Tidy where
  key := tidy.key
  unseen := by simp [exposed]
  together := by simp [exposed]
  drawn := by simp [exposed]
  unconverted := tidy.unconverted

theorem converted_same (now : Moment) (value : Option Float) (metadata : Json) (a : Assignment) :
    Same (converted now value metadata a) a := ⟨rfl, rfl, rfl, rfl, rfl, rfl, rfl, rfl⟩

theorem converted_tidy (now : Moment) (value : Option Float) (metadata : Json) {a : Assignment} (tidy : a.Tidy) :
    (converted now value metadata a).Tidy where
  key := tidy.key
  unseen := tidy.unseen
  together := tidy.together
  drawn := tidy.drawn
  unconverted := by simp [converted]

theorem new_tidy {id workspace experiment variant key : String} {subject : Subject} {source : Source}
    {exposedAt : Option Moment} {now : Moment} (named : subject.key = some key)
    (seen : source = .auto → exposedAt ≠ none) :
    (Assignment.new id workspace experiment variant subject key source exposedAt now).Tidy where
  key := named
  unseen := by cases exposedAt <;> simp [Assignment.new]
  together := by simp [Assignment.new]
  drawn := by
    intro auto
    cases exposedAt with
    | none => exact absurd rfl (seen auto)
    | some time => simp [Assignment.new]
  unconverted := by simp [Assignment.new]

theorem add_experiment (sound : s.Sound) {workspace : String} {now : Moment} {draft : ExperimentDraft}
    (free : ∀ e ∈ s.experiments, e.workspace = workspace → e.key ≠ draft.key.val) :
    Sound { s.draw with experiments := s.experiments ++ [draft.row s.nextId workspace now] } := by
  have drawn := sound.draw
  have still {owner id : String} (held : s.Holds owner id) :
      Holds { s.draw with experiments := s.experiments ++ [draft.row s.nextId workspace now] } owner id := by
    obtain ⟨e, present, facts⟩ := held
    exact ⟨e, List.mem_append_left _ present, facts⟩
  exact { drawn with
    experimentIds := distinct_add sound.experimentIds fun e present => (sound.experimentsIssued e present).ne_next
    experimentsIssued := all_added drawn.experimentsIssued (next_issued rfl)
    experimentKeys := all_added
      (fun a first => all_added (sound.experimentKeys a first) fun own key => absurd key (free a first own))
      (all_added (fun b second own key => absurd key.symm (free b second own.symm)) fun _ _ => rfl)
    plain := all_added sound.plain rfl
    enough := all_added sound.enough (fun open' => absurd rfl open')
    shares := all_added sound.shares draft.traffic.property
    owned := fun v present => by
      obtain ⟨e, there, same⟩ := sound.owned v present
      exact ⟨e, List.mem_append_left _ there, same⟩
    refers := fun a present =>
      ⟨still (sound.refers a present).experiment, (sound.refers a present).variant⟩ }

theorem put_experiment (sound : s.Sound) {e row : Experiment} (present : e ∈ s.experiments) (id : row.id = e.id)
    (workspace : row.workspace = e.workspace) (key : row.key = e.key) (plain : row.strays = {})
    (share : 0 ≤ row.traffic ∧ row.traffic ≤ 100)
    (enough : row.status ≠ .draft → row.status ≠ .archived → Fault.leastVariants ≤ (s.variantsOf row.id).length) :
    (s.putExperiment row).Sound := by
  have same : ∀ b ∈ s.experiments, (if b.id = row.id then row else b).id = b.id ∧
      (if b.id = row.id then row else b).workspace = b.workspace ∧ (if b.id = row.id then row else b).key = b.key := by
    intro b old
    have column (f : Experiment → String) (still : f row = f e) : f (if b.id = row.id then row else b) = f b :=
      put_same f row sound.experimentIds present id still old
    exact ⟨column (·.id) id, column (·.workspace) workspace, column (·.key) key⟩
  have before : ∀ x ∈ (s.putExperiment row).experiments, ∃ b ∈ s.experiments,
      x.id = b.id ∧ x.workspace = b.workspace ∧ x.key = b.key ∧ (x = row ∨ x = b) := by
    intro x member
    obtain ⟨b, old, rfl⟩ := List.mem_map.mp member
    obtain ⟨ids, workspaces, keys⟩ := same b old
    exact ⟨b, old, ids, workspaces, keys, ite_eq_or_eq _ _ _⟩
  have after : ∀ b ∈ s.experiments, ∃ x ∈ (s.putExperiment row).experiments,
      x.id = b.id ∧ x.workspace = b.workspace := by
    intro b old
    obtain ⟨ids, workspaces, _⟩ := same b old
    exact ⟨_, List.mem_map_of_mem old, ids, workspaces⟩
  exact { sound with
    experimentIds := distinct_change sound.experimentIds fun b old => (same b old).1
    experimentsIssued := by
      intro x member
      obtain ⟨b, old, same, _⟩ := before x member
      exact same ▸ sound.experimentsIssued b old
    experimentKeys := by
      intro x first y second sameWorkspace sameKey
      obtain ⟨b, old, xid, xworkspace, xkey, _⟩ := before x first
      obtain ⟨c, old', yid, yworkspace, ykey, _⟩ := before y second
      rw [xid, yid]
      exact sound.experimentKeys b old c old' (xworkspace ▸ yworkspace ▸ sameWorkspace) (xkey ▸ ykey ▸ sameKey)
    plain := by
      intro x member
      obtain ⟨b, old, _, _, _, rfl | rfl⟩ := before x member
      · exact plain
      · exact sound.plain x old
    enough := by
      intro x member
      obtain ⟨b, old, _, _, _, rfl | rfl⟩ := before x member
      · exact enough
      · exact sound.enough x old
    shares := by
      intro x member
      obtain ⟨b, old, _, _, _, rfl | rfl⟩ := before x member
      · exact share
      · exact sound.shares x old
    owned := by
      intro v there
      obtain ⟨b, old, same⟩ := sound.owned v there
      obtain ⟨x, member, id, _⟩ := after b old
      exact ⟨x, member, id.trans same⟩
    refers := by
      intro a there
      obtain ⟨⟨b, old, same, owner⟩, variant⟩ := sound.refers a there
      obtain ⟨x, member, id, workspace⟩ := after b old
      exact ⟨⟨x, member, id.trans same, workspace.trans owner⟩, variant⟩ }

theorem add_variant (sound : s.Sound) {workspace id : String} {position : Nat} {now : Moment} {draft : VariantDraft}
    (drafts : s.Drafts workspace id) :
    Sound { s.draw with variants := s.variants ++ [draft.row s.nextId id position now] } := by
  have drawn := sound.draw
  exact { drawn with
    enough := by
      intro e present launched live
      have bound := sound.enough e present launched live
      rw [length_variantsOf] at bound ⊢
      rw [List.countP_append]
      exact Nat.le_trans bound (Nat.le_add_right _ _)
    variantIds := distinct_add sound.variantIds fun v present => (sound.variantsIssued v present).ne_next
    variantsIssued := all_added drawn.variantsIssued (next_issued rfl)
    owned := all_added sound.owned (by
      obtain ⟨e, present, same, _⟩ := drafts
      exact ⟨e, present, same⟩)
    weights := all_added sound.weights draft.weight.property
    refers := by
      intro a present
      obtain ⟨experiment, v, there, facts⟩ := sound.refers a present
      exact ⟨experiment, v, List.mem_append_left _ there, facts⟩ }

theorem put_variant (sound : s.Sound) {v row : Variant} (present : v ∈ s.variants) (id : row.id = v.id)
    (experiment : row.experiment = v.experiment) (weight : 1 ≤ row.weight) : (s.putVariant row).Sound := by
  have same : ∀ b ∈ s.variants, (if b.id = row.id then row else b).id = b.id ∧
      (if b.id = row.id then row else b).experiment = b.experiment := by
    intro b old
    refine ⟨put_same (·.id) row sound.variantIds present id id old, ?_⟩
    exact put_same (·.experiment) row sound.variantIds present id experiment old
  have changed {P : Variant → Prop} (each : ∀ b ∈ s.variants, P (if b.id = row.id then row else b)) :
      ∀ x ∈ (s.putVariant row).variants, P x := by
    intro x member
    obtain ⟨b, old, rfl⟩ := List.mem_map.mp member
    exact each b old
  exact { sound with
    enough := by
      intro e there launched live
      have bound := sound.enough e there launched live
      rw [length_variantsOf] at bound ⊢
      refine Nat.le_trans bound (Nat.le_of_eq ?_)
      rw [putVariant, List.countP_map]
      refine List.countP_congr fun b old => ?_
      simp only [Function.comp, (same b old).2]
    variantIds := distinct_change sound.variantIds fun b old => (same b old).1
    variantsIssued := changed fun b old => (same b old).1.symm ▸ sound.variantsIssued b old
    owned := changed fun b old => (same b old).2.symm ▸ sound.owned b old
    weights := changed fun b old => by
      split
      · exact weight
      · exact sound.weights b old
    refers := by
      intro a there
      obtain ⟨held, b, old, facts⟩ := sound.refers a there
      refine ⟨held, _, List.mem_map_of_mem old, ?_⟩
      rwa [(same b old).1, (same b old).2] }

-- A draft loses the variant together with the rows that were pinned to it.
theorem remove_variant (sound : s.Sound) {workspace id : String} {v : Variant} (present : v ∈ s.variants)
    (named : v.id = id) (drafts : s.Drafts workspace v.experiment) :
    Sound { s with
      assignments := s.assignments.filter (·.variant ≠ id)
      variants := s.variants.filter (·.id ≠ id) } := by
  have rows := sound.filter_rows (·.variant ≠ id)
  have old {b : Variant} (kept : b ∈ s.variants.filter (·.id ≠ id)) : b ∈ s.variants := (List.mem_filter.mp kept).1
  exact { rows with
    enough := by
      intro e there launched live
      have bound := sound.enough e there launched live
      rw [length_variantsOf] at bound ⊢
      refine Nat.le_trans bound (Nat.le_of_eq ?_)
      rw [List.countP_filter]
      refine List.countP_congr fun b member => ?_
      obtain ⟨d, drafted, same, _, status⟩ := drafts
      have other : b.experiment = e.id → b.id ≠ id := by
        intro own hit
        have equal := sound.same_variant member present (hit.trans named.symm)
        subst equal
        have one := sound.same_experiment drafted there (same.trans own)
        exact launched (one ▸ status)
      simpa using other
    variantIds := distinct_filter _ sound.variantIds
    variantsIssued := fun b kept => sound.variantsIssued b (old kept)
    owned := fun b kept => sound.owned b (old kept)
    weights := fun b kept => sound.weights b (old kept)
    refers := by
      intro a kept
      obtain ⟨there, survives⟩ := List.mem_filter.mp kept
      obtain ⟨held, b, member, same, own⟩ := sound.refers a there
      exact ⟨held, b, List.mem_filter.mpr ⟨member, by simpa [same] using survives⟩, same, own⟩ }

end Store.Sound

theorem Change.plain_set [DecidableEq α] {stored a : α} : ((Change.set a).plain stored).getD stored = a := by
  by_cases same : stored = a <;> simp [Change.plain, Change.written, same]

theorem VariantChanges.weight_bound {changes : VariantChanges} {now : Moment} {v : Variant} (bound : 1 ≤ v.weight) :
    1 ≤ (changes.revision.applied now v).weight := by
  show 1 ≤ ((Change.ofRequired (·.val) changes.weight).plain v.weight).getD v.weight
  match changes.weight with
  | none | some none => exact bound
  | some (some weight) =>
    have written : ((Change.set weight.val).plain v.weight).getD v.weight = weight.val := Change.plain_set
    exact le_of_le_of_eq weight.property written.symm

theorem ExperimentChanges.share_bound {changes : ExperimentChanges} {now : Moment} {e : Experiment}
    (plain : e.strays = {}) (bound : 0 ≤ e.traffic ∧ e.traffic ≤ 100) :
    0 ≤ (changes.revision.applied now e).traffic ∧ (changes.revision.applied now e).traffic ≤ 100 := by
  have written : (changes.revision.applied now e).traffic =
      ((Change.ofRequired (·.val) changes.traffic).plain e.traffic).getD e.traffic := by
    simp only [ExperimentRevision.applied, ExperimentRevision.newTraffic, plain, Change.replacing]
    rfl
  rw [written]
  match changes.traffic with
  | none | some none => exact bound
  | some (some share) =>
    have put : ((Change.ofRequired (·.val) (some (some share))).plain e.traffic).getD e.traffic = share.val :=
      Change.plain_set
    rw [put]
    exact share.property

theorem ExperimentRevision.applied_plain {r : ExperimentRevision} {now : Moment} {e : Experiment}
    (plain : e.strays = {}) : (r.applied now e).strays = {} := by
  simp [applied, plain]

namespace Plan
variable {s : Store} {now : Moment} {e : Experiment} {r : ExperimentRevision}

-- A draft is left for good, and nothing is started with too few variants.
theorem stage (plan : Plan s now e r) : (r.applied now e).status = e.status ∨
    (r.applied now e).status ≠ .draft ∧ ((r.applied now e).status = .archived ∨
      (e.status ≠ .draft ∧ e.status ≠ .archived) ∨ Fault.leastVariants ≤ (s.variantsOf e.id).length) := by
  cases plan with
  | update changes => exact .inl rfl
  | start allowed enough =>
    refine .inr ?_
    simp [ExperimentRevision.applied, Change.plain_set, enough]
  | pause allowed =>
    refine .inr ?_
    have running : e.status = .running := by simpa [Lifecycle.allows] using allowed
    simp [ExperimentRevision.applied, Change.plain_set, running]
  | conclude winner allowed own =>
    refine .inr ?_
    have open' : e.status = .running ∨ e.status = .paused := by simpa [Lifecycle.allows] using allowed
    rcases open' with running | paused
    · simp [ExperimentRevision.applied, Change.plain_set, running]
    · simp [ExperimentRevision.applied, Change.plain_set, paused]
  | archive =>
    refine .inr ?_
    simp [ExperimentRevision.applied, Change.plain_set]

theorem enough (plan : Plan s now e r)
    (before : e.status ≠ .draft → e.status ≠ .archived → Fault.leastVariants ≤ (s.variantsOf e.id).length)
    (launched : (r.applied now e).status ≠ .draft) (live : (r.applied now e).status ≠ .archived) :
    Fault.leastVariants ≤ (s.variantsOf e.id).length := by
  rcases plan.stage with same | ⟨_, archived | ⟨launched', live'⟩ | bound⟩
  · exact before (same ▸ launched) (same ▸ live)
  · exact absurd archived live
  · exact before launched' live'
  · exact bound

theorem share (plan : Plan s now e r) (plain : e.strays = {}) (bound : 0 ≤ e.traffic ∧ e.traffic ≤ 100) :
    0 ≤ (r.applied now e).traffic ∧ (r.applied now e).traffic ≤ 100 := by
  have kept {r : ExperimentRevision} (keeps : r.traffic = .keep) : (r.applied now e).traffic = e.traffic := by
    simp [ExperimentRevision.applied, ExperimentRevision.newTraffic, keeps, plain, Change.replacing, Change.plain,
      Change.written]
  cases plan with
  | update changes => exact ExperimentChanges.share_bound plain bound
  | start _ _ | pause _ | conclude _ _ _ | archive =>
    rw [kept rfl]
    exact bound

theorem moves (plan : Plan s now e r) : (r.applied now e).status = e.status ∨
    Lifecycle.Moves e.status (r.applied now e).status := by
  have moved {action : Action} {r : ExperimentRevision} (allowed : Lifecycle.allows action e.status = true)
      (set : r.status = .set (Lifecycle.target action)) : Lifecycle.Moves e.status (r.applied now e).status := by
    refine Lifecycle.next_exact.mp ⟨action, ?_⟩
    simp [Lifecycle.next?, allowed, ExperimentRevision.applied, set, Change.plain_set]
  cases plan with
  | update changes => exact .inl rfl
  | start allowed enough => exact .inr (moved allowed rfl)
  | pause allowed => exact .inr (moved allowed rfl)
  | conclude winner allowed own => exact .inr (moved allowed rfl)
  | archive =>
    have allowed : Lifecycle.allows .archive e.status = true := rfl
    exact .inr (moved allowed rfl)

end Plan

namespace Act

theorem apply_sound {workspace : String} {now : Moment} {s : Store} {act : Act} (sound : s.Sound)
    (allowed : act.Allowed workspace now s) : (act.apply workspace now s).Sound := by
  cases act with
  | lose => exact sound.draw
  | create draft => exact sound.add_experiment allowed
  | revise e r =>
    obtain ⟨present, _, plan⟩ := allowed
    have plain := sound.plain e present
    exact sound.put_experiment present rfl rfl rfl (ExperimentRevision.applied_plain plain)
      (plan.share plain (sound.shares e present)) (plan.enough (sound.enough e present))
  | addVariant id draft => exact sound.add_variant allowed.1
  | reviseVariant v changes =>
    exact sound.put_variant allowed.1 rfl rfl (VariantChanges.weight_bound (sound.weights v allowed.1))
  | removeVariant id =>
    obtain ⟨v, present, named, drafts⟩ := allowed
    exact sound.remove_variant present named drafts
  | draw id variant subject key =>
    obtain ⟨⟨e, present, named, owner, _⟩, owns, kept, free⟩ := allowed
    exact sound.add_row rfl ⟨⟨e, present, named, owner⟩, owns⟩ (Store.Sound.new_tidy kept (by simp)) free
  | pin id variant subject key =>
    obtain ⟨holds, owns, kept, free⟩ := allowed
    have cleared := sound.filter_rows fun a => !(a.experiment = id && a.standsFor subject)
    exact cleared.add_row rfl ⟨holds, owns⟩ (Store.Sound.new_tidy kept (by simp)) free
  | expose row =>
    refine sound.change_rows _ (fun a => ?_) (fun a tidy => ?_)
    · split
      · exact Store.Sound.exposed_same now a
      · exact .refl a
    · split
      · exact Store.Sound.exposed_tidy now tidy
      · exact tidy
  | convert row value metadata =>
    refine sound.change_rows _ (fun a => ?_) (fun a tidy => ?_)
    · split
      · exact Store.Sound.converted_same now value metadata a
      · exact .refl a
    · split
      · exact Store.Sound.converted_tidy now value metadata tidy
      · exact tidy

theorem Commits.sound {may : Act → Prop} {workspace : String} {now : Moment} {s next : Store}
    (committed : Commits may workspace now s next) (sound : s.Sound) : next.Sound := by
  induction committed with
  | nothing => exact sound
  | step _ _ allowed ih => exact apply_sound ih allowed

-- What every act keeps that a request can come to, the request keeps.
theorem Commits.carries {P : Store → Prop} {may : Act → Prop} {workspace : String} {now : Moment} {s next : Store}
    (committed : Commits may workspace now s next) (sound : s.Sound)
    (kept : ∀ act middle, middle.Sound → may act → act.Allowed workspace now middle → P middle →
      P (act.apply workspace now middle)) (start : P s) : P next := by
  induction committed with
  | nothing => exact start
  | step earlier permitted allowed ih => exact kept _ _ (earlier.sound sound) permitted allowed ih

end Act
end Cohort
