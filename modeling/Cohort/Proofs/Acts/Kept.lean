import Cohort.Proofs.Acts.Sound

-- What no act of any workspace takes away: an experiment, its place in a workspace, and the variants it was
-- launched with. A request that stands between two of its turns relies on this and on nothing else.
namespace Cohort

theorem Lifecycle.Moves.launched {before after : Status} (moves : Moves before after) : after ≠ .draft := by
  cases moves <;> simp

namespace Experiment

-- The same experiment, at the same stage or one action later.
structure Follows (x e : Experiment) : Prop where
  id : x.id = e.id
  workspace : x.workspace = e.workspace
  key : x.key = e.key
  stage : x.status = e.status ∨ Lifecycle.Moves e.status x.status

theorem Follows.refl (e : Experiment) : e.Follows e := ⟨rfl, rfl, rfl, .inl rfl⟩

theorem Follows.launched {x e : Experiment} (follows : x.Follows e) (launched : e.status ≠ .draft) :
    x.status ≠ .draft := by
  rcases follows.stage with same | moved
  · exact same ▸ launched
  · exact moved.launched

end Experiment

structure Variant.Follows (w v : Variant) : Prop where
  id : w.id = v.id
  experiment : w.experiment = v.experiment
  key : w.key = v.key

theorem Variant.Follows.refl (v : Variant) : v.Follows v := ⟨rfl, rfl, rfl⟩

theorem Variant.Follows.trans {u w v : Variant} (later : u.Follows w) (first : w.Follows v) : u.Follows v :=
  ⟨later.id.trans first.id, later.experiment.trans first.experiment, later.key.trans first.key⟩

namespace Store

theorem Launched.holds {s : Store} {workspace id : String} (launched : s.Launched workspace id) :
    s.Holds workspace id := by
  obtain ⟨e, present, named, owner, _⟩ := launched
  exact ⟨e, present, named, owner⟩

theorem Sound.not_drafts {s : Store} (sound : s.Sound) {owner workspace id : String} (launched : s.Launched owner id) :
    ¬ s.Drafts workspace id := by
  rintro ⟨d, drafted, named, _, draft⟩
  obtain ⟨e, present, same, _, stage⟩ := launched
  rw [sound.same_experiment present drafted (same.trans named.symm)] at stage
  exact stage draft

structure Kept (s next : Store) : Prop where
  drawn : s.drawn ≤ next.drawn
  variants : ∀ w ∈ next.variants, s.Issued w.id → ∃ v ∈ s.variants, w.Follows v
  holds : ∀ workspace id, s.Holds workspace id → next.Holds workspace id
  launched : ∀ workspace id, s.Launched workspace id → next.Launched workspace id
  owns : ∀ workspace id variant, s.Launched workspace id → s.Owns id variant → next.Owns id variant
  within : ∀ workspace row, s.Within workspace row → next.Within workspace row

namespace Kept

theorem refl (s : Store) : s.Kept s :=
  ⟨Nat.le_refl _, fun w there _ => ⟨w, there, .refl w⟩, fun _ _ held => held, fun _ _ held => held,
    fun _ _ _ _ held => held, fun _ _ held => held⟩

theorem trans {s middle last : Store} (first : s.Kept middle) (second : middle.Kept last) : s.Kept last where
  drawn := Nat.le_trans first.drawn second.drawn
  variants := by
    intro u there issued
    obtain ⟨w, between, later⟩ := second.variants u there (issued.mono first.drawn)
    obtain ⟨v, present, earlier⟩ := first.variants w between (later.id ▸ issued)
    exact ⟨v, present, later.trans earlier⟩
  holds := fun workspace id held => second.holds workspace id (first.holds workspace id held)
  launched := fun workspace id held => second.launched workspace id (first.launched workspace id held)
  owns := fun workspace id variant launched held =>
    second.owns workspace id variant (first.launched workspace id launched)
      (first.owns workspace id variant launched held)
  within := fun workspace row held => second.within workspace row (first.within workspace row held)

end Kept
end Store

namespace Act
variable {workspace : String} {now : Moment} {s : Store} {act : Act}

theorem drawn_grows (workspace : String) (now : Moment) (s : Store) (act : Act) :
    s.drawn ≤ (act.apply workspace now s).drawn := by
  cases act <;> simp [apply, Store.draw, Store.putExperiment, Store.putVariant]

-- An experiment is only ever replaced by itself, at the same stage or one action later.
theorem experiment_stays (sound : s.Sound) (allowed : act.Allowed workspace now s) {e : Experiment}
    (present : e ∈ s.experiments) : ∃ x ∈ (act.apply workspace now s).experiments, x.Follows e := by
  cases act with
  | create draft => exact ⟨e, List.mem_append_left _ present, .refl e⟩
  | revise old r =>
    obtain ⟨there, _, plan⟩ := allowed
    refine ⟨_, List.mem_map_of_mem present, ?_⟩
    by_cases hit : e.id = (r.applied now old).id
    · have same : e = old := sound.same_experiment present there hit
      subst same
      rw [if_pos hit]
      exact ⟨rfl, rfl, rfl, plan.moves⟩
    · rw [if_neg hit]
      exact .refl e
  | lose | addVariant _ _ | reviseVariant _ _ | removeVariant _ | draw _ _ _ _ | pin _ _ _ _ | expose _
    | convert _ _ _ => exact ⟨e, present, .refl e⟩

theorem experiment_origin (sound : s.Sound) (allowed : act.Allowed workspace now s) {x : Experiment}
    (present : x ∈ (act.apply workspace now s).experiments) :
    (∃ e ∈ s.experiments, x.Follows e) ∨ x.id = s.nextId ∧ x.status = .draft := by
  cases act with
  | create draft =>
    rcases List.mem_append.mp present with old | new
    · exact .inl ⟨x, old, .refl x⟩
    · rw [List.mem_singleton.mp new]
      exact .inr ⟨rfl, rfl⟩
  | revise e r =>
    obtain ⟨there, _, plan⟩ := allowed
    obtain ⟨b, old, rfl⟩ := List.mem_map.mp present
    refine .inl ⟨b, old, ?_⟩
    by_cases hit : b.id = (r.applied now e).id
    · have same : b = e := sound.same_experiment old there hit
      subst same
      rw [if_pos hit]
      exact ⟨rfl, rfl, rfl, plan.moves⟩
    · rw [if_neg hit]
      exact .refl b
  | lose | addVariant _ _ | reviseVariant _ _ | removeVariant _ | draw _ _ _ _ | pin _ _ _ _ | expose _
    | convert _ _ _ => exact .inl ⟨x, present, .refl x⟩

theorem variant_stays (sound : s.Sound) (allowed : act.Allowed workspace now s) {id variant : String}
    (owns : s.Owns id variant) (spared : act ≠ .removeVariant variant) :
    (act.apply workspace now s).Owns id variant := by
  obtain ⟨v, present, named, own⟩ := owns
  cases act with
  | addVariant _ draft => exact ⟨v, List.mem_append_left _ present, named, own⟩
  | reviseVariant old changes =>
    refine ⟨_, List.mem_map_of_mem present, ?_⟩
    have same (f : Variant → String) (still : f (changes.revision.applied now old) = f old) :=
      Store.put_same f (changes.revision.applied now old) sound.variantIds allowed.1 rfl still present
    exact ⟨(same (·.id) rfl).trans named, (same (·.experiment) rfl).trans own⟩
  | removeVariant removed =>
    have other : v.id ≠ removed := fun hit => spared (by rw [← named, hit])
    exact ⟨v, List.mem_filter.mpr ⟨present, by simpa using other⟩, named, own⟩
  | lose | create _ | revise _ _ | draw _ _ _ _ | pin _ _ _ _ | expose _ | convert _ _ _ =>
    exact ⟨v, present, named, own⟩

-- Only drafts lose variants.
theorem launched_keeps (sound : s.Sound) (allowed : act.Allowed workspace now s) {owner id : String}
    (launched : s.Launched owner id) {variant : String} (owns : s.Owns id variant) :
    (act.apply workspace now s).Owns id variant := by
  refine variant_stays sound allowed owns ?_
  rintro rfl
  obtain ⟨v, present, named, own⟩ := owns
  obtain ⟨w, there, same, drafts⟩ := allowed
  obtain rfl : w = v := sound.same_variant there present (same.trans named.symm)
  exact sound.not_drafts launched (own ▸ drafts)

-- A variant that is gone does not come back.
theorem variant_origin (sound : s.Sound) (allowed : act.Allowed workspace now s) {w : Variant}
    (present : w ∈ (act.apply workspace now s).variants) : (∃ v ∈ s.variants, w.Follows v) ∨ w.id = s.nextId := by
  cases act with
  | addVariant id draft =>
    rcases List.mem_append.mp present with old | new
    · exact .inl ⟨w, old, .refl w⟩
    · exact .inr (List.mem_singleton.mp new ▸ rfl)
  | reviseVariant old changes =>
    obtain ⟨v, there, rfl⟩ := List.mem_map.mp present
    have same (f : Variant → String) (still : f (changes.revision.applied now old) = f old) :=
      Store.put_same f (changes.revision.applied now old) sound.variantIds allowed.1 rfl still there
    exact .inl ⟨v, there, same (·.id) rfl, same (·.experiment) rfl, same (·.key) rfl⟩
  | removeVariant id => exact .inl ⟨w, (List.mem_filter.mp present).1, .refl w⟩
  | lose | create _ | revise _ _ | draw _ _ _ _ | pin _ _ _ _ | expose _ | convert _ _ _ =>
    exact .inl ⟨w, present, .refl w⟩

inductive Adds (workspace : String) (now : Moment) (s : Store) : Act → Assignment → Prop where
  | drawn (id variant : String) (subject : Subject) (key : String) :
      Adds workspace now s (.draw id variant subject key) (s.drawnRow workspace now id variant subject key)
  | pinned (id variant : String) (subject : Subject) (key : String) :
      Adds workspace now s (.pin id variant subject key) (s.pinnedRow workspace now id variant subject key)

theorem Adds.fresh {a : Assignment} (adds : act.Adds workspace now s a) : a.id = s.nextId ∧ a.createdAt = now := by
  cases adds with
  | drawn | pinned => exact ⟨rfl, rfl⟩

-- What the act makes of a row that it leaves in its table.
inductive Becomes (now : Moment) : Act → Assignment → Assignment → Prop where
  | same (act : Act) (a : Assignment) : Becomes now act a a
  | exposed (a : Assignment) : Becomes now (.expose a.id) a (Store.exposed now a)
  | converted (a : Assignment) (value : Option Float) (metadata : Json) (waits : a.convertedAt = none) :
      Becomes now (.convert a.id value metadata) a (Store.converted now value metadata a)

theorem Becomes.exposing (now : Moment) (row : String) (a : Assignment) :
    Becomes now (.expose row) a (if a.id = row then Store.exposed now a else a) := by
  by_cases hit : a.id = row
  · subst hit
    rw [if_pos rfl]
    exact .exposed a
  · rw [if_neg hit]
    exact .same _ a

theorem Becomes.converting (now : Moment) (row : String) (value : Option Float) (metadata : Json) (a : Assignment) :
    Becomes now (.convert row value metadata) a
      (if Store.awaits row a then Store.converted now value metadata a else a) := by
  by_cases waits : Store.awaits row a = true
  · rw [if_pos waits]
    simp only [Store.awaits, Bool.and_eq_true, decide_eq_true_eq, Option.isNone_iff_eq_none] at waits
    obtain ⟨rfl, none⟩ := waits
    exact .converted a value metadata none
  · rw [if_neg waits]
    exact .same _ a

theorem row_becomes {a : Assignment} (present : a ∈ (act.apply workspace now s).assignments) :
    (∃ b ∈ s.assignments, act.Becomes now b a) ∨ act.Adds workspace now s a := by
  cases act with
  | lose | create _ | revise _ _ | addVariant _ _ | reviseVariant _ _ => exact .inl ⟨a, present, .same _ a⟩
  | removeVariant id => exact .inl ⟨a, (List.mem_filter.mp present).1, .same _ a⟩
  | draw id variant subject key =>
    rcases List.mem_append.mp present with old | new
    · exact .inl ⟨a, old, .same _ a⟩
    · exact .inr (List.mem_singleton.mp new ▸ .drawn id variant subject key)
  | pin id variant subject key =>
    rcases List.mem_append.mp present with old | new
    · exact .inl ⟨a, (List.mem_filter.mp old).1, .same _ a⟩
    · exact .inr (List.mem_singleton.mp new ▸ .pinned id variant subject key)
  | expose row =>
    obtain ⟨b, old, rfl⟩ := List.mem_map.mp present
    exact .inl ⟨b, old, .exposing now row b⟩
  | convert row value metadata =>
    obtain ⟨b, old, rfl⟩ := List.mem_map.mp present
    exact .inl ⟨b, old, .converting now row value metadata b⟩

theorem Becomes.alike {a b : Assignment} (becomes : act.Becomes now b a) : Store.Sound.Same a b := by
  cases becomes with
  | same => exact .refl a
  | exposed => exact Store.Sound.exposed_same now b
  | converted => exact Store.Sound.converted_same now _ _ b

theorem row_origin {a : Assignment} (present : a ∈ (act.apply workspace now s).assignments) :
    (∃ b ∈ s.assignments, Store.Sound.Same a b) ∨ act.Adds workspace now s a := by
  rcases row_becomes present with ⟨b, old, becomes⟩ | adds
  · exact .inl ⟨b, old, becomes.alike⟩
  · exact .inr adds

-- Rows go with their variant, and where another is pinned for a subject that they stand for.
def Removes (row : Assignment) : Act → Prop
  | .removeVariant id => row.variant = id
  | .pin id _ subject _ => row.experiment = id ∧ row.standsFor subject = true
  | _ => False

theorem row_continues {row : Assignment} (present : row ∈ s.assignments) (spared : ¬ act.Removes row) :
    ∃ a ∈ (act.apply workspace now s).assignments, act.Becomes now row a := by
  cases act with
  | lose | create _ | revise _ _ | addVariant _ _ | reviseVariant _ _ => exact ⟨row, present, .same _ row⟩
  | removeVariant id =>
    have kept : row.variant ≠ id := spared
    exact ⟨row, List.mem_filter.mpr ⟨present, by simpa using kept⟩, .same _ row⟩
  | draw id variant subject key => exact ⟨row, List.mem_append_left _ present, .same _ row⟩
  | pin id variant subject key =>
    have kept : ¬ (row.experiment = id ∧ row.standsFor subject = true) := spared
    have left : row ∈ (s.without id subject).assignments :=
      List.mem_filter.mpr ⟨present, by simpa [Classical.or_iff_not_imp_left] using kept⟩
    exact ⟨row, List.mem_append_left _ left, .same _ row⟩
  | expose id => exact ⟨_, List.mem_map_of_mem present, .exposing now id row⟩
  | convert id value metadata => exact ⟨_, List.mem_map_of_mem present, .converting now id value metadata row⟩

theorem row_stays {row : Assignment} (present : row ∈ s.assignments) (spared : ¬ act.Removes row) :
    ∃ a ∈ (act.apply workspace now s).assignments, Store.Sound.Same a row := by
  obtain ⟨a, there, becomes⟩ := row_continues present spared
  exact ⟨a, there, becomes.alike⟩

-- What is taken out is gone, since its id is not given out again.
theorem row_goes (sound : s.Sound) {row : Assignment} (present : row ∈ s.assignments) (removed : act.Removes row) :
    ∀ a ∈ (act.apply workspace now s).assignments, a.id ≠ row.id := by
  intro a there same
  cases act with
  | removeVariant id =>
    obtain ⟨old, other⟩ := List.mem_filter.mp there
    obtain rfl : a = row := sound.same_row old present same
    have hit : a.variant = id := removed
    simp [hit] at other
  | pin id variant subject key =>
    rcases List.mem_append.mp there with left | new
    · obtain ⟨old, other⟩ := List.mem_filter.mp left
      obtain rfl : a = row := sound.same_row old present same
      have hit : a.experiment = id ∧ a.standsFor subject = true := removed
      simp [hit] at other
    · rw [List.mem_singleton.mp new] at same
      exact (sound.rowsIssued row present).ne_next same.symm
  | lose | create _ | revise _ _ | addVariant _ _ | reviseVariant _ _ | draw _ _ _ _ | expose _ | convert _ _ _ =>
    exact removed

def OnRows : Act → Prop
  | .lose | .draw _ _ _ _ | .pin _ _ _ _ | .expose _ | .convert _ _ _ => True
  | _ => False

theorem OnRows.catalogue (onRows : act.OnRows) (workspace : String) (now : Moment) (s : Store) :
    (act.apply workspace now s).experiments = s.experiments ∧ (act.apply workspace now s).variants = s.variants := by
  cases act with
  | lose | draw _ _ _ _ | pin _ _ _ _ | expose _ | convert _ _ _ => exact ⟨rfl, rfl⟩
  | create _ | revise _ _ | addVariant _ _ | reviseVariant _ _ | removeVariant _ => exact onRows.elim

theorem apply_kept (sound : s.Sound) (allowed : act.Allowed workspace now s) :
    s.Kept (act.apply workspace now s) := by
  have holds : ∀ owner id, s.Holds owner id → (act.apply workspace now s).Holds owner id := by
    rintro owner id ⟨e, present, named, own⟩
    obtain ⟨x, there, follows⟩ := experiment_stays sound allowed present
    exact ⟨x, there, follows.id.trans named, follows.workspace.trans own⟩
  refine ⟨drawn_grows workspace now s act, ?_, holds, ?_, ?_, ?_⟩
  · intro w present issued
    rcases variant_origin sound allowed present with old | fresh
    · exact old
    · exact absurd fresh issued.ne_next
  · rintro owner id ⟨e, present, named, own, stage⟩
    obtain ⟨x, there, follows⟩ := experiment_stays sound allowed present
    exact ⟨x, there, follows.id.trans named, follows.workspace.trans own, follows.launched stage⟩
  · intro owner id variant launched owns
    exact launched_keeps sound allowed launched owns
  · rintro owner row ⟨issued, ours⟩
    refine ⟨issued.mono (drawn_grows workspace now s act), ?_⟩
    intro a present hit
    rcases row_origin present with ⟨b, old, same⟩ | adds
    · rw [same.experiment]
      exact holds owner _ (ours b old (same.id.symm.trans hit))
    · exact absurd (hit.symm.trans adds.fresh.1) issued.ne_next

theorem Commits.kept {may : Act → Prop} {next : Store} (committed : Commits may workspace now s next)
    (sound : s.Sound) : s.Kept next := by
  refine committed.carries sound (fun act middle sound _ allowed kept => ?_) (.refl s)
  exact kept.trans (apply_kept sound allowed)

end Act

theorem Visit.Permits.onRows {subject : Subject} {act : Act} (permitted : Permits subject act) : act.OnRows := by
  cases permitted <;> trivial

theorem Conversion.Permits.onRows {report : ConversionReport} {act : Act} (permitted : Permits report act) :
    act.OnRows := by
  cases permitted
  trivial

end Cohort
