import Cohort.Proofs.Acts.Turns

-- What each turn of a request for a decision does in a sound store: nothing fails there but an insert that meets
-- a row, and what comes of that depends on whether the row stands for the subject.
namespace Cohort

namespace Bucket

theorem total_positive {weight : α → Int} {items : List α} (some' : items ≠ [])
    (positive : ∀ item ∈ items, 1 ≤ weight item) : 1 ≤ total weight items := by
  have least : ∀ rest : List α, (∀ item ∈ rest, 1 ≤ weight item) → 0 ≤ total weight rest := by
    intro rest each
    induction rest with
    | nil => simp [total]
    | cons item rest ih =>
      have first := each item List.mem_cons_self
      have others := ih fun other member => each other (List.mem_cons_of_mem _ member)
      simp only [total, List.map_cons, List.foldr_cons] at others ⊢
      omega
  cases items with
  | nil => exact absurd rfl some'
  | cons item rest =>
    have first := positive item List.mem_cons_self
    have others := least rest fun other member => positive other (List.mem_cons_of_mem _ member)
    simp only [total, List.map_cons, List.foldr_cons] at others ⊢
    omega

theorem select_ok {weight : α → Int} {items : List α} (some' : items ≠ [])
    (positive : ∀ item ∈ items, 1 ≤ weight item) (key subject : String) :
    ∃ item ∈ items, select weight items key subject = .ok item := by
  have filled := total_positive some' positive
  have picked : ∃ item, select weight items key subject = .ok item := by
    unfold select pick
    cases last : items.getLast? with
    | none => exact absurd (List.getLast?_eq_none_iff.mp last) some'
    | some final => exact ⟨_, if_neg (by omega)⟩
  obtain ⟨item, chosen⟩ := picked
  exact ⟨item, pick_mem chosen, chosen⟩

end Bucket

namespace Store
variable {s : Store} {e : Experiment} {id : String}

theorem view_names : ((s.view e).variant? id).isSome = true ↔ s.Owns e.id id := by
  constructor
  · intro found
    obtain ⟨v, found⟩ := Option.isSome_iff_exists.mp found
    obtain ⟨there, own, named⟩ := view_variant?_some found
    exact ⟨v, there, named, own⟩
  · rintro ⟨v, there, named, own⟩
    exact List.find?_isSome.mpr ⟨v, mem_variantsOf.mpr ⟨there, own⟩, decide_eq_true named⟩

theorem view_variant?_none (missing : ¬ s.Owns e.id id) : (s.view e).variant? id = none := by
  rwa [← view_names, Bool.not_eq_true, Option.isSome_eq_false_iff, Option.isNone_iff_eq_none] at missing

end Store

namespace Store.Sound
variable {s : Store}

theorem by_key (sound : s.Sound) {e : Experiment} (present : e ∈ s.experiments) :
    s.experimentByKey? e.workspace e.key = some e := by
  cases found : s.experimentByKey? e.workspace e.key with
  | none => exact absurd rfl (experimentByKey?_none found e present rfl)
  | some other =>
    obtain ⟨there, workspace, key⟩ := experimentByKey?_some found
    rw [sound.same_key there present workspace key]

theorem by_id (sound : s.Sound) {v : Variant} (present : v ∈ s.variants) : s.variant? v.id = some v := by
  cases found : s.variant? v.id with
  | none =>
    have missing := List.find?_eq_none.mp found v present
    simp at missing
  | some other =>
    obtain ⟨there, same⟩ := variant?_some found
    rw [sound.same_variant there present same]

theorem by_place (sound : s.Sound) {e : Experiment} (present : e ∈ s.experiments) :
    s.experiment? e.workspace e.id = some e := by
  cases found : s.experiment? e.workspace e.id with
  | none =>
    have missing := List.find?_eq_none.mp found e present
    simp at missing
  | some other =>
    obtain ⟨there, id, _⟩ := experiment?_some found
    rw [sound.same_experiment there present id]

theorem viewed (sound : s.Sound) {e : Experiment} (present : e ∈ s.experiments) :
    Catalogue.get s e.workspace e.id = .ok (s.view e) := by
  simp [Catalogue.get, view?, sound.by_place present]

theorem own_variant (sound : s.Sound) {e : Experiment} {v : Variant} (present : v ∈ s.variants)
    (own : v.experiment = e.id) : (s.view e).variant? v.id = some v := by
  cases found : (s.view e).variant? v.id with
  | none =>
    have missing := List.find?_eq_none.mp found v (mem_variantsOf.mpr ⟨present, own⟩)
    simp at missing
  | some other =>
    obtain ⟨there, _, same⟩ := view_variant?_some found
    rw [sound.same_variant there present same]

theorem some_variant (sound : s.Sound) {e : Experiment} (present : e ∈ s.experiments) (running : e.status = .running) :
    s.variantsOf e.id ≠ [] := by
  intro none
  have enough := sound.enough e present (by simp [running]) (by simp [running])
  simp [none, Fault.leastVariants] at enough

theorem list_distinct (sound : s.Sound) (workspace : String) (f : Filter) :
    ((s.list workspace f).map (·.id)).Nodup :=
  (Order.perm_arrange.map _).nodup_iff.mpr (distinct_filter _ sound.experimentIds)

end Store.Sound

theorem Store.mem_running {s : Store} {workspace : String} {e : Experiment} :
    e ∈ s.list workspace ⟨some .running, none, false⟩ ↔
      e ∈ s.experiments ∧ e.workspace = workspace ∧ e.status = .running := by
  simp [mem_list, Filter.admits]

structure Experiment.Takes (e : Experiment) (subject : Subject) (attributes : Option Json.Members) : Prop where
  running : e.status = .running
  targeted : e.admits attributes = .ok true
  letIn : ∃ id, subject.bucketId = some id ∧ e.letsIn id = .ok true

theorem Experiment.Takes.named {e : Experiment} {subject : Subject} {attributes : Option Json.Members}
    (takes : e.Takes subject attributes) : subject.hasIdentifier = true := by
  obtain ⟨id, bucket, _⟩ := takes.letIn
  exact Subject.bucketId_some.mp ⟨id, bucket⟩

-- Without rules and with full traffic a running experiment takes everyone.
theorem Experiment.takes_everyone {e : Experiment} (plain : e.strays = {}) (running : e.status = .running)
    (full : 100 ≤ e.traffic) (open' : e.targeting = []) {subject : Subject} (named : subject.hasIdentifier = true)
    (attributes : Option Json.Members) : e.Takes subject attributes := by
  obtain ⟨id, bucket⟩ := Subject.bucketId_some.mpr named
  refine ⟨running, ?_, id, bucket, ?_⟩
  · simp [admits, plain, open', Targeting.admits]
  · simp [letsIn, plain, Bucket.inTraffic, full]

namespace Visit
variable {s : Store} {visit : Visit} {e : Experiment}

theorem enter_found (takes : e.Takes visit.subject visit.attributes) {row : Assignment}
    (found : s.find? e.id visit.subject = some row) : visit.enter s e = .exposing e row := by
  obtain ⟨id, bucket, letIn⟩ := takes.letIn
  unfold enter
  rw [if_neg (by simp [takes.running]), takes.targeted, bucket]
  simp only [letIn, found]

theorem enter_missing (sound : s.Sound) (present : e ∈ s.experiments) (takes : e.Takes visit.subject visit.attributes)
    (missing : s.find? e.id visit.subject = none) :
    ∃ v ∈ s.variants, v.experiment = e.id ∧ visit.enter s e = .inserting e v := by
  obtain ⟨id, bucket, letIn⟩ := takes.letIn
  have weights : ∀ v ∈ s.variantsOf e.id, 1 ≤ v.weight := by
    intro v member
    exact sound.weights v (Store.mem_variantsOf.mp member).1
  obtain ⟨v, member, selected⟩ :=
    Bucket.select_ok (sound.some_variant present takes.running) weights e.key id
  obtain ⟨there, own⟩ := Store.mem_variantsOf.mp member
  refine ⟨v, there, own, ?_⟩
  unfold enter
  rw [if_neg (by simp [takes.running]), takes.targeted, bucket]
  simp only [letIn, missing, selected]

theorem enter_refused (sound : s.Sound) (present : e ∈ s.experiments) (named : visit.subject.hasIdentifier = true)
    (refused : ¬ e.Takes visit.subject visit.attributes) : ∃ decision, visit.enter s e = .settled (.ok decision) := by
  have plain := sound.plain e present
  obtain ⟨id, bucket⟩ := Subject.bucketId_some.mpr named
  have letsIn : e.letsIn id = .ok (Bucket.inTraffic e.key e.traffic id) := by simp [Experiment.letsIn, plain]
  unfold enter
  split
  · exact ⟨_, rfl⟩
  · rename_i stage
    have running : e.status = .running := by simpa using stage
    cases targeted : e.admits visit.attributes with
    | error fault => simp [Experiment.admits, plain] at targeted
    | ok admitted =>
      rw [bucket]
      cases admitted with
      | false => exact ⟨_, rfl⟩
      | true =>
        simp only [letsIn]
        cases inside : Bucket.inTraffic e.key e.traffic id with
        | false => exact ⟨_, rfl⟩
        | true => exact absurd ⟨running, targeted, id, bucket, inside ▸ letsIn⟩ refused

theorem look_known (sound : s.Sound) (present : e ∈ s.experiments) (own : e.workspace = visit.workspace) :
    visit.look e.key s = visit.enter s e := by
  unfold look
  rw [← own, sound.by_key present]

def row (visit : Visit) (s : Store) (e : Experiment) (v : Variant) (key : String) : Assignment :=
  s.drawnRow visit.workspace visit.now e.id v.id visit.subject key

theorem insert_free {v : Variant} {key : String} (writable : s.writable = true) (kept : visit.subject.key = some key)
    (free : s.Free (visit.row s e v key)) : visit.insert e v s =
      (.settled (.ok (some (Decision.of e v s.nextId true))),
        { s.draw with assignments := s.assignments ++ [visit.row s e v key] }) := by
  have added : s.addDrawn visit.now visit.workspace e.id v.id visit.subject = _ :=
    Store.addSubject_free writable kept free
  unfold insert
  rw [added]
  rfl

theorem insert_taken {v : Variant} {key : String} (writable : s.writable = true) (kept : visit.subject.key = some key)
    {other : Assignment} (present : other ∈ s.assignments) (clash : (visit.row s e v key).clashes other = true) :
    ∃ violation, visit.insert e v s = (.refetching e violation, s.draw) := by
  obtain ⟨violation, added⟩ := Store.addSubject_taken writable kept present clash
  refine ⟨violation, ?_⟩
  unfold insert
  rw [Store.addDrawn, added]

theorem expose_shown (sound : s.Sound) {v : Variant} (present : v ∈ s.variants) {row : Assignment}
    (drawn : row.variant = v.id) : visit.expose e row s =
      (.settled (.ok (some (Decision.of e v row.id false))),
        { s with
          assignments := s.assignments.map fun a => if a.id = row.id then Store.exposed visit.now a else a }) := by
  unfold expose Store.recordExposure shown
  simp only [sound.writable, Bool.not_true, Bool.false_eq_true, if_false]
  have found := sound.by_id present
  simp only [Store.variant?] at found ⊢
  rw [drawn, found]

end Visit

theorem Decision.assign_looks (visit : Visit) (key : String) (s : Store) :
    assign visit key s = visit.settle (visit.look key s) s := Visit.settle_advance rfl

end Cohort
