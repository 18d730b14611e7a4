import Cohort.Proofs.Showings

-- What fails leaves every row as it was. A refused write takes nothing with it, and a request for one decision fails
-- before it has written anything. Rounds are the exception: what was decided before the fault stays stored, except
-- where the fault is that there is no identifier, for nothing can have been decided then.
namespace Cohort

-- All rows are as before, and one id at most is lost.
structure Store.Untouched (s next : Store) : Prop where
  experiments : next.experiments = s.experiments
  variants : next.variants = s.variants
  assignments : next.assignments = s.assignments
  writable : next.writable = s.writable
  drawn : next.drawn = s.drawn ∨ next.drawn = s.drawn + 1

namespace Store.Untouched

theorem refl (s : Store) : s.Untouched s := ⟨rfl, rfl, rfl, rfl, .inl rfl⟩

theorem draw (s : Store) : s.Untouched s.draw := ⟨rfl, rfl, rfl, rfl, .inr rfl⟩

end Store.Untouched

def Outcome.Spares (o : Outcome α) (s : Store) : Prop := ∀ fault, o.1 = .error fault → s.Untouched o.2

namespace Outcome
variable {s : Store} {o : Outcome α}

theorem spares_kept (answer : Except Fault α) (s : Store) : Spares (answer, s) s := fun _ _ => .refl s

theorem spares_drawn (answer : Except Fault α) (s : Store) : Spares (answer, s.draw) s := fun _ _ => .draw s

theorem spares_answered (a : α) (next s : Store) : Spares (.ok a, next) s := nofun

theorem spares_attempt (work : Except Fault (α × Store)) : (attempt s work).Spares s := by
  intro fault failed
  rw [attempt_store_of_error failed]
  exact .refl s

def kind? (o : Outcome α) : Option Fault.Kind :=
  match o.1 with
  | .error fault => some fault.kind
  | .ok _ => none

theorem kind?_some {kind : Fault.Kind} : o.kind? = some kind ↔ ∃ fault, o.1 = .error fault ∧ fault.kind = kind := by
  obtain ⟨answer, next⟩ := o
  cases answer <;> simp [kind?]

theorem map_error {f : α → β} {fault : Fault} : (o.map f).1 = .error fault ↔ o.1 = .error fault := by
  obtain ⟨answer, next⟩ := o
  cases answer with
  | ok a => exact ⟨nofun, nofun⟩
  | error other => simp [Outcome.map, Except.map]

theorem Spares.map (spares : o.Spares s) (f : α → β) : (o.map f).Spares s :=
  fun fault failed => spares fault (map_error.mp failed)

end Outcome

namespace Catalogue
open Outcome
variable {s : Store} {workspace id : String} {now : Moment}

theorem create_spares (draft : ExperimentDraft) : (create s workspace now draft).Spares s := by
  unfold create insert
  split
  · exact spares_kept _ s
  · simp only
    split
    · exact spares_answered _ _ s
    · exact spares_drawn _ s
    · exact spares_drawn _ s

theorem addVariant_spares (draft : VariantDraft) : (addVariant s workspace now id draft).Spares s := by
  unfold addVariant insertVariant
  split
  · exact spares_kept _ s
  · split
    · exact spares_kept _ s
    · split
      · exact spares_kept _ s
      · simp only
        split
        · exact spares_answered _ _ s
        · exact spares_drawn _ s
        · exact spares_drawn _ s

end Catalogue

namespace Visit

-- An insert that was refused is the one write of a request that fails.
theorem Leaves.spares {visit : Visit} {s : Store} {e : Experiment} {o : Outcome (Option Decision)}
    (leaves : visit.Leaves s e o) : o.Spares s := by
  cases leaves with
  | closed stage => exact Outcome.spares_kept _ s
  | undecided answer none => exact Outcome.spares_kept _ s
  | refused fault => exact Outcome.spares_drawn _ s
  | decided decision next decides => exact Outcome.spares_answered _ next s

end Visit

namespace Decision
open Outcome
variable {s : Store}

theorem assign_spares (visit : Visit) (sound : s.Sound) (key : String) : (assign visit key s).Spares s := by
  rw [assign_looks, Visit.look]
  cases s.experimentByKey? visit.workspace key with
  | none =>
    rw [Visit.settle_settled]
    exact spares_kept _ s
  | some e => exact (visit.settle_leaves e sound).spares

-- With an identifier a round is stopped by a constraint or not at all, and without one it writes nothing.
theorem assignAll_unnamed {visit : Visit} (sound : s.Sound) {fault : Fault}
    (failed : (assignAll visit s).1 = .error fault) (lacking : fault.kind = .subjectRequired) :
    (assignAll visit s).2 = s := by
  cases bucket : visit.subject.bucketId with
  | none => exact (assignEach_unnamed bucket fun e listed => (sound.listed_lasts listed).plain).1
  | some id =>
    have judged := assignAll_served visit sound (Subject.bucketId_some.mp ⟨id, bucket⟩)
    rw [failed] at judged
    cases judged with
    | refused stuck violation => cases lacking

theorem pin_spares (workspace id : String) (now : Moment) (request : PinRequest) :
    (pin s workspace now id request).Spares s := by
  have pinned := pin_pins s workspace now id request
  generalize pin s workspace now id request = outcome at pinned
  cases pinned with
  | unfit fault => exact spares_kept _ s
  | refused fault => exact spares_drawn _ s
  | pinned e v key there named allowed => exact spares_answered _ _ s

end Decision

theorem Conversion.record_spares (notice : Notice) (key : String) (s : Store) : (record notice key s).Spares s := by
  unfold record recordAmid
  split
  · exact Outcome.spares_kept _ s
  · exact Outcome.spares_kept _ s
  · exact Outcome.spares_attempt _

namespace Operation
open Outcome
variable {s : Store}

def Rounds : Operation → Prop
  | .assignAll _ => True
  | _ => False

theorem run_spares (sound : s.Sound) (workspace : String) (now : Moment) {operation : Operation}
    (single : ¬ operation.Rounds) : (operation.run workspace now s).Spares s := by
  cases operation with
  | create draft => exact (Catalogue.create_spares draft).map _
  | addVariant id draft => exact (Catalogue.addVariant_spares draft).map _
  | update _ _ | start _ | pause _ | conclude _ _ | archive _ => exact (spares_attempt _).map _
  | updateVariant id variant changes => exact (spares_attempt _).map _
  | deleteVariant id variant => exact (spares_attempt _).map _
  | assign key request => exact (Decision.assign_spares _ sound key).map _
  | assignAll request => exact absurd trivial single
  | pin id request => exact (Decision.pin_spares workspace id now request).map _
  | convert key report => exact (Conversion.record_spares _ key s).map _
  | get _ | getByKey _ | list _ | statistics _ => exact spares_kept _ s

-- A garbled request is refused before the store has written anything, a round too.
theorem runGarbled_spares (sound : s.Sound) (workspace : String) (now : Moment) (variant : RawText) (data : Json)
    (garbled : List String) (operation : Operation) :
    (operation.runGarbled workspace now variant data garbled s).Spares s := by
  cases operation with
  | create draft =>
    simp only [runGarbled, Garbled.create]
    split
    · exact spares_kept _ s
    · exact spares_drawn _ s
  | addVariant id draft =>
    simp only [runGarbled, Garbled.addVariant]
    split
    · exact spares_kept _ s
    · split
      · exact spares_kept _ s
      · split
        · exact spares_kept _ s
        · exact spares_drawn _ s
  | update _ _ | conclude _ _ | updateVariant _ _ _ | deleteVariant _ _ | assign _ _ | assignAll _ | pin _ _
  | convert _ _ => exact spares_kept _ s
  | get _ | getByKey _ | list _ | start _ | pause _ | archive _ | statistics _ =>
    exact run_spares sound workspace now id

theorem runSent_spares (sound : s.Sound) (address : Address) (now : Moment) (data : Json) (operation : Operation) :
    (∃ workspace, operation.runSent address now data s = operation.run workspace now s) ∨
      (operation.runSent address now data s).Spares s := by
  unfold runSent
  split
  · rename_i workspace _ _
    split
    · exact .inl ⟨workspace, rfl⟩
    · exact .inr (runGarbled_spares sound workspace now _ data _ operation)
  · exact .inr (spares_kept _ s)

end Operation

theorem failures_leave_rows {s : Store} (attained : Attained s) {operation : Operation} {now : Moment}
    {outcome : Outcome Answer} {fault : Fault}
    (asked : (∃ workspace, outcome = operation.run workspace now s) ∨
      ∃ address data, outcome = operation.runSent address now data s)
    (failed : outcome.1 = .error fault) (single : ¬ operation.Rounds ∨ fault.kind = .subjectRequired) :
    s.Untouched outcome.2 ∧
      -- in particular the rows that an override had taken out
      ∀ id request, operation = .pin id request → ∀ row ∈ s.assignments, row.experiment = id →
        row.standsFor request.subject = true → row ∈ outcome.2.assignments := by
  have sound := attained.sound
  have ran : ∀ workspace, outcome = operation.run workspace now s → s.Untouched outcome.2 := by
    rintro workspace rfl
    by_cases rounds : operation.Rounds
    · cases operation with
      | assignAll request =>
        have lacking := single.resolve_left (absurd trivial)
        have same := Decision.assignAll_unnamed sound (Outcome.map_error.mp failed) lacking
        simp only [Operation.run, Outcome.map, same]
        exact .refl s
      | _ => exact rounds.elim
    · exact Operation.run_spares sound workspace now rounds fault failed
  have untouched : s.Untouched outcome.2 := by
    rcases asked with ⟨workspace, rfl⟩ | ⟨address, data, rfl⟩
    · exact ran workspace rfl
    · rcases Operation.runSent_spares sound address now data operation with ⟨workspace, same⟩ | spares
      · exact ran workspace same
      · exact spares fault failed
  refine ⟨untouched, ?_⟩
  intro id request _ row present _ _
  rw [untouched.assignments]
  exact present

-- One customer has an empty session, another has none.
def oneBlank : Store :=
  (Scene.empty.play (Scene.shop ++
    [(⟨1⟩, .perform "shop" (.assign "price" ⟨⟨some "ann", some "", none⟩, none⟩)),
      (⟨2⟩, .perform "shop" (.assign "price" ⟨⟨none, none, some "bob"⟩, none⟩))])).store

-- Bob's row has been deleted when the insert meets Ann's.
def bobsOverride : PinRequest := ⟨⟨none, some "", some "bob"⟩, "id-3"⟩

theorem oneBlank_keeps_bob : Attained oneBlank ∧
    (∃ row ∈ oneBlank.assignments, row.id = "id-5" ∧ row.standsFor bobsOverride.subject = true ∧
      Jammed ((Operation.pin "id-1" bobsOverride).run "shop" ⟨3⟩ oneBlank).1 ∧
      row ∈ ((Operation.pin "id-1" bobsOverride).run "shop" ⟨3⟩ oneBlank).2.assignments) ∧
    ((Operation.assignAll ⟨⟨none, none, none⟩, none⟩).run "shop" ⟨3⟩ oneBlank).kind? = some .subjectRequired ∧
    oneBlank.Untouched ((Operation.assignAll ⟨⟨none, none, none⟩, none⟩).run "shop" ⟨3⟩ oneBlank).2 := by
  have attained : Attained oneBlank := ⟨_, rfl⟩
  obtain ⟨row, present, named, own, stands⟩ : ∃ row ∈ oneBlank.assignments, row.id = "id-5" ∧ row.experiment = "id-1" ∧
      row.standsFor bobsOverride.subject = true := by decide +kernel
  have refused : ((Operation.pin "id-1" bobsOverride).run "shop" ⟨3⟩ oneBlank).kind? = some .integrity := by
    decide +kernel
  have lacking : ((Operation.assignAll ⟨⟨none, none, none⟩, none⟩).run "shop" ⟨3⟩ oneBlank).kind? =
      some .subjectRequired := by decide +kernel
  obtain ⟨fault, failed, kind⟩ := Outcome.kind?_some.mp refused
  obtain ⟨fault', failed', kind'⟩ := Outcome.kind?_some.mp lacking
  obtain ⟨_, kept⟩ := failures_leave_rows attained (.inl ⟨"shop", rfl⟩) failed (.inl id)
  obtain ⟨untouched, _⟩ := failures_leave_rows attained (.inl ⟨"shop", rfl⟩) failed' (.inr kind')
  exact ⟨attained, ⟨row, present, named, stands, ⟨fault, failed, kind⟩, kept _ _ rfl row present own stands⟩, lacking,
    untouched⟩

end Cohort
