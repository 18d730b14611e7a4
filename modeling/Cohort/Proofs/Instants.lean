import Cohort.Proofs.Acts.Accepted
import Cohort.Proofs.Calendar
import Cohort.Proofs.Updates

-- A start or end that a caller sends is stored as the clocks of its zone show it, so one instant is stored as many times
-- as it has been written in different zones. Only times of UTC, and Unix times with them, keep their instant.
namespace Cohort

-- Microseconds of UTC from the first day of year 1; a time without a zone tells none.
def Dated.instant (t : Dated) : Option Int := t.offset.map fun minutes => t.wall.micros - 60000000 * minutes

namespace Dated
variable {t t' : Dated} {instant : Int}

theorem instant_exact : t.instant = some instant ↔
    ∃ minutes, t.offset = some minutes ∧ (t.wall.micros : Int) = instant + 60000000 * minutes := by
  cases offset : t.offset with
  | none => simp [Dated.instant, offset]
  | some minutes =>
    simp [Dated.instant, offset]
    omega

theorem instant_utc (told : t.instant = some instant) : (t.wall.micros : Int) = instant ↔ t.offset = some 0 := by
  obtain ⟨minutes, zone, wall⟩ := instant_exact.mp told
  rw [zone, Option.some_inj]
  omega

-- Of one instant the clocks show the same in the same zones.
theorem walls_agree (told : t.instant = some instant) (told' : t'.instant = some instant) :
    t'.wall = t.wall ↔ t'.offset = t.offset := by
  obtain ⟨minutes, zone, wall⟩ := instant_exact.mp told
  obtain ⟨minutes', zone', wall'⟩ := instant_exact.mp told'
  rw [zone, zone', Option.some_inj]
  constructor
  · intro same
    rw [same] at wall'
    omega
  · intro same
    have micros : t'.wall.micros = t.wall.micros := by omega
    exact congrArg Moment.mk micros

end Dated

namespace Form
variable {members : Json.Members} {name : String} {v : Json}

theorem seq_ok {f : Form (α → β)} {a : Form α} {b : β} (read : (f <*> a).read members = .ok b) :
    ∃ g x, f.read members = .ok g ∧ a.read members = .ok x ∧ g x = b := by
  change (Form.seq f fun _ => a).read members = .ok b at read
  cases first : f.read members with
  | error _ =>
    cases second : a.read members with
    | error _ | ok _ =>
      simp only [Form.seq, first, second, reduceCtorEq] at read
  | ok g =>
    cases second : a.read members with
    | error _ =>
      simp only [Form.seq, first, second, reduceCtorEq] at read
    | ok x =>
      simp only [Form.seq, first, second, Except.ok.injEq] at read
      exact ⟨g, x, rfl, rfl, read⟩

theorem map_ok {f : α → β} {a : Form α} {b : β} (read : (f <$> a).read members = .ok b) :
    ∃ x, a.read members = .ok x ∧ f x = b := Operation.map_ok read

variable (given : v ≠ .null) {reader : Entry.Reader α}
include given

theorem nullable_given {a : Option α} (read : reading name (Entry.nullable reader) v = .ok a) :
    ∃ x, reader v = .ok x ∧ a = some x := by
  have plain : Entry.nullable reader v = (reader v).map some := by
    cases v with
    | null => exact absurd rfl given
    | _ => rfl
  rw [reading, plain] at read
  cases taken : reader v with
  | error _ =>
    rw [taken] at read
    cases read
  | ok x =>
    rw [taken] at read
    cases read
    exact ⟨x, rfl, rfl⟩

variable (present : Json.member? name members = some v)
include present

theorem optional_given {a : Option α} (read : (optional name reader).read members = .ok a) :
    ∃ x, reader v = .ok x ∧ a = some x := by
  simp only [optional, defaulting, present] at read
  exact nullable_given given read

theorem sent_given {a : Option (Option α)} (read : (sent name reader).read members = .ok a) :
    ∃ x, reader v = .ok x ∧ a = some (some x) := by
  simp only [sent, present] at read
  obtain ⟨_, taken, rfl⟩ := Operation.map_ok read
  obtain ⟨x, here, rfl⟩ := nullable_given given taken
  exact ⟨x, here, rfl⟩

end Form

inductive TimeField where
  | start
  | finish

namespace TimeField

def name : TimeField → String
  | .start => "start_at"
  | .finish => "end_at"

def drafted (draft : ExperimentDraft) : TimeField → Option Dated
  | .start => draft.startAt
  | .finish => draft.endAt

def changed (changes : ExperimentChanges) : TimeField → Option (Option Dated)
  | .start => changes.startAt
  | .finish => changes.endAt

def stored (e : Experiment) : TimeField → Option Moment
  | .start => e.startAt
  | .finish => e.endAt

variable {field : TimeField} {members : Json.Members} {v : Json}

theorem drafted_read {draft : ExperimentDraft} (read : ExperimentDraft.form.read members = .ok draft) :
    (Form.optional field.name Entry.time).read members = .ok (field.drafted draft) := by
  obtain ⟨_, _, part1, _, rfl⟩ := Form.seq_ok read
  obtain ⟨_, _, part2, ends, rfl⟩ := Form.seq_ok part1
  obtain ⟨_, _, part3, starts, rfl⟩ := Form.seq_ok part2
  obtain ⟨_, _, part4, _, rfl⟩ := Form.seq_ok part3
  obtain ⟨_, _, part5, _, rfl⟩ := Form.seq_ok part4
  obtain ⟨_, _, part6, _, rfl⟩ := Form.seq_ok part5
  obtain ⟨_, _, part7, _, rfl⟩ := Form.seq_ok part6
  obtain ⟨_, _, part8, _, rfl⟩ := Form.seq_ok part7
  obtain ⟨_, _, rfl⟩ := Form.map_ok part8
  cases field with
  | start => exact starts
  | finish => exact ends

theorem changed_read {changes : ExperimentChanges} (read : ExperimentChanges.form.read members = .ok changes) :
    (Form.sent field.name Entry.time).read members = .ok (field.changed changes) := by
  obtain ⟨_, _, part1, _, rfl⟩ := Form.seq_ok read
  obtain ⟨_, _, part2, ends, rfl⟩ := Form.seq_ok part1
  obtain ⟨_, _, part3, starts, rfl⟩ := Form.seq_ok part2
  obtain ⟨_, _, part4, _, rfl⟩ := Form.seq_ok part3
  obtain ⟨_, _, part5, _, rfl⟩ := Form.seq_ok part4
  obtain ⟨_, _, part6, _, rfl⟩ := Form.seq_ok part5
  obtain ⟨_, _, rfl⟩ := Form.map_ok part6
  cases field with
  | start => exact starts
  | finish => exact ends

theorem stored_row (draft : ExperimentDraft) (id workspace : String) (now : Moment) :
    field.stored (draft.row id workspace now) = (field.drafted draft).map Dated.wall := by
  cases field with
  | start | finish => rfl

theorem stored_alike {x y : Experiment} (same : x.Alike y) : field.stored x = field.stored y := by
  cases same with
  | touched _ _ _ =>
    cases field with
    | start | finish => rfl

theorem stored_upon {changes : ExperimentChanges} {t : Dated} (sent : field.changed changes = some (some t))
    (e : Experiment) : field.stored (changes.revision.upon e) = some t.wall := by
  cases field with
  | start =>
    replace sent : changes.startAt = some (some t) := sent
    simp only [stored, ExperimentRevision.upon, ExperimentChanges.revision, sent]
    rfl
  | finish =>
    replace sent : changes.endAt = some (some t) := sent
    simp only [stored, ExperimentRevision.upon, ExperimentChanges.revision, sent]
    rfl

inductive Sends (field : TimeField) (v : Json) : Operation → Prop where
  | create {members : Json.Members} {draft : ExperimentDraft}
      (accepted : ExperimentDraft.form.check (.object members) = .ok draft)
      (sent : Json.member? field.name members = some v) : Sends field v (.create draft)
  | update {members : Json.Members} {changes : ExperimentChanges} (id : String)
      (accepted : ExperimentChanges.form.check (.object members) = .ok changes)
      (sent : Json.member? field.name members = some v) : Sends field v (.update id changes)

variable {s : Store} {workspace : String} {now : Moment} {operation : Operation} {view : ExperimentView}

-- What was read from it is stored without its zone.
theorem Sends.stored (sends : field.Sends v operation) (given : v ≠ .null) (sound : s.Sound)
    (answered : (operation.run workspace now s).1 = .ok (.experiment view)) :
    ∃ t, Entry.time v = .ok t ∧ field.stored view.experiment = some t.wall ∧
      view.experiment ∈ (operation.run workspace now s).2.experiments := by
  cases sends with
  | @create members draft accepted sent =>
    obtain ⟨t, read, same⟩ := Form.optional_given given sent (drafted_read accepted)
    obtain ⟨other, created, told⟩ := Outcome.map_ok answered
    cases told
    obtain ⟨there, built⟩ := Catalogue.create_row created
    rw [built, stored_row, same]
    exact ⟨t, read, rfl, built ▸ there⟩
  | @update members changes id accepted sent =>
    obtain ⟨t, read, same⟩ := Form.sent_given given sent (changed_read accepted)
    obtain ⟨e, present, rfl, rfl, _⟩ := Operation.run_revises sound rfl answered
    have updated := Operation.run_update sound present changes now
    rw [updated] at answered ⊢
    cases answered
    have shown := (stored_alike (changes.revision.left_alike (sound.plain e present) now)).trans (stored_upon same e)
    exact ⟨t, read, shown, Store.put_row present (changes.revision.left_id now e)⟩

end TimeField

theorem Entry.number_utc {v : Json} {t : Dated} (number : ∀ text, v ≠ .string text) (read : Entry.time v = .ok t) :
    t.offset = some 0 := by
  have unix {seconds : Calendar.Unix} (read : Entry.unixTime (Calendar.ofUnix seconds) = .ok t) :
      t.offset = some 0 := by
    cases counted : seconds.micros with
    | none =>
      rw [Calendar.ofUnix, counted] at read
      cases read
    | some n =>
      rw [Calendar.ofUnix, counted, Option.bind_some, Calendar.ofMicros] at read
      split at read
      · cases read
        rfl
      · cases read
  cases v with
  | string text => exact absurd rfl (number text)
  | int n => exact unix read
  | float x => exact unix read
  | _ => cases read

theorem zones_dropped {s : Store} (attained : Attained s) {workspace : String} {now : Moment} {operation : Operation}
    {field : TimeField} {v : Json} {view : ExperimentView} (sends : field.Sends v operation) (given : v ≠ .null)
    (answered : (operation.run workspace now s).1 = .ok (.experiment view)) :
    ∃ t, Entry.time v = .ok t ∧ field.stored view.experiment = some t.wall ∧
      view.experiment ∈ (operation.run workspace now s).2.experiments ∧
      ((∀ text, v ≠ .string text) → t.offset = some 0) ∧
      ∀ instant, t.instant = some instant →
        ((t.wall.micros : Int) = instant ↔ t.offset = some 0) ∧
        ∀ t' : Dated, t'.instant = some instant →
          (t'.wall = t.wall ↔ t'.offset = t.offset) ∧ (t'.Shown → Entry.time (.string t'.text) = .ok t') := by
  obtain ⟨t, read, stored, there⟩ := sends.stored given attained.sound answered
  refine ⟨t, read, stored, there, fun number => Entry.number_utc number read, fun instant told => ?_⟩
  refine ⟨Dated.instant_utc told, fun t' told' => ⟨Dated.walls_agree told told', fun shown => ?_⟩⟩
  rw [Entry.time, Calendar.read_text shown]

-- Noon two hours ahead of UTC, and the same instant as UTC has it.

def noon : Dated := ⟨Moment.of ⟨2024, 1, 1⟩ ⟨12, 0, 0, 0⟩, some 120⟩

def ten : Dated := ⟨Moment.of ⟨2024, 1, 1⟩ ⟨10, 0, 0, 0⟩, some 0⟩

def noonMembers : Json.Members :=
  [("key", .string "noon"), ("name", .string ""), ("start_at", .string "2024-01-01T12:00:00+02:00")]

def noonDraft : ExperimentDraft := ⟨⟨"noon", by decide⟩, "", none, .feature, Share.all, [], some noon, none, []⟩

theorem noon_stored : TimeField.start.Sends (.string "2024-01-01T12:00:00+02:00") (.create noonDraft) ∧
    ∃ view, (Operation.run "shop" ⟨0⟩ .empty (.create noonDraft)).1 = .ok (.experiment view) ∧
      view.experiment.startAt = some noon.wall ∧ noon.instant = ten.instant ∧
      Entry.time (.string "2024-01-01T10:00:00Z") = .ok ten ∧ ten.wall ≠ noon.wall := by
  have attained : Attained .empty := ⟨[], rfl⟩
  have accepted : ExperimentDraft.form.check (.object noonMembers) = .ok noonDraft := rfl
  have sends : TimeField.start.Sends (.string "2024-01-01T12:00:00+02:00") (.create noonDraft) := .create accepted rfl
  have answered : (Operation.run "shop" ⟨0⟩ .empty (.create noonDraft)).1 =
      .ok (.experiment ⟨noonDraft.row "id-1" "shop" ⟨0⟩, []⟩) := rfl
  obtain ⟨t, read, stored, _, _, others⟩ := zones_dropped attained sends (by simp) answered
  have noon' : Entry.time (.string "2024-01-01T12:00:00+02:00") = .ok noon := rfl
  obtain rfl : noon = t := Except.ok.inj (noon'.symm.trans read)
  have same : noon.instant = ten.instant := by decide +kernel
  obtain ⟨_, alike⟩ := others _ same
  obtain ⟨apart, reads⟩ := alike ten rfl
  have shown : ten.Shown := ⟨by decide +kernel, by rintro n ⟨⟩; decide⟩
  have spelled : ten.text = "2024-01-01T10:00:00Z" := by decide +kernel
  refine ⟨sends, _, answered, stored, same, spelled ▸ reads shown, fun equal => ?_⟩
  cases apart.mp equal

end Cohort
