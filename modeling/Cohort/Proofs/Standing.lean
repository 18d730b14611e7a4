import Cohort.Proofs.Answers
import Cohort.Proofs.Precedence

-- What has to happen before a subject finds another row.
namespace Cohort

namespace Store
variable {s : Store} {row : Assignment}

theorem Serves.still {first : Store} {a : Assignment} {now : Moment} {e x : Experiment} {request : DecisionRequest}
    {decision earlier : Decision} (serves : s.Serves now e request decision) (sound : s.Sound)
    (found : s.find? e.id request.subject = some a) (same : Sound.Same a row) (kept : first.Kept s)
    (before : first.Sound) (backs : first.Backs x row earlier) :
    decision.assignment = row.id ∧ decision.variant = earlier.variant ∧ decision.isNew = false := by
  obtain ⟨shown, old, w, there, named, key⟩ := serves.shown sound found
  obtain ⟨v, present, drawn, _, shown'⟩ := backs.variant
  have issued : first.Issued w.id := by
    rw [named, same.variant, ← drawn]
    exact before.variantsIssued v present
  obtain ⟨v', present', follows⟩ := kept.variants w there issued
  obtain rfl : v' = v :=
    before.same_variant present' present (follows.id.symm.trans (named.trans (same.variant.trans drawn.symm)))
  exact ⟨shown.trans same.id, by rw [← key, follows.key, shown'], old⟩

-- Drafts lose variants, and rows with them; so a row is followed for as long as its variant is there.
structure Carries (s next : Store) (row : Assignment) : Prop where
  issued : s.Issued row.variant
  kept : s.Kept next
  stays : next.Owns row.experiment row.variant → ∃ a ∈ next.assignments, Sound.Same a row

theorem Sound.owns {s : Store} (sound : s.Sound) {row : Assignment} (there : ∃ a ∈ s.assignments, Sound.Same a row) :
    s.Owns row.experiment row.variant := by
  obtain ⟨a, present, same⟩ := there
  exact same.experiment ▸ same.variant ▸ (sound.refers a present).variant

theorem Carries.refl (sound : s.Sound) (there : ∃ a ∈ s.assignments, Sound.Same a row) : s.Carries s row where
  issued := by
    obtain ⟨v, present, named, _⟩ := sound.owns there
    exact named ▸ sound.variantsIssued v present
  kept := .refl s
  stays := fun _ => there

end Store

-- The act, or the move, pins nobody in the experiment who shares an identifier with the subject.

def Act.Avoids (id : String) (subject : Subject) : Act → Prop
  | .pin experiment _ other _ => experiment = id → ¬ other.Shares subject
  | _ => True

def Move.Avoids (workspace id : String) (subject : Subject) (move : Move) : Prop :=
  ∀ request, move = .perform workspace (.pin id request) → ¬ request.subject.Shares subject

theorem Scene.Permits.avoids {scene : Scene} {move : Move} {act : Act} (permitted : scene.Permits move act)
    {s : Store} (sound : s.Sound) {now : Moment} (allowed : act.Allowed (scene.actor move) now s)
    {workspace id : String} (held : s.Holds workspace id) {subject : Subject}
    (avoids : move.Avoids workspace id subject) : act.Avoids id subject := by
  cases act with
  | pin experiment variant other key =>
    rintro rfl
    cases move with
    | perform actor operation =>
      cases permitted with
      | pin _ _ request =>
        obtain rfl : actor = workspace := sound.one_owner allowed.1 held
        exact avoids request rfl
      | assign _ _ visits | assignAll _ visits => cases visits
      | convert _ _ reports => cases reports
    | turn index =>
      obtain ⟨pending, _, permitted⟩ := permitted
      cases pending with
      | single visit turn | round visit turn left =>
        have visits : Visit.Permits _ _ := permitted
        cases visits
      | report notice turn =>
        have reports : Conversion.Permits _ _ := permitted
        cases reports
    | ask _ _ _ | askAll _ _ | report _ _ _ => exact permitted.elim
  | _ => trivial

namespace Act
variable {workspace : String} {now : Moment} {s : Store} {act : Act} {row : Assignment} {subject : Subject}

-- A row goes with its variant, or when a subject is pinned that shares an identifier with its own.
theorem spared (sound : s.Sound) (present : row ∈ s.assignments)
    (owns : (act.apply workspace now s).Owns row.experiment row.variant)
    (avoids : act.Avoids row.experiment row.subject) : ¬ act.Removes row := by
  cases act with
  | removeVariant id =>
    intro hit
    obtain ⟨w, kept, named, _⟩ := owns
    have other : w.id ≠ id := by simpa using (List.mem_filter.mp kept).2
    exact other (named.trans hit)
  | pin id variant other key =>
    rintro ⟨own, stands⟩
    exact avoids own.symm ((Assignment.standsFor_shares (sound.tidy row present).key).mp stands)
  | _ => exact id

theorem finds_stays (sound : s.Sound) (allowed : act.Allowed workspace now s) (finds : s.Finds row subject)
    (stays : ∃ a ∈ (act.apply workspace now s).assignments, Store.Sound.Same a row) (later : row.createdAt ≤ now)
    (avoids : act.Avoids row.experiment subject) : (act.apply workspace now s).Finds row subject := by
  refine ⟨stays, finds.stands, ?_⟩
  intro x there own stands
  rcases row_origin there with ⟨b, old, same⟩ | adds
  · rcases finds.first b old (same.experiment.symm.trans own) ((same.standsFor subject).symm.trans stands) with
      hit | before
    · exact .inl (same.id.trans hit)
    · exact .inr (((Store.Sound.Same.refl row).before same).mpr before)
  · obtain ⟨a, present, same⟩ := finds.there
    have earlier : Store.Earlier row.id x.id := by
      rw [adds.fresh.1, ← same.id]
      exact (sound.rowsIssued a present).earlier
    cases adds with
    | drawn id variant other key =>
      refine .inr (.inr ⟨?_, earlier⟩)
      rw [← Bool.not_eq_true, Assignment.precedes_exact]
      have bound : row.createdAt.micros ≤ now.micros := later
      rintro (ahead | ⟨_, ahead⟩)
      · have drawn : Source.rank .auto < row.source.rank := ahead
        cases found : row.source <;> simp [found, Source.rank] at drawn
      · have sooner : now.micros < row.createdAt.micros := ahead
        omega
    | pinned id variant other key =>
      have shares := (Assignment.standsFor_shares allowed.2.2.1).mp stands
      exact absurd shares.symm (avoids own)

theorem apply_carries {first : Store} (sound : s.Sound) (allowed : act.Allowed workspace now s)
    (carries : first.Carries s row) (avoids : act.Avoids row.experiment row.subject) :
    first.Carries (act.apply workspace now s) row := by
  refine ⟨carries.issued, carries.kept.trans (apply_kept sound allowed), ?_⟩
  rintro ⟨w, after, named, own⟩
  rcases variant_origin sound allowed after with ⟨v, before, follows⟩ | fresh
  · obtain ⟨a, there, same⟩ :=
      carries.stays ⟨v, before, follows.id.symm.trans named, follows.experiment.symm.trans own⟩
    have owns : (act.apply workspace now s).Owns a.experiment a.variant :=
      ⟨w, after, named.trans same.variant.symm, own.trans same.experiment.symm⟩
    have avoided : act.Avoids a.experiment a.subject := by rwa [same.experiment, same.subject]
    obtain ⟨b, still, same'⟩ := row_stays there (spared sound there owns avoided)
    exact ⟨b, still, same'.trans same⟩
  · exact absurd (named.symm.trans fresh) (carries.issued.mono carries.kept.drawn).ne_next

end Act

namespace Scene
variable {scene : Scene} {row : Assignment} {moves : List (Moment × Move)}

theorem play_kept (ready : scene.Ready) (moves : List (Moment × Move)) :
    scene.store.Kept (scene.play moves).store := by
  refine play_carries ready (fun move _ s next effect kept => ?_) (.refl scene.store)
  cases effect with
  | act _ act sound _ allowed => exact kept.trans (Act.apply_kept sound allowed)

theorem rows_stay (ready : scene.Ready) (present : row ∈ scene.store.assignments) {workspace : String}
    (held : scene.store.Holds workspace row.experiment)
    (avoids : ∀ move ∈ moves, move.2.Avoids workspace row.experiment row.subject)
    (owns : (scene.play moves).store.Owns row.experiment row.variant) :
    ∃ a ∈ (scene.play moves).store.assignments, Store.Sound.Same a row := by
  have carries : scene.store.Carries (scene.play moves).store row := by
    refine play_carries (P := fun s => scene.store.Carries s row) ready ?_ (.refl ready.sound ⟨row, present, .refl row⟩)
    rintro move member s _ ⟨made, act, sound, permitted, allowed⟩ carries
    have held := carries.kept.holds _ _ held
    exact Act.apply_carries sound allowed carries (permitted.avoids sound allowed held (avoids move member))
  exact carries.stays owns

theorem finds_stay (ready : scene.Ready) {subject : Subject} (finds : scene.store.Finds row subject)
    {workspace : String} (launched : scene.store.Launched workspace row.experiment)
    (later : ∀ move ∈ moves, row.createdAt ≤ move.1)
    (avoids : ∀ move ∈ moves, move.2.Avoids workspace row.experiment subject ∧
      move.2.Avoids workspace row.experiment row.subject) : (scene.play moves).store.Finds row subject := by
  have owned := ready.sound.owns finds.there
  refine (play_carries (P := fun s => scene.store.Carries s row ∧ s.Finds row subject) ready ?_ ?_).2
  · rintro move member s _ ⟨made, act, sound, permitted, allowed⟩ ⟨carries, finds⟩
    have held := carries.kept.holds _ _ launched.holds
    obtain ⟨forSubject, forRow⟩ := avoids move member
    have carried := Act.apply_carries sound allowed carries (permitted.avoids sound allowed held forRow)
    have owns := carried.kept.owns _ _ _ launched owned
    exact ⟨carried, Act.finds_stays sound allowed finds (carried.stays owns) (later move member)
      (permitted.avoids sound allowed held forSubject)⟩
  · exact ⟨.refl ready.sound finds.there, finds⟩

theorem effect_aged {now clock : Moment} {move : Move} {s next : Store} (effect : move.Effect now s next)
    (bound : now ≤ clock) (aged : ∀ a ∈ s.assignments, a.createdAt ≤ clock) :
    ∀ a ∈ next.assignments, a.createdAt ≤ clock := by
  obtain ⟨made, act, sound, permitted, allowed⟩ := effect
  intro a present
  rcases Act.row_origin present with ⟨b, old, same⟩ | adds
  · exact same.createdAt ▸ aged b old
  · exact adds.fresh.2 ▸ bound

theorem after_aged (ready : scene.Ready) {now clock : Moment} (move : Move)
    (aged : ∀ a ∈ scene.store.assignments, a.createdAt ≤ clock) (bound : now ≤ clock) :
    ∀ a ∈ (scene.after now move).store.assignments, a.createdAt ≤ clock :=
  after_carries (P := fun s => ∀ a ∈ s.assignments, a.createdAt ≤ clock) ready
    (fun _ _ effect => effect_aged effect bound) aged

theorem play_aged (ready : scene.Ready) {clock : Moment} (aged : ∀ a ∈ scene.store.assignments, a.createdAt ≤ clock)
    (bound : ∀ move ∈ moves, move.1 ≤ clock) : ∀ a ∈ (scene.play moves).store.assignments, a.createdAt ≤ clock :=
  play_carries (P := fun s => ∀ a ∈ s.assignments, a.createdAt ≤ clock) ready
    (fun move member _ _ effect => effect_aged effect (bound move member)) aged

end Scene
end Cohort
