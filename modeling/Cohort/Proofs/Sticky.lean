import Cohort.Proofs.Standing

-- A subject that has been decided for keeps its row and its variant, whatever is done but an override.
namespace Cohort

def Experiment.asked (e : Experiment) (request : DecisionRequest) : Move := .perform e.workspace (.assign e.key request)

namespace Store
variable {s : Store} {now : Moment} {e : Experiment} {request : DecisionRequest} {decision : Decision}

theorem Serves.finds (serves : s.Serves now e request decision) (sound : s.Sound) (ordered : s.Ordered)
    (aged : ∀ a ∈ s.assignments, a.createdAt ≤ now)
    (after : (Operation.run e.workspace now s (.assign e.key request)).2.Sound) {row : Assignment}
    (backs : (Operation.run e.workspace now s (.assign e.key request)).2.Backs e row decision) :
    (Operation.run e.workspace now s (.assign e.key request)).2.Finds row request.subject := by
  have decides := serves.decides sound
  generalize (Operation.run e.workspace now s (.assign e.key request)).2 = next at decides backs after
  cases decides with
  | seen a v found there named =>
    obtain ⟨present, own, _⟩ := find?_some found
    have allowed : (Act.expose a.id).Allowed e.workspace now s :=
      sound.within present (own ▸ serves.launched.holds)
    have finds := Act.finds_stays sound allowed (.of_found ordered found) (Act.row_stays present id) (aged a present)
      trivial
    obtain ⟨b, still, same⟩ := finds.there
    obtain rfl : b = row := after.same_row still backs.present (same.id.trans backs.id)
    exact finds.congr same
  | drawn v key missing there own kept free =>
    let drawn := Visit.row (Operation.visitOf e.workspace now request) s e v key
    have added : drawn ∈ s.assignments ++ [drawn] := List.mem_append_right _ (List.mem_singleton_self _)
    obtain rfl : drawn = row := after.same_row added backs.present backs.id
    have stands : drawn.standsFor request.subject = true := Assignment.standsFor_exact.mpr (.inr kept)
    refine ⟨⟨drawn, added, .refl drawn⟩, stands, fun x member together shares => .inl ?_⟩
    rcases List.mem_append.mp member with old | new
    · have misses := (find?_none (Assignment.standsFor_named stands)).mp missing x old together
      exact absurd (misses.symm.trans shares) Bool.false_ne_true
    · exact congrArg Assignment.id (List.mem_singleton.mp new)

end Store

theorem decisions_stick {before later : List (Moment × Move)} {now : Moment} {e : Experiment}
    {request : DecisionRequest} {decision : Decision}
    (forward : ((before ++ (now, e.asked request) :: later).map (·.1)).Pairwise (· ≤ ·))
    (serves : (Scene.empty.play before).store.Serves now e request decision) :
    ∃ row, ((Scene.empty.play before).after now (e.asked request)).store.Backs e row decision ∧
      ((∀ move ∈ later, move.2.Avoids e.workspace e.id request.subject ∧
          move.2.Avoids e.workspace e.id row.subject) →
        ∀ time x again next, x.id = e.id → again.subject = request.subject →
          (Scene.empty.play (before ++ (now, e.asked request) :: later)).store.Serves time x again next →
          next.assignment = row.id ∧ next.variant = decision.variant ∧ next.isNew = false) := by
  have ready := Scene.play_ready Scene.empty_ready before
  have ordered := Scene.play_ordered Scene.empty_ready Store.empty_ordered before
  obtain ⟨committed, next⟩ := Scene.after_commits ready now (e.asked request)
  obtain ⟨row, backs, _⟩ := (serves.decides ready.sound).backed ready.sound
  refine ⟨row, backs, ?_⟩
  intro avoids time x again decision' same subject serves'
  rw [Scene.play_append] at serves'
  rw [List.map_append, List.map_cons, List.pairwise_append, List.pairwise_cons] at forward
  obtain ⟨_, ⟨onward, _⟩, between⟩ := forward
  have earlier : ∀ move ∈ before, move.1 ≤ now := by
    intro move member
    exact between _ (List.mem_map_of_mem member) _ List.mem_cons_self
  have aged := Scene.play_aged Scene.empty_ready (fun _ member => absurd member List.not_mem_nil) earlier
  have bound : row.createdAt ≤ now :=
    Scene.after_aged ready (e.asked request) aged now.refl row backs.present
  have launched := (committed.kept ready.sound).launched _ _ serves.launched
  have finds := serves.finds ready.sound ordered aged next.sound backs
  have lasting := Scene.finds_stay next finds (backs.experiment ▸ launched)
    (fun move member => Moment.trans bound (onward _ (List.mem_map_of_mem member))) (backs.experiment ▸ avoids)
  have reached := (Scene.play_ready next later).sound
  obtain ⟨a, found, alike⟩ := lasting.found reached
    (Scene.play_ordered next (committed.ordered ready.sound ordered) later)
  rw [backs.experiment, ← same, ← subject] at found
  exact serves'.still reached found alike (Scene.play_kept next later) next.sound backs

-- Somebody comes back with two identifiers; the first is known, and while she is away the second gets a row of its own.
def returning : DecisionRequest := ⟨⟨some "ann", none, some "u"⟩, none⟩

def beforeReturn : List (Moment × Move) :=
  Scene.shop ++ [(⟨1⟩, .perform "shop" (.assign "price" ⟨⟨some "ann", none, none⟩, none⟩))]

def afterReturn : List (Moment × Move) :=
  [Operation.assign "price" ⟨⟨none, none, some "u"⟩, none⟩, .pause "id-1", .start "id-1"].map fun operation =>
    (⟨3⟩, .perform "shop" operation)

theorem returning_finds_first_row : ∃ e decision,
    ((beforeReturn ++ (⟨2⟩, e.asked returning) :: afterReturn).map (·.1)).Pairwise (· ≤ ·) ∧
    (Scene.empty.play beforeReturn).store.Serves ⟨2⟩ e returning decision ∧ decision.assignment = "id-4" ∧
    decision.variant = "a" ∧ ∃ x next,
      (Scene.empty.play (beforeReturn ++ (⟨2⟩, e.asked returning) :: afterReturn)).store.Serves ⟨4⟩ x returning next ∧
      next.assignment = "id-4" ∧ next.variant = "a" ∧ next.isNew = false := by
  obtain ⟨e, present, workspace, key, id, running⟩ : ∃ e ∈ (Scene.empty.play beforeReturn).store.experiments,
      e.workspace = "shop" ∧ e.key = "price" ∧ e.id = "id-1" ∧ e.status = .running := by decide +kernel
  have shown : (Scene.empty.play beforeReturn).store.shows "shop" ⟨2⟩ (.assign "price" returning) =
      some ("id-4", "a", false) := by decide +kernel
  obtain ⟨decision, serves, row, variant, _⟩ := Store.Serves.of_shows present workspace key running shown
  have asked : e.asked returning = .perform "shop" (.assign "price" returning) := by
    rw [Experiment.asked, workspace, key]
  have forward : ((beforeReturn ++ (⟨2⟩, e.asked returning) :: afterReturn).map (·.1)).Pairwise (· ≤ ·) := by
    rw [asked]
    decide
  have unpinned : ∀ move ∈ afterReturn, ∀ workspace id request, move.2 ≠ .perform workspace (.pin id request) := by
    simp [afterReturn]
  obtain ⟨x, there, workspace', key', id', running', again⟩ : ∃ x ∈ (Scene.empty.play (beforeReturn ++
        (⟨2⟩, .perform "shop" (.assign "price" returning)) :: afterReturn)).store.experiments,
      x.workspace = "shop" ∧ x.key = "price" ∧ x.id = "id-1" ∧ x.status = .running ∧
        ((Scene.empty.play (beforeReturn ++ (⟨2⟩, .perform "shop" (.assign "price" returning)) :: afterReturn)).store.shows
          "shop" ⟨4⟩ (.assign "price" returning)).isSome = true := by decide +kernel
  obtain ⟨_, shown'⟩ := Option.isSome_iff_exists.mp again
  obtain ⟨next, serves', _⟩ := Store.Serves.of_shows there workspace' key' running' shown'
  rw [← asked] at serves'
  obtain ⟨first, backs, sticks⟩ := decisions_stick forward serves
  obtain ⟨same, shows, old⟩ := sticks (fun move member =>
    ⟨fun request hit => absurd hit (unpinned move member _ _ request),
      fun request hit => absurd hit (unpinned move member _ _ request)⟩)
    ⟨4⟩ x returning next (id'.trans id.symm) rfl serves'
  exact ⟨e, decision, forward, serves, row, variant, x, next, serves', same.trans (backs.id.symm.trans row),
    shows.trans variant, old⟩

end Cohort
