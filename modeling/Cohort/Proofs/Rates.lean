import Mathlib.Algebra.Order.Ring.Nat
import Cohort.Proofs.Figures
import Cohort.Proofs.Quotients

-- How far the rate of an experiment is the share of those who were shown a variant and then converted. Who was pinned to
-- a variant may convert without being shown it.
namespace Cohort

def Assignment.convertedUnseen (a : Assignment) : Bool :=
  a.source = .override && a.exposures = 0 && a.convertedAt.isSome

namespace Tally

structure Fair (t : Tally) (rows : List Assignment) : Prop where
  counted : t.conversions ≤ t.exposures + rows.countP Assignment.convertedUnseen
  low : 0.0 ≤ t.rate
  high : t.conversions ≤ t.exposures → t.rate ≤ 1.0
  unseen : t.exposures = 0 → t.rate = 0.0
  -- a double holds no smaller share than `2^-1074`
  shown : 0 < t.conversions → 0 < t.exposures → t.exposures ≤ 2 ^ 1074 → 0.0 < t.rate

variable {t : Tally}

theorem rate_unseen (none : t.exposures = 0) : t.rate = 0.0 := if_pos none

theorem rate_shown (some : 0 < t.exposures) : t.rate = Decimal.quotient t.conversions t.exposures := if_neg some.ne'

theorem rate_low (t : Tally) : 0.0 ≤ t.rate := by
  rcases Nat.eq_zero_or_pos t.exposures with none | some
  · rw [rate_unseen none, ← Decimal.quotient_zero 0]
    exact Decimal.quotient_nonneg 0 0
  · rw [rate_shown some]
    exact Decimal.quotient_nonneg _ _

theorem rate_high (few : t.conversions ≤ t.exposures) : t.rate ≤ 1.0 := by
  rcases Nat.eq_zero_or_pos t.exposures with none | some
  · rw [rate_unseen none, ← Decimal.quotient_zero 0]
    exact Decimal.quotient_le_one (Nat.le_refl 0)
  · rw [rate_shown some]
    exact Decimal.quotient_le_one few

theorem countP_either {p q r : α → Bool} {rows : List α} (either : ∀ a ∈ rows, p a = true → q a = true ∨ r a = true) :
    rows.countP p ≤ rows.countP q + rows.countP r := by
  induction rows with
  | nil => simp
  | cons a rest ih =>
    have others := ih fun b later => either b (List.mem_cons_of_mem _ later)
    have here := either a List.mem_cons_self
    simp only [List.countP_cons]
    by_cases hit : p a = true
    · rcases here hit with first | second
      · simp only [hit, first, if_true]
        omega
      · simp only [hit, second, if_true]
        omega
    · rw [if_neg hit]
      omega

theorem Counts.fair {rows : List Assignment} (counts : t.Counts rows) (tidy : ∀ a ∈ rows, a.Tidy) : t.Fair rows where
  counted := by
    rw [counts.conversions, counts.exposures]
    apply countP_either
    intro a present converted
    rcases Nat.eq_zero_or_pos a.exposures with none | some
    · cases source : a.source with
      | auto =>
        have drawn := (tidy a present).drawn source
        omega
      | override => exact .inr (by simp [Assignment.convertedUnseen, source, none, converted])
    · exact .inl (decide_eq_true some)
  low := t.rate_low
  high := rate_high
  unseen := rate_unseen
  shown := by
    intro converted some bound
    rw [rate_shown some]
    exact Decimal.quotient_positive converted some bound

end Tally

theorem rates_fair {s : Store} (attained : Attained s) {e : Experiment} (present : e ∈ s.experiments) :
    ∃ t : Statistics, (∀ now, Operation.run e.workspace now s (.statistics e.id) = (.ok (.statistics t), s)) ∧
      t.Complete s e ∧ t.overall.Fair (s.assignments.filter fun a => a.experiment = e.id) ∧
      ∀ entry ∈ t.variants,
        entry.2.Fair (s.assignments.filter fun a => a.experiment = e.id ∧ a.variant = entry.1.id) := by
  have sound := attained.sound
  have complete := sound.complete attained.placed e
  have tidy (keep : Assignment → Bool) : ∀ a ∈ s.assignments.filter keep, a.Tidy :=
    fun a member => sound.tidy a (List.mem_filter.mp member).1
  exact ⟨_, sound.statistics_known present, complete, complete.overall.fair (tidy _),
    fun entry member => (complete.each entry member).fair (tidy _)⟩

-- Whoever is pinned to the first variant converts unseen; of the two who are pinned to the second one is shown it.
def pinnedBuyers : List (Moment × Move) :=
  let subject (id : String) : Subject := ⟨none, none, some id⟩
  let pinned (id variant : String) : List Operation :=
    [.pin "id-1" ⟨subject id, variant⟩, .convert "price" ⟨subject id, none, none⟩]
  Scene.shop ++ (pinned "u" "id-2" ++ pinned "v" "id-3" ++ pinned "w" "id-3" ++
    [Operation.assign "price" ⟨subject "w", none⟩]).map fun operation => (⟨1⟩, .perform "shop" operation)

theorem pinnedBuyers_fair : Attained (Scene.empty.play pinnedBuyers).store ∧
    ∃ e ∈ (Scene.empty.play pinnedBuyers).store.experiments, e.id = "id-1" ∧ ∃ t : Statistics,
      t.Complete (Scene.empty.play pinnedBuyers).store e ∧ t.overall.conversions ≤ t.overall.exposures + 2 ∧
      t.overall.exposures = 1 ∧ 0.0 ≤ t.overall.rate ∧ 0.0 < t.overall.rate := by
  have attained : Attained (Scene.empty.play pinnedBuyers).store := ⟨pinnedBuyers, rfl⟩
  obtain ⟨e, present, id⟩ : ∃ e ∈ (Scene.empty.play pinnedBuyers).store.experiments, e.id = "id-1" := by
    decide +kernel
  obtain ⟨t, _, complete, fair, _⟩ := rates_fair attained present
  have counts := complete.overall
  rw [id] at counts fair
  have exposures : t.overall.exposures = 1 := counts.exposures.trans (by decide +kernel)
  have conversions : t.overall.conversions = 3 := counts.conversions.trans (by decide +kernel)
  have unseen : ((Scene.empty.play pinnedBuyers).store.assignments.filter fun a => a.experiment = "id-1").countP
      Assignment.convertedUnseen = 2 := by decide +kernel
  have counted := fair.counted
  rw [unseen] at counted
  have few : t.overall.exposures ≤ 2 ^ 1074 := by
    rw [exposures]
    exact one_le_pow₀ one_le_two
  have some := fair.shown (by omega) (by omega) few
  exact ⟨attained, e, present, id, t, complete, counted, exposures, fair.low, some⟩

-- So conversions may exceed exposures, a rate may exceed one, and a rate may be zero although there are conversions.
theorem pinnedBuyers_exceed : Attained (Scene.empty.play pinnedBuyers).store ∧
    ∃ e ∈ (Scene.empty.play pinnedBuyers).store.experiments, ∃ t : Statistics,
      Operation.run e.workspace ⟨2⟩ (Scene.empty.play pinnedBuyers).store (.statistics e.id) =
        (.ok (.statistics t), (Scene.empty.play pinnedBuyers).store) ∧
      t.overall.exposures < t.overall.conversions ∧
      (∃ entry ∈ t.variants, entry.2.exposures < entry.2.conversions ∧ ¬ entry.2.rate ≤ 1.0) ∧
      ∃ entry ∈ t.variants, 0 < entry.2.conversions ∧ entry.2.rate = 0.0 := by
  have attained : Attained (Scene.empty.play pinnedBuyers).store := ⟨pinnedBuyers, rfl⟩
  obtain ⟨e, present, figures⟩ : ∃ e ∈ (Scene.empty.play pinnedBuyers).store.experiments,
      let t := Statistics.ofRows ((Scene.empty.play pinnedBuyers).store.view e)
        ((Scene.empty.play pinnedBuyers).store.rowsOf e.id)
      t.overall.exposures < t.overall.conversions ∧
      (∃ entry ∈ t.variants, entry.2.exposures < entry.2.conversions ∧ ¬ entry.2.rate ≤ 1.0) ∧
      ∃ entry ∈ t.variants, 0 < entry.2.conversions ∧ entry.2.exposures = 0 := by decide +kernel
  obtain ⟨overall, exceeds, entry, member, converted, none⟩ := figures
  exact ⟨attained, e, present, _, attained.sound.statistics_known present ⟨2⟩, overall, exceeds, entry, member,
    converted, Tally.rate_unseen none⟩

end Cohort
