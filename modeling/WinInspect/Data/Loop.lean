import Mathlib.Algebra.Order.Group.Int
import Mathlib.Tactic.Common

/-!
# Counting loops that return early

`for (i = start; i < stop; ++i) { ... return ...; }`: the body may return a value, and
the loop ends with the first one.  The counter stays between its bounds, so a type
that holds them holds it.
-/

namespace WinInspect

variable {β : Type*}

/-- Run the body for the counters from `start` up to `stop` until it returns. -/
def forRange (body : Int → Option β) (start stop : Int) : Option β :=
  if start < stop then (body start).or (forRange body (start + 1) stop) else none
termination_by (stop - start).toNat

section

variable {body : Int → Option β} {start stop : Int}

theorem forRange_of_lt (less : start < stop) :
    forRange body start stop = (body start).or (forRange body (start + 1) stop) := by
  rw [forRange, if_pos less]

theorem forRange_of_le (done : stop ≤ start) : forRange body start stop = none := by
  rw [forRange, if_neg (not_lt.mpr done)]

/-- Induction on the counters that are left. -/
theorem range_induction (stop : Int) {property : Int → Prop}
    (done : ∀ start, stop ≤ start → property start)
    (step : ∀ start, start < stop → property (start + 1) → property start) (start : Int) :
    property start := by
  induction left : (stop - start).toNat generalizing start with
  | zero => exact done start (by omega)
  | succ n inductionHypothesis =>
      exact step start (by omega) (inductionHypothesis (start + 1) (by omega))

/-- The loop runs out when no body returns. -/
theorem forRange_eq_none_iff :
    forRange body start stop = none ↔ ∀ i, start ≤ i → i < stop → body i = none := by
  induction start using range_induction stop with
  | done start above =>
      rw [forRange_of_le above]
      exact iff_of_true rfl fun i low high => absurd (low.trans_lt high) (not_lt.mpr above)
  | step start less inductionHypothesis =>
      rw [forRange_of_lt less, Option.or_eq_none_iff, inductionHypothesis]
      constructor
      · rintro ⟨here, later⟩ i low high
        rcases low.eq_or_lt with rfl | above
        · exact here
        · exact later i above high
      · intro all
        exact ⟨all start le_rfl less, fun i low high => all i (by omega) high⟩

/-- The loop returns what the first body that returns does. -/
theorem forRange_eq_some_iff {result : β} :
    forRange body start stop = some result ↔
      ∃ i, start ≤ i ∧ i < stop ∧ body i = some result ∧
        ∀ k, start ≤ k → k < i → body k = none := by
  induction start using range_induction stop with
  | done start above =>
      rw [forRange_of_le above]
      refine iff_of_false nofun ?_
      rintro ⟨i, low, high, -⟩
      omega
  | step start less inductionHypothesis =>
      rw [forRange_of_lt less]
      cases here : body start with
      | some value =>
          rw [Option.some_or]
          constructor
          · intro returned
            exact ⟨start, le_rfl, less, here.trans returned, fun k low high => by omega⟩
          · rintro ⟨i, low, -, found, first⟩
            rcases low.eq_or_lt with rfl | above
            · rw [← found, here]
            · rw [first start le_rfl above] at here
              cases here
      | none =>
          rw [Option.none_or, inductionHypothesis]
          constructor
          · rintro ⟨i, low, high, found, first⟩
            refine ⟨i, by omega, high, found, fun k above below => ?_⟩
            rcases above.eq_or_lt with rfl | later
            · exact here
            · exact first k later below
          · rintro ⟨i, low, high, found, first⟩
            rcases low.eq_or_lt with rfl | above
            · rw [here] at found
              cases found
            · exact ⟨i, above, high, found, fun k low below => first k (by omega) below⟩

end

end WinInspect
