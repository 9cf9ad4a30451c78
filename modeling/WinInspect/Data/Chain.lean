import Mathlib.Order.Preorder.Finite
import Mathlib.Logic.Relation

/-!
# Recursion that goes on from elsewhere

A function that either returns or calls itself at the end with another argument.  If the calls can
lead to finitely many arguments only, it returns if and only if they never lead in a circle.
-/

namespace WinInspect.Chain

open Relation (ReflTransGen TransGen)

universe u v

variable {α : Type u} {β : Type v}

/-- At most `n` calls from an argument on. -/
def rounds (step : α → β ⊕ α) : Nat → α → Option β
  | 0, _ => none
  | n + 1, a =>
      match step a with
      | .inl result => some result
      | .inr next => rounds step n next

/-- The call with the first argument makes one with the second. -/
def Goes (step : α → β ⊕ α) (a b : α) : Prop :=
  step a = .inr b

/-- Finitely many calls give a result. -/
def Ends (step : α → β ⊕ α) (a : α) : Prop :=
  ∃ n result, rounds step n a = some result

section

variable {step : α → β ⊕ α} {a b : α}

theorem rounds_of_goes (goes : Goes step a b) (n : Nat) :
    rounds step (n + 1) a = rounds step n b := by
  rw [rounds, goes]

theorem ends_of_inl {result : β} (returns : step a = .inl result) : Ends step a :=
  ⟨1, result, by rw [rounds, returns]⟩

theorem ends_iff_of_goes (goes : Goes step a b) : Ends step a ↔ Ends step b := by
  constructor
  · rintro ⟨n, result, ended⟩
    cases n with
    | zero => cases ended
    | succ n => exact ⟨n, result, rounds_of_goes goes n ▸ ended⟩
  · rintro ⟨n, result, ended⟩
    exact ⟨n + 1, result, (rounds_of_goes goes n).trans ended⟩

theorem Ends.of_reaches (ends : Ends step a) (reaches : ReflTransGen (Goes step) a b) :
    Ends step b := by
  induction reaches with
  | refl => exact ends
  | tail _ goes inductionHypothesis => exact (ends_iff_of_goes goes).mp inductionHypothesis

/-- A circle is entered at its next argument with one round less, so no number of rounds leaves
it. -/
theorem not_circle_of_rounds {n : Nat} {result : β} (ended : rounds step n a = some result) :
    ¬TransGen (Goes step) a a := by
  induction n generalizing a with
  | zero => cases ended
  | succ n inductionHypothesis =>
      intro circle
      obtain ⟨next, goes, back⟩ := TransGen.head'_iff.mp circle
      rw [rounds_of_goes goes] at ended
      exact inductionHypothesis ended (TransGen.tail' back goes)

/-! ## The arguments of a recursion that does not end -/

/-- The argument after `n` calls, the last one if there are fewer. -/
def argument (step : α → β ⊕ α) (a : α) : Nat → α
  | 0 => a
  | n + 1 =>
      match step (argument step a n) with
      | .inl _ => argument step a n
      | .inr next => next

theorem goes_argument {n : Nat} (endless : ¬Ends step (argument step a n)) :
    Goes step (argument step a n) (argument step a (n + 1)) := by
  cases shape : step (argument step a n) with
  | inl result => exact absurd (ends_of_inl shape) endless
  | inr next => rw [Goes, argument, shape]

theorem not_ends_argument (endless : ¬Ends step a) (n : Nat) :
    ¬Ends step (argument step a n) := by
  induction n with
  | zero => exact endless
  | succ n inductionHypothesis =>
      exact (ends_iff_of_goes (goes_argument inductionHypothesis)).not.mp inductionHypothesis

/-- The recursion ends if and only if no argument it comes to leads back to itself, if it can come
to finitely many only. -/
theorem ends_iff (finite : {b | ∃ a, Goes step a b}.Finite) :
    Ends step a ↔ ∀ b, ReflTransGen (Goes step) a b → ¬TransGen (Goes step) b b := by
  constructor
  · intro ends b reaches
    obtain ⟨n, result, ended⟩ := ends.of_reaches reaches
    exact not_circle_of_rounds ended
  · intro straight
    by_contra endless
    have goes := fun n => goes_argument (not_ends_argument endless n)
    -- the arguments behind the first lie in the finite set, so one comes twice
    have inside : ∀ n, argument step a (n + 1) ∈ {b | ∃ a, Goes step a b} :=
      fun n => ⟨argument step a n, goes n⟩
    obtain ⟨m, n, less, same⟩ := finite.exists_lt_map_eq_of_forall_mem inside
    have reaches : ReflTransGen (Goes step) a (argument step a (m + 1)) :=
      Nat.rel_of_forall_rel_succ_of_le _ (fun n => .single (goes n)) (Nat.zero_le (m + 1))
    have circle : TransGen (Goes step) (argument step a (m + 1)) (argument step a (n + 1)) :=
      Nat.rel_of_forall_rel_succ_of_lt _ (fun n => .single (goes n)) (by omega)
    rw [← same] at circle
    exact straight _ reaches circle

end

end WinInspect.Chain
