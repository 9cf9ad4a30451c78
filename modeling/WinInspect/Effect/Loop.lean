import Mathlib.Data.List.Forall2
import WinInspect.Effect.Program

/-!
# Loops that collect

A loop over a list whose rounds append to a list in the state.  A round that throws ends
the loop, and what the rounds before it have collected stays.
-/

namespace WinInspect.Effect

variable {Op : Type → Type} {ε α β σ : Type}

namespace Program

/-- The round for `x` appends `y` to the collection; `put` is the state with a collection. -/
def Collects (interp : Interp Op ε σ) (body : α → Program Op ε PUnit) (put : List β → σ) (x : α)
    (y : β) : Prop :=
  ∀ collected, (body x).run interp (put collected) = (.ok ⟨⟩, put (collected ++ [y]))

variable {interp : Interp Op ε σ} {body : α → Program Op ε PUnit} {put : List β → σ}
  {xs : List α} {ys : List β}

/-- A loop none of whose rounds throws collects from all of them in order. -/
theorem run_forM (rounds : List.Forall₂ (Collects interp body put) xs ys) (collected : List β) :
    (forM xs body).run interp (put collected) = (.ok ⟨⟩, put (collected ++ ys)) := by
  induction rounds generalizing collected with
  | nil =>
      rw [List.append_nil]
      rfl
  | cons round _ inductionHypothesis =>
      rw [List.forM_cons, bind_eq, run_bind, round, proceed_ok, inductionHypothesis,
        List.append_assoc, List.singleton_append]

/-- A loop that throws keeps what the rounds before have collected. -/
theorem run_forM_throws (rounds : List.Forall₂ (Collects interp body put) xs ys) {bad : α} {e : ε}
    (thrown : ∀ s, (body bad).run interp s = (.error e, s)) (rest : List α)
    (collected : List β) :
    (forM (xs ++ bad :: rest) body).run interp (put collected) =
      (.error e, put (collected ++ ys)) := by
  induction rounds generalizing collected with
  | nil =>
      rw [List.nil_append, List.append_nil, List.forM_cons, bind_eq, run_bind, thrown,
        proceed_error]
  | cons round _ inductionHypothesis =>
      rw [List.cons_append, List.forM_cons, bind_eq, run_bind, round, proceed_ok,
        inductionHypothesis, List.append_assoc, List.singleton_append]

end Program

/-- All elements of a list can be read, or there is a first that cannot. -/
theorem reads_or_throws (read : α → Except ε β) (xs : List α) :
    (∃ ys, List.Forall₂ (fun x y => read x = .ok y) xs ys) ∨
      ∃ good ys bad rest e, xs = good ++ bad :: rest ∧
        List.Forall₂ (fun x y => read x = .ok y) good ys ∧ read bad = .error e := by
  induction xs with
  | nil => exact Or.inl ⟨[], .nil⟩
  | cons x xs inductionHypothesis =>
      cases first : read x with
      | error e => exact Or.inr ⟨[], [], x, xs, e, rfl, .nil, first⟩
      | ok y =>
          rcases inductionHypothesis with ⟨ys, all⟩ | ⟨good, ys, bad, rest, e, rfl, all, failed⟩
          · exact Or.inl ⟨y :: ys, .cons first all⟩
          · exact Or.inr ⟨x :: good, y :: ys, bad, rest, e, rfl, .cons first all, failed⟩

end WinInspect.Effect
