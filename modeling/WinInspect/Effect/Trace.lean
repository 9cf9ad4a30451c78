import WinInspect.Effect.Program

/-!
# Traces and postconditions

The trace of a run lists its operations with the states before and after each.  A program meets a
specification from a state if every event of the trace is safe and its outcome, a value or an
exception, is as the specification says; the rules below follow the forms of programs.
-/

namespace WinInspect.Effect

variable {Op : Type → Type} {ε α β σ : Type}

/-- One operation of a run. -/
structure Event (Op : Type → Type) (σ : Type) where
  before : σ
  op : Sigma Op
  after : σ

namespace Program

/-- The operations of a run with the states around them. -/
def trace (interp : Interp Op ε σ) : Program Op ε α → σ → List (Event Op σ)
  | ret _, _ => []
  | throw _, _ => []
  | call op next, state =>
      ⟨state, ⟨_, op⟩, (interp.apply op state).2⟩ ::
        match interp.apply op state with
        | (.ok answer, after) => (next answer).trace interp after
        | (.error _, _) => []

/-- Every event is safe, and the outcome meets its condition. -/
def Meets (interp : Interp Op ε σ) (safe : Event Op σ → Prop) (post : α → σ → Prop)
    (exit : ε → σ → Prop) (program : Program Op ε α) (state : σ) : Prop :=
  (∀ event ∈ program.trace interp state, safe event) ∧
    match program.run interp state with
    | (.ok value, after) => post value after
    | (.error error, after) => exit error after

section

variable {interp : Interp Op ε σ} {safe : Event Op σ → Prop} {exit : ε → σ → Prop} {state : σ}

theorem meets_ret {post : α → σ → Prop} {value : α} (holds : post value state) :
    Meets interp safe post exit (ret value) state :=
  ⟨fun _ member => absurd member List.not_mem_nil, holds⟩

theorem meets_throw {post : α → σ → Prop} {error : ε} (holds : exit error state) :
    Meets interp safe post exit (throw error) state :=
  ⟨fun _ member => absurd member List.not_mem_nil, holds⟩

/-- A call is safe, and what follows it meets the specification. -/
theorem meets_call_iff {post : α → σ → Prop} {op : Op β} {next : β → Program Op ε α} :
    Meets interp safe post exit (call op next) state ↔
      safe ⟨state, ⟨β, op⟩, (interp.apply op state).2⟩ ∧
        match interp.apply op state with
        | (.ok answer, after) => Meets interp safe post exit (next answer) after
        | (.error error, after) => exit error after := by
  rw [Meets, trace, run_call, List.forall_mem_cons, and_assoc]
  rcases interp.apply op state with ⟨error | answer, after⟩
  · exact and_congr_right fun _ => and_iff_right fun _ member => absurd member List.not_mem_nil
  · exact Iff.rfl

/-- An operation that answers. -/
theorem meets_perform {post : α → σ → Prop} {op : Op α} {answer : α} {after : σ}
    (answers : interp.apply op state = (.ok answer, after)) (allowed : safe ⟨state, ⟨α, op⟩, after⟩)
    (holds : post answer after) : Meets interp safe post exit (perform op) state := by
  rw [perform, meets_call_iff, answers]
  exact ⟨allowed, meets_ret holds⟩

/-- Sequencing. -/
theorem Meets.bind {middle : α → σ → Prop} {post : β → σ → Prop} {first : Program Op ε α}
    {next : α → Program Op ε β} (begins : Meets interp safe middle exit first state)
    (goesOn : ∀ value after, middle value after →
      Meets interp safe post exit (next value) after) :
    Meets interp safe post exit (first >>= next) state := by
  rw [bind_eq]
  induction first generalizing state with
  | ret value => exact goesOn value state begins.2
  | throw error => exact begins
  | call op rest inductionHypothesis =>
      rw [meets_call_iff] at begins
      rw [call_bind, meets_call_iff]
      refine ⟨begins.1, ?_⟩
      rcases result : interp.apply op state with ⟨error | answer, after⟩
      · rw [result] at begins
        exact begins.2
      · rw [result] at begins
        exact inductionHypothesis answer begins.2

/-- A weaker condition on the outcome. -/
theorem Meets.mono {post weaker : α → σ → Prop} {exit' : ε → σ → Prop} {program : Program Op ε α}
    (meets : Meets interp safe post exit program state)
    (values : ∀ value after, post value after → weaker value after)
    (errors : ∀ error after, exit error after → exit' error after) :
    Meets interp safe weaker exit' program state := by
  refine ⟨meets.1, ?_⟩
  have outcome := meets.2
  rcases result : program.run interp state with ⟨error | value, after⟩
  · rw [result] at outcome
    exact errors error after outcome
  · rw [result] at outcome
    exact values value after outcome

end

end Program

end WinInspect.Effect
