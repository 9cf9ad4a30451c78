/-!
# Programs over a signature of operations

A `Program` calls operations of an indexed signature, throws, or returns.  An
interpretation gives the operations a meaning on a state; an exception keeps the
state changes made before it.
-/

namespace WinInspect.Effect

/-- A program over the operations `Op` with exceptions in `ε`. -/
inductive Program (Op : Type → Type) (ε α : Type) : Type 1
  | ret (value : α)
  | throw (error : ε)
  | call {β : Type} (op : Op β) (next : β → Program Op ε α)

variable {Op : Type → Type} {ε α β σ : Type}

namespace Program

/-- Sequencing. -/
def bind (first : Program Op ε α) (next : α → Program Op ε β) : Program Op ε β :=
  match first with
  | ret value => next value
  | throw error => throw error
  | call op rest => call op fun answer => (rest answer).bind next

instance : Monad (Program Op ε) where
  pure := ret
  bind := bind

@[simp]
theorem pure_eq (value : α) : (pure value : Program Op ε α) = ret value :=
  rfl

@[simp]
theorem bind_eq (first : Program Op ε α) (next : α → Program Op ε β) :
    first >>= next = first.bind next :=
  rfl

@[simp]
theorem ret_bind (value : α) (next : α → Program Op ε β) :
    (ret value : Program Op ε α).bind next = next value :=
  rfl

@[simp]
theorem throw_bind (error : ε) (next : α → Program Op ε β) :
    (throw error : Program Op ε α).bind next = throw error :=
  rfl

@[simp]
theorem call_bind {γ : Type} (op : Op γ) (rest : γ → Program Op ε α)
    (next : α → Program Op ε β) :
    (call op rest).bind next = call op fun answer => (rest answer).bind next :=
  rfl

/-- Call an operation and return its answer. -/
def perform (op : Op α) : Program Op ε α :=
  call op ret

/-- Return a value or throw an error. -/
def ofExcept : Except ε α → Program Op ε α
  | .ok value => ret value
  | .error error => throw error

@[simp]
theorem ofExcept_ok (value : α) : (ofExcept (.ok value) : Program Op ε α) = ret value :=
  rfl

@[simp]
theorem ofExcept_error (error : ε) : (ofExcept (.error error) : Program Op ε α) = throw error :=
  rfl

end Program

/-- The meaning of the operations on a state. -/
structure Interp (Op : Type → Type) (ε σ : Type) where
  /-- One operation; an error is the exception it throws. -/
  apply : {β : Type} → Op β → σ → Except ε β × σ

/-- Go on with an answer; an exception ends the program. -/
def proceed (result : Except ε β × σ) (next : β → σ → Except ε α × σ) : Except ε α × σ :=
  match result with
  | (.ok answer, after) => next answer after
  | (.error error, after) => (.error error, after)

namespace Program

/-- Run a program under an interpretation. -/
def run (interp : Interp Op ε σ) : Program Op ε α → σ → Except ε α × σ
  | ret value, state => (.ok value, state)
  | throw error, state => (.error error, state)
  | call op next, state =>
      proceed (interp.apply op state) fun answer after => (next answer).run interp after

@[simp]
theorem run_ret (interp : Interp Op ε σ) (value : α) (state : σ) :
    (ret value : Program Op ε α).run interp state = (.ok value, state) :=
  rfl

@[simp]
theorem run_throw (interp : Interp Op ε σ) (error : ε) (state : σ) :
    (throw error : Program Op ε α).run interp state = (.error error, state) :=
  rfl

theorem run_call (interp : Interp Op ε σ) (op : Op β) (next : β → Program Op ε α) (state : σ) :
    (call op next).run interp state =
      proceed (interp.apply op state) fun answer after => (next answer).run interp after :=
  rfl

@[simp]
theorem proceed_ok (answer : β) (after : σ) (next : β → σ → Except ε α × σ) :
    proceed (.ok answer, after) next = next answer after :=
  rfl

@[simp]
theorem proceed_error (error : ε) (after : σ) (next : β → σ → Except ε α × σ) :
    proceed (.error error, after) next = (.error error, after) :=
  rfl

theorem run_bind (interp : Interp Op ε σ) (first : Program Op ε α) (next : α → Program Op ε β)
    (state : σ) :
    (first.bind next).run interp state =
      proceed (first.run interp state) fun value after => (next value).run interp after := by
  induction first generalizing state with
  | ret value => rfl
  | throw error => rfl
  | call op rest ih =>
      rw [call_bind, run_call, run_call]
      rcases interp.apply op state with ⟨error | answer, after⟩
      · rfl
      · exact ih answer after

/-- A sequence returns exactly when both parts do. -/
theorem run_bind_ok_iff {interp : Interp Op ε σ} {first : Program Op ε α}
    {next : α → Program Op ε β} {state after : σ} {result : β} :
    (first.bind next).run interp state = (.ok result, after) ↔
      ∃ value middle, first.run interp state = (.ok value, middle) ∧
        (next value).run interp middle = (.ok result, after) := by
  rw [run_bind]
  rcases first.run interp state with ⟨error | value, middle⟩
  · simp
  · constructor
    · exact fun ran => ⟨value, middle, rfl, ran⟩
    · rintro ⟨_, _, ⟨⟩, ran⟩
      exact ran

/-- The operations a run calls, in order. -/
def calls (interp : Interp Op ε σ) : Program Op ε α → σ → List (Sigma Op)
  | ret _, _ => []
  | throw _, _ => []
  | call op next, state =>
      ⟨_, op⟩ ::
        match interp.apply op state with
        | (.ok answer, after) => (next answer).calls interp after
        | (.error _, _) => []

/-- A sequence calls what its first part does, and goes on if that returns. -/
theorem calls_bind (interp : Interp Op ε σ) (first : Program Op ε α)
    (next : α → Program Op ε β) (state : σ) :
    (first.bind next).calls interp state =
      first.calls interp state ++
        match first.run interp state with
        | (.ok value, after) => (next value).calls interp after
        | (.error _, _) => [] := by
  induction first generalizing state with
  | ret value => rfl
  | throw error => rfl
  | call op rest ih =>
      rw [call_bind, run_call, calls, calls]
      rcases interp.apply op state with ⟨error | answer, after⟩
      · rfl
      · exact congrArg _ (ih answer after)

@[simp]
theorem calls_ofExcept (interp : Interp Op ε σ) (result : Except ε α) (state : σ) :
    (ofExcept result : Program Op ε α).calls interp state = [] := by
  cases result <;> rfl

@[simp]
theorem calls_perform (interp : Interp Op ε σ) (op : Op α) (state : σ) :
    (perform op : Program Op ε α).calls interp state = [⟨α, op⟩] := by
  unfold perform
  rw [calls]
  rcases interp.apply op state with ⟨error | answer, after⟩ <;> rfl

theorem mem_calls_perform {interp : Interp Op ε σ} {op : Op α} {state : σ} {called : Sigma Op}
    (performed : called ∈ (perform op : Program Op ε α).calls interp state) : called = ⟨α, op⟩ := by
  rw [calls_perform] at performed
  exact List.mem_singleton.mp performed

theorem run_perform (interp : Interp Op ε σ) (op : Op α) (state : σ) :
    (perform op : Program Op ε α).run interp state = interp.apply op state := by
  unfold perform
  rw [run_call]
  rcases interp.apply op state with ⟨error | answer, after⟩ <;> rfl

theorem run_ofExcept (interp : Interp Op ε σ) (result : Except ε α) (state : σ) :
    (ofExcept result : Program Op ε α).run interp state = (result, state) := by
  cases result <;> rfl

end Program

end WinInspect.Effect
