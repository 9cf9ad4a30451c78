import Mathlib.Order.Basic

/-!
# Labelled partial transitions

A system is a partial function from a state and a label to the next state.  The
label carries everything the system does not decide itself: which thread moves,
which message arrives, what the clock shows.  Quantifying over label lists is
then quantifying over every schedule and every environment.

`Steps next allowed` is reachability by steps that each satisfy `allowed` in the
state they leave.  Its invariant rule is the only induction over runs that the
rest of the development needs.
-/

namespace WinInspect.Transition

universe u v

/-- A labelled transition function; `none` means that the label is not enabled. -/
abbrev Step (S : Type u) (L : Type v) := S → L → Option S

variable {S : Type u} {L : Type v}

/-- Fire a list of labels in order, failing at the first one that is not enabled. -/
def exec (next : Step S L) : S → List L → Option S
  | state, [] => some state
  | state, label :: labels => (next state label).bind fun middle => exec next middle labels

@[simp]
theorem exec_nil (next : Step S L) (state : S) : exec next state [] = some state :=
  rfl

@[simp]
theorem exec_cons (next : Step S L) (state : S) (label : L) (labels : List L) :
    exec next state (label :: labels) =
      (next state label).bind fun middle => exec next middle labels :=
  rfl

/-- What a check of the end of an execution says about the state it ends in. -/
theorem get_of_any {ending : Option S} {holds : S → Prop} [DecidablePred holds]
    (passed : (ending.any fun state => decide (holds state)) = true) (enabled : ending.isSome) :
    holds (ending.get enabled) := by
  obtain ⟨_, passed⟩ := (Option.any_eq_true_iff_get _ _).mp passed
  exact of_decide_eq_true passed

theorem exec_append (next : Step S L) (state : S) (first second : List L) :
    exec next state (first ++ second) =
      (exec next state first).bind fun middle => exec next middle second := by
  induction first generalizing state with
  | nil => rfl
  | cons label labels inductionHypothesis =>
      rw [List.cons_append, exec_cons, exec_cons, Option.bind_assoc]
      exact Option.bind_congr fun middle _ => inductionHypothesis middle

/-- Reachability by steps that all meet `allowed` in the state they leave. -/
inductive Steps (next : Step S L) (allowed : S → L → Prop) : S → S → Prop
  | refl (state : S) : Steps next allowed state state
  | tail {source middle target : S} {label : L} :
      Steps next allowed source middle → allowed middle label →
        next middle label = some target → Steps next allowed source target

variable {next : Step S L} {allowed : S → L → Prop} {source middle target : S}

/-- A predicate that holds at the start and is kept by every allowed step holds
in every state reached by allowed steps. -/
theorem Steps.invariant {holds : S → Prop} (run : Steps next allowed source target)
    (start : holds source)
    (keep : ∀ ⦃before : S⦄ ⦃label : L⦄ ⦃after : S⦄, holds before → allowed before label →
      next before label = some after → holds after) :
    holds target := by
  induction run with
  | refl => exact start
  | tail _ admitted step inductionHypothesis =>
      exact keep inductionHypothesis admitted step

/-- The invariant rule with a property that is known of every reached state. -/
theorem Steps.invariant_of_known {known holds : S → Prop} (run : Steps next allowed source target)
    (all : ∀ state, Steps next allowed source state → known state) (start : holds source)
    (keep : ∀ ⦃before : S⦄ ⦃label : L⦄ ⦃after : S⦄, known before → holds before →
      allowed before label → next before label = some after → holds after) :
    holds target := by
  induction run with
  | refl => exact start
  | tail earlier admitted step inductionHypothesis =>
      exact keep (all _ earlier) inductionHypothesis admitted step

/-- A run with a condition is a run with a weaker one. -/
theorem Steps.mono {allowed' : S → L → Prop} (run : Steps next allowed source target)
    (weaker : ∀ state label, allowed state label → allowed' state label) :
    Steps next allowed' source target := by
  induction run with
  | refl => exact Steps.refl _
  | tail _ admitted step inductionHypothesis =>
      exact inductionHypothesis.tail (weaker _ _ admitted) step

theorem Steps.trans (first : Steps next allowed source middle)
    (second : Steps next allowed middle target) : Steps next allowed source target := by
  induction second with
  | refl => exact first
  | tail _ admitted step inductionHypothesis =>
      exact inductionHypothesis.tail admitted step

theorem Steps.single {label : L} (admitted : allowed source label)
    (step : next source label = some target) : Steps next allowed source target :=
  (Steps.refl source).tail admitted step

/-- Executing a label list whose labels are always allowed is a run. -/
theorem Steps.of_exec {labels : List L}
    (admitted : ∀ label ∈ labels, ∀ state, allowed state label)
    (executed : exec next source labels = some target) :
    Steps next allowed source target := by
  induction labels generalizing source with
  | nil =>
      cases executed
      exact Steps.refl _
  | cons label labels inductionHypothesis =>
      obtain ⟨middle, step, rest⟩ := Option.bind_eq_some_iff.mp executed
      have first : Steps next allowed source middle :=
        Steps.single (admitted label List.mem_cons_self source) step
      exact first.trans
        (inductionHypothesis (fun other member => admitted other (List.mem_cons_of_mem _ member))
          rest)

/-- The steps that pass a check. -/
def checked (next : Step S L) (check : S → L → Bool) : Step S L :=
  fun state label => if check state label then next state label else none

/-- Executing with a check that implies the condition is a run. -/
theorem Steps.of_checked {check : S → L → Bool} {labels : List L}
    (sound : ∀ state label, check state label = true → allowed state label)
    (executed : exec (checked next check) source labels = some target) :
    Steps next allowed source target := by
  induction labels generalizing source with
  | nil =>
      cases executed
      exact Steps.refl _
  | cons label labels inductionHypothesis =>
      obtain ⟨middle, step, rest⟩ := Option.bind_eq_some_iff.mp executed
      unfold checked at step
      split at step
      · rename_i passed
        exact (Steps.single (sound source label passed) step).trans (inductionHypothesis rest)
      · cases step

end WinInspect.Transition
