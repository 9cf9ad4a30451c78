import WinInspect.Transition.Core

/-!
# Two runs side by side

A coupling runs two systems together.  A step of the first one must be allowed in the
state it leaves; the second one answers it with a step of its own or not at all, and what
may answer what is a relation on the two states and the labels.

A relation between the two states is a simulation if every answer to an allowed step is
enabled and leads to related states again.  Then the second run is never stuck, and the
states stay related in all coupled runs.
-/

namespace WinInspect.Transition

universe u v w x

variable {S : Type u} {T : Type v} {L : Type w} {M : Type x}

/-- A run by allowed steps, with their labels. -/
inductive Trace (next : Step S L) (allowed : S → L → Prop) (source : S) : List L → S → Prop
  | nil : Trace next allowed source [] source
  | snoc {labels : List L} {middle : S} {label : L} {target : S} :
      Trace next allowed source labels middle → allowed middle label →
        next middle label = some target → Trace next allowed source (labels ++ [label]) target

theorem Trace.cons {next : Step S L} {allowed : S → L → Prop} {source middle target : S}
    {label : L} {labels : List L} (admitted : allowed source label)
    (step : next source label = some middle) (rest : Trace next allowed middle labels target) :
    Trace next allowed source (label :: labels) target := by
  induction rest with
  | nil => exact Trace.nil.snoc admitted step
  | snoc _ later last inductionHypothesis => exact inductionHypothesis.snoc later last

/-- Executing with a check that implies the condition is a run. -/
theorem Trace.of_checked {next : Step S L} {allowed : S → L → Prop} {check : S → L → Bool}
    (sound : ∀ state label, check state label = true → allowed state label) {labels : List L}
    {source target : S} (executed : exec (checked next check) source labels = some target) :
    Trace next allowed source labels target := by
  induction labels generalizing source with
  | nil =>
      cases executed
      exact Trace.nil
  | cons label labels inductionHypothesis =>
      obtain ⟨middle, step, rest⟩ := Option.bind_eq_some_iff.mp executed
      unfold checked at step
      split at step
      · rename_i passed
        exact Trace.cons (sound source label passed) step (inductionHypothesis rest)
      · cases step

/-- Two systems, the steps that are allowed to the first, and the answers of the second. -/
structure Coupling (S : Type u) (T : Type v) (L : Type w) (M : Type x) where
  first : Step S L
  second : Step T M
  allowed : S → L → Prop
  reply : S → T → L → Option M → Prop

namespace Coupling

/-- The second system makes the given step, if it is given one. -/
def answer (c : Coupling S T L M) (t : T) : Option M → Option T
  | none => some t
  | some label => c.second t label

/-- A step of the first system and its answer. -/
def next (c : Coupling S T L M) : Step (S × T) (L × Option M) := fun state move =>
  (c.first state.1 move.1).bind fun s => (c.answer state.2 move.2).map fun t => (s, t)

/-- The condition on a coupled step. -/
def permits (c : Coupling S T L M) (state : S × T) (move : L × Option M) : Prop :=
  c.allowed state.1 move.1 ∧ c.reply state.1 state.2 move.1 move.2

/-- Every answer to an allowed step from related states is enabled and leads to related
states. -/
def Simulation (c : Coupling S T L M) (related : S → T → Prop) : Prop :=
  ∀ ⦃s t label s' given⦄, related s t → c.allowed s label → c.first s label = some s' →
    c.reply s t label given → ∃ t', c.answer t given = some t' ∧ related s' t'

variable {c : Coupling S T L M} {related : S → T → Prop} {s₀ s s' : S} {t₀ t : T}

theorem next_eq_some {move : L × Option M} {after : S × T}
    (step : c.next (s, t) move = some after) :
    c.first s move.1 = some after.1 ∧ c.answer t move.2 = some after.2 := by
  obtain ⟨s', stepped, mapped⟩ := Option.bind_eq_some_iff.mp step
  obtain ⟨t', answered, rfl⟩ := Option.map_eq_some_iff.mp mapped
  exact ⟨stepped, answered⟩

/-- Coupled runs stay related. -/
theorem Simulation.holds (simulation : c.Simulation related) (start : related s₀ t₀)
    {state : S × T} (run : Steps c.next c.permits (s₀, t₀) state) : related state.1 state.2 := by
  induction run with
  | refl => exact start
  | tail _ permitted step inductionHypothesis =>
      obtain ⟨stepped, answered⟩ := next_eq_some step
      obtain ⟨t', enabled, after⟩ :=
        simulation inductionHypothesis permitted.1 stepped permitted.2
      cases answered.symm.trans enabled
      exact after

/-- The second run is never stuck. -/
theorem Simulation.enabled (simulation : c.Simulation related) (start : related s₀ t₀)
    (run : Steps c.next c.permits (s₀, t₀) (s, t)) {label : L} {given : Option M}
    (admitted : c.allowed s label) (step : c.first s label = some s')
    (replied : c.reply s t label given) : ∃ t', c.answer t given = some t' := by
  obtain ⟨t', answered, _⟩ := simulation (simulation.holds start run) admitted step replied
  exact ⟨t', answered⟩

/-- If every allowed step has an answer, every run of the first system is answered by a run
of the second. -/
theorem Simulation.exists_answers (simulation : c.Simulation related) (start : related s₀ t₀)
    (total : ∀ ⦃s t label s'⦄, related s t → c.allowed s label → c.first s label = some s' →
      ∃ given, c.reply s t label given)
    {labels : List L} (trace : Trace c.first c.allowed s₀ labels s) :
    ∃ (moves : List (L × Option M)) (t : T), moves.map Prod.fst = labels ∧
      exec c.second t₀ (moves.filterMap Prod.snd) = some t ∧ related s t ∧
      ∀ move ∈ moves, ∃ s t, c.reply s t move.1 move.2 := by
  induction trace with
  | nil => exact ⟨[], t₀, rfl, rfl, start, by simp⟩
  | @snoc labels middle label target _ admitted step inductionHypothesis =>
      obtain ⟨moves, t, same, executed, holds, replies⟩ := inductionHypothesis
      obtain ⟨given, replied⟩ := total holds admitted step
      obtain ⟨t', answered, holds'⟩ := simulation holds admitted step replied
      refine ⟨moves ++ [(label, given)], t', by simp [same], ?_, holds', ?_⟩
      · rw [List.filterMap_append, exec_append, executed, Option.bind_some]
        cases given with
        | none => exact answered
        | some answer => simpa [Coupling.answer] using answered
      · intro move member
        rcases List.mem_append.mp member with old | new
        · exact replies move old
        · cases List.mem_singleton.mp new
          exact ⟨middle, t, replied⟩

end Coupling

end WinInspect.Transition
