import WinInspect.Transition.Core
import Mathlib.Tactic.Linarith

/-!
# Components over shared memory

A composite system is a shared state and a growing list of components.  One step
is a turn of one component, which may change the shared state and the component
itself, the creation of a component, or a step of the environment, which changes
only the shared state.  A component never reads another one.

The rules reduce invariants of whole runs to single turns: an invariant of the
shared state, a property of each component that the turns of the others do not
disturb, and a balance between a counter of the shared state and the number of
components that hold what it counts.

`withAux` adds auxiliary variables, which the system writes and never reads.
-/

namespace WinInspect.Transition

universe u

variable {G C I K E A B : Type u}

/-- The moves of a composite system. -/
structure System (G C I K E : Type u) where
  /-- A component takes a turn with an input. -/
  turn : G → C → I → Option (G × C)
  /-- A component is created. -/
  spawn : G → K → Option (G × C)
  /-- The environment moves. -/
  env : G → E → Option G

/-- Which move is made. -/
inductive Move (I K E : Type u) where
  | turn (index : Nat) (input : I)
  | spawn (kind : K)
  | env (event : E)

/-- The shared state and the components, in order of creation. -/
structure Config (G C : Type u) where
  shared : G
  parts : List C

namespace System

/-- One step of the composite system. -/
def next (sys : System G C I K E) : Step (Config G C) (Move I K E)
  | config, .turn index input =>
      config.parts[index]?.bind fun part =>
        (sys.turn config.shared part input).map fun result =>
          ⟨result.1, config.parts.set index result.2⟩
  | config, .spawn kind =>
      (sys.spawn config.shared kind).map fun result => ⟨result.1, config.parts ++ [result.2]⟩
  | config, .env event =>
      (sys.env config.shared event).map fun shared => ⟨shared, config.parts⟩

variable {sys : System G C I K E}

/-- Every step is of one of the three kinds. -/
theorem next_cases {config after : Config G C} {move : Move I K E}
    (step : sys.next config move = some after) :
    (∃ index input part shared part', move = .turn index input ∧
      config.parts[index]? = some part ∧
      sys.turn config.shared part input = some (shared, part') ∧
      after = ⟨shared, config.parts.set index part'⟩) ∨
    (∃ kind shared part, move = .spawn kind ∧
      sys.spawn config.shared kind = some (shared, part) ∧
      after = ⟨shared, config.parts ++ [part]⟩) ∨
    (∃ event shared, move = .env event ∧ sys.env config.shared event = some shared ∧
      after = ⟨shared, config.parts⟩) := by
  cases move with
  | turn index input =>
      obtain ⟨part, found, mapped⟩ := Option.bind_eq_some_iff.mp step
      obtain ⟨⟨shared, part'⟩, turned, rfl⟩ := Option.map_eq_some_iff.mp mapped
      exact Or.inl ⟨index, input, part, shared, part', rfl, found, turned, rfl⟩
  | spawn kind =>
      obtain ⟨⟨shared, part⟩, spawned, rfl⟩ := Option.map_eq_some_iff.mp step
      exact Or.inr (Or.inl ⟨kind, shared, part, rfl, spawned, rfl⟩)
  | env event =>
      obtain ⟨shared, moved, rfl⟩ := Option.map_eq_some_iff.mp step
      exact Or.inr (Or.inr ⟨event, shared, rfl, moved, rfl⟩)

theorem set_of_getElem? {parts : List C} {index : Nat} {part : C}
    (found : parts[index]? = some part) : parts.set index part = parts := by
  obtain ⟨below, rfl⟩ := List.getElem?_eq_some_iff.mp found
  exact List.set_getElem_self below

/-- A turn of a component as a step. -/
theorem next_turn {config : Config G C} {index : Nat} {part part' : C} {input : I} {shared : G}
    (found : config.parts[index]? = some part)
    (turned : sys.turn config.shared part input = some (shared, part')) :
    sys.next config (.turn index input) = some ⟨shared, config.parts.set index part'⟩ := by
  change config.parts[index]?.bind _ = _
  rw [found, Option.bind_some, turned]
  rfl

theorem next_spawn {config : Config G C} {kind : K} {shared : G} {part : C}
    (spawned : sys.spawn config.shared kind = some (shared, part)) :
    sys.next config (.spawn kind) = some ⟨shared, config.parts ++ [part]⟩ :=
  congrArg (Option.map _) spawned

theorem next_env {config : Config G C} {event : E} {shared : G}
    (moved : sys.env config.shared event = some shared) :
    sys.next config (.env event) = some ⟨shared, config.parts⟩ :=
  congrArg (Option.map _) moved

/-- A condition on turns, spawns and environment steps. -/
structure Guard (G C I K E : Type u) where
  turn : G → C → I → Prop := fun _ _ _ => True
  spawn : G → K → Prop := fun _ _ => True
  env : G → E → Prop := fun _ _ => True

/-- The guard as a condition on the steps of the composite system. -/
def Guard.allows (guard : Guard G C I K E) (config : Config G C) : Move I K E → Prop
  | .turn index input => ∀ part, config.parts[index]? = some part →
      guard.turn config.shared part input
  | .spawn kind => guard.spawn config.shared kind
  | .env event => guard.env config.shared event

/-- Runs whose steps all meet a guard. -/
abbrev Runs (sys : System G C I K E) (guard : Guard G C I K E) :
    Config G C → Config G C → Prop :=
  Steps sys.next guard.allows

theorem Guard.allows_default (config : Config G C) (move : Move I K E) :
    ({} : Guard G C I K E).allows config move := by
  cases move with
  | turn index input => exact fun _ _ => trivial
  | spawn kind => trivial
  | env event => trivial

/-- Executing a list of moves that always meet a guard is a run. -/
theorem runs_exec_of (sys : System G C I K E) (guard : Guard G C I K E) (source : Config G C)
    (moves : List (Move I K E)) (admitted : ∀ move ∈ moves, ∀ config, guard.allows config move)
    (enabled : (exec sys.next source moves).isSome) :
    sys.Runs guard source ((exec sys.next source moves).get enabled) :=
  Steps.of_exec admitted (Option.some_get enabled).symm

/-- Executing a list of moves is a run. -/
theorem runs_of_exec {source target : Config G C} {moves : List (Move I K E)}
    (executed : exec sys.next source moves = some target) : sys.Runs {} source target :=
  Steps.of_exec (fun move _ config => Guard.allows_default config move) executed

theorem runs_exec (sys : System G C I K E) (source : Config G C) (moves : List (Move I K E))
    (enabled : (exec sys.next source moves).isSome) :
    sys.Runs {} source ((exec sys.next source moves).get enabled) :=
  runs_of_exec (Option.some_get enabled).symm

/-- Executing with a check that implies the guard is a run. -/
theorem runs_checked (sys : System G C I K E) (guard : Guard G C I K E)
    (check : Config G C → Move I K E → Bool)
    (sound : ∀ config move, check config move = true → guard.allows config move)
    (source : Config G C) (moves : List (Move I K E))
    (enabled : (exec (checked sys.next check) source moves).isSome) :
    sys.Runs guard source ((exec (checked sys.next check) source moves).get enabled) :=
  Steps.of_checked sound (Option.some_get enabled).symm

variable {guard : Guard G C I K E} {source target : Config G C}

/-- A run of a system with one component goes on with a turn of it. -/
theorem Runs.solo {g g' : G} {c c' : C} {i : I} (run : sys.Runs guard source ⟨g, [c]⟩)
    (fits : guard.turn g c i) (turned : sys.turn g c i = some (g', c')) :
    sys.Runs guard source ⟨g', [c']⟩ := by
  have admitted : guard.allows ⟨g, [c]⟩ (.turn 0 i) := by
    intro part found
    cases found
    exact fits
  refine Steps.tail run admitted ?_
  change (sys.turn g c i).map _ = _
  rw [turned]
  rfl

/-- What one move does to a component and to the components it finds. -/
structure Keeps (sys : System G C I K E) (guard : Guard G C I K E) (whole : G → Prop)
    (each : G → C → Prop) : Prop where
  /-- A turn keeps the shared invariant and the property of the component. -/
  turn : ∀ ⦃g c i g' c'⦄, whole g → each g c → guard.turn g c i →
    sys.turn g c i = some (g', c') → whole g' ∧ each g' c'
  /-- A turn does not disturb another component. -/
  others : ∀ ⦃g c i g' c' d⦄, whole g → each g c → each g d → guard.turn g c i →
    sys.turn g c i = some (g', c') → each g' d
  /-- A new component has the property. -/
  spawn : ∀ ⦃g k g' c'⦄, whole g → guard.spawn g k → sys.spawn g k = some (g', c') →
    whole g' ∧ each g' c' ∧ ∀ d, each g d → each g' d
  env : ∀ ⦃g e g'⦄, whole g → guard.env g e → sys.env g e = some g' →
    whole g' ∧ ∀ d, each g d → each g' d

/-- A property of the shared state and one of every component. -/
def Everywhere (whole : G → Prop) (each : G → C → Prop) (config : Config G C) : Prop :=
  whole config.shared ∧ ∀ part ∈ config.parts, each config.shared part

theorem Keeps.step {whole : G → Prop} {each : G → C → Prop} (keeps : Keeps sys guard whole each)
    {before after : Config G C} {move : Move I K E} (holds : Everywhere whole each before)
    (admitted : guard.allows before move) (step : sys.next before move = some after) :
    Everywhere whole each after := by
  obtain ⟨wholeHolds, eachHolds⟩ := holds
  rcases next_cases step with ⟨index, input, part, shared, part', rfl, found, turned, rfl⟩ |
    ⟨kind, shared, part, rfl, spawned, rfl⟩ | ⟨event, shared, rfl, moved, rfl⟩
  · have fits : guard.turn before.shared part input := admitted part found
    have mine : each before.shared part := eachHolds part (List.mem_of_getElem? found)
    have own := keeps.turn wholeHolds mine fits turned
    refine ⟨own.1, fun other member => ?_⟩
    rcases List.mem_or_eq_of_mem_set member with old | rfl
    · exact keeps.others wholeHolds mine (eachHolds other old) fits turned
    · exact own.2
  · obtain ⟨wholeAfter, newHolds, rest⟩ := keeps.spawn wholeHolds admitted spawned
    refine ⟨wholeAfter, fun other member => ?_⟩
    rcases List.mem_append.mp member with old | new
    · exact rest other (eachHolds other old)
    · cases List.mem_singleton.mp new
      exact newHolds
  · obtain ⟨wholeAfter, rest⟩ := keeps.env wholeHolds admitted moved
    exact ⟨wholeAfter, fun other member => rest other (eachHolds other member)⟩

/-- A property of the shared state and of every component that each move keeps holds
in every reached state. -/
theorem Runs.invariant {whole : G → Prop} {each : G → C → Prop}
    (run : sys.Runs guard source target) (keeps : Keeps sys guard whole each)
    (start : Everywhere whole each source) : Everywhere whole each target :=
  Steps.invariant run start fun _ _ _ holds admitted step => keeps.step holds admitted step

/-- A property of the components alone, which every turn keeps and every new component
has, holds of every component in every reached state. -/
theorem Runs.each {each : C → Prop} (run : sys.Runs guard source target)
    (turn : ∀ ⦃g c i g' c'⦄, each c → guard.turn g c i → sys.turn g c i = some (g', c') → each c')
    (spawn : ∀ ⦃g k g' c'⦄, sys.spawn g k = some (g', c') → each c')
    (start : ∀ part ∈ source.parts, each part) : ∀ part ∈ target.parts, each part := by
  have keeps : Keeps sys guard (fun _ => True) fun _ => each :=
    { turn := fun _ _ _ _ _ _ holds fits turned => ⟨trivial, turn holds fits turned⟩
      others := fun _ _ _ _ _ _ _ _ holds _ _ => holds
      spawn := fun _ _ _ _ _ _ spawned => ⟨trivial, spawn spawned, fun _ holds => holds⟩
      env := fun _ _ _ _ _ _ => ⟨trivial, fun _ holds => holds⟩ }
  exact (run.invariant keeps ⟨trivial, start⟩).2

/-- A property of the shared state alone, which every move keeps, holds in every reached
state. -/
theorem Runs.shared (whole : G → Prop) (run : sys.Runs guard source target)
    (start : whole source.shared)
    (turn : ∀ ⦃g c i g' c'⦄, whole g → guard.turn g c i → sys.turn g c i = some (g', c') → whole g')
    (spawn : ∀ ⦃g k g' c'⦄, whole g → sys.spawn g k = some (g', c') → whole g')
    (env : ∀ ⦃g e g'⦄, whole g → guard.env g e → sys.env g e = some g' → whole g') :
    whole target.shared := by
  have keeps : Keeps sys guard whole fun _ _ => True :=
    { turn := fun _ _ _ _ _ holds _ fits turned => ⟨turn holds fits turned, trivial⟩
      others := fun _ _ _ _ _ _ _ _ _ _ _ => trivial
      spawn := fun _ _ _ _ holds _ spawned => ⟨spawn holds spawned, trivial, fun _ _ => trivial⟩
      env := fun _ _ _ holds fits moved => ⟨env holds fits moved, fun _ _ => trivial⟩ }
  exact (run.invariant keeps ⟨start, fun _ _ => trivial⟩).1

/-! ## Counting -/

/-- Each move changes a counter of the shared state by exactly the change in the number
of components that hold something. -/
structure Counts (sys : System G C I K E) (guard : Guard G C I K E) (whole : G → Prop)
    (each : G → C → Prop) (count : G → ℤ) (holds : C → Bool) : Prop where
  turn : ∀ ⦃g c i g' c'⦄, whole g → each g c → 0 ≤ count g → guard.turn g c i →
    sys.turn g c i = some (g', c') → count g' + (holds c).toInt = count g + (holds c').toInt
  spawn : ∀ ⦃g k g' c'⦄, whole g → guard.spawn g k → sys.spawn g k = some (g', c') →
    count g' = count g ∧ holds c' = false
  env : ∀ ⦃g e g'⦄, whole g → guard.env g e → sys.env g e = some g' → count g' = count g

theorem countP_set (holds : C → Bool) {parts : List C} {index : Nat} {part : C}
    (found : parts[index]? = some part) (part' : C) :
    ((parts.set index part').countP holds : ℤ) + (holds part).toInt =
      parts.countP holds + (holds part').toInt := by
  induction parts generalizing index with
  | nil => simp at found
  | cons first rest inductionHypothesis =>
      cases index with
      | zero =>
          simp only [List.getElem?_cons_zero, Option.some.injEq] at found
          subst found
          simp only [List.set_cons_zero, List.countP_cons]
          cases holds first <;> cases holds part' <;> simp
      | succ index =>
          have smaller := inductionHypothesis (show rest[index]? = some part by simpa using found)
          simp only [List.set_cons_succ, List.countP_cons]
          push_cast
          linarith

/-- The counter is the number of holders in every reached state. -/
theorem Runs.counted {whole : G → Prop} {each : G → C → Prop} {count : G → ℤ} {holds : C → Bool}
    (run : sys.Runs guard source target) (keeps : Keeps sys guard whole each)
    (counts : Counts sys guard whole each count holds)
    (start : Everywhere whole each source)
    (balanced : count source.shared = source.parts.countP holds) :
    count target.shared = target.parts.countP holds := by
  have both : Everywhere whole each target ∧
      count target.shared = target.parts.countP holds := by
    induction run with
    | refl => exact ⟨start, balanced⟩
    | @tail middle target move _ admitted step inductionHypothesis =>
        obtain ⟨holding, sum⟩ := inductionHypothesis
        have nonneg : 0 ≤ count middle.shared := by
          rw [sum]
          exact Int.natCast_nonneg _
        refine ⟨keeps.step holding admitted step, ?_⟩
        rcases next_cases step with ⟨index, input, part, shared, part', rfl, found, turned, rfl⟩ |
          ⟨kind, shared, part, rfl, spawned, rfl⟩ | ⟨event, shared, rfl, moved, rfl⟩
        · have mine := holding.2 part (List.mem_of_getElem? found)
          have change := counts.turn holding.1 mine nonneg (admitted part found) turned
          have shares := countP_set holds found part'
          dsimp only
          linarith
        · obtain ⟨same, free⟩ := counts.spawn holding.1 admitted spawned
          dsimp only
          rw [List.countP_append, List.countP_singleton, free, same, sum]
          simp
        · dsimp only
          rw [counts.env holding.1 admitted moved, sum]
  exact both.2

/-- No move raises a counter of the shared state above zero by more than the change in the number
of components that hold something. -/
structure Covers (sys : System G C I K E) (guard : Guard G C I K E) (each : G → C → Prop)
    (count : G → ℤ) (holds : C → Bool) : Prop where
  turn : ∀ ⦃g c i g' c'⦄, each g c → guard.turn g c i → sys.turn g c i = some (g', c') →
    count g' ≤ 0 ∨ count g' + (holds c).toInt ≤ count g + (holds c').toInt
  spawn : ∀ ⦃g k g' c'⦄, sys.spawn g k = some (g', c') → count g' ≤ count g
  env : ∀ ⦃g e g'⦄, sys.env g e = some g' → count g' ≤ count g

/-- The counter is at most the number of holders in every reached state. -/
theorem Runs.covered {whole : G → Prop} {each : G → C → Prop} {count : G → ℤ} {holds : C → Bool}
    (run : sys.Runs guard source target) (keeps : Keeps sys guard whole each)
    (covers : Covers sys guard each count holds) (start : Everywhere whole each source)
    (covered : count source.shared ≤ source.parts.countP holds) :
    count target.shared ≤ target.parts.countP holds := by
  let holding : Config G C → Prop := fun config => count config.shared ≤ config.parts.countP holds
  change holding target
  refine Steps.invariant_of_known run
    (fun _ reached => Runs.invariant reached keeps start) covered ?_
  intro before move after known below admitted step
  rcases next_cases step with ⟨index, input, part, shared, part', rfl, found, turned, rfl⟩ |
    ⟨kind, shared, part, rfl, spawned, rfl⟩ | ⟨event, shared, rfl, moved, rfl⟩
  · have mine := known.2 part (List.mem_of_getElem? found)
    have shares := countP_set holds found part'
    dsimp only [holding] at below ⊢
    rcases covers.turn mine (admitted part found) turned with low | change
    · exact low.trans (Int.natCast_nonneg _)
    · linarith
  · have same := covers.spawn spawned
    dsimp only [holding] at below ⊢
    rw [List.countP_append]
    push_cast
    linarith [Int.natCast_nonneg ([part].countP holds)]
  · exact (covers.env moved).trans below

/-! ## Auxiliary variables -/

/-- Updates of auxiliary variables: one shared, one for each component.  A turn and a
spawn see the states before and after the move. -/
structure Aux (G C I K E A B : Type u) where
  turn : G → C → I → G → C → A → B → A × B
  spawn : G → K → G → C → A → A × B
  env : G → E → G → A → A

/-- The system with auxiliary variables. -/
def withAux (sys : System G C I K E) (aux : Aux G C I K E A B) :
    System (G × A) (C × B) I K E where
  turn g c i := (sys.turn g.1 c.1 i).map fun result =>
    let marks := aux.turn g.1 c.1 i result.1 result.2 g.2 c.2
    ((result.1, marks.1), (result.2, marks.2))
  spawn g k := (sys.spawn g.1 k).map fun result =>
    let marks := aux.spawn g.1 k result.1 result.2 g.2
    ((result.1, marks.1), (result.2, marks.2))
  env g e := (sys.env g.1 e).map fun shared => (shared, aux.env g.1 e shared g.2)

/-- A guard that does not see the auxiliary variables. -/
def Guard.lift (guard : Guard G C I K E) : Guard (G × A) (C × B) I K E where
  turn g c i := guard.turn g.1 c.1 i
  spawn g k := guard.spawn g.1 k
  env g e := guard.env g.1 e

theorem withAux_turn {aux : Aux G C I K E A B} {g g' : G × A} {c c' : C × B} {i : I}
    (turned : (sys.withAux aux).turn g c i = some (g', c')) :
    sys.turn g.1 c.1 i = some (g'.1, c'.1) ∧
      (g'.2, c'.2) = aux.turn g.1 c.1 i g'.1 c'.1 g.2 c.2 := by
  obtain ⟨result, base, same⟩ := Option.map_eq_some_iff.mp turned
  cases same
  exact ⟨base, rfl⟩

/-- A run with one component goes on with a turn of it, which is recorded. -/
theorem Runs.solo_aux {aux : Aux G C I K E A B} {source : Config (G × A) (C × B)} {g g' : G}
    {c c' : C} {a : A} {b : B} {i : I}
    (run : (sys.withAux aux).Runs guard.lift source ⟨(g, a), [(c, b)]⟩) (fits : guard.turn g c i)
    (turned : sys.turn g c i = some (g', c')) :
    (sys.withAux aux).Runs guard.lift source
      ⟨(g', (aux.turn g c i g' c' a b).1), [(c', (aux.turn g c i g' c' a b).2)]⟩ := by
  have recorded : (sys.withAux aux).turn (g, a) (c, b) i =
      some ((g', (aux.turn g c i g' c' a b).1), (c', (aux.turn g c i g' c' a b).2)) := by
    change (sys.turn g c i).map _ = _
    rw [turned]
    rfl
  exact run.solo fits recorded

theorem withAux_spawn {aux : Aux G C I K E A B} {g g' : G × A} {c' : C × B} {k : K}
    (spawned : (sys.withAux aux).spawn g k = some (g', c')) :
    sys.spawn g.1 k = some (g'.1, c'.1) ∧
      (g'.2, c'.2) = aux.spawn g.1 k g'.1 c'.1 g.2 := by
  obtain ⟨result, base, same⟩ := Option.map_eq_some_iff.mp spawned
  cases same
  exact ⟨base, rfl⟩

theorem withAux_env {aux : Aux G C I K E A B} {g g' : G × A} {e : E}
    (moved : (sys.withAux aux).env g e = some g') :
    sys.env g.1 e = some g'.1 ∧ g'.2 = aux.env g.1 e g'.1 g.2 := by
  obtain ⟨result, base, same⟩ := Option.map_eq_some_iff.mp moved
  cases same
  exact ⟨base, rfl⟩

/-- Forget the auxiliary variables. -/
def erase (config : Config (G × A) (C × B)) : Config G C :=
  ⟨config.shared.1, config.parts.map Prod.fst⟩

/-- A step goes on when it is recorded. -/
theorem exists_withAux_next {aux : Aux G C I K E A B} {config : Config (G × A) (C × B)}
    {move : Move I K E} {after : Config G C} (step : sys.next (erase config) move = some after) :
    ∃ recorded, (sys.withAux aux).next config move = some recorded ∧ erase recorded = after := by
  rcases next_cases step with ⟨index, input, part, shared, part', rfl, found, turned, rfl⟩ |
    ⟨kind, shared, part, rfl, spawned, rfl⟩ | ⟨event, shared, rfl, moved, rfl⟩
  · obtain ⟨⟨part, mark⟩, here, rfl⟩ :=
      Option.map_eq_some_iff.mp ((List.getElem?_map ..).symm.trans found)
    have recorded : (sys.withAux aux).turn config.shared (part, mark) input = some
        ((shared, (aux.turn config.shared.1 part input shared part' config.shared.2 mark).1),
          (part', (aux.turn config.shared.1 part input shared part' config.shared.2 mark).2)) :=
      congrArg (Option.map _) turned
    refine ⟨_, next_turn here recorded, ?_⟩
    simp only [erase, List.map_set]
  · have recorded : (sys.withAux aux).spawn config.shared kind = some
        ((shared, (aux.spawn config.shared.1 kind shared part config.shared.2).1),
          (part, (aux.spawn config.shared.1 kind shared part config.shared.2).2)) :=
      congrArg (Option.map _) spawned
    refine ⟨_, next_spawn recorded, ?_⟩
    simp only [erase, List.map_append, List.map_cons, List.map_nil]
  · have recorded : (sys.withAux aux).env config.shared event = some
        (shared, aux.env config.shared.1 event shared config.shared.2) :=
      congrArg (Option.map _) moved
    exact ⟨_, next_env recorded, rfl⟩

theorem Guard.allows_lift {config : Config (G × A) (C × B)} {move : Move I K E}
    (admitted : guard.allows (erase config) move) : guard.lift.allows config move := by
  cases move with
  | turn index input =>
      intro part found
      apply admitted part.1
      simp only [erase, List.getElem?_map, found, Option.map_some]
  | spawn kind => exact admitted
  | env event => exact admitted

/-- Every run can be recorded: auxiliary variables do not restrict a system. -/
theorem Runs.record (aux : Aux G C I K E A B) (start : Config (G × A) (C × B))
    (run : sys.Runs guard (erase start) target) :
    ∃ recorded, (sys.withAux aux).Runs guard.lift start recorded ∧ erase recorded = target := by
  induction run with
  | refl => exact ⟨start, Steps.refl _, rfl⟩
  | tail _ admitted step inductionHypothesis =>
      obtain ⟨middle, earlier, rfl⟩ := inductionHypothesis
      obtain ⟨recorded, next, erased⟩ := exists_withAux_next step
      exact ⟨recorded, Steps.tail earlier (Guard.allows_lift admitted) next, erased⟩

end System

end WinInspect.Transition
