import Mathlib.Order.Basic

/-!
# Stable names

A store issues names for values, hands the values out by name, and may forget any of them at
any time.  Its history lists the names it has issued and the lookups it has answered.

Names are stable as long as no name is issued twice: a name that is forgotten does not come
back, and until then it stands for one value.
-/

namespace WinInspect.Names

universe u v

variable {κ : Type u} {ν : Type v}

/-- What a store does with a name. -/
inductive Event (κ : Type u) (ν : Type v) where
  | issue (key : κ) (value : ν)
  | lookup (key : κ) (result : Option ν)
  deriving DecidableEq

/-- An event is the `i`-th one of a history. -/
def Occurs (history : List (Event κ ν)) (i : Nat) (event : Event κ ν) : Prop :=
  history[i]? = some event

/-- The names of a history are stable. -/
structure Stable (history : List (Event κ ν)) : Prop where
  /-- No name is issued twice. -/
  once : ∀ {i j key v w}, Occurs history i (.issue key v) →
    Occurs history j (.issue key w) → i = j
  /-- A lookup that succeeds gives the value the name was issued with before. -/
  found : ∀ {i key value}, Occurs history i (.lookup key (some value)) →
    ∃ j < i, Occurs history j (.issue key value)
  /-- After a lookup of an issued name has failed, every lookup of it fails. -/
  lost : ∀ {i j k key value result}, Occurs history i (.issue key value) → i < j →
    Occurs history j (.lookup key none) → j < k →
    Occurs history k (.lookup key result) → result = none

/-- Two lookups of a name that succeed give one value. -/
theorem Stable.agree {history : List (Event κ ν)} (stable : Stable history) {i j : Nat} {key : κ}
    {v w : ν} (first : Occurs history i (.lookup key (some v)))
    (second : Occurs history j (.lookup key (some w))) : v = w := by
  obtain ⟨i', -, issued⟩ := stable.found first
  obtain ⟨j', -, issued'⟩ := stable.found second
  have same := stable.once issued issued'
  subst same
  unfold Occurs at issued issued'
  rw [issued] at issued'
  cases issued'
  rfl

/-- What a store can do in one step to the values it holds. -/
inductive Step (held : κ → Option ν) : Option (Event κ ν) → (κ → Option ν) → Prop
  | forget {held' : κ → Option ν} (fewer : ∀ key v, held' key = some v → held key = some v) :
      Step held none held'
  | issue {held' : κ → Option ν} (key : κ) (value : ν)
      (fewer : ∀ other v, held' other = some v → (other = key ∧ v = value) ∨ held other = some v) :
      Step held (some (.issue key value)) held'
  | lookup {held' : κ → Option ν} (key : κ)
      (fewer : ∀ key v, held' key = some v → held key = some v) :
      Step held (some (.lookup key (held key))) held'

/-- The invariant of a history and the values that are held after it. -/
structure Holds (history : List (Event κ ν)) (held : κ → Option ν) : Prop where
  stable : Stable history
  /-- What is held was issued. -/
  issued : ∀ {key value}, held key = some value → ∃ i, Occurs history i (.issue key value)
  /-- A name that was looked up in vain is not held. -/
  gone : ∀ {i j key value}, Occurs history i (.issue key value) → i < j →
    Occurs history j (.lookup key none) → held key = none

theorem holds_nil {held : κ → Option ν} (empty : ∀ key, held key = none) : Holds [] held where
  stable := ⟨nofun, nofun, nofun⟩
  issued found := by
    rw [empty] at found
    cases found
  gone := nofun

/-- An entry of an extended history is an old one or the new one. -/
theorem occurs_concat {history : List (Event κ ν)} {event entry : Event κ ν} {i : Nat} :
    Occurs (history ++ [event]) i entry ↔
      Occurs history i entry ∨ (i = history.length ∧ event = entry) := by
  unfold Occurs
  rcases Nat.lt_trichotomy i history.length with below | rfl | above
  · rw [List.getElem?_append_left below]
    simp [Nat.ne_of_lt below]
  · simp
  · rw [List.getElem?_eq_none (by simp; omega), List.getElem?_eq_none (Nat.le_of_lt above)]
    simp [Nat.ne_of_gt above]

section

variable {history : List (Event κ ν)} {held held' : κ → Option ν}

theorem Occurs.lt_length {i : Nat} {entry : Event κ ν} (found : Occurs history i entry) :
    i < history.length :=
  (List.getElem?_eq_some_iff.mp found).1

theorem Occurs.append {i : Nat} {entry : Event κ ν} (found : Occurs history i entry)
    (more : List (Event κ ν)) : Occurs (history ++ more) i entry := by
  unfold Occurs
  rw [List.getElem?_append_left found.lt_length]
  exact found

theorem Holds.forget (holds : Holds history held)
    (fewer : ∀ key v, held' key = some v → held key = some v) : Holds history held' where
  stable := holds.stable
  issued found := holds.issued (fewer _ _ found)
  gone first later failed := by
    have absent := holds.gone first later failed
    rw [Option.eq_none_iff_forall_ne_some] at absent ⊢
    intro v found
    exact absent v (fewer _ _ found)

/-- Issuing a new name. -/
theorem Holds.issue (holds : Holds history held) {key : κ} {value : ν}
    (fresh : ∀ i v, ¬Occurs history i (.issue key v))
    (fewer : ∀ other v, held' other = some v → (other = key ∧ v = value) ∨ held other = some v) :
    Holds (history ++ [.issue key value]) held' where
  stable := by
    refine ⟨?_, ?_, ?_⟩
    · intro i j other v w first second
      rcases occurs_concat.mp first with first | ⟨rfl, same⟩ <;>
        rcases occurs_concat.mp second with second | ⟨rfl, same'⟩
      · exact holds.stable.once first second
      · cases same'
        exact absurd first (fresh _ _)
      · cases same
        exact absurd second (fresh _ _)
      · rfl
    · intro i other v found
      rcases occurs_concat.mp found with found | ⟨_, same⟩
      · obtain ⟨j, earlier, issued⟩ := holds.stable.found found
        exact ⟨j, earlier, occurs_concat.mpr (Or.inl issued)⟩
      · cases same
    · intro i j k other v result first early failed later again
      rcases occurs_concat.mp again with again | ⟨_, same⟩
      · rcases occurs_concat.mp failed with failed | ⟨_, same⟩
        · rcases occurs_concat.mp first with first | ⟨rfl, _⟩
          · exact holds.stable.lost first early failed later again
          · exact absurd failed.lt_length (Nat.lt_asymm early)
        · cases same
      · cases same
  issued found := by
    rcases fewer _ _ found with ⟨rfl, rfl⟩ | found
    · exact ⟨history.length, occurs_concat.mpr (Or.inr ⟨rfl, rfl⟩)⟩
    · obtain ⟨i, issued⟩ := holds.issued found
      exact ⟨i, occurs_concat.mpr (Or.inl issued)⟩
  gone first early failed := by
    rcases occurs_concat.mp failed with failed | ⟨_, same⟩
    · rcases occurs_concat.mp first with old | ⟨rfl, _⟩
      · have absent := holds.gone old early failed
        rw [Option.eq_none_iff_forall_ne_some] at absent ⊢
        intro v found
        rcases fewer _ _ found with ⟨rfl, _⟩ | found
        · exact fresh _ _ old
        · exact absent v found
      · exact absurd failed.lt_length (Nat.lt_asymm early)
    · cases same

theorem Holds.lookup (holds : Holds history held) (key : κ) :
    Holds (history ++ [.lookup key (held key)]) held where
  stable := by
    refine ⟨?_, ?_, ?_⟩
    · intro i j other v w first second
      rcases occurs_concat.mp first with first | ⟨_, same⟩
      · rcases occurs_concat.mp second with second | ⟨_, same⟩
        · exact holds.stable.once first second
        · cases same
      · cases same
    · intro i other v found
      rcases occurs_concat.mp found with found | ⟨rfl, same⟩
      · obtain ⟨j, earlier, issued⟩ := holds.stable.found found
        exact ⟨j, earlier, occurs_concat.mpr (Or.inl issued)⟩
      · injection same with sameKey result
        subst sameKey
        obtain ⟨j, issued⟩ := holds.issued result
        exact ⟨j, issued.lt_length, occurs_concat.mpr (Or.inl issued)⟩
    · intro i j k other v result first early failed later again
      rcases occurs_concat.mp first with first | ⟨_, same⟩
      · have inside : j < history.length := by
          have bound := again.lt_length
          rw [List.length_append, List.length_singleton] at bound
          omega
        rcases occurs_concat.mp failed with failed | ⟨atEnd, _⟩
        · rcases occurs_concat.mp again with again | ⟨_, same⟩
          · exact holds.stable.lost first early failed later again
          · cases same
            exact holds.gone first early failed
        · omega
      · cases same
  issued found := by
    obtain ⟨i, issued⟩ := holds.issued found
    exact ⟨i, occurs_concat.mpr (Or.inl issued)⟩
  gone first early failed := by
    rcases occurs_concat.mp first with first | ⟨_, same⟩
    · rcases occurs_concat.mp failed with failed | ⟨_, same⟩
      · exact holds.gone first early failed
      · injection same with sameKey result
        subst sameKey
        exact result
    · cases same

/-- A step that issues no name twice keeps the invariant. -/
theorem Holds.step {event : Option (Event κ ν)} (holds : Holds history held)
    (step : Step held event held')
    (fresh : ∀ key value, event = some (.issue key value) →
      ∀ i v, ¬Occurs history i (.issue key v)) :
    Holds (history ++ event.toList) held' := by
  cases step with
  | forget fewer =>
      rw [Option.toList_none, List.append_nil]
      exact holds.forget fewer
  | issue key value fewer => exact holds.issue (fresh key value rfl) fewer
  | lookup key fewer => exact (holds.lookup key).forget fewer

end

end WinInspect.Names
