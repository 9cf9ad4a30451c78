import Mathlib.Data.List.Basic
import Mathlib.Logic.Function.Basic

/-!
# Recency orders

A list of keys is in order of use when no key was used later than one behind it.  The
order is kept by a step that puts the used key, or a new one, at the end and leaves the
others in place, and by a step that drops keys; the first key is then a least recently
used one.
-/

namespace WinInspect.Recency

universe u

variable {κ : Type u} [DecidableEq κ]

/-- When each key was last used, in steps. -/
structure Uses (κ : Type u) where
  clock : Nat := 0
  last : κ → Nat := fun _ => 0

/-- A step that may use a key. -/
def Uses.next (uses : Uses κ) (used : Option κ) : Uses κ where
  clock := uses.clock + 1
  last := match used with
    | none => uses.last
    | some key => Function.update uses.last key (uses.clock + 1)

theorem Uses.next_last_of_ne (uses : Uses κ) {used : Option κ} {key : κ}
    (unused : used ≠ some key) : (uses.next used).last key = uses.last key := by
  cases used with
  | none => rfl
  | some other =>
      have different : key ≠ other := fun same => unused (congrArg some same.symm)
      exact Function.update_of_ne different _ _

@[simp]
theorem Uses.next_last_self (uses : Uses κ) (key : κ) :
    (uses.next (some key)).last key = uses.clock + 1 :=
  Function.update_self _ _ _

/-- No use lies in the future, and the keys are listed in order of use. -/
structure Ordered (uses : Uses κ) (order : List κ) : Prop where
  past : ∀ key, uses.last key ≤ uses.clock
  sorted : order.Pairwise fun first second => uses.last first ≤ uses.last second

omit [DecidableEq κ] in
theorem ordered_nil : Ordered ({} : Uses κ) [] :=
  ⟨fun _ => Nat.le_refl 0, List.Pairwise.nil⟩

/-- The steps of an order that follows the uses. -/
inductive Follows (order order' : List κ) : Option κ → Prop
  /-- Keys may be dropped, and none of the others is used. -/
  | drop {used : Option κ} (left : order'.Sublist order)
      (unused : ∀ key ∈ order', used ≠ some key) : Follows order order' used
  /-- The used key goes to the end. -/
  | use {key : κ} {kept : List κ} (left : kept.Sublist order) (moved : key ∉ kept)
      (behind : order' = kept ++ [key]) : Follows order order' (some key)

section

variable {uses : Uses κ} {order order' : List κ} {used : Option κ}

theorem Ordered.past_next (ordered : Ordered uses order) (used : Option κ) (key : κ) :
    (uses.next used).last key ≤ (uses.next used).clock := by
  by_cases same : used = some key
  · rw [same, Uses.next_last_self]
    exact Nat.le_refl _
  · rw [uses.next_last_of_ne same]
    exact Nat.le_succ_of_le (ordered.past key)

/-- The keys that are not used stay in order. -/
theorem Ordered.sorted_next (ordered : Ordered uses order) (left : order'.Sublist order)
    (unused : ∀ key ∈ order', used ≠ some key) :
    order'.Pairwise fun first second =>
      (uses.next used).last first ≤ (uses.next used).last second := by
  refine (ordered.sorted.sublist left).imp_of_mem ?_
  intro first second firstIn secondIn before
  rwa [uses.next_last_of_ne (unused first firstIn), uses.next_last_of_ne (unused second secondIn)]

theorem Ordered.step (ordered : Ordered uses order) (follows : Follows order order' used) :
    Ordered (uses.next used) order' := by
  refine ⟨ordered.past_next used, ?_⟩
  cases follows with
  | drop left unused => exact ordered.sorted_next left unused
  | @use key kept left moved behind =>
      have unused : ∀ other ∈ kept, some key ≠ some other := by
        rintro other member ⟨⟩
        exact moved member
      rw [behind, List.pairwise_append]
      refine ⟨ordered.sorted_next left unused, List.pairwise_singleton _ _, ?_⟩
      intro first member second last
      cases List.mem_singleton.mp last
      rw [Uses.next_last_self]
      exact ordered.past_next (some key) first

omit [DecidableEq κ] in
/-- The first key is a least recently used one. -/
theorem Ordered.head_le {oldest key : κ} {rest : List κ} (ordered : Ordered uses (oldest :: rest))
    (behind : key ∈ rest) : uses.last oldest ≤ uses.last key :=
  (List.pairwise_cons.mp ordered.sorted).1 key behind

end

end WinInspect.Recency
