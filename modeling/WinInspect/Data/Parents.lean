import Mathlib.Data.Finset.Card
import Mathlib.Data.List.Count
import Mathlib.Data.List.Perm.Basic
import Mathlib.Logic.Relation

/-!
# Parent links

A finite set of keys with a parent for each, which is another key or the top.  When
the links have no cycle, going down the links ends after at most as many steps as
there are keys, and a list that is made of the keys below the top and of the keys
below its own elements has every key once.
-/

namespace WinInspect

open Relation (TransGen)

/-- Keys with acyclic parent links. -/
structure ParentMap (α : Type*) where
  keys : List α
  parent : α → α
  top : α
  nodup : keys.Nodup
  top_not_mem : top ∉ keys
  closed : ∀ key ∈ keys, parent key = top ∨ parent key ∈ keys
  acyclic : ∀ key,
    ¬ TransGen (fun above below => below ∈ keys ∧ parent below = above) key key

namespace ParentMap

variable {α : Type*} (m : ParentMap α)

/-- The link from a key to its parent. -/
def Above (above below : α) : Prop :=
  below ∈ m.keys ∧ m.parent below = above

/-! ## The length of a way down -/

open Classical in
/-- The number of keys a relation leads to from a key. -/
noncomputable def reached (next : α → α → Prop) (key : α) : Nat :=
  (m.keys.toFinset.filter (TransGen next key)).card

/-- A step of an acyclic relation leaves at least the key it goes to behind. -/
theorem reached_lt {next : α → α → Prop} (acyclic : ∀ key, ¬ TransGen next key key)
    {key other : α} (step : next key other) (member : other ∈ m.keys) :
    m.reached next other < m.reached next key := by
  classical
  apply Finset.card_lt_card
  rw [Finset.ssubset_iff_of_subset]
  · refine ⟨other, ?_, ?_⟩
    · exact Finset.mem_filter.mpr ⟨List.mem_toFinset.mpr member, .single step⟩
    · intro itself
      exact acyclic other (Finset.mem_filter.mp itself).2
  · intro key member
    obtain ⟨listed, leads⟩ := Finset.mem_filter.mp member
    exact Finset.mem_filter.mpr ⟨listed, leads.head step⟩

/-- The number of keys below a key. -/
noncomputable def height (key : α) : Nat :=
  m.reached m.Above key

theorem height_le (key : α) : m.height key ≤ m.keys.length := by
  classical
  exact (Finset.card_filter_le _ _).trans (List.toFinset_card_le _)

theorem height_lt {above below : α} (link : m.Above above below) :
    m.height below < m.height above :=
  m.reached_lt m.acyclic link link.1

/-- The number of keys above a key. -/
noncomputable def depth (key : α) : Nat :=
  m.reached (Function.swap m.Above) key

theorem depth_lt {above below : α} (link : m.Above above below) (member : above ∈ m.keys) :
    m.depth above < m.depth below := by
  refine m.reached_lt ?_ link member
  intro key cycle
  exact m.acyclic key (Relation.transGen_swap.mp cycle)

/-- Induction from the top down. -/
theorem down_induction {property : α → Prop}
    (root : ∀ key ∈ m.keys, m.parent key = m.top → property key)
    (link : ∀ key ∈ m.keys, m.parent key ∈ m.keys → property (m.parent key) → property key) :
    ∀ key ∈ m.keys, property key := by
  intro key member
  induction steps : m.depth key using Nat.strong_induction_on generalizing key with
  | _ n inductionHypothesis =>
      rcases m.closed key member with top | inner
      · exact root key member top
      · have shorter : m.depth (m.parent key) < n := steps ▸ m.depth_lt ⟨member, rfl⟩ inner
        exact link key member inner (inductionHypothesis _ shorter _ inner rfl)

/-! ## The keys below a key -/

variable [DecidableEq α]

def below (key : α) : List α :=
  m.keys.filter fun other => m.parent other = key

theorem mem_below_iff {key other : α} : other ∈ m.below key ↔ m.Above key other := by
  unfold below Above
  rw [List.mem_filter, decide_eq_true_eq]

theorem count_below {key : α} (member : key ∈ m.keys) (above : α) :
    (m.below above).count key = if above = m.parent key then 1 else 0 := by
  have nodup : (m.below above).Nodup := m.nodup.filter _
  rw [nodup.count]
  simp only [mem_below_iff, Above, member, true_and, eq_comm]

theorem count_flatMap_below {key : α} (member : key ∈ m.keys) (nodes : List α) :
    (nodes.flatMap m.below).count key = nodes.count (m.parent key) := by
  induction nodes with
  | nil => rfl
  | cons node rest inductionHypothesis =>
      rw [List.flatMap_cons, List.count_append, inductionHypothesis, m.count_below member,
        List.count_cons, Nat.add_comm]
      simp only [beq_iff_eq]

/-- Nodes that are those below the top and those below the nodes are all keys, each once. -/
theorem perm_keys {nodes : List α}
    (listed : nodes.Perm (m.below m.top ++ nodes.flatMap m.below)) : nodes.Perm m.keys := by
  have keys : ∀ node ∈ nodes, node ∈ m.keys := by
    intro node member
    rcases List.mem_append.mp (listed.mem_iff.mp member) with root | inner
    · exact (m.mem_below_iff.mp root).1
    · obtain ⟨above, -, inside⟩ := List.mem_flatMap.mp inner
      exact (m.mem_below_iff.mp inside).1
  have counted : ∀ key ∈ m.keys, nodes.count key =
      (if m.top = m.parent key then 1 else 0) + nodes.count (m.parent key) := by
    intro key member
    rw [listed.count_eq, List.count_append, m.count_below member, m.count_flatMap_below member]
  have once : ∀ key ∈ m.keys, nodes.count key = 1 := by
    refine m.down_induction ?_ ?_
    · intro key member top
      have absent : nodes.count m.top = 0 :=
        List.count_eq_zero.mpr fun inside => m.top_not_mem (keys _ inside)
      rw [counted key member, top, if_pos rfl, absent]
    · intro key member inner parentOnce
      have notTop : m.top ≠ m.parent key := fun same => m.top_not_mem (same ▸ inner)
      rw [counted key member, if_neg notTop, parentOnce]
  rw [List.perm_iff_count]
  intro key
  by_cases member : key ∈ m.keys
  · rw [once key member, List.count_eq_one_of_mem m.nodup member]
  · rw [List.count_eq_zero.mpr member, List.count_eq_zero.mpr fun inside => member (keys _ inside)]

end ParentMap

end WinInspect
