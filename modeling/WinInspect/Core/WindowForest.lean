import WinInspect.Core.Types
import Mathlib.Data.List.Forall2
import Mathlib.Data.List.Perm.Basic

/-!
# Forests of windows

`WindowNode` is a window with the windows below it.  A forest is a list of them; the windows of
a forest are listed in preorder, alone or with the handle of their parent, and each window is
listed once: it is a root, or a child of one window.
-/

namespace WinInspect.WindowNode

def hwnd : WindowNode → HwndU64
  | .node hwnd _ _ _ => hwnd

def title : WindowNode → Bytes
  | .node _ title _ _ => title

def className : WindowNode → Bytes
  | .node _ _ className _ => className

def children : WindowNode → List WindowNode
  | .node _ _ _ children => children

mutual

/-- A window and all windows below it. -/
def subtrees : WindowNode → List WindowNode
  | .node hwnd title className children =>
      .node hwnd title className children :: subtreesAll children

/-- All windows of a forest. -/
def subtreesAll : List WindowNode → List WindowNode
  | [] => []
  | n :: rest => subtrees n ++ subtreesAll rest

end

mutual

/-- A window and all windows below it, with the handles of their parents. -/
def edges (parent : HwndU64) : WindowNode → List (HwndU64 × WindowNode)
  | .node hwnd title className children =>
      (parent, .node hwnd title className children) :: edgesAll hwnd children

/-- All windows of a forest, with the handles of their parents. -/
def edgesAll (parent : HwndU64) : List WindowNode → List (HwndU64 × WindowNode)
  | [] => []
  | n :: rest => edges parent n ++ edgesAll parent rest

end

mutual

theorem map_snd_edges (parent : HwndU64) :
    ∀ n : WindowNode, (edges parent n).map Prod.snd = subtrees n
  | .node hwnd title className children => by
      rw [edges, subtrees, List.map_cons, map_snd_edgesAll hwnd children]

theorem map_snd_edgesAll (parent : HwndU64) :
    ∀ forest : List WindowNode, (edgesAll parent forest).map Prod.snd = subtreesAll forest
  | [] => rfl
  | n :: rest => by
      rw [edgesAll, subtreesAll, List.map_append, map_snd_edges, map_snd_edgesAll parent rest]

end

/-- The children of a window, with its handle. -/
def childEdges (n : WindowNode) : List (HwndU64 × WindowNode) :=
  n.children.map fun child => (n.hwnd, child)

mutual

theorem edges_perm (parent : HwndU64) :
    ∀ n : WindowNode, (edges parent n).Perm ((parent, n) :: (subtrees n).flatMap childEdges)
  | .node hwnd title className children => by
      rw [edges, subtrees, List.flatMap_cons]
      exact (edgesAll_perm hwnd children).cons _

/-- Every window of a forest is a root or a child. -/
theorem edgesAll_perm (parent : HwndU64) : ∀ forest : List WindowNode,
    (edgesAll parent forest).Perm
      ((forest.map fun n => (parent, n)) ++ (subtreesAll forest).flatMap childEdges)
  | [] => List.Perm.nil
  | n :: rest => by
      rw [edgesAll, subtreesAll, List.flatMap_append, List.map_cons, List.cons_append]
      refine ((edges_perm parent n).append (edgesAll_perm parent rest)).trans ?_
      rw [List.cons_append, ← List.append_assoc, ← List.append_assoc]
      exact ((List.perm_append_comm).append_right _).cons _

end

theorem subtreesAll_perm (forest : List WindowNode) :
    (subtreesAll forest).Perm (forest ++ (subtreesAll forest).flatMap children) := by
  have listed := (edgesAll_perm 0 forest).map Prod.snd
  rw [map_snd_edgesAll, List.map_append, List.map_map, List.map_flatMap] at listed
  have roots : forest.map (Prod.snd ∘ fun n => ((0 : HwndU64), n)) = forest := List.map_id' _
  have below : (fun n => (childEdges n).map Prod.snd) = children := by
    funext n
    rw [childEdges, List.map_map]
    exact List.map_id' _
  rwa [roots, below] at listed

theorem mem_subtreesAll_of_root {forest : List WindowNode} {n : WindowNode} (root : n ∈ forest) :
    n ∈ subtreesAll forest :=
  (subtreesAll_perm forest).mem_iff.mpr (List.mem_append_left _ root)

theorem mem_subtreesAll_of_child {forest : List WindowNode} {n child : WindowNode}
    (member : n ∈ subtreesAll forest) (below : child ∈ n.children) :
    child ∈ subtreesAll forest :=
  (subtreesAll_perm forest).mem_iff.mpr
    (List.mem_append_right _ (List.mem_flatMap.mpr ⟨n, member, below⟩))

theorem subtrees_eq (n : WindowNode) : subtrees n = n :: subtreesAll n.children := by
  cases n
  rw [subtrees]
  rfl

mutual

/-- What is below a window of a tree is below the root. -/
theorem subtrees_sublist_subtrees {n : WindowNode} :
    ∀ root : WindowNode, n ∈ subtrees root → (subtrees n).Sublist (subtrees root)
  | .node hwnd title className children, member => by
      rw [subtrees] at member
      rcases List.mem_cons.mp member with rfl | below
      · exact List.Sublist.refl _
      · rw [subtrees_eq (.node hwnd title className children)]
        exact (subtrees_sublist_subtreesAll children below).cons _

theorem subtrees_sublist_subtreesAll {n : WindowNode} : ∀ forest : List WindowNode,
    n ∈ subtreesAll forest → (subtrees n).Sublist (subtreesAll forest)
  | [], member => by cases member
  | first :: rest, member => by
      rw [subtreesAll] at member ⊢
      rcases List.mem_append.mp member with here | later
      · exact (subtrees_sublist_subtrees first here).trans (List.sublist_append_left _ _)
      · exact (subtrees_sublist_subtreesAll rest later).trans (List.sublist_append_right _ _)

end

mutual

theorem forall_subtrees {property : WindowNode → Prop}
    (inherited : ∀ n, property n → ∀ child ∈ n.children, property child) :
    ∀ root : WindowNode, property root → ∀ n ∈ subtrees root, property n
  | .node hwnd title className children, holds => by
      rw [subtrees, List.forall_mem_cons]
      exact ⟨holds, forall_subtreesAll inherited children (inherited _ holds)⟩

/-- What holds of the roots and is inherited by children holds of every window. -/
theorem forall_subtreesAll {property : WindowNode → Prop}
    (inherited : ∀ n, property n → ∀ child ∈ n.children, property child) :
    ∀ forest : List WindowNode, (∀ n ∈ forest, property n) → ∀ n ∈ subtreesAll forest, property n
  | [], _ => List.forall_mem_nil _
  | first :: rest, hold => by
      obtain ⟨here, others⟩ := List.forall_mem_cons.mp hold
      rw [subtreesAll, List.forall_mem_append]
      exact ⟨forall_subtrees inherited first here, forall_subtreesAll inherited rest others⟩

end

theorem subtreesAll_of_leaves {forest : List WindowNode}
    (leaves : ∀ n ∈ forest, n.children = []) : subtreesAll forest = forest := by
  induction forest with
  | nil => rfl
  | cons n rest inductionHypothesis =>
      obtain ⟨leaf, others⟩ := List.forall_mem_cons.mp leaves
      rw [subtreesAll, subtrees_eq, leaf, inductionHypothesis others]
      rfl

/-- Windows can be put into the order of any list of their handles. -/
theorem exists_order {nodes : List WindowNode} {handles : List HwndU64}
    (same : handles.Perm (nodes.map hwnd)) :
    ∃ order, nodes.Perm order ∧ order.map hwnd = handles := by
  have each : List.Forall₂ (fun h n => h = hwnd n) (nodes.map hwnd) nodes :=
    List.forall₂_map_left_iff.mpr (List.forall₂_same.mpr fun _ _ => rfl)
  obtain ⟨order, pairs, reordered⟩ := List.perm_comp_forall₂ same each
  have handlesOf := List.forall₂_map_right_iff.mpr pairs
  rw [List.forall₂_eq_eq_eq] at handlesOf
  exact ⟨order, reordered.symm, handlesOf.symm⟩

/-! ## Up to the order of siblings -/

/-- Two windows that are equal up to the order of siblings at every level. -/
inductive Similar : WindowNode → WindowNode → Prop
  | node {hwnd : HwndU64} {title className : Bytes} {left middle right : List WindowNode}
      (order : left.Perm middle) (each : List.Forall₂ Similar middle right) :
      Similar (.node hwnd title className left) (.node hwnd title className right)

/-- Two forests that are equal up to the order of siblings. -/
def SimilarAll (left right : List WindowNode) : Prop :=
  ∃ middle, left.Perm middle ∧ List.Forall₂ Similar middle right

theorem Similar.length_children {left right : WindowNode} (similar : Similar left right) :
    left.children.length = right.children.length := by
  obtain ⟨order, each⟩ := similar
  exact order.length_eq.trans each.length_eq

/-- A window without the windows below it. -/
def bare (n : WindowNode) : WindowNode :=
  .node n.hwnd n.title n.className []

theorem SimilarAll.map_bare {left right : List WindowNode} (similar : SimilarAll left right) :
    SimilarAll (left.map bare) (right.map bare) := by
  obtain ⟨middle, order, each⟩ := similar
  refine ⟨middle.map bare, order.map bare, ?_⟩
  refine List.forall₂_map_left_iff.mpr (List.forall₂_map_right_iff.mpr (each.imp ?_))
  rintro _ _ ⟨_, _⟩
  exact .node (List.Perm.refl _) .nil

end WinInspect.WindowNode
