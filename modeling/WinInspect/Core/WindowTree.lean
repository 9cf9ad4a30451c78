import WinInspect.Core.FakeBackend
import WinInspect.Core.WindowForest
import WinInspect.Data.Parents

/-!
# The window tree of the fake backend

`FakeBackend::get_window_tree` follows the parent links of a map of windows down
without a bound.  `Builds` is that recursion: a derivation of it is a run that ends.
When the links have no cycle every run ends, and the tree has each window once.
-/

namespace WinInspect.Fake

open WindowNode (subtreesAll)

namespace FakeState

variable (s : FakeState)

/-- The handles the loops of `get_window_tree` go on with. -/
def below (h : HwndU64) : List HwndU64 :=
  (s.w.filter fun entry => entry.2.parent = h).map Prod.fst

/-- The recursion of `get_window_tree`, as the source has it. -/
inductive Builds : HwndU64 → WindowNode → Prop
  | node {h : HwndU64} {children : List WindowNode}
      (each : List.Forall₂ Builds (s.below h) children) :
      Builds h (.node h (((Assoc.find h s.w).map FakeWindow.title).getD [])
        (((Assoc.find h s.w).map FakeWindow.cls).getD []) children)

/-- A window of one handle has the other as its parent. -/
def IsParent (parent h : HwndU64) : Prop :=
  ∃ fw, (h, fw) ∈ s.w ∧ fw.parent = parent

/-- The windows hang together: handles are not null, parents are windows, and no window is
below itself. -/
structure Rooted : Prop where
  nonzero : ∀ entry ∈ s.w, entry.1 ≠ 0
  present : ∀ entry ∈ s.w, entry.2.parent ≠ 0 → entry.2.parent ∈ s.w.map Prod.fst
  acyclic : ∀ h, ¬ Relation.TransGen s.IsParent h h

/-! ## The links -/

/-- The parent of a window, null if there is no such window. -/
def parentOf (h : HwndU64) : HwndU64 :=
  ((Assoc.find h s.w).map FakeWindow.parent).getD 0

variable {s}

theorem parentOf_of_mem {entry : HwndU64 × FakeWindow} (member : entry ∈ s.w) :
    s.parentOf entry.1 = entry.2.parent := by
  rw [parentOf, Assoc.find_of_mem s.ordered member]
  rfl

theorem isParent_iff {parent h : HwndU64} :
    s.IsParent parent h ↔ h ∈ s.w.map Prod.fst ∧ s.parentOf h = parent := by
  constructor
  · rintro ⟨fw, member, rfl⟩
    exact ⟨List.mem_map_of_mem member, parentOf_of_mem member⟩
  · rintro ⟨member, rfl⟩
    obtain ⟨⟨h, fw⟩, inside, rfl⟩ := List.mem_map.mp member
    exact ⟨fw, inside, (parentOf_of_mem inside).symm⟩

/-- The windows as keys with links to their parents. -/
def Rooted.links (rooted : s.Rooted) : ParentMap HwndU64 where
  keys := s.w.map Prod.fst
  parent := s.parentOf
  top := 0
  nodup := (List.pairwise_map.mpr (s.ordered.imp fun less => less.ne))
  top_not_mem := by
    intro member
    obtain ⟨entry, inside, null⟩ := List.mem_map.mp member
    exact rooted.nonzero entry inside null
  closed := by
    intro h member
    obtain ⟨entry, inside, rfl⟩ := List.mem_map.mp member
    rw [parentOf_of_mem inside]
    by_cases null : entry.2.parent = 0
    · exact Or.inl null
    · exact Or.inr (rooted.present entry inside null)
  acyclic := by
    intro h cycle
    exact rooted.acyclic h (Relation.TransGen.mono (fun _ _ => isParent_iff.mpr) _ _ cycle)

theorem Rooted.below_links (rooted : s.Rooted) (h : HwndU64) :
    rooted.links.below h = s.below h := by
  change (s.w.map Prod.fst).filter _ = (s.w.filter _).map Prod.fst
  rw [List.filter_map]
  congr 1
  refine List.filter_congr fun entry member => ?_
  rw [Function.comp_apply]
  exact decide_eq_decide.mpr (by rw [← parentOf_of_mem member]; rfl)

/-! ## The order -/

theorem pairwise_below (h : HwndU64) : (s.below h).Pairwise (· < ·) :=
  List.pairwise_map.mpr (s.ordered.filter _)

/-- The loop of `get_window_tree` finds the children in the order of `list_children`. -/
theorem childrenOf_eq_below (h : HwndU64) : s.childrenOf h = s.below h :=
  ((pairwise_below h).imp le_of_lt).insertionSort_eq

/-! ## Runs end -/

theorem Builds.hwnd_eq {h : HwndU64} {n : WindowNode} (built : s.Builds h n) : n.hwnd = h := by
  cases built
  rfl

/-- With a bound of the number of windows below a handle the recursion is not cut off. -/
theorem Rooted.builds_buildNode (rooted : s.Rooted) :
    ∀ (depth : Nat) (h : HwndU64), rooted.links.height h ≤ depth →
      s.Builds h (s.buildNode depth h) := by
  have lower {h child : HwndU64} (member : child ∈ s.below h) :
      rooted.links.height child < rooted.links.height h := by
    rw [← rooted.below_links] at member
    exact rooted.links.height_lt (rooted.links.mem_below_iff.mp member)
  intro depth
  induction depth with
  | zero =>
      intro h bound
      have none : s.below h = [] := by
        rw [List.eq_nil_iff_forall_not_mem]
        intro child member
        have := lower member
        omega
      rw [buildNode]
      refine .node ?_
      rw [none]
      exact .nil
  | succ depth inductionHypothesis =>
      intro h bound
      rw [buildNode]
      refine .node (List.forall₂_map_right_iff.mpr (List.forall₂_same.mpr ?_))
      intro child member
      have := lower member
      exact inductionHypothesis child (by omega)

theorem Rooted.builds_getWindowTree (rooted : s.Rooted) :
    List.Forall₂ s.Builds (s.below 0) (s.getWindowTree 0) := by
  rw [getWindowTree, if_pos rfl]
  refine List.forall₂_map_right_iff.mpr (List.forall₂_same.mpr ?_)
  intro h _
  apply rooted.builds_buildNode
  have bound := rooted.links.height_le h
  rwa [show rooted.links.keys.length = s.w.length from List.length_map _] at bound

/-! ## The nodes -/

/-- A node that a run gave. -/
def Built (n : WindowNode) : Prop :=
  s.Builds n.hwnd n

theorem built_of_forall₂ {handles : List HwndU64} {nodes : List WindowNode}
    (each : List.Forall₂ s.Builds handles nodes) :
    nodes.map WindowNode.hwnd = handles ∧ ∀ n ∈ nodes, s.Built n := by
  induction each with
  | nil => exact ⟨rfl, List.forall_mem_nil _⟩
  | cons built _ inductionHypothesis =>
      obtain ⟨handles, others⟩ := inductionHypothesis
      refine ⟨?_, List.forall_mem_cons.mpr ⟨?_, others⟩⟩
      · rw [List.map_cons, built.hwnd_eq, handles]
      · rw [Built, built.hwnd_eq]
        exact built

/-- What a run puts into a node. -/
theorem Builds.fields {h : HwndU64} {n : WindowNode} (built : s.Builds h n) :
    n.title = ((Assoc.find h s.w).map FakeWindow.title).getD [] ∧
      n.className = ((Assoc.find h s.w).map FakeWindow.cls).getD [] ∧
      n.children.map WindowNode.hwnd = s.below h ∧ ∀ child ∈ n.children, s.Built child := by
  cases built with
  | node each => exact ⟨rfl, rfl, built_of_forall₂ each⟩

/-- The nodes of the tree are the windows, each once. -/
theorem Rooted.perm_windows (rooted : s.Rooted) {forest : List WindowNode}
    (built : ∀ n ∈ subtreesAll forest, s.Built n)
    (roots : forest.map WindowNode.hwnd = s.below 0) :
    ((subtreesAll forest).map WindowNode.hwnd).Perm (s.w.map Prod.fst) := by
  apply rooted.links.perm_keys
  have listed := (WindowNode.subtreesAll_perm forest).map WindowNode.hwnd
  rw [List.map_append, roots, List.map_flatMap] at listed
  have children : (subtreesAll forest).flatMap (fun n => n.children.map WindowNode.hwnd) =
      ((subtreesAll forest).map WindowNode.hwnd).flatMap s.below := by
    rw [List.flatMap_map]
    exact List.flatMap_congr fun n member => (Builds.fields (built n member)).2.2.1
  have sameBelow : rooted.links.below = s.below := funext rooted.below_links
  rw [children] at listed
  rw [sameBelow]
  exact listed

end FakeState

/-- On windows that hang together `get_window_tree(0)` ends, its nodes are the windows, each
once, under their titles and classes, and its roots and children are those of the two other
queries, in ascending order. -/
theorem getWindowTree_complete (s : FakeState) (rooted : s.Rooted) :
    List.Forall₂ s.Builds (s.below 0) (s.getWindowTree 0) ∧
      ((subtreesAll (s.getWindowTree 0)).map WindowNode.hwnd).Perm (s.w.map Prod.fst) ∧
      (s.getWindowTree 0).map WindowNode.hwnd = s.captureSnapshot.top ∧
      s.captureSnapshot.top.Pairwise (· < ·) ∧
      ∀ n ∈ subtreesAll (s.getWindowTree 0),
        (∀ snapshot, n.children.map WindowNode.hwnd =
          (answer s (.listChildren snapshot n.hwnd)).1) ∧
        (n.children.map WindowNode.hwnd).Pairwise (· < ·) ∧
        ∃ fw, (n.hwnd, fw) ∈ s.w ∧ n.title = fw.title ∧ n.className = fw.cls := by
  have runs := rooted.builds_getWindowTree
  obtain ⟨roots, rootsBuilt⟩ := FakeState.built_of_forall₂ runs
  have built : ∀ n ∈ subtreesAll (s.getWindowTree 0), s.Built n :=
    WindowNode.forall_subtreesAll (fun _ built => (FakeState.Builds.fields built).2.2.2) _
      rootsBuilt
  have windows := rooted.perm_windows built roots
  have top : s.captureSnapshot.top = s.below 0 := FakeState.childrenOf_eq_below 0
  refine ⟨runs, windows, roots.trans top.symm, top ▸ FakeState.pairwise_below 0, ?_⟩
  intro n member
  obtain ⟨title, className, children, -⟩ := FakeState.Builds.fields (built n member)
  refine ⟨fun _ => children.trans (FakeState.childrenOf_eq_below _).symm,
    children ▸ FakeState.pairwise_below _, ?_⟩
  obtain ⟨⟨_, fw⟩, inside, rfl⟩ :=
    List.mem_map.mp (windows.mem_iff.mp (List.mem_map_of_mem member))
  rw [Assoc.find_of_mem s.ordered inside] at title className
  exact ⟨fw, inside, title, className⟩

/-- Windows whose parents have smaller handles have no cycle. -/
theorem acyclic_of_lt {s : FakeState} (less : ∀ entry ∈ s.w, entry.2.parent < entry.1)
    (h : HwndU64) : ¬ Relation.TransGen s.IsParent h h := by
  have leads : ∀ {above below : HwndU64}, Relation.TransGen s.IsParent above below →
      above < below := by
    intro above below path
    induction path with
    | single link =>
        obtain ⟨fw, member, rfl⟩ := link
        exact less _ member
    | tail _ link inductionHypothesis =>
        obtain ⟨fw, member, rfl⟩ := link
        exact inductionHypothesis.trans (less _ member)
  intro cycle
  exact (leads cycle).false

/-- A window with two others below it, one of them below the other, and a second window. -/
def nestedState : FakeState :=
  FakeState.ofWindows [{ hwnd := 3, parent := 2, title := ascii "c" },
    { hwnd := 1, title := ascii "a" }, { hwnd := 4, title := ascii "d" },
    { hwnd := 2, parent := 1, title := ascii "b" }]

theorem getWindowTree_complete_nested :
    nestedState.Rooted ∧
      ((subtreesAll (nestedState.getWindowTree 0)).map WindowNode.hwnd).Perm [1, 2, 3, 4] := by
  have rooted : nestedState.Rooted :=
    ⟨by decide, by decide, acyclic_of_lt (by decide)⟩
  exact ⟨rooted, (getWindowTree_complete nestedState rooted).2.1⟩

end WinInspect.Fake
