import WinInspect.Core.FakeBackend
import WinInspect.Core.WindowForest

/-!
# Window structure in the two backends

`list_children` and `get_window_tree` of `Win32Backend` over the window functions of the system,
and the same functions of `FakeBackend`, on one forest of windows.
-/

namespace WinInspect

open WindowNode (subtrees subtreesAll edgesAll childEdges Similar SimilarAll)

namespace Win32

/-! ## The system -/

/-- The windows of the desktop.  Siblings are in z-order; `0` is the null handle. -/
structure Desktop where
  roots : List WindowNode
  distinct : ((subtreesAll roots).map WindowNode.hwnd).Nodup
  nonzero : 0 ∉ (subtreesAll roots).map WindowNode.hwnd

/-- The handle of the first window of a list, or null. -/
def headHwnd (windows : List WindowNode) : HwndU64 :=
  (windows.head?.map WindowNode.hwnd).getD 0

namespace Desktop

variable (desktop : Desktop)

def windows : List WindowNode :=
  subtreesAll desktop.roots

def find (h : HwndU64) : Option WindowNode :=
  desktop.windows.find? fun n => n.hwnd = h

/-- `GetWindowTextW`, as UTF-8. -/
def getWindowText (h : HwndU64) : Bytes :=
  ((desktop.find h).map WindowNode.title).getD []

/-- `GetClassNameW`, as UTF-8. -/
def getClassName (h : HwndU64) : Bytes :=
  ((desktop.find h).map WindowNode.className).getD []

/-- The handles `EnumWindows` goes through. -/
def enumWindows : List HwndU64 :=
  desktop.roots.map WindowNode.hwnd

/-- The handles `EnumChildWindows` goes through: all windows below, and the roots for null. -/
def enumChildWindows (h : HwndU64) : List HwndU64 :=
  if h = 0 then desktop.enumWindows
  else
    match desktop.find h with
    | none => []
    | some n => (subtreesAll n.children).map WindowNode.hwnd

/-- `GetWindow(h, GW_CHILD)`. -/
def gwChild (h : HwndU64) : HwndU64 :=
  headHwnd (((desktop.find h).map WindowNode.children).getD [])

/-- The lists of siblings. -/
def rows : List (List WindowNode) :=
  desktop.roots :: desktop.windows.map WindowNode.children

/-- `GetWindow(h, GW_HWNDNEXT)`. -/
def gwHwndNext (h : HwndU64) : HwndU64 :=
  match desktop.rows.find? fun row => row.any fun n => n.hwnd = h with
  | none => 0
  | some row => headHwnd ((row.dropWhile fun n => n.hwnd ≠ h).drop 1)

/-! ## The backend -/

/-- `Win32Backend::list_children`. -/
def listChildren (parent : HwndU64) : List HwndU64 :=
  desktop.enumChildWindows parent

mutual

/-- `build_node`.  The source follows the handles without a bound; on a forest twice the number
of windows is enough. -/
def buildNode : Nat → HwndU64 → WindowNode
  | 0, h => .node h (desktop.getWindowText h) (desktop.getClassName h) []
  | bound + 1, h =>
      .node h (desktop.getWindowText h) (desktop.getClassName h)
        (buildLoop bound (desktop.gwChild h))

/-- The loop over `child` in it. -/
def buildLoop : Nat → HwndU64 → List WindowNode
  | 0, _ => []
  | bound + 1, child =>
      if child = 0 then []
      else buildNode bound child :: buildLoop bound (desktop.gwHwndNext child)

end

/-- `Win32Backend::get_window_tree`.  The first enumeration of the source has no effect. -/
def getWindowTree (root : HwndU64) : List WindowNode :=
  if root = 0 then
    desktop.enumWindows.map fun h =>
      .node h (desktop.getWindowText h) (desktop.getClassName h) []
  else [desktop.buildNode (2 * desktop.windows.length) root]

/-! ## What the handles lead to -/

variable {desktop}

theorem find_of_mem {n : WindowNode} (member : n ∈ desktop.windows) :
    desktop.find n.hwnd = some n := by
  have distinct := desktop.distinct
  unfold find windows at *
  revert distinct member
  generalize subtreesAll desktop.roots = all
  intro member distinct
  induction all with
  | nil => cases member
  | cons first rest inductionHypothesis =>
      rw [List.map_cons, List.nodup_cons] at distinct
      rcases List.mem_cons.mp member with rfl | later
      · simp
      · have different : first.hwnd ≠ n.hwnd := by
          intro same
          exact distinct.1 (same ▸ List.mem_map_of_mem later)
        rw [List.find?_cons_of_neg (by simpa using different)]
        exact inductionHypothesis later distinct.2

theorem hwnd_ne_zero {n : WindowNode} (member : n ∈ desktop.windows) : n.hwnd ≠ 0 := by
  intro zero
  exact desktop.nonzero (zero ▸ List.mem_map_of_mem member)

theorem mem_windows_of_row {row : List WindowNode} (member : row ∈ desktop.rows) {n : WindowNode}
    (inside : n ∈ row) : n ∈ desktop.windows := by
  rcases List.mem_cons.mp member with rfl | below
  · exact WindowNode.mem_subtreesAll_of_root inside
  · obtain ⟨parent, parentMember, rfl⟩ := List.mem_map.mp below
    exact WindowNode.mem_subtreesAll_of_child parentMember inside

/-- No handle is in two rows, or twice in one. -/
theorem nodup_rows : ((desktop.rows.map fun row => row.map WindowNode.hwnd).flatten).Nodup := by
  have listed := (WindowNode.subtreesAll_perm desktop.roots).map WindowNode.hwnd
  have nodup := listed.nodup_iff.mp desktop.distinct
  rw [List.map_append, List.map_flatMap] at nodup
  rw [rows, List.map_cons, List.flatten_cons, List.map_map]
  exact nodup

/-- The row that is found for a handle is the one it is in. -/
theorem find_row {row : List WindowNode} (member : row ∈ desktop.rows) {n : WindowNode}
    (inside : n ∈ row) :
    (desktop.rows.find? fun row => row.any fun m => m.hwnd = n.hwnd) = some row := by
  obtain ⟨_, apart⟩ := List.nodup_flatten.mp (@nodup_rows desktop)
  rw [List.pairwise_map] at apart
  have symmetric : Std.Symm fun row row' : List WindowNode =>
      List.Disjoint (row.map WindowNode.hwnd) (row'.map WindowNode.hwnd) :=
    ⟨fun _ _ disjoint => disjoint.symm⟩
  cases found : desktop.rows.find? fun row => row.any fun m => m.hwnd = n.hwnd with
  | none =>
      have nowhere := List.find?_eq_none.mp found row member
      exact absurd (List.any_eq_true.mpr ⟨n, inside, by simp⟩) nowhere
  | some row' =>
      have member' := List.mem_of_find?_eq_some found
      have test := List.find?_some found
      obtain ⟨m, inside', same⟩ := List.any_eq_true.mp test
      by_contra different
      have disjoint := apart.forall member member' fun equal => different (by rw [equal])
      exact disjoint (List.mem_map_of_mem inside)
        ((of_decide_eq_true same) ▸ List.mem_map_of_mem inside')

theorem gwHwndNext_of_row {pre post : List WindowNode} {n : WindowNode}
    (member : pre ++ n :: post ∈ desktop.rows) :
    desktop.gwHwndNext n.hwnd = headHwnd post := by
  have nodup := (List.nodup_flatten.mp (@nodup_rows desktop)).1 _ (List.mem_map_of_mem member)
  rw [List.map_append, List.map_cons] at nodup
  have before : ∀ m ∈ pre, decide (m.hwnd ≠ n.hwnd) = true := by
    intro m inside
    refine decide_eq_true fun same => ?_
    exact (List.disjoint_of_nodup_append nodup) (List.mem_map_of_mem inside)
      (by rw [same]; exact List.mem_cons_self)
  rw [gwHwndNext, find_row member (List.mem_append_right _ List.mem_cons_self)]
  dsimp only
  rw [List.dropWhile_append_of_pos before, List.dropWhile_cons_of_neg (by simp)]
  rfl

theorem gwChild_of_mem {n : WindowNode} (member : n ∈ desktop.windows) :
    desktop.gwChild n.hwnd = headHwnd n.children := by
  rw [gwChild, find_of_mem member]
  rfl

/-- With enough calls, `build_node` gives the window with all windows below it, and its loop the
rest of a row. -/
theorem build_eq (bound : Nat) :
    (∀ n ∈ desktop.windows, 2 * (subtrees n).length ≤ bound + 1 →
      desktop.buildNode bound n.hwnd = n) ∧
    ∀ pre post, pre ++ post ∈ desktop.rows → 2 * (subtreesAll post).length ≤ bound →
      desktop.buildLoop bound (headHwnd post) = post := by
  induction bound with
  | zero =>
      refine ⟨fun n _ enough => ?_, fun pre post _ enough => ?_⟩
      · rw [WindowNode.subtrees_eq, List.length_cons] at enough
        omega
      · cases post with
        | nil => rfl
        | cons n rest =>
            rw [subtreesAll, WindowNode.subtrees_eq, List.cons_append, List.length_cons] at enough
            omega
  | succ bound inductionHypothesis =>
      obtain ⟨nodes, loops⟩ := inductionHypothesis
      refine ⟨fun n member enough => ?_, fun pre post row enough => ?_⟩
      · rw [WindowNode.subtrees_eq, List.length_cons] at enough
        have row : [] ++ n.children ∈ desktop.rows :=
          List.mem_cons_of_mem _ (List.mem_map_of_mem member)
        rw [buildNode, gwChild_of_mem member, loops [] n.children row (by omega), getWindowText,
          getClassName, find_of_mem member]
        cases n
        rfl
      · cases post with
        | nil =>
            rw [buildLoop]
            rfl
        | cons n rest =>
            have member : n ∈ desktop.windows :=
              mem_windows_of_row row (List.mem_append_right _ List.mem_cons_self)
            have first : headHwnd (n :: rest) = n.hwnd := rfl
            rw [subtreesAll, List.length_append] at enough
            have positive : 0 < (subtrees n).length := by
              rw [WindowNode.subtrees_eq]
              exact Nat.succ_pos _
            rw [buildLoop, first, if_neg (hwnd_ne_zero member), nodes n member (by omega),
              gwHwndNext_of_row row,
              loops (pre ++ [n]) rest (by rwa [List.append_assoc]) (by omega)]

end Desktop

end Win32

/-! ## The fake backend on a forest -/

namespace Fake

open Win32 (Desktop)

/-- A window as both backends see it: its handle, its parent, its title and its class. -/
abbrev Entry := HwndU64 × HwndU64 × Bytes × Bytes

def FakeWindow.entry (fw : FakeWindow) : Entry :=
  (fw.hwnd, fw.parent, fw.title, fw.cls)

/-- The entry of a window of a forest and its parent. -/
def edgeEntry (edge : HwndU64 × WindowNode) : Entry :=
  (edge.2.hwnd, edge.1, edge.2.title, edge.2.className)

/-- The windows of a fake backend are those of a desktop, in any order. -/
def Presents (windows : List FakeWindow) (desktop : Desktop) : Prop :=
  (windows.map FakeWindow.entry).Perm ((edgesAll 0 desktop.roots).map edgeEntry)

/-- The map holds the windows the constructor is given. -/
theorem ofWindows_perm {windows : List FakeWindow}
    (distinct : (windows.map FakeWindow.hwnd).Nodup) :
    (FakeState.ofWindows windows).w.Perm (windows.map fun fw => (fw.hwnd, fw)) := by
  have folded : ∀ (rest : List FakeWindow) (s : FakeState), (rest.map FakeWindow.hwnd).Nodup →
      (∀ fw ∈ rest, ∀ entry ∈ s.w, entry.1 ≠ fw.hwnd) →
      (rest.foldl (fun s fw => { s with
        w := Assoc.emplace fw.hwnd fw s.w, ordered := s.ordered.emplace fw.hwnd fw }) s).w.Perm
        ((rest.map fun fw => (fw.hwnd, fw)) ++ s.w) := by
    intro rest
    induction rest with
    | nil => exact fun s _ _ => List.Perm.refl _
    | cons fw rest inductionHypothesis =>
        intro s distinct absent
        rw [List.map_cons, List.nodup_cons] at distinct
        obtain ⟨new, restAbsent⟩ := List.forall_mem_cons.mp absent
        have added := Assoc.emplace_perm fw new
        rw [List.foldl_cons, List.map_cons, List.cons_append]
        refine (inductionHypothesis _ distinct.2 ?_).trans
          ((added.append_left _).trans List.perm_middle)
        intro other member entry inside
        rcases List.mem_cons.mp (added.mem_iff.mp inside) with rfl | old
        · intro same
          have handle : fw.hwnd = other.hwnd := same
          exact distinct.1 (handle ▸ List.mem_map_of_mem member)
        · exact restAbsent other member entry old
  have all := folded windows {} distinct fun _ _ _ inside => absurd inside (List.not_mem_nil)
  rwa [List.append_nil] at all

section

variable {windows : List FakeWindow} {desktop : Desktop}

theorem Presents.distinct (presents : Presents windows desktop) :
    (windows.map FakeWindow.hwnd).Nodup := by
  have handles := presents.map Prod.fst
  rw [List.map_map, List.map_map] at handles
  refine handles.nodup_iff.mpr ?_
  have same : (edgesAll 0 desktop.roots).map (Prod.fst ∘ edgeEntry) =
      desktop.windows.map WindowNode.hwnd := by
    rw [Desktop.windows, ← WindowNode.map_snd_edgesAll 0, List.map_map]
    rfl
  rw [same]
  exact desktop.distinct

/-- The windows below a handle, or the roots for the null handle. -/
def row (desktop : Desktop) (h : HwndU64) : List WindowNode :=
  if h = 0 then desktop.roots else ((desktop.find h).map WindowNode.children).getD []

theorem filter_childEdges (n : WindowNode) (h : HwndU64) :
    (childEdges n).filter (fun edge => edge.1 = h) = if n.hwnd = h then childEdges n else [] := by
  unfold childEdges
  rw [List.filter_map]
  split
  · rename_i same
    rw [List.filter_eq_self.mpr]
    exact fun child _ => decide_eq_true same
  · rename_i different
    rw [List.filter_eq_nil_iff.mpr fun child _ => by simpa using different]
    rfl

theorem filter_flatMap_childEdges {all : List WindowNode}
    (distinct : (all.map WindowNode.hwnd).Nodup) (h : HwndU64) :
    (all.flatMap childEdges).filter (fun edge => edge.1 = h) =
      ((all.find? fun n => n.hwnd = h).map childEdges).getD [] := by
  induction all with
  | nil => rfl
  | cons n rest inductionHypothesis =>
      rw [List.map_cons, List.nodup_cons] at distinct
      rw [List.flatMap_cons, List.filter_append, filter_childEdges,
        inductionHypothesis distinct.2]
      by_cases same : n.hwnd = h
      · have others : (rest.find? fun m => m.hwnd = h) = none := by
          refine List.find?_eq_none.mpr fun m member => ?_
          simp only [decide_eq_true_eq]
          intro equal
          exact distinct.1 (same ▸ equal ▸ List.mem_map_of_mem member)
        rw [if_pos same, others, List.find?_cons_of_pos (by simpa using same)]
        simp
      · rw [if_neg same, List.nil_append, List.find?_cons_of_neg (by simpa using same)]

/-- The windows of a forest with a given parent. -/
theorem filter_edges_perm (desktop : Desktop) (h : HwndU64) :
    (((edgesAll 0 desktop.roots).filter fun edge => edge.1 = h).map Prod.snd).Perm
      (row desktop h) := by
  have listed := (((WindowNode.edgesAll_perm 0 desktop.roots).filter
    fun edge => edge.1 = h).map Prod.snd)
  refine listed.trans (List.Perm.of_eq ?_)
  rw [List.filter_append, filter_flatMap_childEdges desktop.distinct, List.filter_map,
    List.map_append, row]
  split
  · rename_i null
    subst null
    have none : (subtreesAll desktop.roots).find? (fun n => n.hwnd = 0) = none := by
      refine List.find?_eq_none.mpr fun n member => ?_
      simpa using Desktop.hwnd_ne_zero member
    rw [none, List.filter_eq_self.mpr fun _ _ => by simp]
    simp
  · rename_i other
    rw [List.filter_eq_nil_iff.mpr fun n _ => by simpa using Ne.symm other]
    change [] ++ _ = ((desktop.find h).map WindowNode.children).getD []
    change _ = (((subtreesAll desktop.roots).find? fun n => n.hwnd = h).map
      WindowNode.children).getD []
    cases (subtreesAll desktop.roots).find? fun n => n.hwnd = h with
    | none => rfl
    | some n => simp [childEdges]

/-- The handles of the fake windows with a given parent. -/
theorem Presents.children (presents : Presents windows desktop) (h : HwndU64) :
    ((((FakeState.ofWindows windows).w.filter fun entry => entry.2.parent = h).map
      Prod.fst)).Perm ((row desktop h).map WindowNode.hwnd) := by
  have stored := ((ofWindows_perm presents.distinct).filter
    fun entry => entry.2.parent = h).map Prod.fst
  have shown := (List.Perm.filter (fun entry : Entry => entry.2.1 = h) presents).map Prod.fst
  rw [List.filter_map, List.map_map] at stored
  rw [List.filter_map, List.filter_map, List.map_map, List.map_map] at shown
  refine stored.trans (shown.trans ?_)
  have edges := (filter_edges_perm desktop h).map WindowNode.hwnd
  rw [List.map_map] at edges
  exact edges

theorem Presents.length (presents : Presents windows desktop) :
    (FakeState.ofWindows windows).w.length = desktop.windows.length := by
  have sizes := presents.length_eq
  rw [List.length_map, List.length_map] at sizes
  rw [(ofWindows_perm presents.distinct).length_eq, List.length_map, sizes, Desktop.windows,
    ← WindowNode.map_snd_edgesAll 0, List.length_map]

/-- The fake window of a window of the forest. -/
theorem Presents.find (presents : Presents windows desktop) {n : WindowNode}
    (member : n ∈ desktop.windows) :
    ∃ fw, Assoc.find n.hwnd (FakeState.ofWindows windows).w = some fw ∧ fw.title = n.title ∧
      fw.cls = n.className := by
  rw [Desktop.windows, ← WindowNode.map_snd_edgesAll 0] at member
  obtain ⟨edge, listed, rfl⟩ := List.mem_map.mp member
  obtain ⟨fw, inside, same⟩ :=
    List.mem_map.mp (presents.mem_iff.mpr (List.mem_map_of_mem listed))
  simp only [FakeWindow.entry, edgeEntry, Prod.mk.injEq] at same
  obtain ⟨handle, _, title, cls⟩ := same
  refine ⟨fw, ?_, title, cls⟩
  rw [← handle]
  exact Assoc.find_of_mem (FakeState.ofWindows windows).ordered
    ((ofWindows_perm presents.distinct).mem_iff.mpr (List.mem_map_of_mem inside))

theorem Presents.find_none (presents : Presents windows desktop) {h : HwndU64}
    (unknown : desktop.find h = none) :
    Assoc.find h (FakeState.ofWindows windows).w = none := by
  refine Assoc.find_of_forall_ne fun entry stored same => ?_
  obtain ⟨fw, inside, rfl⟩ :=
    List.mem_map.mp ((ofWindows_perm presents.distinct).mem_iff.mp stored)
  obtain ⟨edge, listed, equal⟩ :=
    List.mem_map.mp (presents.mem_iff.mp (List.mem_map_of_mem inside))
  have handle : edge.2.hwnd = h := (congrArg Prod.fst equal).trans same
  have member : edge.2 ∈ desktop.windows := by
    rw [Desktop.windows, ← WindowNode.map_snd_edgesAll 0]
    exact List.mem_map_of_mem listed
  have found := Desktop.find_of_mem member
  rw [handle, unknown] at found
  cases found

/-- The rows of the two backends, given their windows. -/
theorem Presents.similarAll_row (presents : Presents windows desktop) {depth : Nat} {h : HwndU64}
    (each : ∀ n ∈ row desktop h,
      Similar n ((FakeState.ofWindows windows).buildNode depth n.hwnd)) :
    SimilarAll (row desktop h)
      ((((FakeState.ofWindows windows).w.filter fun entry => entry.2.parent = h).map
        Prod.fst).map ((FakeState.ofWindows windows).buildNode depth)) := by
  obtain ⟨order, reordered, handles⟩ := WindowNode.exists_order (presents.children h)
  refine ⟨order, reordered, ?_⟩
  rw [← handles, List.map_map]
  refine List.forall₂_map_right_iff.mpr (List.forall₂_same.mpr fun n member => ?_)
  exact each n (reordered.mem_iff.mpr member)

theorem row_of_mem {n : WindowNode} (member : n ∈ desktop.windows) :
    row desktop n.hwnd = n.children := by
  rw [row, if_neg (Desktop.hwnd_ne_zero member), Desktop.find_of_mem member]
  rfl

/-- With enough calls, the fake `build_node` gives the window with all windows below it. -/
theorem Presents.similar_buildNode (presents : Presents windows desktop) (depth : Nat) :
    ∀ n ∈ desktop.windows, (subtrees n).length ≤ depth →
      Similar n ((FakeState.ofWindows windows).buildNode depth n.hwnd) := by
  induction depth with
  | zero =>
      intro n _ enough
      rw [WindowNode.subtrees_eq, List.length_cons] at enough
      omega
  | succ depth inductionHypothesis =>
      intro n member enough
      rw [WindowNode.subtrees_eq, List.length_cons] at enough
      obtain ⟨fw, found, title, cls⟩ := presents.find member
      obtain ⟨middle, order, each⟩ := @Presents.similarAll_row _ _ presents depth n.hwnd
        fun child below => by
          rw [row_of_mem member] at below
          have smaller := (WindowNode.subtrees_sublist_subtreesAll n.children
            (WindowNode.mem_subtreesAll_of_root below)).length_le
          exact inductionHypothesis child (WindowNode.mem_subtreesAll_of_child member below)
            (by omega)
      rw [row_of_mem member] at order
      rw [FakeState.buildNode, found]
      cases n
      rw [Option.map_some, Option.map_some, Option.getD_some, Option.getD_some, title, cls]
      exact .node order each

/-! ## Both backends on one forest -/

theorem buildNode_of_unknown {h : HwndU64} (unknown : desktop.find h = none) (bound : Nat) :
    desktop.buildNode bound h = .node h [] [] [] := by
  have noChild : desktop.gwChild h = 0 := by
    rw [Desktop.gwChild, unknown]
    rfl
  have noLoop : ∀ bound, desktop.buildLoop bound 0 = [] := by
    intro bound
    cases bound with
    | zero => rw [Desktop.buildLoop]
    | succ bound => rw [Desktop.buildLoop, if_pos rfl]
  cases bound with
  | zero =>
      rw [Desktop.buildNode, Desktop.getWindowText, Desktop.getClassName, unknown]
      rfl
  | succ bound =>
      rw [Desktop.buildNode, noChild, noLoop, Desktop.getWindowText, Desktop.getClassName, unknown]
      rfl

theorem Presents.buildNode_of_unknown (presents : Presents windows desktop) {h : HwndU64}
    (nonzero : h ≠ 0) (unknown : desktop.find h = none) (depth : Nat) :
    (FakeState.ofWindows windows).buildNode depth h = .node h [] [] [] := by
  have noRow : row desktop h = [] := by
    rw [row, if_neg nonzero, unknown]
    rfl
  have noChild := presents.children h
  rw [noRow, List.map_nil, List.perm_nil] at noChild
  cases depth with
  | zero =>
      rw [FakeState.buildNode, presents.find_none unknown]
      rfl
  | succ depth =>
      rw [FakeState.buildNode, presents.find_none unknown, noChild]
      rfl

theorem Presents.trees_similar (presents : Presents windows desktop) {root : HwndU64}
    (nonzero : root ≠ 0) :
    SimilarAll (desktop.getWindowTree root)
      ((FakeState.ofWindows windows).getWindowTree root) := by
  rw [Desktop.getWindowTree, if_neg nonzero, FakeState.getWindowTree, if_neg nonzero,
    List.map_singleton, presents.length]
  refine ⟨_, List.Perm.refl _, .cons ?_ .nil⟩
  cases found : desktop.find root with
  | none =>
      rw [Fake.buildNode_of_unknown found, presents.buildNode_of_unknown nonzero found]
      exact .node (List.Perm.refl _) .nil
  | some n =>
      have member : n ∈ desktop.windows := List.mem_of_find?_eq_some found
      have handle := List.find?_some found
      obtain rfl : n.hwnd = root := of_decide_eq_true handle
      have size := (WindowNode.subtrees_sublist_subtreesAll desktop.roots member).length_le
      have sizes : (subtrees n).length ≤ desktop.windows.length := size
      rw [(Desktop.build_eq _).1 n member (by omega)]
      exact presents.similar_buildNode _ n member sizes

/-- For the null handle the fake backend gives the whole forest. -/
theorem Presents.forest_similar (presents : Presents windows desktop) :
    SimilarAll desktop.roots ((FakeState.ofWindows windows).getWindowTree 0) := by
  have roots : row desktop 0 = desktop.roots := if_pos rfl
  have similar := @Presents.similarAll_row _ _ presents desktop.windows.length 0 fun n member => by
    rw [roots] at member
    have inside : n ∈ desktop.windows := WindowNode.mem_subtreesAll_of_root member
    exact presents.similar_buildNode _ n inside
      (WindowNode.subtrees_sublist_subtreesAll desktop.roots inside).length_le
  rw [roots] at similar
  rw [FakeState.getWindowTree, if_pos rfl, presents.length]
  exact similar

/-- For the null handle the system backend gives the roots alone. -/
theorem getWindowTree_zero (desktop : Desktop) :
    desktop.getWindowTree 0 = desktop.roots.map WindowNode.bare := by
  rw [Desktop.getWindowTree, if_pos rfl, Desktop.enumWindows, List.map_map]
  refine List.map_congr_left fun n member => ?_
  have found := Desktop.find_of_mem (WindowNode.mem_subtreesAll_of_root member)
  rw [Function.comp_apply, Desktop.getWindowText, Desktop.getClassName, found]
  rfl

theorem mem_childrenOf (presents : Presents windows desktop) {n : WindowNode}
    (member : n ∈ desktop.windows) (h : HwndU64) :
    h ∈ (FakeState.ofWindows windows).childrenOf n.hwnd ↔ h ∈ n.children.map WindowNode.hwnd := by
  rw [FakeState.childrenOf, List.mem_insertionSort, (presents.children n.hwnd).mem_iff,
    row_of_mem member]

theorem mem_listChildren {n : WindowNode} (member : n ∈ desktop.windows) (h : HwndU64) :
    h ∈ desktop.listChildren n.hwnd ↔ h ∈ (subtreesAll n.children).map WindowNode.hwnd := by
  rw [Desktop.listChildren, Desktop.enumChildWindows, if_neg (Desktop.hwnd_ne_zero member),
    Desktop.find_of_mem member]

/-- On one forest the two backends list the same handles below a window whose children have no
children, and give the same tree, up to the order of siblings, for every handle but null.  For
null the system backend gives the same roots, without the windows below them. -/
theorem backends_agree (presents : Presents windows desktop) :
    (∀ n ∈ desktop.windows, (∀ child ∈ n.children, child.children = []) →
      ∀ h, h ∈ desktop.listChildren n.hwnd ↔
        h ∈ (FakeState.ofWindows windows).childrenOf n.hwnd) ∧
    (∀ root ≠ 0, SimilarAll (desktop.getWindowTree root)
      ((FakeState.ofWindows windows).getWindowTree root)) ∧
    SimilarAll (desktop.getWindowTree 0)
      (((FakeState.ofWindows windows).getWindowTree 0).map WindowNode.bare) := by
  refine ⟨fun n member leaves h => ?_, fun root nonzero => presents.trees_similar nonzero, ?_⟩
  · rw [mem_listChildren member, mem_childrenOf presents member,
      WindowNode.subtreesAll_of_leaves leaves]
  · rw [getWindowTree_zero]
    exact presents.forest_similar.map_bare

/-- A window with a child and a grandchild. -/
def nested : Desktop where
  roots := [.node 1 (ascii "a") (ascii "A") [.node 2 (ascii "b") (ascii "B")
    [.node 3 (ascii "c") (ascii "C") []]]]
  distinct := by decide
  nonzero := by decide

def nestedWindows : List FakeWindow :=
  [{ hwnd := 3, parent := 2, title := ascii "c", cls := ascii "C" },
    { hwnd := 1, title := ascii "a", cls := ascii "A" },
    { hwnd := 2, parent := 1, title := ascii "b", cls := ascii "B" }]

theorem nestedWindows_presents : Presents nestedWindows nested := by
  unfold Presents
  decide

theorem backends_agree_nested : Presents nestedWindows nested ∧
    SimilarAll (nested.getWindowTree 1)
      ((FakeState.ofWindows nestedWindows).getWindowTree 1) :=
  ⟨nestedWindows_presents, (backends_agree nestedWindows_presents).2.1 1 (by decide)⟩

theorem backends_differ : Presents nestedWindows nested ∧
    nested.listChildren 1 = [2, 3] ∧ (FakeState.ofWindows nestedWindows).childrenOf 1 = [2] ∧
    ¬ SimilarAll (nested.getWindowTree 0)
      ((FakeState.ofWindows nestedWindows).getWindowTree 0) := by
  refine ⟨nestedWindows_presents, by decide, by decide, ?_⟩
  have alone : nested.getWindowTree 0 = [.node 1 (ascii "a") (ascii "A") []] := rfl
  have whole : (FakeState.ofWindows nestedWindows).getWindowTree 0 = nested.roots := rfl
  rw [alone, whole]
  rintro ⟨middle, order, each⟩
  obtain rfl := List.singleton_perm.mp order
  obtain ⟨similar, _⟩ := List.forall₂_cons.mp each
  exact absurd similar.length_children (by decide)

end

end Fake

end WinInspect
