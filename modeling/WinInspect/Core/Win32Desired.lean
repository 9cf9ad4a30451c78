import WinInspect.Core.Desired
import WinInspect.Core.Win32Windows

/-!
# Desired-state actions on the desktop

`ensure_visible` and `ensure_foreground` of `Win32Backend`.  The system takes a window for visible
when the window and all windows above it are shown, whereas the fake backend looks at the window
alone.  The two backends therefore answer requests for visibility alike exactly when there are no
windows below others, and showing a window below a hidden one is never done.  What the system does
about the foreground is its own decision, which the fake backend has no part in.
-/

namespace WinInspect

open WindowNode (subtrees subtreesAll)
open Fake (Desired FakeState)

/-- Where no key occurs twice, the first element with a key is the only one. -/
theorem find?_of_nodup {α κ : Type} [DecidableEq κ] {key : α → κ} {items : List α} {a : α}
    (distinct : (items.map key).Nodup) (member : a ∈ items) :
    items.find? (fun b => key b = key a) = some a := by
  induction items with
  | nil => cases member
  | cons other rest inductionHypothesis =>
      obtain ⟨apart, distinct⟩ := List.nodup_cons.mp distinct
      rcases List.mem_cons.mp member with rfl | later
      · exact List.find?_cons_of_pos (by simp)
      · have differs : key other ≠ key a := fun same => apart (same ▸ List.mem_map_of_mem later)
        rw [List.find?_cons_of_neg (by simpa using differs)]
        exact inductionHypothesis distinct later

namespace WindowNode

mutual

/-- For a window and all windows below it, its handle and the handles above it. -/
def chains (above : List HwndU64) : WindowNode → List (List HwndU64)
  | .node hwnd _ _ children => (hwnd :: above) :: chainsAll (hwnd :: above) children

/-- For all windows of a forest, their handles and the handles above them. -/
def chainsAll (above : List HwndU64) : List WindowNode → List (List HwndU64)
  | [] => []
  | n :: rest => chains above n ++ chainsAll above rest

end

mutual

theorem heads_chains (above : List HwndU64) : ∀ n : WindowNode,
    (chains above n).map List.head? = (subtrees n).map fun m => some m.hwnd
  | .node hwnd title className children => by
      rw [chains, subtrees, List.map_cons, List.map_cons, heads_chainsAll (hwnd :: above) children]
      rfl

/-- Every window has one chain. -/
theorem heads_chainsAll (above : List HwndU64) : ∀ forest : List WindowNode,
    (chainsAll above forest).map List.head? = (subtreesAll forest).map fun m => some m.hwnd
  | [] => rfl
  | n :: rest => by
      rw [chainsAll, subtreesAll, List.map_append, List.map_append, heads_chains above n,
        heads_chainsAll above rest]

end

theorem mem_chainsAll_of_root {forest : List WindowNode} {n : WindowNode} (root : n ∈ forest)
    {above : List HwndU64} {chain : List HwndU64} (member : chain ∈ chains above n) :
    chain ∈ chainsAll above forest := by
  induction forest with
  | nil => cases root
  | cons first rest inductionHypothesis =>
      rw [chainsAll]
      rcases List.mem_cons.mp root with rfl | later
      · exact List.mem_append_left _ member
      · exact List.mem_append_right _ (inductionHypothesis later)

theorem mem_chains_self (above : List HwndU64) (n : WindowNode) :
    n.hwnd :: above ∈ chains above n := by
  cases n
  rw [chains]
  exact List.mem_cons_self

theorem mem_chains_child {n child : WindowNode} (below : child ∈ n.children)
    (above : List HwndU64) : child.hwnd :: n.hwnd :: above ∈ chains above n := by
  cases n
  rw [chains]
  exact List.mem_cons_of_mem _ (mem_chainsAll_of_root below (mem_chains_self _ child))

end WindowNode

namespace Win32

/-! ## The system -/

/-- Which windows have `WS_VISIBLE`, and which is the foreground window. -/
structure Display where
  shown : HwndU64 → Bool
  front : HwndU64

/-- What the system decides about the foreground. -/
structure ShowRules where
  /-- The foreground window after `ShowWindow`. -/
  fronts : Display → HwndU64 → Bool → HwndU64
  /-- Whether `SetForegroundWindow` is granted. -/
  grants : Display → HwndU64 → Bool

namespace Desktop

variable (desktop : Desktop)

/-- A window and the windows above it; nothing for a handle that is no window. -/
def lineage (h : HwndU64) : List HwndU64 :=
  ((WindowNode.chainsAll [] desktop.roots).find? fun chain => chain.head? = some h).getD []

/-- `IsWindow`. -/
def isWindow (h : HwndU64) : Bool :=
  (desktop.find h).isSome

/-- `IsWindowVisible`. -/
def isWindowVisible (display : Display) (h : HwndU64) : Bool :=
  desktop.isWindow h && (desktop.lineage h).all display.shown

variable (rules : ShowRules)

/-- `Win32Backend::ensure_visible`. -/
def ensureVisible (display : Display) (hwnd : HwndU64) (visible : Bool) : Bool × Display :=
  if desktop.isWindow hwnd then
    if desktop.isWindowVisible display hwnd = visible then (false, display)
    else (true, {
      shown := fun h => if h = hwnd then visible else display.shown h
      front := rules.fronts display hwnd visible })
  else (false, display)

/-- `Win32Backend::ensure_foreground`. -/
def ensureForeground (display : Display) (hwnd : HwndU64) : Bool × Display :=
  if desktop.isWindow hwnd then
    if display.front = hwnd then (false, display)
    else (true, if rules.grants display hwnd then { display with front := hwnd } else display)
  else (false, display)

/-- The call of the backend that is to bring a state about. -/
def ensure (display : Display) : Desired → Bool × Display
  | .visible hwnd shown => desktop.ensureVisible rules display hwnd shown
  | .foreground hwnd => desktop.ensureForeground rules display hwnd

end Desktop

/-- The answers to one request after the other, and the state after them. -/
def ensureAll {σ : Type} (ensure : σ → Desired → Bool × σ) : List Desired → σ → List Bool × σ
  | [], s => ([], s)
  | goal :: rest, s =>
      let done := ensure s goal
      let later := ensureAll ensure rest done.2
      (done.1 :: later.1, later.2)

/-! ## Lineages -/

section

variable {desktop : Desktop} {h a : HwndU64} {display : Display}

theorem isWindow_iff : desktop.isWindow h = true ↔ ∃ n ∈ desktop.windows, n.hwnd = h := by
  unfold Desktop.isWindow Desktop.find
  rw [List.find?_isSome]
  simp only [decide_eq_true_eq]

/-- The lineage of a window is the chain that starts with it. -/
theorem lineage_of_mem {above : List HwndU64}
    (member : h :: above ∈ WindowNode.chainsAll [] desktop.roots) :
    desktop.lineage h = h :: above := by
  have distinct : ((WindowNode.chainsAll [] desktop.roots).map List.head?).Nodup := by
    have distinct := desktop.distinct.map (Option.some_injective HwndU64)
    rw [List.map_map] at distinct
    rw [WindowNode.heads_chainsAll]
    exact distinct
  have found := find?_of_nodup distinct member
  rw [List.head?_cons] at found
  rw [Desktop.lineage, found]
  rfl

theorem exists_lineage (window : desktop.isWindow h = true) :
    ∃ above, desktop.lineage h = h :: above := by
  obtain ⟨n, member, rfl⟩ := isWindow_iff.mp window
  have head : some n.hwnd ∈ (WindowNode.chainsAll [] desktop.roots).map List.head? := by
    rw [WindowNode.heads_chainsAll]
    exact List.mem_map_of_mem member
  obtain ⟨chain, inside, headed⟩ := List.mem_map.mp head
  obtain ⟨above, rfl⟩ := List.head?_eq_some_iff.mp headed
  exact ⟨above, lineage_of_mem inside⟩

theorem lineage_root {n : WindowNode} (root : n ∈ desktop.roots) :
    desktop.lineage n.hwnd = [n.hwnd] :=
  lineage_of_mem (WindowNode.mem_chainsAll_of_root root (WindowNode.mem_chains_self [] n))

theorem lineage_child {n child : WindowNode} (root : n ∈ desktop.roots)
    (below : child ∈ n.children) : desktop.lineage child.hwnd = [child.hwnd, n.hwnd] :=
  lineage_of_mem (WindowNode.mem_chainsAll_of_root root (WindowNode.mem_chains_child below []))

/-- No window is below another one. -/
def Desktop.Flat (desktop : Desktop) : Prop :=
  ∀ n ∈ desktop.roots, n.children = []

theorem Desktop.Flat.lineage (flat : desktop.Flat) (window : desktop.isWindow h = true) :
    desktop.lineage h = [h] := by
  obtain ⟨n, member, rfl⟩ := isWindow_iff.mp window
  rw [Desktop.windows, WindowNode.subtreesAll_of_leaves flat] at member
  exact lineage_root member

theorem Desktop.Flat.isWindowVisible (flat : desktop.Flat) (window : desktop.isWindow h = true) :
    desktop.isWindowVisible display h = display.shown h := by
  rw [Desktop.isWindowVisible, window, flat.lineage window, List.all_cons, List.all_nil,
    Bool.and_true, Bool.true_and]

end

/-! ## Agreement of the backends -/

/-- The window a request names. -/
def named : Desired → HwndU64
  | .visible hwnd _ => hwnd
  | .foreground hwnd => hwnd

/-- If a request comes to a call, the system does about the foreground what the request is for:
`ShowWindow` leaves it alone, and `SetForegroundWindow` is granted. -/
def Desktop.Obeyed (desktop : Desktop) (rules : ShowRules) (display : Display) (goal : Desired) :
    Prop :=
  (desktop.ensure rules display goal).1 = true →
    match goal with
    | .visible hwnd shown => rules.fronts display hwnd shown = display.front
    | .foreground hwnd => rules.grants display hwnd = true

/-- It does so with one request after the other. -/
def Desktop.ObeyedAll (desktop : Desktop) (rules : ShowRules) : Display → List Desired → Prop
  | _, [] => True
  | display, goal :: rest =>
      desktop.Obeyed rules display goal ∧
        desktop.ObeyedAll rules (desktop.ensure rules display goal).2 rest

/-- The windows of a fake backend are shown as on a display. -/
structure Mirrors (desktop : Desktop) (s : FakeState) (display : Display) : Prop where
  windows : ∀ h, (Assoc.find h s.w).isSome = desktop.isWindow h
  shown : ∀ h fw, Assoc.find h s.w = some fw → display.shown h = fw.visible

section

variable {desktop : Desktop} {rules : ShowRules} {s : FakeState} {display : Display}

/-- On a flat desktop the backends do the same with a request for visibility. -/
theorem Mirrors.visible (mirrors : Mirrors desktop s display) (flat : desktop.Flat)
    {hwnd : HwndU64} (window : desktop.isWindow hwnd = true) (shown : Bool) :
    (desktop.ensureVisible rules display hwnd shown).1 = (s.ensureVisible hwnd shown).1 ∧
      Mirrors desktop (s.ensureVisible hwnd shown).2
        (desktop.ensureVisible rules display hwnd shown).2 := by
  obtain ⟨fw, found⟩ := Option.isSome_iff_exists.mp ((mirrors.windows hwnd).trans window)
  have current := mirrors.shown hwnd fw found
  have after : ∀ display' : Display, display'.shown hwnd = shown →
      (∀ h ≠ hwnd, display'.shown h = display.shown h) →
      Mirrors desktop (s.ensureVisible hwnd shown).2 display' := by
    intro display' here others
    unfold FakeState.ensureVisible
    rw [found]
    refine ⟨fun h => ?_, fun h fw' found' => ?_⟩
    · by_cases same : h = hwnd
      · subst same
        rw [Assoc.find_assign_self, window]
        rfl
      · rw [Assoc.find_assign_of_ne same]
        exact mirrors.windows h
    · by_cases same : h = hwnd
      · subst same
        rw [Assoc.find_assign_self] at found'
        cases found'
        exact here
      · rw [Assoc.find_assign_of_ne same] at found'
        exact (others h same).trans (mirrors.shown h fw' found')
  have answer : (s.ensureVisible hwnd shown).1 = (fw.visible != shown) := by
    unfold FakeState.ensureVisible
    rw [found]
  rw [answer, Desktop.ensureVisible, if_pos window, flat.isWindowVisible window, current]
  by_cases same : fw.visible = shown
  · rw [if_pos same]
    exact ⟨by simp [same], after display (current.trans same) fun _ _ => rfl⟩
  · rw [if_neg same]
    exact ⟨by simp [same], after _ (if_pos rfl) fun h other => if_neg other⟩

/-- A request for the foreground shows and hides nothing. -/
theorem shown_ensureForeground (hwnd : HwndU64) :
    (desktop.ensureForeground rules display hwnd).2.shown = display.shown := by
  unfold Desktop.ensureForeground
  split
  · split
    · rfl
    · dsimp only
      split <;> rfl
  · rfl

theorem Mirrors.ensure (mirrors : Mirrors desktop s display) (flat : desktop.Flat) {goal : Desired}
    (window : desktop.isWindow (named goal) = true) :
    Mirrors desktop (goal.ensure s).2 (desktop.ensure rules display goal).2 := by
  cases goal with
  | visible hwnd shown => exact (mirrors.visible flat window shown).2
  | foreground hwnd =>
      refine ⟨mirrors.windows, fun h fw found => ?_⟩
      rw [Desktop.ensure, shown_ensureForeground]
      exact mirrors.shown h fw found

/-- With the same foreground window the answers are the same, and it stays the same if the system
obeys. -/
theorem Mirrors.ensure_front (mirrors : Mirrors desktop s display) (flat : desktop.Flat)
    (front : display.front = s.foreground) {goal : Desired}
    (window : desktop.isWindow (named goal) = true) (obeyed : desktop.Obeyed rules display goal) :
    (desktop.ensure rules display goal).1 = (goal.ensure s).1 ∧
      (desktop.ensure rules display goal).2.front = (goal.ensure s).2.foreground := by
  cases goal with
  | visible hwnd shown =>
      have kept : (s.ensureVisible hwnd shown).2.foreground = s.foreground := by
        unfold FakeState.ensureVisible
        split <;> rfl
      refine ⟨(mirrors.visible flat window shown).1, ?_⟩
      change (desktop.ensureVisible rules display hwnd shown).2.front =
        (s.ensureVisible hwnd shown).2.foreground
      change (desktop.ensureVisible rules display hwnd shown).1 = true → _ at obeyed
      rw [kept, ← front]
      unfold Desktop.ensureVisible at obeyed ⊢
      split
      · split
        · rfl
        · rename_i isWindow differs
          rw [if_pos isWindow, if_neg differs] at obeyed
          exact obeyed rfl
      · rfl
  | foreground hwnd =>
      change desktop.isWindow hwnd = true at window
      unfold Desktop.Obeyed at obeyed
      rw [Desktop.ensure, Desktop.ensureForeground, if_pos window] at obeyed ⊢
      by_cases same : s.foreground = hwnd
      · rw [front, if_pos same]
        exact ⟨by simp [Desired.ensure, FakeState.ensureForeground, same], front.trans same⟩
      · rw [front, if_neg same] at obeyed ⊢
        rw [if_pos (obeyed rfl)]
        exact ⟨by simp [Desired.ensure, FakeState.ensureForeground, same], rfl⟩

/-- On a flat desktop the answers to requests for visibility are the same, whatever becomes of the
foreground. -/
theorem Mirrors.ensureAll_visible (mirrors : Mirrors desktop s display) (flat : desktop.Flat)
    {requests : List Desired} (windows : ∀ goal ∈ requests, desktop.isWindow (named goal) = true)
    {i : Nat} {hwnd : HwndU64} {shown : Bool} (asked : requests[i]? = some (.visible hwnd shown)) :
    (ensureAll (desktop.ensure rules) requests display).1[i]? =
      (Win32.ensureAll Desired.ensure requests s).1[i]? := by
  induction requests generalizing s display i with
  | nil => simp at asked
  | cons goal rest inductionHypothesis =>
      obtain ⟨window, later⟩ := List.forall_mem_cons.mp windows
      cases i with
      | zero =>
          cases asked
          exact congrArg some (mirrors.visible flat window shown).1
      | succ i => exact inductionHypothesis (mirrors.ensure flat window) later asked

/-- All answers are the same when the system obeys as well. -/
theorem Mirrors.ensureAll (mirrors : Mirrors desktop s display) (flat : desktop.Flat)
    (front : display.front = s.foreground) {requests : List Desired}
    (windows : ∀ goal ∈ requests, desktop.isWindow (named goal) = true)
    (obeyed : desktop.ObeyedAll rules display requests) :
    (ensureAll (desktop.ensure rules) requests display).1 =
      (Win32.ensureAll Desired.ensure requests s).1 := by
  induction requests generalizing s display with
  | nil => rfl
  | cons goal rest inductionHypothesis =>
      obtain ⟨window, later⟩ := List.forall_mem_cons.mp windows
      obtain ⟨answer, front⟩ := mirrors.ensure_front flat front window obeyed.1
      exact congrArg₂ List.cons answer
        (inductionHypothesis (mirrors.ensure flat window) front later obeyed.2)

variable {h a : HwndU64} {shown : Bool}

theorem isWindowVisible_iff (window : desktop.isWindow h = true) :
    desktop.isWindowVisible display h = true ↔ ∀ a ∈ desktop.lineage h, display.shown a = true := by
  rw [Desktop.isWindowVisible, window, Bool.true_and, List.all_eq_true]

/-- What `ensure_visible` does to the bits: it sets that of its window, or the window is as it
should be. -/
theorem ensureVisible_cases (window : desktop.isWindow h = true) :
    (desktop.isWindowVisible display h = shown ∧
        desktop.ensureVisible rules display h shown = (false, display)) ∨
      (desktop.isWindowVisible display h ≠ shown ∧
        (desktop.ensureVisible rules display h shown).1 = true ∧
        (desktop.ensureVisible rules display h shown).2.shown h = shown ∧
        ∀ a ≠ h, (desktop.ensureVisible rules display h shown).2.shown a = display.shown a) := by
  unfold Desktop.ensureVisible
  rw [if_pos window]
  by_cases same : desktop.isWindowVisible display h = shown
  · rw [if_pos same]
    exact Or.inl ⟨same, rfl⟩
  · rw [if_neg same]
    exact Or.inr ⟨same, rfl, if_pos rfl, fun a other => if_neg other⟩

/-- Below a hidden window `ensure_visible` shows without an end. -/
theorem ensureVisible_below_hidden (window : desktop.isWindow h = true)
    (above : a ∈ desktop.lineage h) (other : a ≠ h) (hidden : display.shown a = false) :
    (desktop.ensureVisible rules display h true).1 = true ∧
      (desktop.ensureVisible rules display h true).2.shown a = false := by
  have invisible : desktop.isWindowVisible display h ≠ true := by
    intro visible
    rw [(isWindowVisible_iff window).mp visible a above] at hidden
    cases hidden
  rcases @ensureVisible_cases desktop rules display h true window with
    ⟨visible, -⟩ | ⟨-, answer, -, others⟩
  · exact absurd visible invisible
  · exact ⟨answer, (others a other).trans hidden⟩

theorem isWindow_root {n : WindowNode} (root : n ∈ desktop.roots) :
    desktop.isWindow n.hwnd = true :=
  isWindow_iff.mpr ⟨n, WindowNode.mem_subtreesAll_of_root root, rfl⟩

/-- The bit of a root says whether it is visible, so that it is set when it is asked for. -/
theorem ensureVisible_root {n : WindowNode} (root : n ∈ desktop.roots) :
    (desktop.ensureVisible rules display n.hwnd shown).2.shown n.hwnd = shown := by
  have window := isWindow_root root
  rcases @ensureVisible_cases desktop rules display n.hwnd shown window with
    ⟨same, unchanged⟩ | ⟨-, -, set, -⟩
  · rw [unchanged, ← same, Desktop.isWindowVisible, window, lineage_root root]
    simp
  · exact set

/-- `FakeBackend` and `Win32Backend` report the same changes of visibility, on every sequence of
requests for windows that exist, exactly when no window is below another one.  They then report the
same changes of the foreground too, on every sequence along which the system does about the
foreground what it is asked to and nothing else. -/
theorem ensures_agree_iff_flat (mirrors : Mirrors desktop s display)
    (front : display.front = s.foreground) :
    ((∀ requests : List Desired, (∀ goal ∈ requests, desktop.isWindow (named goal) = true) →
      ∀ (i : Nat) hwnd shown, requests[i]? = some (.visible hwnd shown) →
        (ensureAll (desktop.ensure rules) requests display).1[i]? =
          (ensureAll Desired.ensure requests s).1[i]?) ↔ desktop.Flat) ∧
    (desktop.Flat → ∀ requests, (∀ goal ∈ requests, desktop.isWindow (named goal) = true) →
      desktop.ObeyedAll rules display requests →
        (ensureAll (desktop.ensure rules) requests display).1 =
          (ensureAll Desired.ensure requests s).1) := by
  refine ⟨⟨fun agree n root => ?_, fun flat requests windows i hwnd shown asked =>
    mirrors.ensureAll_visible flat windows asked⟩, fun flat requests windows obeyed =>
    mirrors.ensureAll flat front windows obeyed⟩
  by_contra filled
  obtain ⟨child, below⟩ := List.exists_mem_of_ne_nil _ filled
  have line := lineage_child root below
  have window : desktop.isWindow child.hwnd = true :=
    isWindow_iff.mpr ⟨child, WindowNode.mem_subtreesAll_of_child
      (WindowNode.mem_subtreesAll_of_root root) below, rfl⟩
  have above : n.hwnd ∈ desktop.lineage child.hwnd := by simp [line]
  have other : n.hwnd ≠ child.hwnd := by
    intro same
    have rooted := lineage_root root
    rw [same, line] at rooted
    cases rooted
  -- Hide the window above, show the one below twice: only the system still sees a change.
  have told := agree [.visible n.hwnd false, .visible child.hwnd true, .visible child.hwnd true]
    (by simp [named, window, isWindow_root root]) 2 child.hwnd true rfl
  have hidden := @ensureVisible_root desktop rules display false n root
  have first := @ensureVisible_below_hidden desktop rules _ child.hwnd n.hwnd window above other
    hidden
  have second := @ensureVisible_below_hidden desktop rules _ child.hwnd n.hwnd window above other
    first.2
  have settled := Desired.ensure_of_met (Desired.met_ensure
    (Desired.ensure s (.visible n.hwnd false)).2 (.visible child.hwnd true))
  have fromSystem : (ensureAll (desktop.ensure rules) [.visible n.hwnd false,
      .visible child.hwnd true, .visible child.hwnd true] display).1[2]? = some true :=
    congrArg some second.1
  have fromFake : (ensureAll Desired.ensure [.visible n.hwnd false, .visible child.hwnd true,
      .visible child.hwnd true] s).1[2]? = some false :=
    congrArg (fun done : Bool × FakeState => some done.1) settled
  rw [fromSystem, fromFake] at told
  cases told

/-! ## Asking again -/

/-- The bits above a window are as they were, and its own is as asked for, unless it is to be
hidden and a window above it is. -/
structure Desktop.Kept (desktop : Desktop) (h : HwndU64) (shown : Bool) (before after : Display) :
    Prop where
  others : ∀ a ∈ desktop.lineage h, a ≠ h → after.shown a = before.shown a
  own : after.shown h = shown ∨
    (shown = false ∧ ∃ a ∈ desktop.lineage h, a ≠ h ∧ before.shown a = false)

variable {before : Display}

theorem Desktop.Kept.first (window : desktop.isWindow h = true) :
    desktop.Kept h shown display (desktop.ensureVisible rules display h shown).2 := by
  rcases @ensureVisible_cases desktop rules display h shown window with
    ⟨same, unchanged⟩ | ⟨-, -, set, others⟩
  · rw [unchanged]
    refine ⟨fun _ _ _ => rfl, ?_⟩
    by_cases own : display.shown h = shown
    · exact Or.inl own
    · -- The window has its bit and is not visible, because of a window above it.
      obtain ⟨above, line⟩ := exists_lineage window
      cases shown with
      | true =>
          exact absurd ((isWindowVisible_iff window).mp same h (by simp [line])) own
      | false =>
          refine Or.inr ⟨rfl, ?_⟩
          by_contra none
          push Not at none
          refine Bool.false_ne_true (same.symm.trans ((isWindowVisible_iff window).mpr ?_))
          intro a member
          by_cases itself : a = h
          · rw [itself]
            simpa using own
          · simpa using none a member itself
  · exact ⟨fun a _ other => others a other, Or.inl set⟩

/-- Requests that do not name the windows above, and ask for the same of the window, keep this. -/
theorem Desktop.Kept.ensure (kept : desktop.Kept h shown before display) {goal : Desired}
    (apart : ∀ a shown', goal = .visible a shown' → a ∈ desktop.lineage h →
      a = h ∧ shown' = shown) :
    desktop.Kept h shown before (desktop.ensure rules display goal).2 := by
  cases goal with
  | foreground hwnd =>
      have bits : (desktop.ensure rules display (.foreground hwnd)).2.shown = display.shown :=
        shown_ensureForeground hwnd
      exact ⟨by rw [bits]; exact kept.others, by rw [bits]; exact kept.own⟩
  | visible hwnd shown' =>
      change desktop.Kept h shown before (desktop.ensureVisible rules display hwnd shown').2
      by_cases window : desktop.isWindow hwnd = true
      · rcases @ensureVisible_cases desktop rules display hwnd shown' window with
          ⟨-, unchanged⟩ | ⟨-, -, set, others⟩
        · rw [unchanged]
          exact kept
        · constructor
          · intro a member other
            have elsewhere : a ≠ hwnd := by
              rintro rfl
              exact other (apart a shown' rfl member).1
            exact (others a elsewhere).trans (kept.others a member other)
          · by_cases itself : h = hwnd
            · subst itself
              obtain ⟨above, line⟩ := exists_lineage window
              exact Or.inl (set.trans (apart h shown' rfl (by simp [line])).2)
            · exact kept.own.imp_left (others h itself).trans
      · rw [Desktop.ensureVisible, if_neg window]
        exact kept

theorem Desktop.Kept.ensureAll (kept : desktop.Kept h shown before display)
    {requests : List Desired} (apart : ∀ a shown', .visible a shown' ∈ requests →
      a ∈ desktop.lineage h → a = h ∧ shown' = shown) :
    desktop.Kept h shown before (ensureAll (desktop.ensure rules) requests display).2 := by
  induction requests generalizing display with
  | nil => exact kept
  | cons goal rest inductionHypothesis =>
      refine inductionHypothesis (kept.ensure ?_) fun a shown' member =>
        apart a shown' (List.mem_cons_of_mem _ member)
      rintro a shown' rfl
      exact apart a shown' List.mem_cons_self

theorem Desktop.Kept.isWindowVisible_iff (kept : desktop.Kept h shown before display)
    (window : desktop.isWindow h = true) : desktop.isWindowVisible display h = shown ↔
      (shown = false ∨ ∀ a ∈ desktop.lineage h, a ≠ h → before.shown a = true) := by
  have visible := @Win32.isWindowVisible_iff desktop display h window
  cases shown with
  | true =>
      have own : display.shown h = true := kept.own.resolve_right fun wrong => by cases wrong.1
      rw [visible, or_iff_right (by decide)]
      refine forall₂_congr fun a member => ?_
      by_cases itself : a = h
      · simp [itself, own]
      · simp [itself, kept.others a member itself]
  | false =>
      refine iff_of_true (Bool.eq_false_iff.mpr fun shown => ?_) (Or.inl rfl)
      have all := visible.mp shown
      obtain ⟨above, line⟩ := exists_lineage window
      rcases kept.own with own | ⟨-, a, member, other, hidden⟩
      · rw [all h (by simp [line])] at own
        cases own
      · rw [← kept.others a member other, all a member] at hidden
        cases hidden

/-- After `ensure_visible`, and any requests that do not name a window above and ask nothing else of
the window, the same request reports no change exactly when the window was to be hidden or all
windows above it are shown: below a hidden window every request to show reports a change, however
often it is made. -/
theorem ensureVisible_again_iff (window : desktop.isWindow h = true) (requests : List Desired)
    (apart : ∀ a shown', .visible a shown' ∈ requests → a ∈ desktop.lineage h →
      a = h ∧ shown' = shown) :
    (desktop.ensureVisible rules (ensureAll (desktop.ensure rules) requests
        (desktop.ensureVisible rules display h shown).2).2 h shown).1 = false ↔
      (shown = false ∨ ∀ a ∈ desktop.lineage h, a ≠ h → display.shown a = true) := by
  have kept : desktop.Kept h shown display (ensureAll (desktop.ensure rules) requests
      (desktop.ensureVisible rules display h shown).2).2 :=
    (Desktop.Kept.first window).ensureAll apart
  rw [← kept.isWindowVisible_iff window]
  rcases @ensureVisible_cases desktop rules _ h shown window with
    ⟨same, unchanged⟩ | ⟨differs, answer, -⟩
  · rw [unchanged]
    exact iff_of_true rfl same
  · rw [answer]
    exact iff_of_false (by decide) differs

end

/-- A system that leaves the foreground alone and grants it. -/
def quietly : ShowRules where
  fronts display _ _ := display.front
  grants _ _ := true

/-- A window with a window below it. -/
def stacked : Desktop where
  roots := [.node 1 [] [] [.node 2 [] [] []]]
  distinct := by decide
  nonzero := by decide

/-- The fake backend with the same windows, all of them shown. -/
def stackedFake : FakeState where
  w := [(1, { hwnd := 1 }), (2, { hwnd := 2, parent := 1 })]

theorem mirrors_stacked : Mirrors stacked stackedFake ⟨fun _ => true, 0⟩ where
  windows h := by
    by_cases one : h = 1
    · rw [one]
      rfl
    · by_cases two : h = 2
      · rw [two]
        rfl
      · simp [stacked, stackedFake, Desktop.isWindow, Desktop.find, Desktop.windows, subtreesAll,
          subtrees, Assoc.find, WindowNode.hwnd, Ne.symm one, Ne.symm two]
  shown h fw found := by
    have member := Assoc.mem_of_find found
    simp only [stackedFake, List.mem_cons, Prod.mk.injEq, List.not_mem_nil, or_false] at member
    rcases member with ⟨-, rfl⟩ | ⟨-, rfl⟩
    · rfl
    · rfl

theorem ensures_disagree_stacked :
    ∃ requests : List Desired, (∀ goal ∈ requests, stacked.isWindow (named goal) = true) ∧
      ∃ (i : Nat) (hwnd : HwndU64) (shown : Bool), requests[i]? = some (.visible hwnd shown) ∧
        (ensureAll (stacked.ensure quietly) requests ⟨fun _ => true, 0⟩).1[i]? ≠
          (ensureAll Desired.ensure requests stackedFake).1[i]? := by
  by_contra agree
  push Not at agree
  have flat := (ensures_agree_iff_flat mirrors_stacked rfl).1.mp agree
  exact absurd (flat _ List.mem_cons_self) (List.cons_ne_nil _ _)

theorem ensureVisible_again_stacked :
    (stacked.ensureVisible quietly (ensureAll (stacked.ensure quietly) [.visible 2 true]
      (stacked.ensureVisible quietly ⟨fun _ => false, 0⟩ 2 true).2).2 2 true).1 ≠ false := by
  have window : stacked.isWindow 2 = true := by decide
  have line : stacked.lineage 2 = [2, 1] := by decide
  intro settled
  have all := (ensureVisible_again_iff window [.visible 2 true] (by
    intro a shown' member _
    simpa using member)).mp settled
  rcases all with wrong | shown
  · cases wrong
  · exact absurd (shown 1 (by simp [line]) (by decide)) (by decide)

end Win32

end WinInspect
