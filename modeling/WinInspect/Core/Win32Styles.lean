import Mathlib.Data.List.Basic

/-!
# Names of window styles

`parse_ws` and `parse_ws_ex` list the names of the constants whose bits are set.
Each has a table of constants and names; the loop of the first skips the constant
that is zero and names it when no bit is set at all, the loop of the second does
neither.  In the first table the row of `WS_HSCROLL` has the name `WS_VSCROLL`.
-/

namespace WinInspect.Win32

/-- The `WS_` constants. -/
inductive WindowStyle
  | overlapped | popup | child | minimize | visible | disabled | clipSiblings | clipChildren
  | maximize | caption | border | dlgFrame | vScroll | hScroll | sysMenu | thickFrame | group
  | tabStop | minimizeBox | maximizeBox
  deriving DecidableEq

/-- The `WS_EX_` constants. -/
inductive WindowExStyle
  | dlgModalFrame | noParentNotify | topmost | acceptFiles | transparent | mdiChild | toolWindow
  | windowEdge | clientEdge | contextHelp | right | left | rtlReading | ltrReading
  | leftScrollBar | rightScrollBar | controlParent | staticEdge | appWindow | layered
  | noInheritLayout | layoutRtl | composited | noActivate
  deriving DecidableEq

/-- The values of `windows.h`. -/
def WindowStyle.value : WindowStyle → UInt64
  | overlapped => 0x00000000
  | popup => 0x80000000
  | child => 0x40000000
  | minimize => 0x20000000
  | visible => 0x10000000
  | disabled => 0x08000000
  | clipSiblings => 0x04000000
  | clipChildren => 0x02000000
  | maximize => 0x01000000
  | caption => 0x00C00000
  | border => 0x00800000
  | dlgFrame => 0x00400000
  | vScroll => 0x00200000
  | hScroll => 0x00100000
  | sysMenu => 0x00080000
  | thickFrame => 0x00040000
  | group => 0x00020000
  | tabStop => 0x00010000
  | minimizeBox => 0x00020000
  | maximizeBox => 0x00010000

/-- The names of `windows.h`. -/
def WindowStyle.name : WindowStyle → String
  | overlapped => "WS_OVERLAPPED"
  | popup => "WS_POPUP"
  | child => "WS_CHILD"
  | minimize => "WS_MINIMIZE"
  | visible => "WS_VISIBLE"
  | disabled => "WS_DISABLED"
  | clipSiblings => "WS_CLIPSIBLINGS"
  | clipChildren => "WS_CLIPCHILDREN"
  | maximize => "WS_MAXIMIZE"
  | caption => "WS_CAPTION"
  | border => "WS_BORDER"
  | dlgFrame => "WS_DLGFRAME"
  | vScroll => "WS_VSCROLL"
  | hScroll => "WS_HSCROLL"
  | sysMenu => "WS_SYSMENU"
  | thickFrame => "WS_THICKFRAME"
  | group => "WS_GROUP"
  | tabStop => "WS_TABSTOP"
  | minimizeBox => "WS_MINIMIZEBOX"
  | maximizeBox => "WS_MAXIMIZEBOX"

def WindowExStyle.value : WindowExStyle → UInt64
  | dlgModalFrame => 0x00000001
  | noParentNotify => 0x00000004
  | topmost => 0x00000008
  | acceptFiles => 0x00000010
  | transparent => 0x00000020
  | mdiChild => 0x00000040
  | toolWindow => 0x00000080
  | windowEdge => 0x00000100
  | clientEdge => 0x00000200
  | contextHelp => 0x00000400
  | right => 0x00001000
  | left => 0x00000000
  | rtlReading => 0x00002000
  | ltrReading => 0x00000000
  | leftScrollBar => 0x00004000
  | rightScrollBar => 0x00000000
  | controlParent => 0x00010000
  | staticEdge => 0x00020000
  | appWindow => 0x00040000
  | layered => 0x00080000
  | noInheritLayout => 0x00100000
  | layoutRtl => 0x00400000
  | composited => 0x02000000
  | noActivate => 0x08000000

def WindowExStyle.name : WindowExStyle → String
  | dlgModalFrame => "WS_EX_DLGMODALFRAME"
  | noParentNotify => "WS_EX_NOPARENTNOTIFY"
  | topmost => "WS_EX_TOPMOST"
  | acceptFiles => "WS_EX_ACCEPTFILES"
  | transparent => "WS_EX_TRANSPARENT"
  | mdiChild => "WS_EX_MDICHILD"
  | toolWindow => "WS_EX_TOOLWINDOW"
  | windowEdge => "WS_EX_WINDOWEDGE"
  | clientEdge => "WS_EX_CLIENTEDGE"
  | contextHelp => "WS_EX_CONTEXTHELP"
  | right => "WS_EX_RIGHT"
  | left => "WS_EX_LEFT"
  | rtlReading => "WS_EX_RTLREADING"
  | ltrReading => "WS_EX_LTRREADING"
  | leftScrollBar => "WS_EX_LEFTSCROLLBAR"
  | rightScrollBar => "WS_EX_RIGHTSCROLLBAR"
  | controlParent => "WS_EX_CONTROLPARENT"
  | staticEdge => "WS_EX_STATICEDGE"
  | appWindow => "WS_EX_APPWINDOW"
  | layered => "WS_EX_LAYERED"
  | noInheritLayout => "WS_EX_NOINHERITLAYOUT"
  | layoutRtl => "WS_EX_LAYOUTRTL"
  | composited => "WS_EX_COMPOSITED"
  | noActivate => "WS_EX_NOACTIVATE"

/-- The `flags` of `parse_ws`. -/
def wsFlags : List (WindowStyle × String) :=
  [(.overlapped, "WS_OVERLAPPED"), (.popup, "WS_POPUP"), (.child, "WS_CHILD"),
    (.minimize, "WS_MINIMIZE"), (.visible, "WS_VISIBLE"), (.disabled, "WS_DISABLED"),
    (.clipSiblings, "WS_CLIPSIBLINGS"), (.clipChildren, "WS_CLIPCHILDREN"),
    (.maximize, "WS_MAXIMIZE"), (.caption, "WS_CAPTION"), (.border, "WS_BORDER"),
    (.dlgFrame, "WS_DLGFRAME"), (.vScroll, "WS_VSCROLL"), (.hScroll, "WS_VSCROLL"),
    (.sysMenu, "WS_SYSMENU"), (.thickFrame, "WS_THICKFRAME"), (.group, "WS_GROUP"),
    (.tabStop, "WS_TABSTOP"), (.minimizeBox, "WS_MINIMIZEBOX"), (.maximizeBox, "WS_MAXIMIZEBOX")]

/-- The `flags` of `parse_ws_ex`. -/
def wsExFlags : List (WindowExStyle × String) :=
  [(.dlgModalFrame, "WS_EX_DLGMODALFRAME"), (.noParentNotify, "WS_EX_NOPARENTNOTIFY"),
    (.topmost, "WS_EX_TOPMOST"), (.acceptFiles, "WS_EX_ACCEPTFILES"),
    (.transparent, "WS_EX_TRANSPARENT"), (.mdiChild, "WS_EX_MDICHILD"),
    (.toolWindow, "WS_EX_TOOLWINDOW"), (.windowEdge, "WS_EX_WINDOWEDGE"),
    (.clientEdge, "WS_EX_CLIENTEDGE"), (.contextHelp, "WS_EX_CONTEXTHELP"),
    (.right, "WS_EX_RIGHT"), (.left, "WS_EX_LEFT"), (.rtlReading, "WS_EX_RTLREADING"),
    (.ltrReading, "WS_EX_LTRREADING"), (.leftScrollBar, "WS_EX_LEFTSCROLLBAR"),
    (.rightScrollBar, "WS_EX_RIGHTSCROLLBAR"), (.controlParent, "WS_EX_CONTROLPARENT"),
    (.staticEdge, "WS_EX_STATICEDGE"), (.appWindow, "WS_EX_APPWINDOW"),
    (.layered, "WS_EX_LAYERED"), (.noInheritLayout, "WS_EX_NOINHERITLAYOUT"),
    (.layoutRtl, "WS_EX_LAYOUTRTL"), (.composited, "WS_EX_COMPOSITED"),
    (.noActivate, "WS_EX_NOACTIVATE")]

/-- `parse_ws`. -/
def parseWs (style : UInt64) : List String :=
  let out := (wsFlags.filter fun f =>
    style &&& f.1.value = f.1.value ∧ f.1.value ≠ 0).map Prod.snd
  if style = 0 then out ++ ["WS_OVERLAPPED"] else out

/-- `parse_ws_ex`. -/
def parseWsEx (exstyle : UInt64) : List String :=
  (wsExFlags.filter fun f => exstyle &&& f.1.value = f.1.value).map Prod.snd

/-! ## Unions of constants -/

/-- The bits that are set in one of the values. -/
def union (values : List UInt64) : UInt64 :=
  values.foldr (· ||| ·) 0

theorem union_cons (c : UInt64) (rest : List UInt64) : union (c :: rest) = c ||| union rest :=
  rfl

theorem and_or_distrib_left (a b c : UInt64) : a &&& (b ||| c) = a &&& b ||| a &&& c :=
  UInt64.eq_of_toBitVec_eq BitVec.and_or_distrib_left

/-- Values that are set in a value are set in it together. -/
theorem and_union {v : UInt64} {values : List UInt64} (set : ∀ c ∈ values, v &&& c = c) :
    v &&& union values = union values := by
  induction values with
  | nil => exact UInt64.and_zero
  | cons c rest ih =>
      obtain ⟨here, others⟩ := List.forall_mem_cons.mp set
      rw [union_cons, and_or_distrib_left, here, ih others]

/-- Two choices of constants that differ in zeros have the same union. -/
theorem union_filter_congr {σ : Type} (value : σ → UInt64) {p q : σ → Bool} {all : List σ}
    (same : ∀ c ∈ all, value c ≠ 0 → p c = q c) :
    union ((all.filter p).map value) = union ((all.filter q).map value) := by
  have kept : ∀ (r : σ → Bool) (c : σ) (rest : List σ),
      union (((c :: rest).filter r).map value) =
        (if r c then value c else 0) ||| union ((rest.filter r).map value) := by
    intro r c rest
    cases holds : r c with
    | true => rw [List.filter_cons_of_pos holds, List.map_cons, union_cons, if_pos rfl]
    | false => rw [List.filter_cons_of_neg (by simp [holds]), if_neg (by simp), UInt64.zero_or]
  induction all with
  | nil => rfl
  | cons c rest ih =>
      obtain ⟨here, others⟩ := List.forall_mem_cons.mp same
      rw [kept, kept, ih others]
      by_cases zero : value c = 0
      · rw [zero, ite_self, ite_self]
      · rw [here zero]

/-! ## Faithful names -/

section

variable {σ : Type} (value : σ → UInt64) (name : σ → String) (flags : List (σ × String))

/-- The names say which constants of the table are set in a value. -/
structure Faithful (v : UInt64) (names : List String) : Prop where
  union : union (((flags.map Prod.fst).filter fun c => name c ∈ names).map value) =
    v &&& union (((flags.map Prod.fst).filter fun c => v &&& value c = value c).map value)
  own : ∀ c ∈ flags.map Prod.fst, value c ≠ 0 → (name c ∈ names ↔ v &&& value c = value c)

variable {value name flags}

/-- The union is right when every name is. -/
theorem Faithful.of_own {v : UInt64} {names : List String}
    (own : ∀ c ∈ flags.map Prod.fst, value c ≠ 0 → (name c ∈ names ↔ v &&& value c = value c)) :
    Faithful value name flags v names := by
  refine ⟨?_, own⟩
  rw [and_union]
  · apply union_filter_congr
    intro c member nonzero
    exact decide_eq_decide.mpr (own c member nonzero)
  · intro c member
    obtain ⟨constant, kept, rfl⟩ := List.mem_map.mp member
    exact of_decide_eq_true (List.mem_filter.mp kept).2

/-- In a table with the right names for the constants that are chosen, a constant's name is
listed when it is chosen. -/
theorem name_mem_iff (chosen : σ → Prop) [DecidablePred chosen]
    (named : ∀ f ∈ flags, chosen f.1 → f.2 = name f.1)
    (distinct : ∀ c ∈ flags.map Prod.fst, ∀ d ∈ flags.map Prod.fst, name c = name d → c = d)
    {c : σ} (member : c ∈ flags.map Prod.fst) :
    name c ∈ (flags.filter fun f => chosen f.1).map Prod.snd ↔ chosen c := by
  constructor
  · intro listed
    obtain ⟨f, kept, text⟩ := List.mem_map.mp listed
    obtain ⟨row, holds⟩ := List.mem_filter.mp kept
    have holds := of_decide_eq_true holds
    have same := (named f row holds).symm.trans text
    rwa [distinct f.1 (List.mem_map_of_mem row) c member same] at holds
  · intro holds
    obtain ⟨f, row, rfl⟩ := List.mem_map.mp member
    refine List.mem_map.mpr ⟨f, List.mem_filter.mpr ⟨row, decide_eq_true holds⟩, ?_⟩
    exact named f row holds

end

/-! ## The two tables -/

theorem wsFlags_named : ∀ f ∈ wsFlags, f.1 ≠ .hScroll → f.2 = f.1.name := by
  decide

theorem wsFlags_distinct : ∀ c ∈ wsFlags.map Prod.fst, ∀ d ∈ wsFlags.map Prod.fst,
    c.name = d.name → c = d := by
  decide +kernel

theorem wsExFlags_named : ∀ f ∈ wsExFlags, f.2 = f.1.name := by
  decide

theorem wsExFlags_distinct : ∀ c ∈ wsExFlags.map Prod.fst, ∀ d ∈ wsExFlags.map Prod.fst,
    c.name = d.name → c = d := by
  decide +kernel

theorem faithful_parseWsEx (exstyle : UInt64) :
    Faithful WindowExStyle.value WindowExStyle.name wsExFlags exstyle (parseWsEx exstyle) := by
  apply Faithful.of_own
  intro c member _
  exact name_mem_iff (fun c => exstyle &&& c.value = c.value)
    (fun f row _ => wsExFlags_named f row) wsExFlags_distinct member

theorem faithful_parseWs {style : UInt64}
    (clear : style &&& WindowStyle.hScroll.value ≠ WindowStyle.hScroll.value) :
    Faithful WindowStyle.value WindowStyle.name wsFlags style (parseWs style) := by
  apply Faithful.of_own
  intro c member nonzero
  have named : ∀ f ∈ wsFlags, style &&& f.1.value = f.1.value ∧ f.1.value ≠ 0 →
      f.2 = f.1.name := by
    intro f row set
    apply wsFlags_named f row
    intro scroll
    exact clear (scroll ▸ set.1)
  have listed := name_mem_iff (fun c => style &&& c.value = c.value ∧ c.value ≠ 0) named
    wsFlags_distinct member
  unfold parseWs
  dsimp only
  split
  · have other : c.name ≠ "WS_OVERLAPPED" := by
      intro same
      have overlapped := wsFlags_distinct c member .overlapped (by decide) same
      exact nonzero (overlapped ▸ rfl)
    rw [List.mem_append, List.mem_singleton, listed]
    simp [nonzero, other]
  · rw [listed]
    simp [nonzero]

/-- The name of `WS_HSCROLL` is never listed. -/
theorem hScroll_not_mem_parseWs (style : UInt64) :
    WindowStyle.hScroll.name ∉ parseWs style := by
  have absent : ∀ f ∈ wsFlags, f.2 ≠ WindowStyle.hScroll.name := by decide
  have skipped : ∀ {keep : WindowStyle × String → Bool},
      WindowStyle.hScroll.name ∉ (wsFlags.filter keep).map Prod.snd := by
    intro keep listed
    obtain ⟨f, kept, text⟩ := List.mem_map.mp listed
    exact absent f (List.mem_filter.mp kept).1 text
  unfold parseWs
  dsimp only
  split
  · rw [List.mem_append, List.mem_singleton]
    rintro (listed | same)
    · exact skipped listed
    · exact absurd same (by decide)
  · exact skipped

/-- The names of the styles are faithful unless `WS_HSCROLL` is set; those of the extended
styles always are. -/
theorem styleNames_faithful_iff (style exstyle : UInt64) :
    (Faithful WindowStyle.value WindowStyle.name wsFlags style (parseWs style) ↔
        style &&& WindowStyle.hScroll.value ≠ WindowStyle.hScroll.value) ∧
      Faithful WindowExStyle.value WindowExStyle.name wsExFlags exstyle (parseWsEx exstyle) := by
  refine ⟨⟨?_, faithful_parseWs⟩, faithful_parseWsEx exstyle⟩
  intro faithful set
  have listed := (faithful.own .hScroll (by decide) (by decide)).mpr set
  exact hScroll_not_mem_parseWs style listed

/-- A window with a horizontal scroll bar and nothing else. -/
theorem not_faithful_hScroll :
    ¬ Faithful WindowStyle.value WindowStyle.name wsFlags 0x00100000 (parseWs 0x00100000) := by
  intro faithful
  have listed := (faithful.own .hScroll (by decide) (by decide)).mpr (by decide)
  exact hScroll_not_mem_parseWs _ listed

end WinInspect.Win32
