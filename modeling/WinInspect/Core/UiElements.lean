import WinInspect.Core.FakeBackend
import WinInspect.Core.Handles
import WinInspect.Core.TreeCodec

/-!
# Inspecting and invoking elements

`FakeBackend` answers `ui.invoke` by a search that stops at the first element with
the id, and `ui.inspect` with the elements themselves.  An id is invoked exactly
when a client finds it in the rendered elements.
-/

namespace WinInspect

open Json (Value Object)

/-- An object among the values, or below their `children`, has an automation id. -/
inductive ShowsId (id : Bytes) : List Value → Prop
  | here {items : List Value} {o : Object} (member : .obj o ∈ items)
      (named : getStr o "automation_id" = some id) : ShowsId id items
  | inside {items children : List Value} {o : Object} (member : .obj o ∈ items)
      (nested : o.get? "children" = some (.arr children)) (shown : ShowsId id children) :
      ShowsId id items

section

variable {id : Bytes}

theorem not_showsId_nil : ¬ ShowsId id [] := by
  rintro (⟨⟨⟩, -⟩ | ⟨⟨⟩, -, -⟩)

theorem ShowsId.mono {items larger : List Value} (shown : ShowsId id items)
    (subset : items ⊆ larger) : ShowsId id larger := by
  cases shown with
  | here member named => exact .here (subset member) named
  | inside member nested shown => exact .inside (subset member) nested shown

theorem showsId_cons_iff {v : Value} {rest : List Value} :
    ShowsId id (v :: rest) ↔ ShowsId id [v] ∨ ShowsId id rest := by
  constructor
  · rintro (⟨member, named⟩ | ⟨member, nested, shown⟩)
    · rcases List.mem_cons.mp member with rfl | later
      · exact Or.inl (.here List.mem_cons_self named)
      · exact Or.inr (.here later named)
    · rcases List.mem_cons.mp member with rfl | later
      · exact Or.inl (.inside List.mem_cons_self nested shown)
      · exact Or.inr (.inside later nested shown)
  · rintro (shown | shown)
    · exact shown.mono (List.cons_subset_cons v (List.nil_subset _))
    · exact shown.mono (List.subset_cons_self _ _)

theorem showsId_object_iff {o : Object} :
    ShowsId id [.obj o] ↔ getStr o "automation_id" = some id ∨
      ∃ children, o.get? "children" = some (.arr children) ∧ ShowsId id children := by
  constructor
  · rintro (⟨member, named⟩ | ⟨member, nested, shown⟩)
    · cases List.mem_singleton.mp member
      exact Or.inl named
    · cases List.mem_singleton.mp member
      exact Or.inr ⟨_, nested, shown⟩
  · rintro (named | ⟨children, nested, shown⟩)
    · exact .here (List.mem_singleton_self _) named
    · exact .inside (List.mem_singleton_self _) nested shown

/-- A rendered element shows its own id and those its children show. -/
theorem showsId_element_iff (automationId name className controlType : Bytes) (boundingRect : Rect)
    (enabled visible : Bool) (children : List UIElementInfo) :
    ShowsId id [uiElementToJson (.element automationId name className controlType boundingRect
        enabled visible children)] ↔
      automationId = id ∨ ShowsId id (uiElementsToJson children) := by
  have found := get?_element automationId name className controlType boundingRect enabled visible
    (uiElementsToJson children)
  rw [List.forall_mem_cons] at found
  rw [uiElementToJson, object, showsId_object_iff, getStr_of_get? found.1, Option.some.injEq,
    get?_children_nonEmptyArray (by simp only [List.forall_mem_cons]; decide)]
  cases uiElementsToJson children with
  | nil => simp [not_showsId_nil]
  | cons v rest => simp

mutual

theorem matchesBelow_iff : ∀ el : UIElementInfo,
    Fake.matchesBelow id el = true ↔ ShowsId id [uiElementToJson el]
  | .element _ _ _ _ _ _ _ children => by
      rw [showsId_element_iff, Fake.matchesBelow, Bool.or_eq_true, beq_iff_eq,
        findAndInvoke_iff children]

/-- The search finds the ids that the rendering shows. -/
theorem findAndInvoke_iff : ∀ els : List UIElementInfo,
    Fake.findAndInvoke id els = true ↔ ShowsId id (uiElementsToJson els)
  | [] => iff_of_false nofun not_showsId_nil
  | el :: rest => by
      rw [uiElementsToJson, showsId_cons_iff, Fake.findAndInvoke, Bool.or_eq_true,
        matchesBelow_iff el, findAndInvoke_iff rest]

end

end

/-! ## The responses -/

/-- The response says that the element was invoked. -/
def Invoked (resp : CoreResponse) : Prop :=
  resp.ok = true ∧ ∃ o, resp.result = .obj o ∧ getBool o "invoked" = some true

/-- The response shows an element with an automation id. -/
def Inspected (id : Bytes) (resp : CoreResponse) : Prop :=
  resp.ok = true ∧ ∃ items, resp.result = .arr items ∧ ShowsId id items

theorem invoked_okWith_iff (id : Bytes) (invoked : Bool) :
    Invoked (respondOrCatch id (okWith (object [("invoked", .bool invoked)]))) ↔
      invoked = true := by
  have member : getBool (Object.ofFields [("invoked", .bool invoked)]) "invoked" = some invoked :=
    getBool_of_get? (Json.get?_ofFields [] "invoked" _ (List.forall_mem_nil _))
  constructor
  · rintro ⟨-, o, ⟨⟩, shown⟩
    exact Option.some.inj (member.symm.trans shown)
  · rintro rfl
    exact ⟨rfl, _, rfl, member⟩

theorem inspected_okWith_iff (id name : Bytes) (items : List Value) :
    Inspected name (respondOrCatch id (okWith (.arr items))) ↔ ShowsId name items := by
  constructor
  · rintro ⟨-, _, ⟨⟩, shown⟩
    exact shown
  · intro shown
    exact ⟨rfl, items, rfl, shown⟩

section

variable (s : Fake.FakeState) (env : Surroundings) (durationMs : Int) (req : CoreRequest)
  (snapshot : Snapshot) (old : Option Snapshot) {text id : Bytes} {hwnd : HwndU64}

/-- The elements under a handle. -/
def elementsUnder (hwnd : HwndU64) : List UIElementInfo :=
  (Assoc.find hwnd s.uiElements).getD []

theorem inspected_handle_iff (method : req.method = ascii "ui.inspect")
    (given : getStr req.params "hwnd" = some text) (parses : parseHwnd text = some hwnd) :
    Inspected id (handle Fake.fakeBackend env durationMs req snapshot old s).1 ↔
      ShowsId id (uiElementsToJson (elementsUnder s hwnd)) := by
  have found : dispatch req.method = some uiInspect := by
    rw [method]
    exact dispatch_of_mem (by simp [dispatchTable])
  have accepted : uiInspect.args req old = .ok hwnd := by
    change hwndArg req old = _
    rw [hwndArg, given]
    change needHwnd text = _
    rw [needHwnd, parses]
    rfl
  have body : (handleBody Fake.fakeBackend env req snapshot old s).1 =
      respondOrCatch req.id (okWith (.arr (uiElementsToJson (elementsUnder s hwnd)))) :=
    congrArg Prod.fst (handleBody_of_ok found accepted rfl)
  change Inspected id (handleBody Fake.fakeBackend env req snapshot old s).1 ↔ _
  rw [body, inspected_okWith_iff]

theorem invoked_handle_iff (method : req.method = ascii "ui.invoke")
    (given : getStr req.params "hwnd" = some text)
    (named : getStr req.params "automation_id" = some id) (parses : parseHwnd text = some hwnd) :
    Invoked (handle Fake.fakeBackend env durationMs req snapshot old s).1 ↔
      Fake.findAndInvoke id (elementsUnder s hwnd) = true := by
  have found : dispatch req.method = some uiInvoke := by
    rw [method]
    exact dispatch_of_mem (by simp [dispatchTable])
  have accepted : uiInvoke.args req old = .ok (hwnd, id) := by
    unfold uiInvoke
    dsimp only
    rw [given, named]
    change (needHwnd text).bind _ = _
    rw [needHwnd, parses]
    rfl
  have body : (handleBody Fake.fakeBackend env req snapshot old s).1 =
      respondOrCatch req.id (okWith (object
        [("invoked", .bool (Fake.findAndInvoke id (elementsUnder s hwnd)))])) :=
    congrArg Prod.fst (handleBody_of_ok found accepted rfl)
  change Invoked (handleBody Fake.fakeBackend env req snapshot old s).1 ↔ _
  rw [body, invoked_okWith_iff]

end

/-- An id is invoked exactly when the response to `ui.inspect` shows it. -/
theorem invoked_iff_inspected (s : Fake.FakeState) (env : Surroundings) (durationMs : Int)
    (snapshot : Snapshot) (old : Option Snapshot) (inspect invoke : CoreRequest)
    {text id : Bytes} {hwnd : HwndU64} (parses : parseHwnd text = some hwnd)
    (inspects : inspect.method = ascii "ui.inspect")
    (inspected : getStr inspect.params "hwnd" = some text)
    (invokes : invoke.method = ascii "ui.invoke")
    (invoked : getStr invoke.params "hwnd" = some text)
    (named : getStr invoke.params "automation_id" = some id) :
    Invoked (handle Fake.fakeBackend env durationMs invoke snapshot old s).1 ↔
      Inspected id (handle Fake.fakeBackend env durationMs inspect snapshot old s).1 := by
  rw [invoked_handle_iff s env durationMs invoke snapshot old invokes invoked named parses,
    inspected_handle_iff s env durationMs inspect snapshot old inspects inspected parses,
    findAndInvoke_iff]

/-- A window with a button in a group. -/
def windowWithGroup : Fake.FakeState :=
  { uiElements := [(1, [groupWithButton])] }

def inspectGroup : CoreRequest :=
  { id := ascii "1", method := ascii "ui.inspect", params := [(ascii "hwnd", .str (ascii "0x1"))] }

def invokeButton : CoreRequest :=
  { id := ascii "2", method := ascii "ui.invoke"
    params := [(ascii "automation_id", .str (ascii "b")), (ascii "hwnd", .str (ascii "0x1"))] }

theorem invoked_iff_inspected_button :
    Invoked (handle Fake.fakeBackend ⟨false, [], 0⟩ 0 invokeButton {} none windowWithGroup).1 ∧
      Inspected (ascii "b")
        (handle Fake.fakeBackend ⟨false, [], 0⟩ 0 inspectGroup {} none windowWithGroup).1 := by
  have parses : parseHwnd (ascii "0x1") = some 1 := by decide
  have inspected : getStr inspectGroup.params "hwnd" = some (ascii "0x1") := by decide
  have invoked : getStr invokeButton.params "hwnd" = some (ascii "0x1") := by decide
  have named : getStr invokeButton.params "automation_id" = some (ascii "b") := by decide
  have done := (invoked_handle_iff windowWithGroup ⟨false, [], 0⟩ 0 invokeButton {} none rfl invoked
    named parses).mpr (by decide)
  exact ⟨done, (invoked_iff_inspected windowWithGroup ⟨false, [], 0⟩ 0 {} none inspectGroup
    invokeButton parses rfl inspected rfl invoked named).mp done⟩

end WinInspect
