import WinInspect.Core.Dispatch
import WinInspect.Json.RoundTrip

/-!
# Trees through JSON

`window_node_to_json` and `ui_element_to_json` render a tree as nested objects and
leave out the `children` of a leaf.  A reader that takes a missing `children` for
the empty list gets the tree back from the text.
-/

namespace WinInspect

open Json (Value Object Stod ReadsBack)

/-! ## Reading a tree -/

section

variable {α : Type} (build : Object → List α → Option α)

mutual

/-- Read a tree of objects whose children are under `children`. -/
def readTree : Value → Option α
  | .obj o => (readChildren o).bind (build o)
  | _ => none

/-- The children among the members of an object, none if there is no such member. -/
def readChildren : List (Bytes × Value) → Option (List α)
  | [] => some []
  | (key, value) :: rest =>
      if key = ascii "children" then readForest value else readChildren rest

def readForest : Value → Option (List α)
  | .arr items => readTrees items
  | _ => none

def readTrees : List Value → Option (List α)
  | [] => some []
  | v :: rest => (readTree v).bind fun t => (readTrees rest).map (t :: ·)

end

theorem readChildren_eq (o : Object) :
    readChildren build o =
      match o.get? "children" with
      | none => some []
      | some value => readForest build value := by
  induction o with
  | nil => simp [readChildren, Object.get?]
  | cons entry rest ih =>
      obtain ⟨key, value⟩ := entry
      rw [readChildren, Object.get?, Assoc.find_cons]
      split
      · rfl
      · exact ih

variable {fields : List (String × Value)} {items : List Value}

theorem get?_children_nonEmptyArray (plain : ∀ field ∈ fields, ascii "children" ≠ ascii field.1) :
    (Object.ofFields (fields ++ nonEmptyArray "children" items)).get? "children" =
      if items.isEmpty then none else some (.arr items) := by
  unfold nonEmptyArray
  split
  · rw [List.append_nil]
    exact Json.get?_ofFields_of_absent plain
  · exact Json.get?_ofFields fields "children" _ (List.forall_mem_nil _)

/-- A node that is rendered without the member of an empty list is read with that list. -/
theorem readTree_object (plain : ∀ field ∈ fields, ascii "children" ≠ ascii field.1) :
    readTree build (object (fields ++ nonEmptyArray "children" items)) =
      (readTrees build items).bind
        (build (Object.ofFields (fields ++ nonEmptyArray "children" items))) := by
  rw [object, readTree, readChildren_eq, get?_children_nonEmptyArray plain]
  cases items with
  | nil => rfl
  | cons v rest => rfl

end

/-! ## The rendered members -/

/-- The own members of a node are found beside its children. -/
theorem get?_nonEmptyArray (fields : List (String × Value))
    (distinct : (fields.map fun field => ascii field.1).Nodup)
    (plain : ascii "children" ∉ fields.map fun field => ascii field.1) (items : List Value) :
    ∀ field ∈ fields,
      (Object.ofFields (fields ++ nonEmptyArray "children" items)).get? field.1 =
        some field.2 := by
  intro field member
  apply Json.get?_ofFields_of_nodup
  · unfold nonEmptyArray
    split
    · rwa [List.append_nil]
    · rw [List.map_append, List.nodup_append]
      refine ⟨distinct, List.nodup_singleton _, ?_⟩
      rintro name listed _ other rfl
      rw [List.map_singleton, List.mem_singleton] at other
      exact plain (other ▸ listed)
  · exact List.mem_append_left _ member

section

variable {o : Object} {key : String}

theorem getStr_of_get? {text : Bytes} (given : o.get? key = some (.str text)) :
    getStr o key = some text := by
  rw [getStr, given]
  rfl

theorem getBool_of_get? {b : Bool} (given : o.get? key = some (.bool b)) :
    getBool o key = some b := by
  rw [getBool, given]
  rfl

theorem getInt_of_get? {n : Int} (small : n.natAbs < 2 ^ 53)
    (given : o.get? key = some (number n)) : getInt o key = some n := by
  have read : getNum o key = some (Double.ofInt n) := by
    rw [getNum, given]
    rfl
  rw [getInt, read, Option.map_some, Double.trunc_ofInt small]

end

/-! ## Windows -/

/-- The node an object stands for, with its children. -/
def windowNodeOf (o : Object) (children : List WindowNode) : Option WindowNode := do
  let hwnd ← (getStr o "hwnd").bind parseHwnd
  return .node hwnd (← getStr o "title") (← getStr o "class_name") children

def readWindowNode : Value → Option WindowNode :=
  readTree windowNodeOf

theorem windowNodeOf_object (hwnd : HwndU64) (title className : Bytes) (items : List Value)
    (children : List WindowNode) :
    windowNodeOf (Object.ofFields ([("hwnd", hwndJson hwnd), ("title", .str title),
      ("class_name", .str className)] ++ nonEmptyArray "children" items)) children =
      some (.node hwnd title className children) := by
  have found := get?_nonEmptyArray [("hwnd", hwndJson hwnd), ("title", .str title),
    ("class_name", .str className)] (by simp only [List.map]; decide)
    (by simp only [List.map]; decide) items
  simp only [List.forall_mem_cons] at found
  obtain ⟨hwndFound, titleFound, classFound, -⟩ := found
  unfold windowNodeOf
  rw [getStr_of_get? hwndFound, getStr_of_get? titleFound, getStr_of_get? classFound,
    Option.bind_some, parseHwnd_hwndToString]
  rfl

mutual

theorem readWindowNode_toJson : ∀ n : WindowNode, readWindowNode (windowNodeToJson n) = some n
  | .node hwnd title className children => by
      rw [windowNodeToJson, readWindowNode,
        readTree_object _ (by simp only [List.forall_mem_cons]; decide),
        readWindowNodes_toJson children, Option.bind_some, windowNodeOf_object]

theorem readWindowNodes_toJson : ∀ ns : List WindowNode,
    readTrees windowNodeOf (windowNodesToJson ns) = some ns
  | [] => rfl
  | n :: rest => by
      have first : readTree windowNodeOf (windowNodeToJson n) = some n := readWindowNode_toJson n
      rw [windowNodesToJson, readTrees, first, readWindowNodes_toJson rest]
      rfl

end

/-! ## Elements -/

/-- The sides are 32-bit integers. -/
def Rect.Is32 (r : Rect) : Prop :=
  ∀ side ∈ [r.left, r.top, r.right, r.bottom], -2 ^ 31 ≤ side ∧ side < 2 ^ 31

instance (r : Rect) : Decidable r.Is32 :=
  inferInstanceAs (Decidable (∀ side ∈ [r.left, r.top, r.right, r.bottom], _))

mutual

/-- The coordinates of an element and of those below it are 32-bit integers. -/
def UIElementInfo.Is32 : UIElementInfo → Prop
  | .element _ _ _ _ boundingRect _ _ children => boundingRect.Is32 ∧ UIElementInfo.All32 children

def UIElementInfo.All32 : List UIElementInfo → Prop
  | [] => True
  | el :: rest => el.Is32 ∧ UIElementInfo.All32 rest

end

/-- The element an object stands for, with its children. -/
def uiElementOf (o : Object) (children : List UIElementInfo) : Option UIElementInfo := do
  let rect ← ((o.get? "bounding_rect").bind Value.obj?).bind getRect
  return .element (← getStr o "automation_id") (← getStr o "name") (← getStr o "class_name")
    (← getStr o "control_type") rect (← getBool o "enabled") (← getBool o "visible") children

def readUiElement : Value → Option UIElementInfo :=
  readTree uiElementOf

theorem Rect.Is32.natAbs_lt {r : Rect} (fits : r.Is32) :
    ∀ side ∈ [r.left, r.top, r.right, r.bottom], side.natAbs < 2 ^ 53 := by
  intro side member
  have := fits side member
  omega

theorem getRect_rectToJson {r : Rect} (fits : r.Is32) :
    (Value.obj? (rectToJson r)).bind getRect = some r := by
  have small := fits.natAbs_lt
  simp only [List.forall_mem_cons] at small
  obtain ⟨left, top, right, bottom, -⟩ := small
  have found : ∀ key value, (key, value) ∈ [("left", number r.left), ("top", number r.top),
      ("right", number r.right), ("bottom", number r.bottom)] →
      (Object.ofFields [("left", number r.left), ("top", number r.top),
        ("right", number r.right), ("bottom", number r.bottom)]).get? key = some value :=
    fun _ _ => Json.get?_ofFields_of_nodup (by simp only [List.map]; decide)
  change getRect (Object.ofFields _) = some r
  unfold getRect
  rw [getInt_of_get? left (found "left" _ (by simp)), getInt_of_get? top (found "top" _ (by simp)),
    getInt_of_get? right (found "right" _ (by simp)),
    getInt_of_get? bottom (found "bottom" _ (by simp))]
  rfl

/-- The members of a rendered element. -/
theorem get?_element (automationId name className controlType : Bytes) (boundingRect : Rect)
    (enabled visible : Bool) (items : List Value) :
    ∀ field ∈ [("automation_id", Value.str automationId), ("name", .str name),
        ("class_name", .str className), ("control_type", .str controlType),
        ("bounding_rect", rectToJson boundingRect), ("enabled", .bool enabled),
        ("visible", .bool visible)],
      (Object.ofFields ([("automation_id", .str automationId), ("name", .str name),
        ("class_name", .str className), ("control_type", .str controlType),
        ("bounding_rect", rectToJson boundingRect), ("enabled", .bool enabled),
        ("visible", .bool visible)] ++ nonEmptyArray "children" items)).get? field.1 =
        some field.2 :=
  get?_nonEmptyArray _ (by simp only [List.map]; decide) (by simp only [List.map]; decide) items

theorem uiElementOf_object (automationId name className controlType : Bytes) {boundingRect : Rect}
    (fits : boundingRect.Is32) (enabled visible : Bool) (items : List Value)
    (children : List UIElementInfo) :
    uiElementOf (Object.ofFields ([("automation_id", .str automationId), ("name", .str name),
      ("class_name", .str className), ("control_type", .str controlType),
      ("bounding_rect", rectToJson boundingRect), ("enabled", .bool enabled),
      ("visible", .bool visible)] ++ nonEmptyArray "children" items)) children =
      some (.element automationId name className controlType boundingRect enabled visible
        children) := by
  have found := get?_element automationId name className controlType boundingRect enabled visible
    items
  simp only [List.forall_mem_cons] at found
  obtain ⟨idFound, nameFound, classFound, typeFound, rectFound, enabledFound, visibleFound, -⟩ :=
    found
  unfold uiElementOf
  rw [rectFound, Option.bind_some, getRect_rectToJson fits, getStr_of_get? idFound,
    getStr_of_get? nameFound, getStr_of_get? classFound, getStr_of_get? typeFound,
    getBool_of_get? enabledFound, getBool_of_get? visibleFound]
  rfl

mutual

theorem readUiElement_toJson : ∀ {el : UIElementInfo}, el.Is32 →
    readUiElement (uiElementToJson el) = some el
  | .element _ _ _ _ _ _ _ children, fits => by
      rw [uiElementToJson, readUiElement,
        readTree_object _ (by simp only [List.forall_mem_cons]; decide),
        readUiElements_toJson fits.2, Option.bind_some, uiElementOf_object _ _ _ _ fits.1]

theorem readUiElements_toJson : ∀ {els : List UIElementInfo}, UIElementInfo.All32 els →
    readTrees uiElementOf (uiElementsToJson els) = some els
  | [], _ => rfl
  | el :: rest, fits => by
      have first : readTree uiElementOf (uiElementToJson el) = some el :=
        readUiElement_toJson fits.1
      rw [uiElementsToJson, readTrees, first, readUiElements_toJson fits.2]
      rfl

end

/-! ## The text -/

/-- A value that is serialized and read back as it is. -/
def Readable (stod : Stod) (v : Value) : Prop :=
  v.WellFormed ∧ v.NumbersAre (ReadsBack stod)

section

variable {stod : Stod}

theorem readable_object {fields : List (String × Value)}
    (each : ∀ field ∈ fields, Readable stod field.2) : Readable stod (object fields) :=
  ⟨Json.wellFormed_ofFields fun field member => (each field member).1,
    Json.numbersAre_ofFields fun field member => (each field member).2⟩

theorem readable_arr {items : List Value} (each : ∀ v ∈ items, Readable stod v) :
    Readable stod (.arr items) :=
  ⟨Value.listWellFormed_iff.mpr fun v member => (each v member).1,
    Value.listNumbersAre_iff.mpr fun v member => (each v member).2⟩

theorem readable_node {fields : List (String × Value)} {items : List Value}
    (own : ∀ field ∈ fields, Readable stod field.2) (below : ∀ v ∈ items, Readable stod v) :
    Readable stod (object (fields ++ nonEmptyArray "children" items)) := by
  apply readable_object
  rw [List.forall_mem_append]
  refine ⟨own, ?_⟩
  unfold nonEmptyArray
  split
  · exact List.forall_mem_nil _
  · exact List.forall_mem_singleton.mpr (readable_arr below)

theorem readable_str (text : Bytes) : Readable stod (.str text) :=
  ⟨trivial, trivial⟩

theorem readable_bool (b : Bool) : Readable stod (.bool b) :=
  ⟨trivial, trivial⟩

mutual

theorem readable_windowNodeToJson : ∀ n : WindowNode, Readable stod (windowNodeToJson n)
  | .node hwnd title className children => by
      rw [windowNodeToJson]
      apply readable_node
      · simp only [List.forall_mem_cons]
        exact ⟨readable_str _, readable_str _, readable_str _, List.forall_mem_nil _⟩
      · exact readable_windowNodesToJson children

theorem readable_windowNodesToJson : ∀ ns : List WindowNode,
    ∀ v ∈ windowNodesToJson ns, Readable stod v
  | [] => List.forall_mem_nil _
  | n :: rest =>
      List.forall_mem_cons.mpr ⟨readable_windowNodeToJson n, readable_windowNodesToJson rest⟩

end

theorem readable_number (exact : Json.StodExact stod) {n : Int} (small : n.natAbs < 2 ^ 53) :
    Readable stod (number n) := by
  have integral := Double.isInteger_ofInt n
  have bounded : (Double.ofInt n).truncAbs ≤ 2 ^ 53 := by
    rw [Double.ofInt, Double.truncAbs_ofNat _ small]
    exact small.le
  exact ⟨trivial, ⟨integral, bounded⟩, exact _ integral bounded⟩

theorem readable_rectToJson (exact : Json.StodExact stod) {r : Rect} (fits : r.Is32) :
    Readable stod (rectToJson r) := by
  have small := fits.natAbs_lt
  simp only [List.forall_mem_cons] at small
  obtain ⟨left, top, right, bottom, -⟩ := small
  apply readable_object
  simp only [List.forall_mem_cons]
  exact ⟨readable_number exact left, readable_number exact top, readable_number exact right,
    readable_number exact bottom, List.forall_mem_nil _⟩

mutual

theorem readable_uiElementToJson (exact : Json.StodExact stod) :
    ∀ {el : UIElementInfo}, el.Is32 → Readable stod (uiElementToJson el)
  | .element _ _ _ _ _ _ _ children, fits => by
      rw [uiElementToJson]
      apply readable_node
      · simp only [List.forall_mem_cons]
        exact ⟨readable_str _, readable_str _, readable_str _, readable_str _,
          readable_rectToJson exact fits.1, readable_bool _, readable_bool _,
          List.forall_mem_nil _⟩
      · exact readable_uiElementsToJson exact fits.2

theorem readable_uiElementsToJson (exact : Json.StodExact stod) :
    ∀ {els : List UIElementInfo}, UIElementInfo.All32 els →
      ∀ v ∈ uiElementsToJson els, Readable stod v
  | [], _ => List.forall_mem_nil _
  | _ :: _, fits =>
      List.forall_mem_cons.mpr
        ⟨readable_uiElementToJson exact fits.1, readable_uiElementsToJson exact fits.2⟩

end

end

/-- A rendered tree is read back from its text, every member and child of it. -/
theorem trees_readBack (stod : Stod) (exact : Json.StodExact stod) :
    (∀ n : WindowNode, ∃ v, Json.parse stod (Json.dumps (windowNodeToJson n)) = .ok v ∧
        readWindowNode v = some n) ∧
      ∀ el : UIElementInfo, el.Is32 →
        ∃ v, Json.parse stod (Json.dumps (uiElementToJson el)) = .ok v ∧
          readUiElement v = some el := by
  constructor
  · intro n
    obtain ⟨wellFormed, numbers⟩ : Readable stod (windowNodeToJson n) :=
      readable_windowNodeToJson n
    exact ⟨_, Json.parse_dumps_of_readsBack wellFormed numbers, readWindowNode_toJson n⟩
  · intro el fits
    obtain ⟨wellFormed, numbers⟩ := readable_uiElementToJson exact fits
    exact ⟨_, Json.parse_dumps_of_readsBack wellFormed numbers, readUiElement_toJson fits⟩

/-- A button left of the screen, in a group without a name. -/
def groupWithButton : UIElementInfo :=
  .element (ascii "g") [] (ascii "Group") (ascii "Group") ⟨-20, 0, 100, 50⟩ true true
    [.element (ascii "b") [255] (ascii "Button") (ascii "Button") ⟨-10, 5, 40, 25⟩ false true []]

theorem trees_readBack_group :
    Json.StodExact Json.integerStod ∧ groupWithButton.Is32 ∧
      ∃ v, Json.parse Json.integerStod (Json.dumps (uiElementToJson groupWithButton)) = .ok v ∧
        readUiElement v = some groupWithButton := by
  have fits : groupWithButton.Is32 := ⟨by decide, ⟨by decide, trivial⟩, trivial⟩
  exact ⟨Json.integerStod_exact, fits,
    (trees_readBack Json.integerStod Json.integerStod_exact).2 groupWithButton fits⟩

end WinInspect
