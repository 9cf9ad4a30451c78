import WinInspect.Core.Hwnd
import WinInspect.Json.Value

/-!
# JSON forms of the core's records

The converters of `core.cpp`, and the objects its handlers build inline.
-/

namespace WinInspect

open Json (Value Object)

/-- `(double)n` as a JSON number. -/
def number (n : Int) : Value :=
  .num (Double.ofInt n)

/-- An object literal. -/
def object (fields : List (String × Value)) : Value :=
  .obj (Object.ofFields fields)

/-- `Hwnd(h).to_string()` as a JSON string. -/
def hwndJson (hwnd : HwndU64) : Value :=
  .str (hwndToString hwnd)

/-- The object with one `hwnd` member the window lists are made of. -/
def hwndEntry (hwnd : HwndU64) : Value :=
  object [("hwnd", hwndJson hwnd)]

/-- An object field that is left out when the string is empty. -/
def nonEmptyField (key : String) (text : Bytes) : List (String × Value) :=
  if text.isEmpty then [] else [(key, .str text)]

/-- `event_to_json`. -/
def eventToJson (e : Event) : Value :=
  object ([("seq", number e.seq), ("type", .str e.type), ("hwnd", hwndJson e.hwnd)] ++
    nonEmptyField "property" e.property)

/-- An array field that is left out when the array is empty. -/
def nonEmptyArray (key : String) (items : List Value) : List (String × Value) :=
  if items.isEmpty then [] else [(key, .arr items)]

mutual

/-- `window_node_to_json`. -/
def windowNodeToJson : WindowNode → Value
  | .node hwnd title className children =>
      object ([("hwnd", hwndJson hwnd), ("title", .str title), ("class_name", .str className)] ++
        nonEmptyArray "children" (windowNodesToJson children))

def windowNodesToJson : List WindowNode → List Value
  | [] => []
  | n :: rest => windowNodeToJson n :: windowNodesToJson rest

end

/-- The `r2j` of `window_info_to_json`. -/
def rectToJson (r : Rect) : Value :=
  object [("left", number r.left), ("top", number r.top), ("right", number r.right),
    ("bottom", number r.bottom)]

/-- `window_info_to_json`. -/
def windowInfoToJson (wi : WindowInfo) : Value :=
  object [("hwnd", hwndJson wi.hwnd), ("parent", hwndJson wi.parent),
    ("owner", hwndJson wi.owner), ("class_name", .str wi.className), ("title", .str wi.title),
    ("window_rect", rectToJson wi.windowRect), ("client_rect", rectToJson wi.clientRect),
    ("screen_rect", rectToJson wi.screenRect), ("pid", number wi.pid), ("tid", number wi.tid),
    ("style", hwndJson wi.style), ("exstyle", hwndJson wi.exstyle),
    ("style_flags", .arr (wi.styleFlags.map .str)),
    ("ex_style_flags", .arr (wi.exStyleFlags.map .str)), ("visible", .bool wi.visible),
    ("enabled", .bool wi.enabled), ("iconic", .bool wi.iconic), ("zoomed", .bool wi.zoomed),
    ("process_image", .str wi.processImage)]

mutual

/-- `ui_element_to_json`. -/
def uiElementToJson : UIElementInfo → Value
  | .element automationId name className controlType boundingRect enabled visible children =>
      object ([("automation_id", .str automationId), ("name", .str name),
        ("class_name", .str className), ("control_type", .str controlType),
        ("bounding_rect", rectToJson boundingRect), ("enabled", .bool enabled),
        ("visible", .bool visible)] ++
        nonEmptyArray "children" (uiElementsToJson children))

def uiElementsToJson : List UIElementInfo → List Value
  | [] => []
  | el :: rest => uiElementToJson el :: uiElementsToJson rest

end

/-- `ok_json`. -/
def okJson (v : Bool) : Value :=
  object [("ok", .bool v)]

/-- `sent_json`. -/
def sentJson (v : Bool) : Value :=
  object [("sent", .bool v)]

/-- `changed_json`. -/
def changedJson (v : Bool) : Value :=
  object [("changed", .bool v)]

/-- Two upper-case hexadecimal digits, as `%02X` prints them. -/
def hex2 (c : UInt8) : Bytes :=
  [digitByte (c.toNat / 16), digitByte (c.toNat % 16)]

/-- `Color::to_hex`. -/
def Color.toHex (c : Color) : Bytes :=
  ascii "#" ++ hex2 c.r ++ hex2 c.g ++ hex2 c.b

/-- `toupper` in the C locale. -/
def toUpper (c : UInt8) : UInt8 :=
  if 97 ≤ c.toNat ∧ c.toNat ≤ 122 then c - 32 else c

/-- The words of the redaction rule of `env.get`. -/
def credentialWords : List String :=
  ["SECRET", "TOKEN", "KEY", "PASSWORD", "PASSWD", "CREDENTIAL", "AUTH"]

/-- Whether `env.get` redacts a variable of this name. -/
def sensitive (name : Bytes) : Bool :=
  credentialWords.any fun word => containsBytes (name.map toUpper) (ascii word)

/-- The object `env.get` answers with. -/
def envToJson (vars : List EnvVar) : Value :=
  .obj (vars.foldl (fun o v =>
    Assoc.assign v.name (.str (if sensitive v.name then ascii "<REDACTED>" else v.value)) o) [])

/-- The object `daemon.capabilities` answers with. -/
def capabilitiesToJson (caps : Capabilities) : Value :=
  object ([("os", .str caps.os), ("is_wine", .bool caps.isWine), ("arch", .str caps.arch),
    ("win_major", number caps.winMajor), ("win_minor", number caps.winMinor),
    ("win_build", number caps.winBuild)] ++ nonEmptyField "wine_version" caps.wineVersion ++
    [("features", object [("uia", .bool caps.uiaAvailable),
      ("clipboard", .bool caps.clipboardAvailable),
      ("registry_write", .bool caps.registryWritable),
      ("service_manager", .bool caps.serviceManager),
      ("process_memory", .bool caps.processMemory),
      ("input_injection", .bool caps.inputInjection),
      ("window_highlight", .bool caps.windowHighlight)])])

/-- The object `daemon.checkUpdate` answers with. -/
def updateInfoToJson (info : UpdateInfo) : Value :=
  object ([("update_available", .bool info.updateAvailable),
    ("current_version", .str info.currentVersion), ("latest_version", .str info.latestVersion),
    ("installer_url", .str info.installerUrl),
    ("portable_zip_url", .str info.portableZipUrl),
    ("release_notes", .str info.releaseNotes)] ++ nonEmptyField "error" info.error)

/-- The object `reg.read` answers with. -/
def registryKeyToJson (key : RegistryKeyInfo) : Value :=
  object [("path", .str key.path), ("subkeys", .arr (key.subkeys.map .str)),
    ("values", .arr (key.values.map fun v =>
      object [("name", .str v.name), ("type", .str v.type), ("data", .str v.data)]))]

/-- An entry of `daemon.logs`. -/
def logToJson (l : LogMessage) : Value :=
  object [("timestamp", .str l.timestamp), ("level", number l.level.toInt),
    ("message", .str l.message)]

end WinInspect
