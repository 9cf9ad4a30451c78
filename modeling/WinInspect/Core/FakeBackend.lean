import WinInspect.Core.Backend
import WinInspect.Data.Map
import Mathlib.Data.List.Sort

/-!
# The fake backend

`FakeBackend`, the in-memory implementation of `IBackend`.  Its state is the window
map, the foreground window, the UI elements and the list of injected events; every
operation answers, and none throws.
-/

namespace WinInspect.Fake

open Json (Value Object)

structure FakeWindow where
  hwnd : HwndU64
  parent : HwndU64 := 0
  owner : HwndU64 := 0
  title : Bytes := []
  cls : Bytes := []
  visible : Bool := true
  deriving DecidableEq

/-- The private members of `FakeBackend`. -/
structure FakeState where
  w : List (HwndU64 × FakeWindow) := []
  /-- `w` is a map, in ascending handle order. -/
  ordered : Assoc.Sorted w := by first | exact Assoc.sorted_nil | decide
  foreground : HwndU64 := 0
  uiElements : List (HwndU64 × List UIElementInfo) := []
  injectedEvents : List Bytes := []

/-- `FakeBackend::FakeBackend`. -/
def FakeState.ofWindows (windows : List FakeWindow) : FakeState :=
  windows.foldl (fun s fw =>
    { s with w := Assoc.emplace fw.hwnd fw s.w, ordered := s.ordered.emplace fw.hwnd fw }) {}

namespace FakeState

variable (s : FakeState)

/-- The handles of the windows with a given parent, in ascending order. -/
def childrenOf (parent : HwndU64) : List HwndU64 :=
  ((s.w.filter fun entry => entry.2.parent = parent).map Prod.fst).insertionSort (· ≤ ·)

/-- `capture_snapshot`. -/
def captureSnapshot : Snapshot :=
  ⟨s.childrenOf 0⟩

/-- `get_info`. -/
def getInfo (hwnd : HwndU64) : Option WindowInfo :=
  (Assoc.find hwnd s.w).map fun fw =>
    { hwnd := fw.hwnd, parent := fw.parent, owner := fw.owner
      className := fw.cls, title := fw.title
      windowRect := ⟨0, 0, 100, 100⟩, clientRect := ⟨0, 0, 100, 100⟩, screenRect := ⟨0, 0, 0, 0⟩
      pid := 1234, tid := 5678, style := 0, exstyle := 0, styleFlags := [], exStyleFlags := []
      visible := fw.visible, enabled := true, iconic := false, zoomed := false
      processImage := ascii "fake.exe" }

/-- The recursion of `get_window_tree`.  The source follows parent links without a
bound; on acyclic windows the depth is at most the number of windows. -/
def buildNode : Nat → HwndU64 → WindowNode
  | depth, h =>
      let fw := Assoc.find h s.w
      let below : List HwndU64 :=
        (s.w.filter fun entry => entry.2.parent = h).map Prod.fst
      .node h ((fw.map FakeWindow.title).getD []) ((fw.map FakeWindow.cls).getD [])
        (match depth with
        | 0 => []
        | depth + 1 => below.map (buildNode depth))

/-- `get_window_tree`. -/
def getWindowTree (root : HwndU64) : List WindowNode :=
  let roots : List HwndU64 :=
    if root = 0 then (s.w.filter fun entry => entry.2.parent = 0).map Prod.fst else [root]
  roots.map (s.buildNode s.w.length)

/-- `injected_events_.push_back(text)`. -/
def inject (text : Bytes) : FakeState :=
  { s with injectedEvents := s.injectedEvents ++ [text] }

/-- `ensure_visible`. -/
def ensureVisible (hwnd : HwndU64) (visible : Bool) : Bool × FakeState :=
  match Assoc.find hwnd s.w with
  | none => (false, s)
  | some fw =>
      (fw.visible != visible,
        { s with
          w := Assoc.assign hwnd { fw with visible := visible } s.w
          ordered := s.ordered.assign hwnd { fw with visible := visible } })

/-- `ensure_foreground`. -/
def ensureForeground (hwnd : HwndU64) : Bool × FakeState :=
  (s.foreground != hwnd, { s with foreground := hwnd })

end FakeState

mutual

/-- `find_and_invoke`. -/
def findAndInvoke (id : Bytes) : List UIElementInfo → Bool
  | [] => false
  | el :: rest => matchesBelow id el || findAndInvoke id rest

/-- The body of its loop: the element itself, then its children. -/
def matchesBelow (id : Bytes) : UIElementInfo → Bool
  | .element automationId _ _ _ _ _ _ children =>
      automationId == id || findAndInvoke id children

end

/-- `std::to_string` of an integer. -/
def decimalInt (n : Int) : Bytes :=
  if n < 0 then ascii "-" ++ decimal n.natAbs else decimal n.natAbs

/-- `get_capabilities`. -/
def capabilities : Capabilities where
  os := ascii "windows 10 (fake)"
  isWine := false
  arch := ascii "x64"
  winMajor := 10
  winMinor := 0
  winBuild := 19041
  uiaAvailable := true
  clipboardAvailable := true
  registryWritable := true
  serviceManager := true
  processMemory := true
  inputInjection := true
  windowHighlight := true
  wineVersion := []

/-- `get_env_metadata`. -/
def envMetadata : Object :=
  Object.ofFields [("os", .str capabilities.os), ("is_wine", .bool capabilities.isWine),
    ("arch", .str capabilities.arch),
    ("diagnostics", .obj (Object.ofFields
      [("clipboard", .bool capabilities.clipboardAvailable),
        ("registry_write", .bool capabilities.registryWritable),
        ("uia_available", .bool capabilities.uiaAvailable)]))]

/-- The answer and the new state of a call. -/
def answer (s : FakeState) : {β : Type} → Call β → β × FakeState
  | _, .captureSnapshot => (s.captureSnapshot, s)
  | _, .listTop snap => (snap.top, s)
  | _, .listChildren _ parent => (s.childrenOf parent, s)
  | _, .getInfo _ hwnd => (s.getInfo hwnd, s)
  | _, .pickAtPoint _ _ _ _ => (s.captureSnapshot.top.head?, s)
  | _, .getWindowTree _ root => (s.getWindowTree root, s)
  | _, .ensureVisible hwnd visible => s.ensureVisible hwnd visible
  | _, .ensureForeground hwnd => s.ensureForeground hwnd
  | _, .highlightWindow hwnd => (true, s.inject (ascii "highlight_window:" ++ decimal hwnd.toNat))
  | _, .setProperty _ name value =>
      (true, s.inject (ascii "set_property:" ++ name ++ ascii "=" ++ value))
  | _, .postMessage _ _ _ _ => (true, s)
  | _, .sendInput _ => (true, s.inject (ascii "send_input"))
  | _, .sendMouseClick x y button =>
      (true, s.inject (ascii "mouse_click:" ++ decimalInt x ++ ascii "," ++ decimalInt y ++
        ascii "," ++ decimalInt button))
  | _, .sendKeyPress vk => (true, s.inject (ascii "key_press:" ++ decimalInt vk))
  | _, .sendText text => (true, s.inject (ascii "text:" ++ text))
  | _, .controlClick hwnd x y _ =>
      (true, s.inject (ascii "control_click:" ++ decimal hwnd.toNat ++ ascii " at " ++
        decimalInt x ++ ascii "," ++ decimalInt y))
  | _, .controlSend hwnd text =>
      (true, s.inject (ascii "control_send:" ++ decimal hwnd.toNat ++ ascii " text:" ++ text))
  | _, .getPixel _ _ => (some ⟨255, 0, 0⟩, s)
  | _, .captureScreen _ => (some ⟨100, 100, ascii "fake_b64"⟩, s)
  | _, .pixelSearch _ _ _ => (some (50, 50), s)
  | _, .listProcesses => ([⟨1234, ascii "fake.exe", ascii "C:\\fake.exe"⟩], s)
  | _, .killProcess pid => (true, s.inject (ascii "kill_process:" ++ decimalInt pid))
  | _, .getFileInfo path => (some ⟨path, 1024, false, ascii "2026-02-19"⟩, s)
  | _, .readFileContent _ => (some (ascii "fake content"), s)
  | _, .findWindowsRegex _ _ => ([0x1234], s)
  | _, .regRead path =>
      (some ⟨path, [ascii "SubKey1"], [⟨ascii "TestValue", ascii "SZ", ascii "TestData"⟩]⟩, s)
  | _, .regWrite path val =>
      (true, s.inject (ascii "reg_write:" ++ path ++ ascii "\\" ++ val.name ++ ascii "=" ++
        val.data))
  | _, .regDelete path valueName =>
      (true, s.inject (ascii "reg_delete:" ++ path ++ ascii " val:" ++ valueName))
  | _, .clipboardRead => (some (ascii "fake clipboard"), s)
  | _, .clipboardWrite text => (true, s.inject (ascii "clipboard_write:" ++ text))
  | _, .serviceList => ([⟨ascii "FakeSvc", ascii "Fake Service", ascii "RUNNING"⟩], s)
  | _, .serviceStatus _ => (ascii "RUNNING", s)
  | _, .serviceControl name action =>
      (true, s.inject (ascii "service_control:" ++ name ++ ascii " " ++ action))
  | _, .envGetAll => ([⟨ascii "PATH", ascii "C:\\fake"⟩], s)
  | _, .envSet name value => (true, s.inject (ascii "env_set:" ++ name ++ ascii "=" ++ value))
  | _, .wineGetDrives => ([⟨ascii "C", ascii "C:\\", ascii "Fixed"⟩], s)
  | _, .wineGetOverrides => ([ascii "d3d11=native"], s)
  | _, .syncCheckMutex _ => (true, s)
  | _, .syncCreateMutex name _ => (true, s.inject (ascii "create_mutex:" ++ name))
  | _, .memRead _ address _ => (some ⟨address.toNat, ascii "ZmFrZSBtZW1vcnk="⟩, s)
  | _, .memWrite pid address _ =>
      (true, s.inject (ascii "mem_write:" ++ decimalInt pid ++ ascii "@" ++ decimalInt address))
  | _, .imageMatch _ _ => (some ⟨10, 10, Double.ofInt 1⟩, s)
  | _, .inputHookEnable enabled =>
      (true, s.inject (ascii "input_hook:" ++ ascii (if enabled then "on" else "off")))
  | _, .inspectUiElements parent => ((Assoc.find parent s.uiElements).getD [], s)
  | _, .invokeUiElement hwnd automationId =>
      (findAndInvoke automationId ((Assoc.find hwnd s.uiElements).getD []),
        s.inject (ascii "invoke_ui_element:" ++ automationId))
  | _, .getCapabilities => (capabilities, s)
  | _, .getEnvMetadata => (envMetadata, s)
  | _, .checkForUpdate =>
      ({ updateAvailable := false, currentVersion := ascii "v0.1.1", latestVersion := []
         releaseNotes := [], error := ascii "update check not available in fake backend"
         installerUrl := [], portableZipUrl := [] }, s)
  | _, .downloadUpdate _ _ => ([], s)
  | _, .pollEvents _ _ => ([], s)

/-- `FakeBackend` as a backend. -/
def fakeBackend : Backend FakeState where
  apply call s :=
    let done := answer s call
    (.ok done.1, done.2)

end WinInspect.Fake
