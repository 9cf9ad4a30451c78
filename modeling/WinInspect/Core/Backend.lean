import WinInspect.Core.Types
import WinInspect.Effect.Program

/-!
# The backend interface

`Call` has one constructor per virtual method of `IBackend` that the engine or the
daemon calls; the index is the type of its answer.  A backend is an interpretation
of the calls on a state of its own; an error is the `what()` of the exception it
throws.  `set_config` runs before the first request and `reg_subscribe` is never
called, so neither is a call here.
-/

namespace WinInspect

/-- The operations of `IBackend`. -/
inductive Call : Type → Type
  | captureSnapshot : Call Snapshot
  | listTop (s : Snapshot) : Call (List HwndU64)
  | listChildren (s : Snapshot) (parent : HwndU64) : Call (List HwndU64)
  | getInfo (s : Snapshot) (hwnd : HwndU64) : Call (Option WindowInfo)
  | pickAtPoint (s : Snapshot) (x y : Int) (flags : PickFlags) : Call (Option HwndU64)
  | getWindowTree (s : Snapshot) (root : HwndU64) : Call (List WindowNode)
  | ensureVisible (hwnd : HwndU64) (visible : Bool) : Call Bool
  | ensureForeground (hwnd : HwndU64) : Call Bool
  | highlightWindow (hwnd : HwndU64) : Call Bool
  | setProperty (hwnd : HwndU64) (name value : Bytes) : Call Bool
  | postMessage (hwnd : HwndU64) (msg wparam lparam : Int) : Call Bool
  | sendInput (rawInputData : Bytes) : Call Bool
  | sendMouseClick (x y button : Int) : Call Bool
  | sendKeyPress (vk : Int) : Call Bool
  | sendText (text : Bytes) : Call Bool
  | controlClick (hwnd : HwndU64) (x y button : Int) : Call Bool
  | controlSend (hwnd : HwndU64) (text : Bytes) : Call Bool
  | getPixel (x y : Int) : Call (Option Color)
  | captureScreen (region : Rect) : Call (Option ScreenCapture)
  | pixelSearch (region : Rect) (target : Color) (variation : Int) : Call (Option (Int × Int))
  | listProcesses : Call (List ProcessInfo)
  | killProcess (pid : Int) : Call Bool
  | getFileInfo (path : Bytes) : Call (Option FileInfo)
  | readFileContent (path : Bytes) : Call (Option Bytes)
  | findWindowsRegex (titleRegex classRegex : Bytes) : Call (List HwndU64)
  | regRead (path : Bytes) : Call (Option RegistryKeyInfo)
  | regWrite (path : Bytes) (val : RegistryValue) : Call Bool
  | regDelete (path valueName : Bytes) : Call Bool
  | clipboardRead : Call (Option Bytes)
  | clipboardWrite (text : Bytes) : Call Bool
  | serviceList : Call (List ServiceInfo)
  | serviceStatus (name : Bytes) : Call Bytes
  | serviceControl (name action : Bytes) : Call Bool
  | envGetAll : Call (List EnvVar)
  | envSet (name value : Bytes) : Call Bool
  | wineGetDrives : Call (List DriveInfo)
  | wineGetOverrides : Call (List Bytes)
  | syncCheckMutex (name : Bytes) : Call Bool
  | syncCreateMutex (name : Bytes) (own : Bool) : Call Bool
  | memRead (pid address size : Int) : Call (Option MemoryRegion)
  | memWrite (pid address : Int) (data : Bytes) : Call Bool
  | imageMatch (region : Rect) (subImageBmp : Bytes) : Call (Option ImageMatchResult)
  | inputHookEnable (enabled : Bool) : Call Bool
  | inspectUiElements (parent : HwndU64) : Call (List UIElementInfo)
  | invokeUiElement (hwnd : HwndU64) (automationId : Bytes) : Call Bool
  | getCapabilities : Call Capabilities
  | getEnvMetadata : Call Json.Object
  | checkForUpdate : Call UpdateInfo
  | downloadUpdate (url typeHint : Bytes) : Call Bytes
  | pollEvents (oldSnap newSnap : Snapshot) : Call (List Event)

/-- Code that calls the backend; an exception carries its `what()`. -/
abbrev Action := Effect.Program Call Bytes

/-- An implementation of `IBackend` with state `σ`. -/
abbrev Backend (σ : Type) := Effect.Interp Call Bytes σ

end WinInspect
