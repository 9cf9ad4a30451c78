import WinInspect.Json.Value

/-!
# Records of the core

The plain records of `types.hpp`, `update.hpp` and `logger.hpp` that the engine
reads.  Machine integers the engine only passes on are kept as integers; a window
handle is the 64-bit word it is.
-/

namespace WinInspect

/-- `hwnd_u64`. -/
abbrev HwndU64 := UInt64

instance instLinearOrderUInt64 : LinearOrder UInt64 where
  le_refl a := Nat.le_refl a.toNat
  le_trans a b c := Nat.le_trans (n := a.toNat) (m := b.toNat) (k := c.toNat)
  lt_iff_le_not_ge a b := by
    rw [UInt64.lt_iff_toNat_lt, UInt64.le_iff_toNat_le, UInt64.le_iff_toNat_le]
    omega
  le_antisymm a b := by
    rw [UInt64.le_iff_toNat_le, UInt64.le_iff_toNat_le, ← UInt64.toNat_inj]
    omega
  le_total a b := Nat.le_total a.toNat b.toNat
  toDecidableLE := inferInstance
  toDecidableLT := inferInstance
  toDecidableEq := inferInstance

structure Rect where
  left : Int
  top : Int
  right : Int
  bottom : Int
  deriving DecidableEq

structure Color where
  r : UInt8
  g : UInt8
  b : UInt8
  deriving DecidableEq

structure ScreenCapture where
  width : Int
  height : Int
  dataB64 : Bytes
  deriving DecidableEq

structure ProcessInfo where
  pid : Int
  name : Bytes
  path : Bytes
  deriving DecidableEq

structure FileInfo where
  path : Bytes
  size : Nat
  isDirectory : Bool
  lastModified : Bytes
  deriving DecidableEq

structure RegistryValue where
  name : Bytes
  type : Bytes
  data : Bytes
  deriving DecidableEq

structure RegistryKeyInfo where
  path : Bytes
  subkeys : List Bytes
  values : List RegistryValue
  deriving DecidableEq

structure ServiceInfo where
  name : Bytes
  displayName : Bytes
  state : Bytes
  deriving DecidableEq

structure DriveInfo where
  letter : Bytes
  mapping : Bytes
  type : Bytes
  deriving DecidableEq

structure EnvVar where
  name : Bytes
  value : Bytes
  deriving DecidableEq

structure MemoryRegion where
  address : Nat
  dataB64 : Bytes
  deriving DecidableEq

structure ImageMatchResult where
  x : Int
  y : Int
  confidence : Double
  deriving DecidableEq

structure WindowInfo where
  hwnd : HwndU64
  parent : HwndU64
  owner : HwndU64
  className : Bytes
  title : Bytes
  windowRect : Rect
  clientRect : Rect
  screenRect : Rect
  pid : Nat
  tid : Nat
  style : UInt64
  exstyle : UInt64
  styleFlags : List Bytes
  exStyleFlags : List Bytes
  visible : Bool
  enabled : Bool
  iconic : Bool
  zoomed : Bool
  processImage : Bytes
  deriving DecidableEq

/-- A window and the windows below it. -/
inductive WindowNode where
  | node (hwnd : HwndU64) (title className : Bytes) (children : List WindowNode)

structure PickFlags where
  preferChild : Bool := true
  ignoreTransparent : Bool := true
  deriving DecidableEq

/-- The ordered list of top-level windows. -/
structure Snapshot where
  top : List HwndU64 := []
  deriving DecidableEq

structure Event where
  seq : Nat := 0
  type : Bytes
  hwnd : HwndU64
  property : Bytes := []
  deriving DecidableEq

/-- A UI automation element and the elements below it. -/
inductive UIElementInfo where
  | element (automationId name className controlType : Bytes) (boundingRect : Rect)
      (enabled visible : Bool) (children : List UIElementInfo)

structure Capabilities where
  os : Bytes
  isWine : Bool
  arch : Bytes
  winMajor : Int
  winMinor : Int
  winBuild : Int
  uiaAvailable : Bool
  clipboardAvailable : Bool
  registryWritable : Bool
  serviceManager : Bool
  processMemory : Bool
  inputInjection : Bool
  windowHighlight : Bool
  wineVersion : Bytes
  deriving DecidableEq

/-- `update::UpdateInfo`. -/
structure UpdateInfo where
  updateAvailable : Bool
  currentVersion : Bytes
  latestVersion : Bytes
  releaseNotes : Bytes
  error : Bytes
  installerUrl : Bytes
  portableZipUrl : Bytes
  deriving DecidableEq

/-- `LogLevel`, numbered from 0. -/
inductive LogLevel where
  | trace
  | debug
  | info
  | warn
  | err
  deriving DecidableEq

/-- `static_cast<int>(level)`. -/
def LogLevel.toInt : LogLevel → Int
  | trace => 0
  | debug => 1
  | info => 2
  | warn => 3
  | err => 4

structure LogMessage where
  level : LogLevel
  timestamp : Bytes
  message : Bytes
  deriving DecidableEq

end WinInspect
