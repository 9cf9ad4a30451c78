import WinInspect.Core.Backend
import WinInspect.Core.Base64
import WinInspect.Core.Protocol
import WinInspect.Core.Render

/-!
# The dispatch table

The handlers of `CoreEngine::build_dispatch_table`.  Every one of them first reads
and checks its parameters, then makes at most one backend call, and then builds its
response; `Handler` has a field for each part.  A handler's response starts from a
fresh `CoreResponse`, whose `id` is empty.

Numbers reach the backend truncated towards zero, as the C++ conversions do for the
values in range.
-/

namespace WinInspect

open Json (Value Object)
open Effect (Program)

/-- What a handler reads besides the request and the backend. -/
structure Surroundings where
  /-- `admin_logs_enabled_`. -/
  adminLogsEnabled : Bool
  /-- `Logger::get().get_recent_logs()`. -/
  recentLogs : List LogMessage
  /-- The milliseconds between the two clock readings of `events.poll`. -/
  pollElapsed : Int

/-- A handler in its three parts. -/
structure Handler where
  Args : Type
  Answer : Type
  /-- The checked parameters; an error is the `what()` of the exception. -/
  args : CoreRequest → Option Snapshot → Except Bytes Args
  /-- The backend call. -/
  query : Snapshot → Args → Action Answer
  /-- The response to the backend's answer. -/
  respond : Surroundings → CoreRequest → Args → Answer → Except Bytes CoreResponse

/-- A handler, run on a request. -/
def Handler.program (h : Handler) (env : Surroundings) (req : CoreRequest) (snap : Snapshot)
    (old : Option Snapshot) : Action CoreResponse :=
  (Program.ofExcept (h.args req old)).bind fun args =>
    (h.query snap args).bind fun answer => Program.ofExcept (h.respond env req args answer)

/-! ## Parameters -/

/-- `parse_hwnd` of a parameter, with its exception. -/
def needHwnd (s : Bytes) : Except Bytes HwndU64 :=
  need (parseHwnd s) "bad hwnd"

/-- The parameter list that is only a window handle. -/
def hwndArg (req : CoreRequest) (_ : Option Snapshot) : Except Bytes HwndU64 := do
  needHwnd (← need (getStr req.params "hwnd") "missing hwnd")

/-- The parameter list that is only a string. -/
def strArg (key what : String) (req : CoreRequest) (_ : Option Snapshot) : Except Bytes Bytes :=
  need (getStr req.params key) what

/-- The parameter list of a handler that reads none. -/
def noArgs (_ : CoreRequest) (_ : Option Snapshot) : Except Bytes Unit :=
  .ok ()

/-- `(int)*x`. -/
def getInt (o : Object) (key : String) : Option Int :=
  (getNum o key).map Double.trunc

/-- `(int)get_num(..., key).value_or(0)`. -/
def getIntOr0 (o : Object) (key : String) : Int :=
  (getInt o key).getD 0

/-- The four sides of a region. -/
def getRect (o : Object) : Option Rect := do
  return ⟨← getInt o "left", ← getInt o "top", ← getInt o "right", ← getInt o "bottom"⟩

/-- `(uint8_t)*x`. -/
def getByte (o : Object) (key : String) : Option UInt8 :=
  (getInt o key).map fun n => UInt8.ofNat n.toNat

/-! ## Responses -/

/-- `resp.ok = true; resp.result = result; return resp;`. -/
def okWith (result : Value) : Except Bytes CoreResponse :=
  .ok { ok := true, result := result }

/-- `resp.ok = false` with an error code and message. -/
def failWith (code message : String) : Except Bytes CoreResponse :=
  .ok { ok := false, errorCode := ascii code, errorMessage := ascii message }

/-! ## Snapshot and events -/

/-- `events[i].seq = i + 1`. -/
def renumber (events : List Event) : List Event :=
  events.mapIdx fun i e => { e with seq := i + 1 }

/-- The handler of `events.poll`, the only one that fills the response's `id`. -/
def eventsPoll : Handler where
  Args := Snapshot × Option Double
  Answer := List Event
  args req old := do
    let old ← need old "events.poll requires two snapshots"
    return (old, getNum req.params "wait_ms")
  query snap args := Program.perform (.pollEvents args.1 snap)
  respond env req args events :=
    let waitMs := args.2.getD (Double.zero false)
    if !events.isEmpty || waitMs.isZero || decide (waitMs.trunc ≤ env.pollElapsed) then
      .ok { id := req.id, ok := true, result := .arr ((renumber events).map eventToJson) }
    else .ok { id := req.id, ok := true, result := .arr [] }

def sessionTerminate : Handler where
  Args := Unit
  Answer := Unit
  args := noArgs
  query _ _ := pure ()
  respond _ _ _ _ := okWith (object [("terminated", .bool true)])

/-! ## Windows -/

def windowListTop : Handler where
  Args := Unit
  Answer := List HwndU64
  args := noArgs
  query snap _ := Program.perform (.listTop snap)
  respond _ _ _ top := okWith (.arr (top.map hwndEntry))

def windowListChildren : Handler where
  Args := HwndU64
  Answer := List HwndU64
  args := hwndArg
  query snap hwnd := Program.perform (.listChildren snap hwnd)
  respond _ _ _ ch := okWith (.arr (ch.map hwndEntry))

/-- An absent handle is the root 0. -/
def windowGetTree : Handler where
  Args := HwndU64
  Answer := List WindowNode
  args req _ :=
    match getStr req.params "hwnd" with
    | some hwndS => needHwnd hwndS
    | none => .ok 0
  query snap root := Program.perform (.getWindowTree snap root)
  respond _ _ _ nodes := okWith (.arr (windowNodesToJson nodes))

def windowHighlight : Handler where
  Args := HwndU64
  Answer := Bool
  args := hwndArg
  query _ hwnd := Program.perform (.highlightWindow hwnd)
  respond _ _ _ done := okWith (object [("highlighted", .bool done)])

def windowGetInfo : Handler where
  Args := HwndU64
  Answer := Option WindowInfo
  args := hwndArg
  query snap hwnd := Program.perform (.getInfo snap hwnd)
  respond _ _ _
    | none => failWith "E_BAD_HWND" "not a valid window handle"
    | some info => okWith (windowInfoToJson info)

/-- `x` and `y`, truncated. -/
def pointArg (req : CoreRequest) : Except Bytes (Int × Int) :=
  need (do return (← getInt req.params "x", ← getInt req.params "y")) "missing x/y"

def windowPickAtPoint : Handler where
  Args := (Int × Int) × PickFlags
  Answer := Option HwndU64
  args req _ := do
    let point ← pointArg req
    return (point,
      { preferChild := (getBool req.params "prefer_child").getD true
        ignoreTransparent := (getBool req.params "ignore_transparent").getD true })
  query snap args := Program.perform (.pickAtPoint snap args.1.1 args.1.2 args.2)
  respond _ _ _
    | none => failWith "E_NOT_FOUND" "no window at point"
    | some h => okWith (hwndEntry h)

/-! ## Desired-state actions -/

def windowEnsureVisible : Handler where
  Args := HwndU64 × Bool
  Answer := Bool
  args req _ := do
    let (hwndS, vis) ←
      need (do return (← getStr req.params "hwnd", ← getBool req.params "visible"))
        "missing hwnd/visible"
    return (← needHwnd hwndS, vis)
  query _ args := Program.perform (.ensureVisible args.1 args.2)
  respond _ _ _ changed := okWith (changedJson changed)

def windowEnsureForeground : Handler where
  Args := HwndU64
  Answer := Bool
  args := hwndArg
  query _ hwnd := Program.perform (.ensureForeground hwnd)
  respond _ _ _ changed := okWith (changedJson changed)

def windowSetProperty : Handler where
  Args := HwndU64 × Bytes × Bytes
  Answer := Bool
  args req _ := do
    let (hwndS, name, val) ←
      need (do
        return (← getStr req.params "hwnd", ← getStr req.params "name",
          ← getStr req.params "value"))
        "missing hwnd/name/value"
    return (← needHwnd hwndS, name, val)
  query _ args := Program.perform (.setProperty args.1 args.2.1 args.2.2)
  respond _ _ _ done := okWith (okJson done)

def windowPostMessage : Handler where
  Args := HwndU64 × Int × Int × Int
  Answer := Bool
  args req _ := do
    let (hwndS, msg) ←
      need (do return (← getStr req.params "hwnd", ← getInt req.params "msg"))
        "missing hwnd/msg"
    let hwnd ← needHwnd hwndS
    return (hwnd, msg, getIntOr0 req.params "wparam", getIntOr0 req.params "lparam")
  query _ args := Program.perform (.postMessage args.1 args.2.1 args.2.2.1 args.2.2.2)
  respond _ _ _ sent := okWith (sentJson sent)

/-! ## Input -/

def inputSend : Handler where
  Args := Bytes
  Answer := Bool
  args := strArg "data_b64" "missing data_b64"
  query _ dataB64 := Program.perform (.sendInput (Base64.decode dataB64))
  respond _ _ _ sent := okWith (sentJson sent)

def inputMouseClick : Handler where
  Args := (Int × Int) × Int
  Answer := Bool
  args req _ := do
    let point ← pointArg req
    return (point, getIntOr0 req.params "button")
  query _ args := Program.perform (.sendMouseClick args.1.1 args.1.2 args.2)
  respond _ _ _ sent := okWith (sentJson sent)

def inputKeyPress : Handler where
  Args := Int
  Answer := Bool
  args req _ := need (getInt req.params "vk") "missing vk"
  query _ vk := Program.perform (.sendKeyPress vk)
  respond _ _ _ sent := okWith (sentJson sent)

def inputText : Handler where
  Args := Bytes
  Answer := Bool
  args := strArg "text" "missing text"
  query _ text := Program.perform (.sendText text)
  respond _ _ _ sent := okWith (sentJson sent)

def windowControlClick : Handler where
  Args := HwndU64 × Int × Int × Int
  Answer := Bool
  args req _ := do
    let (hwndS, x, y) ←
      need (do
        return (← getStr req.params "hwnd", ← getInt req.params "x", ← getInt req.params "y"))
        "missing hwnd/x/y"
    return (← needHwnd hwndS, x, y, getIntOr0 req.params "button")
  query _ args := Program.perform (.controlClick args.1 args.2.1 args.2.2.1 args.2.2.2)
  respond _ _ _ sent := okWith (sentJson sent)

def windowControlSend : Handler where
  Args := HwndU64 × Bytes
  Answer := Bool
  args req _ := do
    let (hwndS, text) ←
      need (do return (← getStr req.params "hwnd", ← getStr req.params "text"))
        "missing hwnd/text"
    return (← needHwnd hwndS, text)
  query _ args := Program.perform (.controlSend args.1 args.2)
  respond _ _ _ sent := okWith (sentJson sent)

/-! ## Screen -/

/-- A missing pixel is an exception here, unlike in `screen.pixelSearch`. -/
def screenGetPixel : Handler where
  Args := Int × Int
  Answer := Option Color
  args req _ := pointArg req
  query _ point := Program.perform (.getPixel point.1 point.2)
  respond _ _ _
    | none => .error (ascii "failed to get pixel")
    | some c =>
        okWith (object [("hex", .str c.toHex), ("r", number c.r.toNat), ("g", number c.g.toNat),
          ("b", number c.b.toNat)])

def screenCapture : Handler where
  Args := Rect
  Answer := Option ScreenCapture
  args req _ := need (getRect req.params) "missing region"
  query _ rect := Program.perform (.captureScreen rect)
  respond _ _ _
    | none => .error (ascii "capture failed")
    | some sc =>
        okWith (object [("width", number sc.width), ("height", number sc.height),
          ("data_b64", .str sc.dataB64)])

def screenPixelSearch : Handler where
  Args := Rect × Color × Int
  Answer := Option (Int × Int)
  args req _ := do
    let (rect, target) ←
      need (do
        return (← getRect req.params,
          Color.mk (← getByte req.params "r") (← getByte req.params "g")
            (← getByte req.params "b")))
        "missing parameters"
    return (rect, target, getIntOr0 req.params "variation")
  query _ args := Program.perform (.pixelSearch args.1 args.2.1 args.2.2)
  respond _ _ _
    | some (x, y) => okWith (object [("x", number x), ("y", number y)])
    | none => failWith "E_NOT_FOUND" "color not found in region"

/-! ## Processes and files -/

def processList : Handler where
  Args := Unit
  Answer := List ProcessInfo
  args := noArgs
  query _ _ := Program.perform .listProcesses
  respond _ _ _ procs :=
    okWith (.arr (procs.map fun p =>
      object [("pid", number p.pid), ("name", .str p.name), ("path", .str p.path)]))

def processKill : Handler where
  Args := Int
  Answer := Bool
  args req _ := need (getInt req.params "pid") "missing pid"
  query _ pid := Program.perform (.killProcess pid)
  respond _ _ _ done := okWith (okJson done)

def fileGetInfo : Handler where
  Args := Bytes
  Answer := Option FileInfo
  args := strArg "path" "missing path"
  query _ path := Program.perform (.getFileInfo path)
  respond _ _ _
    | none => failWith "E_NOT_FOUND" ""
    | some fi =>
        okWith (object [("path", .str fi.path), ("size", number fi.size),
          ("is_directory", .bool fi.isDirectory)])

def fileRead : Handler where
  Args := Bytes
  Answer := Option Bytes
  args := strArg "path" "missing path"
  query _ path := Program.perform (.readFileContent path)
  respond _ _ _
    | none => failWith "E_READ_FAILED" ""
    | some content => okWith (object [("content_b64", .str (Base64.encode content))])

/-! ## Clipboard and services -/

def clipboardRead : Handler where
  Args := Unit
  Answer := Option Bytes
  args := noArgs
  query _ _ := Program.perform .clipboardRead
  respond _ _ _
    | none => okWith (object [])
    | some text => okWith (object [("text", .str text)])

def clipboardWrite : Handler where
  Args := Bytes
  Answer := Bool
  args := strArg "text" "missing text"
  query _ text := Program.perform (.clipboardWrite text)
  respond _ _ _ done := okWith (okJson done)

def serviceList : Handler where
  Args := Unit
  Answer := List ServiceInfo
  args := noArgs
  query _ _ := Program.perform .serviceList
  respond _ _ _ svcs :=
    okWith (.arr (svcs.map fun s =>
      object [("name", .str s.name), ("display_name", .str s.displayName),
        ("state", .str s.state)]))

def serviceStatus : Handler where
  Args := Bytes
  Answer := Bytes
  args := strArg "name" "missing name"
  query _ name := Program.perform (.serviceStatus name)
  respond _ _ _ status := okWith (object [("status", .str status)])

/-- Two string parameters. -/
def strArgs2 (first second what : String) (req : CoreRequest) (_ : Option Snapshot) :
    Except Bytes (Bytes × Bytes) :=
  need (do return (← getStr req.params first, ← getStr req.params second)) what

def serviceControl : Handler where
  Args := Bytes × Bytes
  Answer := Bool
  args := strArgs2 "name" "action" "missing name/action"
  query _ args := Program.perform (.serviceControl args.1 args.2)
  respond _ _ _ done := okWith (okJson done)

/-! ## Environment and Wine -/

def envGet : Handler where
  Args := Unit
  Answer := List EnvVar
  args := noArgs
  query _ _ := Program.perform .envGetAll
  respond _ _ _ vars := okWith (envToJson vars)

def envSet : Handler where
  Args := Bytes × Bytes
  Answer := Bool
  args := strArgs2 "name" "value" "missing name/value"
  query _ args := Program.perform (.envSet args.1 args.2)
  respond _ _ _ done := okWith (okJson done)

def wineDrives : Handler where
  Args := Unit
  Answer := List DriveInfo
  args := noArgs
  query _ _ := Program.perform .wineGetDrives
  respond _ _ _ drives :=
    okWith (.arr (drives.map fun d =>
      object [("letter", .str d.letter), ("mapping", .str d.mapping), ("type", .str d.type)]))

def wineOverrides : Handler where
  Args := Unit
  Answer := List Bytes
  args := noArgs
  query _ _ := Program.perform .wineGetOverrides
  respond _ _ _ ovr := okWith (.arr (ovr.map .str))

/-! ## Synchronisation, memory, images and hooks -/

def syncCheckMutex : Handler where
  Args := Bytes
  Answer := Bool
  args := strArg "name" "missing name"
  query _ name := Program.perform (.syncCheckMutex name)
  respond _ _ _ found := okWith (object [("exists", .bool found)])

def syncCreateMutex : Handler where
  Args := Bytes × Bool
  Answer := Bool
  args req old := do
    let name ← strArg "name" "missing name" req old
    return (name, (getBool req.params "own").getD true)
  query _ args := Program.perform (.syncCreateMutex args.1 args.2)
  respond _ _ _ created := okWith (object [("created", .bool created)])

def memRead : Handler where
  Args := Int × Int × Int
  Answer := Option MemoryRegion
  args req _ :=
    need (do
      return (← getInt req.params "pid", ← getInt req.params "address",
        ← getInt req.params "size"))
      "missing parameters"
  query _ args := Program.perform (.memRead args.1 args.2.1 args.2.2)
  respond _ _ _
    | none => failWith "" ""
    | some res =>
        okWith (object [("address", number res.address), ("data_b64", .str res.dataB64)])

def memWrite : Handler where
  Args := Int × Int × Bytes
  Answer := Bool
  args req _ :=
    need (do
      return (← getInt req.params "pid", ← getInt req.params "address",
        ← getStr req.params "data_b64"))
      "missing parameters"
  query _ args := Program.perform (.memWrite args.1 args.2.1 (Base64.decode args.2.2))
  respond _ _ _ done := okWith (okJson done)

def imageMatch : Handler where
  Args := Rect × Bytes
  Answer := Option ImageMatchResult
  args req _ :=
    need (do return (← getRect req.params, ← getStr req.params "sub_image_b64"))
      "missing parameters"
  query _ args := Program.perform (.imageMatch args.1 (Base64.decode args.2))
  respond _ _ _
    | none => failWith "" ""
    | some res =>
        okWith (object [("x", number res.x), ("y", number res.y),
          ("confidence", .num res.confidence)])

def inputHook : Handler where
  Args := Bool
  Answer := Bool
  args req _ := need (getBool req.params "enabled") "missing enabled"
  query _ enabled := Program.perform (.inputHookEnable enabled)
  respond _ _ _ done := okWith (okJson done)

def windowFindRegex : Handler where
  Args := Bytes × Bytes
  Answer := List HwndU64
  args req _ :=
    .ok ((getStr req.params "title_regex").getD (ascii ".*"),
      (getStr req.params "class_regex").getD (ascii ".*"))
  query _ args := Program.perform (.findWindowsRegex args.1 args.2)
  respond _ _ _ hwnds := okWith (.arr (hwnds.map hwndEntry))

/-! ## Registry -/

def regRead : Handler where
  Args := Bytes
  Answer := Option RegistryKeyInfo
  args := strArg "path" "missing path"
  query _ path := Program.perform (.regRead path)
  respond _ _ _
    | none => failWith "E_NOT_FOUND" ""
    | some res => okWith (registryKeyToJson res)

def regWrite : Handler where
  Args := Bytes × RegistryValue
  Answer := Bool
  args req _ :=
    need (do
      return (← getStr req.params "path",
        RegistryValue.mk (← getStr req.params "name") (← getStr req.params "type")
          (← getStr req.params "data")))
      "missing parameters"
  query _ args := Program.perform (.regWrite args.1 args.2)
  respond _ _ _ done := okWith (okJson done)

def regDelete : Handler where
  Args := Bytes × Bytes
  Answer := Bool
  args req old := do
    let path ← strArg "path" "missing path" req old
    return (path, (getStr req.params "name").getD [])
  query _ args := Program.perform (.regDelete args.1 args.2)
  respond _ _ _ done := okWith (okJson done)

/-! ## UI automation -/

def uiInspect : Handler where
  Args := HwndU64
  Answer := List UIElementInfo
  args := hwndArg
  query _ hwnd := Program.perform (.inspectUiElements hwnd)
  respond _ _ _ elements := okWith (.arr (uiElementsToJson elements))

def uiInvoke : Handler where
  Args := HwndU64 × Bytes
  Answer := Bool
  args req _ := do
    let (hwndS, aid) ←
      need (do return (← getStr req.params "hwnd", ← getStr req.params "automation_id"))
        "missing hwnd/automation_id"
    return (← needHwnd hwndS, aid)
  query _ args := Program.perform (.invokeUiElement args.1 args.2)
  respond _ _ _ invoked := okWith (object [("invoked", .bool invoked)])

/-! ## Daemon -/

def daemonHealth : Handler where
  Args := Unit
  Answer := Object
  args := noArgs
  query _ _ := Program.perform .getEnvMetadata
  respond _ _ _ metadata := okWith (.obj metadata)

def daemonCapabilities : Handler where
  Args := Unit
  Answer := Capabilities
  args := noArgs
  query _ _ := Program.perform .getCapabilities
  respond _ _ _ caps := okWith (capabilitiesToJson caps)

def daemonCheckUpdate : Handler where
  Args := Unit
  Answer := UpdateInfo
  args := noArgs
  query _ _ := Program.perform .checkForUpdate
  respond _ _ _ info := okWith (updateInfoToJson info)

/-- A failed download keeps its result object, although `ok` is false. -/
def daemonDownloadUpdate : Handler where
  Args := Bytes × Bytes
  Answer := Bytes
  args req _ :=
    .ok ((getStr req.params "url").getD [], (getStr req.params "type").getD (ascii "installer"))
  query _ args := Program.perform (.downloadUpdate args.1 args.2)
  respond _ _ _ path :=
    if path.isEmpty then
      .ok { ok := false
            result := object [("ok", .bool false), ("error", .str (ascii "download failed"))] }
    else okWith (object [("ok", .bool true), ("path", .str path)])

def daemonLogs : Handler where
  Args := Unit
  Answer := Unit
  args := noArgs
  query _ _ := pure ()
  respond env _ _ _ :=
    if env.adminLogsEnabled then okWith (.arr (env.recentLogs.map logToJson))
    else failWith "E_ACCESS_DENIED" "admin logs not enabled (use --admin-logs)"

/-! ## The table -/

/-- `dispatch_`. -/
def dispatchTable : List (String × Handler) :=
  [("events.poll", eventsPoll), ("session.terminate", sessionTerminate),
    ("window.listTop", windowListTop), ("window.listChildren", windowListChildren),
    ("window.getTree", windowGetTree), ("window.highlight", windowHighlight),
    ("window.getInfo", windowGetInfo), ("window.pickAtPoint", windowPickAtPoint),
    ("window.ensureVisible", windowEnsureVisible),
    ("window.ensureForeground", windowEnsureForeground),
    ("window.setProperty", windowSetProperty), ("window.postMessage", windowPostMessage),
    ("input.send", inputSend), ("input.mouseClick", inputMouseClick),
    ("input.keyPress", inputKeyPress), ("input.text", inputText),
    ("window.controlClick", windowControlClick), ("window.controlSend", windowControlSend),
    ("screen.getPixel", screenGetPixel), ("screen.capture", screenCapture),
    ("screen.pixelSearch", screenPixelSearch), ("process.list", processList),
    ("process.kill", processKill), ("file.getInfo", fileGetInfo), ("file.read", fileRead),
    ("clipboard.read", clipboardRead), ("clipboard.write", clipboardWrite),
    ("service.list", serviceList), ("service.status", serviceStatus),
    ("service.control", serviceControl), ("env.get", envGet), ("env.set", envSet),
    ("wine.drives", wineDrives), ("wine.overrides", wineOverrides),
    ("sync.checkMutex", syncCheckMutex), ("sync.createMutex", syncCreateMutex),
    ("mem.read", memRead), ("mem.write", memWrite), ("image.match", imageMatch),
    ("input.hook", inputHook), ("window.findRegex", windowFindRegex), ("reg.read", regRead),
    ("reg.write", regWrite), ("reg.delete", regDelete), ("ui.inspect", uiInspect),
    ("ui.invoke", uiInvoke), ("daemon.health", daemonHealth),
    ("daemon.capabilities", daemonCapabilities), ("daemon.checkUpdate", daemonCheckUpdate),
    ("daemon.downloadUpdate", daemonDownloadUpdate), ("daemon.logs", daemonLogs)]

/-- `dispatch_.find(method)`. -/
def dispatch (method : Bytes) : Option Handler :=
  (dispatchTable.find? fun entry => ascii entry.1 = method).map Prod.snd

end WinInspect
