import WinInspect.Core.Protocol

/-!
# The commands of the clients

The requests that the command-line client and the portable client build from their arguments.
The command-line client converts numbers and reads options with loops of its own; the portable
client sends every argument as a string.
-/

namespace WinInspect.Clients

open Json (Value Object)

/-- What a client does with its arguments. -/
inductive Outcome where
  | usage
  /-- It ends with an exception or an error of its own. -/
  | fails (what : Bytes)
  /-- It does its work without a request. -/
  | done
  /-- It sends a text that is not JSON, since `std::to_string` wrote `inf` or `nan` into it. -/
  | garbled
  /-- It sends a request and prints the response. -/
  | sends (req : CoreRequest)
  /-- It sends a request, and then another one every second. -/
  | watches (first again : CoreRequest)
  deriving DecidableEq

def Outcome.requests : Outcome → List CoreRequest
  | .sends req => [req]
  | .watches first again => [first, again]
  | _ => []

/-! ## The command-line client -/

/-- `make_req`: the text of a request. -/
def makeReq (req : CoreRequest) : Bytes :=
  Json.dumps (.obj (Object.ofFields
    [("id", .str req.id), ("method", .str req.method), ("params", .obj req.params)]))

/-- The conversions of the C++ library; an error is the `what()` of the exception.  A double that
is not finite is `none`. -/
structure Conversions where
  stod : Bytes → Except Bytes (Option Double)
  stoull : Bytes → Except Bytes UInt64
  stoi : Bytes → Except Bytes Int

/-- The `params` of the client while it fills them. -/
abbrev Draft := List (Bytes × Option Value)

namespace Draft

/-- `params[key] = value`. -/
def set (draft : Draft) (key : String) (value : Option Value) : Draft :=
  Assoc.assign (ascii key) value draft

def setText (draft : Draft) (key : String) (text : Bytes) : Draft :=
  draft.set key (some (.str text))

/-- The parameters as JSON. -/
def object? : Draft → Option Object
  | [] => some []
  | (_, none) :: _ => none
  | (key, some value) :: rest => (object? rest).map ((key, value) :: ·)

/-- The sending of what `make_req` builds. -/
def send (id method : String) (draft : Draft) : Outcome :=
  match draft.object? with
  | none => .garbled
  | some params => .sends { id := ascii id, method := ascii method, params := params }

end Draft

/-- How a command reads an argument. -/
inductive Kind where
  /-- `args[i]`. -/
  | text
  /-- `std::stod(args[i])`. -/
  | number
  /-- `(double)std::stoull(args[i], nullptr, 0)`. -/
  | address
  /-- `args[i] == "true"`. -/
  | flag
  deriving DecidableEq

def Kind.read (lib : Conversions) : Kind → Bytes → Except Bytes (Option Value)
  | .text, arg => .ok (some (.str arg))
  | .number, arg => (lib.stod arg).map fun d => d.map .num
  | .address, arg => (lib.stoull arg).map fun n => some (.num (Double.ofNat false n.toNat))
  | .flag, arg => .ok (some (.bool (arg == ascii "true")))

/-- A command: its method, the parameters its arguments fill in this order, how many of them
there must be, and whether `--snapshot` is looked for behind them. -/
structure Command where
  method : String
  fields : List (String × Kind) := []
  needed : Nat := fields.length
  snapshot : Bool := false

/-- The branches of `main` that are of this form, in its order.  The second `capture` is never
reached. -/
def commands : List (String × Command) :=
  [("capture", { method := "snapshot.capture" }),
    ("top", { method := "window.listTop", snapshot := true }),
    ("info", { method := "window.getInfo", fields := [("hwnd", .text)], snapshot := true }),
    ("children",
      { method := "window.listChildren", fields := [("hwnd", .text)], snapshot := true }),
    ("highlight", { method := "window.highlight", fields := [("hwnd", .text)] }),
    ("pick", { method := "window.pickAtPoint", fields := [("x", .number), ("y", .number)],
               snapshot := true }),
    ("set-prop", { method := "window.setProperty",
                   fields := [("hwnd", .text), ("name", .text), ("value", .text)] }),
    ("control-click",
      { method := "window.controlClick", needed := 3,
        fields := [("hwnd", .text), ("x", .number), ("y", .number), ("button", .number)] }),
    ("control-send",
      { method := "window.controlSend", fields := [("hwnd", .text), ("text", .text)] }),
    ("get-pixel", { method := "screen.getPixel", fields := [("x", .number), ("y", .number)] }),
    ("pixel-search",
      { method := "screen.pixelSearch", needed := 7,
        fields := [("left", .number), ("top", .number), ("right", .number), ("bottom", .number),
          ("r", .number), ("g", .number), ("b", .number), ("variation", .number)] }),
    ("capture",
      { method := "screen.capture",
        fields := [("left", .number), ("top", .number), ("right", .number),
          ("bottom", .number)] }),
    ("ps", { method := "process.list" }),
    ("kill", { method := "process.kill", fields := [("pid", .number)] }),
    ("file-info", { method := "file.getInfo", fields := [("path", .text)] }),
    ("file-read", { method := "file.read", fields := [("path", .text)] }),
    ("find-regex", { method := "window.findRegex", needed := 0,
                     fields := [("title_regex", .text), ("class_regex", .text)] }),
    ("reg-read", { method := "reg.read", fields := [("path", .text)] }),
    ("reg-write", { method := "reg.write",
                    fields := [("path", .text), ("name", .text), ("type", .text),
                      ("data", .text)] }),
    ("reg-delete",
      { method := "reg.delete", needed := 1, fields := [("path", .text), ("name", .text)] }),
    ("clip-read", { method := "clipboard.read" }),
    ("clip-write", { method := "clipboard.write", fields := [("text", .text)] }),
    ("svc-list", { method := "service.list" }),
    ("svc-status", { method := "service.status", fields := [("name", .text)] }),
    ("svc-control",
      { method := "service.control", fields := [("name", .text), ("action", .text)] }),
    ("env-get", { method := "env.get" }),
    ("env-set", { method := "env.set", fields := [("name", .text), ("value", .text)] }),
    ("wine-drives", { method := "wine.drives" }),
    ("wine-overrides", { method := "wine.overrides" }),
    ("mutex-check", { method := "sync.checkMutex", fields := [("name", .text)] }),
    ("mutex-create",
      { method := "sync.createMutex", needed := 1, fields := [("name", .text), ("own", .flag)] }),
    ("mem-read", { method := "mem.read",
                   fields := [("pid", .number), ("address", .address), ("size", .number)] }),
    ("mem-write", { method := "mem.write",
                    fields := [("pid", .number), ("address", .address), ("data_b64", .text)] }),
    ("image-match",
      { method := "image.match",
        fields := [("left", .number), ("top", .number), ("right", .number), ("bottom", .number),
          ("sub_image_b64", .text)] }),
    ("input-hook", { method := "input.hook", fields := [("enabled", .flag)] }),
    ("events-subscribe", { method := "events.subscribe" }),
    ("events-unsubscribe", { method := "events.unsubscribe" }),
    ("status", { method := "daemon.status" }),
    ("ensure-visible",
      { method := "window.ensureVisible", fields := [("hwnd", .text), ("visible", .flag)] }),
    ("ensure-foreground", { method := "window.ensureForeground", fields := [("hwnd", .text)] }),
    ("post-message",
      { method := "window.postMessage", needed := 2,
        fields := [("hwnd", .text), ("msg", .number), ("wparam", .number),
          ("lparam", .number)] }),
    ("send-input", { method := "input.send", fields := [("data_b64", .text)] }),
    ("ui-inspect", { method := "ui.inspect", fields := [("hwnd", .text)] }),
    ("ui-invoke",
      { method := "ui.invoke", fields := [("hwnd", .text), ("automation_id", .text)] }),
    ("health", { method := "daemon.health" }),
    ("capabilities", { method := "daemon.capabilities" }),
    ("check-update", { method := "daemon.checkUpdate" })]

section

variable (lib : Conversions)

/-- Fill the parameters from the arguments, as far as both go. -/
def setFields : List (String × Kind) → List Bytes → Draft → Except Bytes Draft
  | (key, kind) :: fields, arg :: args, draft => do
      let value ← kind.read lib arg
      setFields fields args (draft.set key value)
  | _, _, draft => .ok draft

/-- The loops over `get_snapshot`. -/
def snapshotLoop : List Bytes → Draft → Draft
  | arg :: next :: rest, draft =>
      if arg = ascii "--snapshot" then snapshotLoop rest (draft.setText "snapshot_id" next)
      else snapshotLoop (next :: rest) draft
  | _, draft => draft

def Command.run (command : Command) (draft : Draft) (args : List Bytes) : Outcome :=
  if args.length < command.needed then .usage
  else
    match setFields lib command.fields args draft with
    | .error what => .fails what
    | .ok draft =>
        (if command.snapshot then snapshotLoop (args.drop command.needed) draft
          else draft).send "cli-1" command.method

/-- `tree`: a first argument that starts with `0x` is the root. -/
def tree (draft : Draft) (args : List Bytes) : Outcome :=
  match args with
  | [] => draft.send "cli-1" "window.getTree"
  | hwnd :: rest =>
      if (ascii "0x").isPrefixOf hwnd then
        (snapshotLoop rest (draft.setText "hwnd" hwnd)).send "cli-1" "window.getTree"
      else (snapshotLoop (hwnd :: rest) draft).send "cli-1" "window.getTree"

/-- What `events-poll` takes for the id of the old snapshot. -/
def takenAsId (arg : Bytes) : Bool :=
  !(ascii "0x").isPrefixOf arg && !containsBytes arg (ascii "--")

/-- The loop over `--wait-ms`, which goes over all of `argv`. -/
def waitLoop : List Bytes → Draft → Except Bytes Draft
  | arg :: next :: rest, draft =>
      if arg = ascii "--wait-ms" then do
        let ms ← lib.stod next
        waitLoop (next :: rest) (draft.set "wait_ms" (ms.map .num))
      else waitLoop (next :: rest) draft
  | _, draft => .ok draft

/-- `events-poll`. -/
def eventsPoll (argv : List Bytes) (draft : Draft) : List Bytes → Outcome
  | [] => .usage
  | sid :: rest =>
      let draft := draft.setText "snapshot_id" sid
      let draft := match rest with
        | [] => draft
        | old :: _ => if takenAsId old then draft.setText "old_snapshot_id" old else draft
      match waitLoop lib argv draft with
      | .error what => .fails what
      | .ok draft => draft.send "cli-1" "events.poll"

/-- `watch`. -/
def watch (draft : Draft) : Outcome :=
  match draft.object? with
  | none => .garbled
  | some params =>
      .watches { id := ascii "w-0", method := ascii "events.poll", params := params }
        { id := ascii "w-1", method := ascii "events.poll", params := params }

/-- The loop of `update` over its options. -/
def updateLoop : List Bytes → Draft → Draft
  | arg :: next :: rest, draft =>
      if arg = ascii "--url" then updateLoop rest (draft.setText "url" next)
      else if arg = ascii "--type" then updateLoop rest (draft.setText "type" next)
      else updateLoop (next :: rest) draft
  | _, draft => draft

/-- `config`, which saves the path of a key. -/
def config : List Bytes → Outcome
  | option :: _ :: _ => if option = ascii "--key" then .done else .usage
  | _ => .usage

/-- The loop of `discover` over all of `argv`.  The second test of a round sees the argument that
the first one has converted. -/
def discoverLoop : List Bytes → Except Bytes Unit
  | arg :: next :: rest =>
      if arg = ascii "--discovery-port" then do
        let _ ← lib.stoi next
        match rest with
        | value :: later =>
            if next = ascii "--discovery-timeout" then do
              let _ ← lib.stoi value
              discoverLoop later
            else discoverLoop (value :: later)
        | [] => .ok ()
      else if arg = ascii "--discovery-timeout" then do
        let _ ← lib.stoi next
        discoverLoop rest
      else discoverLoop (next :: rest)
  | _ => .ok ()

/-- `discover`, which broadcasts a packet and prints the answers. -/
def discover (argv : List Bytes) : Outcome :=
  match discoverLoop lib argv with
  | .error what => .fails what
  | .ok _ => .done

/-- The branches on `cmd`; `args` are the arguments behind it. -/
def runCli (argv : List Bytes) (draft : Draft) (cmd : Bytes) (args : List Bytes) : Outcome :=
  if cmd = ascii "discover" then discover lib argv
  else if cmd = ascii "tree" then tree draft args
  else if cmd = ascii "events-poll" then eventsPoll lib argv draft args
  else if cmd = ascii "watch" then watch draft
  else if cmd = ascii "update" then
    (updateLoop args draft).send "cli-1" "daemon.downloadUpdate"
  else if cmd = ascii "config" then config args
  else
    match commands.find? fun entry => ascii entry.1 = cmd with
    | none => .usage
    | some entry => entry.2.run lib draft args

/-- What the option loop of `main` leaves for the commands. -/
structure CliArgs where
  args : List Bytes := []
  sessionId : Bytes := []

/-- The port behind the first colon of `--tcp` is converted. -/
def checkPort (hostPort : Bytes) : Except Bytes Unit :=
  match hostPort.dropWhile fun c => c ≠ Json.ch ':' with
  | [] => .ok ()
  | _ :: port => (lib.stoi port).map fun _ => ()

/-- The option loop of `main`. -/
def parseArgs : List Bytes → CliArgs → Except Bytes CliArgs
  | [], o => .ok o
  | [arg], o => .ok (if arg = ascii "--tcp" then o else { o with args := o.args ++ [arg] })
  | arg :: next :: rest, o =>
      if arg = ascii "--pipe" then parseArgs rest o
      else if arg = ascii "--tcp" then do
        checkPort lib next
        parseArgs rest o
      else if arg = ascii "--session-id" then parseArgs rest { o with sessionId := next }
      else parseArgs (next :: rest) { o with args := o.args ++ [arg] }

/-- The parameters every command starts from. -/
def CliArgs.draft (o : CliArgs) : Draft :=
  let draft := Draft.set [] "canonical" (some (.bool true))
  if o.sessionId = [] then draft else draft.setText "session_id" o.sessionId

/-- `main` of the command-line client on `argv[1..]`. -/
def cliMain (argv : List Bytes) : Outcome :=
  match parseArgs lib argv {} with
  | .error what => .fails what
  | .ok o =>
      match o.args with
      | [] => .usage
      | cmd :: args => runCli lib argv o.draft cmd args

end

/-! ## The portable client -/

/-- The map from commands to methods. -/
def reqMethods : List (String × String) :=
  [("capture", "snapshot.capture"), ("top", "window.listTop"), ("info", "window.getInfo"),
    ("children", "window.listChildren"), ("tree", "window.getTree"),
    ("pick", "window.pickAtPoint"), ("status", "daemon.status"), ("health", "daemon.health"),
    ("highlight", "window.highlight"), ("set-prop", "window.setProperty"),
    ("control-click", "window.controlClick"), ("control-send", "window.controlSend"),
    ("get-pixel", "screen.getPixel"), ("pixel-search", "screen.pixelSearch"),
    ("capture-region", "screen.capture"), ("ps", "process.list"), ("kill", "process.kill"),
    ("file-info", "file.getInfo"), ("file-read", "file.read"),
    ("find-regex", "window.findRegex"), ("reg-read", "reg.read"), ("reg-write", "reg.write"),
    ("reg-delete", "reg.delete"), ("clip-read", "clipboard.read"),
    ("clip-write", "clipboard.write"), ("svc-list", "service.list"),
    ("svc-status", "service.status"), ("svc-control", "service.control"),
    ("env-get", "env.get"), ("env-set", "env.set"), ("wine-drives", "wine.drives"),
    ("wine-overrides", "wine.overrides"), ("mutex-check", "sync.checkMutex"),
    ("mutex-create", "sync.createMutex"), ("mem-read", "mem.read"), ("mem-write", "mem.write")]

/-- A case of the argument mapping: the parameters with the arguments they take, how many
arguments there must be, and the error when there are fewer. -/
structure Mapping where
  fields : List (String × Nat) := []
  needed : Nat := 0
  missing : String := ""

/-- The `switch` over the commands. -/
def mapping (method : Bytes) : Mapping :=
  if method ∈ ["info", "children", "tree", "highlight"].map ascii then { fields := [("hwnd", 0)] }
  else if method ∈ ["pick", "get-pixel"].map ascii then
    { fields := [("x", 0), ("y", 1)], needed := 2, missing := "missing x y" }
  else if method = ascii "set-prop" then
    { fields := [("hwnd", 0), ("name", 1), ("value", 2)], needed := 3,
      missing := "missing hwnd name value" }
  else if method = ascii "control-click" then
    { fields := [("hwnd", 0), ("x", 1), ("y", 2)], needed := 3, missing := "missing hwnd x y" }
  else if method = ascii "control-send" then
    { fields := [("hwnd", 0), ("text", 1)], needed := 2, missing := "missing hwnd text" }
  else if method ∈ ["reg-read", "file-info", "file-read", "svc-status", "mutex-check",
      "mutex-create"].map ascii then
    { fields := [("path", 0), ("name", 0)], needed := 1, missing := "missing argument" }
  else if method = ascii "reg-write" then
    { fields := [("path", 0), ("name", 1), ("type", 2), ("data", 3)], needed := 4,
      missing := "missing path name type data" }
  else {}

section

variable (text : Bytes → Bytes)

/-- `params[key] = args[i]`; `text` is what the daemon reads of an argument that went through
`json.Marshal`. -/
def setArgument (args : List Bytes) (params : Object) (field : String × Nat) : Object :=
  match args[field.2]? with
  | some arg => params.set field.1 (.str (text arg))
  | none => params

/-- The `params` of the portable client. -/
def Mapping.params (m : Mapping) (args : List Bytes) : Object :=
  m.fields.foldl (setArgument text args) (Object.ofFields [("canonical", .bool true)])

/-- `runCommand`, from the lookup of the method to the request. -/
def runCommand (method : Bytes) (args : List Bytes) : Outcome :=
  match reqMethods.find? fun entry => ascii entry.1 = method with
  | none => .fails (ascii "unknown command: " ++ method)
  | some entry =>
      let m := mapping method
      if args.length < m.needed then .fails (ascii m.missing)
      else .sends { id := ascii "p-1", method := ascii entry.2, params := m.params text args }

/-- `main` of the portable client on the arguments behind its flags. -/
def portableMain : List Bytes → Outcome
  | [] => .usage
  | cmd :: args => if cmd = ascii "config" then config args else runCommand text cmd args

end

end WinInspect.Clients
