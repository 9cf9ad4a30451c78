import WinInspect.Core.Engine
import WinInspect.Crypto.Session
import WinInspect.Daemon.ServerState

/-!
# Connections

The state of one client thread: the locals of `handle_client` (pipe) or
`handle_socket_client` (TCP), and a `Phase` that says which action on shared memory
or on the outside comes next.  Everything a thread does between two such actions is
local, and the functions here compute it.
-/

namespace WinInspect.Daemon

open Json (Value Object)

/-- The start-up values the two servers are given. -/
structure Settings where
  readOnly : Bool := false
  requireAuth : Bool := false
  adminLogs : Bool := false
  authKeysData : Bytes := []
  maxSnapshots : Nat := 1000
  maxSessions : Nat := 256
  maxConnections : Int := 32
  sessionTtlSec : Int := 3600

inductive Transport where
  | pipe
  | tcp
  deriving DecidableEq

/-- `ClientSession`. -/
structure ClientSession where
  id : Bytes := []
  authenticated : Bool := false
  lastSnapId : Bytes := []
  subscribed : Bool := false
  deriving DecidableEq

/-- The next action of a connection, with the locals that are live there.  The
phases `session` to `storing` are inside the `try` block of the request loop. -/
inductive Phase where
  /-- The thread has been created. -/
  | starting
  /-- TCP with keys: the challenge is sent, its answer not yet read. -/
  | handshake
  /-- The top of the request loop. -/
  | reading
  /-- The critical section of a request with a `session_id`. -/
  | session (req : CoreRequest) (sid : Bytes)
  /-- `events.subscribe`: the capture, and the critical section that stores it. -/
  | subscribing (req : CoreRequest)
  | subscribed (req : CoreRequest) (base : Snapshot)
  /-- The critical sections of `events.unsubscribe` and `session.terminate`. -/
  | unsubscribing (req : CoreRequest)
  | terminating (req : CoreRequest)
  /-- `snapshot.capture`: the capture, the critical section, and its eviction loop,
  which runs with `mu` held. -/
  | capturing (req : CoreRequest)
  | captured (req : CoreRequest) (s : Snapshot)
  | evicting (req : CoreRequest) (sid : Bytes)
  /-- The lookup of `snapshot_id`, or a capture, and the lookup of the old snapshot. -/
  | finding (req : CoreRequest)
  | findingOld (req : CoreRequest) (snap : Snapshot)
  /-- The call of the engine. -/
  | calling (req : CoreRequest) (snap : Snapshot) (old : Option Snapshot)
  /-- After an ok `events.poll`: the second capture, and the critical section. -/
  | polled (req : CoreRequest) (snap : Snapshot) (old : Option Snapshot) (resp : CoreResponse)
  | storing (req : CoreRequest) (snap : Snapshot) (old : Option Snapshot) (resp : CoreResponse)
      (fresh : Snapshot)
  /-- The send label; without a request when the frame did not parse. -/
  | sending (req : Option CoreRequest) (resp : CoreResponse)
  /-- The critical section after the send. -/
  | unpinning
  /-- The exit path of the pipe loop: its critical section, and `ConnGuard`. -/
  | leaving
  | closing
  | closed

/-- One client thread. -/
structure Conn where
  transport : Transport
  session : ClientSession := {}
  pinnedSid : Bytes := []
  crypto : Crypto.CryptoSession := {}
  /-- The nonce of the challenge. -/
  challenge : Bytes := []
  phase : Phase := .starting

namespace Conn

/-- Move on to a phase. -/
def goto (conn : Conn) (phase : Phase) : Conn :=
  { conn with phase := phase }

/-- `goto send`. -/
def send (conn : Conn) (req : CoreRequest) (resp : CoreResponse) : Conn :=
  conn.goto (.sending (some req) resp)

end Conn

/-! ## Responses of the daemon -/

/-- `resp.id = req.id; resp.ok = true; resp.result = result`. -/
def okResponse (req : CoreRequest) (result : List (String × Value)) : CoreResponse :=
  { id := req.id, ok := true, result := object result }

/-- `resp.id = req.id; resp.ok = false` with a code and a message. -/
def errorResponse (req : CoreRequest) (code message : String) : CoreResponse :=
  { id := req.id, ok := false, errorCode := ascii code, errorMessage := ascii message }

/-- The `catch` of the request loop.  The TCP one sets the code only. -/
def caught (transport : Transport) (resp : CoreResponse) (what : Bytes) : CoreResponse :=
  match transport with
  | .pipe =>
      { resp with
        ok := false
        errorCode := ascii "E_BAD_REQUEST"
        errorMessage := what
        result := .null }
  | .tcp => { resp with ok := false, errorCode := ascii "E_BAD_REQUEST" }

/-- The response to a timeout of the engine. -/
def timeoutResponse (transport : Transport) (req : CoreRequest) : CoreResponse :=
  errorResponse req "E_TIMEOUT"
    (match transport with
    | .pipe => "request timed out in core engine"
    | .tcp => "")

/-- The response to a `snapshot_id` that is not stored. -/
def badSnapshotResponse (transport : Transport) (req : CoreRequest) : CoreResponse :=
  errorResponse req "E_BAD_SNAPSHOT"
    (match transport with
    | .pipe => "unknown or evicted snapshot_id"
    | .tcp => "unknown snapshot")

/-! ## Local control flow -/

/-- The methods the read-only check blocks. -/
def blockedReadOnly (method : Bytes) : Bool :=
  method == ascii "window.postMessage" || method == ascii "input.send" ||
    containsBytes method (ascii "reg.write")

/-- From the read-only check to the branch on `snapshot.capture`. -/
def Conn.proceed (cfg : Settings) (conn : Conn) (req : CoreRequest) : Conn :=
  if cfg.readOnly && blockedReadOnly req.method then
    conn.send req (errorResponse req "E_ACCESS_DENIED" "daemon is running in read-only mode")
  else if req.method = ascii "snapshot.capture" then conn.goto (.capturing req)
  else conn.goto (.finding req)

/-- From the end of the session section to the next action. -/
def Conn.route (cfg : Settings) (conn : Conn) (req : CoreRequest) : Conn :=
  if req.method = ascii "events.subscribe" then conn.goto (.subscribing req)
  else if req.method = ascii "events.unsubscribe" then
    let conn := { conn with
      session := { conn.session with subscribed := false, lastSnapId := [] } }
    if conn.session.id = [] then conn.send req (okResponse req [("unsubscribed", .bool true)])
    else conn.goto (.unsubscribing req)
  else if req.method = ascii "session.terminate" ∧ conn.session.id ≠ [] then
    conn.goto (.terminating req)
  else conn.proceed cfg req

/-- From a parsed request to the next action: the authentication check of the pipe,
and the test for a `session_id`. -/
def Conn.accept (cfg : Settings) (conn : Conn) (req : CoreRequest) : Conn :=
  if conn.transport = .pipe ∧ conn.session.authenticated = false ∧ req.method ≠ ascii "hello" then
    conn.send req (errorResponse req "E_UNAUTHORIZED" "authentication required")
  else
    match getStr req.params "session_id" with
    | some sid => conn.goto (.session req sid)
    | none => conn.route cfg req

/-- The locals at the top of an iteration: the pipe keeps its session. -/
def Conn.refresh (conn : Conn) : Conn :=
  match conn.transport with
  | .pipe => { conn with pinnedSid := [] }
  | .tcp => { conn with pinnedSid := [], session := {} }

/-- Parse a request text and start on it. -/
def Conn.onRequest (stod : Json.Stod) (cfg : Settings) (conn : Conn) (text : Bytes) : Conn :=
  match parseRequestJson stod text with
  | .ok req => conn.refresh.accept cfg req
  | .error what => conn.refresh.goto (.sending none (caught conn.transport {} what))

/-- Leave the request loop. -/
def Conn.leave (conn : Conn) : Conn :=
  match conn.transport with
  | .pipe => conn.goto (if conn.pinnedSid = [] then .closing else .leaving)
  | .tcp => conn.goto .closed

/-- After the response is written. -/
def Conn.afterSend (conn : Conn) : Conn :=
  conn.goto (if conn.pinnedSid = [] then .reading else .unpinning)

/-- After the engine has answered. -/
def Conn.afterCore (conn : Conn) (req : CoreRequest) (snap : Snapshot) (old : Option Snapshot)
    (resp : CoreResponse) : Conn :=
  if req.method = ascii "events.poll" ∧ resp.ok = true then conn.goto (.polled req snap old resp)
  else conn.send req resp

/-- The request text of a frame; `none` ends the loop. -/
def Conn.textOf (bcrypt : Crypto.BCrypt) (conn : Conn) (frame : Bytes) : Option Bytes :=
  match conn.transport with
  | .pipe => some frame
  | .tcp =>
      if conn.crypto.isInitialized then Crypto.encryptedRecv bcrypt conn.crypto frame
      else if frame.length = 0 ∨ Crypto.maxFrame < frame.length then none
      else some frame

/-- The frame written for a response text, if one is, and the connection after it. -/
def Conn.write (bcrypt : Crypto.BCrypt) (conn : Conn) (text : Bytes) : Option Bytes × Conn :=
  if conn.transport = .tcp ∧ conn.crypto.isInitialized = true then
    let sent := Crypto.encryptedSend bcrypt conn.crypto text
    (sent.1, { conn with crypto := sent.2 })
  else (some text, conn)

end WinInspect.Daemon
