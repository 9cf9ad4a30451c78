import WinInspect.Core.FakeBackend
import WinInspect.Daemon.Handshake
import WinInspect.Json.RoundTrip
import WinInspect.Transition.Composite

/-!
# The daemon

The two request loops as one composite system.  A component is a connection; the
shared state is `ServerState`, the world behind the backend, the clock, and whether
`mu` is held between two steps, which is the case only inside the eviction loop.

A step is one action on shared memory or on the outside: a critical section, a
backend call, a read or a write of the transport.  `std::async` adds nothing to this
picture: the destructor of the future waits for the engine, so the engine's one
backend call lies between two actions of its own connection also when the watchdog
has given up on it.
-/

namespace WinInspect.Daemon

open Transition (System Config)
open Crypto (BCrypt CryptoSession)

variable {σ : Type}

/-- The code outside the repository. -/
structure Platform (σ : Type) where
  backend : Backend σ
  stod : Json.Stod
  bcrypt : BCrypt

/-- What the threads share. -/
structure Shared (σ : Type) where
  st : ServerState := {}
  world : σ
  /-- `mu` is held by a connection in its eviction loop. -/
  muHeld : Bool := false
  /-- `steady_clock::now()`, in nanoseconds. -/
  now : Nat := 0

/-- What a turn of a connection takes from outside. -/
inductive Input where
  /-- Start the thread; TCP also takes the key pair and the nonce the system makes. -/
  | start (keyPair : Option Bytes) (nonce : Bytes)
  /-- A write of the handshake fails. -/
  | hangUp
  /-- A frame arrives, or the read fails. -/
  | frame (payload : Option Bytes)
  /-- The engine runs: whether the watchdog gave up, and what it reads from outside. -/
  | core (timedOut : Bool) (recentLogs : List LogMessage) (pollElapsed durationMs : Int)
  /-- The next action, when it needs nothing. -/
  | go

/-- What the environment does. -/
inductive Outside (σ : Type) where
  /-- The world behind the backend changes. -/
  | world (w : σ)
  /-- Time passes. -/
  | tick (nanoseconds : Nat)
  /-- The cleanup thread runs `cleanup_sessions`. -/
  | cleanup

section

variable (p : Platform σ) (cfg : Settings) (g : Shared σ) (conn : Conn)

/-- A turn that leaves the server state. -/
def Shared.withSt (g : Shared σ) (st : ServerState) : Shared σ :=
  { g with st := st }

/-- Run a critical section when `mu` is free. -/
def locked (turn : Shared σ × Conn) : Option (Shared σ × Conn) :=
  if g.muHeld then none else some turn

/-- `backend->capture_snapshot()` inside the `try` block, with the response an
exception is caught with. -/
def capture (resp : CoreResponse) (req : CoreRequest) (next : Snapshot → Phase) :
    Shared σ × Conn :=
  let taken := p.backend.apply .captureSnapshot g.world
  let g := { g with world := taken.2 }
  match taken.1 with
  | .ok s => (g, conn.goto (next s))
  | .error what => (g, conn.send req (caught conn.transport resp what))

/-- The start of a thread. -/
def onStart (keyPair : Option Bytes) (nonce : Bytes) : Option (Shared σ × Conn) :=
  match conn.phase, conn.transport with
  | .starting, .pipe =>
      let st := { g.st with activeConnections := g.st.activeConnections + 1 }
      let authenticated := !cfg.requireAuth && cfg.authKeysData.isEmpty
      some (g.withSt st, { conn with session := { authenticated }, phase := .reading })
  | .starting, .tcp =>
      let generated := conn.crypto.generateLocalKey p.bcrypt keyPair
      some (g, { conn with
        crypto := generated.2
        challenge := nonce
        phase := if cfg.authKeysData = [] then .reading else .handshake })
  | _, _ => none

/-- A failed write of the challenge or of `auth_status`. -/
def onHangUp : Option (Shared σ × Conn) :=
  match conn.phase, conn.transport with
  | .starting, .tcp => some (g, conn.goto .closed)
  | .handshake, _ => some (g, conn.goto .closed)
  | _, _ => none

/-- A frame, or the end of the stream. -/
def onFrame (payload : Option Bytes) : Option (Shared σ × Conn) :=
  match conn.phase with
  | .handshake =>
      match payload.bind
          (checkAnswer p.stod p.bcrypt cfg.authKeysData conn.challenge conn.crypto) with
      | some crypto => some (g, { conn with crypto := crypto, phase := .reading })
      | none => some (g, conn.goto .closed)
  | .reading =>
      match payload.bind (conn.textOf p.bcrypt) with
      | some text => some (g, conn.onRequest p.stod cfg text)
      | none => some (g, conn.leave)
  | _ => none

/-- The engine's answer or a timeout. -/
def onCore (timedOut : Bool) (recentLogs : List LogMessage) (pollElapsed durationMs : Int) :
    Option (Shared σ × Conn) :=
  match conn.phase with
  | .calling req snap old =>
      let env : Surroundings :=
        { adminLogsEnabled := cfg.adminLogs, recentLogs := recentLogs, pollElapsed := pollElapsed }
      let done := handle p.backend env durationMs req snap old g.world
      let resp := if timedOut then timeoutResponse conn.transport req else done.1
      some ({ g with world := done.2 }, conn.afterCore req snap old resp)
  | _ => none

/-- The critical section of a request with a `session_id`.  Only TCP has a cap. -/
def openSession (req : CoreRequest) (sid : Bytes) : Shared σ × Conn :=
  match g.st.sessions.lookup sid with
  | some ps =>
      let st := g.st.modifySession sid fun ps => { ps with lastActivity := g.now }
      let session := { conn.session with
        id := sid, lastSnapId := ps.lastSnapId, subscribed := ps.subscribed }
      (g.withSt st, { conn with session := session }.route cfg req)
  | none =>
      if conn.transport = .tcp ∧ cfg.maxSessions ≤ g.st.sessions.keys.card then
        (g, conn.send req (errorResponse req "E_TOO_MANY_SESSIONS" "session limit reached"))
      else
        (g.withSt (g.st.openSession sid g.now),
          { conn with session := { conn.session with id := sid } }.route cfg req)

/-- Store the baseline of `events.subscribe`. -/
def subscribe (req : CoreRequest) (base : Snapshot) : Shared σ × Conn :=
  let sid := g.st.nextSid
  let st := g.st.issue base
  let st := if conn.session.id = [] then st
    else st.modifySession conn.session.id fun ps =>
      { ps with subscribed := true, lastSnapId := sid }
  let conn := { conn with
    session := { conn.session with subscribed := true, lastSnapId := sid } }
  (g.withSt st,
    conn.send req (okResponse req [("subscribed", .bool true), ("snapshot_id", .str sid)]))

/-- The critical section of `events.unsubscribe`. -/
def unsubscribe (req : CoreRequest) : Shared σ × Conn :=
  let st := if conn.session.id ∈ g.st.sessions then
      g.st.modifySession conn.session.id fun ps =>
        { ps with subscribed := false, lastSnapId := [] }
    else g.st
  (g.withSt st, conn.send req (okResponse req [("unsubscribed", .bool true)]))

/-- The critical section of `session.terminate`, which then goes on to the engine. -/
def terminate (req : CoreRequest) : Shared σ × Conn :=
  (g.withSt (g.st.eraseSession conn.session.id),
    { conn with session := { conn.session with id := [] } }.proceed cfg req)

/-- One round of the loop of `snapshot.capture`, or its end. -/
def evict (req : CoreRequest) (sid : Bytes) : Shared σ × Conn :=
  if cfg.maxSnapshots < g.st.lruOrder.length then (g.withSt g.st.evictOnce, conn)
  else
    ({ g with muHeld := false },
      conn.send req (okResponse req [("snapshot_id", .str sid)]))

/-- Look up and pin the snapshot of a request; only the pipe moves it in the LRU
order. -/
def pin (req : CoreRequest) (sid : Bytes) : Shared σ × Conn :=
  match g.st.snaps.lookup sid with
  | none => (g, conn.send req (badSnapshotResponse conn.transport req))
  | some snap =>
      let st := g.st.addPin sid 1
      let st := match conn.transport with
        | .pipe => st.touch sid
        | .tcp => st
      (g.withSt st, { conn with pinnedSid := sid }.goto (.findingOld req snap))

/-- The id of the snapshot to compare with, if there is one to look up. -/
def oldSid (conn : Conn) (req : CoreRequest) : Option Bytes :=
  match getStr req.params "old_snapshot_id" with
  | some osid => some osid
  | none =>
      if req.method = ascii "events.poll" ∧ conn.session.lastSnapId ≠ [] then
        some conn.session.lastSnapId
      else none

/-- Store the next baseline of a poll. -/
def storePoll (req : CoreRequest) (resp : CoreResponse) (fresh : Snapshot) : Shared σ × Conn :=
  let sid := g.st.nextSid
  let st := g.st.issue fresh
  let st := if conn.session.id = [] then st
    else st.modifySession conn.session.id fun ps => { ps with lastSnapId := sid }
  let conn := { conn with session := { conn.session with lastSnapId := sid } }
  (g.withSt st, conn.send req resp)

/-- The next action of a connection that waits for nothing. -/
def onGo : Option (Shared σ × Conn) :=
  match conn.phase with
  | .session req sid => locked g (openSession cfg g conn req sid)
  | .subscribing req => some (capture p g conn { id := req.id } req (.subscribed req))
  | .subscribed req base => locked g (subscribe g conn req base)
  | .unsubscribing req => locked g (unsubscribe g conn req)
  | .terminating req => locked g (terminate cfg g conn req)
  | .capturing req => some (capture p g conn { id := req.id } req (.captured req))
  | .captured req s =>
      locked g ({ g.withSt (g.st.issue s) with muHeld := true },
        conn.goto (.evicting req g.st.nextSid))
  | .evicting req sid => some (evict cfg g conn req sid)
  | .finding req =>
      match getStr req.params "snapshot_id" with
      | some sid => locked g (pin g conn req sid)
      | none => some (capture p g conn { id := req.id } req (.findingOld req))
  | .findingOld req snap =>
      match oldSid conn req with
      | some osid => locked g (g, conn.goto (.calling req snap (g.st.snaps.lookup osid)))
      | none => some (g, conn.goto (.calling req snap none))
  | .polled req snap old resp => some (capture p g conn resp req (.storing req snap old resp))
  | .storing req _ _ resp fresh => locked g (storePoll g conn req resp fresh)
  | .sending _ resp =>
      some (g, (conn.write p.bcrypt (serializeResponseJson resp)).2.afterSend)
  | .unpinning => locked g (g.withSt (g.st.addPin conn.pinnedSid (-1)), conn.goto .reading)
  | .leaving => locked g (g.withSt (g.st.addPin conn.pinnedSid (-1)), conn.goto .closing)
  | .closing =>
      some (g.withSt { g.st with activeConnections := g.st.activeConnections - 1 },
        conn.goto .closed)
  | _ => none

/-- A turn of a connection. -/
def turn : Input → Option (Shared σ × Conn)
  | .start keyPair nonce => onStart p cfg g conn keyPair nonce
  | .hangUp => onHangUp g conn
  | .frame payload => onFrame p cfg g conn payload
  | .core timedOut recentLogs pollElapsed durationMs =>
      onCore p cfg g conn timedOut recentLogs pollElapsed durationMs
  | .go => onGo p cfg g conn

/-- The accept loops.  `run_server` drops a pipe connection at the limit, which counts
the started threads; `TcpServer::start` has no limit. -/
def accept : Transport → Option (Shared σ × Conn)
  | .pipe =>
      if cfg.maxConnections ≤ g.st.activeConnections then none
      else some (g, { transport := .pipe })
  | .tcp => some (g, { transport := .tcp })

/-- A step of the environment. -/
def outside : Outside σ → Option (Shared σ)
  | .world w => some { g with world := w }
  | .tick nanoseconds => some { g with now := g.now + nanoseconds }
  | .cleanup =>
      if g.muHeld then none
      else some (g.withSt (g.st.cleanupSessions cfg.sessionTtlSec g.now))

end

/-- The daemon with given settings. -/
def daemon (p : Platform σ) (cfg : Settings) :
    System (Shared σ) Conn Input Transport (Outside σ) where
  turn := turn p cfg
  spawn := accept cfg
  env := outside cfg

/-- The daemon just after start-up. -/
def initial (world : σ) : Config (Shared σ) Conn :=
  ⟨{ world := world }, []⟩

/-! ## The daemon over the fake backend -/

/-- The fake backend, without cryptography. -/
def fakePlatform : Platform Fake.FakeState where
  backend := Fake.fakeBackend
  stod := Json.integerStod
  bcrypt := BCrypt.unavailable

/-- The text of a request. -/
def requestText (id method : String) (params : List (String × Json.Value)) : Bytes :=
  Json.dumps (object [("id", .str (ascii id)), ("method", .str (ascii method)),
    ("params", object params)])

/-- A request that does not come to the engine. -/
def intercepted (method : String) (params : List (String × Json.Value)) (actions : Nat) :
    List (Transition.Move Input Transport (Outside Fake.FakeState)) :=
  .turn 0 (.frame (some (requestText "1" method params))) :: List.replicate actions (.turn 0 .go)

/-- A request that the engine answers. -/
def handled (method : String) (params : List (String × Json.Value)) (before after : Nat) :
    List (Transition.Move Input Transport (Outside Fake.FakeState)) :=
  intercepted method params before ++
    .turn 0 (.core false [] 0 0) :: List.replicate after (.turn 0 .go)

end WinInspect.Daemon
