import WinInspect.Daemon.System

/-!
# The cases of a turn

`Turn` lists what a turn of a connection can be, one constructor for each action,
with the conditions under which it happens.  `turn_cases` is the only place where
`turn` is taken apart; every invariant is proved by cases on `Turn`.
-/

namespace WinInspect.Daemon

open Transition (Config System)
open Transition.System (Aux Guard)

variable {σ : Type}

/-! ## Local control flow -/

/-- The phases a request is routed to. -/
inductive Routes (cfg : Settings) (req : CoreRequest) : Phase → Prop
  | session {sid : Bytes} (named : getStr req.params "session_id" = some sid) :
      Routes cfg req (.session req sid)
  | subscribing (method : req.method = ascii "events.subscribe") :
      Routes cfg req (.subscribing req)
  | unsubscribing (method : req.method = ascii "events.unsubscribe") :
      Routes cfg req (.unsubscribing req)
  | terminating (method : req.method = ascii "session.terminate") :
      Routes cfg req (.terminating req)
  | capturing (method : req.method = ascii "snapshot.capture") :
      Routes cfg req (.capturing req)
  | finding (unblocked : (cfg.readOnly && blockedReadOnly req.method) = false) :
      Routes cfg req (.finding req)
  | sending {resp : CoreResponse} (answers : resp.id = req.id) :
      Routes cfg req (.sending (some req) resp)

/-- Routing a request changes the phase, and of the session at most the subscription. -/
structure Routed (cfg : Settings) (req : CoreRequest) (conn conn' : Conn) : Prop where
  transport : conn'.transport = conn.transport
  sessionId : conn'.session.id = conn.session.id
  authenticated : conn'.session.authenticated = conn.session.authenticated
  session : conn'.session.subscribed = true → conn'.session = conn.session
  pinnedSid : conn'.pinnedSid = conn.pinnedSid
  crypto : conn'.crypto = conn.crypto
  phase : Routes cfg req conn'.phase

theorem Routed.goto {cfg : Settings} {req : CoreRequest} (conn : Conn) {phase : Phase}
    (routes : Routes cfg req phase) : Routed cfg req conn (conn.goto phase) :=
  ⟨rfl, rfl, rfl, fun _ => rfl, rfl, rfl, routes⟩

theorem proceed_routed (cfg : Settings) (conn : Conn) (req : CoreRequest) :
    Routed cfg req conn (conn.proceed cfg req) := by
  unfold Conn.proceed
  split
  · exact Routed.goto conn (Routes.sending rfl)
  · rename_i unblocked
    split
    · rename_i method
      exact Routed.goto conn (Routes.capturing method)
    · exact Routed.goto conn (Routes.finding (by simpa using unblocked))

theorem proceed_session (cfg : Settings) (conn : Conn) (req : CoreRequest) :
    (conn.proceed cfg req).session = conn.session := by
  unfold Conn.proceed
  split
  · rfl
  · split <;> rfl

theorem route_routed (cfg : Settings) (conn : Conn) (req : CoreRequest) :
    Routed cfg req conn (conn.route cfg req) := by
  unfold Conn.route
  split
  · rename_i method
    exact Routed.goto conn (Routes.subscribing method)
  · split
    · rename_i method
      dsimp only
      split
      · exact ⟨rfl, rfl, rfl, nofun, rfl, rfl, Routes.sending rfl⟩
      · exact ⟨rfl, rfl, rfl, nofun, rfl, rfl, Routes.unsubscribing method⟩
    · split
      · rename_i terminates
        exact Routed.goto conn (Routes.terminating terminates.1)
      · exact proceed_routed cfg conn req

/-- A request that the daemon does not answer itself goes on to the lookup of its snapshot. -/
theorem route_of_engine (cfg : Settings) (conn : Conn) {req : CoreRequest}
    (other : req.method ∉ [ascii "events.subscribe", ascii "events.unsubscribe",
      ascii "session.terminate", ascii "snapshot.capture"])
    (unblocked : blockedReadOnly req.method = false) :
    conn.route cfg req = conn.goto (.finding req) := by
  simp only [List.mem_cons, List.not_mem_nil, or_false, not_or] at other
  obtain ⟨subscribe, unsubscribe, terminate, capture⟩ := other
  rw [Conn.route, if_neg subscribe, if_neg unsubscribe, if_neg fun ends => terminate ends.1,
    Conn.proceed, unblocked, Bool.and_false, if_neg Bool.false_ne_true, if_neg capture]

theorem accept_routed (cfg : Settings) (conn : Conn) (req : CoreRequest) :
    Routed cfg req conn (conn.accept cfg req) := by
  unfold Conn.accept
  split
  · exact Routed.goto conn (Routes.sending rfl)
  · split
    · rename_i named
      exact Routed.goto conn (Routes.session named)
    · exact route_routed cfg conn req

/-- What a request text leads to: the request is routed, or it does not parse and an
error is sent. -/
theorem onRequest_cases (stod : Json.Stod) (cfg : Settings) (conn : Conn) (text : Bytes) :
    (∃ req, parseRequestJson stod text = .ok req ∧
      conn.onRequest stod cfg text = conn.refresh.accept cfg req ∧
      Routed cfg req conn.refresh (conn.onRequest stod cfg text)) ∨
    ∃ what, conn.onRequest stod cfg text =
      conn.refresh.goto (.sending none (caught conn.transport {} what)) := by
  unfold Conn.onRequest
  cases parsed : parseRequestJson stod text with
  | ok req => exact Or.inl ⟨req, rfl, rfl, accept_routed cfg conn.refresh req⟩
  | error what => exact Or.inr ⟨what, rfl⟩

/-- The engine's answer is stored as a poll or sent. -/
theorem afterCore_cases (conn : Conn) (req : CoreRequest) (snap : Snapshot)
    (old : Option Snapshot) (resp : CoreResponse) :
    (req.method = ascii "events.poll" ∧ resp.ok = true ∧
      conn.afterCore req snap old resp = conn.goto (.polled req snap old resp)) ∨
    conn.afterCore req snap old resp = conn.send req resp := by
  unfold Conn.afterCore
  split
  · rename_i poll
    exact Or.inl ⟨poll.1, poll.2, rfl⟩
  · exact Or.inr rfl

theorem leave_cases (conn : Conn) :
    (conn.transport = .pipe ∧ conn.pinnedSid = [] ∧ conn.leave = conn.goto .closing) ∨
    (conn.transport = .pipe ∧ conn.pinnedSid ≠ [] ∧ conn.leave = conn.goto .leaving) ∨
    (conn.transport = .tcp ∧ conn.leave = conn.goto .closed) := by
  unfold Conn.leave
  cases conn.transport with
  | pipe =>
      by_cases clear : conn.pinnedSid = []
      · exact Or.inl ⟨rfl, clear, by simp [clear]⟩
      · exact Or.inr (Or.inl ⟨rfl, clear, by simp [clear]⟩)
  | tcp => exact Or.inr (Or.inr ⟨rfl, rfl⟩)

/-- Leaving the request loop changes the phase only. -/
theorem leave_goto (conn : Conn) : ∃ next, conn.leave = conn.goto next := by
  rcases leave_cases conn with ⟨_, _, left⟩ | ⟨_, _, left⟩ | ⟨_, left⟩ <;> exact ⟨_, left⟩

/-- What follows the engine's answer changes the phase only. -/
theorem afterCore_goto (conn : Conn) (req : CoreRequest) (snap : Snapshot)
    (old : Option Snapshot) (resp : CoreResponse) :
    ∃ next, conn.afterCore req snap old resp = conn.goto next := by
  rcases afterCore_cases conn req snap old resp with ⟨_, _, polled⟩ | sent
  · exact ⟨_, polled⟩
  · exact ⟨_, sent⟩

theorem afterSend_cases (conn : Conn) :
    (conn.pinnedSid = [] ∧ conn.afterSend = conn.goto .reading) ∨
    (conn.pinnedSid ≠ [] ∧ conn.afterSend = conn.goto .unpinning) := by
  unfold Conn.afterSend
  by_cases clear : conn.pinnedSid = []
  · exact Or.inl ⟨clear, by rw [if_pos clear]⟩
  · exact Or.inr ⟨clear, by rw [if_neg clear]⟩

/-- Writing a response changes at most the crypto session. -/
theorem write_eq (bcrypt : Crypto.BCrypt) (conn : Conn) (text : Bytes) :
    ∃ crypto, (conn.write bcrypt text).2 = { conn with crypto := crypto } := by
  unfold Conn.write
  split
  · exact ⟨_, rfl⟩
  · exact ⟨conn.crypto, rfl⟩

/-- A session that is still subscribed after the top of the loop is the old one. -/
theorem refresh_session {conn : Conn} (subscribed : conn.refresh.session.subscribed = true) :
    conn.refresh.session = conn.session := by
  unfold Conn.refresh at subscribed ⊢
  cases transport : conn.transport with
  | pipe => rfl
  | tcp =>
      rw [transport] at subscribed
      cases subscribed

@[simp]
theorem refresh_pinnedSid (conn : Conn) : conn.refresh.pinnedSid = [] := by
  unfold Conn.refresh
  split <;> rfl

@[simp]
theorem refresh_transport (conn : Conn) : conn.refresh.transport = conn.transport := by
  unfold Conn.refresh
  split <;> rfl

@[simp]
theorem refresh_crypto (conn : Conn) : conn.refresh.crypto = conn.crypto := by
  unfold Conn.refresh
  split <;> rfl

/-! ## Turns -/

/-- The phases that capture a snapshot: the response an exception is caught with, the
request, and the phase that follows. -/
inductive Captures : Phase → CoreResponse → CoreRequest → (Snapshot → Phase) → Prop
  | subscribing (req : CoreRequest) :
      Captures (.subscribing req) { id := req.id } req (.subscribed req)
  | capturing (req : CoreRequest) :
      Captures (.capturing req) { id := req.id } req (.captured req)
  | finding (req : CoreRequest) (unnamed : getStr req.params "snapshot_id" = none) :
      Captures (.finding req) { id := req.id } req (.findingOld req)
  | polled (req : CoreRequest) (snap : Snapshot) (old : Option Snapshot) (resp : CoreResponse) :
      Captures (.polled req snap old resp) resp req (.storing req snap old resp)

/-- The snapshot to compare with. -/
def oldSnapshot (g : Shared σ) (conn : Conn) (req : CoreRequest) : Option Snapshot :=
  (oldSid conn req).bind fun osid => g.st.snaps.lookup osid

/-- The turns of a connection. -/
inductive Turn (p : Platform σ) (cfg : Settings) (g : Shared σ) (conn : Conn) :
    Input → Shared σ → Conn → Prop
  | startPipe {keyPair nonce} (phase : conn.phase = .starting) (pipe : conn.transport = .pipe) :
      Turn p cfg g conn (.start keyPair nonce)
        (g.withSt { g.st with activeConnections := g.st.activeConnections + 1 })
        { conn with
          session := { authenticated := !cfg.requireAuth && cfg.authKeysData.isEmpty }
          phase := .reading }
  | startTcp {keyPair nonce} (phase : conn.phase = .starting) (tcp : conn.transport = .tcp) :
      Turn p cfg g conn (.start keyPair nonce) g
        { conn with
          crypto := (conn.crypto.generateLocalKey p.bcrypt keyPair).2
          challenge := nonce
          phase := if cfg.authKeysData = [] then .reading else .handshake }
  | hangUp (phase : conn.phase = .starting ∨ conn.phase = .handshake) :
      Turn p cfg g conn .hangUp g (conn.goto .closed)
  | answered {payload crypto} (phase : conn.phase = .handshake)
      (checked : payload.bind
        (checkAnswer p.stod p.bcrypt cfg.authKeysData conn.challenge conn.crypto) = some crypto) :
      Turn p cfg g conn (.frame payload) g { conn with crypto := crypto, phase := .reading }
  | refused {payload} (phase : conn.phase = .handshake)
      (checked : payload.bind
        (checkAnswer p.stod p.bcrypt cfg.authKeysData conn.challenge conn.crypto) = none) :
      Turn p cfg g conn (.frame payload) g (conn.goto .closed)
  | request {payload text} (phase : conn.phase = .reading)
      (read : payload.bind (conn.textOf p.bcrypt) = some text) :
      Turn p cfg g conn (.frame payload) g (conn.onRequest p.stod cfg text)
  | hungUp {payload} (phase : conn.phase = .reading)
      (read : payload.bind (conn.textOf p.bcrypt) = none) :
      Turn p cfg g conn (.frame payload) g conn.leave
  | core {timedOut recentLogs pollElapsed durationMs req snap old env done}
      (phase : conn.phase = .calling req snap old)
      (surroundings : env = { adminLogsEnabled := cfg.adminLogs, recentLogs, pollElapsed })
      (ran : done = handle p.backend env durationMs req snap old g.world) :
      Turn p cfg g conn (.core timedOut recentLogs pollElapsed durationMs)
        { g with world := done.2 }
        (conn.afterCore req snap old
          (if timedOut then timeoutResponse conn.transport req else done.1))
  | recovered {req sid ps} (phase : conn.phase = .session req sid) (free : g.muHeld = false)
      (known : g.st.sessions.lookup sid = some ps) :
      Turn p cfg g conn .go
        (g.withSt (g.st.modifySession sid fun ps => { ps with lastActivity := g.now }))
        ({ conn with session := { conn.session with
            id := sid, lastSnapId := ps.lastSnapId, subscribed := ps.subscribed } }.route cfg req)
  | tooMany {req sid} (phase : conn.phase = .session req sid) (free : g.muHeld = false)
      (unknown : g.st.sessions.lookup sid = none)
      (capped : conn.transport = .tcp ∧ cfg.maxSessions ≤ g.st.sessions.keys.card) :
      Turn p cfg g conn .go g
        (conn.send req (errorResponse req "E_TOO_MANY_SESSIONS" "session limit reached"))
  | created {req sid} (phase : conn.phase = .session req sid) (free : g.muHeld = false)
      (unknown : g.st.sessions.lookup sid = none)
      (allowed : ¬ (conn.transport = .tcp ∧ cfg.maxSessions ≤ g.st.sessions.keys.card)) :
      Turn p cfg g conn .go (g.withSt (g.st.openSession sid g.now))
        ({ conn with session := { conn.session with id := sid } }.route cfg req)
  | captureOk {resp req next s w} (phase : Captures conn.phase resp req next)
      (taken : p.backend.apply .captureSnapshot g.world = (.ok s, w)) :
      Turn p cfg g conn .go { g with world := w } (conn.goto (next s))
  | captureFails {resp req next what w} (phase : Captures conn.phase resp req next)
      (taken : p.backend.apply .captureSnapshot g.world = (.error what, w)) :
      Turn p cfg g conn .go { g with world := w }
        (conn.send req (caught conn.transport resp what))
  | subscribed {req base} (phase : conn.phase = .subscribed req base) (free : g.muHeld = false) :
      Turn p cfg g conn .go (subscribe g conn req base).1 (subscribe g conn req base).2
  | unsubscribing {req} (phase : conn.phase = .unsubscribing req) (free : g.muHeld = false) :
      Turn p cfg g conn .go (unsubscribe g conn req).1 (unsubscribe g conn req).2
  | terminating {req} (phase : conn.phase = .terminating req) (free : g.muHeld = false) :
      Turn p cfg g conn .go (terminate cfg g conn req).1 (terminate cfg g conn req).2
  | captured {req s} (phase : conn.phase = .captured req s) (free : g.muHeld = false) :
      Turn p cfg g conn .go { g.withSt (g.st.issue s) with muHeld := true }
        (conn.goto (.evicting req g.st.nextSid))
  | evictRound {req sid} (phase : conn.phase = .evicting req sid)
      (full : cfg.maxSnapshots < g.st.lruOrder.length) :
      Turn p cfg g conn .go (g.withSt g.st.evictOnce) conn
  | evictDone {req sid} (phase : conn.phase = .evicting req sid)
      (fits : ¬ cfg.maxSnapshots < g.st.lruOrder.length) :
      Turn p cfg g conn .go { g with muHeld := false }
        (conn.send req (okResponse req [("snapshot_id", .str sid)]))
  | unknownSnapshot {req sid} (phase : conn.phase = .finding req)
      (named : getStr req.params "snapshot_id" = some sid) (free : g.muHeld = false)
      (unknown : g.st.snaps.lookup sid = none) :
      Turn p cfg g conn .go g (conn.send req (badSnapshotResponse conn.transport req))
  | pinned {req sid snap} (phase : conn.phase = .finding req)
      (named : getStr req.params "snapshot_id" = some sid) (free : g.muHeld = false)
      (stored : g.st.snaps.lookup sid = some snap) :
      Turn p cfg g conn .go
        (g.withSt (match conn.transport with
          | .pipe => (g.st.addPin sid 1).touch sid
          | .tcp => g.st.addPin sid 1))
        ({ conn with pinnedSid := sid }.goto (.findingOld req snap))
  | findingOld {req snap} (phase : conn.phase = .findingOld req snap) :
      Turn p cfg g conn .go g (conn.goto (.calling req snap (oldSnapshot g conn req)))
  | storing {req snap old resp fresh} (phase : conn.phase = .storing req snap old resp fresh)
      (free : g.muHeld = false) :
      Turn p cfg g conn .go (storePoll g conn req resp fresh).1 (storePoll g conn req resp fresh).2
  | sending {req resp} (phase : conn.phase = .sending req resp) :
      Turn p cfg g conn .go g (conn.write p.bcrypt (serializeResponseJson resp)).2.afterSend
  | unpinning (phase : conn.phase = .unpinning) (free : g.muHeld = false) :
      Turn p cfg g conn .go (g.withSt (g.st.addPin conn.pinnedSid (-1))) (conn.goto .reading)
  | leaving (phase : conn.phase = .leaving) (free : g.muHeld = false) :
      Turn p cfg g conn .go (g.withSt (g.st.addPin conn.pinnedSid (-1))) (conn.goto .closing)
  | closing (phase : conn.phase = .closing) :
      Turn p cfg g conn .go
        (g.withSt { g.st with activeConnections := g.st.activeConnections - 1 })
        (conn.goto .closed)

section

variable {p : Platform σ} {cfg : Settings} {g g' : Shared σ} {conn conn' : Conn}

/-- A critical section runs when `mu` is free. -/
theorem Turn.of_locked {body : Shared σ × Conn} {result : Shared σ × Conn}
    (build : g.muHeld = false → Turn p cfg g conn .go body.1 body.2)
    (ran : locked g body = some result) : Turn p cfg g conn .go result.1 result.2 := by
  unfold locked at ran
  split at ran
  · cases ran
  · rename_i free
    cases ran
    exact build (by simpa using free)

theorem Turn.of_capture {resp : CoreResponse} {req : CoreRequest} {next : Snapshot → Phase}
    (phase : Captures conn.phase resp req next) {result : Shared σ × Conn}
    (ran : some (capture p g conn resp req next) = some result) :
    Turn p cfg g conn .go result.1 result.2 := by
  cases ran
  unfold capture
  rcases taken : p.backend.apply .captureSnapshot g.world with ⟨what | s, w⟩
  · exact Turn.captureFails phase taken
  · exact Turn.captureOk phase taken

theorem Turn.of_openSession {req : CoreRequest} {sid : Bytes}
    (phase : conn.phase = .session req sid) (free : g.muHeld = false) :
    Turn p cfg g conn .go (openSession cfg g conn req sid).1
      (openSession cfg g conn req sid).2 := by
  unfold openSession
  cases known : g.st.sessions.lookup sid with
  | some ps => exact Turn.recovered phase free known
  | none =>
      dsimp only
      split
      · rename_i capped
        exact Turn.tooMany phase free known capped
      · rename_i allowed
        exact Turn.created phase free known allowed

theorem Turn.of_evict {req : CoreRequest} {sid : Bytes} (phase : conn.phase = .evicting req sid) :
    Turn p cfg g conn .go (evict cfg g conn req sid).1 (evict cfg g conn req sid).2 := by
  unfold evict
  split
  · rename_i full
    exact Turn.evictRound phase full
  · rename_i fits
    exact Turn.evictDone phase fits

theorem Turn.of_pin {req : CoreRequest} {sid : Bytes} (phase : conn.phase = .finding req)
    (named : getStr req.params "snapshot_id" = some sid) (free : g.muHeld = false) :
    Turn p cfg g conn .go (pin g conn req sid).1 (pin g conn req sid).2 := by
  unfold pin
  cases stored : g.st.snaps.lookup sid with
  | none => exact Turn.unknownSnapshot phase named free stored
  | some snap => exact Turn.pinned phase named free stored

theorem turn_start {keyPair : Option Bytes} {nonce : Bytes}
    (ran : onStart p cfg g conn keyPair nonce = some (g', conn')) :
    Turn p cfg g conn (.start keyPair nonce) g' conn' := by
  unfold onStart at ran
  split at ran
  · rename_i phase pipe
    cases ran
    exact Turn.startPipe phase pipe
  · rename_i phase tcp
    cases ran
    exact Turn.startTcp phase tcp
  · cases ran

theorem turn_hangUp (ran : onHangUp g conn = some (g', conn')) :
    Turn p cfg g conn .hangUp g' conn' := by
  unfold onHangUp at ran
  split at ran
  · rename_i phase _
    cases ran
    exact Turn.hangUp (Or.inl phase)
  · rename_i phase
    cases ran
    exact Turn.hangUp (Or.inr phase)
  · cases ran

theorem turn_frame {payload : Option Bytes}
    (ran : onFrame p cfg g conn payload = some (g', conn')) :
    Turn p cfg g conn (.frame payload) g' conn' := by
  unfold onFrame at ran
  split at ran
  · rename_i phase
    split at ran
    · rename_i checked
      cases ran
      exact Turn.answered phase checked
    · rename_i checked
      cases ran
      exact Turn.refused phase checked
  · rename_i phase
    split at ran
    · rename_i read
      cases ran
      exact Turn.request phase read
    · rename_i read
      cases ran
      exact Turn.hungUp phase read
  · cases ran

theorem turn_core {timedOut : Bool} {recentLogs : List LogMessage} {pollElapsed durationMs : Int}
    (ran : onCore p cfg g conn timedOut recentLogs pollElapsed durationMs = some (g', conn')) :
    Turn p cfg g conn (.core timedOut recentLogs pollElapsed durationMs) g' conn' := by
  unfold onCore at ran
  split at ran
  · rename_i phase
    cases ran
    exact Turn.core phase rfl rfl
  · cases ran

theorem turn_go (ran : onGo p cfg g conn = some (g', conn')) :
    Turn p cfg g conn .go g' conn' := by
  unfold onGo at ran
  cases phase : conn.phase <;> rw [phase] at ran <;> dsimp only at ran
  case starting | handshake | reading | calling | closed => cases ran
  case session req sid => exact Turn.of_locked (Turn.of_openSession phase) ran
  case subscribing req => exact Turn.of_capture (phase ▸ Captures.subscribing req) ran
  case subscribed req base => exact Turn.of_locked (Turn.subscribed phase) ran
  case unsubscribing req => exact Turn.of_locked (Turn.unsubscribing phase) ran
  case terminating req => exact Turn.of_locked (Turn.terminating phase) ran
  case capturing req => exact Turn.of_capture (phase ▸ Captures.capturing req) ran
  case captured req s => exact Turn.of_locked (Turn.captured phase) ran
  case evicting req sid =>
    obtain ⟨rfl, rfl⟩ := Prod.mk.inj (Option.some.inj ran)
    exact Turn.of_evict phase
  case finding req =>
    split at ran
    · rename_i named
      exact Turn.of_locked (Turn.of_pin phase named) ran
    · rename_i unnamed
      exact Turn.of_capture (phase ▸ Captures.finding req unnamed) ran
  case findingOld req snap =>
    have found : Turn p cfg g conn .go g _ := Turn.findingOld phase
    unfold oldSnapshot at found
    split at ran
    · rename_i named
      rw [named, Option.bind_some] at found
      exact Turn.of_locked (fun _ => found) ran
    · rename_i unnamed
      rw [unnamed, Option.bind_none] at found
      cases ran
      exact found
  case polled req snap old resp =>
    exact Turn.of_capture (phase ▸ Captures.polled req snap old resp) ran
  case storing req snap old resp fresh => exact Turn.of_locked (Turn.storing phase) ran
  case sending req resp =>
    cases ran
    exact Turn.sending phase
  case unpinning => exact Turn.of_locked (Turn.unpinning phase) ran
  case leaving => exact Turn.of_locked (Turn.leaving phase) ran
  case closing =>
    cases ran
    exact Turn.closing phase

/-- Every turn is one of the listed ones. -/
theorem turn_cases {input : Input} (ran : turn p cfg g conn input = some (g', conn')) :
    Turn p cfg g conn input g' conn' := by
  cases input with
  | start keyPair nonce => exact turn_start ran
  | hangUp => exact turn_hangUp ran
  | frame payload => exact turn_frame ran
  | core timedOut recentLogs pollElapsed durationMs => exact turn_core ran
  | go => exact turn_go ran

section

variable {input : Input} {req : CoreRequest}

/-- The turn of a request with a `session_id`. -/
theorem turn_session {sid : Bytes} (phase : conn.phase = .session req sid)
    (ran : turn p cfg g conn input = some (g', conn')) :
    (g', conn') = openSession cfg g conn req sid := by
  cases input <;> simp [turn, onStart, onHangUp, onFrame, onCore, onGo, phase, locked] at ran
  exact ran.2.symm

/-- The turn that ends the subscription of a session. -/
theorem turn_unsubscribing (phase : conn.phase = .unsubscribing req)
    (ran : turn p cfg g conn input = some (g', conn')) :
    (g', conn') = unsubscribe g conn req := by
  cases input <;> simp [turn, onStart, onHangUp, onFrame, onCore, onGo, phase, locked] at ran
  exact ran.2.symm

/-- The turn that terminates a session. -/
theorem turn_terminating (phase : conn.phase = .terminating req)
    (ran : turn p cfg g conn input = some (g', conn')) :
    (g', conn') = terminate cfg g conn req := by
  cases input <;> simp [turn, onStart, onHangUp, onFrame, onCore, onGo, phase, locked] at ran
  exact ran.2.symm

/-- The turn in the eviction loop. -/
theorem turn_evicting {sid : Bytes} (phase : conn.phase = .evicting req sid)
    (ran : turn p cfg g conn input = some (g', conn')) :
    (g', conn') = evict cfg g conn req sid := by
  cases input <;> simp [turn, onStart, onHangUp, onFrame, onCore, onGo, phase] at ran
  exact ran.symm

/-- The turn that stores the baseline of a subscription. -/
theorem turn_subscribed {base : Snapshot} (phase : conn.phase = .subscribed req base)
    (ran : turn p cfg g conn input = some (g', conn')) :
    (g', conn') = subscribe g conn req base := by
  cases input <;> simp [turn, onStart, onHangUp, onFrame, onCore, onGo, phase, locked] at ran
  exact ran.2.symm

/-- The turn that stores the next baseline of a poll. -/
theorem turn_storing {snap : Snapshot} {old : Option Snapshot} {resp : CoreResponse}
    {fresh : Snapshot} (phase : conn.phase = .storing req snap old resp fresh)
    (ran : turn p cfg g conn input = some (g', conn')) :
    (g', conn') = storePoll g conn req resp fresh := by
  cases input <;> simp [turn, onStart, onHangUp, onFrame, onCore, onGo, phase, locked] at ran
  exact ran.2.symm

/-- The turn that ends a pipe connection. -/
theorem turn_closing (phase : conn.phase = .closing)
    (ran : turn p cfg g conn input = some (g', conn')) :
    input = .go ∧ g' = g.withSt { g.st with activeConnections := g.st.activeConnections - 1 } ∧
      conn' = conn.goto .closed := by
  cases input <;> simp [turn, onStart, onHangUp, onFrame, onCore, onGo, phase] at ran
  exact ⟨rfl, ran.1.symm, ran.2.symm⟩

end

end

/-- A connection keeps its transport. -/
theorem turn_transport {p : Platform σ} {cfg : Settings} {g g' : Shared σ} {conn conn' : Conn}
    {input : Input} (ran : turn p cfg g conn input = some (g', conn')) :
    conn'.transport = conn.transport := by
  cases turn_cases ran with
  | @request payload text phase read =>
      rcases onRequest_cases p.stod cfg conn text with ⟨req, _, _, routed⟩ | ⟨what, error⟩
      · rw [routed.transport, refresh_transport]
      · rw [error]
        exact refresh_transport conn
  | hungUp phase read =>
      obtain ⟨next, left⟩ := leave_goto conn
      rw [left]
      rfl
  | core phase surroundings ranCore =>
      obtain ⟨next, answered⟩ := afterCore_goto conn _ _ _ _
      rw [answered]
      rfl
  | recovered phase free known => exact (route_routed cfg _ _).transport
  | created phase free unknown allowed => exact (route_routed cfg _ _).transport
  | terminating phase free => exact (proceed_routed cfg _ _).transport
  | @sending req resp phase =>
      obtain ⟨crypto, written⟩ := write_eq p.bcrypt conn (serializeResponseJson resp)
      rw [written]
      rfl
  | _ => rfl

/-- A turn takes no time of its own. -/
theorem turn_now {p : Platform σ} {cfg : Settings} {g g' : Shared σ} {conn conn' : Conn}
    {input : Input} (ran : turn p cfg g conn input = some (g', conn')) : g'.now = g.now := by
  cases turn_cases ran <;> rfl

/-! ## The phases before the request loop -/

def Phase.opening : Phase → Bool
  | .starting | .handshake => true
  | _ => false

theorem Routes.opening {cfg : Settings} {req : CoreRequest} {phase : Phase}
    (routes : Routes cfg req phase) : phase.opening = false := by
  cases routes <;> rfl

theorem Captures.opening {phase : Phase} {resp : CoreResponse} {req : CoreRequest}
    {next : Snapshot → Phase} (captures : Captures phase resp req next) (snap : Snapshot) :
    (next snap).opening = false := by
  cases captures <;> rfl

theorem Captures.looping {phase : Phase} {resp : CoreResponse} {req : CoreRequest}
    {next : Snapshot → Phase} (captures : Captures phase resp req next) :
    phase.opening = false := by
  cases captures <;> rfl

/-- The turns before the request loop. -/
theorem opening_cases {p : Platform σ} {cfg : Settings} {g g' : Shared σ} {conn conn' : Conn}
    {input : Input} (opening : conn.phase.opening = true)
    (ran : turn p cfg g conn input = some (g', conn')) :
    (conn.transport = .pipe ∧ conn' = { conn with
      session := { authenticated := !cfg.requireAuth && cfg.authKeysData.isEmpty }
      phase := .reading }) ∨
    (conn.transport = .tcp ∧ ∃ keyPair nonce, conn' = { conn with
      crypto := (conn.crypto.generateLocalKey p.bcrypt keyPair).2
      challenge := nonce
      phase := if cfg.authKeysData = [] then .reading else .handshake }) ∨
    conn' = conn.goto .closed ∨
    ∃ frame crypto, input = .frame (some frame) ∧ conn.phase = .handshake ∧
      checkAnswer p.stod p.bcrypt cfg.authKeysData conn.challenge conn.crypto frame = some crypto ∧
      conn' = { conn with crypto := crypto, phase := .reading } := by
  cases turn_cases ran with
  | startPipe phase pipe => exact Or.inl ⟨pipe, rfl⟩
  | @startTcp keyPair nonce phase tcp => exact Or.inr (Or.inl ⟨tcp, keyPair, nonce, rfl⟩)
  | hangUp phase => exact Or.inr (Or.inr (Or.inl rfl))
  | @answered payload crypto phase checked =>
      obtain ⟨frame, rfl, accepted⟩ := Option.bind_eq_some_iff.mp checked
      exact Or.inr (Or.inr (Or.inr ⟨frame, crypto, rfl, phase, accepted, rfl⟩))
  | refused phase checked => exact Or.inr (Or.inr (Or.inl rfl))
  | captureOk captures _ | captureFails captures _ =>
      rw [captures.looping] at opening
      cases opening
  | core phase _ _ | recovered phase _ _ | tooMany phase _ _ _ | created phase _ _ _
  | subscribed phase _ | unsubscribing phase _ | terminating phase _ | captured phase _
  | evictRound phase _ | evictDone phase _ | unknownSnapshot phase _ _ _ | pinned phase _ _ _
  | findingOld phase | storing phase _ | request phase _ | hungUp phase _ | sending phase
  | unpinning phase _ | leaving phase _ | closing phase =>
      rw [phase] at opening
      cases opening

theorem turn_closed {p : Platform σ} {cfg : Settings} {g : Shared σ} {conn : Conn}
    (closed : conn.phase = .closed) (input : Input) : turn p cfg g conn input = none := by
  cases input <;> simp only [turn, onStart, onHangUp, onFrame, onCore, onGo, closed]

/-- A connection does not return from the request loop, and in the loop only a write
changes its crypto session. -/
theorem turn_looping {p : Platform σ} {cfg : Settings} {g g' : Shared σ} {conn conn' : Conn}
    {input : Input} (looping : conn.phase.opening = false)
    (ran : turn p cfg g conn input = some (g', conn')) :
    conn'.phase.opening = false ∧
      (conn'.crypto = conn.crypto ∨ ∃ req resp, conn.phase = .sending req resp ∧ input = .go ∧
        conn'.crypto = (conn.write p.bcrypt (serializeResponseJson resp)).2.crypto) := by
  cases turn_cases ran with
  | startPipe phase _ | startTcp phase _ | answered phase _ | refused phase _ =>
      rw [phase] at looping
      cases looping
  | hangUp phase =>
      rcases phase with phase | phase <;> rw [phase] at looping <;> cases looping
  | @request payload text phase read =>
      rcases onRequest_cases p.stod cfg conn text with ⟨req, _, _, routed⟩ | ⟨what, error⟩
      · exact ⟨routed.phase.opening, Or.inl (routed.crypto.trans (refresh_crypto conn))⟩
      · rw [error]
        exact ⟨rfl, Or.inl (refresh_crypto conn)⟩
  | hungUp phase read =>
      rcases leave_cases conn with ⟨_, _, left⟩ | ⟨_, _, left⟩ | ⟨_, left⟩ <;> rw [left] <;>
        exact ⟨rfl, Or.inl rfl⟩
  | core phase surroundings ranCore =>
      rcases afterCore_cases conn _ _ _ _ with ⟨_, _, polled⟩ | sent
      · rw [polled]
        exact ⟨rfl, Or.inl rfl⟩
      · rw [sent]
        exact ⟨rfl, Or.inl rfl⟩
  | recovered phase free known =>
      exact ⟨(route_routed cfg _ _).phase.opening, Or.inl (route_routed cfg _ _).crypto⟩
  | created phase free unknown allowed =>
      exact ⟨(route_routed cfg _ _).phase.opening, Or.inl (route_routed cfg _ _).crypto⟩
  | terminating phase free =>
      exact ⟨(proceed_routed cfg _ _).phase.opening, Or.inl (proceed_routed cfg _ _).crypto⟩
  | @sending req resp phase =>
      rcases afterSend_cases (conn.write p.bcrypt (serializeResponseJson resp)).2 with
        ⟨_, next⟩ | ⟨_, next⟩ <;> rw [next] <;> exact ⟨rfl, Or.inr ⟨req, resp, phase, rfl, rfl⟩⟩
  | captureOk captures taken => exact ⟨captures.opening _, Or.inl rfl⟩
  | evictRound phase full => exact ⟨looping, Or.inl rfl⟩
  | _ => exact ⟨rfl, Or.inl rfl⟩

/-! ## Runs -/

theorem accept_st {cfg : Settings} {g g' : Shared σ} {transport : Transport} {conn : Conn}
    (spawned : accept cfg g transport = some (g', conn)) :
    g' = g ∧ conn = { transport := transport } := by
  cases transport with
  | pipe =>
      simp only [accept] at spawned
      split at spawned
      · cases spawned
      · cases spawned
        exact ⟨rfl, rfl⟩
  | tcp =>
      cases spawned
      exact ⟨rfl, rfl⟩

/-- What the environment can do. -/
theorem outside_cases {cfg : Settings} {g g' : Shared σ} {event : Outside σ}
    (moved : outside cfg g event = some g') :
    (∃ w, event = .world w ∧ g' = { g with world := w }) ∨
    (∃ nanoseconds, event = .tick nanoseconds ∧ g' = { g with now := g.now + nanoseconds }) ∨
    (event = .cleanup ∧ g.muHeld = false ∧
      g' = g.withSt (g.st.cleanupSessions cfg.sessionTtlSec g.now)) := by
  cases event with
  | world w =>
      cases moved
      exact Or.inl ⟨w, rfl, rfl⟩
  | tick nanoseconds =>
      cases moved
      exact Or.inr (Or.inl ⟨nanoseconds, rfl, rfl⟩)
  | cleanup =>
      simp only [outside] at moved
      split at moved
      · cases moved
      · rename_i free
        cases moved
        exact Or.inr (Or.inr ⟨rfl, by simpa using free, rfl⟩)

/-- A property of the shared state that every turn and every event keeps holds in every
reached state. -/
theorem shared_of_runs {p : Platform σ} {cfg : Settings}
    {guard : Guard (Shared σ) Conn Input Transport (Outside σ)}
    {source target : Config (Shared σ) Conn} (whole : Shared σ → Prop)
    (run : (daemon p cfg).Runs guard source target) (start : whole source.shared)
    (turned : ∀ ⦃g conn input g' conn'⦄, whole g → guard.turn g conn input →
      turn p cfg g conn input = some (g', conn') → whole g')
    (moved : ∀ ⦃g event g'⦄, whole g → guard.env g event →
      outside cfg g event = some g' → whole g') : whole target.shared := by
  refine run.shared whole start turned ?_ moved
  intro g transport g' conn holds spawned
  rw [(accept_st spawned).1]
  exact holds

/-- The same for a property of the shared state and its auxiliary variable. -/
theorem shared_of_runs_aux {p : Platform σ} {cfg : Settings} {A B : Type}
    {aux : Aux (Shared σ) Conn Input Transport (Outside σ) A B}
    {guard : Guard (Shared σ × A) (Conn × B) Input Transport (Outside σ)}
    {source target : Config (Shared σ × A) (Conn × B)} (whole : Shared σ → A → Prop)
    (run : ((daemon p cfg).withAux aux).Runs guard source target)
    (start : whole source.shared.1 source.shared.2)
    (turned : ∀ ⦃g conn input g' conn' a b⦄, whole g a → guard.turn (g, a) (conn, b) input →
      turn p cfg g conn input = some (g', conn') →
        whole g' (aux.turn g conn input g' conn' a b).1)
    (accepted : ∀ ⦃g a⦄ transport, whole g a →
      whole g (aux.spawn g transport g { transport := transport } a).1)
    (moved : ∀ ⦃g event g' a⦄, whole g a → guard.env (g, a) event →
      outside cfg g event = some g' → whole g' (aux.env g event g' a)) :
    whole target.shared.1 target.shared.2 := by
  refine run.shared (fun g => whole g.1 g.2) start ?_ ?_ ?_
  · intro g conn input g' conn' holds fits ran
    obtain ⟨ran, marks⟩ := System.withAux_turn ran
    rw [(Prod.mk.inj marks).1]
    exact turned holds fits ran
  · intro g transport g' conn holds spawned
    obtain ⟨spawned, marks⟩ := System.withAux_spawn spawned
    obtain ⟨same, new⟩ := accept_st spawned
    rw [(Prod.mk.inj marks).1, same, new]
    exact accepted transport holds
  · intro g event g' holds fits happened
    obtain ⟨happened, marks⟩ := System.withAux_env happened
    rw [marks]
    exact moved holds fits happened

/-- A property of connections that a fresh one has and every turn keeps holds of every
connection in every reached state. -/
theorem forall_conn {p : Platform σ} {cfg : Settings}
    {guard : Guard (Shared σ) Conn Input Transport (Outside σ)} {world : σ}
    {target : Config (Shared σ) Conn} (run : (daemon p cfg).Runs guard (initial world) target)
    {each : Conn → Prop} (fresh : ∀ transport, each { transport := transport })
    (kept : ∀ ⦃g conn input g' conn'⦄, each conn → guard.turn g conn input →
      turn p cfg g conn input = some (g', conn') → each conn') :
    ∀ conn ∈ target.parts, each conn := by
  refine run.each kept ?_ ?_
  · intro g transport g' conn spawned
    obtain ⟨_, rfl⟩ := accept_st spawned
    exact fresh transport
  · intro conn member
    cases member

/-- The same for a property of connections and their auxiliary variables. -/
theorem forall_conn_aux {p : Platform σ} {cfg : Settings} {A B : Type}
    {aux : Aux (Shared σ) Conn Input Transport (Outside σ) A B}
    {guard : Guard (Shared σ) Conn Input Transport (Outside σ)} {world : σ} {start : A}
    {target : Config (Shared σ × A) (Conn × B)}
    (run : ((daemon p cfg).withAux aux).Runs guard.lift ⟨({ world := world }, start), []⟩ target)
    {each : Conn → B → Prop}
    (fresh : ∀ transport g a,
      each { transport := transport } (aux.spawn g transport g { transport := transport } a).2)
    (kept : ∀ ⦃g conn input g' conn' a b⦄, each conn b → guard.turn g conn input →
      turn p cfg g conn input = some (g', conn') →
        each conn' (aux.turn g conn input g' conn' a b).2) :
    ∀ conn ∈ target.parts, each conn.1 conn.2 := by
  refine run.each ?_ ?_ ?_
  · intro g conn input g' conn' holds fits turned
    obtain ⟨ran, marks⟩ := System.withAux_turn turned
    rw [(Prod.mk.inj marks).2]
    exact kept holds fits ran
  · intro g transport g' conn spawned
    obtain ⟨accepted, marks⟩ := System.withAux_spawn spawned
    obtain ⟨same, new⟩ := accept_st accepted
    rw [(Prod.mk.inj marks).2, same, new]
    exact fresh transport g.1 g.2
  · intro conn member
    cases member

end WinInspect.Daemon
