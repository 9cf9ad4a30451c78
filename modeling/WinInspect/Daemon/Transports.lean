import WinInspect.Daemon.Compare
import WinInspect.Daemon.Connections

/-!
# The two transports

`handle_client` and `handle_socket_client` implement one protocol in two copies.  They
differ in the session, which a pipe connection keeps from one request to the next; in the
cap on sessions, which only TCP has; in the LRU order, in which only the pipe moves a
snapshot that is named; in the frames that TCP refuses; and in the exit path of the pipe,
which releases the last pin once more.  In the runs of a pipe connection that meet none of
these, TCP answers the same requests with the same responses and leaves the same state.
-/

namespace WinInspect.Daemon

open Transition (Config System Move Trace Coupling)

variable {σ : Type}

/-! ## The comparison -/

/-- Responses with the same `id`, `ok`, result and error code; one that is not ok has no
result. -/
structure SameResponse (resp₁ resp₂ : CoreResponse) : Prop where
  id : resp₂.id = resp₁.id
  ok : resp₂.ok = resp₁.ok
  result : resp₁.ok = true → resp₂.result = resp₁.result
  errorCode : resp₂.errorCode = resp₁.errorCode

theorem SameResponse.refl (resp : CoreResponse) : SameResponse resp resp :=
  ⟨rfl, rfl, fun _ => rfl, rfl⟩

/-- Equal requests and snapshot ids, and the same responses. -/
def sameAnswers : Likeness where
  request := Eq
  sid := Eq
  response _ := SameResponse

theorem sameAnswers_lawful : sameAnswers.Lawful where
  id := by
    rintro req _ rfl
    rfl
  method := by
    rintro req _ rfl
    rfl
  session := by
    rintro req _ rfl
    rfl
  unnamed := by
    rintro req _ rfl unnamed
    exact unnamed
  refl _ := SameResponse.refl
  ok _ _ _ same := same.ok

/-- A poll without `old_snapshot_id`, which compares with the baseline of the session. -/
def looksBack (req : CoreRequest) : Prop :=
  req.method = ascii "events.poll" ∧ getStr req.params "old_snapshot_id" = none

/-- The condition on a turn of a pipe connection. -/
structure Uniform (p : Platform σ) (cfg : Settings) (g : Shared σ) (conn : Conn) (input : Input) :
    Prop where
  /-- A frame has a length that TCP accepts. -/
  framed : ∀ frame, conn.phase = .reading → input = .frame (some frame) →
    frame.length ≠ 0 ∧ frame.length ≤ Crypto.maxFrame
  /-- A request without `session_id` does not use the session of an earlier one. -/
  own : ∀ frame req, conn.phase = .reading → input = .frame (some frame) →
    parseRequestJson p.stod frame = .ok req → getStr req.params "session_id" = none →
    (usesSession req.method = true → conn.session.id = []) ∧
      (looksBack req → conn.session.lastSnapId = [])
  /-- A new session is below the cap, and a poll for it finds no earlier baseline. -/
  created : ∀ req sid, conn.phase = .session req sid → g.st.sessions.lookup sid = none →
    g.st.sessions.keys.card < cfg.maxSessions ∧ (looksBack req → conn.session.lastSnapId = [])
  /-- A snapshot that is named is the newest of the LRU order. -/
  newest : ∀ req sid, conn.phase = .finding req → getStr req.params "snapshot_id" = some sid →
    sid ∈ g.st.snaps → (g.st.touch sid).lruOrder = g.st.lruOrder
  /-- The client does not leave right after a request that named a snapshot. -/
  released : conn.phase = .reading → input = .frame none → conn.pinnedSid = []

/-! ## Twins -/

/-- The same state but for `active_connections`. -/
def Shared.withActive (g : Shared σ) (active : Int) : Shared σ :=
  g.withSt { g.st with activeConnections := active }

/-- Sessions that agree where a request uses them. -/
structure AgreeFor (req : CoreRequest) (session₁ session₂ : ClientSession) : Prop where
  id : usesSession req.method = true → session₂.id = session₁.id
  lastSnapId : looksBack req → session₂.lastSnapId = session₁.lastSnapId

/-- A pipe connection without authentication and a TCP connection without encryption, with
the same pin. -/
structure Mates (conn₁ conn₂ : Conn) : Prop where
  pipe : conn₁.transport = .pipe
  tcp : conn₂.transport = .tcp
  trusted : conn₁.session.authenticated = true
  plain : conn₂.crypto.isInitialized = false
  pinned : conn₂.pinnedSid = conn₁.pinnedSid

/-- The connection is going to use the id of its session. -/
def Phase.usesId : Phase → Bool
  | .subscribing _ | .subscribed _ _ | .unsubscribing _ | .terminating _ | .polled _ _ _ _
  | .storing _ _ _ _ _ => true
  | .finding req | .findingOld req _ | .calling req _ _ => req.method == ascii "events.poll"
  | _ => false

/-- The connection is going to use the baseline of its session. -/
def Phase.usesBaseline : Phase → Prop
  | .terminating req | .finding req | .findingOld req _ => looksBack req
  | _ => False

/-- Mates at the same place of their request loops, with sessions that agree where they
are still used. -/
structure Twins (conn₁ conn₂ : Conn) : Prop extends Mates conn₁ conn₂ where
  looping : conn₁.phase.looping = true
  phase : Phase.Alike sameAnswers conn₁.phase conn₂.phase
  id : conn₁.phase.usesId = true → conn₂.session.id = conn₁.session.id
  baseline : conn₁.phase.usesBaseline → conn₂.session.lastSnapId = conn₁.session.lastSnapId
  entering : ∀ req sid, conn₁.phase = .session req sid → conn₂.session = {}

/-- A pipe and a TCP connection in corresponding states. -/
inductive Paired : Conn → Conn → Prop
  | fresh : Paired { transport := .pipe } { transport := .tcp }
  | serving {conn₁ conn₂ : Conn} (twins : Twins conn₁ conn₂) : Paired conn₁ conn₂
  | ended {conn₁ conn₂ : Conn} (left : conn₁.phase = .closing ∨ conn₁.phase = .closed)
      (closed : conn₂.phase = .closed) : Paired conn₁ conn₂

theorem Mates.goto {conn₁ conn₂ : Conn} (mates : Mates conn₁ conn₂) (phase₁ phase₂ : Phase) :
    Mates (conn₁.goto phase₁) (conn₂.goto phase₂) :=
  ⟨mates.pipe, mates.tcp, mates.trusted, mates.plain, mates.pinned⟩

/-- Twins whose request is done with its session. -/
theorem Mates.sending {conn₁ conn₂ : Conn} (mates : Mates conn₁ conn₂)
    {req₁ req₂ : Option CoreRequest} {resp₁ resp₂ : CoreResponse}
    (same : SameResponse resp₁ resp₂) :
    Twins (conn₁.goto (.sending req₁ resp₁)) (conn₂.goto (.sending req₂ resp₂)) where
  toMates := mates.goto _ _
  looping := rfl
  phase := .sending same
  id := nofun
  baseline := nofun
  entering := nofun

theorem AgreeFor.routed {req : CoreRequest} {session₁ session₂ : ClientSession}
    (agree : AgreeFor req session₁ session₂) :
    AgreeFor req (session₁.routed req.method) (session₂.routed req.method) := by
  unfold ClientSession.routed
  split
  · exact ⟨agree.id, fun _ => rfl⟩
  · exact agree

theorem Routes.uses {cfg : Settings} {req : CoreRequest} {phase : Phase}
    (routes : Routes cfg req phase) :
    (phase.usesId = true → usesSession req.method = true) ∧
      (phase.usesBaseline → looksBack req) := by
  cases routes with
  | subscribing method | unsubscribing method =>
      exact ⟨fun _ => by simp [usesSession, method], False.elim⟩
  | terminating method => exact ⟨fun _ => by simp [usesSession, method], fun back => back⟩
  | finding => exact ⟨fun poll => by simp_all [usesSession, Phase.usesId], fun back => back⟩
  | _ => exact ⟨fun uses => absurd uses Bool.false_ne_true, False.elim⟩

section

variable {cfg : Settings} {conn₁ conn₂ : Conn} {req : CoreRequest}

theorem Mates.routed {conn₁' conn₂' : Conn} (mates : Mates conn₁ conn₂)
    (routed₁ : Routed cfg req conn₁ conn₁') (routed₂ : Routed cfg req conn₂ conn₂') :
    Mates conn₁' conn₂' where
  pipe := routed₁.transport.trans mates.pipe
  tcp := routed₂.transport.trans mates.tcp
  trusted := routed₁.authenticated.trans mates.trusted
  plain := routed₂.crypto ▸ mates.plain
  pinned := by rw [routed₁.pinnedSid, routed₂.pinnedSid, mates.pinned]

theorem Mates.route (mates : Mates conn₁ conn₂)
    (agree : AgreeFor req conn₁.session conn₂.session) :
    Twins (conn₁.route cfg req) (conn₂.route cfg req) where
  toMates := mates.routed (route_routed cfg conn₁ req) (route_routed cfg conn₂ req)
  looping := (route_routed cfg conn₁ req).phase.looping
  phase := route_alike sameAnswers_lawful rfl agree.id
  id uses := by
    rw [route_session, route_session]
    exact agree.routed.id ((route_routed cfg conn₁ req).phase.uses.1 uses)
  baseline uses := by
    rw [route_session, route_session]
    exact agree.routed.lastSnapId ((route_routed cfg conn₁ req).phase.uses.2 uses)
  entering other sid entered := absurd entered (route_ne_session cfg conn₁ req other sid)

theorem Mates.proceed (mates : Mates conn₁ conn₂)
    (agree : AgreeFor req conn₁.session conn₂.session) :
    Twins (conn₁.proceed cfg req) (conn₂.proceed cfg req) where
  toMates := mates.routed (proceed_routed cfg conn₁ req) (proceed_routed cfg conn₂ req)
  looping := (proceed_routed cfg conn₁ req).phase.looping
  phase := proceed_alike sameAnswers_lawful rfl conn₁ conn₂
  id uses := by
    rw [proceed_session, proceed_session]
    exact agree.id ((proceed_routed cfg conn₁ req).phase.uses.1 uses)
  baseline uses := by
    rw [proceed_session, proceed_session]
    exact agree.lastSnapId ((proceed_routed cfg conn₁ req).phase.uses.2 uses)
  entering other sid entered := absurd entered (proceed_ne_session cfg conn₁ req other sid)

theorem Mates.refresh (mates : Mates conn₁ conn₂) : Mates conn₁.refresh conn₂.refresh where
  pipe := (refresh_transport conn₁).trans mates.pipe
  tcp := (refresh_transport conn₂).trans mates.tcp
  trusted := by
    simp only [Conn.refresh, mates.pipe]
    exact mates.trusted
  plain := by
    rw [refresh_crypto]
    exact mates.plain
  pinned := by rw [refresh_pinnedSid, refresh_pinnedSid]

theorem sameResponse_caught (transport₁ transport₂ : Transport) {resp₁ resp₂ : CoreResponse}
    (same : resp₂.id = resp₁.id) (what : Bytes) :
    SameResponse (caught transport₁ resp₁ what) (caught transport₂ resp₂ what) where
  id := by
    cases transport₁ <;> cases transport₂ <;> exact same
  ok := by cases transport₁ <;> cases transport₂ <;> rfl
  result ok := by cases transport₁ <;> cases ok
  errorCode := by cases transport₁ <;> cases transport₂ <;> rfl

/-- A frame that both transports accept. -/
theorem Mates.onRequest (mates : Mates conn₁ conn₂) {p : Platform σ} {frame : Bytes}
    (own : ∀ req, parseRequestJson p.stod frame = .ok req → getStr req.params "session_id" = none →
      (usesSession req.method = true → conn₁.session.id = []) ∧
        (looksBack req → conn₁.session.lastSnapId = [])) :
    Twins (conn₁.onRequest p.stod cfg frame) (conn₂.onRequest p.stod cfg frame) := by
  have blank : conn₂.refresh.session = {} := by simp only [Conn.refresh, mates.tcp]
  have kept : conn₁.refresh.session = conn₁.session := by simp only [Conn.refresh, mates.pipe]
  unfold Conn.onRequest
  cases parsed : parseRequestJson p.stod frame with
  | error what => exact mates.refresh.sending (sameResponse_caught _ _ rfl what)
  | ok req =>
      have trusted : ¬ (conn₁.refresh.transport = .pipe ∧
          conn₁.refresh.session.authenticated = false ∧ req.method ≠ ascii "hello") := by
        simp [mates.refresh.trusted]
      have tcp : ¬ (conn₂.refresh.transport = .pipe ∧
          conn₂.refresh.session.authenticated = false ∧ req.method ≠ ascii "hello") := by
        simp [mates.tcp]
      simp only [Conn.accept, if_neg trusted, if_neg tcp]
      cases named : getStr req.params "session_id" with
      | some sid =>
          exact {
            toMates := mates.refresh.goto _ _
            looping := rfl
            phase := .session rfl sid
            id := nofun
            baseline := nofun
            entering := fun _ _ _ => blank }
      | none =>
          have uses := own req parsed named
          refine mates.refresh.route ⟨fun used => ?_, fun back => ?_⟩
          · rw [blank, kept, uses.1 used]
          · rw [blank, kept, uses.2 back]

end

/-! ## Turns -/

section

variable {p : Platform σ} {cfg : Settings} {g g' : Shared σ} {conn₁ conn₁' conn₂ : Conn}
  {input : Input} {req : CoreRequest}

/-- The TCP connection makes the corresponding turn. -/
def Follows (p : Platform σ) (cfg : Settings) (g : Shared σ) (conn₂ : Conn) (input : Input)
    (g' : Shared σ) (conn₁' : Conn) : Prop :=
  ∀ active, ∃ conn₂', turn p cfg (g.withActive active) conn₂ input =
    some (g'.withActive active, conn₂') ∧ Paired conn₁' conn₂'

theorem Twins.openSession (twins : Twins conn₁ conn₂) {sid : Bytes}
    (phase : conn₁.phase = .session req sid) (free : g.muHeld = false)
    (created : g.st.sessions.lookup sid = none → g.st.sessions.keys.card < cfg.maxSessions ∧
      (looksBack req → conn₁.session.lastSnapId = [])) :
    Follows p cfg g conn₂ .go (openSession cfg g conn₁ req sid).1
      (openSession cfg g conn₁ req sid).2 := by
  intro active
  have alike := twins.phase
  rw [phase] at alike
  generalize phase₂ : conn₂.phase = place at alike
  cases alike with
  | session same =>
      cases same
      have turned : turn p cfg (g.withActive active) conn₂ .go =
          some (WinInspect.Daemon.openSession cfg (g.withActive active) conn₂ req sid) := by
        simp only [turn, onGo, phase₂]
        exact locked_of_free free _
      rw [turned]
      unfold WinInspect.Daemon.openSession
      have blank := twins.entering req sid phase
      cases known : g.st.sessions.lookup sid with
      | some ps =>
          have known₂ : (g.withActive active).st.sessions.lookup sid = some ps := known
          rw [known₂]
          refine ⟨_, rfl, .serving (Mates.route ?_ ⟨fun _ => rfl, fun _ => rfl⟩)⟩
          exact ⟨twins.pipe, twins.tcp, twins.trusted, twins.plain, twins.pinned⟩
      | none =>
          have known₂ : (g.withActive active).st.sessions.lookup sid = none := known
          obtain ⟨room, fresh⟩ := created known
          rw [known₂]
          dsimp only
          rw [if_neg (fun capped => absurd capped.2 (Nat.not_le_of_lt room)),
            if_neg (fun capped => absurd capped.2 (Nat.not_le_of_lt room))]
          refine ⟨_, rfl, .serving (Mates.route ?_ ⟨fun _ => rfl, fun back => ?_⟩)⟩
          · exact ⟨twins.pipe, twins.tcp, twins.trusted, twins.plain, twins.pinned⟩
          · change conn₂.session.lastSnapId = conn₁.session.lastSnapId
            rw [blank, fresh back]

/-- Twins that go on to a phase without a session of its own. -/
theorem Mates.at (mates : Mates conn₁ conn₂) {phase₁ phase₂ : Phase}
    (alike : Phase.Alike sameAnswers phase₁ phase₂) (looping : phase₁.looping = true)
    (id : phase₁.usesId = true → conn₂.session.id = conn₁.session.id)
    (baseline : phase₁.usesBaseline → conn₂.session.lastSnapId = conn₁.session.lastSnapId)
    (entered : ∀ req sid, phase₁ ≠ .session req sid) :
    Twins (conn₁.goto phase₁) (conn₂.goto phase₂) where
  toMates := mates.goto _ _
  looping := looping
  phase := alike
  id := id
  baseline := baseline
  entering req sid same := absurd same (entered req sid)

theorem Mates.reading (mates : Mates conn₁ conn₂) :
    Twins (conn₁.goto .reading) (conn₂.goto .reading) :=
  mates.at .reading rfl nofun nofun nofun

theorem Mates.unpinning (mates : Mates conn₁ conn₂) :
    Twins (conn₁.goto .unpinning) (conn₂.goto .unpinning) :=
  mates.at .unpinning rfl nofun nofun nofun

theorem Mates.evicting (mates : Mates conn₁ conn₂) {req : CoreRequest} {sid : Bytes} :
    Twins (conn₁.goto (.evicting req sid)) (conn₂.goto (.evicting req sid)) :=
  mates.at (.evicting rfl rfl) rfl nofun nofun nofun

theorem Mates.findingOld (mates : Mates conn₁ conn₂) {req : CoreRequest} {snap : Snapshot}
    (id : (Phase.findingOld req snap).usesId = true → conn₂.session.id = conn₁.session.id)
    (baseline : (Phase.findingOld req snap).usesBaseline →
      conn₂.session.lastSnapId = conn₁.session.lastSnapId) :
    Twins (conn₁.goto (.findingOld req snap)) (conn₂.goto (.findingOld req snap)) :=
  mates.at (.findingOld rfl snap) rfl id baseline nofun

theorem Mates.calling (mates : Mates conn₁ conn₂) {req : CoreRequest} {snap : Snapshot}
    {old : Option Snapshot}
    (id : (Phase.calling req snap old).usesId = true → conn₂.session.id = conn₁.session.id) :
    Twins (conn₁.goto (.calling req snap old)) (conn₂.goto (.calling req snap old)) :=
  mates.at (.calling rfl snap old) rfl id nofun nofun

theorem Mates.afterCore (mates : Mates conn₁ conn₂) {resp₁ resp₂ : CoreResponse}
    (same : SameResponse resp₁ resp₂)
    (id : req.method = ascii "events.poll" → conn₂.session.id = conn₁.session.id)
    {snap : Snapshot} {old : Option Snapshot} :
    Twins (conn₁.afterCore req snap old resp₁) (conn₂.afterCore req snap old resp₂) := by
  unfold Conn.afterCore
  rw [same.ok]
  split
  · rename_i polls
    exact mates.at (.polled rfl snap old same) rfl (fun _ => id polls.1) nofun nofun
  · exact mates.sending same

theorem Captures.uses {phase : Phase} {resp : CoreResponse} {next : Snapshot → Phase}
    (captures : Captures phase resp req next) (s : Snapshot) :
    ((next s).usesId = true → phase.usesId = true) ∧
      ((next s).usesBaseline → phase.usesBaseline) ∧
      (∀ other sid, next s ≠ .session other sid) := by
  cases captures with
  | finding => exact ⟨fun uses => uses, fun uses => uses, nofun⟩
  | capturing => exact ⟨nofun, nofun, nofun⟩
  | _ => exact ⟨fun _ => rfl, nofun, nofun⟩

theorem Twins.captureOk (twins : Twins conn₁ conn₂) {resp : CoreResponse}
    {next : Snapshot → Phase} (captures : Captures conn₁.phase resp req next) {s : Snapshot} {w : σ}
    (taken : p.backend.apply .captureSnapshot g.world = (.ok s, w)) :
    Follows p cfg g conn₂ .go { g with world := w } (conn₁.goto (next s)) := by
  intro active
  obtain ⟨resp₂, req₂, next₂, captures₂, same, answer, alike⟩ :=
    captures.alike sameAnswers_lawful twins.phase
  obtain ⟨id, baseline, entered⟩ := captures.uses s
  refine ⟨conn₂.goto (next₂ s), ?_, .serving (twins.toMates.at (alike s) (captures.loops s).2
    (fun uses => twins.id (id uses)) (fun uses => twins.baseline (baseline uses)) entered)⟩
  rw [turn_of_captures captures₂, capture_ok (g := g.withActive active) taken]
  rfl

theorem Twins.captureFails (twins : Twins conn₁ conn₂) {resp : CoreResponse}
    {next : Snapshot → Phase} (captures : Captures conn₁.phase resp req next) {what : Bytes} {w : σ}
    (taken : p.backend.apply .captureSnapshot g.world = (.error what, w)) :
    Follows p cfg g conn₂ .go { g with world := w }
      (conn₁.send req (caught conn₁.transport resp what)) := by
  intro active
  obtain ⟨resp₂, req₂, next₂, captures₂, same, answer, _⟩ :=
    captures.alike sameAnswers_lawful twins.phase
  refine ⟨conn₂.send req₂ (caught conn₂.transport resp₂ what), ?_, .serving
    (twins.toMates.sending (sameResponse_caught _ _ answer.id what))⟩
  rw [turn_of_captures captures₂, capture_error (g := g.withActive active) taken]
  rfl

/-! ### The state -/

theorem subscribe_withActive (same : conn₂.session.id = conn₁.session.id) (base : Snapshot)
    (active : Int) :
    (subscribe (g.withActive active) conn₂ req base).1 =
      (subscribe g conn₁ req base).1.withActive active := by
  unfold subscribe
  rw [same]
  dsimp only
  split <;> rfl

theorem unsubscribe_withActive (same : conn₂.session.id = conn₁.session.id) (active : Int) :
    (unsubscribe (g.withActive active) conn₂ req).1 =
      (unsubscribe g conn₁ req).1.withActive active := by
  unfold unsubscribe
  rw [same]
  by_cases known : conn₁.session.id ∈ g.st.sessions
  · have known₂ : conn₁.session.id ∈ (g.withActive active).st.sessions := known
    rw [if_pos known, if_pos known₂]
    rfl
  · have known₂ : conn₁.session.id ∉ (g.withActive active).st.sessions := known
    rw [if_neg known, if_neg known₂]
    rfl

theorem storePoll_withActive (same : conn₂.session.id = conn₁.session.id)
    (resp₁ resp₂ : CoreResponse) (fresh : Snapshot) (active : Int) :
    (storePoll (g.withActive active) conn₂ req resp₂ fresh).1 =
      (storePoll g conn₁ req resp₁ fresh).1.withActive active := by
  unfold storePoll
  rw [same]
  dsimp only
  split <;> rfl

theorem evictOnce_withActive (active : Int) :
    (g.withActive active).withSt (g.withActive active).st.evictOnce =
      (g.withSt g.st.evictOnce).withActive active := by
  unfold ServerState.evictOnce
  cases order : g.st.lruOrder with
  | nil =>
      have order₂ : (g.withActive active).st.lruOrder = [] := order
      rw [order₂]
      rfl
  | cons oldest rest =>
      have order₂ : (g.withActive active).st.lruOrder = oldest :: rest := order
      rw [order₂]
      dsimp only
      by_cases pinned : 0 < g.st.pinCount oldest
      · have pinned₂ : 0 < (g.withActive active).st.pinCount oldest := pinned
        rw [if_pos pinned, if_pos pinned₂]
        rfl
      · have pinned₂ : ¬ 0 < (g.withActive active).st.pinCount oldest := pinned
        rw [if_neg pinned, if_neg pinned₂]
        rfl

/-- Moving the newest snapshot changes nothing. -/
theorem touch_addPin {st : ServerState} {sid : Bytes}
    (newest : (st.touch sid).lruOrder = st.lruOrder) (amount : Int) :
    (st.addPin sid amount).touch sid = st.addPin sid amount := by
  unfold ServerState.touch at newest ⊢
  unfold ServerState.addPin
  dsimp only at newest ⊢
  rw [newest]

theorem oldSid_congr
    (same : looksBack req → conn₂.session.lastSnapId = conn₁.session.lastSnapId) :
    oldSid conn₂ req = oldSid conn₁ req := by
  unfold oldSid
  cases named : getStr req.params "old_snapshot_id" with
  | some osid => rfl
  | none =>
      by_cases poll : req.method = ascii "events.poll"
      · rw [same ⟨poll, named⟩]
      · simp [poll]

theorem sameResponse_timeout (transport₁ transport₂ : Transport) (req : CoreRequest) :
    SameResponse (timeoutResponse transport₁ req) (timeoutResponse transport₂ req) :=
  ⟨rfl, rfl, nofun, rfl⟩

theorem sameResponse_badSnapshot (transport₁ transport₂ : Transport) (req : CoreRequest) :
    SameResponse (badSnapshotResponse transport₁ req) (badSnapshotResponse transport₂ req) :=
  ⟨rfl, rfl, nofun, rfl⟩

/-- The turns that read. -/
theorem Twins.frame (twins : Twins conn₁ conn₂) {payload : Option Bytes}
    (uniform : Uniform p cfg g conn₁ (.frame payload))
    (ran : turn p cfg g conn₁ (.frame payload) = some (g', conn₁')) :
    Follows p cfg g conn₂ (.frame payload) g' conn₁' := by
  intro active
  have looping := twins.looping
  have alike := twins.phase
  generalize phase₂ : conn₂.phase = place at alike
  cases turn_cases ran with
  | answered phase _ | refused phase _ =>
      rw [phase] at looping
      cases looping
  | @request payload text phase read =>
      rw [phase] at alike
      cases alike
      obtain ⟨frame, rfl, same⟩ := Option.bind_eq_some_iff.mp read
      simp only [Conn.textOf, twins.pipe, Option.some.injEq] at same
      subst same
      obtain ⟨nonempty, short⟩ := uniform.framed frame phase rfl
      have read₂ : conn₂.textOf p.bcrypt frame = some frame := by
        simp [Conn.textOf, twins.tcp, twins.plain, List.length_eq_zero_iff.not.mp nonempty, short]
      refine ⟨conn₂.onRequest p.stod cfg frame, ?_, .serving (twins.toMates.onRequest fun req =>
        uniform.own frame req phase rfl)⟩
      simp only [WinInspect.Daemon.turn, onFrame, phase₂, Option.bind_some, read₂]
  | @hungUp payload phase read =>
      rw [phase] at alike
      cases alike
      have failed : payload = none := by
        cases payload with
        | none => rfl
        | some frame => simp [Conn.textOf, twins.pipe] at read
      subst failed
      have clear := uniform.released phase rfl
      refine ⟨conn₂.goto .closed, ?_, .ended (Or.inl ?_) rfl⟩
      · simp only [WinInspect.Daemon.turn, onFrame, phase₂, Option.bind_none, Conn.leave, twins.tcp]
      · simp [Conn.leave, twins.pipe, clear, Conn.goto]

theorem Twins.core (twins : Twins conn₁ conn₂) {timedOut : Bool} {recentLogs : List LogMessage}
    {pollElapsed durationMs : Int}
    (ran : turn p cfg g conn₁ (.core timedOut recentLogs pollElapsed durationMs) =
      some (g', conn₁')) :
    Follows p cfg g conn₂ (.core timedOut recentLogs pollElapsed durationMs) g' conn₁' := by
  intro active
  have alike := twins.phase
  generalize phase₂ : conn₂.phase = place at alike
  cases turn_cases ran with
  | @core _ _ _ _ req snap old env done phase surroundings ranCore =>
      rw [phase] at alike
      cases alike with
      | calling same =>
          cases same
          subst surroundings ranCore
          have answer : SameResponse
              (if timedOut then timeoutResponse conn₁.transport req else (handle p.backend
                { adminLogsEnabled := cfg.adminLogs, recentLogs, pollElapsed } durationMs req snap
                old g.world).1)
              (if timedOut then timeoutResponse conn₂.transport req else (handle p.backend
                { adminLogsEnabled := cfg.adminLogs, recentLogs, pollElapsed } durationMs req snap
                old g.world).1) := by
            split
            · exact sameResponse_timeout _ _ req
            · exact SameResponse.refl _
          refine ⟨_, by simp only [WinInspect.Daemon.turn, onCore, phase₂]; rfl, .serving ?_⟩
          refine twins.toMates.afterCore answer fun poll => ?_
          exact twins.id (by rw [phase]; simp [Phase.usesId, poll])

/-- A turn of TCP in a critical section. -/
theorem Follows.of_locked (free : g.muHeld = false) {body : Int → Shared σ × Conn}
    (turned : ∀ active, turn p cfg (g.withActive active) conn₂ .go =
      locked (g.withActive active) (body active))
    (state : ∀ active, (body active).1 = g'.withActive active)
    (paired : ∀ active, Paired conn₁' (body active).2) : Follows p cfg g conn₂ .go g' conn₁' := by
  intro active
  refine ⟨(body active).2, ?_, paired active⟩
  rw [turned, locked_of_free (by exact free), ← state active]

/-- The remaining turns of a request. -/
theorem Twins.go (twins : Twins conn₁ conn₂) (uniform : Uniform p cfg g conn₁ .go)
    (ran : turn p cfg g conn₁ .go = some (g', conn₁')) :
    Follows p cfg g conn₂ .go g' conn₁' := by
  have looping := twins.looping
  have alike := twins.phase
  generalize phase₂ : conn₂.phase = place at alike
  have turned : ∀ active, turn p cfg (g.withActive active) conn₂ .go =
      onGo p cfg (g.withActive active) conn₂ := fun _ => rfl
  simp only [onGo, phase₂] at turned
  have unfolded := ran
  cases turn_cases ran with
  | leaving phase _ | closing phase =>
      rw [phase] at looping
      cases looping
  | @recovered req sid ps phase free known =>
      have followed : Follows p cfg g conn₂ .go _ _ := twins.openSession phase free fun unknown =>
        absurd (known.symm.trans unknown) (Option.some_ne_none ps)
      simpa only [WinInspect.Daemon.openSession, known] using followed
  | @created req sid phase free unknown allowed =>
      have followed : Follows p cfg g conn₂ .go _ _ :=
        twins.openSession phase free (uniform.created req sid phase)
      simpa only [WinInspect.Daemon.openSession, unknown, if_neg allowed] using followed
  | tooMany phase free unknown capped =>
      rw [twins.pipe] at capped
      cases capped.1
  | captureOk captures taken => exact twins.captureOk captures taken
  | captureFails captures taken => exact twins.captureFails captures taken
  | @subscribed req base phase free =>
      rw [phase] at alike
      cases alike with
      | subscribed same =>
          cases same
          have id := twins.id (by rw [phase]; rfl)
          refine Follows.of_locked free turned (subscribe_withActive id base) fun active => ?_
          refine .serving (Mates.sending ?_ (SameResponse.refl _))
          exact ⟨twins.pipe, twins.tcp, twins.trusted, twins.plain, twins.pinned⟩
  | @unsubscribing req phase free =>
      rw [phase] at alike
      cases alike with
      | unsubscribing same =>
          cases same
          have id := twins.id (by rw [phase]; rfl)
          refine Follows.of_locked free turned (unsubscribe_withActive id) fun active => ?_
          exact .serving (twins.toMates.sending (SameResponse.refl _))
  | @terminating req phase free =>
      rw [phase] at alike
      cases alike with
      | terminating same =>
          cases same
          have id := twins.id (by rw [phase]; rfl)
          refine Follows.of_locked free turned (fun active => ?_) fun active => ?_
          · simp only [terminate, id]
            rfl
          · refine .serving (Mates.proceed ?_ ⟨fun _ => rfl, fun back => ?_⟩)
            · exact ⟨twins.pipe, twins.tcp, twins.trusted, twins.plain, twins.pinned⟩
            · exact twins.baseline (by rw [phase]; exact back)
  | @captured req s phase free =>
      rw [phase] at alike
      cases alike with
      | captured same =>
          cases same
          refine Follows.of_locked free turned (fun _ => rfl) fun active => ?_
          exact .serving twins.toMates.evicting
  | @evictRound req sid phase full =>
      rw [phase] at alike
      cases alike with
      | evicting same sids =>
          cases same
          cases sids
          refine fun active => ⟨conn₂, ?_, .serving twins⟩
          rw [turned, ← evictOnce_withActive]
          exact congrArg some (if_pos full)
  | @evictDone req sid phase fits =>
      rw [phase] at alike
      cases alike with
      | evicting same sids =>
          cases same
          cases sids
          refine fun active => ⟨conn₂.send req (okResponse req [("snapshot_id", .str sid)]), ?_,
            .serving (twins.toMates.sending (SameResponse.refl _))⟩
          rw [turned]
          exact congrArg some (if_neg fits)
  | @unknownSnapshot req sid phase named free unknown =>
      rw [phase] at alike
      cases alike with
      | finding same =>
          cases same
          have unknown₂ : ∀ active, (g.withActive active).st.snaps.lookup sid = none :=
            fun _ => unknown
          simp only [named, pin, unknown₂] at turned
          refine Follows.of_locked free turned (fun _ => rfl) fun active => ?_
          exact .serving (twins.toMates.sending (sameResponse_badSnapshot _ _ req))
  | @pinned req sid snap phase named free stored =>
      rw [phase] at alike
      cases alike with
      | finding same =>
          cases same
          have stored₂ : ∀ active, (g.withActive active).st.snaps.lookup sid = some snap :=
            fun _ => stored
          have newest := uniform.newest req sid phase named (Finmap.mem_of_lookup_eq_some stored)
          simp only [named, pin, stored₂, twins.tcp] at turned
          refine Follows.of_locked free turned (fun active => ?_) fun active => .serving ?_
          · rw [twins.pipe]
            dsimp only
            rw [touch_addPin newest]
            rfl
          · refine Mates.findingOld ?_ (fun uses => ?_) fun uses => ?_
            · exact ⟨twins.pipe, rfl, twins.trusted, twins.plain, rfl⟩
            · exact twins.id (by rw [phase]; exact uses)
            · exact twins.baseline (by rw [phase]; exact uses)
  | @findingOld req snap phase =>
      rw [phase] at alike
      cases alike with
      | findingOld same =>
          cases same
          have sameOld : oldSid conn₂ req = oldSid conn₁ req :=
            oldSid_congr fun back => twins.baseline (by rw [phase]; exact back)
          have paired : ∀ old, Paired (conn₁.goto (.calling req snap old))
              (conn₂.goto (.calling req snap old)) := by
            intro old
            refine .serving (twins.toMates.calling fun uses => ?_)
            exact twins.id (by rw [phase]; exact uses)
          simp only [sameOld] at turned
          unfold oldSnapshot
          cases old : oldSid conn₁ req with
          | some osid =>
              simp only [old] at turned
              exact Follows.of_locked (free_of_findingOld phase unfolded old) turned (fun _ => rfl)
                fun active => paired _
          | none =>
              simp only [old] at turned
              exact fun active => ⟨_, turned active, paired none⟩
  | @storing req snap old resp fresh phase free =>
      rw [phase] at alike
      cases alike with
      | storing same _ _ answer =>
          cases same
          have id := twins.id (by rw [phase]; rfl)
          refine Follows.of_locked free turned (storePoll_withActive id _ _ fresh) fun active => ?_
          refine .serving (Mates.sending ?_ answer)
          exact ⟨twins.pipe, twins.tcp, twins.trusted, twins.plain, twins.pinned⟩
  | @sending req resp phase =>
      rw [phase] at alike
      cases alike with
      | @sending _ req₂ _ resp₂ answer =>
          have written₁ : ∀ text, (conn₁.write p.bcrypt text).2 = conn₁ := by
            intro text
            simp [Conn.write, twins.pipe]
          have written₂ : ∀ text, (conn₂.write p.bcrypt text).2 = conn₂ := by
            intro text
            simp [Conn.write, twins.plain]
          simp only [written₂] at turned
          rw [written₁]
          refine fun active => ⟨_, turned active, .serving ?_⟩
          unfold Conn.afterSend
          rw [twins.pinned]
          split
          · exact twins.toMates.reading
          · exact twins.toMates.unpinning
  | unpinning phase free =>
      rw [phase] at alike
      cases alike
      refine Follows.of_locked free turned (fun active => ?_) fun active => ?_
      · dsimp only
        rw [twins.pinned]
        rfl
      · exact .serving twins.toMates.reading

theorem Twins.turn (twins : Twins conn₁ conn₂) (uniform : Uniform p cfg g conn₁ input)
    (ran : turn p cfg g conn₁ input = some (g', conn₁')) :
    Follows p cfg g conn₂ input g' conn₁' := by
  have looping := twins.looping
  cases input with
  | start keyPair nonce =>
      cases turn_cases ran with
      | startPipe phase _ | startTcp phase _ =>
          rw [phase] at looping
          cases looping
  | hangUp =>
      cases turn_cases ran with
      | hangUp phase =>
          rcases phase with phase | phase <;> rw [phase] at looping <;> cases looping
  | frame payload => exact twins.frame uniform ran
  | core timedOut recentLogs pollElapsed durationMs => exact twins.core ran
  | go => exact twins.go uniform ran

end

/-- An accepted pipe connection can only start. -/
theorem turn_accepted_pipe {p : Platform σ} {cfg : Settings} {g g' : Shared σ} {conn' : Conn}
    {input : Input} (ran : turn p cfg g { transport := .pipe } input = some (g', conn')) :
    ∃ keyPair nonce, input = .start keyPair nonce ∧
      g' = g.withSt { g.st with activeConnections := g.st.activeConnections + 1 } ∧
      conn' = {
        transport := .pipe
        session := { authenticated := !cfg.requireAuth && cfg.authKeysData.isEmpty }
        phase := .reading } := by
  cases input with
  | start keyPair nonce =>
      cases ran
      exact ⟨keyPair, nonce, rfl, rfl, rfl⟩
  | _ => cases ran

theorem twins_started {cfg : Settings} (anonymous : cfg.requireAuth = false ∧ cfg.authKeysData = [])
    (p : Platform σ) (keyPair : Option Bytes) (nonce : Bytes) :
    Twins {
        transport := .pipe
        session := { authenticated := !cfg.requireAuth && cfg.authKeysData.isEmpty }
        phase := .reading } {
        transport := .tcp
        crypto := (({} : Crypto.CryptoSession).generateLocalKey p.bcrypt keyPair).2
        challenge := nonce
        phase := if cfg.authKeysData = [] then .reading else .handshake } where
  pipe := rfl
  tcp := rfl
  trusted := by simp [anonymous]
  plain := by cases keyPair <;> rfl
  pinned := rfl
  looping := rfl
  phase := by
    rw [if_pos anonymous.2]
    exact .reading
  id := nofun
  baseline := nofun
  entering := nofun

/-! ## Runs -/

/-- The condition on a run of one pipe connection. -/
def alone (p : Platform σ) (cfg : Settings) (state : Config (Shared σ) Conn × Transcript) :
    Move Input Transport (Outside σ) → Prop
  | .turn index input => ∀ conn, state.1.parts[index]? = some conn →
      Uniform p cfg state.1.shared conn input
  | .spawn _ => False
  | .env _ => True

/-- The move runs the code after the loop of a pipe connection. -/
def exits (config : Config (Shared σ) Conn) : Move Input Transport (Outside σ) → Bool
  | .turn index .go => config.parts[index]?.any fun conn =>
      match conn.phase with
      | .closing => true
      | _ => false
  | _ => false

theorem exits_iff {config : Config (Shared σ) Conn} {index : Nat} {conn : Conn} {input : Input}
    (found : config.parts[index]? = some conn) :
    exits config (.turn index input) = true ↔ input = .go ∧ conn.phase = .closing := by
  cases input with
  | go =>
      simp only [exits, found, Option.any_some]
      split
      · rename_i closing
        simp [closing]
      · rename_i open_
        simpa using open_
  | _ => simp [exits]

/-- A pipe connection, and a TCP connection that gets the same input. -/
def transports (p : Platform σ) (cfg : Settings) :
    Coupling (Config (Shared σ) Conn × Transcript) (Config (Shared σ) Conn × Transcript)
      (Move Input Transport (Outside σ)) (Move Input Transport (Outside σ)) where
  first := observed p cfg fun _ => true
  second := observed p cfg fun _ => true
  allowed := alone p cfg
  reply s _ move given := given = if exits s.1 move then none else some move

/-- The same response on the same connection. -/
def SameWritten (first second : Written) : Prop :=
  second.index = first.index ∧ SameResponse first.resp second.resp

/-- One connection each, in corresponding states, after the same responses. -/
inductive Agree : Config (Shared σ) Conn × Transcript → Config (Shared σ) Conn × Transcript → Prop
  | intro {g : Shared σ} {conn₁ conn₂ : Conn} {active : Int} {seen₁ seen₂ : Transcript}
      (paired : Paired conn₁ conn₂)
      (answers : List.Forall₂ SameWritten seen₁.answers seen₂.answers) :
      Agree (⟨g, [conn₁]⟩, seen₁) (⟨g.withActive active, [conn₂]⟩, seen₂)

section

variable {p : Platform σ} {cfg : Settings} {g g' : Shared σ} {conn₁ conn₁' conn₂ : Conn}
  {input : Input}

theorem writes_alike {conn₁ conn₂ : Conn}
    (alike : Phase.Alike sameAnswers conn₁.phase conn₂.phase) (index : Nat) :
    List.Forall₂ SameWritten (conn₁.writes index) (conn₂.writes index) := by
  unfold Conn.writes
  generalize conn₁.phase = phase₁ at alike
  generalize conn₂.phase = phase₂ at alike
  cases alike with
  | sending same => exact .cons ⟨rfl, same⟩ .nil
  | _ => exact .nil

theorem outside_withActive (event : Outside σ) (active : Int) :
    outside cfg (g.withActive active) event =
      (outside cfg g event).map fun g' => g'.withActive active := by
  cases event with
  | world w => rfl
  | tick nanoseconds => rfl
  | cleanup =>
      unfold outside
      cases held : g.muHeld with
      | true =>
          have held₂ : (g.withActive active).muHeld = true := held
          simp [held₂]
      | false =>
          have held₂ : (g.withActive active).muHeld = false := held
          simp only [held₂]
          rfl

/-- A turn of a pipe connection is followed, or it is one of the exit path. -/
theorem Paired.turn (anonymous : cfg.requireAuth = false ∧ cfg.authKeysData = [])
    (paired : Paired conn₁ conn₂) (uniform : Uniform p cfg g conn₁ input)
    (ran : turn p cfg g conn₁ input = some (g', conn₁')) :
    (Follows p cfg g conn₂ input g' conn₁' ∧ conn₁.phase ≠ .closing ∧
      ∀ index, List.Forall₂ SameWritten (conn₁.writes index) (conn₂.writes index)) ∨
    (input = .go ∧ conn₁.phase = .closing ∧ conn₁'.phase = .closed ∧ conn₂.phase = .closed ∧
      ∀ active, g'.withActive active = g.withActive active) := by
  cases paired with
  | fresh =>
      obtain ⟨keyPair, nonce, rfl, rfl, rfl⟩ := turn_accepted_pipe ran
      refine Or.inl ⟨fun active => ⟨_, rfl, .serving (twins_started anonymous p keyPair nonce)⟩,
        nofun, fun _ => .nil⟩
  | serving twins =>
      refine Or.inl ⟨twins.turn uniform ran, fun closing => ?_, writes_alike twins.phase⟩
      have looping := twins.looping
      rw [closing] at looping
      cases looping
  | ended left closed =>
      rcases left with closing | left
      · obtain ⟨rfl, rfl, rfl⟩ := turn_closing closing ran
        exact Or.inr ⟨rfl, closing, rfl, closed, fun _ => rfl⟩
      · rw [turn_closed left] at ran
        cases ran

end

/-- TCP follows a pipe connection. -/
theorem transports_simulation (p : Platform σ) {cfg : Settings}
    (anonymous : cfg.requireAuth = false ∧ cfg.authKeysData = []) :
    (transports p cfg).Simulation Agree := by
  rintro _ _ move s' given ⟨paired, answers⟩ admitted step rfl
  rename_i g conn₁ conn₂ active seen₁ seen₂
  obtain ⟨stepped, seen⟩ := observed_eq_some step
  obtain ⟨config', seen₁'⟩ := s'
  dsimp only at stepped seen
  subst seen
  rcases System.next_cases stepped with ⟨index, input, part, g', conn₁', rfl, found, ran, rfl⟩ |
    ⟨transport, g', conn, rfl, spawned, rfl⟩ | ⟨event, g', rfl, moved, rfl⟩
  · have here : index = 0 ∧ part = conn₁ := by
      cases index with
      | zero => exact ⟨rfl, (Option.some.inj found).symm⟩
      | succ index => cases found
    obtain ⟨rfl, rfl⟩ := here
    rcases paired.turn anonymous (admitted part rfl) ran with ⟨follows, open_, writes⟩ |
      ⟨rfl, closing, closed₁, closed₂, same⟩
    · obtain ⟨conn₂', turned, paired'⟩ := follows active
      have staying : ¬ exits ⟨g, [part]⟩ (.turn 0 input) = true :=
        fun exit => open_ ((exits_iff rfl).mp exit).2
      rw [if_neg staying]
      refine ⟨_, observed_of_next (System.next_turn rfl turned), .intro paired' ?_⟩
      exact List.rel_append answers (writes 0)
    · have leaving : exits ⟨g, [part]⟩ (.turn 0 .go) = true := (exits_iff rfl).mpr ⟨rfl, closing⟩
      rw [if_pos leaving]
      refine ⟨_, rfl, ?_⟩
      rw [← same active]
      refine .intro (.ended (Or.inr closed₁) closed₂) ?_
      change List.Forall₂ SameWritten (seen₁.answers ++ part.writes 0) seen₂.answers
      rw [Conn.writes, closing, List.append_nil]
      exact answers
  · cases admitted
  · have moved₂ : outside cfg (g.withActive active) event = some (g'.withActive active) := by
      rw [outside_withActive]
      exact congrArg (Option.map _) moved
    exact ⟨_, observed_of_next (System.next_env moved₂), .intro paired answers⟩

/-- The moves that the environment or the client decides; the others are the next actions
of the connection itself. -/
def visible : Move Input Transport (Outside σ) → Bool
  | .turn _ .go => false
  | _ => true

theorem filter_visible {moves : List (Move Input Transport (Outside σ) ×
      Option (Move Input Transport (Outside σ)))}
    (replies : ∀ move ∈ moves,
      ∃ config, move.2 = if exits config move.1 then none else some move.1) :
    (moves.filterMap Prod.snd).filter visible = (moves.map Prod.fst).filter visible := by
  induction moves with
  | nil => rfl
  | cons pair moves inductionHypothesis =>
      obtain ⟨move, given⟩ := pair
      obtain ⟨config, replied⟩ := replies (move, given) List.mem_cons_self
      have rest := inductionHypothesis fun other member =>
        replies other (List.mem_cons_of_mem _ member)
      dsimp only at replied
      by_cases exit : exits config move = true
      · have hidden : visible move = false := by
          unfold exits at exit
          split at exit
          · rfl
          · cases exit
        simp [replied, exit, hidden, rest]
      · simp [replied, exit, List.filter_cons, rest]

/-- One accepted connection. -/
def accepted (g : Shared σ) (transport : Transport) : Config (Shared σ) Conn × Transcript :=
  (⟨g, [{ transport := transport }]⟩, {})

/-- The tables of the daemon are the same. -/
structure SameTables (st₁ st₂ : ServerState) : Prop where
  snaps : st₂.snaps = st₁.snaps
  lruOrder : st₂.lruOrder = st₁.lruOrder
  pinnedCounts : st₂.pinnedCounts = st₁.pinnedCounts
  sessions : st₂.sessions = st₁.sessions

/-- Whatever a pipe connection that needs no authentication goes through, from any state of
the daemon and under the condition, a TCP connection goes through from the same state with
the same frames, engine runs and moves of the environment; it writes the same responses
and leaves the same tables. -/
theorem transports_agree (p : Platform σ) (cfg : Settings)
    (anonymous : cfg.requireAuth = false ∧ cfg.authKeysData = []) (g : Shared σ)
    {moves : List (Move Input Transport (Outside σ))} {s : Config (Shared σ) Conn × Transcript}
    (run : Trace (observed p cfg fun _ => true) (alone p cfg) (accepted g .pipe) moves s) :
    ∃ moves' t, Transition.exec (observed p cfg fun _ => true) (accepted g .tcp) moves' = some t ∧
      moves'.filter visible = moves.filter visible ∧
      List.Forall₂ SameWritten s.2.answers t.2.answers ∧
      SameTables s.1.shared.st t.1.shared.st := by
  have start : Agree (accepted g .pipe) (accepted g .tcp) := by
    have same : g.withActive g.st.activeConnections = g := rfl
    unfold accepted
    nth_rewrite 2 [← same]
    exact .intro .fresh .nil
  obtain ⟨pairs, t, labels, executed, agree, replies⟩ :=
    (transports_simulation p anonymous).exists_answers start
      (fun _ _ _ _ _ _ _ => ⟨_, rfl⟩) run
  refine ⟨pairs.filterMap Prod.snd, t, executed, ?_, ?_⟩
  · rw [← labels]
    refine filter_visible fun move member => ?_
    obtain ⟨state, _, replied⟩ := replies move member
    exact ⟨state.1, replied⟩
  · cases agree with
    | intro paired answers => exact ⟨answers, ⟨rfl, rfl, rfl, rfl⟩⟩

instance (req : CoreRequest) : Decidable (looksBack req) :=
  inferInstanceAs (Decidable (_ ∧ _))

/-- A check of the condition. -/
def uniformCheck (p : Platform σ) (cfg : Settings)
    (state : Config (Shared σ) Conn × Transcript) : Move Input Transport (Outside σ) → Bool
  | .turn index input => state.1.parts[index]?.all fun conn =>
      let g := state.1.shared
      match conn.phase, input with
      | .reading, .frame (some frame) =>
          decide (frame.length ≠ 0 ∧ frame.length ≤ Crypto.maxFrame) &&
            (parseRequestJson p.stod frame).toOption.all fun req =>
              decide (getStr req.params "session_id" = none →
                (usesSession req.method = true → conn.session.id = []) ∧
                  (looksBack req → conn.session.lastSnapId = []))
      | .reading, .frame none => decide (conn.pinnedSid = [])
      | .session req sid, _ =>
          decide (g.st.sessions.lookup sid = none → g.st.sessions.keys.card < cfg.maxSessions ∧
            (looksBack req → conn.session.lastSnapId = []))
      | .finding req, _ => (getStr req.params "snapshot_id").all fun sid =>
          decide (sid ∈ g.st.snaps → (g.st.touch sid).lruOrder = g.st.lruOrder)
      | _, _ => true
  | .spawn _ => false
  | .env _ => true

theorem uniformCheck_sound (p : Platform σ) (cfg : Settings)
    (state : Config (Shared σ) Conn × Transcript) (move : Move Input Transport (Outside σ))
    (passed : uniformCheck p cfg state move = true) : alone p cfg state move := by
  cases move with
  | turn index input =>
      intro conn found
      simp only [uniformCheck, found, Option.all_some] at passed
      constructor
      · rintro frame phase rfl
        simp only [phase, Bool.and_eq_true, decide_eq_true_eq] at passed
        exact passed.1
      · rintro frame req phase rfl parsed unnamed
        simp only [phase, parsed, Bool.and_eq_true, decide_eq_true_eq, Except.toOption,
          Option.all_some] at passed
        exact passed.2 unnamed
      · intro req sid phase
        simpa only [phase, decide_eq_true_eq] using passed
      · intro req sid phase named
        simpa only [phase, named, Option.all_some, decide_eq_true_eq] using passed
      · rintro phase rfl
        simpa only [phase, decide_eq_true_eq] using passed
  | spawn transport => cases passed
  | env event => trivial

/-- A client subscribes and polls for its session, names the newest snapshot in a request,
sends one more request and leaves. -/
def conversation : List (Move Input Transport (Outside Fake.FakeState)) :=
  .turn 0 (.start none []) ::
    (intercepted "events.subscribe" [("session_id", .str (ascii "A"))] 4 ++
    handled "events.poll" [("session_id", .str (ascii "A"))] 3 3 ++
    handled "window.listTop" [("snapshot_id", .str (ascii "s-2"))] 2 2 ++
    handled "daemon.health" [] 2 1 ++
    [.turn 0 (.frame none), .turn 0 .go])

def conversationRun : Option (Config (Shared Fake.FakeState) Conn × Transcript) :=
  Transition.exec (Transition.checked (observed fakePlatform {} fun _ => true)
    (uniformCheck fakePlatform {})) (accepted { world := {} } .pipe) conversation

theorem conversationRun_ends :
    (conversationRun.any fun s => decide (
      s.2.answers.map (fun written => written.resp.ok) = [true, true, true, true])) = true := by
  decide +kernel

theorem conversationRun_enabled : conversationRun.isSome :=
  Option.isSome_of_any conversationRun_ends

theorem transports_agree_conversation :
    let s := conversationRun.get conversationRun_enabled
    s.2.answers.map (fun written => written.resp.ok) = [true, true, true, true] ∧
      ∃ moves' t, Transition.exec (observed fakePlatform {} fun _ => true)
          (accepted { world := {} } .tcp) moves' = some t ∧
        moves'.filter visible = conversation.filter visible ∧
        List.Forall₂ SameWritten s.2.answers t.2.answers ∧
        SameTables s.1.shared.st t.1.shared.st :=
  ⟨Transition.get_of_any conversationRun_ends conversationRun_enabled,
    transports_agree fakePlatform {} ⟨rfl, rfl⟩ { world := {} }
      (Trace.of_checked (uniformCheck_sound _ _) (Option.some_get conversationRun_enabled).symm)⟩

/-- What a client goes through on a fresh daemon. -/
def talk (transport : Transport) (moves : List (Move Input Transport (Outside Fake.FakeState))) :
    Option (Config (Shared Fake.FakeState) Conn × Transcript) :=
  Transition.exec (observed fakePlatform {} fun _ => true) (accepted { world := {} } transport)
    (.turn 0 (.start none []) :: moves)

/-- A poll without ids finds the baseline of an earlier subscription on a pipe only; a
request that names an old snapshot changes the LRU order on a pipe only; and a pipe client
that leaves after it has released its pin two times. -/
theorem transports_differ :
    ((talk .pipe (intercepted "events.subscribe" [] 3 ++ handled "events.poll" [] 2 3)).map
        (fun s => s.2.answers.map fun written => written.resp.ok) = some [true, true] ∧
      (talk .tcp (intercepted "events.subscribe" [] 3 ++ handled "events.poll" [] 2 1)).map
        (fun s => s.2.answers.map fun written => written.resp.ok) = some [true, false]) ∧
    ((talk .pipe (intercepted "events.subscribe" [] 3 ++ intercepted "events.subscribe" [] 3 ++
        handled "window.listTop" [("snapshot_id", .str (ascii "s-1"))] 2 2)).map
        (fun s => s.1.shared.st.lruOrder) = some [ascii "s-2", ascii "s-1"] ∧
      (talk .tcp (intercepted "events.subscribe" [] 3 ++ intercepted "events.subscribe" [] 3 ++
        handled "window.listTop" [("snapshot_id", .str (ascii "s-1"))] 2 2)).map
        (fun s => s.1.shared.st.lruOrder) = some [ascii "s-1", ascii "s-2"]) ∧
    ((talk .pipe (intercepted "events.subscribe" [] 3 ++
        handled "window.listTop" [("snapshot_id", .str (ascii "s-1"))] 2 2 ++
        [.turn 0 (.frame none), .turn 0 .go, .turn 0 .go])).map
        (fun s => s.1.shared.st.pinCount (ascii "s-1")) = some (-1) ∧
      (talk .tcp (intercepted "events.subscribe" [] 3 ++
        handled "window.listTop" [("snapshot_id", .str (ascii "s-1"))] 2 2 ++
        [.turn 0 (.frame none)])).map
        (fun s => s.1.shared.st.pinCount (ascii "s-1")) = some 0) := by
  decide +kernel

end WinInspect.Daemon
