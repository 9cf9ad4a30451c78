import WinInspect.Daemon.Renaming

/-!
# A client in two runs

A client that uses its own sessions and the snapshots it was given, in a run with other
clients and in one without them.  As long as nothing is evicted, the turns of the other
clients keep the two states alike up to a renaming, and every turn of the client itself
can be made in both.
-/

namespace WinInspect.Daemon

variable {σ : Type}

/-! ## Whose sessions a connection uses -/

/-- The next turn removes or clears the entry of the connection's session. -/
def Phase.dropsEntry : Phase → Bool
  | .unsubscribing _ | .terminating _ => true
  | _ => false

/-- The session of a connection is one of the given ones. -/
structure Owns (mine : Bytes → Prop) (conn : Conn) : Prop where
  session : conn.session.id = [] ∨ mine conn.session.id
  named : conn.phase.dropsEntry = true → conn.session.id ≠ []

theorem Owns.congr {mine : Bytes → Prop} {conn conn' : Conn} (owns : Owns mine conn)
    (same : conn'.session.id = conn.session.id) (drops : conn'.phase.dropsEntry = false) :
    Owns mine conn' where
  session := same ▸ owns.session
  named dropped := absurd (drops.symm.trans dropped) nofun

theorem Captures.dropsEntry {phase : Phase} {resp : CoreResponse} {req : CoreRequest}
    {next : Snapshot → Phase} (captures : Captures phase resp req next) (s : Snapshot) :
    (next s).dropsEntry = false := by
  cases captures <;> rfl

theorem proceed_dropsEntry (cfg : Settings) (conn : Conn) (req : CoreRequest) :
    (conn.proceed cfg req).phase.dropsEntry = false := by
  unfold Conn.proceed
  split
  · rfl
  · split <;> rfl

theorem route_named {cfg : Settings} {conn : Conn} {req : CoreRequest}
    (drops : (conn.route cfg req).phase.dropsEntry = true) : conn.session.id ≠ [] := by
  unfold Conn.route at drops
  split at drops
  · cases drops
  · split at drops
    · dsimp only at drops
      split at drops
      · cases drops
      · rename_i named
        exact named
    · split at drops
      · rename_i terminates
        exact terminates.2
      · rw [proceed_dropsEntry] at drops
        cases drops

theorem Owns.route {mine : Bytes → Prop} {conn : Conn}
    (session : conn.session.id = [] ∨ mine conn.session.id) (cfg : Settings) (req : CoreRequest) :
    Owns mine (conn.route cfg req) where
  session := (route_routed cfg conn req).sessionId ▸ session
  named drops := by
    rw [(route_routed cfg conn req).sessionId]
    exact route_named drops

theorem Owns.onRequest {mine : Bytes → Prop} {conn : Conn} (owns : Owns mine conn)
    (stod : Json.Stod) (cfg : Settings) (text : Bytes) :
    Owns mine (conn.onRequest stod cfg text) := by
  have refreshed : conn.refresh.session.id = [] ∨ mine conn.refresh.session.id := by
    unfold Conn.refresh
    split
    · exact owns.session
    · exact Or.inl rfl
  have sent : ∀ phase : Phase, phase.dropsEntry = false → Owns mine (conn.refresh.goto phase) :=
    fun phase drops => ⟨refreshed, fun dropped => absurd (drops.symm.trans dropped) nofun⟩
  unfold Conn.onRequest
  split
  · unfold Conn.accept
    split
    · exact sent _ rfl
    · split
      · exact sent _ rfl
      · exact Owns.route refreshed cfg _
  · exact sent _ rfl

theorem turn_owns {p : Platform σ} {cfg : Settings} {g g' : Shared σ} {conn conn' : Conn}
    {input : Input} {mine : Bytes → Prop} (owns : Owns mine conn)
    (enters : ∀ req sid, conn.phase = .session req sid → mine sid)
    (ran : turn p cfg g conn input = some (g', conn')) : Owns mine conn' := by
  cases turn_cases ran with
  | startPipe phase pipe => exact ⟨Or.inl rfl, nofun⟩
  | startTcp phase tcp =>
      refine owns.congr rfl ?_
      dsimp only
      split <;> rfl
  | request phase read => exact owns.onRequest p.stod cfg _
  | hungUp phase read =>
      rcases leave_cases conn with ⟨_, _, left⟩ | ⟨_, _, left⟩ | ⟨_, left⟩ <;> rw [left] <;>
        exact owns.congr rfl rfl
  | core phase surroundings ranCore =>
      rcases afterCore_cases conn _ _ _ _ with ⟨_, _, next⟩ | next <;> rw [next] <;>
        exact owns.congr rfl rfl
  | recovered phase free known => exact Owns.route (Or.inr (enters _ _ phase)) cfg _
  | created phase free unknown allowed => exact Owns.route (Or.inr (enters _ _ phase)) cfg _
  | terminating phase free =>
      constructor
      · exact Or.inl (proceed_routed cfg _ _).sessionId
      · intro drops
        rw [show (terminate cfg g conn _).2.phase.dropsEntry = false from
          proceed_dropsEntry cfg _ _] at drops
        cases drops
  | captureOk captures taken => exact owns.congr rfl (captures.dropsEntry _)
  | evictRound phase full => exact owns
  | @sending req resp phase =>
      obtain ⟨crypto, written⟩ := write_eq p.bcrypt conn (serializeResponseJson resp)
      rw [written]
      rcases afterSend_cases { conn with crypto := crypto } with ⟨_, next⟩ | ⟨_, next⟩ <;>
        rw [next] <;> exact owns.congr rfl rfl
  | _ => exact owns.congr rfl rfl

/-! ## The turns of other clients -/

section

variable {p : Platform σ} {cfg : Settings} {g g' : Shared σ} {conn conn' : Conn} {input : Input}
  {mine : Bytes → Prop}

/-- A turn of a connection leaves the sessions that are not its own. -/
theorem turn_lookup_sessions (owns : Owns (fun id => ¬ mine id) conn)
    (enters : ∀ req sid, conn.phase = .session req sid → ¬ mine sid)
    (ran : turn p cfg g conn input = some (g', conn')) {id : Bytes} (own : mine id) :
    g'.st.sessions.lookup id = g.st.sessions.lookup id := by
  have entered : ∀ {req sid}, conn.phase = .session req sid → id ≠ sid := by
    rintro req sid phase rfl
    exact enters req id phase own
  have other : conn.session.id ≠ [] → id ≠ conn.session.id := by
    rintro named rfl
    rcases owns.session with anonymous | foreign
    · exact named anonymous
    · exact foreign own
  cases turn_tableChange ran with
  | keep same => rw [same]
  | recover phase known same => rw [same, Map.lookup_modify_eq, if_neg (entered phase)]
  | create phase unknown allowed same => rw [same, Map.lookup_insert_eq, if_neg (entered phase)]
  | rebase starts phase named same => rw [same, Map.lookup_modify_eq, if_neg (other named)]
  | unsubscribe phase known same =>
      rw [same, Map.lookup_modify_eq, if_neg (other (owns.named (by rw [phase]; rfl)))]
  | terminate phase same =>
      rw [same, Map.lookup_erase_eq, if_neg (other (owns.named (by rw [phase]; rfl)))]

/-- A turn of another client that does not change the world keeps the states alike. -/
theorem SharedAlike.foreign {names : Renaming} {g₂ : Shared σ}
    (alike : SharedAlike mine names g g₂) (inv : StoreInv g.st)
    (few : g.st.snapCounter < 2 ^ 64) (calm : conn.calm cfg g)
    (owns : Owns (fun id => ¬ mine id) conn)
    (enters : ∀ req sid, conn.phase = .session req sid → ¬ mine sid)
    (ran : turn p cfg g conn input = some (g', conn')) (quiet : g'.world = g.world) :
    SharedAlike mine names g' g₂ where
  world := alike.world.trans quiet.symm
  now := alike.now.trans (turn_now ran).symm
  store := alike.store.left (turn_grows inv few calm ran)
  table := alike.table.left fun _ own => turn_lookup_sessions owns enters ran own

end

/-! ## The turns of the client -/

/-- Texts that fail to parse in the same way, or are requests that agree up to the renaming. -/
inductive TextAlike (stod : Json.Stod) (names : Renaming) (text₁ text₂ : Bytes) : Prop
  | request {req₁ req₂ : CoreRequest} (parsed₁ : parseRequestJson stod text₁ = .ok req₁)
      (parsed₂ : parseRequestJson stod text₂ = .ok req₂) (same : Renamed names req₁ req₂)
  | failed {what : Bytes} (parsed₁ : parseRequestJson stod text₁ = .error what)
      (parsed₂ : parseRequestJson stod text₂ = .error what)

/-- The same input to two connections, up to the renaming of the ids that a request names.
The engines may read different clocks and logs. -/
inductive InputAlike (p : Platform σ) (names : Renaming) (conn₁ conn₂ : Conn) : Input → Input → Prop
  | start (keyPair : Option Bytes) (nonce : Bytes) :
      InputAlike p names conn₁ conn₂ (.start keyPair nonce) (.start keyPair nonce)
  | hangUp : InputAlike p names conn₁ conn₂ .hangUp .hangUp
  | answer (phase : conn₁.phase = .handshake) (payload : Option Bytes) :
      InputAlike p names conn₁ conn₂ (.frame payload) (.frame payload)
  | request (phase : conn₁.phase = .reading) {payload₁ payload₂ : Option Bytes}
      (texts : Option.Rel (TextAlike p.stod names) (payload₁.bind (conn₁.textOf p.bcrypt))
        (payload₂.bind (conn₂.textOf p.bcrypt))) :
      InputAlike p names conn₁ conn₂ (.frame payload₁) (.frame payload₂)
  | core (timedOut : Bool) (logs₁ logs₂ : List LogMessage) (elapsed₁ elapsed₂ : Int)
      (duration₁ duration₂ : Int) :
      InputAlike p names conn₁ conn₂ (.core timedOut logs₁ elapsed₁ duration₁)
        (.core timedOut logs₂ elapsed₂ duration₂)
  | go : InputAlike p names conn₁ conn₂ .go .go

/-- The condition on a turn of the client: it uses one of its own sessions, reaches no cap,
and evicts nothing. -/
structure OwnTurn (cfg : Settings) (mine : Bytes → Prop) (g : Shared σ) (conn : Conn) : Prop where
  few : g.st.snapCounter < 2 ^ 64
  calm : conn.calm cfg g
  enters : ∀ req sid, conn.phase = .session req sid → mine sid
  uncapped : ∀ req sid, conn.phase = .session req sid → g.st.sessions.lookup sid = none →
    ¬ (conn.transport = .tcp ∧ cfg.maxSessions ≤ g.st.sessions.keys.card)

/-- Two states in which a connection is in corresponding states. -/
structure Abreast (cfg : Settings) (mine : Bytes → Prop) (names : Renaming) (g₁ g₂ : Shared σ)
    (conn₁ conn₂ : Conn) : Prop where
  shared : SharedAlike mine names g₁ g₂
  conns : ConnAlike cfg.adminLogs names conn₁ conn₂
  inv₁ : StoreInv g₁.st
  inv₂ : StoreInv g₂.st
  free : g₁.muHeld = false → g₂.muHeld = false
  owns : Owns mine conn₁

/-- The second connection makes the corresponding turn. -/
def Echoes (p : Platform σ) (cfg : Settings) (mine : Bytes → Prop) (names : Renaming)
    (g₂ : Shared σ) (conn₂ : Conn) (input₂ : Input) (g₁' : Shared σ) (conn₁' : Conn) : Prop :=
  ∃ g₂' conn₂', turn p cfg g₂ conn₂ input₂ = some (g₂', conn₂') ∧
    SharedAlike mine names g₁' g₂' ∧ ConnAlike cfg.adminLogs names conn₁' conn₂'

section

variable {p : Platform σ} {cfg : Settings} {mine : Bytes → Prop} {names : Renaming}
  {g₁ g₁' g₂ : Shared σ} {conn₁ conn₁' conn₂ : Conn} {input₁ input₂ : Input}

/-- Two outcomes of a turn that correspond. -/
def OutcomeAlike (cfg : Settings) (mine : Bytes → Prop) (names : Renaming)
    (outcome₁ outcome₂ : Shared σ × Conn) : Prop :=
  SharedAlike mine names outcome₁.1 outcome₂.1 ∧
    ConnAlike cfg.adminLogs names outcome₁.2 outcome₂.2

theorem Echoes.of_some {outcome₁ outcome₂ : Shared σ × Conn}
    (ran : some outcome₁ = some (g₁', conn₁'))
    (turned : turn p cfg g₂ conn₂ input₂ = some outcome₂)
    (alike : OutcomeAlike cfg mine names outcome₁ outcome₂) :
    Echoes p cfg mine names g₂ conn₂ input₂ g₁' conn₁' := by
  cases ran
  exact ⟨outcome₂.1, outcome₂.2, turned, alike⟩

/-- A turn in a critical section. -/
theorem Echoes.of_locked (free : g₁.muHeld = false → g₂.muHeld = false)
    {outcome₁ outcome₂ : Shared σ × Conn} (ran : locked g₁ outcome₁ = some (g₁', conn₁'))
    (turned : turn p cfg g₂ conn₂ input₂ = locked g₂ outcome₂)
    (alike : OutcomeAlike cfg mine names outcome₁ outcome₂) :
    Echoes p cfg mine names g₂ conn₂ input₂ g₁' conn₁' := by
  unfold locked at ran
  split at ran
  · cases ran
  · rename_i held
    rw [locked_of_free (free (by simpa using held))] at turned
    exact Echoes.of_some ran turned alike

/-! ### Requests -/

theorem Peers.onRequest (peers : Peers names conn₁ conn₂) {stod : Json.Stod} {text₁ text₂ : Bytes}
    (texts : TextAlike stod names text₁ text₂) :
    ConnAlike cfg.adminLogs names (conn₁.onRequest stod cfg text₁)
      (conn₂.onRequest stod cfg text₂) := by
  have refreshed := peers.refresh
  unfold Conn.onRequest
  cases texts with
  | failed parsed₁ parsed₂ =>
      rw [parsed₁, parsed₂, peers.transport]
      exact refreshed.goto rfl (.sending (RenamedResponse.refl _ _ _ _))
  | request parsed₁ parsed₂ same =>
      rw [parsed₁, parsed₂]
      unfold Conn.accept
      dsimp only
      rw [refreshed.transport, refreshed.authenticated, same.method,
        same.getStr_eq "session_id" (by decide +kernel)]
      split
      · rw [errorResponse_congr same.id]
        exact refreshed.send (RenamedResponse.refl _ _ _ _)
      · split
        · exact refreshed.goto rfl (.session same _)
        · exact refreshed.route same

theorem Peers.leave (peers : Peers names conn₁ conn₂) {adminLogs : Bool} :
    ConnAlike adminLogs names conn₁.leave conn₂.leave := by
  unfold Conn.leave
  rw [peers.transport]
  cases conn₁.transport with
  | pipe =>
      dsimp only
      rw [if_congr peers.pinned rfl rfl]
      split
      · exact peers.goto rfl .closing
      · exact peers.goto rfl .leaving
  | tcp => exact peers.goto rfl .closed

theorem Peers.afterSend (peers : Peers names conn₁ conn₂) {adminLogs : Bool} :
    ConnAlike adminLogs names conn₁.afterSend conn₂.afterSend := by
  unfold Conn.afterSend
  rw [if_congr peers.pinned rfl rfl]
  split
  · exact peers.goto rfl .reading
  · exact peers.goto rfl .unpinning

theorem Peers.afterCore (peers : Peers names conn₁ conn₂) {adminLogs : Bool}
    {req₁ req₂ : CoreRequest} (same : Renamed names req₁ req₂) {resp₁ resp₂ : CoreResponse}
    (answer : RenamedResponse adminLogs names (some req₁) resp₁ resp₂) {snap : Snapshot}
    {old : Option Snapshot} :
    ConnAlike adminLogs names (conn₁.afterCore req₁ snap old resp₁)
      (conn₂.afterCore req₂ snap old resp₂) := by
  unfold Conn.afterCore
  rw [same.method, answer.ok]
  split
  · exact peers.goto rfl (.polled same snap old answer)
  · exact peers.send answer

/-! ### One turn after the other -/

/-- The connection starts. -/
theorem Abreast.start (abreast : Abreast cfg mine names g₁ g₂ conn₁ conn₂)
    {keyPair : Option Bytes} {nonce : Bytes}
    (ran : turn p cfg g₁ conn₁ (.start keyPair nonce) = some (g₁', conn₁')) :
    Echoes p cfg mine names g₂ conn₂ (.start keyPair nonce) g₁' conn₁' := by
  have peers := abreast.conns.toPeers
  have alike := abreast.conns.phase
  generalize phase₂ : conn₂.phase = place at alike
  cases turn_cases ran with
  | startPipe phase pipe =>
      rw [phase] at alike
      cases alike
      have pipe₂ := peers.transport.trans pipe
      refine ⟨_, _, by simp only [turn, onStart, phase₂, pipe₂]; rfl, ?_, ?_⟩
      · exact abreast.shared.withSt
          (abreast.shared.store.congr ⟨rfl, rfl, rfl⟩ ⟨rfl, rfl, rfl⟩) abreast.shared.table
      · exact ⟨⟨pipe.symm, rfl, rfl, Or.inl ⟨rfl, rfl⟩, peers.pinned⟩,
          fun opening => absurd opening Bool.false_ne_true, .reading⟩
  | startTcp phase tcp =>
      rw [phase] at alike
      cases alike
      have tcp₂ := peers.transport.trans tcp
      have crypto : conn₂.crypto = conn₁.crypto := (abreast.conns.opening (by rw [phase]; rfl)).1
      refine ⟨_, _, by simp only [turn, onStart, phase₂, tcp₂]; rfl, abreast.shared, ?_⟩
      refine ⟨⟨tcp.symm, peers.id, peers.authenticated, peers.lastSnapId,
        peers.pinned⟩, fun _ => ⟨by dsimp only; rw [crypto], rfl⟩, ?_⟩
      dsimp only
      split
      · exact .reading
      · exact .handshake

/-- A write of the handshake fails. -/
theorem Abreast.hangUp (abreast : Abreast cfg mine names g₁ g₂ conn₁ conn₂)
    (ran : turn p cfg g₁ conn₁ .hangUp = some (g₁', conn₁')) :
    Echoes p cfg mine names g₂ conn₂ .hangUp g₁' conn₁' := by
  have peers := abreast.conns.toPeers
  have alike := abreast.conns.phase
  generalize phase₂ : conn₂.phase = place at alike
  simp only [turn, onHangUp] at ran
  split at ran
  · rename_i phase tcp
    cases ran
    rw [phase] at alike
    cases alike
    refine ⟨g₂, conn₂.goto .closed, ?_, abreast.shared, peers.goto rfl .closed⟩
    simp only [turn, onHangUp, phase₂, peers.transport, tcp]
  · rename_i phase
    cases ran
    rw [phase] at alike
    cases alike
    refine ⟨g₂, conn₂.goto .closed, ?_, abreast.shared, peers.goto rfl .closed⟩
    simp only [turn, onHangUp, phase₂]
  · cases ran

/-- The answer to the challenge. -/
theorem Abreast.answer (abreast : Abreast cfg mine names g₁ g₂ conn₁ conn₂)
    (handshake : conn₁.phase = .handshake) {payload : Option Bytes}
    (ran : turn p cfg g₁ conn₁ (.frame payload) = some (g₁', conn₁')) :
    Echoes p cfg mine names g₂ conn₂ (.frame payload) g₁' conn₁' := by
  have peers := abreast.conns.toPeers
  have alike := abreast.conns.phase
  generalize phase₂ : conn₂.phase = place at alike
  rw [handshake] at alike
  cases alike
  obtain ⟨crypto₂, challenge₂⟩ := abreast.conns.opening (by rw [handshake]; rfl)
  cases turn_cases ran with
  | @answered payload crypto phase checked =>
      refine ⟨g₂, { conn₂ with crypto := crypto, phase := .reading }, ?_, abreast.shared, ?_⟩
      · simp only [turn, onFrame, phase₂, crypto₂, challenge₂, checked]
      · exact ⟨⟨peers.transport, peers.id, peers.authenticated, peers.lastSnapId, peers.pinned⟩,
          fun opening => absurd opening Bool.false_ne_true, .reading⟩
  | refused phase checked =>
      refine ⟨g₂, conn₂.goto .closed, ?_, abreast.shared, peers.goto rfl .closed⟩
      simp only [turn, onFrame, phase₂, crypto₂, challenge₂, checked]
  | request phase read | hungUp phase read =>
      rw [handshake] at phase
      cases phase

/-- A request, or the end of the stream. -/
theorem Abreast.request (abreast : Abreast cfg mine names g₁ g₂ conn₁ conn₂)
    (reading : conn₁.phase = .reading) {payload₁ payload₂ : Option Bytes}
    (texts : Option.Rel (TextAlike p.stod names) (payload₁.bind (conn₁.textOf p.bcrypt))
      (payload₂.bind (conn₂.textOf p.bcrypt)))
    (ran : turn p cfg g₁ conn₁ (.frame payload₁) = some (g₁', conn₁')) :
    Echoes p cfg mine names g₂ conn₂ (.frame payload₂) g₁' conn₁' := by
  have peers := abreast.conns.toPeers
  have alike := abreast.conns.phase
  generalize phase₂ : conn₂.phase = place at alike
  rw [reading] at alike
  cases alike
  generalize read₂ : payload₂.bind (conn₂.textOf p.bcrypt) = taken at texts
  cases turn_cases ran with
  | request phase read =>
      rw [read] at texts
      cases texts with
      | @some _ text₂ same =>
          refine ⟨g₂, conn₂.onRequest p.stod cfg text₂, ?_, abreast.shared, peers.onRequest same⟩
          simp only [turn, onFrame, phase₂, read₂]
  | hungUp phase read =>
      rw [read] at texts
      cases texts
      refine ⟨g₂, conn₂.leave, ?_, abreast.shared, peers.leave⟩
      simp only [turn, onFrame, phase₂, read₂]
  | answered phase checked | refused phase checked =>
      rw [reading] at phase
      cases phase

/-- The engine answers. -/
theorem Abreast.core (abreast : Abreast cfg mine names g₁ g₂ conn₁ conn₂) {timedOut : Bool}
    {logs₁ : List LogMessage} {elapsed₁ duration₁ : Int} (logs₂ : List LogMessage)
    (elapsed₂ duration₂ : Int)
    (ran : turn p cfg g₁ conn₁ (.core timedOut logs₁ elapsed₁ duration₁) = some (g₁', conn₁')) :
    Echoes p cfg mine names g₂ conn₂ (.core timedOut logs₂ elapsed₂ duration₂) g₁' conn₁' := by
  have peers := abreast.conns.toPeers
  have alike := abreast.conns.phase
  generalize phase₂ : conn₂.phase = place at alike
  cases turn_cases ran with
  | @core _ _ _ _ req₁ snap old env done phase surroundings ranCore =>
      rw [phase] at alike
      cases alike with
      | @calling _ req₂ same =>
          subst surroundings ranCore
          obtain ⟨world, status, result⟩ := handle_sameCall p.backend same.toSameCall
            ⟨cfg.adminLogs, logs₁, elapsed₁⟩ ⟨cfg.adminLogs, logs₂, elapsed₂⟩ rfl duration₁
            duration₂
            snap old g₁.world
          have answer : RenamedResponse cfg.adminLogs names (some req₁)
              (if timedOut then timeoutResponse conn₁.transport req₁ else (handle p.backend
                ⟨cfg.adminLogs, logs₁, elapsed₁⟩ duration₁ req₁ snap old g₁.world).1)
              (if timedOut then timeoutResponse conn₂.transport req₂ else (handle p.backend
                ⟨cfg.adminLogs, logs₂, elapsed₂⟩ duration₂ req₂ snap old g₂.world).1) := by
            split
            · unfold timeoutResponse
              rw [peers.transport, errorResponse_congr same.id]
              exact RenamedResponse.refl _ _ _ _
            · rw [abreast.shared.world]
              refine ⟨status, result.imp (fun equal => ?_) fun logs => ⟨req₁, rfl, logs⟩⟩
              rw [equal]
              exact .same _
          refine ⟨_, _, by simp only [turn, onCore, phase₂]; rfl, ?_, ?_⟩
          · refine ⟨?_, abreast.shared.now, abreast.shared.store, abreast.shared.table⟩
            dsimp only
            rw [abreast.shared.world]
            exact world
          · exact peers.afterCore same answer

/-! ### The next actions -/

theorem RenamedResponse.caught {adminLogs : Bool} {req : Option CoreRequest}
    {resp₁ resp₂ : CoreResponse} (answer : RenamedResponse adminLogs names req resp₁ resp₂)
    (transport : Transport) (what : Bytes) :
    RenamedResponse adminLogs names req (caught transport resp₁ what)
      (caught transport resp₂ what) := by
  cases transport with
  | pipe => exact ⟨⟨answer.id, rfl, rfl, rfl⟩, Or.inl (.same _)⟩
  | tcp => exact ⟨⟨answer.id, rfl, rfl, answer.errorMessage⟩, answer.result⟩

theorem Abreast.capture (abreast : Abreast cfg mine names g₁ g₂ conn₁ conn₂)
    {resp₁ resp₂ : CoreResponse} {req₁ req₂ : CoreRequest} {next₁ next₂ : Snapshot → Phase}
    (answer : RenamedResponse cfg.adminLogs names (some req₁) resp₁ resp₂)
    (looping : ∀ s, (next₁ s).opening = false)
    (next : ∀ s, Phase.Alike (renamed cfg.adminLogs names) (next₁ s) (next₂ s)) :
    OutcomeAlike cfg mine names (capture p g₁ conn₁ resp₁ req₁ next₁)
      (capture p g₂ conn₂ resp₂ req₂ next₂) := by
  have peers := abreast.conns.toPeers
  unfold WinInspect.Daemon.capture
  rw [abreast.shared.world, peers.transport]
  rcases p.backend.apply .captureSnapshot g₁.world with ⟨what | s, w⟩
  · exact ⟨abreast.shared.withWorld w, peers.send (answer.caught _ what)⟩
  · exact ⟨abreast.shared.withWorld w, peers.goto (looping s) (next s)⟩

theorem Abreast.openSession (abreast : Abreast cfg mine names g₁ g₂ conn₁ conn₂)
    {req₁ req₂ : CoreRequest} (same : Renamed names req₁ req₂) {sid : Bytes} (own : mine sid)
    (uncapped : g₁.st.sessions.lookup sid = none →
      ¬ (conn₁.transport = .tcp ∧ cfg.maxSessions ≤ g₁.st.sessions.keys.card)) :
    OutcomeAlike cfg mine names (openSession cfg g₁ conn₁ req₁ sid)
      (openSession cfg g₂ conn₂ req₂ sid) := by
  have peers := abreast.conns.toPeers
  have table := abreast.shared.table
  have entry := table.entries sid own
  unfold WinInspect.Daemon.openSession
  cases known₁ : g₁.st.sessions.lookup sid with
  | some ps₁ =>
      cases known₂ : g₂.st.sessions.lookup sid with
      | none =>
          rw [known₁, known₂] at entry
          cases entry
      | some ps₂ =>
          rw [known₁, known₂] at entry
          cases entry with
          | some holds =>
              constructor
              · apply abreast.shared.withTable
                apply table.modify own
                intro _ _ entry
                exact ⟨entry.lastSnapId, abreast.shared.now⟩
              · apply Peers.route _ same
                exact ⟨peers.transport, rfl, peers.authenticated, holds.lastSnapId, peers.pinned⟩
  | none =>
      cases known₂ : g₂.st.sessions.lookup sid with
      | some ps₂ =>
          rw [known₁, known₂] at entry
          cases entry
      | none =>
          have room := uncapped known₁
          have room₂ : ¬ (conn₂.transport = .tcp ∧ cfg.maxSessions ≤ g₂.st.sessions.keys.card) := by
            rintro ⟨tcp, full⟩
            exact room ⟨peers.transport.symm.trans tcp, full.trans table.card_le⟩
          dsimp only
          rw [if_neg room, if_neg room₂]
          constructor
          · apply abreast.shared.withTable
            exact table.insert own ⟨Or.inl ⟨rfl, rfl⟩, abreast.shared.now⟩
          · apply Peers.route _ same
            exact ⟨peers.transport, rfl, peers.authenticated, peers.lastSnapId, peers.pinned⟩

theorem Abreast.unsubscribe (abreast : Abreast cfg mine names g₁ g₂ conn₁ conn₂)
    {req₁ req₂ : CoreRequest} (same : Renamed names req₁ req₂) (own : mine conn₁.session.id) :
    OutcomeAlike cfg mine names (unsubscribe g₁ conn₁ req₁) (unsubscribe g₂ conn₂ req₂) := by
  have peers := abreast.conns.toPeers
  have table := abreast.shared.table
  unfold WinInspect.Daemon.unsubscribe
  rw [peers.id, okResponse_congr same.id, if_congr (table.mem_iff own) rfl rfl]
  refine ⟨?_, peers.send (RenamedResponse.refl _ _ _ _)⟩
  dsimp only
  split
  · apply abreast.shared.withTable
    apply table.modify own
    intro _ _ entry
    exact ⟨Or.inl ⟨rfl, rfl⟩, entry.lastActivity⟩
  · exact abreast.shared.withTable table

theorem Abreast.terminate (abreast : Abreast cfg mine names g₁ g₂ conn₁ conn₂)
    {req₁ req₂ : CoreRequest} (same : Renamed names req₁ req₂) :
    OutcomeAlike cfg mine names (terminate cfg g₁ conn₁ req₁) (terminate cfg g₂ conn₂ req₂) := by
  have peers := abreast.conns.toPeers
  unfold WinInspect.Daemon.terminate
  rw [peers.id]
  constructor
  · apply abreast.shared.withTable
    exact abreast.shared.table.erase
  · apply Peers.proceed _ same
    exact ⟨peers.transport, rfl, peers.authenticated, peers.lastSnapId, peers.pinned⟩

/-- The loop of `snapshot.capture` ends at once. -/
theorem Abreast.evict (abreast : Abreast cfg mine names g₁ g₂ conn₁ conn₂)
    {req₁ req₂ : CoreRequest} (same : Renamed names req₁ req₂) {a b : Bytes}
    (named : (a, b) ∈ names) (fits : g₁.st.lruOrder.length ≤ cfg.maxSnapshots) :
    OutcomeAlike cfg mine names (evict cfg g₁ conn₁ req₁ a) (evict cfg g₂ conn₂ req₂ b) := by
  have fits₂ := abreast.shared.store.length.trans fits
  unfold WinInspect.Daemon.evict
  rw [if_neg (Nat.not_lt_of_le fits), if_neg (Nat.not_lt_of_le fits₂)]
  constructor
  · exact ⟨abreast.shared.world, abreast.shared.now, abreast.shared.store, abreast.shared.table⟩
  · apply abreast.conns.toPeers.send
    exact ⟨⟨same.id, rfl, rfl, rfl⟩, Or.inl (.issued [] named)⟩

/-- A snapshot that has been given to the client is found. -/
theorem Abreast.pin (abreast : Abreast cfg mine names g₁ g₂ conn₁ conn₂)
    {req₁ req₂ : CoreRequest} (same : Renamed names req₁ req₂) {a b : Bytes}
    (named : (a, b) ∈ names) :
    OutcomeAlike cfg mine names (pin g₁ conn₁ req₁ a) (pin g₂ conn₂ req₂ b) := by
  have peers := abreast.conns.toPeers
  have store := abreast.shared.store
  obtain ⟨s, found₁, found₂⟩ := store.snaps a b named
  obtain ⟨nonempty₁, nonempty₂⟩ := store.ids a b named
  unfold WinInspect.Daemon.pin
  rw [found₁, found₂, peers.transport]
  constructor
  · cases conn₁.transport with
    | pipe =>
        have touched : StoreAlike names ((g₁.st.addPin a 1).touch a) ((g₂.st.addPin b 1).touch b) :=
          (store.touch abreast.inv₁ abreast.inv₂ named).congr ⟨rfl, rfl, rfl⟩ ⟨rfl, rfl, rfl⟩
        exact abreast.shared.withSt touched abreast.shared.table
    | tcp =>
        have pinned : StoreAlike names (g₁.st.addPin a 1) (g₂.st.addPin b 1) :=
          store.congr ⟨rfl, rfl, rfl⟩ ⟨rfl, rfl, rfl⟩
        exact abreast.shared.withSt pinned abreast.shared.table
  · apply Peers.goto _ rfl (.findingOld same s)
    exact ⟨rfl, peers.id, peers.authenticated, peers.lastSnapId,
      iff_of_false nonempty₂ nonempty₁⟩

theorem Abreast.unpin (abreast : Abreast cfg mine names g₁ g₂ conn₁ conn₂) {phase : Phase}
    (looping : phase.opening = false)
    (alike : Phase.Alike (renamed cfg.adminLogs names) phase phase) :
    OutcomeAlike cfg mine names
      (g₁.withSt (g₁.st.addPin conn₁.pinnedSid (-1)), conn₁.goto phase)
      (g₂.withSt (g₂.st.addPin conn₂.pinnedSid (-1)), conn₂.goto phase) := by
  have unpinned : StoreAlike names (g₁.st.addPin conn₁.pinnedSid (-1))
      (g₂.st.addPin conn₂.pinnedSid (-1)) :=
    abreast.shared.store.congr ⟨rfl, rfl, rfl⟩ ⟨rfl, rfl, rfl⟩
  exact ⟨abreast.shared.withSt unpinned abreast.shared.table,
    abreast.conns.toPeers.goto looping alike⟩

/-- The ids of the snapshots to compare with. -/
theorem Abreast.oldSid (abreast : Abreast cfg mine names g₁ g₂ conn₁ conn₂)
    {req₁ req₂ : CoreRequest} (same : Renamed names req₁ req₂) :
    Option.Rel (fun a b => (a, b) ∈ names) (oldSid conn₁ req₁) (oldSid conn₂ req₂) := by
  have named := same.oldSnapshot
  unfold WinInspect.Daemon.oldSid
  rw [same.method]
  generalize getStr req₁.params "old_snapshot_id" = old₁ at named ⊢
  generalize getStr req₂.params "old_snapshot_id" = old₂ at named ⊢
  cases named with
  | some member => exact .some member
  | none =>
      dsimp only
      rcases abreast.conns.lastSnapId with ⟨empty₁, empty₂⟩ | member
      · rw [empty₁, empty₂]
        simp only [ne_eq, not_true_eq_false, and_false, if_false]
        exact .none
      · obtain ⟨nonempty₁, nonempty₂⟩ := abreast.shared.store.ids _ _ member
        simp only [ne_eq, nonempty₁, nonempty₂, not_false_eq_true, and_true]
        split
        · exact .some member
        · exact .none

/-- The turns that store no snapshot. -/
theorem Abreast.go (abreast : Abreast cfg mine names g₁ g₂ conn₁ conn₂)
    (own : OwnTurn cfg mine g₁ conn₁) (quiet : conn₁.phase.issues = none)
    (ran : turn p cfg g₁ conn₁ .go = some (g₁', conn₁')) :
    Echoes p cfg mine names g₂ conn₂ .go g₁' conn₁' := by
  have peers := abreast.conns.toPeers
  have alike := abreast.conns.phase
  have enters := own.enters
  have uncapped := own.uncapped
  have calm := own.calm
  have turned : turn p cfg g₂ conn₂ .go = onGo p cfg g₂ conn₂ := rfl
  have unfolded : onGo p cfg g₁ conn₁ = some (g₁', conn₁') := ran
  unfold Conn.calm at calm
  generalize phase₁ : conn₁.phase = place₁ at alike quiet enters uncapped calm
  generalize phase₂ : conn₂.phase = place₂ at alike
  cases alike with
  | subscribed | captured | storing => cases quiet
  | starting | handshake | reading | calling | closed =>
      simp only [onGo, phase₁] at unfolded
      cases unfolded
  | session same sid =>
      simp only [onGo, phase₁, phase₂] at unfolded turned
      exact Echoes.of_locked abreast.free unfolded turned
        (abreast.openSession same (enters _ _ rfl) (uncapped _ _ rfl))
  | subscribing same =>
      simp only [onGo, phase₁, phase₂, same.id] at unfolded turned
      exact Echoes.of_some unfolded turned (abreast.capture (RenamedResponse.refl _ _ _ _)
        (fun _ => rfl) fun s => .subscribed same s)
  | capturing same =>
      simp only [onGo, phase₁, phase₂, same.id] at unfolded turned
      exact Echoes.of_some unfolded turned (abreast.capture (RenamedResponse.refl _ _ _ _)
        (fun _ => rfl) fun s => .captured same s)
  | polled same snap old answer =>
      simp only [onGo, phase₁, phase₂] at unfolded turned
      exact Echoes.of_some unfolded turned (abreast.capture answer (fun _ => rfl)
        fun s => .storing same snap old answer s)
  | unsubscribing same =>
      simp only [onGo, phase₁, phase₂] at unfolded turned
      have named := abreast.owns.named (by rw [phase₁]; rfl)
      exact Echoes.of_locked abreast.free unfolded turned
        (abreast.unsubscribe same (abreast.owns.session.resolve_left named))
  | terminating same =>
      simp only [onGo, phase₁, phase₂] at unfolded turned
      exact Echoes.of_locked abreast.free unfolded turned (abreast.terminate same)
  | evicting same named =>
      simp only [onGo, phase₁, phase₂] at unfolded turned
      exact Echoes.of_some unfolded turned (abreast.evict same named (calm rfl))
  | finding same =>
      simp only [onGo, phase₁, phase₂, same.id] at unfolded turned
      have snapshot := same.snapshot
      generalize getStr _ "snapshot_id" = named₁ at snapshot unfolded
      generalize getStr _ "snapshot_id" = named₂ at snapshot turned
      cases snapshot with
      | some named =>
          exact Echoes.of_locked abreast.free unfolded turned (abreast.pin same named)
      | none =>
          exact Echoes.of_some unfolded turned (abreast.capture (RenamedResponse.refl _ _ _ _)
            (fun _ => rfl) fun s => .findingOld same s)
  | findingOld same snap =>
      simp only [onGo, phase₁, phase₂] at unfolded turned
      have old := abreast.oldSid same
      generalize WinInspect.Daemon.oldSid conn₁ _ = old₁ at old unfolded
      generalize WinInspect.Daemon.oldSid conn₂ _ = old₂ at old turned
      cases old with
      | some named =>
          obtain ⟨s, found₁, found₂⟩ := abreast.shared.store.snaps _ _ named
          simp only [found₁, found₂] at unfolded turned
          exact Echoes.of_locked abreast.free unfolded turned
            ⟨abreast.shared, peers.goto rfl (.calling same snap (some s))⟩
      | none =>
          exact Echoes.of_some unfolded turned
            ⟨abreast.shared, peers.goto rfl (.calling same snap none)⟩
  | @sending req₁ req₂ resp₁ resp₂ answer =>
      simp only [onGo, phase₁, phase₂] at unfolded turned
      obtain ⟨crypto₁, written₁⟩ := write_eq p.bcrypt conn₁ (serializeResponseJson resp₁)
      obtain ⟨crypto₂, written₂⟩ := write_eq p.bcrypt conn₂ (serializeResponseJson resp₂)
      rw [written₁] at unfolded
      rw [written₂] at turned
      apply Echoes.of_some unfolded turned
      refine ⟨abreast.shared, Peers.afterSend ?_⟩
      exact ⟨peers.transport, peers.id, peers.authenticated, peers.lastSnapId, peers.pinned⟩
  | unpinning =>
      simp only [onGo, phase₁, phase₂] at unfolded turned
      exact Echoes.of_locked abreast.free unfolded turned (abreast.unpin rfl .reading)
  | leaving =>
      simp only [onGo, phase₁, phase₂] at unfolded turned
      exact Echoes.of_locked abreast.free unfolded turned (abreast.unpin rfl .closing)
  | closing =>
      simp only [onGo, phase₁, phase₂] at unfolded turned
      apply Echoes.of_some unfolded turned
      refine ⟨abreast.shared.withSt ?_ abreast.shared.table, peers.goto rfl .closed⟩
      exact abreast.shared.store.congr ⟨rfl, rfl, rfl⟩ ⟨rfl, rfl, rfl⟩

/-- Store a snapshot in both runs, and make it the baseline of a session. -/
theorem Abreast.rebase (abreast : Abreast cfg mine names g₁ g₂ conn₁ conn₂)
    (few : g₁.st.snapCounter < 2 ^ 64) (s : Snapshot)
    {change₁ change₂ : PersistentSession → PersistentSession}
    (changes : ∀ ps₁ ps₂, ps₂.lastActivity = ps₁.lastActivity →
      SameEntry (names ++ [(g₁.st.nextSid, g₂.st.nextSid)]) (change₁ ps₁) (change₂ ps₂)) :
    SharedAlike mine (names ++ [(g₁.st.nextSid, g₂.st.nextSid)])
      (g₁.withSt (if conn₁.session.id = [] then g₁.st.issue s
        else (g₁.st.issue s).modifySession conn₁.session.id change₁))
      (g₂.withSt (if conn₂.session.id = [] then g₂.st.issue s
        else (g₂.st.issue s).modifySession conn₂.session.id change₂)) := by
  have store := abreast.shared.store.issue abreast.inv₁ abreast.inv₂ few s
  have table := abreast.shared.table.mono
    (List.subset_append_left names [(g₁.st.nextSid, g₂.st.nextSid)])
  have issued := abreast.shared.withSt store table
  rw [abreast.conns.id]
  split
  · exact issued
  · rename_i named
    apply issued.withTable
    apply table.modify (abreast.owns.session.resolve_left named)
    intro ps₁ ps₂ entry
    exact changes ps₁ ps₂ entry.lastActivity

/-- The turns that store a snapshot extend the renaming. -/
theorem Abreast.issue (abreast : Abreast cfg mine names g₁ g₂ conn₁ conn₂)
    (few : g₁.st.snapCounter < 2 ^ 64) {s : Snapshot} (issues : conn₁.phase.issues = some s)
    (ran : turn p cfg g₁ conn₁ .go = some (g₁', conn₁')) :
    Echoes p cfg mine (names ++ [(g₁.st.nextSid, g₂.st.nextSid)]) g₂ conn₂ .go g₁' conn₁' := by
  have more := List.subset_append_left names [(g₁.st.nextSid, g₂.st.nextSid)]
  have newest : (g₁.st.nextSid, g₂.st.nextSid) ∈ names ++ [(g₁.st.nextSid, g₂.st.nextSid)] :=
    List.mem_append_right _ List.mem_cons_self
  have peers := abreast.conns.toPeers.mono more
  have alike := abreast.conns.phase
  have turned : turn p cfg g₂ conn₂ .go = onGo p cfg g₂ conn₂ := rfl
  have unfolded : onGo p cfg g₁ conn₁ = some (g₁', conn₁') := ran
  generalize phase₁ : conn₁.phase = place₁ at alike issues
  generalize phase₂ : conn₂.phase = place₂ at alike
  cases alike with
  | subscribed same base =>
      simp only [onGo, phase₁, phase₂] at unfolded turned
      apply Echoes.of_locked abreast.free unfolded turned
      constructor
      · exact abreast.rebase few base fun _ _ active => ⟨Or.inr newest, active⟩
      · apply Peers.send
        · exact ⟨peers.transport, peers.id, peers.authenticated, Or.inr newest, peers.pinned⟩
        · exact ⟨⟨same.id, rfl, rfl, rfl⟩,
            Or.inl (.issued [("subscribed", .bool true)] newest)⟩
  | captured same s =>
      simp only [onGo, phase₁, phase₂] at unfolded turned
      apply Echoes.of_locked abreast.free unfolded turned
      constructor
      · exact ⟨abreast.shared.world, abreast.shared.now,
          abreast.shared.store.issue abreast.inv₁ abreast.inv₂ few s,
          abreast.shared.table.mono more⟩
      · exact peers.goto rfl (.evicting (same.mono more) newest)
  | storing same snap old answer fresh =>
      simp only [onGo, phase₁, phase₂] at unfolded turned
      apply Echoes.of_locked abreast.free unfolded turned
      constructor
      · exact abreast.rebase few fresh fun _ _ active => ⟨Or.inr newest, active⟩
      · apply Peers.send
        · exact ⟨peers.transport, peers.id, peers.authenticated, Or.inr newest, peers.pinned⟩
        · exact answer.mono more
  | _ => cases issues

theorem Phase.Alike.issues {like : Likeness} {phase₁ phase₂ : Phase}
    (alike : Phase.Alike like phase₁ phase₂) : phase₂.issues = phase₁.issues := by
  cases alike <;> rfl

/-- A snapshot is stored without an input. -/
theorem go_of_issues {conn : Conn} {g g' : Shared σ} {conn' : Conn} {input : Input} {s : Snapshot}
    (issues : conn.phase.issues = some s)
    (ran : WinInspect.Daemon.turn p cfg g conn input = some (g', conn')) : input = .go := by
  cases turn_cases ran with
  | startPipe phase _ | startTcp phase _ | answered phase _ | refused phase _ | request phase _
  | hungUp phase _ | core phase _ _ =>
      rw [phase] at issues
      cases issues
  | hangUp phase => rcases phase with phase | phase <;> rw [phase] at issues <;> cases issues
  | _ => rfl

/-- Every turn of the client is made in both runs, and keeps them alike. -/
theorem Abreast.turn (abreast : Abreast cfg mine names g₁ g₂ conn₁ conn₂)
    (own : OwnTurn cfg mine g₁ conn₁) (inputs : InputAlike p names conn₁ conn₂ input₁ input₂)
    (ran : turn p cfg g₁ conn₁ input₁ = some (g₁', conn₁')) :
    Echoes p cfg mine (names ++ (conn₁.stores g₁).zip (conn₂.stores g₂)) g₂ conn₂ input₂ g₁'
      conn₁' := by
  have both := abreast.conns.phase.issues
  unfold Conn.stores
  rw [both]
  cases issues : conn₁.phase.issues with
  | some s =>
      cases go_of_issues issues ran
      cases inputs
      exact abreast.issue own.few issues ran
  | none =>
      simp only [Option.map_none, Option.toList_none, List.zip_nil_left, List.append_nil]
      cases inputs with
      | start keyPair nonce => exact abreast.start ran
      | hangUp => exact abreast.hangUp ran
      | answer phase payload => exact abreast.answer phase ran
      | request phase texts => exact abreast.request phase texts ran
      | core => exact abreast.core _ _ _ ran
      | go => exact abreast.go own issues ran

end

end WinInspect.Daemon
