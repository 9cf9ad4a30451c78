import WinInspect.Crypto.Recorded
import WinInspect.Daemon.Turn

/-!
# Encryption of the request loop

The frames that a TCP connection accepts and writes in its request loop are an auxiliary
variable of the connection.  They are sealed with the session key when the handshake has
agreed on one, and plain otherwise.
-/

namespace WinInspect.Daemon

open Transition (Config System)
open Transition.System (Aux Guard)

variable {σ : Type}

/-- A frame of the request loop with its text; a write may fail. -/
inductive Traffic where
  | accepted (frame text : Bytes)
  | sent (text : Bytes) (frame : Option Bytes)
  deriving DecidableEq

/-- The frame of a turn. -/
def Conn.traffic (bcrypt : Crypto.BCrypt) (conn : Conn) (input : Input) : List Traffic :=
  match conn.transport, conn.phase, input with
  | .tcp, .reading, .frame (some frame) =>
      ((conn.textOf bcrypt frame).map fun text => .accepted frame text).toList
  | .tcp, .sending _ resp, .go =>
      [.sent (serializeResponseJson resp) (conn.write bcrypt (serializeResponseJson resp)).1]
  | _, _, _ => []

/-- Record the frames of the request loop. -/
def traffic (p : Platform σ) :
    Aux (Shared σ) Conn Input Transport (Outside σ) Unit (List Traffic) where
  turn _ conn input _ _ _ seen := ((), seen ++ conn.traffic p.bcrypt input)
  spawn _ _ _ _ _ := ((), [])
  env _ _ _ _ := ()

/-- The frame is sealed with a key. -/
def Traffic.Sealed (bcrypt : Crypto.BCrypt) (key : Bytes) : Traffic → Prop
  | .accepted frame text => Crypto.Opens bcrypt key frame text
  | .sent text frame => ∀ written, frame = some written → Crypto.Seals bcrypt key written text

/-- Every frame of the request loops is sealed with the session key of its connection. -/
def Encrypted (p : Platform σ) (config : Config (Shared σ × Unit) (Conn × List Traffic)) : Prop :=
  ∀ conn ∈ config.parts, ∀ entry ∈ conn.2,
    ∃ key, conn.1.crypto.sessionKey = some key ∧ entry.Sealed p.bcrypt key

/-- A handshake answer that is accepted agrees on a key: it has a `pubkey` string, and the
agreement with the decoded key succeeds. -/
def Exchanges (p : Platform σ) (keysData : Bytes) (localKey : Option Bytes)
    (challenge frame : Bytes) : Prop :=
  ∀ answer, readAnswer p.stod frame = some answer →
    answer.verifies p.bcrypt keysData challenge = true →
      ∃ pubkey key, answer.pubkey = some pubkey ∧
        localKey.bind (fun own => p.bcrypt.agree own (Base64.decode pubkey)) = some key

/-- The condition on a step: the local key, the challenge and the answer of a handshake
are among given ones. -/
def handshakesAmong (allowed : Option Bytes → Bytes → Bytes → Prop) :
    Guard (Shared σ) Conn Input Transport (Outside σ) where
  turn _ conn input := conn.phase = .handshake → ∀ frame, input = .frame (some frame) →
    allowed conn.crypto.localKey conn.challenge frame

/-! ## With a key -/

section

variable {p : Platform σ} {cfg : Settings} {g g' : Shared σ} {conn conn' : Conn} {input : Input}

theorem isInitialized_of_key {crypto : Crypto.CryptoSession} {key : Bytes}
    (keyed : crypto.sessionKey = some key) : crypto.isInitialized = true := by
  rw [Crypto.CryptoSession.isInitialized, keyed]
  rfl

/-- An accepted answer leaves a session key. -/
theorem key_of_checkAnswer {keysData challenge frame : Bytes}
    {crypto crypto' : Crypto.CryptoSession}
    (exchanges : Exchanges p keysData crypto.localKey challenge frame)
    (accepted : checkAnswer p.stod p.bcrypt keysData challenge crypto frame = some crypto') :
    ∃ key, crypto'.sessionKey = some key := by
  obtain ⟨answer, read, checked⟩ := Option.bind_eq_some_iff.mp accepted
  split at checked
  · rename_i verifies
    obtain ⟨pubkey, key, offered, agreed⟩ := exchanges answer read verifies
    cases checked
    refine ⟨key, ?_⟩
    simp only [Answer.exchange, offered, Crypto.CryptoSession.computeSharedSecret, agreed]
  · cases checked

/-- With a session key the frames of a turn are sealed with it. -/
theorem traffic_sealed {key : Bytes} (keyed : conn.crypto.sessionKey = some key) :
    ∀ entry ∈ conn.traffic p.bcrypt input, entry.Sealed p.bcrypt key := by
  intro entry member
  unfold Conn.traffic at member
  split at member
  · rename_i frame tcp phase
    simp only [Option.mem_toList, Option.map_eq_some_iff] at member
    obtain ⟨text, read, rfl⟩ := member
    rw [Conn.textOf, tcp] at read
    simp only [isInitialized_of_key keyed, if_true] at read
    exact (Crypto.opens_of_encryptedRecv keyed read).1
  · rename_i req resp tcp phase
    cases List.mem_singleton.mp member
    intro written sent
    rw [Conn.write, if_pos ⟨tcp, isInitialized_of_key keyed⟩] at sent
    rcases (Crypto.encryptedSend_cases p.bcrypt keyed (serializeResponseJson resp)).2 with
      ⟨_, failed⟩ | ⟨frame, done, _, sealed⟩
    · rw [failed] at sent
      cases sent
    · rw [done] at sent
      cases sent
      exact sealed
  · cases member

/-- In the request loop only the counter of the session changes. -/
theorem turn_reset (looping : conn.phase.opening = false)
    (ran : turn p cfg g conn input = some (g', conn')) :
    conn'.crypto.reset = conn.crypto.reset := by
  rcases (turn_looping looping ran).2 with same | ⟨req, resp, phase, rfl, written⟩
  · rw [same]
  · rw [written, Conn.write]
    split
    · rename_i initialized
      obtain ⟨key, keyed⟩ := Option.isSome_iff_exists.mp initialized.2
      simp only [(Crypto.encryptedSend_cases p.bcrypt keyed (serializeResponseJson resp)).1]
      rfl
    · rfl

theorem turn_sessionKey (looping : conn.phase.opening = false)
    (ran : turn p cfg g conn input = some (g', conn')) :
    conn'.crypto.sessionKey = conn.crypto.sessionKey := by
  have same := congrArg Crypto.CryptoSession.sessionKey (turn_reset looping ran)
  exact same

theorem traffic_opening (bcrypt : Crypto.BCrypt) (opening : conn.phase.opening = true) :
    conn.traffic bcrypt input = [] := by
  unfold Conn.traffic
  split
  · rename_i phase
    rw [phase] at opening
    cases opening
  · rename_i phase
    rw [phase] at opening
    cases opening
  · rfl

/-- A TCP connection of a daemon with keys enters its request loop with a session key. -/
theorem turn_opening (keys : cfg.authKeysData ≠ []) (tcp : conn.transport = .tcp)
    (opening : conn.phase.opening = true)
    (exchanges : (handshakesAmong (Exchanges p cfg.authKeysData)).turn g conn input)
    (ran : turn p cfg g conn input = some (g', conn')) :
    (conn'.phase.opening = true ∨ conn'.phase = .closed) ∨
      conn'.phase.opening = false ∧ ∃ key, conn'.crypto.sessionKey = some key := by
  rcases opening_cases opening ran with ⟨pipe, _⟩ | ⟨_, keyPair, nonce, rfl⟩ | rfl |
    ⟨frame, crypto, rfl, phase, accepted, rfl⟩
  · rw [tcp] at pipe
    cases pipe
  · exact Or.inl (Or.inl (by simp [keys, Phase.opening]))
  · exact Or.inl (Or.inr rfl)
  · exact Or.inr ⟨rfl, key_of_checkAnswer (exchanges phase frame rfl) accepted⟩

end

/-- A TCP connection has no traffic before its request loop, and sealed traffic in it. -/
def Shielded (bcrypt : Crypto.BCrypt) (conn : Conn) (seen : List Traffic) : Prop :=
  match conn.transport with
  | .pipe => seen = []
  | .tcp => (conn.phase.opening = true ∨ conn.phase = .closed) ∧ seen = [] ∨
      conn.phase.opening = false ∧ ∃ key, conn.crypto.sessionKey = some key ∧
        ∀ entry ∈ seen, entry.Sealed bcrypt key

theorem Shielded.turn {p : Platform σ} {cfg : Settings} {g g' : Shared σ} {conn conn' : Conn}
    {input : Input} {seen : List Traffic} (keys : cfg.authKeysData ≠ [])
    (shielded : Shielded p.bcrypt conn seen)
    (exchanges : (handshakesAmong (Exchanges p cfg.authKeysData)).turn g conn input)
    (ran : turn p cfg g conn input = some (g', conn')) :
    Shielded p.bcrypt conn' (seen ++ conn.traffic p.bcrypt input) := by
  have same := turn_transport ran
  unfold Shielded at shielded ⊢
  cases transport : conn.transport with
  | pipe =>
      rw [transport] at shielded same
      rw [same]
      dsimp only at shielded ⊢
      simp only [shielded, Conn.traffic, transport, List.append_nil]
  | tcp =>
      rw [transport] at shielded same
      rw [same]
      dsimp only at shielded ⊢
      rcases shielded with ⟨opening | closed, rfl⟩ | ⟨looping, key, keyed, sealed⟩
      · rw [traffic_opening p.bcrypt opening]
        rcases turn_opening keys transport opening exchanges ran with still | ⟨entered, key, keyed⟩
        · exact Or.inl ⟨still, rfl⟩
        · exact Or.inr ⟨entered, key, keyed, nofun⟩
      · rw [turn_closed closed] at ran
        cases ran
      · refine Or.inr ⟨(turn_looping looping ran).1, key, ?_, ?_⟩
        · rw [turn_sessionKey looping ran, keyed]
        · intro entry member
          rcases List.mem_append.mp member with old | new
          · exact sealed entry old
          · exact traffic_sealed keyed entry new

/-- The daemon just after start-up, with nothing on the wire. -/
def untapped (world : σ) : Config (Shared σ × Unit) (Conn × List Traffic) :=
  ⟨({ world := world }, ()), []⟩

theorem encrypted_of_exchanges {p : Platform σ} {cfg : Settings} (keys : cfg.authKeysData ≠ [])
    {allowed : Option Bytes → Bytes → Bytes → Prop}
    (exchanges : ∀ localKey challenge frame, allowed localKey challenge frame →
      Exchanges p cfg.authKeysData localKey challenge frame)
    {world : σ} {target : Config (Shared σ × Unit) (Conn × List Traffic)}
    (run : ((daemon p cfg).withAux (traffic p)).Runs (handshakesAmong allowed).lift
      (untapped world) target) :
    Encrypted p target := by
  have shielded : ∀ conn ∈ target.parts, Shielded p.bcrypt conn.1 conn.2 := by
    refine forall_conn_aux run ?_ ?_
    · intro transport g a
      cases transport with
      | pipe => rfl
      | tcp => exact Or.inl ⟨Or.inl rfl, rfl⟩
    · intro g conn input g' conn' a seen shielded fits ran
      refine shielded.turn keys (fun phase frame sent => ?_) ran
      exact exchanges _ _ _ (fits phase frame sent)
  intro conn member entry recorded
  have holds := shielded conn member
  unfold Shielded at holds
  split at holds
  · rw [holds] at recorded
    cases recorded
  · rcases holds with ⟨_, nothing⟩ | ⟨_, key, keyed, sealed⟩
    · rw [nothing] at recorded
      cases recorded
    · exact ⟨key, keyed, sealed entry recorded⟩

/-! ## Without a key -/

/-- A TCP connection after a handshake that has not agreed on a key. -/
def plainConn (localKey : Option Bytes) (challenge : Bytes) (phase : Phase) : Conn :=
  { transport := .tcp, crypto := { localKey := localKey }, challenge := challenge, phase := phase }

section

variable {p : Platform σ} {cfg : Settings} {g : Shared σ} {localKey : Option Bytes}
  {challenge frame : Bytes}

theorem plain_start (keys : cfg.authKeysData ≠ []) :
    turn p cfg g { transport := .tcp } (.start localKey challenge) =
      some (g, plainConn localKey challenge .handshake) := by
  simp only [turn, onStart, if_neg keys]
  cases localKey <;> rfl

/-- An answer that is accepted without a key exchange. -/
theorem plain_answer {answer : Answer} (read : readAnswer p.stod frame = some answer)
    (verifies : answer.verifies p.bcrypt cfg.authKeysData challenge = true)
    (keyless : ¬ ∃ pubkey key, answer.pubkey = some pubkey ∧
      localKey.bind (fun own => p.bcrypt.agree own (Base64.decode pubkey)) = some key) :
    turn p cfg g (plainConn localKey challenge .handshake) (.frame (some frame)) =
      some (g, plainConn localKey challenge .reading) := by
  have kept : answer.exchange p.bcrypt { localKey := localKey } = { localKey := localKey } := by
    unfold Answer.exchange
    cases offered : answer.pubkey with
    | none => rfl
    | some pubkey =>
        dsimp only [Crypto.CryptoSession.computeSharedSecret]
        cases agreed : localKey.bind fun own => p.bcrypt.agree own (Base64.decode pubkey) with
        | none => rfl
        | some key => exact absurd ⟨pubkey, key, offered, agreed⟩ keyless
  have checked : checkAnswer p.stod p.bcrypt cfg.authKeysData challenge { localKey := localKey }
      frame = some { localKey := localKey } := by
    simp only [checkAnswer, read, Option.bind_some, verifies, if_true, kept]
  simp only [turn, onFrame, plainConn, Option.bind_some, checked]

end

/-- After a handshake without a key exchange the server accepts a plain frame. -/
theorem not_encrypted {p : Platform σ} {cfg : Settings} (keys : cfg.authKeysData ≠ [])
    {allowed : Option Bytes → Bytes → Bytes → Prop} {localKey : Option Bytes}
    {challenge frame : Bytes} (among : allowed localKey challenge frame)
    (keyless : ¬ Exchanges p cfg.authKeysData localKey challenge frame) (world : σ) :
    ∃ target, ((daemon p cfg).withAux (traffic p)).Runs (handshakesAmong allowed).lift
      (untapped world) target ∧ ¬ Encrypted p target := by
  obtain ⟨answer, read, verifies, unagreed⟩ : ∃ answer, readAnswer p.stod frame = some answer ∧
      answer.verifies p.bcrypt cfg.authKeysData challenge = true ∧
      ¬ ∃ pubkey key, answer.pubkey = some pubkey ∧
        localKey.bind (fun own => p.bcrypt.agree own (Base64.decode pubkey)) = some key := by
    by_contra none
    exact keyless fun answer read verifies =>
      by_contra fun unagreed => none ⟨answer, read, verifies, unagreed⟩
  have accepted : ((daemon p cfg).withAux (traffic p)).Runs (handshakesAmong allowed).lift
      (untapped world) ⟨({ world := world }, ()), [({ transport := .tcp }, [])]⟩ :=
    Transition.Steps.single
      (show (handshakesAmong allowed).lift.allows _ (.spawn .tcp) from trivial) rfl
  have started : turn p cfg { world := world } { transport := .tcp } (.start localKey challenge) =
      some (_, plainConn localKey challenge .handshake) :=
    plain_start keys
  have answered : turn p cfg { world := world } (plainConn localKey challenge .handshake)
      (.frame (some frame)) = some (_, plainConn localKey challenge .reading) :=
    plain_answer read verifies unagreed
  have plainText : turn p cfg { world := world } (plainConn localKey challenge .reading)
      (.frame (some [0])) = some ({ world := world },
        (plainConn localKey challenge .reading).onRequest p.stod cfg [0]) := rfl
  have shaking := accepted.solo_aux (i := .start localKey challenge) nofun started
  have reading := shaking.solo_aux (i := .frame (some frame))
    (fun _ other sent => Option.some.inj (Input.frame.inj sent) ▸ among) answered
  refine ⟨_, reading.solo_aux (i := .frame (some [0])) nofun plainText, ?_⟩
  intro encrypted
  obtain ⟨key, keyed, _⟩ := encrypted _ List.mem_cons_self (.accepted [0] [0])
    List.mem_cons_self
  rw [turn_sessionKey rfl plainText] at keyed
  cases keyed

/-- Among given handshakes: in every run the frames of the request loops are sealed with
the session key if and only if each of the handshakes, if it is accepted, exchanges keys. -/
theorem encrypted_iff_exchanges (p : Platform σ) (cfg : Settings) (keys : cfg.authKeysData ≠ [])
    (allowed : Option Bytes → Bytes → Bytes → Prop) (world : σ) :
    (∀ target, ((daemon p cfg).withAux (traffic p)).Runs (handshakesAmong allowed).lift
        (untapped world) target → Encrypted p target) ↔
      ∀ localKey challenge frame, allowed localKey challenge frame →
        Exchanges p cfg.authKeysData localKey challenge frame := by
  constructor
  · intro encrypted localKey challenge frame among
    by_contra keyless
    obtain ⟨target, run, plain⟩ := not_encrypted keys among keyless world
    exact plain (encrypted target run)
  · intro exchanges target run
    exact encrypted_of_exchanges keys exchanges run

/-! ## The server's end of the channel -/

/-- The event of the channel that a frame of the loop is. -/
def Traffic.event : Traffic → Crypto.Event
  | .accepted frame _ => .deliver frame
  | .sent text _ => .send .server text

/-- The text handed to the dispatcher. -/
def Traffic.request : Traffic → Option Bytes
  | .accepted _ text => some text
  | .sent _ _ => none

/-- The traffic takes the server's end of a channel from one session to another, whatever
the session of the client. -/
def Serves (bcrypt : Crypto.BCrypt) (start finish : Crypto.CryptoSession)
    (seen : List Traffic) : Prop :=
  ∀ channel : Crypto.Channel, channel.session .server = start → channel.listening = true →
    ∃ channel', Transition.exec (Crypto.Channel.step bcrypt) channel (seen.map Traffic.event) =
        some channel' ∧
      channel'.session .server = finish ∧ channel'.listening = true ∧
      channel'.received = channel.received ++ seen.filterMap Traffic.request

theorem Serves.refl (bcrypt : Crypto.BCrypt) (session : Crypto.CryptoSession) :
    Serves bcrypt session session [] := by
  intro channel server listening
  exact ⟨channel, rfl, server, listening, by simp⟩

theorem Serves.trans {bcrypt : Crypto.BCrypt} {start middle finish : Crypto.CryptoSession}
    {first second : List Traffic} (before : Serves bcrypt start middle first)
    (after : Serves bcrypt middle finish second) :
    Serves bcrypt start finish (first ++ second) := by
  intro channel server listening
  obtain ⟨channel₁, run₁, server₁, listening₁, received₁⟩ := before channel server listening
  obtain ⟨channel₂, run₂, server₂, listening₂, received₂⟩ := after channel₁ server₁ listening₁
  refine ⟨channel₂, ?_, server₂, listening₂, ?_⟩
  · rw [List.map_append, Transition.exec_append, run₁, Option.bind_some, run₂]
  · rw [received₂, received₁, List.filterMap_append, List.append_assoc]

section

variable {p : Platform σ} {cfg : Settings} {g g' : Shared σ} {conn conn' : Conn} {input : Input}

theorem serves_accepted {bcrypt : Crypto.BCrypt} {session : Crypto.CryptoSession}
    {frame text : Bytes} (read : Crypto.encryptedRecv bcrypt session frame = some text) :
    Serves bcrypt session session [.accepted frame text] := by
  intro channel server listening
  refine ⟨{ channel with received := channel.received ++ [text] }, ?_, server, listening, rfl⟩
  simp only [List.map_cons, List.map_nil, Traffic.event, Transition.exec_cons, Transition.exec_nil,
    Crypto.Channel.step, listening, if_true, Crypto.Channel.deliver, server, read,
    Option.bind_some]

theorem serves_sent (bcrypt : Crypto.BCrypt) (session : Crypto.CryptoSession) (text : Bytes)
    (frame : Option Bytes) :
    Serves bcrypt session (Crypto.encryptedSend bcrypt session text).2 [.sent text frame] := by
  intro channel server listening
  refine ⟨channel.send bcrypt .server text, rfl, ?_, listening, ?_⟩
  · simp [Crypto.Channel.send, server]
  · simp [Crypto.Channel.send, Traffic.request]

/-- A turn in the loop of a connection with a session key is a move of the server's end. -/
theorem turn_serves (tcp : conn.transport = .tcp) (looping : conn.phase.opening = false)
    {key : Bytes} (keyed : conn.crypto.sessionKey = some key)
    (ran : turn p cfg g conn input = some (g', conn')) :
    Serves p.bcrypt conn.crypto conn'.crypto (conn.traffic p.bcrypt input) := by
  have initialized := isInitialized_of_key keyed
  by_cases sending : ∃ req resp, conn.phase = .sending req resp ∧ input = .go
  · obtain ⟨req, resp, phase, rfl⟩ := sending
    simp only [turn, onGo, phase, Conn.write, tcp, initialized, and_self, if_true] at ran
    cases ran
    simp only [Conn.traffic, tcp, phase]
    exact serves_sent p.bcrypt conn.crypto _ _
  · have same : conn'.crypto = conn.crypto := by
      refine (turn_looping looping ran).2.resolve_right ?_
      rintro ⟨req, resp, phase, go, _⟩
      exact sending ⟨req, resp, phase, go⟩
    rw [same]
    unfold Conn.traffic
    split
    · rename_i frame _ _
      cases read : conn.textOf p.bcrypt frame with
      | none => exact Serves.refl _ _
      | some text =>
          simp only [Conn.textOf, tcp, initialized, if_true] at read
          exact serves_accepted read
    · rename_i req resp _ phase
      exact absurd ⟨req, resp, phase, rfl⟩ sending
    · exact Serves.refl _ _

/-- The key exchange does not touch the counter. -/
theorem nonceCounter_of_checkAnswer {keysData challenge frame : Bytes}
    {crypto crypto' : Crypto.CryptoSession}
    (accepted : checkAnswer p.stod p.bcrypt keysData challenge crypto frame = some crypto') :
    crypto'.nonceCounter = crypto.nonceCounter := by
  obtain ⟨answer, _, checked⟩ := Option.bind_eq_some_iff.mp accepted
  split at checked
  · cases checked
    unfold Answer.exchange
    split
    · rfl
    · unfold Crypto.CryptoSession.computeSharedSecret
      split <;> rfl
  · cases checked

theorem opening_nonceCounter (opening : conn.phase.opening = true)
    (ran : turn p cfg g conn input = some (g', conn')) :
    conn'.crypto.nonceCounter = conn.crypto.nonceCounter := by
  rcases opening_cases opening ran with ⟨_, rfl⟩ | ⟨_, keyPair, nonce, rfl⟩ | rfl |
    ⟨frame, crypto, _, _, accepted, rfl⟩
  · rfl
  · cases keyPair <;> rfl
  · rfl
  · exact nonceCounter_of_checkAnswer accepted

end

/-- A TCP connection starts with a fresh session and no traffic; with a session key its
loop is the server's end of a channel. -/
def Serving (bcrypt : Crypto.BCrypt) (conn : Conn) (seen : List Traffic) : Prop :=
  conn.transport = .tcp →
    (conn.phase.opening = true ∧ conn.crypto.nonceCounter = 0 ∧ seen = []) ∨
    (conn.phase.opening = false ∧ (conn.crypto.sessionKey.isSome →
      Serves bcrypt conn.crypto.reset conn.crypto seen))

theorem Serving.turn {p : Platform σ} {cfg : Settings} {g g' : Shared σ} {conn conn' : Conn}
    {input : Input} {seen : List Traffic} (serving : Serving p.bcrypt conn seen)
    (ran : turn p cfg g conn input = some (g', conn')) :
    Serving p.bcrypt conn' (seen ++ conn.traffic p.bcrypt input) := by
  intro tcp'
  have tcp : conn.transport = .tcp := (turn_transport ran).symm.trans tcp'
  rcases serving tcp with ⟨opening, fresh, rfl⟩ | ⟨looping, serves⟩
  · have fresh' := (opening_nonceCounter opening ran).trans fresh
    rw [traffic_opening p.bcrypt opening]
    cases entered : conn'.phase.opening with
    | true => exact Or.inl ⟨rfl, fresh', rfl⟩
    | false =>
        refine Or.inr ⟨rfl, fun _ => ?_⟩
        rw [Crypto.CryptoSession.reset_of_fresh fresh']
        exact Serves.refl _ _
  · refine Or.inr ⟨(turn_looping looping ran).1, fun keyed' => ?_⟩
    rw [turn_sessionKey looping ran] at keyed'
    obtain ⟨key, keyed⟩ := Option.isSome_iff_exists.mp keyed'
    rw [turn_reset looping ran]
    exact (serves keyed').trans (turn_serves tcp looping keyed ran)

/-- In every run, the request loop of a TCP connection with a session key is the server's
end of a channel: what it has handed to the dispatcher and written is what `Channel.step`
makes of its traffic. -/
theorem serves_of_runs {p : Platform σ} {cfg : Settings} {world : σ}
    {guard : Guard (Shared σ) Conn Input Transport (Outside σ)}
    {target : Config (Shared σ × Unit) (Conn × List Traffic)}
    (run : ((daemon p cfg).withAux (traffic p)).Runs guard.lift (untapped world) target) :
    ∀ conn ∈ target.parts, conn.1.transport = .tcp → conn.1.crypto.sessionKey.isSome →
      Serves p.bcrypt conn.1.crypto.reset conn.1.crypto conn.2 := by
  have serving : ∀ conn ∈ target.parts, Serving p.bcrypt conn.1 conn.2 := by
    refine forall_conn_aux run ?_ ?_
    · intro transport g a _
      exact Or.inl ⟨rfl, rfl, rfl⟩
    · intro g conn input g' conn' a seen serving _ ran
      exact serving.turn ran
  intro conn member tcp keyed
  rcases serving conn member tcp with ⟨_, fresh, nothing⟩ | ⟨_, serves⟩
  · rw [Crypto.CryptoSession.reset_of_fresh fresh, nothing]
    exact Serves.refl _ _
  · exact serves keyed

/-! ## A handshake with and without a `pubkey` -/

/-- The fake backend with the recorded primitives. -/
def recordedPlatform : Platform Fake.FakeState :=
  { fakePlatform with bcrypt := .recorded }

/-- Settings with one authorized key. -/
def oneKey : Settings where
  authKeysData := ascii
    "ssh-ed25519 AAAAC3NzaC1lZDI1NTE5AAAAINdamAGCsQq31Uv+08lkBzoO4XLz2qYjJa8CGmj3B1Ea user"

/-- A handshake answer of the user of that key, with further members. -/
def answerText (members : List (String × Json.Value)) : Bytes :=
  Json.dumps (object ([("version", .str protocolVersion), ("identity", .str (ascii "user")),
    ("signature", .str (Base64.encode Crypto.signature))] ++ members))

/-- The answer with the key of the client. -/
def keyedAnswer : Bytes :=
  answerText [("pubkey", .str (Base64.encode Crypto.clientPublic))]

theorem encrypted_iff_exchanges_pubkey :
    oneKey.authKeysData ≠ [] ∧
      ∀ target, ((daemon recordedPlatform oneKey).withAux (traffic recordedPlatform)).Runs
        (handshakesAmong fun localKey _ frame => localKey = some Crypto.serverPrivate ∧
          frame = keyedAnswer).lift (untapped {}) target → Encrypted recordedPlatform target := by
  have keys : oneKey.authKeysData ≠ [] := by decide
  refine ⟨keys, (encrypted_iff_exchanges recordedPlatform oneKey keys _ {}).mpr ?_⟩
  rintro localKey challenge frame ⟨rfl, rfl⟩ answer read _
  have known : readAnswer recordedPlatform.stod keyedAnswer =
      some ⟨ascii "user", Base64.encode Crypto.signature,
        some (Base64.encode Crypto.clientPublic)⟩ := by
    decide +kernel
  rw [known] at read
  cases read
  have agreed : (some Crypto.serverPrivate).bind (fun own => recordedPlatform.bcrypt.agree own
      (Base64.decode (Base64.encode Crypto.clientPublic))) = some Crypto.sharedKey := by
    decide +kernel
  exact ⟨_, _, rfl, agreed⟩

def healthText : Bytes :=
  requestText "1" "daemon.health" []

def lateText : Bytes :=
  serializeResponseJson (timeoutResponse .tcp ⟨ascii "1", ascii "daemon.health", []⟩)

/-- A client answers the challenge without a `pubkey` and asks for the state of the daemon;
the engine is late. -/
def askInClear : List (Transition.Move Input Transport (Outside Fake.FakeState)) :=
  [.spawn .tcp, .turn 0 (.start (some Crypto.serverPrivate) Crypto.signedMessage),
    .turn 0 (.frame (some (answerText []))),
    .turn 0 (.frame (some healthText)), .turn 0 .go, .turn 0 .go, .turn 0 (.core true [] 0 0),
    .turn 0 .go]

/-- The authenticated connection runs in clear in both directions. -/
theorem plaintext_downgrade :
    ∃ target, ((daemon recordedPlatform oneKey).withAux (traffic recordedPlatform)).Runs {}
        (untapped {}) target ∧
      (target.parts.map fun conn => (conn.1.crypto.sessionKey, conn.2)) =
        [(none, [.accepted healthText healthText, .sent lateText (some lateText)])] ∧
      ¬ Encrypted recordedPlatform target := by
  have executed : (Transition.exec ((daemon recordedPlatform oneKey).withAux
      (traffic recordedPlatform)).next (untapped {}) askInClear).map
        (fun target => target.parts.map fun conn => (conn.1.crypto.sessionKey, conn.2)) =
      some [(none, [.accepted healthText healthText, .sent lateText (some lateText)])] := by
    decide +kernel
  obtain ⟨target, reached, parts⟩ := Option.map_eq_some_iff.mp executed
  refine ⟨target, System.runs_of_exec reached, parts, fun encrypted => ?_⟩
  obtain ⟨conn, only, recorded⟩ := List.map_eq_singleton_iff.mp parts
  obtain ⟨keyless, seen⟩ := Prod.mk.inj recorded
  obtain ⟨key, keyed, _⟩ := encrypted conn (by rw [only]; exact List.mem_cons_self)
    (.accepted healthText healthText) (by rw [seen]; exact List.mem_cons_self)
  rw [keyless] at keyed
  cases keyed

/-- A client answers the challenge with its `pubkey` and asks under the session key. -/
def askSealed : List (Transition.Move Input Transport (Outside Fake.FakeState)) :=
  [.spawn .tcp, .turn 0 (.start (some Crypto.serverPrivate) Crypto.signedMessage),
    .turn 0 (.frame (some keyedAnswer)),
    .turn 0 (.frame (Crypto.encryptedSend .recorded { sessionKey := some Crypto.sharedKey }
      healthText).1), .turn 0 .go, .turn 0 .go, .turn 0 (.core true [] 0 0), .turn 0 .go]

theorem serves_of_runs_sealed :
    ∃ target, ((daemon recordedPlatform oneKey).withAux (traffic recordedPlatform)).Runs {}
        (untapped {}) target ∧
      (target.parts.map fun conn => conn.2.map Traffic.request) = [[some healthText, none]] ∧
      ∀ conn ∈ target.parts,
        Serves recordedPlatform.bcrypt conn.1.crypto.reset conn.1.crypto conn.2 := by
  have executed : (Transition.exec ((daemon recordedPlatform oneKey).withAux
      (traffic recordedPlatform)).next (untapped {}) askSealed).any (fun target => decide
        ((target.parts.map fun conn => conn.2.map Traffic.request) = [[some healthText, none]] ∧
          ∀ conn ∈ target.parts,
            conn.1.transport = .tcp ∧ conn.1.crypto.sessionKey.isSome)) = true := by
    decide +kernel
  obtain ⟨target, reached, checked⟩ := (Option.any_eq_true _ _).mp executed
  obtain ⟨requests, keyed⟩ := of_decide_eq_true checked
  have run : ((daemon recordedPlatform oneKey).withAux (traffic recordedPlatform)).Runs
    (Transition.System.Guard.lift {}) (untapped {}) target := System.runs_of_exec reached
  exact ⟨target, run, requests, fun conn member =>
    serves_of_runs run conn member (keyed conn member).1 (keyed conn member).2⟩

end WinInspect.Daemon
