import WinInspect.Daemon.System

/-!
# The clients in the handshake

`perform_auth` of the command-line client and `handshake` of the portable client, each run
against the handshake of the TCP server.  Whether the server accepts an answer is a
parameter, so that every outcome of the verification is covered; the signing of the
command-line client and the cipher of the portable one are parameters too.
-/

namespace WinInspect.Clients

open Json (Value Object)
open Crypto (BCrypt CryptoSession)
open Daemon (Answer Conn)

/-- What a client does with the challenge. -/
inductive Reply where
  /-- It ends with an exception that nothing catches. -/
  | fails
  /-- It gives up. -/
  | refuses
  /-- It goes on without an answer. -/
  | proceeds
  /-- It sends an answer and waits for the status. -/
  | answers (frame : Bytes)
  deriving DecidableEq

/-- Where the handshake leaves a client. -/
inductive ClientEnd where
  | failed
  | refused
  | waiting
  | connected
  deriving DecidableEq

/-- Where the handshake leaves the thread of the server. -/
inductive ServerEnd where
  | closed
  | waiting
  | serving (crypto : CryptoSession)
  deriving DecidableEq

/-- A client of the TCP server. -/
structure Client where
  reply : (challenge : Bytes) → Reply
  /-- The end of the handshake once the status arrives. -/
  status : (status : Bytes) → ClientEnd
  /-- Requests are sent encrypted. -/
  encrypts : Bool
  /-- The frame written for a request. -/
  frame : (request : Bytes) → Bytes

/-- The answer of both clients, which has no public key. -/
def answerJson (identity signature : Bytes) : Value :=
  object [("version", .str Daemon.protocolVersion), ("identity", .str identity),
    ("signature", .str signature)]

/-! ## The command-line client -/

/-- `perform_auth` up to its answer.  A missing member, or one of another type, is an
exception. -/
def performAuth (stod : Json.Stod) (keyPath : Bytes) (signSshMsg : Bytes → Bytes → Bytes)
    (challenge : Bytes) : Reply :=
  match Json.parse stod challenge with
  | .error _ => .fails
  | .ok v =>
      match v.obj? with
      | none => .proceeds
      | some o =>
          match getStr o "type" with
          | none => .fails
          | some type =>
              if type ≠ ascii "hello" then .proceeds
              else
                match getStr o "nonce" with
                | none => .fails
                | some nonceB64 =>
                    if keyPath = [] then .refuses
                    else
                      let sig := signSshMsg (Base64.decode nonceB64) keyPath
                      if sig = [] then .refuses
                      else .answers (Json.dumps (answerJson (ascii "wininspect-user") sig))

/-- The rest of `perform_auth`. -/
def readStatus (stod : Json.Stod) (status : Bytes) : ClientEnd :=
  match Json.parse stod status with
  | .error _ => .failed
  | .ok v =>
      match v.obj? with
      | none => .refused
      | some o =>
          match getStr o "type" with
          | none => .failed
          | some type =>
              if type ≠ ascii "auth_status" then .refused
              else
                match getBool o "ok" with
                | none => .failed
                | some ok => if ok then .connected else .refused

/-- The command-line client, which writes its requests as they are. -/
def commandLine (stod : Json.Stod) (keyPath : Bytes) (signSshMsg : Bytes → Bytes → Bytes) :
    Client where
  reply := performAuth stod keyPath signSshMsg
  status := readStatus stod
  encrypts := false
  frame request := request

/-! ## The portable client -/

/-- `handshake` up to its answer.  A text that is no object leaves the map empty. -/
def handshake (stod : Json.Stod) (hello : Bytes) : Reply :=
  let o := ((Json.parse stod hello).toOption.bind Value.obj?).getD []
  if o.get? "version" ≠ some (.str Daemon.protocolVersion) then .refuses
  else if o.get? "nonce" = none ∨ o.get? "nonce" = some .null then .proceeds
  else
    .answers (Json.dumps (answerJson (ascii "portable-client") (ascii "SSHSIG_STUB")))

/-- The portable client, with the `Seal` of its AES-GCM cipher under the zero key and the zero
nonce, which gives the ciphertext and the tag. -/
def portable (stod : Json.Stod) (sealed : Bytes → Bytes) : Client where
  reply := handshake stod
  status authStatus :=
    if containsBytes authStatus (ascii "\"ok\":true") then .connected else .refused
  encrypts := true
  frame := sealed

/-! ## The server -/

/-- The server at the start of a connection: the keys of the file, what the system makes for
the connection, and which answers `verify_identity` accepts. -/
structure Server where
  stod : Json.Stod
  bcrypt : BCrypt
  authKeys : Bytes
  keyPair : Option Bytes
  nonce : Bytes
  verify : Answer → Bool

namespace Server

variable (server : Server)

/-- The session with the local key. -/
def crypto : CryptoSession :=
  (CryptoSession.generateLocalKey server.bcrypt {} server.keyPair).2

/-- The text of the challenge. -/
def challenge : Bytes :=
  Json.dumps (Daemon.challengeJson server.authKeys server.nonce
    (CryptoSession.generateLocalKey server.bcrypt {} server.keyPair).1)

/-- After the challenge is sent. -/
def challenged : ServerEnd :=
  if server.authKeys = [] then .serving server.crypto else .waiting

/-- After an answer, or the end of the stream in its place. -/
def answered (payload : Option Bytes) : ServerEnd :=
  match payload.bind (Daemon.readAnswer server.stod) with
  | none => .closed
  | some answer =>
      if server.verify answer then .serving (answer.exchange server.bcrypt server.crypto)
      else .closed

end Server

/-- The handshake of a server and a client.  A client that is gone leaves the server with
the end of the stream, and a server that has closed the connection leaves the client without
a status. -/
def meet (server : Server) (client : Client) : ServerEnd × ClientEnd :=
  match client.reply server.challenge with
  | .fails => (.closed, .failed)
  | .refuses => (.closed, .refused)
  | .proceeds => (server.challenged, .connected)
  | .answers frame =>
      if server.authKeys = [] then (server.challenged, .waiting)
      else
        match server.answered (some frame) with
        | .serving crypto =>
            match client.status (Json.dumps Daemon.authStatusJson) with
            | .connected => (.serving crypto, .connected)
            | gone => (.closed, gone)
        | other => (other, .refused)

/-- The server decodes every request of the client, up to the largest frame it reads. -/
def Decodes (bcrypt : BCrypt) (crypto : CryptoSession) (client : Client) : Prop :=
  ∀ request, request ≠ [] → request.length ≤ Crypto.maxFrame →
    Conn.textOf bcrypt { transport := .tcp, crypto := crypto } (client.frame request) =
      some request

/-- Both sides refuse, or both go on and agree on the transport. -/
def Agrees (server : Server) (client : Client) : Prop :=
  match meet server client with
  | (.closed, .refused) => True
  | (.serving crypto, .connected) =>
      crypto.isInitialized = client.encrypts ∧ Decodes server.bcrypt crypto client
  | _ => False

/-! ## The server and the daemon -/

section

variable {σ : Type} (p : Daemon.Platform σ) (cfg : Daemon.Settings) (g : Daemon.Shared σ)
  (keyPair : Option Bytes) (nonce : Bytes)

/-- The server of the daemon, which verifies with the keys of its file. -/
def Server.ofDaemon : Server where
  stod := p.stod
  bcrypt := p.bcrypt
  authKeys := cfg.authKeysData
  keyPair := keyPair
  nonce := nonce
  verify answer := answer.verifies p.bcrypt cfg.authKeysData nonce

/-- Where a connection of the daemon is in the handshake. -/
def serverEnd (conn : Conn) : ServerEnd :=
  match conn.phase with
  | .closed => .closed
  | .starting | .handshake => .waiting
  | _ => .serving conn.crypto

/-- A TCP connection of the daemon after its challenge. -/
def challengedConn : Conn where
  transport := .tcp
  crypto := (Server.ofDaemon p cfg keyPair nonce).crypto
  challenge := nonce
  phase := if cfg.authKeysData = [] then .reading else .handshake

/-- The first turn of the daemon sends the challenge. -/
theorem turn_challenged :
    Daemon.turn p cfg g { transport := .tcp } (.start keyPair nonce) =
        some (g, challengedConn p cfg keyPair nonce) ∧
      serverEnd (challengedConn p cfg keyPair nonce) =
        (Server.ofDaemon p cfg keyPair nonce).challenged := by
  refine ⟨rfl, ?_⟩
  unfold serverEnd challengedConn Server.challenged Server.ofDaemon
  split_ifs <;> rfl

/-- With keys the second one reads the answer. -/
theorem turn_answered (keys : cfg.authKeysData ≠ []) (payload : Option Bytes) :
    ∃ conn, Daemon.turn p cfg g (challengedConn p cfg keyPair nonce) (.frame payload) =
        some (g, conn) ∧
      serverEnd conn = (Server.ofDaemon p cfg keyPair nonce).answered payload := by
  simp only [Daemon.turn, Daemon.onFrame, challengedConn, if_neg keys, Server.answered]
  cases payload with
  | none => exact ⟨_, rfl, rfl⟩
  | some frame =>
      simp only [Option.bind_some, Daemon.checkAnswer]
      change ∃ conn, _ ∧ serverEnd conn = match Daemon.readAnswer p.stod frame with
        | none => _
        | some answer => _
      cases Daemon.readAnswer p.stod frame with
      | none => exact ⟨_, rfl, rfl⟩
      | some answer =>
          simp only [Option.bind_some, Server.ofDaemon]
          split_ifs with verified
          · exact ⟨_, rfl, (if_pos verified).symm⟩
          · exact ⟨_, rfl, (if_neg verified).symm⟩

/-- The end of the stream closes the connection. -/
theorem turn_hungUp :
    ∃ conn, Daemon.turn p cfg g (challengedConn p cfg keyPair nonce) (.frame none) =
      some (g, conn) ∧ serverEnd conn = .closed := by
  simp only [Daemon.turn, Daemon.onFrame, challengedConn]
  split_ifs
  · exact ⟨_, rfl, rfl⟩
  · exact ⟨_, rfl, rfl⟩

end

/-! ## The texts of the handshake -/

theorem parse_challenge (stod : Json.Stod) (authKeys nonce pubkey : Bytes) :
    Json.parse stod (Json.dumps (Daemon.challengeJson authKeys nonce pubkey)) =
      .ok (Daemon.challengeJson authKeys nonce pubkey) := by
  apply Json.parse_dumps_ofFields
  intro field member
  split_ifs at member <;> fin_cases member <;> exact ⟨trivial, trivial⟩

/-- The members of the challenge. -/
theorem challenge_members (authKeys nonce pubkey : Bytes) :
    ∃ o : Object, Daemon.challengeJson authKeys nonce pubkey = .obj o ∧
      o.get? "type" = some (.str (ascii "hello")) ∧
      o.get? "version" = some (.str Daemon.protocolVersion) ∧
      o.get? "nonce" = if authKeys = [] then none else some (.str (Base64.encode nonce)) := by
  unfold Daemon.challengeJson
  generalize rest : (if authKeys = [] then [] else _ : List (String × Value)) = others
  have foreign : ∀ key ∈ ["type", "version"], ∀ field ∈ others, ascii key ≠ ascii field.1 := by
    rw [← rest]
    split_ifs <;> simp only [List.forall_mem_cons] <;> decide
  refine ⟨_, rfl, Json.get?_ofFields [] "type" _ ?_, Json.get?_ofFields [_] "version" _ ?_, ?_⟩
  · exact List.forall_mem_cons.mpr ⟨by decide, foreign _ (by decide)⟩
  · exact foreign _ (by decide)
  · rw [← rest]
    split_ifs
    · exact Json.get?_ofFields_of_absent (by decide)
    · exact Json.get?_ofFields [_, _] "nonce" _ (by decide)
    · exact Json.get?_ofFields [_, _] "nonce" _ (by simp only [List.forall_mem_cons]; decide)

/-- The members of an answer. -/
theorem answer_members (identity signature : Bytes) :
    ∃ o : Object, answerJson identity signature = .obj o ∧
      o.get? "version" = some (.str Daemon.protocolVersion) ∧
      o.get? "identity" = some (.str identity) ∧ o.get? "signature" = some (.str signature) ∧
      o.get? "pubkey" = none := by
  refine ⟨_, rfl, Json.get?_ofFields [] "version" _ ?_, Json.get?_ofFields [_] "identity" _ ?_,
    Json.get?_ofFields [_, _] "signature" _ ?_, Json.get?_ofFields_of_absent ?_⟩
  · simp only [List.forall_mem_cons]
    decide
  · simp only [List.forall_mem_cons]
    decide
  · decide
  · simp only [List.forall_mem_cons]
    decide

theorem readAnswer_answerJson (stod : Json.Stod) (identity signature : Bytes) :
    Daemon.readAnswer stod (Json.dumps (answerJson identity signature)) =
      some ⟨identity, signature, none⟩ := by
  have parsed : Json.parse stod (Json.dumps (answerJson identity signature)) =
      .ok (answerJson identity signature) := by
    apply Json.parse_dumps_ofFields
    intro field member
    fin_cases member <;> exact ⟨trivial, trivial⟩
  obtain ⟨o, members, version, named, signed, keyless⟩ := answer_members identity signature
  rw [members] at parsed ⊢
  simp only [Daemon.readAnswer, parsed, Except.toOption, Value.obj?, getStr, version, named,
    signed, keyless, ne_eq, not_true_eq_false, if_false, Option.bind_eq_bind, Option.bind_some,
    Option.bind_none, Value.str?]
  rfl

theorem readStatus_authStatus (stod : Json.Stod) :
    readStatus stod (Json.dumps Daemon.authStatusJson) = .connected := by
  have parsed : Json.parse stod (Json.dumps Daemon.authStatusJson) = .ok Daemon.authStatusJson := by
    apply Json.parse_dumps_ofFields
    intro field member
    fin_cases member <;> exact ⟨trivial, trivial⟩
  unfold readStatus
  rw [parsed]
  decide +kernel

/-! ## The two clients and the server -/

section

variable (server : Server)

/-- Without keys the command-line client fails on the missing nonce. -/
theorem performAuth_challenge (stod : Json.Stod) (keyPath : Bytes)
    (signSshMsg : Bytes → Bytes → Bytes) :
    performAuth stod keyPath signSshMsg server.challenge =
      if server.authKeys = [] then .fails
      else if keyPath = [] then .refuses
      else
        let sig := signSshMsg (Base64.decode (Base64.encode server.nonce)) keyPath
        if sig = [] then .refuses
        else .answers (Json.dumps (answerJson (ascii "wininspect-user") sig)) := by
  unfold performAuth Server.challenge
  rw [parse_challenge]
  obtain ⟨o, members, type, _, nonce⟩ := challenge_members server.authKeys server.nonce
    (CryptoSession.generateLocalKey server.bcrypt {} server.keyPair).1
  rw [members]
  simp only [Value.obj?, getStr, type, nonce, Option.bind_some, Value.str?, ne_eq,
    not_true_eq_false, if_false]
  by_cases keys : server.authKeys = []
  · simp only [keys, if_true, Option.bind_none]
  · simp only [keys, if_false, Option.bind_some, Value.str?]

theorem handshake_challenge (stod : Json.Stod) :
    handshake stod server.challenge =
      if server.authKeys = [] then .proceeds
      else .answers
        (Json.dumps (answerJson (ascii "portable-client") (ascii "SSHSIG_STUB"))) := by
  unfold handshake Server.challenge
  rw [parse_challenge]
  obtain ⟨o, members, _, version, nonce⟩ := challenge_members server.authKeys server.nonce
    (CryptoSession.generateLocalKey server.bcrypt {} server.keyPair).1
  rw [members]
  simp only [Except.toOption, Option.bind_some, Value.obj?, Option.getD_some, version, nonce, ne_eq,
    not_true_eq_false, if_false]
  by_cases keys : server.authKeys = []
  · simp [keys]
  · simp [keys]

/-- An answer without a public key is accepted without a key exchange. -/
theorem answered_answerJson (identity signature : Bytes) :
    server.answered (some (Json.dumps (answerJson identity signature))) =
      if server.verify ⟨identity, signature, none⟩ then .serving server.crypto else .closed := by
  unfold Server.answered
  rw [Option.bind_some, readAnswer_answerJson]
  rfl

theorem isInitialized_crypto : server.crypto.isInitialized = false := by
  unfold Server.crypto CryptoSession.generateLocalKey
  cases server.keyPair <;> rfl

/-- A server without a session key reads the frames of the command-line client. -/
theorem decodes_commandLine (stod : Json.Stod) (keyPath : Bytes)
    (signSshMsg : Bytes → Bytes → Bytes) :
    Decodes server.bcrypt server.crypto (commandLine stod keyPath signSshMsg) := by
  intro request nonempty small
  have length : request.length ≠ 0 := fun zero => nonempty (List.length_eq_zero_iff.mp zero)
  change Conn.textOf server.bcrypt { transport := .tcp, crypto := server.crypto } request = _
  simp only [Conn.textOf, isInitialized_crypto, Bool.false_eq_true, if_false]
  rw [if_neg (by omega)]

/-- The command-line client agrees with a server that has keys. -/
theorem agrees_commandLine_iff (stod : Json.Stod) (keyPath : Bytes)
    (signSshMsg : Bytes → Bytes → Bytes) :
    Agrees server (commandLine stod keyPath signSshMsg) ↔ server.authKeys ≠ [] := by
  have replied : (commandLine stod keyPath signSshMsg).reply server.challenge = _ :=
    performAuth_challenge server stod keyPath signSshMsg
  unfold Agrees meet
  rw [replied]
  by_cases keys : server.authKeys = []
  · simp only [keys, if_true, ne_eq, not_true_eq_false]
  · simp only [keys, if_false, ne_eq, not_false_eq_true, iff_true]
    split_ifs with path signature
    · trivial
    · trivial
    · dsimp only
      rw [answered_answerJson]
      split_ifs with verified
      · have settled : (commandLine stod keyPath signSshMsg).status
            (Json.dumps Daemon.authStatusJson) = .connected := readStatus_authStatus stod
        simp only [settled]
        exact ⟨isInitialized_crypto server, decodes_commandLine server stod keyPath signSshMsg⟩
      · trivial

/-- The portable client agrees with a server that refuses it. -/
theorem agrees_portable_iff (stod : Json.Stod) (sealed : Bytes → Bytes) :
    Agrees server (portable stod sealed) ↔ server.authKeys ≠ [] ∧
      server.verify ⟨ascii "portable-client", ascii "SSHSIG_STUB", none⟩ = false := by
  have replied : (portable stod sealed).reply server.challenge = _ :=
    handshake_challenge server stod
  have plain := isInitialized_crypto server
  unfold Agrees meet
  rw [replied]
  by_cases keys : server.authKeys = []
  · simp only [keys, if_true, Server.challenged, plain, ne_eq, not_true_eq_false, false_and,
      iff_false]
    intro agreed
    exact absurd (show false = true from agreed.1) Bool.false_ne_true
  · simp only [keys, if_false, ne_eq, not_false_eq_true, true_and]
    rw [answered_answerJson]
    cases verified : server.verify ⟨ascii "portable-client", ascii "SSHSIG_STUB", none⟩ with
    | true =>
        have settled : (portable stod sealed).status (Json.dumps Daemon.authStatusJson) =
            .connected := by
          have reported : containsBytes (Json.dumps Daemon.authStatusJson)
              (ascii "\"ok\":true") = true := by decide +kernel
          simp only [portable, reported, if_true]
        simp only [if_true, settled, plain]
        constructor
        · intro agreed
          exact absurd (show false = true from agreed.1) Bool.false_ne_true
        · exact nofun
    | false => simp

end

/-- For every configuration of the server and every outcome of the verification: the
command-line client agrees with the server if and only if keys are configured, and the
portable client if and only if keys are configured and its answer is not accepted. -/
theorem handshakes_agree_iff (server : Server) (stod : Json.Stod) (keyPath : Bytes)
    (signSshMsg : Bytes → Bytes → Bytes) (sealed : Bytes → Bytes) :
    (Agrees server (commandLine stod keyPath signSshMsg) ↔ server.authKeys ≠ []) ∧
    (Agrees server (portable stod sealed) ↔ server.authKeys ≠ [] ∧
      server.verify ⟨ascii "portable-client", ascii "SSHSIG_STUB", none⟩ = false) :=
  ⟨agrees_commandLine_iff server stod keyPath signSshMsg, agrees_portable_iff server stod sealed⟩

/-- A server with the given keys that accepts every signature. -/
def acceptingServer (authKeys : Bytes) : Server where
  stod := Json.integerStod
  bcrypt := BCrypt.unavailable
  authKeys := authKeys
  keyPair := none
  nonce := ascii "nonce"
  verify _ := true

/-- A cipher that only appends a tag. -/
def tagOnly (request : Bytes) : Bytes :=
  request ++ List.replicate 16 0

/-- Without keys the command-line client fails on an exception.  The portable client encrypts
for a server that does not, with keys and without, and the server reads another text than the
one that was sent. -/
theorem handshakes_disagree :
    meet (acceptingServer []) (commandLine Json.integerStod (ascii "id") fun _ _ => ascii "sig") =
        (.closed, .failed) ∧
    ∀ authKeys ∈ [[], ascii "key"],
      meet (acceptingServer authKeys) (portable Json.integerStod tagOnly) =
        (.serving {}, .connected) ∧
      CryptoSession.isInitialized {} = false ∧ (portable Json.integerStod tagOnly).encrypts = true ∧
      Conn.textOf BCrypt.unavailable { transport := .tcp }
          ((portable Json.integerStod tagOnly).frame (ascii "\x7b\x7d")) ≠
        some (ascii "\x7b\x7d") := by
  decide +kernel

end WinInspect.Clients
