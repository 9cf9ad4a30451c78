import WinInspect.Crypto.Identity
import WinInspect.Daemon.Startup
import WinInspect.Daemon.Turn

/-!
# Authentication

A TCP connection of a daemon with keys starts with a challenge; what the client answers
to it is an auxiliary variable of the connection.  A pipe connection has no handshake:
it is authenticated from the start or never.
-/

namespace WinInspect.Daemon

open Transition (Config System)
open Transition.System (Aux Guard Keeps)

variable {σ : Type}

/-- Record the challenge and the frame that answers it. -/
def handshakes : Aux (Shared σ) Conn Input Transport (Outside σ) Unit (Option (Bytes × Bytes)) where
  turn _ conn input _ _ _ seen :=
    ((), match conn.phase, input with
      | .handshake, .frame (some frame) => some (conn.challenge, frame)
      | _, _ => seen)
  spawn _ _ _ _ _ := ((), none)
  env _ _ _ _ := ()

/-- The client has answered a challenge with a signature of it that verifies under a key
of the file. -/
def Proved (p : Platform σ) (keysData : Bytes) : Option (Bytes × Bytes) → Prop
  | none => False
  | some (challenge, frame) => ∃ answer, readAnswer p.stod frame = some answer ∧
      ∃ line ∈ Crypto.getLines keysData,
        Crypto.verifySshSig p.bcrypt challenge answer.signature line = true

theorem exists_line_of_verifyAgainst {bcrypt : Crypto.BCrypt} {identity sigB64 nonce : Bytes}
    {lines : List Bytes}
    (verified : Crypto.verifyAgainst bcrypt identity sigB64 nonce lines = true) :
    ∃ line ∈ lines, Crypto.verifySshSig bcrypt nonce sigB64 line = true := by
  rw [Crypto.verifyAgainst_eq, Option.any_eq_true] at verified
  obtain ⟨line, found, valid⟩ := verified
  exact ⟨line, List.mem_of_mem_filter (List.mem_of_find?_eq_some found), valid⟩

/-- An accepted answer is a proof. -/
theorem proved_of_checkAnswer {p : Platform σ} {keysData challenge frame : Bytes}
    {crypto crypto' : Crypto.CryptoSession}
    (accepted : checkAnswer p.stod p.bcrypt keysData challenge crypto frame = some crypto') :
    Proved p keysData (some (challenge, frame)) := by
  obtain ⟨answer, read, checked⟩ := Option.bind_eq_some_iff.mp accepted
  split at checked
  · rename_i verifies
    exact ⟨answer, read, exists_line_of_verifyAgainst verifies⟩
  · cases checked

/-- The condition on a step: no pipe client sends the method `hello`, which is let
through unauthenticated. -/
def noPipeHello (p : Platform σ) : Guard (Shared σ) Conn Input Transport (Outside σ) where
  turn _ conn input := conn.transport = .pipe → ∀ text req, input = .frame (some text) →
    parseRequestJson p.stod text = .ok req → req.method ≠ ascii "hello"

/-! ## The invariant -/

/-- The phases outside a request. -/
def Phase.parked : Phase → Bool
  | .starting | .handshake | .reading | .sending .. | .unpinning | .leaving | .closing | .closed =>
      true
  | _ => false

/-- A pipe connection stays unauthenticated and outside requests; a TCP connection is
before its request loop or has proved itself. -/
def AuthInv (p : Platform σ) (keysData : Bytes) (conn : Conn) (seen : Option (Bytes × Bytes)) :
    Prop :=
  match conn.transport with
  | .pipe => conn.session.authenticated = false ∧ conn.phase.parked = true
  | .tcp => conn.phase.opening = true ∨ conn.phase = .closed ∨ Proved p keysData seen

theorem Captures.busy {phase : Phase} {resp : CoreResponse} {req : CoreRequest}
    {next : Snapshot → Phase} (captures : Captures phase resp req next) :
    phase.parked = false := by
  cases captures <;> rfl

section

variable {p : Platform σ} {cfg : Settings} {g g' : Shared σ} {conn conn' : Conn} {input : Input}

/-- An unauthenticated pipe client that does not say `hello` only gets errors. -/
theorem turn_pipe (keys : cfg.authKeysData ≠ []) (pipe : conn.transport = .pipe)
    (locked : conn.session.authenticated = false) (parked : conn.phase.parked = true)
    (quiet : (noPipeHello p).turn g conn input)
    (ran : turn p cfg g conn input = some (g', conn')) :
    conn'.session.authenticated = false ∧ conn'.phase.parked = true := by
  cases turn_cases ran with
  | startPipe phase _ => exact ⟨by simp [keys], rfl⟩
  | startTcp phase tcp =>
      rw [pipe] at tcp
      cases tcp
  | hangUp phase => exact ⟨locked, rfl⟩
  | answered phase checked => exact ⟨locked, rfl⟩
  | refused phase checked => exact ⟨locked, rfl⟩
  | @request payload text phase read =>
      obtain ⟨frame, rfl, asText⟩ := Option.bind_eq_some_iff.mp read
      rw [Conn.textOf, pipe] at asText
      cases asText
      have fresh : conn.refresh = { conn with pinnedSid := [] } := by
        rw [Conn.refresh, pipe]
      unfold Conn.onRequest
      rw [fresh]
      cases parsed : parseRequestJson p.stod text with
      | error what => exact ⟨locked, rfl⟩
      | ok req =>
          have notHello := quiet pipe text req rfl parsed
          dsimp only
          rw [Conn.accept, if_pos ⟨pipe, locked, notHello⟩]
          exact ⟨locked, rfl⟩
  | hungUp phase read =>
      rcases leave_cases conn with ⟨_, _, left⟩ | ⟨_, _, left⟩ | ⟨_, left⟩ <;> rw [left] <;>
        exact ⟨locked, rfl⟩
  | @sending req resp phase =>
      obtain ⟨crypto, written⟩ := write_eq p.bcrypt conn (serializeResponseJson resp)
      rw [written]
      rcases afterSend_cases { conn with crypto := crypto } with ⟨_, next⟩ | ⟨_, next⟩ <;>
        rw [next] <;> exact ⟨locked, rfl⟩
  | unpinning phase free => exact ⟨locked, rfl⟩
  | leaving phase free => exact ⟨locked, rfl⟩
  | closing phase => exact ⟨locked, rfl⟩
  | captureOk captures _ | captureFails captures _ =>
      rw [captures.busy] at parked
      cases parked
  | core phase _ _ | recovered phase _ _ | tooMany phase _ _ _ | created phase _ _ _
  | subscribed phase _ | unsubscribing phase _ | terminating phase _ | captured phase _
  | evictRound phase _ | evictDone phase _ | unknownSnapshot phase _ _ _ | pinned phase _ _ _
  | findingOld phase | storing phase _ =>
      rw [phase] at parked
      cases parked

/-- A TCP connection gets into its request loop only by an accepted answer. -/
theorem turn_proves (keys : cfg.authKeysData ≠ []) (tcp : conn.transport = .tcp)
    (opening : conn.phase.opening = true)
    (ran : turn p cfg g conn input = some (g', conn')) :
    conn'.phase.opening = true ∨ conn'.phase = .closed ∨
      ∃ frame, input = .frame (some frame) ∧ conn.phase = .handshake ∧
        Proved p cfg.authKeysData (some (conn.challenge, frame)) := by
  rcases opening_cases opening ran with ⟨pipe, _⟩ | ⟨_, keyPair, nonce, rfl⟩ | rfl |
    ⟨frame, crypto, rfl, phase, accepted, rfl⟩
  · rw [tcp] at pipe
    cases pipe
  · exact Or.inl (by simp [keys, Phase.opening])
  · exact Or.inr (Or.inl rfl)
  · exact Or.inr (Or.inr ⟨frame, rfl, phase, proved_of_checkAnswer accepted⟩)

/-- What is recorded changes in the handshake only. -/
theorem handshakes_turn (frames : ∀ frame, input = .frame (some frame) → conn.phase ≠ .handshake)
    (seen : Option (Bytes × Bytes)) :
    (handshakes.turn g conn input g' conn' () seen).2 = seen := by
  unfold handshakes
  dsimp only
  split
  · rename_i phase
    exact absurd phase (frames _ rfl)
  · rfl

theorem AuthInv.turn {seen : Option (Bytes × Bytes)} (keys : cfg.authKeysData ≠ [])
    (inv : AuthInv p cfg.authKeysData conn seen) (quiet : (noPipeHello p).turn g conn input)
    (ran : turn p cfg g conn input = some (g', conn')) :
    AuthInv p cfg.authKeysData conn' (handshakes.turn g conn input g' conn' () seen).2 := by
  have same := turn_transport ran
  unfold AuthInv at inv ⊢
  cases transport : conn.transport with
  | pipe =>
      rw [transport] at inv same
      rw [same]
      exact turn_pipe keys transport inv.1 inv.2 quiet ran
  | tcp =>
      rw [transport] at inv same
      rw [same]
      dsimp only at inv ⊢
      by_cases opening : conn.phase.opening = true
      · rcases turn_proves keys transport opening ran with
          still | closed | ⟨frame, rfl, phase, proved⟩
        · exact Or.inl still
        · exact Or.inr (Or.inl closed)
        · refine Or.inr (Or.inr ?_)
          simp only [handshakes, phase]
          exact proved
      · have looping : conn.phase ≠ .handshake := by
          intro phase
          rw [phase] at opening
          exact opening rfl
        rw [handshakes_turn (fun _ _ => looping)]
        rcases inv.resolve_left opening with closed | proved
        · rw [turn_closed closed] at ran
          cases ran
        · exact Or.inr (Or.inr proved)

end

/-- The daemon just after start-up, with nothing presented. -/
def unproved (world : σ) : Config (Shared σ × Unit) (Conn × Option (Bytes × Bytes)) :=
  ⟨({ world := world }, ()), []⟩

/-- Every request that is about to be given to the engine comes from a connection that has
proved itself with a key of the file. -/
def Authenticated (p : Platform σ) (keysData : Bytes)
    (config : Config (Shared σ × Unit) (Conn × Option (Bytes × Bytes))) : Prop :=
  ∀ conn ∈ config.parts, ∀ req snap old, conn.1.phase = .calling req snap old →
    Proved p keysData conn.2

theorem authenticated_of_keys {p : Platform σ} {cfg : Settings} (keys : cfg.authKeysData ≠ [])
    {world : σ} {target : Config (Shared σ × Unit) (Conn × Option (Bytes × Bytes))}
    (run : ((daemon p cfg).withAux handshakes).Runs (noPipeHello p).lift (unproved world) target) :
    Authenticated p cfg.authKeysData target := by
  have inv : ∀ conn ∈ target.parts, AuthInv p cfg.authKeysData conn.1 conn.2 := by
    refine forall_conn_aux run ?_ ?_
    · intro transport g a
      cases transport with
      | pipe => exact ⟨rfl, rfl⟩
      | tcp => exact Or.inl rfl
    · intro g conn input g' conn' a seen inv quiet ran
      exact inv.turn keys quiet ran
  intro conn member req snap old phase
  have holds := inv conn member
  unfold AuthInv at holds
  cases transport : conn.1.transport with
  | pipe =>
      rw [transport, phase] at holds
      cases holds.2
  | tcp =>
      rw [transport, phase] at holds
      exact (holds.resolve_left Bool.false_ne_true).resolve_left nofun

/-! ## Without keys -/

/-- A request for the state of the daemon. -/
def health : CoreRequest :=
  ⟨ascii "1", ascii "daemon.health", []⟩

/-- A TCP connection on which nothing has been agreed. -/
def stranger (phase : Phase) : Conn :=
  { transport := .tcp, phase := phase }

theorem parse_health (stod : Json.Stod) :
    parseRequestJson stod (requestText "1" "daemon.health" []) = .ok health := by
  with_unfolding_all rfl

section

variable {p : Platform σ} {cfg : Settings} {g : Shared σ}

theorem stranger_start (keys : cfg.authKeysData = []) :
    turn p cfg g (stranger .starting) (.start none []) = some (g, stranger .reading) := by
  simp only [turn, onStart, stranger, keys, if_true]
  rfl

theorem stranger_accept :
    Conn.accept cfg (stranger .reading) health = stranger (.finding health) := by
  have unblocked : blockedReadOnly health.method = false := by decide +kernel
  have proceeds : Conn.proceed cfg (stranger .reading) health = stranger (.finding health) := by
    rw [Conn.proceed, unblocked, Bool.and_false, if_neg Bool.false_ne_true, if_neg (by decide)]
    rfl
  rw [← proceeds]
  rfl

theorem stranger_request :
    turn p cfg g (stranger .reading) (.frame (some (requestText "1" "daemon.health" []))) =
      some (g, stranger (.finding health)) := by
  have text : (some (requestText "1" "daemon.health" [])).bind
      (Conn.textOf p.bcrypt (stranger .reading)) = some (requestText "1" "daemon.health" []) := by
    with_unfolding_all rfl
  simp only [turn, onFrame, stranger] at text ⊢
  simp only [text, Conn.onRequest, parse_health]
  exact congrArg (fun conn => some (g, conn)) stranger_accept

theorem stranger_finding {snap : Snapshot} {world : σ}
    (taken : p.backend.apply .captureSnapshot g.world = (.ok snap, world)) :
    turn p cfg g (stranger (.finding health)) .go =
      some ({ g with world := world }, stranger (.findingOld health snap)) := by
  change some (capture p g (stranger (.finding health)) { id := health.id } health
    (.findingOld health)) = _
  rw [capture, taken]
  rfl

/-- A turn of a stranger, with nothing recorded. -/
theorem stranger_turn {source : Config (Shared σ × Unit) (Conn × Option (Bytes × Bytes))}
    {g' : Shared σ} {phase phase' : Phase} {input : Input}
    (run : ((daemon p cfg).withAux handshakes).Runs (noPipeHello p).lift source
      ⟨(g, ()), [(stranger phase, none)]⟩)
    (looping : phase ≠ .handshake)
    (turned : turn p cfg g (stranger phase) input = some (g', stranger phase')) :
    ((daemon p cfg).withAux handshakes).Runs (noPipeHello p).lift source
      ⟨(g', ()), [(stranger phase', none)]⟩ := by
  have next := run.solo_aux (fun pipe => nomatch pipe) turned
  rw [handshakes_turn fun _ _ => looping] at next
  exact next

end

/-- Without keys a TCP client gets to the engine with nothing presented. -/
theorem not_authenticated (p : Platform σ) (cfg : Settings) (world : σ) {world' : σ}
    {snap : Snapshot} (keys : cfg.authKeysData = [])
    (taken : p.backend.apply .captureSnapshot world = (.ok snap, world')) :
    ∃ target,
      ((daemon p cfg).withAux handshakes).Runs (noPipeHello p).lift (unproved world) target ∧
        ¬ Authenticated p cfg.authKeysData target := by
  have accepted : ((daemon p cfg).withAux handshakes).Runs (noPipeHello p).lift (unproved world)
      ⟨({ world := world }, ()), [(stranger .starting, none)]⟩ :=
    Transition.Steps.single (show (noPipeHello p).lift.allows _ (.spawn .tcp) from trivial) rfl
  have reading := stranger_turn accepted nofun (stranger_start keys)
  have finding := stranger_turn reading nofun stranger_request
  have findingOld := stranger_turn finding nofun (stranger_finding taken)
  have calling := stranger_turn findingOld nofun
    (show turn p cfg _ _ .go = some (_, stranger (.calling health snap none)) from rfl)
  refine ⟨_, calling, ?_⟩
  intro holds
  exact holds _ List.mem_cons_self _ _ _ rfl

/-- For every command line and key file: in the runs without a `hello` on the pipe only
authenticated requests get to the engine if and only if the key data is not empty. -/
theorem authenticated_iff_keys (p : Platform σ) (stoi : Bytes → Option Int) (args : List Bytes)
    (files : Bytes → Option Bytes)
    (captures : ∃ world snap world', p.backend.apply .captureSnapshot world = (.ok snap, world')) :
    ∀ opts, parseArgs stoi args = some opts →
      ((∀ world target,
        ((daemon p (opts.settings files)).withAux handshakes).Runs (noPipeHello p).lift
          (unproved world) target → Authenticated p (opts.authKeysData files) target) ↔
        opts.authKeysData files ≠ []) := by
  intro opts _
  constructor
  · intro safe empty
    obtain ⟨world, snap, world', taken⟩ := captures
    obtain ⟨target, run, exposed⟩ :=
      not_authenticated p (opts.settings files) world empty taken
    exact exposed (safe world target run)
  · intro keys world target run
    exact authenticated_of_keys keys run

/-- A start-up with a key file that can be read. -/
theorem authenticated_iff_keys_readable :
    parseArgs (fun _ => none) [ascii "--auth-keys", ascii "keys"] =
        some { authKeys := ascii "keys" } ∧
      ∀ target, ((daemon fakePlatform
          (Options.settings { authKeys := ascii "keys" } fun _ => some (ascii "key"))).withAux
            handshakes).Runs (noPipeHello fakePlatform).lift (unproved {}) target →
        Authenticated fakePlatform (ascii "key") target := by
  have parsed : parseArgs (fun _ => none) [ascii "--auth-keys", ascii "keys"] =
      some { authKeys := ascii "keys" } := by
    decide +kernel
  have safe := (authenticated_iff_keys fakePlatform (fun _ => none)
    [ascii "--auth-keys", ascii "keys"] (fun _ => some (ascii "key")) ⟨{}, _, _, rfl⟩ _ parsed).mpr
      (by decide)
  exact ⟨parsed, safe {}⟩

/-- A pipe client says `hello`. -/
def sayHello : List (Transition.Move Input Transport (Outside Fake.FakeState)) :=
  [.spawn .pipe, .turn 0 (.start none []), .turn 0 (.frame (some (requestText "1" "hello" []))),
    .turn 0 .go, .turn 0 .go]

/-- The ways past authentication: `--require-auth` alone, a key file that cannot be read,
and `hello` on the pipe of a daemon with keys. -/
theorem authentication_bypassed :
    (∃ opts target, parseArgs (fun _ => none) [ascii "--require-auth"] = some opts ∧
      ((daemon fakePlatform (opts.settings fun _ => none)).withAux handshakes).Runs
        (noPipeHello fakePlatform).lift (unproved {}) target ∧
      ¬ Authenticated fakePlatform (opts.authKeysData fun _ => none) target) ∧
    (∃ opts target,
      parseArgs (fun _ => none) [ascii "--auth-keys", ascii "keys"] = some opts ∧
      ((daemon fakePlatform (opts.settings fun _ => none)).withAux handshakes).Runs
        (noPipeHello fakePlatform).lift (unproved {}) target ∧
      ¬ Authenticated fakePlatform (opts.authKeysData fun _ => none) target) ∧
    (∃ opts target,
      parseArgs (fun _ => none) [ascii "--auth-keys", ascii "keys"] = some opts ∧
      ((daemon fakePlatform (opts.settings fun _ => some (ascii "key"))).withAux handshakes).Runs
        {} (unproved {}) target ∧
      ¬ Authenticated fakePlatform (opts.authKeysData fun _ => some (ascii "key")) target) := by
  refine ⟨?_, ?_, ?_⟩
  · obtain ⟨target, run, exposed⟩ := not_authenticated fakePlatform
      (Options.settings { requireAuth := true } fun _ => none) {} rfl rfl
    exact ⟨{ requireAuth := true }, target, by decide +kernel, run, exposed⟩
  · obtain ⟨target, run, exposed⟩ := not_authenticated fakePlatform
      (Options.settings { authKeys := ascii "keys" } fun _ => none) {} rfl rfl
    exact ⟨{ authKeys := ascii "keys" }, target, by decide +kernel, run, exposed⟩
  · have executed : Transition.exec ((daemon fakePlatform (Options.settings
        { authKeys := ascii "keys" } fun _ => some (ascii "key"))).withAux handshakes).next
        (unproved {}) sayHello = some ⟨({ st := { activeConnections := 1 }, world := {} }, ()),
          [({ transport := .pipe, phase := .calling ⟨ascii "1", ascii "hello", []⟩ {} none },
            none)]⟩ := by
      with_unfolding_all rfl
    refine ⟨{ authKeys := ascii "keys" }, _, by decide +kernel, System.runs_of_exec executed, ?_⟩
    intro holds
    exact holds _ List.mem_cons_self _ _ _ rfl

end WinInspect.Daemon
