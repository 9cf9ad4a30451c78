import WinInspect.Daemon.Store

/-!
# Unauthenticated pipe clients

The pipe answers an unauthenticated client with an error, unless the method is `hello`.
Such a request goes on to the session section and to the lookup of its snapshot like any
other.  It leaves the shared tables alone when it names neither a session nor a stored
snapshot.
-/

namespace WinInspect.Daemon

open Transition (Config System)
open Transition.System (Guard)

variable {σ : Type}

/-- The tables of the snapshots, the pins and the sessions are as before. -/
structure Unaffected (st st' : ServerState) : Prop extends SameStore st st' where
  pinnedCounts : st'.pinnedCounts = st.pinnedCounts
  sessions : st'.sessions = st.sessions

theorem Unaffected.refl (st : ServerState) : Unaffected st st :=
  ⟨SameStore.refl st, rfl, rfl⟩

/-- A pipe connection whose session is not authenticated. -/
structure Conn.Locked (conn : Conn) : Prop where
  pipe : conn.transport = .pipe
  unauthenticated : conn.session.authenticated = false

/-- The condition on a step: a `hello` of an unauthenticated pipe client has no `session_id`,
and no `snapshot_id` that is stored when it is looked up. -/
def bareHello (p : Platform σ) : Guard (Shared σ) Conn Input Transport (Outside σ) where
  turn g conn input := conn.Locked →
    (∀ text req, input = .frame (some text) → parseRequestJson p.stod text = .ok req →
      req.method = ascii "hello" → getStr req.params "session_id" = none) ∧
    ∀ req sid, input = .go → conn.phase = .finding req →
      getStr req.params "snapshot_id" = some sid → sid ∉ g.st.snaps

/-- The phases of an unauthenticated pipe client: only a `hello` gets past the check. -/
def Phase.Greeting : Phase → Prop
  | .starting | .reading | .sending .. | .closing | .closed => True
  | .finding req | .findingOld req _ | .calling req _ _ => req.method = ascii "hello"
  | _ => False

theorem Captures.greeting {phase : Phase} {resp : CoreResponse} {req : CoreRequest}
    {next : Snapshot → Phase} (captures : Captures phase resp req next)
    (greets : phase.Greeting) (snap : Snapshot) : (next snap).Greeting := by
  cases captures with
  | finding req unnamed => exact greets
  | subscribing | capturing | polled => cases greets

section

variable {p : Platform σ} {cfg : Settings} {g g' : Shared σ} {conn conn' : Conn} {input : Input}

/-- The request of an unauthenticated pipe client is answered with an error, or it is a
`hello`. -/
theorem Conn.Locked.onRequest (locked : conn.Locked) {text : Bytes}
    (bare : (bareHello p).turn g conn (.frame (some text))) :
    (conn.onRequest p.stod cfg text).pinnedSid = [] ∧
      (conn.onRequest p.stod cfg text).phase.Greeting := by
  have fresh : conn.refresh = { conn with pinnedSid := [] } := by
    rw [Conn.refresh, locked.pipe]
  unfold Conn.onRequest
  rw [fresh]
  cases parsed : parseRequestJson p.stod text with
  | error what => exact ⟨rfl, trivial⟩
  | ok req =>
      dsimp only
      unfold Conn.accept
      by_cases hello : req.method = ascii "hello"
      · have unnamed := (bare locked).1 text req rfl parsed hello
        rw [if_neg (fun gated => gated.2.2 hello), unnamed]
        dsimp only
        rw [route_of_engine cfg _ (by rw [hello]; decide) (by rw [hello]; decide +kernel)]
        exact ⟨rfl, hello⟩
      · rw [if_pos ⟨locked.pipe, locked.unauthenticated, hello⟩]
        exact ⟨rfl, trivial⟩

/-- A turn of an unauthenticated pipe client leaves the tables alone. -/
theorem Conn.Locked.turn (locked : conn.Locked) (unpinned : conn.pinnedSid = [])
    (greets : conn.phase.Greeting) (bare : (bareHello p).turn g conn input)
    (ran : turn p cfg g conn input = some (g', conn')) :
    Unaffected g.st g'.st ∧ conn'.pinnedSid = [] ∧ conn'.phase.Greeting := by
  cases turn_cases ran with
  | startPipe phase _ => exact ⟨⟨⟨rfl, rfl, rfl⟩, rfl, rfl⟩, unpinned, trivial⟩
  | startTcp phase tcp =>
      rw [locked.pipe] at tcp
      cases tcp
  | hangUp phase => exact ⟨.refl _, unpinned, trivial⟩
  | @request payload text phase read =>
      obtain ⟨frame, rfl, asText⟩ := Option.bind_eq_some_iff.mp read
      rw [Conn.textOf, locked.pipe] at asText
      cases asText
      exact ⟨.refl _, locked.onRequest bare⟩
  | hungUp phase read =>
      rcases leave_cases conn with ⟨_, _, left⟩ | ⟨_, pinned, _⟩ | ⟨_, left⟩
      · rw [left]
        exact ⟨.refl _, unpinned, trivial⟩
      · exact absurd unpinned pinned
      · rw [left]
        exact ⟨.refl _, unpinned, trivial⟩
  | @core timedOut recentLogs pollElapsed durationMs req snap old env done phase _ _ =>
      rw [phase] at greets
      rcases afterCore_cases conn req snap old _ with ⟨poll, _, _⟩ | sent
      · rw [show req.method = ascii "hello" from greets] at poll
        exact absurd poll (by decide)
      · rw [sent]
        exact ⟨⟨⟨rfl, rfl, rfl⟩, rfl, rfl⟩, unpinned, trivial⟩
  | captureOk captures taken =>
      exact ⟨⟨⟨rfl, rfl, rfl⟩, rfl, rfl⟩, unpinned, captures.greeting greets _⟩
  | captureFails captures taken =>
      exact ⟨⟨⟨rfl, rfl, rfl⟩, rfl, rfl⟩, unpinned, trivial⟩
  | unknownSnapshot phase named free unknown => exact ⟨.refl _, unpinned, trivial⟩
  | @pinned req sid snap phase named free stored =>
      have known : sid ∈ g.st.snaps := Finmap.mem_of_lookup_eq_some stored
      exact absurd known ((bare locked).2 req sid rfl phase named)
  | findingOld phase =>
      rw [phase] at greets
      exact ⟨.refl _, unpinned, greets⟩
  | @sending req resp phase =>
      obtain ⟨crypto, written⟩ := write_eq p.bcrypt conn (serializeResponseJson resp)
      rw [written]
      rcases afterSend_cases { conn with crypto := crypto } with ⟨_, next⟩ | ⟨pinned, _⟩
      · rw [next]
        exact ⟨.refl _, unpinned, trivial⟩
      · exact absurd unpinned pinned
  | closing phase => exact ⟨⟨⟨rfl, rfl, rfl⟩, rfl, rfl⟩, unpinned, trivial⟩
  | answered phase _ | refused phase _ | recovered phase _ _ | tooMany phase _ _ _
  | created phase _ _ _ | subscribed phase _ | unsubscribing phase _ | terminating phase _
  | captured phase _ | evictRound phase _ | evictDone phase _ | storing phase _
  | unpinning phase _ | leaving phase _ =>
      rw [phase] at greets
      cases greets

/-- In the request loop of the pipe nothing changes whether the session is authenticated. -/
theorem turn_authenticated (pipe : conn.transport = .pipe) (looping : conn.phase.opening = false)
    (ran : turn p cfg g conn input = some (g', conn')) :
    conn'.session.authenticated = conn.session.authenticated := by
  cases turn_cases ran with
  | startPipe phase _ =>
      rw [phase] at looping
      cases looping
  | @request payload text phase read =>
      have fresh : conn.refresh.session = conn.session := by rw [Conn.refresh, pipe]
      rcases onRequest_cases p.stod cfg conn text with ⟨req, _, _, routed⟩ | ⟨what, error⟩
      · rw [routed.authenticated, fresh]
      · rw [error]
        exact congrArg ClientSession.authenticated fresh
  | hungUp phase read =>
      obtain ⟨next, left⟩ := leave_goto conn
      rw [left]
      rfl
  | core phase surroundings ranCore =>
      obtain ⟨next, answered⟩ := afterCore_goto conn _ _ _ _
      rw [answered]
      rfl
  | recovered phase free known => exact (route_routed cfg _ _).authenticated
  | created phase free unknown allowed => exact (route_routed cfg _ _).authenticated
  | terminating phase free => exact (proceed_routed cfg _ _).authenticated
  | @sending req resp phase =>
      obtain ⟨crypto, written⟩ := write_eq p.bcrypt conn (serializeResponseJson resp)
      rw [written]
      rfl
  | _ => rfl

end

/-- An authenticated pipe connection is in its request loop; another one holds no pin and
does no more than greet. -/
structure GreetInv (conn : Conn) : Prop where
  looping : conn.transport = .pipe → conn.session.authenticated = true → conn.phase.opening = false
  unpinned : conn.Locked → conn.pinnedSid = []
  greets : conn.Locked → conn.phase.Greeting

theorem GreetInv.turn {p : Platform σ} {cfg : Settings} {g g' : Shared σ} {conn conn' : Conn}
    {input : Input} (inv : GreetInv conn) (bare : (bareHello p).turn g conn input)
    (ran : turn p cfg g conn input = some (g', conn')) : GreetInv conn' := by
  have same := turn_transport ran
  have before : conn'.Locked → conn.Locked := by
    intro locked
    have pipe := same.symm.trans locked.pipe
    refine ⟨pipe, ?_⟩
    by_contra authenticated
    have looping := inv.looping pipe (Bool.eq_true_of_not_eq_false authenticated)
    rw [← turn_authenticated pipe looping ran] at authenticated
    exact authenticated locked.unauthenticated
  have after (locked : conn'.Locked) :=
    (before locked).turn (inv.unpinned (before locked)) (inv.greets (before locked)) bare ran
  refine ⟨?_, fun locked => (after locked).2.1, fun locked => (after locked).2.2⟩
  intro pipe' _
  cases opening : conn.phase.opening with
  | false => exact (turn_looping opening ran).1
  | true =>
      rcases opening_cases opening ran with ⟨_, rfl⟩ | ⟨tcp, _⟩ | rfl | ⟨_, _, _, _, _, rfl⟩
      · rfl
      · rw [← same, pipe'] at tcp
        cases tcp
      · rfl
      · rfl

/-- In every run in which the unauthenticated pipe clients say a bare `hello` or send other
requests, no turn of such a client changes the snapshots, the LRU order, the pins, the counter
or the sessions. -/
theorem unauthenticated_unaffected (p : Platform σ) (cfg : Settings) (world : σ)
    {source : Config (Shared σ) Conn}
    (run : (daemon p cfg).Runs (bareHello p) (initial world) source)
    {conn conn' : Conn} {g' : Shared σ} {input : Input} (member : conn ∈ source.parts)
    (locked : conn.Locked) (bare : (bareHello p).turn source.shared conn input)
    (ran : turn p cfg source.shared conn input = some (g', conn')) :
    Unaffected source.shared.st g'.st := by
  have inv : GreetInv conn := by
    refine forall_conn run ?_ ?_ conn member
    · intro transport
      exact ⟨nofun, fun _ => rfl, fun _ => trivial⟩
    · intro g conn input g' conn' inv bare ran
      exact inv.turn bare ran
  exact (locked.turn (inv.unpinned locked) (inv.greets locked) bare ran).1

/-- A pipe client of a daemon that requires authentication says `hello`. -/
def greet (params : List (String × Json.Value)) :
    List (Transition.Move Input Transport (Outside Fake.FakeState)) :=
  [.spawn .pipe, .turn 0 (.start none []),
    .turn 0 (.frame (some (requestText "1" "hello" params)))]

/-- A `hello` that names a snapshot. -/
def namingHello : CoreRequest :=
  ⟨ascii "1", ascii "hello", [(ascii "snapshot_id", .str (ascii "s-7"))]⟩

/-- An unauthenticated pipe client. -/
def greeter (phase : Phase) : Conn :=
  { transport := .pipe, phase := phase }

/-- The daemon after that `hello` of an unauthenticated client. -/
def greeted : Config (Shared Fake.FakeState) Conn :=
  ⟨{ st := { activeConnections := 1 }, world := {} }, [greeter (.finding namingHello)]⟩

theorem greeted_runs : (daemon fakePlatform { requireAuth := true }).Runs (bareHello fakePlatform)
    (initial {}) greeted := by
  have executed : Transition.exec (daemon fakePlatform { requireAuth := true }).next (initial {})
      (greet [("snapshot_id", .str (ascii "s-7"))]) = some greeted := by
    with_unfolding_all rfl
  have parsed : parseRequestJson Json.integerStod
      (requestText "1" "hello" [("snapshot_id", .str (ascii "s-7"))]) = .ok namingHello := by
    decide +kernel
  refine Transition.Steps.of_exec ?_ executed
  intro move member config
  unfold greet at member
  fin_cases member
  · trivial
  · exact fun _ _ _ => ⟨nofun, nofun⟩
  · refine fun _ _ _ => ⟨?_, nofun⟩
    rintro text req ⟨⟩ read _
    cases parsed.symm.trans read
    decide +kernel

/-- The snapshot is not stored: the client gets an error. -/
theorem unauthenticated_unaffected_unknown :
    ∃ g', turn fakePlatform { requireAuth := true } greeted.shared
        (greeter (.finding namingHello)) .go =
          some (g', greeter (.sending (some namingHello) (badSnapshotResponse .pipe namingHello))) ∧
      Unaffected greeted.shared.st g'.st := by
  have ran : turn fakePlatform { requireAuth := true } greeted.shared
      (greeter (.finding namingHello)) .go = some (greeted.shared,
        greeter (.sending (some namingHello) (badSnapshotResponse .pipe namingHello))) := by
    with_unfolding_all rfl
  refine ⟨_, ran, unauthenticated_unaffected fakePlatform { requireAuth := true } {} greeted_runs
    List.mem_cons_self ⟨rfl, rfl⟩ ?_ ran⟩
  exact fun _ => ⟨nofun, fun _ _ _ _ _ => Finmap.notMem_empty⟩

/-- A `hello` with a `session_id` opens a session for a client that stays unauthenticated. -/
theorem unauthenticated_hello_opens_session :
    ((Transition.exec (daemon fakePlatform { requireAuth := true }).next (initial {})
        (greet [("session_id", .str (ascii "A"))])).map fun source =>
      (source.parts.map fun conn => (conn.transport, conn.session.authenticated),
        (source.shared.st.sessions.lookup (ascii "A")).isSome)) =
        some ([(.pipe, false)], false) ∧
    ((Transition.exec (daemon fakePlatform { requireAuth := true }).next (initial {})
        (greet [("session_id", .str (ascii "A"))] ++ [.turn 0 .go])).map fun target =>
      (target.parts.map fun conn => (conn.transport, conn.session.authenticated),
        (target.shared.st.sessions.lookup (ascii "A")).isSome)) =
        some ([(.pipe, false)], true) := by
  constructor <;> decide +kernel

end WinInspect.Daemon
