import WinInspect.Daemon.Turn

/-!
# The connection limit

`run_server` compares `active_connections` with the limit before it creates a thread, and
the thread raises the counter when it starts.  The counter sees neither the threads that
have not started nor the TCP connections, and `TcpServer::start` compares nothing.  So the
check keeps the limit in the runs where a pipe is accepted only when the counter sees every
connection, and a TCP client only when there is room for it.
-/

namespace WinInspect.Daemon

open Transition (Config System Move Steps)
open Transition.System (Guard Keeps Counts)

variable {σ : Type}

/-- The connection has been accepted and not closed. -/
def Conn.served (conn : Conn) : Bool :=
  match conn.phase with
  | .closed => false
  | _ => true

/-- The connection is one that `active_connections` counts: a pipe whose thread has
started. -/
def Conn.counted (conn : Conn) : Bool :=
  match conn.transport, conn.phase with
  | .pipe, .starting | .pipe, .closed | .tcp, _ => false
  | .pipe, _ => true

/-- The number of connections being served. -/
def served (config : Config (Shared σ) Conn) : Nat :=
  config.parts.countP Conn.served

/-- The number of those that `active_connections` does not count. -/
def unseen (config : Config (Shared σ) Conn) : Nat :=
  config.parts.countP fun conn => conn.served && !conn.counted

/-- The condition on a step, for what the accept loops do not check: a pipe is accepted when
`active_connections` counts all connections, and a TCP client when there is room. -/
def acceptsSeen (cfg : Settings) (config : Config (Shared σ) Conn) :
    Move Input Transport (Outside σ) → Prop
  | .spawn .pipe => unseen config = 0
  | .spawn .tcp => (served config : Int) < cfg.maxConnections
  | _ => True

/-! ## The counter -/

/-- Only TCP has a handshake, and only a pipe has an exit path. -/
structure Placed (conn : Conn) : Prop where
  handshake : conn.phase = .handshake → conn.transport = .tcp
  exits : conn.phase = .leaving ∨ conn.phase = .closing → conn.transport = .pipe

/-- The phases of a started request loop. -/
def Phase.looping : Phase → Bool
  | .starting | .handshake | .leaving | .closing | .closed => false
  | _ => true

theorem Placed.of_looping {conn : Conn} (looping : conn.phase.looping = true) : Placed conn where
  handshake phase := by
    rw [phase] at looping
    cases looping
  exits phase := by
    rcases phase with phase | phase <;> rw [phase] at looping <;> cases looping

theorem counted_of_looping {conn : Conn} (looping : conn.phase.looping = true) :
    conn.counted = decide (conn.transport = .pipe) := by
  unfold Conn.counted
  cases conn.transport <;> cases phase : conn.phase <;> rw [phase] at looping <;>
    first | rfl | cases looping

theorem counted_of_tcp {conn : Conn} (tcp : conn.transport = .tcp) : conn.counted = false := by
  simp [Conn.counted, tcp]

theorem Routes.looping {cfg : Settings} {req : CoreRequest} {phase : Phase}
    (routes : Routes cfg req phase) : phase.looping = true := by
  cases routes <;> rfl

theorem Captures.loops {phase : Phase} {resp : CoreResponse} {req : CoreRequest}
    {next : Snapshot → Phase} (captures : Captures phase resp req next) (snap : Snapshot) :
    phase.looping = true ∧ (next snap).looping = true := by
  cases captures <;> exact ⟨rfl, rfl⟩

section

variable {p : Platform σ} {cfg : Settings} {g g' : Shared σ} {conn conn' : Conn} {input : Input}

/-- A turn within the request loop. -/
theorem balance_of_looping (transport : conn'.transport = conn.transport)
    (before : conn.phase.looping = true) (after : conn'.phase.looping = true)
    (same : g'.st.activeConnections = g.st.activeConnections) :
    Placed conn' ∧ g'.st.activeConnections + conn.counted.toInt =
      g.st.activeConnections + conn'.counted.toInt := by
  refine ⟨Placed.of_looping after, ?_⟩
  rw [same, counted_of_looping before, counted_of_looping after, transport]

/-- A turn of a TCP connection. -/
theorem balance_of_tcp (transport : conn'.transport = conn.transport)
    (tcp : conn.transport = .tcp) (inside : conn'.phase ≠ .leaving ∧ conn'.phase ≠ .closing)
    (same : g'.st.activeConnections = g.st.activeConnections) :
    Placed conn' ∧ g'.st.activeConnections + conn.counted.toInt =
      g.st.activeConnections + conn'.counted.toInt := by
  have tcp' : conn'.transport = .tcp := transport.trans tcp
  refine ⟨⟨fun _ => tcp', ?_⟩, ?_⟩
  · rintro (phase | phase)
    · exact absurd phase inside.1
    · exact absurd phase inside.2
  · rw [same, counted_of_tcp tcp, counted_of_tcp tcp']

/-- A turn changes the counter as it changes the number of started pipe connections. -/
theorem turn_balance (placed : Placed conn)
    (ran : turn p cfg g conn input = some (g', conn')) :
    Placed conn' ∧ g'.st.activeConnections + conn.counted.toInt =
      g.st.activeConnections + conn'.counted.toInt := by
  have transport := turn_transport ran
  cases turn_cases ran with
  | startPipe phase pipe =>
      refine ⟨Placed.of_looping rfl, ?_⟩
      simp [Conn.counted, phase, pipe, Shared.withSt]
  | startTcp phase tcp =>
      refine balance_of_tcp transport tcp ?_ rfl
      dsimp only
      split <;> simp
  | hangUp phase =>
      rcases phase with phase | phase
      · refine ⟨⟨nofun, by simp [Conn.goto]⟩, ?_⟩
        cases kind : conn.transport <;> simp [Conn.counted, phase, kind, Conn.goto]
      · exact balance_of_tcp transport (placed.handshake phase) (by simp [Conn.goto]) rfl
  | answered phase checked =>
      exact balance_of_tcp transport (placed.handshake phase) (by simp) rfl
  | refused phase checked =>
      exact balance_of_tcp transport (placed.handshake phase) (by simp [Conn.goto]) rfl
  | @request payload text phase read =>
      refine balance_of_looping transport (by rw [phase]; rfl) ?_ rfl
      rcases onRequest_cases p.stod cfg conn text with ⟨req, _, _, routed⟩ | ⟨what, error⟩
      · exact routed.phase.looping
      · rw [error]
        rfl
  | hungUp phase read =>
      rcases leave_cases conn with ⟨pipe, _, left⟩ | ⟨pipe, _, left⟩ | ⟨tcp, left⟩
      · rw [left]
        refine ⟨⟨nofun, fun _ => pipe⟩, ?_⟩
        simp [Conn.counted, phase, pipe, Conn.goto]
      · rw [left]
        refine ⟨⟨nofun, fun _ => pipe⟩, ?_⟩
        simp [Conn.counted, phase, pipe, Conn.goto]
      · exact balance_of_tcp transport tcp (by simp [left, Conn.goto]) rfl
  | leaving phase free =>
      have pipe := placed.exits (Or.inl phase)
      refine ⟨⟨nofun, fun _ => pipe⟩, ?_⟩
      simp [Conn.counted, phase, pipe, Conn.goto, Shared.withSt, ServerState.addPin]
  | closing phase =>
      have pipe := placed.exits (Or.inr phase)
      refine ⟨⟨nofun, by simp [Conn.goto]⟩, ?_⟩
      simp [Conn.counted, phase, pipe, Conn.goto, Shared.withSt]
  | captureOk captures taken =>
      exact balance_of_looping transport (captures.loops {}).1 (captures.loops _).2 rfl
  | captureFails captures taken =>
      exact balance_of_looping transport (captures.loops {}).1 rfl rfl
  | core phase surroundings ranCore =>
      refine balance_of_looping transport (by rw [phase]; rfl) ?_ rfl
      rcases afterCore_cases conn _ _ _ _ with ⟨_, _, next⟩ | next <;> rw [next] <;> rfl
  | recovered phase free known =>
      exact balance_of_looping transport (by rw [phase]; rfl)
        (route_routed cfg _ _).phase.looping rfl
  | created phase free unknown allowed =>
      exact balance_of_looping transport (by rw [phase]; rfl)
        (route_routed cfg _ _).phase.looping rfl
  | terminating phase free =>
      exact balance_of_looping transport (by rw [phase]; rfl)
        (proceed_routed cfg _ _).phase.looping rfl
  | subscribed phase free =>
      refine balance_of_looping transport (by rw [phase]; rfl) rfl ?_
      simp only [subscribe, Shared.withSt]
      split <;> rfl
  | unsubscribing phase free =>
      refine balance_of_looping transport (by rw [phase]; rfl) rfl ?_
      simp only [unsubscribe, Shared.withSt]
      split <;> rfl
  | storing phase free =>
      refine balance_of_looping transport (by rw [phase]; rfl) rfl ?_
      simp only [storePoll, Shared.withSt]
      split <;> rfl
  | pinned phase named free stored =>
      refine balance_of_looping transport (by rw [phase]; rfl) rfl ?_
      cases conn.transport <;> rfl
  | evictRound phase full =>
      refine balance_of_looping rfl (by rw [phase]; rfl) (by rw [phase]; rfl) ?_
      simp only [Shared.withSt, ServerState.evictOnce]
      split
      · rfl
      · split <;> rfl
  | @sending req resp phase =>
      refine balance_of_looping transport (by rw [phase]; rfl) ?_ rfl
      rcases afterSend_cases (conn.write p.bcrypt (serializeResponseJson resp)).2 with
        ⟨_, next⟩ | ⟨_, next⟩ <;> rw [next] <;> rfl
  | tooMany phase _ _ _ | captured phase _ | evictDone phase _ | unknownSnapshot phase _ _ _
  | findingOld phase | unpinning phase _ =>
      exact balance_of_looping transport (by rw [phase]; rfl) rfl rfl

end

theorem keeps_placed (p : Platform σ) (cfg : Settings) :
    Keeps (daemon p cfg) {} (fun _ => True) fun _ conn => Placed conn where
  turn := fun _ _ _ _ _ _ placed _ ran => ⟨trivial, (turn_balance placed ran).1⟩
  others := fun _ _ _ _ _ _ _ _ placed _ _ => placed
  spawn := by
    intro g transport g' conn _ _ spawned
    obtain ⟨_, rfl⟩ := accept_st spawned
    exact ⟨trivial, ⟨nofun, nofun⟩, fun _ placed => placed⟩
  env := fun _ _ _ _ _ _ => ⟨trivial, fun _ placed => placed⟩

theorem counts_active (p : Platform σ) (cfg : Settings) :
    Counts (daemon p cfg) {} (fun _ => True) (fun _ conn => Placed conn)
      (fun g => g.st.activeConnections) Conn.counted where
  turn := fun _ _ _ _ _ _ placed _ _ ran => (turn_balance placed ran).2
  spawn := by
    intro g transport g' conn _ _ spawned
    obtain ⟨rfl, rfl⟩ := accept_st spawned
    cases transport <;> exact ⟨rfl, rfl⟩
  env := by
    intro g event g' _ _ moved
    rcases outside_cases moved with ⟨w, _, rfl⟩ | ⟨nanoseconds, _, rfl⟩ | ⟨_, _, rfl⟩ <;> rfl

/-- `active_connections` is the number of started pipe connections. -/
theorem activeConnections_eq {p : Platform σ} {cfg : Settings} {world : σ}
    {target : Config (Shared σ) Conn} (run : (daemon p cfg).Runs {} (initial world) target) :
    target.shared.st.activeConnections = target.parts.countP Conn.counted :=
  run.counted (keeps_placed p cfg) (counts_active p cfg) ⟨trivial, by simp [initial]⟩ rfl

/-! ## The limit -/

theorem served_of_counted {conn : Conn} (counted : conn.counted = true) : conn.served = true := by
  unfold Conn.served
  split
  · rename_i phase
    cases transport : conn.transport <;> simp [Conn.counted, transport, phase] at counted
  · rfl

theorem served_eq (config : Config (Shared σ) Conn) :
    served config = config.parts.countP Conn.counted + unseen config := by
  unfold served unseen
  induction config.parts with
  | nil => rfl
  | cons conn rest inductionHypothesis =>
      simp only [List.countP_cons, inductionHypothesis]
      cases counted : conn.counted with
      | true => simp [served_of_counted counted]; omega
      | false => simp [Nat.add_assoc]

/-- A turn serves no connection that was not served before. -/
theorem served_turn {p : Platform σ} {cfg : Settings} {g g' : Shared σ} {parts : List Conn}
    {index : Nat} {conn conn' : Conn} {input : Input} (found : parts[index]? = some conn)
    (ran : turn p cfg g conn input = some (g', conn')) :
    (parts.set index conn').countP Conn.served ≤ parts.countP Conn.served := by
  have alive : conn.served = true := by
    unfold Conn.served
    split
    · rename_i phase
      rw [turn_closed phase] at ran
      cases ran
    · rfl
  have balance := System.countP_set Conn.served found conn'
  rw [alive] at balance
  cases after : conn'.served <;> simp [after] at balance <;> omega

theorem served_append (g : Shared σ) (parts : List Conn) (transport : Transport) :
    served ⟨g, parts ++ [{ transport := transport }]⟩ = served ⟨g, parts⟩ + 1 := by
  simp [served, Conn.served]

/-- The check of `run_server` leaves room when the counter counts all connections. -/
theorem served_lt_of_accept {cfg : Settings} {config : Config (Shared σ) Conn}
    {accepted : Shared σ × Conn}
    (counter : config.shared.st.activeConnections = config.parts.countP Conn.counted)
    (seen : unseen config = 0) (spawned : accept cfg config.shared .pipe = some accepted) :
    (served config : Int) < cfg.maxConnections := by
  simp only [accept] at spawned
  split at spawned
  · cases spawned
  · rename_i below
    rw [served_eq, seen, Nat.add_zero, ← counter]
    omega

/-- A step that meets the condition keeps the limit. -/
theorem served_le_of_step {p : Platform σ} {cfg : Settings} {before after : Config (Shared σ) Conn}
    {move : Move Input Transport (Outside σ)}
    (counter : before.shared.st.activeConnections = before.parts.countP Conn.counted)
    (bounded : (served before : Int) ≤ cfg.maxConnections) (fits : acceptsSeen cfg before move)
    (step : (daemon p cfg).next before move = some after) :
    (served after : Int) ≤ cfg.maxConnections := by
  rcases System.next_cases step with ⟨index, input, conn, g', conn', rfl, found, ran, rfl⟩ |
    ⟨transport, g', conn, rfl, spawned, rfl⟩ | ⟨event, g', rfl, moved, rfl⟩
  · have fewer := served_turn found ran
    unfold served at bounded ⊢
    dsimp only
    omega
  · have room : (served before : Int) < cfg.maxConnections := by
      cases transport with
      | pipe => exact served_lt_of_accept counter fits spawned
      | tcp => exact fits
    obtain ⟨rfl, rfl⟩ := accept_st spawned
    rw [served_append]
    push_cast
    exact room
  · exact bounded

/-- In every run in which a pipe is accepted only when `active_connections` counts every
connection that is served, and a TCP client only when there is room for it, at most
`max_connections` connections are served at once. -/
theorem connections_bounded (p : Platform σ) (cfg : Settings) (world : σ)
    (some_allowed : 0 ≤ cfg.maxConnections) {target : Config (Shared σ) Conn}
    (run : Steps (daemon p cfg).next (acceptsSeen cfg) (initial world) target) :
    (served target : Int) ≤ cfg.maxConnections := by
  have counter : ∀ config, Steps (daemon p cfg).next (acceptsSeen cfg) (initial world) config →
      config.shared.st.activeConnections = config.parts.countP Conn.counted := by
    intro config reached
    exact activeConnections_eq (reached.mono fun state move _ => Guard.allows_default state move)
  induction run with
  | refl => exact some_allowed
  | tail earlier fits step inductionHypothesis =>
      exact served_le_of_step (counter _ earlier) inductionHypothesis fits step

/-- The condition can be evaluated. -/
instance instDecidableAcceptsSeen (cfg : Settings) (config : Config (Shared σ) Conn) :
    DecidablePred (acceptsSeen cfg config)
  | .spawn .pipe => inferInstanceAs (Decidable (unseen config = 0))
  | .spawn .tcp => inferInstanceAs (Decidable ((served config : Int) < cfg.maxConnections))
  | .turn _ _ | .env _ => inferInstanceAs (Decidable True)

/-- With two connections allowed, a pipe and a TCP client are served, the TCP client
leaves, and another pipe client is served. -/
def roomForTwo : Option (Config (Shared Fake.FakeState) Conn) :=
  Transition.exec (Transition.checked (daemon fakePlatform { maxConnections := 2 }).next
    fun config move => decide (acceptsSeen { maxConnections := 2 } config move)) (initial {})
    [.spawn .pipe, .turn 0 (.start none []), .spawn .tcp, .turn 1 (.start none []),
      .turn 1 (.frame none), .spawn .pipe, .turn 2 (.start none [])]

theorem roomForTwo_enabled : roomForTwo.isSome := by
  decide +kernel

theorem connections_bounded_roomForTwo :
    let target := roomForTwo.get roomForTwo_enabled
    served target = 2 ∧ (served target : Int) ≤ 2 :=
  ⟨by decide +kernel,
    connections_bounded fakePlatform { maxConnections := 2 } {} (by decide)
      (Steps.of_checked (fun _ _ => of_decide_eq_true) (Option.some_get roomForTwo_enabled).symm)⟩

/-- With one connection allowed, two pipe clients are accepted before a thread starts, or
two TCP clients one after the other. -/
theorem limit_exceeded :
    (Transition.exec (daemon fakePlatform { maxConnections := 1 }).next (initial {})
      [.spawn .pipe, .spawn .pipe, .turn 0 (.start none []), .turn 1 (.start none [])]).map served =
        some 2 ∧
    (Transition.exec (daemon fakePlatform { maxConnections := 1 }).next (initial {})
      [.spawn .tcp, .turn 0 (.start none []), .spawn .tcp, .turn 1 (.start none [])]).map served =
        some 2 := by
  decide +kernel

end WinInspect.Daemon
