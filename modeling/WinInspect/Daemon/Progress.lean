import WinInspect.Daemon.Evicted

/-!
# Requests in flight can be completed

Between two steps `mu` is held only by a connection in its eviction loop, and that connection can
move.  Every other connection with a request in flight can move as soon as `mu` is free, and each
of its turns brings it nearer to its response.  The eviction loop ends because an id is pinned
only by a request in flight, so that the pinned ids cannot fill the store.  So the daemon reaches
no state from which a request cannot be answered any more.
-/

namespace WinInspect.Daemon

open Transition (Config System Move)

variable {σ : Type}

/-! ## The turns of one connection -/

/-- An upper bound for the turns until the end of a request, where the eviction loop counts as one;
zero when no request is in flight, and two at the send label. -/
def Phase.ahead : Phase → Nat
  | .session _ _ => 10
  | .terminating _ => 9
  | .finding _ => 8
  | .findingOld _ _ => 7
  | .calling _ _ _ => 6
  | .subscribing _ | .capturing _ | .polled _ _ _ _ => 5
  | .subscribed _ _ | .captured _ _ | .storing _ _ _ _ _ => 4
  | .unsubscribing _ | .evicting _ _ => 3
  | .sending _ _ => 2
  | .unpinning => 1
  | .starting | .handshake | .reading | .leaving | .closing | .closed => 0

/-- The input of a turn that waits for nothing from the client. -/
def Phase.input : Phase → Input
  | .calling _ _ _ => .core false [] 0 0
  | _ => .go

/-- The inputs that do not come from the client. -/
def Input.internal : Input → Bool
  | .core _ _ _ _ | .go => true
  | .start _ _ | .hangUp | .frame _ => false

theorem Phase.internal_input (phase : Phase) : phase.input.internal = true := by
  cases phase <;> rfl

/-- The entries of the LRU order that eviction keeps. -/
def ServerState.pinnedEntries (st : ServerState) : Nat :=
  st.lruOrder.countP st.isPinned

/-- The phases that may lead to the eviction loop. -/
def Phase.mayEvict : Phase → Bool
  | .session _ _ | .terminating _ | .capturing _ | .captured _ _ => true
  | _ => false

/-- A connection can go on to its response: `mu` is free for it, and its eviction loop ends. -/
structure Able (cfg : Settings) (g : Shared σ) (conn : Conn) : Prop where
  free : conn.phase.evicts = false → g.muHeld = false
  room : conn.phase.mayEvict = true → g.st.pinnedEntries < cfg.maxSnapshots
  fits : conn.phase.evicts = true → g.st.pinnedEntries ≤ cfg.maxSnapshots

/-- The phases that are not on the way to the eviction loop. -/
theorem Able.of_free {cfg : Settings} {g : Shared σ} {conn : Conn} (free : g.muHeld = false)
    (straight : conn.phase.mayEvict = false) (outside : conn.phase.evicts = false) :
    Able cfg g conn where
  free _ := free
  room leads := by rw [straight] at leads; cases leads
  fits evicts := by rw [outside] at evicts; cases evicts

section

variable {p : Platform σ} {cfg : Settings} {g g' : Shared σ} {conn conn' : Conn}

theorem pinnedEntries_issue_le (st : ServerState) (s : Snapshot) :
    (st.issue s).pinnedEntries ≤ st.pinnedEntries + 1 := by
  change (st.lruOrder ++ [st.nextSid]).countP st.isPinned ≤ _
  rw [List.countP_append, List.countP_singleton]
  split <;> simp [ServerState.pinnedEntries]

/-- With room for one more snapshot a connection can go on wherever its request leads. -/
theorem Able.of_room (free : g.muHeld = false) (room : g.st.pinnedEntries < cfg.maxSnapshots) :
    Able cfg g conn where
  free _ := free
  room _ := room
  fits _ := room.le

/-- What a turn before the send label leads to: a phase that is nearer to it. -/
structure Nearer (cfg : Settings) (g : Shared σ) (conn : Conn) (before : Phase) : Prop where
  ahead : conn.phase.ahead < before.ahead
  able : Able cfg g conn
  unsent : 2 ≤ conn.phase.ahead

theorem Routes.nearer {req : CoreRequest} {before : Phase} (routes : Routes cfg req conn.phase)
    (free : g.muHeld = false) (room : g.st.pinnedEntries < cfg.maxSnapshots)
    (ahead : conn.phase.ahead < before.ahead) : Nearer cfg g conn before where
  ahead := ahead
  able := Able.of_room free room
  unsent := by
    generalize conn.phase = phase at routes
    cases routes <;> simp [Phase.ahead]

theorem proceed_ahead (cfg : Settings) (conn : Conn) (req : CoreRequest) :
    (conn.proceed cfg req).phase.ahead < 9 := by
  unfold Conn.proceed
  split
  · simp [Conn.send, Conn.goto, Phase.ahead]
  · split <;> simp [Conn.goto, Phase.ahead]

theorem route_ahead (cfg : Settings) (conn : Conn) (req : CoreRequest) :
    (conn.route cfg req).phase.ahead < 10 := by
  unfold Conn.route
  split
  · simp [Conn.goto, Phase.ahead]
  · split
    · dsimp only
      split <;> simp [Conn.send, Conn.goto, Phase.ahead]
    · split
      · simp [Conn.goto, Phase.ahead]
      · exact (proceed_ahead cfg conn req).trans (by decide)

theorem Captures.nearer {resp : CoreResponse} {req : CoreRequest} {next : Snapshot → Phase}
    (captures : Captures conn.phase resp req next) (able : Able cfg g conn) (s : Snapshot) (w : σ) :
    Nearer cfg { g with world := w } (conn.goto (next s)) conn.phase := by
  generalize same : conn.phase = phase at captures
  have free : g.muHeld = false := able.free (by rw [same]; cases captures <;> rfl)
  cases captures with
  | capturing req =>
      exact ⟨by simp [Conn.goto, Phase.ahead],
        Able.of_room free (able.room (by rw [same]; rfl)), by simp [Conn.goto, Phase.ahead]⟩
  | _ =>
      exact ⟨by simp [Conn.goto, Phase.ahead], Able.of_free free rfl rfl,
        by simp [Conn.goto, Phase.ahead]⟩

/-- A turn to the send label. -/
theorem Nearer.of_sending {before : Phase} {req : Option CoreRequest} {resp : CoreResponse}
    (sending : conn.phase = .sending req resp) (free : g.muHeld = false)
    (ahead : 2 < before.ahead) : Nearer cfg g conn before where
  ahead := by rw [sending]; exact ahead
  able := Able.of_free free (by rw [sending]; rfl) (by rw [sending]; rfl)
  unsent := by rw [sending]; rfl

theorem turn_nearer {input : Input} (able : Able cfg g conn)
    (unsent : 2 < conn.phase.ahead) (outside : conn.phase.evicts = false)
    (ran : turn p cfg g conn input = some (g', conn')) : Nearer cfg g' conn' conn.phase := by
  have free : g.muHeld = false := able.free outside
  cases turn_cases ran with
  | startPipe phase _ | startTcp phase _ | answered phase _ | refused phase _ | request phase _
  | hungUp phase _ | sending phase | unpinning phase _ | leaving phase _ | closing phase =>
      rw [phase] at unsent
      simp [Phase.ahead] at unsent
  | hangUp phase => rcases phase with phase | phase <;> simp [phase, Phase.ahead] at unsent
  | evictRound phase _ | evictDone phase _ =>
      rw [phase] at outside
      cases outside
  | @core timedOut recentLogs pollElapsed durationMs req snap old env done phase _ _ =>
      rw [phase]
      rcases afterCore_cases conn req snap old
          (if timedOut then timeoutResponse conn.transport req else done.1) with
        ⟨_, _, polled⟩ | sent
      · rw [polled]
        exact ⟨by simp [Conn.goto, Phase.ahead], Able.of_free free rfl rfl,
          by simp [Conn.goto, Phase.ahead]⟩
      · rw [sent]
        exact Nearer.of_sending rfl free (by simp [Phase.ahead])
  | recovered phase _ _ | created phase _ _ _ =>
      have room := able.room (by rw [phase]; rfl)
      rw [phase]
      exact (route_routed cfg _ _).phase.nearer free room (route_ahead cfg _ _)
  | captureOk captures taken => exact captures.nearer able _ _
  | captureFails captures taken =>
      refine Nearer.of_sending rfl free ?_
      generalize conn.phase = phase at captures
      cases captures <;> simp [Phase.ahead]
  | tooMany phase _ _ _ | subscribed phase _ | unsubscribing phase _
  | unknownSnapshot phase _ _ _ | storing phase _ =>
      rw [phase]
      exact Nearer.of_sending rfl free (by simp [Phase.ahead])
  | terminating phase _ =>
      have room := able.room (by rw [phase]; rfl)
      rw [phase]
      exact (proceed_routed cfg _ _).phase.nearer free room (proceed_ahead cfg _ _)
  | @captured req s phase _ =>
      have room := able.room (by rw [phase]; rfl)
      rw [phase]
      refine ⟨by simp [Conn.goto, Phase.ahead],
        ⟨(by rintro ⟨⟩), (by rintro ⟨⟩), fun _ => ?_⟩, by simp [Conn.goto, Phase.ahead]⟩
      exact (pinnedEntries_issue_le g.st s).trans room
  | pinned phase _ _ _ | findingOld phase =>
      rw [phase]
      exact ⟨by simp [Conn.goto, Phase.ahead], Able.of_free free rfl rfl,
        by simp [Conn.goto, Phase.ahead]⟩

/-- A connection with a request in flight can move when `mu` is free. -/
theorem turn_enabled (free : g.muHeld = false) (inFlight : conn.phase.inFlight = true) :
    (turn p cfg g conn conn.phase.input).isSome := by
  have unlocked : ∀ body : Shared σ × Conn, locked g body = some body := fun body => by
    rw [locked, free]
    rfl
  cases phase : conn.phase with
  | starting | handshake | reading | leaving | closing | closed =>
      rw [phase] at inFlight
      cases inFlight
  | finding req =>
      simp only [Phase.input, turn, onGo, phase, unlocked]
      split <;> rfl
  | findingOld req snap =>
      simp only [Phase.input, turn, onGo, phase, unlocked]
      split <;> rfl
  | _ => simp only [Phase.input, turn, onGo, onCore, phase, unlocked, Option.isSome_some]

end

/-! ## The eviction loop -/

theorem pinnedEntries_evictOnce (st : ServerState) :
    st.evictOnce.pinnedEntries = st.pinnedEntries := by
  rw [ServerState.pinnedEntries, isPinned_evictOnce, lruOrder_evictOnce, Sweep.countP_round]
  rfl

theorem pinnedEntries_rounds (st : ServerState) (n : Nat) :
    (ServerState.evictOnce^[n] st).pinnedEntries = st.pinnedEntries := by
  induction n with
  | zero => rfl
  | succ n inductionHypothesis =>
      rw [Function.iterate_succ_apply', pinnedEntries_evictOnce, inductionHypothesis]

section

variable {p : Platform σ} {cfg : Settings} {config : Config (Shared σ) Conn} {index : Nat}
  {conn : Conn}

/-- The eviction loop ends and releases `mu`, when not too many entries are pinned. -/
theorem exists_exec_released {req : CoreRequest} {sid : Bytes}
    (found : config.parts[index]? = some conn) (phase : conn.phase = .evicting req sid)
    (fits : config.shared.st.pinnedEntries ≤ cfg.maxSnapshots) :
    ∃ n st, Transition.exec (daemon p cfg).next config (List.replicate n (.turn index .go)) =
      some ⟨{ config.shared with st := st, muHeld := false }, config.parts.set index
        (conn.send req (okResponse req [("snapshot_id", .str sid)]))⟩ ∧
      st.pinnedEntries = config.shared.st.pinnedEntries := by
  have reaches : ∃ n, (ServerState.evictOnce^[n] config.shared.st).lruOrder.length ≤
      cfg.maxSnapshots := by
    simp only [lruOrder_rounds]
    exact (Sweep.exists_rounds_le_iff _ _ _).mpr fits
  have rounds := exec_evicting (p := p) found phase (Nat.find reaches) fun k below =>
    Nat.lt_of_not_le (Nat.find_min reaches below)
  obtain ⟨st, named⟩ : ∃ st, st = ServerState.evictOnce^[Nat.find reaches] config.shared.st :=
    ⟨_, rfl⟩
  have short : st.lruOrder.length ≤ cfg.maxSnapshots := named ▸ Nat.find_spec reaches
  have last : (daemon p cfg).next ⟨config.shared.withSt st, config.parts⟩ (.turn index .go) = _ :=
    next_evicting_done found phase short
  refine ⟨Nat.find reaches + 1, st, ?_, named ▸ pinnedEntries_rounds _ _⟩
  rw [List.replicate_succ', Transition.exec_append, rounds, Option.bind_some,
    Transition.exec_cons, ← named, last]
  rfl

/-! ## The turns to the response -/

/-- The turns of one connection that need nothing from its client. -/
def OwnTurns (index : Nat) (moves : List (Move Input Transport (Outside σ))) : Prop :=
  ∀ move ∈ moves, ∃ input, move = .turn index input ∧ input.internal = true

/-- Along some moves a connection comes to the send label and writes its response. -/
def Writes (p : Platform σ) (cfg : Settings) (config : Config (Shared σ) Conn) (index : Nat)
    (moves : List (Move Input Transport (Outside σ))) : Prop :=
  ∃ before later middle conn req resp, moves = before ++ .turn index .go :: later ∧
    Transition.exec (daemon p cfg).next config before = some middle ∧
    middle.parts[index]? = some conn ∧ conn.phase = .sending req resp

theorem OwnTurns.append {first second : List (Move Input Transport (Outside σ))}
    (earlier : OwnTurns index first) (later : OwnTurns index second) :
    OwnTurns index (first ++ second) := by
  intro move member
  rcases List.mem_append.mp member with old | new
  · exact earlier move old
  · exact later move new

theorem OwnTurns.replicate (n index : Nat) :
    OwnTurns index (List.replicate n (.turn index .go : Move Input Transport (Outside σ))) := by
  intro move member
  exact ⟨.go, (List.mem_replicate.mp member).2, rfl⟩

theorem Phase.exists_of_ahead {phase : Phase} (sent : phase.ahead = 2) :
    ∃ req resp, phase = .sending req resp := by
  cases phase with
  | sending req resp => exact ⟨req, resp, rfl⟩
  | _ => cases sent

theorem Phase.inFlight_of_ahead {phase : Phase} (unsent : 2 ≤ phase.ahead) :
    phase.inFlight = true := by
  cases phase <;> first | rfl | simp [Phase.ahead] at unsent

theorem Phase.eq_unpinning {phase : Phase} (inFlight : phase.inFlight = true)
    (sent : phase.ahead < 2) : phase = .unpinning := by
  cases phase <;> first | rfl | (cases inFlight; done) | simp [Phase.ahead] at sent

/-- A connection that is able to comes to the send label by its own turns. -/
theorem exists_exec_sending (found : config.parts[index]? = some conn)
    (unsent : 2 ≤ conn.phase.ahead) (able : Able cfg config.shared conn) :
    ∃ moves g sent req resp, OwnTurns index moves ∧
      Transition.exec (daemon p cfg).next config moves =
        some ⟨g, config.parts.set index sent⟩ ∧
      sent.phase = .sending req resp ∧ g.muHeld = false := by
  -- the turns lower the bound, and the eviction loop is passed as a whole
  induction bound : conn.phase.ahead using Nat.strong_induction_on generalizing config conn with
  | _ bound inductionHypothesis =>
      subst bound
      have below : index < config.parts.length := (List.getElem?_eq_some_iff.mp found).1
      cases outside : conn.phase.evicts with
      | true =>
          obtain ⟨req, sid, phase⟩ := Phase.exists_of_evicts outside
          obtain ⟨n, st, executed, _⟩ :=
            exists_exec_released (p := p) found phase (able.fits outside)
          exact ⟨_, _, _, _, _, OwnTurns.replicate n index, executed, rfl, rfl⟩
      | false =>
          by_cases sent : conn.phase.ahead = 2
          · obtain ⟨req, resp, phase⟩ := Phase.exists_of_ahead sent
            refine ⟨[], config.shared, conn, req, resp, by rintro move ⟨⟩, ?_, phase,
              able.free outside⟩
            rw [System.set_of_getElem? found]
            rfl
          · obtain ⟨⟨g', conn'⟩, ran⟩ := Option.isSome_iff_exists.mp
              (@turn_enabled σ p cfg config.shared conn (able.free outside)
                (Phase.inFlight_of_ahead unsent))
            have nearer := turn_nearer able (by omega) outside ran
            have next : (daemon p cfg).next config (.turn index conn.phase.input) = _ :=
              System.next_turn found ran
            obtain ⟨moves, g, sent, req, resp, own, rest, sending, free⟩ :=
              @inductionHypothesis _ nearer.ahead ⟨g', config.parts.set index conn'⟩ conn'
                (List.getElem?_set_self below) nearer.unsent nearer.able rfl
            refine ⟨.turn index conn.phase.input :: moves, g, sent, req, resp, ?_, ?_, sending,
              free⟩
            · intro move member
              rcases List.mem_cons.mp member with rfl | later
              · exact ⟨_, rfl, conn.phase.internal_input⟩
              · exact own move later
            · rw [Transition.exec_cons, next, Option.bind_some, rest, List.set_set]

/-- The critical section after the send ends the request. -/
theorem next_unpinning (found : config.parts[index]? = some conn)
    (phase : conn.phase = .unpinning) (free : config.shared.muHeld = false) :
    ∃ g, (daemon p cfg).next config (.turn index .go) =
      some ⟨g, config.parts.set index (conn.goto .reading)⟩ := by
  have ran : turn p cfg config.shared conn .go = some
      (config.shared.withSt (config.shared.st.addPin conn.pinnedSid (-1)),
        conn.goto .reading) := by
    simp only [turn, onGo, phase, locked, free, if_neg Bool.false_ne_true]
  exact ⟨_, System.next_turn found ran⟩

/-- From the send label a connection writes its response and comes to the end of its request. -/
theorem exists_exec_reading {req : Option CoreRequest} {resp : CoreResponse}
    (found : config.parts[index]? = some conn) (phase : conn.phase = .sending req resp)
    (free : config.shared.muHeld = false) :
    ∃ n g conn', Transition.exec (daemon p cfg).next config
        (.turn index .go :: List.replicate n (.turn index .go)) =
          some ⟨g, config.parts.set index conn'⟩ ∧
      conn'.phase = .reading := by
  have below : index < config.parts.length := (List.getElem?_eq_some_iff.mp found).1
  have ran : turn p cfg config.shared conn .go = some (config.shared,
      (conn.write p.bcrypt (serializeResponseJson resp)).2.afterSend) := by
    simp only [turn, onGo, phase]
  have next : (daemon p cfg).next config (.turn index .go) = _ := System.next_turn found ran
  generalize (conn.write p.bcrypt (serializeResponseJson resp)).2 = written at next
  simp only [Transition.exec_cons, next, Option.bind_some]
  rcases afterSend_cases written with ⟨_, sent⟩ | ⟨_, sent⟩ <;> rw [sent]
  · exact ⟨0, config.shared, written.goto .reading, rfl, rfl⟩
  · obtain ⟨g, last⟩ := @next_unpinning σ p cfg ⟨config.shared, config.parts.set index _⟩ index
      (written.goto .unpinning) (List.getElem?_set_self below) rfl free
    refine ⟨1, g, (written.goto .unpinning).goto .reading, ?_, rfl⟩
    rw [List.replicate_one, Transition.exec_cons, last, List.set_set]
    rfl

/-- A connection that is able to comes to the end of its request by its own turns, and writes its
response on the way if it has not been written. -/
theorem exists_exec_served (found : config.parts[index]? = some conn)
    (inFlight : conn.phase.inFlight = true) (able : Able cfg config.shared conn) :
    ∃ moves after conn', OwnTurns index moves ∧
      Transition.exec (daemon p cfg).next config moves = some after ∧
      after.parts[index]? = some conn' ∧ conn'.phase = .reading ∧
      (conn.phase ≠ .unpinning → Writes p cfg config index moves) := by
  have below : index < config.parts.length := (List.getElem?_eq_some_iff.mp found).1
  by_cases unsent : 2 ≤ conn.phase.ahead
  · obtain ⟨moves, g, sent, req, resp, own, executed, sending, free⟩ :=
      exists_exec_sending (p := p) found unsent able
    have there : (config.parts.set index sent)[index]? = some sent :=
      List.getElem?_set_self below
    obtain ⟨n, g', conn', rest, reading⟩ :=
      @exists_exec_reading σ p cfg ⟨g, config.parts.set index sent⟩ index sent req resp there
        sending free
    refine ⟨moves ++ .turn index .go :: List.replicate n (.turn index .go), _, conn',
      own.append (OwnTurns.replicate (n + 1) index),
      by rw [Transition.exec_append, executed, Option.bind_some, rest], ?_, reading,
      fun _ => ⟨moves, _, _, sent, req, resp, rfl, executed, there, sending⟩⟩
    exact List.getElem?_set_self (by rw [List.length_set]; exact below)
  · have phase : conn.phase = .unpinning := Phase.eq_unpinning inFlight (by omega)
    obtain ⟨g, next⟩ := @next_unpinning σ p cfg config index conn found phase
      (able.free (by rw [phase]; rfl))
    refine ⟨[.turn index .go], ⟨g, config.parts.set index (conn.goto .reading)⟩, _,
      OwnTurns.replicate 1 index, ?_, List.getElem?_set_self below, rfl,
      fun other => absurd phase other⟩
    rw [Transition.exec_cons, next]
    rfl

end

/-! ## Pins -/

/-- What is known of the pin of a connection that is not on the exit path. -/
def Conn.pinsKnown (conn : Conn) : Prop :=
  conn.phase ≠ .leaving → PinInv conn

theorem pinCount_evictOnce_le (st : ServerState) (sid : Bytes) :
    st.evictOnce.pinCount sid ≤ 0 ∨ st.evictOnce.pinCount sid = st.pinCount sid := by
  unfold ServerState.evictOnce
  split
  · exact Or.inr rfl
  · rename_i oldest rest order
    split
    · right
      change (st.addPin oldest 0).pinCount sid = st.pinCount sid
      simp
    · change ((st.pinnedCounts.erase oldest).lookup sid).getD 0 ≤ 0 ∨
        ((st.pinnedCounts.erase oldest).lookup sid).getD 0 = st.pinCount sid
      rw [Map.lookup_erase_eq]
      split
      · exact Or.inl (le_refl 0)
      · exact Or.inr rfl

section

variable {p : Platform σ} {cfg : Settings} {g g' : Shared σ} {conn conn' : Conn} {input : Input}

/-- The turn of a connection on the exit path releases the id it remembers once more. -/
theorem turn_leaving (phase : conn.phase = .leaving)
    (ran : turn p cfg g conn input = some (g', conn')) :
    g' = g.withSt (g.st.addPin conn.pinnedSid (-1)) ∧ conn' = conn.goto .closing := by
  cases input <;> simp [turn, onStart, onHangUp, onFrame, onCore, onGo, phase, locked] at ran
  exact ⟨ran.2.1.symm, ran.2.2.symm⟩

/-- A turn on the exit path, and the one that leads there. -/
theorem turn_exit (ran : turn p cfg g conn input = some (g', conn'))
    (exits : conn.phase = .leaving ∨ ¬ releasedBeforeExit.turn g conn input) :
    (conn'.phase = .leaving ∨ PinInv conn') ∧ (∀ sid, g'.st.pinCount sid ≤ g.st.pinCount sid) ∧
      ∀ sid, conn.holds sid = false ∧ conn'.holds sid = false := by
  rcases exits with phase | remembers
  · obtain ⟨rfl, rfl⟩ := turn_leaving phase ran
    refine ⟨Or.inr (PinInv.of_resting rfl), fun sid => ?_, fun sid => ⟨?_, ?_⟩⟩
    · change (g.st.addPin conn.pinnedSid (-1)).pinCount sid ≤ _
      rw [pinCount_addPin]
      split <;> omega
    · exact Conn.holds_of_idle (by rw [phase]; rfl) sid
    · exact Conn.holds_of_idle rfl sid
  · simp only [releasedBeforeExit, Classical.not_imp] at remembers
    obtain ⟨phase, pipe, rfl, pinned⟩ := remembers
    have left : conn.leave = conn.goto .leaving := by
      rw [Conn.leave, pipe]
      simp only [if_neg pinned]
    simp only [turn, onFrame, phase, Option.bind_none, Option.some.injEq, Prod.mk.injEq] at ran
    obtain ⟨rfl, rfl⟩ := ran
    rw [left]
    exact ⟨Or.inl rfl, fun sid => le_refl _, fun sid =>
      ⟨Conn.holds_of_idle (by rw [phase]; rfl) sid, Conn.holds_of_idle rfl sid⟩⟩

theorem turn_pins_le (known : conn.pinsKnown)
    (ran : turn p cfg g conn input = some (g', conn')) {sid : Bytes} (named : sid ≠ []) :
    conn'.pinsKnown ∧ (g'.st.pinCount sid ≤ 0 ∨
      g'.st.pinCount sid + (conn.holds sid).toInt ≤
        g.st.pinCount sid + (conn'.holds sid).toInt) := by
  by_cases exits : conn.phase = .leaving ∨ ¬ releasedBeforeExit.turn g conn input
  · obtain ⟨inv, counts, held⟩ := turn_exit ran exits
    refine ⟨fun stays => inv.resolve_left stays, Or.inr ?_⟩
    rw [(held sid).1, (held sid).2]
    exact Int.add_le_add_right (counts sid) _
  · push Not at exits
    obtain ⟨inv, change⟩ := turn_pins (known exits.1) exits.2 ran
    refine ⟨fun _ => inv, ?_⟩
    cases change with
    | keep counts held =>
        right
        rw [counts sid, held sid]
    | take pin stored kept counts before after =>
        right
        rw [counts sid, before sid, after sid]
        by_cases same : sid = pin
        · subst same
          simp [named]
        · simp [same, Ne.symm same]
    | release pin counts before after =>
        right
        rw [counts sid, before sid, after sid]
        by_cases same : sid = pin
        · simp [same]
        · simp [same, Ne.symm same]
    | evict counts held =>
        rw [counts sid, held sid]
        rcases pinCount_evictOnce_le g.st sid with low | same
        · exact Or.inl low
        · exact Or.inr (by rw [same])

end

theorem keeps_pinsKnown (p : Platform σ) (cfg : Settings) :
    System.Keeps (daemon p cfg) {} (fun _ => True) fun _ => Conn.pinsKnown where
  turn := by
    intro g conn input g' conn' _ known _ ran
    exact ⟨trivial, (turn_pins_le known ran (List.cons_ne_nil 0 [])).1⟩
  others := fun _ _ _ _ _ _ _ _ known _ _ => known
  spawn := by
    intro g kind g' conn _ _ spawned
    obtain ⟨_, rfl⟩ := accept_st spawned
    exact ⟨trivial, fun _ => PinInv.of_resting rfl, fun _ known => known⟩
  env := fun _ _ _ _ _ _ => ⟨trivial, fun _ known => known⟩

theorem covers_pins (p : Platform σ) (cfg : Settings) {sid : Bytes} (named : sid ≠ []) :
    System.Covers (daemon p cfg) {} (fun _ => Conn.pinsKnown) (fun g => g.st.pinCount sid)
      (Conn.holds sid) where
  turn := by
    intro g conn input g' conn' known _ ran
    exact (turn_pins_le known ran named).2
  spawn := by
    intro g kind g' conn spawned
    rw [(accept_st spawned).1]
  env := by
    intro g event g' moved
    exact (outside_pinCount moved sid).le

section

variable {p : Platform σ} {cfg : Settings} {world : σ} {target : Config (Shared σ) Conn}

theorem pinsKnown_initial (world : σ) :
    System.Everywhere (fun _ => True) (fun _ => Conn.pinsKnown) (initial world) :=
  ⟨trivial, by simp [initial]⟩

/-- A pinned id is held by a connection with a request in flight. -/
theorem exists_holder (run : (daemon p cfg).Runs {} (initial world) target) {sid : Bytes}
    (named : sid ≠ []) (pinned : 0 < target.shared.st.pinCount sid) :
    ∃ conn ∈ target.parts, conn.holds sid = true := by
  have covered := run.covered (keeps_pinsKnown p cfg) (covers_pins p cfg named)
    (pinsKnown_initial world) (le_refl 0)
  have positive : (0 : ℤ) < target.parts.countP (Conn.holds sid) := pinned.trans_le covered
  exact List.countP_pos_iff.mp (Int.natCast_pos.mp positive)

/-- No more entries are pinned than connections have a pin. -/
theorem pinnedEntries_le (run : (daemon p cfg).Runs {} (initial world) target)
    (few : target.shared.st.snapCounter ≤ 2 ^ 64) :
    target.shared.st.pinnedEntries ≤
      target.parts.countP fun conn => conn.phase.inFlight && decide (conn.pinnedSid ≠ []) := by
  have inv := storeInv_of_runs run few
  obtain ⟨holders, named⟩ : ∃ holders, holders = target.parts.filter fun conn =>
    conn.phase.inFlight && decide (conn.pinnedSid ≠ []) := ⟨_, rfl⟩
  have inside : target.shared.st.lruOrder.filter target.shared.st.isPinned ⊆
      holders.map Conn.pinnedSid := by
    intro sid member
    obtain ⟨listed, pinned⟩ := List.mem_filter.mp member
    obtain ⟨k, _, _, shape⟩ := inv.numbered sid ((inv.mem_lruOrder_iff sid).mp listed)
    have nonempty : sid ≠ [] := by
      rw [shape]
      exact List.cons_ne_nil _ _
    obtain ⟨conn, present, held⟩ := exists_holder run nonempty (of_decide_eq_true pinned)
    simp only [Conn.holds, Bool.and_eq_true, decide_eq_true_eq] at held
    obtain ⟨flying, rfl, _⟩ := held
    rw [named]
    exact List.mem_map_of_mem (List.mem_filter.mpr ⟨present, by simp [flying, nonempty]⟩)
  have distinct := inv.nodup.filter target.shared.st.isPinned
  calc target.shared.st.pinnedEntries
      = (target.shared.st.lruOrder.filter target.shared.st.isPinned).length :=
        List.countP_eq_length_filter
    _ ≤ (holders.map Conn.pinnedSid).length := (distinct.subperm inside).length_le
    _ = _ := by rw [List.length_map, named, List.countP_eq_length_filter]

/-- A request that prepares to capture has no pin itself, so there is room for its snapshot. -/
theorem pinnedEntries_lt (run : (daemon p cfg).Runs {} (initial world) target)
    (few : target.shared.st.snapCounter ≤ 2 ^ 64)
    (crowd : (target.parts.countP fun conn => conn.phase.inFlight) ≤ cfg.maxSnapshots)
    {index : Nat} {conn : Conn} (found : target.parts[index]? = some conn)
    (prepares : conn.phase.preparing = true) :
    target.shared.st.pinnedEntries < cfg.maxSnapshots := by
  have known := (run.invariant (keeps_pinsKnown p cfg) (pinsKnown_initial world)).2 conn
    (List.mem_of_getElem? found)
  have clear : conn.pinnedSid = [] :=
    (known (by rintro leaving; rw [leaving] at prepares; cases prepares)).clear prepares
  have flying : conn.phase.inFlight = true := by
    cases phase : conn.phase <;> rw [phase] at prepares <;> first | rfl | cases prepares
  have split := List.countP_eq_countP_filter_add target.parts (fun conn => conn.phase.inFlight)
    fun conn => decide (conn.pinnedSid ≠ [])
  rw [List.countP_filter, List.countP_filter] at split
  have unpinned : 0 < target.parts.countP fun conn =>
      conn.phase.inFlight && !decide (conn.pinnedSid ≠ []) :=
    List.countP_pos_iff.mpr ⟨conn, List.mem_of_getElem? found, by simp [flying, clear]⟩
  have few := pinnedEntries_le run few
  omega

end

/-- In every reachable state in which no more requests are in flight than the store may hold
snapshots, each of them can be answered by turns that wait for no client: those of the connection
in the eviction loop, if another one is there, and then its own, among which it writes its
response unless it has done so before. -/
theorem request_completes (p : Platform σ) (cfg : Settings) (world : σ)
    {target : Config (Shared σ) Conn} (run : (daemon p cfg).Runs {} (initial world) target)
    (few : target.shared.st.snapCounter ≤ 2 ^ 64)
    (crowd : (target.parts.countP fun conn => conn.phase.inFlight) ≤ cfg.maxSnapshots)
    {index : Nat} {conn : Conn} (found : target.parts[index]? = some conn)
    (inFlight : conn.phase.inFlight = true) :
    ∃ waits own middle after conn',
      (∀ move ∈ waits, ∃ place holder, target.parts[place]? = some holder ∧
        holder.phase.evicts = true ∧ move = .turn place .go) ∧
      OwnTurns index own ∧
      Transition.exec (daemon p cfg).next target waits = some middle ∧
      Transition.exec (daemon p cfg).next middle own = some after ∧
      after.parts[index]? = some conn' ∧ conn'.phase = .reading ∧
      (conn.phase ≠ .unpinning → Writes p cfg middle index own) := by
  have fits : target.shared.st.pinnedEntries ≤ cfg.maxSnapshots := by
    refine (pinnedEntries_le run few).trans (le_trans (List.countP_mono_left ?_) crowd)
    intro conn _ holding
    exact (Bool.and_eq_true_iff.mp holding).1
  have room : conn.phase.mayEvict = true →
      target.shared.st.pinnedEntries < cfg.maxSnapshots := by
    intro leads
    refine pinnedEntries_lt run few crowd found ?_
    cases phase : conn.phase <;> rw [phase] at leads <;> first | rfl | cases leads
  by_cases free : conn.phase.evicts = false → target.shared.muHeld = false
  · obtain ⟨own, after, conn', turns, rest⟩ :=
      exists_exec_served (p := p) found inFlight ⟨free, room, fun _ => fits⟩
    exact ⟨[], own, target, after, conn', by rintro move ⟨⟩, turns, rfl, rest⟩
  · -- the connection in the loop first, which is another one
    obtain ⟨outside, held⟩ := Classical.not_imp.mp free
    have one := muHeld_eq run
    rw [Bool.eq_true_of_not_eq_false held, Bool.toInt_true] at one
    have positive : 0 < target.parts.countP fun conn => conn.phase.evicts := by omega
    obtain ⟨holder, member, evicts⟩ := List.countP_pos_iff.mp positive
    obtain ⟨place, there⟩ := List.mem_iff_getElem?.mp member
    obtain ⟨req, sid, phase⟩ := Phase.exists_of_evicts evicts
    obtain ⟨n, st, executed, same⟩ := exists_exec_released (p := p) there phase fits
    have other : place ≠ index := by
      rintro rfl
      rw [there] at found
      cases found
      rw [outside] at evicts
      cases evicts
    obtain ⟨own, after, conn', turns, rest⟩ :=
      @exists_exec_served _ p cfg ⟨{ target.shared with st := st, muHeld := false }, _⟩ index
        conn ((List.getElem?_set_ne other).trans found) inFlight
        ⟨fun _ => rfl, fun leads => same ▸ room leads, fun _ => same ▸ fits⟩
    refine ⟨_, own, _, after, conn', fun move waited => ?_, turns, executed, rest⟩
    exact ⟨place, holder, there, evicts, (List.mem_replicate.mp waited).2⟩

/-- Two TCP clients capture; the first is in its eviction loop and the second waits for `mu`. -/
def captureBehindCapture : List (Move Input Transport (Outside Fake.FakeState)) :=
  let capture := requestText "1" "snapshot.capture" []
  [.spawn .tcp, .turn 0 (.start none []), .spawn .tcp, .turn 1 (.start none []),
    .turn 0 (.frame (some capture)), .turn 0 .go, .turn 0 .go,
    .turn 1 (.frame (some capture)), .turn 1 .go]

/-- The second client is answered, although `mu` is held. -/
theorem request_completes_captureBehindCapture :
    ∃ target, (daemon fakePlatform { maxSnapshots := 2 }).Runs {} (initial {}) target ∧
      target.shared.muHeld = true ∧ ∃ waits own middle, OwnTurns 1 own ∧
      Transition.exec (daemon fakePlatform { maxSnapshots := 2 }).next target waits =
        some middle ∧ Writes fakePlatform { maxSnapshots := 2 } middle 1 own := by
  have executed : ((Transition.exec (daemon fakePlatform { maxSnapshots := 2 }).next (initial {})
      captureBehindCapture).any fun target => decide (target.shared.muHeld = true ∧
        target.shared.st.snapCounter ≤ 2 ^ 64 ∧
        (target.parts.countP fun conn => conn.phase.inFlight) ≤ 2 ∧
        target.parts[1]?.any (fun conn =>
          conn.phase.inFlight && decide (2 ≤ conn.phase.ahead)) = true)) = true := by
    decide +kernel
  obtain ⟨target, reached, checked⟩ := (Option.any_eq_true _ _).mp executed
  obtain ⟨held, few, crowd, waits⟩ := of_decide_eq_true checked
  obtain ⟨conn, found, both⟩ := (Option.any_eq_true _ _).mp waits
  obtain ⟨inFlight, unsent⟩ := Bool.and_eq_true_iff.mp both
  have run := System.runs_of_exec reached
  obtain ⟨waits, own, middle, _, _, _, turns, first, _, _, _, writes⟩ :=
    request_completes fakePlatform { maxSnapshots := 2 } {} run few crowd found inFlight
  refine ⟨target, run, held, waits, own, middle, turns, first, writes fun phase => ?_⟩
  rw [phase] at unsent
  cases unsent

end WinInspect.Daemon
