import WinInspect.Daemon.Framing
import WinInspect.Daemon.Turn

/-!
# Receive buffers

A TCP connection reads frames at three places: the answer of the handshake, and a
request that is plain or encrypted.  Each reads four bytes of length and makes a
buffer of that size.  The two request reads check the length before; the handshake
does not.  What a client sends, and what the server makes of the lengths in it, are
auxiliary variables of the connection.
-/

namespace WinInspect.Daemon

open Framing (Wire ofLe readAll)
open Transition (Config System)
open Transition.System (Aux Guard)

/-! ## One frame -/

/-- A read of a frame: the length it declares, whether a buffer of that size was made, the
payload if it came, and the stream after it. -/
structure Receipt where
  declared : Option Nat := none
  sized : Bool := false
  payload : Option Bytes := none
  wire : Wire

/-- Read a frame of a length that is accepted. -/
def receiveFrame (accepts : Nat → Bool) (splits : Nat → Nat) (wire : Wire) : Receipt :=
  match readAll socketAdmits splits 4 wire with
  | none => { wire := wire }
  | some (header, wire) =>
      let len := ofLe header
      if accepts len then
        match readAll socketAdmits splits len wire with
        | none => { declared := some len, sized := true, wire := wire }
        | some (payload, wire) =>
            { declared := some len, sized := true, payload := some payload, wire := wire }
      else { declared := some len, wire := wire }

/-- The lengths a connection reads on for: every one in the handshake. -/
def Conn.accepts (conn : Conn) : Nat → Bool :=
  match conn.phase with
  | .handshake => fun _ => true
  | _ => tcpAccepts

section

variable {accepts : Nat → Bool} {splits : Nat → Nat} {wire : Wire}

/-- The length is that of the first four bytes. -/
theorem declared_receiveFrame {len : Nat}
    (declared : (receiveFrame accepts splits wire).declared = some len) :
    4 ≤ wire.bytes.length ∧ len = ofLe (wire.bytes.take 4) := by
  unfold receiveFrame at declared
  cases read : readAll socketAdmits splits 4 wire with
  | none =>
      rw [read] at declared
      cases declared
  | some header =>
      obtain ⟨there, first, -⟩ := Framing.readAll_some read
      rw [read] at declared
      dsimp only at declared
      have same : some (ofLe header.1) = some len := by
        rw [← declared]
        split
        · cases readAll socketAdmits splits (ofLe header.1) header.2 <;> rfl
        · rfl
      exact ⟨there, by rw [← first, Option.some.inj same]⟩

/-- A length that is not accepted ends the read before there is a buffer. -/
theorem receiveFrame_of_not_accepted {len : Nat}
    (declared : (receiveFrame accepts splits wire).declared = some len)
    (refused : accepts len = false) :
    (receiveFrame accepts splits wire).sized = false ∧
      (receiveFrame accepts splits wire).payload = none := by
  have length := (declared_receiveFrame declared).2
  unfold receiveFrame
  cases read : readAll socketAdmits splits 4 wire with
  | none => exact ⟨rfl, rfl⟩
  | some header =>
      obtain ⟨-, first, -⟩ := Framing.readAll_some read
      dsimp only
      rw [first, ← length, refused]
      exact ⟨rfl, rfl⟩

theorem receiveFrame_of_accepted (there : 4 ≤ wire.bytes.length)
    (accepted : accepts (ofLe (wire.bytes.take 4)) = true) :
    (receiveFrame accepts splits wire).declared = some (ofLe (wire.bytes.take 4)) ∧
      (receiveFrame accepts splits wire).sized = true := by
  obtain ⟨calls, read⟩ : ∃ calls, readAll socketAdmits splits 4 wire =
      some (wire.bytes.take 4, ⟨wire.bytes.drop 4, calls⟩) :=
    Framing.readAll_of_le (fun k _ few => decide_eq_true (by omega)) there
  unfold receiveFrame
  rw [read]
  dsimp only
  rw [accepted, if_pos rfl]
  cases readAll socketAdmits splits (ofLe (wire.bytes.take 4)) ⟨wire.bytes.drop 4, calls⟩ with
  | none => exact ⟨rfl, rfl⟩
  | some payload => exact ⟨rfl, rfl⟩

end

/-! ## Connections with their streams -/

/-- What a client sends, and how the system splits it. -/
structure Client where
  stream : Bytes
  splits : Nat → Nat

/-- A length that was declared: whether a buffer of that size was made, and whether the
connection was closed after the read. -/
structure Declared where
  length : Nat
  sized : Bool
  closed : Bool

/-- The client of a connection, what is not read yet of its stream, and the lengths it has
declared. -/
structure Tap where
  client : Client
  wire : Wire
  lengths : List Declared := []

def Phase.isClosed : Phase → Bool
  | .closed => true
  | _ => false

/-- What a connection reads next. -/
def Tap.receipt (tap : Tap) (conn : Conn) : Receipt :=
  receiveFrame conn.accepts tap.client.splits tap.wire

/-- Note the read of a turn. -/
def Tap.hear (tap : Tap) (conn : Conn) (input : Input) (conn' : Conn) : Tap :=
  match conn.transport, input with
  | .tcp, .frame _ =>
      { tap with
        wire := (tap.receipt conn).wire
        lengths := tap.lengths ++ ((tap.receipt conn).declared.map fun len =>
          ⟨len, (tap.receipt conn).sized, conn'.phase.isClosed⟩).toList }
  | _, _ => tap

variable {σ : Type}

/-- Give every connection a client, in the order they are accepted. -/
def taps (clients : Nat → Client) :
    Aux (Shared σ) Conn Input Transport (Outside σ) Nat Tap where
  turn _ conn input _ conn' n tap := (n, tap.hear conn input conn')
  spawn _ _ _ _ n := (n + 1, { client := clients n, wire := ⟨(clients n).stream, 0⟩ })
  env _ _ _ n := n

/-- The condition on a step: the frames of a TCP connection come from its stream. -/
def fromStreams : Guard (Shared σ × Nat) (Conn × Tap) Input Transport (Outside σ) where
  turn _ conn input := conn.1.transport = .tcp → ∀ payload, input = .frame payload →
    payload = (conn.2.receipt conn.1).payload

/-- The daemon just after start-up. -/
def unconnected (world : σ) : Config (Shared σ × Nat) (Conn × Tap) :=
  ⟨({ world := world }, 0), []⟩

/-- No buffer is made for a length above the limit, and such a length ends the connection. -/
def Tap.Limited (tap : Tap) : Prop :=
  ∀ entry ∈ tap.lengths, Crypto.maxFrame < entry.length →
    entry.sized = false ∧ entry.closed = true

/-- The same for all connections. -/
def FramesLimited (config : Config (Shared σ × Nat) (Conn × Tap)) : Prop :=
  ∀ conn ∈ config.parts, conn.2.Limited

/-- The first length a client declares is not above the limit. -/
def Client.Modest (client : Client) : Prop :=
  client.stream.length < 4 ∨ ofLe (client.stream.take 4) ≤ Crypto.maxFrame

instance (client : Client) : Decidable client.Modest :=
  inferInstanceAs (Decidable (_ ∨ _))

/-! ## Modest clients -/

/-- What is known of a connection and its stream. -/
structure Heard (cfg : Settings) (clients : Nat → Client) (conn : Conn) (tap : Tap) : Prop where
  client : ∃ n, tap.client = clients n
  limited : tap.Limited
  /-- Nothing is read before the answer of the handshake. -/
  untouched : conn.phase.opening = true → tap.wire.bytes = tap.client.stream
  keyed : conn.phase = .handshake → cfg.authKeysData ≠ []

section

variable {p : Platform σ} {cfg : Settings} {g g' : Shared σ} {conn conn' : Conn} {input : Input}

theorem opening_of_turn (ran : turn p cfg g conn input = some (g', conn'))
    (opening : conn'.phase.opening = true) : conn.phase.opening = true := by
  by_contra looping
  rw [Bool.not_eq_true] at looping
  rw [(turn_looping looping ran).1] at opening
  cases opening

/-- Only a daemon with keys has a handshake. -/
theorem keyed_of_turn (ran : turn p cfg g conn input = some (g', conn'))
    (phase : conn'.phase = .handshake) : cfg.authKeysData ≠ [] := by
  have opening : conn'.phase.opening = true := by
    rw [phase]
    rfl
  rcases opening_cases (opening_of_turn ran opening) ran with ⟨-, rfl⟩ | ⟨-, keyPair, nonce, rfl⟩ |
    rfl | ⟨frame, crypto, -, -, -, rfl⟩
  · cases phase
  · intro none
    rw [none] at phase
    cases phase
  · cases phase
  · cases phase

/-- A connection that reads a frame has left the opening phases. -/
theorem looping_of_frame {payload : Option Bytes}
    (ran : turn p cfg g conn (.frame payload) = some (g', conn')) :
    conn'.phase.opening = false := by
  cases turn_cases ran with
  | answered phase checked => rfl
  | refused phase checked => rfl
  | request phase read =>
      exact (turn_looping (by rw [phase]; rfl) ran).1
  | hungUp phase read =>
      exact (turn_looping (by rw [phase]; rfl) ran).1

theorem accepts_of_handshake (phase : conn.phase = .handshake) :
    conn.accepts = fun _ => true := by
  rw [Conn.accepts, phase]

theorem accepts_of_reading (phase : conn.phase = .reading) : conn.accepts = tcpAccepts := by
  rw [Conn.accepts, phase]

/-- A TCP connection whose read in the request loop fails is closed. -/
theorem closed_of_none (tcp : conn.transport = .tcp) (phase : conn.phase = .reading)
    (ran : turn p cfg g conn (.frame none) = some (g', conn')) : conn'.phase = .closed := by
  simp only [turn, onFrame, phase, Option.bind_none, Option.some.injEq, Prod.mk.injEq] at ran
  rw [← ran.2, Conn.leave, tcp]
  rfl

/-- The phases in which a frame is read. -/
theorem phase_of_frame {payload : Option Bytes}
    (ran : turn p cfg g conn (.frame payload) = some (g', conn')) :
    conn.phase = .handshake ∨ conn.phase = .reading := by
  cases turn_cases ran with
  | answered phase checked => exact Or.inl phase
  | refused phase checked => exact Or.inl phase
  | request phase read => exact Or.inr phase
  | hungUp phase read => exact Or.inr phase

variable {clients : Nat → Client} {tap : Tap}

/-- A read keeps the limit when the first length of the client does. -/
theorem Heard.limited_frame (heard : Heard cfg clients conn tap)
    (modest : cfg.authKeysData = [] ∨ ∀ n, (clients n).Modest) (tcp : conn.transport = .tcp)
    (ran : turn p cfg g conn (.frame (tap.receipt conn).payload) = some (g', conn'))
    {len : Nat} (declared : (tap.receipt conn).declared = some len)
    (large : Crypto.maxFrame < len) :
    (tap.receipt conn).sized = false ∧ conn'.phase.isClosed = true := by
  obtain ⟨there, length⟩ := declared_receiveFrame declared
  rcases phase_of_frame ran with phase | phase
  · -- the handshake reads the front of the stream
    exfalso
    obtain ⟨n, client⟩ := heard.client
    rw [heard.untouched (by rw [phase]; rfl)] at there length
    rcases modest.resolve_left (heard.keyed phase) n with short | small
    · rw [← client] at short
      omega
    · rw [← client, ← length] at small
      omega
  · have refused : tcpAccepts len = false := by
      rw [← Bool.not_eq_true, tcpAccepts_iff]
      omega
    rw [← accepts_of_reading phase] at refused
    obtain ⟨unsized, nothing⟩ := receiveFrame_of_not_accepted declared refused
    have empty : (tap.receipt conn).payload = none := nothing
    rw [empty] at ran
    refine ⟨unsized, ?_⟩
    rw [closed_of_none tcp phase ran]
    rfl

theorem hear_of_not_frame (quiet : ∀ payload, input ≠ .frame payload) :
    tap.hear conn input conn' = tap := by
  unfold Tap.hear
  split
  · exact absurd rfl (quiet _)
  · rfl

theorem hear_of_pipe (pipe : conn.transport = .pipe) : tap.hear conn input conn' = tap := by
  simp only [Tap.hear, pipe]

theorem lengths_hear (tcp : conn.transport = .tcp) (payload : Option Bytes) :
    (tap.hear conn (.frame payload) conn').lengths =
      tap.lengths ++ ((tap.receipt conn).declared.map fun len =>
        ⟨len, (tap.receipt conn).sized, conn'.phase.isClosed⟩).toList := by
  simp only [Tap.hear, tcp]

theorem client_hear : (tap.hear conn input conn').client = tap.client := by
  unfold Tap.hear
  split <;> rfl

theorem Heard.turn (heard : Heard cfg clients conn tap)
    (modest : cfg.authKeysData = [] ∨ ∀ n, (clients n).Modest)
    (fits : conn.transport = .tcp → ∀ payload, input = .frame payload →
      payload = (tap.receipt conn).payload)
    (ran : turn p cfg g conn input = some (g', conn')) :
    Heard cfg clients conn' (tap.hear conn input conn') := by
  have same : tap.hear conn input conn' = tap →
      Heard cfg clients conn' (tap.hear conn input conn') := by
    intro unchanged
    rw [unchanged]
    exact ⟨heard.client, heard.limited, fun opening =>
      heard.untouched (opening_of_turn ran opening), keyed_of_turn ran⟩
  cases tcp : conn.transport with
  | pipe => exact same (hear_of_pipe tcp)
  | tcp =>
      by_cases quiet : ∀ payload, input ≠ .frame payload
      · exact same (hear_of_not_frame quiet)
      · obtain ⟨payload, read⟩ := not_forall_not.mp quiet
        subst read
        have looping := looping_of_frame ran
        rw [fits tcp payload rfl] at ran
        have client : ∃ n, (tap.hear conn (.frame payload) conn').client = clients n := by
          rw [client_hear]
          exact heard.client
        refine ⟨client, ?_, fun opening => ?_, keyed_of_turn ran⟩
        · intro entry member large
          rw [lengths_hear tcp] at member
          rcases List.mem_append.mp member with old | new
          · exact heard.limited entry old large
          · obtain ⟨len, declared, rfl⟩ := Option.map_eq_some_iff.mp (Option.mem_toList.mp new)
            exact heard.limited_frame modest tcp ran declared large
        · rw [looping] at opening
          cases opening

end

theorem framesLimited_of_modest {p : Platform σ} {cfg : Settings} {clients : Nat → Client}
    (modest : cfg.authKeysData = [] ∨ ∀ n, (clients n).Modest) {world : σ}
    {target : Config (Shared σ × Nat) (Conn × Tap)}
    (run : ((daemon p cfg).withAux (taps clients)).Runs fromStreams (unconnected world) target) :
    FramesLimited target := by
  have heard : ∀ conn ∈ target.parts, Heard cfg clients conn.1 conn.2 := by
    refine run.each ?_ ?_ ?_
    · intro g conn input g' conn' holds fits turned
      obtain ⟨ran, marks⟩ := System.withAux_turn turned
      rw [(Prod.mk.inj marks).2]
      exact holds.turn modest fits ran
    · intro g transport g' conn spawned
      obtain ⟨accepted, marks⟩ := System.withAux_spawn spawned
      obtain ⟨-, new⟩ := accept_st accepted
      rw [(Prod.mk.inj marks).2, new]
      exact ⟨⟨g.2, rfl⟩, List.forall_mem_nil _, fun _ => rfl, nofun⟩
    · intro conn member
      cases member
  intro conn member
  exact (heard conn member).limited

/-! ## A client that declares too much -/

section

variable {p : Platform σ} {cfg : Settings} (clients : Nat → Client)

/-- A TCP connection that has been accepted, with its client. -/
def newcomer (n : Nat) : Conn × Tap :=
  ({ transport := .tcp }, { client := clients n, wire := ⟨(clients n).stream, 0⟩ })

/-- The daemon accepts any number of TCP connections. -/
theorem runs_accept (world : σ) (count : Nat) :
    ((daemon p cfg).withAux (taps clients)).Runs fromStreams (unconnected world)
      ⟨({ world := world }, count), (List.range count).map (newcomer clients)⟩ := by
  induction count with
  | zero => exact Transition.Steps.refl _
  | succ count inductionHypothesis =>
      refine inductionHypothesis.tail (show fromStreams.allows _ (.spawn .tcp) from trivial) ?_
      rw [List.range_succ, List.map_append, List.map_singleton]
      exact System.next_spawn rfl

variable {clients} in
/-- A turn of one of the connections, recorded. -/
theorem runs_turn {source : Config (Shared σ × Nat) (Conn × Tap)} {g g' : Shared σ} {count n : Nat}
    {parts : List (Conn × Tap)} {conn conn' : Conn} {tap : Tap} {input : Input}
    (run : ((daemon p cfg).withAux (taps clients)).Runs fromStreams source ⟨(g, count), parts⟩)
    (found : parts[n]? = some (conn, tap))
    (fits : ∀ payload, input = .frame payload → payload = (tap.receipt conn).payload)
    (ran : turn p cfg g conn input = some (g', conn')) :
    ((daemon p cfg).withAux (taps clients)).Runs fromStreams source
      ⟨(g', count), parts.set n (conn', tap.hear conn input conn')⟩ := by
  have recorded : ((daemon p cfg).withAux (taps clients)).turn (g, count) (conn, tap) input =
      some ((g', count), (conn', tap.hear conn input conn')) := by
    change (turn p cfg g conn input).map _ = _
    rw [ran]
    rfl
  refine run.tail ?_ (System.next_turn found recorded)
  intro part here _
  cases found.symm.trans here
  exact fits

/-- With keys, any connection comes to wait for its answer, with nothing read. -/
theorem runs_handshake (world : σ) (keys : cfg.authKeysData ≠ []) (n : Nat) :
    ∃ (parts : List (Conn × Tap)) (conn : Conn),
      ((daemon p cfg).withAux (taps clients)).Runs fromStreams (unconnected world)
        ⟨({ world := world }, n + 1), parts⟩ ∧
      parts[n]? = some (conn, (newcomer clients n).2) ∧
      conn.transport = .tcp ∧ conn.phase = .handshake := by
  have listed : ((List.range (n + 1)).map (newcomer clients))[n]? = some (newcomer clients n) := by
    rw [List.getElem?_map, List.getElem?_range (Nat.lt_succ_self n)]
    rfl
  obtain ⟨conn, started, tcp, phase⟩ : ∃ conn,
      turn p cfg { world := world } (newcomer clients n).1 (.start none []) =
        some ({ world := world }, conn) ∧
      conn.transport = .tcp ∧ conn.phase = .handshake :=
    ⟨_, rfl, rfl, if_neg keys⟩
  refine ⟨_, conn, runs_turn (runs_accept clients world (n + 1)) listed ?_ started,
    List.getElem?_set_self (List.getElem?_eq_some_iff.mp listed).1, tcp, phase⟩
  nofun

/-- The answer is read whatever it is. -/
theorem turn_of_handshake (g : Shared σ) {conn : Conn} (phase : conn.phase = .handshake)
    (payload : Option Bytes) : ∃ conn', turn p cfg g conn (.frame payload) = some (g, conn') := by
  simp only [turn, onFrame, phase]
  split
  · exact ⟨_, rfl⟩
  · exact ⟨_, rfl⟩

variable {clients}

/-- The handshake makes a buffer of the first length, whatever it is. -/
theorem mem_lengths_of_handshake {n : Nat} (there : 4 ≤ (clients n).stream.length) {conn : Conn}
    (tcp : conn.transport = .tcp) (phase : conn.phase = .handshake) (payload : Option Bytes)
    (conn' : Conn) :
    ⟨ofLe ((clients n).stream.take 4), true, conn'.phase.isClosed⟩ ∈
      ((newcomer clients n).2.hear conn (.frame payload) conn').lengths := by
  have accepted : conn.accepts (ofLe ((clients n).stream.take 4)) = true := by
    rw [accepts_of_handshake phase]
  obtain ⟨declared, sized⟩ :
      ((newcomer clients n).2.receipt conn).declared = some (ofLe ((clients n).stream.take 4)) ∧
        ((newcomer clients n).2.receipt conn).sized = true :=
    receiveFrame_of_accepted there accepted
  rw [lengths_hear tcp, declared, sized]
  exact List.mem_append_right _ (List.mem_singleton_self _)

theorem not_framesLimited (p : Platform σ) (world : σ) (keys : cfg.authKeysData ≠ []) {n : Nat}
    (large : ¬ (clients n).Modest) :
    ∃ target, ((daemon p cfg).withAux (taps clients)).Runs fromStreams (unconnected world) target ∧
      ¬ FramesLimited target := by
  obtain ⟨there, large⟩ := not_or.mp large
  obtain ⟨parts, conn, waiting, found, tcp, phase⟩ := runs_handshake clients world keys n
  obtain ⟨conn', ran⟩ := turn_of_handshake _ phase ((newcomer clients n).2.receipt conn).payload
  refine ⟨_, runs_turn waiting found ?_ ran, fun limited => ?_⟩
  · intro payload same
    exact (Input.frame.inj same).symm
  · have bound := (List.getElem?_eq_some_iff.mp found).1
    have entry := limited _ (List.mem_set bound _) _
      (mem_lengths_of_handshake (Nat.le_of_not_lt there) tcp phase _ conn')
      (Nat.lt_of_not_le large)
    exact Bool.noConfusion entry.1

end

/-- Every receive buffer stays below the limit, in every run, exactly when there is no handshake
or no client declares more in its answer to it. -/
theorem framesLimited_iff (p : Platform σ) (cfg : Settings) (clients : Nat → Client) (world : σ) :
    (∀ target, ((daemon p cfg).withAux (taps clients)).Runs fromStreams (unconnected world) target →
        FramesLimited target) ↔
      cfg.authKeysData = [] ∨ ∀ n, (clients n).Modest := by
  constructor
  · intro limited
    by_contra excess
    obtain ⟨keys, large⟩ := not_or.mp excess
    obtain ⟨n, large⟩ := not_forall.mp large
    obtain ⟨target, run, broken⟩ := not_framesLimited p world keys large
    exact broken (limited target run)
  · intro modest target run
    exact framesLimited_of_modest modest run

/-- A client that declares one byte too many, and sends nothing else. -/
def oversized : Client :=
  ⟨Framing.le32 (Crypto.maxFrame + 1), fun _ => 4⟩

theorem not_framesLimited_oversized :
    ∃ target, ((daemon fakePlatform { authKeysData := ascii "key" }).withAux
        (taps fun _ => oversized)).Runs fromStreams (unconnected {}) target ∧
      ¬ FramesLimited target :=
  not_framesLimited (n := 0) fakePlatform {} (by decide) (by decide)

end WinInspect.Daemon
