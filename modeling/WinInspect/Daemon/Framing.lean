import WinInspect.Daemon.Connection
import WinInspect.Data.Framing

/-!
# Messages on pipes and sockets

The read and write loops of `pipe_win32.cpp` and `tcp_server.cpp`, and the receive of the two
request loops, on byte streams.  A turn of a connection takes a frame that has arrived whole;
`Conn.receive_frame` says that this is what the loops make of a stream, however it is split.
-/

namespace WinInspect.Daemon

open Framing (Wire frame le32 contained receiveAll Receives)

/-! ## The loops -/

/-- `ReadFile` and `WriteFile` take any number of bytes below `2 ^ 32`. -/
def fileAdmits (_ : Nat) : Bool :=
  true

/-- `recv` and `send` take an `int`, which is negative from `2 ^ 31` on. -/
def socketAdmits (n : Nat) : Bool :=
  decide (n < 2 ^ 31)

/-- `pipe_read_message`. -/
def pipeReadMessage (splits : Nat → Nat) (wire : Wire) : Option (Bytes × Wire) :=
  Framing.readMessage fileAdmits (fun _ => true) splits wire

/-- `pipe_write_message`. -/
def pipeWriteMessage (splits : Nat → Nat) (json : Bytes) (wire : Wire) : Bool × Wire :=
  Framing.writeMessage fileAdmits splits json wire

/-- `socket_write_all`. -/
def socketWriteAll (splits : Nat → Nat) (buf : Bytes) (wire : Wire) : Bool × Wire :=
  Framing.writeAll socketAdmits splits buf wire

/-- The lengths that the TCP server reads on for. -/
def tcpAccepts (len : Nat) : Bool :=
  !(decide (len = 0) || decide (Crypto.maxFrame < len))

/-- The reads of the TCP request loop, with `socket_read_all`, encrypted or not. -/
def socketReadFrame (splits : Nat → Nat) (wire : Wire) : Option (Bytes × Wire) :=
  Framing.readMessage socketAdmits tcpAccepts splits wire

/-- The writes of the TCP request loop, which goes on when one of them fails. -/
def socketWriteMessage (splits : Nat → Nat) (out : Bytes) (wire : Wire) : Wire :=
  (socketWriteAll splits (out.take (out.length % 2 ^ 32))
    (socketWriteAll splits (le32 out.length) wire).2).2

/-- The receive of the request loops. -/
def Conn.receive (bcrypt : Crypto.BCrypt) (splits : Nat → Nat) (conn : Conn) (wire : Wire) :
    Option (Bytes × Wire) :=
  match conn.transport with
  | .pipe => pipeReadMessage splits wire
  | .tcp =>
      (socketReadFrame splits wire).bind fun read =>
        (conn.textOf bcrypt read.1).map fun text => (text, read.2)

/-- The messages of a request loop, written one after the other. -/
def Transport.writeMessages (splits : Nat → Nat) (transport : Transport) (msgs : List Bytes)
    (wire : Wire) : Wire :=
  msgs.foldl (fun wire m =>
    match transport with
    | .pipe => (pipeWriteMessage splits m wire).2
    | .tcp => socketWriteMessage splits m wire) wire

/-! ## One message -/

theorem fileAdmits_all {m : Bytes} : ∀ k, 0 < k → k ≤ max 4 m.length → fileAdmits k = true :=
  fun _ _ _ => rfl

theorem socketAdmits_all {m : Bytes} (small : m.length < 2 ^ 31) :
    ∀ k, 0 < k → k ≤ max 4 m.length → socketAdmits k = true := by
  intro k _ few
  exact decide_eq_true (by omega)

theorem tcpAccepts_iff (len : Nat) : tcpAccepts len = true ↔ 0 < len ∧ len ≤ Crypto.maxFrame := by
  simp [tcpAccepts, Nat.pos_iff_ne_zero]

theorem lt_of_tcpAccepts {len : Nat} (accepted : tcpAccepts len = true) : len < 2 ^ 31 := by
  have bound := ((tcpAccepts_iff len).mp accepted).2
  unfold Crypto.maxFrame at bound
  omega

/-- No frame whose length is not accepted has a text. -/
theorem textOf_of_not_accepted {bcrypt : Crypto.BCrypt} {conn : Conn} {m : Bytes}
    (tcp : conn.transport = .tcp) (refused : tcpAccepts m.length = false) :
    conn.textOf bcrypt m = none := by
  have bounds : m.length = 0 ∨ Crypto.maxFrame < m.length := by
    have outside := mt (tcpAccepts_iff m.length).mpr (by rw [refused]; decide)
    omega
  rw [Conn.textOf, tcp]
  dsimp only
  rw [Crypto.encryptedRecv, if_pos bounds, if_pos bounds]
  split <;> rfl

/-- From a stream that begins with a frame, a connection gets the text of the frame and goes on
behind it, however the bytes arrive. -/
theorem Conn.receive_frame (bcrypt : Crypto.BCrypt) (splits : Nat → Nat) (conn : Conn)
    {m : Bytes} (small : m.length < 2 ^ 32) (rest : Bytes) (calls : Nat) :
    ∃ calls', conn.receive bcrypt splits ⟨frame m ++ rest, calls⟩ =
      (conn.textOf bcrypt m).map fun text => (text, ⟨rest, calls'⟩) := by
  unfold Conn.receive
  cases transport : conn.transport with
  | pipe =>
      obtain ⟨calls', read⟩ := @Framing.readMessage_frame fileAdmits (fun _ => true) splits m rest
        calls small rfl fileAdmits_all
      refine ⟨calls', ?_⟩
      rw [Conn.textOf, transport]
      exact read
  | tcp =>
      dsimp only
      cases accepted : tcpAccepts m.length with
      | true =>
          obtain ⟨calls', read⟩ := @Framing.readMessage_frame socketAdmits tcpAccepts splits m rest
            calls small accepted (socketAdmits_all (lt_of_tcpAccepts accepted))
          refine ⟨calls', ?_⟩
          rw [socketReadFrame, read]
          rfl
      | false =>
          have refused := @Framing.readMessage_refused socketAdmits tcpAccepts splits m.length
            (m ++ rest) (le32 m.length ++ (m ++ rest)).length calls small accepted
          rw [List.take_length, ← List.append_assoc] at refused
          refine ⟨calls, ?_⟩
          rw [textOf_of_not_accepted transport accepted]
          exact congrArg (fun read => Option.bind read _) refused

/-! ## Many messages -/

section

variable {splits : Nat → Nat}

theorem pipe_writeMessages {msgs : List Bytes} (sized : ∀ m ∈ msgs, m.length < 2 ^ 32)
    (wire : Wire) : ∃ calls, Transport.pipe.writeMessages splits msgs wire =
      ⟨wire.bytes ++ msgs.flatMap frame, calls⟩ := by
  induction msgs generalizing wire with
  | nil => exact ⟨wire.calls, by simp [Transport.writeMessages]⟩
  | cons m msgs inductionHypothesis =>
      obtain ⟨calls, written⟩ := @Framing.writeMessage_eq fileAdmits splits m wire
        (sized m List.mem_cons_self) fileAdmits_all
      obtain ⟨calls', rest⟩ := inductionHypothesis
        (fun other member => sized other (List.mem_cons_of_mem _ member))
        ⟨wire.bytes ++ frame m, calls⟩
      refine ⟨calls', ?_⟩
      rw [List.flatMap_cons, ← List.append_assoc, ← rest, Transport.writeMessages,
        List.foldl_cons]
      dsimp only
      rw [pipeWriteMessage, written]
      rfl

theorem socketWriteMessage_eq {m : Bytes} (small : m.length < 2 ^ 31) (wire : Wire) :
    ∃ calls, socketWriteMessage splits m wire = ⟨wire.bytes ++ frame m, calls⟩ := by
  obtain ⟨calls, written⟩ := @Framing.writeMessage_eq socketAdmits splits m wire
    (by omega) (socketAdmits_all small)
  obtain ⟨headerCalls, header⟩ := @Framing.writeAll_eq socketAdmits splits (le32 m.length) wire
    fun k some few => socketAdmits_all small k some (few.trans (le_max_left _ _))
  refine ⟨calls, ?_⟩
  rw [Framing.writeMessage, header] at written
  rw [socketWriteMessage, socketWriteAll, socketWriteAll, header]
  exact congrArg Prod.snd written

/-- Whatever becomes of the payload, the length is written. -/
theorem socketWriteMessage_header (m : Bytes) (wire : Wire) :
    ∃ more, (socketWriteMessage splits m wire).bytes = wire.bytes ++ le32 m.length ++ more := by
  obtain ⟨calls, header⟩ := @Framing.writeAll_eq socketAdmits splits (le32 m.length) wire
    fun k some few => decide_eq_true (by rw [Framing.length_le32] at few; omega)
  obtain ⟨more, payload⟩ := @Framing.writeLoop_appends socketAdmits splits
    (m.take (m.length % 2 ^ 32)).length (m.take (m.length % 2 ^ 32))
    ⟨wire.bytes ++ le32 m.length, calls⟩
  refine ⟨more, ?_⟩
  rw [socketWriteMessage, socketWriteAll, socketWriteAll, header]
  exact payload

theorem tcp_writeMessages_appends (msgs : List Bytes) (wire : Wire) :
    ∃ more, (Transport.tcp.writeMessages splits msgs wire).bytes = wire.bytes ++ more := by
  induction msgs generalizing wire with
  | nil => exact ⟨[], (List.append_nil _).symm⟩
  | cons m msgs inductionHypothesis =>
      obtain ⟨first, written⟩ := @socketWriteMessage_header splits m wire
      obtain ⟨more, rest⟩ := inductionHypothesis (socketWriteMessage splits m wire)
      exact ⟨_, rest.trans (by rw [written, List.append_assoc, List.append_assoc])⟩

/-- The stream of the TCP writes: the frames in front of the first message whose length is not
accepted, and then that length. -/
theorem tcp_writeMessages {msgs : List Bytes} (sized : ∀ m ∈ msgs, m.length < 2 ^ 32)
    (wire : Wire) : ∃ rest,
      (Transport.tcp.writeMessages splits msgs wire).bytes =
        wire.bytes ++ ((msgs.takeWhile fun m => tcpAccepts m.length).flatMap frame ++ rest) ∧
      (rest = [] ∨ ∃ n more, rest = le32 n ++ more ∧ n < 2 ^ 32 ∧ tcpAccepts n = false) := by
  induction msgs generalizing wire with
  | nil => exact ⟨[], by simp [Transport.writeMessages], Or.inl rfl⟩
  | cons m msgs inductionHypothesis =>
      cases accepted : tcpAccepts m.length with
      | true =>
          obtain ⟨calls, written⟩ :=
            @socketWriteMessage_eq splits m (lt_of_tcpAccepts accepted) wire
          obtain ⟨rest, stream, ends⟩ := inductionHypothesis
            (fun other member => sized other (List.mem_cons_of_mem _ member))
            ⟨wire.bytes ++ frame m, calls⟩
          refine ⟨rest, ?_, ends⟩
          rw [List.takeWhile_cons, if_pos accepted, List.flatMap_cons, List.append_assoc,
            ← List.append_assoc wire.bytes, ← stream, ← written]
          rfl
      | false =>
          obtain ⟨first, written⟩ := @socketWriteMessage_header splits m wire
          obtain ⟨more, rest⟩ :=
            @tcp_writeMessages_appends splits msgs (socketWriteMessage splits m wire)
          refine ⟨le32 m.length ++ (first ++ more), ?_,
            Or.inr ⟨_, _, rfl, sized m List.mem_cons_self, accepted⟩⟩
          rw [List.takeWhile_cons, if_neg (by simp [accepted]), List.flatMap_nil, List.nil_append]
          exact rest.trans (by simp only [written, List.append_assoc])

theorem pipe_receives {bcrypt : Crypto.BCrypt} {conn : Conn} (pipe : conn.transport = .pipe)
    {m : Bytes} (small : m.length < 2 ^ 32) : Receives (conn.receive bcrypt splits) m where
  whole rest calls := by
    obtain ⟨calls', read⟩ := conn.receive_frame bcrypt splits small rest calls
    refine ⟨calls', read.trans ?_⟩
    rw [Conn.textOf, pipe]
    rfl
  part cut calls short := by
    rw [Conn.receive, pipe]
    exact Framing.readMessage_cut small short

theorem tcp_receives {bcrypt : Crypto.BCrypt} {conn : Conn} (tcp : conn.transport = .tcp)
    (plain : conn.crypto.isInitialized = false) {m : Bytes}
    (accepted : tcpAccepts m.length = true) : Receives (conn.receive bcrypt splits) m where
  whole rest calls := by
    obtain ⟨calls', read⟩ := conn.receive_frame bcrypt splits
      ((lt_of_tcpAccepts accepted).trans (by decide)) rest calls
    refine ⟨calls', read.trans ?_⟩
    have bounds := (tcpAccepts_iff m.length).mp accepted
    rw [Conn.textOf, tcp]
    dsimp only
    rw [if_neg (by simp [plain]), if_neg (by omega)]
    rfl
  part cut calls short := by
    rw [Conn.receive, tcp]
    dsimp only
    rw [socketReadFrame, Framing.readMessage_cut
      ((lt_of_tcpAccepts accepted).trans (by decide)) short]
    rfl

end

/-- Nothing is received from the rest of a stream that begins with a length that is not
accepted. -/
theorem tcp_stops {bcrypt : Crypto.BCrypt} {splits : Nat → Nat} {conn : Conn}
    (tcp : conn.transport = .tcp) {rest : Bytes}
    (ends : rest = [] ∨ ∃ n more, rest = le32 n ++ more ∧ n < 2 ^ 32 ∧ tcpAccepts n = false)
    (cut calls : Nat) : conn.receive bcrypt splits ⟨rest.take cut, calls⟩ = none := by
  have none : socketReadFrame splits ⟨rest.take cut, calls⟩ = none := by
    rcases ends with rfl | ⟨n, more, rfl, small, refused⟩
    · have cutEmpty := @Framing.readMessage_cut socketAdmits tcpAccepts splits [] 0 calls
        (by decide) (by decide)
      rwa [List.take_nil]
    · exact Framing.readMessage_refused small refused
  rw [Conn.receive, tcp]
  dsimp only
  rw [none]
  rfl

/-- The messages that a request loop reads of a list of messages. -/
def Transport.admitted (transport : Transport) (msgs : List Bytes) : List Bytes :=
  match transport with
  | .pipe => msgs
  | .tcp => msgs.takeWhile fun m => tcpAccepts m.length

theorem length_admitted_le (transport : Transport) (msgs : List Bytes) :
    (transport.admitted msgs).length ≤ msgs.length := by
  cases transport with
  | pipe => exact le_rfl
  | tcp => exact (List.takeWhile_sublist _).length_le

/-- The stream of messages is made of the frames of the admitted ones, which are received, and
a rest from which nothing is. -/
theorem writeMessages_stream (bcrypt : Crypto.BCrypt) (writes reads : Nat → Nat) {conn : Conn}
    (plain : conn.transport = .tcp → conn.crypto.isInitialized = false) {msgs : List Bytes}
    (sized : ∀ m ∈ msgs, m.length < 2 ^ 32) :
    ∃ rest, (conn.transport.writeMessages writes msgs {}).bytes =
        (conn.transport.admitted msgs).flatMap frame ++ rest ∧
      (∀ m ∈ conn.transport.admitted msgs, Receives (conn.receive bcrypt reads) m) ∧
      ∀ cut calls, conn.receive bcrypt reads ⟨rest.take cut, calls⟩ = none := by
  cases transport : conn.transport with
  | pipe =>
      obtain ⟨calls, written⟩ := @pipe_writeMessages writes msgs sized {}
      refine ⟨[], ?_, fun m member => pipe_receives transport (sized m member), ?_⟩
      · rw [written, List.append_nil]
        rfl
      · intro cut calls
        have cutEmpty := @Framing.readMessage_cut fileAdmits (fun _ => true) reads [] 0 calls
          (by decide) (by decide)
        rw [List.take_nil, Conn.receive, transport]
        exact cutEmpty
  | tcp =>
      obtain ⟨rest, written, ends⟩ := @tcp_writeMessages writes msgs sized {}
      refine ⟨rest, written, fun m member => ?_, tcp_stops transport ends⟩
      exact tcp_receives transport (plain transport)
        (List.mem_takeWhile_imp (p := fun m : Bytes => tcpAccepts m.length) member)

/-- However the system splits the writes and the reads, and wherever the stream is cut: from
messages written on a pipe the daemon reads those that are there whole, in order, and its loop
ends; on a socket without encryption it reads of them those in front of the first message that
is empty or longer than 10 MiB. -/
theorem framing_exact (bcrypt : Crypto.BCrypt) (writes reads : Nat → Nat) (conn : Conn)
    (plain : conn.transport = .tcp → conn.crypto.isInitialized = false) (msgs : List Bytes)
    (sized : ∀ m ∈ msgs, m.length < 2 ^ 32) (bound : Nat) (enough : msgs.length < bound) :
    let stream := (conn.transport.writeMessages writes msgs {}).bytes
    let admitted := conn.transport.admitted msgs
    receiveAll (conn.receive bcrypt reads) bound ⟨stream, 0⟩ = (admitted, true) ∧
      ∀ cut, receiveAll (conn.receive bcrypt reads) bound ⟨stream.take cut, 0⟩ =
        (contained cut admitted, true) := by
  intro stream admitted
  obtain ⟨rest, written, receives, stops⟩ := writeMessages_stream bcrypt writes reads plain sized
  have few : admitted.length < bound := (length_admitted_le _ msgs).trans_lt enough
  have cuts : ∀ cut, receiveAll (conn.receive bcrypt reads) bound ⟨stream.take cut, 0⟩ =
      (contained cut admitted, true) := by
    intro cut
    rw [show stream = admitted.flatMap frame ++ rest from written]
    exact Framing.receiveAll_frames receives stops cut 0 few
  refine ⟨?_, cuts⟩
  have whole := cuts stream.length
  rw [List.take_length, Framing.contained_of_le] at whole
  · exact whole
  · rw [show stream = admitted.flatMap frame ++ rest from written, List.length_append]
    exact Nat.le_add_right _ _

/-- Three messages on a pipe, written byte by byte, read two bytes at a time and cut off one
byte before the end. -/
theorem framing_exact_pipe :
    let conn : Conn := { transport := .pipe }
    let stream :=
      (Transport.pipe.writeMessages (fun _ => 1) [ascii "abc", [], ascii "de"] {}).bytes
    receiveAll (conn.receive Crypto.BCrypt.unavailable fun _ => 2) 4 ⟨stream.take 16, 0⟩ =
      ([ascii "abc", []], true) := by
  have cuts := (framing_exact Crypto.BCrypt.unavailable (fun _ => 1) (fun _ => 2)
    { transport := .pipe } nofun [ascii "abc", [], ascii "de"] (by decide) 4 (by decide)).2
  exact cuts 16

/-- The TCP server ends at an empty message and does not read the one behind it. -/
theorem tcp_stops_at_empty :
    let conn : Conn := { transport := .tcp }
    let stream := (Transport.tcp.writeMessages (fun _ => 1) [ascii "a", [], ascii "b"] {}).bytes
    receiveAll (conn.receive Crypto.BCrypt.unavailable fun _ => 1) 4 ⟨stream, 0⟩ =
      ([ascii "a"], true) := by
  decide

end WinInspect.Daemon
