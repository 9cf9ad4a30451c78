import WinInspect.Daemon.Framing

/-!
# Responses at the clients

`Conn::recv` of the command-line client and `PipeTransport::request` of the GUI read a response
with one call for its length and one for its text.  Both calls may get less than they ask for,
and what they do not get is left to whatever the buffers held before.
-/

namespace WinInspect.Clients

open Framing (Wire frame le32 ofLe moved)
open Daemon (pipeWriteMessage socketWriteMessage)

/-! ## The calls -/

/-- `m.resize(len)`. -/
def resize (len : Nat) (m : Bytes) : Bytes :=
  m.take len ++ List.replicate (len - m.length) 0

/-- A buffer after a call has put some bytes in front of it. -/
def fill (buf piece : Bytes) : Bytes :=
  piece ++ buf.drop piece.length

/-- `ReadFile` on a pipe, which fails at the end of the stream. -/
def readFile (splits : Nat → Nat) (n : Nat) (wire : Wire) : Option (Bytes × Wire) :=
  if wire.bytes = [] then none else some (wire.read splits n)

/-- `::recv` where its result is positive.  The number of bytes is cast to `int`. -/
def recv (splits : Nat → Nat) (n : Nat) (wire : Wire) : Option (Bytes × Wire) :=
  if n = 0 ∨ 2 ^ 31 ≤ n ∨ wire.bytes = [] then none else some (wire.read splits n)

/-- `Conn::recv`: what it returns, the message, and the stream after it.  `len` holds what is in
its memory where the first call does not overwrite it. -/
def recvWith (call : Nat → Wire → Option (Bytes × Wire)) (len m : Bytes) (wire : Wire) :
    Bool × Bytes × Wire :=
  match call 4 wire with
  | none => (false, m, wire)
  | some (piece, wire) =>
      let size := ofLe (fill len piece)
      match call size wire with
      | none => (false, resize size m, wire)
      | some (piece, wire) => (true, fill (resize size m) piece, wire)

/-- `Conn::recv` on a socket. -/
def tcpRecv (splits : Nat → Nat) (len m : Bytes) (wire : Wire) : Bool × Bytes × Wire :=
  recvWith (recv splits) len m wire

/-- `Conn::recv` on a pipe. -/
def pipeRecv (splits : Nat → Nat) (len m : Bytes) (wire : Wire) : Bool × Bytes × Wire :=
  recvWith (readFile splits) len m wire

/-- What `PipeTransport::request` returns for the stream that answers its request; there is none
when the pipe cannot be opened. -/
def guiRequest (splits : Nat → Nat) (pipe : Option Wire) : Bytes :=
  match pipe with
  | none => ascii "\x7b\"ok\":false,\"error\":\"no daemon\"\x7d"
  | some wire =>
      match readFile splits 4 wire with
      | none => ascii "\x7b\"ok\":false\x7d"
      | some (piece, wire) =>
          let rlen := ofLe (fill [0, 0, 0, 0] piece)
          let resp := resize rlen []
          -- the result of the second call is not looked at
          match readFile splits rlen wire with
          | none => resp
          | some (piece, _) => fill resp piece

@[simp]
theorem length_resize (len : Nat) (m : Bytes) : (resize len m).length = len := by
  rw [resize, List.length_append, List.length_take, List.length_replicate]
  omega

theorem length_fill {buf piece : Bytes} (short : piece.length ≤ buf.length) :
    (fill buf piece).length = buf.length := by
  rw [fill, List.length_append, List.length_drop]
  omega

/-- A call that gets all of a length leaves nothing of the memory it is put in. -/
theorem ofLe_fill_le32 {len : Bytes} {n : Nat} (word : len.length = 4) (small : n < 2 ^ 32) :
    ofLe (fill len (le32 n)) = n := by
  rw [fill, Framing.length_le32, List.drop_of_length_le word.le, List.append_nil,
    Framing.ofLe_le32, Nat.mod_eq_of_lt small]

/-- A call that succeeds reads once. -/
theorem readFile_some {splits : Nat → Nat} {n : Nat} {wire : Wire} {result : Bytes × Wire}
    (ran : readFile splits n wire = some result) : result = wire.read splits n := by
  unfold readFile at ran
  split at ran
  · cases ran
  · exact (Option.some.inj ran).symm

theorem recv_some {splits : Nat → Nat} {n : Nat} {wire : Wire} {result : Bytes × Wire}
    (ran : recv splits n wire = some result) : result = wire.read splits n ∧ n < 2 ^ 31 := by
  unfold recv at ran
  split at ran
  · cases ran
  · rename_i bounds
    exact ⟨(Option.some.inj ran).symm, by omega⟩

/-! ## The command-line client -/

section

variable {splits : Nat → Nat} {call : Nat → Wire → Option (Bytes × Wire)}

theorem recvWith_true {len m text : Bytes} {wire wire' : Wire}
    (ran : recvWith call len m wire = (true, text, wire')) :
    ∃ first second, call 4 wire = some first ∧
      call (ofLe (fill len first.1)) first.2 = some second ∧
      text = fill (resize (ofLe (fill len first.1)) m) second.1 ∧ wire' = second.2 := by
  unfold recvWith at ran
  split at ran
  · cases ran
  · rename_i piece middle first
    dsimp only at ran
    split at ran
    · cases ran
    · rename_i piece' last second
      obtain ⟨rfl, rfl⟩ := Prod.mk.inj (Prod.mk.inj ran).2
      exact ⟨(piece, middle), (piece', last), first, second, rfl, rfl⟩

/-- When a message is received, its length was in the buffer of the length, and the two calls
have taken as many bytes as the stream is shorter by. -/
theorem recvWith_length (single : ∀ {n wire result}, call n wire = some result →
      result = wire.read splits n) {len m text : Bytes} {wire wire' : Wire} (word : len.length = 4)
    (ran : recvWith call len m wire = (true, text, wire')) :
    text.length < 2 ^ 32 ∧ (∃ middle result, call text.length middle = some result) ∧
      ∃ rest, moved splits wire.calls (min 4 wire.bytes.length) +
          moved splits (wire.calls + 1) (min text.length rest) + wire'.bytes.length =
        wire.bytes.length := by
  obtain ⟨first, second, header, payload, rfl, rfl⟩ := recvWith_true ran
  have headerRead := single header
  have payloadRead := single payload
  have short : first.1.length ≤ 4 := by
    rw [headerRead, Wire.length_read]
    exact (Framing.moved_le _ _ _).trans (Nat.min_le_left _ _)
  set size := ofLe (fill len first.1) with sizeEq
  have fits : second.1.length ≤ size := by
    rw [payloadRead, Wire.length_read]
    exact (Framing.moved_le _ _ _).trans (Nat.min_le_left _ _)
  have length : (fill (resize size m) second.1).length = size := by
    rw [length_fill (by rwa [length_resize]), length_resize]
  rw [length]
  refine ⟨?_, ⟨first.2, second, payload⟩, first.2.bytes.length, ?_⟩
  · have bound := Framing.ofLe_lt (fill len first.1)
    rw [length_fill (by rwa [word]), word] at bound
    omega
  · have headerSplit := congrArg List.length (Wire.read_append splits 4 wire)
    have payloadSplit := congrArg List.length (Wire.read_append splits size first.2)
    rw [List.length_append, ← headerRead] at headerSplit
    rw [List.length_append, ← payloadRead] at payloadSplit
    have calls : first.2.calls = wire.calls + 1 := by rw [headerRead]; rfl
    rw [← calls, ← Wire.length_read, ← Wire.length_read, ← headerRead, ← payloadRead]
    omega

/-- With a whole frame in front of the stream, the message is received and the stream goes on
behind it exactly when each call gets all it asks for. -/
theorem recvWith_frame_iff (single : ∀ {n wire result}, call n wire = some result →
      result = wire.read splits n) {len m text rest : Bytes} {calls : Nat} (word : len.length = 4)
    (two : 2 ≤ text.length)
    (works : ∀ n bytes calls, n = 4 ∨ n = text.length → bytes ≠ [] →
      call n ⟨bytes, calls⟩ = some (Wire.read splits n ⟨bytes, calls⟩)) :
    (∃ calls', recvWith call len m ⟨frame text ++ rest, calls⟩ = (true, text, ⟨rest, calls'⟩)) ↔
      text.length < 2 ^ 32 ∧ 4 ≤ splits calls ∧ text.length ≤ splits (calls + 1) := by
  constructor
  · rintro ⟨calls', ran⟩
    obtain ⟨small, _, between, taken⟩ := recvWith_length single word ran
    simp only [moved, List.length_append, Framing.length_frame] at taken
    exact ⟨small, by omega, by omega⟩
  · rintro ⟨small, header, payload⟩
    have nonempty : text ≠ [] := List.ne_nil_of_length_pos (by omega)
    have order : frame text ++ rest = le32 text.length ++ (text ++ rest) :=
      List.append_assoc _ _ _
    have first := @Wire.read_whole splits (le32 text.length) calls header (text ++ rest)
    have second := @Wire.read_whole splits text (calls + 1) payload rest
    rw [Framing.length_le32] at first
    refine ⟨calls + 1 + 1, ?_⟩
    rw [recvWith, order, works 4 _ _ (Or.inl rfl) (by simp [le32]), first]
    dsimp only
    rw [ofLe_fill_le32 word small, works _ _ _ (Or.inr rfl) (by simp [nonempty]), second]
    dsimp only
    rw [fill, List.drop_of_length_le (by rw [length_resize]), List.append_nil]

end

/-- Every response begins with an opening brace and ends with a closing one. -/
theorem serializeResponseJson_braces (resp : CoreResponse) :
    ∃ body, serializeResponseJson resp = Json.ch '{' :: body ++ [Json.ch '}'] :=
  ⟨Json.dumpObj true resp.toJsonObj, by rw [serializeResponseJson, Json.dumps, Json.dump]⟩

theorem two_le_serializeResponseJson (resp : CoreResponse) :
    2 ≤ (serializeResponseJson resp).length := by
  obtain ⟨body, text⟩ := serializeResponseJson_braces resp
  rw [text, List.length_append, List.length_cons, List.length_singleton]
  omega

theorem tcpRecv_iff (writes reads : Nat → Nat) {len m text rest : Bytes} {calls : Nat}
    (word : len.length = 4) (two : 2 ≤ text.length) :
    (∃ calls', tcpRecv reads len m ⟨(socketWriteMessage writes text {}).bytes ++ rest, calls⟩ =
        (true, text, ⟨rest, calls'⟩)) ↔
      text.length < 2 ^ 31 ∧ 4 ≤ reads calls ∧ text.length ≤ reads (calls + 1) := by
  have single : ∀ {n wire result}, recv reads n wire = some result →
      result = wire.read reads n := fun ran => (recv_some ran).1
  by_cases small : text.length < 2 ^ 31
  · obtain ⟨_, written⟩ := @Daemon.socketWriteMessage_eq writes text small {}
    rw [written]
    refine (recvWith_frame_iff single word two ?_).trans ?_
    · intro n bytes calls sizes nonempty
      exact if_neg (by rw [not_or, not_or]; exact ⟨by omega, by omega, nonempty⟩)
    · exact ⟨fun given => ⟨small, given.2⟩, fun given => ⟨by omega, given.2⟩⟩
  · refine iff_of_false ?_ fun given => small given.1
    rintro ⟨calls', ran⟩
    obtain ⟨_, ⟨_, _, read⟩, _⟩ := recvWith_length single word ran
    exact small (recv_some read).2

theorem pipeRecv_iff (writes reads : Nat → Nat) {len m text rest : Bytes} {calls : Nat}
    (word : len.length = 4) (two : 2 ≤ text.length) :
    (∃ calls', pipeRecv reads len m ⟨(pipeWriteMessage writes text {}).2.bytes ++ rest, calls⟩ =
        (true, text, ⟨rest, calls'⟩)) ↔
      text.length < 2 ^ 32 ∧ 4 ≤ reads calls ∧ text.length ≤ reads (calls + 1) := by
  by_cases small : text.length < 2 ^ 32
  · obtain ⟨_, written⟩ := @Framing.writeMessage_eq Daemon.fileAdmits writes text {} small
      Daemon.fileAdmits_all
    rw [pipeWriteMessage, written]
    exact recvWith_frame_iff readFile_some word two fun n bytes calls _ nonempty =>
      if_neg nonempty
  · refine iff_of_false ?_ fun given => small given.1
    rintro ⟨calls', ran⟩
    exact small (recvWith_length readFile_some word ran).1

/-! ## The GUI -/

section

variable {splits : Nat → Nat}

/-- The two reads of the GUI when there is something to read. -/
theorem guiRequest_eq {wire : Wire} (nonempty : wire.bytes ≠ []) :
    let first := wire.read splits 4
    let rlen := ofLe (fill [0, 0, 0, 0] first.1)
    guiRequest splits (some wire) = (match readFile splits rlen first.2 with
      | none => resize rlen []
      | some (piece, _) => fill (resize rlen []) piece) := by
  intro first rlen
  rw [guiRequest]
  dsimp only
  rw [readFile, if_neg nonempty]

theorem length_guiRequest {wire : Wire} (nonempty : wire.bytes ≠ []) :
    (guiRequest splits (some wire)).length =
      ofLe (fill [0, 0, 0, 0] (wire.read splits 4).1) := by
  rw [guiRequest_eq nonempty]
  split
  · exact length_resize _ _
  · rename_i piece _ read
    have short := Wire.length_read splits (ofLe (fill [0, 0, 0, 0] (wire.read splits 4).1))
      (wire.read splits 4).2
    rw [← readFile_some read] at short
    rw [length_fill, length_resize]
    rw [length_resize, short]
    exact (Framing.moved_le _ _ _).trans (Nat.min_le_left _ _)

/-- A buffer of zeros that ends in another byte has been filled. -/
theorem fill_zeros {rlen : Nat} {piece body : Bytes} {last : UInt8} (other : last ≠ 0)
    (filled : fill (resize rlen []) piece = body ++ [last]) :
    piece = body ++ [last] := by
  have zeros : resize rlen [] = List.replicate rlen 0 := by simp [resize]
  rw [fill, zeros, List.drop_replicate] at filled
  cases missing : rlen - piece.length with
  | zero => rwa [missing, List.replicate_zero, List.append_nil] at filled
  | succ more =>
      rw [missing, List.replicate_succ', ← List.append_assoc] at filled
      exact absurd (List.append_inj_right' filled rfl) (by simpa using other.symm)

/-- A part of a length that stands for the whole has only zeros behind it. -/
theorem le32_getElem_of_part {n count : Nat} (part : count < 4)
    (same : ofLe (fill [0, 0, 0, 0] ((le32 n).take count)) = n) (positive : 0 < count) :
    (le32 n)[count]? = some 0 := by
  have bound : n < 256 ^ count := by
    have split := Framing.ofLe_append ((le32 n).take count)
      ([0, 0, 0, 0].drop ((le32 n).take count).length)
    have low := Framing.ofLe_lt ((le32 n).take count)
    have size : ((le32 n).take count).length = count := List.length_take_of_le part.le
    have zeros : ofLe (([0, 0, 0, 0] : Bytes).drop count) = 0 := by
      interval_cases count <;> rfl
    rw [size, zeros, Nat.mul_zero, Nat.add_zero] at split
    rw [size] at low
    rw [fill, size, split] at same
    omega
  rw [Framing.getElem?_le32 n part, Nat.div_eq_of_lt bound]
  rfl

/-- The GUI returns the message exactly when each call gets all it asks for. -/
theorem guiRequest_frame_iff {text body rest : Bytes} {calls : Nat}
    (braces : text = Json.ch '{' :: body ++ [Json.ch '}']) (small : text.length < 2 ^ 32) :
    guiRequest splits (some ⟨frame text ++ rest, calls⟩) = text ↔
      4 ≤ splits calls ∧ text.length ≤ splits (calls + 1) := by
  have order : frame text ++ rest = le32 text.length ++ (text ++ rest) := List.append_assoc _ _ _
  have nonempty : (⟨frame text ++ rest, calls⟩ : Wire).bytes ≠ [] := by simp [frame, le32]
  have two : 2 ≤ text.length := by simp [braces]
  have header := Wire.read_append_left splits (le32 text.length) (text ++ rest) calls
  rw [← order, Framing.length_le32] at header
  have size := @length_guiRequest splits _ nonempty
  have value := @guiRequest_eq splits _ nonempty
  rw [header] at size
  dsimp only at size value
  rw [header] at value
  dsimp only at value
  rw [readFile, if_neg (by
    have left : text ++ rest ≠ [] := by simp [braces]
    simp [left])] at value
  dsimp only at value
  constructor
  · intro received
    rw [received] at size value
    rw [← size] at value
    have whole : (Wire.read splits text.length
        ⟨(le32 text.length).drop (moved splits calls 4) ++ (text ++ rest), calls + 1⟩).1 =
          text := by
      have filled := @fill_zeros text.length _ (Json.ch '{' :: body) (Json.ch '}') (by decide)
        (value.symm.trans braces)
      exact filled.trans braces.symm
    have count := Wire.length_read splits text.length
      ⟨(le32 text.length).drop (moved splits calls 4) ++ (text ++ rest), calls + 1⟩
    rw [whole] at count
    dsimp only at count
    have given : text.length ≤ splits (calls + 1) := by
      unfold moved at count
      omega
    refine ⟨?_, given⟩
    by_contra short
    -- the text would begin with a byte of its length, and that byte is a zero
    have part : moved splits calls 4 < 4 := by
      unfold moved
      omega
    have positive : 0 < moved splits calls 4 := Framing.moved_pos _ _ (by decide)
    have zero := le32_getElem_of_part part size.symm positive
    have first : ∀ more : Bytes, (text ++ more)[0]? = some (Json.ch '{') := by
      intro more
      rw [braces]
      rfl
    have behind : ((le32 text.length).drop (moved splits calls 4) ++ (text ++ rest))[0]? =
        some 0 := by
      rw [List.getElem?_append_left (by rw [List.length_drop, Framing.length_le32]; omega),
        List.getElem?_drop, Nat.add_zero]
      exact zero
    have split := Wire.read_append splits text.length
      ⟨(le32 text.length).drop (moved splits calls 4) ++ (text ++ rest), calls + 1⟩
    rw [whole] at split
    have same := (congrArg (fun bytes : Bytes => bytes[0]?) split).trans behind
    cases (first _).symm.trans same
  · rintro ⟨headerGiven, payloadGiven⟩
    have all : moved splits calls 4 = 4 := by
      unfold moved
      omega
    rw [value, all, List.take_of_length_le (Framing.length_le32 _).le,
      ofLe_fill_le32 rfl small, List.drop_of_length_le (Framing.length_le32 _).le, List.nil_append,
      Wire.read_whole payloadGiven, fill, List.drop_of_length_le (by rw [length_resize]),
      List.append_nil]

end

theorem guiRequest_iff (writes reads : Nat → Nat) (resp : CoreResponse) (rest : Bytes)
    (calls : Nat) :
    guiRequest reads (some ⟨(pipeWriteMessage writes (serializeResponseJson resp) {}).2.bytes ++
        rest, calls⟩) = serializeResponseJson resp ↔
      (serializeResponseJson resp).length < 2 ^ 32 ∧ 4 ≤ reads calls ∧
        (serializeResponseJson resp).length ≤ reads (calls + 1) := by
  obtain ⟨body, braces⟩ := serializeResponseJson_braces resp
  revert braces
  generalize serializeResponseJson resp = text
  intro braces
  by_cases small : text.length < 2 ^ 32
  · obtain ⟨_, written⟩ := @Framing.writeMessage_eq Daemon.fileAdmits writes text {} small
      Daemon.fileAdmits_all
    rw [pipeWriteMessage, written]
    exact (guiRequest_frame_iff braces small).trans (and_iff_right small).symm
  · -- the length in front is another number
    refine iff_of_false (fun received => small ?_) fun given => small given.1
    obtain ⟨_, written⟩ := @Framing.writeMessage_bytes Daemon.fileAdmits writes text {}
      Daemon.fileAdmits_all
    rw [pipeWriteMessage, written] at received
    have size := @length_guiRequest reads
      ⟨[] ++ (le32 text.length ++ text.take (text.length % 2 ^ 32)) ++ rest, calls⟩
      (by simp [le32])
    have bound := Framing.ofLe_lt (fill [0, 0, 0, 0] (Wire.read reads 4
      ⟨[] ++ (le32 text.length ++ text.take (text.length % 2 ^ 32)) ++ rest, calls⟩).1)
    rw [received] at size
    rw [length_fill (by
      rw [Wire.length_read]
      exact (Framing.moved_le _ _ _).trans (Nat.min_le_left _ _))] at bound
    rw [size]
    exact bound

/-! ## Responses -/

/-- For every response and every way its bytes arrive: `Conn::recv` returns it and leaves the
stream at the next frame, and `PipeTransport::request` returns it, exactly when the first call
gets the whole length and the second one the whole text.  A text from `2 ^ 31` bytes on is not
received on a socket, and one from `2 ^ 32` bytes on not at all. -/
theorem responses_received_iff (writes reads : Nat → Nat) (resp : CoreResponse)
    (len m rest : Bytes) (calls : Nat) (word : len.length = 4) :
    let text := serializeResponseJson resp
    let whole := 4 ≤ reads calls ∧ text.length ≤ reads (calls + 1)
    ((∃ calls', tcpRecv reads len m ⟨(socketWriteMessage writes text {}).bytes ++ rest, calls⟩ =
        (true, text, ⟨rest, calls'⟩)) ↔ text.length < 2 ^ 31 ∧ whole) ∧
    ((∃ calls', pipeRecv reads len m ⟨(pipeWriteMessage writes text {}).2.bytes ++ rest, calls⟩ =
        (true, text, ⟨rest, calls'⟩)) ↔ text.length < 2 ^ 32 ∧ whole) ∧
    (guiRequest reads (some ⟨(pipeWriteMessage writes text {}).2.bytes ++ rest, calls⟩) = text ↔
      text.length < 2 ^ 32 ∧ whole) :=
  ⟨tcpRecv_iff writes reads word (two_le_serializeResponseJson resp),
    pipeRecv_iff writes reads word (two_le_serializeResponseJson resp),
    guiRequest_iff writes reads resp rest calls⟩

/-- A response that arrives in one piece. -/
theorem responses_received_whole :
    let text := serializeResponseJson { id := ascii "1" }
    ∃ calls, tcpRecv (fun _ => 100) [1, 2, 3, 4] []
        ⟨(socketWriteMessage (fun _ => 1) text {}).bytes ++ frame text, 0⟩ =
      (true, text, ⟨frame text, calls⟩) :=
  (responses_received_iff (fun _ => 1) (fun _ => 100) { id := ascii "1" } [1, 2, 3, 4] []
    (frame (serializeResponseJson { id := ascii "1" })) 0 rfl).1.mpr (by decide)

/-- A response that arrives in pieces of eight bytes.  `Conn::recv` returns true, with zeros
behind the first eight bytes, and the next one takes the ninth to twelfth byte for a length; the
GUI gets the same text. -/
theorem response_cut_short :
    let text := serializeResponseJson { id := ascii "1" }
    let stream : Wire := ⟨frame text ++ frame text, 0⟩
    let received := text.take 8 ++ List.replicate (text.length - 8) 0
    received ≠ text ∧
    tcpRecv (fun _ => 8) [0, 0, 0, 0] [] stream =
      (true, received, ⟨text.drop 8 ++ frame text, 2⟩) ∧
    pipeRecv (fun _ => 8) [0, 0, 0, 0] [] stream =
      (true, received, ⟨text.drop 8 ++ frame text, 2⟩) ∧
    guiRequest (fun _ => 8) (some stream) = received := by
  decide +kernel

end WinInspect.Clients
