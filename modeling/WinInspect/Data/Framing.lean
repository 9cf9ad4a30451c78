import WinInspect.Data.Bytes

/-!
# Length-prefixed messages on a byte stream

A stream keeps the order of the bytes and nothing else: a call that reads or writes moves some
of the bytes it is asked for, at least one, and the system chooses how many.  The loops around
such calls move all of them, whatever the system chooses, so messages that are written with
their length in front are read back as they were, and a stream that breaks off gives the
messages it holds whole.
-/

namespace WinInspect.Framing

/-! ## Little-endian numbers -/

/-- Four bytes, least significant first, of a number modulo `2 ^ 32`. -/
def le32 (n : Nat) : Bytes :=
  [UInt8.ofNat n, UInt8.ofNat (n / 256), UInt8.ofNat (n / 256 ^ 2), UInt8.ofNat (n / 256 ^ 3)]

/-- The number that bytes stand for, least significant first. -/
def ofLe (bytes : Bytes) : Nat :=
  bytes.foldr (fun byte value => byte.toNat + 256 * value) 0

@[simp]
theorem length_le32 (n : Nat) : (le32 n).length = 4 :=
  rfl

theorem getElem?_le32 (n : Nat) {i : Nat} (inside : i < 4) :
    (le32 n)[i]? = some (UInt8.ofNat (n / 256 ^ i)) := by
  interval_cases i <;> simp [le32]

theorem ofLe_le32 (n : Nat) : ofLe (le32 n) = n % 2 ^ 32 := by
  simp only [ofLe, le32, List.foldr_cons, List.foldr_nil, UInt8.toNat_ofNat']
  omega

theorem ofLe_append (low high : Bytes) :
    ofLe (low ++ high) = ofLe low + 256 ^ low.length * ofLe high := by
  induction low with
  | nil => simp [ofLe]
  | cons byte low inductionHypothesis =>
      have unfolded : ∀ rest, ofLe (byte :: rest) = byte.toNat + 256 * ofLe rest := fun _ => rfl
      rw [List.cons_append, unfolded, unfolded, inductionHypothesis, List.length_cons, pow_succ]
      ring

theorem ofLe_lt (bytes : Bytes) : ofLe bytes < 256 ^ bytes.length := by
  induction bytes with
  | nil => decide
  | cons byte bytes inductionHypothesis =>
      have small := byte.toNat_lt
      change byte.toNat + 256 * ofLe bytes < 256 ^ (bytes.length + 1)
      rw [pow_succ]
      omega

/-! ## Calls and loops -/

/-- The bytes between the two ends of a stream, and the number of calls made at this end. -/
structure Wire where
  bytes : Bytes := []
  calls : Nat := 0
  deriving DecidableEq

/-- How many of `n` bytes a call moves: what the system chooses for it, at least one. -/
def moved (splits : Nat → Nat) (calls n : Nat) : Nat :=
  min n (max 1 (splits calls))

theorem moved_le (splits : Nat → Nat) (calls n : Nat) : moved splits calls n ≤ n :=
  Nat.min_le_left _ _

theorem moved_pos {n : Nat} (splits : Nat → Nat) (calls : Nat) (some : 0 < n) :
    0 < moved splits calls n := by
  unfold moved
  omega

/-- One call that reads at most `n` bytes; it gets none at the end of the stream. -/
def Wire.read (splits : Nat → Nat) (n : Nat) (wire : Wire) : Bytes × Wire :=
  let count := moved splits wire.calls (min n wire.bytes.length)
  (wire.bytes.take count, ⟨wire.bytes.drop count, wire.calls + 1⟩)

theorem Wire.length_read (splits : Nat → Nat) (n : Nat) (wire : Wire) :
    (wire.read splits n).1.length = moved splits wire.calls (min n wire.bytes.length) :=
  List.length_take_of_le ((moved_le _ _ _).trans (Nat.min_le_right _ _))

theorem Wire.read_append (splits : Nat → Nat) (n : Nat) (wire : Wire) :
    (wire.read splits n).1 ++ (wire.read splits n).2.bytes = wire.bytes :=
  List.take_append_drop _ _

/-- What a call gets of a stream that begins with as many bytes as it asks for. -/
theorem Wire.read_append_left (splits : Nat → Nat) (front rest : Bytes) (calls : Nat) :
    Wire.read splits front.length ⟨front ++ rest, calls⟩ =
      (front.take (moved splits calls front.length),
        ⟨front.drop (moved splits calls front.length) ++ rest, calls + 1⟩) := by
  have inside := moved_le splits calls front.length
  have some : min front.length (front ++ rest).length = front.length := by
    rw [List.length_append]
    omega
  rw [Wire.read, some, List.take_append_of_le_length inside, List.drop_append_of_le_length inside]

/-- A call gets all it asks for when the system gives that much. -/
theorem Wire.read_whole {splits : Nat → Nat} {front : Bytes} {calls : Nat}
    (given : front.length ≤ splits calls) (rest : Bytes) :
    Wire.read splits front.length ⟨front ++ rest, calls⟩ = (front, ⟨rest, calls + 1⟩) := by
  have count : moved splits calls front.length = front.length := by
    unfold moved
    omega
  rw [Wire.read_append_left, count, List.take_length, List.drop_length, List.nil_append]

/-- One call that writes some of the bytes it is given, and how many. -/
def Wire.write (splits : Nat → Nat) (buf : Bytes) (wire : Wire) : Nat × Wire :=
  let count := moved splits wire.calls buf.length
  (count, ⟨wire.bytes ++ buf.take count, wire.calls + 1⟩)

section

variable (admits : Nat → Bool) (splits : Nat → Nat)

/-- Read until `n` bytes are there.  A call for a number of bytes that is not admitted fails, and
so does one that gets nothing.  Each call gets a byte, so `n` bounds the number of calls. -/
def readLoop : Nat → Nat → Wire → Option (Bytes × Wire)
  | _, 0, wire => some ([], wire)
  | 0, _ + 1, _ => none
  | bound + 1, n + 1, wire =>
      if admits (n + 1) then
        match wire.read splits (n + 1) with
        | ([], _) => none
        | (piece, wire') =>
            (readLoop bound (n + 1 - piece.length) wire').map fun result =>
              (piece ++ result.1, result.2)
      else none

/-- Write until nothing is left, with the same conditions. -/
def writeLoop : Nat → Bytes → Wire → Bool × Wire
  | _, [], wire => (true, wire)
  | 0, _ :: _, wire => (false, wire)
  | bound + 1, byte :: buf, wire =>
      if admits (byte :: buf).length then
        match wire.write splits (byte :: buf) with
        | (0, wire') => (false, wire')
        | (count, wire') => writeLoop bound ((byte :: buf).drop count) wire'
      else (false, wire)

def readAll (n : Nat) (wire : Wire) : Option (Bytes × Wire) :=
  readLoop admits splits n n wire

def writeAll (buf : Bytes) (wire : Wire) : Bool × Wire :=
  writeLoop admits splits buf.length buf wire

end

section

variable {admits : Nat → Bool} {splits : Nat → Nat}

/-- The loop gets the bytes it is asked for when they are there. -/
theorem readLoop_of_le {bound n : Nat} {wire : Wire} (enough : n ≤ bound)
    (admitted : ∀ k, 0 < k → k ≤ n → admits k = true) (there : n ≤ wire.bytes.length) :
    ∃ calls, readLoop admits splits bound n wire =
      some (wire.bytes.take n, ⟨wire.bytes.drop n, calls⟩) := by
  induction bound generalizing n wire with
  | zero =>
      obtain rfl : n = 0 := by omega
      exact ⟨wire.calls, rfl⟩
  | succ bound inductionHypothesis =>
      cases n with
      | zero => exact ⟨wire.calls, rfl⟩
      | succ n =>
          rw [readLoop, if_pos (admitted _ (by omega) (by omega)), Wire.read,
            Nat.min_eq_left there]
          have positive := moved_pos splits wire.calls n.succ_pos
          have atMost := moved_le splits wire.calls (n + 1)
          revert positive atMost
          generalize moved splits wire.calls (n + 1) = count
          intro positive atMost
          have size : (wire.bytes.take count).length = count :=
            List.length_take_of_le (atMost.trans there)
          obtain ⟨calls, rest⟩ := @inductionHypothesis (n + 1 - count)
            ⟨wire.bytes.drop count, wire.calls + 1⟩ (by omega)
            (fun k some few => admitted k some (by omega))
            (by rw [List.length_drop]; omega)
          refine ⟨calls, ?_⟩
          split
          · rename_i nothing
            have empty : wire.bytes.take count = [] := congrArg Prod.fst nothing
            rw [empty] at size
            simp only [List.length_nil] at size
            omega
          · rename_i piece wire' _ read
            obtain ⟨rfl, rfl⟩ := Prod.mk.inj read
            rw [size, rest, Option.map_some, List.drop_drop, Nat.add_sub_cancel' atMost,
              ← List.take_add, Nat.add_sub_cancel' atMost]

/-- The loop gets nothing else. -/
theorem readLoop_some {bound n : Nat} {wire wire' : Wire} {got : Bytes}
    (ran : readLoop admits splits bound n wire = some (got, wire')) :
    n ≤ wire.bytes.length ∧ got = wire.bytes.take n ∧ wire'.bytes = wire.bytes.drop n := by
  induction bound generalizing n wire wire' got with
  | zero =>
      cases n with
      | zero =>
          cases ran
          exact ⟨Nat.zero_le _, rfl, rfl⟩
      | succ n => cases ran
  | succ bound inductionHypothesis =>
      cases n with
      | zero =>
          cases ran
          exact ⟨Nat.zero_le _, rfl, rfl⟩
      | succ n =>
          rw [readLoop] at ran
          split at ran
          · split at ran
            · cases ran
            · rename_i piece middle _ read
              obtain ⟨⟨rest, last⟩, later, same⟩ := Option.map_eq_some_iff.mp ran
              obtain ⟨rfl, rfl⟩ := Prod.mk.inj same
              obtain ⟨rfl, rfl⟩ := Prod.mk.inj read
              have atMost := moved_le splits wire.calls (min (n + 1) wire.bytes.length)
              revert later atMost
              generalize moved splits wire.calls (min (n + 1) wire.bytes.length) = count
              intro later atMost
              have size : (wire.bytes.take count).length = count :=
                List.length_take_of_le (atMost.trans (Nat.min_le_right _ _))
              rw [size] at later
              obtain ⟨there, rfl, left⟩ := inductionHypothesis later
              rw [List.length_drop] at there
              have covered : count + (n + 1 - count) = n + 1 := by omega
              refine ⟨by omega, ?_, ?_⟩
              · rw [← List.take_add, covered]
              · rw [left, List.drop_drop, covered]
          · cases ran

theorem readAll_of_le {n : Nat} {wire : Wire}
    (admitted : ∀ k, 0 < k → k ≤ n → admits k = true) (there : n ≤ wire.bytes.length) :
    ∃ calls, readAll admits splits n wire =
      some (wire.bytes.take n, ⟨wire.bytes.drop n, calls⟩) :=
  readLoop_of_le le_rfl admitted there

theorem readAll_some {n : Nat} {wire wire' : Wire} {got : Bytes}
    (ran : readAll admits splits n wire = some (got, wire')) :
    n ≤ wire.bytes.length ∧ got = wire.bytes.take n ∧ wire'.bytes = wire.bytes.drop n :=
  readLoop_some ran

/-- The loop writes all bytes. -/
theorem writeLoop_eq {bound : Nat} {buf : Bytes} {wire : Wire} (enough : buf.length ≤ bound)
    (admitted : ∀ k, 0 < k → k ≤ buf.length → admits k = true) :
    ∃ calls, writeLoop admits splits bound buf wire = (true, ⟨wire.bytes ++ buf, calls⟩) := by
  induction bound generalizing buf wire with
  | zero =>
      obtain rfl : buf = [] := List.length_eq_zero_iff.mp (by omega)
      exact ⟨wire.calls, by simp [writeLoop]⟩
  | succ bound inductionHypothesis =>
      cases buf with
      | nil => exact ⟨wire.calls, by simp [writeLoop]⟩
      | cons byte buf =>
          have nonempty : 0 < (byte :: buf).length := Nat.succ_pos _
          rw [writeLoop, if_pos (admitted _ nonempty le_rfl), Wire.write]
          have positive := moved_pos splits wire.calls nonempty
          revert positive
          generalize moved splits wire.calls (byte :: buf).length = count
          intro positive
          obtain ⟨calls, rest⟩ := @inductionHypothesis ((byte :: buf).drop count)
            ⟨wire.bytes ++ (byte :: buf).take count, wire.calls + 1⟩
            (by rw [List.length_drop]; omega)
            (fun k some few => admitted k some (by rw [List.length_drop] at few; omega))
          refine ⟨calls, ?_⟩
          split
          · rename_i nothing
            exact absurd (congrArg Prod.fst nothing) positive.ne'
          · rename_i written
            obtain ⟨rfl, rfl⟩ := Prod.mk.inj written
            rw [rest, List.append_assoc, List.take_append_drop]

theorem writeAll_eq {buf : Bytes} {wire : Wire}
    (admitted : ∀ k, 0 < k → k ≤ buf.length → admits k = true) :
    ∃ calls, writeAll admits splits buf wire = (true, ⟨wire.bytes ++ buf, calls⟩) :=
  writeLoop_eq le_rfl admitted

/-- The loop only adds to the stream. -/
theorem writeLoop_appends (bound : Nat) (buf : Bytes) (wire : Wire) :
    ∃ more, (writeLoop admits splits bound buf wire).2.bytes = wire.bytes ++ more := by
  induction bound generalizing buf wire with
  | zero => cases buf <;> exact ⟨[], (List.append_nil _).symm⟩
  | succ bound inductionHypothesis =>
      cases buf with
      | nil => exact ⟨[], (List.append_nil _).symm⟩
      | cons byte buf =>
          rw [writeLoop]
          split
          · split
            · rename_i written
              obtain ⟨_, rfl⟩ := Prod.mk.inj written
              exact ⟨_, rfl⟩
            · rename_i written
              obtain ⟨rfl, rfl⟩ := Prod.mk.inj written
              obtain ⟨more, rest⟩ := inductionHypothesis ((byte :: buf).drop _) _
              exact ⟨_, rest.trans (List.append_assoc _ _ _)⟩
          · exact ⟨[], (List.append_nil _).symm⟩

end

/-! ## Messages -/

/-- A message with its length in front. -/
def frame (m : Bytes) : Bytes :=
  le32 m.length ++ m

theorem length_frame (m : Bytes) : (frame m).length = m.length + 4 := by
  rw [frame, List.length_append, length_le32, Nat.add_comm]

/-- Write a message: its length, and as many of its bytes as the length says. -/
def writeMessage (admits : Nat → Bool) (splits : Nat → Nat) (m : Bytes) (wire : Wire) :
    Bool × Wire :=
  match writeAll admits splits (le32 m.length) wire with
  | (false, wire) => (false, wire)
  | (true, wire) => writeAll admits splits (m.take (m.length % 2 ^ 32)) wire

/-- Read a message whose length is accepted. -/
def readMessage (admits accepts : Nat → Bool) (splits : Nat → Nat) (wire : Wire) :
    Option (Bytes × Wire) :=
  (readAll admits splits 4 wire).bind fun header =>
    if accepts (ofLe header.1) then readAll admits splits (ofLe header.1) header.2 else none

/-- Read messages until one cannot be read.  The result says whether that was so, and not that
the bound on the number of messages was reached. -/
def receiveAll (receive : Wire → Option (Bytes × Wire)) : Nat → Wire → List Bytes × Bool
  | 0, _ => ([], false)
  | bound + 1, wire =>
      match receive wire with
      | none => ([], true)
      | some (m, wire') =>
          let rest := receiveAll receive bound wire'
          (m :: rest.1, rest.2)

/-- The messages that the first `cut` bytes of their frames hold whole. -/
def contained : Nat → List Bytes → List Bytes
  | _, [] => []
  | cut, m :: msgs =>
      if (frame m).length ≤ cut then m :: contained (cut - (frame m).length) msgs else []

theorem contained_of_le {cut : Nat} {msgs : List Bytes}
    (whole : (msgs.flatMap frame).length ≤ cut) : contained cut msgs = msgs := by
  induction msgs generalizing cut with
  | nil => rfl
  | cons m msgs inductionHypothesis =>
      rw [List.flatMap_cons, List.length_append] at whole
      rw [contained, if_pos (by omega), inductionHypothesis (by omega)]

section

variable {admits accepts : Nat → Bool} {splits : Nat → Nat}

theorem writeMessage_bytes {m : Bytes} {wire : Wire}
    (admitted : ∀ k, 0 < k → k ≤ max 4 m.length → admits k = true) :
    ∃ calls, writeMessage admits splits m wire =
      (true, ⟨wire.bytes ++ (le32 m.length ++ m.take (m.length % 2 ^ 32)), calls⟩) := by
  obtain ⟨headerCalls, header⟩ := @writeAll_eq admits splits (le32 m.length) wire
    fun k some few => admitted k some (few.trans (le_max_left _ _))
  obtain ⟨calls, payload⟩ := @writeAll_eq admits splits (m.take (m.length % 2 ^ 32))
    ⟨wire.bytes ++ le32 m.length, headerCalls⟩
    fun k some few => admitted k some
      (few.trans ((List.length_take_le' _ _).trans (le_max_right _ _)))
  refine ⟨calls, ?_⟩
  rw [writeMessage, header]
  dsimp only
  rw [payload, List.append_assoc]

theorem writeMessage_eq {m : Bytes} {wire : Wire} (small : m.length < 2 ^ 32)
    (admitted : ∀ k, 0 < k → k ≤ max 4 m.length → admits k = true) :
    ∃ calls, writeMessage admits splits m wire = (true, ⟨wire.bytes ++ frame m, calls⟩) := by
  obtain ⟨calls, written⟩ := @writeMessage_bytes admits splits m wire admitted
  rw [Nat.mod_eq_of_lt small, List.take_length] at written
  exact ⟨calls, written⟩

/-- A message that is in front of the stream is read. -/
theorem readMessage_frame {m rest : Bytes} {calls : Nat} (small : m.length < 2 ^ 32)
    (accepted : accepts m.length = true)
    (admitted : ∀ k, 0 < k → k ≤ max 4 m.length → admits k = true) :
    ∃ calls', readMessage admits accepts splits ⟨frame m ++ rest, calls⟩ =
      some (m, ⟨rest, calls'⟩) := by
  have order : frame m ++ rest = le32 m.length ++ (m ++ rest) := List.append_assoc _ _ _
  obtain ⟨headerCalls, header⟩ := @readAll_of_le admits splits 4 ⟨frame m ++ rest, calls⟩
    (fun k some few => admitted k some (few.trans (le_max_left _ _)))
    (by dsimp only; rw [List.length_append, length_frame]; omega)
  dsimp only at header
  rw [order, ← length_le32 m.length, List.take_left, List.drop_left] at header
  obtain ⟨calls', payload⟩ := @readAll_of_le admits splits m.length ⟨m ++ rest, headerCalls⟩
    (fun k some few => admitted k some (few.trans (le_max_right _ _)))
    (by dsimp only; rw [List.length_append]; omega)
  dsimp only at payload
  rw [List.take_left, List.drop_left] at payload
  refine ⟨calls', ?_⟩
  rw [readMessage, order, ← length_le32 m.length, header, Option.bind_some]
  dsimp only
  rw [ofLe_le32, Nat.mod_eq_of_lt small, if_pos accepted, payload]

/-- What has been read when a message is read from a stream that begins with a length. -/
theorem readMessage_some {n : Nat} {rest m : Bytes} {wire' : Wire} {cut calls : Nat}
    (small : n < 2 ^ 32)
    (ran : readMessage admits accepts splits ⟨(le32 n ++ rest).take cut, calls⟩ =
      some (m, wire')) : accepts n = true ∧ n + 4 ≤ cut := by
  obtain ⟨⟨header, middle⟩, first, second⟩ := Option.bind_eq_some_iff.mp ran
  obtain ⟨there, got, left⟩ := readAll_some first
  dsimp only at there got left second
  rw [List.length_take] at there
  have length : ofLe header = n := by
    rw [got, List.take_take, Nat.min_eq_left (by omega), ← length_le32 n, List.take_left,
      ofLe_le32, Nat.mod_eq_of_lt small]
  rw [length] at second
  split at second
  · rename_i accepted
    obtain ⟨filled, _, _⟩ := readAll_some second
    rw [left, List.length_drop, List.length_take] at filled
    exact ⟨accepted, by omega⟩
  · cases second

/-- No message is read when the stream ends before the end of the first one. -/
theorem readMessage_cut {m : Bytes} {cut calls : Nat} (small : m.length < 2 ^ 32)
    (short : cut < (frame m).length) :
    readMessage admits accepts splits ⟨(frame m).take cut, calls⟩ = none := by
  rw [Option.eq_none_iff_forall_ne_some]
  rintro ⟨got, wire'⟩ ran
  have filled := (readMessage_some small ran).2
  rw [length_frame] at short
  omega

/-- No message is read when the length is not accepted. -/
theorem readMessage_refused {n : Nat} {rest : Bytes} {cut calls : Nat} (small : n < 2 ^ 32)
    (refused : accepts n = false) :
    readMessage admits accepts splits ⟨(le32 n ++ rest).take cut, calls⟩ = none := by
  rw [Option.eq_none_iff_forall_ne_some]
  rintro ⟨got, wire'⟩ ran
  have accepted := (readMessage_some small ran).1
  rw [refused] at accepted
  cases accepted

end

/-! ## Whole streams -/

/-- A message is read when it is there whole, with nothing behind it, and not otherwise. -/
structure Receives (receive : Wire → Option (Bytes × Wire)) (m : Bytes) : Prop where
  whole : ∀ rest calls, ∃ calls', receive ⟨frame m ++ rest, calls⟩ = some (m, ⟨rest, calls'⟩)
  part : ∀ cut calls, cut < (frame m).length → receive ⟨(frame m).take cut, calls⟩ = none

/-- From the frames of messages, cut off anywhere, the messages that are there whole are read,
and the reader stops; it also stops at what no message can be read from. -/
theorem receiveAll_frames {receive : Wire → Option (Bytes × Wire)} {msgs : List Bytes}
    {rest : Bytes} (receives : ∀ m ∈ msgs, Receives receive m)
    (stops : ∀ cut calls, receive ⟨rest.take cut, calls⟩ = none) (cut calls : Nat) {bound : Nat}
    (enough : msgs.length < bound) :
    receiveAll receive bound ⟨(msgs.flatMap frame ++ rest).take cut, calls⟩ =
      (contained cut msgs, true) := by
  induction msgs generalizing cut calls bound with
  | nil =>
      cases bound with
      | zero => omega
      | succ bound =>
          rw [receiveAll, List.flatMap_nil, List.nil_append, stops]
          rfl
  | cons m msgs inductionHypothesis =>
      cases bound with
      | zero => omega
      | succ bound =>
          obtain ⟨whole, part⟩ := receives m List.mem_cons_self
          rw [receiveAll, List.flatMap_cons, List.append_assoc, contained]
          by_cases fits : (frame m).length ≤ cut
          · obtain ⟨calls', read⟩ :=
              whole ((msgs.flatMap frame ++ rest).take (cut - (frame m).length)) calls
            rw [if_pos fits, List.take_append, List.take_of_length_le fits, read]
            dsimp only
            rw [inductionHypothesis (fun other member => receives other
              (List.mem_cons_of_mem _ member)) _ _ (by simpa using enough)]
          · have short : cut < (frame m).length := Nat.lt_of_not_le fits
            rw [if_neg fits, List.take_append_of_le_length short.le, part _ _ short]

end WinInspect.Framing
