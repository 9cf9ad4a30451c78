import WinInspect.Core.Base64
import WinInspect.Data.Rfc4648
import Mathlib.Algebra.Order.Floor.Div

/-!
# Base64 and its standard

The decoder and the encoder of `base64.hpp` against RFC 4648.  Both stream through an
accumulator that is never masked, but every use takes at most 13 low bits of it, and those
are determined by the last few characters or bytes.  At the start of a group the accumulator
may therefore hold anything, which is the induction hypothesis of every lemma on groups.
-/

namespace WinInspect.Base64

open Rfc4648 (symbol value? sextets octets wholeOctets leading)

theorem alphabet_eq : alphabet = (List.range 64).map symbol := by
  decide

theorem getD_alphabet {value : Nat} (small : value < 64) :
    alphabet.getD value 0 = symbol value := by
  simp [alphabet_eq, small]

theorem table_symbol : ∀ value < 64, table (symbol value) = some value := by
  decide +kernel

theorem table_eq_value? (c : UInt8) : table c = value? c := by
  cases found : value? c with
  | some value =>
      rw [← Rfc4648.symbol_of_value? found]
      exact table_symbol value (Rfc4648.value?_lt found)
  | none =>
      have foreign : c ∉ alphabet := by
        rw [alphabet_eq, List.mem_map]
        rintro ⟨value, member, rfl⟩
        rw [Rfc4648.value?_symbol (List.mem_range.mp member)] at found
        cases found
      have beyond : alphabet.idxOf c = 64 := List.idxOf_eq_length foreign
      unfold table
      dsimp only
      rw [beyond, if_neg (lt_irrefl 64)]

/-! ## Decoding -/

/-- The loop of `decode` on the values of the characters. -/
def decodeValues (val : Nat) (valb : Int) : List Nat → Bytes
  | [] => []
  | t :: rest =>
      let val := (val * 2 ^ 6) % 2 ^ 32 + t
      let valb := valb + 6
      if 0 ≤ valb then
        UInt8.ofNat (val / 2 ^ valb.toNat % 256) :: decodeValues val (valb - 8) rest
      else decodeValues val valb rest

theorem decodeLoop_eq_decodeValues (val : Nat) (valb : Int) (text : Bytes) :
    decodeLoop val valb text = decodeValues val valb (leading text) := by
  induction text generalizing val valb with
  | nil => rfl
  | cons c rest inductionHypothesis =>
      rw [decodeLoop, leading, table_eq_value?]
      cases value? c with
      | none => rfl
      | some t =>
          rw [decodeValues]
          dsimp only
          split <;> rw [inductionHypothesis]

section

variable {val t : Nat} {valb : Int} {rest : List Nat}

theorem decodeValues_of_neg (early : valb + 6 < 0) :
    decodeValues val valb (t :: rest) =
      decodeValues (val * 2 ^ 6 % 2 ^ 32 + t) (valb + 6) rest := by
  rw [decodeValues, if_neg (by omega)]

theorem decodeValues_of_eq {shift : Nat} (ready : valb + 6 = shift) :
    decodeValues val valb (t :: rest) =
      UInt8.ofNat ((val * 2 ^ 6 % 2 ^ 32 + t) / 2 ^ shift % 256) ::
        decodeValues (val * 2 ^ 6 % 2 ^ 32 + t) (shift - 8) rest := by
  rw [decodeValues, ready, if_pos (by omega), Int.toNat_natCast]

end

/-- From the start of a group on, the loop gives the octets that the sextets fill. -/
theorem decodeValues_eq_wholeOctets {values : List Nat} (small : ∀ value ∈ values, value < 64)
    (val : Nat) : decodeValues val (-8) values = wholeOctets values := by
  have atFour : (-8 + 6 : Int) + 6 = (4 : Nat) := by decide
  have atTwo : ((4 : Nat) : Int) - 8 + 6 = (2 : Nat) := by decide
  have atZero : ((2 : Nat) : Int) - 8 + 6 = (0 : Nat) := by decide
  induction values using Rfc4648.wholeOctets.induct generalizing val with
  | case1 w x y z rest inductionHypothesis =>
      simp only [List.mem_cons, forall_eq_or_imp] at small
      obtain ⟨_, _, _, _, others⟩ := small
      rw [decodeValues_of_neg (by decide), decodeValues_of_eq atFour, decodeValues_of_eq atTwo,
        decodeValues_of_eq atZero]
      change _ :: _ :: _ :: decodeValues _ (-8) rest = _
      rw [inductionHypothesis others]
      simp only [wholeOctets, octets, List.cons_append, List.nil_append, List.cons.injEq, and_true]
      refine ⟨Rfc4648.ofNat_congr ?_, Rfc4648.ofNat_congr ?_, Rfc4648.ofNat_congr ?_⟩ <;> omega
  | case2 w x y =>
      simp only [List.mem_cons, forall_eq_or_imp] at small
      rw [decodeValues_of_neg (by decide), decodeValues_of_eq atFour, decodeValues_of_eq atTwo,
        decodeValues]
      simp only [wholeOctets, octets, List.take_succ_cons, List.take_zero, List.cons.injEq,
        and_true]
      refine ⟨Rfc4648.ofNat_congr ?_, Rfc4648.ofNat_congr ?_⟩ <;> omega
  | case3 w x =>
      simp only [List.mem_cons, forall_eq_or_imp] at small
      rw [decodeValues_of_neg (by decide), decodeValues_of_eq atFour, decodeValues]
      simp only [wholeOctets, octets, List.take_succ_cons, List.take_zero, List.cons.injEq,
        and_true]
      exact Rfc4648.ofNat_congr (by omega)
  | case4 values four three two =>
      rcases values with _ | ⟨w, _ | ⟨x, _ | ⟨y, _ | ⟨z, rest⟩⟩⟩⟩
      · rfl
      · rw [decodeValues_of_neg (by decide), decodeValues, wholeOctets.eq_def]
      · exact absurd rfl (two w x)
      · exact absurd rfl (three w x y)
      · exact absurd rfl (four w x y z rest)

/-- `decode` gives the octets of the characters in front of the first foreign one. -/
theorem decode_eq_wholeOctets (text : Bytes) : decode text = wholeOctets (leading text) := by
  rw [decode, decodeLoop_eq_decodeValues, decodeValues_eq_wholeOctets fun _ => Rfc4648.leading_lt]

/-! ## Encoding -/

theorem symbolAt_eq (val valb : Nat) : symbolAt val valb = symbol (val / 2 ^ valb % 64) :=
  getD_alphabet (Nat.mod_lt _ (by decide))

section

variable (val : Nat) (c : UInt8) (rest : Bytes)

theorem encodeLoop_first :
    encodeLoop val (-6) (c :: rest) =
      symbolAt (val * 2 ^ 8 % 2 ^ 32 + c.toNat) 2 ::
        encodeLoop (val * 2 ^ 8 % 2 ^ 32 + c.toNat) (-4) rest :=
  rfl

theorem encodeLoop_second :
    encodeLoop val (-4) (c :: rest) =
      symbolAt (val * 2 ^ 8 % 2 ^ 32 + c.toNat) 4 ::
        encodeLoop (val * 2 ^ 8 % 2 ^ 32 + c.toNat) (-2) rest :=
  rfl

theorem encodeLoop_third :
    encodeLoop val (-2) (c :: rest) =
      symbolAt (val * 2 ^ 8 % 2 ^ 32 + c.toNat) 6 ::
        symbolAt (val * 2 ^ 8 % 2 ^ 32 + c.toNat) 0 ::
          encodeLoop (val * 2 ^ 8 % 2 ^ 32 + c.toNat) (-6) rest :=
  rfl

end

theorem pad_append {front : Bytes} (whole : front.length % 4 = 0) (out : Bytes) :
    pad (front ++ out) = front ++ pad out := by
  have same : (front ++ out).length % 4 = out.length % 4 := by
    rw [List.length_append]
    omega
  rw [pad, pad, same, List.append_assoc]

/-- Three bytes are four characters, whatever the accumulator held before. -/
theorem encodeLoop_group (val : Nat) (a b c : UInt8) (rest : Bytes) :
    ∃ val', encodeLoop val (-6) (a :: b :: c :: rest) =
      (sextets (Rfc4648.group a b c)).map symbol ++ encodeLoop val' (-6) rest := by
  have first := a.toNat_lt
  have second := b.toNat_lt
  have third := c.toNat_lt
  refine ⟨((val * 2 ^ 8 % 2 ^ 32 + a.toNat) * 2 ^ 8 % 2 ^ 32 + b.toNat) * 2 ^ 8 % 2 ^ 32 + c.toNat,
    ?_⟩
  rw [encodeLoop_first, encodeLoop_second, encodeLoop_third]
  simp only [symbolAt_eq, sextets, Rfc4648.group, List.map_cons, List.map_nil, List.cons_append,
    List.nil_append, List.cons.injEq, and_true]
  refine ⟨congrArg symbol ?_, congrArg symbol ?_, congrArg symbol ?_, congrArg symbol ?_⟩ <;> omega

/-- From the start of a group on, the padded output of the loop is the encoding. -/
theorem pad_encodeLoop (val : Nat) (bytes : Bytes) :
    pad (encodeLoop val (-6) bytes) = Rfc4648.encode bytes := by
  induction bytes using Rfc4648.encode.induct generalizing val with
  | case1 a b c rest inductionHypothesis =>
      obtain ⟨val', shape⟩ := encodeLoop_group val a b c rest
      rw [shape, pad_append (by simp [sextets]), inductionHypothesis, Rfc4648.encode]
  | case2 a b =>
      have first := a.toNat_lt
      have second := b.toNat_lt
      have tail : ∀ val, encodeLoop val (-2) [] = [symbolAt (val * 2 ^ 8 % 2 ^ 32) 6] :=
        fun _ => rfl
      rw [encodeLoop_first, encodeLoop_second, tail]
      simp only [pad, Rfc4648.encode, Rfc4648.group, sextets, symbolAt_eq, List.length_cons,
        List.length_nil, List.take_succ_cons, List.take_zero, List.map_cons, List.map_nil]
      change [_, _, _, Rfc4648.padding] = [_, _, _, Rfc4648.padding]
      simp only [List.cons.injEq, and_true, UInt8.toNat_zero, Nat.add_zero]
      refine ⟨congrArg symbol ?_, congrArg symbol ?_, congrArg symbol ?_⟩ <;> omega
  | case3 a =>
      have first := a.toNat_lt
      have tail : ∀ val, encodeLoop val (-4) [] = [symbolAt (val * 2 ^ 8 % 2 ^ 32) 4] :=
        fun _ => rfl
      rw [encodeLoop_first, tail]
      simp only [pad, Rfc4648.encode, Rfc4648.group, sextets, symbolAt_eq, List.length_cons,
        List.length_nil, List.take_succ_cons, List.take_zero, List.map_cons, List.map_nil]
      change [_, _, Rfc4648.padding, Rfc4648.padding] = [_, _, Rfc4648.padding, Rfc4648.padding]
      simp only [List.cons.injEq, and_true, UInt8.toNat_zero, Nat.add_zero]
      refine ⟨congrArg symbol ?_, congrArg symbol ?_⟩ <;> omega
  | case4 => simp [encodeLoop, pad, Rfc4648.encode]

theorem encode_eq_rfc4648 (bytes : Bytes) : encode bytes = Rfc4648.encode bytes :=
  pad_encodeLoop 0 bytes

/-! ## Machine words -/

/-- The low bits of an arithmetic shift are those of a logical one. -/
theorem setWidth_sshiftRight {val : BitVec 32} {shift bits : Nat} (fits : shift + bits ≤ 32) :
    (val.sshiftRight shift).setWidth bits = (val >>> shift).setWidth bits := by
  apply BitVec.eq_of_getLsbD_eq
  intro i below
  have inside : shift + i < 32 := by omega
  have outer : ¬ 32 ≤ i := by omega
  rw [BitVec.getLsbD_setWidth, BitVec.getLsbD_setWidth, BitVec.getLsbD_sshiftRight,
    BitVec.getLsbD_ushiftRight, if_pos inside, decide_eq_false outer, Bool.not_false,
    Bool.true_and]

/-- A masked shift of the accumulator. -/
theorem toNat_sshiftRight_and {val : BitVec 32} {shift bits : Nat} (fits : shift + bits ≤ 32) :
    (val.sshiftRight shift).toNat &&& (2 ^ bits - 1) = val.toNat / 2 ^ shift % 2 ^ bits := by
  have same := congrArg BitVec.toNat (@setWidth_sshiftRight val shift bits fits)
  rwa [BitVec.toNat_setWidth, BitVec.toNat_setWidth, BitVec.toNat_ushiftRight,
    Nat.shiftRight_eq_div_pow, ← Nat.and_two_pow_sub_one_eq_mod] at same

theorem symbolAtWord_eq {val : BitVec 32} {valb : Nat} (small : valb ≤ 26) :
    symbolAtWord val valb = symbolAt val.toNat valb := by
  have index : (val.sshiftRight valb &&& 0x3F#32).toNat = val.toNat / 2 ^ valb % 64 := by
    rw [BitVec.toNat_and]
    exact @toNat_sshiftRight_and val valb 6 (by omega)
  rw [symbolAtWord, symbolAt, index]

theorem ofBitVec_and_eq {val : BitVec 32} {valb : Nat} (small : valb ≤ 24) :
    UInt8.ofBitVec ((val.sshiftRight valb &&& 0xFF#32).setWidth 8) =
      UInt8.ofNat (val.toNat / 2 ^ valb % 256) := by
  have byte : (val.sshiftRight valb &&& 0xFF#32).toNat = val.toNat / 2 ^ valb % 256 := by
    rw [BitVec.toNat_and]
    exact @toNat_sshiftRight_and val valb 8 (by omega)
  rw [← UInt8.toNat_inj, UInt8.toNat_ofNat', UInt8.toNat_ofBitVec, BitVec.toNat_setWidth, byte]

/-- A shifted accumulator with new low bits. -/
theorem toNat_shiftLeft_add {val low : BitVec 32} {width : Nat} (short : width ≤ 8)
    (fits : low.toNat < 2 ^ width) :
    (val <<< width + low).toNat = val.toNat * 2 ^ width % 2 ^ 32 + low.toNat := by
  rw [BitVec.toNat_add, BitVec.toNat_shiftLeft, Nat.shiftLeft_eq]
  interval_cases width <;> omega

theorem table_lt {c : UInt8} {t : Nat} (found : table c = some t) : t < 64 :=
  Rfc4648.value?_lt (table_eq_value? c ▸ found)

/-- While fewer than eight bits wait, the loop on words is the loop on numbers. -/
theorem decodeWords_eq {valb : Int} (waiting : valb < 0) (val : BitVec 32) (text : Bytes) :
    decodeWords val valb text = decodeLoop val.toNat valb text := by
  induction text generalizing val valb with
  | nil => rfl
  | cons c rest inductionHypothesis =>
      rw [decodeWords, decodeLoop]
      cases found : table c with
      | none => rfl
      | some t =>
          have small := table_lt found
          have low : (BitVec.ofNat 32 t).toNat = t := by
            rw [BitVec.toNat_ofNat]
            omega
          have next : (val <<< 6 + BitVec.ofNat 32 t).toNat = val.toNat * 2 ^ 6 % 2 ^ 32 + t := by
            rw [toNat_shiftLeft_add (by decide) (by rw [low]; exact small), low]
          dsimp only
          split
          · rw [inductionHypothesis (by omega), ofBitVec_and_eq (by omega), next]
          · rw [inductionHypothesis (by omega), next]

theorem decode32_eq (text : Bytes) : decode32 text = decode text :=
  decodeWords_eq (by decide) 0 text

theorem emitWords_eq {valb : Nat} (small : valb ≤ 26) (val : BitVec 32) :
    emitWords val valb = emit val.toNat valb := by
  induction valb using Nat.strong_induction_on with
  | h valb inductionHypothesis =>
      by_cases more : 6 ≤ valb
      · obtain ⟨less, rfl⟩ := Nat.exists_eq_add_of_le' more
        rw [emitWords, emit, inductionHypothesis less (by omega) (by omega),
          symbolAtWord_eq small]
      · have few : valb < 6 := by omega
        interval_cases valb <;> simp only [emitWords, emit, symbolAtWord_eq small]

theorem emit_snd_neg (val valb : Nat) : (emit val valb).2 < 0 := by
  induction valb using Nat.strong_induction_on with
  | h valb inductionHypothesis =>
      by_cases more : 6 ≤ valb
      · obtain ⟨less, rfl⟩ := Nat.exists_eq_add_of_le' more
        rw [emit]
        exact inductionHypothesis less (by omega)
      · have few : valb < 6 := by omega
        interval_cases valb <;> simp [emit]

/-- Between two bytes, the loop on words is the loop on numbers. -/
theorem encodeWords_eq {valb : Int} (waiting : valb < 0) (val : BitVec 32) (bytes : Bytes) :
    encodeWords val valb bytes = encodeLoop val.toNat valb bytes := by
  induction bytes generalizing val valb with
  | nil =>
      have shifted : (val <<< 8).toNat = val.toNat * 2 ^ 8 % 2 ^ 32 := by
        rw [BitVec.toNat_shiftLeft, Nat.shiftLeft_eq]
      rw [encodeWords, encodeLoop, symbolAtWord_eq (by omega), shifted]
  | cons c rest inductionHypothesis =>
      have low : (c.toBitVec.setWidth 32).toNat = c.toNat := by
        have := c.toNat_lt
        rw [BitVec.toNat_setWidth, UInt8.toNat_toBitVec]
        omega
      have next : (val <<< 8 + c.toBitVec.setWidth 32).toNat =
          val.toNat * 2 ^ 8 % 2 ^ 32 + c.toNat := by
        rw [toNat_shiftLeft_add (by decide) (by rw [low]; exact c.toNat_lt), low]
      rw [encodeWords, encodeLoop, emitWords_eq (by omega), next]
      have negative : (if 0 ≤ valb + 8 then
          emit (val.toNat * 2 ^ 8 % 2 ^ 32 + c.toNat) (valb + 8).toNat
          else ([], valb + 8)).2 < 0 := by
        split
        · exact emit_snd_neg _ _
        · dsimp only
          omega
      rw [inductionHypothesis negative, next]

theorem encode32_eq (bytes : Bytes) : encode32 bytes = encode bytes :=
  congrArg pad (encodeWords_eq (by decide) 0 bytes)

/-! ## The standard -/

/-- The encoder computes the encoding of RFC 4648, of four characters for every three bytes
begun. -/
theorem encode32_eq_rfc4648 (bytes : Bytes) :
    encode32 bytes = Rfc4648.encode bytes ∧
      (encode32 bytes).length = 4 * (bytes.length ⌈/⌉ 3) := by
  have encoded : encode32 bytes = Rfc4648.encode bytes := by
    rw [encode32_eq, encode_eq_rfc4648]
  refine ⟨encoded, ?_⟩
  rw [encoded, Rfc4648.length_encode, Nat.ceilDiv_eq_add_pred_div]
  rfl

/-- A valid text is decoded to the bytes it stands for. -/
theorem decode_of_encodes {strict : Bool} {text bytes : Bytes}
    (encodes : Rfc4648.Encodes strict text bytes) : decode text = bytes := by
  rw [decode_eq_wholeOctets, encodes.wholeOctets_leading]

/-- Decoding an encoding gives the bytes back. -/
theorem decode32_encode32 (bytes : Bytes) : decode32 (encode32 bytes) = bytes := by
  rw [decode32_eq, encode32_eq, encode_eq_rfc4648]
  exact decode_of_encodes (Rfc4648.encodes_encode true bytes)

end WinInspect.Base64
