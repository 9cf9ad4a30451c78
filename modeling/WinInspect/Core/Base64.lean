import WinInspect.Data.Bytes

/-!
# Base64

`base64.hpp`.  The accumulator `val` is a 32-bit `int` whose left shifts wrap, so
it is a number below `2 ^ 32` here; every use masks low bits out of a shift of at
most 7, where the arithmetic shift of the source and the division below agree.
-/

namespace WinInspect.Base64

/-- The 64 characters, in order. -/
def alphabet : Bytes :=
  ascii "ABCDEFGHIJKLMNOPQRSTUVWXYZabcdefghijklmnopqrstuvwxyz0123456789+/"

/-- The inverse table `T`, with `none` for `-1`. -/
def table (c : UInt8) : Option Nat :=
  let i := alphabet.idxOf c
  if i < 64 then some i else none

/-- The loop of `decode`. -/
def decodeLoop (val : Nat) (valb : Int) : Bytes → Bytes
  | [] => []
  | c :: rest =>
      match table c with
      | none => []
      | some t =>
          let val := (val * 2 ^ 6) % 2 ^ 32 + t
          let valb := valb + 6
          if 0 ≤ valb then
            UInt8.ofNat (val / 2 ^ valb.toNat % 256) :: decodeLoop val (valb - 8) rest
          else decodeLoop val valb rest

/-- `base64::decode`. -/
def decode (input : Bytes) : Bytes :=
  decodeLoop 0 (-8) input

/-- `alphabet[(val >> valb) & 0x3F]`. -/
def symbolAt (val valb : Nat) : UInt8 :=
  alphabet.getD (val / 2 ^ valb % 64) 0

/-- The inner loop of `encode` from a non-negative `valb`: emit six bits until it is
negative. -/
def emit (val : Nat) : Nat → Bytes × Int
  | valb + 6 =>
      let rest := emit val valb
      (symbolAt val (valb + 6) :: rest.1, rest.2)
  | valb => ([symbolAt val valb], valb - 6)

/-- The outer loop of `encode`, with the final partial group. -/
def encodeLoop (val : Nat) (valb : Int) : Bytes → Bytes
  | [] =>
      if -6 < valb then [symbolAt (val * 2 ^ 8 % 2 ^ 32) (valb + 8).toNat] else []
  | c :: rest =>
      let val := (val * 2 ^ 8) % 2 ^ 32 + c.toNat
      let valb := valb + 8
      let emitted := if 0 ≤ valb then emit val valb.toNat else ([], valb)
      emitted.1 ++ encodeLoop val emitted.2 rest

/-- `while (out.size() % 4) out.push_back('=')`. -/
def pad (out : Bytes) : Bytes :=
  out ++ List.replicate ((4 - out.length % 4) % 4) (UInt8.ofNat '='.toNat)

/-- `base64::encode`. -/
def encode (input : Bytes) : Bytes :=
  pad (encodeLoop 0 (-6) input)

/-! ## The accumulator as a machine word

The same loops with `val` as the 32-bit word it is: left shifts drop the high bits, and
`>>` of an `int` copies the sign bit. -/

/-- The loop of `decode` on words. -/
def decodeWords (val : BitVec 32) (valb : Int) : Bytes → Bytes
  | [] => []
  | c :: rest =>
      match table c with
      | none => []
      | some t =>
          let val := (val <<< 6) + BitVec.ofNat 32 t
          let valb := valb + 6
          if 0 ≤ valb then
            UInt8.ofBitVec ((val.sshiftRight valb.toNat &&& 0xFF#32).setWidth 8) ::
              decodeWords val (valb - 8) rest
          else decodeWords val valb rest

/-- `base64::decode` on words. -/
def decode32 (input : Bytes) : Bytes :=
  decodeWords 0 (-8) input

/-- `alphabet[(val >> valb) & 0x3F]` on words. -/
def symbolAtWord (val : BitVec 32) (valb : Nat) : UInt8 :=
  alphabet.getD (val.sshiftRight valb &&& 0x3F#32).toNat 0

/-- The inner loop of `encode` on words. -/
def emitWords (val : BitVec 32) : Nat → Bytes × Int
  | valb + 6 =>
      let rest := emitWords val valb
      (symbolAtWord val (valb + 6) :: rest.1, rest.2)
  | valb => ([symbolAtWord val valb], valb - 6)

/-- The outer loop of `encode` on words, with the final partial group. -/
def encodeWords (val : BitVec 32) (valb : Int) : Bytes → Bytes
  | [] => if -6 < valb then [symbolAtWord (val <<< 8) (valb + 8).toNat] else []
  | c :: rest =>
      let val := (val <<< 8) + c.toBitVec.setWidth 32
      let valb := valb + 8
      let emitted := if 0 ≤ valb then emitWords val valb.toNat else ([], valb)
      emitted.1 ++ encodeWords val emitted.2 rest

/-- `base64::encode` on words. -/
def encode32 (input : Bytes) : Bytes :=
  pad (encodeWords 0 (-6) input)

end WinInspect.Base64
