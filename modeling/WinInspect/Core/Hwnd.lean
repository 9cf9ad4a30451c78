import WinInspect.Core.Types
import WinInspect.Json.Parser
import Mathlib.Data.List.TakeWhile

/-!
# Window handles as text

A handle is written as `0x` and upper-case hexadecimal digits.  It is read by a
stream extraction with base 16, which skips white space, takes an optional sign
and an optional second `0x`, and the longest run of digits.
-/

namespace WinInspect

/-- `Hwnd::to_string`. -/
def hwndToString (hwnd : HwndU64) : Bytes :=
  ascii "0x" ++ numeral 16 hwnd.toNat

/-- An optional sign; `true` for a minus. -/
def takeSign : Bytes → Bool × Bytes
  | [] => (false, [])
  | c :: rest =>
      if c = Json.ch '-' then (true, rest)
      else if c = Json.ch '+' then (false, rest)
      else (false, c :: rest)

/-- An optional `0x` or `0X`. -/
def takeHexMark : Bytes → Bytes
  | zero :: mark :: rest =>
      if zero = Json.ch '0' ∧ (mark = Json.ch 'x' ∨ mark = Json.ch 'X') then rest
      else zero :: mark :: rest
  | text => text

/-- `ss >> v` for a 64-bit `v` and base 16; `none` when the stream fails, which it
does without a digit and on overflow. -/
def extractHex (text : Bytes) : Option UInt64 :=
  let signed := takeSign (text.dropWhile Json.isSpace)
  let digits := (takeHexMark signed.2).takeWhile fun c => (digitValue c).isSome
  let value := ofNumeral 16 digits
  if digits = [] ∨ 2 ^ 64 ≤ value then none
  else if signed.1 then some (UInt64.ofNat (2 ^ 64 - value))
  else some (UInt64.ofNat value)

/-- `parse_hwnd`. -/
def parseHwnd (s : Bytes) : Option HwndU64 :=
  if (ascii "0x").isPrefixOf s then extractHex (s.drop 2) else none

/-- A hexadecimal digit is not white space, a sign or an `x`. -/
theorem hexDigit_plain {digit : Nat} (small : digit < 16) :
    Json.isSpace (digitByte digit) = false ∧ digitByte digit ≠ Json.ch '-' ∧
      digitByte digit ≠ Json.ch '+' ∧ digitByte digit ≠ Json.ch 'x' ∧
      digitByte digit ≠ Json.ch 'X' := by
  interval_cases digit <;> decide

theorem takeHexMark_numeral (n : Nat) : takeHexMark (numeral 16 n) = numeral 16 n := by
  have plain : ∀ c ∈ numeral 16 n, c ≠ Json.ch 'x' ∧ c ≠ Json.ch 'X' := by
    intro c member
    obtain ⟨digit, small, rfl⟩ := mem_numeral (by omega) member
    exact ⟨(hexDigit_plain small).2.2.2.1, (hexDigit_plain small).2.2.2.2⟩
  generalize numeral 16 n = text at plain
  match text with
  | [] => rfl
  | [_] => rfl
  | zero :: mark :: rest =>
      have notMark := plain mark (by simp)
      rw [takeHexMark, if_neg fun marked => marked.2.elim notMark.1 notMark.2]

/-- Extraction reads the digits of a 64-bit number back. -/
theorem extractHex_numeral (hwnd : HwndU64) : extractHex (numeral 16 hwnd.toNat) = some hwnd := by
  have digits : ∀ c ∈ numeral 16 hwnd.toNat, ∃ digit < 16, c = digitByte digit :=
    fun c member => mem_numeral (by omega) member
  have unspaced : (numeral 16 hwnd.toNat).dropWhile Json.isSpace = numeral 16 hwnd.toNat ∧
      takeSign (numeral 16 hwnd.toNat) = (false, numeral 16 hwnd.toNat) := by
    cases shape : numeral 16 hwnd.toNat with
    | nil => exact absurd shape (numeral_ne_nil 16 hwnd.toNat)
    | cons c rest =>
        obtain ⟨digit, small, rfl⟩ := digits c (by rw [shape]; exact List.mem_cons_self)
        obtain ⟨space, minus, plus, _⟩ := hexDigit_plain small
        exact ⟨by simp [space], by rw [takeSign, if_neg minus, if_neg plus]⟩
  have whole : (numeral 16 hwnd.toNat).takeWhile (fun c => (digitValue c).isSome) =
      numeral 16 hwnd.toNat := by
    rw [List.takeWhile_eq_self_iff]
    intro c member
    obtain ⟨digit, small, rfl⟩ := digits c member
    rw [digitValue_digitByte small]
    rfl
  have few : ¬ (numeral 16 hwnd.toNat = [] ∨ 2 ^ 64 ≤ hwnd.toNat) := by
    rintro (empty | many)
    · exact numeral_ne_nil 16 hwnd.toNat empty
    · exact hwnd.toNat_lt.not_ge many
  unfold extractHex
  rw [unspaced.1, unspaced.2]
  dsimp only
  rw [takeHexMark_numeral, whole, ofNumeral_numeral (by omega) (by omega)]
  rw [if_neg few, if_neg Bool.false_ne_true, UInt64.ofNat_toNat]

/-- A written handle is read back. -/
@[simp]
theorem parseHwnd_hwndToString (hwnd : HwndU64) : parseHwnd (hwndToString hwnd) = some hwnd := by
  unfold parseHwnd hwndToString
  have rest : (ascii "0x" ++ numeral 16 hwnd.toNat).drop 2 = numeral 16 hwnd.toNat := rfl
  rw [if_pos (by simp [ascii]), rest, extractHex_numeral]

end WinInspect
