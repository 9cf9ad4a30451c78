import WinInspect.Data.Unicode
import Mathlib.Data.List.TakeWhile

/-!
# Wide strings

The two ways between the UTF-8 of the protocol and the UTF-16 of the system in
`win32_backend.cpp`.  Reading goes through `w2u8`, which is a conversion; writing goes through
the range constructor of `std::wstring`, which widens byte by byte.
-/

namespace WinInspect.Win32

/-- A `std::wstring`. -/
abbrev Wide := List UInt16

/-- A `char` as a `wchar_t`.  It is signed, so the bytes beyond ASCII become the units from
`0xFF80`. -/
def unitOf (b : UInt8) : Nat :=
  if b.toNat < 0x80 then b.toNat else 0xFF00 + b.toNat

/-- `std::wstring(s.begin(), s.end())`. -/
def widen (s : Bytes) : Wide :=
  s.map fun b => UInt16.ofNat (unitOf b)

/-- What a function that gets `c_str()` sees of a string. -/
def cStr (w : Wide) : Wide :=
  w.takeWhile fun u => u != 0

/-- `w2u8`. -/
def w2u8 (w : Wide) : Bytes :=
  utf8 (decodeUtf16 w)

/-- The bytes of a wide string in memory. -/
def wideBytes (w : Wide) : Bytes :=
  w.flatMap fun u => [UInt8.ofNat (u.toNat % 256), UInt8.ofNat (u.toNat / 256)]

/-- Memory read as wide characters. -/
def wideUnits : Bytes → Wide
  | low :: high :: rest => UInt16.ofNat (low.toNat + 256 * high.toNat) :: wideUnits rest
  | _ => []

/-! ## Memory -/

theorem length_wideBytes (w : Wide) : (wideBytes w).length = 2 * w.length := by
  induction w with
  | nil => rfl
  | cons u w ih =>
      rw [wideBytes, List.flatMap_cons, ← wideBytes, List.length_append, ih, List.length_cons]
      simp only [List.length_cons, List.length_nil]
      omega

theorem wideUnits_wideBytes (w : Wide) (rest : Bytes) :
    wideUnits (wideBytes w ++ rest) = w ++ wideUnits rest := by
  induction w with
  | nil => rfl
  | cons u w ih =>
      have unit : UInt16.ofNat ((UInt8.ofNat (u.toNat % 256)).toNat +
          256 * (UInt8.ofNat (u.toNat / 256)).toNat) = u := by
        have bound := u.toNat_lt
        apply UInt16.toNat_inj.mp
        rw [UInt16.toNat_ofNat', UInt8.toNat_ofNat', UInt8.toNat_ofNat']
        omega
      change UInt16.ofNat _ :: wideUnits (wideBytes w ++ rest) = _
      rw [unit, ih, List.cons_append]

/-! ## Text -/

/-- A text of ASCII characters. -/
def Ascii (s : Bytes) : Prop :=
  ∀ b ∈ s, b.toNat < 0x80

instance (s : Bytes) : Decidable (Ascii s) :=
  inferInstanceAs (Decidable (∀ b ∈ s, _))

/-- The bytes that come back for a byte. -/
def readBack (b : UInt8) : Bytes :=
  String.utf8EncodeChar (Char.ofNat (unitOf b))

theorem toNat_unitOf (b : UInt8) : (Char.ofNat (unitOf b)).toNat = unitOf b := by
  have bound := b.toNat_lt
  have valid : (unitOf b).isValidChar := by
    unfold unitOf Nat.isValidChar
    split <;> omega
  rw [Char.ofNat, dif_pos valid]
  rfl

theorem readBack_of_ascii {b : UInt8} (low : b.toNat < 0x80) : readBack b = [b] := by
  have same : unitOf b = b.toNat := if_pos low
  have small : (Char.ofNat (unitOf b)).toNat < 0x80 := by
    rw [toNat_unitOf, same]
    exact low
  rw [readBack, utf8EncodeChar_of_ascii small, toNat_unitOf, same, UInt8.ofNat_toNat]

theorem length_readBack_of_not_ascii {b : UInt8} (high : ¬ b.toNat < 0x80) :
    (readBack b).length = 3 := by
  have bound := b.toNat_lt
  have unit : unitOf b = 0xFF00 + b.toNat := if_neg high
  unfold readBack String.utf8EncodeChar
  rw [Char.toNat_val, toNat_unitOf, if_neg (by omega), if_neg (by omega), if_pos (by omega)]
  rfl

theorem length_le_readBack (s : Bytes) : s.length ≤ (s.flatMap readBack).length := by
  induction s with
  | nil => exact le_rfl
  | cons b s ih =>
      rw [List.flatMap_cons, List.length_append, List.length_cons]
      by_cases low : b.toNat < 0x80
      · rw [readBack_of_ascii low, List.length_singleton]
        omega
      · rw [length_readBack_of_not_ascii low]
        omega

/-- A widened byte is no surrogate. -/
theorem unitChar_widened (b : UInt8) :
    isHighSurrogate (UInt16.ofNat (unitOf b)) = false ∧
      unitChar (UInt16.ofNat (unitOf b)) = Char.ofNat (unitOf b) := by
  have bound := b.toNat_lt
  have size : unitOf b < 2 ^ 16 := by
    unfold unitOf
    split <;> omega
  have unit : (UInt16.ofNat (unitOf b)).toNat = unitOf b := by
    rw [UInt16.toNat_ofNat', Nat.mod_eq_of_lt size]
  have high : isHighSurrogate (UInt16.ofNat (unitOf b)) = false := by
    simp only [isHighSurrogate, Bool.and_eq_false_iff, decide_eq_false_iff_not,
      UInt16.le_iff_toNat_le, UInt16.lt_iff_toNat_lt, unit]
    unfold unitOf
    split <;> simp <;> omega
  have low : isLowSurrogate (UInt16.ofNat (unitOf b)) = false := by
    simp only [isLowSurrogate, Bool.and_eq_false_iff, decide_eq_false_iff_not,
      UInt16.le_iff_toNat_le, UInt16.lt_iff_toNat_lt, unit]
    unfold unitOf
    split <;> simp <;> omega
  refine ⟨high, ?_⟩
  rw [unitChar, high, low, unit]
  rfl

theorem w2u8_widen (s : Bytes) : w2u8 (widen s) = s.flatMap readBack := by
  have single : ∀ u ∈ widen s, isHighSurrogate u = false := by
    intro u member
    obtain ⟨b, _, rfl⟩ := List.mem_map.mp member
    exact (unitChar_widened b).1
  rw [w2u8, decodeUtf16_of_single single, utf8, widen, List.map_map, List.flatMap_map]
  congr 1
  funext b
  exact congrArg String.utf8EncodeChar (unitChar_widened b).2

/-- What is widened and converted back is the same text exactly for ASCII. -/
theorem w2u8_widen_eq_iff (s : Bytes) : w2u8 (widen s) = s ↔ Ascii s := by
  rw [w2u8_widen]
  induction s with
  | nil => exact iff_of_true rfl (List.forall_mem_nil _)
  | cons b s ih =>
      unfold Ascii at *
      rw [List.flatMap_cons, List.forall_mem_cons, ← ih]
      by_cases low : b.toNat < 0x80
      · rw [readBack_of_ascii low, List.singleton_append, List.cons.injEq]
        simp only [low, true_and]
      · refine iff_of_false (fun same => ?_) fun both => low both.1
        have lengths := congrArg List.length same
        have le := length_le_readBack s
        rw [List.length_append, length_readBack_of_not_ascii low, List.length_cons] at lengths
        omega

/-! ## Terminated strings -/

theorem cStr_eq_self {w : Wide} (terminated : 0 ∉ w) : cStr w = w := by
  apply List.takeWhile_eq_self_iff.mpr
  intro u member
  exact bne_iff_ne.mpr fun zero => terminated (zero ▸ member)

theorem zero_notMem_cStr (w : Wide) : 0 ∉ cStr w := by
  intro member
  have nonzero := List.mem_takeWhile_imp (p := fun u : UInt16 => u != 0) member
  exact absurd rfl (bne_iff_ne.mp nonzero)

/-- A terminator ends the string wherever it stands in memory. -/
theorem cStr_append_zero {w : Wide} (terminated : 0 ∉ w) (rest : Wide) :
    cStr (w ++ 0 :: rest) = w :=
  takeWhile_bne_append terminated rest

/-- An ASCII character in a widened text stands in the text. -/
theorem mem_of_mem_widen {s : Bytes} {b : UInt8} (low : b.toNat < 0x80)
    (member : UInt16.ofNat b.toNat ∈ widen s) : b ∈ s := by
  obtain ⟨c, inside, same⟩ := List.mem_map.mp member
  have bound := c.toNat_lt
  have units := congrArg UInt16.toNat same
  rw [UInt16.toNat_ofNat', UInt16.toNat_ofNat'] at units
  have equal : c.toNat = b.toNat := by
    unfold unitOf at units
    split at units <;> omega
  rwa [← UInt8.toNat_inj.mp equal]

theorem zero_notMem_widen {s : Bytes} (terminated : 0 ∉ s) : 0 ∉ widen s :=
  fun member => terminated (mem_of_mem_widen (b := 0) (by decide) member)

end WinInspect.Win32
