import WinInspect.Data.Bytes

/-!
# Unicode encoding forms

A scalar value is a `Char`.  `String.utf8EncodeChar` is its UTF-8 form; the surrogate pair of a
scalar above U+FFFF and its UTF-16 form are defined here.
-/

namespace WinInspect

/-- The UTF-8 form of a text. -/
def utf8 (text : List Char) : Bytes :=
  text.flatMap String.utf8EncodeChar

theorem utf8_cons (c : Char) (text : List Char) :
    utf8 (c :: text) = String.utf8EncodeChar c ++ utf8 text :=
  rfl

/-- A scalar is no surrogate. -/
theorem toNat_char (c : Char) : c.toNat < 0xD800 ∨ (0xDFFF < c.toNat ∧ c.toNat < 0x110000) :=
  c.valid

theorem utf8EncodeChar_of_ascii {c : Char} (ascii : c.toNat < 0x80) :
    String.utf8EncodeChar c = [UInt8.ofNat c.toNat] := by
  unfold String.utf8EncodeChar
  rw [Char.toNat_val, if_pos (by omega)]

/-- The bytes of a UTF-8 form are the scalar itself, or all beyond ASCII. -/
theorem mem_utf8EncodeChar {c : Char} {b : UInt8} (member : b ∈ String.utf8EncodeChar c) :
    (c.toNat < 0x80 ∧ b.toNat = c.toNat) ∨ 0x80 ≤ b.toNat := by
  unfold String.utf8EncodeChar at member
  simp only [Char.toNat_val] at member
  split at member
  · rename_i ascii
    left
    rw [List.mem_singleton.mp member, UInt8.toNat_ofNat']
    omega
  · right
    split at member
    · simp only [List.mem_cons, List.not_mem_nil, or_false] at member
      rcases member with rfl | rfl <;> simp only [UInt8.toNat_ofNat'] <;> omega
    · split at member
      · simp only [List.mem_cons, List.not_mem_nil, or_false] at member
        rcases member with rfl | rfl | rfl <;> simp only [UInt8.toNat_ofNat'] <;> omega
      · simp only [List.mem_cons, List.not_mem_nil, or_false] at member
        rcases member with rfl | rfl | rfl | rfl <;> simp only [UInt8.toNat_ofNat'] <;> omega

theorem length_utf8EncodeChar_of_beyond {c : Char} (beyond : 0xFFFF < c.toNat) :
    (String.utf8EncodeChar c).length = 4 := by
  unfold String.utf8EncodeChar
  rw [Char.toNat_val, if_neg (by omega), if_neg (by omega), if_neg (by omega)]
  rfl

/-! ## Surrogates -/

/-- The first unit of the surrogate pair of a scalar above U+FFFF. -/
def highSurrogate (c : Char) : Nat :=
  0xD800 + (c.toNat - 0x10000) / 0x400

/-- The second unit of the surrogate pair. -/
def lowSurrogate (c : Char) : Nat :=
  0xDC00 + (c.toNat - 0x10000) % 0x400

theorem highSurrogate_range {c : Char} :
    0xD800 ≤ highSurrogate c ∧ highSurrogate c < 0xDC00 := by
  have scalar := toNat_char c
  unfold highSurrogate
  omega

theorem lowSurrogate_range {c : Char} : 0xDC00 ≤ lowSurrogate c ∧ lowSurrogate c < 0xE000 := by
  unfold lowSurrogate
  omega

/-! ## UTF-16 -/

def isHighSurrogate (u : UInt16) : Bool :=
  0xD800 ≤ u && u < 0xDC00

def isLowSurrogate (u : UInt16) : Bool :=
  0xDC00 ≤ u && u < 0xE000

/-- The scalar of a single unit; a surrogate by itself stands for U+FFFD. -/
def unitChar (u : UInt16) : Char :=
  if isHighSurrogate u || isLowSurrogate u then Char.ofNat 0xFFFD else Char.ofNat u.toNat

/-- The text of a UTF-16 form. -/
def decodeUtf16 : List UInt16 → List Char
  | [] => []
  | [u] => [unitChar u]
  | u :: v :: rest =>
      if isHighSurrogate u && isLowSurrogate v then
        Char.ofNat (0x10000 + (u.toNat - 0xD800) * 0x400 + (v.toNat - 0xDC00)) :: decodeUtf16 rest
      else unitChar u :: decodeUtf16 (v :: rest)

example : decodeUtf16 [0x41, 0xD83D, 0xDE00, 0xDE00] =
    ['A', Char.ofNat 0x1F600, Char.ofNat 0xFFFD] := by
  decide

/-- Without a first surrogate every unit stands for itself. -/
theorem decodeUtf16_of_single {units : List UInt16}
    (single : ∀ u ∈ units, isHighSurrogate u = false) : decodeUtf16 units = units.map unitChar := by
  induction units using decodeUtf16.induct with
  | case1 => rfl
  | case2 u => rfl
  | case3 u v rest pair _ =>
      rw [single u List.mem_cons_self] at pair
      cases pair
  | case4 u v rest alone ih =>
      rw [decodeUtf16, if_neg alone, ih fun w member => single w (List.mem_cons_of_mem u member)]
      rfl

/-! ## The UTF-16 form of a text -/

/-- The UTF-16 form of a scalar. -/
def utf16EncodeChar (c : Char) : List UInt16 :=
  if c.toNat < 0x10000 then [UInt16.ofNat c.toNat]
  else [UInt16.ofNat (highSurrogate c), UInt16.ofNat (lowSurrogate c)]

/-- The UTF-16 form of a text. -/
def utf16 (text : List Char) : List UInt16 :=
  text.flatMap utf16EncodeChar

theorem isHighSurrogate_ofNat {n : Nat} (small : n < 0x10000) :
    isHighSurrogate (UInt16.ofNat n) = true ↔ 0xD800 ≤ n ∧ n < 0xDC00 := by
  have unit : (UInt16.ofNat n).toNat = n := UInt16.toNat_ofNat_of_lt' small
  simp only [isHighSurrogate, Bool.and_eq_true, decide_eq_true_eq, UInt16.le_iff_toNat_le,
    UInt16.lt_iff_toNat_lt, unit]
  rfl

theorem isLowSurrogate_ofNat {n : Nat} (small : n < 0x10000) :
    isLowSurrogate (UInt16.ofNat n) = true ↔ 0xDC00 ≤ n ∧ n < 0xE000 := by
  have unit : (UInt16.ofNat n).toNat = n := UInt16.toNat_ofNat_of_lt' small
  simp only [isLowSurrogate, Bool.and_eq_true, decide_eq_true_eq, UInt16.le_iff_toNat_le,
    UInt16.lt_iff_toNat_lt, unit]
  rfl

/-- A unit that starts no pair is read by itself. -/
theorem decodeUtf16_cons {u : UInt16} (single : isHighSurrogate u = false) (rest : List UInt16) :
    decodeUtf16 (u :: rest) = unitChar u :: decodeUtf16 rest := by
  cases rest with
  | nil => rfl
  | cons v rest => rw [decodeUtf16, single, Bool.false_and, if_neg Bool.false_ne_true]

theorem decodeUtf16_utf16EncodeChar (c : Char) (rest : List UInt16) :
    decodeUtf16 (utf16EncodeChar c ++ rest) = c :: decodeUtf16 rest := by
  have scalar := toNat_char c
  unfold utf16EncodeChar
  split
  · rename_i small
    have notHigh : isHighSurrogate (UInt16.ofNat c.toNat) = false := by
      rw [Bool.eq_false_iff, ne_eq, isHighSurrogate_ofNat small]
      omega
    have notLow : isLowSurrogate (UInt16.ofNat c.toNat) = false := by
      rw [Bool.eq_false_iff, ne_eq, isLowSurrogate_ofNat small]
      omega
    rw [List.singleton_append, decodeUtf16_cons notHigh, unitChar, notHigh, notLow, Bool.or_false,
      if_neg Bool.false_ne_true, UInt16.toNat_ofNat_of_lt' small, Char.ofNat_toNat]
  · rename_i large
    have highRange := highSurrogate_range (c := c)
    have lowRange := lowSurrogate_range (c := c)
    have high : isHighSurrogate (UInt16.ofNat (highSurrogate c)) = true :=
      (isHighSurrogate_ofNat (by omega)).mpr highRange
    have low : isLowSurrogate (UInt16.ofNat (lowSurrogate c)) = true :=
      (isLowSurrogate_ofNat (by omega)).mpr lowRange
    have whole : 0x10000 + (highSurrogate c - 0xD800) * 0x400 + (lowSurrogate c - 0xDC00) =
        c.toNat := by
      unfold highSurrogate lowSurrogate
      omega
    rw [List.cons_append, List.singleton_append, decodeUtf16, high, low, Bool.and_true, if_pos rfl,
      UInt16.toNat_ofNat_of_lt' (lt_trans highRange.2 (by decide)),
      UInt16.toNat_ofNat_of_lt' (lt_trans lowRange.2 (by decide)), whole, Char.ofNat_toNat]

/-- The UTF-16 form is read back. -/
theorem decodeUtf16_utf16 (text : List Char) : decodeUtf16 (utf16 text) = text := by
  induction text with
  | nil => rfl
  | cons c text ih => rw [utf16, List.flatMap_cons, ← utf16, decodeUtf16_utf16EncodeChar, ih]

/-- A unit below the surrogates stands in a UTF-16 form for its own scalar only. -/
theorem mem_utf16EncodeChar {c d : Char} (single : c.toNat < 0xD800) :
    UInt16.ofNat c.toNat ∈ utf16EncodeChar d ↔ c = d := by
  have unit : (UInt16.ofNat c.toNat).toNat = c.toNat :=
    UInt16.toNat_ofNat_of_lt' (lt_trans single (by decide))
  unfold utf16EncodeChar
  split
  · rename_i small
    rw [List.mem_singleton, ← UInt16.toNat_inj, unit, UInt16.toNat_ofNat_of_lt' small,
      Char.toNat_inj]
  · rename_i large
    have highRange := highSurrogate_range (c := d)
    have lowRange := lowSurrogate_range (c := d)
    have other : c ≠ d := by
      rintro rfl
      omega
    simp only [List.mem_cons, List.not_mem_nil, or_false, ← UInt16.toNat_inj, unit,
      UInt16.toNat_ofNat_of_lt' (lt_trans highRange.2 (by decide)),
      UInt16.toNat_ofNat_of_lt' (lt_trans lowRange.2 (by decide)), other, iff_false]
    omega

theorem mem_utf16 {c : Char} (single : c.toNat < 0xD800) (text : List Char) :
    UInt16.ofNat c.toNat ∈ utf16 text ↔ c ∈ text := by
  simp only [utf16, List.mem_flatMap, mem_utf16EncodeChar single, exists_eq_right']

end WinInspect
