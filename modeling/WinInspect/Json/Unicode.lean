import WinInspect.Data.Unicode
import WinInspect.Json.Recognition

/-!
# Unicode in string literals

A scalar value can be spelled in a JSON string as itself in UTF-8, by a short escape, by a
`\u` escape, and above U+FFFF by the `\u` escapes of its surrogates.  `parse_string` encodes
each `\u` escape by itself, so it returns the UTF-8 form of every scalar but one that is
spelled as a surrogate pair; this one becomes the two surrogates, three bytes each.
-/

namespace WinInspect.Json

open Grammar

/-- Four hexadecimal digits and the number they denote. -/
inductive HexCode : Nat → Bytes → Prop
  | mk {c₁ c₂ c₃ c₄ : UInt8} {h₁ h₂ h₃ h₄ : Nat} (first : digitValue c₁ = some h₁)
      (second : digitValue c₂ = some h₂) (third : digitValue c₃ = some h₃)
      (fourth : digitValue c₄ = some h₄) :
      HexCode (h₁ * 4096 + h₂ * 256 + h₃ * 16 + h₄) [c₁, c₂, c₃, c₄]

/-- The ways to write a scalar in a string. -/
inductive Way where
  | raw
  | short
  | unicode
  | pair
  deriving DecidableEq

/-- The texts for a scalar. -/
inductive Spelling (c : Char) : Way → Bytes → Prop
  | raw (unescaped : 0x20 ≤ c.toNat) (unquoted : c ≠ '"') (plain : c ≠ '\\') :
      Spelling c .raw (String.utf8EncodeChar c)
  | short {e b : UInt8} (known : (e, b) ∈ escapes) (stands : b.toNat = c.toNat) :
      Spelling c .short [ch '\\', e]
  | unicode {digits : Bytes} (code : HexCode c.toNat digits) :
      Spelling c .unicode (ch '\\' :: ch 'u' :: digits)
  | pair {high low : Bytes} (beyond : 0xFFFF < c.toNat) (first : HexCode (highSurrogate c) high)
      (second : HexCode (lowSurrogate c) low) :
      Spelling c .pair (ch '\\' :: ch 'u' :: high ++ ch '\\' :: ch 'u' :: low)

/-- A scalar with one of its spellings. -/
structure Spelled where
  scalar : Char
  way : Way
  text : Bytes
  spelling : Spelling scalar way text

namespace Spelled

/-- The bytes `parse_string` makes of it. -/
def decoded (piece : Spelled) : Bytes :=
  if piece.way = .pair then
    Parser.utf8 (highSurrogate piece.scalar) ++ Parser.utf8 (lowSurrogate piece.scalar)
  else String.utf8EncodeChar piece.scalar

/-- The literal of a sequence of scalars. -/
def literal (pieces : List Spelled) : Bytes :=
  ch '"' :: (pieces.flatMap Spelled.text ++ [ch '"'])

end Spelled

/-! ## The pieces of a literal -/

/-- Bytes that stand for themselves. -/
theorem charsText_raw {text : Bytes} (raw : ∀ b ∈ text, b ≠ ch '"' ∧ b ≠ ch '\\') :
    CharsText text text := by
  induction text with
  | nil => exact .nil
  | cons b text ih =>
      obtain ⟨⟨unquoted, plain⟩, others⟩ := List.forall_mem_cons.mp raw
      exact .cons (.unescaped unquoted plain) (ih others)

theorem charsText_append {text more bytes others : Bytes} (first : CharsText text bytes)
    (second : CharsText more others) : CharsText (text ++ more) (bytes ++ others) := by
  induction first with
  | nil => exact second
  | cons head _ ih =>
      rw [List.append_assoc, List.append_assoc]
      exact .cons head ih

theorem charsText_one {piece bytes : Bytes} (char : CharText piece bytes) :
    CharsText piece bytes := by
  rw [← List.append_nil piece, ← List.append_nil bytes]
  exact .cons char .nil

/-- A `\u` escape gives the bytes of its code. -/
theorem charText_unicode {code : Nat} {digits : Bytes} (hex : HexCode code digits) :
    CharText (ch '\\' :: ch 'u' :: digits) (Parser.utf8 code) := by
  obtain ⟨first, second, third, fourth⟩ := hex
  exact .unicode first second third fourth

theorem HexCode.lt {code : Nat} {digits : Bytes} (hex : HexCode code digits) :
    code < 0x10000 := by
  obtain ⟨first, second, third, fourth⟩ := hex
  have small {c : UInt8} {h : Nat} (value : digitValue c = some h) : h < 16 := by
    unfold digitValue at value
    grind
  have := small first
  have := small second
  have := small third
  have := small fourth
  omega

/-- Up to U+FFFF the parser's encoder is UTF-8. -/
theorem utf8_toNat {c : Char} (basic : c.toNat < 0x10000) :
    Parser.utf8 c.toNat = String.utf8EncodeChar c := by
  unfold Parser.utf8 String.utf8EncodeChar
  simp only [Char.toNat_val]
  grind

/-- A surrogate becomes three bytes. -/
theorem length_utf8_of_surrogate {code : Nat} (surrogate : 0xD800 ≤ code) :
    (Parser.utf8 code).length = 3 := by
  rw [Parser.utf8, if_neg (by omega), if_neg (by omega)]
  rfl

/-- Each spelling is read as the bytes of its way. -/
theorem Spelled.charsText (piece : Spelled) : CharsText piece.text piece.decoded := by
  obtain ⟨c, way, text, spelling⟩ := piece
  cases spelling with
  | raw unescaped unquoted plain =>
      apply charsText_raw
      intro b member
      rcases mem_utf8EncodeChar member with ⟨-, same⟩ | beyond
      · constructor
        · rintro rfl
          exact unquoted (Char.toNat_inj.mp same.symm)
        · rintro rfl
          exact plain (Char.toNat_inj.mp same.symm)
      · constructor <;> (rintro rfl; revert beyond; decide)
  | @short e b known stands =>
      have ascii : ∀ p ∈ escapes, p.2.toNat < 0x80 := by simp [escapes, ch]
      have low : c.toNat < 0x80 := by
        rw [← stands]
        exact ascii _ known
      have same : String.utf8EncodeChar c = [b] := by
        rw [utf8EncodeChar_of_ascii low, ← stands, UInt8.ofNat_toNat]
      have char : CharText [ch '\\', e] (String.utf8EncodeChar c) := by
        rw [same]
        exact .escape known
      exact charsText_one char
  | unicode code =>
      apply charsText_one
      have char := charText_unicode code
      rw [utf8_toNat code.lt] at char
      exact char
  | pair beyond first second =>
      exact charsText_append (charsText_one (charText_unicode first))
        (charsText_one (charText_unicode second))

theorem Spelled.charsText_all (pieces : List Spelled) :
    CharsText (pieces.flatMap Spelled.text) (pieces.flatMap Spelled.decoded) := by
  induction pieces with
  | nil => exact .nil
  | cons piece pieces ih => exact charsText_append piece.charsText ih

/-! ## The decoded bytes against UTF-8 -/

theorem Spelled.decoded_of_ne {piece : Spelled} (single : piece.way ≠ .pair) :
    piece.decoded = String.utf8EncodeChar piece.scalar :=
  if_neg single

/-- A pair takes two bytes more than UTF-8 does. -/
theorem Spelled.length_decoded_of_pair {piece : Spelled} (paired : piece.way = .pair) :
    piece.decoded.length = (String.utf8EncodeChar piece.scalar).length + 2 := by
  have beyond : 0xFFFF < piece.scalar.toNat := by
    obtain ⟨c, way, text, spelling⟩ := piece
    cases spelling with
    | pair beyond _ _ => exact beyond
    | raw _ _ _ | short _ _ | unicode _ => cases paired
  have high := highSurrogate_range (c := piece.scalar)
  have low := lowSurrogate_range (c := piece.scalar)
  rw [Spelled.decoded, if_pos paired, List.length_append,
    length_utf8_of_surrogate high.1, length_utf8_of_surrogate (by omega),
    length_utf8EncodeChar_of_beyond beyond]

theorem Spelled.length_utf8_le (pieces : List Spelled) :
    (utf8 (pieces.map Spelled.scalar)).length ≤ (pieces.flatMap Spelled.decoded).length := by
  induction pieces with
  | nil => exact le_rfl
  | cons piece pieces ih =>
      rw [List.map_cons, utf8_cons, List.flatMap_cons, List.length_append, List.length_append]
      by_cases paired : piece.way = .pair
      · rw [length_decoded_of_pair paired]
        omega
      · rw [decoded_of_ne paired]
        omega

/-- The bytes are the UTF-8 form of the scalars when none is spelled as a pair, and only
then. -/
theorem Spelled.decoded_eq_utf8_iff (pieces : List Spelled) :
    pieces.flatMap Spelled.decoded = utf8 (pieces.map Spelled.scalar) ↔
      ∀ piece ∈ pieces, piece.way ≠ .pair := by
  induction pieces with
  | nil => exact ⟨fun _ => List.forall_mem_nil _, fun _ => rfl⟩
  | cons piece pieces ih =>
      rw [List.map_cons, utf8_cons, List.flatMap_cons, List.forall_mem_cons, ← ih]
      constructor
      · intro same
        have single : piece.way ≠ .pair := by
          intro paired
          have lengths := congrArg List.length same
          rw [List.length_append, List.length_append, length_decoded_of_pair paired] at lengths
          have le := length_utf8_le pieces
          omega
        rw [decoded_of_ne single] at same
        exact ⟨single, List.append_cancel_left same⟩
      · rintro ⟨single, same⟩
        rw [decoded_of_ne single, same]

/-- Wherever a literal stands in a text and however its scalars are spelled, `parse_string` reads
the bytes of the scalars in order: the UTF-8 form of each, and for a surrogate pair the forms of
the two surrogates.  They are the UTF-8 form of the sequence exactly when no scalar is spelled as
a pair. -/
theorem parseString_spelled (pieces : List Spelled) (before after : Bytes) :
    Parser.parseString (before ++ (Spelled.literal pieces ++ after)) before.length =
        .ok (pieces.flatMap Spelled.decoded,
          before.length + (Spelled.literal pieces).length) ∧
      (pieces.flatMap Spelled.decoded = utf8 (pieces.map Spelled.scalar) ↔
        ∀ piece ∈ pieces, piece.way ≠ .pair) := by
  have string : StringText (Spelled.literal pieces) (pieces.flatMap Spelled.decoded) :=
    .mk (Spelled.charsText_all pieces)
  exact ⟨Parser.parseString_string string List.drop_left, Spelled.decoded_eq_utf8_iff pieces⟩

/-- U+1F600 as a surrogate pair is not read as its UTF-8 form. -/
theorem surrogate_pair_split :
    (∃ piece : Spelled, piece.scalar = Char.ofNat 0x1F600 ∧
      piece.text = ascii "\\uD83D\\uDE00") ∧
    Parser.parseString (ascii "\"\\uD83D\\uDE00\"") 0 =
        .ok ([0xED, 0xA0, 0xBD, 0xED, 0xB8, 0x80], 14) ∧
      utf8 [Char.ofNat 0x1F600] = [0xF0, 0x9F, 0x98, 0x80] := by
  have high : HexCode (13 * 4096 + 8 * 256 + 3 * 16 + 13) (ascii "D83D") :=
    .mk rfl rfl rfl rfl
  have low : HexCode (13 * 4096 + 14 * 256 + 0 * 16 + 0) (ascii "DE00") :=
    .mk rfl rfl rfl rfl
  have text : ch '\\' :: ch 'u' :: ascii "D83D" ++ ch '\\' :: ch 'u' :: ascii "DE00" =
      ascii "\\uD83D\\uDE00" := by
    decide
  exact ⟨⟨⟨Char.ofNat 0x1F600, .pair, _, .pair (by decide) high low⟩, rfl, text⟩,
    by decide +kernel, by decide⟩

end WinInspect.Json
