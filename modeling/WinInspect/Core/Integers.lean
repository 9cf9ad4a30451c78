import WinInspect.Core.Hwnd

/-!
# Integers at the front of a text

`std::stoi` and `std::stoul` skip white space, take an optional sign and the longest run of
decimal digits, and ignore what stands behind it.  A stream extraction begins in the same way.
`Headed` says how a text is split before the digits, `Decimal` how the whole text is.
-/

namespace WinInspect

/-- What a decimal conversion reads: whether there is a minus, and the digits. -/
def decimalField (text : Bytes) : Bool × Bytes :=
  let signed := takeSign (text.dropWhile Json.isSpace)
  (signed.1, signed.2.takeWhile Json.isDigit)

/-- `std::stoi`; `none` when it throws, which it does without a digit and for a number that
is no `int`. -/
def stoi (text : Bytes) : Option Int :=
  let field := decimalField text
  let number : Int := if field.1 then -(ofNumeral 10 field.2 : Int) else ofNumeral 10 field.2
  if field.2 = [] ∨ number < -2 ^ 31 ∨ 2 ^ 31 ≤ number then none else some number

/-- `std::stoul` with a 32-bit `unsigned long`.  The digits must fit; a minus negates what they
denote modulo 2^32. -/
def stoul (text : Bytes) : Option UInt32 :=
  let field := decimalField text
  let number := ofNumeral 10 field.2
  if field.2 = [] ∨ 2 ^ 32 ≤ number then none
  else if field.1 then some (UInt32.ofNat (2 ^ 32 - number))
  else some (UInt32.ofNat number)

/-! ## White space and sign -/

/-- The text of an optional sign; `true` is a minus. -/
def signText : Option Bool → Bytes
  | none => []
  | some false => [Json.ch '+']
  | some true => [Json.ch '-']

/-- A byte that is neither white space nor a sign. -/
def Unsigned (c : UInt8) : Prop :=
  Json.isSpace c = false ∧ c ≠ Json.ch '-' ∧ c ≠ Json.ch '+'

/-- A text is white space, a sign and a body; without a sign the body starts with neither. -/
structure Headed (text blanks : Bytes) (sign : Option Bool) (body : Bytes) : Prop where
  split : text = blanks ++ (signText sign ++ body)
  blank : ∀ c ∈ blanks, Json.isSpace c = true
  starts : sign = none → ∀ c ∈ body.head?, Unsigned c

theorem takeSign_signText {sign : Option Bool} {body : Bytes}
    (starts : sign = none → ∀ c ∈ body.head?, Unsigned c) :
    takeSign (signText sign ++ body) = (sign == some true, body) := by
  cases sign with
  | some minus => cases minus <;> rfl
  | none =>
      cases body with
      | nil => rfl
      | cons c rest =>
          obtain ⟨_, minus, plus⟩ := starts rfl c rfl
          rw [signText, List.nil_append, takeSign, if_neg minus, if_neg plus]
          rfl

theorem isSpace_signText {sign : Option Bool} {body : Bytes}
    (starts : sign = none → ∀ c ∈ body.head?, Unsigned c) :
    ∀ c ∈ (signText sign ++ body).head?, Json.isSpace c = false := by
  cases sign with
  | some minus =>
      cases minus with
      | false =>
          rintro c ⟨⟩
          decide
      | true =>
          rintro c ⟨⟩
          decide
  | none => exact fun c first => (starts rfl c first).1

namespace Headed

variable {text blanks : Bytes} {sign : Option Bool} {body : Bytes}

theorem takeSign_dropWhile (headed : Headed text blanks sign body) :
    takeSign (text.dropWhile Json.isSpace) = (sign == some true, body) := by
  rw [headed.split, dropWhile_append_of_head headed.blank (isSpace_signText headed.starts)]
  exact takeSign_signText headed.starts

end Headed

/-- Every text is split in this way. -/
theorem exists_headed (text : Bytes) : ∃ blanks sign body, Headed text blanks sign body := by
  have split := List.takeWhile_append_dropWhile (p := Json.isSpace) (l := text)
  have blank : ∀ c ∈ text.takeWhile Json.isSpace, Json.isSpace c = true :=
    fun c member => List.mem_takeWhile_imp member
  cases rest : text.dropWhile Json.isSpace with
  | nil =>
      rw [rest] at split
      refine ⟨_, none, [], split.symm, blank, ?_⟩
      rintro _ c ⟨⟩
  | cons c body =>
      rw [rest] at split
      by_cases minus : c = Json.ch '-'
      · subst minus
        exact ⟨_, some true, body, split.symm, blank, nofun⟩
      · by_cases plus : c = Json.ch '+'
        · subst plus
          exact ⟨_, some false, body, split.symm, blank, nofun⟩
        · refine ⟨_, none, c :: body, split.symm, blank, ?_⟩
          rintro _ c ⟨⟩
          have unspaced := List.head?_dropWhile_not Json.isSpace text
          rw [rest] at unspaced
          exact ⟨unspaced, minus, plus⟩

/-! ## Decimal texts -/

/-- A text is white space, a sign, at least one digit and a rest that starts with none. -/
structure Decimal (text blanks : Bytes) (sign : Option Bool) (digits rest : Bytes) : Prop where
  split : text = blanks ++ (signText sign ++ (digits ++ rest))
  blank : ∀ c ∈ blanks, Json.isSpace c = true
  digit : ∀ c ∈ digits, Json.isDigit c = true
  filled : digits ≠ []
  stops : ∀ c ∈ rest.head?, Json.isDigit c = false

theorem unsigned_of_isDigit {c : UInt8} (digit : Json.isDigit c = true) : Unsigned c := by
  unfold Json.isDigit at digit
  unfold Unsigned Json.isSpace
  grind

namespace Decimal

variable {text blanks : Bytes} {sign : Option Bool} {digits rest : Bytes}

theorem headed (decimal : Decimal text blanks sign digits rest) :
    Headed text blanks sign (digits ++ rest) where
  split := decimal.split
  blank := decimal.blank
  starts := by
    intro _ c first
    obtain ⟨d, more, shape⟩ := List.exists_cons_of_ne_nil decimal.filled
    rw [shape] at first
    cases first
    exact unsigned_of_isDigit (decimal.digit c (by rw [shape]; exact List.mem_cons_self))

theorem decimalField_eq (decimal : Decimal text blanks sign digits rest) :
    decimalField text = (sign == some true, digits) := by
  unfold decimalField
  rw [decimal.headed.takeSign_dropWhile]
  dsimp only
  rw [takeWhile_append_of_head decimal.digit decimal.stops]

/-- A text of digits alone has no other part. -/
theorem plain_iff (decimal : Decimal text blanks sign digits rest) :
    (∀ c ∈ text, Json.isDigit c = true) ↔ blanks = [] ∧ sign = none ∧ rest = [] := by
  constructor
  · intro all
    rw [decimal.split] at all
    refine ⟨?_, ?_, ?_⟩
    · by_contra filled
      obtain ⟨c, more, shape⟩ := List.exists_cons_of_ne_nil filled
      have member : c ∈ blanks := by rw [shape]; exact List.mem_cons_self
      have digit := all c (List.mem_append_left _ member)
      exact absurd (decimal.blank c member) (by rw [(unsigned_of_isDigit digit).1]; decide)
    · rcases sign with _ | _ | _
      · rfl
      · exact absurd (all (Json.ch '+') (by simp [signText])) (by decide)
      · exact absurd (all (Json.ch '-') (by simp [signText])) (by decide)
    · by_contra filled
      obtain ⟨c, more, shape⟩ := List.exists_cons_of_ne_nil filled
      have stops := decimal.stops c (by rw [shape]; rfl)
      rw [all c (by simp [shape])] at stops
      cases stops
  · rintro ⟨rfl, rfl, rfl⟩
    rw [decimal.split]
    simpa [signText] using decimal.digit

end Decimal

theorem exists_decimal {text : Bytes} (filled : (decimalField text).2 ≠ []) :
    ∃ blanks sign digits rest, Decimal text blanks sign digits rest := by
  obtain ⟨blanks, sign, body, headed⟩ := exists_headed text
  have split := List.takeWhile_append_dropWhile (p := Json.isDigit) (l := body)
  unfold decimalField at filled
  rw [headed.takeSign_dropWhile] at filled
  refine ⟨blanks, sign, body.takeWhile Json.isDigit, body.dropWhile Json.isDigit, ?_, headed.blank,
    fun c member => List.mem_takeWhile_imp member, filled, ?_⟩
  · rw [split]
    exact headed.split
  · intro c first
    have stops := List.head?_dropWhile_not Json.isDigit body
    rw [first] at stops
    exact stops

/-- The number of a sign and the digits behind it. -/
def signedNumber (sign : Option Bool) (digits : Bytes) : Int :=
  if sign = some true then -(ofNumeral 10 digits : Int) else ofNumeral 10 digits

/-- `std::stoi` converts the texts that are decimal and denote an `int`. -/
theorem stoi_eq_some_iff {text : Bytes} {n : Int} :
    stoi text = some n ↔
      ∃ blanks sign digits rest, Decimal text blanks sign digits rest ∧
        n = signedNumber sign digits ∧ -2 ^ 31 ≤ n ∧ n < 2 ^ 31 := by
  have converts : ∀ {blanks sign digits rest}, Decimal text blanks sign digits rest →
      stoi text =
        if signedNumber sign digits < -2 ^ 31 ∨ 2 ^ 31 ≤ signedNumber sign digits then none
        else some (signedNumber sign digits) := by
    intro blanks sign digits rest decimal
    unfold stoi signedNumber
    rw [decimal.decimalField_eq]
    simp [decimal.filled]
  constructor
  · intro converted
    have filled : (decimalField text).2 ≠ [] := by
      intro empty
      rw [stoi] at converted
      simp [empty] at converted
    obtain ⟨blanks, sign, digits, rest, decimal⟩ := exists_decimal filled
    rw [converts decimal] at converted
    split at converted
    · cases converted
    · cases converted
      refine ⟨blanks, sign, digits, rest, decimal, rfl, ?_, ?_⟩ <;> omega
  · rintro ⟨blanks, sign, digits, rest, decimal, rfl, low, high⟩
    rw [converts decimal, if_neg (by omega)]

end WinInspect
