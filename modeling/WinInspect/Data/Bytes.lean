import Mathlib.Data.Nat.Digits.Lemmas
import Mathlib.Data.List.Infix
import Mathlib.Order.Basic
import Mathlib.Data.List.Lex

/-!
# Byte strings and numerals

A C++ `std::string` is a sequence of bytes, so the development uses lists of
`UInt8` and not Lean's Unicode strings.  `ascii` writes the literals.  The order
on byte strings is the one `std::map<std::string, _>` iterates in.

The second half is positional notation in a base between 2 and 16, with upper
case digits: decimal for counters and numbers, hexadecimal for handles.
-/

namespace WinInspect

/-- A byte string. -/
abbrev Bytes := List UInt8

/-- The bytes of an ASCII literal. -/
def ascii (text : String) : Bytes :=
  text.toList.map fun c => UInt8.ofNat c.toNat

instance instLinearOrderUInt8 : LinearOrder UInt8 where
  le_refl a := Nat.le_refl a.toNat
  le_trans a b c := Nat.le_trans (n := a.toNat) (m := b.toNat) (k := c.toNat)
  lt_iff_le_not_ge a b := by
    rw [UInt8.lt_iff_toNat_lt, UInt8.le_iff_toNat_le, UInt8.le_iff_toNat_le]
    omega
  le_antisymm a b := by
    rw [UInt8.le_iff_toNat_le, UInt8.le_iff_toNat_le, ← UInt8.toNat_inj]
    omega
  le_total a b := Nat.le_total a.toNat b.toNat
  toDecidableLE := inferInstance
  toDecidableLT := inferInstance
  toDecidableEq := inferInstance

-- named, so that tests for membership are decided by one term everywhere
instance instLawfulBEqUInt8 : LawfulBEq UInt8 :=
  inferInstance

instance instLawfulBEqBytes : LawfulBEq Bytes :=
  inferInstance

/-- `haystack.find(needle) != npos`. -/
def containsBytes (haystack needle : Bytes) : Bool :=
  decide (needle <:+: haystack)

/-! ## The front of a text -/

section

variable {α : Type*} {p : α → Bool} {before after : List α}

theorem dropWhile_append_of_head (all : ∀ a ∈ before, p a = true)
    (stops : ∀ a ∈ after.head?, p a = false) : (before ++ after).dropWhile p = after := by
  rw [List.dropWhile_append_of_pos all]
  cases after with
  | nil => rfl
  | cons a rest => rw [List.dropWhile_cons_of_neg]; simp [stops a rfl]

theorem takeWhile_append_of_head (all : ∀ a ∈ before, p a = true)
    (stops : ∀ a ∈ after.head?, p a = false) : (before ++ after).takeWhile p = before := by
  rw [List.takeWhile_append_of_pos all]
  cases after with
  | nil => simp
  | cons a rest => rw [List.takeWhile_cons_of_neg] <;> simp [stops a rfl]

/-- The front is what stands before a mark that does not occur in it. -/
theorem takeWhile_bne_append [BEq α] [LawfulBEq α] {mark : α} (absent : mark ∉ before)
    (rest : List α) : (before ++ mark :: rest).takeWhile (fun a => a != mark) = before := by
  apply takeWhile_append_of_head
  · intro a member
    exact bne_iff_ne.mpr fun same => absent (same ▸ member)
  · intro a first
    rw [← Option.some.inj first]
    exact bne_self_eq_false mark

end

/-! ## Numerals -/

/-- The upper-case digit of a value below 16. -/
def digitByte (digit : Nat) : UInt8 :=
  UInt8.ofNat (if digit < 10 then 48 + digit else 55 + digit)

/-- The value of a digit of either case. -/
def digitValue (c : UInt8) : Option Nat :=
  if 48 ≤ c.toNat ∧ c.toNat ≤ 57 then some (c.toNat - 48)
  else if 97 ≤ c.toNat ∧ c.toNat ≤ 102 then some (c.toNat - 87)
  else if 65 ≤ c.toNat ∧ c.toNat ≤ 70 then some (c.toNat - 55)
  else none

theorem digitValue_digitByte {digit : Nat} (small : digit < 16) :
    digitValue (digitByte digit) = some digit := by
  interval_cases digit <;> decide

/-- Positional notation, most significant digit first and without leading zeros. -/
def numeral (base n : Nat) : Bytes :=
  if n = 0 then [digitByte 0] else (Nat.digits base n).reverse.map digitByte

/-- The number a digit string denotes. -/
def ofNumeral (base : Nat) (text : Bytes) : Nat :=
  text.foldl (fun value c => value * base + (digitValue c).getD 0) 0

theorem numeral_ne_nil (base n : Nat) : numeral base n ≠ [] := by
  unfold numeral
  split
  · simp
  · rename_i nonzero
    simpa using Nat.digits_ne_nil_iff_ne_zero.mpr nonzero

/-- Every byte of a numeral is the digit of a value below the base. -/
theorem mem_numeral {base n : Nat} (two : 2 ≤ base) {c : UInt8} (member : c ∈ numeral base n) :
    ∃ digit < base, c = digitByte digit := by
  unfold numeral at member
  split at member
  · exact ⟨0, by omega, by simpa using member⟩
  · simp only [List.mem_map, List.mem_reverse] at member
    obtain ⟨digit, digitMem, rfl⟩ := member
    exact ⟨digit, Nat.digits_lt_base (by omega) digitMem, rfl⟩

/-- A numeral that starts with the digit zero is the numeral of zero. -/
theorem numeral_head_zero {base n : Nat} (two : 2 ≤ base) (sixteen : base ≤ 16) {rest : Bytes}
    (shape : numeral base n = digitByte 0 :: rest) : n = 0 := by
  by_contra nonzero
  have digitsNe := Nat.digits_ne_nil_iff_ne_zero (b := base).mpr nonzero
  rw [numeral, if_neg nonzero] at shape
  have lead : digitByte ((Nat.digits base n).getLast digitsNe) = digitByte 0 := by
    have := congrArg List.head? shape
    simpa [List.head?_reverse, List.getLast?_eq_getLast_of_ne_nil digitsNe] using this
  have leadLt : (Nat.digits base n).getLast digitsNe < 16 :=
    (Nat.digits_lt_base (by omega) (List.getLast_mem digitsNe)).trans_le sixteen
  have leadZero : (Nat.digits base n).getLast digitsNe = 0 := by
    have values := congrArg digitValue lead
    rw [digitValue_digitByte leadLt, digitValue_digitByte (by omega)] at values
    exact Option.some.inj values
  exact Nat.getLast_digit_ne_zero base nonzero leadZero

private theorem ofNumeral_digits {base : Nat} (sixteen : base ≤ 16) (digits : List Nat)
    (small : ∀ digit ∈ digits, digit < base) :
    ofNumeral base (digits.reverse.map digitByte) = Nat.ofDigits base digits := by
  induction digits with
  | nil => rfl
  | cons digit digits ih =>
      have digitLt : digit < base := small digit List.mem_cons_self
      have restLt : ∀ other ∈ digits, other < base :=
        fun other member => small other (List.mem_cons_of_mem _ member)
      have rest := ih restLt
      unfold ofNumeral at rest ⊢
      rw [List.reverse_cons, List.map_append, List.foldl_append, rest]
      simp only [List.map_cons, List.map_nil, List.foldl_cons, List.foldl_nil,
        digitValue_digitByte (digitLt.trans_le sixteen), Option.getD_some, Nat.ofDigits_cons]
      ring

/-- Reading a numeral back gives the number. -/
theorem ofNumeral_numeral {base : Nat} (two : 2 ≤ base) (sixteen : base ≤ 16) (n : Nat) :
    ofNumeral base (numeral base n) = n := by
  unfold numeral
  split
  · rename_i zero
    subst zero
    simp [ofNumeral, digitValue_digitByte]
  · rw [ofNumeral_digits sixteen _ fun digit member => Nat.digits_lt_base (by omega) member,
      Nat.ofDigits_digits]

theorem numeral_injective {base : Nat} (two : 2 ≤ base) (sixteen : base ≤ 16) :
    Function.Injective (numeral base) := by
  intro left right same
  rw [← ofNumeral_numeral two sixteen left, same, ofNumeral_numeral two sixteen]

theorem ofNumeral_concat (base : Nat) (text : Bytes) (c : UInt8) :
    ofNumeral base (text ++ [c]) = ofNumeral base text * base + (digitValue c).getD 0 := by
  unfold ofNumeral
  rw [List.foldl_append]
  rfl

/-- Digits below the base denote less than the power of their number. -/
theorem ofNumeral_lt {base : Nat} {text : Bytes}
    (small : ∀ c ∈ text, (digitValue c).getD 0 < base) :
    ofNumeral base text < base ^ text.length := by
  induction text using List.reverseRecOn with
  | nil => exact Nat.one_pos
  | append_singleton text c inductionHypothesis =>
      have rest := inductionHypothesis fun d member => small d (List.mem_append_left _ member)
      have last := small c (List.mem_append_right _ (List.mem_singleton_self c))
      rw [ofNumeral_concat, List.length_append, List.length_singleton, pow_succ]
      calc
        ofNumeral base text * base + (digitValue c).getD 0
            < ofNumeral base text * base + base := Nat.add_lt_add_left last _
        _ = (ofNumeral base text + 1) * base := (Nat.succ_mul _ _).symm
        _ ≤ base ^ text.length * base := Nat.mul_le_mul_right base rest

/-- `std::to_string` of a non-negative integer. -/
def decimal (n : Nat) : Bytes :=
  numeral 10 n

theorem decimal_injective : Function.Injective decimal :=
  numeral_injective (by omega) (by omega)

example : decimal 1985 = ascii "1985" := by decide

end WinInspect
