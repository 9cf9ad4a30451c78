import WinInspect.Data.Bytes

/-!
# Finite binary64 values

A finite `double` is `±mant · 2^exp` with a 53-bit mantissa.  Requiring a full
mantissa unless the exponent is the smallest one makes the representation
unique, so equality of the structure is equality of the bits (the two zeros
stay apart).  Infinities and NaN are left out: no number literal parses to one
and no conversion of an integer produces one.
-/

namespace WinInspect

/-- A finite IEEE 754 binary64 value. -/
structure Double where
  neg : Bool
  mant : Nat
  exp : Int
  mant_lt : mant < 2 ^ 53
  exp_range : -1074 ≤ exp ∧ exp ≤ 971
  normal : 2 ^ 52 ≤ mant ∨ exp = -1074
  deriving DecidableEq

namespace Double

/-- The zero of the given sign. -/
def zero (neg : Bool) : Double :=
  ⟨neg, 0, -1074, by norm_num, by omega, Or.inr rfl⟩

/-- Absolute value with the fraction cut off. -/
def truncAbs (d : Double) : Nat :=
  if 0 ≤ d.exp then d.mant * 2 ^ d.exp.toNat else d.mant / 2 ^ (-d.exp).toNat

/-- The integer a conversion to an integer type yields when it is in range. -/
def trunc (d : Double) : Int :=
  if d.neg then -(d.truncAbs : Int) else d.truncAbs

/-- The value has no fraction. -/
def IsInteger (d : Double) : Prop :=
  0 ≤ d.exp ∨ 2 ^ (-d.exp).toNat ∣ d.mant

instance (d : Double) : Decidable d.IsInteger :=
  inferInstanceAs (Decidable (_ ∨ _))

/-- `d == 0`, true of both zeros. -/
def isZero (d : Double) : Bool :=
  d.mant == 0

/-! ## Conversion from integers -/

theorem shift_lt {a : Nat} (small : a < 2 ^ 53) : a * 2 ^ (52 - a.log2) < 2 ^ 53 := by
  by_cases zero : a = 0
  · subst zero
    norm_num
  · have logLe : a.log2 ≤ 52 := by
      have := (Nat.log2_lt zero).mpr small
      omega
    have upper : a < 2 ^ (a.log2 + 1) := Nat.lt_log2_self
    calc
      a * 2 ^ (52 - a.log2) < 2 ^ (a.log2 + 1) * 2 ^ (52 - a.log2) :=
        Nat.mul_lt_mul_of_pos_right upper (by positivity)
      _ = 2 ^ 53 := by
        rw [← pow_add]
        congr 1
        omega

theorem le_shift {a : Nat} (positive : a ≠ 0) (small : a < 2 ^ 53) :
    2 ^ 52 ≤ a * 2 ^ (52 - a.log2) := by
  have logLe : a.log2 ≤ 52 := by
    have := (Nat.log2_lt positive).mpr small
    omega
  calc
    2 ^ 52 = 2 ^ a.log2 * 2 ^ (52 - a.log2) := by
      rw [← pow_add]
      congr 1
      omega
    _ ≤ a * 2 ^ (52 - a.log2) := Nat.mul_le_mul_right _ (Nat.log2_self_le positive)

/-- A magnitude of at most 53 bits, exactly. -/
def ofSmall (neg : Bool) (a : Nat) (small : a < 2 ^ 53) : Double :=
  if positive : a = 0 then zero neg
  else
    ⟨neg, a * 2 ^ (52 - a.log2), (a.log2 : Int) - 52, shift_lt small, by
      have := (Nat.log2_lt positive).mpr small
      omega, Or.inl (le_shift positive small)⟩

/-- Round a magnitude of 54 to 64 bits to the nearest mantissa, ties to even. -/
def roundMant (a : Nat) : Nat :=
  let unit := 2 ^ (a.log2 - 52)
  let kept := a / unit
  let rest := a % unit
  if unit < 2 * rest ∨ (unit = 2 * rest ∧ kept % 2 = 1) then kept + 1 else kept

/-- The `double` nearest to a signed magnitude, ties to even.  No integer type of
the source is wider than 64 bits, so the last branch is never taken. -/
def ofNat (neg : Bool) (a : Nat) : Double :=
  if small : a < 2 ^ 53 then ofSmall neg a small
  else if wide : a.log2 < 64 then
    let m := roundMant a
    if full : 2 ^ 52 ≤ m ∧ m < 2 ^ 53 then
      ⟨neg, m, (a.log2 : Int) - 52, full.2, by omega, Or.inl full.1⟩
    else ⟨neg, 2 ^ 52, (a.log2 : Int) - 51, by norm_num, by omega, Or.inl (le_refl _)⟩
  else zero neg

/-- Conversion of an integer to `double`. -/
def ofInt (n : Int) : Double :=
  ofNat (decide (n < 0)) n.natAbs

example : ofInt (-5) = ⟨true, 5 * 2 ^ 50, -50, by norm_num, by omega, Or.inl (by norm_num)⟩ := by
  decide

example : (ofInt (2 ^ 53 + 1)).trunc = 2 ^ 53 := by decide

/-- The conversion of an integer is integral. -/
theorem isInteger_ofInt (n : Int) : (ofInt n).IsInteger := by
  unfold ofInt ofNat
  split
  · unfold ofSmall
    split
    · exact Or.inr (dvd_zero _)
    · unfold IsInteger
      dsimp only
      rcases Nat.le_total 52 n.natAbs.log2 with large | small
      · left
        omega
      · right
        have exponent : (-((n.natAbs.log2 : Int) - 52)).toNat = 52 - n.natAbs.log2 := by omega
        rw [exponent]
        exact Nat.dvd_mul_left _ _
  · rename_i large
    have log : 52 ≤ n.natAbs.log2 := (Nat.le_log2 (by omega)).mpr (by omega)
    split
    · dsimp only
      split
      all_goals
        left
        dsimp only
        omega
    · exact Or.inr (dvd_zero _)

@[simp]
theorem ofNat_neg (neg : Bool) (a : Nat) : (ofNat neg a).neg = neg := by
  unfold ofNat ofSmall
  split
  · split <;> rfl
  · split
    · dsimp only
      split <;> rfl
    · rfl

/-- The conversion of a magnitude of at most 53 bits is exact. -/
theorem truncAbs_ofNat (neg : Bool) {a : Nat} (small : a < 2 ^ 53) :
    (ofNat neg a).truncAbs = a := by
  rw [ofNat, dif_pos small, ofSmall]
  by_cases zeroAbs : a = 0
  · have denormal : ¬ (0 : Int) ≤ -1074 := by omega
    rw [dif_pos zeroAbs, zeroAbs, truncAbs, zero, if_neg denormal, Nat.zero_div]
  · have logLe : a.log2 ≤ 52 := by
      have := (Nat.log2_lt zeroAbs).mpr small
      omega
    rw [dif_neg zeroAbs, truncAbs]
    dsimp only
    split
    · rename_i nonneg
      have top : a.log2 = 52 := by omega
      simp [top]
    · have exponent : (-((a.log2 : Int) - 52)).toNat = 52 - a.log2 := by omega
      rw [exponent, Nat.mul_div_cancel _ (by positivity)]

theorem trunc_ofInt {n : Int} (small : n.natAbs < 2 ^ 53) : (ofInt n).trunc = n := by
  unfold trunc ofInt
  rw [ofNat_neg, truncAbs_ofNat _ small]
  simp only [decide_eq_true_eq]
  omega

theorem ext_fields {d e : Double} (neg : d.neg = e.neg) (mant : d.mant = e.mant)
    (exp : d.exp = e.exp) : d = e := by
  cases d
  cases e
  simp_all

/-- An integral denormal is zero. -/
theorem mant_eq_zero_of_isInteger {d : Double} (integral : d.IsInteger)
    (denormal : d.mant < 2 ^ 52) : d.mant = 0 := by
  have exponent : d.exp = -1074 := d.normal.resolve_left (by omega)
  rcases integral with nonneg | divides
  · omega
  · rw [exponent] at divides
    by_contra nonzero
    have large := Nat.le_of_dvd (Nat.pos_of_ne_zero nonzero) divides
    have huge : 2 ^ 52 ≤ 2 ^ (-(-1074 : Int)).toNat := Nat.pow_le_pow_right (by omega) (by decide)
    omega

theorem log2_mul_two_pow {a : Nat} (positive : a ≠ 0) (k : Nat) :
    (a * 2 ^ k).log2 = a.log2 + k := by
  have unit : 0 < 2 ^ k := by positivity
  apply (Nat.log2_eq_iff (Nat.mul_ne_zero positive unit.ne')).mpr
  constructor
  · rw [pow_add]
    exact Nat.mul_le_mul_right _ (Nat.log2_self_le positive)
  · rw [show a.log2 + k + 1 = a.log2 + 1 + k by omega, pow_add]
    exact Nat.mul_lt_mul_of_pos_right Nat.lt_log2_self unit

/-- A small magnitude shifted to 52 bits below its leading one is its conversion. -/
theorem eq_ofNat_of_shift {d : Double} {a : Nat} (positive : a ≠ 0) (small : a < 2 ^ 53)
    (mant : d.mant = a * 2 ^ (52 - a.log2)) (exp : d.exp = a.log2 - 52) : d = ofNat d.neg a := by
  rw [ofNat, dif_pos small, ofSmall, dif_neg positive]
  exact ext_fields rfl mant exp

/-- An integer of magnitude at most 2^53 is the conversion of its own magnitude:
the representation is unique. -/
theorem eq_ofNat_of_isInteger {d : Double} (integral : d.IsInteger)
    (bounded : d.truncAbs ≤ 2 ^ 53) : d = ofNat d.neg d.truncAbs := by
  have mantLt := d.mant_lt
  by_cases denormal : d.mant < 2 ^ 52
  · have zeroMant := mant_eq_zero_of_isInteger integral denormal
    have exponent : d.exp = -1074 := d.normal.resolve_left (by omega)
    have zeroAbs : d.truncAbs = 0 := by simp [truncAbs, zeroMant]
    rw [zeroAbs]
    exact ext_fields rfl zeroMant exponent
  have mantLog : d.mant.log2 = 52 := (Nat.log2_eq_iff (by omega)).mpr ⟨by omega, mantLt⟩
  by_cases nonneg : 0 ≤ d.exp
  · -- the exponent is 0 or 1, and 1 only at 2^53
    have value : d.truncAbs = d.mant * 2 ^ d.exp.toNat := by rw [truncAbs, if_pos nonneg]
    have small : d.exp.toNat ≤ 1 := by
      by_contra large
      have four : 2 ^ 2 ≤ 2 ^ d.exp.toNat := Nat.pow_le_pow_right (by omega) (by omega)
      have product := Nat.mul_le_mul (Nat.le_of_not_lt denormal) four
      omega
    rcases Nat.le_one_iff_eq_zero_or_eq_one.mp small with zero | one
    · rw [zero, pow_zero, Nat.mul_one] at value
      rw [value]
      apply eq_ofNat_of_shift (by omega) mantLt
      · rw [mantLog, Nat.sub_self, pow_zero, Nat.mul_one]
      · rw [mantLog]
        omega
    · rw [one, pow_one] at value
      have mantEq : d.mant = 2 ^ 52 := by omega
      have top : ofNat d.neg (2 ^ 52 * 2) =
          ⟨d.neg, 2 ^ 52, 1, by norm_num, by omega, Or.inl (le_refl _)⟩ := rfl
      rw [value, mantEq, top]
      exact ext_fields rfl mantEq (by simp only; omega)
  · -- a negative exponent shifts the integer up to a full mantissa
    have divides : 2 ^ (-d.exp).toNat ∣ d.mant := integral.resolve_left nonneg
    have value : d.truncAbs * 2 ^ (-d.exp).toNat = d.mant := by
      rw [truncAbs, if_neg nonneg, Nat.div_mul_cancel divides]
    have positive : d.truncAbs ≠ 0 := by
      intro zero
      rw [zero, Nat.zero_mul] at value
      omega
    have logs : d.truncAbs.log2 + (-d.exp).toNat = 52 := by
      rw [← log2_mul_two_pow positive, value, mantLog]
    have small : d.truncAbs < 2 ^ 53 := by
      have := Nat.mul_le_mul_left d.truncAbs (Nat.one_le_two_pow (n := (-d.exp).toNat))
      omega
    apply eq_ofNat_of_shift positive small
    · rw [← value, ← logs, Nat.add_sub_cancel_left]
    · omega

/-! ## Decimal output -/

/-- The number of millionths nearest to the magnitude, ties to even. -/
def millionths (d : Double) : Nat :=
  if 0 ≤ d.exp then d.mant * 2 ^ d.exp.toNat * 10 ^ 6
  else
    let unit := 2 ^ (-d.exp).toNat
    let kept := d.mant * 10 ^ 6 / unit
    let rest := d.mant * 10 ^ 6 % unit
    if unit < 2 * rest ∨ (unit = 2 * rest ∧ kept % 2 = 1) then kept + 1 else kept

/-- A number below a million with leading zeros, six digits. -/
def sixDigits (n : Nat) : Bytes :=
  List.replicate (6 - (decimal n).length) (digitByte 0) ++ decimal n

/-- `std::to_string(double)`, which prints as `%f`: six digits after the point. -/
def toString (d : Double) : Bytes :=
  (if d.neg then ascii "-" else []) ++ decimal (d.millionths / 10 ^ 6) ++ ascii "." ++
    sixDigits (d.millionths % 10 ^ 6)

example : (ofInt (-120)).toString = ascii "-120.000000" := by decide

/-- On integral values the printed millionths are those of the integer part. -/
theorem millionths_of_isInteger {d : Double} (integral : d.IsInteger) :
    d.millionths = d.truncAbs * 10 ^ 6 := by
  unfold millionths truncAbs
  by_cases nonneg : 0 ≤ d.exp
  · rw [if_pos nonneg, if_pos nonneg]
  · rcases integral with absurdNonneg | divides
    · exact absurd absurdNonneg nonneg
    · obtain ⟨quotient, product⟩ := divides
      have unitPos : 0 < 2 ^ (-d.exp).toNat := by positivity
      have scaled : d.mant * 10 ^ 6 = 2 ^ (-d.exp).toNat * (quotient * 10 ^ 6) := by
        rw [product, Nat.mul_assoc]
      rw [if_neg nonneg, if_neg nonneg]
      simp only [scaled, Nat.mul_div_cancel_left _ unitPos, Nat.mul_mod_right]
      rw [if_neg (by omega), product, Nat.mul_div_cancel_left _ unitPos]

/-- Integral values print as their decimal digits and six zeros. -/
theorem toString_of_isInteger {d : Double} (integral : d.IsInteger) :
    d.toString =
      (if d.neg then ascii "-" else []) ++ decimal d.truncAbs ++ ascii "." ++
        List.replicate 6 (digitByte 0) := by
  unfold toString
  rw [millionths_of_isInteger integral, Nat.mul_div_cancel _ (by norm_num), Nat.mul_mod_left]
  rfl

end Double

end WinInspect
