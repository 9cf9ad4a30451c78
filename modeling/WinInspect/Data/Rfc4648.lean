import WinInspect.Data.Bytes

/-!
# Base64 by groups

The base64 encoding of RFC 4648, read off the document: 24 input bits at a time are four
characters, and a shorter last group is padded.  `Encodes` is the relation between texts and
the bytes they stand for; the document leaves it to a decoder whether the bits a padded
group does not use have to be zero, so this is a parameter.

`wholeOctets` is what any number of sextets determines: a last group of two or three
sextets gives one or two octets, and the bits left over give nothing.
-/

namespace WinInspect.Rfc4648

/-- The character of a 6-bit value. -/
def symbol (value : Nat) : UInt8 :=
  UInt8.ofNat
    (if value < 26 then 65 + value
    else if value < 52 then 71 + value
    else if value < 62 then value - 4
    else if value = 62 then 43
    else 47)

/-- The 6-bit value of a character of the alphabet. -/
def value? (c : UInt8) : Option Nat :=
  (List.range 64).find? fun value => symbol value = c

/-- The padding character `=`. -/
def padding : UInt8 :=
  61

/-- The four 6-bit values of a 24-bit group, the most significant first. -/
def sextets (group : Nat) : List Nat :=
  [group / 2 ^ 18 % 64, group / 2 ^ 12 % 64, group / 2 ^ 6 % 64, group % 64]

/-- The three bytes of a 24-bit group, the most significant first. -/
def octets (group : Nat) : Bytes :=
  [UInt8.ofNat (group / 2 ^ 16), UInt8.ofNat (group / 2 ^ 8), UInt8.ofNat group]

/-- The group of three bytes. -/
def group (a b c : UInt8) : Nat :=
  a.toNat * 2 ^ 16 + b.toNat * 2 ^ 8 + c.toNat

/-- The encoding, with zero bits behind a last group of one or two bytes. -/
def encode : Bytes → Bytes
  | a :: b :: c :: rest => (sextets (group a b c)).map symbol ++ encode rest
  | [a, b] => ((sextets (group a b 0)).take 3).map symbol ++ [padding]
  | [a] => ((sextets (group a 0 0)).take 2).map symbol ++ [padding, padding]
  | [] => []

/-- A text and the bytes it stands for; `strict` asks for zeros in the unused bits. -/
inductive Encodes (strict : Bool) : Bytes → Bytes → Prop
  | nil : Encodes strict [] []
  | one {n : Nat} (unused : strict = true → n % 2 ^ 16 = 0) :
      Encodes strict (((sextets n).take 2).map symbol ++ [padding, padding]) ((octets n).take 1)
  | two {n : Nat} (unused : strict = true → n % 2 ^ 8 = 0) :
      Encodes strict (((sextets n).take 3).map symbol ++ [padding]) ((octets n).take 2)
  | group {n : Nat} {text bytes : Bytes} (rest : Encodes strict text bytes) :
      Encodes strict ((sextets n).map symbol ++ text) (octets n ++ bytes)

/-- The octets that a sequence of sextets fills. -/
def wholeOctets : List Nat → Bytes
  | w :: x :: y :: z :: rest =>
      octets (w * 2 ^ 18 + x * 2 ^ 12 + y * 2 ^ 6 + z) ++ wholeOctets rest
  | [w, x, y] => (octets (w * 2 ^ 18 + x * 2 ^ 12 + y * 2 ^ 6)).take 2
  | [w, x] => (octets (w * 2 ^ 18 + x * 2 ^ 12)).take 1
  | _ => []

/-- The values of the characters in front of the first one outside the alphabet. -/
def leading : Bytes → List Nat
  | [] => []
  | c :: rest =>
      match value? c with
      | some value => value :: leading rest
      | none => []

/-! ## Groups -/

theorem ofNat_congr {m n : Nat} (same : m % 256 = n % 256) : UInt8.ofNat m = UInt8.ofNat n := by
  rw [← UInt8.toNat_inj, UInt8.toNat_ofNat', UInt8.toNat_ofNat']
  exact same

/-- Only 24 bits of a group count. -/
theorem octets_congr {m n : Nat} (same : m % 2 ^ 24 = n % 2 ^ 24) : octets m = octets n := by
  unfold octets
  rw [ofNat_congr (show m / 2 ^ 16 % 256 = n / 2 ^ 16 % 256 by omega),
    ofNat_congr (show m / 2 ^ 8 % 256 = n / 2 ^ 8 % 256 by omega),
    ofNat_congr (show m % 256 = n % 256 by omega)]

theorem octets_group (a b c : UInt8) : octets (group a b c) = [a, b, c] := by
  have first := a.toNat_lt
  have second := b.toNat_lt
  have third := c.toNat_lt
  have high : group a b c / 2 ^ 16 = a.toNat := by
    unfold group
    omega
  have middle : group a b c / 2 ^ 8 % 2 ^ 8 = b.toNat := by
    unfold group
    omega
  have low : group a b c % 2 ^ 8 = c.toNat := by
    unfold group
    omega
  unfold octets
  congr 1
  · rw [high, UInt8.ofNat_toNat]
  · congr 1
    · rw [← UInt8.toNat_inj, UInt8.toNat_ofNat', middle]
    · congr 1
      rw [← UInt8.toNat_inj, UInt8.toNat_ofNat', low]

theorem sextets_lt {n value : Nat} (member : value ∈ sextets n) : value < 64 := by
  simp only [sextets, List.mem_cons, List.not_mem_nil, or_false] at member
  omega

/-! ## The alphabet -/

theorem value?_symbol {value : Nat} (small : value < 64) : value? (symbol value) = some value := by
  interval_cases value <;> decide

theorem value?_lt {c : UInt8} {value : Nat} (found : value? c = some value) : value < 64 :=
  List.mem_range.mp (List.mem_of_find?_eq_some found)

theorem symbol_of_value? {c : UInt8} {value : Nat} (found : value? c = some value) :
    symbol value = c := by
  simpa using List.find?_some found

theorem value?_padding : value? padding = none := by
  decide

/-! ## Encodings -/

/-- An encoding stands for the bytes it is made of. -/
theorem encodes_encode (strict : Bool) (bytes : Bytes) : Encodes strict (encode bytes) bytes := by
  induction bytes using encode.induct with
  | case1 a b c rest inductionHypothesis =>
      have step := Encodes.group (n := group a b c) inductionHypothesis
      rwa [octets_group] at step
  | case2 a b =>
      have step := @Encodes.two strict (group a b 0) fun _ => by
        unfold group
        simp
        omega
      rwa [octets_group] at step
  | case3 a =>
      have step := @Encodes.one strict (group a 0 0) fun _ => by
        unfold group
        simp
      rwa [octets_group] at step
  | case4 => exact .nil

theorem length_encode (bytes : Bytes) : (encode bytes).length = 4 * ((bytes.length + 2) / 3) := by
  induction bytes using encode.induct with
  | case1 a b c rest inductionHypothesis =>
      simp only [encode, List.length_append, List.length_map, inductionHypothesis,
        List.length_cons, sextets, List.length_nil]
      omega
  | case2 a b => simp [encode, sextets]
  | case3 a => simp [encode, sextets]
  | case4 => rfl

/-! ## Leading sextets -/

theorem leading_append {values : List Nat} (small : ∀ value ∈ values, value < 64) (text : Bytes) :
    leading (values.map symbol ++ text) = values ++ leading text := by
  induction values with
  | nil => rfl
  | cons value values inductionHypothesis =>
      have first := value?_symbol (small value List.mem_cons_self)
      rw [List.map_cons, List.cons_append, leading, first, List.cons_append,
        inductionHypothesis fun other member => small other (List.mem_cons_of_mem _ member)]

theorem leading_lt {text : Bytes} {value : Nat} (member : value ∈ leading text) : value < 64 := by
  induction text with
  | nil => cases member
  | cons c rest inductionHypothesis =>
      rw [leading] at member
      cases found : value? c with
      | none => simp [found] at member
      | some first =>
          rw [found] at member
          rcases List.mem_cons.mp member with rfl | later
          · exact value?_lt found
          · exact inductionHypothesis later

theorem leading_padding (text : Bytes) : leading (padding :: text) = [] := by
  rw [leading, value?_padding]

theorem wholeOctets_sextets (n : Nat) (rest : List Nat) :
    wholeOctets (sextets n ++ rest) = octets n ++ wholeOctets rest := by
  simp only [sextets, List.cons_append, List.nil_append, wholeOctets]
  rw [octets_congr (n := n) (by omega)]

/-- A text determines the bytes it stands for. -/
theorem Encodes.wholeOctets_leading {strict : Bool} {text bytes : Bytes}
    (encodes : Encodes strict text bytes) : wholeOctets (leading text) = bytes := by
  induction encodes with
  | nil => rfl
  | @one n unused =>
      rw [leading_append fun value member => sextets_lt (List.mem_of_mem_take member),
        leading_padding, List.append_nil]
      simp only [sextets, List.take_succ_cons, List.take_zero, wholeOctets, octets,
        List.cons.injEq, and_true]
      exact ofNat_congr (by omega)
  | @two n unused =>
      rw [leading_append fun value member => sextets_lt (List.mem_of_mem_take member),
        leading_padding, List.append_nil]
      simp only [sextets, List.take_succ_cons, List.take_zero, wholeOctets, octets,
        List.cons.injEq, and_true]
      exact ⟨ofNat_congr (by omega), ofNat_congr (by omega)⟩
  | @group n text bytes rest inductionHypothesis =>
      rw [leading_append fun value => sextets_lt, wholeOctets_sextets, inductionHypothesis]

/-- An encoding gives back the bytes it is made of. -/
theorem wholeOctets_encode (bytes : Bytes) : wholeOctets (leading (encode bytes)) = bytes :=
  (encodes_encode true bytes).wholeOctets_leading

theorem length_wholeOctets (values : List Nat) :
    (wholeOctets values).length = values.length * 3 / 4 := by
  induction values using wholeOctets.induct with
  | case1 w x y z rest ih =>
      rw [wholeOctets, List.length_append, ih]
      simp only [octets, List.length_cons, List.length_nil]
      omega
  | case2 w x y => simp [wholeOctets, octets]
  | case3 w x => simp [wholeOctets, octets]
  | case4 values four three two =>
      match values with
      | [] => simp [wholeOctets]
      | [w] => simp [wholeOctets]
      | [w, x] => exact absurd rfl (two w x)
      | [w, x, y] => exact absurd rfl (three w x y)
      | w :: x :: y :: z :: rest => exact absurd rfl (four w x y z rest)

/-- The length of a valid text is a multiple of four. -/
theorem Encodes.length_mod {strict : Bool} {text bytes : Bytes}
    (encodes : Encodes strict text bytes) : text.length % 4 = 0 := by
  induction encodes with
  | nil => rfl
  | one unused => simp [sextets]
  | two unused => simp [sextets]
  | group rest inductionHypothesis =>
      simp only [sextets, List.map_cons, List.map_nil, List.length_append, List.length_cons,
        List.length_nil]
      omega

end WinInspect.Rfc4648
