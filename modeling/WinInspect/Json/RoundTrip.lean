import WinInspect.Json.Dump

/-!
# Parsing what was serialized

The parser inverts the serializer.  Positions are handled through the rest of the
text: `s.drop i = c :: rest` says that `c` is read next, and each lemma turns such
an equation at one position into the equation at the position where the parser
stops.  The induction over the tree carries the byte that may follow a value: a
comma or a closing bracket, so that a number ends where its digits end.
-/

namespace WinInspect.Json

namespace Parser

/-! ## Reading at a position -/

section Reading

variable {s : Bytes} {i : Nat} {c : UInt8} {rest : Bytes}

theorem getElem?_of_drop (shape : s.drop i = c :: rest) : s[i]? = some c := by
  have first := congrArg List.head? shape
  rwa [List.head?_drop, List.head?_cons] at first

theorem get_of_drop (shape : s.drop i = c :: rest) : get s i = .ok (c, i + 1) := by
  rw [get, getElem?_of_drop shape]

theorem peek_of_drop (shape : s.drop i = c :: rest) : peek s i = c := by
  rw [peek, List.getD_eq_getElem?_getD, getElem?_of_drop shape, Option.getD_some]

theorem drop_add_of_drop {taken : Bytes} (shape : s.drop i = taken ++ rest) :
    s.drop (i + taken.length) = rest := by
  rw [← List.drop_drop, shape, List.drop_left]

theorem drop_succ_of_drop (shape : s.drop i = c :: rest) : s.drop (i + 1) = rest := by
  rw [← List.drop_drop, shape, List.drop_one, List.tail_cons]

theorem skipWs_of_drop (shape : s.drop i = c :: rest) (solid : isSpace c = false) :
    skipWs s i = i := by
  rw [skipWs, shape, List.takeWhile_cons_of_neg (by simp [solid]), List.length_nil, Nat.add_zero]

theorem get_skipWs_of_drop (shape : s.drop i = c :: rest) (solid : isSpace c = false) :
    get s (skipWs s i) = .ok (c, i + 1) := by
  rw [skipWs_of_drop shape solid, get_of_drop shape]

theorem peek_of_get {j : Nat} (read : get s i = .ok (c, j)) : peek s i = c := by
  unfold get at read
  split at read
  · rename_i found
    cases read
    rw [peek, List.getD_eq_getElem?_getD, found, Option.getD_some]
  · cases read

theorem skipWs_of_drop_nil (shape : s.drop i = []) : skipWs s i = i := by
  rw [skipWs, shape, List.takeWhile_nil, List.length_nil, Nat.add_zero]

end Reading

/-! ## Strings -/

theorem hexval_hexLower {digit : Nat} (small : digit < 16) :
    hexval (hexLower digit) = some digit := by
  interval_cases digit <;> decide

section Strings

variable {s : Bytes} {i fuel : Nat} {c : UInt8} {rest : Bytes}

/-- A backslash hands over to the escape parser. -/
theorem parseStringLoop_escape {out piece : Bytes} {j : Nat}
    (shape : s.drop i = ch '\\' :: rest) (escape : parseEscape s (i + 1) = .ok (piece, j)) :
    parseStringLoop s (fuel + 1) out i = parseStringLoop s fuel (out ++ piece) j := by
  rw [parseStringLoop, get_of_drop shape]
  simp only [bind, Except.bind]
  rw [if_neg (by decide), if_pos trivial, escape]

theorem parseEscape_short {e : UInt8} (known : shortEscape e = some c)
    (shape : s.drop i = e :: rest) : parseEscape s i = .ok ([c], i + 1) := by
  rw [parseEscape, get_of_drop shape]
  simp only [bind, Except.bind, known]

/-- A `\u00xy` escape of a byte below 0x20 reads back as that byte. -/
theorem parseUnicode_control (control : c.toNat < 0x20)
    (shape : s.drop i =
      ch '0' :: ch '0' :: hexLower (c.toNat / 16) :: hexLower (c.toNat % 16) :: rest) :
    parseUnicode s i = .ok ([c], i + 4) := by
  have shape1 := drop_succ_of_drop shape
  have shape2 := drop_succ_of_drop shape1
  have shape3 := drop_succ_of_drop shape2
  have zero : hexval (ch '0') = some 0 := by decide
  have high := hexval_hexLower (show c.toNat / 16 < 16 by omega)
  have low := hexval_hexLower (show c.toNat % 16 < 16 by omega)
  have code : 0 * 4096 + 0 * 256 + c.toNat / 16 * 16 + c.toNat % 16 = c.toNat := by omega
  rw [parseUnicode, get_of_drop shape]
  simp only [bind, Except.bind]
  rw [get_of_drop shape1]
  simp only
  rw [get_of_drop shape2]
  simp only
  rw [get_of_drop shape3]
  simp only [zero, high, low, code]
  rw [utf8, if_pos (by omega), UInt8.ofNat_toNat]

/-- The forms in which a byte is serialized. -/
inductive Dumped (c : UInt8) : Bytes → Prop
  | short {e : UInt8} (known : shortEscape e = some c) : Dumped c [ch '\\', e]
  | control (low : c < 0x20) :
      Dumped c [ch '\\', ch 'u', ch '0', ch '0', hexLower (c.toNat / 16), hexLower (c.toNat % 16)]
  | plain (quote : c ≠ ch '"') (backslash : c ≠ ch '\\') : Dumped c [c]

theorem Dumped.one_le_length {text : Bytes} (dumped : Dumped c text) : 1 ≤ text.length := by
  cases dumped <;> simp

theorem dumped_dumpByte (c : UInt8) : Dumped c (dumpByte c) := by
  unfold dumpByte
  by_cases quote : c = ch '"'
  · rw [if_pos quote, quote]
    exact .short (by decide)
  rw [if_neg quote]
  by_cases backslash : c = ch '\\'
  · rw [if_pos backslash, backslash]
    exact .short (by decide)
  rw [if_neg backslash]
  -- the five control characters with an escape of their own
  iterate 5
    split
    · subst c
      exact .short (by decide)
  split
  · exact .control ‹_›
  · exact .plain quote backslash

/-- One serialized byte is one round of the loop. -/
theorem parseStringLoop_dumpByte {out : Bytes} (shape : s.drop i = dumpByte c ++ rest) :
    parseStringLoop s (fuel + 1) out i =
      parseStringLoop s fuel (out ++ [c]) (i + (dumpByte c).length) := by
  have dumped := dumped_dumpByte c
  generalize dumpByte c = text at shape dumped ⊢
  cases dumped with
  | short known =>
      exact parseStringLoop_escape shape (parseEscape_short known (drop_succ_of_drop shape))
  | control low =>
      have controlNat : c.toNat < 0x20 := UInt8.lt_iff_toNat_lt.mp low
      have afterBackslash := drop_succ_of_drop shape
      refine parseStringLoop_escape shape ?_
      rw [parseEscape, get_of_drop afterBackslash]
      exact parseUnicode_control controlNat (drop_succ_of_drop afterBackslash)
  | plain quote backslash =>
      rw [parseStringLoop, get_of_drop shape]
      simp only [bind, Except.bind]
      rw [if_neg quote, if_neg backslash, List.length_singleton]

/-- A serialized string body followed by a quote is read back whole. -/
theorem parseStringLoop_dump {text out : Bytes} (enough : text.length < fuel)
    (shape : s.drop i = text.flatMap dumpByte ++ ch '"' :: rest) :
    parseStringLoop s fuel out i = .ok (out ++ text, i + (text.flatMap dumpByte).length + 1) := by
  induction text generalizing fuel out i with
  | nil =>
      obtain ⟨fuel, rfl⟩ : ∃ n, fuel = n + 1 := ⟨fuel - 1, by simp at enough; omega⟩
      simp only [List.flatMap_nil, List.nil_append] at shape
      simp [parseStringLoop, get_of_drop shape, bind, Except.bind]
  | cons c text ih =>
      obtain ⟨fuel, rfl⟩ : ∃ n, fuel = n + 1 := ⟨fuel - 1, by simp at enough; omega⟩
      rw [List.flatMap_cons, List.append_assoc] at shape
      rw [parseStringLoop_dumpByte shape,
        ih (by simpa using enough) (drop_add_of_drop shape)]
      simp only [List.flatMap_cons, List.length_append, List.append_assoc, List.singleton_append]
      congr 2
      omega

theorem length_le_flatMap_dumpByte (text : Bytes) :
    text.length ≤ (text.flatMap dumpByte).length := by
  induction text with
  | nil => simp
  | cons c text ih =>
      have one := (dumped_dumpByte c).one_le_length
      simp only [List.flatMap_cons, List.length_append, List.length_cons]
      omega

/-- A serialized string is read back whole. -/
theorem parseString_dumpString {text : Bytes} (shape : s.drop i = dumpString text ++ rest) :
    parseString s i = .ok (text, i + (dumpString text).length) := by
  have opened : s.drop i = ch '"' :: (text.flatMap dumpByte ++ ch '"' :: rest) := by
    rw [shape, dumpString]
    simp
  have enough : text.length < s.length + 1 := by
    have total := congrArg List.length opened
    have body := length_le_flatMap_dumpByte text
    simp only [List.length_drop, List.length_cons, List.length_append] at total
    omega
  rw [parseString, get_of_drop opened]
  simp only [bind, Except.bind, if_true]
  rw [parseStringLoop_dump enough (drop_succ_of_drop opened), dumpString]
  simp only [List.nil_append, List.length_cons, List.length_append, List.length_nil]
  congr 2
  omega

end Strings

/-! ## Numbers -/

/-- What may stand after a value: nothing, a comma or a closing bracket. -/
def Follows (rest : Bytes) : Prop :=
  rest = [] ∨ ∃ c tail, rest = c :: tail ∧ (c = ch ',' ∨ c = ch ']' ∨ c = ch '}')

theorem follows_cons {c : UInt8} (closing : c = ch ',' ∨ c = ch ']' ∨ c = ch '}') (tail : Bytes) :
    Follows (c :: tail) :=
  Or.inr ⟨c, tail, rfl, closing⟩

section Numbers

variable {s : Bytes} {i : Nat} {rest : Bytes}

/-- The byte after a value is none of those a number could go on with. -/
theorem peek_of_follows (shape : s.drop i = rest) (follows : Follows rest) :
    peek s i = 0 ∨ peek s i = ch ',' ∨ peek s i = ch ']' ∨ peek s i = ch '}' := by
  rcases follows with rfl | ⟨c, tail, rfl, closing⟩
  · left
    rw [peek, List.getD_eq_getElem?_getD, List.getElem?_eq_none (List.drop_eq_nil_iff.mp shape)]
    rfl
  · right
    rwa [peek_of_drop shape]

theorem isDigit_of_mem_decimal {n : Nat} {c : UInt8} (member : c ∈ decimal n) :
    isDigit c = true := by
  obtain ⟨digit, small, rfl⟩ := mem_numeral (by omega) member
  interval_cases digit <;> decide

/-- The digit loop stops exactly behind a decimal numeral. -/
theorem skipDigits_decimal {n : Nat} (shape : s.drop i = decimal n ++ rest)
    (follows : Follows rest) : skipDigits s i = i + (decimal n).length := by
  have stop : rest.takeWhile isDigit = [] := by
    rcases follows with rfl | ⟨c, tail, rfl, closing⟩
    · rfl
    · apply List.takeWhile_cons_of_neg
      rcases closing with rfl | rfl | rfl <;> decide
  rw [skipDigits, shape, List.takeWhile_append_of_pos fun c => isDigit_of_mem_decimal, stop,
    List.append_nil]

/-- A decimal numeral starts with a digit, hence not with a sign. -/
theorem decimal_cons (n : Nat) :
    ∃ c tail, decimal n = c :: tail ∧ isDigit c = true ∧ c ≠ ch '-' := by
  obtain ⟨c, tail, head⟩ := List.exists_cons_of_ne_nil (numeral_ne_nil 10 n)
  have digit : isDigit c = true := by
    apply isDigit_of_mem_decimal (n := n)
    rw [decimal, head]
    exact List.mem_cons_self
  refine ⟨c, tail, head, digit, ?_⟩
  rintro rfl
  exact absurd digit (by decide)

/-- The digits of the integer part are read to their end. -/
theorem parseIntPart_decimal {n : Nat} (shape : s.drop i = decimal n ++ rest)
    (follows : Follows rest) : parseIntPart s i = .ok (i + (decimal n).length) := by
  obtain ⟨c, tail, head, digit, unsigned⟩ := decimal_cons n
  have first : peek s i = c := by
    rw [head, List.cons_append] at shape
    exact peek_of_drop shape
  rw [parseIntPart, first, if_neg unsigned, first]
  by_cases zero : c = ch '0'
  · have nZero : n = 0 := numeral_head_zero (by omega) (by omega) (zero ▸ head)
    subst nZero
    rw [if_pos zero]
    rfl
  · rw [if_neg zero, parseDigits, first, if_pos digit, skipDigits_decimal shape follows]

/-- A minus sign is skipped before the digits. -/
theorem parseIntPart_minus {n : Nat} (shape : s.drop i = ch '-' :: (decimal n ++ rest))
    (follows : Follows rest) : parseIntPart s i = .ok (i + 1 + (decimal n).length) := by
  have next := drop_succ_of_drop shape
  have plain := parseIntPart_decimal next follows
  obtain ⟨c, tail, head, -, unsigned⟩ := decimal_cons n
  have second : peek s (i + 1) = c := by
    rw [head, List.cons_append] at next
    exact peek_of_drop next
  rw [parseIntPart, second, if_neg unsigned] at plain
  rw [parseIntPart, peek_of_drop shape, if_pos rfl]
  exact plain

/-- No fraction and no exponent start behind a value. -/
theorem parseFraction_of_follows (shape : s.drop i = rest) (follows : Follows rest) :
    parseFraction s i = .ok i := by
  have next := peek_of_follows shape follows
  rw [parseFraction, if_neg]
  rcases next with next | next | next | next <;> rw [next] <;> decide

theorem parseExponent_of_follows (shape : s.drop i = rest) (follows : Follows rest) :
    parseExponent s i = .ok i := by
  have next := peek_of_follows shape follows
  rw [parseExponent, if_neg]
  rcases next with next | next | next | next <;> rw [next] <;> decide

end Numbers

end Parser

/-- The text of an integral number: a sign and its digits. -/
def integerText (d : Double) : Bytes :=
  (if d.neg then [ch '-'] else []) ++ decimal d.truncAbs

theorem trimZeros_replicate (n : Nat) (text : Bytes) :
    trimZeros (List.replicate n (ch '0') ++ ch '.' :: text) = ch '.' :: text := by
  induction n with
  | zero =>
      rw [List.replicate_zero, List.nil_append, trimZeros, if_neg]
      rintro ⟨-, -, absurdPoint⟩
      exact absurd absurdPoint (by decide)
  | succ n ih =>
      rw [List.replicate_succ, List.cons_append, trimZeros, if_pos, ih]
      simp

/-- An integral number is serialized without a point. -/
theorem dumpNumber_of_isInteger {d : Double} (integral : d.IsInteger) :
    dumpNumber d = integerText d := by
  have reversed : d.toString.reverse =
      List.replicate 6 (ch '0') ++ ch '.' :: (integerText d).reverse := by
    rw [Double.toString_of_isInteger integral, integerText]
    cases d.neg <;> simp [ascii, digitByte]
  rw [dumpNumber, reversed, trimZeros_replicate, trimPoint, if_pos rfl, List.reverse_reverse]

/-- What the two library conversions are relied on for: `std::stod` is exact on
the decimal text of an integer of magnitude at most 2^53. -/
def StodExact (stod : Stod) : Prop :=
  ∀ d : Double, d.IsInteger → d.truncAbs ≤ 2 ^ 53 → stod (integerText d) = .ok d

namespace Parser

/-- The text of an integral number is read back as that number. -/
theorem parseNumber_integerText {stod : Stod} {d : Double} (exact : stod (integerText d) = .ok d)
    {s : Bytes} {i : Nat} {rest : Bytes} (shape : s.drop i = integerText d ++ rest)
    (follows : Follows rest) :
    parseNumber stod s i = .ok (.num d, i + (integerText d).length) := by
  have intPart : parseIntPart s i = .ok (i + (integerText d).length) := by
    unfold integerText at shape ⊢
    cases sign : d.neg with
    | false =>
        simp only [sign, Bool.false_eq_true, if_false, List.nil_append] at shape ⊢
        exact parseIntPart_decimal shape follows
    | true =>
        simp only [sign, if_true, List.cons_append, List.nil_append] at shape ⊢
        rw [parseIntPart_minus shape follows, List.length_cons]
        congr 1
        omega
  have after := drop_add_of_drop shape
  rw [parseNumber, intPart]
  simp only [bind, Except.bind]
  rw [parseFraction_of_follows after follows]
  simp only
  rw [parseExponent_of_follows after follows]
  simp only
  rw [shape, Nat.add_sub_cancel_left, List.take_left, exact]

end Parser

/-! ## Trees -/

/-- The numbers of the round trip: integers of magnitude at most 2^53. -/
def Int53 (d : Double) : Prop :=
  d.IsInteger ∧ d.truncAbs ≤ 2 ^ 53

instance (d : Double) : Decidable (Int53 d) :=
  inferInstanceAs (Decidable (_ ∧ _))

/-- The number is an integer whose text is converted back. -/
structure ReadsBack (stod : Stod) (d : Double) : Prop where
  integer : Int53 d
  exact : stod (integerText d) = .ok d

mutual

/-- Fuel that is enough to read a serialized value. -/
def weight : Value → Nat
  | .arr a => 2 + weightList a
  | .obj o => 2 + weightEntries o
  | _ => 1

def weightList : List Value → Nat
  | [] => 0
  | v :: rest => 1 + weight v + weightList rest

def weightEntries : List (Bytes × Value) → Nat
  | [] => 0
  | (_, v) :: rest => 1 + weight v + weightEntries rest

end

/-- The first byte of a serialized value: not white space, and no bracket or
comma that could be taken for the end of a list. -/
def Opens (c : UInt8) : Prop :=
  isSpace c = false ∧ c ≠ ch ']' ∧ c ≠ ch '}'

theorem opens_of_isDigit {c : UInt8} (digit : isDigit c = true) : Opens c := by
  refine ⟨?_, ?_, ?_⟩
  · revert digit
    simp only [isDigit, isSpace, Bool.and_eq_true, decide_eq_true_eq, Bool.or_eq_false_iff,
      Bool.and_eq_false_iff, beq_eq_false_iff_ne, decide_eq_false_iff_not]
    rintro ⟨low, -⟩
    refine ⟨?_, Or.inr ?_⟩
    · rintro rfl
      exact absurd low (by decide)
    · intro high
      exact absurd (low.trans high) (by decide)
  · rintro rfl
    exact absurd digit (by decide)
  · rintro rfl
    exact absurd digit (by decide)

theorem integerText_cons (d : Double) :
    ∃ c tail, integerText d = c :: tail ∧ (c = ch '-' ∨ isDigit c = true) := by
  obtain ⟨c, tail, head, digit, -⟩ := Parser.decimal_cons d.truncAbs
  unfold integerText
  cases d.neg with
  | false => exact ⟨c, tail, by simpa using head, Or.inr digit⟩
  | true => exact ⟨ch '-', decimal d.truncAbs, rfl, Or.inl rfl⟩

theorem dump_cons (v : Value) (integers : v.NumbersAre Int53) :
    ∃ c tail, dump v = c :: tail ∧ Opens c := by
  cases v with
  | null => exact ⟨ch 'n', ascii "ull", by decide, by unfold Opens; decide⟩
  | bool b =>
      cases b with
      | false => exact ⟨ch 'f', ascii "alse", by decide, by unfold Opens; decide⟩
      | true => exact ⟨ch 't', ascii "rue", by decide, by unfold Opens; decide⟩
  | num d =>
      obtain ⟨c, tail, head, kind⟩ := integerText_cons d
      refine ⟨c, tail, ?_, ?_⟩
      · rw [dump, dumpNumber_of_isInteger integers.1, head]
      · rcases kind with rfl | digit
        · unfold Opens
          decide
        · exact opens_of_isDigit digit
  | str s => exact ⟨ch '"', _, rfl, by unfold Opens; decide⟩
  | arr a => exact ⟨ch '[', _, rfl, by unfold Opens; decide⟩
  | obj o => exact ⟨ch '{', _, rfl, by unfold Opens; decide⟩

/-- A later element is written as a comma and the list that starts with it. -/
theorem dumpArr_false_cons (v : Value) (rest : List Value) :
    dumpArr false (v :: rest) = ch ',' :: dumpArr true (v :: rest) :=
  rfl

theorem dumpObj_false_cons (entry : Bytes × Value) (rest : List (Bytes × Value)) :
    dumpObj false (entry :: rest) = ch ',' :: dumpObj true (entry :: rest) :=
  rfl

namespace Parser

theorem parseWord_of_drop {word message : String} {value : Value} {s : Bytes} {i : Nat}
    {rest : Bytes} (shape : s.drop i = ascii word ++ rest) :
    parseWord word message value s i = .ok (value, i + (ascii word).length) := by
  rw [parseWord, shape, List.take_left, if_pos rfl]

/-! ## The rounds of the parser -/

section Rounds

variable {stod : Stod} {s : Bytes} {i j k l m fuel : Nat} {v : Value}

theorem parseValue_number {c : UInt8} (seen : peek s i = c)
    (kind : c = ch '-' ∨ isDigit c = true) :
    parseValue stod s (fuel + 1) i = parseNumber stod s i := by
  have other : ∀ d, isDigit d = false → d ≠ ch '-' → c ≠ d := by
    rintro d letter unsigned rfl
    rcases kind with minus | digit
    · exact unsigned minus
    · exact absurd digit (by simp [letter])
  rw [parseValue, seen]
  rw [if_neg (other _ (by decide) (by decide)), if_neg (other _ (by decide) (by decide)),
    if_neg (other _ (by decide) (by decide)), if_neg (other _ (by decide) (by decide)),
    if_neg (other _ (by decide) (by decide)), if_neg (other _ (by decide) (by decide)),
    if_pos kind]

theorem parseValue_string {text : Bytes} (seen : peek s i = ch '"')
    (read : parseString s i = .ok (text, j)) :
    parseValue stod s (fuel + 1) i = .ok (.str text, j) := by
  rw [parseValue, seen]
  rw [if_neg (by decide), if_neg (by decide), if_pos rfl, read]
  rfl

theorem parseValue_emptyArray (opened : get s i = .ok (ch '[', j))
    (closed : get s (skipWs s j) = .ok (ch ']', k)) :
    parseValue stod s (fuel + 2) i = .ok (.arr [], k) := by
  rw [parseValue, peek_of_get opened]
  rw [if_neg (by decide), if_pos rfl, parseArray, opened]
  simp only [bind, Except.bind]
  rw [if_pos (peek_of_get closed), closed]

theorem parseValue_array (opened : get s i = .ok (ch '[', j))
    (filled : peek s (skipWs s j) ≠ ch ']') :
    parseValue stod s (fuel + 2) i = parseArrayLoop stod s fuel [] (skipWs s j) := by
  rw [parseValue, peek_of_get opened]
  rw [if_neg (by decide), if_pos rfl, parseArray, opened]
  simp only [bind, Except.bind]
  rw [if_neg filled]

theorem parseArrayLoop_last {done : List Value}
    (value : parseValue stod s fuel (skipWs s i) = .ok (v, j))
    (closed : get s (skipWs s j) = .ok (ch ']', k)) :
    parseArrayLoop stod s (fuel + 1) done i = .ok (.arr (done ++ [v]), k) := by
  rw [parseArrayLoop, value]
  simp only [bind, Except.bind]
  rw [closed]
  simp only [if_true]

theorem parseArrayLoop_next {done : List Value}
    (value : parseValue stod s fuel (skipWs s i) = .ok (v, j))
    (comma : get s (skipWs s j) = .ok (ch ',', k)) :
    parseArrayLoop stod s (fuel + 1) done i =
      parseArrayLoop stod s fuel (done ++ [v]) (skipWs s k) := by
  rw [parseArrayLoop, value]
  simp only [bind, Except.bind]
  rw [comma]
  dsimp only
  rw [if_neg (by decide), if_pos rfl]

theorem parseValue_emptyObject (opened : get s i = .ok (ch '{', j))
    (closed : get s (skipWs s j) = .ok (ch '}', k)) :
    parseValue stod s (fuel + 2) i = .ok (.obj [], k) := by
  rw [parseValue, peek_of_get opened]
  rw [if_pos rfl, parseObject, opened]
  simp only [bind, Except.bind]
  rw [if_pos (peek_of_get closed), closed]

theorem parseValue_object (opened : get s i = .ok (ch '{', j))
    (filled : peek s (skipWs s j) ≠ ch '}') :
    parseValue stod s (fuel + 2) i = parseObjectLoop stod s fuel [] (skipWs s j) := by
  rw [parseValue, peek_of_get opened]
  rw [if_pos rfl, parseObject, opened]
  simp only [bind, Except.bind]
  rw [if_neg filled]

variable {key : Bytes} {done : Object}

theorem parseObjectLoop_last (quoted : peek s (skipWs s i) = ch '"')
    (name : parseString s (skipWs s i) = .ok (key, j))
    (colon : get s (skipWs s j) = .ok (ch ':', k))
    (value : parseValue stod s fuel (skipWs s k) = .ok (v, l))
    (closed : get s (skipWs s l) = .ok (ch '}', m)) :
    parseObjectLoop stod s (fuel + 1) done i = .ok (.obj (Assoc.emplace key v done), m) := by
  rw [parseObjectLoop, if_pos quoted, name]
  simp only [bind, Except.bind]
  rw [colon]
  dsimp only
  rw [if_pos rfl, value]
  dsimp only
  rw [closed]
  dsimp only
  rw [if_pos rfl]

theorem parseObjectLoop_next (quoted : peek s (skipWs s i) = ch '"')
    (name : parseString s (skipWs s i) = .ok (key, j))
    (colon : get s (skipWs s j) = .ok (ch ':', k))
    (value : parseValue stod s fuel (skipWs s k) = .ok (v, l))
    (comma : get s (skipWs s l) = .ok (ch ',', m)) :
    parseObjectLoop stod s (fuel + 1) done i =
      parseObjectLoop stod s fuel (Assoc.emplace key v done) (skipWs s m) := by
  rw [parseObjectLoop, if_pos quoted, name]
  simp only [bind, Except.bind]
  rw [colon]
  dsimp only
  rw [if_pos rfl, value]
  dsimp only
  rw [comma]
  dsimp only
  rw [if_neg (by decide), if_pos rfl]

end Rounds

section Trees

variable {stod : Stod} {s : Bytes} {fits : Double → Prop}

theorem int53_of_reads (reads : ∀ d, fits d → ReadsBack stod d) {v : Value}
    (numbers : v.NumbersAre fits) : v.NumbersAre Int53 :=
  numbers.mono fun d fit => (reads d fit).integer

mutual

/-- A serialized value is read back, and the parser stops right behind it. -/
theorem parseValue_dump (reads : ∀ d, fits d → ReadsBack stod d) :
    ∀ (v : Value), v.WellFormed → v.NumbersAre fits →
    ∀ (i fuel : Nat) (rest : Bytes), s.drop i = dump v ++ rest → Follows rest →
      weight v ≤ fuel → parseValue stod s fuel i = .ok (v, i + (dump v).length)
  | .null, _, _, i, fuel, rest, shape, _, enough => by
      obtain ⟨fuel, rfl⟩ : ∃ n, fuel = n + 1 := ⟨fuel - 1, by simp [weight] at enough; omega⟩
      have first : peek s i = ch 'n' := peek_of_drop shape
      rw [parseValue]
      simp only [first]
      exact parseWord_of_drop shape
  | .bool b, _, _, i, fuel, rest, shape, _, enough => by
      obtain ⟨fuel, rfl⟩ : ∃ n, fuel = n + 1 := ⟨fuel - 1, by simp [weight] at enough; omega⟩
      cases b with
      | false =>
          have first : peek s i = ch 'f' := peek_of_drop shape
          rw [parseValue]
          simp only [first]
          exact parseWord_of_drop shape
      | true =>
          have first : peek s i = ch 't' := peek_of_drop shape
          rw [parseValue]
          simp only [first]
          exact parseWord_of_drop shape
  | .num d, _, integers, i, fuel, rest, shape, follows, enough => by
      obtain ⟨fuel, rfl⟩ : ∃ n, fuel = n + 1 := ⟨fuel - 1, by simp [weight] at enough; omega⟩
      rw [dump, dumpNumber_of_isInteger (reads d integers).integer.1] at shape ⊢
      obtain ⟨c, tail, head, kind⟩ := integerText_cons d
      have first : peek s i = c := by
        rw [head, List.cons_append] at shape
        exact peek_of_drop shape
      rw [parseValue_number first kind]
      exact parseNumber_integerText (reads d integers).exact shape follows
  | .str text, _, _, i, fuel, rest, shape, _, enough => by
      obtain ⟨fuel, rfl⟩ : ∃ n, fuel = n + 1 := ⟨fuel - 1, by simp [weight] at enough; omega⟩
      rw [dump] at shape ⊢
      exact parseValue_string (peek_of_drop shape) (parseString_dumpString shape)
  | .arr [], _, _, i, fuel, rest, shape, _, enough => by
      obtain ⟨fuel, rfl⟩ : ∃ n, fuel = n + 2 :=
        ⟨fuel - 2, by simp [weight, weightList] at enough; omega⟩
      have opened : s.drop i = ch '[' :: ch ']' :: rest := shape
      exact parseValue_emptyArray (get_of_drop opened)
        (get_skipWs_of_drop (drop_succ_of_drop opened) (by decide))
  | .arr (v :: vs), wellFormed, integers, i, fuel, rest, shape, _, enough => by
      obtain ⟨fuel, rfl⟩ : ∃ n, fuel = n + 2 :=
        ⟨fuel - 2, by simp [weight] at enough; omega⟩
      have opened : s.drop i = ch '[' :: (dumpArr true (v :: vs) ++ ch ']' :: rest) := by
        rw [shape, dump]
        simp
      have inside := drop_succ_of_drop opened
      obtain ⟨c, tail, head, opens⟩ := dump_cons v (int53_of_reads reads integers.1)
      have next : s.drop (i + 1) = c :: (tail ++ (dumpArr false vs ++ ch ']' :: rest)) := by
        rw [inside, dumpArr, head]
        simp
      have loop := parseArrayLoop_dump reads (v :: vs) wellFormed integers [] (i + 1) fuel rest
        (by simp) inside (by simp [weight] at enough; omega)
      have here := skipWs_of_drop next opens.1
      rw [parseValue_array (get_of_drop opened) (by rw [here, peek_of_drop next]; exact opens.2.1),
        here, loop, dump]
      simp only [List.nil_append, List.length_cons, List.length_append, List.length_nil]
      congr 2
      omega
  | .obj [], _, _, i, fuel, rest, shape, _, enough => by
      obtain ⟨fuel, rfl⟩ : ∃ n, fuel = n + 2 :=
        ⟨fuel - 2, by simp [weight, weightEntries] at enough; omega⟩
      have opened : s.drop i = ch '{' :: ch '}' :: rest := shape
      exact parseValue_emptyObject (get_of_drop opened)
        (get_skipWs_of_drop (drop_succ_of_drop opened) (by decide))
  | .obj (entry :: entries), wellFormed, integers, i, fuel, rest, shape, _, enough => by
      obtain ⟨fuel, rfl⟩ : ∃ n, fuel = n + 2 :=
        ⟨fuel - 2, by simp [weight] at enough; omega⟩
      have opened : s.drop i = ch '{' :: (dumpObj true (entry :: entries) ++ ch '}' :: rest) := by
        rw [shape, dump]
        simp
      have inside := drop_succ_of_drop opened
      obtain ⟨tail, next⟩ : ∃ tail, s.drop (i + 1) = ch '"' :: tail := ⟨_, inside⟩
      have loop := parseObjectLoop_dump reads (entry :: entries) wellFormed.2 integers []
        (i + 1) fuel rest
        (by simp) (by simpa using wellFormed.1) inside (by simp [weight] at enough; omega)
      have here := skipWs_of_drop next (by decide)
      rw [parseValue_object (get_of_drop opened) (by rw [here, peek_of_drop next]; decide), here,
        loop, dump]
      simp only [List.nil_append, List.length_cons, List.length_append, List.length_nil]
      congr 2
      omega

/-- The element loop reads a serialized non-empty list behind what it has. -/
theorem parseArrayLoop_dump (reads : ∀ d, fits d → ReadsBack stod d) : ∀ (vs : List Value),
    Value.ListWellFormed vs → Value.ListNumbersAre fits vs →
    ∀ (done : List Value) (i fuel : Nat) (rest : Bytes), vs ≠ [] →
      s.drop i = dumpArr true vs ++ ch ']' :: rest → weightList vs ≤ fuel →
      parseArrayLoop stod s fuel done i =
        .ok (.arr (done ++ vs), i + (dumpArr true vs).length + 1)
  | [], _, _, _, _, _, _, nonempty, _, _ => absurd rfl nonempty
  | v :: vs, wellFormed, integers, done, i, fuel, rest, _, shape, enough => by
      obtain ⟨fuel, rfl⟩ : ∃ n, fuel = n + 1 :=
        ⟨fuel - 1, by simp [weightList] at enough; omega⟩
      simp only [weightList] at enough
      obtain ⟨c, tail, head, opens⟩ := dump_cons v (int53_of_reads reads integers.1)
      have element : s.drop i = dump v ++ (dumpArr false vs ++ ch ']' :: rest) := by
        rw [shape, dumpArr]
        simp
      have first : s.drop i = c :: (tail ++ (dumpArr false vs ++ ch ']' :: rest)) := by
        rw [element, head, List.cons_append]
      have after := drop_add_of_drop element
      have follows : Follows (dumpArr false vs ++ ch ']' :: rest) := by
        cases vs with
        | nil => exact follows_cons (by simp) rest
        | cons other others => exact follows_cons (by simp) _
      have value : parseValue stod s fuel (skipWs s i) = .ok (v, i + (dump v).length) := by
        rw [skipWs_of_drop first opens.1]
        exact parseValue_dump reads v wellFormed.1 integers.1 i fuel _ element follows (by omega)
      cases vs with
      | nil =>
          have closing : s.drop (i + (dump v).length) = ch ']' :: rest := after
          rw [parseArrayLoop_last value (get_skipWs_of_drop closing (by decide))]
          simp only [if_true, dumpArr, List.nil_append, List.append_nil]
      | cons other others =>
          rw [dumpArr_false_cons, List.cons_append] at after
          have inside := drop_succ_of_drop after
          obtain ⟨d, more, otherHead, otherOpens⟩ :=
            dump_cons other (int53_of_reads reads integers.2.1)
          have second : s.drop (i + (dump v).length + 1) =
              d :: (more ++ (dumpArr false others ++ ch ']' :: rest)) := by
            rw [inside, dumpArr, otherHead]
            simp
          have loop := parseArrayLoop_dump reads (other :: others) wellFormed.2 integers.2
            (done ++ [v])
            (i + (dump v).length + 1) fuel rest (by simp) inside (by omega)
          rw [parseArrayLoop_next value (get_skipWs_of_drop after (by decide)),
            skipWs_of_drop second otherOpens.1, loop, dumpArr.eq_def true (v :: other :: others)]
          simp only [dumpArr_false_cons, List.append_assoc, List.singleton_append, if_true,
            List.nil_append, List.length_append, List.length_cons]
          congr 2
          omega

/-- The member loop reads serialized members whose keys lie above those it has. -/
theorem parseObjectLoop_dump (reads : ∀ d, fits d → ReadsBack stod d) :
    ∀ (entries : List (Bytes × Value)),
    Value.EntriesWellFormed entries → Value.EntriesNumbersAre fits entries →
    ∀ (done : Object) (i fuel : Nat) (rest : Bytes), entries ≠ [] →
      Assoc.Sorted (done ++ entries) →
      s.drop i = dumpObj true entries ++ ch '}' :: rest → weightEntries entries ≤ fuel →
      parseObjectLoop stod s fuel done i =
        .ok (.obj (done ++ entries), i + (dumpObj true entries).length + 1)
  | [], _, _, _, _, _, _, nonempty, _, _, _ => absurd rfl nonempty
  | (k, v) :: entries, wellFormed, integers, done, i, fuel, rest, _, sorted, shape, enough => by
      obtain ⟨fuel, rfl⟩ : ∃ n, fuel = n + 1 :=
        ⟨fuel - 1, by simp [weightEntries] at enough; omega⟩
      simp only [weightEntries] at enough
      have member : s.drop i =
          dumpString k ++ (ch ':' :: (dump v ++ (dumpObj false entries ++ ch '}' :: rest))) := by
        rw [shape, dumpObj]
        simp
      obtain ⟨tail, quoted⟩ : ∃ tail, s.drop i = ch '"' :: tail := ⟨_, shape⟩
      have colon := drop_add_of_drop member
      have element := drop_succ_of_drop colon
      have after := drop_add_of_drop element
      obtain ⟨c, more, head, opens⟩ := dump_cons v (int53_of_reads reads integers.1)
      have first : s.drop (i + (dumpString k).length + 1) =
          c :: (more ++ (dumpObj false entries ++ ch '}' :: rest)) := by
        rw [element, head, List.cons_append]
      have follows : Follows (dumpObj false entries ++ ch '}' :: rest) := by
        cases entries with
        | nil => exact follows_cons (by simp) rest
        | cons other others => exact follows_cons (by simp) _
      have here := skipWs_of_drop quoted (by decide)
      have name : parseString s (skipWs s i) = .ok (k, i + (dumpString k).length) := by
        rw [here]
        exact parseString_dumpString member
      have value : parseValue stod s fuel (skipWs s (i + (dumpString k).length + 1)) =
          .ok (v, i + (dumpString k).length + 1 + (dump v).length) := by
        rw [skipWs_of_drop first opens.1]
        exact parseValue_dump reads v wellFormed.1 integers.1 _ fuel _ element follows (by omega)
      have started : peek s (skipWs s i) = ch '"' := by
        rw [here]
        exact peek_of_drop quoted
      have named := get_skipWs_of_drop colon (by decide)
      -- the keys increase, so the new member goes behind those already read
      have below : ∀ entry ∈ done, entry.1 < k := by
        intro entry entryMem
        exact (List.pairwise_append.mp sorted).2.2 entry entryMem (k, v) List.mem_cons_self
      cases entries with
      | nil =>
          rw [dumpObj, List.nil_append] at after
          rw [parseObjectLoop_last started name named value
            (get_skipWs_of_drop after (by decide)), Assoc.emplace_of_forall_lt v below]
          simp only [if_true, dumpObj, List.nil_append, List.append_nil, List.length_append,
            List.length_cons]
          congr 2
          omega
      | cons other others =>
          rw [dumpObj_false_cons, List.cons_append] at after
          have inside := drop_succ_of_drop after
          obtain ⟨otherTail, second⟩ : ∃ tail,
              s.drop (i + (dumpString k).length + 1 + (dump v).length + 1) = ch '"' :: tail :=
            ⟨_, inside⟩
          have loop := parseObjectLoop_dump reads (other :: others) wellFormed.2 integers.2
            (done ++ [(k, v)]) _ fuel rest (by simp) (by simpa using sorted) inside (by omega)
          rw [parseObjectLoop_next started name named value
            (get_skipWs_of_drop after (by decide)), Assoc.emplace_of_forall_lt v below,
            skipWs_of_drop second (by decide), loop,
            dumpObj.eq_def true ((k, v) :: other :: others)]
          simp only [dumpObj_false_cons, List.append_assoc, List.singleton_append, if_true,
            List.nil_append, List.length_append, List.length_cons]
          congr 2
          omega

end

end Trees

end Parser

theorem length_dumpArr_false (vs : List Value) :
    (dumpArr false vs).length ≤ (dumpArr true vs).length + 1 := by
  cases vs with
  | nil => simp [dumpArr]
  | cons v rest => rw [dumpArr_false_cons, List.length_cons]

theorem length_dumpObj_false (entries : List (Bytes × Value)) :
    (dumpObj false entries).length ≤ (dumpObj true entries).length + 1 := by
  cases entries with
  | nil => simp [dumpObj]
  | cons entry rest => rw [dumpObj_false_cons, List.length_cons]

mutual

/-- Three units of fuel a byte are enough for what was serialized. -/
theorem weight_le : ∀ (v : Value), v.NumbersAre Int53 → weight v ≤ 3 * (dump v).length
  | .arr a, integers => by
      have inner := weightList_le a integers
      have comma := length_dumpArr_false a
      simp only [weight, dump, List.length_append, List.length_cons, List.length_nil]
      omega
  | .obj o, integers => by
      have inner := weightEntries_le o integers
      have comma := length_dumpObj_false o
      simp only [weight, dump, List.length_append, List.length_cons, List.length_nil]
      omega
  | .null, integers | .bool _, integers | .num _, integers | .str _, integers => by
      obtain ⟨c, tail, head, -⟩ := dump_cons _ integers
      simp only [head, List.length_cons, weight]
      omega

theorem weightList_le : ∀ (vs : List Value), Value.ListNumbersAre Int53 vs →
    weightList vs ≤ 3 * (dumpArr false vs).length
  | [], _ => by simp [weightList]
  | v :: vs, integers => by
      have head := weight_le v integers.1
      have tail := weightList_le vs integers.2
      simp only [weightList, dumpArr, Bool.false_eq_true, if_false, List.length_append,
        List.length_singleton]
      omega

theorem weightEntries_le : ∀ (entries : List (Bytes × Value)),
    Value.EntriesNumbersAre Int53 entries →
    weightEntries entries ≤ 3 * (dumpObj false entries).length
  | [], _ => by simp [weightEntries]
  | (k, v) :: entries, integers => by
      have head := weight_le v integers.1
      have tail := weightEntries_le entries integers.2
      simp only [weightEntries, dumpObj, Bool.false_eq_true, if_false, List.length_append,
        List.length_cons]
      omega

end

/-- A serialized tree is read back when its numbers are. -/
theorem parse_dumps_of_readsBack {stod : Stod} {v : Value} (wellFormed : v.WellFormed)
    (numbers : v.NumbersAre (ReadsBack stod)) : parse stod (dumps v) = .ok v := by
  have integers := numbers.mono fun d reads => reads.integer
  change parse stod (dump v) = .ok v
  have whole : (dump v).drop 0 = dump v ++ [] := by simp
  obtain ⟨c, tail, head, opens⟩ := dump_cons v integers
  have start : Parser.skipWs (dump v) 0 = 0 :=
    Parser.skipWs_of_drop (head : (dump v).drop 0 = c :: tail) opens.1
  have finish : (dump v).drop (0 + (dump v).length) = [] := Parser.drop_add_of_drop whole
  have enough : weight v ≤ 3 * (dump v).length + 3 := by
    have := weight_le v integers
    omega
  have value := Parser.parseValue_dump (fun _ reads => reads) v wellFormed numbers 0 _ [] whole
    (Or.inl rfl) enough
  rw [parse, start, value]
  simp only [bind, Except.bind]
  rw [Parser.skipWs_of_drop_nil finish, Nat.zero_add, if_pos rfl]

/-- The round trip: parsing a serialized tree whose numbers are integers of
magnitude at most 2^53 succeeds and gives the tree back. -/
theorem parse_dumps (stod : Stod) (stodExact : StodExact stod) (tree : Tree)
    (integers : tree.val.NumbersAre Int53) :
    parse stod (dumps tree.val) = .ok tree.val :=
  parse_dumps_of_readsBack tree.property
    (integers.mono fun d integer => ⟨integer, stodExact d integer.1 integer.2⟩)

/-- A serialized object is read back when the numbers of its fields are. -/
theorem parse_dumps_ofFields {stod : Stod} {fields : List (String × Value)}
    (each : ∀ field ∈ fields, field.2.WellFormed ∧ field.2.NumbersAre (ReadsBack stod)) :
    parse stod (dumps (.obj (Object.ofFields fields))) = .ok (.obj (Object.ofFields fields)) :=
  parse_dumps_of_readsBack (wellFormed_ofFields fun field member => (each field member).1)
    (numbersAre_ofFields fun field member => (each field member).2)

/-- `std::stod` on integer literals. -/
def integerStod : Stod
  | [] => .error (ascii "invalid stod argument")
  | c :: digits =>
      if c = ch '-' then .ok (Double.ofNat true (ofNumeral 10 digits))
      else .ok (Double.ofNat false (ofNumeral 10 (c :: digits)))

theorem integerStod_exact : StodExact integerStod := by
  intro d integral bounded
  have value : ofNumeral 10 (decimal d.truncAbs) = d.truncAbs :=
    ofNumeral_numeral (by omega) (by omega) _
  have unique := Double.eq_ofNat_of_isInteger integral bounded
  unfold integerText
  cases sign : d.neg with
  | false =>
      obtain ⟨c, tail, head, -, unsigned⟩ := Parser.decimal_cons d.truncAbs
      rw [sign] at unique
      simp only [Bool.false_eq_true, if_false, List.nil_append]
      rw [head, integerStod, if_neg unsigned, ← head, value, ← unique]
  | true =>
      rw [sign] at unique
      simp only [if_true, List.cons_append, List.nil_append]
      rw [integerStod, if_pos rfl, value, ← unique]

/-- The announcement of the discovery responder. -/
def discoveryPayload : Value :=
  .obj [(ascii "is_wine", .bool true), (ascii "os", .str (ascii "windows")),
    (ascii "port", .num (.ofInt 1985)), (ascii "type", .str (ascii "announcement"))]

theorem parse_dumps_discoveryPayload :
    StodExact integerStod ∧ discoveryPayload.NumbersAre Int53 ∧
      parse integerStod (dumps discoveryPayload) = .ok discoveryPayload := by
  have port : Int53 (Double.ofInt 1985) := by decide
  have integers : discoveryPayload.NumbersAre Int53 := ⟨trivial, trivial, port, trivial, trivial⟩
  have wellFormed : discoveryPayload.WellFormed :=
    ⟨by decide, trivial, trivial, trivial, trivial, trivial⟩
  exact ⟨integerStod_exact, integers,
    parse_dumps integerStod integerStod_exact ⟨discoveryPayload, wellFormed⟩ integers⟩

end WinInspect.Json
