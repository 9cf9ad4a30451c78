import WinInspect.Json.Soundness

/-!
# The parser recognises exactly its grammar

The parser reads a derivable text to its end, if the byte behind the text cannot continue a
number.  A derivation may have taken white space that the parser has not looked at yet, so
the position at which a value ends is known up to white space only.  Two units of fuel for
each byte are enough.
-/

namespace WinInspect.Json

open Grammar

namespace Parser

/-! ## The byte behind a text -/

/-- The first byte, if there is one. -/
def HeadIs (fits : UInt8 → Prop) (text : Bytes) : Prop :=
  ∀ c rest, text = c :: rest → fits c

/-- A byte that may stand behind a value. -/
def Ending (c : UInt8) : Prop :=
  isSpace c = true ∨ c = ch ',' ∨ c = ch ']' ∨ c = ch '}'

/-- A byte that does not continue the digits of a number. -/
def AfterDigits (c : UInt8) : Prop :=
  c = ch '.' ∨ c = ch 'e' ∨ c = ch 'E' ∨ Ending c

/-- A byte that does not continue the fraction of a number. -/
def AfterFraction (c : UInt8) : Prop :=
  c = ch 'e' ∨ c = ch 'E' ∨ Ending c

theorem headIs_cons {fits : UInt8 → Prop} {c : UInt8} (holds : fits c) (rest : Bytes) :
    HeadIs fits (c :: rest) := by
  intro d more shape
  cases shape
  exact holds

theorem HeadIs.mono {fits fits' : UInt8 → Prop} {text : Bytes} (head : HeadIs fits text)
    (weaker : ∀ c, fits c → fits' c) : HeadIs fits' text :=
  fun c rest shape => weaker c (head c rest shape)

theorem isDigit_of_isSpace {c : UInt8} (space : isSpace c = true) : isDigit c = false := by
  cases digit : isDigit c with
  | false => rfl
  | true => exact absurd space (by simp [(opens_of_isDigit digit).1])

theorem Ending.not_digit {c : UInt8} (ending : Ending c) : isDigit c = false := by
  rcases ending with space | rfl | rfl | rfl
  · exact isDigit_of_isSpace space
  all_goals decide

theorem Ending.ne {c d : UInt8} (ending : Ending c)
    (other : isSpace d = false ∧ d ≠ ch ',' ∧ d ≠ ch ']' ∧ d ≠ ch '}') : c ≠ d := by
  rintro rfl
  rcases ending with space | comma | bracket | brace
  · exact absurd space (by simp [other.1])
  · exact other.2.1 comma
  · exact other.2.2.1 bracket
  · exact other.2.2.2 brace

theorem AfterDigits.not_digit {c : UInt8} (after : AfterDigits c) : isDigit c = false := by
  rcases after with rfl | rfl | rfl | ending
  · decide
  · decide
  · decide
  · exact ending.not_digit

section Reading

variable {s : Bytes} {i j : Nat} {c : UInt8} {text w rest : Bytes}

theorem peek_of_headIs {fits : UInt8 → Prop} (shape : s.drop i = rest) (head : HeadIs fits rest) :
    peek s i = 0 ∨ fits (peek s i) := by
  cases rest with
  | nil =>
      left
      rw [peek, List.getD_eq_getElem?_getD, List.getElem?_eq_none (List.drop_eq_nil_iff.mp shape)]
      rfl
  | cons c rest =>
      right
      rw [peek_of_drop shape]
      exact head c rest rfl

/-- White space that a derivation has taken is skipped in any case. -/
theorem skipWs_append (blank : Ws w) (shape : s.drop i = w ++ rest) :
    skipWs s i = skipWs s (i + w.length) := by
  rw [skipWs, skipWs, drop_add_of_drop shape, shape,
    List.takeWhile_append_of_pos blank, List.length_append, Nat.add_assoc]

@[simp]
theorem skipWs_skipWs (s : Bytes) (i : Nat) : skipWs s (skipWs s i) = skipWs s i := by
  obtain ⟨w, blank, spans⟩ := exists_spans_skipWs s i
  have skipped := skipWs_append blank spans.drop
  rw [← spans.stop] at skipped
  exact skipped.symm

/-- A structural character is found behind white space, and white space behind it. -/
theorem get_structural (structural : Structural c text) (solid : isSpace c = false)
    (shape : s.drop i = text ++ rest) :
    ∃ j, get s (skipWs s i) = .ok (c, j) ∧ skipWs s j = skipWs s (i + text.length) := by
  obtain ⟨left, right⟩ := structural
  rename_i before after
  have atBefore : s.drop i = before ++ (c :: (after ++ rest)) := by
    rw [shape]
    simp
  have atChar := drop_add_of_drop atBefore
  have found : skipWs s i = i + before.length := by
    rw [skipWs_append left atBefore, skipWs_of_drop atChar solid]
  refine ⟨i + before.length + 1, ?_, ?_⟩
  · rw [found]
    exact get_of_drop atChar
  · rw [skipWs_append right (drop_succ_of_drop atChar)]
    congr 1
    rw [List.length_append, List.length_cons]
    omega

theorem headIs_structural (structural : Structural c text) (ending : Ending c) (rest : Bytes) :
    HeadIs Ending (text ++ rest) := by
  obtain ⟨left, right⟩ := structural
  rename_i before after
  cases before with
  | nil => exact headIs_cons ending _
  | cons d before => exact headIs_cons (Or.inl (left d List.mem_cons_self)) _

end Reading

/-! ## Strings -/

section Strings

variable {s : Bytes} {i fuel : Nat} {out rest : Bytes}

theorem parseEscape_unicode {c₁ c₂ c₃ c₄ : UInt8} {h₁ h₂ h₃ h₄ : Nat}
    (first : digitValue c₁ = some h₁) (second : digitValue c₂ = some h₂)
    (third : digitValue c₃ = some h₃) (fourth : digitValue c₄ = some h₄)
    (shape : s.drop i = ch 'u' :: c₁ :: c₂ :: c₃ :: c₄ :: rest) :
    parseEscape s i = .ok (utf8 (h₁ * 4096 + h₂ * 256 + h₃ * 16 + h₄), i + 5) := by
  have shape₁ := drop_succ_of_drop shape
  have shape₂ := drop_succ_of_drop shape₁
  have shape₃ := drop_succ_of_drop shape₂
  have shape₄ := drop_succ_of_drop shape₃
  have long : shortEscape (ch 'u') = none := by decide
  rw [parseEscape, get_of_drop shape]
  simp only [bind, Except.bind, long, if_true]
  rw [parseUnicode, get_of_drop shape₁]
  simp only [bind, Except.bind]
  rw [get_of_drop shape₂]
  simp only
  rw [get_of_drop shape₃]
  simp only
  rw [get_of_drop shape₄]
  simp only [hexval, first, second, third, fourth]

/-- One piece of a string is one round of the loop. -/
theorem parseStringLoop_char {piece bytes : Bytes} (char : CharText piece bytes)
    (shape : s.drop i = piece ++ rest) :
    parseStringLoop s (fuel + 1) out i =
      parseStringLoop s fuel (out ++ bytes) (i + piece.length) := by
  cases char with
  | unescaped unquoted plain =>
      rw [parseStringLoop, get_of_drop shape]
      simp only [bind, Except.bind]
      rw [if_neg unquoted, if_neg plain, List.length_singleton]
  | escape known =>
      exact parseStringLoop_escape shape
        (parseEscape_short (shortEscape_eq_some_iff.mpr known) (drop_succ_of_drop shape))
  | unicode first second third fourth =>
      exact parseStringLoop_escape shape
        (parseEscape_unicode first second third fourth (drop_succ_of_drop shape))

theorem CharText.length_pos {piece bytes : Bytes} (char : CharText piece bytes) :
    1 ≤ piece.length := by
  cases char <;> simp

theorem parseStringLoop_chars {body bytes : Bytes} (chars : CharsText body bytes)
    (enough : body.length < fuel) (shape : s.drop i = body ++ ch '"' :: rest) :
    parseStringLoop s fuel out i = .ok (out ++ bytes, i + body.length + 1) := by
  induction chars generalizing fuel out i with
  | nil =>
      obtain ⟨fuel, rfl⟩ := Nat.exists_eq_add_of_lt enough
      have quote : s.drop i = ch '"' :: rest := shape
      rw [List.length_nil, Nat.zero_add, parseStringLoop, get_of_drop quote]
      simp [bind, Except.bind]
  | @cons piece more bytes others char _ inductionHypothesis =>
      have long := CharText.length_pos char
      rw [List.length_append] at enough
      obtain ⟨fuel, rfl⟩ : ∃ n, fuel = n + 1 := ⟨fuel - 1, by omega⟩
      rw [List.append_assoc] at shape
      rw [parseStringLoop_char char shape,
        inductionHypothesis (by omega) (drop_add_of_drop shape), List.append_assoc,
        List.length_append, Nat.add_assoc i]

theorem parseString_string {text bytes : Bytes} (string : StringText text bytes)
    (shape : s.drop i = text ++ rest) : parseString s i = .ok (bytes, i + text.length) := by
  obtain ⟨chars⟩ := string
  rename_i body
  have opened : s.drop i = ch '"' :: (body ++ ch '"' :: rest) := by
    rw [shape]
    simp
  have enough : body.length < s.length + 1 := by
    have total := congrArg List.length opened
    simp only [List.length_drop, List.length_cons, List.length_append] at total
    omega
  rw [parseString, get_of_drop opened]
  simp only [bind, Except.bind, if_true]
  rw [parseStringLoop_chars chars enough (drop_succ_of_drop opened)]
  simp only [List.nil_append, List.length_cons, List.length_append, List.length_nil]
  congr 2
  omega

theorem StringText.cons {text bytes : Bytes} (string : StringText text bytes) :
    ∃ tail, text = ch '"' :: tail := by
  obtain ⟨chars⟩ := string
  exact ⟨_, rfl⟩

end Strings

/-! ## Numbers -/

section Numbers

variable {s : Bytes} {i : Nat} {rest : Bytes}

theorem skipDigits_append {digits : Bytes} (all : ∀ c ∈ digits, isDigit c = true)
    (shape : s.drop i = digits ++ rest) (after : HeadIs AfterDigits rest) :
    skipDigits s i = i + digits.length := by
  have stops : rest.takeWhile isDigit = [] := by
    cases rest with
    | nil => rfl
    | cons c rest => exact List.takeWhile_cons_of_neg (by simp [(after c rest rfl).not_digit])
  rw [skipDigits, shape, List.takeWhile_append_of_pos all, stops, List.append_nil]

theorem parseDigits_digits {digits : Bytes} (filled : Digits digits)
    (shape : s.drop i = digits ++ rest) (after : HeadIs AfterDigits rest) :
    parseDigits s i = .ok (i + digits.length) := by
  obtain ⟨nonempty, all⟩ := filled
  obtain ⟨c, more, rfl⟩ := List.exists_cons_of_ne_nil nonempty
  have digit : isDigit (peek s i) = true := by
    rw [peek_of_drop shape]
    exact all c List.mem_cons_self
  rw [parseDigits, if_pos digit, skipDigits_append all shape after]

/-- The part of `parseIntPart` behind the sign. -/
theorem parseInt_int {int : Bytes} (integer : IntText int) (shape : s.drop i = int ++ rest)
    (after : HeadIs AfterDigits rest) :
    (if peek s i = ch '0' then .ok (i + 1) else parseDigits s i) =
      (.ok (i + int.length) : Except ParseFailure Nat) := by
  cases integer with
  | zero => rw [if_pos (peek_of_drop shape), List.length_singleton]
  | digits digit nonzero more =>
      rw [if_neg (by rw [peek_of_drop shape]; exact nonzero)]
      exact parseDigits_digits (digits_cons digit more) shape after

theorem IntText.cons {int : Bytes} (integer : IntText int) :
    ∃ c tail, int = c :: tail ∧ isDigit c = true := by
  cases integer with
  | zero => exact ⟨_, _, rfl, by decide⟩
  | digits digit _ _ => exact ⟨_, _, rfl, digit⟩

theorem parseIntPart_int {minus int : Bytes} (signed : minus = [] ∨ minus = [ch '-'])
    (integer : IntText int) (shape : s.drop i = minus ++ (int ++ rest))
    (after : HeadIs AfterDigits rest) :
    parseIntPart s i = .ok (i + (minus ++ int).length) := by
  unfold parseIntPart
  dsimp only
  rcases signed with rfl | rfl
  · obtain ⟨c, tail, rfl, digit⟩ := IntText.cons integer
    have unsigned : peek s i ≠ ch '-' := by
      rw [peek_of_drop shape]
      rintro rfl
      exact absurd digit (by decide)
    rw [if_neg unsigned]
    exact parseInt_int integer shape after
  · rw [if_pos (peek_of_drop shape), parseInt_int integer (drop_succ_of_drop shape) after,
      List.length_append, List.length_singleton, Nat.add_assoc]

theorem parseFraction_frac {frac : Bytes} (fraction : FracText frac)
    (shape : s.drop i = frac ++ rest) (after : HeadIs AfterFraction rest) :
    parseFraction s i = .ok (i + frac.length) := by
  cases fraction with
  | absent =>
      have pointless : peek s i ≠ ch '.' := by
        rcases peek_of_headIs shape after with none | mark | mark | ending
        · rw [none]
          decide
        · rw [mark]
          decide
        · rw [mark]
          decide
        · exact ending.ne (by decide)
      rw [parseFraction, if_neg pointless, List.length_nil, Nat.add_zero]
  | present filled =>
      rw [parseFraction, if_pos (peek_of_drop shape),
        parseDigits_digits filled (drop_succ_of_drop shape) (after.mono fun _ => Or.inr),
        List.length_cons]
      congr 1
      omega

theorem parseExponent_exp {exp : Bytes} (exponent : ExpText exp)
    (shape : s.drop i = exp ++ rest) (after : HeadIs Ending rest) :
    parseExponent s i = .ok (i + exp.length) := by
  have digitsEnd : HeadIs AfterDigits rest :=
    after.mono fun _ ending => Or.inr (Or.inr (Or.inr ending))
  unfold parseExponent
  dsimp only
  cases exponent with
  | absent =>
      have unmarked : ¬(peek s i = ch 'e' ∨ peek s i = ch 'E') := by
        rcases peek_of_headIs shape after with none | ending
        · rw [none]
          decide
        · exact not_or.mpr ⟨ending.ne (by decide), ending.ne (by decide)⟩
      rw [if_neg unmarked, List.length_nil, Nat.add_zero]
  | @present e sign digits mark signed filled =>
      have seen := peek_of_drop shape
      have shape₁ := drop_succ_of_drop shape
      rw [if_pos (by rw [seen]; exact mark)]
      rcases signed with rfl | signed
      · have unsigned : ¬(peek s (i + 1) = ch '+' ∨ peek s (i + 1) = ch '-') := by
          obtain ⟨c, more, rfl⟩ := List.exists_cons_of_ne_nil filled.1
          have digit := filled.2 c List.mem_cons_self
          rw [peek_of_drop shape₁]
          rintro (rfl | rfl) <;> exact absurd digit (by decide)
        rw [if_neg unsigned, parseDigits_digits filled shape₁ digitsEnd]
        simp only [List.nil_append, List.length_cons]
        congr 1
        omega
      · obtain ⟨c, rfl, kind⟩ : ∃ c, sign = [c] ∧ (c = ch '+' ∨ c = ch '-') := by
          rcases signed with rfl | rfl
          · exact ⟨_, rfl, Or.inl rfl⟩
          · exact ⟨_, rfl, Or.inr rfl⟩
        rw [if_pos (by rw [peek_of_drop shape₁]; exact kind),
          parseDigits_digits filled (drop_succ_of_drop shape₁) digitsEnd]
        simp only [List.cons_append, List.nil_append, List.length_cons]
        congr 1
        omega

theorem headIs_exp {exp : Bytes} (exponent : ExpText exp) (after : HeadIs Ending rest) :
    HeadIs AfterFraction (exp ++ rest) := by
  cases exponent with
  | absent => exact after.mono fun _ ending => Or.inr (Or.inr ending)
  | present mark _ _ =>
      apply headIs_cons
      rcases mark with rfl | rfl
      · exact Or.inl rfl
      · exact Or.inr (Or.inl rfl)

theorem headIs_frac {frac : Bytes} (fraction : FracText frac)
    (after : HeadIs AfterFraction rest) : HeadIs AfterDigits (frac ++ rest) := by
  cases fraction with
  | absent => exact after.mono fun _ => Or.inr
  | present _ => exact headIs_cons (Or.inl rfl) _

theorem parseNumber_number {stod : Stod} {text : Bytes} {d : Double} (number : NumberText text)
    (converts : stod text = .ok d) (shape : s.drop i = text ++ rest)
    (after : HeadIs Ending rest) :
    parseNumber stod s i = .ok (.num d, i + text.length) := by
  have whole := (Spans.of_drop shape).take
  obtain ⟨signed, integer, fraction, exponent⟩ := number
  rename_i minus int frac exp
  have atExp := headIs_exp exponent after
  have shape₁ : s.drop i = minus ++ (int ++ (frac ++ (exp ++ rest))) := by
    rw [shape]
    simp
  have shape₂ : s.drop (i + (minus ++ int).length) = frac ++ (exp ++ rest) :=
    drop_add_of_drop (by rw [shape₁, List.append_assoc])
  have shape₃ := drop_add_of_drop shape₂
  have total : i + (minus ++ int).length + frac.length + exp.length =
      i + (minus ++ (int ++ (frac ++ exp))).length := by
    simp only [List.length_append]
    omega
  rw [parseNumber, parseIntPart_int signed integer shape₁ (headIs_frac fraction atExp)]
  simp only [bind, Except.bind]
  rw [parseFraction_frac fraction shape₂ atExp]
  simp only
  rw [parseExponent_exp exponent shape₃ after]
  simp only
  rw [total, whole, converts]

theorem NumberText.cons {text : Bytes} (number : NumberText text) :
    ∃ c tail, text = c :: tail ∧ (c = ch '-' ∨ isDigit c = true) := by
  obtain ⟨signed, integer, _, _⟩ := number
  obtain ⟨c, tail, rfl, digit⟩ := IntText.cons integer
  rcases signed with rfl | rfl
  · exact ⟨c, _, rfl, Or.inr digit⟩
  · exact ⟨ch '-', _, rfl, Or.inl rfl⟩

end Numbers

/-! ## Values -/

section Values

variable {stod : Stod} {s : Bytes}

theorem opens_of_number {c : UInt8} (kind : c = ch '-' ∨ isDigit c = true) : Opens c := by
  rcases kind with rfl | digit
  · unfold Opens
    decide
  · exact opens_of_isDigit digit

/-- A value begins with white space of its own at most, and then not with a bracket that
closes a list. -/
theorem ValueText.opens {text : Bytes} {tree : Value} (value : ValueText stod text tree) :
    ∃ w c tail, text = w ++ c :: tail ∧ Ws w ∧ Opens c := by
  cases value with
  | null => exact ⟨[], ch 'n', ascii "ull", by decide, ws_nil, by unfold Opens; decide⟩
  | bool b =>
      cases b with
      | false => exact ⟨[], ch 'f', ascii "alse", by decide, ws_nil, by unfold Opens; decide⟩
      | true => exact ⟨[], ch 't', ascii "rue", by decide, ws_nil, by unfold Opens; decide⟩
  | number number _ =>
      obtain ⟨c, tail, rfl, kind⟩ := NumberText.cons number
      exact ⟨[], c, tail, rfl, ws_nil, opens_of_number kind⟩
  | string string =>
      obtain ⟨tail, rfl⟩ := StringText.cons string
      exact ⟨[], _, tail, rfl, ws_nil, by unfold Opens; decide⟩
  | emptyArray begins _ | array begins _ _ | emptyObject begins _ | object begins _ _ =>
      obtain ⟨left, right⟩ := begins
      rw [List.append_assoc, List.cons_append]
      exact ⟨_, _, _, rfl, left, by unfold Opens; decide⟩

theorem ElementsText.opens {text : Bytes} {elements : List Value}
    (inside : ElementsText stod text elements) :
    ∃ w c tail, text = w ++ c :: tail ∧ Ws w ∧ Opens c := by
  cases inside with
  | one value => exact ValueText.opens value
  | more value _ _ =>
      obtain ⟨w, c, tail, rfl, blank, opens⟩ := ValueText.opens value
      rw [List.append_assoc, List.cons_append]
      exact ⟨w, c, _, rfl, blank, opens⟩

theorem MembersText.cons {text : Bytes} {members : Object}
    (inside : MembersText stod text members) : ∃ tail, text = ch '"' :: tail := by
  cases inside with
  | one string _ _ | more string _ _ _ _ =>
      obtain ⟨tail, rfl⟩ := StringText.cons string
      exact ⟨_, rfl⟩

theorem ValueText.length_pos {text : Bytes} {tree : Value} (value : ValueText stod text tree) :
    1 ≤ text.length := by
  obtain ⟨w, c, tail, rfl, -⟩ := ValueText.opens value
  simp only [List.length_append, List.length_cons]
  omega

theorem Structural.length_pos {c : UInt8} {text : Bytes} (structural : Structural c text) :
    1 ≤ text.length := by
  obtain ⟨left, right⟩ := structural
  simp only [List.length_append, List.length_cons]
  omega

/-- The byte the parser sees where a text begins. -/
theorem peek_skipWs_append {i : Nat} {w : Bytes} {c : UInt8} {rest : Bytes} (blank : Ws w)
    (solid : isSpace c = false) (shape : s.drop i = w ++ c :: rest) :
    peek s (skipWs s i) = c := by
  have atByte := drop_add_of_drop shape
  rw [skipWs_append blank shape, skipWs_of_drop atByte solid, peek_of_drop atByte]

/-- A value without white space of its own is found where it begins. -/
theorem skipWs_of_opens {i : Nat} {text rest : Bytes} {c : UInt8} (shape : s.drop i = text ++ rest)
    (head : ∃ tail, text = c :: tail) (opens : Opens c) :
    skipWs s i = i ∧ peek s i = c := by
  obtain ⟨tail, rfl⟩ := head
  exact ⟨skipWs_of_drop shape opens.1, peek_of_drop shape⟩

/-- The key of a member is found behind white space. -/
theorem parseString_skipWs {i : Nat} {text bytes rest : Bytes} (string : StringText text bytes)
    (shape : s.drop i = text ++ rest) :
    peek s (skipWs s (skipWs s i)) = ch '"' ∧
      parseString s (skipWs s (skipWs s i)) = .ok (bytes, i + text.length) := by
  obtain ⟨here, seen⟩ := skipWs_of_opens shape (StringText.cons string)
    (show Opens (ch '"') by unfold Opens; decide)
  rw [skipWs_skipWs, here]
  exact ⟨seen, parseString_string string shape⟩

mutual

/-- A derivable value is read, up to white space behind it. -/
theorem parseValue_complete : ∀ {text : Bytes} {tree : Value}, ValueText stod text tree →
    ∀ {i : Nat} {rest : Bytes}, s.drop i = text ++ rest → HeadIs Ending rest →
    ∀ (fuel : Nat), 2 * text.length ≤ fuel →
    ∃ j, parseValue stod s fuel (skipWs s i) = .ok (tree.keepFirst, j) ∧
      skipWs s j = skipWs s (i + text.length) := by
  intro text tree value i rest shape after fuel enough
  obtain ⟨fuel, rfl⟩ : ∃ n, fuel = n + 1 :=
    ⟨fuel - 1, by have := ValueText.length_pos value; omega⟩
  cases value with
  | null =>
      obtain ⟨here, seen⟩ := skipWs_of_opens shape ⟨ascii "ull", by decide⟩
        (show Opens (ch 'n') by unfold Opens; decide)
      refine ⟨_, ?_, rfl⟩
      rw [here, parseValue, seen]
      exact parseWord_of_drop shape
  | bool b =>
      cases b with
      | false =>
          obtain ⟨here, seen⟩ := skipWs_of_opens shape ⟨ascii "alse", by decide⟩
            (show Opens (ch 'f') by unfold Opens; decide)
          refine ⟨_, ?_, rfl⟩
          rw [here, parseValue, seen]
          exact parseWord_of_drop shape
      | true =>
          obtain ⟨here, seen⟩ := skipWs_of_opens shape ⟨ascii "rue", by decide⟩
            (show Opens (ch 't') by unfold Opens; decide)
          refine ⟨_, ?_, rfl⟩
          rw [here, parseValue, seen]
          exact parseWord_of_drop shape
  | number number converts =>
      obtain ⟨c, tail, head, kind⟩ := NumberText.cons number
      obtain ⟨here, seen⟩ := skipWs_of_opens shape ⟨tail, head⟩ (opens_of_number kind)
      refine ⟨_, ?_, rfl⟩
      rw [here, parseValue_number seen kind, parseNumber_number number converts shape after]
      rfl
  | string string =>
      obtain ⟨here, seen⟩ := skipWs_of_opens shape (StringText.cons string)
        (show Opens (ch '"') by unfold Opens; decide)
      refine ⟨_, ?_, rfl⟩
      rw [here]
      exact parseValue_string seen (parseString_string string shape)
  | @emptyArray opening closing begins ends =>
      rw [List.append_assoc] at shape
      obtain ⟨j, opened, next⟩ := get_structural begins (by decide) shape
      obtain ⟨k, closed, done⟩ := get_structural ends (by decide) (drop_add_of_drop shape)
      have long := Structural.length_pos begins
      have short := Structural.length_pos ends
      rw [List.length_append] at enough
      obtain ⟨fuel, rfl⟩ : ∃ n, fuel = n + 1 := ⟨fuel - 1, by omega⟩
      refine ⟨k, ?_, ?_⟩
      · rw [← next] at closed
        exact parseValue_emptyArray opened closed
      · rw [done, List.length_append, Nat.add_assoc]
  | @array opening body closing elements begins inside ends =>
      rw [List.append_assoc, List.append_assoc] at shape
      have shape₁ := drop_add_of_drop shape
      obtain ⟨j, opened, next⟩ := get_structural begins (by decide) shape
      have long := Structural.length_pos begins
      have short := Structural.length_pos ends
      simp only [List.length_append] at enough
      obtain ⟨fuel, rfl⟩ : ∃ n, fuel = n + 1 := ⟨fuel - 1, by omega⟩
      obtain ⟨k, listed, done⟩ := parseArrayLoop_complete inside ends shape₁ fuel (by omega) []
      refine ⟨k, ?_, ?_⟩
      · have filled : peek s (skipWs s (i + opening.length)) ≠ ch ']' := by
          obtain ⟨w, c, tail, rfl, blank, opens⟩ := ElementsText.opens inside
          rw [List.append_assoc, List.cons_append] at shape₁
          rw [peek_skipWs_append blank opens.1 shape₁]
          exact opens.2.1
        rw [← next] at filled listed
        rw [parseValue_array opened filled]
        exact listed
      · rw [done, Nat.add_assoc, ← List.length_append]
  | @emptyObject opening closing begins ends =>
      rw [List.append_assoc] at shape
      obtain ⟨j, opened, next⟩ := get_structural begins (by decide) shape
      obtain ⟨k, closed, done⟩ := get_structural ends (by decide) (drop_add_of_drop shape)
      have long := Structural.length_pos begins
      have short := Structural.length_pos ends
      rw [List.length_append] at enough
      obtain ⟨fuel, rfl⟩ : ∃ n, fuel = n + 1 := ⟨fuel - 1, by omega⟩
      refine ⟨k, ?_, ?_⟩
      · rw [← next] at closed
        exact parseValue_emptyObject opened closed
      · rw [done, List.length_append, Nat.add_assoc]
  | @object opening body closing members begins inside ends =>
      rw [List.append_assoc, List.append_assoc] at shape
      have shape₁ := drop_add_of_drop shape
      obtain ⟨j, opened, next⟩ := get_structural begins (by decide) shape
      have long := Structural.length_pos begins
      have short := Structural.length_pos ends
      simp only [List.length_append] at enough
      obtain ⟨fuel, rfl⟩ : ∃ n, fuel = n + 1 := ⟨fuel - 1, by omega⟩
      obtain ⟨k, listed, done⟩ := parseObjectLoop_complete inside ends shape₁ fuel (by omega) []
      refine ⟨k, ?_, ?_⟩
      · have filled : peek s (skipWs s (i + opening.length)) ≠ ch '}' := by
          obtain ⟨tail, rfl⟩ := MembersText.cons inside
          obtain ⟨here, seen⟩ := skipWs_of_opens shape₁ ⟨tail, rfl⟩
            (show Opens (ch '"') by unfold Opens; decide)
          rw [here, seen]
          decide
        rw [← next] at filled listed
        rw [parseValue_object opened filled]
        exact listed
      · rw [done, Nat.add_assoc, ← List.length_append]

/-- The rounds of the loop are the elements; `read` are those of the rounds before. -/
theorem parseArrayLoop_complete : ∀ {body : Bytes} {elements : List Value},
    ElementsText stod body elements → ∀ {closing : Bytes}, Structural (ch ']') closing →
    ∀ {i : Nat} {rest : Bytes}, s.drop i = body ++ (closing ++ rest) →
    ∀ (fuel : Nat), 2 * body.length + 1 ≤ fuel → ∀ (read : List Value),
    ∃ j, parseArrayLoop stod s fuel read (skipWs s i) =
        .ok (.arr (read ++ Value.keepFirstList elements), j) ∧
      skipWs s j = skipWs s (i + (body ++ closing).length) := by
  intro body elements inside closing ends i rest shape fuel enough read
  obtain ⟨fuel, rfl⟩ : ∃ n, fuel = n + 1 := ⟨fuel - 1, by omega⟩
  cases inside with
  | one value =>
      obtain ⟨j, parsed, behind⟩ := parseValue_complete value shape
        (headIs_structural ends (Or.inr (Or.inr (Or.inl rfl))) rest) fuel (by omega)
      obtain ⟨k, closed, done⟩ := get_structural ends (by decide) (drop_add_of_drop shape)
      refine ⟨k, ?_, ?_⟩
      · rw [← skipWs_skipWs] at parsed
        rw [← behind] at closed
        exact parseArrayLoop_last parsed closed
      · rw [done, List.length_append, Nat.add_assoc]
  | @more text separator tailText v others value comma tail =>
      have shape₁ : s.drop i = text ++ (separator ++ (tailText ++ (closing ++ rest))) := by
        rw [shape]
        simp
      have long := Structural.length_pos comma
      simp only [List.length_append] at enough
      obtain ⟨j, parsed, behind⟩ := parseValue_complete value shape₁
        (headIs_structural comma (Or.inr (Or.inl rfl)) _) fuel (by omega)
      have shape₂ := drop_add_of_drop shape₁
      obtain ⟨k, separated, next⟩ := get_structural comma (by decide) shape₂
      obtain ⟨l, listed, done⟩ := parseArrayLoop_complete tail ends
        (drop_add_of_drop shape₂) fuel (by omega) (read ++ [v.keepFirst])
      refine ⟨l, ?_, ?_⟩
      · rw [← skipWs_skipWs] at parsed
        rw [← behind] at separated
        rw [parseArrayLoop_next parsed separated, next, listed, List.append_assoc]
        rfl
      · rw [done]
        congr 1
        simp only [List.length_append]
        omega

theorem parseObjectLoop_complete : ∀ {body : Bytes} {members : Object},
    MembersText stod body members → ∀ {closing : Bytes}, Structural (ch '}') closing →
    ∀ {i : Nat} {rest : Bytes}, s.drop i = body ++ (closing ++ rest) →
    ∀ (fuel : Nat), 2 * body.length + 1 ≤ fuel → ∀ (read : Object),
    ∃ j, parseObjectLoop stod s fuel read (skipWs s i) =
        .ok (.obj ((Value.keepFirstMembers members).foldl
          (fun o member => Assoc.emplace member.1 member.2 o) read), j) ∧
      skipWs s j = skipWs s (i + (body ++ closing).length) := by
  intro body members inside closing ends i rest shape fuel enough read
  obtain ⟨fuel, rfl⟩ : ∃ n, fuel = n + 1 := ⟨fuel - 1, by omega⟩
  cases inside with
  | @one name separator text key v string colon value =>
      have shape₁ : s.drop i = name ++ (separator ++ (text ++ (closing ++ rest))) := by
        rw [shape]
        simp
      simp only [List.length_append] at enough
      obtain ⟨quoted, spelt⟩ := parseString_skipWs string shape₁
      have shape₂ := drop_add_of_drop shape₁
      obtain ⟨j, named, next⟩ := get_structural colon (by decide) shape₂
      have shape₃ := drop_add_of_drop shape₂
      obtain ⟨k, parsed, behind⟩ := parseValue_complete value shape₃
        (headIs_structural ends (Or.inr (Or.inr (Or.inr rfl))) rest) fuel (by omega)
      obtain ⟨l, closed, done⟩ := get_structural ends (by decide) (drop_add_of_drop shape₃)
      refine ⟨l, ?_, ?_⟩
      · rw [← next] at parsed
        rw [← behind] at closed
        exact parseObjectLoop_last quoted spelt named parsed closed
      · rw [done]
        congr 1
        simp only [List.length_append]
        omega
  | @more name colonText text separator tailText key v others string colon value comma tail =>
      have shape₁ : s.drop i = name ++ (colonText ++ (text ++ (separator ++
          (tailText ++ (closing ++ rest))))) := by
        rw [shape]
        simp
      have long := Structural.length_pos comma
      simp only [List.length_append] at enough
      obtain ⟨quoted, spelt⟩ := parseString_skipWs string shape₁
      have shape₂ := drop_add_of_drop shape₁
      obtain ⟨j, named, next⟩ := get_structural colon (by decide) shape₂
      have shape₃ := drop_add_of_drop shape₂
      obtain ⟨k, parsed, behind⟩ := parseValue_complete value shape₃
        (headIs_structural comma (Or.inr (Or.inl rfl)) _) fuel (by omega)
      have shape₄ := drop_add_of_drop shape₃
      obtain ⟨l, separated, onward⟩ := get_structural comma (by decide) shape₄
      obtain ⟨m, listed, done⟩ := parseObjectLoop_complete tail ends
        (drop_add_of_drop shape₄) fuel (by omega) (Assoc.emplace key v.keepFirst read)
      refine ⟨m, ?_, ?_⟩
      · rw [← next] at parsed
        rw [← behind] at separated
        rw [parseObjectLoop_next quoted spelt named parsed separated, onward, listed]
        rfl
      · rw [done]
        congr 1
        simp only [List.length_append]
        omega

end

end Values

theorem headIs_of_ws {text : Bytes} (blank : Ws text) : HeadIs Ending text := by
  rintro c rest rfl
  exact Or.inl (blank c List.mem_cons_self)

/-- Only white space is left. -/
theorem skipWs_eq_length {s w : Bytes} {i : Nat} (blank : Ws w) (shape : s.drop i = w)
    (inside : i ≤ s.length) : skipWs s i = s.length := by
  have whole : (s.drop i).takeWhile isSpace = s.drop i := by
    rw [shape]
    exact List.takeWhile_eq_self_iff.mpr blank
  rw [skipWs, whole, List.length_drop]
  omega

theorem derives_of_parse {stod : Stod} {s : Bytes} {v : Value} (parsed : parse stod s = .ok v) :
    Derives stod s v := by
  unfold parse at parsed
  obtain ⟨⟨result, i⟩, read, parsed⟩ := bind_eq_ok.mp parsed
  dsimp only at parsed
  split at parsed
  · rename_i atEnd
    cases parsed
    obtain ⟨before, left, spans⟩ := exists_spans_skipWs s 0
    obtain ⟨text, tree, value, kept, inside⟩ := parseValue_sound _ _ _ _ read
    obtain ⟨after, right, behind⟩ := exists_spans_skipWs s i
    have whole := (spans.trans (inside.trans behind)).drop
    rw [atEnd, List.drop_length, List.append_nil, List.drop_zero] at whole
    rw [whole]
    exact ⟨tree, .mk left value right, kept⟩
  · cases parsed

theorem parse_of_derives {stod : Stod} {s : Bytes} {v : Value} (derives : Derives stod s v) :
    parse stod s = .ok v := by
  obtain ⟨tree, derivation, rfl⟩ := derives
  obtain ⟨left, value, right⟩ := derivation
  rename_i before text after
  have start : (before ++ (text ++ after)).drop 0 = before ++ (text ++ after) := rfl
  have shape := drop_add_of_drop start
  rw [Nat.zero_add] at shape
  have enough : 2 * text.length ≤ 3 * (before ++ (text ++ after)).length + 3 := by
    simp only [List.length_append]
    omega
  obtain ⟨j, read, behind⟩ := parseValue_complete value shape (headIs_of_ws right) _ enough
  have atEnd : skipWs (before ++ (text ++ after)) (before.length + text.length) =
      (before ++ (text ++ after)).length := by
    apply skipWs_eq_length right (drop_add_of_drop shape)
    simp only [List.length_append]
    omega
  rw [parse, skipWs_append left start, Nat.zero_add, read]
  simp only [bind, Except.bind]
  rw [behind, atEnd, if_pos rfl]

end Parser

/-- The parser accepts the texts of its grammar and no others, and a text it accepts denotes
the value it returns.  The grammar is RFC 8259 with the white space of `isspace` and with
strings that may hold any byte; the first of the members with one key counts. -/
theorem parse_eq_ok_iff_derives (stod : Stod) (s : Bytes) (v : Value) :
    parse stod s = .ok v ↔ Derives stod s v :=
  ⟨Parser.derives_of_parse, Parser.parse_of_derives⟩

end WinInspect.Json
