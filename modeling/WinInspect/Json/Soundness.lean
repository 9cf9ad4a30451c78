import WinInspect.Json.Grammar
import WinInspect.Json.RoundTrip
import Mathlib.Data.List.TakeWhile

/-!
# What the parser reads is derivable

Every result of the parser gives a derivation of the text it has read.  `Spans` is the
text between two positions; the proof follows the functions of the parser, with a lemma for
each of them.
-/

namespace WinInspect.Json

open Grammar

theorem bind_eq_ok {ε α β : Type} {first : Except ε α} {next : α → Except ε β} {result : β} :
    (first >>= next) = .ok result ↔ ∃ middle, first = .ok middle ∧ next middle = .ok result := by
  cases first with
  | error what => simp [bind, Except.bind]
  | ok middle => simp [bind, Except.bind]

namespace Parser

/-! ## Spans -/

/-- The text between two positions. -/
structure Spans (s : Bytes) (i : Nat) (text : Bytes) (j : Nat) : Prop where
  drop : s.drop i = text ++ s.drop j
  stop : j = i + text.length

section Reading

variable {s : Bytes} {i j k : Nat} {c : UInt8} {text more rest : Bytes}

theorem Spans.of_drop (shape : s.drop i = text ++ rest) : Spans s i text (i + text.length) where
  drop := by rw [drop_add_of_drop shape, shape]
  stop := rfl

theorem Spans.trans (first : Spans s i text j) (second : Spans s j more k) :
    Spans s i (text ++ more) k where
  drop := by rw [first.drop, second.drop, List.append_assoc]
  stop := by rw [second.stop, first.stop, List.length_append, Nat.add_assoc]

theorem Spans.take (spans : Spans s i text j) : (s.drop i).take (j - i) = text := by
  rw [spans.drop, spans.stop, Nat.add_sub_cancel_left, List.take_left]

theorem exists_spans_skipWs (s : Bytes) (i : Nat) : ∃ w, Ws w ∧ Spans s i w (skipWs s i) := by
  have shape : s.drop i = (s.drop i).takeWhile isSpace ++ (s.drop i).dropWhile isSpace :=
    List.takeWhile_append_dropWhile.symm
  refine ⟨(s.drop i).takeWhile isSpace, ?_, Spans.of_drop shape⟩
  intro c member
  exact List.mem_takeWhile_imp member

theorem spans_of_get (read : get s i = .ok (c, j)) : Spans s i [c] j := by
  unfold get at read
  cases found : s[i]? with
  | none =>
      rw [found] at read
      cases read
  | some byte =>
      rw [found] at read
      cases read
      obtain ⟨below, rfl⟩ := List.getElem?_eq_some_iff.mp found
      exact ⟨List.drop_eq_getElem_cons below, rfl⟩

/-- A byte other than NUL that is seen is there. -/
theorem drop_of_peek (seen : peek s i = c) (visible : c ≠ 0) :
    s.drop i = c :: s.drop (i + 1) := by
  unfold peek at seen
  rw [List.getD_eq_getElem?_getD] at seen
  cases found : s[i]? with
  | none =>
      rw [found] at seen
      exact absurd seen.symm visible
  | some byte =>
      rw [found] at seen
      cases seen
      obtain ⟨below, rfl⟩ := List.getElem?_eq_some_iff.mp found
      exact List.drop_eq_getElem_cons below

theorem spans_of_peek (seen : peek s i = c) (visible : c ≠ 0) : Spans s i [c] (i + 1) :=
  ⟨drop_of_peek seen visible, rfl⟩

/-- A byte that has been seen is the one that is read. -/
theorem eq_of_peek_of_get {d : UInt8} (seen : peek s i = d) (visible : d ≠ 0)
    (read : get s i = .ok (c, j)) : c = d := by
  rw [get_of_drop (drop_of_peek seen visible)] at read
  cases read
  rfl

end Reading

/-! ## What is read is derivable -/

section Strings

variable {s : Bytes} {i j : Nat} {piece : Bytes}

theorem shortEscape_eq_some_iff {e c : UInt8} : shortEscape e = some c ↔ (e, c) ∈ escapes := by
  constructor
  · intro known
    unfold shortEscape at known
    split_ifs at known with quote backslash slash b f n r t
    all_goals
      subst e
      cases known
      decide
  · intro known
    simp only [escapes, List.mem_cons, Prod.mk.injEq, List.not_mem_nil, or_false] at known
    rcases known with ⟨rfl, rfl⟩ | ⟨rfl, rfl⟩ | ⟨rfl, rfl⟩ | ⟨rfl, rfl⟩ | ⟨rfl, rfl⟩ | ⟨rfl, rfl⟩ |
      ⟨rfl, rfl⟩ | ⟨rfl, rfl⟩ <;> decide

theorem parseUnicode_sound (read : parseUnicode s i = .ok (piece, j)) :
    ∃ text, CharText (ch '\\' :: ch 'u' :: text) piece ∧ Spans s i text j := by
  unfold parseUnicode at read
  obtain ⟨⟨c₁, i₁⟩, read₁, read⟩ := bind_eq_ok.mp read
  obtain ⟨⟨c₂, i₂⟩, read₂, read⟩ := bind_eq_ok.mp read
  obtain ⟨⟨c₃, i₃⟩, read₃, read⟩ := bind_eq_ok.mp read
  obtain ⟨⟨c₄, i₄⟩, read₄, read⟩ := bind_eq_ok.mp read
  have spans := (((spans_of_get read₁).trans (spans_of_get read₂)).trans
    (spans_of_get read₃)).trans (spans_of_get read₄)
  dsimp only at read
  split at read
  · rename_i first second third fourth
    cases read
    exact ⟨_, .unicode first second third fourth, spans⟩
  · cases read

theorem parseEscape_sound (read : parseEscape s i = .ok (piece, j)) :
    ∃ text, CharText (ch '\\' :: text) piece ∧ Spans s i text j := by
  unfold parseEscape at read
  obtain ⟨⟨e, i₁⟩, read₁, read⟩ := bind_eq_ok.mp read
  have spans := spans_of_get read₁
  dsimp only at read
  split at read
  · rename_i c known
    cases read
    exact ⟨[e], .escape (shortEscape_eq_some_iff.mp known), spans⟩
  · split at read
    · rename_i unicode
      subst unicode
      obtain ⟨text, derived, rest⟩ := parseUnicode_sound read
      exact ⟨_, derived, spans.trans rest⟩
    · cases read

theorem parseStringLoop_sound {fuel : Nat} {out result : Bytes}
    (read : parseStringLoop s fuel out i = .ok (result, j)) :
    ∃ body bytes, CharsText body bytes ∧ result = out ++ bytes ∧
      Spans s i (body ++ [ch '"']) j := by
  induction fuel generalizing out i with
  | zero => cases read
  | succ fuel inductionHypothesis =>
      unfold parseStringLoop at read
      obtain ⟨⟨c, i₁⟩, read₁, read⟩ := bind_eq_ok.mp read
      have spans := spans_of_get read₁
      dsimp only at read
      split at read
      · rename_i quote
        subst quote
        cases read
        exact ⟨[], [], .nil, (List.append_nil _).symm, spans⟩
      · rename_i unquoted
        split at read
        · rename_i backslash
          subst backslash
          obtain ⟨⟨piece, i₂⟩, escape, read⟩ := bind_eq_ok.mp read
          obtain ⟨text, derived, escapeSpans⟩ := parseEscape_sound escape
          obtain ⟨body, bytes, chars, rfl, rest⟩ := inductionHypothesis read
          refine ⟨_, _, .cons derived chars, List.append_assoc _ _ _, ?_⟩
          rw [List.append_assoc]
          exact (spans.trans escapeSpans).trans rest
        · rename_i plain
          obtain ⟨body, bytes, chars, rfl, rest⟩ := inductionHypothesis read
          exact ⟨_, _, .cons (.unescaped unquoted plain) chars, List.append_assoc _ _ _,
            spans.trans rest⟩

theorem parseString_sound {result : Bytes} (read : parseString s i = .ok (result, j)) :
    ∃ text, StringText text result ∧ Spans s i text j := by
  unfold parseString at read
  obtain ⟨⟨c, i₁⟩, read₁, read⟩ := bind_eq_ok.mp read
  have spans := spans_of_get read₁
  dsimp only at read
  split at read
  · rename_i quote
    subst quote
    obtain ⟨body, bytes, chars, rfl, rest⟩ := parseStringLoop_sound read
    exact ⟨_, .mk chars, spans.trans rest⟩
  · cases read

end Strings

section Numbers

variable {s : Bytes} {i j : Nat}

theorem isDigit_ne_zero {c : UInt8} (digit : isDigit c = true) : c ≠ 0 := by
  rintro rfl
  exact absurd digit (by decide)

theorem exists_spans_skipDigits (s : Bytes) (i : Nat) :
    ∃ digits, (∀ c ∈ digits, isDigit c = true) ∧ Spans s i digits (skipDigits s i) := by
  have shape : s.drop i = (s.drop i).takeWhile isDigit ++ (s.drop i).dropWhile isDigit :=
    List.takeWhile_append_dropWhile.symm
  refine ⟨(s.drop i).takeWhile isDigit, ?_, Spans.of_drop shape⟩
  intro c member
  exact List.mem_takeWhile_imp member

/-- The digit loop takes the digit that is seen. -/
theorem skipDigits_of_peek (digit : isDigit (peek s i) = true) :
    skipDigits s i = skipDigits s (i + 1) := by
  have shape := drop_of_peek rfl (isDigit_ne_zero digit)
  rw [skipDigits, skipDigits, shape, List.takeWhile_cons_of_pos digit, List.length_cons]
  omega

theorem parseDigits_sound (read : parseDigits s i = .ok j) :
    ∃ c digits, isDigit c = true ∧ (∀ d ∈ digits, isDigit d = true) ∧ peek s i = c ∧
      Spans s i (c :: digits) j := by
  unfold parseDigits at read
  split at read
  · rename_i digit
    cases read
    obtain ⟨digits, all, spans⟩ := exists_spans_skipDigits s (i + 1)
    rw [skipDigits_of_peek digit]
    exact ⟨_, digits, digit, all, rfl, (spans_of_peek rfl (isDigit_ne_zero digit)).trans spans⟩
  · cases read

theorem digits_cons {c : UInt8} {digits : Bytes} (digit : isDigit c = true)
    (all : ∀ d ∈ digits, isDigit d = true) : Digits (c :: digits) :=
  ⟨List.cons_ne_nil _ _, List.forall_mem_cons.mpr ⟨digit, all⟩⟩

theorem parseInt_sound (read : (if peek s i = ch '0' then .ok (i + 1) else parseDigits s i) =
    (.ok j : Except ParseFailure Nat)) : ∃ int, IntText int ∧ Spans s i int j := by
  split at read
  · rename_i zero
    cases read
    exact ⟨_, .zero, spans_of_peek zero (by decide)⟩
  · rename_i nonzero
    obtain ⟨c, digits, digit, all, seen, spans⟩ := parseDigits_sound read
    rw [seen] at nonzero
    exact ⟨_, .digits digit nonzero all, spans⟩

theorem parseIntPart_sound (read : parseIntPart s i = .ok j) :
    ∃ minus int, (minus = [] ∨ minus = [ch '-']) ∧ IntText int ∧ Spans s i (minus ++ int) j := by
  unfold parseIntPart at read
  dsimp only at read
  by_cases minus : peek s i = ch '-'
  · rw [if_pos minus] at read
    obtain ⟨int, derived, spans⟩ := parseInt_sound read
    exact ⟨_, int, Or.inr rfl, derived, (spans_of_peek minus (by decide)).trans spans⟩
  · rw [if_neg minus] at read
    obtain ⟨int, derived, spans⟩ := parseInt_sound read
    exact ⟨[], int, Or.inl rfl, derived, spans⟩

theorem Spans.refl (s : Bytes) (i : Nat) : Spans s i [] i :=
  ⟨rfl, rfl⟩

theorem parseFraction_sound (read : parseFraction s i = .ok j) :
    ∃ frac, FracText frac ∧ Spans s i frac j := by
  unfold parseFraction at read
  split at read
  · rename_i point
    obtain ⟨c, digits, digit, all, _, spans⟩ := parseDigits_sound read
    exact ⟨_, .present (digits_cons digit all), (spans_of_peek point (by decide)).trans spans⟩
  · cases read
    exact ⟨[], .absent, Spans.refl s i⟩

theorem parseExponent_sound (read : parseExponent s i = .ok j) :
    ∃ exp, ExpText exp ∧ Spans s i exp j := by
  unfold parseExponent at read
  split at read
  · rename_i mark
    have visible : peek s i ≠ 0 := by
      rcases mark with mark | mark <;> rw [mark] <;> decide
    have first := spans_of_peek rfl visible
    dsimp only at read
    by_cases signed : peek s (i + 1) = ch '+' ∨ peek s (i + 1) = ch '-'
    · rw [if_pos signed] at read
      obtain ⟨c, digits, digit, all, _, spans⟩ := parseDigits_sound read
      have signVisible : peek s (i + 1) ≠ 0 := by
        rcases signed with sign | sign <;> rw [sign] <;> decide
      have sign : [peek s (i + 1)] = [] ∨ [peek s (i + 1)] = [ch '+'] ∨
          [peek s (i + 1)] = [ch '-'] := by
        simpa using signed
      exact ⟨_, .present mark sign (digits_cons digit all),
        first.trans ((spans_of_peek rfl signVisible).trans spans)⟩
    · rw [if_neg signed] at read
      obtain ⟨c, digits, digit, all, _, spans⟩ := parseDigits_sound read
      exact ⟨_, .present mark (Or.inl rfl) (digits_cons digit all), first.trans spans⟩
  · cases read
    exact ⟨[], .absent, Spans.refl s i⟩

theorem parseNumber_sound {stod : Stod} {v : Value} (read : parseNumber stod s i = .ok (v, j)) :
    ∃ text, ValueText stod text v ∧ v.keepFirst = v ∧ Spans s i text j := by
  unfold parseNumber at read
  obtain ⟨i₁, read₁, read⟩ := bind_eq_ok.mp read
  obtain ⟨i₂, read₂, read⟩ := bind_eq_ok.mp read
  obtain ⟨i₃, read₃, read⟩ := bind_eq_ok.mp read
  obtain ⟨minus, int, signed, integer, intSpans⟩ := parseIntPart_sound read₁
  obtain ⟨frac, fraction, fracSpans⟩ := parseFraction_sound read₂
  obtain ⟨exp, exponent, expSpans⟩ := parseExponent_sound read₃
  have spans := intSpans.trans (fracSpans.trans expSpans)
  rw [List.append_assoc] at spans
  rw [spans.take] at read
  split at read
  · rename_i d converts
    cases read
    exact ⟨_, .number (.mk signed integer fraction exponent) converts, rfl, spans⟩
  · cases read

end Numbers

section Values

variable {stod : Stod} {s : Bytes} {i j : Nat}

theorem parseWord_sound {word message : String} {value v : Value}
    (read : parseWord word message value s i = .ok (v, j)) :
    v = value ∧ Spans s i (ascii word) j := by
  unfold parseWord at read
  split at read
  · rename_i seen
    cases read
    have shape := List.take_append_drop (ascii word).length (s.drop i)
    rw [seen] at shape
    exact ⟨rfl, Spans.of_drop shape.symm⟩
  · cases read

/-- A structural character that is read behind white space. -/
theorem exists_structural {c : UInt8} (read : get s (skipWs s i) = .ok (c, j)) :
    ∃ text, Structural c text ∧ Spans s i text j := by
  obtain ⟨w, blank, spans⟩ := exists_spans_skipWs s i
  exact ⟨_, .mk blank ws_nil, spans.trans (spans_of_get read)⟩

/-- A structural character that is read in front of white space. -/
theorem structural_of_get {c : UInt8} (read : get s i = .ok (c, j)) {w : Bytes} (blank : Ws w)
    {k : Nat} (spans : Spans s j w k) : Structural c (c :: w) ∧ Spans s i (c :: w) k :=
  ⟨.mk ws_nil blank, (spans_of_get read).trans spans⟩

mutual

theorem parseValue_sound : ∀ (fuel i : Nat) (v : Value) (j : Nat),
    parseValue stod s fuel i = .ok (v, j) →
      ∃ text tree, ValueText stod text tree ∧ tree.keepFirst = v ∧ Spans s i text j
  | 0, i, v, j, read => by
      rw [parseValue] at read
      cases read
  | fuel + 1, i, v, j, read => by
      rw [parseValue] at read
      split_ifs at read with brace bracket quote t f n number
      · exact parseObject_sound fuel i v j brace read
      · exact parseArray_sound fuel i v j bracket read
      · cases parsed : parseString s i with
        | error what =>
            rw [parsed] at read
            cases read
        | ok result =>
            rw [parsed] at read
            cases read
            obtain ⟨text, string, spans⟩ := parseString_sound parsed
            exact ⟨text, _, .string string, rfl, spans⟩
      · obtain ⟨rfl, spans⟩ := parseWord_sound read
        exact ⟨_, _, .bool true, rfl, spans⟩
      · obtain ⟨rfl, spans⟩ := parseWord_sound read
        exact ⟨_, _, .bool false, rfl, spans⟩
      · obtain ⟨rfl, spans⟩ := parseWord_sound read
        exact ⟨_, _, .null, rfl, spans⟩
      · obtain ⟨text, derived, same, spans⟩ := parseNumber_sound read
        exact ⟨text, v, derived, same, spans⟩

theorem parseObject_sound : ∀ (fuel i : Nat) (v : Value) (j : Nat), peek s i = ch '{' →
    parseObject stod s fuel i = .ok (v, j) →
      ∃ text tree, ValueText stod text tree ∧ tree.keepFirst = v ∧ Spans s i text j
  | 0, i, v, j, _, read => by
      rw [parseObject] at read
      cases read
  | fuel + 1, i, v, j, brace, read => by
      rw [parseObject] at read
      obtain ⟨⟨c, i₁⟩, opened, read⟩ := bind_eq_ok.mp read
      cases eq_of_peek_of_get brace (by decide) opened
      obtain ⟨w, blank, gap⟩ := exists_spans_skipWs s i₁
      obtain ⟨begins, opening⟩ := structural_of_get opened blank gap
      dsimp only at read
      split at read
      · rename_i closes
        obtain ⟨⟨d, i₂⟩, closed, read⟩ := bind_eq_ok.mp read
        cases eq_of_peek_of_get closes (by decide) closed
        cases read
        obtain ⟨ends, closing⟩ := structural_of_get closed ws_nil (Spans.refl s i₂)
        exact ⟨_, _, .emptyObject begins ends, rfl, opening.trans closing⟩
      · obtain ⟨w', body, closing, members, blank', inside, ends, rfl, spans⟩ :=
          parseObjectLoop_sound fuel [] _ v j read
        refine ⟨_, .obj members, .object (begins.append blank') inside ends, rfl, ?_⟩
        rw [List.append_assoc]
        exact opening.trans spans

theorem parseObjectLoop_sound : ∀ (fuel : Nat) (done : Object) (i : Nat) (v : Value) (j : Nat),
    parseObjectLoop stod s fuel done i = .ok (v, j) →
      ∃ w body closing members, Ws w ∧ MembersText stod body members ∧
        Structural (ch '}') closing ∧
        v = .obj ((Value.keepFirstMembers members).foldl
          (fun o member => Assoc.emplace member.1 member.2 o) done) ∧
        Spans s i (w ++ (body ++ closing)) j
  | 0, done, i, v, j, read => by
      rw [parseObjectLoop] at read
      cases read
  | fuel + 1, done, i, v, j, read => by
      rw [parseObjectLoop] at read
      obtain ⟨w, blank, gap⟩ := exists_spans_skipWs s i
      dsimp only at read
      split_ifs at read
      obtain ⟨⟨key, i₁⟩, named, read⟩ := bind_eq_ok.mp read
      obtain ⟨name, string, nameSpans⟩ := parseString_sound named
      obtain ⟨⟨c, i₂⟩, separated, read⟩ := bind_eq_ok.mp read
      obtain ⟨colonText, colon, colonSpans⟩ := exists_structural separated
      dsimp only at read
      split_ifs at read with isColon
      subst isColon
      obtain ⟨⟨item, i₃⟩, parsed, read⟩ := bind_eq_ok.mp read
      obtain ⟨text, tree, value, rfl, valueSpans⟩ := parseValue_sound fuel _ item i₃ parsed
      obtain ⟨w₁, blank₁, gap₁⟩ := exists_spans_skipWs s i₂
      obtain ⟨⟨d, i₄⟩, next, read⟩ := bind_eq_ok.mp read
      obtain ⟨nextText, nextIs, nextSpans⟩ := exists_structural next
      have member := nameSpans.trans ((colonSpans.trans gap₁).trans valueSpans)
      dsimp only at read
      split_ifs at read with closes continues
      · subst closes
        cases read
        refine ⟨w, _, nextText, [(key, tree)], blank,
          .one string (colon.append blank₁) value, nextIs, rfl, ?_⟩
        exact gap.trans (member.trans nextSpans)
      · subst continues
        obtain ⟨w₂, blank₂, gap₂⟩ := exists_spans_skipWs s i₄
        obtain ⟨w₃, body, closing, members, blank₃, inside, ends, rfl, spans⟩ :=
          parseObjectLoop_sound fuel _ _ v j read
        refine ⟨w, _, closing, (key, tree) :: members, blank,
          .more string (colon.append blank₁) value ((nextIs.append blank₂).append blank₃) inside,
          ends, rfl, ?_⟩
        have whole := gap.trans (member.trans ((nextSpans.trans gap₂).trans spans))
        simpa only [List.append_assoc] using whole

theorem parseArray_sound : ∀ (fuel i : Nat) (v : Value) (j : Nat), peek s i = ch '[' →
    parseArray stod s fuel i = .ok (v, j) →
      ∃ text tree, ValueText stod text tree ∧ tree.keepFirst = v ∧ Spans s i text j
  | 0, i, v, j, _, read => by
      rw [parseArray] at read
      cases read
  | fuel + 1, i, v, j, bracket, read => by
      rw [parseArray] at read
      obtain ⟨⟨c, i₁⟩, opened, read⟩ := bind_eq_ok.mp read
      cases eq_of_peek_of_get bracket (by decide) opened
      obtain ⟨w, blank, gap⟩ := exists_spans_skipWs s i₁
      obtain ⟨begins, opening⟩ := structural_of_get opened blank gap
      dsimp only at read
      split at read
      · rename_i closes
        obtain ⟨⟨d, i₂⟩, closed, read⟩ := bind_eq_ok.mp read
        cases eq_of_peek_of_get closes (by decide) closed
        cases read
        obtain ⟨ends, closing⟩ := structural_of_get closed ws_nil (Spans.refl s i₂)
        exact ⟨_, _, .emptyArray begins ends, rfl, opening.trans closing⟩
      · obtain ⟨w', body, closing, elements, blank', inside, ends, rfl, spans⟩ :=
          parseArrayLoop_sound fuel [] _ v j read
        refine ⟨_, .arr elements, .array (begins.append blank') inside ends, rfl, ?_⟩
        rw [List.append_assoc]
        exact opening.trans spans

theorem parseArrayLoop_sound : ∀ (fuel : Nat) (done : List Value) (i : Nat) (v : Value) (j : Nat),
    parseArrayLoop stod s fuel done i = .ok (v, j) →
      ∃ w body closing elements, Ws w ∧ ElementsText stod body elements ∧
        Structural (ch ']') closing ∧ v = .arr (done ++ Value.keepFirstList elements) ∧
        Spans s i (w ++ (body ++ closing)) j
  | 0, done, i, v, j, read => by
      rw [parseArrayLoop] at read
      cases read
  | fuel + 1, done, i, v, j, read => by
      rw [parseArrayLoop] at read
      obtain ⟨w, blank, gap⟩ := exists_spans_skipWs s i
      obtain ⟨⟨item, i₁⟩, parsed, read⟩ := bind_eq_ok.mp read
      obtain ⟨text, tree, value, rfl, valueSpans⟩ := parseValue_sound fuel _ item i₁ parsed
      obtain ⟨⟨d, i₂⟩, next, read⟩ := bind_eq_ok.mp read
      obtain ⟨nextText, nextIs, nextSpans⟩ := exists_structural next
      dsimp only at read
      split_ifs at read with closes continues
      · subst closes
        cases read
        exact ⟨w, text, nextText, [tree], blank, .one value, nextIs, rfl,
          gap.trans (valueSpans.trans nextSpans)⟩
      · subst continues
        obtain ⟨w₂, blank₂, gap₂⟩ := exists_spans_skipWs s i₂
        obtain ⟨w₃, body, closing, elements, blank₃, inside, ends, rfl, spans⟩ :=
          parseArrayLoop_sound fuel _ _ v j read
        refine ⟨w, _, closing, tree :: elements, blank,
          .more value ((nextIs.append blank₂).append blank₃) inside, ends, ?_, ?_⟩
        · rw [Value.keepFirstList, List.append_assoc, List.singleton_append]
        · have whole := gap.trans (valueSpans.trans ((nextSpans.trans gap₂).trans spans))
          simpa only [List.append_assoc] using whole

end

end Values

end Parser

end WinInspect.Json
