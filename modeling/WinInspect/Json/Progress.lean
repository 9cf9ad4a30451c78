import WinInspect.Json.Cursor
import WinInspect.Json.Recognition

/-!
# Progress of the parser

The fuel of the model is enough: a nesting level or a member of a container costs at most three
units and consumes a byte, so three units for each byte that is left, and a few for the call itself,
are never used up.  With the simulation by the programs over the cursor this bounds the runs of the
parser from every position of every text.
-/

namespace WinInspect.Json

namespace Parser

/-- The fuel of the model is not the reason for the result. -/
def Fueled {α : Type} (result : Except ParseFailure α) : Prop :=
  result ≠ .error .outOfFuel

section Rules

variable {α β : Type}

theorem fueled_ok (value : α) : Fueled (.ok value : Except ParseFailure α) :=
  nofun

theorem fueled_parseError (message : String) :
    Fueled (.error (.parseError message) : Except ParseFailure α) :=
  nofun

theorem Fueled.bind {read : Except ParseFailure α} {rest : α → Except ParseFailure β}
    (begins : Fueled read) (goesOn : ∀ value, read = .ok value → Fueled (rest value)) :
    Fueled (read >>= rest) := by
  cases read with
  | error failure => exact fun same => begins (congrArg Except.error (Except.error.inj same))
  | ok value => exact goesOn value rfl

theorem Fueled.map {read : Except ParseFailure α} (fueled : Fueled read) (form : α → β) :
    Fueled (read.map form) := by
  cases read with
  | error failure => exact fun same => fueled (congrArg Except.error (Except.error.inj same))
  | ok value => exact fueled_ok _

theorem Fueled.ite {condition : Prop} [Decidable condition] {result other : Except ParseFailure α}
    (positive : condition → Fueled result) (negative : ¬condition → Fueled other) :
    Fueled (if condition then result else other) := by
  split
  · exact positive ‹_›
  · exact negative ‹_›

end Rules

/-! ## Positions -/

section Positions

variable {s : Bytes} {i j : Nat}

theorem Spans.within {text : Bytes} (spans : Spans s i text j) (inside : i ≤ s.length) :
    i + text.length = j ∧ j ≤ s.length := by
  have size := congrArg List.length spans.drop
  have stop := spans.stop
  rw [List.length_append, List.length_drop, List.length_drop] at size
  omega

theorem get_within {c : UInt8} (read : get s i = .ok (c, j)) (inside : i ≤ s.length) :
    i + 1 = j ∧ j ≤ s.length :=
  (spans_of_get read).within inside

theorem skipWs_within (inside : i ≤ s.length) : i ≤ skipWs s i ∧ skipWs s i ≤ s.length := by
  obtain ⟨w, _, spans⟩ := exists_spans_skipWs s i
  have bounds := spans.within inside
  omega

theorem parseEscape_within {piece : Bytes} (read : parseEscape s i = .ok (piece, j))
    (inside : i ≤ s.length) : i ≤ j ∧ j ≤ s.length := by
  obtain ⟨text, _, spans⟩ := parseEscape_sound read
  have bounds := spans.within inside
  omega

theorem parseString_within {text : Bytes} (read : parseString s i = .ok (text, j))
    (inside : i ≤ s.length) : i ≤ j ∧ j ≤ s.length := by
  obtain ⟨text, _, spans⟩ := parseString_sound read
  have bounds := spans.within inside
  omega

/-- A value takes at least one byte. -/
theorem parseValue_within {stod : Stod} {fuel : Nat} {v : Value}
    (read : parseValue stod s fuel i = .ok (v, j)) (inside : i ≤ s.length) :
    i + 1 ≤ j ∧ j ≤ s.length := by
  obtain ⟨text, tree, value, _, spans⟩ := parseValue_sound fuel i v j read
  have bounds := spans.within inside
  have long := ValueText.length_pos value
  omega

end Positions

/-! ## Fuel -/

section Fuel

variable {s : Bytes} {i : Nat}

theorem fueled_get : Fueled (get s i) := by
  unfold get
  split
  · exact fueled_ok _
  · exact fueled_parseError _

theorem fueled_parseUnicode : Fueled (parseUnicode s i) := by
  refine fueled_get.bind fun _ _ => ?_
  refine fueled_get.bind fun _ _ => ?_
  refine fueled_get.bind fun _ _ => ?_
  refine fueled_get.bind fun _ _ => ?_
  dsimp only
  split
  · exact fueled_ok _
  · exact fueled_parseError _

theorem fueled_parseEscape : Fueled (parseEscape s i) := by
  refine fueled_get.bind fun _ _ => ?_
  dsimp only
  split
  · exact fueled_ok _
  · exact Fueled.ite (fun _ => fueled_parseUnicode) fun _ => fueled_parseError _

theorem fueled_parseStringLoop {fuel : Nat} (out : Bytes) (inside : i ≤ s.length)
    (enough : s.length - i < fuel) : Fueled (parseStringLoop s fuel out i) := by
  induction fuel generalizing out i with
  | zero => omega
  | succ fuel ih =>
      refine fueled_get.bind fun ⟨c, j⟩ read => ?_
      have bounds := get_within read inside
      refine Fueled.ite (fun _ => fueled_ok _) fun _ => ?_
      refine Fueled.ite (fun _ => ?_) fun _ => ih _ (by omega) (by omega)
      refine fueled_parseEscape.bind fun ⟨piece, k⟩ escaped => ?_
      have later := parseEscape_within escaped (by omega)
      exact ih _ (by omega) (by omega)

theorem fueled_parseString (inside : i ≤ s.length) : Fueled (parseString s i) := by
  refine fueled_get.bind fun ⟨c, j⟩ read => ?_
  have bounds := get_within read inside
  exact Fueled.ite (fun _ => fueled_parseStringLoop _ (by omega) (by omega))
    fun _ => fueled_parseError _

theorem fueled_parseWord (word message : String) (value : Value) :
    Fueled (parseWord word message value s i) :=
  Fueled.ite (fun _ => fueled_ok _) fun _ => fueled_parseError _

theorem fueled_parseDigits : Fueled (parseDigits s i) :=
  Fueled.ite (fun _ => fueled_ok _) fun _ => fueled_parseError _

theorem fueled_parseNumber (stod : Stod) : Fueled (parseNumber stod s i) := by
  have intPart : ∀ i, Fueled (parseIntPart s i) := fun i =>
    Fueled.ite (fun _ => fueled_ok _) fun _ => fueled_parseDigits
  have fraction : ∀ i, Fueled (parseFraction s i) := fun i =>
    Fueled.ite (fun _ => fueled_parseDigits) fun _ => fueled_ok _
  have exponent : ∀ i, Fueled (parseExponent s i) := fun i =>
    Fueled.ite (fun _ => fueled_parseDigits) fun _ => fueled_ok _
  refine (intPart i).bind fun _ _ => ?_
  refine (fraction _).bind fun _ _ => ?_
  refine (exponent _).bind fun _ _ => ?_
  split
  · exact fueled_ok _
  · nofun

variable (stod : Stod)

mutual

theorem fueled_parseValue : ∀ (fuel i : Nat), i ≤ s.length → 3 * (s.length - i) + 2 ≤ fuel →
    Fueled (parseValue stod s fuel i)
  | 0, i, inside, enough => by omega
  | fuel + 1, i, inside, enough => by
      rw [parseValue]
      refine Fueled.ite (fun _ => fueled_parseObject fuel i inside (by omega)) fun _ => ?_
      refine Fueled.ite (fun _ => fueled_parseArray fuel i inside (by omega)) fun _ => ?_
      refine Fueled.ite (fun _ => (fueled_parseString inside).map _) fun _ => ?_
      refine Fueled.ite (fun _ => fueled_parseWord _ _ _) fun _ => ?_
      refine Fueled.ite (fun _ => fueled_parseWord _ _ _) fun _ => ?_
      refine Fueled.ite (fun _ => fueled_parseWord _ _ _) fun _ => ?_
      exact Fueled.ite (fun _ => fueled_parseNumber stod) fun _ => fueled_parseError _

theorem fueled_parseObject : ∀ (fuel i : Nat), i ≤ s.length → 3 * (s.length - i) + 1 ≤ fuel →
    Fueled (parseObject stod s fuel i)
  | 0, i, inside, enough => by omega
  | fuel + 1, i, inside, enough => by
      rw [parseObject]
      refine fueled_get.bind fun ⟨_, j⟩ read => ?_
      have bounds := get_within read inside
      have blank := skipWs_within bounds.2
      refine Fueled.ite (fun _ => ?_) fun _ =>
        fueled_parseObjectLoop fuel [] _ blank.2 (by omega)
      exact fueled_get.bind fun _ _ => fueled_ok _

theorem fueled_parseObjectLoop : ∀ (fuel : Nat) (obj : Object) (i : Nat), i ≤ s.length →
    3 * (s.length - i) + 3 ≤ fuel → Fueled (parseObjectLoop stod s fuel obj i)
  | 0, obj, i, inside, enough => by omega
  | fuel + 1, obj, i, inside, enough => by
      rw [parseObjectLoop]
      have blank := skipWs_within inside
      refine Fueled.ite (fun _ => ?_) fun _ => fueled_parseError _
      refine (fueled_parseString blank.2).bind fun ⟨key, j⟩ named => ?_
      have name := parseString_within named blank.2
      have nameBlank := skipWs_within name.2
      refine fueled_get.bind fun ⟨c, j⟩ colon => ?_
      have colonAt := get_within colon nameBlank.2
      have colonBlank := skipWs_within colonAt.2
      refine Fueled.ite (fun _ => ?_) fun _ => fueled_parseError _
      refine (fueled_parseValue fuel _ colonBlank.2 (by omega)).bind fun ⟨v, j⟩ read => ?_
      have value := parseValue_within read colonBlank.2
      have valueBlank := skipWs_within value.2
      refine fueled_get.bind fun ⟨c, j⟩ comma => ?_
      have commaAt := get_within comma valueBlank.2
      have commaBlank := skipWs_within commaAt.2
      refine Fueled.ite (fun _ => fueled_ok _) fun _ => ?_
      exact Fueled.ite (fun _ => fueled_parseObjectLoop fuel _ _ commaBlank.2 (by omega))
        fun _ => fueled_parseError _

theorem fueled_parseArray : ∀ (fuel i : Nat), i ≤ s.length → 3 * (s.length - i) + 1 ≤ fuel →
    Fueled (parseArray stod s fuel i)
  | 0, i, inside, enough => by omega
  | fuel + 1, i, inside, enough => by
      rw [parseArray]
      refine fueled_get.bind fun ⟨_, j⟩ read => ?_
      have bounds := get_within read inside
      have blank := skipWs_within bounds.2
      refine Fueled.ite (fun _ => ?_) fun _ =>
        fueled_parseArrayLoop fuel [] _ blank.2 (by omega)
      exact fueled_get.bind fun _ _ => fueled_ok _

theorem fueled_parseArrayLoop : ∀ (fuel : Nat) (arr : List Value) (i : Nat), i ≤ s.length →
    3 * (s.length - i) + 3 ≤ fuel → Fueled (parseArrayLoop stod s fuel arr i)
  | 0, arr, i, inside, enough => by omega
  | fuel + 1, arr, i, inside, enough => by
      rw [parseArrayLoop]
      have blank := skipWs_within inside
      refine (fueled_parseValue fuel _ blank.2 (by omega)).bind fun ⟨v, j⟩ read => ?_
      have value := parseValue_within read blank.2
      have valueBlank := skipWs_within value.2
      refine fueled_get.bind fun ⟨c, j⟩ comma => ?_
      have commaAt := get_within comma valueBlank.2
      have commaBlank := skipWs_within commaAt.2
      refine Fueled.ite (fun _ => fueled_ok _) fun _ => ?_
      exact Fueled.ite (fun _ => fueled_parseArrayLoop fuel _ _ commaBlank.2 (by omega))
        fun _ => fueled_parseError _

end

end Fuel

end Parser

/-- Parsing ends by itself: the fuel `parse` starts with is not used up. -/
theorem fueled_parse (stod : Stod) (s : Bytes) : Parser.Fueled (parse stod s) := by
  have start := Parser.skipWs_within (Nat.zero_le s.length)
  refine (Parser.fueled_parseValue stod _ _ start.2 (by omega)).bind fun _ _ => ?_
  exact Parser.Fueled.ite (fun _ => Parser.fueled_ok _) fun _ => Parser.fueled_parseError _

/-! ## Runs of the parser -/

namespace Cursor

open Effect.Program (run trace)

/-- A value, a `ParseError` or an exception of `std::stod`. -/
def Expected {α : Type} : Except Exit α → Prop
  | .ok _ => True
  | .error (.failure (.parseError _)) => True
  | .error (.failure (.stod _)) => True
  | .error _ => False

/-- A run ends with an expected outcome, and on the way the position only grows, stays within the
text, and no character outside is read. -/
structure Behaves {α : Type} (s : Bytes) (program : Parse α) (i : Nat) : Prop where
  safe : ∀ event ∈ trace (interp s) program i, Safe s event
  outcome : Expected (run (interp s) program i).1
  within : (run (interp s) program i).2 ≤ s.length

section

variable {s : Bytes} {i : Nat} {α : Type} {program : Parse α}
  {result : Except ParseFailure (α × Nat)}

theorem Computes.behaves (computes : Computes s program i result) (fueled : Parser.Fueled result) :
    Behaves s program i := by
  obtain ⟨safe, outcome⟩ := computes
  rcases ran : run (interp s) program i with ⟨exit | value, j⟩
  · rw [ran] at outcome
    obtain ⟨⟨failure, rfl, rfl⟩, within⟩ := outcome
    refine ⟨safe, ?_, ?_⟩
    · rw [ran]
      cases failure with
      | parseError message => trivial
      | stod what => trivial
      | outOfFuel => exact absurd rfl fueled
    · rw [ran]
      exact within
  · rw [ran] at outcome
    refine ⟨safe, ?_, ?_⟩
    · rw [ran]
      trivial
    · rw [ran]
      exact outcome.2

theorem Computes.eq_ok (computes : Computes s program i result) {value : α} {j : Nat}
    (ran : run (interp s) program i = (.ok value, j)) : result = .ok (value, j) := by
  have outcome := computes.2
  rw [ran] at outcome
  exact outcome.1

theorem Computes.run_fst (computes : Computes s program i result) :
    (run (interp s) program i).1 = (result.map Prod.fst).mapError Exit.failure := by
  have outcome := computes.2
  rcases ran : run (interp s) program i with ⟨exit | value, j⟩
  · rw [ran] at outcome
    obtain ⟨⟨failure, rfl, rfl⟩, _⟩ := outcome
    rfl
  · rw [ran] at outcome
    obtain ⟨rfl, _⟩ := outcome
    rfl

end

/-- The program comes to what `json::parse` is. -/
theorem run_parse (stod : Stod) (s : Bytes) :
    (run (interp s) (parse (s.length + 1) stod (3 * s.length + 3)) 0).1 =
      (Json.parse stod s).mapError Exit.failure := by
  rw [(computes_parse stod _).run_fst]
  congr 1
  unfold Json.parse
  rcases Parser.parseValue stod s (3 * s.length + 3) (Parser.skipWs s 0) with failure | ⟨v, i⟩
  · rfl
  · exact apply_ite (Except.map _) _ _ _

/-- The parser makes progress within its text: from every position each of its functions ends with a
value, a `ParseError` or an exception of `std::stod`, the position never decreases or leaves the
text, only characters of the text are read, and a value takes at least one of them. -/
theorem parser_progress (stod : Stod) (s : Bytes) (extra : Nat) :
    let rounds := s.length + 1
    let fuel := 3 * s.length + 3 + extra
    Behaves s (parse rounds stod fuel) 0 ∧
    ∀ i, i ≤ s.length →
      Behaves s (parseValue rounds stod fuel) i ∧
      (∀ v j, run (interp s) (parseValue rounds stod fuel) i = (.ok v, j) → i + 1 ≤ j) ∧
      Behaves s (parseObject rounds stod fuel) i ∧
      Behaves s (parseArray rounds stod fuel) i ∧
      Behaves s (parseString rounds) i ∧
      Behaves s parseTrue i ∧ Behaves s parseFalse i ∧ Behaves s parseNull i ∧
      Behaves s (parseNumber rounds stod) i ∧
      Behaves s (skipWs rounds) i ∧ Behaves s peek i ∧ Behaves s get i := by
  intro rounds fuel
  have start := Parser.skipWs_within (Nat.zero_le s.length)
  constructor
  · refine (computes_parse stod fuel).behaves ?_
    refine (Parser.fueled_parseValue stod fuel _ start.2 (by omega)).bind fun _ _ => ?_
    exact Parser.Fueled.ite (fun _ => Parser.fueled_ok _) fun _ => Parser.fueled_parseError _
  · intro i inside
    have value := computes_parseValue stod fuel i inside
    have object := computes_parseObject stod fuel i inside
    have array := computes_parseArray stod fuel i inside
    have word := fun word message value =>
      (computes_parseWord inside word message value).behaves (Parser.fueled_parseWord _ _ _)
    refine ⟨value.behaves (Parser.fueled_parseValue stod fuel i inside (by omega)),
      fun v j ran => (Parser.parseValue_within (value.eq_ok ran) inside).1,
      object.behaves (Parser.fueled_parseObject stod fuel i inside (by omega)),
      array.behaves (Parser.fueled_parseArray stod fuel i inside (by omega)),
      (computes_parseString inside).behaves ((Parser.fueled_parseString inside).map _),
      word _ _ _, word _ _ _, word _ _ _,
      (computes_parseNumber stod inside).behaves (Parser.fueled_parseNumber stod),
      (computes_skipWs inside).behaves (Parser.fueled_ok _),
      (computes_peek inside).behaves (Parser.fueled_ok _),
      (computes_get inside).behaves Parser.fueled_get⟩

/-- On `[null]` a value is read from the second byte up to the last. -/
theorem parser_progress_null :
    run (interp (ascii "[null]")) (parseValue 7 (fun _ => .error []) 21) 1 = (.ok .null, 5) ∧
      Behaves (ascii "[null]") (parseValue 7 (fun _ => .error []) 21) 1 ∧ 1 + 1 ≤ 5 :=
  have atOne := (parser_progress (fun _ => .error []) (ascii "[null]") 0).2 1 (by decide)
  ⟨rfl, atOne.1, atOne.2.1 .null 5 rfl⟩

end Cursor

end WinInspect.Json
