import WinInspect.Effect.Trace
import WinInspect.Json.Soundness

/-!
# The parser and its cursor

The class `Parser` of `tinyjson.hpp` statement by statement, as a program over what it does to its
text and its position: `s_.size()`, `i_`, `s_[p]`, `i_ += n` and `s_.substr(p, n)`.  Reading outside
the text is undefined behaviour and an exit of its own, and so are the exceptions of the library
other than those of `std::stod`.

The functions of `Json.Parser` pass the position and read with a default.  Every program computes
what the function of the same name does, and on the way to it the position only grows, stays within
the text, and no character outside is read.
-/

namespace WinInspect.Json.Cursor

open Effect (Program Interp)
open Effect.Program (perform Meets)

/-! ## The model -/

/-- What the parser does to its text and its position. -/
inductive Op : Type → Type
  /-- `s_.size()`. -/
  | size : Op Nat
  /-- `i_`. -/
  | position : Op Nat
  /-- `s_[p]`. -/
  | char (p : Nat) : Op UInt8
  /-- `i_ += n`. -/
  | advance (n : Nat) : Op Unit
  /-- `s_.substr(p, n)`. -/
  | substr (p n : Nat) : Op Bytes

/-- The ways out of the parser other than a value. -/
inductive Exit where
  /-- An exception the source names, or the end of the rounds of the model. -/
  | failure (failure : ParseFailure)
  /-- `std::out_of_range` of `substr`. -/
  | outOfRange
  /-- `std::bad_variant_access` of `std::get`. -/
  | badVariantAccess
  /-- Undefined behaviour: a character outside the text is read. -/
  | undefined (p : Nat)

/-- The operations on a text; the state is the position. -/
def interp (s : Bytes) : Interp Op Exit Nat where
  apply
    | .size, i => (.ok s.length, i)
    | .position, i => (.ok i, i)
    | .char p, i =>
        match s[p]? with
        | some c => (.ok c, i)
        | none => (.error (.undefined p), i)
    | .advance n, i => (.ok (), i + n)
    | .substr p n, i =>
        if p ≤ s.length then (.ok ((s.drop p).take n), i) else (.error .outOfRange, i)

/-- A piece of the parser. -/
abbrev Parse := Program Op Exit

section

variable {α : Type}

/-- `throw ParseError(message)`. -/
def fail (message : String) : Parse α :=
  .throw (.failure (.parseError message))

/-- Not a behaviour of the source: a loop has used up the rounds it has in the model. -/
def exhausted : Parse α :=
  .throw (.failure .outOfFuel)

end

/-- The loop of `skip_ws`. -/
def skipWsLoop : Nat → Parse Unit
  | 0 => exhausted
  | rounds + 1 => do
      let i ← perform .position
      let size ← perform .size
      if i < size then
        let c ← perform (.char i)
        if isSpace c then
          perform (.advance 1)
          skipWsLoop rounds
        else pure ()
      else pure ()

/-- `peek`. -/
def peek : Parse UInt8 := do
  let i ← perform .position
  let size ← perform .size
  if size ≤ i then pure 0 else perform (.char i)

/-- `get`. -/
def get : Parse UInt8 := do
  let i ← perform .position
  let size ← perform .size
  if size ≤ i then fail "unexpected end"
  else
    let c ← perform (.char i)
    perform (.advance 1)
    pure c

/-- `peek() == c || …`, with a call of `peek` for each comparison. -/
def peekAny : List UInt8 → Parse Bool
  | [] => pure false
  | c :: others => do
      let d ← peek
      if d = c then pure true else peekAny others

/-- `if (peek() == c || …) get()`. -/
def getIf (cs : List UInt8) : Parse Unit := do
  let seen ← peekAny cs
  if seen then
    let _ ← get
    pure ()
  else pure ()

/-- The four digits of a `\u` escape. -/
def parseUnicode : Parse Bytes := do
  let c1 ← get
  let c2 ← get
  let c3 ← get
  let c4 ← get
  match Parser.hexval c1, Parser.hexval c2, Parser.hexval c3, Parser.hexval c4 with
  | some h1, some h2, some h3, some h4 =>
      pure (Parser.utf8 (h1 * 4096 + h2 * 256 + h3 * 16 + h4))
  | _, _, _, _ => fail "bad unicode escape"

/-- The escape switch of `parse_string`; the backslash has been read. -/
def parseEscape : Parse Bytes := do
  let e ← get
  match Parser.shortEscape e with
  | some c => pure [c]
  | none => if e = ch 'u' then parseUnicode else fail "bad escape"

/-- The loop of `parse_string`, after the opening quote. -/
def parseStringLoop : Nat → Bytes → Parse Bytes
  | 0, _ => exhausted
  | rounds + 1, out => do
      let c ← get
      if c = ch '"' then pure out
      else if c = ch '\\' then
        let piece ← parseEscape
        parseStringLoop rounds (out ++ piece)
      else parseStringLoop rounds (out ++ [c])

/-- `parse_true`, `parse_false` and `parse_null`: a fixed word. -/
def parseWord (word message : String) (value : Value) : Parse Value := do
  let i ← perform .position
  let text ← perform (.substr i (ascii word).length)
  if text = ascii word then
    perform (.advance (ascii word).length)
    pure value
  else fail message

def parseTrue : Parse Value :=
  parseWord "true" "expected true" (.bool true)

def parseFalse : Parse Value :=
  parseWord "false" "expected false" (.bool false)

def parseNull : Parse Value :=
  parseWord "null" "expected null" .null

/-- `while (isdigit(peek())) get()`. -/
def skipDigitsLoop : Nat → Parse Unit
  | 0 => exhausted
  | rounds + 1 => do
      let c ← peek
      if isDigit c then
        let _ ← get
        skipDigitsLoop rounds
      else pure ()

/-- `std::get<std::string>`. -/
def getString : Value → Parse Bytes
  | .str text => pure text
  | _ => .throw .badVariantAccess

section

variable (rounds : Nat)

/-- `skip_ws`. -/
def skipWs : Parse Unit :=
  skipWsLoop rounds

/-- `parse_string`. -/
def parseString : Parse Value := do
  let c ← get
  if c = ch '"' then
    let out ← parseStringLoop rounds []
    pure (.str out)
  else fail "expected '\"'"

/-- At least one digit is required at the position. -/
def parseDigits : Parse Unit := do
  let c ← peek
  if isDigit c then skipDigitsLoop rounds else fail "bad number"

/-- The integer part: a single zero or digits. -/
def parseIntPart : Parse Unit := do
  getIf [ch '-']
  let zero ← peekAny [ch '0']
  if zero then
    let _ ← get
    pure ()
  else parseDigits rounds

/-- The fraction, if there is a point. -/
def parseFraction : Parse Unit := do
  let point ← peekAny [ch '.']
  if point then
    let _ ← get
    parseDigits rounds
  else pure ()

/-- The exponent, if there is an `e`. -/
def parseExponent : Parse Unit := do
  let mark ← peekAny [ch 'e', ch 'E']
  if mark then
    let _ ← get
    getIf [ch '+', ch '-']
    parseDigits rounds
  else pure ()

/-- `parse_number`. -/
def parseNumber (stod : Stod) : Parse Value := do
  let start ← perform .position
  parseIntPart rounds
  parseFraction rounds
  parseExponent rounds
  let i ← perform .position
  let text ← perform (.substr start (i - start))
  match stod text with
  | .ok v => pure (.num v)
  | .error what => .throw (.failure (.stod what))

variable (stod : Stod)

mutual

/-- `parse_value`. -/
def parseValue : Nat → Parse Value
  | 0 => exhausted
  | fuel + 1 => do
      let c ← peek
      if c = ch '{' then parseObject fuel
      else if c = ch '[' then parseArray fuel
      else if c = ch '"' then parseString rounds
      else if c = ch 't' then parseTrue
      else if c = ch 'f' then parseFalse
      else if c = ch 'n' then parseNull
      else if c = ch '-' ∨ isDigit c then parseNumber rounds stod
      else fail "invalid value"

/-- `parse_object`. -/
def parseObject : Nat → Parse Value
  | 0 => exhausted
  | fuel + 1 => do
      let _ ← get
      skipWs rounds
      let c ← peek
      if c = ch '}' then
        let _ ← get
        pure (.obj [])
      else parseObjectLoop fuel []

/-- The loop of `parse_object`: one member a round. -/
def parseObjectLoop : Nat → Object → Parse Value
  | 0, _ => exhausted
  | fuel + 1, obj => do
      skipWs rounds
      let c ← peek
      if c = ch '"' then
        let name ← parseString rounds
        let key ← getString name
        skipWs rounds
        let c ← get
        if c = ch ':' then
          skipWs rounds
          let v ← parseValue fuel
          let obj := Assoc.emplace key v obj
          skipWs rounds
          let c ← get
          if c = ch '}' then pure (.obj obj)
          else if c = ch ',' then
            skipWs rounds
            parseObjectLoop fuel obj
          else fail "expected ',' or '\x7d'"
        else fail "expected ':'"
      else fail "expected string key"

/-- `parse_array`. -/
def parseArray : Nat → Parse Value
  | 0 => exhausted
  | fuel + 1 => do
      let _ ← get
      skipWs rounds
      let c ← peek
      if c = ch ']' then
        let _ ← get
        pure (.arr [])
      else parseArrayLoop fuel []

/-- The loop of `parse_array`: one element a round. -/
def parseArrayLoop : Nat → List Value → Parse Value
  | 0, _ => exhausted
  | fuel + 1, arr => do
      skipWs rounds
      let v ← parseValue fuel
      let arr := arr ++ [v]
      skipWs rounds
      let c ← get
      if c = ch ']' then pure (.arr arr)
      else if c = ch ',' then
        skipWs rounds
        parseArrayLoop fuel arr
      else fail "expected ',' or ']'"

end

/-- `parse`. -/
def parse (fuel : Nat) : Parse Value := do
  skipWs rounds
  let v ← parseValue rounds stod fuel
  skipWs rounds
  let i ← perform .position
  let size ← perform .size
  if i = size then pure v else fail "trailing characters"

end

/-! ## What a program computes -/

/-- The character an operation reads. -/
def Op.access : {β : Type} → Op β → Option Nat
  | _, .char p => some p
  | _, _ => none

/-- The position does not decrease and stays within the text, and so does what is read. -/
structure Safe (s : Bytes) (event : Effect.Event Op Nat) : Prop where
  grows : event.before ≤ event.after
  within : event.after ≤ s.length
  reads : ∀ p ∈ event.op.2.access, p < s.length

/-- From a position the program safely comes to the result of a function that passes the
position. -/
def Computes {α : Type} (s : Bytes) (program : Parse α) (i : Nat)
    (result : Except ParseFailure (α × Nat)) : Prop :=
  Meets (interp s) (Safe s) (fun value j => result = .ok (value, j) ∧ j ≤ s.length)
    (fun exit j => (∃ failure, exit = .failure failure ∧ result = .error failure) ∧ j ≤ s.length)
    program i

section Rules

variable {s : Bytes} {i : Nat} {α β γ : Type}

theorem computes_pure (inside : i ≤ s.length) (value : α) :
    Computes s (pure value) i (.ok (value, i)) :=
  Effect.Program.meets_ret ⟨rfl, inside⟩

theorem computes_throw (inside : i ≤ s.length) (failure : ParseFailure) :
    Computes s (.throw (.failure failure) : Parse α) i (.error failure) :=
  Effect.Program.meets_throw ⟨⟨failure, rfl, rfl⟩, inside⟩

theorem computes_fail (inside : i ≤ s.length) (message : String) :
    Computes s (fail message : Parse α) i (.error (.parseError message)) :=
  computes_throw inside _

theorem computes_exhausted (inside : i ≤ s.length) :
    Computes s (exhausted : Parse α) i (.error .outOfFuel) :=
  computes_throw inside _

theorem computes_position (inside : i ≤ s.length) :
    Computes s (perform .position) i (.ok (i, i)) :=
  Effect.Program.meets_perform rfl ⟨le_rfl, inside, fun _ none => nomatch none⟩ ⟨rfl, inside⟩

theorem computes_size (inside : i ≤ s.length) :
    Computes s (perform .size) i (.ok (s.length, i)) :=
  Effect.Program.meets_perform rfl ⟨le_rfl, inside, fun _ none => nomatch none⟩ ⟨rfl, inside⟩

theorem computes_char (inside : i ≤ s.length) {p : Nat} (below : p < s.length) :
    Computes s (perform (.char p)) i (.ok (Parser.peek s p, i)) := by
  have found : s[p]? = some (Parser.peek s p) := by
    rw [Parser.peek, List.getD_eq_getElem?_getD, List.getElem?_eq_getElem below, Option.getD_some]
  have answers : (interp s).apply (.char p) i = (.ok (Parser.peek s p), i) := by
    simp only [interp, found]
  exact Effect.Program.meets_perform answers
    ⟨le_rfl, inside, fun q same => Option.some.inj same ▸ below⟩ ⟨rfl, inside⟩

theorem computes_advance {n : Nat} (inside : i + n ≤ s.length) :
    Computes s (perform (.advance n)) i (.ok ((), i + n)) :=
  Effect.Program.meets_perform rfl ⟨Nat.le_add_right i n, inside, fun _ none => nomatch none⟩
    ⟨rfl, inside⟩

theorem computes_substr (inside : i ≤ s.length) {p : Nat} (before : p ≤ s.length) (n : Nat) :
    Computes s (perform (.substr p n)) i (.ok ((s.drop p).take n, i)) :=
  Effect.Program.meets_perform (if_pos before) ⟨le_rfl, inside, fun _ none => nomatch none⟩
    ⟨rfl, inside⟩

/-- Sequencing, where the function has the value and the position in a form of its own. -/
theorem Computes.bindMap {first : Parse α} {next : α → Parse β} {read : Except ParseFailure γ}
    (place : γ → α × Nat) {rest : γ → Except ParseFailure (β × Nat)}
    (begins : Computes s first i (read.map place))
    (goesOn : ∀ c, read = .ok c → (place c).2 ≤ s.length →
      Computes s (next (place c).1) (place c).2 (rest c)) :
    Computes s (first >>= next) i (read >>= rest) := by
  cases read with
  | error failure =>
      refine Meets.bind (begins.mono (fun _ _ holds => holds) ?_) ?_
      · rintro exit j ⟨⟨_, named, ⟨⟩⟩, inside⟩
        exact ⟨⟨failure, named, rfl⟩, inside⟩
      · rintro value j ⟨⟨⟩, _⟩
  | ok c =>
      refine Meets.bind (begins.mono (fun _ _ holds => holds) ?_) ?_
      · rintro exit j ⟨⟨failure, _, ⟨⟩⟩, _⟩
      · rintro value j ⟨same, inside⟩
        have placed : place c = (value, j) := Except.ok.inj same
        have onward := goesOn c rfl
        rw [placed] at onward
        exact onward inside

/-- Sequencing. -/
theorem Computes.bind {first : Parse α} {next : α → Parse β}
    {read : Except ParseFailure (α × Nat)} {rest : α × Nat → Except ParseFailure (β × Nat)}
    (begins : Computes s first i read)
    (goesOn : ∀ value j, read = .ok (value, j) → j ≤ s.length →
      Computes s (next value) j (rest (value, j))) :
    Computes s (first >>= next) i (read >>= rest) := by
  apply Computes.bindMap id
  · cases read <;> exact begins
  · rintro ⟨value, j⟩ same inside
    exact goesOn value j same inside

/-- Sequencing after a program that returns. -/
theorem Computes.andThen {first : Parse α} {next : α → Parse β} {value : α} {j : Nat}
    {result : Except ParseFailure (β × Nat)} (begins : Computes s first i (.ok (value, j)))
    (goesOn : j ≤ s.length → Computes s (next value) j result) :
    Computes s (first >>= next) i result := by
  have both : Computes s (first >>= next) i (Except.ok (value, j) >>= fun _ => result) := by
    apply begins.bind
    rintro _ _ ⟨⟩ inside
    exact goesOn inside
  exact both

/-- A value that is returned in another form. -/
theorem Computes.map {program : Parse α} {read : Except ParseFailure (α × Nat)} (form : α → β)
    (computes : Computes s program i read) :
    Computes s (program >>= fun value => pure (form value)) i
      (read.map fun result => (form result.1, result.2)) := by
  have both : Computes s (program >>= fun value => pure (form value)) i
      (read >>= fun result => .ok (form result.1, result.2)) :=
    computes.bind fun value j _ inside => computes_pure inside _
  cases read <;> exact both

theorem Computes.ite {condition : Prop} [Decidable condition] {yes no : Parse α}
    {result other : Except ParseFailure (α × Nat)}
    (positive : condition → Computes s yes i result)
    (negative : ¬condition → Computes s no i other) :
    Computes s (if condition then yes else no) i (if condition then result else other) := by
  split
  · exact positive ‹_›
  · exact negative ‹_›

end Rules

/-! ## Reading -/

section Reading

variable {s : Bytes} {i : Nat}

theorem peek_of_le (past : s.length ≤ i) : Parser.peek s i = 0 := by
  rw [Parser.peek, List.getD_eq_getElem?_getD, List.getElem?_eq_none past, Option.getD_none]

theorem lt_of_peek (visible : Parser.peek s i ≠ 0) : i < s.length := by
  by_contra past
  exact visible (peek_of_le (by omega))

theorem drop_of_lt (below : i < s.length) : s.drop i = Parser.peek s i :: s.drop (i + 1) := by
  rw [List.drop_eq_getElem_cons below, Parser.peek, List.getD_eq_getElem?_getD,
    List.getElem?_eq_getElem below, Option.getD_some]

theorem computes_peek (inside : i ≤ s.length) :
    Computes s peek i (.ok (Parser.peek s i, i)) := by
  unfold peek
  refine (computes_position inside).andThen fun _ => ?_
  refine (computes_size inside).andThen fun _ => ?_
  split
  · rename_i past
    rw [peek_of_le past]
    exact computes_pure inside 0
  · exact computes_char inside (by omega)

theorem computes_get (inside : i ≤ s.length) : Computes s get i (Parser.get s i) := by
  unfold get
  refine (computes_position inside).andThen fun _ => ?_
  refine (computes_size inside).andThen fun _ => ?_
  split
  · rename_i past
    have ended : Parser.get s i = .error (.parseError "unexpected end") := by
      rw [Parser.get, List.getElem?_eq_none past]
    rw [ended]
    exact computes_fail inside _
  · rename_i before
    have below : i < s.length := by omega
    rw [Parser.get_of_drop (drop_of_lt below)]
    refine (computes_char inside below).andThen fun _ => ?_
    exact (computes_advance below).andThen fun within => computes_pure within _

theorem computes_peekAny (inside : i ≤ s.length) (cs : List UInt8) :
    Computes s (peekAny cs) i (.ok (decide (Parser.peek s i ∈ cs), i)) := by
  induction cs with
  | nil => exact computes_pure inside false
  | cons c others ih =>
      refine (computes_peek inside).andThen fun _ => ?_
      split
      · rename_i same
        rw [decide_eq_true (List.mem_cons.mpr (.inl same))]
        exact computes_pure inside true
      · rename_i other
        rw [decide_eq_decide.mpr (List.mem_cons.trans (or_iff_right other))]
        exact ih

/-- A byte that has been seen is read. -/
theorem computes_get_of_peek (visible : Parser.peek s i ≠ 0) :
    Computes s get i (.ok (Parser.peek s i, i + 1)) := by
  have below := lt_of_peek visible
  rw [← Parser.get_of_drop (drop_of_lt below)]
  exact computes_get below.le

/-- A branch on whether one of the characters is next. -/
theorem computes_peekAny_ite {α : Type} (inside : i ≤ s.length) {cs : List UInt8}
    {condition : Prop} [Decidable condition] (means : condition ↔ Parser.peek s i ∈ cs)
    {yes no : Parse α} {result other : Except ParseFailure (α × Nat)}
    (positive : condition → Computes s yes i result)
    (negative : ¬condition → Computes s no i other) :
    Computes s (peekAny cs >>= fun seen => if seen then yes else no) i
      (if condition then result else other) := by
  refine (computes_peekAny inside cs).andThen fun _ => ?_
  simp only [decide_eq_true_eq, ← means]
  exact Computes.ite positive negative

theorem computes_getIf (inside : i ≤ s.length) {cs : List UInt8} (visible : 0 ∉ cs)
    {condition : Prop} [Decidable condition] (means : condition ↔ Parser.peek s i ∈ cs) :
    Computes s (getIf cs) i (.ok ((), if condition then i + 1 else i)) := by
  rw [apply_ite (fun j => Except.ok ((), j))]
  refine computes_peekAny_ite inside means (fun seen => ?_) fun _ => computes_pure inside ()
  have shown : Parser.peek s i ≠ 0 := fun nul => visible (nul ▸ means.mp seen)
  exact (computes_get_of_peek shown).andThen fun within => computes_pure within ()

theorem skipWs_of_space (below : i < s.length) (space : isSpace (Parser.peek s i) = true) :
    Parser.skipWs s i = Parser.skipWs s (i + 1) := by
  rw [Parser.skipWs, Parser.skipWs, drop_of_lt below, List.takeWhile_cons_of_pos space,
    List.length_cons]
  omega

theorem computes_skipWsLoop {rounds : Nat} (inside : i ≤ s.length)
    (enough : s.length - i < rounds) :
    Computes s (skipWsLoop rounds) i (.ok ((), Parser.skipWs s i)) := by
  induction rounds generalizing i with
  | zero => omega
  | succ rounds ih =>
      refine (computes_position inside).andThen fun _ => ?_
      refine (computes_size inside).andThen fun _ => ?_
      split
      · rename_i below
        refine (computes_char inside below).andThen fun _ => ?_
        split
        · rename_i space
          rw [skipWs_of_space below space]
          exact (computes_advance below).andThen fun within => ih within (by omega)
        · rename_i solid
          rw [Parser.skipWs_of_drop (drop_of_lt below) (Bool.eq_false_iff.mpr solid)]
          exact computes_pure inside ()
      · rename_i past
        rw [Parser.skipWs_of_drop_nil (List.drop_eq_nil_of_le (by omega))]
        exact computes_pure inside ()

theorem computes_skipWs (inside : i ≤ s.length) :
    Computes s (skipWs (s.length + 1)) i (.ok ((), Parser.skipWs s i)) :=
  computes_skipWsLoop inside (by omega)

end Reading

/-! ## Strings and words -/

section Words

variable {s : Bytes} {i : Nat}

theorem computes_parseUnicode (inside : i ≤ s.length) :
    Computes s parseUnicode i (Parser.parseUnicode s i) := by
  refine (computes_get inside).bind fun c1 i _ inside => ?_
  refine (computes_get inside).bind fun c2 i _ inside => ?_
  refine (computes_get inside).bind fun c3 i _ inside => ?_
  refine (computes_get inside).bind fun c4 i _ inside => ?_
  dsimp only
  rcases Parser.hexval c1 with _ | h1
  · exact computes_fail inside _
  · rcases Parser.hexval c2 with _ | h2
    · exact computes_fail inside _
    · rcases Parser.hexval c3 with _ | h3
      · exact computes_fail inside _
      · rcases Parser.hexval c4 with _ | h4
        · exact computes_fail inside _
        · exact computes_pure inside _

theorem computes_parseEscape (inside : i ≤ s.length) :
    Computes s parseEscape i (Parser.parseEscape s i) := by
  refine (computes_get inside).bind fun e i _ inside => ?_
  dsimp only
  rcases Parser.shortEscape e with _ | c
  · exact Computes.ite (fun _ => computes_parseUnicode inside) fun _ => computes_fail inside _
  · exact computes_pure inside _

theorem computes_parseStringLoop (rounds : Nat) (out : Bytes) (inside : i ≤ s.length) :
    Computes s (parseStringLoop rounds out) i (Parser.parseStringLoop s rounds out i) := by
  induction rounds generalizing out i with
  | zero => exact computes_exhausted inside
  | succ rounds ih =>
      refine (computes_get inside).bind fun c i _ inside => ?_
      refine Computes.ite (fun _ => computes_pure inside _) fun _ => ?_
      refine Computes.ite (fun _ => ?_) fun _ => ih _ inside
      exact (computes_parseEscape inside).bind fun piece i _ inside => ih _ inside

theorem computes_parseString (inside : i ≤ s.length) :
    Computes s (parseString (s.length + 1)) i
      ((Parser.parseString s i).map fun read => (.str read.1, read.2)) := by
  have whole : (Parser.parseString s i).map (fun read => (Value.str read.1, read.2)) =
      Parser.get s i >>= fun read =>
        if read.1 = ch '"' then
          (Parser.parseStringLoop s (s.length + 1) [] read.2).map fun read => (.str read.1, read.2)
        else .error (.parseError "expected '\"'") := by
    unfold Parser.parseString
    rcases Parser.get s i with failure | ⟨c, j⟩
    · rfl
    · exact apply_ite (Except.map _) _ _ _
  rw [whole]
  refine (computes_get inside).bind fun c i _ inside => ?_
  refine Computes.ite (fun _ => ?_) fun _ => computes_fail inside _
  exact (computes_parseStringLoop _ _ inside).map Value.str

theorem computes_parseWord (inside : i ≤ s.length) (word message : String) (value : Value) :
    Computes s (parseWord word message value) i (Parser.parseWord word message value s i) := by
  refine (computes_position inside).andThen fun _ => ?_
  refine (computes_substr inside inside _).andThen fun _ => ?_
  refine Computes.ite (fun same => ?_) fun _ => computes_fail inside _
  have within : i + (ascii word).length ≤ s.length := by
    have size := congrArg List.length same
    rw [List.length_take, List.length_drop] at size
    omega
  exact (computes_advance within).andThen fun _ => computes_pure within _

end Words

/-! ## Numbers -/

section Numbers

variable {s : Bytes} {i : Nat}

theorem skipDigits_of_not_digit (other : ¬isDigit (Parser.peek s i) = true) :
    Parser.skipDigits s i = i := by
  rw [Parser.skipDigits]
  by_cases below : i < s.length
  · rw [drop_of_lt below, List.takeWhile_cons_of_neg other, List.length_nil, Nat.add_zero]
  · rw [List.drop_eq_nil_of_le (by omega), List.takeWhile_nil, List.length_nil, Nat.add_zero]

theorem computes_skipDigitsLoop {rounds : Nat} (inside : i ≤ s.length)
    (enough : s.length - i < rounds) :
    Computes s (skipDigitsLoop rounds) i (.ok ((), Parser.skipDigits s i)) := by
  induction rounds generalizing i with
  | zero => omega
  | succ rounds ih =>
      refine (computes_peek inside).andThen fun _ => ?_
      split
      · rename_i digit
        have visible := Parser.isDigit_ne_zero digit
        have below := lt_of_peek visible
        rw [Parser.skipDigits_of_peek digit]
        exact (computes_get_of_peek visible).andThen fun within => ih within (by omega)
      · rename_i other
        rw [skipDigits_of_not_digit other]
        exact computes_pure inside ()

theorem computes_parseDigits (inside : i ≤ s.length) :
    Computes s (parseDigits (s.length + 1)) i ((Parser.parseDigits s i).map fun j => ((), j)) := by
  refine (computes_peek inside).andThen fun _ => ?_
  rw [Parser.parseDigits, apply_ite (Except.map _)]
  exact Computes.ite (fun _ => computes_skipDigitsLoop inside (by omega))
    fun _ => computes_fail inside _

theorem computes_parseIntPart (inside : i ≤ s.length) :
    Computes s (parseIntPart (s.length + 1)) i
      ((Parser.parseIntPart s i).map fun j => ((), j)) := by
  unfold Parser.parseIntPart
  refine (computes_getIf inside (by decide) List.mem_singleton.symm).andThen fun inside => ?_
  rw [apply_ite (Except.map _)]
  refine computes_peekAny_ite inside List.mem_singleton.symm (fun zero => ?_)
    fun _ => computes_parseDigits inside
  have visible := zero.trans_ne (show ch '0' ≠ 0 by decide)
  exact (computes_get_of_peek visible).andThen fun within => computes_pure within ()

theorem computes_parseFraction (inside : i ≤ s.length) :
    Computes s (parseFraction (s.length + 1)) i
      ((Parser.parseFraction s i).map fun j => ((), j)) := by
  rw [Parser.parseFraction, apply_ite (Except.map _)]
  refine computes_peekAny_ite inside List.mem_singleton.symm (fun point => ?_)
    fun _ => computes_pure inside ()
  have visible := point.trans_ne (show ch '.' ≠ 0 by decide)
  exact (computes_get_of_peek visible).andThen fun within => computes_parseDigits within

theorem computes_parseExponent (inside : i ≤ s.length) :
    Computes s (parseExponent (s.length + 1)) i
      ((Parser.parseExponent s i).map fun j => ((), j)) := by
  rw [Parser.parseExponent, apply_ite (Except.map _)]
  refine computes_peekAny_ite inside (by simp) (fun mark => ?_) fun _ => computes_pure inside ()
  have visible : Parser.peek s i ≠ 0 := by
    rcases mark with lower | upper
    · exact lower.trans_ne (by decide)
    · exact upper.trans_ne (by decide)
  refine (computes_get_of_peek visible).andThen fun within => ?_
  exact (computes_getIf within (by decide) (by simp)).andThen fun inside =>
    computes_parseDigits inside

theorem computes_parseNumber (stod : Stod) (inside : i ≤ s.length) :
    Computes s (parseNumber (s.length + 1) stod) i (Parser.parseNumber stod s i) := by
  refine (computes_position inside).andThen fun start => ?_
  refine (computes_parseIntPart inside).bindMap _ fun i _ inside => ?_
  refine (computes_parseFraction inside).bindMap _ fun i _ inside => ?_
  refine (computes_parseExponent inside).bindMap _ fun i _ inside => ?_
  refine (computes_position inside).andThen fun _ => ?_
  refine (computes_substr inside start _).andThen fun _ => ?_
  dsimp only
  rcases stod _ with what | v
  · exact computes_throw inside _
  · exact computes_pure inside _

end Numbers

/-! ## Values -/

section Values

variable {s : Bytes} (stod : Stod)

theorem computes_getString {i : Nat} (inside : i ≤ s.length) (text : Bytes) :
    Computes s (getString (.str text)) i (.ok (text, i)) :=
  computes_pure inside text

mutual

theorem computes_parseValue : ∀ (fuel i : Nat), i ≤ s.length →
    Computes s (parseValue (s.length + 1) stod fuel) i (Parser.parseValue stod s fuel i)
  | 0, i, inside => by
      rw [Parser.parseValue]
      exact computes_exhausted inside
  | fuel + 1, i, inside => by
      rw [parseValue, Parser.parseValue]
      refine (computes_peek inside).andThen fun _ => ?_
      refine Computes.ite (fun _ => computes_parseObject fuel i inside) fun _ => ?_
      refine Computes.ite (fun _ => computes_parseArray fuel i inside) fun _ => ?_
      refine Computes.ite (fun _ => computes_parseString inside) fun _ => ?_
      refine Computes.ite (fun _ => computes_parseWord inside _ _ _) fun _ => ?_
      refine Computes.ite (fun _ => computes_parseWord inside _ _ _) fun _ => ?_
      refine Computes.ite (fun _ => computes_parseWord inside _ _ _) fun _ => ?_
      exact Computes.ite (fun _ => computes_parseNumber stod inside)
        fun _ => computes_fail inside _

theorem computes_parseObject : ∀ (fuel i : Nat), i ≤ s.length →
    Computes s (parseObject (s.length + 1) stod fuel) i (Parser.parseObject stod s fuel i)
  | 0, i, inside => by
      rw [Parser.parseObject]
      exact computes_exhausted inside
  | fuel + 1, i, inside => by
      rw [parseObject, Parser.parseObject]
      refine (computes_get inside).bind fun _ i _ inside => ?_
      refine (computes_skipWs inside).andThen fun inside => ?_
      refine (computes_peek inside).andThen fun _ => ?_
      refine Computes.ite (fun _ => ?_) fun _ => computes_parseObjectLoop fuel [] _ inside
      exact (computes_get inside).bind fun _ i _ inside => computes_pure inside _

theorem computes_parseObjectLoop : ∀ (fuel : Nat) (obj : Object) (i : Nat), i ≤ s.length →
    Computes s (parseObjectLoop (s.length + 1) stod fuel obj) i
      (Parser.parseObjectLoop stod s fuel obj i)
  | 0, obj, i, inside => by
      rw [Parser.parseObjectLoop]
      exact computes_exhausted inside
  | fuel + 1, obj, i, inside => by
      rw [parseObjectLoop, Parser.parseObjectLoop]
      refine (computes_skipWs inside).andThen fun inside => ?_
      refine (computes_peek inside).andThen fun _ => ?_
      refine Computes.ite (fun _ => ?_) fun _ => computes_fail inside _
      refine (computes_parseString inside).bindMap _ fun read _ inside => ?_
      refine (computes_getString inside read.1).andThen fun _ => ?_
      refine (computes_skipWs inside).andThen fun inside => ?_
      refine (computes_get inside).bind fun c i _ inside => ?_
      refine Computes.ite (fun _ => ?_) fun _ => computes_fail inside _
      refine (computes_skipWs inside).andThen fun inside => ?_
      refine (computes_parseValue fuel _ inside).bind fun v i _ inside => ?_
      refine (computes_skipWs inside).andThen fun inside => ?_
      refine (computes_get inside).bind fun c i _ inside => ?_
      refine Computes.ite (fun _ => computes_pure inside _) fun _ => ?_
      refine Computes.ite (fun _ => ?_) fun _ => computes_fail inside _
      exact (computes_skipWs inside).andThen fun inside =>
        computes_parseObjectLoop fuel _ _ inside

theorem computes_parseArray : ∀ (fuel i : Nat), i ≤ s.length →
    Computes s (parseArray (s.length + 1) stod fuel) i (Parser.parseArray stod s fuel i)
  | 0, i, inside => by
      rw [Parser.parseArray]
      exact computes_exhausted inside
  | fuel + 1, i, inside => by
      rw [parseArray, Parser.parseArray]
      refine (computes_get inside).bind fun _ i _ inside => ?_
      refine (computes_skipWs inside).andThen fun inside => ?_
      refine (computes_peek inside).andThen fun _ => ?_
      refine Computes.ite (fun _ => ?_) fun _ => computes_parseArrayLoop fuel [] _ inside
      exact (computes_get inside).bind fun _ i _ inside => computes_pure inside _

theorem computes_parseArrayLoop : ∀ (fuel : Nat) (arr : List Value) (i : Nat), i ≤ s.length →
    Computes s (parseArrayLoop (s.length + 1) stod fuel arr) i
      (Parser.parseArrayLoop stod s fuel arr i)
  | 0, arr, i, inside => by
      rw [Parser.parseArrayLoop]
      exact computes_exhausted inside
  | fuel + 1, arr, i, inside => by
      rw [parseArrayLoop, Parser.parseArrayLoop]
      refine (computes_skipWs inside).andThen fun inside => ?_
      refine (computes_parseValue fuel _ inside).bind fun v i _ inside => ?_
      refine (computes_skipWs inside).andThen fun inside => ?_
      refine (computes_get inside).bind fun c i _ inside => ?_
      refine Computes.ite (fun _ => computes_pure inside _) fun _ => ?_
      refine Computes.ite (fun _ => ?_) fun _ => computes_fail inside _
      exact (computes_skipWs inside).andThen fun inside => computes_parseArrayLoop fuel _ _ inside

end

theorem computes_parse (fuel : Nat) :
    Computes s (parse (s.length + 1) stod fuel) 0
      (Parser.parseValue stod s fuel (Parser.skipWs s 0) >>= fun read =>
        if Parser.skipWs s read.2 = s.length then .ok (read.1, s.length)
        else .error (.parseError "trailing characters")) := by
  refine (computes_skipWs (Nat.zero_le _)).andThen fun inside => ?_
  refine (computes_parseValue stod fuel _ inside).bind fun v i _ inside => ?_
  refine (computes_skipWs inside).andThen fun inside => ?_
  refine (computes_position inside).andThen fun _ => ?_
  refine (computes_size inside).andThen fun _ => ?_
  refine Computes.ite (fun ended => ?_) fun _ => computes_fail inside _
  rw [ended]
  exact computes_pure le_rfl v

end Values

end WinInspect.Json.Cursor
