import WinInspect.Json.Parser

/-!
# The grammar of JSON texts

RFC 8259 as relations between a text and what it denotes, with the rules under their names
there.  It is relaxed in two ways: white space is what `isspace` accepts, and a string may
contain any byte but a quote and a backslash.

A text denotes a syntax tree first: a `Value` whose objects list their members in the order
of the text.  `Value.keepFirst` makes maps of the objects, where the first of the members
with one key counts.
-/

namespace WinInspect.Json

namespace Grammar

/-- `ws`. -/
def Ws (text : Bytes) : Prop :=
  ∀ c ∈ text, isSpace c = true

theorem ws_nil : Ws [] := by
  intro c member
  cases member

theorem Ws.append {text more : Bytes} (first : Ws text) (second : Ws more) : Ws (text ++ more) := by
  intro c member
  rcases List.mem_append.mp member with member | member
  · exact first c member
  · exact second c member

/-- A structural character, with the white space around it. -/
inductive Structural (c : UInt8) : Bytes → Prop
  | mk {before after : Bytes} (left : Ws before) (right : Ws after) :
      Structural c (before ++ c :: after)

theorem Structural.append {c : UInt8} {text w : Bytes} (structural : Structural c text)
    (blank : Ws w) : Structural c (text ++ w) := by
  obtain ⟨left, right⟩ := structural
  rw [List.append_assoc, List.cons_append]
  exact .mk left (Ws.append right blank)

/-! ## Strings -/

/-- The characters after a backslash, with the bytes they stand for. -/
def escapes : List (UInt8 × UInt8) :=
  [(ch '"', ch '"'), (ch '\\', ch '\\'), (ch '/', ch '/'), (ch 'b', 8), (ch 'f', 12),
    (ch 'n', 10), (ch 'r', 13), (ch 't', 9)]

/-- `char`: a piece of a string and the bytes it denotes. -/
inductive CharText : Bytes → Bytes → Prop
  | unescaped {c : UInt8} (unquoted : c ≠ ch '"') (plain : c ≠ ch '\\') : CharText [c] [c]
  | escape {e c : UInt8} (known : (e, c) ∈ escapes) : CharText [ch '\\', e] [c]
  | unicode {c₁ c₂ c₃ c₄ : UInt8} {h₁ h₂ h₃ h₄ : Nat} (first : digitValue c₁ = some h₁)
      (second : digitValue c₂ = some h₂) (third : digitValue c₃ = some h₃)
      (fourth : digitValue c₄ = some h₄) :
      CharText [ch '\\', ch 'u', c₁, c₂, c₃, c₄]
        (Parser.utf8 (h₁ * 4096 + h₂ * 256 + h₃ * 16 + h₄))

/-- `*char`. -/
inductive CharsText : Bytes → Bytes → Prop
  | nil : CharsText [] []
  | cons {piece rest bytes more : Bytes} (head : CharText piece bytes)
      (tail : CharsText rest more) : CharsText (piece ++ rest) (bytes ++ more)

/-- `string`. -/
inductive StringText : Bytes → Bytes → Prop
  | mk {body bytes : Bytes} (chars : CharsText body bytes) :
      StringText (ch '"' :: (body ++ [ch '"'])) bytes

/-! ## Numbers -/

/-- `1*DIGIT`. -/
def Digits (text : Bytes) : Prop :=
  text ≠ [] ∧ ∀ c ∈ text, isDigit c = true

/-- `int`. -/
inductive IntText : Bytes → Prop
  | zero : IntText [ch '0']
  | digits {c : UInt8} {rest : Bytes} (digit : isDigit c = true) (nonzero : c ≠ ch '0')
      (more : ∀ d ∈ rest, isDigit d = true) : IntText (c :: rest)

/-- An optional `frac`. -/
inductive FracText : Bytes → Prop
  | absent : FracText []
  | present {digits : Bytes} (filled : Digits digits) : FracText (ch '.' :: digits)

/-- An optional `exp`. -/
inductive ExpText : Bytes → Prop
  | absent : ExpText []
  | present {e : UInt8} {sign digits : Bytes} (mark : e = ch 'e' ∨ e = ch 'E')
      (signed : sign = [] ∨ sign = [ch '+'] ∨ sign = [ch '-']) (filled : Digits digits) :
      ExpText (e :: (sign ++ digits))

/-- `number`. -/
inductive NumberText : Bytes → Prop
  | mk {minus int frac exp : Bytes} (signed : minus = [] ∨ minus = [ch '-'])
      (integer : IntText int) (fraction : FracText frac) (exponent : ExpText exp) :
      NumberText (minus ++ (int ++ (frac ++ exp)))

/-! ## Values -/

variable (stod : Stod)

mutual

/-- `value`. -/
inductive ValueText : Bytes → Value → Prop
  | null : ValueText (ascii "null") .null
  | bool (b : Bool) : ValueText (ascii (if b then "true" else "false")) (.bool b)
  | number {text : Bytes} {d : Double} (number : NumberText text) (converts : stod text = .ok d) :
      ValueText text (.num d)
  | string {text bytes : Bytes} (string : StringText text bytes) : ValueText text (.str bytes)
  | emptyArray {opening closing : Bytes} (begins : Structural (ch '[') opening)
      (ends : Structural (ch ']') closing) : ValueText (opening ++ closing) (.arr [])
  | array {opening body closing : Bytes} {elements : List Value}
      (begins : Structural (ch '[') opening) (inside : ElementsText body elements)
      (ends : Structural (ch ']') closing) :
      ValueText (opening ++ (body ++ closing)) (.arr elements)
  | emptyObject {opening closing : Bytes} (begins : Structural (ch '{') opening)
      (ends : Structural (ch '}') closing) : ValueText (opening ++ closing) (.obj [])
  | object {opening body closing : Bytes} {members : Object}
      (begins : Structural (ch '{') opening) (inside : MembersText body members)
      (ends : Structural (ch '}') closing) :
      ValueText (opening ++ (body ++ closing)) (.obj members)

/-- `value *( value-separator value )`. -/
inductive ElementsText : Bytes → List Value → Prop
  | one {text : Bytes} {v : Value} (value : ValueText text v) : ElementsText text [v]
  | more {text separator rest : Bytes} {v : Value} {others : List Value}
      (value : ValueText text v) (comma : Structural (ch ',') separator)
      (tail : ElementsText rest others) :
      ElementsText (text ++ (separator ++ rest)) (v :: others)

/-- `member *( value-separator member )`. -/
inductive MembersText : Bytes → Object → Prop
  | one {name separator text : Bytes} {key : Bytes} {v : Value} (string : StringText name key)
      (colon : Structural (ch ':') separator) (value : ValueText text v) :
      MembersText (name ++ (separator ++ text)) [(key, v)]
  | more {name colonText text separator rest : Bytes} {key : Bytes} {v : Value} {others : Object}
      (string : StringText name key) (colon : Structural (ch ':') colonText)
      (value : ValueText text v) (comma : Structural (ch ',') separator)
      (tail : MembersText rest others) :
      MembersText (name ++ (colonText ++ (text ++ (separator ++ rest)))) ((key, v) :: others)

end

/-- `JSON-text`. -/
inductive JsonText : Bytes → Value → Prop
  | mk {before text after : Bytes} {tree : Value} (left : Ws before)
      (value : ValueText stod text tree) (right : Ws after) :
      JsonText (before ++ (text ++ after)) tree

end Grammar

/-! ## Objects -/

/-- The map that keeps the first of the members with one key. -/
def Object.collect (members : Object) : Object :=
  members.foldl (fun o member => Assoc.emplace member.1 member.2 o) []

mutual

/-- The value a syntax tree stands for. -/
def Value.keepFirst : Value → Value
  | .arr a => .arr (keepFirstList a)
  | .obj o => .obj (Object.collect (keepFirstMembers o))
  | v => v

def Value.keepFirstList : List Value → List Value
  | [] => []
  | v :: rest => v.keepFirst :: keepFirstList rest

def Value.keepFirstMembers : Object → Object
  | [] => []
  | (key, v) :: rest => (key, v.keepFirst) :: keepFirstMembers rest

end

/-- A text is derivable with a value as its meaning. -/
def Derives (stod : Stod) (text : Bytes) (v : Value) : Prop :=
  ∃ tree, Grammar.JsonText stod text tree ∧ tree.keepFirst = v

end WinInspect.Json
