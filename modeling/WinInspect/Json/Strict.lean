import WinInspect.Json.Recognition

/-!
# Accepted texts against RFC 8259

RFC 8259 at the byte level, without the values its texts denote.  The grammar is stated over an
alphabet: which bytes are white space, and which stand for themselves in a string.
`rfc8259` has the alphabet of the standard and `lenient` the alphabet of the parser, which takes
what `isspace` takes between tokens and any byte in a string.

What the parser accepts is a text over the lenient alphabet.  It is a text of the standard
exactly when one pass over the bytes, which only keeps track of where strings begin and end,
meets no byte that the standard forbids where it stands.
-/

namespace WinInspect.Json

open Grammar

/-- The bytes a JSON grammar lets stand between tokens and unescaped in strings. -/
structure Alphabet where
  blank : UInt8 → Bool
  raw : UInt8 → Bool
  /-- No byte of a token counts as white space. -/
  spaces : ∀ {c : UInt8}, blank c = true → isSpace c = true
  /-- Strings hold everything but control characters. -/
  printable : ∀ {c : UInt8}, 0x20 ≤ c → raw c = true

namespace Alphabet

/-- `ws` is space, tab, line feed and carriage return, and `unescaped` starts at `%x20`. -/
def rfc8259 : Alphabet where
  blank c := c == 0x20 || c == 0x09 || c == 0x0A || c == 0x0D
  raw c := 0x20 ≤ c
  spaces := by
    intro c blank
    simp only [Bool.or_eq_true, beq_iff_eq] at blank
    rcases blank with ((rfl | rfl) | rfl) | rfl <;> decide
  printable := by
    intro c above
    exact decide_eq_true above

/-- What `skip_ws` and `parse_string` let pass. -/
def lenient : Alphabet where
  blank := isSpace
  raw _ := true
  spaces := id
  printable _ := rfl

variable (α : Alphabet)

/-! ## The grammar -/

/-- `ws`. -/
def Ws (text : Bytes) : Prop :=
  ∀ c ∈ text, α.blank c = true

/-- A structural character, with the white space around it. -/
inductive Structural (c : UInt8) : Bytes → Prop
  | mk {before after : Bytes} (left : α.Ws before) (right : α.Ws after) :
      Structural c (before ++ c :: after)

/-- `char`. -/
inductive Char : Bytes → Prop
  | unescaped {c : UInt8} (unquoted : c ≠ ch '"') (plain : c ≠ ch '\\')
      (allowed : α.raw c = true) : Char [c]
  | escape {e c : UInt8} (known : (e, c) ∈ escapes) : Char [ch '\\', e]
  | unicode {digits : Bytes} (four : digits.length = 4)
      (hex : ∀ c ∈ digits, (digitValue c).isSome = true) : Char (ch '\\' :: ch 'u' :: digits)

/-- `*char`. -/
inductive Chars : Bytes → Prop
  | nil : Chars []
  | cons {piece rest : Bytes} (head : α.Char piece) (tail : Chars rest) : Chars (piece ++ rest)

/-- `string`. -/
inductive Str : Bytes → Prop
  | mk {body : Bytes} (chars : α.Chars body) : Str (ch '"' :: (body ++ [ch '"']))

/-- The rules of the grammar that refer to each other. -/
inductive Rule where
  | value
  /-- `value *( value-separator value )`. -/
  | elements
  /-- `member *( value-separator member )`. -/
  | members

/-- The texts of a rule. -/
inductive Phrase : Rule → Bytes → Prop
  | null : Phrase .value (ascii "null")
  | bool (b : Bool) : Phrase .value (ascii (if b then "true" else "false"))
  | number {text : Bytes} (number : NumberText text) : Phrase .value text
  | string {text : Bytes} (string : α.Str text) : Phrase .value text
  | emptyArray {opening closing : Bytes} (begins : α.Structural (ch '[') opening)
      (ends : α.Structural (ch ']') closing) : Phrase .value (opening ++ closing)
  | array {opening body closing : Bytes} (begins : α.Structural (ch '[') opening)
      (inside : Phrase .elements body) (ends : α.Structural (ch ']') closing) :
      Phrase .value (opening ++ (body ++ closing))
  | emptyObject {opening closing : Bytes} (begins : α.Structural (ch '{') opening)
      (ends : α.Structural (ch '}') closing) : Phrase .value (opening ++ closing)
  | object {opening body closing : Bytes} (begins : α.Structural (ch '{') opening)
      (inside : Phrase .members body) (ends : α.Structural (ch '}') closing) :
      Phrase .value (opening ++ (body ++ closing))
  | oneElement {text : Bytes} (value : Phrase .value text) : Phrase .elements text
  | element {text separator rest : Bytes} (value : Phrase .value text)
      (comma : α.Structural (ch ',') separator) (tail : Phrase .elements rest) :
      Phrase .elements (text ++ (separator ++ rest))
  | oneMember {name separator text : Bytes} (string : α.Str name)
      (colon : α.Structural (ch ':') separator) (value : Phrase .value text) :
      Phrase .members (name ++ (separator ++ text))
  | member {name colonText text separator rest : Bytes} (string : α.Str name)
      (colon : α.Structural (ch ':') colonText) (value : Phrase .value text)
      (comma : α.Structural (ch ',') separator) (tail : Phrase .members rest) :
      Phrase .members (name ++ (colonText ++ (text ++ (separator ++ rest))))

/-- `JSON-text`. -/
inductive Text : Bytes → Prop
  | mk {before text after : Bytes} (left : α.Ws before) (value : α.Phrase .value text)
      (right : α.Ws after) : Text (before ++ (text ++ after))

end Alphabet

/-! ## Where a byte stands -/

/-- The place of the next byte of a text. -/
inductive Place where
  | between
  | inString
  /-- Behind a backslash. -/
  | escaped
  deriving DecidableEq

namespace Place

def next : Place → UInt8 → Place
  | between, c => if c = ch '"' then inString else between
  | inString, c => if c = ch '"' then between else if c = ch '\\' then escaped else inString
  | escaped, _ => inString

end Place

namespace Alphabet

variable {α β : Alphabet}

/-- Whether the alphabet lets the byte stand at the place.  Between tokens it only has a say
in white space, and what follows a backslash is not its matter. -/
def permits (α : Alphabet) : Place → UInt8 → Bool
  | .between, c => !isSpace c || α.blank c
  | .inString, c => α.raw c
  | .escaped, _ => true

/-- One pass over a text, to the place behind it. -/
def scan (α : Alphabet) : Place → Bytes → Option Place
  | place, [] => some place
  | place, c :: rest => if α.permits place c then scan α (place.next c) rest else none

theorem scan_append (place : Place) (text rest : Bytes) :
    α.scan place (text ++ rest) = (α.scan place text).bind (α.scan · rest) := by
  induction text generalizing place with
  | nil => rfl
  | cons c text ih =>
      rw [List.cons_append, scan, scan]
      split
      · exact ih _
      · rfl

theorem scan_append_of_eq {place middle : Place} {text : Bytes} (rest : Bytes)
    (first : α.scan place text = some middle) :
    α.scan place (text ++ rest) = α.scan middle rest := by
  rw [scan_append, first, Option.bind_some]

/-- A pass over two parts is a pass over the first and then one over the second. -/
theorem scan_append_eq_some {place last : Place} {text rest : Bytes}
    (passes : α.scan place (text ++ rest) = some last) :
    ∃ middle, α.scan place text = some middle ∧ α.scan middle rest = some last := by
  rw [scan_append] at passes
  exact Option.bind_eq_some_iff.mp passes

theorem scan_cons_eq_some {place last : Place} {c : UInt8} {rest : Bytes}
    (passes : α.scan place (c :: rest) = some last) :
    α.permits place c = true ∧ α.scan (place.next c) rest = some last := by
  rw [scan] at passes
  split at passes
  · rename_i permitted
    exact ⟨permitted, passes⟩
  · cases passes

theorem scan_cons_of_permits {place : Place} {c : UInt8} (rest : Bytes)
    (permitted : α.permits place c = true) :
    α.scan place (c :: rest) = α.scan (place.next c) rest := by
  rw [scan, if_pos permitted]

/-- Bytes that leave the place as it is. -/
theorem scan_of_stays {place : Place} {text : Bytes}
    (stays : ∀ c ∈ text, α.permits place c = true ∧ place.next c = place) :
    α.scan place text = some place := by
  induction text with
  | nil => rfl
  | cons c text ih =>
      obtain ⟨permitted, same⟩ := stays c List.mem_cons_self
      rw [scan_cons_of_permits _ permitted, same]
      exact ih fun d member => stays d (List.mem_cons_of_mem c member)

/-! ## A text of the grammar passes -/

/-- A byte of a token other than a string. -/
def Solid (c : UInt8) : Prop :=
  isSpace c = false ∧ c ≠ ch '"'

theorem permits_of_solid {c : UInt8} (solid : Solid c) :
    α.permits .between c = true ∧ Place.between.next c = .between := by
  constructor
  · simp only [permits, solid.1, Bool.not_false, Bool.true_or]
  · simp only [Place.next, solid.2, if_false]

theorem scan_of_solid {text : Bytes} (solid : ∀ c ∈ text, Solid c) :
    α.scan .between text = some .between :=
  scan_of_stays fun c member => permits_of_solid (solid c member)

theorem solid_of_isDigit {c : UInt8} (digit : isDigit c = true) : Solid c := by
  unfold Solid
  unfold isDigit isSpace at *
  grind

theorem solid_of_digits {text : Bytes} (digits : ∀ c ∈ text, isDigit c = true) :
    ∀ c ∈ text, Solid c :=
  fun c member => solid_of_isDigit (digits c member)

theorem solid_append {text rest : Bytes} (first : ∀ c ∈ text, Solid c)
    (second : ∀ c ∈ rest, Solid c) : ∀ c ∈ text ++ rest, Solid c := by
  intro c member
  rcases List.mem_append.mp member with member | member
  · exact first c member
  · exact second c member

theorem solid_cons {c : UInt8} {rest : Bytes} (first : Solid c)
    (second : ∀ d ∈ rest, Solid d) : ∀ d ∈ c :: rest, Solid d :=
  List.forall_mem_cons.mpr ⟨first, second⟩

theorem solid_ch {c : UInt8} (known : c ∈ [ch '-', ch '+', ch '.', ch 'e', ch 'E']) : Solid c := by
  unfold Solid
  revert c
  decide +kernel

theorem solid_number {text : Bytes} (number : NumberText text) : ∀ c ∈ text, Solid c := by
  obtain ⟨signed, integer, fraction, exponent⟩ := number
  refine solid_append ?_ (solid_append ?_ (solid_append ?_ ?_))
  · rcases signed with rfl | rfl
    · exact List.forall_mem_nil _
    · exact solid_cons (solid_ch (by decide)) (List.forall_mem_nil _)
  · cases integer with
    | zero => exact solid_cons (solid_of_isDigit (by decide)) (List.forall_mem_nil _)
    | digits digit _ more => exact solid_cons (solid_of_isDigit digit) (solid_of_digits more)
  · cases fraction with
    | absent => exact List.forall_mem_nil _
    | present filled => exact solid_cons (solid_ch (by decide)) (solid_of_digits filled.2)
  · cases exponent with
    | absent => exact List.forall_mem_nil _
    | present mark sign filled =>
        refine solid_cons ?_ (solid_append ?_ (solid_of_digits filled.2))
        · rcases mark with rfl | rfl <;> exact solid_ch (by decide)
        · rcases sign with rfl | rfl | rfl
          · exact List.forall_mem_nil _
          · exact solid_cons (solid_ch (by decide)) (List.forall_mem_nil _)
          · exact solid_cons (solid_ch (by decide)) (List.forall_mem_nil _)

theorem scan_ws {text : Bytes} (blank : α.Ws text) : α.scan .between text = some .between := by
  apply scan_of_stays
  intro c member
  constructor
  · simp only [permits, blank c member, Bool.or_true]
  · have space := α.spaces (blank c member)
    have unquoted : c ≠ ch '"' := by
      rintro rfl
      revert space
      decide
    simp only [Place.next, unquoted, if_false]

theorem scan_structural {c : UInt8} {text : Bytes} (solid : Solid c)
    (structural : α.Structural c text) : α.scan .between text = some .between := by
  obtain ⟨left, right⟩ := structural
  obtain ⟨permitted, same⟩ := permits_of_solid (α := α) solid
  rw [scan_append_of_eq _ (scan_ws left), scan_cons_of_permits _ permitted, same]
  exact scan_ws right

theorem hex_stays {c : UInt8} (hex : (digitValue c).isSome = true) :
    0x20 ≤ c ∧ c ≠ ch '"' ∧ c ≠ ch '\\' := by
  have range : 48 ≤ c.toNat ∧ c.toNat ≠ 92 := by
    unfold digitValue at hex
    grind
  refine ⟨?_, ?_, ?_⟩
  · rw [UInt8.le_iff_toNat_le]
    exact le_trans (by decide) range.1
  · rintro rfl
    revert range
    decide
  · rintro rfl
    revert range
    decide

theorem scan_char {piece : Bytes} (char : α.Char piece) :
    α.scan .inString piece = some .inString := by
  have backslash : α.permits .inString (ch '\\') = true := α.printable (by decide)
  cases char with
  | unescaped unquoted plain allowed =>
      rw [scan_cons_of_permits _ (show α.permits .inString _ = true from allowed)]
      simp only [Place.next, unquoted, plain, if_false, scan]
  | escape known =>
      rw [scan_cons_of_permits _ backslash]
      rfl
  | unicode four hex =>
      rw [scan_cons_of_permits _ backslash]
      change α.scan .inString _ = _
      apply scan_of_stays
      intro c member
      obtain ⟨above, unquoted, plain⟩ := hex_stays (hex c member)
      constructor
      · exact α.printable above
      · simp only [Place.next, unquoted, plain, if_false]

theorem scan_chars {body : Bytes} (chars : α.Chars body) :
    α.scan .inString body = some .inString := by
  induction chars with
  | nil => rfl
  | cons head _ ih => rw [scan_append_of_eq _ (scan_char head), ih]

theorem scan_str {text : Bytes} (string : α.Str text) :
    α.scan .between text = some .between := by
  obtain ⟨chars⟩ := string
  have quote : α.permits .inString (ch '"') = true := α.printable (by decide)
  rw [scan_cons_of_permits _ (show α.permits .between (ch '"') = true from rfl)]
  change α.scan .inString _ = _
  rw [scan_append_of_eq _ (scan_chars chars), scan_cons_of_permits _ quote]
  rfl

theorem solid_structural {c : UInt8}
    (known : c ∈ [ch '[', ch ']', ch '{', ch '}', ch ',', ch ':']) : Solid c := by
  unfold Solid
  revert c
  decide +kernel

theorem scan_phrase {rule : Rule} {text : Bytes} (phrase : α.Phrase rule text) :
    α.scan .between text = some .between := by
  have solid {c : UInt8} (known : c ∈ [ch '[', ch ']', ch '{', ch '}', ch ',', ch ':'])
      {text : Bytes} (structural : α.Structural c text) : α.scan .between text = some .between :=
    scan_structural (solid_structural known) structural
  induction phrase with
  | null => exact scan_of_solid (by unfold Solid; decide +kernel)
  | bool b => cases b <;> exact scan_of_solid (by unfold Solid; decide +kernel)
  | number number => exact scan_of_solid (solid_number number)
  | string string => exact scan_str string
  | emptyArray begins ends | emptyObject begins ends =>
      rw [scan_append_of_eq _ (solid (by decide) begins)]
      exact solid (by decide) ends
  | array begins _ ends ih | object begins _ ends ih =>
      rw [scan_append_of_eq _ (solid (by decide) begins), scan_append_of_eq _ ih]
      exact solid (by decide) ends
  | oneElement _ ih => exact ih
  | element _ comma _ ih ihTail =>
      rw [scan_append_of_eq _ ih, scan_append_of_eq _ (solid (by decide) comma)]
      exact ihTail
  | oneMember string colon _ ih =>
      rw [scan_append_of_eq _ (scan_str string), scan_append_of_eq _ (solid (by decide) colon)]
      exact ih
  | member string colon _ comma _ ih ihTail =>
      rw [scan_append_of_eq _ (scan_str string), scan_append_of_eq _ (solid (by decide) colon),
        scan_append_of_eq _ ih, scan_append_of_eq _ (solid (by decide) comma)]
      exact ihTail

theorem scan_text {text : Bytes} (derives : α.Text text) :
    α.scan .between text = some .between := by
  obtain ⟨left, value, right⟩ := derives
  rw [scan_append_of_eq _ (scan_ws left), scan_append_of_eq _ (scan_phrase value)]
  exact scan_ws right

/-! ## A text that passes is one over the smaller alphabet -/

/-- When the pass gets over the text, the fact holds and the pass is between tokens again. -/
def Tight (α : Alphabet) (fact : Prop) (text : Bytes) : Prop :=
  ∀ last : Place, α.scan .between text = some last → fact ∧ last = .between

theorem Tight.append {p q : Prop} {text rest : Bytes} (first : α.Tight p text)
    (second : α.Tight q rest) : α.Tight (p ∧ q) (text ++ rest) := by
  intro last passes
  obtain ⟨middle, through, passes⟩ := scan_append_eq_some passes
  obtain ⟨left, rfl⟩ := first _ through
  obtain ⟨right, rfl⟩ := second _ passes
  exact ⟨⟨left, right⟩, rfl⟩

theorem Tight.imp {p q : Prop} {text : Bytes} (tight : α.Tight p text) (step : p → q) :
    α.Tight q text := by
  intro last passes
  obtain ⟨holds, atEnd⟩ := tight last passes
  exact ⟨step holds, atEnd⟩

/-- A text that passes with a known end only needs the fact. -/
theorem tight_of_scan {p : Prop} {text : Bytes}
    (fact : ∀ last : Place, α.scan .between text = some last → p)
    (ends : p → α.scan .between text = some .between) : α.Tight p text := by
  intro last passes
  have holds := fact last passes
  rw [ends holds] at passes
  exact ⟨holds, (Option.some.inj passes).symm⟩

theorem tight_ws {text : Bytes} (blank : β.Ws text) : α.Tight (α.Ws text) text := by
  apply tight_of_scan _ scan_ws
  induction text with
  | nil =>
      intro last passes c member
      cases member
  | cons c text ih =>
      intro last passes
      obtain ⟨space, others⟩ := List.forall_mem_cons.mp blank
      obtain ⟨permitted, passes⟩ := scan_cons_eq_some passes
      have here : α.blank c = true := by
        simpa only [permits, β.spaces space, Bool.not_true, Bool.false_or] using permitted
      have same : Place.between.next c = .between := by
        have alone : α.Ws [c] := List.forall_mem_singleton.mpr here
        have passes := scan_ws alone
        exact Option.some.inj (scan_cons_eq_some passes).2
      rw [same] at passes
      exact List.forall_mem_cons.mpr ⟨here, ih others last passes⟩

theorem tight_structural {c : UInt8} {text : Bytes} (solid : Solid c)
    (structural : β.Structural c text) : α.Tight (α.Structural c text) text := by
  obtain ⟨left, right⟩ := structural
  have mark : α.Tight True [c] := fun last passes =>
    ⟨trivial, by
      rw [scan_of_solid (List.forall_mem_singleton.mpr solid)] at passes
      exact (Option.some.inj passes).symm⟩
  exact ((tight_ws left).append (mark.append (tight_ws right))).imp
    fun ⟨left, _, right⟩ => .mk left right

/-- Inside a string the pass is only about the bytes that stand for themselves. -/
theorem chars_of_scan {body : Bytes} (chars : β.Chars body) {last : Place}
    (passes : α.scan .inString body = some last) : α.Chars body ∧ last = .inString := by
  induction chars with
  | nil => exact ⟨.nil, (Option.some.inj passes).symm⟩
  | @cons piece rest head _ ih =>
      obtain ⟨middle, through, passes⟩ := scan_append_eq_some passes
      have here : α.Char piece := by
        cases head with
        | unescaped unquoted plain _ =>
            exact .unescaped unquoted plain (scan_cons_eq_some through).1
        | escape known => exact .escape known
        | unicode four hex => exact .unicode four hex
      rw [scan_char here] at through
      cases through
      obtain ⟨others, atEnd⟩ := ih passes
      exact ⟨.cons here others, atEnd⟩

theorem tight_str {text : Bytes} (string : β.Str text) : α.Tight (α.Str text) text := by
  apply tight_of_scan _ scan_str
  intro last passes
  obtain ⟨chars⟩ := string
  obtain ⟨middle, through, -⟩ := scan_append_eq_some (scan_cons_eq_some passes).2
  exact .mk (chars_of_scan chars through).1

theorem tight_phrase {rule : Rule} {text : Bytes} (phrase : β.Phrase rule text) :
    α.Tight (α.Phrase rule text) text := by
  have solid {c : UInt8} (known : c ∈ [ch '[', ch ']', ch '{', ch '}', ch ',', ch ':'])
      {text : Bytes} (structural : β.Structural c text) :
      α.Tight (α.Structural c text) text :=
    tight_structural (solid_structural known) structural
  induction phrase with
  | null => exact tight_of_scan (fun _ _ => .null) scan_phrase
  | bool b => exact tight_of_scan (fun _ _ => .bool b) scan_phrase
  | number number => exact tight_of_scan (fun _ _ => .number number) scan_phrase
  | string string => exact (tight_str string).imp .string
  | emptyArray begins ends =>
      exact ((solid (by decide) begins).append (solid (by decide) ends)).imp
        fun ⟨begins, ends⟩ => .emptyArray begins ends
  | array begins _ ends ih =>
      exact ((solid (by decide) begins).append (ih.append (solid (by decide) ends))).imp
        fun ⟨begins, inside, ends⟩ => .array begins inside ends
  | emptyObject begins ends =>
      exact ((solid (by decide) begins).append (solid (by decide) ends)).imp
        fun ⟨begins, ends⟩ => .emptyObject begins ends
  | object begins _ ends ih =>
      exact ((solid (by decide) begins).append (ih.append (solid (by decide) ends))).imp
        fun ⟨begins, inside, ends⟩ => .object begins inside ends
  | oneElement _ ih => exact ih.imp .oneElement
  | element _ comma _ ih ihTail =>
      exact (ih.append ((solid (by decide) comma).append ihTail)).imp
        fun ⟨value, comma, tail⟩ => .element value comma tail
  | oneMember string colon _ ih =>
      exact ((tight_str string).append ((solid (by decide) colon).append ih)).imp
        fun ⟨string, colon, value⟩ => .oneMember string colon value
  | member string colon _ comma _ ih ihTail =>
      exact ((tight_str string).append ((solid (by decide) colon).append
        (ih.append ((solid (by decide) comma).append ihTail)))).imp
        fun ⟨string, colon, value, comma, tail⟩ => .member string colon value comma tail

theorem tight_text {text : Bytes} (derives : β.Text text) : α.Tight (α.Text text) text := by
  obtain ⟨left, value, right⟩ := derives
  exact ((tight_ws left).append ((tight_phrase value).append (tight_ws right))).imp
    fun ⟨left, value, right⟩ => .mk left value right

/-- Of the texts over one alphabet, those over another are the ones that pass for it. -/
theorem text_iff_scan {text : Bytes} (derives : β.Text text) :
    α.Text text ↔ α.scan .between text ≠ none := by
  constructor
  · intro fits
    rw [scan_text fits]
    exact Option.some_ne_none _
  · intro passes
    obtain ⟨last, passes⟩ := Option.ne_none_iff_exists'.mp passes
    exact (tight_text derives last passes).1

/-! ## What the parser accepts -/

theorem lenient_structural {c : UInt8} {text : Bytes} (structural : Grammar.Structural c text) :
    lenient.Structural c text := by
  obtain ⟨left, right⟩ := structural
  exact .mk left right

theorem lenient_chars {body bytes : Bytes} (chars : CharsText body bytes) :
    lenient.Chars body := by
  induction chars with
  | nil => exact .nil
  | cons head _ ih =>
      refine .cons ?_ ih
      cases head with
      | unescaped unquoted plain => exact .unescaped unquoted plain rfl
      | escape known => exact .escape known
      | unicode first second third fourth =>
          refine .unicode rfl ?_
          simp [first, second, third, fourth]

theorem lenient_str {text bytes : Bytes} (string : StringText text bytes) : lenient.Str text := by
  obtain ⟨chars⟩ := string
  exact .mk (lenient_chars chars)

theorem lenient_phrase {stod : Stod} {text : Bytes} {tree : Json.Value}
    (value : ValueText stod text tree) : lenient.Phrase .value text := by
  -- the induction is over the three mutual rules, each with the rule it becomes
  refine @ValueText.rec stod (fun text _ _ => lenient.Phrase .value text)
    (fun text _ _ => lenient.Phrase .elements text) (fun text _ _ => lenient.Phrase .members text)
    ?null ?bool ?number ?string ?emptyArray ?array ?emptyObject ?object ?one ?more ?oneMember
    ?moreMembers text tree value
  case null => exact .null
  case bool => exact .bool
  case number =>
    intro text d number _
    exact .number number
  case string =>
    intro text bytes string
    exact .string (lenient_str string)
  case emptyArray =>
    intro opening closing begins ends
    exact .emptyArray (lenient_structural begins) (lenient_structural ends)
  case array =>
    intro opening body closing elements begins _ ends ih
    exact .array (lenient_structural begins) ih (lenient_structural ends)
  case emptyObject =>
    intro opening closing begins ends
    exact .emptyObject (lenient_structural begins) (lenient_structural ends)
  case object =>
    intro opening body closing members begins _ ends ih
    exact .object (lenient_structural begins) ih (lenient_structural ends)
  case one =>
    intro text v _ ih
    exact .oneElement ih
  case more =>
    intro text separator rest v others _ comma _ ih ihTail
    exact .element ih (lenient_structural comma) ihTail
  case oneMember =>
    intro name separator text key v string colon _ ih
    exact .oneMember (lenient_str string) (lenient_structural colon) ih
  case moreMembers =>
    intro name colonText text separator rest key v others string colon _ comma _ ih ihTail
    exact .member (lenient_str string) (lenient_structural colon) ih (lenient_structural comma)
      ihTail

theorem lenient_text {stod : Stod} {text : Bytes} {v : Json.Value}
    (derives : Derives stod text v) : lenient.Text text := by
  obtain ⟨tree, ⟨left, value, right⟩, -⟩ := derives
  exact .mk left (lenient_phrase value) right

end Alphabet

/-- An accepted text is a JSON text but for the vertical tabs and form feeds that may stand between
tokens and the control characters that may stand in strings, and it is a JSON text of the standard
exactly when it has none of these. -/
theorem parse_accepts_rfc8259 {stod : Stod} {s : Bytes} {v : Value}
    (parsed : parse stod s = .ok v) :
    Alphabet.lenient.Text s ∧
      (Alphabet.rfc8259.Text s ↔ Alphabet.rfc8259.scan .between s ≠ none) := by
  have accepted := Alphabet.lenient_text (Parser.derives_of_parse parsed)
  exact ⟨accepted, Alphabet.text_iff_scan accepted⟩

/-- `[null]` is a text of the standard. -/
theorem parse_accepts_rfc8259_array :
    parse (fun _ => .ok (.zero false)) (ascii "[null]") = .ok (.arr [.null]) ∧
      Alphabet.rfc8259.Text (ascii "[null]") := by
  have parsed : parse (fun _ => .ok (.zero false)) (ascii "[null]") = .ok (.arr [.null]) := by
    with_unfolding_all rfl
  exact ⟨parsed, (parse_accepts_rfc8259 parsed).2.mpr (by decide)⟩

/-- The parser takes a string with a control character in it and a vertical tab between tokens;
the standard takes neither. -/
theorem control_bytes_accepted :
    (parse (fun _ => .ok (.zero false)) [ch '"', 1, ch '"'] = .ok (.str [1]) ∧
      ¬ Alphabet.rfc8259.Text [ch '"', 1, ch '"']) ∧
    (parse (fun _ => .ok (.zero false)) (11 :: ascii "null") = .ok .null ∧
      ¬ Alphabet.rfc8259.Text (11 :: ascii "null")) := by
  have refused {text : Bytes} (stops : Alphabet.rfc8259.scan .between text = none) :
      ¬ Alphabet.rfc8259.Text text := by
    intro derives
    rw [Alphabet.scan_text derives] at stops
    cases stops
  refine ⟨⟨by with_unfolding_all rfl, refused (by decide)⟩,
    ⟨by with_unfolding_all rfl, refused (by decide)⟩⟩

end WinInspect.Json
