import WinInspect.Json.Value

/-!
# The recursive-descent parser

`Parser` of `tinyjson.hpp`.  The text `s` is fixed and the position `i` is passed
explicitly; every function returns the position it stops at.  The recursion of
the source is bounded by fuel: each level of nesting and each member costs a
constant amount of it and consumes at least one byte, and `parse` starts with
three units for each byte of the text.

`std::stod` is a parameter.  Its error case carries the text of the exception it
throws.
-/

namespace WinInspect.Json

/-- `std::stod`; an error is the `what()` of the exception. -/
abbrev Stod := Bytes → Except Bytes Double

/-- The ways out of the parser other than a value. -/
inductive ParseFailure where
  /-- `ParseError` with its message. -/
  | parseError (message : String)
  /-- An exception of `std::stod`. -/
  | stod (what : Bytes)
  /-- Not a behaviour of the source: the fuel of the model ran out. -/
  | outOfFuel
  deriving DecidableEq

/-- `e.what()`. -/
def ParseFailure.what : ParseFailure → Bytes
  | parseError message => ascii message
  | stod text => text
  | outOfFuel => []

/-- The byte of an ASCII character. -/
abbrev ch (c : Char) : UInt8 :=
  UInt8.ofNat c.toNat

/-- `std::isspace` in the C locale. -/
def isSpace (c : UInt8) : Bool :=
  c == 32 || (9 ≤ c && c ≤ 13)

/-- `std::isdigit`. -/
def isDigit (c : UInt8) : Bool :=
  48 ≤ c && c ≤ 57

namespace Parser

/-- `skip_ws`: advance over the longest run of white space. -/
def skipWs (s : Bytes) (i : Nat) : Nat :=
  i + ((s.drop i).takeWhile isSpace).length

/-- `peek`: the byte at the position, or NUL at the end. -/
def peek (s : Bytes) (i : Nat) : UInt8 :=
  s.getD i 0

/-- `get`: the byte at the position, which moves past it. -/
def get (s : Bytes) (i : Nat) : Except ParseFailure (UInt8 × Nat) :=
  match s[i]? with
  | some c => .ok (c, i + 1)
  | none => .error (.parseError "unexpected end")

/-- `hexval`; `none` is the `-1` of the source. -/
def hexval (c : UInt8) : Option Nat :=
  digitValue c

/-- The one to three bytes a 16-bit escape code stands for. -/
def utf8 (code : Nat) : Bytes :=
  if code < 0x80 then [UInt8.ofNat code]
  else if code < 0x800 then
    [UInt8.ofNat (0xC0 + code / 64), UInt8.ofNat (0x80 + code % 64)]
  else
    [UInt8.ofNat (0xE0 + code / 4096), UInt8.ofNat (0x80 + code / 64 % 64),
      UInt8.ofNat (0x80 + code % 64)]

/-- The four digits of a `\u` escape. -/
def parseUnicode (s : Bytes) (i : Nat) : Except ParseFailure (Bytes × Nat) := do
  let (c1, i) ← get s i
  let (c2, i) ← get s i
  let (c3, i) ← get s i
  let (c4, i) ← get s i
  match hexval c1, hexval c2, hexval c3, hexval c4 with
  | some h1, some h2, some h3, some h4 =>
      .ok (utf8 (h1 * 4096 + h2 * 256 + h3 * 16 + h4), i)
  | _, _, _, _ => .error (.parseError "bad unicode escape")

/-- The byte a one-letter escape stands for. -/
def shortEscape (e : UInt8) : Option UInt8 :=
  if e = ch '"' then some (ch '"')
  else if e = ch '\\' then some (ch '\\')
  else if e = ch '/' then some (ch '/')
  else if e = ch 'b' then some 8
  else if e = ch 'f' then some 12
  else if e = ch 'n' then some 10
  else if e = ch 'r' then some 13
  else if e = ch 't' then some 9
  else none

/-- The escape switch of `parse_string`; the backslash has been read. -/
def parseEscape (s : Bytes) (i : Nat) : Except ParseFailure (Bytes × Nat) := do
  let (e, i) ← get s i
  match shortEscape e with
  | some c => .ok ([c], i)
  | none => if e = ch 'u' then parseUnicode s i else .error (.parseError "bad escape")

/-- The loop of `parse_string`, after the opening quote. -/
def parseStringLoop (s : Bytes) : Nat → Bytes → Nat → Except ParseFailure (Bytes × Nat)
  | 0, _, _ => .error .outOfFuel
  | fuel + 1, out, i => do
      let (c, i) ← get s i
      if c = ch '"' then .ok (out, i)
      else if c = ch '\\' then
        let (piece, i) ← parseEscape s i
        parseStringLoop s fuel (out ++ piece) i
      else parseStringLoop s fuel (out ++ [c]) i

/-- `parse_string`.  Every round of the loop reads a byte, so one unit of fuel a
byte is enough. -/
def parseString (s : Bytes) (i : Nat) : Except ParseFailure (Bytes × Nat) := do
  let (c, i) ← get s i
  if c = ch '"' then parseStringLoop s (s.length + 1) [] i
  else .error (.parseError "expected '\"'")

/-- `parse_true`, `parse_false` and `parse_null`: a fixed word. -/
def parseWord (word : String) (message : String) (value : Value) (s : Bytes) (i : Nat) :
    Except ParseFailure (Value × Nat) :=
  if (s.drop i).take (ascii word).length = ascii word then .ok (value, i + (ascii word).length)
  else .error (.parseError message)

def parseTrue : Bytes → Nat → Except ParseFailure (Value × Nat) :=
  parseWord "true" "expected true" (.bool true)

def parseFalse : Bytes → Nat → Except ParseFailure (Value × Nat) :=
  parseWord "false" "expected false" (.bool false)

def parseNull : Bytes → Nat → Except ParseFailure (Value × Nat) :=
  parseWord "null" "expected null" .null

/-- `while (isdigit(peek())) get()`. -/
def skipDigits (s : Bytes) (i : Nat) : Nat :=
  i + ((s.drop i).takeWhile isDigit).length

/-- At least one digit is required at the position. -/
def parseDigits (s : Bytes) (i : Nat) : Except ParseFailure Nat :=
  if isDigit (peek s i) then .ok (skipDigits s i) else .error (.parseError "bad number")

/-- The integer part: a single zero or digits. -/
def parseIntPart (s : Bytes) (i : Nat) : Except ParseFailure Nat :=
  let i := if peek s i = ch '-' then i + 1 else i
  if peek s i = ch '0' then .ok (i + 1) else parseDigits s i

/-- The fraction, if there is a point. -/
def parseFraction (s : Bytes) (i : Nat) : Except ParseFailure Nat :=
  if peek s i = ch '.' then parseDigits s (i + 1) else .ok i

/-- The exponent, if there is an `e`. -/
def parseExponent (s : Bytes) (i : Nat) : Except ParseFailure Nat :=
  if peek s i = ch 'e' ∨ peek s i = ch 'E' then
    let i := i + 1
    parseDigits s (if peek s i = ch '+' ∨ peek s i = ch '-' then i + 1 else i)
  else .ok i

/-- `parse_number`. -/
def parseNumber (stod : Stod) (s : Bytes) (start : Nat) : Except ParseFailure (Value × Nat) := do
  let i ← parseIntPart s start
  let i ← parseFraction s i
  let i ← parseExponent s i
  match stod ((s.drop start).take (i - start)) with
  | .ok v => .ok (.num v, i)
  | .error what => .error (.stod what)

variable (stod : Stod) (s : Bytes)

mutual

/-- `parse_value`. -/
def parseValue : Nat → Nat → Except ParseFailure (Value × Nat)
  | 0, _ => .error .outOfFuel
  | fuel + 1, i =>
      let c := peek s i
      if c = ch '{' then parseObject fuel i
      else if c = ch '[' then parseArray fuel i
      else if c = ch '"' then (parseString s i).map fun result => (.str result.1, result.2)
      else if c = ch 't' then parseTrue s i
      else if c = ch 'f' then parseFalse s i
      else if c = ch 'n' then parseNull s i
      else if c = ch '-' ∨ isDigit c then parseNumber stod s i
      else .error (.parseError "invalid value")

/-- `parse_object`. -/
def parseObject : Nat → Nat → Except ParseFailure (Value × Nat)
  | 0, _ => .error .outOfFuel
  | fuel + 1, i => do
      let (_, i) ← get s i
      let i := skipWs s i
      if peek s i = ch '}' then
        let (_, i) ← get s i
        .ok (.obj [], i)
      else parseObjectLoop fuel [] i

/-- The loop of `parse_object`: one member a round. -/
def parseObjectLoop : Nat → Object → Nat → Except ParseFailure (Value × Nat)
  | 0, _, _ => .error .outOfFuel
  | fuel + 1, obj, i => do
      let i := skipWs s i
      if peek s i = ch '"' then
        let (key, i) ← parseString s i
        let (c, i) ← get s (skipWs s i)
        if c = ch ':' then
          let (v, i) ← parseValue fuel (skipWs s i)
          let obj := Assoc.emplace key v obj
          let (c, i) ← get s (skipWs s i)
          if c = ch '}' then .ok (.obj obj, i)
          else if c = ch ',' then parseObjectLoop fuel obj (skipWs s i)
          else .error (.parseError "expected ',' or '\x7d'")
        else .error (.parseError "expected ':'")
      else .error (.parseError "expected string key")

/-- `parse_array`. -/
def parseArray : Nat → Nat → Except ParseFailure (Value × Nat)
  | 0, _ => .error .outOfFuel
  | fuel + 1, i => do
      let (_, i) ← get s i
      let i := skipWs s i
      if peek s i = ch ']' then
        let (_, i) ← get s i
        .ok (.arr [], i)
      else parseArrayLoop fuel [] i

/-- The loop of `parse_array`: one element a round. -/
def parseArrayLoop : Nat → List Value → Nat → Except ParseFailure (Value × Nat)
  | 0, _, _ => .error .outOfFuel
  | fuel + 1, arr, i => do
      let (v, i) ← parseValue fuel (skipWs s i)
      let arr := arr ++ [v]
      let (c, i) ← get s (skipWs s i)
      if c = ch ']' then .ok (.arr arr, i)
      else if c = ch ',' then parseArrayLoop fuel arr (skipWs s i)
      else .error (.parseError "expected ',' or ']'")

end

end Parser

/-- `json::parse`. -/
def parse (stod : Stod) (s : Bytes) : Except ParseFailure Value := do
  let (v, i) ← Parser.parseValue stod s (3 * s.length + 3) (Parser.skipWs s 0)
  if Parser.skipWs s i = s.length then .ok v
  else .error (.parseError "trailing characters")

end WinInspect.Json
