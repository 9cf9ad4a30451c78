import WinInspect.Json.Parser

/-!
# The serializer

`dumps` of `tinyjson.hpp`: object members in key order, no white space, numbers
printed by `std::to_string` with the trailing zeros cut off.
-/

namespace WinInspect.Json

/-- The lower-case digit of a value below 16, as `%x` prints it. -/
def hexLower (digit : Nat) : UInt8 :=
  UInt8.ofNat (if digit < 10 then 48 + digit else 87 + digit)

/-- The text `dump_string` appends for one byte. -/
def dumpByte (c : UInt8) : Bytes :=
  if c = ch '"' then [ch '\\', ch '"']
  else if c = ch '\\' then [ch '\\', ch '\\']
  else if c = 8 then [ch '\\', ch 'b']
  else if c = 12 then [ch '\\', ch 'f']
  else if c = 10 then [ch '\\', ch 'n']
  else if c = 13 then [ch '\\', ch 'r']
  else if c = 9 then [ch '\\', ch 't']
  else if c < 0x20 then
    [ch '\\', ch 'u', ch '0', ch '0', hexLower (c.toNat / 16), hexLower (c.toNat % 16)]
  else [c]

/-- `dump_string`. -/
def dumpString (s : Bytes) : Bytes :=
  ch '"' :: s.flatMap dumpByte ++ [ch '"']

/-- `pop_back` while the last byte is a zero and there is a point; the text is
reversed, so the last byte is the head. -/
def trimZeros : Bytes → Bytes
  | [] => []
  | c :: rest =>
      if rest ≠ [] ∧ ch '.' ∈ c :: rest ∧ c = ch '0' then trimZeros rest else c :: rest

/-- `pop_back` if the last byte is a point; the text is reversed. -/
def trimPoint : Bytes → Bytes
  | [] => []
  | c :: rest => if c = ch '.' then rest else c :: rest

/-- The number branch of `dump`. -/
def dumpNumber (d : Double) : Bytes :=
  (trimPoint (trimZeros d.toString.reverse)).reverse

mutual

/-- `dump`. -/
def dump : Value → Bytes
  | .null => ascii "null"
  | .bool b => if b then ascii "true" else ascii "false"
  | .num d => dumpNumber d
  | .str s => dumpString s
  | .arr a => ch '[' :: dumpArr true a ++ [ch ']']
  | .obj o => ch '{' :: dumpObj true o ++ [ch '}']

/-- The loop of `dump_arr` with its `first` flag. -/
def dumpArr (first : Bool) : List Value → Bytes
  | [] => []
  | v :: rest => (if first then [] else [ch ',']) ++ (dump v ++ dumpArr false rest)

/-- The loop of `dump_obj` with its `first` flag. -/
def dumpObj (first : Bool) : List (Bytes × Value) → Bytes
  | [] => []
  | (k, v) :: rest =>
      (if first then [] else [ch ',']) ++
        (dumpString k ++ (ch ':' :: (dump v ++ dumpObj false rest)))

end

/-- `json::dumps`. -/
def dumps (v : Value) : Bytes :=
  dump v

example : dumps (.obj [(ascii "a", .arr [.num (.ofInt (-20)), .null]), (ascii "b", .str [31])]) =
    ascii "\x7b\"a\":[-20,null],\"b\":\"\\u001f\"\x7d" := by decide

end WinInspect.Json
