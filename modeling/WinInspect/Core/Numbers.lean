import WinInspect.Core.Handles
import WinInspect.Core.Signatures
import WinInspect.Json.RoundTrip

/-!
# Numeric parameters

The handlers convert the numbers of a request from `double` to the integer types of the backend,
and two backend operations compute with the results.  Neither a conversion nor a computation is
checked: `performed` lists the mathematical results, each with the type that has to hold it.

The sizes of the types are those of 64-bit Windows, where `long` has 32 bits.
-/

namespace WinInspect

open Json (Object)
open Effect (Program)

/-- The integer types of the conversions. -/
inductive IntType where
  | int
  | long
  | uint8
  | uint32
  | uint64
  | size
  deriving DecidableEq

namespace IntType

def min : IntType → Int
  | int | long => -2147483648
  | uint8 | uint32 | uint64 | size => 0

def max : IntType → Int
  | int | long => 2147483647
  | uint8 => 255
  | uint32 => 4294967295
  | uint64 | size => 18446744073709551615

end IntType

/-- A mathematical result and the type it is computed in. -/
structure Outcome where
  type : IntType
  value : Int
  deriving DecidableEq

/-- The result is representable. -/
def Outcome.Fits (outcome : Outcome) : Prop :=
  outcome.type.min ≤ outcome.value ∧ outcome.value ≤ outcome.type.max

instance (outcome : Outcome) : Decidable outcome.Fits :=
  inferInstanceAs (Decidable (_ ∧ _))

/-! ## Conversions of the handlers -/

/-- `Rect{(long)*l, (long)*t, (long)*r, (long)*bm}`. -/
def rectNumbers : List (String × IntType) :=
  [("left", .long), ("top", .long), ("right", .long), ("bottom", .long)]

/-- The parameters that the handlers convert, with the types they convert them to. -/
def numericParams : List (String × List (String × IntType)) :=
  [("window.pickAtPoint", [("x", .int), ("y", .int)]),
    ("window.postMessage", [("msg", .uint32), ("wparam", .uint64), ("lparam", .uint64)]),
    ("input.mouseClick", [("x", .int), ("y", .int), ("button", .int)]),
    ("input.keyPress", [("vk", .int)]),
    ("window.controlClick", [("x", .int), ("y", .int), ("button", .int)]),
    ("screen.getPixel", [("x", .int), ("y", .int)]),
    ("screen.capture", rectNumbers),
    ("screen.pixelSearch",
      rectNumbers ++ [("r", .uint8), ("g", .uint8), ("b", .uint8), ("variation", .int)]),
    ("process.kill", [("pid", .uint32)]),
    ("mem.read", [("pid", .uint32), ("address", .uint64), ("size", .size)]),
    ("mem.write", [("pid", .uint32), ("address", .uint64)]),
    ("image.match", rectNumbers)]

/-- The conversions of a method.  A parameter that is not there is one with the default 0. -/
def conversions (method : Bytes) (params : Object) : List Outcome :=
  match numericParams.find? fun entry => ascii entry.1 = method with
  | none => []
  | some (_, numbers) => numbers.map fun number => ⟨number.2, getIntOr0 params number.1⟩

/-- `events.poll` finds no event and has time left. -/
def waits {σ : Type} (backend : Backend σ) (env : Surroundings) (req : CoreRequest)
    (snapshot : Snapshot) (old : Option Snapshot) (world : σ) : Bool :=
  match old with
  | none => false
  | some before =>
      match (backend.apply (.pollEvents before snapshot) world).1 with
      | .error _ => false
      | .ok events =>
          let waitMs := (getNum req.params "wait_ms").getD (Double.zero false)
          events.isEmpty && !waitMs.isZero && decide (env.pollElapsed < waitMs.trunc)

/-- `(int)interval_ms` of `events.poll`, which only the pause needs. -/
def pauseConversions {σ : Type} (backend : Backend σ) (env : Surroundings) (req : CoreRequest)
    (snapshot : Snapshot) (old : Option Snapshot) (world : σ) : List Outcome :=
  if req.method = ascii "events.poll" ∧ waits backend env req snapshot old world = true then
    [⟨.int, (getInt req.params "interval_ms").getD 100⟩]
  else []

/-! ## Arithmetic of the backend -/

/-- What the operations of `Win32Backend` compute from their parameters: `x * 65535` and
`y * 65535` in `send_mouse_click`, the width and the height in `capture_screen`. -/
def Call.arithmetic {β : Type} : Call β → List Outcome
  | .sendMouseClick x y _ => [⟨.int, x * 65535⟩, ⟨.int, y * 65535⟩]
  | .captureScreen region =>
      [⟨.int, region.right - region.left⟩, ⟨.int, region.bottom - region.top⟩]
  | _ => []

/-- The results that handling a request computes.  A request that is rejected for its parameters
computes none. -/
def performed {σ : Type} (backend : Backend σ) (env : Surroundings) (req : CoreRequest)
    (snapshot : Snapshot) (old : Option Snapshot) (world : σ) : List Outcome :=
  match dispatch req.method with
  | none => []
  | some handler =>
      match handler.args req old with
      | .error _ => []
      | .ok _ =>
          conversions req.method req.params ++
            (pauseConversions backend env req snapshot old world ++
              (handleCalls backend env req snapshot old world).flatMap fun op => op.2.arithmetic)

/-! ## What a client has to keep to -/

/-- A range for a parameter. -/
structure Limit where
  key : String
  least : Int
  greatest : Int

/-- The number lies in the range, its fraction left aside; the default of one that is not given
is 0. -/
def Limit.Kept (limit : Limit) (params : Object) : Prop :=
  limit.least ≤ getIntOr0 params limit.key ∧ getIntOr0 params limit.key ≤ limit.greatest

/-- The ranges for the sides of a region. -/
def rectLimits : List Limit :=
  [⟨"left", -2147483648, 2147483647⟩, ⟨"top", -2147483648, 2147483647⟩,
    ⟨"right", -2147483648, 2147483647⟩, ⟨"bottom", -2147483648, 2147483647⟩]

/-- The ranges of the methods with numeric parameters. -/
def limits : List (String × List Limit) :=
  [("window.pickAtPoint",
      [⟨"x", -2147483648, 2147483647⟩, ⟨"y", -2147483648, 2147483647⟩]),
    ("window.postMessage",
      [⟨"msg", 0, 4294967295⟩, ⟨"wparam", 0, 18446744073709551615⟩,
        ⟨"lparam", 0, 18446744073709551615⟩]),
    ("input.mouseClick",
      [⟨"x", -32768, 32768⟩, ⟨"y", -32768, 32768⟩, ⟨"button", -2147483648, 2147483647⟩]),
    ("input.keyPress", [⟨"vk", -2147483648, 2147483647⟩]),
    ("window.controlClick",
      [⟨"x", -2147483648, 2147483647⟩, ⟨"y", -2147483648, 2147483647⟩,
        ⟨"button", -2147483648, 2147483647⟩]),
    ("screen.getPixel",
      [⟨"x", -2147483648, 2147483647⟩, ⟨"y", -2147483648, 2147483647⟩]),
    ("screen.capture", rectLimits),
    ("screen.pixelSearch",
      rectLimits ++ [⟨"r", 0, 255⟩, ⟨"g", 0, 255⟩, ⟨"b", 0, 255⟩,
        ⟨"variation", -2147483648, 2147483647⟩]),
    ("process.kill", [⟨"pid", 0, 4294967295⟩]),
    ("mem.read",
      [⟨"pid", 0, 4294967295⟩, ⟨"address", 0, 18446744073709551615⟩,
        ⟨"size", 0, 18446744073709551615⟩]),
    ("mem.write", [⟨"pid", 0, 4294967295⟩, ⟨"address", 0, 18446744073709551615⟩]),
    ("image.match", rectLimits)]

/-- The width and the height of the region are numbers an `int` can say. -/
def RegionKept (params : Object) : Prop :=
  (-2147483648 ≤ getIntOr0 params "right" - getIntOr0 params "left" ∧
      getIntOr0 params "right" - getIntOr0 params "left" ≤ 2147483647) ∧
    -2147483648 ≤ getIntOr0 params "bottom" - getIntOr0 params "top" ∧
      getIntOr0 params "bottom" - getIntOr0 params "top" ≤ 2147483647

/-- The parameters are within the limits of the method. -/
def KeepsLimits (method : Bytes) (params : Object) : Prop :=
  match limits.find? fun entry => ascii entry.1 = method with
  | none => True
  | some (_, ranges) =>
      (∀ limit ∈ ranges, limit.Kept params) ∧
        (method = ascii "screen.capture" → RegionKept params)

/-! ## The operations of the handlers -/

section

variable {o : Object} {key : String}

theorem getIntOr0_of_some {n : Int} (given : getInt o key = some n) : getIntOr0 o key = n := by
  rw [getIntOr0, given, Option.getD_some]

theorem getRect_eq_some {rect : Rect} (given : getRect o = some rect) :
    rect = ⟨getIntOr0 o "left", getIntOr0 o "top", getIntOr0 o "right", getIntOr0 o "bottom"⟩ := by
  unfold getRect at given
  obtain ⟨left, hasLeft, given⟩ := Option.bind_eq_some_iff.mp given
  obtain ⟨top, hasTop, given⟩ := Option.bind_eq_some_iff.mp given
  obtain ⟨right, hasRight, given⟩ := Option.bind_eq_some_iff.mp given
  obtain ⟨bottom, hasBottom, given⟩ := Option.bind_eq_some_iff.mp given
  cases given
  rw [getIntOr0_of_some hasLeft, getIntOr0_of_some hasTop, getIntOr0_of_some hasRight,
    getIntOr0_of_some hasBottom]

theorem pointArg_eq_ok {req : CoreRequest} {point : Int × Int} (given : pointArg req = .ok point) :
    point = (getIntOr0 req.params "x", getIntOr0 req.params "y") := by
  obtain ⟨x, hasX, given⟩ := Option.bind_eq_some_iff.mp (need_eq_ok.mp given)
  obtain ⟨y, hasY, given⟩ := Option.bind_eq_some_iff.mp given
  cases given
  rw [getIntOr0_of_some hasX, getIntOr0_of_some hasY]

end

/-- What the backend computes for a method. -/
def arithmeticOf (method : Bytes) (params : Object) : List Outcome :=
  if method = ascii "input.mouseClick" then
    [⟨.int, getIntOr0 params "x" * 65535⟩, ⟨.int, getIntOr0 params "y" * 65535⟩]
  else if method = ascii "screen.capture" then
    [⟨.int, getIntOr0 params "right" - getIntOr0 params "left"⟩,
      ⟨.int, getIntOr0 params "bottom" - getIntOr0 params "top"⟩]
  else []

/-- The numbers of a request reach the two operations that compute with them. -/
theorem table_arithmetic {σ : Type} (backend : Backend σ) : ∀ entry ∈ dispatchTable,
    ∀ req old snap args world, entry.2.args req old = .ok args →
      ((entry.2.query snap args).calls backend world).flatMap (fun op => op.2.arithmetic) =
        arithmeticOf (ascii entry.1) req.params := by
  intro entry member req old snap args world
  have single : ∀ {β : Type} (op : Call β),
      ((Program.perform op : Action β).calls backend world).flatMap
        (fun called => called.2.arithmetic) = op.arithmetic := by
    intro β op
    rw [Program.calls_perform, List.flatMap_singleton]
  fin_cases member
  all_goals intro accepted
  all_goals
    first
    | exact (single _).trans rfl
    | rfl
    | skip
  -- the two operations that compute
  · obtain ⟨point, given, rest⟩ := Json.bind_eq_ok.mp accepted
    cases rest
    rw [pointArg_eq_ok given]
    exact (single _).trans rfl
  · rw [getRect_eq_some (need_eq_ok.mp accepted)]
    exact (single _).trans rfl

/-! ## What the backend gets -/

/-- The sides of a region in the order of the conversions. -/
def Rect.sides (rect : Rect) : List Int :=
  [rect.left, rect.top, rect.right, rect.bottom]

/-- The integer parameters of an operation. -/
def Call.numbers {β : Type} : Call β → List Int
  | .pickAtPoint _ x y _ => [x, y]
  | .postMessage _ msg wparam lparam => [msg, wparam, lparam]
  | .sendMouseClick x y button => [x, y, button]
  | .sendKeyPress vk => [vk]
  | .controlClick _ x y button => [x, y, button]
  | .getPixel x y => [x, y]
  | .captureScreen region => region.sides
  | .pixelSearch region target variation =>
      region.sides ++ [(target.r.toNat : Int), target.g.toNat, target.b.toNat, variation]
  | .killProcess pid => [pid]
  | .memRead pid address size => [pid, address, size]
  | .memWrite pid address _ => [pid, address]
  | .imageMatch region _ => region.sides
  | _ => []

theorem getByte_eq_some {o : Object} {key : String} {b : UInt8} (given : getByte o key = some b)
    (fits : Outcome.Fits ⟨.uint8, getIntOr0 o key⟩) : (b.toNat : Int) = getIntOr0 o key := by
  obtain ⟨n, hasNumber, rfl⟩ := Option.map_eq_some_iff.mp given
  rw [getIntOr0_of_some hasNumber] at fits ⊢
  have least : 0 ≤ n := fits.1
  have greatest : n ≤ 255 := fits.2
  rw [UInt8.toNat_ofNat', Nat.mod_eq_of_lt (by omega), Int.toNat_of_nonneg least]

/-- Conversions to these types that do not leave them are what the operation gets. -/
def Handler.PassesOn (handler : Handler) (numbers : List (String × IntType)) : Prop :=
  ∀ req old snap args, handler.args req old = .ok args →
    (∀ number ∈ numbers, Outcome.Fits ⟨number.2, getIntOr0 req.params number.1⟩) →
    ∃ op, handler.query snap args = Program.perform op ∧
      op.numbers = numbers.map fun number => getIntOr0 req.params number.1

theorem windowPickAtPoint_passesOn : windowPickAtPoint.PassesOn [("x", .int), ("y", .int)] := by
  intro req old snap args accepted _
  obtain ⟨point, given, rest⟩ := Json.bind_eq_ok.mp accepted
  cases rest
  rw [pointArg_eq_ok given]
  exact ⟨_, rfl, rfl⟩

theorem inputMouseClick_passesOn :
    inputMouseClick.PassesOn [("x", .int), ("y", .int), ("button", .int)] := by
  intro req old snap args accepted _
  obtain ⟨point, given, rest⟩ := Json.bind_eq_ok.mp accepted
  cases rest
  rw [pointArg_eq_ok given]
  exact ⟨_, rfl, rfl⟩

theorem screenGetPixel_passesOn : screenGetPixel.PassesOn [("x", .int), ("y", .int)] := by
  intro req old snap args accepted _
  rw [pointArg_eq_ok accepted]
  exact ⟨_, rfl, rfl⟩

theorem windowPostMessage_passesOn :
    windowPostMessage.PassesOn [("msg", .uint32), ("wparam", .uint64), ("lparam", .uint64)] := by
  intro req old snap args accepted _
  obtain ⟨⟨text, msg⟩, present, rest⟩ := Json.bind_eq_ok.mp accepted
  obtain ⟨hwnd, _, rest⟩ := Json.bind_eq_ok.mp rest
  obtain ⟨_, _, present⟩ := Option.bind_eq_some_iff.mp (need_eq_ok.mp present)
  obtain ⟨_, hasMsg, present⟩ := Option.bind_eq_some_iff.mp present
  cases present
  cases rest
  refine ⟨_, rfl, ?_⟩
  rw [List.map_cons, getIntOr0_of_some hasMsg]
  rfl

theorem windowControlClick_passesOn :
    windowControlClick.PassesOn [("x", .int), ("y", .int), ("button", .int)] := by
  intro req old snap args accepted _
  obtain ⟨⟨text, x, y⟩, present, rest⟩ := Json.bind_eq_ok.mp accepted
  obtain ⟨hwnd, _, rest⟩ := Json.bind_eq_ok.mp rest
  obtain ⟨_, _, present⟩ := Option.bind_eq_some_iff.mp (need_eq_ok.mp present)
  obtain ⟨_, hasX, present⟩ := Option.bind_eq_some_iff.mp present
  obtain ⟨_, hasY, present⟩ := Option.bind_eq_some_iff.mp present
  cases present
  cases rest
  refine ⟨_, rfl, ?_⟩
  rw [List.map_cons, List.map_cons, getIntOr0_of_some hasX, getIntOr0_of_some hasY]
  rfl

/-- A handler whose only parameter is a number. -/
theorem single_passesOn {handler : Handler} {key what : String} {type : IntType}
    (op : Int → Call handler.Answer) (numbers : ∀ n, (op n).numbers = [n])
    (shape : ∀ req old args, handler.args req old = .ok args →
      ∃ n, need (getInt req.params key) what = .ok n ∧
        ∀ snap, handler.query snap args = Program.perform (op n)) :
    handler.PassesOn [(key, type)] := by
  intro req old snap args accepted _
  obtain ⟨n, given, query⟩ := shape req old args accepted
  refine ⟨op n, query snap, ?_⟩
  rw [numbers, List.map_singleton, getIntOr0_of_some (need_eq_ok.mp given)]

theorem inputKeyPress_passesOn : inputKeyPress.PassesOn [("vk", .int)] :=
  single_passesOn .sendKeyPress (fun _ => rfl) fun _ _ vk accepted => ⟨vk, accepted, fun _ => rfl⟩

theorem processKill_passesOn : processKill.PassesOn [("pid", .uint32)] :=
  single_passesOn .killProcess (fun _ => rfl) fun _ _ pid accepted => ⟨pid, accepted, fun _ => rfl⟩

theorem screenCapture_passesOn : screenCapture.PassesOn rectNumbers := by
  intro req old snap args accepted _
  rw [getRect_eq_some (need_eq_ok.mp accepted)]
  exact ⟨_, rfl, rfl⟩

theorem imageMatch_passesOn : imageMatch.PassesOn rectNumbers := by
  intro req old snap args accepted _
  obtain ⟨rect, hasRect, present⟩ := Option.bind_eq_some_iff.mp (need_eq_ok.mp accepted)
  obtain ⟨text, _, present⟩ := Option.bind_eq_some_iff.mp present
  cases present
  rw [getRect_eq_some hasRect]
  exact ⟨_, rfl, rfl⟩

/-- The colours are bytes already when the operation gets them. -/
theorem screenPixelSearch_passesOn :
    screenPixelSearch.PassesOn
      (rectNumbers ++ [("r", .uint8), ("g", .uint8), ("b", .uint8), ("variation", .int)]) := by
  intro req old snap args accepted fits
  obtain ⟨⟨rect, target⟩, present, rest⟩ := Json.bind_eq_ok.mp accepted
  obtain ⟨_, hasRect, present⟩ := Option.bind_eq_some_iff.mp (need_eq_ok.mp present)
  obtain ⟨r, hasR, present⟩ := Option.bind_eq_some_iff.mp present
  obtain ⟨g, hasG, present⟩ := Option.bind_eq_some_iff.mp present
  obtain ⟨b, hasB, present⟩ := Option.bind_eq_some_iff.mp present
  cases present
  cases rest
  have red := getByte_eq_some hasR (fits ("r", .uint8) (by decide))
  have green := getByte_eq_some hasG (fits ("g", .uint8) (by decide))
  have blue := getByte_eq_some hasB (fits ("b", .uint8) (by decide))
  refine ⟨_, rfl, ?_⟩
  rw [getRect_eq_some hasRect]
  simp only [Call.numbers, red, green, blue]
  rfl

theorem memRead_passesOn :
    memRead.PassesOn [("pid", .uint32), ("address", .uint64), ("size", .size)] := by
  intro req old snap args accepted _
  obtain ⟨_, hasPid, present⟩ := Option.bind_eq_some_iff.mp (need_eq_ok.mp accepted)
  obtain ⟨_, hasAddress, present⟩ := Option.bind_eq_some_iff.mp present
  obtain ⟨_, hasSize, present⟩ := Option.bind_eq_some_iff.mp present
  cases present
  refine ⟨_, rfl, ?_⟩
  simp only [List.map_cons, List.map_nil, getIntOr0_of_some hasPid,
    getIntOr0_of_some hasAddress, getIntOr0_of_some hasSize]
  rfl

theorem memWrite_passesOn : memWrite.PassesOn [("pid", .uint32), ("address", .uint64)] := by
  intro req old snap args accepted _
  obtain ⟨_, hasPid, present⟩ := Option.bind_eq_some_iff.mp (need_eq_ok.mp accepted)
  obtain ⟨_, hasAddress, present⟩ := Option.bind_eq_some_iff.mp present
  obtain ⟨_, _, present⟩ := Option.bind_eq_some_iff.mp present
  cases present
  refine ⟨_, rfl, ?_⟩
  simp only [List.map_cons, List.map_nil, getIntOr0_of_some hasPid,
    getIntOr0_of_some hasAddress]
  rfl

/-- The table lists the numbers of every handler it names. -/
theorem numericParams_passedOn : ∀ entry ∈ numericParams,
    ∃ handler, (entry.1, handler) ∈ dispatchTable ∧ handler.PassesOn entry.2 := by
  unfold numericParams
  simp only [List.forall_mem_cons, List.not_mem_nil, false_imp_iff, implies_true, and_true]
  refine ⟨⟨_, ?_, windowPickAtPoint_passesOn⟩, ⟨_, ?_, windowPostMessage_passesOn⟩,
    ⟨_, ?_, inputMouseClick_passesOn⟩, ⟨_, ?_, inputKeyPress_passesOn⟩,
    ⟨_, ?_, windowControlClick_passesOn⟩, ⟨_, ?_, screenGetPixel_passesOn⟩,
    ⟨_, ?_, screenCapture_passesOn⟩, ⟨_, ?_, screenPixelSearch_passesOn⟩,
    ⟨_, ?_, processKill_passesOn⟩, ⟨_, ?_, memRead_passesOn⟩, ⟨_, ?_, memWrite_passesOn⟩,
    ⟨_, ?_, imageMatch_passesOn⟩⟩
  all_goals simp [dispatchTable]

/-- The operations of the other handlers have no integer parameters. -/
theorem no_other_numbers : ∀ entry ∈ dispatchTable, entry.1 ∉ numericParams.map Prod.fst →
    ∀ snap args {σ : Type} (backend : Backend σ) world,
      ∀ op ∈ (entry.2.query snap args).calls backend world, op.2.numbers = [] := by
  intro entry member other snap args σ backend world op called
  fin_cases member
  all_goals
    first
    | exact absurd (by decide) other
    | cases called
    | obtain rfl := Program.mem_calls_perform called
      rfl

/-! ## The limits against the results -/

/-- For one method: the results are representable when the parameters are within the limits, and
only then. -/
def Agrees (params : Object) (numbers : String × List (String × IntType))
    (ranges : String × List Limit) : Prop :=
  numbers.1 = ranges.1 ∧
    ((∀ number ∈ numbers.2, Outcome.Fits ⟨number.2, getIntOr0 params number.1⟩) ∧
        (∀ outcome ∈ arithmeticOf (ascii numbers.1) params, outcome.Fits) ↔
      (∀ limit ∈ ranges.2, limit.Kept params) ∧
        (ascii numbers.1 = ascii "screen.capture" → RegionKept params))

/-- A method without arithmetic has the limits of its types. -/
theorem agrees_of_types {params : Object} {name : String} {numbers : List (String × IntType)}
    {ranges : List Limit} (plain : arithmeticOf (ascii name) params = [])
    (other : ascii name ≠ ascii "screen.capture")
    (types : ranges = numbers.map fun number => ⟨number.1, number.2.min, number.2.max⟩) :
    Agrees params (name, numbers) (name, ranges) := by
  subst types
  refine ⟨rfl, ?_⟩
  simp only [plain, other, List.forall_mem_map, List.not_mem_nil]
  exact and_congr_right' (iff_of_true nofun nofun)

/-- The product with 65535 is an `int` for the numbers up to 32768. -/
theorem agrees_mouseClick (params : Object) :
    Agrees params ("input.mouseClick", [("x", .int), ("y", .int), ("button", .int)])
      ("input.mouseClick",
        [⟨"x", -32768, 32768⟩, ⟨"y", -32768, 32768⟩, ⟨"button", -2147483648, 2147483647⟩]) := by
  have other : ascii "input.mouseClick" ≠ ascii "screen.capture" := by decide
  refine ⟨rfl, ?_⟩
  simp only [arithmeticOf, if_true, other, List.forall_mem_cons, Outcome.Fits, Limit.Kept,
    IntType.min, IntType.max, List.not_mem_nil, false_imp_iff, implies_true, and_true]
  omega

theorem agrees_capture (params : Object) :
    Agrees params ("screen.capture", rectNumbers) ("screen.capture", rectLimits) := by
  have mouse : ascii "screen.capture" ≠ ascii "input.mouseClick" := by decide
  refine ⟨rfl, ?_⟩
  simp only [rectNumbers, rectLimits, arithmeticOf, mouse, if_false, if_true, RegionKept,
    List.forall_mem_cons, Outcome.Fits, Limit.Kept, IntType.min, IntType.max, List.not_mem_nil,
    false_imp_iff, implies_true, and_true, true_imp_iff]

theorem agrees_limits (params : Object) : List.Forall₂ (Agrees params) numericParams limits := by
  unfold numericParams limits
  refine .cons (agrees_of_types rfl (by decide) rfl) ?_
  refine .cons (agrees_of_types rfl (by decide) rfl) ?_
  refine .cons (agrees_mouseClick params) ?_
  refine .cons (agrees_of_types rfl (by decide) rfl) ?_
  refine .cons (agrees_of_types rfl (by decide) rfl) ?_
  refine .cons (agrees_of_types rfl (by decide) rfl) ?_
  refine .cons (agrees_capture params) ?_
  refine .cons (agrees_of_types rfl (by decide) rfl) ?_
  refine .cons (agrees_of_types rfl (by decide) rfl) ?_
  refine .cons (agrees_of_types rfl (by decide) rfl) ?_
  refine .cons (agrees_of_types rfl (by decide) rfl) ?_
  refine .cons (agrees_of_types rfl (by decide) rfl) ?_
  exact .nil

/-- The limits say when the results are representable. -/
theorem fits_iff_keepsLimits (method : Bytes) (params : Object) :
    ((∀ outcome ∈ conversions method params, outcome.Fits) ∧
      ∀ outcome ∈ arithmeticOf method params, outcome.Fits) ↔ KeepsLimits method params := by
  have lookups : Option.Rel (Agrees params)
      (numericParams.find? fun entry => ascii entry.1 = method)
      (limits.find? fun entry => ascii entry.1 = method) := by
    refine find?_related (fun numbers ranges agrees => ?_) (agrees_limits params)
    rw [agrees.1]
  unfold conversions KeepsLimits
  cases found : numericParams.find? fun entry => ascii entry.1 = method with
  | none =>
      rw [found] at lookups
      have absent : ∀ name ∈ numericParams.map Prod.fst, ascii name ≠ method := by
        intro name member
        obtain ⟨entry, inside, rfl⟩ := List.mem_map.mp member
        simpa using List.find?_eq_none.mp found entry inside
      have plain : arithmeticOf method params = [] := by
        rw [arithmeticOf, if_neg (absent "input.mouseClick" (by decide)).symm,
          if_neg (absent "screen.capture" (by decide)).symm]
      cases unlimited : limits.find? fun entry => ascii entry.1 = method with
      | some ranges =>
          rw [unlimited] at lookups
          cases lookups
      | none =>
          rw [plain]
          exact iff_of_true ⟨List.forall_mem_nil _, List.forall_mem_nil _⟩ trivial
  | some numbers =>
      have named : ascii numbers.1 = method := by
        simpa using List.find?_some found
      rw [found] at lookups
      cases limited : limits.find? fun entry => ascii entry.1 = method with
      | none =>
          rw [limited] at lookups
          cases lookups
      | some ranges =>
          rw [limited] at lookups
          obtain ⟨-, agrees⟩ := Option.rel_some_some.mp lookups
          rw [named] at agrees
          dsimp only
          rw [List.forall_mem_map]
          exact agrees

/-- The request passes the parameter checks of its handler. -/
def Accepted (req : CoreRequest) (old : Option Snapshot) : Prop :=
  ∃ handler, dispatch req.method = some handler ∧ ∃ args, handler.args req old = .ok args

section

variable {σ : Type} (backend : Backend σ) (env : Surroundings) (req : CoreRequest)
  (snapshot : Snapshot) (old : Option Snapshot) (world : σ)

/-- The pause of `events.poll` is a number of milliseconds that an `int` can say. -/
def PauseKept : Prop :=
  req.method = ascii "events.poll" → waits backend env req snapshot old world = true →
    -2147483648 ≤ (getInt req.params "interval_ms").getD 100 ∧
      (getInt req.params "interval_ms").getD 100 ≤ 2147483647

theorem pauseConversions_fit_iff :
    (∀ outcome ∈ pauseConversions backend env req snapshot old world, outcome.Fits) ↔
      PauseKept backend env req snapshot old world := by
  unfold pauseConversions PauseKept
  split
  · rename_i pauses
    rw [List.forall_mem_singleton]
    exact ⟨fun fits _ _ => fits, fun kept => kept pauses.1 pauses.2⟩
  · rename_i passes
    exact iff_of_true (List.forall_mem_nil _) fun poll waiting => absurd ⟨poll, waiting⟩ passes

/-- No result that handling a request computes, be it a conversion of a parameter or the arithmetic
of the backend, leaves its type exactly when the request is rejected for its parameters or these
are within the limits of its method. -/
theorem performed_fits_iff :
    (∀ outcome ∈ performed backend env req snapshot old world, outcome.Fits) ↔
      (Accepted req old → KeepsLimits req.method req.params ∧
        PauseKept backend env req snapshot old world) := by
  unfold performed Accepted
  cases found : dispatch req.method with
  | none =>
      refine iff_of_true (List.forall_mem_nil _) ?_
      rintro ⟨handler, missing, -⟩
      cases missing
  | some handler =>
      obtain ⟨name, member, named⟩ := mem_dispatchTable_of_dispatch found
      cases accepted : handler.args req old with
      | error what =>
          dsimp only
          rw [accepted]
          refine iff_of_true (List.forall_mem_nil _) ?_
          rintro ⟨_, same, args, passed⟩
          cases same
          rw [accepted] at passed
          cases passed
      | ok args =>
          have computed := table_arithmetic backend _ member req old snapshot args world accepted
          rw [named] at computed
          dsimp only
          rw [accepted]
          dsimp only
          rw [handleCalls_of_accepted found accepted, computed, List.forall_mem_append,
            List.forall_mem_append, pauseConversions_fit_iff, and_left_comm,
            fits_iff_keepsLimits, and_comm]
          constructor
          · intro kept _
            exact kept
          · intro kept
            exact kept ⟨handler, rfl, args, accepted⟩

end

/-- A click at `x = 40000` multiplies beyond `int`. -/
theorem mouseClick_overflows :
    ∃ req,
      parseRequestJson Json.integerStod
          (ascii ("\x7b\"id\":\"1\",\"method\":\"input.mouseClick\"," ++
            "\"params\":\x7b\"x\":40000,\"y\":0\x7d\x7d")) = .ok req ∧
        ⟨.int, 40000 * 65535⟩ ∈
          performed (σ := Unit) ⟨fun _ world => (.error [], world)⟩ ⟨false, [], 0⟩ req ⟨[]⟩ none
            () ∧
        ¬ Outcome.Fits ⟨.int, 40000 * 65535⟩ := by
  refine ⟨⟨ascii "1", ascii "input.mouseClick",
    [(ascii "x", .num (.ofInt 40000)), (ascii "y", .num (.ofInt 0))]⟩, ?_, ?_, ?_⟩
  · decide +kernel
  · decide +kernel
  · decide

end WinInspect
