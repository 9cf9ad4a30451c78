import WinInspect.Json.Parser
import WinInspect.Json.Dump

/-!
# Requests and responses

`CoreRequest`, `CoreResponse` and their JSON forms, and the typed access to the
parameters of a request.
-/

namespace WinInspect

open Json (Value Object Stod)

/-- `CoreRequest`. -/
structure CoreRequest where
  id : Bytes
  method : Bytes
  params : Object
  deriving DecidableEq

/-- `CoreResponse`, with the defaults of the source. -/
structure CoreResponse where
  id : Bytes := []
  ok : Bool := true
  result : Value := .null
  errorCode : Bytes := []
  errorMessage : Bytes := []
  metrics : Object := []
  deriving DecidableEq

/-- `make_error`. -/
def makeError (code msg : Bytes) : Value :=
  .obj (Object.ofFields [("code", .str code), ("message", .str msg)])

/-- `CoreResponse::to_json_obj`. -/
def CoreResponse.toJsonObj (resp : CoreResponse) : Object :=
  let o := Object.ofFields [("id", .str resp.id), ("ok", .bool resp.ok)]
  let o := if resp.ok then Object.set o "result" resp.result
    else Object.set o "error" (makeError resp.errorCode resp.errorMessage)
  if resp.metrics.isEmpty then o else Object.set o "metrics" (.obj resp.metrics)

/-- `serialize_response_json`. -/
def serializeResponseJson (resp : CoreResponse) : Bytes :=
  Json.dumps (.obj resp.toJsonObj)

/-- The value of an optional that must be present, or an exception. -/
def need {α : Type} (value : Option α) (what : String) : Except Bytes α :=
  match value with
  | some a => .ok a
  | none => .error (ascii what)

@[simp]
theorem need_some {α : Type} (value : α) (what : String) : need (some value) what = .ok value :=
  rfl

@[simp]
theorem need_none {α : Type} (what : String) :
    need (none : Option α) what = .error (ascii what) :=
  rfl

/-- `parse_request_json`; an error is the `what()` of the exception. -/
def parseRequestJson (stod : Stod) (jsonUtf8 : Bytes) : Except Bytes CoreRequest := do
  let v ← (Json.parse stod jsonUtf8).mapError Json.ParseFailure.what
  let o ← need v.obj? "request must be object"
  let (id, method, params) ←
    need (do return (← o.get? "id", ← o.get? "method", ← o.get? "params")) "missing fields"
  let (id, method, params) ←
    need (do return (← id.str?, ← method.str?, ← params.obj?)) "bad field types"
  return { id, method, params }

/-- `get_str`. -/
def getStr (o : Object) (k : String) : Option Bytes :=
  (o.get? k).bind Value.str?

theorem getStr_set_self (o : Object) (key : String) (text : Bytes) :
    getStr (o.set key (.str text)) key = some text := by
  unfold getStr Object.get? Object.set
  rw [Assoc.find_assign_self]
  rfl

theorem getStr_set_of_ne (o : Object) {key other : String} (value : Value)
    (different : ascii other ≠ ascii key) : getStr (o.set key value) other = getStr o other := by
  unfold getStr Object.get? Object.set
  rw [Assoc.find_assign_of_ne different]

/-- `get_bool`. -/
def getBool (o : Object) (k : String) : Option Bool :=
  (o.get? k).bind Value.bool?

/-- `get_num`. -/
def getNum (o : Object) (k : String) : Option Double :=
  (o.get? k).bind Value.num?

end WinInspect
