import WinInspect.Core.Codec
import WinInspect.Core.Engine
import WinInspect.Core.FakeBackend

/-!
# Binary payloads

Three methods carry bytes in base64: `input.send`, `mem.write` and `image.match`.  Their
handlers give the backend whatever `base64::decode` makes of the text, and the decoder has no
way to say that a text is malformed.
-/

namespace WinInspect

open Effect (Program)
open Json (Object)

variable {σ : Type}

/-- The backend operations that `CoreEngine::handle` calls for a request. -/
def handleCalls (backend : Backend σ) (env : Surroundings) (req : CoreRequest)
    (snapshot : Snapshot) (old : Option Snapshot) (world : σ) : List (Sigma Call) :=
  match dispatch req.method with
  | none => []
  | some handler => (handler.program env req snapshot old).calls backend world

section

variable {backend : Backend σ} {env : Surroundings} {req : CoreRequest} {snapshot : Snapshot}
  {old : Option Snapshot} {world : σ} {handler : Handler}

/-- A handler that rejects its parameters calls nothing. -/
theorem handleCalls_of_error (found : dispatch req.method = some handler) {what : Bytes}
    (rejected : handler.args req old = .error what) :
    handleCalls backend env req snapshot old world = [] := by
  unfold handleCalls Handler.program
  rw [found]
  dsimp only
  rw [rejected]
  rfl

/-- A handler that accepts its parameters calls what its query does. -/
theorem handleCalls_of_accepted (found : dispatch req.method = some handler) {args : handler.Args}
    (accepted : handler.args req old = .ok args) :
    handleCalls backend env req snapshot old world =
      (handler.query snapshot args).calls backend world := by
  unfold handleCalls Handler.program
  rw [found]
  dsimp only
  rw [accepted, Program.ofExcept_ok, Program.ret_bind, Program.calls_bind]
  rcases (handler.query snapshot args).run backend world with ⟨what | answer, after⟩
  · exact List.append_nil _
  · dsimp only
    rw [Program.calls_ofExcept, List.append_nil]

/-- A handler that accepts its parameters and performs one operation calls it once. -/
theorem handleCalls_of_ok (found : dispatch req.method = some handler) {args : handler.Args}
    (accepted : handler.args req old = .ok args) {op : Call handler.Answer}
    (single : handler.query snapshot args = Program.perform op) :
    handleCalls backend env req snapshot old world = [⟨_, op⟩] := by
  rw [handleCalls_of_accepted found accepted, single, Program.calls_perform]

/-- Such a handler answers with what the operation returns. -/
theorem handleBody_of_ok (found : dispatch req.method = some handler) {args : handler.Args}
    (accepted : handler.args req old = .ok args) {op : Call handler.Answer}
    (single : handler.query snapshot args = Program.perform op) :
    handleBody backend env req snapshot old world =
      (respondOrCatch req.id ((backend.apply op world).1.bind (handler.respond env req args)),
        (backend.apply op world).2) := by
  unfold handleBody Handler.program
  rw [found]
  dsimp only
  rw [accepted, Program.ofExcept_ok, Program.ret_bind, single, Program.perform, Program.call_bind,
    Program.run_call]
  rcases backend.apply op world with ⟨what | answer, after⟩
  · rfl
  · rw [Program.proceed_ok, Program.ret_bind, Program.run_ofExcept]
    rfl

/-- A request that is rejected for its parameters is answered with an error and changes
nothing. -/
theorem handleBody_of_error (found : dispatch req.method = some handler) {what : Bytes}
    (rejected : handler.args req old = .error what) :
    handleBody backend env req snapshot old world = (badRequest req.id what, world) := by
  unfold handleBody Handler.program
  rw [found]
  dsimp only
  rw [rejected]
  rfl

theorem handle_ok_of_error (found : dispatch req.method = some handler) {what : Bytes}
    (rejected : handler.args req old = .error what) (durationMs : Int) :
    (handle backend env durationMs req snapshot old world).1.ok = false := by
  unfold handle
  rw [handleBody_of_error found rejected]
  rfl

end

/-- The methods with a binary payload. -/
inductive PayloadMethod where
  | inputSend
  | memWrite
  | imageMatch
  deriving DecidableEq

namespace PayloadMethod

def name : PayloadMethod → String
  | inputSend => "input.send"
  | memWrite => "mem.write"
  | imageMatch => "image.match"

/-- The parameter that holds the payload. -/
def key : PayloadMethod → String
  | inputSend => "data_b64"
  | memWrite => "data_b64"
  | imageMatch => "sub_image_b64"

/-- The operation for a payload; `none` when another parameter is missing or mistyped. -/
def call (params : Object) (data : Bytes) : PayloadMethod → Option (Sigma Call)
  | inputSend => some ⟨_, .sendInput data⟩
  | memWrite =>
      (getInt params "pid").bind fun pid =>
        (getInt params "address").map fun address => ⟨_, .memWrite pid address data⟩
  | imageMatch => (getRect params).map fun rect => ⟨_, .imageMatch rect data⟩

end PayloadMethod

/-- The handler of a method with a payload: it rejects exactly the requests without an
operation, and otherwise calls the operation for the decoded bytes. -/
theorem payload_cases (method : PayloadMethod) {req : CoreRequest} {text : Bytes}
    (named : req.method = ascii method.name)
    (payload : getStr req.params method.key = some text) (snapshot : Snapshot)
    (old : Option Snapshot) :
    ∃ handler, dispatch req.method = some handler ∧
      ((method.call req.params (Base64.decode text) = none ∧
          ∃ what, handler.args req old = .error what) ∨
        ∃ args op, method.call req.params (Base64.decode text) = some ⟨_, op⟩ ∧
          handler.args req old = .ok args ∧
          handler.query snapshot args = Program.perform op) := by
  rw [named]
  cases method with
  | inputSend =>
      refine ⟨inputSend, dispatch_of_mem (by simp [dispatchTable, PayloadMethod.name]),
        Or.inr ⟨text, _, rfl, ?_, rfl⟩⟩
      change need (getStr req.params "data_b64") _ = _
      rw [show getStr req.params "data_b64" = some text from payload]
      rfl
  | memWrite =>
      refine ⟨memWrite, dispatch_of_mem (by simp [dispatchTable, PayloadMethod.name]), ?_⟩
      have read : getStr req.params "data_b64" = some text := payload
      simp only [PayloadMethod.call, memWrite, read]
      cases getInt req.params "pid" with
      | none => exact Or.inl ⟨rfl, _, rfl⟩
      | some pid =>
          cases getInt req.params "address" with
          | none => exact Or.inl ⟨rfl, _, rfl⟩
          | some address => exact Or.inr ⟨(pid, address, text), _, rfl, rfl, rfl⟩
  | imageMatch =>
      refine ⟨imageMatch, dispatch_of_mem (by simp [dispatchTable, PayloadMethod.name]), ?_⟩
      have read : getStr req.params "sub_image_b64" = some text := payload
      simp only [PayloadMethod.call, imageMatch, read]
      cases getRect req.params with
      | none => exact Or.inl ⟨rfl, _, rfl⟩
      | some rect => exact Or.inr ⟨(rect, text), _, rfl, rfl, rfl⟩

/-- A request with a payload calls one operation, whether or not the payload is valid, unless
another parameter is missing or mistyped; then nothing is called and the answer is not ok.  The
operation gets the octets that the characters in front of the first foreign one fill.  For a
text that RFC 4648 admits, with or without a check of the unused bits, these are the bytes it
stands for. -/
theorem payload_delivered (backend : Backend σ) (env : Surroundings) (durationMs : Int)
    (method : PayloadMethod) (req : CoreRequest) (snapshot : Snapshot) (old : Option Snapshot)
    (world : σ) (text : Bytes) (named : req.method = ascii method.name)
    (payload : getStr req.params method.key = some text) :
    handleCalls backend env req snapshot old world =
        (method.call req.params (Rfc4648.wholeOctets (Rfc4648.leading text))).toList ∧
      (handleCalls backend env req snapshot old world = [] →
        (handle backend env durationMs req snapshot old world).1.ok = false) ∧
      ∀ strict bytes, Rfc4648.Encodes strict text bytes →
        handleCalls backend env req snapshot old world =
          (method.call req.params bytes).toList := by
  have calls : handleCalls backend env req snapshot old world =
        (method.call req.params (Base64.decode text)).toList ∧
      (handleCalls backend env req snapshot old world = [] →
        (handle backend env durationMs req snapshot old world).1.ok = false) := by
    obtain ⟨handler, found, ⟨absent, what, rejected⟩ | ⟨args, op, present, accepted, single⟩⟩ :=
      payload_cases method named payload snapshot old
    · exact ⟨by rw [handleCalls_of_error found rejected, absent]; rfl,
        fun _ => handle_ok_of_error found rejected durationMs⟩
    · have once := @handleCalls_of_ok _ backend env _ _ _ world _ found _ accepted _ single
      refine ⟨by rw [once, present]; rfl, fun none => ?_⟩
      rw [once] at none
      cases none
  refine ⟨?_, calls.2, fun strict bytes encodes => ?_⟩
  · rw [calls.1, Base64.decode_eq_wholeOctets]
  · rw [calls.1, Base64.decode_of_encodes encodes]

/-- A request to write memory. -/
def writeRequest (dataB64 : Bytes) : CoreRequest where
  id := ascii "1"
  method := ascii "mem.write"
  params := Object.ofFields
    [("pid", number 7), ("address", number 4096), ("data_b64", .str dataB64)]

/-- The three bytes of `QUJD` are written. -/
theorem payload_delivered_written :
    handleCalls Fake.fakeBackend ⟨false, [], 0⟩ (writeRequest (ascii "QUJD")) {} none {} =
      [⟨Bool, .memWrite 7 4096 (ascii "ABC")⟩] := by
  have delivered := payload_delivered Fake.fakeBackend ⟨false, [], 0⟩ 0 .memWrite
    (writeRequest (ascii "QUJD")) {} none {} (ascii "QUJD") rfl (by decide)
  have encodes := Rfc4648.encodes_encode true (ascii "ABC")
  rw [show Rfc4648.encode (ascii "ABC") = ascii "QUJD" by decide] at encodes
  rw [delivered.2.2 true (ascii "ABC") encodes]
  rfl

/-- `QUJD!` is no base64 text; the bytes in front of the damage are written and the request is
answered ok. -/
theorem damaged_payload_written :
    (∀ strict bytes, ¬ Rfc4648.Encodes strict (ascii "QUJD!") bytes) ∧
      (handle Fake.fakeBackend ⟨false, [], 0⟩ 0 (writeRequest (ascii "QUJD!")) {} none {}).1.ok =
        true ∧
      handleCalls Fake.fakeBackend ⟨false, [], 0⟩ (writeRequest (ascii "QUJD!")) {} none {} =
        [⟨Bool, .memWrite 7 4096 (ascii "ABC")⟩] := by
  refine ⟨fun strict bytes encodes => ?_, by decide, rfl⟩
  exact absurd encodes.length_mod (by decide)

end WinInspect
