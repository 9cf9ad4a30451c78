import WinInspect.Daemon.Requests

/-!
# The `id` of responses

A client matches a response to its request by the `id`.  The request loops put the
request's `id` into every response they build themselves, but send the engine's response
as it is, and the engine loses the `id` whenever a handler other than that of
`events.poll` returns.
-/

namespace WinInspect.Daemon

open Transition (Config System)
open Transition.System (Guard)

variable {σ : Type}

/-- The JSON form of a response has the `id` of the response. -/
theorem getStr_toJsonObj_id (resp : CoreResponse) :
    getStr resp.toJsonObj "id" = some resp.id := by
  have base : getStr (Json.Object.ofFields [("id", .str resp.id), ("ok", .bool resp.ok)]) "id" =
      some resp.id := by
    unfold Json.Object.ofFields
    simp only [List.foldl_cons, List.foldl_nil]
    rw [getStr_set_of_ne _ _ (by decide), getStr_set_self]
  have body : getStr (if resp.ok then
        Json.Object.set (Json.Object.ofFields [("id", .str resp.id), ("ok", .bool resp.ok)])
          "result" resp.result
      else
        Json.Object.set (Json.Object.ofFields [("id", .str resp.id), ("ok", .bool resp.ok)])
          "error" (makeError resp.errorCode resp.errorMessage)) "id" = some resp.id := by
    split
    · rw [getStr_set_of_ne _ _ (by decide), base]
    · rw [getStr_set_of_ne _ _ (by decide), base]
  unfold CoreResponse.toJsonObj
  dsimp only
  split
  · exact body
  · rw [getStr_set_of_ne _ _ (by decide), body]

/-! ## The invariant -/

/-- The response that a phase carries for its request has the request's `id`. -/
def Phase.Answers : Phase → Prop
  | .polled req _ _ resp => resp.id = req.id
  | .storing req _ _ resp _ => resp.id = req.id
  | .sending (some req) resp => resp.id = req.id
  | _ => True

/-- The condition on a step: when the engine answers in time, the `id` survives. -/
def engineKeepsId (p : Platform σ) (cfg : Settings) :
    Guard (Shared σ) Conn Input Transport (Outside σ) where
  turn g conn input := ∀ req snap old recentLogs pollElapsed durationMs,
    conn.phase = .calling req snap old →
    input = .core false recentLogs pollElapsed durationMs →
    IdSurvives p.backend { adminLogsEnabled := cfg.adminLogs, recentLogs, pollElapsed } req snap
      old g.world

theorem caught_id (transport : Transport) (resp : CoreResponse) (what : Bytes) :
    (caught transport resp what).id = resp.id := by
  cases transport <;> rfl

theorem ofLoops_id : OfLoops fun req resp => resp.id = req.id where
  own := by
    rintro req resp (_ | _ | _) <;> rfl
  caught := by
    intro req resp transport what same
    exact (caught_id transport resp what).trans same

theorem Phase.Carries.answers {cfg : Settings} {phase : Phase}
    (carries : phase.Carries cfg fun req resp => resp.id = req.id) : phase.Answers := by
  cases phase with
  | polled | storing => exact carries
  | sending req resp =>
      cases req with
      | none => trivial
      | some req => exact carries
  | _ => trivial

/-- In a run that meets the condition every response carried has the request's `id`. -/
theorem answers_of_runs {p : Platform σ} {cfg : Settings} {world : σ}
    {target : Config (Shared σ) Conn}
    (run : (daemon p cfg).Runs (engineKeepsId p cfg) (initial world) target) :
    ∀ conn ∈ target.parts, conn.phase.Answers := by
  have carried : ∀ conn ∈ target.parts,
      conn.phase.Carries cfg fun req resp => resp.id = req.id := by
    refine forall_conn run (fun _ => trivial) fun g conn input g' conn' carries survives ran => ?_
    refine turn_carries ofLoops_id carries ?_ ran
    intro req snap old recentLogs pollElapsed durationMs phase answered _
    exact (handleBody_id_iff _ _ _ _ _ _).mpr (survives _ _ _ _ _ _ phase answered)
  exact fun conn member => (carried conn member).answers

/-- The engine's response carries the request's `id` exactly when `IdSurvives` holds.  In
every run in which this is so for every engine answer that comes in time, on either
transport, the text written for a parsed request has the request's `id`. -/
theorem response_id (p : Platform σ) (cfg : Settings) (world : σ) :
    (∀ env durationMs req snapshot old w,
      (handle p.backend env durationMs req snapshot old w).1.id = req.id ↔
        IdSurvives p.backend env req snapshot old w) ∧
      ∀ target, (daemon p cfg).Runs (engineKeepsId p cfg) (initial world) target →
        ∀ conn ∈ target.parts, ∀ req resp, conn.phase = .sending (some req) resp →
          getStr resp.toJsonObj "id" = some req.id := by
  constructor
  · intro env durationMs req snapshot old w
    rw [handle_id]
    exact handleBody_id_iff p.backend env req snapshot old w
  · intro target run conn member req resp phase
    have answers := answers_of_runs run conn member
    rw [phase] at answers
    rw [getStr_toJsonObj_id, show resp.id = req.id from answers]

/-- The `id`s of the request and of the response that a connection is about to write. -/
def Conn.sentIds (conn : Conn) : Option (Bytes × Bytes) :=
  match conn.phase with
  | .sending (some req) resp => some (req.id, resp.id)
  | _ => none

/-- The engine is asked for nothing but methods it does not know. -/
def asksUnknown (config : Transition.Config (Shared σ) Conn) :
    Transition.Move Input Transport (Outside σ) → Bool
  | .turn index _ => config.parts[index]?.all fun conn =>
      match conn.phase with
      | .calling req _ _ => (dispatch req.method).isNone
      | _ => true
  | _ => true

theorem asksUnknown_sound (p : Platform σ) (cfg : Settings)
    (config : Transition.Config (Shared σ) Conn)
    (move : Transition.Move Input Transport (Outside σ)) (asks : asksUnknown config move = true) :
    (engineKeepsId p cfg).allows config move := by
  cases move with
  | turn index input =>
      intro conn found req snap old recentLogs pollElapsed durationMs phase _
      refine Or.inr (Or.inr fun handler known => ?_)
      simp [asksUnknown, found, phase, known] at asks
  | spawn transport => trivial
  | env event => trivial

/-- A TCP client asks for a method that does not exist, and the engine answers. -/
def unknownOnce : Option (Transition.Config (Shared Fake.FakeState) Conn) :=
  Transition.exec (Transition.checked (daemon fakePlatform {}).next asksUnknown) (initial {})
    [.spawn .tcp, .turn 0 (.start none []),
      .turn 0 (.frame (some (requestText "7" "no.such" []))), .turn 0 .go, .turn 0 .go,
      .turn 0 (.core false [] 0 0)]

theorem unknownOnce_enabled : unknownOnce.isSome := by
  decide +kernel

/-- The error of the engine is answered with the `id` of the request. -/
theorem response_id_unknownOnce :
    let target := unknownOnce.get unknownOnce_enabled
    target.parts.map Conn.sentIds = [some (ascii "7", ascii "7")] ∧
      ∀ conn ∈ target.parts, ∀ req resp, conn.phase = .sending (some req) resp →
        getStr resp.toJsonObj "id" = some req.id :=
  ⟨by decide +kernel, (response_id fakePlatform {} {}).2 _
    (System.runs_checked _ _ _ (asksUnknown_sound fakePlatform {}) _ _ unknownOnce_enabled)⟩

/-- A TCP client asks for the top-level windows with the `id` 7.  The response that is
written has an empty `id`. -/
theorem listTop_loses_id :
    (Transition.exec (daemon fakePlatform {}).next (initial {})
      [.spawn .tcp, .turn 0 (.start none []),
        .turn 0 (.frame (some (requestText "7" "window.listTop" []))), .turn 0 .go, .turn 0 .go,
        .turn 0 (.core false [] 0 0)]).map (fun target => target.parts.map Conn.sentIds) =
      some [some (ascii "7", [])] := by
  decide +kernel

end WinInspect.Daemon
