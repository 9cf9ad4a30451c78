import WinInspect.Daemon.Turn

/-!
# What a connection carries of its request

On its way to the engine a request has passed the checks of the request loops, and the response a
connection carries is one the loops build themselves or the engine's.  `turn_carries` says so for
any property of requests and responses that the loops' own responses have; what every response
has is then a question about the engine.

The loops answer three methods themselves.  So the response that a method is bad is only given to
a request whose method neither the loops nor the dispatch table have.
-/

namespace WinInspect.Daemon

variable {σ : Type}

/-- The methods that do not come to the engine. -/
def answeredByLoop : List Bytes :=
  [ascii "events.subscribe", ascii "events.unsubscribe", ascii "snapshot.capture"]

/-- What the loops check of a request that they pass on to the engine. -/
structure Passed (cfg : Settings) (req : CoreRequest) : Prop where
  other : req.method ∉ answeredByLoop
  unblocked : (cfg.readOnly && blockedReadOnly req.method) = false

/-- The responses of the loops, and the one they start from. -/
inductive OwnResponse (req : CoreRequest) : CoreResponse → Prop
  | blank : OwnResponse req { id := req.id }
  | ok (result : List (String × Json.Value)) : OwnResponse req (okResponse req result)
  | error {code : String} (message : String)
      (own : code ∈ ["E_UNAUTHORIZED", "E_ACCESS_DENIED", "E_TOO_MANY_SESSIONS",
        "E_BAD_SNAPSHOT", "E_TIMEOUT"]) : OwnResponse req (errorResponse req code message)

/-- A property that the loops' responses have, also after an exception. -/
structure OfLoops (fits : CoreRequest → CoreResponse → Prop) : Prop where
  own : ∀ {req resp}, OwnResponse req resp → fits req resp
  caught : ∀ {req resp} transport what, fits req resp → fits req (caught transport resp what)

/-- What a phase carries of its request. -/
def Phase.Carries (cfg : Settings) (fits : CoreRequest → CoreResponse → Prop) : Phase → Prop
  | .terminating req => Passed cfg req
  | .finding req => Passed cfg req
  | .findingOld req _ => Passed cfg req
  | .calling req _ _ => Passed cfg req
  | .polled req _ _ resp => fits req resp
  | .storing req _ _ resp _ => fits req resp
  | .sending (some req) resp => fits req resp
  | _ => True

section

variable {cfg : Settings} {fits : CoreRequest → CoreResponse → Prop}

/-! ## Local control flow -/

theorem proceed_carries (loops : OfLoops fits) (conn : Conn) {req : CoreRequest}
    (other : req.method ≠ ascii "snapshot.capture" → req.method ∉ answeredByLoop) :
    (conn.proceed cfg req).phase.Carries cfg fits := by
  unfold Conn.proceed
  split
  · exact loops.own (.error _ (by simp))
  · rename_i unblocked
    split
    · trivial
    · rename_i captures
      exact ⟨other captures, by simpa using unblocked⟩

theorem route_carries (loops : OfLoops fits) (conn : Conn) (req : CoreRequest) :
    (conn.route cfg req).phase.Carries cfg fits := by
  unfold Conn.route
  split
  · trivial
  · rename_i subscribes
    split
    · dsimp only
      split
      · exact loops.own (.ok _)
      · trivial
    · rename_i unsubscribes
      split
      · rename_i terminates
        have method : req.method = ascii "session.terminate" := terminates.1
        have unblocked : blockedReadOnly (ascii "session.terminate") = false := by decide
        exact ⟨by rw [method]; decide, by rw [method, unblocked, Bool.and_false]⟩
      · refine proceed_carries loops conn fun captures => ?_
        simp [answeredByLoop, subscribes, unsubscribes, captures]

theorem accept_carries (loops : OfLoops fits) (conn : Conn) (req : CoreRequest) :
    (conn.accept cfg req).phase.Carries cfg fits := by
  unfold Conn.accept
  split
  · exact loops.own (.error _ (by simp))
  · split
    · trivial
    · exact route_carries loops conn req

theorem Captures.carries (loops : OfLoops fits) {phase : Phase} {resp : CoreResponse}
    {req : CoreRequest} {next : Snapshot → Phase} (captures : Captures phase resp req next)
    (carries : phase.Carries cfg fits) :
    fits req resp ∧ ∀ s, (next s).Carries cfg fits := by
  cases captures with
  | finding req unnamed => exact ⟨loops.own .blank, fun _ => carries⟩
  | polled req snap old resp => exact ⟨carries, fun _ => carries⟩
  | _ => exact ⟨loops.own .blank, fun _ => trivial⟩

theorem timeoutResponse_own (transport : Transport) (req : CoreRequest) :
    OwnResponse req (timeoutResponse transport req) := by
  cases transport <;> exact .error _ (by simp)

theorem badSnapshotResponse_own (transport : Transport) (req : CoreRequest) :
    OwnResponse req (badSnapshotResponse transport req) := by
  cases transport <;> exact .error _ (by simp)

/-! ## Turns -/

/-- The engine's answer, when it comes in time, has the property. -/
def EngineFits (p : Platform σ) (cfg : Settings) (fits : CoreRequest → CoreResponse → Prop)
    (g : Shared σ) (conn : Conn) (input : Input) : Prop :=
  ∀ req snap old recentLogs pollElapsed durationMs, conn.phase = .calling req snap old →
    input = .core false recentLogs pollElapsed durationMs → Passed cfg req →
    fits req (handle p.backend { adminLogsEnabled := cfg.adminLogs, recentLogs, pollElapsed }
      durationMs req snap old g.world).1

theorem turn_carries {p : Platform σ} {g g' : Shared σ} {conn conn' : Conn} {input : Input}
    (loops : OfLoops fits) (carries : conn.phase.Carries cfg fits)
    (engine : EngineFits p cfg fits g conn input)
    (ran : turn p cfg g conn input = some (g', conn')) : conn'.phase.Carries cfg fits := by
  cases turn_cases ran with
  | startTcp phase tcp =>
      dsimp only
      split <;> trivial
  | @request payload text phase read =>
      rcases onRequest_cases p.stod cfg conn text with ⟨req, _, accepted, _⟩ | ⟨what, error⟩
      · rw [accepted]
        exact accept_carries loops _ req
      · rw [error]
        trivial
  | hungUp phase read =>
      rcases leave_cases conn with ⟨_, _, left⟩ | ⟨_, _, left⟩ | ⟨_, left⟩ <;> rw [left] <;> trivial
  | @core timedOut recentLogs pollElapsed durationMs req snap old env done phase surroundings
      ranCore =>
      rw [phase] at carries
      have answered :
          fits req (if timedOut then timeoutResponse conn.transport req else done.1) := by
        cases timedOut with
        | true => exact loops.own (timeoutResponse_own _ _)
        | false =>
            rw [ranCore, surroundings]
            exact engine _ _ _ _ _ _ phase rfl carries
      rcases afterCore_cases conn req snap old
          (if timedOut then timeoutResponse conn.transport req else done.1) with
        ⟨_, _, polled⟩ | sent
      · rw [polled]
        exact answered
      · rw [sent]
        exact answered
  | recovered phase free known => exact route_carries loops _ _
  | created phase free unknown allowed => exact route_carries loops _ _
  | terminating phase free =>
      rw [phase] at carries
      exact proceed_carries loops _ fun _ => carries.other
  | captureOk captures taken => exact (captures.carries loops carries).2 _
  | captureFails captures taken => exact loops.caught _ _ (captures.carries loops carries).1
  | evictRound phase full => exact carries
  | pinned phase named free stored =>
      rw [phase] at carries
      exact carries
  | findingOld phase =>
      rw [phase] at carries
      exact carries
  | storing phase free =>
      rw [phase] at carries
      exact carries
  | sending phase =>
      rcases afterSend_cases (conn.write p.bcrypt _).2 with ⟨_, next⟩ | ⟨_, next⟩ <;>
        rw [next] <;> trivial
  | tooMany phase free unknown capped => exact loops.own (.error _ (by simp))
  | unknownSnapshot phase named free unknown => exact loops.own (badSnapshotResponse_own _ _)
  | subscribed phase free => exact loops.own (.ok _)
  | unsubscribing phase free => exact loops.own (.ok _)
  | evictDone phase fits => exact loops.own (.ok _)
  | _ => trivial

end

/-! ## The method of a request -/

/-- A response says that the method is bad only if it is. -/
def Blames (req : CoreRequest) (resp : CoreResponse) : Prop :=
  resp.errorCode = ascii "E_BAD_METHOD" → req.method ∉ answeredByLoop ∧ dispatch req.method = none

theorem ofLoops_blames : OfLoops Blames where
  own := by
    rintro req resp own bad
    cases own with
    | blank => exact absurd bad (by decide : ([] : Bytes) ≠ ascii "E_BAD_METHOD")
    | ok result => exact absurd bad (by decide : ([] : Bytes) ≠ ascii "E_BAD_METHOD")
    | @error code message own =>
        have others : ∀ code ∈ ["E_UNAUTHORIZED", "E_ACCESS_DENIED", "E_TOO_MANY_SESSIONS",
            "E_BAD_SNAPSHOT", "E_TIMEOUT"], ascii code ≠ ascii "E_BAD_METHOD" := by decide
        exact absurd bad (others code own)
  caught := by
    rintro req resp transport what _ bad
    refine absurd bad ?_
    cases transport <;> exact (by decide : ascii "E_BAD_REQUEST" ≠ ascii "E_BAD_METHOD")

theorem carries_blames_of_runs {p : Platform σ} {cfg : Settings} {world : σ}
    {target : Transition.Config (Shared σ) Conn}
    (run : (daemon p cfg).Runs {} (initial world) target) :
    ∀ conn ∈ target.parts, conn.phase.Carries cfg Blames := by
  refine forall_conn run (fun _ => trivial) fun g conn input g' conn' carries _ ran => ?_
  refine turn_carries ofLoops_blames carries ?_ ran
  intro req snap old recentLogs pollElapsed durationMs _ _ passed bad
  exact ⟨passed.other, (handle_badMethod_iff _ _ _ _ _ _ _).mp bad⟩

end WinInspect.Daemon
