import WinInspect.Daemon.Requests

/-!
# Exchanges

What a connection does with its client is a sequence of exchanges: it reads one request, calls the
engine at most once for it, and writes one response, before it reads the next.  The deeds of a
connection are kept in an auxiliary variable, so the sequence is one of whole runs, with any number
of other clients in between.

A request text that does not parse, a request that a check refuses and the requests the loops
answer themselves never come to the engine.
-/

namespace WinInspect.Daemon

open Transition (Config System)
open Transition.System (Aux Guard)

variable {σ : Type}

/-! ## Deeds -/

/-- What a connection does that its client can see, and the call of the engine. -/
inductive Deed where
  | read (text : Bytes)
  | called (req : CoreRequest)
  | wrote (resp : CoreResponse)

/-- The deeds of a turn. -/
def Conn.deeds (bcrypt : Crypto.BCrypt) (conn : Conn) : Input → List Deed
  | .frame payload =>
      match conn.phase with
      | .reading => ((payload.bind (conn.textOf bcrypt)).map Deed.read).toList
      | _ => []
  | .core _ _ _ _ =>
      match conn.phase with
      | .calling req _ _ => [.called req]
      | _ => []
  | .go =>
      match conn.phase with
      | .sending _ resp => [.wrote resp]
      | _ => []
  | .start _ _ | .hangUp => []

/-- The daemon's connections with a record of their deeds. -/
def recordDeeds (bcrypt : Crypto.BCrypt) :
    Aux (Shared σ) Conn Input Transport (Outside σ) Unit (List Deed) where
  turn _ conn input _ _ _ deeds := ((), deeds ++ conn.deeds bcrypt input)
  spawn _ _ _ _ _ := ((), [])
  env _ _ _ _ := ()

/-! ## Exchanges -/

/-- The responses of the request loops to a request. -/
inductive ByLoop (transport : Transport) (req : CoreRequest) : CoreResponse → Prop
  | ok (result : List (String × Json.Value)) (own : req.method ∈ answeredByLoop) :
      ByLoop transport req (okResponse req result)
  | refused {code : String} (message : String)
      (own : code ∈ ["E_UNAUTHORIZED", "E_ACCESS_DENIED", "E_TOO_MANY_SESSIONS",
        "E_BAD_SNAPSHOT"]) : ByLoop transport req (errorResponse req code message)
  | caught (what : Bytes) : ByLoop transport req (caught transport { id := req.id } what)

/-- The responses to a request that the engine was called for: the engine's, the one that it was
late, and what is left of the engine's when the capture after a poll fails. -/
inductive ByEngine (p : Platform σ) (cfg : Settings) (transport : Transport) (req : CoreRequest) :
    CoreResponse → Prop
  | handled (recentLogs : List LogMessage) (pollElapsed durationMs : Int) (snap : Snapshot)
      (old : Option Snapshot) (world : σ) :
      ByEngine p cfg transport req
        (handle p.backend { adminLogsEnabled := cfg.adminLogs, recentLogs, pollElapsed }
          durationMs req snap old world).1
  | late : ByEngine p cfg transport req (timeoutResponse transport req)
  | uncaptured {resp : CoreResponse} (what : Bytes) (poll : req.method = ascii "events.poll")
      (ok : resp.ok = true) (answer : ByEngine p cfg transport req resp) :
      ByEngine p cfg transport req (caught transport resp what)

/-- The deeds of one exchange. -/
inductive Exchange (p : Platform σ) (cfg : Settings) (transport : Transport) : List Deed → Prop
  | unparsed {text what : Bytes} (bad : parseRequestJson p.stod text = .error what) :
      Exchange p cfg transport [.read text, .wrote (caught transport {} what)]
  | byLoop {text : Bytes} {req : CoreRequest} {resp : CoreResponse}
      (parsed : parseRequestJson p.stod text = .ok req) (answer : ByLoop transport req resp) :
      Exchange p cfg transport [.read text, .wrote resp]
  | byEngine {text : Bytes} {req : CoreRequest} {resp : CoreResponse}
      (parsed : parseRequestJson p.stod text = .ok req) (passed : Passed cfg req)
      (answer : ByEngine p cfg transport req resp) :
      Exchange p cfg transport [.read text, .called req, .wrote resp]

/-- The deeds of the exchange a connection is in. -/
def Phase.Midway (p : Platform σ) (cfg : Settings) (transport : Transport) (deeds : List Deed) :
    Phase → Prop
  | .session req _ => Reads req
  | .subscribing req | .subscribed req _ =>
      Reads req ∧ req.method = ascii "events.subscribe"
  | .unsubscribing req => Reads req ∧ req.method = ascii "events.unsubscribe"
  | .capturing req | .captured req _ | .evicting req _ =>
      Reads req ∧ req.method = ascii "snapshot.capture"
  | .terminating req | .finding req | .findingOld req _ | .calling req _ _ =>
      Reads req ∧ Passed cfg req
  | .polled req _ _ resp | .storing req _ _ resp _ =>
      (∃ text, deeds = [.read text, .called req] ∧ parseRequestJson p.stod text = .ok req) ∧
        Passed cfg req ∧ req.method = ascii "events.poll" ∧ resp.ok = true ∧
        ByEngine p cfg transport req resp
  | .sending _ resp => Exchange p cfg transport (deeds ++ [.wrote resp])
  | .starting | .handshake | .reading | .unpinning | .leaving | .closing | .closed => deeds = []
where
  /-- The request has been read, and nothing done since. -/
  Reads (req : CoreRequest) : Prop :=
    ∃ text, deeds = [.read text] ∧ parseRequestJson p.stod text = .ok req

section

variable {p : Platform σ} {cfg : Settings} {transport : Transport} {req : CoreRequest}
  {text : Bytes}

/-! ## Local control flow -/

/-- A response of the loops right after the request. -/
theorem midway_send (conn : Conn) {resp : CoreResponse} {deeds : List Deed}
    (read : Phase.Midway.Reads p deeds req) (answer : ByLoop transport req resp) :
    (conn.send req resp).phase.Midway p cfg transport deeds := by
  obtain ⟨text, rfl, parsed⟩ := read
  exact Exchange.byLoop parsed answer

theorem proceed_midway (conn : Conn) {deeds : List Deed}
    (read : Phase.Midway.Reads p deeds req)
    (other : req.method ≠ ascii "snapshot.capture" → req.method ∉ answeredByLoop) :
    (conn.proceed cfg req).phase.Midway p cfg transport deeds := by
  unfold Conn.proceed
  split
  · exact midway_send conn read (.refused _ (by simp))
  · rename_i unblocked
    split
    · rename_i method
      exact ⟨read, method⟩
    · rename_i captures
      exact ⟨read, other captures, by simpa using unblocked⟩

theorem route_midway (conn : Conn) {deeds : List Deed} (read : Phase.Midway.Reads p deeds req) :
    (conn.route cfg req).phase.Midway p cfg transport deeds := by
  unfold Conn.route
  split
  · rename_i method
    exact ⟨read, method⟩
  · rename_i subscribes
    split
    · rename_i method
      dsimp only
      split
      · exact midway_send _ read (.ok _ (by simp [answeredByLoop, method]))
      · exact ⟨read, method⟩
    · rename_i unsubscribes
      split
      · rename_i terminates
        have method : req.method = ascii "session.terminate" := terminates.1
        have unblocked : blockedReadOnly (ascii "session.terminate") = false := by decide
        exact ⟨read, by rw [method]; decide, by rw [method, unblocked, Bool.and_false]⟩
      · refine proceed_midway conn read fun captures => ?_
        simp [answeredByLoop, subscribes, unsubscribes, captures]

theorem accept_midway (conn : Conn) {deeds : List Deed} (read : Phase.Midway.Reads p deeds req) :
    (conn.accept cfg req).phase.Midway p cfg transport deeds := by
  unfold Conn.accept
  split
  · exact midway_send conn read (.refused _ (by simp))
  · split
    · exact read
    · exact route_midway conn read

theorem badSnapshotResponse_byLoop (transport : Transport) (req : CoreRequest) :
    ByLoop transport req (badSnapshotResponse transport req) := by
  cases transport <;> exact .refused _ (by simp)

/-- A capture is part of the exchange, and the exception it may throw is answered. -/
theorem Captures.midway {phase : Phase} {resp : CoreResponse} {next : Snapshot → Phase}
    {deeds : List Deed} (captures : Captures phase resp req next)
    (midway : phase.Midway p cfg transport deeds) :
    (∀ s, (next s).Midway p cfg transport deeds) ∧
      ∀ conn what, (Conn.send conn req (caught transport resp what)).phase.Midway p cfg transport
        deeds := by
  cases captures with
  | polled req snap old resp =>
      refine ⟨fun _ => midway, fun conn what => ?_⟩
      obtain ⟨⟨text, rfl, parsed⟩, passed, poll, ok, answer⟩ := midway
      exact Exchange.byEngine parsed passed (.uncaptured what poll ok answer)
  | finding | subscribing | capturing =>
      exact ⟨fun _ => midway, fun conn what => midway_send conn midway.1 (.caught what)⟩

/-! ## Turns -/

theorem deeds_silent {conn : Conn} {bcrypt : Crypto.BCrypt}
    (silent : ∀ req resp, conn.phase ≠ .sending req resp) : conn.deeds bcrypt .go = [] := by
  simp only [Conn.deeds]

/-- A turn goes on with the exchange, or it ends one. -/
theorem turn_midway {g g' : Shared σ} {conn conn' : Conn} {input : Input} {deeds : List Deed}
    (midway : conn.phase.Midway p cfg conn.transport deeds)
    (ran : turn p cfg g conn input = some (g', conn')) :
    conn'.phase.Midway p cfg conn.transport (deeds ++ conn.deeds p.bcrypt input) ∨
      Exchange p cfg conn.transport (deeds ++ conn.deeds p.bcrypt input) ∧
        conn'.phase.Midway p cfg conn.transport [] := by
  -- most turns do nothing that is recorded
  have quiet : conn.deeds p.bcrypt input = [] →
      conn'.phase.Midway p cfg conn.transport deeds →
      conn'.phase.Midway p cfg conn.transport (deeds ++ conn.deeds p.bcrypt input) ∨
        Exchange p cfg conn.transport (deeds ++ conn.deeds p.bcrypt input) ∧
          conn'.phase.Midway p cfg conn.transport [] := by
    intro none next
    rw [none, List.append_nil]
    exact Or.inl next
  cases turn_cases ran with
  | startPipe phase _ =>
      rw [phase] at midway
      exact quiet rfl midway
  | startTcp phase _ =>
      rw [phase] at midway
      refine quiet rfl ?_
      dsimp only
      split <;> exact midway
  | hangUp phase =>
      refine quiet rfl ?_
      rcases phase with phase | phase <;> rw [phase] at midway <;> exact midway
  | answered phase _ | refused phase _ =>
      refine quiet (by simp only [Conn.deeds, phase]) ?_
      rw [phase] at midway
      exact midway
  | @request payload text phase read =>
      have first : conn.deeds p.bcrypt (.frame payload) = [.read text] := by
        simp only [Conn.deeds, phase, read, Option.map_some, Option.toList_some]
      rw [phase] at midway
      rw [first, midway, List.nil_append]
      left
      unfold Conn.onRequest
      cases parsed : parseRequestJson p.stod text with
      | ok req => exact accept_midway _ ⟨text, rfl, parsed⟩
      | error what => exact Exchange.unparsed parsed
  | @hungUp payload phase read =>
      refine quiet (by simp only [Conn.deeds, phase, read, Option.map_none, Option.toList_none]) ?_
      rw [phase] at midway
      rcases leave_cases conn with ⟨_, _, left⟩ | ⟨_, _, left⟩ | ⟨_, left⟩ <;> rw [left] <;>
        exact midway
  | @core timedOut recentLogs pollElapsed durationMs req snap old env done phase surroundings
      ranCore =>
      have call : conn.deeds p.bcrypt (.core timedOut recentLogs pollElapsed durationMs) =
          [.called req] := by
        simp only [Conn.deeds, phase]
      rw [phase] at midway
      obtain ⟨⟨text, rfl, parsed⟩, passed⟩ := midway
      have answer : ByEngine p cfg conn.transport req
          (if timedOut then timeoutResponse conn.transport req else done.1) := by
        cases timedOut with
        | true => exact .late
        | false =>
            rw [ranCore, surroundings]
            exact .handled recentLogs pollElapsed durationMs snap old g.world
      rw [call]
      left
      rcases afterCore_cases conn req snap old
          (if timedOut then timeoutResponse conn.transport req else done.1) with
        ⟨poll, ok, polled⟩ | sent
      · rw [polled]
        exact ⟨⟨text, rfl, parsed⟩, passed, poll, ok, answer⟩
      · rw [sent]
        exact Exchange.byEngine parsed passed answer
  | recovered phase _ _ | created phase _ _ _ =>
      refine quiet (deeds_silent (by simp [phase])) ?_
      rw [phase] at midway
      exact route_midway _ midway
  | tooMany phase _ _ _ =>
      refine quiet (deeds_silent (by simp [phase])) ?_
      rw [phase] at midway
      exact midway_send _ midway (.refused _ (by simp))
  | captureOk captures taken =>
      refine quiet (deeds_silent fun req resp sending => ?_) ((captures.midway midway).1 _)
      rw [sending] at captures
      cases captures
  | captureFails captures taken =>
      refine quiet (deeds_silent fun req resp sending => ?_) ((captures.midway midway).2 _ _)
      rw [sending] at captures
      cases captures
  | subscribed phase _ | unsubscribing phase _ | evictDone phase _ =>
      refine quiet (deeds_silent (by simp [phase])) ?_
      rw [phase] at midway
      exact midway_send _ midway.1 (.ok _ (by simp [answeredByLoop, midway.2]))
  | terminating phase _ =>
      refine quiet (deeds_silent (by simp [phase])) ?_
      rw [phase] at midway
      exact proceed_midway _ midway.1 fun _ => midway.2.other
  | evictRound phase full => exact quiet (deeds_silent (by simp [phase])) midway
  | unknownSnapshot phase _ _ _ =>
      refine quiet (deeds_silent (by simp [phase])) ?_
      rw [phase] at midway
      exact midway_send _ midway.1 (badSnapshotResponse_byLoop _ _)
  | captured phase _ | pinned phase _ _ _ | findingOld phase | unpinning phase _ | leaving phase _
  | closing phase =>
      refine quiet (deeds_silent (by simp [phase])) ?_
      rw [phase] at midway
      exact midway
  | storing phase _ =>
      refine quiet (deeds_silent (by simp [phase])) ?_
      rw [phase] at midway
      obtain ⟨⟨text, rfl, parsed⟩, passed, _, _, answer⟩ := midway
      exact Exchange.byEngine parsed passed answer
  | @sending req resp phase =>
      have last : conn.deeds p.bcrypt .go = [.wrote resp] := by simp only [Conn.deeds, phase]
      rw [phase] at midway
      refine Or.inr ⟨last ▸ midway, ?_⟩
      rcases afterSend_cases (conn.write p.bcrypt (serializeResponseJson resp)).2 with
        ⟨_, next⟩ | ⟨_, next⟩ <;> rw [next] <;> rfl

end

/-! ## Runs -/

/-- The deeds of a connection are whole exchanges, and those of the one it is in. -/
def Exchanging (p : Platform σ) (cfg : Settings) (conn : Conn) (deeds : List Deed) : Prop :=
  ∃ (done : List (List Deed)) (rest : List Deed), deeds = done.flatten ++ rest ∧
    (∀ exchange ∈ done, Exchange p cfg conn.transport exchange) ∧
    conn.phase.Midway p cfg conn.transport rest

theorem Exchanging.turn {p : Platform σ} {cfg : Settings} {g g' : Shared σ} {conn conn' : Conn}
    {input : Input} {deeds : List Deed} (exchanging : Exchanging p cfg conn deeds)
    (ran : turn p cfg g conn input = some (g', conn')) :
    Exchanging p cfg conn' (deeds ++ conn.deeds p.bcrypt input) := by
  obtain ⟨done, rest, rfl, whole, midway⟩ := exchanging
  have transport := turn_transport ran
  rcases turn_midway midway ran with goesOn | ⟨ends, idle⟩
  · refine ⟨done, rest ++ conn.deeds p.bcrypt input, ?_, ?_, ?_⟩
    · rw [List.append_assoc]
    · rwa [transport]
    · rwa [transport]
  · refine ⟨done ++ [rest ++ conn.deeds p.bcrypt input], [], ?_, ?_, ?_⟩
    · simp only [List.flatten_append, List.flatten_singleton, List.append_assoc, List.append_nil]
    · rw [transport]
      intro exchange member
      rcases List.mem_append.mp member with old | new
      · exact whole exchange old
      · rw [List.mem_singleton.mp new]
        exact ends
    · rwa [transport]

/-- The daemon just after start-up, with nothing recorded. -/
def withoutDeeds (world : σ) : Config (Shared σ × Unit) (Conn × List Deed) :=
  ⟨({ world := world }, ()), []⟩

/-- In every run of the daemon, however the connections interleave, what each of them does is a
sequence of exchanges, each answering the one request it has read and calling the engine for it at
most once, and then the part of an exchange that its phase says. -/
theorem exchanges_of_runs (p : Platform σ) (cfg : Settings) (world : σ)
    {target : Config (Shared σ × Unit) (Conn × List Deed)}
    (run : ((daemon p cfg).withAux (recordDeeds p.bcrypt)).Runs {} (withoutDeeds world) target) :
    ∀ part ∈ target.parts, Exchanging p cfg part.1 part.2 := by
  have lifted : ((daemon p cfg).withAux (recordDeeds p.bcrypt)).Runs
      (Guard.lift {}) (withoutDeeds world) target := run
  refine forall_conn_aux lifted ?_ ?_
  · intro transport g a
    exact ⟨[], [], rfl, by simp, rfl⟩
  · intro g conn input g' conn' a deeds exchanging _ ran
    exact exchanging.turn ran

/-- A pipe client lists the windows while a TCP client sends something that is no request. -/
def listBesideNoise : List (Transition.Move Input Transport (Outside Fake.FakeState)) :=
  [.spawn .pipe, .turn 0 (.start none []), .spawn .tcp, .turn 1 (.start none []),
    .turn 0 (.frame (some (requestText "1" "window.listTop" []))), .turn 0 .go,
    .turn 1 (.frame (some (ascii "?"))), .turn 0 .go, .turn 0 (.core false [] 0 0), .turn 1 .go,
    .turn 0 .go]

/-- The recorded run. -/
def recordedListing : Option (Config (Shared Fake.FakeState × Unit) (Conn × List Deed)) :=
  Transition.exec ((daemon fakePlatform {}).withAux (recordDeeds fakePlatform.bcrypt)).next
    (withoutDeeds {}) listBesideNoise

/-- Both clients have been answered, with a call of the engine for the first one only. -/
theorem exchanges_of_runs_listBesideNoise :
    ∃ target, recordedListing = some target ∧
      target.parts.map (fun part => part.2.length) = [3, 2] ∧
      ∀ part ∈ target.parts, Exchanging fakePlatform {} part.1 part.2 := by
  have executed : (recordedListing.any fun target =>
      decide (target.parts.map (fun part => part.2.length) = [3, 2])) = true := by
    decide +kernel
  obtain ⟨target, reached, lengths⟩ := (Option.any_eq_true _ _).mp executed
  exact ⟨target, reached, of_decide_eq_true lengths,
    exchanges_of_runs fakePlatform {} {} (System.runs_of_exec reached)⟩

end WinInspect.Daemon
