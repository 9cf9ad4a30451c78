import WinInspect.Clients.Texts
import WinInspect.Daemon.Exchanges
import WinInspect.Daemon.Subscriptions

/-!
# What `watch` shows

The command `watch` polls once a second on one connection and prints what it receives.  It never
subscribes, and its polls name no old snapshot.  The pipe loop would take the baseline of the
connection, which only a subscription or a successful poll sets, and the TCP loop forgets it with
every request.  So without a session of its own `watch` is answered with errors only, whatever
happens to the windows and whatever other clients do.
-/

namespace WinInspect.Clients

open Daemon
open Transition (Config)
open Transition.System (Guard)

variable {σ : Type}

/-- A poll that names neither an old snapshot nor a session. -/
structure BarePoll (req : CoreRequest) : Prop where
  baseline : PollsBaseline req
  unnamed : getStr req.params "session_id" = none

/-- All that a connection has read are bare polls. -/
def OnlyPolls (stod : Json.Stod) (deeds : List Deed) : Prop :=
  ∀ text, .read text ∈ deeds → ∃ req, parseRequestJson stod text = .ok req ∧ BarePoll req

/-- A bare poll on its way to an error. -/
def Unserved : Phase → Prop
  | .finding req | .findingOld req _ => BarePoll req
  | .calling req _ old => BarePoll req ∧ old = none
  | .sending _ resp => resp.ok = false
  | .starting | .handshake | .reading | .unpinning | .leaving | .closing | .closed => True
  | _ => False

/-- A connection that has given nothing but errors, and has no baseline to compare with. -/
structure Refusing (conn : Conn) (deeds : List Deed) : Prop where
  phase : Unserved conn.phase
  baseline : conn.session.lastSnapId = []
  written : ∀ resp, .wrote resp ∈ deeds → resp.ok = false

/-- A connection that has read only bare polls has refused all of them. -/
def RefusesPolls (stod : Json.Stod) (conn : Conn) (deeds : List Deed) : Prop :=
  OnlyPolls stod deeds → Refusing conn deeds

section

variable {p : Platform σ} {cfg : Settings} {g g' : Shared σ} {conn conn' : Conn} {input : Input}
  {deeds : List Deed}

theorem exists_sending_of_wrote {bcrypt : Crypto.BCrypt} {resp : CoreResponse}
    (wrote : .wrote resp ∈ conn.deeds bcrypt input) : ∃ req, conn.phase = .sending req resp := by
  cases input with
  | start | hangUp => cases wrote
  | frame payload =>
      simp only [Conn.deeds] at wrote
      split at wrote
      · rw [Option.mem_toList, Option.map_eq_some_iff] at wrote
        obtain ⟨text, _, other⟩ := wrote
        cases other
      · cases wrote
  | core =>
      simp only [Conn.deeds] at wrote
      split at wrote
      · simp at wrote
      · cases wrote
  | go =>
      simp only [Conn.deeds] at wrote
      split at wrote
      · rename_i req resp' phase
        simp only [List.mem_singleton, Deed.wrote.injEq] at wrote
        exact ⟨req, wrote ▸ phase⟩
      · cases wrote

/-- The request loops have nothing to compare a bare poll with. -/
theorem oldSnapshot_barePoll {req : CoreRequest} (poll : BarePoll req)
    (baseline : conn.session.lastSnapId = []) : oldSnapshot g conn req = none := by
  have nothing : ¬ (req.method = ascii "events.poll" ∧ conn.session.lastSnapId ≠ []) :=
    fun stored => stored.2 baseline
  rw [oldSnapshot, oldSid, poll.baseline.2]
  dsimp only
  rw [if_neg nothing]
  rfl

/-- A bare poll is refused or goes on to the lookup, and the session stays. -/
theorem accept_barePoll {req : CoreRequest} (poll : BarePoll req) :
    Unserved (conn.accept cfg req).phase ∧
      (conn.accept cfg req).session = conn.session := by
  unfold Conn.accept
  split
  · exact ⟨rfl, rfl⟩
  · rw [poll.unnamed]
    dsimp only
    rw [route_poll cfg conn poll.baseline]
    exact ⟨poll, rfl⟩

theorem refresh_baseline (baseline : conn.session.lastSnapId = []) :
    conn.refresh.session.lastSnapId = [] := by
  unfold Conn.refresh
  split
  · exact baseline
  · rfl

/-- The turns of a connection that is asked for nothing but bare polls. -/
theorem turn_unserved (unserved : Unserved conn.phase) (baseline : conn.session.lastSnapId = [])
    (polls : OnlyPolls p.stod (conn.deeds p.bcrypt input))
    (ran : turn p cfg g conn input = some (g', conn')) :
    Unserved conn'.phase ∧ conn'.session.lastSnapId = [] := by
  cases turn_cases ran with
  | startPipe phase _ => exact ⟨trivial, rfl⟩
  | startTcp phase _ =>
      refine ⟨?_, baseline⟩
      dsimp only
      split <;> trivial
  | hangUp phase => exact ⟨trivial, baseline⟩
  | answered phase _ | refused phase _ => exact ⟨trivial, baseline⟩
  | @request payload text phase read =>
      have first : .read text ∈ conn.deeds p.bcrypt (.frame payload) := by
        simp only [Conn.deeds, phase, read, Option.map_some, Option.toList_some,
          List.mem_singleton]
      obtain ⟨req, parsed, poll⟩ := polls text first
      unfold Conn.onRequest
      rw [parsed]
      obtain ⟨next, same⟩ := @accept_barePoll cfg conn.refresh req poll
      exact ⟨next, same ▸ refresh_baseline baseline⟩
  | hungUp phase _ =>
      rcases leave_cases conn with ⟨_, _, left⟩ | ⟨_, _, left⟩ | ⟨_, left⟩ <;> rw [left] <;>
        exact ⟨trivial, baseline⟩
  | @core timedOut recentLogs pollElapsed durationMs req snap old env done phase surroundings
      ranCore =>
      rw [phase] at unserved
      obtain ⟨poll, rfl⟩ := unserved
      have refused : (if timedOut then timeoutResponse conn.transport req else done.1).ok =
          false := by
        cases timedOut with
        | true => rfl
        | false =>
            refine Bool.eq_false_iff.mpr fun ok => ?_
            rw [ranCore] at ok
            exact handle_poll_old poll.baseline.1 ok rfl
      rcases afterCore_cases conn req snap none
          (if timedOut then timeoutResponse conn.transport req else done.1) with
        ⟨_, ok, _⟩ | sent
      · rw [refused] at ok
        cases ok
      · rw [sent]
        exact ⟨refused, baseline⟩
  | captureOk captures taken =>
      generalize same : conn.phase = phase at captures
      rw [same] at unserved
      cases captures with
      | finding req unnamed => exact ⟨unserved, baseline⟩
      | _ => cases unserved
  | captureFails captures taken => exact ⟨caught_ok _ _ _, baseline⟩
  | unknownSnapshot phase _ _ _ =>
      refine ⟨?_, baseline⟩
      cases conn.transport <;> rfl
  | pinned phase _ _ _ =>
      rw [phase] at unserved
      exact ⟨unserved, baseline⟩
  | findingOld phase =>
      rw [phase] at unserved
      exact ⟨⟨unserved, oldSnapshot_barePoll unserved baseline⟩, baseline⟩
  | @sending req resp phase =>
      obtain ⟨crypto, written⟩ := write_eq p.bcrypt conn (serializeResponseJson resp)
      rw [written]
      rcases afterSend_cases { conn with crypto := crypto } with ⟨_, next⟩ | ⟨_, next⟩ <;>
        rw [next] <;> exact ⟨trivial, baseline⟩
  | unpinning phase _ | leaving phase _ | closing phase => exact ⟨trivial, baseline⟩
  | recovered phase _ _ | tooMany phase _ _ _ | created phase _ _ _ | subscribed phase _
  | unsubscribing phase _ | terminating phase _ | captured phase _ | evictRound phase _
  | evictDone phase _ | storing phase _ =>
      rw [phase] at unserved
      cases unserved

theorem Refusing.turn (refusing : Refusing conn deeds)
    (polls : OnlyPolls p.stod (deeds ++ conn.deeds p.bcrypt input))
    (ran : turn p cfg g conn input = some (g', conn')) :
    Refusing conn' (deeds ++ conn.deeds p.bcrypt input) := by
  have own : OnlyPolls p.stod (conn.deeds p.bcrypt input) :=
    fun text read => polls text (List.mem_append_right _ read)
  obtain ⟨phase, baseline⟩ := turn_unserved refusing.phase refusing.baseline own ran
  refine ⟨phase, baseline, fun resp wrote => ?_⟩
  rcases List.mem_append.mp wrote with before | now
  · exact refusing.written resp before
  · obtain ⟨req, sending⟩ := exists_sending_of_wrote now
    have unserved := refusing.phase
    rwa [sending] at unserved

end

/-- A client that only ever sends bare polls is answered with errors. -/
theorem refusing_of_runs {p : Platform σ} {cfg : Settings} {world : σ}
    {target : Config (Shared σ × Unit) (Conn × List Deed)}
    (run : ((daemon p cfg).withAux (recordDeeds p.bcrypt)).Runs {} (withoutDeeds world) target) :
    ∀ part ∈ target.parts, RefusesPolls p.stod part.1 part.2 := by
  have lifted : ((daemon p cfg).withAux (recordDeeds p.bcrypt)).Runs
      (Guard.lift {}) (withoutDeeds world) target := run
  refine forall_conn_aux lifted ?_ ?_
  · intro transport g a _
    exact ⟨trivial, rfl, by rintro resp ⟨⟩⟩
  · intro g conn input g' conn' a deeds refusing _ ran polls
    exact (refusing fun text read => polls text (List.mem_append_left _ read)).turn polls ran

/-! ## The requests of `watch` -/

/-- Only the command `watch` goes on asking. -/
theorem watch_of_runCli {lib : Conversions} {argv args : List Bytes} {draft : Draft} {cmd : Bytes}
    {first again : CoreRequest} (watches : runCli lib argv draft cmd args = .watches first again) :
    watch draft = .watches first again := by
  have send : ∀ id method (other : Draft), other.send id method ≠ .watches first again := by
    intro id method other
    unfold Draft.send
    split <;> exact Outcome.noConfusion
  -- the other branches depend on up to two arguments, and end in `send` or ask nothing
  rcases args with _ | ⟨sid, _ | ⟨value, rest⟩⟩ <;>
    grind [runCli, discover, tree, eventsPoll, config, Command.run]

theorem draft_of_cliMain {lib : Conversions} {argv : List Bytes} {first again : CoreRequest}
    (watches : cliMain lib argv = .watches first again) :
    ∃ o : CliArgs, watch o.draft = .watches first again := by
  unfold cliMain at watches
  split at watches
  · cases watches
  · split at watches
    · cases watches
    · exact ⟨_, watch_of_runCli watches⟩

/-- Without a session `watch` sends the same parameters every time. -/
theorem watches_of_unnamed {o : CliArgs} {first again : CoreRequest}
    (watches : watch o.draft = .watches first again)
    (unnamed : getStr first.params "session_id" = none) :
    ∀ req ∈ [first, again], req.method = ascii "events.poll" ∧
      req.params = [(ascii "canonical", .bool true)] := by
  have bare : o.sessionId = [] := by
    by_contra named
    rw [CliArgs.draft, if_neg named] at watches
    cases watches
    cases unnamed
  have drafted : o.draft = Draft.set [] "canonical" (some (.bool true)) := by
    rw [CliArgs.draft]
    exact if_pos bare
  rw [drafted] at watches
  cases watches
  rw [List.forall_mem_cons, List.forall_mem_singleton]
  exact ⟨⟨rfl, rfl⟩, rfl, rfl⟩

theorem barePoll_of_params {stod : Json.Stod} {req : CoreRequest}
    (method : req.method = ascii "events.poll")
    (params : req.params = [(ascii "canonical", .bool true)]) :
    parseRequestJson stod (makeReq req) = .ok req ∧ BarePoll req := by
  constructor
  · apply parse_makeReq
    · rw [params]
      exact ⟨List.pairwise_singleton _ _, trivial, trivial⟩
    · rw [params]
      exact ⟨trivial, trivial⟩
  · refine ⟨⟨method, ?_⟩, ?_⟩ <;> rw [params] <;> decide

/-- A connection of the daemon that receives nothing but the requests of `watch`, given without a
session, answers every one of them with an error, on the pipe and over TCP, whatever the windows
and the other connections do. -/
theorem watch_shows_errors (p : Platform σ) (cfg : Settings) (world : σ) {lib : Conversions}
    {argv : List Bytes} {first again : CoreRequest}
    (watches : cliMain lib argv = .watches first again)
    (unnamed : getStr first.params "session_id" = none)
    {target : Config (Shared σ × Unit) (Conn × List Deed)}
    (run : ((daemon p cfg).withAux (recordDeeds p.bcrypt)).Runs {} (withoutDeeds world) target) :
    ∀ part ∈ target.parts,
      (∀ text, .read text ∈ part.2 → text ∈ [makeReq first, makeReq again]) →
        ∀ resp, .wrote resp ∈ part.2 → resp.ok = false := by
  intro part member client
  obtain ⟨o, drafted⟩ := draft_of_cliMain watches
  have polls : OnlyPolls p.stod part.2 := by
    intro text read
    have sent : text ∈ [first, again].map makeReq := client text read
    obtain ⟨req, among, rfl⟩ := List.mem_map.mp sent
    obtain ⟨method, params⟩ := watches_of_unnamed drafted unnamed req among
    exact ⟨req, barePoll_of_params method params⟩
  exact (refusing_of_runs run part member polls).written

/-- The first two rounds of `watch`, with a capture of another client between them. -/
def watchTwice : List (Transition.Move Input Transport (Outside Fake.FakeState)) :=
  [.spawn .pipe, .turn 0 (.start none []),
    .turn 0 (.frame (some (makeReq (textRequest "w-0" "events.poll" [])))), .turn 0 .go,
    .turn 0 .go,
    .turn 0 (.core false [] 0 0), .turn 0 .go,
    .spawn .tcp, .turn 1 (.start none []),
    .turn 1 (.frame (some (requestText "1" "snapshot.capture" []))), .turn 1 .go, .turn 1 .go,
    .turn 0 (.frame (some (makeReq (textRequest "w-1" "events.poll" [])))), .turn 0 .go,
    .turn 0 .go,
    .turn 0 (.core false [] 0 0), .turn 0 .go]

def recordedWatch : Option (Config (Shared Fake.FakeState × Unit) (Conn × List Deed)) :=
  Transition.exec ((daemon fakePlatform {}).withAux (recordDeeds fakePlatform.bcrypt)).next
    (withoutDeeds {}) watchTwice

/-- Both rounds of `watch` have been answered, with errors. -/
theorem watch_shows_errors_twice :
    ∃ target, recordedWatch = some target ∧
      target.parts.map (fun part => part.2.length) = [6, 1] ∧
      ∀ part ∈ target.parts,
        (∀ text, .read text ∈ part.2 →
          text ∈ [makeReq (textRequest "w-0" "events.poll" []),
            makeReq (textRequest "w-1" "events.poll" [])]) →
        ∀ resp, .wrote resp ∈ part.2 → resp.ok = false := by
  have executed : (recordedWatch.any fun target =>
      decide (target.parts.map (fun part => part.2.length) = [6, 1])) = true := by
    decide +kernel
  have watches : cliMain integerConversions [ascii "watch"] =
      .watches (textRequest "w-0" "events.poll" []) (textRequest "w-1" "events.poll" []) := by
    decide +kernel
  obtain ⟨target, reached, lengths⟩ := (Option.any_eq_true _ _).mp executed
  exact ⟨target, reached, of_decide_eq_true lengths, watch_shows_errors fakePlatform {} {} watches
    (by decide) (Transition.System.runs_of_exec reached)⟩

end WinInspect.Clients
