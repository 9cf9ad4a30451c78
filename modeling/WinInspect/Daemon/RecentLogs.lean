import WinInspect.Core.Reads
import WinInspect.Daemon.Log
import Mathlib.Data.List.DropRight

/-!
# What `daemon.logs` shows

The lines of the connections, and of the threads besides them, go to one buffer of a hundred.  In
every run the buffer holds the last hundred of all lines that were logged at or above the level of
the logger, in their order, and this is what `daemon.logs` answers.
-/

namespace WinInspect.Daemon

open Transition (Config System Move Step exec)

variable {σ : Type}

/-! ## The buffer -/

/-- Of a history that goes on, the last elements are those of the last elements and the new one. -/
theorem rtake_concat {α : Type} (history : List α) (a : α) (n : Nat) :
    (history ++ [a]).rtake (n + 1) =
      let kept := history.rtake (n + 1) ++ [a]
      if n + 1 < kept.length then kept.tail else kept := by
  have length : (history.rtake (n + 1)).length = min history.length (n + 1) := by
    rw [List.rtake, List.length_drop]
    omega
  rw [List.rtake_concat_succ]
  dsimp only
  rw [List.length_append, List.length_singleton, length]
  split
  · rename_i full
    have longer : n + 1 ≤ history.length := by omega
    have next : history.length - n = history.length - (n + 1) + 1 := by omega
    rw [List.tail_append_of_ne_nil]
    · rw [List.rtake, List.rtake, next, List.tail_drop]
    · intro empty
      rw [empty, List.length_nil] at length
      omega
  · have all : history.length ≤ n := by omega
    rw [List.rtake, List.rtake, Nat.sub_eq_zero_of_le all, Nat.sub_eq_zero_of_le (by omega)]

/-- Those of some lines that are at or above a level. -/
def shownLines (level : LogLevel) (lines : List LogMessage) : List LogMessage :=
  lines.filter fun line => decide (level.toInt ≤ line.level.toInt)

theorem shownLines_append (level : LogLevel) (first second : List LogMessage) :
    shownLines level (first ++ second) = shownLines level first ++ shownLines level second :=
  List.filter_append first second

namespace Logger

variable {logger : Logger} {history : List LogMessage}

/-- The buffer holds the end of a history. -/
def Holds (logger : Logger) (history : List LogMessage) : Prop :=
  logger.buffer = history.rtake maxLogs

theorem minLevel_logAtLevel (timestamp : Bytes) (line : LogLevel × Bytes) :
    (logger.logAtLevel timestamp line).minLevel = logger.minLevel := by
  unfold logAtLevel log
  split <;> rfl

theorem minLevel_logAll (lines : List LogMessage) :
    (logger.logAll lines).minLevel = logger.minLevel := by
  induction lines generalizing logger with
  | nil => rfl
  | cons line rest inductionHypothesis =>
      exact inductionHypothesis.trans (minLevel_logAtLevel _ _)

theorem Holds.logAtLevel (holds : logger.Holds history) (line : LogMessage) :
    (logger.logAtLevel line.timestamp (line.level, line.message)).Holds
      (history ++ shownLines logger.minLevel [line]) := by
  unfold Logger.logAtLevel shouldLog shownLines
  rw [List.filter_singleton]
  cases decide (logger.minLevel.toInt ≤ line.level.toInt) with
  | true =>
      unfold Holds log
      rw [holds]
      exact (rtake_concat history line 99).symm
  | false =>
      rw [cond_false, List.append_nil]
      exact holds

theorem Holds.logAll (holds : logger.Holds history) (lines : List LogMessage) :
    (logger.logAll lines).Holds (history ++ shownLines logger.minLevel lines) := by
  induction lines generalizing logger history with
  | nil =>
      rw [shownLines, List.filter_nil, List.append_nil]
      exact holds
  | cons line rest inductionHypothesis =>
      have later := inductionHypothesis (holds.logAtLevel line)
      rw [minLevel_logAtLevel, List.append_assoc, ← shownLines_append] at later
      exact later

/-- `get_recent_logs` gives the whole buffer. -/
theorem Holds.getRecentLogs (holds : logger.Holds history) :
    logger.getRecentLogs maxLogs = history.rtake maxLogs := by
  have bounded : logger.buffer.length ≤ maxLogs := by
    rw [holds, List.rtake, List.length_drop]
    omega
  rw [Logger.getRecentLogs, if_pos bounded, holds]

end Logger

/-! ## Runs -/

/-- What a run logs. -/
def history (p : Platform σ) (cfg : Settings) :
    Config (Shared σ) Conn × Logger → List (LogLabel σ) → List LogMessage
  | _, [] => []
  | state, label :: rest =>
      shownLines state.2.minLevel (stepLines p cfg state.1 label) ++
        ((logged p cfg state label).map fun after => history p cfg after rest).getD []

section

variable {p : Platform σ} {cfg : Settings} {state after : Config (Shared σ) Conn × Logger}

/-- A step reads the logs as they are, and adds its lines. -/
theorem logged_cases {label : LogLabel σ} (step : logged p cfg state label = some after) :
    readsLogs p cfg state.1 state.2 label = true ∧
      after.2 = state.2.logAll (stepLines p cfg state.1 label) ∧
      ∀ move first later between, label = .move move first later between →
        (daemon p cfg).next state.1 move = some after.1 := by
  unfold logged at step
  split at step
  · rename_i reads
    refine ⟨reads, ?_⟩
    cases label with
    | move move first later between =>
        obtain ⟨config, moved, rfl⟩ := Option.map_eq_some_iff.mp step
        refine ⟨rfl, ?_⟩
        rintro _ _ _ _ ⟨⟩
        exact moved
    | other line =>
        cases step
        refine ⟨rfl, ?_⟩
        rintro _ _ _ _ ⟨⟩
  · cases step

/-- The buffer holds the end of the history, whatever the run. -/
theorem Logger.Holds.exec {before : List LogMessage} (holds : state.2.Holds before)
    {labels : List (LogLabel σ)} (ran : exec (logged p cfg) state labels = some after) :
    after.2.Holds (before ++ history p cfg state labels) := by
  induction labels generalizing state before with
  | nil =>
      cases ran
      rw [history, List.append_nil]
      exact holds
  | cons label rest inductionHypothesis =>
      rw [Transition.exec_cons] at ran
      obtain ⟨middle, step, ran⟩ := Option.bind_eq_some_iff.mp ran
      have one : middle.2.Holds
          (before ++ shownLines state.2.minLevel (stepLines p cfg state.1 label)) := by
        rw [(logged_cases step).2.1]
        exact holds.logAll _
      have later := inductionHypothesis one ran
      rw [history, step, Option.map_some, Option.getD_some, ← List.append_assoc]
      exact later

theorem minLevel_exec {labels : List (LogLabel σ)}
    (ran : exec (logged p cfg) state labels = some after) :
    after.2.minLevel = state.2.minLevel := by
  induction labels generalizing state with
  | nil =>
      cases ran
      rfl
  | cons label rest inductionHypothesis =>
      rw [Transition.exec_cons] at ran
      obtain ⟨middle, step, ran⟩ := Option.bind_eq_some_iff.mp ran
      rw [inductionHypothesis ran, (logged_cases step).2.1, Logger.minLevel_logAll]

/-- The answer to an admitted `daemon.logs`. -/
theorem handle_logs (backend : Backend σ) (env : Surroundings) (durationMs : Int)
    {req : CoreRequest} (method : req.method = ascii "daemon.logs")
    (admin : env.adminLogsEnabled = true) (snap : Snapshot) (old : Option Snapshot) (world : σ) :
    (handle backend env durationMs req snap old world).1.ok = true ∧
      (handle backend env durationMs req snap old world).1.result =
        .arr (env.recentLogs.map logToJson) := by
  have found : dispatch (ascii "daemon.logs") = some daemonLogs :=
    dispatch_of_mem (by simp [dispatchTable])
  unfold handle handleBody
  rw [method, found]
  dsimp only
  rw [run_daemonLogs]
  simp only [daemonLogs, admin]
  exact ⟨rfl, rfl⟩

/-- In every run of the daemon, among threads that log at any time, the answer to an admitted
`daemon.logs`, if it comes in time, is the last hundred of all lines that the process has logged at
or above its level, in their order, up to the moment of the call: the line of the request itself,
and those that came after it, included. -/
theorem logs_show_history {config : Config (Shared σ) Conn} {logger : Logger}
    (kept : state.2.buffer.length ≤ Logger.maxLogs) {labels : List (LogLabel σ)}
    (ran : exec (logged p cfg) state labels = some (config, logger)) {index : Nat}
    {conn : Conn} (part : config.parts[index]? = some conn) {req : CoreRequest} {snap : Snapshot}
    {old : Option Snapshot} (phase : conn.phase = .calling req snap old)
    (method : req.method = ascii "daemon.logs") (admin : cfg.adminLogs = true)
    {recentLogs : List LogMessage} {pollElapsed durationMs : Int} {first later : Bytes}
    {between : List LogMessage}
    (step : logged p cfg (config, logger)
      (.move (.turn index (.core false recentLogs pollElapsed durationMs)) first later between) =
        some after) :
    ∃ conn' resp, after.1.parts[index]? = some conn' ∧ conn'.phase = .sending (some req) resp ∧
      resp.ok = true ∧ resp.result = .arr
        (((state.2.buffer ++ history p cfg state labels ++ shownLines state.2.minLevel
            (⟨(handlingLine req).1, first, (handlingLine req).2⟩ :: between)).rtake
              Logger.maxLogs).map logToJson) := by
  have start : state.2.Holds state.2.buffer := by
    unfold Logger.Holds
    rw [List.rtake, Nat.sub_eq_zero_of_le kept, List.drop_zero]
  obtain ⟨line, named⟩ : ∃ line : LogMessage,
    line = ⟨(handlingLine req).1, first, (handlingLine req).2⟩ := ⟨_, rfl⟩
  rw [← named]
  have shown := ((start.exec ran).logAll (line :: between)).getRecentLogs
  rw [minLevel_exec ran] at shown
  obtain ⟨reads, -, moves⟩ := logged_cases step
  have moved := moves _ _ _ _ rfl
  have own : stamp first ((linesOf p cfg config
      (.turn index (.core false recentLogs pollElapsed durationMs))).take 1) = [line] := by
    simp [stamp, linesOf, part, Conn.lines, phase, named]
  have seen : recentLogs = (logger.logAll (line :: between)).getRecentLogs 100 := by
    have read := of_decide_eq_true reads
    rw [own] at read
    exact read
  obtain ⟨conn₀, found, turned⟩ := Option.bind_eq_some_iff.mp moved
  cases part.symm.trans found
  obtain ⟨⟨g', conn'⟩, came, configIs⟩ := Option.map_eq_some_iff.mp turned
  have taken : turn p cfg config.shared conn
      (.core false recentLogs pollElapsed durationMs) = some (g', conn') := came
  have inside : index < config.parts.length := (List.getElem?_eq_some_iff.mp part).1
  rw [← configIs]
  cases turn_cases taken with
  | @core _ _ _ _ req' snap' old' env done phase' surroundings answered =>
      cases phase.symm.trans phase'
      have answer := handle_logs p.backend env durationMs method
        (by rw [surroundings]; exact admin) snap old config.shared.world
      have other : ¬ (req.method = ascii "events.poll" ∧ done.1.ok = true) := by
        rw [method]
        exact fun poll => absurd poll.1 (by decide)
      refine ⟨_, done.1, List.getElem?_set_self inside, ?_, ?_, ?_⟩
      · rw [if_neg Bool.false_ne_true, Conn.afterCore, if_neg other]
        rfl
      · rw [answered]
        exact answer.1
      · rw [answered, answer.2, surroundings]
        change Json.Value.arr (recentLogs.map logToJson) = _
        rw [seen, ← shown]
        rfl

end

/-- The engine is about to handle a `daemon.logs`. -/
def Phase.asksLogs : Phase → Bool
  | .calling req _ _ => decide (req.method = ascii "daemon.logs")
  | _ => false

/-- A local client connects and asks for the logs, while the discovery thread logs a packet. -/
def askingLogs : List (LogLabel Fake.FakeState) :=
  let now := ascii "2026-01-01 00:00:00"
  let logs := requestText "1" "daemon.logs" []
  [.move (.spawn .pipe) now now [], .move (.turn 0 (.start none [])) now now [],
    .other ⟨.debug, now, ascii "Discovery packet received: x"⟩,
    .move (.turn 0 (.frame (some logs))) now now [], .move (.turn 0 .go) now now [],
    .move (.turn 0 .go) now now []]

/-- The handler runs after another client has gone. -/
def readingLogs : LogLabel Fake.FakeState :=
  let now := ascii "2026-01-01 00:00:00"
  .move (.turn 0 (.core false [⟨.info, now, ascii "New client connection established."⟩,
    ⟨.info, now, ascii "Client connection closed."⟩] 0 0)) now now
    [⟨.info, now, ascii "Client connection closed."⟩]

theorem askingLogs_ends :
    ((exec (logged fakePlatform { adminLogs := true }) (initial {}, {}) askingLogs).any
      fun state => state.1.parts[0]?.any (fun conn => conn.phase.asksLogs) &&
        (logged fakePlatform { adminLogs := true } state readingLogs).isSome) = true := by
  decide +kernel

/-- The answer has the line of the client itself and that of the client that has gone. -/
theorem logs_show_history_askingLogs :
    ∃ state after conn' req resp,
      exec (logged fakePlatform { adminLogs := true }) (initial {}, {}) askingLogs =
        some state ∧
      logged fakePlatform { adminLogs := true } state readingLogs = some after ∧
      after.1.parts[0]? = some conn' ∧ conn'.phase = .sending (some req) resp ∧
      resp.ok = true ∧ resp.result = .arr
        [logToJson ⟨.info, ascii "2026-01-01 00:00:00",
            ascii "New client connection established."⟩,
          logToJson ⟨.info, ascii "2026-01-01 00:00:00", ascii "Client connection closed."⟩] := by
  obtain ⟨⟨config, logger⟩, ran, checked⟩ := (Option.any_eq_true _ _).mp askingLogs_ends
  obtain ⟨asks, reads⟩ := Bool.and_eq_true_iff.mp checked
  obtain ⟨conn, part, asks⟩ := (Option.any_eq_true _ _).mp asks
  obtain ⟨after, step⟩ := Option.isSome_iff_exists.mp reads
  cases phase : conn.phase with
  | calling req snap old =>
      rw [phase] at asks
      have method : req.method = ascii "daemon.logs" := of_decide_eq_true asks
      obtain ⟨conn', resp, there, sends, ok, result⟩ :=
        logs_show_history (Nat.zero_le _) ran part phase method rfl step
      refine ⟨_, after, conn', req, resp, ran, step, there, sends, ok, ?_⟩
      have logged : history fakePlatform { adminLogs := true } (initial {}, {}) askingLogs =
          [⟨.info, ascii "2026-01-01 00:00:00", ascii "New client connection established."⟩] := by
        decide +kernel
      rw [result, logged]
      rfl
  | _ =>
      rw [phase] at asks
      cases asks

end WinInspect.Daemon
