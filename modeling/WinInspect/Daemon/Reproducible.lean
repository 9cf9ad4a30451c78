import WinInspect.Core.FakeBackend
import WinInspect.Core.Reads
import WinInspect.Daemon.Log
import WinInspect.Json.Canonical

/-!
# Reproducible responses

`CoreEngine::handle` reads the clock for the time stamp of the line it logs first, for the
waiting time of `events.poll` and for the time it has taken.  The waiting time does not show in
the response.  The time taken is in the metrics of every response, and while the logger keeps
the `DEBUG` lines the time stamp is in the response of `daemon.logs`.  Serialization ignores
its `canonical` argument, so both are in the canonical responses as well.
-/

namespace WinInspect

namespace Json

/-- The value under a key stands between two texts that do not depend on it. -/
theorem exists_dumpObj_assign (key : Bytes) (o : Object) (first : Bool) :
    ∃ left right, ∀ v, dumpObj first (Assoc.assign key v o) = left ++ (dump v ++ right) := by
  induction o generalizing first with
  | nil =>
      refine ⟨(if first then [] else [ch ',']) ++ (dumpString key ++ [ch ':']), [], fun v => ?_⟩
      simp [Assoc.assign, dumpObj]
  | cons entry rest inductionHypothesis =>
      obtain ⟨other, old⟩ := entry
      unfold Assoc.assign
      split
      · refine ⟨(if first then [] else [ch ',']) ++ (dumpString key ++ [ch ':']),
          dumpObj false ((other, old) :: rest), fun v => ?_⟩
        simp [dumpObj]
      · split
        · refine ⟨(if first then [] else [ch ',']) ++ (dumpString key ++ [ch ':']),
            dumpObj false rest, fun v => ?_⟩
          simp [dumpObj]
        · obtain ⟨left, right, framed⟩ := inductionHypothesis false
          refine ⟨(if first then [] else [ch ',']) ++
            (dumpString other ++ (ch ':' :: (dump old ++ left))), right, fun v => ?_⟩
          rw [dumpObj, framed v]
          simp

theorem exists_dump_set (o : Object) (key : String) :
    ∃ left right, ∀ v, dump (.obj (o.set key v)) = left ++ (dump v ++ right) := by
  obtain ⟨left, right, framed⟩ := exists_dumpObj_assign (ascii key) o true
  refine ⟨ch '{' :: left, right ++ [ch '}'], fun v => ?_⟩
  rw [dump, Object.set, framed v]
  simp

end Json

theorem metrics_isEmpty_set (metrics : Json.Object) (key : String) (v : Json.Value) :
    (metrics.set key v).isEmpty = false := by
  unfold Json.Object.set
  cases metrics with
  | nil => rfl
  | cons entry rest =>
      unfold Assoc.assign
      split
      · rfl
      · split <;> rfl

/-- The measured time stands between two texts that do not depend on it. -/
theorem exists_serializeResponseJson_duration (resp : CoreResponse) :
    ∃ left right, ∀ durationMs : Int,
      serializeResponseJson
          { resp with metrics := resp.metrics.set "duration_ms" (number durationMs) } =
        left ++ (Json.dumps (number durationMs) ++ right) := by
  obtain ⟨innerLeft, innerRight, inner⟩ := Json.exists_dump_set resp.metrics "duration_ms"
  obtain ⟨left, right, outer⟩ := Json.exists_dump_set
    (if resp.ok then
      (Json.Object.ofFields [("id", .str resp.id), ("ok", .bool resp.ok)]).set "result" resp.result
    else
      (Json.Object.ofFields [("id", .str resp.id), ("ok", .bool resp.ok)]).set "error"
        (makeError resp.errorCode resp.errorMessage)) "metrics"
  refine ⟨left ++ innerLeft, innerRight ++ right, fun durationMs => ?_⟩
  unfold serializeResponseJson CoreResponse.toJsonObj Json.dumps
  dsimp only
  rw [metrics_isEmpty_set, if_neg Bool.false_ne_true, outer, inner]
  simp

/-! ## The clock of an execution -/

namespace Daemon

open Json (Value Object ch)

variable {σ : Type}

/-- The readings of the clock in an execution of `CoreEngine::handle`. -/
structure Readings where
  /-- The time of day at the first line. -/
  timestamp : Bytes
  pollElapsed : Int
  durationMs : Int

/-- What the handlers read once `CoreEngine::handle` has logged its first line. -/
def surroundingsAt (adminLogs : Bool) (logger : Logger) (clock : Readings) (req : CoreRequest) :
    Surroundings where
  adminLogsEnabled := adminLogs
  recentLogs := (logger.logAtLevel clock.timestamp (handlingLine req)).getRecentLogs 100
  pollElapsed := clock.pollElapsed

/-- `CoreEngine::handle` from a state of the logger and the backend. -/
def handleAt (backend : Backend σ) (adminLogs : Bool) (logger : Logger) (clock : Readings)
    (req : CoreRequest) (snapshot : Snapshot) (old : Option Snapshot) (world : σ) :
    CoreResponse × σ :=
  handle backend (surroundingsAt adminLogs logger clock req) clock.durationMs req snapshot old
    world

/-! ## The time stamp of the first line -/

theorem Logger.exists_getRecentLogs_concat {logger : Logger} {line : LogLevel × Bytes}
    (logs : logger.shouldLog line.1 = true) :
    ∃ before, ∀ timestamp, (logger.logAtLevel timestamp line).getRecentLogs 100 =
      before ++ [⟨line.1, timestamp, line.2⟩] := by
  let kept := if maxLogs < logger.buffer.length + 1 then logger.buffer.tail else logger.buffer
  have buffer : ∀ timestamp, (logger.logAtLevel timestamp line).buffer =
      kept ++ [⟨line.1, timestamp, line.2⟩] := by
    intro timestamp
    unfold logAtLevel log
    rw [if_pos logs]
    dsimp only [kept]
    rw [List.length_append, List.length_singleton]
    split
    · rename_i full
      rw [List.tail_append_of_ne_nil]
      rintro empty
      rw [empty] at full
      exact absurd full (by decide)
    · rfl
  refine ⟨kept.drop (kept.length + 1 - 100), fun timestamp => ?_⟩
  unfold getRecentLogs
  rw [buffer, List.length_append, List.length_singleton]
  split
  · rename_i short
    rw [Nat.sub_eq_zero_of_le short, List.drop_zero]
  · rw [List.drop_append_of_le_length (by omega)]

/-- The text of an integer has no closing brace. -/
theorem brace_notMem_dump_number (n : Int) : ch '}' ∉ Json.dump (number n) := by
  rw [number, Json.dump, Json.dumpNumber_of_isInteger (Double.isInteger_ofInt n)]
  unfold Json.integerText
  intro member
  rcases List.mem_append.mp member with sign | digits
  · split at sign
    · exact absurd sign (by decide)
    · cases sign
  · exact absurd (Json.Parser.isDigit_of_mem_decimal digits) (by decide)

/-- A successful response of `daemon.logs` with its metrics. -/
def logsResponse (logs : List LogMessage) (durationMs : Int) : CoreResponse :=
  { ok := true, result := .arr (logs.map logToJson),
    metrics := Object.set [] "duration_ms" (number durationMs) }

/-- The measured time of such a response ends at the first closing brace behind it. -/
theorem exists_serialize_logsResponse :
    ∃ left middle right, ∀ logs durationMs,
      serializeResponseJson (logsResponse logs durationMs) =
        left ++ (Json.dump (number durationMs) ++
          ch '}' :: (middle ++ (Json.dump (.arr (logs.map logToJson)) ++ right))) := by
  have entries : ∀ logs durationMs, (logsResponse logs durationMs).toJsonObj =
      [(ascii "id", .str []),
        (ascii "metrics", .obj [(ascii "duration_ms", number durationMs)]),
        (ascii "ok", .bool true), (ascii "result", .arr (logs.map logToJson))] := by
    intro logs durationMs
    simp +decide [logsResponse, CoreResponse.toJsonObj, Object.ofFields, Object.set, Assoc.assign]
  refine ⟨ascii "\x7b\"id\":\"\",\"metrics\":\x7b\"duration_ms\":",
    ascii ",\"ok\":true,\"result\":", [ch '}'], fun logs durationMs => ?_⟩
  unfold serializeResponseJson Json.dumps
  rw [entries]
  simp +decide [Json.dump, Json.dumpObj, Json.dumpString, Json.dumpByte, ascii]

theorem logToJson_readable (message : LogMessage) :
    (logToJson message).WellFormed ∧ (logToJson message).NumbersAre Json.Int53 := by
  have level : Json.Int53 (Double.ofInt message.level.toInt) := by
    cases message.level <;> decide +kernel
  constructor
  · apply Json.wellFormed_ofFields
    simp only [List.forall_mem_cons]
    exact ⟨trivial, trivial, trivial, List.forall_mem_nil _⟩
  · apply Json.numbersAre_ofFields
    simp only [List.forall_mem_cons]
    exact ⟨trivial, level, trivial, List.forall_mem_nil _⟩

theorem logs_readable (logs : List LogMessage) :
    (Value.arr (logs.map logToJson)).WellFormed ∧
      (Value.arr (logs.map logToJson)).NumbersAre Json.Int53 := by
  induction logs with
  | nil => exact ⟨trivial, trivial⟩
  | cons message rest inductionHypothesis =>
      have readable := logToJson_readable message
      exact ⟨⟨readable.1, inductionHypothesis.1⟩, readable.2, inductionHypothesis.2⟩

theorem timestamp_of_logToJson_eq {message₁ message₂ : LogMessage}
    (same : logToJson message₁ = logToJson message₂) :
    message₁.timestamp = message₂.timestamp := by
  have stamped : ∀ message : LogMessage,
      Object.get? (Object.ofFields [("timestamp", .str message.timestamp),
        ("level", number message.level.toInt), ("message", .str message.message)]) "timestamp" =
        some (.str message.timestamp) := by
    intro message
    apply Json.get?_ofFields []
    simp only [List.forall_mem_cons]
    exact ⟨by decide, by decide, List.forall_mem_nil _⟩
  have found := stamped message₁
  rw [Value.obj.inj same, stamped message₂] at found
  exact (Value.str.inj (Option.some.inj found)).symm

/-- Two executions that show their own first lines give the same bytes only with the same time
stamps. -/
theorem timestamp_of_serialized_eq {before : List LogMessage} {level : LogLevel}
    {stamp₁ stamp₂ message : Bytes} {duration₁ duration₂ : Int}
    (same : serializeResponseJson (logsResponse (before ++ [⟨level, stamp₁, message⟩]) duration₁) =
      serializeResponseJson (logsResponse (before ++ [⟨level, stamp₂, message⟩]) duration₂)) :
    stamp₁ = stamp₂ := by
  obtain ⟨left, middle, right, framed⟩ := exists_serialize_logsResponse
  rw [framed, framed, List.append_cancel_left_eq] at same
  -- the text of the measured time ends at the same brace in both, and the results are left
  have lengths := congrArg (List.idxOf (ch '}')) same
  rw [List.idxOf_append_of_notMem (brace_notMem_dump_number duration₁),
    List.idxOf_append_of_notMem (brace_notMem_dump_number duration₂), List.idxOf_cons_self,
    List.idxOf_cons_self] at lengths
  have results := (List.cons.inj (List.append_inj_right same lengths)).2
  rw [List.append_cancel_left_eq, List.append_cancel_right_eq] at results
  have readable₁ := logs_readable (before ++ [⟨level, stamp₁, message⟩])
  have readable₂ := logs_readable (before ++ [⟨level, stamp₂, message⟩])
  have values := Value.arr.inj
    (Json.eq_of_dumps_eq readable₁.1 readable₂.1 readable₁.2 readable₂.2 results)
  rw [List.map_append, List.map_append, List.append_cancel_left_eq] at values
  exact timestamp_of_logToJson_eq (List.cons.inj values).1

/-! ## Two executions -/

variable (backend : Backend σ) {req : CoreRequest}

/-- The handlers read the logs only to show them, and the waiting time not at all. -/
theorem handleBody_congr (env₁ env₂ : Surroundings)
    (admin : env₂.adminLogsEnabled = env₁.adminLogsEnabled)
    (logs : showsLogs env₁.adminLogsEnabled req → env₂.recentLogs = env₁.recentLogs)
    (snap : Snapshot) (old : Option Snapshot) (world : σ) :
    handleBody backend env₂ req snap old world = handleBody backend env₁ req snap old world := by
  unfold handleBody
  cases found : dispatch req.method with
  | none => rfl
  | some handler =>
      obtain ⟨name, member, named⟩ := mem_dispatchTable_of_dispatch found
      have same : SameCall req req := ⟨rfl, rfl, fun _ _ => rfl⟩
      have responses : ∀ args answer,
          handler.respond env₂ req args answer = handler.respond env₁ req args answer := by
        rcases respond_congr _ member with showing | responses
        · cases showing
          intro args answer
          simp only [daemonLogs, admin]
          split
          · rename_i enabled
            rw [logs ⟨enabled, named.symm⟩]
          · rfl
        · exact responses env₁ env₂ rfl
      dsimp only
      rw [program_sameCall member same responses]

/-- `daemon.logs` shows the line its own execution has logged. -/
theorem handleAt_of_showsLogs {adminLogs : Bool} {logger : Logger}
    (shows : showsLogs adminLogs req) (debug : logger.shouldLog .debug = true) (snap : Snapshot)
    (old : Option Snapshot) (world : σ) :
    ∃ before, ∀ clock, (handleAt backend adminLogs logger clock req snap old world).1 =
      logsResponse (before ++ [⟨.debug, clock.timestamp, (handlingLine req).2⟩])
        clock.durationMs := by
  have found : dispatch (ascii "daemon.logs") = some daemonLogs :=
    dispatch_of_mem (by simp [dispatchTable])
  have lines : ∃ before, ∀ timestamp,
      (logger.logAtLevel timestamp (handlingLine req)).getRecentLogs 100 =
        before ++ [⟨.debug, timestamp, (handlingLine req).2⟩] :=
    Logger.exists_getRecentLogs_concat debug
  obtain ⟨before, lines⟩ := lines
  refine ⟨before, fun clock => ?_⟩
  rw [← lines]
  unfold handleAt handle handleBody
  rw [shows.2, found]
  dsimp only
  rw [run_daemonLogs]
  simp only [daemonLogs, surroundingsAt, shows.1]
  rfl

/-- Two executions from one state of the logger and the backend, under any readings of the
clock, give the same bytes exactly when the times they measure are printed alike and their
first lines, where the response shows them, have the same time stamp. -/
theorem serialized_handleAt_eq_iff (backend : Backend σ) (adminLogs : Bool) (logger : Logger)
    (clock₁ clock₂ : Readings) (req : CoreRequest) (snap : Snapshot) (old : Option Snapshot)
    (world : σ) :
    serializeResponseJson (handleAt backend adminLogs logger clock₁ req snap old world).1 =
        serializeResponseJson (handleAt backend adminLogs logger clock₂ req snap old world).1 ↔
      Json.dumps (number clock₁.durationMs) = Json.dumps (number clock₂.durationMs) ∧
        (showsLogs adminLogs req → logger.shouldLog .debug = true →
          clock₁.timestamp = clock₂.timestamp) := by
  by_cases stamps : showsLogs adminLogs req → logger.shouldLog .debug = true →
      clock₁.timestamp = clock₂.timestamp
  · have logs : showsLogs adminLogs req →
        (surroundingsAt adminLogs logger clock₁ req).recentLogs =
          (surroundingsAt adminLogs logger clock₂ req).recentLogs := by
      intro shows
      unfold surroundingsAt Logger.logAtLevel
      dsimp only
      split
      · rename_i debug
        rw [stamps shows debug]
      · rfl
    have bodies := handleBody_congr backend (surroundingsAt adminLogs logger clock₂ req)
      (surroundingsAt adminLogs logger clock₁ req) rfl logs snap old world
    unfold handleAt handle
    rw [bodies, and_iff_left stamps]
    obtain ⟨left, right, framed⟩ := exists_serializeResponseJson_duration
      (handleBody backend (surroundingsAt adminLogs logger clock₂ req) req snap old world).1
    dsimp only
    rw [framed, framed, List.append_cancel_left_eq, List.append_cancel_right_eq]
  · refine iff_of_false ?_ fun both => stamps both.2
    intro same
    apply stamps
    intro shows debug
    obtain ⟨before, responses⟩ := handleAt_of_showsLogs backend shows debug snap old world
    rw [responses, responses] at same
    exact timestamp_of_serialized_eq same

/-- A canonical request for the top-level windows. -/
def canonicalRequest : CoreRequest where
  id := ascii "1"
  method := ascii "window.listTop"
  params := Json.Object.ofFields [("canonical", .bool true)]

/-- The same canonical request takes no time in one execution and a millisecond in another. -/
theorem canonical_bytes_differ :
    getBool canonicalRequest.params "canonical" = some true ∧
      serializeResponseJson
          (handleAt Fake.fakeBackend false {} ⟨[], 0, 0⟩ canonicalRequest ⟨[]⟩ none {}).1 ≠
        serializeResponseJson
          (handleAt Fake.fakeBackend false {} ⟨[], 0, 1⟩ canonicalRequest ⟨[]⟩ none {}).1 := by
  decide +kernel

end Daemon

end WinInspect
