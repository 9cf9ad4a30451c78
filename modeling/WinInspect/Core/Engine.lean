import WinInspect.Core.Dispatch
import Mathlib.Tactic.FinCases

/-!
# The engine

`CoreEngine::handle`, and what its response's `id` is.  The response starts with
the request's `id`, but a handler that returns replaces the whole response; only
the handler of `events.poll` fills the `id` of the one it returns.
-/

namespace WinInspect

open Effect (Program)

variable {σ : Type}

/-- The response of `handle` to an exception. -/
def badRequest (id what : Bytes) : CoreResponse :=
  { id := id, ok := false, errorCode := ascii "E_BAD_REQUEST", errorMessage := what }

/-- The response of `handle` to a method that is not in the table. -/
def badMethod (id : Bytes) : CoreResponse :=
  { id := id, ok := false, errorCode := ascii "E_BAD_METHOD",
    errorMessage := ascii "method not implemented in core" }

/-- The response of a handler, or the one its exception is caught with. -/
def respondOrCatch (id : Bytes) : Except Bytes CoreResponse → CoreResponse
  | .ok resp => resp
  | .error what => badRequest id what

/-- The `try` block of `CoreEngine::handle`. -/
def handleBody (backend : Backend σ) (env : Surroundings) (req : CoreRequest)
    (snapshot : Snapshot) (old : Option Snapshot) (world : σ) : CoreResponse × σ :=
  match dispatch req.method with
  | none => (badMethod req.id, world)
  | some handler =>
      let ran := (handler.program env req snapshot old).run backend world
      (respondOrCatch req.id ran.1, ran.2)

/-- `CoreEngine::handle`; `durationMs` is the time it measures. -/
def handle (backend : Backend σ) (env : Surroundings) (durationMs : Int) (req : CoreRequest)
    (snapshot : Snapshot) (old : Option Snapshot) (world : σ) : CoreResponse × σ :=
  let done := handleBody backend env req snapshot old world
  ({ done.1 with metrics := done.1.metrics.set "duration_ms" (number durationMs) }, done.2)

@[simp]
theorem handle_id (backend : Backend σ) (env : Surroundings) (durationMs : Int)
    (req : CoreRequest) (snapshot : Snapshot) (old : Option Snapshot) (world : σ) :
    (handle backend env durationMs req snapshot old world).1.id =
      (handleBody backend env req snapshot old world).1.id :=
  rfl

/-! ## The table -/

theorem mem_dispatchTable_of_dispatch {method : Bytes} {handler : Handler}
    (found : dispatch method = some handler) :
    ∃ name, (name, handler) ∈ dispatchTable ∧ ascii name = method := by
  unfold dispatch at found
  rw [Option.map_eq_some_iff] at found
  obtain ⟨⟨name, _⟩, entryFound, rfl⟩ := found
  exact ⟨name, List.mem_of_find?_eq_some entryFound, by simpa using List.find?_some entryFound⟩

theorem nodup_methods : (dispatchTable.map fun entry => ascii entry.1).Nodup := by
  decide +kernel

/-- Every handler of the table is found under its name. -/
theorem dispatch_of_mem {name : String} {handler : Handler}
    (member : (name, handler) ∈ dispatchTable) : dispatch (ascii name) = some handler := by
  unfold dispatch
  cases found : dispatchTable.find? fun entry => ascii entry.1 = ascii name with
  | none => exact absurd (List.find?_eq_none.mp found _ member) (by simp)
  | some entry =>
      have same : ascii entry.1 = ascii name := by simpa using List.find?_some found
      rw [List.inj_on_of_nodup_map nodup_methods (List.mem_of_find?_eq_some found) member same]
      rfl

/-- The ways a handler other than that of `events.poll` builds its result. -/
inductive Built : Except Bytes CoreResponse → Prop
  | ok (result : Json.Value) : Built (okWith result)
  | fail {code : String} (message : String)
      (own : code ∈ ["", "E_BAD_HWND", "E_NOT_FOUND", "E_READ_FAILED", "E_ACCESS_DENIED"]) :
      Built (failWith code message)
  | notOk (result : Json.Value) : Built (.ok { ok := false, result := result })
  | raised (what : Bytes) : Built (.error what)

theorem built_downloadUpdate (env : Surroundings) (req : CoreRequest) (args : Bytes × Bytes)
    (path : Bytes) : Built (daemonDownloadUpdate.respond env req args path) := by
  cases path with
  | nil => exact .notOk _
  | cons c rest => exact .ok _

theorem built_logs (env : Surroundings) (req : CoreRequest) (args answer : Unit) :
    Built (daemonLogs.respond env req args answer) := by
  unfold daemonLogs
  dsimp only
  split
  · exact .ok _
  · exact .fail _ (by simp)

theorem built_respond :
    ∀ entry ∈ dispatchTable, entry.1 = "events.poll" ∨
      ∀ env req args answer, Built (entry.2.respond env req args answer) := by
  intro entry member
  fin_cases member
  · exact Or.inl rfl
  all_goals refine Or.inr fun env req args answer => ?_
  all_goals
    first
    | exact .ok _
    | exact built_downloadUpdate env req args answer
    | exact built_logs env req args answer
    | cases answer <;>
        first
        | exact .ok _
        | exact .fail _ (by simp)
        | exact .raised _

/-- A result of a handler whose response does not carry an `id`. -/
def Anonymous (result : Except Bytes CoreResponse) : Prop :=
  ∀ resp, result = .ok resp → resp.id = []

/-- Every handler but that of `events.poll` leaves the `id` of its response empty. -/
theorem Built.anonymous {result : Except Bytes CoreResponse} (built : Built result) :
    Anonymous result := by
  intro resp responded
  cases built <;> cases responded <;> rfl

theorem Built.errorCode {result : Except Bytes CoreResponse} (built : Built result)
    {resp : CoreResponse} (responded : result = .ok resp) :
    resp.errorCode ≠ ascii "E_BAD_METHOD" := by
  have none : ([] : Bytes) ≠ ascii "E_BAD_METHOD" := by decide
  cases built with
  | ok => cases responded; exact none
  | notOk => cases responded; exact none
  | raised => cases responded
  | @fail code message own =>
      cases responded
      have others : ∀ code ∈ ["", "E_BAD_HWND", "E_NOT_FOUND", "E_READ_FAILED",
          "E_ACCESS_DENIED"], ascii code ≠ ascii "E_BAD_METHOD" := by decide
      exact others code own

/-- The handler of `events.poll` copies the `id` and has no error. -/
theorem eventsPoll_respond_fields {env : Surroundings} {req : CoreRequest} {args answer}
    {resp : CoreResponse} (responded : eventsPoll.respond env req args answer = .ok resp) :
    resp.id = req.id ∧ resp.errorCode = [] := by
  unfold eventsPoll at responded
  dsimp only at responded
  split at responded <;> cases responded <;> exact ⟨rfl, rfl⟩

/-! ## The `id` of a response -/

/-- The handler gets to its `return`: the parameters pass its checks, the backend
answers, and the answer is not turned into an exception. -/
def Handler.Returns (handler : Handler) (backend : Backend σ) (env : Surroundings)
    (req : CoreRequest) (snapshot : Snapshot) (old : Option Snapshot) (world : σ) : Prop :=
  ∃ args answer after resp, handler.args req old = .ok args ∧
    (handler.query snapshot args).run backend world = (.ok answer, after) ∧
    handler.respond env req args answer = .ok resp

theorem Handler.run_program_ok_iff {handler : Handler} {backend : Backend σ} {env : Surroundings}
    {req : CoreRequest} {snapshot : Snapshot} {old : Option Snapshot} {world after : σ}
    {resp : CoreResponse} :
    (handler.program env req snapshot old).run backend world = (.ok resp, after) ↔
      ∃ args answer, handler.args req old = .ok args ∧
        (handler.query snapshot args).run backend world = (.ok answer, after) ∧
        handler.respond env req args answer = .ok resp := by
  unfold Handler.program
  simp only [Program.run_bind_ok_iff, Program.run_ofExcept, Prod.mk.injEq]
  constructor
  · rintro ⟨args, _, ⟨accepted, rfl⟩, answer, _, answered, responded, rfl⟩
    exact ⟨args, answer, accepted, answered, responded⟩
  · rintro ⟨args, answer, accepted, answered, responded⟩
    exact ⟨args, world, ⟨accepted, rfl⟩, answer, after, answered, responded, rfl⟩

/-- What a handler that returns leaves in the `id`. -/
theorem id_of_returned {method : Bytes} {handler : Handler} (found : dispatch method = some handler)
    {env : Surroundings} {req : CoreRequest} {args answer} {resp : CoreResponse}
    (responded : handler.respond env req args answer = .ok resp) :
    resp.id = if method = ascii "events.poll" then req.id else [] := by
  obtain ⟨name, member, rfl⟩ := mem_dispatchTable_of_dispatch found
  rcases built_respond _ member with poll | built
  · subst poll
    cases found
    rw [if_pos rfl]
    exact (eventsPoll_respond_fields responded).1
  · split
    · rename_i poll
      rw [poll] at found
      cases found
      exact (eventsPoll_respond_fields responded).1
    · exact (built env req args answer).anonymous resp responded

/-- When the `id` of the request survives: it is the default, the method is the one
whose handler copies it, or no handler returns. -/
def IdSurvives (backend : Backend σ) (env : Surroundings) (req : CoreRequest)
    (snapshot : Snapshot) (old : Option Snapshot) (world : σ) : Prop :=
  req.id = [] ∨ req.method = ascii "events.poll" ∨
    ∀ handler, dispatch req.method = some handler →
      ¬ handler.Returns backend env req snapshot old world

/-- The response carries the request's `id` exactly when `IdSurvives` holds. -/
theorem handleBody_id_iff (backend : Backend σ) (env : Surroundings) (req : CoreRequest)
    (snapshot : Snapshot) (old : Option Snapshot) (world : σ) :
    (handleBody backend env req snapshot old world).1.id = req.id ↔
      IdSurvives backend env req snapshot old world := by
  unfold handleBody IdSurvives
  cases found : dispatch req.method with
  | none => simp [badMethod]
  | some handler =>
      rcases ran : (handler.program env req snapshot old).run backend world with
        ⟨what | resp, after⟩
      · have stops : ¬ handler.Returns backend env req snapshot old world := by
          rintro ⟨args, answer, middle, resp, accepted, answered, responded⟩
          have returned :=
            Handler.run_program_ok_iff.mpr ⟨args, answer, accepted, answered, responded⟩
          rw [ran] at returned
          cases returned
        simp [ran, respondOrCatch, badRequest, stops]
      · obtain ⟨args, answer, accepted, answered, responded⟩ := Handler.run_program_ok_iff.mp ran
        have returns : handler.Returns backend env req snapshot old world :=
          ⟨args, answer, after, resp, accepted, answered, responded⟩
        have idEq := id_of_returned found responded
        by_cases poll : req.method = ascii "events.poll"
        · simp [ran, respondOrCatch, idEq, poll]
        · simp [ran, respondOrCatch, idEq, poll, returns, eq_comm]

/-! ## The method of a request -/

theorem errorCode_of_returned {method : Bytes} {handler : Handler}
    (found : dispatch method = some handler) {env : Surroundings} {req : CoreRequest} {args answer}
    {resp : CoreResponse} (responded : handler.respond env req args answer = .ok resp) :
    resp.errorCode ≠ ascii "E_BAD_METHOD" := by
  obtain ⟨name, member, rfl⟩ := mem_dispatchTable_of_dispatch found
  rcases built_respond _ member with poll | built
  · subst poll
    cases found
    rw [(eventsPoll_respond_fields responded).2]
    decide
  · exact (built env req args answer).errorCode responded

/-- A method is answered as a bad one exactly when the table does not have it. -/
theorem handle_badMethod_iff (backend : Backend σ) (env : Surroundings) (durationMs : Int)
    (req : CoreRequest) (snapshot : Snapshot) (old : Option Snapshot) (world : σ) :
    (handle backend env durationMs req snapshot old world).1.errorCode = ascii "E_BAD_METHOD" ↔
      dispatch req.method = none := by
  change (handleBody backend env req snapshot old world).1.errorCode = _ ↔ _
  unfold handleBody
  cases found : dispatch req.method with
  | none => exact iff_of_true rfl rfl
  | some handler =>
      refine iff_of_false ?_ nofun
      rcases ran : (handler.program env req snapshot old).run backend world with
        ⟨what | resp, after⟩
      · dsimp only
        rw [ran]
        exact (by decide : ascii "E_BAD_REQUEST" ≠ ascii "E_BAD_METHOD")
      · obtain ⟨args, answer, _, _, responded⟩ := Handler.run_program_ok_iff.mp ran
        dsimp only
        rw [ran]
        exact errorCode_of_returned found responded

end WinInspect
