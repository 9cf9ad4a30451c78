import WinInspect.Core.Events

/-!
# What the engine reads

The engine reads no parameter that names a snapshot: the daemon looks the snapshots up and
hands them over.  What it takes from outside the request, the snapshots and the backend
shows in the metrics of its response, and in the result of `daemon.logs` when the logs are
enabled.
-/

namespace WinInspect

/-- The parameters that name snapshots. -/
def namesSnapshot (key : String) : Prop :=
  ascii key = ascii "snapshot_id" ∨ ascii key = ascii "old_snapshot_id"

instance (key : String) : Decidable (namesSnapshot key) :=
  inferInstanceAs (Decidable (_ ∨ _))

/-- Requests for the same call of the engine. -/
structure SameCall (req₁ req₂ : CoreRequest) : Prop where
  id : req₂.id = req₁.id
  method : req₂.method = req₁.method
  params : ∀ key : String, ¬ namesSnapshot key → req₂.params.get? key = req₁.params.get? key

namespace SameCall

variable {req₁ req₂ : CoreRequest} (same : SameCall req₁ req₂)

include same

theorem getStr_eq (key : String) (plain : ¬ namesSnapshot key) :
    getStr req₂.params key = getStr req₁.params key := by
  unfold getStr
  rw [same.params key plain]

theorem getBool_eq (key : String) (plain : ¬ namesSnapshot key) :
    getBool req₂.params key = getBool req₁.params key := by
  unfold getBool
  rw [same.params key plain]

theorem getNum_eq (key : String) (plain : ¬ namesSnapshot key) :
    getNum req₂.params key = getNum req₁.params key := by
  unfold getNum
  rw [same.params key plain]

theorem getInt_eq (key : String) (plain : ¬ namesSnapshot key) :
    getInt req₂.params key = getInt req₁.params key := by
  unfold getInt
  rw [same.getNum_eq key plain]

end SameCall

/-- No handler reads the name of a snapshot. -/
theorem args_sameCall :
    ∀ entry ∈ dispatchTable, ∀ ⦃req₁ req₂⦄, SameCall req₁ req₂ → ∀ old,
      entry.2.args req₂ old = entry.2.args req₁ old := by
  intro entry member req₁ req₂ same old
  have str := same.getStr_eq
  have bool := same.getBool_eq
  have num := same.getNum_eq
  have int := same.getInt_eq
  fin_cases member
  all_goals
    simp (disch := decide +kernel) only [eventsPoll, sessionTerminate, windowListTop,
      windowListChildren,
      windowGetTree, windowHighlight, windowGetInfo, windowPickAtPoint, windowEnsureVisible,
      windowEnsureForeground, windowSetProperty, windowPostMessage, inputSend, inputMouseClick,
      inputKeyPress, inputText, windowControlClick, windowControlSend, screenGetPixel,
      screenCapture, screenPixelSearch, processList, processKill, fileGetInfo, fileRead,
      clipboardRead, clipboardWrite, serviceList, serviceStatus, serviceControl, envGet, envSet,
      wineDrives, wineOverrides, syncCheckMutex, syncCreateMutex, memRead, memWrite, imageMatch,
      inputHook, windowFindRegex, regRead, regWrite, regDelete, uiInspect, uiInvoke, daemonHealth,
      daemonCapabilities, daemonCheckUpdate, daemonDownloadUpdate, daemonLogs, noArgs, hwndArg,
      strArg, strArgs2, pointArg, getRect, getByte, getIntOr0, str, bool, num, int]

/-- The response of every handler but that of `daemon.logs` is a function of the `id` and of
the backend's answer. -/
theorem respond_congr :
    ∀ entry ∈ dispatchTable, entry = ("daemon.logs", daemonLogs) ∨
      ∀ env₁ env₂ ⦃req₁ req₂ : CoreRequest⦄, req₂.id = req₁.id → ∀ args answer,
        entry.2.respond env₂ req₂ args answer = entry.2.respond env₁ req₁ args answer := by
  intro entry member
  fin_cases member
  · apply Or.inr
    intro env₁ env₂ req₁ req₂ same args events
    have first := eventsPoll_respond env₁ req₁ args events
    have second := eventsPoll_respond env₂ req₂ args events
    have reports : pollResponse req₂ events = pollResponse req₁ events := by
      unfold pollResponse
      rw [same]
    rw [reports] at second
    exact second.trans first.symm
  all_goals
    first
    | exact Or.inr fun _ _ _ _ _ _ _ => rfl
    | exact Or.inl rfl

/-! ## The engine -/

/-- A request that is answered with the recent logs. -/
def showsLogs (adminLogs : Bool) (req : CoreRequest) : Prop :=
  adminLogs = true ∧ req.method = ascii "daemon.logs"

/-- Responses that agree in everything but the result and the metrics. -/
structure SameStatus (resp₁ resp₂ : CoreResponse) : Prop where
  id : resp₂.id = resp₁.id
  ok : resp₂.ok = resp₁.ok
  errorCode : resp₂.errorCode = resp₁.errorCode
  errorMessage : resp₂.errorMessage = resp₁.errorMessage

section

variable {σ : Type} {req₁ req₂ : CoreRequest} {env₁ env₂ : Surroundings}

theorem program_sameCall {handler : Handler} {name : String}
    (member : (name, handler) ∈ dispatchTable) (same : SameCall req₁ req₂)
    (responses : ∀ args answer,
      handler.respond env₂ req₂ args answer = handler.respond env₁ req₁ args answer)
    (snap : Snapshot) (old : Option Snapshot) :
    handler.program env₂ req₂ snap old = handler.program env₁ req₁ snap old := by
  unfold Handler.program
  rw [args_sameCall _ member same old]
  congr 1
  funext args
  congr 1
  funext answer
  rw [responses]

/-- The program of `daemon.logs` leaves the world alone. -/
theorem run_daemonLogs (backend : Backend σ) (env : Surroundings) (req : CoreRequest)
    (snap : Snapshot) (old : Option Snapshot) (world : σ) :
    (daemonLogs.program env req snap old).run backend world =
      (daemonLogs.respond env req () (), world) :=
  Effect.Program.run_ofExcept backend (daemonLogs.respond env req () ()) world

/-- The same call has the same effect, and the same answer unless it shows the logs. -/
theorem handle_sameCall (backend : Backend σ) (same : SameCall req₁ req₂)
    (env₁ env₂ : Surroundings) (admin : env₂.adminLogsEnabled = env₁.adminLogsEnabled)
    (duration₁ duration₂ : Int) (snap : Snapshot) (old : Option Snapshot) (world : σ) :
    (handle backend env₂ duration₂ req₂ snap old world).2 =
        (handle backend env₁ duration₁ req₁ snap old world).2 ∧
      SameStatus (handle backend env₁ duration₁ req₁ snap old world).1
        (handle backend env₂ duration₂ req₂ snap old world).1 ∧
      ((handle backend env₂ duration₂ req₂ snap old world).1.result =
          (handle backend env₁ duration₁ req₁ snap old world).1.result ∨
        showsLogs env₁.adminLogsEnabled req₁) := by
  unfold handle handleBody
  rw [same.method, same.id]
  cases found : dispatch req₁.method with
  | none => exact ⟨rfl, ⟨rfl, rfl, rfl, rfl⟩, Or.inl rfl⟩
  | some handler =>
      obtain ⟨name, member, named⟩ := mem_dispatchTable_of_dispatch found
      dsimp only
      rcases respond_congr _ member with logs | responses
      · cases logs
        rw [run_daemonLogs, run_daemonLogs]
        simp only [daemonLogs, admin]
        cases enabled : env₁.adminLogsEnabled with
        | true => exact ⟨trivial, ⟨rfl, rfl, rfl, rfl⟩, Or.inr ⟨rfl, named.symm⟩⟩
        | false => exact ⟨trivial, ⟨rfl, rfl, rfl, rfl⟩, Or.inl rfl⟩
      · rw [program_sameCall member same (responses env₁ env₂ same.id)]
        exact ⟨rfl, ⟨rfl, rfl, rfl, rfl⟩, Or.inl rfl⟩

end

end WinInspect
