import WinInspect.Core.Mutation
import WinInspect.Transition.Core

/-!
# Desired-state actions

`window.ensureVisible` and `window.ensureForeground` ask for a state of the windows.  Once it
is reached, only a request for another state of the same kind leads away from it, and the
action that asked for it has nothing left to do.
-/

namespace WinInspect.Fake

open Effect (Program)

/-- A state of the windows that a request can ask for. -/
inductive Desired where
  | visible (hwnd : HwndU64) (shown : Bool)
  | foreground (hwnd : HwndU64)

namespace Desired

/-- The call of the backend that brings the state about. -/
def ensure (s : FakeState) : Desired → Bool × FakeState
  | .visible hwnd shown => s.ensureVisible hwnd shown
  | .foreground hwnd => s.ensureForeground hwnd

/-- The state is as desired.  A window that does not exist is not waited for. -/
def Met (s : FakeState) : Desired → Prop
  | .visible hwnd shown => ∀ fw, Assoc.find hwnd s.w = some fw → fw.visible = shown
  | .foreground hwnd => s.foreground = hwnd

/-- The second state concerns what the first one does: the visibility of the same window, or
the foreground for another window. -/
def Opposed : Desired → Desired → Prop
  | .visible hwnd _, .visible other _ => other = hwnd
  | .foreground hwnd, .foreground other => other ≠ hwnd
  | _, _ => False

theorem met_ensure (s : FakeState) (goal : Desired) : goal.Met (goal.ensure s).2 := by
  cases goal with
  | visible hwnd shown =>
      intro fw found
      simp only [ensure, FakeState.ensureVisible] at found
      cases before : Assoc.find hwnd s.w with
      | none =>
          rw [before] at found
          rw [before] at found
          cases found
      | some old =>
          rw [before] at found
          rw [Assoc.find_assign_self] at found
          cases found
          rfl
  | foreground hwnd => rfl

theorem ensure_of_met {s : FakeState} {goal : Desired} (met : goal.Met s) :
    goal.ensure s = (false, s) := by
  cases goal with
  | visible hwnd shown =>
      have same : (s.ensureVisible hwnd shown).2 = s := by
        rw [ensureVisible_state_iff]
        rintro ⟨fw, found, different⟩
        exact different (met fw found)
      have unchanged : (s.ensureVisible hwnd shown).1 = false := by
        unfold FakeState.ensureVisible
        cases found : Assoc.find hwnd s.w with
        | none => rfl
        | some fw => simp [met fw found]
      exact Prod.ext unchanged same
  | foreground hwnd =>
      cases met
      simp [ensure, FakeState.ensureForeground]

theorem Met.congr {s t : FakeState} {goal : Desired} (met : goal.Met s) (windows : t.w = s.w)
    (front : t.foreground = s.foreground) : goal.Met t := by
  cases goal with
  | visible hwnd shown =>
      intro fw found
      rw [windows] at found
      exact met fw found
  | foreground hwnd => exact front.trans met

theorem ensureVisible_foreground (s : FakeState) (hwnd : HwndU64) (shown : Bool) :
    (s.ensureVisible hwnd shown).2.foreground = s.foreground := by
  unfold FakeState.ensureVisible
  split <;> rfl

theorem find_ensureVisible_of_ne (s : FakeState) {hwnd other : HwndU64} (shown : Bool)
    (different : other ≠ hwnd) :
    Assoc.find other (s.ensureVisible hwnd shown).2.w = Assoc.find other s.w := by
  unfold FakeState.ensureVisible
  split
  · rfl
  · exact Assoc.find_assign_of_ne different _ _

/-- A state stays as desired when another one is brought about that is not opposed to it. -/
theorem Met.ensure {s : FakeState} {goal other : Desired} (met : goal.Met s)
    (compatible : ¬goal.Opposed other) : goal.Met (other.ensure s).2 := by
  cases goal with
  | visible hwnd shown =>
      cases other with
      | visible hwnd' shown' =>
          intro fw found
          change Assoc.find hwnd (s.ensureVisible hwnd' shown').2.w = some fw at found
          rw [find_ensureVisible_of_ne s shown' (Ne.symm compatible)] at found
          exact met fw found
      | foreground hwnd' => exact met
  | foreground hwnd =>
      cases other with
      | visible hwnd' shown' => exact (ensureVisible_foreground s hwnd' shown').trans met
      | foreground hwnd' => exact not_not.mp compatible

end Desired

/-! ## Requests -/

/-- A request asks for a state, by its parsed parameters. -/
inductive Asks (req : CoreRequest) : Desired → Prop
  | visible {hwnd : HwndU64} {shown : Bool} (method : req.method = ascii "window.ensureVisible")
      (accepted : windowEnsureVisible.args req none = .ok (hwnd, shown)) :
      Asks req (.visible hwnd shown)
  | foreground {hwnd : HwndU64} (method : req.method = ascii "window.ensureForeground")
      (accepted : windowEnsureForeground.args req none = .ok hwnd) : Asks req (.foreground hwnd)

/-- The second request asks for a state that is opposed to that of the first. -/
def Opposes (first second : CoreRequest) : Prop :=
  ∃ goal other, Asks first goal ∧ Asks second other ∧ goal.Opposed other

/-- A request, with all the engine reads besides the backend. -/
structure EngineCall where
  req : CoreRequest
  env : Surroundings := { adminLogsEnabled := false, recentLogs := [], pollElapsed := 0 }
  durationMs : Int := 0
  snap : Snapshot := ⟨[]⟩
  old : Option Snapshot := none

/-- The engine over the fake backend. -/
def EngineCall.run (call : EngineCall) (s : FakeState) : CoreResponse × FakeState :=
  handle fakeBackend call.env call.durationMs call.req call.snap call.old s

/-- The engine handles one request after the other. -/
def engine : Transition.Step FakeState EngineCall :=
  fun s call => some (call.run s).2

theorem run_asks {call : EngineCall} {goal : Desired} (asks : Asks call.req goal)
    (s : FakeState) :
    (call.run s).1.ok = true ∧ (call.run s).1.result = changedJson (goal.ensure s).1 ∧
      (call.run s).2 = (goal.ensure s).2 := by
  obtain ⟨req, env, durationMs, snap, old⟩ := call
  unfold EngineCall.run handle handleBody
  cases asks with
  | @visible hwnd shown method accepted =>
      have ran : (windowEnsureVisible.program env req snap old).run fakeBackend s =
          (okWith (changedJson (s.ensureVisible hwnd shown).1),
            (s.ensureVisible hwnd shown).2) :=
        Handler.run_program_ok_iff.mpr ⟨(hwnd, shown), _, accepted, rfl, rfl⟩
      rw [method, dispatch_ensureVisible]
      dsimp only
      rw [ran]
      exact ⟨rfl, rfl, rfl⟩
  | @foreground hwnd method accepted =>
      have ran : (windowEnsureForeground.program env req snap old).run fakeBackend s =
          (okWith (changedJson (s.ensureForeground hwnd).1), (s.ensureForeground hwnd).2) :=
        Handler.run_program_ok_iff.mpr ⟨hwnd, _, accepted, rfl, rfl⟩
      rw [method, dispatch_ensureForeground]
      dsimp only
      rw [ran]
      exact ⟨rfl, rfl, rfl⟩

/-- The calls of the other handlers leave the windows and the foreground alone. -/
theorem query_windows : ∀ entry ∈ dispatchTable,
    entry = ("window.ensureVisible", windowEnsureVisible) ∨
    entry = ("window.ensureForeground", windowEnsureForeground) ∨
    ∀ snap args s, ((entry.2.query snap args).run fakeBackend s).2.w = s.w ∧
      ((entry.2.query snap args).run fakeBackend s).2.foreground = s.foreground := by
  intro entry member
  fin_cases member
  all_goals
    first
    | exact Or.inl rfl
    | exact Or.inr (Or.inl rfl)
    | exact Or.inr (Or.inr fun snap args s => ⟨rfl, rfl⟩)

/-- A request asks for a state, or leaves the windows and the foreground alone. -/
theorem run_cases (call : EngineCall) (s : FakeState) :
    (∃ goal, Asks call.req goal) ∨
      ((call.run s).2.w = s.w ∧ (call.run s).2.foreground = s.foreground) := by
  obtain ⟨req, env, durationMs, snap, old⟩ := call
  unfold EngineCall.run handle handleBody
  dsimp only
  cases found : dispatch req.method with
  | none => exact Or.inr ⟨rfl, rfl⟩
  | some handler =>
      dsimp only
      cases accepted : handler.args req old with
      | error what =>
          rw [program_state_of_rejected accepted]
          exact Or.inr ⟨rfl, rfl⟩
      | ok args =>
          rw [program_state_of_accepted accepted]
          obtain ⟨name, member, named⟩ := mem_dispatchTable_of_dispatch found
          rcases query_windows _ member with entry | entry | keeps
          · cases entry
            exact Or.inl ⟨_, .visible named.symm accepted⟩
          · cases entry
            exact Or.inl ⟨_, .foreground named.symm accepted⟩
          · exact Or.inr (keeps snap args s)

/-- A request that does not oppose a state keeps it. -/
theorem Desired.Met.run {s : FakeState} {goal : Desired} {first : CoreRequest} {call : EngineCall}
    (met : goal.Met s) (asks : Asks first goal) (compatible : ¬Opposes first call.req) :
    goal.Met (call.run s).2 := by
  rcases run_cases call s with ⟨other, asksOther⟩ | ⟨windows, front⟩
  · rw [(run_asks asksOther s).2.2]
    apply met.ensure
    intro opposed
    exact compatible ⟨goal, other, asks, asksOther, opposed⟩
  · exact met.congr windows front

/-- An ok answer of the two actions is an answer to parameters that were accepted. -/
theorem asks_of_ok {call : EngineCall} {s : FakeState}
    (desires : call.req.method = ascii "window.ensureVisible" ∨
      call.req.method = ascii "window.ensureForeground")
    (ok : (call.run s).1.ok = true) : ∃ goal, Asks call.req goal := by
  obtain ⟨req, env, durationMs, snap, old⟩ := call
  unfold EngineCall.run handle handleBody at ok
  dsimp only at desires ok
  rcases desires with method | method
  · rw [method, dispatch_ensureVisible] at ok
    cases accepted : windowEnsureVisible.args req old with
    | ok args => exact ⟨_, .visible method accepted⟩
    | error what =>
        dsimp only at ok
        unfold Handler.program at ok
        rw [accepted] at ok
        cases ok
  · rw [method, dispatch_ensureForeground] at ok
    cases accepted : windowEnsureForeground.args req old with
    | ok args => exact ⟨_, .foreground method accepted⟩
    | error what =>
        dsimp only at ok
        unfold Handler.program at ok
        rw [accepted] at ok
        cases ok

/-- A desired state stays as it is: after an ok `window.ensureVisible` or
`window.ensureForeground`, and any requests that do not ask for the visibility of the same
window or for another foreground window, the same request answers that nothing has changed,
and changes nothing. -/
theorem desired_converged (first again : EngineCall) (s : FakeState) {t : FakeState}
    (desires : first.req.method = ascii "window.ensureVisible" ∨
      first.req.method = ascii "window.ensureForeground")
    (ok : (first.run s).1.ok = true)
    (run : Transition.Steps engine (fun _ call => ¬Opposes first.req call.req) (first.run s).2 t)
    (repeats : again.req = first.req) :
    (again.run t).1.ok = true ∧ (again.run t).1.result = changedJson false ∧
      (again.run t).2.w = t.w ∧ (again.run t).2.foreground = t.foreground := by
  obtain ⟨goal, asks⟩ := asks_of_ok desires ok
  have met : goal.Met t := by
    apply run.invariant
    · rw [(run_asks asks s).2.2]
      exact goal.met_ensure s
    · intro before call after holds compatible step
      cases step
      exact holds.run asks compatible
  have asksAgain : Asks again.req goal := repeats ▸ asks
  obtain ⟨answered, result, state⟩ := run_asks asksAgain t
  rw [Desired.ensure_of_met met] at result state
  rw [state]
  exact ⟨answered, result, rfl, rfl⟩

/-- A request to show or hide a window. -/
def showRequest (hwnd : String) (shown : Bool) : CoreRequest where
  id := ascii "1"
  method := ascii "window.ensureVisible"
  params := Json.Object.ofFields [("hwnd", .str (ascii hwnd)), ("visible", .bool shown)]

/-- The window 10 is shown, and the window 11 is hidden. -/
theorem desired_converged_twoWindows :
    let first : EngineCall := { req := showRequest "0xa" true }
    let other : EngineCall := { req := showRequest "0xb" false }
    let s := FakeState.ofWindows [{ hwnd := 10, visible := false }, { hwnd := 11 }]
    let t := (other.run (first.run s).2).2
    (first.run s).1.result = changedJson true ∧ (first.run t).1.ok = true ∧
      (first.run t).1.result = changedJson false ∧ (first.run t).2.w = t.w ∧
        (first.run t).2.foreground = t.foreground := by
  have accepted₁ : windowEnsureVisible.args (showRequest "0xa" true) none = .ok (10, true) := by
    with_unfolding_all rfl
  have accepted₂ : windowEnsureVisible.args (showRequest "0xb" false) none = .ok (11, false) := by
    with_unfolding_all rfl
  have compatible : ¬Opposes (showRequest "0xa" true) (showRequest "0xb" false) := by
    rintro ⟨_, _, ⟨_, accepted⟩ | ⟨method, _⟩, ⟨_, accepted'⟩ | ⟨method', _⟩, opposed⟩
    · cases accepted₁.symm.trans accepted
      cases accepted₂.symm.trans accepted'
      have same : (11 : HwndU64) = 10 := opposed
      exact absurd same (by decide)
    · exact absurd method' (by decide)
    · exact absurd method (by decide)
    · exact absurd method (by decide)
  have ran := @run_asks { req := showRequest "0xa" true } _ (.visible rfl accepted₁)
    (FakeState.ofWindows [{ hwnd := 10, visible := false }, { hwnd := 11 }])
  exact ⟨ran.2.1, desired_converged _ _ _ (Or.inl rfl) ran.1
    (Transition.Steps.single compatible rfl) rfl⟩

end WinInspect.Fake
