import WinInspect.Core.Engine
import WinInspect.Core.FakeBackend

/-!
# What requests do to the fake backend

Most calls only read the state of `FakeBackend`.  The desired-state actions change it
when the state is not the desired one, and the calls of the handlers in `injecting`
record an injected event every time.
-/

namespace WinInspect.Fake

open Effect (Program)

/-- The methods whose handler makes a call that records an injected event. -/
def injecting : List String :=
  ["window.highlight", "window.setProperty", "input.send", "input.mouseClick", "input.keyPress",
    "input.text", "window.controlClick", "window.controlSend", "process.kill",
    "clipboard.write", "service.control", "env.set", "sync.createMutex", "mem.write",
    "input.hook", "reg.write", "reg.delete", "ui.invoke"]

/-- A request with one of the given injecting methods whose parameters are accepted, or a
desired-state action for a state that is not the present one. -/
def Mutates (methods : List String) (req : CoreRequest) (old : Option Snapshot)
    (s : FakeState) : Prop :=
  (∃ name ∈ methods, ascii name = req.method ∧
    ∃ handler args, dispatch req.method = some handler ∧ handler.args req old = .ok args) ∨
  (req.method = ascii "window.ensureVisible" ∧
    ∃ hwnd visible fw, windowEnsureVisible.args req old = .ok (hwnd, visible) ∧
      Assoc.find hwnd s.w = some fw ∧ fw.visible ≠ visible) ∨
  (req.method = ascii "window.ensureForeground" ∧
    ∃ hwnd, windowEnsureForeground.args req old = .ok hwnd ∧ s.foreground ≠ hwnd)

theorem inject_ne (s : FakeState) (text : Bytes) : s.inject text ≠ s := by
  intro same
  have lengths := congrArg (fun state => state.injectedEvents.length) same
  simp [FakeState.inject] at lengths

theorem ensureVisible_state_iff (s : FakeState) (hwnd : HwndU64) (visible : Bool) :
    (s.ensureVisible hwnd visible).2 = s ↔
      ¬ ∃ fw, Assoc.find hwnd s.w = some fw ∧ fw.visible ≠ visible := by
  unfold FakeState.ensureVisible
  cases found : Assoc.find hwnd s.w with
  | none => simp
  | some fw =>
      by_cases same : fw.visible = visible
      · subst same
        simp [Assoc.assign_of_find s.ordered found]
      · have changed : Assoc.assign hwnd { fw with visible := visible } s.w ≠ s.w := by
          intro equal
          have stored := Assoc.find_assign_self hwnd { fw with visible := visible } s.w
          rw [equal, found] at stored
          exact same (congrArg FakeWindow.visible (Option.some.inj stored))
        constructor
        · intro equal
          exact absurd (congrArg FakeState.w equal) changed
        · intro desired
          exact absurd ⟨fw, rfl, same⟩ desired

theorem ensureForeground_state_iff (s : FakeState) (hwnd : HwndU64) :
    (s.ensureForeground hwnd).2 = s ↔ ¬ s.foreground ≠ hwnd := by
  rw [not_not]
  constructor
  · intro equal
    exact (congrArg FakeState.foreground equal).symm
  · rintro rfl
    rfl

/-! ## The table -/

/-- Every handler injects, reads only, or is one of the two desired-state actions. -/
theorem table_effects : ∀ entry ∈ dispatchTable,
    entry = ("window.ensureVisible", windowEnsureVisible) ∨
    entry = ("window.ensureForeground", windowEnsureForeground) ∨
    (entry.1 ∈ injecting ∧
      ∀ snap args s, ((entry.2.query snap args).run fakeBackend s).2 ≠ s) ∨
    (ascii entry.1 ∉ injecting.map ascii ∧ ascii entry.1 ≠ ascii "window.ensureVisible" ∧
      ascii entry.1 ≠ ascii "window.ensureForeground" ∧
      ∀ snap args s, ((entry.2.query snap args).run fakeBackend s).2 = s) := by
  intro entry member
  fin_cases member
  all_goals
    first
    | exact Or.inl rfl
    | exact Or.inr (Or.inl rfl)
    | exact Or.inr (Or.inr (Or.inl ⟨by decide, fun snap args s => inject_ne s _⟩))
    | exact Or.inr (Or.inr (Or.inr ⟨by decide, by decide, by decide, fun snap args s => rfl⟩))

theorem dispatch_ensureVisible :
    dispatch (ascii "window.ensureVisible") = some windowEnsureVisible :=
  dispatch_of_mem (by simp [dispatchTable])

theorem dispatch_ensureForeground :
    dispatch (ascii "window.ensureForeground") = some windowEnsureForeground :=
  dispatch_of_mem (by simp [dispatchTable])

section

variable {σ : Type} {handler : Handler} {backend : Backend σ} {env : Surroundings}
  {req : CoreRequest} {snap : Snapshot} {old : Option Snapshot} {world : σ}

theorem program_state_of_rejected {what : Bytes} (rejected : handler.args req old = .error what) :
    ((handler.program env req snap old).run backend world).2 = world := by
  unfold Handler.program
  rw [rejected]
  rfl

/-- A handler leaves the state where its query leaves it. -/
theorem program_state_of_accepted {args : handler.Args}
    (accepted : handler.args req old = .ok args) :
    ((handler.program env req snap old).run backend world).2 =
      ((handler.query snap args).run backend world).2 := by
  unfold Handler.program
  rw [accepted, Program.ofExcept_ok, Program.ret_bind, Program.run_bind]
  rcases (handler.query snap args).run backend world with ⟨what | answer, after⟩
  · rfl
  · rw [Program.proceed_ok, Program.run_ofExcept]

end

section

variable {methods : List String} {req : CoreRequest} {old : Option Snapshot} {s : FakeState}

theorem not_mutates_of_unknown (unknown : dispatch req.method = none) :
    ¬ Mutates methods req old s := by
  rintro (⟨name, _, _, handler, args, found, _⟩ | ⟨method, _⟩ | ⟨method, _⟩)
  · rw [unknown] at found
    cases found
  · rw [method, dispatch_ensureVisible] at unknown
    cases unknown
  · rw [method, dispatch_ensureForeground] at unknown
    cases unknown

/-- The method alone rules a mutation out. -/
theorem not_mutates_of_method
    (harmless : req.method ∉ (["window.ensureVisible", "window.ensureForeground"] ++
      methods).map ascii) : ¬ Mutates methods req old s := by
  intro mutates
  apply harmless
  rcases mutates with ⟨name, member, named, _⟩ | ⟨method, _⟩ | ⟨method, _⟩
  · exact named ▸ List.mem_map_of_mem (List.mem_append_right _ member)
  · rw [method]
    exact List.mem_map_of_mem (by simp)
  · rw [method]
    exact List.mem_map_of_mem (by simp)

theorem not_mutates_of_rejected {handler : Handler} (found : dispatch req.method = some handler)
    {what : Bytes} (rejected : handler.args req old = .error what) :
    ¬ Mutates methods req old s := by
  rintro (⟨name, _, _, handler', args, found', accepted⟩ |
    ⟨method, hwnd, visible, fw, accepted, _⟩ | ⟨method, hwnd, accepted, _⟩)
  · cases found.symm.trans found'
    rw [rejected] at accepted
    cases accepted
  · rw [method, dispatch_ensureVisible] at found
    cases found
    rw [rejected] at accepted
    cases accepted
  · rw [method, dispatch_ensureForeground] at found
    cases found
    rw [rejected] at accepted
    cases accepted

theorem mutates_ensureVisible_iff (method : req.method = ascii "window.ensureVisible")
    {hwnd : HwndU64} {visible : Bool}
    (accepted : windowEnsureVisible.args req old = .ok (hwnd, visible)) :
    Mutates injecting req old s ↔
      ∃ fw, Assoc.find hwnd s.w = some fw ∧ fw.visible ≠ visible := by
  constructor
  · rintro (⟨name, member, named, _⟩ | ⟨_, hwnd', visible', fw, accepted', stored⟩ | ⟨method', _⟩)
    · have injects : ascii "window.ensureVisible" ∈ injecting.map ascii :=
        method ▸ named ▸ List.mem_map_of_mem member
      exact absurd injects (by decide +kernel)
    · cases accepted.symm.trans accepted'
      exact ⟨fw, stored⟩
    · exact absurd (method.symm.trans method') (by decide)
  · rintro ⟨fw, stored⟩
    exact Or.inr (Or.inl ⟨method, hwnd, visible, fw, accepted, stored⟩)

theorem mutates_ensureForeground_iff (method : req.method = ascii "window.ensureForeground")
    {hwnd : HwndU64} (accepted : windowEnsureForeground.args req old = .ok hwnd) :
    Mutates injecting req old s ↔ s.foreground ≠ hwnd := by
  constructor
  · rintro (⟨name, member, named, _⟩ | ⟨method', _⟩ | ⟨_, hwnd', accepted', other⟩)
    · have injects : ascii "window.ensureForeground" ∈ injecting.map ascii :=
        method ▸ named ▸ List.mem_map_of_mem member
      exact absurd injects (by decide +kernel)
    · exact absurd (method.symm.trans method') (by decide)
    · cases accepted.symm.trans accepted'
      exact other
  · intro other
    exact Or.inr (Or.inr ⟨method, hwnd, accepted, other⟩)

/-- The engine leaves the fake backend alone exactly when the request does not mutate. -/
theorem handleBody_state_iff (env : Surroundings) (snap : Snapshot) :
    (handleBody fakeBackend env req snap old s).2 = s ↔ ¬ Mutates injecting req old s := by
  unfold handleBody
  cases found : dispatch req.method with
  | none => simp [not_mutates_of_unknown found]
  | some handler =>
      dsimp only
      cases accepted : handler.args req old with
      | error what =>
          rw [program_state_of_rejected accepted]
          simp [not_mutates_of_rejected found accepted]
      | ok args =>
          rw [program_state_of_accepted accepted]
          obtain ⟨name, member, named⟩ := mem_dispatchTable_of_dispatch found
          rcases table_effects _ member with entry | entry | ⟨injects, changes⟩ |
            ⟨quiet, notVisible, notForeground, keeps⟩
          · cases entry
            rw [mutates_ensureVisible_iff named.symm accepted]
            exact ensureVisible_state_iff s args.1 args.2
          · cases entry
            rw [mutates_ensureForeground_iff named.symm accepted]
            exact ensureForeground_state_iff s args
          · have mutates : Mutates injecting req old s :=
              Or.inl ⟨name, injects, named, handler, args, found, accepted⟩
            simp only [mutates, not_true, iff_false]
            exact changes snap args s
          · simp only [keeps snap args s, true_iff]
            rintro (⟨name', member', named', _⟩ | ⟨method, _⟩ | ⟨method, _⟩)
            · exact quiet (named ▸ named' ▸ List.mem_map_of_mem member')
            · exact notVisible (named.trans method)
            · exact notForeground (named.trans method)

end

end WinInspect.Fake
