import WinInspect.Core.Desired

/-!
# Inspection of the fake backend

No request opens, closes or moves a window of `FakeBackend`, or changes its title or class.
What requests can change of a window is whether it is visible; the rest is its frame.  Of the
inspecting methods only `window.getInfo` reads more than the frames.
-/

namespace WinInspect.Fake

open Effect (Program)

/-- A window without what requests can change. -/
def FakeWindow.frame (fw : FakeWindow) : FakeWindow :=
  { fw with visible := false }

/-- The windows without what requests can change. -/
def FakeState.frames (s : FakeState) : List (HwndU64 × FakeWindow) :=
  Assoc.mapValues FakeWindow.frame s.w

/-- Whether a window is visible, if it exists. -/
def FakeState.visibility (s : FakeState) (hwnd : HwndU64) : Option Bool :=
  (Assoc.find hwnd s.w).map FakeWindow.visible

section

variable {s t : FakeState}

theorem find_frames (s : FakeState) (hwnd : HwndU64) :
    Assoc.find hwnd s.frames = (Assoc.find hwnd s.w).map FakeWindow.frame :=
  Assoc.find_mapValues _ _ _

theorem ensure_frames (s : FakeState) (goal : Desired) : (goal.ensure s).2.frames = s.frames := by
  cases goal with
  | visible hwnd shown =>
      simp only [Desired.ensure, FakeState.ensureVisible]
      cases found : Assoc.find hwnd s.w with
      | none => rfl
      | some fw =>
          have framed : Assoc.find hwnd s.frames = some fw.frame := by
            rw [find_frames, found]
            rfl
          calc
            Assoc.mapValues FakeWindow.frame (Assoc.assign hwnd { fw with visible := shown } s.w)
              = Assoc.assign hwnd fw.frame s.frames := Assoc.mapValues_assign _ _ _ _
            _ = s.frames := Assoc.assign_of_find (s.ordered.mapValues _) framed
  | foreground hwnd => rfl

/-- No request changes the frames. -/
theorem run_frames (call : EngineCall) (s : FakeState) : (call.run s).2.frames = s.frames := by
  rcases run_cases call s with ⟨goal, asks⟩ | ⟨windows, _⟩
  · rw [(run_asks asks s).2.2]
    exact ensure_frames s goal
  · unfold FakeState.frames
    rw [windows]

/-! ## What the frames determine -/

/-- The handles of the windows below a window. -/
theorem below_congr (same : t.frames = s.frames) (parent : HwndU64) :
    (t.w.filter fun entry => entry.2.parent = parent).map Prod.fst =
      (s.w.filter fun entry => entry.2.parent = parent).map Prod.fst := by
  have framed : ∀ state : FakeState,
      (state.w.filter fun entry => entry.2.parent = parent).map Prod.fst =
        (state.frames.filter fun entry => entry.2.parent = parent).map Prod.fst := by
    intro state
    rw [FakeState.frames, Assoc.mapValues, List.filter_map, List.map_map]
    rfl
  rw [framed, framed, same]

theorem childrenOf_congr (same : t.frames = s.frames) (parent : HwndU64) :
    t.childrenOf parent = s.childrenOf parent := by
  unfold FakeState.childrenOf
  rw [below_congr same]

theorem find_frame_congr (same : t.frames = s.frames) (hwnd : HwndU64) :
    (Assoc.find hwnd t.w).map FakeWindow.frame = (Assoc.find hwnd s.w).map FakeWindow.frame := by
  rw [← find_frames, ← find_frames, same]

/-- A field of the frame of a window. -/
theorem find_field_congr {α : Type} (same : t.frames = s.frames) (hwnd : HwndU64)
    (field : FakeWindow → α) (framed : ∀ fw : FakeWindow, field fw.frame = field fw) :
    (Assoc.find hwnd t.w).map field = (Assoc.find hwnd s.w).map field := by
  have both := congrArg (Option.map field) (find_frame_congr same hwnd)
  rw [Option.map_map, Option.map_map] at both
  rwa [show field ∘ FakeWindow.frame = field from funext framed] at both

theorem buildNode_congr (same : t.frames = s.frames) (depth : Nat) :
    ∀ hwnd, t.buildNode depth hwnd = s.buildNode depth hwnd := by
  have titles := fun hwnd => find_field_congr same hwnd FakeWindow.title fun _ => rfl
  have classes := fun hwnd => find_field_congr same hwnd FakeWindow.cls fun _ => rfl
  induction depth with
  | zero =>
      intro hwnd
      simp only [FakeState.buildNode, titles, classes]
  | succ depth inductionHypothesis =>
      intro hwnd
      simp only [FakeState.buildNode, titles, classes, below_congr same]
      congr 1
      exact List.map_congr_left fun child _ => inductionHypothesis child

theorem getWindowTree_congr (same : t.frames = s.frames) (root : HwndU64) :
    t.getWindowTree root = s.getWindowTree root := by
  have lengths : t.w.length = s.w.length := by
    have both := congrArg List.length same
    simpa [FakeState.frames, Assoc.mapValues] using both
  unfold FakeState.getWindowTree
  rw [lengths, below_congr same]
  exact List.map_congr_left fun hwnd _ => buildNode_congr same _ hwnd

theorem get?_windowInfoToJson_visible (info : WindowInfo) :
    (windowInfoToJson info).obj?.bind (fun o => o.get? "visible") =
      some (.bool info.visible) := by
  apply Json.get?_ofFields [_, _, _, _, _, _, _, _, _, _, _, _, _, _] "visible"
  intro field member
  fin_cases member <;> dsimp only <;> decide

/-- `window.getInfo` reads the frame of a window and whether it is visible. -/
theorem getInfo_congr (same : t.frames = s.frames) {hwnd : HwndU64}
    (visible : t.visibility hwnd = s.visibility hwnd) : t.getInfo hwnd = s.getInfo hwnd := by
  have framed := find_frame_congr same hwnd
  unfold FakeState.visibility at visible
  unfold FakeState.getInfo
  cases before : Assoc.find hwnd s.w with
  | none =>
      rw [before] at framed
      rw [Option.map_eq_none_iff.mp framed]
  | some fw =>
      rw [before] at framed visible
      obtain ⟨fw', after, frame⟩ := Option.map_eq_some_iff.mp framed
      rw [after] at visible ⊢
      have equal : fw' = fw := by
        obtain ⟨hwnd', parent', owner', title', cls', visible'⟩ := fw'
        cases frame
        cases visible
        rfl
      rw [equal]

theorem visibility_of_getInfo (s : FakeState) (hwnd : HwndU64) :
    s.visibility hwnd = (s.getInfo hwnd).map WindowInfo.visible := by
  unfold FakeState.getInfo FakeState.visibility
  rw [Option.map_map]
  rfl

end

/-! ## Requests -/

/-- The inspecting methods that take a snapshot. -/
def inspections : List (String × Handler) :=
  [("window.listTop", windowListTop), ("window.listChildren", windowListChildren),
    ("window.getInfo", windowGetInfo), ("window.getTree", windowGetTree),
    ("window.pickAtPoint", windowPickAtPoint)]

theorem dispatch_inspections :
    ∀ entry ∈ inspections, dispatch (ascii entry.1) = some entry.2 := by
  intro entry member
  fin_cases member <;> exact dispatch_of_mem (by simp [dispatchTable])

/-- The same result and the same error code. -/
structure SameOutcome (resp₁ resp₂ : CoreResponse) : Prop where
  result : resp₂.result = resp₁.result
  errorCode : resp₂.errorCode = resp₁.errorCode

/-- What an inspecting method answers to accepted parameters. -/
theorem inspections_frames : ∀ entry ∈ inspections, entry.1 ≠ "window.getInfo" →
    ∀ (snap : Snapshot) (args : entry.2.Args) ⦃s t : FakeState⦄, t.frames = s.frames →
      ((entry.2.query snap args).run fakeBackend t).1 =
        ((entry.2.query snap args).run fakeBackend s).1 := by
  intro entry member other snap args s t same
  fin_cases member
  · rfl
  · exact congrArg Except.ok (childrenOf_congr same args)
  · exact absurd rfl other
  · exact congrArg Except.ok (getWindowTree_congr same args)
  · have first : t.captureSnapshot = s.captureSnapshot := by
      unfold FakeState.captureSnapshot
      rw [childrenOf_congr same]
    exact congrArg (fun snap => Except.ok snap.top.head?) first

/-- The inspecting methods read the parameters of a request only. -/
theorem inspections_params : ∀ entry ∈ inspections, ∀ ⦃req₁ req₂ : CoreRequest⦄,
    req₂.params = req₁.params → ∀ old₁ old₂ env₁ env₂,
      entry.2.args req₂ old₂ = entry.2.args req₁ old₁ ∧
        ∀ args answer, entry.2.respond env₂ req₂ args answer =
          entry.2.respond env₁ req₁ args answer := by
  rintro entry member ⟨id₁, method₁, params⟩ ⟨id₂, method₂, _⟩ ⟨⟩ old₁ old₂ env₁ env₂
  fin_cases member <;> exact ⟨rfl, fun _ _ => rfl⟩

section

variable {handler : Handler} {env₁ env₂ : Surroundings} {req₁ req₂ : CoreRequest}
  {snap : Snapshot} {old₁ old₂ : Option Snapshot} {s t : FakeState}

/-- A handler responds to what the backend answers to accepted parameters. -/
theorem program_of_answered {args : handler.Args} {answer : handler.Answer}
    (accepted : handler.args req₁ old₁ = .ok args)
    (answered : ((handler.query snap args).run fakeBackend s).1 = .ok answer) :
    ((handler.program env₁ req₁ snap old₁).run fakeBackend s).1 =
      handler.respond env₁ req₁ args answer := by
  unfold Handler.program
  rw [accepted, Program.ofExcept_ok, Program.ret_bind, Program.run_bind]
  revert answered
  rcases (handler.query snap args).run fakeBackend s with ⟨result, after⟩
  rintro ⟨⟩
  rw [Program.proceed_ok, Program.run_ofExcept]

theorem program_outcome_congr (accepted : handler.args req₂ old₂ = handler.args req₁ old₁)
    (responds : ∀ args answer,
      handler.respond env₂ req₂ args answer = handler.respond env₁ req₁ args answer)
    (answers : ∀ args, handler.args req₁ old₁ = .ok args →
      ((handler.query snap args).run fakeBackend t).1 =
        ((handler.query snap args).run fakeBackend s).1) :
    ((handler.program env₂ req₂ snap old₂).run fakeBackend t).1 =
      ((handler.program env₁ req₁ snap old₁).run fakeBackend s).1 := by
  unfold Handler.program
  rw [accepted]
  cases read : handler.args req₁ old₁ with
  | error what => rfl
  | ok args =>
      have same := answers args read
      rw [Program.ofExcept_ok, Program.ret_bind, Program.ret_bind, Program.run_bind,
        Program.run_bind]
      revert same
      rcases (handler.query snap args).run fakeBackend s with ⟨what | answer, after⟩ <;>
        rcases (handler.query snap args).run fakeBackend t with ⟨what' | answer', after'⟩ <;>
          intro same <;> cases same
      · rfl
      · rw [Program.proceed_ok, Program.proceed_ok, Program.run_ofExcept, Program.run_ofExcept,
          responds]

end

theorem sameOutcome_respondOrCatch (id₁ id₂ : Bytes) (result : Except Bytes CoreResponse) :
    SameOutcome (respondOrCatch id₁ result) (respondOrCatch id₂ result) := by
  cases result <;> exact ⟨rfl, rfl⟩

/-- The outcome of a call of the engine for a known method. -/
theorem run_outcome (call : EngineCall) (s : FakeState) {handler : Handler}
    (found : dispatch call.req.method = some handler) :
    SameOutcome (call.run s).1 (respondOrCatch call.req.id
      ((handler.program call.env call.req call.snap call.old).run fakeBackend s).1) := by
  unfold EngineCall.run handle handleBody
  rw [found]
  exact ⟨rfl, rfl⟩

theorem SameOutcome.symm {resp₁ resp₂ : CoreResponse} (same : SameOutcome resp₁ resp₂) :
    SameOutcome resp₂ resp₁ :=
  ⟨same.result.symm, same.errorCode.symm⟩

theorem SameOutcome.trans {resp₁ resp₂ resp₃ : CoreResponse} (first : SameOutcome resp₁ resp₂)
    (second : SameOutcome resp₂ resp₃) : SameOutcome resp₁ resp₃ :=
  ⟨second.result.trans first.result, second.errorCode.trans first.errorCode⟩

theorem windowGetInfo_run_outcome (call : EngineCall) (s : FakeState)
    (method : call.req.method = ascii "window.getInfo") {hwnd : HwndU64}
    (accepted : hwndArg call.req none = .ok hwnd) :
    (call.run s).1.result = ((s.getInfo hwnd).map windowInfoToJson).getD .null := by
  have found : dispatch call.req.method = some windowGetInfo := by
    rw [method]
    exact dispatch_of_mem (by simp [dispatchTable])
  have ran : ((windowGetInfo.program call.env call.req call.snap call.old).run fakeBackend s).1 =
      windowGetInfo.respond call.env call.req hwnd (s.getInfo hwnd) :=
    program_of_answered accepted rfl
  rw [← (run_outcome call s found).result, ran]
  cases s.getInfo hwnd <;> rfl

theorem visible_of_windowInfoToJson {info other : WindowInfo}
    (same : windowInfoToJson info = windowInfoToJson other) : info.visible = other.visible := by
  have read := get?_windowInfoToJson_visible info
  rw [same, get?_windowInfoToJson_visible other] at read
  exact (Json.Value.bool.inj (Option.some.inj read)).symm

/-- When the answer to `window.getInfo` shows a difference. -/
theorem visibility_of_outcome {s t : FakeState} (same : t.frames = s.frames) {hwnd : HwndU64}
    (result : ((t.getInfo hwnd).map windowInfoToJson).getD .null =
      ((s.getInfo hwnd).map windowInfoToJson).getD .null) :
    t.visibility hwnd = s.visibility hwnd := by
  have framed := find_field_congr same hwnd (fun _ => ()) fun _ => rfl
  have present : (t.getInfo hwnd).isSome = (s.getInfo hwnd).isSome := by
    have both := congrArg Option.isSome framed
    unfold FakeState.getInfo
    simpa using both
  rw [visibility_of_getInfo, visibility_of_getInfo]
  cases before : s.getInfo hwnd with
  | none =>
      rw [before] at present
      rw [Option.isSome_eq_false_iff.mp present |> Option.isNone_iff_eq_none.mp]
  | some info =>
      rw [before] at present result
      obtain ⟨info', after⟩ := Option.isSome_iff_exists.mp present
      rw [after] at result ⊢
      exact congrArg some (visible_of_windowInfoToJson result)

/-- Two calls for the same inspection agree exactly when `window.getInfo` does not find the
visibility of its window changed. -/
theorem inspect_outcome_iff {name : String} {handler : Handler}
    (member : (name, handler) ∈ inspections) (first second : EngineCall)
    (method₁ : first.req.method = ascii name) (method₂ : second.req.method = ascii name)
    (params : second.req.params = first.req.params) (snap : second.snap = first.snap)
    {s t : FakeState} (same : t.frames = s.frames) :
    SameOutcome (first.run s).1 (second.run t).1 ↔
      (name = "window.getInfo" → ∀ hwnd, hwndArg first.req none = .ok hwnd →
        t.visibility hwnd = s.visibility hwnd) := by
  have found := dispatch_inspections _ member
  have accepted (old₁ old₂ env₁ env₂) :=
    inspections_params _ member params old₁ old₂ env₁ env₂
  constructor
  · rintro outcome rfl hwnd args
    have args' : hwndArg second.req none = .ok hwnd := by
      unfold hwndArg at args ⊢
      rw [params]
      exact args
    apply visibility_of_outcome same
    rw [← windowGetInfo_run_outcome first s method₁ args,
      ← windowGetInfo_run_outcome second t method₂ args']
    exact outcome.result
  · intro unseen
    have ran : ((handler.program second.env second.req second.snap second.old).run fakeBackend t).1
        = ((handler.program first.env first.req first.snap first.old).run fakeBackend s).1 := by
      rw [snap]
      apply program_outcome_congr (accepted _ _ first.env second.env).1 (accepted none none _ _).2
      intro args read
      by_cases info : name = "window.getInfo"
      · subst info
        have entry : dispatch (ascii "window.getInfo") = some windowGetInfo :=
          dispatch_of_mem (by simp [dispatchTable])
        cases entry.symm.trans found
        exact congrArg Except.ok (getInfo_congr same (unseen rfl args read))
      · exact inspections_frames _ member info _ args same
    have first' := run_outcome first s (method₁ ▸ found)
    have second' := run_outcome second t (method₂ ▸ found)
    rw [ran] at second'
    exact first'.trans ((sameOutcome_respondOrCatch _ _ _).trans second'.symm)

end WinInspect.Fake
