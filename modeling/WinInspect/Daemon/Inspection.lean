import WinInspect.Core.Inspection
import WinInspect.Daemon.Names
import WinInspect.Daemon.ReadOnly

/-!
# Inspection of a stored snapshot

A request that names a snapshot works on the one that was captured, but the backend reads the
windows as they are at the time of the request.  Over the fake backend this makes a difference
for `window.getInfo` and the visibility of its window.
-/

namespace WinInspect.Daemon

open Transition (Config System)
open Transition.System (Guard)
open Fake (FakeState EngineCall SameOutcome inspections)

variable {σ : Type}

/-- Only requests change the world: nothing but calls of its methods changes a
`FakeBackend`. -/
def requestsOnly : Guard (Shared σ) Conn Input Transport (Outside σ) where
  env _ event := ∀ w, event ≠ .world w

theorem counter_le_of_runs {p : Platform σ} {cfg : Settings}
    {guard : Guard (Shared σ) Conn Input Transport (Outside σ)}
    {source target : Config (Shared σ) Conn} (run : (daemon p cfg).Runs guard source target) :
    source.shared.st.snapCounter ≤ target.shared.st.snapCounter := by
  refine shared_of_runs (fun g => source.shared.st.snapCounter ≤ g.st.snapCounter) run
    (le_refl _) ?_ ?_
  · intro g conn input g' conn' small _ ran
    exact small.trans (turn_storeChange ran).counter_le
  · intro g event g' small _ moved
    rw [(outside_sameStore moved).snapCounter]
    exact small

/-- No run changes the frames of the windows. -/
theorem frames_of_runs {p : Platform FakeState} (fake : p.backend = Fake.fakeBackend)
    {cfg : Settings} {source target : Config (Shared FakeState) Conn}
    (run : (daemon p cfg).Runs requestsOnly source target) :
    target.shared.world.frames = source.shared.world.frames := by
  refine shared_of_runs (fun g => g.world.frames = source.shared.world.frames) run rfl ?_ ?_
  · intro g conn input g' conn' same _ ran
    rcases turn_world fake ran with ⟨req, snap, old, env, _, engine⟩ | ⟨_, world⟩
    · rw [engine, fake]
      exact (Fake.run_frames { req, env, snap, old } g.world).trans same
    · rw [world]
      exact same
  · intro g event g' same calm moved
    rcases outside_cases moved with ⟨w, rfl, _⟩ | ⟨_, _, rfl⟩ | ⟨_, _, rfl⟩
    · exact absurd rfl (calm w)
    · exact same
    · exact same

/-- Histories only grow. -/
theorem history_of_runs {p : Platform σ} {cfg : Settings}
    {source target : Config (Shared σ × List (Names.Event Bytes Snapshot)) (Conn × Unit)}
    (run : ((daemon p cfg).withAux nameHistory).Runs {} source target) :
    ∃ more, target.shared.2 = source.shared.2 ++ more := by
  refine shared_of_runs_aux (fun _ history => ∃ more, history = source.shared.2 ++ more) run
    ⟨[], (List.append_nil _).symm⟩ ?_ (fun _ _ _ grown => grown)
    (fun _ _ _ _ grown _ _ => grown)
  rintro g conn input g' conn' history _ ⟨more, rfl⟩ _ _
  exact ⟨more ++ (usesName g conn conn').toList, List.append_assoc _ _ _⟩

/-- Two requests of a run that name the same snapshot get the same one. -/
theorem snapshot_of_named {p : Platform σ} {cfg : Settings} {world : σ}
    {guard : Guard (Shared σ) Conn Input Transport (Outside σ)}
    {source target : Config (Shared σ) Conn}
    (reached : (daemon p cfg).Runs {} (initial world) source)
    (later : (daemon p cfg).Runs guard source target)
    (few : target.shared.st.snapCounter ≤ 2 ^ 64) {conn₁ conn₂ : Conn}
    (member₁ : conn₁ ∈ source.parts) (member₂ : conn₂ ∈ target.parts) {req₁ req₂ : CoreRequest}
    {snap₁ snap₂ : Snapshot} {old₁ old₂ : Option Snapshot}
    (phase₁ : conn₁.phase = .calling req₁ snap₁ old₁)
    (phase₂ : conn₂.phase = .calling req₂ snap₂ old₂) {sid : Bytes}
    (named₁ : getStr req₁.params "snapshot_id" = some sid)
    (named₂ : getStr req₂.params "snapshot_id" = some sid) : snap₂ = snap₁ := by
  have fewBefore := (counter_le_of_runs later).trans few
  have unguarded : (daemon p cfg).Runs {} source target :=
    later.mono fun config move _ => Guard.allows_default config move
  obtain ⟨source', before, rfl⟩ :=
    System.Runs.record nameHistory ⟨({ world := world }, []), []⟩ reached
  obtain ⟨target', after, rfl⟩ := System.Runs.record nameHistory source' unguarded
  have atSource := System.Runs.invariant before (keeps_names p cfg) (names_start world)
  have atTarget := System.Runs.invariant after (keeps_names p cfg) atSource
  obtain ⟨recorded₁, inside₁, rfl⟩ := List.mem_map.mp member₁
  obtain ⟨recorded₂, inside₂, rfl⟩ := List.mem_map.mp member₂
  have grounded₁ := atSource.2 recorded₁ inside₁ fewBefore
  have grounded₂ := atTarget.2 recorded₂ inside₂ few
  rw [phase₁] at grounded₁
  rw [phase₂] at grounded₂
  obtain ⟨i, issued₁⟩ := grounded₁ sid named₁
  obtain ⟨j, issued₂⟩ := grounded₂ sid named₂
  obtain ⟨more, grown⟩ := history_of_runs after
  rw [grown] at issued₂
  have stable := (atTarget.1 few).holds.stable
  rw [grown] at stable
  have issued₁' := issued₁.append more
  cases stable.once issued₁' issued₂
  cases issued₁'.symm.trans issued₂
  rfl

/-- In every run over the fake backend, let two requests for the same inspection of the same
stored snapshot call the engine at two moments, with any requests of any clients between.  They
get the same result and error code exactly when they do not ask for the information on a window
that is visible at one of the moments only. -/
theorem inspection_isolated_iff (p : Platform FakeState) (fake : p.backend = Fake.fakeBackend)
    (cfg : Settings) (world : FakeState) {source target : Config (Shared FakeState) Conn}
    (reached : (daemon p cfg).Runs {} (initial world) source)
    (later : (daemon p cfg).Runs requestsOnly source target)
    (few : target.shared.st.snapCounter ≤ 2 ^ 64) {conn₁ conn₂ : Conn}
    (member₁ : conn₁ ∈ source.parts) (member₂ : conn₂ ∈ target.parts) {req₁ req₂ : CoreRequest}
    {snap₁ snap₂ : Snapshot} {old₁ old₂ : Option Snapshot}
    (phase₁ : conn₁.phase = .calling req₁ snap₁ old₁)
    (phase₂ : conn₂.phase = .calling req₂ snap₂ old₂) {sid : Bytes}
    (named : getStr req₁.params "snapshot_id" = some sid) (params : req₂.params = req₁.params)
    {name : String} {handler : Handler} (inspects : (name, handler) ∈ inspections)
    (method₁ : req₁.method = ascii name) (method₂ : req₂.method = ascii name)
    (env₁ env₂ : Surroundings) (duration₁ duration₂ : Int) :
    SameOutcome (handle p.backend env₁ duration₁ req₁ snap₁ old₁ source.shared.world).1
        (handle p.backend env₂ duration₂ req₂ snap₂ old₂ target.shared.world).1 ↔
      (name = "window.getInfo" → ∀ hwnd, hwndArg req₁ none = .ok hwnd →
        target.shared.world.visibility hwnd = source.shared.world.visibility hwnd) := by
  have snap := snapshot_of_named reached later few member₁ member₂ phase₁ phase₂ named
    (params ▸ named)
  rw [fake]
  exact Fake.inspect_outcome_iff inspects ⟨req₁, env₁, duration₁, snap₁, old₁⟩
    ⟨req₂, env₂, duration₂, snap₂, old₂⟩ method₁ method₂ params snap (frames_of_runs fake later)

/-! ## A window is hidden between two inspections -/

/-- The request a connection is about to call the engine for. -/
def Conn.call (conn : Conn) : Option (CoreRequest × Snapshot × Option Snapshot) :=
  match conn.phase with
  | .calling req snap old => some (req, snap, old)
  | _ => none

theorem exists_of_call {config : Config (Shared σ) Conn} {index : Nat} {req : CoreRequest}
    {snap : Snapshot} {old : Option Snapshot}
    (calls : config.parts[index]?.bind Conn.call = some (req, snap, old)) :
    ∃ conn ∈ config.parts, conn.phase = .calling req snap old := by
  obtain ⟨conn, found, calling⟩ := Option.bind_eq_some_iff.mp calls
  refine ⟨conn, List.mem_of_getElem? found, ?_⟩
  unfold Conn.call at calling
  split at calling
  · rename_i phase
    cases calling
    exact phase
  · cases calling

/-- An inspection of the window 10 in the first snapshot. -/
def inspectRequest (method : String) : CoreRequest where
  id := ascii "1"
  method := ascii method
  params := Json.Object.ofFields [("hwnd", .str (ascii "0xa")), ("snapshot_id", .str (ascii "s-1"))]

/-- Its text. -/
def inspectText (method : String) : Bytes :=
  requestText "1" method [("hwnd", .str (ascii "0xa")), ("snapshot_id", .str (ascii "s-1"))]

/-- A client captures a snapshot and inspects the window. -/
def firstLook (method : String) : List (Transition.Move Input Transport (Outside FakeState)) :=
  [.spawn .tcp, .spawn .tcp, .turn 0 (.start none []), .turn 1 (.start none []),
    .turn 0 (.frame (some (requestText "0" "snapshot.capture" []))), .turn 0 .go, .turn 0 .go,
    .turn 0 .go, .turn 0 .go, .turn 0 (.frame (some (inspectText method))), .turn 0 .go,
    .turn 0 .go]

/-- Another client hides the window, and the first one inspects it again. -/
def secondLook (method : String) : List (Transition.Move Input Transport (Outside FakeState)) :=
  [.turn 0 (.core false [] 0 0), .turn 0 .go, .turn 0 .go,
    .turn 1 (.frame (some (requestText "2" "window.ensureVisible"
      [("hwnd", .str (ascii "0xa")), ("visible", .bool false)]))),
    .turn 1 .go, .turn 1 .go, .turn 1 (.core false [] 0 0), .turn 1 .go,
    .turn 0 (.frame (some (inspectText method))), .turn 0 .go, .turn 0 .go]

/-- One visible window. -/
def oneWindow : FakeState :=
  FakeState.ofWindows [{ hwnd := 10 }]

/-- Two moments at which the first client calls the engine for the same inspection, with the
window visible at the first one only. -/
structure Looks (method : String) (source target : Config (Shared FakeState) Conn) : Prop where
  first : source.parts[0]?.bind Conn.call = some (inspectRequest method, ⟨[10]⟩, none)
  second : target.parts[0]?.bind Conn.call = some (inspectRequest method, ⟨[10]⟩, none)
  stored : source.shared.st.snaps.lookup (ascii "s-1") = some ⟨[10]⟩ ∧
    target.shared.st.snaps.lookup (ascii "s-1") = some ⟨[10]⟩
  shown : source.shared.world.visibility 10 = some true
  hidden : target.shared.world.visibility 10 = some false
  few : target.shared.st.snapCounter ≤ 2 ^ 64

instance (method : String) (source target : Config (Shared FakeState) Conn) :
    Decidable (Looks method source target) :=
  decidable_of_iff (_ ∧ _ ∧ _ ∧ _ ∧ _ ∧ _)
    ⟨fun ⟨first, second, stored, shown, hidden, few⟩ =>
      ⟨first, second, stored, shown, hidden, few⟩,
    fun looks => ⟨looks.first, looks.second, looks.stored, looks.shown, looks.hidden, looks.few⟩⟩

/-- Run the two lists of moves and compare. -/
def looksTwice (method : String) : Bool :=
  ((Transition.exec (daemon fakePlatform {}).next (initial oneWindow) (firstLook method)).any
    fun source => (Transition.exec (daemon fakePlatform {}).next source (secondLook method)).any
      fun target => Looks method source target)

theorem exists_looks {method : String} (ran : looksTwice method = true) :
    ∃ source target, (daemon fakePlatform {}).Runs {} (initial oneWindow) source ∧
      (daemon fakePlatform {}).Runs requestsOnly source target ∧ Looks method source target := by
  obtain ⟨source, reached, ran⟩ := (Option.any_eq_true _ _).mp ran
  obtain ⟨target, later, looks⟩ := (Option.any_eq_true _ _).mp ran
  refine ⟨source, target, ?_, ?_, of_decide_eq_true looks⟩
  · exact System.runs_of_exec reached
  · refine Transition.Steps.of_exec ?_ later
    intro move member config
    unfold secondLook at member
    fin_cases member <;> exact fun _ _ => trivial

theorem looksTwice_getTree : looksTwice "window.getTree" = true := by
  decide +kernel

theorem looksTwice_getInfo : looksTwice "window.getInfo" = true := by
  decide +kernel

/-- The tree of a window is the same after the window has been hidden. -/
theorem inspection_isolated_getTree :
    ∃ source target, Looks "window.getTree" source target ∧
      SameOutcome
        (handle Fake.fakeBackend ⟨false, [], 0⟩ 0 (inspectRequest "window.getTree") ⟨[10]⟩ none
          source.shared.world).1
        (handle Fake.fakeBackend ⟨false, [], 0⟩ 0 (inspectRequest "window.getTree") ⟨[10]⟩ none
          target.shared.world).1 := by
  obtain ⟨source, target, reached, later, looks⟩ := exists_looks looksTwice_getTree
  obtain ⟨conn₁, member₁, phase₁⟩ := exists_of_call looks.first
  obtain ⟨conn₂, member₂, phase₂⟩ := exists_of_call looks.second
  have named : getStr (inspectRequest "window.getTree").params "snapshot_id" =
      some (ascii "s-1") := by
    decide +kernel
  have inspects : ("window.getTree", windowGetTree) ∈ inspections := by simp [inspections]
  have agreed := inspection_isolated_iff fakePlatform rfl {} oneWindow reached later looks.few
    member₁ member₂ phase₁ phase₂ named rfl inspects rfl rfl ⟨false, [], 0⟩ ⟨false, [], 0⟩ 0 0
  exact ⟨source, target, looks, agreed.mpr fun same => absurd same (by decide)⟩

/-- The information on a window is not the same after the window has been hidden, although the
snapshot is still stored. -/
theorem inspection_not_isolated_getInfo :
    ∃ source target, (daemon fakePlatform {}).Runs {} (initial oneWindow) source ∧
      (daemon fakePlatform {}).Runs requestsOnly source target ∧
      Looks "window.getInfo" source target ∧
      ¬SameOutcome
        (handle Fake.fakeBackend ⟨false, [], 0⟩ 0 (inspectRequest "window.getInfo") ⟨[10]⟩ none
          source.shared.world).1
        (handle Fake.fakeBackend ⟨false, [], 0⟩ 0 (inspectRequest "window.getInfo") ⟨[10]⟩ none
          target.shared.world).1 := by
  obtain ⟨source, target, reached, later, looks⟩ := exists_looks looksTwice_getInfo
  refine ⟨source, target, reached, later, looks, ?_⟩
  intro outcome
  have inspects : ("window.getInfo", windowGetInfo) ∈ inspections := by simp [inspections]
  have accepted : hwndArg (inspectRequest "window.getInfo") none = .ok 10 := by
    decide +kernel
  have seen := (Fake.inspect_outcome_iff inspects
    { req := inspectRequest "window.getInfo", snap := ⟨[10]⟩ }
    { req := inspectRequest "window.getInfo", snap := ⟨[10]⟩ } rfl rfl rfl rfl
    (frames_of_runs rfl later)).mp outcome rfl 10 accepted
  rw [looks.shown, looks.hidden] at seen
  cases seen

end WinInspect.Daemon
