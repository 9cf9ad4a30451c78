import WinInspect.Core.Mutation
import WinInspect.Daemon.Requests

/-!
# Read-only mode

The read-only check of the request loops compares the method with two names and looks
for `reg.write` in it.  The other methods that change the state of the backend pass it.
-/

namespace WinInspect.Daemon

open Transition (Config System)
open Transition.System (Keeps Guard)
open Fake (FakeState Mutates injecting)

variable {σ : Type}

/-- The injecting methods that the read-only check lets through. -/
def unguarded : List String :=
  injecting.filter fun name => !blockedReadOnly (ascii name)

example : unguarded =
    ["window.highlight", "window.setProperty", "input.mouseClick", "input.keyPress", "input.text",
      "window.controlClick", "window.controlSend", "process.kill", "clipboard.write",
      "service.control", "env.set", "sync.createMutex", "mem.write", "input.hook", "reg.delete",
      "ui.invoke"] := by
  decide +kernel

theorem mutates_unguarded_iff {req : CoreRequest} (unblocked : blockedReadOnly req.method = false)
    (old : Option Snapshot) (s : FakeState) :
    Mutates unguarded req old s ↔ Mutates injecting req old s := by
  constructor
  · rintro (⟨name, member, rest⟩ | action)
    · exact Or.inl ⟨name, List.mem_of_mem_filter member, rest⟩
    · exact Or.inr action
  · rintro (⟨name, member, named, rest⟩ | action)
    · refine Or.inl ⟨name, List.mem_filter.mpr ⟨member, ?_⟩, named, rest⟩
      rw [named, unblocked]
      rfl
    · exact Or.inr action

/-! ## The check -/

/-- A request on its way to the engine has passed the read-only check. -/
def Phase.Unblocked (cfg : Settings) : Phase → Prop
  | .finding req => (cfg.readOnly && blockedReadOnly req.method) = false
  | .findingOld req _ => (cfg.readOnly && blockedReadOnly req.method) = false
  | .calling req _ _ => (cfg.readOnly && blockedReadOnly req.method) = false
  | _ => True

/-- What a connection carries when nothing is said about responses. -/
abbrev Phase.Checked (cfg : Settings) (phase : Phase) : Prop :=
  phase.Carries cfg fun _ _ => True

theorem Phase.Checked.unblocked {cfg : Settings} {phase : Phase} (checked : phase.Checked cfg) :
    phase.Unblocked cfg := by
  cases phase with
  | finding | findingOld | calling => exact Passed.unblocked checked
  | _ => trivial

theorem turn_checked {p : Platform σ} {cfg : Settings} {g g' : Shared σ} {conn conn' : Conn}
    {input : Input} (checked : conn.phase.Checked cfg)
    (ran : turn p cfg g conn input = some (g', conn')) : conn'.phase.Checked cfg :=
  turn_carries ⟨fun _ => trivial, fun _ _ _ => trivial⟩ checked
    (fun _ _ _ _ _ _ _ _ _ => trivial) ran

/-! ## The state of the backend -/

/-- Only the engine can change the state of the fake backend. -/
theorem turn_world {p : Platform FakeState} (fake : p.backend = Fake.fakeBackend) {cfg : Settings}
    {g g' : Shared FakeState} {conn conn' : Conn} {input : Input}
    (ran : turn p cfg g conn input = some (g', conn')) :
    (∃ req snap old env, conn.phase = .calling req snap old ∧
      g'.world = (handleBody p.backend env req snap old g.world).2) ∨
    ((∀ req snap old, conn.phase ≠ .calling req snap old) ∧ g'.world = g.world) := by
  have captured {result : Except Bytes Snapshot} {w : FakeState}
      (taken : p.backend.apply .captureSnapshot g.world = (result, w)) : w = g.world := by
    rw [fake] at taken
    exact (congrArg Prod.snd taken).symm
  cases turn_cases ran with
  | core phase surroundings ranCore => exact Or.inl ⟨_, _, _, _, phase, by rw [ranCore]; rfl⟩
  | captureOk captures taken =>
      refine Or.inr ⟨?_, captured taken⟩
      intro req snap old calling
      rw [calling] at captures
      cases captures
  | captureFails captures taken =>
      refine Or.inr ⟨?_, captured taken⟩
      intro req snap old calling
      rw [calling] at captures
      cases captures
  | hangUp phase =>
      refine Or.inr ⟨?_, rfl⟩
      rcases phase with phase | phase <;> simp [phase]
  | startPipe phase _ | startTcp phase _ | answered phase _ | refused phase _ | request phase _
  | hungUp phase _ | recovered phase _ _ | tooMany phase _ _ _ | created phase _ _ _
  | subscribed phase _ | unsubscribing phase _ | terminating phase _ | captured phase _
  | evictRound phase _ | evictDone phase _ | unknownSnapshot phase _ _ _ | pinned phase _ _ _
  | findingOld phase | storing phase _ | sending phase | unpinning phase _ | leaving phase _
  | closing phase => exact Or.inr ⟨by simp [phase], rfl⟩

/-- In read-only mode a turn leaves the state alone exactly when it is not the engine's
turn on an unguarded request that mutates. -/
theorem turn_world_iff {p : Platform FakeState} (fake : p.backend = Fake.fakeBackend)
    {cfg : Settings} (readOnly : cfg.readOnly = true) {g g' : Shared FakeState}
    {conn conn' : Conn} {input : Input} (inv : conn.phase.Unblocked cfg)
    (ran : turn p cfg g conn input = some (g', conn')) :
    g'.world = g.world ↔ ∀ req snap old, conn.phase = .calling req snap old →
      ¬ Mutates unguarded req old g.world := by
  rcases turn_world fake ran with ⟨req, snap, old, env, phase, engine⟩ | ⟨idle, same⟩
  · have unblocked : blockedReadOnly req.method = false := by
      rw [phase] at inv
      simpa [Phase.Unblocked, readOnly] using inv
    rw [engine, fake, Fake.handleBody_state_iff env snap, ← mutates_unguarded_iff unblocked]
    constructor
    · intro harmless req' snap' old' phase'
      cases phase.symm.trans phase'
      exact harmless
    · intro harmless
      exact harmless req snap old phase
  · constructor
    · intro _ req snap old phase
      exact absurd phase (idle req snap old)
    · intro _
      exact same

/-- The condition on a step: the engine gets no unguarded request that mutates.  Nothing
but calls of its methods changes a `FakeBackend`. -/
def harmless : Guard (Shared FakeState) Conn Input Transport (Outside FakeState) where
  turn g conn _ := ∀ req snap old, conn.phase = .calling req snap old →
    ¬ Mutates unguarded req old g.world
  env _ event := ∀ w, event ≠ .world w

theorem keeps_world {p : Platform FakeState} (fake : p.backend = Fake.fakeBackend)
    {cfg : Settings} (readOnly : cfg.readOnly = true) (world : FakeState) :
    Keeps (daemon p cfg) harmless (fun g => g.world = world)
      fun _ conn => conn.phase.Checked cfg where
  turn := by
    intro g conn input g' conn' same checked calm ran
    exact ⟨((turn_world_iff fake readOnly checked.unblocked ran).mpr calm).trans same,
      turn_checked checked ran⟩
  others := by
    intro g conn input g' conn' other _ _ inv _ _
    exact inv
  spawn := by
    intro g transport g' conn same _ spawned
    obtain ⟨rfl, rfl⟩ := accept_st spawned
    exact ⟨same, trivial, fun _ inv => inv⟩
  env := by
    intro g event g' same calm moved
    refine ⟨?_, fun _ inv => inv⟩
    rcases outside_cases moved with ⟨w, rfl, _⟩ | ⟨nanoseconds, _, rfl⟩ | ⟨_, _, rfl⟩
    · exact absurd rfl (calm w)
    · exact same
    · exact same

/-- In read-only mode, in every reachable state, a turn of a connection leaves the state of
the fake backend as it is exactly when it is not the engine's turn on an unguarded request
that mutates.  So a run without such turns ends with the state it began with. -/
theorem readOnly_keeps_state (stod : Json.Stod) (bcrypt : Crypto.BCrypt) (cfg : Settings)
    (readOnly : cfg.readOnly = true) (world : FakeState) :
    let p : Platform FakeState := ⟨Fake.fakeBackend, stod, bcrypt⟩
    (∀ config, (daemon p cfg).Runs {} (initial world) config →
      ∀ conn ∈ config.parts, ∀ input g' conn',
        turn p cfg config.shared conn input = some (g', conn') →
        (g'.world = config.shared.world ↔ ∀ req snap old, conn.phase = .calling req snap old →
          ¬ Mutates unguarded req old config.shared.world)) ∧
      ∀ target, (daemon p cfg).Runs harmless (initial world) target →
        target.shared.world = world := by
  intro p
  constructor
  · intro config run conn member input g' conn' ran
    have checked : conn.phase.Checked cfg :=
      forall_conn run (fun _ => trivial) (fun _ _ _ _ _ holds _ => turn_checked holds) conn member
    exact turn_world_iff rfl readOnly checked.unblocked ran
  · intro target run
    exact (run.invariant (keeps_world rfl readOnly world) ⟨rfl, by simp [initial]⟩).1

/-- A check for harmless moves that looks only at the method of the engine's request. -/
def plainlyHarmless (config : Config (Shared FakeState) Conn) :
    Transition.Move Input Transport (Outside FakeState) → Bool
  | .turn index _ =>
      match config.parts[index]?.map Conn.phase with
      | some (.calling req _ _) =>
          decide (req.method ∉ (["window.ensureVisible", "window.ensureForeground"] ++
            unguarded).map ascii)
      | _ => true
  | .env (.world _) => false
  | _ => true

theorem plainlyHarmless_sound (config : Config (Shared FakeState) Conn)
    (move : Transition.Move Input Transport (Outside FakeState))
    (passed : plainlyHarmless config move = true) : harmless.allows config move := by
  cases move with
  | turn index input =>
      intro conn found req snap old phase mutates
      simp only [plainlyHarmless, found, Option.map_some, phase, decide_eq_true_eq] at passed
      exact Fake.not_mutates_of_method passed mutates
  | spawn transport => trivial
  | env event =>
      rintro w rfl
      cases passed

/-- A TCP client tries to inject input and then asks for the top-level windows. -/
def sendThenList : List (Transition.Move Input Transport (Outside FakeState)) :=
  [.spawn .tcp, .turn 0 (.start none []),
    .turn 0 (.frame (some (requestText "1" "input.send" [("data_b64", .str (ascii "AAAA"))]))),
    .turn 0 .go,
    .turn 0 (.frame (some (requestText "2" "window.listTop" []))),
    .turn 0 .go, .turn 0 .go, .turn 0 (.core false [] 0 0), .turn 0 .go]

/-- The read-only daemon over one visible window. -/
def readOnlyRun (moves : List (Transition.Move Input Transport (Outside FakeState))) :
    Option (Config (Shared FakeState) Conn) :=
  Transition.exec (Transition.checked (daemon fakePlatform { readOnly := true }).next
    plainlyHarmless) (initial (FakeState.ofWindows [{ hwnd := 1 }])) moves

theorem sendThenList_enabled : (readOnlyRun sendThenList).isSome := by
  decide +kernel

theorem readOnly_keeps_state_sendThenList :
    ((readOnlyRun sendThenList).get sendThenList_enabled).shared.world =
      FakeState.ofWindows [{ hwnd := 1 }] :=
  (readOnly_keeps_state Json.integerStod Crypto.BCrypt.unavailable { readOnly := true } rfl _).2 _
    (System.runs_checked _ _ _ plainlyHarmless_sound _ _ sendThenList_enabled)

/-- A TCP client of a read-only daemon hides a window, writes the clipboard and deletes a
registry key. -/
theorem readOnly_mutated :
    (Transition.exec (daemon fakePlatform { readOnly := true }).next
      (initial (FakeState.ofWindows [{ hwnd := 1 }]))
      [.spawn .tcp, .turn 0 (.start none []),
        .turn 0 (.frame (some (requestText "1" "window.ensureVisible"
          [("hwnd", .str (ascii "0x1")), ("visible", .bool false)]))),
        .turn 0 .go, .turn 0 .go, .turn 0 (.core false [] 0 0), .turn 0 .go,
        .turn 0 (.frame (some (requestText "2" "clipboard.write" [("text", .str (ascii "x"))]))),
        .turn 0 .go, .turn 0 .go, .turn 0 (.core false [] 0 0), .turn 0 .go,
        .turn 0 (.frame (some (requestText "3" "reg.delete" [("path", .str (ascii "k"))]))),
        .turn 0 .go, .turn 0 .go, .turn 0 (.core false [] 0 0)]).map
        (fun target => (target.shared.world.w.map fun entry => entry.2.visible,
          target.shared.world.injectedEvents)) =
      some ([false], [ascii "clipboard_write:x", ascii "reg_delete:k val:"]) := by
  decide +kernel

end WinInspect.Daemon
