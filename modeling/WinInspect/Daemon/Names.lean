import WinInspect.Daemon.Store
import WinInspect.Data.Names

/-!
# Snapshot ids are stable names

The snapshot store is a store of names: a snapshot is issued under an id, requests look ids
up as `snapshot_id` and as `old_snapshot_id`, and evictions forget them.  What connections
do with ids is recorded in an auxiliary variable.
-/

namespace WinInspect.Daemon

open Transition (Config System)
open Transition.System (Aux Keeps)

variable {σ : Type}

/-- The snapshot a request has got by its `snapshot_id`. -/
def Phase.obtained : Phase → Option Snapshot
  | .findingOld _ snap => some snap
  | _ => none

/-- The snapshot a request has got to compare with. -/
def Phase.obtainedOld : Phase → Option Snapshot
  | .calling _ _ old => old
  | _ => none

/-- What a turn does with a snapshot id. -/
def usesName (g : Shared σ) (conn conn' : Conn) : Option (Names.Event Bytes Snapshot) :=
  match conn.phase with
  | .captured _ s | .subscribed _ s | .storing _ _ _ _ s => some (.issue g.st.nextSid s)
  | .finding req =>
      (getStr req.params "snapshot_id").map fun sid => .lookup sid conn'.phase.obtained
  | .findingOld req _ => (oldSid conn req).map fun osid => .lookup osid conn'.phase.obtainedOld
  | _ => none

/-- Record what happens to snapshot ids. -/
def nameHistory :
    Aux (Shared σ) Conn Input Transport (Outside σ) (List (Names.Event Bytes Snapshot)) Unit where
  turn g conn _ _ conn' history _ := (history ++ (usesName g conn conn').toList, ())
  spawn _ _ _ _ history := (history, ())
  env _ _ _ history := history

/-- The store without its order. -/
def Shared.held (g : Shared σ) (sid : Bytes) : Option Snapshot :=
  g.st.snaps.lookup sid

theorem StoreChange.forgets {st st' : ServerState} (change : StoreChange st st' none) (sid : Bytes)
    (s : Snapshot) (found : st'.snaps.lookup sid = some s) : st.snaps.lookup sid = some s := by
  cases change with
  | keep same => rwa [same.snaps] at found
  | touch _ _ same => rwa [same.snaps] at found
  | evict same =>
      rw [same.snaps] at found
      exact lookup_of_evictOnce found

theorem StoreChange.issues {st st' : ServerState} {fresh : Snapshot}
    (change : StoreChange st st' (some fresh)) (sid : Bytes) (s : Snapshot)
    (found : st'.snaps.lookup sid = some s) :
    (sid = st.nextSid ∧ s = fresh) ∨ st.snaps.lookup sid = some s := by
  cases change with
  | issue same =>
      rw [same.snaps] at found
      change (Map.emplace st.nextSid fresh st.snaps).lookup sid = some s at found
      unfold Map.emplace at found
      split at found
      · exact Or.inr found
      · rw [Map.lookup_insert_eq] at found
        split at found
        · rename_i new
          cases found
          exact Or.inl ⟨new, rfl⟩
        · exact Or.inr found

theorem usesName_of_captures {g : Shared σ} {conn conn' : Conn} {resp : CoreResponse}
    {req : CoreRequest} {next : Snapshot → Phase} (captures : Captures conn.phase resp req next) :
    usesName g conn conn' = none := by
  unfold usesName
  generalize conn.phase = phase at captures
  cases captures with
  | finding req unnamed =>
      dsimp only
      rw [unnamed]
      rfl
  | _ => rfl

/-- Every turn is a step of a store of names. -/
theorem turn_names {p : Platform σ} {cfg : Settings} {g g' : Shared σ} {conn conn' : Conn}
    {input : Input} (ran : turn p cfg g conn input = some (g', conn')) :
    Names.Step g.held (usesName g conn conn') g'.held := by
  have change := turn_storeChange ran
  cases turn_cases ran with
  | captured phase _ | subscribed phase _ | storing phase _ =>
      rw [phase] at change
      rw [usesName, phase]
      exact .issue _ _ change.issues
  | @unknownSnapshot req sid phase named free unknown =>
      rw [phase] at change
      have missed : usesName g conn (conn.send req (badSnapshotResponse conn.transport req)) =
          some (.lookup sid (g.held sid)) := by
        rw [usesName, phase, Shared.held, unknown]
        simp only [named]
        rfl
      rw [missed]
      exact .lookup sid change.forgets
  | @pinned req sid snap phase named free stored =>
      rw [phase] at change
      have got : usesName g conn ({ conn with pinnedSid := sid }.goto (.findingOld req snap)) =
          some (.lookup sid (g.held sid)) := by
        rw [usesName, phase, Shared.held, stored]
        simp only [named]
        rfl
      rw [got]
      exact .lookup sid change.forgets
  | @findingOld req snap phase =>
      rw [phase] at change
      rw [usesName, phase]
      dsimp only
      cases named : oldSid conn req with
      | none => exact .forget change.forgets
      | some osid =>
          have got : (conn.goto (.calling req snap (oldSnapshot g conn req))).phase.obtainedOld =
              g.held osid := by
            change oldSnapshot g conn req = g.held osid
            rw [oldSnapshot, named]
            rfl
          rw [got]
          exact .lookup osid change.forgets
  | captureOk captures _ | captureFails captures _ =>
      rw [captures.issues] at change
      rw [usesName_of_captures captures]
      exact .forget change.forgets
  | hangUp phase =>
      rcases phase with phase | phase <;> rw [phase] at change <;> rw [usesName, phase] <;>
        exact .forget change.forgets
  | startPipe phase _ | startTcp phase _ | answered phase _ | refused phase _ | request phase _
  | hungUp phase _ | core phase _ _ | recovered phase _ _ | tooMany phase _ _ _
  | created phase _ _ _ | terminating phase _ | evictDone phase _ | evictRound phase _
  | unsubscribing phase _ | sending phase | unpinning phase _ | leaving phase _
  | closing phase =>
      rw [phase] at change
      rw [usesName, phase]
      exact .forget change.forgets

/-! ## The invariant -/

/-- The names are stable, and the issued ids are numbered below the counter. -/
structure NamesInv (g : Shared σ) (history : List (Names.Event Bytes Snapshot)) : Prop where
  holds : Names.Holds history g.held
  numbered : ∀ {i sid s}, Names.Occurs history i (.issue sid s) →
    ∃ k < g.st.snapCounter, sid = ascii "s-" ++ decimal k

theorem usesName_issue {g : Shared σ} {conn conn' : Conn} {sid : Bytes} {s : Snapshot}
    (issues : usesName g conn conn' = some (.issue sid s)) :
    sid = g.st.nextSid ∧ conn.phase.issues = some s := by
  unfold usesName at issues
  generalize conn.phase = phase at issues
  cases phase with
  | captured | subscribed | storing =>
      cases issues
      exact ⟨rfl, rfl⟩
  | finding =>
      obtain ⟨_, _, lookup⟩ := Option.map_eq_some_iff.mp issues
      cases lookup
  | findingOld =>
      obtain ⟨_, _, lookup⟩ := Option.map_eq_some_iff.mp issues
      cases lookup
  | _ => cases issues

theorem StoreChange.counter_of_issues {st st' : ServerState} {s : Snapshot}
    (change : StoreChange st st' (some s)) : st'.snapCounter = st.snapCounter + 1 := by
  cases change with
  | issue same => exact same.snapCounter

/-- A turn keeps the invariant until the counter wraps. -/
theorem NamesInv.turn {p : Platform σ} {cfg : Settings} {g g' : Shared σ} {conn conn' : Conn}
    {input : Input} {history : List (Names.Event Bytes Snapshot)} (inv : NamesInv g history)
    (ran : turn p cfg g conn input = some (g', conn')) (few : g'.st.snapCounter ≤ 2 ^ 64) :
    NamesInv g' (history ++ (usesName g conn conn').toList) := by
  have change := turn_storeChange ran
  have below : ∀ {sid s}, usesName g conn conn' = some (.issue sid s) →
      sid = ascii "s-" ++ decimal g.st.snapCounter ∧ g.st.snapCounter < g'.st.snapCounter := by
    intro sid s issues
    obtain ⟨rfl, captured⟩ := usesName_issue issues
    rw [captured] at change
    have counted := change.counter_of_issues
    refine ⟨?_, by omega⟩
    rw [ServerState.nextSid, makeSnapId, Nat.mod_eq_of_lt (by omega)]
  constructor
  · apply inv.holds.step (turn_names ran)
    intro sid s issues i t old
    obtain ⟨k, small, same⟩ := inv.numbered old
    rw [(below issues).1] at same
    have equal := decimal_injective (List.append_cancel_left same)
    omega
  · intro i sid s issued
    cases event : usesName g conn conn' with
    | none =>
        rw [event, Option.toList_none, List.append_nil] at issued
        obtain ⟨k, small, shape⟩ := inv.numbered issued
        exact ⟨k, small.trans_le change.counter_le, shape⟩
    | some e =>
        rw [event] at issued
        rcases Names.occurs_concat.mp issued with old | ⟨_, rfl⟩
        · obtain ⟨k, small, shape⟩ := inv.numbered old
          exact ⟨k, small.trans_le change.counter_le, shape⟩
        · obtain ⟨shape, small⟩ := below event
          exact ⟨_, small, shape⟩

theorem NamesInv.congr {g g' : Shared σ} {history : List (Names.Event Bytes Snapshot)}
    (inv : NamesInv g history) (same : SameStore g.st g'.st) : NamesInv g' history where
  holds := inv.holds.forget fun sid s found => by
    rw [Shared.held, same.snaps] at found
    exact found
  numbered issued := by
    rw [same.snapCounter]
    exact inv.numbered issued

/-! ## Requests at work -/

/-- A request that names its snapshot works on the snapshot issued under that id. -/
def Phase.Grounded (history : List (Names.Event Bytes Snapshot)) : Phase → Prop
  | .findingOld req snap | .calling req snap _ =>
      ∀ sid, getStr req.params "snapshot_id" = some sid →
        ∃ i, Names.Occurs history i (.issue sid snap)
  | _ => True

theorem Phase.Grounded.append {history : List (Names.Event Bytes Snapshot)} {phase : Phase}
    (grounded : phase.Grounded history) (more : List (Names.Event Bytes Snapshot)) :
    phase.Grounded (history ++ more) := by
  cases phase with
  | findingOld | calling =>
      intro sid named
      obtain ⟨i, issued⟩ := grounded sid named
      exact ⟨i, issued.append more⟩
  | _ => trivial

theorem Routes.grounded {cfg : Settings} {req : CoreRequest} {phase : Phase}
    (routes : Routes cfg req phase) (history : List (Names.Event Bytes Snapshot)) :
    phase.Grounded history := by
  cases routes <;> trivial

theorem Captures.grounded {phase : Phase} {resp : CoreResponse} {req : CoreRequest}
    {next : Snapshot → Phase} (captures : Captures phase resp req next)
    (history : List (Names.Event Bytes Snapshot)) (s : Snapshot) : (next s).Grounded history := by
  cases captures with
  | finding req unnamed =>
      intro sid named
      rw [unnamed] at named
      cases named
  | _ => trivial

theorem turn_grounded {p : Platform σ} {cfg : Settings} {g g' : Shared σ} {conn conn' : Conn}
    {input : Input} {history : List (Names.Event Bytes Snapshot)} (inv : NamesInv g history)
    (grounded : conn.phase.Grounded history)
    (ran : turn p cfg g conn input = some (g', conn')) : conn'.phase.Grounded history := by
  cases turn_cases ran with
  | startTcp phase tcp =>
      dsimp only
      split <;> trivial
  | @request payload text phase read =>
      rcases onRequest_cases p.stod cfg conn text with ⟨req, _, _, routed⟩ | ⟨what, error⟩
      · exact routed.phase.grounded history
      · rw [error]
        trivial
  | hungUp phase read =>
      rcases leave_cases conn with ⟨_, _, left⟩ | ⟨_, _, left⟩ | ⟨_, left⟩ <;> rw [left] <;> trivial
  | core phase surroundings ranCore =>
      rcases afterCore_cases conn _ _ _ _ with ⟨_, _, polled⟩ | sent
      · rw [polled]
        trivial
      · rw [sent]
        trivial
  | recovered phase free known => exact (route_routed cfg _ _).phase.grounded history
  | created phase free unknown allowed => exact (route_routed cfg _ _).phase.grounded history
  | terminating phase free => exact (proceed_routed cfg _ _).phase.grounded history
  | captureOk captures taken => exact captures.grounded history _
  | evictRound phase full => exact grounded
  | @pinned req sid snap phase named free stored =>
      intro sid' named'
      cases named.symm.trans named'
      exact inv.holds.issued stored
  | findingOld phase =>
      rw [phase] at grounded
      exact grounded
  | sending phase =>
      rcases afterSend_cases (conn.write p.bcrypt _).2 with ⟨_, next⟩ | ⟨_, next⟩ <;>
        rw [next] <;> trivial
  | _ => trivial

/-- Every move keeps both invariants until the counter wraps. -/
theorem keeps_names (p : Platform σ) (cfg : Settings) :
    Keeps ((daemon p cfg).withAux nameHistory) {}
      (fun g => g.1.st.snapCounter ≤ 2 ^ 64 → NamesInv g.1 g.2)
      fun g conn => g.1.st.snapCounter ≤ 2 ^ 64 → conn.1.phase.Grounded g.2 where
  turn := by
    rintro ⟨g, history⟩ conn input ⟨g', history'⟩ conn' inv grounded _ turned
    obtain ⟨ran, recorded⟩ := System.withAux_turn turned
    have grows := (turn_storeChange ran).counter_le
    cases recorded
    refine ⟨fun few => (inv (grows.trans few)).turn ran few, fun few => ?_⟩
    exact (turn_grounded (inv (grows.trans few)) (grounded (grows.trans few)) ran).append _
  others := by
    rintro ⟨g, history⟩ conn input ⟨g', history'⟩ conn' other _ _ grounded _ turned
    obtain ⟨ran, recorded⟩ := System.withAux_turn turned
    have grows := (turn_storeChange ran).counter_le
    cases recorded
    exact fun few => (grounded (grows.trans few)).append _
  spawn := by
    rintro ⟨g, history⟩ kind ⟨g', history'⟩ conn inv _ spawned
    obtain ⟨created, recorded⟩ := System.withAux_spawn spawned
    cases recorded
    obtain ⟨rfl, new⟩ := accept_st created
    refine ⟨inv, fun _ => ?_, fun _ grounded => grounded⟩
    rw [new]
    trivial
  env := by
    rintro ⟨g, history⟩ event ⟨g', history'⟩ inv _ moved
    obtain ⟨changed, recorded⟩ := System.withAux_env moved
    have same := outside_sameStore changed
    cases recorded
    refine ⟨fun few => (inv ?_).congr same, fun _ grounded few => grounded ?_⟩
    · rwa [← same.snapCounter]
    · rwa [← same.snapCounter]

theorem names_start (world : σ) :
    System.Everywhere (fun g => g.1.st.snapCounter ≤ 2 ^ 64 → NamesInv g.1 g.2)
      (fun g conn => g.1.st.snapCounter ≤ 2 ^ 64 → conn.1.phase.Grounded g.2)
      (⟨({ world := world }, []), []⟩ :
        Config (Shared σ × List (Names.Event Bytes Snapshot)) (Conn × Unit)) := by
  constructor
  · exact fun _ => ⟨Names.holds_nil fun _ => rfl, nofun⟩
  · intro conn member
    cases member

/-- Snapshot ids are stable names: no id is issued twice, every lookup that succeeds gives
the snapshot that was captured when the id was issued, so that any two agree, and after a
lookup of an issued id has failed every later one fails.  The counter starts at 1 and every
capture adds one to it, so the bound on it is that there were fewer than `2 ^ 64` captures. -/
theorem snapshotIds_stable (p : Platform σ) (cfg : Settings) (world : σ)
    {target : Config (Shared σ × List (Names.Event Bytes Snapshot)) (Conn × Unit)}
    (run : ((daemon p cfg).withAux nameHistory).Runs {} ⟨({ world := world }, []), []⟩ target)
    (few : target.shared.1.st.snapCounter ≤ 2 ^ 64) :
    Names.Stable target.shared.2 ∧
      ∀ {i j sid s t}, Names.Occurs target.shared.2 i (.lookup sid (some s)) →
        Names.Occurs target.shared.2 j (.lookup sid (some t)) → s = t := by
  have inv := (run.invariant (keeps_names p cfg) (names_start world)).1 few
  exact ⟨inv.holds.stable, inv.holds.stable.agree⟩

/-- A TCP client looks its snapshot up before and after it is evicted. -/
def lookUpTwice : List (Transition.Move Input Transport (Outside Fake.FakeState)) :=
  let named := requestText "2" "daemon.health" [("snapshot_id", .str (ascii "s-1"))]
  captureTwice.take 7 ++
    [.turn 0 (.frame (some named)), .turn 0 .go, .turn 0 .go, .turn 0 (.core false [] 0 0),
      .turn 0 .go, .turn 0 .go] ++
    captureTwice.drop 7 ++ [.turn 0 .go, .turn 0 (.frame (some named)), .turn 0 .go]

/-- The recorded run. -/
def lookUpTwiceRun : Option (Config (Shared Fake.FakeState × List (Names.Event Bytes Snapshot))
    (Conn × Unit)) :=
  Transition.exec ((daemon fakePlatform { maxSnapshots := 1 }).withAux nameHistory).next
    ⟨({ world := {} }, []), []⟩ lookUpTwice

theorem lookUpTwice_ends :
    (lookUpTwiceRun.any fun target => decide (target.shared.2 =
        [.issue (ascii "s-1") ⟨[]⟩, .lookup (ascii "s-1") (some ⟨[]⟩),
          .issue (ascii "s-2") ⟨[]⟩, .lookup (ascii "s-1") none] ∧
      target.shared.1.st.snapCounter ≤ 2 ^ 64)) = true := by
  decide +kernel

theorem lookUpTwice_enabled : lookUpTwiceRun.isSome :=
  Option.isSome_of_any lookUpTwice_ends

theorem snapshotIds_stable_lookUpTwice :
    let target := lookUpTwiceRun.get lookUpTwice_enabled
    target.shared.2 =
        [.issue (ascii "s-1") ⟨[]⟩, .lookup (ascii "s-1") (some ⟨[]⟩),
          .issue (ascii "s-2") ⟨[]⟩, .lookup (ascii "s-1") none] ∧
      Names.Stable target.shared.2 := by
  have ends := Transition.get_of_any lookUpTwice_ends lookUpTwice_enabled
  exact ⟨ends.1, (snapshotIds_stable fakePlatform { maxSnapshots := 1 } {}
    (System.runs_exec _ _ _ lookUpTwice_enabled) ends.2).1⟩

end WinInspect.Daemon
