import WinInspect.Data.Sweep
import WinInspect.Daemon.Pins

/-!
# Eviction

The loop of `snapshot.capture` sweeps the LRU order with the pinned ids as the ones to
keep.  It runs with `mu` held, so nothing but its own rounds changes the order and the
pins, and it ends exactly when no more ids are pinned than the store may hold.

Only `snapshot.capture` evicts.  The baselines of subscriptions and polls are stored
without a look at the limit, and the store is bounded in the runs where there is room
for each of them.
-/

namespace WinInspect.Daemon

open Transition (Config System Move)
open Transition.System (Guard)

variable {σ : Type}

/-! ## Rounds -/

/-- The test of the eviction loop. -/
def ServerState.isPinned (st : ServerState) (sid : Bytes) : Bool :=
  decide (0 < st.pinCount sid)

theorem isPinned_evictOnce (st : ServerState) : st.evictOnce.isPinned = st.isPinned := by
  funext sid
  unfold ServerState.evictOnce
  split
  · rfl
  · rename_i oldest rest order
    split
    · change decide (0 < (st.addPin oldest 0).pinCount sid) = decide (0 < st.pinCount sid)
      simp
    · rename_i unpinned
      change decide (0 < ((st.pinnedCounts.erase oldest).lookup sid).getD 0) = _
      rw [Map.lookup_erase_eq]
      split
      · rename_i same
        subst same
        simp [ServerState.isPinned, unpinned]
      · rfl

theorem lruOrder_evictOnce (st : ServerState) :
    st.evictOnce.lruOrder = Sweep.round st.isPinned st.lruOrder := by
  unfold ServerState.evictOnce
  split
  · rename_i order
    rw [order]
    rfl
  · rename_i oldest rest order
    rw [order, Sweep.round]
    split
    · rename_i pinned
      exact (if_pos (decide_eq_true pinned)).symm
    · rename_i unpinned
      exact (if_neg (by simpa [ServerState.isPinned] using unpinned)).symm

theorem lruOrder_rounds (st : ServerState) (n : Nat) :
    (ServerState.evictOnce^[n] st).lruOrder = (Sweep.round st.isPinned)^[n] st.lruOrder := by
  have both : (ServerState.evictOnce^[n] st).isPinned = st.isPinned ∧
      (ServerState.evictOnce^[n] st).lruOrder = (Sweep.round st.isPinned)^[n] st.lruOrder := by
    induction n with
    | zero => exact ⟨rfl, rfl⟩
    | succ n inductionHypothesis =>
        obtain ⟨pins, order⟩ := inductionHypothesis
        rw [Function.iterate_succ_apply', Function.iterate_succ_apply']
        exact ⟨(isPinned_evictOnce _).trans pins, by rw [lruOrder_evictOnce, pins, order]⟩
  exact both.2

/-! ## The loop -/

section

variable {p : Platform σ} {cfg : Settings} {config : Config (Shared σ) Conn} {index : Nat}
  {conn : Conn} {req : CoreRequest} {sid : Bytes}

/-- A turn in the loop is a round while the store is too full. -/
theorem next_evicting (found : config.parts[index]? = some conn)
    (phase : conn.phase = .evicting req sid)
    (full : cfg.maxSnapshots < config.shared.st.lruOrder.length) :
    (daemon p cfg).next config (.turn index .go) =
      some { config with shared := config.shared.withSt config.shared.st.evictOnce } := by
  have turned : turn p cfg config.shared conn .go =
      some (config.shared.withSt config.shared.st.evictOnce, conn) := by
    simp only [turn, onGo, phase, evict, if_pos full]
  rw [System.next_turn found turned, System.set_of_getElem? found]

/-- As long as the store is too full, the turns of the connection are rounds. -/
theorem exec_evicting (found : config.parts[index]? = some conn)
    (phase : conn.phase = .evicting req sid) (n : Nat)
    (full : ∀ k < n,
      cfg.maxSnapshots < (ServerState.evictOnce^[k] config.shared.st).lruOrder.length) :
    Transition.exec (daemon p cfg).next config (List.replicate n (.turn index .go)) =
      some { config with
        shared := config.shared.withSt (ServerState.evictOnce^[n] config.shared.st) } := by
  induction n generalizing config with
  | zero => rfl
  | succ n inductionHypothesis =>
      rw [List.replicate_succ, Transition.exec_cons, next_evicting found phase (full 0 (by omega)),
        Option.bind_some]
      refine @inductionHypothesis ⟨config.shared.withSt config.shared.st.evictOnce, config.parts⟩
        found ?_
      exact fun k below => full (k + 1) (by omega)

/-- With too many pins the order stays too long in every round, so the loop never ends. -/
theorem evicting_forever (found : config.parts[index]? = some conn)
    (phase : conn.phase = .evicting req sid)
    (many : cfg.maxSnapshots < config.shared.st.lruOrder.countP config.shared.st.isPinned)
    {n : Nat} {after : Config (Shared σ) Conn}
    (executed : Transition.exec (daemon p cfg).next config
      (List.replicate n (.turn index .go)) = some after) :
    cfg.maxSnapshots < after.shared.st.lruOrder.length := by
  have full : ∀ k, cfg.maxSnapshots <
      (ServerState.evictOnce^[k] config.shared.st).lruOrder.length := by
    intro k
    rw [lruOrder_rounds]
    calc cfg.maxSnapshots
        < config.shared.st.lruOrder.countP config.shared.st.isPinned := many
      _ = _ := (Sweep.countP_rounds config.shared.st.isPinned _ k).symm
      _ ≤ _ := List.countP_le_length
  rw [exec_evicting found phase n fun k _ => full k] at executed
  cases executed
  exact full n

end

/-- The eviction loop of a connection comes down to the limit after finitely many rounds
exactly when no more entries of the LRU order are pinned than the limit allows. -/
theorem eviction_ends_iff (p : Platform σ) (cfg : Settings) (config : Config (Shared σ) Conn)
    (index : Nat) (conn : Conn) (req : CoreRequest) (sid : Bytes)
    (found : config.parts[index]? = some conn) (phase : conn.phase = .evicting req sid) :
    (∃ n after, Transition.exec (daemon p cfg).next config
        (List.replicate n (.turn index .go)) = some after ∧
      after.shared.st.lruOrder.length ≤ cfg.maxSnapshots) ↔
    config.shared.st.lruOrder.countP config.shared.st.isPinned ≤ cfg.maxSnapshots := by
  constructor
  · rintro ⟨n, after, executed, short⟩
    by_contra many
    exact absurd short (Nat.not_le_of_lt
      (evicting_forever found phase (Nat.lt_of_not_le many) executed))
  · intro few
    have reaches : ∃ n, (ServerState.evictOnce^[n] config.shared.st).lruOrder.length ≤
        cfg.maxSnapshots := by
      simp only [lruOrder_rounds]
      exact (Sweep.exists_rounds_le_iff _ _ _).mpr few
    refine ⟨Nat.find reaches, _, exec_evicting found phase _ fun k below => ?_,
      Nat.find_spec reaches⟩
    exact Nat.lt_of_not_le (Nat.find_min reaches below)

/-- The connection runs the eviction loop, with `mu` held. -/
def Phase.evicts : Phase → Bool
  | .evicting .. => true
  | _ => false

theorem Phase.exists_of_evicts {phase : Phase} (evicts : phase.evicts = true) :
    ∃ req sid, phase = .evicting req sid := by
  cases phase with
  | evicting req sid => exact ⟨req, sid, rfl⟩
  | _ => cases evicts

theorem exists_evicting {parts : List Conn} {index : Nat}
    (evicts : parts[index]?.any (fun conn => conn.phase.evicts) = true) :
    ∃ conn req sid, parts[index]? = some conn ∧ conn.phase = .evicting req sid := by
  obtain ⟨conn, found, running⟩ := (Option.any_eq_true _ _).mp evicts
  obtain ⟨req, sid, phase⟩ := Phase.exists_of_evicts running
  exact ⟨conn, req, sid, found, phase⟩

/-- Two pipe clients subscribe and name their baselines in requests, which pins them; a
third one captures. -/
def captureOverPins (pins : List Nat) :
    List (Move Input Transport (Outside Fake.FakeState)) :=
  [.spawn .pipe, .spawn .pipe, .spawn .pipe, .turn 0 (.start none []), .turn 1 (.start none []),
    .turn 2 (.start none []),
    .turn 0 (.frame (some (requestText "1" "events.subscribe" []))), .turn 0 .go, .turn 0 .go,
    .turn 0 .go,
    .turn 1 (.frame (some (requestText "2" "events.subscribe" []))), .turn 1 .go, .turn 1 .go,
    .turn 1 .go] ++
  pins.flatMap (fun index =>
    [.turn index (.frame (some (requestText "3" "window.listTop"
      [("snapshot_id", .str (makeSnapId (index + 1)))]))), .turn index .go]) ++
  [.turn 2 (.frame (some (requestText "4" "snapshot.capture" []))), .turn 2 .go, .turn 2 .go]

/-- The state in which the third client begins to evict, with room for one snapshot. -/
def overPins (pins : List Nat) : Option (Config (Shared Fake.FakeState) Conn) :=
  Transition.exec (daemon fakePlatform { maxSnapshots := 1 }).next (initial {})
    (captureOverPins pins)

theorem overPins_ends : ∀ pins ∈ [[1], [0, 1]],
    ((overPins pins).any fun config => decide (
      config.parts[2]?.any (fun conn => conn.phase.evicts) = true ∧
        config.shared.st.lruOrder.countP config.shared.st.isPinned = pins.length)) = true := by
  decide +kernel

theorem overPins_one : (overPins [1]).isSome :=
  Option.isSome_of_any (overPins_ends _ (by decide))

/-- With one pin the loop leaves the pinned snapshot. -/
theorem eviction_ends_iff_onePin :
    let config := (overPins [1]).get overPins_one
    ∃ n after, Transition.exec (daemon fakePlatform { maxSnapshots := 1 }).next config
        (List.replicate n (.turn 2 .go)) = some after ∧ after.shared.st.lruOrder.length ≤ 1 := by
  have ends := Transition.get_of_any (overPins_ends [1] (by decide)) overPins_one
  obtain ⟨conn, req, sid, found, phase⟩ := exists_evicting ends.1
  exact (eviction_ends_iff fakePlatform { maxSnapshots := 1 } _ 2 conn req sid found phase).mpr
    ends.2.le

theorem overPins_two : (overPins [0, 1]).isSome :=
  Option.isSome_of_any (overPins_ends _ (by decide))

/-- With two pins the loop never comes down to the limit. -/
theorem eviction_never_ends :
    let config := (overPins [0, 1]).get overPins_two
    config.parts[2]?.any (fun conn => conn.phase.evicts) = true ∧
      ∀ n after, Transition.exec (daemon fakePlatform { maxSnapshots := 1 }).next config
        (List.replicate n (.turn 2 .go)) = some after → 1 < after.shared.st.lruOrder.length := by
  have ends := Transition.get_of_any (overPins_ends [0, 1] (by decide)) overPins_two
  refine ⟨ends.1, fun n after executed => ?_⟩
  obtain ⟨conn, req, sid, found, phase⟩ := exists_evicting ends.1
  exact evicting_forever found phase (Nat.lt_of_succ_le ends.2.ge) executed

/-! ## The bound -/

/-- The number of stored snapshots that are pinned. -/
def ServerState.pinnedSnaps (st : ServerState) : Nat :=
  (st.snaps.keys.filter fun sid => st.isPinned sid).card

/-- The condition on a step: there is room for a baseline that is stored. -/
def roomForBaselines (cfg : Settings) : Guard (Shared σ) Conn Input Transport (Outside σ) where
  turn g conn _ := conn.phase.storesBaseline = true → g.st.lruOrder.length < cfg.maxSnapshots

/-- Every stored id is in the LRU order. -/
def Listed (st : ServerState) : Prop :=
  ∀ sid ∈ st.snaps, sid ∈ st.lruOrder

theorem Listed.change {st st' : ServerState} {issues : Option Snapshot} (listed : Listed st)
    (change : StoreChange st st' issues) : Listed st' := by
  intro sid member
  cases change with
  | keep same =>
      rw [same.snaps] at member
      rw [same.lruOrder]
      exact listed sid member
  | issue same =>
      rw [same.snaps] at member
      rw [same.lruOrder]
      rcases Map.mem_emplace.mp member with rfl | old
      · exact List.mem_append_right _ List.mem_cons_self
      · exact List.mem_append_left _ (listed sid old)
  | touch moved stored same =>
      rw [same.snaps] at member
      rw [same.lruOrder]
      by_cases here : sid = moved
      · exact List.mem_append_right _ (by simp [here])
      · exact List.mem_append_left _ (by simp [here, listed sid member])
  | evict same =>
      rw [same.snaps] at member
      rw [same.lruOrder]
      cases order : st.lruOrder with
      | nil =>
          simp only [ServerState.evictOnce, order] at member ⊢
          exact order ▸ listed sid member
      | cons oldest rest =>
          have known : sid ∈ st.snaps → sid = oldest ∨ sid ∈ rest := by
            intro stored
            simpa [order] using listed sid stored
          simp only [ServerState.evictOnce, order] at member ⊢
          by_cases pinned : 0 < st.pinCount oldest
          · rw [if_pos pinned] at member ⊢
            simpa [or_comm] using known member
          · rw [if_neg pinned] at member ⊢
            obtain ⟨different, stored⟩ := Finmap.mem_erase.mp member
            exact (known stored).resolve_left different

/-- While `mu` is free, the store is within the limit. -/
def WithinLimit (cfg : Settings) (g : Shared σ) : Prop :=
  g.muHeld = false → g.st.lruOrder.length ≤ cfg.maxSnapshots

theorem length_touch_le {st : ServerState} {sid : Bytes} (listed : sid ∈ st.lruOrder) :
    (st.touch sid).lruOrder.length ≤ st.lruOrder.length := by
  have removed : (st.lruOrder.filter fun other => other ≠ sid).length < st.lruOrder.length :=
    List.length_filter_lt_length_iff_exists.mpr ⟨sid, listed, by simp⟩
  simpa [ServerState.touch] using removed

theorem turn_withinLimit {p : Platform σ} {cfg : Settings} {g g' : Shared σ} {conn conn' : Conn}
    {input : Input} (listed : Listed g.st) (within : WithinLimit cfg g)
    (room : (roomForBaselines cfg).turn g conn input)
    (ran : turn p cfg g conn input = some (g', conn')) : WithinLimit cfg g' := by
  intro free'
  cases turn_cases ran with
  | captured phase free => cases free'
  | evictDone phase fits => exact Nat.le_of_not_lt fits
  | subscribed phase free =>
      have below := room (by rw [phase]; rfl)
      simp only [subscribe, Shared.withSt]
      split <;> simpa [ServerState.issue, ServerState.modifySession] using below
  | storing phase free =>
      have below := room (by rw [phase]; rfl)
      simp only [storePoll, Shared.withSt]
      split <;> simpa [ServerState.issue, ServerState.modifySession] using below
  | unsubscribing phase free =>
      simp only [unsubscribe, Shared.withSt]
      split <;> exact within free
  | @pinned req sid snap phase named free stored =>
      have member := listed sid (Finmap.mem_of_lookup_eq_some stored)
      cases conn.transport with
      | pipe => exact (length_touch_le member).trans (within free)
      | tcp => exact within free
  | evictRound phase full => exact absurd (within free') (Nat.not_le_of_lt full)
  | _ => exact within free'

/-- In every run in which there is room for each baseline that is stored, between two
critical sections there are at most as many snapshots as the limit allows and are
pinned. -/
theorem store_bounded (p : Platform σ) (cfg : Settings) (world : σ)
    {target : Config (Shared σ) Conn}
    (run : (daemon p cfg).Runs (roomForBaselines cfg) (initial world) target)
    (free : target.shared.muHeld = false) :
    target.shared.st.snaps.keys.card ≤ cfg.maxSnapshots + target.shared.st.pinnedSnaps := by
  obtain ⟨listed, within⟩ : Listed target.shared.st ∧ WithinLimit cfg target.shared := by
    refine shared_of_runs (fun g => Listed g.st ∧ WithinLimit cfg g) run
      ⟨fun sid member => absurd member Finmap.notMem_empty, fun _ => Nat.zero_le _⟩ ?_ ?_
    · intro g conn input g' conn' inv room ran
      exact ⟨inv.1.change (turn_storeChange ran), turn_withinLimit inv.1 inv.2 room ran⟩
    · intro g event g' inv _ moved
      have same := outside_sameStore moved
      refine ⟨inv.1.change (.keep same), ?_⟩
      rw [WithinLimit, outside_muHeld moved, same.lruOrder]
      exact inv.2
  have sub : target.shared.st.snaps.keys ⊆ target.shared.st.lruOrder.toFinset := by
    intro sid member
    exact List.mem_toFinset.mpr (listed sid (Finmap.mem_keys.mp member))
  calc target.shared.st.snaps.keys.card
      ≤ target.shared.st.lruOrder.toFinset.card := Finset.card_le_card sub
    _ ≤ target.shared.st.lruOrder.length := List.toFinset_card_le _
    _ ≤ cfg.maxSnapshots := within free
    _ ≤ cfg.maxSnapshots + target.shared.st.pinnedSnaps := Nat.le_add_right _ _

/-- A check for room. -/
def roomCheck (cfg : Settings) (config : Config (Shared σ) Conn) :
    Move Input Transport (Outside σ) → Bool
  | .turn index _ => config.parts[index]?.all fun conn =>
      !conn.phase.storesBaseline || decide (config.shared.st.lruOrder.length < cfg.maxSnapshots)
  | _ => true

theorem roomCheck_sound (cfg : Settings) (config : Config (Shared σ) Conn)
    (move : Move Input Transport (Outside σ)) (passed : roomCheck cfg config move = true) :
    (roomForBaselines cfg).allows config move := by
  cases move with
  | turn index input =>
      intro conn found stores
      simpa [roomCheck, found, stores] using passed
  | spawn transport => trivial
  | env event => trivial

/-- A TCP client subscribes and captures two times. -/
def subscribeAndCapture : List (Move Input Transport (Outside Fake.FakeState)) :=
  [.spawn .tcp, .turn 0 (.start none []),
    .turn 0 (.frame (some (requestText "1" "events.subscribe" []))), .turn 0 .go, .turn 0 .go,
    .turn 0 .go] ++
  captureTwice.drop 2

/-- Its run with room for two snapshots. -/
def roomyRun : Option (Config (Shared Fake.FakeState) Conn) :=
  Transition.exec (Transition.checked (daemon fakePlatform { maxSnapshots := 2 }).next
    (roomCheck { maxSnapshots := 2 })) (initial {})
    (subscribeAndCapture ++ [.turn 0 .go])

theorem roomyRun_ends :
    (roomyRun.any fun target => decide (target.shared.st.snaps.keys.card = 2 ∧
      target.shared.muHeld = false)) = true := by
  decide +kernel

theorem roomyRun_enabled : roomyRun.isSome :=
  Option.isSome_of_any roomyRun_ends

theorem store_bounded_subscribeAndCapture :
    let target := roomyRun.get roomyRun_enabled
    target.shared.st.snaps.keys.card = 2 ∧
      target.shared.st.snaps.keys.card ≤ 2 + target.shared.st.pinnedSnaps := by
  have ends := Transition.get_of_any roomyRun_ends roomyRun_enabled
  exact ⟨ends.1, store_bounded fakePlatform { maxSnapshots := 2 } {}
    (System.runs_checked _ _ _ (roomCheck_sound _) _ _ roomyRun_enabled) ends.2⟩

/-- A client that subscribes twice has two snapshots stored where one is allowed. -/
theorem baselines_exceed_limit :
    (Transition.exec (daemon fakePlatform { maxSnapshots := 1 }).next (initial {})
      [.spawn .pipe, .turn 0 (.start none []),
        .turn 0 (.frame (some (requestText "1" "events.subscribe" []))), .turn 0 .go, .turn 0 .go,
        .turn 0 .go,
        .turn 0 (.frame (some (requestText "2" "events.subscribe" []))), .turn 0 .go, .turn 0 .go,
        .turn 0 .go]).map
      (fun target => (target.shared.muHeld, target.shared.st.snaps.keys.card,
        target.shared.st.pinnedSnaps)) = some (false, 2, 0) := by
  decide +kernel

end WinInspect.Daemon
