import WinInspect.Daemon.Turn

/-!
# The snapshot store

The snapshot store is the counter, the map and the LRU order of `ServerState`.  Six
code sites update the three by hand; `StoreChange` is what any of them can do, and
`StoreInv` is the representation invariant that ties the three together.
-/

namespace WinInspect.Daemon

open Transition (Config System)

variable {σ : Type}

/-- Two states with the same snapshot store. -/
structure SameStore (st st' : ServerState) : Prop where
  snapCounter : st'.snapCounter = st.snapCounter
  snaps : st'.snaps = st.snaps
  lruOrder : st'.lruOrder = st.lruOrder

theorem SameStore.refl (st : ServerState) : SameStore st st :=
  ⟨rfl, rfl, rfl⟩

/-- The snapshot that the next turn of a connection stores under a new id. -/
def Phase.issues : Phase → Option Snapshot
  | .subscribed _ base => some base
  | .captured _ s => some s
  | .storing _ _ _ _ fresh => some fresh
  | _ => none

/-- A subscription or a poll is about to store its baseline. -/
def Phase.storesBaseline : Phase → Bool
  | .subscribed .. | .storing .. => true
  | _ => false

theorem Phase.issues_of_storesBaseline {phase : Phase} (stores : phase.storesBaseline = true) :
    ∃ s, phase.issues = some s := by
  cases phase with
  | subscribed req base => exact ⟨base, rfl⟩
  | storing req snap old resp fresh => exact ⟨fresh, rfl⟩
  | _ => cases stores

/-- What one step can do to the snapshot store, given the snapshot it issues. -/
inductive StoreChange (st st' : ServerState) : Option Snapshot → Prop
  | keep (same : SameStore st st') : StoreChange st st' none
  | issue {s : Snapshot} (same : SameStore (st.issue s) st') : StoreChange st st' (some s)
  | touch (sid : Bytes) (stored : sid ∈ st.snaps) (same : SameStore (st.touch sid) st') :
      StoreChange st st' none
  | evict (same : SameStore st.evictOnce st') : StoreChange st st' none

theorem Captures.issues {phase : Phase} {resp : CoreResponse} {req : CoreRequest}
    {next : Snapshot → Phase} (captures : Captures phase resp req next) : phase.issues = none := by
  cases captures <;> rfl

theorem turn_storeChange {p : Platform σ} {cfg : Settings} {g g' : Shared σ} {conn conn' : Conn}
    {input : Input} (ran : turn p cfg g conn input = some (g', conn')) :
    StoreChange g.st g'.st conn.phase.issues := by
  cases turn_cases ran with
  | captured phase free =>
      rw [phase]
      exact .issue (SameStore.refl _)
  | subscribed phase free =>
      rw [phase]
      refine .issue ?_
      simp only [subscribe, Shared.withSt]
      split <;> exact ⟨rfl, rfl, rfl⟩
  | storing phase free =>
      rw [phase]
      refine .issue ?_
      simp only [storePoll, Shared.withSt]
      split <;> exact ⟨rfl, rfl, rfl⟩
  | @pinned req sid snap phase named free stored =>
      rw [phase]
      cases transport : conn.transport with
      | pipe => exact .touch sid (Finmap.mem_of_lookup_eq_some stored) ⟨rfl, rfl, rfl⟩
      | tcp => exact .keep ⟨rfl, rfl, rfl⟩
  | evictRound phase full =>
      rw [phase]
      exact .evict (SameStore.refl _)
  | unsubscribing phase free =>
      rw [phase]
      refine .keep ?_
      simp only [unsubscribe, Shared.withSt]
      split <;> exact ⟨rfl, rfl, rfl⟩
  | captureOk captures taken | captureFails captures taken =>
      rw [captures.issues]
      exact .keep ⟨rfl, rfl, rfl⟩
  | hangUp phase =>
      rcases phase with phase | phase <;> rw [phase] <;> exact .keep ⟨rfl, rfl, rfl⟩
  | startPipe phase _ | startTcp phase _ | answered phase _ | refused phase _ | request phase _
  | hungUp phase _ | core phase _ _ | recovered phase _ _ | tooMany phase _ _ _
  | created phase _ _ _ | terminating phase _ | evictDone phase _ | unknownSnapshot phase _ _ _
  | findingOld phase | sending phase | unpinning phase _ | leaving phase _ | closing phase =>
      rw [phase]
      exact .keep ⟨rfl, rfl, rfl⟩

/-! ## The representation invariant -/

/-- The LRU order lists the stored ids once each, and the ids are numbered below the
counter. -/
structure StoreInv (st : ServerState) : Prop where
  nodup : st.lruOrder.Nodup
  mem_lruOrder_iff : ∀ sid, sid ∈ st.lruOrder ↔ sid ∈ st.snaps
  numbered : ∀ sid ∈ st.snaps, ∃ k, 1 ≤ k ∧ k < st.snapCounter ∧ sid = ascii "s-" ++ decimal k
  counter_pos : 1 ≤ st.snapCounter

theorem storeInv_default : StoreInv {} where
  nodup := List.nodup_nil
  mem_lruOrder_iff sid := by simp [Finmap.notMem_empty]
  numbered sid member := absurd member Finmap.notMem_empty
  counter_pos := le_refl 1

theorem StoreInv.congr {st st' : ServerState} (inv : StoreInv st) (same : SameStore st st') :
    StoreInv st' where
  nodup := same.lruOrder ▸ inv.nodup
  mem_lruOrder_iff := by
    rw [same.lruOrder, same.snaps]
    exact inv.mem_lruOrder_iff
  numbered := by
    rw [same.snapCounter, same.snaps]
    exact inv.numbered
  counter_pos := same.snapCounter ▸ inv.counter_pos

/-- Below the wrap of the counter the next id is not in use. -/
theorem StoreInv.nextSid_not_mem {st : ServerState} (inv : StoreInv st)
    (few : st.snapCounter < 2 ^ 64) : st.nextSid ∉ st.snaps := by
  intro member
  obtain ⟨k, _, below, same⟩ := inv.numbered _ member
  unfold ServerState.nextSid makeSnapId at same
  have equal := decimal_injective (List.append_cancel_left same)
  rw [Nat.mod_eq_of_lt few] at equal
  omega

theorem StoreInv.issue {st : ServerState} (inv : StoreInv st) (few : st.snapCounter < 2 ^ 64)
    (s : Snapshot) : StoreInv (st.issue s) where
  nodup := by
    have fresh : st.nextSid ∉ st.lruOrder :=
      fun member => inv.nextSid_not_mem few ((inv.mem_lruOrder_iff _).mp member)
    exact inv.nodup.append (List.nodup_singleton _) (by simpa using fresh)
  mem_lruOrder_iff sid := by
    simp only [ServerState.issue, Map.mem_emplace, List.mem_append, List.mem_singleton,
      inv.mem_lruOrder_iff sid]
    exact or_comm
  numbered sid member := by
    rcases Map.mem_emplace.mp member with rfl | old
    · refine ⟨st.snapCounter, inv.counter_pos, Nat.lt_succ_self _, ?_⟩
      rw [ServerState.nextSid, makeSnapId, Nat.mod_eq_of_lt few]
    · obtain ⟨k, positive, below, shape⟩ := inv.numbered sid old
      exact ⟨k, positive, Nat.lt_succ_of_lt below, shape⟩
  counter_pos := Nat.le_succ_of_le inv.counter_pos

theorem StoreInv.touch {st : ServerState} (inv : StoreInv st) {sid : Bytes}
    (stored : sid ∈ st.snaps) : StoreInv (st.touch sid) where
  nodup := by
    refine (inv.nodup.filter _).append (List.nodup_singleton _) ?_
    simp
  mem_lruOrder_iff other := by
    simp only [ServerState.touch, List.mem_append, List.mem_filter, List.mem_singleton,
      inv.mem_lruOrder_iff other, decide_eq_true_eq]
    by_cases same : other = sid
    · simp [same, stored]
    · simp [same]
  numbered := inv.numbered
  counter_pos := inv.counter_pos

theorem StoreInv.evictOnce {st : ServerState} (inv : StoreInv st) : StoreInv st.evictOnce := by
  cases order : st.lruOrder with
  | nil => simpa [ServerState.evictOnce, order] using inv
  | cons oldest rest =>
      have distinct : oldest ∉ rest ∧ rest.Nodup := by
        simpa [order] using inv.nodup
      have members := inv.mem_lruOrder_iff
      rw [order] at members
      simp only [ServerState.evictOnce, order]
      split
      · -- the oldest id is pinned and moves to the back
        exact {
          nodup := distinct.2.append (List.nodup_singleton _) (by simpa using distinct.1)
          mem_lruOrder_iff := fun sid => by
            change sid ∈ rest ++ [oldest] ↔ sid ∈ st.snaps
            rw [← members sid]
            simp [or_comm]
          numbered := inv.numbered
          counter_pos := inv.counter_pos }
      · exact {
          nodup := distinct.2
          mem_lruOrder_iff := fun sid => by
            change sid ∈ rest ↔ sid ∈ st.snaps.erase oldest
            rw [Finmap.mem_erase, ← members sid, List.mem_cons]
            constructor
            · exact fun member => ⟨fun same => distinct.1 (same ▸ member), Or.inr member⟩
            · rintro ⟨different, same | member⟩
              · exact absurd same different
              · exact member
          numbered := fun sid member => inv.numbered sid (Finmap.mem_erase.mp member).2
          counter_pos := inv.counter_pos }

@[simp]
theorem evictOnce_snapCounter (st : ServerState) : st.evictOnce.snapCounter = st.snapCounter := by
  unfold ServerState.evictOnce
  split
  · rfl
  · split <;> rfl

/-- A round of the eviction loop stores nothing. -/
theorem lookup_of_evictOnce {st : ServerState} {sid : Bytes} {s : Snapshot}
    (found : st.evictOnce.snaps.lookup sid = some s) : st.snaps.lookup sid = some s := by
  unfold ServerState.evictOnce at found
  split at found
  · exact found
  · split at found
    · exact found
    · rw [Map.lookup_erase_eq] at found
      split at found
      · cases found
      · exact found

section

variable {st st' : ServerState} {issues : Option Snapshot}

theorem StoreChange.counter_le (change : StoreChange st st' issues) :
    st.snapCounter ≤ st'.snapCounter := by
  cases change with
  | keep same => exact same.snapCounter.ge
  | issue same => exact (Nat.le_succ _).trans same.snapCounter.ge
  | touch sid stored same => exact same.snapCounter.ge
  | evict same => exact (evictOnce_snapCounter st).ge.trans same.snapCounter.ge

theorem StoreChange.counter_le_succ (change : StoreChange st st' issues) :
    st'.snapCounter ≤ st.snapCounter + 1 := by
  cases change with
  | keep same => exact same.snapCounter.le.trans (Nat.le_succ _)
  | issue same => exact same.snapCounter.le
  | touch sid stored same => exact same.snapCounter.le.trans (Nat.le_succ _)
  | evict same =>
      rw [same.snapCounter, evictOnce_snapCounter]
      exact Nat.le_succ _

theorem StoreInv.change (inv : StoreInv st) (change : StoreChange st st' issues)
    (few : st'.snapCounter ≤ 2 ^ 64) : StoreInv st' := by
  cases change with
  | keep same => exact inv.congr same
  | @issue s same =>
      have below : st.snapCounter < 2 ^ 64 := by
        have := same.snapCounter
        simp only [ServerState.issue] at this
        omega
      exact (inv.issue below s).congr same
  | touch sid stored same => exact (inv.touch stored).congr same
  | evict same => exact inv.evictOnce.congr same

end

theorem outside_sameStore {cfg : Settings} {g g' : Shared σ} {event : Outside σ}
    (moved : outside cfg g event = some g') : SameStore g.st g'.st := by
  rcases outside_cases moved with ⟨w, _, rfl⟩ | ⟨nanoseconds, _, rfl⟩ | ⟨_, _, rfl⟩ <;>
    exact ⟨rfl, rfl, rfl⟩

theorem outside_muHeld {cfg : Settings} {g g' : Shared σ} {event : Outside σ}
    (moved : outside cfg g event = some g') : g'.muHeld = g.muHeld := by
  rcases outside_cases moved with ⟨w, _, rfl⟩ | ⟨nanoseconds, _, rfl⟩ | ⟨_, _, rfl⟩ <;> rfl

/-- The representation invariant holds until the counter wraps. -/
theorem storeInv_of_runs {p : Platform σ} {cfg : Settings} {world : σ}
    {target : Config (Shared σ) Conn} (run : (daemon p cfg).Runs {} (initial world) target)
    (few : target.shared.st.snapCounter ≤ 2 ^ 64) : StoreInv target.shared.st := by
  refine shared_of_runs (fun g => g.st.snapCounter ≤ 2 ^ 64 → StoreInv g.st) run
    (fun _ => storeInv_default) ?_ ?_ few
  · intro g conn input g' conn' inv _ ran few
    have change := turn_storeChange ran
    exact (inv (change.counter_le.trans few)).change change few
  · intro g event g' inv _ moved few
    have same := outside_sameStore moved
    exact (inv (same.snapCounter ▸ few)).congr same

/-- In every reachable state the LRU order has no duplicates, its elements are exactly
the keys of the store, and every key is `s-k` for a `k` the counter has passed.  The
counter starts at 1 and every capture adds one to it, so the bound on it is that there
were fewer than `2 ^ 64` captures. -/
theorem snapshotStore_wellFormed (p : Platform σ) (cfg : Settings) (world : σ)
    {target : Config (Shared σ) Conn} (run : (daemon p cfg).Runs {} (initial world) target)
    (few : target.shared.st.snapCounter ≤ 2 ^ 64) :
    target.shared.st.lruOrder.Nodup ∧
      (∀ sid, sid ∈ target.shared.st.lruOrder ↔ sid ∈ target.shared.st.snaps) ∧
      ∀ sid ∈ target.shared.st.snaps,
        ∃ k, 1 ≤ k ∧ k < target.shared.st.snapCounter ∧ sid = ascii "s-" ++ decimal k := by
  have inv := storeInv_of_runs run few
  exact ⟨inv.nodup, inv.mem_lruOrder_iff, inv.numbered⟩

/-- A TCP client captures twice with room for one snapshot. -/
def captureTwice : List (Transition.Move Input Transport (Outside Fake.FakeState)) :=
  let capture := requestText "1" "snapshot.capture" []
  [.spawn .tcp, .turn 0 (.start none []),
    .turn 0 (.frame (some capture)), .turn 0 .go, .turn 0 .go, .turn 0 .go, .turn 0 .go,
    .turn 0 (.frame (some capture)), .turn 0 .go, .turn 0 .go, .turn 0 .go, .turn 0 .go]

theorem captureTwice_ends :
    ((Transition.exec (daemon fakePlatform { maxSnapshots := 1 }).next (initial {})
      captureTwice).any fun target => decide (target.shared.st.lruOrder = [ascii "s-2"] ∧
        target.shared.st.snapCounter ≤ 2 ^ 64)) = true := by
  decide +kernel

theorem captureTwice_enabled :
    (Transition.exec (daemon fakePlatform { maxSnapshots := 1 }).next (initial {})
      captureTwice).isSome :=
  Option.isSome_of_any captureTwice_ends

/-- The invariant after the second capture has evicted the first snapshot. -/
theorem snapshotStore_wellFormed_captureTwice :
    let target := (Transition.exec (daemon fakePlatform { maxSnapshots := 1 }).next (initial {})
      captureTwice).get captureTwice_enabled
    target.shared.st.lruOrder = [ascii "s-2"] ∧ target.shared.st.lruOrder.Nodup ∧
      (∀ sid, sid ∈ target.shared.st.lruOrder ↔ sid ∈ target.shared.st.snaps) ∧
      ∀ sid ∈ target.shared.st.snaps,
        ∃ k, 1 ≤ k ∧ k < target.shared.st.snapCounter ∧ sid = ascii "s-" ++ decimal k := by
  have ends := Transition.get_of_any captureTwice_ends captureTwice_enabled
  exact ⟨ends.1, snapshotStore_wellFormed fakePlatform { maxSnapshots := 1 } {}
    (System.runs_exec _ _ _ captureTwice_enabled) ends.2⟩

end WinInspect.Daemon
