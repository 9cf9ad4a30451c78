import WinInspect.Daemon.Store
import WinInspect.Data.Recency

/-!
# The LRU order and the uses of snapshots

A snapshot is used when it is created and when a request looks it up as its `snapshot_id`
or its `old_snapshot_id`.  The LRU order follows the uses as long as every lookup moves
what it finds to the back or finds it there, and no round of the eviction loop rotates.
The pipe moves the snapshot of `snapshot_id`; TCP moves none, and neither transport moves
the one of `old_snapshot_id`.
-/

namespace WinInspect.Daemon

open Transition (Config System)
open Transition.System (Aux Guard)

variable {σ : Type}

/-- The snapshot that the next turn of a connection uses. -/
def Conn.uses (st : ServerState) (conn : Conn) : Option Bytes :=
  match conn.phase with
  | .captured .. | .subscribed .. | .storing .. => some st.nextSid
  | .finding req => getStr req.params "snapshot_id"
  | .findingOld req _ => getStr req.params "old_snapshot_id"
  | _ => none

/-- Record when each snapshot was last used. -/
def usage : Aux (Shared σ) Conn Input Transport (Outside σ) (Recency.Uses Bytes) Unit where
  turn g conn _ _ _ uses _ := (uses.next (conn.uses g.st), ())
  spawn _ _ _ _ uses := (uses, ())
  env _ _ _ uses := uses

/-- The next action of a connection disturbs the LRU order only by moving what it uses: a
snapshot that is looked up without being moved is the newest one, and the eviction loop finds
the oldest one unpinned. -/
def Settles (cfg : Settings) (st : ServerState) (transport : Transport) : Phase → Prop
  | .finding req => transport = .tcp → ∀ sid ∈ getStr req.params "snapshot_id",
      sid ∈ st.snaps → st.lruOrder.getLast? = some sid
  | .findingOld req _ => ∀ osid ∈ getStr req.params "old_snapshot_id",
      osid ∈ st.snaps → st.lruOrder.getLast? = some osid
  | .evicting .. => cfg.maxSnapshots < st.lruOrder.length →
      ∀ oldest ∈ st.lruOrder.head?, st.pinCount oldest ≤ 0
  | _ => True

instance (cfg : Settings) (st : ServerState) (transport : Transport) :
    DecidablePred (Settles cfg st transport)
  | .finding req => inferInstanceAs (Decidable (_ → ∀ sid ∈ getStr req.params "snapshot_id", _))
  | .findingOld req _ =>
      inferInstanceAs (Decidable (∀ osid ∈ getStr req.params "old_snapshot_id", _))
  | .evicting .. => inferInstanceAs (Decidable (_ → ∀ oldest ∈ st.lruOrder.head?, _))
  | .starting | .handshake | .reading | .session .. | .subscribing .. | .subscribed ..
  | .unsubscribing .. | .terminating .. | .capturing .. | .captured .. | .calling .. | .polled ..
  | .storing .. | .sending .. | .unpinning | .leaving | .closing | .closed =>
      inferInstanceAs (Decidable True)

/-- The condition on a step. -/
def settles (cfg : Settings) : Guard (Shared σ) Conn Input Transport (Outside σ) where
  turn g conn _ := Settles cfg g.st conn.transport conn.phase

/-! ## Turns -/

theorem Captures.unused {conn : Conn} {resp : CoreResponse} {req : CoreRequest}
    {next : Snapshot → Phase} (captures : Captures conn.phase resp req next) (st : ServerState) :
    conn.uses st = none := by
  unfold Conn.uses
  generalize conn.phase = phase at captures
  cases captures with
  | finding req unnamed => exact unnamed
  | _ => rfl

section

variable {st : ServerState} {sid : Bytes}

/-- Nothing happens when a snapshot is looked up that is not stored. -/
theorem StoreInv.follows_absent (inv : StoreInv st) (absent : sid ∉ st.snaps) :
    Recency.Follows st.lruOrder st.lruOrder (some sid) := by
  refine .drop (List.Sublist.refl _) ?_
  rintro key member ⟨⟩
  exact absent ((inv.mem_lruOrder_iff sid).mp member)

/-- The newest snapshot is already in its place. -/
theorem StoreInv.follows_newest (inv : StoreInv st) (newest : st.lruOrder.getLast? = some sid) :
    Recency.Follows st.lruOrder st.lruOrder (some sid) := by
  obtain ⟨front, order⟩ := List.getLast?_eq_some_iff.mp newest
  have left : front.Sublist st.lruOrder := order ▸ List.sublist_append_left _ _
  have moved : sid ∉ front := by
    have nodup := inv.nodup
    rw [order, List.nodup_append] at nodup
    intro member
    exact nodup.2.2 sid member sid List.mem_cons_self rfl
  exact .use left moved order

/-- A lookup that moves nothing. -/
theorem StoreInv.follows_lookup (inv : StoreInv st)
    (found : sid ∈ st.snaps → st.lruOrder.getLast? = some sid) :
    Recency.Follows st.lruOrder st.lruOrder (some sid) := by
  by_cases stored : sid ∈ st.snaps
  · exact inv.follows_newest (found stored)
  · exact inv.follows_absent stored

theorem follows_touch (st : ServerState) (sid : Bytes) :
    Recency.Follows st.lruOrder (st.touch sid).lruOrder (some sid) :=
  .use List.filter_sublist (by simp) rfl

theorem follows_keep (order : List Bytes) : Recency.Follows order order none :=
  .drop (List.Sublist.refl _) (fun _ _ => nofun)

theorem StoreInv.follows_issue (inv : StoreInv st) (few : st.snapCounter < 2 ^ 64) (s : Snapshot) :
    Recency.Follows st.lruOrder (st.issue s).lruOrder (some st.nextSid) := by
  refine .use (List.Sublist.refl _) ?_ rfl
  intro member
  exact inv.nextSid_not_mem few ((inv.mem_lruOrder_iff _).mp member)

/-- A round of the eviction loop that does not rotate. -/
theorem follows_evictOnce (unpinned : ∀ oldest ∈ st.lruOrder.head?, st.pinCount oldest ≤ 0) :
    Recency.Follows st.lruOrder st.evictOnce.lruOrder none := by
  unfold ServerState.evictOnce
  cases order : st.lruOrder with
  | nil =>
      dsimp only
      rw [order]
      exact follows_keep []
  | cons oldest rest =>
      rw [order] at unpinned
      dsimp only
      rw [if_neg (not_lt.mpr (unpinned oldest rfl))]
      exact .drop (List.sublist_cons_self _ _) (fun _ _ => nofun)

end

/-- The LRU order follows the uses. -/
theorem turn_follows {p : Platform σ} {cfg : Settings} {g g' : Shared σ} {conn conn' : Conn}
    {input : Input} (inv : StoreInv g.st) (few : g'.st.snapCounter ≤ 2 ^ 64)
    (settled : (settles cfg).turn g conn input)
    (ran : turn p cfg g conn input = some (g', conn')) :
    Recency.Follows g.st.lruOrder g'.st.lruOrder (conn.uses g.st) := by
  have change := turn_storeChange ran
  have issued {s : Snapshot} (issues : conn.phase.issues = some s)
      (used : conn.uses g.st = some g.st.nextSid) :
      Recency.Follows g.st.lruOrder g'.st.lruOrder (conn.uses g.st) := by
    rw [issues] at change
    cases change with
    | issue same =>
        have counted : g'.st.snapCounter = g.st.snapCounter + 1 := same.snapCounter
        rw [used, same.lruOrder]
        exact inv.follows_issue (by omega) s
  change Settles cfg g.st conn.transport conn.phase at settled
  cases turn_cases ran with
  | captured phase _ | subscribed phase _ | storing phase _ =>
      apply issued
      · rw [phase]
        rfl
      · rw [Conn.uses, phase]
  | @unknownSnapshot req sid phase named free unknown =>
      rw [Conn.uses, phase]
      dsimp only
      rw [named]
      exact inv.follows_absent (Finmap.lookup_eq_none.mp unknown)
  | @pinned req sid snap phase named free stored =>
      rw [Conn.uses, phase]
      rw [phase] at settled
      dsimp only
      rw [named]
      cases transport : conn.transport with
      | pipe => exact follows_touch g.st sid
      | tcp => exact inv.follows_lookup (settled transport sid named)
  | @findingOld req snap phase =>
      rw [Conn.uses, phase]
      rw [phase] at settled
      dsimp only
      cases named : getStr req.params "old_snapshot_id" with
      | none => exact follows_keep _
      | some osid => exact inv.follows_lookup (settled osid named)
  | @evictRound req sid phase full =>
      rw [Conn.uses, phase]
      rw [phase] at settled
      exact follows_evictOnce (settled full)
  | unsubscribing phase _ =>
      rw [Conn.uses, phase]
      simp only [unsubscribe, Shared.withSt]
      split <;> exact follows_keep _
  | captureOk captures _ | captureFails captures _ =>
      rw [captures.unused]
      exact follows_keep _
  | hangUp phase =>
      rcases phase with phase | phase <;> rw [Conn.uses, phase] <;> exact follows_keep _
  | startPipe phase _ | startTcp phase _ | answered phase _ | refused phase _ | request phase _
  | hungUp phase _ | core phase _ _ | recovered phase _ _ | tooMany phase _ _ _
  | created phase _ _ _ | terminating phase _ | evictDone phase _ | sending phase
  | unpinning phase _ | leaving phase _ | closing phase =>
      rw [Conn.uses, phase]
      exact follows_keep _

/-- A turn that removes a snapshot is a round of the eviction loop that removes the oldest. -/
theorem StoreChange.of_removed {st st' : ServerState} {issues : Option Snapshot} {sid : Bytes}
    (change : StoreChange st st' issues) (stored : sid ∈ st.snaps) (removed : sid ∉ st'.snaps) :
    st.lruOrder = sid :: st'.lruOrder ∧ st'.snaps = st.snaps.erase sid := by
  cases change with
  | keep same => exact absurd (same.snaps ▸ stored) removed
  | issue same => exact absurd (same.snaps ▸ Map.mem_emplace.mpr (Or.inr stored)) removed
  | touch _ _ same => exact absurd (same.snaps ▸ stored) removed
  | evict same =>
      rw [same.snaps] at removed
      rw [same.lruOrder, same.snaps]
      unfold ServerState.evictOnce at removed ⊢
      cases order : st.lruOrder with
      | nil =>
          rw [order] at removed
          exact absurd stored removed
      | cons oldest rest =>
          rw [order] at removed
          dsimp only at removed ⊢
          split at removed
          · exact absurd stored removed
          · rename_i unpinned
            rw [if_neg unpinned]
            by_cases same : sid = oldest
            · rw [same]
              exact ⟨rfl, rfl⟩
            · exact absurd (Finmap.mem_erase.mpr ⟨same, stored⟩) removed

/-! ## Runs -/

/-- The store is well formed and its order is the order of use. -/
structure RecencyInv (st : ServerState) (uses : Recency.Uses Bytes) : Prop where
  store : StoreInv st
  ordered : Recency.Ordered uses st.lruOrder

/-- The invariant holds until the counter wraps. -/
theorem recencyInv_of_runs {p : Platform σ} {cfg : Settings} {world : σ}
    {target : Config (Shared σ × Recency.Uses Bytes) (Conn × Unit)}
    (run : ((daemon p cfg).withAux usage).Runs (settles cfg).lift ⟨({ world := world }, {}), []⟩
      target)
    (few : target.shared.1.st.snapCounter ≤ 2 ^ 64) :
    RecencyInv target.shared.1.st target.shared.2 := by
  refine shared_of_runs_aux (fun g uses => g.st.snapCounter ≤ 2 ^ 64 → RecencyInv g.st uses) run
    (fun _ => ⟨storeInv_default, Recency.ordered_nil⟩) ?_ (fun _ _ _ inv => inv) ?_ few
  · intro g conn input g' conn' uses _ inv settled ran few
    have change := turn_storeChange ran
    have before := inv (change.counter_le.trans few)
    exact ⟨before.store.change change few,
      before.ordered.step (turn_follows before.store few settled ran)⟩
  · intro g event g' uses inv _ moved few
    have same := outside_sameStore moved
    have before := inv (same.snapCounter ▸ few)
    exact ⟨before.store.congr same, same.lruOrder ▸ before.ordered⟩

/-- One snapshot is removed and another one stays stored. -/
structure Evicts (st st' : ServerState) (removed kept : Bytes) : Prop where
  stored : removed ∈ st.snaps
  gone : removed ∉ st'.snaps
  stays : kept ∈ st'.snaps

instance (st st' : ServerState) (removed kept : Bytes) : Decidable (Evicts st st' removed kept) :=
  decidable_of_iff (_ ∧ _ ∧ _)
    ⟨fun ⟨stored, gone, stays⟩ => ⟨stored, gone, stays⟩,
    fun evicts => ⟨evicts.stored, evicts.gone, evicts.stays⟩⟩

/-- In every run in which the lookups and the eviction loop do not disturb the order, a turn
that removes a snapshot removes one that was used no later than any that stays. -/
theorem eviction_leastRecentlyUsed (p : Platform σ) (cfg : Settings) (world : σ)
    {source : Config (Shared σ × Recency.Uses Bytes) (Conn × Unit)}
    (run : ((daemon p cfg).withAux usage).Runs (settles cfg).lift ⟨({ world := world }, {}), []⟩
      source)
    (few : source.shared.1.st.snapCounter ≤ 2 ^ 64) {conn conn' : Conn} {input : Input}
    {g' : Shared σ} (ran : turn p cfg source.shared.1 conn input = some (g', conn'))
    {removed kept : Bytes} (evicts : Evicts source.shared.1.st g'.st removed kept) :
    source.shared.2.last removed ≤ source.shared.2.last kept := by
  have inv := recencyInv_of_runs run few
  obtain ⟨order, snaps⟩ := (turn_storeChange ran).of_removed evicts.stored evicts.gone
  have stays := evicts.stays
  rw [snaps] at stays
  obtain ⟨different, before⟩ := Finmap.mem_erase.mp stays
  have listed := (inv.store.mem_lruOrder_iff kept).mpr before
  have ordered := inv.ordered
  rw [order] at listed ordered
  exact ordered.head_le ((List.mem_cons.mp listed).resolve_left different)

/-! ## Two snapshots and room for no more -/

/-- A client captures two snapshots, asks for the tree of the older one, and captures a third
up to the eviction loop. -/
def lookBack (transport : Transport) :
    List (Transition.Move Input Transport (Outside Fake.FakeState)) :=
  [.spawn transport, .turn 0 (.start none [])] ++
    intercepted "snapshot.capture" [] 4 ++ intercepted "snapshot.capture" [] 4 ++
    handled "window.getTree" [("snapshot_id", .str (ascii "s-1"))] 2 2 ++
    intercepted "snapshot.capture" [] 2

/-- Room for two snapshots. -/
def roomForTwoSnapshots : Settings :=
  { maxSnapshots := 2 }

/-- The next turn of the only client removes one snapshot and leaves another one unpinned. -/
def evictsNext (removed kept : Bytes)
    (source : Config (Shared Fake.FakeState × Recency.Uses Bytes) (Conn × Unit)) : Bool :=
  source.parts.head?.any fun conn =>
    (turn fakePlatform roomForTwoSnapshots source.shared.1 conn.1 .go).any fun result =>
      decide (Evicts source.shared.1.st result.1.st removed kept) &&
        decide (result.1.st.pinCount kept ≤ 0)

theorem exists_of_evictsNext {removed kept : Bytes}
    {source : Config (Shared Fake.FakeState × Recency.Uses Bytes) (Conn × Unit)}
    (evicts : evictsNext removed kept source = true) :
    ∃ conn ∈ source.parts, ∃ g' conn',
      turn fakePlatform roomForTwoSnapshots source.shared.1 conn.1 .go = some (g', conn') ∧
      Evicts source.shared.1.st g'.st removed kept ∧ g'.st.pinCount kept ≤ 0 := by
  obtain ⟨conn, first, evicts⟩ := (Option.any_eq_true _ _).mp evicts
  obtain ⟨⟨g', conn'⟩, ran, evicts⟩ := (Option.any_eq_true _ _).mp evicts
  rw [Bool.and_eq_true, decide_eq_true_eq, decide_eq_true_eq] at evicts
  exact ⟨conn, List.mem_of_head? first, g', conn', ran, evicts⟩

/-- Check the condition on a step. -/
def settlesCheck (config : Config (Shared Fake.FakeState × Recency.Uses Bytes) (Conn × Unit)) :
    Transition.Move Input Transport (Outside Fake.FakeState) → Bool
  | .turn index _ => config.parts[index]?.all fun conn =>
      decide (Settles roomForTwoSnapshots config.shared.1.st conn.1.transport conn.1.phase)
  | _ => true

theorem settlesCheck_sound
    (config : Config (Shared Fake.FakeState × Recency.Uses Bytes) (Conn × Unit))
    (move : Transition.Move Input Transport (Outside Fake.FakeState))
    (passed : settlesCheck config move = true) :
    (settles roomForTwoSnapshots).lift.allows config move := by
  cases move with
  | turn index input =>
      intro conn found
      have settled := (Option.all_eq_true _ _).mp passed conn found
      rw [decide_eq_true_eq] at settled
      exact settled
  | spawn kind => trivial
  | env event => trivial

/-- On the pipe the lookup moves the snapshot, and the other one is evicted. -/
theorem eviction_leastRecentlyUsed_pipe :
    ∃ source, ((daemon fakePlatform roomForTwoSnapshots).withAux usage).Runs
        (settles roomForTwoSnapshots).lift ⟨({ world := {} }, {}), []⟩ source ∧
      ∃ conn ∈ source.parts, ∃ g' conn',
      turn fakePlatform roomForTwoSnapshots source.shared.1 conn.1 .go = some (g', conn') ∧
      Evicts source.shared.1.st g'.st (ascii "s-2") (ascii "s-1") ∧
      source.shared.2.last (ascii "s-2") ≤ source.shared.2.last (ascii "s-1") := by
  have passes : ((Transition.exec (Transition.checked
      ((daemon fakePlatform roomForTwoSnapshots).withAux usage).next settlesCheck)
      ⟨({ world := {} }, {}), []⟩ (lookBack .pipe)).any fun source =>
        evictsNext (ascii "s-2") (ascii "s-1") source &&
          decide (source.shared.1.st.snapCounter ≤ 2 ^ 64)) = true := by
    decide +kernel
  obtain ⟨source, executed, passes⟩ := (Option.any_eq_true _ _).mp passes
  rw [Bool.and_eq_true, decide_eq_true_eq] at passes
  obtain ⟨conn, member, g', conn', ran, evicts, _⟩ := exists_of_evictsNext passes.1
  have run := Transition.Steps.of_checked settlesCheck_sound executed
  exact ⟨source, run, conn, member, g', conn', ran, evicts,
    eviction_leastRecentlyUsed fakePlatform roomForTwoSnapshots {} run passes.2 ran evicts⟩

/-- On TCP the lookup leaves the snapshot in its place, and it is evicted although the other
one was used before it and is not pinned. -/
theorem eviction_not_leastRecentlyUsed_tcp :
    ∃ source, ((daemon fakePlatform roomForTwoSnapshots).withAux usage).Runs {}
        ⟨({ world := {} }, {}), []⟩ source ∧
      ∃ conn ∈ source.parts, ∃ g' conn',
      turn fakePlatform roomForTwoSnapshots source.shared.1 conn.1 .go = some (g', conn') ∧
      Evicts source.shared.1.st g'.st (ascii "s-1") (ascii "s-2") ∧
      g'.st.pinCount (ascii "s-2") ≤ 0 ∧
      source.shared.2.last (ascii "s-2") < source.shared.2.last (ascii "s-1") := by
  have passes : ((Transition.exec ((daemon fakePlatform roomForTwoSnapshots).withAux usage).next
      ⟨({ world := {} }, {}), []⟩ (lookBack .tcp)).any fun source =>
        evictsNext (ascii "s-1") (ascii "s-2") source &&
          decide (source.shared.2.last (ascii "s-2") < source.shared.2.last (ascii "s-1"))) =
        true := by
    decide +kernel
  obtain ⟨source, executed, passes⟩ := (Option.any_eq_true _ _).mp passes
  rw [Bool.and_eq_true, decide_eq_true_eq] at passes
  obtain ⟨conn, member, g', conn', ran, evicts, unpinned⟩ := exists_of_evictsNext passes.1
  have run := System.runs_of_exec executed
  exact ⟨source, run, conn, member, g', conn', ran, evicts, unpinned, passes.2⟩

end WinInspect.Daemon
