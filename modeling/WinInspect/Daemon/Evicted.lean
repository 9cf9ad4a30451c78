import WinInspect.Daemon.Eviction
import WinInspect.Daemon.Startup

/-!
# What eviction removes

The loop of `snapshot.capture` starts behind the new id and works from the old end of the
LRU order.  When it ends it has removed the first unpinned ids and nothing else, and the
pinned ids it went past are behind the ones it did not reach.  It comes round to the new id
exactly when as many ids are pinned as the store may hold.
-/

namespace WinInspect.Daemon

open Transition (Config System Move)
open Transition.System (Guard)

variable {σ : Type}

/-! ## The result of the loop -/

/-- The ids that the loop may remove, oldest first. -/
def ServerState.evictable (st : ServerState) : List Bytes :=
  st.lruOrder.filter fun sid => !st.isPinned sid

/-- Some ids are gone from the snapshots and the pin counts, and every other entry and every
other field is as it was, the LRU order apart. -/
structure Drops (st st' : ServerState) (removed : List Bytes) : Prop where
  snaps : ∀ sid, st'.snaps.lookup sid = if sid ∈ removed then none else st.snaps.lookup sid
  pinnedCounts : ∀ sid,
    st'.pinnedCounts.lookup sid = if sid ∈ removed then none else st.pinnedCounts.lookup sid
  snapCounter : st'.snapCounter = st.snapCounter
  sessions : st'.sessions = st.sessions
  activeConnections : st'.activeConnections = st.activeConnections

theorem Drops.refl (st : ServerState) : Drops st st [] where
  snaps _ := by simp
  pinnedCounts _ := by simp
  snapCounter := rfl
  sessions := rfl
  activeConnections := rfl

theorem Drops.trans {st middle st' : ServerState} {first second : List Bytes}
    (before : Drops st middle first) (after : Drops middle st' second) :
    Drops st st' (first ++ second) where
  snaps sid := by
    rw [after.snaps, before.snaps]
    by_cases early : sid ∈ first <;> simp [early]
  pinnedCounts sid := by
    rw [after.pinnedCounts, before.pinnedCounts]
    by_cases early : sid ∈ first <;> simp [early]
  snapCounter := after.snapCounter.trans before.snapCounter
  sessions := after.sessions.trans before.sessions
  activeConnections := after.activeConnections.trans before.activeConnections

/-- A round removes the oldest id unless it is pinned. -/
theorem drops_evictOnce {st : ServerState} {oldest : Bytes} {rest : List Bytes}
    (order : st.lruOrder = oldest :: rest) :
    Drops st st.evictOnce ([oldest].filter fun sid => !st.isPinned sid) := by
  by_cases pinned : 0 < st.pinCount oldest
  · have kept : ([oldest].filter fun sid => !st.isPinned sid) = [] := by
      simp [ServerState.isPinned, pinned]
    have read : ∀ sid, (st.pinnedCounts.insert oldest (st.pinCount oldest + 0)).lookup sid =
        st.pinnedCounts.lookup sid := by
      intro sid
      rw [Map.lookup_insert_eq]
      split
      · -- a positive count is an entry, and it is written back
        rename_i same
        subst same
        cases found : st.pinnedCounts.lookup sid with
        | none => simp [ServerState.pinCount, found] at pinned
        | some count => simp [ServerState.pinCount, found]
      · rfl
    simp only [ServerState.evictOnce, order, if_pos pinned, kept]
    exact ⟨fun _ => rfl, read, rfl, rfl, rfl⟩
  · have removed : ([oldest].filter fun sid => !st.isPinned sid) = [oldest] := by
      simpa [ServerState.isPinned] using pinned
    simp only [ServerState.evictOnce, order, if_neg pinned, removed]
    exact ⟨fun sid => by simp [Map.lookup_erase_eq], fun sid => by simp [Map.lookup_erase_eq],
      rfl, rfl, rfl⟩

/-- The rounds over a front of the LRU order remove its unpinned ids. -/
theorem drops_rounds {st : ServerState} {front rest : List Bytes}
    (order : st.lruOrder = front ++ rest) :
    Drops st (ServerState.evictOnce^[front.length] st)
      (front.filter fun sid => !st.isPinned sid) := by
  induction front generalizing st rest with
  | nil => exact Drops.refl st
  | cons oldest front inductionHypothesis =>
      have next : ∃ rest', st.evictOnce.lruOrder = front ++ rest' := by
        rw [lruOrder_evictOnce, order, List.cons_append, Sweep.round]
        split
        · exact ⟨rest ++ [oldest], List.append_assoc _ _ _⟩
        · exact ⟨rest, rfl⟩
      obtain ⟨rest', order'⟩ := next
      have later := inductionHypothesis order'
      rw [isPinned_evictOnce] at later
      have both := (drops_evictOnce order).trans later
      rwa [← List.filter_append, List.singleton_append] at both

section

variable {p : Platform σ} {cfg : Settings} {config : Config (Shared σ) Conn} {index : Nat}
  {conn : Conn} {req : CoreRequest} {sid : Bytes}

/-- The turn that ends the loop. -/
theorem next_evicting_done (found : config.parts[index]? = some conn)
    (phase : conn.phase = .evicting req sid)
    (fits : config.shared.st.lruOrder.length ≤ cfg.maxSnapshots) :
    (daemon p cfg).next config (.turn index .go) =
      some ⟨{ config.shared with muHeld := false }, config.parts.set index
        (conn.send req (okResponse req [("snapshot_id", .str sid)]))⟩ := by
  refine System.next_turn found ?_
  change turn p cfg config.shared conn .go = _
  simp only [turn, onGo, phase, evict, if_neg (Nat.not_lt.mpr fits)]

/-- The loop with enough unpinned ids, to its end. -/
theorem exec_evicting_done (found : config.parts[index]? = some conn)
    (phase : conn.phase = .evicting req sid) {front rest : List Bytes} {last : Bytes}
    (order : config.shared.st.lruOrder = front ++ last :: rest)
    (unpinned : config.shared.st.isPinned last = false)
    (count : (front.countP fun sid => !config.shared.st.isPinned sid) + 1 + cfg.maxSnapshots =
      config.shared.st.lruOrder.length) :
    Transition.exec (daemon p cfg).next config
        (List.replicate (front.length + 2) (.turn index .go)) =
      some ⟨{ config.shared with
          st := ServerState.evictOnce^[front.length + 1] config.shared.st, muHeld := false },
        config.parts.set index (conn.send req (okResponse req [("snapshot_id", .str sid)]))⟩ := by
  have full : ∀ k < front.length + 1, cfg.maxSnapshots <
      (ServerState.evictOnce^[k] config.shared.st).lruOrder.length := by
    intro k below
    have within : k ≤ config.shared.st.lruOrder.length := by
      rw [order, List.length_append]
      omega
    have size := Sweep.length_rounds config.shared.st.isPinned within
    have fewer : (config.shared.st.lruOrder.take k).countP
        (fun sid => !config.shared.st.isPinned sid) ≤
          front.countP fun sid => !config.shared.st.isPinned sid := by
      rw [order, List.take_append_of_le_length (by omega)]
      exact (List.take_sublist _ _).countP_le
    rw [lruOrder_rounds]
    omega
  have rounds := @exec_evicting _ p _ _ _ _ _ _ found phase (front.length + 1) full
  have short : (ServerState.evictOnce^[front.length + 1] config.shared.st).lruOrder.length ≤
      cfg.maxSnapshots := by
    have split := Sweep.countP_add_countP_not config.shared.st.isPinned front
    rw [order, List.length_append, List.length_cons] at count
    rw [lruOrder_rounds, order, Sweep.rounds_split _ _ unpinned, List.length_append,
      ← List.countP_eq_length_filter]
    omega
  have done := @next_evicting_done _ p _
    ⟨config.shared.withSt (ServerState.evictOnce^[front.length + 1] config.shared.st),
      config.parts⟩ _ _ _ _ found phase short
  rw [show front.length + 2 = (front.length + 1) + 1 from rfl, List.replicate_succ',
    Transition.exec_append, rounds, Option.bind_some, Transition.exec_cons, done]
  rfl

end

/-- The loop of a connection, with more ids in the LRU order than the limit and enough of them
unpinned.  It removes the first unpinned ids, as many as there are too many, and nothing else;
the ids behind the last one removed come first in the order it leaves, then the pinned ones in
front of it. -/
theorem eviction_exact (p : Platform σ) (cfg : Settings) (config : Config (Shared σ) Conn)
    (index : Nat) (conn : Conn) (req : CoreRequest) (sid : Bytes)
    (found : config.parts[index]? = some conn) (phase : conn.phase = .evicting req sid)
    (full : cfg.maxSnapshots < config.shared.st.lruOrder.length)
    (enough : config.shared.st.lruOrder.length - cfg.maxSnapshots ≤
      config.shared.st.evictable.length) :
    let st := config.shared.st
    let removed := st.evictable.take (st.lruOrder.length - cfg.maxSnapshots)
    ∃ front last rest after,
      st.lruOrder = front ++ last :: rest ∧ st.isPinned last = false ∧
      ((front ++ [last]).filter fun sid => !st.isPinned sid) = removed ∧
      Transition.exec (daemon p cfg).next config
          (List.replicate (front.length + 2) (.turn index .go)) =
        some ⟨{ config.shared with st := after, muHeld := false }, config.parts.set index
          (conn.send req (okResponse req [("snapshot_id", .str sid)]))⟩ ∧
      after.lruOrder = rest ++ front.filter st.isPinned ∧ Drops st after removed := by
  intro st removed
  rw [ServerState.evictable, ← List.countP_eq_length_filter] at enough
  obtain ⟨front, last, rest, order, unpinned, count⟩ :=
    Sweep.exists_split (Nat.sub_pos_of_lt full) enough
  have first : ((front ++ [last]).filter fun sid => !st.isPinned sid) = removed := by
    rw [Sweep.filter_split unpinned count, ← order]
    rfl
  refine ⟨front, last, rest, ServerState.evictOnce^[front.length + 1] st, order, unpinned, first,
    exec_evicting_done found phase order unpinned (by omega), ?_, ?_⟩
  · rw [lruOrder_rounds]
    change (Sweep.round st.isPinned)^[front.length + 1] config.shared.st.lruOrder = _
    rw [order, Sweep.rounds_split _ _ unpinned]
  · have drops := @drops_rounds st (front ++ [last]) rest (by rw [← List.append_cons]; exact order)
    rwa [first, List.length_append, List.length_singleton] at drops

theorem overPins_order :
    ((overPins [1]).any fun config => decide (
      config.parts[2]?.any (fun conn => conn.phase.evicts) = true ∧
        config.shared.st.lruOrder = [ascii "s-1", ascii "s-2", ascii "s-3"] ∧
        config.shared.st.evictable = [ascii "s-1", ascii "s-3"])) = true := by
  decide +kernel

/-- With room for one snapshot and the second of three pinned, the loop removes the other two. -/
theorem eviction_exact_onePin :
    let config := (overPins [1]).get overPins_one
    ∃ n after, Transition.exec (daemon fakePlatform { maxSnapshots := 1 }).next config
        (List.replicate n (.turn 2 .go)) = some after ∧ after.shared.muHeld = false ∧
      Drops config.shared.st after.shared.st [ascii "s-1", ascii "s-3"] := by
  intro config
  obtain ⟨evicts, order, evictable⟩ := Transition.get_of_any overPins_order overPins_one
  obtain ⟨conn, req, sid, found, phase⟩ := exists_evicting evicts
  have size : config.shared.st.lruOrder.length = 3 := congrArg List.length order
  have removable : config.shared.st.evictable = [ascii "s-1", ascii "s-3"] := evictable
  obtain ⟨front, last, rest, after, _, _, _, executed, _, drops⟩ :=
    eviction_exact fakePlatform { maxSnapshots := 1 } config 2 conn req sid found phase
      (by rw [size]; decide) (by rw [size, removable]; decide)
  rw [size, removable] at drops
  exact ⟨_, _, executed, rfl, drops⟩

/-! ## The critical section -/

/-- Two states with the same snapshots, LRU order and pins. -/
structure SameEntries (st st' : ServerState) : Prop where
  snaps : st'.snaps = st.snaps
  lruOrder : st'.lruOrder = st.lruOrder
  pinnedCounts : st'.pinnedCounts = st.pinnedCounts

theorem Routes.evicts {cfg : Settings} {req : CoreRequest} {phase : Phase}
    (routes : Routes cfg req phase) : phase.evicts = false := by
  cases routes <;> rfl

theorem Captures.evicts {phase : Phase} {resp : CoreResponse} {req : CoreRequest}
    {next : Snapshot → Phase} (captures : Captures phase resp req next) (s : Snapshot) :
    phase.evicts = false ∧ (next s).evicts = false := by
  cases captures <;> exact ⟨rfl, rfl⟩

/-- What a turn has to do with the critical section of `snapshot.capture`. -/
inductive SectionTurn (cfg : Settings) (g : Shared σ) (conn : Conn) (g' : Shared σ)
    (conn' : Conn) : Prop
  | elsewhere (before : conn.phase.evicts = false) (after : conn'.phase.evicts = false)
      (same : g'.muHeld = g.muHeld) (kept : g.muHeld = true → SameEntries g.st g'.st)
  | enter {req s} (phase : conn.phase = .captured req s) (free : g.muHeld = false)
      (issued : g' = { g.withSt (g.st.issue s) with muHeld := true })
      (entered : conn' = conn.goto (.evicting req g.st.nextSid))
  | round {req sid} (phase : conn.phase = .evicting req sid)
      (full : cfg.maxSnapshots < g.st.lruOrder.length) (evicted : g' = g.withSt g.st.evictOnce)
      (stays : conn' = conn)
  | leave {req sid} (phase : conn.phase = .evicting req sid)
      (fits : ¬ cfg.maxSnapshots < g.st.lruOrder.length)
      (released : g' = { g with muHeld := false })
      (answered : conn' = conn.send req (okResponse req [("snapshot_id", .str sid)]))

section

variable {p : Platform σ} {cfg : Settings} {g g' : Shared σ} {conn conn' : Conn} {input : Input}

theorem section_cases (ran : turn p cfg g conn input = some (g', conn')) :
    SectionTurn cfg g conn g' conn' := by
  have same : SameEntries g.st g.st := ⟨rfl, rfl, rfl⟩
  have excluded : ∀ {st' : ServerState}, g.muHeld = false → g.muHeld = true →
      SameEntries g.st st' := by
    intro st' free held
    rw [free] at held
    cases held
  cases turn_cases ran with
  | captured phase free => exact .enter phase free rfl rfl
  | evictRound phase full => exact .round phase full rfl rfl
  | evictDone phase fits => exact .leave phase fits rfl rfl
  | startTcp phase tcp =>
      refine .elsewhere (by rw [phase]; rfl) ?_ rfl fun _ => ⟨rfl, rfl, rfl⟩
      dsimp only
      split <;> rfl
  | hangUp phase =>
      rcases phase with phase | phase <;>
        exact .elsewhere (by rw [phase]; rfl) rfl rfl fun _ => ⟨rfl, rfl, rfl⟩
  | @request payload text phase read =>
      refine .elsewhere (by rw [phase]; rfl) ?_ rfl fun _ => same
      rcases onRequest_cases p.stod cfg conn text with ⟨req, _, _, routed⟩ | ⟨what, error⟩
      · exact routed.phase.evicts
      · rw [error]
        rfl
  | hungUp phase read =>
      refine .elsewhere (by rw [phase]; rfl) ?_ rfl fun _ => same
      rcases leave_cases conn with ⟨_, _, left⟩ | ⟨_, _, left⟩ | ⟨_, left⟩ <;> rw [left] <;> rfl
  | core phase surroundings ranCore =>
      refine .elsewhere (by rw [phase]; rfl) ?_ rfl fun _ => same
      rcases afterCore_cases conn _ _ _ _ with ⟨_, _, next⟩ | next <;> rw [next] <;> rfl
  | recovered phase free _ | created phase free _ _ =>
      exact .elsewhere (by rw [phase]; rfl) (route_routed cfg _ _).phase.evicts rfl (excluded free)
  | terminating phase free =>
      exact .elsewhere (by rw [phase]; rfl) (proceed_routed cfg _ _).phase.evicts rfl
        (excluded free)
  | captureOk captures taken =>
      exact .elsewhere (captures.evicts {}).1 (captures.evicts _).2 rfl fun _ => same
  | captureFails captures taken =>
      exact .elsewhere (captures.evicts {}).1 rfl rfl fun _ => same
  | @sending req resp phase =>
      refine .elsewhere (by rw [phase]; rfl) ?_ rfl fun _ => same
      rcases afterSend_cases (conn.write p.bcrypt (serializeResponseJson resp)).2 with
        ⟨_, next⟩ | ⟨_, next⟩ <;> rw [next] <;> rfl
  | subscribed phase free | unsubscribing phase free | storing phase free | unpinning phase free
  | leaving phase free | tooMany phase free _ _ | unknownSnapshot phase _ free _
  | pinned phase _ free _ =>
      exact .elsewhere (by rw [phase]; rfl) rfl rfl (excluded free)
  | startPipe phase _ | answered phase _ | refused phase _ | findingOld phase | closing phase =>
      exact .elsewhere (by rw [phase]; rfl) rfl rfl fun _ => ⟨rfl, rfl, rfl⟩

/-- A turn takes the lock when it enters the section and releases it when it leaves. -/
theorem turn_held (held : conn.phase.evicts = true → g.muHeld = true)
    (ran : turn p cfg g conn input = some (g', conn')) :
    g'.muHeld.toInt + conn.phase.evicts.toInt = g.muHeld.toInt + conn'.phase.evicts.toInt := by
  cases section_cases ran with
  | elsewhere before after same _ => rw [before, after, same]
  | enter phase free issued entered =>
      rw [phase, free, issued, entered]
      rfl
  | round phase full evicted stays =>
      rw [evicted, stays]
      rfl
  | leave phase fits released answered =>
      rw [held (by rw [phase]; rfl), phase, released, answered]
      rfl

end

/-- `mu` is held between two steps exactly while one connection evicts. -/
theorem muHeld_eq {p : Platform σ} {cfg : Settings} {world : σ} {target : Config (Shared σ) Conn}
    (run : (daemon p cfg).Runs {} (initial world) target) :
    target.shared.muHeld.toInt = target.parts.countP fun conn => conn.phase.evicts := by
  induction run with
  | refl => rfl
  | @tail before after move _ _ step inductionHypothesis =>
      rcases System.next_cases step with ⟨index, input, conn, g', conn', rfl, found, ran, rfl⟩ |
        ⟨transport, g', conn, rfl, spawned, rfl⟩ | ⟨event, g', rfl, moved, rfl⟩
      · have held : conn.phase.evicts = true → before.shared.muHeld = true := by
          intro evicts
          have positive : 0 < before.parts.countP fun conn => conn.phase.evicts :=
            List.countP_pos_iff.mpr ⟨conn, List.mem_of_getElem? found, evicts⟩
          cases free : before.shared.muHeld with
          | true => rfl
          | false =>
              rw [free, Bool.toInt_false] at inductionHypothesis
              omega
        have change := turn_held held ran
        have shares := System.countP_set (fun conn : Conn => conn.phase.evicts) found conn'
        dsimp only at shares ⊢
        omega
      · obtain ⟨rfl, rfl⟩ := accept_st spawned
        rw [List.countP_append, inductionHypothesis]
        rfl
      · rw [outside_muHeld moved]
        exact inductionHypothesis

/-- A connection in the section holds `mu`, and it is the only one. -/
theorem alone_in_section {p : Platform σ} {cfg : Settings} {world : σ}
    {config : Config (Shared σ) Conn} (run : (daemon p cfg).Runs {} (initial world) config)
    {index : Nat} {conn : Conn} (found : config.parts[index]? = some conn)
    (evicts : conn.phase.evicts = true) :
    config.shared.muHeld = true ∧ ∀ (conn' : Conn) (other : Conn),
      conn'.phase.evicts = false → other ∈ config.parts.set index conn' →
        other.phase.evicts = false := by
  have held := muHeld_eq run
  have shares := fun conn' : Conn =>
    System.countP_set (fun conn : Conn => conn.phase.evicts) found conn'
  have positive : 0 < config.parts.countP fun conn => conn.phase.evicts :=
    List.countP_pos_iff.mpr ⟨conn, List.mem_of_getElem? found, evicts⟩
  have locked : config.shared.muHeld = true := by
    cases free : config.shared.muHeld with
    | true => rfl
    | false =>
        rw [free, Bool.toInt_false] at held
        omega
  refine ⟨locked, fun conn' other idle member => ?_⟩
  have after := shares conn'
  rw [evicts, idle] at after
  rw [locked] at held
  simp only [Bool.toInt_true, Bool.toInt_false] at after held
  have none : ((config.parts.set index conn').countP fun conn => conn.phase.evicts) = 0 := by
    omega
  simpa using List.countP_eq_zero.mp none other member

/-! ## The new id -/

/-- The loop does not remove `sid`: it never ends, or it ends before it comes round to it. -/
def Spared (cfg : Settings) (st : ServerState) (sid : Bytes) : Prop :=
  cfg.maxSnapshots < st.lruOrder.countP st.isPinned ∨
    sid ∈ st.snaps ∧ Sweep.Shielded st.isPinned cfg.maxSnapshots sid st.lruOrder

section

variable {cfg : Settings} {st st' : ServerState} {sid : Bytes}

theorem Spared.congr (spared : Spared cfg st sid) (same : SameEntries st st') :
    Spared cfg st' sid := by
  have pins : st'.isPinned = st.isPinned := by
    funext other
    unfold ServerState.isPinned ServerState.pinCount
    rw [same.pinnedCounts]
  rw [Spared, pins, same.lruOrder, same.snaps]
  exact spared

theorem mem_evictOnce (stored : sid ∈ st.snaps) (other : st.lruOrder.head? ≠ some sid) :
    sid ∈ st.evictOnce.snaps := by
  unfold ServerState.evictOnce
  split
  · exact stored
  · rename_i oldest rest order
    split
    · exact stored
    · refine Finmap.mem_erase.mpr ⟨fun same => other ?_, stored⟩
      rw [order, same]
      rfl

/-- A round keeps the id spared. -/
theorem Spared.evictOnce (spared : Spared cfg st sid)
    (full : cfg.maxSnapshots < st.lruOrder.length) : Spared cfg st.evictOnce sid := by
  rw [Spared, isPinned_evictOnce, lruOrder_evictOnce]
  rcases spared with endless | ⟨stored, shielded⟩
  · exact Or.inl (by rwa [Sweep.countP_round])
  · obtain ⟨other, shielded⟩ := shielded.round full
    exact Or.inr ⟨mem_evictOnce stored other, shielded⟩

theorem Spared.stored (spared : Spared cfg st sid)
    (fits : st.lruOrder.length ≤ cfg.maxSnapshots) : sid ∈ st.snaps := by
  rcases spared with endless | ⟨stored, _⟩
  · exact absurd (endless.trans_le List.countP_le_length) (Nat.not_lt.mpr fits)
  · exact stored

/-- A new id is spared unless exactly as many ids are pinned as the limit allows. -/
theorem spared_issue (inv : StoreInv st) (few : st.snapCounter < 2 ^ 64) (s : Snapshot)
    (pins : st.lruOrder.countP st.isPinned ≠ cfg.maxSnapshots) :
    Spared cfg (st.issue s) st.nextSid := by
  have new : st.nextSid ∉ st.lruOrder := fun member =>
    inv.nextSid_not_mem few ((inv.mem_lruOrder_iff _).mp member)
  rcases Nat.lt_or_gt_of_ne pins with fewer | more
  · exact Or.inr ⟨Map.mem_emplace.mpr (Or.inl rfl), Sweep.shielded_append new fewer⟩
  · refine Or.inl (more.trans_le ?_)
    change _ ≤ (st.lruOrder ++ [st.nextSid]).countP st.isPinned
    rw [List.countP_append]
    exact Nat.le_add_right _ _

end

/-- The condition on a step: when a section begins, the number of pinned ids is not the limit,
and the counter has not wrapped. -/
def pinsBesideLimit (cfg : Settings) : Guard (Shared σ) Conn Input Transport (Outside σ) where
  turn g conn _ := ∀ req s, conn.phase = .captured req s →
    g.st.snapCounter < 2 ^ 64 ∧ g.st.lruOrder.countP g.st.isPinned ≠ cfg.maxSnapshots

/-- Every id under creation is spared. -/
def NewSpared (cfg : Settings) (config : Config (Shared σ) Conn) : Prop :=
  ∀ conn ∈ config.parts, ∀ req sid, conn.phase = .evicting req sid →
    Spared cfg config.shared.st sid

section

variable {p : Platform σ} {cfg : Settings} {world : σ}

theorem newSpared_turn {config : Config (Shared σ) Conn} {index : Nat} {conn conn' : Conn}
    {g' : Shared σ} {input : Input} (run : (daemon p cfg).Runs {} (initial world) config)
    (spared : NewSpared cfg config) (found : config.parts[index]? = some conn)
    (fits : (pinsBesideLimit cfg).turn config.shared conn input)
    (ran : turn p cfg config.shared conn input = some (g', conn')) :
    NewSpared cfg ⟨g', config.parts.set index conn'⟩ := by
  intro other member req sid evicting
  have evicts : other.phase.evicts = true := by
    rw [evicting]
    rfl
  cases section_cases ran with
  | elsewhere before after same kept =>
      rcases List.mem_or_eq_of_mem_set member with old | rfl
      · -- another connection is in the section, so `mu` is held
        obtain ⟨place, placed⟩ := List.mem_iff_getElem?.mp old
        have held := (alone_in_section run placed evicts).1
        exact (spared other old req sid evicting).congr (kept held)
      · rw [after] at evicts
        cases evicts
  | @enter req' s phase free issued entered =>
      obtain ⟨few, pins⟩ := fits req' s phase
      rcases List.mem_or_eq_of_mem_set member with old | rfl
      · obtain ⟨place, placed⟩ := List.mem_iff_getElem?.mp old
        have held := (alone_in_section run placed evicts).1
        rw [free] at held
        cases held
      · rw [entered] at evicting
        cases evicting
        rw [issued]
        exact spared_issue (storeInv_of_runs run few.le) few s pins
  | @round req' sid' phase full evicted stays =>
      rw [stays, System.set_of_getElem? found] at member
      rw [evicted]
      exact (spared other member req sid evicting).evictOnce full
  | @leave req' sid' phase fits' released answered =>
      have idle := (alone_in_section run found (by rw [phase]; rfl)).2 conn' other
        (by rw [answered]; rfl) member
      rw [idle] at evicts
      cases evicts

theorem newSpared_of_runs {target : Config (Shared σ) Conn}
    (run : (daemon p cfg).Runs (pinsBesideLimit cfg) (initial world) target) :
    NewSpared cfg target := by
  have known : ∀ config, (daemon p cfg).Runs (pinsBesideLimit cfg) (initial world) config →
      (daemon p cfg).Runs {} (initial world) config :=
    fun config reached => reached.mono fun state move _ => Guard.allows_default state move
  have start : NewSpared cfg (initial world) := by
    intro conn member
    cases member
  refine Transition.Steps.invariant_of_known run known start ?_
  intro before move after reached spared admitted step
  rcases System.next_cases step with ⟨index, input, conn, g', conn', rfl, found, ran, rfl⟩ |
    ⟨transport, g', conn, rfl, spawned, rfl⟩ | ⟨event, g', rfl, moved, rfl⟩
  · exact newSpared_turn reached spared found (admitted conn found) ran
  · obtain ⟨rfl, rfl⟩ := accept_st spawned
    intro other member req sid evicting
    rcases List.mem_append.mp member with old | new
    · exact spared other old req sid evicting
    · cases List.mem_singleton.mp new
      cases evicting
  · intro other member req sid evicting
    have same : SameEntries before.shared.st g'.st := by
      rcases outside_cases moved with ⟨w, _, rfl⟩ | ⟨nanoseconds, _, rfl⟩ | ⟨_, _, rfl⟩ <;>
        exact ⟨rfl, rfl, rfl⟩
    exact (spared other member req sid evicting).congr same

end

/-- Only stored ids are pinned. -/
theorem mem_of_isPinned {p : Platform σ} {cfg : Settings} {world : σ}
    {target : Config (Shared σ) Conn} (run : (daemon p cfg).Runs {} (initial world) target)
    {sid : Bytes} (pinned : 0 < target.shared.st.pinCount sid) : sid ∈ target.shared.st.snaps := by
  refine shared_of_runs (fun g => 0 < g.st.pinCount sid → sid ∈ g.st.snaps) run
    (fun positive => absurd positive (lt_irrefl 0)) ?_ ?_ pinned
  · intro g conn input g' conn' stored _ ran pinned'
    have change := turn_storeChange ran
    by_cases pinned : 0 < g.st.pinCount sid
    · exact change.mem_of_pinned (stored pinned) pinned
    · -- only the lookup of a stored snapshot adds a pin
      cases turn_cases ran with
      | @pinned req other snap phase named free found =>
          have member : other ∈ g.st.snaps := Finmap.mem_of_lookup_eq_some found
          by_cases same : sid = other
          · subst same
            cases conn.transport <;> exact member
          · have counts : (g.st.addPin other 1).pinCount sid = g.st.pinCount sid := by
              rw [pinCount_addPin, if_neg same, add_zero]
            have positive : 0 < (g.st.addPin other 1).pinCount sid := by
              revert pinned'
              cases conn.transport <;> exact fun positive => positive
            exact absurd (counts ▸ positive) pinned
      | evictRound phase full =>
          have counts := congrFun (isPinned_evictOnce g.st) sid
          simp only [ServerState.isPinned, decide_eq_decide] at counts
          exact absurd (counts.mp pinned') pinned
      | unpinning phase free | leaving phase free =>
          have lower : 0 < g.st.pinCount sid + if sid = conn.pinnedSid then -1 else 0 := by
            rw [← pinCount_addPin]
            exact pinned'
          split at lower <;> omega
      | subscribed phase free =>
          simp only [subscribe, Shared.withSt] at pinned'
          split at pinned' <;> exact absurd pinned' pinned
      | storing phase free =>
          simp only [storePoll, Shared.withSt] at pinned'
          split at pinned' <;> exact absurd pinned' pinned
      | unsubscribing phase free =>
          simp only [unsubscribe, Shared.withSt] at pinned'
          split at pinned' <;> exact absurd pinned' pinned
      | _ => exact absurd pinned' pinned
  · intro g event g' stored _ moved pinned'
    rw [outside_pinCount moved] at pinned'
    rw [(outside_sameStore moved).snaps]
    exact stored pinned'

/-- Where as many ids are pinned as the limit allows, the loop removes every other id, the new
one as the last. -/
theorem captured_id_lost {p : Platform σ} {cfg : Settings} {world : σ}
    {config : Config (Shared σ) Conn} (run : (daemon p cfg).Runs {} (initial world) config)
    {index : Nat} {conn : Conn} {req : CoreRequest} {s : Snapshot}
    (found : config.parts[index]? = some conn) (phase : conn.phase = .captured req s)
    (free : config.shared.muHeld = false) (few : config.shared.st.snapCounter < 2 ^ 64)
    (pins : config.shared.st.lruOrder.countP config.shared.st.isPinned = cfg.maxSnapshots) :
    ∃ n after, Transition.exec (daemon p cfg).next config
        (List.replicate n (.turn index .go)) = some after ∧
      after.parts[index]? = some (conn.send req
        (okResponse req [("snapshot_id", .str config.shared.st.nextSid)])) ∧
      config.shared.st.nextSid ∉ after.shared.st.snaps := by
  set st := config.shared.st with stEq
  have absent : st.nextSid ∉ st.snaps := (storeInv_of_runs run few.le).nextSid_not_mem few
  have unpinned : st.isPinned st.nextSid = false :=
    decide_eq_false fun pinned => absent (mem_of_isPinned run pinned)
  have below : index < config.parts.length := (List.getElem?_eq_some_iff.mp found).1
  let inner : Config (Shared σ) Conn :=
    ⟨{ config.shared.withSt (st.issue s) with muHeld := true },
      config.parts.set index (conn.goto (.evicting req st.nextSid))⟩
  have entered : (daemon p cfg).next config (.turn index .go) = some inner := by
    refine System.next_turn found ?_
    change turn p cfg config.shared conn .go = _
    simp only [turn, onGo, phase, locked, free]
    rfl
  have inside : inner.parts[index]? = some (conn.goto (.evicting req st.nextSid)) :=
    List.getElem?_set_self below
  have order : inner.shared.st.lruOrder = st.lruOrder ++ [st.nextSid] := rfl
  have split := Sweep.countP_add_countP_not st.isPinned st.lruOrder
  have done := @exec_evicting_done _ p cfg inner index _ req st.nextSid inside rfl
    st.lruOrder [] st.nextSid order unpinned (by
      rw [order, List.length_append, List.length_singleton]
      change (st.lruOrder.countP fun sid => !st.isPinned sid) + 1 + cfg.maxSnapshots = _
      omega)
  have first : Transition.exec (daemon p cfg).next config
      (List.replicate (st.lruOrder.length + 3) (.turn index .go)) =
        Transition.exec (daemon p cfg).next inner
          (List.replicate (st.lruOrder.length + 2) (.turn index .go)) := by
    rw [List.replicate_succ, Transition.exec_cons, entered]
    rfl
  refine ⟨_, _, first.trans done, List.getElem?_set_self (by simpa [inner] using below), ?_⟩
  · have drops := @drops_rounds inner.shared.st (st.lruOrder ++ [st.nextSid]) []
      (by rw [order, List.append_nil])
    have gone := drops.snaps st.nextSid
    rw [if_pos (List.mem_filter.mpr ⟨by simp, by
      change (!st.isPinned st.nextSid) = true
      rw [unpinned]
      rfl⟩), List.length_append, List.length_singleton] at gone
    exact Finmap.lookup_eq_none.mp gone

/-- An id that is spared is stored when the section ends with an answer. -/
theorem Spared.answered {p : Platform σ} {cfg : Settings} {g g' : Shared σ} {conn : Conn}
    {input : Input} {req : CoreRequest} {sid : Bytes} {resp : CoreResponse}
    (spared : Spared cfg g.st sid) (phase : conn.phase = .evicting req sid)
    (ran : turn p cfg g conn input = some (g', conn.send req resp)) : sid ∈ g'.st.snaps := by
  have result := turn_evicting phase ran
  unfold evict at result
  split at result
  · have stays : conn.send req resp = conn := congrArg Prod.snd result
    rw [← stays] at phase
    cases phase
  · rename_i fits
    have same : g' = { g with muHeld := false } := congrArg Prod.fst result
    rw [same]
    exact spared.stored (Nat.not_lt.mp fits)

/-- In every run in which, when the section of a capture begins, the number of pinned ids is not
the limit, the id is stored when its section ends with an ok answer.  Where the number is the
limit, the section ends with an ok answer and without the id. -/
theorem captured_id_stored (p : Platform σ) (cfg : Settings) (world : σ)
    {target : Config (Shared σ) Conn}
    (run : (daemon p cfg).Runs (pinsBesideLimit cfg) (initial world) target) :
    (∀ conn ∈ target.parts, ∀ req sid input g', conn.phase = .evicting req sid →
      turn p cfg target.shared conn input =
        some (g', conn.send req (okResponse req [("snapshot_id", .str sid)])) →
      sid ∈ g'.st.snaps) ∧
    ∀ index conn req s, target.parts[index]? = some conn → conn.phase = .captured req s →
      target.shared.muHeld = false → target.shared.st.snapCounter < 2 ^ 64 →
      target.shared.st.lruOrder.countP target.shared.st.isPinned = cfg.maxSnapshots →
      ∃ n after, Transition.exec (daemon p cfg).next target
          (List.replicate n (.turn index .go)) = some after ∧
        after.parts[index]? = some (conn.send req
          (okResponse req [("snapshot_id", .str target.shared.st.nextSid)])) ∧
        target.shared.st.nextSid ∉ after.shared.st.snaps := by
  have reached : (daemon p cfg).Runs {} (initial world) target :=
    run.mono fun state move _ => Guard.allows_default state move
  refine ⟨fun conn member req sid input g' evicting ran =>
    (newSpared_of_runs run conn member req sid evicting).answered evicting ran, ?_⟩
  intro index conn req s found phase free few pins
  exact captured_id_lost reached found phase free few pins

/-- One pipe client captures some snapshots and names the first one in a request, which pins
it; another one captures, and then takes some more turns. -/
def captureBesidePin (captures turns : Nat) :
    List (Move Input Transport (Outside Fake.FakeState)) :=
  [.spawn .pipe, .spawn .pipe, .turn 0 (.start none []), .turn 1 (.start none [])] ++
  (List.replicate captures (intercepted "snapshot.capture" [] 4)).flatten ++
  [.turn 0 (.frame (some (requestText "2" "window.listTop"
      [("snapshot_id", .str (makeSnapId 1))]))), .turn 0 .go,
    .turn 1 (.frame (some (requestText "3" "snapshot.capture" [])))] ++
  List.replicate turns (.turn 1 .go)

/-- The id under creation. -/
def Phase.creating : Phase → Option Bytes
  | .evicting _ sid => some sid
  | _ => none

theorem Phase.exists_of_creating {phase : Phase} {sid : Bytes}
    (creating : phase.creating = some sid) : ∃ req, phase = .evicting req sid := by
  cases phase with
  | evicting req other =>
      cases creating
      exact ⟨req, rfl⟩
  | _ => cases creating

/-- The answer that is about to be sent. -/
def Phase.answer : Phase → Option CoreResponse
  | .sending _ resp => some resp
  | _ => none

/-- A check for the number of pins. -/
def pinsCheck (cfg : Settings) (config : Config (Shared σ) Conn) :
    Move Input Transport (Outside σ) → Bool
  | .turn index _ => config.parts[index]?.all fun conn =>
      match conn.phase with
      | .captured .. => decide (config.shared.st.snapCounter < 2 ^ 64 ∧
          config.shared.st.lruOrder.countP config.shared.st.isPinned ≠ cfg.maxSnapshots)
      | _ => true
  | _ => true

theorem pinsCheck_sound (cfg : Settings) (config : Config (Shared σ) Conn)
    (move : Move Input Transport (Outside σ)) (passed : pinsCheck cfg config move = true) :
    (pinsBesideLimit cfg).allows config move := by
  cases move with
  | turn index input =>
      intro conn found req s phase
      simpa [pinsCheck, found, phase] using passed
  | spawn transport => trivial
  | env event => trivial

/-- The run with two snapshots, one of them pinned, and room for two. -/
def besidePin : Option (Config (Shared Fake.FakeState) Conn) :=
  Transition.exec (Transition.checked (daemon fakePlatform { maxSnapshots := 2 }).next
    (pinsCheck { maxSnapshots := 2 })) (initial {}) (captureBesidePin 2 3)

theorem besidePin_ends :
    (besidePin.any fun target => decide (
      (target.parts[1]?.bind fun conn => conn.phase.creating) = some (ascii "s-3") ∧
        target.shared.st.lruOrder = [ascii "s-1", ascii "s-3"])) = true := by
  decide +kernel

theorem besidePin_enabled : besidePin.isSome :=
  Option.isSome_of_any besidePin_ends

/-- The third snapshot is stored when its section ends. -/
theorem captured_id_stored_besidePin :
    let target := besidePin.get besidePin_enabled
    ∃ conn req g', target.parts[1]? = some conn ∧
      turn fakePlatform { maxSnapshots := 2 } target.shared conn .go =
        some (g', conn.send req (okResponse req [("snapshot_id", .str (ascii "s-3"))])) ∧
      ascii "s-3" ∈ g'.st.snaps := by
  intro target
  obtain ⟨creating, order⟩ := Transition.get_of_any besidePin_ends besidePin_enabled
  obtain ⟨conn, found, creating⟩ := Option.bind_eq_some_iff.mp creating
  obtain ⟨req, phase⟩ := Phase.exists_of_creating creating
  have fits : ¬ 2 < target.shared.st.lruOrder.length := by
    rw [show target.shared.st.lruOrder = _ from order]
    decide
  have ran : turn fakePlatform { maxSnapshots := 2 } target.shared conn .go =
      some ({ target.shared with muHeld := false },
        conn.send req (okResponse req [("snapshot_id", .str (ascii "s-3"))])) := by
    simp only [turn, onGo, phase, evict, if_neg fits]
  have stored := (captured_id_stored fakePlatform { maxSnapshots := 2 } {}
    (System.runs_checked _ _ _ (pinsCheck_sound _) _ _ besidePin_enabled)).1 conn
      (List.mem_of_getElem? found) req (ascii "s-3") .go _ phase ran
  exact ⟨conn, req, _, found, ran, stored⟩

/-- With `--max-snapshots 1` and one pinned snapshot, `snapshot.capture` answers ok with an id
that its own loop has removed. -/
theorem captured_id_evicted :
    ∃ opts, parseArgs (fun _ => some 1) [ascii "--max-snapshots", ascii "1"] = some opts ∧
      ((Transition.exec (daemon fakePlatform (opts.settings fun _ => none)).next (initial {})
        (captureBesidePin 1 5)).any fun target => decide (
          (target.parts[1]?.bind fun conn => conn.phase.answer) = some
            { id := ascii "3", ok := true,
              result := object [("snapshot_id", .str (ascii "s-2"))] } ∧
          target.shared.muHeld = false ∧ ascii "s-2" ∉ target.shared.st.snaps)) = true := by
  refine ⟨{ maxSnaps := 1 }, by decide +kernel, ?_⟩
  decide +kernel

end WinInspect.Daemon
