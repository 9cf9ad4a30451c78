import WinInspect.Daemon.Store
import Mathlib.Tactic.FinCases

/-!
# Pins

A request that names a stored snapshot pins it from its lookup to the critical section
after its response, and `pinned_counts` counts the pins.  The pipe loop keeps the id of
the last pin after it has released it, and its exit path releases it once more; the
count is the number of holders in the runs where no pipe connection ends in that state.
-/

namespace WinInspect.Daemon

open Transition (Config System)
open Transition.System (Keeps Counts Guard)

variable {σ : Type}

/-- No request is being processed. -/
def Phase.resting : Phase → Bool
  | .starting | .handshake | .reading | .closing | .closed => true
  | _ => false

/-- A request is being processed and has not come to the result of its snapshot lookup. -/
def Phase.preparing : Phase → Bool
  | .session _ _ | .subscribing _ | .subscribed _ _ | .unsubscribing _ | .terminating _
  | .capturing _ | .captured _ _ | .evicting _ _ | .finding _ => true
  | _ => false

/-- A request is between its snapshot lookup and its response. -/
def Phase.busy : Phase → Bool
  | .findingOld _ _ | .calling _ _ _ | .polled _ _ _ _ | .storing _ _ _ _ _ | .sending _ _ => true
  | _ => false

/-- A request is being processed. -/
def Phase.inFlight : Phase → Bool
  | .unpinning => true
  | phase => phase.preparing || phase.busy

/-- The connection has pinned `sid` for a request and not yet released it. -/
def Conn.holds (sid : Bytes) (conn : Conn) : Bool :=
  conn.phase.inFlight && decide (conn.pinnedSid = sid ∧ sid ≠ [])

theorem Conn.holds_of_nil {conn : Conn} (clear : conn.pinnedSid = []) (sid : Bytes) :
    conn.holds sid = false := by
  rw [Conn.holds, clear]
  by_cases empty : sid = []
  · simp [empty]
  · simp [Ne.symm empty]

theorem Conn.holds_of_idle {conn : Conn} (idle : conn.phase.inFlight = false) (sid : Bytes) :
    conn.holds sid = false := by
  rw [Conn.holds, idle, Bool.false_and]

/-- Two connections in flight with the same pinned id hold the same. -/
theorem Conn.holds_congr {conn conn' : Conn} (before : conn.phase.inFlight = true)
    (after : conn'.phase.inFlight = true) (same : conn'.pinnedSid = conn.pinnedSid)
    (sid : Bytes) : conn'.holds sid = conn.holds sid := by
  rw [Conn.holds, Conn.holds, before, after, same]

/-! ## The counters -/

@[simp]
theorem pinCount_addPin (st : ServerState) (sid other : Bytes) (amount : Int) :
    (st.addPin sid amount).pinCount other =
      st.pinCount other + if other = sid then amount else 0 := by
  simp only [ServerState.pinCount, ServerState.addPin, Map.lookup_insert_eq]
  split
  · rename_i same
    subst same
    rfl
  · simp

/-- Evicting changes no count but that of an id whose count is not positive. -/
theorem pinCount_evictOnce {st : ServerState} {sid : Bytes} (nonneg : 0 ≤ st.pinCount sid) :
    st.evictOnce.pinCount sid = st.pinCount sid := by
  unfold ServerState.evictOnce
  split
  · rfl
  · rename_i oldest rest order
    split
    · change (st.addPin oldest 0).pinCount sid = st.pinCount sid
      simp
    · rename_i unpinned
      change ((st.pinnedCounts.erase oldest).lookup sid).getD 0 = st.pinCount sid
      rw [Map.lookup_erase_eq]
      split
      · rename_i same
        subst same
        have zero : st.pinCount sid = 0 := by omega
        rw [zero]
        rfl
      · rfl

theorem pinCount_ite {c : Prop} [Decidable c] (st st' : ServerState) (sid : Bytes) :
    (if c then st else st').pinCount sid = if c then st.pinCount sid else st'.pinCount sid := by
  split <;> rfl

/-! ## The invariant of a connection -/

/-- The condition on a step: a pipe's read does not fail while it remembers a pin. -/
def releasedBeforeExit : Guard (Shared σ) Conn Input Transport (Outside σ) where
  turn _ conn input := conn.phase = .reading → conn.transport = .pipe →
    input = .frame none → conn.pinnedSid = []

/-- A connection that prepares a request has no pin, one that is about to release has
one, and none releases on the exit path. -/
structure PinInv (conn : Conn) : Prop where
  clear : conn.phase.preparing = true → conn.pinnedSid = []
  pinned : conn.phase = .unpinning → conn.pinnedSid ≠ []
  stays : conn.phase ≠ .leaving

theorem PinInv.of_resting {conn : Conn} (resting : conn.phase.resting = true) : PinInv conn where
  clear h := by
    cases phase : conn.phase <;> simp_all [Phase.resting, Phase.preparing]
  pinned h := by
    rw [h] at resting
    cases resting
  stays h := by
    rw [h] at resting
    cases resting

theorem PinInv.of_busy {conn : Conn} (busy : conn.phase.busy = true) : PinInv conn where
  clear h := by
    cases phase : conn.phase <;> simp_all [Phase.busy, Phase.preparing]
  pinned h := by
    rw [h] at busy
    cases busy
  stays h := by
    rw [h] at busy
    cases busy

theorem inFlight_of_busy {phase : Phase} (busy : phase.busy = true) : phase.inFlight = true := by
  cases phase <;> first | rfl | cases busy

theorem inFlight_of_resting {phase : Phase} (resting : phase.resting = true) :
    phase.inFlight = false := by
  cases phase <;> first | rfl | cases resting

theorem Routed.pinInv {cfg : Settings} {req : CoreRequest} {conn conn' : Conn}
    (routed : Routed cfg req conn conn') (clear : conn.pinnedSid = []) :
    PinInv conn' ∧ conn'.pinnedSid = [] := by
  have same : conn'.pinnedSid = [] := routed.pinnedSid.trans clear
  refine ⟨⟨fun _ => same, ?_, ?_⟩, same⟩
  · intro phase
    have routes := routed.phase
    rw [phase] at routes
    cases routes
  · intro phase
    have routes := routed.phase
    rw [phase] at routes
    cases routes

theorem Captures.inFlight {phase : Phase} {resp : CoreResponse} {req : CoreRequest}
    {next : Snapshot → Phase} (captures : Captures phase resp req next) (s : Snapshot) :
    phase.inFlight = true ∧ (next s).inFlight = true ∧
      ((next s).preparing = true → phase.preparing = true) ∧ next s ≠ .unpinning ∧
      next s ≠ .leaving := by
  cases captures <;> simp [Phase.inFlight, Phase.preparing, Phase.busy]

/-- What a turn does to the pins of its connection and to the counters: nothing, it takes
a pin, it releases one, or it runs a round of the eviction loop. -/
inductive PinChange (g g' : Shared σ) (conn conn' : Conn) : Prop
  | keep (counts : ∀ sid, g'.st.pinCount sid = g.st.pinCount sid)
      (held : ∀ sid, conn'.holds sid = conn.holds sid)
  | take (pin : Bytes) (stored : pin ∈ g.st.snaps) (kept : pin ∈ g'.st.snaps)
      (counts : ∀ sid, g'.st.pinCount sid = g.st.pinCount sid + if sid = pin then 1 else 0)
      (before : ∀ sid, conn.holds sid = false)
      (after : ∀ sid, conn'.holds sid = decide (pin = sid ∧ sid ≠ []))
  | release (pin : Bytes)
      (counts : ∀ sid, g'.st.pinCount sid = g.st.pinCount sid + if sid = pin then -1 else 0)
      (before : ∀ sid, conn.holds sid = decide (pin = sid)) (after : ∀ sid, conn'.holds sid = false)
  | evict (counts : ∀ sid, g'.st.pinCount sid = g.st.evictOnce.pinCount sid)
      (held : ∀ sid, conn'.holds sid = conn.holds sid)

/-- A turn between connections that hold nothing. -/
theorem PinChange.of_free {g g' : Shared σ} {conn conn' : Conn}
    (before : ∀ sid, conn.holds sid = false) (after : ∀ sid, conn'.holds sid = false)
    (counts : ∀ sid, g'.st.pinCount sid = g.st.pinCount sid) : PinChange g g' conn conn' :=
  .keep counts fun sid => (after sid).trans (before sid).symm

section

variable {g g' : Shared σ} {conn conn' : Conn}

/-- A turn outside of requests. -/
theorem pins_resting (before : conn.phase.inFlight = false) (after : conn'.phase.resting = true)
    (counts : ∀ sid, g'.st.pinCount sid = g.st.pinCount sid) :
    PinInv conn' ∧ PinChange g g' conn conn' :=
  ⟨PinInv.of_resting after,
    PinChange.of_free (Conn.holds_of_idle before)
      (Conn.holds_of_idle (inFlight_of_resting after)) counts⟩

/-- A turn of a request that keeps its pin. -/
theorem pins_busy (before : conn.phase.inFlight = true) (after : conn'.phase.busy = true)
    (same : conn'.pinnedSid = conn.pinnedSid)
    (counts : ∀ sid, g'.st.pinCount sid = g.st.pinCount sid) :
    PinInv conn' ∧ PinChange g g' conn conn' :=
  ⟨PinInv.of_busy after, .keep counts (Conn.holds_congr before (inFlight_of_busy after) same)⟩

/-- A turn that routes a request without a pin. -/
theorem pins_routed {cfg : Settings} {req : CoreRequest} {middle : Conn}
    (routed : Routed cfg req middle conn') (free : ∀ sid, conn.holds sid = false)
    (clear : middle.pinnedSid = []) (counts : ∀ sid, g'.st.pinCount sid = g.st.pinCount sid) :
    PinInv conn' ∧ PinChange g g' conn conn' := by
  obtain ⟨inv, clear'⟩ := routed.pinInv clear
  exact ⟨inv, PinChange.of_free free (Conn.holds_of_nil clear') counts⟩

/-- The end of the request loop, when no pin is remembered. -/
theorem pins_leave {p : Platform σ} {payload : Option Bytes}
    (released : releasedBeforeExit.turn g conn (.frame payload)) (phase : conn.phase = .reading)
    (read : payload.bind (conn.textOf p.bcrypt) = none) : conn.leave.phase.resting = true := by
  rcases leave_cases conn with ⟨_, _, left⟩ | ⟨pipe, pinned, _⟩ | ⟨_, left⟩
  · rw [left]
    rfl
  · have failed : payload = none := by
      cases payload with
      | none => rfl
      | some frame => simp [Conn.textOf, pipe] at read
    exact absurd (released phase pipe (by rw [failed])) pinned
  · rw [left]
    rfl

theorem pins_afterSend (phase : conn.phase.inFlight = true)
    (counts : ∀ sid, g'.st.pinCount sid = g.st.pinCount sid)
    (same : conn'.pinnedSid = conn.pinnedSid) :
    PinInv conn'.afterSend ∧ PinChange g g' conn conn'.afterSend := by
  rcases afterSend_cases conn' with ⟨clear, next⟩ | ⟨pinned, next⟩
  · rw [next]
    have free := Conn.holds_of_nil (same ▸ clear : conn.pinnedSid = [])
    exact ⟨PinInv.of_resting rfl, PinChange.of_free free (Conn.holds_of_idle rfl) counts⟩
  · rw [next]
    refine ⟨⟨nofun, fun _ => pinned, nofun⟩, .keep counts ?_⟩
    exact Conn.holds_congr phase rfl same

end

theorem write_pinnedSid (bcrypt : Crypto.BCrypt) (conn : Conn) (text : Bytes) :
    (conn.write bcrypt text).2.pinnedSid = conn.pinnedSid := by
  obtain ⟨crypto, written⟩ := write_eq bcrypt conn text
  rw [written]

theorem turn_pins {p : Platform σ} {cfg : Settings} {g g' : Shared σ} {conn conn' : Conn}
    {input : Input} (inv : PinInv conn) (released : releasedBeforeExit.turn g conn input)
    (ran : turn p cfg g conn input = some (g', conn')) :
    PinInv conn' ∧ PinChange g g' conn conn' := by
  cases turn_cases ran with
  | startPipe phase pipe => exact pins_resting (by rw [phase]; rfl) rfl fun _ => rfl
  | startTcp phase tcp =>
      refine pins_resting (by rw [phase]; rfl) ?_ fun _ => rfl
      dsimp only
      split <;> rfl
  | hangUp phase =>
      have idle : conn.phase.inFlight = false := by
        rcases phase with phase | phase <;> rw [phase] <;> rfl
      exact pins_resting idle rfl fun _ => rfl
  | answered phase checked => exact pins_resting (by rw [phase]; rfl) rfl fun _ => rfl
  | refused phase checked => exact pins_resting (by rw [phase]; rfl) rfl fun _ => rfl
  | @request payload text phase read =>
      have free : ∀ sid, conn.holds sid = false := Conn.holds_of_idle (by rw [phase]; rfl)
      rcases onRequest_cases p.stod cfg conn text with ⟨req, _, _, routed⟩ | ⟨what, error⟩
      · exact pins_routed routed free (refresh_pinnedSid conn) fun _ => rfl
      · rw [error]
        exact ⟨PinInv.of_busy rfl,
          PinChange.of_free free (Conn.holds_of_nil (refresh_pinnedSid conn)) fun _ => rfl⟩
  | hungUp phase read =>
      exact pins_resting (by rw [phase]; rfl) (pins_leave released phase read)
        fun _ => rfl
  | core phase surroundings ranCore =>
      have before : conn.phase.inFlight = true := by rw [phase]; rfl
      rcases afterCore_cases conn _ _ _ _ with polled | sent
      · rw [polled.2.2]
        exact pins_busy before rfl rfl fun _ => rfl
      · rw [sent]
        exact pins_busy before rfl rfl fun _ => rfl
  | recovered phase free known =>
      have clear := inv.clear (by rw [phase]; rfl)
      exact pins_routed (route_routed cfg _ _) (Conn.holds_of_nil clear) clear fun _ => rfl
  | tooMany phase free unknown capped =>
      exact pins_busy (by rw [phase]; rfl) rfl rfl fun _ => rfl
  | created phase free unknown allowed =>
      have clear := inv.clear (by rw [phase]; rfl)
      exact pins_routed (route_routed cfg _ _) (Conn.holds_of_nil clear) clear fun _ => rfl
  | @captureOk resp req next s w captures taken =>
      obtain ⟨before, after, prepares, notUnpinning, notLeaving⟩ := captures.inFlight s
      refine ⟨⟨fun h => inv.clear (prepares h), fun h => absurd h notUnpinning, notLeaving⟩, ?_⟩
      exact .keep (fun _ => rfl) (Conn.holds_congr before after rfl)
  | captureFails captures taken =>
      exact pins_busy (captures.inFlight {}).1 rfl rfl fun _ => rfl
  | subscribed phase free =>
      refine pins_busy (by rw [phase]; rfl) rfl rfl fun sid => ?_
      simp only [subscribe, Shared.withSt, pinCount_ite]
      split <;> rfl
  | unsubscribing phase free =>
      refine pins_busy (by rw [phase]; rfl) rfl rfl fun sid => ?_
      simp only [unsubscribe, Shared.withSt, pinCount_ite]
      split <;> rfl
  | terminating phase free =>
      have clear := inv.clear (by rw [phase]; rfl)
      exact pins_routed (proceed_routed cfg _ _) (Conn.holds_of_nil clear) clear fun _ => rfl
  | captured phase free =>
      have clear := inv.clear (by rw [phase]; rfl)
      refine ⟨⟨fun _ => clear, Phase.noConfusion, Phase.noConfusion⟩, ?_⟩
      exact .keep (fun _ => rfl) (Conn.holds_congr (by rw [phase]; rfl) rfl rfl)
  | evictRound phase full => exact ⟨inv, .evict (fun _ => rfl) fun _ => rfl⟩
  | evictDone phase fits => exact pins_busy (by rw [phase]; rfl) rfl rfl fun _ => rfl
  | unknownSnapshot phase named free unknown =>
      exact pins_busy (by rw [phase]; rfl) rfl rfl fun _ => rfl
  | @pinned req sid snap phase named free stored =>
      have clear := inv.clear (by rw [phase]; rfl)
      have member := Finmap.mem_of_lookup_eq_some stored
      refine ⟨PinInv.of_busy rfl, .take sid member ?_ ?_ (Conn.holds_of_nil clear) ?_⟩
      · cases conn.transport with
        | pipe => exact member
        | tcp => exact member
      · intro other
        cases conn.transport with
        | pipe => exact pinCount_addPin g.st sid other 1
        | tcp => exact pinCount_addPin g.st sid other 1
      · intro other
        rfl
  | findingOld phase => exact pins_busy (by rw [phase]; rfl) rfl rfl fun _ => rfl
  | storing phase free =>
      refine pins_busy (by rw [phase]; rfl) rfl rfl fun sid => ?_
      simp only [storePoll, Shared.withSt, pinCount_ite]
      split <;> rfl
  | sending phase =>
      exact pins_afterSend (by rw [phase]; rfl) (fun _ => rfl) (write_pinnedSid p.bcrypt conn _)
  | unpinning phase free =>
      have pinned := inv.pinned phase
      refine ⟨PinInv.of_resting rfl, ?_⟩
      refine .release conn.pinnedSid (fun sid => pinCount_addPin g.st conn.pinnedSid sid (-1)) ?_
        (Conn.holds_of_idle rfl)
      intro sid
      rw [Conn.holds, phase]
      by_cases same : conn.pinnedSid = sid
      · subst same
        simp [Phase.inFlight, pinned]
      · simp [same]
  | leaving phase free => exact absurd phase inv.stays
  | closing phase => exact pins_resting (by rw [phase]; rfl) rfl fun _ => rfl

/-! ## Runs -/

theorem nextSid_ne_nil (st : ServerState) : st.nextSid ≠ [] :=
  List.cons_ne_nil _ _

theorem StoreChange.nil_not_mem {st st' : ServerState} {issues : Option Snapshot}
    (change : StoreChange st st' issues) (absent : [] ∉ st.snaps) : [] ∉ st'.snaps := by
  cases change with
  | keep same => rwa [same.snaps]
  | issue same =>
      rw [same.snaps]
      intro member
      rcases Map.mem_emplace.mp member with new | old
      · exact nextSid_ne_nil st new.symm
      · exact absent old
  | touch sid stored same => rwa [same.snaps]
  | evict same =>
      rw [same.snaps]
      unfold ServerState.evictOnce
      split
      · exact absent
      · split
        · exact absent
        · exact fun member => absent (Finmap.mem_erase.mp member).2

/-- A snapshot that a step removes was not pinned. -/
theorem StoreChange.mem_of_pinned {st st' : ServerState} {issues : Option Snapshot}
    (change : StoreChange st st' issues) {sid : Bytes} (stored : sid ∈ st.snaps)
    (pinned : 0 < st.pinCount sid) : sid ∈ st'.snaps := by
  cases change with
  | keep same => rwa [same.snaps]
  | issue same =>
      rw [same.snaps]
      exact Map.mem_emplace.mpr (Or.inr stored)
  | touch other _ same => rwa [same.snaps]
  | evict same =>
      rw [same.snaps]
      unfold ServerState.evictOnce
      split
      · exact stored
      · rename_i oldest rest order
        split
        · exact stored
        · rename_i unpinned
          refine Finmap.mem_erase.mpr ⟨?_, stored⟩
          rintro rfl
          exact unpinned pinned

theorem keeps_pinInv (p : Platform σ) (cfg : Settings) :
    Keeps (daemon p cfg) releasedBeforeExit (fun g => [] ∉ g.st.snaps) fun _ => PinInv where
  turn := by
    intro g conn input g' conn' absent inv released ran
    exact ⟨(turn_storeChange ran).nil_not_mem absent, (turn_pins inv released ran).1⟩
  others := by
    intro g conn input g' conn' other _ _ otherInv _ _
    exact otherInv
  spawn := by
    intro g kind g' conn absent _ spawned
    obtain ⟨rfl, rfl⟩ := accept_st spawned
    exact ⟨absent, PinInv.of_resting rfl, fun _ inv => inv⟩
  env := by
    intro g event g' absent _ moved
    refine ⟨?_, fun _ inv => inv⟩
    rwa [(outside_sameStore moved).snaps]

theorem outside_pinCount {cfg : Settings} {g g' : Shared σ} {event : Outside σ}
    (moved : outside cfg g event = some g') (sid : Bytes) :
    g'.st.pinCount sid = g.st.pinCount sid := by
  rcases outside_cases moved with ⟨w, _, rfl⟩ | ⟨nanoseconds, _, rfl⟩ | ⟨_, _, rfl⟩ <;> rfl

theorem counts_pins (p : Platform σ) (cfg : Settings) (sid : Bytes) :
    Counts (daemon p cfg) releasedBeforeExit (fun g => [] ∉ g.st.snaps) (fun _ => PinInv)
      (fun g => g.st.pinCount sid) (Conn.holds sid) where
  turn := by
    intro g conn input g' conn' absent inv nonneg released ran
    cases (turn_pins inv released ran).2 with
    | keep counts held => rw [counts sid, held sid]
    | take pin stored kept counts before after =>
        rw [counts sid, before sid, after sid]
        by_cases same : sid = pin
        · subst same
          have nonempty : sid ≠ [] := fun empty => absent (empty ▸ stored)
          simp [nonempty]
        · simp [same, Ne.symm same]
    | release pin counts before after =>
        rw [counts sid, before sid, after sid]
        by_cases same : sid = pin
        · simp [same]
        · simp [same, Ne.symm same]
    | evict counts held => rw [counts sid, held sid, pinCount_evictOnce nonneg]
  spawn := by
    intro g kind g' conn _ _ spawned
    obtain ⟨rfl, rfl⟩ := accept_st spawned
    exact ⟨rfl, Conn.holds_of_idle rfl sid⟩
  env := by
    intro g event g' _ _ moved
    exact outside_pinCount moved sid

theorem initial_pinInv (world : σ) :
    Transition.System.Everywhere (fun g => [] ∉ g.st.snaps) (fun _ => PinInv) (initial world) :=
  ⟨Finmap.notMem_empty, by simp [initial]⟩

section

variable {p : Platform σ} {cfg : Settings} {world : σ} {target : Config (Shared σ) Conn}

/-- The count of an id is the number of connections that hold it. -/
theorem pinCount_eq_holders (run : (daemon p cfg).Runs releasedBeforeExit (initial world) target)
    (sid : Bytes) : target.shared.st.pinCount sid = target.parts.countP (Conn.holds sid) :=
  run.counted (keeps_pinInv p cfg) (counts_pins p cfg sid) (initial_pinInv world) rfl

/-- Every held snapshot is stored. -/
def HeldStored (config : Config (Shared σ) Conn) : Prop :=
  ∀ conn ∈ config.parts, ∀ sid, conn.holds sid = true → sid ∈ config.shared.st.snaps

theorem pinCount_pos_of_held {config : Config (Shared σ) Conn} {sid : Bytes} {conn : Conn}
    (counted : config.shared.st.pinCount sid = config.parts.countP (Conn.holds sid))
    (member : conn ∈ config.parts) (held : conn.holds sid = true) :
    0 < config.shared.st.pinCount sid := by
  rw [counted]
  exact Int.natCast_pos.mpr (List.countP_pos_iff.mpr ⟨conn, member, held⟩)

theorem heldStored (run : (daemon p cfg).Runs releasedBeforeExit (initial world) target) :
    HeldStored target := by
  have known : ∀ config, (daemon p cfg).Runs releasedBeforeExit (initial world) config →
      (∀ sid, config.shared.st.pinCount sid = config.parts.countP (Conn.holds sid)) ∧
        ∀ conn ∈ config.parts, PinInv conn := by
    intro config reached
    exact ⟨pinCount_eq_holders reached,
      (reached.invariant (keeps_pinInv p cfg) (initial_pinInv world)).2⟩
  have start : HeldStored (initial world) := by
    intro conn member
    cases member
  refine Transition.Steps.invariant_of_known run known start ?_
  intro before move after known stored admitted step
  obtain ⟨counted, inv⟩ := known
  rcases System.next_cases step with ⟨index, input, part, shared, part', rfl, found, turned, rfl⟩ |
    ⟨kind, shared, part, rfl, spawned, rfl⟩ | ⟨event, shared, rfl, moved, rfl⟩
  · have partMem : part ∈ before.parts := List.mem_of_getElem? found
    have keep : ∀ conn ∈ before.parts, ∀ sid, conn.holds sid = true → sid ∈ shared.st.snaps := by
      intro conn member sid held
      exact (turn_storeChange turned).mem_of_pinned (stored conn member sid held)
        (pinCount_pos_of_held (counted sid) member held)
    intro conn member sid held
    rcases List.mem_or_eq_of_mem_set member with old | rfl
    · exact keep conn old sid held
    · cases (turn_pins (inv part partMem) (admitted part found) turned).2 with
      | keep counts same => exact keep part partMem sid (by rw [← same sid, held])
      | take pin _ kept _ _ after =>
          rw [after sid, decide_eq_true_eq] at held
          exact held.1 ▸ kept
      | release pin _ _ after =>
          rw [after sid] at held
          cases held
      | evict counts same => exact keep part partMem sid (by rw [← same sid, held])
  · obtain ⟨rfl, rfl⟩ := accept_st spawned
    intro conn member sid held
    rcases List.mem_append.mp member with old | new
    · exact stored conn old sid held
    · cases List.mem_singleton.mp new
      rw [Conn.holds_of_idle rfl sid] at held
      cases held
  · intro conn member sid held
    change sid ∈ shared.st.snaps
    rw [(outside_sameStore moved).snaps]
    exact stored conn member sid held

end

/-- In every run in which no pipe read fails while the connection remembers a pin, the pin
count of every id is the number of connections that have pinned it for a request and not
released it.  So it is never negative, it is 0 when no request is in flight, and a pinned
snapshot stays stored. -/
theorem pinnedCounts_exact (p : Platform σ) (cfg : Settings) (world : σ)
    {target : Config (Shared σ) Conn}
    (run : (daemon p cfg).Runs releasedBeforeExit (initial world) target) :
    (∀ sid, target.shared.st.pinCount sid = target.parts.countP (Conn.holds sid)) ∧
      (∀ sid, 0 ≤ target.shared.st.pinCount sid) ∧
      ((∀ conn ∈ target.parts, conn.phase.inFlight = false) →
        ∀ sid, target.shared.st.pinCount sid = 0) ∧
      ∀ conn ∈ target.parts, ∀ sid, conn.holds sid = true → sid ∈ target.shared.st.snaps := by
  have counted := pinCount_eq_holders run
  refine ⟨counted, ?_, ?_, heldStored run⟩
  · intro sid
    rw [counted sid]
    exact Int.natCast_nonneg _
  · intro idle sid
    rw [counted sid, List.countP_eq_zero.mpr, Nat.cast_zero]
    intro conn member
    simp [Conn.holds_of_idle (idle conn member) sid]

/-- A pipe client captures a snapshot, names it in a request, and is answered. -/
def pinnedRequest : List (Transition.Move Input Transport (Outside Fake.FakeState)) :=
  [.spawn .pipe, .turn 0 (.start none []),
    .turn 0 (.frame (some (requestText "1" "snapshot.capture" []))),
    .turn 0 .go, .turn 0 .go, .turn 0 .go, .turn 0 .go,
    .turn 0 (.frame (some (requestText "2" "window.listTop"
      [("snapshot_id", .str (ascii "s-1"))]))),
    .turn 0 .go, .turn 0 .go, .turn 0 (.core false [] 0 0)]

theorem pinnedRequest_ends :
    ((Transition.exec (daemon fakePlatform {}).next (initial {}) pinnedRequest).any
      fun target => decide (target.shared.st.pinCount (ascii "s-1") = 1)) = true := by
  decide +kernel

theorem pinnedRequest_enabled :
    (Transition.exec (daemon fakePlatform {}).next (initial {}) pinnedRequest).isSome :=
  Option.isSome_of_any pinnedRequest_ends

theorem pinnedRequest_released :
    ∀ move ∈ pinnedRequest, ∀ config, releasedBeforeExit.allows config move := by
  intro move member config
  fin_cases member
  · trivial
  all_goals
    intro conn found phase transport failed
    cases failed

/-- The counts while the response is being written. -/
theorem pinnedCounts_exact_pinnedRequest :
    let target := (Transition.exec (daemon fakePlatform {}).next (initial {}) pinnedRequest).get
      pinnedRequest_enabled
    target.shared.st.pinCount (ascii "s-1") = 1 ∧
      (∀ sid, target.shared.st.pinCount sid = target.parts.countP (Conn.holds sid)) ∧
      (∀ sid, 0 ≤ target.shared.st.pinCount sid) ∧
      ((∀ conn ∈ target.parts, conn.phase.inFlight = false) →
        ∀ sid, target.shared.st.pinCount sid = 0) ∧
      ∀ conn ∈ target.parts, ∀ sid, conn.holds sid = true → sid ∈ target.shared.st.snaps :=
  ⟨Transition.get_of_any pinnedRequest_ends pinnedRequest_enabled,
    pinnedCounts_exact fakePlatform {} {}
      (System.runs_exec_of _ _ _ _ pinnedRequest_released pinnedRequest_enabled)⟩

/-- The client of `pinnedRequest` then disconnects.  The exit path releases the pin a second
time, and the count ends at -1 although no connection holds the snapshot. -/
theorem pinCount_negative_after_disconnect :
    (Transition.exec (daemon fakePlatform {}).next (initial {})
      (pinnedRequest ++ [.turn 0 .go, .turn 0 .go, .turn 0 (.frame none), .turn 0 .go])).map
        (fun target => (target.shared.st.pinCount (ascii "s-1"),
          target.parts.countP (Conn.holds (ascii "s-1")))) = some (-1, 0) := by
  decide +kernel

end WinInspect.Daemon
