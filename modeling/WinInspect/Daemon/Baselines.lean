import WinInspect.Daemon.Eviction
import WinInspect.Daemon.Sessions

/-!
# Baselines

The id of a subscription's baseline is in the session table and in the sessions of the
connections; the snapshot is in the store.  Every way to set the id names a snapshot that
is stored at that moment, so a baseline stops being usable exactly when the eviction loop
of some `snapshot.capture` evicts it.
-/

namespace WinInspect.Daemon

open Transition (Config System Move Steps)

variable {σ : Type}

/-- The `ClientSession` of a connection exists: for a pipe as long as its thread, for TCP
while a request is processed. -/
def Conn.hasSession (conn : Conn) : Bool :=
  match conn.transport, conn.phase with
  | .pipe, .closed => false
  | .pipe, _ => true
  | .tcp, phase => phase.inFlight

/-- The baselines of the subscribed sessions, in the table and of the connections. -/
inductive IsBaseline (config : Config (Shared σ) Conn) : Bytes → Prop
  | table {id : Bytes} {ps : PersistentSession}
      (known : config.shared.st.sessions.lookup id = some ps) (subscribed : ps.subscribed = true) :
      IsBaseline config ps.lastSnapId
  | conn {conn : Conn} (member : conn ∈ config.parts) (live : conn.hasSession = true)
      (subscribed : conn.session.subscribed = true) : IsBaseline config conn.session.lastSnapId

/-- An id of a stored snapshot. -/
def Stored (st : ServerState) (sid : Bytes) : Prop :=
  sid ≠ [] ∧ sid ∈ st.snaps

/-- Every subscribed session has a stored baseline. -/
def Usable (config : Config (Shared σ) Conn) : Prop :=
  ∀ sid, IsBaseline config sid → Stored config.shared.st sid

/-- The snapshot that a round of the eviction loop evicts. -/
def ServerState.victim (st : ServerState) : Option Bytes :=
  match st.lruOrder with
  | [] => none
  | oldest :: _ => if 0 < st.pinCount oldest then none else some oldest

/-- The snapshot that the next turn of a connection evicts. -/
def Conn.evicts (cfg : Settings) (g : Shared σ) (conn : Conn) : Option Bytes :=
  if conn.phase.evicts ∧ cfg.maxSnapshots < g.st.lruOrder.length then g.st.victim else none

/-- The condition on a step: it does not evict the baseline of a subscribed session. -/
def keepsBaselines (cfg : Settings) (config : Config (Shared σ) Conn) :
    Move Input Transport (Outside σ) → Prop
  | .turn index _ => ∀ conn, config.parts[index]? = some conn →
      ∀ sid, conn.evicts cfg config.shared = some sid → ¬ IsBaseline config sid
  | _ => True

/-! ## What is stored -/

theorem stored_nextSid {st st' : ServerState} {s : Snapshot}
    (change : StoreChange st st' (some s)) : Stored st' st.nextSid := by
  constructor
  · simp [ServerState.nextSid, makeSnapId, ascii]
  · cases change with
    | issue same =>
        rw [same.snaps]
        exact Map.mem_emplace.mpr (Or.inl rfl)

/-- A round evicts the victim and nothing else. -/
theorem mem_snaps_evictOnce {st : ServerState} {sid : Bytes} :
    sid ∈ st.evictOnce.snaps ↔ sid ∈ st.snaps ∧ st.victim ≠ some sid := by
  unfold ServerState.evictOnce ServerState.victim
  cases order : st.lruOrder with
  | nil => simp
  | cons oldest rest =>
      by_cases pinned : 0 < st.pinCount oldest
      · simp [pinned, ServerState.addPin]
      · simp [pinned, Finmap.mem_erase, eq_comm, and_comm]

@[simp]
theorem evictOnce_sessions (st : ServerState) : st.evictOnce.sessions = st.sessions := by
  unfold ServerState.evictOnce
  split
  · rfl
  · split <;> rfl

section

variable {p : Platform σ} {cfg : Settings} {g g' : Shared σ} {conn conn' : Conn} {input : Input}

/-- What is stored and not evicted by a turn stays stored. -/
theorem turn_stored (ran : turn p cfg g conn input = some (g', conn')) {sid : Bytes}
    (stored : Stored g.st sid) (kept : conn.evicts cfg g ≠ some sid) : Stored g'.st sid := by
  refine ⟨stored.1, ?_⟩
  have issued : ∀ {s}, StoreChange g.st g'.st (some s) → sid ∈ g'.st.snaps := by
    intro s change
    cases change with
    | issue same =>
        rw [same.snaps]
        exact Map.mem_emplace.mpr (Or.inr stored.2)
  have change := turn_storeChange ran
  cases turn_cases ran with
  | evictRound phase full =>
      rw [Conn.evicts, if_pos ⟨by rw [phase]; rfl, full⟩] at kept
      exact mem_snaps_evictOnce.mpr ⟨stored.2, kept⟩
  | captured phase free | subscribed phase free | storing phase free =>
      rw [phase] at change
      exact issued change
  | unsubscribing phase free =>
      simp only [unsubscribe, Shared.withSt]
      split <;> exact stored.2
  | pinned phase named free found => cases conn.transport <;> exact stored.2
  | _ => exact stored.2

/-! ## Where baselines come from -/

/-- Where a turn takes the baseline of its connection's session from: the session, the
table, or the snapshot it issues. -/
inductive BaselineSource (g : Shared σ) (conn conn' : Conn) : Prop
  | kept (subscribed : conn.session.subscribed = true)
      (same : conn'.session.lastSnapId = conn.session.lastSnapId)
  | recovered {id : Bytes} {ps : PersistentSession} (known : g.st.sessions.lookup id = some ps)
      (subscribed : ps.subscribed = true) (same : conn'.session.lastSnapId = ps.lastSnapId)
  | issued {s : Snapshot} (issues : conn.phase.issues = some s)
      (same : conn'.session.lastSnapId = g.st.nextSid)

/-- Routing keeps the baseline of a session that stays subscribed. -/
theorem Routed.baseline {req : CoreRequest} (routed : Routed cfg req conn conn')
    (subscribed : conn'.session.subscribed = true) :
    conn.session.subscribed = true ∧ conn'.session.lastSnapId = conn.session.lastSnapId := by
  have same := routed.session subscribed
  exact ⟨same ▸ subscribed, by rw [same]⟩

theorem turn_baselineSource (ran : turn p cfg g conn input = some (g', conn'))
    (subscribed : conn'.session.subscribed = true) : BaselineSource g conn conn' := by
  cases turn_cases ran with
  | startPipe phase pipe => cases subscribed
  | @request payload text phase read =>
      rcases onRequest_cases p.stod cfg conn text with ⟨req, _, _, routed⟩ | ⟨what, error⟩
      · obtain ⟨before, same⟩ := routed.baseline subscribed
        have old := refresh_session before
        rw [old] at before same
        exact .kept before same
      · rw [error] at subscribed ⊢
        have old := refresh_session subscribed
        exact .kept (old ▸ subscribed) (congrArg ClientSession.lastSnapId old)
  | hungUp phase read =>
      obtain ⟨next, left⟩ := leave_goto conn
      rw [left] at subscribed ⊢
      exact .kept subscribed rfl
  | core phase surroundings ranCore =>
      obtain ⟨next, answered⟩ := afterCore_goto conn _ _ _ _
      rw [answered] at subscribed ⊢
      exact .kept subscribed rfl
  | @recovered req sid ps phase free known =>
      obtain ⟨before, same⟩ := (route_routed cfg _ req).baseline subscribed
      exact .recovered known before same
  | created phase free unknown allowed =>
      obtain ⟨before, same⟩ := (route_routed cfg _ _).baseline subscribed
      exact .kept before same
  | terminating phase free =>
      obtain ⟨before, same⟩ := (proceed_routed cfg _ _).baseline subscribed
      exact .kept before same
  | subscribed phase free => exact .issued (by rw [phase]; rfl) rfl
  | storing phase free => exact .issued (by rw [phase]; rfl) rfl
  | @sending req resp phase =>
      obtain ⟨crypto, written⟩ := write_eq p.bcrypt conn (serializeResponseJson resp)
      rw [written] at subscribed ⊢
      exact .kept subscribed rfl
  | _ => exact .kept subscribed rfl

/-- A session that is subscribed after a turn existed before it. -/
theorem turn_hasSession (ran : turn p cfg g conn input = some (g', conn'))
    (live : conn'.hasSession = true) (subscribed : conn'.session.subscribed = true) :
    conn.hasSession = true := by
  have transport := turn_transport ran
  cases kind : conn.transport with
  | pipe =>
      cases phase : conn.phase with
      | closed =>
          rw [turn_closed phase] at ran
          cases ran
      | _ => simp [Conn.hasSession, kind, phase]
  | tcp =>
      rw [kind] at transport
      simp only [Conn.hasSession, transport, kind] at live ⊢
      cases turn_cases ran with
      | startPipe phase pipe => cases subscribed
      | startTcp phase tcp =>
          dsimp only at live
          split at live <;> cases live
      | @request payload text phase read =>
          have fresh : conn.refresh.session.subscribed = false := by
            simp [Conn.refresh, kind]
          rcases onRequest_cases p.stod cfg conn text with ⟨req, _, _, routed⟩ | ⟨what, error⟩
          · rw [(routed.baseline subscribed).1] at fresh
            cases fresh
          · rw [error] at subscribed
            exact absurd (fresh.symm.trans subscribed) nofun
      | hungUp phase read =>
          simp only [Conn.leave, kind] at live
          cases live
      | hangUp phase | answered phase _ | refused phase _ | leaving phase _ | closing phase =>
          cases live
      | captureOk captures taken | captureFails captures taken => exact (captures.inFlight {}).1
      | core phase _ _ | recovered phase _ _ | tooMany phase _ _ _ | created phase _ _ _
      | subscribed phase _ | unsubscribing phase _ | terminating phase _ | captured phase _
      | evictRound phase _ | evictDone phase _ | unknownSnapshot phase _ _ _ | pinned phase _ _ _
      | findingOld phase | storing phase _ | sending phase | unpinning phase _ =>
          rw [phase]
          rfl

/-- A subscribed entry of the table has its baseline from the table or is just issued. -/
theorem turn_tableBaseline (ran : turn p cfg g conn input = some (g', conn')) {id : Bytes}
    {ps' : PersistentSession} (known : g'.st.sessions.lookup id = some ps')
    (subscribed : ps'.subscribed = true) :
    (∃ other ps, g.st.sessions.lookup other = some ps ∧ ps.subscribed = true ∧
      ps.lastSnapId = ps'.lastSnapId) ∨
    ∃ s, conn.phase.issues = some s ∧ ps'.lastSnapId = g.st.nextSid := by
  have modified : ∀ {key : Bytes} {change : PersistentSession → PersistentSession},
      (g.st.sessions.modify key change).lookup id = some ps' →
      g.st.sessions.lookup id = some ps' ∨
        ps' = change ((g.st.sessions.lookup key).getD default) := by
    intro key change found
    rw [Map.lookup_modify_eq] at found
    split at found
    · exact Or.inr (Option.some.inj found).symm
    · exact Or.inl found
  have kept : g.st.sessions.lookup id = some ps' → ∃ other ps,
      g.st.sessions.lookup other = some ps ∧ ps.subscribed = true ∧
        ps.lastSnapId = ps'.lastSnapId :=
    fun found => ⟨id, ps', found, subscribed, rfl⟩
  cases turn_tableChange ran with
  | keep same => exact Or.inl (kept (same ▸ known))
  | @recover req sid ps phase entry same =>
      rw [same] at known
      rcases modified known with old | rfl
      · exact Or.inl (kept old)
      · rw [entry] at subscribed ⊢
        exact Or.inl ⟨sid, ps, entry, subscribed, rfl⟩
  | create phase unknown allowed same =>
      rw [same, Map.lookup_insert_eq] at known
      split at known
      · cases known
        cases subscribed
      · exact Or.inl (kept known)
  | rebase starts phase named same =>
      rw [same] at known
      rcases modified known with old | rfl
      · exact Or.inl (kept old)
      · obtain ⟨s, issues⟩ := Phase.issues_of_storesBaseline phase
        exact Or.inr ⟨s, issues, rfl⟩
  | unsubscribe phase present same =>
      rw [same] at known
      rcases modified known with old | rfl
      · exact Or.inl (kept old)
      · cases subscribed
  | terminate phase same =>
      rw [same, Map.lookup_erase_eq] at known
      split at known
      · cases known
      · exact Or.inl (kept known)

end

section

variable {p : Platform σ} {cfg : Settings} {before after : Config (Shared σ) Conn}
  {move : Move Input Transport (Outside σ)}

theorem turn_baseline_cases {index : Nat} {conn conn' : Conn} {input : Input} {g' : Shared σ}
    (found : before.parts[index]? = some conn)
    (ran : turn p cfg before.shared conn input = some (g', conn')) {sid : Bytes}
    (baseline : IsBaseline ⟨g', before.parts.set index conn'⟩ sid) :
    IsBaseline before sid ∨ ∃ s, conn.phase.issues = some s ∧ sid = before.shared.st.nextSid := by
  cases baseline with
  | table known subscribed =>
      rcases turn_tableBaseline ran known subscribed with ⟨id, ps, old, active, same⟩ | issued
      · exact Or.inl (same ▸ .table old active)
      · exact Or.inr issued
  | @conn other member live subscribed =>
      rcases List.mem_or_eq_of_mem_set member with old | rfl
      · exact Or.inl (.conn old live subscribed)
      · have mine : conn ∈ before.parts := List.mem_of_getElem? found
        cases turn_baselineSource ran subscribed with
        | kept active same =>
            rw [same]
            exact Or.inl (.conn mine (turn_hasSession ran live subscribed) active)
        | recovered known active same =>
            rw [same]
            exact Or.inl (.table known active)
        | issued issues same => exact Or.inr ⟨_, issues, same⟩

/-- A step that does not evict a baseline keeps the baselines usable. -/
theorem Usable.step (usable : Usable before) (kept : keepsBaselines cfg before move)
    (step : (daemon p cfg).next before move = some after) : Usable after := by
  intro sid baseline
  rcases System.next_cases step with ⟨index, input, conn, g', conn', rfl, found, ran, rfl⟩ |
    ⟨transport, g', conn, rfl, spawned, rfl⟩ | ⟨event, g', rfl, moved, rfl⟩
  · rcases turn_baseline_cases found ran baseline with old | ⟨s, issues, rfl⟩
    · exact turn_stored ran (usable sid old) fun evicted => kept conn found sid evicted old
    · exact stored_nextSid (issues ▸ turn_storeChange ran)
  · obtain ⟨rfl, rfl⟩ := accept_st spawned
    cases baseline with
    | table known subscribed => exact usable _ (.table known subscribed)
    | @conn other member live subscribed =>
        rcases List.mem_append.mp member with old | new
        · exact usable _ (.conn old live subscribed)
        · cases List.mem_singleton.mp new
          cases subscribed
  · have same := outside_sameStore moved
    rw [Stored, same.snaps]
    cases baseline with
    | @table id ps known subscribed =>
        refine usable _ (@IsBaseline.table _ _ id _ ?_ subscribed)
        rcases outside_sessions moved with table | table
        · exact table ▸ known
        · rw [table] at known
          exact (Map.lookup_retain_eq_some_iff.mp known).1
    | conn member live subscribed => exact usable _ (.conn member live subscribed)

theorem Conn.evicts_eq_some {g : Shared σ} {conn : Conn} {sid : Bytes}
    (evicts : conn.evicts cfg g = some sid) :
    (∃ req issued, conn.phase = .evicting req issued) ∧
      cfg.maxSnapshots < g.st.lruOrder.length ∧ g.st.victim = some sid := by
  unfold Conn.evicts at evicts
  split at evicts
  · rename_i running
    exact ⟨Phase.exists_of_evicts running.1, running.2, evicts⟩
  · cases evicts

/-- A step that keeps the baselines usable does not evict one. -/
theorem keepsBaselines_of_usable (usable : Usable after)
    (step : (daemon p cfg).next before move = some after) : keepsBaselines cfg before move := by
  rcases System.next_cases step with ⟨index, input, conn, g', conn', rfl, found, ran, rfl⟩ |
    ⟨transport, g', conn, rfl, spawned, rfl⟩ | ⟨event, g', rfl, moved, rfl⟩
  · intro other found' sid evicts baseline
    cases found.symm.trans found'
    obtain ⟨⟨req, issued, phase⟩, full, victim⟩ := Conn.evicts_eq_some evicts
    have round := turn_evicting phase ran
    rw [evict, if_pos full] at round
    cases round
    have gone : sid ∉ before.shared.st.evictOnce.snaps :=
      fun member => (mem_snaps_evictOnce.mp member).2 victim
    refine gone (usable sid ?_).2
    -- the round changes no session
    rw [System.set_of_getElem? found]
    cases baseline with
    | @table id ps known subscribed =>
        refine @IsBaseline.table _ _ id _ ?_ subscribed
        exact (congrArg (Finmap.lookup id) (evictOnce_sessions _)).trans known
    | conn member live subscribed => exact .conn member live subscribed
  · trivial
  · trivial

end

/-- In every run that evicts no baseline of a subscribed session, every subscribed session
has a usable baseline; and the next step keeps this exactly when it evicts none. -/
theorem baselines_usable (p : Platform σ) (cfg : Settings) (world : σ)
    {target : Config (Shared σ) Conn}
    (run : Steps (daemon p cfg).next (keepsBaselines cfg) (initial world) target) :
    Usable target ∧ ∀ move after, (daemon p cfg).next target move = some after →
      (Usable after ↔ keepsBaselines cfg target move) := by
  have usable : Usable target := by
    refine run.invariant ?_ fun _ _ _ usable kept step => usable.step kept step
    rintro sid (⟨known, _⟩ | ⟨member, _, _⟩)
    · cases known
    · cases member
  refine ⟨usable, fun move after step => ⟨fun usable' => ?_, fun kept => ?_⟩⟩
  · exact keepsBaselines_of_usable usable' step
  · exact usable.step kept step

/-- A check for baselines. -/
def baselineCheck (config : Config (Shared σ) Conn) (sid : Bytes) : Bool :=
  decide (∃ id ∈ config.shared.st.sessions.keys, (config.shared.st.sessions.lookup id).any fun ps =>
    ps.subscribed && decide (ps.lastSnapId = sid)) ||
  config.parts.any fun conn =>
    conn.hasSession && conn.session.subscribed && decide (conn.session.lastSnapId = sid)

theorem baselineCheck_of_isBaseline {config : Config (Shared σ) Conn} {sid : Bytes}
    (baseline : IsBaseline config sid) : baselineCheck config sid = true := by
  unfold baselineCheck
  rw [Bool.or_eq_true]
  cases baseline with
  | @table id ps known subscribed =>
      refine Or.inl (decide_eq_true ⟨id, ?_, ?_⟩)
      · exact Finmap.mem_keys.mpr (Finmap.mem_of_lookup_eq_some known)
      · simp [known, subscribed]
  | @conn conn member live subscribed =>
      exact Or.inr (List.any_eq_true.mpr ⟨conn, member, by simp [live, subscribed]⟩)

/-- A check for evictions. -/
def evictionCheck (cfg : Settings) (config : Config (Shared σ) Conn) :
    Move Input Transport (Outside σ) → Bool
  | .turn index _ => config.parts[index]?.all fun conn =>
      (conn.evicts cfg config.shared).all fun sid => !baselineCheck config sid
  | _ => true

theorem evictionCheck_sound (cfg : Settings) (config : Config (Shared σ) Conn)
    (move : Move Input Transport (Outside σ)) (passed : evictionCheck cfg config move = true) :
    keepsBaselines cfg config move := by
  cases move with
  | turn index input =>
      intro conn found sid evicts baseline
      simp [evictionCheck, found, evicts, baselineCheck_of_isBaseline baseline] at passed
  | spawn transport => trivial
  | env event => trivial

/-- A pipe client subscribes for the session A, and a TCP client captures after it, and
before it as well if told to. -/
def subscribeAndEvict (first : Bool) : List (Move Input Transport (Outside Fake.FakeState)) :=
  let capture : List (Move Input Transport (Outside Fake.FakeState)) :=
    [.turn 1 (.frame (some (requestText "1" "snapshot.capture" []))), .turn 1 .go, .turn 1 .go,
      .turn 1 .go]
  [.spawn .pipe, .spawn .tcp, .turn 0 (.start none []), .turn 1 (.start none [])] ++
  (if first then capture ++ [.turn 1 .go] else []) ++
  [.turn 0 (.frame (some (requestText "2" "events.subscribe"
      [("session_id", .str (ascii "A"))]))), .turn 0 .go, .turn 0 .go, .turn 0 .go] ++
  capture

/-- The second capture evicts the snapshot of the first one. -/
def evictingRun : Option (Config (Shared Fake.FakeState) Conn) :=
  Transition.exec (Transition.checked (daemon fakePlatform { maxSnapshots := 2 }).next
    (evictionCheck { maxSnapshots := 2 })) (initial {}) (subscribeAndEvict true)

theorem evictingRun_ends :
    (evictingRun.any fun target => decide (
      target.shared.st.lruOrder = [ascii "s-2", ascii "s-3"] ∧
        (target.shared.st.sessions.lookup (ascii "A")).any (fun ps => ps.subscribed) = true)) =
      true := by
  decide +kernel

theorem evictingRun_enabled : evictingRun.isSome :=
  Option.isSome_of_any evictingRun_ends

theorem baselines_usable_secondCapture :
    let target := evictingRun.get evictingRun_enabled
    target.shared.st.lruOrder = [ascii "s-2", ascii "s-3"] ∧
      (target.shared.st.sessions.lookup (ascii "A")).any (fun ps => ps.subscribed) = true ∧
      Usable target ∧ ∀ move after,
        (daemon fakePlatform { maxSnapshots := 2 }).next target move = some after →
          (Usable after ↔ keepsBaselines { maxSnapshots := 2 } target move) := by
  have ends := Transition.get_of_any evictingRun_ends evictingRun_enabled
  exact ⟨ends.1, ends.2, baselines_usable fakePlatform { maxSnapshots := 2 } {}
    (Steps.of_checked (evictionCheck_sound _) (Option.some_get evictingRun_enabled).symm)⟩

/-- With room for one snapshot, the capture of another client evicts the baseline of a
session, of which the session's entry and its connection still have the id. -/
theorem baseline_evicted :
    (Transition.exec (daemon fakePlatform { maxSnapshots := 1 }).next (initial {})
      (subscribeAndEvict false)).map
      (fun target => decide (
        (target.shared.st.sessions.lookup (ascii "A")).map (fun ps =>
          (ps.subscribed, ps.lastSnapId)) = some (true, ascii "s-1") ∧
        target.parts[0]?.map (fun conn =>
          (conn.hasSession, conn.session.subscribed, conn.session.lastSnapId)) =
            some (true, true, ascii "s-1") ∧
        ascii "s-1" ∉ target.shared.st.snaps)) = some true := by
  decide +kernel

end WinInspect.Daemon
