import WinInspect.Core.Events
import WinInspect.Daemon.Sessions

/-!
# Event polling

A session subscribes and then polls.  A client that starts from the windows of the
subscription and carries out the changes of every answer has a view of the windows,
and the daemon has one, the snapshot stored as the session's baseline.

The history of a session and the snapshots issued so far are auxiliary variables of
the daemon.  A session is either one of `sessions`, or the `ClientSession` of a
connection that has no id; a history runs from a subscription to the end of the
subscription or of the session, or to a poll that names its snapshots.
-/

namespace WinInspect.Daemon

open Transition (Config System)
open Transition.System (Aux Guard Keeps)

variable {σ : Type}

/-- The baseline of a subscription, and the results of the polls since, in order. -/
structure History where
  base : Snapshot
  answers : List Json.Value := []

/-- The windows a client has after carrying out all answers. -/
def History.replay (h : History) : Multiset HwndU64 :=
  h.answers.foldl (fun windows result => Diff.applyAll windows (readChanges result)) h.base.top

/-- Add an answer. -/
def History.answered (h : History) (result : Json.Value) : History :=
  { h with answers := h.answers ++ [result] }

theorem replay_answered (h : History) (result : Json.Value) :
    (h.answered result).replay = Diff.applyAll h.replay (readChanges result) := by
  simp [History.replay, History.answered]

/-- The auxiliary variables the connections share. -/
structure Records where
  /-- The snapshots by the ids they were issued under. -/
  issued : Map Bytes Snapshot := ∅
  /-- The histories of the sessions that have an id. -/
  histories : Map Bytes History := ∅

/-- A poll that names neither of its snapshots. -/
def plainPoll (req : CoreRequest) : Bool :=
  (getStr req.params "snapshot_id").isNone && (getStr req.params "old_snapshot_id").isNone

theorem plainPoll_old {req : CoreRequest} (plain : plainPoll req = true) :
    getStr req.params "old_snapshot_id" = none := by
  unfold plainPoll at plain
  rw [Bool.and_eq_true, Option.isNone_iff_eq_none, Option.isNone_iff_eq_none] at plain
  exact plain.2

/-- What the next turn of a connection makes of the history of its session. -/
def Phase.history (h : Option History) : Phase → Option History
  | .subscribed _ base => some { base := base }
  | .storing req _ _ resp _ => if plainPoll req then h.map (·.answered resp.result) else none
  | .unsubscribing _ => none
  | .terminating _ => none
  | _ => h

/-- The snapshots issued after a turn. -/
def Records.issue (r : Records) (g : Shared σ) (conn : Conn) : Map Bytes Snapshot :=
  match conn.phase.issues with
  | some s => r.issued.insert g.st.nextSid s
  | none => r.issued

/-- The history of the session of a connection, if it has an id, after a turn. -/
def Records.record (r : Records) (conn : Conn) : Map Bytes History :=
  r.histories.put conn.session.id
    (if conn.session.id = [] then none
    else conn.phase.history (r.histories.lookup conn.session.id))

/-- The history of the own session of a connection after a turn to `conn'`. -/
def ownHistory (conn conn' : Conn) (own : Option History) : Option History :=
  match conn.phase with
  | .session _ _ => none
  | phase =>
      if conn'.session.subscribed then
        if conn.session.id = [] then phase.history own else own
      else none

theorem ownHistory_eq_some {conn conn' : Conn} {own : Option History} {h : History}
    (found : ownHistory conn conn' own = some h) :
    (∀ req sid, conn.phase ≠ .session req sid) ∧ conn'.session.subscribed = true ∧
      if conn.session.id = [] then conn.phase.history own = some h else own = some h := by
  unfold ownHistory at found
  split at found
  · cases found
  · rename_i unnamed
    split at found
    · rename_i subscribed
      refine ⟨unnamed, subscribed, ?_⟩
      by_cases anonymous : conn.session.id = []
      · rwa [if_pos anonymous] at found ⊢
      · rwa [if_neg anonymous] at found ⊢
    · cases found

/-- The bookkeeping of histories. -/
def bookkeeping :
    Aux (Shared σ) Conn Input Transport (Outside σ) Records (Option History) where
  turn g conn _ _ conn' r own := (⟨r.issue g conn, r.record conn⟩, ownHistory conn conn' own)
  spawn _ _ _ _ r := (r, none)
  env _ _ g' r :=
    { r with histories := r.histories.retain fun sid _ => decide (sid ∈ g'.st.sessions) }

/-! ## Invariants -/

/-- The snapshot issued under an id has the windows that a history leads to. -/
def Leads (issued : Map Bytes Snapshot) (id : Bytes) (h : History) : Prop :=
  ∃ s, issued.lookup id = some s ∧ h.replay = (s.top : Multiset HwndU64)

/-- Every snapshot stays issued. -/
def Extends (issued issued' : Map Bytes Snapshot) : Prop :=
  ∀ ⦃id s⦄, issued.lookup id = some s → issued'.lookup id = some s

theorem Leads.mono {issued issued' : Map Bytes Snapshot} {id : Bytes} {h : History}
    (leads : Leads issued id h) (more : Extends issued issued') : Leads issued' id h := by
  obtain ⟨s, found, same⟩ := leads
  exact ⟨s, more found, same⟩

structure RecordsInv (g : Shared σ) (r : Records) : Prop where
  /-- The ids are numbered below the counter. -/
  numbered : ∀ id ∈ r.issued, ∃ k < g.st.snapCounter, id = ascii "s-" ++ decimal k
  /-- What is stored was issued. -/
  stored : ∀ id s, g.st.snaps.lookup id = some s → r.issued.lookup id = some s
  /-- Every history leads to the baseline of its session. -/
  sessions : ∀ sid h, r.histories.lookup sid = some h →
    ∃ ps, g.st.sessions.lookup sid = some ps ∧ Leads r.issued ps.lastSnapId h

/-- A poll that does not name the old snapshot compares with the last one. -/
def Phase.Compares (issued : Map Bytes Snapshot) (lastSnapId : Bytes) : Phase → Prop
  | .calling req _ old =>
      getStr req.params "old_snapshot_id" = none → ∀ o, old = some o →
        issued.lookup lastSnapId = some o
  | .polled req snap _ resp | .storing req snap _ resp _ =>
      getStr req.params "old_snapshot_id" = none → ∃ o, issued.lookup lastSnapId = some o ∧
        readChanges resp.result = Diff.diff o.top snap.top
  | _ => True

structure PollInv (issued : Map Bytes Snapshot) (conn : Conn) (own : Option History) : Prop where
  own : ∀ h, own = some h → conn.session.id = [] ∧ Leads issued conn.session.lastSnapId h
  compares : conn.phase.Compares issued conn.session.lastSnapId

theorem Phase.Compares.mono {issued issued' : Map Bytes Snapshot} {lastSnapId : Bytes}
    {phase : Phase} (compares : phase.Compares issued lastSnapId)
    (more : Extends issued issued') : phase.Compares issued' lastSnapId := by
  cases phase with
  | calling req snap old => exact fun unnamed o same => more (compares unnamed o same)
  | polled req snap old resp =>
      intro unnamed
      obtain ⟨o, found, reads⟩ := compares unnamed
      exact ⟨o, more found, reads⟩
  | storing req snap old resp fresh =>
      intro unnamed
      obtain ⟨o, found, reads⟩ := compares unnamed
      exact ⟨o, more found, reads⟩
  | _ => trivial

theorem PollInv.mono {issued issued' : Map Bytes Snapshot} {conn : Conn} {own : Option History}
    (inv : PollInv issued conn own) (more : Extends issued issued') :
    PollInv issued' conn own where
  own h same := ⟨(inv.own h same).1, (inv.own h same).2.mono more⟩
  compares := inv.compares.mono more

/-! ## Turns -/

theorem nextSid_eq {st : ServerState} (few : st.snapCounter < 2 ^ 64) :
    st.nextSid = ascii "s-" ++ decimal st.snapCounter := by
  rw [ServerState.nextSid, makeSnapId, Nat.mod_eq_of_lt few]

theorem RecordsInv.nextSid_not_mem {g : Shared σ} {r : Records} (inv : RecordsInv g r)
    (few : g.st.snapCounter < 2 ^ 64) : g.st.nextSid ∉ r.issued := by
  intro member
  obtain ⟨k, below, same⟩ := inv.numbered _ member
  rw [nextSid_eq few] at same
  have equal := decimal_injective (List.append_cancel_left same)
  omega

theorem RecordsInv.extends_issue {g : Shared σ} {r : Records} (inv : RecordsInv g r)
    (few : g.st.snapCounter < 2 ^ 64) (conn : Conn) : Extends r.issued (r.issue g conn) := by
  intro id s found
  unfold Records.issue
  cases conn.phase.issues with
  | none => exact found
  | some fresh =>
      dsimp only
      rw [Map.lookup_insert_eq, if_neg, found]
      rintro rfl
      exact inv.nextSid_not_mem few (Finmap.mem_of_lookup_eq_some found)

theorem Records.lookup_issue {g : Shared σ} {r : Records} {conn : Conn} {s : Snapshot}
    (issues : conn.phase.issues = some s) : (r.issue g conn).lookup g.st.nextSid = some s := by
  unfold Records.issue
  rw [issues]
  exact Finmap.lookup_insert r.issued

/-- The phases whose turn gives the session a baseline or takes it away. -/
def Phase.rebases : Phase → Bool
  | .subscribed .. | .storing .. | .unsubscribing .. | .terminating .. => true
  | _ => false

section

variable {p : Platform σ} {cfg : Settings} {g g' : Shared σ} {conn conn' : Conn} {input : Input}

theorem lookup_modifySession (st : ServerState) (id other : Bytes)
    (change : PersistentSession → PersistentSession) :
    (st.modifySession id change).sessions.lookup other =
      if other = id then some (change ((st.sessions.lookup id).getD default))
      else st.sessions.lookup other :=
  Map.lookup_modify_eq id other change st.sessions

theorem rebases_of_storesBaseline {phase : Phase} (stores : phase.storesBaseline = true) :
    phase.rebases = true := by
  cases phase with
  | subscribed | storing => rfl
  | _ => cases stores

/-- A turn leaves the baseline of every session but its own. -/
theorem turn_sessions (ran : turn p cfg g conn input = some (g', conn')) {sid : Bytes}
    {ps : PersistentSession} (found : g.st.sessions.lookup sid = some ps)
    (other : conn.phase.rebases = true → sid ≠ conn.session.id) :
    ∃ ps', g'.st.sessions.lookup sid = some ps' ∧ ps'.lastSnapId = ps.lastSnapId := by
  cases turn_tableChange ran with
  | keep same =>
      rw [same]
      exact ⟨ps, found, rfl⟩
  | @recover req id _ phase known same =>
      refine ⟨if sid = id then { ps with lastActivity := g.now } else ps, ?_, by split <;> rfl⟩
      rw [same, Map.lookup_modify_eq]
      split
      · rename_i own
        rw [← own, found]
        rfl
      · exact found
  | create phase unknown allowed same =>
      refine ⟨ps, ?_, rfl⟩
      rw [same, Map.lookup_insert_eq, if_neg, found]
      rintro rfl
      rw [unknown] at found
      cases found
  | rebase starts phase named same =>
      refine ⟨ps, ?_, rfl⟩
      rw [same, Map.lookup_modify_eq, if_neg (other (rebases_of_storesBaseline phase)), found]
  | unsubscribe phase known same =>
      refine ⟨ps, ?_, rfl⟩
      rw [same, Map.lookup_modify_eq, if_neg (other (by rw [phase]; rfl)), found]
  | terminate phase same =>
      refine ⟨ps, ?_, rfl⟩
      rw [same, Map.lookup_erase_eq, if_neg (other (by rw [phase]; rfl)), found]

/-- A turn that gives the session a baseline takes the snapshot it issues for it. -/
theorem turn_baseline (ran : turn p cfg g conn input = some (g', conn')) {s : Snapshot}
    (rebases : conn.phase.rebases = true) (issues : conn.phase.issues = some s) :
    conn'.session.id = conn.session.id ∧ conn'.session.lastSnapId = g.st.nextSid ∧
      (conn.session.id ≠ [] → ∃ ps, g'.st.sessions.lookup conn.session.id = some ps ∧
        ps.lastSnapId = g.st.nextSid) := by
  cases phase : conn.phase with
  | subscribed req base =>
      cases turn_subscribed phase ran
      refine ⟨rfl, rfl, fun named => ?_⟩
      simp only [Shared.withSt, if_neg named]
      exact ⟨_, by rw [lookup_modifySession, if_pos rfl], rfl⟩
  | storing req snap old resp fresh =>
      cases turn_storing phase ran
      refine ⟨rfl, rfl, fun named => ?_⟩
      simp only [Shared.withSt, if_neg named]
      exact ⟨_, by rw [lookup_modifySession, if_pos rfl], rfl⟩
  | unsubscribing req | terminating req =>
      rw [phase] at issues
      cases issues
  | _ =>
      rw [phase] at rebases
      cases rebases

/-- A turn that neither enters a session nor rebases it keeps a subscribed session. -/
theorem turn_session_eq (ran : turn p cfg g conn input = some (g', conn'))
    (steady : conn.phase.rebases = false) (unnamed : ∀ req sid, conn.phase ≠ .session req sid)
    (subscribed : conn'.session.subscribed = true) : conn'.session = conn.session := by
  cases turn_cases ran with
  | startPipe phase pipe => cases subscribed
  | @request payload text phase read =>
      rcases onRequest_cases p.stod cfg conn text with ⟨req, _, _, routed⟩ | ⟨what, error⟩
      · have kept := routed.session subscribed
        rw [kept] at subscribed ⊢
        exact refresh_session subscribed
      · rw [error] at subscribed ⊢
        exact refresh_session subscribed
  | hungUp phase read =>
      obtain ⟨next, left⟩ := leave_goto conn
      rw [left]
      rfl
  | core phase surroundings ranCore =>
      obtain ⟨next, answered⟩ := afterCore_goto conn _ _ _ _
      rw [answered]
      rfl
  | recovered phase free known | created phase free unknown allowed =>
      exact absurd phase (unnamed _ _)
  | subscribed phase free | unsubscribing phase free | terminating phase free
  | storing phase free =>
      rw [phase] at steady
      cases steady
  | @sending req resp phase =>
      obtain ⟨crypto, written⟩ := write_eq p.bcrypt conn (serializeResponseJson resp)
      rw [written]
      rfl
  | _ => rfl

/-- A poll in flight keeps comparing with the last baseline of its session. -/
theorem turn_compares (diffs : PollsByDiff p.backend) {issued : Map Bytes Snapshot}
    (stored : ∀ id s, g.st.snaps.lookup id = some s → issued.lookup id = some s)
    (inv : conn.phase.Compares issued conn.session.lastSnapId)
    (ran : turn p cfg g conn input = some (g', conn')) :
    conn'.phase.Compares issued conn'.session.lastSnapId := by
  have routes : ∀ {req phase}, Routes cfg req phase → ∀ last, phase.Compares issued last := by
    intro req phase routes last
    cases routes <;> trivial
  cases turn_cases ran with
  | startTcp phase tcp =>
      dsimp only
      split <;> trivial
  | @request payload text phase read =>
      rcases onRequest_cases p.stod cfg conn text with ⟨req, _, _, routed⟩ | ⟨what, error⟩
      · exact routes routed.phase _
      · rw [error]
        trivial
  | hungUp phase read =>
      rcases leave_cases conn with ⟨_, _, left⟩ | ⟨_, _, left⟩ | ⟨_, left⟩ <;> rw [left] <;> trivial
  | @core timedOut recentLogs pollElapsed durationMs req snap old env done phase surroundings
      ranCore =>
      rcases afterCore_cases conn req snap old
          (if timedOut then timeoutResponse conn.transport req else done.1) with
        ⟨method, ok, polled⟩ | sent
      · rw [polled]
        intro unnamed
        cases timedOut with
        | true => cases ok
        | false =>
            rw [if_neg Bool.false_ne_true, ranCore] at ok ⊢
            obtain ⟨o, rfl, reads⟩ := handle_poll_ok diffs method ok
            rw [phase] at inv
            exact ⟨o, inv unnamed o rfl, reads⟩
      · rw [sent]
        trivial
  | recovered phase free known => exact routes (route_routed cfg _ _).phase _
  | created phase free unknown allowed => exact routes (route_routed cfg _ _).phase _
  | terminating phase free => exact routes (proceed_routed cfg _ _).phase _
  | captureOk captures taken =>
      generalize conn.phase = before at captures inv
      cases captures with
      | polled req snap old resp => exact inv
      | _ => trivial
  | evictRound phase full => exact inv
  | @findingOld req snap phase =>
      intro unnamed o found
      unfold oldSnapshot oldSid at found
      rw [unnamed] at found
      dsimp only at found
      split at found
      · exact stored _ _ found
      · cases found
  | sending phase =>
      rcases afterSend_cases (conn.write p.bcrypt _).2 with ⟨_, next⟩ | ⟨_, next⟩ <;>
        rw [next] <;> trivial
  | _ => trivial

end

/-- The condition on a step: fewer than 2^64 snapshots have been issued, and when a poll
that names no snapshot stores the next baseline of its session, that baseline has the
windows of the snapshot the poll has reported, and the session still has the baseline the
poll has compared with. -/
def steadyPolls : Guard (Shared σ) Conn Input Transport (Outside σ) where
  turn g conn _ := g.st.snapCounter < 2 ^ 64 ∧
    ∀ req snap old resp fresh, conn.phase = .storing req snap old resp fresh →
      plainPoll req = true → fresh.top.Perm snap.top ∧
        ∀ ps, conn.session.id ≠ [] → g.st.sessions.lookup conn.session.id = some ps →
          ps.lastSnapId = conn.session.lastSnapId

theorem history_of_steady {phase : Phase} (steady : phase.rebases = false)
    (h : Option History) : phase.history h = h := by
  cases phase <;> first | rfl | cases steady

/-- After a steady poll the history leads to the new baseline. -/
theorem replay_of_poll {issued : Map Bytes Snapshot} {id : Bytes} {h : History}
    (leads : Leads issued id h) {snap fresh : Snapshot} {result : Json.Value}
    (reads : ∃ o, issued.lookup id = some o ∧ readChanges result = Diff.diff o.top snap.top)
    (same : fresh.top.Perm snap.top) :
    (h.answered result).replay = (fresh.top : Multiset HwndU64) := by
  obtain ⟨s, found, replayed⟩ := leads
  obtain ⟨o, found', changes⟩ := reads
  cases found.symm.trans found'
  rw [replay_answered, replayed, changes, Diff.applyAll_diff, Multiset.coe_eq_coe]
  exact same.symm

section

variable {p : Platform σ} {cfg : Settings} {g g' : Shared σ} {conn conn' : Conn} {input : Input}
  {r : Records} {own : Option History}

/-- The history after a turn that rebases the session leads to the snapshot the turn
issues, if the history before a poll leads to the snapshot the poll has compared with. -/
theorem history_rebased (steady : steadyPolls.turn g conn input)
    (compares : conn.phase.Compares r.issued conn.session.lastSnapId) {before : Option History}
    (leads : ∀ req snap old resp fresh, conn.phase = .storing req snap old resp fresh →
      plainPoll req = true → ∀ h, before = some h → Leads r.issued conn.session.lastSnapId h)
    (rebases : conn.phase.rebases = true) {h : History}
    (found : conn.phase.history before = some h) :
    ∃ s, conn.phase.issues = some s ∧ h.replay = (s.top : Multiset HwndU64) := by
  cases phase : conn.phase with
  | subscribed req base =>
      rw [phase] at found
      cases found
      exact ⟨base, rfl, rfl⟩
  | storing req snap old resp fresh =>
      rw [phase] at found compares
      by_cases plain : plainPoll req = true
      · simp only [Phase.history, if_pos plain] at found
        obtain ⟨earlier, recorded, rfl⟩ := Option.map_eq_some_iff.mp found
        have same := (steady.2 _ _ _ _ _ phase plain).1
        have reads := compares (plainPoll_old plain)
        have led := leads _ _ _ _ _ phase plain earlier recorded
        exact ⟨fresh, rfl, replay_of_poll led reads same⟩
      · simp only [Phase.history, if_neg plain] at found
        cases found
  | unsubscribing req | terminating req =>
      rw [phase] at found
      cases found
  | _ =>
      rw [phase] at rebases
      cases rebases

/-- Every history still leads to the baseline of its session. -/
theorem RecordsInv.turn_sessions (inv : RecordsInv g r)
    (compares : conn.phase.Compares r.issued conn.session.lastSnapId)
    (steady : steadyPolls.turn g conn input) (ran : turn p cfg g conn input = some (g', conn'))
    {sid : Bytes} {h : History} (found : (r.record conn).lookup sid = some h) :
    ∃ ps, g'.st.sessions.lookup sid = some ps ∧ Leads (r.issue g conn) ps.lastSnapId h := by
  have more := inv.extends_issue steady.1 conn
  have carry : r.histories.lookup sid = some h →
      (conn.phase.rebases = true → sid ≠ conn.session.id) →
      ∃ ps, g'.st.sessions.lookup sid = some ps ∧ Leads (r.issue g conn) ps.lastSnapId h := by
    intro recorded other
    obtain ⟨ps, session, leads⟩ := inv.sessions sid h recorded
    obtain ⟨ps', session', same⟩ := Daemon.turn_sessions ran session other
    exact ⟨ps', session', same ▸ leads.mono more⟩
  unfold Records.record at found
  rw [Map.lookup_put_eq] at found
  by_cases mine : sid = conn.session.id
  · rw [if_pos mine] at found
    subst mine
    by_cases anonymous : conn.session.id = []
    · rw [if_pos anonymous] at found
      cases found
    · rw [if_neg anonymous] at found
      by_cases rebases : conn.phase.rebases = true
      · have leads : ∀ req snap old resp fresh, conn.phase = .storing req snap old resp fresh →
            plainPoll req = true → ∀ h, r.histories.lookup conn.session.id = some h →
              Leads r.issued conn.session.lastSnapId h := by
          intro req snap old resp fresh phase plain h recorded
          obtain ⟨ps, session, leads⟩ := inv.sessions _ _ recorded
          rwa [(steady.2 _ _ _ _ _ phase plain).2 ps anonymous session] at leads
        obtain ⟨s, issues, replayed⟩ := history_rebased steady compares leads rebases found
        obtain ⟨ps, session, last⟩ := (turn_baseline ran rebases issues).2.2 anonymous
        exact ⟨ps, session, s, last ▸ Records.lookup_issue issues, replayed⟩
      · rw [history_of_steady (Bool.eq_false_iff.mpr rebases)] at found
        exact carry found fun rebased => absurd rebased rebases
  · rw [if_neg mine] at found
    exact carry found fun _ => mine

theorem RecordsInv.turn (inv : RecordsInv g r)
    (compares : conn.phase.Compares r.issued conn.session.lastSnapId)
    (steady : steadyPolls.turn g conn input)
    (ran : turn p cfg g conn input = some (g', conn')) :
    RecordsInv g' ⟨r.issue g conn, r.record conn⟩ where
  numbered := by
    intro id member
    have change := turn_storeChange ran
    simp only [Records.issue] at member
    generalize conn.phase.issues = issues at change member
    cases change with
    | keep same => exact same.snapCounter ▸ inv.numbered id member
    | touch sid stored same => exact same.snapCounter ▸ inv.numbered id member
    | evict same =>
        rw [same.snapCounter, evictOnce_snapCounter]
        exact inv.numbered id member
    | issue same =>
        rw [same.snapCounter]
        rcases Finmap.mem_insert.mp member with rfl | old
        · exact ⟨g.st.snapCounter, Nat.lt_succ_self _, nextSid_eq steady.1⟩
        · obtain ⟨k, below, shape⟩ := inv.numbered id old
          exact ⟨k, Nat.lt_succ_of_lt below, shape⟩
  stored := by
    intro id s found
    have change := turn_storeChange ran
    simp only [Records.issue]
    generalize conn.phase.issues = issues at change ⊢
    cases change with
    | keep same => exact inv.stored id s (same.snaps ▸ found)
    | touch sid stored same => exact inv.stored id s (same.snaps ▸ found)
    | evict same => exact inv.stored id s (lookup_of_evictOnce (same.snaps ▸ found))
    | issue same =>
        have unused : g.st.nextSid ∉ g.st.snaps := by
          intro member
          obtain ⟨other, stored⟩ := Finmap.mem_iff.mp member
          exact inv.nextSid_not_mem steady.1 (Finmap.mem_of_lookup_eq_some (inv.stored _ _ stored))
        rw [same.snaps, ServerState.issue, Map.emplace_of_not_mem _ unused,
          Map.lookup_insert_eq] at found
        dsimp only
        rw [Map.lookup_insert_eq]
        split at found
        · rename_i new
          rwa [if_pos new]
        · rename_i old
          rw [if_neg old]
          exact inv.stored id s found
  sessions := fun _ _ found => inv.turn_sessions compares steady ran found

theorem PollInv.turn_own (inv : PollInv r.issued conn own) (records : RecordsInv g r)
    (steady : steadyPolls.turn g conn input) (ran : turn p cfg g conn input = some (g', conn'))
    {h : History} (found : ownHistory conn conn' own = some h) :
    conn'.session.id = [] ∧ Leads (r.issue g conn) conn'.session.lastSnapId h := by
  obtain ⟨unnamed, subscribed, kept⟩ := ownHistory_eq_some found
  have anonymous : conn.session.id = [] := by
    by_contra named
    rw [if_neg named] at kept
    exact named (inv.own h kept).1
  rw [if_pos anonymous] at kept
  by_cases rebases : conn.phase.rebases = true
  · obtain ⟨s, issues, replayed⟩ := history_rebased steady inv.compares
      (fun _ _ _ _ _ _ _ h recorded => (inv.own h recorded).2) rebases kept
    obtain ⟨same, last, _⟩ := turn_baseline ran rebases issues
    exact ⟨same.trans anonymous, s, last ▸ Records.lookup_issue issues, replayed⟩
  · have steadily := Bool.eq_false_iff.mpr rebases
    rw [history_of_steady steadily] at kept
    rw [turn_session_eq ran steadily unnamed subscribed]
    exact ⟨anonymous, (inv.own h kept).2.mono (records.extends_issue steady.1 conn)⟩

theorem PollInv.turn (diffs : PollsByDiff p.backend) (inv : PollInv r.issued conn own)
    (records : RecordsInv g r) (steady : steadyPolls.turn g conn input)
    (ran : turn p cfg g conn input = some (g', conn')) :
    PollInv (r.issue g conn) conn' (ownHistory conn conn' own) where
  own := fun _ found => inv.turn_own records steady ran found
  compares := (turn_compares diffs records.stored inv.compares ran).mono
    (records.extends_issue steady.1 conn)

end

theorem lookup_cleanup {st : ServerState} {ttl : Int} {now : Nat} {sid : Bytes}
    {ps : PersistentSession} (found : st.sessions.lookup sid = some ps)
    (kept : sid ∈ (st.cleanupSessions ttl now).sessions) :
    (st.cleanupSessions ttl now).sessions.lookup sid = some ps := by
  obtain ⟨other, found'⟩ := Finmap.mem_iff.mp kept
  cases found.symm.trans (Map.lookup_retain_eq_some_iff.mp found').1
  exact found'

/-- The environment keeps the records. -/
theorem RecordsInv.outside {cfg : Settings} {g g' : Shared σ} {event : Outside σ} {r : Records}
    (inv : RecordsInv g r) (moved : outside cfg g event = some g') :
    RecordsInv g'
      { r with histories := r.histories.retain fun sid _ => decide (sid ∈ g'.st.sessions) } := by
  have same := outside_sameStore moved
  refine ⟨same.snapCounter ▸ inv.numbered, same.snaps ▸ inv.stored, ?_⟩
  intro sid h found
  obtain ⟨recorded, alive⟩ := Map.lookup_retain_eq_some_iff.mp found
  obtain ⟨ps, session, leads⟩ := inv.sessions sid h recorded
  refine ⟨ps, ?_, leads⟩
  rcases outside_cases moved with ⟨w, _, rfl⟩ | ⟨nanoseconds, _, rfl⟩ | ⟨_, _, rfl⟩
  · exact session
  · exact session
  · exact lookup_cleanup session (of_decide_eq_true alive)

theorem keeps_records {p : Platform σ} (diffs : PollsByDiff p.backend) (cfg : Settings) :
    Keeps ((daemon p cfg).withAux bookkeeping) steadyPolls.lift (fun g => RecordsInv g.1 g.2)
      fun g conn => PollInv g.2.issued conn.1 conn.2 where
  turn := by
    intro g conn input g' conn' records inv steady turned
    obtain ⟨ran, marks⟩ := System.withAux_turn turned
    obtain ⟨shared, own⟩ := Prod.mk.inj marks
    rw [shared, own]
    exact ⟨records.turn inv.compares steady ran, inv.turn diffs records steady ran⟩
  others := by
    intro g conn input g' conn' other records _ inv steady turned
    obtain ⟨_, marks⟩ := System.withAux_turn turned
    rw [(Prod.mk.inj marks).1]
    exact inv.mono (records.extends_issue steady.1 conn.1)
  spawn := by
    intro g transport g' conn records _ spawned
    obtain ⟨accepted, marks⟩ := System.withAux_spawn spawned
    obtain ⟨shared, own⟩ := Prod.mk.inj marks
    obtain ⟨same, fresh⟩ := accept_st accepted
    rw [shared, own, same, fresh]
    exact ⟨records, ⟨nofun, trivial⟩, fun _ inv => inv⟩
  env := by
    intro g event g' records _ moved
    obtain ⟨outside, marks⟩ := System.withAux_env moved
    rw [marks]
    exact ⟨records.outside outside, fun _ inv => inv⟩

/-- The daemon just after start-up, with nothing recorded. -/
def unrecorded (world : σ) : Config (Shared σ × Records) (Conn × Option History) :=
  ⟨({ world := world }, {}), []⟩

theorem recordsInv_initial (world : σ) :
    RecordsInv ({ world := world } : Shared σ) {} where
  numbered id member := absurd member Finmap.notMem_empty
  stored id s found := by cases found
  sessions sid h found := by cases found

/-- In every run of steady polls, whatever the windows do in between, a client that has
carried out the changes of all answers since its subscription has exactly the windows of
the stored baseline of its session, for the sessions with an id and for the own sessions
of connections. -/
theorem polls_exact (p : Platform σ) (diffs : PollsByDiff p.backend) (cfg : Settings) (world : σ)
    {target : Config (Shared σ × Records) (Conn × Option History)}
    (run : ((daemon p cfg).withAux bookkeeping).Runs steadyPolls.lift (unrecorded world) target) :
    (∀ sid h, target.shared.2.histories.lookup sid = some h →
      ∃ ps, target.shared.1.st.sessions.lookup sid = some ps ∧
        ∀ s, target.shared.1.st.snaps.lookup ps.lastSnapId = some s →
          h.replay = (s.top : Multiset HwndU64)) ∧
      ∀ conn ∈ target.parts, ∀ h, conn.2 = some h →
        ∀ s, target.shared.1.st.snaps.lookup conn.1.session.lastSnapId = some s →
          h.replay = (s.top : Multiset HwndU64) := by
  obtain ⟨records, polls⟩ := run.invariant (keeps_records diffs cfg)
    ⟨recordsInv_initial world, by simp [unrecorded]⟩
  have view : ∀ {id h}, Leads target.shared.2.issued id h →
      ∀ s, target.shared.1.st.snaps.lookup id = some s → h.replay = (s.top : Multiset HwndU64) := by
    rintro id h ⟨issued, found, replayed⟩ s stored
    cases found.symm.trans (records.stored id s stored)
    exact replayed
  constructor
  · intro sid h recorded
    obtain ⟨ps, session, leads⟩ := records.sessions sid h recorded
    exact ⟨ps, session, view leads⟩
  · intro conn member h own
    exact view ((polls conn member).own h own).2

/-! ## A desktop -/

/-- A backend that knows only the top-level windows. -/
def desktop : Backend (List HwndU64) where
  apply {_} call windows :=
    match call with
    | .captureSnapshot => (.ok ⟨windows⟩, windows)
    | .pollEvents oldSnap newSnap => (.ok (win32PollEvents oldSnap newSnap), windows)
    | _ => (.error (ascii "not supported"), windows)

/-- The daemon over a desktop, without cryptography. -/
def desktopPlatform : Platform (List HwndU64) :=
  ⟨desktop, Json.integerStod, Crypto.BCrypt.unavailable⟩

/-- A check for steady polls. -/
def steadyCheck (config : Config (Shared σ × Records) (Conn × Option History)) :
    Transition.Move Input Transport (Outside σ) → Bool
  | .turn index _ =>
      match config.parts[index]? with
      | some conn =>
          decide (config.shared.1.st.snapCounter < 2 ^ 64) &&
            match conn.1.phase with
            | .storing _ snap _ _ fresh =>
                fresh.top.isPerm snap.top &&
                  (config.shared.1.st.sessions.lookup conn.1.session.id).all fun ps =>
                    ps.lastSnapId = conn.1.session.lastSnapId
            | _ => true
      | none => true
  | _ => true

theorem steadyCheck_sound (config : Config (Shared σ × Records) (Conn × Option History))
    (move : Transition.Move Input Transport (Outside σ))
    (passed : steadyCheck config move = true) :
    (steadyPolls.lift (A := Records) (B := Option History)).allows config move := by
  cases move with
  | turn index input =>
      intro conn found
      simp only [steadyCheck, found, Bool.and_eq_true, decide_eq_true_eq] at passed
      refine ⟨passed.1, ?_⟩
      intro req snap old resp fresh phase plain
      simp only [phase, Bool.and_eq_true, List.isPerm_iff] at passed
      refine ⟨passed.2.1, ?_⟩
      intro ps _ session
      simpa [session] using passed.2.2
  | spawn transport => trivial
  | env event => trivial

/-- A pipe client without a session id and a TCP client with one subscribe, the windows
change, and both poll. -/
def pollBoth : List (Transition.Move Input Transport (Outside (List HwndU64))) :=
  [.spawn .pipe, .spawn .tcp, .turn 0 (.start none []), .turn 1 (.start none []),
    .turn 0 (.frame (some (requestText "1" "events.subscribe" []))),
    .turn 1 (.frame (some (requestText "2" "events.subscribe" [("session_id", .str (ascii "A"))]))),
    .turn 1 .go, .turn 0 .go, .turn 1 .go, .turn 0 .go, .turn 1 .go, .turn 0 .go, .turn 1 .go,
    .env (.world [3, 2]),
    .turn 0 (.frame (some (requestText "3" "events.poll" []))),
    .turn 1 (.frame (some (requestText "4" "events.poll" [("session_id", .str (ascii "A"))]))),
    .turn 1 .go, .turn 0 .go, .turn 1 .go, .turn 0 .go, .turn 1 .go,
    .turn 1 (.core false [] 0 0), .turn 0 (.core false [] 0 0),
    .turn 0 .go, .turn 1 .go, .turn 0 .go, .turn 1 .go]

/-- The recorded runs of the desktop daemon that pass the check. -/
def steadyRun (moves : List (Transition.Move Input Transport (Outside (List HwndU64)))) :
    Option (Config (Shared (List HwndU64) × Records) (Conn × Option History)) :=
  Transition.exec (Transition.checked ((daemon desktopPlatform {}).withAux bookkeeping).next
    steadyCheck) (unrecorded [1, 2]) moves

theorem pollBoth_ends :
    ((steadyRun pollBoth).any fun target => decide (
      (target.shared.2.histories.lookup (ascii "A")).map History.replay = some {2, 3} ∧
        (target.parts.map fun conn => conn.2.map History.replay) = [some {2, 3}, none])) =
      true := by
  decide +kernel

theorem pollBoth_enabled : (steadyRun pollBoth).isSome :=
  Option.isSome_of_any pollBoth_ends

/-- Both clients have the windows 2 and 3 after their poll. -/
theorem polls_exact_pollBoth :
    let target := (steadyRun pollBoth).get pollBoth_enabled
    (target.shared.2.histories.lookup (ascii "A")).map History.replay = some {2, 3} ∧
      (target.parts.map fun conn => conn.2.map History.replay) = [some {2, 3}, none] ∧
      (∀ sid h, target.shared.2.histories.lookup sid = some h →
        ∃ ps, target.shared.1.st.sessions.lookup sid = some ps ∧
          ∀ s, target.shared.1.st.snaps.lookup ps.lastSnapId = some s →
            h.replay = (s.top : Multiset HwndU64)) ∧
      ∀ conn ∈ target.parts, ∀ h, conn.2 = some h →
        ∀ s, target.shared.1.st.snaps.lookup conn.1.session.lastSnapId = some s →
          h.replay = (s.top : Multiset HwndU64) := by
  have ends := Transition.get_of_any pollBoth_ends pollBoth_enabled
  exact ⟨ends.1, ends.2, polls_exact desktopPlatform (fun _ _ _ => rfl) {} [1, 2]
    (System.runs_checked _ _ _ steadyCheck_sound _ _ pollBoth_enabled)⟩

/-- A pipe client subscribes and polls.  A window that appears between the two captures of
the poll is in the stored baseline, but no answer reports it. -/
theorem poll_loses_window :
    (Transition.exec ((daemon desktopPlatform {}).withAux bookkeeping).next (unrecorded [])
      [.spawn .pipe, .turn 0 (.start none []),
        .turn 0 (.frame (some (requestText "1" "events.subscribe" []))),
        .turn 0 .go, .turn 0 .go, .turn 0 .go,
        .turn 0 (.frame (some (requestText "2" "events.poll" []))),
        .turn 0 .go, .turn 0 .go, .turn 0 (.core false [] 0 0), .env (.world [7]),
        .turn 0 .go, .turn 0 .go]).map
      (fun target => target.parts.map fun conn => (conn.2.map History.replay,
        target.shared.1.st.snaps.lookup conn.1.session.lastSnapId)) =
      some [(some {}, some ⟨[7]⟩)] := by
  decide +kernel

end WinInspect.Daemon
