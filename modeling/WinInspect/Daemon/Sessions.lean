import WinInspect.Daemon.Store

/-!
# The session table

`sessions` is written in several separate critical sections of a request.  `TableChange`
is what a turn can do to it.  The section of a `session_id` makes an entry after a check;
a subscription and a poll write through `operator[]`, which makes one without.
-/

namespace WinInspect.Daemon

open Transition (Config System Move)
open Transition.System (Aux Guard)

variable {σ : Type}

/-- What a turn of a connection does to the session table. -/
inductive TableChange (cfg : Settings) (g : Shared σ) (conn : Conn)
    (table : Map Bytes PersistentSession) : Prop
  | keep (same : table = g.st.sessions)
  | recover {req : CoreRequest} {sid : Bytes} {ps : PersistentSession}
      (phase : conn.phase = .session req sid) (known : g.st.sessions.lookup sid = some ps)
      (same : table = g.st.sessions.modify sid fun ps => { ps with lastActivity := g.now })
  | create {req : CoreRequest} {sid : Bytes} (phase : conn.phase = .session req sid)
      (unknown : g.st.sessions.lookup sid = none)
      (allowed : ¬ (conn.transport = .tcp ∧ cfg.maxSessions ≤ g.st.sessions.keys.card))
      (same : table = g.st.sessions.insert sid { lastActivity := g.now })
  | rebase (starts : Bool) (phase : conn.phase.storesBaseline = true)
      (named : conn.session.id ≠ [])
      (same : table = g.st.sessions.modify conn.session.id fun ps =>
        { ps with subscribed := starts || ps.subscribed, lastSnapId := g.st.nextSid })
  | unsubscribe {req : CoreRequest} (phase : conn.phase = .unsubscribing req)
      (known : conn.session.id ∈ g.st.sessions)
      (same : table = g.st.sessions.modify conn.session.id fun ps =>
        { ps with subscribed := false, lastSnapId := [] })
  | terminate {req : CoreRequest} (phase : conn.phase = .terminating req)
      (same : table = g.st.sessions.erase conn.session.id)

theorem turn_tableChange {p : Platform σ} {cfg : Settings} {g g' : Shared σ} {conn conn' : Conn}
    {input : Input} (ran : turn p cfg g conn input = some (g', conn')) :
    TableChange cfg g conn g'.st.sessions := by
  cases turn_cases ran with
  | recovered phase free known => exact .recover phase known rfl
  | created phase free unknown allowed => exact .create phase unknown allowed rfl
  | subscribed phase free =>
      simp only [subscribe, Shared.withSt]
      split
      · exact .keep rfl
      · rename_i named
        exact .rebase true (by rw [phase]; rfl) named rfl
  | storing phase free =>
      simp only [storePoll, Shared.withSt]
      split
      · exact .keep rfl
      · rename_i named
        exact .rebase false (by rw [phase]; rfl) named rfl
  | unsubscribing phase free =>
      simp only [unsubscribe, Shared.withSt]
      split
      · rename_i known
        exact .unsubscribe phase known rfl
      · exact .keep rfl
  | terminating phase free => exact .terminate phase rfl
  | @pinned req sid snap phase named free stored => cases conn.transport <;> exact .keep rfl
  | evictRound phase full =>
      simp only [Shared.withSt, ServerState.evictOnce]
      split
      · exact .keep rfl
      · split <;> exact .keep rfl
  | _ => exact .keep rfl

/-- What the environment does to the session table. -/
theorem outside_sessions {cfg : Settings} {g g' : Shared σ} {event : Outside σ}
    (moved : outside cfg g event = some g') :
    g'.st.sessions = g.st.sessions ∨
      g'.st.sessions = (g.st.cleanupSessions cfg.sessionTtlSec g.now).sessions := by
  rcases outside_cases moved with ⟨w, _, rfl⟩ | ⟨nanoseconds, _, rfl⟩ | ⟨_, _, rfl⟩
  · exact Or.inl rfl
  · exact Or.inl rfl
  · exact Or.inr rfl

/-! ## The cap -/

/-- The session whose entry the next turn of a connection writes without a check of the
cap: pipe connections have none, and `operator[]` makes an entry that is absent. -/
def Conn.unchecked (conn : Conn) : Option Bytes :=
  match conn.phase with
  | .session _ sid => if conn.transport = .pipe then some sid else none
  | .subscribed .. | .storing .. => if conn.session.id = [] then none else some conn.session.id
  | _ => none

/-- The condition on a step: an entry that is written without a check is there already,
or there is room for it. -/
def roomForSessions (cfg : Settings) : Guard (Shared σ) Conn Input Transport (Outside σ) where
  turn g conn _ := ∀ sid, conn.unchecked = some sid →
    sid ∈ g.st.sessions ∨ g.st.sessions.keys.card < cfg.maxSessions

/-- An entry under a key keeps the bound if the key is present or there is room. -/
theorem card_insert_le_iff {keys : Finset Bytes} {limit : Nat} (bounded : keys.card ≤ limit)
    (key : Bytes) : (insert key keys).card ≤ limit ↔ key ∈ keys ∨ keys.card < limit := by
  by_cases present : key ∈ keys
  · simp [Finset.insert_eq_of_mem present, bounded, present]
  · rw [Finset.card_insert_of_notMem present]
    simp only [present, false_or]
    exact Nat.succ_le_iff

section

variable {p : Platform σ} {cfg : Settings} {g g' : Shared σ} {conn conn' : Conn} {input : Input}

theorem keys_openSession_pipe (pipe : conn.transport = .pipe) (req : CoreRequest) (sid : Bytes) :
    (openSession cfg g conn req sid).1.st.sessions.keys = insert sid g.st.sessions.keys := by
  unfold openSession
  split
  · exact Map.keys_modify sid _ g.st.sessions
  · rw [if_neg (by simp [pipe])]
    exact Map.keys_insert sid _ g.st.sessions

/-- An unchecked turn has the entry afterwards. -/
theorem keys_of_unchecked {sid : Bytes} (unchecked : conn.unchecked = some sid)
    (ran : turn p cfg g conn input = some (g', conn')) :
    g'.st.sessions.keys = insert sid g.st.sessions.keys := by
  unfold Conn.unchecked at unchecked
  split at unchecked
  · rename_i req _ phase
    split at unchecked
    · rename_i pipe
      cases unchecked
      have opened : g' = (openSession cfg g conn req sid).1 :=
        congrArg Prod.fst (turn_session phase ran)
      rw [opened]
      exact keys_openSession_pipe pipe req sid
    · cases unchecked
  · rename_i req base phase
    cases turn_subscribed phase ran
    split at unchecked
    · cases unchecked
    · rename_i named
      cases unchecked
      simp only [Shared.withSt, if_neg named]
      exact Map.keys_modify _ _ _
  · rename_i req snap old resp fresh phase
    cases turn_storing phase ran
    split at unchecked
    · cases unchecked
    · rename_i named
      cases unchecked
      simp only [Shared.withSt, if_neg named]
      exact Map.keys_modify _ _ _
  · cases unchecked

/-- A turn that is checked or writes no new entry keeps the bound. -/
theorem turn_sessions_bounded (bounded : g.st.sessions.keys.card ≤ cfg.maxSessions)
    (room : (roomForSessions cfg).turn g conn input)
    (ran : turn p cfg g conn input = some (g', conn')) :
    g'.st.sessions.keys.card ≤ cfg.maxSessions := by
  cases turn_tableChange ran with
  | keep same =>
      rw [same]
      exact bounded
  | @recover req sid ps phase known same =>
      rw [same, Map.keys_modify, card_insert_le_iff bounded]
      exact Or.inl (Finmap.mem_keys.mpr (Finmap.mem_of_lookup_eq_some known))
  | @create req sid phase unknown allowed same =>
      rw [same, Map.keys_insert, card_insert_le_iff bounded]
      cases transport : conn.transport with
      | pipe => exact room sid (by simp [Conn.unchecked, phase, transport])
      | tcp => exact Or.inr (Nat.lt_of_not_le fun full => allowed ⟨transport, full⟩)
  | rebase starts phase named same =>
      rw [same, Map.keys_modify, card_insert_le_iff bounded]
      refine room conn.session.id ?_
      unfold Conn.unchecked
      generalize conn.phase = before at phase
      cases before <;> first | exact if_neg named | cases phase
  | unsubscribe phase known same =>
      rw [same, Map.keys_modify, card_insert_le_iff bounded]
      exact Or.inl (Finmap.mem_keys.mpr known)
  | terminate phase same =>
      rw [same, Finmap.keys_erase]
      exact (Finset.card_erase_le).trans bounded

/-- A turn keeps the bound exactly when it meets the condition. -/
theorem turn_sessions_bounded_iff (bounded : g.st.sessions.keys.card ≤ cfg.maxSessions)
    (ran : turn p cfg g conn input = some (g', conn')) :
    g'.st.sessions.keys.card ≤ cfg.maxSessions ↔ (roomForSessions cfg).turn g conn input := by
  constructor
  · intro bounded' sid unchecked
    rw [keys_of_unchecked unchecked ran, card_insert_le_iff bounded] at bounded'
    exact bounded'
  · intro room
    exact turn_sessions_bounded bounded room ran

end

/-- No event adds a session. -/
theorem outside_keys_subset {cfg : Settings} {g g' : Shared σ} {event : Outside σ}
    (moved : outside cfg g event = some g') :
    g'.st.sessions.keys ⊆ g.st.sessions.keys := by
  rcases outside_sessions moved with same | same
  · rw [same]
  · rw [same]
    exact Map.keys_retain_subset _ _

/-- In every run in which an entry that is written without a check is there already or
finds room, there are at most `max_sessions` sessions; and the next turn of a connection
keeps this bound exactly when it meets that condition. -/
theorem sessions_bounded (p : Platform σ) (cfg : Settings) (world : σ)
    {target : Config (Shared σ) Conn}
    (run : (daemon p cfg).Runs (roomForSessions cfg) (initial world) target) :
    target.shared.st.sessions.keys.card ≤ cfg.maxSessions ∧
      ∀ conn ∈ target.parts, ∀ input g' conn',
        turn p cfg target.shared conn input = some (g', conn') →
          (g'.st.sessions.keys.card ≤ cfg.maxSessions ↔
            (roomForSessions cfg).turn target.shared conn input) := by
  have bounded : target.shared.st.sessions.keys.card ≤ cfg.maxSessions := by
    refine shared_of_runs (fun g => g.st.sessions.keys.card ≤ cfg.maxSessions) run
      (Nat.zero_le _) ?_ ?_
    · intro g conn input g' conn' bounded room ran
      exact turn_sessions_bounded bounded room ran
    · intro g event g' bounded _ moved
      exact (Finset.card_le_card (outside_keys_subset moved)).trans bounded
  exact ⟨bounded, fun conn _ input g' conn' ran => turn_sessions_bounded_iff bounded ran⟩

/-- A request of a client for a session: the frame, and the critical section of the
session. -/
def enterSession (index : Nat) (sid : String) : List (Move Input Transport (Outside σ)) :=
  [.turn index (.frame (some (requestText "1" "daemon.health" [("session_id", .str (ascii sid))]))),
    .turn index .go]

/-- A check for room. -/
def sessionRoomCheck (cfg : Settings) (config : Config (Shared σ) Conn) :
    Move Input Transport (Outside σ) → Bool
  | .turn index _ => config.parts[index]?.all fun conn => conn.unchecked.all fun sid =>
      decide (sid ∈ config.shared.st.sessions ∨
        config.shared.st.sessions.keys.card < cfg.maxSessions)
  | _ => true

theorem sessionRoomCheck_sound (cfg : Settings) (config : Config (Shared σ) Conn)
    (move : Move Input Transport (Outside σ)) (passed : sessionRoomCheck cfg config move = true) :
    (roomForSessions cfg).allows config move := by
  cases move with
  | turn index input =>
      intro conn found sid unchecked
      simpa [sessionRoomCheck, found, unchecked] using passed
  | spawn transport => trivial
  | env event => trivial

/-- A pipe client opens a session, and a TCP client finds the table full. -/
def fullTable : Option (Config (Shared Fake.FakeState) Conn) :=
  Transition.exec (Transition.checked (daemon fakePlatform { maxSessions := 1 }).next
    (sessionRoomCheck { maxSessions := 1 })) (initial {})
    ([.spawn .pipe, .spawn .tcp, .turn 0 (.start none []), .turn 1 (.start none [])] ++
      enterSession 0 "A" ++ enterSession 1 "B")

theorem fullTable_enabled : fullTable.isSome := by
  decide +kernel

theorem sessions_bounded_fullTable :
    let target := fullTable.get fullTable_enabled
    target.shared.st.sessions.keys.card ≤ 1 ∧
      ∀ conn ∈ target.parts, ∀ input g' conn',
        turn fakePlatform { maxSessions := 1 } target.shared conn input = some (g', conn') →
          (g'.st.sessions.keys.card ≤ 1 ↔
            (roomForSessions { maxSessions := 1 }).turn target.shared conn input) :=
  sessions_bounded fakePlatform { maxSessions := 1 } {}
    (System.runs_checked _ _ _ (sessionRoomCheck_sound _) _ _ fullTable_enabled)

/-- Two requests on one pipe connection open two sessions where one is allowed. -/
theorem pipe_exceeds_sessions :
    (Transition.exec (daemon fakePlatform { maxSessions := 1 }).next (initial {})
      ([.spawn .pipe, .spawn .pipe, .turn 0 (.start none []), .turn 1 (.start none [])] ++
        enterSession 0 "A" ++ enterSession 1 "B")).map
      (fun target => target.shared.st.sessions.keys.card) = some 2 := by
  decide +kernel

/-! ## Removed sessions -/

/-- The sessions that were terminated or cleaned up and for which no request has been read
since. -/
def removals : Aux (Shared σ) Conn Input Transport (Outside σ) (Finset Bytes) Unit where
  turn _ conn _ _ conn' gone _ :=
    (match conn.phase, conn'.phase with
      | .terminating _, _ => insert conn.session.id gone
      | .reading, .session _ sid => gone.erase sid
      | _, _ => gone, ())
  spawn _ _ _ _ gone := (gone, ())
  env g _ g' gone := gone ∪ (g.st.sessions.keys \ g'.st.sessions.keys)

/-- The condition on a step: a session is not removed between the reading of a request
with its `session_id` and the critical section of that request, and the session a baseline
is stored for is still in the table. -/
def undisturbed :
    Guard (Shared σ × Finset Bytes) (Conn × Unit) Input Transport (Outside σ) where
  turn g conn _ :=
    (∀ req sid, conn.1.phase = .session req sid → sid ∉ g.2) ∧
      (conn.1.phase.storesBaseline = true → conn.1.session.id ≠ [] →
        conn.1.session.id ∈ g.1.st.sessions)

/-- A turn that meets the condition makes an entry only for a session that was not
removed. -/
theorem turn_entries {p : Platform σ} {cfg : Settings} {g g' : Shared σ} {conn conn' : Conn}
    {input : Input} {gone : Finset Bytes} (calm : undisturbed.turn (g, gone) (conn, ()) input)
    (ran : turn p cfg g conn input = some (g', conn')) {sid : Bytes}
    (present : sid ∈ g'.st.sessions) : sid ∈ g.st.sessions ∨ sid ∉ gone := by
  have inserted : ∀ {key : Bytes}, key ∈ g.st.sessions → sid ∈ insert key g.st.sessions.keys →
      sid ∈ g.st.sessions := by
    intro key known member
    rcases Finset.mem_insert.mp member with rfl | old
    · exact known
    · exact Finmap.mem_keys.mp old
  rw [← Finmap.mem_keys] at present
  cases turn_tableChange ran with
  | keep same =>
      rw [same] at present
      exact Or.inl (Finmap.mem_keys.mp present)
  | recover phase known same =>
      rw [same, Map.keys_modify] at present
      exact Or.inl (inserted (Finmap.mem_of_lookup_eq_some known) present)
  | create phase unknown allowed same =>
      rw [same, Map.keys_insert] at present
      rcases Finset.mem_insert.mp present with rfl | old
      · exact Or.inr (calm.1 _ _ phase)
      · exact Or.inl (Finmap.mem_keys.mp old)
  | rebase starts phase named same =>
      rw [same, Map.keys_modify] at present
      exact Or.inl (inserted (calm.2 phase named) present)
  | unsubscribe phase known same =>
      rw [same, Map.keys_modify] at present
      exact Or.inl (inserted known present)
  | terminate phase same =>
      rw [same, Finmap.keys_erase] at present
      exact Or.inl (Finmap.mem_keys.mp (Finset.mem_of_mem_erase present))

/-- The sessions removed by a turn are the ones before, unless it terminates one. -/
theorem removals_turn (g g' : Shared σ) (conn conn' : Conn) (input : Input)
    (gone : Finset Bytes) :
    (∃ req, conn.phase = .terminating req ∧
      (removals.turn g conn input g' conn' gone ()).1 = insert conn.session.id gone) ∨
    (removals.turn g conn input g' conn' gone ()).1 ⊆ gone := by
  simp only [removals]
  split
  · rename_i req phase
    exact Or.inl ⟨req, phase, rfl⟩
  · exact Or.inr (Finset.erase_subset _ _)
  · exact Or.inr (Finset.Subset.refl _)

theorem turn_removed {p : Platform σ} {cfg : Settings} {g g' : Shared σ} {conn conn' : Conn}
    {input : Input} {gone : Finset Bytes} (absent : ∀ sid ∈ gone, sid ∉ g.st.sessions)
    (calm : undisturbed.turn (g, gone) (conn, ()) input)
    (ran : turn p cfg g conn input = some (g', conn')) :
    ∀ sid ∈ (removals.turn g conn input g' conn' gone ()).1, sid ∉ g'.st.sessions := by
  have old : ∀ sid ∈ gone, sid ∉ g'.st.sessions := by
    intro sid member present
    rcases turn_entries calm ran present with before | kept
    · exact absent sid member before
    · exact kept member
  intro sid member
  rcases removals_turn g g' conn conn' input gone with ⟨req, phase, added⟩ | fewer
  · rw [added] at member
    rcases Finset.mem_insert.mp member with rfl | earlier
    · have ended : g' = (terminate cfg g conn req).1 :=
        congrArg Prod.fst (turn_terminating phase ran)
      rw [ended]
      exact fun present => (Finmap.mem_erase.mp present).1 rfl
    · exact old sid earlier
  · exact old sid (fewer member)

/-- The daemon just after start-up, with no session removed. -/
def nothingRemoved (world : σ) : Config (Shared σ × Finset Bytes) (Conn × Unit) :=
  ⟨({ world := world }, ∅), []⟩

/-- In every run in which no session is removed under a request that goes on to write its
entry, a session that was terminated or cleaned up is not in the table until a request
with its `session_id` is read. -/
theorem removed_stays (p : Platform σ) (cfg : Settings) (world : σ)
    {target : Config (Shared σ × Finset Bytes) (Conn × Unit)}
    (run : ((daemon p cfg).withAux removals).Runs undisturbed (nothingRemoved world) target) :
    ∀ sid ∈ target.shared.2, sid ∉ target.shared.1.st.sessions := by
  refine shared_of_runs_aux (fun g gone => ∀ sid ∈ gone, sid ∉ g.st.sessions) run
    (fun sid member => absurd member (Finset.notMem_empty sid)) ?_ (fun _ _ _ absent => absent) ?_
  · intro g conn input g' conn' gone _ absent calm ran
    exact turn_removed absent calm ran
  · intro g event g' gone absent _ moved sid member present
    rcases Finset.mem_union.mp member with old | removed
    · have before := outside_keys_subset moved (Finmap.mem_keys.mpr present)
      exact absent sid old (Finmap.mem_keys.mp before)
    · exact (Finset.mem_sdiff.mp removed).2 (Finmap.mem_keys.mpr present)

/-- A check for undisturbed requests. -/
def undisturbedCheck (config : Config (Shared σ × Finset Bytes) (Conn × Unit)) :
    Move Input Transport (Outside σ) → Bool
  | .turn index _ => config.parts[index]?.all fun conn =>
      match conn.1.phase with
      | .session _ sid => decide (sid ∉ config.shared.2)
      | .subscribed .. | .storing .. =>
          decide (conn.1.session.id ∈ config.shared.1.st.sessions)
      | _ => true
  | _ => true

theorem undisturbedCheck_sound (config : Config (Shared σ × Finset Bytes) (Conn × Unit))
    (move : Move Input Transport (Outside σ)) (passed : undisturbedCheck config move = true) :
    undisturbed.allows config move := by
  cases move with
  | turn index input =>
      intro conn found
      simp only [undisturbedCheck, found, Option.all_some] at passed
      constructor
      · intro req sid phase
        simpa [phase] using passed
      · intro stores named
        cases phase : conn.1.phase <;> rw [phase] at stores passed <;>
          first | exact of_decide_eq_true passed | cases stores
  | spawn transport => trivial
  | env event => trivial

/-- A TCP client opens a session and then terminates it. -/
def openAndTerminate : List (Move Input Transport (Outside Fake.FakeState)) :=
  [.spawn .tcp, .turn 0 (.start none [])] ++ enterSession 0 "A" ++
  [.turn 0 .go, .turn 0 .go, .turn 0 (.core false [] 0 0), .turn 0 .go,
    .turn 0 (.frame (some (requestText "2" "session.terminate"
      [("session_id", .str (ascii "A"))]))), .turn 0 .go, .turn 0 .go]

def terminatedRun : Option (Config (Shared Fake.FakeState × Finset Bytes) (Conn × Unit)) :=
  Transition.exec (Transition.checked ((daemon fakePlatform {}).withAux removals).next
    undisturbedCheck) (nothingRemoved {}) openAndTerminate

theorem terminatedRun_ends :
    (terminatedRun.any fun target => decide (ascii "A" ∈ target.shared.2)) = true := by
  decide +kernel

theorem terminatedRun_enabled : terminatedRun.isSome :=
  Option.isSome_of_any terminatedRun_ends

theorem removed_stays_openAndTerminate :
    let target := terminatedRun.get terminatedRun_enabled
    ascii "A" ∈ target.shared.2 ∧ ∀ sid ∈ target.shared.2, sid ∉ target.shared.1.st.sessions :=
  ⟨Transition.get_of_any terminatedRun_ends terminatedRun_enabled,
    removed_stays fakePlatform {} {}
      (System.runs_checked _ _ _ undisturbedCheck_sound _ _ terminatedRun_enabled)⟩

/-- One client terminates a session while a subscription of another client to it has
taken its snapshot; storing the baseline brings the session back. -/
theorem terminated_returns :
    (Transition.exec ((daemon fakePlatform {}).withAux removals).next (nothingRemoved {})
      [.spawn .pipe, .spawn .tcp, .turn 0 (.start none []), .turn 1 (.start none []),
        .turn 0 (.frame (some (requestText "1" "events.subscribe"
          [("session_id", .str (ascii "A"))]))), .turn 0 .go, .turn 0 .go,
        .turn 1 (.frame (some (requestText "2" "session.terminate"
          [("session_id", .str (ascii "A"))]))), .turn 1 .go, .turn 1 .go,
        .turn 0 .go]).map
      (fun target => decide (ascii "A" ∈ target.shared.2 ∧
        ascii "A" ∈ target.shared.1.st.sessions)) = some true := by
  decide +kernel

end WinInspect.Daemon
