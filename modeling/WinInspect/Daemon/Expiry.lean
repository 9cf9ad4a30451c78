import WinInspect.Daemon.Sessions

/-!
# Expiry

`cleanup_sessions` forgets the sessions whose `last_activity` is too old.  Only the
critical section of a `session_id` sets that time, once and before the request is handled.
A pipe connection also remembers its session for requests without a `session_id`, and an
entry made through `operator[]` has the time of the epoch.

The age of an entry is compared in whole seconds, so the time of an entry may lag by one
second behind the processing of its requests and by no more.

The time at which a request of each session was last processed, and the time at which each
connection last entered a session, are auxiliary variables.
-/

namespace WinInspect.Daemon

open Transition (Config System Move)
open Transition.System (Aux Guard Keeps)

variable {σ : Type}

/-- A request is being processed: from the section of its `session_id`, or from its reading
when it has none, until its response is written. -/
def Phase.processes : Phase → Bool
  | .starting | .handshake | .reading | .session _ _ | .sending none _ | .unpinning | .leaving
  | .closing | .closed => false
  | _ => true

/-- The session for which a connection is processing a request. -/
def Conn.serving (conn : Conn) : Option Bytes :=
  if conn.phase.processes = true ∧ conn.session.id ≠ [] then some conn.session.id else none

/-- The session that a turn to `g'` enters. -/
def Conn.enters (g' : Shared σ) (conn : Conn) : Option Bytes :=
  match conn.phase with
  | .session _ sid => if sid ∈ g'.st.sessions then some sid else none
  | _ => none

/-- Record the time at which a request of each session was last processed, and the time at
which each connection last entered a session. -/
def activity : Aux (Shared σ) Conn Input Transport (Outside σ) (Map Bytes Nat) Nat where
  turn g conn _ g' _ times entered :=
    (match (conn.enters g').or conn.serving with
      | some sid => times.insert sid g.now
      | none => times,
      if (conn.enters g').isSome then g.now else entered)
  spawn _ _ _ _ times := (times, 0)
  env _ _ _ times := times

/-- A connection that is processing a request for its session has entered it at most a
second ago. -/
def Prompt (g : Shared σ) (part : Conn × Nat) : Prop :=
  part.1.serving ≠ none → g.now ≤ part.2 + 10 ^ 9

instance (g : Shared σ) (part : Conn × Nat) : Decidable (Prompt g part) :=
  inferInstanceAs (Decidable (_ → _))

/-- The condition on a step: requests are processed promptly, and the session a baseline is
stored for is still in the table. -/
def promptly : Guard (Shared σ × Map Bytes Nat) (Conn × Nat) Input Transport (Outside σ) where
  turn g part _ := Prompt g.1 part ∧
    (part.1.phase.storesBaseline = true → part.1.session.id ≠ [] →
      part.1.session.id ∈ g.1.st.sessions)

/-! ## The times of the entries -/

/-- No entry of the session is older than a time that has passed. -/
def Since (g : Shared σ) (sid : Bytes) (time : Nat) : Prop :=
  time ≤ g.now ∧ ∀ ps, g.st.sessions.lookup sid = some ps → time ≤ ps.lastActivity

section

variable {p : Platform σ} {cfg : Settings} {g g' : Shared σ} {conn conn' : Conn} {input : Input}
  {sid : Bytes} {time : Nat}

theorem Since.mono (since : Since g sid time) {earlier : Nat} (before : earlier ≤ time) :
    Since g sid earlier :=
  ⟨before.trans since.1, fun ps found => before.trans (since.2 ps found)⟩

/-- A turn sets the time of an entry to the present or leaves it. -/
theorem lastActivity_of_table
    (present : conn.phase.storesBaseline = true → conn.session.id ≠ [] →
      conn.session.id ∈ g.st.sessions)
    (change : TableChange cfg g conn g'.st.sessions) {ps' : PersistentSession}
    (found : g'.st.sessions.lookup sid = some ps') :
    ps'.lastActivity = g.now ∨
      ∃ ps, g.st.sessions.lookup sid = some ps ∧ ps.lastActivity = ps'.lastActivity := by
  have modified : ∀ {key : Bytes} {change : PersistentSession → PersistentSession},
      key ∈ g.st.sessions → (g.st.sessions.modify key change).lookup sid = some ps' →
      (∀ ps, (change ps).lastActivity = ps.lastActivity) →
      ∃ ps, g.st.sessions.lookup sid = some ps ∧ ps.lastActivity = ps'.lastActivity := by
    intro key change known lookup same
    rw [Map.lookup_modify_eq] at lookup
    split at lookup
    · rename_i here
      subst here
      obtain ⟨ps, known⟩ := Finmap.mem_iff.mp known
      rw [known] at lookup
      cases lookup
      exact ⟨ps, known, (same ps).symm⟩
    · exact ⟨ps', lookup, rfl⟩
  cases change with
  | keep same => exact Or.inr ⟨ps', same ▸ found, rfl⟩
  | recover phase known same =>
      rw [same, Map.lookup_modify_eq] at found
      split at found
      · cases found
        exact Or.inl rfl
      · exact Or.inr ⟨ps', found, rfl⟩
  | create phase unknown allowed same =>
      rw [same, Map.lookup_insert_eq] at found
      split at found
      · cases found
        exact Or.inl rfl
      · exact Or.inr ⟨ps', found, rfl⟩
  | rebase starts phase id same =>
      rw [same] at found
      exact Or.inr (modified (present phase id) found fun _ => rfl)
  | unsubscribe phase known same =>
      rw [same] at found
      exact Or.inr (modified known found fun _ => rfl)
  | terminate phase same =>
      rw [same, Map.lookup_erase_eq] at found
      split at found
      · cases found
      · exact Or.inr ⟨ps', found, rfl⟩

theorem Since.turn (since : Since g sid time)
    (present : conn.phase.storesBaseline = true → conn.session.id ≠ [] →
      conn.session.id ∈ g.st.sessions)
    (ran : turn p cfg g conn input = some (g', conn')) : Since g' sid time := by
  refine ⟨(turn_now ran).symm ▸ since.1, fun ps' found => ?_⟩
  rcases lastActivity_of_table present (turn_tableChange ran) found with now | ⟨ps, known, same⟩
  · exact now ▸ since.1
  · exact same ▸ since.2 ps known

theorem outside_now_le {event : Outside σ} (moved : outside cfg g event = some g') :
    g.now ≤ g'.now := by
  rcases outside_cases moved with ⟨w, _, rfl⟩ | ⟨nanoseconds, _, rfl⟩ | ⟨_, _, rfl⟩
  · exact le_rfl
  · exact Nat.le_add_right _ _
  · exact le_rfl

theorem Since.outside {event : Outside σ} (since : Since g sid time)
    (moved : outside cfg g event = some g') : Since g' sid time := by
  refine ⟨since.1.trans (outside_now_le moved), fun ps found => since.2 ps ?_⟩
  rcases outside_sessions moved with same | cleaned
  · exact same ▸ found
  · rw [cleaned] at found
    exact (Map.lookup_retain_eq_some_iff.mp found).1

/-! ## The session of a connection -/

/-- The critical section of a `session_id` that enters its session sets its time. -/
theorem enters_of_entry {req : CoreRequest} (phase : conn.phase = .session req sid)
    {ps : PersistentSession} (entry : g'.st.sessions.lookup sid = some ps)
    (set : ps.lastActivity = g'.now) : conn.enters g' = some sid ∧ Since g' sid g'.now := by
  constructor
  · rw [Conn.enters, phase]
    exact if_pos (Finmap.mem_of_lookup_eq_some entry)
  · refine ⟨le_rfl, fun other found => ?_⟩
    cases entry.symm.trans found
    exact set.ge

theorem Conn.of_serving (serves : conn.serving = some sid) :
    conn.session.id = sid ∧ conn.session.id ≠ [] := by
  unfold Conn.serving at serves
  split at serves
  · rename_i processing
    exact ⟨Option.some.inj serves, processing.2⟩
  · cases serves

theorem refresh_sessionId (conn : Conn) :
    conn.refresh.session.id = conn.session.id ∨ conn.refresh.session.id = [] := by
  unfold Conn.refresh
  cases conn.transport with
  | pipe => exact Or.inl rfl
  | tcp => exact Or.inr rfl

/-- Outside that section a connection keeps its session or gives it up. -/
theorem turn_sessionId (outside : ∀ req sid, conn.phase ≠ .session req sid)
    (ran : turn p cfg g conn input = some (g', conn')) :
    conn'.session.id = conn.session.id ∨ conn'.session.id = [] := by
  cases turn_cases ran with
  | recovered phase _ _ | tooMany phase _ _ _ | created phase _ _ _ =>
      exact absurd phase (outside _ _)
  | startPipe phase pipe => exact Or.inr rfl
  | @request payload text phase read =>
      rcases onRequest_cases p.stod cfg conn text with ⟨req, _, _, routed⟩ | ⟨what, error⟩
      · rw [routed.sessionId]
        exact refresh_sessionId conn
      · rw [error]
        exact refresh_sessionId conn
  | hungUp phase read =>
      obtain ⟨next, left⟩ := leave_goto conn
      rw [left]
      exact Or.inl rfl
  | @core timedOut _ _ _ req snap old env done phase _ _ =>
      obtain ⟨next, after⟩ := afterCore_goto conn req snap old
        (if timedOut then timeoutResponse conn.transport req else done.1)
      rw [after]
      exact Or.inl rfl
  | terminating phase free => exact Or.inr (proceed_routed cfg _ _).sessionId
  | @sending req resp phase =>
      obtain ⟨crypto, written⟩ := write_eq p.bcrypt conn (serializeResponseJson resp)
      rw [written]
      exact Or.inl rfl
  | _ => exact Or.inl rfl

/-- The session that a turn leaves its connection with: the one it enters, or else the one
from before or none. -/
theorem turn_entered (ran : turn p cfg g conn input = some (g', conn')) :
    (∃ sid, (conn.enters g' = some sid ∧ Since g' sid g'.now) ∧ conn'.session.id = sid) ∨
      (conn.enters g' = none ∧
        (conn'.session.id = conn.session.id ∨ conn'.session.id = [])) := by
  by_cases inside : ∃ req sid, conn.phase = .session req sid
  · obtain ⟨req, sid, phase⟩ := inside
    have opened := turn_session phase ran
    unfold openSession at opened
    split at opened
    · rename_i ps known
      obtain ⟨rfl, rfl⟩ := Prod.mk.inj opened
      have entry : (g.st.sessions.modify sid fun ps => { ps with lastActivity := g.now }).lookup
          sid = some { ps with lastActivity := g.now } := by
        rw [Map.lookup_modify_eq, if_pos rfl, known]
        rfl
      exact Or.inl ⟨sid, enters_of_entry phase entry rfl, (route_routed cfg _ req).sessionId⟩
    · rename_i unknown
      split at opened
      · obtain ⟨rfl, rfl⟩ := Prod.mk.inj opened
        refine Or.inr ⟨?_, Or.inl rfl⟩
        rw [Conn.enters, phase]
        exact if_neg (Finmap.lookup_eq_none.mp unknown)
      · obtain ⟨rfl, rfl⟩ := Prod.mk.inj opened
        have entry : (g.st.sessions.insert sid { lastActivity := g.now }).lookup sid =
            some { lastActivity := g.now } := by
          rw [Map.lookup_insert_eq, if_pos rfl]
        exact Or.inl ⟨sid, enters_of_entry phase entry rfl, (route_routed cfg _ req).sessionId⟩
  · push Not at inside
    refine Or.inr ⟨?_, turn_sessionId inside ran⟩
    unfold Conn.enters
    split
    · exact absurd ‹_› (inside _ _)
    · rfl

end

/-! ## Runs -/

/-- The recorded times are past, and no entry is older by more than a second than the last
request of its session. -/
def UpToDate (g : Shared σ × Map Bytes Nat) : Prop :=
  ∀ sid time, g.2.lookup sid = some time → time ≤ g.1.now ∧ Since g.1 sid (time - 10 ^ 9)

/-- The session of a connection has been entered at the recorded time. -/
def Entered (g : Shared σ × Map Bytes Nat) (part : Conn × Nat) : Prop :=
  part.1.session.id ≠ [] → Since g.1 part.1.session.id part.2

section

variable {p : Platform σ} {cfg : Settings} {g g' : Shared σ} {conn conn' : Conn} {input : Input}
  {times : Map Bytes Nat} {entered : Nat}

theorem Entered.turn (before : Entered (g, times) (conn, entered))
    (fits : promptly.turn (g, times) (conn, entered) input)
    (ran : turn p cfg g conn input = some (g', conn')) (times' : Map Bytes Nat) :
    Entered (g', times') (conn', (activity.turn g conn input g' conn' times entered).2) := by
  intro named
  change Since g' conn'.session.id (if (conn.enters g').isSome then g.now else entered)
  rcases turn_entered ran with ⟨sid, ⟨enters, since⟩, id⟩ | ⟨enters, id⟩
  · rw [id, enters, ← turn_now ran]
    exact since
  · have same := id.resolve_right named
    rw [same] at named ⊢
    rw [enters]
    exact (before named).turn fits.2 ran

/-- The session of a turn has an entry that is at most a second old. -/
theorem since_of_works (before : Entered (g, times) (conn, entered))
    (fits : promptly.turn (g, times) (conn, entered) input)
    (ran : turn p cfg g conn input = some (g', conn')) {sid : Bytes}
    (works : (conn.enters g').or conn.serving = some sid) : Since g' sid (g.now - 10 ^ 9) := by
  rcases turn_entered ran with ⟨other, ⟨enters, since⟩, -⟩ | ⟨enters, -⟩
  · rw [enters, Option.some_or, Option.some.injEq] at works
    rw [← works]
    exact since.mono (by rw [turn_now ran]; omega)
  · rw [enters, Option.none_or] at works
    have prompt : g.now ≤ entered + 10 ^ 9 := fits.1 (by simp [works])
    obtain ⟨rfl, named⟩ := Conn.of_serving works
    exact ((before named).turn fits.2 ran).mono (by omega)

theorem UpToDate.turn (fresh : UpToDate (g, times)) (before : Entered (g, times) (conn, entered))
    (fits : promptly.turn (g, times) (conn, entered) input)
    (ran : turn p cfg g conn input = some (g', conn')) :
    UpToDate (g', (activity.turn g conn input g' conn' times entered).1) := by
  intro sid time recorded
  rw [turn_now ran]
  by_cases works : (conn.enters g').or conn.serving = some sid
  · simp only [activity, works, Map.lookup_insert_eq, if_pos] at recorded
    cases recorded
    exact ⟨le_rfl, since_of_works before fits ran works⟩
  · have old : times.lookup sid = some time := by
      simp only [activity] at recorded
      split at recorded
      · rename_i other served
        rw [Map.lookup_insert_eq, if_neg] at recorded
        · exact recorded
        · rintro rfl
          exact works served
      · exact recorded
    obtain ⟨past, since⟩ := fresh sid time old
    exact ⟨past, since.turn fits.2 ran⟩

end

theorem keeps_upToDate (p : Platform σ) (cfg : Settings) :
    Keeps ((daemon p cfg).withAux activity) promptly UpToDate Entered where
  turn := by
    rintro ⟨g, times⟩ ⟨conn, entered⟩ input ⟨g', times'⟩ ⟨conn', entered'⟩ fresh before fits ran
    obtain ⟨moved, marks⟩ := System.withAux_turn ran
    dsimp only at moved marks
    obtain ⟨rfl, rfl⟩ := Prod.mk.inj marks
    exact ⟨fresh.turn before fits moved, before.turn fits moved _⟩
  others := by
    rintro g part input g' part' other - - before fits ran named
    exact (before named).turn fits.2 (System.withAux_turn ran).1
  spawn := by
    rintro ⟨g, times⟩ transport ⟨g', times'⟩ ⟨conn, entered⟩ fresh - spawned
    obtain ⟨accepted, marks⟩ := System.withAux_spawn spawned
    obtain ⟨rfl, rfl⟩ := accept_st accepted
    cases marks
    exact ⟨fresh, fun named => absurd rfl named, fun _ before => before⟩
  env := by
    rintro ⟨g, times⟩ event ⟨g', times'⟩ fresh - moved
    obtain ⟨moved, rfl⟩ := System.withAux_env moved
    refine ⟨fun sid time recorded => ?_, fun part before named => (before named).outside moved⟩
    obtain ⟨past, since⟩ := fresh sid time recorded
    exact ⟨past.trans (outside_now_le moved), since.outside moved⟩

/-- A request was processed on behalf of a session at a time: the recorded one, or the
present when a connection is processing one. -/
def ProcessedAt (config : Config (Shared σ × Map Bytes Nat) (Conn × Nat)) (sid : Bytes)
    (time : Nat) : Prop :=
  config.shared.2.lookup sid = some time ∨
    (time = config.shared.1.now ∧ ∃ part ∈ config.parts, part.1.serving = some sid)

/-- An entry that is older than the last request by at most a second stays for the time to
live after it, since its age is compared in whole seconds. -/
theorem mem_cleanup {g : Shared σ} {ttl : Int} {sid : Bytes} {time : Nat}
    (past : time ≤ g.now) (since : Since g sid (time - 10 ^ 9)) (present : sid ∈ g.st.sessions)
    (recent : (g.now : Int) - ttl * 10 ^ 9 < time) :
    sid ∈ (g.st.cleanupSessions ttl g.now).sessions := by
  obtain ⟨ps, found⟩ := Finmap.mem_iff.mp present
  have newer := since.2 ps found
  have young : (((g.now - ps.lastActivity) / 10 ^ 9 : Nat) : Int) ≤ ttl := by
    have whole := Nat.div_mul_le_self (g.now - ps.lastActivity) (10 ^ 9)
    omega
  exact Finmap.mem_of_lookup_eq_some
    (Map.lookup_retain_eq_some_iff.mpr ⟨found, decide_eq_true young⟩)

/-- The daemon just after start-up, with no request recorded. -/
def unserved (world : σ) : Config (Shared σ × Map Bytes Nat) (Conn × Nat) :=
  ⟨({ world := world }, ∅), []⟩

/-- In every run in which requests are processed within a second after their connection has
entered their session, and baselines are stored only for sessions in the table,
`cleanup_sessions` at any time keeps every session for which a request was processed within
the time to live. -/
theorem active_kept (p : Platform σ) (cfg : Settings) (world : σ)
    {target : Config (Shared σ × Map Bytes Nat) (Conn × Nat)}
    (run : ((daemon p cfg).withAux activity).Runs promptly (unserved world) target)
    (prompt : ∀ part ∈ target.parts, Prompt target.shared.1 part) :
    ∀ sid time, ProcessedAt target sid time → sid ∈ target.shared.1.st.sessions →
      (target.shared.1.now : Int) - cfg.sessionTtlSec * 10 ^ 9 < time →
        sid ∈
          (target.shared.1.st.cleanupSessions cfg.sessionTtlSec target.shared.1.now).sessions := by
  obtain ⟨fresh, entered⟩ := run.invariant (keeps_upToDate p cfg)
    ⟨by rintro sid time ⟨⟩, by rintro part ⟨⟩⟩
  intro sid time processed present recent
  rcases processed with recorded | ⟨rfl, part, member, serves⟩
  · obtain ⟨past, since⟩ := fresh sid time recorded
    exact mem_cleanup past since present recent
  · have late : target.shared.1.now ≤ part.2 + 10 ^ 9 := prompt part member (by simp [serves])
    obtain ⟨rfl, named⟩ := Conn.of_serving serves
    have since : Since target.shared.1 part.1.session.id part.2 := entered part member named
    exact mem_cleanup le_rfl (since.mono (by omega)) present recent

/-- A check for prompt requests. -/
def promptlyCheck (config : Config (Shared σ × Map Bytes Nat) (Conn × Nat)) :
    Move Input Transport (Outside σ) → Bool
  | .turn index _ => config.parts[index]?.all fun part => decide (Prompt config.shared.1 part) &&
      (!part.1.phase.storesBaseline || decide (part.1.session.id ∈ config.shared.1.st.sessions))
  | _ => true

theorem promptlyCheck_sound (config : Config (Shared σ × Map Bytes Nat) (Conn × Nat))
    (move : Move Input Transport (Outside σ)) (passed : promptlyCheck config move = true) :
    promptly.allows config move := by
  cases move with
  | turn index input =>
      intro part found
      simp only [promptlyCheck, found, Option.all_some, Bool.and_eq_true] at passed
      refine ⟨of_decide_eq_true passed.1, fun stores _ => ?_⟩
      simpa [stores] using passed.2
  | spawn transport => trivial
  | env event => trivial

/-- A pipe client whose session lives ten seconds sends requests for it at the seconds 0
and 9, the second one with the given parameters and that many actions before the engine
runs; then it is the second 12. -/
def twoRequests (params : List (String × Json.Value)) (actions : Nat) :
    List (Move Input Transport (Outside Fake.FakeState)) :=
  [.spawn .pipe, .turn 0 (.start none [])] ++ enterSession 0 "A" ++
  [.turn 0 .go, .turn 0 .go, .turn 0 (.core false [] 0 0), .turn 0 .go,
    .env (.tick (9 * 10 ^ 9))] ++ handled "daemon.health" params actions 1 ++
  [.env (.tick (3 * 10 ^ 9))]

def promptRun : Option (Config (Shared Fake.FakeState × Map Bytes Nat) (Conn × Nat)) :=
  Transition.exec (Transition.checked
    ((daemon fakePlatform { sessionTtlSec := 10 }).withAux activity).next promptlyCheck)
    (unserved {}) (twoRequests [("session_id", .str (ascii "A"))] 3)

theorem promptRun_ends :
    (promptRun.any fun target => decide (
      target.shared.2.lookup (ascii "A") = some (9 * 10 ^ 9) ∧
        ascii "A" ∈ target.shared.1.st.sessions ∧
        (target.shared.1.now : Int) - 10 * 10 ^ 9 < (9 * 10 ^ 9 : Nat) ∧
        ∀ part ∈ target.parts, Prompt target.shared.1 part)) = true := by
  decide +kernel

theorem promptRun_enabled : promptRun.isSome :=
  Option.isSome_of_any promptRun_ends

theorem active_kept_twoRequests :
    let target := promptRun.get promptRun_enabled
    ascii "A" ∈ (target.shared.1.st.cleanupSessions 10 target.shared.1.now).sessions := by
  obtain ⟨recorded, present, recent, prompt⟩ :=
    Transition.get_of_any promptRun_ends promptRun_enabled
  exact active_kept fakePlatform { sessionTtlSec := 10 } {}
    (System.runs_checked _ _ _ promptlyCheck_sound _ _ promptRun_enabled) prompt
    (ascii "A") (9 * 10 ^ 9) (Or.inl recorded) present recent

/-- A pipe client subscribes for a session and polls at once; the engine answers the poll
after four seconds. -/
def slowPoll : List (Move Input Transport (Outside Fake.FakeState)) :=
  let session := ("session_id", Json.Value.str (ascii "A"))
  let four := Json.Value.num (Double.ofNat false 4000)
  [.spawn .pipe, .turn 0 (.start none [])] ++ intercepted "events.subscribe" [session] 4 ++
  intercepted "events.poll" [session, ("wait_ms", four), ("interval_ms", four)] 3 ++
  [.env (.tick (4 * 10 ^ 9)), .turn 0 (.core false [] 4000 4000), .turn 0 .go, .turn 0 .go,
    .turn 0 .go]

/-- When the second request relies on the session the connection remembers, the session
is forgotten three seconds later; and with a time to live of three seconds, a session is
forgotten in the moment in which a poll for it is answered after four. -/
theorem active_forgotten :
    let ending := fun (ttl : Int) (moves : List (Move Input Transport (Outside Fake.FakeState))) =>
      (Transition.exec ((daemon fakePlatform { sessionTtlSec := ttl }).withAux activity).next
        (unserved {}) moves).map fun target =>
        (target.shared.2.lookup (ascii "A"), target.shared.1.now,
          decide (ascii "A" ∈ target.shared.1.st.sessions),
          decide (ascii "A" ∈
            (target.shared.1.st.cleanupSessions ttl target.shared.1.now).sessions))
    ending 10 (twoRequests [] 2) = some (some (9 * 10 ^ 9), 12 * 10 ^ 9, true, false) ∧
      ending 3 slowPoll = some (some (4 * 10 ^ 9), 4 * 10 ^ 9, true, false) := by
  decide +kernel

end WinInspect.Daemon
