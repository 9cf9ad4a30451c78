import WinInspect.Core.Events
import WinInspect.Daemon.Sessions

/-!
# Polls and subscriptions

A poll without an `old_snapshot_id` compares with the last baseline of its session.  No
code tests whether the session is subscribed; a session that is not should have no
baseline.  Which sessions are subscribed is recorded in auxiliary variables, from the
requests that are processed: a set of the named sessions, and for each pipe connection the
session it has before a request gives it a name.
-/

namespace WinInspect.Daemon

open Transition (Config System)
open Transition.System (Aux Guard Keeps)

variable {σ : Type}

/-- A poll that relies on the baseline of its session. -/
def PollsBaseline (req : CoreRequest) : Prop :=
  req.method = ascii "events.poll" ∧ getStr req.params "old_snapshot_id" = none

instance (req : CoreRequest) : Decidable (PollsBaseline req) :=
  inferInstanceAs (Decidable (_ ∧ _))

/-! ## The record of subscriptions -/

/-- What is recorded of a connection. -/
structure Standing where
  /-- A request has given it a session id. -/
  named : Bool := false
  /-- The unnamed session of the pipe is subscribed. -/
  subscribed : Bool := false
  /-- The session was subscribed when the request began to run under it, and when a poll
  stored its baseline. -/
  served : Bool := false

/-- The session a connection runs under is subscribed. -/
def runsSubscribed (names : Finset Bytes) (conn : Conn) (own : Bool) : Bool :=
  if conn.session.id = [] then own else decide (conn.session.id ∈ names)

/-- The subscribed sessions after a turn. -/
def namesAfter (names : Finset Bytes) (conn : Conn) : Finset Bytes :=
  match conn.phase with
  | .subscribed .. => insert conn.session.id names
  | .unsubscribing .. | .terminating .. => names.erase conn.session.id
  | _ => names

/-- An `events.unsubscribe` has just been answered. -/
def Conn.answersUnsubscribe (conn : Conn) : Bool :=
  match conn.phase with
  | .sending (some req) resp => decide (req.method = ascii "events.unsubscribe") && resp.ok
  | _ => false

/-- Whether the unnamed session is subscribed after a turn. -/
def ownAfter (own : Bool) (conn conn' : Conn) : Bool :=
  match conn.phase with
  | .subscribed .. => own || decide (conn.transport = .pipe ∧ conn.session.id = [])
  | .reading | .session .. => own && !conn'.answersUnsubscribe
  | _ => own

/-- The record of a connection after a turn. -/
def Standing.after (standing : Standing) (names : Finset Bytes) (conn conn' : Conn) : Standing where
  named := match conn.phase with
    | .session .. => true
    | _ => standing.named
  subscribed := ownAfter standing.subscribed conn conn'
  served := match conn.phase with
    | .reading | .session .. =>
        runsSubscribed names conn' (ownAfter standing.subscribed conn conn')
    | .storing .. => standing.served && runsSubscribed names conn standing.subscribed
    | _ => standing.served

/-- Record the subscriptions.  A session that expires is no longer subscribed. -/
def subscriptions : Aux (Shared σ) Conn Input Transport (Outside σ) (Finset Bytes) Standing where
  turn _ conn _ _ conn' names standing :=
    (namesAfter names conn, standing.after names conn conn')
  spawn _ _ _ _ names := (names, {})
  env _ _ g' names := names.filter (· ∈ g'.st.sessions)

/-- The request that a turn reads. -/
def Conn.reads (p : Platform σ) (conn : Conn) : Input → Option CoreRequest
  | .frame payload =>
      match conn.phase with
      | .reading => (payload.bind (conn.textOf p.bcrypt)).bind fun text =>
          (parseRequestJson p.stod text).toOption
      | _ => none
  | _ => none

/-- The condition on a step: a poll of a pipe connection that has had a named session carries
a `session_id`, a poll whose session is made for it finds no baseline in the connection, and a
poll stores its baseline only for a subscribed session.  The last is asked of a poll without
`old_snapshot_id` only if its session was subscribed when it began, and of others not for the
unnamed sessions of TCP, which are dropped with the request. -/
def keepsSubscriptions (p : Platform σ) :
    Guard (Shared σ × Finset Bytes) (Conn × Standing) Input Transport (Outside σ) where
  turn g conn input :=
    (∀ req, conn.1.reads p input = some req → PollsBaseline req → conn.1.transport = .pipe →
      getStr req.params "session_id" = none → conn.2.named = false) ∧
    (∀ req sid, conn.1.phase = .session req sid → PollsBaseline req → conn.1.transport = .pipe →
      g.1.st.sessions.lookup sid = none → conn.1.session.lastSnapId = []) ∧
    ∀ req snap old resp fresh, conn.1.phase = .storing req snap old resp fresh →
      (if PollsBaseline req then conn.2.served = true
        else conn.1.transport = .pipe ∨ conn.1.session.id ≠ []) →
      runsSubscribed g.2 conn.1 conn.2.subscribed = true

/-! ## The table of sessions -/

/-- The sessions with a baseline are subscribed. -/
def TableSubscribed (st : ServerState) (names : Finset Bytes) : Prop :=
  ∀ sid ps, st.sessions.lookup sid = some ps → ps.lastSnapId ≠ [] → sid ≠ [] ∧ sid ∈ names

section

variable {p : Platform σ} {cfg : Settings} {g g' : Shared σ} {conn conn' : Conn} {input : Input}

theorem mem_namesAfter {names : Finset Bytes} {sid : Bytes} (member : sid ∈ names)
    (kept : ∀ req, conn.phase = .unsubscribing req ∨ conn.phase = .terminating req →
      sid ≠ conn.session.id) : sid ∈ namesAfter names conn := by
  unfold namesAfter
  split
  · exact Finset.mem_insert_of_mem member
  · rename_i req phase
    exact Finset.mem_erase.mpr ⟨kept req (Or.inl phase), member⟩
  · rename_i req phase
    exact Finset.mem_erase.mpr ⟨kept req (Or.inr phase), member⟩
  · exact member

/-- An unsubscribed session has no baseline in the table. -/
theorem unsubscribe_baseline {req : CoreRequest} {sid : Bytes} {ps : PersistentSession}
    (found : (unsubscribe g conn req).1.st.sessions.lookup sid = some ps)
    (baseline : ps.lastSnapId ≠ []) :
    g.st.sessions.lookup sid = some ps ∧ sid ≠ conn.session.id := by
  simp only [unsubscribe, Shared.withSt] at found
  split at found
  · rw [ServerState.modifySession, Map.lookup_modify_eq] at found
    split at found
    · cases found
      exact absurd rfl baseline
    · rename_i other
      exact ⟨found, other⟩
  · rename_i absent
    refine ⟨found, ?_⟩
    rintro rfl
    exact absent (Finmap.mem_of_lookup_eq_some found)

/-- A terminated session is not in the table. -/
theorem terminate_baseline {req : CoreRequest} {sid : Bytes} {ps : PersistentSession}
    (found : (terminate cfg g conn req).1.st.sessions.lookup sid = some ps) :
    g.st.sessions.lookup sid = some ps ∧ sid ≠ conn.session.id := by
  simp only [terminate, Shared.withSt, ServerState.eraseSession, Map.lookup_erase_eq] at found
  split at found
  · cases found
  · rename_i other
    exact ⟨found, other⟩

/-- A baseline in the table is the one a turn stores for its session, or it was there before
and the turn did not end its subscription. -/
theorem turn_tableBaseline_cases (ran : turn p cfg g conn input = some (g', conn')) {sid : Bytes}
    {ps' : PersistentSession} (found : g'.st.sessions.lookup sid = some ps')
    (baseline : ps'.lastSnapId ≠ []) :
    (conn.phase.storesBaseline = true ∧ sid = conn.session.id ∧ sid ≠ []) ∨
    (∃ ps, g.st.sessions.lookup sid = some ps ∧ ps.lastSnapId ≠ []) ∧
      ∀ req, conn.phase = .unsubscribing req ∨ conn.phase = .terminating req →
        sid ≠ conn.session.id := by
  by_cases own : ∃ req, conn.phase = .unsubscribing req ∨ conn.phase = .terminating req
  · obtain ⟨req, phase | phase⟩ := own
    · obtain rfl : g' = (unsubscribe g conn req).1 := (Prod.mk.inj (turn_unsubscribing phase ran)).1
      obtain ⟨before, other⟩ := unsubscribe_baseline found baseline
      exact Or.inr ⟨⟨ps', before, baseline⟩, fun _ _ => other⟩
    · obtain rfl : g' = (terminate cfg g conn req).1 := (Prod.mk.inj (turn_terminating phase ran)).1
      obtain ⟨before, other⟩ := terminate_baseline found
      exact Or.inr ⟨⟨ps', before, baseline⟩, fun _ _ => other⟩
  · have steady : ∀ req, conn.phase = .unsubscribing req ∨ conn.phase = .terminating req →
        sid ≠ conn.session.id := fun req phase => absurd ⟨req, phase⟩ own
    cases turn_tableChange ran with
    | keep same =>
        rw [same] at found
        exact Or.inr ⟨⟨ps', found, baseline⟩, steady⟩
    | @recover req id _ phase known same =>
        rw [same, Map.lookup_modify_eq] at found
        split at found
        · rename_i mine
          subst mine
          rw [known] at found
          cases found
          exact Or.inr ⟨⟨_, known, baseline⟩, steady⟩
        · exact Or.inr ⟨⟨ps', found, baseline⟩, steady⟩
    | create phase unknown allowed same =>
        rw [same, Map.lookup_insert_eq] at found
        split at found
        · cases found
          exact absurd rfl baseline
        · exact Or.inr ⟨⟨ps', found, baseline⟩, steady⟩
    | rebase starts phase named same =>
        rw [same, Map.lookup_modify_eq] at found
        split at found
        · rename_i mine
          exact Or.inl ⟨phase, mine, mine ▸ named⟩
        · exact Or.inr ⟨⟨ps', found, baseline⟩, steady⟩
    | unsubscribe phase known same => exact absurd ⟨_, Or.inl phase⟩ own
    | terminate phase same => exact absurd ⟨_, Or.inr phase⟩ own

end

/-! ## Polls in flight -/

/-- A poll that relies on a baseline has one from a session that was subscribed. -/
def Phase.Backed (transport : Transport) (baseline : Bytes) (served : Bool) : Phase → Prop
  | .session req _ => PollsBaseline req → transport = .tcp → baseline = []
  | .subscribing req | .subscribed req _ | .unsubscribing req | .terminating req | .capturing req
  | .captured req _ | .evicting req _ => ¬PollsBaseline req
  | .finding req | .findingOld req _ => PollsBaseline req → baseline ≠ [] → served = true
  | .calling req _ old => PollsBaseline req → old ≠ none → served = true
  | .polled req _ _ _ | .storing req _ _ _ _ => PollsBaseline req → served = true
  | .sending (some req) resp => PollsBaseline req → resp.ok = true → served = true
  | _ => True

/-- Other requests are of no concern. -/
theorem Routes.backed {cfg : Settings} {req : CoreRequest} {phase : Phase}
    (routes : Routes cfg req phase) (other : ¬PollsBaseline req) (transport : Transport)
    (baseline : Bytes) (served : Bool) : phase.Backed transport baseline served := by
  cases routes with
  | subscribing | unsubscribing | terminating | capturing => exact other
  | session | finding | sending => exact fun poll => absurd poll other

theorem route_poll (cfg : Settings) (conn : Conn) {req : CoreRequest} (poll : PollsBaseline req) :
    conn.route cfg req = conn.goto (.finding req) :=
  route_of_engine cfg conn (by rw [poll.1]; decide) (by rw [poll.1]; decide +kernel)

theorem accept_poll (cfg : Settings) (conn : Conn) {req : CoreRequest} (poll : PollsBaseline req) :
    (∃ resp, resp.ok = false ∧ conn.accept cfg req = conn.send req resp) ∨
    (∃ sid, conn.accept cfg req = conn.goto (.session req sid)) ∨
    (getStr req.params "session_id" = none ∧ conn.accept cfg req = conn.goto (.finding req)) := by
  unfold Conn.accept
  split
  · exact Or.inl ⟨_, rfl, rfl⟩
  · split
    · exact Or.inr (Or.inl ⟨_, rfl⟩)
    · rename_i unnamed
      exact Or.inr (Or.inr ⟨unnamed, route_poll cfg conn poll⟩)

/-- The local part of a request takes a baseline away and gives none, and it answers
`events.unsubscribe` only when it does. -/
theorem accept_baseline (cfg : Settings) (conn : Conn) (req : CoreRequest)
    (baseline : (conn.accept cfg req).session.lastSnapId ≠ []) :
    (conn.accept cfg req).session.lastSnapId = conn.session.lastSnapId ∧
      (conn.accept cfg req).answersUnsubscribe = false := by
  have refused (code message : String) :
      (conn.send req (errorResponse req code message)).answersUnsubscribe = false :=
    Bool.and_false _
  unfold Conn.accept at baseline ⊢
  split
  · exact ⟨rfl, refused _ _⟩
  · rename_i allowed
    rw [if_neg allowed] at baseline
    split
    · exact ⟨rfl, rfl⟩
    · rename_i unnamed
      rw [unnamed] at baseline
      dsimp only at baseline
      unfold Conn.route at baseline ⊢
      split
      · exact ⟨rfl, rfl⟩
      · rename_i subscribes
        rw [if_neg subscribes] at baseline
        split
        · rename_i unsubscribes
          rw [if_pos unsubscribes] at baseline
          dsimp only at baseline
          split at baseline <;> exact absurd rfl baseline
        · split
          · exact ⟨rfl, rfl⟩
          · unfold Conn.proceed
            split
            · exact ⟨rfl, refused _ _⟩
            · split <;> exact ⟨rfl, rfl⟩

theorem Captures.backed {phase : Phase} {resp : CoreResponse} {req : CoreRequest}
    {next : Snapshot → Phase} (captures : Captures phase resp req next) {transport : Transport}
    {baseline : Bytes} {served : Bool} (backed : phase.Backed transport baseline served)
    (snap : Snapshot) : (next snap).Backed transport baseline served := by
  cases captures <;> exact backed

theorem Captures.served {conn conn' : Conn} {resp : CoreResponse} {req : CoreRequest}
    {next : Snapshot → Phase} (captures : Captures conn.phase resp req next)
    {names : Finset Bytes} {standing : Standing} :
    (standing.after names conn conn').served = standing.served := by
  unfold Standing.after
  generalize conn.phase = phase at captures
  cases captures <;> rfl

theorem Captures.subscribed {conn conn' : Conn} {resp : CoreResponse} {req : CoreRequest}
    {next : Snapshot → Phase} (captures : Captures conn.phase resp req next)
    {names : Finset Bytes} {standing : Standing} :
    (standing.after names conn conn').subscribed = standing.subscribed := by
  simp only [Standing.after, ownAfter]
  generalize conn.phase = phase at captures
  cases captures <;> rfl

@[simp]
theorem caught_ok (transport : Transport) (resp : CoreResponse) (what : Bytes) :
    (caught transport resp what).ok = false := by
  cases transport <;> rfl

/-- What holds of a connection: its poll is backed, and the session of a pipe connection
without a name has a baseline only when it is subscribed. -/
structure SubscriptionInv (conn : Conn) (standing : Standing) : Prop where
  backed : conn.phase.Backed conn.transport conn.session.lastSnapId standing.served
  unnamed : conn.transport = .pipe → standing.named = false → conn.session.id = []
  own : conn.transport = .pipe → standing.named = false → conn.session.lastSnapId ≠ [] →
    standing.subscribed = true

section

variable {p : Platform σ} {cfg : Settings} {g g' : Shared σ} {conn conn' : Conn} {input : Input}
  {names : Finset Bytes} {standing : Standing}

/-- A request that is read. -/
theorem SubscriptionInv.request (inv : SubscriptionInv conn standing)
    (phase : conn.phase = .reading) {payload : Option Bytes} {text : Bytes}
    (read : payload.bind (conn.textOf p.bcrypt) = some text)
    (keeps : (keepsSubscriptions p).turn (g, names) (conn, standing) (.frame payload))
    (same : conn' = conn.onRequest p.stod cfg text) :
    conn'.phase.Backed conn'.transport conn'.session.lastSnapId
      (standing.after names conn conn').served := by
  rcases onRequest_cases p.stod cfg conn text with ⟨req, parsed, asked, routed⟩ | ⟨what, error⟩
  · by_cases poll : PollsBaseline req
    · rw [same, asked]
      rcases accept_poll cfg conn.refresh poll with ⟨resp, refused, sent⟩ | ⟨sid, entered⟩ |
        ⟨unnamed, found⟩
      · rw [sent]
        intro _ ok
        rw [refused] at ok
        cases ok
      · rw [entered]
        intro _ tcp
        change conn.refresh.transport = .tcp at tcp
        rw [refresh_transport] at tcp
        change conn.refresh.session.lastSnapId = []
        rw [Conn.refresh, tcp]
      · rw [found]
        intro _ baseline
        change conn.refresh.session.lastSnapId ≠ [] at baseline
        unfold Conn.refresh at baseline ⊢
        cases transport : conn.transport with
        | tcp =>
            rw [transport] at baseline
            exact absurd rfl baseline
        | pipe =>
            rw [transport] at baseline
            have reads : conn.reads p (.frame payload) = some req := by
              simp only [Conn.reads, phase, read, Option.bind_some, parsed, Except.toOption]
            have fresh := keeps.1 req reads poll transport unnamed
            have own := inv.own transport fresh baseline
            simp only [Standing.after, phase, runsSubscribed, Conn.goto,
              inv.unnamed transport fresh, ownAfter, own, Conn.answersUnsubscribe]
            rfl
    · rw [same]
      exact routed.phase.backed poll _ _ _
  · rw [same, error]
    trivial

/-- A request that enters its session. -/
theorem SubscriptionInv.session (inv : SubscriptionInv conn standing)
    (table : TableSubscribed g.st names) {req : CoreRequest} {sid : Bytes}
    (phase : conn.phase = .session req sid)
    (keeps : (keepsSubscriptions p).turn (g, names) (conn, standing) input)
    (same : conn' = (openSession cfg g conn req sid).2) :
    conn'.phase.Backed conn'.transport conn'.session.lastSnapId
      (standing.after names conn conn').served := by
  by_cases poll : PollsBaseline req
  · have backed := inv.backed
    rw [phase] at backed
    unfold openSession at same
    cases known : g.st.sessions.lookup sid with
    | some ps =>
        rw [known] at same
        dsimp only at same
        rw [route_poll cfg _ poll] at same
        rw [same]
        intro _ baseline
        obtain ⟨named, subscribed⟩ := table sid ps known baseline
        simp only [Standing.after, phase, runsSubscribed, Conn.goto, if_neg named, subscribed,
          decide_true]
    | none =>
        rw [known] at same
        dsimp only at same
        split at same
        · rw [same]
          intro _ ok
          cases ok
        · rw [route_poll cfg _ poll] at same
          rw [same]
          intro _ baseline
          cases transport : conn.transport with
          | pipe => exact absurd (keeps.2.1 req sid phase poll transport known) baseline
          | tcp => exact absurd (backed poll transport) baseline
  · unfold openSession at same
    split at same
    · rw [same]
      exact (route_routed cfg _ req).phase.backed poll _ _ _
    · split at same
      · rw [same]
        exact fun polls => absurd polls poll
      · rw [same]
        exact (route_routed cfg _ req).phase.backed poll _ _ _

/-- The engine answers. -/
theorem SubscriptionInv.core (inv : SubscriptionInv conn standing) {req : CoreRequest}
    {snap : Snapshot} {old : Option Snapshot} (phase : conn.phase = .calling req snap old)
    {env : Surroundings} {durationMs : Int} {timedOut : Bool} {resp : CoreResponse}
    (answer : resp = if timedOut then timeoutResponse conn.transport req
      else (handle p.backend env durationMs req snap old g.world).1)
    (same : conn' = conn.afterCore req snap old resp) :
    conn'.phase.Backed conn'.transport conn'.session.lastSnapId
      (standing.after names conn conn').served := by
  have backed := inv.backed
  rw [phase] at backed
  have served : (standing.after names conn conn').served = standing.served := by
    simp only [Standing.after, phase]
  rw [served, same]
  unfold Conn.afterCore
  split
  · rename_i answered
    intro poll
    apply backed poll
    have ok := answered.2
    rw [answer] at ok
    split at ok
    · cases ok
    · exact handle_poll_old poll.1 ok
  · rename_i unanswered
    intro poll ok
    exact absurd ⟨poll.1, ok⟩ unanswered

/-- The poll of a connection stays backed. -/
theorem SubscriptionInv.turn_backed (inv : SubscriptionInv conn standing)
    (table : TableSubscribed g.st names)
    (keeps : (keepsSubscriptions p).turn (g, names) (conn, standing) input)
    (ran : turn p cfg g conn input = some (g', conn')) :
    conn'.phase.Backed conn'.transport conn'.session.lastSnapId
      (standing.after names conn conn').served := by
  have backed := inv.backed
  cases turn_cases ran with
  | request phase read => exact inv.request phase read keeps rfl
  | core phase surroundings ranCore =>
      rw [ranCore]
      exact inv.core phase rfl rfl
  | @recovered req sid ps phase free known =>
      apply inv.session table phase keeps
      rw [openSession, known]
  | @tooMany req sid phase free unknown capped =>
      apply inv.session table phase keeps
      rw [openSession, unknown]
      dsimp only
      rw [if_pos capped]
  | @created req sid phase free unknown allowed =>
      apply inv.session table phase keeps
      rw [openSession, unknown]
      dsimp only
      rw [if_neg allowed]
  | hungUp phase read =>
      rcases leave_cases conn with ⟨_, _, left⟩ | ⟨_, _, left⟩ | ⟨_, left⟩ <;> rw [left] <;>
        trivial
  | captureOk captures taken =>
      rw [captures.served]
      exact captures.backed backed _
  | captureFails captures taken =>
      intro _ ok
      rw [caught_ok] at ok
      cases ok
  | terminating phase free =>
      rw [phase] at backed
      exact (proceed_routed cfg _ _).phase.backed backed _ _ _
  | @findingOld req snap phase =>
      rw [phase] at backed
      simp only [Standing.after, phase]
      intro poll found
      apply backed poll
      intro empty
      apply found
      rw [oldSnapshot, oldSid, poll.2]
      dsimp only
      rw [if_neg fun relies => relies.2 empty]
      rfl
  | @storing req snap old resp fresh phase free =>
      rw [phase] at backed
      intro poll _
      have served := backed poll
      have subscribed := keeps.2.2 req snap old resp fresh phase (by rw [if_pos poll]; exact served)
      simp only [Standing.after, phase, served]
      exact subscribed
  | @sending req resp phase =>
      rcases afterSend_cases (conn.write p.bcrypt (serializeResponseJson resp)).2 with
        ⟨_, next⟩ | ⟨_, next⟩ <;> rw [next] <;> trivial
  | subscribed phase _ | unsubscribing phase _ | evictDone phase _ =>
      rw [phase] at backed
      exact fun poll => absurd poll backed
  | captured phase free =>
      rw [phase] at backed
      exact backed
  | evictRound phase full =>
      simp only [Standing.after, phase] at backed ⊢
      exact backed
  | unknownSnapshot phase named free unknown => exact fun _ ok => nomatch ok
  | pinned phase named free stored =>
      rw [phase] at backed
      simp only [Standing.after, phase]
      exact backed
  | startTcp phase tcp =>
      dsimp only
      split <;> trivial
  | startPipe phase _ | hangUp phase | answered phase _ | refused phase _
  | unpinning phase _ | leaving phase _ | closing phase =>
      trivial

/-- A request without a `session_id` on a pipe connection without a named session. -/
theorem SubscriptionInv.request_own (inv : SubscriptionInv conn standing)
    (phase : conn.phase = .reading) (pipe : conn.transport = .pipe)
    (fresh : standing.named = false) {text : Bytes} :
    (conn.onRequest p.stod cfg text).session.id = [] ∧
      ((conn.onRequest p.stod cfg text).session.lastSnapId ≠ [] →
        (standing.after names conn (conn.onRequest p.stod cfg text)).subscribed = true) := by
  have refreshed : conn.refresh.session = conn.session := by rw [Conn.refresh, pipe]
  simp only [Standing.after, ownAfter, phase]
  rcases onRequest_cases p.stod cfg conn text with ⟨req, parsed, asked, routed⟩ | ⟨what, error⟩
  · constructor
    · rw [routed.sessionId, refreshed]
      exact inv.unnamed pipe fresh
    · rw [asked]
      intro baseline
      obtain ⟨same, answers⟩ := accept_baseline cfg conn.refresh req baseline
      rw [same, refreshed] at baseline
      rw [answers, inv.own pipe fresh baseline]
      rfl
  · rw [error]
    change conn.refresh.session.id = [] ∧ (conn.refresh.session.lastSnapId ≠ [] → _)
    rw [refreshed]
    refine ⟨inv.unnamed pipe fresh, fun baseline => ?_⟩
    rw [inv.own pipe fresh baseline]
    rfl

/-- A pipe connection that no request has given a session id keeps its unnamed session, and
gets a baseline only by a subscription. -/
theorem SubscriptionInv.turn_own (inv : SubscriptionInv conn standing)
    (keeps : (keepsSubscriptions p).turn (g, names) (conn, standing) input)
    (pipe : conn.transport = .pipe) (unnamed : (standing.after names conn conn').named = false)
    (ran : turn p cfg g conn input = some (g', conn')) :
    conn'.session.id = [] ∧ (conn'.session.lastSnapId ≠ [] →
      (standing.after names conn conn').subscribed = true) := by
  have entering : ∀ req sid, conn.phase ≠ .session req sid := by
    intro req sid phase
    simp only [Standing.after, phase] at unnamed
    cases unnamed
  have fresh : standing.named = false := by
    simp only [Standing.after] at unnamed
    exact unnamed
  have id := inv.unnamed pipe fresh
  have own := inv.own pipe fresh
  cases turn_cases ran with
  | startPipe phase _ => exact ⟨rfl, fun baseline => absurd rfl baseline⟩
  | @request payload text phase read => exact inv.request_own phase pipe fresh
  | hungUp phase read =>
      simp only [Standing.after, ownAfter, phase]
      rcases leave_cases conn with ⟨_, _, left⟩ | ⟨_, _, left⟩ | ⟨_, left⟩ <;> rw [left]
      · exact ⟨id, fun baseline => by rw [own baseline]; rfl⟩
      · exact ⟨id, fun baseline => by rw [own baseline]; rfl⟩
      · exact ⟨id, fun baseline => by rw [own baseline]; rfl⟩
  | core phase surroundings ranCore =>
      simp only [Standing.after, ownAfter, phase]
      obtain ⟨next, answered⟩ := afterCore_goto conn _ _ _ _
      rw [answered]
      exact ⟨id, own⟩
  | recovered phase _ _ | tooMany phase _ _ _ | created phase _ _ _ =>
      exact absurd phase (entering _ _)
  | captureOk captures taken | captureFails captures taken =>
      rw [captures.subscribed]
      exact ⟨id, own⟩
  | subscribed phase free =>
      simp only [Standing.after, ownAfter, phase, pipe, id]
      exact ⟨id, fun _ => Bool.or_true _⟩
  | terminating phase free =>
      simp only [Standing.after, ownAfter, phase, terminate, proceed_session]
      exact ⟨trivial, own⟩
  | @storing req snap old resp fresh phase free =>
      have backed := inv.backed
      rw [phase] at backed
      have subscribed := keeps.2.2 req snap old resp fresh phase (by
        split
        · rename_i poll
          exact backed poll
        · exact Or.inl pipe)
      simp only [runsSubscribed, id, if_true] at subscribed
      simp only [Standing.after, ownAfter, phase]
      exact ⟨id, fun _ => subscribed⟩
  | @sending req resp phase =>
      simp only [Standing.after, ownAfter, phase]
      obtain ⟨crypto, written⟩ := write_eq p.bcrypt conn (serializeResponseJson resp)
      rw [written]
      exact ⟨id, own⟩
  | hangUp phase =>
      rcases phase with phase | phase <;> simp only [Standing.after, ownAfter, phase] <;>
        exact ⟨id, own⟩
  | startTcp phase _ | answered phase _ | refused phase _ | unsubscribing phase _
  | captured phase _ | evictRound phase _ | evictDone phase _ | unknownSnapshot phase _ _ _
  | pinned phase _ _ _ | findingOld phase | unpinning phase _ | leaving phase _
  | closing phase =>
      simp only [Standing.after, ownAfter, phase]
      exact ⟨id, own⟩

end

/-! ## Runs -/

section

variable {p : Platform σ} {cfg : Settings} {g g' : Shared σ} {conn conn' : Conn} {input : Input}
  {names : Finset Bytes} {standing : Standing}

theorem TableSubscribed.turn (table : TableSubscribed g.st names)
    (inv : SubscriptionInv conn standing)
    (keeps : (keepsSubscriptions p).turn (g, names) (conn, standing) input)
    (ran : turn p cfg g conn input = some (g', conn')) :
    TableSubscribed g'.st (namesAfter names conn) := by
  intro sid ps found baseline
  rcases turn_tableBaseline_cases ran found baseline with ⟨stores, rfl, named⟩ |
    ⟨⟨before, old, holds⟩, kept⟩
  · refine ⟨named, ?_⟩
    cases phase : conn.phase with
    | subscribed req base =>
        simp only [namesAfter, phase]
        exact Finset.mem_insert_self _ _
    | storing req snap old resp fresh =>
        have backed := inv.backed
        rw [phase] at backed
        have subscribed := keeps.2.2 req snap old resp fresh phase (by
          split
          · rename_i poll
            exact backed poll
          · exact Or.inr named)
        simp only [namesAfter, phase]
        simpa only [runsSubscribed, if_neg named, decide_eq_true_eq] using subscribed
    | _ =>
        rw [phase] at stores
        cases stores
  · obtain ⟨named, member⟩ := table sid before old holds
    exact ⟨named, mem_namesAfter member kept⟩

theorem TableSubscribed.outside {event : Outside σ} (table : TableSubscribed g.st names)
    (moved : outside cfg g event = some g') :
    TableSubscribed g'.st (names.filter (· ∈ g'.st.sessions)) := by
  intro sid ps found baseline
  have before : g.st.sessions.lookup sid = some ps := by
    rcases outside_cases moved with ⟨w, _, rfl⟩ | ⟨nanoseconds, _, rfl⟩ | ⟨_, _, rfl⟩
    · exact found
    · exact found
    · exact (Map.lookup_retain_eq_some_iff.mp found).1
  obtain ⟨named, member⟩ := table sid ps before baseline
  exact ⟨named, Finset.mem_filter.mpr ⟨member, Finmap.mem_of_lookup_eq_some found⟩⟩

end

theorem keeps_subscriptions (p : Platform σ) (cfg : Settings) :
    Keeps ((daemon p cfg).withAux subscriptions) (keepsSubscriptions p)
      (fun g => TableSubscribed g.1.st g.2) fun _ conn => SubscriptionInv conn.1 conn.2 where
  turn := by
    intro g conn input g' conn' table inv keeps turned
    obtain ⟨ran, marks⟩ := System.withAux_turn turned
    obtain ⟨names, standing⟩ := Prod.mk.inj marks
    rw [names, standing]
    have same := turn_transport ran
    refine ⟨table.turn inv keeps ran, inv.turn_backed table keeps ran, ?_, ?_⟩
    · intro pipe unnamed
      exact (inv.turn_own keeps (same.symm.trans pipe) unnamed ran).1
    · intro pipe unnamed
      exact (inv.turn_own keeps (same.symm.trans pipe) unnamed ran).2
  others := by
    intro g conn input g' conn' other _ _ inv _ _
    exact inv
  spawn := by
    intro g kind g' conn table _ spawned
    obtain ⟨accepted, marks⟩ := System.withAux_spawn spawned
    obtain ⟨names, standing⟩ := Prod.mk.inj marks
    obtain ⟨same, fresh⟩ := accept_st accepted
    rw [same, fresh, names, standing]
    exact ⟨table, ⟨trivial, fun _ _ => rfl, fun _ _ baseline => absurd rfl baseline⟩,
      fun _ inv => inv⟩
  env := by
    intro g event g' table _ moved
    obtain ⟨happened, marks⟩ := System.withAux_env moved
    rw [marks]
    exact ⟨table.outside happened, fun _ inv => inv⟩

/-- In every run that keeps the subscriptions, a poll without an `old_snapshot_id` is answered
`ok` only when its session is subscribed. -/
theorem poll_ok_of_subscribed (p : Platform σ) (cfg : Settings) (world : σ)
    {target : Config (Shared σ × Finset Bytes) (Conn × Standing)}
    (run : ((daemon p cfg).withAux subscriptions).Runs (keepsSubscriptions p)
      ⟨({ world := world }, ∅), []⟩ target) {conn : Conn × Standing} (member : conn ∈ target.parts)
    {req : CoreRequest} {resp : CoreResponse} (answers : conn.1.phase = .sending (some req) resp)
    (poll : PollsBaseline req) (ok : resp.ok = true) : conn.2.served = true := by
  have start : Transition.System.Everywhere (fun g => TableSubscribed g.1.st g.2)
      (fun _ conn => SubscriptionInv conn.1 conn.2)
      (⟨({ world := world }, ∅), []⟩ : Config (Shared σ × Finset Bytes) (Conn × Standing)) := by
    constructor
    · intro sid ps found
      cases found
    · intro conn member
      cases member
  have backed := ((run.invariant (keeps_subscriptions p cfg) start).2 conn member).backed
  rw [answers] at backed
  exact backed poll ok

/-! ## Two polls -/

/-- The connection is about to send the `ok` answer to a poll that relies on a baseline. -/
def Conn.answersPoll (conn : Conn) : Bool :=
  match conn.phase with
  | .sending (some req) resp => decide (PollsBaseline req) && resp.ok
  | _ => false

theorem exists_of_answersPoll {conn : Conn} (answers : conn.answersPoll = true) :
    ∃ req resp, conn.phase = .sending (some req) resp ∧ PollsBaseline req ∧ resp.ok = true := by
  unfold Conn.answersPoll at answers
  split at answers
  · rename_i req resp phase
    rw [Bool.and_eq_true, decide_eq_true_eq] at answers
    exact ⟨req, resp, phase, answers⟩
  · cases answers

/-- A poll for the session `A`, after other requests. -/
def pollsAfter (requests : List (Transition.Move Input Transport (Outside Fake.FakeState))) :
    List (Transition.Move Input Transport (Outside Fake.FakeState)) :=
  [.spawn .tcp, .turn 0 (.start none [])] ++ requests ++
    handled "events.poll" [("session_id", .str (ascii "A"))] 3 2

/-- The session has a subscription. -/
def subscribesA : List (Transition.Move Input Transport (Outside Fake.FakeState)) :=
  intercepted "events.subscribe" [("session_id", .str (ascii "A"))] 4

/-- The session has a baseline from a poll that has named its old snapshot. -/
def pollsByName : List (Transition.Move Input Transport (Outside Fake.FakeState)) :=
  intercepted "snapshot.capture" [] 4 ++
    handled "events.poll"
      [("session_id", .str (ascii "A")), ("old_snapshot_id", .str (ascii "s-1"))] 3 3

/-- Check that a step is one of TCP that stores the baseline of a poll for a subscribed session
only. -/
def subscribedCheck (config : Config (Shared Fake.FakeState × Finset Bytes) (Conn × Standing)) :
    Transition.Move Input Transport (Outside Fake.FakeState) → Bool
  | .turn index _ => config.parts[index]?.all fun conn =>
      decide (conn.1.transport = .tcp) && match conn.1.phase with
        | .storing .. => runsSubscribed config.shared.2 conn.1 conn.2.subscribed
        | _ => true
  | _ => true

theorem subscribedCheck_sound
    (config : Config (Shared Fake.FakeState × Finset Bytes) (Conn × Standing))
    (move : Transition.Move Input Transport (Outside Fake.FakeState))
    (passed : subscribedCheck config move = true) :
    (keepsSubscriptions fakePlatform).allows config move := by
  cases move with
  | turn index input =>
      intro conn found
      have passes := (Option.all_eq_true _ _).mp passed conn found
      rw [Bool.and_eq_true, decide_eq_true_eq] at passes
      obtain ⟨tcp, stores⟩ := passes
      refine ⟨?_, ?_, ?_⟩
      · intro req _ _ pipe
        rw [tcp] at pipe
        cases pipe
      · intro req sid _ _ pipe
        rw [tcp] at pipe
        cases pipe
      · intro req snap old resp fresh phase _
        rw [phase] at stores
        exact stores
  | spawn kind => trivial
  | env event => trivial

/-- A poll of a subscribed session. -/
theorem poll_ok_of_subscribed_session :
    ∃ target, ((daemon fakePlatform {}).withAux subscriptions).Runs
        (keepsSubscriptions fakePlatform) ⟨({ world := {} }, ∅), []⟩ target ∧
      ∃ conn ∈ target.parts, conn.1.session.id = ascii "A" ∧ conn.1.answersPoll = true ∧
        conn.2.served = true := by
  have passes : ((Transition.exec (Transition.checked
      ((daemon fakePlatform {}).withAux subscriptions).next subscribedCheck)
      ⟨({ world := {} }, ∅), []⟩ (pollsAfter subscribesA)).any fun target =>
        target.parts.any fun conn =>
          decide (conn.1.session.id = ascii "A") && conn.1.answersPoll) = true := by
    decide +kernel
  obtain ⟨target, executed, passes⟩ := (Option.any_eq_true _ _).mp passes
  obtain ⟨conn, member, passes⟩ := List.any_eq_true.mp passes
  rw [Bool.and_eq_true, decide_eq_true_eq] at passes
  obtain ⟨req, resp, phase, poll, ok⟩ := exists_of_answersPoll passes.2
  have run := Transition.Steps.of_checked subscribedCheck_sound executed
  exact ⟨target, run, conn, member, passes.1, passes.2,
    poll_ok_of_subscribed fakePlatform {} {} run member phase poll ok⟩

/-- A poll of a session that has never been subscribed. -/
theorem poll_ok_of_unsubscribed_session :
    ∃ target, ((daemon fakePlatform {}).withAux subscriptions).Runs {}
        ⟨({ world := {} }, ∅), []⟩ target ∧ target.shared.2 = ∅ ∧
      ∃ conn ∈ target.parts, ∃ req resp, conn.1.phase = .sending (some req) resp ∧
        PollsBaseline req ∧ resp.ok = true ∧ conn.1.session.id = ascii "A" ∧
        conn.2.served = false := by
  have passes : ((Transition.exec ((daemon fakePlatform {}).withAux subscriptions).next
      ⟨({ world := {} }, ∅), []⟩ (pollsAfter pollsByName)).any fun target =>
        decide (target.shared.2 = ∅) && target.parts.any fun conn =>
          decide (conn.1.session.id = ascii "A" ∧ conn.2.served = false) &&
            conn.1.answersPoll) = true := by
    decide +kernel
  obtain ⟨target, executed, passes⟩ := (Option.any_eq_true _ _).mp passes
  rw [Bool.and_eq_true, decide_eq_true_eq] at passes
  obtain ⟨conn, member, answers⟩ := List.any_eq_true.mp passes.2
  rw [Bool.and_eq_true, decide_eq_true_eq] at answers
  obtain ⟨req, resp, phase, poll, ok⟩ := exists_of_answersPoll answers.2
  have run := System.runs_of_exec executed
  exact ⟨target, run, passes.1, conn, member, req, resp, phase, poll, ok, answers.1⟩

end WinInspect.Daemon
