import WinInspect.Daemon.Store
import WinInspect.Transition.Simulation

/-!
# Comparing runs

What two runs of the daemon are compared by: the responses of some of the connections, and
the ids of the snapshots these have stored.  Two connections do the same when their phases
are alike, up to a likeness of requests, snapshot ids and responses; the local control flow
keeps phases alike.
-/

namespace WinInspect.Daemon

open Transition (Config System Move Step)

variable {σ : Type}

/-! ## Transcripts -/

/-- A response that has been written. -/
structure Written where
  /-- The connection. -/
  index : Nat
  req : Option CoreRequest
  resp : CoreResponse

/-- What has been observed of some connections. -/
structure Transcript where
  /-- The ids of the snapshots that they have stored. -/
  issued : List Bytes := []
  answers : List Written := []

/-- The response that the next turn of a connection writes. -/
def Conn.writes (index : Nat) (conn : Conn) : List Written :=
  match conn.phase with
  | .sending req resp => [⟨index, req, resp⟩]
  | _ => []

/-- The id under which the next turn of a connection stores a snapshot. -/
def Conn.stores (g : Shared σ) (conn : Conn) : List Bytes :=
  (conn.phase.issues.map fun _ => g.st.nextSid).toList

/-- The transcript after a turn. -/
def Transcript.turn (seen : Transcript) (g : Shared σ) (index : Nat) (conn : Conn) :
    Transcript where
  issued := seen.issued ++ conn.stores g
  answers := seen.answers ++ conn.writes index

/-- The transcript after a move. -/
def Transcript.after (seen : Transcript) (owner : Nat → Bool) (config : Config (Shared σ) Conn) :
    Move Input Transport (Outside σ) → Transcript
  | .turn index _ =>
      match config.parts[index]? with
      | some conn => if owner index then seen.turn config.shared index conn else seen
      | none => seen
  | _ => seen

/-- The daemon, with a transcript of the connections that `owner` selects. -/
def observed (p : Platform σ) (cfg : Settings) (owner : Nat → Bool) :
    Step (Config (Shared σ) Conn × Transcript) (Move Input Transport (Outside σ)) :=
  fun state move => ((daemon p cfg).next state.1 move).map fun after =>
    (after, state.2.after owner state.1 move)

section

variable {p : Platform σ} {cfg : Settings} {owner : Nat → Bool}
  {config : Config (Shared σ) Conn} {seen : Transcript}

theorem observed_eq_some {move : Move Input Transport (Outside σ)}
    {after : Config (Shared σ) Conn × Transcript}
    (step : observed p cfg owner (config, seen) move = some after) :
    (daemon p cfg).next config move = some after.1 ∧ after.2 = seen.after owner config move := by
  obtain ⟨config', moved, rfl⟩ := Option.map_eq_some_iff.mp step
  exact ⟨moved, rfl⟩

theorem observed_of_next {move : Move Input Transport (Outside σ)}
    {config' : Config (Shared σ) Conn} (step : (daemon p cfg).next config move = some config') :
    observed p cfg owner (config, seen) move = some (config', seen.after owner config move) := by
  unfold observed
  rw [step]
  rfl

end

/-! ## Likeness -/

/-- When requests, snapshot ids, and responses to a request count as the same. -/
structure Likeness where
  request : CoreRequest → CoreRequest → Prop
  sid : Bytes → Bytes → Prop
  response : Option CoreRequest → CoreResponse → CoreResponse → Prop

/-- Requests that are alike take the same way through the request loop. -/
structure Likeness.Lawful (like : Likeness) : Prop where
  id : ∀ ⦃req₁ req₂⦄, like.request req₁ req₂ → req₂.id = req₁.id
  method : ∀ ⦃req₁ req₂⦄, like.request req₁ req₂ → req₂.method = req₁.method
  session : ∀ ⦃req₁ req₂⦄, like.request req₁ req₂ →
    getStr req₂.params "session_id" = getStr req₁.params "session_id"
  unnamed : ∀ ⦃req₁ req₂⦄, like.request req₁ req₂ → getStr req₁.params "snapshot_id" = none →
    getStr req₂.params "snapshot_id" = none
  refl : ∀ req resp, like.response req resp resp
  ok : ∀ ⦃req resp₁ resp₂⦄, like.response req resp₁ resp₂ → resp₂.ok = resp₁.ok

/-- Phases with the same next action on what is alike. -/
inductive Phase.Alike (like : Likeness) : Phase → Phase → Prop
  | starting : Alike like .starting .starting
  | handshake : Alike like .handshake .handshake
  | reading : Alike like .reading .reading
  | session {req₁ req₂ : CoreRequest} (req : like.request req₁ req₂) (sid : Bytes) :
      Alike like (.session req₁ sid) (.session req₂ sid)
  | subscribing {req₁ req₂ : CoreRequest} (req : like.request req₁ req₂) :
      Alike like (.subscribing req₁) (.subscribing req₂)
  | subscribed {req₁ req₂ : CoreRequest} (req : like.request req₁ req₂) (base : Snapshot) :
      Alike like (.subscribed req₁ base) (.subscribed req₂ base)
  | unsubscribing {req₁ req₂ : CoreRequest} (req : like.request req₁ req₂) :
      Alike like (.unsubscribing req₁) (.unsubscribing req₂)
  | terminating {req₁ req₂ : CoreRequest} (req : like.request req₁ req₂) :
      Alike like (.terminating req₁) (.terminating req₂)
  | capturing {req₁ req₂ : CoreRequest} (req : like.request req₁ req₂) :
      Alike like (.capturing req₁) (.capturing req₂)
  | captured {req₁ req₂ : CoreRequest} (req : like.request req₁ req₂) (s : Snapshot) :
      Alike like (.captured req₁ s) (.captured req₂ s)
  | evicting {req₁ req₂ : CoreRequest} {sid₁ sid₂ : Bytes} (req : like.request req₁ req₂)
      (sid : like.sid sid₁ sid₂) : Alike like (.evicting req₁ sid₁) (.evicting req₂ sid₂)
  | finding {req₁ req₂ : CoreRequest} (req : like.request req₁ req₂) :
      Alike like (.finding req₁) (.finding req₂)
  | findingOld {req₁ req₂ : CoreRequest} (req : like.request req₁ req₂) (snap : Snapshot) :
      Alike like (.findingOld req₁ snap) (.findingOld req₂ snap)
  | calling {req₁ req₂ : CoreRequest} (req : like.request req₁ req₂) (snap : Snapshot)
      (old : Option Snapshot) : Alike like (.calling req₁ snap old) (.calling req₂ snap old)
  | polled {req₁ req₂ : CoreRequest} {resp₁ resp₂ : CoreResponse}
      (req : like.request req₁ req₂) (snap : Snapshot) (old : Option Snapshot)
      (resp : like.response (some req₁) resp₁ resp₂) :
      Alike like (.polled req₁ snap old resp₁) (.polled req₂ snap old resp₂)
  | storing {req₁ req₂ : CoreRequest} {resp₁ resp₂ : CoreResponse}
      (req : like.request req₁ req₂) (snap : Snapshot) (old : Option Snapshot)
      (resp : like.response (some req₁) resp₁ resp₂) (fresh : Snapshot) :
      Alike like (.storing req₁ snap old resp₁ fresh) (.storing req₂ snap old resp₂ fresh)
  | sending {req₁ req₂ : Option CoreRequest} {resp₁ resp₂ : CoreResponse}
      (resp : like.response req₁ resp₁ resp₂) :
      Alike like (.sending req₁ resp₁) (.sending req₂ resp₂)
  | unpinning : Alike like .unpinning .unpinning
  | leaving : Alike like .leaving .leaving
  | closing : Alike like .closing .closing
  | closed : Alike like .closed .closed

section

variable {like : Likeness} {cfg : Settings} {req₁ req₂ : CoreRequest}

/-- The methods that use the session of the connection. -/
def usesSession (method : Bytes) : Bool :=
  method == ascii "events.subscribe" || method == ascii "events.unsubscribe" ||
    method == ascii "session.terminate" || method == ascii "events.poll"

theorem okResponse_congr (same : req₂.id = req₁.id) (result : List (String × Json.Value)) :
    okResponse req₂ result = okResponse req₁ result := by
  unfold okResponse
  rw [same]

theorem errorResponse_congr (same : req₂.id = req₁.id) (code message : String) :
    errorResponse req₂ code message = errorResponse req₁ code message := by
  unfold errorResponse
  rw [same]

theorem proceed_alike (lawful : like.Lawful) (req : like.request req₁ req₂) (conn₁ conn₂ : Conn) :
    Phase.Alike like (conn₁.proceed cfg req₁).phase (conn₂.proceed cfg req₂).phase := by
  unfold Conn.proceed
  rw [lawful.method req]
  split
  · rw [errorResponse_congr (lawful.id req)]
    exact .sending (lawful.refl _ _)
  · split
    · exact .capturing req
    · exact .finding req

theorem route_alike (lawful : like.Lawful) (req : like.request req₁ req₂) {conn₁ conn₂ : Conn}
    (same : usesSession req₁.method = true → conn₂.session.id = conn₁.session.id) :
    Phase.Alike like (conn₁.route cfg req₁).phase (conn₂.route cfg req₂).phase := by
  unfold Conn.route
  rw [lawful.method req]
  split
  · exact .subscribing req
  · split
    · rename_i unsubscribes
      dsimp only
      rw [same (by simp [usesSession, unsubscribes])]
      split
      · rw [okResponse_congr (lawful.id req)]
        exact .sending (lawful.refl _ _)
      · exact .unsubscribing req
    · by_cases terminates : req₁.method = ascii "session.terminate"
      · rw [same (by simp [usesSession, terminates])]
        split
        · exact .terminating req
        · exact proceed_alike lawful req conn₁ conn₂
      · rw [if_neg (fun h => terminates h.1), if_neg (fun h => terminates h.1)]
        exact proceed_alike lawful req conn₁ conn₂

/-- A phase alike to one that captures captures as well. -/
theorem Captures.alike (lawful : like.Lawful) {phase₁ phase₂ : Phase} {resp₁ : CoreResponse}
    {next₁ : Snapshot → Phase} (captures : Captures phase₁ resp₁ req₁ next₁)
    (alike : Phase.Alike like phase₁ phase₂) :
    ∃ resp₂ req₂ next₂, Captures phase₂ resp₂ req₂ next₂ ∧ like.request req₁ req₂ ∧
      like.response (some req₁) resp₁ resp₂ ∧ ∀ s, Phase.Alike like (next₁ s) (next₂ s) := by
  cases captures with
  | subscribing =>
      cases alike with
      | subscribing req =>
          refine ⟨_, _, _, .subscribing _, req, ?_, fun s => .subscribed req s⟩
          rw [lawful.id req]
          exact lawful.refl _ _
  | capturing =>
      cases alike with
      | capturing req =>
          refine ⟨_, _, _, .capturing _, req, ?_, fun s => .captured req s⟩
          rw [lawful.id req]
          exact lawful.refl _ _
  | finding _ unnamed =>
      cases alike with
      | finding req =>
          refine ⟨_, _, _, .finding _ (lawful.unnamed req unnamed), req, ?_,
            fun s => .findingOld req s⟩
          rw [lawful.id req]
          exact lawful.refl _ _
  | polled =>
      cases alike with
      | polled req _ _ resp =>
          exact ⟨_, _, _, .polled _ _ _ _, req, resp, fun s => .storing req _ _ resp s⟩

end

/-- The turn of a phase that captures. -/
theorem turn_of_captures {p : Platform σ} {cfg : Settings} {g : Shared σ} {conn : Conn}
    {resp : CoreResponse} {req : CoreRequest} {next : Snapshot → Phase}
    (captures : Captures conn.phase resp req next) :
    turn p cfg g conn .go = some (capture p g conn resp req next) := by
  generalize phase : conn.phase = before at captures
  cases captures with
  | finding _ unnamed => simp only [turn, onGo, phase, unnamed]
  | _ => simp only [turn, onGo, phase]

theorem capture_ok {p : Platform σ} {g : Shared σ} {s : Snapshot} {w : σ}
    (taken : p.backend.apply .captureSnapshot g.world = (.ok s, w)) (conn : Conn)
    (resp : CoreResponse) (req : CoreRequest) (next : Snapshot → Phase) :
    capture p g conn resp req next = ({ g with world := w }, conn.goto (next s)) := by
  simp only [capture, taken]

theorem capture_error {p : Platform σ} {g : Shared σ} {what : Bytes} {w : σ}
    (taken : p.backend.apply .captureSnapshot g.world = (.error what, w)) (conn : Conn)
    (resp : CoreResponse) (req : CoreRequest) (next : Snapshot → Phase) :
    capture p g conn resp req next =
      ({ g with world := w }, conn.send req (caught conn.transport resp what)) := by
  simp only [capture, taken]

/-! ## What routing leaves of a connection -/

theorem proceed_eq (cfg : Settings) (conn : Conn) (req : CoreRequest) :
    conn.proceed cfg req = conn.goto (conn.proceed cfg req).phase := by
  unfold Conn.proceed
  split
  · rfl
  · split <;> rfl

/-- The session after routing: `events.unsubscribe` clears its subscription. -/
def ClientSession.routed (session : ClientSession) (method : Bytes) : ClientSession :=
  if method = ascii "events.unsubscribe" then { session with subscribed := false, lastSnapId := [] }
  else session

theorem route_eq (cfg : Settings) (conn : Conn) (req : CoreRequest) :
    conn.route cfg req = { conn with
      session := conn.session.routed req.method, phase := (conn.route cfg req).phase } := by
  unfold Conn.route ClientSession.routed
  by_cases subscribes : req.method = ascii "events.subscribe"
  · rw [if_pos subscribes, if_neg (by rw [subscribes]; decide)]
    rfl
  · rw [if_neg subscribes]
    by_cases unsubscribes : req.method = ascii "events.unsubscribe"
    · rw [if_pos unsubscribes, if_pos unsubscribes]
      dsimp only
      split <;> rfl
    · rw [if_neg unsubscribes, if_neg unsubscribes]
      split
      · rfl
      · exact proceed_eq cfg conn req

theorem route_session (cfg : Settings) (conn : Conn) (req : CoreRequest) :
    (conn.route cfg req).session = conn.session.routed req.method :=
  congrArg Conn.session (route_eq cfg conn req)

theorem proceed_ne_session (cfg : Settings) (conn : Conn) (req other : CoreRequest) (sid : Bytes) :
    (conn.proceed cfg req).phase ≠ .session other sid := by
  unfold Conn.proceed
  split
  · nofun
  · split <;> nofun

theorem route_ne_session (cfg : Settings) (conn : Conn) (req other : CoreRequest) (sid : Bytes) :
    (conn.route cfg req).phase ≠ .session other sid := by
  unfold Conn.route
  split
  · nofun
  · split
    · dsimp only
      split <;> nofun
    · split
      · nofun
      · exact proceed_ne_session cfg conn req other sid

/-- The lookup of an old snapshot is a critical section. -/
theorem free_of_findingOld {p : Platform σ} {cfg : Settings} {g g' : Shared σ} {conn conn' : Conn}
    {req : CoreRequest} {snap : Snapshot} (phase : conn.phase = .findingOld req snap)
    (ran : turn p cfg g conn .go = some (g', conn')) {osid : Bytes}
    (old : oldSid conn req = some osid) : g.muHeld = false := by
  simp only [turn, onGo, phase, old, locked] at ran
  split at ran
  · cases ran
  · rename_i held
    simpa using held

theorem locked_of_free {g : Shared σ} (free : g.muHeld = false) (body : Shared σ × Conn) :
    locked g body = some body := by
  rw [locked, free]
  rfl

end WinInspect.Daemon
