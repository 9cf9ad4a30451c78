import WinInspect.Core.Reads
import WinInspect.Daemon.Baselines
import WinInspect.Daemon.Compare

/-!
# Runs up to the names of snapshots

The id of a snapshot depends on how many snapshots other clients have stored.  Two states
correspond up to a renaming when each pair of ids names the same snapshot in both stores,
and when the entries of some sessions and the connections of their clients agree up to the
renaming.  The second state may lack what other clients have stored.
-/

namespace WinInspect.Daemon

open Json (Value)

variable {σ : Type}

/-- The ids of the same snapshots in two runs. -/
abbrev Renaming := List (Bytes × Bytes)

/-! ## Requests and responses -/

/-- Requests for the same call that name the same snapshots. -/
structure Renamed (names : Renaming) (req₁ req₂ : CoreRequest) : Prop extends
    SameCall req₁ req₂ where
  snapshot : Option.Rel (fun a b => (a, b) ∈ names) (getStr req₁.params "snapshot_id")
    (getStr req₂.params "snapshot_id")
  oldSnapshot : Option.Rel (fun a b => (a, b) ∈ names) (getStr req₁.params "old_snapshot_id")
    (getStr req₂.params "old_snapshot_id")

/-- Equal results, or results that give the id of the same new snapshot. -/
inductive RenamedResult (names : Renaming) : Value → Value → Prop
  | same (result : Value) : RenamedResult names result result
  | issued (fields : List (String × Value)) {a b : Bytes} (named : (a, b) ∈ names) :
      RenamedResult names (object (fields ++ [("snapshot_id", .str a)]))
        (object (fields ++ [("snapshot_id", .str b)]))

/-- Responses that agree in everything but the metrics, up to the renaming; a result that
shows the logs may differ. -/
structure RenamedResponse (adminLogs : Bool) (names : Renaming) (req : Option CoreRequest)
    (resp₁ resp₂ : CoreResponse) : Prop extends SameStatus resp₁ resp₂ where
  result : RenamedResult names resp₁.result resp₂.result ∨ ∃ r, req = some r ∧ showsLogs adminLogs r

/-- Likeness up to a renaming. -/
def renamed (adminLogs : Bool) (names : Renaming) : Likeness where
  request := Renamed names
  sid a b := (a, b) ∈ names
  response := RenamedResponse adminLogs names

theorem RenamedResponse.refl (adminLogs : Bool) (names : Renaming) (req : Option CoreRequest)
    (resp : CoreResponse) : RenamedResponse adminLogs names req resp resp :=
  ⟨⟨rfl, rfl, rfl, rfl⟩, Or.inl (.same _)⟩

theorem renamed_lawful (adminLogs : Bool) (names : Renaming) :
    (renamed adminLogs names).Lawful where
  id _ _ same := same.id
  method _ _ same := same.method
  session _ _ same := same.getStr_eq "session_id" (by decide +kernel)
  unnamed := by
    intro req₁ req₂ same unnamed
    have snapshot := same.snapshot
    rw [unnamed] at snapshot
    generalize getStr req₂.params "snapshot_id" = named at snapshot ⊢
    cases snapshot
    rfl
  refl := RenamedResponse.refl adminLogs names
  ok _ _ _ same := same.ok

/-- Options that are related stay so under a weaker relation. -/
theorem rel_mono {α β : Type} {r r' : α → β → Prop} (weaker : ∀ a b, r a b → r' a b)
    {x : Option α} {y : Option β} (related : Option.Rel r x y) : Option.Rel r' x y := by
  cases related with
  | some holds => exact .some (weaker _ _ holds)
  | none => exact .none

theorem RenamedResult.mono {names names' : Renaming} (more : names ⊆ names') {v₁ v₂ : Value}
    (same : RenamedResult names v₁ v₂) : RenamedResult names' v₁ v₂ := by
  cases same with
  | same => exact .same _
  | issued fields named => exact .issued fields (more named)

section

variable {adminLogs : Bool} {names names' : Renaming} (more : names ⊆ names')

include more

theorem Renamed.mono {req₁ req₂ : CoreRequest} (same : Renamed names req₁ req₂) :
    Renamed names' req₁ req₂ where
  toSameCall := same.toSameCall
  snapshot := rel_mono (fun _ _ member => more member) same.snapshot
  oldSnapshot := rel_mono (fun _ _ member => more member) same.oldSnapshot

theorem RenamedResponse.mono {req : Option CoreRequest} {resp₁ resp₂ : CoreResponse}
    (same : RenamedResponse adminLogs names req resp₁ resp₂) :
    RenamedResponse adminLogs names' req resp₁ resp₂ where
  toSameStatus := same.toSameStatus
  result := same.result.imp_left (RenamedResult.mono more)

/-- Phases that are alike stay so when the renaming grows. -/
theorem Phase.Alike.renamed_mono {phase₁ phase₂ : Phase}
    (alike : Phase.Alike (renamed adminLogs names) phase₁ phase₂) :
    Phase.Alike (renamed adminLogs names') phase₁ phase₂ := by
  cases alike with
  | starting => exact .starting
  | handshake => exact .handshake
  | reading => exact .reading
  | session req sid => exact .session (req.mono more) sid
  | subscribing req => exact .subscribing (req.mono more)
  | subscribed req base => exact .subscribed (req.mono more) base
  | unsubscribing req => exact .unsubscribing (req.mono more)
  | terminating req => exact .terminating (req.mono more)
  | capturing req => exact .capturing (req.mono more)
  | captured req s => exact .captured (req.mono more) s
  | evicting req sid => exact .evicting (req.mono more) (more sid)
  | finding req => exact .finding (req.mono more)
  | findingOld req snap => exact .findingOld (req.mono more) snap
  | calling req snap old => exact .calling (req.mono more) snap old
  | polled req snap old resp => exact .polled (req.mono more) snap old (resp.mono more)
  | storing req snap old resp fresh =>
      exact .storing (req.mono more) snap old (resp.mono more) fresh
  | sending resp => exact .sending (resp.mono more)
  | unpinning => exact .unpinning
  | leaving => exact .leaving
  | closing => exact .closing
  | closed => exact .closed

end

/-! ## The session table -/

/-- The baseline of a session, which may be empty. -/
def SameBaseline (names : Renaming) (a b : Bytes) : Prop :=
  (a = [] ∧ b = []) ∨ (a, b) ∈ names

theorem SameBaseline.mono {names names' : Renaming} (more : names ⊆ names') {a b : Bytes}
    (same : SameBaseline names a b) : SameBaseline names' a b :=
  same.imp_right fun member => more member

/-- Entries of the session table that agree up to the renaming. -/
structure SameEntry (names : Renaming) (ps₁ ps₂ : PersistentSession) : Prop where
  lastSnapId : SameBaseline names ps₁.lastSnapId ps₂.lastSnapId
  lastActivity : ps₂.lastActivity = ps₁.lastActivity

/-- Two session tables that agree on some sessions, of which the second has no others. -/
structure TableAlike (mine : Bytes → Prop) (names : Renaming)
    (table₁ table₂ : Map Bytes PersistentSession) : Prop where
  entries : ∀ id, mine id → Option.Rel (SameEntry names) (table₁.lookup id) (table₂.lookup id)
  others : ∀ id, ¬ mine id → table₂.lookup id = none

namespace TableAlike

variable {mine : Bytes → Prop} {names names' : Renaming}
  {table₁ table₁' table₂ : Map Bytes PersistentSession}

theorem mono (more : names ⊆ names') (alike : TableAlike mine names table₁ table₂) :
    TableAlike mine names' table₁ table₂ where
  entries id own := by
    apply rel_mono _ (alike.entries id own)
    intro ps₁ ps₂ same
    exact ⟨same.lastSnapId.mono more, same.lastActivity⟩
  others := alike.others

/-- The other sessions do not count. -/
theorem left (alike : TableAlike mine names table₁ table₂)
    (same : ∀ id, mine id → table₁'.lookup id = table₁.lookup id) :
    TableAlike mine names table₁' table₂ where
  entries id own := by
    rw [same id own]
    exact alike.entries id own
  others := alike.others

theorem insert {id : Bytes} (own : mine id) (alike : TableAlike mine names table₁ table₂)
    {ps₁ ps₂ : PersistentSession} (same : SameEntry names ps₁ ps₂) :
    TableAlike mine names (table₁.insert id ps₁) (table₂.insert id ps₂) where
  entries other own' := by
    rw [Map.lookup_insert_eq, Map.lookup_insert_eq]
    split
    · exact .some same
    · exact alike.entries other own'
  others other foreign := by
    have different : other ≠ id := by
      rintro rfl
      exact foreign own
    rw [Map.lookup_insert_eq, if_neg different]
    exact alike.others other foreign

theorem modify {id : Bytes} (own : mine id) (alike : TableAlike mine names table₁ table₂)
    {change₁ change₂ : PersistentSession → PersistentSession}
    (same : ∀ ps₁ ps₂, SameEntry names ps₁ ps₂ → SameEntry names (change₁ ps₁) (change₂ ps₂)) :
    TableAlike mine names (table₁.modify id change₁) (table₂.modify id change₂) := by
  apply alike.insert own
  apply same
  have entry := alike.entries id own
  generalize table₁.lookup id = found₁ at entry ⊢
  generalize table₂.lookup id = found₂ at entry ⊢
  cases entry with
  | some holds => exact holds
  | none => exact ⟨Or.inl ⟨rfl, rfl⟩, rfl⟩

theorem erase {id : Bytes} (alike : TableAlike mine names table₁ table₂) :
    TableAlike mine names (table₁.erase id) (table₂.erase id) where
  entries other own := by
    rw [Map.lookup_erase_eq, Map.lookup_erase_eq]
    split
    · exact .none
    · exact alike.entries other own
  others other foreign := by
    rw [Map.lookup_erase_eq, alike.others other foreign]
    exact ite_self none

theorem mem_iff {id : Bytes} (own : mine id) (alike : TableAlike mine names table₁ table₂) :
    id ∈ table₂ ↔ id ∈ table₁ := by
  have entry := alike.entries id own
  rw [← Finmap.lookup_isSome, ← Finmap.lookup_isSome]
  generalize table₁.lookup id = found₁ at entry ⊢
  generalize table₂.lookup id = found₂ at entry ⊢
  cases entry <;> rfl

/-- The second table is not larger. -/
theorem card_le (alike : TableAlike mine names table₁ table₂) :
    table₂.keys.card ≤ table₁.keys.card := by
  apply Finset.card_le_card
  intro id member
  rw [Finmap.mem_keys] at member ⊢
  by_cases own : mine id
  · exact (alike.mem_iff own).mp member
  · rw [← Finmap.lookup_isSome, alike.others id own] at member
    cases member

/-- Both tables forget the same sessions. -/
theorem retain (alike : TableAlike mine names table₁ table₂) (keep : PersistentSession → Bool)
    (same : ∀ ps₁ ps₂, SameEntry names ps₁ ps₂ → keep ps₂ = keep ps₁) :
    TableAlike mine names (table₁.retain fun _ => keep) (table₂.retain fun _ => keep) where
  entries id own := by
    rw [Map.lookup_retain, Map.lookup_retain]
    have entry := alike.entries id own
    generalize table₁.lookup id = found₁ at entry ⊢
    generalize table₂.lookup id = found₂ at entry ⊢
    cases entry with
    | none => exact .none
    | @some ps₁ ps₂ holds =>
        rw [Option.filter_some, Option.filter_some, same ps₁ ps₂ holds]
        split
        · exact .some holds
        · exact .none
  others id foreign := by
    rw [Map.lookup_retain, alike.others id foreign]
    rfl

end TableAlike

/-! ## The snapshot store -/

theorem StoreInv.lookup_issue {st : ServerState} (inv : StoreInv st)
    (few : st.snapCounter < 2 ^ 64) (s : Snapshot) (sid : Bytes) :
    (st.issue s).snaps.lookup sid = if sid = st.nextSid then some s else st.snaps.lookup sid := by
  unfold ServerState.issue
  rw [Map.emplace_of_not_mem s (inv.nextSid_not_mem few)]
  exact Map.lookup_insert_eq st.nextSid sid s st.snaps

theorem StoreInv.length_touch {st : ServerState} (inv : StoreInv st) {sid : Bytes}
    (stored : sid ∈ st.snaps) : (st.touch sid).lruOrder.length = st.lruOrder.length := by
  have listed : sid ∈ st.lruOrder := (inv.mem_lruOrder_iff sid).mpr stored
  have others : (st.lruOrder.filter fun other => other ≠ sid) = st.lruOrder.erase sid := by
    rw [inv.nodup.erase_eq_filter]
    apply List.filter_congr
    intro other _
    by_cases same : other = sid <;> simp [same]
  have positive : 0 < st.lruOrder.length := List.length_pos_of_mem listed
  unfold ServerState.touch
  rw [others, List.length_append, List.length_erase_of_mem listed, List.length_singleton]
  exact Nat.sub_add_cancel positive

/-- A step that evicts nothing. -/
structure Grows (st st' : ServerState) : Prop where
  lookup : ∀ sid s, st.snaps.lookup sid = some s → st'.snaps.lookup sid = some s
  snapCounter : st.snapCounter ≤ st'.snapCounter
  length : st.lruOrder.length ≤ st'.lruOrder.length

theorem Grows.of_sameStore {st st' : ServerState} (same : SameStore st st') : Grows st st' where
  lookup sid s found := by
    rw [same.snaps]
    exact found
  snapCounter := same.snapCounter.ge
  length := by rw [same.lruOrder]

theorem Grows.issue {st st' : ServerState} (inv : StoreInv st) (few : st.snapCounter < 2 ^ 64)
    {s : Snapshot} (same : SameStore (st.issue s) st') : Grows st st' where
  lookup sid other found := by
    rw [same.snaps, inv.lookup_issue few, if_neg, found]
    rintro rfl
    exact inv.nextSid_not_mem few (Finmap.mem_of_lookup_eq_some found)
  snapCounter := by
    rw [same.snapCounter]
    exact Nat.le_succ _
  length := by
    rw [same.lruOrder]
    simp [ServerState.issue]

/-- The next turn of a connection does not have to evict. -/
def Conn.calm (cfg : Settings) (g : Shared σ) (conn : Conn) : Prop :=
  conn.phase.evicts = true → g.st.lruOrder.length ≤ cfg.maxSnapshots

theorem turn_grows {p : Platform σ} {cfg : Settings} {g g' : Shared σ} {conn conn' : Conn}
    {input : Input} (inv : StoreInv g.st) (few : g.st.snapCounter < 2 ^ 64)
    (calm : conn.calm cfg g) (ran : turn p cfg g conn input = some (g', conn')) :
    Grows g.st g'.st := by
  have change := turn_storeChange ran
  cases turn_cases ran with
  | evictRound phase full =>
      have fits := calm (by rw [phase]; rfl)
      exact absurd full (Nat.not_lt_of_le fits)
  | captured phase free | subscribed phase free | storing phase free =>
      rw [phase] at change
      cases change with
      | issue same => exact Grows.issue inv few same
  | unsubscribing phase free =>
      simp only [unsubscribe, Shared.withSt]
      split <;> exact Grows.of_sameStore ⟨rfl, rfl, rfl⟩
  | @pinned req sid snap phase named free stored =>
      cases conn.transport with
      | pipe =>
          refine ⟨fun _ _ found => found, le_refl _, ?_⟩
          exact (inv.length_touch (Finmap.mem_of_lookup_eq_some stored)).ge
      | tcp => exact Grows.of_sameStore ⟨rfl, rfl, rfl⟩
  | _ => exact Grows.of_sameStore ⟨rfl, rfl, rfl⟩

/-- Two stores that hold the same snapshots under the two names. -/
structure StoreAlike (names : Renaming) (st₁ st₂ : ServerState) : Prop where
  snaps : ∀ a b, (a, b) ∈ names →
    ∃ s, st₁.snaps.lookup a = some s ∧ st₂.snaps.lookup b = some s
  ids : ∀ a b, (a, b) ∈ names → a ≠ [] ∧ b ≠ []
  snapCounter : st₂.snapCounter ≤ st₁.snapCounter
  length : st₂.lruOrder.length ≤ st₁.lruOrder.length

namespace StoreAlike

variable {names : Renaming} {st₁ st₁' st₂ st₂' : ServerState}

/-- The first store may hold more. -/
theorem left (alike : StoreAlike names st₁ st₂) (grows : Grows st₁ st₁') :
    StoreAlike names st₁' st₂ where
  snaps a b named := by
    obtain ⟨s, found₁, found₂⟩ := alike.snaps a b named
    exact ⟨s, grows.lookup a s found₁, found₂⟩
  ids := alike.ids
  snapCounter := alike.snapCounter.trans grows.snapCounter
  length := alike.length.trans grows.length

theorem congr (alike : StoreAlike names st₁ st₂) (same₁ : SameStore st₁ st₁')
    (same₂ : SameStore st₂ st₂') : StoreAlike names st₁' st₂' where
  snaps := by
    rw [same₁.snaps, same₂.snaps]
    exact alike.snaps
  ids := alike.ids
  snapCounter := by
    rw [same₁.snapCounter, same₂.snapCounter]
    exact alike.snapCounter
  length := by
    rw [same₁.lruOrder, same₂.lruOrder]
    exact alike.length

theorem touch (alike : StoreAlike names st₁ st₂) (inv₁ : StoreInv st₁) (inv₂ : StoreInv st₂)
    {a b : Bytes} (named : (a, b) ∈ names) : StoreAlike names (st₁.touch a) (st₂.touch b) where
  snaps := alike.snaps
  ids := alike.ids
  snapCounter := alike.snapCounter
  length := by
    obtain ⟨s, found₁, found₂⟩ := alike.snaps a b named
    rw [inv₁.length_touch (Finmap.mem_of_lookup_eq_some found₁),
      inv₂.length_touch (Finmap.mem_of_lookup_eq_some found₂)]
    exact alike.length

/-- Both stores get the same snapshot, under ids that extend the renaming. -/
theorem issue (alike : StoreAlike names st₁ st₂) (inv₁ : StoreInv st₁) (inv₂ : StoreInv st₂)
    (few : st₁.snapCounter < 2 ^ 64) (s : Snapshot) :
    StoreAlike (names ++ [(st₁.nextSid, st₂.nextSid)]) (st₁.issue s) (st₂.issue s) := by
  have few₂ : st₂.snapCounter < 2 ^ 64 := alike.snapCounter.trans_lt few
  constructor
  · intro a b named
    rcases List.mem_append.mp named with old | new
    · obtain ⟨other, found₁, found₂⟩ := alike.snaps a b old
      exact ⟨other, (Grows.issue inv₁ few (SameStore.refl _)).lookup a other found₁,
        (Grows.issue inv₂ few₂ (SameStore.refl _)).lookup b other found₂⟩
    · cases List.mem_singleton.mp new
      exact ⟨s, by rw [inv₁.lookup_issue few, if_pos rfl],
        by rw [inv₂.lookup_issue few₂, if_pos rfl]⟩
  · intro a b named
    rcases List.mem_append.mp named with old | new
    · exact alike.ids a b old
    · cases List.mem_singleton.mp new
      exact ⟨nextSid_ne_nil st₁, nextSid_ne_nil st₂⟩
  · exact Nat.succ_le_succ alike.snapCounter
  · simpa [ServerState.issue] using alike.length

end StoreAlike

/-! ## What the threads share -/

/-- Shared states that agree up to the renaming, but for what other clients have stored. -/
structure SharedAlike (mine : Bytes → Prop) (names : Renaming) (g₁ g₂ : Shared σ) : Prop where
  world : g₂.world = g₁.world
  now : g₂.now = g₁.now
  store : StoreAlike names g₁.st g₂.st
  table : TableAlike mine names g₁.st.sessions g₂.st.sessions

theorem SharedAlike.withSt {mine : Bytes → Prop} {names names' : Renaming} {g₁ g₂ : Shared σ}
    (alike : SharedAlike mine names g₁ g₂) {st₁ st₂ : ServerState}
    (store : StoreAlike names' st₁ st₂) (table : TableAlike mine names' st₁.sessions st₂.sessions) :
    SharedAlike mine names' (g₁.withSt st₁) (g₂.withSt st₂) :=
  ⟨alike.world, alike.now, store, table⟩

/-- Only the session tables change. -/
theorem SharedAlike.withTable {mine : Bytes → Prop} {names : Renaming} {g₁ g₂ : Shared σ}
    (alike : SharedAlike mine names g₁ g₂) {table₁ table₂ : Map Bytes PersistentSession}
    (table : TableAlike mine names table₁ table₂) :
    SharedAlike mine names (g₁.withSt { g₁.st with sessions := table₁ })
      (g₂.withSt { g₂.st with sessions := table₂ }) :=
  alike.withSt (alike.store.congr ⟨rfl, rfl, rfl⟩ ⟨rfl, rfl, rfl⟩) table

/-- Both worlds change in the same way. -/
theorem SharedAlike.withWorld {mine : Bytes → Prop} {names : Renaming} {g₁ g₂ : Shared σ}
    (alike : SharedAlike mine names g₁ g₂) (w : σ) :
    SharedAlike mine names { g₁ with world := w } { g₂ with world := w } :=
  ⟨rfl, alike.now, alike.store, alike.table⟩

/-- The environment does the same to both. -/
theorem SharedAlike.outside {mine : Bytes → Prop} {names : Renaming} {g₁ g₁' g₂ : Shared σ}
    {cfg : Settings} {event : Outside σ} (alike : SharedAlike mine names g₁ g₂)
    (free : g₁.muHeld = false → g₂.muHeld = false) (moved : outside cfg g₁ event = some g₁') :
    ∃ g₂', WinInspect.Daemon.outside cfg g₂ event = some g₂' ∧ SharedAlike mine names g₁' g₂' := by
  rcases outside_cases moved with ⟨w, rfl, rfl⟩ | ⟨nanoseconds, rfl, rfl⟩ | ⟨rfl, free₁, rfl⟩
  · exact ⟨_, rfl, alike.withWorld w⟩
  · refine ⟨_, rfl, alike.world, ?_, alike.store, alike.table⟩
    change g₂.now + nanoseconds = g₁.now + nanoseconds
    rw [alike.now]
  · have free₂ := free free₁
    refine ⟨_, by simp only [WinInspect.Daemon.outside, free₂]; rfl, alike.withTable ?_⟩
    rw [alike.now]
    apply alike.table.retain fun ps =>
      decide ((((g₁.now - ps.lastActivity) / 10 ^ 9 : Nat) : Int) ≤ cfg.sessionTtlSec)
    intro ps₁ ps₂ same
    rw [same.lastActivity]

/-! ## Connections -/

/-- Connections whose sessions and pins agree up to the renaming. -/
structure Peers (names : Renaming) (conn₁ conn₂ : Conn) : Prop where
  transport : conn₂.transport = conn₁.transport
  id : conn₂.session.id = conn₁.session.id
  authenticated : conn₂.session.authenticated = conn₁.session.authenticated
  lastSnapId : SameBaseline names conn₁.session.lastSnapId conn₂.session.lastSnapId
  pinned : conn₂.pinnedSid = [] ↔ conn₁.pinnedSid = []

/-- Connections in corresponding states. -/
structure ConnAlike (adminLogs : Bool) (names : Renaming) (conn₁ conn₂ : Conn) : Prop extends
    Peers names conn₁ conn₂ where
  opening : conn₁.phase.opening = true →
    conn₂.crypto = conn₁.crypto ∧ conn₂.challenge = conn₁.challenge
  phase : Phase.Alike (renamed adminLogs names) conn₁.phase conn₂.phase

section

variable {adminLogs : Bool} {names names' : Renaming} {conn₁ conn₂ : Conn}

theorem Peers.mono (more : names ⊆ names') (peers : Peers names conn₁ conn₂) :
    Peers names' conn₁ conn₂ :=
  ⟨peers.transport, peers.id, peers.authenticated, peers.lastSnapId.mono more, peers.pinned⟩

theorem ConnAlike.mono (more : names ⊆ names') (alike : ConnAlike adminLogs names conn₁ conn₂) :
    ConnAlike adminLogs names' conn₁ conn₂ :=
  ⟨alike.toPeers.mono more, alike.opening, alike.phase.renamed_mono more⟩

/-- Peers that go on to phases of the request loop. -/
theorem Peers.goto (peers : Peers names conn₁ conn₂) {phase₁ phase₂ : Phase}
    (looping : phase₁.opening = false)
    (alike : Phase.Alike (renamed adminLogs names) phase₁ phase₂) :
    ConnAlike adminLogs names (conn₁.goto phase₁) (conn₂.goto phase₂) where
  toPeers := ⟨peers.transport, peers.id, peers.authenticated, peers.lastSnapId, peers.pinned⟩
  opening opens := absurd (looping.symm.trans opens) nofun
  phase := alike

theorem Peers.send (peers : Peers names conn₁ conn₂) {req₁ req₂ : CoreRequest}
    {resp₁ resp₂ : CoreResponse}
    (same : RenamedResponse adminLogs names (some req₁) resp₁ resp₂) :
    ConnAlike adminLogs names (conn₁.send req₁ resp₁) (conn₂.send req₂ resp₂) :=
  peers.goto rfl (.sending same)

theorem Peers.refresh (peers : Peers names conn₁ conn₂) :
    Peers names conn₁.refresh conn₂.refresh := by
  unfold Conn.refresh
  rw [peers.transport]
  cases transport : conn₁.transport with
  | pipe =>
      exact ⟨rfl, peers.id, peers.authenticated, peers.lastSnapId, Iff.rfl⟩
  | tcp => exact ⟨rfl, rfl, rfl, Or.inl ⟨rfl, rfl⟩, Iff.rfl⟩

variable {cfg : Settings} {req₁ req₂ : CoreRequest}

theorem Peers.proceed (peers : Peers names conn₁ conn₂) (same : Renamed names req₁ req₂) :
    ConnAlike adminLogs names (conn₁.proceed cfg req₁) (conn₂.proceed cfg req₂) := by
  rw [proceed_eq cfg conn₁, proceed_eq cfg conn₂]
  exact peers.goto (proceed_routed cfg conn₁ req₁).phase.opening
    (proceed_alike (renamed_lawful adminLogs names) same conn₁ conn₂)

theorem Peers.route (peers : Peers names conn₁ conn₂) (same : Renamed names req₁ req₂) :
    ConnAlike adminLogs names (conn₁.route cfg req₁) (conn₂.route cfg req₂) := by
  have routed : Peers names { conn₁ with session := conn₁.session.routed req₁.method }
      { conn₂ with session := conn₂.session.routed req₁.method } := by
    unfold ClientSession.routed
    split
    · exact ⟨peers.transport, peers.id, peers.authenticated, Or.inl ⟨rfl, rfl⟩, peers.pinned⟩
    · exact ⟨peers.transport, peers.id, peers.authenticated, peers.lastSnapId, peers.pinned⟩
  rw [route_eq cfg conn₁, route_eq cfg conn₂, same.method]
  exact routed.goto (route_routed cfg conn₁ req₁).phase.opening
    (route_alike (renamed_lawful adminLogs names) same fun _ => peers.id)

end

end WinInspect.Daemon
