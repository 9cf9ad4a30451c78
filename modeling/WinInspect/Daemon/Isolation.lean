import WinInspect.Daemon.Connections
import WinInspect.Daemon.Evicted
import WinInspect.Daemon.Log
import WinInspect.Daemon.Mirror
import WinInspect.Daemon.ReadOnly

/-!
# Clients do not interfere

A client sees of the others only how many snapshots they have stored, in the ids of its
own.  A run of all clients is coupled with one in which only the moves of one client and of
the environment are made.
-/

namespace WinInspect.Daemon

open Transition (Config System Move Steps Coupling)

variable {σ : Type}

/-! ## The coupling -/

/-- The condition on a turn of another client: it uses none of the sessions, evicts nothing,
and leaves the world alone. -/
structure ForeignTurn (p : Platform σ) (cfg : Settings) (mine : Bytes → Prop) (g : Shared σ)
    (conn : Conn) (input : Input) : Prop where
  few : g.st.snapCounter < 2 ^ 64
  calm : conn.calm cfg g
  enters : ∀ req sid, conn.phase = .session req sid → ¬ mine sid
  quiet : ∀ g' conn', turn p cfg g conn input = some (g', conn') → g'.world = g.world

/-- The condition on the run of all clients. -/
def considerate (p : Platform σ) (cfg : Settings) (owner : Nat → Bool) (mine : Bytes → Prop)
    (state : Config (Shared σ) Conn × Transcript) : Move Input Transport (Outside σ) → Prop
  | .turn index input => ∀ conn, state.1.parts[index]? = some conn →
      if owner index then OwnTurn cfg mine state.1.shared conn
      else ForeignTurn p cfg mine state.1.shared conn input
  | _ => True

/-- How the run without the other clients answers a move: it leaves their turns out, and
makes the others with the same input.  A request of the client names only snapshots that
the client has been given, by the ids it was given in either run. -/
inductive Removes (p : Platform σ) (owner : Nat → Bool)
    (s t : Config (Shared σ) Conn × Transcript) :
    Move Input Transport (Outside σ) → Option (Move Input Transport (Outside σ)) → Prop
  | other {index : Nat} {input : Input} (foreign : owner index = false) :
      Removes p owner s t (.turn index input) none
  | own {index : Nat} {input₁ input₂ : Input} {conn₁ conn₂ : Conn} (own : owner index = true)
      (found₁ : s.1.parts[index]? = some conn₁) (found₂ : t.1.parts[index]? = some conn₂)
      (inputs : InputAlike p (s.2.issued.zip t.2.issued) conn₁ conn₂ input₁ input₂) :
      Removes p owner s t (.turn index input₁) (some (.turn index input₂))
  | spawn (transport : Transport) : Removes p owner s t (.spawn transport) (some (.spawn transport))
  | env (event : Outside σ) : Removes p owner s t (.env event) (some (.env event))

/-- A run of all clients, and one of a single client. -/
def isolation (p : Platform σ) (cfg : Settings) (owner : Nat → Bool) (mine : Bytes → Prop) :
    Coupling (Config (Shared σ) Conn × Transcript) (Config (Shared σ) Conn × Transcript)
      (Move Input Transport (Outside σ)) (Move Input Transport (Outside σ)) where
  first := observed p cfg owner
  second := observed p cfg owner
  allowed := considerate p cfg owner mine
  reply := Removes p owner

/-- A connection in the two runs: in corresponding states if it is the client's, and not
started in the second run if it is not. -/
structure PartAlike (cfg : Settings) (mine : Bytes → Prop) (names : Renaming)
    (selected : Bool) (conn₁ conn₂ : Conn) : Prop where
  own : selected = true → ConnAlike cfg.adminLogs names conn₁ conn₂ ∧ Owns mine conn₁
  other : selected = false →
    conn₂ = { transport := conn₁.transport } ∧ Owns (fun id => ¬ mine id) conn₁

/-- Responses to the client that agree up to the renaming. -/
structure WrittenAlike (adminLogs : Bool) (names : Renaming) (first second : Written) : Prop where
  index : second.index = first.index
  response : RenamedResponse adminLogs names first.req first.resp second.resp

/-- The two runs are in corresponding states. -/
structure Isolated (p : Platform σ) (cfg : Settings) (owner : Nat → Bool) (mine : Bytes → Prop)
    (world : σ) (s t : Config (Shared σ) Conn × Transcript) : Prop where
  run₁ : (daemon p cfg).Runs {} (initial world) s.1
  run₂ : (daemon p cfg).Runs {} (initial world) t.1
  few : s.1.shared.st.snapCounter ≤ 2 ^ 64
  shared : SharedAlike mine (s.2.issued.zip t.2.issued) s.1.shared t.1.shared
  size : t.1.parts.length = s.1.parts.length
  parts : ∀ index conn₁ conn₂, s.1.parts[index]? = some conn₁ → t.1.parts[index]? = some conn₂ →
    PartAlike cfg mine (s.2.issued.zip t.2.issued) (owner index) conn₁ conn₂
  issued : t.2.issued.length = s.2.issued.length
  nodup₁ : s.2.issued.Nodup
  nodup₂ : t.2.issued.Nodup
  answers : List.Forall₂ (WrittenAlike cfg.adminLogs (s.2.issued.zip t.2.issued)) s.2.answers
    t.2.answers

/-! ## Counting -/

theorem countP_le_of_forall₂ {α β : Type} {holds₁ : α → Bool} {holds₂ : β → Bool} {l₁ : List α}
    {l₂ : List β} (implied : List.Forall₂ (fun a b => holds₂ b = true → holds₁ a = true) l₁ l₂) :
    l₂.countP holds₂ ≤ l₁.countP holds₁ := by
  induction implied with
  | nil => exact le_refl 0
  | @cons a b l₁ l₂ first _ inductionHypothesis =>
      rw [List.countP_cons, List.countP_cons]
      cases second : holds₂ b with
      | true =>
          rw [first second]
          exact Nat.add_le_add_right inductionHypothesis _
      | false => exact Nat.le_add_right_of_le inductionHypothesis

section

variable {p : Platform σ} {cfg : Settings} {owner : Nat → Bool} {mine : Bytes → Prop} {world : σ}
  {s t : Config (Shared σ) Conn × Transcript}

theorem Phase.Alike.evicts {like : Likeness} {phase₁ phase₂ : Phase}
    (alike : Phase.Alike like phase₁ phase₂) : phase₂.evicts = phase₁.evicts := by
  cases alike <;> rfl

theorem ConnAlike.counted {adminLogs : Bool} {names : Renaming} {conn₁ conn₂ : Conn}
    (alike : ConnAlike adminLogs names conn₁ conn₂) : conn₂.counted = conn₁.counted := by
  have phases := alike.phase
  unfold Conn.counted
  rw [alike.transport]
  generalize conn₁.phase = phase₁ at phases ⊢
  generalize conn₂.phase = phase₂ at phases ⊢
  cases conn₁.transport <;> cases phases <;> rfl

/-- A property that corresponding connections share and fresh ones lack. -/
theorem Isolated.countP_le (isolated : Isolated p cfg owner mine world s t) {holds : Conn → Bool}
    (alike : ∀ conn₁ conn₂, ConnAlike cfg.adminLogs (s.2.issued.zip t.2.issued) conn₁ conn₂ →
      holds conn₂ = holds conn₁)
    (fresh : ∀ transport, holds { transport := transport } = false) :
    t.1.parts.countP holds ≤ s.1.parts.countP holds := by
  apply countP_le_of_forall₂
  rw [List.forall₂_iff_get]
  refine ⟨isolated.size.symm, fun index below₁ below₂ holding => ?_⟩
  have part := isolated.parts index _ _ (List.getElem?_eq_getElem below₁)
    (List.getElem?_eq_getElem below₂)
  cases own : owner index with
  | true => exact (alike _ _ (part.own own).1).symm.trans holding
  | false =>
      simp only [List.get_eq_getElem, (part.other own).1, fresh] at holding
      cases holding

theorem Isolated.free (isolated : Isolated p cfg owner mine world s t)
    (free : s.1.shared.muHeld = false) : t.1.shared.muHeld = false := by
  have held₁ := muHeld_eq isolated.run₁
  have held₂ := muHeld_eq isolated.run₂
  have fewer := isolated.countP_le (fun _ _ alike => alike.phase.evicts) fun _ => rfl
  rw [free, Bool.toInt_false] at held₁
  cases held : t.1.shared.muHeld with
  | false => rfl
  | true =>
      rw [held, Bool.toInt_true] at held₂
      omega

theorem Isolated.active_le (isolated : Isolated p cfg owner mine world s t) :
    t.1.shared.st.activeConnections ≤ s.1.shared.st.activeConnections := by
  have fewer := isolated.countP_le (fun _ _ alike => alike.counted) fun transport => by
    cases transport <;> rfl
  rw [activeConnections_eq isolated.run₁, activeConnections_eq isolated.run₂]
  exact_mod_cast fewer

/-! ## Steps -/

theorem Isolated.inv₁ (isolated : Isolated p cfg owner mine world s t) : StoreInv s.1.shared.st :=
  storeInv_of_runs isolated.run₁ isolated.few

theorem Isolated.inv₂ (isolated : Isolated p cfg owner mine world s t) : StoreInv t.1.shared.st :=
  storeInv_of_runs isolated.run₂ (isolated.shared.store.snapCounter.trans isolated.few)

theorem PartAlike.mono {names names' : Renaming} {selected : Bool} {conn₁ conn₂ : Conn}
    (more : names ⊆ names') (alike : PartAlike cfg mine names selected conn₁ conn₂) :
    PartAlike cfg mine names' selected conn₁ conn₂ where
  own selects := ⟨(alike.own selects).1.mono more, (alike.own selects).2⟩
  other := alike.other

theorem WrittenAlike.mono {adminLogs : Bool} {names names' : Renaming} {first second : Written}
    (more : names ⊆ names') (alike : WrittenAlike adminLogs names first second) :
    WrittenAlike adminLogs names' first second :=
  ⟨alike.index, alike.response.mono more⟩

/-- A turn of another client. -/
theorem Isolated.other (isolated : Isolated p cfg owner mine world s t) {index : Nat}
    (foreign : owner index = false) {input : Input} {conn conn' : Conn} {g' : Shared σ}
    (found : s.1.parts[index]? = some conn)
    (fits : ForeignTurn p cfg mine s.1.shared conn input)
    (ran : turn p cfg s.1.shared conn input = some (g', conn')) :
    Isolated p cfg owner mine world (⟨g', s.1.parts.set index conn'⟩, s.2) t := by
  have step : (daemon p cfg).next s.1 (.turn index input) =
      some ⟨g', s.1.parts.set index conn'⟩ := System.next_turn found ran
  have below : index < t.1.parts.length := by
    rw [isolated.size]
    exact (List.getElem?_eq_some_iff.mp found).1
  obtain ⟨fresh, owns⟩ :=
    (isolated.parts index conn _ found (List.getElem?_eq_getElem below)).other foreign
  constructor
  · exact isolated.run₁.tail (System.Guard.allows_default _ _) step
  · exact isolated.run₂
  · exact (turn_storeChange ran).counter_le_succ.trans fits.few
  · exact isolated.shared.foreign isolated.inv₁ fits.few fits.calm owns fits.enters ran
      (fits.quiet g' conn' ran)
  · rw [List.length_set]
    exact isolated.size
  · intro other conn₁ conn₂ found₁ found₂
    rw [List.getElem?_set] at found₁
    split at found₁
    · rename_i same
      subst same
      rw [if_pos (by rw [← isolated.size]; exact below)] at found₁
      cases found₁
      rw [List.getElem?_eq_getElem below] at found₂
      cases found₂
      refine ⟨fun own => absurd (foreign.symm.trans own) nofun, fun _ => ⟨?_, ?_⟩⟩
      · rw [fresh, turn_transport ran]
      · exact turn_owns owns fits.enters ran
    · exact isolated.parts other conn₁ conn₂ found₁ found₂
  · exact isolated.issued
  · exact isolated.nodup₁
  · exact isolated.nodup₂
  · exact isolated.answers

theorem writes_renamed {adminLogs : Bool} {names : Renaming} {conn₁ conn₂ : Conn}
    (alike : ConnAlike adminLogs names conn₁ conn₂) (index : Nat) :
    List.Forall₂ (WrittenAlike adminLogs names) (conn₁.writes index) (conn₂.writes index) := by
  have phases := alike.phase
  unfold Conn.writes
  generalize conn₁.phase = phase₁ at phases
  generalize conn₂.phase = phase₂ at phases
  cases phases with
  | sending answer => exact .cons ⟨rfl, answer⟩ .nil
  | _ => exact .nil

/-- A new id is not one that has been given. -/
theorem nodup_stores {issued : List Bytes} (nodup : issued.Nodup) {g : Shared σ}
    (stored : ∀ sid ∈ issued, sid ∈ g.st.snaps) (inv : StoreInv g.st)
    (few : g.st.snapCounter < 2 ^ 64) (conn : Conn) : (issued ++ conn.stores g).Nodup := by
  unfold Conn.stores
  cases conn.phase.issues with
  | none => simpa using nodup
  | some s =>
      apply nodup.append (List.nodup_singleton _)
      rw [List.disjoint_singleton]
      intro member
      exact inv.nextSid_not_mem few (stored _ member)

theorem Isolated.stored (isolated : Isolated p cfg owner mine world s t) :
    (∀ sid ∈ s.2.issued, sid ∈ s.1.shared.st.snaps) ∧
      ∀ sid ∈ t.2.issued, sid ∈ t.1.shared.st.snaps := by
  constructor
  · intro sid member
    rw [← List.map_fst_zip isolated.issued.ge, List.mem_map] at member
    obtain ⟨⟨a, b⟩, named, rfl⟩ := member
    obtain ⟨s, found, _⟩ := isolated.shared.store.snaps a b named
    exact Finmap.mem_of_lookup_eq_some found
  · intro sid member
    rw [← List.map_snd_zip isolated.issued.le, List.mem_map] at member
    obtain ⟨⟨a, b⟩, named, rfl⟩ := member
    obtain ⟨s, _, found⟩ := isolated.shared.store.snaps a b named
    exact Finmap.mem_of_lookup_eq_some found

/-- A turn of the client. -/
theorem Isolated.own (isolated : Isolated p cfg owner mine world s t) {index : Nat}
    (own : owner index = true) {input₁ input₂ : Input} {conn₁ conn₁' conn₂ : Conn} {g₁' : Shared σ}
    (found₁ : s.1.parts[index]? = some conn₁) (found₂ : t.1.parts[index]? = some conn₂)
    (fits : OwnTurn cfg mine s.1.shared conn₁)
    (inputs : InputAlike p (s.2.issued.zip t.2.issued) conn₁ conn₂ input₁ input₂)
    (ran : turn p cfg s.1.shared conn₁ input₁ = some (g₁', conn₁')) :
    ∃ g₂' conn₂', turn p cfg t.1.shared conn₂ input₂ = some (g₂', conn₂') ∧
      Isolated p cfg owner mine world
        (⟨g₁', s.1.parts.set index conn₁'⟩, s.2.turn s.1.shared index conn₁)
        (⟨g₂', t.1.parts.set index conn₂'⟩, t.2.turn t.1.shared index conn₂) := by
  obtain ⟨conns, owns⟩ := (isolated.parts index conn₁ conn₂ found₁ found₂).own own
  have abreast : Abreast cfg mine (s.2.issued.zip t.2.issued) s.1.shared t.1.shared conn₁ conn₂ :=
    ⟨isolated.shared, conns, isolated.inv₁, isolated.inv₂, isolated.free, owns⟩
  obtain ⟨g₂', conn₂', turned, shared', conns'⟩ := abreast.turn fits inputs ran
  refine ⟨g₂', conn₂', turned, ?_⟩
  have few₂ : t.1.shared.st.snapCounter < 2 ^ 64 :=
    isolated.shared.store.snapCounter.trans_lt fits.few
  have zipped : (s.2.turn s.1.shared index conn₁).issued.zip
      (t.2.turn t.1.shared index conn₂).issued = s.2.issued.zip t.2.issued ++
        (conn₁.stores s.1.shared).zip (conn₂.stores t.1.shared) :=
    List.zip_append isolated.issued.symm
  have more : s.2.issued.zip t.2.issued ⊆ (s.2.turn s.1.shared index conn₁).issued.zip
      (t.2.turn t.1.shared index conn₂).issued := by
    rw [zipped]
    exact List.subset_append_left _ _
  rw [← zipped] at shared' conns'
  have step₁ : (daemon p cfg).next s.1 (.turn index input₁) =
      some ⟨g₁', s.1.parts.set index conn₁'⟩ := System.next_turn found₁ ran
  have step₂ : (daemon p cfg).next t.1 (.turn index input₂) =
      some ⟨g₂', t.1.parts.set index conn₂'⟩ := System.next_turn found₂ turned
  constructor
  · exact isolated.run₁.tail (System.Guard.allows_default _ _) step₁
  · exact isolated.run₂.tail (System.Guard.allows_default _ _) step₂
  · exact (turn_storeChange ran).counter_le_succ.trans fits.few
  · exact shared'
  · rw [List.length_set, List.length_set]
    exact isolated.size
  · intro other part₁ part₂ there₁ there₂
    rw [List.getElem?_set] at there₁ there₂
    by_cases same : index = other
    · subst same
      rw [if_pos rfl, if_pos (List.getElem?_eq_some_iff.mp found₁).1] at there₁
      rw [if_pos rfl, if_pos (List.getElem?_eq_some_iff.mp found₂).1] at there₂
      cases there₁
      cases there₂
      exact ⟨fun _ => ⟨conns', turn_owns owns fits.enters ran⟩,
        fun foreign => absurd (own.symm.trans foreign) nofun⟩
    · rw [if_neg same] at there₁ there₂
      exact (isolated.parts other part₁ part₂ there₁ there₂).mono more
  · change (t.2.issued ++ conn₂.stores t.1.shared).length =
      (s.2.issued ++ conn₁.stores s.1.shared).length
    unfold Conn.stores
    rw [conns.phase.issues, List.length_append, List.length_append, isolated.issued]
    cases conn₁.phase.issues <;> rfl
  · exact nodup_stores isolated.nodup₁ isolated.stored.1 isolated.inv₁ fits.few conn₁
  · exact nodup_stores isolated.nodup₂ isolated.stored.2 isolated.inv₂ few₂ conn₂
  · have written := List.rel_append isolated.answers (writes_renamed conns index)
    exact written.imp fun _ _ alike => alike.mono more

theorem partAlike_accepted (names : Renaming) (selected : Bool) (transport : Transport) :
    PartAlike cfg mine names selected { transport := transport } { transport := transport } where
  own _ := ⟨⟨⟨rfl, rfl, rfl, Or.inl ⟨rfl, rfl⟩, Iff.rfl⟩, fun _ => ⟨rfl, rfl⟩, .starting⟩,
    ⟨Or.inl rfl, nofun⟩⟩
  other _ := ⟨rfl, ⟨Or.inl rfl, nofun⟩⟩

/-- A connection is accepted in both runs. -/
theorem Isolated.spawn (isolated : Isolated p cfg owner mine world s t) {transport : Transport}
    {g₁' : Shared σ} {conn : Conn} (spawned : accept cfg s.1.shared transport = some (g₁', conn)) :
    ∃ g₂', accept cfg t.1.shared transport = some (g₂', conn) ∧
      Isolated p cfg owner mine world (⟨g₁', s.1.parts ++ [conn]⟩, s.2)
        (⟨g₂', t.1.parts ++ [conn]⟩, t.2) := by
  have accepted : accept cfg t.1.shared transport =
      some (t.1.shared, { transport := transport }) := by
    cases transport with
    | tcp => rfl
    | pipe =>
        simp only [accept] at spawned ⊢
        split at spawned
        · cases spawned
        · rename_i room
          exact if_neg fun full => room (full.trans isolated.active_le)
  obtain ⟨rfl, rfl⟩ := accept_st spawned
  refine ⟨t.1.shared, accepted, ?_⟩
  have step₁ : (daemon p cfg).next s.1 (.spawn transport) =
      some ⟨s.1.shared, s.1.parts ++ [{ transport := transport }]⟩ := System.next_spawn spawned
  have step₂ : (daemon p cfg).next t.1 (.spawn transport) =
      some ⟨t.1.shared, t.1.parts ++ [{ transport := transport }]⟩ := System.next_spawn accepted
  constructor
  · exact isolated.run₁.tail (System.Guard.allows_default _ _) step₁
  · exact isolated.run₂.tail (System.Guard.allows_default _ _) step₂
  · exact isolated.few
  · exact isolated.shared
  · rw [List.length_append, List.length_append, isolated.size]
  · intro index part₁ part₂ there₁ there₂
    rw [List.getElem?_append] at there₁ there₂
    rw [isolated.size] at there₂
    by_cases old : index < s.1.parts.length
    · rw [if_pos old] at there₁ there₂
      exact isolated.parts index part₁ part₂ there₁ there₂
    · rw [if_neg old] at there₁ there₂
      cases there₁.symm.trans there₂
      cases List.mem_singleton.mp (List.mem_of_getElem? there₁)
      exact partAlike_accepted _ _ transport
  · exact isolated.issued
  · exact isolated.nodup₁
  · exact isolated.nodup₂
  · exact isolated.answers

/-- The environment moves in both runs. -/
theorem Isolated.env (isolated : Isolated p cfg owner mine world s t) {event : Outside σ}
    {g₁' : Shared σ} (moved : outside cfg s.1.shared event = some g₁') :
    ∃ g₂', outside cfg t.1.shared event = some g₂' ∧
      Isolated p cfg owner mine world (⟨g₁', s.1.parts⟩, s.2) (⟨g₂', t.1.parts⟩, t.2) := by
  obtain ⟨g₂', moved₂, shared'⟩ := isolated.shared.outside isolated.free moved
  refine ⟨g₂', moved₂, ?_⟩
  have step₁ : (daemon p cfg).next s.1 (.env event) = some ⟨g₁', s.1.parts⟩ :=
    System.next_env moved
  have step₂ : (daemon p cfg).next t.1 (.env event) = some ⟨g₂', t.1.parts⟩ :=
    System.next_env moved₂
  constructor
  · exact isolated.run₁.tail (System.Guard.allows_default _ _) step₁
  · exact isolated.run₂.tail (System.Guard.allows_default _ _) step₂
  · rw [(outside_sameStore moved).snapCounter]
    exact isolated.few
  · exact shared'
  · exact isolated.size
  · exact isolated.parts
  · exact isolated.issued
  · exact isolated.nodup₁
  · exact isolated.nodup₂
  · exact isolated.answers

theorem isolated_initial (p : Platform σ) (cfg : Settings) (owner : Nat → Bool)
    (mine : Bytes → Prop) (world : σ) :
    Isolated p cfg owner mine world (initial world, {}) (initial world, {}) where
  run₁ := .refl _
  run₂ := .refl _
  few := (by decide : 1 ≤ 2 ^ 64)
  shared := {
    world := rfl
    now := rfl
    store := ⟨nofun, nofun, le_refl _, le_refl _⟩
    table := ⟨fun _ _ => .none, fun _ _ => rfl⟩ }
  size := rfl
  parts := by simp [initial]
  issued := rfl
  nodup₁ := List.nodup_nil
  nodup₂ := List.nodup_nil
  answers := .nil

/-- The run without the other clients follows. -/
theorem isolation_simulation (p : Platform σ) (cfg : Settings) (owner : Nat → Bool)
    (mine : Bytes → Prop) (world : σ) :
    (isolation p cfg owner mine).Simulation (Isolated p cfg owner mine world) := by
  rintro ⟨config₁, seen₁⟩ ⟨config₂, seen₂⟩ move ⟨after, seen₁'⟩ given isolated admitted step replied
  obtain ⟨stepped, seen⟩ := observed_eq_some step
  dsimp only at stepped seen
  subst seen
  rcases System.next_cases stepped with ⟨index, input, conn₁, g₁', conn₁', rfl, found, ran, rfl⟩ |
    ⟨transport, g₁', conn, rfl, spawned, rfl⟩ | ⟨event, g₁', rfl, moved, rfl⟩
  · have fits := admitted conn₁ found
    cases replied with
    | other foreign =>
        rw [foreign] at fits
        refine ⟨_, rfl, ?_⟩
        simp only [Transcript.after, found, foreign]
        exact isolated.other foreign found fits ran
    | own own found₁ found₂ inputs =>
        rw [own] at fits
        cases found.symm.trans found₁
        obtain ⟨g₂', conn₂', turned, after⟩ :=
          isolated.own own found found₂ fits inputs ran
        refine ⟨_, observed_of_next (System.next_turn found₂ turned), ?_⟩
        simp only [Transcript.after, found, found₂, own]
        exact after
  · cases replied
    obtain ⟨g₂', accepted, after⟩ := isolated.spawn spawned
    exact ⟨_, observed_of_next (System.next_spawn accepted), after⟩
  · cases replied
    obtain ⟨g₂', moved₂, after⟩ := isolated.env moved
    exact ⟨_, observed_of_next (System.next_env moved₂), after⟩

end

/-- Start both runs with the daemon just after start-up. -/
def twoRuns (world : σ) :
    (Config (Shared σ) Conn × Transcript) × (Config (Shared σ) Conn × Transcript) :=
  ((initial world, {}), (initial world, {}))

/-- In every run that meets the condition, with any number of clients, and in the run of one
of them alone with the same requests, up to the ids of the snapshots it was given, and the
same moves of the environment: the two lists of ids pair up one to one, the client gets
the same responses up to this renaming, but for the metrics and for results that show the
logs, and the run without the others is never stuck. -/
theorem clients_isolated (p : Platform σ) (cfg : Settings) (owner : Nat → Bool)
    (mine : Bytes → Prop) (world : σ)
    {state : (Config (Shared σ) Conn × Transcript) × (Config (Shared σ) Conn × Transcript)}
    (run : Steps (isolation p cfg owner mine).next (isolation p cfg owner mine).permits
      (twoRuns world) state) :
    (state.2.2.issued.length = state.1.2.issued.length ∧ state.1.2.issued.Nodup ∧
      state.2.2.issued.Nodup) ∧
    List.Forall₂ (WrittenAlike cfg.adminLogs (state.1.2.issued.zip state.2.2.issued))
      state.1.2.answers state.2.2.answers ∧
    ∀ move, (isolation p cfg owner mine).permits state move →
      (observed p cfg owner state.1 move.1).isSome →
        ((isolation p cfg owner mine).next state move).isSome := by
  have simulation := isolation_simulation p cfg owner mine world
  have start := isolated_initial p cfg owner mine world
  have isolated := simulation.holds start run
  refine ⟨⟨isolated.issued, isolated.nodup₁, isolated.nodup₂⟩, isolated.answers, ?_⟩
  rintro ⟨move, given⟩ ⟨admitted, replied⟩ enabled
  obtain ⟨s', stepped⟩ := Option.isSome_iff_exists.mp enabled
  obtain ⟨t', answered⟩ := simulation.enabled start run admitted stepped replied
  have first : (isolation p cfg owner mine).first state.1 move = some s' := stepped
  rw [Coupling.next, first, Option.bind_some, answered]
  rfl

/-! ## Checks -/

section

variable {names : Renaming}

def sidCheck (names : Renaming) (key : String) (params₁ params₂ : Json.Object) : Bool :=
  match getStr params₁ key, getStr params₂ key with
  | none, none => true
  | some a, some b => decide ((a, b) ∈ names)
  | _, _ => false

/-- The parameters name snapshots and nothing else. -/
def namesOnlySnapshots (params : Json.Object) : Bool :=
  params.all fun entry =>
    decide (entry.1 = ascii "snapshot_id" ∨ entry.1 = ascii "old_snapshot_id")

/-- A check of two texts: they are the same and name no snapshot, or they name nothing but
snapshots. -/
def textCheck (stod : Json.Stod) (names : Renaming) (text₁ text₂ : Bytes) : Bool :=
  match parseRequestJson stod text₁, parseRequestJson stod text₂ with
  | .ok req₁, .ok req₂ =>
      sidCheck names "snapshot_id" req₁.params req₂.params &&
      sidCheck names "old_snapshot_id" req₁.params req₂.params &&
      (decide (text₁ = text₂) || (decide (req₂.id = req₁.id ∧ req₂.method = req₁.method) &&
        namesOnlySnapshots req₁.params && namesOnlySnapshots req₂.params))
  | _, _ => false

theorem sidCheck_sound {key : String} {params₁ params₂ : Json.Object}
    (passed : sidCheck names key params₁ params₂ = true) :
    Option.Rel (fun a b => (a, b) ∈ names) (getStr params₁ key) (getStr params₂ key) := by
  unfold sidCheck at passed
  split at passed
  · rename_i first second
    rw [first, second]
    exact .none
  · rename_i first second
    rw [first, second]
    exact .some (of_decide_eq_true passed)
  · cases passed

theorem get?_of_namesOnlySnapshots {params : Json.Object}
    (passed : namesOnlySnapshots params = true) {key : String} (plain : ¬ namesSnapshot key) :
    params.get? key = none := by
  unfold Json.Object.get?
  cases found : Assoc.find (ascii key) params with
  | none => rfl
  | some value =>
      have entry := List.all_eq_true.mp passed _ (Assoc.mem_of_find found)
      exact absurd (of_decide_eq_true entry) plain

theorem textCheck_sound {stod : Json.Stod} {text₁ text₂ : Bytes}
    (passed : textCheck stod names text₁ text₂ = true) : TextAlike stod names text₁ text₂ := by
  unfold textCheck at passed
  split at passed
  · rename_i req₁ req₂ parsed₁ parsed₂
    simp only [Bool.and_eq_true, Bool.or_eq_true, decide_eq_true_eq] at passed
    obtain ⟨⟨snapshot, old⟩, rest⟩ := passed
    refine .request parsed₁ parsed₂ ⟨?_, sidCheck_sound snapshot, sidCheck_sound old⟩
    rcases rest with same | ⟨⟨⟨id, method⟩, only₁⟩, only₂⟩
    · subst same
      cases parsed₁.symm.trans parsed₂
      exact ⟨rfl, rfl, fun _ _ => rfl⟩
    · refine ⟨id, method, fun key plain => ?_⟩
      rw [get?_of_namesOnlySnapshots only₁ plain, get?_of_namesOnlySnapshots only₂ plain]
  · cases passed

/-- A check of two inputs. -/
def inputCheck (p : Platform σ) (names : Renaming) (conn₁ conn₂ : Conn) : Input → Input → Bool
  | .start keyPair₁ nonce₁, .start keyPair₂ nonce₂ => decide (keyPair₁ = keyPair₂ ∧ nonce₁ = nonce₂)
  | .frame payload₁, .frame payload₂ =>
      match conn₁.phase, payload₁.bind (conn₁.textOf p.bcrypt),
          payload₂.bind (conn₂.textOf p.bcrypt) with
      | .reading, some text₁, some text₂ => textCheck p.stod names text₁ text₂
      | _, _, _ => false
  | .core timedOut₁ _ _ _, .core timedOut₂ _ _ _ => decide (timedOut₁ = timedOut₂)
  | .go, .go => true
  | _, _ => false

theorem inputCheck_sound {p : Platform σ} {conn₁ conn₂ : Conn} {input₁ input₂ : Input}
    (passed : inputCheck p names conn₁ conn₂ input₁ input₂ = true) :
    InputAlike p names conn₁ conn₂ input₁ input₂ := by
  unfold inputCheck at passed
  split at passed
  · obtain ⟨rfl, rfl⟩ := of_decide_eq_true passed
    exact .start _ _
  · split at passed
    · rename_i reading read₁ read₂
      apply InputAlike.request reading
      rw [read₁, read₂]
      exact .some (textCheck_sound passed)
    · cases passed
  · cases of_decide_eq_true passed
    exact .core _ _ _ _ _ _ _
  · exact .go
  · cases passed

end

section

variable {cfg : Settings} {owner : Nat → Bool} {mine : Bytes → Bool}
  {p : Platform Fake.FakeState}

/-- A check of a turn over the fake backend: another client calls no method that can change
the world. -/
def turnCheck (cfg : Settings) (mine : Bytes → Bool) (own : Bool) (g : Shared Fake.FakeState)
    (conn : Conn) : Bool :=
  decide (g.st.snapCounter < 2 ^ 64) &&
  match conn.phase with
  | .evicting _ _ => decide (g.st.lruOrder.length ≤ cfg.maxSnapshots)
  | .session _ sid =>
      if own then mine sid && decide (g.st.sessions.lookup sid = none →
        ¬ (conn.transport = .tcp ∧ cfg.maxSessions ≤ g.st.sessions.keys.card))
      else !mine sid
  | .calling req _ _ =>
      own || decide (req.method ∉ (["window.ensureVisible", "window.ensureForeground"] ++
        Fake.injecting).map ascii)
  | _ => true

theorem calm_of_turnCheck {own : Bool} {g : Shared Fake.FakeState} {conn : Conn}
    (passed : turnCheck cfg mine own g conn = true) : conn.calm cfg g := by
  intro evicts
  obtain ⟨req, sid, phase⟩ := Phase.exists_of_evicts evicts
  simp only [turnCheck, phase, Bool.and_eq_true, decide_eq_true_eq] at passed
  exact passed.2

theorem ownTurn_of_turnCheck {g : Shared Fake.FakeState} {conn : Conn}
    (passed : turnCheck cfg mine true g conn = true) :
    OwnTurn cfg (fun id => mine id = true) g conn where
  few := of_decide_eq_true (Bool.and_eq_true_iff.mp passed).1
  calm := calm_of_turnCheck passed
  enters req sid phase := by
    simp only [turnCheck, phase, Bool.and_eq_true, if_true] at passed
    exact passed.2.1
  uncapped req sid phase := by
    simp only [turnCheck, phase, Bool.and_eq_true, if_true, decide_eq_true_eq] at passed
    exact passed.2.2

theorem foreignTurn_of_turnCheck (fake : p.backend = Fake.fakeBackend) {g : Shared Fake.FakeState}
    {conn : Conn} (passed : turnCheck cfg mine false g conn = true) (input : Input) :
    ForeignTurn p cfg (fun id => mine id = true) g conn input where
  few := of_decide_eq_true (Bool.and_eq_true_iff.mp passed).1
  calm := calm_of_turnCheck passed
  enters req sid phase := by
    simp only [turnCheck, phase, Bool.and_eq_true] at passed
    simpa using passed.2
  quiet g' conn' ran := by
    rcases turn_world fake ran with ⟨req, snap, old, env, phase, engine⟩ | ⟨_, same⟩
    · rw [engine, fake, Fake.handleBody_state_iff env snap]
      simp only [turnCheck, phase, Bool.and_eq_true, Bool.false_or, decide_eq_true_eq] at passed
      exact Fake.not_mutates_of_method passed.2
    · exact same

/-- A check of a coupled move. -/
def isolationCheck (p : Platform Fake.FakeState) (cfg : Settings) (owner : Nat → Bool)
    (mine : Bytes → Bool)
    (state : (Config (Shared Fake.FakeState) Conn × Transcript) ×
      (Config (Shared Fake.FakeState) Conn × Transcript)) :
    Move Input Transport (Outside Fake.FakeState) ×
      Option (Move Input Transport (Outside Fake.FakeState)) → Bool
  | (.turn index _, none) =>
      !owner index &&
        state.1.1.parts[index]?.all (turnCheck cfg mine false state.1.1.shared)
  | (.turn index input₁, some (.turn index₂ input₂)) =>
      decide (index₂ = index) && owner index &&
        match state.1.1.parts[index]?, state.2.1.parts[index]? with
        | some conn₁, some conn₂ =>
            turnCheck cfg mine true state.1.1.shared conn₁ &&
              inputCheck p (state.1.2.issued.zip state.2.2.issued) conn₁ conn₂ input₁ input₂
        | _, _ => false
  | (.spawn transport, some (.spawn transport₂)) => decide (transport₂ = transport)
  | _ => false

theorem isolationCheck_sound (fake : p.backend = Fake.fakeBackend)
    (state : (Config (Shared Fake.FakeState) Conn × Transcript) ×
      (Config (Shared Fake.FakeState) Conn × Transcript))
    (move : Move Input Transport (Outside Fake.FakeState) ×
      Option (Move Input Transport (Outside Fake.FakeState)))
    (passed : isolationCheck p cfg owner mine state move = true) :
    (isolation p cfg owner fun id => mine id = true).permits state move := by
  unfold isolationCheck at passed
  split at passed
  · rename_i index input
    obtain ⟨foreign, turns⟩ := Bool.and_eq_true_iff.mp passed
    have other : owner index = false := by simpa using foreign
    refine ⟨fun conn found => ?_, .other other⟩
    rw [found, Option.all_some] at turns
    rw [other]
    exact foreignTurn_of_turnCheck fake turns input
  · rename_i index input₁ index₂ input₂
    simp only [Bool.and_eq_true, decide_eq_true_eq] at passed
    obtain ⟨⟨rfl, own⟩, rest⟩ := passed
    split at rest
    · rename_i conn₁ conn₂ found₁ found₂
      obtain ⟨turns, inputs⟩ := Bool.and_eq_true_iff.mp rest
      refine ⟨fun conn found => ?_, .own own found₁ found₂ (inputCheck_sound inputs)⟩
      cases found₁.symm.trans found
      rw [own]
      exact ownTurn_of_turnCheck turns
    · cases rest
  · cases of_decide_eq_true passed
    exact ⟨trivial, .spawn _⟩
  · cases passed

end

/-! ## Two clients -/

/-- A coupled move over the fake backend. -/
abbrev Coupled :=
  Move Input Transport (Outside Fake.FakeState) ×
    Option (Move Input Transport (Outside Fake.FakeState))

/-- The first client makes the same turns in both runs. -/
def bothRuns (inputs : List Input) : List Coupled :=
  inputs.map fun input => (.turn 0 input, some (.turn 0 input))

/-- The second client makes turns in the first run only. -/
def firstRun (inputs : List Input) : List Coupled :=
  inputs.map fun input => (.turn 1 input, none)

/-- Two TCP clients connect. -/
def connectTwo : List Coupled :=
  [(.spawn .tcp, some (.spawn .tcp)), (.spawn .tcp, some (.spawn .tcp))] ++
    bothRuns [.start none []] ++ firstRun [.start none []]

/-- The frame of a request. -/
def requestFrame (method : String) (params : List (String × Json.Value)) : Input :=
  .frame (some (requestText "1" method params))

/-- Both clients subscribe, each for a session of its own; the second one also captures.
Then the first client names the baseline it was given, and polls. -/
def twoClients : List Coupled :=
  connectTwo ++
  firstRun [requestFrame "events.subscribe" [("session_id", .str (ascii "B"))],
    .go, .go, .go, .go] ++
  bothRuns [requestFrame "events.subscribe" [("session_id", .str (ascii "A"))],
    .go, .go, .go, .go] ++
  firstRun [requestFrame "snapshot.capture" [], .go, .go, .go, .go] ++
  [(.turn 0 (requestFrame "window.listTop" [("snapshot_id", .str (ascii "s-2"))]),
    some (.turn 0 (requestFrame "window.listTop" [("snapshot_id", .str (ascii "s-1"))])))] ++
  bothRuns [.go, .go, .core false [] 0 0, .go, .go,
    requestFrame "events.poll" [("session_id", .str (ascii "A"))], .go, .go, .go,
    .core false [] 0 0, .go, .go, .go]

/-- The first client has the session `A`. -/
def coupledRun (cfg : Settings) (moves : List Coupled) :
    Option ((Config (Shared Fake.FakeState) Conn × Transcript) ×
      (Config (Shared Fake.FakeState) Conn × Transcript)) :=
  Transition.exec (Transition.checked
    (isolation fakePlatform cfg (fun index => index == 0) fun id => id == ascii "A").next
    (isolationCheck fakePlatform cfg (fun index => index == 0) fun id => id == ascii "A"))
    (twoRuns {}) moves

theorem twoClients_ends :
    ((coupledRun {} twoClients).any fun state => decide (
      state.1.2.issued = [ascii "s-2", ascii "s-4"] ∧
        state.2.2.issued = [ascii "s-1", ascii "s-2"] ∧ state.1.2.answers.length = 3)) = true := by
  decide +kernel

theorem twoClients_enabled : (coupledRun {} twoClients).isSome :=
  Option.isSome_of_any twoClients_ends

theorem clients_isolated_twoClients :
    let state := (coupledRun {} twoClients).get twoClients_enabled
    (state.1.2.issued = [ascii "s-2", ascii "s-4"] ∧
      state.2.2.issued = [ascii "s-1", ascii "s-2"] ∧ state.1.2.answers.length = 3) ∧
    List.Forall₂ (WrittenAlike false (state.1.2.issued.zip state.2.2.issued))
      state.1.2.answers state.2.2.answers :=
  ⟨Transition.get_of_any twoClients_ends twoClients_enabled,
    (clients_isolated fakePlatform {} (fun index => index == 0) (fun id => (id == ascii "A") = true)
      {} (Steps.of_checked (isolationCheck_sound rfl)
        (Option.some_get twoClients_enabled).symm)).2.1⟩

/-- The second client asks for a method that does not exist, and the first one for the logs.
The engines read the logs of their own runs. -/
def spying : List Coupled :=
  connectTwo ++
  firstRun [requestFrame "spy" [], .go, .go, .core false [] 0 0, .go] ++
  bothRuns [requestFrame "daemon.logs" [], .go, .go] ++
  [(.turn 0 (.core false [⟨.warn, ascii "2026-01-01 00:00:00",
      ascii "Method not implemented: spy"⟩] 0 0),
    some (.turn 0 (.core false [] 0 0)))] ++
  bothRuns [.go]

/-- A run of the daemon with its logger. -/
def loggedRun (cfg : Settings) (moves : List (Move Input Transport (Outside Fake.FakeState))) :
    Option (Config (Shared Fake.FakeState) Conn × Logger) :=
  Transition.exec (logged fakePlatform cfg) (initial {}, {})
    (moves.map fun move =>
      .move move (ascii "2026-01-01 00:00:00") (ascii "2026-01-01 00:00:00") [])

/-- The messages that a response shows. -/
def shownMessages (written : Written) : List Bytes :=
  (written.resp.result.arr?.getD []).filterMap fun entry =>
    entry.obj?.bind fun fields => getStr fields "message"

theorem spying_ends :
    ((coupledRun { adminLogs := true } spying).any fun state => decide (
      state.1.2.answers.map shownMessages = [[ascii "Method not implemented: spy"]] ∧
        state.2.2.answers.map shownMessages = [[]])) = true := by
  decide +kernel

theorem spying_enabled : (coupledRun { adminLogs := true } spying).isSome :=
  Option.isSome_of_any spying_ends

/-- With the logs enabled, the first client sees a request of the second one. -/
theorem logs_show_others :
    let state := (coupledRun { adminLogs := true } spying).get spying_enabled
    Steps (isolation fakePlatform { adminLogs := true } (fun index => index == 0)
        fun id => (id == ascii "A") = true).next
      (isolation fakePlatform { adminLogs := true } (fun index => index == 0)
        fun id => (id == ascii "A") = true).permits (twoRuns {}) state ∧
    ((loggedRun { adminLogs := true } (spying.map Prod.fst)).isSome ∧
      (loggedRun { adminLogs := true } (spying.filterMap Prod.snd)).isSome) ∧
    state.1.2.answers.map shownMessages = [[ascii "Method not implemented: spy"]] ∧
    state.2.2.answers.map shownMessages = [[]] :=
  ⟨Steps.of_checked (isolationCheck_sound rfl) (Option.some_get spying_enabled).symm,
    by decide +kernel, Transition.get_of_any spying_ends spying_enabled⟩

end WinInspect.Daemon
