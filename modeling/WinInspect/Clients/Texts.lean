import WinInspect.Clients.Agreement

/-!
# The text of a request

The command-line client sends `make_req` of its parameters, which are a map of strings, booleans
and numbers however the loops of `main` have filled it.  The daemon reads the request back from
that text when it reads the numbers back.
-/

namespace WinInspect.Clients

open Json (Value Object)

/-- A draft that assignments of strings, booleans and numbers have made. -/
inductive Draft.Assigned : Draft → Prop
  | nil : Assigned []
  | set {draft : Draft} {value : Option Value} (key : String) (type : ParamType)
      (before : Assigned draft) (fits : ∀ v ∈ value, hasType v type = true) :
      Assigned (draft.set key value)

theorem wellFormed_of_hasType {v : Value} {type : ParamType} (fits : hasType v type = true) :
    v.WellFormed := by
  cases v with
  | null | bool _ | num _ | str _ => trivial
  | arr _ | obj _ => cases type <;> cases fits

/-- The parameters of a draft with a JSON text are its entries. -/
theorem Draft.eq_map_of_object? {draft : Draft} {params : Object}
    (json : draft.object? = some params) :
    draft = params.map fun entry => (entry.1, some entry.2) := by
  induction draft generalizing params with
  | nil =>
      cases json
      rfl
  | cons entry rest inductionHypothesis =>
      obtain ⟨key, value⟩ := entry
      cases value with
      | none => cases json
      | some value =>
          rw [object?, Option.map_eq_some_iff] at json
          obtain ⟨others, restJson, rfl⟩ := json
          rw [List.map_cons, ← inductionHypothesis restJson]

namespace Draft.Assigned

variable {draft : Draft}

theorem setText (before : draft.Assigned) (key : String) (text : Bytes) :
    (draft.setText key text).Assigned := by
  apply before.set key .str
  rintro v ⟨⟩
  rfl

theorem sorted (assigned : draft.Assigned) : Assoc.Sorted draft := by
  induction assigned with
  | nil => exact List.Pairwise.nil
  | set key type before fits inductionHypothesis => exact inductionHypothesis.assign _ _

theorem entries_wellFormed (assigned : draft.Assigned) :
    ∀ entry ∈ draft, ∀ v ∈ entry.2, v.WellFormed := by
  induction assigned with
  | nil => exact fun _ member => absurd member List.not_mem_nil
  | set key type before fits inductionHypothesis =>
      apply Assoc.forall_mem_assign
      · exact fun v member => wellFormed_of_hasType (fits v member)
      · exact inductionHypothesis

theorem wellFormed (assigned : draft.Assigned) {params : Object}
    (json : draft.object? = some params) : (Value.obj params).WellFormed := by
  have sorted := assigned.sorted
  have each := assigned.entries_wellFormed
  rw [Draft.eq_map_of_object? json] at sorted each
  rw [Assoc.Sorted, List.pairwise_map] at sorted
  refine ⟨sorted, Value.entriesWellFormed_iff.mpr fun entry member => ?_⟩
  exact each _ (List.mem_map_of_mem member) entry.2 rfl

theorem snapshotLoop (before : draft.Assigned) (args : List Bytes) :
    (snapshotLoop args draft).Assigned :=
  snapshotLoop_keeps Draft.Assigned (fun _ text before => before.setText _ text) before

theorem updateLoop (before : draft.Assigned) (args : List Bytes) :
    (updateLoop args draft).Assigned := by
  induction args, draft using Clients.updateLoop.induct with
  | case1 next rest draft inductionHypothesis =>
      rw [Clients.updateLoop, if_pos rfl]
      exact inductionHypothesis (before.setText _ next)
  | case2 next rest draft notUrl inductionHypothesis =>
      rw [Clients.updateLoop, if_neg notUrl, if_pos rfl]
      exact inductionHypothesis (before.setText _ next)
  | case3 arg next rest draft notUrl notType inductionHypothesis =>
      rw [Clients.updateLoop, if_neg notUrl, if_neg notType]
      exact inductionHypothesis before
  | case4 args draft short =>
      rw [Clients.updateLoop]
      · exact before
      · exact short

end Draft.Assigned

theorem CliArgs.draft_assigned (o : CliArgs) : o.draft.Assigned := by
  have start : (Draft.set [] "canonical" (some (.bool true))).Assigned := by
    apply Draft.Assigned.nil.set _ .bool
    rintro v ⟨⟩
    rfl
  unfold CliArgs.draft
  dsimp only
  split
  · exact start
  · exact start.setText _ _

/-- The parameters of a request come from assignments. -/
def FromDraft (req : CoreRequest) : Prop :=
  ∃ draft : Draft, draft.Assigned ∧ draft.object? = some req.params

section

variable {lib : Conversions} {argv : List Bytes} {draft : Draft} {args : List Bytes}
  {req : CoreRequest}

theorem Draft.Assigned.fromDraft {id method : String} (assigned : draft.Assigned)
    (member : req ∈ (draft.send id method).requests) : FromDraft req :=
  ⟨draft, assigned, (Draft.mem_send member).2⟩

theorem Command.fromDraft_of_run {command : Command} (start : draft.Assigned)
    (member : req ∈ (command.run lib draft args).requests) : FromDraft req := by
  obtain ⟨_, _, after, filled, json⟩ := Command.mem_run member
  have assigned : after.Assigned := by
    refine setFields_keeps Draft.Assigned (fun field _ draft arg value read before => ?_) start
      filled
    exact before.set _ _ (Kind.read_typed read)
  split at json
  · exact ⟨_, assigned.snapshotLoop _, json⟩
  · exact ⟨_, assigned, json⟩

theorem fromDraft_of_tree (start : draft.Assigned) (member : req ∈ (tree draft args).requests) :
    FromDraft req := by
  unfold tree at member
  split at member
  · exact start.fromDraft member
  · split at member
    · exact ((start.setText _ _).snapshotLoop _).fromDraft member
    · exact (start.snapshotLoop _).fromDraft member

theorem fromDraft_of_eventsPoll (start : draft.Assigned)
    (member : req ∈ (eventsPoll lib argv draft args).requests) : FromDraft req := by
  cases args with
  | nil => cases member
  | cons sid rest =>
      unfold eventsPoll at member
      dsimp only at member
      split at member
      · cases member
      · rename_i after looped
        refine Draft.Assigned.fromDraft (waitLoop_keeps Draft.Assigned ?_ ?_ looped) member
        · intro current ms before
          apply before.set _ .num
          intro v member
          obtain ⟨d, _, rfl⟩ := Option.mem_map.mp member
          rfl
        · have named := start.setText "snapshot_id" sid
          cases rest with
          | nil => exact named
          | cons old rest =>
              dsimp only
              split
              · exact named.setText _ _
              · exact named

theorem fromDraft_of_watch (start : draft.Assigned) (member : req ∈ (watch draft).requests) :
    FromDraft req := by
  unfold watch at member
  cases json : draft.object? with
  | none =>
      rw [json] at member
      cases member
  | some params =>
      rw [json] at member
      rcases List.mem_cons.mp member with rfl | later
      · exact ⟨draft, start, json⟩
      · obtain rfl := List.mem_singleton.mp later
        exact ⟨draft, start, json⟩

theorem fromDraft_of_runCli {cmd : Bytes} (start : draft.Assigned)
    (member : req ∈ (runCli lib argv draft cmd args).requests) : FromDraft req := by
  unfold runCli at member
  split at member
  · rw [discover_requests] at member
    cases member
  split at member
  · exact fromDraft_of_tree start member
  split at member
  · exact fromDraft_of_eventsPoll start member
  split at member
  · exact fromDraft_of_watch start member
  split at member
  · exact (start.updateLoop _).fromDraft member
  split at member
  · rw [config_requests] at member
    cases member
  split at member
  · cases member
  · exact Command.fromDraft_of_run start member

/-- The parameters of every request of the command-line client are a map. -/
theorem wellFormed_of_cliMain (member : req ∈ (cliMain lib argv).requests) :
    (Value.obj req.params).WellFormed := by
  unfold cliMain at member
  split at member
  · cases member
  · split at member
    · cases member
    · rename_i o _ _ _ _ _
      obtain ⟨draft, assigned, json⟩ := fromDraft_of_runCli o.draft_assigned member
      exact assigned.wellFormed json

end

theorem parseRequestJson_of_fields {stod : Json.Stod} {text : Bytes} {o : Object}
    {req : CoreRequest} (parsed : Json.parse stod text = .ok (.obj o))
    (id : o.get? "id" = some (.str req.id)) (method : o.get? "method" = some (.str req.method))
    (params : o.get? "params" = some (.obj req.params)) :
    parseRequestJson stod text = .ok req := by
  rw [parseRequestJson, parsed]
  dsimp only [Except.mapError, bind, Except.bind, need, Value.obj?]
  rw [id, method, params]
  rfl

/-- `parse_request_json` reads what `make_req` wrote. -/
theorem parse_makeReq {stod : Json.Stod} {req : CoreRequest}
    (wellFormed : (Value.obj req.params).WellFormed)
    (numbers : (Value.obj req.params).NumbersAre (Json.ReadsBack stod)) :
    parseRequestJson stod (makeReq req) = .ok req := by
  apply parseRequestJson_of_fields
  · apply Json.parse_dumps_ofFields
    simp only [List.forall_mem_cons]
    exact ⟨⟨trivial, trivial⟩, ⟨trivial, trivial⟩, ⟨wellFormed, numbers⟩, List.forall_mem_nil _⟩
  · apply Json.get?_ofFields []
    simp only [List.forall_mem_cons]
    decide
  · apply Json.get?_ofFields [_]
    simp only [List.forall_mem_cons]
    decide
  · apply Json.get?_ofFields [_, _]
    exact List.forall_mem_nil _

/-- The daemon reads every request of the command-line client as the client built it, when the
numbers of its parameters are integers of magnitude at most 2^53 whose texts it reads back. -/
theorem parse_cliMain {stod : Json.Stod} {lib : Conversions} {argv : List Bytes}
    {req : CoreRequest} (member : req ∈ (cliMain lib argv).requests)
    (numbers : (Value.obj req.params).NumbersAre (Json.ReadsBack stod)) :
    parseRequestJson stod (makeReq req) = .ok req :=
  parse_makeReq (wellFormed_of_cliMain member) numbers

/-- The request of `kill 42`. -/
def killRequest : CoreRequest where
  id := ascii "cli-1"
  method := ascii "process.kill"
  params := Json.Object.ofFields [("canonical", .bool true), ("pid", .num (Double.ofNat false 42))]

theorem parse_cliMain_kill :
    killRequest ∈ (cliMain integerConversions [ascii "kill", ascii "42"]).requests ∧
      parseRequestJson Json.integerStod (makeReq killRequest) = .ok killRequest := by
  have member : killRequest ∈
      (cliMain integerConversions [ascii "kill", ascii "42"]).requests := by decide +kernel
  refine ⟨member, parse_cliMain member ⟨trivial, ?_, trivial⟩⟩
  exact ⟨by decide +kernel, by decide +kernel⟩

end WinInspect.Clients
