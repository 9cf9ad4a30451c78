import WinInspect.Clients.Commands
import WinInspect.Core.Signatures
import WinInspect.Daemon.Requests

/-!
# The requests of the clients and the daemon

A request is served when the request loops or the dispatch table have its method and the handler
does not reject it for a parameter that is missing or has another type.  For a command of the
table of the command-line client this is a comparison of two tables: the parameters that its
arguments fill, and those that its method requires.  The portable client is compared in the same
way, with every argument a string.
-/

namespace WinInspect.Clients

open Json (Value Object)
open Daemon (answeredByLoop)

/-! ## What the parameters have -/

/-- A value of the type. -/
def hasType (value : Value) : ParamType → Bool
  | .str => value.str?.isSome
  | .bool => value.bool?.isSome
  | .num => value.num?.isSome

theorem hasParam_eq (o : Object) (key : String) (type : ParamType) :
    hasParam o key type = (o.get? key).any fun value => hasType value type := by
  cases type with
  | str => rw [hasParam, getStr]; cases o.get? key <;> rfl
  | bool => rw [hasParam, getBool]; cases o.get? key <;> rfl
  | num => rw [hasParam, getNum]; cases o.get? key <;> rfl

def Kind.type : Kind → ParamType
  | .text => .str
  | .number => .num
  | .address => .num
  | .flag => .bool

namespace Draft

/-- The parameter is set, and to a value of the type when it has a JSON value. -/
def Typed (draft : Draft) (key : String) (type : ParamType) : Prop :=
  ∃ value, Assoc.find (ascii key) draft = some value ∧ ∀ v ∈ value, hasType v type = true

theorem find_of_object? {draft : Draft} {params : Object} (json : draft.object? = some params)
    (key : Bytes) : Assoc.find key draft = (Assoc.find key params).map some := by
  induction draft generalizing params with
  | nil =>
      cases json
      rfl
  | cons entry rest inductionHypothesis =>
      obtain ⟨other, value⟩ := entry
      cases value with
      | none => cases json
      | some value =>
          rw [object?, Option.map_eq_some_iff] at json
          obtain ⟨others, restJson, rfl⟩ := json
          rw [Assoc.find_cons, Assoc.find_cons, inductionHypothesis restJson]
          split <;> rfl

theorem Typed.hasParam {draft : Draft} {params : Object} {key : String} {type : ParamType}
    (typed : draft.Typed key type) (json : draft.object? = some params) :
    hasParam params key type = true := by
  obtain ⟨value, found, fits⟩ := typed
  rw [find_of_object? json, Option.map_eq_some_iff] at found
  obtain ⟨v, stored, rfl⟩ := found
  have read : params.get? key = some v := stored
  rw [hasParam_eq, read]
  exact fits v rfl

theorem typed_set_self {draft : Draft} {key : String} {value : Option Value} {type : ParamType}
    (fits : ∀ v ∈ value, hasType v type = true) : (draft.set key value).Typed key type :=
  ⟨value, Assoc.find_assign_self _ _ _, fits⟩

theorem Typed.set {draft : Draft} {key other : String} {type : ParamType}
    (typed : draft.Typed key type) (different : ascii key ≠ ascii other) (value : Option Value) :
    (draft.set other value).Typed key type := by
  obtain ⟨old, found, fits⟩ := typed
  exact ⟨old, (Assoc.find_assign_of_ne different _ _).trans found, fits⟩

theorem find_set_of_ne {draft : Draft} {key other : String} (different : ascii other ≠ ascii key)
    (value : Option Value) :
    Assoc.find (ascii other) (draft.set key value) = Assoc.find (ascii other) draft :=
  Assoc.find_assign_of_ne different _ _

end Draft

theorem Kind.read_typed {lib : Conversions} {kind : Kind} {arg : Bytes} {value : Option Value}
    (read : kind.read lib arg = .ok value) : ∀ v ∈ value, hasType v kind.type = true := by
  cases kind with
  | text | flag =>
      cases read
      rintro v ⟨⟩
      rfl
  | number =>
      rw [Kind.read] at read
      cases converted : lib.stod arg with
      | error what =>
          rw [converted] at read
          cases read
      | ok d =>
          rw [converted] at read
          cases read
          intro v member
          obtain ⟨d, _, rfl⟩ := Option.mem_map.mp member
          rfl
  | address =>
      rw [Kind.read] at read
      cases converted : lib.stoull arg with
      | error what =>
          rw [converted] at read
          cases read
      | ok n =>
          rw [converted] at read
          cases read
          rintro v ⟨⟩
          rfl

/-! ## What the loops keep -/

section

variable {lib : Conversions} (property : Draft → Prop) {draft after : Draft}

/-- The first step of filling the parameters. -/
theorem setFields_cons {field : String × Kind} {fields : List (String × Kind)} {arg : Bytes}
    {args : List Bytes}
    (filled : setFields lib (field :: fields) (arg :: args) draft = .ok after) :
    ∃ value, field.2.read lib arg = .ok value ∧
      setFields lib fields args (draft.set field.1 value) = .ok after := by
  rw [setFields] at filled
  cases read : field.2.read lib arg with
  | error what =>
      rw [read] at filled
      cases filled
  | ok value =>
      rw [read] at filled
      exact ⟨value, rfl, filled⟩

theorem setFields_keeps {fields : List (String × Kind)} {args : List Bytes}
    (set : ∀ field ∈ fields, ∀ draft arg value, field.2.read lib arg = .ok value →
      property draft → property (draft.set field.1 value))
    (start : property draft) (filled : setFields lib fields args draft = .ok after) :
    property after := by
  induction fields generalizing args draft with
  | nil =>
      cases filled
      exact start
  | cons field fields inductionHypothesis =>
      cases args with
      | nil =>
          cases filled
          exact start
      | cons arg args =>
          obtain ⟨value, read, rest⟩ := setFields_cons filled
          rw [List.forall_mem_cons] at set
          exact inductionHypothesis set.2 (set.1 draft arg value read start) rest

theorem snapshotLoop_keeps
    (set : ∀ draft text, property draft → property (draft.setText "snapshot_id" text))
    {args : List Bytes} (start : property draft) : property (snapshotLoop args draft) := by
  induction args, draft using snapshotLoop.induct with
  | case1 next rest draft inductionHypothesis =>
      rw [snapshotLoop, if_pos rfl]
      exact inductionHypothesis (set draft next start)
  | case2 arg next rest draft notOption inductionHypothesis =>
      rw [snapshotLoop, if_neg notOption]
      exact inductionHypothesis start
  | case3 args draft short =>
      rw [snapshotLoop]
      · exact start
      · exact short

theorem waitLoop_keeps
    (set : ∀ draft (ms : Option Double), property draft →
      property (draft.set "wait_ms" (ms.map .num)))
    {argv : List Bytes} (start : property draft) (looped : waitLoop lib argv draft = .ok after) :
    property after := by
  induction argv, draft using waitLoop.induct with
  | case1 next rest draft inductionHypothesis =>
      rw [waitLoop, if_pos rfl] at looped
      cases read : lib.stod next with
      | error what =>
          rw [read] at looped
          cases looped
      | ok ms =>
          rw [read] at looped
          exact inductionHypothesis ms (set draft ms start) looped
  | case2 arg next rest draft notOption inductionHypothesis =>
      rw [waitLoop, if_neg notOption] at looped
      exact inductionHypothesis start looped
  | case3 argv draft short =>
      rw [waitLoop] at looped
      · cases looped
        exact start
      · exact short

end

section

variable {lib : Conversions} {key : String} {type : ParamType}

theorem Draft.Typed.setFields {fields : List (String × Kind)} {args : List Bytes}
    {draft after : Draft} (typed : draft.Typed key type)
    (others : ascii key ∉ fields.map fun field => ascii field.1)
    (filled : setFields lib fields args draft = .ok after) : after.Typed key type := by
  refine setFields_keeps (·.Typed key type) (fun field member draft _ value _ typed => ?_) typed
    filled
  refine typed.set (fun same => ?_) value
  rw [same] at others
  exact others (List.mem_map_of_mem member)

/-- A parameter for which there is an argument is set to a value of its kind. -/
theorem typed_of_setFields {fields : List (String × Kind)} {args : List Bytes}
    {draft after : Draft} {kind : Kind} (distinct : (fields.map fun field => ascii field.1).Nodup)
    (member : (key, kind) ∈ fields.take args.length)
    (filled : setFields lib fields args draft = .ok after) : after.Typed key kind.type := by
  induction fields generalizing args draft with
  | nil => simp at member
  | cons field fields inductionHypothesis =>
      cases args with
      | nil => simp at member
      | cons arg args =>
          rw [List.map_cons, List.nodup_cons] at distinct
          obtain ⟨value, read, rest⟩ := setFields_cons filled
          rw [List.length_cons, List.take_succ_cons] at member
          rcases List.mem_cons.mp member with rfl | later
          · exact (Draft.typed_set_self (Kind.read_typed read)).setFields distinct.1 rest
          · exact inductionHypothesis distinct.2 later rest

theorem Draft.Typed.snapshotLoop {args : List Bytes} {draft : Draft}
    (typed : draft.Typed key type) (other : ascii key ≠ ascii "snapshot_id") :
    (snapshotLoop args draft).Typed key type :=
  snapshotLoop_keeps (·.Typed key type) (fun _ _ typed => typed.set other _) typed

end

/-! ## Fitting requests -/

/-- The daemon has the method of the request, and its handler does not reject the request for a
parameter that is missing or has another type. -/
def Serves {σ : Type} (backend : Backend σ) (env : Surroundings) (durationMs : Int)
    (req : CoreRequest) (snapshot : Snapshot) (old : Option Snapshot) (world : σ) : Prop :=
  req.method ∈ answeredByLoop ∨
    (handle backend env durationMs req snapshot old world).1.errorCode ≠ ascii "E_BAD_METHOD" ∧
      ¬ Rejects req old

section

variable {σ : Type} (backend : Backend σ) (env : Surroundings) (durationMs : Int)
  {req : CoreRequest} (snapshot : Snapshot) (old : Option Snapshot) (world : σ)

theorem serves_iff (engine : req.method ∉ answeredByLoop) :
    Serves backend env durationMs req snapshot old world ↔
      signature req.method ≠ none ∧ ¬ Rejects req old := by
  have known : dispatch req.method = none ↔ signature req.method = none := by
    rcases lookup_cases req.method with ⟨left, right⟩ | ⟨_, _, left, right, _⟩
    · exact iff_of_true left right
    · rw [left, right]
      exact iff_of_false nofun nofun
  unfold Serves
  rw [or_iff_right engine, ne_eq, handle_badMethod_iff, known]

theorem not_serves_of_unknown (engine : req.method ∉ answeredByLoop)
    (unknown : signature req.method = none) :
    ¬ Serves backend env durationMs req snapshot old world := by
  rw [serves_iff backend env durationMs snapshot old world engine]
  exact fun served => served.1 unknown

theorem serves_iff_provides {params : List (String × ParamType)}
    (engine : req.method ∉ answeredByLoop) (other : req.method ≠ ascii "events.poll")
    (known : signature req.method = some params) :
    Serves backend env durationMs req snapshot old world ↔ Provides req.params params := by
  rw [serves_iff backend env durationMs snapshot old world engine, rejects_iff other known, known,
    not_not]
  exact and_iff_right nofun

theorem serves_poll_iff (poll : req.method = ascii "events.poll") :
    Serves backend env durationMs req snapshot old world ↔
      (getStr req.params "old_snapshot_id").isSome = true ∨ old ≠ none := by
  have known : signature req.method = some [] := by
    rw [poll]
    rfl
  rw [serves_iff backend env durationMs snapshot old world (by rw [poll]; decide),
    rejects_poll_iff poll, known, not_and_or, or_comm, Option.isSome_iff_ne_none]
  exact and_iff_right nofun

end

/-! ## The requests of the command-line client -/

theorem Draft.mem_send {draft : Draft} {id method : String} {req : CoreRequest}
    (member : req ∈ (draft.send id method).requests) :
    req.method = ascii method ∧ draft.object? = some req.params := by
  unfold Draft.send at member
  cases json : draft.object? with
  | none =>
      rw [json] at member
      cases member
  | some params =>
      rw [json] at member
      obtain rfl := List.mem_singleton.mp member
      exact ⟨rfl, rfl⟩

/-- Each of the parameters is filled, with its type, by an argument that must be there. -/
def Command.covers (command : Command) (params : List (String × ParamType)) : Bool :=
  params.all fun param => (command.fields.take command.needed).any fun field =>
    field.1 == param.1 && field.2.type == param.2

/-- The methods of `tree` and `update`. -/
def freeMethods : List Bytes :=
  [ascii "window.getTree", ascii "daemon.downloadUpdate"]

/-- The methods of the commands against the parameters the commands fill. -/
theorem commands_checked :
    (∀ entry ∈ commands,
      if ascii entry.1 = ascii "status" then
        ascii entry.2.method ∉ answeredByLoop ∧ signature (ascii entry.2.method) = none
      else
        ascii entry.2.method ∈ answeredByLoop ∨
          ascii entry.2.method ≠ ascii "events.poll" ∧
            (signature (ascii entry.2.method)).any entry.2.covers = true) ∧
    ∀ method ∈ freeMethods,
      method ∉ answeredByLoop ∧ method ≠ ascii "events.poll" ∧ signature method = some [] := by
  decide +kernel

theorem commands_distinct : ∀ entry ∈ commands,
    (ascii "snapshot_id" :: entry.2.fields.map fun field => ascii field.1).Nodup := by
  decide +kernel

theorem Command.mem_run {lib : Conversions} {command : Command} {draft : Draft}
    {args : List Bytes} {req : CoreRequest}
    (member : req ∈ (command.run lib draft args).requests) :
    req.method = ascii command.method ∧ command.needed ≤ args.length ∧
      ∃ after, setFields lib command.fields args draft = .ok after ∧
        (if command.snapshot then snapshotLoop (args.drop command.needed) after
          else after).object? = some req.params := by
  unfold Command.run at member
  split at member
  · cases member
  · rename_i enough
    cases filled : setFields lib command.fields args draft with
    | error what =>
        rw [filled] at member
        cases member
    | ok after =>
        rw [filled] at member
        obtain ⟨method, json⟩ := Draft.mem_send member
        exact ⟨method, not_lt.mp enough, after, rfl, json⟩

/-- A command of the table fills what its method requires. -/
theorem Command.provides_of_run {lib : Conversions} {command : Command}
    {params : List (String × ParamType)} (covered : command.covers params = true)
    (distinct : (ascii "snapshot_id" :: command.fields.map fun field => ascii field.1).Nodup)
    {draft : Draft} {args : List Bytes} {req : CoreRequest}
    (member : req ∈ (command.run lib draft args).requests) : Provides req.params params := by
  obtain ⟨notSnapshot, distinct⟩ := List.nodup_cons.mp distinct
  obtain ⟨_, enough, after, filled, json⟩ := Command.mem_run member
  intro param required
  obtain ⟨field, listed, same⟩ :=
    List.any_eq_true.mp (List.all_eq_true.mp covered param required)
  rw [Bool.and_eq_true, beq_iff_eq, beq_iff_eq] at same
  have inside : (param.1, field.2) ∈ command.fields.take args.length := by
    rw [← same.1]
    exact List.take_subset_take_left _ enough listed
  have typed := typed_of_setFields distinct inside filled
  rw [same.2] at typed
  have notOption : ascii param.1 ≠ ascii "snapshot_id" := by
    intro equal
    exact notSnapshot (equal ▸ List.mem_map_of_mem (List.mem_of_mem_take inside))
  split at json
  · exact (typed.snapshotLoop notOption).hasParam json
  · exact typed.hasParam json

/-- When the request of a command is served: `daemon.status` is not a method, and a poll needs an
old snapshot, which is named or which the daemon finds. -/
def CommandServed (cmd : Bytes) (args : List Bytes) (old : Option Snapshot) : Prop :=
  cmd ≠ ascii "status" ∧ (cmd = ascii "watch" → old ≠ none) ∧
    (cmd = ascii "events-poll" → args[1]?.any takenAsId = true ∨ old ≠ none)

/-- The same for the arguments of the client. -/
def CliServed (lib : Conversions) (argv : List Bytes) (old : Option Snapshot) : Prop :=
  ∀ o cmd args, parseArgs lib argv {} = .ok o → o.args = cmd :: args →
    CommandServed cmd args old

theorem commandServed_of_plain {cmd : Bytes} (status : cmd ≠ ascii "status")
    (watch : cmd ≠ ascii "watch") (poll : cmd ≠ ascii "events-poll") (args : List Bytes)
    (old : Option Snapshot) : CommandServed cmd args old :=
  ⟨status, fun same => absurd same watch, fun same => absurd same poll⟩

theorem CliArgs.draft_find (o : CliArgs) :
    Assoc.find (ascii "old_snapshot_id") o.draft = none := by
  unfold CliArgs.draft
  dsimp only
  split
  · rw [Draft.find_set_of_ne (by decide)]
    rfl
  · rw [Draft.setText, Draft.find_set_of_ne (by decide), Draft.find_set_of_ne (by decide)]
    rfl

theorem waitLoop_find {lib : Conversions} {key : String} (other : ascii key ≠ ascii "wait_ms")
    {argv : List Bytes} {draft after : Draft} (looped : waitLoop lib argv draft = .ok after) :
    Assoc.find (ascii key) after = Assoc.find (ascii key) draft := by
  refine waitLoop_keeps
    (fun current => Assoc.find (ascii key) current = Assoc.find (ascii key) draft) ?_ rfl looped
  intro current ms same
  exact (Draft.find_set_of_ne other _).trans same

theorem getStr_of_object? {draft : Draft} {params : Object} (json : draft.object? = some params)
    (key : String) :
    getStr params key = ((Assoc.find (ascii key) draft).bind id).bind Value.str? := by
  rw [Draft.find_of_object? json, getStr, Object.get?]
  cases Assoc.find (ascii key) params <;> rfl

/-- The request of `events-poll` names an old snapshot when its second argument is taken as
one. -/
theorem eventsPoll_old {lib : Conversions} {argv : List Bytes} {o : CliArgs} {args : List Bytes}
    {req : CoreRequest} (member : req ∈ (eventsPoll lib argv o.draft args).requests) :
    req.method = ascii "events.poll" ∧
      (getStr req.params "old_snapshot_id").isSome = args[1]?.any takenAsId := by
  cases args with
  | nil => cases member
  | cons sid rest =>
      unfold eventsPoll at member
      dsimp only at member
      split at member
      · cases member
      · rename_i after looped
        obtain ⟨method, json⟩ := Draft.mem_send member
        refine ⟨method, ?_⟩
        have kept := waitLoop_find (by decide : ascii "old_snapshot_id" ≠ ascii "wait_ms") looped
        rw [getStr_of_object? json, kept]
        have unset : Assoc.find (ascii "old_snapshot_id") (o.draft.setText "snapshot_id" sid) =
            none := by
          rw [Draft.setText, Draft.find_set_of_ne (by decide), o.draft_find]
        cases rest with
        | nil =>
            dsimp only
            rw [unset]
            rfl
        | cons old rest =>
            dsimp only
            split
            · rename_i taken
              rw [Draft.setText, Draft.set, Assoc.find_assign_self]
              exact taken.symm
            · rename_i refused
              rw [unset]
              exact (Bool.eq_false_iff.mpr refused).symm

theorem watch_old {o : CliArgs} {req : CoreRequest} (member : req ∈ (watch o.draft).requests) :
    req.method = ascii "events.poll" ∧ getStr req.params "old_snapshot_id" = none := by
  unfold watch at member
  cases json : o.draft.object? with
  | none =>
      rw [json] at member
      cases member
  | some params =>
      rw [json] at member
      have unnamed : getStr params "old_snapshot_id" = none := by
        rw [getStr_of_object? json, o.draft_find]
        rfl
      rcases List.mem_cons.mp member with rfl | later
      · exact ⟨rfl, unnamed⟩
      · obtain rfl := List.mem_singleton.mp later
        exact ⟨rfl, unnamed⟩

theorem tree_method {draft : Draft} {args : List Bytes} {req : CoreRequest}
    (member : req ∈ (tree draft args).requests) : req.method = ascii "window.getTree" := by
  unfold tree at member
  split at member
  · exact (Draft.mem_send member).1
  · split at member <;> exact (Draft.mem_send member).1

theorem discover_requests (lib : Conversions) (argv : List Bytes) :
    (discover lib argv).requests = [] := by
  unfold discover
  split <;> rfl

theorem config_requests (args : List Bytes) : (config args).requests = [] := by
  unfold config
  split
  · split <;> rfl
  · rfl

section

variable {σ : Type} (backend : Backend σ) (env : Surroundings) (durationMs : Int)
  {req : CoreRequest} (snapshot : Snapshot) (old : Option Snapshot) (world : σ)

/-- The methods of `tree` and `update` require no parameter. -/
theorem serves_of_free {method : Bytes} (same : req.method = method)
    (free : method ∈ freeMethods) :
    Serves backend env durationMs req snapshot old world := by
  subst same
  obtain ⟨engine, other, known⟩ := commands_checked.2 _ free
  rw [serves_iff_provides backend env durationMs snapshot old world engine other known]
  exact fun _ member => absurd member List.not_mem_nil

/-- The commands of the table are all served, but `status`. -/
theorem command_served_iff {lib : Conversions} {draft : Draft} {cmd : Bytes} {args : List Bytes}
    {entry : String × Command}
    (found : (commands.find? fun entry => ascii entry.1 = cmd) = some entry)
    (member : req ∈ (entry.2.run lib draft args).requests) :
    Serves backend env durationMs req snapshot old world ↔ cmd ≠ ascii "status" := by
  have listed := List.mem_of_find?_eq_some found
  have test := List.find?_some found
  obtain rfl : ascii entry.1 = cmd := of_decide_eq_true test
  obtain ⟨method, _⟩ := Command.mem_run member
  have checked := commands_checked.1 entry listed
  split at checked
  · rename_i status
    obtain ⟨engine, unknown⟩ := checked
    rw [← method] at engine unknown
    exact iff_of_false
      (not_serves_of_unknown backend env durationMs snapshot old world engine unknown)
      fun different => different status
  · rename_i status
    refine iff_of_true ?_ status
    by_cases loop : ascii entry.2.method ∈ answeredByLoop
    · exact Or.inl (method ▸ loop)
    · obtain ⟨other, covered⟩ := checked.resolve_left loop
      obtain ⟨params, known, fills⟩ := (Option.any_eq_true _ _).mp covered
      rw [← method] at loop other known
      rw [serves_iff_provides backend env durationMs snapshot old world loop other known]
      exact Command.provides_of_run fills (commands_distinct entry listed) member

/-- The requests of the branches of `main`. -/
theorem runCli_served_iff {lib : Conversions} {argv : List Bytes} {o : CliArgs} {cmd : Bytes}
    {args : List Bytes} (member : req ∈ (runCli lib argv o.draft cmd args).requests) :
    Serves backend env durationMs req snapshot old world ↔ CommandServed cmd args old := by
  unfold runCli at member
  split at member
  · rw [discover_requests] at member
    cases member
  split at member
  · rename_i isTree
    subst isTree
    have method := tree_method member
    exact iff_of_true
      (serves_of_free backend env durationMs snapshot old world method
        (by simp [freeMethods]))
      (commandServed_of_plain (by decide) (by decide) (by decide) args old)
  split at member
  · rename_i poll
    subst poll
    obtain ⟨method, named⟩ := eventsPoll_old member
    rw [serves_poll_iff backend env durationMs snapshot old world method, named]
    exact ⟨fun served => ⟨by decide, fun same => absurd same (by decide), fun _ => served⟩,
      fun served => served.2.2 rfl⟩
  split at member
  · rename_i watches
    subst watches
    obtain ⟨method, unnamed⟩ := watch_old member
    rw [serves_poll_iff backend env durationMs snapshot old world method, unnamed]
    exact ⟨fun served => ⟨by decide, fun _ => served.resolve_left nofun,
      fun same => absurd same (by decide)⟩, fun served => Or.inr (served.2.1 rfl)⟩
  split at member
  · rename_i update
    subst update
    obtain ⟨method, _⟩ := Draft.mem_send member
    exact iff_of_true
      (serves_of_free backend env durationMs snapshot old world method
        (by simp [freeMethods]))
      (commandServed_of_plain (by decide) (by decide) (by decide) args old)
  split at member
  · rw [config_requests] at member
    cases member
  rename_i notPoll notWatch _ _
  cases found : commands.find? fun entry => ascii entry.1 = cmd with
  | none =>
      rw [found] at member
      cases member
  | some entry =>
      rw [found] at member
      rw [command_served_iff backend env durationMs snapshot old world found member]
      exact ⟨fun status => commandServed_of_plain status notWatch notPoll args old,
        fun served => served.1⟩

end

/-! ## The requests of the portable client -/

/-- There is an argument for the parameter. -/
def Mapping.sets (fields : List (String × Nat)) (count : Nat) (key : String) : Bool :=
  fields.any fun field => decide (ascii field.1 = ascii key) && decide (field.2 < count)

/-- The parameter is a string, and there is an argument for it. -/
def Mapping.gives (m : Mapping) (count : Nat) (param : String × ParamType) : Bool :=
  param.2 == .str && Mapping.sets m.fields count param.1

section

variable {text : Bytes → Bytes} {args : List Bytes} {key : String}

theorem get?_setArgument (params : Object) (field : String × Nat) :
    if decide (ascii field.1 = ascii key) && decide (field.2 < args.length) then
      ∃ arg, (setArgument text args params field).get? key = some (.str arg)
    else (setArgument text args params field).get? key = params.get? key := by
  unfold setArgument
  by_cases inside : field.2 < args.length
  · rw [List.getElem?_eq_getElem inside, decide_eq_true inside, Bool.and_true]
    by_cases same : ascii field.1 = ascii key
    · rw [if_pos (decide_eq_true same)]
      refine ⟨text args[field.2], ?_⟩
      change Assoc.find (ascii key) (Assoc.assign (ascii field.1) _ params) = _
      rw [same, Assoc.find_assign_self]
    · rw [if_neg (by simpa using same)]
      exact Assoc.find_assign_of_ne (Ne.symm same) _ _
  · rw [List.getElem?_eq_none (not_lt.mp inside), decide_eq_false inside, Bool.and_false]
    rw [if_neg Bool.false_ne_true]

/-- A parameter is a string when there is an argument for it, and else as it was. -/
theorem get?_setArguments (fields : List (String × Nat)) (params : Object) :
    if Mapping.sets fields args.length key then
      ∃ arg, (fields.foldl (setArgument text args) params).get? key = some (.str arg)
    else (fields.foldl (setArgument text args) params).get? key = params.get? key := by
  induction fields generalizing params with
  | nil => rfl
  | cons field fields inductionHypothesis =>
      have rest := inductionHypothesis (setArgument text args params field)
      rw [List.foldl_cons]
      unfold Mapping.sets at rest ⊢
      rw [List.any_cons]
      by_cases later : (fields.any fun field =>
          decide (ascii field.1 = ascii key) && decide (field.2 < args.length)) = true
      · rw [if_pos later] at rest
        rw [later, Bool.or_true, if_pos rfl]
        exact rest
      · rw [if_neg later] at rest
        rw [Bool.eq_false_iff.mpr later, Bool.or_false, rest]
        exact get?_setArgument params field

theorem Mapping.hasParam_params (m : Mapping) (named : ascii key ≠ ascii "canonical")
    (type : ParamType) :
    hasParam (m.params text args) key type = m.gives args.length (key, type) := by
  have absent : (Object.ofFields [("canonical", .bool true)]).get? key = none :=
    Json.get?_ofFields_of_absent (List.forall_mem_singleton.mpr named)
  have set := @get?_setArguments text args key m.fields
    (Object.ofFields [("canonical", .bool true)])
  unfold Mapping.params Mapping.gives
  split at set
  · rename_i given
    obtain ⟨arg, found⟩ := set
    rw [given, Bool.and_true, hasParam_eq, found]
    cases type <;> rfl
  · rename_i missing
    rw [absent] at set
    rw [Bool.eq_false_iff.mpr missing, Bool.and_false, hasParam_eq, set]
    rfl

end

/-- The commands of the portable client whose requests are always served. -/
def servedCommands : List String :=
  ["capture", "top", "tree", "health", "set-prop", "control-send", "ps", "file-info", "file-read",
    "find-regex", "reg-read", "reg-write", "clip-read", "svc-list", "svc-status", "env-get",
    "wine-drives", "wine-overrides", "mutex-check", "mutex-create"]

/-- Those that are sent without a handle when there is no argument. -/
def handleCommands : List String :=
  ["info", "children", "highlight"]

def PortableServed : List Bytes → Prop
  | [] => True
  | cmd :: args =>
      cmd ∈ servedCommands.map ascii ∨ cmd ∈ handleCommands.map ascii ∧ args ≠ []

/-- The methods of the portable client against the parameters it sends: the arguments that must
be there are enough, the handle is all that is asked for, or a parameter is never sent as the
handler wants it. -/
theorem reqMethods_checked : ∀ entry ∈ reqMethods, ascii entry.2 ≠ ascii "events.poll" ∧
    if ascii entry.1 ∈ servedCommands.map ascii then
      ascii entry.2 ∈ answeredByLoop ∨
        (signature (ascii entry.2)).any (fun params =>
          params.all ((mapping (ascii entry.1)).gives (mapping (ascii entry.1)).needed)) = true
    else if ascii entry.1 ∈ handleCommands.map ascii then
      ascii entry.2 ∉ answeredByLoop ∧ (mapping (ascii entry.1)).fields = [("hwnd", 0)] ∧
        signature (ascii entry.2) = some [("hwnd", .str)]
    else
      ascii entry.2 ∉ answeredByLoop ∧
        (signature (ascii entry.2)).all (fun params => params.any fun param =>
          param.2 != .str || !Mapping.sets (mapping (ascii entry.1)).fields 4 param.1) = true := by
  decide +kernel

theorem params_named : ∀ sig ∈ signatures, ∀ param ∈ sig.2,
    ascii param.1 ≠ ascii "canonical" := by
  decide +kernel

theorem mapping_lt (method : Bytes) : ∀ field ∈ (mapping method).fields, field.2 < 4 := by
  unfold mapping
  split_ifs <;> decide

theorem Mapping.sets_mono {fields : List (String × Nat)} {count more : Nat} {key : String}
    (sets : Mapping.sets fields count key = true)
    (enough : ∀ field ∈ fields, field.2 < count → field.2 < more) :
    Mapping.sets fields more key = true := by
  unfold Mapping.sets at *
  obtain ⟨field, listed, same⟩ := List.any_eq_true.mp sets
  rw [Bool.and_eq_true, decide_eq_true_eq, decide_eq_true_eq] at same
  refine List.any_eq_true.mpr ⟨field, listed, ?_⟩
  rw [Bool.and_eq_true, decide_eq_true_eq, decide_eq_true_eq]
  exact ⟨same.1, enough field listed same.2⟩

theorem mem_runCommand {text : Bytes → Bytes} {cmd : Bytes} {args : List Bytes}
    {req : CoreRequest} (member : req ∈ (runCommand text cmd args).requests) :
    ∃ entry ∈ reqMethods, ascii entry.1 = cmd ∧ (mapping cmd).needed ≤ args.length ∧
      req.method = ascii entry.2 ∧ req.params = (mapping cmd).params text args := by
  unfold runCommand at member
  cases found : reqMethods.find? fun entry => ascii entry.1 = cmd with
  | none =>
      rw [found] at member
      cases member
  | some entry =>
      rw [found] at member
      dsimp only at member
      split at member
      · cases member
      · rename_i enough
        have test := List.find?_some found
        obtain rfl := List.mem_singleton.mp member
        exact ⟨entry, List.mem_of_find?_eq_some found, of_decide_eq_true test,
          not_lt.mp enough, rfl, rfl⟩

/-- What the portable client provides. -/
theorem Mapping.provides_iff {m : Mapping} {text : Bytes → Bytes} {args : List Bytes}
    {method : Bytes} {params : List (String × ParamType)} (known : signature method = some params) :
    Provides (m.params text args) params ↔ params.all (m.gives args.length) = true := by
  unfold signature at known
  obtain ⟨sig, found, rfl⟩ := Option.map_eq_some_iff.mp known
  have named := params_named sig (List.mem_of_find?_eq_some found)
  rw [List.all_eq_true]
  refine forall₂_congr fun param member => ?_
  rw [Mapping.hasParam_params m (named param member)]

section

variable {σ : Type} (backend : Backend σ) (env : Surroundings) (durationMs : Int)
  {req : CoreRequest} (snapshot : Snapshot) (old : Option Snapshot) (world : σ)

theorem runCommand_served_iff {text : Bytes → Bytes} {cmd : Bytes} {args : List Bytes}
    (member : req ∈ (runCommand text cmd args).requests) :
    Serves backend env durationMs req snapshot old world ↔ PortableServed (cmd :: args) := by
  obtain ⟨entry, listed, rfl, enough, method, params⟩ := mem_runCommand member
  obtain ⟨other, checked⟩ := reqMethods_checked entry listed
  rw [← method] at other
  rw [PortableServed]
  split at checked
  · rename_i served
    refine iff_of_true ?_ (Or.inl served)
    by_cases loop : ascii entry.2 ∈ answeredByLoop
    · exact Or.inl (method ▸ loop)
    · obtain ⟨required, known, given⟩ := (Option.any_eq_true _ _).mp (checked.resolve_left loop)
      rw [← method] at loop known
      rw [serves_iff_provides backend env durationMs snapshot old world loop other known, params,
        Mapping.provides_iff known]
      refine List.all_eq_true.mpr fun param asked => ?_
      have gives := List.all_eq_true.mp given param asked
      unfold Mapping.gives at gives ⊢
      rw [Bool.and_eq_true] at gives ⊢
      exact ⟨gives.1, Mapping.sets_mono gives.2 fun field _ inside => inside.trans_le enough⟩
  · rename_i notServed
    rw [or_iff_right notServed]
    split at checked
    · rename_i handle
      obtain ⟨loop, fields, known⟩ := checked
      rw [← method] at loop known
      rw [serves_iff_provides backend env durationMs snapshot old world loop other known, params,
        Mapping.provides_iff known, and_iff_right handle]
      simp [Mapping.gives, Mapping.sets, fields, List.length_pos_iff]
    · rename_i notHandle
      obtain ⟨loop, missing⟩ := checked
      refine iff_of_false ?_ fun served => notHandle served.1
      rw [← method] at loop missing
      cases known : signature req.method with
      | none => exact not_serves_of_unknown backend env durationMs snapshot old world loop known
      | some required =>
          rw [known] at missing
          obtain ⟨param, asked, absent⟩ := List.any_eq_true.mp missing
          rw [serves_iff_provides backend env durationMs snapshot old world loop other known,
            params, Mapping.provides_iff known]
          intro given
          have gives := List.all_eq_true.mp given param asked
          rw [Mapping.gives, Bool.and_eq_true] at gives
          have sets := Mapping.sets_mono gives.2 fun field inside _ => mapping_lt _ field inside
          rw [bne, gives.1, sets] at absent
          cases absent

end

/-- The requests of both clients are served exactly under these conditions on their arguments and
on the snapshot the daemon finds to compare with.  In every run of the daemon, a method that the
request loops answer does not come to the engine, and only a request whose method neither they nor
the engine have is answered with `E_BAD_METHOD`. -/
theorem requests_served_iff {σ : Type} (p : Daemon.Platform σ) (cfg : Daemon.Settings) (world : σ)
    (lib : Conversions) (text : Bytes → Bytes) :
    (∀ env durationMs snapshot old w argv, ∀ req ∈ (cliMain lib argv).requests,
      Serves p.backend env durationMs req snapshot old w ↔ CliServed lib argv old) ∧
    (∀ env durationMs snapshot old w args, ∀ req ∈ (portableMain text args).requests,
      Serves p.backend env durationMs req snapshot old w ↔ PortableServed args) ∧
    ∀ target, (Daemon.daemon p cfg).Runs {} (Daemon.initial world) target →
      ∀ conn ∈ target.parts,
        (∀ req snap old, conn.phase = .calling req snap old → req.method ∉ answeredByLoop) ∧
        ∀ req resp, conn.phase = .sending (some req) resp →
          resp.errorCode = ascii "E_BAD_METHOD" →
            req.method ∉ answeredByLoop ∧ dispatch req.method = none := by
  refine ⟨?_, ?_, fun target run conn member => ⟨?_, ?_⟩⟩
  · intro env durationMs snapshot old w argv req member
    unfold cliMain at member
    cases parsed : parseArgs lib argv {} with
    | error what =>
        rw [parsed] at member
        cases member
    | ok o =>
        rw [parsed] at member
        dsimp only at member
        split at member
        · cases member
        · rename_i cmd args split
          rw [runCli_served_iff p.backend env durationMs snapshot old w member]
          unfold CliServed
          rw [parsed]
          constructor
          · rintro served _ _ _ ⟨⟩ same
            rw [split] at same
            cases same
            exact served
          · intro served
            exact served o cmd args rfl split
  · intro env durationMs snapshot old w args req member
    cases args with
    | nil => cases member
    | cons cmd args =>
        rw [portableMain] at member
        split at member
        · rw [config_requests] at member
          cases member
        · exact runCommand_served_iff p.backend env durationMs snapshot old w member
  · intro req snap old phase
    have carries := Daemon.carries_blames_of_runs run conn member
    rw [phase] at carries
    exact carries.other
  · intro req resp phase
    have carries := Daemon.carries_blames_of_runs run conn member
    rw [phase] at carries
    exact carries

/-- Conversions of integer literals. -/
def integerConversions : Conversions where
  stod text := (Json.integerStod text).map some
  stoull _ := .error (ascii "stoull")
  stoi _ := .error (ascii "stoi")

/-- A request whose parameters are strings, with `canonical`. -/
def textRequest (id method : String) (texts : List (String × String)) : CoreRequest where
  id := ascii id
  method := ascii method
  params := Object.ofFields
    (("canonical", .bool true) :: texts.map fun field => (field.1, .str (ascii field.2)))

/-- `info 0x10` of the command-line client. -/
theorem requests_served_iff_info :
    textRequest "cli-1" "window.getInfo" [("hwnd", "0x10")] ∈
        (cliMain integerConversions [ascii "info", ascii "0x10"]).requests ∧
      Serves Fake.fakeBackend ⟨false, [], 0⟩ 0
        (textRequest "cli-1" "window.getInfo" [("hwnd", "0x10")]) ⟨[]⟩ none {} := by
  have member : textRequest "cli-1" "window.getInfo" [("hwnd", "0x10")] ∈
      (cliMain integerConversions [ascii "info", ascii "0x10"]).requests := by decide +kernel
  refine ⟨member, ?_⟩
  refine ((requests_served_iff Daemon.fakePlatform {} {} integerConversions id).1 _ _ _ _ _ _ _
    member).mpr fun o cmd args parsed split => ?_
  cases parsed
  cases split
  exact commandServed_of_plain (by decide) (by decide) (by decide) _ _

/-- `status` of the command-line client sends a method that nothing answers, and `kill 5` of the
portable client a request without its parameter. -/
theorem requests_refused :
    cliMain integerConversions [ascii "status"] =
        .sends (textRequest "cli-1" "daemon.status" []) ∧
      (handle Fake.fakeBackend ⟨false, [], 0⟩ 0 (textRequest "cli-1" "daemon.status" []) ⟨[]⟩ none
        {}).1.errorCode = ascii "E_BAD_METHOD" ∧
      portableMain id [ascii "kill", ascii "5"] = .sends (textRequest "p-1" "process.kill" []) ∧
      (handle Fake.fakeBackend ⟨false, [], 0⟩ 0 (textRequest "p-1" "process.kill" []) ⟨[]⟩ none
        {}).1.errorMessage = ascii "missing pid" := by
  refine ⟨by decide +kernel, by decide +kernel, by decide +kernel, by decide +kernel⟩

end WinInspect.Clients
