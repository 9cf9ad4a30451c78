import WinInspect.Core.Payloads
import WinInspect.Core.Win32Environment
import WinInspect.Core.Win32Registry

/-!
# Registry and environment behind the engine

A backend whose operations on the registry and on the environment are those of `Win32Backend`;
the other operations are any backend's.  The first result is about a `reg.write` that fails.
-/

namespace WinInspect.Win32

open Json (Value)

/-- What the system decides. -/
structure System where
  registry : RegistrySystem
  environment : Environment.Rules

/-- The state of the system, and that of the other operations. -/
structure Machine (σ : Type) where
  registry : Registry
  environment : Environment
  rest : σ

/-- `Win32Backend`.  A loop of `reg_read` that does not end is no behaviour an operation can
return with; it stands as an error without a text. -/
def win32Backend {σ : Type} (os : System) (base : Backend σ) : Backend (Machine σ) where
  apply op machine :=
    match op with
    | .regRead path =>
        match regRead os.registry (2 ^ 32) path machine.registry with
        | some answer => (.ok answer, machine)
        | none => (.error [], machine)
    | .regWrite path val =>
        let written := regWrite os.registry path val machine.registry
        (written.1, { machine with registry := written.2 })
    | .envGetAll => (.ok (envGetAll machine.environment), machine)
    | .envSet name value =>
        let set := envSet os.environment name value machine.environment
        (.ok set.1, { machine with environment := set.2 })
    | op =>
        let answered := base.apply op machine.rest
        (answered.1, { machine with rest := answered.2 })

/-! ## Writes that fail -/

section

variable (os : RegistrySystem) {path : Bytes} {val : RegistryValue} {registry : Registry}

/-- The registry after `RegCreateKeyExW`. -/
def opened (path : Bytes) (registry : Registry) : Registry :=
  match parseHkey path with
  | (none, _) => registry
  | (some hive, subpath) =>
      if os.creates registry.keys hive (keyNames os subpath) then
        registry.createKey os hive (keyNames os subpath)
      else registry

variable {hive : Hive} {names : List Wide}

theorem storeValue_of_failed {value : RegValue}
    (failed : (storeValue os registry hive names value).1 ≠ .ok true) :
    (storeValue os registry hive names value).2 = registry := by
  unfold storeValue at *
  split at failed
  · exact absurd rfl failed
  · rename_i refused
    rw [if_neg refused]

/-- With the key open, what fails has changed nothing. -/
theorem writeValue_of_failed (failed : (writeValue os registry hive names val).1 ≠ .ok true) :
    (writeValue os registry hive names val).2 = registry := by
  unfold writeValue at *
  by_cases text : val.type = ascii "SZ"
  · rw [if_pos text] at failed ⊢
    exact storeValue_of_failed os failed
  · rw [if_neg text] at failed ⊢
    by_cases number : val.type = ascii "DWORD"
    · rw [if_pos number] at failed ⊢
      cases converted : stoul val.data with
      | none => rfl
      | some d =>
          rw [converted] at failed
          exact storeValue_of_failed os failed
    · rw [if_neg number]

/-- A write that fails has at most created the key. -/
theorem regWrite_of_failed (failed : (regWrite os path val registry).1 ≠ .ok true) :
    (regWrite os path val registry).2 = opened os path registry := by
  unfold regWrite opened at *
  generalize parseHkey path = parsed at *
  rcases parsed with ⟨_ | hive, subpath⟩
  · rfl
  · dsimp only at *
    by_cases creates : os.creates registry.keys hive (keyNames os subpath) = true
    · rw [if_pos creates] at failed ⊢
      rw [if_pos creates]
      exact writeValue_of_failed os failed
    · rw [if_neg creates, if_neg creates]

end

/-- The response tells of a failure: it is an error, or the result says so. -/
def Failed (resp : CoreResponse) : Prop :=
  resp.ok = false ∨ resp.result = okJson false

/-- The key is left behind by a request: it has no values, it is on the path of the request, and
it did not exist before. -/
structure Leftover (os : RegistrySystem) (req : CoreRequest) (registry : Registry) (key : RegKey) :
    Prop where
  empty : key.values = []
  onPath : ∃ path val subpath, WinInspect.regWrite.args req none = .ok (path, val) ∧
    parseHkey path = (some key.hive, subpath) ∧
    os.creates registry.keys key.hive (keyNames os subpath) = true ∧
    key.path <+: keyNames os subpath
  missing : registry.openKey os key.hive key.path = none

theorem mem_missing {os : RegistrySystem} {registry : Registry} {hive : Hive} {path : List Wide}
    {key : RegKey} : key ∈ registry.missing os hive path ↔
      key.hive = hive ∧ key.values = [] ∧ key.path <+: path ∧
        registry.openKey os hive key.path = none := by
  unfold Registry.missing
  rw [List.mem_map]
  constructor
  · rintro ⟨p, member, rfl⟩
    rw [List.mem_filter, List.mem_inits, Option.isNone_iff_eq_none] at member
    exact ⟨rfl, rfl, member⟩
  · rintro ⟨rfl, empty, on, absent⟩
    refine ⟨key.path, ?_, ?_⟩
    · rw [List.mem_filter, List.mem_inits, Option.isNone_iff_eq_none]
      exact ⟨on, absent⟩
    · rw [← empty]

section

variable {os : RegistrySystem} {req : CoreRequest} {registry : Registry}

/-- A key is only left behind where the system creates the path of the request. -/
theorem Leftover.creates {key : RegKey} (left : Leftover os req registry key) {path : Bytes}
    {val : RegistryValue} (accepted : WinInspect.regWrite.args req none = .ok (path, val)) :
    ∃ subpath, parseHkey path = (some key.hive, subpath) ∧
      os.creates registry.keys key.hive (keyNames os subpath) = true ∧
      key.path <+: keyNames os subpath := by
  obtain ⟨_, _, subpath, same, rest⟩ := left.onPath
  rw [accepted] at same
  cases same
  exact ⟨subpath, rest⟩

theorem exists_no_leftovers (none : ∀ key, ¬ Leftover os req registry key) :
    ∃ created, registry.keys = registry.keys ++ created ∧
      ∀ key, key ∈ created ↔ Leftover os req registry key :=
  ⟨[], (List.append_nil _).symm, fun key => iff_of_false List.not_mem_nil (none key)⟩

/-- The keys that a request leaves behind are those `RegCreateKeyExW` creates. -/
theorem exists_leftovers {path : Bytes} {val : RegistryValue}
    (accepted : WinInspect.regWrite.args req none = .ok (path, val)) :
    ∃ created, (opened os path registry).keys = registry.keys ++ created ∧
      ∀ key, key ∈ created ↔ Leftover os req registry key := by
  unfold opened
  rcases parsed : parseHkey path with ⟨_ | hive, subpath⟩
  · apply exists_no_leftovers
    intro key left
    obtain ⟨_, known, _⟩ := left.creates accepted
    rw [parsed] at known
    cases known
  · dsimp only
    by_cases creates : os.creates registry.keys hive (keyNames os subpath) = true
    · rw [if_pos creates]
      refine ⟨registry.missing os hive (keyNames os subpath), rfl, fun key => ?_⟩
      rw [mem_missing]
      constructor
      · rintro ⟨rfl, empty, on, absent⟩
        exact ⟨empty, ⟨path, val, subpath, accepted, parsed, creates, on⟩, absent⟩
      · intro left
        obtain ⟨_, known, _, on⟩ := left.creates accepted
        rw [parsed] at known
        cases known
        exact ⟨rfl, left.empty, on, left.missing⟩
    · rw [if_neg creates]
      apply exists_no_leftovers
      intro key left
      obtain ⟨_, known, permitted, _⟩ := left.creates accepted
      rw [parsed] at known
      cases known
      exact creates permitted

end

theorem dispatch_regWrite : dispatch (ascii "reg.write") = some WinInspect.regWrite :=
  dispatch_of_mem (by simp [dispatchTable])

section

variable {σ : Type} {os : System} {base : Backend σ} {env : Surroundings} {req : CoreRequest}
  {snapshot : Snapshot} {old : Option Snapshot} {machine : Machine σ}

/-- What a `reg.write` with its parameters does. -/
theorem handleBody_regWrite (found : dispatch req.method = some WinInspect.regWrite)
    {path : Bytes} {val : RegistryValue}
    (accepted : WinInspect.regWrite.args req old = .ok (path, val)) :
    handleBody (win32Backend os base) env req snapshot old machine =
      (respondOrCatch req.id ((regWrite os.registry path val machine.registry).1.bind fun done =>
          okWith (okJson done)),
        { machine with registry := (regWrite os.registry path val machine.registry).2 }) :=
  handleBody_of_ok found accepted rfl

/-- The response tells of a success exactly when the value was written. -/
theorem not_failed_of_ok {id : Bytes} {written : Except Bytes Bool} (done : written = .ok true) :
    ¬ Failed (respondOrCatch id (written.bind fun done => okWith (okJson done))) := by
  subst done
  rintro (error | result)
  · cases error
  · exact absurd (show okJson true = okJson false from result) (by decide)

end

section

variable {σ : Type} (os : System) (base : Backend σ) (env : Surroundings) (durationMs : Int)
  (req : CoreRequest) (snapshot : Snapshot) (old : Option Snapshot) (machine : Machine σ)

/-- A `reg.write` that fails stores nothing.  The keys are those from before with their values, in
their order, and behind them the keys on the path of the request that were missing, if the system
has created them; these have no values.  Nothing else changes. -/
theorem regWrite_failure_leaves (method : req.method = ascii "reg.write")
    (failed : Failed (handle (win32Backend os base) env durationMs req snapshot old machine).1) :
    (∃ created,
      (handle (win32Backend os base) env durationMs req snapshot old machine).2.registry.keys =
        machine.registry.keys ++ created ∧
      ∀ key, key ∈ created ↔ Leftover os.registry req machine.registry key) ∧
    (handle (win32Backend os base) env durationMs req snapshot old machine).2.environment =
      machine.environment ∧
    (handle (win32Backend os base) env durationMs req snapshot old machine).2.rest =
      machine.rest := by
  have found : dispatch req.method = some WinInspect.regWrite := by
    rw [method, dispatch_regWrite]
  change Failed (handleBody (win32Backend os base) env req snapshot old machine).1 at failed
  unfold handle
  cases accepted : WinInspect.regWrite.args req old with
  | error what =>
      rw [handleBody_of_error found accepted]
      refine ⟨exists_no_leftovers ?_, rfl, rfl⟩
      rintro key ⟨-, ⟨_, _, _, passed, -⟩, -⟩
      rw [show WinInspect.regWrite.args req none = .error what from accepted] at passed
      cases passed
  | ok args =>
      obtain ⟨path, val⟩ := args
      rw [handleBody_regWrite found accepted] at failed ⊢
      have refused : (regWrite os.registry path val machine.registry).1 ≠ .ok true :=
        fun done => not_failed_of_ok done failed
      dsimp only
      rw [regWrite_of_failed os.registry refused]
      exact ⟨exists_leftovers accepted, rfl, rfl⟩

end

/-- A backend that has no other operations. -/
def inert : Backend Unit where
  apply _ world := (.error [], world)

/-- A system that permits everything. -/
def permissiveSystem : System :=
  ⟨permissive, ⟨id, fun _ _ _ => true⟩⟩

/-- A system as it is at first. -/
def freshMachine : Machine Unit :=
  ⟨userRegistry [], ⟨[], List.forall_mem_nil _⟩, ()⟩

/-- A value of a type that is not supported, for a key that does not exist. -/
def multiText : CoreRequest :=
  ⟨ascii "1", ascii "reg.write", [(ascii "path", .str (ascii "HKCU\\A")),
    (ascii "name", .str (ascii "n")), (ascii "type", .str (ascii "MULTI_SZ")),
    (ascii "data", .str (ascii "v"))]⟩

/-- The key is created before the type is looked at. -/
theorem unsupported_type_creates_key :
    (handle (win32Backend permissiveSystem inert) ⟨false, [], 0⟩ 0 multiText ⟨[]⟩ none
        freshMachine).1.result = okJson false ∧
      (handle (win32Backend permissiveSystem inert) ⟨false, [], 0⟩ 0 multiText ⟨[]⟩ none
        freshMachine).2.registry.keys =
          freshMachine.registry.keys ++ [⟨.currentUser, [widen (ascii "A")], []⟩] := by
  decide +kernel

/-- That key is all that is left of the request. -/
theorem multiText_leaves :
    Leftover permissive multiText freshMachine.registry
        ⟨.currentUser, [widen (ascii "A")], []⟩ ∧
      (handle (win32Backend permissiveSystem inert) ⟨false, [], 0⟩ 0 multiText ⟨[]⟩ none
        freshMachine).2.environment = freshMachine.environment := by
  have failed : Failed (handle (win32Backend permissiveSystem inert) ⟨false, [], 0⟩ 0 multiText
      ⟨[]⟩ none freshMachine).1 := Or.inr (by decide +kernel)
  obtain ⟨⟨created, keys, left⟩, environment, -⟩ := regWrite_failure_leaves permissiveSystem inert
    ⟨false, [], 0⟩ 0 multiText ⟨[]⟩ none freshMachine rfl failed
  have expected : (handle (win32Backend permissiveSystem inert) ⟨false, [], 0⟩ 0 multiText ⟨[]⟩
      none freshMachine).2.registry.keys =
        freshMachine.registry.keys ++ [⟨.currentUser, [widen (ascii "A")], []⟩] := by
    decide +kernel
  obtain rfl := List.append_cancel_left (keys.symm.trans expected)
  exact ⟨(left _).mp (List.mem_singleton_self _), environment⟩

end WinInspect.Win32
