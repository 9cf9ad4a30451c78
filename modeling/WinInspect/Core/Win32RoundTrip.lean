import WinInspect.Core.Handles
import WinInspect.Core.Win32Backend

/-!
# Text through the system

What is written to the environment or to the registry and read again.  Writing widens byte by
byte and reading converts, so the text comes back exactly when it is ASCII; a value of the
registry has to fit the buffers of `reg_read` besides.
-/

namespace WinInspect.Win32

open Json (Value)

/-! ## A key after a write -/

namespace Registry

variable (registry : Registry) (os : RegistrySystem) (hive : Hive) (path : List Wide)

/-- The values of the key at a path, none when there is no such key. -/
def valuesAt : List RegValue :=
  (registry.openKey os hive path).elim [] RegKey.values

/-- A prefix is at the path it is a prefix of only when it is the whole path. -/
theorem eq_of_isAt_missing {key : RegKey} (member : key ∈ registry.missing os hive path)
    (found : isAt os hive path key = true) : key = ⟨hive, path, []⟩ := by
  obtain ⟨rfl, empty, on, -⟩ := mem_missing.mp member
  rw [isAt, Bool.and_eq_true, decide_eq_true_eq, decide_eq_true_eq] at found
  have length := congrArg List.length found.2
  rw [List.length_map, List.length_map] at length
  rw [← on.eq_of_length length, ← empty]

/-- After `RegCreateKeyExW` there is a key at the path; a new one has no values. -/
theorem openKey_createKey :
    ∃ key, (registry.createKey os hive path).openKey os hive path = some key ∧
      key.values = registry.valuesAt os hive path := by
  unfold valuesAt openKey createKey
  rw [List.find?_append]
  cases found : registry.keys.find? (isAt os hive path) with
  | some key => exact ⟨key, rfl, rfl⟩
  | none =>
      have itself : isAt os hive path ⟨hive, path, []⟩ = true := by simp [isAt]
      have created : (⟨hive, path, []⟩ : RegKey) ∈ registry.missing os hive path :=
        mem_missing.mpr ⟨rfl, rfl, List.prefix_rfl, found⟩
      cases first : (registry.missing os hive path).find? (isAt os hive path) with
      | none => exact absurd itself (List.find?_eq_none.mp first _ created)
      | some key =>
          have same := eq_of_isAt_missing registry os hive path (List.mem_of_find?_eq_some first)
            (List.find?_some first)
          exact ⟨key, rfl, by rw [same]; rfl⟩

/-- After `RegSetValueExW` the key at the path has the value. -/
theorem openKey_setValue (value : RegValue) {key : RegKey}
    (found : registry.openKey os hive path = some key) :
    (registry.setValue os hive path value).openKey os hive path =
      some { key with values := putValue os value key.values } := by
  unfold openKey setValue at *
  have keeps : (isAt os hive path ∘ fun key =>
      if isAt os hive path key then { key with values := putValue os value key.values } else key) =
        isAt os hive path := by
    funext key
    rw [Function.comp_apply]
    split <;> rfl
  rw [List.find?_map, keeps, found, Option.map_some, if_pos (List.find?_some found)]

/-- No key that is created is below the path. -/
theorem subkeys_createKey :
    (registry.createKey os hive path).subkeys os hive path = registry.subkeys os hive path := by
  have none : ∀ key ∈ registry.missing os hive path, ¬ (!key.path.isEmpty &&
      isAt os hive path { key with path := key.path.dropLast }) = true := by
    intro key member below
    obtain ⟨-, -, on, -⟩ := mem_missing.mp member
    rw [isAt, Bool.and_eq_true, Bool.and_eq_true, decide_eq_true_eq, decide_eq_true_eq] at below
    have length := congrArg List.length below.2.2
    have filled : key.path ≠ [] := by simpa using below.1
    have positive := List.length_pos_iff.mpr filled
    have bound := on.length_le
    rw [List.length_map, List.length_map, List.length_dropLast] at length
    omega
  unfold subkeys createKey
  rw [List.filter_append, List.filter_eq_nil_iff.mpr none, List.append_nil]

theorem subkeys_setValue (value : RegValue) :
    (registry.setValue os hive path value).subkeys os hive path =
      registry.subkeys os hive path := by
  unfold subkeys setValue
  rw [List.filter_map, List.filterMap_map]
  congr 1
  · funext key
    rw [Function.comp_apply]
    split <;> rfl
  · congr 1
    funext key
    rw [Function.comp_apply]
    split <;> rfl

end Registry

section

variable {os : RegistrySystem} {registry : Registry} {path subpath : Bytes} {hive : Hive}

/-- The state a write of text leaves. -/
def written (os : RegistrySystem) (hive : Hive) (names : List Wide) (value : RegValue)
    (registry : Registry) : Registry :=
  (registry.createKey os hive names).setValue os hive names value

/-- A write of text that succeeds. -/
theorem regWrite_of_done (known : parseHkey path = (some hive, subpath)) {name data : Bytes}
    (done : (regWrite os path ⟨name, ascii "SZ", data⟩ registry).1 = .ok true) :
    (regWrite os path ⟨name, ascii "SZ", data⟩ registry).2 =
      written os hive (keyNames os subpath) (szValue name data) registry := by
  unfold regWrite at *
  rw [known] at done ⊢
  dsimp only at *
  split at done
  · rename_i creates
    rw [if_pos creates]
    unfold writeValue storeValue at *
    rw [if_pos rfl] at done ⊢
    split at done
    · rename_i sets
      rw [if_pos sets]
      rfl
    · cases done
  · cases done

/-- What a read of the key reports after a write. -/
theorem regRead_written (known : parseHkey path = (some hive, subpath)) (value : RegValue)
    {fuel : Nat} {info : RegistryKeyInfo} :
    regRead os fuel path (written os hive (keyNames os subpath) value registry) =
        some (some info) ↔
      ((Enumeration.reached nameFits (registry.subkeys os hive (keyNames os subpath))).length <
          min (2 ^ 32) fuel ∧
        (Enumeration.reached valueFits (Registry.putValue os value
          (registry.valuesAt os hive (keyNames os subpath)))).length < min (2 ^ 32) fuel) ∧
      info = ⟨path,
        (Enumeration.reached nameFits (registry.subkeys os hive (keyNames os subpath))).map
          fun name => w2u8 (cStr name),
        ((Enumeration.reached valueFits (Registry.putValue os value
          (registry.valuesAt os hive (keyNames os subpath)))).foldl readValue
            ([], os.memory)).1⟩ := by
  obtain ⟨key, found, values⟩ := registry.openKey_createKey os hive (keyNames os subpath)
  have opened := Registry.openKey_setValue _ os hive _ value found
  rw [written, regRead_eq_some_iff known opened, Registry.subkeys_setValue,
    Registry.subkeys_createKey, values]

end

/-! ## The entry of a value -/

section

variable {os : RegistrySystem} {value : RegValue} {values : List RegValue}

/-- A value that fits is reached when the values in front of its place fit. -/
theorem mem_reached_putValue (fits : valueFits value = true)
    (front : ∀ other ∈ values.takeWhile fun other => os.fold other.name != os.fold value.name,
      valueFits other = true) :
    value ∈ Enumeration.reached valueFits (Registry.putValue os value values) := by
  unfold Enumeration.reached
  induction values with
  | nil =>
      rw [Registry.putValue, List.takeWhile_cons_of_pos fits]
      exact List.mem_cons_self
  | cons other values ih =>
      rw [Registry.putValue]
      by_cases same : os.fold other.name = os.fold value.name
      · rw [if_pos same, List.takeWhile_cons_of_pos fits]
        exact List.mem_cons_self
      · have other_name : (os.fold other.name != os.fold value.name) = true := bne_iff_ne.mpr same
        rw [List.takeWhile_cons, if_pos other_name, List.forall_mem_cons] at front
        rw [if_neg same, List.takeWhile_cons_of_pos front.1]
        exact List.mem_cons_of_mem _ (ih front.2)

theorem length_putValue_le :
    (Registry.putValue os value values).length ≤ values.length + 1 := by
  induction values with
  | nil => exact le_rfl
  | cons other values ih =>
      rw [Registry.putValue]
      split
      · exact Nat.le_succ _
      · exact Nat.succ_le_succ ih

/-- The loop keeps the entries it has. -/
theorem mem_foldl_of_read {entry : RegistryValue} {read : List RegistryValue}
    (member : entry ∈ read) (buffer : Bytes) :
    entry ∈ (values.foldl readValue (read, buffer)).1 := by
  induction values generalizing read buffer with
  | nil => exact member
  | cons value values ih => exact ih (List.mem_append_left _ member) _

/-- The entry of a value has its data, and behind it what the buffer had there. -/
theorem mem_foldl_readValue (member : value ∈ values) (read : List RegistryValue)
    (buffer : Bytes) :
    ∃ rest, ⟨w2u8 (cStr value.name), typeText value.type,
      dataText value.type (value.data ++ rest)⟩ ∈ (values.foldl readValue (read, buffer)).1 := by
  induction values generalizing read buffer with
  | nil => exact absurd member List.not_mem_nil
  | cons first values ih =>
      rcases List.mem_cons.mp member with rfl | later
      · exact ⟨_, mem_foldl_of_read (List.mem_append_right _ (List.mem_singleton_self _)) _⟩
      · exact ih later _ _

end

section

variable {name data : Bytes}

/-- The characters of the text that are stored.  The size wraps with `2^31` characters. -/
def storedLength (data : Bytes) : Nat :=
  (data.length + 1) % 2 ^ 31

theorem wideBytes_take (w : Wide) (n : Nat) :
    (wideBytes w).take (2 * n) = wideBytes (w.take n) := by
  induction w generalizing n with
  | nil =>
      rw [List.take_nil]
      exact List.take_nil
  | cons u w ih =>
      cases n with
      | zero => rfl
      | succ n => exact congrArg (_ :: _ :: ·) (ih n)

theorem szValue_data (name data : Bytes) :
    (szValue name data).data = wideBytes ((widen data ++ [0]).take (storedLength data)) := by
  have size : (data.length + 1) % 2 ^ 32 * 2 % 2 ^ 32 = 2 * storedLength data := by
    unfold storedLength
    omega
  rw [← wideBytes_take, ← size]
  rfl

theorem storedLength_of_short (short : data.length ≤ 2047) :
    storedLength data = data.length + 1 :=
  Nat.mod_eq_of_lt (by omega)

theorem length_widen (s : Bytes) : (widen s).length = s.length :=
  List.length_map ..

theorem cStr_widen {s : Bytes} (terminated : 0 ∉ s) : cStr (widen s) = widen s :=
  cStr_eq_self (zero_notMem_widen terminated)

/-- Short text is stored with its terminator, so nothing behind it is read. -/
theorem dataText_of_short (terminated : 0 ∉ data) (short : data.length ≤ 2047) (rest : Bytes) :
    dataText regSz ((szValue name data).data ++ rest) = w2u8 (widen data) := by
  have whole : (widen data ++ [0]).take (data.length + 1) = widen data ++ [0] :=
    List.take_of_length_le (by rw [List.length_append, length_widen]; exact le_rfl)
  rw [dataText, if_pos rfl, szValue_data, storedLength_of_short short, whole, wideUnits_wideBytes,
    List.append_assoc, List.singleton_append, cStr_append_zero (zero_notMem_widen terminated)]

theorem cStr_take_widen (terminated : 0 ∉ data) (n : Nat) :
    cStr ((widen data ++ [0]).take n) = widen (data.take n) := by
  rcases Nat.lt_or_ge data.length n with whole | part
  · rw [List.take_of_length_le (by rw [List.length_append, length_widen]; exact whole),
      cStr_append_zero (zero_notMem_widen terminated), List.take_of_length_le whole.le]
  · rw [List.take_append_of_le_length (by rw [length_widen]; exact part), widen, ← List.map_take]
    exact cStr_widen fun zero => terminated (List.mem_of_mem_take zero)

/-- With nothing behind it, text of any length comes back as far as it is stored. -/
theorem dataText_szValue (terminated : 0 ∉ data) :
    dataText regSz (szValue name data).data = w2u8 (widen (data.take (storedLength data))) := by
  have units := wideUnits_wideBytes ((widen data ++ [0]).take (storedLength data)) []
  rw [List.append_nil, show wideUnits [] = [] from rfl, List.append_nil] at units
  rw [dataText, if_pos rfl, szValue_data, units, cStr_take_widen terminated]

theorem length_readBack_le (s : Bytes) : (s.flatMap readBack).length ≤ 3 * s.length := by
  induction s with
  | nil => exact le_rfl
  | cons b s ih =>
      have one : (readBack b).length ≤ 3 := by
        by_cases low : b.toNat < 0x80
        · rw [readBack_of_ascii low, List.length_singleton]
          decide
        · exact (length_readBack_of_not_ascii low).le
      rw [List.flatMap_cons, List.length_append, List.length_cons]
      omega

theorem valueFits_szValue_iff (terminated : 0 ∉ name) :
    valueFits (szValue name data) = true ↔ name.length ≤ 255 ∧ storedLength data ≤ 2048 := by
  have bound : storedLength data ≤ data.length + 1 := Nat.mod_le _ _
  have size : (szValue name data).data.length = 2 * storedLength data := by
    rw [szValue_data, length_wideBytes, List.length_take, List.length_append, length_widen,
      List.length_singleton, Nat.min_eq_left bound]
  have named : (szValue name data).name = widen name := cStr_widen terminated
  rw [valueFits, size, named, length_widen, Bool.and_eq_true, decide_eq_true_eq, decide_eq_true_eq]
  omega

/-- A value fits and its entry has its name and its data exactly for short ASCII texts. -/
theorem szValue_entry_iff (named : 0 ∉ name) (terminated : 0 ∉ data) :
    (valueFits (szValue name data) = true ∧ w2u8 (cStr (szValue name data).name) = name ∧
        dataText regSz (szValue name data).data = data) ↔
      (Ascii name ∧ name.length ≤ 255) ∧ Ascii data ∧ data.length ≤ 2047 := by
  have name_eq : cStr (szValue name data).name = widen name := by
    change cStr (cStr (widen name)) = _
    rw [cStr_widen named, cStr_widen named]
  rw [valueFits_szValue_iff named, name_eq, w2u8_widen_eq_iff, dataText_szValue terminated]
  constructor
  · rintro ⟨⟨shortName, stored⟩, nameAscii, same⟩
    -- What comes back is at most three times as long as what is stored, so the size did not wrap.
    have bound : data.length ≤ 3 * storedLength data := by
      calc data.length = (w2u8 (widen (data.take (storedLength data)))).length := by rw [same]
        _ ≤ 3 * (data.take (storedLength data)).length := by
          rw [w2u8_widen]
          exact length_readBack_le _
        _ ≤ 3 * storedLength data := Nat.mul_le_mul_left 3 (List.length_take_le _ _)
    have whole : storedLength data = data.length + 1 := Nat.mod_eq_of_lt (by omega)
    rw [whole, List.take_of_length_le (Nat.le_succ _)] at same
    exact ⟨⟨nameAscii, shortName⟩, (w2u8_widen_eq_iff data).mp same, by omega⟩
  · rintro ⟨⟨nameAscii, shortName⟩, dataAscii, short⟩
    have whole := storedLength_of_short short
    rw [whole, List.take_of_length_le (Nat.le_succ _)]
    exact ⟨⟨shortName, by omega⟩, nameAscii, (w2u8_widen_eq_iff data).mpr dataAscii⟩

end

/-! ## Requests -/

/-- The engine answers a request with a response. -/
def Answers {σ : Type} (backend : Backend σ) (req : CoreRequest) (world : σ) (resp : CoreResponse)
    (after : σ) : Prop :=
  ∃ env durationMs snapshot old,
    handle backend env durationMs req snapshot old world = (resp, after)

/-- The response to a write that was done. -/
def Succeeded (resp : CoreResponse) : Prop :=
  resp.ok = true ∧ resp.result = okJson true

structure IsEnvSet (req : CoreRequest) (name value : Bytes) : Prop where
  method : req.method = ascii "env.set"
  name : getStr req.params "name" = some name
  value : getStr req.params "value" = some value

/-- A `reg.write` of text. -/
structure IsRegWrite (req : CoreRequest) (path name data : Bytes) : Prop where
  method : req.method = ascii "reg.write"
  path : getStr req.params "path" = some path
  name : getStr req.params "name" = some name
  type : getStr req.params "type" = some (ascii "SZ")
  data : getStr req.params "data" = some data

structure IsRegRead (req : CoreRequest) (path : Bytes) : Prop where
  method : req.method = ascii "reg.read"
  path : getStr req.params "path" = some path

/-- A handler that accepts its parameters and performs one operation answers with what it
returns. -/
theorem Answers.of_ok {σ : Type} {backend : Backend σ} {req : CoreRequest} {world after : σ}
    {resp : CoreResponse} {handler : Handler}
    (answered : Answers backend req world resp after)
    (found : dispatch req.method = some handler) {args : handler.Args}
    (accepted : ∀ old, handler.args req old = .ok args) {op : Call handler.Answer}
    (single : ∀ snapshot, handler.query snapshot args = Effect.Program.perform op) :
    after = (backend.apply op world).2 ∧
      ∃ env body, body = respondOrCatch req.id
          ((backend.apply op world).1.bind (handler.respond env req args)) ∧
        resp.ok = body.ok ∧ resp.result = body.result := by
  obtain ⟨env, durationMs, snapshot, old, ran⟩ := answered
  unfold handle at ran
  rw [handleBody_of_ok found (accepted old) (single snapshot)] at ran
  cases ran
  exact ⟨rfl, env, _, rfl, rfl, rfl⟩

theorem okJson_injective : Function.Injective okJson := by
  decide

section

variable {σ : Type} {os : System} {base : Backend σ} {req : CoreRequest}
  {machine after : Machine σ} {resp : CoreResponse}

theorem answers_envSet {name value : Bytes} (request : IsEnvSet req name value)
    (answered : Answers (win32Backend os base) req machine resp after) :
    (Succeeded resp ↔ (envSet os.environment name value machine.environment).1 = true) ∧
      after.environment = (envSet os.environment name value machine.environment).2 := by
  have found : dispatch req.method = some WinInspect.envSet := by
    rw [request.method]
    exact dispatch_of_mem (by simp [dispatchTable])
  have accepted (old : Option Snapshot) :
      WinInspect.envSet.args req old = .ok (name, value) := by
    change need _ _ = _
    rw [request.name, request.value]
    rfl
  obtain ⟨rfl, env, _, rfl, ok, result⟩ := answered.of_ok found accepted fun _ => rfl
  refine ⟨?_, rfl⟩
  constructor
  · intro done
    exact okJson_injective (result.symm.trans done.2)
  · intro stored
    exact ⟨ok, result.trans (congrArg okJson stored)⟩

theorem answers_envGet (method : req.method = ascii "env.get")
    (answered : Answers (win32Backend os base) req machine resp after) :
    resp.result = envToJson (envGetAll machine.environment) := by
  have found : dispatch req.method = some WinInspect.envGet := by
    rw [method]
    exact dispatch_of_mem (by simp [dispatchTable])
  obtain ⟨-, env, _, rfl, -, result⟩ := answered.of_ok found (fun _ => rfl) fun _ => rfl
  exact result

theorem answers_regWrite {path name data : Bytes} (request : IsRegWrite req path name data)
    (answered : Answers (win32Backend os base) req machine resp after) :
    (Succeeded resp ↔
        (regWrite os.registry path ⟨name, ascii "SZ", data⟩ machine.registry).1 = .ok true) ∧
      after.registry = (regWrite os.registry path ⟨name, ascii "SZ", data⟩ machine.registry).2 := by
  have found : dispatch req.method = some WinInspect.regWrite := by
    rw [request.method, dispatch_regWrite]
  have accepted (old : Option Snapshot) :
      WinInspect.regWrite.args req old = .ok (path, ⟨name, ascii "SZ", data⟩) := by
    change need _ _ = _
    rw [request.path, request.name, request.type, request.data]
    rfl
  obtain ⟨rfl, env, _, rfl, ok, result⟩ := answered.of_ok found accepted fun _ => rfl
  refine ⟨?_, rfl⟩
  change resp.ok = (respondOrCatch req.id ((regWrite os.registry path ⟨name, ascii "SZ", data⟩
    machine.registry).1.bind _)).ok at ok
  change resp.result = (respondOrCatch req.id ((regWrite os.registry path
    ⟨name, ascii "SZ", data⟩ machine.registry).1.bind _)).result at result
  generalize (regWrite os.registry path ⟨name, ascii "SZ", data⟩ machine.registry).1 = written at *
  cases written with
  | error what =>
      refine iff_of_false (fun done => ?_) nofun
      rw [done.1] at ok
      cases ok
  | ok stored =>
      constructor
      · intro done
        exact congrArg _ (okJson_injective (result.symm.trans done.2))
      · intro same
        cases same
        exact ⟨ok, result⟩

theorem answers_regRead {path : Bytes} (request : IsRegRead req path) {info : RegistryKeyInfo}
    (read : regRead os.registry (2 ^ 32) path machine.registry = some (some info))
    (answered : Answers (win32Backend os base) req machine resp after) :
    resp.result = registryKeyToJson info := by
  have found : dispatch req.method = some WinInspect.regRead := by
    rw [request.method]
    exact dispatch_of_mem (by simp [dispatchTable])
  have accepted (old : Option Snapshot) : WinInspect.regRead.args req old = .ok path := by
    change need _ _ = _
    rw [request.path]
    rfl
  have answer : (win32Backend os base).apply (.regRead path) machine =
      (.ok (some info), machine) := by
    unfold win32Backend
    dsimp only
    rw [read]
  obtain ⟨-, env, _, rfl, -, result⟩ := answered.of_ok found accepted fun _ => rfl
  rw [result]
  change (respondOrCatch req.id (((win32Backend os base).apply (.regRead path) machine).1.bind
    _)).result = _
  rw [answer]
  rfl

end

def envSetRequest (name value : Bytes) : CoreRequest :=
  ⟨[], ascii "env.set", [(ascii "name", .str name), (ascii "value", .str value)]⟩

def envGetRequest : CoreRequest :=
  ⟨[], ascii "env.get", []⟩

/-- A `reg.write` of text in the key of the user. -/
def regWriteRequest (name data : Bytes) : CoreRequest :=
  ⟨[], ascii "reg.write", [(ascii "path", .str (ascii "HKCU")), (ascii "name", .str name),
    (ascii "type", .str (ascii "SZ")), (ascii "data", .str data)]⟩

theorem isRegWrite_request (name data : Bytes) :
    IsRegWrite (regWriteRequest name data) (ascii "HKCU") name data :=
  ⟨rfl, rfl, rfl, rfl, rfl⟩

def regReadRequest : CoreRequest :=
  ⟨[], ascii "reg.read", [(ascii "path", .str (ascii "HKCU"))]⟩

/-- The engine over a system that permits everything. -/
def serve (req : CoreRequest) (machine : Machine Unit) : CoreResponse × Machine Unit :=
  handle (win32Backend permissiveSystem inert) ⟨false, [], 0⟩ 0 req ⟨[]⟩ none machine

theorem answers_serve (req : CoreRequest) (machine : Machine Unit) :
    Answers (win32Backend permissiveSystem inert) req machine (serve req machine).1
      (serve req machine).2 :=
  ⟨_, _, _, _, rfl⟩

/-! ## Environment -/

/-- A value that is set under a name is shown under it. -/
def EnvSurvives (name value : Bytes) : Prop :=
  ∀ (σ : Type) (os : System) (base : Backend σ) (set get : CoreRequest)
    (before after last : Machine σ) (done shown : CoreResponse),
    IsEnvSet set name value → get.method = ascii "env.get" →
    Answers (win32Backend os base) set before done after → Succeeded done →
    Answers (win32Backend os base) get after shown last →
    ∃ o, shown.result = .obj o ∧ Assoc.find name o = some (.str value)

/-- The variable that is read last is shown as it is, unless its name is sensitive. -/
theorem envToJson_concat (vars : List EnvVar) (v : EnvVar) :
    ∃ o, envToJson (vars ++ [v]) = .obj (Assoc.assign v.name
      (.str (if sensitive v.name then ascii "<REDACTED>" else v.value)) o) := by
  unfold envToJson
  rw [List.foldl_concat]
  exact ⟨_, rfl⟩

section

variable {name value : Bytes} (named : 0 ∉ name) (valued : 0 ∉ value)

include named valued

theorem envSurvives_of_ascii (shown : sensitive name = false) (nameAscii : Ascii name)
    (valueAscii : Ascii value) : EnvSurvives name value := by
  intro σ os base set get before after last done resp request method wrote succeeded read
  obtain ⟨done_iff, environment⟩ := answers_envSet request wrote
  have stored := done_iff.mp succeeded
  have all := answers_envGet method read
  rw [environment, envGetAll_envSet stored, cStr_widen named, cStr_widen valued,
    (w2u8_widen_eq_iff name).mpr nameAscii, (w2u8_widen_eq_iff value).mpr valueAscii] at all
  obtain ⟨o, object⟩ := envToJson_concat ((before.environment.entries.filter fun entry =>
    os.environment.fold (Environment.entryName entry) != os.environment.fold (widen name)).flatMap
      fun entry => (envVar entry).toList) ⟨name, value⟩
  refine ⟨_, all.trans object, ?_⟩
  rw [Assoc.find_assign_self]
  dsimp only
  rw [shown]
  rfl

omit named valued in
/-- The variable is the only one in an environment that was empty. -/
theorem envGetAll_fresh (stored : (envSet permissiveSystem.environment name value
      freshMachine.environment).1 = true) :
    envGetAll (envSet permissiveSystem.environment name value freshMachine.environment).2 =
      [⟨w2u8 (cStr (widen name)), w2u8 (cStr (widen value))⟩] :=
  envGetAll_envSet stored

theorem ascii_of_envSurvives (filled : name ≠ []) (plain : equals ∉ widen name)
    (shown : sensitive name = false) (survives : EnvSurvives name value) :
    Ascii name ∧ Ascii value := by
  have request : IsEnvSet (envSetRequest name value) name value := ⟨rfl, rfl, rfl⟩
  have wide : cStr (widen name) ≠ [] ∧ equals ∉ cStr (widen name) := by
    rw [cStr_widen named]
    exact ⟨fun empty => filled (List.map_eq_nil_iff.mp empty), plain⟩
  have stored : (envSet permissiveSystem.environment name value freshMachine.environment).1 =
      true := by
    rw [envSet, if_pos ⟨wide.1, wide.2, rfl⟩]
  have wrote := answers_serve (envSetRequest name value) freshMachine
  obtain ⟨done_iff, environment⟩ := answers_envSet request wrote
  have read := answers_serve envGetRequest (serve (envSetRequest name value) freshMachine).2
  obtain ⟨o, object, entry⟩ := survives _ _ _ _ _ _ _ _ _ _ request rfl wrote
    (done_iff.mpr stored) read
  have all := answers_envGet rfl read
  rw [environment, envGetAll_fresh stored, cStr_widen named, cStr_widen valued] at all
  obtain rfl := Value.obj.inj (object.symm.trans all)
  rw [← w2u8_widen_eq_iff, ← w2u8_widen_eq_iff]
  by_cases same : w2u8 (widen name) = name
  · rw [List.foldl_cons, List.foldl_nil] at entry
    dsimp only at entry
    rw [same, Assoc.find_assign_self, shown] at entry
    exact ⟨same, Value.str.inj (Option.some.inj entry)⟩
  · rw [List.foldl_cons, List.foldl_nil, Assoc.find_assign_of_ne (Ne.symm same)] at entry
    cases entry

/-- Text survives in the environment exactly when it is ASCII; an empty name cannot be set. -/
theorem envSurvives_iff (plain : Json.ch '=' ∉ name) (shown : sensitive name = false) :
    EnvSurvives name value ↔ name = [] ∨ Ascii name ∧ Ascii value := by
  by_cases filled : name = []
  · subst filled
    refine iff_of_true ?_ (Or.inl rfl)
    intro σ os base set get before after last done resp request method wrote succeeded read
    have stored := (answers_envSet request wrote).1.mp succeeded
    rw [envSet, if_neg (fun accepted => accepted.1 rfl)] at stored
    cases stored
  · have wide : equals ∉ widen name := fun member =>
      plain (mem_of_mem_widen (b := Json.ch '=') (by decide) member)
    rw [or_iff_right filled]
    exact ⟨ascii_of_envSurvives named valued filled wide shown, fun both =>
      envSurvives_of_ascii named valued shown both.1 both.2⟩

end

/-! ## Registry -/

/-- The result of a `reg.read` has a value with a name and data. -/
def Reports (result : Value) (name data : Bytes) : Prop :=
  ∃ (key : Json.Object) (values : List Value) (entry : Json.Object), result = .obj key ∧
    key.get? "values" = some (.arr values) ∧ .obj entry ∈ values ∧
    getStr entry "name" = some name ∧ getStr entry "data" = some data

/-- The fields of an entry. -/
def entryFields (v : RegistryValue) : Json.Object :=
  Json.Object.ofFields [("name", .str v.name), ("type", .str v.type), ("data", .str v.data)]

theorem get?_values (info : RegistryKeyInfo) :
    ∃ key : Json.Object, registryKeyToJson info = .obj key ∧
      key.get? "values" = some (.arr (info.values.map fun v => .obj (entryFields v))) :=
  ⟨_, rfl, Json.get?_ofFields [_, _] "values" _ (List.forall_mem_nil _)⟩

theorem getStr_entryFields (v : RegistryValue) :
    getStr (entryFields v) "name" = some v.name ∧ getStr (entryFields v) "data" = some v.data := by
  have name : (entryFields v).get? "name" = some (.str v.name) :=
    Json.get?_ofFields [] "name" _ (by simp only [List.forall_mem_cons]; decide)
  have data : (entryFields v).get? "data" = some (.str v.data) :=
    Json.get?_ofFields [_, _] "data" _ (List.forall_mem_nil _)
  unfold getStr
  rw [name, data]
  exact ⟨rfl, rfl⟩

theorem reports_iff {info : RegistryKeyInfo} {name data : Bytes} :
    Reports (registryKeyToJson info) name data ↔
      ∃ v ∈ info.values, v.name = name ∧ v.data = data := by
  obtain ⟨key, object, values⟩ := get?_values info
  unfold Reports
  rw [object]
  constructor
  · rintro ⟨_, _, entry, same, field, member, named, contents⟩
    cases same
    rw [values] at field
    cases field
    obtain ⟨v, inside, same⟩ := List.mem_map.mp member
    cases same
    rw [(getStr_entryFields v).1] at named
    rw [(getStr_entryFields v).2] at contents
    exact ⟨v, inside, Option.some.inj named, Option.some.inj contents⟩
  · rintro ⟨v, member, rfl, rfl⟩
    exact ⟨key, _, entryFields v, rfl, values, List.mem_map_of_mem member, getStr_entryFields v⟩

/-- A key can be read up to the place of a value: the values in front of it fit, and neither the
subkeys nor the values make the index wrap. -/
structure Readable (os : RegistrySystem) (registry : Registry) (hive : Hive) (names : List Wide)
    (name : Bytes) : Prop where
  subkeys : (registry.subkeys os hive names).length < 2 ^ 32
  values : (registry.valuesAt os hive names).length + 1 < 2 ^ 32
  front : ∀ other ∈ (registry.valuesAt os hive names).takeWhile
    fun other => os.fold other.name != os.fold (cStr (widen name)), valueFits other = true

/-- Text that is written under a name in a key that can be read is reported under it. -/
def RegSurvives (name data : Bytes) : Prop :=
  ∀ (σ : Type) (os : System) (base : Backend σ) (write read : CoreRequest) (path subpath : Bytes)
    (hive : Hive) (before after last : Machine σ) (done shown : CoreResponse),
    IsRegWrite write path name data → IsRegRead read path →
    parseHkey path = (some hive, subpath) →
    Readable os.registry before.registry hive (keyNames os.registry subpath) name →
    Answers (win32Backend os base) write before done after → Succeeded done →
    Answers (win32Backend os base) read after shown last →
    Reports shown.result name data

section

variable {name data : Bytes} (named : 0 ∉ name) (terminated : 0 ∉ data)

include named terminated

theorem regSurvives_of_ascii
    (good : (Ascii name ∧ name.length ≤ 255) ∧ Ascii data ∧ data.length ≤ 2047) :
    RegSurvives name data := by
  intro σ os base write read path subpath hive before after last done resp wrote reads known
    readable stored succeeded shown
  obtain ⟨done_iff, registry⟩ := answers_regWrite wrote stored
  obtain ⟨fits, sameName, -⟩ := (szValue_entry_iff named terminated).mpr good
  have reached : szValue name data ∈ Enumeration.reached valueFits (Registry.putValue os.registry
      (szValue name data) (before.registry.valuesAt os.registry hive
        (keyNames os.registry subpath))) :=
    mem_reached_putValue fits readable.front
  have fewNames := (List.takeWhile_prefix nameFits).length_le.trans_lt readable.subkeys
  have fewValues : (Enumeration.reached valueFits (Registry.putValue os.registry
      (szValue name data) (before.registry.valuesAt os.registry hive
        (keyNames os.registry subpath)))).length < 2 ^ 32 :=
    (List.takeWhile_prefix valueFits).length_le.trans_lt
      (length_putValue_le.trans_lt readable.values)
  have reported := (regRead_written known (szValue name data)).mpr
    ⟨⟨lt_min fewNames fewNames, lt_min fewValues fewValues⟩, rfl⟩
  rw [← regWrite_of_done known (done_iff.mp succeeded), ← registry] at reported
  rw [answers_regRead reads reported shown, reports_iff]
  obtain ⟨rest, entry⟩ := mem_foldl_readValue reached [] os.registry.memory
  refine ⟨_, entry, sameName, ?_⟩
  exact (dataText_of_short terminated good.2.2 rest).trans ((w2u8_widen_eq_iff data).mpr good.2.1)

omit named terminated in
/-- The value is the only one in a key that had none. -/
theorem regRead_fresh (value : RegValue) :
    regRead permissive (2 ^ 32) (ascii "HKCU") (written permissive .currentUser
        (keyNames permissive []) value (userRegistry [])) =
      some (some ⟨ascii "HKCU", [],
        ((Enumeration.reached valueFits [value]).foldl readValue ([], [])).1⟩) := by
  have short : (Enumeration.reached valueFits [value]).length < 2 ^ 32 :=
    (List.takeWhile_prefix valueFits).length_le.trans_lt (by rw [List.length_singleton]; decide)
  have noNames : (Enumeration.reached nameFits ((userRegistry []).subkeys permissive .currentUser
      (keyNames permissive []))).length < 2 ^ 32 := by
    decide
  exact (regRead_written parseHkey_user value).mpr
    ⟨⟨lt_min noNames noNames, lt_min short short⟩, rfl⟩

omit named terminated in
theorem regWrite_served (name data : Bytes) :
    Succeeded (serve (regWriteRequest name data) freshMachine).1 ∧
      (serve (regWriteRequest name data) freshMachine).2.registry = written permissive
        .currentUser (keyNames permissive []) (szValue name data) (userRegistry []) := by
  have done : (regWrite permissive (ascii "HKCU") ⟨name, ascii "SZ", data⟩ (userRegistry [])).1 =
      .ok true := rfl
  obtain ⟨done_iff, registry⟩ :=
    answers_regWrite (isRegWrite_request name data)
      (answers_serve (regWriteRequest name data) freshMachine)
  exact ⟨done_iff.mpr done, registry.trans (regWrite_of_done parseHkey_user done)⟩

theorem ascii_of_regSurvives (survives : RegSurvives name data) :
    (Ascii name ∧ name.length ≤ 255) ∧ Ascii data ∧ data.length ≤ 2047 := by
  have reads : IsRegRead regReadRequest (ascii "HKCU") := ⟨rfl, rfl⟩
  have readable : Readable permissive (userRegistry []) .currentUser (keyNames permissive [])
      name := ⟨by decide, by decide, nofun⟩
  obtain ⟨done, registry⟩ := regWrite_served name data
  have stored := answers_serve (regWriteRequest name data) freshMachine
  have shown := answers_serve regReadRequest (serve (regWriteRequest name data) freshMachine).2
  have reports := survives _ _ _ _ _ _ _ _ _ _ _ _ _ (isRegWrite_request name data) reads
    parseHkey_user readable stored done shown
  have reported := regRead_fresh (szValue name data)
  rw [← registry] at reported
  rw [answers_regRead reads reported shown, reports_iff] at reports
  obtain ⟨v, member, sameName, sameData⟩ := reports
  change v ∈ (([szValue name data].takeWhile valueFits).foldl readValue ([], [])).1 at member
  by_cases fits : valueFits (szValue name data) = true
  · rw [List.takeWhile_cons_of_pos fits] at member
    obtain rfl := List.mem_singleton.mp member
    dsimp only at sameData
    rw [List.drop_nil, List.append_nil] at sameData
    exact (szValue_entry_iff named terminated).mp ⟨fits, sameName, sameData⟩
  · rw [List.takeWhile_cons_of_neg fits] at member
    cases member

/-- Text survives in the registry exactly when it is ASCII and fits the buffers of `reg_read`. -/
theorem regSurvives_iff :
    RegSurvives name data ↔
      (Ascii name ∧ name.length ≤ 255) ∧ Ascii data ∧ data.length ≤ 2047 :=
  ⟨ascii_of_regSurvives named terminated, regSurvives_of_ascii named terminated⟩

end

/-- What `env.set` stores is shown by `env.get`, and what `reg.write` stores in a key that can be
read is reported by `reg.read`, in every system and state, exactly for texts of ASCII characters;
in the registry the name has at most 255 and the text at most 2047 of them. -/
theorem text_survives_iff (name value : Bytes) (named : 0 ∉ name) (valued : 0 ∉ value)
    (plain : Json.ch '=' ∉ name) (shown : sensitive name = false) :
    (EnvSurvives name value ↔ name = [] ∨ Ascii name ∧ Ascii value) ∧
      (RegSurvives name value ↔
        (Ascii name ∧ name.length ≤ 255) ∧ Ascii value ∧ value.length ≤ 2047) :=
  ⟨envSurvives_iff named valued plain shown, regSurvives_iff named valued⟩

theorem text_survives_word : EnvSurvives (ascii "n") (ascii "word") ∧
    RegSurvives (ascii "n") (ascii "word") := by
  have both := text_survives_iff (ascii "n") (ascii "word") (by decide) (by decide) (by decide)
    (by decide)
  exact ⟨both.1.mpr (by decide +kernel), both.2.mpr (by decide +kernel)⟩

/-- The two bytes of `ä` come back as six. -/
theorem umlaut_comes_back_wide :
    (Succeeded (serve (envSetRequest (ascii "n") [0xC3, 0xA4]) freshMachine).1 ∧
      (serve envGetRequest (serve (envSetRequest (ascii "n") [0xC3, 0xA4])
        freshMachine).2).1.result =
          .obj [(ascii "n", .str [0xEF, 0xBF, 0x83, 0xEF, 0xBE, 0xA4])]) ∧
    Succeeded (serve (regWriteRequest (ascii "n") [0xC3, 0xA4]) freshMachine).1 ∧
      (serve regReadRequest (serve (regWriteRequest (ascii "n") [0xC3, 0xA4])
        freshMachine).2).1.result =
          registryKeyToJson ⟨ascii "HKCU", [],
            [⟨ascii "n", ascii "SZ", [0xEF, 0xBF, 0x83, 0xEF, 0xBE, 0xA4]⟩]⟩ := by
  obtain ⟨done_iff, environment⟩ := answers_envSet ⟨rfl, rfl, rfl⟩
    (answers_serve (envSetRequest (ascii "n") [0xC3, 0xA4]) freshMachine)
  have stored : (envSet permissiveSystem.environment (ascii "n") [0xC3, 0xA4]
      freshMachine.environment).1 = true := by
    decide +kernel
  obtain ⟨written, registry⟩ := regWrite_served (ascii "n") [0xC3, 0xA4]
  have reported := regRead_fresh (szValue (ascii "n") [0xC3, 0xA4])
  rw [← registry] at reported
  refine ⟨⟨done_iff.mpr stored, ?_⟩, written, ?_⟩
  · rw [answers_envGet rfl (answers_serve envGetRequest _), environment, envGetAll_fresh stored]
    decide +kernel
  · rw [answers_regRead ⟨rfl, rfl⟩ reported (answers_serve regReadRequest _)]
    decide +kernel

end WinInspect.Win32
