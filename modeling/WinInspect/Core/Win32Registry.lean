import WinInspect.Core.Integers
import WinInspect.Core.Types
import WinInspect.Core.Win32Text
import WinInspect.Data.Enumeration
import Mathlib.Data.List.Infix

/-!
# The registry

`reg_read` and `reg_write` of `Win32Backend` over a model of the registry functions of the
system.  A registry is the list of its keys in the order of enumeration; what the system decides
by itself (how a path is split, which names are equal, whether a call is permitted) is a
parameter.
-/

namespace WinInspect.Win32

/-! ## The system -/

/-- The predefined keys the backend knows. -/
inductive Hive where
  | localMachine
  | currentUser
  | classesRoot
  | users
  deriving DecidableEq

/-- A value of a key. -/
structure RegValue where
  name : Wide
  type : UInt32
  data : Bytes
  deriving DecidableEq

/-- `REG_SZ`. -/
def regSz : UInt32 := 1

/-- `REG_DWORD`. -/
def regDword : UInt32 := 4

/-- A key: the names that lead to it from its predefined key, and its values. -/
structure RegKey where
  hive : Hive
  path : List Wide
  values : List RegValue
  deriving DecidableEq

/-- The keys of the system, the predefined ones among them. -/
structure Registry where
  keys : List RegKey
  rooted : ∀ hive, ∃ key ∈ keys, key.hive = hive ∧ key.path = []

/-- What the system decides. -/
structure RegistrySystem where
  /-- The names of the keys in a subpath. -/
  names : Wide → List Wide
  /-- Names with one image are the same name. -/
  fold : Wide → Wide
  /-- Whether `RegCreateKeyExW` succeeds. -/
  creates : List RegKey → Hive → List Wide → Bool
  /-- Whether `RegSetValueExW` succeeds. -/
  sets : List RegKey → Hive → List Wide → RegValue → Bool
  /-- What stands in the data buffer of `reg_read` at first and in the memory behind it. -/
  memory : Bytes

namespace Registry

variable (registry : Registry) (os : RegistrySystem) (hive : Hive) (path : List Wide)

/-- The key is the one at the path. -/
def isAt (key : RegKey) : Bool :=
  key.hive = hive && key.path.map os.fold = path.map os.fold

/-- `RegOpenKeyExW`. -/
def openKey : Option RegKey :=
  registry.keys.find? (isAt os hive path)

/-- The names of the keys right below a path, in the order of enumeration. -/
def subkeys : List Wide :=
  (registry.keys.filter fun key => !key.path.isEmpty && isAt os hive path
    { key with path := key.path.dropLast }).filterMap fun key => key.path.getLast?

/-- The keys on the way to a path that do not exist. -/
def missing : List RegKey :=
  (path.inits.filter fun p => (registry.openKey os hive p).isNone).map fun p => ⟨hive, p, []⟩

/-- `RegCreateKeyExW` when it succeeds: the keys that are missing are created without values. -/
def createKey : Registry where
  keys := registry.keys ++ registry.missing os hive path
  rooted h := by
    obtain ⟨key, member, atRoot⟩ := registry.rooted h
    exact ⟨key, List.mem_append_left _ member, atRoot⟩

/-- A value in the place of the one with its name, or behind the others. -/
def putValue (value : RegValue) : List RegValue → List RegValue
  | [] => [value]
  | other :: rest =>
      if os.fold other.name = os.fold value.name then value :: rest
      else other :: putValue value rest

/-- `RegSetValueExW` when it succeeds. -/
def setValue (value : RegValue) : Registry where
  keys := registry.keys.map fun key =>
    if isAt os hive path key then { key with values := putValue os value key.values } else key
  rooted h := by
    obtain ⟨key, member, same, root⟩ := registry.rooted h
    refine ⟨_, List.mem_map_of_mem member, ?_⟩
    split
    · exact ⟨same, root⟩
    · exact ⟨same, root⟩

end Registry

/-! ## The backend -/

/-- The names of the predefined keys in requests. -/
def hiveNames : List (String × Hive) :=
  [("HKEY_LOCAL_MACHINE", .localMachine), ("HKLM", .localMachine),
    ("HKEY_CURRENT_USER", .currentUser), ("HKCU", .currentUser),
    ("HKEY_CLASSES_ROOT", .classesRoot), ("HKCR", .classesRoot),
    ("HKEY_USERS", .users), ("HKU", .users)]

/-- `parse_hkey`: the predefined key in front of the first backslash and the subpath behind
it. -/
def parseHkey (path : Bytes) : Option Hive × Bytes :=
  let root := path.takeWhile fun c => c != Json.ch '\\'
  let subpath := (path.dropWhile fun c => c != Json.ch '\\').drop 1
  ((hiveNames.find? fun entry => ascii entry.1 = root).map Prod.snd, subpath)

variable (os : RegistrySystem)

/-- The key names in a subpath that is passed on as a wide string. -/
def keyNames (subpath : Bytes) : List Wide :=
  os.names (cStr (widen subpath))

/-- The bytes of a `DWORD` in memory. -/
def dwordBytes (d : UInt32) : Bytes :=
  [UInt8.ofNat (d.toNat % 256), UInt8.ofNat (d.toNat / 256 % 256),
    UInt8.ofNat (d.toNat / 65536 % 256), UInt8.ofNat (d.toNat / 16777216)]

/-- The value `reg_write` passes on for text.  The size is computed in a `DWORD`. -/
def szValue (name data : Bytes) : RegValue where
  name := cStr (widen name)
  type := regSz
  data := (wideBytes (widen data ++ [0])).take (((data.length + 1) % 2 ^ 32 * 2) % 2 ^ 32)

/-- The call of `RegSetValueExW` at the end of `reg_write`. -/
def storeValue (registry : Registry) (hive : Hive) (path : List Wide) (value : RegValue) :
    Except Bytes Bool × Registry :=
  if os.sets registry.keys hive path value then (.ok true, registry.setValue os hive path value)
  else (.ok false, registry)

/-- The part of `reg_write` with the key open; an error is the exception of `std::stoul`. -/
def writeValue (registry : Registry) (hive : Hive) (path : List Wide) (val : RegistryValue) :
    Except Bytes Bool × Registry :=
  if val.type = ascii "SZ" then storeValue os registry hive path (szValue val.name val.data)
  else if val.type = ascii "DWORD" then
    match stoul val.data with
    | none => (.error (ascii "stoul"), registry)
    | some d => storeValue os registry hive path ⟨cStr (widen val.name), regDword, dwordBytes d⟩
  else (.ok false, registry)

/-- `reg_write`. -/
def regWrite (path : Bytes) (val : RegistryValue) (registry : Registry) :
    Except Bytes Bool × Registry :=
  match parseHkey path with
  | (none, _) => (.ok false, registry)
  | (some hive, subpath) =>
      let names := keyNames os subpath
      if os.creates registry.keys hive names then
        writeValue os (registry.createKey os hive names) hive names val
      else (.ok false, registry)

/-- A key name fits `name[256]` with its terminator. -/
def nameFits (name : Wide) : Bool :=
  name.length < 256

/-- A value fits `name[256]` and `data[4096]`. -/
def valueFits (value : RegValue) : Bool :=
  value.name.length < 256 && value.data.length ≤ 4096

/-- The `type` of an entry. -/
def typeText (type : UInt32) : Bytes :=
  if type = regSz then ascii "SZ" else if type = regDword then ascii "DWORD" else ascii "BINARY"

/-- The `data` of an entry, from the data buffer. -/
def dataText (type : UInt32) (buffer : Bytes) : Bytes :=
  if type = regSz then w2u8 (cStr (wideUnits buffer))
  else if type = regDword then
    numeral 10 ((buffer.take 4).reverse.foldl (fun value b => value * 256 + b.toNat) 0)
  else ascii "(binary data)"

/-- One round of the loop over the values.  The data buffer is not cleared between rounds. -/
def readValue (state : List RegistryValue × Bytes) (value : RegValue) :
    List RegistryValue × Bytes :=
  let buffer := value.data ++ state.2.drop value.data.length
  (state.1 ++ [⟨w2u8 (cStr value.name), typeText value.type, dataText value.type buffer⟩], buffer)

/-- `reg_read`; `none` when the fuel of the model runs out in one of the loops. -/
def regRead (fuel : Nat) (path : Bytes) (registry : Registry) : Option (Option RegistryKeyInfo) :=
  match parseHkey path with
  | (none, _) => some none
  | (some hive, subpath) =>
      let names := keyNames os subpath
      match registry.openKey os hive names with
      | none => some none
      | some key => do
          let subkeys ← Enumeration.loop nameFits (registry.subkeys os hive names)
            (fun read name => read ++ [w2u8 (cStr name)]) fuel 0 []
          let (values, _) ← Enumeration.loop valueFits key.values readValue fuel 0 ([], os.memory)
          some (some ⟨path, subkeys, values⟩)

/-! ## What a read reports -/

/-- The names and types of the entries, in order. -/
def entryTypes (entries : List RegistryValue) : List (Bytes × Bytes) :=
  entries.map fun entry => (entry.name, entry.type)

/-- Every round adds the entry of its value. -/
theorem entryTypes_foldl (values : List RegValue) (read : List RegistryValue) (buffer : Bytes) :
    entryTypes (values.foldl readValue (read, buffer)).1 =
      entryTypes read ++ values.map fun v => (w2u8 (cStr v.name), typeText v.type) := by
  induction values generalizing read buffer with
  | nil => exact (List.append_nil _).symm
  | cons value values ih =>
      rw [List.foldl_cons, readValue, ih, List.map_cons, entryTypes, List.map_append,
        List.append_assoc]
      rfl

theorem foldl_names (names : List Wide) (read : List Bytes) :
    names.foldl (fun read name => read ++ [w2u8 (cStr name)]) read =
      read ++ names.map fun name => w2u8 (cStr name) := by
  rw [List.foldl_append_eq_append, ← List.flatMap_def, ← List.map_eq_flatMap]

section

variable {os} {registry : Registry} {path subpath : Bytes} {hive : Hive} {key : RegKey}

/-- A read of a key that exists returns when both loops end, with what they went over. -/
theorem regRead_eq_some_iff (known : parseHkey path = (some hive, subpath))
    (found : registry.openKey os hive (keyNames os subpath) = some key) {fuel : Nat}
    {info : RegistryKeyInfo} :
    regRead os fuel path registry = some (some info) ↔
      ((Enumeration.reached nameFits (registry.subkeys os hive (keyNames os subpath))).length <
          min (2 ^ 32) fuel ∧
        (Enumeration.reached valueFits key.values).length < min (2 ^ 32) fuel) ∧
      info = ⟨path,
        (Enumeration.reached nameFits (registry.subkeys os hive (keyNames os subpath))).map
          fun name => w2u8 (cStr name),
        ((Enumeration.reached valueFits key.values).foldl readValue ([], os.memory)).1⟩ := by
  unfold regRead
  rw [known]
  dsimp only
  rw [found]
  dsimp only
  rw [Option.bind_eq_bind, Option.bind_eq_some_iff]
  simp only [Option.bind_eq_bind, Option.bind_eq_some_iff, Enumeration.loop_eq_some_iff,
    foldl_names, List.nil_append, lt_min_iff]
  constructor
  · rintro ⟨_, ⟨fewNames, enoughNames, rfl⟩, _, ⟨fewValues, enoughValues, rfl⟩, read⟩
    cases read
    exact ⟨⟨⟨fewNames, enoughNames⟩, fewValues, enoughValues⟩, rfl⟩
  · rintro ⟨⟨⟨fewNames, enoughNames⟩, fewValues, enoughValues⟩, rfl⟩
    exact ⟨_, ⟨fewNames, enoughNames, rfl⟩, _, ⟨fewValues, enoughValues, rfl⟩, rfl⟩

/-- What `reg_read` reports is complete exactly when everything fits: there is one entry a subkey
and one a value, in their order, when all names have at most 255 characters and all data at most
4096 bytes, and only then; more than the index can count are never read to the end. -/
theorem regRead_complete_iff (known : parseHkey path = (some hive, subpath))
    (found : registry.openKey os hive (keyNames os subpath) = some key) :
    (∃ fuel info, regRead os fuel path registry = some (some info) ∧
        info.subkeys = (registry.subkeys os hive (keyNames os subpath)).map
          (fun name => w2u8 (cStr name)) ∧
        entryTypes info.values =
          key.values.map fun v => (w2u8 (cStr v.name), typeText v.type)) ↔
      ((∀ name ∈ registry.subkeys os hive (keyNames os subpath), name.length ≤ 255) ∧
          (registry.subkeys os hive (keyNames os subpath)).length < 2 ^ 32) ∧
        (∀ value ∈ key.values, value.name.length ≤ 255 ∧ value.data.length ≤ 4096) ∧
          key.values.length < 2 ^ 32 := by
  have names_iff : (∀ name ∈ registry.subkeys os hive (keyNames os subpath),
      name.length ≤ 255) ↔ Enumeration.reached nameFits
        (registry.subkeys os hive (keyNames os subpath)) =
          registry.subkeys os hive (keyNames os subpath) := by
    simp only [Enumeration.reached_eq_self_iff, nameFits, decide_eq_true_eq, Nat.lt_succ_iff]
  have values_iff : (∀ value ∈ key.values, value.name.length ≤ 255 ∧ value.data.length ≤ 4096) ↔
      Enumeration.reached valueFits key.values = key.values := by
    simp only [Enumeration.reached_eq_self_iff, valueFits, Bool.and_eq_true, decide_eq_true_eq,
      Nat.lt_succ_iff]
  rw [names_iff, values_iff]
  simp only [regRead_eq_some_iff known found, lt_min_iff]
  constructor
  · rintro ⟨fuel, info, ⟨⟨⟨fewNames, -⟩, fewValues, -⟩, rfl⟩, sameNames, sameValues⟩
    rw [entryTypes_foldl] at sameValues
    have allNames := Enumeration.reached_eq_self_of_length
      (by simpa only [List.length_map] using congrArg List.length sameNames)
    have allValues := Enumeration.reached_eq_self_of_length
      (by simpa only [entryTypes, List.map_nil, List.nil_append, List.length_map] using
        congrArg List.length sameValues)
    rw [allNames] at fewNames
    rw [allValues] at fewValues
    exact ⟨⟨allNames, fewNames⟩, allValues, fewValues⟩
  · rintro ⟨⟨allNames, fewNames⟩, allValues, fewValues⟩
    refine ⟨2 ^ 32, _, ⟨⟨⟨?_, ?_⟩, ?_, ?_⟩, rfl⟩, ?_, ?_⟩
    · rw [allNames]
      exact fewNames
    · rw [allNames]
      exact fewNames
    · rw [allValues]
      exact fewValues
    · rw [allValues]
      exact fewValues
    · rw [allNames]
    · rw [entryTypes_foldl, allValues]
      rfl

end

/-- The predefined keys, with values in that of the user. -/
def userRegistry (values : List RegValue) : Registry where
  keys := [⟨.localMachine, [], []⟩, ⟨.currentUser, [], values⟩, ⟨.classesRoot, [], []⟩,
    ⟨.users, [], []⟩]
  rooted hive := by cases hive <;> simp

theorem parseHkey_user : parseHkey (ascii "HKCU") = (some .currentUser, []) := by
  decide

/-- A system that permits everything and takes a subpath for one name. -/
def permissive : RegistrySystem where
  names subpath := if subpath.isEmpty then [] else [subpath]
  fold := id
  creates _ _ _ := true
  sets _ _ _ _ := true
  memory := []

/-- A value that fits is reported. -/
theorem regRead_complete_one :
    ∃ fuel info, regRead permissive fuel (ascii "HKCU") (userRegistry [szValue (ascii "a")
      (ascii "b")]) = some (some info) ∧ entryTypes info.values = [(ascii "a", ascii "SZ")] := by
  have found : (userRegistry [szValue (ascii "a") (ascii "b")]).openKey permissive .currentUser
      (keyNames permissive []) = some ⟨.currentUser, [], [szValue (ascii "a") (ascii "b")]⟩ := rfl
  obtain ⟨fuel, info, read, -, entries⟩ :=
    (regRead_complete_iff parseHkey_user found).mpr (by decide +kernel)
  exact ⟨fuel, info, read, entries.trans (by decide +kernel)⟩

/-- A value of 4097 bytes hides itself and the one behind it. -/
theorem large_value_hides_others :
    regRead permissive 1 (ascii "HKCU")
        (userRegistry [⟨[0x61], 3, List.replicate 4097 0⟩, szValue (ascii "b") (ascii "c")]) =
      some (some ⟨ascii "HKCU", [], []⟩) := by
  decide +kernel

end WinInspect.Win32
