import WinInspect.Core.Types
import WinInspect.Core.Win32Text
import WinInspect.Json.Parser

/-!
# The environment

`env_get_all` and `env_set` of `Win32Backend` over the environment block of the process: strings
`name=value`, each behind the other with its terminator, and a terminator at the end.
-/

namespace WinInspect.Win32

/-- The equals sign. -/
def equals : UInt16 := 0x3D

/-- The strings of an environment block. -/
structure Environment where
  entries : List Wide
  terminated : ∀ entry ∈ entries, entry ≠ [] ∧ 0 ∉ entry

namespace Environment

/-- `GetEnvironmentStringsW`: the block in memory. -/
def block (environment : Environment) : Wide :=
  environment.entries.flatMap (fun entry => entry ++ [0]) ++ [0]

/-- The name of an entry.  An equals sign in front belongs to it. -/
def entryName : Wide → Wide
  | [] => []
  | u :: rest => u :: rest.takeWhile fun v => v != equals

/-- What the system decides about variables. -/
structure Rules where
  /-- Names with one image are the same name. -/
  fold : Wide → Wide
  /-- Whether `SetEnvironmentVariableW` succeeds with a name it can store. -/
  permits : List Wide → Wide → Wide → Bool

/-- `SetEnvironmentVariableW` when it succeeds: the variable gets the name and the value it is
given. -/
def put (rules : Rules) (environment : Environment) (name value : Wide) (named : 0 ∉ name)
    (valued : 0 ∉ value) : Environment where
  entries := environment.entries.filter (fun entry =>
    rules.fold (entryName entry) != rules.fold name) ++ [name ++ equals :: value]
  terminated entry member := by
    rcases List.mem_append.mp member with old | new
    · exact environment.terminated entry (List.mem_of_mem_filter old)
    · obtain rfl := List.mem_singleton.mp new
      refine ⟨by simp, ?_⟩
      rw [List.mem_append, List.mem_cons, not_or, not_or]
      exact ⟨named, by decide, valued⟩

end Environment

/-- `env_set`.  The system refuses an empty name and one with an equals sign in it. -/
def envSet (rules : Environment.Rules) (name value : Bytes) (environment : Environment) :
    Bool × Environment :=
  let wname := cStr (widen name)
  let wval := cStr (widen value)
  if wname ≠ [] ∧ equals ∉ wname ∧ rules.permits environment.entries wname wval = true then
    (true, environment.put rules wname wval (zero_notMem_cStr _) (zero_notMem_cStr _))
  else (false, environment)

/-- The variable of an entry, split at its first equals sign unless that stands in front. -/
def envVar (s : Wide) : Option EnvVar :=
  let name := s.takeWhile fun u => u != equals
  if name.length < s.length ∧ 0 < name.length then
    some ⟨w2u8 name, w2u8 (s.drop (name.length + 1))⟩
  else none

/-- The loop of `env_get_all`, from a pointer into the block. -/
def envLoop (curr : Wide) : List EnvVar :=
  let s := cStr curr
  if s = [] then []
  else (envVar s).toList ++ envLoop (curr.drop (s.length + 1))
termination_by curr.length
decreasing_by
  have some : curr ≠ [] := by
    rintro rfl
    contradiction
  have positive := List.length_pos_iff.mpr some
  rw [List.length_drop]
  omega

/-- `env_get_all`. -/
def envGetAll (environment : Environment) : List EnvVar :=
  envLoop environment.block

/-! ## Reading the block -/

/-- The walk ends where the block does, whatever stands behind it in memory. -/
theorem envLoop_block (entries : List Wide)
    (terminated : ∀ entry ∈ entries, entry ≠ [] ∧ 0 ∉ entry) (beyond : Wide) :
    envLoop (entries.flatMap (fun entry => entry ++ [0]) ++ 0 :: beyond) =
      entries.flatMap fun entry => (envVar entry).toList := by
  induction entries with
  | nil =>
      rw [envLoop]
      rfl
  | cons entry entries ih =>
      obtain ⟨⟨filled, free⟩, others⟩ := List.forall_mem_cons.mp terminated
      have split : (entry :: entries).flatMap (fun entry => entry ++ [0]) ++ 0 :: beyond =
          entry ++ 0 :: (entries.flatMap (fun entry => entry ++ [0]) ++ 0 :: beyond) := by
        simp
      have rest : (entry ++ 0 :: (entries.flatMap (fun entry => entry ++ [0]) ++ 0 :: beyond)).drop
          (entry.length + 1) = entries.flatMap (fun entry => entry ++ [0]) ++ 0 :: beyond := by
        simp
      rw [split, envLoop, cStr_append_zero free, if_neg filled, rest, ih others, List.flatMap_cons]

/-- The entries of the block are read one by one. -/
theorem envGetAll_eq (environment : Environment) :
    envGetAll environment = environment.entries.flatMap fun entry => (envVar entry).toList :=
  envLoop_block _ environment.terminated []

theorem envLoop_block_append (environment : Environment) (beyond : Wide) :
    envLoop (environment.block ++ beyond) = envGetAll environment := by
  rw [envGetAll_eq, Environment.block, List.append_assoc]
  exact envLoop_block _ environment.terminated beyond

/-- An entry with a name is read as its variable. -/
theorem envVar_append {name : Wide} (filled : name ≠ []) (plain : equals ∉ name) (value : Wide) :
    envVar (name ++ equals :: value) = some ⟨w2u8 name, w2u8 value⟩ := by
  have front := takeWhile_bne_append plain value
  have back : (name ++ equals :: value).drop (name.length + 1) = value := by simp
  have inside : name.length < (name ++ equals :: value).length ∧ 0 < name.length := by
    rw [List.length_append, List.length_cons]
    exact ⟨by omega, List.length_pos_iff.mpr filled⟩
  rw [envVar, front, if_pos inside, back]

/-- A variable that is set is read last, behind those with other names. -/
theorem envGetAll_envSet {rules : Environment.Rules} {name value : Bytes}
    {environment : Environment} (done : (envSet rules name value environment).1 = true) :
    envGetAll (envSet rules name value environment).2 =
      (environment.entries.filter fun entry => rules.fold (Environment.entryName entry) !=
          rules.fold (cStr (widen name))).flatMap (fun entry => (envVar entry).toList) ++
        [⟨w2u8 (cStr (widen name)), w2u8 (cStr (widen value))⟩] := by
  unfold envSet at *
  dsimp only at *
  split at done
  · rename_i accepted
    rw [if_pos accepted, envGetAll_eq, Environment.put, List.flatMap_append,
      List.flatMap_singleton, envVar_append accepted.1 accepted.2.1]
    rfl
  · cases done

/-! ## What the entries show -/

/-- The name and the value an entry shows: what stands around its first equals sign, unless that
is in front or there is none. -/
inductive Shows : Wide → Option (Wide × Wide) → Prop
  | named {name : Wide} (value : Wide) (filled : name ≠ []) (plain : equals ∉ name) :
      Shows (name ++ equals :: value) (some (name, value))
  | drive (rest : Wide) : Shows (equals :: rest) none
  | unsplit {entry : Wide} (plain : equals ∉ entry) : Shows entry none

/-- A name and a value as the response has them. -/
def envPair (pair : Wide × Wide) : EnvVar :=
  ⟨w2u8 pair.1, w2u8 pair.2⟩

theorem exists_shows (entry : Wide) : ∃ shown, Shows entry shown := by
  by_cases plain : equals ∈ entry
  · obtain ⟨name, value, rfl, first⟩ := List.eq_append_cons_of_mem plain
    by_cases filled : name = []
    · subst filled
      exact ⟨none, .drive value⟩
    · exact ⟨some (name, value), .named value filled first⟩
  · exact ⟨none, .unsplit plain⟩

theorem Shows.envVar_eq {entry : Wide} {shown : Option (Wide × Wide)} (shows : Shows entry shown) :
    envVar entry = shown.map envPair := by
  cases shows with
  | named value filled plain => exact envVar_append filled plain value
  | drive rest =>
      have front : (equals :: rest).takeWhile (fun u => u != equals) = [] := by simp
      rw [envVar, front, if_neg (by simp)]
      rfl
  | unsplit plain =>
      have whole : entry.takeWhile (fun u => u != equals) = entry :=
        List.takeWhile_eq_self_iff.mpr fun u member => by
          rw [bne_iff_ne]
          rintro rfl
          exact plain member
      rw [envVar, whole, if_neg (by omega)]
      rfl

theorem flatMap_envVar {entries : List Wide} {shown : List (Option (Wide × Wide))}
    (shows : List.Forall₂ Shows entries shown) :
    entries.flatMap (fun entry => (envVar entry).toList) = shown.reduceOption.map envPair := by
  induction shows with
  | nil => rfl
  | @cons entry pair _ _ head _ ih =>
      rw [List.flatMap_cons, ih, head.envVar_eq]
      cases pair <;> rfl

theorem exists_forall₂_shows (entries : List Wide) :
    ∃ shown, List.Forall₂ Shows entries shown := by
  induction entries with
  | nil => exact ⟨[], .nil⟩
  | cons entry entries ih =>
      obtain ⟨pair, head⟩ := exists_shows entry
      obtain ⟨rest, tail⟩ := ih
      exact ⟨pair :: rest, .cons head tail⟩

/-- Entries that are laid out from names and values give them back. -/
theorem envGetAll_of_pairs {environment : Environment} {pairs : List (Wide × Wide)}
    (laid : environment.entries = pairs.map fun pair => pair.1 ++ equals :: pair.2)
    (named : ∀ pair ∈ pairs, pair.1 ≠ [] ∧ equals ∉ pair.1) :
    envGetAll environment = pairs.map envPair := by
  have shows : List.Forall₂ Shows environment.entries (pairs.map some) := by
    rw [laid, List.forall₂_map_left_iff, List.forall₂_map_right_iff, List.forall₂_same]
    exact fun pair member => .named pair.2 (named pair member).1 (named pair member).2
  rw [envGetAll_eq, flatMap_envVar shows]
  change ((pairs.map some).filterMap id).map envPair = _
  rw [List.filterMap_map, Function.id_comp, List.filterMap_some]

/-- The UTF-16 forms of a name and its value. -/
def utf16Pair (text : List Char × List Char) : Wide × Wide :=
  (utf16 text.1, utf16 text.2)

theorem envPair_utf16Pair (text : List Char × List Char) :
    envPair (utf16Pair text) = ⟨utf8 text.1, utf8 text.2⟩ := by
  rw [envPair, utf16Pair, w2u8, w2u8, decodeUtf16_utf16, decodeUtf16_utf16]

theorem utf16Pair_named {text : List Char × List Char} (named : text.1 ≠ [] ∧ '=' ∉ text.1) :
    (utf16Pair text).1 ≠ [] ∧ equals ∉ (utf16Pair text).1 := by
  constructor
  · intro empty
    apply named.1
    rw [← decodeUtf16_utf16 text.1, show utf16 text.1 = [] from empty]
    rfl
  · exact fun member => named.2 ((mem_utf16 (by decide) text.1).mp member)

/-- The environment is read exactly: the walk ends with the block, every entry shows at most one
variable, and the variables shown are returned in their order.  Names and values that were laid out
as entries come back, and texts come back in UTF-8. -/
theorem envGetAll_exact (environment : Environment) :
    (∀ beyond, envLoop (environment.block ++ beyond) = envGetAll environment) ∧
    (∃ shown, List.Forall₂ Shows environment.entries shown ∧
      envGetAll environment = shown.reduceOption.map envPair) ∧
    (∀ pairs : List (Wide × Wide),
      environment.entries = pairs.map (fun pair => pair.1 ++ equals :: pair.2) →
      (∀ pair ∈ pairs, pair.1 ≠ [] ∧ equals ∉ pair.1) →
      envGetAll environment = pairs.map envPair) ∧
    (∀ texts : List (List Char × List Char),
      environment.entries = texts.map (fun text => utf16 text.1 ++ equals :: utf16 text.2) →
      (∀ text ∈ texts, text.1 ≠ [] ∧ '=' ∉ text.1) →
      envGetAll environment = texts.map fun text => ⟨utf8 text.1, utf8 text.2⟩) := by
  refine ⟨envLoop_block_append environment, ?_, fun pairs laid named =>
    envGetAll_of_pairs laid named, fun texts laid named => ?_⟩
  · obtain ⟨shown, shows⟩ := exists_forall₂_shows environment.entries
    exact ⟨shown, shows, (envGetAll_eq environment).trans (flatMap_envVar shows)⟩
  · have layout : environment.entries =
        (texts.map utf16Pair).map fun pair => pair.1 ++ equals :: pair.2 := by
      rw [laid, List.map_map]
      rfl
    have named' : ∀ pair ∈ texts.map utf16Pair, pair.1 ≠ [] ∧ equals ∉ pair.1 :=
      List.forall_mem_map.mpr fun text member => utf16Pair_named (named text member)
    rw [envGetAll_of_pairs layout named', List.map_map]
    exact List.map_congr_left fun text _ => envPair_utf16Pair text

/-- A block of two variables. -/
def pairedEnvironment : Environment where
  entries := [utf16 "A=b=ä".toList, utf16 "E=".toList]
  terminated := by decide

theorem envGetAll_exact_paired :
    envGetAll pairedEnvironment =
      [⟨utf8 ['A'], utf8 ['b', '=', 'ä']⟩, ⟨utf8 ['E'], utf8 []⟩] :=
  (envGetAll_exact pairedEnvironment).2.2.2 [(['A'], ['b', '=', 'ä']), (['E'], [])]
    (by decide) (by decide)

end WinInspect.Win32
