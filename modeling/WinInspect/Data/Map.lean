import Mathlib.Data.Finmap

/-!
# Maps

`std::map` as a Mathlib `Finmap` with a constant family of value types: the
operations of the standard container that `Finmap` does not have under one name,
each with its lookup equation.
-/

namespace WinInspect

universe u v

/-- A finite map from `κ` to `ν`. -/
abbrev Map (κ : Type u) (ν : Type v) := Finmap fun _ : κ => ν

namespace Map

variable {κ : Type u} {ν : Type v} [DecidableEq κ]

theorem lookup_insert_eq (key other : κ) (value : ν) (m : Map κ ν) :
    (m.insert key value).lookup other = if other = key then some value else m.lookup other := by
  split
  · rename_i same
    subst same
    exact Finmap.lookup_insert m
  · rename_i different
    exact Finmap.lookup_insert_of_ne m different

theorem lookup_erase_eq (key other : κ) (m : Map κ ν) :
    (m.erase key).lookup other = if other = key then none else m.lookup other := by
  split
  · rename_i same
    subst same
    exact Finmap.lookup_erase other m
  · rename_i different
    exact Finmap.lookup_erase_ne different

/-- `m.emplace(key, value)`: insert unless the key is present. -/
def emplace (key : κ) (value : ν) (m : Map κ ν) : Map κ ν :=
  if key ∈ m then m else m.insert key value

theorem mem_emplace {key other : κ} {value : ν} {m : Map κ ν} :
    other ∈ emplace key value m ↔ other = key ∨ other ∈ m := by
  unfold emplace
  split
  · rename_i present
    constructor
    · exact Or.inr
    · rintro (rfl | member)
      · exact present
      · exact member
  · exact Finmap.mem_insert

theorem emplace_of_not_mem {key : κ} (value : ν) {m : Map κ ν} (absent : key ∉ m) :
    emplace key value m = m.insert key value :=
  if_neg absent

/-- Modify `m[key]`, which is default-constructed when it is absent. -/
def modify [Inhabited ν] (key : κ) (change : ν → ν) (m : Map κ ν) : Map κ ν :=
  m.insert key (change ((m.lookup key).getD default))

theorem lookup_modify_eq [Inhabited ν] (key other : κ) (change : ν → ν) (m : Map κ ν) :
    (m.modify key change).lookup other =
      if other = key then some (change ((m.lookup key).getD default)) else m.lookup other :=
  lookup_insert_eq key other _ m

theorem keys_insert (key : κ) (value : ν) (m : Map κ ν) :
    (m.insert key value).keys = Insert.insert key m.keys := by
  ext other
  rw [Finmap.mem_keys, Finmap.mem_insert, Finset.mem_insert, Finmap.mem_keys]

theorem keys_modify [Inhabited ν] (key : κ) (change : ν → ν) (m : Map κ ν) :
    (m.modify key change).keys = Insert.insert key m.keys :=
  keys_insert key _ m

/-- Set or clear the value of a key. -/
def put (key : κ) (value : Option ν) (m : Map κ ν) : Map κ ν :=
  match value with
  | some v => m.insert key v
  | none => m.erase key

theorem lookup_put_eq (key other : κ) (value : Option ν) (m : Map κ ν) :
    (m.put key value).lookup other = if other = key then value else m.lookup other := by
  cases value with
  | some v => exact lookup_insert_eq key other v m
  | none => exact lookup_erase_eq key other m

/-- Keep the entries that satisfy a predicate. -/
def retain (keep : κ → ν → Bool) (m : Map κ ν) : Map κ ν where
  entries := m.entries.filter fun entry => keep entry.1 entry.2
  nodupKeys := Multiset.nodup_keys.mp
    (Multiset.nodup_of_le (Multiset.map_le_map (Multiset.filter_le _ _)) m.nodupKeys.nodup_keys)

theorem lookup_retain_eq_some_iff {keep : κ → ν → Bool} {m : Map κ ν} {key : κ} {value : ν} :
    (m.retain keep).lookup key = some value ↔ m.lookup key = some value ∧ keep key value := by
  have kept := Finmap.lookup_eq_some_iff (s := m.retain keep) (a := key) (b := value)
  have present := Finmap.lookup_eq_some_iff (s := m) (a := key) (b := value)
  exact kept.trans (Multiset.mem_filter.trans (and_congr_left' present.symm))

theorem lookup_retain (keep : κ → ν → Bool) (m : Map κ ν) (key : κ) :
    (m.retain keep).lookup key = (m.lookup key).filter (keep key) := by
  apply Option.ext
  intro value
  rw [lookup_retain_eq_some_iff, Option.filter_eq_some_iff]

theorem keys_retain_subset (keep : κ → ν → Bool) (m : Map κ ν) :
    (m.retain keep).keys ⊆ m.keys := by
  intro key member
  obtain ⟨value, found⟩ := Finmap.mem_iff.mp (Finmap.mem_keys.mp member)
  exact Finmap.mem_keys.mpr
    (Finmap.mem_of_lookup_eq_some (lookup_retain_eq_some_iff.mp found).1)

end Map

end WinInspect
