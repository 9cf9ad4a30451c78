import Mathlib.Order.Basic
import Mathlib.Data.List.Pairwise
import Mathlib.Data.List.Sort

/-!
# Sorted association lists

The entries of an ordered map, as a list with strictly increasing keys.  The
functions work on plain lists so that they can be used inside a nested inductive
type; `Sorted` is the invariant they keep.
-/

namespace WinInspect.Assoc

universe u v

variable {κ : Type u} {ν : Type v} [LinearOrder κ]

/-- The value stored under a key. -/
def find (key : κ) : List (κ × ν) → Option ν
  | [] => none
  | (other, value) :: rest => if other = key then some value else find key rest

/-- Insert or overwrite, as `m[key] = value` does. -/
def assign (key : κ) (value : ν) : List (κ × ν) → List (κ × ν)
  | [] => [(key, value)]
  | (other, old) :: rest =>
      if key < other then (key, value) :: (other, old) :: rest
      else if key = other then (key, value) :: rest
      else (other, old) :: assign key value rest

/-- Insert unless the key is present, as `m.emplace(key, value)` does. -/
def emplace (key : κ) (value : ν) : List (κ × ν) → List (κ × ν)
  | [] => [(key, value)]
  | (other, old) :: rest =>
      if key < other then (key, value) :: (other, old) :: rest
      else if key = other then (other, old) :: rest
      else (other, old) :: emplace key value rest

/-- Keys strictly increase along the list. -/
def Sorted (entries : List (κ × ν)) : Prop :=
  entries.Pairwise fun left right => left.1 < right.1

instance (entries : List (κ × ν)) : Decidable (Sorted entries) :=
  inferInstanceAs (Decidable (List.Pairwise _ _))

theorem sorted_nil : Sorted ([] : List (κ × ν)) :=
  List.Pairwise.nil

@[simp]
theorem find_nil (key : κ) : find key ([] : List (κ × ν)) = none :=
  rfl

theorem find_cons (key other : κ) (value : ν) (rest : List (κ × ν)) :
    find key ((other, value) :: rest) = if other = key then some value else find key rest :=
  rfl

@[simp]
theorem find_assign_self (key : κ) (value : ν) (entries : List (κ × ν)) :
    find key (assign key value entries) = some value := by
  induction entries with
  | nil => simp [assign, find]
  | cons entry rest ih =>
      obtain ⟨other, old⟩ := entry
      simp only [assign]
      split
      · simp [find]
      · split
        · simp [find]
        · rename_i different
          rw [find_cons, if_neg (Ne.symm different), ih]

theorem find_assign_of_ne {key other : κ} (different : other ≠ key) (value : ν)
    (entries : List (κ × ν)) :
    find other (assign key value entries) = find other entries := by
  induction entries with
  | nil => simp [assign, find, Ne.symm different]
  | cons entry rest ih =>
      obtain ⟨head, old⟩ := entry
      simp only [assign]
      split
      · simp [find, Ne.symm different]
      · split
        · rename_i same
          subst same
          simp [find, Ne.symm different]
        · simp only [find_cons, ih]

/-- Assignments under other keys leave what is found under a key as it is. -/
theorem find_foldl_assign_of_forall_ne {α : Type*} (keyOf : α → κ) (valueOf : α → ν) {key : κ}
    {items : List α} (others : ∀ item ∈ items, keyOf item ≠ key) (entries : List (κ × ν)) :
    find key (items.foldl (fun o item => assign (keyOf item) (valueOf item) o) entries) =
      find key entries := by
  induction items generalizing entries with
  | nil => rfl
  | cons item rest ih =>
      obtain ⟨different, restOthers⟩ := List.forall_mem_cons.mp others
      rw [List.foldl_cons, ih restOthers, find_assign_of_ne (Ne.symm different)]

theorem forall_mem_assign {property : κ × ν → Prop} {key : κ} {value : ν}
    (holds : property (key, value)) {entries : List (κ × ν)}
    (all : ∀ entry ∈ entries, property entry) :
    ∀ entry ∈ assign key value entries, property entry := by
  induction entries with
  | nil => exact List.forall_mem_singleton.mpr holds
  | cons entry rest ih =>
      obtain ⟨other, old⟩ := entry
      rw [List.forall_mem_cons] at all
      unfold assign
      split
      · exact List.forall_mem_cons.mpr ⟨holds, List.forall_mem_cons.mpr all⟩
      · split
        · exact List.forall_mem_cons.mpr ⟨holds, all.2⟩
        · exact List.forall_mem_cons.mpr ⟨all.1, ih all.2⟩

/-- Assigning keeps the order of the keys. -/
theorem Sorted.assign {entries : List (κ × ν)} (sorted : Sorted entries) (key : κ) (value : ν) :
    Sorted (assign key value entries) := by
  induction entries with
  | nil => exact List.pairwise_singleton _ _
  | cons entry rest ih =>
      obtain ⟨other, old⟩ := entry
      obtain ⟨above, restSorted⟩ := List.pairwise_cons.mp sorted
      unfold Assoc.assign
      split
      · rename_i below
        refine List.pairwise_cons.mpr ⟨?_, sorted⟩
        exact List.forall_mem_cons.mpr ⟨below, fun entry member => below.trans (above entry member)⟩
      · rename_i notBelow
        split
        · rename_i same
          subst same
          exact List.pairwise_cons.mpr ⟨above, restSorted⟩
        · rename_i different
          have large : other < key := lt_of_le_of_ne (not_lt.mp notBelow) (Ne.symm different)
          exact List.pairwise_cons.mpr ⟨forall_mem_assign large above, ih restSorted⟩

theorem mem_of_find {key : κ} {value : ν} {entries : List (κ × ν)}
    (found : find key entries = some value) : (key, value) ∈ entries := by
  induction entries with
  | nil => cases found
  | cons entry rest ih =>
      obtain ⟨other, old⟩ := entry
      rw [find_cons] at found
      by_cases same : other = key
      · rw [if_pos same] at found
        cases found
        exact same ▸ List.mem_cons_self
      · rw [if_neg same] at found
        exact List.mem_cons_of_mem _ (ih found)

/-- Assigning the value that is stored changes nothing. -/
theorem assign_of_find {entries : List (κ × ν)} (sorted : Sorted entries) {key : κ} {value : ν}
    (found : find key entries = some value) : assign key value entries = entries := by
  induction entries with
  | nil => cases found
  | cons entry rest ih =>
      obtain ⟨other, old⟩ := entry
      obtain ⟨above, restSorted⟩ := List.pairwise_cons.mp sorted
      rw [find_cons] at found
      unfold assign
      by_cases same : other = key
      · subst same
        rw [if_pos rfl] at found
        cases found
        rw [if_neg (lt_irrefl other), if_pos rfl]
      · rw [if_neg same] at found
        have large : other < key := above _ (mem_of_find found)
        rw [if_neg large.asymm, if_neg large.ne', ih restSorted found]

theorem emplace_cases (key : κ) (value : ν) (entries : List (κ × ν)) :
    emplace key value entries = entries ∨
      emplace key value entries = assign key value entries := by
  induction entries with
  | nil => exact Or.inr rfl
  | cons entry rest ih =>
      obtain ⟨other, old⟩ := entry
      unfold emplace assign
      by_cases below : key < other
      · exact Or.inr (by rw [if_pos below, if_pos below])
      · by_cases same : key = other
        · exact Or.inl (by rw [if_neg below, if_pos same])
        · rw [if_neg below, if_neg same, if_neg below, if_neg same]
          rcases ih with kept | assigned
          · exact Or.inl (by rw [kept])
          · exact Or.inr (by rw [assigned])

/-- Emplacing keeps the order of the keys. -/
theorem Sorted.emplace {entries : List (κ × ν)} (sorted : Sorted entries) (key : κ) (value : ν) :
    Sorted (emplace key value entries) := by
  rcases emplace_cases key value entries with kept | assigned
  · rw [kept]
    exact sorted
  · rw [assigned]
    exact sorted.assign key value

theorem forall_mem_emplace {property : κ × ν → Prop} {key : κ} {value : ν}
    (holds : property (key, value)) {entries : List (κ × ν)}
    (all : ∀ entry ∈ entries, property entry) :
    ∀ entry ∈ emplace key value entries, property entry := by
  induction entries with
  | nil => simpa [emplace] using holds
  | cons entry rest ih =>
      obtain ⟨other, old⟩ := entry
      have restAll := (List.forall_mem_cons.mp all).2
      unfold emplace
      split
      · exact List.forall_mem_cons.mpr ⟨holds, all⟩
      · split
        · exact all
        · exact List.forall_mem_cons.mpr ⟨(List.forall_mem_cons.mp all).1, ih restAll⟩

theorem find_of_forall_ne {key : κ} {entries : List (κ × ν)}
    (absent : ∀ entry ∈ entries, entry.1 ≠ key) : find key entries = none := by
  induction entries with
  | nil => rfl
  | cons entry rest ih =>
      obtain ⟨different, restAbsent⟩ := List.forall_mem_cons.mp absent
      rw [find_cons, if_neg different, ih restAbsent]

theorem find_append (key : κ) (front back : List (κ × ν)) :
    find key (front ++ back) = (find key front).or (find key back) := by
  induction front with
  | nil => rfl
  | cons entry rest ih =>
      rw [List.cons_append, find_cons, find_cons]
      split
      · rfl
      · exact ih

/-- Emplacing adds a value where there is none. -/
theorem find_emplace {entries : List (κ × ν)} (sorted : Sorted entries) (key other : κ)
    (value : ν) : find other (emplace key value entries) =
      (find other entries).or (if key = other then some value else none) := by
  induction entries with
  | nil => rfl
  | cons entry rest ih =>
      obtain ⟨head, old⟩ := entry
      obtain ⟨above, restSorted⟩ := List.pairwise_cons.mp sorted
      unfold emplace
      split
      · rename_i below
        rw [find_cons other key]
        by_cases same : key = other
        · subst same
          have absent : ∀ entry ∈ (head, old) :: rest, entry.1 ≠ key :=
            List.forall_mem_cons.mpr ⟨below.ne', fun entry member =>
              (below.trans (above entry member)).ne'⟩
          rw [find_of_forall_ne absent]
          simp
        · simp [same]
      · split
        · rename_i same
          subst same
          by_cases found : key = other
          · subst found
            simp [find_cons]
          · simp [found]
        · rw [find_cons, find_cons, ih restSorted]
          split
          · rfl
          · rfl

theorem find_of_mem {entries : List (κ × ν)} (sorted : Sorted entries) {key : κ} {value : ν}
    (member : (key, value) ∈ entries) : find key entries = some value := by
  induction entries with
  | nil => cases member
  | cons entry rest ih =>
      obtain ⟨above, restSorted⟩ := List.pairwise_cons.mp sorted
      rw [find_cons]
      rcases List.mem_cons.mp member with same | member
      · subst same
        rw [if_pos rfl]
      · rw [if_neg (above _ member).ne, ih restSorted member]

/-- A sorted list is determined by what is found in it. -/
theorem Sorted.ext {left right : List (κ × ν)} (leftSorted : Sorted left)
    (rightSorted : Sorted right) (same : ∀ key, find key left = find key right) :
    left = right := by
  have irreflexive : Std.Irrefl fun (entry other : κ × ν) => entry.1 < other.1 :=
    ⟨fun entry => lt_irrefl entry.1⟩
  apply List.Pairwise.eq_of_mem_iff leftSorted rightSorted
  rintro ⟨key, value⟩
  constructor
  · intro member
    exact mem_of_find ((same key).symm.trans (find_of_mem leftSorted member))
  · intro member
    exact mem_of_find ((same key).trans (find_of_mem rightSorted member))

/-- Emplacing a new key adds one entry. -/
theorem emplace_perm {key : κ} (value : ν) {entries : List (κ × ν)}
    (absent : ∀ entry ∈ entries, entry.1 ≠ key) :
    (emplace key value entries).Perm ((key, value) :: entries) := by
  induction entries with
  | nil => exact List.Perm.refl _
  | cons entry rest ih =>
      obtain ⟨other, old⟩ := entry
      obtain ⟨different, restAbsent⟩ := List.forall_mem_cons.mp absent
      rw [emplace]
      split
      · exact List.Perm.refl _
      · rw [if_neg (Ne.symm different)]
        exact ((ih restAbsent).cons _).trans (List.Perm.swap _ _ _)

/-- Emplacing a key above all present ones appends it. -/
theorem emplace_of_forall_lt {key : κ} (value : ν) {entries : List (κ × ν)}
    (below : ∀ entry ∈ entries, entry.1 < key) :
    emplace key value entries = entries ++ [(key, value)] := by
  induction entries with
  | nil => rfl
  | cons entry rest ih =>
      obtain ⟨other, old⟩ := entry
      have otherLt : other < key := below (other, old) List.mem_cons_self
      have restBelow : ∀ entry ∈ rest, entry.1 < key :=
        fun entry member => below entry (List.mem_cons_of_mem _ member)
      rw [emplace, if_neg otherLt.asymm, if_neg otherLt.ne', ih restBelow, List.cons_append]

/-! ## Changing all values -/

section

variable {μ : Type v} (change : ν → μ)

/-- Change every value. -/
def mapValues (entries : List (κ × ν)) : List (κ × μ) :=
  entries.map fun entry => (entry.1, change entry.2)

theorem find_mapValues (key : κ) (entries : List (κ × ν)) :
    find key (mapValues change entries) = (find key entries).map change := by
  induction entries with
  | nil => rfl
  | cons entry rest ih =>
      rw [mapValues, List.map_cons, find_cons, find_cons]
      split
      · rfl
      · exact ih

theorem mapValues_assign (key : κ) (value : ν) (entries : List (κ × ν)) :
    mapValues change (assign key value entries) =
      assign key (change value) (mapValues change entries) := by
  induction entries with
  | nil => rfl
  | cons entry rest ih =>
      obtain ⟨other, old⟩ := entry
      change mapValues change (assign key value ((other, old) :: rest)) =
        assign key (change value) ((other, change old) :: mapValues change rest)
      unfold assign
      split
      · rfl
      · split
        · rfl
        · rw [← ih]
          rfl

theorem Sorted.mapValues {entries : List (κ × ν)} (sorted : Sorted entries) :
    Sorted (mapValues change entries) :=
  List.pairwise_map.mpr sorted

end

end WinInspect.Assoc
