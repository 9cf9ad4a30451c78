import Mathlib.Data.List.Sort
import Mathlib.Data.Multiset.AddSub

/-!
# Differences of sorted lists

`difference` is the difference of two sorted sequences with repetitions, in one pass
over both.  `diff` turns one collection into another by additions and removals, and
`applyAll` carries them out on a multiset.
-/

namespace WinInspect.Diff

universe u

variable {α : Type u} [LinearOrder α]

/-- The elements of the first sorted list without those of the second, counted with
multiplicity. -/
def difference : List α → List α → List α
  | [], _ => []
  | first :: rest, other =>
      match other.dropWhile (· < first) with
      | [] => first :: difference rest []
      | second :: later =>
          if second = first then difference rest later
          else first :: difference rest (second :: later)

theorem count_dropWhile_lt {bound value : α} (le : bound ≤ value) (list : List α) :
    (list.dropWhile (· < bound)).count value = list.count value := by
  induction list with
  | nil => rfl
  | cons first rest inductionHypothesis =>
      rw [List.dropWhile_cons]
      split
      · rename_i below
        have different : first ≠ value := (lt_of_lt_of_le (by simpa using below) le).ne
        rw [inductionHypothesis, List.count_cons_of_ne different]
      · rfl

theorem le_of_mem_dropWhile_lt {bound value : α} {list : List α} (sorted : list.Pairwise (· ≤ ·))
    (member : value ∈ list.dropWhile (· < bound)) : bound ≤ value := by
  induction list with
  | nil => cases member
  | cons first rest inductionHypothesis =>
      obtain ⟨least, restSorted⟩ := List.pairwise_cons.mp sorted
      rw [List.dropWhile_cons] at member
      split at member
      · exact inductionHypothesis restSorted member
      · rename_i notBelow
        have large : bound ≤ first := by simpa using notBelow
        rcases List.mem_cons.mp member with rfl | later
        · exact large
        · exact large.trans (least value later)

theorem difference_sublist (left right : List α) : (difference left right).Sublist left := by
  induction left generalizing right with
  | nil => exact List.Sublist.refl []
  | cons first rest inductionHypothesis =>
      unfold difference
      split
      · exact (inductionHypothesis []).cons_cons first
      · split
        · exact (inductionHypothesis _).cons first
        · exact (inductionHypothesis _).cons_cons first

/-- The difference has every element as often as the first list has it more often than
the second. -/
theorem count_difference {left right : List α} (leftSorted : left.Pairwise (· ≤ ·))
    (rightSorted : right.Pairwise (· ≤ ·)) (value : α) :
    (difference left right).count value = left.count value - right.count value := by
  induction left generalizing right with
  | nil => simp [difference]
  | cons first rest inductionHypothesis =>
      obtain ⟨least, restSorted⟩ := List.pairwise_cons.mp leftSorted
      by_cases below : value < first
      · have absent : value ∉ first :: rest := by
          intro member
          rcases List.mem_cons.mp member with rfl | later
          · exact lt_irrefl value below
          · exact (least value later).not_gt below
        have none := List.count_eq_zero.mpr absent
        have fewer := (difference_sublist (first :: rest) right).count_le value
        omega
      · have same := count_dropWhile_lt (not_lt.mp below) right
        have laterSorted := rightSorted.sublist (List.dropWhile_sublist (· < first))
        have large : ∀ other ∈ right.dropWhile (· < first), first ≤ other :=
          fun other member => le_of_mem_dropWhile_lt rightSorted member
        rw [← same]
        unfold difference
        generalize right.dropWhile (· < first) = kept at laterSorted large ⊢
        cases kept with
        | nil =>
            dsimp only
            rw [List.count_cons, List.count_cons, inductionHypothesis restSorted List.Pairwise.nil]
            simp
        | cons second later =>
            obtain ⟨secondLeast, rest'⟩ := List.pairwise_cons.mp laterSorted
            dsimp only
            split
            · rename_i equal
              subst equal
              rw [inductionHypothesis restSorted rest', List.count_cons, List.count_cons]
              omega
            · rename_i different
              rw [List.count_cons, List.count_cons, inductionHypothesis restSorted laterSorted]
              by_cases head : first = value
              · subst head
                have absent : first ∉ second :: later := by
                  intro member
                  have strict : first < second :=
                    lt_of_le_of_ne (large second List.mem_cons_self) (Ne.symm different)
                  rcases List.mem_cons.mp member with rfl | below
                  · exact different rfl
                  · exact (secondLeast first below).not_gt strict
                rw [List.count_eq_zero.mpr absent]
                simp
              · simp [head]

/-- As multisets, the difference is the subtraction. -/
theorem coe_difference {left right : List α} (leftSorted : left.Pairwise (· ≤ ·))
    (rightSorted : right.Pairwise (· ≤ ·)) :
    (difference left right : Multiset α) = (left : Multiset α) - (right : Multiset α) := by
  ext value
  rw [Multiset.count_sub, Multiset.coe_count, Multiset.coe_count, Multiset.coe_count,
    count_difference leftSorted rightSorted]

/-! ## Additions and removals -/

/-- What the second collection has more often than the first, in ascending order. -/
def additions (old new : List α) : List α :=
  difference (new.insertionSort (· ≤ ·)) (old.insertionSort (· ≤ ·))

theorem count_additions (old new : List α) (value : α) :
    (additions old new).count value = new.count value - old.count value := by
  rw [additions, count_difference (List.pairwise_insertionSort _ new)
    (List.pairwise_insertionSort _ old), (List.perm_insertionSort _ new).count_eq,
    (List.perm_insertionSort _ old).count_eq]

theorem pairwise_additions (old new : List α) : (additions old new).Pairwise (· ≤ ·) :=
  (List.pairwise_insertionSort (· ≤ ·) new).sublist (difference_sublist _ _)

/-- No element is both added and removed. -/
theorem disjoint_additions (old new : List α) :
    (additions old new).Disjoint (additions new old) := by
  intro value added removed
  have more := List.count_pos_iff.mpr added
  have fewer := List.count_pos_iff.mpr removed
  rw [count_additions] at more fewer
  omega

theorem coe_additions_le (old new : List α) :
    (additions new old : Multiset α) ≤ (old : Multiset α) := by
  rw [Multiset.le_iff_count]
  intro value
  rw [Multiset.coe_count, Multiset.coe_count, count_additions]
  omega

/-- Removing the removals and adding the additions leads from one collection to the other. -/
theorem coe_sub_add (old new : List α) :
    (old : Multiset α) - (additions new old : Multiset α) + (additions old new : Multiset α) =
      (new : Multiset α) := by
  ext value
  rw [Multiset.count_add, Multiset.count_sub, Multiset.coe_count, Multiset.coe_count,
    Multiset.coe_count, Multiset.coe_count, count_additions, count_additions]
  omega

theorem additions_congr {old old' new new' : List α}
    (oldSame : (old' : Multiset α) = old) (newSame : (new' : Multiset α) = new) :
    additions old' new' = additions old new := by
  have sorted : ∀ {left right : List α}, (left : Multiset α) = right →
      left.insertionSort (· ≤ ·) = right.insertionSort (· ≤ ·) := by
    intro left right same
    refine List.Perm.eq_of_pairwise' (List.pairwise_insertionSort _ left)
      (List.pairwise_insertionSort _ right) ?_
    exact (List.perm_insertionSort _ left).trans
      ((Multiset.coe_eq_coe.mp same).trans (List.perm_insertionSort _ right).symm)
  rw [additions, additions, sorted oldSame, sorted newSame]

/-- Nothing is added and nothing removed exactly when the collections are the same. -/
theorem additions_eq_nil_iff (old new : List α) :
    additions old new = [] ∧ additions new old = [] ↔ (old : Multiset α) = new := by
  constructor
  · rintro ⟨added, removed⟩
    have reached := coe_sub_add old new
    rw [added, removed, Multiset.coe_nil, Multiset.add_zero, Multiset.sub_zero] at reached
    exact reached
  · intro same
    have fewer : ∀ {left right : List α}, (left : Multiset α) = right →
        additions left right = [] := by
      intro left right equal
      refine List.eq_nil_iff_forall_not_mem.mpr fun value member => ?_
      have more := List.count_pos_iff.mpr member
      have counts := congrArg (Multiset.count value) equal
      rw [Multiset.coe_count, Multiset.coe_count] at counts
      rw [count_additions] at more
      omega
    exact ⟨fewer same, fewer same.symm⟩

/-! ## Changes -/

/-- One change of a collection. -/
inductive Change (α : Type u) where
  | added (value : α)
  | removed (value : α)
  deriving DecidableEq

/-- Carry out one change. -/
def Change.apply (items : Multiset α) : Change α → Multiset α
  | .added value => value ::ₘ items
  | .removed value => items.erase value

/-- Carry out a list of changes, in order. -/
def applyAll (items : Multiset α) (changes : List (Change α)) : Multiset α :=
  changes.foldl Change.apply items

/-- The changes from one collection to another: the additions, then the removals, each
in ascending order. -/
def diff (old new : List α) : List (Change α) :=
  let old := old.insertionSort (· ≤ ·)
  let new := new.insertionSort (· ≤ ·)
  (difference new old).map Change.added ++ (difference old new).map Change.removed

theorem applyAll_added (items : Multiset α) (values : List α) :
    applyAll items (values.map Change.added) = items + (values : Multiset α) := by
  induction values generalizing items with
  | nil => simp [applyAll]
  | cons value rest inductionHypothesis =>
      have tail := inductionHypothesis (value ::ₘ items)
      unfold applyAll at tail ⊢
      rw [List.map_cons, List.foldl_cons, Change.apply, tail, ← Multiset.cons_coe,
        Multiset.cons_add, Multiset.add_cons]

theorem applyAll_removed (items : Multiset α) (values : List α) :
    applyAll items (values.map Change.removed) = items - (values : Multiset α) := by
  induction values generalizing items with
  | nil => simp [applyAll]
  | cons value rest inductionHypothesis =>
      have tail := inductionHypothesis (items.erase value)
      unfold applyAll at tail ⊢
      rw [List.map_cons, List.foldl_cons, Change.apply, tail, ← Multiset.cons_coe,
        Multiset.sub_cons]

/-- Carrying out the changes from one collection to another gives the other one. -/
theorem applyAll_diff (old new : List α) :
    applyAll (old : Multiset α) (diff old new) = (new : Multiset α) := by
  have oldSorted := List.pairwise_insertionSort (· ≤ ·) old
  have newSorted := List.pairwise_insertionSort (· ≤ ·) new
  have additions := coe_difference newSorted oldSorted
  have removals := coe_difference oldSorted newSorted
  rw [Multiset.coe_eq_coe.mpr (List.perm_insertionSort (· ≤ ·) old),
    Multiset.coe_eq_coe.mpr (List.perm_insertionSort (· ≤ ·) new)] at additions removals
  calc
    applyAll (old : Multiset α) (diff old new) =
        (old : Multiset α) + ((new : Multiset α) - old) - ((old : Multiset α) - new) := by
      unfold diff
      rw [applyAll, List.foldl_append, ← applyAll, ← applyAll, applyAll_added, applyAll_removed,
        additions, removals]
    _ = (new : Multiset α) := by
      ext value
      simp only [Multiset.count_sub, Multiset.count_add]
      omega

end WinInspect.Diff
