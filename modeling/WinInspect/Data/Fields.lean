import Mathlib.Data.List.TakeWhile

/-!
# Fields of a text

The fields of a text are its non-empty pieces between separators, as a stream reader finds them
one after the other.
-/

namespace WinInspect

universe u

variable {α : Type u}

/-- The pieces between separators that are not empty. -/
def fields (separator : α → Bool) (text : List α) : List (List α) :=
  (text.splitOnP separator).filter fun field => !field.isEmpty

section

variable {separator : α → Bool}

theorem fields_cons_of_separator {c : α} (between : separator c = true) (text : List α) :
    fields separator (c :: text) = fields separator text := by
  have split := List.splitOnP_append_cons [] text between
  rw [List.nil_append] at split
  rw [fields, split]
  rfl

/-- Separators in front belong to no field. -/
theorem fields_dropWhile (text : List α) :
    fields separator (text.dropWhile separator) = fields separator text := by
  induction text with
  | nil => rfl
  | cons c text ih =>
      rw [List.dropWhile_cons]
      split
      · rename_i between
        rw [ih, fields_cons_of_separator between]
      · rfl

/-- A word that goes on up to a separator is a field. -/
theorem fields_word {word rest : List α} (filled : word ≠ [])
    (whole : ∀ c ∈ word, separator c = false)
    (ends : ∀ c ∈ rest.head?, separator c = true) :
    fields separator (word ++ rest) = word :: fields separator rest := by
  have kept : (!word.isEmpty) = true := by simpa using filled
  cases rest with
  | nil =>
      rw [List.append_nil, fields, List.splitOnP_eq_singleton whole, List.filter_cons, if_pos kept]
      rfl
  | cons c rest =>
      have between : separator c = true := ends c rfl
      rw [fields_cons_of_separator between, fields, List.splitOnP_append_cons word rest between,
        List.splitOnP_eq_singleton whole, List.singleton_append, List.filter_cons, if_pos kept,
        fields]

end

end WinInspect
