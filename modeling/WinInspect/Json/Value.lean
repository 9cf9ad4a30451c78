import WinInspect.Data.Assoc
import WinInspect.Data.Double

/-!
# JSON values

The variant type of `tinyjson.hpp`.  An object is a `std::map`, so its entries
carry strictly increasing keys; `Value.WellFormed` states this at every level and
`Tree` packages it, so that a `Tree` is exactly a value the C++ type can hold.
-/

namespace WinInspect.Json

/-- `json::Value`. -/
inductive Value where
  | null
  | bool (b : Bool)
  | num (d : Double)
  | str (s : Bytes)
  | arr (a : List Value)
  | obj (o : List (Bytes × Value))

/-- `json::Object`. -/
abbrev Object := List (Bytes × Value)

namespace Value

/-- `is_str`/`as_str`. -/
def str? : Value → Option Bytes
  | str s => some s
  | _ => none

/-- `is_bool`/`as_bool`. -/
def bool? : Value → Option Bool
  | bool b => some b
  | _ => none

/-- `is_num`/`as_num`. -/
def num? : Value → Option Double
  | num d => some d
  | _ => none

/-- `is_obj`/`as_obj`. -/
def obj? : Value → Option Object
  | obj o => some o
  | _ => none

/-- `is_arr`/`as_arr`. -/
def arr? : Value → Option (List Value)
  | arr a => some a
  | _ => none

mutual

/-- Equality, computed. -/
def beq : Value → Value → Bool
  | null, null => true
  | bool a, bool b => a == b
  | num a, num b => a = b
  | str a, str b => a = b
  | arr a, arr b => beqList a b
  | obj a, obj b => beqEntries a b
  | _, _ => false

def beqList : List Value → List Value → Bool
  | [], [] => true
  | v :: vs, w :: ws => beq v w && beqList vs ws
  | _, _ => false

def beqEntries : List (Bytes × Value) → List (Bytes × Value) → Bool
  | [], [] => true
  | (k, v) :: vs, (l, w) :: ws => k = l && beq v w && beqEntries vs ws
  | _, _ => false

end

mutual

theorem beq_iff : ∀ v w : Value, beq v w = true ↔ v = w
  | .null, w | .bool _, w | .num _, w | .str _, w => by cases w <;> simp [beq]
  | .arr a, w => by
      cases w with
      | arr b => simp [beq, beqList_iff a b]
      | _ => simp [beq]
  | .obj a, w => by
      cases w with
      | obj b => simp [beq, beqEntries_iff a b]
      | _ => simp [beq]

theorem beqList_iff : ∀ vs ws : List Value, beqList vs ws = true ↔ vs = ws
  | [], ws => by cases ws <;> simp [beqList]
  | v :: vs, ws => by
      cases ws with
      | nil => simp [beqList]
      | cons w ws => simp [beqList, beq_iff v w, beqList_iff vs ws]

theorem beqEntries_iff : ∀ vs ws : List (Bytes × Value), beqEntries vs ws = true ↔ vs = ws
  | [], ws => by cases ws <;> simp [beqEntries]
  | (k, v) :: vs, ws => by
      cases ws with
      | nil => simp [beqEntries]
      | cons entry ws =>
          obtain ⟨l, w⟩ := entry
          simp [beqEntries, beq_iff v w, beqEntries_iff vs ws]

end

instance : DecidableEq Value :=
  fun v w => decidable_of_iff _ (beq_iff v w)

mutual

/-- Every object of the tree has strictly increasing keys. -/
def WellFormed : Value → Prop
  | arr a => ListWellFormed a
  | obj o => Assoc.Sorted o ∧ EntriesWellFormed o
  | _ => True

def ListWellFormed : List Value → Prop
  | [] => True
  | v :: rest => WellFormed v ∧ ListWellFormed rest

def EntriesWellFormed : List (Bytes × Value) → Prop
  | [] => True
  | (_, v) :: rest => WellFormed v ∧ EntriesWellFormed rest

end

mutual

/-- Every number of the tree satisfies a predicate. -/
def NumbersAre (fits : Double → Prop) : Value → Prop
  | num d => fits d
  | arr a => ListNumbersAre fits a
  | obj o => EntriesNumbersAre fits o
  | _ => True

def ListNumbersAre (fits : Double → Prop) : List Value → Prop
  | [] => True
  | v :: rest => NumbersAre fits v ∧ ListNumbersAre fits rest

def EntriesNumbersAre (fits : Double → Prop) : List (Bytes × Value) → Prop
  | [] => True
  | (_, v) :: rest => NumbersAre fits v ∧ EntriesNumbersAre fits rest

end

section

variable {fits fits' : Double → Prop}

mutual

theorem NumbersAre.mono (weaker : ∀ d, fits d → fits' d) :
    ∀ {v : Value}, v.NumbersAre fits → v.NumbersAre fits'
  | num d, numbers => weaker d numbers
  | arr _, numbers => ListNumbersAre.mono weaker numbers
  | obj _, numbers => EntriesNumbersAre.mono weaker numbers
  | null, _ | bool _, _ | str _, _ => trivial

theorem ListNumbersAre.mono (weaker : ∀ d, fits d → fits' d) :
    ∀ {vs : List Value}, ListNumbersAre fits vs → ListNumbersAre fits' vs
  | [], _ => trivial
  | _ :: _, numbers => ⟨numbers.1.mono weaker, ListNumbersAre.mono weaker numbers.2⟩

theorem EntriesNumbersAre.mono (weaker : ∀ d, fits d → fits' d) :
    ∀ {entries : List (Bytes × Value)}, EntriesNumbersAre fits entries →
      EntriesNumbersAre fits' entries
  | [], _ => trivial
  | (_, _) :: _, numbers => ⟨numbers.1.mono weaker, EntriesNumbersAre.mono weaker numbers.2⟩

end

end

theorem listWellFormed_iff {vs : List Value} :
    ListWellFormed vs ↔ ∀ v ∈ vs, v.WellFormed := by
  induction vs with
  | nil => simp [ListWellFormed]
  | cons v rest ih => rw [ListWellFormed, ih, List.forall_mem_cons]

theorem listNumbersAre_iff {fits : Double → Prop} {vs : List Value} :
    ListNumbersAre fits vs ↔ ∀ v ∈ vs, v.NumbersAre fits := by
  induction vs with
  | nil => simp [ListNumbersAre]
  | cons v rest ih => rw [ListNumbersAre, ih, List.forall_mem_cons]

theorem entriesWellFormed_iff {entries : List (Bytes × Value)} :
    EntriesWellFormed entries ↔ ∀ entry ∈ entries, entry.2.WellFormed := by
  induction entries with
  | nil => simp [EntriesWellFormed]
  | cons entry rest ih => rw [EntriesWellFormed, ih, List.forall_mem_cons]

theorem entriesNumbersAre_iff {fits : Double → Prop} {entries : List (Bytes × Value)} :
    EntriesNumbersAre fits entries ↔ ∀ entry ∈ entries, entry.2.NumbersAre fits := by
  induction entries with
  | nil => simp [EntriesNumbersAre]
  | cons entry rest ih => rw [EntriesNumbersAre, ih, List.forall_mem_cons]

end Value

/-- A value whose objects are maps. -/
def Tree := { v : Value // v.WellFormed }

/-- `o[key] = value`. -/
def Object.set (o : Object) (key : String) (value : Value) : Object :=
  Assoc.assign (ascii key) value o

/-- `o.find(key)`. -/
def Object.get? (o : Object) (key : String) : Option Value :=
  Assoc.find (ascii key) o

/-- An object literal, built by assignments in order. -/
def Object.ofFields (fields : List (String × Value)) : Object :=
  fields.foldl (fun o field => Object.set o field.1 field.2) []

theorem get?_foldl_set (o : Object) {key : String} {fields : List (String × Value)}
    (absent : ∀ field ∈ fields, ascii key ≠ ascii field.1) :
    Object.get? (fields.foldl (fun o field => Object.set o field.1 field.2) o) key =
      Object.get? o key := by
  have others : ∀ field ∈ fields, ascii field.1 ≠ ascii key :=
    fun field member => (absent field member).symm
  exact Assoc.find_foldl_assign_of_forall_ne (fun field : String × Value => ascii field.1) Prod.snd
    others o

/-- The last assignment to a key counts. -/
theorem get?_ofFields (before : List (String × Value)) (key : String) (value : Value)
    {after : List (String × Value)} (absent : ∀ field ∈ after, ascii key ≠ ascii field.1) :
    (Object.ofFields (before ++ (key, value) :: after)).get? key = some value := by
  unfold Object.ofFields
  rw [List.foldl_append, List.foldl_cons, get?_foldl_set _ absent]
  exact Assoc.find_assign_self _ _ _

theorem get?_ofFields_of_absent {key : String} {fields : List (String × Value)}
    (absent : ∀ field ∈ fields, ascii key ≠ ascii field.1) :
    (Object.ofFields fields).get? key = none :=
  get?_foldl_set [] absent

/-- Of fields with different keys every one is found. -/
theorem get?_ofFields_of_nodup {fields : List (String × Value)}
    (distinct : (fields.map fun field => ascii field.1).Nodup) {key : String} {value : Value}
    (member : (key, value) ∈ fields) : (Object.ofFields fields).get? key = some value := by
  obtain ⟨before, after, rfl⟩ := List.append_of_mem member
  apply get?_ofFields
  intro field later same
  rw [List.map_append, List.map_cons] at distinct
  have fresh := (List.nodup_cons.mp (List.nodup_append.mp distinct).2.1).1
  exact fresh (List.mem_map.mpr ⟨field, later, same.symm⟩)

/-- What holds of an object and of every assignment to it holds of the object it is made. -/
theorem ofFields_induction (property : Object → Prop) {fields : List (String × Value)}
    (empty : property [])
    (assigned : ∀ o, property o → ∀ field ∈ fields, property (o.set field.1 field.2)) :
    property (Object.ofFields fields) := by
  unfold Object.ofFields
  generalize ([] : Object) = o at empty
  induction fields generalizing o with
  | nil => exact empty
  | cons field rest ih =>
      apply ih
      · exact fun o holds field member => assigned o holds field (List.mem_cons_of_mem _ member)
      · exact assigned o empty field List.mem_cons_self

theorem wellFormed_ofFields {fields : List (String × Value)}
    (each : ∀ field ∈ fields, field.2.WellFormed) :
    (Value.obj (Object.ofFields fields)).WellFormed := by
  refine ofFields_induction (fun o => (Value.obj o).WellFormed) ?_ ?_
  · exact ⟨List.Pairwise.nil, trivial⟩
  · intro o wellFormed field member
    refine ⟨wellFormed.1.assign _ _, Value.entriesWellFormed_iff.mpr ?_⟩
    exact Assoc.forall_mem_assign (each field member) (Value.entriesWellFormed_iff.mp wellFormed.2)

theorem numbersAre_ofFields {fits : Double → Prop} {fields : List (String × Value)}
    (each : ∀ field ∈ fields, field.2.NumbersAre fits) :
    (Value.obj (Object.ofFields fields)).NumbersAre fits := by
  refine ofFields_induction (fun o => (Value.obj o).NumbersAre fits) ?_ ?_
  · trivial
  · intro o numbers field member
    apply Value.entriesNumbersAre_iff.mpr
    exact Assoc.forall_mem_assign (each field member) (Value.entriesNumbersAre_iff.mp numbers)

end WinInspect.Json
