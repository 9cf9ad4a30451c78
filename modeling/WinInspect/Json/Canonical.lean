import WinInspect.Json.Recognition
import Mathlib.Logic.Relation

/-!
# Serialization is canonical

Two texts are serialized alike when their syntax trees differ in the order of members and in
members shadowed by an earlier one with the same key only.  `Value.keepFirst` takes a syntax
tree to the normal form of these rearrangements, and the serialization of a normal form
determines it.
-/

namespace WinInspect.Json

open Grammar

/-! ## Rearrangements -/

/-- A rearrangement at one place of a syntax tree. -/
inductive Rearranges : Value → Value → Prop
  | element {before after : List Value} {v w : Value} (inside : Rearranges v w) :
      Rearranges (.arr (before ++ v :: after)) (.arr (before ++ w :: after))
  | member {before after : Object} {key : Bytes} {v w : Value} (inside : Rearranges v w) :
      Rearranges (.obj (before ++ (key, v) :: after)) (.obj (before ++ (key, w) :: after))
  /-- The order of members with different keys does not matter. -/
  | swap {before after : Object} {key other : Bytes} {v w : Value} (different : key ≠ other) :
      Rearranges (.obj (before ++ (key, v) :: (other, w) :: after))
        (.obj (before ++ (other, w) :: (key, v) :: after))
  /-- An earlier member shadows a later one with the same key. -/
  | shadow {before between after : Object} {key : Bytes} {v w : Value} :
      Rearranges (.obj (before ++ (key, v) :: (between ++ (key, w) :: after)))
        (.obj (before ++ (key, v) :: (between ++ after)))

/-- The same tree, up to the order of members and shadowed members. -/
def SameTree : Value → Value → Prop :=
  Relation.EqvGen Rearranges

namespace SameTree

theorem refl (v : Value) : SameTree v v :=
  Relation.EqvGen.refl v

theorem symm {v w : Value} (same : SameTree v w) : SameTree w v :=
  Relation.EqvGen.symm v w same

theorem trans {u v w : Value} (first : SameTree u v) (second : SameTree v w) : SameTree u w :=
  Relation.EqvGen.trans u v w first second

theorem of_step {v w : Value} (step : Rearranges v w) : SameTree v w :=
  Relation.EqvGen.rel v w step

theorem element {v w : Value} (same : SameTree v w) (before after : List Value) :
    SameTree (.arr (before ++ v :: after)) (.arr (before ++ w :: after)) := by
  induction same with
  | rel _ _ step => exact of_step (.element step)
  | refl _ => exact refl _
  | symm _ _ _ ih => exact ih.symm
  | trans _ _ _ _ _ ih₁ ih₂ => exact ih₁.trans ih₂

theorem member {v w : Value} (same : SameTree v w) (before : Object) (key : Bytes)
    (after : Object) :
    SameTree (.obj (before ++ (key, v) :: after)) (.obj (before ++ (key, w) :: after)) := by
  induction same with
  | rel _ _ step => exact of_step (.member step)
  | refl _ => exact refl _
  | symm _ _ _ ih => exact ih.symm
  | trans _ _ _ _ _ ih₁ ih₂ => exact ih₁.trans ih₂

end SameTree

/-! ## The normal form of a list of members -/

namespace Object

theorem sorted_foldl_emplace (members : Object) : ∀ {o : Object}, Assoc.Sorted o →
    Assoc.Sorted (members.foldl (fun o member => Assoc.emplace member.1 member.2 o) o) := by
  induction members with
  | nil => exact fun sorted => sorted
  | cons member rest ih => exact fun sorted => ih (sorted.emplace member.1 member.2)

theorem sorted_collect (members : Object) : Assoc.Sorted (collect members) :=
  sorted_foldl_emplace members List.Pairwise.nil

theorem find_foldl_emplace (key : Bytes) (members : Object) : ∀ {o : Object}, Assoc.Sorted o →
    Assoc.find key (members.foldl (fun o member => Assoc.emplace member.1 member.2 o) o) =
      (Assoc.find key o).or (Assoc.find key members) := by
  induction members with
  | nil => simp
  | cons member rest ih =>
      intro o sorted
      obtain ⟨name, v⟩ := member
      rw [List.foldl_cons, ih (sorted.emplace name v), Assoc.find_emplace sorted,
        Assoc.find_cons, Option.or_assoc]
      split
      · rfl
      · rfl

/-- In the map a key has the value of the first member with that key. -/
theorem find_collect (key : Bytes) (members : Object) :
    Assoc.find key (collect members) = Assoc.find key members :=
  find_foldl_emplace key members List.Pairwise.nil

theorem collect_eq_of_find {members others : Object}
    (same : ∀ key, Assoc.find key members = Assoc.find key others) :
    collect members = collect others := by
  apply (sorted_collect members).ext (sorted_collect others)
  intro key
  rw [find_collect, find_collect, same]

theorem collect_swap {before after : Object} {key other : Bytes} (v w : Value)
    (different : key ≠ other) :
    collect (before ++ (key, v) :: (other, w) :: after) =
      collect (before ++ (other, w) :: (key, v) :: after) := by
  apply collect_eq_of_find
  intro name
  simp only [Assoc.find_append, Assoc.find_cons]
  by_cases first : key = name
  · subst first
    rw [if_pos rfl, if_neg different.symm, if_pos rfl]
  · rw [if_neg first, if_neg first]

theorem collect_shadow (before between after : Object) (key : Bytes) (v w : Value) :
    collect (before ++ (key, v) :: (between ++ (key, w) :: after)) =
      collect (before ++ (key, v) :: (between ++ after)) := by
  apply collect_eq_of_find
  intro name
  simp only [Assoc.find_append, Assoc.find_cons]
  by_cases same : key = name
  · rw [if_pos same, if_pos same]
  · rw [if_neg same, if_neg same, if_neg same]

end Object

theorem Value.keepFirstList_eq_map (a : List Value) : keepFirstList a = a.map keepFirst := by
  induction a with
  | nil => rfl
  | cons v rest ih => rw [keepFirstList, ih, List.map_cons]

theorem Value.keepFirstMembers_eq_map (o : Object) :
    keepFirstMembers o = o.map fun member => (member.1, member.2.keepFirst) := by
  induction o with
  | nil => rfl
  | cons member rest ih =>
      obtain ⟨key, v⟩ := member
      rw [keepFirstMembers, ih, List.map_cons]

/-- A rearrangement does not change the normal form. -/
theorem keepFirst_of_rearranges {v w : Value} (step : Rearranges v w) :
    v.keepFirst = w.keepFirst := by
  induction step with
  | element _ ih =>
      simp only [Value.keepFirst, Value.keepFirstList_eq_map, List.map_append, List.map_cons, ih]
  | member _ ih =>
      simp only [Value.keepFirst, Value.keepFirstMembers_eq_map, List.map_append, List.map_cons, ih]
  | swap different =>
      simp only [Value.keepFirst, Value.keepFirstMembers_eq_map, List.map_append, List.map_cons]
      rw [Object.collect_swap _ _ different]
  | shadow =>
      simp only [Value.keepFirst, Value.keepFirstMembers_eq_map, List.map_append, List.map_cons]
      rw [Object.collect_shadow]

theorem keepFirst_of_sameTree {v w : Value} (same : SameTree v w) :
    v.keepFirst = w.keepFirst := by
  induction same with
  | rel _ _ step => exact keepFirst_of_rearranges step
  | refl _ => rfl
  | symm _ _ _ ih => exact ih.symm
  | trans _ _ _ _ _ ih₁ ih₂ => exact ih₁.trans ih₂

/-! ## Every tree has its normal form -/

/-- A member moves to the front of members with other keys. -/
theorem sameTree_move {key : Bytes} (v : Value) (after : Object) {passed : Object} :
    ∀ (before : Object), (∀ entry ∈ passed, entry.1 ≠ key) →
    SameTree (.obj (before ++ (passed ++ (key, v) :: after)))
      (.obj (before ++ (key, v) :: (passed ++ after))) := by
  induction passed with
  | nil => exact fun before _ => .refl _
  | cons entry rest ih =>
      intro before others
      obtain ⟨different, restOthers⟩ := List.forall_mem_cons.mp others
      have inner := ih (before ++ [entry]) restOthers
      simp only [List.append_assoc, List.cons_append, List.nil_append] at inner
      exact inner.trans (.of_step (.swap different))

/-- Emplacing a member rearranges it to its place, or drops it. -/
theorem sameTree_emplace (key : Bytes) (v : Value) (after : Object) {o : Object} :
    ∀ (before : Object), Assoc.Sorted o →
    SameTree (.obj (before ++ (o ++ (key, v) :: after)))
      (.obj (before ++ (Assoc.emplace key v o ++ after))) := by
  induction o with
  | nil => exact fun before _ => .refl _
  | cons entry rest ih =>
      intro before sorted
      obtain ⟨other, old⟩ := entry
      obtain ⟨above, restSorted⟩ := List.pairwise_cons.mp sorted
      unfold Assoc.emplace
      split
      · rename_i below
        apply sameTree_move
        exact List.forall_mem_cons.mpr ⟨below.ne', fun entry member =>
          (below.trans (above entry member)).ne'⟩
      · split
        · rename_i same
          subst same
          exact .of_step .shadow
        · have inner := ih (before ++ [(other, old)]) restSorted
          simp only [List.append_assoc, List.cons_append, List.nil_append] at inner
          exact inner

theorem sameTree_foldl_emplace (members : Object) : ∀ {o : Object}, Assoc.Sorted o →
    SameTree (.obj (o ++ members))
      (.obj (members.foldl (fun o member => Assoc.emplace member.1 member.2 o) o)) := by
  induction members with
  | nil =>
      intro o _
      rw [List.append_nil]
      exact .refl _
  | cons member rest ih =>
      intro o sorted
      have first := sameTree_emplace member.1 member.2 rest [] sorted
      exact first.trans (ih (sorted.emplace member.1 member.2))

mutual

theorem sameTree_keepFirst : ∀ (v : Value), SameTree v v.keepFirst
  | .null => .refl _
  | .bool _ => .refl _
  | .num _ => .refl _
  | .str _ => .refl _
  | .arr a => sameTree_keepFirstList a []
  | .obj o =>
      (sameTree_keepFirstMembers o []).trans
        (sameTree_foldl_emplace (Value.keepFirstMembers o) List.Pairwise.nil)

theorem sameTree_keepFirstList : ∀ (a before : List Value),
    SameTree (.arr (before ++ a)) (.arr (before ++ Value.keepFirstList a))
  | [], _ => .refl _
  | v :: rest, before => by
      have others := sameTree_keepFirstList rest (before ++ [v.keepFirst])
      simp only [List.append_assoc, List.cons_append, List.nil_append] at others
      exact ((sameTree_keepFirst v).element before rest).trans others

theorem sameTree_keepFirstMembers : ∀ (o before : Object),
    SameTree (.obj (before ++ o)) (.obj (before ++ Value.keepFirstMembers o))
  | [], _ => .refl _
  | (key, v) :: rest, before => by
      have others := sameTree_keepFirstMembers rest (before ++ [(key, v.keepFirst)])
      simp only [List.append_assoc, List.cons_append, List.nil_append] at others
      exact ((sameTree_keepFirst v).member before key rest).trans others

end

theorem sameTree_iff_keepFirst {v w : Value} : SameTree v w ↔ v.keepFirst = w.keepFirst := by
  constructor
  · exact keepFirst_of_sameTree
  · intro same
    have second := sameTree_keepFirst w
    rw [← same] at second
    exact (sameTree_keepFirst v).trans second.symm

/-! ## Normal forms are maps -/

theorem wellFormed_collect {members : Object}
    (all : ∀ entry ∈ members, entry.2.WellFormed) :
    (Value.obj (Object.collect members)).WellFormed := by
  refine ⟨Object.sorted_collect members, Value.entriesWellFormed_iff.mpr ?_⟩
  suffices collected : ∀ o : Object, (∀ entry ∈ o, entry.2.WellFormed) →
      ∀ entry ∈ members.foldl (fun o member => Assoc.emplace member.1 member.2 o) o,
        entry.2.WellFormed from collected [] (by simp)
  induction members with
  | nil => exact fun o holds => holds
  | cons member rest ih =>
      intro o holds
      obtain ⟨fits, restFits⟩ := List.forall_mem_cons.mp all
      exact ih restFits _ (Assoc.forall_mem_emplace fits holds)

mutual

theorem wellFormed_keepFirst : ∀ (v : Value), v.keepFirst.WellFormed
  | .null => trivial
  | .bool _ => trivial
  | .num _ => trivial
  | .str _ => trivial
  | .arr a => wellFormed_keepFirstList a
  | .obj o => wellFormed_collect (Value.entriesWellFormed_iff.mp (wellFormed_keepFirstMembers o))

theorem wellFormed_keepFirstList : ∀ (a : List Value),
    Value.ListWellFormed (Value.keepFirstList a)
  | [] => trivial
  | v :: rest => ⟨wellFormed_keepFirst v, wellFormed_keepFirstList rest⟩

theorem wellFormed_keepFirstMembers : ∀ (o : Object),
    Value.EntriesWellFormed (Value.keepFirstMembers o)
  | [] => trivial
  | (_, v) :: rest => ⟨wellFormed_keepFirst v, wellFormed_keepFirstMembers rest⟩

end

/-- A serialization with integer numbers determines the value. -/
theorem eq_of_dumps_eq {v w : Value} (first : v.WellFormed) (second : w.WellFormed)
    (integers₁ : v.NumbersAre Int53) (integers₂ : w.NumbersAre Int53)
    (same : dumps v = dumps w) : v = w := by
  have read₁ := parse_dumps integerStod integerStod_exact ⟨v, first⟩ integers₁
  have read₂ := parse_dumps integerStod integerStod_exact ⟨w, second⟩ integers₂
  dsimp only at read₁ read₂
  rw [same, read₂] at read₁
  exact (Except.ok.inj read₁).symm

/-- Texts with the same tree are serialized alike, and texts with different trees are not.
The trees are those the texts denote in the grammar, where white space and the choice of
escapes are gone already; a number is the double it is converted to. -/
theorem dumps_eq_dumps_iff_sameTree (stod : Stod) {s₁ s₂ : Bytes} {v₁ v₂ : Value}
    (parsed₁ : parse stod s₁ = .ok v₁) (parsed₂ : parse stod s₂ = .ok v₂)
    (integers₁ : v₁.NumbersAre Int53) (integers₂ : v₂.NumbersAre Int53) {tree₁ tree₂ : Value}
    (denotes₁ : JsonText stod s₁ tree₁) (denotes₂ : JsonText stod s₂ tree₂) :
    dumps v₁ = dumps v₂ ↔ SameTree tree₁ tree₂ := by
  have value₁ := Parser.parse_of_derives ⟨tree₁, denotes₁, rfl⟩
  have value₂ := Parser.parse_of_derives ⟨tree₂, denotes₂, rfl⟩
  obtain rfl := Except.ok.inj (parsed₁.symm.trans value₁)
  obtain rfl := Except.ok.inj (parsed₂.symm.trans value₂)
  rw [sameTree_iff_keepFirst]
  constructor
  · exact eq_of_dumps_eq (wellFormed_keepFirst tree₁) (wellFormed_keepFirst tree₂) integers₁
      integers₂
  · intro same
    rw [same]

/-- Members in another order, one of them shadowed, and a key written with an escape. -/
theorem dumps_eq_dumps_of_reordered :
    ∃ tree₁ tree₂,
      JsonText integerStod (ascii " \x7b\"b\" :1, \"\\u0061\":[2], \"b\":3\x7d") tree₁ ∧
      JsonText integerStod (ascii "\x7b\"a\":[2],\"b\":1\x7d") tree₂ ∧ SameTree tree₁ tree₂ := by
  let value : Value :=
    .obj [(ascii "a", .arr [.num (.ofInt 2)]), (ascii "b", .num (.ofInt 1))]
  have parsed₁ : parse integerStod
      (ascii " \x7b\"b\" :1, \"\\u0061\":[2], \"b\":3\x7d") = .ok value := by
    decide +kernel
  have parsed₂ : parse integerStod (ascii "\x7b\"a\":[2],\"b\":1\x7d") = .ok value := by
    decide +kernel
  have one : Int53 (Double.ofInt 1) := by decide
  have two : Int53 (Double.ofInt 2) := by decide
  have integers : value.NumbersAre Int53 := ⟨⟨two, trivial⟩, one, trivial⟩
  obtain ⟨tree₁, denotes₁, -⟩ := Parser.derives_of_parse parsed₁
  obtain ⟨tree₂, denotes₂, -⟩ := Parser.derives_of_parse parsed₂
  exact ⟨tree₁, tree₂, denotes₁, denotes₂, (dumps_eq_dumps_iff_sameTree integerStod parsed₁
    parsed₂ integers integers denotes₁ denotes₂).mp rfl⟩

end WinInspect.Json
