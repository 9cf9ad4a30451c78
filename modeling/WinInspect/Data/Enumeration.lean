import Mathlib.Algebra.Group.Nat.Defs
import Mathlib.Data.List.TakeWhile
import Mathlib.Order.Basic

/-!
# Enumeration by index

A loop `for (DWORD i = 0; fetch(i) succeeds; ++i) body` over a list that is only accessible item
by item.  An item that does not fit is refused like an index behind the end, so the loop goes
over the items in front of the first such item.  The index has 32 bits: with that many items in
front it starts over and the loop does not end.
-/

namespace WinInspect.Enumeration

variable {α σ : Type*}

/-- The answer for an index: the item if there is one and it fits. -/
def fetch (fits : α → Bool) (items : List α) (i : UInt32) : Option α :=
  items[i.toNat]?.filter fits

/-- The loop; `none` when the fuel of the model runs out. -/
def loop (fits : α → Bool) (items : List α) (body : σ → α → σ) : Nat → UInt32 → σ → Option σ
  | 0, _, _ => none
  | fuel + 1, i, state =>
      match fetch fits items i with
      | none => some state
      | some item => loop fits items body fuel (i + 1) (body state item)

variable {fits : α → Bool} {items : List α} {body : σ → α → σ}

/-- The items the loop goes over. -/
def reached (fits : α → Bool) (items : List α) : List α :=
  items.takeWhile fits

theorem reached_eq_self_iff : reached fits items = items ↔ ∀ item ∈ items, fits item = true :=
  List.takeWhile_eq_self_iff

/-- The loop goes over all items when it goes over as many. -/
theorem reached_eq_self_of_length (same : (reached fits items).length = items.length) :
    reached fits items = items :=
  (List.takeWhile_prefix fits).eq_of_length same

/-- Behind the items that are gone over, nothing is fetched. -/
theorem filter_getElem? {i : Nat} (inside : i ≤ (reached fits items).length) :
    items[i]?.filter fits = (reached fits items)[i]? := by
  unfold reached at *
  induction items generalizing i with
  | nil => rfl
  | cons item items ih =>
      cases good : fits item with
      | true =>
          rw [List.takeWhile_cons_of_pos good] at inside ⊢
          cases i with
          | zero => simp [Option.filter, good]
          | succ i => exact ih (Nat.le_of_succ_le_succ inside)
      | false =>
          have bad : ¬ fits item = true := by simp [good]
          rw [List.takeWhile_cons_of_neg bad] at inside ⊢
          obtain rfl := Nat.le_zero.mp inside
          simp [Option.filter, good]

theorem fetch_eq (i : UInt32) (inside : i.toNat ≤ (reached fits items).length) :
    fetch fits items i = (reached fits items)[i.toNat]? :=
  filter_getElem? inside

theorem toNat_succ {i : UInt32} (small : i.toNat + 1 < 2 ^ 32) : (i + 1).toNat = i.toNat + 1 := by
  rw [UInt32.toNat_add, UInt32.toNat_one, Nat.mod_eq_of_lt small]

/-- With the items up to the index done, the loop goes over the rest. -/
theorem loop_eq_foldl (few : (reached fits items).length < 2 ^ 32) (fuel : Nat) (i : UInt32)
    (state : σ) (inside : i.toNat ≤ (reached fits items).length)
    (enough : (reached fits items).length - i.toNat < fuel) :
    loop fits items body fuel i state =
      some (((reached fits items).drop i.toNat).foldl body state) := by
  induction fuel generalizing i state with
  | zero => omega
  | succ fuel ih =>
      rw [loop, fetch_eq i inside]
      rcases Nat.lt_or_eq_of_le inside with more | done
      · have next := toNat_succ (i := i) (by omega)
        rw [List.getElem?_eq_getElem more, List.drop_eq_getElem_cons more, List.foldl_cons]
        dsimp only
        rw [ih (i + 1) _ (by omega) (by omega), next]
      · rw [done, List.getElem?_eq_none le_rfl, List.drop_length]
        rfl

/-- With enough fuel the loop ends when the index does not wrap. -/
theorem loop_of_few (few : (reached fits items).length < 2 ^ 32) {fuel : Nat}
    (enough : (reached fits items).length < fuel) (state : σ) :
    loop fits items body fuel 0 state = some ((reached fits items).foldl body state) :=
  loop_eq_foldl few fuel 0 state (Nat.zero_le _) enough

/-- Each item takes a unit of fuel. -/
theorem loop_of_little (few : (reached fits items).length < 2 ^ 32) (fuel : Nat) (i : UInt32)
    (state : σ) (short : i.toNat + fuel ≤ (reached fits items).length) :
    loop fits items body fuel i state = none := by
  induction fuel generalizing i state with
  | zero => rfl
  | succ fuel ih =>
      have inside : i.toNat < (reached fits items).length := by omega
      have next := toNat_succ (i := i) (by omega)
      rw [loop, fetch_eq i inside.le, List.getElem?_eq_getElem inside]
      exact ih _ _ (by omega)

/-- It never ends when the index wraps. -/
theorem loop_of_many (many : 2 ^ 32 ≤ (reached fits items).length) (fuel : Nat) (i : UInt32)
    (state : σ) : loop fits items body fuel i state = none := by
  induction fuel generalizing i state with
  | zero => rfl
  | succ fuel ih =>
      have inside : i.toNat < (reached fits items).length := i.toNat_lt.trans_le many
      rw [loop, fetch_eq i inside.le, List.getElem?_eq_getElem inside]
      exact ih _ _

/-- The loop ends exactly when the index does not wrap, with the items it goes over done. -/
theorem loop_eq_some_iff {fuel : Nat} {state result : σ} :
    loop fits items body fuel 0 state = some result ↔
      (reached fits items).length < 2 ^ 32 ∧ (reached fits items).length < fuel ∧
        (reached fits items).foldl body state = result := by
  constructor
  · intro ended
    have few : (reached fits items).length < 2 ^ 32 := by
      by_contra wraps
      rw [loop_of_many (by omega)] at ended
      cases ended
    have enough : (reached fits items).length < fuel := by
      by_contra little
      rw [loop_of_little few fuel 0 state (by rw [UInt32.toNat_zero]; omega)] at ended
      cases ended
    rw [loop_of_few few enough] at ended
    exact ⟨few, enough, Option.some.inj ended⟩
  · rintro ⟨few, enough, rfl⟩
    exact loop_of_few few enough state

end WinInspect.Enumeration
