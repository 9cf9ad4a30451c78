import Mathlib.Data.List.Basic
import Mathlib.Logic.Function.Iterate

/-!
# Sweeping a queue

A round of a sweep takes the head of a queue and either moves it to the back or drops
it.  The elements to keep go round forever, so repeated rounds come down to a given
length exactly when not too many elements are kept.
-/

namespace WinInspect.Sweep

universe u

variable {α : Type u}

/-- One round: the head goes to the back when it is to be kept, and is dropped otherwise. -/
def round (keep : α → Bool) : List α → List α
  | [] => []
  | head :: rest => if keep head then rest ++ [head] else rest

/-- No round drops an element that is to be kept. -/
theorem countP_round (keep : α → Bool) (queue : List α) :
    (round keep queue).countP keep = queue.countP keep := by
  cases queue with
  | nil => rfl
  | cons head rest =>
      by_cases kept : keep head = true
      · rw [round, if_pos kept, List.countP_append, List.countP_singleton, List.countP_cons]
      · rw [round, if_neg kept, List.countP_cons_of_neg kept]

theorem countP_rounds (keep : α → Bool) (queue : List α) (n : Nat) :
    ((round keep)^[n] queue).countP keep = queue.countP keep := by
  induction n with
  | zero => rfl
  | succ n inductionHypothesis =>
      rw [Function.iterate_succ_apply', countP_round, inductionHypothesis]

/-- The rounds over a front of the queue leave its kept elements behind the rest. -/
theorem rounds_front (keep : α → Bool) (front rest : List α) :
    (round keep)^[front.length] (front ++ rest) = rest ++ front.filter keep := by
  induction front generalizing rest with
  | nil => simp
  | cons head front inductionHypothesis =>
      rw [List.length_cons, Function.iterate_succ_apply, List.cons_append, round]
      by_cases kept : keep head = true
      · rw [if_pos kept, List.append_assoc, inductionHypothesis, List.filter_cons_of_pos kept,
          List.append_assoc, List.singleton_append]
      · rw [if_neg kept, inductionHypothesis, List.filter_cons_of_neg kept]

theorem countP_add_countP_not (keep : α → Bool) (queue : List α) :
    queue.countP keep + queue.countP (fun a => !keep a) = queue.length := by
  rw [List.length_eq_countP_add_countP keep]
  simp

/-- Within the first pass, each round over an element that is not kept takes one away. -/
theorem length_rounds (keep : α → Bool) {queue : List α} {n : Nat} (within : n ≤ queue.length) :
    ((round keep)^[n] queue).length + (queue.take n).countP (fun a => !keep a) =
      queue.length := by
  have passed : ((round keep)^[n] queue) = queue.drop n ++ (queue.take n).filter keep := by
    have pass := rounds_front keep (queue.take n) (queue.drop n)
    rwa [List.length_take_of_le within, List.take_append_drop] at pass
  have split := countP_add_countP_not keep (queue.take n)
  rw [List.length_take_of_le within] at split
  rw [passed, List.length_append, List.length_drop, ← List.countP_eq_length_filter]
  omega

/-- The split of a queue at its `k`-th element that is not kept. -/
theorem exists_split {keep : α → Bool} {queue : List α} {k : Nat} (positive : 0 < k)
    (enough : k ≤ queue.countP fun a => !keep a) :
    ∃ front last rest, queue = front ++ last :: rest ∧ keep last = false ∧
      (front.countP fun a => !keep a) + 1 = k := by
  induction queue generalizing k with
  | nil => simp at enough; omega
  | cons head queue inductionHypothesis =>
      by_cases kept : keep head = true
      · rw [List.countP_cons_of_neg (by simp [kept])] at enough
        obtain ⟨front, last, rest, rfl, dropped, count⟩ := inductionHypothesis positive enough
        refine ⟨head :: front, last, rest, rfl, dropped, ?_⟩
        rwa [List.countP_cons_of_neg (by simp [kept])]
      · rw [List.countP_cons_of_pos (by simp [kept])] at enough
        by_cases first : k = 1
        · exact ⟨[], head, queue, rfl, by simpa using kept, by simp [first]⟩
        · obtain ⟨front, last, rest, rfl, dropped, count⟩ :=
            @inductionHypothesis (k - 1) (by omega) (by omega)
          refine ⟨head :: front, last, rest, rfl, dropped, ?_⟩
          rw [List.countP_cons_of_pos (by simp [kept])]
          omega

/-- Up to the `k`-th element that is not kept there are the first `k` of them. -/
theorem filter_split {keep : α → Bool} {front rest : List α} {last : α} {k : Nat}
    (dropped : keep last = false) (count : (front.countP fun a => !keep a) + 1 = k) :
    (front ++ [last]).filter (fun a => !keep a) =
      ((front ++ last :: rest).filter fun a => !keep a).take k := by
  have size : ((front ++ [last]).filter fun a => !keep a).length = k := by
    rw [← List.countP_eq_length_filter, List.countP_append, List.countP_singleton, ← count]
    simp [dropped]
  rw [List.append_cons front last rest, List.filter_append (front ++ [last]) rest, ← size,
    List.take_left]

/-- The round after a front drops the next element when it is not kept. -/
theorem rounds_split {keep : α → Bool} (front rest : List α) {last : α}
    (dropped : keep last = false) :
    (round keep)^[front.length + 1] (front ++ last :: rest) = rest ++ front.filter keep := by
  rw [Function.iterate_succ_apply', rounds_front, List.cons_append, round,
    if_neg (by simp [dropped])]

/-- Sweeping comes down to a length exactly when no more elements than that are kept. -/
theorem exists_rounds_le_iff (keep : α → Bool) (queue : List α) (limit : Nat) :
    (∃ n, ((round keep)^[n] queue).length ≤ limit) ↔ queue.countP keep ≤ limit := by
  constructor
  · rintro ⟨n, short⟩
    rw [← countP_rounds keep queue n]
    exact Nat.le_trans List.countP_le_length short
  · intro few
    have split := countP_add_countP_not keep queue
    by_cases short : queue.length ≤ limit
    · exact ⟨0, short⟩
    · -- the rounds up to the last element that has to go
      obtain ⟨front, last, rest, rfl, dropped, count⟩ :=
        @exists_split _ keep queue (queue.length - limit) (by omega) (by omega)
      refine ⟨front.length + 1, ?_⟩
      have frontSplit := countP_add_countP_not keep front
      rw [rounds_split front rest dropped, List.length_append, ← List.countP_eq_length_filter]
      simp only [List.length_append, List.length_cons] at count
      omega

/-! ## An element that no round reaches -/

/-- In front of `a` there are enough elements to drop to come down to the limit. -/
def Shielded (keep : α → Bool) (limit : Nat) (a : α) (queue : List α) : Prop :=
  ∃ front rest, queue = front ++ a :: rest ∧ a ∉ front ∧
    queue.length ≤ limit + front.countP fun b => !keep b

/-- While the queue is too long, the next round is about another element. -/
theorem Shielded.round {keep : α → Bool} {limit : Nat} {a : α} {queue : List α}
    (shielded : Shielded keep limit a queue) (long : limit < queue.length) :
    queue.head? ≠ some a ∧ Shielded keep limit a (round keep queue) := by
  obtain ⟨front, rest, rfl, apart, enough⟩ := shielded
  cases front with
  | nil =>
      rw [List.countP_nil] at enough
      omega
  | cons head front =>
      obtain ⟨different, apart⟩ := not_or.mp (List.mem_cons.not.mp apart)
      refine ⟨fun same => different (Option.some.inj same).symm, ?_⟩
      rw [List.cons_append, Sweep.round]
      rw [List.cons_append, List.length_cons] at enough
      by_cases kept : keep head = true
      · rw [List.countP_cons_of_neg (by simp [kept])] at enough
        rw [if_pos kept, List.append_assoc, List.cons_append]
        exact ⟨front, rest ++ [head], rfl, apart, by simp at enough ⊢; omega⟩
      · rw [List.countP_cons_of_pos (by simp [kept])] at enough
        rw [if_neg kept]
        exact ⟨front, rest, rfl, apart, by omega⟩

/-- An element behind a queue in which fewer elements are kept than the limit is shielded. -/
theorem shielded_append {keep : α → Bool} {limit : Nat} {a : α} {queue : List α}
    (new : a ∉ queue) (few : queue.countP keep < limit) :
    Shielded keep limit a (queue ++ [a]) := by
  refine ⟨queue, [], rfl, new, ?_⟩
  have split := countP_add_countP_not keep queue
  rw [List.length_append, List.length_singleton]
  omega

end WinInspect.Sweep
