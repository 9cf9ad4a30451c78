import WinInspect.Crypto.Recorded
import Mathlib.Data.List.Nodup
import Mathlib.Data.List.Range

/-!
# Nonces

Each end numbers its frames from zero, so the nonces of one end are distinct, and the
first frames of the two ends carry the same nonce under the same key.
-/

namespace WinInspect.Crypto

open CryptoSession (nonceOf)

/-- The low digits of a number determine it modulo a power of the base. -/
theorem mod_pow_eq_of_digits {b x y : Nat} {n : Nat}
    (same : ∀ i < n, x / b ^ i % b = y / b ^ i % b) : x % b ^ n = y % b ^ n := by
  induction n with
  | zero => simp [Nat.mod_one]
  | succ n inductionHypothesis =>
      rw [Nat.mod_pow_succ, Nat.mod_pow_succ, same n n.lt_succ_self,
        inductionHypothesis fun i less => same i (less.trans n.lt_succ_self)]

theorem nonceOf_injective : Function.Injective nonceOf := by
  intro first second same
  have digits := List.append_inj_left same (by simp)
  have equal : first.toNat % 256 ^ 8 = second.toNat % 256 ^ 8 := by
    refine mod_pow_eq_of_digits fun i less => ?_
    have digit := List.map_inj_left.mp digits i (List.mem_range.mpr less)
    have number := congrArg UInt8.toNat digit
    simpa using number
  have small : ∀ counter : UInt64, counter.toNat % 256 ^ 8 = counter.toNat :=
    fun counter => Nat.mod_eq_of_lt counter.toNat_lt
  rw [small, small] at equal
  exact UInt64.toNat_inj.mp equal

/-- The nonces of the first calls of an end. -/
def numbers (count : Nat) : List Bytes :=
  (List.range count).map fun n => nonceOf (UInt64.ofNat n)

theorem numbers_nodup {count : Nat} (few : count < 2 ^ 64) : (numbers count).Nodup := by
  refine List.Nodup.map_on ?_ List.nodup_range
  intro m first n second same
  have equal := congrArg UInt64.toNat (nonceOf_injective same)
  rw [UInt64.toNat_ofNat', UInt64.toNat_ofNat',
    Nat.mod_eq_of_lt ((List.mem_range.mp first).trans few),
    Nat.mod_eq_of_lt ((List.mem_range.mp second).trans few)] at equal
  exact equal

/-! ## The nonces on the wire -/

/-- The frames of each end carry, in order, nonces of its calls. -/
structure Channel.Numbered (channel : Channel) : Prop where
  counter : ∀ e, (channel.session e).nonceCounter = UInt64.ofNat (channel.calls e)
  nonces : ∀ e, ((channel.sentBy e).map Sent.nonce).Sublist (numbers (channel.calls e))

section

variable {bcrypt : BCrypt} {privateKey : Endpoint → Bytes} {key : Bytes}
  {channel channel' : Channel} {event : Event}

theorem numbers_succ (count : Nat) :
    numbers (count + 1) = numbers count ++ [nonceOf (UInt64.ofNat count)] := by
  simp [numbers, List.range_succ]

theorem Channel.Numbered.counted (numbered : channel.Numbered) (sender : Endpoint) :
    (channel.counted sender).Numbered := by
  constructor
  · intro e
    by_cases same : e = sender
    · subst same
      simp [Channel.counted, numbered.counter, UInt64.ofNat_add]
    · simp [Channel.counted, Function.update_of_ne same, numbered.counter]
  · intro e
    have before := numbered.nonces e
    by_cases same : e = sender
    · subst same
      simp only [Channel.counted, Function.update_self, numbers_succ]
      exact before.trans (List.sublist_append_left _ _)
    · simp only [Channel.counted, Function.update_of_ne same]
      exact before

theorem Channel.Numbered.step (numbered : channel.Numbered)
    (keyed : ∀ e, (channel.session e).sessionKey = some key)
    (step : Channel.step bcrypt channel event = some channel') : channel'.Numbered := by
  cases Channel.step_cases keyed step with
  | lost failed => exact numbered.counted _
  | @sent sender text frame nonce sealed =>
      refine ⟨(numbered.counted sender).counter, fun e => ?_⟩
      by_cases same : e = sender
      · subst same
        rw [numbered.counter] at nonce
        simp only [Channel.sentBy, Channel.counted, Function.update_self, numbers_succ,
          List.filter_append, List.map_append]
        refine (numbered.nonces e).append ?_
        simp [Sent.nonce, nonce]
      · have other : ¬ sender = e := fun equal => same equal.symm
        simp only [Channel.sentBy, Channel.counted, Function.update_of_ne same,
          List.filter_append]
        simpa [other, Channel.sentBy] using numbered.nonces e
  | received listening read => exact ⟨numbered.counter, numbered.nonces⟩
  | rejected listening read => exact ⟨numbered.counter, numbered.nonces⟩

theorem Agreed.numbered_of_steps {allowed : Channel → Event → Prop}
    (agreed : Agreed bcrypt privateKey key)
    (run : Transition.Steps (Channel.step bcrypt) allowed (Channel.opened bcrypt privateKey)
      channel) : channel.Numbered := by
  refine run.invariant_of_known (fun _ earlier => agreed.sound_of_steps earlier) ?_
    fun _ _ _ sound numbered _ step => numbered.step sound.keyed step
  refine ⟨fun e => ?_, fun e => List.nil_sublist _⟩
  rw [agreed.session]
  rfl

/-- When only one end encrypts, its nonces are distinct. -/
theorem Channel.Numbered.nodup (numbered : channel.Numbered) {e : Endpoint}
    (silent : channel.calls e.other = 0) (few : channel.calls e < 2 ^ 64) :
    (channel.sent.map Sent.nonce).Nodup := by
  have none : channel.sentBy e.other = [] := by
    have nothing := numbered.nonces e.other
    rw [silent] at nothing
    exact List.map_eq_nil_iff.mp (List.sublist_nil.mp nothing)
  have all : channel.sentBy e = channel.sent := by
    refine List.filter_eq_self.mpr fun sent member => ?_
    have other := List.filter_eq_nil_iff.mp none sent member
    cases e <;> cases sender : sent.sender <;> simp_all [Endpoint.other]
  rw [← all]
  exact (numbers_nodup few).sublist (numbered.nonces e)

/-- Each end that has encrypted has a frame with the nonce zero on the wire. -/
def Channel.Begun (channel : Channel) : Prop :=
  ∀ e, channel.calls e ≠ 0 → ∃ sent ∈ channel.sent, sent.sender = e ∧ sent.nonce = nonceOf 0

theorem Channel.Begun.step (begun : channel.Begun) (numbered : channel.Numbered)
    (keyed : ∀ e, (channel.session e).sessionKey = some key)
    (succeeds : ∀ nonce text, (bcrypt.encrypt key nonce text).isSome)
    (step : Channel.step bcrypt channel event = some channel') : channel'.Begun := by
  cases Channel.step_cases keyed step with
  | @lost sender text failed =>
      have success := succeeds (nonceOf (channel.session sender).nonceCounter) text
      rw [failed] at success
      cases success
  | @sent sender text frame nonce sealed =>
      intro e called
      by_cases same : e = sender
      · subst same
        by_cases first : channel.calls e = 0
        · refine ⟨⟨e, text, frame⟩, List.mem_append_right _ List.mem_cons_self, rfl, ?_⟩
          rw [numbered.counter, first] at nonce
          exact nonce
        · obtain ⟨sent, member, found⟩ := begun e first
          exact ⟨sent, List.mem_append_left _ member, found⟩
      · simp only [Channel.counted, Function.update_of_ne same] at called
        obtain ⟨sent, member, found⟩ := begun e called
        exact ⟨sent, List.mem_append_left _ member, found⟩
  | received listening read => exact begun
  | rejected listening read => exact begun

theorem Channel.Begun.oneSided (begun : channel.Begun)
    (distinct : (channel.sent.map Sent.nonce).Nodup) : ∃ e, channel.calls e = 0 := by
  by_contra both
  have called : ∀ e, channel.calls e ≠ 0 := fun e silent => both ⟨e, silent⟩
  obtain ⟨first, member, client, zero⟩ := begun .client (called .client)
  obtain ⟨second, member', server, zero'⟩ := begun .server (called .server)
  have same := List.inj_on_of_nodup_map distinct member member' (zero.trans zero'.symm)
  rw [same, server] at client
  cases client

/-- The nonces of all frames under the key are distinct if and only if one of the ends
has not encrypted at all. -/
theorem nonces_nodup_iff (agreed : Agreed bcrypt privateKey key)
    (succeeds : ∀ nonce text, (bcrypt.encrypt key nonce text).isSome)
    (run : Transition.Steps (Channel.step bcrypt) (fun _ _ => True)
      (Channel.opened bcrypt privateKey) channel)
    (few : ∀ e, channel.calls e < 2 ^ 64) :
    (channel.sent.map Sent.nonce).Nodup ↔ ∃ e, channel.calls e = 0 := by
  constructor
  · intro distinct
    have begun : channel.Begun := by
      refine run.invariant_of_known
        (fun _ earlier => And.intro (agreed.sound_of_steps earlier)
          (agreed.numbered_of_steps earlier))
        (fun e called => absurd rfl called) ?_
      intro before event after known begun _ step
      exact begun.step known.2 known.1.keyed succeeds step
    exact begun.oneSided distinct
  · rintro ⟨e, silent⟩
    have twice : e.other.other = e := by cases e <;> rfl
    refine (agreed.numbered_of_steps run).nodup ?_ (few e.other)
    rw [twice]
    exact silent

end

/-- Two requests and no response. -/
theorem nonces_nodup_iff_requests :
    ∃ channel, afterEvents [.send .client (ascii "a"), .send .client (ascii "b")] = some channel ∧
      channel.sent.length = 2 ∧ (channel.sent.map Sent.nonce).Nodup := by
  have executed : ∃ channel,
      afterEvents [.send .client (ascii "a"), .send .client (ascii "b")] = some channel ∧
        (∀ e, channel.calls e < 2 ^ 64) ∧ channel.calls .server = 0 ∧ channel.sent.length = 2 := by
    refine ⟨_, rfl, ?_, by decide +kernel, by decide +kernel⟩
    intro e
    cases e <;> decide +kernel
  obtain ⟨channel, reached, few, silent, two⟩ := executed
  have run : Transition.Steps (Channel.step .recorded) (fun _ _ => True)
      (Channel.opened .recorded recordedKeys) channel :=
    Transition.Steps.of_exec (fun _ _ _ => trivial) reached
  have distinct := (nonces_nodup_iff agreed_recordedKeys (recorded_encrypts sharedKey) run few).mpr
    ⟨.server, silent⟩
  exact ⟨channel, reached, two, distinct⟩

/-- A request and its response carry the same nonce. -/
theorem nonce_reused :
    ∃ channel, Transition.Steps (Channel.step .recorded) (fun _ _ => True)
        (Channel.opened .recorded recordedKeys) channel ∧
      (∀ e, channel.calls e < 2 ^ 64) ∧
      channel.sent.map Sent.nonce = [CryptoSession.nonceOf 0, CryptoSession.nonceOf 0] ∧
      ¬ (channel.sent.map Sent.nonce).Nodup := by
  have executed : ∃ channel,
      afterEvents [.send .client (ascii "a"), .send .server (ascii "r")] = some channel ∧
        (∀ e, channel.calls e < 2 ^ 64) ∧
        channel.sent.map Sent.nonce = [CryptoSession.nonceOf 0, CryptoSession.nonceOf 0] := by
    refine ⟨_, rfl, ?_, by decide +kernel⟩
    intro e
    cases e <;> decide +kernel
  obtain ⟨channel, reached, few, nonces⟩ := executed
  refine ⟨channel, Transition.Steps.of_exec (fun _ _ _ => trivial) reached, few, nonces, ?_⟩
  rw [nonces]
  decide

end WinInspect.Crypto
