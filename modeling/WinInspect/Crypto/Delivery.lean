import WinInspect.Crypto.Recorded

/-!
# What the network can have executed

The receiver takes the nonce from the frame and keeps no state of its own.  A network
that cannot forge frames can have the server execute every text that either end has
encrypted, in any order and any number of times, and nothing else.
-/

namespace WinInspect.Crypto

/-- Decryption inverts encryption under a key. -/
def Correct (bcrypt : BCrypt) (key : Bytes) : Prop :=
  ∀ nonce text ciphertext tag, bcrypt.encrypt key nonce text = some (ciphertext, tag) →
    bcrypt.decrypt key nonce tag ciphertext = some text

/-- The condition on the network: a frame that passes the check of its tag has been
written by one of the ends. -/
def Unforged (bcrypt : BCrypt) (channel : Channel) : Event → Prop
  | .send _ _ => True
  | .deliver frame => (encryptedRecv bcrypt (channel.session .server) frame).isSome →
      ∃ sent ∈ channel.sent, sent.frame = frame

variable {bcrypt : BCrypt} {privateKey : Endpoint → Bytes} {key : Bytes}

/-- A sealed frame of an admissible size is received as its text. -/
theorem encryptedRecv_of_seals (correct : Correct bcrypt key) {session : CryptoSession}
    (keyed : session.sessionKey = some key) {frame text : Bytes}
    (sealed : Seals bcrypt key frame text) (filled : text ≠ []) (fits : frame.length ≤ maxFrame) :
    encryptedRecv bcrypt session frame = some text := by
  obtain ⟨nonce, tag, ciphertext, rfl, nonceLength, tagLength, encrypted⟩ := sealed
  have whole : (nonce ++ tag).length = 28 := by simp [nonceLength, tagLength]
  have total : (nonce ++ tag ++ ciphertext).length = 28 + ciphertext.length := by
    rw [List.length_append, whole]
  have opened : session.decrypt bcrypt (nonce ++ tag ++ ciphertext) = text := by
    have long : ¬ (nonce ++ tag ++ ciphertext).length < 28 := by omega
    simp only [CryptoSession.decrypt, keyed, if_neg long, List.drop_left' whole]
    rw [List.append_assoc, List.take_left' nonceLength, List.drop_left' nonceLength,
      List.take_left' tagLength, correct _ _ _ _ encrypted, Option.getD_some]
  have bounds : ¬ ((nonce ++ tag ++ ciphertext).length = 0 ∨
      maxFrame < (nonce ++ tag ++ ciphertext).length) := by
    omega
  simp only [encryptedRecv, if_neg bounds, opened, if_neg filled]

/-- A sealed frame is received as nothing but its text. -/
theorem text_of_encryptedRecv (correct : Correct bcrypt key) {session : CryptoSession}
    (keyed : session.sessionKey = some key) {frame text received : Bytes}
    (sealed : Seals bcrypt key frame text)
    (read : encryptedRecv bcrypt session frame = some received) : received = text := by
  obtain ⟨nonce, tag, ciphertext, rfl, nonceLength, tagLength, encrypted⟩ := sealed
  obtain ⟨⟨nonce', tag', ciphertext', same, nonceLength', tagLength', decrypted⟩, _⟩ :=
    opens_of_encryptedRecv keyed read
  obtain ⟨heads, rfl⟩ := List.append_inj same (by simp [*])
  obtain ⟨rfl, rfl⟩ := List.append_inj heads (by simp [*])
  rw [correct _ _ _ _ encrypted] at decrypted
  exact (Option.some.inj decrypted).symm

section

variable {channel channel' : Channel} {event : Event}

/-- Everything received has been sent. -/
def Channel.Genuine (channel : Channel) : Prop :=
  ∀ text ∈ channel.received, ∃ sent ∈ channel.sent, sent.text = text

theorem Channel.Genuine.step (genuine : channel.Genuine) (sound : channel.Sound bcrypt key)
    (correct : Correct bcrypt key) (unforged : Unforged bcrypt channel event)
    (step : Channel.step bcrypt channel event = some channel') : channel'.Genuine := by
  cases Channel.step_cases sound.keyed step with
  | lost failed => exact genuine
  | sent numbered sealed =>
      intro text member
      obtain ⟨sent, found, same⟩ := genuine text member
      exact ⟨sent, List.mem_append_left _ found, same⟩
  | @received frame text listening read =>
      intro other member
      rcases List.mem_append.mp member with old | new
      · exact genuine other old
      · cases List.mem_singleton.mp new
        obtain ⟨sent, found, rfl⟩ := unforged (by rw [read]; rfl)
        have same := text_of_encryptedRecv correct (sound.keyed .server) (sound.sealed sent found)
          read
        exact ⟨sent, found, same.symm⟩
  | rejected listening read => exact genuine

/-- What the server executes has been encrypted by one of the ends, and every text that
one of the ends has encrypted can be executed next, whatever has been executed before. -/
theorem received_genuine (agreed : Agreed bcrypt privateKey key) (correct : Correct bcrypt key)
    (run : Transition.Steps (Channel.step bcrypt) (Unforged bcrypt)
      (Channel.opened bcrypt privateKey) channel) :
    (∀ text ∈ channel.received, ∃ sent ∈ channel.sent, sent.text = text) ∧
      (channel.listening = true → ∀ sent ∈ channel.sent, sent.text ≠ [] →
        sent.frame.length ≤ maxFrame → Unforged bcrypt channel (.deliver sent.frame) ∧
          Channel.step bcrypt channel (.deliver sent.frame) =
            some { channel with received := channel.received ++ [sent.text] }) := by
  have genuine : channel.Genuine := by
    refine run.invariant_of_known (fun _ earlier => agreed.sound_of_steps earlier) nofun ?_
    intro before event after sound genuine unforged step
    exact genuine.step sound correct unforged step
  refine ⟨genuine, ?_⟩
  intro listening sent member filled fits
  have sound := agreed.sound_of_steps run
  have read := encryptedRecv_of_seals correct (sound.keyed .server) (sound.sealed sent member)
    filled fits
  refine ⟨fun _ => ⟨sent, member, rfl⟩, ?_⟩
  simp only [Channel.step, listening, if_true, Channel.deliver, read]

end

/-- A test for `Unforged`: the frame is on the wire. -/
def recorded (channel : Channel) : Event → Bool
  | .send _ _ => true
  | .deliver frame => channel.sent.any fun sent => sent.frame = frame

theorem unforged_of_recorded (bcrypt : BCrypt) (channel : Channel) (event : Event)
    (test : recorded channel event = true) : Unforged bcrypt channel event := by
  cases event with
  | send sender text => trivial
  | deliver frame =>
      intro _
      obtain ⟨sent, member, same⟩ := List.any_eq_true.mp test
      exact ⟨sent, member, of_decide_eq_true same⟩

/-- A connection over the recorded primitives after events with recorded frames. -/
def afterRecorded (events : List Event) : Option Channel :=
  Transition.exec (Transition.checked (Channel.step .recorded) recorded)
    (Channel.opened .recorded recordedKeys) events

theorem steps_afterRecorded {events : List Event} {channel : Channel}
    (executed : afterRecorded events = some channel) :
    Transition.Steps (Channel.step .recorded) (Unforged .recorded)
      (Channel.opened .recorded recordedKeys) channel :=
  Transition.Steps.of_checked (unforged_of_recorded .recorded) executed

/-- The frame of a text under the shared key. -/
def frameOf (counter : UInt64) (text : String) : Bytes :=
  ((CryptoSession.mk none (some sharedKey) counter).encrypt .recorded (ascii text)).1

theorem recorded_correct (key : Bytes) : Correct .recorded key := by
  have opens : ∀ s ∈ sealings,
      BCrypt.recorded.decrypt sharedKey s.nonce s.tag s.ciphertext = some s.plaintext := by
    decide +kernel
  have nonzero : ∀ s ∈ sealings, s.tag ≠ zeroTag := by decide +kernel
  intro nonce text ciphertext tag sealed
  unfold BCrypt.recorded at sealed
  dsimp only at sealed
  split at sealed
  · rename_i s found
    have matched := List.find?_some found
    simp only [decide_eq_true_eq] at matched
    obtain ⟨rfl, rfl, rfl⟩ := matched
    cases sealed
    exact opens s (List.mem_of_find?_eq_some found)
  · cases sealed
    have unmatched : sealings.find? (fun s =>
        key = sharedKey ∧ s.nonce = nonce ∧ s.tag = zeroTag ∧ s.ciphertext = text) = none := by
      refine List.find?_eq_none.mpr fun s member => ?_
      simp [nonzero s member]
    unfold BCrypt.recorded
    dsimp only
    rw [unmatched]
    rfl

theorem received_genuine_request :
    ∃ channel, afterRecorded [.send .client (ascii "a"), .deliver (frameOf 0 "a")] =
        some channel ∧ channel.received = [ascii "a"] ∧
      ∀ text ∈ channel.received, ∃ sent ∈ channel.sent, sent.text = text := by
  have executed : ∃ channel,
      afterRecorded [.send .client (ascii "a"), .deliver (frameOf 0 "a")] = some channel ∧
        channel.received = [ascii "a"] := by
    refine ⟨_, rfl, by decide +kernel⟩
  obtain ⟨channel, reached, received⟩ := executed
  have genuine := received_genuine agreed_recordedKeys (recorded_correct sharedKey)
    (steps_afterRecorded reached)
  exact ⟨channel, reached, received, genuine.1⟩

/-- A request executed twice, a response executed as a request, and two requests executed
in the wrong order. -/
theorem replay_executed :
    ∃ replayed reflected reordered : Channel,
      (∀ channel ∈ [replayed, reflected, reordered],
        Transition.Steps (Channel.step .recorded) (Unforged .recorded)
          (Channel.opened .recorded recordedKeys) channel ∧
        ¬ channel.received <+: (channel.sentBy .client).map Sent.text) ∧
      replayed.received = [ascii "a", ascii "a"] ∧
        (replayed.sentBy .client).map Sent.text = [ascii "a"] ∧
      reflected.received = [ascii "r"] ∧ reflected.sentBy .client = [] ∧
      reordered.received = [ascii "b", ascii "a"] ∧
        (reordered.sentBy .client).map Sent.text = [ascii "a", ascii "b"] := by
  have runs : ∃ replayed reflected reordered : Channel,
      (afterRecorded [.send .client (ascii "a"), .deliver (frameOf 0 "a"),
        .deliver (frameOf 0 "a")] = some replayed ∧
      afterRecorded [.send .server (ascii "r"), .deliver (frameOf 0 "r")] = some reflected ∧
      afterRecorded [.send .client (ascii "a"), .send .client (ascii "b"),
        .deliver (frameOf 1 "b"), .deliver (frameOf 0 "a")] = some reordered) ∧
      replayed.received = [ascii "a", ascii "a"] ∧
        (replayed.sentBy .client).map Sent.text = [ascii "a"] ∧
      reflected.received = [ascii "r"] ∧ reflected.sentBy .client = [] ∧
      reordered.received = [ascii "b", ascii "a"] ∧
        (reordered.sentBy .client).map Sent.text = [ascii "a", ascii "b"] := by
    refine ⟨_, _, _, ⟨rfl, rfl, rfl⟩, ?_⟩
    decide +kernel
  obtain ⟨replayed, reflected, reordered, ⟨first, second, third⟩, values⟩ := runs
  refine ⟨replayed, reflected, reordered, ?_, values⟩
  obtain ⟨twice, once, response, nothing, wrong, right⟩ := values
  intro channel member
  simp only [List.mem_cons, List.not_mem_nil, or_false] at member
  rcases member with rfl | rfl | rfl
  · refine ⟨steps_afterRecorded first, ?_⟩
    rw [twice, once]
    decide
  · refine ⟨steps_afterRecorded second, ?_⟩
    rw [response, nothing]
    decide
  · refine ⟨steps_afterRecorded third, ?_⟩
    rw [wrong, right]
    decide

end WinInspect.Crypto
