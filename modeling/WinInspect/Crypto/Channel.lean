import WinInspect.Crypto.Session
import WinInspect.Transition.Core
import Mathlib.Logic.Function.Basic

/-!
# Encrypted connections

The two ends of a connection after the key exchange, with everything that has been on
the wire between them.  Either end may encrypt at any time; what the server's loop
receives is chosen by the network, which may drop, repeat, reorder and reflect frames.
-/

namespace WinInspect.Crypto

inductive Endpoint where
  | client
  | server
  deriving DecidableEq

def Endpoint.other : Endpoint → Endpoint
  | .client => .server
  | .server => .client

/-- A frame on the wire, with the end that wrote it and the plaintext. -/
structure Sent where
  sender : Endpoint
  text : Bytes
  frame : Bytes
  deriving DecidableEq

/-- The nonce of a frame. -/
def Sent.nonce (sent : Sent) : Bytes :=
  sent.frame.take 12

/-- The state of a connection. -/
structure Channel where
  session : Endpoint → CryptoSession
  /-- How often each end has called `encrypt`. -/
  calls : Endpoint → Nat := fun _ => 0
  sent : List Sent := []
  /-- What `encrypted_recv` has handed to the server's dispatcher. -/
  received : List Bytes := []
  /-- The server's loop is running. -/
  listening : Bool := true

/-- The frames of one end. -/
def Channel.sentBy (channel : Channel) (e : Endpoint) : List Sent :=
  channel.sent.filter fun sent => sent.sender = e

inductive Event where
  /-- An end encrypts and writes a text. -/
  | send (sender : Endpoint) (text : Bytes)
  /-- The network gives a frame to the server. -/
  | deliver (frame : Bytes)

/-- An end calls `encrypted_send`. -/
def Channel.send (bcrypt : BCrypt) (channel : Channel) (sender : Endpoint) (text : Bytes) :
    Channel :=
  let written := encryptedSend bcrypt (channel.session sender) text
  { channel with
    session := Function.update channel.session sender written.2
    calls := Function.update channel.calls sender (channel.calls sender + 1)
    sent := channel.sent ++ (written.1.map fun frame => ⟨sender, text, frame⟩).toList }

/-- The server calls `encrypted_recv`; a failure ends its loop. -/
def Channel.deliver (bcrypt : BCrypt) (channel : Channel) (frame : Bytes) : Channel :=
  match encryptedRecv bcrypt (channel.session .server) frame with
  | some text => { channel with received := channel.received ++ [text] }
  | none => { channel with listening := false }

def Channel.step (bcrypt : BCrypt) : Transition.Step Channel Event
  | channel, .send sender text => some (channel.send bcrypt sender text)
  | channel, .deliver frame =>
      if channel.listening then some (channel.deliver bcrypt frame) else none

/-- The session of an end after the key exchange. -/
def exchanged (bcrypt : BCrypt) (own peer : Bytes) : CryptoSession :=
  let generated := ({} : CryptoSession).generateLocalKey bcrypt (some own)
  (generated.2.computeSharedSecret bcrypt (bcrypt.publicBlob peer)).2

/-- The connection after the key exchange of two ends with given private keys. -/
def Channel.opened (bcrypt : BCrypt) (privateKey : Endpoint → Bytes) : Channel where
  session e := exchanged bcrypt (privateKey e) (privateKey e.other)

/-- Both ends agree on a key. -/
def Agreed (bcrypt : BCrypt) (privateKey : Endpoint → Bytes) (key : Bytes) : Prop :=
  ∀ e : Endpoint, bcrypt.agree (privateKey e) (bcrypt.publicBlob (privateKey e.other)) = some key

variable {bcrypt : BCrypt} {privateKey : Endpoint → Bytes} {key : Bytes}

theorem Agreed.session (agreed : Agreed bcrypt privateKey key) (e : Endpoint) :
    (Channel.opened bcrypt privateKey).session e =
      { localKey := some (privateKey e), sessionKey := some key } := by
  simp only [Channel.opened, exchanged, CryptoSession.generateLocalKey,
    CryptoSession.computeSharedSecret, Option.bind_some, agreed e]

section

variable {channel channel' : Channel} {event : Event}

/-- A call of `encrypt` by an end, as far as its counter goes. -/
def Channel.counted (channel : Channel) (sender : Endpoint) : Channel :=
  let session := channel.session sender
  { channel with
    session := Function.update channel.session sender
      { session with nonceCounter := session.nonceCounter + 1 }
    calls := Function.update channel.calls sender (channel.calls sender + 1) }

/-- What one event does to a connection on which both ends hold a key. -/
inductive Channel.Change (bcrypt : BCrypt) (key : Bytes) (channel : Channel) :
    Event → Channel → Prop
  /-- The cipher fails; the counter advances all the same. -/
  | lost {sender : Endpoint} {text : Bytes}
      (failed : bcrypt.encrypt key
        (CryptoSession.nonceOf (channel.session sender).nonceCounter) text = none) :
      Change bcrypt key channel (.send sender text)
        (channel.counted sender)
  | sent {sender : Endpoint} {text frame : Bytes}
      (numbered : frame.take 12 = CryptoSession.nonceOf (channel.session sender).nonceCounter)
      (sealed : Seals bcrypt key frame text) :
      Change bcrypt key channel (.send sender text)
        { channel.counted sender with sent := channel.sent ++ [⟨sender, text, frame⟩] }
  | received {frame text : Bytes} (listening : channel.listening = true)
      (read : encryptedRecv bcrypt (channel.session .server) frame = some text) :
      Change bcrypt key channel (.deliver frame)
        { channel with received := channel.received ++ [text] }
  | rejected {frame : Bytes} (listening : channel.listening = true)
      (read : encryptedRecv bcrypt (channel.session .server) frame = none) :
      Change bcrypt key channel (.deliver frame) { channel with listening := false }

/-- Every step is one of the changes. -/
theorem Channel.step_cases (keyed : ∀ e, (channel.session e).sessionKey = some key)
    (step : Channel.step bcrypt channel event = some channel') :
    channel.Change bcrypt key event channel' := by
  cases event with
  | send sender text =>
      obtain ⟨session, outcome⟩ := encryptedSend_cases bcrypt (keyed sender) text
      cases step
      rcases outcome with ⟨failed, written⟩ | ⟨frame, written, numbered, sealed⟩
      · have same : channel.send bcrypt sender text = channel.counted sender := by
          simp [Channel.send, Channel.counted, session, written]
        rw [same]
        exact Change.lost failed
      · have same : channel.send bcrypt sender text =
            { channel.counted sender with sent := channel.sent ++ [⟨sender, text, frame⟩] } := by
          simp [Channel.send, Channel.counted, session, written]
        rw [same]
        exact Change.sent numbered sealed
  | deliver frame =>
      unfold Channel.step at step
      dsimp only at step
      split at step
      · rename_i listening
        cases step
        unfold Channel.deliver
        split
        · rename_i read
          exact Change.received listening read
        · rename_i read
          exact Change.rejected listening read
      · cases step

/-- Both ends hold the key, and what is on the wire is sealed with it. -/
structure Channel.Sound (bcrypt : BCrypt) (key : Bytes) (channel : Channel) : Prop where
  keyed : ∀ e, (channel.session e).sessionKey = some key
  sealed : ∀ sent ∈ channel.sent, Seals bcrypt key sent.frame sent.text

theorem Channel.counted_keyed (keyed : ∀ e, (channel.session e).sessionKey = some key)
    (sender : Endpoint) : ∀ e, ((channel.counted sender).session e).sessionKey = some key := by
  intro e
  by_cases same : e = sender
  · subst same
    simp [Channel.counted, keyed]
  · simp [Channel.counted, Function.update_of_ne same, keyed]

theorem Channel.Sound.step (sound : channel.Sound bcrypt key)
    (step : Channel.step bcrypt channel event = some channel') : channel'.Sound bcrypt key := by
  cases Channel.step_cases sound.keyed step with
  | lost failed => exact ⟨Channel.counted_keyed sound.keyed _, sound.sealed⟩
  | sent numbered sealed =>
      refine ⟨Channel.counted_keyed sound.keyed _, fun sent member => ?_⟩
      rcases List.mem_append.mp member with old | new
      · exact sound.sealed sent old
      · cases List.mem_singleton.mp new
        exact sealed
  | received listening read => exact ⟨sound.keyed, sound.sealed⟩
  | rejected listening read => exact ⟨sound.keyed, sound.sealed⟩

theorem Agreed.sound (agreed : Agreed bcrypt privateKey key) :
    (Channel.opened bcrypt privateKey).Sound bcrypt key := by
  refine ⟨fun e => ?_, fun sent member => nomatch member⟩
  rw [agreed.session]

/-- The connection is sound in every reached state. -/
theorem Agreed.sound_of_steps {allowed : Channel → Event → Prop}
    (agreed : Agreed bcrypt privateKey key)
    (run : Transition.Steps (Channel.step bcrypt) allowed (Channel.opened bcrypt privateKey)
      channel) : channel.Sound bcrypt key :=
  run.invariant agreed.sound fun _ _ _ sound _ step => sound.step step

end

end WinInspect.Crypto
