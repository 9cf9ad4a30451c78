import WinInspect.Data.Bytes

/-!
# Crypto sessions

`CryptoSession` of `crypto.hpp`: key agreement, and AES-GCM frames of a 12-byte
nonce, a 16-byte tag and the ciphertext.  The Windows primitives are a parameter.
-/

namespace WinInspect.Crypto

/-- The BCrypt operations the code calls, each with the status check that follows it. -/
structure BCrypt where
  /-- `BCryptExportKey` of the public part of a private key. -/
  publicBlob : Bytes → Bytes
  /-- Import of a remote blob, secret agreement, derivation and key generation. -/
  agree : (localKey remoteBlob : Bytes) → Option Bytes
  /-- `BCryptEncrypt`: the ciphertext and the tag. -/
  encrypt : (key nonce plaintext : Bytes) → Option (Bytes × Bytes)
  /-- `BCryptDecrypt`. -/
  decrypt : (key nonce tag ciphertext : Bytes) → Option Bytes
  /-- `BCryptVerifySignature` under an imported public key. -/
  verifySignature : (publicKey message signature : Bytes) → Bool
  /-- The tag buffer has 16 bytes. -/
  tag_length : ∀ {key nonce plaintext ciphertext tag : Bytes},
    encrypt key nonce plaintext = some (ciphertext, tag) → tag.length = 16

/-- Primitives that always fail, as in the fallback for other systems. -/
def BCrypt.unavailable : BCrypt where
  publicBlob _ := []
  agree _ _ := none
  encrypt _ _ _ := none
  decrypt _ _ _ _ := none
  verifySignature _ _ _ := false
  tag_length := by
    intros
    contradiction

/-- The state of a `CryptoSession`. -/
structure CryptoSession where
  /-- `hLocalKey`. -/
  localKey : Option Bytes := none
  /-- `hSessionKey`, present exactly when `initialized_` is set. -/
  sessionKey : Option Bytes := none
  /-- `nonce_counter_`. -/
  nonceCounter : UInt64 := 0
  deriving DecidableEq

namespace CryptoSession

/-- `is_initialized`. -/
def isInitialized (session : CryptoSession) : Bool :=
  session.sessionKey.isSome

/-- `generate_local_key`, with the private key the system generates, if it does. -/
def generateLocalKey (bcrypt : BCrypt) (session : CryptoSession) (generated : Option Bytes) :
    Bytes × CryptoSession :=
  match generated with
  | none => ([], session)
  | some key => (bcrypt.publicBlob key, { session with localKey := some key })

/-- `compute_shared_secret`. -/
def computeSharedSecret (bcrypt : BCrypt) (session : CryptoSession) (remotePubkey : Bytes) :
    Bool × CryptoSession :=
  match session.localKey.bind fun key => bcrypt.agree key remotePubkey with
  | none => (false, session)
  | some key => (true, { session with sessionKey := some key })

/-- The 12 nonce bytes: the counter in little-endian order, then zeros. -/
def nonceOf (counter : UInt64) : Bytes :=
  (List.range 8).map (fun i => UInt8.ofNat (counter.toNat / 256 ^ i % 256)) ++
    List.replicate 4 0

/-- `encrypt`; the counter advances even when the cipher call fails. -/
def encrypt (bcrypt : BCrypt) (session : CryptoSession) (plaintext : Bytes) :
    Bytes × CryptoSession :=
  match session.sessionKey with
  | none => ([], session)
  | some key =>
      let nonce := nonceOf session.nonceCounter
      let session := { session with nonceCounter := session.nonceCounter + 1 }
      match bcrypt.encrypt key nonce plaintext with
      | none => ([], session)
      | some (ciphertext, tag) => (nonce ++ tag ++ ciphertext, session)

/-- The session as it was before its first call of `encrypt`. -/
def reset (session : CryptoSession) : CryptoSession :=
  { session with nonceCounter := 0 }

theorem reset_of_fresh {session : CryptoSession} (fresh : session.nonceCounter = 0) :
    session.reset = session := by
  rw [reset, ← fresh]

/-- `decrypt`; the empty string stands for every failure. -/
def decrypt (bcrypt : BCrypt) (session : CryptoSession) (frame : Bytes) : Bytes :=
  match session.sessionKey with
  | none => []
  | some key =>
      if frame.length < 28 then []
      else
        (bcrypt.decrypt key (frame.take 12) ((frame.drop 12).take 16) (frame.drop 28)).getD []

end CryptoSession

/-! ## Frames on the wire -/

/-- The largest frame the TCP server reads. -/
def maxFrame : Nat :=
  10 * 1024 * 1024

/-- `encrypted_send`: the frame that is written, if one is, and the session after it. -/
def encryptedSend (bcrypt : BCrypt) (session : CryptoSession) (plaintext : Bytes) :
    Option Bytes × CryptoSession :=
  let ct := session.encrypt bcrypt plaintext
  (if ct.1 = [] then none else some ct.1, ct.2)

/-- `encrypted_recv` on a frame. -/
def encryptedRecv (bcrypt : BCrypt) (session : CryptoSession) (frame : Bytes) : Option Bytes :=
  if frame.length = 0 ∨ maxFrame < frame.length then none
  else
    let plaintext := session.decrypt bcrypt frame
    if plaintext = [] then none else some plaintext

/-- A frame of a nonce, a tag and a ciphertext, where the ciphertext and the tag stand in
a relation to a key, the nonce and a plaintext. -/
def Framed (relation : (key nonce plaintext ciphertext tag : Bytes) → Prop)
    (key frame plaintext : Bytes) : Prop :=
  ∃ nonce tag ciphertext, frame = nonce ++ tag ++ ciphertext ∧ nonce.length = 12 ∧
    tag.length = 16 ∧ relation key nonce plaintext ciphertext tag

/-- The frame is the encryption of a plaintext. -/
def Seals (bcrypt : BCrypt) : (key frame plaintext : Bytes) → Prop :=
  Framed fun key nonce plaintext ciphertext tag =>
    bcrypt.encrypt key nonce plaintext = some (ciphertext, tag)

/-- The frame decrypts to a plaintext, its tag being verified. -/
def Opens (bcrypt : BCrypt) : (key frame plaintext : Bytes) → Prop :=
  Framed fun key nonce plaintext ciphertext tag =>
    bcrypt.decrypt key nonce tag ciphertext = some plaintext

theorem nonceOf_length (counter : UInt64) : (CryptoSession.nonceOf counter).length = 12 := by
  simp [CryptoSession.nonceOf]

section

variable {session : CryptoSession} {key : Bytes}

/-- With a session key a send either fails or gives a sealed frame with the nonce of the
counter, and the counter advances. -/
theorem encryptedSend_cases (bcrypt : BCrypt) (keyed : session.sessionKey = some key)
    (plaintext : Bytes) :
    (encryptedSend bcrypt session plaintext).2 =
        { session with nonceCounter := session.nonceCounter + 1 } ∧
      ((bcrypt.encrypt key (CryptoSession.nonceOf session.nonceCounter) plaintext = none ∧
          (encryptedSend bcrypt session plaintext).1 = none) ∨
        ∃ frame, (encryptedSend bcrypt session plaintext).1 = some frame ∧
          frame.take 12 = CryptoSession.nonceOf session.nonceCounter ∧
          Seals bcrypt key frame plaintext) := by
  unfold encryptedSend CryptoSession.encrypt
  rw [keyed]
  cases sealed : bcrypt.encrypt key (CryptoSession.nonceOf session.nonceCounter) plaintext with
  | none => exact ⟨by simp [sealed], Or.inl ⟨rfl, by simp [sealed]⟩⟩
  | some pair =>
      obtain ⟨ciphertext, tag⟩ := pair
      have long := nonceOf_length session.nonceCounter
      have filled : CryptoSession.nonceOf session.nonceCounter ++ tag ++ ciphertext ≠ [] := by
        intro empty
        have short := congrArg List.length empty
        simp [long] at short
      refine ⟨by simp [sealed], Or.inr ⟨_, ?_, ?_, _, tag, ciphertext, rfl, long,
        bcrypt.tag_length sealed, sealed⟩⟩
      · simp only [sealed, if_neg filled]
      · rw [List.append_assoc, List.take_left' long]

/-- What is received is what the frame decrypts to. -/
theorem opens_of_encryptedRecv {bcrypt : BCrypt} {frame plaintext : Bytes}
    (keyed : session.sessionKey = some key)
    (received : encryptedRecv bcrypt session frame = some plaintext) :
    Opens bcrypt key frame plaintext ∧ plaintext ≠ [] := by
  unfold encryptedRecv CryptoSession.decrypt at received
  rw [keyed] at received
  by_cases bounds : frame.length = 0 ∨ maxFrame < frame.length
  · rw [if_pos bounds] at received
    cases received
  · rw [if_neg bounds] at received
    by_cases short : frame.length < 28
    · simp [short] at received
    · simp only [if_neg short] at received
      cases opened : bcrypt.decrypt key (frame.take 12) ((frame.drop 12).take 16)
          (frame.drop 28) with
      | none => simp [opened] at received
      | some text =>
          simp only [opened, Option.getD_some] at received
          by_cases empty : text = []
          · rw [if_pos empty] at received
            cases received
          · rw [if_neg empty] at received
            cases received
            refine ⟨⟨frame.take 12, (frame.drop 12).take 16, frame.drop 28, ?_, ?_, ?_, opened⟩,
              empty⟩
            · rw [List.append_assoc, ← List.drop_drop (i := 16) (j := 12), List.take_append_drop,
                List.take_append_drop]
            · rw [List.length_take]
              omega
            · rw [List.length_take, List.length_drop]
              omega

end

end WinInspect.Crypto
