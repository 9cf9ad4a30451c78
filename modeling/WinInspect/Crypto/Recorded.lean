import WinInspect.Crypto.Channel

/-!
# Recorded primitives

What ECDH on P-256 with SHA-256, AES-256-GCM and Ed25519 compute on a few inputs, for
concrete runs.  On all other inputs the agreement and the verification fail, and the
cipher gives the plaintext and a zero tag.
-/

namespace WinInspect.Crypto

/-- The bytes of a number, the most significant first. -/
def bigEndian (count value : Nat) : Bytes :=
  (List.range count).reverse.map fun i => UInt8.ofNat (value / 256 ^ i % 256)

def serverPrivate : Bytes :=
  bigEndian 32 0xc88f01f510d9ac3f70a292daa2316de544e9aab8afe84049c62a9c57862d1433

def clientPrivate : Bytes :=
  bigEndian 32 0xc6ef9c5d78ae012a011164acb397ce2088685d8f06bf9be0b283ab46476bee53

/-- A `BCRYPT_ECCPUBLIC_BLOB` of a point on P-256. -/
def eccPublicBlob (x y : Nat) : Bytes :=
  ascii "ECK1" ++ [32, 0, 0, 0] ++ bigEndian 32 x ++ bigEndian 32 y

def serverPublic : Bytes :=
  eccPublicBlob 0xdad0b65394221cf9b051e1feca5787d098dfe637fc90b9ef945d0c3772581180
    0x5271a0461cdb8252d61f1c456fa3e59ab1f45b33accf5f58389e0577b8990bb3

def clientPublic : Bytes :=
  eccPublicBlob 0xd12dfb5289c8d4f81208b70270398c342296970a0bccb74c736fc7554494bf63
    0x56fbf3ca366cc23e8157854c13c58d6aac23f046ada30f8353e74f33039872ab

/-- The key that the two agree on. -/
def sharedKey : Bytes :=
  bigEndian 32 0x0519dc09b36efad1d00aef1d5b53b100202eb910b5de0dede75f190a357a367d

/-- An encryption under `sharedKey`. -/
structure Sealing where
  nonce : Bytes
  plaintext : Bytes
  ciphertext : Bytes
  tag : Bytes

def sealing (counter : UInt64) (plaintext : String) (ciphertext tag : Nat) : Sealing where
  nonce := CryptoSession.nonceOf counter
  plaintext := ascii plaintext
  ciphertext := bigEndian (ascii plaintext).length ciphertext
  tag := bigEndian 16 tag

def sealings : List Sealing :=
  [sealing 0 "a" 0xef 0x45b2faee68622fc95ffbc954b3dad5b9,
    sealing 1 "b" 0x7c 0x7bc7fb44b81f8212e96c6fdd0f63c651,
    sealing 0 "r" 0xfc 0x39f8807cf31488fab188105f96a85d76]

/-- An Ed25519 public key, and its signature of a message. -/
def signerPublic : Bytes :=
  bigEndian 32 0xd75a980182b10ab7d54bfed3c964073a0ee172f3daa62325af021a68f707511a

def signedMessage : Bytes :=
  (List.range 32).map UInt8.ofNat

def signature : Bytes :=
  bigEndian 32 0x00c1db988bb12fd7351a6054ae3fac90fab7e4fc56b1651c7181f5f55f896f66 ++
    bigEndian 32 0x3933d3a90605d9058e9d0ac45950ee2d3c9c9b14857415587179fe0ccac35f09

def zeroTag : Bytes :=
  List.replicate 16 0

def BCrypt.recorded : BCrypt where
  publicBlob key :=
    if key = serverPrivate then serverPublic else if key = clientPrivate then clientPublic else []
  agree own peer :=
    if (own = serverPrivate ∧ peer = clientPublic) ∨ (own = clientPrivate ∧ peer = serverPublic)
    then some sharedKey else none
  encrypt key nonce plaintext :=
    match sealings.find? fun s => key = sharedKey ∧ s.nonce = nonce ∧ s.plaintext = plaintext with
    | some s => some (s.ciphertext, s.tag)
    | none => some (plaintext, zeroTag)
  decrypt key nonce tag ciphertext :=
    match sealings.find? fun s =>
        key = sharedKey ∧ s.nonce = nonce ∧ s.tag = tag ∧ s.ciphertext = ciphertext with
    | some s => some s.plaintext
    | none => if tag = zeroTag then some ciphertext else none
  verifySignature publicKey message sig :=
    decide (publicKey = signerPublic ∧ message = signedMessage ∧ sig = signature)
  tag_length := by
    intro key nonce plaintext ciphertext tag sealed
    have lengths : ∀ s ∈ sealings, s.tag.length = 16 := by decide +kernel
    split at sealed
    · rename_i s found
      cases sealed
      exact lengths s (List.mem_of_find?_eq_some found)
    · cases sealed
      rfl

def recordedKeys : Endpoint → Bytes
  | .client => clientPrivate
  | .server => serverPrivate

theorem agreed_recordedKeys : Agreed .recorded recordedKeys sharedKey := by
  intro e
  cases e <;> decide +kernel

theorem recorded_encrypts (key nonce plaintext : Bytes) :
    (BCrypt.recorded.encrypt key nonce plaintext).isSome := by
  unfold BCrypt.recorded
  dsimp only
  split <;> rfl

/-- A connection over the recorded primitives after some events. -/
def afterEvents (events : List Event) : Option Channel :=
  Transition.exec (Channel.step .recorded) (Channel.opened .recorded recordedKeys) events

end WinInspect.Crypto
