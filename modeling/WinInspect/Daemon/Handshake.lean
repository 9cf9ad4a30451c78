import WinInspect.Crypto.SshKey
import WinInspect.Daemon.Connection

/-!
# The TCP handshake

The challenge, the check of the client's answer, and the key exchange of
`handle_socket_client`.
-/

namespace WinInspect.Daemon

open Json (Value Object)
open Crypto (BCrypt CryptoSession)

/-- `PROTOCOL_VERSION`. -/
def protocolVersion : Bytes :=
  ascii "0.1.1"

/-- The challenge object, with the nonce and the public key when keys are configured. -/
def challengeJson (authKeys nonce serverPubkey : Bytes) : Value :=
  object ([("type", .str (ascii "hello")), ("version", .str protocolVersion)] ++
    if authKeys = [] then []
    else ("nonce", .str (Base64.encode nonce)) ::
      if serverPubkey = [] then [] else [("pubkey", .str (Base64.encode serverPubkey))])

/-- The `auth_status` object. -/
def authStatusJson : Value :=
  object [("type", .str (ascii "auth_status")), ("ok", .bool true)]

/-- The members of a handshake answer that is well formed and has the right version. -/
structure Answer where
  identity : Bytes
  signature : Bytes
  /-- The `pubkey` member when it is a string. -/
  pubkey : Option Bytes
  deriving DecidableEq

/-- Read a handshake answer; every exception and a wrong version end the handshake. -/
def readAnswer (stod : Json.Stod) (text : Bytes) : Option Answer := do
  let v ← (Json.parse stod text).toOption
  let o ← v.obj?
  let version ← getStr o "version"
  if version ≠ protocolVersion then none
  else return ⟨← getStr o "identity", ← getStr o "signature", getStr o "pubkey"⟩

/-- `verify_identity` on an answer. -/
def Answer.verifies (bcrypt : BCrypt) (authKeys nonce : Bytes) (answer : Answer) : Bool :=
  Crypto.verifyIdentity bcrypt authKeys answer.identity answer.signature nonce

/-- The key exchange: a missing `pubkey` and a failed agreement are passed over. -/
def Answer.exchange (bcrypt : BCrypt) (crypto : CryptoSession) (answer : Answer) :
    CryptoSession :=
  match answer.pubkey with
  | none => crypto
  | some pk => (crypto.computeSharedSecret bcrypt (Base64.decode pk)).2

/-- The crypto session after a handshake answer; `none` closes the connection. -/
def checkAnswer (stod : Json.Stod) (bcrypt : BCrypt) (authKeys nonce : Bytes)
    (crypto : CryptoSession) (text : Bytes) : Option CryptoSession :=
  (readAnswer stod text).bind fun answer =>
    if answer.verifies bcrypt authKeys nonce then some (answer.exchange bcrypt crypto) else none

end WinInspect.Daemon
