import WinInspect.Core.Base64
import WinInspect.Crypto.Session
import WinInspect.Json.Parser

/-!
# Authorized keys

`parse_ssh_pubkey` and `verify_ssh_sig` of `crypto.cpp`, and `verify_identity` of
`tcp_server.cpp`, which picks the line of the authorized-keys text.
-/

namespace WinInspect.Crypto

/-- `stream >> word`: skip white space, then take up to the next. -/
def takeWord (text : Bytes) : Bytes × Bytes :=
  let rest := text.dropWhile Json.isSpace
  (rest.takeWhile fun c => !Json.isSpace c, rest.dropWhile fun c => !Json.isSpace c)

/-- `parse_ssh_pubkey`. -/
def parseSshPubkey (line : Bytes) : Bytes :=
  let type := takeWord line
  let b64 := takeWord type.2
  let decoded := Base64.decode b64.1
  if type.1 ≠ ascii "ssh-ed25519" then []
  else if decoded.length < 32 then []
  else decoded.drop (decoded.length - 32)

/-- `verify_ssh_sig`. -/
def verifySshSig (bcrypt : BCrypt) (message sigB64 pubkeyLine : Bytes) : Bool :=
  let rawPubkey := parseSshPubkey pubkeyLine
  let rawSig := Base64.decode sigB64
  if rawPubkey.isEmpty then false
  else if rawSig.length < 64 then false
  else bcrypt.verifySignature rawPubkey message (rawSig.take 64)

/-- The lines `std::getline` reads from a text. -/
def getLines : Bytes → List Bytes
  | [] => []
  | c :: rest =>
      if c = Json.ch '\n' then [] :: getLines rest
      else
        match getLines rest with
        | [] => [[c]]
        | line :: lines => (c :: line) :: lines

/-- The loop of `verify_identity`: the first line that contains the identity decides. -/
def verifyAgainst (bcrypt : BCrypt) (identity sigB64 nonce : Bytes) : List Bytes → Bool
  | [] => false
  | line :: rest =>
      if line.isEmpty || line.head? == some (Json.ch '#') then
        verifyAgainst bcrypt identity sigB64 nonce rest
      else if containsBytes line identity then verifySshSig bcrypt nonce sigB64 line
      else verifyAgainst bcrypt identity sigB64 nonce rest

/-- `verify_identity`. -/
def verifyIdentity (bcrypt : BCrypt) (keysData identity sigB64 nonce : Bytes) : Bool :=
  verifyAgainst bcrypt identity sigB64 nonce (getLines keysData)

end WinInspect.Crypto
