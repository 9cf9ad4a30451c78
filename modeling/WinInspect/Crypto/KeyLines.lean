import WinInspect.Core.Codec
import WinInspect.Crypto.SshKey
import WinInspect.Data.Fields

/-!
# Lines of authorized keys

What `parse_ssh_pubkey` is for: a line names the type `ssh-ed25519` and the base64 of the public
key in the format of the SSH protocol, `[len][type][len][pubkey]`.  The code takes the last 32
bytes of whatever the second field decodes to, so it is exact for a line that has no key by its
type or its size and for one that is in the format, and for no other.
-/

namespace WinInspect.Crypto

open Rfc4648 (leading wholeOctets)

/-- A raw Ed25519 public key. -/
@[ext]
structure RawKey where
  bytes : Bytes
  size : bytes.length = 32

/-- A `string` of the SSH protocol: its length in four bytes, the most significant first, and its
bytes. -/
def sshString (text : Bytes) : Bytes :=
  [UInt8.ofNat (text.length / 2 ^ 24), UInt8.ofNat (text.length / 2 ^ 16),
    UInt8.ofNat (text.length / 2 ^ 8), UInt8.ofNat text.length] ++ text

/-- The public key in the format of the SSH protocol. -/
def RawKey.wire (key : RawKey) : Bytes :=
  sshString (ascii "ssh-ed25519") ++ sshString key.bytes

/-- The line is an entry of the key, with or without a comment behind it. -/
def EntryOf (line : Bytes) (key : RawKey) : Prop :=
  (fields Json.isSpace line)[0]? = some (ascii "ssh-ed25519") ∧
    (fields Json.isSpace line)[1]? = some (Rfc4648.encode key.wire)

/-- The key of the line is returned if it is an entry of one, and nothing otherwise. -/
def ParsedExactly (line : Bytes) : Prop :=
  (∀ key : RawKey, parseSshPubkey line = key.bytes ↔ EntryOf line key) ∧
    ((∀ key : RawKey, ¬EntryOf line key) → parseSshPubkey line = [])

/-! ## Words are fields -/

theorem takeWord_eq (text : Bytes) :
    (takeWord text).1 = (fields Json.isSpace text).headD [] ∧
      fields Json.isSpace (takeWord text).2 = (fields Json.isSpace text).tail := by
  rw [takeWord, ← fields_dropWhile text]
  cases shape : text.dropWhile Json.isSpace with
  | nil => exact ⟨rfl, rfl⟩
  | cons c rest =>
      have letter : Json.isSpace c = false := by
        have stopped := List.head?_dropWhile_not Json.isSpace text
        rw [shape] at stopped
        exact stopped
      have filled : (c :: rest).takeWhile (fun c => !Json.isSpace c) ≠ [] := by
        simp [letter]
      have whole : ∀ d ∈ (c :: rest).takeWhile (fun c => !Json.isSpace c),
          Json.isSpace d = false := by
        intro d member
        simpa using List.mem_takeWhile_imp member
      have ends : ∀ d ∈ ((c :: rest).dropWhile fun c => !Json.isSpace c).head?,
          Json.isSpace d = true := by
        intro d first
        have stopped := List.head?_dropWhile_not (fun c => !Json.isSpace c) (c :: rest)
        rw [Option.mem_def] at first
        rw [first] at stopped
        simpa using stopped
      have split := fields_word filled whole ends
      rw [List.takeWhile_append_dropWhile] at split
      rw [split]
      exact ⟨rfl, rfl⟩

/-- The second field of a line, empty if there is none. -/
def keyField (line : Bytes) : Bytes :=
  (fields Json.isSpace line).getD 1 []

/-- The words `parse_ssh_pubkey` reads are the first two fields. -/
theorem parseSshPubkey_eq (line : Bytes) :
    parseSshPubkey line =
      let decoded := wholeOctets (leading (keyField line))
      if (fields Json.isSpace line)[0]? ≠ some (ascii "ssh-ed25519") then []
      else if decoded.length < 32 then []
      else decoded.drop (decoded.length - 32) := by
  have second : (takeWord (takeWord line).2).1 = keyField line := by
    rw [(takeWord_eq _).1, (takeWord_eq line).2, keyField]
    match fields Json.isSpace line with
    | [] => rfl
    | [_] => rfl
    | _ :: _ :: _ => rfl
  have first : (takeWord line).1 = ascii "ssh-ed25519" ↔
      (fields Json.isSpace line)[0]? = some (ascii "ssh-ed25519") := by
    rw [(takeWord_eq line).1]
    cases fields Json.isSpace line with
    | nil => decide
    | cons field rest => exact Option.some_inj.symm
  unfold parseSshPubkey
  simp only [second, Base64.decode_eq_wholeOctets, ne_eq, first]

/-! ## Keys -/

theorem RawKey.length_wire (key : RawKey) : key.wire.length = 51 := by
  simp [wire, sshString, ascii, key.size]

theorem RawKey.drop_wire (key : RawKey) : key.wire.drop 19 = key.bytes := by
  rfl

/-- A line that has no key by its type or by its size gives none. -/
theorem parseSshPubkey_of_refused {line : Bytes}
    (refused : (fields Json.isSpace line)[0]? ≠ some (ascii "ssh-ed25519") ∨
      (leading (keyField line)).length < 43) : parseSshPubkey line = [] := by
  rw [parseSshPubkey_eq]
  dsimp only
  split
  · rfl
  · rename_i typed
    have short := refused.resolve_left typed
    rw [if_pos (by rw [Rfc4648.length_wholeOctets]; omega)]

/-- Every other line gives the last 32 bytes. -/
theorem parseSshPubkey_of_accepted {line : Bytes}
    (typed : (fields Json.isSpace line)[0]? = some (ascii "ssh-ed25519"))
    (long : 43 ≤ (leading (keyField line)).length) :
    parseSshPubkey line =
      (wholeOctets (leading (keyField line))).drop
        ((wholeOctets (leading (keyField line))).length - 32) := by
  rw [parseSshPubkey_eq]
  dsimp only
  rw [if_neg (not_not.mpr typed), if_neg (by rw [Rfc4648.length_wholeOctets]; omega)]

theorem keyField_of_entryOf {line : Bytes} {key : RawKey} (entry : EntryOf line key) :
    keyField line = Rfc4648.encode key.wire := by
  rw [keyField, List.getD_eq_getElem?_getD, entry.2]
  rfl

/-- The key field of an entry is long enough. -/
theorem EntryOf.long {line : Bytes} {key : RawKey} (entry : EntryOf line key) :
    43 ≤ (leading (keyField line)).length := by
  have octets := congrArg List.length (Rfc4648.wholeOctets_encode key.wire)
  rw [Rfc4648.length_wholeOctets, key.length_wire, ← keyField_of_entryOf entry] at octets
  omega

/-- An entry gives its key. -/
theorem parseSshPubkey_of_entryOf {line : Bytes} {key : RawKey} (entry : EntryOf line key) :
    parseSshPubkey line = key.bytes := by
  rw [parseSshPubkey_of_accepted entry.1 entry.long, keyField_of_entryOf entry,
    Rfc4648.wholeOctets_encode, key.length_wire]
  exact key.drop_wire

/-- What an accepted line gives has the size of a key. -/
theorem length_parseSshPubkey {line : Bytes}
    (typed : (fields Json.isSpace line)[0]? = some (ascii "ssh-ed25519"))
    (long : 43 ≤ (leading (keyField line)).length) : (parseSshPubkey line).length = 32 := by
  rw [parseSshPubkey_of_accepted typed long, List.length_drop, Rfc4648.length_wholeOctets]
  omega

theorem parsedExactly_of_refused {line : Bytes} (nothing : parseSshPubkey line = [])
    (other : ∀ key, ¬EntryOf line key) : ParsedExactly line := by
  refine ⟨fun key => ⟨fun parsed => ?_, fun entry => absurd entry (other key)⟩, fun _ => nothing⟩
  have size := key.size
  rw [← parsed, nothing] at size
  cases size

theorem parsedExactly_of_entryOf {line : Bytes} {key : RawKey} (entry : EntryOf line key) :
    ParsedExactly line := by
  have parsed := parseSshPubkey_of_entryOf entry
  refine ⟨fun other => ⟨fun same => ?_, parseSshPubkey_of_entryOf⟩,
    fun none => absurd entry (none key)⟩
  rwa [← RawKey.ext (parsed.symm.trans same)]

/-- A line is parsed exactly if and only if it has another type, or its second field has fewer
than 43 characters of base64 in front of any other, or that field is the base64 of a public key in
the format of the SSH protocol. -/
theorem parsedExactly_iff (line : Bytes) :
    ParsedExactly line ↔
      (fields Json.isSpace line)[0]? ≠ some (ascii "ssh-ed25519") ∨
        (leading (keyField line)).length < 43 ∨
        ∃ key : RawKey, (fields Json.isSpace line)[1]? = some (Rfc4648.encode key.wire) := by
  constructor
  · intro exact
    by_cases typed : (fields Json.isSpace line)[0]? = some (ascii "ssh-ed25519")
    · by_cases long : 43 ≤ (leading (keyField line)).length
      · let key : RawKey := ⟨parseSshPubkey line, length_parseSshPubkey typed long⟩
        exact .inr (.inr ⟨key, ((exact.1 key).mp rfl).2⟩)
      · exact .inr (.inl (by omega))
    · exact .inl typed
  · rintro (untyped | short | ⟨key, encoded⟩)
    · exact parsedExactly_of_refused (parseSshPubkey_of_refused (.inl untyped))
        fun key entry => untyped entry.1
    · refine parsedExactly_of_refused (parseSshPubkey_of_refused (.inr short)) fun key entry => ?_
      have long := entry.long
      omega
    · by_cases typed : (fields Json.isSpace line)[0]? = some (ascii "ssh-ed25519")
      · exact parsedExactly_of_entryOf ⟨typed, encoded⟩
      · exact parsedExactly_of_refused (parseSshPubkey_of_refused (.inl typed))
          fun key entry => typed entry.1

/-- The key `00 01 … 1F`. -/
def countingKey : RawKey where
  bytes := (List.range 32).map UInt8.ofNat
  size := by decide

/-- The entry of a key with the last four characters cut off. -/
def cutLine : Bytes :=
  ascii "ssh-ed25519 " ++ (Rfc4648.encode countingKey.wire).take 64

/-- A cut entry gives the end of the length and what is left of the key. -/
theorem cutLine_accepted :
    parseSshPubkey cutLine = [0, 0, 32] ++ countingKey.bytes.take 29 ∧ ¬ParsedExactly cutLine := by
  have parsed : parseSshPubkey cutLine = [0, 0, 32] ++ countingKey.bytes.take 29 := by
    decide +kernel
  refine ⟨parsed, fun exact => ?_⟩
  let key : RawKey := ⟨[0, 0, 32] ++ countingKey.bytes.take 29, by decide⟩
  have entry : EntryOf cutLine key := (exact.1 key).mp parsed
  have size := congrArg (Option.map List.length) entry.2
  rw [Option.map_some, Rfc4648.length_encode, key.length_wire] at size
  exact absurd size (by decide +kernel)

end WinInspect.Crypto
