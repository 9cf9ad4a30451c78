import WinInspect.Crypto.Recorded
import WinInspect.Crypto.SshKey

/-!
# The identity check

What `verify_identity` is for: the claimed identity is the comment of an authorized key,
and the signature verifies under that key.  The code lets the first line that contains
the identity anywhere decide, so the two agree for the key files and identities where
that line has the key that the comments give to the identity.
-/

namespace WinInspect.Crypto

/-- The comment field of a line of authorized keys: what follows the type and the key. -/
def commentField (line : Bytes) : Option Bytes :=
  match (takeWord (takeWord line).2).2.dropWhile Json.isSpace with
  | [] => none
  | comment => some comment

/-- A line that is not empty and does not start with `#`. -/
def isKeyLine (line : Bytes) : Bool :=
  !(line.isEmpty || line.head? == some (Json.ch '#'))

def keyLines (keysData : Bytes) : List Bytes :=
  (getLines keysData).filter isKeyLine

theorem mem_keyLines {keysData line : Bytes} :
    line ∈ keyLines keysData ↔
      line ∈ getLines keysData ∧ line ≠ [] ∧ line.head? ≠ some (Json.ch '#') := by
  simp [keyLines, isKeyLine]

/-- Some line names the identity in its comment field, and the signature verifies under
the key of that line. -/
def Identified (bcrypt : BCrypt) (keysData identity sigB64 nonce : Bytes) : Prop :=
  ∃ line ∈ getLines keysData, line ≠ [] ∧ line.head? ≠ some (Json.ch '#') ∧
    commentField line = some identity ∧ verifySshSig bcrypt nonce sigB64 line = true

/-! ## The line that decides -/

/-- The first line that contains the identity. -/
def decidingLine (keysData identity : Bytes) : Option Bytes :=
  (keyLines keysData).find? fun line => containsBytes line identity

theorem verifyAgainst_eq (bcrypt : BCrypt) (identity sigB64 nonce : Bytes) (lines : List Bytes) :
    verifyAgainst bcrypt identity sigB64 nonce lines =
      ((lines.filter isKeyLine).find? fun line => containsBytes line identity).any
        (verifySshSig bcrypt nonce sigB64) := by
  induction lines with
  | nil => rfl
  | cons line rest inductionHypothesis =>
      unfold verifyAgainst
      rw [List.filter_cons, isKeyLine]
      split
      · rename_i skipped
        rw [skipped, inductionHypothesis]
        rfl
      · rename_i kept
        rw [Bool.eq_false_iff.mpr kept, Bool.not_false, if_pos rfl, List.find?_cons]
        split
        · rename_i contained
          rw [contained]
          rfl
        · rename_i missing
          rw [Bool.eq_false_iff.mpr missing]
          exact inductionHypothesis

theorem verifyIdentity_eq (bcrypt : BCrypt) (keysData identity sigB64 nonce : Bytes) :
    verifyIdentity bcrypt keysData identity sigB64 nonce =
      (decidingLine keysData identity).any (verifySshSig bcrypt nonce sigB64) :=
  verifyAgainst_eq bcrypt identity sigB64 nonce (getLines keysData)

theorem takeWord_suffix (text : Bytes) : (takeWord text).2 <:+ text :=
  (List.dropWhile_suffix _).trans (List.dropWhile_suffix _)

/-- A line contains its comment. -/
theorem contains_of_commentField {line identity : Bytes}
    (named : commentField line = some identity) : containsBytes line identity = true := by
  have suffix : (takeWord (takeWord line).2).2.dropWhile Json.isSpace <:+ line :=
    ((List.dropWhile_suffix _).trans (takeWord_suffix _)).trans (takeWord_suffix _)
  unfold commentField at named
  split at named
  · cases named
  · cases named
    exact decide_eq_true suffix.isInfix

theorem exists_decidingLine {keysData identity line : Bytes} (member : line ∈ keyLines keysData)
    (named : commentField line = some identity) :
    ∃ first, decidingLine keysData identity = some first := by
  have contained : containsBytes line identity = true := contains_of_commentField named
  exact Option.isSome_iff_exists.mp (List.find?_isSome.mpr ⟨line, member, contained⟩)

theorem identified_iff {bcrypt : BCrypt} {keysData identity sigB64 nonce : Bytes} :
    Identified bcrypt keysData identity sigB64 nonce ↔
      ∃ line ∈ keyLines keysData, commentField line = some identity ∧
        verifySshSig bcrypt nonce sigB64 line = true := by
  simp only [Identified, mem_keyLines, and_assoc]

/-! ## Keys -/

/-- A signature verifies under the key of a line or not at all. -/
theorem verifySshSig_eq_true_iff {bcrypt : BCrypt} {nonce sigB64 line : Bytes} :
    verifySshSig bcrypt nonce sigB64 line = true ↔
      ∃ key, key ≠ [] ∧ parseSshPubkey line = key ∧ 64 ≤ (Base64.decode sigB64).length ∧
        bcrypt.verifySignature key nonce ((Base64.decode sigB64).take 64) = true := by
  unfold verifySshSig
  dsimp only
  constructor
  · intro verified
    split at verified
    · cases verified
    · rename_i usable
      split at verified
      · cases verified
      · rename_i long
        exact ⟨_, by simpa using usable, rfl, by omega, verified⟩
  · rintro ⟨key, usable, rfl, long, verified⟩
    rw [if_neg (by simpa using usable), if_neg (by omega)]
    exact verified

/-- The condition on a key file and an identity: if a line contains the identity, the
first such line has the usable key of the lines with that comment. -/
def DecidedByComment (keysData identity : Bytes) : Prop :=
  ∀ first, decidingLine keysData identity = some first → ∀ key, key ≠ [] →
    (parseSshPubkey first = key ↔
      ∃ line ∈ keyLines keysData, commentField line = some identity ∧ parseSshPubkey line = key)

/-- Primitives under which exactly one key verifies everything. -/
def BCrypt.onlyKey (key : Bytes) : BCrypt :=
  { BCrypt.unavailable with verifySignature := fun publicKey _ _ => decide (publicKey = key) }

theorem verifySshSig_onlyKey {key : Bytes} (usable : key ≠ []) (line : Bytes) :
    verifySshSig (.onlyKey key) [] (Base64.encode (List.replicate 64 0)) line = true ↔
      parseSshPubkey line = key := by
  have long : 64 ≤ (Base64.decode (Base64.encode (List.replicate 64 0))).length := by
    decide +kernel
  rw [verifySshSig_eq_true_iff]
  constructor
  · rintro ⟨other, _, parsed, _, verified⟩
    exact parsed.trans (of_decide_eq_true verified)
  · intro parsed
    exact ⟨key, usable, parsed, long, decide_eq_true rfl⟩

/-- The identity check accepts exactly the identities that a comment gives to a key under
which the signature verifies, for every signature scheme, signature and nonce, if and
only if the first line that contains the identity has the key of that comment. -/
theorem verifyIdentity_exact_iff (keysData identity : Bytes) :
    (∀ bcrypt sigB64 nonce, verifyIdentity bcrypt keysData identity sigB64 nonce = true ↔
      Identified bcrypt keysData identity sigB64 nonce) ↔ DecidedByComment keysData identity := by
  constructor
  · intro exact first deciding key usable
    have here := exact (.onlyKey key) (Base64.encode (List.replicate 64 0)) []
    rw [verifyIdentity_eq, deciding, Option.any_some, identified_iff,
      verifySshSig_onlyKey usable] at here
    simpa only [verifySshSig_onlyKey usable] using here
  · intro decided bcrypt sigB64 nonce
    rw [verifyIdentity_eq, identified_iff]
    constructor
    · intro accepted
      obtain ⟨first, deciding, verified⟩ := (Option.any_eq_true _ _).mp accepted
      obtain ⟨key, usable, parsed, long, valid⟩ := verifySshSig_eq_true_iff.mp verified
      obtain ⟨line, member, named, same⟩ := (decided first deciding key usable).mp parsed
      exact ⟨line, member, named, verifySshSig_eq_true_iff.mpr ⟨key, usable, same, long, valid⟩⟩
    · rintro ⟨line, member, named, verified⟩
      obtain ⟨first, deciding⟩ := exists_decidingLine member named
      obtain ⟨key, usable, parsed, long, valid⟩ := verifySshSig_eq_true_iff.mp verified
      have same := (decided first deciding key usable).mpr ⟨line, member, named, parsed⟩
      rw [deciding, Option.any_some]
      exact verifySshSig_eq_true_iff.mpr ⟨key, usable, same, long, valid⟩

/-- A line with the recorded signer's key. -/
def signerLine (comment : String) : Bytes :=
  ascii "ssh-ed25519 AAAAC3NzaC1lZDI1NTE5AAAAINdamAGCsQq31Uv+08lkBzoO4XLz2qYjJa8CGmj3B1Ea " ++
    ascii comment

/-- A line with another key. -/
def otherLine (comment : String) : Bytes :=
  ascii "ssh-ed25519 AAAAC3NzaC1lZDI1NTE5AAAAID1AF8PoQ4lakrcKp00bfrycmCzPLsSWjMDNVfEq9GYM " ++
    ascii comment

/-- The owner of the signer's key is refused as `alice` when another user's comment
contains that name, and is accepted as `alice` when the comment says something else. -/
theorem identity_confused :
    let keysData := otherLine "bob@alice-pc" ++ [Json.ch '\n'] ++ signerLine "alice"
    let sigB64 := Base64.encode signature
    (verifyIdentity .recorded keysData (ascii "alice") sigB64 signedMessage = false ∧
      Identified .recorded keysData (ascii "alice") sigB64 signedMessage) ∧
    (verifyIdentity .recorded (signerLine "bob@alice-pc") (ascii "alice") sigB64 signedMessage =
        true ∧
      ¬ Identified .recorded (signerLine "bob@alice-pc") (ascii "alice") sigB64 signedMessage) := by
  unfold Identified
  decide +kernel

end WinInspect.Crypto
