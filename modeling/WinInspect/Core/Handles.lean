import WinInspect.Core.Integers
import WinInspect.Core.Payloads
import WinInspect.Json.Soundness

/-!
# The texts of handles

A handle that the engine writes is read back, whatever method it is passed to.  The texts that
are read are more than those: `Loose` lists what the stream extraction also accepts.
-/

namespace WinInspect

/-! ## Handles that were reported -/

/-- The handle an operation is about. -/
def Call.handle? : {β : Type} → Call β → Option HwndU64
  | _, .listChildren _ parent => some parent
  | _, .getInfo _ hwnd => some hwnd
  | _, .getWindowTree _ root => some root
  | _, .ensureVisible hwnd _ => some hwnd
  | _, .ensureForeground hwnd => some hwnd
  | _, .highlightWindow hwnd => some hwnd
  | _, .setProperty hwnd _ _ => some hwnd
  | _, .postMessage hwnd _ _ _ => some hwnd
  | _, .controlClick hwnd _ _ _ => some hwnd
  | _, .controlSend hwnd _ => some hwnd
  | _, .inspectUiElements parent => some parent
  | _, .invokeUiElement hwnd _ => some hwnd
  | _, _ => none

theorem needHwnd_hwndToString (hwnd : HwndU64) : needHwnd (hwndToString hwnd) = .ok hwnd := by
  rw [needHwnd, parseHwnd_hwndToString, need_some]

theorem need_eq_ok {α : Type} {value : Option α} {what : String} {a : α} :
    need value what = .ok a ↔ value = some a := by
  cases value with
  | none => exact iff_of_false nofun nofun
  | some b => rw [need_some, Except.ok.injEq, Option.some.injEq]

theorem hwndArg_eq {req : CoreRequest} {hwnd : HwndU64}
    (named : getStr req.params "hwnd" = some (hwndToString hwnd)) (old : Option Snapshot) :
    hwndArg req old = .ok hwnd := by
  rw [hwndArg, named, need_some]
  exact needHwnd_hwndToString hwnd

section

variable {β γ : Type} {first : Bytes}

/-- The first of the parameters that are read. -/
def Leads (first : Bytes) (fields : Option (Bytes × β)) : Prop :=
  ∀ read ∈ fields, read.1 = first

theorem leads_pure (rest : β) : Leads first (pure (first, rest)) := by
  rintro read ⟨⟩
  rfl

theorem leads_bind {value : Option γ} {next : γ → Option (Bytes × β)}
    (each : ∀ c, Leads first (next c)) : Leads first (value >>= next) := by
  intro read present
  obtain ⟨c, _, later⟩ := Option.bind_eq_some_iff.mp present
  exact each c read later

/-- Parameters of which the first is the text of a handle. -/
theorem handle_of_fields {req : CoreRequest} {hwnd : HwndU64} {next : Bytes → Option (Bytes × β)}
    {what : String} {build : Bytes × β → HwndU64 → γ} {args : γ}
    (named : getStr req.params "hwnd" = some (hwndToString hwnd))
    (accepted : (do
      let read ← need (getStr req.params "hwnd" >>= next) what
      let h ← needHwnd read.1
      return build read h) = .ok args)
    (leads : ∀ text, Leads text (next text)) : ∃ read, args = build read hwnd := by
  obtain ⟨read, present, rest⟩ := Json.bind_eq_ok.mp accepted
  rw [need_eq_ok, named] at present
  rw [leads _ read present, needHwnd_hwndToString] at rest
  cases rest
  exact ⟨read, rfl⟩

end

/-- Every handler passes on the handle that its parameter names. -/
theorem table_handles {σ : Type} (backend : Backend σ) : ∀ entry ∈ dispatchTable,
    ∀ req old snap args world hwnd, getStr req.params "hwnd" = some (hwndToString hwnd) →
      entry.2.args req old = .ok args →
      ∀ op ∈ (entry.2.query snap args).calls backend world, ∀ h ∈ op.2.handle?, h = hwnd := by
  intro entry member req old snap args world hwnd named
  fin_cases member
  all_goals
    intro accepted op called h about
    first
    | cases called
    | obtain rfl := Effect.Program.mem_calls_perform called
  -- what is left are the operations with a handle
  all_goals
    first
    | cases about
      done
    | cases about
      exact (Except.ok.inj ((hwndArg_eq named old).symm.trans accepted)).symm
    | cases about
      simp only [windowGetTree, named] at accepted
      exact (Except.ok.inj ((needHwnd_hwndToString hwnd).symm.trans accepted)).symm
    | cases about
      obtain ⟨read, rfl⟩ := handle_of_fields named accepted fun _ =>
        leads_bind fun _ => leads_pure _
      rfl
    | cases about
      obtain ⟨read, rfl⟩ := handle_of_fields named accepted fun _ =>
        leads_bind fun _ => leads_bind fun _ => leads_pure _
      rfl

section

variable {σ : Type} {backend : Backend σ} {env : Surroundings} {req : CoreRequest}
  {snapshot : Snapshot} {old : Option Snapshot} {world : σ}

/-- The operations of a request are those of the query of its handler. -/
theorem mem_handleCalls {op : Sigma Call}
    (called : op ∈ handleCalls backend env req snapshot old world) :
    ∃ entry ∈ dispatchTable, ∃ args, entry.2.args req old = .ok args ∧
      op ∈ (entry.2.query snapshot args).calls backend world := by
  cases found : dispatch req.method with
  | none =>
      unfold handleCalls at called
      rw [found] at called
      cases called
  | some handler =>
      obtain ⟨name, member, _⟩ := mem_dispatchTable_of_dispatch found
      cases accepted : handler.args req old with
      | error what =>
          rw [handleCalls_of_error found accepted] at called
          cases called
      | ok args =>
          rw [handleCalls_of_accepted found accepted] at called
          exact ⟨(name, handler), member, args, accepted, called⟩

end

/-- The text of a handle is read as that handle, and a request with this text in `hwnd`, whatever
its method, has no operation performed on another handle. -/
theorem handle_roundTrip (hwnd : HwndU64) :
    parseHwnd (hwndToString hwnd) = some hwnd ∧
      ∀ (σ : Type) (backend : Backend σ) env req snapshot old world,
        getStr req.params "hwnd" = some (hwndToString hwnd) →
        ∀ op ∈ handleCalls backend env req snapshot old world, ∀ h ∈ op.2.handle?, h = hwnd := by
  refine ⟨parseHwnd_hwndToString hwnd, ?_⟩
  intro σ backend env req snapshot old world named op called
  obtain ⟨entry, member, args, accepted, performed⟩ := mem_handleCalls called
  exact table_handles backend entry member req old snapshot args world hwnd named accepted op
    performed

/-- `0x1F` is passed back to `window.getInfo`. -/
theorem handle_roundTrip_getInfo :
    getStr [(ascii "hwnd", .str (ascii "0x1F"))] "hwnd" = some (hwndToString 31) ∧
      ∀ op ∈ handleCalls (σ := Unit) ⟨fun _ world => (.error [], world)⟩ ⟨false, [], 0⟩
        ⟨ascii "1", ascii "window.getInfo", [(ascii "hwnd", .str (ascii "0x1F"))]⟩ ⟨[]⟩ none (),
        ∀ h ∈ op.2.handle?, h = 31 := by
  have named : getStr [(ascii "hwnd", .str (ascii "0x1F"))] "hwnd" =
      some (hwndToString 31) := by
    decide +kernel
  exact ⟨named, (handle_roundTrip 31).2 Unit _ _ _ _ _ _ named⟩

/-! ## Strictness -/

/-- `0x` and 1 to 16 hexadecimal digits. -/
structure StrictHandle (s digits : Bytes) : Prop where
  split : s = ascii "0x" ++ digits
  digit : ∀ c ∈ digits, (digitValue c).isSome = true
  filled : digits ≠ []
  few : digits.length ≤ 16

/-- A text as the extraction reads it: white space, a sign, `0x` again, digits and a rest.  A
zero with an `x` behind it is never a digit. -/
structure HexField (text blanks : Bytes) (sign : Option Bool) (mark digits rest : Bytes) :
    Prop where
  split : text = blanks ++ (signText sign ++ (mark ++ (digits ++ rest)))
  blank : ∀ c ∈ blanks, Json.isSpace c = true
  marked : mark = [] ∨ mark = ascii "0x" ∨ mark = ascii "0X"
  digit : ∀ c ∈ digits, (digitValue c).isSome = true
  filled : digits ≠ []
  stops : ∀ c ∈ rest.head?, (digitValue c).isSome = false
  unmarked : mark = [] → digits = [Json.ch '0'] → ∀ c ∈ rest.head?,
    c ≠ Json.ch 'x' ∧ c ≠ Json.ch 'X'

theorem unsigned_of_digitValue {c : UInt8} (digit : (digitValue c).isSome = true) :
    Unsigned c ∧ c ≠ Json.ch 'x' ∧ c ≠ Json.ch 'X' := by
  have range : 48 ≤ c.toNat ∧ c.toNat ≠ 88 ∧ c.toNat ≠ 120 := by
    unfold digitValue at digit
    grind
  refine ⟨⟨?_, ?_, ?_⟩, ?_, ?_⟩
  · unfold Json.isSpace
    simp only [Bool.or_eq_false_iff, Bool.and_eq_false_imp, beq_eq_false_iff_ne,
      decide_eq_true_eq, decide_eq_false_iff_not, UInt8.le_iff_toNat_le, ne_eq, ← UInt8.toNat_inj]
    exact ⟨fun same => absurd (same ▸ range.1) (by decide), fun _ high =>
      absurd (range.1.trans high) (by decide)⟩
  all_goals
    rintro rfl
    revert range
    decide

namespace HexField

variable {text blanks : Bytes} {sign : Option Bool} {mark digits rest : Bytes}

theorem headed (field : HexField text blanks sign mark digits rest) :
    Headed text blanks sign (mark ++ (digits ++ rest)) where
  split := field.split
  blank := field.blank
  starts := by
    intro _ c first
    obtain ⟨d, more, shape⟩ := List.exists_cons_of_ne_nil field.filled
    rcases field.marked with rfl | rfl | rfl
    · rw [shape] at first
      cases first
      exact (unsigned_of_digitValue (field.digit c (by rw [shape]; exact List.mem_cons_self))).1
    · cases first
      exact ⟨by decide, by decide, by decide⟩
    · cases first
      exact ⟨by decide, by decide, by decide⟩

theorem takeHexMark_eq (field : HexField text blanks sign mark digits rest) :
    takeHexMark (mark ++ (digits ++ rest)) = digits ++ rest := by
  rcases field.marked with rfl | rfl | rfl
  · -- a second `x` could only stand behind a single zero
    rw [List.nil_append]
    obtain ⟨d, more, shape⟩ := List.exists_cons_of_ne_nil field.filled
    cases more with
    | cons e others =>
        have digit := unsigned_of_digitValue (field.digit e (by rw [shape]; simp))
        rw [shape, List.cons_append, List.cons_append, takeHexMark,
          if_neg fun both => both.2.elim digit.2.1 digit.2.2]
    | nil =>
        rw [shape]
        cases rest with
        | nil => rfl
        | cons c others =>
            rw [List.cons_append, List.nil_append, takeHexMark, if_neg]
            rintro ⟨rfl, letter⟩
            have other := field.unmarked rfl shape c rfl
            exact letter.elim other.1 other.2
  · rfl
  · rfl

/-- What the extraction makes of such a text. -/
theorem extractHex_eq (field : HexField text blanks sign mark digits rest) :
    extractHex text =
      if 2 ^ 64 ≤ ofNumeral 16 digits then none
      else if sign = some true then some (UInt64.ofNat (2 ^ 64 - ofNumeral 16 digits))
      else some (UInt64.ofNat (ofNumeral 16 digits)) := by
  unfold extractHex
  rw [field.headed.takeSign_dropWhile]
  dsimp only
  rw [field.takeHexMark_eq, takeWhile_append_of_head field.digit field.stops]
  simp [field.filled]

/-- A text of digits alone has no other part. -/
theorem plain (field : HexField text blanks sign mark digits rest)
    (all : ∀ c ∈ text, (digitValue c).isSome = true) :
    blanks = [] ∧ sign = none ∧ mark = [] ∧ rest = [] := by
  rw [field.split] at all
  refine ⟨?_, ?_, ?_, ?_⟩
  · by_contra filled
    obtain ⟨c, more, shape⟩ := List.exists_cons_of_ne_nil filled
    have member : c ∈ blanks := by rw [shape]; exact List.mem_cons_self
    have digit := unsigned_of_digitValue (all c (List.mem_append_left _ member))
    exact absurd (field.blank c member) (by rw [digit.1.1]; decide)
  · rcases sign with _ | _ | _
    · rfl
    · exact absurd (all (Json.ch '+') (by simp [signText])) (by decide)
    · exact absurd (all (Json.ch '-') (by simp [signText])) (by decide)
  · rcases field.marked with rfl | rfl | rfl
    · rfl
    · exact absurd (all (Json.ch 'x') (by simp [ascii])) (by decide)
    · exact absurd (all (Json.ch 'X') (by simp [ascii])) (by decide)
  · by_contra filled
    obtain ⟨c, more, shape⟩ := List.exists_cons_of_ne_nil filled
    have stops := field.stops c (by rw [shape]; rfl)
    rw [all c (by simp [shape])] at stops
    cases stops

end HexField

theorem takeHexMark_cases (text : Bytes) :
    (∃ mark, (mark = ascii "0x" ∨ mark = ascii "0X") ∧ text = mark ++ takeHexMark text) ∨
      takeHexMark text = text ∧ ∀ c rest, text = Json.ch '0' :: c :: rest →
        c ≠ Json.ch 'x' ∧ c ≠ Json.ch 'X' := by
  match text with
  | [] => exact Or.inr ⟨rfl, nofun⟩
  | [_] => exact Or.inr ⟨rfl, nofun⟩
  | zero :: mark :: rest =>
      rw [takeHexMark]
      split
      · rename_i marked
        obtain ⟨rfl, rfl | rfl⟩ := marked
        · exact Or.inl ⟨ascii "0x", Or.inl rfl, rfl⟩
        · exact Or.inl ⟨ascii "0X", Or.inr rfl, rfl⟩
      · rename_i unmarked
        refine Or.inr ⟨rfl, ?_⟩
        rintro c others ⟨⟩
        exact ⟨fun same => unmarked ⟨rfl, Or.inl same⟩, fun same => unmarked ⟨rfl, Or.inr same⟩⟩

/-- Every text from which a number is extracted is of this form. -/
theorem exists_hexField {text : Bytes} {value : UInt64} (extracted : extractHex text = some value) :
    ∃ blanks sign mark digits rest, HexField text blanks sign mark digits rest ∧
      ofNumeral 16 digits < 2 ^ 64 := by
  obtain ⟨blanks, sign, body, headed⟩ := exists_headed text
  unfold extractHex at extracted
  rw [headed.takeSign_dropWhile] at extracted
  dsimp only at extracted
  split at extracted
  · cases extracted
  · rename_i fits
    rw [not_or, not_le] at fits
    have digit : ∀ c ∈ (takeHexMark body).takeWhile fun c => (digitValue c).isSome,
        (digitValue c).isSome = true :=
      fun c member => List.mem_takeWhile_imp (p := fun c => (digitValue c).isSome) member
    have stops : ∀ c ∈ ((takeHexMark body).dropWhile fun c => (digitValue c).isSome).head?,
        (digitValue c).isSome = false := by
      intro c first
      have notDigit := List.head?_dropWhile_not (fun c => (digitValue c).isSome) (takeHexMark body)
      rw [first] at notDigit
      exact notDigit
    have joined := List.takeWhile_append_dropWhile
      (p := fun c => (digitValue c).isSome) (l := takeHexMark body)
    rcases takeHexMark_cases body with ⟨mark, marked, split⟩ | ⟨same, unmarked⟩
    · refine ⟨blanks, sign, mark, _, _, ⟨?_, headed.blank, Or.inr marked, digit, fits.1, stops, ?_⟩,
        fits.2⟩
      · rw [joined, ← split]
        exact headed.split
      · rintro rfl
        rcases marked with absent | absent <;> cases absent
    · refine ⟨blanks, sign, [], _, _, ⟨?_, headed.blank, Or.inl rfl, digit, fits.1, stops, ?_⟩,
        fits.2⟩
      · rw [joined, same]
        exact headed.split
      · intro _ zero c first
        obtain ⟨others, shape⟩ := List.head?_eq_some_iff.mp first
        rw [zero, shape, same] at joined
        exact unmarked c others joined.symm

/-- Accepted, but not in the form of a handle: there is white space, a sign, a second `0x`, a rest
behind the digits, or more than 16 digits, the value being below 2^64 nevertheless. -/
inductive Loose : Bytes → Prop
  | mk {text blanks : Bytes} {sign : Option Bool} {mark digits rest : Bytes}
      (field : HexField text blanks sign mark digits rest) (fits : ofNumeral 16 digits < 2 ^ 64)
      (other : blanks ≠ [] ∨ sign ≠ none ∨ mark ≠ [] ∨ rest ≠ [] ∨ 16 < digits.length) :
      Loose (ascii "0x" ++ text)

theorem parseHwnd_append (text : Bytes) : parseHwnd (ascii "0x" ++ text) = extractHex text := by
  unfold parseHwnd
  rw [if_pos (by simp [ascii])]
  rfl

namespace StrictHandle

variable {s digits : Bytes}

theorem hexField (strict : StrictHandle s digits) : HexField digits [] none [] digits [] where
  split := (List.append_nil digits).symm
  blank := nofun
  marked := Or.inl rfl
  digit := strict.digit
  filled := strict.filled
  stops := nofun
  unmarked := nofun

theorem ofNumeral_lt (strict : StrictHandle s digits) : ofNumeral 16 digits < 2 ^ 64 := by
  have small : ∀ c ∈ digits, (digitValue c).getD 0 < 16 := by
    intro c member
    have digit := strict.digit c member
    unfold digitValue at digit ⊢
    grind
  calc
    ofNumeral 16 digits < 16 ^ digits.length := WinInspect.ofNumeral_lt small
    _ ≤ 16 ^ 16 := Nat.pow_le_pow_right (by omega) strict.few
    _ = 2 ^ 64 := by norm_num

theorem parseHwnd_eq (strict : StrictHandle s digits) :
    parseHwnd s = some (UInt64.ofNat (ofNumeral 16 digits)) := by
  rw [strict.split, parseHwnd_append, strict.hexField.extractHex_eq,
    if_neg (not_le.mpr strict.ofNumeral_lt), if_neg nofun]

theorem not_loose (strict : StrictHandle s digits) : ¬ Loose s := by
  intro loose
  obtain ⟨rfl, digit, _, few⟩ := strict
  generalize same : ascii "0x" ++ digits = s at loose
  obtain ⟨field, _, other⟩ := loose
  obtain rfl := List.append_cancel_left same
  obtain ⟨rfl, rfl, rfl, rfl⟩ := field.plain digit
  have whole : digits.length = _ := congrArg List.length field.split
  simp [signText] at whole other
  omega

end StrictHandle

/-- `parse_hwnd` accepts the texts of handles, with the numbers their digits denote, and no
others but the loose ones. -/
theorem parseHwnd_strict_iff (s : Bytes) :
    (∀ hwnd, parseHwnd s = some hwnd ↔
      ∃ digits, StrictHandle s digits ∧ hwnd.toNat = ofNumeral 16 digits) ↔ ¬ Loose s := by
  constructor
  · intro exact loose
    have accepted : ∃ hwnd, parseHwnd s = some hwnd := by
      obtain ⟨field, fits, _⟩ := loose
      rw [parseHwnd_append, field.extractHex_eq, if_neg (not_le.mpr fits)]
      split
      · exact ⟨_, rfl⟩
      · exact ⟨_, rfl⟩
    obtain ⟨hwnd, accepted⟩ := accepted
    obtain ⟨digits, strict, _⟩ := (exact hwnd).mp accepted
    exact strict.not_loose loose
  · intro notLoose hwnd
    constructor
    · intro accepted
      unfold parseHwnd at accepted
      split at accepted
      · rename_i marked
        obtain ⟨text, rfl⟩ := List.isPrefixOf_iff_prefix.mp marked
        have read : extractHex text = some hwnd := accepted
        obtain ⟨blanks, sign, mark, digits, rest, field, fits⟩ := exists_hexField read
        by_cases other : blanks ≠ [] ∨ sign ≠ none ∨ mark ≠ [] ∨ rest ≠ [] ∨ 16 < digits.length
        · exact absurd (.mk field fits other) notLoose
        · push Not at other
          obtain ⟨rfl, rfl, rfl, rfl, few⟩ := other
          have whole : text = digits := by simpa [signText] using field.split
          have strict : StrictHandle (ascii "0x" ++ text) digits :=
            ⟨by rw [whole], field.digit, field.filled, few⟩
          refine ⟨digits, strict, ?_⟩
          rw [← parseHwnd_append, strict.parseHwnd_eq] at read
          cases read
          exact UInt64.toNat_ofNat_of_lt' fits
      · cases accepted
    · rintro ⟨digits, strict, value⟩
      rw [strict.parseHwnd_eq, ← value, UInt64.ofNat_toNat]

/-- Text behind the digits is ignored. -/
theorem trailing_text_accepted :
    parseHwnd (ascii "0x10zz") = some 16 ∧ ¬ ∃ digits, StrictHandle (ascii "0x10zz") digits := by
  refine ⟨by decide +kernel, ?_⟩
  rintro ⟨digits, strict⟩
  have split : ascii "0x" ++ ascii "10zz" = ascii "0x" ++ digits := strict.split
  have same := List.append_cancel_left split
  have digit := strict.digit (Json.ch 'z') (by rw [← same]; decide)
  exact absurd digit (by decide)

end WinInspect
