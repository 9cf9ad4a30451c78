import WinInspect.Core.Version
import WinInspect.Json.RoundTrip

/-!
# Version tags

A tag is an optional `v` or `V` and dot-separated decimal components.  `parse_version` reads
every tag back, and more: `std::stoi` ignores what stands before and behind the digits of a
segment, and `std::getline` does not see a dot at the end.
-/

namespace WinInspect

/-! ## Segments -/

theorem not_mem_of_mem_splitOn {delim : UInt8} {text part : Bytes}
    (member : part ∈ text.splitOn delim) : delim ∉ part := by
  induction text generalizing part with
  | nil =>
      rw [List.splitOn_nil, List.mem_singleton] at member
      rw [member]
      exact List.not_mem_nil
  | cons c text inductionHypothesis =>
      rw [List.splitOn_cons_eq_if_modifyHead] at member
      split at member
      · rcases List.mem_cons.mp member with rfl | later
        · exact List.not_mem_nil
        · exact inductionHypothesis later
      · rename_i different
        obtain ⟨first, others, shape⟩ := List.exists_cons_of_ne_nil (List.splitOn_ne_nil delim text)
        rw [shape] at member inductionHypothesis
        rcases List.mem_cons.mp member with rfl | later
        · rw [List.mem_cons, not_or]
          refine ⟨?_, inductionHypothesis List.mem_cons_self⟩
          rintro rfl
          exact different (beq_self_eq_true delim)
        · exact inductionHypothesis (List.mem_cons_of_mem _ later)

section

variable {delim : UInt8} {texts : List Bytes}

/-- Segments with delimiters between them are read as they are, if the last is not empty. -/
theorem getlines_intercalate (free : ∀ text ∈ texts, delim ∉ text) (present : texts ≠ [])
    (filled : texts.getLast? ≠ some []) : getlines delim ([delim].intercalate texts) = texts := by
  unfold getlines
  rw [List.splitOn_intercalate delim free present]
  exact if_neg filled

theorem getlines_closed (free : ∀ text ∈ texts, delim ∉ text) :
    getlines delim ([delim].intercalate (texts ++ [[]])) = texts := by
  have freeAll : ∀ text ∈ texts ++ [[]], delim ∉ text := by
    intro text member
    rcases List.mem_append.mp member with inside | last
    · exact free text inside
    · rw [List.mem_singleton.mp last]
      exact List.not_mem_nil
  unfold getlines
  rw [List.splitOn_intercalate delim freeAll (by simp)]
  dsimp only
  rw [if_pos (by simp), List.dropLast_concat]

/-- Every text is one of these. -/
theorem getlines_cases (delim : UInt8) (text : Bytes) :
    (∀ part ∈ getlines delim text, delim ∉ part) ∧
      (text = [delim].intercalate (getlines delim text ++ [[]]) ∨
        getlines delim text ≠ [] ∧ (getlines delim text).getLast? ≠ some [] ∧
          text = [delim].intercalate (getlines delim text)) := by
  have joined : [delim].intercalate (text.splitOn delim) = text := List.intercalate_splitOn delim
  unfold getlines
  dsimp only
  split
  · rename_i last
    refine ⟨fun part member => not_mem_of_mem_splitOn (List.mem_of_mem_dropLast member), Or.inl ?_⟩
    rw [List.dropLast_append_getLast? [] last, joined]
  · rename_i last
    exact ⟨fun part member => not_mem_of_mem_splitOn member,
      Or.inr ⟨List.splitOn_ne_nil delim text, last, joined.symm⟩⟩

/-- An empty segment at the end is a delimiter. -/
theorem intercalate_append_nil (present : texts ≠ []) :
    [delim].intercalate (texts ++ [[]]) = [delim].intercalate texts ++ [delim] := by
  induction texts with
  | nil => exact absurd rfl present
  | cons text others inductionHypothesis =>
      cases others with
      | nil => simp
      | cons other more =>
          have rest := inductionHypothesis (List.cons_ne_nil other more)
          rw [List.cons_append] at rest
          rw [List.cons_append, List.cons_append, List.intercalate_cons_cons, rest,
            List.intercalate_cons_cons]
          simp

end

/-- A segment that `std::stoi` converts. -/
def Segment (text : Bytes) : Prop :=
  ∃ blanks sign digits rest, Decimal text blanks sign digits rest ∧
    -2 ^ 31 ≤ signedNumber sign digits ∧ signedNumber sign digits < 2 ^ 31

theorem segment_iff {text : Bytes} : Segment text ↔ ∃ n, stoi text = some n := by
  constructor
  · rintro ⟨blanks, sign, digits, rest, decimal, low, high⟩
    exact ⟨_, stoi_eq_some_iff.mpr ⟨blanks, sign, digits, rest, decimal, rfl, low, high⟩⟩
  · rintro ⟨n, converted⟩
    obtain ⟨blanks, sign, digits, rest, decimal, rfl, low, high⟩ := stoi_eq_some_iff.mp converted
    exact ⟨blanks, sign, digits, rest, decimal, low, high⟩

/-- A segment starts with white space, a sign or a digit, and so not with a `v`. -/
theorem Segment.head {text : Bytes} (segment : Segment text) :
    ∃ c rest, text = c :: rest ∧ c ≠ Json.ch 'v' ∧ c ≠ Json.ch 'V' := by
  obtain ⟨blanks, sign, digits, rest, decimal, _⟩ := segment
  have unmarked : ∀ c, Json.isSpace c = true ∨ Json.isDigit c = true →
      c ≠ Json.ch 'v' ∧ c ≠ Json.ch 'V' := by
    intro c kind
    constructor
    · rintro rfl
      revert kind
      decide
    · rintro rfl
      revert kind
      decide
  rw [decimal.split]
  cases shape : blanks with
  | cons c more =>
      exact ⟨c, _, rfl, unmarked c (Or.inl (decimal.blank c (by rw [shape]; simp)))⟩
  | nil =>
      rcases sign with _ | _ | _
      · obtain ⟨c, more, digitShape⟩ := List.exists_cons_of_ne_nil decimal.filled
        rw [digitShape]
        exact ⟨c, _, rfl, unmarked c (Or.inr (decimal.digit c (by rw [digitShape]; simp)))⟩
      · exact ⟨Json.ch '+', _, rfl, by decide⟩
      · exact ⟨Json.ch '-', _, rfl, by decide⟩

/-! ## The loop -/

/-- The segments convert to the numbers. -/
abbrev Converts (texts : List Bytes) (numbers : List Int) : Prop :=
  List.Forall₂ (fun text n => stoi text = some n) texts numbers

theorem parseParts_of_converts {texts : List Bytes} {numbers : List Int}
    (converts : Converts texts numbers) (parts : List Int) :
    parseParts texts parts = parts ++ numbers := by
  induction converts generalizing parts with
  | nil => rw [parseParts, List.append_nil]
  | cons converted _ inductionHypothesis =>
      rw [parseParts, converted]
      dsimp only
      rw [inductionHypothesis, List.append_assoc, List.singleton_append]

theorem converts_of_parseParts {texts : List Bytes} {parts : List Int}
    (filled : parseParts texts parts ≠ []) : ∃ numbers, Converts texts numbers := by
  induction texts generalizing parts with
  | nil => exact ⟨[], .nil⟩
  | cons text others inductionHypothesis =>
      rw [parseParts] at filled
      cases converted : stoi text with
      | none =>
          rw [converted] at filled
          exact absurd rfl filled
      | some n =>
          rw [converted] at filled
          obtain ⟨numbers, converts⟩ := inductionHypothesis filled
          exact ⟨n :: numbers, .cons converted converts⟩

/-! ## Tags -/

/-- An optional `v` or `V`. -/
def Mark (text : Bytes) : Prop :=
  text = [] ∨ text = [Json.ch 'v'] ∨ text = [Json.ch 'V']

/-- A run of decimal digits that denotes an `int`. -/
structure Component (text : Bytes) (n : Nat) : Prop where
  filled : text ≠ []
  digit : ∀ c ∈ text, Json.isDigit c = true
  value : ofNumeral 10 text = n
  fits : n < 2 ^ 31

/-- A tag: an optional mark and components with dots between them. -/
inductive VersionTag : Bytes → List Nat → Prop
  | mk {mark : Bytes} {texts : List Bytes} {numbers : List Nat} (marked : Mark mark)
      (present : texts ≠ []) (components : List.Forall₂ Component texts numbers) :
      VersionTag (mark ++ [Json.ch '.'].intercalate texts) numbers

/-- Not a tag, but read like one: dot-separated segments that `std::stoi` converts, of which one
is not digits alone, or with a dot behind them. -/
inductive Decorated : Bytes → Prop
  | segment {mark : Bytes} {texts : List Bytes} (marked : Mark mark)
      (segments : ∀ text ∈ texts, Segment text ∧ Json.ch '.' ∉ text)
      (decorated : ∃ text ∈ texts, ¬ ∀ c ∈ text, Json.isDigit c = true) :
      Decorated (mark ++ [Json.ch '.'].intercalate texts)
  | dot {mark : Bytes} {texts : List Bytes} (marked : Mark mark) (present : texts ≠ [])
      (segments : ∀ text ∈ texts, Segment text ∧ Json.ch '.' ∉ text) :
      Decorated (mark ++ ([Json.ch '.'].intercalate texts ++ [Json.ch '.']))

theorem exists_mark (tag : Bytes) : ∃ mark, Mark mark ∧ tag = mark ++ stripMark tag := by
  cases tag with
  | nil => exact ⟨[], Or.inl rfl, rfl⟩
  | cons c rest =>
      by_cases marked : c = Json.ch 'v' ∨ c = Json.ch 'V'
      · rw [stripMark, if_pos marked]
        rcases marked with rfl | rfl
        · exact ⟨[Json.ch 'v'], Or.inr (Or.inl rfl), rfl⟩
        · exact ⟨[Json.ch 'V'], Or.inr (Or.inr rfl), rfl⟩
      · rw [stripMark, if_neg marked]
        exact ⟨[], Or.inl rfl, rfl⟩

theorem stripMark_append {mark body : Bytes} (marked : Mark mark)
    (head : ∃ c rest, body = c :: rest ∧ c ≠ Json.ch 'v' ∧ c ≠ Json.ch 'V') :
    stripMark (mark ++ body) = body := by
  obtain ⟨c, rest, rfl, lower, upper⟩ := head
  rcases marked with rfl | rfl | rfl
  · rw [List.nil_append, stripMark, if_neg (not_or.mpr ⟨lower, upper⟩)]
  · rfl
  · rfl

namespace Component

variable {text : Bytes} {n : Nat}

theorem decimal (component : Component text n) : Decimal text [] none text [] where
  split := (List.append_nil text).symm
  blank := nofun
  digit := component.digit
  filled := component.filled
  stops := nofun

theorem stoi_eq (component : Component text n) : stoi text = some (n : Int) := by
  refine stoi_eq_some_iff.mpr ⟨[], none, text, [], component.decimal, ?_, ?_, ?_⟩
  · rw [signedNumber, if_neg nofun, component.value]
  · omega
  · have := component.fits
    omega

theorem free (component : Component text n) : Json.ch '.' ∉ text :=
  fun member => absurd (component.digit _ member) (by decide)

theorem segment (component : Component text n) : Segment text :=
  segment_iff.mpr ⟨n, component.stoi_eq⟩

end Component

/-- The segments of a tag are read as they are, with or without a dot behind them. -/
theorem getlines_stripMark {mark : Bytes} {texts : List Bytes} (marked : Mark mark)
    (present : texts ≠ []) (segments : ∀ text ∈ texts, Segment text ∧ Json.ch '.' ∉ text) :
    (stripMark (mark ++ [Json.ch '.'].intercalate texts) = [Json.ch '.'].intercalate texts ∧
        getlines (Json.ch '.') ([Json.ch '.'].intercalate texts) = texts) ∧
      stripMark (mark ++ ([Json.ch '.'].intercalate texts ++ [Json.ch '.'])) =
          [Json.ch '.'].intercalate texts ++ [Json.ch '.'] ∧
        getlines (Json.ch '.') ([Json.ch '.'].intercalate texts ++ [Json.ch '.']) = texts := by
  have free : ∀ text ∈ texts, Json.ch '.' ∉ text := fun text member => (segments text member).2
  have head : ∃ c rest, [Json.ch '.'].intercalate texts = c :: rest ∧ c ≠ Json.ch 'v' ∧
      c ≠ Json.ch 'V' := by
    obtain ⟨text, others, rfl⟩ := List.exists_cons_of_ne_nil present
    obtain ⟨c, rest, rfl, unmarked⟩ := (segments text List.mem_cons_self).1.head
    cases others with
    | nil => exact ⟨c, rest, by simp, unmarked⟩
    | cons other more => exact ⟨c, _, by rw [List.intercalate_cons_cons]; rfl, unmarked⟩
  have filled : texts.getLast? ≠ some [] := by
    intro last
    obtain ⟨c, rest, shape, _⟩ := (segments [] (List.mem_of_getLast? last)).1.head
    cases shape
  refine ⟨⟨stripMark_append marked head, getlines_intercalate free present filled⟩, ?_, ?_⟩
  · apply stripMark_append marked
    obtain ⟨c, rest, shape, unmarked⟩ := head
    exact ⟨c, rest ++ [Json.ch '.'], by rw [shape, List.cons_append], unmarked⟩
  · rw [← intercalate_append_nil present]
    exact getlines_closed free

theorem Converts.segments {texts : List Bytes} {numbers : List Int}
    (converts : Converts texts numbers) : ∀ text ∈ texts, Segment text := by
  induction converts with
  | nil => exact fun _ member => absurd member List.not_mem_nil
  | cons converted _ inductionHypothesis =>
      exact List.forall_mem_cons.mpr ⟨segment_iff.mpr ⟨_, converted⟩, inductionHypothesis⟩

theorem exists_converts {texts : List Bytes} (segments : ∀ text ∈ texts, Segment text) :
    ∃ numbers, Converts texts numbers := by
  induction texts with
  | nil => exact ⟨[], .nil⟩
  | cons text others inductionHypothesis =>
      rw [List.forall_mem_cons] at segments
      obtain ⟨n, converted⟩ := segment_iff.mp segments.1
      obtain ⟨numbers, converts⟩ := inductionHypothesis segments.2
      exact ⟨n :: numbers, .cons converted converts⟩

theorem converts_of_components {texts : List Bytes} {numbers : List Nat}
    (components : List.Forall₂ Component texts numbers) :
    Converts texts (numbers.map Int.ofNat) := by
  induction components with
  | nil => exact .nil
  | cons component _ inductionHypothesis => exact .cons component.stoi_eq inductionHypothesis

/-- Segments of digits alone are components. -/
theorem exists_components {texts : List Bytes} (segments : ∀ text ∈ texts, Segment text)
    (plain : ∀ text ∈ texts, ∀ c ∈ text, Json.isDigit c = true) :
    ∃ numbers, List.Forall₂ Component texts numbers := by
  induction texts with
  | nil => exact ⟨[], .nil⟩
  | cons text others inductionHypothesis =>
      rw [List.forall_mem_cons] at segments plain
      obtain ⟨blanks, sign, digits, rest, decimal, _, high⟩ := segments.1
      obtain ⟨rfl, rfl, rfl⟩ := decimal.plain_iff.mp plain.1
      have whole : text = digits := by simpa [signText] using decimal.split
      rw [signedNumber, if_neg (Option.some_ne_none true).symm] at high
      obtain ⟨numbers, components⟩ := inductionHypothesis segments.2 plain.2
      refine ⟨ofNumeral 10 digits :: numbers, .cons ⟨?_, plain.1, ?_, ?_⟩ components⟩
      · rw [whole]
        exact decimal.filled
      · rw [whole]
      · omega

theorem segments_of_components {texts : List Bytes} {numbers : List Nat}
    (components : List.Forall₂ Component texts numbers) :
    ∀ text ∈ texts, Segment text ∧ Json.ch '.' ∉ text := by
  induction components with
  | nil => exact fun _ member => absurd member List.not_mem_nil
  | cons component _ inductionHypothesis =>
      exact List.forall_mem_cons.mpr ⟨⟨component.segment, component.free⟩, inductionHypothesis⟩

theorem digits_of_components {texts : List Bytes} {numbers : List Nat}
    (components : List.Forall₂ Component texts numbers) :
    ∀ text ∈ texts, ∀ c ∈ text, Json.isDigit c = true := by
  induction components with
  | nil => exact fun _ member => absurd member List.not_mem_nil
  | cons component _ inductionHypothesis =>
      exact List.forall_mem_cons.mpr ⟨component.digit, inductionHypothesis⟩

/-- A tag is read as its components. -/
theorem parseVersion_of_versionTag {tag : Bytes} {numbers : List Nat}
    (versionTag : VersionTag tag numbers) : parseVersion tag = numbers.map Int.ofNat := by
  obtain ⟨marked, present, components⟩ := versionTag
  obtain ⟨⟨stripped, read⟩, _⟩ :=
    getlines_stripMark marked present (segments_of_components components)
  rw [parseVersion, stripped, read, parseParts_of_converts (converts_of_components components)]
  exact List.nil_append _

/-! ## The check for an update -/

/-- The loop over the assets changes nothing but the two addresses. -/
theorem foldl_scanAsset (assets : List Json.Value) (info : UpdateInfo) :
    ∃ installer portable, assets.foldl scanAsset info =
      { info with installerUrl := installer, portableZipUrl := portable } := by
  have step : ∀ (info : UpdateInfo) asset, ∃ installer portable, scanAsset info asset =
      { info with installerUrl := installer, portableZipUrl := portable } := by
    intro info asset
    unfold scanAsset
    dsimp only
    split
    · exact ⟨_, _, rfl⟩
    · split
      · exact ⟨_, _, rfl⟩
      · split
        · exact ⟨_, _, rfl⟩
        · exact ⟨_, _, rfl⟩
  induction assets generalizing info with
  | nil => exact ⟨_, _, rfl⟩
  | cons asset assets inductionHypothesis =>
      obtain ⟨installer, portable, first⟩ := step info asset
      obtain ⟨installer', portable', rest⟩ := inductionHypothesis (scanAsset info asset)
      rw [List.foldl_cons, rest, first]
      exact ⟨installer', portable', rfl⟩

/-- The outcome for a response that names a release. -/
theorem checkForUpdate_of_tag {stod : Json.Stod} {body : Bytes} {obj : Json.Object}
    {current latest : Bytes} (parsed : Json.parse stod body = .ok (.obj obj))
    (tagged : getStr obj "tag_name" = some latest) (cur : parseVersion current ≠ [])
    (lat : parseVersion latest ≠ []) :
    (checkForUpdate stod body current).error = [] ∧
      (checkForUpdate stod body current).updateAvailable =
        decide (0 < compareVersions (parseVersion latest) (parseVersion current)) := by
  have filled : body ≠ [] := by
    rintro rfl
    have failed : Json.parse stod [] = .error (.parseError "invalid value") := by
      with_unfolding_all rfl
    rw [failed] at parsed
    cases parsed
  unfold checkForUpdate
  rw [if_neg filled, parsed]
  dsimp only [Json.Value.obj?]
  unfold readRelease
  rw [tagged]
  dsimp only
  obtain ⟨installer, portable, scanned⟩ := foldl_scanAsset
    (((obj.get? "assets").bind Json.Value.arr?).getD [])
    { updateAvailable := false, currentVersion := current, latestVersion := latest,
      releaseNotes := (getStr obj "body").getD [], error := [], installerUrl := [],
      portableZipUrl := [] }
  rw [scanned, compareTags]
  dsimp only
  rw [if_neg (not_or.mpr ⟨cur, lat⟩)]
  exact ⟨rfl, rfl⟩

theorem VersionTag.parseVersion_ne_nil {tag : Bytes} {numbers : List Nat}
    (versionTag : VersionTag tag numbers) : parseVersion tag ≠ [] := by
  rw [parseVersion_of_versionTag versionTag]
  obtain ⟨_, present, components⟩ := versionTag
  intro empty
  rw [List.map_eq_nil_iff] at empty
  subst empty
  cases components
  exact present rfl

/-- The comparison of versions is the total preorder that compares them lexicographically with
zeros behind them, and an update is reported exactly when the tag of the latest release is above
the current one in it. -/
theorem versions_ordered (stod : Json.Stod) :
    (∀ a b, compareVersions b a = -compareVersions a b) ∧
    (∀ a b c, compareVersions a b ≤ 0 → compareVersions b c ≤ 0 → compareVersions a c ≤ 0) ∧
    (∀ a b, compareVersions a b ≤ 0 ∨ compareVersions b a ≤ 0) ∧
    (∀ a b, (compareVersions a b ≤ 0 ↔ toLex (padded a) ≤ toLex (padded b)) ∧
      (compareVersions a b = 0 ↔ padded a = padded b)) ∧
    ∀ body obj current latest cur lat, Json.parse stod body = .ok (.obj obj) →
      getStr obj "tag_name" = some latest → VersionTag current cur → VersionTag latest lat →
      (checkForUpdate stod body current).error = [] ∧
        ((checkForUpdate stod body current).updateAvailable = true ↔
          toLex (padded (cur.map Int.ofNat)) < toLex (padded (lat.map Int.ofNat))) := by
  refine ⟨compareVersions_swap, ?_, ?_, ?_, ?_⟩
  · intro a b c first second
    rw [compareVersions_le_iff] at first second ⊢
    exact first.trans second
  · intro a b
    rw [compareVersions_le_iff, compareVersions_le_iff]
    exact le_total _ _
  · intro a b
    refine ⟨compareVersions_le_iff a b, ?_, compareVersions_of_eq⟩
    intro zero
    have swapped := compareVersions_swap a b
    rw [zero, neg_zero] at swapped
    have same := le_antisymm ((compareVersions_le_iff a b).mp zero.le)
      ((compareVersions_le_iff b a).mp swapped.le)
    exact same
  · intro body obj current latest cur lat parsed tagged currentTag latestTag
    obtain ⟨error, available⟩ := checkForUpdate_of_tag parsed tagged
      currentTag.parseVersion_ne_nil latestTag.parseVersion_ne_nil
    refine ⟨error, ?_⟩
    rw [available, decide_eq_true_eq, parseVersion_of_versionTag currentTag,
      parseVersion_of_versionTag latestTag, ← not_le, compareVersions_le_iff, not_le]
    exact Iff.rfl

/-- `v1.10` is newer than `1.9.3`. -/
theorem versions_ordered_newer :
    (checkForUpdate Json.integerStod (ascii "\x7b\"tag_name\":\"v1.10\"\x7d")
      (ascii "1.9.3")).updateAvailable = true := by
  have component : ∀ text n, text ≠ [] ∧ (∀ c ∈ text, Json.isDigit c = true) ∧
      ofNumeral 10 text = n ∧ n < 2 ^ 31 → Component text n :=
    fun _ _ given => ⟨given.1, given.2.1, given.2.2.1, given.2.2.2⟩
  have current : VersionTag (ascii "1.9.3") [1, 9, 3] := by
    have components : List.Forall₂ Component [ascii "1", ascii "9", ascii "3"] [1, 9, 3] :=
      .cons (component _ _ (by decide +kernel)) (.cons (component _ _ (by decide +kernel))
        (.cons (component _ _ (by decide +kernel)) .nil))
    exact .mk (show Mark [] from Or.inl rfl) (List.cons_ne_nil _ _) components
  have latest : VersionTag (ascii "v1.10") [1, 10] := by
    have components : List.Forall₂ Component [ascii "1", ascii "10"] [1, 10] :=
      .cons (component _ _ (by decide +kernel)) (.cons (component _ _ (by decide +kernel)) .nil)
    exact .mk (show Mark [Json.ch 'v'] from Or.inr (Or.inl rfl)) (List.cons_ne_nil _ _)
      components
  refine ((versions_ordered Json.integerStod).2.2.2.2 _
    (Json.Object.ofFields [("tag_name", .str (ascii "v1.10"))]) _ _ _ _ (by decide +kernel)
    (by decide +kernel) current latest).2.mpr ?_
  refine ⟨1, ?_, by decide⟩
  intro j before
  rw [Nat.lt_one_iff.mp before]
  rfl

/-! ## Strictness -/

theorem Decorated.parseVersion_ne_nil {tag : Bytes} (decorated : Decorated tag) :
    parseVersion tag ≠ [] := by
  have filled : ∀ {texts : List Bytes} {body : Bytes}, texts ≠ [] →
      (∀ text ∈ texts, Segment text ∧ Json.ch '.' ∉ text) →
      getlines (Json.ch '.') body = texts → parseParts (getlines (Json.ch '.') body) [] ≠ [] := by
    intro texts body present segments read
    obtain ⟨numbers, converts⟩ := exists_converts fun text member => (segments text member).1
    rw [read, parseParts_of_converts converts]
    rintro rfl
    cases converts
    exact present rfl
  rw [parseVersion]
  cases decorated with
  | segment marked segments decorated =>
      obtain ⟨text, member, _⟩ := decorated
      have present := List.ne_nil_of_mem member
      obtain ⟨⟨stripped, read⟩, _⟩ := getlines_stripMark marked present segments
      rw [stripped]
      exact filled present segments read
  | dot marked present segments =>
      obtain ⟨_, stripped, read⟩ := getlines_stripMark marked present segments
      rw [stripped]
      exact filled present segments read

theorem Decorated.not_versionTag {tag : Bytes} (decorated : Decorated tag) {numbers : List Nat} :
    ¬ VersionTag tag numbers := by
  intro versionTag
  -- both readings of the tag have the same segments
  obtain ⟨texts, present, components, stripped, read⟩ : ∃ texts : List Bytes, texts ≠ [] ∧
      List.Forall₂ Component texts numbers ∧
      stripMark tag = [Json.ch '.'].intercalate texts ∧
      getlines (Json.ch '.') (stripMark tag) = texts := by
    obtain ⟨marked, present, components⟩ := versionTag
    obtain ⟨⟨stripped, read⟩, _⟩ :=
      getlines_stripMark marked present (segments_of_components components)
    exact ⟨_, present, components, stripped, by rw [stripped]; exact read⟩
  cases decorated with
  | segment marked segments decorated =>
      obtain ⟨text, member, notDigits⟩ := decorated
      obtain ⟨⟨stripped', read'⟩, _⟩ :=
        getlines_stripMark marked (List.ne_nil_of_mem member) segments
      rw [stripped', read'] at read
      subst read
      exact notDigits (digits_of_components components text member)
  | dot marked present' segments =>
      obtain ⟨_, stripped', read'⟩ := getlines_stripMark marked present' segments
      rw [stripped', read'] at read
      subst read
      rw [stripped'] at stripped
      simpa using congrArg List.length stripped

/-- A text that is read as a version is a tag unless it is decorated: `std::stoi` and
`std::getline` accept no other text. -/
theorem parseVersion_strict_iff (tag : Bytes) :
    (parseVersion tag ≠ [] → ∃ numbers, VersionTag tag numbers) ↔ ¬ Decorated tag := by
  constructor
  · intro strict decorated
    obtain ⟨numbers, versionTag⟩ := strict decorated.parseVersion_ne_nil
    exact decorated.not_versionTag versionTag
  · intro undecorated filled
    obtain ⟨mark, marked, shape⟩ := exists_mark tag
    obtain ⟨numbers, converts⟩ := converts_of_parseParts filled
    obtain ⟨free, closed | ⟨present, _, joined⟩⟩ := getlines_cases (Json.ch '.') (stripMark tag)
    all_goals
      have segments : ∀ text ∈ getlines (Json.ch '.') (stripMark tag),
          Segment text ∧ Json.ch '.' ∉ text :=
        fun text member => ⟨converts.segments text member, free text member⟩
    · have present : getlines (Json.ch '.') (stripMark tag) ≠ [] := by
        intro empty
        rw [parseVersion, empty] at filled
        exact filled rfl
      rw [intercalate_append_nil present] at closed
      rw [shape, closed] at undecorated
      exact absurd (.dot marked present segments) undecorated
    · by_cases plain : ∀ text ∈ getlines (Json.ch '.') (stripMark tag), ∀ c ∈ text,
          Json.isDigit c = true
      · obtain ⟨components, listed⟩ :=
          exists_components (fun text member => (segments text member).1) plain
        refine ⟨components, ?_⟩
        rw [shape, joined]
        exact .mk marked present listed
      · push Not at plain
        obtain ⟨text, member, c, inside, notDigit⟩ := plain
        rw [shape, joined] at undecorated
        refine absurd (.segment marked segments ⟨text, member, fun all => ?_⟩) undecorated
        exact notDigit (all c inside)

/-- A pre-release is read as the release. -/
theorem prerelease_accepted :
    parseVersion (ascii "v1.2.3-rc1") = [1, 2, 3] ∧
      ¬ ∃ numbers, VersionTag (ascii "v1.2.3-rc1") numbers := by
  have segment : ∀ text n, stoi text = some n ∧ Json.ch '.' ∉ text →
      Segment text ∧ Json.ch '.' ∉ text :=
    fun _ n given => ⟨segment_iff.mpr ⟨n, given.1⟩, given.2⟩
  have decorated : Decorated (ascii "v1.2.3-rc1") := by
    have segments : ∀ text ∈ [ascii "1", ascii "2", ascii "3-rc1"],
        Segment text ∧ Json.ch '.' ∉ text := by
      simp only [List.forall_mem_cons, List.not_mem_nil, false_imp_iff, implies_true, and_true]
      exact ⟨segment _ 1 (by decide), segment _ 2 (by decide), segment _ 3 (by decide)⟩
    exact .segment (show Mark [Json.ch 'v'] from Or.inr (Or.inl rfl)) segments
      ⟨ascii "3-rc1", by simp, by decide⟩
  refine ⟨by decide +kernel, ?_⟩
  rintro ⟨numbers, versionTag⟩
  exact decorated.not_versionTag versionTag

end WinInspect
