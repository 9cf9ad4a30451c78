import WinInspect.Core.Integers
import WinInspect.Core.Protocol
import Mathlib.Data.Int.ConditionallyCompleteOrder
import Mathlib.Order.PiLex

/-!
# Versions

`parse_version`, `compare_versions` and `check_for_update` of `update.cpp`.  The body that
`https_get` returns is a parameter.
-/

namespace WinInspect

open Json (Value Object)

/-! ## The model -/

/-- The segments that `std::getline` reads until the stream is used up.  Behind a last delimiter
it finds nothing, so an empty segment at the end is not read. -/
def getlines (delim : UInt8) (text : Bytes) : List Bytes :=
  let parts := text.splitOn delim
  if parts.getLast? = some [] then parts.dropLast else parts

/-- The tag without a leading `v` or `V`. -/
def stripMark : Bytes → Bytes
  | [] => []
  | c :: rest => if c = Json.ch 'v' ∨ c = Json.ch 'V' then rest else c :: rest

/-- The loop of `parse_version`; an exception of `std::stoi` clears the parts. -/
def parseParts : List Bytes → List Int → List Int
  | [], parts => parts
  | segment :: others, parts =>
      match stoi segment with
      | some n => parseParts others (parts ++ [n])
      | none => []

/-- `parse_version`. -/
def parseVersion (tag : Bytes) : List Int :=
  parseParts (getlines (Json.ch '.') (stripMark tag)) []

/-- The loop of `compare_versions` over the positions from `i` on. -/
def compareFrom (a b : List Int) : Nat → Nat → Int
  | 0, _ => 0
  | n + 1, i =>
      if a.getD i 0 < b.getD i 0 then -1
      else if b.getD i 0 < a.getD i 0 then 1
      else compareFrom a b n (i + 1)

/-- `compare_versions`. -/
def compareVersions (a b : List Int) : Int :=
  compareFrom a b (max a.length b.length) 0

/-- The loop over the assets: the first installer and the first portable archive count. -/
def scanAsset (info : UpdateInfo) (asset : Value) : UpdateInfo :=
  let entry := do
    let a ← asset.obj?
    return (← getStr a "name", ← getStr a "browser_download_url")
  match entry with
  | none => info
  | some (name, url) =>
      if containsBytes name (ascii "Installer") && info.installerUrl.isEmpty then
        { info with installerUrl := url }
      else if containsBytes name (ascii "Portable") && containsBytes name (ascii ".zip") &&
          info.portableZipUrl.isEmpty then
        { info with portableZipUrl := url }
      else info

/-- The comparison of the versions, at the end of `check_for_update`. -/
def compareTags (info : UpdateInfo) : UpdateInfo :=
  let cur := parseVersion info.currentVersion
  let lat := parseVersion info.latestVersion
  if cur = [] ∨ lat = [] then { info with error := ascii "Version parse error" }
  else { info with updateAvailable := decide (0 < compareVersions lat cur) }

/-- What `check_for_update` does with the release. -/
def readRelease (info : UpdateInfo) (obj : Object) : UpdateInfo :=
  match getStr obj "tag_name" with
  | none => { info with error := ascii "No tag_name in response" }
  | some tag =>
      let info := { info with latestVersion := tag }
      let info := { info with releaseNotes := (getStr obj "body").getD info.releaseNotes }
      let assets := ((obj.get? "assets").bind Value.arr?).getD []
      compareTags (assets.foldl scanAsset info)

/-- `check_for_update`, for the body of the response. -/
def checkForUpdate (stod : Json.Stod) (jsonBody currentVersion : Bytes) : UpdateInfo :=
  let info : UpdateInfo :=
    { updateAvailable := false, currentVersion := currentVersion, latestVersion := [],
      releaseNotes := [], error := [], installerUrl := [], portableZipUrl := [] }
  if jsonBody = [] then { info with error := ascii "Failed to query GitHub API" }
  else
    match Json.parse stod jsonBody with
    | .error failure => { info with error := ascii "JSON parse error: " ++ failure.what }
    | .ok root =>
        match root.obj? with
        | none => { info with error := ascii "Invalid API response" }
        | some obj => readRelease info obj

/-! ## The order of versions -/

/-- The components with infinitely many zeros behind them. -/
def padded (version : List Int) : ℕ → ℤ :=
  fun i => version.getD i 0

/-- What the loop finds between two positions: no difference, or the first one. -/
theorem compareFrom_cases (a b : List Int) (n i : Nat) :
    (compareFrom a b n i = 0 ∧ ∀ j, i ≤ j → j < i + n → padded a j = padded b j) ∨
      ∃ k, i ≤ k ∧ (∀ j, i ≤ j → j < k → padded a j = padded b j) ∧
        (padded a k < padded b k ∧ compareFrom a b n i = -1 ∨
          padded b k < padded a k ∧ compareFrom a b n i = 1) := by
  induction n generalizing i with
  | zero => exact Or.inl ⟨rfl, by omega⟩
  | succ n inductionHypothesis =>
      rw [compareFrom]
      split
      · rename_i less
        exact Or.inr ⟨i, le_refl i, by omega, Or.inl ⟨less, rfl⟩⟩
      · rename_i notLess
        split
        · rename_i greater
          exact Or.inr ⟨i, le_refl i, by omega, Or.inr ⟨greater, rfl⟩⟩
        · rename_i notGreater
          have here : padded a i = padded b i :=
            le_antisymm (not_lt.mp notGreater) (not_lt.mp notLess)
          have extend : ∀ k, (∀ j, i + 1 ≤ j → j < k → padded a j = padded b j) →
              ∀ j, i ≤ j → j < k → padded a j = padded b j := by
            intro k same j low high
            rcases Nat.eq_or_lt_of_le low with rfl | later
            · exact here
            · exact same j later high
          rcases inductionHypothesis (i + 1) with ⟨zero, same⟩ | ⟨k, low, same, first⟩
          · refine Or.inl ⟨zero, extend _ ?_⟩
            intro j low high
            exact same j low (by omega)
          · exact Or.inr ⟨k, by omega, extend k same, first⟩

/-- The comparison is the lexicographic one of the padded versions. -/
theorem compareVersions_cases (a b : List Int) :
    compareVersions a b = 0 ∧ padded a = padded b ∨
      compareVersions a b = -1 ∧ toLex (padded a) < toLex (padded b) ∨
        compareVersions a b = 1 ∧ toLex (padded b) < toLex (padded a) := by
  rcases compareFrom_cases a b (max a.length b.length) 0 with ⟨zero, same⟩ | ⟨k, _, same, first⟩
  · refine Or.inl ⟨zero, funext fun j => ?_⟩
    by_cases inside : j < max a.length b.length
    · exact same j (Nat.zero_le j) (by omega)
    · unfold padded
      rw [List.getD_eq_getElem?_getD, List.getD_eq_getElem?_getD,
        List.getElem?_eq_none (by omega), List.getElem?_eq_none (by omega)]
  · rcases first with ⟨less, result⟩ | ⟨greater, result⟩
    · exact Or.inr (Or.inl ⟨result, k, fun j low => same j (Nat.zero_le j) low, less⟩)
    · exact Or.inr (Or.inr ⟨result, k, fun j low => (same j (Nat.zero_le j) low).symm, greater⟩)

theorem compareVersions_of_eq {a b : List Int} (same : padded a = padded b) :
    compareVersions a b = 0 := by
  rcases compareVersions_cases a b with ⟨result, _⟩ | ⟨_, less⟩ | ⟨_, greater⟩
  · exact result
  · exact absurd less (by rw [same]; exact lt_irrefl _)
  · exact absurd greater (by rw [same]; exact lt_irrefl _)

theorem compareVersions_of_lt {a b : List Int} (less : toLex (padded a) < toLex (padded b)) :
    compareVersions a b = -1 := by
  rcases compareVersions_cases a b with ⟨_, same⟩ | ⟨result, _⟩ | ⟨_, greater⟩
  · exact absurd less (by rw [same]; exact lt_irrefl _)
  · exact result
  · exact absurd greater (lt_asymm less)

theorem compareVersions_of_gt {a b : List Int} (greater : toLex (padded b) < toLex (padded a)) :
    compareVersions a b = 1 := by
  rcases compareVersions_cases a b with ⟨_, same⟩ | ⟨_, less⟩ | ⟨result, _⟩
  · exact absurd greater (by rw [same]; exact lt_irrefl _)
  · exact absurd less (lt_asymm greater)
  · exact result

theorem compareVersions_swap (a b : List Int) : compareVersions b a = -compareVersions a b := by
  rcases lt_trichotomy (toLex (padded a)) (toLex (padded b)) with less | same | greater
  · rw [compareVersions_of_lt less, compareVersions_of_gt less]
    rfl
  · rw [compareVersions_of_eq same, compareVersions_of_eq same.symm]
    rfl
  · rw [compareVersions_of_gt greater, compareVersions_of_lt greater]

theorem compareVersions_le_iff (a b : List Int) :
    compareVersions a b ≤ 0 ↔ toLex (padded a) ≤ toLex (padded b) := by
  rcases lt_trichotomy (toLex (padded a)) (toLex (padded b)) with less | same | greater
  · rw [compareVersions_of_lt less]
    exact iff_of_true (by decide) less.le
  · rw [compareVersions_of_eq same]
    exact iff_of_true (le_refl 0) same.le
  · rw [compareVersions_of_gt greater]
    exact iff_of_false (by decide) greater.not_ge

end WinInspect
