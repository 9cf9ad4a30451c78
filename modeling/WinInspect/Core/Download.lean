import WinInspect.Core.Win32Text
import WinInspect.Data.Chain
import WinInspect.Json.Parser
import Mathlib.Data.Set.Finite.List

/-!
# Downloading an update

`parse_url` and `download_to_file` of `update.cpp`.  The servers answer a request by its host and
path.  A redirect that reaches the program is followed by a recursive call
with the URL the server names; nothing counts the calls or remembers where they have been.
-/

namespace WinInspect.Update

open Win32 (Wide widen cStr)
open Relation (ReflTransGen TransGen)

/-! ## The model -/

/-- Host and path behind the scheme. -/
def splitHost (rest : Bytes) : Bytes × Bytes :=
  let slash := Json.ch '/'
  if slash ∈ rest then (rest.takeWhile fun c => c != slash, rest.dropWhile fun c => c != slash)
  else (rest, ascii "/")

/-- `parse_url`. -/
def parseUrl (url : Bytes) : Option (Bytes × Bytes) :=
  if (ascii "https://").isPrefixOf url then some (splitHost (url.drop 8))
  else if (ascii "http://").isPrefixOf url then some (splitHost (url.drop 7))
  else none

/-- A response as WinHTTP hands it to the program. -/
structure Response where
  /-- The status code, zero if it cannot be queried. -/
  status : Nat
  /-- The value of the `Location` header. -/
  location : Option Wide
  /-- What the calls of `WinHttpReadData` that succeed give, one after the other. -/
  reads : List Bytes

/-- What the system does for a download. -/
structure Network where
  /-- The response to a `GET` for a host and a path on port 443; none if one of the calls up to
  `WinHttpReceiveResponse` fails. -/
  fetch : Wide → Wide → Option Response
  /-- Whether `CreateFileW` succeeds. -/
  creates : Wide → Bool

/-- `WinHttpQueryHeaders` for the `Location` with a buffer of that many bytes, which has to hold
the terminator too. -/
def Response.queryLocation (response : Response) (size : Nat) : Option Wide :=
  response.location.filter fun value => 2 * (value.length + 1) ≤ size

/-- `std::string(first, last)` of wide characters: the low byte of each. -/
def narrow (w : Wide) : Bytes :=
  w.map fun u => UInt8.ofNat u.toNat

/-- The loop over `WinHttpReadData`: what is handed to `WriteFile`. -/
def readLoop : List Bytes → Bytes
  | [] => []
  | chunk :: rest => if chunk = [] then [] else chunk ++ readLoop rest

/-- What `download_to_file` returns, and what it has written if it created the file. -/
structure Download where
  ok : Bool
  file : Option Bytes
  deriving DecidableEq

/-- The body of `download_to_file`, up to the recursive call. -/
def attempt (network : Network) (outPath : Wide) (url : Bytes) : Download ⊕ Bytes :=
  match parseUrl url with
  | none => .inl ⟨false, none⟩
  | some (host, path) =>
      match network.fetch (cStr (widen host)) (cStr (widen path)) with
      | none => .inl ⟨false, none⟩
      | some response =>
          let redirect :=
            if response.status = 302 ∨ response.status = 301 then response.queryLocation 4096
            else none
          match redirect with
          | some redirectUrl => .inr (narrow redirectUrl)
          | none =>
              if network.creates (cStr outPath) then .inl ⟨true, some (readLoop response.reads)⟩
              else .inl ⟨false, none⟩

/-- `download_to_file` with at most that many requests. -/
def downloadToFile (network : Network) (outPath : Wide) (requests : Nat) (url : Bytes) :
    Option Download :=
  Chain.rounds (attempt network outPath) requests url

/-! ## Redirects -/

/-- The server of a URL redirects the program to another. -/
def Network.Redirects (network : Network) (url next : Bytes) : Prop :=
  ∃ host path response location, parseUrl url = some (host, path) ∧
    network.fetch (cStr (widen host)) (cStr (widen path)) = some response ∧
    (response.status = 301 ∨ response.status = 302) ∧
    response.location = some location ∧ location.length ≤ 2047 ∧ next = narrow location

theorem queryLocation_eq_some_iff {response : Response} {location : Wide} :
    response.queryLocation 4096 = some location ↔
      response.location = some location ∧ location.length ≤ 2047 := by
  rw [Response.queryLocation, Option.filter_eq_some_iff, decide_eq_true_eq]
  refine and_congr_right fun _ => ?_
  omega

/-- A round goes on exactly with the URL of a redirect. -/
theorem goes_attempt_iff {network : Network} {outPath : Wide} {url next : Bytes} :
    Chain.Goes (attempt network outPath) url next ↔ network.Redirects url next := by
  unfold Chain.Goes attempt
  constructor
  · intro goes
    split at goes
    · cases goes
    · rename_i host path parsed
      split at goes
      · cases goes
      · rename_i response fetched
        dsimp only at goes
        split at goes
        · rename_i location found
          split at found
          · rename_i redirected
            obtain ⟨present, short⟩ := queryLocation_eq_some_iff.mp found
            cases goes
            exact ⟨host, path, response, location, parsed, fetched, redirected.symm, present,
              short, rfl⟩
          · cases found
        · split at goes <;> cases goes
  · rintro ⟨host, path, response, location, parsed, fetched, redirected, present, short, rfl⟩
    have found := queryLocation_eq_some_iff.mpr ⟨present, short⟩
    simp only [parsed, fetched, if_pos redirected.symm, found]

theorem length_of_redirects {network : Network} {url next : Bytes}
    (redirects : network.Redirects url next) : next.length ≤ 2047 := by
  obtain ⟨_, _, _, location, _, _, _, _, short, rfl⟩ := redirects
  rw [narrow, List.length_map]
  exact short

/-- The buffer bounds the URLs that redirects lead to, so there are finitely many. -/
theorem finite_redirects (network : Network) :
    {next | ∃ url, network.Redirects url next}.Finite := by
  have : Finite UInt8 := Finite.of_injective UInt8.toFin fun _ _ => UInt8.toFin_inj.mp
  apply (List.finite_length_le UInt8 2047).subset
  rintro next ⟨url, redirects⟩
  exact length_of_redirects redirects

theorem goes_attempt (network : Network) (outPath : Wide) :
    Chain.Goes (attempt network outPath) = network.Redirects :=
  funext₂ fun _ _ => propext goes_attempt_iff

/-- A download reaches a result if and only if no URL that its redirects lead to leads back to
itself. -/
theorem downloadToFile_ends_iff (network : Network) (outPath : Wide) (url : Bytes) :
    (∃ requests result, downloadToFile network outPath requests url = some result) ↔
      ∀ other, ReflTransGen network.Redirects url other →
        ¬TransGen network.Redirects other other := by
  have finite := finite_redirects network
  rw [← goes_attempt network outPath] at finite ⊢
  exact Chain.ends_iff finite

/-- A server that redirects every request to one URL. -/
def circling : Network where
  fetch _ _ := some ⟨302, some (widen (ascii "http://a/")), []⟩
  creates _ := true

/-- A URL that redirects to itself is requested again and again. -/
theorem circling_endless :
    ¬∃ requests result, downloadToFile circling [] requests (ascii "http://a/") = some result := by
  have goes : Chain.Goes (attempt circling []) (ascii "http://a/") (ascii "http://a/") := by
    unfold Chain.Goes
    decide +kernel
  rintro ⟨requests, result, ended⟩
  exact Chain.not_circle_of_rounds ended (.single goes)

end WinInspect.Update
