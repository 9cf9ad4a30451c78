import WinInspect.Core.Engine
import WinInspect.Data.Diff

/-!
# Window events

`Win32Backend::poll_events` compares two snapshots, and the handler of `events.poll`
writes the events it returns as a JSON array.  `readChanges` is how a client reads the
array back: as changes to the collection of top-level windows.
-/

namespace WinInspect

open Json (Value)
open Diff (Change)

/-- `Win32Backend::poll_events`. -/
def win32PollEvents (oldSnap newSnap : Snapshot) : List Event :=
  let o := oldSnap.top.insertionSort (· ≤ ·)
  let n := newSnap.top.insertionSort (· ≤ ·)
  (Diff.difference n o).map (fun h => { type := ascii "window.created", hwnd := h }) ++
    (Diff.difference o n).map fun h => { type := ascii "window.destroyed", hwnd := h }

/-- The change that an event object of a response reports. -/
def readChange (item : Value) : Option (Change HwndU64) := do
  let o ← item.obj?
  let type ← getStr o "type"
  let hwnd ← parseHwnd (← getStr o "hwnd")
  if type = ascii "window.created" then some (.added hwnd)
  else if type = ascii "window.destroyed" then some (.removed hwnd)
  else none

/-- The changes that the result of `events.poll` reports. -/
def readChanges : Value → List (Change HwndU64)
  | .arr items => items.filterMap readChange
  | _ => []

theorem getStr_append_nonEmptyField (fields : List (String × Value)) {key other : String}
    (text : Bytes) (different : ascii other ≠ ascii key) :
    getStr (Json.Object.ofFields (fields ++ nonEmptyField key text)) other =
      getStr (Json.Object.ofFields fields) other := by
  unfold nonEmptyField
  split
  · rw [List.append_nil]
  · unfold Json.Object.ofFields
    rw [List.foldl_append]
    exact getStr_set_of_ne _ _ different

/-- What a client reads in an event depends on the type and the handle only. -/
theorem readChange_eventToJson (e : Event) :
    readChange (eventToJson e) =
      if e.type = ascii "window.created" then some (.added e.hwnd)
      else if e.type = ascii "window.destroyed" then some (.removed e.hwnd)
      else none := by
  let o := Json.Object.ofFields ([("seq", number e.seq), ("type", .str e.type),
    ("hwnd", hwndJson e.hwnd)] ++ nonEmptyField "property" e.property)
  have written : eventToJson e = .obj o := rfl
  have typeRead : getStr o "type" = some e.type := by
    rw [getStr_append_nonEmptyField _ _ (by decide)]
    simp only [Json.Object.ofFields, List.foldl_cons, List.foldl_nil]
    rw [getStr_set_of_ne _ _ (by decide), getStr_set_self]
  have handleRead : getStr o "hwnd" = some (hwndToString e.hwnd) := by
    rw [getStr_append_nonEmptyField _ _ (by decide)]
    simp only [Json.Object.ofFields, List.foldl_cons, List.foldl_nil, hwndJson]
    rw [getStr_set_self]
  rw [written]
  simp only [readChange, Value.obj?, Option.bind_eq_bind, Option.bind_some, typeRead, handleRead,
    parseHwnd_hwndToString]

theorem filterMap_mapIdx {α β : Type} {f : α → Option β} {list : List α} {change : Nat → α → α}
    (same : ∀ index item, f (change index item) = f item) :
    (list.mapIdx change).filterMap f = list.filterMap f := by
  induction list generalizing change with
  | nil => rfl
  | cons item rest inductionHypothesis =>
      rw [List.mapIdx_cons, List.filterMap_cons, List.filterMap_cons, same,
        inductionHypothesis fun index => same (index + 1)]

/-- A client that reads the events of `poll_events` gets the difference of the snapshots. -/
theorem readChanges_win32PollEvents (oldSnap newSnap : Snapshot) :
    readChanges (.arr ((renumber (win32PollEvents oldSnap newSnap)).map eventToJson)) =
      Diff.diff oldSnap.top newSnap.top := by
  have unnumbered : ∀ (index : Nat) (e : Event),
      (readChange ∘ eventToJson) { e with seq := index + 1 } = (readChange ∘ eventToJson) e := by
    intro index e
    rw [Function.comp_apply, Function.comp_apply, readChange_eventToJson, readChange_eventToJson]
  have created : (readChange ∘ eventToJson) ∘
      (fun h : HwndU64 => { type := ascii "window.created", hwnd := h }) =
        fun h => some (.added h) := by
    funext h
    rw [Function.comp_apply, Function.comp_apply, readChange_eventToJson, if_pos rfl]
  have destroyed : (readChange ∘ eventToJson) ∘
      (fun h : HwndU64 => { type := ascii "window.destroyed", hwnd := h }) =
        fun h => some (.removed h) := by
    have different : ascii "window.destroyed" ≠ ascii "window.created" := by decide
    funext h
    rw [Function.comp_apply, Function.comp_apply, readChange_eventToJson, if_neg different,
      if_pos rfl]
  unfold readChanges renumber win32PollEvents Diff.diff
  dsimp only
  rw [List.filterMap_map, filterMap_mapIdx unnumbered, List.filterMap_append,
    List.filterMap_map, List.filterMap_map, created, destroyed, List.filterMap_eq_map',
    List.filterMap_eq_map']

/-! ## The handler of `events.poll` -/

/-- A backend that polls as `Win32Backend` does. -/
def PollsByDiff {σ : Type} (backend : Backend σ) : Prop :=
  ∀ oldSnap newSnap world, backend.apply (.pollEvents oldSnap newSnap) world =
    (.ok (win32PollEvents oldSnap newSnap), world)

theorem dispatch_eventsPoll : dispatch (ascii "events.poll") = some eventsPoll :=
  rfl

/-- The response that reports events. -/
def pollResponse (req : CoreRequest) (events : List Event) : CoreResponse where
  id := req.id
  ok := true
  result := .arr ((renumber events).map eventToJson)

/-- A poll reports the backend's events, whatever the waiting time. -/
theorem eventsPoll_respond (env : Surroundings) (req : CoreRequest)
    (args : Snapshot × Option Double) (events : List Event) :
    eventsPoll.respond env req args events = .ok (pollResponse req events) := by
  unfold eventsPoll
  dsimp only
  split
  · rfl
  · rename_i empty
    cases events with
    | nil => rfl
    | cons e rest => simp at empty

/-- A poll with nothing to compare with is refused. -/
theorem handle_poll_old {σ : Type} {backend : Backend σ} {env : Surroundings} {durationMs : Int}
    {req : CoreRequest} {snap : Snapshot} {old : Option Snapshot} {world : σ}
    (method : req.method = ascii "events.poll")
    (ok : (handle backend env durationMs req snap old world).1.ok = true) : old ≠ none := by
  rintro rfl
  unfold handle handleBody at ok
  rw [method, dispatch_eventsPoll] at ok
  cases ok

/-- The result of a poll is the list of the events of the two snapshots. -/
theorem handle_poll_result {σ : Type} {backend : Backend σ} (diffs : PollsByDiff backend)
    {env : Surroundings} {durationMs : Int} {req : CoreRequest}
    (method : req.method = ascii "events.poll") (oldSnap newSnap : Snapshot) (world : σ) :
    (handle backend env durationMs req newSnap (some oldSnap) world).1.result =
      .arr ((renumber (win32PollEvents oldSnap newSnap)).map eventToJson) := by
  have ran : (eventsPoll.program env req newSnap (some oldSnap)).run backend world =
      (.ok (pollResponse req (win32PollEvents oldSnap newSnap)), world) := by
    refine Handler.run_program_ok_iff.mpr
      ⟨(oldSnap, getNum req.params "wait_ms"), win32PollEvents oldSnap newSnap, rfl, ?_,
        eventsPoll_respond env req _ _⟩
    change Effect.proceed (backend.apply (.pollEvents oldSnap newSnap) world) _ = _
    rw [diffs]
    rfl
  unfold handle handleBody
  rw [method, dispatch_eventsPoll]
  dsimp only
  rw [ran]
  rfl

/-- A successful poll has compared two snapshots and reports their difference. -/
theorem handle_poll_ok {σ : Type} {backend : Backend σ} (diffs : PollsByDiff backend)
    {env : Surroundings} {durationMs : Int} {req : CoreRequest} {snap : Snapshot}
    {old : Option Snapshot} {world : σ} (method : req.method = ascii "events.poll")
    (ok : (handle backend env durationMs req snap old world).1.ok = true) :
    ∃ o, old = some o ∧
      readChanges (handle backend env durationMs req snap old world).1.result =
        Diff.diff o.top snap.top := by
  obtain ⟨o, rfl⟩ := Option.ne_none_iff_exists'.mp (handle_poll_old method ok)
  refine ⟨o, rfl, ?_⟩
  rw [handle_poll_result diffs method]
  exact readChanges_win32PollEvents o snap

/-! ## Exactness -/

/-- Events of one type, one for each handle. -/
def eventsOf (type : String) (handles : List HwndU64) : List Event :=
  handles.map fun h => { type := ascii type, hwnd := h }

theorem win32PollEvents_eq (oldSnap newSnap : Snapshot) :
    win32PollEvents oldSnap newSnap =
      eventsOf "window.created" (Diff.additions oldSnap.top newSnap.top) ++
        eventsOf "window.destroyed" (Diff.additions newSnap.top oldSnap.top) :=
  rfl

theorem win32PollEvents_eq_nil_iff (oldSnap newSnap : Snapshot) :
    win32PollEvents oldSnap newSnap = [] ↔
      (oldSnap.top : Multiset HwndU64) = newSnap.top := by
  rw [win32PollEvents_eq, List.append_eq_nil_iff, eventsOf, eventsOf, List.map_eq_nil_iff,
    List.map_eq_nil_iff, Diff.additions_eq_nil_iff]

theorem seq_renumber (events : List Event) :
    (renumber events).map Event.seq = List.range' 1 events.length := by
  refine List.ext_getElem (by simp [renumber]) fun index _ _ => ?_
  simp [renumber, Nat.add_comm]

theorem unnumbered_renumber (events : List Event) :
    (renumber events).map (fun e => { e with seq := 0 }) =
      events.map fun e => { e with seq := 0 } := by
  refine List.ext_getElem (by simp [renumber]) fun index _ _ => ?_
  simp [renumber]

theorem unnumbered_eventsOf (type : String) (handles : List HwndU64) :
    (eventsOf type handles).map (fun e => { e with seq := 0 }) = eventsOf type handles := by
  rw [eventsOf, List.map_map]
  rfl

/-- `poll_events` reports first the created and then the destroyed windows, each in ascending
order and none of them both, and they lead from the old collection of handles to the new one.
So the events depend on the two collections only, there are none exactly when these are equal,
and an exchange of the snapshots exchanges the groups.  The handler of `events.poll` returns
them in this order, numbered from 1. -/
theorem pollEvents_exact {σ : Type} (backend : Backend σ) (diffs : PollsByDiff backend)
    (env : Surroundings) (durationMs : Int) (req : CoreRequest)
    (method : req.method = ascii "events.poll") (world : σ) (oldSnap newSnap : Snapshot) :
    ∃ created destroyed : List HwndU64,
      win32PollEvents oldSnap newSnap =
        eventsOf "window.created" created ++ eventsOf "window.destroyed" destroyed ∧
      created.Pairwise (· ≤ ·) ∧ destroyed.Pairwise (· ≤ ·) ∧ created.Disjoint destroyed ∧
      (destroyed : Multiset HwndU64) ≤ oldSnap.top ∧
      (newSnap.top : Multiset HwndU64) =
        (oldSnap.top : Multiset HwndU64) - (destroyed : Multiset HwndU64) + created ∧
      (∀ oldSnap' newSnap' : Snapshot, (oldSnap'.top : Multiset HwndU64) = oldSnap.top →
        (newSnap'.top : Multiset HwndU64) = newSnap.top →
        win32PollEvents oldSnap' newSnap' = win32PollEvents oldSnap newSnap) ∧
      (win32PollEvents oldSnap newSnap = [] ↔
        (oldSnap.top : Multiset HwndU64) = newSnap.top) ∧
      win32PollEvents newSnap oldSnap =
        eventsOf "window.created" destroyed ++ eventsOf "window.destroyed" created ∧
      ∃ numbered : List Event,
        (handle backend env durationMs req newSnap (some oldSnap) world).1.result =
          .arr (numbered.map eventToJson) ∧
        numbered.map Event.seq = List.range' 1 (win32PollEvents oldSnap newSnap).length ∧
        numbered.map (fun e => { e with seq := 0 }) = win32PollEvents oldSnap newSnap := by
  refine ⟨Diff.additions oldSnap.top newSnap.top, Diff.additions newSnap.top oldSnap.top,
    win32PollEvents_eq oldSnap newSnap, Diff.pairwise_additions _ _,
    Diff.pairwise_additions _ _, Diff.disjoint_additions _ _, Diff.coe_additions_le _ _,
    (Diff.coe_sub_add _ _).symm, ?_, win32PollEvents_eq_nil_iff oldSnap newSnap,
    win32PollEvents_eq newSnap oldSnap, renumber (win32PollEvents oldSnap newSnap),
    handle_poll_result diffs method oldSnap newSnap world, seq_renumber _, ?_⟩
  · intro oldSnap' newSnap' oldSame newSame
    rw [win32PollEvents_eq, win32PollEvents_eq, Diff.additions_congr oldSame newSame,
      Diff.additions_congr newSame oldSame]
  · rw [unnumbered_renumber, win32PollEvents_eq, List.map_append, unnumbered_eventsOf,
      unnumbered_eventsOf]

/-- A backend that only polls. -/
def pollOnly : Backend Unit where
  apply {_} call world :=
    match call with
    | .pollEvents oldSnap newSnap => (.ok (win32PollEvents oldSnap newSnap), world)
    | _ => (.error (ascii "not supported"), world)

/-- One of two windows with the same handle goes away and another window appears. -/
theorem pollEvents_exact_repeated :
    win32PollEvents ⟨[7, 5, 7]⟩ ⟨[9, 5, 7]⟩ =
        eventsOf "window.created" [9] ++ eventsOf "window.destroyed" [7] ∧
      ∃ numbered : List Event,
        (handle pollOnly ⟨false, [], 0⟩ 0 ⟨ascii "1", ascii "events.poll", []⟩ ⟨[9, 5, 7]⟩
          (some ⟨[7, 5, 7]⟩) ()).1.result = .arr (numbered.map eventToJson) ∧
        numbered.map Event.seq = [1, 2] := by
  have events : win32PollEvents ⟨[7, 5, 7]⟩ ⟨[9, 5, 7]⟩ =
      eventsOf "window.created" [9] ++ eventsOf "window.destroyed" [7] := by decide
  obtain ⟨_, _, _, _, _, _, _, _, _, _, _, numbered, result, seqs, _⟩ :=
    pollEvents_exact pollOnly (fun _ _ _ => rfl) ⟨false, [], 0⟩ 0
      ⟨ascii "1", ascii "events.poll", []⟩ rfl () ⟨[7, 5, 7]⟩ ⟨[9, 5, 7]⟩
  rw [events] at seqs
  exact ⟨events, numbered, result, seqs⟩

end WinInspect
