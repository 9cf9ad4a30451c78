import WinInspect.Daemon.System
import WinInspect.Effect.Loop
import WinInspect.Json.Soundness

/-!
# The view model of the graphical client

`viewmodel.cpp`: `refresh` and `select_hwnd` each take a snapshot, ask the daemon about it
and show the answer.  Both clear what is shown before they have read the whole answer,
and an accessor that throws leaves what has been shown until then.
-/

namespace WinInspect.Clients

open Json (Value Object bind_eq_ok)
open Effect (Interp Program)

/-! ## Accessors -/

/-- The exceptions of the two methods. -/
inductive Thrown where
  /-- `json::parse` fails. -/
  | parse (failure : Json.ParseFailure)
  /-- `std::map::at` without the key. -/
  | outOfRange
  /-- `std::get` of another alternative. -/
  | badVariantAccess
  /-- The transport has no answer. -/
  | transport
  deriving DecidableEq

def orThrow {α : Type} (thrown : Thrown) : Option α → Except Thrown α
  | some a => .ok a
  | none => .error thrown

/-- `at`. -/
def member (o : Object) (key : String) : Except Thrown Value :=
  orThrow .outOfRange (o.get? key)

def asObj (v : Value) : Except Thrown Object :=
  orThrow .badVariantAccess v.obj?

def asArr (v : Value) : Except Thrown (List Value) :=
  orThrow .badVariantAccess v.arr?

def asStr (v : Value) : Except Thrown Bytes :=
  orThrow .badVariantAccess v.str?

def asBool (v : Value) : Except Thrown Bool :=
  orThrow .badVariantAccess v.bool?

/-- `parse(text).as_obj()`. -/
def readObject (stod : Json.Stod) (text : Bytes) : Except Thrown Object := do
  asObj (← (Json.parse stod text).mapError .parse)

/-- `cap_resp.at("result").as_obj().at("snapshot_id").as_str()`. -/
def snapshotId (capResp : Object) : Except Thrown Bytes := do
  asStr (← member (← asObj (← member capResp "result")) "snapshot_id")

/-- `e.as_obj().at("hwnd").as_str()`. -/
def hwndOf (e : Value) : Except Thrown Bytes := do
  asStr (← member (← asObj e) "hwnd")

/-! ## The methods -/

structure Node where
  hwnd : Bytes
  label : Bytes
  children : List Node := []

structure Property where
  key : Bytes
  value : Bytes

structure ViewModel where
  tree : List Node := []
  props : List Property := []

/-- What a method does to the transport and to the fields. -/
inductive Act : Type → Type
  | request (text : Bytes) : Act Bytes
  | clearTree : Act PUnit
  | pushNode (node : Node) : Act PUnit
  | clearProps : Act PUnit
  | pushProperty (property : Property) : Act PUnit

abbrev Method :=
  Program Act Thrown

/-- The transport returns the texts of a list, in order. -/
def acts : Interp Act Thrown (ViewModel × List Bytes) where
  apply
    | .request _, (vm, []) => (.error .transport, (vm, []))
    | .request _, (vm, answer :: rest) => (.ok answer, (vm, rest))
    | .clearTree, (vm, rest) => (.ok ⟨⟩, ({ vm with tree := [] }, rest))
    | .pushNode node, (vm, rest) => (.ok ⟨⟩, ({ vm with tree := vm.tree ++ [node] }, rest))
    | .clearProps, (vm, rest) => (.ok ⟨⟩, ({ vm with props := [] }, rest))
    | .pushProperty property, (vm, rest) =>
        (.ok ⟨⟩, ({ vm with props := vm.props ++ [property] }, rest))

/-- The two exchanges of a method: capture a snapshot, and ask about it. -/
def inquire (stod : Json.Stod) (captureId id method : String) (params : List (String × Value)) :
    Method Object := do
  let cap := Daemon.requestText captureId "snapshot.capture" [("canonical", .bool true)]
  let capResp ← .ofExcept (readObject stod (← .perform (.request cap)))
  let sid ← .ofExcept (snapshotId capResp)
  let req := Daemon.requestText id method
    ([("canonical", .bool true), ("snapshot_id", .str sid)] ++ params)
  .ofExcept (readObject stod (← .perform (.request req)))

/-- The node of a window. -/
def node (hwnd : Bytes) : Node :=
  { hwnd := hwnd, label := hwnd }

/-- The property of a member. -/
def property (entry : Bytes × Value) : Property :=
  ⟨entry.1, Json.dumps entry.2⟩

/-- A round of the loop of `refresh`. -/
def showEntry (e : Value) : Method PUnit := do
  let hwnd ← .ofExcept (hwndOf e)
  .perform (.pushNode (node hwnd))

/-- `refresh` once it has the answer. -/
def showTree (resp : Object) : Method PUnit := do
  .perform .clearTree
  let entries ← .ofExcept (member resp "result" >>= asArr)
  forM entries showEntry

def refresh (stod : Json.Stod) : Method PUnit := do
  let resp ← inquire stod "gui-1" "gui-2" "window.listTop" []
  showTree resp

/-- A round of the loop of `select_hwnd`. -/
def showMember (entry : Bytes × Value) : Method PUnit :=
  .perform (.pushProperty (property entry))

/-- `select_hwnd` once it has the answer. -/
def showProps (resp : Object) : Method PUnit := do
  .perform .clearProps
  let ok ← .ofExcept (member resp "ok" >>= asBool)
  if ok then
    let info ← .ofExcept (member resp "result" >>= asObj)
    forM info showMember

def selectHwnd (stod : Json.Stod) (hwnd : Bytes) : Method PUnit := do
  let resp ← inquire stod "gui-3" "gui-4" "window.getInfo" [("hwnd", .str hwnd)]
  showProps resp

/-! ## Answers -/

/-- The text is a captured snapshot. -/
def Captures (stod : Json.Stod) (text : Bytes) : Prop :=
  ∃ (capResp result : Object) (sid : Bytes), Json.parse stod text = .ok (.obj capResp) ∧
    capResp.get? "result" = some (.obj result) ∧ result.get? "snapshot_id" = some (.str sid)

/-- An entry of `window.listTop`. -/
def Names (e : Value) (hwnd : Bytes) : Prop :=
  ∃ o : Object, e = .obj o ∧ o.get? "hwnd" = some (.str hwnd)

/-- The result is a list of windows. -/
def Lists (resp : Object) (hwnds : List Bytes) : Prop :=
  ∃ entries, resp.get? "result" = some (.arr entries) ∧ List.Forall₂ Names entries hwnds

/-- The result is no list of windows; these are the windows before the first entry that names
none. -/
def Breaks (resp : Object) (known : List Bytes) : Prop :=
  (known = [] ∧ ∀ entries, resp.get? "result" ≠ some (.arr entries)) ∨
    ∃ good bad rest, resp.get? "result" = some (.arr (good ++ bad :: rest)) ∧
      List.Forall₂ Names good known ∧ ∀ hwnd, ¬ Names bad hwnd

/-- The result has the members of a window. -/
def Informs (resp : Object) (info : Object) : Prop :=
  resp.get? "result" = some (.obj info)

def Succeeded (resp : Object) : Prop :=
  resp.get? "ok" = some (.bool true)

def Failed (resp : Object) : Prop :=
  resp.get? "ok" = some (.bool false)

section

variable {α : Type} {thrown : Thrown} {v : Value} {o : Object}

theorem orThrow_eq_ok_iff {found : Option α} {a : α} :
    orThrow thrown found = .ok a ↔ found = some a := by
  cases found <;> simp [orThrow]

theorem asObj_eq_ok_iff : asObj v = .ok o ↔ v = .obj o := by
  cases v <;> simp [asObj, orThrow, Value.obj?]

theorem asArr_eq_ok_iff {entries : List Value} : asArr v = .ok entries ↔ v = .arr entries := by
  cases v <;> simp [asArr, orThrow, Value.arr?]

theorem asStr_eq_ok_iff {text : Bytes} : asStr v = .ok text ↔ v = .str text := by
  cases v <;> simp [asStr, orThrow, Value.str?]

theorem asBool_eq_ok_iff {b : Bool} : asBool v = .ok b ↔ v = .bool b := by
  cases v <;> simp [asBool, orThrow, Value.bool?]

theorem member_eq_ok_iff {key : String} : member o key = .ok v ↔ o.get? key = some v :=
  orThrow_eq_ok_iff

theorem member_bind_eq_ok_iff {key : String} {access : Value → Except Thrown α}
    {build : α → Value} (reads : ∀ v a, access v = .ok a ↔ v = build a) {a : α} :
    (member o key >>= access) = .ok a ↔ o.get? key = some (build a) := by
  simp only [bind_eq_ok, member_eq_ok_iff, reads]
  constructor
  · rintro ⟨_, found, rfl⟩
    exact found
  · intro found
    exact ⟨_, found, rfl⟩

theorem readObject_eq_ok_iff {stod : Json.Stod} {text : Bytes} :
    readObject stod text = .ok o ↔ Json.parse stod text = .ok (.obj o) := by
  unfold readObject
  rw [bind_eq_ok]
  cases Json.parse stod text with
  | error failure => simp [Except.mapError]
  | ok v => simp [Except.mapError, asObj_eq_ok_iff]

theorem hwndOf_eq_ok_iff {hwnd : Bytes} : hwndOf v = .ok hwnd ↔ Names v hwnd := by
  simp only [hwndOf, bind_eq_ok, asObj_eq_ok_iff, member_eq_ok_iff, asStr_eq_ok_iff, Names]
  constructor
  · rintro ⟨o, same, w, found, rfl⟩
    exact ⟨o, same, found⟩
  · rintro ⟨o, same, found⟩
    exact ⟨o, same, _, found, rfl⟩

theorem snapshotId_eq_ok_iff {sid : Bytes} :
    snapshotId o = .ok sid ↔ ∃ result : Object, o.get? "result" = some (.obj result) ∧
      result.get? "snapshot_id" = some (.str sid) := by
  simp only [snapshotId, bind_eq_ok, asObj_eq_ok_iff, member_eq_ok_iff, asStr_eq_ok_iff]
  constructor
  · rintro ⟨_, found, result, rfl, _, named, rfl⟩
    exact ⟨result, found, named⟩
  · rintro ⟨result, found, named⟩
    exact ⟨_, found, result, rfl, _, named, rfl⟩

end

/-! ## The exchanges -/

/-- What the two texts give. -/
def received (stod : Json.Stod) (first second : Bytes) : Except Thrown Object := do
  let _ ← snapshotId (← readObject stod first)
  readObject stod second

theorem received_eq_ok_iff {stod : Json.Stod} {first second : Bytes} {resp : Object} :
    received stod first second = .ok resp ↔
      Captures stod first ∧ Json.parse stod second = .ok (.obj resp) := by
  simp only [received, bind_eq_ok, readObject_eq_ok_iff, snapshotId_eq_ok_iff, Captures]
  constructor
  · rintro ⟨capResp, parsed, sid, ⟨result, found, named⟩, answer⟩
    exact ⟨⟨capResp, result, sid, parsed, found, named⟩, answer⟩
  · rintro ⟨⟨capResp, result, sid, parsed, found, named⟩, answer⟩
    exact ⟨capResp, parsed, sid, ⟨result, found, named⟩, answer⟩

theorem apply_request (text answer : Bytes) (rest : List Bytes) (vm : ViewModel) :
    acts.apply (.request text) (vm, answer :: rest) = (.ok answer, (vm, rest)) :=
  rfl

/-- The exchanges leave what is shown as it is. -/
theorem run_inquire (stod : Json.Stod) (captureId id method : String)
    (params : List (String × Value)) (vm : ViewModel) (first second : Bytes) :
    ∃ rest, (inquire stod captureId id method params).run acts (vm, [first, second]) =
      (received stod first second, (vm, rest)) := by
  simp only [inquire, received, Program.bind_eq, Program.run_bind, Program.run_perform,
    Program.run_ofExcept, apply_request, Program.proceed_ok]
  cases readObject stod first with
  | error e => exact ⟨[second], rfl⟩
  | ok capResp =>
      rw [Program.proceed_ok]
      cases named : snapshotId capResp with
      | error e =>
          refine ⟨[second], ?_⟩
          rw [Program.proceed_error]
          change _ = (snapshotId capResp >>= _, _)
          rw [named]
          rfl
      | ok sid =>
          refine ⟨[], ?_⟩
          rw [Program.proceed_ok, apply_request, Program.proceed_ok]
          change _ = (snapshotId capResp >>= _, _)
          rw [named]
          rfl

/-! ## Showing the list -/

section

variable {resp : Object} {hwnds known : List Bytes} (vm : ViewModel) (rest : List Bytes)

/-- The view model with a tree. -/
def withTree (tree : List Node) : ViewModel × List Bytes :=
  ({ vm with tree := tree }, rest)

theorem collects_showEntry {e : Value} {hwnd : Bytes} (names : Names e hwnd) :
    Program.Collects acts showEntry (withTree vm rest) e (node hwnd) := by
  intro tree
  simp only [showEntry, Program.bind_eq, Program.run_bind, Program.run_ofExcept,
    hwndOf_eq_ok_iff.mpr names, Program.proceed_ok, Program.run_perform]
  rfl

theorem collects_entries {entries : List Value} (names : List.Forall₂ Names entries hwnds) :
    List.Forall₂ (Program.Collects acts showEntry (withTree vm rest)) entries
      (hwnds.map node) :=
  List.forall₂_map_right_iff.mpr (names.imp fun _ _ => collects_showEntry vm rest)

theorem run_showEntry_throws {e : Value} {thrown : Thrown} (nameless : hwndOf e = .error thrown)
    (state : ViewModel × List Bytes) : (showEntry e).run acts state = (.error thrown, state) := by
  simp only [showEntry, Program.bind_eq, Program.run_bind, Program.run_ofExcept, nameless,
    Program.proceed_error]

theorem run_showTree :
    (showTree resp).run acts (vm, rest) =
      Effect.proceed (member resp "result" >>= asArr, withTree vm rest [])
        fun entries state => (forM entries showEntry).run acts state := by
  simp only [showTree, Program.bind_eq, Program.run_bind, Program.run_perform,
    Program.run_ofExcept]
  rfl

theorem entries_eq_ok_iff {entries : List Value} :
    (member resp "result" >>= asArr) = .ok entries ↔
      resp.get? "result" = some (.arr entries) :=
  member_bind_eq_ok_iff fun _ _ => asArr_eq_ok_iff

theorem run_showTree_of_lists (lists : Lists resp hwnds) :
    (showTree resp).run acts (vm, rest) =
      (.ok ⟨⟩, withTree vm rest (hwnds.map node)) := by
  obtain ⟨entries, found, names⟩ := lists
  rw [run_showTree, entries_eq_ok_iff.mpr found, Program.proceed_ok,
    Program.run_forM (collects_entries vm rest names), List.nil_append]

/-- A list that breaks off is shown up to there. -/
theorem run_showTree_of_breaks (breaks : Breaks resp known) :
    ∃ thrown, (showTree resp).run acts (vm, rest) =
      (.error thrown, withTree vm rest (known.map node)) := by
  rw [run_showTree]
  rcases breaks with ⟨rfl, absent⟩ | ⟨good, bad, later, found, names, nameless⟩
  · cases read : member resp "result" >>= asArr with
    | error thrown => exact ⟨thrown, rfl⟩
    | ok entries => exact absurd (entries_eq_ok_iff.mp read) (absent entries)
  · cases read : hwndOf bad with
    | ok hwnd => exact absurd (hwndOf_eq_ok_iff.mp read) (nameless hwnd)
    | error thrown =>
        refine ⟨thrown, ?_⟩
        rw [entries_eq_ok_iff.mpr found, Program.proceed_ok,
          Program.run_forM_throws (collects_entries vm rest names) (run_showEntry_throws read),
          List.nil_append]

theorem lists_or_breaks (resp : Object) :
    (∃ hwnds, Lists resp hwnds) ∨ ∃ known, Breaks resp known := by
  cases read : member resp "result" >>= asArr with
  | error thrown =>
      refine Or.inr ⟨[], Or.inl ⟨rfl, fun entries found => ?_⟩⟩
      rw [entries_eq_ok_iff.mpr found] at read
      cases read
  | ok entries =>
      have found := entries_eq_ok_iff.mp read
      rcases Effect.reads_or_throws hwndOf entries with ⟨hwnds, all⟩ |
        ⟨good, known, bad, later, thrown, rfl, all, failed⟩
      · exact Or.inl ⟨hwnds, entries, found, all.imp fun _ _ => hwndOf_eq_ok_iff.mp⟩
      · refine Or.inr ⟨known, Or.inr ⟨good, bad, later, found,
          all.imp fun _ _ => hwndOf_eq_ok_iff.mp, fun hwnd names => ?_⟩⟩
        rw [hwndOf_eq_ok_iff.mpr names] at failed
        cases failed

end

/-! ## Showing the members -/

section

variable {resp info : Object} (vm : ViewModel) (rest : List Bytes)

/-- The view model with a list of members. -/
def withProps (props : List Property) : ViewModel × List Bytes :=
  ({ vm with props := props }, rest)

theorem collects_members (info : Object) :
    List.Forall₂ (Program.Collects acts showMember (withProps vm rest)) info
      (info.map property) :=
  List.forall₂_map_right_iff.mpr (List.forall₂_same.mpr fun _ _ _ => rfl)

theorem run_showProps :
    (showProps resp).run acts (vm, rest) =
      Effect.proceed (member resp "ok" >>= asBool, withProps vm rest [])
        fun ok state =>
          if ok then
            Effect.proceed (member resp "result" >>= asObj, state)
              fun info state => (forM info showMember).run acts state
          else (.ok ⟨⟩, state) := by
  simp only [showProps, Program.bind_eq, Program.run_bind, Program.run_perform,
    Program.run_ofExcept]
  change Effect.proceed (member resp "ok" >>= asBool, withProps vm rest []) _ = _
  cases member resp "ok" >>= asBool with
  | error thrown => rfl
  | ok ok =>
      cases ok with
      | false => rfl
      | true =>
          change (Program.bind (.ofExcept (member resp "result" >>= asObj)) _).run acts _ = _
          rw [Program.run_bind, Program.run_ofExcept]
          rfl

theorem ok_eq_ok_iff {ok : Bool} :
    (member resp "ok" >>= asBool) = .ok ok ↔ resp.get? "ok" = some (.bool ok) :=
  member_bind_eq_ok_iff fun _ _ => asBool_eq_ok_iff

theorem info_eq_ok_iff : (member resp "result" >>= asObj) = .ok info ↔ Informs resp info :=
  member_bind_eq_ok_iff fun _ _ => asObj_eq_ok_iff

theorem run_showProps_of_failed (failed : Failed resp) :
    (showProps resp).run acts (vm, rest) = (.ok ⟨⟩, withProps vm rest []) := by
  rw [run_showProps, ok_eq_ok_iff.mpr failed]
  rfl

theorem run_showProps_of_informs (succeeded : Succeeded resp) (informs : Informs resp info) :
    (showProps resp).run acts (vm, rest) =
      (.ok ⟨⟩, withProps vm rest (info.map property)) := by
  rw [run_showProps, ok_eq_ok_iff.mpr succeeded, Program.proceed_ok, if_pos rfl,
    info_eq_ok_iff.mpr informs, Program.proceed_ok,
    Program.run_forM (collects_members vm rest info), List.nil_append]

/-- Any other answer leaves an empty list. -/
theorem run_showProps_throws (unfit : ¬ Failed resp)
    (uninformed : Succeeded resp → ∀ info, ¬ Informs resp info) :
    ∃ thrown, (showProps resp).run acts (vm, rest) =
      (.error thrown, withProps vm rest []) := by
  rw [run_showProps]
  cases read : member resp "ok" >>= asBool with
  | error thrown => exact ⟨thrown, rfl⟩
  | ok ok =>
      cases ok with
      | false => exact absurd (ok_eq_ok_iff.mp read) unfit
      | true =>
          cases told : member resp "result" >>= asObj with
          | error thrown => exact ⟨thrown, rfl⟩
          | ok info =>
              exact absurd (info_eq_ok_iff.mp told) (uninformed (ok_eq_ok_iff.mp read) info)

end

/-! ## All or nothing -/

/-- `refresh` returns with the tree of a successful `window.listTop`, or throws and changes
nothing. -/
def Refreshed (stod : Json.Stod) (second : Bytes) (before : ViewModel) :
    Except Thrown PUnit × ViewModel × List Bytes → Prop
  | (.ok _, after, _) =>
      ∃ resp hwnds, Json.parse stod second = .ok (.obj resp) ∧ Succeeded resp ∧
        Lists resp hwnds ∧ after.tree = hwnds.map node
  | (.error _, after, _) => after = before

/-- `select_hwnd` returns with the members of a successful `window.getInfo`, or none for a
failed one, or throws and changes nothing. -/
def Selected (stod : Json.Stod) (second : Bytes) (before : ViewModel) :
    Except Thrown PUnit × ViewModel × List Bytes → Prop
  | (.ok _, after, _) =>
      ∃ resp, Json.parse stod second = .ok (.obj resp) ∧
        ((∃ info, Succeeded resp ∧ Informs resp info ∧ after.props = info.map property) ∨
          (Failed resp ∧ after.props = []))
  | (.error _, after, _) => after = before

section

variable {stod : Json.Stod} {before : ViewModel} {first second : Bytes}

/-- A method whose promise allows to throw and change nothing keeps it when it keeps it on every
answer it can read. -/
theorem promise_iff {captureId id method : String} {params : List (String × Value)}
    {rest : Object → Method PUnit}
    {promise : Except Thrown PUnit × ViewModel × List Bytes → Prop} {fits : Object → Prop}
    (keeps : ∀ thrown left, promise (.error thrown, before, left))
    (shows : ∀ resp left, Json.parse stod second = .ok (.obj resp) →
      (promise ((rest resp).run acts (before, left)) ↔ fits resp)) :
    promise (((inquire stod captureId id method params).bind rest).run acts
        (before, [first, second])) ↔
      (Captures stod first → ∀ resp, Json.parse stod second = .ok (.obj resp) → fits resp) := by
  obtain ⟨left, ran⟩ := run_inquire stod captureId id method params before first second
  rw [Program.run_bind, ran]
  cases read : received stod first second with
  | error thrown =>
      refine iff_of_true (keeps thrown left) fun captures resp parsed => ?_
      rw [received_eq_ok_iff.mpr ⟨captures, parsed⟩] at read
      cases read
  | ok resp =>
      obtain ⟨captures, parsed⟩ := received_eq_ok_iff.mp read
      rw [Program.proceed_ok, shows resp left parsed]
      constructor
      · intro fit _ resp' again
        cases parsed.symm.trans again
        exact fit
      · intro fit
        exact fit captures resp parsed

theorem refreshed_showTree_iff {resp : Object} (left : List Bytes)
    (parsed : Json.parse stod second = .ok (.obj resp)) :
    Refreshed stod second before ((showTree resp).run acts (before, left)) ↔
      (Succeeded resp ∧ ∃ hwnds, Lists resp hwnds) ∨
        ∃ known, Breaks resp known ∧ before.tree = known.map node := by
  rcases lists_or_breaks resp with ⟨hwnds, lists⟩ | ⟨known, breaks⟩
  · have shown := run_showTree_of_lists before left lists
    have whole : ∀ known, ¬ Breaks resp known := by
      intro known breaks
      obtain ⟨thrown, ran⟩ := run_showTree_of_breaks before left breaks
      cases shown.symm.trans ran
    rw [shown]
    constructor
    · rintro ⟨resp', hwnds', again, succeeded, lists', -⟩
      cases parsed.symm.trans again
      exact Or.inl ⟨succeeded, hwnds', lists'⟩
    · rintro (⟨succeeded, -⟩ | ⟨known, breaks, -⟩)
      · exact ⟨resp, hwnds, parsed, succeeded, lists, rfl⟩
      · exact absurd breaks (whole known)
  · obtain ⟨thrown, shown⟩ := run_showTree_of_breaks before left breaks
    rw [shown]
    constructor
    · intro same
      have tree : known.map node = before.tree := congrArg ViewModel.tree same
      exact Or.inr ⟨known, breaks, tree.symm⟩
    · rintro (⟨-, hwnds, lists⟩ | ⟨known', breaks', tree⟩)
      · cases shown.symm.trans (run_showTree_of_lists before left lists)
      · obtain ⟨thrown', shown'⟩ := run_showTree_of_breaks before left breaks'
        have same : ({ before with tree := known.map node } : ViewModel) =
            { before with tree := known'.map node } :=
          congrArg (fun outcome => outcome.2.1) (shown.symm.trans shown')
        change { before with tree := known.map node } = before
        rw [same, ← tree]

theorem selected_showProps_iff {resp : Object} (left : List Bytes)
    (parsed : Json.parse stod second = .ok (.obj resp)) :
    Selected stod second before ((showProps resp).run acts (before, left)) ↔
      Failed resp ∨ (Succeeded resp ∧ ∃ info, Informs resp info) ∨ before.props = [] := by
  by_cases failed : Failed resp
  · rw [run_showProps_of_failed before left failed]
    exact iff_of_true ⟨resp, parsed, Or.inr ⟨failed, rfl⟩⟩ (Or.inl failed)
  by_cases informed : Succeeded resp ∧ ∃ info, Informs resp info
  · obtain ⟨succeeded, info, informs⟩ := informed
    rw [run_showProps_of_informs before left succeeded informs]
    exact iff_of_true ⟨resp, parsed, Or.inl ⟨info, succeeded, informs, rfl⟩⟩
      (Or.inr (Or.inl ⟨succeeded, info, informs⟩))
  · obtain ⟨thrown, shown⟩ := run_showProps_throws before left failed
      fun succeeded info informs => informed ⟨succeeded, info, informs⟩
    rw [shown]
    constructor
    · intro same
      have props : [] = before.props := congrArg ViewModel.props same
      exact Or.inr (Or.inr props.symm)
    · rintro (failed' | informed' | props)
      · exact absurd failed' failed
      · exact absurd informed' informed
      · change { before with props := [] } = before
        rw [← props]

theorem refreshed_iff :
    Refreshed stod second before ((refresh stod).run acts (before, [first, second])) ↔
      (Captures stod first → ∀ resp, Json.parse stod second = .ok (.obj resp) →
        (Succeeded resp ∧ ∃ hwnds, Lists resp hwnds) ∨
          ∃ known, Breaks resp known ∧ before.tree = known.map node) :=
  promise_iff (fun _ _ => rfl) fun _ left parsed => refreshed_showTree_iff left parsed

theorem selected_iff {hwnd : Bytes} :
    Selected stod second before ((selectHwnd stod hwnd).run acts (before, [first, second])) ↔
      (Captures stod first → ∀ resp, Json.parse stod second = .ok (.obj resp) →
        Failed resp ∨ (Succeeded resp ∧ ∃ info, Informs resp info) ∨ before.props = []) :=
  promise_iff (fun _ _ => rfl) fun _ left parsed => selected_showProps_iff left parsed

end

/-- The two methods are all or nothing exactly when an answer that can be read is a good one, or
what it leaves is what was shown before. -/
theorem updates_allOrNothing_iff (stod : Json.Stod) (before : ViewModel)
    (first second hwnd : Bytes) :
    (Refreshed stod second before ((refresh stod).run acts (before, [first, second])) ↔
      (Captures stod first → ∀ resp, Json.parse stod second = .ok (.obj resp) →
        (Succeeded resp ∧ ∃ hwnds, Lists resp hwnds) ∨
          ∃ known, Breaks resp known ∧ before.tree = known.map node)) ∧
    (Selected stod second before ((selectHwnd stod hwnd).run acts (before, [first, second])) ↔
      (Captures stod first → ∀ resp, Json.parse stod second = .ok (.obj resp) →
        Failed resp ∨ (Succeeded resp ∧ ∃ info, Informs resp info) ∨ before.props = [])) :=
  ⟨refreshed_iff, selected_iff⟩

/-- A snapshot. -/
def captured : Bytes :=
  Json.dumps (object [("result", object [("snapshot_id", .str (ascii "s-1"))])])

theorem captures_captured : Captures Json.integerStod captured :=
  ⟨[(ascii "result", .obj [(ascii "snapshot_id", .str (ascii "s-1"))])],
    [(ascii "snapshot_id", .str (ascii "s-1"))], ascii "s-1", by decide +kernel, by decide +kernel,
    by decide +kernel⟩

/-- A window in the tree, and a member of another one. -/
def shown : ViewModel where
  tree := [node (ascii "0x1")]
  props := [⟨ascii "pid", ascii "123"⟩]

/-- What the transport returns when it cannot read. -/
def readFailed : Bytes :=
  Json.dumps (object [("ok", .bool false)])

/-- An object without members. -/
def emptyObject : Bytes :=
  Json.dumps (object [])

theorem not_allOrNothing_shown :
    ¬ Refreshed Json.integerStod readFailed shown
        ((refresh Json.integerStod).run acts (shown, [captured, readFailed])) ∧
      ¬ Selected Json.integerStod emptyObject shown
        ((selectHwnd Json.integerStod (ascii "0x1")).run acts
          (shown, [captured, emptyObject])) := by
  constructor
  · intro refreshed
    have parsed : Json.parse Json.integerStod readFailed =
        .ok (.obj [(ascii "ok", .bool false)]) := by decide +kernel
    rcases refreshed_iff.mp refreshed captures_captured _ parsed with
      ⟨succeeded, -⟩ | ⟨known, ⟨rfl, -⟩ | ⟨good, bad, rest, found, -⟩, tree⟩
    · exact absurd succeeded (by unfold Succeeded; decide +kernel)
    · cases tree
    · cases found
  · intro selected
    have parsed : Json.parse Json.integerStod emptyObject = .ok (.obj []) := by decide +kernel
    rcases selected_iff.mp selected captures_captured _ parsed with
      failed | ⟨succeeded, -⟩ | props
    · cases failed
    · cases succeeded
    · cases props

end WinInspect.Clients
