import WinInspect.Core.Engine

/-!
# What the handlers ask for

The parameters each method of the dispatch table needs, as names and JSON types.  A handler
rejects a request for its parameters exactly when one of them is missing or has another type.
-/

namespace WinInspect

open Json (Value Object)

/-- The types the handlers read. -/
inductive ParamType where
  | str
  | bool
  | num
  deriving DecidableEq

/-- The parameter is there and has the type. -/
def hasParam (o : Object) (key : String) : ParamType → Bool
  | .str => (getStr o key).isSome
  | .bool => (getBool o key).isSome
  | .num => (getNum o key).isSome

/-- All the parameters are there with their types. -/
def Provides (o : Object) (params : List (String × ParamType)) : Prop :=
  ∀ param ∈ params, hasParam o param.1 param.2 = true

/-- The sides of a region. -/
def rectParams : List (String × ParamType) :=
  [("left", .num), ("top", .num), ("right", .num), ("bottom", .num)]

/-- The parameters the methods of the table cannot do without.  That of `events.poll` also needs
an old snapshot, which is not a parameter. -/
def signatures : List (String × List (String × ParamType)) :=
  [("events.poll", []), ("session.terminate", []), ("window.listTop", []),
    ("window.listChildren", [("hwnd", .str)]), ("window.getTree", []),
    ("window.highlight", [("hwnd", .str)]), ("window.getInfo", [("hwnd", .str)]),
    ("window.pickAtPoint", [("x", .num), ("y", .num)]),
    ("window.ensureVisible", [("hwnd", .str), ("visible", .bool)]),
    ("window.ensureForeground", [("hwnd", .str)]),
    ("window.setProperty", [("hwnd", .str), ("name", .str), ("value", .str)]),
    ("window.postMessage", [("hwnd", .str), ("msg", .num)]), ("input.send", [("data_b64", .str)]),
    ("input.mouseClick", [("x", .num), ("y", .num)]), ("input.keyPress", [("vk", .num)]),
    ("input.text", [("text", .str)]),
    ("window.controlClick", [("hwnd", .str), ("x", .num), ("y", .num)]),
    ("window.controlSend", [("hwnd", .str), ("text", .str)]),
    ("screen.getPixel", [("x", .num), ("y", .num)]), ("screen.capture", rectParams),
    ("screen.pixelSearch", rectParams ++ [("r", .num), ("g", .num), ("b", .num)]),
    ("process.list", []), ("process.kill", [("pid", .num)]), ("file.getInfo", [("path", .str)]),
    ("file.read", [("path", .str)]), ("clipboard.read", []), ("clipboard.write", [("text", .str)]),
    ("service.list", []), ("service.status", [("name", .str)]),
    ("service.control", [("name", .str), ("action", .str)]), ("env.get", []),
    ("env.set", [("name", .str), ("value", .str)]), ("wine.drives", []), ("wine.overrides", []),
    ("sync.checkMutex", [("name", .str)]), ("sync.createMutex", [("name", .str)]),
    ("mem.read", [("pid", .num), ("address", .num), ("size", .num)]),
    ("mem.write", [("pid", .num), ("address", .num), ("data_b64", .str)]),
    ("image.match", rectParams ++ [("sub_image_b64", .str)]), ("input.hook", [("enabled", .bool)]),
    ("window.findRegex", []), ("reg.read", [("path", .str)]),
    ("reg.write", [("path", .str), ("name", .str), ("type", .str), ("data", .str)]),
    ("reg.delete", [("path", .str)]), ("ui.inspect", [("hwnd", .str)]),
    ("ui.invoke", [("hwnd", .str), ("automation_id", .str)]), ("daemon.health", []),
    ("daemon.capabilities", []), ("daemon.checkUpdate", []), ("daemon.downloadUpdate", []),
    ("daemon.logs", [])]

/-- The parameters a method requires, if there is one of that name. -/
def signature (method : Bytes) : Option (List (String × ParamType)) :=
  (signatures.find? fun entry => ascii entry.1 = method).map Prod.snd

/-! ## Reading parameters -/

/-- A value is missing exactly when one of the parameters is missing or has another type. -/
def Reads {α : Type} (value : Option α) (o : Object) (params : List (String × ParamType)) : Prop :=
  value = none ↔ ¬ Provides o params

namespace Reads

variable {α β : Type} {o : Object} {key : String}

theorem of_hasParam {value : Option α} {type : ParamType}
    (same : hasParam o key type = value.isSome) : Reads value o [(key, type)] := by
  unfold Reads Provides
  rw [List.forall_mem_singleton, same, Option.isSome_iff_ne_none, not_not]

theorem str : Reads (getStr o key) o [(key, .str)] :=
  of_hasParam rfl

theorem bool : Reads (getBool o key) o [(key, .bool)] :=
  of_hasParam rfl

theorem int : Reads (getInt o key) o [(key, .num)] :=
  of_hasParam (by rw [getInt, Option.isSome_map]; rfl)

theorem byte : Reads (getByte o key) o [(key, .num)] :=
  of_hasParam (by rw [getByte, getInt, Option.isSome_map, Option.isSome_map]; rfl)

theorem nothing (a : α) : Reads (some a) o [] :=
  iff_of_false nofun (not_not.mpr fun _ member => absurd member List.not_mem_nil)

theorem bind {value : Option α} {next : α → Option β} {params others : List (String × ParamType)}
    (first : Reads value o params) (rest : ∀ a, Reads (next a) o others) :
    Reads (value >>= next) o (params ++ others) := by
  unfold Reads Provides at *
  rw [List.forall_mem_append]
  cases value with
  | none => exact iff_of_true rfl fun both => first.mp rfl both.1
  | some a =>
      have provided := not_not.mp (mt first.mpr nofun)
      exact (rest a).trans (not_congr (and_iff_right provided).symm)

theorem rect : Reads (getRect o) o rectParams :=
  int.bind fun _ => int.bind fun _ => int.bind fun _ => int.bind fun _ => nothing _

end Reads

/-! ## Rejections -/

/-- An exception about a parameter that is missing or has another type, and not about the text
of a handle. -/
def Complains {α : Type} (result : Except Bytes α) : Prop :=
  ∃ what, result = .error what ∧ what ≠ ascii "bad hwnd"

section

variable {α β : Type}

theorem not_complains_ok (a : α) : ¬ Complains (.ok a : Except Bytes α) := by
  rintro ⟨what, failed, _⟩
  cases failed

theorem not_complains_bind {result : Except Bytes α} {next : α → Except Bytes β}
    (quiet : ¬ Complains result) (rest : ∀ a, ¬ Complains (next a)) :
    ¬ Complains (result >>= next) := by
  cases result with
  | error what =>
      rintro ⟨_, failed, other⟩
      cases failed
      exact quiet ⟨what, rfl, other⟩
  | ok a => exact rest a

theorem not_complains_needHwnd (s : Bytes) : ¬ Complains (needHwnd s) := by
  unfold needHwnd
  cases parseHwnd s with
  | none =>
      rintro ⟨what, failed, other⟩
      cases failed
      exact other rfl
  | some h => exact not_complains_ok h

variable {value : Option α} {what : String} {o : Object} {params : List (String × ParamType)}

/-- A check in front of something that does not complain. -/
theorem complains_need_bind {next : α → Except Bytes β} (reads : Reads value o params)
    (other : ascii what ≠ ascii "bad hwnd") (quiet : ∀ a, ¬ Complains (next a)) :
    Complains (need value what >>= next) ↔ ¬ Provides o params := by
  refine Iff.trans ?_ reads
  cases value with
  | none => exact iff_of_true ⟨_, rfl, other⟩ rfl
  | some a => exact iff_of_false (quiet a) nofun

theorem complains_need (reads : Reads value o params) (other : ascii what ≠ ascii "bad hwnd") :
    Complains (need value what) ↔ ¬ Provides o params := by
  refine Iff.trans ?_ reads
  cases value with
  | none => exact iff_of_true ⟨_, rfl, other⟩ rfl
  | some a => exact iff_of_false (not_complains_ok a) nofun

end

/-! ## The handlers -/

/-- The handler rejects a request for its parameters exactly when one of these is missing or has
another type. -/
def Handler.Asks (h : Handler) (params : List (String × ParamType)) : Prop :=
  ∀ req old, Complains (h.args req old) ↔ ¬ Provides req.params params

theorem asks_nothing {h : Handler} (quiet : ∀ req old, ¬ Complains (h.args req old)) :
    h.Asks [] :=
  fun req old => iff_of_false (quiet req old)
    (not_not.mpr fun _ member => absurd member List.not_mem_nil)

theorem complains_hwndArg (req : CoreRequest) (old : Option Snapshot) :
    Complains (hwndArg req old) ↔ ¬ Provides req.params [("hwnd", .str)] :=
  complains_need_bind .str (by decide) not_complains_needHwnd

theorem complains_strArg {key what : String} (other : ascii what ≠ ascii "bad hwnd")
    (req : CoreRequest) (old : Option Snapshot) :
    Complains (strArg key what req old) ↔ ¬ Provides req.params [(key, .str)] :=
  complains_need .str other

theorem complains_pointArg (req : CoreRequest) :
    Complains (pointArg req) ↔ ¬ Provides req.params [("x", .num), ("y", .num)] :=
  complains_need (Reads.int.bind fun _ => Reads.int.bind fun _ => .nothing _) (by decide)

theorem complains_strArgs2 {first second what : String} (other : ascii what ≠ ascii "bad hwnd")
    (req : CoreRequest) (old : Option Snapshot) :
    Complains (strArgs2 first second what req old) ↔
      ¬ Provides req.params [(first, .str), (second, .str)] :=
  complains_need (Reads.str.bind fun _ => Reads.str.bind fun _ => .nothing _) other

/-- A handle with further parameters: the text of the handle is checked last. -/
theorem complains_with_hwnd {α β : Type} {value : Option α} {what : String} {o : Object}
    {params : List (String × ParamType)} {hwnd : α → Bytes} {build : α → HwndU64 → β}
    (reads : Reads value o params) (other : ascii what ≠ ascii "bad hwnd") :
    Complains (need value what >>= fun a => needHwnd (hwnd a) >>= fun h => .ok (build a h)) ↔
      ¬ Provides o params :=
  complains_need_bind reads other fun a =>
    not_complains_bind (not_complains_needHwnd _) fun h => not_complains_ok (build a h)

theorem asks_windowGetTree : windowGetTree.Asks [] := by
  refine asks_nothing fun req old => ?_
  unfold windowGetTree
  dsimp only
  split
  · exact not_complains_needHwnd _
  · exact not_complains_ok _

theorem asks_windowPickAtPoint : windowPickAtPoint.Asks [("x", .num), ("y", .num)] :=
  fun _ _ => complains_need_bind (Reads.int.bind fun _ => Reads.int.bind fun _ => .nothing _)
    (by decide) fun _ => not_complains_ok _

theorem asks_windowEnsureVisible :
    windowEnsureVisible.Asks [("hwnd", .str), ("visible", .bool)] :=
  fun _ _ => complains_with_hwnd
    (Reads.str.bind fun _ => Reads.bool.bind fun _ => .nothing _) (by decide)

theorem asks_windowSetProperty :
    windowSetProperty.Asks [("hwnd", .str), ("name", .str), ("value", .str)] :=
  fun _ _ => complains_with_hwnd
    (Reads.str.bind fun _ => Reads.str.bind fun _ => Reads.str.bind fun _ => .nothing _)
    (by decide)

theorem asks_windowPostMessage : windowPostMessage.Asks [("hwnd", .str), ("msg", .num)] :=
  fun _ _ => complains_with_hwnd
    (Reads.str.bind fun _ => Reads.int.bind fun _ => .nothing _) (by decide)

theorem asks_windowControlClick :
    windowControlClick.Asks [("hwnd", .str), ("x", .num), ("y", .num)] :=
  fun _ _ => complains_with_hwnd
    (Reads.str.bind fun _ => Reads.int.bind fun _ => Reads.int.bind fun _ => .nothing _)
    (by decide)

theorem asks_windowControlSend : windowControlSend.Asks [("hwnd", .str), ("text", .str)] :=
  fun _ _ => complains_with_hwnd
    (Reads.str.bind fun _ => Reads.str.bind fun _ => .nothing _) (by decide)

theorem asks_uiInvoke : uiInvoke.Asks [("hwnd", .str), ("automation_id", .str)] :=
  fun _ _ => complains_with_hwnd
    (Reads.str.bind fun _ => Reads.str.bind fun _ => .nothing _) (by decide)

theorem asks_inputMouseClick : inputMouseClick.Asks [("x", .num), ("y", .num)] :=
  fun _ _ => complains_need_bind (Reads.int.bind fun _ => Reads.int.bind fun _ => .nothing _)
    (by decide) fun _ => not_complains_ok _

theorem asks_screenPixelSearch :
    screenPixelSearch.Asks (rectParams ++ [("r", .num), ("g", .num), ("b", .num)]) :=
  fun _ _ => complains_need_bind
    (Reads.rect.bind fun _ => Reads.byte.bind fun _ => Reads.byte.bind fun _ =>
      Reads.byte.bind fun _ => .nothing _)
    (by decide) fun _ => not_complains_ok _

theorem asks_syncCreateMutex : syncCreateMutex.Asks [("name", .str)] :=
  fun _ _ => complains_need_bind .str (by decide) fun _ => not_complains_ok _

theorem asks_memRead : memRead.Asks [("pid", .num), ("address", .num), ("size", .num)] :=
  fun _ _ => complains_need
    (Reads.int.bind fun _ => Reads.int.bind fun _ => Reads.int.bind fun _ => .nothing _)
    (by decide)

theorem asks_memWrite : memWrite.Asks [("pid", .num), ("address", .num), ("data_b64", .str)] :=
  fun _ _ => complains_need
    (Reads.int.bind fun _ => Reads.int.bind fun _ => Reads.str.bind fun _ => .nothing _)
    (by decide)

theorem asks_imageMatch : imageMatch.Asks (rectParams ++ [("sub_image_b64", .str)]) :=
  fun _ _ => complains_need (Reads.rect.bind fun _ => Reads.str.bind fun _ => .nothing _)
    (by decide)

theorem asks_regWrite :
    regWrite.Asks [("path", .str), ("name", .str), ("type", .str), ("data", .str)] :=
  fun _ _ => complains_need
    (Reads.str.bind fun _ => Reads.str.bind fun _ => Reads.str.bind fun _ =>
      Reads.str.bind fun _ => .nothing _)
    (by decide)

theorem asks_regDelete : regDelete.Asks [("path", .str)] :=
  fun _ _ => complains_need_bind .str (by decide) fun _ => not_complains_ok _

/-- A handler and the signature of its method. -/
def Matches (entry : String × Handler) (sig : String × List (String × ParamType)) : Prop :=
  entry.1 = sig.1 ∧ (entry.1 = "events.poll" ∨ entry.2.Asks sig.2)

/-- The two tables agree entry by entry. -/
theorem matches_signatures : List.Forall₂ Matches dispatchTable signatures := by
  unfold dispatchTable signatures
  refine .cons ⟨rfl, .inl rfl⟩ ?_
  refine .cons ⟨rfl, .inr (asks_nothing fun _ _ => not_complains_ok _)⟩ ?_
  refine .cons ⟨rfl, .inr (asks_nothing fun _ _ => not_complains_ok _)⟩ ?_
  refine .cons ⟨rfl, .inr complains_hwndArg⟩ ?_
  refine .cons ⟨rfl, .inr asks_windowGetTree⟩ ?_
  refine .cons ⟨rfl, .inr complains_hwndArg⟩ ?_
  refine .cons ⟨rfl, .inr complains_hwndArg⟩ ?_
  refine .cons ⟨rfl, .inr asks_windowPickAtPoint⟩ ?_
  refine .cons ⟨rfl, .inr asks_windowEnsureVisible⟩ ?_
  refine .cons ⟨rfl, .inr complains_hwndArg⟩ ?_
  refine .cons ⟨rfl, .inr asks_windowSetProperty⟩ ?_
  refine .cons ⟨rfl, .inr asks_windowPostMessage⟩ ?_
  refine .cons ⟨rfl, .inr (complains_strArg (by decide))⟩ ?_
  refine .cons ⟨rfl, .inr asks_inputMouseClick⟩ ?_
  refine .cons ⟨rfl, .inr fun _ _ => complains_need .int (by decide)⟩ ?_
  refine .cons ⟨rfl, .inr (complains_strArg (by decide))⟩ ?_
  refine .cons ⟨rfl, .inr asks_windowControlClick⟩ ?_
  refine .cons ⟨rfl, .inr asks_windowControlSend⟩ ?_
  refine .cons ⟨rfl, .inr fun req _ => complains_pointArg req⟩ ?_
  refine .cons ⟨rfl, .inr fun _ _ => complains_need .rect (by decide)⟩ ?_
  refine .cons ⟨rfl, .inr asks_screenPixelSearch⟩ ?_
  refine .cons ⟨rfl, .inr (asks_nothing fun _ _ => not_complains_ok _)⟩ ?_
  refine .cons ⟨rfl, .inr fun _ _ => complains_need .int (by decide)⟩ ?_
  refine .cons ⟨rfl, .inr (complains_strArg (by decide))⟩ ?_
  refine .cons ⟨rfl, .inr (complains_strArg (by decide))⟩ ?_
  refine .cons ⟨rfl, .inr (asks_nothing fun _ _ => not_complains_ok _)⟩ ?_
  refine .cons ⟨rfl, .inr (complains_strArg (by decide))⟩ ?_
  refine .cons ⟨rfl, .inr (asks_nothing fun _ _ => not_complains_ok _)⟩ ?_
  refine .cons ⟨rfl, .inr (complains_strArg (by decide))⟩ ?_
  refine .cons ⟨rfl, .inr (complains_strArgs2 (by decide))⟩ ?_
  refine .cons ⟨rfl, .inr (asks_nothing fun _ _ => not_complains_ok _)⟩ ?_
  refine .cons ⟨rfl, .inr (complains_strArgs2 (by decide))⟩ ?_
  refine .cons ⟨rfl, .inr (asks_nothing fun _ _ => not_complains_ok _)⟩ ?_
  refine .cons ⟨rfl, .inr (asks_nothing fun _ _ => not_complains_ok _)⟩ ?_
  refine .cons ⟨rfl, .inr (complains_strArg (by decide))⟩ ?_
  refine .cons ⟨rfl, .inr asks_syncCreateMutex⟩ ?_
  refine .cons ⟨rfl, .inr asks_memRead⟩ ?_
  refine .cons ⟨rfl, .inr asks_memWrite⟩ ?_
  refine .cons ⟨rfl, .inr asks_imageMatch⟩ ?_
  refine .cons ⟨rfl, .inr fun _ _ => complains_need .bool (by decide)⟩ ?_
  refine .cons ⟨rfl, .inr (asks_nothing fun _ _ => not_complains_ok _)⟩ ?_
  refine .cons ⟨rfl, .inr (complains_strArg (by decide))⟩ ?_
  refine .cons ⟨rfl, .inr asks_regWrite⟩ ?_
  refine .cons ⟨rfl, .inr asks_regDelete⟩ ?_
  refine .cons ⟨rfl, .inr complains_hwndArg⟩ ?_
  refine .cons ⟨rfl, .inr asks_uiInvoke⟩ ?_
  refine .cons ⟨rfl, .inr (asks_nothing fun _ _ => not_complains_ok _)⟩ ?_
  refine .cons ⟨rfl, .inr (asks_nothing fun _ _ => not_complains_ok _)⟩ ?_
  refine .cons ⟨rfl, .inr (asks_nothing fun _ _ => not_complains_ok _)⟩ ?_
  refine .cons ⟨rfl, .inr (asks_nothing fun _ _ => not_complains_ok _)⟩ ?_
  refine .cons ⟨rfl, .inr (asks_nothing fun _ _ => not_complains_ok _)⟩ ?_
  exact .nil

/-- Searches of related lists for related elements. -/
theorem find?_related {α : Type*} {β : Type*} {related : α → β → Prop} {test : α → Bool}
    {test' : β → Bool} (same : ∀ a b, related a b → test a = test' b) {as : List α} {bs : List β}
    (all : List.Forall₂ related as bs) : Option.Rel related (as.find? test) (bs.find? test') := by
  induction all with
  | nil => exact .none
  | @cons a b as bs first rest inductionHypothesis =>
      rw [List.find?_cons, List.find?_cons, same a b first]
      cases test' b with
      | true => exact .some first
      | false => exact inductionHypothesis

/-- A method is in both tables or in none. -/
theorem lookup_cases (method : Bytes) :
    (dispatch method = none ∧ signature method = none) ∨
      ∃ handler params, dispatch method = some handler ∧ signature method = some params ∧
        (method ≠ ascii "events.poll" → handler.Asks params) := by
  have lookups : Option.Rel Matches (dispatchTable.find? fun entry => ascii entry.1 = method)
      (signatures.find? fun entry => ascii entry.1 = method) := by
    refine find?_related (fun entry sig found => ?_) matches_signatures
    rw [found.1]
  have name : ∀ entry, (dispatchTable.find? fun entry => ascii entry.1 = method) = some entry →
      ascii entry.1 = method := by
    intro entry found
    have test := List.find?_some found
    exact of_decide_eq_true test
  unfold dispatch signature
  revert lookups name
  generalize (dispatchTable.find? fun entry => ascii entry.1 = method) = left
  generalize (signatures.find? fun entry => ascii entry.1 = method) = right
  rintro (⟨⟨_, poll | asks⟩⟩ | _) name
  · exact Or.inr ⟨_, _, rfl, rfl, fun other => absurd (poll ▸ name _ rfl) (Ne.symm other)⟩
  · exact Or.inr ⟨_, _, rfl, rfl, fun _ => asks⟩
  · exact Or.inl ⟨rfl, rfl⟩

/-! ## Requests -/

/-- The handler of the request rejects it for a parameter that is missing or has another type.
An old snapshot that is named but not stored is no such parameter. -/
def Rejects (req : CoreRequest) (old : Option Snapshot) : Prop :=
  ∃ handler, dispatch req.method = some handler ∧ Complains (handler.args req old) ∧
    ¬ (req.method = ascii "events.poll" ∧ (getStr req.params "old_snapshot_id").isSome = true)

theorem rejects_iff {req : CoreRequest} {params : List (String × ParamType)}
    (other : req.method ≠ ascii "events.poll") (sig : signature req.method = some params)
    (old : Option Snapshot) : Rejects req old ↔ ¬ Provides req.params params := by
  unfold Rejects
  rcases lookup_cases req.method with ⟨_, none⟩ | ⟨handler, params', found, some, asks⟩
  · rw [none] at sig
    cases sig
  · rw [some] at sig
    cases sig
    rw [← asks other req old]
    constructor
    · rintro ⟨_, found', complains, _⟩
      rw [found] at found'
      cases found'
      exact complains
    · intro complains
      exact ⟨handler, found, complains, fun poll => other poll.1⟩

theorem rejects_poll_iff {req : CoreRequest} (poll : req.method = ascii "events.poll")
    (old : Option Snapshot) :
    Rejects req old ↔ old = none ∧ getStr req.params "old_snapshot_id" = none := by
  have found : dispatch req.method = some eventsPoll := by
    rw [poll]
    rfl
  have complains : Complains (eventsPoll.args req old) ↔ old = none := by
    cases old with
    | none => exact iff_of_true ⟨_, rfl, by decide⟩ rfl
    | some old => exact iff_of_false (not_complains_ok _) nofun
  unfold Rejects
  rw [← complains, ← Option.not_isSome_iff_eq_none]
  constructor
  · rintro ⟨_, found', complaint, unnamed⟩
    rw [found] at found'
    cases found'
    exact ⟨complaint, fun named => unnamed ⟨poll, named⟩⟩
  · rintro ⟨complaint, unnamed⟩
    exact ⟨eventsPoll, found, complaint, fun named => unnamed named.2⟩

end WinInspect
