import WinInspect.Core.FakeBackend
import WinInspect.Core.Handles

/-!
# Error codes of failures

A handler fails by throwing, by returning a response with a code, or by returning
one without.  Three of them return without a code: those of `mem.read` and
`image.match` when the backend has no result, and that of `daemon.downloadUpdate`
when the backend has no path.
-/

namespace WinInspect

/-- A response that fails has an error code. -/
def Identifiable (resp : CoreResponse) : Prop :=
  resp.ok = false → resp.errorCode ≠ []

theorem identifiable_badRequest (id what : Bytes) : Identifiable (badRequest id what) := by
  intro _
  exact (by decide : ascii "E_BAD_REQUEST" ≠ [])

theorem identifiable_badMethod (id : Bytes) : Identifiable (badMethod id) := by
  intro _
  exact (by decide : ascii "E_BAD_METHOD" ≠ [])

/-- A handler's result that gives an identifiable response. -/
def Named (result : Except Bytes CoreResponse) : Prop :=
  ∀ resp, result = .ok resp → Identifiable resp

theorem named_okWith (result : Json.Value) : Named (okWith result) := by
  rintro _ ⟨⟩ failed
  cases failed

theorem named_failWith {code : String} (coded : ascii code ≠ []) (message : String) :
    Named (failWith code message) := by
  rintro _ ⟨⟩ _
  exact coded

theorem named_error (what : Bytes) : Named (.error what) :=
  nofun

theorem named_bind_iff {β : Type} {result : Except Bytes β}
    {next : β → Except Bytes CoreResponse} :
    Named (result.bind next) ↔ ∀ answer, result = .ok answer → Named (next answer) := by
  cases result with
  | error what => exact iff_of_true (named_error what) nofun
  | ok answer =>
      constructor
      · rintro named _ ⟨⟩
        exact named
      · intro named
        exact named answer rfl

/-- The exception that `handle` catches gets a code. -/
theorem identifiable_respondOrCatch_iff (id : Bytes) (result : Except Bytes CoreResponse) :
    Identifiable (respondOrCatch id result) ↔ Named result := by
  cases result with
  | error what => exact iff_of_true (identifiable_badRequest id what) (named_error what)
  | ok resp =>
      constructor
      · rintro identifiable _ ⟨⟩
        exact identifiable
      · intro named
        exact named resp rfl

/-! ## The handlers -/

theorem named_eventsPoll (env : Surroundings) (req : CoreRequest)
    (args : eventsPoll.Args) (answer : eventsPoll.Answer) :
    Named (eventsPoll.respond env req args answer) := by
  intro resp responded
  unfold eventsPoll at responded
  dsimp only at responded
  split at responded
  · cases responded
    exact nofun
  · cases responded
    exact nofun

theorem named_daemonLogs (env : Surroundings) (req : CoreRequest) (args answer : Unit) :
    Named (daemonLogs.respond env req args answer) := by
  unfold daemonLogs
  dsimp only
  split
  · exact named_okWith _
  · exact named_failWith (by decide) _

/-- The handlers that can fail without a code are those of three methods. -/
theorem named_respond :
    ∀ entry ∈ dispatchTable,
      entry.1 ∈ ["mem.read", "image.match", "daemon.downloadUpdate"] ∨
        ∀ env req args answer, Named (entry.2.respond env req args answer) := by
  intro entry member
  fin_cases member
  all_goals first
    | exact Or.inl (by decide)
    | refine Or.inr fun env req args answer => ?_
  all_goals first
    | exact named_okWith _
    | exact named_eventsPoll env req args answer
    | exact named_daemonLogs env req args answer
    | cases answer <;>
        first
        | exact named_okWith _
        | exact named_failWith (by decide) _
        | exact named_error _

/-! ## The engine -/

section

variable {σ : Type} (backend : Backend σ) (env : Surroundings) (req : CoreRequest)
  (snapshot : Snapshot) (old : Option Snapshot) (world : σ)

theorem identifiable_handleBody_iff {handler : Handler}
    (found : dispatch req.method = some handler) {op : handler.Args → Call handler.Answer}
    (single : ∀ args, handler.query snapshot args = Effect.Program.perform (op args)) :
    Identifiable (handleBody backend env req snapshot old world).1 ↔
      ∀ args answer, handler.args req old = .ok args →
        (backend.apply (op args) world).1 = .ok answer →
        Named (handler.respond env req args answer) := by
  cases accepted : handler.args req old with
  | error what =>
      rw [handleBody_of_error found accepted]
      exact iff_of_true (identifiable_badRequest req.id what) nofun
  | ok args =>
      rw [handleBody_of_ok found accepted (single args), identifiable_respondOrCatch_iff,
        named_bind_iff]
      constructor
      · rintro named _ answer ⟨⟩ answered
        exact named answer answered
      · intro named answer answered
        exact named args answer rfl answered

theorem identifiable_handleBody_of_not_mem
    (others : ∀ name ∈ ["mem.read", "image.match", "daemon.downloadUpdate"],
      req.method ≠ ascii name) :
    Identifiable (handleBody backend env req snapshot old world).1 := by
  unfold handleBody
  cases found : dispatch req.method with
  | none => exact identifiable_badMethod req.id
  | some handler =>
      obtain ⟨name, member, same⟩ := mem_dispatchTable_of_dispatch found
      have named := (named_respond _ member).resolve_left fun listed => others name listed same.symm
      dsimp only
      rw [identifiable_respondOrCatch_iff]
      intro resp returned
      rcases ran : (handler.program env req snapshot old).run backend world with ⟨result, after⟩
      rw [ran] at returned
      cases returned
      obtain ⟨args, answer, -, -, responded⟩ := Handler.run_program_ok_iff.mp ran
      exact named env req args answer resp responded

/-- The backend has no memory for an accepted `mem.read`. -/
def NoMemory : Prop :=
  req.method = ascii "mem.read" ∧ ∃ pid address size, getInt req.params "pid" = some pid ∧
    getInt req.params "address" = some address ∧ getInt req.params "size" = some size ∧
    (backend.apply (.memRead pid address size) world).1 = .ok none

/-- The backend has no match for an accepted `image.match`. -/
def NoMatch : Prop :=
  req.method = ascii "image.match" ∧ ∃ region image, getRect req.params = some region ∧
    getStr req.params "sub_image_b64" = some image ∧
    (backend.apply (.imageMatch region (Base64.decode image)) world).1 = .ok none

/-- The backend has no path for a `daemon.downloadUpdate`. -/
def NoDownload : Prop :=
  req.method = ascii "daemon.downloadUpdate" ∧
    (backend.apply (.downloadUpdate ((getStr req.params "url").getD [])
      ((getStr req.params "type").getD (ascii "installer"))) world).1 = .ok []

theorem memRead_args_iff {pid address size : Int} :
    memRead.args req old = .ok (pid, address, size) ↔
      getInt req.params "pid" = some pid ∧ getInt req.params "address" = some address ∧
        getInt req.params "size" = some size := by
  refine need_eq_ok.trans ?_
  simp [Option.bind_eq_some_iff]

theorem imageMatch_args_iff {region : Rect} {image : Bytes} :
    imageMatch.args req old = .ok (region, image) ↔
      getRect req.params = some region ∧ getStr req.params "sub_image_b64" = some image := by
  refine need_eq_ok.trans ?_
  simp [Option.bind_eq_some_iff]

theorem identifiable_memRead_iff (method : req.method = ascii "mem.read") :
    Identifiable (handleBody backend env req snapshot old world).1 ↔
      ¬ NoMemory backend req world := by
  have found : dispatch req.method = some memRead := by
    rw [method]
    exact dispatch_of_mem (by simp [dispatchTable])
  rw [identifiable_handleBody_iff backend env req snapshot old world found fun _ => rfl]
  constructor
  · rintro named ⟨-, pid, address, size, pidEq, addressEq, sizeEq, absent⟩
    have accepted := (memRead_args_iff req old).mpr ⟨pidEq, addressEq, sizeEq⟩
    exact named _ none accepted absent _ rfl rfl rfl
  · rintro present ⟨pid, address, size⟩ answer accepted answered
    cases answer with
    | some region => exact named_okWith _
    | none =>
        obtain ⟨pidEq, addressEq, sizeEq⟩ := (memRead_args_iff req old).mp accepted
        exact absurd ⟨method, pid, address, size, pidEq, addressEq, sizeEq, answered⟩ present

theorem identifiable_imageMatch_iff (method : req.method = ascii "image.match") :
    Identifiable (handleBody backend env req snapshot old world).1 ↔
      ¬ NoMatch backend req world := by
  have found : dispatch req.method = some imageMatch := by
    rw [method]
    exact dispatch_of_mem (by simp [dispatchTable])
  rw [identifiable_handleBody_iff backend env req snapshot old world found fun _ => rfl]
  constructor
  · rintro named ⟨-, region, image, regionEq, imageEq, absent⟩
    have accepted := (imageMatch_args_iff req old).mpr ⟨regionEq, imageEq⟩
    exact named _ none accepted absent _ rfl rfl rfl
  · rintro present ⟨region, image⟩ answer accepted answered
    cases answer with
    | some result => exact named_okWith _
    | none =>
        obtain ⟨regionEq, imageEq⟩ := (imageMatch_args_iff req old).mp accepted
        exact absurd ⟨method, region, image, regionEq, imageEq, answered⟩ present

theorem identifiable_downloadUpdate_iff (method : req.method = ascii "daemon.downloadUpdate") :
    Identifiable (handleBody backend env req snapshot old world).1 ↔
      ¬ NoDownload backend req world := by
  have found : dispatch req.method = some daemonDownloadUpdate := by
    rw [method]
    exact dispatch_of_mem (by simp [dispatchTable])
  rw [identifiable_handleBody_iff backend env req snapshot old world found fun _ => rfl]
  constructor
  · rintro named ⟨-, absent⟩
    exact named _ [] rfl absent _ rfl rfl rfl
  · rintro present args path ⟨⟩ answered
    cases path with
    | cons c rest => exact named_okWith _
    | nil => exact absurd ⟨method, answered⟩ present

end

/-- A failure has a code unless the backend has no result for one of three methods. -/
theorem identifiable_iff {σ : Type} (backend : Backend σ) (env : Surroundings) (durationMs : Int)
    (req : CoreRequest) (snapshot : Snapshot) (old : Option Snapshot) (world : σ) :
    Identifiable (handle backend env durationMs req snapshot old world).1 ↔
      ¬ (NoMemory backend req world ∨ NoMatch backend req world ∨
        NoDownload backend req world) := by
  change Identifiable (handleBody backend env req snapshot old world).1 ↔ _
  have apart : ascii "mem.read" ≠ ascii "image.match" ∧
      ascii "mem.read" ≠ ascii "daemon.downloadUpdate" ∧
      ascii "image.match" ≠ ascii "daemon.downloadUpdate" := by
    decide
  by_cases memory : req.method = ascii "mem.read"
  · rw [identifiable_memRead_iff backend env req snapshot old world memory]
    simp [NoMatch, NoDownload, memory, apart]
  by_cases image : req.method = ascii "image.match"
  · rw [identifiable_imageMatch_iff backend env req snapshot old world image]
    simp [NoMemory, NoDownload, image, apart, Ne.symm apart.1]
  by_cases download : req.method = ascii "daemon.downloadUpdate"
  · rw [identifiable_downloadUpdate_iff backend env req snapshot old world download]
    simp [NoMemory, NoMatch, download, Ne.symm apart.2.1, Ne.symm apart.2.2]
  · have others := identifiable_handleBody_of_not_mem backend env req snapshot old world
      (by simp [memory, image, download])
    simp [NoMemory, NoMatch, NoDownload, memory, image, download, others]

/-- An update is asked for where there is none. -/
def downloadUpdateRequest : CoreRequest :=
  { id := ascii "1", method := ascii "daemon.downloadUpdate", params := [] }

theorem not_identifiable_downloadUpdate :
    ¬ Identifiable
      (handle Fake.fakeBackend ⟨false, [], 0⟩ 0 downloadUpdateRequest {} none {}).1 := by
  intro identifiable
  have path := (identifiable_downloadUpdate_iff Fake.fakeBackend ⟨false, [], 0⟩
    downloadUpdateRequest {} none {} rfl).mp identifiable
  exact path ⟨rfl, rfl⟩

end WinInspect
