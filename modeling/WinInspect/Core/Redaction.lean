import WinInspect.Core.FakeBackend
import WinInspect.Core.Payloads

/-!
# Redacted variables

`env.get` shows the environment with the values of credentials replaced.  The
response is a function of the names and of the values that may be shown: two
environments that differ only in the values of credentials get the same response.
-/

namespace WinInspect

/-- The name has one of the words in it, in letters of either case. -/
def Credential (name : Bytes) : Prop :=
  ∃ word ∈ credentialWords, ∃ part, part <:+: name ∧ ascii word = part.map toUpper

theorem sensitive_iff (name : Bytes) : sensitive name = true ↔ Credential name := by
  unfold sensitive Credential containsBytes
  simp only [List.any_eq_true, decide_eq_true_eq, List.infix_map_iff]

instance (name : Bytes) : Decidable (Credential name) :=
  decidable_of_iff _ (sensitive_iff name)

/-- The value `env.get` shows for a variable. -/
def shownValue (v : EnvVar) : Json.Value :=
  .str (if sensitive v.name then ascii "<REDACTED>" else v.value)

theorem shownValue_of_not_credential {v : EnvVar} (plain : ¬ Credential v.name) :
    shownValue v = .str v.value := by
  rw [← sensitive_iff] at plain
  unfold shownValue
  rw [if_neg plain]

theorem envToJson_eq (vars : List EnvVar) :
    envToJson vars =
      .obj (vars.foldl (fun o v => Assoc.assign v.name (shownValue v) o) []) :=
  rfl

/-! ## Two environments -/

/-- The variables have one name, and one value unless it is a credential. -/
def AgreeOnShown (v w : EnvVar) : Prop :=
  v.name = w.name ∧ (¬ Credential v.name → v.value = w.value)

theorem AgreeOnShown.shownValue_eq {v w : EnvVar} (agree : AgreeOnShown v w) :
    shownValue v = shownValue w := by
  obtain ⟨name, value⟩ := agree
  by_cases credential : Credential v.name
  · have hidden := (sensitive_iff v.name).mpr credential
    unfold shownValue
    rw [← name, if_pos hidden, if_pos hidden]
  · rw [shownValue_of_not_credential credential,
      shownValue_of_not_credential (name ▸ credential), value credential]

/-- The rendering depends on the names and on the values that are shown. -/
theorem envToJson_congr {vars others : List EnvVar}
    (agree : List.Forall₂ AgreeOnShown vars others) : envToJson vars = envToJson others := by
  rw [envToJson_eq, envToJson_eq]
  congr 1
  generalize ([] : List (Bytes × Json.Value)) = o
  induction agree generalizing o with
  | nil => rfl
  | cons agreeHere _ ih =>
      rw [List.foldl_cons, List.foldl_cons, agreeHere.1, agreeHere.shownValue_eq, ih]

/-- The last variable of a name is the one that is reported. -/
theorem find_envToJson (before : List EnvVar) {after : List EnvVar} {v : EnvVar}
    (last : ∀ w ∈ after, w.name ≠ v.name) :
    ∃ o, envToJson (before ++ v :: after) = .obj o ∧
      Assoc.find v.name o = some (shownValue v) := by
  refine ⟨_, envToJson_eq _, ?_⟩
  rw [List.foldl_append, List.foldl_cons,
    Assoc.find_foldl_assign_of_forall_ne EnvVar.name shownValue last, Assoc.find_assign_self]

/-! ## The response -/

section

variable {σ : Type} (backend : Backend σ) (env : Surroundings) (durationMs : Int)
  (req : CoreRequest) (snapshot : Snapshot) (old : Option Snapshot) (world : σ)

theorem handle_envGet (method : req.method = ascii "env.get") {vars : List EnvVar}
    (read : (backend.apply .envGetAll world).1 = .ok vars) :
    (handle backend env durationMs req snapshot old world).1 =
      { ok := true, result := envToJson vars,
        metrics := Json.Object.set [] "duration_ms" (number durationMs) } := by
  have found : dispatch req.method = some envGet := by
    rw [method]
    exact dispatch_of_mem (by simp [dispatchTable])
  have body : (handleBody backend env req snapshot old world).1 =
      respondOrCatch req.id ((backend.apply .envGetAll world).1.bind (envGet.respond env req ())) :=
    congrArg Prod.fst (handleBody_of_ok found (rfl : envGet.args req old = .ok ()) rfl)
  unfold handle
  dsimp only
  rw [body, read]
  rfl

end

/-- The response to `env.get` does not depend on the value of a credential, and has every
other variable with the value of its last occurrence. -/
theorem envGet_redacts {σ τ : Type} (left : Backend σ) (right : Backend τ) (env : Surroundings)
    (durationMs : Int) (req : CoreRequest) (snapshot : Snapshot) (old : Option Snapshot)
    (leftWorld : σ) (rightWorld : τ) (method : req.method = ascii "env.get")
    {vars others : List EnvVar} (leftRead : (left.apply .envGetAll leftWorld).1 = .ok vars)
    (rightRead : (right.apply .envGetAll rightWorld).1 = .ok others)
    (agree : List.Forall₂ AgreeOnShown vars others) :
    (handle left env durationMs req snapshot old leftWorld).1 =
        (handle right env durationMs req snapshot old rightWorld).1 ∧
      ∀ before v after, vars = before ++ v :: after → ¬ Credential v.name →
        (∀ w ∈ after, w.name ≠ v.name) →
        ∃ o, (handle left env durationMs req snapshot old leftWorld).1.result = .obj o ∧
          Assoc.find v.name o = some (.str v.value) := by
  rw [handle_envGet left env durationMs req snapshot old leftWorld method leftRead,
    handle_envGet right env durationMs req snapshot old rightWorld method rightRead]
  refine ⟨by rw [envToJson_congr agree], ?_⟩
  rintro before v after rfl plain last
  obtain ⟨o, rendered, reported⟩ := find_envToJson before last
  exact ⟨o, rendered, by rw [reported, shownValue_of_not_credential plain]⟩

/-- A fake backend with an environment in which a variable was set again, and a credential
has a name in lower case. -/
def backendWithToken (token : Bytes) : Backend Fake.FakeState where
  apply op world :=
    match op with
    | .envGetAll =>
        (.ok [⟨ascii "PATH", ascii "C:"⟩, ⟨ascii "api_token", token⟩, ⟨ascii "PATH", ascii "D:"⟩],
          world)
    | other => Fake.fakeBackend.apply other world

def envGetOnly : CoreRequest :=
  { id := ascii "1", method := ascii "env.get", params := [] }

theorem envGet_redacts_token :
    (handle (backendWithToken (ascii "a")) ⟨false, [], 0⟩ 0 envGetOnly {} none {}).1 =
        (handle (backendWithToken (ascii "b")) ⟨false, [], 0⟩ 0 envGetOnly {} none {}).1 ∧
      ∃ o, (handle (backendWithToken (ascii "a")) ⟨false, [], 0⟩ 0 envGetOnly {} none {}).1.result =
          .obj o ∧
        Assoc.find (ascii "PATH") o = some (.str (ascii "D:")) := by
  have hidden : Credential (ascii "api_token") := (sensitive_iff _).mp (by decide +kernel)
  have plain : ¬ Credential (ascii "PATH") := by
    rw [← sensitive_iff]
    decide +kernel
  have redacted := envGet_redacts (backendWithToken (ascii "a")) (backendWithToken (ascii "b"))
    ⟨false, [], 0⟩ 0 envGetOnly {} none {} {} rfl rfl rfl
    (.cons ⟨rfl, fun _ => rfl⟩ (.cons ⟨rfl, absurd hidden⟩ (.cons ⟨rfl, fun _ => rfl⟩ .nil)))
  exact ⟨redacted.1, redacted.2 [_, _] _ [] rfl plain (by simp)⟩

end WinInspect
