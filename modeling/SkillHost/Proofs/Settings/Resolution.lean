import SkillHost.Proofs.Settings.Leaves
import SkillHost.Settings.Resolver

/-! What a resolution of credentials comes to. It is a function of the first values that are not
empty among the leaves of its location: with one for every required key it succeeds, else it reports
the required keys without one. -/
namespace SkillHost.Resolver

def requiredOpenAi : List CredentialKey := [.openAiApiKey]

def requiredAzure (deployment : Bool) : List CredentialKey :=
  (if deployment then [.azureDeploymentName] else []) ++ [.azureApiKey, .azureEndpoint]

section
variable (value : CredentialKey → Option Text)

def openAi? : Option OpenAiCredentials := do
  return ⟨← value .openAiApiKey, value .openAiOrgId⟩

/-- A deployment name that is not required may be missing. -/
def deploymentName? (deployment : Bool) : Option Text :=
  if deployment then value .azureDeploymentName
  else some ((value .azureDeploymentName).getD [])

def azure? (deployment : Bool) : Option AzureCredentials := do
  return ⟨← deploymentName? value deployment, ← value .azureApiKey, ← value .azureEndpoint⟩

def gaps (keys : List CredentialKey) : List CredentialKey :=
  keys.filter fun key => (value key).isNone

theorem gaps_append (keys more : List CredentialKey) :
    gaps value (keys ++ more) = gaps value keys ++ gaps value more :=
  List.filter_append ..

theorem openAi?_eq : openAi? value =
    if (gaps value requiredOpenAi).isEmpty then
      some ⟨(value .openAiApiKey).getD [], value .openAiOrgId⟩
    else none := by
  cases h : value .openAiApiKey <;> simp [openAi?, gaps, requiredOpenAi, h]

theorem azure?_eq (deployment : Bool) : azure? value deployment =
    if (gaps value (requiredAzure deployment)).isEmpty then
      some ⟨(value .azureDeploymentName).getD [], (value .azureApiKey).getD [],
        (value .azureEndpoint).getD []⟩
    else none := by
  cases name : value .azureDeploymentName <;> cases apiKey : value .azureApiKey <;>
    cases endpoint : value .azureEndpoint <;> cases deployment <;>
    simp [azure?, deploymentName?, gaps, requiredAzure, name, apiKey, endpoint]

end

def reported : ValidationMode → List CredentialKey → List CredentialKey
  | .failFast, missing => missing.take 1
  | .accumulate, missing => missing

def verdict {α : Type} (mode : ValidationMode) (location : Text) (missing : List CredentialKey) :
    Option α → Except SettingsError α
  | some credentials => .ok credentials
  | none => .error (.missing (reported mode missing) location)

def held (env : Environment) (source : Source) (key : CredentialKey) : Option Text :=
  source.filled? env key.settingName

theorem get_getD (env : Environment) (source : Source) (key : CredentialKey) :
    (source.get env key.settingName).getD [] = (held env source key).getD [] := by
  unfold held Source.filled?
  rcases source.get env key.settingName with _ | _ | ⟨c, value⟩ <;> rfl

section
variable {α : Type} {env : Environment} {mode : ValidationMode} {source : Source}
  {key : CredentialKey} {required : List CredentialKey} {credentials : α} {p : Program}

theorem outcome_require (before after : List CredentialKey)
    (all : required = before ++ key :: after)
    (missed : mode = .failFast → gaps (held env source) before = [])
    {f : Option Text × List CredentialKey → Operation α}
    (rest : ∀ p', (mode = .failFast → gaps (held env source) (before ++ [key]) = []) →
      (f (held env source key, gaps (held env source) (before ++ [key])) p').outcome =
        verdict mode source.describe (gaps (held env source) required)
          (if (gaps (held env source) required).isEmpty then some credentials else none)) :
    ((require env mode source key (gaps (held env source) before) >>= f) p).outcome =
      verdict mode source.describe (gaps (held env source) required)
        (if (gaps (held env source) required).isEmpty then some credentials else none) := by
  unfold require
  rw [Source.getNonEmpty_eq_filled?]
  cases h : source.filled? env key.settingName with
  | some value =>
    have none : gaps (held env source) [key] = [] := by simp [gaps, held, h]
    have step := rest p (by rw [gaps_append, none, List.append_nil]; exact missed)
    rw [gaps_append, none, List.append_nil, show held env source key = some value from h] at step
    exact step
  | none =>
    have one : gaps (held env source) [key] = [key] := by simp [gaps, held, h]
    rw [bind_assoc, Operation.outcome_log_bind]
    cases mode with
    | failFast =>
      -- None was missed before, so of all the gaps this key is the first.
      have first : gaps (held env source) required = key :: gaps (held env source) after := by
        rw [all, ← List.singleton_append, gaps_append, gaps_append, missed rfl, one]
        rfl
      rw [first]
      rfl
    | accumulate =>
      have step := rest (p.write [⟨.warn, logModule,
        key.settingName ++ " missing from ".toList ++ source.describe⟩]) nofun
      rw [gaps_append, one, show held env source key = none from h] at step
      exact step

theorem outcome_finish (missed : mode = .failFast → gaps (held env source) required = [])
    (level : LogLevel) (module message : Text) :
    ((do
      finish source (gaps (held env source) required)
      Operation.log level module message
      return credentials) p).outcome =
      verdict mode source.describe (gaps (held env source) required)
        (if (gaps (held env source) required).isEmpty then some credentials else none) := by
  rw [finish]
  split
  · rw [pure_bind]
    rfl
  · rename_i gap
    cases mode with
    | failFast => exact absurd (by rw [missed rfl]; rfl) gap
    | accumulate => rw [Operation.fail_bind, Operation.outcome_fail]; rfl

end

section
variable {location : Location} {p : Program} {source : Source}
  (opens : (location.openSource p).outcome = .ok source) (mode : ValidationMode)
include opens

theorem outcome_resolveOpenAi :
    (resolveOpenAi ⟨location, mode⟩ p).outcome =
      verdict mode source.describe (gaps (held p.system.environment source) requiredOpenAi)
        (openAi? (held p.system.environment source)) := by
  rw [resolveOpenAi, Operation.environment_bind, Operation.outcome_bind opens, openAi?_eq]
  simp only [Source.getNonEmpty_eq_filled?]
  exact outcome_require [] [] rfl (fun _ => rfl) fun _ missed => outcome_finish missed ..

theorem outcome_resolveAzure (deployment : Bool) :
    (resolveAzure ⟨location, mode⟩ deployment p).outcome =
      verdict mode source.describe
        (gaps (held p.system.environment source) (requiredAzure deployment))
        (azure? (held p.system.environment source) deployment) := by
  rw [resolveAzure, Operation.environment_bind, Operation.outcome_bind opens, azure?_eq]
  cases deployment with
  | true =>
    refine outcome_require [] [.azureApiKey, .azureEndpoint] rfl (fun _ => rfl) fun _ missed => ?_
    refine outcome_require [.azureDeploymentName] [.azureEndpoint] rfl missed fun _ missed => ?_
    refine outcome_require [.azureDeploymentName, .azureApiKey] [] rfl missed fun _ missed => ?_
    exact outcome_finish missed ..
  | false =>
    rw [← get_getD]
    refine outcome_require [] [.azureEndpoint] rfl (fun _ => rfl) fun _ missed => ?_
    refine outcome_require [.azureApiKey] [] rfl missed fun _ missed => ?_
    exact outcome_finish missed ..

end

def valueIn (env : Environment) (sources : List Source) (key : CredentialKey) : Option Text :=
  Source.firstValue env sources key.settingName

theorem ne_nil_of_openAi? {env : Environment} {sources : List Source} {c : OpenAiCredentials}
    (h : openAi? (valueIn env sources) = some c) : c.apiKey ≠ [] := by
  obtain ⟨apiKey, found, made⟩ := Option.bind_eq_some_iff.mp h
  obtain rfl := Option.some.inj made
  exact Source.ne_nil_of_firstValue found

theorem ne_nil_of_azure? {env : Environment} {sources : List Source} {deployment : Bool}
    {c : AzureCredentials} (h : azure? (valueIn env sources) deployment = some c) :
    c.apiKey ≠ [] ∧ c.endpoint ≠ [] ∧ (deployment = true → c.deploymentName ≠ []) := by
  obtain ⟨name, named, rest⟩ := Option.bind_eq_some_iff.mp h
  obtain ⟨apiKey, found, rest⟩ := Option.bind_eq_some_iff.mp rest
  obtain ⟨endpoint, found', made⟩ := Option.bind_eq_some_iff.mp rest
  obtain rfl := Option.some.inj made
  refine ⟨Source.ne_nil_of_firstValue found, Source.ne_nil_of_firstValue found', ?_⟩
  rintro rfl
  exact Source.ne_nil_of_firstValue named

theorem verdict_eq_ok_iff {α : Type} {mode : ValidationMode} {location : Text}
    {missing : List CredentialKey} {found : Option α} {credentials : α} :
    verdict mode location missing found = .ok credentials ↔ found = some credentials := by
  cases found <;> simp [verdict]

/-- What the resolutions at a location come to, `value` being what its leaves hold. -/
structure Resolves (location : Location) (p : Program) (place : Text)
    (value : CredentialKey → Option Text) : Prop where
  openAi : ∀ mode, (resolveOpenAi ⟨location, mode⟩ p).outcome =
    verdict mode place (gaps value requiredOpenAi) (openAi? value)
  azure : ∀ mode deployment, (resolveAzure ⟨location, mode⟩ deployment p).outcome =
    verdict mode place (gaps value (requiredAzure deployment)) (azure? value deployment)
  openAiComplete : (openAi? value).isSome ↔ gaps value requiredOpenAi = []
  azureComplete : ∀ deployment,
    (azure? value deployment).isSome ↔ gaps value (requiredAzure deployment) = []
  /-- Required values are not empty, and a mode changes none of them. -/
  openAiFilled : ∀ mode c, (resolveOpenAi ⟨location, mode⟩ p).outcome = .ok c →
    c.apiKey ≠ [] ∧ ∀ other, (resolveOpenAi ⟨location, other⟩ p).outcome = .ok c
  azureFilled : ∀ mode deployment c, (resolveAzure ⟨location, mode⟩ deployment p).outcome = .ok c →
    c.apiKey ≠ [] ∧ c.endpoint ≠ [] ∧ (deployment = true → c.deploymentName ≠ []) ∧
      ∀ other, (resolveAzure ⟨location, other⟩ deployment p).outcome = .ok c

/-- At a location that can be opened, credentials are made of what its leaves hold. -/
theorem resolves_of_openSource {location : Location} {p : Program} {source : Source}
    (opens : (location.openSource p).outcome = .ok source) :
    ∃ sources, (Location.openSources location.leaves p).outcome = .ok sources ∧
      Resolves location p source.describe (valueIn p.system.environment sources) := by
  obtain ⟨sources, opened, same⟩ := Location.exists_leaves opens
  have values : held p.system.environment source = valueIn p.system.environment sources :=
    funext fun key => same _ _
  have openAi := outcome_resolveOpenAi opens
  have azure := outcome_resolveAzure opens
  rw [values] at openAi azure
  refine ⟨sources, opened, openAi, azure, ?_, fun deployment => ?_, fun mode c ends => ?_,
    fun mode deployment c ends => ?_⟩
  · rw [openAi?_eq]
    split <;> simp_all
  · rw [azure?_eq]
    split <;> simp_all
  · have found := verdict_eq_ok_iff.mp (openAi mode ▸ ends)
    exact ⟨ne_nil_of_openAi? found, fun other => by rw [openAi, found]; rfl⟩
  · have found := verdict_eq_ok_iff.mp (azure mode deployment ▸ ends)
    obtain ⟨apiKey, endpoint, name⟩ := ne_nil_of_azure? found
    exact ⟨apiKey, endpoint, name, fun other => by rw [azure, found]; rfl⟩

def sampleHost : Program where
  system :=
    { environment := Environment.empty.set "AZURE_OPENAI_API_KEY".toList (.text "k".toList)
      files := Files.empty.put [Text.toBytes ".env".toList]
        (.text "OPENAI_API_KEY=a\nAZURE_OPENAI_API_KEY=\n".toList)
      directory := [] }
  log := .unconfigured
  time := .epoch

def sampleLocation : Location :=
  .chain [.dotenv defaultFile, .chain [],
    .chain [.source (.memory (Table.empty.insert "OPENAI_ORG_ID".toList [])), .environment]]

theorem resolves_sampleHost :
    ∃ source, (sampleLocation.openSource sampleHost).outcome = .ok source ∧
      ∃ sources, (Location.openSources sampleLocation.leaves sampleHost).outcome = .ok sources ∧
        Resolves sampleLocation sampleHost source.describe
          (valueIn sampleHost.system.environment sources) :=
  ⟨_, rfl, resolves_of_openSource rfl⟩

end SkillHost.Resolver
