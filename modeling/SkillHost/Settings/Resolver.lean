import SkillHost.Credentials.Basic
import SkillHost.Settings.Location

/-! Resolution of credentials from the settings at a location. Required keys are asked for in a
fixed order; the mode tells whether the first missing one ends it or all are reported. -/
namespace SkillHost

inductive ValidationMode where
  | failFast
  | accumulate
  deriving DecidableEq

structure Resolver where
  location : Location
  mode : ValidationMode

namespace Resolver

def defaultFile : Path := .ofText ".env".toList

def ofLocation (location : Location) : Resolver := ⟨location, .failFast⟩

def dotenv (path : Path) : Resolver := ofLocation (.dotenv path)

def currentDirectory : Resolver := dotenv defaultFile

def inDirectory (directory : Path) : Resolver := dotenv (directory.join defaultFile)

def user (s : System) : Resolver :=
  inDirectory (s.configDirectory.join (.ofText "semkit".toList))

def environment : Resolver := ofLocation .environment

def ofSource (source : Source) : Resolver := ofLocation (.source source)

def withMode (r : Resolver) (mode : ValidationMode) : Resolver := { r with mode }

def logModule : Text := "semkit_core::resolver::settings_resolver".toList

/-- Asks for a required key. `missing` are the keys missed before; a key that is missed now ends
the resolution or joins them. -/
def require (env : Environment) (mode : ValidationMode) (source : Source) (key : CredentialKey)
    (missing : List CredentialKey) : Operation (Option Text × List CredentialKey) :=
  match source.getNonEmpty env key.settingName with
  | some value => return (some value, missing)
  | none => do
    Operation.log .warn logModule (key.settingName ++ " missing from ".toList ++ source.describe)
    match mode with
    | .failFast => .fail (.missing [key] source.describe)
    | .accumulate => return (none, missing ++ [key])

def finish (source : Source) (missing : List CredentialKey) : Operation Unit :=
  if missing.isEmpty then return ()
  else .fail (.missing missing source.describe)

def resolveOpenAi (r : Resolver) : Operation OpenAiCredentials := do
  let env ← Operation.environment
  let source ← r.location.openSource
  let (apiKey, missing) ← require env r.mode source .openAiApiKey []
  let orgId := source.getNonEmpty env CredentialKey.openAiOrgId.settingName
  finish source missing
  Operation.log .debug logModule
    ("resolved OpenAI credentials from ".toList ++ source.describe ++ " (org id ".toList ++
      (if orgId.isSome then "set)".toList else "unset)".toList))
  return ⟨apiKey.getD [], orgId⟩

/-- The deployment name is required only if `deployment` is set. -/
def resolveAzure (r : Resolver) (deployment : Bool) : Operation AzureCredentials := do
  let env ← Operation.environment
  let source ← r.location.openSource
  let (deploymentName, missing) ←
    if deployment then require env r.mode source .azureDeploymentName []
    else pure (source.get env CredentialKey.azureDeploymentName.settingName, [])
  let (apiKey, missing) ← require env r.mode source .azureApiKey missing
  let (endpoint, missing) ← require env r.mode source .azureEndpoint missing
  finish source missing
  Operation.log .debug logModule
    ("resolved Azure OpenAI credentials from ".toList ++ source.describe ++
      " (deployment required: ".toList ++ Text.shownBool deployment ++ [')'])
  return ⟨deploymentName.getD [], apiKey.getD [], endpoint.getD []⟩

def shownMode : ValidationMode → Text
  | .failFast => "FailFast".toList
  | .accumulate => "Accumulate".toList

def shown (r : Resolver) : Text :=
  Text.record "SettingsResolver".toList
    [("location".toList, r.location.shown), ("mode".toList, shownMode r.mode)]

end Resolver

end SkillHost
