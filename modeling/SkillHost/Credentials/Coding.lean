import SkillHost.Credentials.Basic
import SkillHost.Credentials.Key
import SkillHost.Json.Record

/-! The JSON forms of credentials and of their keys. -/
namespace SkillHost

namespace OpenAiCredentials

def toJson (c : OpenAiCredentials) : Json :=
  .object (("api_key".toList, .string c.apiKey) :: match c.orgId with
    | some orgId => [("org_id".toList, .string orgId)]
    | none => [])

def ofJson? (j : Json) : Option OpenAiCredentials :=
  match j.fields? ["api_key".toList, "org_id".toList] with
  | some [apiKey, orgId] => do return ⟨← Json.text? apiKey, ← Json.optionalText? orgId⟩
  | _ => none

def ofText? (t : Text) : Option OpenAiCredentials := (Json.parse? t).bind ofJson?

end OpenAiCredentials

namespace AzureCredentials

def toJson (c : AzureCredentials) : Json :=
  .object [("deployment_name".toList, .string c.deploymentName),
    ("api_key".toList, .string c.apiKey), ("endpoint".toList, .string c.endpoint)]

def ofJson? (j : Json) : Option AzureCredentials :=
  match j.fields? ["deployment_name".toList, "api_key".toList, "endpoint".toList] with
  | some [deploymentName, apiKey, endpoint] => do
    return ⟨← Json.text? deploymentName, ← Json.text? apiKey, ← Json.text? endpoint⟩
  | _ => none

def ofText? (t : Text) : Option AzureCredentials := (Json.parse? t).bind ofJson?

end AzureCredentials

namespace CredentialKey

def toJson (k : CredentialKey) : Json := .string k.tag

/-- A key is its name, or an object with that name as its only member and null as its value. -/
def ofJson? : Json → Option CredentialKey
  | .string t => ofTag? t
  | .object [(name, .null)] => ofTag? name
  | _ => none

def ofText? (t : Text) : Option CredentialKey := (Json.parse? t).bind ofJson?

end CredentialKey

end SkillHost
