import SkillHost.Text.Shown

/-! The credentials of the two providers. When they are shown, an API key is not. -/
namespace SkillHost

structure OpenAiCredentials where
  apiKey : Text
  orgId : Option Text
  deriving DecidableEq

/-- The deployment name is empty when none was asked for and none was set. -/
structure AzureCredentials where
  deploymentName : Text
  apiKey : Text
  endpoint : Text
  deriving DecidableEq

def redacted : Text := "<redacted>".toList

def OpenAiCredentials.shown (c : OpenAiCredentials) : Text :=
  Text.record "OpenAICredentials".toList
    [("api_key".toList, Text.quoted redacted), ("org_id".toList, Text.shownOption c.orgId)]

def AzureCredentials.shown (c : AzureCredentials) : Text :=
  Text.record "AzureOpenAICredentials".toList
    [("deployment_name".toList, Text.quoted c.deploymentName),
      ("api_key".toList, Text.quoted redacted),
      ("endpoint".toList, Text.quoted c.endpoint)]

end SkillHost
