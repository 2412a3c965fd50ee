import SkillHost.Text.Basic

/-! The settings keys from which credentials are read. -/
namespace SkillHost

inductive CredentialKey where
  | openAiApiKey
  | openAiOrgId
  | azureDeploymentName
  | azureApiKey
  | azureEndpoint
  deriving DecidableEq

namespace CredentialKey

def all : List CredentialKey :=
  [openAiApiKey, openAiOrgId, azureDeploymentName, azureApiKey, azureEndpoint]

def settingName : CredentialKey → Text
  | openAiApiKey => "OPENAI_API_KEY".toList
  | openAiOrgId => "OPENAI_ORG_ID".toList
  | azureDeploymentName => "AZURE_OPENAI_DEPLOYMENT_NAME".toList
  | azureApiKey => "AZURE_OPENAI_API_KEY".toList
  | azureEndpoint => "AZURE_OPENAI_ENDPOINT".toList

def label : CredentialKey → Text
  | openAiApiKey => "OpenAI API key".toList
  | openAiOrgId => "OpenAI organization ID".toList
  | azureDeploymentName => "Azure OpenAI deployment name".toList
  | azureApiKey => "Azure OpenAI API key".toList
  | azureEndpoint => "Azure OpenAI endpoint".toList

def tag : CredentialKey → Text
  | openAiApiKey => "OpenAiApiKey".toList
  | openAiOrgId => "OpenAiOrgId".toList
  | azureDeploymentName => "AzureDeploymentName".toList
  | azureApiKey => "AzureApiKey".toList
  | azureEndpoint => "AzureEndpoint".toList

def ofTag? (t : Text) : Option CredentialKey := all.find? (·.tag = t)

end CredentialKey

end SkillHost
