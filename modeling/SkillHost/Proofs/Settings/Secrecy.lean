import SkillHost.Proofs.Settings.Alike
import SkillHost.Settings.Resolver

/-! What the debug log and an error tell of the values. Resolutions of settings that differ in values
alone report the same entries and fail alike, so neither tells anything of a value but whether there
is one. -/
namespace SkillHost.Resolver
variable {env env' : Environment} {source source' : Source} {p p' : Program}

theorem matches_require (alike : source.Alike env env' source') (mode : ValidationMode)
    (key : CredentialKey) (missing : List CredentialKey) :
    Matches (fun r r' => r.2 = r'.2) (require env mode source key missing p)
      (require env' mode source' key missing p') := by
  have both := alike.has key
  rw [Source.has, Source.has] at both
  unfold require
  cases found : source.getNonEmpty env key.settingName with
  | some value =>
    cases found' : source'.getNonEmpty env' key.settingName with
    | some value' => exact Matches.pure rfl
    | none => rw [found, found'] at both; cases both
  | none =>
    cases found' : source'.getNonEmpty env' key.settingName with
    | some value' => rw [found, found'] at both; cases both
    | none =>
      rw [alike.describe]
      refine (Matches.log ..).bind fun _ _ _ => ?_
      cases mode with
      | failFast => exact Matches.fail _
      | accumulate => exact Matches.pure rfl

theorem matches_require_bind (alike : source.Alike env env' source') (mode : ValidationMode)
    (key : CredentialKey) (missing : List CredentialKey)
    {α : Type} {f f' : Option Text × List CredentialKey → Operation α}
    (rest : ∀ value value' missing (q q' : Program),
      Matches (fun _ _ => True) (f (value, missing) q) (f' (value', missing) q')) :
    Matches (fun _ _ => True) ((require env mode source key missing >>= f) p)
      ((require env' mode source' key missing >>= f') p') := by
  refine (matches_require alike mode key missing).bind fun r r' same => ?_
  obtain ⟨value, missed⟩ := r
  obtain ⟨value', missed'⟩ := r'
  obtain rfl : missed = missed' := same
  exact rest value value' missed _ _

theorem matches_end (alike : source.Alike env env' source') (missing : List CredentialKey)
    (level : LogLevel) (module : Text) {message message' : Text} (same : message = message')
    {α : Type} (credentials credentials' : α) :
    Matches (fun _ _ => True)
      ((do
        finish source missing
        Operation.log level module message
        return credentials) p)
      ((do
        finish source' missing
        Operation.log level module message'
        return credentials') p') := by
  have finished : Matches (fun _ _ => True) (finish source missing p)
      (finish source' missing p') := by
    rw [finish, finish, alike.describe]
    split
    · exact Matches.pure trivial
    · exact Matches.fail _
  rw [same]
  refine finished.bind fun _ _ _ => ?_
  exact (Matches.log ..).bind fun _ _ _ => Matches.pure trivial

/-- What shows of a resolution besides the credentials it gives: its log entries, and its error if
it fails. -/
structure Indistinct {α : Type} (x x' : Logged α) : Prop where
  entries : x.entries = x'.entries
  error : ∀ e, x.outcome = .error e ↔ x'.outcome = .error e

theorem Indistinct.of_matches {α : Type} {R : α → α → Prop} {x x' : Logged α}
    (h : Matches R x x') : Indistinct x x' := by
  refine ⟨h.entries, fun e => ?_⟩
  have outcome := h.outcome
  generalize x.outcome = o at outcome
  generalize x'.outcome = o' at outcome
  cases outcome with
  | ok related => exact ⟨nofun, nofun⟩
  | error e => exact Iff.rfl

section
variable {location location' : Location} (alike : location.Alike p p' location')
include alike

theorem matches_resolveOpenAi (mode : ValidationMode) :
    Matches (fun _ _ => True) (resolveOpenAi ⟨location, mode⟩ p)
      (resolveOpenAi ⟨location', mode⟩ p') := by
  rw [resolveOpenAi, resolveOpenAi, Operation.environment_bind, Operation.environment_bind]
  refine (Location.matches_openSource alike).bind fun source source' same => ?_
  refine matches_require_bind same mode .openAiApiKey [] fun _ _ missing _ _ => ?_
  have orgId := same.has .openAiOrgId
  rw [Source.has, Source.has] at orgId
  exact matches_end same missing _ _ (by rw [same.describe, orgId]) ..

theorem matches_resolveAzure (mode : ValidationMode) (deployment : Bool) :
    Matches (fun _ _ => True) (resolveAzure ⟨location, mode⟩ deployment p)
      (resolveAzure ⟨location', mode⟩ deployment p') := by
  rw [resolveAzure, resolveAzure, Operation.environment_bind, Operation.environment_bind]
  refine (Location.matches_openSource alike).bind fun source source' same => ?_
  cases deployment with
  | true =>
    refine matches_require_bind same mode .azureDeploymentName [] fun _ _ missing _ _ => ?_
    refine matches_require_bind same mode .azureApiKey missing fun _ _ missing _ _ => ?_
    refine matches_require_bind same mode .azureEndpoint missing fun _ _ missing _ _ => ?_
    exact matches_end same missing _ _ (by rw [same.describe]) ..
  | false =>
    refine matches_require_bind same mode .azureApiKey [] fun _ _ missing _ _ => ?_
    refine matches_require_bind same mode .azureEndpoint missing fun _ _ missing _ _ => ?_
    exact matches_end same missing _ _ (by rw [same.describe]) ..

end

/-- Resolutions of settings that differ in values alone cannot be told apart by the log or by an
error. -/
theorem indistinct_of_alike {location location' : Location}
    (alike : location.Alike p p' location') (mode : ValidationMode) :
    Indistinct (resolveOpenAi ⟨location, mode⟩ p) (resolveOpenAi ⟨location', mode⟩ p') ∧
      ∀ deployment, Indistinct (resolveAzure ⟨location, mode⟩ deployment p)
        (resolveAzure ⟨location', mode⟩ deployment p') :=
  ⟨.of_matches (matches_resolveOpenAi alike mode),
    fun deployment => .of_matches (matches_resolveAzure alike mode deployment)⟩

/-- A host that logs to a file, with a secret in its settings file, where one statement cannot be
read, and another in its environment. -/
def secretHost (secret : Text) : Program where
  system :=
    { environment := Environment.empty.set "OPENAI_API_KEY".toList (.text secret)
      files := (Files.empty.put [Text.toBytes ".env".toList]
        (.text ("AZURE_OPENAI_API_KEY=".toList ++ secret ++ "\nprivate ".toList ++ secret))).put
          [Text.toBytes "log".toList] (.text [])
      directory := [] }
  log := .configured .trace (some [Text.toBytes "log".toList])
  time := .epoch

def secretLocation (secret : Text) : Location :=
  .chain [.source (.memory (Table.empty.insert "OPENAI_ORG_ID".toList secret)),
    .dotenv defaultFile, .environment]

theorem indistinct_secretHost :
    (secretLocation "one".toList).Alike (secretHost "cat".toList) (secretHost "horse".toList)
      (secretLocation "three".toList) ∧
    (Indistinct
      (resolveOpenAi ⟨secretLocation "one".toList, .accumulate⟩ (secretHost "cat".toList))
      (resolveOpenAi ⟨secretLocation "three".toList, .accumulate⟩ (secretHost "horse".toList)) ∧
    ∀ deployment, Indistinct
      (resolveAzure ⟨secretLocation "one".toList, .accumulate⟩ deployment
        (secretHost "cat".toList))
      (resolveAzure ⟨secretLocation "three".toList, .accumulate⟩ deployment
        (secretHost "horse".toList))) := by
  have given : Source.Alike (secretHost "cat".toList).system.environment
      (secretHost "horse".toList).system.environment
      (.memory (Table.empty.insert "OPENAI_ORG_ID".toList "one".toList))
      (.memory (Table.empty.insert "OPENAI_ORG_ID".toList "three".toList)) :=
    ⟨rfl, fun key => by cases key <;> rfl⟩
  have alike : (secretLocation "one".toList).Alike (secretHost "cat".toList)
      (secretHost "horse".toList) (secretLocation "three".toList) := by
    refine .chain (.cons (.source given) ?_)
    refine .cons_of_apart (.dotenv (.contents ⟨rfl, rfl, fun key => ?_⟩))
      (.cons (.environment fun key => ?_) .nil) nofun nofun
    all_goals cases key <;> rfl
  exact ⟨alike, indistinct_of_alike alike .accumulate⟩

end SkillHost.Resolver
