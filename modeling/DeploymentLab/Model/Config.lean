import DeploymentLab.Model.Policy

/-!
# The configuration

`Settings` as the application accepts them: every field inside its own bounds, and the checks
that `validate_worker_safety` makes of the fields together. Numbers of seconds are durations.
-/

namespace DeploymentLab

inductive Environment
  | development | test | demo | sandbox | staging | production
  deriving DecidableEq, Repr

/-- `^[a-z0-9][a-z0-9_-]{0,63}$` -/
def deploymentScopePattern (s : String) : Bool :=
  match s.toList with
  | [] => false
  | c :: cs => (c.isLower || c.isDigit) && decide (cs.length ≤ 63) &&
      cs.all fun c => c.isLower || c.isDigit || c == '_' || c == '-'

/-- `min_length=1, max_length=255` -/
def identifierLength (s : String) : Bool := decide (1 ≤ s.length ∧ s.length ≤ 255)

/-- The characters that `str.strip` takes away. -/
def isSpace (c : Char) : Bool :=
  decide (9 ≤ c.toNat ∧ c.toNat ≤ 13 ∨ 28 ≤ c.toNat ∧ c.toNat ≤ 32 ∨
    8192 ≤ c.toNat ∧ c.toNat ≤ 8202) ||
    [133, 160, 5760, 8232, 8233, 8239, 8287, 12288].contains c.toNat

/-- `value is None or not value.strip()` -/
def blank (value : Option String) : Bool := value.all fun s => s.toList.all isSpace

/-- The places that a secret may come from: the environment, or the path of a file. -/
structure Credential where
  inline : Option String := none
  file : Option String := none
  deriving DecidableEq

/-- `Settings` with each field inside its own bounds. -/
structure Configuration extends Settings where
  environment : Environment := .development
  workerLeaseDuration : Duration := 30000000
  workerHeartbeatInterval : Duration := 10000000
  workerRetryBase : Duration := 2000000
  workerRetryCap : Duration := 300000000
  enableDiagnosticHandler : Bool := false
  enableDeploymentContextSync : Bool := false
  serviceCatalogBaseUrl : String := "http://127.0.0.1:8090/catalog"
  jiraBaseUrl : String := "http://127.0.0.1:8090/jira"
  githubBaseUrl : String := "http://127.0.0.1:8090/github"
  githubExpectedLogin : Option String := none
  serviceCatalogCredential : Credential := {}
  jiraCredential : Credential := {}
  githubCredential : Credential := {}
  slackBaseUrl : String := "http://127.0.0.1:8090/slack"
  slackBotCredential : Credential := {}
  slackExpectedUserId : Option String := none
  integrationProviderWriteTimeout : Duration := 8000000
  workerLeaseDuration_range :
    1000000 ≤ workerLeaseDuration ∧ workerLeaseDuration ≤ 3600000000 := by decide
  workerHeartbeatInterval_range :
    100000 ≤ workerHeartbeatInterval ∧ workerHeartbeatInterval ≤ 1200000000 := by decide
  workerRetryBase_range : 10000 ≤ workerRetryBase ∧ workerRetryBase ≤ 3600000000 := by decide
  workerRetryCap_range : 10000 ≤ workerRetryCap ∧ workerRetryCap ≤ 86400000000 := by decide
  deploymentScopeId_pattern : deploymentScopeId.all deploymentScopePattern = true
  deploymentMinimumPolicyVersion_pos : 1 ≤ deploymentMinimumPolicyVersion
  slackExpectedTeamId_length : slackExpectedTeamId.all identifierLength = true
  slackExpectedUserId_length : slackExpectedUserId.all identifierLength = true
  deploymentAllowedSlackChannels_pattern :
    deploymentAllowedSlackChannels.all slackChannelPattern = true
  slackMaxTextChars_range : 100 ≤ slackMaxTextChars ∧ slackMaxTextChars ≤ 4000
  slackWriteTimeout_le : slackWriteTimeout ≤ 60000000
  integrationProviderWriteTimeout_range : 0 < integrationProviderWriteTimeout ∧
    integrationProviderWriteTimeout ≤ 60000000 := by decide
  integrationSettlementDelay_range :
    100000 ≤ integrationSettlementDelay ∧ integrationSettlementDelay ≤ 300000000

namespace SplitResult

variable (parsed : SplitResult)

/-- The part of the location in front of its last `@`. -/
def userinfo : List Char :=
  if parsed.netloc.toList.contains '@' then
    ((parsed.netloc.toList.reverse.dropWhile (· ≠ '@')).drop 1).reverse
  else []

/-- `parsed.username or parsed.password` -/
def hasCredentials : Bool :=
  let (username, _, password) := partitionAt ':' parsed.userinfo
  !username.isEmpty || !password.isEmpty

end SplitResult

namespace Configuration

variable [Runtime] (c : Configuration)

def validateIntegrationBaseUrl (value : String) : Except Exn Unit := do
  let parsed ← urlsplit value
  if (parsed.scheme ≠ "http" ∧ parsed.scheme ≠ "https") ∨ parsed.hostname = none then
    throw (.valueError "integration base URLs must be absolute HTTP(S) URLs")
  if parsed.hasCredentials ∨ parsed.query ≠ "" ∨ parsed.fragment ≠ "" then
    throw (.valueError
      "integration base URLs must not contain credentials, queries, or fragments")
  if (c.environment = .staging ∨ c.environment = .production) ∧ parsed.scheme ≠ "https" then
    throw (.valueError "staging and production integration base URLs must use HTTPS")

/-- The environments in which integrations may be enabled. -/
def integrationEnvironment : Bool :=
  c.environment = .development ∨ c.environment = .test ∨ c.environment = .demo ∨
    c.environment = .sandbox

def validateDeploymentContextSync : Except Exn Unit := do
  if !c.integrationEnvironment then
    throw (.valueError ("deployment_context_sync cannot be enabled in staging or production " ++
      "without authentication and tenancy"))
  if c.deploymentScopeId = none then
    throw (.valueError
      "deployment_scope_id is required when deployment_context_sync is enabled")
  if c.deploymentAllowedServiceIds = [] then
    throw (.valueError "at least one deployment service must be allowlisted")
  if c.deploymentAllowedGithubRepositories = [] then
    throw (.valueError "at least one GitHub repository must be allowlisted")
  if c.deploymentAllowedJiraProjects = [] then
    throw (.valueError "at least one Jira project must be allowlisted")
  if blank c.githubExpectedLogin then
    throw (.valueError
      "github_expected_login is required when deployment_context_sync is enabled")
  c.validateIntegrationBaseUrl c.serviceCatalogBaseUrl
  c.validateIntegrationBaseUrl c.jiraBaseUrl
  c.validateIntegrationBaseUrl c.githubBaseUrl
  if c.workerLeaseDuration ≤ c.integrationProviderWriteTimeout then
    throw (.valueError "provider write timeout must be shorter than the worker lease")

def validateSlackNotification : Except Exn Unit := do
  if !c.integrationEnvironment then
    throw (.valueError ("Slack notifications cannot be enabled in staging or production " ++
      "without authentication and tenancy"))
  if !c.enableDeploymentContextSync then
    throw (.valueError "Slack notifications require deployment_context_sync")
  if blank c.slackExpectedTeamId then
    throw (.valueError "slack_expected_team_id is required when Slack is enabled")
  if blank c.slackExpectedUserId then
    throw (.valueError "slack_expected_user_id is required when Slack is enabled")
  if c.deploymentAllowedSlackChannels = [] then
    throw (.valueError "at least one Slack channel must be allowlisted")
  if c.slackBotCredential.inline = none ∧ c.slackBotCredential.file = none then
    throw (.valueError "Slack requires one bot-token credential source")
  if c.slackBotCredential.file.any fun path => path.toList.head? != some '/' then
    throw (.valueError "Slack bot-token file path must be absolute")
  c.validateIntegrationBaseUrl c.slackBaseUrl
  if c.workerLeaseDuration ≤ c.slackWriteTimeout then
    throw (.valueError "Slack write timeout must be shorter than the worker lease")

def validateCredential (name : String) (credential : Credential) : Except Exn Unit :=
  if credential.inline.isSome ∧ credential.file.isSome then
    .error (.valueError (name ++ " credential must use either an environment value or a file"))
  else .ok ()

def validateWorkerSafety : Except Exn Unit := do
  if c.workerLeaseDuration < c.workerHeartbeatInterval * 3 then
    throw (.valueError
      "worker heartbeat interval must be at most one third of the lease duration")
  if c.workerRetryCap < c.workerRetryBase then
    throw (.valueError "worker retry base must not exceed the retry cap")
  if c.enableDiagnosticHandler ∧ c.environment ≠ .development ∧ c.environment ≠ .test then
    throw (.valueError "diagnostic handler may only be enabled in development or test")
  if c.enableDeploymentContextSync then c.validateDeploymentContextSync
  if c.enableSlackNotification then c.validateSlackNotification
  validateCredential "service catalog" c.serviceCatalogCredential
  validateCredential "Jira" c.jiraCredential
  validateCredential "GitHub" c.githubCredential
  validateCredential "Slack" c.slackBotCredential

end Configuration

/-- `Settings` once they have passed every validator. -/
structure AcceptedSettings [Runtime] extends Configuration where
  accepted : toConfiguration.validateWorkerSafety = .ok ()

/-! ## What the contracts of the providers accept -/

/-- `^[0-9a-fA-F]{7,64}$` -/
def headShaPattern (s : String) : Bool :=
  decide (7 ≤ s.length ∧ s.length ≤ 64) && s.toList.all fun c =>
    c.isDigit || decide ('a' ≤ c ∧ c ≤ 'f') || decide ('A' ≤ c ∧ c ≤ 'F')

/-- The `Field`s of `GitHubRepositoryContext`. -/
structure GitHubRepositoryContext.Valid (github : GitHubRepositoryContext) : Prop where
  repositoryId : 1 ≤ github.repositoryId
  defaultBranchHeadSha : headShaPattern github.defaultBranchHeadSha = true
  issueNumber : 1 ≤ github.issueNumber
  issueTitle : github.issueTitle.length ≤ 500

/-- The `Field`s of `ServiceCatalogRecord`. -/
structure ServiceCatalogRecord.Valid (service : ServiceCatalogRecord) : Prop where
  deploymentPolicyVersion : 1 ≤ service.deploymentPolicyVersion

end DeploymentLab
