import DeploymentLab.Model.Slack

/-!
# The task input and the policy

The input of `deployment_context_sync` as its contract accepts it, and the two evaluations that
decide, before and after the service catalog is read, whether the workflow may go on.
-/

namespace DeploymentLab

/-- How the contract reads an integer or a Boolean from a value of another JSON type, which is
its library's affair. A value of the very type is read as it is. -/
class LaxCoercion where
  int : JsonValue → Option ℤ
  bool : JsonValue → Option Bool
  int_int : ∀ n, int (.int n) = some n
  bool_bool : ∀ b, bool (.bool b) = some b

/-- `^[A-Z][A-Z0-9_]{0,19}-[1-9][0-9]{0,11}$` -/
def jiraIssueKeyPattern (s : String) : Bool :=
  let (project, found, number) := partitionAt '-' s.toList
  found && decide (1 ≤ project.length ∧ project.length ≤ 20) && project.head?.any Char.isUpper &&
    (project.all fun c => c.isUpper || c.isDigit || c == '_') &&
    decide (1 ≤ number.length ∧ number.length ≤ 12) && number.head?.any (· != '0') &&
    number.all Char.isDigit

def repositoryChar (c : Char) : Bool := c.isAlphanum || c == '_' || c == '.' || c == '-'

/-- `^[A-Za-z0-9_.-]+/[A-Za-z0-9_.-]+$` -/
def repositoryPattern (s : String) : Bool :=
  let (owner, found, name) := partitionAt '/' s.toList
  found && !owner.isEmpty && owner.all repositoryChar && !name.isEmpty && name.all repositoryChar

/-- `VisibleIdentifier`. -/
def visibleIdentifier (s : String) : Bool :=
  decide (1 ≤ s.length ∧ s.length ≤ 255) &&
    s.toList.all fun c => decide (33 ≤ c.toNat ∧ c.toNat ≤ 126)

structure DeploymentContextSyncInput where
  jiraIssueKey : String
  githubRepository : String
  githubIssueNumber : ℤ
  serviceId : String
  publishSlackNotification : Bool
  slackChannelId : Option String
  jiraIssueKey_pattern : jiraIssueKeyPattern jiraIssueKey = true
  githubRepository_length : 3 ≤ githubRepository.length ∧ githubRepository.length ≤ 200
  githubRepository_pattern : repositoryPattern githubRepository = true
  githubIssueNumber_range : 1 ≤ githubIssueNumber ∧ githubIssueNumber ≤ 2147483647
  serviceId_visible : visibleIdentifier serviceId = true
  slackChannelId_pattern : slackChannelId.all slackChannelPattern = true
  channel_required : publishSlackNotification = true → slackChannelId.isSome = true

namespace DeploymentContextSyncInput

/-- The keys that `extra="forbid"` lets pass. -/
def fields : List String :=
  ["jira_issue_key", "github_repository", "github_issue_number", "service_id",
    "publish_slack_notification", "slack_channel_id"]

def readString : JsonValue → Option String
  | .str s => some s
  | _ => none

def readOptionalString : JsonValue → Option (Option String)
  | .null => some none
  | .str s => some (some s)
  | _ => none

/-- The checks that the fields have to pass once they are read. -/
def validate (jiraIssueKey githubRepository : String) (githubIssueNumber : ℤ)
    (serviceId : String) (publishSlackNotification : Bool) (slackChannelId : Option String) :
    Option DeploymentContextSyncInput :=
  if h : jiraIssueKeyPattern jiraIssueKey = true ∧
      (3 ≤ githubRepository.length ∧ githubRepository.length ≤ 200) ∧
      repositoryPattern githubRepository = true ∧
      (1 ≤ githubIssueNumber ∧ githubIssueNumber ≤ 2147483647) ∧
      visibleIdentifier serviceId = true ∧ slackChannelId.all slackChannelPattern = true ∧
      (publishSlackNotification = true → slackChannelId.isSome = true) then
    some {
      jiraIssueKey, githubRepository, githubIssueNumber, serviceId, publishSlackNotification
      slackChannelId
      jiraIssueKey_pattern := h.1
      githubRepository_length := h.2.1
      githubRepository_pattern := h.2.2.1
      githubIssueNumber_range := h.2.2.2.1
      serviceId_visible := h.2.2.2.2.1
      slackChannelId_pattern := h.2.2.2.2.2.1
      channel_required := h.2.2.2.2.2.2 }
  else none

/-- `DeploymentContextSyncInput.model_validate`, where `none` is a `ValidationError`. -/
def modelValidate [LaxCoercion] : JsonValue → Option DeploymentContextSyncInput
  | .dict members => do
    if members.all fun m => fields.contains m.1 then
      let jiraIssueKey ← (members.lookup "jira_issue_key").bind readString
      let githubRepository ← (members.lookup "github_repository").bind readString
      let githubIssueNumber ← (members.lookup "github_issue_number").bind LaxCoercion.int
      let serviceId ← (members.lookup "service_id").bind readString
      let publishSlackNotification ← match members.lookup "publish_slack_notification" with
        | none => some false
        | some value => LaxCoercion.bool value
      let slackChannelId ← match members.lookup "slack_channel_id" with
        | none => some none
        | some value => readOptionalString value
      validate jiraIssueKey githubRepository githubIssueNumber serviceId
        publishSlackNotification slackChannelId
    else none
  | _ => none

/-- `model_dump(mode="json", exclude_none=True)`. -/
def modelDump (input : DeploymentContextSyncInput) : JsonValue :=
  .dict ([("jira_issue_key", .str input.jiraIssueKey),
    ("github_repository", .str input.githubRepository),
    ("github_issue_number", .int input.githubIssueNumber),
    ("service_id", .str input.serviceId),
    ("publish_slack_notification", .bool input.publishSlackNotification)] ++
    (input.slackChannelId.map fun channel => ("slack_channel_id", .str channel)).toList)

end DeploymentContextSyncInput

/-- `normalize_task_input`, where `none` is a `ValidationError`. -/
def normalizeTaskInput [LaxCoercion] (taskType : String) (taskInput : JsonValue) :
    Option JsonValue :=
  if taskType ≠ "deployment_context_sync" then some taskInput
  else (DeploymentContextSyncInput.modelValidate taskInput).map (·.modelDump)

namespace Sample

/-- A contract that reads values of the very type only. -/
@[reducible] def laxCoercion : LaxCoercion where
  int
    | .int n => some n
    | _ => none
  bool
    | .bool b => some b
    | _ => none
  int_int _ := rfl
  bool_bool _ := rfl

end Sample

structure PolicyEvaluation where
  outcome : DecisionOutcome
  reasonCodes : List DecisionReasonCode
  reasons : List String
  record : Option ServiceCatalogRecord
  deriving DecidableEq

namespace PolicyEvaluation

/-- `_result`. -/
def result (outcome : DecisionOutcome) (code : DecisionReasonCode) (reason : String)
    (record : Option ServiceCatalogRecord := none) : PolicyEvaluation where
  outcome := outcome
  reasonCodes := [code]
  reasons := [reason]
  record := record

end PolicyEvaluation

variable [Runtime]

/-- `value.casefold() in {item.casefold() for item in allowed}`. -/
def allowedFolded (value : String) (allowed : List String) : Bool :=
  (allowed.map Runtime.casefold).contains (Runtime.casefold value)

def evaluateStaticScope (taskInput : DeploymentContextSyncInput) (settings : Settings) :
    Option PolicyEvaluation :=
  if !allowedFolded taskInput.serviceId settings.deploymentAllowedServiceIds then
    some (.result .blocked .serviceNotAllowed
      "The requested service is outside the configured deployment scope.")
  else if !allowedFolded taskInput.githubRepository
      settings.deploymentAllowedGithubRepositories then
    some (.result .blocked .repositoryNotAllowed
      "The requested repository is outside the configured deployment scope.")
  else if !allowedFolded (String.ofList (partitionAt '-' taskInput.jiraIssueKey.toList).1)
      settings.deploymentAllowedJiraProjects then
    some (.result .blocked .jiraProjectNotAllowed
      "The requested Jira project is outside the configured deployment scope.")
  else none

namespace ServiceCatalogRecord

/-- The record is one for the requested service, by its identifiers or an alias. -/
def resolves (serviceId : String) (record : ServiceCatalogRecord) : Bool :=
  allowedFolded serviceId (record.serviceId :: record.canonicalServiceId :: record.aliases)

/-- What records for one service have to agree on. -/
def signature (record : ServiceCatalogRecord) : String × ℤ × List String × Option String ×
    DataClassification × Bool × Option String × Bool :=
  (Runtime.casefold record.canonicalServiceId, record.deploymentPolicyVersion,
    record.approvedRepositories, record.serviceOwner, record.dataClassification,
    record.automaticPublicationAllowed, record.requiredReviewer, record.allowAutomaticUpdates)

/-- `max(..., key=lambda item: item.source_version)`, the first of the greatest. -/
def newest (record : ServiceCatalogRecord) (records : List ServiceCatalogRecord) :
    ServiceCatalogRecord :=
  records.foldl (fun best item => if best.sourceVersion < item.sourceVersion then item else best)
    record

end ServiceCatalogRecord

/-- What the policy says of the record that stands for the service. -/
def evaluateRecord (taskInput : DeploymentContextSyncInput) (record : ServiceCatalogRecord)
    (settings : Settings) : PolicyEvaluation :=
  if record.serviceOwner = none then
    .result .needsHumanReview .serviceOwnerMissing
      "The service catalog does not identify an accountable service owner." record
  else if record.dataClassification = .restricted then
    .result .blocked .dataClassificationBlocked
      "Restricted service data is not eligible for this automated workflow." record
  else if record.dataClassification = .confidential then
    .result .needsHumanReview .dataClassificationBlocked
      "Confidential service data requires a human-reviewed workflow." record
  else if record.deploymentPolicyVersion < settings.deploymentMinimumPolicyVersion then
    .result .needsHumanReview .policyStale
      "The service policy version is older than the configured minimum." record
  else if !record.approvedRepositories.contains
      (Runtime.casefold taskInput.githubRepository) then
    .result .blocked .repositoryNotOwnedByService
      "The service catalog does not authorize this repository for the service." record
  else if !record.automaticPublicationAllowed then
    .result .needsHumanReview .automaticPublicationDisabled
      "The service policy does not permit automatic publication." record
  else if record.requiredReviewer.isSome then
    .result .needsHumanReview .reviewerRequired
      "The service policy requires a named reviewer before publication." record
  else
    .result .ready .ready
      "Policy and ownership checks permit the bounded deployment-context action." record

def evaluateServiceCatalog (taskInput : DeploymentContextSyncInput)
    (records : List ServiceCatalogRecord) (settings : Settings) : PolicyEvaluation :=
  match records.filter (·.resolves taskInput.serviceId) with
  | [] =>
    .result .blocked .serviceRecordMalformed
      "No authoritative service-catalog record resolved the requested service."
  | record :: candidates =>
    if candidates.any fun item => item.signature != record.signature then
      .result .needsHumanReview .serviceRecordConflict
        "Conflicting service-catalog records require an owner to choose authority."
    else evaluateRecord taskInput (record.newest candidates) settings

end DeploymentLab
