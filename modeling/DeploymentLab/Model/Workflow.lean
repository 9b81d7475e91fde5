import DeploymentLab.Model.Policy

/-!
# The deployment-context workflow

`DeploymentContextSyncHandler`: the policy is evaluated before any provider is read, the sources
are read and recorded in a fixed order, and one comment on GitHub is reserved, reconciled and
written. Slack may be notified once that action is confirmed.
-/

namespace DeploymentLab

open Interaction HandlerContext

/-- The date of a day counted from 1970-01-01. -/
def civilFromDays (days : ℤ) : ℤ × ℤ × ℤ :=
  let z := days + 719468
  let era := z.fdiv 146097
  let dayOfEra := z - era * 146097
  let yearOfEra := (dayOfEra - dayOfEra / 1460 + dayOfEra / 36524 - dayOfEra / 146096) / 365
  let dayOfYear := dayOfEra - (365 * yearOfEra + yearOfEra / 4 - yearOfEra / 100)
  let shifted := (5 * dayOfYear + 2) / 153
  let day := dayOfYear - (153 * shifted + 2) / 5 + 1
  let month := if shifted < 10 then shifted + 3 else shifted - 9
  (yearOfEra + era * 400 + if month ≤ 2 then 1 else 0, month, day)

/-- The UTC `datetime` of a reading of the clock. -/
def Datetime.ofTimestamp (now : Timestamp) : Datetime :=
  let (year, month, day) := civilFromDays (now.fdiv 86400000000)
  let micros := (now.fmod 86400000000).toNat
  { year := year.toNat
    month := month.toNat
    day := day.toNat
    hour := micros / 3600000000
    minute := micros / 60000000 % 60
    second := micros / 1000000 % 60
    microsecond := micros % 1000000 }

example : Datetime.ofTimestamp 1714979289000042 =
    ⟨2024, 5, 6, 7, 8, 9, 42, some 0⟩ := by decide

def notRequested : SlackNotificationResult where
  requested := false
  state := .notRequested

structure DeploymentContextResult where
  workflowVersion : String := DeploymentLab.workflowVersion
  decision : DeploymentContextDecision
  sourceArtifacts : List SourceReference
  authoritativeGithubAction : Option ExternalActionReference := none
  secondarySlackNotification : SlackNotificationResult := notRequested
  deriving DecidableEq

/-- `source_reference`. -/
def sourceReference (artifact : SourceArtifact) : SourceReference where
  artifactId := artifact.id
  provider := artifact.provider
  resourceType := artifact.resourceType
  providerResourceIdentifier := artifact.providerResourceIdentifier
  sourceVersion := artifact.sourceVersion
  contentHash := artifact.contentHash

section Rendering

variable [Runtime]

def safeMarker (actionScopeKey : String) : String :=
  "<!-- ninjatech-deployment-context:" ++ (Runtime.sha256 actionScopeKey).hexdigest ++ " -->"

def maxCommentBytes : ℕ := 32768

def renderSource (reference : SourceReference) : String :=
  "- `" ++ htmlEscape reference.provider ++ "` `" ++ htmlEscape reference.resourceType ++ "` `" ++
    htmlEscape reference.providerResourceIdentifier ++ "` (version `" ++
    htmlEscape reference.sourceVersion ++ "`)"

def renderGithubComment (actionScopeKey : String) (decision : DeploymentContextDecision)
    (service : ServiceCatalogRecord) (github : GitHubRepositoryContext) (jira : JiraWorkItem) :
    Except Exn String :=
  let sourceLines := "\n".intercalate ((sortReferences decision.sourceReferences).map renderSource)
  let reasonLines := "\n".intercalate (decision.reasons.map fun reason => "- " ++ htmlEscape reason)
  let rendered := safeMarker actionScopeKey ++ "\n" ++
    "## Deployment context\n\n" ++
    "**Decision:** `" ++ decision.outcome.value ++ "`\n\n" ++
    "**Service:** `" ++ htmlEscape service.canonicalServiceId ++ "`  \n" ++
    "**Repository:** `" ++ htmlEscape github.fullName ++ "`  \n" ++
    "**Jira issue:** `" ++ htmlEscape jira.key ++ "`  \n" ++
    "**Policy version:** `" ++ toString decision.policyVersion ++ "`  \n" ++
    "**Generated:** `" ++ decision.generatedAt.isoformat ++ "`\n\n" ++
    "### Reasons\n" ++
    reasonLines ++ "\n\n" ++
    "### Source references\n" ++
    sourceLines ++ "\n"
  if maxCommentBytes < rendered.utf8ByteSize then
    .error (.valueError "rendered GitHub comment exceeds its safe size limit")
  else .ok rendered

/-- The fingerprint of a comment with the text `body`. -/
def bodyFingerprint (body : String) : Digest := sha256Json (.dict [("body", .str body)])

/-- `_decision_snapshot_hash`. -/
def decisionSnapshotHash (decision : DeploymentContextDecision) : Digest :=
  sha256Json (.dict [("workflow_version", .str workflowVersion),
    ("policy_version", .int decision.policyVersion),
    ("outcome", .str decision.outcome.value),
    ("reason_codes", .list (decision.reasonCodes.map fun code => .str code.value)),
    ("sources", .list ((sortReferences decision.sourceReferences).map (·.snapshot)))])

end Rendering

/-- A handler of the workflow, with or without a factory for the Slack delivery. -/
structure DeploymentContextSyncHandler where
  settings : Settings
  slackDeliveryFactory : Bool := true

namespace DeploymentContextSyncHandler

/-- The version of the policy that a decision was taken under. -/
def policyVersion (evaluation : PolicyEvaluation) : ℤ :=
  (evaluation.record.map (·.deploymentPolicyVersion)).getD 1

/-- `_result`. -/
def result (evaluation : PolicyEvaluation) (references : List SourceReference)
    (generatedAt : Datetime) : DeploymentContextResult where
  decision := {
    outcome := evaluation.outcome
    reasonCodes := evaluation.reasonCodes
    reasons := evaluation.reasons
    sourceReferences := references
    policyVersion := policyVersion evaluation
    generatedAt }
  sourceArtifacts := references

/-- `_review_result`. -/
def reviewResult (evaluation : PolicyEvaluation) (references : List SourceReference)
    (code : DecisionReasonCode) (reason : String) (generatedAt : Datetime)
    (outcome : DecisionOutcome := .needsHumanReview) : DeploymentContextResult where
  decision := {
    outcome
    reasonCodes := [code]
    reasons := [reason]
    sourceReferences := references
    policyVersion := policyVersion evaluation
    generatedAt }
  sourceArtifacts := references

/-- `_success_result`. -/
def successResult (decision : DeploymentContextDecision) (references : List SourceReference)
    (action : ExternalAction) : Except Exn DeploymentContextResult := do
  let reference ← actionReference action
  pure { decision, sourceArtifacts := references, authoritativeGithubAction := some reference }

/-- `_action_review_result`. -/
def actionReviewResult (decision : DeploymentContextDecision) (references : List SourceReference)
    (action : ExternalAction) (code : DecisionReasonCode) (reason : String) :
    Except Exn DeploymentContextResult :=
  successResult
    { decision with outcome := .needsHumanReview, reasonCodes := [code], reasons := [reason] }
    references action

/-- `_provider_call`. -/
def providerCall (e : Effect) : Handler e.Answer := do
  match ← (perform e).attempt with
  | .ok answer => pure answer
  | .error (.retryableProviderError errorCode retryAfter) =>
    .raise (.retryableTaskError errorCode retryAfter)
  | .error (.permanentProviderError errorCode) => .raise (.permanentTaskError errorCode)
  | .error x => .raise x

/-- `datetime.now(UTC)`. -/
def datetimeNow : Handler Timestamp := .look fun context => .ret context.wallClock

def isRestricted (classification : DataClassification) : Bool :=
  classification = .confidential ∨ classification = .restricted

/-- What is kept of a service record. -/
def catalogPayload (record : ServiceCatalogRecord) : JsonValue :=
  .dict ([("canonical_service_id", .str record.canonicalServiceId),
    ("data_classification", .str record.dataClassification.value),
    ("deployment_policy_version", .int record.deploymentPolicyVersion),
    ("source_version", .str record.sourceVersion)] ++
    if isRestricted record.dataClassification then []
    else [("service_owner", optionalString record.serviceOwner),
      ("criticality", .str record.criticality),
      ("approved_repositories", .list (record.approvedRepositories.map .str)),
      ("automatic_publication_allowed", .bool record.automaticPublicationAllowed),
      ("required_reviewer", optionalString record.requiredReviewer),
      ("allow_automatic_updates", .bool record.allowAutomaticUpdates)])

/-- `_record_catalog`. -/
def recordCatalog (task : TaskExecution) :
    List ServiceCatalogRecord → Handler (List SourceReference)
  | [] => pure []
  | record :: records => do
    let fetchedAt ← datetimeNow
    let artifact ← perform (.record {
      fence := task.executionFence
      provider := "service_catalog"
      resourceType := "service"
      providerResourceIdentifier := record.canonicalServiceId
      sourceUrl := record.sourceUrl
      sourceVersion := record.sourceVersion
      dataClassification := record.dataClassification
      redactionApplied := isRestricted record.dataClassification
      normalizedPayload := catalogPayload record
      fetchedAt })
    let references ← recordCatalog task records
    pure (sourceReference artifact :: references)

/-- `GitHubRepositoryContext.model_dump`. -/
def githubPayload (github : GitHubRepositoryContext) : JsonValue :=
  .dict [("full_name", .str github.fullName),
    ("repository_id", .int github.repositoryId),
    ("visibility", .str github.visibility),
    ("archived", .bool github.archived),
    ("default_branch", .str github.defaultBranch),
    ("default_branch_head_sha", .str github.defaultBranchHeadSha),
    ("issue_number", .int github.issueNumber),
    ("issue_state", .str github.issueState),
    ("issue_title", .str github.issueTitle),
    ("is_pull_request", .bool github.isPullRequest),
    ("source_url", .str github.sourceUrl),
    ("source_version", .str github.sourceVersion)]

/-- `_record_github`. -/
def recordGithub (task : TaskExecution) (github : GitHubRepositoryContext) :
    Handler SourceReference := do
  let fetchedAt ← datetimeNow
  let artifact ← perform (.record {
    fence := task.executionFence
    provider := "github"
    resourceType := "repository_issue_context"
    providerResourceIdentifier :=
      toString github.repositoryId ++ ":issue:" ++ toString github.issueNumber
    sourceUrl := github.sourceUrl
    sourceVersion := github.sourceVersion
    dataClassification := .internal
    redactionApplied := false
    normalizedPayload := githubPayload github
    fetchedAt })
  pure (sourceReference artifact)

/-- `JiraWorkItem.model_dump`, without the description where the data are restricted. -/
def jiraPayload (jira : JiraWorkItem) (classification : DataClassification) : JsonValue :=
  .dict ([("key", .str jira.key), ("title", .str jira.title)] ++
    (if isRestricted classification then []
      else [("normalized_description_text", .str jira.normalizedDescriptionText)]) ++
    [("status", .str jira.status),
    ("priority", optionalString jira.priority),
    ("labels", .list (jira.labels.map .str)),
    ("assignee_identifier", optionalString jira.assigneeIdentifier),
    ("updated_at", .str jira.updatedAt.modelDump),
    ("source_url", .str jira.sourceUrl),
    ("source_version", .str jira.sourceVersion)])

/-- `_record_jira`. -/
def recordJira (task : TaskExecution) (jira : JiraWorkItem)
    (classification : DataClassification) : Handler SourceReference := do
  let fetchedAt ← datetimeNow
  let artifact ← perform (.record {
    fence := task.executionFence
    provider := "jira"
    resourceType := "work_item"
    providerResourceIdentifier := jira.key
    sourceUrl := jira.sourceUrl
    sourceVersion := jira.sourceVersion
    dataClassification := classification
    redactionApplied := isRestricted classification
    normalizedPayload := jiraPayload jira classification
    fetchedAt })
  pure (sourceReference artifact)

/-! ## The comment on GitHub -/

/-- What is to be published, and where. -/
structure Publication where
  repository : String
  issueNumber : ℤ
  body : String
  desiredFingerprint : Digest
  decision : DeploymentContextDecision
  references : List SourceReference

section Transitions

variable (settings : Settings) (task : TaskExecution) (action : ExternalAction)

def reconciliationStarted : TransitionRequest where
  fence := task.executionFence
  actionId := action.id
  expectedStatuses := [.reserved, .retryableFailure, .outcomeUnknown, .executing]
  newStatus := .reconciling
  transition := "reconciliation_started"

def reconciliationRetryableFailure (errorCode : String) : TransitionRequest where
  fence := task.executionFence
  actionId := action.id
  expectedStatuses := [.reconciling]
  newStatus := .retryableFailure
  transition := "reconciliation_retryable_failure"
  errorCode := some errorCode

def reconciliationNeedsHumanReview (code : DecisionReasonCode) : TransitionRequest where
  fence := task.executionFence
  actionId := action.id
  expectedStatuses := [.reconciling]
  newStatus := .needsHumanReview
  transition := "reconciliation_needs_human_review"
  values := { completedAt := some none }
  errorCode := some code.value

def reconciledContentMismatch : TransitionRequest where
  fence := task.executionFence
  actionId := action.id
  expectedStatuses := [.reconciling]
  newStatus := .needsHumanReview
  transition := "reconciled_content_mismatch"
  errorCode := some DecisionReasonCode.reconciliationInconclusive.value

def reconciliationCompletedNoMatch : TransitionRequest where
  fence := task.executionFence
  actionId := action.id
  expectedStatuses := [.reconciling]
  newStatus := .readyToExecute
  transition := "reconciliation_completed_no_match"

def writeStarted : TransitionRequest where
  fence := task.executionFence
  actionId := action.id
  expectedStatuses := [.readyToExecute]
  newStatus := .executing
  transition := "write_started"
  settlementDelay := some settings.integrationSettlementDelay

def writeOutcomeUnknown (errorCode : String) : TransitionRequest where
  fence := task.executionFence
  actionId := action.id
  expectedStatuses := [.executing]
  newStatus := .outcomeUnknown
  transition := "write_outcome_unknown"
  errorCode := some errorCode

def writeRetryableFailure (errorCode : String) : TransitionRequest where
  fence := task.executionFence
  actionId := action.id
  expectedStatuses := [.executing]
  newStatus := .retryableFailure
  transition := "write_retryable_failure"
  errorCode := some errorCode

def writePermanentFailure (errorCode : String) : TransitionRequest where
  fence := task.executionFence
  actionId := action.id
  expectedStatuses := [.executing]
  newStatus := .permanentFailure
  transition := "write_permanent_failure"
  errorCode := some errorCode

/-- The transition of `_complete_success`. -/
def completeSuccess [Runtime] (comment : GitHubComment) (desiredFingerprint : Digest)
    (expected : List ExternalActionStatus) (transition : String) : TransitionRequest where
  fence := task.executionFence
  actionId := action.id
  expectedStatuses := expected
  newStatus := .succeeded
  transition := transition
  values := {
    providerResourceIdentifier := some (some comment.identifier)
    providerUrl := some (some comment.url)
    appliedRequestFingerprint := some (some desiredFingerprint)
    responseFingerprint := some (some (sha256Json (.dict [
      ("identifier", .str comment.identifier), ("url", .str comment.url)]))) }

end Transitions

/-- The time that is left before the provider may be searched. -/
def reconciliationHoldoff (action : ExternalAction) : Handler Duration :=
  if action.reconcileNotBefore.isSome then perform (.reconciliationDelaySeconds action.id)
  else pure 0

/-- The comment with the marker, of which there has to be one at most. -/
def searchComments (repository : String) (issueNumber : ℤ) (marker : String) :
    Handler (Option GitHubComment) := do
  let search ← perform (.findCommentsByMarker repository issueNumber marker)
  if !search.complete then
    .raise (.reconciliationNeedsReview .reconciliationInconclusive
      "GitHub comment pagination was incomplete, so no write was attempted.")
  else if 1 < search.comments.length then
    .raise (.reconciliationNeedsReview .multipleCommentsFound
      "Multiple GitHub comments share the authoritative action marker.")
  else pure search.comments.head?

/-- The comment that the action is bound to, which has to be there with its marker. -/
def boundComment (repository identifier marker : String) : Handler (Option GitHubComment) := do
  match ← perform (.getComment repository identifier) with
  | none =>
    .raise (.reconciliationNeedsReview .commentMissing
      "A previously bound GitHub comment was deleted and will not be recreated.")
  | some comment =>
    if substring marker comment.body then pure (some comment)
    else
      .raise (.reconciliationNeedsReview .commentMarkerMissing
        "The previously bound GitHub comment no longer has its identity marker.")

/-- `_reconcile_comment`. -/
def reconcileComment (action : ExternalAction) (repository : String) (issueNumber : ℤ)
    (marker : String) : Handler (Option GitHubComment) :=
  match action.providerResourceIdentifier with
  | some identifier => boundComment repository identifier marker
  | none => do
    let holdoff ← reconciliationHoldoff action
    if 0 < holdoff then
      .raise (.retryableProviderError "github_reconciliation_holdoff" (some (max 100000 holdoff)))
    else searchComments repository issueNumber marker

section Publishing

variable [Runtime] (settings : Settings) (task : TaskExecution) (publication : Publication)

/-- The create or update itself. -/
def writeComment (action : ExternalAction) : Handler GitHubComment :=
  match action.providerResourceIdentifier with
  | none => perform (.createComment publication.repository publication.issueNumber publication.body)
  | some identifier =>
    perform (.updateComment publication.repository identifier publication.body)

/-- `_reconcile_and_apply` once it is known that the comment has to be written. -/
def applyWrite (action : ExternalAction) : Handler DeploymentContextResult := do
  let action ← perform (.transition (reconciliationCompletedNoMatch task action))
  raiseIfCancelled
  let action ← perform (.transition (writeStarted settings task action))
  raiseIfCancelled
  match ← (writeComment publication action).attempt with
  | .error (.providerWriteOutcomeUnknown errorCode) =>
    let _ ← perform (.transition (writeOutcomeUnknown task action errorCode))
    .raise (.retryableTaskError errorCode none)
  | .error (.retryableProviderError errorCode retryAfter) =>
    let _ ← perform (.transition (writeRetryableFailure task action errorCode))
    .raise (.retryableTaskError errorCode retryAfter)
  | .error (.permanentProviderError errorCode) =>
    let _ ← perform (.transition (writePermanentFailure task action errorCode))
    .raise (.permanentTaskError errorCode)
  | .error x => .raise x
  | .ok comment =>
    raiseIfOwnershipLost
    let action ← perform (.transition (completeSuccess task action comment
      publication.desiredFingerprint [.executing] "write_succeeded"))
    raiseIfCancelled
    .ofExcept (successResult publication.decision publication.references action)

/-- The comment that was found is an older revision, which the write may replace. -/
def replaceable (action : ExternalAction) (desiredFingerprint : Digest) : Bool :=
  decide (1 < action.revision) && action.appliedRequestFingerprint.isSome &&
    action.appliedRequestFingerprint != some desiredFingerprint

/-- `_reconcile_and_apply` once the provider has been searched. -/
def applyReconciled (action : ExternalAction) :
    Option GitHubComment → Handler DeploymentContextResult
  | none => applyWrite settings task publication action
  | some comment =>
    if bodyFingerprint comment.body ≠ publication.desiredFingerprint then
      if replaceable action publication.desiredFingerprint then
        applyWrite settings task publication action
      else do
        let action ← perform (.transition (reconciledContentMismatch task action))
        .ofExcept (actionReviewResult publication.decision publication.references action
          .reconciliationInconclusive
          "The matching GitHub comment does not contain the expected revision.")
    else do
      raiseIfOwnershipLost
      let action ← perform (.transition (completeSuccess task action comment
        publication.desiredFingerprint [.reconciling] "reconciled_succeeded"))
      raiseIfCancelled
      .ofExcept (successResult publication.decision publication.references action)

/-- The start of `_reconcile_and_apply`. -/
def startReconciliation (action : ExternalAction) : Handler ExternalAction :=
  if action.status = .reconciling ∨ action.status = .readyToExecute then pure action
  else perform (.transition (reconciliationStarted task action))

/-- `_reconcile_and_apply`. -/
def reconcileAndApply (action : ExternalAction) : Handler DeploymentContextResult := do
  let action ← startReconciliation task action
  raiseIfCancelled
  match ← (reconcileComment action publication.repository publication.issueNumber
      (safeMarker action.actionScopeKey)).attempt with
  | .error (.retryableProviderError errorCode retryAfter) =>
    let _ ← perform (.transition (reconciliationRetryableFailure task action errorCode))
    .raise (.retryableTaskError errorCode retryAfter)
  | .error (.reconciliationNeedsReview code safeReason) =>
    let action ← perform (.transition (reconciliationNeedsHumanReview task action code))
    .ofExcept (actionReviewResult publication.decision publication.references action code
      safeReason)
  | .error x => .raise x
  | .ok existing => applyReconciled settings task publication action existing

/-- `_prepare_controlled_revision`. -/
def prepareControlledRevision (action : ExternalAction) (service : ServiceCatalogRecord)
    (snapshotHash : Digest) : Handler (ExternalAction ⊕ DeploymentContextResult) := do
  match action.providerResourceIdentifier with
  | some identifier =>
    if service.allowAutomaticUpdates = false ∨ action.status ≠ .succeeded then
      .ofExcept ((actionReviewResult publication.decision publication.references action
        .actionScopeChanged
        "The authoritative action scope already has different applied content.").map .inr)
    else
      raiseIfCancelled
      let existing ← providerCall (.getComment publication.repository identifier)
      if !existing.any fun comment => substring (safeMarker action.actionScopeKey) comment.body then
        .ofExcept ((actionReviewResult publication.decision publication.references action
          .commentMissing "The exact authoritative comment cannot be safely updated.").map .inr)
      else
        raiseIfCancelled
        let action ← perform (.revise {
          fence := task.executionFence
          actionId := action.id
          expectedRevision := action.revision
          desiredRequestFingerprint := publication.desiredFingerprint
          decisionSnapshotHash := snapshotHash })
        pure (.inl action)
  | none =>
    .ofExcept ((actionReviewResult publication.decision publication.references action
      .actionScopeChanged
      "The authoritative action scope already has different applied content.").map .inr)

/-- What `execute` does with its reservation. -/
def applyReservation (service : ServiceCatalogRecord) (snapshotHash : Digest)
    (reservation : ActionReservation) : Handler DeploymentContextResult :=
  let action := reservation.action
  if reservation.kind = .sourceDrift then
    .ofExcept (actionReviewResult publication.decision publication.references action
      .sourceVersionDrift "Source evidence changed after this action scope was reserved.")
  else if reservation.kind = .changed then do
    match ← prepareControlledRevision task publication action service snapshotHash with
    | .inl action => reconcileAndApply settings task publication action
    | .inr result => pure result
  else if reservation.kind = .replay ∧ action.status = .succeeded then
    .ofExcept (successResult publication.decision publication.references action)
  else if reservation.kind = .replay ∧
      (action.status = .needsHumanReview ∨ action.status = .permanentFailure) then
    .ofExcept (actionReviewResult publication.decision publication.references action
      .reconciliationInconclusive "The existing authoritative action requires human resolution.")
  else reconcileAndApply settings task publication action

end Publishing

/-! ## The run of a task -/

/-- What an exit of `execute` hands to `_finish`. -/
structure Exit where
  result : DeploymentContextResult
  github : Option GitHubRepositoryContext := none
  service : Option ServiceCatalogRecord := none

/-- `_action_scope_key`. -/
def actionScopeKey (settings : Settings) (taskInput : DeploymentContextSyncInput)
    (github : GitHubRepositoryContext) (service : ServiceCatalogRecord) : Except Exn String :=
  match settings.deploymentScopeId with
  | none => .error (.permanentTaskError "deployment_scope_not_configured")
  | some scope =>
    .ok (workflowVersion ++ ":" ++ scope ++ ":" ++ toString github.repositoryId ++ ":" ++
      toString taskInput.githubIssueNumber ++ ":" ++ service.canonicalServiceId ++
      ":github_comment")

/-- `_validate_slack_request`. -/
def validateSlackRequest (handler : DeploymentContextSyncHandler)
    (taskInput : DeploymentContextSyncInput) : Except Exn Unit :=
  if taskInput.publishSlackNotification = false then .ok ()
  else if handler.settings.enableSlackNotification = false then
    .error (.permanentTaskError "slack_notification_not_enabled")
  else match taskInput.slackChannelId with
  | none => .error (.permanentTaskError "slack_channel_required")
  | some channelId =>
    if !handler.settings.deploymentAllowedSlackChannels.contains channelId then
      .error (.permanentTaskError "slack_channel_not_allowed")
    else if handler.slackDeliveryFactory = false then
      .error (.permanentTaskError "slack_delivery_not_configured")
    else .ok ()

section Execution

variable [Runtime] (handler : DeploymentContextSyncHandler) (task : TaskExecution)
  (taskInput : DeploymentContextSyncInput)

/-- The exit for a human to look at what the evaluation had let pass. -/
def reviewExit (evaluation : PolicyEvaluation) (references : List SourceReference)
    (code : DecisionReasonCode) (reason : String)
    (outcome : DecisionOutcome := .needsHumanReview) : Handler Exit := do
  let now ← datetimeNow
  pure { result := reviewResult evaluation references code reason (.ofTimestamp now) outcome }

/-- The reservation. A handler that is being cancelled says so when its fence has failed. -/
def reserve (request : ReservationRequest) : Handler ActionReservation := do
  match ← (perform (.reserveOrGet request)).attempt with
  | .ok reservation => pure reservation
  | .error (.executionInvariantError message) =>
    raiseIfCancelled
    .raise (.executionInvariantError message)
  | .error x => .raise x

/-- `execute` once every source has been read and recorded. -/
def publish (evaluation : PolicyEvaluation) (service : ServiceCatalogRecord)
    (github : GitHubRepositoryContext) (jira : JiraWorkItem)
    (references : List SourceReference) : Handler Exit := do
  let decision : DeploymentContextDecision := {
    outcome := .ready
    reasonCodes := evaluation.reasonCodes
    reasons := evaluation.reasons
    sourceReferences := references
    policyVersion := service.deploymentPolicyVersion
    generatedAt := jira.updatedAt }
  let scope ← Prog.ofExcept (actionScopeKey handler.settings taskInput github service)
  let body ← Prog.ofExcept (renderGithubComment scope decision service github jira)
  let publication : Publication := {
    repository := taskInput.githubRepository
    issueNumber := taskInput.githubIssueNumber
    body
    desiredFingerprint := bodyFingerprint body
    decision
    references }
  let snapshotHash := decisionSnapshotHash decision
  raiseIfCancelled
  let reservation ← reserve {
    fence := task.executionFence
    provider := .github
    operation := .upsertDeploymentContextComment
    actionScopeKey := scope
    desiredRequestFingerprint := publication.desiredFingerprint
    decisionSnapshotHash := snapshotHash }
  let result ← applyReservation handler.settings task publication service snapshotHash reservation
  pure { result, github := some github, service := some service }

/-- `execute` once the target on GitHub has been accepted. -/
def readJira (evaluation : PolicyEvaluation) (service : ServiceCatalogRecord)
    (github : GitHubRepositoryContext) (references : List SourceReference) : Handler Exit := do
  raiseIfCancelled
  let jira ← providerCall (.fetchIssue taskInput.jiraIssueKey)
  raiseIfCancelled
  if Runtime.casefold jira.key ≠ Runtime.casefold taskInput.jiraIssueKey then
    reviewExit evaluation references .jiraIssueIdentityMismatch
      "Jira returned a work item other than the requested issue."
  else
    let jiraReference ← recordJira task jira service.dataClassification
    publish handler task taskInput evaluation service github jira (references ++ [jiraReference])

/-- `execute` once the catalog has approved the service. -/
def readGithub (evaluation : PolicyEvaluation) (service : ServiceCatalogRecord)
    (references : List SourceReference) : Handler Exit := do
  raiseIfCancelled
  let identityVerified ← providerCall .verifyGitHubIdentity
  if identityVerified = false then
    reviewExit evaluation references .providerIdentityUnverified
      "The configured GitHub identity could not be verified."
  else
    let github ← providerCall
      (.fetchContext taskInput.githubRepository taskInput.githubIssueNumber)
    raiseIfCancelled
    if Runtime.casefold github.fullName ≠ Runtime.casefold taskInput.githubRepository then
      reviewExit evaluation references .githubRepositoryIdentityMismatch
        "GitHub returned a repository other than the requested repository."
    else if github.issueNumber ≠ taskInput.githubIssueNumber then
      reviewExit evaluation references .githubIssueIdentityMismatch
        "GitHub returned an issue other than the requested issue."
    else
      let githubReference ← recordGithub task github
      let references := references ++ [githubReference]
      if github.isPullRequest then
        reviewExit evaluation references .targetIsPullRequest
          "Pull requests are not valid targets for deployment-context comments." .blocked
      else if github.archived then
        reviewExit evaluation references .repositoryArchived
          "The authoritative GitHub repository is archived."
      else if Runtime.casefold github.issueState ≠ "open" then
        reviewExit evaluation references .issueClosed "The target GitHub issue is not open."
      else readJira handler task taskInput evaluation service github references

/-- `execute` once the static scope has let the request pass. -/
def readCatalog : Handler Exit := do
  let records ← providerCall (.fetchRecords taskInput.serviceId)
  raiseIfCancelled
  let evaluation := evaluateServiceCatalog taskInput records handler.settings
  let references ← recordCatalog task records
  if evaluation.outcome ≠ .ready then
    let now ← datetimeNow
    pure { result := result evaluation references (.ofTimestamp now) }
  else match evaluation.record with
  | none => .raise (.permanentTaskError "service_catalog_contract_error")
  | some service => readGithub handler task taskInput evaluation service references

/-- `execute` up to what its exits hand to `_finish`. -/
def authoritative : Handler Exit := do
  Prog.ofExcept (validateSlackRequest handler taskInput)
  raiseIfCancelled
  match evaluateStaticScope taskInput handler.settings with
  | some evaluation =>
    let now ← datetimeNow
    pure { result := result evaluation [] (.ofTimestamp now) }
  | none => readCatalog handler task taskInput

/-- The delivery that an exit calls for: of a confirmed action under a decision to go ahead. -/
def slackRequest (exit : Exit) : Option SlackDeliveryRequest :=
  match exit.result.authoritativeGithubAction, exit.github, exit.service,
    taskInput.slackChannelId with
  | some githubAction, some github, some service, some channelId =>
    if exit.result.decision.outcome ≠ .ready ∨
        githubAction.providerResourceIdentifier = none then none
    else some {
      channelId
      canonicalServiceId := service.canonicalServiceId
      githubRepositoryId := github.repositoryId
      githubIssueNumber := github.issueNumber
      githubAction
      decision := exit.result.decision }
  | _, _, _, _ => none

def slackUnavailable : SlackNotificationResult where
  requested := true
  state := .needsHumanReview
  safeErrorCode := some "slack_authoritative_action_unavailable"

/-- `_finish`. -/
def finish (exit : Exit) : Handler DeploymentContextResult :=
  if taskInput.publishSlackNotification = false then pure exit.result
  else match slackRequest taskInput exit with
  | none => pure { exit.result with secondarySlackNotification := slackUnavailable }
  | some request => do
    raiseIfCancelled
    if handler.slackDeliveryFactory = false then
      .raise (.permanentTaskError "slack_delivery_not_configured")
    else
      let slackResult ← SlackDeliveryService.deliver handler.settings task request
      pure { exit.result with secondarySlackNotification := slackResult }

/-- `execute`. -/
def execute [LaxCoercion] (input : JsonValue) : Handler DeploymentContextResult := do
  match DeploymentContextSyncInput.modelValidate input with
  | none => .raise (.permanentTaskError "deployment_context_input_invalid")
  | some taskInput =>
    let exit ← authoritative handler task taskInput
    finish handler task taskInput exit

end Execution

end DeploymentContextSyncHandler

end DeploymentLab
