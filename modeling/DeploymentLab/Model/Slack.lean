import DeploymentLab.Model.Handler

/-!
# Secondary Slack delivery

`SlackDeliveryService.deliver` with the text, the scope key and the snapshot hash it computes.
-/

namespace DeploymentLab

open Interaction HandlerContext

def workflowVersion : String := "deployment_context_sync:v1"

/-- The settings that the workflow and the delivery read. -/
structure Settings where
  deploymentScopeId : Option String := none
  deploymentAllowedServiceIds : List String := []
  deploymentAllowedGithubRepositories : List String := []
  deploymentAllowedJiraProjects : List String := []
  deploymentAllowedSlackChannels : List String := []
  deploymentMinimumPolicyVersion : ℤ := 1
  enableSlackNotification : Bool := false
  slackExpectedTeamId : Option String := none
  slackMaxTextChars : ℕ := 1000
  slackWriteTimeout : Duration := 5000000
  integrationSettlementDelay : Duration := 3000000
  slackWriteTimeout_pos : 0 < slackWriteTimeout := by decide
  integrationSettlementDelay_pos : 0 < integrationSettlementDelay := by decide

structure SourceReference where
  artifactId : UUID
  provider : String
  resourceType : String
  providerResourceIdentifier : String
  sourceVersion : String
  contentHash : Digest
  deriving DecidableEq

structure DeploymentContextDecision where
  outcome : DecisionOutcome
  reasonCodes : List DecisionReasonCode
  reasons : List String
  sourceReferences : List SourceReference
  policyVersion : ℤ
  generatedAt : Datetime
  deriving DecidableEq

structure ExternalActionReference where
  actionId : UUID
  provider : ExternalActionProvider
  operation : ExternalActionOperation
  revision : ℤ
  providerResourceIdentifier : Option String
  providerUrl : Option String := none
  deriving DecidableEq

structure SlackNotificationResult where
  requested : Bool
  state : SlackDeliveryState
  action : Option ExternalActionReference := none
  safeErrorCode : Option String := none
  deriving DecidableEq

structure SlackDeliveryRequest where
  channelId : String
  canonicalServiceId : String
  githubRepositoryId : ℤ
  githubIssueNumber : ℤ
  githubAction : ExternalActionReference
  decision : DeploymentContextDecision
  deriving DecidableEq

/-- `_action_reference`. -/
def actionReference (action : ExternalAction) : Except Exn ExternalActionReference :=
  if action.status = .succeeded ∧ action.providerResourceIdentifier = none then
    .error (.executionInvariantError
      "successful external action has no provider identifier")
  else
    .ok {
      actionId := action.id
      provider := action.provider
      operation := action.operation
      revision := action.revision
      providerResourceIdentifier := action.providerResourceIdentifier
      providerUrl :=
        if action.providerResourceIdentifier.isSome then action.providerUrl else none }

/-- The order in which references are rendered and hashed. -/
def SourceReference.sortKey (r : SourceReference) : List String :=
  [r.provider, r.resourceType, r.providerResourceIdentifier, r.sourceVersion,
    r.contentHash.hexdigest]

def sortReferences (references : List SourceReference) : List SourceReference :=
  references.insertionSort fun a b => a.sortKey ≤ b.sortKey

/-- `html.escape`, with or without the quotes. -/
def htmlEscapeChar (quote : Bool) (c : Char) : List Char :=
  if c = '&' then "&amp;".toList
  else if c = '<' then "&lt;".toList
  else if c = '>' then "&gt;".toList
  else if quote ∧ c = '"' then "&quot;".toList
  else if quote ∧ c = '\'' then "&#x27;".toList
  else [c]

def htmlEscape (s : String) (quote : Bool := true) : String :=
  String.ofList (s.toList.flatMap (htmlEscapeChar quote))

/-- The characters at which `str.splitlines` ends a line. -/
def isLineBoundary (c : Char) : Bool :=
  [10, 11, 12, 13, 28, 29, 30, 133, 8232, 8233].contains c.toNat

/-- `str.splitlines`, with the characters of the current line in reverse. -/
def splitLines (line : List Char) : List Char → List (List Char)
  | [] => if line = [] then [] else [line.reverse]
  | '\r' :: '\n' :: cs => line.reverse :: splitLines [] cs
  | c :: cs =>
    if isLineBoundary c then line.reverse :: splitLines [] cs else splitLines (c :: line) cs

def maxMessageBytes : ℕ := 4000
def maxMessageLines : ℕ := 6
def maxUrlChars : ℕ := 2000
def defaultRetryDelay : Duration := 5000000

def renderSlackNotification [Runtime] (decision : DeploymentContextDecision)
    (canonicalServiceId : String) (githubAction : ExternalActionReference)
    (maximumCharacters : ℕ) : Except Exn String := do
  match githubAction.providerUrl with
  | none => throw (.valueError "confirmed GitHub action requires a bounded URL")
  | some url =>
    if maxUrlChars < url.length then
      throw (.valueError "confirmed GitHub action requires a bounded URL")
    let parsed ← urlsplit url
    if (parsed.scheme ≠ "http" ∧ parsed.scheme ≠ "https") ∨ parsed.hostname = none then
      throw (.valueError "GitHub action URL must be absolute HTTP(S)")
    let service := htmlEscape canonicalServiceId false
    let safeUrl := htmlEscape url
    let text := "Deployment context sync\n" ++
      "Decision: " ++ decision.outcome.value ++ "\n" ++
      "Service: " ++ service ++ "\n" ++
      "Authoritative GitHub: <" ++ safeUrl ++ "|deployment-context comment>\n" ++
      "GitHub revision: " ++ toString githubAction.revision
    if maximumCharacters < text.length ∨ maxMessageBytes < text.utf8ByteSize ∨
        maxMessageLines < (splitLines [] text.toList).length then
      throw (.valueError "Slack notification exceeds its bounded message contract")
    pure text

def slackActionScopeKey (deploymentScopeId expectedTeamId : Option String)
    (githubRepositoryId githubIssueNumber : ℤ) (canonicalServiceId : String)
    (githubActionRevision : ℤ) (channelId : String) : Except Exn String := do
  match deploymentScopeId, expectedTeamId with
  | none, _ => throw (.valueError "deployment scope is required")
  | some _, none => throw (.valueError "expected Slack team is required")
  | some scope, some team =>
    pure (workflowVersion ++ ":" ++ scope ++ ":slack_team:" ++ team ++ ":" ++
      toString githubRepositoryId ++ ":" ++ toString githubIssueNumber ++ ":" ++
      canonicalServiceId ++ ":github_revision:" ++ toString githubActionRevision ++
      ":slack_channel:" ++ channelId ++ ":notification")

/-- A reference as the snapshots store it. -/
def SourceReference.snapshot (r : SourceReference) : JsonValue :=
  .dict [("provider", .str r.provider), ("resource_type", .str r.resourceType),
    ("provider_resource_identifier", .str r.providerResourceIdentifier),
    ("source_version", .str r.sourceVersion), ("content_hash", .str r.contentHash.hexdigest)]

def optionalString : Option String → JsonValue
  | none => .null
  | some s => .str s

def slackDecisionSnapshotHash [Runtime] (decision : DeploymentContextDecision)
    (githubAction : ExternalActionReference) (channelId : String)
    (expectedTeamId : Option String) : Except Exn Digest := do
  match expectedTeamId with
  | none => throw (.valueError "expected Slack team is required")
  | some team =>
    pure (sha256Json (.dict [("workflow_version", .str workflowVersion),
      ("decision", .dict [("outcome", .str decision.outcome.value),
        ("reason_codes", .list (((decision.reasonCodes.map (·.value)).insertionSort
          (· ≤ ·)).map .str)),
        ("policy_version", .int decision.policyVersion)]),
      ("sources", .list ((sortReferences decision.sourceReferences).map (·.snapshot))),
      ("authoritative_github", .dict [
        ("provider_resource_identifier",
          optionalString githubAction.providerResourceIdentifier),
        ("revision", .int githubAction.revision)]),
      ("slack_team", .str team), ("channel", .str channelId)]))

/-- `_known_unsent_delay`. -/
def knownUnsentDelay (retryAfter : Option Duration) : Duration :=
  match retryAfter with
  | none => defaultRetryDelay
  | some delay => max 1000000 delay

/-- `^[a-z0-9_]{1,100}$` -/
def safeErrorCodePattern (s : String) : Bool :=
  decide (1 ≤ s.length ∧ s.length ≤ 100) &&
    s.toList.all fun c => c.isLower || c.isDigit || c == '_'

/-- What `SlackNotificationResult` checks of a delivery that was requested. -/
def SlackNotificationResult.validate (result : SlackNotificationResult) :
    Except Exn SlackNotificationResult := do
  if result.safeErrorCode.any fun code => !safeErrorCodePattern code then
    throw (.valueError "SlackNotificationResult.safe_error_code")
  if result.state = .succeeded then
    if (result.action.bind (·.providerResourceIdentifier)) = none then
      throw (.valueError "successful Slack delivery requires provider evidence")
    if result.safeErrorCode.isSome then
      throw (.valueError "successful Slack delivery cannot contain an error")
  pure result

namespace SlackDeliveryService

variable [Runtime]

/-- `_result`. -/
def result (state : SlackDeliveryState) (action : ExternalAction)
    (errorCode : Option String := none) : Handler SlackNotificationResult := do
  let reference ← Prog.ofExcept (actionReference action)
  Prog.ofExcept (SlackNotificationResult.validate
    { requested := true, state, action := some reference, safeErrorCode := errorCode })

/-- `error_code or default`, where an empty code counts as none. -/
def errorCodeOr (errorCode : Option String) (default : String) : String :=
  match errorCode with
  | some code => if code = "" then default else code
  | none => default

/-- The statuses from which a delivery may start its write. -/
def postable : List ExternalActionStatus := [.reserved, .readyToExecute, .retryableFailure]

section Transitions

variable (settings : Settings) (task : TaskExecution) (action : ExternalAction)

def previousWriteUnresolved : TransitionRequest where
  fence := task.executionFence
  actionId := action.id
  expectedStatuses := [.executing]
  newStatus := .outcomeUnknown
  transition := "slack_previous_write_unresolved"
  errorCode := some "slack_manual_reconciliation_required"

def identityRetryableFailure (errorCode : String) (retryAfter : Option Duration) :
    TransitionRequest where
  fence := task.executionFence
  actionId := action.id
  expectedStatuses := postable
  newStatus := .retryableFailure
  transition := "slack_identity_retryable_failure"
  values := { writeStartedAt := some none }
  errorCode := some errorCode
  notBeforeDelay := some (knownUnsentDelay retryAfter)

def identityPermanentFailure (errorCode : String) : TransitionRequest where
  fence := task.executionFence
  actionId := action.id
  expectedStatuses := postable
  newStatus := .permanentFailure
  transition := "slack_identity_permanent_failure"
  values := { writeStartedAt := some none, reconcileNotBefore := some none }
  errorCode := some errorCode

def identityMismatch : TransitionRequest where
  fence := task.executionFence
  actionId := action.id
  expectedStatuses := postable
  newStatus := .needsHumanReview
  transition := "slack_identity_mismatch"
  values := { writeStartedAt := some none, reconcileNotBefore := some none }
  errorCode := some "slack_identity_mismatch"

def writeStarted : TransitionRequest where
  fence := task.executionFence
  actionId := action.id
  expectedStatuses := postable
  newStatus := .executing
  transition := "slack_write_started"
  settlementDelay := some settings.slackWriteTimeout

def retryableFailure (errorCode : String) (retryAfter : Option Duration) :
    TransitionRequest where
  fence := task.executionFence
  actionId := action.id
  expectedStatuses := [.executing]
  newStatus := .retryableFailure
  transition := "slack_retryable_failure"
  values := { writeStartedAt := some none }
  errorCode := some errorCode
  notBeforeDelay := some (knownUnsentDelay retryAfter)

def permanentFailure (errorCode : String) : TransitionRequest where
  fence := task.executionFence
  actionId := action.id
  expectedStatuses := [.executing]
  newStatus := .permanentFailure
  transition := "slack_permanent_failure"
  errorCode := some errorCode

def outcomeUnknown (errorCode : String) : TransitionRequest where
  fence := task.executionFence
  actionId := action.id
  expectedStatuses := [.executing]
  newStatus := .outcomeUnknown
  transition := "slack_outcome_unknown"
  errorCode := some errorCode

def writeSucceeded (receipt : SlackMessageReceipt) (desiredFingerprint : Digest) :
    TransitionRequest where
  fence := task.executionFence
  actionId := action.id
  expectedStatuses := [.executing]
  newStatus := .succeeded
  transition := "slack_write_succeeded"
  values := {
    providerResourceIdentifier := some (some receipt.providerResourceIdentifier)
    providerUrl := some none
    responseFingerprint := some (some (sha256Json (.dict [("channel", .str receipt.channel),
      ("timestamp", .str receipt.timestamp)])))
    appliedRequestFingerprint := some (some desiredFingerprint) }

end Transitions

/-- The end of `deliver`: the write is started, the message posted once, its outcome
recorded. -/
def post (settings : Settings) (task : TaskExecution) (action : ExternalAction)
    (providerRequest : SlackMessageRequest) (desiredFingerprint : Digest) :
    Handler SlackNotificationResult := do
  raiseIfCancelled
  let action ← perform (.transition (writeStarted settings task action))
  raiseIfCancelled
  match ← (perform (.postNotification providerRequest)).attempt with
  | .error (.slackRetryableFailure errorCode retryAfter) =>
    raiseIfOwnershipLost
    let action ← perform (.transition (retryableFailure task action errorCode retryAfter))
    raiseIfCancelled
    result .retryableFailure action (some errorCode)
  | .error (.slackPermanentFailure errorCode) =>
    raiseIfOwnershipLost
    let action ← perform (.transition (permanentFailure task action errorCode))
    raiseIfCancelled
    result .permanentFailure action (some errorCode)
  | .error (.slackOutcomeUnknown errorCode) =>
    raiseIfOwnershipLost
    let action ← perform (.transition (outcomeUnknown task action errorCode))
    raiseIfCancelled
    result .outcomeUnknown action (some errorCode)
  | .error x => .raise x
  | .ok receipt =>
    raiseIfOwnershipLost
    let action ← perform (.transition (writeSucceeded task action receipt desiredFingerprint))
    raiseIfCancelled
    result .succeeded action

/-- The middle of `deliver`: the identity is verified before anything is written. -/
def verifyAndPost (settings : Settings) (task : TaskExecution) (action : ExternalAction)
    (providerRequest : SlackMessageRequest) (desiredFingerprint : Digest) :
    Handler SlackNotificationResult := do
  raiseIfCancelled
  match ← (perform .verifySlackIdentity).attempt with
  | .error (.slackRetryableFailure errorCode retryAfter) =>
    raiseIfCancelled
    let action ← perform (.transition
      (identityRetryableFailure task action errorCode retryAfter))
    raiseIfCancelled
    result .retryableFailure action (some errorCode)
  | .error (.slackPermanentFailure errorCode) =>
    raiseIfCancelled
    let action ← perform (.transition (identityPermanentFailure task action errorCode))
    raiseIfCancelled
    result .permanentFailure action (some errorCode)
  | .error x => .raise x
  | .ok identityVerified =>
    raiseIfCancelled
    if identityVerified then
      post settings task action providerRequest desiredFingerprint
    else
      let action ← perform (.transition (identityMismatch task action))
      raiseIfCancelled
      result .needsHumanReview action (some "slack_identity_mismatch")

/-- `deliver` from its reservation on. -/
def deliverReserved (settings : Settings) (task : TaskExecution)
    (providerRequest : SlackMessageRequest) (desiredFingerprint : Digest)
    (reservation : ActionReservation) : Handler SlackNotificationResult :=
  let action := reservation.action
  if reservation.kind = .changed ∨ reservation.kind = .sourceDrift then
    result .needsHumanReview action (some "slack_action_evidence_changed")
  else match action.status with
  | .succeeded => result .succeeded action
  | .outcomeUnknown =>
    result .outcomeUnknown action
      (some (errorCodeOr action.lastErrorCode "slack_manual_reconciliation_required"))
  | .permanentFailure =>
    result .permanentFailure action
      (some (errorCodeOr action.lastErrorCode "slack_delivery_requires_attention"))
  | .needsHumanReview =>
    result .needsHumanReview action
      (some (errorCodeOr action.lastErrorCode "slack_delivery_requires_attention"))
  | .executing => do
    raiseIfCancelled
    let action ← perform (.transition (previousWriteUnresolved task action))
    result .outcomeUnknown action (some "slack_manual_reconciliation_required")
  | .retryableFailure => do
    let delay ← perform (.reconciliationDelaySeconds action.id)
    raiseIfCancelled
    if delay > 0 then
      result .retryableFailure action
        (some (errorCodeOr action.lastErrorCode "slack_retry_not_ready"))
    else
      verifyAndPost settings task action providerRequest desiredFingerprint
  | .reserved | .reconciling | .readyToExecute =>
    verifyAndPost settings task action providerRequest desiredFingerprint

def deliver (settings : Settings) (task : TaskExecution) (request : SlackDeliveryRequest) :
    Handler SlackNotificationResult := do
  raiseIfCancelled
  let message ← Prog.ofExcept (renderSlackNotification request.decision
    request.canonicalServiceId request.githubAction settings.slackMaxTextChars)
  let providerRequest ← Prog.ofExcept (SlackMessageRequest.validate request.channelId message)
  let scope ← Prog.ofExcept (slackActionScopeKey settings.deploymentScopeId
    settings.slackExpectedTeamId request.githubRepositoryId request.githubIssueNumber
    request.canonicalServiceId request.githubAction.revision request.channelId)
  let desiredFingerprint := sha256Json providerRequest.providerPayload
  let snapshotHash ← Prog.ofExcept (slackDecisionSnapshotHash request.decision
    request.githubAction request.channelId settings.slackExpectedTeamId)
  let reservation ← perform (.reserveOrGet {
    fence := task.executionFence
    provider := .slack
    operation := .postDeploymentContextNotification
    actionScopeKey := scope
    desiredRequestFingerprint := desiredFingerprint
    decisionSnapshotHash := snapshotHash })
  deliverReserved settings task providerRequest desiredFingerprint reservation

/-- A delivery whose texts and digests are known. -/
lemma deliver_eq {settings : Settings} {task : TaskExecution} {request : SlackDeliveryRequest}
    {message scope : String} {providerRequest : SlackMessageRequest}
    {desiredFingerprint snapshotHash : Digest}
    (hrender : renderSlackNotification request.decision request.canonicalServiceId
      request.githubAction settings.slackMaxTextChars = .ok message)
    (hvalidate : SlackMessageRequest.validate request.channelId message = .ok providerRequest)
    (hscope : slackActionScopeKey settings.deploymentScopeId settings.slackExpectedTeamId
      request.githubRepositoryId request.githubIssueNumber request.canonicalServiceId
      request.githubAction.revision request.channelId = .ok scope)
    (hdesired : sha256Json providerRequest.providerPayload = desiredFingerprint)
    (hsnapshot : slackDecisionSnapshotHash request.decision request.githubAction
      request.channelId settings.slackExpectedTeamId = .ok snapshotHash) :
    deliver settings task request = (do
      raiseIfCancelled
      let reservation ← perform (.reserveOrGet {
        fence := task.executionFence
        provider := .slack
        operation := .postDeploymentContextNotification
        actionScopeKey := scope
        desiredRequestFingerprint := desiredFingerprint
        decisionSnapshotHash := snapshotHash })
      deliverReserved settings task providerRequest desiredFingerprint reservation) := by
  subst hdesired
  simp only [deliver, hrender, hvalidate, hscope, hsnapshot, Prog.ofExcept, Prog.bind_eq,
    Prog.ret_bind]

end SlackDeliveryService

/-- One delivery to the action scope `scope`. -/
structure Delivery (scope : String) where
  settings : Settings
  task : TaskExecution
  request : SlackDeliveryRequest
  scope_eq : slackActionScopeKey settings.deploymentScopeId settings.slackExpectedTeamId
    request.githubRepositoryId request.githubIssueNumber request.canonicalServiceId
    request.githubAction.revision request.channelId = .ok scope

def Delivery.run [Runtime] {scope : String} (delivery : Delivery scope) :
    Handler SlackNotificationResult :=
  SlackDeliveryService.deliver delivery.settings delivery.task delivery.request

end DeploymentLab
