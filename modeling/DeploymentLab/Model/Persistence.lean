import DeploymentLab.Model.Database
import DeploymentLab.Model.Url

/-!
# The evidence store and the ledger of external actions

Every function is one transaction: it reads the clock once, `now`, and either commits the
database it returns or raises and leaves the database as it was. Identifiers that the source
draws from `uuid4` are arguments.
-/

namespace DeploymentLab

open Relational

structure ExecutionFence where
  taskId : UUID
  attemptId : UUID
  attemptNumber : ℤ
  workerId : String
  leaseTokenHash : Digest
  deriving DecidableEq

/-- The two conditions of `_assert_active_fence` on the task and on its attempt. -/
def ExecutionFence.ownsTask (fence : ExecutionFence) (now : Timestamp) (t : Task) : Bool :=
  t.id == fence.taskId && t.status == .running && t.workerId == some fence.workerId &&
    t.attemptCount == fence.attemptNumber && t.leaseTokenHash == some fence.leaseTokenHash &&
    t.leaseExpiresAt.any fun expires => decide (now < expires)

def ExecutionFence.ownsAttempt (fence : ExecutionFence) (a : TaskAttempt) : Bool :=
  a.id == fence.attemptId && a.taskId == fence.taskId &&
    a.attemptNumber == fence.attemptNumber && a.leaseTokenHash == fence.leaseTokenHash &&
    a.status == .running

def ExecutionFence.active (fence : ExecutionFence) (now : Timestamp) (db : Database) : Bool :=
  (db.tasks.find? (fence.ownsTask now)).isSome &&
    (db.taskAttempts.find? fence.ownsAttempt).isSome

def fenceNotConfirmed : Exn :=
  .executionInvariantError "active task execution fence was not confirmed"

def assertActiveFence (db : Database) (fence : ExecutionFence) (now : Timestamp) :
    Except Exn Unit :=
  if fence.active now db then .ok () else .error fenceNotConfirmed

/-! ## Source artifacts -/

structure ArtifactRequest where
  fence : ExecutionFence
  provider : String
  resourceType : String
  providerResourceIdentifier : String
  sourceUrl : String
  sourceVersion : String
  dataClassification : DataClassification
  redactionApplied : Bool
  normalizedPayload : JsonValue
  fetchedAt : Timestamp

def retentionDays : DataClassification → ℤ
  | .«public» => 90
  | .internal => 30
  | .confidential => 7
  | .restricted => 1

def days (n : ℤ) : Duration := n * 86400000000

namespace SourceArtifactRepository

/-- `SourceArtifactRepository.record`: insert one observation, or return the row that has it. -/
def record [Runtime] (maximumBytes : ℕ) (db : Database) (now : Timestamp) (id : UUID)
    (request : ArtifactRequest) : Except Exn (SourceArtifact × Database) := do
  let serialized := canonicalJson request.normalizedPayload
  if serialized = "" ∨ maximumBytes < serialized.utf8ByteSize then
    throw (.valueError "source artifact exceeds its configured size limit")
  let contentHash := sha256Json request.normalizedPayload
  assertActiveFence db request.fence now
  let url ← canonicalSourceUrl request.sourceUrl
  let artifact : SourceArtifact := {
    id
    taskId := request.fence.taskId
    observedByAttemptId := request.fence.attemptId
    provider := request.provider
    resourceType := request.resourceType
    providerResourceIdentifier := request.providerResourceIdentifier
    canonicalSourceUrl := url
    sourceVersion := request.sourceVersion
    dataClassification := request.dataClassification
    redactionApplied := request.redactionApplied
    retentionUntil :=
      max now request.fetchedAt + days (retentionDays request.dataClassification)
    normalizedPayload := request.normalizedPayload
    contentHash
    payloadSizeBytes := serialized.utf8ByteSize
    fetchedAt := request.fetchedAt }
  requireConstraints artifact.checkConstraints
  let observed := db.sourceArtifacts.find? fun a =>
    Keyed.unique a == Keyed.unique artifact
  match observed with
  | some existing => pure (existing, db)
  | none =>
    match db.sourceArtifacts.insert artifact with
    | some sourceArtifacts => pure (artifact, { db with sourceArtifacts })
    | none => throw (.integrityError "source_artifacts_pkey")

end SourceArtifactRepository

/-! ## External actions -/

structure ActionReservation where
  action : ExternalAction
  kind : ActionReservationKind

structure ReservationRequest where
  fence : ExecutionFence
  provider : ExternalActionProvider
  operation : ExternalActionOperation
  actionScopeKey : String
  desiredRequestFingerprint : Digest
  decisionSnapshotHash : Digest
  deriving DecidableEq

/-- The columns that callers of `transition` set besides those it sets itself; `none` leaves a
column alone. -/
structure ActionValues where
  providerResourceIdentifier : Option (Option String) := none
  providerUrl : Option (Option String) := none
  appliedRequestFingerprint : Option (Option Digest) := none
  responseFingerprint : Option (Option Digest) := none
  writeStartedAt : Option (Option Timestamp) := none
  reconcileNotBefore : Option (Option Timestamp) := none
  completedAt : Option (Option Timestamp) := none
  deriving DecidableEq

structure TransitionRequest where
  fence : ExecutionFence
  actionId : UUID
  expectedStatuses : List ExternalActionStatus
  newStatus : ExternalActionStatus
  transition : String
  values : ActionValues := {}
  errorCode : Option String := none
  settlementDelay : Option Duration := none
  notBeforeDelay : Option Duration := none
  deriving DecidableEq

structure RevisionRequest where
  fence : ExecutionFence
  actionId : UUID
  expectedRevision : ℤ
  desiredRequestFingerprint : Digest
  decisionSnapshotHash : Digest
  deriving DecidableEq

def supportedExternalActions : List (ExternalActionProvider × ExternalActionOperation) :=
  [(.github, .upsertDeploymentContextComment), (.slack, .postDeploymentContextNotification)]

namespace ExternalActionRepository

/-- `_lock_action`. -/
def lockAction (db : Database) (id : UUID) : Except Exn ExternalAction :=
  match db.action id with
  | some action => .ok action
  | none => .error .noResultFound

/-- `UPDATE external_actions`, which fails when a row it writes breaks a constraint, and the
number of rows it affects. -/
def updateActions (db : Database) (p : ExternalAction → Bool)
    (f : ExternalAction → ExternalAction) (hf : ∀ a, Keyed.key (f a) = Keyed.key a) :
    Except Exn (ℕ × Database) := do
  requireConstraints ((db.externalActions.rows.filter p).flatMap fun a =>
    (f a).checkConstraints)
  pure (db.externalActions.count p,
    { db with externalActions := db.externalActions.update p f hf })

/-- Append one row of `_attempt` to the history. -/
def appendAttempt (db : Database) (attempt : ExternalActionAttempt) : Except Exn Database := do
  requireConstraints attempt.checkConstraints
  match db.externalActionAttempts.insert attempt with
  | some externalActionAttempts => pure { db with externalActionAttempts }
  | none => throw (.integrityError "uq_external_action_attempts_sequence")

/-- The columns that every ledger write sets. -/
def touch (fence : ExecutionFence) (now : Timestamp) (a : ExternalAction) : ExternalAction :=
  { a with
    taskId := fence.taskId
    currentAttemptId := fence.attemptId
    actionAttemptCount := a.actionAttemptCount + 1
    lastAttemptAt := now
    updatedAt := now }

/-- `_append_same_status`. -/
def appendSameStatus (db : Database) (now : Timestamp) (attemptId : UUID)
    (action : ExternalAction) (fence : ExecutionFence) (transition : String) :
    Except Exn Database := do
  let sequence := action.actionAttemptCount + 1
  let (rowcount, db) ← updateActions db
    (fun a => a.id == action.id && a.actionAttemptCount == action.actionAttemptCount)
    (touch fence now) fun _ => rfl
  requireOneRow rowcount "external action replay"
  appendAttempt db {
    id := attemptId
    externalActionId := action.id
    taskId := fence.taskId
    taskAttemptId := fence.attemptId
    sequenceNumber := sequence
    transition
    previousStatus := some action.status
    newStatus := action.status
    revision := action.revision
    errorCode := none }

def reservedAction (now : Timestamp) (id : UUID) (request : ReservationRequest) :
    ExternalAction where
  id := id
  taskId := request.fence.taskId
  currentAttemptId := request.fence.attemptId
  provider := request.provider
  operation := request.operation
  actionScopeKey := request.actionScopeKey
  desiredRequestFingerprint := request.desiredRequestFingerprint
  decisionSnapshotHash := request.decisionSnapshotHash
  revision := 1
  status := .reserved
  actionAttemptCount := 1
  reservedAt := now
  lastAttemptAt := now
  createdAt := now
  updatedAt := now

/-- How a reservation relates to the row that its scope already has. -/
def reservationKind (request : ReservationRequest) (action : ExternalAction) :
    ActionReservationKind :=
  if action.desiredRequestFingerprint = request.desiredRequestFingerprint then
    if action.decisionSnapshotHash = request.decisionSnapshotHash then .replay
    else .sourceDrift
  else .changed

def reserveOrGet (db : Database) (now : Timestamp) (actionId attemptId : UUID)
    (request : ReservationRequest) : Except Exn (ActionReservation × Database) := do
  if (request.provider, request.operation) ∉ supportedExternalActions then
    throw (.valueError "unsupported external-action provider and operation")
  assertActiveFence db request.fence now
  match db.actionAt request.actionScopeKey with
  | none =>
    let inserted := reservedAction now actionId request
    requireConstraints inserted.checkConstraints
    match db.externalActions.insert inserted with
    | none => throw (.integrityError "external_actions_pkey")
    | some externalActions =>
      let db := { db with externalActions }
      let action ← lockAction db actionId
      let db ← appendAttempt db {
        id := attemptId
        externalActionId := action.id
        taskId := request.fence.taskId
        taskAttemptId := request.fence.attemptId
        sequenceNumber := 1
        transition := "reserved"
        previousStatus := none
        newStatus := .reserved
        revision := action.revision
        errorCode := none }
      pure ({ action, kind := .created }, db)
  | some action =>
    if action.provider ≠ request.provider ∨ action.operation ≠ request.operation then
      throw (.executionInvariantError
        "external action scope belongs to another provider operation")
    let kind := reservationKind request action
    let db ← appendSameStatus db now attemptId action request.fence
      ("reservation_" ++ kind.value)
    -- The instance the caller gets is the one the session has refreshed by the update.
    let action ← lockAction db action.id
    pure ({ action, kind }, db)

/-- The row that `transition` writes over `a`: `values` overrides the columns that every
transition sets, and completion and the two delays override `values`. -/
def transitioned (now : Timestamp) (request : TransitionRequest) (a : ExternalAction) :
    ExternalAction :=
  { touch request.fence now a with
    status := request.newStatus
    lastErrorCode := request.errorCode
    lastErrorSummary := request.errorCode.map fun _ =>
      "External provider action requires attention"
    providerResourceIdentifier :=
      request.values.providerResourceIdentifier.getD a.providerResourceIdentifier
    providerUrl := request.values.providerUrl.getD a.providerUrl
    appliedRequestFingerprint :=
      request.values.appliedRequestFingerprint.getD a.appliedRequestFingerprint
    responseFingerprint := request.values.responseFingerprint.getD a.responseFingerprint
    completedAt :=
      if request.newStatus = .succeeded then some now
      else request.values.completedAt.getD a.completedAt
    writeStartedAt :=
      if request.settlementDelay.isSome then some now
      else request.values.writeStartedAt.getD a.writeStartedAt
    reconcileNotBefore :=
      match request.notBeforeDelay, request.settlementDelay with
      | some delay, _ => some (now + delay)
      | none, some delay => some (now + delay)
      | none, none => request.values.reconcileNotBefore.getD a.reconcileNotBefore }

def stateChanged : Exn :=
  .executionInvariantError "external action state changed unexpectedly"

def transition (db : Database) (now : Timestamp) (attemptId : UUID)
    (request : TransitionRequest) : Except Exn (ExternalAction × Database) := do
  if request.settlementDelay.isSome ∧ request.notBeforeDelay.isSome then
    throw (.valueError "a transition cannot set both write settlement and retry delays")
  if (request.settlementDelay.any fun delay => decide (delay < 0)) ∨
      (request.notBeforeDelay.any fun delay => decide (delay < 0)) then
    throw (.valueError "external action delays must not be negative")
  assertActiveFence db request.fence now
  let action ← lockAction db request.actionId
  let previous := action.status
  if previous ∉ request.expectedStatuses then
    throw stateChanged
  let sequence := action.actionAttemptCount + 1
  let (rowcount, db) ← updateActions db
    (fun a => a.id == action.id && a.status == previous &&
      a.actionAttemptCount == action.actionAttemptCount)
    (transitioned now request) fun _ => rfl
  requireOneRow rowcount "external action transition"
  let db ← appendAttempt db {
    id := attemptId
    externalActionId := action.id
    taskId := request.fence.taskId
    taskAttemptId := request.fence.attemptId
    sequenceNumber := sequence
    transition := request.transition
    previousStatus := some previous
    newStatus := request.newStatus
    revision := action.revision
    errorCode := request.errorCode }
  let updated ← lockAction db action.id
  pure (updated, db)

/-- The row that `revise` writes over `a`. -/
def revised (now : Timestamp) (request : RevisionRequest) (a : ExternalAction) :
    ExternalAction :=
  { touch request.fence now a with
    desiredRequestFingerprint := request.desiredRequestFingerprint
    decisionSnapshotHash := request.decisionSnapshotHash
    revision := request.expectedRevision + 1
    status := .reserved
    completedAt := none }

def revise (db : Database) (now : Timestamp) (attemptId : UUID) (request : RevisionRequest) :
    Except Exn (ExternalAction × Database) := do
  assertActiveFence db request.fence now
  let action ← lockAction db request.actionId
  if action.status ≠ .succeeded ∨ action.revision ≠ request.expectedRevision ∨
      action.providerResourceIdentifier = none then
    throw (.executionInvariantError "external action cannot be revised")
  let sequence := action.actionAttemptCount + 1
  let (rowcount, db) ← updateActions db
    (fun a => a.id == action.id && a.revision == request.expectedRevision &&
      a.status == .succeeded)
    (revised now request) fun _ => rfl
  requireOneRow rowcount "external action revision"
  let db ← appendAttempt db {
    id := attemptId
    externalActionId := action.id
    taskId := request.fence.taskId
    taskAttemptId := request.fence.attemptId
    sequenceNumber := sequence
    transition := "revision_reserved"
    previousStatus := some .succeeded
    newStatus := .reserved
    revision := request.expectedRevision + 1
    errorCode := none }
  let updated ← lockAction db action.id
  pure (updated, db)

/-- The delay, by the database clock, before another attempt at the action. -/
def reconciliationDelaySeconds (db : Database) (now : Timestamp) (actionId : UUID) : Duration :=
  match (db.action actionId).bind (·.reconcileNotBefore) with
  | some notBefore => max 0 (notBefore - now)
  | none => 0

end ExternalActionRepository

end DeploymentLab
