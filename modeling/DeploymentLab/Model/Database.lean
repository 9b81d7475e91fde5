import DeploymentLab.Model.Tasks

/-!
# The database

The rows of the integration tables with their constraints, and the five tables together.
-/

namespace DeploymentLab

open Relational

structure SourceArtifact where
  id : UUID
  taskId : UUID
  observedByAttemptId : UUID
  provider : String
  resourceType : String
  providerResourceIdentifier : String
  canonicalSourceUrl : String
  sourceVersion : String
  schemaVersion : ℤ := 1
  dataClassification : DataClassification
  redactionApplied : Bool
  retentionUntil : Timestamp
  normalizedPayload : JsonValue
  contentHash : Digest
  payloadSizeBytes : ℕ
  fetchedAt : Timestamp

structure ExternalAction where
  id : UUID
  taskId : UUID
  currentAttemptId : UUID
  provider : ExternalActionProvider
  operation : ExternalActionOperation
  actionScopeKey : String
  desiredRequestFingerprint : Digest
  appliedRequestFingerprint : Option Digest := none
  decisionSnapshotHash : Digest
  revision : ℤ := 1
  status : ExternalActionStatus
  providerResourceIdentifier : Option String := none
  providerUrl : Option String := none
  responseFingerprint : Option Digest := none
  actionAttemptCount : ℤ := 1
  lastErrorCode : Option String := none
  lastErrorSummary : Option String := none
  reservedAt : Timestamp
  lastAttemptAt : Timestamp
  writeStartedAt : Option Timestamp := none
  reconcileNotBefore : Option Timestamp := none
  completedAt : Option Timestamp := none
  createdAt : Timestamp
  updatedAt : Timestamp
  deriving DecidableEq

structure ExternalActionAttempt where
  id : UUID
  externalActionId : UUID
  taskId : UUID
  taskAttemptId : UUID
  sequenceNumber : ℤ
  transition : String
  previousStatus : Option ExternalActionStatus
  newStatus : ExternalActionStatus
  revision : ℤ
  errorCode : Option String

instance : Keyed SourceArtifact where
  Id := UUID
  Unique := UUID × String × String × String × String × Digest
  id a := a.id
  unique a := (a.taskId, a.provider, a.resourceType, a.providerResourceIdentifier,
    a.sourceVersion, a.contentHash)

instance : Keyed ExternalAction where
  Id := UUID
  Unique := String
  id a := a.id
  unique a := a.actionScopeKey

instance : Keyed ExternalActionAttempt where
  Id := UUID
  Unique := UUID × ℤ
  id a := a.id
  unique a := (a.externalActionId, a.sequenceNumber)

/-- The `CheckConstraint`s of `SourceArtifact`. -/
def SourceArtifact.checkConstraints (a : SourceArtifact) : List (String × Bool) :=
  [("ck_source_artifacts_provider",
      a.provider == "service_catalog" || a.provider == "jira" || a.provider == "github"),
    ("ck_source_artifacts_payload_object", a.normalizedPayload.isDict),
    ("ck_source_artifacts_size_positive", decide (0 < a.payloadSizeBytes)),
    ("ck_source_artifacts_retention", decide (a.fetchedAt < a.retentionUntil))]

/-- The `CheckConstraint`s of `ExternalAction`. Those on the status and on the three digests
hold of every row by its type. -/
def ExternalAction.checkConstraints (a : ExternalAction) : List (String × Bool) :=
  [("ck_external_actions_revision_positive", decide (1 ≤ a.revision)),
    ("ck_external_actions_attempt_count_positive", decide (1 ≤ a.actionAttemptCount)),
    ("ck_external_actions_completion",
      (a.status == .succeeded && a.providerResourceIdentifier.isSome &&
        a.appliedRequestFingerprint.isSome && a.completedAt.isSome) ||
      (a.status != .succeeded && a.completedAt.isNone)),
    ("ck_external_actions_unknown_write",
      a.status != .outcomeUnknown || a.writeStartedAt.isSome)]

/-- The `CheckConstraint`s of `ExternalActionAttempt`. -/
def ExternalActionAttempt.checkConstraints (a : ExternalActionAttempt) : List (String × Bool) :=
  [("ck_external_action_attempts_sequence_positive", decide (1 ≤ a.sequenceNumber))]

structure Database where
  tasks : Table Task := Table.empty
  taskAttempts : Table TaskAttempt := Table.empty
  sourceArtifacts : Table SourceArtifact := Table.empty
  externalActions : Table ExternalAction := Table.empty
  externalActionAttempts : Table ExternalActionAttempt := Table.empty

namespace Database

variable (db : Database)

def task (id : UUID) : Option Task := db.tasks.find? fun t => t.id == id

def action (id : UUID) : Option ExternalAction := db.externalActions.find? fun a => a.id == id

def actionAt (scope : String) : Option ExternalAction :=
  db.externalActions.find? fun a => a.actionScopeKey == scope

/-- No row has the identifier `id`, as with every value of `uuid4`. -/
def unused (id : UUID) : Bool :=
  db.sourceArtifacts.rows.all (·.id != id) && db.externalActions.rows.all (·.id != id) &&
    db.externalActionAttempts.rows.all (·.id != id)

end Database

end DeploymentLab
