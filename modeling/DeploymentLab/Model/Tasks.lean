import DeploymentLab.Library.Table
import DeploymentLab.Model.Vocabulary

/-!
# Tasks and their attempts

The rows of `tasks` and `task_attempts` with their constraints, and the lifecycle of a task.
-/

namespace DeploymentLab

open Relational

structure Task where
  id : UUID
  idempotencyKey : String
  requestFingerprint : Digest
  taskType : String
  taskInput : JsonValue
  status : TaskStatus
  attemptCount : ℤ := 0
  maxAttempts : ℤ := 3
  availableAt : Option Timestamp := none
  workerId : Option String := none
  leaseTokenHash : Option Digest := none
  leaseExpiresAt : Option Timestamp := none
  lastHeartbeatAt : Option Timestamp := none
  cancellationRequestedAt : Option Timestamp := none
  result : Option JsonValue := none
  lastErrorCode : Option String := none
  lastErrorSummary : Option String := none
  createdAt : Timestamp
  updatedAt : Timestamp

structure TaskAttempt where
  id : UUID
  taskId : UUID
  attemptNumber : ℤ
  workerId : String
  leaseTokenHash : Digest
  status : AttemptStatus
  startedAt : Timestamp
  lastHeartbeatAt : Timestamp
  finishedAt : Option Timestamp := none
  errorCode : Option String := none
  errorSummary : Option String := none
  terminalReason : Option String := none

instance : Keyed Task where
  Id := UUID
  Unique := String
  id t := t.id
  unique t := t.idempotencyKey

instance : Keyed TaskAttempt where
  Id := UUID
  Unique := UUID × ℤ
  id a := a.id
  unique a := (a.taskId, a.attemptNumber)

/-- `^[a-z][a-z0-9_]{0,99}$` -/
def taskTypePattern (s : String) : Bool :=
  match s.toList with
  | [] => false
  | c :: cs => c.isLower && decide (cs.length ≤ 99) &&
      cs.all fun c => c.isLower || c.isDigit || c == '_'

/-- The `CheckConstraint`s of `Task`. Those on the status and on the two digests hold of
every row by its type. -/
def Task.checkConstraints (t : Task) : List (String × Bool) :=
  [("ck_tasks_idempotency_key_length",
      decide (1 ≤ t.idempotencyKey.length ∧ t.idempotencyKey.length ≤ 255)),
    ("ck_tasks_task_type", taskTypePattern t.taskType),
    ("ck_tasks_input_object", t.taskInput.isDict),
    ("ck_tasks_attempt_count_nonnegative", decide (0 ≤ t.attemptCount)),
    ("ck_tasks_max_attempts_positive", decide (1 ≤ t.maxAttempts)),
    ("ck_tasks_attempt_count_within_max", decide (t.attemptCount ≤ t.maxAttempts)),
    ("ck_tasks_approved_available", t.status != .approved || t.availableAt.isSome),
    ("ck_tasks_active_lease",
      (t.status == .running && t.workerId.isSome && t.leaseTokenHash.isSome &&
        t.leaseExpiresAt.isSome && t.lastHeartbeatAt.isSome && decide (0 < t.attemptCount)) ||
      (t.status != .running && t.workerId.isNone && t.leaseTokenHash.isNone &&
        t.leaseExpiresAt.isNone && t.lastHeartbeatAt.isNone)),
    ("ck_tasks_result_state",
      (t.status == .succeeded && t.result.any JsonValue.isDict) ||
      (t.status != .succeeded && t.result.isNone)),
    ("ck_tasks_cancellation_state",
      t.cancellationRequestedAt.isNone || t.status == .running || t.status == .cancelled)]

/-- The `CheckConstraint`s of `TaskAttempt`. -/
def TaskAttempt.checkConstraints (a : TaskAttempt) : List (String × Bool) :=
  [("ck_task_attempts_number_positive", decide (0 < a.attemptNumber)),
    ("ck_task_attempts_finished_state",
      (a.status == .running && a.finishedAt.isNone) ||
      (a.status != .running && a.finishedAt.isSome))]

/-- `_TRANSITIONS`. -/
def transitions : TaskCommand → TaskStatus → Option TaskStatus
  | .approve, .pendingApproval => some .approved
  | .approve, .approved => some .approved
  | .cancel, .pendingApproval => some .cancelled
  | .cancel, .approved => some .cancelled
  | .cancel, .running => some .running
  | .cancel, .cancelled => some .cancelled
  | .start, .approved => some .running
  | .succeed, .running => some .succeeded
  | .fail, .running => some .failed
  | .retry, .running => some .approved
  | .finalizeCancellation, .running => some .cancelled
  | _, _ => none

def applyTaskCommand (currentStatus : TaskStatus) (command : TaskCommand) :
    Except Exn TaskStatus :=
  match transitions command currentStatus with
  | some newStatus => .ok newStatus
  | none => .error (.invalidTaskTransitionError currentStatus command)

structure CancellationDecision where
  newStatus : TaskStatus
  requestCancellation : Bool

def decideCancellation (currentStatus : TaskStatus) (alreadyRequested : Bool) :
    Except Exn CancellationDecision := do
  let newStatus ← applyTaskCommand currentStatus .cancel
  pure {
    newStatus
    requestCancellation :=
      (currentStatus == .pendingApproval || currentStatus == .approved ||
        currentStatus == .running) && !alreadyRequested }

end DeploymentLab
