import DeploymentLab.Model.Persistence
import DeploymentLab.Model.TaskService

/-!
# The worker repository

The token-fenced transactions by which workers claim tasks, keep their leases, finish their
attempts and recover attempts whose lease has expired.
-/

namespace DeploymentLab

open Relational

inductive FenceResult
  | applied | cancellationRequested | stale
  deriving DecidableEq, Repr

inductive HeartbeatResult
  | active | cancellationRequested
  deriving DecidableEq, Repr

structure ClaimedTask where
  taskId : UUID
  attemptId : UUID
  attemptNumber : ℤ
  maxAttempts : ℤ
  workerId : String
  leaseTokenHash : Digest
  taskType : String
  taskInput : JsonValue
  deriving DecidableEq

def ClaimedTask.executionFence (claim : ClaimedTask) : ExecutionFence where
  taskId := claim.taskId
  attemptId := claim.attemptId
  attemptNumber := claim.attemptNumber
  workerId := claim.workerId
  leaseTokenHash := claim.leaseTokenHash

structure RecoveryResult where
  taskId : UUID
  attemptId : UUID
  attemptNumber : ℤ
  previousWorkerId : String
  newStatus : TaskStatus
  nextAttemptAt : Option Timestamp
  terminalReason : String

/-- The columns of the task that `_finalize` sets for its callers. -/
structure TaskValues where
  status : TaskStatus
  availableAt : Option Timestamp
  result : Option JsonValue
  lastErrorCode : Option String
  lastErrorSummary : Option String

/-- The columns of the attempt that `_finalize` sets for its callers; an error code or summary
of `none` leaves the column alone. -/
structure AttemptValues where
  status : AttemptStatus
  errorCode : Option String := none
  errorSummary : Option String := none
  terminalReason : String

/-- The arguments of `_finalize`. -/
structure Finalization where
  databaseNow : Timestamp
  claim : ClaimedTask
  requiredCancellation : Bool
  taskValues : TaskValues
  attemptValues : AttemptValues

namespace WorkerRepository

/-- `_active_fence`. -/
def activeFence (claim : ClaimedTask) (databaseNow : Timestamp) (t : Task) : Bool :=
  t.id == claim.taskId && t.status == .running && t.workerId == some claim.workerId &&
    t.attemptCount == claim.attemptNumber && t.leaseTokenHash == some claim.leaseTokenHash &&
    t.leaseExpiresAt.any fun expires => decide (databaseNow < expires)

/-- The condition by which heartbeats and finalisers address the attempt of their claim. -/
def claimedAttempt (claim : ClaimedTask) (a : TaskAttempt) : Bool :=
  a.taskId == claim.taskId && a.attemptNumber == claim.attemptNumber &&
    a.leaseTokenHash == claim.leaseTokenHash && a.status == .running

/-- The first row in an order, among those that no other transaction has locked. -/
def selectForUpdate (db : Database) (locked : List UUID) (le : Task → Task → Bool)
    (p : Task → Bool) : Option Task :=
  ((db.tasks.rows.filter fun t => p t && !locked.contains t.id).insertionSort
    fun s t => le s t).head?

/-- `ORDER BY available_at, created_at, id`. -/
def claimOrder (s t : Task) : Bool :=
  let key (t : Task) := (t.availableAt.getD 0, t.createdAt, t.id.toNat)
  decide (key s = key t) || decide (Prod.Lex (· < ·) (Prod.Lex (· < ·) (· < ·)) (key s) (key t))

/-- `ORDER BY lease_expires_at, id`. -/
def recoveryOrder (s t : Task) : Bool :=
  let key (t : Task) := (t.leaseExpiresAt.getD 0, t.id.toNat)
  decide (key s = key t) || decide (Prod.Lex (· < ·) (· < ·) (key s) (key t))

def claimable (supportedTaskTypes : List String) (dueAt : Timestamp) (t : Task) : Bool :=
  t.status == .approved && (t.availableAt.any fun available => decide (available ≤ dueAt)) &&
    decide (t.attemptCount < t.maxAttempts) && supportedTaskTypes.contains t.taskType

/-- The row that `claim_one` writes over `t`. -/
def claimedRow (tokenHash : Digest) (workerId : String) (leaseDuration : Duration)
    (databaseNow : Timestamp) (t : Task) : Task :=
  { t with
    status := .running
    workerId := some workerId
    leaseTokenHash := some tokenHash
    leaseExpiresAt := some (databaseNow + leaseDuration)
    lastHeartbeatAt := some databaseNow
    availableAt := none
    attemptCount := t.attemptCount + 1
    updatedAt := nextUpdatedAt t.updatedAt databaseNow
    result := none }

lemma key_claimedRow (tokenHash : Digest) (workerId : String) (leaseDuration : Duration)
    (databaseNow : Timestamp) (t : Task) :
    Keyed.key (claimedRow tokenHash workerId leaseDuration databaseNow t) = Keyed.key t := rfl

def startedAttempt (attemptId : UUID) (tokenHash : Digest) (workerId : String)
    (databaseNow : Timestamp) (t : Task) : TaskAttempt where
  id := attemptId
  taskId := t.id
  attemptNumber := t.attemptCount + 1
  workerId := workerId
  leaseTokenHash := tokenHash
  status := .running
  startedAt := databaseNow
  lastHeartbeatAt := databaseNow

def claimOf (attemptId : UUID) (tokenHash : Digest) (workerId : String) (t : Task) :
    ClaimedTask where
  taskId := t.id
  attemptId := attemptId
  attemptNumber := t.attemptCount + 1
  maxAttempts := t.maxAttempts
  workerId := workerId
  leaseTokenHash := tokenHash
  taskType := t.taskType
  taskInput := t.taskInput

/-- `claim_one`; the filter reads the clock at `dueAt`, the rest of the transaction at
`databaseNow`. -/
def claimOne (db : Database) (dueAt databaseNow : Timestamp) (locked : List UUID)
    (attemptId : UUID) (tokenHash : Digest) (supportedTaskTypes : List String)
    (workerId : String) (leaseDuration : Duration) :
    Except Exn (Option ClaimedTask × Database) := do
  if supportedTaskTypes = [] then
    return (none, db)
  match selectForUpdate db locked claimOrder (claimable supportedTaskTypes dueAt) with
  | none => pure (none, db)
  | some task =>
    let _ ← applyTaskCommand task.status .start
    let (_, db) ← updateTasks db (fun t => t.id == task.id)
      (claimedRow tokenHash workerId leaseDuration databaseNow)
      (key_claimedRow tokenHash workerId leaseDuration databaseNow)
    let attempt := startedAttempt attemptId tokenHash workerId databaseNow task
    requireConstraints attempt.checkConstraints
    match db.taskAttempts.insert attempt with
    | none => throw (.integrityError "uq_task_attempts_task_number")
    | some taskAttempts =>
      pure (some (claimOf attemptId tokenHash workerId task), { db with taskAttempts })

def fenceNotMatched : Exn := .executionInvariantError "active task fence did not match"

/-- The row that `heartbeat` writes over `t`. -/
def beatenRow (leaseDuration : Duration) (databaseNow : Timestamp) (t : Task) : Task :=
  { t with
    lastHeartbeatAt := some databaseNow
    leaseExpiresAt :=
      if t.cancellationRequestedAt.isNone then some (databaseNow + leaseDuration)
      else t.leaseExpiresAt }

lemma key_beatenRow (leaseDuration : Duration) (databaseNow : Timestamp) (t : Task) :
    Keyed.key (beatenRow leaseDuration databaseNow t) = Keyed.key t := rfl

def beatenAttempt (databaseNow : Timestamp) (a : TaskAttempt) : TaskAttempt :=
  { a with lastHeartbeatAt := databaseNow }

lemma key_beatenAttempt (databaseNow : Timestamp) (a : TaskAttempt) :
    Keyed.key (beatenAttempt databaseNow a) = Keyed.key a := rfl

def heartbeat (db : Database) (databaseNow : Timestamp) (claim : ClaimedTask)
    (leaseDuration : Duration) : Except Exn (HeartbeatResult × Database) := do
  let heartbeatRow := db.tasks.find? (activeFence claim databaseNow)
  let (_, db) ← updateTasks db (activeFence claim databaseNow)
    (beatenRow leaseDuration databaseNow) (key_beatenRow leaseDuration databaseNow)
  match heartbeatRow with
  | none => throw fenceNotMatched
  | some task =>
    let (rowcount, db) ← updateTaskAttempts db (claimedAttempt claim)
      (beatenAttempt databaseNow) (key_beatenAttempt databaseNow)
    requireOneRow rowcount "heartbeat attempt"
    if task.cancellationRequestedAt.isSome then pure (.cancellationRequested, db)
    else pure (.active, db)

/-- `_classify_failed_fence`. -/
def classifyFailedFence (db : Database) (databaseNow : Timestamp) (claim : ClaimedTask) :
    FenceResult :=
  match db.tasks.find? (activeFence claim databaseNow) with
  | some task => if task.cancellationRequestedAt.isSome then .cancellationRequested else .stale
  | none => .stale

/-- The row that `_finalize` writes over `t`. -/
def finalizedRow (values : TaskValues) (databaseNow : Timestamp) (t : Task) : Task :=
  { t with
    status := values.status
    availableAt := values.availableAt
    result := values.result
    lastErrorCode := values.lastErrorCode
    lastErrorSummary := values.lastErrorSummary
    workerId := none
    leaseTokenHash := none
    leaseExpiresAt := none
    lastHeartbeatAt := none
    updatedAt := max databaseNow (t.updatedAt + 1) }

lemma key_finalizedRow (values : TaskValues) (databaseNow : Timestamp) (t : Task) :
    Keyed.key (finalizedRow values databaseNow t) = Keyed.key t := rfl

def finalizedAttempt (values : AttemptValues) (databaseNow : Timestamp) (a : TaskAttempt) :
    TaskAttempt :=
  { a with
    status := values.status
    errorCode := values.errorCode.or a.errorCode
    errorSummary := values.errorSummary.or a.errorSummary
    terminalReason := some values.terminalReason
    finishedAt := some databaseNow }

lemma key_finalizedAttempt (values : AttemptValues) (databaseNow : Timestamp) (a : TaskAttempt) :
    Keyed.key (finalizedAttempt values databaseNow a) = Keyed.key a := rfl

/-- The rows that a finaliser may close: under the active fence of its claim, and cancelled or
not as the finaliser requires. -/
def finalizationFence (f : Finalization) (t : Task) : Bool :=
  activeFence f.claim f.databaseNow t &&
    t.cancellationRequestedAt.isSome == f.requiredCancellation

/-- `_finalize`. -/
def finalize (db : Database) (f : Finalization) : Except Exn (FenceResult × Database) := do
  let (rowcount, db) ← updateTasks db (finalizationFence f)
    (finalizedRow f.taskValues f.databaseNow) (key_finalizedRow f.taskValues f.databaseNow)
  if rowcount = 0 then
    pure (classifyFailedFence db f.databaseNow f.claim, db)
  else
    requireOneRow rowcount "finalized task"
    let (rowcount, db) ← updateTaskAttempts db (claimedAttempt f.claim)
      (finalizedAttempt f.attemptValues f.databaseNow)
      (key_finalizedAttempt f.attemptValues f.databaseNow)
    requireOneRow rowcount "finalized attempt"
    pure (.applied, db)

def succeeding (databaseNow : Timestamp) (claim : ClaimedTask) (result : JsonValue) :
    Finalization where
  databaseNow := databaseNow
  claim := claim
  requiredCancellation := false
  taskValues := {
    status := .succeeded
    result := some result
    availableAt := none
    lastErrorCode := none
    lastErrorSummary := none }
  attemptValues := { status := .succeeded, terminalReason := "completed" }

def finalizeSuccess (db : Database) (databaseNow : Timestamp) (claim : ClaimedTask)
    (result : JsonValue) : Except Exn (FenceResult × Database) :=
  finalize db (succeeding databaseNow claim result)

def retrying (databaseNow retryNow : Timestamp) (claim : ClaimedTask) (delay : Duration)
    (errorCode errorSummary terminalReason : String) : Finalization where
  databaseNow := databaseNow
  claim := claim
  requiredCancellation := false
  taskValues := {
    status := .approved
    availableAt := some (retryNow + delay)
    result := none
    lastErrorCode := some errorCode
    lastErrorSummary := some errorSummary }
  attemptValues := {
    status := .retryScheduled
    errorCode := some errorCode
    errorSummary := some errorSummary
    terminalReason := terminalReason }

/-- `schedule_retry`; the delay counts from `retryNow`, the reading that the update makes. -/
def scheduleRetry (db : Database) (databaseNow retryNow : Timestamp) (claim : ClaimedTask)
    (delay : Duration) (errorCode errorSummary terminalReason : String) :
    Except Exn (FenceResult × Database) := do
  let _ ← applyTaskCommand .running .retry
  finalize db (retrying databaseNow retryNow claim delay errorCode errorSummary terminalReason)

def failing (databaseNow : Timestamp) (claim : ClaimedTask)
    (errorCode errorSummary terminalReason : String) : Finalization where
  databaseNow := databaseNow
  claim := claim
  requiredCancellation := false
  taskValues := {
    status := .failed
    availableAt := none
    result := none
    lastErrorCode := some errorCode
    lastErrorSummary := some errorSummary }
  attemptValues := {
    status := .failed
    errorCode := some errorCode
    errorSummary := some errorSummary
    terminalReason := terminalReason }

def finalizeFailure (db : Database) (databaseNow : Timestamp) (claim : ClaimedTask)
    (errorCode errorSummary terminalReason : String) : Except Exn (FenceResult × Database) := do
  let _ ← applyTaskCommand .running .fail
  finalize db (failing databaseNow claim errorCode errorSummary terminalReason)

def cancelling (databaseNow : Timestamp) (claim : ClaimedTask) : Finalization where
  databaseNow := databaseNow
  claim := claim
  requiredCancellation := true
  taskValues := {
    status := .cancelled
    availableAt := none
    result := none
    lastErrorCode := none
    lastErrorSummary := none }
  attemptValues := { status := .cancelled, terminalReason := "customer_cancellation" }

def finalizeCancellation (db : Database) (databaseNow : Timestamp) (claim : ClaimedTask) :
    Except Exn (FenceResult × Database) := do
  let _ ← applyTaskCommand .running .finalizeCancellation
  finalize db (cancelling databaseNow claim)

def expired (databaseNow : Timestamp) (t : Task) : Bool :=
  t.status == .running && t.leaseExpiresAt.any fun expires => decide (expires ≤ databaseNow)

/-- What recovery makes of a task: its new status, the time of its next attempt, the reason, and
the error it stores. -/
structure Recovery where
  newStatus : TaskStatus
  nextAttemptAt : Option Timestamp
  terminalReason : String
  errorCode : Option String
  errorSummary : Option String

/-- `backoff_seconds` is `RetryPolicy.delay_seconds`, which may raise `ValueError`. -/
def recovery (databaseNow : Timestamp) (backoff : ℤ → Except String Duration) (task : Task) :
    Except Exn Recovery := do
  if task.cancellationRequestedAt.isSome then
    let _ ← applyTaskCommand .running .finalizeCancellation
    pure { newStatus := .cancelled, nextAttemptAt := none,
           terminalReason := "customer_cancellation", errorCode := none, errorSummary := none }
  else if task.maxAttempts ≤ task.attemptCount then
    let _ ← applyTaskCommand .running .fail
    pure { newStatus := .failed, nextAttemptAt := none,
           terminalReason := "max_attempts_exhausted", errorCode := some "lease_expired",
           errorSummary := some "Maximum attempts exhausted after lease expiration" }
  else
    let _ ← applyTaskCommand .running .retry
    let delay ← (backoff task.attemptCount).mapError .valueError
    pure { newStatus := .approved, nextAttemptAt := some (databaseNow + delay),
           terminalReason := "lease_expired", errorCode := some "lease_expired",
           errorSummary := some "Worker lease expired; retry scheduled" }

/-- The row that `recover_one_expired` writes over `t`. -/
def recoveredRow (outcome : Recovery) (databaseNow : Timestamp) (t : Task) : Task :=
  { t with
    status := outcome.newStatus
    availableAt := outcome.nextAttemptAt
    workerId := none
    leaseTokenHash := none
    leaseExpiresAt := none
    lastHeartbeatAt := none
    result := none
    lastErrorCode := outcome.errorCode
    lastErrorSummary := outcome.errorSummary
    updatedAt := nextUpdatedAt t.updatedAt databaseNow }

lemma key_recoveredRow (outcome : Recovery) (databaseNow : Timestamp) (t : Task) :
    Keyed.key (recoveredRow outcome databaseNow t) = Keyed.key t := rfl

def expiredAttempt (cancellation : Bool) (databaseNow : Timestamp) (a : TaskAttempt) :
    TaskAttempt :=
  { a with
    status := .leaseExpired
    finishedAt := some databaseNow
    errorCode := some "lease_expired"
    errorSummary := some "Worker lease expired before completion"
    terminalReason := some (if cancellation then "customer_cancellation" else "lease_expired") }

lemma key_expiredAttempt (cancellation : Bool) (databaseNow : Timestamp) (a : TaskAttempt) :
    Keyed.key (expiredAttempt cancellation databaseNow a) = Keyed.key a := rfl

/-- The condition by which recovery addresses the attempt of the task `t`. -/
def expiredAddress (t : Task) (tokenHash : Digest) (a : TaskAttempt) : Bool :=
  a.taskId == t.id && a.attemptNumber == t.attemptCount && a.leaseTokenHash == tokenHash

/-- The condition by which recovery addresses the task `t` that it has selected. -/
def expiredTask (t : Task) (tokenHash : Digest) (databaseNow : Timestamp) (s : Task) : Bool :=
  s.id == t.id && s.status == .running && s.attemptCount == t.attemptCount &&
    s.leaseTokenHash == some tokenHash &&
    s.leaseExpiresAt.any fun expires => decide (expires ≤ databaseNow)

def recoveryResult (task : Task) (workerId : String) (attempt : TaskAttempt)
    (outcome : Recovery) : RecoveryResult where
  taskId := task.id
  attemptId := attempt.id
  attemptNumber := task.attemptCount
  previousWorkerId := workerId
  newStatus := outcome.newStatus
  nextAttemptAt := outcome.nextAttemptAt
  terminalReason := outcome.terminalReason

def recoverOneExpired (db : Database) (databaseNow : Timestamp) (locked : List UUID)
    (backoff : ℤ → Except String Duration) : Except Exn (Option RecoveryResult × Database) := do
  match selectForUpdate db locked recoveryOrder (expired databaseNow) with
  | none => pure (none, db)
  | some task =>
    match task.workerId, task.leaseTokenHash with
    | some workerId, some tokenHash =>
      if task.attemptCount ≤ 0 then
        throw (.executionInvariantError "expired task has incomplete lease state")
      let (rowcount, db) ← updateTaskAttempts db
        (fun a => expiredAddress task tokenHash a && a.status == .running)
        (expiredAttempt task.cancellationRequestedAt.isSome databaseNow)
        (key_expiredAttempt task.cancellationRequestedAt.isSome databaseNow)
      requireOneRow rowcount "expired attempt"
      let outcome ← recovery databaseNow backoff task
      let (rowcount, db) ← updateTasks db (expiredTask task tokenHash databaseNow)
        (recoveredRow outcome databaseNow) (key_recoveredRow outcome databaseNow)
      requireOneRow rowcount "expired task"
      match db.taskAttempts.find? (expiredAddress task tokenHash) with
      | none => throw .noResultFound
      | some attempt =>
        pure (some (recoveryResult task workerId attempt outcome), db)
    | _, _ => throw (.executionInvariantError "expired task has incomplete lease state")

end WorkerRepository

end DeploymentLab
