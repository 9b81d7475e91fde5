import DeploymentLab.Model.Database

/-!
# The task service

Creation, approval and cancellation of tasks. Every function is one transaction, as in the
ledger; its clock readings and the identifiers drawn from `uuid4` are arguments.
-/

namespace DeploymentLab

open Relational

/-- One microsecond after `current` at least, even when the clock is coarse or goes back. -/
def nextUpdatedAt (current now : Timestamp) : Timestamp := max now (current + 1)

/-- `UPDATE tasks`, which fails when a row it writes breaks a constraint, and the number of rows
it affects. -/
def updateTasks (db : Database) (p : Task → Bool) (f : Task → Task)
    (hf : ∀ t, Keyed.key (f t) = Keyed.key t) : Except Exn (ℕ × Database) := do
  requireConstraints ((db.tasks.rows.filter p).flatMap fun t => (f t).checkConstraints)
  pure (db.tasks.count p, { db with tasks := db.tasks.update p f hf })

/-- `UPDATE task_attempts`. -/
def updateTaskAttempts (db : Database) (p : TaskAttempt → Bool) (f : TaskAttempt → TaskAttempt)
    (hf : ∀ a, Keyed.key (f a) = Keyed.key a) : Except Exn (ℕ × Database) := do
  requireConstraints ((db.taskAttempts.rows.filter p).flatMap fun a => (f a).checkConstraints)
  pure (db.taskAttempts.count p, { db with taskAttempts := db.taskAttempts.update p f hf })

structure CreateTaskRequest where
  idempotencyKey : String
  taskType : String
  taskInput : JsonValue

structure CreateTaskResult where
  task : Task
  created : Bool

def taskRequestFingerprint [Runtime] (taskType : String) (taskInput : JsonValue) : Digest :=
  sha256Json (.dict [("input", taskInput), ("task_type", .str taskType)])

namespace TaskRepository

def getByIdempotencyKey (db : Database) (idempotencyKey : String) : Option Task :=
  db.tasks.find? fun t => t.idempotencyKey == idempotencyKey

/-- `INSERT ... ON CONFLICT DO NOTHING`: the row is checked before its key is looked up. -/
def insertIfAbsent (db : Database) (task : Task) : Except Exn (Option (Task × Database)) := do
  requireConstraints task.checkConstraints
  match getByIdempotencyKey db task.idempotencyKey with
  | some _ => pure none
  | none =>
    match db.tasks.insert task with
    | some tasks => pure (some (task, { db with tasks }))
    | none => throw (.integrityError "tasks_pkey")

end TaskRepository

namespace TaskService

def pendingTask [Runtime] (defaultMaxAttempts : ℤ) (timestamp : Timestamp) (taskId : UUID)
    (request : CreateTaskRequest) : Task where
  id := taskId
  idempotencyKey := request.idempotencyKey
  requestFingerprint := taskRequestFingerprint request.taskType request.taskInput
  taskType := request.taskType
  taskInput := request.taskInput
  status := .pendingApproval
  attemptCount := 0
  maxAttempts := defaultMaxAttempts
  createdAt := timestamp
  updatedAt := timestamp

def createTask [Runtime] (defaultMaxAttempts : ℤ) (db : Database) (timestamp : Timestamp)
    (taskId : UUID) (request : CreateTaskRequest) : Except Exn (CreateTaskResult × Database) := do
  let pending := pendingTask defaultMaxAttempts timestamp taskId request
  match ← TaskRepository.insertIfAbsent db pending with
  | some (task, db) => pure ({ task, created := true }, db)
  | none =>
    match TaskRepository.getByIdempotencyKey db request.idempotencyKey with
    | none => throw (.runtimeError "Idempotency conflict did not resolve to a persisted task")
    | some existingTask =>
      if existingTask.requestFingerprint ≠ pending.requestFingerprint then
        throw .idempotencyConflictError
      pure ({ task := existingTask, created := false }, db)

/-- `get_by_id_for_update`, for a task that has to exist. -/
def lockTask (db : Database) (taskId : UUID) : Except Exn Task :=
  match db.task taskId with
  | some task => .ok task
  | none => .error (.taskNotFoundError taskId)

/-- The row that `apply_command` writes over `t`. -/
def commanded (command : TaskCommand) (newStatus : TaskStatus) (now : Timestamp) (t : Task) :
    Task :=
  { t with
    status := newStatus
    updatedAt := nextUpdatedAt t.updatedAt now
    availableAt := if command = .approve then some now else t.availableAt }

lemma key_commanded (command : TaskCommand) (newStatus : TaskStatus) (now : Timestamp) (t : Task) :
    Keyed.key (commanded command newStatus now t) = Keyed.key t := rfl

def applyCommand (db : Database) (now : Timestamp) (taskId : UUID) (command : TaskCommand) :
    Except Exn (Task × Database) := do
  let task ← lockTask db taskId
  let newStatus ← applyTaskCommand task.status command
  if newStatus ≠ task.status then
    let (_, db) ← updateTasks db (fun t => t.id == task.id) (commanded command newStatus now)
      (key_commanded command newStatus now)
    pure (commanded command newStatus now task, db)
  else pure (task, db)

def approveTask (db : Database) (now : Timestamp) (taskId : UUID) : Except Exn (Task × Database) :=
  applyCommand db now taskId .approve

/-- The row that `cancel_task` writes over `t`. -/
def cancelled (decision : CancellationDecision) (now : Timestamp) (t : Task) : Task :=
  { t with
    status := decision.newStatus
    cancellationRequestedAt :=
      if decision.requestCancellation then some now else t.cancellationRequestedAt
    availableAt := if decision.newStatus = .cancelled then none else t.availableAt
    updatedAt := nextUpdatedAt t.updatedAt now }

lemma key_cancelled (decision : CancellationDecision) (now : Timestamp) (t : Task) :
    Keyed.key (cancelled decision now t) = Keyed.key t := rfl

def cancelTask (db : Database) (now : Timestamp) (taskId : UUID) :
    Except Exn (Task × Database) := do
  let task ← lockTask db taskId
  let decision ← decideCancellation task.status task.cancellationRequestedAt.isSome
  if decision.newStatus ≠ task.status ∨ decision.requestCancellation = true then
    let (_, db) ← updateTasks db (fun t => t.id == task.id) (cancelled decision now)
      (key_cancelled decision now)
    pure (cancelled decision now task, db)
  else pure (task, db)

end TaskService

end DeploymentLab
