import DeploymentLab.Model.Database

/-!
# The migration to reliable worker execution

Revision `0003_reliable_worker_execution` over the table `tasks` of `0002_create_tasks`: the
columns it adds, its two updates, the constraints it then creates, and the way back. The readings
that its statements make of the clock are arguments.
-/

namespace DeploymentLab

open Relational

namespace Revision0002

/-- A row of `tasks` as `0002_create_tasks` creates the table. -/
structure TaskRow where
  id : UUID
  idempotencyKey : String
  requestFingerprint : Digest
  taskType : String
  taskInput : JsonValue
  status : TaskStatus
  createdAt : Timestamp
  updatedAt : Timestamp

instance : Keyed TaskRow where
  Id := UUID
  Unique := String
  id t := t.id
  unique t := t.idempotencyKey

/-- The constraints of `0002_create_tasks`. Those on the status and on the digest hold of every
row by its type. -/
def TaskRow.checkConstraints (t : TaskRow) : List (String × Bool) :=
  [("ck_tasks_idempotency_key_length",
      decide (1 ≤ t.idempotencyKey.length ∧ t.idempotencyKey.length ≤ 255)),
    ("ck_tasks_input_object", t.taskInput.isDict),
    ("ck_tasks_task_type", taskTypePattern t.taskType)]

/-- The content of `tasks` under revision 0002. -/
structure Tasks where
  table : Table TaskRow
  constraints : ∀ t ∈ table.rows, ∀ c ∈ t.checkConstraints, c.2 = true

end Revision0002

namespace Revision0003

open Revision0002

/-- What `clock_timestamp()` gives for each row in the two updates. -/
structure Readings where
  availableAt : UUID → Timestamp
  updatedAt : UUID → Timestamp
  filledAt : UUID → Timestamp

/-- `op.add_column`, with the defaults of the server. -/
def addColumns (t : TaskRow) : Task where
  id := t.id
  idempotencyKey := t.idempotencyKey
  requestFingerprint := t.requestFingerprint
  taskType := t.taskType
  taskInput := t.taskInput
  status := t.status
  attemptCount := 0
  maxAttempts := 3
  createdAt := t.createdAt
  updatedAt := t.updatedAt

/-- A row without the columns that the revision adds. -/
def dropColumns (t : Task) : TaskRow where
  id := t.id
  idempotencyKey := t.idempotencyKey
  requestFingerprint := t.requestFingerprint
  taskType := t.taskType
  taskInput := t.taskInput
  status := t.status
  createdAt := t.createdAt
  updatedAt := t.updatedAt

lemma clashes_addColumns (r s : TaskRow) :
    clashes (addColumns r) (addColumns s) = clashes r s := rfl

lemma clashes_dropColumns (s t : Task) :
    clashes (dropColumns s) (dropColumns t) = clashes s t := rfl

/-- A row with `running` has no legitimate owner and goes back to the queue. -/
def returnToQueue (now : Readings) (t : Task) : Task :=
  { t with
    status := .approved
    availableAt := some (now.availableAt t.id)
    updatedAt := now.updatedAt t.id }

lemma key_returnToQueue (now : Readings) (t : Task) :
    Keyed.key (returnToQueue now t) = Keyed.key t := rfl

def fillAvailableAt (now : Readings) (t : Task) : Task :=
  { t with availableAt := some (now.filledAt t.id) }

lemma key_fillAvailableAt (now : Readings) (t : Task) :
    Keyed.key (fillAvailableAt now t) = Keyed.key t := rfl

/-- The constraints that the upgrade creates, in its order. The one on the digest holds of every
row by its type. -/
def addedConstraints : List (String × (Task → Bool)) :=
  [("ck_tasks_attempt_count_nonnegative", fun t => decide (0 ≤ t.attemptCount)),
    ("ck_tasks_max_attempts_positive", fun t => decide (1 ≤ t.maxAttempts)),
    ("ck_tasks_attempt_count_within_max", fun t => decide (t.attemptCount ≤ t.maxAttempts)),
    ("ck_tasks_approved_available", fun t => t.status != .approved || t.availableAt.isSome),
    ("ck_tasks_active_lease", fun t =>
      (t.status == .running && t.workerId.isSome && t.leaseTokenHash.isSome &&
        t.leaseExpiresAt.isSome && t.lastHeartbeatAt.isSome && decide (0 < t.attemptCount)) ||
      (t.status != .running && t.workerId.isNone && t.leaseTokenHash.isNone &&
        t.leaseExpiresAt.isNone && t.lastHeartbeatAt.isNone)),
    ("ck_tasks_result_state", fun t =>
      (t.status == .succeeded && t.result.any JsonValue.isDict) ||
      (t.status != .succeeded && t.result.isNone)),
    ("ck_tasks_cancellation_state", fun t =>
      t.cancellationRequestedAt.isNone || t.status == .running || t.status == .cancelled)]

/-- `UPDATE tasks` under the constraints that the table has at that time. -/
def updateRows (p : Task → Bool) (f : Task → Task) (hf : ∀ t, Keyed.key (f t) = Keyed.key t)
    (tasks : Table Task) : Except Exn (Table Task) := do
  requireConstraints ((tasks.rows.filter p).flatMap fun t => (dropColumns (f t)).checkConstraints)
  pure (tasks.update p f hf)

/-- `op.create_check_constraint`, which every row that is there has to meet. -/
def createCheckConstraint (tasks : Table Task) (name : String) (check : Task → Bool) :
    Except Exn Unit :=
  if tasks.rows.all check then .ok () else .error (.integrityError name)

def createCheckConstraints (tasks : Table Task) : List (String × (Task → Bool)) → Except Exn Unit
  | [] => .ok ()
  | (name, check) :: constraints => do
    createCheckConstraint tasks name check
    createCheckConstraints tasks constraints

/-- `upgrade`, which leaves no attempts and either takes place as a whole or fails. -/
def upgrade (now : Readings) (old : Tasks) : Except Exn Database := do
  let tasks := old.table.alter addColumns clashes_addColumns
  let tasks ← updateRows (fun t => t.status == .running) (returnToQueue now)
    (key_returnToQueue now) tasks
  let tasks ← updateRows (fun t => t.status == .approved && t.availableAt.isNone)
    (fillAvailableAt now) (key_fillAvailableAt now) tasks
  createCheckConstraints tasks addedConstraints
  pure { tasks }

lemma dropColumns_checkConstraints {t : Task} (h : ∀ c ∈ t.checkConstraints, c.2 = true) :
    ∀ c ∈ (dropColumns t).checkConstraints, c.2 = true := by
  intro c hc
  refine h c ?_
  simp only [TaskRow.checkConstraints, dropColumns, List.mem_cons, List.not_mem_nil,
    or_false] at hc
  unfold Task.checkConstraints
  rcases hc with rfl | rfl | rfl
  · exact List.mem_cons_self
  · exact .tail _ (.tail _ List.mem_cons_self)
  · exact .tail _ List.mem_cons_self

/-- `downgrade`, of a database in which the constraints are in force. -/
def downgrade (db : Database)
    (hconstraints : ∀ t ∈ db.tasks.rows, ∀ c ∈ t.checkConstraints, c.2 = true) : Tasks where
  table := db.tasks.alter dropColumns clashes_dropColumns
  constraints t ht := by
    obtain ⟨s, hs, rfl⟩ := List.mem_map.1 ht
    exact dropColumns_checkConstraints (hconstraints s hs)

end Revision0003

end DeploymentLab
