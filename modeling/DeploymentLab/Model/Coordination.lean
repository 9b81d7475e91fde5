import DeploymentLab.Library.Transactions
import DeploymentLab.Model.Policy
import DeploymentLab.Model.Worker
import DeploymentLab.Model.World

/-!
# Everybody at work on the tasks

Clients, approvers and any number of workers share one database. Each operation is one
transaction, with the clock readings it makes; workers use the claims they have received, in any
order and for as long as they like.
-/

namespace DeploymentLab

open Relational Transactions

/-- The settings that `Settings` accepts for the tables in question. -/
structure CoordinationSettings where
  workerDefaultMaxAttempts : ℤ := 3
  sourceArtifactMaxBytes : ℕ := 262144
  positive : 1 ≤ workerDefaultMaxAttempts := by decide

/-- `^[\x21-\x7E]+$` -/
def idempotencyKeyPattern (s : String) : Bool :=
  s != "" && s.toList.all fun c => decide (0x21 ≤ c.toNat ∧ c.toNat ≤ 0x7E)

/-- What `TaskCreateRequest` and `IdempotencyKey` check before `create_task` is called. -/
def CreateTaskRequest.accepted (request : CreateTaskRequest) : Bool :=
  decide (1 ≤ request.idempotencyKey.length ∧ request.idempotencyKey.length ≤ 255) &&
    idempotencyKeyPattern request.idempotencyKey && taskTypePattern request.taskType &&
    request.taskInput.isDict

/-- The body that `POST /tasks` takes. -/
structure TaskCreateRequest where
  taskType : String
  input : JsonValue

/-- What `POST /tasks` calls `create_task` with, unless the input breaks the contract of its
type. -/
def TaskCreateRequest.request [LaxCoercion] (payload : TaskCreateRequest)
    (idempotencyKey : String) : Option CreateTaskRequest :=
  (normalizeTaskInput payload.taskType payload.input).map fun taskInput =>
    { idempotencyKey, taskType := payload.taskType, taskInput }

inductive Operation
  | createTask (timestamp : Timestamp) (taskId : UUID) (request : CreateTaskRequest)
  | approveTask (now : Timestamp) (taskId : UUID)
  | cancelTask (now : Timestamp) (taskId : UUID)
  | claimOne (dueAt databaseNow : Timestamp) (locked : List UUID) (attemptId : UUID)
      (tokenHash : Digest) (supportedTaskTypes : List String) (workerId : String)
      (leaseDuration : Duration)
  | heartbeat (databaseNow : Timestamp) (claim : ClaimedTask) (leaseDuration : Duration)
  | finalizeSuccess (databaseNow : Timestamp) (claim : ClaimedTask) (result : JsonValue)
  | scheduleRetry (databaseNow retryNow : Timestamp) (claim : ClaimedTask) (delay : Duration)
      (errorCode errorSummary terminalReason : String)
  | finalizeFailure (databaseNow : Timestamp) (claim : ClaimedTask)
      (errorCode errorSummary terminalReason : String)
  | finalizeCancellation (databaseNow : Timestamp) (claim : ClaimedTask)
  | recoverOneExpired (databaseNow : Timestamp) (locked : List UUID)
      (backoff : ℤ → Except String Duration)
  | ledger (now : Timestamp) (row history : UUID) (e : Effect)

inductive Response
  | created (result : CreateTaskResult)
  | updated (task : Task)
  | claimed (claim : Option ClaimedTask)
  | beaten (result : HeartbeatResult)
  | finalized (result : FenceResult)
  | recovered (result : Option RecoveryResult)
  | ledger (e : Effect) (answer : e.Answer)

abbrev CoordinationLog := Log Operation Response Exn

/-- The claims that `claim_one` has returned. -/
def issuedClaims (log : CoordinationLog) : List ClaimedTask :=
  log.filterMap fun
    | (_, .ok (.claimed claim)) => claim
    | _ => none

/-- The fence under which a transaction of the evidence store or of the ledger is called. -/
def Effect.fence? : Effect → Option ExecutionFence
  | .record request => some request.fence
  | .reserveOrGet request => some request.fence
  | .transition request => some request.fence
  | .revise request => some request.fence
  | _ => none

namespace Operation

/-- The claim that a worker calls the operation with. -/
def claim? : Operation → Option ClaimedTask
  | .heartbeat _ claim _ | .finalizeSuccess _ claim _ | .scheduleRetry _ _ claim _ _ _ _
  | .finalizeFailure _ claim _ _ _ | .finalizeCancellation _ claim => some claim
  | _ => none

/-- The fence of the claim that a worker calls the operation with. -/
def fence? : Operation → Option ExecutionFence
  | .ledger _ _ _ e => e.fence?
  | op => op.claim?.map (·.executionFence)

/-- The readings of the database clock, in their order. -/
def readings : Operation → List Timestamp
  | .createTask _ _ _ => []
  | .approveTask now _ | .cancelTask now _ | .heartbeat now _ _ | .finalizeSuccess now _ _
  | .finalizeFailure now _ _ _ _ | .finalizeCancellation now _ | .recoverOneExpired now _ _
  | .ledger now _ _ _ => [now]
  | .claimOne dueAt databaseNow _ _ _ _ _ _ => [dueAt, databaseNow]
  | .scheduleRetry databaseNow retryNow _ _ _ _ _ => [databaseNow, retryNow]

/-- Identifiers are those that `uuid4` has not drawn before, requests those that the API lets
through, results JSON objects, and claims those that have been issued. -/
def enabled (log : CoordinationLog) (db : Database) : Operation → Bool
  | .createTask _ taskId request => request.accepted && (db.task taskId).isNone
  | .approveTask _ _ | .cancelTask _ _ | .recoverOneExpired _ _ _ => true
  | .claimOne _ _ _ attemptId _ _ _ _ => db.taskAttempts.rows.all fun a => a.id != attemptId
  | .heartbeat _ claim _ | .scheduleRetry _ _ claim _ _ _ _ | .finalizeFailure _ claim _ _ _
  | .finalizeCancellation _ claim => (issuedClaims log).contains claim
  | .finalizeSuccess _ claim result => (issuedClaims log).contains claim && result.isDict
  | .ledger _ row history e => e.isTransaction && db.unused row && db.unused history &&
      e.fence?.all fun fence => ((issuedClaims log).map (·.executionFence)).contains fence

/-- Pass on the result of an operation as a response. -/
def respond {α : Type} (f : α → Response) (r : Except Exn (α × Database)) :
    Except Exn (Response × Database) :=
  r.map fun p => (f p.1, p.2)

section Respond

variable {α : Type} {f : α → Response} {r : Except Exn (α × Database)} {db : Database}

lemma respond_eq_ok {response : Response} :
    respond f r = .ok (response, db) ↔ ∃ a, r = .ok (a, db) ∧ response = f a := by
  cases r with
  | error x => simp [respond, Except.map]
  | ok p =>
    obtain ⟨a, db'⟩ := p
    simp only [respond, Except.map, Except.ok.injEq, Prod.mk.injEq]
    constructor
    · rintro ⟨rfl, rfl⟩
      exact ⟨a, ⟨rfl, rfl⟩, rfl⟩
    · rintro ⟨b, ⟨rfl, rfl⟩, rfl⟩
      exact ⟨rfl, rfl⟩

lemma respond_eq_error {x : Exn} : respond f r = .error x ↔ r = .error x := by
  cases r <;> simp [respond, Except.map]

end Respond

variable [Runtime]

def apply (settings : CoordinationSettings) (db : Database) :
    Operation → Except Exn (Response × Database)
  | .createTask timestamp taskId request => respond .created
      (TaskService.createTask settings.workerDefaultMaxAttempts db timestamp taskId request)
  | .approveTask now taskId => respond .updated (TaskService.approveTask db now taskId)
  | .cancelTask now taskId => respond .updated (TaskService.cancelTask db now taskId)
  | .claimOne dueAt databaseNow locked attemptId tokenHash supportedTaskTypes workerId
      leaseDuration => respond .claimed (WorkerRepository.claimOne db dueAt databaseNow locked
        attemptId tokenHash supportedTaskTypes workerId leaseDuration)
  | .heartbeat databaseNow claim leaseDuration => respond .beaten
      (WorkerRepository.heartbeat db databaseNow claim leaseDuration)
  | .finalizeSuccess databaseNow claim result => respond .finalized
      (WorkerRepository.finalizeSuccess db databaseNow claim result)
  | .scheduleRetry databaseNow retryNow claim delay errorCode errorSummary terminalReason =>
    respond .finalized (WorkerRepository.scheduleRetry db databaseNow retryNow claim delay
      errorCode errorSummary terminalReason)
  | .finalizeFailure databaseNow claim errorCode errorSummary terminalReason =>
    respond .finalized (WorkerRepository.finalizeFailure db databaseNow claim errorCode
      errorSummary terminalReason)
  | .finalizeCancellation databaseNow claim => respond .finalized
      (WorkerRepository.finalizeCancellation db databaseNow claim)
  | .recoverOneExpired databaseNow locked backoff => respond .recovered
      (WorkerRepository.recoverOneExpired db databaseNow locked backoff)
  | .ledger now row history e =>
    match db.execute settings.sourceArtifactMaxBytes now row history e with
    | some (.ok answer, db) => .ok (.ledger e answer, db)
    | some (.error x, _) => .error x
    | none => .error .noResultFound

end Operation

def coordination [Runtime] (settings : CoordinationSettings) :
    Store Database Operation Response Exn where
  enabled := Operation.enabled
  apply op db := op.apply settings db

abbrev CoordinationConfig := Config Database Operation Response Exn

/-- The state of a deployment before its first operation. -/
def emptyCoordination : CoordinationConfig := ⟨{}, []⟩

end DeploymentLab
