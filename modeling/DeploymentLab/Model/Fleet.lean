import DeploymentLab.Library.Script
import DeploymentLab.Model.Coordination
import DeploymentLab.Model.Runner

/-!
# Workers at work on the tasks

Any number of claims are executed at once, each by its own run of `_execute_claim`, against one
database. A finaliser is one transaction of the worker repository. Whatever else happens is a
choice of the environment: how and when a handler ends, the heartbeats of an execution, its
timers, and the operations of clients, of approvers and of the loops that claim and recover.
-/

namespace DeploymentLab

open Interaction Relational Transactions

/-- One execution of a claim, with the tasks that its runner has started. -/
structure Execution (V : Type) where
  claim : Option ClaimedTask := none
  handler : Option (Except Raised V) := none
  heartbeat : Option ExecutionStopCause := none
  timeout : Bool := false
  shutdown : Bool := false
  customerCancellation : Bool := false
  ownershipLost : Bool := false
  cancelled : Bool := false
  past : Past (runnerSignature V) Unit := []

structure Fleet (V : Type) where
  shared : CoordinationConfig := emptyCoordination
  execution : ℕ → Execution V := fun _ => {}

/-- What decides the moves: the clock readings of a transaction, whether its connection is lost
after the commit or the database is not there at all, the answers of the timers, and the moves of
the environment. -/
inductive FleetChoice (V : Type)
  | proceed
  | readings (databaseNow retryNow : Timestamp)
  | connectionLost (databaseNow retryNow : Timestamp)
  | unavailable
  | expires
  | delay (result : Except String Duration)
  | handlerEnds (i : ℕ) (outcome : Except Raised V)
  | heartbeats (i : ℕ) (databaseNow : Timestamp) (leaseDuration : Duration)
  | heartbeatFails (i : ℕ) (committed : Option (Timestamp × Duration))
  | timeoutFires (i : ℕ)
  | shutdownRequested (i : ℕ)
  | operation (op : Operation)

variable {V : Type}

def Execution.completed (x : Execution V) : Completed :=
  ⟨x.handler.isSome, x.heartbeat, x.timeout, x.shutdown⟩

/-- The heartbeat loop returns `cause`, and has set the event of its kind. -/
def Execution.heartbeatEnds (x : Execution V) (cause : ExecutionStopCause) : Execution V :=
  { x with
    heartbeat := some cause
    customerCancellation := x.customerCancellation || cause == .customerCancellation
    ownershipLost := x.ownershipLost || cause == .ownershipLoss }

namespace Fleet

variable (w : Fleet V) (i : ℕ)

def set (x : Execution V) : Fleet V :=
  { w with execution := Function.update w.execution i x }

/-- The outcome of an await, noted in the past of its execution. -/
def answer (e : RunnerEffect) (r : Except Raised (e.Answer V)) :
    Except Raised (e.Answer V) × Fleet V :=
  (r, w.set i { w.execution i with past := .answered e r :: (w.execution i).past })

/-- What the last operation in a log has told its caller. -/
def fenceResult : CoordinationLog → Except Raised FenceResult
  | (_, .ok (.finalized result)) :: _ => .ok result
  | (_, .error x) :: _ => .error (.exception x)
  | _ => .error .otherException

section

variable [Runtime] (settings : CoordinationSettings)

/-- A finaliser, with the readings that its transaction makes. -/
def transact (op : Timestamp → Timestamp → Operation) :
    FleetChoice V → Option (Except Raised FenceResult × Fleet V)
  | .readings databaseNow retryNow =>
    ((coordination settings).step w.shared (op databaseNow retryNow)).map fun c =>
      (fenceResult c.log, { w with shared := c })
  | .connectionLost databaseNow retryNow =>
    ((coordination settings).step w.shared (op databaseNow retryNow)).map fun c =>
      (.error .otherException, { w with shared := c })
  | .unavailable => some (.error .otherException, w)
  | _ => none

def exec : (e : RunnerEffect) → FleetChoice V → Option (Except Raised (e.Answer V) × Fleet V)
  | .wait, _ =>
    let done := (w.execution i).completed
    if done.isEmpty then none else some (w.answer i .wait (.ok done))
  | .waitForGrace, c =>
    let done := { (w.execution i).completed with shutdown := false }
    match done.isEmpty, c with
    | false, _ | true, .expires => some (w.answer i .waitForGrace (.ok done))
    | true, _ => none
  | .setCustomerCancellation, _ =>
    some ((w.set i { w.execution i with customerCancellation := true }).answer i
      .setCustomerCancellation (.ok ()))
  | .setOwnershipLost, _ =>
    some ((w.set i { w.execution i with ownershipLost := true }).answer i
      .setOwnershipLost (.ok ()))
  | .cancelHandler, _ =>
    some ((w.set i { w.execution i with cancelled := true }).answer i .cancelHandler (.ok ()))
  | .yieldOnce, _ => some (w.answer i .yieldOnce (.ok (w.execution i).handler.isSome))
  | .waitForCancelledHandler, c =>
    match (w.execution i).handler.isSome, c with
    | true, _ => some (w.answer i .waitForCancelledHandler (.ok true))
    | false, .expires => some (w.answer i .waitForCancelledHandler (.ok false))
    | false, _ => none
  | .handlerResult, _ =>
    -- `Task.result` raises `InvalidStateError` on a task that is not done.
    some (w.answer i .handlerResult ((w.execution i).handler.getD (.error .otherException)))
  | .retryDelay attemptNumber, .delay result =>
    some (w.answer i (.retryDelay attemptNumber)
      (result.mapError fun message => .exception (.valueError message)))
  | .retryDelay _, _ => none
  | .finalizeSuccess claim result, c =>
    (w.transact settings (fun now _ => .finalizeSuccess now claim result) c).map fun p =>
      p.2.answer i (.finalizeSuccess claim result) p.1
  | .scheduleRetry claim delay code summary reason, c =>
    (w.transact settings (fun now retryNow =>
      .scheduleRetry now retryNow claim delay code summary reason) c).map fun p =>
        p.2.answer i (.scheduleRetry claim delay code summary reason) p.1
  | .finalizeFailure claim code summary reason, c =>
    (w.transact settings (fun now _ => .finalizeFailure now claim code summary reason) c).map
      fun p => p.2.answer i (.finalizeFailure claim code summary reason) p.1
  | .finalizeCancellation claim, c =>
    (w.transact settings (fun now _ => .finalizeCancellation now claim) c).map fun p =>
      p.2.answer i (.finalizeCancellation claim) p.1

/-- One round of `_heartbeat_loop`. -/
def heartbeats (databaseNow : Timestamp) (leaseDuration : Duration) : Option (Fleet V) := do
  let claim ← (w.execution i).claim
  if (w.execution i).heartbeat.isSome then none
  else
    let c ← (coordination settings).step w.shared (.heartbeat databaseNow claim leaseDuration)
    let w' := { w with shared := c }
    match c.log with
    | (_, .ok (.beaten .active)) :: _ => some w'
    | (_, .ok (.beaten .cancellationRequested)) :: _ =>
      some (w'.set i ((w.execution i).heartbeatEnds .customerCancellation))
    | _ => some (w'.set i ((w.execution i).heartbeatEnds .ownershipLoss))

/-- A heartbeat that raises, after its commit or without one. -/
def heartbeatFails (committed : Option (Timestamp × Duration)) : Option (Fleet V) := do
  let claim ← (w.execution i).claim
  if (w.execution i).heartbeat.isSome then none
  else
    let lost := w.set i ((w.execution i).heartbeatEnds .ownershipLoss)
    match committed with
    | none => some lost
    | some (databaseNow, leaseDuration) =>
      ((coordination settings).step w.shared (.heartbeat databaseNow claim leaseDuration)).map
        fun c => { lost with shared := c }

def act : FleetChoice V → Option (Fleet V)
  | .handlerEnds i outcome =>
    if (w.execution i).handler.isSome then none
    else some (w.set i { w.execution i with handler := some outcome })
  | .heartbeats i databaseNow leaseDuration => w.heartbeats i settings databaseNow leaseDuration
  | .heartbeatFails i committed => w.heartbeatFails i settings committed
  | .timeoutFires i => some (w.set i { w.execution i with timeout := true })
  | .shutdownRequested i => some (w.set i { w.execution i with shutdown := true })
  | .operation op =>
    if op.claim?.isSome then none
    else ((coordination settings).step w.shared op).map fun c => { w with shared := c }
  | _ => none

end

end Fleet

/-- The machine of the workers: a claim that has been issued may be executed. -/
def fleet [Runtime] (settings : CoordinationSettings) (validator : ResultValidator V) :
    Machine (runnerSignature V) Unit ClaimedTask (Fleet V) (FleetChoice V) where
  view _ _ := ()
  exec i e c w := w.exec i settings e c
  observe i
    | .issued e, w => w.set i { w.execution i with past := .issued e :: (w.execution i).past }
    | .returned _ _, w => w
  finish i r w := w.set i { w.execution i with past := .ended r :: (w.execution i).past }
  env c w := w.act settings c
  job := WorkerRunner.executeClaim validator
  spawn n claim w :=
    if (issuedClaims w.shared.log).contains claim then
      some (w.set n { w.execution n with claim := some claim })
    else none
  mayStart _ _ := true

end DeploymentLab
