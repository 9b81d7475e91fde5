import DeploymentLab.Library.Interaction
import DeploymentLab.Model.Worker

/-!
# The worker runner

How a worker executes one claim: it starts the handler, the heartbeat loop, the timer of the
handler and the wait for shutdown, awaits the first of them, and finalises its attempt under the
fence of the claim as the cause of the end demands.
-/

namespace DeploymentLab

open Interaction

inductive ExecutionStopCause
  | customerCancellation | timeout | workerShutdown | ownershipLoss
  deriving DecidableEq, Repr

/-- What may be raised to the runner: an exception of the repository, a rejected result, the
cancellation of an `asyncio` task, and whatever else is an `Exception` or is not one. -/
inductive Raised
  | exception (x : Exn)
  | handlerContractError
  | cancelledError
  | otherException
  | baseException
  deriving DecidableEq, Repr

/-- The awaited tasks that are done, with the cause that the heartbeat loop returns. -/
structure Completed where
  handler : Bool := false
  heartbeat : Option ExecutionStopCause := none
  timeout : Bool := false
  shutdown : Bool := false
  deriving DecidableEq, Repr

def Completed.isEmpty (done : Completed) : Bool :=
  !done.handler && done.heartbeat.isNone && !done.timeout && !done.shutdown

/-- `validate_handler_result` on the values that handlers return. A value that it accepts is a
JSON object. -/
structure ResultValidator (V : Type) where
  validate : V → Except Raised JsonValue
  isDict : ∀ v result, validate v = .ok result → result.isDict = true

/-- What the runner awaits, and what it does between two awaits that others can see. -/
inductive RunnerEffect
  | wait
  | waitForGrace
  | setCustomerCancellation
  | setOwnershipLost
  | cancelHandler
  | yieldOnce
  | waitForCancelledHandler
  | handlerResult
  | retryDelay (attemptNumber : ℤ)
  | finalizeSuccess (claim : ClaimedTask) (result : JsonValue)
  | scheduleRetry (claim : ClaimedTask) (delay : Duration)
      (errorCode errorSummary terminalReason : String)
  | finalizeFailure (claim : ClaimedTask) (errorCode errorSummary terminalReason : String)
  | finalizeCancellation (claim : ClaimedTask)

abbrev RunnerEffect.Answer (V : Type) : RunnerEffect → Type
  | .wait | .waitForGrace => Completed
  | .setCustomerCancellation | .setOwnershipLost | .cancelHandler => Unit
  | .yieldOnce | .waitForCancelledHandler => Bool
  | .handlerResult => V
  | .retryDelay _ => Duration
  | .finalizeSuccess _ _ | .scheduleRetry _ _ _ _ _ | .finalizeFailure _ _ _ _
  | .finalizeCancellation _ => FenceResult

abbrev runnerSignature (V : Type) : Signature where
  View := Unit
  Effect := RunnerEffect
  Answer := RunnerEffect.Answer V
  Exn := Raised

abbrev Runner (V α : Type) := Prog (runnerSignature V) α

namespace WorkerRunner

variable {V : Type}

def await (e : RunnerEffect) : Runner V (e.Answer V) := @Prog.perform (runnerSignature V) e

/-- `_completed_cause`. -/
def completedCause (done : Completed) : Option ExecutionStopCause :=
  if done.heartbeat.isSome then done.heartbeat
  else if done.timeout then some .timeout
  else none

/-- `_finalize_customer_cancellation`. -/
def finalizeCustomerCancellation (claim : ClaimedTask) : Runner V Unit := do
  let _ ← await (.finalizeCancellation claim)

/-- `_handle_failed_fence`. -/
def handleFailedFence (claim : ClaimedTask) : FenceResult → Runner V Unit
  | .applied => pure ()
  | .cancellationRequested => finalizeCustomerCancellation claim
  | .stale => pure ()

/-- `_finalize_failure_policy`. -/
def finalizeFailurePolicy (claim : ClaimedTask) (errorCode errorSummary terminalReason : String)
    (retryable : Bool) (retryAfter : Option Duration) : Runner V Unit :=
  if retryable = true ∧ claim.attemptNumber < claim.maxAttempts then do
    let delay ← match retryAfter with
      | some delay => pure delay
      | none => await (.retryDelay claim.attemptNumber)
    let fenceResult ← await (.scheduleRetry claim delay errorCode errorSummary terminalReason)
    handleFailedFence claim fenceResult
  else do
    let finalReason :=
      if retryable = true ∧ claim.maxAttempts ≤ claim.attemptNumber then "max_attempts_exhausted"
      else terminalReason
    let fenceResult ← await (.finalizeFailure claim errorCode errorSummary finalReason)
    handleFailedFence claim fenceResult

/-- The handler's result, read and checked. -/
def handlerOutcome (validator : ResultValidator V) : Runner V JsonValue := do
  let rawResult ← await .handlerResult
  .ofExcept (validator.validate rawResult)

/-- The clauses of `_handle_handler_completion`. -/
def finalizeOutcome (claim : ClaimedTask) : Except Raised JsonValue → Runner V Unit
  | .ok result => do
    let fenceResult ← await (.finalizeSuccess claim result)
    handleFailedFence claim fenceResult
  | .error (.exception .taskCancelled) => finalizeCustomerCancellation claim
  | .error (.exception .ownershipLostError) => pure ()
  | .error (.exception (.retryableTaskError errorCode retryAfter)) =>
    finalizeFailurePolicy claim errorCode "Task execution failed and will be retried"
      "retryable_error" true retryAfter
  | .error .handlerContractError =>
    finalizeFailurePolicy claim "handler_contract_error" "Handler returned an invalid result"
      "handler_contract_error" false none
  | .error (.exception (.permanentTaskError errorCode)) =>
    finalizeFailurePolicy claim errorCode "Task execution failed permanently" "permanent_error"
      false none
  | .error .cancelledError => pure ()
  | .error .baseException => .raise .baseException
  | .error _ =>
    finalizeFailurePolicy claim "unexpected_error" "Task execution failed unexpectedly"
      "unexpected_error" true none

/-- `_handle_handler_completion`. -/
def handleHandlerCompletion (validator : ResultValidator V) (claim : ClaimedTask) :
    Runner V Unit := do
  finalizeOutcome claim (← (handlerOutcome validator).attempt)

/-- The cause that the waits have found: the second one is made when shutdown is all that the
first has found, and lasts for the grace period. -/
def stopCause : Runner V (Option ExecutionStopCause) := do
  let done ← await .wait
  let cause := completedCause done
  if done.shutdown = true ∧ cause = none ∧ done.handler = false then
    let done ← await .waitForGrace
    if done.isEmpty then pure (some .workerShutdown) else pure (completedCause done)
  else pure cause

def signalCause : ExecutionStopCause → Runner V Unit
  | .customerCancellation => await .setCustomerCancellation
  | .ownershipLoss => await .setOwnershipLost
  | .timeout => pure ()
  | .workerShutdown => pure ()

/-- Whether the handler has stopped: after shutdown, the grace period has been used up already. -/
def handlerStopped (cause : ExecutionStopCause) : Runner V Bool :=
  if cause = .workerShutdown then await .yieldOnce else await .waitForCancelledHandler

/-- Signal the cause to the handler and cancel it. -/
def stopHandler (cause : ExecutionStopCause) : Runner V Unit := do
  signalCause cause
  await .cancelHandler
  let _ ← handlerStopped cause

/-- `_execute_claim`. -/
def executeClaim (validator : ResultValidator V) (claim : ClaimedTask) : Runner V Unit := do
  match ← stopCause with
  | none => handleHandlerCompletion validator claim
  | some cause =>
    stopHandler cause
    match cause with
    | .customerCancellation => finalizeCustomerCancellation claim
    | .timeout =>
      finalizeFailurePolicy claim "execution_timeout" "Task execution exceeded its time limit"
        "execution_timeout" true none
    | .workerShutdown => pure ()
    | .ownershipLoss => pure ()

end WorkerRunner

end DeploymentLab
