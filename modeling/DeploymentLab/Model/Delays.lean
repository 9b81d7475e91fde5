import Mathlib.Algebra.Order.Field.Rat
import DeploymentLab.Model.SlackClient

/-!
# Delays before another attempt

The seconds that the worker and the ledger wait: the backoff of `RetryPolicy`, the delay that
`schedule_retry` is called with, and the delay stored for a message that was not sent.
-/

namespace DeploymentLab

/-- The fields of `Settings` that bound delays, in seconds, with exact arithmetic. -/
structure DelaySettings where
  workerRetryBaseSeconds : ℚ := 2
  workerRetryCapSeconds : ℚ := 300
  integrationMaxRetryAfterSeconds : ℚ := 60
  workerRetryBaseSeconds_range : 1 / 100 ≤ workerRetryBaseSeconds ∧ workerRetryBaseSeconds ≤ 3600
  workerRetryCapSeconds_range : 1 / 100 ≤ workerRetryCapSeconds ∧ workerRetryCapSeconds ≤ 86400
  integrationMaxRetryAfterSeconds_range :
    0 ≤ integrationMaxRetryAfterSeconds ∧ integrationMaxRetryAfterSeconds ≤ 3600
  retryBase_le_retryCap : workerRetryBaseSeconds ≤ workerRetryCapSeconds

structure RetryPolicy where
  baseSeconds : ℚ
  capSeconds : ℚ

namespace RetryPolicy

variable (policy : RetryPolicy)

def ceiling (attemptNumber : ℕ) : ℚ :=
  min policy.capSeconds (policy.baseSeconds * 2 ^ (attemptNumber - 1))

def delaySeconds (attemptNumber : ℕ) (randomValue : ℚ) : Except Exn ℚ :=
  if 0 ≤ randomValue ∧ randomValue ≤ 1 then
    .ok (policy.ceiling attemptNumber / 2 + policy.ceiling attemptNumber / 2 * randomValue)
  else .error (.valueError "random source must return a value between zero and one")

/-- The delay with which `_finalize_failure_policy` calls `schedule_retry`. -/
def finalizeDelay (attemptNumber : ℕ) (randomValue : ℚ) (retryAfterSeconds : Option PyFloat) :
    Except Exn PyFloat :=
  match retryAfterSeconds with
  | some seconds => .ok seconds
  | none => (policy.delaySeconds attemptNumber randomValue).map .finite

end RetryPolicy

def DelaySettings.retryPolicy (settings : DelaySettings) : RetryPolicy :=
  ⟨settings.workerRetryBaseSeconds, settings.workerRetryCapSeconds⟩

/-- `integration_max_retry_after_seconds`, as the connectors keep it. -/
def DelaySettings.maxRetryAfter (settings : DelaySettings) : PyFloat :=
  .finite settings.integrationMaxRetryAfterSeconds

def knownUnsentDelaySeconds : Option PyFloat → PyFloat
  | none => .finite 5
  | some retryAfterSeconds => pyMax (.finite 1) retryAfterSeconds

end DeploymentLab
