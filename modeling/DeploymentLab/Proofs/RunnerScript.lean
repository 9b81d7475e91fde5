import DeploymentLab.Model.Fleet

/-!
# The script of the runner

What a run of `_execute_claim` may do next depends on what its waits have found, on the outcome
of the handler, once that has been read, and on the answer of its last finaliser.
-/

namespace DeploymentLab

open Interaction WorkerRunner

variable {V : Type}

abbrev RunnerPast (V : Type) := Past (runnerSignature V) Unit

/-- How far an execution has come: waiting, in its grace period, with the stop cause that the
deciding wait has found, with the outcome of its handler, or with the answer of a finaliser. -/
inductive RunnerPhase (V : Type)
  | starting
  | gracing
  | decided (cause : Option ExecutionStopCause)
  | read (outcome : Except Raised V)
  | closed (cause : Option ExecutionStopCause) (e : RunnerEffect) (r : Except Raised FenceResult)

/-- The stop cause that the deciding wait has found. -/
def RunnerPhase.cause : RunnerPhase V → Option ExecutionStopCause
  | .starting | .gracing | .read _ => none
  | .decided cause | .closed cause _ _ => cause

def RunnerPhase.next (ph : RunnerPhase V) :
    (e : RunnerEffect) → Except Raised (e.Answer V) → RunnerPhase V
  | .wait, .ok done =>
    if done.shutdown = true ∧ completedCause done = none ∧ done.handler = false then .gracing
    else .decided (completedCause done)
  | .waitForGrace, .ok done =>
    .decided (if done.isEmpty then some .workerShutdown else completedCause done)
  | .handlerResult, outcome => .read outcome
  | .finalizeSuccess claim result, r => .closed ph.cause (.finalizeSuccess claim result) r
  | .scheduleRetry claim delay code summary reason, r =>
    .closed ph.cause (.scheduleRetry claim delay code summary reason) r
  | .finalizeFailure claim code summary reason, r =>
    .closed ph.cause (.finalizeFailure claim code summary reason) r
  | .finalizeCancellation claim, r => .closed ph.cause (.finalizeCancellation claim) r
  | .wait, .error _ | .waitForGrace, .error _ | .setCustomerCancellation, _ | .setOwnershipLost, _
  | .cancelHandler, _ | .yieldOnce, _ | .waitForCancelledHandler, _ | .retryDelay _, _ => ph

def runnerPhase : RunnerPast V → RunnerPhase V
  | [] => .starting
  | .answered e r :: h => (runnerPhase h).next e r
  | .issued _ :: h => runnerPhase h
  | .ended _ :: h => runnerPhase h

/-- The claim that a finaliser is called with. -/
def RunnerEffect.finalises? : RunnerEffect → Option ClaimedTask
  | .finalizeSuccess claim _ | .scheduleRetry claim _ _ _ _ | .finalizeFailure claim _ _ _
  | .finalizeCancellation claim => some claim
  | _ => none

/-- The claim of a finaliser that does not cancel. -/
def RunnerEffect.completes? : RunnerEffect → Option ClaimedTask
  | .finalizeSuccess claim _ | .scheduleRetry claim _ _ _ _ | .finalizeFailure claim _ _ _ =>
    some claim
  | _ => none

/-- The exceptions after which an attempt may be made again. -/
def Raised.retryable : Raised → Bool
  | .exception .taskCancelled | .exception .ownershipLostError
  | .exception (.permanentTaskError _) | .handlerContractError | .cancelledError
  | .baseException => false
  | _ => true

/-- The exceptions that fail the task for good. -/
def Raised.permanent : Raised → Bool
  | .exception (.permanentTaskError _) | .handlerContractError => true
  | _ => false

variable (validator : ResultValidator V)

/-- The outcome of a handler with its result checked. -/
def checkedOutcome (outcome : Except Raised V) : Except Raised JsonValue :=
  outcome.bind validator.validate

/-- The execution has ended in a timeout or in an error that may be retried. -/
inductive FailsRetryably : RunnerPhase V → Prop
  | timeout : FailsRetryably (.decided (some .timeout))
  | raised {outcome : Except Raised V} {x : Raised}
    (houtcome : checkedOutcome validator outcome = .error x) (hx : x.retryable = true) :
    FailsRetryably (.read outcome)

/-- The execution has ended in an error that is permanent. -/
inductive FailsPermanently : RunnerPhase V → Prop
  | raised {outcome : Except Raised V} {x : Raised}
    (houtcome : checkedOutcome validator outcome = .error x) (hx : x.permanent = true) :
    FailsPermanently (.read outcome)

/-- What an execution may do in each phase. -/
inductive RunnerRequests : RunnerPhase V → RunnerEffect → Prop
  | wait : RunnerRequests .starting .wait
  | waitForGrace : RunnerRequests .gracing .waitForGrace
  | setCustomerCancellation :
    RunnerRequests (.decided (some .customerCancellation)) .setCustomerCancellation
  | setOwnershipLost : RunnerRequests (.decided (some .ownershipLoss)) .setOwnershipLost
  | cancelHandler (cause : ExecutionStopCause) :
    RunnerRequests (.decided (some cause)) .cancelHandler
  | yieldOnce : RunnerRequests (.decided (some .workerShutdown)) .yieldOnce
  | waitForCancelledHandler {cause : ExecutionStopCause} (hcause : cause ≠ .workerShutdown) :
    RunnerRequests (.decided (some cause)) .waitForCancelledHandler
  | handlerResult : RunnerRequests (.decided none) .handlerResult
  | success (claim : ClaimedTask) {outcome : Except Raised V} {result : JsonValue}
    (houtcome : checkedOutcome validator outcome = .ok result) :
    RunnerRequests (.read outcome) (.finalizeSuccess claim result)
  | cancellation (claim : ClaimedTask) :
    RunnerRequests (.decided (some .customerCancellation)) (.finalizeCancellation claim)
  | handlerCancelled (claim : ClaimedTask) {outcome : Except Raised V}
    (houtcome : checkedOutcome validator outcome = .error (.exception .taskCancelled)) :
    RunnerRequests (.read outcome) (.finalizeCancellation claim)
  | retryDelay {ph : RunnerPhase V} {attemptNumber : ℤ} (hfails : FailsRetryably validator ph) :
    RunnerRequests ph (.retryDelay attemptNumber)
  | retry {ph : RunnerPhase V} {claim : ClaimedTask} {delay : Duration}
    {errorCode errorSummary terminalReason : String} (hfails : FailsRetryably validator ph)
    (hlimit : claim.attemptNumber < claim.maxAttempts) :
    RunnerRequests ph (.scheduleRetry claim delay errorCode errorSummary terminalReason)
  | failure {ph : RunnerPhase V} {claim : ClaimedTask}
    {errorCode errorSummary terminalReason : String}
    (hfails : FailsRetryably validator ph ∧ claim.maxAttempts ≤ claim.attemptNumber ∨
      FailsPermanently validator ph) :
    RunnerRequests ph (.finalizeFailure claim errorCode errorSummary terminalReason)
  | rerouted {cause : Option ExecutionStopCause} {e : RunnerEffect} {claim : ClaimedTask}
    (he : e.completes? = some claim) :
    RunnerRequests (.closed cause e (.ok .cancellationRequested)) (.finalizeCancellation claim)

/-- Where an execution may come to its end: not between the report of a cancellation and its
finalisation, and not after a failure without a finaliser unless by an error. -/
structure RunnerEnds (ph : RunnerPhase V) (r : Except Raised Unit) : Prop where
  rerouted : ∀ cause e claim, e.completes? = some claim →
    ph ≠ .closed cause e (.ok .cancellationRequested)
  finalises : FailsRetryably validator ph → ∃ x, r = .error x

def runnerScript : Script (runnerSignature V) Unit
  | h, .issued e => RunnerRequests validator (runnerPhase h) e
  | _, .answered _ _ => True
  | h, .ended r => RunnerEnds validator (runnerPhase h) r

section Keeps

variable {validator} {h : RunnerPast V} {claim : ClaimedTask}

/-- The program `p` keeps to the script after the past `h`, up to the end of the execution. -/
abbrev RunnerKeeps (validator : ResultValidator V) (h : RunnerPast V) (p : Runner V Unit) : Prop :=
  p.Keeps (runnerScript validator) h

lemma runnerKeeps_await {e : RunnerEffect} {f : e.Answer V → Runner V Unit}
    (hrequest : RunnerRequests validator (runnerPhase h) e)
    (herror : ∀ x, RunnerEnds validator ((runnerPhase h).next e (.error x)) (.error x))
    (hok : ∀ a, RunnerKeeps validator (.answered e (.ok a) :: .issued e :: h) (f a)) :
    RunnerKeeps validator h ((await e).bind f) := by
  unfold RunnerKeeps Prog.Keeps
  rw [Prog.emits_bind]
  refine Prog.emits_perform.2 ⟨hrequest, fun r => ?_⟩
  cases r with
  | error x => exact herror x
  | ok a => exact hok a

lemma runnerEnds_of_closed {cause : Option ExecutionStopCause} {e : RunnerEffect}
    {answer : Except Raised FenceResult} {r : Except Raised Unit}
    (hanswer : ∀ claim, e.completes? = some claim → answer ≠ .ok .cancellationRequested) :
    RunnerEnds validator (.closed cause e answer) r := by
  refine ⟨fun cause' e' claim he heq => ?_, fun hfails => by cases hfails⟩
  cases heq
  exact hanswer claim he rfl

lemma runnerEnds_error {ph : RunnerPhase V} {x : Raised}
    (hph : ∀ cause e answer, ph ≠ .closed cause e answer) :
    RunnerEnds validator ph (.error x) :=
  ⟨fun cause e _ _ => hph cause e _, fun _ => ⟨x, rfl⟩⟩

lemma keeps_finalizeCustomerCancellation
    (hrequest : RunnerRequests validator (runnerPhase h) (.finalizeCancellation claim)) :
    RunnerKeeps validator h (finalizeCustomerCancellation claim) := by
  unfold finalizeCustomerCancellation
  apply runnerKeeps_await hrequest
  · intro x
    exact runnerEnds_of_closed fun _ he => (by cases he)
  · intro r
    exact runnerEnds_of_closed fun _ he => (by cases he)

lemma keeps_handleFailedFence {cause : Option ExecutionStopCause} {e : RunnerEffect}
    {r : FenceResult} (he : e.completes? = some claim)
    (hphase : runnerPhase h = .closed cause e (.ok r)) :
    RunnerKeeps validator h (handleFailedFence claim r) := by
  cases r with
  | cancellationRequested =>
    apply keeps_finalizeCustomerCancellation
    rw [hphase]
    exact .rerouted he
  | applied | stale =>
    show RunnerEnds validator (runnerPhase h) _
    rw [hphase]
    exact runnerEnds_of_closed fun _ _ => by simp

lemma keeps_finalizeFailurePolicy {errorCode errorSummary terminalReason : String}
    {retryable : Bool} {retryAfter : Option Duration}
    (hfails : if retryable then FailsRetryably validator (runnerPhase h)
      else FailsPermanently validator (runnerPhase h)) :
    RunnerKeeps validator h (finalizeFailurePolicy claim errorCode errorSummary terminalReason
      retryable retryAfter) := by
  unfold finalizeFailurePolicy
  split
  · rename_i hretry
    obtain ⟨rfl, hlimit⟩ := hretry
    rw [if_pos rfl] at hfails
    have hschedule : ∀ (h : RunnerPast V) (delay : Duration),
        FailsRetryably validator (runnerPhase h) → RunnerKeeps validator h
          ((await (.scheduleRetry claim delay errorCode errorSummary terminalReason)).bind
            fun fenceResult => handleFailedFence claim fenceResult) := by
      intro h delay hfails
      apply runnerKeeps_await (.retry hfails hlimit)
      · intro x
        exact runnerEnds_of_closed fun _ _ => by simp
      · intro r
        exact keeps_handleFailedFence rfl rfl
    cases retryAfter with
    | some delay => exact hschedule h delay hfails
    | none =>
      apply runnerKeeps_await (.retryDelay hfails)
      · intro x
        refine ⟨fun cause e _ _ heq => ?_, fun _ => ⟨x, rfl⟩⟩
        rw [show (runnerPhase h).next _ _ = runnerPhase h from rfl] at heq
        rw [heq] at hfails
        cases hfails
      · intro delay
        exact hschedule _ delay hfails
  · rename_i hretry
    have hend : FailsRetryably validator (runnerPhase h) ∧ claim.maxAttempts ≤ claim.attemptNumber ∨
        FailsPermanently validator (runnerPhase h) := by
      cases retryable with
      | true => exact .inl ⟨hfails, not_lt.1 fun hlt => hretry ⟨rfl, hlt⟩⟩
      | false => exact .inr hfails
    apply runnerKeeps_await (.failure hend)
    · intro x
      exact runnerEnds_of_closed fun _ _ => by simp
    · intro r
      exact keeps_handleFailedFence rfl rfl

lemma runnerEnds_of_read {outcome : Except Raised V} {r : Except Raised Unit}
    (hretryable : ∀ x, checkedOutcome validator outcome = .error x → x.retryable = false) :
    RunnerEnds validator (.read outcome) r := by
  refine ⟨fun _ _ _ _ heq => (by cases heq), fun hfails => ?_⟩
  cases hfails with
  | raised houtcome hx =>
    rw [hretryable _ houtcome] at hx
    cases hx

lemma keeps_finalizeOutcome {outcome : Except Raised V} (hphase : runnerPhase h = .read outcome) :
    RunnerKeeps validator h (finalizeOutcome claim (checkedOutcome validator outcome)) := by
  have hretryable : ∀ {x code summary reason after}, checkedOutcome validator outcome = .error x →
      x.retryable = true →
      RunnerKeeps validator h (finalizeFailurePolicy claim code summary reason true after) := by
    intro x code summary reason after houtcome hx
    apply keeps_finalizeFailurePolicy
    rw [if_pos rfl, hphase]
    exact .raised houtcome hx
  have hpermanent : ∀ {x code summary reason}, checkedOutcome validator outcome = .error x →
      x.permanent = true →
      RunnerKeeps validator h (finalizeFailurePolicy claim code summary reason false none) := by
    intro x code summary reason houtcome hx
    apply keeps_finalizeFailurePolicy
    rw [if_neg Bool.false_ne_true, hphase]
    exact .raised houtcome hx
  have hstop : ∀ {x} {r : Except Raised Unit}, checkedOutcome validator outcome = .error x →
      x.retryable = false → RunnerEnds validator (runnerPhase h) r := by
    intro x r houtcome hx
    rw [hphase]
    apply runnerEnds_of_read
    intro y hy
    rw [houtcome] at hy
    cases hy
    exact hx
  cases houtcome : checkedOutcome validator outcome with
  | ok result =>
    have hrequest : RunnerRequests validator (runnerPhase h) (.finalizeSuccess claim result) := by
      rw [hphase]
      exact .success claim houtcome
    apply runnerKeeps_await hrequest
    · intro x
      exact runnerEnds_of_closed fun _ _ => by simp
    · intro r
      exact keeps_handleFailedFence rfl rfl
  | error x =>
    cases x with
    | exception x =>
      cases x with
      | taskCancelled =>
        apply keeps_finalizeCustomerCancellation
        rw [hphase]
        exact .handlerCancelled claim houtcome
      | ownershipLostError => exact hstop houtcome rfl
      | permanentTaskError code => exact hpermanent houtcome rfl
      | retryableTaskError code after => exact hretryable houtcome rfl
      | integrityError | noResultFound | valueError | runtimeError | executionInvariantError
      | taskNotFoundError | idempotencyConflictError | invalidTaskTransitionError
      | retryableProviderError | permanentProviderError | providerWriteOutcomeUnknown
      | slackRetryableFailure | slackPermanentFailure | slackOutcomeUnknown
      | reconciliationNeedsReview =>
        show RunnerKeeps validator h (finalizeFailurePolicy claim "unexpected_error" _ _ true none)
        exact hretryable houtcome rfl
    | handlerContractError => exact hpermanent houtcome rfl
    | cancelledError => exact hstop houtcome rfl
    | otherException =>
      show RunnerKeeps validator h (finalizeFailurePolicy claim "unexpected_error" _ _ true none)
      exact hretryable houtcome rfl
    | baseException => exact hstop houtcome rfl

lemma keeps_handleHandlerCompletion (hphase : runnerPhase h = .decided none) :
    RunnerKeeps validator h (handleHandlerCompletion validator claim) := by
  have hrequest : RunnerRequests validator (runnerPhase h) .handlerResult := by
    rw [hphase]
    exact .handlerResult
  unfold handleHandlerCompletion handlerOutcome RunnerKeeps Prog.Keeps
  rw [Prog.bind_eq, Prog.emits_bind, Prog.emits_attempt, Prog.bind_eq, Prog.emits_bind]
  refine Prog.emits_perform.2 ⟨hrequest, fun outcome => ?_⟩
  have hread : RunnerKeeps validator (.answered .handlerResult outcome ::
      .issued .handlerResult :: h) (finalizeOutcome claim (checkedOutcome validator outcome)) :=
    keeps_finalizeOutcome rfl
  cases outcome with
  | error x => exact hread
  | ok raw => exact Prog.emits_ofExcept.2 hread

/-- An await that leaves the phase as it is. -/
lemma runnerKeeps_pass {e : RunnerEffect} {f : e.Answer V → Runner V Unit}
    (hrequest : RunnerRequests validator (runnerPhase h) e)
    (hsame : ∀ r, (runnerPhase h).next e r = runnerPhase h)
    (hopen : ∀ cause e answer, runnerPhase h ≠ .closed cause e answer)
    (hok : ∀ h' a, runnerPhase h' = runnerPhase h → RunnerKeeps validator h' (f a)) :
    RunnerKeeps validator h ((await e).bind f) := by
  apply runnerKeeps_await hrequest
  · intro x
    rw [hsame]
    exact runnerEnds_error hopen
  · intro a
    apply hok
    exact hsame (.ok a)

lemma keeps_stopHandler {cause : ExecutionStopCause} {p : Runner V Unit}
    (hphase : runnerPhase h = .decided (some cause))
    (hp : ∀ h, runnerPhase h = .decided (some cause) → RunnerKeeps validator h p) :
    RunnerKeeps validator h ((stopHandler cause).bind fun _ => p) := by
  have hopen : ∀ h : RunnerPast V, runnerPhase h = .decided (some cause) →
      ∀ cause e answer, runnerPhase h ≠ .closed cause e answer := by
    intro h hphase cause' e answer heq
    rw [hphase] at heq
    cases heq
  have hstopped : ∀ h : RunnerPast V, runnerPhase h = .decided (some cause) →
      RunnerKeeps validator h ((handlerStopped cause).bind fun _ => p) := by
    intro h hphase
    unfold handlerStopped
    split
    · rename_i hcause
      subst hcause
      apply runnerKeeps_pass
      · rw [hphase]
        exact .yieldOnce
      · exact fun _ => rfl
      · exact hopen h hphase
      · exact fun h' _ hsame => hp h' (hsame.trans hphase)
    · rename_i hcause
      apply runnerKeeps_pass
      · rw [hphase]
        exact .waitForCancelledHandler hcause
      · exact fun _ => rfl
      · exact hopen h hphase
      · exact fun h' _ hsame => hp h' (hsame.trans hphase)
  have hcancel : ∀ h : RunnerPast V, runnerPhase h = .decided (some cause) →
      RunnerKeeps validator h ((await .cancelHandler).bind fun _ =>
        (handlerStopped cause).bind fun _ => p) := by
    intro h hphase
    apply runnerKeeps_pass
    · rw [hphase]
      exact .cancelHandler cause
    · exact fun _ => rfl
    · exact hopen h hphase
    · exact fun h' _ hsame => hstopped h' (hsame.trans hphase)
  unfold stopHandler
  simp only [Prog.bind_eq, Prog.bind_assoc, Prog.pure_eq, Prog.ret_bind]
  cases cause with
  | customerCancellation =>
    apply runnerKeeps_pass
    · rw [hphase]
      exact .setCustomerCancellation
    · exact fun _ => rfl
    · exact hopen h hphase
    · exact fun h' _ hsame => hcancel h' (hsame.trans hphase)
  | ownershipLoss =>
    apply runnerKeeps_pass
    · rw [hphase]
      exact .setOwnershipLost
    · exact fun _ => rfl
    · exact hopen h hphase
    · exact fun h' _ hsame => hcancel h' (hsame.trans hphase)
  | timeout => exact hcancel h hphase
  | workerShutdown => exact hcancel h hphase

/-- What follows once the stop cause is known. -/
def finalizeCause (validator : ResultValidator V) (claim : ClaimedTask) :
    Option ExecutionStopCause → Runner V Unit
  | none => handleHandlerCompletion validator claim
  | some cause => (stopHandler cause).bind fun _ => match cause with
    | .customerCancellation => finalizeCustomerCancellation claim
    | .timeout =>
      finalizeFailurePolicy claim "execution_timeout" "Task execution exceeded its time limit"
        "execution_timeout" true none
    | .workerShutdown => pure ()
    | .ownershipLoss => pure ()

lemma keeps_finalizeCause {cause : Option ExecutionStopCause}
    (hphase : runnerPhase h = .decided cause) :
    RunnerKeeps validator h (finalizeCause validator claim cause) := by
  cases cause with
  | none => exact keeps_handleHandlerCompletion hphase
  | some cause =>
    apply keeps_stopHandler hphase
    intro h hphase
    have hdone : cause ≠ .timeout → ∀ r, RunnerEnds validator (runnerPhase h) r := by
      intro hcause r
      rw [hphase]
      refine ⟨fun _ _ _ _ heq => (by cases heq), fun hfails => ?_⟩
      cases hfails
      exact absurd rfl hcause
    cases cause with
    | customerCancellation =>
      apply keeps_finalizeCustomerCancellation
      rw [hphase]
      exact .cancellation claim
    | timeout =>
      apply keeps_finalizeFailurePolicy
      rw [if_pos rfl, hphase]
      exact .timeout
    | workerShutdown => exact hdone (by simp) _
    | ownershipLoss => exact hdone (by simp) _

/-- A run of `_execute_claim` keeps to the script. -/
theorem executeClaim_keeps : RunnerKeeps validator [] (executeClaim validator claim) := by
  have hwait : ∀ (h : RunnerPast V) x, runnerPhase h = .starting ∨ runnerPhase h = .gracing →
      RunnerEnds validator (runnerPhase h) (.error x) := by
    intro h x hphase
    apply runnerEnds_error
    intro cause e answer heq
    rcases hphase with hphase | hphase <;> rw [hphase] at heq <;> cases heq
  show RunnerKeeps validator [] (stopCause.bind (finalizeCause validator claim))
  unfold stopCause
  simp only [Prog.bind_eq, Prog.bind_assoc]
  apply runnerKeeps_await .wait
  · intro x
    exact hwait [] x (.inl rfl)
  · intro done
    have hphase : runnerPhase (.answered .wait (.ok done) :: .issued .wait :: []) =
        if done.shutdown = true ∧ completedCause done = none ∧ done.handler = false then .gracing
        else (.decided (completedCause done) : RunnerPhase V) := rfl
    split
    · rename_i hshutdown
      rw [if_pos hshutdown] at hphase
      simp only [Prog.bind_assoc]
      apply runnerKeeps_await
      · rw [hphase]
        exact .waitForGrace
      · intro x
        exact hwait _ x (.inr hphase)
      · intro done
        split
        · rename_i hempty
          apply keeps_finalizeCause
          exact congrArg RunnerPhase.decided (if_pos hempty)
        · rename_i hsome
          apply keeps_finalizeCause
          exact congrArg RunnerPhase.decided (if_neg hsome)
    · rename_i hshutdown
      rw [if_neg hshutdown] at hphase
      exact keeps_finalizeCause hphase

end Keeps

end DeploymentLab
