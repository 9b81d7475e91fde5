import Mathlib.Data.List.Forall2
import DeploymentLab.Model.Json

/-!
# Statuses, commands and exceptions

The enumerations that the tables store and the exceptions that the operations raise. An
exception carries what its handlers read: the error code, the delay asked for, or the
message by which one invariant error differs from another.
-/

namespace DeploymentLab

inductive TaskStatus
  | pendingApproval | approved | running | succeeded | failed | cancelled
  deriving DecidableEq, Repr

inductive TaskCommand
  | approve | cancel | start | succeed | fail | retry | finalizeCancellation
  deriving DecidableEq, Repr

inductive AttemptStatus
  | running | succeeded | retryScheduled | failed | cancelled | leaseExpired
  deriving DecidableEq, Repr

inductive ExternalActionStatus
  | reserved | reconciling | readyToExecute | executing | retryableFailure | outcomeUnknown
  | succeeded | permanentFailure | needsHumanReview
  deriving DecidableEq, Repr

inductive ExternalActionProvider
  | github | slack
  deriving DecidableEq, Repr

inductive ExternalActionOperation
  | upsertDeploymentContextComment | postDeploymentContextNotification
  deriving DecidableEq, Repr

inductive ActionReservationKind
  | created | replay | changed | sourceDrift
  deriving DecidableEq, Repr

inductive DataClassification
  | «public» | internal | confidential | restricted
  deriving DecidableEq, Repr

inductive DecisionOutcome
  | ready | blocked | needsHumanReview
  deriving DecidableEq, Repr

inductive DecisionReasonCode
  | ready | serviceNotAllowed | repositoryNotAllowed | jiraProjectNotAllowed
  | repositoryNotOwnedByService | serviceRecordConflict | serviceRecordMalformed
  | serviceOwnerMissing | policyStale | dataClassificationBlocked
  | automaticPublicationDisabled | reviewerRequired | repositoryArchived | issueClosed
  | targetIsPullRequest | githubRepositoryIdentityMismatch | githubIssueIdentityMismatch
  | jiraIssueIdentityMismatch | providerIdentityUnverified | sourceDataIncomplete
  | actionScopeChanged | sourceVersionDrift | reconciliationInconclusive | commentMissing
  | commentMarkerMissing | multipleCommentsFound
  deriving DecidableEq, Repr

inductive SlackDeliveryState
  | notRequested | succeeded | retryableFailure | outcomeUnknown | permanentFailure
  | needsHumanReview
  deriving DecidableEq, Repr

def ActionReservationKind.value : ActionReservationKind → String
  | .created => "created"
  | .replay => "replay"
  | .changed => "changed"
  | .sourceDrift => "source_drift"

def DataClassification.value : DataClassification → String
  | .«public» => "public"
  | .internal => "internal"
  | .confidential => "confidential"
  | .restricted => "restricted"

def DecisionOutcome.value : DecisionOutcome → String
  | .ready => "ready"
  | .blocked => "blocked"
  | .needsHumanReview => "needs_human_review"

def DecisionReasonCode.value : DecisionReasonCode → String
  | .ready => "ready"
  | .serviceNotAllowed => "service_not_allowed"
  | .repositoryNotAllowed => "repository_not_allowed"
  | .jiraProjectNotAllowed => "jira_project_not_allowed"
  | .repositoryNotOwnedByService => "repository_not_owned_by_service"
  | .serviceRecordConflict => "service_record_conflict"
  | .serviceRecordMalformed => "service_record_malformed"
  | .serviceOwnerMissing => "service_owner_missing"
  | .policyStale => "policy_stale"
  | .dataClassificationBlocked => "data_classification_blocked"
  | .automaticPublicationDisabled => "automatic_publication_disabled"
  | .reviewerRequired => "reviewer_required"
  | .repositoryArchived => "repository_archived"
  | .issueClosed => "issue_closed"
  | .targetIsPullRequest => "target_is_pull_request"
  | .githubRepositoryIdentityMismatch => "github_repository_identity_mismatch"
  | .githubIssueIdentityMismatch => "github_issue_identity_mismatch"
  | .jiraIssueIdentityMismatch => "jira_issue_identity_mismatch"
  | .providerIdentityUnverified => "provider_identity_unverified"
  | .sourceDataIncomplete => "source_data_incomplete"
  | .actionScopeChanged => "action_scope_changed"
  | .sourceVersionDrift => "source_version_drift"
  | .reconciliationInconclusive => "reconciliation_inconclusive"
  | .commentMissing => "comment_missing"
  | .commentMarkerMissing => "comment_marker_missing"
  | .multipleCommentsFound => "multiple_comments_found"

inductive Exn
  | integrityError (constraint : String)
  | noResultFound
  | valueError (message : String)
  | runtimeError (message : String)
  | executionInvariantError (message : String)
  | taskNotFoundError (taskId : UUID)
  | idempotencyConflictError
  | invalidTaskTransitionError (currentStatus : TaskStatus) (command : TaskCommand)
  | taskCancelled
  | ownershipLostError
  | retryableTaskError (errorCode : String) (retryAfter : Option Duration)
  | permanentTaskError (errorCode : String)
  | retryableProviderError (errorCode : String) (retryAfter : Option Duration)
  | permanentProviderError (errorCode : String)
  | providerWriteOutcomeUnknown (errorCode : String)
  | slackRetryableFailure (errorCode : String) (retryAfter : Option Duration)
  | slackPermanentFailure (errorCode : String)
  | slackOutcomeUnknown (errorCode : String)
  | reconciliationNeedsReview (code : DecisionReasonCode) (safeReason : String)
  deriving DecidableEq, Repr

/-- `_require_one_row`. -/
def requireOneRow (rowcount : ℕ) (operation : String) : Except Exn Unit :=
  if rowcount ≠ 1 then
    .error (.executionInvariantError (operation ++ " expected one row but affected " ++
      toString rowcount))
  else .ok ()

lemma requireOneRow_eq_ok {n : ℕ} {operation : String} {u : Unit} :
    requireOneRow n operation = .ok u ↔ n = 1 := by
  simp [requireOneRow]

/-- `INSERT` and `UPDATE` fail on the first named constraint that does not hold. -/
def requireConstraints : List (String × Bool) → Except Exn Unit
  | [] => .ok ()
  | (name, holds) :: constraints =>
    if holds then requireConstraints constraints else .error (.integrityError name)

section Except

variable {α β : Type} {x : Except Exn α} {f : α → Except Exn β}

lemma bind_eq_ok {b : β} : (x >>= f) = .ok b ↔ ∃ a, x = .ok a ∧ f a = .ok b := by
  cases x <;> simp [bind, Except.bind]

lemma bind_eq_error {e : Exn} :
    (x >>= f) = .error e ↔ x = .error e ∨ ∃ a, x = .ok a ∧ f a = .error e := by
  cases x <;> simp [bind, Except.bind]

/-- Every item of a list is read. -/
lemma mapM_eq_ok {xs : List α} {ys : List β} :
    xs.mapM f = .ok ys ↔ List.Forall₂ (fun x y => f x = .ok y) xs ys := by
  induction xs generalizing ys with
  | nil =>
    rw [List.forall₂_nil_left_iff]
    cases ys <;> simp [pure, Except.pure]
  | cons x xs ih =>
    rw [List.mapM_cons, bind_eq_ok, List.forall₂_cons_left_iff]
    constructor
    · rintro ⟨y, hy, hrest⟩
      obtain ⟨rest, hxs, hrest⟩ := bind_eq_ok.1 hrest
      exact ⟨y, rest, hy, ih.1 hxs, (Except.ok.inj hrest).symm⟩
    · rintro ⟨y, rest, hy, hxs, rfl⟩
      exact ⟨y, hy, bind_eq_ok.2 ⟨rest, ih.2 hxs, rfl⟩⟩

end Except

lemma requireConstraints_eq_ok {constraints : List (String × Bool)} :
    requireConstraints constraints = .ok () ↔ ∀ c ∈ constraints, c.2 = true := by
  induction constraints with
  | nil => simp [requireConstraints]
  | cons c constraints ih =>
    obtain ⟨name, holds⟩ := c
    cases holds <;> simp [requireConstraints, ih]

lemma requireConstraints_eq_error {constraints : List (String × Bool)} {x : Exn}
    (h : requireConstraints constraints = .error x) : ∃ c ∈ constraints, c.2 = false := by
  by_contra hnone
  push Not at hnone
  have hok : requireConstraints constraints = .ok () := by
    rw [requireConstraints_eq_ok]
    intro c hc
    simpa using hnone c hc
  rw [hok] at h
  cases h

end DeploymentLab
