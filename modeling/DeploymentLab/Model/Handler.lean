import DeploymentLab.Library.Interaction
import DeploymentLab.Model.Providers

/-!
# What a handler awaits

A task handler is a program over the awaits of the repository: the transactions of the
evidence store and of the ledger, and the calls to the providers. Between two awaits it can
only look at the events of its `HandlerContext` and at the clock of its process.
-/

namespace DeploymentLab

open Interaction

structure HandlerView where
  customerCancellation : Bool := false
  ownershipLost : Bool := false
  wallClock : Timestamp := 0
  deriving DecidableEq, Repr

inductive Effect
  | record (request : ArtifactRequest)
  | reserveOrGet (request : ReservationRequest)
  | transition (request : TransitionRequest)
  | revise (request : RevisionRequest)
  | reconciliationDelaySeconds (actionId : UUID)
  | fetchRecords (serviceId : String)
  | verifyGitHubIdentity
  | fetchContext (repository : String) (issueNumber : ℤ)
  | getComment (repository commentId : String)
  | findCommentsByMarker (repository : String) (issueNumber : ℤ) (marker : String)
  | createComment (repository : String) (issueNumber : ℤ) (body : String)
  | updateComment (repository commentId body : String)
  | fetchIssue (issueKey : String)
  | verifySlackIdentity
  | postNotification (request : SlackMessageRequest)

abbrev Effect.Answer : Effect → Type
  | .record _ => SourceArtifact
  | .reserveOrGet _ => ActionReservation
  | .transition _ => ExternalAction
  | .revise _ => ExternalAction
  | .reconciliationDelaySeconds _ => Duration
  | .fetchRecords _ => List ServiceCatalogRecord
  | .verifyGitHubIdentity => Bool
  | .fetchContext _ _ => GitHubRepositoryContext
  | .getComment _ _ => Option GitHubComment
  | .findCommentsByMarker _ _ _ => CommentSearchResult
  | .createComment _ _ _ => GitHubComment
  | .updateComment _ _ _ => GitHubComment
  | .fetchIssue _ => JiraWorkItem
  | .verifySlackIdentity => Bool
  | .postNotification _ => SlackMessageReceipt

abbrev handlerSignature : Signature where
  View := HandlerView
  Effect := Effect
  Answer := Effect.Answer
  Exn := Exn

abbrev Handler (α : Type) := Prog handlerSignature α

/-- The outcome of an await: its answer, or the exception it raised. -/
abbrev Outcome (e : Effect) := Except Exn e.Answer

def perform (e : Effect) : Handler e.Answer := @Prog.perform handlerSignature e

structure TaskExecution where
  taskId : UUID
  executionFence : ExecutionFence
  deriving DecidableEq

namespace HandlerContext

def raiseIfOwnershipLost : Handler Unit :=
  .look fun context => if context.ownershipLost then .raise .ownershipLostError else .ret ()

def raiseIfCancelled : Handler Unit :=
  .look fun context =>
    if context.ownershipLost then .raise .ownershipLostError
    else if context.customerCancellation then .raise .taskCancelled
    else .ret ()

end HandlerContext

end DeploymentLab
