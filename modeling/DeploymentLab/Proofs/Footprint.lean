import DeploymentLab.Library.Trace
import DeploymentLab.Model.Workflow
import DeploymentLab.Model.World

/-!
# The effects of one run

Every effect that a delivery or the workflow may await, whatever has come before it. What each
transition asks of the ledger is read off its form.
-/

namespace DeploymentLab

open Interaction HandlerContext

section Delivery

open SlackDeliveryService

/-- What a delivery may await. -/
inductive DeliveryEffect [Runtime] (settings : Settings) (task : TaskExecution) : Effect → Prop
  | reserve (scope : String) (desiredFingerprint snapshotHash : Digest) :
    DeliveryEffect settings task (.reserveOrGet {
      fence := task.executionFence
      provider := .slack
      operation := .postDeploymentContextNotification
      actionScopeKey := scope
      desiredRequestFingerprint := desiredFingerprint
      decisionSnapshotHash := snapshotHash })
  | demote (a : ExternalAction) :
    DeliveryEffect settings task (.transition (previousWriteUnresolved task a))
  | identityRetryable (a : ExternalAction) (errorCode : String) (retryAfter : Option Duration) :
    DeliveryEffect settings task
      (.transition (identityRetryableFailure task a errorCode retryAfter))
  | identityPermanent (a : ExternalAction) (errorCode : String) :
    DeliveryEffect settings task (.transition (identityPermanentFailure task a errorCode))
  | mismatch (a : ExternalAction) :
    DeliveryEffect settings task (.transition (identityMismatch task a))
  | write (a : ExternalAction) :
    DeliveryEffect settings task (.transition (writeStarted settings task a))
  | unsent (a : ExternalAction) (errorCode : String) (retryAfter : Option Duration) :
    DeliveryEffect settings task (.transition (retryableFailure task a errorCode retryAfter))
  | rejected (a : ExternalAction) (errorCode : String) :
    DeliveryEffect settings task (.transition (permanentFailure task a errorCode))
  | unknown (a : ExternalAction) (errorCode : String) :
    DeliveryEffect settings task (.transition (outcomeUnknown task a errorCode))
  | succeeded (a : ExternalAction) (receipt : SlackMessageReceipt) (desiredFingerprint : Digest) :
    DeliveryEffect settings task (.transition (writeSucceeded task a receipt desiredFingerprint))
  | delay (id : UUID) : DeliveryEffect settings task (.reconciliationDelaySeconds id)
  | verify : DeliveryEffect settings task .verifySlackIdentity
  | post (request : SlackMessageRequest) : DeliveryEffect settings task (.postNotification request)

section Steps

variable {P : Effect → Prop} {α β : Type}

lemma issues_raiseIfCancelled : raiseIfCancelled.Issues P := by
  intro context
  dsimp only
  split
  · trivial
  split
  · trivial
  · trivial

lemma issues_raiseIfOwnershipLost : raiseIfOwnershipLost.Issues P := by
  intro context
  dsimp only
  split
  · trivial
  · trivial

lemma issues_checked {p : Handler β} (hp : p.Issues P) :
    (raiseIfCancelled.bind fun _ => p).Issues P :=
  issues_raiseIfCancelled.bind fun _ => hp

lemma issues_owned {p : Handler β} (hp : p.Issues P) :
    (raiseIfOwnershipLost.bind fun _ => p).Issues P :=
  issues_raiseIfOwnershipLost.bind fun _ => hp

lemma issues_await {e : Effect} {f : e.Answer → Handler β} (he : P e)
    (hf : ∀ a, (f a).Issues P) : ((perform e).bind f).Issues P :=
  (Prog.issues_perform.2 he).bind hf

lemma issues_attempted {p : Handler α} {f : Except Exn α → Handler β} (hp : p.Issues P)
    (hf : ∀ r, (f r).Issues P) : (p.attempt.bind f).Issues P :=
  hp.attempt.bind hf

end Steps

variable [Runtime] {settings : Settings} {task : TaskExecution} {a : ExternalAction}
  {request : SlackMessageRequest} {desiredFingerprint : Digest}

omit [Runtime] in
lemma result_issues {P : Effect → Prop} {state : SlackDeliveryState} {errorCode : Option String} :
    (result state a errorCode).Issues P :=
  Prog.issues_ofExcept.bind fun _ => Prog.issues_ofExcept

lemma post_issues :
    (SlackDeliveryService.post settings task a request desiredFingerprint).Issues
      (DeliveryEffect settings task) := by
  have hrecorded : ∀ {request : TransitionRequest} {state : SlackDeliveryState}
      {errorCode : Option String}, DeliveryEffect settings task (.transition request) →
      Prog.Issues (DeliveryEffect settings task) (raiseIfOwnershipLost.bind fun _ =>
        (perform (.transition request)).bind fun action => raiseIfCancelled.bind fun _ =>
          result state action errorCode) := by
    intro request state errorCode hrequest
    exact issues_owned (issues_await hrequest fun a => issues_checked result_issues)
  refine issues_checked (issues_await (.write a) fun a => ?_)
  refine issues_checked (issues_attempted (Prog.issues_perform.2 (.post request)) fun r => ?_)
  split
  · exact hrecorded (.unsent a _ _)
  · exact hrecorded (.rejected a _)
  · exact hrecorded (.unknown a _)
  · trivial
  · exact hrecorded (.succeeded a _ _)

lemma verifyAndPost_issues :
    (verifyAndPost settings task a request desiredFingerprint).Issues
      (DeliveryEffect settings task) := by
  refine issues_checked (issues_attempted (Prog.issues_perform.2 .verify) fun r => ?_)
  split
  · exact issues_checked
      (issues_await (.identityRetryable a _ _) fun a => issues_checked result_issues)
  · exact issues_checked (issues_await (.identityPermanent a _) fun a =>
      issues_checked result_issues)
  · trivial
  · refine issues_checked ?_
    split
    · exact post_issues
    · exact issues_await (.mismatch a) fun a => issues_checked result_issues

lemma deliverReserved_issues {reservation : ActionReservation} :
    (deliverReserved settings task request desiredFingerprint reservation).Issues
      (DeliveryEffect settings task) := by
  unfold deliverReserved
  dsimp only
  split
  · exact result_issues
  split
  · exact result_issues
  · exact result_issues
  · exact result_issues
  · exact result_issues
  · exact issues_checked (issues_await (.demote _) fun a => result_issues)
  · refine issues_await (.delay _) fun delay => issues_checked ?_
    split
    · exact result_issues
    · exact verifyAndPost_issues
  · exact verifyAndPost_issues
  · exact verifyAndPost_issues
  · exact verifyAndPost_issues

lemma deliver_issues {delivery : SlackDeliveryRequest} :
    (deliver settings task delivery).Issues (DeliveryEffect settings task) := by
  refine issues_checked (Prog.issues_ofExcept.bind fun message => ?_)
  refine Prog.issues_ofExcept.bind fun request => Prog.issues_ofExcept.bind fun scope => ?_
  refine Prog.issues_ofExcept.bind fun snapshotHash => ?_
  exact issues_await (.reserve _ _ _) fun reservation => deliverReserved_issues

end Delivery

section Workflow

open DeploymentContextSyncHandler

/-- What a run of the workflow may await. -/
inductive SyncEffect [Runtime] (settings : Settings) (task : TaskExecution) : Effect → Prop
  | record (request : ArtifactRequest) : SyncEffect settings task (.record request)
  | reserve (scope : String) (desiredFingerprint snapshotHash : Digest) :
    SyncEffect settings task (.reserveOrGet {
      fence := task.executionFence
      provider := .github
      operation := .upsertDeploymentContextComment
      actionScopeKey := scope
      desiredRequestFingerprint := desiredFingerprint
      decisionSnapshotHash := snapshotHash })
  | start (a : ExternalAction) :
    SyncEffect settings task (.transition (reconciliationStarted task a))
  | retryable (a : ExternalAction) (errorCode : String) :
    SyncEffect settings task (.transition (reconciliationRetryableFailure task a errorCode))
  | review (a : ExternalAction) (code : DecisionReasonCode) :
    SyncEffect settings task (.transition (reconciliationNeedsHumanReview task a code))
  | mismatch (a : ExternalAction) :
    SyncEffect settings task (.transition (reconciledContentMismatch task a))
  | noMatch (a : ExternalAction) :
    SyncEffect settings task (.transition (reconciliationCompletedNoMatch task a))
  | write (a : ExternalAction) :
    SyncEffect settings task (.transition (writeStarted settings task a))
  | unknown (a : ExternalAction) (errorCode : String) :
    SyncEffect settings task (.transition (writeOutcomeUnknown task a errorCode))
  | unsent (a : ExternalAction) (errorCode : String) :
    SyncEffect settings task (.transition (writeRetryableFailure task a errorCode))
  | rejected (a : ExternalAction) (errorCode : String) :
    SyncEffect settings task (.transition (writePermanentFailure task a errorCode))
  | reconciled (a : ExternalAction) (comment : GitHubComment) (desiredFingerprint : Digest) :
    SyncEffect settings task (.transition (completeSuccess task a comment desiredFingerprint
      [.reconciling] "reconciled_succeeded"))
  | succeeded (a : ExternalAction) (comment : GitHubComment) (desiredFingerprint : Digest) :
    SyncEffect settings task (.transition (completeSuccess task a comment desiredFingerprint
      [.executing] "write_succeeded"))
  | revise (a : ExternalAction) (desiredFingerprint snapshotHash : Digest) :
    SyncEffect settings task (.revise {
      fence := task.executionFence
      actionId := a.id
      expectedRevision := a.revision
      desiredRequestFingerprint := desiredFingerprint
      decisionSnapshotHash := snapshotHash })
  | delay (id : UUID) : SyncEffect settings task (.reconciliationDelaySeconds id)
  | provider {e : Effect} (he : e.isTransaction = false) : SyncEffect settings task e
  | delivery {e : Effect} (he : DeliveryEffect settings task e) : SyncEffect settings task e

/-- The await reads the service catalog. -/
def Effect.readsCatalog : Effect → Bool
  | .fetchRecords _ => true
  | _ => false

/-- What a run may await once it has read the catalog. -/
def LaterEffect [Runtime] (settings : Settings) (task : TaskExecution) (e : Effect) : Prop :=
  SyncEffect settings task e ∧ e.readsCatalog = false

/-- The await reserves an action. -/
def Effect.reserves : Effect → Bool
  | .reserveOrGet _ => true
  | _ => false

/-- What a run may await once it has been given its action. -/
def AppliedEffect [Runtime] (settings : Settings) (task : TaskExecution) (e : Effect) : Prop :=
  LaterEffect settings task e ∧ e.reserves = false

/-- The await reads comments. -/
def Effect.readsComments : Effect → Bool
  | .getComment _ _ | .findCommentsByMarker _ _ _ => true
  | _ => false

/-- What a run may await once it has read the comment of its action. -/
def ReconciledEffect [Runtime] (settings : Settings) (task : TaskExecution) (e : Effect) : Prop :=
  AppliedEffect settings task e ∧ e.readsComments = false

variable [Runtime] {handler : DeploymentContextSyncHandler} {settings : Settings}
  {task : TaskExecution} {taskInput : DeploymentContextSyncInput} {publication : Publication}
  {action : ExternalAction} {evaluation : PolicyEvaluation} {service : ServiceCatalogRecord}
  {references : List SourceReference}

omit [Runtime] in
lemma issues_providerCall {P : Effect → Prop} {β : Type} {e : Effect} {f : e.Answer → Handler β}
    (he : P e) (hf : ∀ a, (f a).Issues P) : ((providerCall e).bind f).Issues P := by
  refine Prog.Issues.bind (issues_attempted (Prog.issues_perform.2 he) fun r => ?_) hf
  split
  · trivial
  · trivial
  · trivial
  · trivial

lemma applyWrite_issues :
    (applyWrite settings task publication action).Issues (ReconciledEffect settings task) := by
  have hfailed : ∀ {request : TransitionRequest} {x : Exn},
      ReconciledEffect settings task (.transition request) →
      Prog.Issues (ReconciledEffect settings task) ((perform (.transition request)).bind fun _ =>
        (.raise x : Handler DeploymentContextResult)) :=
    fun hrequest => issues_await hrequest fun _ => trivial
  refine issues_await ⟨⟨⟨.noMatch _, rfl⟩, rfl⟩, rfl⟩ fun a₁ => issues_checked ?_
  refine issues_await ⟨⟨⟨.write _, rfl⟩, rfl⟩, rfl⟩ fun a => ?_
  refine issues_checked (issues_attempted ?_ fun r => ?_)
  · unfold writeComment
    split
    · exact Prog.issues_perform.2 ⟨⟨⟨.provider rfl, rfl⟩, rfl⟩, rfl⟩
    · exact Prog.issues_perform.2 ⟨⟨⟨.provider rfl, rfl⟩, rfl⟩, rfl⟩
  · split
    · exact hfailed ⟨⟨⟨.unknown a _, rfl⟩, rfl⟩, rfl⟩
    · exact hfailed ⟨⟨⟨.unsent a _, rfl⟩, rfl⟩, rfl⟩
    · exact hfailed ⟨⟨⟨.rejected a _, rfl⟩, rfl⟩, rfl⟩
    · trivial
    · exact issues_owned (issues_await ⟨⟨⟨.succeeded _ _ _, rfl⟩, rfl⟩, rfl⟩ fun a =>
        issues_checked Prog.issues_ofExcept)

lemma applyReconciled_issues {existing : Option GitHubComment} :
    (applyReconciled settings task publication action existing).Issues
      (ReconciledEffect settings task) := by
  unfold applyReconciled
  split
  · exact applyWrite_issues
  split
  · split
    · exact applyWrite_issues
    · exact issues_await ⟨⟨⟨.mismatch _, rfl⟩, rfl⟩, rfl⟩ fun a => Prog.issues_ofExcept
  · exact issues_owned (issues_await ⟨⟨⟨.reconciled _ _ _, rfl⟩, rfl⟩, rfl⟩ fun a =>
      issues_checked Prog.issues_ofExcept)

omit [Runtime] in
/-- What the reconciliation reads. -/
lemma reconcileComment_issues {P : Effect → Prop} {repository : String} {issueNumber : ℤ}
    {marker : String} (hget : ∀ identifier, P (.getComment repository identifier))
    (hdelay : P (.reconciliationDelaySeconds action.id))
    (hfind : P (.findCommentsByMarker repository issueNumber marker)) :
    (reconcileComment action repository issueNumber marker).Issues P := by
  unfold reconcileComment
  split
  · refine issues_await (hget _) fun comment => ?_
    split
    · trivial
    split
    · trivial
    · trivial
  refine Prog.Issues.bind ?_ fun holdoff => ?_
  · unfold reconciliationHoldoff
    split
    · exact Prog.issues_perform.2 hdelay
    · trivial
  split
  · trivial
  refine issues_await hfind fun search => ?_
  split
  · trivial
  split
  · trivial
  · trivial

lemma reconcileAndApply_issues :
    (reconcileAndApply settings task publication action).Issues (AppliedEffect settings task) := by
  refine Prog.Issues.bind ?_ fun a => issues_checked (issues_attempted
    (reconcileComment_issues (fun _ => ⟨⟨.provider rfl, rfl⟩, rfl⟩) ⟨⟨.delay _, rfl⟩, rfl⟩
      ⟨⟨.provider rfl, rfl⟩, rfl⟩) fun r => ?_)
  · unfold startReconciliation
    split
    · trivial
    · exact Prog.issues_perform.2 ⟨⟨.start _, rfl⟩, rfl⟩
  · split
    · exact issues_await ⟨⟨.retryable _ _, rfl⟩, rfl⟩ fun _ => trivial
    · exact issues_await ⟨⟨.review _ _, rfl⟩, rfl⟩ fun _ => Prog.issues_ofExcept
    · trivial
    · exact applyReconciled_issues.mono fun _ he => he.1

lemma prepareControlledRevision_issues {snapshotHash : Digest} :
    (prepareControlledRevision task publication action service snapshotHash).Issues
      (AppliedEffect settings task) := by
  unfold prepareControlledRevision
  split
  · split
    · exact Prog.issues_ofExcept
    refine issues_checked (issues_providerCall ⟨⟨.provider rfl, rfl⟩, rfl⟩ fun comment => ?_)
    dsimp only
    split
    · exact Prog.issues_ofExcept
    · exact issues_checked (issues_await ⟨⟨.revise _ _ _, rfl⟩, rfl⟩ fun a => trivial)
  · exact Prog.issues_ofExcept

lemma applyReservation_issues {snapshotHash : Digest} {reservation : ActionReservation} :
    (applyReservation settings task publication service snapshotHash reservation).Issues
      (AppliedEffect settings task) := by
  unfold applyReservation
  dsimp only
  split
  · exact Prog.issues_ofExcept
  split
  · refine Prog.Issues.bind prepareControlledRevision_issues fun prepared => ?_
    cases prepared with
    | inl a => exact reconcileAndApply_issues
    | inr result => trivial
  split
  · exact Prog.issues_ofExcept
  split
  · exact Prog.issues_ofExcept
  · exact reconcileAndApply_issues

lemma publish_issues {github : GitHubRepositoryContext} {jira : JiraWorkItem} :
    (publish handler task taskInput evaluation service github jira references).Issues
      (LaterEffect handler.settings task) := by
  unfold publish
  refine Prog.issues_ofExcept.bind fun scope => ?_
  generalize renderGithubComment scope _ service github jira = rendered
  refine Prog.issues_ofExcept.bind fun body => ?_
  refine issues_checked (Prog.Issues.bind ?_ fun reservation => ?_)
  · refine issues_attempted (Prog.issues_perform.2 ⟨.reserve _ _ _, rfl⟩) fun r => ?_
    split
    · trivial
    · exact issues_checked trivial
    · trivial
  · exact (applyReservation_issues.mono fun _ he => he.1).bind fun result => trivial

/-- The records of the evidence store. -/
def Recording (e : Effect) : Prop := ∃ request, e = .record request

omit [Runtime] in
lemma recordCatalog_issues {records : List ServiceCatalogRecord} :
    (recordCatalog task records).Issues Recording := by
  induction records with
  | nil => trivial
  | cons record records ih =>
    refine Prog.Issues.bind (p := datetimeNow) (fun _ => trivial) fun fetchedAt => ?_
    refine issues_await ?_ fun artifact => ?_
    · exact ⟨_, rfl⟩
    · exact ih.bind fun references => trivial

omit [Runtime] in
lemma recordGithub_issues {github : GitHubRepositoryContext} :
    (recordGithub task github).Issues Recording := by
  refine Prog.Issues.bind (p := datetimeNow) (fun _ => trivial) fun fetchedAt => ?_
  refine issues_await ?_ fun artifact => ?_
  · exact ⟨_, rfl⟩
  · trivial

omit [Runtime] in
lemma recordJira_issues {jira : JiraWorkItem} {classification : DataClassification} :
    (recordJira task jira classification).Issues Recording := by
  refine Prog.Issues.bind (p := datetimeNow) (fun _ => trivial) fun fetchedAt => ?_
  refine issues_await ?_ fun artifact => ?_
  · exact ⟨_, rfl⟩
  · trivial

lemma Recording.later {e : Effect} (he : Recording e) : LaterEffect settings task e := by
  obtain ⟨request, rfl⟩ := he
  exact ⟨.record request, rfl⟩

lemma readJira_issues {github : GitHubRepositoryContext} :
    (readJira handler task taskInput evaluation service github references).Issues
      (LaterEffect handler.settings task) := by
  refine issues_checked (issues_providerCall ⟨.provider rfl, rfl⟩ fun jira => issues_checked ?_)
  split
  · exact fun context => trivial
  · exact (recordJira_issues.mono fun _ => Recording.later).bind fun reference => publish_issues

lemma readGithub_issues :
    (readGithub handler task taskInput evaluation service references).Issues
      (LaterEffect handler.settings task) := by
  refine issues_checked (issues_providerCall ⟨.provider rfl, rfl⟩ fun verified => ?_)
  split
  · exact fun context => trivial
  refine issues_providerCall ⟨.provider rfl, rfl⟩ fun github => issues_checked ?_
  split
  · exact fun context => trivial
  split
  · exact fun context => trivial
  refine (recordGithub_issues.mono fun _ => Recording.later).bind fun reference => ?_
  dsimp only
  split
  · exact fun context => trivial
  split
  · exact fun context => trivial
  split
  · exact fun context => trivial
  · exact readJira_issues

lemma authoritative_issues :
    (authoritative handler task taskInput).Issues (SyncEffect handler.settings task) := by
  refine Prog.issues_ofExcept.bind fun _ => issues_checked ?_
  split
  · exact fun context => trivial
  refine issues_providerCall (.provider rfl) fun records => issues_checked ?_
  refine (recordCatalog_issues.mono fun _ he => he.later.1).bind fun references => ?_
  split
  · exact fun context => trivial
  split
  · trivial
  · exact readGithub_issues.mono fun _ he => he.1

lemma DeliveryEffect.later {e : Effect} (he : DeliveryEffect settings task e) :
    LaterEffect settings task e := by
  refine ⟨.delivery he, ?_⟩
  cases he <;> rfl

lemma finish_issues {exit : Exit} :
    (finish handler task taskInput exit).Issues (LaterEffect handler.settings task) := by
  unfold finish
  split
  · trivial
  split
  · trivial
  refine issues_checked ?_
  split
  · trivial
  · exact (deliver_issues.mono fun _ he => he.later).bind fun result => trivial

/-- A run awaits nothing else. -/
theorem execute_issues [LaxCoercion] {input : JsonValue} :
    (handler.execute task input).Issues (SyncEffect handler.settings task) := by
  unfold execute
  split
  · trivial
  · exact authoritative_issues.bind fun exit => finish_issues.mono fun _ he => he.1

end Workflow

end DeploymentLab
