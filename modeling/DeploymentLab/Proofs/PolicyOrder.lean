import DeploymentLab.Proofs.Footprint
import DeploymentLab.Proofs.SlackScript

/-!
# The order of the effects

What the policy asks of the awaits that come before a call of a provider (`Authorized`), and the
proof that one run of the workflow meets it at every call, whatever it is answered.
-/

namespace DeploymentLab

open Interaction HandlerContext DeploymentContextSyncHandler

abbrev SyncPast := Past handlerSignature DeploymentContextResult

/-- One run of the workflow. -/
structure SyncTask where
  handler : DeploymentContextSyncHandler
  task : TaskExecution
  input : JsonValue

def SyncTask.run [Runtime] [LaxCoercion] (t : SyncTask) : Handler DeploymentContextResult :=
  t.handler.execute t.task t.input

/-- A transition answers with the row it has written. -/
def LedgerAnswers (h : SyncPast) : Prop :=
  ∀ request a, .answered (.transition request) (.ok a) ∈ h →
    ExternalAction.status a = TransitionRequest.newStatus request

lemma LedgerAnswers.mono {h h' : SyncPast} (hanswers : LedgerAnswers h') (hsub : h ⊆ h') :
    LedgerAnswers h :=
  fun request a hmem => hanswers request a (hsub hmem)

section Authority

variable [Runtime] (handler : DeploymentContextSyncHandler) (task : TaskExecution)
  (taskInput : DeploymentContextSyncInput)

/-- The request is in the scope that was configured. -/
structure Requested : Prop where
  slack : validateSlackRequest handler taskInput = .ok ()
  scope : evaluateStaticScope taskInput handler.settings = none

/-- The catalog approves the service. -/
structure CatalogReady (h : SyncPast) : Prop extends Requested handler taskInput where
  catalog : ∃ records, .answered (.fetchRecords taskInput.serviceId) (.ok records) ∈ h ∧
    (evaluateServiceCatalog taskInput records handler.settings).outcome = .ready

/-- The identity on GitHub is the one that was configured. -/
structure IdentityVerified (h : SyncPast) : Prop extends CatalogReady handler taskInput h where
  identity : .answered .verifyGitHubIdentity (.ok true) ∈ h

/-- The target is the open issue that was asked for. -/
structure TargetAccepted (h : SyncPast) : Prop extends IdentityVerified handler taskInput h where
  target : ∃ github, .answered (.fetchContext taskInput.githubRepository
      taskInput.githubIssueNumber) (.ok github) ∈ h ∧
    Runtime.casefold github.fullName = Runtime.casefold taskInput.githubRepository ∧
    github.issueNumber = taskInput.githubIssueNumber ∧ github.isPullRequest = false ∧
    github.archived = false ∧ Runtime.casefold github.issueState = "open"

/-- Jira has returned the work item that was asked for. -/
structure SourcesAccepted (h : SyncPast) : Prop extends TargetAccepted handler taskInput h where
  jira : ∃ jira, .answered (.fetchIssue taskInput.jiraIssueKey) (.ok jira) ∈ h ∧
    Runtime.casefold jira.key = Runtime.casefold taskInput.jiraIssueKey

/-- The last await has moved the action of this run to `EXECUTING`, under its fence. -/
def WriteStarted (h : SyncPast) : Prop :=
  ∃ request a earlier, h = .answered (.transition request) (.ok a) ::
      .issued (.transition request) :: earlier ∧
    request.fence = task.executionFence ∧ request.newStatus = .executing ∧
    a.status = .executing ∧ ∃ reserved ∈ returnedActions earlier, reserved.id = request.actionId

/-- The decision of this run is to go ahead, and the action that the ledger returned last is
confirmed. -/
def Confirmed (h : SyncPast) : Prop :=
  ∃ h₀ exit a reference, h₀ <:+ h ∧
    (handler.authoritative task taskInput).Trace [] h₀ (.ok exit) ∧
    exit.result.decision.outcome = .ready ∧
    exit.result.authoritativeGithubAction = some reference ∧ actionReference a = .ok reference ∧
    (returnedActions h₀).head? = some a ∧ a.status = .succeeded ∧
    a.providerResourceIdentifier.isSome = true

/-- What has to have happened before an effect. -/
def Authorized (h : SyncPast) : Effect → Prop
  | .fetchRecords _ => Requested handler taskInput
  | .verifyGitHubIdentity => CatalogReady handler taskInput h
  | .fetchContext _ _ => IdentityVerified handler taskInput h
  | .fetchIssue _ => TargetAccepted handler taskInput h
  | .getComment _ _ | .findCommentsByMarker _ _ _ => SourcesAccepted handler taskInput h
  | .createComment _ _ _ | .updateComment _ _ _ =>
    SourcesAccepted handler taskInput h ∧ WriteStarted task h
  | .verifySlackIdentity | .postNotification _ =>
    SourcesAccepted handler taskInput h ∧ Confirmed handler task taskInput h
  | .record _ | .reserveOrGet _ | .transition _ | .revise _ | .reconciliationDelaySeconds _ => True

/-- Every effect is authorized, in so far as the ledger answers as it should. -/
def policyScript : Script handlerSignature DeploymentContextResult
  | h, .issued e => LedgerAnswers h → Authorized handler task taskInput h e
  | _, .answered _ _ | _, .ended _ => True

end Authority

section Mono

variable [Runtime] {handler : DeploymentContextSyncHandler} {task : TaskExecution}
  {taskInput : DeploymentContextSyncInput} {h h' : SyncPast}

lemma CatalogReady.mono (hready : CatalogReady handler taskInput h) (hsub : h ⊆ h') :
    CatalogReady handler taskInput h' := by
  obtain ⟨records, hmem, houtcome⟩ := hready.catalog
  exact ⟨hready.toRequested, records, hsub hmem, houtcome⟩

lemma IdentityVerified.mono (hverified : IdentityVerified handler taskInput h) (hsub : h ⊆ h') :
    IdentityVerified handler taskInput h' :=
  ⟨hverified.toCatalogReady.mono hsub, hsub hverified.identity⟩

lemma TargetAccepted.mono (haccepted : TargetAccepted handler taskInput h) (hsub : h ⊆ h') :
    TargetAccepted handler taskInput h' := by
  obtain ⟨github, hmem, hgithub⟩ := haccepted.target
  exact ⟨haccepted.toIdentityVerified.mono hsub, github, hsub hmem, hgithub⟩

lemma SourcesAccepted.mono (haccepted : SourcesAccepted handler taskInput h) (hsub : h ⊆ h') :
    SourcesAccepted handler taskInput h' := by
  obtain ⟨jira, hmem, hjira⟩ := haccepted.jira
  exact ⟨haccepted.toTargetAccepted.mono hsub, jira, hsub hmem, hjira⟩

lemma Confirmed.cons (hconfirmed : Confirmed handler task taskInput h)
    (act : Act handlerSignature DeploymentContextResult) :
    Confirmed handler task taskInput (act :: h) := by
  obtain ⟨h₀, exit, a, reference, hsuffix, hrest⟩ := hconfirmed
  exact ⟨h₀, exit, a, reference, hsuffix.trans (List.suffix_cons act h), hrest⟩

end Mono

section Checks

variable {script : Script handlerSignature DeploymentContextResult} {h : SyncPast} {β γ : Type}
  {Q : SyncPast → Except Exn β → Prop}

lemma emits_checkCancelled {p : Handler β} (hp : p.Emits script Q h)
    (herror : ∀ x, Q h (.error x)) :
    (raiseIfCancelled.bind fun _ => p).Emits script Q h := by
  rw [Prog.emits_bind]
  exact emits_raiseIfCancelled hp (herror _) (herror _)

lemma emits_checkOwnership {p : Handler β} (hp : p.Emits script Q h)
    (herror : ∀ x, Q h (.error x)) :
    (raiseIfOwnershipLost.bind fun _ => p).Emits script Q h := by
  rw [Prog.emits_bind]
  exact emits_raiseIfOwnershipLost hp (herror _)

lemma emits_await {e : Effect} {f : e.Answer → Handler β} (hissue : script h (.issued e))
    (hok : ∀ a, (f a).Emits script Q (.answered e (.ok a) :: .issued e :: h))
    (herror : ∀ x, Q (.answered e (.error x) :: .issued e :: h) (.error x)) :
    ((perform e).bind f).Emits script Q h := by
  rw [Prog.emits_bind]
  refine Prog.emits_perform.2 ⟨hissue, fun r => ?_⟩
  cases r with
  | ok a => exact hok a
  | error x => exact herror x

lemma emits_providerCall {e : Effect} {f : e.Answer → Handler β} (hissue : script h (.issued e))
    (hok : ∀ a, (f a).Emits script Q (.answered e (.ok a) :: .issued e :: h))
    (herror : ∀ x y, Q (.answered e (.error x) :: .issued e :: h) (.error y)) :
    ((providerCall e).bind f).Emits script Q h := by
  rw [providerCall, Prog.bind_eq, Prog.emits_bind, Prog.emits_bind, Prog.emits_attempt]
  refine Prog.emits_perform.2 ⟨hissue, fun r => ?_⟩
  cases r with
  | ok a => exact hok a
  | error x =>
    dsimp only
    split
    · rename_i heq
      cases heq
    · exact herror x _
    · exact herror x _
    · exact herror x _

lemma emits_checked {r : Except Exn γ} {f : γ → Handler β}
    (hok : ∀ a, r = .ok a → (f a).Emits script Q h) (herror : ∀ x, Q h (.error x)) :
    ((Prog.ofExcept r).bind f).Emits script Q h := by
  cases r with
  | ok a => exact hok a rfl
  | error x => exact herror x

end Checks

/-- A result that says to go ahead names the action that the ledger returned last, which is
confirmed. -/
def Published (h : SyncPast) (r : Except Exn DeploymentContextResult) : Prop :=
  ∀ result, r = .ok result → result.decision.outcome = .ready →
    ∃ a reference, actionReference a = .ok reference ∧
      result.authoritativeGithubAction = some reference ∧
      (returnedActions h).head? = some a ∧ (LedgerAnswers h → a.status = .succeeded)

lemma published_error {h : SyncPast} {x : Exn} : Published h (.error x) := by
  intro result hr
  cases hr

lemma successResult_ok {decision : DeploymentContextDecision} {references : List SourceReference}
    {a : ExternalAction} {result : DeploymentContextResult}
    (h : successResult decision references a = .ok result) :
    ∃ reference, actionReference a = .ok reference ∧
      result = { decision, sourceArtifacts := references
                 authoritativeGithubAction := some reference } := by
  unfold successResult at h
  cases hreference : actionReference a with
  | error x =>
    rw [hreference] at h
    cases h
  | ok reference =>
    rw [hreference] at h
    cases h
    exact ⟨reference, rfl, rfl⟩

section Publishing

variable [Runtime] {handler : DeploymentContextSyncHandler} {task : TaskExecution}
  {taskInput : DeploymentContextSyncInput} {publication : Publication} {h : SyncPast}
  {action : ExternalAction}

lemma published_review {decision : DeploymentContextDecision} {references : List SourceReference}
    {code : DecisionReasonCode} {reason : String} :
    (Prog.ofExcept (actionReviewResult decision references action code reason)).Emits
      (policyScript handler task taskInput) Published h := by
  rw [Prog.emits_ofExcept]
  intro result hresult hready
  obtain ⟨reference, -, rfl⟩ := successResult_ok hresult
  cases hready

lemma published_success {decision : DeploymentContextDecision} {references : List SourceReference}
    (hhead : (returnedActions h).head? = some action)
    (hstatus : LedgerAnswers h → action.status = .succeeded) :
    (Prog.ofExcept (successResult decision references action)).Emits
      (policyScript handler task taskInput) Published h := by
  rw [Prog.emits_ofExcept]
  intro result hresult _
  obtain ⟨reference, hreference, rfl⟩ := successResult_ok hresult
  exact ⟨action, reference, hreference, rfl, hhead, hstatus⟩

/-- After a transition to `SUCCEEDED`, only a checkpoint and the result are left. -/
lemma emits_succeeded {request : TransitionRequest} (hstatus : request.newStatus = .succeeded) :
    ((perform (.transition request)).bind fun action => raiseIfCancelled.bind fun _ =>
      Prog.ofExcept (successResult publication.decision publication.references action)).Emits
        (policyScript handler task taskInput) Published h := by
  refine emits_await (fun _ => trivial) (fun a => ?_) fun x => published_error
  refine emits_checkCancelled (published_success rfl fun hanswers => ?_) fun x => published_error
  rw [← hstatus]
  exact hanswers request a List.mem_cons_self

lemma emits_recordedError {request : TransitionRequest} {x : Exn} :
    ((perform (.transition request)).bind fun _ =>
      (.raise x : Handler DeploymentContextResult)).Emits
        (policyScript handler task taskInput) Published h :=
  emits_await (fun _ => trivial) (fun _ => published_error) fun _ => published_error

lemma emits_recordedReview {request : TransitionRequest} {code : DecisionReasonCode}
    {reason : String} :
    ((perform (.transition request)).bind fun action =>
      Prog.ofExcept (actionReviewResult publication.decision publication.references action code
        reason)).Emits (policyScript handler task taskInput) Published h :=
  emits_await (fun _ => trivial) (fun _ => published_review) fun _ => published_error

omit [Runtime] in
lemma writeStarted_of_answer {h : SyncPast} {a : ExternalAction} {settings : Settings}
    (hreserved : action ∈ returnedActions h)
    (hanswers : LedgerAnswers
      (.answered (.transition (writeStarted settings task action)) (.ok a) ::
      .issued (.transition (writeStarted settings task action)) :: h)) :
    WriteStarted task (.answered (.transition (writeStarted settings task action)) (.ok a) ::
      .issued (.transition (writeStarted settings task action)) :: h) :=
  ⟨writeStarted settings task action, a, h, rfl, rfl, rfl, hanswers _ a List.mem_cons_self, action,
    hreserved, rfl⟩

/-- The write and what its outcome leads to. -/
lemma applyWrite_emits (hsources : SourcesAccepted handler taskInput h) :
    (applyWrite handler.settings task publication action).Emits
      (policyScript handler task taskInput) Published h := by
  refine emits_await (fun _ => trivial) (fun a₁ => ?_) fun x => published_error
  refine emits_checkCancelled ?_ fun x => published_error
  refine emits_await (fun _ => trivial) (fun a => ?_) fun x => published_error
  refine emits_checkCancelled ?_ fun x => published_error
  rw [Prog.bind_eq, Prog.emits_bind, Prog.emits_attempt]
  have hsources' : SourcesAccepted handler taskInput
      (.answered (.transition (writeStarted handler.settings task a₁)) (.ok a) ::
        .issued (.transition (writeStarted handler.settings task a₁)) ::
        .answered (.transition (reconciliationCompletedNoMatch task action)) (.ok a₁) ::
        .issued (.transition (reconciliationCompletedNoMatch task action)) :: h) :=
    hsources.mono fun _ hmem => List.mem_cons_of_mem _ (List.mem_cons_of_mem _
      (List.mem_cons_of_mem _ (List.mem_cons_of_mem _ hmem)))
  have hreserved : a₁ ∈ returnedActions
      (.answered (.transition (reconciliationCompletedNoMatch task action)) (.ok a₁) ::
        .issued (.transition (reconciliationCompletedNoMatch task action)) :: h) :=
    List.mem_cons_self
  unfold writeComment
  split
  · refine Prog.emits_perform.2
      ⟨fun hanswers => ⟨hsources', writeStarted_of_answer hreserved hanswers⟩, fun r => ?_⟩
    dsimp only
    split
    · exact emits_recordedError
    · exact emits_recordedError
    · exact emits_recordedError
    · exact published_error
    · exact emits_checkOwnership (emits_succeeded rfl) fun x => published_error
  · refine Prog.emits_perform.2
      ⟨fun hanswers => ⟨hsources', writeStarted_of_answer hreserved hanswers⟩, fun r => ?_⟩
    dsimp only
    split
    · exact emits_recordedError
    · exact emits_recordedError
    · exact emits_recordedError
    · exact published_error
    · exact emits_checkOwnership (emits_succeeded rfl) fun x => published_error

lemma applyReconciled_emits (hsources : SourcesAccepted handler taskInput h)
    (existing : Option GitHubComment) :
    (applyReconciled handler.settings task publication action existing).Emits
      (policyScript handler task taskInput) Published h := by
  unfold applyReconciled
  split
  · exact applyWrite_emits hsources
  split
  · split
    · exact applyWrite_emits hsources
    · exact emits_recordedReview
  · exact emits_checkOwnership (emits_succeeded rfl) fun x => published_error

lemma reconcileComment_emits (hsources : SourcesAccepted handler taskInput h)
    {repository : String} {issueNumber : ℤ} {marker : String} :
    (reconcileComment action repository issueNumber marker).Emits
      (policyScript handler task taskInput)
      (fun h _ => SourcesAccepted handler taskInput h) h := by
  have hissues : (reconcileComment action repository issueNumber marker).Issues fun e =>
      ∀ h, SourcesAccepted handler taskInput h →
        policyScript handler task taskInput h (.issued e) :=
    reconcileComment_issues (fun _ _ hI _ => hI) (fun _ _ _ => trivial) fun _ hI _ => hI
  exact hissues.emits (fun act h hI => hI.mono (List.subset_cons_self act h))
    (fun h e hI he => he h hI) hsources

lemma startReconciliation_emits {β : Type} {f : ExternalAction → Handler β}
    {Q : SyncPast → Except Exn β → Prop} (hsources : SourcesAccepted handler taskInput h)
    (hok : ∀ {h : SyncPast} a, SourcesAccepted handler taskInput h →
      (f a).Emits (policyScript handler task taskInput) Q h)
    (herror : ∀ h x, Q h (.error x)) :
    ((startReconciliation task action).bind f).Emits (policyScript handler task taskInput) Q h := by
  unfold startReconciliation
  split
  · exact hok action hsources
  · refine emits_await (fun _ => trivial) (fun a => hok a ?_) fun x => herror _ x
    exact hsources.mono fun _ hmem => List.mem_cons_of_mem _ (List.mem_cons_of_mem _ hmem)

lemma reconcileAndApply_emits (hsources : SourcesAccepted handler taskInput h) :
    (reconcileAndApply handler.settings task publication action).Emits
      (policyScript handler task taskInput) Published h := by
  refine startReconciliation_emits hsources (fun a hsources => ?_) fun h x => published_error
  refine emits_checkCancelled ?_ fun x => published_error
  rw [Prog.bind_eq, Prog.emits_bind, Prog.emits_attempt]
  refine Prog.emits_mono (reconcileComment_emits hsources) fun h r hI => ?_
  dsimp only
  split
  · exact emits_recordedError
  · exact emits_recordedReview
  · exact published_error
  · exact applyReconciled_emits hI _

/-- A changed request leads to an action to reconcile, or to a review. -/
lemma prepareControlledRevision_emits {service : ServiceCatalogRecord} {snapshotHash : Digest}
    (hsources : SourcesAccepted handler taskInput h) :
    (prepareControlledRevision task publication action service snapshotHash).Emits
      (policyScript handler task taskInput)
      (fun _ r => ∀ result, r = .ok (.inr result) → result.decision.outcome ≠ .ready) h := by
  have hreview : ∀ {h : SyncPast} {code : DecisionReasonCode} {reason : String},
      (Prog.ofExcept ((actionReviewResult publication.decision publication.references action
        code reason).map (Sum.inr (α := ExternalAction)))).Emits
        (policyScript handler task taskInput)
        (fun _ r => ∀ result, r = .ok (.inr result) → result.decision.outcome ≠ .ready) h := by
    intro h code reason
    rw [Prog.emits_ofExcept]
    intro result hresult
    cases hreview : actionReviewResult publication.decision publication.references action code
      reason with
    | error x =>
      rw [hreview] at hresult
      cases hresult
    | ok reviewed =>
      rw [hreview] at hresult
      cases hresult
      obtain ⟨reference, -, rfl⟩ := successResult_ok hreview
      simp
  unfold prepareControlledRevision
  split
  · split
    · exact hreview
    refine emits_checkCancelled ?_ fun x _ heq => by cases heq
    refine emits_providerCall (fun _ => hsources) (fun comment => ?_) fun x y _ heq => by cases heq
    dsimp only
    split
    · exact hreview
    refine emits_checkCancelled ?_ fun x _ heq => by cases heq
    refine emits_await (fun _ => trivial) (fun a => ?_) fun x _ heq => by cases heq
    intro result heq
    cases heq
  · exact hreview

lemma applyReservation_emits {service : ServiceCatalogRecord} {snapshotHash : Digest}
    {reservation : ActionReservation} (hsources : SourcesAccepted handler taskInput h)
    (hhead : (returnedActions h).head? = some reservation.action) :
    (applyReservation handler.settings task publication service snapshotHash reservation).Emits
      (policyScript handler task taskInput) Published h := by
  unfold applyReservation
  dsimp only
  split
  · exact published_review
  split
  · rw [Prog.bind_eq, Prog.emits_bind]
    refine Prog.emits_mono (Prog.emits_suffix (prepareControlledRevision_emits hsources))
      fun h r ⟨hr, hsuffix⟩ => ?_
    cases r with
    | error x => exact published_error
    | ok prepared =>
      cases prepared with
      | inl a => exact reconcileAndApply_emits (hsources.mono hsuffix.subset)
      | inr result =>
        intro result' heq hready
        cases heq
        exact absurd hready (hr result rfl)
  split
  · rename_i hreplay
    exact published_success hhead fun _ => hreplay.2
  split
  · exact published_review
  · exact reconcileAndApply_emits hsources

/-- An exit that calls for a delivery comes from an action that is confirmed. -/
def ExitAccepted (handler : DeploymentContextSyncHandler)
    (taskInput : DeploymentContextSyncInput) (h : SyncPast) (r : Except Exn Exit) : Prop :=
  ∀ exit, r = .ok exit → (slackRequest taskInput exit).isSome = true →
    SourcesAccepted handler taskInput h ∧ Published h (.ok exit.result)

lemma exitAccepted_error {x : Exn} : ExitAccepted handler taskInput h (.error x) := by
  intro exit heq
  cases heq

omit [Runtime] in
lemma slackRequest_of_noTarget {result : DeploymentContextResult} :
    slackRequest taskInput { result := result } = none := by
  unfold slackRequest
  split
  · simp_all
  · rfl

omit [Runtime] in
lemma actionReference_identifier {a : ExternalAction} {reference : ExternalActionReference}
    (hreference : actionReference a = .ok reference) :
    reference.providerResourceIdentifier = a.providerResourceIdentifier := by
  unfold actionReference at hreference
  split at hreference
  · cases hreference
  · cases hreference
    rfl

omit [Runtime] in
/-- A delivery is called for by a decision to go ahead and a bound action. -/
lemma slackRequest_some {exit : Exit} {request : SlackDeliveryRequest}
    (hrequest : slackRequest taskInput exit = some request) :
    exit.result.decision.outcome = .ready ∧ ∀ reference,
      exit.result.authoritativeGithubAction = some reference →
        reference.providerResourceIdentifier.isSome = true := by
  unfold slackRequest at hrequest
  split at hrequest
  · rename_i githubAction github service channelId haction _ _ _
    split at hrequest
    · cases hrequest
    · rename_i hallowed
      push Not at hallowed
      refine ⟨hallowed.1, fun reference hreference => ?_⟩
      rw [haction] at hreference
      cases hreference
      exact Option.isSome_iff_ne_none.2 hallowed.2
  · cases hrequest

lemma exitAccepted_noTarget {result : DeploymentContextResult} :
    ExitAccepted handler taskInput h (.ok { result := result }) := by
  intro exit heq hrequest
  cases heq
  rw [slackRequest_of_noTarget] at hrequest
  cases hrequest

lemma reviewExit_emits {evaluation : PolicyEvaluation} {references : List SourceReference}
    {code : DecisionReasonCode} {reason : String} {outcome : DecisionOutcome} :
    (reviewExit evaluation references code reason outcome).Emits
      (policyScript handler task taskInput) (ExitAccepted handler taskInput) h :=
  fun _ => exitAccepted_noTarget

lemma reserve_emits {request : ReservationRequest} :
    (reserve request).Emits (policyScript handler task taskInput)
      (fun h r => ∀ reservation, r = .ok reservation →
        (returnedActions h).head? = some reservation.action) h := by
  unfold reserve
  rw [Prog.bind_eq, Prog.emits_bind, Prog.emits_attempt]
  refine Prog.emits_perform.2 ⟨fun _ => trivial, fun r => ?_⟩
  dsimp only
  split
  · intro reservation heq
    cases heq
    rfl
  · refine emits_checkCancelled ?_ fun x _ heq => by cases heq
    intro _ heq
    cases heq
  · intro _ heq
    cases heq

variable {evaluation : PolicyEvaluation} {service : ServiceCatalogRecord}
  {references : List SourceReference}

/-- Evidence is recorded without an end to what has been accepted. -/
lemma emits_recording {β γ : Type} {p : Handler γ} {f : γ → Handler β} {I : SyncPast → Prop}
    {Q : SyncPast → Except Exn β → Prop} (hp : p.Issues Recording)
    (hmono : ∀ {h h' : SyncPast}, I h → h ⊆ h' → I h') (hI : I h)
    (hok : ∀ {h : SyncPast} a, I h → (f a).Emits (policyScript handler task taskInput) Q h)
    (herror : ∀ h x, Q h (.error x)) :
    (p.bind f).Emits (policyScript handler task taskInput) Q h := by
  rw [Prog.emits_bind]
  refine Prog.emits_mono (hp.emits (I := I) (fun act h hI => hmono hI (List.subset_cons_self act h))
    ?_ hI) fun h r hI => ?_
  · rintro h e - ⟨request, rfl⟩ -
    trivial
  · cases r with
    | ok a => exact hok a hI
    | error x => exact herror h x

lemma publish_emits {github : GitHubRepositoryContext} {jira : JiraWorkItem}
    (hsources : SourcesAccepted handler taskInput h) :
    (publish handler task taskInput evaluation service github jira references).Emits
      (policyScript handler task taskInput) (ExitAccepted handler taskInput) h := by
  unfold publish
  dsimp only [Prog.bind_eq]
  refine emits_checked (fun scope _ => ?_) fun x => exitAccepted_error
  generalize renderGithubComment scope _ service github jira = rendered
  refine emits_checked (fun body _ => ?_) fun x => exitAccepted_error
  refine emits_checkCancelled ?_ fun x => exitAccepted_error
  rw [Prog.emits_bind]
  refine Prog.emits_mono (Prog.emits_suffix reserve_emits) fun h₁ r ⟨hreserved, hsuffix⟩ => ?_
  cases r with
  | error x => exact exitAccepted_error
  | ok reservation =>
    have hsources₁ := hsources.mono hsuffix.subset
    dsimp only
    rw [Prog.emits_bind]
    refine Prog.emits_mono (Prog.emits_suffix (applyReservation_emits hsources₁
      (hreserved reservation rfl))) fun h₂ r ⟨hpublished, hsuffix⟩ => ?_
    cases r with
    | error x => exact exitAccepted_error
    | ok result =>
      intro exit heq _
      cases heq
      exact ⟨hsources₁.mono hsuffix.subset, hpublished⟩

lemma readJira_emits {github : GitHubRepositoryContext}
    (htarget : TargetAccepted handler taskInput h) :
    (readJira handler task taskInput evaluation service github references).Emits
      (policyScript handler task taskInput) (ExitAccepted handler taskInput) h := by
  refine emits_checkCancelled ?_ fun x => exitAccepted_error
  refine emits_providerCall (fun _ => htarget) (fun jira => ?_) fun x y => exitAccepted_error
  refine emits_checkCancelled ?_ fun x => exitAccepted_error
  split
  · exact reviewExit_emits
  rename_i hkey
  have hsources : SourcesAccepted handler taskInput (.answered (.fetchIssue taskInput.jiraIssueKey)
      (.ok jira) :: .issued (.fetchIssue taskInput.jiraIssueKey) :: h) :=
    ⟨htarget.mono fun _ hmem => List.mem_cons_of_mem _ (List.mem_cons_of_mem _ hmem), jira,
      List.mem_cons_self, not_not.1 hkey⟩
  exact emits_recording recordJira_issues SourcesAccepted.mono hsources
    (fun reference hsources => publish_emits hsources) fun h x => exitAccepted_error

lemma readGithub_emits (hready : CatalogReady handler taskInput h) :
    (readGithub handler task taskInput evaluation service references).Emits
      (policyScript handler task taskInput) (ExitAccepted handler taskInput) h := by
  refine emits_checkCancelled ?_ fun x => exitAccepted_error
  refine emits_providerCall (fun _ => hready) (fun verified => ?_) fun x y => exitAccepted_error
  dsimp only
  split
  · exact reviewExit_emits
  rename_i hverified
  have hidentity : IdentityVerified handler taskInput (.answered .verifyGitHubIdentity
      (.ok verified) :: .issued .verifyGitHubIdentity :: h) := by
    refine ⟨hready.mono fun _ hmem => List.mem_cons_of_mem _ (List.mem_cons_of_mem _ hmem), ?_⟩
    rw [Bool.not_eq_false] at hverified
    rw [hverified]
    exact List.mem_cons_self
  refine emits_providerCall (fun _ => hidentity) (fun github => ?_) fun x y => exitAccepted_error
  refine emits_checkCancelled ?_ fun x => exitAccepted_error
  split
  · exact reviewExit_emits
  rename_i hname
  split
  · exact reviewExit_emits
  rename_i hnumber
  have htarget : IdentityVerified handler taskInput (.answered (.fetchContext
      taskInput.githubRepository taskInput.githubIssueNumber) (.ok github) ::
      .issued (.fetchContext taskInput.githubRepository taskInput.githubIssueNumber) ::
      .answered .verifyGitHubIdentity (.ok verified) :: .issued .verifyGitHubIdentity :: h) :=
    hidentity.mono fun _ hmem => List.mem_cons_of_mem _ (List.mem_cons_of_mem _ hmem)
  refine emits_recording (I := fun h => IdentityVerified handler taskInput h ∧
      .answered (.fetchContext taskInput.githubRepository taskInput.githubIssueNumber)
        (.ok github) ∈ h) recordGithub_issues
    (fun hI hsub => ⟨hI.1.mono hsub, hsub hI.2⟩) ⟨htarget, List.mem_cons_self⟩
    (fun reference hI => ?_) fun h x => exitAccepted_error
  split
  · exact reviewExit_emits
  rename_i hpull
  split
  · exact reviewExit_emits
  rename_i harchived
  split
  · exact reviewExit_emits
  rename_i hstate
  exact readJira_emits ⟨hI.1, github, hI.2, not_not.1 hname, not_not.1 hnumber,
    by simpa using hpull, by simpa using harchived, not_not.1 hstate⟩

lemma readCatalog_emits (hrequested : Requested handler taskInput) :
    (readCatalog handler task taskInput).Emits (policyScript handler task taskInput)
      (ExitAccepted handler taskInput) h := by
  refine emits_providerCall (fun _ => hrequested) (fun records => ?_) fun x y => exitAccepted_error
  refine emits_checkCancelled ?_ fun x => exitAccepted_error
  refine emits_recording (I := fun h => .answered (.fetchRecords taskInput.serviceId)
      (.ok records) ∈ h) recordCatalog_issues (fun hI hsub => hsub hI) List.mem_cons_self
    (fun references hI => ?_) fun h x => exitAccepted_error
  split
  · exact fun context => exitAccepted_noTarget
  rename_i hready
  split
  · exact exitAccepted_error
  · exact readGithub_emits ⟨hrequested, records, hI, not_not.1 hready⟩

/-- Up to its exit, a run meets the policy at every call. -/
lemma authoritative_emits :
    (authoritative handler task taskInput).Emits (policyScript handler task taskInput)
      (ExitAccepted handler taskInput) h := by
  refine emits_checked (fun _ hslack => ?_) fun x => exitAccepted_error
  refine emits_checkCancelled ?_ fun x => exitAccepted_error
  split
  · exact fun context => exitAccepted_noTarget
  · rename_i hscope
    exact readCatalog_emits ⟨hslack, hscope⟩

lemma finish_emits {exit : Exit}
    (htrace : (authoritative handler task taskInput).Trace [] h (.ok exit))
    (haccepted : ExitAccepted handler taskInput h (.ok exit)) :
    (finish handler task taskInput exit).Emits (policyScript handler task taskInput)
      (fun _ _ => True) h := by
  unfold finish
  split
  · trivial
  split
  · trivial
  rename_i request hrequest
  refine emits_checkCancelled ?_ fun x => trivial
  split
  · trivial
  obtain ⟨hsources, hpublished⟩ := haccepted exit rfl (by rw [hrequest]; rfl)
  obtain ⟨hready, hidentifier⟩ := slackRequest_some hrequest
  have hconfirmed : LedgerAnswers h → Confirmed handler task taskInput h := by
    intro hanswers
    obtain ⟨a, reference, hreference, haction, hhead, hstatus⟩ := hpublished _ rfl hready
    refine ⟨h, exit, a, reference, List.suffix_refl h, htrace, hready, haction, hreference, hhead,
      hstatus hanswers, ?_⟩
    rw [← actionReference_identifier hreference]
    exact hidentifier reference haction
  rw [Prog.bind_eq, Prog.emits_bind]
  refine Prog.emits_mono (deliver_issues.emits
    (I := fun h => SourcesAccepted handler taskInput h ∧
      (LedgerAnswers h → Confirmed handler task taskInput h)) (fun act h hI => ?_)
    (fun h e hI he => ?_) ⟨hsources, hconfirmed⟩) fun h r _ => ?_
  · refine ⟨hI.1.mono (List.subset_cons_self act h), fun hanswers => ?_⟩
    exact (hI.2 (hanswers.mono (List.subset_cons_self act h))).cons act
  · cases he with
    | verify => exact fun hanswers => ⟨hI.1, hI.2 hanswers⟩
    | post request => exact fun hanswers => ⟨hI.1, hI.2 hanswers⟩
    | reserve | demote | identityRetryable | identityPermanent | mismatch | write | unsent
    | rejected | unknown | succeeded | delay => exact fun _ => trivial
  · cases r with
    | error x => trivial
    | ok result => trivial

lemma execute_keeps [LaxCoercion] {input : JsonValue}
    (hinput : DeploymentContextSyncInput.modelValidate input = some taskInput) :
    (handler.execute task input).Keeps (policyScript handler task taskInput) [] := by
  unfold execute Prog.Keeps
  rw [hinput]
  dsimp only
  rw [Prog.bind_eq, Prog.emits_bind]
  refine Prog.emits_mono (Prog.emits_trace authoritative_emits) fun h r ⟨haccepted, htrace⟩ => ?_
  cases r with
  | error x => trivial
  | ok exit => exact Prog.emits_mono (finish_emits htrace haccepted) fun _ _ _ => trivial

end Publishing

section Run

variable [Runtime] {S M J : Type} {setup : Setup J DeploymentContextResult}
  {providers : Provider S M} {db : Database} {now : Timestamp} {s : S}
  {moves : List (Move J (Choice M))}
  {c : Config handlerSignature DeploymentContextResult (World S DeploymentContextResult)}

/-- The ledger answers a transition with the status that was asked for. -/
lemma exec_transition {i : ℕ} {request : TransitionRequest} {choice : Choice M}
    {w w' : World S DeploymentContextResult} {a : ExternalAction}
    (hexec : (machine setup providers).exec i (.transition request) choice w =
      some (.ok a, w')) : a.status = request.newStatus := by
  simp only [machine] at hexec
  split at hexec
  · split at hexec
    · obtain ⟨⟨r, db⟩, hrun, heq⟩ := Option.map_eq_some_iff.1 hexec
      cases heq
      simp only [Database.execute, Option.some.injEq] at hrun
      cases htransition : ExternalActionRepository.transition w.database w.now _ request with
      | error x =>
        rw [htransition] at hrun
        cases hrun
      | ok result =>
        obtain ⟨a', db'⟩ := result
        rw [htransition] at hrun
        cases hrun
        obtain ⟨-, b, -, -, rfl, -⟩ := ExternalActionRepository.transition_ok htransition
        rfl
    · cases hexec
  · cases hexec
  · cases hexec

/-- What holds of every executed await holds of every answer that a handler has got. -/
lemma answers_run {Q : (e : Effect) → Outcome e → Prop}
    (hexec : ∀ i e choice w r w', (machine setup providers).exec i e choice w = some (r, w') →
      Q e r)
    (hrun : (machine setup providers).run (Config.init (World.initial db now s)) moves = some c)
    (i : ℕ) (e : Effect) (r : Outcome e) (hmem : .answered e r ∈ past i c.world.log) : Q e r := by
  have hmaintains : (machine setup providers).Maintains (fun _ => True) fun w =>
      ∀ i t e r, .executed i t e r ∈ w.log → Q e r := by
    refine ⟨fun i o w hw => ?_, fun i r w hw j t e r hmem => ?_,
      fun i e choice w r w' hw _ hexecuted j t e' r' hmem => ?_, fun choice w w' hw henv => ?_,
      fun n j w w' hw hspawn k t e r hmem => ?_⟩
    · cases o with
      | issued e =>
        intro j t e' r hmem
        rcases List.mem_cons.1 hmem with heq | hmem
        · cases heq
        · exact hw j t e' r hmem
      | returned e r => exact hw
    · rcases List.mem_cons.1 hmem with heq | hmem
      · cases heq
      · exact hw j t e r hmem
    · rw [log_of_exec hexecuted] at hmem
      rcases List.mem_cons.1 hmem with heq | hmem
      · cases heq
        exact hexec i _ choice w _ w' hexecuted
      · exact hw j t e' r' hmem
    · rw [log_of_env henv]
      exact hw
    · cases hspawn
      rcases List.mem_cons.1 hmem with heq | hmem
      · cases heq
      · exact hw k t e r hmem
  have hlog := hmaintains.run (fun j => Prog.issues_true) (by simp [World.initial]) hrun
  obtain ⟨t, hexecuted⟩ := answered_mem_past.1 hmem
  exact hlog i t e r hexecuted

lemma ledgerAnswers_run (hrun : (machine setup providers).run
    (Config.init (World.initial db now s)) moves = some c) (i : ℕ) :
    LedgerAnswers (past i c.world.log) := by
  intro request a hmem
  have hanswer := answers_run (Q := fun e r => ∀ request a, (⟨e, r⟩ : (e : Effect) × Outcome e) =
      ⟨.transition request, .ok a⟩ → ExternalAction.status a = TransitionRequest.newStatus request)
    (fun i e choice w r w' hexec request a heq => by
      cases heq
      exact exec_transition hexec) hrun i (.transition request) (.ok a) hmem
  exact hanswer request a rfl

lemma machine_records : (machine setup providers).Records (fun i w => past i w.log)
    (fun i w => setup.Turn i w.log) := by
  have hguard : scopeMachine setup providers "" (fun _ _ _ => true) = machine setup providers :=
    scopeMachine_true
  rw [← hguard]
  exact scopeMachine_records

/-- After every run, the past of a handler is one that its job may come to have. -/
lemma past_unfolds (hrun : (machine setup providers).run
    (Config.init (World.initial db now s)) moves = some c) (i : ℕ) :
    past i c.world.log = [] ∨ ∃ j, (Machine.jobs moves)[i]? = some j ∧
      (setup.job j).Unfolds [] (past i c.world.log) :=
  Machine.unfolds_run machine_records (fun _ _ _ => past_ended) (fun _ => rfl) hrun i

/-- Any number of runs of the workflow, under a clock that moves as `tick` says. -/
def syncTasks [LaxCoercion] (tasks : J → SyncTask) (tick : Timestamp → Timestamp → Bool)
    (maximumBytes : ℕ) : Setup J DeploymentContextResult where
  job j := (tasks j).run
  tick := tick
  maximumBytes := maximumBytes

/-- Runs of the workflow, one at a time. -/
def soloTasks [LaxCoercion] (tasks : J → SyncTask) (tick : Timestamp → Timestamp → Bool)
    (maximumBytes : ℕ) : Setup J DeploymentContextResult :=
  { syncTasks tasks tick maximumBytes with exclusive := true }

/-- Every call of a provider in a run of the workflow comes after what the policy asks for. -/
theorem policy_first [LaxCoercion] {tasks : J → SyncTask} {tick : Timestamp → Timestamp → Bool}
    {maximumBytes : ℕ}
    (hrun : (machine (syncTasks tasks tick maximumBytes) providers).run
      (Config.init (World.initial db now s)) moves = some c) (i : ℕ) :
    past i c.world.log = [] ∨ ∃ j, (Machine.jobs moves)[i]? = some j ∧ ∀ later e earlier,
      past i c.world.log = later ++ .issued e :: earlier →
        ∃ taskInput, DeploymentContextSyncInput.modelValidate (tasks j).input = some taskInput ∧
          Authorized (tasks j).handler (tasks j).task taskInput earlier e := by
  rcases past_unfolds hrun i with hempty | ⟨j, hjob, hunfolds⟩
  · exact .inl hempty
  refine .inr ⟨j, hjob, fun later e earlier heq => ?_⟩
  cases hinput : DeploymentContextSyncInput.modelValidate (tasks j).input with
  | none =>
    have hraise : (syncTasks tasks tick maximumBytes).job j =
        .raise (.permanentTaskError "deployment_context_input_invalid") := by
      change (tasks j).handler.execute (tasks j).task (tasks j).input = _
      rw [execute, hinput]
    rw [hraise, heq] at hunfolds
    rcases hunfolds with hnil | hended
    · simp at hnil
    · have hmem : (.issued e : Act handlerSignature DeploymentContextResult) ∈
          later ++ .issued e :: earlier := by simp
      rw [hended] at hmem
      simp at hmem
  | some taskInput =>
    refine ⟨taskInput, rfl, ?_⟩
    have hconforms := Prog.Emits.conforms (execute_keeps hinput) Prog.conforms_nil hunfolds
    refine hconforms later e earlier heq ((ledgerAnswers_run hrun i).mono ?_)
    rw [heq]
    exact fun _ hmem => List.mem_append_right _ (List.mem_cons_of_mem _ hmem)

end Run

/-! ## A run to try the results on -/

namespace Sample

@[reducible] def syncHost : Runtime :=
  host [
    ("\x7b\"allow_automatic_updates\":false,\"approved_repositories\":[\"acme/payments\"]," ++
      "\"automatic_publication_allowed\":true,\"canonical_service_id\":\"payments\"," ++
      "\"criticality\":\"high\"," ++
      "\"data_classification\":\"internal\",\"deployment_policy_version\":3," ++
      "\"required_reviewer\":null,\"service_owner\":\"team\",\"source_version\":\"v1\"\x7d",
      0x1043958800e727d066d934f2615fac7ddb2ffbca313e662d55b62a86214ee602),
    ("\x7b\"archived\":false,\"default_branch\":\"main\"," ++
      "\"default_branch_head_sha\":\"abcdef1\"," ++
      "\"full_name\":\"acme/payments\",\"is_pull_request\":false,\"issue_number\":7," ++
      "\"issue_state\":\"open\",\"issue_title\":\"Deploy\",\"repository_id\":42," ++
      "\"source_url\":\"https://github.example/acme/payments/issues/7\"," ++
      "\"source_version\":\"abcdef1:2024-05-06\",\"visibility\":\"private\"\x7d",
      0x02e749bc5df38161ecac3e1a5987f4346a1f0afcb886218d648b009faa1cc882),
    ("\x7b\"assignee_identifier\":null,\"key\":\"OPS-1\",\"labels\":[]," ++
      "\"normalized_description_text\":\"\",\"priority\":null," ++
      "\"source_url\":\"https://jira.example/browse/OPS-1\"," ++
      "\"source_version\":\"1\",\"status\":\"Open\"," ++
      "\"title\":\"Deploy\",\"updated_at\":\"2024-05-06T07:08:09Z\"\x7d",
      0x5f9c26ba8adcbeaf2beb5f983ca5d3f18de033f22e63ea26436c9d90478922dc),
    ("deployment_context_sync:v1:prod:42:7:payments:github_comment",
      0xdb726831023c69a92aaa2afae0acd86302ff21f8b661ddd955786461f3482bb5),
    ("\x7b\"body\":\"<!-- ninjatech-deployment-context:" ++
      "db726831023c69a92aaa2afae0acd86302ff21f8b661ddd955786461f3482bb5 -->\\n" ++
      "## Deployment context\\n\\n**Decision:** `ready`\\n\\n" ++
      "**Service:** `payments`  \\n**Repository:** `acme/payments`  \\n" ++
      "**Jira issue:** `OPS-1`  \\n**Policy version:** `3`  \\n" ++
      "**Generated:** `2024-05-06T07:08:09+00:00`\\n\\n### Reasons\\n" ++
      "- Policy and ownership checks permit the bounded deployment-context action.\\n\\n" ++
      "### Source references\\n" ++
      "- `github` `repository_issue_context` `42:issue:7` (version `abcdef1:2024-05-06`)\\n" ++
      "- `jira` `work_item` `OPS-1` (version `1`)\\n" ++
      "- `service_catalog` `service` `payments` (version `v1`)\\n\"\x7d",
      0x2e59ed87c70204d39e2959eada950dfaf00c2fcba5176f1f961deee20a8790bf),
    ("\x7b\"outcome\":\"ready\",\"policy_version\":3,\"reason_codes\":[\"ready\"],\"sources\":[" ++
      "\x7b\"content_hash\":" ++
      "\"02e749bc5df38161ecac3e1a5987f4346a1f0afcb886218d648b009faa1cc882\"," ++
      "\"provider\":\"github\",\"provider_resource_identifier\":\"42:issue:7\"," ++
      "\"resource_type\":\"repository_issue_context\"," ++
      "\"source_version\":\"abcdef1:2024-05-06\"\x7d," ++
      "\x7b\"content_hash\":" ++
      "\"5f9c26ba8adcbeaf2beb5f983ca5d3f18de033f22e63ea26436c9d90478922dc\"," ++
      "\"provider\":\"jira\",\"provider_resource_identifier\":\"OPS-1\"," ++
      "\"resource_type\":\"work_item\",\"source_version\":\"1\"\x7d," ++
      "\x7b\"content_hash\":" ++
      "\"1043958800e727d066d934f2615fac7ddb2ffbca313e662d55b62a86214ee602\"," ++
      "\"provider\":\"service_catalog\",\"provider_resource_identifier\":\"payments\"," ++
      "\"resource_type\":\"service\",\"source_version\":\"v1\"\x7d]," ++
      "\"workflow_version\":\"deployment_context_sync:v1\"\x7d",
      0x435d12bc939b60be83e633308bb79f590093a5853cde13b575eae607ef85a05c),
    ("\x7b\"identifier\":\"9001\"," ++
      "\"url\":\"https://github.example/acme/payments/issues/7#issuecomment-9001\"\x7d",
      0x9d4cb3b29702b07236fdfb22fbc2fdc24a1f46cf2ac80bc0975ea9ba533cff94)]

def syncSettings : Settings where
  deploymentScopeId := some "prod"
  deploymentAllowedServiceIds := ["payments"]
  deploymentAllowedGithubRepositories := ["acme/payments"]
  deploymentAllowedJiraProjects := ["OPS"]
  slackWriteTimeout_pos := writeTimeout_pos
  integrationSettlementDelay_pos := settlementDelay_pos

def syncInput : JsonValue :=
  .dict [("jira_issue_key", .str "OPS-1"), ("github_repository", .str "acme/payments"),
    ("github_issue_number", .int 7), ("service_id", .str "payments")]

/-- The run of task `n`. -/
def syncTask (n : ℕ) : SyncTask where
  handler := { settings := syncSettings }
  task := ⟨(fence n).taskId, fence n⟩
  input := syncInput

def catalogRecord : ServiceCatalogRecord where
  serviceId := "payments"
  canonicalServiceId := "payments"
  aliases := []
  serviceOwner := some "team"
  criticality := "high"
  approvedRepositories := ["acme/payments"]
  dataClassification := .internal
  deploymentPolicyVersion := 3
  automaticPublicationAllowed := true
  requiredReviewer := none
  allowAutomaticUpdates := false
  sourceVersion := "v1"
  sourceUrl := "https://catalog.example/payments"

def githubContext : GitHubRepositoryContext where
  fullName := "acme/payments"
  repositoryId := 42
  «visibility» := "private"
  archived := false
  defaultBranch := "main"
  defaultBranchHeadSha := "abcdef1"
  issueNumber := 7
  issueState := "open"
  issueTitle := "Deploy"
  isPullRequest := false
  sourceUrl := "https://github.example/acme/payments/issues/7"
  sourceVersion := "abcdef1:2024-05-06"

def jiraItem : JiraWorkItem where
  key := "OPS-1"
  title := "Deploy"
  normalizedDescriptionText := ""
  status := "Open"
  priority := none
  labels := []
  assigneeIdentifier := none
  updatedAt := ⟨2024, 5, 6, 7, 8, 9, 0, some 0⟩
  sourceUrl := "https://jira.example/browse/OPS-1"
  sourceVersion := "1"

def githubComment (body : String) : GitHubComment where
  identifier := "9001"
  body := body
  url := "https://github.example/acme/payments/issues/7#issuecomment-9001"
  updatedAt := ⟨2024, 5, 6, 7, 8, 10, 0, some 0⟩

/-- The sources answer, the search finds `found`, and a comment is written. -/
def syncAnswers (found : Except Exn CommentSearchResult) : (e : Effect) → Outcome e
  | .fetchRecords _ => .ok [catalogRecord]
  | .verifyGitHubIdentity => .ok true
  | .fetchContext _ _ => .ok githubContext
  | .fetchIssue _ => .ok jiraItem
  | .findCommentsByMarker _ _ _ => found
  | .createComment _ _ body | .updateComment _ _ body => .ok (githubComment body)
  | .getComment _ _ => .ok none
  | .verifySlackIdentity => .ok true
  | .postNotification _ | .record _ | .reserveOrGet _ | .transition _ | .revise _
  | .reconciliationDelaySeconds _ => .error .noResultFound

/-- The next call of handler `i`, answered, and what it does up to its next await. -/
def reply (i : ℕ) (found : Except Exn CommentSearchResult := .ok ⟨[], true⟩) : List SlackMove :=
  [.exec i (.respond (syncAnswers found)), .resume i]

/-- Task `n` runs as handler `i` up to the search for its comment. -/
def readSources (i n : ℕ) : List SlackMove :=
  [.start n, .resume i] ++ reply i ++ commit i (8 * n) ++ reply i ++ reply i ++
    commit i (8 * n + 1) ++ reply i ++ commit i (8 * n + 2) ++ commit i (8 * n + 3) ++
    commit i (8 * n + 4)

attribute [local instance] syncHost laxCoercion

def syncMachine : Machine handlerSignature DeploymentContextResult ℕ
    (World Unit DeploymentContextResult) (Choice ((e : Effect) → Outcome e)) :=
  machine (syncTasks syncTask (fun now later => decide (now ≤ later)) 65536) anyProvider

def runSync (moves : List SlackMove) :
    Option (Config handlerSignature DeploymentContextResult
      (World Unit DeploymentContextResult)) :=
  syncMachine.run (Config.init (World.initial database 0 ())) moves

/-- One task publishes its comment. -/
def published : List SlackMove :=
  readSources 0 1 ++ reply 0 ++ commit 0 13 ++ commit 0 14 ++ reply 0 ++ commit 0 15

/-- The handler with the past `h` has asked for a comment and come to its end. -/
def hasPublished : SyncPast → Bool
  | .ended (.ok result) :: .answered (.transition _) _ :: .issued (.transition _) ::
      .answered (.createComment _ _ _) _ :: .issued (.createComment _ _ _) :: _ =>
    result.decision.outcome == .ready
  | _ => false

set_option maxRecDepth 100000 in
lemma runSync_published :
    ((runSync published).any fun c => hasPublished (past 0 c.world.log)) = true := by
  decide +kernel

end Sample

attribute [local instance] Sample.syncHost Sample.laxCoercion in
open Sample in
theorem policy_first_published : ∃ c, runSync published = some c ∧
    hasPublished (past 0 c.world.log) = true ∧ ∃ j, (Machine.jobs published)[0]? = some j ∧
      ∀ later e earlier, past 0 c.world.log = later ++ .issued e :: earlier →
        ∃ taskInput, DeploymentContextSyncInput.modelValidate (syncTask j).input = some taskInput ∧
          Authorized (syncTask j).handler (syncTask j).task taskInput earlier e := by
  have hrun := runSync_published
  simp only [Option.any_eq_true] at hrun
  obtain ⟨c, hc, hpublished⟩ := hrun
  refine ⟨c, hc, hpublished, ?_⟩
  rcases policy_first hc 0 with hempty | hfirst
  · rw [hempty] at hpublished
    cases hpublished
  · exact hfirst

end DeploymentLab
