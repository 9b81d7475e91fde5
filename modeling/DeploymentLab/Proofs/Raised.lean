import DeploymentLab.Model.Workflow
import DeploymentLab.Model.World

/-!
# What a computation may raise

The transactions of the database and the computations between two awaits raise errors of their own:
none of a provider and, but for what is said of the request itself, none of the task.
-/

namespace DeploymentLab

open DeploymentContextSyncHandler

/-- A `ProviderError`. -/
def Exn.isProviderError : Exn → Bool
  | .retryableProviderError _ _ | .permanentProviderError _ | .providerWriteOutcomeUnknown _ => true
  | _ => false

def Exn.isTaskError : Exn → Bool
  | .retryableTaskError _ _ | .permanentTaskError _ => true
  | _ => false

/-- A computation raises nothing but what is in `P`. -/
def Raises {β : Type} (P : Exn → Prop) (r : Except Exn β) : Prop := ∀ x, r = .error x → P x

/-- It raises no error of a provider. -/
abbrev Clean {β : Type} (r : Except Exn β) : Prop := Raises (fun x => x.isProviderError = false) r

/-- It raises neither an error of a provider nor one of a task. -/
abbrev Stored {β : Type} (r : Except Exn β) : Prop :=
  Raises (fun x => x.isProviderError = false ∧ x.isTaskError = false) r

section Raises

variable {β γ : Type} {P : Exn → Prop}

lemma raises_ok {a : β} : Raises P (.ok a) := fun _ heq => by cases heq

lemma raises_error {x : Exn} (hx : P x) : Raises P (.error x : Except Exn β) := by
  intro y heq
  cases heq
  exact hx

lemma Raises.bind {r : Except Exn β} {f : β → Except Exn γ} (hr : Raises P r)
    (hf : ∀ a, Raises P (f a)) : Raises P (r >>= f) := by
  intro x hx
  rcases bind_eq_error.1 hx with hx | ⟨a, -, hx⟩
  · exact hr x hx
  · exact hf a x hx

lemma Raises.map {r : Except Exn β} {f : β → γ} (hr : Raises P r) : Raises P (r.map f) := by
  cases r with
  | ok a => exact raises_ok
  | error x => exact raises_error (hr x rfl)

lemma Raises.mono {P' : Exn → Prop} {r : Except Exn β} (hr : Raises P r) (hP : ∀ x, P x → P' x) :
    Raises P' r :=
  fun x hx => hP x (hr x hx)

end Raises

section Stored

variable {db : Database}

lemma stored_assertActiveFence {fence : ExecutionFence} {now : Timestamp} :
    Stored (assertActiveFence db fence now) := by
  unfold assertActiveFence
  split
  · exact raises_ok
  · exact raises_error ⟨rfl, rfl⟩

lemma stored_lockAction {id : UUID} : Stored (ExternalActionRepository.lockAction db id) := by
  unfold ExternalActionRepository.lockAction
  split
  · exact raises_ok
  · exact raises_error ⟨rfl, rfl⟩

lemma stored_requireConstraints (constraints : List (String × Bool)) :
    Stored (requireConstraints constraints) := by
  induction constraints with
  | nil => exact raises_ok
  | cons c constraints ih =>
    obtain ⟨name, holds⟩ := c
    unfold requireConstraints
    split
    · exact ih
    · exact raises_error ⟨rfl, rfl⟩

lemma stored_requireOneRow {rowcount : ℕ} {operation : String} :
    Stored (requireOneRow rowcount operation) := by
  unfold requireOneRow
  split
  · exact raises_error ⟨rfl, rfl⟩
  · exact raises_ok

lemma stored_updateActions {p : ExternalAction → Bool} {f : ExternalAction → ExternalAction}
    {hf : ∀ a, Relational.Keyed.key (f a) = Relational.Keyed.key a} :
    Stored (ExternalActionRepository.updateActions db p f hf) :=
  (stored_requireConstraints _).bind fun _ => raises_ok

lemma stored_appendAttempt {attempt : ExternalActionAttempt} :
    Stored (ExternalActionRepository.appendAttempt db attempt) := by
  refine (stored_requireConstraints _).bind fun _ => ?_
  split
  · exact raises_ok
  · exact raises_error ⟨rfl, rfl⟩

lemma stored_transition {now : Timestamp} {attemptId : UUID} {request : TransitionRequest} :
    Stored (ExternalActionRepository.transition db now attemptId request) := by
  unfold ExternalActionRepository.transition
  dsimp only
  split
  · exact raises_error ⟨rfl, rfl⟩
  split
  · exact raises_error ⟨rfl, rfl⟩
  refine stored_assertActiveFence.bind fun _ => ?_
  refine stored_lockAction.bind fun action => ?_
  split
  · exact raises_error ⟨rfl, rfl⟩
  refine stored_updateActions.bind fun updated => ?_
  refine stored_requireOneRow.bind fun _ => ?_
  refine stored_appendAttempt.bind fun _ => ?_
  exact stored_lockAction.bind fun _ => raises_ok

lemma stored_revise {now : Timestamp} {attemptId : UUID} {request : RevisionRequest} :
    Stored (ExternalActionRepository.revise db now attemptId request) := by
  unfold ExternalActionRepository.revise
  refine stored_assertActiveFence.bind fun _ => ?_
  refine stored_lockAction.bind fun action => ?_
  split
  · exact raises_error ⟨rfl, rfl⟩
  refine stored_updateActions.bind fun updated => ?_
  refine stored_requireOneRow.bind fun _ => ?_
  refine stored_appendAttempt.bind fun _ => ?_
  exact stored_lockAction.bind fun _ => raises_ok

lemma stored_reserveOrGet {now : Timestamp} {actionId attemptId : UUID}
    {request : ReservationRequest} :
    Stored (ExternalActionRepository.reserveOrGet db now actionId attemptId request) := by
  unfold ExternalActionRepository.reserveOrGet
  dsimp only
  split
  · exact raises_error ⟨rfl, rfl⟩
  refine stored_assertActiveFence.bind fun _ => ?_
  split
  · refine (stored_requireConstraints _).bind fun _ => ?_
    split
    · exact raises_error ⟨rfl, rfl⟩
    refine stored_lockAction.bind fun action => ?_
    exact stored_appendAttempt.bind fun _ => raises_ok
  · split
    · exact raises_error ⟨rfl, rfl⟩
    refine Raises.bind ?_ fun _ => stored_lockAction.bind fun _ => raises_ok
    refine stored_updateActions.bind fun updated => ?_
    exact stored_requireOneRow.bind fun _ => stored_appendAttempt

lemma stored_urlsplit [Runtime] {url : String} : Stored (urlsplit url) := by
  intro x hx
  unfold urlsplit at hx
  simp only [bind, Except.bind, throw, throwThe, MonadExceptOf.throw, pure, Except.pure] at hx
  repeat' split at hx
  all_goals cases hx <;> exact ⟨rfl, rfl⟩

lemma stored_port {parsed : SplitResult} : Stored parsed.port := by
  unfold SplitResult.port
  split
  · exact raises_ok
  split
  · dsimp only
    split
    · exact raises_ok
    · exact raises_error ⟨rfl, rfl⟩
  · exact raises_error ⟨rfl, rfl⟩

lemma stored_canonicalSourceUrl [Runtime] {value : String} :
    Stored (canonicalSourceUrl value) := by
  refine stored_urlsplit.bind fun parsed => ?_
  split
  · exact raises_error ⟨rfl, rfl⟩
  · split
    · exact raises_error ⟨rfl, rfl⟩
    · exact stored_port.bind fun _ => raises_ok

lemma stored_record [Runtime] {maximumBytes : ℕ} {now : Timestamp} {id : UUID}
    {request : ArtifactRequest} :
    Stored (SourceArtifactRepository.record maximumBytes db now id request) := by
  unfold SourceArtifactRepository.record
  dsimp only
  split
  · exact raises_error ⟨rfl, rfl⟩
  refine stored_assertActiveFence.bind fun _ => ?_
  refine stored_canonicalSourceUrl.bind fun url => ?_
  refine (stored_requireConstraints _).bind fun _ => ?_
  split
  · exact raises_ok
  · split
    · exact raises_ok
    · exact raises_error ⟨rfl, rfl⟩

/-- The database raises errors of its own. -/
lemma stored_execute [Runtime] {maximumBytes : ℕ} {now : Timestamp} {row history : UUID}
    {e : Effect} {r : Outcome e} {db' : Database}
    (h : db.execute maximumBytes now row history e = some (r, db')) : Stored r := by
  have hsettle : ∀ {α : Type} {result : Except Exn (α × Database)}, Stored result →
      Stored (db.settle result).1 := by
    intro α result hresult x hx
    cases result with
    | ok p => cases hx
    | error y => exact hresult x (congrArg Except.error (Except.error.inj hx))
  cases e with
  | record request =>
    obtain rfl := congrArg Prod.fst (Option.some.inj h)
    exact hsettle stored_record
  | reserveOrGet request =>
    obtain rfl := congrArg Prod.fst (Option.some.inj h)
    exact hsettle stored_reserveOrGet
  | transition request =>
    obtain rfl := congrArg Prod.fst (Option.some.inj h)
    exact hsettle stored_transition
  | revise request =>
    obtain rfl := congrArg Prod.fst (Option.some.inj h)
    exact hsettle stored_revise
  | reconciliationDelaySeconds id =>
    cases h
    exact raises_ok
  | _ => cases h

end Stored

/-! ## Between awaits -/

section Clean

lemma clean_actionReference {a : ExternalAction} : Clean (actionReference a) := by
  unfold actionReference
  split
  · exact raises_error rfl
  · exact raises_ok

lemma clean_successResult {decision : DeploymentContextDecision}
    {references : List SourceReference} {a : ExternalAction} :
    Clean (successResult decision references a) :=
  clean_actionReference.bind fun _ => raises_ok

lemma clean_actionReviewResult {decision : DeploymentContextDecision}
    {references : List SourceReference} {a : ExternalAction} {code : DecisionReasonCode}
    {reason : String} : Clean (actionReviewResult decision references a code reason) :=
  clean_successResult

lemma clean_validate {result : SlackNotificationResult} : Clean result.validate := by
  intro x hx
  unfold SlackNotificationResult.validate at hx
  simp only [bind, Except.bind, throw, throwThe, MonadExceptOf.throw, pure, Except.pure] at hx
  repeat' split at hx
  all_goals cases hx <;> rfl

lemma clean_render [Runtime] {decision : DeploymentContextDecision} {service : String}
    {reference : ExternalActionReference} {maximumCharacters : ℕ} :
    Clean (renderSlackNotification decision service reference maximumCharacters) := by
  unfold renderSlackNotification
  split
  · exact raises_error rfl
  case h_2 _ url _ =>
    have hurl : Clean (urlsplit url) := stored_urlsplit.mono fun _ hx => hx.1
    intro x hx
    simp only [bind, Except.bind, throw, throwThe, MonadExceptOf.throw, pure, Except.pure] at hx
    split at hx
    · cases hx
      rfl
    split at hx
    case h_1 y hy =>
      cases hx
      exact hurl _ hy
    split at hx
    · cases hx
      rfl
    split at hx
    · cases hx
      rfl
    · cases hx

lemma clean_messageRequest {channel text : String} :
    Clean (SlackMessageRequest.validate channel text) := by
  unfold SlackMessageRequest.validate
  split
  · split
    · exact raises_ok
    · exact raises_error rfl
  · exact raises_error rfl

lemma clean_slackActionScopeKey {scope team : Option String} {repository issue revision : ℤ}
    {service channel : String} :
    Clean (slackActionScopeKey scope team repository issue service revision channel) := by
  unfold slackActionScopeKey
  split
  · exact raises_error rfl
  · exact raises_error rfl
  · exact raises_ok

lemma clean_slackSnapshot [Runtime] {decision : DeploymentContextDecision}
    {reference : ExternalActionReference} {channel : String} {team : Option String} :
    Clean (slackDecisionSnapshotHash decision reference channel team) := by
  unfold slackDecisionSnapshotHash
  split
  · exact raises_error rfl
  · exact raises_ok

lemma clean_githubComment [Runtime] {scope : String} {decision : DeploymentContextDecision}
    {service : ServiceCatalogRecord} {github : GitHubRepositoryContext} {jira : JiraWorkItem} :
    Clean (renderGithubComment scope decision service github jira) := by
  unfold renderGithubComment
  dsimp only
  split
  · exact raises_error rfl
  · exact raises_ok

lemma clean_actionScopeKey {settings : Settings} {taskInput : DeploymentContextSyncInput}
    {github : GitHubRepositoryContext} {service : ServiceCatalogRecord} :
    Clean (actionScopeKey settings taskInput github service) := by
  unfold actionScopeKey
  split
  · exact raises_error rfl
  · exact raises_ok

lemma clean_validateSlackRequest {handler : DeploymentContextSyncHandler}
    {taskInput : DeploymentContextSyncInput} :
    Clean (validateSlackRequest handler taskInput) := by
  unfold validateSlackRequest
  repeat' split
  all_goals first | exact raises_ok | exact raises_error rfl

end Clean

end DeploymentLab
