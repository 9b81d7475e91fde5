import DeploymentLab.Proofs.RowAlone

/-!
# What reconciliation binds and writes over

A run that holds the row of its scope by itself (`RowAlone`) decides on the comment that it has
just read (`Read`): it binds the comment to the row, writes over it, or leaves both to a human.
`reconcileScript` says on what ground each of the three is done.
-/

namespace DeploymentLab

open Interaction HandlerContext DeploymentContextSyncHandler ExternalActionRepository

/-- The statuses from which a run may reconcile the row. -/
def reconcilable : List ExternalActionStatus :=
  [.reserved, .retryableFailure, .outcomeUnknown, .executing, .reconciling]

/-- A run that was given the row `action` holds it as `current`. -/
structure Held (action : ExternalAction) (h : SyncPast) (current : ExternalAction) : Prop where
  given : action ∈ returnedActions h
  head : (returnedActions h).head? = some current
  same : RowAlone h → SameBinding action current
  pending : RowAlone h → current.status = .reconciling → action.status ∈ reconcilable

lemma Held.of_cons {action current : ExternalAction} {h : SyncPast}
    {act : Act handlerSignature DeploymentContextResult} (hheld : Held action h current)
    (hact : returnedActions (act :: h) = returnedActions h) : Held action (act :: h) current where
  given := by rw [hact]; exact hheld.given
  head := by rw [hact]; exact hheld.head
  same halone := hheld.same halone.of_cons
  pending halone := hheld.pending halone.of_cons

/-- The comments that the last read of comments returned. -/
def lastRead : SyncPast → Option (List GitHubComment)
  | [] => none
  | .answered (.getComment _ _) (.ok comment) :: _ => some (Option.toList comment)
  | .answered (.findCommentsByMarker _ _ _) (.ok search) :: _ =>
    some (CommentSearchResult.comments search)
  | _ :: h => lastRead h

section Grounds

variable [Runtime] (publication : Publication) (action : ExternalAction)

/-- The run has just read the comment of the row, if there is one: the one that the row is bound
to, or the only one with its marker. -/
inductive Read (h : SyncPast) : Option GitHubComment → Prop
  | bound {identifier : String} {comment : GitHubComment}
    (hrow : action.providerResourceIdentifier = some identifier)
    (hread : .answered (.getComment publication.repository identifier) (.ok (some comment)) ∈ h)
    (hlast : lastRead h = some [comment])
    (hmarker : substring (safeMarker action.actionScopeKey) comment.body = true) :
    Read h (some comment)
  | searched {search : CommentSearchResult} (hrow : action.providerResourceIdentifier = none)
    (hread : .answered (.findCommentsByMarker publication.repository publication.issueNumber
      (safeMarker action.actionScopeKey)) (.ok search) ∈ h)
    (hlast : lastRead h = some search.comments)
    (hcomplete : search.complete = true) (hunique : search.comments.length ≤ 1) :
    Read h search.comments.head?

/-- The row may be written: no comment was read, or an older revision that the write replaces. -/
structure Writable (h : SyncPast) : Prop where
  given : action ∈ returnedActions h
  pending : action.status ∈ reconcilable
  read : ∃ existing, Read publication action h existing ∧ ∀ comment, existing = some comment →
    bodyFingerprint comment.body ≠ publication.desiredFingerprint ∧
      replaceable action publication.desiredFingerprint = true

/-- The transition binds the comment that was read, which has the desired content. -/
structure Binds (h : SyncPast) (request : TransitionRequest) : Prop where
  held : ∃ current, Held action h current ∧ request.actionId = current.id
  expected : request.expectedStatuses = [.reconciling]
  comment : ∃ comment, Read publication action h (some comment) ∧
    request.values.providerResourceIdentifier = some (some comment.identifier) ∧
    bodyFingerprint comment.body = publication.desiredFingerprint

/-- The ground for an await of a run that reconciles the row. -/
def Grounded (h : SyncPast) : Effect → Prop
  | .transition request =>
    request.transition = "reconciled_succeeded" → Binds publication action h request
  | .createComment _ _ _ => Writable publication action h
  | .updateComment repository identifier body =>
    Writable publication action h ∧ repository = publication.repository ∧
      action.providerResourceIdentifier = some identifier ∧ body = publication.body
  | _ => True

def reconcileScript : Script handlerSignature DeploymentContextResult
  | h, .issued e => RowAlone h → Grounded publication action h e
  | _, .answered _ _ | _, .ended _ => True

/-- How a run that reconciles the row may end: with an exception, with a human to review the
row, or with the desired comment in place. -/
def Concluded (h : SyncPast) (r : Except Exn DeploymentContextResult) : Prop :=
  RowAlone h → ∀ result, r = .ok result → action.status ∈ reconcilable ∧
    ((result.decision.outcome = .needsHumanReview ∧
        ∃ a, (returnedActions h).head? = some a ∧ a.status = .needsHumanReview) ∨
      ∃ existing, Read publication action h existing ∧ ∀ comment, existing = some comment →
        bodyFingerprint comment.body = publication.desiredFingerprint ∨
          replaceable action publication.desiredFingerprint = true)

end Grounds

section Reconciling

variable [Runtime] {settings : Settings} {task : TaskExecution} {publication : Publication}
  {action current : ExternalAction} {h h' : SyncPast} {existing : Option GitHubComment}

lemma Read.mono (hread : Read publication action h existing) (hsub : h ⊆ h')
    (hlast : lastRead h' = lastRead h) : Read publication action h' existing := by
  cases hread with
  | bound hrow hmem hread hmarker =>
    exact .bound hrow (hsub hmem) (hlast.trans hread) hmarker
  | searched hrow hmem hread hcomplete hunique =>
    exact .searched hrow (hsub hmem) (hlast.trans hread) hcomplete hunique

/-- Awaiting a transition reads no comment. -/
lemma Read.transition {request : TransitionRequest} {r : Outcome (.transition request)}
    (hread : Read publication action h existing) :
    Read publication action
      (.answered (.transition request) r :: .issued (.transition request) :: h)
      existing :=
  hread.mono (fun _ hmem => List.mem_cons_of_mem _ (List.mem_cons_of_mem _ hmem)) rfl

lemma concluded_error {x : Exn} : Concluded publication action h (.error x) := by
  intro _ result hr
  cases hr

omit [Runtime] in
/-- A transition of the row in hand, which leaves the row in hand. -/
lemma Held.transition {request : TransitionRequest} {a : ExternalAction}
    (hheld : Held action h current) (hid : request.actionId = current.id)
    (hidentifier : request.values.providerResourceIdentifier = none)
    (happlied : request.values.appliedRequestFingerprint = none)
    (hexpected : RowAlone h → current.status ∈ request.expectedStatuses →
      action.status ∈ reconcilable) :
    Held action
      (.answered (.transition request) (.ok a) :: .issued (.transition request) :: h) a where
  given := List.mem_cons_of_mem a hheld.given
  head := rfl
  same halone := by
    obtain ⟨-, now, rfl⟩ := halone.last hheld.head hid.symm
    exact (hheld.same halone.of_cons.of_cons).trans (sameBinding_transitioned hidentifier happlied)
  pending halone _ := by
    have hstatus := (halone.last hheld.head hid.symm).1
    exact hexpected halone.of_cons.of_cons hstatus

omit [Runtime] in
lemma Held.reconciling (hheld : Held action h current) (halone : RowAlone h)
    (hstatus : current.status ∈ [ExternalActionStatus.reconciling]) :
    action.status ∈ reconcilable :=
  hheld.pending halone (List.mem_singleton.1 hstatus)

lemma startReconciliation_grounded (hhead : (returnedActions h).head? = some action) :
    (startReconciliation task action).Emits (reconcileScript publication action)
      (fun h r => ∀ current, r = .ok current → Held action h current) h := by
  unfold startReconciliation
  split
  · rename_i hstatus
    intro current hcurrent
    obtain rfl := Except.ok.inj hcurrent
    refine ⟨List.mem_of_mem_head? hhead, hhead, fun _ => .refl action, fun _ hreconciling => ?_⟩
    rw [hreconciling]
    decide
  · refine Prog.emits_perform.2 ⟨fun _ hname => ?_, fun r current hcurrent => ?_⟩
    · exact absurd hname
        (by decide : ("reconciliation_started" : String) ≠ "reconciled_succeeded")
    subst hcurrent
    have hheld : Held action h action := by
      refine ⟨List.mem_of_mem_head? hhead, hhead, fun _ => .refl action, fun _ hreconciling => ?_⟩
      rw [hreconciling]
      decide
    refine hheld.transition rfl rfl rfl fun _ hexpected => ?_
    simp only [reconciliationStarted, List.mem_cons, List.not_mem_nil, or_false] at hexpected
    simp only [reconcilable, List.mem_cons, List.not_mem_nil, or_false]
    tauto

lemma boundComment_grounded {identifier marker : String} (hheld : Held action h current)
    (hrow : current.providerResourceIdentifier = some identifier)
    (hmarker : marker = safeMarker current.actionScopeKey) :
    (boundComment publication.repository identifier marker).Emits
      (reconcileScript publication action)
      (fun h r => Held action h current ∧ ∀ existing, r = .ok existing → RowAlone h →
        Read publication action h existing) h := by
  unfold boundComment
  rw [Prog.bind_eq, Prog.emits_bind]
  refine Prog.emits_perform.2 ⟨fun _ => trivial, fun r => ?_⟩
  cases r with
  | error x => exact ⟨(hheld.of_cons rfl).of_cons rfl, fun existing heq => by cases heq⟩
  | ok found =>
    dsimp only
    split
    · exact ⟨(hheld.of_cons rfl).of_cons rfl, fun existing heq => by cases heq⟩
    · rename_i comment
      split
      · rename_i hsubstring
        refine ⟨(hheld.of_cons rfl).of_cons rfl, fun existing heq halone => ?_⟩
        obtain rfl := Except.ok.inj heq
        have hsame := hheld.same halone.of_cons.of_cons
        refine .bound (hsame.identifier ▸ hrow) List.mem_cons_self rfl ?_
        rw [← hsame.scope, ← hmarker]
        exact hsubstring
      · exact ⟨(hheld.of_cons rfl).of_cons rfl, fun existing heq => by cases heq⟩

lemma searchComments_grounded (hheld : Held action h current)
    (hrow : current.providerResourceIdentifier = none) :
    (searchComments publication.repository publication.issueNumber
      (safeMarker current.actionScopeKey)).Emits (reconcileScript publication action)
      (fun h r => Held action h current ∧ ∀ existing, r = .ok existing → RowAlone h →
        Read publication action h existing) h := by
  unfold searchComments
  rw [Prog.bind_eq, Prog.emits_bind]
  refine Prog.emits_perform.2 ⟨fun _ => trivial, fun r => ?_⟩
  cases r with
  | error x => exact ⟨(hheld.of_cons rfl).of_cons rfl, fun existing heq => by cases heq⟩
  | ok search =>
    dsimp only
    split
    · exact ⟨(hheld.of_cons rfl).of_cons rfl, fun existing heq => by cases heq⟩
    rename_i hcomplete
    split
    · exact ⟨(hheld.of_cons rfl).of_cons rfl, fun existing heq => by cases heq⟩
    rename_i hunique
    refine ⟨(hheld.of_cons rfl).of_cons rfl, fun existing heq halone => ?_⟩
    obtain rfl := Except.ok.inj heq
    have hsame := hheld.same halone.of_cons.of_cons
    refine .searched (hsame.identifier ▸ hrow) ?_ rfl (by simpa using hcomplete)
      (Nat.le_of_not_lt hunique)
    rw [← hsame.scope]
    exact List.mem_cons_self

lemma reconcileComment_grounded (hheld : Held action h current) :
    (reconcileComment current publication.repository publication.issueNumber
      (safeMarker current.actionScopeKey)).Emits (reconcileScript publication action)
      (fun h r => Held action h current ∧ ∀ existing, r = .ok existing → RowAlone h →
        Read publication action h existing) h := by
  unfold reconcileComment
  split
  · rename_i identifier hrow
    exact boundComment_grounded hheld hrow rfl
  · rename_i hrow
    have hafter : ∀ {h} holdoff, Held action h current →
        Prog.Emits (reconcileScript publication action)
          (fun h r => Held action h current ∧ ∀ existing, r = .ok existing → RowAlone h →
            Read publication action h existing)
          (if (0 : Duration) < holdoff then
            (.raise (.retryableProviderError "github_reconciliation_holdoff"
              (some (max 100000 holdoff))) : Handler (Option GitHubComment))
          else searchComments publication.repository publication.issueNumber
            (safeMarker current.actionScopeKey)) h := by
      intro h holdoff hheld
      split
      · exact ⟨hheld, fun existing heq => by cases heq⟩
      · exact searchComments_grounded hheld hrow
    unfold reconciliationHoldoff
    split
    · refine emits_await (fun _ => trivial) (fun holdoff => ?_) fun x => ?_
      · exact hafter holdoff ((hheld.of_cons rfl).of_cons rfl)
      · exact ⟨(hheld.of_cons rfl).of_cons rfl, fun existing heq => by cases heq⟩
    · exact hafter 0 hheld

/-- After the failure of a write has been recorded, the run raises. -/
lemma failure_grounded {request : TransitionRequest} {x : Exn}
    (hname : request.transition ≠ "reconciled_succeeded") :
    ((perform (.transition request)).bind fun _ =>
      (.raise x : Handler DeploymentContextResult)).Emits (reconcileScript publication action)
        (Concluded publication action) h :=
  emits_await (fun _ heq => absurd heq hname) (fun _ => concluded_error) fun _ => concluded_error

/-- The row is left to a human. -/
lemma review_grounded {request : TransitionRequest} {code : DecisionReasonCode} {reason : String}
    (hheld : Held action h current) (hid : request.actionId = current.id)
    (hexpected : request.expectedStatuses = [.reconciling])
    (hnew : request.newStatus = .needsHumanReview)
    (hname : request.transition ≠ "reconciled_succeeded") :
    ((perform (.transition request)).bind fun action =>
      Prog.ofExcept (actionReviewResult publication.decision publication.references action code
        reason)).Emits (reconcileScript publication action) (Concluded publication action) h := by
  refine emits_await (fun _ heq => absurd heq hname) (fun a => ?_) fun _ => concluded_error
  rw [Prog.emits_ofExcept]
  intro halone result hresult
  obtain ⟨reference, -, rfl⟩ := successResult_ok hresult
  obtain ⟨hstatus, now, rfl⟩ := halone.last hheld.head hid.symm
  rw [hexpected] at hstatus
  exact ⟨hheld.reconciling halone.of_cons.of_cons hstatus, .inl ⟨rfl, _, rfl, hnew⟩⟩

/-- After a transition to `SUCCEEDED` that is called for, the run ends. -/
lemma success_grounded {request : TransitionRequest}
    (hground : RowAlone h → Grounded publication action h (.transition request))
    (hend : ∀ a, RowAlone (.answered (.transition request) (.ok a) ::
        .issued (.transition request) :: h) → action.status ∈ reconcilable ∧
      ∃ existing, Read publication action h existing ∧ ∀ comment, existing = some comment →
        bodyFingerprint comment.body = publication.desiredFingerprint ∨
          replaceable action publication.desiredFingerprint = true) :
    ((perform (.transition request)).bind fun a => raiseIfCancelled.bind fun _ =>
      Prog.ofExcept (successResult publication.decision publication.references a)).Emits
        (reconcileScript publication action) (Concluded publication action) h := by
  refine emits_await hground (fun a => ?_) fun _ => concluded_error
  refine emits_checkCancelled ?_ fun _ => concluded_error
  rw [Prog.emits_ofExcept]
  intro halone result hresult
  obtain ⟨hpending, existing, hread, hexisting⟩ := hend a halone
  exact ⟨hpending, .inr ⟨existing, hread.transition, hexisting⟩⟩

/-- The call of the provider, and what its outcome leads to. -/
lemma writeComment_grounded (hheld : Held action h current)
    (hwritable : RowAlone h → Writable publication action h) :
    (writeComment publication current).Emits (reconcileScript publication action)
      (fun h _ => Held action h current ∧ (RowAlone h → Writable publication action h)) h := by
  have hafter : ∀ {e : Effect} {r : Outcome e}, e.isWrite = true →
      Held action (.answered e r :: .issued e :: h) current ∧
        (RowAlone (.answered e r :: .issued e :: h) →
          Writable publication action (.answered e r :: .issued e :: h)) := by
    intro e r he
    have hread : lastRead (.answered e r :: .issued e :: h) = lastRead h := by
      cases e <;> first | rfl | cases he
    have hrows : returnedActions (.answered e r :: .issued e :: h) = returnedActions h := by
      cases e <;> first | rfl | cases he
    refine ⟨⟨hrows ▸ hheld.given, hrows ▸ hheld.head,
      fun halone => hheld.same halone.of_cons.of_cons,
      fun halone => hheld.pending halone.of_cons.of_cons⟩, fun halone => ?_⟩
    obtain ⟨hgiven, hpending, existing, hfound, hexisting⟩ := hwritable halone.of_cons.of_cons
    refine ⟨hrows ▸ hgiven, hpending, existing, hfound.mono ?_ hread, hexisting⟩
    exact fun _ hmem => List.mem_cons_of_mem _ (List.mem_cons_of_mem _ hmem)
  unfold writeComment
  split
  · exact Prog.emits_perform.2 ⟨hwritable, fun r => hafter rfl⟩
  · rename_i identifier hidentifier
    refine Prog.emits_perform.2 ⟨fun halone => ⟨hwritable halone, rfl, ?_, rfl⟩,
      fun r => hafter rfl⟩
    rw [← (hheld.same halone).identifier]
    exact hidentifier

lemma applyWrite_grounded (hheld : Held action h current)
    (hread : RowAlone h → ∃ existing, Read publication action h existing ∧
      ∀ comment, existing = some comment →
        bodyFingerprint comment.body ≠ publication.desiredFingerprint ∧
          replaceable action publication.desiredFingerprint = true) :
    (applyWrite settings task publication current).Emits (reconcileScript publication action)
      (Concluded publication action) h := by
  have hnoMatch : ("reconciliation_completed_no_match" : String) ≠ "reconciled_succeeded" := by
    decide
  have hstarted : ("write_started" : String) ≠ "reconciled_succeeded" := by decide
  have hsucceeded : ("write_succeeded" : String) ≠ "reconciled_succeeded" := by decide
  have hunknown : ("write_outcome_unknown" : String) ≠ "reconciled_succeeded" := by decide
  have hretryable : ("write_retryable_failure" : String) ≠ "reconciled_succeeded" := by decide
  have hpermanent : ("write_permanent_failure" : String) ≠ "reconciled_succeeded" := by decide
  refine emits_await (fun _ heq => absurd heq hnoMatch) (fun a₁ => ?_) fun _ => concluded_error
  refine emits_checkCancelled ?_ fun _ => concluded_error
  have hheld₁ : Held action (.answered (.transition (reconciliationCompletedNoMatch task current))
      (.ok a₁) :: .issued (.transition (reconciliationCompletedNoMatch task current)) :: h) a₁ :=
    hheld.transition rfl rfl rfl hheld.reconciling
  have hready : RowAlone (.answered (.transition (reconciliationCompletedNoMatch task current))
      (.ok a₁) :: .issued (.transition (reconciliationCompletedNoMatch task current)) :: h) →
      action.status ∈ reconcilable := by
    intro halone
    exact hheld.reconciling halone.of_cons.of_cons (halone.last hheld.head rfl).1
  refine emits_await (fun _ heq => absurd heq hstarted) (fun a => ?_) fun _ => concluded_error
  refine emits_checkCancelled ?_ fun _ => concluded_error
  have hheld₂ : Held action (.answered (.transition (writeStarted settings task a₁)) (.ok a) ::
      .issued (.transition (writeStarted settings task a₁)) ::
      .answered (.transition (reconciliationCompletedNoMatch task current)) (.ok a₁) ::
      .issued (.transition (reconciliationCompletedNoMatch task current)) :: h) a :=
    hheld₁.transition rfl rfl rfl fun halone _ => hready halone
  have hwritable : RowAlone (.answered (.transition (writeStarted settings task a₁)) (.ok a) ::
      .issued (.transition (writeStarted settings task a₁)) ::
      .answered (.transition (reconciliationCompletedNoMatch task current)) (.ok a₁) ::
      .issued (.transition (reconciliationCompletedNoMatch task current)) :: h) →
      Writable publication action
        (.answered (.transition (writeStarted settings task a₁)) (.ok a) ::
      .issued (.transition (writeStarted settings task a₁)) ::
      .answered (.transition (reconciliationCompletedNoMatch task current)) (.ok a₁) ::
      .issued (.transition (reconciliationCompletedNoMatch task current)) :: h) := by
    intro halone
    obtain ⟨existing, hfound, hexisting⟩ := hread halone.of_cons.of_cons.of_cons.of_cons
    exact ⟨hheld₂.given, hready halone.of_cons.of_cons, existing, hfound.transition.transition,
      hexisting⟩
  rw [Prog.bind_eq, Prog.emits_bind, Prog.emits_attempt]
  refine Prog.emits_mono (writeComment_grounded hheld₂ hwritable) ?_
  rintro h r ⟨hheld, hwritable⟩
  dsimp only
  split
  · exact failure_grounded hunknown
  · exact failure_grounded hretryable
  · exact failure_grounded hpermanent
  · exact concluded_error
  · refine emits_checkOwnership (success_grounded (fun _ heq => absurd heq hsucceeded)
      fun a halone => ?_) fun _ => concluded_error
    obtain ⟨-, hpending, existing, hfound, hexisting⟩ := hwritable halone.of_cons.of_cons
    exact ⟨hpending, existing, hfound, fun comment heq => .inr (hexisting comment heq).2⟩

lemma applyReconciled_grounded (hheld : Held action h current)
    (hread : RowAlone h → Read publication action h existing) :
    (applyReconciled settings task publication current existing).Emits
      (reconcileScript publication action) (Concluded publication action) h := by
  unfold applyReconciled
  split
  · refine applyWrite_grounded hheld fun halone => ⟨none, hread halone, fun comment heq => ?_⟩
    cases heq
  rename_i comment
  split
  · rename_i hbody
    split
    · rename_i hreplaceable
      refine applyWrite_grounded hheld fun halone => ⟨some comment, hread halone, ?_⟩
      intro comment' heq
      cases heq
      refine ⟨hbody, ?_⟩
      rw [← (hheld.same halone).replaceable]
      exact hreplaceable
    · refine review_grounded hheld rfl rfl rfl ?_
      exact (by decide : ("reconciled_content_mismatch" : String) ≠ "reconciled_succeeded")
  · rename_i hbody
    have hbody' : bodyFingerprint comment.body = publication.desiredFingerprint := by
      simpa using hbody
    refine emits_checkOwnership (success_grounded (fun halone _ => ?_) fun a halone => ?_)
      fun _ => concluded_error
    · exact ⟨⟨current, hheld, rfl⟩, rfl, comment, hread halone, rfl, hbody'⟩
    · have hstatus := (halone.last hheld.head rfl).1
      refine ⟨hheld.reconciling halone.of_cons.of_cons hstatus, some comment,
        hread halone.of_cons.of_cons, fun comment' heq => ?_⟩
      cases heq
      exact .inl hbody'

/-- A run that reconciles the row does nothing to a comment without a ground. -/
theorem reconcileAndApply_grounded (hhead : (returnedActions h).head? = some action) :
    (reconcileAndApply settings task publication action).Emits
      (reconcileScript publication action) (Concluded publication action) h := by
  unfold reconcileAndApply
  rw [Prog.bind_eq, Prog.emits_bind]
  refine Prog.emits_mono (startReconciliation_grounded hhead) fun h r hheld => ?_
  cases r with
  | error x => exact concluded_error
  | ok current =>
    refine emits_checkCancelled ?_ fun _ => concluded_error
    rw [Prog.bind_eq, Prog.emits_bind, Prog.emits_attempt]
    refine Prog.emits_mono (reconcileComment_grounded (hheld current rfl))
      fun h r ⟨hheld, hread⟩ => ?_
    dsimp only
    split
    · exact failure_grounded
        (by decide : ("reconciliation_retryable_failure" : String) ≠ "reconciled_succeeded")
    · exact review_grounded hheld rfl rfl rfl
        (by decide : ("reconciliation_needs_human_review" : String) ≠ "reconciled_succeeded")
    · exact concluded_error
    · rename_i existing heq
      exact applyReconciled_grounded hheld fun halone => hread existing (by simp) halone

omit [Runtime] in
/-- A program that reads no comments leaves those last read. -/
lemma lastRead_trace {β : Type} {p : Handler β}
    (hp : p.Issues fun e : Effect => e.readsComments = false)
    {r : Except Exn β} (htrace : p.Trace h h' r) : lastRead h' = lastRead h := by
  induction p generalizing h with
  | ret a => rw [htrace.1]
  | raise x => rw [htrace.1]
  | look k ih =>
    obtain ⟨s, hs⟩ := htrace
    exact ih s (hp s) hs
  | call e k ih =>
    obtain ⟨answer, hrest⟩ := htrace
    refine (ih answer (hp.2 answer) hrest).trans ?_
    have he := hp.1
    cases e <;> first | rfl | cases he

lemma Read.trace {β : Type} {p : Handler β} {r : Except Exn β}
    (hread : Read publication action h existing)
    (hp : p.Issues fun e : Effect => e.readsComments = false) (htrace : p.Trace h h' r) :
    Read publication action h' existing :=
  hread.mono htrace.suffix.subset (lastRead_trace hp htrace)

omit [Runtime] in
/-- A reconciliation that has read comments has found what to go on with, or calls for a human. -/
lemma reconcileComment_reads {repository marker : String} {issueNumber : ℤ} {e : Effect}
    {answer : e.Answer} {r : Except Exn (Option GitHubComment)} (he : e.readsComments = true)
    (htrace : (reconcileComment current repository issueNumber marker).Trace h h' r)
    (hsince : Past.Since h h' (.answered e (.ok answer))) :
    (∃ existing, r = .ok existing) ∨
      ∃ code reason, r = .error (.reconciliationNeedsReview code reason) := by
  have hfailed : ∀ {e' : Effect} {x : Exn} {h : SyncPast},
      Past.Since h (.answered e' (.error x) :: .issued e' :: h) (.answered e (.ok answer)) →
        False := by
    intro e' x h hsince
    rcases Past.since_cons.1 hsince with ⟨heq, -⟩ | hsince
    · cases heq
    rcases Past.since_cons.1 hsince with ⟨heq, -⟩ | hsince
    · cases heq
    · exact Past.not_since hsince
  unfold reconcileComment at htrace
  split at htrace
  · obtain ⟨found, hrest⟩ := htrace
    rcases found with x | (_ | comment)
    · obtain ⟨rfl, rfl⟩ := hrest
      exact (hfailed hsince).elim
    · exact .inr ⟨_, _, hrest.2⟩
    · change Prog.Trace (if _ then _ else _) _ _ _ at hrest
      split at hrest
      · exact .inl ⟨_, hrest.2⟩
      · exact .inr ⟨_, _, hrest.2⟩
  · have hholdoff : (reconciliationHoldoff current).Issues
        fun e : Effect => e.readsComments = false := by
      unfold reconciliationHoldoff
      split
      · exact Prog.issues_perform.2 rfl
      · trivial
    have hunread : ∀ {h₁ : SyncPast} {r : Except Exn Duration},
        (reconciliationHoldoff current).Trace h h₁ r →
          ¬Past.Since h h₁ (.answered e (.ok answer)) := by
      intro h₁ r hheld hsince
      rw [hholdoff.since hheld hsince] at he
      cases he
    rcases Prog.trace_bind htrace with ⟨x, hheld, -⟩ | ⟨holdoff, h₁, hheld, hrest⟩
    · exact absurd hsince (hunread hheld)
    split at hrest
    · obtain ⟨rfl, -⟩ := hrest
      exact absurd hsince (hunread hheld)
    · obtain ⟨search, hrest⟩ := hrest
      rcases search with x | search
      · obtain ⟨rfl, -⟩ := hrest
        rcases hsince.split ((List.suffix_cons _ _).trans (List.suffix_cons _ _)) with hnew | hold
        · exact (hfailed hnew).elim
        · exact absurd hold (hunread hheld)
      · change Prog.Trace (if _ then _ else if _ then _ else _) _ _ _ at hrest
        split at hrest
        · exact .inr ⟨_, _, hrest.2⟩
        split at hrest
        · exact .inr ⟨_, _, hrest.2⟩
        · exact .inl ⟨_, hrest.2⟩

/-- The task has asked that the row, which it is reconciling, be left to a human. -/
def AsksReview (task : TaskExecution) (action : ExternalAction) (h₀ h : SyncPast) : Prop :=
  ∃ request, Past.Since h₀ h (.issued (.transition request)) ∧
    request.fence = task.executionFence ∧ request.actionId = action.id ∧
    request.expectedStatuses = [.reconciling] ∧ request.newStatus = .needsHumanReview

omit [Runtime] in
/-- A run that awaits a transition to human review has asked for it. -/
lemma asksReview_of_trace {request : TransitionRequest} {β : Type}
    {f : ExternalAction → Handler β} {r : Except Exn β} {h₀ : SyncPast} (hsuffix : h₀ <:+ h)
    (hfence : request.fence = task.executionFence) (hid : request.actionId = action.id)
    (hexpected : request.expectedStatuses = [.reconciling])
    (hnew : request.newStatus = .needsHumanReview)
    (htrace : ((perform (.transition request)).bind f).Trace h h' r) :
    AsksReview task action h₀ h' := by
  obtain ⟨answer, hrest⟩ := htrace
  obtain ⟨later, rfl⟩ := hrest.suffix
  exact ⟨request, ⟨later ++ [.answered (.transition request) answer], h, by simp, hsuffix⟩, hfence,
    hid, hexpected, hnew⟩

/-- A run that is not to publish what it has read leaves the row to a human. -/
lemma applyReconciled_reviews {h₀ : SyncPast} {r : Except Exn DeploymentContextResult}
    (hsuffix : h₀ <:+ h) (hsame : SameBinding action current)
    (hread : Read publication action h existing)
    (htrace : (applyReconciled settings task publication current existing).Trace h h' r) :
    AsksReview task action h₀ h' ∨ ∃ existing, Read publication action h' existing ∧
      ∀ comment, existing = some comment →
        bodyFingerprint comment.body = publication.desiredFingerprint ∨
          replaceable action publication.desiredFingerprint = true := by
  have hread' : Read publication action h' existing :=
    hread.trace (applyReconciled_issues.mono fun _ he => he.2) htrace
  cases existing with
  | none => exact .inr ⟨none, hread', fun _ heq => by cases heq⟩
  | some comment =>
    by_cases hbody : bodyFingerprint comment.body = publication.desiredFingerprint
    · exact .inr ⟨some comment, hread', fun _ heq => by cases heq; exact .inl hbody⟩
    by_cases hreplaceable : replaceable action publication.desiredFingerprint = true
    · exact .inr ⟨some comment, hread', fun _ heq => by cases heq; exact .inr hreplaceable⟩
    · rw [← hsame.replaceable] at hreplaceable
      unfold applyReconciled at htrace
      dsimp only at htrace
      rw [if_pos hbody, if_neg hreplaceable] at htrace
      exact .inl (asksReview_of_trace hsuffix rfl hsame.id rfl rfl htrace)

/-- A run that has read comments for the row leaves the row to a human, unless what it has read
has the desired content or is written over. -/
theorem reconcileAndApply_reviews {e : Effect} {answer : e.Answer}
    {r : Except Exn DeploymentContextResult} (hhead : (returnedActions h).head? = some action)
    (htrace : (reconcileAndApply settings task publication action).Trace h h' r)
    (halone : RowAlone h') (he : e.readsComments = true)
    (hsince : Past.Since h h' (.answered e (.ok answer))) :
    AsksReview task action h h' ∨ ∃ existing, Read publication action h' existing ∧
      ∀ comment, existing = some comment →
        bodyFingerprint comment.body = publication.desiredFingerprint ∨
          replaceable action publication.desiredFingerprint = true := by
  have hstart : (startReconciliation task action).Issues
      fun e : Effect => e.readsComments = false := by
    unfold startReconciliation
    split
    · trivial
    · exact Prog.issues_perform.2 rfl
  have hunread : ∀ {h₁ : SyncPast} {r : Except Exn ExternalAction},
      (startReconciliation task action).Trace h h₁ r →
        ¬Past.Since h h₁ (.answered e (.ok answer)) := by
    intro h₁ r hstarted hsince
    rw [hstart.since hstarted hsince] at he
    cases he
  rcases Prog.trace_bind htrace with ⟨x, hstarted, -⟩ | ⟨current, h₁, hstarted, hchecked⟩
  · exact absurd hsince (hunread hstarted)
  have hgrounded : (startReconciliation task action).Emits (reconcileScript publication action)
      (fun h r => ∀ current, r = .ok current → Held action h current) h :=
    startReconciliation_grounded hhead
  have hheld : Held action h₁ current := hgrounded.of_trace hstarted current rfl
  have hsilent : raiseIfCancelled.Issues fun _ => False := issues_raiseIfCancelled
  rcases Prog.trace_bind hchecked with ⟨x, hstopped, -⟩ | ⟨u, h₂, hpassed, hattempted⟩
  · rw [hsilent.trace_silent hstopped] at hsince
    exact absurd hsince (hunread hstarted)
  obtain rfl := hsilent.trace_silent hpassed
  obtain ⟨r₁, h₃, hreconciled, hrest⟩ := Prog.trace_attempt_bind hattempted
  have hsuffix : h <:+ h₃ := hstarted.suffix.trans hreconciled.suffix
  have halone₃ : RowAlone h₃ := halone.of_suffix hrest.suffix
  have hsame := hheld.same (halone₃.of_suffix hreconciled.suffix)
  rcases hsince.split hrest.suffix with hlater | hsince
  · refine absurd (Prog.Issues.since (P := fun e : Effect => e.readsComments = false) ?_ hrest
      hlater) (by simp [he])
    dsimp only
    split
    · exact issues_await rfl fun _ => trivial
    · exact issues_await rfl fun _ => Prog.issues_ofExcept
    · trivial
    · exact applyReconciled_issues.mono fun _ he => he.2
  rcases hsince.split hreconciled.suffix with hsince | hearlier
  · rcases reconcileComment_reads he hreconciled hsince with ⟨existing, rfl⟩ | ⟨code, reason, rfl⟩
    · have hread : Read publication action h₃ existing :=
        ((reconcileComment_grounded hheld).of_trace hreconciled).2 existing rfl halone₃
      exact applyReconciled_reviews hsuffix hsame hread hrest
    · exact .inl (asksReview_of_trace hsuffix rfl hsame.id rfl rfl hrest)
  · exact absurd hearlier (hunread hstarted)

end Reconciling

/-! ## What a run may come to do -/

/-- The await writes the comment. -/
def Effect.writesComment : Effect → Bool
  | .createComment _ _ _ | .updateComment _ _ _ => true
  | _ => false

section Possible

variable {h₀ h₁ h₂ h : SyncPast}

variable [Runtime] {settings : Settings} {task : TaskExecution} {publication : Publication}
  {action current : ExternalAction} {comment : GitHubComment}

lemma reconcileAndApply_trace (publication : Publication) {existing : Option GitHubComment}
    {r : Except Exn DeploymentContextResult}
    (hstart : (startReconciliation task action).Trace h₀ h₁ (.ok current))
    (hread : (reconcileComment current publication.repository publication.issueNumber
      (safeMarker current.actionScopeKey)).Trace h₁ h₂ (.ok existing))
    (hrest : (applyReconciled settings task publication current existing).Trace h₂ h r) :
    (reconcileAndApply settings task publication action).Trace h₀ h r := by
  unfold reconcileAndApply
  refine Prog.trace_bind_ok hstart (trace_checkCancelled ?_)
  exact Prog.trace_bind_ok (Prog.trace_attempt hread) hrest

omit [Runtime] in
lemma startReconciliation_trace (hpending : action.status ∈ reconcilable)
    (hreconciling : action.status ≠ .reconciling) (now : Timestamp) :
    (startReconciliation task action).Trace h
      (.answered (.transition (reconciliationStarted task action))
          (.ok (transitioned now (reconciliationStarted task action) action)) ::
        .issued (.transition (reconciliationStarted task action)) :: h)
      (.ok (transitioned now (reconciliationStarted task action) action)) := by
  unfold startReconciliation
  rw [if_neg]
  · exact ⟨.ok _, rfl, rfl⟩
  · rintro (heq | heq)
    · exact hreconciling heq
    · rw [heq] at hpending
      exact absurd hpending (by decide)

lemma boundComment_trace {identifier : String} {issueNumber : ℤ} (publication : Publication)
    (h : SyncPast)
    (hrow : current.providerResourceIdentifier = some identifier)
    (hmarker : substring (safeMarker current.actionScopeKey) comment.body = true) :
    (reconcileComment current publication.repository issueNumber
      (safeMarker current.actionScopeKey)).Trace h
      (.answered (.getComment publication.repository identifier) (.ok (some comment)) ::
        .issued (.getComment publication.repository identifier) :: h) (.ok (some comment)) := by
  unfold reconcileComment
  rw [hrow]
  dsimp only
  unfold boundComment
  refine trace_await (some comment) ?_
  dsimp only
  rw [if_pos hmarker]
  exact ⟨rfl, rfl⟩

omit [Runtime] in
lemma searchComments_trace {issueNumber : ℤ} {marker : String} (publication : Publication)
    (h : SyncPast) (hrow : current.providerResourceIdentifier = none) :
    ∃ h₁, (h₁ = h ∨ h₁ = .answered (.reconciliationDelaySeconds current.id) (.ok 0) ::
        .issued (.reconciliationDelaySeconds current.id) :: h) ∧
      (reconcileComment current publication.repository issueNumber marker).Trace h
        (.answered (.findCommentsByMarker publication.repository issueNumber marker)
            (.ok ⟨[comment], true⟩) ::
          .issued (.findCommentsByMarker publication.repository issueNumber marker) :: h₁)
        (.ok (some comment)) := by
  have hsearch : ∀ {h : SyncPast},
      (searchComments publication.repository issueNumber marker).Trace h
      (.answered (.findCommentsByMarker publication.repository issueNumber marker)
          (.ok ⟨[comment], true⟩) ::
        .issued (.findCommentsByMarker publication.repository issueNumber marker) :: h)
      (.ok (some comment)) := fun {h} => trace_await ⟨[comment], true⟩ ⟨rfl, rfl⟩
  unfold reconcileComment
  rw [hrow]
  dsimp only
  unfold reconciliationHoldoff
  split
  · exact ⟨_, .inr rfl, trace_await 0 hsearch⟩
  · exact ⟨h, .inl rfl, hsearch⟩

/-- The write of the comment that a row calls for. -/
def writeEffect (publication : Publication) (action : ExternalAction) : Effect :=
  match action.providerResourceIdentifier with
  | none => .createComment publication.repository publication.issueNumber publication.body
  | some identifier => .updateComment publication.repository identifier publication.body

omit [Runtime] in
lemma writeEffect_writesComment : (writeEffect publication action).writesComment = true := by
  unfold writeEffect
  split
  · rfl
  · rfl

/-- The row as a run readies it for the write. -/
def readied (task : TaskExecution) (now : Timestamp) (current : ExternalAction) :
    ExternalAction :=
  transitioned now (reconciliationCompletedNoMatch task current) current

/-- The row as a run announces the write. -/
def announced (settings : Settings) (task : TaskExecution) (now : Timestamp)
    (current : ExternalAction) : ExternalAction :=
  transitioned now (writeStarted settings task (readied task now current))
    (readied task now current)

/-- The two transitions that lead to the write of a comment. -/
def writeAnnounced (settings : Settings) (task : TaskExecution) (now : Timestamp)
    (current : ExternalAction) (h : SyncPast) : SyncPast :=
  .answered (.transition (writeStarted settings task (readied task now current)))
      (.ok (announced settings task now current)) ::
    .issued (.transition (writeStarted settings task (readied task now current))) ::
    .answered (.transition (reconciliationCompletedNoMatch task current))
      (.ok (readied task now current)) ::
    .issued (.transition (reconciliationCompletedNoMatch task current)) :: h

/-- The write that a run comes to, and to which it gets no answer. -/
lemma applyWrite_trace (now : Timestamp) :
    (applyWrite settings task publication current).Trace h
      (.answered (writeEffect publication current) (.error .noResultFound) ::
        .issued (writeEffect publication current) :: writeAnnounced settings task now current h)
      (.error .noResultFound) := by
  refine trace_await (readied task now current) (trace_checkCancelled ?_)
  refine trace_await (announced settings task now current) (trace_checkCancelled ?_)
  unfold writeComment writeEffect
  cases hrow : current.providerResourceIdentifier with
  | none =>
    have hannounced : (announced settings task now current).providerResourceIdentifier = none :=
      hrow
    rw [hannounced]
    exact ⟨.error .noResultFound, rfl, rfl⟩
  | some identifier =>
    have hannounced : (announced settings task now current).providerResourceIdentifier =
        some identifier := hrow
    rw [hannounced]
    exact ⟨.error .noResultFound, rfl, rfl⟩

omit [Runtime] in
lemma writeAnnounced_alone (now : Timestamp) (halone : RowAlone h)
    (hhead : (returnedActions h).head? = some current) (hstatus : current.status = .reconciling) :
    RowAlone (writeAnnounced settings task now current h) := by
  have hready : RowAlone (.answered (.transition (reconciliationCompletedNoMatch task current))
      (.ok (readied task now current)) ::
      .issued (.transition (reconciliationCompletedNoMatch task current)) :: h) := by
    refine RowAlone.answer halone.issued fun row hrow _ => ?_
    obtain rfl : current = row := Option.some.inj (hhead.symm.trans hrow)
    exact ⟨List.mem_singleton.2 hstatus, now, rfl⟩
  refine RowAlone.answer hready.issued fun row hrow _ => ?_
  obtain rfl : readied task now current = row := Option.some.inj hrow
  exact ⟨List.mem_singleton.2 rfl, now, rfl⟩

/-- Whatever else the comment says, a run may come to write over it at a later revision. -/
lemma overwrites_trace {identifier : String} (hhead : (returnedActions h₀).head? = some action)
    (halone : RowAlone h₀) (hstatus : action.status = .reconciling)
    (hrow : action.providerResourceIdentifier = some identifier)
    (hmarker : substring (safeMarker action.actionScopeKey) comment.body = true)
    (hbody : bodyFingerprint comment.body ≠ publication.desiredFingerprint)
    (hreplaceable : replaceable action publication.desiredFingerprint = true) :
    ∃ h r, (reconcileAndApply settings task publication action).Trace h₀ h r ∧ RowAlone h ∧
      lastRead h = some [comment] ∧
      .issued (.updateComment publication.repository identifier publication.body) ∈ h := by
  have hstart : (startReconciliation task action).Trace h₀ h₀ (.ok action) := by
    unfold startReconciliation
    rw [if_pos (.inl hstatus)]
    exact ⟨rfl, rfl⟩
  let read : SyncPast := .answered (.getComment publication.repository identifier)
    (.ok (some comment)) :: .issued (.getComment publication.repository identifier) :: h₀
  have hread : (reconcileComment action publication.repository publication.issueNumber
      (safeMarker action.actionScopeKey)).Trace h₀ read (.ok (some comment)) :=
    boundComment_trace publication h₀ hrow hmarker
  have hrest : (applyWrite settings task publication action).Trace read
      (.answered (writeEffect publication action) (.error .noResultFound) ::
        .issued (writeEffect publication action) :: writeAnnounced settings task 0 action read)
      (.error .noResultFound) := applyWrite_trace 0
  have heffect : writeEffect publication action =
      .updateComment publication.repository identifier publication.body := by
    rw [writeEffect, hrow]
  rw [heffect] at hrest
  have hread' : RowAlone read := halone.await fun _ heq => by cases heq
  have happlied : (applyReconciled settings task publication action (some comment)).Trace read
      (.answered (.updateComment publication.repository identifier publication.body)
          (.error .noResultFound) ::
        .issued (.updateComment publication.repository identifier publication.body) ::
        writeAnnounced settings task 0 action read)
      (.error .noResultFound) := by
    unfold applyReconciled
    dsimp only
    rw [if_pos hbody, if_pos hreplaceable]
    exact hrest
  exact ⟨_, _, reconcileAndApply_trace publication hstart hread happlied,
    (writeAnnounced_alone 0 hread' hhead hstatus).failed, rfl,
    List.mem_cons_of_mem _ List.mem_cons_self⟩

omit [Runtime] in
lemma actionReference_of_ne (h : action.status ≠ .succeeded) :
    ∃ reference, actionReference action = .ok reference := by
  rw [actionReference, if_neg fun hsucceeded => h hsucceeded.1]
  exact ⟨_, rfl⟩

/-- Other content than is desired, where it may not be written over, ends the run in review. -/
lemma mismatch_trace {identifier : String} (now : Timestamp)
    (hhead : (returnedActions h₀).head? = some action)
    (halone : RowAlone h₀) (hstatus : action.status = .reconciling)
    (hrow : action.providerResourceIdentifier = some identifier)
    (hmarker : substring (safeMarker action.actionScopeKey) comment.body = true)
    (hbody : bodyFingerprint comment.body ≠ publication.desiredFingerprint)
    (hfinal : replaceable action publication.desiredFingerprint = false) :
    ∃ h result,
      (reconcileAndApply settings task publication action).Trace h₀ h (.ok result) ∧
      RowAlone h ∧ lastRead h = some [comment] ∧
      Past.Since h₀ h
        (.answered (.getComment publication.repository identifier) (.ok (some comment))) := by
  have hstart : (startReconciliation task action).Trace h₀ h₀ (.ok action) := by
    unfold startReconciliation
    rw [if_pos (.inl hstatus)]
    exact ⟨rfl, rfl⟩
  let read : SyncPast := .answered (.getComment publication.repository identifier)
    (.ok (some comment)) :: .issued (.getComment publication.repository identifier) :: h₀
  let mismatch := reconciledContentMismatch task action
  have hread : (reconcileComment action publication.repository publication.issueNumber
      (safeMarker action.actionScopeKey)).Trace h₀ read (.ok (some comment)) :=
    boundComment_trace publication h₀ hrow hmarker
  have hread' : RowAlone read := halone.await fun _ heq => by cases heq
  have hresult : ∃ result, actionReviewResult publication.decision publication.references
      (transitioned now mismatch action) .reconciliationInconclusive
      "The matching GitHub comment does not contain the expected revision." = .ok result := by
    have hreview : (transitioned now mismatch action).status ≠ .succeeded :=
      (by decide : ExternalActionStatus.needsHumanReview ≠ .succeeded)
    obtain ⟨reference, hreference⟩ := actionReference_of_ne hreview
    rw [actionReviewResult, successResult, hreference]
    exact ⟨_, rfl⟩
  obtain ⟨result, hresult⟩ := hresult
  have happlied : (applyReconciled settings task publication action (some comment)).Trace read
      (.answered (.transition mismatch) (.ok (transitioned now mismatch action)) ::
        .issued (.transition mismatch) :: read) (.ok result) := by
    unfold applyReconciled
    dsimp only
    rw [if_pos hbody, if_neg (by rw [hfinal]; decide), ← hresult]
    exact trace_await (transitioned now mismatch action) (Prog.trace_ofExcept _)
  refine ⟨_, result, reconcileAndApply_trace publication hstart hread happlied, ?_, rfl,
    [_, _], _, rfl, List.suffix_cons _ _⟩
  refine RowAlone.answer hread'.issued fun row hrow _ => ?_
  obtain rfl : action = row := Option.some.inj (hhead.symm.trans hrow)
  exact ⟨List.mem_singleton.2 hstatus, now, rfl⟩

end Possible

/-- The transitions that only `_reconcile_and_apply` makes. -/
def reconcileTransitions : List String :=
  ["reconciliation_started", "reconciliation_retryable_failure",
    "reconciliation_needs_human_review", "reconciled_content_mismatch", "reconciled_succeeded",
    "reconciliation_completed_no_match", "write_started", "write_outcome_unknown",
    "write_retryable_failure", "write_permanent_failure", "write_succeeded"]

/-- The await is one that only `_reconcile_and_apply` makes. -/
def Effect.reconciles : Effect → Bool
  | .transition request => reconcileTransitions.contains request.transition
  | e => e.writesComment

lemma writesComment_eq_false {e : Effect} (he : e.reconciles = false) :
    e.writesComment = false := by
  cases e <;> first | rfl | exact he

/-- The await moves a row or writes its comment. -/
def Effect.moves : Effect → Bool
  | .transition _ => true
  | e => e.writesComment

lemma moves_eq_false {e : Effect} (he : e.moves = false) : e.reconciles = false := by
  cases e <;> first | rfl | exact he | cases he

/-- The row that the last reservation has replayed. -/
def replayed : SyncPast → Option ExternalAction
  | [] => none
  | .answered (.reserveOrGet _) (.ok reservation) :: _ =>
    if ActionReservation.kind reservation = .replay then some reservation.action else none
  | _ :: h => replayed h

/-- The statuses of a row that nobody is to work on any more. -/
def settledStatuses : List ExternalActionStatus :=
  [.succeeded, .needsHumanReview, .permanentFailure]

/-- The row that the last reservation or revision has given. -/
def handed : SyncPast → Option ExternalAction
  | [] => none
  | .answered (.reserveOrGet _) (.ok reservation) :: _ => some reservation.action
  | .answered (.revise _) (.ok a) :: _ => some a
  | _ :: h => handed h

/-- The ledger has given the rows that were asked for, of the content that was asked for. -/
structure AsAsked (h : SyncPast) : Prop where
  reserved : ∀ request reservation, .answered (.reserveOrGet request) (.ok reservation) ∈ h →
    ActionReservation.kind reservation = .created ∨ ActionReservation.kind reservation = .replay →
      (ActionReservation.action reservation).desiredRequestFingerprint =
        ReservationRequest.desiredRequestFingerprint request
  revised : ∀ request a, .answered (.revise request) (.ok a) ∈ h →
    ExternalAction.desiredRequestFingerprint a = RevisionRequest.desiredRequestFingerprint request
  moved : ∀ request a, .answered (.transition request) (.ok a) ∈ h →
    ExternalAction.id a = TransitionRequest.actionId request

lemma AsAsked.mono {h h' : SyncPast} (hasked : AsAsked h') (hsub : h ⊆ h') : AsAsked h where
  reserved request reservation hmem := hasked.reserved request reservation (hsub hmem)
  revised request a hmem := hasked.revised request a (hsub hmem)
  moved request a hmem := hasked.moved request a (hsub hmem)

/-- The ledger has given rows of the scopes and of the providers that were asked for. -/
structure Placed (h : SyncPast) : Prop where
  reserved : ∀ request reservation, .answered (.reserveOrGet request) (.ok reservation) ∈ h →
    (ActionReservation.action reservation).actionScopeKey =
        ReservationRequest.actionScopeKey request ∧
      (ActionReservation.action reservation).provider = ReservationRequest.provider request
  moved : ∀ request a, .answered (.transition request) (.ok a) ∈ h →
    ExternalAction.id a = TransitionRequest.actionId request
  revised : ∀ request a, .answered (.revise request) (.ok a) ∈ h →
    ExternalAction.id a = RevisionRequest.actionId request
  same : ∀ a ∈ returnedActions h, ∀ b ∈ returnedActions h, a.id = b.id →
    a.actionScopeKey = b.actionScopeKey ∧ a.provider = b.provider

/-- A later past has returned the rows of an earlier one, and maybe more. -/
lemma returnedActions_suffix {h h' : SyncPast} (hsuffix : h <:+ h') :
    returnedActions h <:+ returnedActions h' := by
  obtain ⟨later, rfl⟩ := hsuffix
  induction later with
  | nil => exact List.suffix_refl _
  | cons act later ih =>
    refine ih.trans ?_
    rw [List.cons_append]
    cases act with
    | issued | ended => exact List.suffix_refl _
    | answered e r =>
      cases e <;> cases r <;> first | exact List.suffix_refl _ | exact List.suffix_cons _ _

lemma Placed.of_suffix {h h' : SyncPast} (hplaced : Placed h') (hsuffix : h <:+ h') :
    Placed h where
  reserved request reservation hmem :=
    hplaced.reserved request reservation (hsuffix.subset hmem)
  moved request a hmem := hplaced.moved request a (hsuffix.subset hmem)
  revised request a hmem := hplaced.revised request a (hsuffix.subset hmem)
  same a ha b hb :=
    hplaced.same a ((returnedActions_suffix hsuffix).subset ha) b
      ((returnedActions_suffix hsuffix).subset hb)

/-- The comment of the publication is rendered for the row. -/
structure Publishes [Runtime] (publication : Publication) (action : ExternalAction) : Prop where
  provider : action.provider = .github
  rendered : ∃ decision service github jira,
    renderGithubComment action.actionScopeKey decision service github jira = .ok publication.body

/-- `action` is the row of the publication, as the run has just been given it. -/
structure Handed [Runtime] (publication : Publication) (action : ExternalAction) (h : SyncPast) :
    Prop where
  head : (returnedActions h).head? = some action
  given : handed h = some action
  content : AsAsked h → action.desiredRequestFingerprint = publication.desiredFingerprint
  publishes : Placed h → Publishes publication action
  replayed : ∀ a, replayed h = some a → a = action ∧ action.status ∉ settledStatuses

section Execution

variable [Runtime] {handler : DeploymentContextSyncHandler} {settings : Settings}
  {task : TaskExecution} {taskInput : DeploymentContextSyncInput} {publication : Publication}
  {action : ExternalAction} {evaluation : PolicyEvaluation} {service : ServiceCatalogRecord}
  {references : List SourceReference} {h : SyncPast}
  {script : Script handlerSignature DeploymentContextResult}

omit [Runtime] in
/-- A program whose awaits a script always allows. -/
lemma emits_free {β : Type} {p : Handler β} {P : Effect → Prop}
    (hfree : ∀ h e, P e → script h (.issued e)) (hp : p.Issues P) :
    p.Emits script (fun _ _ => True) h :=
  hp.emits (I := fun _ => True) (fun _ _ _ => trivial) (fun h e _ he => hfree h e he) trivial

/-- The revision of the row `action` by a run with the past `h` has given it the row `a`. -/
structure Revision (publication : Publication) (action : ExternalAction) (h h' : SyncPast)
    (a : ExternalAction) : Prop where
  head : (returnedActions h').head? = some a
  given : handed h' = some a
  content : AsAsked h' → a.desiredRequestFingerprint = publication.desiredFingerprint
  replayed : replayed h' = replayed h
  suffix : h <:+ h'
  same : Placed h' → a.actionScopeKey = action.actionScopeKey ∧ a.provider = action.provider

/-- A revision is reconciled with the row that it has written, and replays no other. -/
lemma prepareControlledRevision_row {snapshotHash : Digest}
    (hfree : ∀ h e, Effect.moves e = false → script h (.issued e))
    (haction : action ∈ returnedActions h) :
    (prepareControlledRevision task publication action service snapshotHash).Emits script
      (fun h' r => ∀ a, r = .ok (.inl a) → Revision publication action h h' a) h := by
  have hresult : ∀ {h'} (r : Except Exn DeploymentContextResult),
      (Prog.ofExcept (r.map .inr) : Handler (ExternalAction ⊕ DeploymentContextResult)).Emits script
        (fun h' r => ∀ a, r = .ok (.inl a) → Revision publication action h h' a) h' := by
    intro h' r
    rw [Prog.emits_ofExcept]
    intro a heq
    cases r with
    | error x => cases heq
    | ok result => cases heq
  have herror : ∀ {h' : SyncPast} (x : Exn) (a : ExternalAction),
      (.error x : Except Exn (ExternalAction ⊕ DeploymentContextResult)) = .ok (.inl a) →
        Revision publication action h h' a :=
    fun x a heq => by cases heq
  unfold prepareControlledRevision
  split
  · split
    · exact hresult _
    refine emits_checkCancelled (emits_providerCall (hfree _ _ rfl) (fun found => ?_)
      fun _ => herror) herror
    split
    · exact hresult _
    refine emits_checkCancelled (emits_await (hfree _ _ rfl) (fun a b heq => ?_) fun x => herror x)
      herror
    cases heq
    refine ⟨rfl, rfl, fun hasked => hasked.revised _ a List.mem_cons_self, rfl,
      ⟨[_, _, _, _], rfl⟩, fun hplaced => ?_⟩
    exact hplaced.same a List.mem_cons_self action (List.mem_cons_of_mem a haction)
      (hplaced.revised _ a List.mem_cons_self)
  · exact hresult _

/-- What is known of `reconcileAndApply` after every past holds of it in the whole run. -/
def Reconciles (script : Script handlerSignature DeploymentContextResult) : Prop :=
  ∀ settings task publication action h,
    Publication.desiredFingerprint publication = bodyFingerprint publication.body →
      (returnedActions h).head? = some action →
        (reconcileAndApply settings task publication action).Emits script (fun _ _ => True) h

/-- What is known of `reconcileAndApply` after the pasts in which it has been handed its row holds
of it in the whole run. -/
def Resumes (script : Script handlerSignature DeploymentContextResult) : Prop :=
  ∀ settings task publication action h,
    Publication.desiredFingerprint publication = bodyFingerprint publication.body →
      Handed publication action h →
        (reconcileAndApply settings task publication action).Emits script (fun _ _ => True) h

lemma Reconciles.resumes (hreconcile : Reconciles script) : Resumes script :=
  fun settings task publication action h hdesired hhanded =>
    hreconcile settings task publication action h hdesired hhanded.head

lemma applyReservation_keepsTo {snapshotHash : Digest} {reservation : ActionReservation}
    (hfree : ∀ h e, Effect.moves e = false → script h (.issued e))
    (hresume : Resumes script)
    (hdesired : publication.desiredFingerprint = bodyFingerprint publication.body)
    (hhead : (returnedActions h).head? = some reservation.action)
    (hgiven : handed h = some reservation.action)
    (hcontent : AsAsked h → reservation.kind = .created ∨ reservation.kind = .replay →
      reservation.action.desiredRequestFingerprint = publication.desiredFingerprint)
    (hpublishes : Placed h → Publishes publication reservation.action)
    (hreplayed : replayed h =
      if reservation.kind = .replay then some reservation.action else none) :
    (applyReservation settings task publication service snapshotHash reservation).Emits script
      (fun _ _ => True) h := by
  unfold applyReservation
  dsimp only
  split
  · exact Prog.emits_ofExcept.2 trivial
  rename_i hdrift
  split
  · rename_i hchanged
    rw [Prog.bind_eq, Prog.emits_bind]
    refine Prog.emits_mono (prepareControlledRevision_row hfree (List.mem_of_mem_head? hhead))
      fun h' r hrow => ?_
    cases r with
    | error x => trivial
    | ok prepared =>
      cases prepared with
      | inl a =>
        have hrevision := hrow a rfl
        refine hresume settings task publication a h' hdesired
          ⟨hrevision.head, hrevision.given, hrevision.content, fun hplaced => ?_, fun b hb => ?_⟩
        · obtain ⟨hscope, hprovider⟩ := hrevision.same hplaced
          obtain ⟨hgithub, hrendered⟩ := hpublishes (hplaced.of_suffix hrevision.suffix)
          exact ⟨hprovider.trans hgithub, hscope ▸ hrendered⟩
        · rw [hrevision.replayed, hreplayed, if_neg (by rw [hchanged]; decide)] at hb
          cases hb
      | inr result => trivial
  rename_i hchanged
  split
  · exact Prog.emits_ofExcept.2 trivial
  split
  · exact Prog.emits_ofExcept.2 trivial
  · rename_i hsucceeded hfailed
    have hagrees : reservation.kind = .created ∨ reservation.kind = .replay := by
      cases hkind : reservation.kind with
      | created => exact .inl rfl
      | replay => exact .inr rfl
      | changed => exact absurd hkind hchanged
      | sourceDrift => exact absurd hkind hdrift
    refine hresume settings task publication _ h hdesired
      ⟨hhead, hgiven, fun hasked => hcontent hasked hagrees, hpublishes, fun a ha => ?_⟩
    rw [hreplayed] at ha
    split at ha
    · rename_i hreplay
      refine ⟨(Option.some.inj ha).symm, ?_⟩
      simp only [settledStatuses, List.mem_cons, List.not_mem_nil, or_false]
      rintro (hstatus | hstatus | hstatus)
      · exact hsucceeded ⟨hreplay, hstatus⟩
      · exact hfailed ⟨hreplay, .inl hstatus⟩
      · exact hfailed ⟨hreplay, .inr hstatus⟩
    · cases ha

lemma publish_keepsTo {github : GitHubRepositoryContext} {jira : JiraWorkItem}
    (hfree : ∀ h e, Effect.moves e = false → script h (.issued e))
    (hresume : Resumes script) :
    (publish handler task taskInput evaluation service github jira references).Emits script
      (fun _ _ => True) h := by
  unfold publish
  refine emits_checked (fun scope _ => ?_) fun _ => trivial
  generalize hrendered : renderGithubComment scope _ service github jira = rendered
  refine emits_checked (fun body hbody => ?_) fun _ => trivial
  refine emits_checkCancelled ?_ fun _ => trivial
  rw [reserve, Prog.bind_eq, Prog.bind_eq, Prog.emits_bind, Prog.emits_bind, Prog.emits_attempt]
  refine Prog.emits_perform.2 ⟨hfree _ _ rfl, fun r => ?_⟩
  cases r with
  | ok reservation =>
    change Prog.Emits script (fun _ _ => True) (Prog.bind _ _) _
    rw [Prog.emits_bind]
    refine Prog.emits_mono (applyReservation_keepsTo hfree hresume rfl rfl rfl
      (fun hasked => hasked.reserved _ reservation List.mem_cons_self) (fun hplaced => ?_) rfl)
        fun h r _ => ?_
    · obtain ⟨hscope, hprovider⟩ := hplaced.reserved _ reservation List.mem_cons_self
      exact ⟨hprovider, _, service, github, jira, by rw [hscope]; exact hrendered.trans hbody⟩
    cases r with
    | error x => trivial
    | ok result => trivial
  | error x =>
    dsimp only
    split
    · rename_i heq
      cases heq
    · exact emits_checkCancelled trivial fun _ => trivial
    · trivial

omit [Runtime] in
/-- Recording evidence returns no row and writes no comment. -/
lemma emits_recorded {β γ : Type} {p : Handler γ} {f : γ → Handler β}
    (hfree : ∀ h e, Effect.moves e = false → script h (.issued e))
    (hp : p.Issues Recording) (hf : ∀ a h, (f a).Emits script (fun _ _ => True) h) :
    (p.bind f).Emits script (fun _ _ => True) h := by
  rw [Prog.emits_bind]
  refine Prog.emits_mono (emits_free hfree (hp.mono ?_)) fun h r _ => ?_
  · rintro e ⟨request, rfl⟩
    rfl
  cases r with
  | error x => trivial
  | ok a => exact hf a h

lemma readJira_keepsTo {github : GitHubRepositoryContext}
    (hfree : ∀ h e, Effect.moves e = false → script h (.issued e))
    (hresume : Resumes script) :
    (readJira handler task taskInput evaluation service github references).Emits script
      (fun _ _ => True) h := by
  refine emits_checkCancelled (emits_providerCall (hfree _ _ rfl) (fun jira => ?_)
    fun _ _ => trivial) fun _ => trivial
  refine emits_checkCancelled ?_ fun _ => trivial
  split
  · exact fun context => trivial
  · exact emits_recorded hfree recordJira_issues fun reference h => publish_keepsTo hfree hresume

lemma readGithub_keepsTo (hfree : ∀ h e, Effect.moves e = false → script h (.issued e))
    (hresume : Resumes script) :
    (readGithub handler task taskInput evaluation service references).Emits script
      (fun _ _ => True) h := by
  refine emits_checkCancelled (emits_providerCall (hfree _ _ rfl) (fun verified => ?_)
    fun _ _ => trivial) fun _ => trivial
  split
  · exact fun context => trivial
  refine emits_providerCall (hfree _ _ rfl) (fun github => ?_) fun _ _ => trivial
  refine emits_checkCancelled ?_ fun _ => trivial
  split
  · exact fun context => trivial
  split
  · exact fun context => trivial
  refine emits_recorded hfree recordGithub_issues fun reference h => ?_
  dsimp only
  split
  · exact fun context => trivial
  split
  · exact fun context => trivial
  split
  · exact fun context => trivial
  · exact readJira_keepsTo hfree hresume

lemma authoritative_keepsTo (hfree : ∀ h e, Effect.moves e = false → script h (.issued e))
    (hresume : Resumes script) :
    (authoritative handler task taskInput).Emits script (fun _ _ => True) h := by
  refine emits_checked (fun _ _ => emits_checkCancelled ?_ fun _ => trivial) fun _ => trivial
  split
  · exact fun context => trivial
  refine emits_providerCall (hfree _ _ rfl) (fun records => ?_) fun _ _ => trivial
  refine emits_checkCancelled (emits_recorded hfree recordCatalog_issues fun references h => ?_)
    fun _ => trivial
  split
  · exact fun context => trivial
  split
  · trivial
  · exact readGithub_keepsTo hfree hresume

lemma finish_issues_free {exit : Exit} :
    (finish handler task taskInput exit).Issues fun e : Effect => e.reconciles = false := by
  unfold finish
  split
  · trivial
  split
  · trivial
  refine issues_checked ?_
  split
  · trivial
  refine (deliver_issues.mono fun e he => ?_).bind fun result => trivial
  cases he <;> rfl

/-- A run keeps to a script about what only `reconcileAndApply` does where that does. -/
theorem execute_resumes [LaxCoercion] {input : JsonValue}
    (hfree : ∀ h e, Effect.reconciles e = false → script h (.issued e))
    (hresume : Resumes script) :
    (handler.execute task input).Emits script (fun _ _ => True) h := by
  unfold execute
  split
  · trivial
  rw [Prog.bind_eq, Prog.emits_bind]
  refine Prog.emits_mono (authoritative_keepsTo (fun h e he => hfree h e (moves_eq_false he))
    hresume) fun h r _ => ?_
  cases r with
  | error x => trivial
  | ok exit => exact emits_free hfree finish_issues_free

/-- A run keeps to a script about its writes of the comment where `reconcileAndApply` does. -/
theorem execute_keepsTo [LaxCoercion] {input : JsonValue}
    (hfree : ∀ h e, Effect.writesComment e = false → script h (.issued e))
    (hreconcile : Reconciles script) :
    (handler.execute task input).Emits script (fun _ _ => True) h :=
  execute_resumes (fun h e he => hfree h e (writesComment_eq_false he)) hreconcile.resumes

end Execution

end DeploymentLab
