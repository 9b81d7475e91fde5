import DeploymentLab.Model.Connectors
import DeploymentLab.Proofs.Reconciliation

/-!
# Whose comments are bound

GitHub says who has written a comment, and the connector does not read it: a comment is told by
its identifier or its marker and judged by its body. Reconciliation keeps to the comments of its
own principal exactly where the comment that it finds is one of them, or is of no use to it.
-/

namespace DeploymentLab

open Interaction HandlerContext DeploymentContextSyncHandler ExternalActionRepository

section Authors

variable [Runtime] [Calendar] (client : GitHubClient) (issue : IssueComments)
  (settings : Settings) (task : TaskExecution) (publication : Publication)
  (action : ExternalAction)

/-- An answer to a read of comments is what the connector makes of the comments of the issue. -/
def ReadFaithfully : Act handlerSignature DeploymentContextResult → Prop
  | .answered (.getComment _ identifier) (.ok found) =>
    GitHubClient.getComment ((issue.comment identifier).map (·.payload)) = .ok found
  | .answered (.findCommentsByMarker _ _ marker) (.ok search) =>
    client.findCommentsByMarker issue.read marker = .ok search
  | _ => True

/-- What the run has read is what GitHub holds. -/
def ReadsFrom (h : SyncPast) : Prop := ∀ act ∈ h, ReadFaithfully client issue act

omit [Calendar] in
/-- Whoever has written the comment is the principal that `verify_identity` accepts. -/
def Own (identifier : String) : Prop :=
  ∀ comment ∈ issue.comments, toString comment.id = identifier →
    client.verifyIdentity (userPayload comment.author) = .ok true

/-- Reconciliation of the row finds the comment: the one that the row is bound to, or the only one
with the marker. -/
inductive Finds : GitHubComment → Prop
  | bound {identifier : String} {comment : GitHubComment}
    (hrow : action.providerResourceIdentifier = some identifier)
    (hread : GitHubClient.getComment ((issue.comment identifier).map (·.payload)) =
      .ok (some comment))
    (hmarker : substring (safeMarker action.actionScopeKey) comment.body = true) : Finds comment
  | searched {comment : GitHubComment} (hrow : action.providerResourceIdentifier = none)
    (hread : client.findCommentsByMarker issue.read (safeMarker action.actionScopeKey) =
      .ok ⟨[comment], true⟩) : Finds comment

omit [Runtime] [Calendar] in
/-- A run that has been given the row. -/
def given : SyncPast :=
  let request : ReservationRequest := {
    fence := task.executionFence
    provider := .github
    operation := .upsertDeploymentContextComment
    actionScopeKey := action.actionScopeKey
    desiredRequestFingerprint := publication.desiredFingerprint
    decisionSnapshotHash := action.decisionSnapshotHash }
  [.answered (.reserveOrGet request) (.ok ⟨action, .replay⟩), .issued (.reserveOrGet request)]

/-- What a run that reconciles the row by itself does to the comments of others. -/
structure KeepsToOwn (h : SyncPast) (r : Except Exn DeploymentContextResult) : Prop where
  bound : ∀ request a identifier, .answered (.transition request) (.ok a) ∈ h →
    TransitionRequest.transition request = "reconciled_succeeded" →
      request.values.providerResourceIdentifier = some (some identifier) →
        Own client issue identifier
  updated : ∀ repository identifier body,
    .issued (.updateComment repository identifier body) ∈ h → Own client issue identifier
  reviewed : ∀ comment, Finds client issue action comment →
    ¬Own client issue comment.identifier →
      (∀ e, .issued e ∈ h → Effect.writesComment e = false) ∧
        (action.status ∈ reconcilable →
          ∀ e answer, Effect.readsComments e = true → .answered e (.ok answer) ∈ h →
            AsksReview task action (given task publication action) h) ∧
        ∀ result, r = .ok result → result.decision.outcome = .needsHumanReview

/-- Reconciliation of the row keeps to the comments of its own principal. -/
def BindsOwn : Prop :=
  ∀ h r, (reconcileAndApply settings task publication action).Trace
    (given task publication action) h r → RowAlone h → ReadsFrom client issue h →
      KeepsToOwn client issue task publication action h r

/-- The comment that reconciliation finds is of its own principal, or the row calls neither for
binding it nor for writing over it. -/
def FoundOwn : Prop :=
  action.status ∈ reconcilable → ∀ comment, Finds client issue action comment →
    Own client issue comment.identifier ∨
      (bodyFingerprint comment.body ≠ publication.desiredFingerprint ∧
        replaceable action publication.desiredFingerprint = false)

end Authors

section Proof

variable [Runtime] [Calendar] {client : GitHubClient} {issue : IssueComments}
  {settings : Settings} {task : TaskExecution} {publication : Publication}
  {action current : ExternalAction} {comment : GitHubComment} {h : SyncPast}

omit [Runtime] [Calendar] in
lemma IssueComments.mem_of_comment {identifier : String} {found : IssueComment}
    (h : issue.comment identifier = some found) :
    found ∈ issue.comments ∧ toString found.id = identifier := by
  refine ⟨List.mem_of_find?_eq_some h, ?_⟩
  have := List.find?_some h
  simpa using this

/-- The comment that is read by its identifier has that identifier. -/
lemma identifier_of_getComment {identifier : String}
    (h : GitHubClient.getComment ((issue.comment identifier).map (·.payload)) =
      .ok (some comment)) : comment.identifier = identifier := by
  cases hfound : issue.comment identifier with
  | none =>
    rw [hfound] at h
    cases h
  | some found =>
    rw [hfound, Option.map_some, GitHubClient.getComment] at h
    cases hread : normalizeComment found.payload false with
    | error x =>
      rw [hread] at h
      cases h
    | ok accepted =>
      rw [hread] at h
      cases h
      rw [(normalizeComment_payload hread).1]
      exact (IssueComments.mem_of_comment hfound).2

/-- What a run has read is what reconciliation finds. -/
lemma Read.finds (hread : Read publication action h (some comment))
    (hfrom : ReadsFrom client issue h) : Finds client issue action comment := by
  generalize hexisting : some comment = existing at hread
  cases hread with
  | bound hrow hmem hlast hmarker =>
    cases hexisting
    exact .bound hrow (hfrom _ hmem) hmarker
  | @searched search hrow hmem hlast hcomplete hunique =>
    refine .searched hrow ?_
    rw [hfrom _ hmem]
    obtain ⟨comments, complete⟩ := search
    cases comments with
    | nil => cases hexisting
    | cons first rest =>
      cases hexisting
      cases rest with
      | nil =>
        cases hcomplete
        rfl
      | cons second rest => exact absurd hunique (by simp)

/-- Reconciliation finds one comment at most. -/
lemma Finds.unique {comment' : GitHubComment} (hfinds : Finds client issue action comment)
    (hfinds' : Finds client issue action comment') : comment = comment' := by
  cases hfinds with
  | bound hrow hread =>
    cases hfinds' with
    | bound hrow' hread' =>
      rw [hrow] at hrow'
      cases hrow'
      rw [hread] at hread'
      cases hread'
      rfl
    | searched hrow' =>
      rw [hrow] at hrow'
      cases hrow'
  | searched hrow hread =>
    cases hfinds' with
    | bound hrow' =>
      rw [hrow] at hrow'
      cases hrow'
    | searched hrow' hread' =>
      rw [hread] at hread'
      cases hread'
      rfl

/-- Where reconciliation finds a comment, a run that has read has read it. -/
lemma Read.eq_of_finds {existing : Option GitHubComment}
    (hread : Read publication action h existing) (hfrom : ReadsFrom client issue h)
    (hfinds : Finds client issue action comment) : existing = some comment := by
  cases existing with
  | some comment' => rw [(hread.finds hfrom).unique hfinds]
  | none =>
    generalize hexisting : (none : Option GitHubComment) = existing at hread
    cases hread with
    | bound => cases hexisting
    | searched hrow hmem hlast hcomplete hunique =>
      cases hfinds with
      | bound hrow' =>
        rw [hrow] at hrow'
        cases hrow'
      | searched hrow' hread' =>
        rw [hfrom _ hmem] at hread'
        cases hread'
        cases hexisting

lemma ReadsFrom.await {e : Effect} {r : Outcome e} (hfrom : ReadsFrom client issue h)
    (hanswer : ReadFaithfully client issue (.answered e r)) :
    ReadsFrom client issue (.answered e r :: .issued e :: h) :=
  List.forall_mem_cons.2 ⟨hanswer, List.forall_mem_cons.2 ⟨trivial, hfrom⟩⟩

lemma ReadsFrom.of_suffix {h' : SyncPast} (hfrom : ReadsFrom client issue h') (hsuffix : h <:+ h') :
    ReadsFrom client issue h :=
  fun act hmem => hfrom act (hsuffix.subset hmem)

omit [Runtime] [Calendar] in
lemma given_head : (returnedActions (given task publication action)).head? = some action := rfl

omit [Runtime] [Calendar] in
lemma given_alone : RowAlone (given task publication action) :=
  rowAlone_nil.await fun _ heq => by cases heq

omit [Calendar] in
lemma given_conforms : Prog.Conforms (reconcileScript publication action)
    (given task publication action) :=
  (Prog.conforms_nil.cons fun e heq => by cases heq; exact fun _ => trivial).cons
    fun e heq => by cases heq

lemma readsFrom_given : ReadsFrom client issue (given task publication action) :=
  ReadsFrom.await (h := []) (fun act hmem => by cases hmem) trivial

/-- A write of the comment is of the one that was found, which is not a stranger's. -/
lemma Writable.own (hwritable : Writable publication action h) (hfrom : ReadsFrom client issue h)
    (hfound : FoundOwn client issue publication action)
    (hfinds : Finds client issue action comment) : Own client issue comment.identifier := by
  obtain ⟨-, hpending, existing, hread, hexisting⟩ := hwritable
  obtain ⟨-, hreplaceable⟩ := hexisting comment (hread.eq_of_finds hfrom hfinds)
  rcases hfound hpending comment hfinds with hown | ⟨-, hfinal⟩
  · exact hown
  · rw [hreplaceable] at hfinal
    cases hfinal

section Sufficient

variable {r : Except Exn DeploymentContextResult}

/-- Whatever a run awaits it has a ground for in what it has read before. -/
lemma issued_grounded {e : Effect} {later earlier : SyncPast}
    (htrace : (reconcileAndApply settings task publication action).Trace
      (given task publication action) h r) (halone : RowAlone h)
    (hfrom : ReadsFrom client issue h) (heq : h = later ++ .issued e :: earlier) :
    Grounded publication action earlier e ∧ ReadsFrom client issue earlier := by
  have hgrounded : (reconcileAndApply settings task publication action).Emits
      (reconcileScript publication action) (Concluded publication action)
      (given task publication action) := reconcileAndApply_grounded given_head
  have hearlier : RowAlone (.issued e :: earlier) := (heq ▸ halone).of_append
  refine ⟨hgrounded.conforms_trace given_conforms htrace later e earlier heq hearlier.of_cons,
    hfrom.of_suffix ?_⟩
  exact heq ▸ (List.suffix_cons _ _).trans (List.suffix_append _ _)

lemma write_grounded {e : Effect}
    (htrace : (reconcileAndApply settings task publication action).Trace
      (given task publication action) h r) (halone : RowAlone h)
    (hfrom : ReadsFrom client issue h) (hmem : .issued e ∈ h) (hwrite : e.writesComment = true) :
    ∃ earlier, Writable publication action earlier ∧ ReadsFrom client issue earlier ∧
      ∀ repository identifier body, e = .updateComment repository identifier body →
        action.providerResourceIdentifier = some identifier := by
  obtain ⟨later, earlier, heq⟩ := List.append_of_mem hmem
  obtain ⟨hground, hreads⟩ := issued_grounded htrace halone hfrom heq
  cases e with
  | createComment => exact ⟨earlier, hground, hreads, fun _ _ _ heq => by cases heq⟩
  | updateComment =>
    refine ⟨earlier, hground.1, hreads, fun _ _ _ heq => ?_⟩
    cases heq
    exact hground.2.2.1
  | record | reserveOrGet | transition | revise | reconciliationDelaySeconds | fetchRecords
  | verifyGitHubIdentity | fetchContext | getComment | findCommentsByMarker | fetchIssue
  | verifySlackIdentity | postNotification => cases hwrite

/-- What a run binds the row to is the comment that it has found. -/
lemma FoundOwn.bound (hfound : FoundOwn client issue publication action)
    (htrace : (reconcileAndApply settings task publication action).Trace
      (given task publication action) h r) (halone : RowAlone h)
    (hfrom : ReadsFrom client issue h) {request : TransitionRequest} {a : ExternalAction}
    {identifier : String} (hmem : .answered (.transition request) (.ok a) ∈ h)
    (hname : request.transition = "reconciled_succeeded")
    (hidentifier : request.values.providerResourceIdentifier = some (some identifier)) :
    Own client issue identifier := by
  rcases htrace.answered hmem with hold | ⟨later, earlier, heq, -⟩
  · rcases List.mem_cons.1 hold with heq | hold
    · cases heq
    · cases List.mem_singleton.1 hold
  have hissued : h = (later ++ [.answered (.transition request) (.ok a)]) ++
      .issued (.transition request) :: earlier := by
    rw [heq]
    simp
  obtain ⟨hbinds, hreads⟩ := issued_grounded htrace halone hfrom hissued
  obtain ⟨⟨current, hheld, hid⟩, hexpected, found, hread, hvalue, hbody⟩ := hbinds hname
  have hanswered : RowAlone (.answered (.transition request) (.ok a) ::
      .issued (.transition request) :: earlier) := (heq ▸ halone).of_append
  have hstatus := (hanswered.last hheld.head hid.symm).1
  rw [hexpected] at hstatus
  have hpending := hheld.reconciling hanswered.of_cons.of_cons hstatus
  rw [hvalue] at hidentifier
  cases hidentifier
  rcases hfound hpending found (hread.finds hreads) with hown | ⟨hother, -⟩
  · exact hown
  · exact absurd hbody hother

/-- What a run writes over is the comment that the row is bound to and that it has found. -/
lemma FoundOwn.updated (hfound : FoundOwn client issue publication action)
    (htrace : (reconcileAndApply settings task publication action).Trace
      (given task publication action) h r) (halone : RowAlone h)
    (hfrom : ReadsFrom client issue h) {repository identifier body : String}
    (hmem : .issued (.updateComment repository identifier body) ∈ h) :
    Own client issue identifier := by
  obtain ⟨earlier, hwritable, hreads, hrow⟩ := write_grounded htrace halone hfrom hmem rfl
  obtain ⟨-, -, existing, hread, -⟩ := id hwritable
  have hbound := hrow repository identifier body rfl
  cases hread with
  | @bound identifier' found hrow' hread' hlast hmarker =>
    obtain rfl : identifier' = identifier := Option.some.inj (hrow'.symm.trans hbound)
    have hget := hreads _ hread'
    have hown := hwritable.own hreads hfound (.bound hrow' hget hmarker)
    rwa [identifier_of_getComment hget] at hown
  | searched hnone =>
    rw [hbound] at hnone
    cases hnone

/-- A stranger's comment is neither as desired nor to be written over. -/
lemma FoundOwn.unwanted (hfound : FoundOwn client issue publication action)
    (hpending : action.status ∈ reconcilable) (hfinds : Finds client issue action comment)
    (hforeign : ¬Own client issue comment.identifier) :
    ¬(bodyFingerprint comment.body = publication.desiredFingerprint ∨
      replaceable action publication.desiredFingerprint = true) := by
  intro hwanted
  rcases hfound hpending comment hfinds with hown | ⟨hbody, hfinal⟩
  · exact hforeign hown
  rcases hwanted with hdesired | hreplaceable
  · exact hbody hdesired
  · rw [hreplaceable] at hfinal
    cases hfinal

omit [Calendar] in
/-- What tells of comments a run that was given the row has been answered since. -/
lemma since_given {e : Effect} {answer : e.Answer}
    (htrace : (reconcileAndApply settings task publication action).Trace
      (given task publication action) h r) (he : e.readsComments = true)
    (hmem : .answered e (.ok answer) ∈ h) :
    Past.Since (given task publication action) h (.answered e (.ok answer)) := by
  rcases htrace.answered hmem with hold | ⟨later, earlier, heq, hsuffix⟩
  · rcases List.mem_cons.1 hold with heq | hold
    · cases heq
      cases he
    · cases List.mem_singleton.1 hold
  · exact ⟨later, _, heq, hsuffix.trans (List.suffix_cons _ _)⟩

lemma bindsOwn_of_foundOwn (hfound : FoundOwn client issue publication action) :
    BindsOwn client issue settings task publication action := by
  intro h r htrace halone hfrom
  refine ⟨fun request a identifier hmem hname hidentifier =>
      hfound.bound htrace halone hfrom hmem hname hidentifier,
    fun repository identifier body hmem => hfound.updated htrace halone hfrom hmem,
    fun comment hfinds hforeign => ⟨fun e hmem => ?_, fun hpending e answer he hmem => ?_,
      fun result hresult => ?_⟩⟩
  · by_contra hwrite
    obtain ⟨earlier, hwritable, hreads, -⟩ :=
      write_grounded htrace halone hfrom hmem (by simpa using hwrite)
    exact hforeign (hwritable.own hreads hfound hfinds)
  · rcases reconcileAndApply_reviews given_head htrace halone he (since_given htrace he hmem) with
      hasks | ⟨existing, hread, hexisting⟩
    · exact hasks
    · exact absurd (hexisting comment (hread.eq_of_finds hfrom hfinds))
        (hfound.unwanted hpending hfinds hforeign)
  · have hgrounded : (reconcileAndApply settings task publication action).Emits
        (reconcileScript publication action) (Concluded publication action)
        (given task publication action) := reconcileAndApply_grounded given_head
    obtain ⟨hpending, hreview | ⟨existing, hread, hexisting⟩⟩ :=
      hgrounded.of_trace htrace halone result hresult
    · exact hreview.1
    · exact absurd (hexisting comment (hread.eq_of_finds hfrom hfinds))
        (hfound.unwanted hpending hfinds hforeign)

end Sufficient

/-- A run alone may begin to reconcile a row that is still open. -/
lemma starts (task : TaskExecution) (publication : Publication)
    (hpending : action.status ∈ reconcilable) (client : GitHubClient) (issue : IssueComments) :
    ∃ h current, (startReconciliation task action).Trace (given task publication action) h
        (.ok current) ∧ RowAlone h ∧ ReadsFrom client issue h ∧
      (returnedActions h).head? = some current ∧ current.status = .reconciling ∧
      SameBinding action current := by
  by_cases hreconciling : action.status = .reconciling
  · refine ⟨given task publication action, action, ?_, given_alone, readsFrom_given, rfl,
      hreconciling, .refl action⟩
    unfold startReconciliation
    rw [if_pos (.inl hreconciling)]
    exact ⟨rfl, rfl⟩
  · refine ⟨_, _, startReconciliation_trace hpending hreconciling 0, ?_, ?_, rfl, rfl,
      sameBinding_transitioned rfl rfl⟩
    · refine RowAlone.answer given_alone.issued fun row hrow _ => ?_
      obtain rfl : action = row := Option.some.inj hrow
      refine ⟨?_, 0, rfl⟩
      simp only [reconcilable, List.mem_cons, List.not_mem_nil, or_false] at hpending
      simp only [reconciliationStarted, List.mem_cons, List.not_mem_nil, or_false]
      tauto
    · exact readsFrom_given.await trivial

/-- A run alone may come to read the comment that reconciliation finds. -/
lemma Finds.read (hfinds : Finds client issue action comment) (publication : Publication)
    (hsame : SameBinding action current) (halone : RowAlone h) (hfrom : ReadsFrom client issue h)
    (hhead : (returnedActions h).head? = some current) :
    ∃ h₁, (reconcileComment current publication.repository publication.issueNumber
        (safeMarker current.actionScopeKey)).Trace h h₁ (.ok (some comment)) ∧
      RowAlone h₁ ∧ ReadsFrom client issue h₁ ∧ (returnedActions h₁).head? = some current := by
  cases hfinds with
  | bound hrow hread hmarker =>
    rw [← hsame.identifier] at hrow
    rw [← hsame.scope] at hmarker
    exact ⟨_, boundComment_trace publication h hrow hmarker,
      halone.await (fun _ heq => by cases heq),
      hfrom.await hread, hhead⟩
  | searched hrow hread =>
    rw [← hsame.identifier] at hrow
    rw [← hsame.scope] at hread
    obtain ⟨h₁, hdelayed, htrace⟩ := searchComments_trace publication h hrow
    refine ⟨_, htrace, ?_, ?_, ?_⟩
    · rcases hdelayed with rfl | rfl
      · exact halone.await fun _ heq => by cases heq
      · exact (halone.await fun _ heq => by cases heq).await fun _ heq => by cases heq
    · refine ReadsFrom.await ?_ hread
      rcases hdelayed with rfl | rfl
      · exact hfrom
      · exact hfrom.await trivial
    · rcases hdelayed with rfl | rfl
      · exact hhead
      · exact hhead

lemma foundOwn_of_bindsOwn (hbinds : BindsOwn client issue settings task publication action) :
    FoundOwn client issue publication action := by
  intro hpending comment hfinds
  by_contra hnot
  push Not at hnot
  obtain ⟨hforeign, hwanted⟩ := hnot
  obtain ⟨h₁, current, hstart, halone₁, hfrom₁, hhead₁, hstatus, hsame⟩ :=
    starts task publication hpending client issue
  obtain ⟨h₂, hread, halone₂, hfrom₂, hhead₂⟩ :=
    hfinds.read publication hsame halone₁ hfrom₁ hhead₁
  by_cases hbody : bodyFingerprint comment.body = publication.desiredFingerprint
  · -- The stranger's comment has the desired content, and the run binds it.
    let request := completeSuccess task current comment publication.desiredFingerprint
      [.reconciling] "reconciled_succeeded"
    have hrest : (applyReconciled settings task publication current (some comment)).Trace h₂
        (.answered (.transition request) (.ok (transitioned 0 request current)) ::
          .issued (.transition request) :: h₂) (.error .taskCancelled) := by
      unfold applyReconciled
      dsimp only
      rw [if_neg (not_not.2 hbody)]
      exact trace_checkOwnership (trace_await _ trace_cancelled)
    have halone : RowAlone
        (.answered (.transition request) (.ok (transitioned 0 request current)) ::
        .issued (.transition request) :: h₂) := by
      refine RowAlone.answer halone₂.issued fun row hrow _ => ?_
      obtain rfl : current = row := Option.some.inj (hhead₂.symm.trans hrow)
      exact ⟨List.mem_singleton.2 hstatus, 0, rfl⟩
    have hkeeps := hbinds _ _ (reconcileAndApply_trace publication hstart hread hrest) halone
      (hfrom₂.await trivial)
    exact hforeign (hkeeps.bound request _ comment.identifier List.mem_cons_self rfl rfl)
  · -- The row is at a later revision, and the run writes over what it has found.
    have hreplaceable : replaceable current publication.desiredFingerprint = true := by
      rw [hsame.replaceable]
      simpa using hwanted hbody
    have hrest : (applyReconciled settings task publication current (some comment)).Trace h₂
        (.answered (writeEffect publication current) (.error .noResultFound) ::
          .issued (writeEffect publication current) :: writeAnnounced settings task 0 current h₂)
        (.error .noResultFound) := by
      unfold applyReconciled
      dsimp only
      rw [if_pos hbody, if_pos hreplaceable]
      exact applyWrite_trace 0
    have halone : RowAlone (.answered (writeEffect publication current) (.error .noResultFound) ::
        .issued (writeEffect publication current) ::
        writeAnnounced settings task 0 current h₂) :=
      (writeAnnounced_alone 0 halone₂ hhead₂ hstatus).failed
    have hfrom : ReadsFrom client issue (.answered (writeEffect publication current)
        (.error .noResultFound) :: .issued (writeEffect publication current) ::
        writeAnnounced settings task 0 current h₂) := by
      have hannounced : ReadsFrom client issue (writeAnnounced settings task 0 current h₂) := by
        refine ReadsFrom.await (ReadsFrom.await hfrom₂ ?_) ?_
        · trivial
        · trivial
      refine hannounced.await ?_
      unfold writeEffect
      split
      · trivial
      · trivial
    have hkeeps := hbinds _ _ (reconcileAndApply_trace publication hstart hread hrest) halone hfrom
    have hunwritten := (hkeeps.reviewed comment hfinds hforeign).1 (writeEffect publication current)
      (List.mem_cons_of_mem _ List.mem_cons_self)
    rw [writeEffect_writesComment] at hunwritten
    cases hunwritten

/-- Reconciliation keeps to the comments of its own principal exactly where the comment that it
finds is one of them, or the row calls neither for binding it nor for writing over it. -/
theorem bindsOwn_iff : BindsOwn client issue settings task publication action ↔
    FoundOwn client issue publication action :=
  ⟨foundOwn_of_bindsOwn, bindsOwn_of_foundOwn⟩

end Proof

/-! ## A copy of the comment -/

lemma substring_append (s t : String) : substring s (s ++ t) = true := by
  simp only [substring, String.toList_append, decide_eq_true_eq]
  exact (List.prefix_append _ _).isInfix

/-- The only comment of an issue is found by its marker. -/
lemma findCommentsByMarker_only [Runtime] [Calendar] {client : GitHubClient}
    {issue : IssueComments} {only : IssueComment} {comment : GitHubComment} {marker : String}
    (hpages : 0 < client.maxPages) (hissue : issue.comments = [only])
    (hread : normalizeComment only.payload false = .ok comment)
    (hmarker : substring marker comment.body = true) :
    client.findCommentsByMarker issue.read marker = .ok ⟨[comment], true⟩ := by
  obtain ⟨remaining, hremaining⟩ := Nat.exists_eq_succ_of_ne_zero hpages.ne'
  have hpage : issue.page 1 = .list [only.payload] := by
    rw [IssueComments.page, hissue]
    rfl
  rw [GitHubClient.findCommentsByMarker, hremaining, GitHubClient.searchPages]
  simp [IssueComments.read, hpage, hread, hmarker, bind, Except.bind, pure, Except.pure]

namespace Sample

/-- One time of day, as GitHub writes it. -/
@[reducible] def calendar : Calendar where
  fromisoformat text :=
    if text = "2024-05-06T07:08:10Z" then some ⟨2024, 5, 6, 7, 8, 10, 0, some 0⟩ else none

def githubClient : GitHubClient where
  expectedLogin := some "deployment-bot"
  maxPages := 5
  maxItems := 200

attribute [local instance] syncHost calendar

def commentScope : String := "deployment_context_sync:v1:prod:42:7:payments:github_comment"

/-- The body that is to be published. -/
def expectedBody : String :=
  safeMarker commentScope ++ ("\n## Deployment context\n\n**Decision:** `ready`\n\n" ++
    "**Service:** `payments`  \n**Repository:** `acme/payments`  \n" ++
    "**Jira issue:** `OPS-1`  \n**Policy version:** `3`  \n" ++
    "**Generated:** `2024-05-06T07:08:09+00:00`\n\n### Reasons\n" ++
    "- Policy and ownership checks permit the bounded deployment-context action.\n\n" ++
    "### Source references\n" ++
    "- `github` `repository_issue_context` `42:issue:7` (version `abcdef1:2024-05-06`)\n" ++
    "- `jira` `work_item` `OPS-1` (version `1`)\n" ++
    "- `service_catalog` `service` `payments` (version `v1`)" ++
    "\n")

def expectedDecision : DeploymentContextDecision where
  outcome := .ready
  reasonCodes := [.ready]
  reasons := ["Policy and ownership checks permit the bounded deployment-context action."]
  sourceReferences := []
  policyVersion := 3
  generatedAt := jiraItem.updatedAt

def expectedPublication : Publication where
  repository := "acme/payments"
  issueNumber := 7
  body := expectedBody
  desiredFingerprint := bodyFingerprint expectedBody
  decision := expectedDecision
  references := []

/-- The row of a scope for which nothing has been published yet. -/
def unboundRow : ExternalAction where
  id := 1
  taskId := (fence 1).taskId
  currentAttemptId := (fence 1).attemptId
  provider := .github
  operation := .upsertDeploymentContextComment
  actionScopeKey := commentScope
  desiredRequestFingerprint := bodyFingerprint expectedBody
  decisionSnapshotHash := 0
  revision := 1
  status := .reserved
  actionAttemptCount := 1
  reservedAt := 0
  lastAttemptAt := 0
  createdAt := 0
  updatedAt := 0

/-- Somebody else has posted the body that is to be published. -/
def copiedComment : IssueComment where
  id := 9001
  author := "mallory"
  body := expectedBody
  htmlUrl := "https://github.example/acme/payments/issues/7#issuecomment-9001"
  updatedAt := "2024-05-06T07:08:10Z"

def copiedIssue : IssueComments := ⟨[copiedComment], by decide⟩

end Sample

attribute [local instance] Sample.syncHost Sample.calendar in
open Sample in
lemma normalizeComment_copied :
    normalizeComment copiedComment.payload false = .ok (githubComment expectedBody) := by
  have hurl : providerActionUrl copiedComment.htmlUrl = .ok copiedComment.htmlUrl := by
    decide +kernel
  have hbody : expectedBody ≠ "" := by
    intro heq
    have hmarker : safeMarker commentScope = "" := (String.append_eq_empty_iff.1 heq).1
    exact absurd (String.append_eq_empty_iff.1 hmarker).2 (by decide)
  exact normalizeComment_of hbody (by decide) hurl (by decide) rfl

attribute [local instance] Sample.syncHost Sample.calendar in
open Sample in
theorem bindsOwn_copied : ¬BindsOwn githubClient copiedIssue syncSettings (syncTask 1).task
    expectedPublication unboundRow := by
  intro hbinds
  have hfinds : Finds githubClient copiedIssue unboundRow (githubComment expectedBody) :=
    .searched rfl (findCommentsByMarker_only (by decide) rfl normalizeComment_copied
      (substring_append _ _))
  rcases foundOwn_of_bindsOwn hbinds (by decide) _ hfinds with hown | ⟨hother, -⟩
  · have hstranger := hown copiedComment List.mem_cons_self (by decide)
    exact absurd hstranger (by decide)
  · exact hother rfl

end DeploymentLab
