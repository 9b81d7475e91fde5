import DeploymentLab.Proofs.MarkerScopes
import DeploymentLab.Proofs.RowWalk

/-!
# The grounds for a comment

A run creates a comment for a row that is bound to none, after a complete search has found none and
was begun when the time that the row had noted for earlier writes had come (`Cleared`). It binds a
row to a comment that it has created or found for it (`Source`). `CommentGround` says so of every
await of a run that has its row to itself.
-/

namespace DeploymentLab

open Interaction HandlerContext DeploymentContextSyncHandler ExternalActionRepository

/-- The run has just been told that the row `a` is to be waited for no longer. -/
inductive Waited (a : ExternalAction) : SyncPast → Prop
  | delay {d : Duration} {h : SyncPast} (hdelay : d ≤ 0) :
    Waited a (.answered (.reconciliationDelaySeconds a.id) (.ok d) :: h)
  | issued {e : Effect} {h : SyncPast} (hwaited : Waited a h) : Waited a (.issued e :: h)

/-- The run has its rows to itself, as it has asked for them, and none that is bound to no comment
has been revised. -/
structure Tracked (h : SyncPast) : Prop where
  alone : RowAlone h
  placed : Placed h
  unrevised : ∀ a ∈ returnedActions h, a.provider = .github →
    a.providerResourceIdentifier = none → a.revision ≤ 1

section Grounds

variable [Runtime]

/-- A complete search for the scope has found no comment. It was begun when the row was to be
waited for no longer, and no create has been issued since. -/
inductive Cleared (repository : String) (issueNumber : ℤ) (scope : String) : SyncPast → Prop
  | searched {a : ExternalAction} {search : CommentSearchResult} {h : SyncPast}
    (hhead : (returnedActions h).head? = some a) (hprovider : a.provider = .github)
    (hscope : a.actionScopeKey = scope) (hunbound : a.providerResourceIdentifier = none)
    (hwaited : a.reconcileNotBefore = none ∨ Waited a h) (hcomplete : search.complete = true)
    (hnone : search.comments = []) :
    Cleared repository issueNumber scope
      (.answered (.findCommentsByMarker repository issueNumber (safeMarker scope)) (.ok search) ::
        h)
  | later {act : Act handlerSignature DeploymentContextResult} {h : SyncPast}
    (hact : ∀ repository issueNumber body,
      act ≠ .issued (.createComment repository issueNumber body))
    (hcleared : Cleared repository issueNumber scope h) :
    Cleared repository issueNumber scope (act :: h)

variable (current : ExternalAction)

/-- Where a run has the comment from that it binds its row to. -/
inductive Source (h : SyncPast) (comment : GitHubComment) : Prop
  | created {repository : String} {issueNumber : ℤ} {body : String}
    (hbody : RenderedFor current.actionScopeKey body)
    (hmem : .answered (.createComment repository issueNumber body) (.ok comment) ∈ h)
  | found {repository : String} {issueNumber : ℤ} {search : CommentSearchResult}
    (hmem : .answered (.findCommentsByMarker repository issueNumber
      (safeMarker current.actionScopeKey)) (.ok search) ∈ h) (hcomment : comment ∈ search.comments)
  | kept {repository identifier : String}
    (hbound : current.providerResourceIdentifier = some identifier)
    (hmem : .answered (.getComment repository identifier) (.ok (some comment)) ∈ h)
  | updated {repository identifier body : String}
    (hbound : current.providerResourceIdentifier = some identifier)
    (hmem : .answered (.updateComment repository identifier body) (.ok comment) ∈ h)

/-- A transition of the row binds it to a comment from a known source. It sets the time to wait
for only where no earlier create can come through any more. -/
structure Keeps (h : SyncPast) (request : TransitionRequest) : Prop where
  binds : ∀ identifier, request.values.providerResourceIdentifier = some identifier →
    ∃ comment, identifier = some comment.identifier ∧ Source current h comment
  holds : request.notBeforeDelay = none ∧ request.values.reconcileNotBefore = none
  settles : ∀ delay, request.settlementDelay = some delay → 0 ≤ delay ∧
    (current.providerResourceIdentifier = none → ∃ repository issueNumber,
      Cleared repository issueNumber current.actionScopeKey h)

variable {current} in
/-- The ground for an await of a run that has its row to itself. -/
def CommentGround (h : SyncPast) : Effect → Prop
  | .createComment repository issueNumber body =>
    ∃ current, (returnedActions h).head? = some current ∧ current.provider = .github ∧
      current.providerResourceIdentifier = none ∧ current.reconcileNotBefore.isSome = true ∧
        RenderedFor current.actionScopeKey body ∧
          Cleared repository issueNumber current.actionScopeKey h
  | .updateComment _ identifier body =>
    ∃ current, (returnedActions h).head? = some current ∧ current.provider = .github ∧
      current.providerResourceIdentifier = some identifier ∧
        RenderedFor current.actionScopeKey body
  | .transition request =>
    ∃ current, (returnedActions h).head? = some current ∧ request.actionId = current.id ∧
      (current.provider = .github → Keeps current h request)
  | _ => True

def commentScript : Script handlerSignature DeploymentContextResult
  | h, .issued e => Tracked h → CommentGround h e
  | _, .answered _ _ | _, .ended _ => True

end Grounds

section Pasts

variable {h h' : SyncPast} {current : ExternalAction}

lemma Tracked.of_suffix (htracked : Tracked h') (hsuffix : h <:+ h') : Tracked h where
  alone := by
    obtain ⟨later, rfl⟩ := hsuffix
    exact htracked.alone.of_append
  placed := htracked.placed.of_suffix hsuffix
  unrevised a ha := htracked.unrevised a ((returnedActions_suffix hsuffix).subset ha)

/-- The past before an await. -/
lemma Tracked.before {act act' : Act handlerSignature DeploymentContextResult}
    (htracked : Tracked (act :: act' :: h)) : Tracked h :=
  htracked.of_suffix ((List.suffix_cons _ _).trans (List.suffix_cons _ _))

variable [Runtime]

lemma Cleared.await {repository scope : String} {issueNumber : ℤ} {e : Effect} {r : Outcome e}
    (hcleared : Cleared repository issueNumber scope h)
    (he : ∀ repository issueNumber body, e ≠ .createComment repository issueNumber body) :
    Cleared repository issueNumber scope (.answered e r :: .issued e :: h) := by
  refine .later (fun _ _ _ => nofun) (.later (fun repository issueNumber body heq => ?_) hcleared)
  cases heq
  exact he _ _ _ rfl

/-- A transition that neither binds the row nor sets a time to wait for. -/
lemma keeps_plain {request : TransitionRequest}
    (hidentifier : request.values.providerResourceIdentifier = none)
    (hholds : request.values.reconcileNotBefore = none)
    (hsettles : request.settlementDelay = none) (hretry : request.notBeforeDelay = none) :
    Keeps current h request where
  binds identifier heq := by
    rw [hidentifier] at heq
    cases heq
  holds := ⟨hretry, hholds⟩
  settles delay heq := by
    rw [hsettles] at heq
    cases heq

end Pasts

/-! ## The run that reconciles -/

/-- The run works on the row `current`, for which the comment of the publication is rendered. -/
structure Working [Runtime] (publication : Publication) (h : SyncPast)
    (current : ExternalAction) : Prop where
  head : (returnedActions h).head? = some current
  publishes : Tracked h → Publishes publication current

/-- Where the row is bound to no comment, there is none, and none can come through any more. -/
def Clears [Runtime] (publication : Publication) (h : SyncPast) (current : ExternalAction) : Prop :=
  Tracked h → current.providerResourceIdentifier = none →
    Cleared publication.repository publication.issueNumber current.actionScopeKey h

/-- What reading the comment of the row has come to. -/
structure Sought [Runtime] (publication : Publication) (h : SyncPast) (current : ExternalAction)
    (existing : Option GitHubComment) : Prop where
  source : ∀ comment, existing = some comment → Source current h comment
  clears : existing = none → Clears publication h current

section Working

variable [Runtime] {settings : Settings} {task : TaskExecution} {publication : Publication}
  {action current : ExternalAction} {h : SyncPast} {request : TransitionRequest}
  {existing : Option GitHubComment}

/-- An await that returns no row. -/
lemma Working.await (hworking : Working publication h current) (e : Effect) (r : Outcome e)
    (he : e.returnsRow = false) :
    Working publication (.answered e r :: .issued e :: h) current where
  head := by
    rw [← hworking.head]
    cases e <;> first | rfl | cases he
  publishes htracked := hworking.publishes htracked.before

/-- A transition returns the row again. -/
lemma Working.step (hworking : Working publication h current) (request : TransitionRequest)
    (a : ExternalAction) (hid : request.actionId = current.id) :
    Working publication (.answered (.transition request) (.ok a) :: .issued (.transition request) ::
      h) a where
  head := rfl
  publishes htracked := by
    obtain ⟨hprovider, hrendered⟩ := hworking.publishes htracked.before
    have hsame := htracked.placed.same a List.mem_cons_self current
      (List.mem_cons_of_mem a (List.mem_of_mem_head? hworking.head))
      ((htracked.placed.moved request a List.mem_cons_self).trans hid)
    exact ⟨hsame.2.trans hprovider, hsame.1 ▸ hrendered⟩

/-- The row that a transition returns is the one that the run had. -/
lemma Working.last (hworking : Working publication h current) {a : ExternalAction}
    (hid : request.actionId = current.id) (htracked : Tracked
      (.answered (.transition request) (.ok a) :: .issued (.transition request) :: h)) :
    ∃ now, a = transitioned now request current :=
  (htracked.alone.last hworking.head hid.symm).2

lemma Working.issue (hworking : Working publication h current)
    (hid : request.actionId = current.id) (hkeeps : Tracked h → Keeps current h request) :
    commentScript h (.issued (.transition request)) :=
  fun htracked => ⟨current, hworking.head, hid, fun _ => hkeeps htracked⟩

lemma Clears.step (hclears : Clears publication h current)
    (hworking : Working publication h current) (request : TransitionRequest)
    (a : ExternalAction) (hid : request.actionId = current.id)
    (hidentifier : request.values.providerResourceIdentifier = none) :
    Clears publication (.answered (.transition request) (.ok a) :: .issued (.transition request) ::
      h) a := by
  intro htracked hunbound
  obtain ⟨now, rfl⟩ := hworking.last hid htracked
  rw [transitioned, hidentifier, Option.getD_none] at hunbound
  exact (hclears htracked.before hunbound).await fun _ _ _ heq => by cases heq

/-- After a failure has been recorded, the run raises. -/
lemma Working.failure (hworking : Working publication h current) {x : Exn}
    (hid : request.actionId = current.id) (hkeeps : Keeps current h request) :
    ((perform (.transition request)).bind fun _ =>
      (.raise x : Handler DeploymentContextResult)).Emits commentScript AnyEnd h :=
  emits_failure (hworking.issue hid fun _ => hkeeps)

/-- The comment from a known source is bound to the row. -/
lemma Working.success (hworking : Working publication h current) {comment : GitHubComment}
    {expected : List ExternalActionStatus} {name : String}
    (hsource : Tracked h → Source current h comment) :
    ((perform (.transition (completeSuccess task current comment publication.desiredFingerprint
      expected name))).bind fun a => raiseIfCancelled.bind fun _ =>
        Prog.ofExcept (successResult publication.decision publication.references a)).Emits
          commentScript AnyEnd h := by
  refine emits_await (hworking.issue rfl fun htracked => ⟨fun identifier heq => ?_, ⟨rfl, rfl⟩,
    fun delay heq => ?_⟩) (fun a => ?_) fun _ => trivial
  · exact ⟨comment, (Option.some.inj heq).symm, hsource htracked⟩
  · cases heq
  · exact emits_checkCancelled (Prog.emits_ofExcept.2 trivial) fun _ => trivial

/-- The create or the update, of a row whose time to wait has been set. -/
lemma Working.writeComment (hworking : Working publication h current)
    (hclears : Clears publication h current)
    (hnoted : Tracked h → current.reconcileNotBefore.isSome = true) :
    (writeComment publication current).Emits commentScript
      (fun h r => Working publication h current ∧ ∀ comment, r = .ok comment → Tracked h →
        Source current h comment) h := by
  unfold DeploymentContextSyncHandler.writeComment
  split
  · rename_i hunbound
    refine Prog.emits_perform.2 ⟨fun htracked => ?_,
      fun r => ⟨hworking.await (.createComment _ _ _) r rfl, ?_⟩⟩
    · obtain ⟨hprovider, hrendered⟩ := hworking.publishes htracked
      exact ⟨current, hworking.head, hprovider, hunbound, hnoted htracked, hrendered,
        hclears htracked hunbound⟩
    · rintro comment rfl htracked
      exact .created (hworking.publishes htracked.before).rendered List.mem_cons_self
  · rename_i identifier hbound
    refine Prog.emits_perform.2 ⟨fun htracked => ?_,
      fun r => ⟨hworking.await (.updateComment _ _ _) r rfl, ?_⟩⟩
    · obtain ⟨hprovider, hrendered⟩ := hworking.publishes htracked
      exact ⟨current, hworking.head, hprovider, hbound, hrendered⟩
    · rintro comment rfl htracked
      exact .updated hbound List.mem_cons_self

lemma Working.applyWrite (hworking : Working publication h current)
    (hclears : Clears publication h current) :
    (applyWrite settings task publication current).Emits commentScript AnyEnd h := by
  refine emits_await (hworking.issue rfl fun _ => keeps_plain rfl rfl rfl rfl) (fun a₁ => ?_)
    fun _ => trivial
  refine emits_checkCancelled ?_ fun _ => trivial
  have hready := hworking.step (reconciliationCompletedNoMatch task current) a₁ rfl
  have hstill := hclears.step hworking (reconciliationCompletedNoMatch task current) a₁ rfl rfl
  refine emits_await (hready.issue rfl fun htracked => ⟨fun _ heq => ?_, ⟨rfl, rfl⟩,
    fun delay heq => ?_⟩) (fun a => ?_) fun _ => trivial
  · cases heq
  · obtain rfl : settings.integrationSettlementDelay = delay := Option.some.inj heq
    exact ⟨settings.integrationSettlementDelay_pos.le,
      fun hunbound => ⟨_, _, hstill htracked hunbound⟩⟩
  refine emits_checkCancelled ?_ fun _ => trivial
  have hwriting := hready.step (writeStarted settings task a₁) a rfl
  have hcleared := hstill.step hready (writeStarted settings task a₁) a rfl rfl
  rw [Prog.bind_eq, Prog.emits_bind, Prog.emits_attempt]
  refine Prog.emits_mono (hwriting.writeComment hcleared fun htracked => ?_) fun h r hwritten => ?_
  · obtain ⟨now, rfl⟩ := hready.last rfl htracked
    rfl
  obtain ⟨hworking, hsource⟩ := hwritten
  dsimp only
  split
  · exact hworking.failure rfl (keeps_plain rfl rfl rfl rfl)
  · exact hworking.failure rfl (keeps_plain rfl rfl rfl rfl)
  · exact hworking.failure rfl (keeps_plain rfl rfl rfl rfl)
  · trivial
  · rename_i comment
    exact emits_checkOwnership (hworking.success (hsource comment rfl)) fun _ => trivial

/-- A row that is bound to no comment has no older revision to replace. -/
lemma Tracked.unbound (htracked : Tracked h) (hworking : Working publication h current)
    (hreplaceable : replaceable current publication.desiredFingerprint = true) :
    current.providerResourceIdentifier ≠ none := by
  intro hunbound
  have hrevision := htracked.unrevised current (List.mem_of_mem_head? hworking.head)
    (hworking.publishes htracked).provider hunbound
  rw [replaceable, Bool.and_eq_true, Bool.and_eq_true, decide_eq_true_iff] at hreplaceable
  omega

lemma Working.applyReconciled (hworking : Working publication h current)
    (hsought : Sought publication h current existing) :
    (applyReconciled settings task publication current existing).Emits commentScript AnyEnd h := by
  unfold DeploymentContextSyncHandler.applyReconciled
  split
  · exact hworking.applyWrite (hsought.clears rfl)
  split
  · split
    · rename_i hreplaceable
      exact hworking.applyWrite fun htracked hunbound =>
        absurd hunbound (htracked.unbound hworking hreplaceable)
    · exact emits_await (hworking.issue rfl fun _ => keeps_plain rfl rfl rfl rfl)
        (fun a => Prog.emits_ofExcept.2 trivial) fun _ => trivial
  · rename_i comment _
    exact emits_checkOwnership (hworking.success fun _ => hsought.source comment rfl)
      fun _ => trivial

/-- What the search of a run comes to that is to wait no longer. -/
lemma Working.searchComments (hworking : Working publication h current)
    (hunbound : current.providerResourceIdentifier = none)
    (hwaited : current.reconcileNotBefore = none ∨ Waited current h) :
    (searchComments publication.repository publication.issueNumber
      (safeMarker current.actionScopeKey)).Emits commentScript
        (fun h r => Working publication h current ∧ ∀ existing, r = .ok existing →
          Sought publication h current existing) h := by
  unfold DeploymentContextSyncHandler.searchComments
  refine emits_await (fun _ => trivial) (fun search => ?_)
    fun x => ⟨hworking.await _ _ rfl, fun _ heq => by cases heq⟩
  have hsearched := hworking.await
    (.findCommentsByMarker publication.repository publication.issueNumber
      (safeMarker current.actionScopeKey)) (.ok search) rfl
  split
  · exact ⟨hsearched, fun _ heq => by cases heq⟩
  rename_i hcomplete
  split
  · exact ⟨hsearched, fun _ heq => by cases heq⟩
  refine ⟨hsearched, fun existing heq => ?_⟩
  obtain rfl := Except.ok.inj heq
  refine ⟨fun comment hcomment => .found List.mem_cons_self (List.mem_of_mem_head? hcomment),
    fun hnone htracked _ => ?_⟩
  exact .searched hworking.head (hworking.publishes htracked.before).provider rfl hunbound
    (hwaited.imp_right .issued) (by simpa using hcomplete) (List.head?_eq_none_iff.1 hnone)

lemma Working.boundComment (hworking : Working publication h current) {identifier : String}
    (hbound : current.providerResourceIdentifier = some identifier) {marker : String} :
    (boundComment publication.repository identifier marker).Emits commentScript
      (fun h r => Working publication h current ∧ ∀ existing, r = .ok existing →
        Sought publication h current existing) h := by
  unfold DeploymentContextSyncHandler.boundComment
  refine emits_await (fun _ => trivial) (fun found => ?_)
    fun x => ⟨hworking.await _ _ rfl, fun _ heq => by cases heq⟩
  have hread := hworking.await (.getComment publication.repository identifier) (.ok found) rfl
  split
  · exact ⟨hread, fun _ heq => by cases heq⟩
  split
  · refine ⟨hread, fun existing heq => ?_⟩
    obtain rfl := Except.ok.inj heq
    refine ⟨fun comment hcomment => ?_, fun hnone => by cases hnone⟩
    obtain rfl := Option.some.inj hcomment
    exact .kept hbound List.mem_cons_self
  · exact ⟨hread, fun _ heq => by cases heq⟩

lemma Working.reconcileComment (hworking : Working publication h current) :
    (reconcileComment current publication.repository publication.issueNumber
      (safeMarker current.actionScopeKey)).Emits commentScript
        (fun h r => Working publication h current ∧ ∀ existing, r = .ok existing →
          Sought publication h current existing) h := by
  unfold DeploymentContextSyncHandler.reconcileComment
  split
  · rename_i identifier hbound
    exact hworking.boundComment hbound
  rename_i hunbound
  unfold reconciliationHoldoff
  split
  · refine emits_await (fun _ => trivial) (fun holdoff => ?_)
      fun x => ⟨hworking.await _ _ rfl, fun _ heq => by cases heq⟩
    have hasked := hworking.await (.reconciliationDelaySeconds current.id) (.ok holdoff) rfl
    split
    · exact ⟨hasked, fun _ heq => by cases heq⟩
    · rename_i hdelay
      exact hasked.searchComments hunbound (.inr (.delay (Int.not_lt.1 hdelay)))
  · rename_i hnone
    exact hworking.searchComments hunbound (.inl (by simpa using hnone))

lemma commentScript_resumes : Resumes commentScript := by
  intro settings task publication action h _ hhanded
  have hworking : Working publication h action :=
    ⟨hhanded.head, fun htracked => hhanded.publishes htracked.placed⟩
  have hstart : (startReconciliation task action).Emits commentScript
      (fun h r => ∀ current, r = .ok current → Working publication h current) h := by
    unfold startReconciliation
    split
    · intro current hcurrent
      obtain rfl := Except.ok.inj hcurrent
      exact hworking
    · refine Prog.emits_perform.2 ⟨hworking.issue rfl fun _ => keeps_plain rfl rfl rfl rfl,
        fun r current hcurrent => ?_⟩
      subst hcurrent
      exact hworking.step _ current rfl
  unfold reconcileAndApply
  rw [Prog.bind_eq, Prog.emits_bind]
  refine Prog.emits_mono hstart fun h r hworking => ?_
  cases r with
  | error x => trivial
  | ok current =>
    refine emits_checkCancelled ?_ fun _ => trivial
    rw [Prog.bind_eq, Prog.emits_bind, Prog.emits_attempt]
    refine Prog.emits_mono (hworking current rfl).reconcileComment fun h r hread => ?_
    obtain ⟨hworking, hsought⟩ := hread
    dsimp only
    split
    · exact hworking.failure rfl (keeps_plain rfl rfl rfl rfl)
    · exact emits_await (hworking.issue rfl fun _ => keeps_plain rfl rfl rfl rfl)
        (fun a => Prog.emits_ofExcept.2 trivial) fun _ => trivial
    · trivial
    · rename_i existing
      exact hworking.applyReconciled (hsought existing rfl)

end Working

section Execution

variable [Runtime] {h : SyncPast}

/-- The run works on a row of Slack. -/
structure Delivering (h : SyncPast) (current : ExternalAction) : Prop where
  head : (returnedActions h).head? = some current
  provider : Tracked h → current.provider = .slack

lemma commentScript_delivers : Delivers commentScript fun _ h current => Delivering h current where
  free h e he := by
    cases e <;> first | exact fun _ => trivial | cases he
  given := by
    intro desired h request reservation hslack _ _
    exact ⟨rfl, fun htracked =>
      (htracked.placed.reserved request reservation List.mem_cons_self).2.trans hslack⟩
  await := by
    intro desired h current e r he hdelivering
    refine ⟨?_, fun htracked => hdelivering.provider htracked.before⟩
    rw [← hdelivering.head]
    cases e <;> first | rfl | cases he
  issue := by
    intro desired h current request hdelivering hid _ htracked
    refine ⟨current, hdelivering.head, hid, fun hgithub => ?_⟩
    rw [hdelivering.provider htracked] at hgithub
    cases hgithub
  step := by
    intro desired h current request a hdelivering hid
    refine ⟨rfl, fun htracked => ?_⟩
    have hsame := htracked.placed.same a List.mem_cons_self current
      (List.mem_cons_of_mem a (List.mem_of_mem_head? hdelivering.head))
      ((htracked.placed.moved request a List.mem_cons_self).trans hid)
    exact hsame.2.trans (hdelivering.provider htracked.before)

lemma execute_grounded [LaxCoercion] {handler : DeploymentContextSyncHandler}
    {task : TaskExecution} {input : JsonValue} :
    (handler.execute task input).Emits commentScript AnyEnd h :=
  commentScript_delivers.execute commentScript_resumes

end Execution

end DeploymentLab
