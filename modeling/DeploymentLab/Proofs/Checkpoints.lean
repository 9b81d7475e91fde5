import DeploymentLab.Proofs.PolicyOrder

/-!
# The checkpoints before a write

A handler looks at its cancellation between its last await and every write of a provider, so that
no write is called while either of its events is set.
-/

namespace DeploymentLab

open Interaction HandlerContext

/-- The calls that write at a provider. -/
def Effect.isWrite : Effect → Bool
  | .createComment _ _ _ | .updateComment _ _ _ | .postNotification _ => true
  | _ => false

/-- Neither event of the handler is set. -/
def HandlerView.clear (context : HandlerView) : Prop :=
  context.customerCancellation = false ∧ context.ownershipLost = false

/-- A write is called in a clear view only. -/
def Uncancelled (context : HandlerView) (e : Effect) : Prop :=
  e.isWrite = true → context.clear

section Steps

variable {α β : Type} {context : HandlerView}

lemma uncancelled_of_read {e : Effect} (he : e.isWrite = false) : Uncancelled context e := by
  intro hwrite
  rw [he] at hwrite
  cases hwrite

/-- A program that awaits no write. -/
lemma attends_reads {p : Handler α} (hp : p.Issues fun e : Effect => e.isWrite = false) :
    p.Attends Uncancelled context :=
  (hp.mono fun _ he _ => uncancelled_of_read he).attends

/-- After a checkpoint, the view is clear. -/
lemma attends_checkpoint {p : Handler β} (hp : context.clear → p.Attends Uncancelled context) :
    (raiseIfCancelled.bind fun _ => p).Attends Uncancelled context := by
  unfold raiseIfCancelled
  dsimp only [Prog.bind, Prog.Attends]
  by_cases hlost : context.ownershipLost = true
  · rw [if_pos hlost]
    trivial
  · rw [if_neg hlost]
    by_cases hcancelled : context.customerCancellation = true
    · rw [if_pos hcancelled]
      trivial
    · rw [if_neg hcancelled]
      exact hp ⟨by simpa using hcancelled, by simpa using hlost⟩

lemma attends_checked {p : Handler β} (hp : p.Attends Uncancelled context) :
    (raiseIfCancelled.bind fun _ => p).Attends Uncancelled context :=
  attends_checkpoint fun _ => hp

lemma attends_await {e : Effect} {f : e.Answer → Handler β} (he : e.isWrite = false)
    (hf : ∀ a context, (f a).Attends Uncancelled context) :
    ((perform e).bind f).Attends Uncancelled context :=
  (attends_reads (Prog.issues_perform.2 he)).bind hf

lemma attends_attempted {p : Handler α} {f : Except Exn α → Handler β}
    (hp : p.Attends Uncancelled context)
    (hf : ∀ r context, (f r).Attends Uncancelled context) :
    (p.attempt.bind f).Attends Uncancelled context :=
  hp.attempt.bind hf

lemma attends_ofExcept {r : Except Exn α} {f : α → Handler β}
    (hf : ∀ a, (f a).Attends Uncancelled context) :
    ((Prog.ofExcept r).bind f).Attends Uncancelled context := by
  cases r with
  | ok a => exact hf a
  | error x => trivial

/-- A write in a clear view. -/
lemma attends_write {e : Effect} (hclear : context.clear) :
    (perform e).Attends Uncancelled context := by
  refine ⟨fun _ => hclear, fun r context => ?_⟩
  cases r <;> trivial

end Steps

section Delivery

open SlackDeliveryService

variable [Runtime] {settings : Settings} {task : TaskExecution} {a : ExternalAction}
  {request : SlackMessageRequest} {desiredFingerprint : Digest} {context : HandlerView}

lemma post_attends :
    (SlackDeliveryService.post settings task a request desiredFingerprint).Attends Uncancelled
      context := by
  have hrecorded : ∀ {context : HandlerView} {request : TransitionRequest}
      {state : SlackDeliveryState} {errorCode : Option String},
      Prog.Attends Uncancelled (raiseIfOwnershipLost.bind fun _ =>
        (perform (.transition request)).bind fun action => raiseIfCancelled.bind fun _ =>
          result state action errorCode) context := by
    intro context request state errorCode
    exact attends_reads (issues_owned (issues_await rfl fun a => issues_checked result_issues))
  refine attends_checked (attends_await rfl fun a context => attends_checkpoint fun hclear => ?_)
  refine attends_attempted (attends_write hclear) fun r context => ?_
  split
  · exact hrecorded
  · exact hrecorded
  · exact hrecorded
  · trivial
  · exact hrecorded

lemma verifyAndPost_attends :
    (verifyAndPost settings task a request desiredFingerprint).Attends Uncancelled context := by
  refine attends_checked (attends_attempted (attends_reads (Prog.issues_perform.2 rfl))
    fun r context => ?_)
  split
  · exact attends_reads (issues_checked (issues_await rfl fun a => issues_checked result_issues))
  · exact attends_reads (issues_checked (issues_await rfl fun a => issues_checked result_issues))
  · trivial
  · refine attends_checked ?_
    split
    · exact post_attends
    · exact attends_reads (issues_await rfl fun a => issues_checked result_issues)

lemma deliverReserved_attends {reservation : ActionReservation} :
    (deliverReserved settings task request desiredFingerprint reservation).Attends Uncancelled
      context := by
  unfold deliverReserved
  dsimp only
  split
  · exact attends_reads result_issues
  split
  · exact attends_reads result_issues
  · exact attends_reads result_issues
  · exact attends_reads result_issues
  · exact attends_reads result_issues
  · exact attends_reads (issues_checked (issues_await rfl fun a => result_issues))
  · refine attends_await rfl fun delay context => attends_checked ?_
    split
    · exact attends_reads result_issues
    · exact verifyAndPost_attends
  · exact verifyAndPost_attends
  · exact verifyAndPost_attends
  · exact verifyAndPost_attends

lemma deliver_attends {delivery : SlackDeliveryRequest} :
    (deliver settings task delivery).Attends Uncancelled context := by
  refine attends_checked (attends_ofExcept fun message => attends_ofExcept fun request => ?_)
  refine attends_ofExcept fun scope => attends_ofExcept fun snapshotHash => ?_
  exact attends_await rfl fun reservation context => deliverReserved_attends

end Delivery

section Workflow

open DeploymentContextSyncHandler

variable [Runtime] {handler : DeploymentContextSyncHandler} {settings : Settings}
  {task : TaskExecution} {taskInput : DeploymentContextSyncInput} {publication : Publication}
  {action : ExternalAction} {evaluation : PolicyEvaluation} {service : ServiceCatalogRecord}
  {references : List SourceReference} {context : HandlerView}

lemma applyWrite_attends :
    (applyWrite settings task publication action).Attends Uncancelled context := by
  have hfailed : ∀ {context : HandlerView} {request : TransitionRequest} {x : Exn},
      Prog.Attends Uncancelled ((perform (.transition request)).bind fun _ =>
        (.raise x : Handler DeploymentContextResult)) context :=
    attends_await rfl fun _ _ => trivial
  refine attends_await rfl fun a₁ context => attends_checked ?_
  refine attends_await rfl fun a context => attends_checkpoint fun hclear => ?_
  refine attends_attempted ?_ fun r context => ?_
  · unfold writeComment
    split
    · exact attends_write hclear
    · exact attends_write hclear
  · split
    · exact hfailed
    · exact hfailed
    · exact hfailed
    · trivial
    · exact attends_reads (issues_owned (issues_await rfl fun a =>
        issues_checked Prog.issues_ofExcept))

lemma applyReconciled_attends {existing : Option GitHubComment} :
    (applyReconciled settings task publication action existing).Attends Uncancelled context := by
  unfold applyReconciled
  split
  · exact applyWrite_attends
  split
  · split
    · exact applyWrite_attends
    · exact attends_reads (issues_await rfl fun a => Prog.issues_ofExcept)
  · exact attends_reads (issues_owned (issues_await rfl fun a =>
      issues_checked Prog.issues_ofExcept))

lemma reconcileAndApply_attends :
    (reconcileAndApply settings task publication action).Attends Uncancelled context := by
  refine Prog.Attends.bind ?_ fun a context => attends_checked (attends_attempted
    (attends_reads (reconcileComment_issues (fun _ => rfl) rfl rfl)) fun r context => ?_)
  · unfold startReconciliation
    split
    · trivial
    · exact attends_reads (Prog.issues_perform.2 rfl)
  · split
    · exact attends_reads (issues_await rfl fun _ => trivial)
    · exact attends_reads (issues_await rfl fun _ => Prog.issues_ofExcept)
    · trivial
    · exact applyReconciled_attends

lemma prepareControlledRevision_attends {snapshotHash : Digest} :
    (prepareControlledRevision task publication action service snapshotHash).Attends Uncancelled
      context := by
  apply attends_reads
  unfold prepareControlledRevision
  split
  · split
    · exact Prog.issues_ofExcept
    refine issues_checked (issues_providerCall rfl fun comment => ?_)
    dsimp only
    split
    · exact Prog.issues_ofExcept
    · exact issues_checked (issues_await rfl fun a => trivial)
  · exact Prog.issues_ofExcept

lemma applyReservation_attends {snapshotHash : Digest} {reservation : ActionReservation} :
    (applyReservation settings task publication service snapshotHash reservation).Attends
      Uncancelled context := by
  unfold applyReservation
  dsimp only
  split
  · exact attends_reads Prog.issues_ofExcept
  split
  · refine Prog.Attends.bind prepareControlledRevision_attends fun prepared context => ?_
    cases prepared with
    | inl a => exact reconcileAndApply_attends
    | inr result => trivial
  split
  · exact attends_reads Prog.issues_ofExcept
  split
  · exact attends_reads Prog.issues_ofExcept
  · exact reconcileAndApply_attends

lemma publish_attends {github : GitHubRepositoryContext} {jira : JiraWorkItem} :
    (publish handler task taskInput evaluation service github jira references).Attends Uncancelled
      context := by
  unfold publish
  refine attends_ofExcept fun scope => ?_
  generalize renderGithubComment scope _ service github jira = rendered
  refine attends_ofExcept fun body => attends_checked ?_
  refine Prog.Attends.bind (attends_reads ?_) fun reservation context => ?_
  · refine issues_attempted (Prog.issues_perform.2 rfl) fun r => ?_
    split
    · trivial
    · exact issues_checked trivial
    · trivial
  · exact applyReservation_attends.bind fun result context => trivial

omit [Runtime] in
lemma attends_recording {α β : Type} {p : Handler α} {f : α → Handler β}
    (hp : p.Issues Recording) (hf : ∀ a context, (f a).Attends Uncancelled context) :
    (p.bind f).Attends Uncancelled context := by
  refine (attends_reads (hp.mono ?_)).bind hf
  rintro e ⟨request, rfl⟩
  rfl

omit [Runtime] in
lemma attends_providerCall {β : Type} {e : Effect} {f : e.Answer → Handler β}
    (he : e.isWrite = false) (hf : ∀ a context, (f a).Attends Uncancelled context) :
    ((providerCall e).bind f).Attends Uncancelled context := by
  refine Prog.Attends.bind (attends_attempted (attends_reads (Prog.issues_perform.2 he))
    fun r context => ?_) hf
  split
  · trivial
  · trivial
  · trivial
  · trivial

lemma readJira_attends {github : GitHubRepositoryContext} :
    (readJira handler task taskInput evaluation service github references).Attends Uncancelled
      context := by
  refine attends_checked (attends_providerCall rfl fun jira context => attends_checked ?_)
  split
  · trivial
  · exact attends_recording recordJira_issues fun reference context => publish_attends

lemma readGithub_attends :
    (readGithub handler task taskInput evaluation service references).Attends Uncancelled
      context := by
  refine attends_checked (attends_providerCall rfl fun verified context => ?_)
  split
  · trivial
  refine attends_providerCall rfl fun github context => attends_checked ?_
  split
  · trivial
  split
  · trivial
  refine attends_recording recordGithub_issues fun reference context => ?_
  dsimp only
  split
  · trivial
  split
  · trivial
  split
  · trivial
  · exact readJira_attends

lemma authoritative_attends :
    (authoritative handler task taskInput).Attends Uncancelled context := by
  refine attends_ofExcept fun _ => attends_checked ?_
  split
  · trivial
  refine attends_providerCall rfl fun records context => attends_checked ?_
  refine attends_recording recordCatalog_issues fun references context => ?_
  split
  · trivial
  split
  · trivial
  · exact readGithub_attends

lemma finish_attends {exit : Exit} :
    (finish handler task taskInput exit).Attends Uncancelled context := by
  unfold finish
  split
  · trivial
  split
  · trivial
  refine attends_checked ?_
  split
  · trivial
  · exact deliver_attends.bind fun result context => trivial

/-- A run calls its writes in a clear view only. -/
theorem execute_attends [LaxCoercion] {input : JsonValue} :
    (handler.execute task input).Attends Uncancelled context := by
  unfold execute
  split
  · trivial
  · exact authoritative_attends.bind fun exit context => finish_attends

end Workflow

section Run

variable [Runtime] {S M J : Type} {setup : Setup J DeploymentContextResult}
  {providers : Provider S M}
  {c c' : Config handlerSignature DeploymentContextResult (World S DeploymentContextResult)}
  {i : ℕ} {t : Timestamp} {e : Effect}

/-- An await that is noted on the way to it is the one at which the thread arrives. -/
lemma arrive_issued {j : ℕ} {w : World S DeploymentContextResult}
    {p : Handler DeploymentContextResult}
    (hmem : .issued i t e ∈ ((machine setup providers).arrive j w p).1.log)
    (hnew : .issued i t e ∉ w.log) :
    i = j ∧ ∃ k, ((machine setup providers).arrive j w p).2 = .waiting e k := by
  induction p with
  | ret a =>
    rcases List.mem_cons.1 hmem with heq | hmem
    · cases heq
    · exact absurd hmem hnew
  | raise x =>
    rcases List.mem_cons.1 hmem with heq | hmem
    · cases heq
    · exact absurd hmem hnew
  | look k ih => exact ih (w.context j) hmem
  | call e' k _ =>
    rcases List.mem_cons.1 hmem with heq | hmem
    · cases heq
      exact ⟨rfl, k, rfl⟩
    · exact absurd hmem hnew

/-- Only the move of a handler that arrives at an await notes it. -/
lemma step_issued {mv : Move J (Choice M)}
    (hstep : (machine setup providers).step c mv = some c')
    (hmem : .issued i t e ∈ c'.world.log) (hnew : .issued i t e ∉ c.world.log) :
    mv = .resume i ∧ ∃ k, c'.thread i = .waiting e k := by
  have harrive : ∀ {j : ℕ} {w : World S DeploymentContextResult}
      {p : Handler DeploymentContextResult}, w.log = c.world.log →
      c' = Machine.put c j ((machine setup providers).arrive j w p) →
      Move.resume j = (.resume i : Move J (Choice M)) ∧ ∃ k, c'.thread i = .waiting e k := by
    intro j w p hlog heq
    subst heq
    rw [← hlog] at hnew
    obtain ⟨rfl, k, hk⟩ := arrive_issued hmem hnew
    refine ⟨rfl, k, ?_⟩
    simpa [Machine.put] using hk
  cases mv with
  | start j =>
    simp only [Machine.step] at hstep
    split at hstep
    · obtain ⟨w, hspawn, rfl⟩ := Option.map_eq_some_iff.1 hstep
      cases hspawn
      rcases List.mem_cons.1 hmem with heq | hmem
      · cases heq
      · exact absurd hmem hnew
    · cases hstep
  | exec j ch =>
    simp only [Machine.step] at hstep
    split at hstep
    · obtain ⟨⟨r, w⟩, hexec, rfl⟩ := Option.map_eq_some_iff.1 hstep
      change _ ∈ w.log at hmem
      rw [log_of_exec hexec] at hmem
      rcases List.mem_cons.1 hmem with heq | hmem
      · cases heq
      · exact absurd hmem hnew
    · cases hstep
  | resume j =>
    simp only [Machine.step] at hstep
    split at hstep
    · exact harrive rfl (Option.some.inj hstep).symm
    · exact harrive rfl (Option.some.inj hstep).symm
    · cases hstep
  | halt j =>
    simp only [Machine.step] at hstep
    split at hstep
    · cases hstep
      exact absurd hmem hnew
    · cases hstep
  | env ch =>
    simp only [Machine.step] at hstep
    obtain ⟨w, henv, rfl⟩ := Option.map_eq_some_iff.1 hstep
    change _ ∈ w.log at hmem
    rw [log_of_env henv] at hmem
    exact absurd hmem hnew

/-- Every await that is noted in a run was arrived at by one of its moves. -/
lemma resume_of_issued {db : Database} {now : Timestamp} {s : S} {moves : List (Move J (Choice M))}
    (hrun : (machine setup providers).run (Config.init (World.initial db now s)) moves = some c)
    (hmem : .issued i t e ∈ c.world.log) :
    ∃ earlier c₁ c₂ k, (machine setup providers).run (Config.init (World.initial db now s))
        earlier = some c₁ ∧ (machine setup providers).step c₁ (.resume i) = some c₂ ∧
      c₂.thread i = .waiting e k := by
  induction moves using List.reverseRecOn generalizing c with
  | nil =>
    cases hrun
    cases hmem
  | append_singleton moves mv ih =>
    rw [Machine.run_append, Option.bind_eq_some_iff] at hrun
    obtain ⟨c₁, hc₁, hlast⟩ := hrun
    rw [Machine.run_cons, Option.bind_eq_some_iff] at hlast
    obtain ⟨c₂, hstep, heq⟩ := hlast
    cases heq
    by_cases hold : .issued i t e ∈ c₁.world.log
    · exact ih hc₁ hold
    · obtain ⟨rfl, k, hk⟩ := step_issued hstep hmem hold
      exact ⟨moves, c₁, _, k, hc₁, hstep, hk⟩

end Run

/-- Whatever the handlers of the workflow are answered and whenever their events become set, no
handler calls a write of a provider while one of its events is set. -/
theorem writes_uncancelled [Runtime] [LaxCoercion] {S M J : Type} {providers : Provider S M}
    {tasks : J → SyncTask} {tick : Timestamp → Timestamp → Bool} {maximumBytes : ℕ}
    {db : Database} {now : Timestamp} {s : S} {moves : List (Move J (Choice M))}
    {c c' : Config handlerSignature DeploymentContextResult (World S DeploymentContextResult)}
    (hrun : (machine (syncTasks tasks tick maximumBytes) providers).run
      (Config.init (World.initial db now s)) moves = some c) {i : ℕ}
    (hstep : (machine (syncTasks tasks tick maximumBytes) providers).step c (.resume i) = some c')
    {e : Effect} {k : Outcome e → Handler DeploymentContextResult}
    (hwaits : c'.thread i = .waiting e k) (hwrite : e.isWrite = true) :
    (c'.world.context i).customerCancellation = false ∧
      (c'.world.context i).ownershipLost = false := by
  refine Machine.attends_run (P := Uncancelled) (fun i k o w => ?_) (fun i k r w => rfl)
    (fun j context => execute_attends) hrun hstep hwaits hwrite
  cases o with
  | issued e => rfl
  | returned e r => rfl

attribute [local instance] Sample.syncHost Sample.laxCoercion in
open Sample in
theorem writes_uncancelled_published : ∃ c₁ c₂ repository issueNumber body k,
    syncMachine.step c₁ (.resume 0) = some c₂ ∧
      c₂.thread 0 = .waiting (.createComment repository issueNumber body) k ∧
      (c₂.world.context 0).customerCancellation = false ∧
      (c₂.world.context 0).ownershipLost = false := by
  have hrun := runSync_published
  simp only [Option.any_eq_true] at hrun
  obtain ⟨c, hc, hpublished⟩ := hrun
  have hissued : ∃ repository issueNumber body,
      .issued (.createComment repository issueNumber body) ∈ past 0 c.world.log := by
    unfold hasPublished at hpublished
    split at hpublished
    · rename_i repository issueNumber body earlier heq
      rw [heq]
      exact ⟨repository, issueNumber, body, by simp⟩
    · cases hpublished
  obtain ⟨repository, issueNumber, body, hissued⟩ := hissued
  obtain ⟨t, hmem⟩ := issued_mem_past.1 hissued
  obtain ⟨earlier, c₁, c₂, k, hc₁, hstep, hwaits⟩ := resume_of_issued hc hmem
  exact ⟨c₁, c₂, repository, issueNumber, body, k, hstep, hwaits,
    writes_uncancelled hc₁ hstep hwaits rfl⟩

end DeploymentLab
