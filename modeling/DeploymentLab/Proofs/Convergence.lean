import DeploymentLab.Proofs.Chronicle
import DeploymentLab.Proofs.LedgerWrite
import DeploymentLab.Proofs.Snapshots

/-!
# Independent tasks converge

What a run asks the ledger to reserve is determined by its settings, by its input and by what it has
read of its sources (`CallsFor`). Which task and which attempt it is, the artifacts that its
evidence was stored as and the time do not matter, so that a second task of the same kind is given
the row that the first one has made.
-/

namespace DeploymentLab

open Interaction HandlerContext DeploymentContextSyncHandler Relational

section Store

variable [Runtime]

/-- What identifies the evidence of a request. -/
def ArtifactRequest.evidence (request : ArtifactRequest) :
    String × String × String × String × Digest :=
  (request.provider, request.resourceType, request.providerResourceIdentifier,
    request.sourceVersion, sha256Json request.normalizedPayload)

/-- Whether it is new or has been stored before, an artifact is of the evidence that was given. -/
lemma record_evidence {maximumBytes : ℕ} {db db' : Database} {now : Timestamp} {id : UUID}
    {request : ArtifactRequest} {artifact : SourceArtifact}
    (h : SourceArtifactRepository.record maximumBytes db now id request = .ok (artifact, db')) :
    (sourceReference artifact).evidence = request.evidence := by
  simp only [SourceArtifactRepository.record, bind, Except.bind, throw, throwThe,
    MonadExceptOf.throw, pure, Except.pure] at h
  split at h
  · cases h
  split at h
  · cases h
  split at h
  · cases h
  split at h
  · cases h
  split at h
  · rename_i existing hfound
    cases h
    have hunique := Table.pred_of_find? hfound
    rw [beq_iff_eq] at hunique
    exact (Prod.mk.inj hunique).2
  · split at h
    · cases h
      rfl
    · cases h

/-- The store answers with artifacts of what it was given. -/
def StoreAnswers (h : SyncPast) : Prop :=
  ∀ request artifact, .answered (.record request) (.ok artifact) ∈ h →
    (sourceReference artifact).evidence = ArtifactRequest.evidence request

lemma StoreAnswers.mono {h h' : SyncPast} (hanswers : StoreAnswers h') (hsub : h ⊆ h') :
    StoreAnswers h :=
  fun request artifact hmem => hanswers request artifact (hsub hmem)

section References

variable {as bs : List SourceReference}

omit [Runtime] in
/-- What depends on a reference by its sort key only is the same of the same evidence. -/
lemma map_sortReferences {β : Type} {f : SourceReference → β}
    (hf : ∀ a b : SourceReference, a.sortKey = b.sortKey → f a = f b)
    (hevidence : as.map (·.evidence) = bs.map (·.evidence)) :
    (sortReferences as).map f = (sortReferences bs).map f := by
  have hkeys : (sortReferences as).map (·.sortKey) = (sortReferences bs).map (·.sortKey) :=
    sortKeys_eq_iff.2 (hevidence ▸ List.Perm.refl _)
  rw [← List.forall₂_eq_eq_eq, List.forall₂_map_left_iff, List.forall₂_map_right_iff] at hkeys ⊢
  exact hkeys.imp hf

omit [Runtime] in
lemma snapshot_of_sortKey {a b : SourceReference} (h : a.sortKey = b.sortKey) :
    a.snapshot = b.snapshot := by
  have hevidence := sortKey_eq_iff.1 h
  simp only [SourceReference.evidence, Prod.mk.injEq] at hevidence
  obtain ⟨hprovider, htype, hidentifier, hversion, hhash⟩ := hevidence
  rw [SourceReference.snapshot, SourceReference.snapshot, hprovider, htype, hidentifier, hversion,
    hhash]

omit [Runtime] in
lemma renderSource_of_sortKey {a b : SourceReference} (h : a.sortKey = b.sortKey) :
    renderSource a = renderSource b := by
  have hevidence := sortKey_eq_iff.1 h
  simp only [SourceReference.evidence, Prod.mk.injEq] at hevidence
  obtain ⟨hprovider, htype, hidentifier, hversion, -⟩ := hevidence
  rw [renderSource, renderSource, hprovider, htype, hidentifier, hversion]

/-- The decision to publish, on these references. -/
def readyDecision (evaluation : PolicyEvaluation) (service : ServiceCatalogRecord)
    (jira : JiraWorkItem) (references : List SourceReference) : DeploymentContextDecision where
  outcome := .ready
  reasonCodes := evaluation.reasonCodes
  reasons := evaluation.reasons
  sourceReferences := references
  policyVersion := service.deploymentPolicyVersion
  generatedAt := jira.updatedAt

variable {evaluation : PolicyEvaluation} {service : ServiceCatalogRecord} {jira : JiraWorkItem}

lemma renderGithubComment_congr {scope : String} {github : GitHubRepositoryContext}
    (hevidence : as.map (·.evidence) = bs.map (·.evidence)) :
    renderGithubComment scope (readyDecision evaluation service jira as) service github jira =
      renderGithubComment scope (readyDecision evaluation service jira bs) service github jira := by
  have hsources : (sortReferences as).map renderSource = (sortReferences bs).map renderSource :=
    map_sortReferences (fun _ _ => renderSource_of_sortKey) hevidence
  unfold renderGithubComment readyDecision
  rw [hsources]

lemma decisionSnapshotHash_congr (hevidence : as.map (·.evidence) = bs.map (·.evidence)) :
    decisionSnapshotHash (readyDecision evaluation service jira as) =
      decisionSnapshotHash (readyDecision evaluation service jira bs) := by
  have hsources : (sortReferences as).map (·.snapshot) = (sortReferences bs).map (·.snapshot) :=
    map_sortReferences (fun _ _ => snapshot_of_sortKey) hevidence
  unfold decisionSnapshotHash readyDecision
  rw [hsources]

end References

end Store

/-! ## What a run is to reserve -/

/-- What a run has read of its sources. -/
structure Sources where
  records : List ServiceCatalogRecord
  github : GitHubRepositoryContext
  jira : JiraWorkItem

/-- The call reads a source. -/
def Effect.readsSource : Effect → Bool
  | .fetchRecords _ | .fetchContext _ _ | .fetchIssue _ => true
  | _ => false

structure HasRead (taskInput : DeploymentContextSyncInput) (h : SyncPast) (sources : Sources) :
    Prop where
  records : .answered (.fetchRecords taskInput.serviceId) (.ok sources.records) ∈ h
  github : .answered (.fetchContext taskInput.githubRepository taskInput.githubIssueNumber)
    (.ok sources.github) ∈ h
  jira : .answered (.fetchIssue taskInput.jiraIssueKey) (.ok sources.jira) ∈ h

section Computed

variable [Runtime]

def catalogEvidence (record : ServiceCatalogRecord) : String × String × String × String × Digest :=
  ("service_catalog", "service", record.canonicalServiceId, record.sourceVersion,
    sha256Json (catalogPayload record))

def githubEvidence (github : GitHubRepositoryContext) :
    String × String × String × String × Digest :=
  ("github", "repository_issue_context",
    toString github.repositoryId ++ ":issue:" ++ toString github.issueNumber, github.sourceVersion,
    sha256Json (githubPayload github))

def jiraEvidence (jira : JiraWorkItem) (classification : DataClassification) :
    String × String × String × String × Digest :=
  ("jira", "work_item", jira.key, jira.sourceVersion,
    sha256Json (jiraPayload jira classification))

/-- The evidence of a decision, in the order in which it is recorded. -/
def Sources.evidence (sources : Sources) (service : ServiceCatalogRecord) :
    List (String × String × String × String × Digest) :=
  sources.records.map catalogEvidence ++ [githubEvidence sources.github] ++
    [jiraEvidence sources.jira service.dataClassification]

variable (settings : Settings) (taskInput : DeploymentContextSyncInput)

/-- The reservation is the one that the sources call for, stored under any artifacts. -/
def CallsFor (sources : Sources) (request : ReservationRequest) : Prop :=
  ∃ service references body,
    (evaluateServiceCatalog taskInput sources.records settings).record = some service ∧
    references.map SourceReference.evidence = sources.evidence service ∧
    actionScopeKey settings taskInput sources.github service = .ok request.actionScopeKey ∧
    renderGithubComment request.actionScopeKey
      (readyDecision
        (evaluateServiceCatalog taskInput sources.records settings) service sources.jira
        references) service sources.github sources.jira = .ok body ∧
    request.desiredRequestFingerprint = bodyFingerprint body ∧
    request.decisionSnapshotHash = decisionSnapshotHash (readyDecision
      (evaluateServiceCatalog taskInput sources.records settings) service sources.jira references)

/-- The reservations are of one row, for the same content and the same decision. -/
structure SameKeys (a b : ReservationRequest) : Prop where
  scope : a.actionScopeKey = b.actionScopeKey
  desired : a.desiredRequestFingerprint = b.desiredRequestFingerprint
  snapshot : a.decisionSnapshotHash = b.decisionSnapshotHash

variable {settings taskInput}

/-- The artifacts that the evidence was stored as do not matter. -/
lemma CallsFor.sameKeys {sources : Sources} {request request' : ReservationRequest}
    (hrequest : CallsFor settings taskInput sources request)
    (hrequest' : CallsFor settings taskInput sources request') : SameKeys request request' := by
  obtain ⟨service, references, body, hservice, hevidence, hscope, hbody, hdesired, hsnapshot⟩ :=
    hrequest
  obtain ⟨service', references', body', hservice', hevidence', hscope', hbody', hdesired',
    hsnapshot'⟩ := hrequest'
  obtain rfl : service = service' := Option.some.inj (hservice.symm.trans hservice')
  have hsame := hevidence.trans hevidence'.symm
  have hscopes : request.actionScopeKey = request'.actionScopeKey :=
    Except.ok.inj (hscope.symm.trans hscope')
  rw [hscopes, renderGithubComment_congr hsame, hbody'] at hbody
  obtain rfl := Except.ok.inj hbody
  refine ⟨hscopes, hdesired.trans hdesired'.symm, ?_⟩
  rw [hsnapshot, hsnapshot', decisionSnapshotHash_congr hsame]

end Computed

section Execution

variable [Runtime] {settings : Settings} {taskInput : DeploymentContextSyncInput}

/-- Every reservation of a comment is the one that the sources call for. -/
def convergeScript (settings : Settings) (taskInput : DeploymentContextSyncInput) :
    Script handlerSignature DeploymentContextResult
  | h, .issued (.reserveOrGet request) =>
    ReservationRequest.provider request = .github → StoreAnswers h →
      ∃ sources, HasRead taskInput h sources ∧ CallsFor settings taskInput sources request
  | _, _ => True

/-- The await reserves a comment. -/
def Effect.reservesComment : Effect → Bool
  | .reserveOrGet request => request.provider == .github
  | _ => false

variable {h : SyncPast} {β : Type}

lemma convergeScript_free (h : SyncPast) (e : Effect) (he : e.reservesComment = false) :
    convergeScript settings taskInput h (.issued e) := by
  cases e with
  | reserveOrGet request =>
    intro hgithub
    have hreserves : (request.provider == .github) = false := he
    rw [hgithub] at hreserves
    cases hreserves
  | record | transition | revise | reconciliationDelaySeconds | fetchRecords | verifyGitHubIdentity
  | fetchContext | getComment | findCommentsByMarker | createComment | updateComment | fetchIssue
  | verifySlackIdentity | postNotification => trivial

omit [Runtime] in
lemma reservesComment_eq_false {e : Effect} (he : e.reserves = false) :
    e.reservesComment = false := by
  cases e <;> first | rfl | cases he

lemma emits_unreserved {p : Handler β} (hp : p.Issues fun e : Effect => e.reservesComment = false) :
    p.Emits (convergeScript settings taskInput) (fun _ _ => True) h :=
  hp.emits (I := fun _ => True) (fun _ _ _ => trivial) (fun h e _ he => convergeScript_free h e he)
    trivial

/-- Recording goes on with references to the evidence that was given. -/
lemma emits_recorded_as {γ : Type} {p : Handler γ} {f : γ → Handler β}
    {Q : SyncPast → Except Exn β → Prop} {evidence : γ → Prop} {I : SyncPast → Prop}
    (hp : p.Emits (convergeScript settings taskInput)
      (fun h r => ∀ a, r = .ok a → StoreAnswers h → evidence a) h) (hI : I h)
    (hmono : ∀ {h h' : SyncPast}, I h → h ⊆ h' → I h')
    (hok : ∀ {h : SyncPast} a, I h → (StoreAnswers h → evidence a) →
      (f a).Emits (convergeScript settings taskInput) Q h)
    (herror : ∀ h x, Q h (.error x)) :
    (p.bind f).Emits (convergeScript settings taskInput) Q h := by
  rw [Prog.emits_bind]
  refine Prog.emits_mono (Prog.emits_suffix hp) fun h r ⟨hevidence, hsuffix⟩ => ?_
  cases r with
  | error x => exact herror h x
  | ok a => exact hok a (hmono hI hsuffix.subset) (hevidence a rfl)

lemma record_converges {request : ArtifactRequest} :
    (perform (.record request)).Emits (convergeScript settings taskInput)
      (fun h r => ∀ artifact, r = .ok artifact → StoreAnswers h →
        (sourceReference artifact).evidence = request.evidence) h := by
  refine Prog.emits_perform.2 ⟨trivial, fun r artifact hr hanswers => ?_⟩
  subst hr
  exact hanswers request artifact List.mem_cons_self

lemma recordCatalog_converges {task : TaskExecution} {records : List ServiceCatalogRecord} :
    (recordCatalog task records).Emits (convergeScript settings taskInput)
      (fun h r => ∀ references, r = .ok references → StoreAnswers h →
        references.map (·.evidence) = records.map catalogEvidence) h := by
  induction records generalizing h with
  | nil =>
    intro references hr _
    cases hr
    rfl
  | cons record records ih =>
    intro context
    change Prog.Emits _ _ (Prog.bind (perform (.record _)) _) _
    refine emits_recorded_as (I := fun _ => True) record_converges trivial (fun _ _ => trivial)
      (fun artifact _ hartifact => ?_) fun _ _ _ heq => by cases heq
    rw [Prog.bind_eq, Prog.emits_bind]
    refine Prog.emits_mono (Prog.emits_suffix ih) fun h r ⟨hrest, hsuffix⟩ => ?_
    cases r with
    | error x =>
      intro references heq
      cases heq
    | ok rest =>
      intro references heq hanswers
      cases heq
      rw [List.map_cons, List.map_cons, hrest rest rfl hanswers,
        hartifact (hanswers.mono hsuffix.subset)]
      rfl

lemma recordGithub_converges {task : TaskExecution} {github : GitHubRepositoryContext} :
    (recordGithub task github).Emits (convergeScript settings taskInput)
      (fun h r => ∀ reference, r = .ok reference → StoreAnswers h →
        reference.evidence = githubEvidence github) h := by
  intro context
  change Prog.Emits _ _ (Prog.bind (perform (.record _)) _) _
  refine emits_recorded_as (I := fun _ => True) record_converges trivial (fun _ _ => trivial)
    (fun artifact _ hartifact => ?_) fun _ _ _ heq => by cases heq
  intro reference heq hanswers
  cases heq
  exact hartifact hanswers

lemma recordJira_converges {task : TaskExecution} {jira : JiraWorkItem}
    {classification : DataClassification} :
    (recordJira task jira classification).Emits (convergeScript settings taskInput)
      (fun h r => ∀ reference, r = .ok reference → StoreAnswers h →
        reference.evidence = jiraEvidence jira classification) h := by
  intro context
  change Prog.Emits _ _ (Prog.bind (perform (.record _)) _) _
  refine emits_recorded_as (I := fun _ => True) record_converges trivial (fun _ _ => trivial)
    (fun artifact _ hartifact => ?_) fun _ _ _ heq => by cases heq
  intro reference heq hanswers
  cases heq
  exact hartifact hanswers

variable {handler : DeploymentContextSyncHandler} {task : TaskExecution}
  {service : ServiceCatalogRecord} {references : List SourceReference}

lemma publish_converges {records : List ServiceCatalogRecord} {github : GitHubRepositoryContext}
    {jira : JiraWorkItem} {evaluation : PolicyEvaluation}
    (hread : HasRead taskInput h ⟨records, github, jira⟩)
    (hevaluation : evaluateServiceCatalog taskInput records handler.settings = evaluation)
    (hservice : evaluation.record = some service)
    (hevidence : StoreAnswers h →
      references.map (·.evidence) = Sources.evidence ⟨records, github, jira⟩ service) :
    (publish handler task taskInput evaluation service github jira references).Emits
      (convergeScript handler.settings taskInput) (fun _ _ => True) h := by
  have hafter : ∀ {h : SyncPast} {publication : Publication} {snapshotHash : Digest}
      {reservation : ActionReservation} {f : DeploymentContextResult → Handler Exit},
      (∀ result, (f result).Issues fun e : Effect => e.reservesComment = false) →
      Prog.Emits (convergeScript handler.settings taskInput) (fun _ _ => True)
        ((applyReservation handler.settings task publication service snapshotHash
          reservation).bind f) h := by
    intro h publication snapshotHash reservation f hf
    refine emits_unreserved (Prog.Issues.bind ?_ hf)
    exact applyReservation_issues.mono fun _ he => reservesComment_eq_false he.2
  unfold publish
  refine emits_checked (fun scope hscope => ?_) fun _ => trivial
  generalize hrendered : renderGithubComment scope _ service github jira = rendered
  refine emits_checked (fun body hbody => ?_) fun _ => trivial
  refine emits_checkCancelled ?_ fun _ => trivial
  rw [reserve, Prog.bind_eq, Prog.bind_eq, Prog.emits_bind, Prog.emits_bind, Prog.emits_attempt]
  refine Prog.emits_perform.2 ⟨fun _ hanswers => ?_, fun r => ?_⟩
  · subst hevaluation
    exact ⟨⟨records, github, jira⟩, hread, service, references, body, hservice, hevidence hanswers,
      hscope, hrendered.trans hbody, rfl, rfl⟩
  cases r with
  | ok reservation => exact hafter fun _ => trivial
  | error x =>
    dsimp only
    split
    · rename_i heq
      cases heq
    · exact emits_checkCancelled trivial fun _ => trivial
    · trivial

variable {records : List ServiceCatalogRecord} {github : GitHubRepositoryContext}
  {evaluation : PolicyEvaluation}

lemma readJira_converges
    (hrecords : .answered (.fetchRecords taskInput.serviceId) (.ok records) ∈ h)
    (hgithub : .answered (.fetchContext taskInput.githubRepository taskInput.githubIssueNumber)
      (.ok github) ∈ h)
    (hevaluation : evaluateServiceCatalog taskInput records handler.settings = evaluation)
    (hservice : evaluation.record = some service)
    (hevidence : StoreAnswers h →
      references.map (·.evidence) = records.map catalogEvidence ++ [githubEvidence github]) :
    (readJira handler task taskInput evaluation service github references).Emits
      (convergeScript handler.settings taskInput) (fun _ _ => True) h := by
  refine emits_checkCancelled (emits_providerCall trivial (fun jira => ?_) fun _ _ => trivial)
    fun _ => trivial
  refine emits_checkCancelled ?_ fun _ => trivial
  split
  · exact fun context => trivial
  have hread : HasRead taskInput (.answered (.fetchIssue taskInput.jiraIssueKey) (.ok jira) ::
      .issued (.fetchIssue taskInput.jiraIssueKey) :: h) ⟨records, github, jira⟩ :=
    ⟨List.mem_cons_of_mem _ (List.mem_cons_of_mem _ hrecords),
      List.mem_cons_of_mem _ (List.mem_cons_of_mem _ hgithub), List.mem_cons_self⟩
  have hstored : StoreAnswers (.answered (.fetchIssue taskInput.jiraIssueKey) (.ok jira) ::
      .issued (.fetchIssue taskInput.jiraIssueKey) :: h) →
      references.map (·.evidence) = records.map catalogEvidence ++ [githubEvidence github] :=
    fun hanswers => hevidence (hanswers.mono fun _ hmem =>
      List.mem_cons_of_mem _ (List.mem_cons_of_mem _ hmem))
  refine emits_recorded_as (I := fun h => HasRead taskInput h ⟨records, github, jira⟩ ∧
      (StoreAnswers h → references.map (·.evidence) =
        records.map catalogEvidence ++ [githubEvidence github]))
    recordJira_converges ⟨hread, hstored⟩ (fun hI hsub => ?_) (fun reference hI hreference => ?_)
    fun _ _ => trivial
  · exact ⟨⟨hsub hI.1.records, hsub hI.1.github, hsub hI.1.jira⟩,
      fun hanswers => hI.2 (hanswers.mono hsub)⟩
  · refine publish_converges hI.1 hevaluation hservice fun hanswers => ?_
    rw [List.map_append, hI.2 hanswers, List.map_singleton, hreference hanswers]
    rfl

lemma readGithub_converges
    (hrecords : .answered (.fetchRecords taskInput.serviceId) (.ok records) ∈ h)
    (hevaluation : evaluateServiceCatalog taskInput records handler.settings = evaluation)
    (hservice : evaluation.record = some service)
    (hevidence : StoreAnswers h → references.map (·.evidence) = records.map catalogEvidence) :
    (readGithub handler task taskInput evaluation service references).Emits
      (convergeScript handler.settings taskInput) (fun _ _ => True) h := by
  refine emits_checkCancelled (emits_providerCall trivial (fun verified => ?_) fun _ _ => trivial)
    fun _ => trivial
  split
  · exact fun context => trivial
  refine emits_providerCall trivial (fun github => ?_) fun _ _ => trivial
  refine emits_checkCancelled ?_ fun _ => trivial
  split
  · exact fun context => trivial
  split
  · exact fun context => trivial
  have hsub : ∀ b₁ b₂ b₃ b₄ : Act handlerSignature DeploymentContextResult,
      h ⊆ b₁ :: b₂ :: b₃ :: b₄ :: h := by
    intro b₁ b₂ b₃ b₄ act hmem
    simp [hmem]
  refine emits_recorded_as (I := fun h =>
      .answered (.fetchRecords taskInput.serviceId) (.ok records) ∈ h ∧
      .answered (.fetchContext taskInput.githubRepository taskInput.githubIssueNumber)
        (.ok github) ∈ h ∧
      (StoreAnswers h → references.map (·.evidence) = records.map catalogEvidence))
    recordGithub_converges
    ⟨hsub _ _ _ _ hrecords, List.mem_cons_self,
      fun hanswers => hevidence (hanswers.mono (hsub _ _ _ _))⟩
    (fun hI hsub => ⟨hsub hI.1, hsub hI.2.1, fun hanswers => hI.2.2 (hanswers.mono hsub)⟩)
    (fun reference hI hreference => ?_) fun _ _ => trivial
  dsimp only
  split
  · exact fun context => trivial
  split
  · exact fun context => trivial
  split
  · exact fun context => trivial
  · refine readJira_converges hI.1 hI.2.1 hevaluation hservice fun hanswers => ?_
    rw [List.map_append, hI.2.2 hanswers, List.map_singleton, hreference hanswers]

lemma readCatalog_converges :
    (readCatalog handler task taskInput).Emits (convergeScript handler.settings taskInput)
      (fun _ _ => True) h := by
  refine emits_providerCall trivial (fun records => ?_) fun _ _ => trivial
  refine emits_checkCancelled ?_ fun _ => trivial
  refine emits_recorded_as (I := fun h =>
      .answered (.fetchRecords taskInput.serviceId) (.ok records) ∈ h)
    recordCatalog_converges List.mem_cons_self (fun hI hsub => hsub hI)
    (fun references hI hreferences => ?_) fun _ _ => trivial
  split
  · exact fun context => trivial
  split
  · trivial
  · rename_i service hservice
    exact readGithub_converges hI rfl hservice hreferences

lemma execute_converges [LaxCoercion] {input : JsonValue}
    (hinput : DeploymentContextSyncInput.modelValidate input = some taskInput) :
    (handler.execute task input).Emits (convergeScript handler.settings taskInput)
      (fun _ _ => True) h := by
  unfold execute
  rw [hinput]
  dsimp only
  rw [Prog.bind_eq, Prog.emits_bind]
  have hauthoritative : (authoritative handler task taskInput).Emits
      (convergeScript handler.settings taskInput) (fun _ _ => True) h := by
    refine emits_checked (fun _ _ => emits_checkCancelled ?_ fun _ => trivial) fun _ => trivial
    split
    · exact fun context => trivial
    · exact readCatalog_converges
  refine Prog.emits_mono hauthoritative fun h r _ => ?_
  cases r with
  | error x => trivial
  | ok exit =>
    refine emits_unreserved ?_
    unfold finish
    split
    · trivial
    split
    · trivial
    refine issues_checked ?_
    split
    · trivial
    refine (deliver_issues.mono fun e he => ?_).bind fun result => trivial
    cases he <;> rfl

/-- Every reservation of a comment in a past of the task is the one that its sources call for. -/
lemma reserved_callsFor [LaxCoercion] {t : SyncTask} {h : SyncPast} {request : ReservationRequest}
    (hunfolds : t.run.Unfolds [] h) (hanswers : StoreAnswers h)
    (hissued : .issued (.reserveOrGet request) ∈ h) (hgithub : request.provider = .github) :
    ∃ taskInput sources, DeploymentContextSyncInput.modelValidate t.input = some taskInput ∧
      HasRead taskInput h sources ∧ CallsFor t.handler.settings taskInput sources request := by
  obtain ⟨later, earlier, heq⟩ := List.append_of_mem hissued
  cases hinput : DeploymentContextSyncInput.modelValidate t.input with
  | none =>
    unfold SyncTask.run execute at hunfolds
    rw [hinput] at hunfolds
    rcases hunfolds with rfl | rfl
    · cases hissued
    · simp at hissued
  | some taskInput =>
    have hconforms := Prog.Emits.conforms (execute_converges hinput) Prog.conforms_nil hunfolds
    have hsub : earlier ⊆ h := by
      rw [heq]
      exact fun _ hmem => List.mem_append_right _ (List.mem_cons_of_mem _ hmem)
    obtain ⟨sources, hread, hcalls⟩ :=
      hconforms later _ earlier heq hgithub (hanswers.mono hsub)
    exact ⟨taskInput, sources, rfl, ⟨hsub hread.records, hsub hread.github, hsub hread.jira⟩,
      hcalls⟩

end Execution

section Row

open ExternalActionRepository Database

/-- What a reservation compares a row by, and which row it is. -/
def ExternalAction.content (a : ExternalAction) : UUID × Digest × Digest :=
  (a.id, a.desiredRequestFingerprint, a.decisionSnapshotHash)

/-- The row `id` has been given another content. -/
def Event.revises {ρ : Type} (id : UUID) : Event ρ → Bool
  | .executed _ _ (.revise request) (.ok _) => RevisionRequest.actionId request == id
  | _ => false

/-- The row `id` has not been revised in `log`. -/
def Unrevised {ρ : Type} (id : UUID) (log : List (Event ρ)) : Prop :=
  ∀ event ∈ log, event.revises id = false

variable {db db' : Database} {a : ExternalAction} {scope : String} {now : Timestamp}

/-- A write that is no revision of the row leaves its content alone. -/
lemma LedgerWrite.content {ρ : Type} {e : Effect} {r : Outcome e} {i : ℕ}
    (hwrite : LedgerWrite db db' now e r) (ha : db.actionAt scope = some a)
    (hrevises : (.executed i now e r : Event ρ).revises a.id = false) :
    ∃ a', db'.actionAt scope = some a' ∧ a'.content = a.content := by
  have hrewritten : ∀ {b b'}, Rewrites db db' b b' → (b'.content = b.content ∨ a.id ≠ b.id) →
      ∃ a', db'.actionAt scope = some a' ∧ a'.content = a.content := by
    intro b b' hrewrites hcontent
    refine ⟨if a.id = b.id then b' else a, by rw [hrewrites.actionAt_eq, ha]; rfl, ?_⟩
    split
    · rename_i hid
      obtain rfl : a = b := Table.eq_of_clashes (actionAt_eq_some_iff.1 ha).1 hrewrites.present
        (clashes_of_id_eq hid)
      exact hcontent.resolve_right (not_not.2 hid)
    · rfl
  cases hwrite with
  | frame hrow hactions =>
    unfold Database.actionAt
    rw [hactions]
    exact ⟨a, ha, rfl⟩
  | creates id request hinserts =>
    refine ⟨a, ?_, rfl⟩
    rw [hinserts.actionAt_of_ne, ha]
    rintro rfl
    change db.actionAt request.actionScopeKey = _ at ha
    rw [show db.actionAt request.actionScopeKey = none from hinserts.absent] at ha
    cases ha
  | replays request b hb hprovider hrewrites => exact hrewritten hrewrites (.inl rfl)
  | moves request b hb hstatus hrewrites => exact hrewritten hrewrites (.inl rfl)
  | revises request b hb hstatus hrevision hbound hrewrites =>
    refine hrewritten hrewrites (.inr fun hid => ?_)
    rw [hid] at hrevises
    change (request.actionId == b.id) = false at hrevises
    rw [(action_eq_some_iff.1 hb).2, beq_self_eq_true] at hrevises
    cases hrevises

/-- The row that a reservation has been given is of the content that was asked for, unless the
reservation says otherwise. -/
def ActionReservation.Agrees (reservation : ActionReservation) : Prop :=
  reservation.kind = .created ∨ reservation.kind = .replay

variable {request : ReservationRequest} {reservation : ActionReservation}

/-- What a reservation returns is the row of its scope, with its content. -/
lemma LedgerWrite.reserved
    (hwrite : LedgerWrite db db' now (.reserveOrGet request) (.ok reservation)) :
    db'.actionAt request.actionScopeKey = some reservation.action ∧
      (reservation.Agrees → reservation.action.content =
        (reservation.action.id, request.desiredRequestFingerprint,
          request.decisionSnapshotHash)) := by
  cases hwrite with
  | frame hrow => cases hrow
  | creates id request hinserts => exact ⟨hinserts.actionAt_self, fun _ => rfl⟩
  | replays request a ha hprovider hrewrites =>
    refine ⟨?_, fun hagrees => ?_⟩
    · have hself := hrewrites.actionAt_self
      rwa [(actionAt_eq_some_iff.1 ha).2] at hself
    · rcases hagrees with hkind | hkind
      · exact absurd hkind reservationKind_ne_created
      · change reservationKind request a = _ at hkind
        unfold reservationKind at hkind
        split at hkind
        · rename_i hdesired
          split at hkind
          · rename_i hsnapshot
            change (_, a.desiredRequestFingerprint, a.decisionSnapshotHash) = _
            rw [hdesired, hsnapshot]
          · cases hkind
        · cases hkind

/-- A row of the content that is asked for is replayed. -/
lemma LedgerWrite.replayed_of_content
    (hwrite : LedgerWrite db db' now (.reserveOrGet request) (.ok reservation))
    (ha : db.actionAt request.actionScopeKey = some a)
    (hcontent : a.content =
      (a.id, request.desiredRequestFingerprint, request.decisionSnapshotHash)) :
    reservation.kind = .replay ∧ reservation.action.id = a.id := by
  simp only [ExternalAction.content, Prod.mk.injEq, true_and] at hcontent
  cases hwrite with
  | frame hrow => cases hrow
  | creates id request hinserts =>
    rw [show db.actionAt request.actionScopeKey = none from hinserts.absent] at ha
    cases ha
  | replays request b hb hprovider hrewrites =>
    obtain rfl : a = b := Option.some.inj (ha.symm.trans hb)
    refine ⟨?_, rfl⟩
    change reservationKind request a = _
    rw [reservationKind, if_pos hcontent.1, if_pos hcontent.2]

end Row

section Rows

variable {ρ : Type} {db db' : Database} {log : List (Event ρ)} {event : Event ρ}

/-- The row of every reservation is still there, with its content where nobody has revised it. -/
def ContentKept (db : Database) (log : List (Event ρ)) : Prop :=
  ∀ later i t request reservation earlier,
    log = later ++ .executed i t (.reserveOrGet request) (.ok reservation) :: earlier →
      Unrevised (ActionReservation.action reservation).id later →
        ∃ a, db.actionAt (ReservationRequest.actionScopeKey request) = some a ∧
          a.content = (ActionReservation.action reservation).content

/-- Whoever asks for a row of the content that it was reserved with is given that row. -/
def Replays (log : List (Event ρ)) : Prop :=
  ∀ later i' t' request' reservation' mid i t request reservation earlier,
    log = later ++ .executed i' t' (.reserveOrGet request') (.ok reservation') ::
      (mid ++ .executed i t (.reserveOrGet request) (.ok reservation) :: earlier) →
      SameKeys request request' → ActionReservation.Agrees reservation →
        Unrevised (ActionReservation.action reservation).id mid →
          ActionReservation.kind reservation' = .replay ∧
            (ActionReservation.action reservation').id = (ActionReservation.action reservation).id

/-- Every reservation has returned a row of what it says. -/
def Stated (log : List (Event ρ)) : Prop :=
  ∀ i t request reservation, .executed i t (.reserveOrGet request) (.ok reservation) ∈ log →
    ActionReservation.Agrees reservation → (ActionReservation.action reservation).content =
      ((ActionReservation.action reservation).id,
        ReservationRequest.desiredRequestFingerprint request,
        ReservationRequest.decisionSnapshotHash request)

structure RowsStand (db : Database) (log : List (Event ρ)) : Prop where
  kept : ContentKept db log
  stated : Stated log
  replays : Replays log

/-- The event is no reservation. -/
def Event.Other (event : Event ρ) : Prop :=
  ∀ i t request reservation, event ≠ .executed i t (.reserveOrGet request) (.ok reservation)

lemma ContentKept.cons (hkept : ContentKept db log)
    (hself : ∀ i t request reservation,
      event = .executed i t (.reserveOrGet request) (.ok reservation) →
        db'.actionAt (ReservationRequest.actionScopeKey request) =
          some (ActionReservation.action reservation))
    (hstep : ∀ scope a, db.actionAt scope = some a → event.revises a.id = false →
      ∃ a', db'.actionAt scope = some a' ∧ a'.content = a.content) :
    ContentKept db' (event :: log) := by
  intro later i t request reservation earlier heq hunrevised
  cases later with
  | nil => exact ⟨_, hself i t request reservation (List.cons.inj heq).1, rfl⟩
  | cons first later =>
    obtain ⟨rfl, hlog⟩ := List.cons.inj heq
    obtain ⟨a, ha, hcontent⟩ := hkept later i t request reservation earlier hlog
      fun event hmem => hunrevised event (List.mem_cons_of_mem _ hmem)
    have hid : a.id = (ActionReservation.action reservation).id := congrArg Prod.fst hcontent
    obtain ⟨a', ha', hcontent'⟩ := hstep _ a ha (hid ▸ hunrevised event List.mem_cons_self)
    exact ⟨a', ha', hcontent'.trans hcontent⟩

/-- An event that is no reservation. -/
lemma RowsStand.other (hstand : RowsStand db log) (hother : event.Other)
    (hstep : ∀ scope a, db.actionAt scope = some a → event.revises a.id = false →
      ∃ a', db'.actionAt scope = some a' ∧ a'.content = a.content) :
    RowsStand db' (event :: log) where
  kept := hstand.kept.cons (fun i t request reservation heq => absurd heq (hother _ _ _ _)) hstep
  stated i t request reservation hmem := by
    rcases List.mem_cons.1 hmem with heq | hmem
    · exact absurd heq.symm (hother _ _ _ _)
    · exact hstand.stated i t request reservation hmem
  replays := by
    intro later i' t' request' reservation' mid i t request reservation earlier heq
    cases later with
    | nil => exact absurd (List.cons.inj heq).1 (hother _ _ _ _)
    | cons first later =>
      exact hstand.replays later i' t' request' reservation' mid i t request reservation earlier
        (List.cons.inj heq).2

/-- A reservation. -/
lemma RowsStand.reserved (hstand : RowsStand db log) {i : ℕ} {now : Timestamp}
    {request : ReservationRequest} {reservation : ActionReservation}
    (hwrite : LedgerWrite db db' now (.reserveOrGet request) (.ok reservation)) :
    RowsStand db' (.executed i now (.reserveOrGet request) (.ok reservation) :: log) := by
  obtain ⟨hself, hstated⟩ := hwrite.reserved
  refine ⟨hstand.kept.cons (fun i' t request' reservation' heq => ?_) fun scope a ha hrevises =>
    hwrite.content ha hrevises, fun i' t request' reservation' hmem => ?_, ?_⟩
  · cases heq
    exact hself
  · rcases List.mem_cons.1 hmem with heq | hmem
    · cases heq
      exact hstated
    · exact hstand.stated i' t request' reservation' hmem
  · intro later i' t' request' reservation' mid i₀ t₀ request₀ reservation₀
      earlier heq hsame hagrees
      hunrevised
    cases later with
    | nil =>
      obtain ⟨hevent, hlog⟩ := List.cons.inj heq
      cases hevent
      obtain ⟨a, ha, hcontent⟩ :=
        hstand.kept mid i₀ t₀ request₀ reservation₀ earlier hlog hunrevised
      have hfirst := hstand.stated i₀ t₀ request₀ reservation₀ (by rw [hlog]; simp) hagrees
      have hid : a.id = reservation₀.action.id := congrArg Prod.fst hcontent
      rw [hsame.scope] at ha
      rw [hfirst, hsame.desired, hsame.snapshot, ← hid] at hcontent
      rw [← hid]
      exact hwrite.replayed_of_content ha hcontent
    | cons first later =>
      exact hstand.replays later i' t' request' reservation' mid i₀ t₀ request₀ reservation₀ earlier
        (List.cons.inj heq).2 hsame hagrees hunrevised

variable [Runtime] {S M J : Type} {setup : Setup J ρ} {providers : Provider S M}

lemma RowsStand.exec {w w' : World S ρ} {i : ℕ} {e : Effect} {choice : Choice M} {r : Outcome e}
    (hstand : RowsStand w.database w.log)
    (hexec : (machine setup providers).exec i e choice w = some (r, w')) :
    RowsStand w'.database w'.log := by
  rw [log_of_exec hexec]
  have hwrite := exec_writes hexec
  by_cases hreserves : ∃ request reservation,
      (⟨e, r⟩ : (e : Effect) × Outcome e) = ⟨.reserveOrGet request, .ok reservation⟩
  · obtain ⟨request, reservation, heq⟩ := hreserves
    cases heq
    exact hstand.reserved hwrite
  · refine hstand.other (fun i' t request reservation heq => hreserves ?_)
      fun scope a ha hrevises => hwrite.content ha hrevises
    cases heq
    exact ⟨request, reservation, rfl⟩

lemma rowsStand_run {db : Database} {now : Timestamp} {s : S} {moves : List (Move J (Choice M))}
    {c : Config handlerSignature ρ (World S ρ)}
    (hrun : (machine setup providers).run (Config.init (World.initial db now s)) moves = some c) :
    RowsStand c.world.database c.world.log := by
  have hnoted : ∀ {w : World S ρ} {event : Event ρ}, event.Other →
      RowsStand w.database w.log → RowsStand w.database (event :: w.log) :=
    fun hother hw => hw.other hother fun scope a ha _ => ⟨a, ha, rfl⟩
  have hmaintains : (machine setup providers).Maintains (fun _ => True) fun w =>
      RowsStand w.database w.log := by
    refine ⟨fun i o w hw => ?_, fun i r w hw => hnoted (fun _ _ _ _ heq => by cases heq) hw,
      fun i e choice w r w' hw _ hexec => hw.exec hexec, fun choice w w' hw henv => ?_,
      fun n j w w' hw hspawn => ?_⟩
    · cases o with
      | issued e => exact hnoted (w := w) (fun _ _ _ _ heq => by cases heq) hw
      | returned e r => exact hw
    · rw [log_of_env henv]
      refine ⟨?_, hw.stated, hw.replays⟩
      intro later i t request reservation earlier hlog hunrevised
      rw [Database.actionAt, externalActions_of_env henv]
      exact hw.kept later i t request reservation earlier hlog hunrevised
    · cases hspawn
      exact hnoted (w := w) (fun _ _ _ _ heq => by cases heq) hw
  refine hmaintains.run (fun j => Prog.issues_true) ⟨?_, ?_, ?_⟩ hrun
  · intro later i t request reservation earlier heq
    simp [World.initial] at heq
  · intro i t request reservation hmem
    cases hmem
  · intro later i' t' request' reservation' mid i t request reservation earlier heq
    simp [World.initial] at heq

end Rows

/-! ## Two runs of one kind -/

/-- The sources have answered both runs the same. -/
def SameSources (h h' : SyncPast) : Prop :=
  ∀ e r r', Effect.readsSource e = true → .answered e r ∈ h → .answered e r' ∈ h' → r = r'

lemma HasRead.eq {taskInput : DeploymentContextSyncInput} {h h' : SyncPast}
    {sources sources' : Sources} (hread : HasRead taskInput h sources)
    (hread' : HasRead taskInput h' sources') (hsame : SameSources h h') : sources = sources' := by
  obtain ⟨records, github, jira⟩ := sources
  obtain ⟨records', github', jira'⟩ := sources'
  have hrecords := Except.ok.inj (hsame _ _ _ rfl hread.records hread'.records)
  have hgithub := Except.ok.inj (hsame _ _ _ rfl hread.github hread'.github)
  have hjira := Except.ok.inj (hsame _ _ _ rfl hread.jira hread'.jira)
  dsimp only at hrecords hgithub hjira
  rw [hrecords, hgithub, hjira]

section Converging

variable [Runtime] {S M J : Type} {setup : Setup J DeploymentContextResult}
  {providers : Provider S M} {db : Database} {now : Timestamp} {s : S}
  {moves : List (Move J (Choice M))}
  {c : Config handlerSignature DeploymentContextResult (World S DeploymentContextResult)}

lemma exec_record {i : ℕ} {request : ArtifactRequest} {choice : Choice M}
    {w w' : World S DeploymentContextResult} {artifact : SourceArtifact}
    (hexec : (machine setup providers).exec i (.record request) choice w =
      some (.ok artifact, w')) : (sourceReference artifact).evidence = request.evidence := by
  rcases exec_cases hexec with ⟨row, history, hrun⟩ | ⟨he, -⟩
  · simp only [Database.execute, Option.some.injEq] at hrun
    cases hrecord : SourceArtifactRepository.record setup.maximumBytes w.database w.now row
        request with
    | error x =>
      rw [hrecord] at hrun
      cases hrun
    | ok result =>
      rw [hrecord] at hrun
      obtain ⟨hartifact, -⟩ := Prod.mk.inj hrun
      cases hartifact
      exact record_evidence hrecord
  · cases he

lemma storeAnswers_run (hrun : (machine setup providers).run
    (Config.init (World.initial db now s)) moves = some c) (i : ℕ) :
    StoreAnswers (past i c.world.log) := by
  intro request artifact hmem
  have hanswer := answers_run (Q := fun e r => ∀ request artifact,
      (⟨e, r⟩ : (e : Effect) × Outcome e) = ⟨.record request, .ok artifact⟩ →
        (sourceReference artifact).evidence = ArtifactRequest.evidence request)
    (fun i e choice w r w' hexec request artifact heq => by
      cases heq
      exact exec_record hexec) hrun i (.record request) (.ok artifact) hmem
  exact hanswer request artifact rfl

/-- The past of a handler is one of the task that it was started with. -/
lemma past_of_job [LaxCoercion] {tasks : J → SyncTask} {tick : Timestamp → Timestamp → Bool}
    {maximumBytes : ℕ} (hrun : (machine (syncTasks tasks tick maximumBytes) providers).run
      (Config.init (World.initial db now s)) moves = some c) {i : ℕ} {j : J}
    (hjob : (Machine.jobs moves)[i]? = some j) :
    (tasks j).run.Unfolds [] (past i c.world.log) :=
  Machine.unfolds_of_job machine_records (fun _ _ _ => past_ended) (fun _ => rfl) hrun hjob

end Converging

section Tasks

variable [Runtime] [LaxCoercion] {t t' : SyncTask} {h h' : SyncPast}
  {request request' : ReservationRequest}

/-- Tasks of one kind that have read the same ask for the same row, with the same content. -/
lemma sameKeys_of_sources (hunfolds : t.run.Unfolds [] h) (hunfolds' : t'.run.Unfolds [] h')
    (hanswers : StoreAnswers h) (hanswers' : StoreAnswers h')
    (hsettings : t.handler.settings = t'.handler.settings) (hinput : t.input = t'.input)
    (hsources : SameSources h h') (hissued : .issued (.reserveOrGet request) ∈ h)
    (hissued' : .issued (.reserveOrGet request') ∈ h') (hgithub : request.provider = .github)
    (hgithub' : request'.provider = .github) : SameKeys request request' := by
  obtain ⟨taskInput, sources, haccepted, hread, hcalls⟩ :=
    reserved_callsFor hunfolds hanswers hissued hgithub
  obtain ⟨taskInput', sources', haccepted', hread', hcalls'⟩ :=
    reserved_callsFor hunfolds' hanswers' hissued' hgithub'
  rw [hinput, haccepted'] at haccepted
  obtain rfl := Option.some.inj haccepted
  obtain rfl := hread.eq hread' hsources
  rw [hsettings] at hcalls
  exact hcalls.sameKeys hcalls'

end Tasks

namespace Sample

/-- The sources always answer the same; the moves choose the other answers. -/
def sourceProvider : Provider Unit ((e : Effect) → Outcome e) where
  issue _ _ s := s
  respond m _ e s := some (if e.readsSource then syncAnswers (.ok ⟨[], true⟩) e else m e, s)
  act _ _ _ := none

attribute [local instance] syncHost laxCoercion

def sourceMachine : Machine handlerSignature DeploymentContextResult ℕ
    (World Unit DeploymentContextResult) (Choice ((e : Effect) → Outcome e)) :=
  machine (syncTasks syncTask (fun now later => decide (now ≤ later)) 65536) sourceProvider

def runSources (moves : List SlackMove) :
    Option (Config handlerSignature DeploymentContextResult
      (World Unit DeploymentContextResult)) :=
  sourceMachine.run (Config.init (World.initial database 0 ())) moves

lemma sourceMachine_exec {i : ℕ} {e : Effect} {choice : Choice ((e : Effect) → Outcome e)}
    {w w' : World Unit DeploymentContextResult} {r : Outcome e}
    (hexec : sourceMachine.exec i e choice w = some (r, w')) (hreads : e.readsSource = true) :
    r = syncAnswers (.ok ⟨[], true⟩) e := by
  rcases exec_cases hexec with ⟨row, history, hrun⟩ | ⟨he, -⟩
  · cases e <;> first | cases hrun | cases hreads
  · simp only [sourceMachine, machine] at hexec
    split at hexec
    · cases e <;> simp [Database.execute, Effect.readsSource] at hexec hreads
    · rw [if_neg (by simp [he])] at hexec
      obtain ⟨⟨r, s⟩, hrespond, heq⟩ := Option.map_eq_some_iff.1 hexec
      cases heq
      simp only [sourceProvider, hreads, if_true, Option.some.injEq, Prod.mk.injEq] at hrespond
      exact hrespond.1.symm
    · cases hexec

lemma runSources_same {moves moves' : List SlackMove}
    {c c' : Config handlerSignature DeploymentContextResult (World Unit DeploymentContextResult)}
    (hrun : runSources moves = some c) (hrun' : runSources moves' = some c') (i i' : ℕ) :
    SameSources (past i c.world.log) (past i' c'.world.log) := by
  intro e r r' hreads hmem hmem'
  have hanswer : r = syncAnswers (.ok ⟨[], true⟩) e := answers_run
    (Q := fun e r => e.readsSource = true → r = syncAnswers (.ok ⟨[], true⟩) e)
    (fun i e choice w r w' hexec hreads => sourceMachine_exec hexec hreads) hrun i e r hmem hreads
  have hanswer' : r' = syncAnswers (.ok ⟨[], true⟩) e := answers_run
    (Q := fun e r => e.readsSource = true → r = syncAnswers (.ok ⟨[], true⟩) e)
    (fun i e choice w r w' hexec hreads => sourceMachine_exec hexec hreads) hrun' i' e r' hmem'
    hreads
  rw [hanswer, hanswer']

/-- The second task asks for its row while the first one holds it. -/
def secondAsks : List SlackMove :=
  readSources 0 1 ++ ([.start 2, .resume 1] ++ reply 1 ++ commit 1 16 ++ reply 1 ++ reply 1 ++
    commit 1 17 ++ reply 1 ++ commit 1 18)

/-- The row is given to it. -/
def bothReserve : List SlackMove := secondAsks ++ (commit 1 19).take 1

/-- The event gives handler `i` the row of its comment. -/
def givesRow (i : ℕ) : Event DeploymentContextResult → Bool
  | .executed k _ (.reserveOrGet request) (.ok _) =>
    k == i && ReservationRequest.provider request == .github
  | _ => false

/-- The event makes the row of the comment for handler `i`. -/
def makesRow (i : ℕ) : Event DeploymentContextResult → Bool
  | .executed k _ (.reserveOrGet request) (.ok reservation) =>
    k == i && ReservationRequest.provider request == .github &&
      ActionReservation.kind reservation == .created
  | _ => false

def isRevision : Event DeploymentContextResult → Bool
  | .executed _ _ (.revise _) _ => true
  | _ => false

/-- The newest event gives handler 1 a row, one before has made a row for handler 0, and no row has
been revised. -/
def givenTwice (log : List (Event DeploymentContextResult)) : Bool :=
  log.head?.any (givesRow 1) && log.tail.any (makesRow 0) && log.all fun event => !isRevision event

lemma givesRow_eq_true {i : ℕ} {event : Event DeploymentContextResult}
    (h : givesRow i event = true) : ∃ t request reservation,
      event = .executed i t (.reserveOrGet request) (.ok reservation) ∧
        ReservationRequest.provider request = .github := by
  unfold givesRow at h
  split at h
  · rename_i k t request reservation
    simp only [Bool.and_eq_true, beq_iff_eq] at h
    obtain ⟨rfl, hgithub⟩ := h
    exact ⟨t, request, reservation, rfl, hgithub⟩
  · cases h

lemma makesRow_eq_true {i : ℕ} {event : Event DeploymentContextResult}
    (h : makesRow i event = true) : ∃ t request reservation,
      event = .executed i t (.reserveOrGet request) (.ok reservation) ∧
        ReservationRequest.provider request = .github ∧
        ActionReservation.kind reservation = .created := by
  unfold makesRow at h
  split at h
  · rename_i k t request reservation
    simp only [Bool.and_eq_true, beq_iff_eq] at h
    obtain ⟨⟨rfl, hgithub⟩, hkind⟩ := h
    exact ⟨t, request, reservation, rfl, hgithub, hkind⟩
  · cases h

lemma unrevised_of_all {log mid : List (Event DeploymentContextResult)} (id : UUID)
    (h : (log.all fun event => !isRevision event) = true) (hsub : mid ⊆ log) :
    Unrevised id mid := by
  intro event hmem
  have hevent := List.all_eq_true.1 h event (hsub hmem)
  unfold Event.revises
  split
  · simp [isRevision] at hevent
  · rfl

set_option maxRecDepth 100000 in
lemma runSources_bothReserve :
    ((runSources bothReserve).any fun c => givenTwice c.world.log) = true := by
  decide +kernel

set_option maxRecDepth 100000 in
lemma runSources_second :
    ((runSources (readSources 0 2)).any fun c => c.world.log.any (givesRow 0)) = true := by
  decide +kernel

end Sample

/-- Two tasks of equal settings and equal input whose sources answer them the same ask the ledger
for the same row, with the same content and the same decision, in whichever runs, on whichever
databases and at whichever times they do. -/
theorem tasks_converge [Runtime] [LaxCoercion] {S M J S' M' J' : Type} {providers : Provider S M}
    {providers' : Provider S' M'} {tasks : J → SyncTask} {tasks' : J' → SyncTask}
    {tick tick' : Timestamp → Timestamp → Bool} {maximumBytes maximumBytes' : ℕ}
    {db db' : Database} {now now' : Timestamp} {s : S} {s' : S'}
    {moves : List (Move J (Choice M))} {moves' : List (Move J' (Choice M'))}
    {c : Config handlerSignature DeploymentContextResult (World S DeploymentContextResult)}
    {c' : Config handlerSignature DeploymentContextResult (World S' DeploymentContextResult)}
    (hrun : (machine (syncTasks tasks tick maximumBytes) providers).run
      (Config.init (World.initial db now s)) moves = some c)
    (hrun' : (machine (syncTasks tasks' tick' maximumBytes') providers').run
      (Config.init (World.initial db' now' s')) moves' = some c')
    {i i' : ℕ} {j : J} {j' : J'} (hjob : (Machine.jobs moves)[i]? = some j)
    (hjob' : (Machine.jobs moves')[i']? = some j')
    (hsettings : (tasks j).handler.settings = (tasks' j').handler.settings)
    (hinput : (tasks j).input = (tasks' j').input)
    (hsources : SameSources (past i c.world.log) (past i' c'.world.log))
    {request request' : ReservationRequest}
    (hissued : .issued (.reserveOrGet request) ∈ past i c.world.log)
    (hissued' : .issued (.reserveOrGet request') ∈ past i' c'.world.log)
    (hgithub : request.provider = .github) (hgithub' : request'.provider = .github) :
    SameKeys request request' :=
  sameKeys_of_sources (past_of_job hrun hjob) (past_of_job hrun' hjob') (storeAnswers_run hrun i)
    (storeAnswers_run hrun' i') hsettings hinput hsources hissued hissued' hgithub hgithub'

attribute [local instance] Sample.syncHost Sample.laxCoercion in
open Sample in
theorem tasks_converge_apart : ∃ c c' t t' request request' reservation reservation',
    runSources bothReserve = some c ∧ runSources (readSources 0 2) = some c' ∧
      .executed 1 t (.reserveOrGet request) (.ok reservation) ∈ c.world.log ∧
      .executed 0 t' (.reserveOrGet request') (.ok reservation') ∈ c'.world.log ∧
      SameKeys request request' := by
  have hrun := runSources_bothReserve
  have hrun' := runSources_second
  simp only [Option.any_eq_true] at hrun hrun'
  obtain ⟨c, hc, hgiven⟩ := hrun
  obtain ⟨c', hc', hreserved⟩ := hrun'
  simp only [givenTwice, Bool.and_eq_true] at hgiven
  obtain ⟨event, hevent, hgives⟩ := Option.any_eq_true .. |>.1 hgiven.1.1
  obtain ⟨t, request, reservation, rfl, hgithub⟩ := givesRow_eq_true hgives
  obtain ⟨event', hmem', hgives'⟩ := List.any_eq_true.1 hreserved
  obtain ⟨t', request', reservation', rfl, hgithub'⟩ := givesRow_eq_true hgives'
  have hmem := List.mem_of_mem_head? hevent
  have hissued : .issued (.reserveOrGet request) ∈ past 1 c.world.log :=
    (past_of_job hc (i := 1) rfl).issued (answered_mem_past.2 ⟨t, hmem⟩) fun hnil => by cases hnil
  have hissued' : .issued (.reserveOrGet request') ∈ past 0 c'.world.log :=
    (past_of_job hc' (i := 0) rfl).issued (answered_mem_past.2 ⟨t', hmem'⟩) fun hnil => by
      cases hnil
  exact ⟨c, c', t, t', request, request', reservation, reservation', hc, hc', hmem, hmem',
    tasks_converge hc hc' rfl rfl rfl rfl (runSources_same hc hc' 1 0) hissued hissued' hgithub
      hgithub'⟩

/-- Of two tasks of equal settings and equal input on one database, whose sources answer them the
same, the later one is given the row that the earlier one has made or replayed, to replay it, as
long as nobody has revised the row in between. -/
theorem later_task_replays [Runtime] [LaxCoercion] {S M J : Type} {providers : Provider S M}
    {tasks : J → SyncTask} {tick : Timestamp → Timestamp → Bool} {maximumBytes : ℕ}
    {db : Database} {now : Timestamp} {s : S} {moves : List (Move J (Choice M))}
    {c : Config handlerSignature DeploymentContextResult (World S DeploymentContextResult)}
    (hrun : (machine (syncTasks tasks tick maximumBytes) providers).run
      (Config.init (World.initial db now s)) moves = some c) {i i' : ℕ} {j j' : J}
    (hjob : (Machine.jobs moves)[i]? = some j) (hjob' : (Machine.jobs moves)[i']? = some j')
    (hsettings : (tasks j).handler.settings = (tasks j').handler.settings)
    (hinput : (tasks j).input = (tasks j').input)
    (hsources : SameSources (past i c.world.log) (past i' c.world.log))
    {later mid earlier : List (Event DeploymentContextResult)} {time time' : Timestamp}
    {request request' : ReservationRequest} {reservation reservation' : ActionReservation}
    (hlog : c.world.log = later ++ .executed i' time' (.reserveOrGet request') (.ok reservation') ::
      (mid ++ .executed i time (.reserveOrGet request) (.ok reservation) :: earlier))
    (hgithub : request.provider = .github) (hgithub' : request'.provider = .github)
    (hagrees : reservation.kind = .created ∨ reservation.kind = .replay)
    (hunrevised : Unrevised reservation.action.id mid) :
    reservation'.kind = .replay ∧ reservation'.action.id = reservation.action.id := by
  have hunfolds := past_of_job hrun hjob
  have hunfolds' := past_of_job hrun hjob'
  have hanswered : .answered (.reserveOrGet request) (.ok reservation) ∈ past i c.world.log :=
    answered_mem_past.2 ⟨time, by rw [hlog]; simp⟩
  have hanswered' : .answered (.reserveOrGet request') (.ok reservation') ∈ past i' c.world.log :=
    answered_mem_past.2 ⟨time', by rw [hlog]; simp⟩
  have hsame := sameKeys_of_sources hunfolds hunfolds' (storeAnswers_run hrun i)
    (storeAnswers_run hrun i') hsettings hinput hsources
    (hunfolds.issued hanswered fun hnil => by cases hnil)
    (hunfolds'.issued hanswered' fun hnil => by cases hnil) hgithub hgithub'
  exact (rowsStand_run hrun).replays later i' time' request' reservation' mid i time request
    reservation earlier hlog hsame hagrees hunrevised

attribute [local instance] Sample.syncHost Sample.laxCoercion in
open Sample in
theorem later_task_replays_second : ∃ c t request reservation log,
    runSources bothReserve = some c ∧
      c.world.log = .executed 1 t (.reserveOrGet request) (.ok reservation) :: log ∧
      reservation.kind = .replay := by
  have hrun := runSources_bothReserve
  simp only [Option.any_eq_true] at hrun
  obtain ⟨c, hc, hgiven⟩ := hrun
  simp only [givenTwice, Bool.and_eq_true] at hgiven
  obtain ⟨⟨hhead, htail⟩, hrevised⟩ := hgiven
  obtain ⟨event', hevent', hgives⟩ := Option.any_eq_true .. |>.1 hhead
  obtain ⟨t', request', reservation', rfl, hgithub'⟩ := givesRow_eq_true hgives
  obtain ⟨event, hmem, hmakes⟩ := List.any_eq_true.1 htail
  obtain ⟨t, request, reservation, rfl, hgithub, hcreated⟩ := makesRow_eq_true hmakes
  obtain ⟨mid, earlier, hsplit⟩ := List.append_of_mem hmem
  have hlog := (List.cons_head?_tail hevent').symm
  rw [hsplit] at hlog
  have hsub : mid ⊆ c.world.log := by
    rw [hlog]
    exact fun _ hmem => List.mem_cons_of_mem _ (List.mem_append_left _ hmem)
  refine ⟨c, t', request', reservation', _, hc, hlog, ?_⟩
  rw [← List.nil_append (_ :: _)] at hlog
  have hfirst : (Machine.jobs bothReserve)[0]? = some 1 := rfl
  have hsecond : (Machine.jobs bothReserve)[1]? = some 2 := rfl
  exact (later_task_replays hc hfirst hsecond rfl rfl (runSources_same hc hc 0 1) hlog hgithub
    hgithub' (.inl hcreated) (unrevised_of_all _ hrevised hsub)).1

end DeploymentLab
