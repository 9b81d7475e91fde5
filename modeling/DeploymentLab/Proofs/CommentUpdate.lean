import DeploymentLab.Proofs.Convergence
import DeploymentLab.Proofs.Enabled
import DeploymentLab.Proofs.EvidenceStrictness
import DeploymentLab.Proofs.Reconciliation

/-!
# A run that nothing keeps from its update

Where the sources let a request through to its publication, and the row of its scope is at a later
revision of the comment that it is bound to, a run of the machine writes over that comment
(`ReservedUpdate.reached`), whatever else the comment says.
-/

namespace DeploymentLab

open Interaction Database HandlerContext DeploymentContextSyncHandler ExternalActionRepository

section Writing

variable [Runtime] {S M J ρ : Type} {setup : Setup J ρ} {providers : Provider S M} {i n : ℕ}
  {w : World S ρ} {settings : Settings} {task : TaskExecution} {publication : Publication}
  {action : ExternalAction} {identifier : String} {comment : GitHubComment}
  {R : DeploymentContextResult → World S ρ → Prop}

/-- Handler `i` has just called `update_comment`. -/
def Updating (i : ℕ) (repository identifier body : String) (w : World S ρ) : Prop :=
  ∃ now older, w.log = .issued i now (.updateComment repository identifier body) :: older

lemma writeComment_may {R : GitHubComment → World S ρ → Prop}
    (hbound : action.providerResourceIdentifier = some identifier) :
    (machine setup providers).May i
      (Updating i publication.repository identifier publication.body) R
      (writeComment publication action) w := by
  unfold writeComment
  rw [hbound]
  exact Machine.may_issue ⟨w.now, w.log, rfl⟩

lemma applyWrite_may (h : Unhindered task 2 i w)
    (hrow : w.database.action action.id = some action) (hstatus : action.status = .reconciling)
    (hbound : action.providerResourceIdentifier = some identifier) :
    (machine setup providers).May i
      (Updating i publication.repository identifier publication.body) R
      (applyWrite settings task publication action) w := by
  have hopen : action.status ≠ .succeeded := by
    rw [hstatus]
    decide
  have hready : ∀ c ∈ (readied task w.now action).checkConstraints, c.2 = true :=
    open_constraints (h.ledger.actions action (action_eq_some_iff.1 hrow).1) hopen
      (by simp [reconciliationCompletedNoMatch]) (by simp [reconciliationCompletedNoMatch]) rfl
  refine .bind (transition_may h hrow rfl rfl (wellFormed_of_noDelays rfl rfl)
    (List.mem_singleton.2 hstatus) hready
    fun w₁ h₁ hrow₁ => may_checkpoint h₁.unsignalled (.bind ?_))
  have hreadied : (readied task w.now action).status ≠ .succeeded :=
    (by decide : ExternalActionStatus.readyToExecute ≠ .succeeded)
  change w₁.database.action (readied task w.now action).id =
    some (readied task w.now action) at hrow₁
  refine transition_may h₁ hrow₁ rfl rfl
    (wellFormed_of_settlement settings.integrationSettlementDelay_pos.le rfl rfl)
    (List.mem_singleton.2 rfl)
    (open_constraints hready hreadied (by simp [writeStarted]) (by simp [writeStarted]) rfl)
    fun w₂ h₂ _ => may_checkpoint h₂.unsignalled (.bind (.attempt (writeComment_may hbound)))

lemma startReconciliation_may (h : Unhindered task (n + 1) i w)
    (hrow : w.database.action action.id = some action) (hstatus : action.status ∈ reconcilable)
    {R : ExternalAction → World S ρ → Prop} {Q : World S ρ → Prop}
    (hR : ∀ current w', Unhindered task n i w' → w'.database.action current.id = some current →
      SameBinding action current → current.status = .reconciling → R current w') :
    (machine setup providers).May i Q R (startReconciliation task action) w := by
  have hopen : action.status ≠ .succeeded ∧ action.status ≠ .readyToExecute := by
    constructor
    all_goals
      intro heq
      rw [heq] at hstatus
      exact absurd hstatus (by decide)
  unfold startReconciliation
  by_cases hreconciling : action.status = .reconciling
  · rw [if_pos (.inl hreconciling)]
    exact hR action w (h.mono (Nat.le_succ n)) hrow (.refl action) hreconciling
  · rw [if_neg (not_or.2 ⟨hreconciling, hopen.2⟩)]
    have hexpected : action.status ∈ (reconciliationStarted task action).expectedStatuses := by
      simp only [reconcilable, List.mem_cons, List.not_mem_nil, or_false] at hstatus
      simp only [reconciliationStarted, List.mem_cons, List.not_mem_nil, or_false]
      tauto
    refine transition_may h hrow rfl rfl (wellFormed_of_noDelays rfl rfl) hexpected
      (open_constraints (h.ledger.actions action (action_eq_some_iff.1 hrow).1) hopen.1
        (by simp [reconciliationStarted]) (by simp [reconciliationStarted]) rfl)
      fun w' h' hrow' => ?_
    exact hR _ w' h' hrow' (sameBinding_transitioned rfl rfl) rfl

/-- The row is bound to the comment `identifier`, which has kept its marker, and the row calls for
writing other content over it. -/
structure UpdateDue (action : ExternalAction) (desired : Digest) (identifier : String)
    (comment : GitHubComment) : Prop where
  status : action.status ∈ reconcilable
  bound : action.providerResourceIdentifier = some identifier
  replaceable : replaceable action desired = true
  marked : substring (safeMarker action.actionScopeKey) comment.body = true
  outdated : bodyFingerprint comment.body ≠ desired

lemma UpdateDue.touch {desired : Digest} {now : Timestamp} {fence : ExecutionFence}
    (h : UpdateDue action desired identifier comment) :
    UpdateDue (touch fence now action) desired identifier comment :=
  ⟨h.status, h.bound, h.replaceable, h.marked, h.outdated⟩

lemma reconcileAndApply_may (h : Unhindered task 3 i w)
    (hrow : w.database.action action.id = some action)
    (hdue : UpdateDue action publication.desiredFingerprint identifier comment)
    (hanswers : providers.MayAnswer (.getComment publication.repository identifier)
      (some comment)) :
    (machine setup providers).May i
      (Updating i publication.repository identifier publication.body) R
      (reconcileAndApply settings task publication action) w := by
  unfold reconcileAndApply
  refine .bind
    (startReconciliation_may h hrow hdue.status fun current w₁ h₁ hrow₁ hsame hstatus => ?_)
  refine may_checkpoint h₁.unsignalled (.bind (.attempt ?_))
  have hbound : current.providerResourceIdentifier = some identifier :=
    hsame.identifier.trans hdue.bound
  unfold reconcileComment
  rw [hbound]
  refine .bind (may_answered rfl hanswers fun w₂ hbecomes => ?_)
  dsimp only
  rw [if_pos (by rw [hsame.scope]; exact hdue.marked)]
  have hrow₂ : w₂.database.action current.id = some current := by
    rw [hbecomes.database]
    exact hrow₁
  change (machine setup providers).May i _ _
    (applyReconciled settings task publication current (some comment)) w₂
  unfold applyReconciled
  dsimp only
  rw [if_pos hdue.outdated, if_pos (by rw [hsame.replaceable]; exact hdue.replaceable)]
  exact applyWrite_may (h₁.becomes hbecomes) hrow₂ hstatus hbound

end Writing

section Recording

variable [Runtime] {db db' : Database} {now : Timestamp} {x : UUID} {maximumBytes : ℕ}
  {request : ArtifactRequest}

/-- The evidence store takes the payload, and can name its source. -/
structure Storable (maximumBytes : ℕ) (payload : JsonValue) (sourceUrl : String) : Prop where
  size : (canonicalJson payload).utf8ByteSize ≤ maximumBytes
  source : ∃ url, canonicalSourceUrl sourceUrl = .ok url

/-- Only the evidence of `db'` is other than that of `db`. -/
structure SameLedger (db db' : Database) : Prop where
  tasks : db'.tasks = db.tasks
  taskAttempts : db'.taskAttempts = db.taskAttempts
  externalActions : db'.externalActions = db.externalActions
  externalActionAttempts : db'.externalActionAttempts = db.externalActionAttempts

omit [Runtime] in
lemma canonicalJson_ne_empty {payload : JsonValue} (h : payload.isDict = true) :
    canonicalJson payload ≠ "" := by
  cases payload with
  | dict members => simp [canonicalJson]
  | null | bool | int | float | str | list => cases h

omit [Runtime] in
lemma utf8ByteSize_canonicalJson_pos {payload : JsonValue} (h : payload.isDict = true) :
    0 < (canonicalJson payload).utf8ByteSize := by
  rw [Nat.pos_iff_ne_zero, ne_eq, String.utf8ByteSize_eq_zero_iff]
  exact canonicalJson_ne_empty h

lemma artifact_constraints {url : String} (hobject : request.normalizedPayload.isDict = true)
    (hprovider : request.provider ∈ ["service_catalog", "jira", "github"]) :
    ∀ c ∈ (request.artifact now x url).checkConstraints, c.2 = true := by
  have hpositive := utf8ByteSize_canonicalJson_pos hobject
  have hretained : request.fetchedAt <
      max now request.fetchedAt + days (retentionDays request.dataClassification) := by
    have hdays : 0 < days (retentionDays request.dataClassification) := by
      cases request.dataClassification <;> decide
    exact Int.lt_add_of_le_of_pos (le_max_right now request.fetchedAt) hdays
  simp only [List.mem_cons, List.not_mem_nil, or_false] at hprovider
  simp [SourceArtifact.checkConstraints, ArtifactRequest.artifact, hobject, hpositive, hretained]
  tauto

/-- A recording leaves the ledger alone and uses no identifier but its own. -/
lemma record_frame {artifact : SourceArtifact}
    (h : SourceArtifactRepository.record maximumBytes db now x request = .ok (artifact, db')) :
    SameLedger db db' ∧ UsesOnly x db db' := by
  rcases record_cases h with ⟨rfl, -⟩ | ⟨-, url', sourceArtifacts, rfl, hinsert, rfl⟩
  · exact ⟨⟨rfl, rfl, rfl, rfl⟩, fun y _ hy => hy⟩
  · refine ⟨⟨rfl, rfl, rfl, rfl⟩, fun y hne hy => ?_⟩
    simp only [unused, Bool.and_eq_true, List.all_eq_true, bne_iff_ne] at hy ⊢
    refine ⟨⟨fun b hb => ?_, hy.1.2⟩, hy.2⟩
    rw [Relational.Table.rows_insert hinsert, List.mem_append, List.mem_singleton] at hb
    rcases hb with hb | rfl
    · exact hy.1.1 b hb
    · exact hne.symm

/-- A recording succeeds under an active fence. -/
lemma record_succeeds (hobject : request.normalizedPayload.isDict = true)
    (hstorable : Storable maximumBytes request.normalizedPayload request.sourceUrl)
    (hprovider : request.provider ∈ ["service_catalog", "jira", "github"])
    (hfence : request.fence.active now db = true) (hunused : db.unused x = true) :
    ∃ artifact db',
      SourceArtifactRepository.record maximumBytes db now x request = .ok (artifact, db') ∧
        SameLedger db db' ∧ UsesOnly x db db' := by
  obtain ⟨url, hurl⟩ := hstorable.source
  cases h : SourceArtifactRepository.record maximumBytes db now x request with
  | ok result => exact ⟨result.1, result.2, rfl, record_frame h⟩
  | error failure =>
    exfalso
    have hfresh : ∀ a ∈ db.sourceArtifacts.rows, a.id ≠ x := by
      simp only [unused, Bool.and_eq_true, List.all_eq_true, bne_iff_ne] at hunused
      exact hunused.1.1
    simp only [SourceArtifactRepository.record, assertActiveFence, hfence, hurl, bind, Except.bind,
      throw, throwThe, MonadExceptOf.throw, pure, Except.pure, if_true] at h
    split at h
    · rename_i hsize
      rcases hsize with hempty | hlarge
      · exact canonicalJson_ne_empty hobject hempty
      · exact absurd hstorable.size (not_le.2 hlarge)
    split at h
    · rename_i hconstraints
      cases (requireConstraints_eq_ok.2 (artifact_constraints hobject hprovider)).symm.trans
        hconstraints
    split at h
    · cases h
    split at h
    · cases h
    · rename_i hunobserved _ hrefused
      obtain ⟨a, ha, hclash⟩ := Relational.Table.insert_eq_none_iff.1 hrefused
      rw [Relational.clashes, Bool.or_eq_true, beq_iff_eq] at hclash
      rcases hclash with hsame | hobserved
      · exact hfresh a ha hsame
      · rw [Relational.Table.find?_eq_none_iff.1 hunobserved a ha] at hobserved
        cases hobserved

end Recording

/-- The evidence of what has been read can be stored. -/
structure Sources.Recordable [Runtime] (sources : Sources) (service : ServiceCatalogRecord)
    (maximumBytes : ℕ) : Prop where
  catalog : ∀ record ∈ sources.records,
    Storable maximumBytes (catalogPayload record) record.sourceUrl
  github : Storable maximumBytes (githubPayload sources.github) sources.github.sourceUrl
  jira : Storable maximumBytes (jiraPayload sources.jira service.dataClassification)
    sources.jira.sourceUrl

section Reading

variable [Runtime] {S M J ρ : Type} {setup : Setup J ρ} {providers : Provider S M} {i n : ℕ}
  {w w' : World S ρ} {task : TaskExecution} {scope : String} {action : ExternalAction}
  {Q : World S ρ → Prop}

/-- Nothing keeps handler `i` from going on, and `action` is the row of the scope. -/
structure Heading (task : TaskExecution) (scope : String) (action : ExternalAction) (n i : ℕ)
    (w : World S ρ) : Prop where
  unhindered : Unhindered task n i w
  row : w.database.actionAt scope = some action

omit [Runtime] in
lemma Heading.becomes (h : Heading task scope action n i w) (hbecomes : Becomes w w.database w') :
    Heading task scope action n i w' := by
  refine ⟨h.unhindered.becomes hbecomes, ?_⟩
  rw [hbecomes.database]
  exact h.row

lemma may_ofExcept {β : Type} {R : β → World S ρ → Prop} {r : Except Exn β} {b : β} (h : r = .ok b)
    (hR : R b w) : (machine setup providers).May i Q R (Prog.ofExcept r) w := by
  rw [h]
  exact hR

lemma datetimeNow_may {R : Timestamp → World S ρ → Prop} (hR : ∀ now, R now w) :
    (machine setup providers).May i Q R datetimeNow w :=
  hR _

/-- Evidence that is stored. -/
lemma record_may {request : ArtifactRequest} {R : SourceArtifact → World S ρ → Prop}
    (h : Heading task scope action (n + 1) i w) (hfence : request.fence = task.executionFence)
    (hobject : request.normalizedPayload.isDict = true)
    (hstorable : Storable setup.maximumBytes request.normalizedPayload request.sourceUrl)
    (hprovider : request.provider ∈ ["service_catalog", "jira", "github"])
    (hR : ∀ artifact w', (sourceReference artifact).evidence = request.evidence →
      Heading task scope action n i w' → R artifact w') :
    (machine setup providers).May i Q R (perform (.record request)) w := by
  obtain ⟨x, hunused, hroom⟩ := h.unhindered.room.take
  have hactive : request.fence.active w.now w.database = true := by
    rw [hfence]
    exact h.unhindered.fence
  obtain ⟨artifact, db, hrecord, hsame, huses⟩ :=
    record_succeeds hobject hstorable hprovider hactive hunused
  have hrun : w.database.execute setup.maximumBytes w.now x x (.record request) =
      some (.ok artifact, db) :=
    congrArg (fun r => some (w.database.settle r)) hrecord
  refine may_transaction hunused hrun fun w' hbecomes => ?_
  refine hR artifact w' (record_evidence hrecord) ⟨⟨?_, ?_, ?_, ?_⟩, ?_⟩
  · rw [hbecomes.database]
    refine ⟨?_, ?_⟩
    · rw [hsame.externalActions]
      exact h.unhindered.ledger.actions
    · rw [hsame.externalActions, hsame.externalActionAttempts]
      exact h.unhindered.ledger.history
  · rw [hbecomes.database, hbecomes.now, ExecutionFence.active, hsame.tasks, hsame.taskAttempts]
    exact h.unhindered.fence
  · exact h.unhindered.unsignalled.becomes hbecomes
  · rw [hbecomes.database]
    exact hroom db huses
  · rw [hbecomes.database, actionAt, hsame.externalActions]
    exact h.row

/-- A source that may answer. -/
lemma providerCall_may {e : Effect} {a : e.Answer} {R : e.Answer → World S ρ → Prop}
    (h : Heading task scope action n i w) (he : e.isTransaction = false)
    (hanswers : providers.MayAnswer e a)
    (hR : ∀ w', Heading task scope action n i w' → R a w') :
    (machine setup providers).May i Q R (providerCall e) w :=
  .bind (.attempt (may_answered he hanswers fun w' hbecomes => hR w' (h.becomes hbecomes)))

lemma recordCatalog_may {records : List ServiceCatalogRecord}
    {R : List SourceReference → World S ρ → Prop}
    (h : Heading task scope action (records.length + n) i w)
    (hstorable : ∀ record ∈ records,
      Storable setup.maximumBytes (catalogPayload record) record.sourceUrl)
    (hR : ∀ references w', references.map (·.evidence) = records.map catalogEvidence →
      Heading task scope action n i w' → R references w') :
    (machine setup providers).May i Q R (recordCatalog task records) w := by
  induction records generalizing w R with
  | nil =>
    rw [List.length_nil, Nat.zero_add] at h
    exact hR [] w rfl h
  | cons record records ih =>
    rw [List.length_cons, Nat.add_right_comm] at h
    obtain ⟨hfirst, hrest⟩ := List.forall_mem_cons.1 hstorable
    refine .bind (datetimeNow_may fun fetchedAt => .bind (record_may h rfl rfl hfirst
      List.mem_cons_self fun artifact w' hartifact h' => ?_))
    refine .bind (ih h' hrest fun references w'' hreferences h'' => ?_)
    refine hR _ w'' ?_ h''
    rw [List.map_cons, List.map_cons, hreferences, hartifact]
    rfl

lemma recordGithub_may {github : GitHubRepositoryContext} {R : SourceReference → World S ρ → Prop}
    (h : Heading task scope action (n + 1) i w)
    (hstorable : Storable setup.maximumBytes (githubPayload github) github.sourceUrl)
    (hR : ∀ reference w', reference.evidence = githubEvidence github →
      Heading task scope action n i w' → R reference w') :
    (machine setup providers).May i Q R (recordGithub task github) w :=
  .bind (datetimeNow_may fun fetchedAt => .bind (record_may h rfl rfl hstorable (by simp)
    fun artifact w' hartifact h' => hR _ w' hartifact h'))

lemma recordJira_may {jira : JiraWorkItem} {classification : DataClassification}
    {R : SourceReference → World S ρ → Prop} (h : Heading task scope action (n + 1) i w)
    (hstorable : Storable setup.maximumBytes (jiraPayload jira classification) jira.sourceUrl)
    (hR : ∀ reference w', reference.evidence = jiraEvidence jira classification →
      Heading task scope action n i w' → R reference w') :
    (machine setup providers).May i Q R (recordJira task jira classification) w :=
  .bind (datetimeNow_may fun fetchedAt => .bind (record_may h rfl rfl hstorable (by simp)
    fun artifact w' hartifact h' => hR _ w' hartifact h'))

end Reading

/-- The checks let the request through to its publication, with these sources. -/
structure LetThrough [Runtime] (handler : DeploymentContextSyncHandler)
    (taskInput : DeploymentContextSyncInput) (sources : Sources) (service : ServiceCatalogRecord) :
    Prop where
  slack : validateSlackRequest handler taskInput = .ok ()
  scope : evaluateStaticScope taskInput handler.settings = none
  ready : (evaluateServiceCatalog taskInput sources.records handler.settings).outcome = .ready
  record : (evaluateServiceCatalog taskInput sources.records handler.settings).record = some service
  repository : Runtime.casefold sources.github.fullName =
    Runtime.casefold taskInput.githubRepository
  issue : sources.github.issueNumber = taskInput.githubIssueNumber
  isIssue : sources.github.isPullRequest = false
  unarchived : sources.github.archived = false
  isOpen : Runtime.casefold sources.github.issueState = "open"
  jira : Runtime.casefold sources.jira.key = Runtime.casefold taskInput.jiraIssueKey

/-- The providers may answer with the sources, and with the comment. -/
structure MayAnswerAll {S M : Type} (providers : Provider S M)
    (taskInput : DeploymentContextSyncInput) (sources : Sources) (identifier : String)
    (comment : GitHubComment) : Prop where
  records : providers.MayAnswer (.fetchRecords taskInput.serviceId) sources.records
  identity : providers.MayAnswer .verifyGitHubIdentity true
  github : providers.MayAnswer
    (.fetchContext taskInput.githubRepository taskInput.githubIssueNumber) sources.github
  jira : providers.MayAnswer (.fetchIssue taskInput.jiraIssueKey) sources.jira
  comment : providers.MayAnswer (.getComment taskInput.githubRepository identifier) (some comment)

section Publishing

variable [Runtime] {S M J ρ : Type} {setup : Setup J ρ} {providers : Provider S M} {i n : ℕ}
  {w : World S ρ} {handler : DeploymentContextSyncHandler} {task : TaskExecution}
  {taskInput : DeploymentContextSyncInput} {sources : Sources} {service : ServiceCatalogRecord}
  {request : ReservationRequest} {action : ExternalAction} {identifier : String}
  {comment : GitHubComment} {references : List SourceReference} {scope : String}
  {R : Exit → World S ρ → Prop}

/-- Handler `i` has just called `update_comment` with the content that is asked for. -/
def Overwriting (i : ℕ) (repository identifier : String) (desired : Digest) (w : World S ρ) :
    Prop :=
  ∃ body, bodyFingerprint body = desired ∧ Updating i repository identifier body w

/-- The row is the one that the reservation asks for, and its update is due. -/
structure ReservedUpdate (request : ReservationRequest) (identifier : String)
    (comment : GitHubComment) (action : ExternalAction) : Prop where
  provider : action.provider = .github
  operation : action.operation = .upsertDeploymentContextComment
  desired : action.desiredRequestFingerprint = request.desiredRequestFingerprint
  snapshot : action.decisionSnapshotHash = request.decisionSnapshotHash
  due : UpdateDue action request.desiredRequestFingerprint identifier comment

/-- A reservation that finds the row as it asks for it. -/
lemma reserve_may {Q : World S ρ → Prop} {R : ActionReservation → World S ρ → Prop}
    (h : Heading task request.actionScopeKey action (n + 1) i w)
    (hfence : request.fence = task.executionFence) (hprovider : request.provider = .github)
    (hoperation : request.operation = .upsertDeploymentContextComment)
    (hreserved : ReservedUpdate request identifier comment action)
    (hR : ∀ w', Unhindered task n i w' →
      w'.database.action action.id = some (touch request.fence w.now action) →
        R ⟨touch request.fence w.now action, .replay⟩ w') :
    (machine setup providers).May i Q R (reserve request) w := by
  obtain ⟨x, hunused, hroom⟩ := h.unhindered.room.take
  have hactive : request.fence.active w.now w.database = true := by
    rw [hfence]
    exact h.unhindered.fence
  have hsupported : (request.provider, request.operation) ∈ supportedExternalActions := by
    rw [hprovider, hoperation]
    exact List.mem_cons_self
  obtain ⟨db, hreserve, hrewrites, huses⟩ := reserveOrGet_replays h.unhindered.ledger hunused
    hsupported hactive h.row (hreserved.provider.trans hprovider.symm)
    (hreserved.operation.trans hoperation.symm)
  have hkind : reservationKind request action = .replay := by
    rw [reservationKind, if_pos hreserved.desired, if_pos hreserved.snapshot]
  rw [hkind] at hreserve
  have hrun : w.database.execute setup.maximumBytes w.now x x (.reserveOrGet request) =
      some (.ok ⟨touch request.fence w.now action, .replay⟩, db) :=
    congrArg (fun r => some (w.database.settle r)) hreserve
  refine .bind (.attempt (may_transaction hunused hrun fun w' hbecomes => ?_))
  refine hR w' (h.unhindered.rewrites hrewrites (hroom db huses) hbecomes) ?_
  rw [hbecomes.database]
  exact hrewrites.action_self

lemma applyReservation_may {publication : Publication} {snapshotHash : Digest}
    {settings : Settings} {R : DeploymentContextResult → World S ρ → Prop}
    (h : Unhindered task 3 i w) (hrow : w.database.action action.id = some action)
    (hdue : UpdateDue action publication.desiredFingerprint identifier comment)
    (hanswers : providers.MayAnswer (.getComment publication.repository identifier)
      (some comment)) :
    (machine setup providers).May i
      (Updating i publication.repository identifier publication.body) R
      (applyReservation settings task publication service snapshotHash ⟨action, .replay⟩) w := by
  have hunsettled : action.status ≠ .succeeded ∧ action.status ≠ .needsHumanReview ∧
      action.status ≠ .permanentFailure := by
    have hstatus := hdue.status
    refine ⟨?_, ?_, ?_⟩
    all_goals
      intro heq
      rw [heq] at hstatus
      exact absurd hstatus (by decide)
  unfold applyReservation
  dsimp only
  rw [if_neg (by decide), if_neg (by decide), if_neg fun hreplay => hunsettled.1 hreplay.2,
    if_neg fun hreplay => hreplay.2.elim hunsettled.2.1 hunsettled.2.2]
  exact reconcileAndApply_may h hrow hdue hanswers

/-- What a run publishes, once its text has been rendered. -/
lemma publish_eq {evaluation : PolicyEvaluation} {github : GitHubRepositoryContext}
    {jira : JiraWorkItem} {body : String}
    (hscope : actionScopeKey handler.settings taskInput github service = .ok scope)
    (hbody : renderGithubComment scope (readyDecision evaluation service jira references) service
      github jira = .ok body) :
    publish handler task taskInput evaluation service github jira references =
      raiseIfCancelled.bind fun _ => (reserve {
        fence := task.executionFence
        provider := .github
        operation := .upsertDeploymentContextComment
        actionScopeKey := scope
        desiredRequestFingerprint := bodyFingerprint body
        decisionSnapshotHash :=
          decisionSnapshotHash (readyDecision evaluation service jira references) }).bind
      fun reservation => (applyReservation handler.settings task
        { repository := taskInput.githubRepository
          issueNumber := taskInput.githubIssueNumber
          body
          desiredFingerprint := bodyFingerprint body
          decision := readyDecision evaluation service jira references
          references } service
        (decisionSnapshotHash (readyDecision evaluation service jira references)) reservation).bind
      fun result => .ret { result, github := some github, service := some service } := by
  unfold publish
  rw [hscope]
  simp only [Prog.bind_eq, Prog.ofExcept, Prog.bind]
  generalize hrendered : renderGithubComment scope _ service github jira = rendered
  obtain rfl : rendered = .ok body := hrendered.symm.trans hbody
  rfl

lemma publish_may (h : Heading task request.actionScopeKey action 4 i w)
    (hreserved : ReservedUpdate request identifier comment action)
    (hcalls : CallsFor handler.settings taskInput sources request)
    (hservice : (evaluateServiceCatalog taskInput sources.records handler.settings).record =
      some service)
    (hreferences : references.map (·.evidence) = sources.evidence service)
    (hanswers : MayAnswerAll providers taskInput sources identifier comment) :
    (machine setup providers).May i
      (Overwriting i taskInput.githubRepository identifier request.desiredRequestFingerprint) R
      (publish handler task taskInput
        (evaluateServiceCatalog taskInput sources.records handler.settings) service sources.github
        sources.jira references) w := by
  obtain ⟨service', references', body, hservice', hreferences', hscope,
    hbody, hdesired, hsnapshot⟩ :=
    hcalls
  obtain rfl : service = service' := Option.some.inj (hservice.symm.trans hservice')
  have hsame := hreferences.trans hreferences'.symm
  rw [← renderGithubComment_congr hsame] at hbody
  rw [← decisionSnapshotHash_congr hsame] at hsnapshot
  rw [publish_eq hscope hbody, ← hdesired, ← hsnapshot]
  refine may_checkpoint h.unhindered.unsignalled (.bind ?_)
  refine reserve_may h rfl rfl rfl ⟨hreserved.provider, hreserved.operation, hreserved.desired,
    hreserved.snapshot, hreserved.due⟩ fun w' h' hrow => .bind ?_
  refine (applyReservation_may h' hrow hreserved.due.touch hanswers.comment).mono
    fun _ hupdating => ?_
  exact ⟨body, hdesired.symm, hupdating⟩

lemma readJira_may (h : Heading task request.actionScopeKey action 5 i w)
    (hreserved : ReservedUpdate request identifier comment action)
    (hcalls : CallsFor handler.settings taskInput sources request)
    (hthrough : LetThrough handler taskInput sources service)
    (hstorable : sources.Recordable service setup.maximumBytes)
    (hreferences : references.map (·.evidence) =
      sources.records.map catalogEvidence ++ [githubEvidence sources.github])
    (hanswers : MayAnswerAll providers taskInput sources identifier comment) :
    (machine setup providers).May i
      (Overwriting i taskInput.githubRepository identifier request.desiredRequestFingerprint) R
      (readJira handler task taskInput
        (evaluateServiceCatalog taskInput sources.records handler.settings) service sources.github
        references) w := by
  refine may_checkpoint h.unhindered.unsignalled (.bind ?_)
  refine providerCall_may h rfl hanswers.jira fun w₁ h₁ => ?_
  refine may_checkpoint h₁.unhindered.unsignalled ?_
  rw [if_neg (not_not.2 hthrough.jira)]
  refine .bind (recordJira_may h₁ hstorable.jira fun reference w₂ hreference h₂ => ?_)
  refine publish_may h₂ hreserved hcalls hthrough.record ?_ hanswers
  rw [List.map_append, hreferences, List.map_singleton, hreference]
  rfl

lemma readGithub_may (h : Heading task request.actionScopeKey action 6 i w)
    (hreserved : ReservedUpdate request identifier comment action)
    (hcalls : CallsFor handler.settings taskInput sources request)
    (hthrough : LetThrough handler taskInput sources service)
    (hstorable : sources.Recordable service setup.maximumBytes)
    (hreferences : references.map (·.evidence) = sources.records.map catalogEvidence)
    (hanswers : MayAnswerAll providers taskInput sources identifier comment) :
    (machine setup providers).May i
      (Overwriting i taskInput.githubRepository identifier request.desiredRequestFingerprint) R
      (readGithub handler task taskInput
        (evaluateServiceCatalog taskInput sources.records handler.settings) service references)
      w := by
  refine may_checkpoint h.unhindered.unsignalled (.bind ?_)
  refine providerCall_may h rfl hanswers.identity fun w₁ h₁ => ?_
  rw [if_neg (by decide)]
  refine .bind (providerCall_may h₁ rfl hanswers.github fun w₂ h₂ => ?_)
  refine may_checkpoint h₂.unhindered.unsignalled ?_
  rw [if_neg (not_not.2 hthrough.repository), if_neg (not_not.2 hthrough.issue)]
  refine .bind (recordGithub_may h₂ hstorable.github fun reference w₃ hreference h₃ => ?_)
  dsimp only
  rw [if_neg (by rw [hthrough.isIssue]; decide), if_neg (by rw [hthrough.unarchived]; decide),
    if_neg (not_not.2 hthrough.isOpen)]
  refine readJira_may h₃ hreserved hcalls hthrough hstorable ?_ hanswers
  rw [List.map_append, hreferences, List.map_singleton, hreference]

lemma execute_may [LaxCoercion] {input : JsonValue} {R : DeploymentContextResult → World S ρ → Prop}
    (h : Heading task request.actionScopeKey action (sources.records.length + 6) i w)
    (hinput : DeploymentContextSyncInput.modelValidate input = some taskInput)
    (hreserved : ReservedUpdate request identifier comment action)
    (hcalls : CallsFor handler.settings taskInput sources request)
    (hthrough : LetThrough handler taskInput sources service)
    (hstorable : sources.Recordable service setup.maximumBytes)
    (hanswers : MayAnswerAll providers taskInput sources identifier comment) :
    (machine setup providers).May i
      (Overwriting i taskInput.githubRepository identifier request.desiredRequestFingerprint) R
      (handler.execute task input) w := by
  unfold DeploymentContextSyncHandler.execute
  rw [hinput]
  dsimp only
  refine .bind (.bind (may_ofExcept hthrough.slack ?_))
  refine may_checkpoint h.unhindered.unsignalled ?_
  rw [hthrough.scope]
  dsimp only
  refine .bind (providerCall_may h rfl hanswers.records fun w₁ h₁ => ?_)
  refine may_checkpoint h₁.unhindered.unsignalled ?_
  dsimp only
  refine .bind (recordCatalog_may h₁ hstorable.catalog fun references w₂ hreferences h₂ => ?_)
  rw [if_neg (not_not.2 hthrough.ready)]
  have hrecord := hthrough.record
  split
  · rename_i hnone
    rw [hrecord] at hnone
    cases hnone
  · rename_i service' hservice
    obtain rfl : service = service' := Option.some.inj (hrecord.symm.trans hservice)
    exact readGithub_may h₂ hreserved hcalls hthrough hstorable hreferences hanswers

/-- Where no run is at work, and nothing keeps a run from it, a run of the machine writes over the
comment that the row of its scope is bound to. -/
theorem ReservedUpdate.reached [LaxCoercion] {input : JsonValue} {j : J}
    {setup : Setup J DeploymentContextResult}
    {c : Config handlerSignature DeploymentContextResult (World S DeploymentContextResult)}
    (hreserved : ReservedUpdate request identifier comment action)
    (hjob : setup.job j = handler.execute task input)
    (hidle : ∀ k < c.count, (c.thread k).active = false)
    (h : Heading task request.actionScopeKey action (sources.records.length + 6) c.count c.world)
    (hinput : DeploymentContextSyncInput.modelValidate input = some taskInput)
    (hcalls : CallsFor handler.settings taskInput sources request)
    (hthrough : LetThrough handler taskInput sources service)
    (hstorable : sources.Recordable service setup.maximumBytes)
    (hanswers : MayAnswerAll providers taskInput sources identifier comment) :
    ∃ moves c', (machine setup providers).run c (.start j :: moves) = some c' ∧
      Overwriting c.count taskInput.githubRepository identifier request.desiredRequestFingerprint
        c'.world ∧ ∀ mv ∈ moves, mv.Of c.count := by
  refine runs_of_may hidle fun w hstarted => ?_
  rw [hjob]
  exact execute_may (h.becomes hstarted) hinput hreserved hcalls hthrough hstorable hanswers

end Publishing

end DeploymentLab
