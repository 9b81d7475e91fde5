import DeploymentLab.Proofs.CanonicalJson
import DeploymentLab.Proofs.Snapshots
import DeploymentLab.Proofs.TaskRows

/-!
# A task is created once for its idempotency key

Whoever may be at work on the tasks, a key has one row, one request creates it, and every later
request with the key is answered with that row or, if it asks for something else, refused.
-/

namespace DeploymentLab

open Relational Transactions TaskService

namespace DeploymentContextSyncInput

variable [LaxCoercion] {input : DeploymentContextSyncInput} {x : JsonValue}

/-- The members of a dump. -/
def members (input : DeploymentContextSyncInput) : List (String × JsonValue) :=
  [("jira_issue_key", .str input.jiraIssueKey),
    ("github_repository", .str input.githubRepository),
    ("github_issue_number", .int input.githubIssueNumber),
    ("service_id", .str input.serviceId),
    ("publish_slack_notification", .bool input.publishSlackNotification)] ++
    (input.slackChannelId.map fun channel => ("slack_channel_id", JsonValue.str channel)).toList

omit [LaxCoercion] in
lemma validate_self (input : DeploymentContextSyncInput) :
    validate input.jiraIssueKey input.githubRepository input.githubIssueNumber input.serviceId
      input.publishSlackNotification input.slackChannelId = some input := by
  unfold validate
  rw [dif_pos ⟨input.jiraIssueKey_pattern, input.githubRepository_length,
    input.githubRepository_pattern, input.githubIssueNumber_range, input.serviceId_visible,
    input.slackChannelId_pattern, input.channel_required⟩]

/-- A dump is read back. -/
theorem modelValidate_modelDump (input : DeploymentContextSyncInput) :
    modelValidate input.modelDump = some input := by
  have hself := input.validate_self
  cases hchannel : input.slackChannelId with
  | none =>
    rw [hchannel] at hself
    simp [modelDump, modelValidate, hchannel, fields, readString, List.lookup_cons,
      LaxCoercion.int_int, LaxCoercion.bool_bool, hself]
  | some channel =>
    rw [hchannel] at hself
    simp [modelDump, modelValidate, hchannel, fields, readString, readOptionalString,
      List.lookup_cons, LaxCoercion.int_int, LaxCoercion.bool_bool, hself]

omit [LaxCoercion] in
lemma nodup_members (input : DeploymentContextSyncInput) :
    (input.members.map (·.1)).Nodup := by
  cases hchannel : input.slackChannelId <;> simp [members, hchannel]

omit [LaxCoercion] in
lemma wellFormed_modelDump (input : DeploymentContextSyncInput) : input.modelDump.WellFormed := by
  refine ⟨input.nodup_members, wellFormedMembers_iff.2 ?_⟩
  change ∀ m ∈ input.members, m.2.WellFormed
  cases hchannel : input.slackChannelId <;> simp [members, hchannel, JsonValue.WellFormed]

end DeploymentContextSyncInput

section Normalize

variable [LaxCoercion] {taskType : String} {taskInput x y : JsonValue}

theorem normalizeTaskInput_idempotent (h : normalizeTaskInput taskType taskInput = some x) :
    normalizeTaskInput taskType x = some x := by
  unfold normalizeTaskInput at h ⊢
  by_cases htype : taskType ≠ "deployment_context_sync"
  · rw [if_pos htype]
  · rw [if_neg htype] at h ⊢
    obtain ⟨input, -, rfl⟩ := Option.map_eq_some_iff.1 h
    rw [DeploymentContextSyncInput.modelValidate_modelDump]
    rfl

lemma wellFormed_normalizeTaskInput (h : normalizeTaskInput taskType taskInput = some x)
    (hwell : taskInput.WellFormed) : x.WellFormed := by
  unfold normalizeTaskInput at h
  by_cases htype : taskType ≠ "deployment_context_sync"
  · rw [if_pos htype] at h
    cases h
    exact hwell
  · rw [if_neg htype] at h
    obtain ⟨input, -, rfl⟩ := Option.map_eq_some_iff.1 h
    exact input.wellFormed_modelDump

end Normalize

def CreateTaskRequest.creation [Runtime] (request : CreateTaskRequest) :
    CreateTaskRequest × Digest :=
  (request, taskRequestFingerprint request.taskType request.taskInput)

/-- The request that the row of a task was made for, and its fingerprint. -/
def Task.creation (t : Task) : CreateTaskRequest × Digest :=
  (⟨t.idempotencyKey, t.taskType, t.taskInput⟩, t.requestFingerprint)

def Operation.creates? : Operation → Option CreateTaskRequest
  | .createTask _ _ request => some request
  | _ => none

/-- The entry of a request under the key that made a row. -/
def createdUnder (key : String) : Operation × Except Exn Response → Bool
  | (.createTask _ _ request, .ok (.created result)) =>
    request.idempotencyKey == key && result.created
  | _ => false

section Rows

variable {db db' : Database} {key : String} {t t' : Task}

lemma getByIdempotencyKey_eq_some_iff :
    TaskRepository.getByIdempotencyKey db key = some t ↔
      t ∈ db.tasks.rows ∧ t.idempotencyKey = key := by
  constructor
  · intro h
    exact ⟨Table.mem_of_find? h, by simpa using Table.pred_of_find? h⟩
  · rintro ⟨hmem, rfl⟩
    cases hfind : TaskRepository.getByIdempotencyKey db t.idempotencyKey with
    | none =>
      have hnone := Table.find?_eq_none_iff.1 hfind t hmem
      simp at hnone
    | some s =>
      have hkey : s.idempotencyKey = t.idempotencyKey := by simpa using Table.pred_of_find? hfind
      refine congrArg some (Table.eq_of_clashes (Table.mem_of_find? hfind) hmem ?_)
      simp [clashes, Keyed.unique, hkey]

lemma eq_of_idempotencyKey (ht : t ∈ db.tasks.rows) (ht' : t' ∈ db.tasks.rows)
    (hkey : t'.idempotencyKey = t.idempotencyKey) : t' = t := by
  have h := getByIdempotencyKey_eq_some_iff.2 ⟨ht, rfl⟩
  rw [getByIdempotencyKey_eq_some_iff.2 ⟨ht', hkey⟩] at h
  exact Option.some.inj h

/-- The same rows under the same identifiers, as far as their requests go. -/
def SameCreations (db db' : Database) : Prop :=
  ∀ id, (db'.task id).map Task.creation = (db.task id).map Task.creation

lemma SameCreations.symm (h : SameCreations db db') : SameCreations db' db := fun id => (h id).symm

lemma SameCreations.row (h : SameCreations db db') (ht : t ∈ db.tasks.rows) :
    ∃ t' ∈ db'.tasks.rows, t'.id = t.id ∧ t'.creation = t.creation := by
  have hid := h t.id
  rw [Database.task_eq_some_iff.2 ⟨ht, rfl⟩] at hid
  obtain ⟨t', ht', hcreation⟩ := Option.map_eq_some_iff.1 hid
  obtain ⟨hmem, hid'⟩ := Database.task_eq_some_iff.1 ht'
  exact ⟨t', hmem, hid', hcreation⟩

lemma key_of_creation (h : t'.creation = t.creation) : t'.idempotencyKey = t.idempotencyKey :=
  congrArg (fun p => p.1.idempotencyKey) h

lemma SameCreations.taken (h : SameCreations db db')
    (htaken : (TaskRepository.getByIdempotencyKey db key).isSome = true) :
    (TaskRepository.getByIdempotencyKey db' key).isSome = true := by
  obtain ⟨t, ht⟩ := Option.isSome_iff_exists.1 htaken
  obtain ⟨hmem, hkey⟩ := getByIdempotencyKey_eq_some_iff.1 ht
  obtain ⟨t', hmem', -, hcreation⟩ := h.row hmem
  rw [getByIdempotencyKey_eq_some_iff.2 ⟨hmem', (key_of_creation hcreation).trans hkey⟩]
  rfl

lemma SameCreations.taken_eq (h : SameCreations db db') :
    (TaskRepository.getByIdempotencyKey db' key).isSome =
      (TaskRepository.getByIdempotencyKey db key).isSome :=
  Bool.eq_iff_iff.2 ⟨h.symm.taken, h.taken⟩

end Rows

section Steps

variable [Runtime] {settings : CoordinationSettings} {op : Operation} {id : UUID}
  {response : Response} {r r' : TaskRecord} {c c' : CoordinationConfig}
  {request : CreateTaskRequest}
  {timestamp : Timestamp}

/-- No move but the creation of a task touches what it was made for. -/
lemma Change.creation (h : Change settings id op response r r') (hop : op.creates? = none) :
    r'.task.map Task.creation = r.task.map Task.creation := by
  cases h with
  | same | approved | cancelled | claimed | beaten | finalized | recovered => rfl
  | created => cases hop

lemma sameCreations_step (hc : Coordinated c) (h : (coordination settings).step c op = some c')
    (hop : op.creates? = none) : SameCreations c.state c'.state := by
  intro id
  rcases step_change hc h id with hstate | ⟨response, hchange⟩
  · rw [hstate]
  · exact hchange.creation hop

/-- A creation that may come next is refused or replayed under a known key, and makes a row under a
new one. -/
lemma create_step
    (h : (coordination settings).step c (.createTask timestamp id request) = some c') :
    (∃ t, TaskRepository.getByIdempotencyKey c.state request.idempotencyKey = some t ∧
      t.requestFingerprint ≠ taskRequestFingerprint request.taskType request.taskInput ∧
      c' = ⟨c.state,
          (.createTask timestamp id request, .error .idempotencyConflictError) :: c.log⟩) ∨
    (∃ t, TaskRepository.getByIdempotencyKey c.state request.idempotencyKey = some t ∧
      t.requestFingerprint = taskRequestFingerprint request.taskType request.taskInput ∧
      c' = ⟨c.state, (.createTask timestamp id request, .ok (.created ⟨t, false⟩)) :: c.log⟩) ∨
    (TaskRepository.getByIdempotencyKey c.state request.idempotencyKey = none ∧
      ∃ tasks, c.state.tasks.insert
        (pendingTask settings.workerDefaultMaxAttempts timestamp id request) = some tasks ∧
      c' = ⟨{ c.state with tasks }, (.createTask timestamp id request, .ok (.created
          ⟨pendingTask settings.workerDefaultMaxAttempts timestamp id request, true⟩)) ::
        c.log⟩) := by
  obtain ⟨henabled, hcases⟩ := Store.step_cases h
  simp only [coordination, Operation.enabled, Bool.and_eq_true, Option.isNone_iff_eq_none]
    at henabled
  have happly : (coordination settings).apply (.createTask timestamp id request) c.state =
      Operation.respond .created (TaskService.createTask settings.workerDefaultMaxAttempts c.state
        timestamp id request) := rfl
  rw [happly] at hcases
  rcases createTask_cases settings.positive timestamp henabled.2 henabled.1 with
    ⟨t, hkey, hne, heq⟩ | ⟨t, hkey, hsame, heq⟩ | ⟨hkey, tasks, hinsert, heq⟩
  · left
    rw [heq] at hcases
    rcases hcases with ⟨_, _, hok, -⟩ | ⟨x, herror, rfl⟩
    · cases hok
    · cases herror
      exact ⟨t, hkey, hne, rfl⟩
  · right; left
    rw [heq] at hcases
    rcases hcases with ⟨_, _, hok, rfl⟩ | ⟨x, herror, -⟩
    · cases hok
      exact ⟨t, hkey, hsame, rfl⟩
    · cases herror
  · right; right
    rw [heq] at hcases
    rcases hcases with ⟨_, _, hok, rfl⟩ | ⟨x, herror, -⟩
    · cases hok
      exact ⟨hkey, tasks, hinsert, rfl⟩
    · cases herror

end Steps

section Runs

variable [Runtime]

/-- Every row and every entry of a creation stems from one of the requests, each known key has one
entry that created its row, and every request that was answered has a row under its key. -/
structure Traced (requests : Set CreateTaskRequest) (c : CoordinationConfig) : Prop where
  coordinated : Coordinated c
  row : ∀ t ∈ c.state.tasks.rows, ∃ request ∈ requests, t.creation = request.creation
  entry : ∀ timestamp id request t,
    (Operation.createTask timestamp id request, Except.ok (Response.created ⟨t, true⟩)) ∈ c.log →
      request ∈ requests ∧
        ∃ t' ∈ c.state.tasks.rows, t'.id = t.id ∧ t'.creation = request.creation
  count : ∀ key, c.log.countP (createdUnder key) =
    if (TaskRepository.getByIdempotencyKey c.state key).isSome = true then 1 else 0
  answered : ∀ timestamp id request outcome,
    (Operation.createTask timestamp id request, outcome) ∈ c.log →
      (TaskRepository.getByIdempotencyKey c.state request.idempotencyKey).isSome = true

variable {settings : CoordinationSettings} {requests : Set CreateTaskRequest} {op : Operation}
  {c c' : CoordinationConfig}

lemma traced_empty : Traced requests emptyCoordination where
  coordinated := coordinated_empty
  row := by
    rintro t ⟨⟩
  entry := by
    rintro timestamp id request t ⟨⟩
  count _ := rfl
  answered := by
    rintro timestamp id request outcome ⟨⟩

/-- An entry that makes no row leaves the invariant as it is. -/
lemma Traced.cons (hc : Traced requests c) {db : Database} {outcome : Except Exn Response}
    (hcoordinated : Coordinated ⟨db, (op, outcome) :: c.log⟩) (hsame : SameCreations c.state db)
    (hunder : ∀ key, createdUnder key (op, outcome) = false)
    (hanswered : ∀ request, op.creates? = some request →
      (TaskRepository.getByIdempotencyKey c.state request.idempotencyKey).isSome = true) :
    Traced requests ⟨db, (op, outcome) :: c.log⟩ where
  coordinated := hcoordinated
  row t ht := by
    obtain ⟨t', ht', -, hcreation⟩ := hsame.symm.row ht
    obtain ⟨request, hrequest, heq⟩ := hc.row t' ht'
    exact ⟨request, hrequest, hcreation.symm.trans heq⟩
  entry timestamp id request t hmem := by
    rcases List.mem_cons.1 hmem with heq | hmem
    · have hfalse := hunder request.idempotencyKey
      rw [← heq] at hfalse
      simp [createdUnder] at hfalse
    · obtain ⟨hrequest, t', ht', hid, hcreation⟩ := hc.entry timestamp id request t hmem
      obtain ⟨s, hs, hid', hcreation'⟩ := hsame.row ht'
      exact ⟨hrequest, s, hs, hid'.trans hid, hcreation'.trans hcreation⟩
  count key := by
    rw [List.countP_cons_of_neg (by rw [hunder]; exact Bool.false_ne_true), hc.count,
      hsame.taken_eq]
  answered timestamp id request outcome' hmem := by
    rw [hsame.taken_eq]
    rcases List.mem_cons.1 hmem with heq | hmem
    · cases heq
      exact hanswered request rfl
    · exact hc.answered timestamp id request outcome' hmem

/-- The entry of a creation under a new key goes with the new row. -/
lemma Traced.created (hc : Traced requests c) {timestamp : Timestamp} {id : UUID}
    {request : CreateTaskRequest} {row : Task} {tasks : Table Task} (hrequest : request ∈ requests)
    (hrow : row.creation = request.creation)
    (hkey : TaskRepository.getByIdempotencyKey c.state request.idempotencyKey = none)
    (hinsert : c.state.tasks.insert row = some tasks)
    (hcoordinated : Coordinated ⟨{ c.state with tasks },
      (.createTask timestamp id request, .ok (.created ⟨row, true⟩)) :: c.log⟩) :
    Traced requests ⟨{ c.state with tasks },
      (.createTask timestamp id request, .ok (.created ⟨row, true⟩)) :: c.log⟩ := by
  have hrows : ∀ t, t ∈ tasks.rows ↔ t ∈ c.state.tasks.rows ∨ t = row := by
    intro t
    rw [Table.rows_insert hinsert, List.mem_append, List.mem_singleton]
  have hrowKey : row.idempotencyKey = request.idempotencyKey :=
    congrArg (fun p => p.1.idempotencyKey) hrow
  have hnew : ∀ key, (TaskRepository.getByIdempotencyKey { c.state with tasks } key).isSome = true ↔
      (TaskRepository.getByIdempotencyKey c.state key).isSome = true ∨
        request.idempotencyKey = key := by
    intro key
    simp only [Option.isSome_iff_exists, getByIdempotencyKey_eq_some_iff, hrows]
    constructor
    · rintro ⟨t, ht | rfl, hkey⟩
      · exact .inl ⟨t, ht, hkey⟩
      · exact .inr (hrowKey.symm.trans hkey)
    · rintro (⟨t, ht, hkey⟩ | rfl)
      · exact ⟨t, .inl ht, hkey⟩
      · exact ⟨row, .inr rfl, hrowKey⟩
  refine ⟨hcoordinated, fun t ht => ?_, fun timestamp' id' request' t hmem => ?_, fun key => ?_,
    fun timestamp' id' request' outcome hmem => ?_⟩
  · rcases (hrows t).1 ht with ht | rfl
    · exact hc.row t ht
    · exact ⟨request, hrequest, hrow⟩
  · rcases List.mem_cons.1 hmem with heq | hmem
    · cases heq
      exact ⟨hrequest, row, (hrows row).2 (.inr rfl), rfl, hrow⟩
    · obtain ⟨hrequest', t', ht', hcreation⟩ := hc.entry timestamp' id' request' t hmem
      exact ⟨hrequest', t', (hrows t').2 (.inl ht'), hcreation⟩
  · by_cases hsame : request.idempotencyKey = key
    · have hold := hc.count key
      rw [← hsame, hkey] at hold
      rw [if_pos ((hnew key).2 (.inr hsame)), ← hsame]
      rw [List.countP_cons_of_pos (by simp [createdUnder]), hold]
      rfl
    · rw [List.countP_cons_of_neg (by simp [createdUnder, hsame]), hc.count key]
      simp only [hnew key, hsame, or_false]
  · rw [hnew]
    rcases List.mem_cons.1 hmem with heq | hmem
    · cases heq
      exact .inr rfl
    · exact .inl (hc.answered timestamp' id' request' outcome hmem)

lemma traced_step (hop : ∀ request, op.creates? = some request → request ∈ requests)
    (hc : Traced requests c) (h : (coordination settings).step c op = some c') :
    Traced requests c' := by
  have hcoordinated := coordinated_step hc.coordinated h
  cases hcreates : op.creates? with
  | none =>
    have hsame := sameCreations_step hc.coordinated h hcreates
    obtain ⟨outcome, hlog⟩ := Store.log_of_step h
    obtain ⟨db, log⟩ := c'
    obtain rfl : log = (op, outcome) :: c.log := hlog
    refine hc.cons hcoordinated hsame (fun key => ?_) fun request hrequest => ?_
    · cases op with
      | createTask => cases hcreates
      | _ => rfl
    · rw [hcreates] at hrequest
      cases hrequest
  | some request =>
    have hrequest := hop request hcreates
    cases op with
    | createTask timestamp id request' =>
      cases hcreates
      rcases create_step h with ⟨t, ht, -, rfl⟩ | ⟨t, ht, -, rfl⟩ | ⟨hkey, tasks, hinsert, rfl⟩
      · refine hc.cons hcoordinated (fun _ => rfl) (fun _ => rfl) fun _ heq => ?_
        cases heq
        rw [ht]
        rfl
      · refine hc.cons hcoordinated (fun _ => rfl) (fun _ => Bool.and_false _) fun _ heq => ?_
        cases heq
        rw [ht]
        rfl
      · exact hc.created hrequest rfl hkey hinsert hcoordinated
    | _ => cases hcreates

lemma traced_run {ops : List Operation}
    (hops : ∀ op ∈ ops, ∀ request, op.creates? = some request → request ∈ requests)
    (hrun : (coordination settings).run emptyCoordination ops = some c) : Traced requests c :=
  Store.run_induction (fun _ op _ hop hc hstep => traced_step (hops op hop) hc hstep) traced_empty
    hrun

/-- A row stays, with what it was made for, whatever comes after it. -/
lemma row_run {ops : List Operation} {t : Task} (hc : Coordinated c)
    (hrun : (coordination settings).run c ops = some c') (ht : t ∈ c.state.tasks.rows) :
    ∃ t' ∈ c'.state.tasks.rows, t'.id = t.id ∧ t'.creation = t.creation := by
  refine (Store.run_induction (P := fun c' => Coordinated c' ∧
    ∃ t' ∈ c'.state.tasks.rows, t'.id = t.id ∧ t'.creation = t.creation) ?_
    ⟨hc, t, ht, rfl, rfl⟩ hrun).2
  rintro c₁ op c₂ - ⟨hc₁, s, hs, hid, hcreation⟩ hstep
  refine ⟨coordinated_step hc₁ hstep, ?_⟩
  cases hcreates : op.creates? with
  | none =>
    obtain ⟨s', hs', hid', hcreation'⟩ := (sameCreations_step hc₁ hstep hcreates).row hs
    exact ⟨s', hs', hid'.trans hid, hcreation'.trans hcreation⟩
  | some request =>
    cases op with
    | createTask timestamp id request' =>
      rcases create_step hstep with ⟨_, -, -, rfl⟩ | ⟨_, -, -, rfl⟩ | ⟨-, tasks, hinsert, rfl⟩
      · exact ⟨s, hs, hid, hcreation⟩
      · exact ⟨s, hs, hid, hcreation⟩
      · refine ⟨s, ?_, hid, hcreation⟩
        change s ∈ tasks.rows
        rw [Table.rows_insert hinsert]
        exact List.mem_append_left _ hs
    | _ => cases hcreates

end Runs

/-! ## Creation -/

/-- The two requests ask for the same task, up to the order of the keys of its input. -/
def SameRequest (r s : CreateTaskRequest) : Prop :=
  r.taskType = s.taskType ∧ r.taskInput.Alike s.taskInput

/-- The request is one that `POST /tasks` makes of a body. -/
def CreateTaskRequest.Posted [LaxCoercion] (r : CreateTaskRequest) : Prop :=
  ∃ payload : TaskCreateRequest, payload.input.WellFormed ∧
    payload.request r.idempotencyKey = some r

/-- A key has one row, now and ever after, and one entry that created it. A later request with the
key is answered with that row if it asks for the same task, and refused if not; nothing changes
either way. -/
structure CreatedOnce [Runtime] [LaxCoercion] (settings : CoordinationSettings)
    (requests : Set CreateTaskRequest) (c : CoordinationConfig) : Prop where
  unique : ∀ t ∈ c.state.tasks.rows, ∀ t' ∈ c.state.tasks.rows,
    t'.idempotencyKey = t.idempotencyKey → t' = t
  kept : ∀ ops c' t t', (coordination settings).run c ops = some c' → t ∈ c.state.tasks.rows →
    t' ∈ c'.state.tasks.rows → t'.idempotencyKey = t.idempotencyKey → t'.id = t.id
  created : ∀ timestamp id request outcome,
    (Operation.createTask timestamp id request, outcome) ∈ c.log →
      c.log.countP (createdUnder request.idempotencyKey) = 1
  later : ∀ timestamp₀ id₀ request₀ t₀,
    (Operation.createTask timestamp₀ id₀ request₀, Except.ok (.created ⟨t₀, true⟩)) ∈ c.log →
    ∀ timestamp id request c', request ∈ requests →
      request.idempotencyKey = request₀.idempotencyKey →
      (coordination settings).step c (.createTask timestamp id request) = some c' →
      (SameRequest request₀ request ∧ ∃ t, c.state.task t₀.id = some t ∧
        c' = ⟨c.state, (.createTask timestamp id request, .ok (.created ⟨t, false⟩)) :: c.log⟩) ∨
      (¬SameRequest request₀ request ∧ c' = ⟨c.state,
        (.createTask timestamp id request, .error .idempotencyConflictError) :: c.log⟩)
  resubmitted : ∀ t ∈ c.state.tasks.rows, ∃ request,
    (TaskCreateRequest.mk t.taskType t.taskInput).request t.idempotencyKey = some request ∧
    ∀ timestamp id c', (coordination settings).step c (.createTask timestamp id request) = some c' →
      c' = ⟨c.state, (.createTask timestamp id request, .ok (.created ⟨t, false⟩)) :: c.log⟩

section Creation

variable [Runtime] [LaxCoercion] {r s : CreateTaskRequest}

omit [Runtime] in
lemma CreateTaskRequest.Posted.normalized (h : r.Posted) :
    r.taskInput.WellFormed ∧ normalizeTaskInput r.taskType r.taskInput = some r.taskInput := by
  obtain ⟨payload, hwell, hpayload⟩ := h
  obtain ⟨taskInput, hinput, hr⟩ := Option.map_eq_some_iff.1 hpayload
  have htype : payload.taskType = r.taskType := congrArg CreateTaskRequest.taskType hr
  have hstored : taskInput = r.taskInput := congrArg CreateTaskRequest.taskInput hr
  rw [htype, hstored] at hinput
  exact ⟨wellFormed_normalizeTaskInput hinput hwell, normalizeTaskInput_idempotent hinput⟩

lemma fingerprint_eq_iff (hr : r.Posted) (hs : s.Posted)
    (hsha : NoCollision (taskRequestText r.taskType r.taskInput)
      (taskRequestText s.taskType s.taskInput)) :
    taskRequestFingerprint r.taskType r.taskInput =
      taskRequestFingerprint s.taskType s.taskInput ↔ SameRequest r s := by
  rw [taskRequestFingerprint_eq, taskRequestFingerprint_eq, hsha.iff,
    taskRequestText_eq_iff hr.normalized.1 hs.normalized.1]
  rfl

/-- Whoever is at work, tasks are created once, and the normal form of an input is its own. -/
theorem tasks_created_once (settings : CoordinationSettings) (requests : Set CreateTaskRequest)
    (hposted : ∀ r ∈ requests, r.Posted)
    (hsha : ∀ r ∈ requests, ∀ s ∈ requests,
      NoCollision (taskRequestText r.taskType r.taskInput)
        (taskRequestText s.taskType s.taskInput))
    (ops : List Operation)
    (hops : ∀ op ∈ ops, ∀ request, op.creates? = some request → request ∈ requests)
    (c : CoordinationConfig)
    (hrun : (coordination settings).run emptyCoordination ops = some c) :
    CreatedOnce settings requests c ∧ ∀ taskType x y,
      normalizeTaskInput taskType x = some y → normalizeTaskInput taskType y = some y := by
  have hc := traced_run hops hrun
  refine ⟨⟨fun t ht t' ht' => eq_of_idempotencyKey ht ht', ?_, ?_, ?_, ?_⟩,
    fun _ _ _ => normalizeTaskInput_idempotent⟩
  · intro ops c' t t' hrun' ht ht' hkey
    obtain ⟨s, hs, hid, hcreation⟩ := row_run hc.coordinated hrun' ht
    rw [eq_of_idempotencyKey hs ht' (hkey.trans (key_of_creation hcreation).symm), hid]
  · intro timestamp id request outcome hmem
    rw [hc.count, if_pos (hc.answered timestamp id request outcome hmem)]
  · intro timestamp₀ id₀ request₀ t₀ hmem timestamp id request c' hrequest hkey hstep
    obtain ⟨hrequest₀, t, ht, hid, hcreation⟩ := hc.entry timestamp₀ id₀ request₀ t₀ hmem
    have hrow : TaskRepository.getByIdempotencyKey c.state request.idempotencyKey = some t :=
      getByIdempotencyKey_eq_some_iff.2
        ⟨ht, (congrArg (fun p => p.1.idempotencyKey) hcreation).trans hkey.symm⟩
    have hprint : t.requestFingerprint =
        taskRequestFingerprint request₀.taskType request₀.taskInput := congrArg Prod.snd hcreation
    have hsame : t.requestFingerprint = taskRequestFingerprint request.taskType request.taskInput ↔
        SameRequest request₀ request := by
      rw [hprint]
      exact fingerprint_eq_iff (hposted _ hrequest₀) (hposted _ hrequest)
        (hsha _ hrequest₀ _ hrequest)
    rcases create_step hstep with ⟨s, hs, hne, rfl⟩ | ⟨s, hs, heq, rfl⟩ | ⟨hnone, -⟩
    · rw [hrow] at hs
      cases hs
      exact .inr ⟨fun h => hne (hsame.2 h), rfl⟩
    · rw [hrow] at hs
      cases hs
      exact .inl ⟨hsame.1 heq, t, Database.task_eq_some_iff.2 ⟨ht, hid⟩, rfl⟩
    · rw [hrow] at hnone
      cases hnone
  · intro t ht
    obtain ⟨request, hrequest, hcreation⟩ := hc.row t ht
    obtain rfl : (⟨t.idempotencyKey, t.taskType, t.taskInput⟩ : CreateTaskRequest) = request :=
      congrArg Prod.fst hcreation
    have hnormal := (hposted _ hrequest).normalized.2
    refine ⟨_, Option.map_eq_some_iff.2 ⟨_, hnormal, rfl⟩, fun timestamp id c' hstep => ?_⟩
    have hrow := getByIdempotencyKey_eq_some_iff.2 ⟨ht, rfl⟩
    rcases create_step hstep with ⟨s, hs, hne, -⟩ | ⟨s, hs, -, rfl⟩ | ⟨hnone, -⟩
    · rw [hrow] at hs
      cases hs
      exact absurd (congrArg Prod.snd hcreation) hne
    · rw [hrow] at hs
      cases hs
      rfl
    · rw [hrow] at hnone
      cases hnone

end Creation

namespace Sample

def keyRequest (n : ℤ) : CreateTaskRequest := ⟨"k", "t", .dict [("n", .int n)]⟩

@[reducible] def requestHost : Runtime :=
  host [
    ("\x7b\"input\":\x7b\"n\":1\x7d,\"task_type\":\"t\"\x7d",
      0x2756992353b85f6fdfba94f9510e9e9acc0386fa1406cf1f7ccb4fc5ef9fcee7),
    ("\x7b\"input\":\x7b\"n\":2\x7d,\"task_type\":\"t\"\x7d",
      0x1a99d173a369c5b97d6d31077ae03e011a570a1afefcbc1c42bedd1e30f88057)]

/-- A key is used again, first for the same task and then for another one. -/
def keyReused : List Operation :=
  [.createTask 0 1 (keyRequest 1), .createTask 1 2 (keyRequest 1), .createTask 2 3 (keyRequest 2)]

def refusesKey : Operation × Except Exn Response → Bool
  | (_, .error .idempotencyConflictError) => true
  | _ => false

end Sample

attribute [local instance] Sample.requestHost Sample.laxCoercion in
open Sample in
theorem tasks_created_once_keyReused : ∃ c,
    (coordination {}).run emptyCoordination keyReused = some c ∧
    c.log.countP (createdUnder "k") = 1 ∧ c.log.countP refusesKey = 1 ∧
    CreatedOnce {} {keyRequest 1, keyRequest 2} c := by
  have hrun : (((coordination {}).run emptyCoordination keyReused).any fun c =>
      c.log.countP (createdUnder "k") == 1 && c.log.countP refusesKey == 1) = true := by
    decide +kernel
  simp only [Option.any_eq_true, Bool.and_eq_true, beq_iff_eq] at hrun
  obtain ⟨c, hc, hcreated, hrefused⟩ := hrun
  have hdigests : sha256Json (.dict [("input", .dict [("n", .int 1)]), ("task_type", .str "t")]) ≠
      sha256Json (.dict [("input", .dict [("n", .int 2)]), ("task_type", .str "t")]) := by
    decide +kernel
  refine ⟨c, hc, hcreated, hrefused, (tasks_created_once {} {keyRequest 1, keyRequest 2} ?_ ?_
    keyReused ?_ c hc).1⟩
  · rintro r (rfl | rfl)
    · exact ⟨⟨"t", .dict [("n", .int 1)]⟩, by simp [JsonValue.WellFormed, wellFormedMembers], rfl⟩
    · exact ⟨⟨"t", .dict [("n", .int 2)]⟩, by simp [JsonValue.WellFormed, wellFormedMembers], rfl⟩
  · rintro r (rfl | rfl) s (rfl | rfl)
    · exact fun _ => rfl
    · exact fun heq => absurd heq hdigests
    · exact fun heq => absurd heq.symm hdigests
    · exact fun _ => rfl
  · intro op hop request hrequest
    have hmem : request ∈ keyReused.filterMap Operation.creates? :=
      List.mem_filterMap.2 ⟨op, hop, hrequest⟩
    change request ∈ [keyRequest 1, keyRequest 1, keyRequest 2] at hmem
    simp only [List.mem_cons, List.not_mem_nil, or_false] at hmem
    rcases hmem with rfl | rfl | rfl
    · exact .inl rfl
    · exact .inl rfl
    · exact .inr rfl

end DeploymentLab
