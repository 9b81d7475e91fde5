import DeploymentLab.Proofs.CanonicalJson
import DeploymentLab.Proofs.Snapshots
import DeploymentLab.Proofs.TaskInvariant

/-!
# How strictly evidence is kept

An observation is stored once, and the row of its first recording answers every later one. How that
row is classified, redacted and retained was therefore decided by the first recording.
-/

namespace DeploymentLab

open Relational Transactions TaskService WorkerRepository Database

/-- How strict a classification is. -/
def DataClassification.level : DataClassification → ℕ
  | .«public» => 0
  | .internal => 1
  | .confidential => 2
  | .restricted => 3

namespace ArtifactRequest

variable [Runtime]

/-- The columns of `uq_source_artifacts_observation`. -/
def observation (request : ArtifactRequest) : Keyed.Unique SourceArtifact :=
  (request.fence.taskId, request.provider, request.resourceType,
    request.providerResourceIdentifier, request.sourceVersion,
    sha256Json request.normalizedPayload)

/-- The row that a recording at the time `now` inserts. -/
def artifact (request : ArtifactRequest) (now : Timestamp) (id : UUID) (url : String) :
    SourceArtifact where
  id
  taskId := request.fence.taskId
  observedByAttemptId := request.fence.attemptId
  provider := request.provider
  resourceType := request.resourceType
  providerResourceIdentifier := request.providerResourceIdentifier
  canonicalSourceUrl := url
  sourceVersion := request.sourceVersion
  dataClassification := request.dataClassification
  redactionApplied := request.redactionApplied
  retentionUntil := max now request.fetchedAt + days (retentionDays request.dataClassification)
  normalizedPayload := request.normalizedPayload
  contentHash := sha256Json request.normalizedPayload
  payloadSizeBytes := (canonicalJson request.normalizedPayload).utf8ByteSize
  fetchedAt := request.fetchedAt

lemma unique_artifact (request : ArtifactRequest) (now : Timestamp) (id : UUID) (url : String) :
    Keyed.unique (request.artifact now id url) = request.observation := rfl

end ArtifactRequest

section Record

variable [Runtime] {db db' : Database} {now : Timestamp} {id : UUID} {maximumBytes : ℕ}
  {request : ArtifactRequest} {a : SourceArtifact}

/-- The row of an observation. -/
def Database.observed (db : Database) (key : Keyed.Unique SourceArtifact) :
    Option SourceArtifact :=
  db.sourceArtifacts.find? fun a => Keyed.unique a == key

omit [Runtime] in
lemma observed_eq_some_iff {key : Keyed.Unique SourceArtifact} :
    db.observed key = some a ↔ a ∈ db.sourceArtifacts.rows ∧ Keyed.unique a = key := by
  constructor
  · intro h
    exact ⟨Table.mem_of_find? h, by simpa using Table.pred_of_find? h⟩
  · rintro ⟨hmem, rfl⟩
    refine Table.find?_eq_some_of_mem hmem (by simp) fun s hs => ?_
    have hunique : Keyed.unique a = Keyed.unique s := by simpa using Eq.symm (by simpa using hs)
    simp [clashes, hunique]

/-- A recording finds the row of its observation, or inserts it. -/
lemma record_cases
    (h : SourceArtifactRepository.record maximumBytes db now id request = .ok (a, db')) :
    db' = db ∧ db.observed request.observation = some a ∨
      db.observed request.observation = none ∧ ∃ url sourceArtifacts,
        a = request.artifact now id url ∧ db.sourceArtifacts.insert a = some sourceArtifacts ∧
          db' = { db with sourceArtifacts } := by
  simp only [SourceArtifactRepository.record, bind, Except.bind, throw, throwThe,
    MonadExceptOf.throw, pure, Except.pure] at h
  split at h
  · cases h
  split at h
  · cases h
  split at h
  · cases h
  rename_i url hurl
  split at h
  · cases h
  split at h
  · rename_i existing hfind
    cases h
    exact .inl ⟨rfl, hfind⟩
  · rename_i hfind
    split at h
    · rename_i sourceArtifacts hinsert
      cases h
      exact .inr ⟨hfind, url, sourceArtifacts, rfl, hinsert, rfl⟩
    · cases h

end Record

section Apply

variable [Runtime] {settings : CoordinationSettings} {db db' : Database} {op : Operation}
  {response : Response} {log : CoordinationLog}

/-- A request to record evidence. -/
def Operation.recording : Operation → Option (Timestamp × ArtifactRequest)
  | .ledger now _ _ (.record request) => some (now, request)
  | _ => none

omit [Runtime] in
lemma finalize_sourceArtifacts (hdb : db.TasksValid) {f : Finalization} (hf : f.WellFormed)
    {result : FenceResult} (h : finalize db f = .ok (result, db')) :
    db'.sourceArtifacts = db.sourceArtifacts := by
  rw [finalize_eq hdb hf] at h
  split at h <;> cases h <;> rfl

/-- An operation on the tasks leaves the evidence alone. -/
lemma sourceArtifacts_onTasks (hdb : db.TasksValid) (henabled : op.enabled log db = true)
    (hop : op.onTasks = true) (h : op.apply settings db = .ok (response, db')) :
    db'.sourceArtifacts = db.sourceArtifacts := by
  cases op with
  | createTask timestamp taskId request =>
    rw [Operation.enabled, Bool.and_eq_true, Option.isNone_iff_eq_none] at henabled
    obtain ⟨result, hcreate, rfl⟩ := Operation.respond_eq_ok.1 h
    rcases createTask_cases settings.positive timestamp henabled.2 henabled.1 with
      ⟨t, -, -, heq⟩ | ⟨t, -, -, heq⟩ | ⟨-, tasks, -, heq⟩ <;> rw [heq] at hcreate <;>
      cases hcreate <;> rfl
  | approveTask now taskId =>
    obtain ⟨result, happrove, rfl⟩ := Operation.respond_eq_ok.1 h
    rcases approveTask_cases hdb now taskId with ⟨y, heq, -⟩ | ⟨t, -, -, heq⟩ | ⟨t, -, -, heq⟩ <;>
      rw [heq] at happrove <;> cases happrove <;> rfl
  | cancelTask now taskId =>
    obtain ⟨result, hcancel, rfl⟩ := Operation.respond_eq_ok.1 h
    rcases cancelTask_cases hdb now taskId with ⟨heq, -⟩ | ⟨t, -, -, heq⟩ | ⟨t, -, -, heq⟩ |
      ⟨t, d, -, -, -, -, heq⟩ <;> rw [heq] at hcancel <;> cases hcancel <;> rfl
  | claimOne dueAt databaseNow locked attemptId tokenHash supported workerId lease =>
    rw [Operation.enabled, List.all_eq_true] at henabled
    obtain ⟨result, hclaim, rfl⟩ := Operation.respond_eq_ok.1 h
    rcases claimOne_cases hdb dueAt databaseNow locked
      (fun a ha => by simpa using henabled a ha) tokenHash supported workerId lease with
      heq | ⟨t, -, -, taskAttempts, -, heq⟩ <;> rw [heq] at hclaim <;> cases hclaim <;> rfl
  | heartbeat now claim lease =>
    obtain ⟨result, hbeat, rfl⟩ := Operation.respond_eq_ok.1 h
    rw [heartbeat_eq hdb] at hbeat
    split at hbeat <;> cases hbeat
    rfl
  | finalizeSuccess now claim result =>
    rw [Operation.enabled, Bool.and_eq_true] at henabled
    obtain ⟨result, hfinal, rfl⟩ := Operation.respond_eq_ok.1 h
    exact finalize_sourceArtifacts hdb (succeeding_wellFormed henabled.2) hfinal
  | scheduleRetry now retryNow claim delay code summary reason =>
    obtain ⟨result, hfinal, rfl⟩ := Operation.respond_eq_ok.1 h
    exact finalize_sourceArtifacts hdb retrying_wellFormed hfinal
  | finalizeFailure now claim code summary reason =>
    obtain ⟨result, hfinal, rfl⟩ := Operation.respond_eq_ok.1 h
    exact finalize_sourceArtifacts hdb failing_wellFormed hfinal
  | finalizeCancellation now claim =>
    obtain ⟨result, hfinal, rfl⟩ := Operation.respond_eq_ok.1 h
    exact finalize_sourceArtifacts hdb cancelling_wellFormed hfinal
  | recoverOneExpired now locked backoff =>
    obtain ⟨result, hrecover, rfl⟩ := Operation.respond_eq_ok.1 h
    rcases recoverOneExpired_cases hdb now locked backoff with ⟨-, heq⟩ |
      ⟨t, -, -, -, ⟨message, -, heq⟩ | ⟨tokenHash, outcome, result, -, -, heq⟩⟩ <;>
      rw [heq] at hrecover <;> cases hrecover <;> rfl
  | ledger now row history e => cases hop

/-- A committed operation records evidence, or leaves it alone. -/
lemma apply_evidence (hdb : db.TasksValid) (henabled : op.enabled log db = true)
    (h : op.apply settings db = .ok (response, db')) :
    (op.recording = none ∧ db'.sourceArtifacts = db.sourceArtifacts) ∨
      ∃ now row history request a, op = .ledger now row history (.record request) ∧
        response = .ledger (.record request) a ∧
        SourceArtifactRepository.record settings.sourceArtifactMaxBytes db now row request =
          .ok (a, db') := by
  by_cases hop : op.onTasks = true
  · refine .inl ⟨?_, sourceArtifacts_onTasks hdb henabled hop h⟩
    cases op <;> first | rfl | cases hop
  · cases op with
    | ledger now row history e =>
      simp only [Operation.apply] at h
      split at h
      · rename_i answer db₁ hexecute
        cases h
        cases e with
        | record request =>
          refine .inr ⟨now, row, history, request, answer, rfl, rfl, ?_⟩
          simp only [Database.execute, Option.some.injEq] at hexecute
          cases hrecord : SourceArtifactRepository.record settings.sourceArtifactMaxBytes db now
              row request with
          | error x =>
            rw [hrecord] at hexecute
            cases hexecute
          | ok p =>
            rw [hrecord] at hexecute
            cases hexecute
            rfl
        | reserveOrGet | transition | revise | reconciliationDelaySeconds =>
          exact .inl ⟨rfl, (execute_ok hexecute).2.2.2 (by simp)⟩
        | fetchRecords | verifyGitHubIdentity | fetchContext | getComment | findCommentsByMarker
        | createComment | updateComment | fetchIssue | verifySlackIdentity | postNotification =>
          cases hexecute
      · cases h
      · cases h
    | _ => exact absurd rfl hop

end Apply

section Run

variable [Runtime] {settings : CoordinationSettings} {c c' : CoordinationConfig} {op : Operation}
  {ops : List Operation} {log : CoordinationLog} {key : Keyed.Unique SourceArtifact}

/-- The recording that an entry of a log tells of. -/
def recordingOf : Operation × Except Exn Response → Option (Timestamp × ArtifactRequest)
  | (op, .ok _) => op.recording
  | (_, .error _) => none

/-- The recordings of a log with their readings of the clock, newest first. -/
def recordedRequests (log : CoordinationLog) : List (Timestamp × ArtifactRequest) :=
  log.filterMap recordingOf

def firstRecording (log : CoordinationLog) (key : Keyed.Unique SourceArtifact) :
    Option (Timestamp × ArtifactRequest) :=
  (recordedRequests log).reverse.find? fun r => r.2.observation == key

lemma firstRecording_of_none {entry : Operation × Except Exn Response}
    (h : recordingOf entry = none) :
    firstRecording (entry :: log) key = firstRecording log key := by
  rw [firstRecording, recordedRequests, List.filterMap_cons_none h]
  rfl

lemma firstRecording_of_some {entry : Operation × Except Exn Response}
    {r : Timestamp × ArtifactRequest} (h : recordingOf entry = some r) :
    firstRecording (entry :: log) key =
      (firstRecording log key).or (if r.2.observation == key then some r else none) := by
  rw [firstRecording, recordedRequests, List.filterMap_cons_some h, List.reverse_cons,
    List.find?_append,
    List.find?_singleton]
  rfl

/-- The row is the one that the recording inserts. -/
def StoredBy (a : SourceArtifact) (r : Timestamp × ArtifactRequest) : Prop :=
  ∃ id url, a = r.2.artifact r.1 id url

/-- What holds of every configuration of a run: the rows are those of the first recordings, and
they have answered all the others. -/
structure Recorded (c : CoordinationConfig) : Prop where
  coordinated : Coordinated c
  stored : ∀ key, Option.Rel StoredBy (c.state.observed key) (firstRecording c.log key)
  answered : ∀ now row history request response,
    (Operation.ledger now row history (.record request), Except.ok response) ∈ c.log →
      ∃ a, response = .ledger (.record request) a ∧
        c.state.observed request.observation = some a

lemma recorded_empty : Recorded emptyCoordination :=
  ⟨coordinated_empty, fun _ => .none, fun _ _ _ _ _ hmem => by cases hmem⟩

omit [Runtime] in
lemma rel_or {α β : Type} {r : α → β → Prop} {a a' : Option α} {b b' : Option β}
    (h : Option.Rel r a b) (h' : Option.Rel r a' b') : Option.Rel r (a.or a') (b.or b') := by
  cases h with
  | some hab => exact .some hab
  | none => exact h'

/-- What a step does to the evidence. -/
lemma evidence_step (hc : Recorded c) (h : (coordination settings).step c op = some c') :
    (∀ key, Option.Rel StoredBy (c'.state.observed key) (firstRecording c'.log key)) ∧
      (∀ key a, c.state.observed key = some a → c'.state.observed key = some a) ∧
      c.state.sourceArtifacts.rows <+: c'.state.sourceArtifacts.rows ∧
      ∀ now row history request response, op = .ledger now row history (.record request) →
        c'.log = (op, .ok response) :: c.log → ∃ a, response = .ledger (.record request) a ∧
          c'.state.observed request.observation = some a := by
  obtain ⟨henabled, ⟨response, db', happly, rfl⟩ | ⟨x, -, rfl⟩⟩ := Store.step_cases h
  · rcases apply_evidence hc.coordinated.valid henabled happly with ⟨hnone, hsame⟩ |
      ⟨now, row, history, request, a, rfl, rfl, hrecord⟩
    · have hobserved : ∀ key, db'.observed key = c.state.observed key := fun key => by
        rw [observed, observed, hsame]
      refine ⟨fun key => ?_, fun key a ha => (hobserved key).trans ha, ?_, ?_⟩
      · have hentry : recordingOf (op, Except.ok response) = none := hnone
        rw [firstRecording_of_none hentry]
        exact (hobserved key) ▸ hc.stored key
      · rw [hsame]
      · rintro now row history request response rfl -
        cases hnone
    · have hentry : recordingOf (Operation.ledger now row history (.record request),
          Except.ok (Response.ledger (.record request) a)) = some (now, request) := rfl
      rcases record_cases hrecord with ⟨rfl, hfound⟩ |
        ⟨habsent, url, sourceArtifacts, ha, hinsert, rfl⟩
      · refine ⟨fun key => ?_, fun _ _ hb => hb, List.prefix_rfl, ?_⟩
        · rw [firstRecording_of_some hentry]
          have hstored : Option.Rel StoredBy (c.state.observed key) (firstRecording c.log key) :=
            hc.stored key
          cases hfirst : firstRecording c.log key with
          | some first =>
            rw [hfirst] at hstored
            exact hstored
          | none =>
            rw [hfirst] at hstored
            have hne : request.observation ≠ key := by
              rintro rfl
              rw [hfound] at hstored
              cases hstored
            rw [Option.none_or, if_neg (by simpa using hne)]
            exact hstored
        · rintro _ _ _ _ _ hop hlog
          cases hop
          cases hlog
          exact ⟨a, rfl, hfound⟩
      · have hobserved : ∀ key, ({ c.state with sourceArtifacts } : Database).observed key =
            (c.state.observed key).or (if request.observation == key then some a else none) := by
          intro key
          rw [observed, Table.find?_insert hinsert, ha, request.unique_artifact]
          rfl
        refine ⟨fun key => ?_, fun key b hb => ?_, ?_, ?_⟩
        · rw [firstRecording_of_some hentry]
          refine (hobserved key).symm ▸ rel_or (hc.stored key) ?_
          by_cases hkey : request.observation = key
          · rw [if_pos (by simpa using hkey), if_pos (by simpa using hkey)]
            exact .some ⟨row, url, ha⟩
          · rw [if_neg (by simpa using hkey), if_neg (by simpa using hkey)]
            exact .none
        · exact (hobserved key).trans (by rw [hb, Option.some_or])
        · rw [show ({ c.state with sourceArtifacts } : Database).sourceArtifacts.rows =
            c.state.sourceArtifacts.rows ++ [a] from Table.rows_insert hinsert]
          exact List.prefix_append ..
        · rintro _ _ _ _ _ hop hlog
          cases hop
          cases hlog
          refine ⟨a, rfl, (hobserved _).trans ?_⟩
          rw [habsent, Option.none_or, if_pos (by simp)]
  · refine ⟨fun key => ?_, fun _ _ ha => ha, List.prefix_rfl, ?_⟩
    · rw [firstRecording_of_none rfl]
      exact hc.stored key
    · rintro _ _ _ _ _ - hlog
      cases hlog

lemma recorded_step (hc : Recorded c) (h : (coordination settings).step c op = some c') :
    Recorded c' := by
  obtain ⟨hstored, hkept, -, hanswer⟩ := evidence_step hc h
  refine ⟨coordinated_step hc.coordinated h, hstored, fun now row history request response hmem =>
    ?_⟩
  obtain ⟨outcome, hlog⟩ := Store.log_of_step h
  rw [hlog] at hmem
  rcases List.mem_cons.1 hmem with heq | hmem
  · cases heq
    exact hanswer now row history request response rfl hlog
  · obtain ⟨a, rfl, ha⟩ := hc.answered now row history request response hmem
    exact ⟨a, rfl, hkept _ _ ha⟩

lemma recorded_run (hrun : (coordination settings).run emptyCoordination ops = some c) :
    Recorded c :=
  Store.run_induction (fun _ _ _ _ hc hstep => recorded_step hc hstep) recorded_empty hrun

/-- Rows of the evidence stay as they are. -/
lemma rows_run (hc : Recorded c) (hrun : (coordination settings).run c ops = some c') :
    c.state.sourceArtifacts.rows <+: c'.state.sourceArtifacts.rows := by
  refine (Store.run_induction (P := fun c₁ => Recorded c₁ ∧
    c.state.sourceArtifacts.rows <+: c₁.state.sourceArtifacts.rows) ?_ ⟨hc, List.prefix_rfl⟩
    hrun).2
  rintro c₁ op c₂ - ⟨hc₁, hrows⟩ hstep
  exact ⟨recorded_step hc₁ hstep, hrows.trans (evidence_step hc₁ hstep).2.2.1⟩

end Run

/-! ## Strictness -/

/-- The row, recorded at the time `recordedAt`, is classified, redacted and retained at least as
strictly as the call asks. -/
structure AtLeastAsStrict (a : SourceArtifact) (recordedAt : Timestamp)
    (request : ArtifactRequest) : Prop where
  classification : request.dataClassification.level ≤ a.dataClassification.level
  redaction : request.redactionApplied = true → a.redactionApplied = true
  retention : a.retentionUntil - max recordedAt a.fetchedAt ≤
    days (retentionDays request.dataClassification)

/-- There is one row for each observation, no row changes, and the row that answers a recording has
the payload of the call and is at least as strict. -/
structure EvidenceKept [Runtime] (settings : CoordinationSettings) (c : CoordinationConfig) :
    Prop where
  once : c.state.sourceArtifacts.rows.Pairwise fun a b => Keyed.unique a ≠ Keyed.unique b
  unchanged : ∀ ops c', (coordination settings).run c ops = some c' →
    c.state.sourceArtifacts.rows <+: c'.state.sourceArtifacts.rows
  answered : ∀ now row history request response,
    (Operation.ledger now row history (.record request), Except.ok response) ∈ c.log →
      ∃ a, response = .ledger (.record request) a ∧ a ∈ c.state.sourceArtifacts.rows ∧
        Keyed.unique a = request.observation ∧
        a.normalizedPayload.Alike request.normalizedPayload ∧
        ∃ recordedAt first, firstRecording c.log request.observation = some (recordedAt, first) ∧
          AtLeastAsStrict a recordedAt request

/-- No recording asks for more than the first one of its observation did. -/
def NeverStricter [Runtime] (log : CoordinationLog) : Prop :=
  ∀ r ∈ recordedRequests log, ∀ first, firstRecording log r.2.observation = some first →
    r.2.dataClassification.level ≤ first.2.dataClassification.level ∧
      (r.2.redactionApplied = true → first.2.redactionApplied = true)

lemma retentionDays_antitone {d e : DataClassification} (h : d.level ≤ e.level) :
    retentionDays e ≤ retentionDays d := by
  cases d <;> cases e <;> first | decide | exact absurd h (by decide)

/-- A row is as strict as the recording that stored it. -/
lemma atLeastAsStrict_iff [Runtime] {a : SourceArtifact} {first : Timestamp × ArtifactRequest}
    (hstored : StoredBy a first) (request : ArtifactRequest) :
    AtLeastAsStrict a first.1 request ↔
      request.dataClassification.level ≤ first.2.dataClassification.level ∧
        (request.redactionApplied = true → first.2.redactionApplied = true) := by
  obtain ⟨id, url, rfl⟩ := hstored
  constructor
  · intro h
    exact ⟨h.classification, h.redaction⟩
  · rintro ⟨hlevel, hredaction⟩
    refine ⟨hlevel, hredaction, ?_⟩
    have hdays : days (retentionDays first.2.dataClassification) ≤
        days (retentionDays request.dataClassification) :=
      Int.mul_le_mul_of_nonneg_right (retentionDays_antitone hlevel) (by decide)
    have hperiod : ∀ start period : ℤ, start + period - start = period := by omega
    exact (hperiod _ _).trans_le hdays

/-- Every recording of a log has an answer in it. -/
lemma exists_entry_of_recording {log : CoordinationLog} {r : Timestamp × ArtifactRequest}
    (hr : r ∈ recordedRequests log) : ∃ row history response,
      (Operation.ledger r.1 row history (.record r.2), Except.ok response) ∈ log := by
  obtain ⟨⟨op, outcome⟩, hmem, hentry⟩ := List.mem_filterMap.1 hr
  cases outcome with
  | error x => cases hentry
  | ok response =>
    cases op with
    | ledger now row history e =>
      cases e with
      | record request =>
        cases hentry
        exact ⟨row, history, response, hmem⟩
      | _ => cases hentry
    | _ => cases hentry

section Kept

variable [Runtime] {settings : CoordinationSettings} {c : CoordinationConfig}
  {ops : List Operation}

/-- A row has been stored by the first recording of its observation. -/
lemma Recorded.exists_first (hc : Recorded c) {key : Keyed.Unique SourceArtifact}
    {a : SourceArtifact} (ha : c.state.observed key = some a) :
    ∃ first, firstRecording c.log key = some first ∧ StoredBy a first := by
  have hstored := hc.stored key
  rw [ha] at hstored
  cases hlog : firstRecording c.log key with
  | none =>
    rw [hlog] at hstored
    cases hstored
  | some first =>
    rw [hlog] at hstored
    cases hstored with
    | some hstored => exact ⟨first, rfl, hstored⟩

lemma neverStricter_of_kept (hc : Recorded c) (h : EvidenceKept settings c) :
    NeverStricter c.log := by
  intro r hr first hlog
  obtain ⟨row, history, response, hmem⟩ := exists_entry_of_recording hr
  obtain ⟨a, -, ha, hkey, -, recordedAt, first', hlog', hstrict⟩ :=
    h.answered r.1 row history r.2 response hmem
  rw [hlog] at hlog'
  cases hlog'
  obtain ⟨first', hlog', hstored⟩ := hc.exists_first (observed_eq_some_iff.2 ⟨ha, hkey⟩)
  rw [hlog] at hlog'
  cases hlog'
  exact (atLeastAsStrict_iff hstored r.2).1 hstrict

/-- A recording is one of the operations of the run. -/
lemma exists_op_of_recording (hrun : (coordination settings).run emptyCoordination ops = some c)
    {r : Timestamp × ArtifactRequest} (hr : r ∈ recordedRequests c.log) :
    ∃ op ∈ ops, op.recording = some r := by
  refine Store.run_induction (P := fun c => ∀ r ∈ recordedRequests c.log,
    ∃ op ∈ ops, op.recording = some r) ?_ (fun r hr => by cases hr) hrun r hr
  intro c₁ op c₂ hop hc₁ hstep r hr
  obtain ⟨outcome, hlog⟩ := Store.log_of_step hstep
  obtain ⟨entry, hmem, hentry⟩ := List.mem_filterMap.1 hr
  rw [hlog] at hmem
  rcases List.mem_cons.1 hmem with rfl | hmem
  · cases outcome with
    | error x => cases hentry
    | ok response => exact ⟨op, hop, hentry⟩
  · exact hc₁ r (List.mem_filterMap.2 ⟨entry, hmem, hentry⟩)

/-- In every run the evidence is kept as strictly as every recording asks if and only if no
recording asks for more than the first one of its observation did. -/
theorem evidence_kept_iff (settings : CoordinationSettings) (ops : List Operation)
    (c : CoordinationConfig) (hrun : (coordination settings).run emptyCoordination ops = some c)
    (hwell : ∀ r ∈ recordedRequests c.log, r.2.normalizedPayload.WellFormed)
    (hsha : ∀ r ∈ recordedRequests c.log, ∀ s ∈ recordedRequests c.log,
      NoCollision (canonicalJson r.2.normalizedPayload) (canonicalJson s.2.normalizedPayload)) :
    EvidenceKept settings c ↔ NeverStricter c.log := by
  have hc := recorded_run hrun
  refine ⟨neverStricter_of_kept hc, fun hnever => ?_⟩
  refine ⟨?_, fun ops c' hrun' => rows_run hc hrun', ?_⟩
  · refine c.state.sourceArtifacts.unique.imp fun {a b} hclash => ?_
    intro heq
    simp [clashes, heq] at hclash
  · intro now row history request response hmem
    obtain ⟨a, rfl, ha⟩ := hc.answered now row history request response hmem
    obtain ⟨first, hlog, hstored⟩ := hc.exists_first ha
    obtain ⟨hrow, hkey⟩ := observed_eq_some_iff.1 ha
    have hr : (now, request) ∈ recordedRequests c.log := List.mem_filterMap.2 ⟨_, hmem, rfl⟩
    have hmemFirst : first ∈ recordedRequests c.log :=
      List.mem_reverse.1 (List.mem_of_find?_eq_some hlog)
    have hpayload : a.normalizedPayload.Alike request.normalizedPayload := by
      obtain ⟨id, url, rfl⟩ := hstored
      have hhash : sha256Json first.2.normalizedPayload =
          sha256Json request.normalizedPayload := congrArg (·.2.2.2.2.2) hkey
      have htext := hsha first hmemFirst (now, request) hr hhash
      exact (canonicalJson_eq_iff (hwell first hmemFirst) (hwell (now, request) hr)).1 htext
    exact ⟨a, rfl, hrow, hkey, hpayload, first.1, first.2, hlog,
      (atLeastAsStrict_iff hstored request).2 (hnever (now, request) hr first hlog)⟩

end Kept

namespace Sample

/-- The work item of the task 1, recorded with this classification. -/
def workItem (classification : DataClassification) : ArtifactRequest where
  fence := (taskClaim 1 "a").executionFence
  provider := "jira"
  resourceType := "work_item"
  providerResourceIdentifier := "OPS-1"
  sourceUrl := "https://jira.example/browse/OPS-1"
  sourceVersion := "1"
  dataClassification := classification
  redactionApplied := true
  normalizedPayload := .dict [("key", .str "OPS-1")]
  fetchedAt := 3

/-- The work item is recorded twice. -/
def recordedTwice (first second : DataClassification) : List Operation :=
  [.createTask 0 1 taskRequest, .approveTask 1 1, claimTask 2 1 "a",
    .ledger 3 21 31 (.record (workItem first)), .ledger 4 22 32 (.record (workItem second))]

@[reducible] def evidenceHost : Runtime :=
  host [
    ("\x7b\"input\":\x7b\x7d,\"task_type\":\"t\"\x7d",
      0x11b84689df8d97b5af14d0989edbc1df0b39047c59e448a44419a4bd33c38dbe),
    ("\x7b\"status\":\"Open\"\x7d",
      0x5a181f5c81a5a3b5fe7e2b404ba3c3c617d158aa09ffbc965bd8c0a8d6286272),
    ("\x7b\"status\":\"Done\"\x7d",
      0xb452fcb55979994b9b37ae8c25bf8936f02c400ded70aad1e84b24b6628f7b1b)]

def statusItem (classification : DataClassification) (status : String) : ArtifactRequest :=
  { workItem classification with normalizedPayload := .dict [("status", .str status)] }

/-- The work item is recorded, recorded as it is later, and recorded again as it was. -/
def recordedAgain : List Operation :=
  [.createTask 0 1 taskRequest, .approveTask 1 1, claimTask 2 1 "a",
    .ledger 3 21 31 (.record (statusItem .restricted "Open")),
    .ledger 4 22 32 (.record (statusItem .internal "Done")),
    .ledger 5 23 33 (.record (statusItem .confidential "Open"))]

/-- `NeverStricter`, as a check. -/
def neverStricter [Runtime] (log : CoordinationLog) : Bool :=
  (recordedRequests log).all fun r => (firstRecording log r.2.observation).all fun first =>
    decide (r.2.dataClassification.level ≤ first.2.dataClassification.level) &&
      (!r.2.redactionApplied || first.2.redactionApplied)

lemma neverStricter_of_check [Runtime] {log : CoordinationLog} (h : neverStricter log = true) :
    NeverStricter log := by
  intro r hr first hfirst
  have hall := List.all_eq_true.1 h r hr
  rw [hfirst, Option.all_some, Bool.and_eq_true, decide_eq_true_eq] at hall
  exact ⟨hall.1, fun hredaction => by simpa [hredaction] using hall.2⟩

end Sample

attribute [local instance] Sample.evidenceHost in
open Sample in
theorem evidence_kept_iff_recordedAgain : ∃ c,
    (coordination {}).run emptyCoordination recordedAgain = some c ∧
    (recordedRequests c.log).length = 3 ∧ c.state.sourceArtifacts.rows.length = 2 ∧
    EvidenceKept {} c := by
  have hrun : (((coordination {}).run emptyCoordination recordedAgain).any fun c =>
      (recordedRequests c.log).length == 3 && c.state.sourceArtifacts.rows.length == 2 &&
        neverStricter c.log) = true := by
    decide +kernel
  simp only [Option.any_eq_true, Bool.and_eq_true, beq_iff_eq] at hrun
  obtain ⟨c, hc, ⟨hrecorded, hrows⟩, hnever⟩ := hrun
  have hpayload : ∀ r ∈ recordedRequests c.log,
      r.2.normalizedPayload = .dict [("status", .str "Open")] ∨
        r.2.normalizedPayload = .dict [("status", .str "Done")] := by
    intro r hr
    obtain ⟨op, hop, hrecording⟩ := exists_op_of_recording hc hr
    simp only [recordedAgain, List.mem_cons, List.not_mem_nil, or_false] at hop
    rcases hop with rfl | rfl | rfl | rfl | rfl | rfl
    all_goals cases hrecording
    · exact .inl rfl
    · exact .inr rfl
    · exact .inl rfl
  have hdigests : sha256Json (.dict [("status", .str "Open")]) ≠
      sha256Json (.dict [("status", .str "Done")]) := by
    decide +kernel
  refine ⟨c, hc, hrecorded, hrows, (evidence_kept_iff {} _ c hc (fun r hr => ?_)
    fun r hr s hs => ?_).2 (neverStricter_of_check hnever)⟩
  · rcases hpayload r hr with heq | heq
    all_goals
      rw [heq]
      exact ⟨by simp, trivial, trivial⟩
  · rcases hpayload r hr with heq | heq
    all_goals
      rcases hpayload s hs with heq' | heq'
      all_goals rw [heq, heq']
    · exact fun _ => rfl
    · exact fun hcollide => absurd hcollide hdigests
    · exact fun hcollide => absurd hcollide.symm hdigests
    · exact fun _ => rfl

open Sample in
attribute [local instance] taskHost in
/-- Evidence that was confidential when it was first recorded stays so. -/
theorem evidence_kept_fails : ∃ c, runTasks (recordedTwice .confidential .restricted) = some c ∧
    ¬EvidenceKept {} c := by
  have hrun : (runTasks (recordedTwice .confidential .restricted)).map (fun c =>
      ((recordedRequests c.log).map fun r => r.2.dataClassification,
        (firstRecording c.log (workItem .restricted).observation).map fun r =>
          r.2.dataClassification)) =
      some ([.restricted, .confidential], some .confidential) := by decide +kernel
  obtain ⟨c, hc, heq⟩ := Option.map_eq_some_iff.1 hrun
  refine ⟨c, hc, fun hkept => ?_⟩
  obtain ⟨hclasses, hfirst⟩ := Prod.mk.inj heq
  have hmem : DataClassification.restricted ∈
      (recordedRequests c.log).map fun r => r.2.dataClassification := by
    rw [hclasses]
    exact List.mem_cons_self
  obtain ⟨r, hr, hclass⟩ := List.mem_map.1 hmem
  obtain ⟨first, hlog, hconfidential⟩ := Option.map_eq_some_iff.1 hfirst
  have hitem : r.2 = workItem .restricted := by
    obtain ⟨op, hop, hrecording⟩ := exists_op_of_recording hc hr
    simp only [recordedTwice, List.mem_cons, List.not_mem_nil, or_false] at hop
    rcases hop with rfl | rfl | rfl | rfl | rfl <;> cases hrecording
    · cases hclass
    · rfl
  have hlevel := (neverStricter_of_kept (recorded_run hc) hkept r hr first (hitem ▸ hlog)).1
  rw [hclass, hconfidential] at hlevel
  exact absurd hlevel (by decide)

end DeploymentLab
