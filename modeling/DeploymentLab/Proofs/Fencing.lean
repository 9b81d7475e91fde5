import DeploymentLab.Proofs.TaskInvariant

/-!
# Fencing

A claim that `claim_one` has returned stands for one attempt. Once that attempt is closed, or the
lease under which it runs has expired, nothing makes its fence active again, and every call that
is made with it is refused.
-/

namespace DeploymentLab

open Relational Transactions WorkerRepository Database

/-- The attempt that a claim stands for. -/
structure ClaimedTask.Names (claim : ClaimedTask) (a : TaskAttempt) : Prop where
  id : a.id = claim.attemptId
  task : a.taskId = claim.taskId
  number : a.attemptNumber = claim.attemptNumber
  token : a.leaseTokenHash = claim.leaseTokenHash

/-- Every claim stands for an attempt, and no two for the same one. -/
structure ClaimsKept (c : CoordinationConfig) : Prop where
  attempt : ∀ claim ∈ issuedClaims c.log, ∃ a ∈ c.state.taskAttempts.rows, claim.Names a
  distinct : ∀ claim₁ ∈ issuedClaims c.log, ∀ claim₂ ∈ issuedClaims c.log,
    claim₁.taskId = claim₂.taskId → claim₁.attemptNumber = claim₂.attemptNumber → claim₁ = claim₂

/-- The attempt of a claim is closed, or the lease of its task, still at that attempt, has
expired. -/
def ClaimedTask.Over (claim : ClaimedTask) (now : Timestamp) (db : Database) : Prop :=
  (∃ a ∈ db.taskAttempts.rows, a.id = claim.attemptId ∧ a.status ≠ .running) ∨
    ∃ t ∈ db.tasks.rows, t.id = claim.taskId ∧ t.attemptCount = claim.attemptNumber ∧
      ∃ expires, t.leaseExpiresAt = some expires ∧ expires ≤ now

/-- The fence of a claim is inactive, now and at any later time. -/
def ClaimedTask.Lapsed (claim : ClaimedTask) (now : Timestamp) (db : Database) : Prop :=
  ∀ moment, now ≤ moment → ∀ t ∈ db.tasks.rows, ¬Fenced claim moment t

/-- Arguments that a transaction rejects before it looks at the fence. -/
def Effect.malformed (maximumBytes : ℕ) : Effect → Bool
  | .record request =>
    decide (canonicalJson request.normalizedPayload = "" ∨
      maximumBytes < (canonicalJson request.normalizedPayload).utf8ByteSize)
  | .reserveOrGet request =>
    !supportedExternalActions.contains (request.provider, request.operation)
  | .transition request =>
    decide ((request.settlementDelay.isSome ∧ request.notBeforeDelay.isSome) ∨
      (request.settlementDelay.any fun delay => decide (delay < 0)) ∨
        (request.notBeforeDelay.any fun delay => decide (delay < 0)))
  | _ => false

def Operation.malformed (settings : CoordinationSettings) : Operation → Bool
  | .ledger _ _ _ e => e.malformed settings.sourceArtifactMaxBytes
  | _ => false

/-- The caller is told that it does not own its attempt. -/
def Refused (outcome : Except Exn Response) : Prop :=
  outcome = .ok (.finalized .stale) ∨ ∃ message, outcome = .error (.executionInvariantError message)

variable {db db' : Database} {id : UUID} {claim : ClaimedTask} {now : Timestamp}
  {op : Operation} {response : Response}

lemma mem_issuedClaims_cons {outcome : Except Exn Response} {log : CoordinationLog} :
    claim ∈ issuedClaims ((op, outcome) :: log) ↔
      outcome = .ok (.claimed (some claim)) ∨ claim ∈ issuedClaims log := by
  cases outcome with
  | error x => simp [issuedClaims]
  | ok response =>
    cases response with
    | claimed issued => cases issued <;> simp [issuedClaims, eq_comm]
    | created | updated | beaten | finalized | recovered | ledger => simp [issuedClaims]

/-- The fence of the ledger asks of the task what the fence of the workers asks. -/
lemma ownsTask_executionFence :
    claim.executionFence.ownsTask now = activeFence claim now := rfl

section

variable [Runtime] {settings : CoordinationSettings} {r r' : TaskRecord}

/-- A move keeps what names the attempts. -/
lemma Change.names (h : Change settings id op response r r') {a : TaskAttempt}
    (ha : a ∈ r.attempts) (hnames : claim.Names a) : ∃ b ∈ r'.attempts, claim.Names b := by
  cases h with
  | same | created | approved | cancelled => exact ⟨a, ha, hnames⟩
  | claimed => exact ⟨a, List.mem_cons_of_mem _ ha, hnames⟩
  | beaten | finalized | recovered =>
    rcases List.mem_cons.1 ha with rfl | holder
    · exact ⟨_, List.mem_cons_self, hnames.id, hnames.task, hnames.number, hnames.token⟩
    · exact ⟨a, List.mem_cons_of_mem _ holder, hnames⟩

/-- Only `claim_one` returns a claim. -/
lemma apply_claimed {issued : Option ClaimedTask}
    (h : op.apply settings db = .ok (.claimed issued, db')) :
    ∃ dueAt databaseNow locked attemptId tokenHash supported workerId lease,
      op = .claimOne dueAt databaseNow locked attemptId tokenHash supported workerId lease := by
  cases op with
  | claimOne dueAt databaseNow locked attemptId tokenHash supported workerId lease =>
    exact ⟨_, _, _, _, _, _, _, _, rfl⟩
  | ledger now row history e =>
    simp only [Operation.apply] at h
    split at h <;> cases h
  | createTask | approveTask | cancelTask | heartbeat | finalizeSuccess | scheduleRetry
  | finalizeFailure | finalizeCancellation | recoverOneExpired =>
    obtain ⟨a, -, heq⟩ := Operation.respond_eq_ok.1 h
    cases heq

/-- A claim that is issued is for the next attempt of its task, which it names. -/
lemma apply_issues (hdb : db.TasksValid) {log : CoordinationLog}
    (henabled : op.enabled log db = true)
    (h : op.apply settings db = .ok (.claimed (some claim), db')) :
    (∃ t ∈ db.tasks.rows, t.id = claim.taskId ∧ claim.attemptNumber = t.attemptCount + 1) ∧
      ∃ a ∈ db'.taskAttempts.rows, claim.Names a := by
  have hchange := apply_change hdb henabled h claim.taskId
  obtain ⟨dueAt, databaseNow, locked, attemptId, tokenHash, supported, workerId, lease, rfl⟩ :=
    apply_claimed h
  generalize hold : db.record claim.taskId = r at hchange
  generalize hnew : db'.record claim.taskId = r' at hchange
  cases hchange with
  | same hclaim => exact absurd rfl (hclaim claim rfl)
  | @claimed _ _ _ _ _ _ _ _ t attempts hclaimable =>
    have htask : db.task t.id = some t := congrArg TaskRecord.task hold
    refine ⟨⟨t, (task_eq_some_iff.1 htask).1, rfl, rfl⟩,
      startedAttempt attemptId tokenHash workerId databaseNow t, ?_, rfl, rfl, rfl, rfl⟩
    have hmem : startedAttempt attemptId tokenHash workerId databaseNow t ∈
        (db'.record t.id).attempts := by
      rw [show db'.record t.id = _ from hnew]
      exact List.mem_cons_self
    exact (mem_record_attempts.1 hmem).1

/-- A claim is issued for an approved task within its limit, with the numbers of its row. -/
lemma apply_claims (hdb : db.TasksValid) {log : CoordinationLog}
    (henabled : op.enabled log db = true)
    (h : op.apply settings db = .ok (.claimed (some claim), db')) :
    ∃ t, db.task claim.taskId = some t ∧ t.status = .approved ∧ t.attemptCount < t.maxAttempts ∧
      claim.attemptNumber = t.attemptCount + 1 ∧ claim.maxAttempts = t.maxAttempts := by
  have hchange := apply_change hdb henabled h claim.taskId
  obtain ⟨dueAt, databaseNow, locked, attemptId, tokenHash, supported, workerId, lease, rfl⟩ :=
    apply_claimed h
  generalize hold : db.record claim.taskId = r at hchange
  generalize db'.record claim.taskId = r' at hchange
  cases hchange with
  | same hclaim => exact absurd rfl (hclaim claim rfl)
  | @claimed _ _ _ _ _ _ _ _ t attempts hclaimable =>
    have htask : db.task t.id = some t := congrArg TaskRecord.task hold
    exact ⟨t, htask, hclaimable.status, hclaimable.within, rfl, rfl⟩

theorem claimsKept_step {c c' : CoordinationConfig} (hc : Coordinated c) (hkept : ClaimsKept c)
    (h : (coordination settings).step c op = some c') : ClaimsKept c' := by
  obtain ⟨henabled, ⟨response, db', happly, rfl⟩ | ⟨x, happly, rfl⟩⟩ := Store.step_cases h
  · have hold : ∀ claim ∈ issuedClaims c.log, ∃ a ∈ db'.taskAttempts.rows, claim.Names a := by
      intro claim hclaim
      obtain ⟨a, ha, hnames⟩ := hkept.attempt claim hclaim
      have hchange := apply_change hc.valid henabled happly a.taskId
      obtain ⟨b, hb, hbnames⟩ := hchange.names (mem_record_attempts.2 ⟨ha, rfl⟩) hnames
      exact ⟨b, (mem_record_attempts.1 hb).1, hbnames⟩
    -- The number of a new claim is above those of the attempts that its task has.
    have hfresh : ∀ claim, response = .claimed (some claim) → ∀ other ∈ issuedClaims c.log,
        claim.taskId = other.taskId → other.attemptNumber < claim.attemptNumber := by
      rintro claim rfl other hother htask
      obtain ⟨⟨t, ht, hid, hnumber⟩, -⟩ := apply_issues hc.valid henabled happly
      obtain ⟨a, ha, hnames⟩ := hkept.attempt other hother
      have hbounds := (hc.valid.inStep.numbers t ht a.attemptNumber).1
        ⟨a, ha, hnames.task.trans (htask.symm.trans hid.symm), rfl⟩
      have := hnames.number
      omega
    refine ⟨fun claim hclaim => ?_, fun claim₁ h₁ claim₂ h₂ htask hnumber => ?_⟩
    · rcases mem_issuedClaims_cons.1 hclaim with heq | hclaim
      · cases heq
        exact (apply_issues hc.valid henabled happly).2
      · exact hold claim hclaim
    · rcases mem_issuedClaims_cons.1 h₁ with heq₁ | h₁ <;>
        rcases mem_issuedClaims_cons.1 h₂ with heq₂ | h₂
      · rw [heq₁] at heq₂
        cases heq₂
        rfl
      · have := hfresh claim₁ (Except.ok.inj heq₁) claim₂ h₂ htask
        omega
      · have := hfresh claim₂ (Except.ok.inj heq₂) claim₁ h₁ htask.symm
        omega
      · exact hkept.distinct claim₁ h₁ claim₂ h₂ htask hnumber
  · have hsame : ∀ claim, claim ∈ issuedClaims ((op, Except.error x) :: c.log) →
        claim ∈ issuedClaims c.log := fun claim hclaim =>
      (mem_issuedClaims_cons.1 hclaim).resolve_left (by simp)
    exact ⟨fun claim hclaim => hkept.attempt claim (hsame claim hclaim),
      fun claim₁ h₁ claim₂ h₂ => hkept.distinct claim₁ (hsame claim₁ h₁) claim₂ (hsame claim₂ h₂)⟩

theorem claimsKept_run {ops : List Operation} {c : CoordinationConfig}
    (hrun : (coordination settings).run emptyCoordination ops = some c) :
    Coordinated c ∧ ClaimsKept c := by
  refine Store.run_induction (P := fun c => Coordinated c ∧ ClaimsKept c)
    (fun _ _ _ _ hc hstep => ⟨coordinated_step hc.1 hstep, claimsKept_step hc.1 hc.2 hstep⟩)
    ⟨coordinated_empty, ?_⟩ hrun
  exact ⟨fun _ hclaim => (by cases hclaim), fun _ hclaim => (by cases hclaim)⟩

end

/-- The attempt of an active claim runs. -/
lemma ClaimsKept.running {c : CoordinationConfig} (hkept : ClaimsKept c)
    (hdb : c.state.TasksValid) (hclaim : claim ∈ issuedClaims c.log) {t : Task}
    (ht : t ∈ c.state.tasks.rows) (hfence : Fenced claim now t) :
    ∃ a ∈ c.state.taskAttempts.rows, claim.Names a ∧ a.status = .running := by
  obtain ⟨a, ha, hrunning⟩ := hdb.exists_running ht hfence.status
  obtain ⟨b, hb, hnames⟩ := hkept.attempt claim hclaim
  have heq : a = b := by
    refine TasksValid.attempt_eq ha hb ?_ ?_
    · rw [hrunning.task, hnames.task, hfence.id]
    · rw [hrunning.number, hnames.number, hfence.number]
  subst heq
  exact ⟨a, ha, hnames, hrunning.status⟩

/-- For a claim that has been issued, the fence of the ledger is that of the workers. -/
theorem ClaimsKept.active_eq {c : CoordinationConfig} (hkept : ClaimsKept c)
    (hdb : c.state.TasksValid) (hclaim : claim ∈ issuedClaims c.log) (now : Timestamp) :
    claim.executionFence.active now c.state =
      (c.state.tasks.find? (activeFence claim now)).isSome := by
  rw [ExecutionFence.active, ownsTask_executionFence]
  cases hfind : c.state.tasks.find? (activeFence claim now) with
  | none => rfl
  | some t =>
    obtain ⟨a, ha, hnames, hrunning⟩ := hkept.running hdb hclaim (Table.mem_of_find? hfind)
      (activeFence_iff.1 (Table.pred_of_find? hfind))
    cases hattempt : c.state.taskAttempts.find? claim.executionFence.ownsAttempt with
    | some b => rfl
    | none =>
      have hfails := Table.find?_eq_none_iff.1 hattempt a ha
      simp [ExecutionFence.ownsAttempt, ClaimedTask.executionFence, hnames.id, hnames.task,
        hnames.number, hnames.token, hrunning] at hfails

lemma ClaimsKept.lapsed {c : CoordinationConfig} (hkept : ClaimsKept c)
    (hdb : c.state.TasksValid) (hclaim : claim ∈ issuedClaims c.log)
    (hover : claim.Over now c.state) : claim.Lapsed now c.state := by
  intro moment hmoment t ht hfence
  rcases hover with ⟨a, ha, hid, hclosed⟩ | ⟨s, hs, hid, -, expires, hexpires, hle⟩
  · obtain ⟨b, hb, hnames, hrunning⟩ := hkept.running hdb hclaim ht hfence
    have heq : a = b := Table.eq_of_clashes ha hb (by simp [clashes, Keyed.id, hid, hnames.id])
    exact hclosed (heq ▸ hrunning)
  · have heq : s = t := Table.eq_of_clashes hs ht (clashes_of_task_id_eq (hid.trans hfence.id.symm))
    subst heq
    obtain ⟨later, hlater, hlt⟩ := hfence.lease
    rw [hexpires] at hlater
    cases hlater
    exact absurd (Int.lt_of_lt_of_le (Int.lt_of_lt_of_le hlt hle) hmoment) (Int.lt_irrefl _)

/-! ## Lapsed claims -/

lemma ClaimedTask.Lapsed.find? (hlapsed : claim.Lapsed now db) {moment : Timestamp}
    (hmoment : now ≤ moment) : db.tasks.find? (activeFence claim moment) = none := by
  rw [Table.find?_eq_none_iff]
  intro t ht
  by_contra hactive
  rw [Bool.not_eq_false, activeFence_iff] at hactive
  exact hlapsed moment hmoment t ht hactive

lemma ClaimedTask.Lapsed.not_active (hlapsed : claim.Lapsed now db) {moment : Timestamp}
    (hmoment : now ≤ moment) : claim.executionFence.active moment db = false := by
  rw [ExecutionFence.active, ownsTask_executionFence, hlapsed.find? hmoment]
  rfl

lemma finalize_lapsed (hdb : db.TasksValid) {f : Finalization} (hf : f.WellFormed)
    (hfind : db.tasks.find? (activeFence f.claim f.databaseNow) = none) :
    finalize db f = .ok (.stale, db) := by
  have hnone : db.tasks.find? (finalizationFence f) = none := by
    rw [Table.find?_eq_none_iff] at hfind ⊢
    intro t ht
    rw [finalizationFence, hfind t ht, Bool.false_and]
  rw [finalize_eq hdb hf, hnone]
  dsimp only
  rw [classifyFailedFence, hfind]

section

variable [Runtime] {settings : CoordinationSettings} {r r' : TaskRecord}

/-- A move after which a claim is active, and which is not that claim's own start, finds it active,
then or at the time that it reads itself. -/
lemma Change.fenced (h : Change settings id op response r r') {t' : Task} {moment : Timestamp}
    (hnumber : ∀ t, r.task = some t → claim.attemptNumber ≤ t.attemptCount)
    (ht' : r'.task = some t') (hfence : Fenced claim moment t') :
    ∃ t, r.task = some t ∧ ∃ time, (time = moment ∨ time ∈ op.readings) ∧ Fenced claim time t := by
  have hstatus := hfence.status
  cases h with
  | same => exact ⟨t', ht', moment, .inl rfl, hfence⟩
  | created =>
    cases ht'
    cases hstatus
  | approved =>
    cases ht'
    cases hstatus
  | @cancelled now response t d attempts hdecides hmarker hopen =>
    cases ht'
    have hrunning : t.status = .running := by
      by_contra hne
      have hnew : d.newStatus = .running := hstatus
      rw [hdecides.status, if_neg hne] at hnew
      cases hnew
    exact ⟨t, rfl, moment, .inl rfl, hfence.id, hrunning, hfence.worker, hfence.number,
      hfence.token, hfence.lease⟩
  | @claimed dueAt databaseNow locked attemptId tokenHash supported workerId lease t attempts
      hclaimable =>
    cases ht'
    have hle := hnumber t rfl
    have heq : t.attemptCount + 1 = claim.attemptNumber := hfence.number
    omega
  | @beaten now other lease response t a older hother hrunning =>
    cases ht'
    exact ⟨t, rfl, now, .inr List.mem_cons_self, hfence.id, hother.status, hfence.worker,
      hfence.number, hfence.token, hother.lease⟩
  | finalized hop hf =>
    cases ht'
    exact absurd hstatus hf.status
  | @recovered now locked backoff response t outcome a older hexpired hrecovers hrunning =>
    cases ht'
    have hnew : outcome.newStatus = .running := hstatus
    rw [hrecovers.status] at hnew
    split at hnew
    · cases hnew
    · split at hnew <;> cases hnew

theorem lapsed_step {c c' : CoordinationConfig} (hc : Coordinated c) (hkept : ClaimsKept c)
    (hclaim : claim ∈ issuedClaims c.log) (hlapsed : claim.Lapsed now c.state)
    (hclock : ∀ time ∈ op.readings, now ≤ time)
    (h : (coordination settings).step c op = some c') : claim.Lapsed now c'.state := by
  obtain ⟨henabled, ⟨response, db', happly, rfl⟩ | ⟨x, happly, rfl⟩⟩ := Store.step_cases h
  · intro moment hmoment t' ht' hfence
    have hchange := apply_change hc.valid henabled happly t'.id
    obtain ⟨a, ha, hnames⟩ := hkept.attempt claim hclaim
    have hnumber : ∀ t, (c.state.record t'.id).task = some t →
        claim.attemptNumber ≤ t.attemptCount := by
      intro t ht
      obtain ⟨hmem, hid⟩ := task_eq_some_iff.1 ht
      rw [← hnames.number]
      exact ((hc.valid.inStep.numbers t hmem a.attemptNumber).1
        ⟨a, ha, hnames.task.trans (hfence.id.symm.trans hid.symm), rfl⟩).2
    obtain ⟨t, ht, time, htime, hactive⟩ := hchange.fenced hnumber (record_task ht') hfence
    refine hlapsed time ?_ t (task_eq_some_iff.1 ht).1 hactive
    rcases htime with rfl | hread
    · exact hmoment
    · exact hclock time hread
  · exact hlapsed

lemma execute_lapsed (maximumBytes : ℕ) {moment : Timestamp} (row history : UUID) {e : Effect}
    {fence : ExecutionFence} (hfence : e.fence? = some fence)
    (hinactive : fence.active moment db = false) :
    ∃ x, db.execute maximumBytes moment row history e = some (.error x, db) ∧
      (e.malformed maximumBytes = true → ∃ message, x = .valueError message) ∧
      (e.malformed maximumBytes = false → x = fenceNotConfirmed) := by
  have hassert : assertActiveFence db fence moment = .error fenceNotConfirmed := by
    rw [assertActiveFence, hinactive]
    rfl
  cases e with
  | record request =>
    cases hfence
    simp only [Database.execute, Effect.malformed, decide_eq_true_eq, decide_eq_false_iff_not,
      SourceArtifactRepository.record]
    split
    · rename_i hbad
      exact ⟨_, rfl, fun _ => ⟨_, rfl⟩, fun hfine => absurd hbad hfine⟩
    · rename_i hfine
      exact ⟨_, by rw [hassert]; rfl, fun hbad => absurd hbad hfine, fun _ => rfl⟩
  | reserveOrGet request =>
    cases hfence
    simp only [Database.execute, Effect.malformed, Bool.not_eq_true', Bool.not_eq_false',
      List.contains_eq_mem, decide_eq_true_eq, decide_eq_false_iff_not,
      ExternalActionRepository.reserveOrGet]
    split
    · rename_i hbad
      exact ⟨_, rfl, fun _ => ⟨_, rfl⟩, fun hfine => absurd hfine hbad⟩
    · rename_i hfine
      exact ⟨_, by rw [hassert]; rfl, fun hbad => absurd hbad hfine, fun _ => rfl⟩
  | transition request =>
    cases hfence
    simp only [Database.execute, Effect.malformed, decide_eq_true_eq, decide_eq_false_iff_not,
      ExternalActionRepository.transition]
    split
    · rename_i hboth
      exact ⟨_, rfl, fun _ => ⟨_, rfl⟩, fun hfine => absurd (.inl hboth) hfine⟩
    · rename_i hboth
      split
      · rename_i hnegative
        exact ⟨_, rfl, fun _ => ⟨_, rfl⟩, fun hfine => absurd (.inr hnegative) hfine⟩
      · rename_i hnonneg
        exact ⟨_, by rw [hassert]; rfl, fun hbad => (hbad.elim hboth hnonneg).elim, fun _ => rfl⟩
  | revise request =>
    cases hfence
    simp only [Database.execute, ExternalActionRepository.revise]
    exact ⟨_, by rw [hassert]; rfl, fun hbad => (by cases hbad), fun _ => rfl⟩
  | fetchRecords | verifyGitHubIdentity | fetchContext | getComment | findCommentsByMarker
  | createComment | updateComment | fetchIssue | verifySlackIdentity | postNotification
  | reconciliationDelaySeconds => cases hfence

/-- A call with a lapsed claim is refused, if it is not rejected for its arguments. -/
theorem apply_lapsed (settings : CoordinationSettings) (hdb : db.TasksValid) {log : CoordinationLog}
    (henabled : op.enabled log db = true) (hfence : op.fence? = some claim.executionFence)
    (hlapsed : claim.Lapsed now db) (hclock : ∀ time ∈ op.readings, now ≤ time) :
    (op.malformed settings = false → op.apply settings db = .ok (.finalized .stale, db) ∨
      ∃ message, op.apply settings db = .error (.executionInvariantError message)) ∧
    (op.malformed settings = true →
      ∃ message, op.apply settings db = .error (.valueError message)) := by
  have hfind : ∀ {other : ClaimedTask} {moment : Timestamp},
      some other.executionFence = some claim.executionFence → now ≤ moment →
      db.tasks.find? (activeFence other moment) = none := by
    intro other moment heq hmoment
    rw [← ownsTask_executionFence, Option.some.inj heq, ownsTask_executionFence]
    exact hlapsed.find? hmoment
  cases op with
  | heartbeat moment other lease =>
    refine ⟨fun _ => .inr ⟨"active task fence did not match", ?_⟩, fun hbad => (by cases hbad)⟩
    rw [Operation.apply, Operation.respond_eq_error, heartbeat_eq hdb,
      hfind hfence (hclock _ List.mem_cons_self)]
    rfl
  | finalizeSuccess moment other result =>
    rw [Operation.enabled, Bool.and_eq_true] at henabled
    refine ⟨fun _ => .inl ?_, fun hbad => (by cases hbad)⟩
    exact Operation.respond_eq_ok.2 ⟨_, finalize_lapsed hdb (succeeding_wellFormed henabled.2)
      (hfind hfence (hclock _ List.mem_cons_self)), rfl⟩
  | scheduleRetry moment retryNow other delay code summary reason =>
    refine ⟨fun _ => .inl ?_, fun hbad => (by cases hbad)⟩
    exact Operation.respond_eq_ok.2 ⟨_, finalize_lapsed hdb retrying_wellFormed
      (hfind hfence (hclock _ List.mem_cons_self)), rfl⟩
  | finalizeFailure moment other code summary reason =>
    refine ⟨fun _ => .inl ?_, fun hbad => (by cases hbad)⟩
    exact Operation.respond_eq_ok.2 ⟨_, finalize_lapsed hdb failing_wellFormed
      (hfind hfence (hclock _ List.mem_cons_self)), rfl⟩
  | finalizeCancellation moment other =>
    refine ⟨fun _ => .inl ?_, fun hbad => (by cases hbad)⟩
    exact Operation.respond_eq_ok.2 ⟨_, finalize_lapsed hdb cancelling_wellFormed
      (hfind hfence (hclock _ List.mem_cons_self)), rfl⟩
  | ledger moment row history e =>
    obtain ⟨x, hexecute, hbad, hfine⟩ := execute_lapsed settings.sourceArtifactMaxBytes row history
      hfence (hlapsed.not_active (hclock moment List.mem_cons_self))
    have happly : (Operation.ledger moment row history e).apply settings db = .error x := by
      rw [Operation.apply, hexecute]
    rw [happly]
    refine ⟨fun hok => .inr ⟨_, congrArg Except.error (hfine hok)⟩, fun hmalformed => ?_⟩
    obtain ⟨message, rfl⟩ := hbad hmalformed
    exact ⟨message, rfl⟩
  | createTask | approveTask | cancelTask | claimOne | recoverOneExpired => cases hfence

/-- A claim stays lapsed while the clock does not go back. -/
theorem lapsed_run {ops : List Operation} {c c' : CoordinationConfig} (hc : Coordinated c)
    (hkept : ClaimsKept c) (hclaim : claim ∈ issuedClaims c.log)
    (hlapsed : claim.Lapsed now c.state)
    (hclock : ∀ time ∈ ops.flatMap Operation.readings, now ≤ time)
    (hrun : (coordination settings).run c ops = some c') :
    Coordinated c' ∧ claim.Lapsed now c'.state := by
  have hall : (Coordinated c' ∧ ClaimsKept c') ∧ claim ∈ issuedClaims c'.log ∧
      claim.Lapsed now c'.state := by
    refine Store.run_induction (P := fun c => (Coordinated c ∧ ClaimsKept c) ∧
      claim ∈ issuedClaims c.log ∧ claim.Lapsed now c.state) ?_ ⟨⟨hc, hkept⟩, hclaim, hlapsed⟩ hrun
    rintro c₁ op c₂ hop ⟨⟨hc, hkept⟩, hclaim, hlapsed⟩ hstep
    refine ⟨⟨coordinated_step hc hstep, claimsKept_step hc hkept hstep⟩, ?_,
      lapsed_step hc hkept hclaim hlapsed (fun time htime => ?_) hstep⟩
    · obtain ⟨outcome, hlog⟩ := Store.log_of_step hstep
      rw [hlog]
      exact mem_issuedClaims_cons.2 (.inr hclaim)
    · exact hclock time (List.mem_flatMap.2 ⟨op, hop, htime⟩)
  exact ⟨hall.1.1, hall.2.2⟩

/-- At any moment one claim of a task at most is active, and from the moment at which a claim is
over every call with it is refused. -/
theorem calls_fenced (settings : CoordinationSettings) (before after : List Operation)
    (op : Operation) (c c₁ c₂ : CoordinationConfig) (now : Timestamp)
    (hclock : (before.flatMap Operation.readings ++
      now :: (after ++ [op]).flatMap Operation.readings).Pairwise (· ≤ ·))
    (hrun : (coordination settings).run emptyCoordination before = some c)
    (hafter : (coordination settings).run c after = some c₁)
    (hcall : (coordination settings).step c₁ op = some c₂) :
    (∀ moment, ∀ claim₁ ∈ issuedClaims c.log, ∀ claim₂ ∈ issuedClaims c.log,
      claim₁.taskId = claim₂.taskId →
      (c.state.tasks.find? (activeFence claim₁ moment)).isSome = true →
      (c.state.tasks.find? (activeFence claim₂ moment)).isSome = true → claim₁ = claim₂) ∧
    (∀ moment, ∀ claim ∈ issuedClaims c.log, claim.executionFence.active moment c.state =
      (c.state.tasks.find? (activeFence claim moment)).isSome) ∧
    ∀ claim ∈ issuedClaims c.log, claim.Over now c.state →
      op.fence? = some claim.executionFence → c₂.state = c₁.state ∧
        ∃ outcome, c₂.log = (op, outcome) :: c₁.log ∧
          (op.malformed settings = false → Refused outcome) ∧
          (op.malformed settings = true → ∃ message, outcome = .error (.valueError message)) := by
  obtain ⟨hc, hkept⟩ := claimsKept_run hrun
  have hlater : ∀ time ∈ (after ++ [op]).flatMap Operation.readings, now ≤ time :=
    (List.pairwise_cons.1 (List.pairwise_append.1 hclock).2.1).1
  rw [List.flatMap_append] at hlater
  refine ⟨fun moment claim₁ h₁ claim₂ h₂ htask hactive₁ hactive₂ => ?_,
    fun moment claim hclaim => hkept.active_eq hc.valid hclaim moment,
    fun claim hclaim hover hfence => ?_⟩
  · obtain ⟨t₁, ht₁⟩ := Option.isSome_iff_exists.1 hactive₁
    obtain ⟨t₂, ht₂⟩ := Option.isSome_iff_exists.1 hactive₂
    have hfence₁ := activeFence_iff.1 (Table.pred_of_find? ht₁)
    have hfence₂ := activeFence_iff.1 (Table.pred_of_find? ht₂)
    have heq : t₁ = t₂ := Table.eq_of_clashes (Table.mem_of_find? ht₁) (Table.mem_of_find? ht₂)
      (clashes_of_task_id_eq (by rw [hfence₁.id, hfence₂.id, htask]))
    subst heq
    exact hkept.distinct claim₁ h₁ claim₂ h₂ htask (hfence₁.number.symm.trans hfence₂.number)
  · obtain ⟨hc₁, hlapsed⟩ := lapsed_run hc hkept hclaim (hkept.lapsed hc.valid hclaim hover)
      (fun time htime => hlater time (List.mem_append_left _ htime)) hafter
    have hop : ∀ time ∈ op.readings, now ≤ time := fun time htime =>
      hlater time (List.mem_append_right _ (by simpa using htime))
    obtain ⟨henabled, hcases⟩ := Store.step_cases hcall
    obtain ⟨hfine, hbad⟩ := apply_lapsed settings hc₁.valid henabled hfence hlapsed hop
    rcases hcases with ⟨response, db', happly, rfl⟩ | ⟨x, happly, rfl⟩
    · change op.apply settings c₁.state = _ at happly
      rw [happly] at hfine hbad
      cases hmalformed : op.malformed settings with
      | true =>
        obtain ⟨message, heq⟩ := hbad hmalformed
        cases heq
      | false =>
        rcases hfine hmalformed with heq | ⟨message, heq⟩
        · cases heq
          exact ⟨rfl, _, rfl, fun _ => .inl rfl, fun htrue => (by cases htrue)⟩
        · cases heq
    · change op.apply settings c₁.state = _ at happly
      rw [happly] at hfine hbad
      refine ⟨rfl, _, rfl, fun hmalformed => ?_, fun hmalformed => ?_⟩
      · rcases hfine hmalformed with heq | ⟨message, heq⟩
        · cases heq
        · cases heq
          exact .inr ⟨message, rfl⟩
      · obtain ⟨message, heq⟩ := hbad hmalformed
        cases heq
        exact ⟨message, rfl⟩

end

namespace Sample

/-- The lease of worker `a` expires, and worker `b` takes the task over. -/
def takenOver : List Operation :=
  [.createTask 0 1 taskRequest, .approveTask 1 1, claimTask 2 1 "a",
    .recoverOneExpired 13 [] fun _ => .ok 1, claimTask 14 2 "b"]

/-- Worker `a` reserves a Slack post as an action of GitHub. -/
def malformedCall : Operation :=
  .ledger 15 100 101 (.reserveOrGet {
    fence := (taskClaim 1 "a").executionFence
    provider := .github
    operation := .postDeploymentContextNotification
    actionScopeKey := "s"
    desiredRequestFingerprint := 0
    decisionSnapshotHash := 0 })

/-- Worker `a` finalises its success. -/
def lateSuccess : Operation := .finalizeSuccess 15 (taskClaim 1 "a") (.dict [])

attribute [local instance] taskHost

/-- In `c` the claim of worker `a` is issued and over, and its call `op` leads to `c'`. -/
structure CallsOver (op : Operation) (c c' : CoordinationConfig) : Prop where
  run : runTasks takenOver = some c
  issued : taskClaim 1 "a" ∈ issuedClaims c.log
  lapsed : (taskClaim 1 "a").Over 14 c.state
  call : (coordination {}).step c op = some c'

def rejectsArguments : Except Exn Response → Bool
  | .error (.valueError _) => true
  | _ => false

lemma exists_callsOver (op : Operation) (p : Except Exn Response → Bool)
    (hrun : (runTasks takenOver).any (fun c => (issuedClaims c.log).contains (taskClaim 1 "a") &&
      (c.state.taskAttempts.rows.any fun a => a.id == 11 && a.status != .running) &&
      ((coordination {}).step c op).any fun c' => c'.log.head?.any fun e => p e.2) = true) :
    ∃ c c' outcome, CallsOver op c c' ∧ c'.log = (op, outcome) :: c.log ∧ p outcome = true := by
  simp only [Option.any_eq_true, Bool.and_eq_true, List.contains_iff_mem, List.any_eq_true,
    beq_iff_eq, bne_iff_ne] at hrun
  obtain ⟨c, hc, ⟨hissued, a, ha, hid, hstatus⟩, c', hc', e, he, hp⟩ := hrun
  obtain ⟨outcome, hlog⟩ := Store.log_of_step hc'
  rw [hlog] at he
  cases he
  exact ⟨c, c', outcome, ⟨hc, hissued, .inl ⟨a, ha, hid, hstatus⟩, hc'⟩, hlog, hp⟩

end Sample

open Sample in
/-- A call with a claim that is over is rejected for its arguments. -/
theorem calls_not_fenced_malformed : ∃ c c' message, CallsOver malformedCall c c' ∧
    malformedCall.fence? = some (taskClaim 1 "a").executionFence ∧
    c'.log = (malformedCall, .error (.valueError message)) :: c.log := by
  obtain ⟨c, c', outcome, hcalls, hlog, hrejects⟩ :=
    exists_callsOver malformedCall rejectsArguments (by decide +kernel)
  unfold rejectsArguments at hrejects
  split at hrejects
  · exact ⟨c, c', _, hcalls, rfl, hlog⟩
  · cases hrejects

open Sample in
theorem calls_fenced_lateSuccess : ∃ c c', CallsOver lateSuccess c c' ∧ c'.state = c.state ∧
    ∃ outcome, c'.log = (lateSuccess, outcome) :: c.log ∧ Refused outcome := by
  obtain ⟨c, c', -, hcalls, -⟩ :=
    exists_callsOver lateSuccess (fun _ => true) (by decide +kernel)
  obtain ⟨-, -, hrefused⟩ :=
    @calls_fenced taskHost {} takenOver [] lateSuccess c c c' 14 (by decide)
    hcalls.run rfl hcalls.call
  obtain ⟨hstate, outcome, hlog, hfine, -⟩ := hrefused _ hcalls.issued hcalls.lapsed rfl
  exact ⟨c, c', hcalls, hstate, outcome, hlog, hfine rfl⟩

end DeploymentLab
