import DeploymentLab.Proofs.Fencing
import DeploymentLab.Proofs.RunnerCauses

/-!
# The limit on attempts

The filter of `claim_one`, the failure policy of the runner and recovery agree on the limit: an
approved task can be claimed once it is due, no task is claimed more often than it may be, and the
last attempt ends in success or in failure.
-/

namespace DeploymentLab

open Interaction Relational Transactions TaskService WorkerRepository Database

/-- The claims of the task `id` that have been issued. -/
def claimsOf (log : CoordinationLog) (id : UUID) : List ClaimedTask :=
  (issuedClaims log).filter fun claim => claim.taskId == id

/-- A retry is asked for below the limit only. -/
def Operation.withinLimit : Operation → Prop
  | .scheduleRetry _ _ claim _ _ _ _ => claim.attemptNumber < claim.maxAttempts
  | _ => True

/-- What a task and the claims issued for it say of its limit. -/
structure TaskLimited (log : CoordinationLog) (t : Task) : Prop where
  pending : t.status = .pendingApproval → t.attemptCount = 0
  approved : t.status = .approved → t.attemptCount < t.maxAttempts
  claims : ∀ claim ∈ claimsOf log t.id, claim.maxAttempts = t.maxAttempts
  count : ((claimsOf log t.id).length : ℤ) = t.attemptCount

/-- What holds of the tables and the log in every run of the workers. -/
structure Limited (c : CoordinationConfig) : Prop where
  coordinated : Coordinated c
  kept : ClaimsKept c
  task : ∀ t ∈ c.state.tasks.rows, TaskLimited c.log t

/-- The task runs its last attempt, and no cancellation is pending. -/
structure LastAttempt (t : Task) : Prop where
  status : t.status = .running
  limit : t.maxAttempts ≤ t.attemptCount
  marker : t.cancellationRequestedAt = none

/-- What the last attempt of a task may become after `op`: it goes on, succeeds, or fails. -/
def EndsAfter (op : Operation) (t : Task) : Prop :=
  t.status = .running ∨ t.status = .failed ∨
    t.status = .succeeded ∧ ∃ now claim result, op = .finalizeSuccess now claim result

/-- How the last attempt of the task `t` fails: by the finaliser of its owner, or by recovery. -/
structure FailsAtLast [Runtime] (settings : CoordinationSettings) (c : CoordinationConfig)
    (t : Task) : Prop where
  finalised : ∀ now claim code summary reason c',
    (coordination settings).step c (.finalizeFailure now claim code summary reason) = some c' →
    activeFence claim now t = true → ∃ t', c'.state.task t.id = some t' ∧ t'.status = .failed
  recovered : ∀ now locked backoff c',
    (coordination settings).step c (.recoverOneExpired now locked backoff) = some c' →
    selectForUpdate c.state locked recoveryOrder (expired now) = some t →
    ∃ t', c'.state.task t.id = some t' ∧ t'.status = .failed

/-- An approved task can be claimed once it is due, and claims do not exceed the limit. -/
structure AttemptsLimited (c : CoordinationConfig) : Prop where
  claimable : ∀ t ∈ c.state.tasks.rows, t.status = .approved → t.attemptCount < t.maxAttempts ∧
    ∃ due, t.availableAt = some due ∧ ∀ dueAt supported, due ≤ dueAt → t.taskType ∈ supported →
      claimable supported dueAt t = true
  claims : ∀ t ∈ c.state.tasks.rows, ((claimsOf c.log t.id).length : ℤ) ≤ t.maxAttempts

variable {V : Type}

/-- An execution that times out or raises a retryable error in the last attempt calls
`finalize_failure`, and does not return without a finaliser. -/
structure FailsWithoutRetry (validator : ResultValidator V) (past : RunnerPast V) : Prop where
  finaliser : ∀ e h claim, .issued e :: h <:+ past → FailsRetryably validator (runnerPhase h) →
    e.finalises? = some claim → claim.maxAttempts ≤ claim.attemptNumber →
    ∃ code summary reason, e = .finalizeFailure claim code summary reason
  returns : ∀ h, .ended (.ok ()) :: h <:+ past → ¬FailsRetryably validator (runnerPhase h)

section

variable [Runtime] {settings : CoordinationSettings} {op : Operation} {id : UUID}
  {response : Response} {r r' : TaskRecord} {t t' : Task} {log : CoordinationLog}

omit [Runtime] in
lemma claimsOf_cons_of_ne {outcome : Except Exn Response}
    (h : ∀ claim, outcome = .ok (.claimed (some claim)) → claim.taskId ≠ id) :
    claimsOf ((op, outcome) :: log) id = claimsOf log id := by
  cases outcome with
  | error x => rfl
  | ok response =>
    cases response with
    | claimed issued =>
      cases issued with
      | none => rfl
      | some claim =>
        have hne := h claim rfl
        simp [claimsOf, issuedClaims, hne]
    | created | updated | beaten | finalized | recovered | ledger => rfl

omit [Runtime] in
/-- A new row for a task that keeps its limit, its number of attempts and its claims. -/
lemma TaskLimited.rewrite {log' : CoordinationLog} (h : TaskLimited log t) (hid : t'.id = t.id)
    (hmax : t'.maxAttempts = t.maxAttempts) (hcount : t'.attemptCount = t.attemptCount)
    (hclaims : claimsOf log' t.id = claimsOf log t.id)
    (hpending : t'.status = .pendingApproval → t.status = .pendingApproval)
    (happroved : t'.status = .approved → t.attemptCount < t.maxAttempts) :
    TaskLimited log' t' := by
  constructor
  · intro hstatus
    rw [hcount]
    exact h.pending (hpending hstatus)
  · intro hstatus
    rw [hcount, hmax]
    exact happroved hstatus
  · rw [hid, hclaims, hmax]
    exact h.claims
  · rw [hid, hclaims, hcount]
    exact h.count

omit [Runtime] in
/-- A finaliser within the limit that approves its task again leaves an attempt to be made. -/
lemma TaskLimited.below (h : TaskLimited log t) (hop : op.withinLimit) {f : Finalization}
    (hf : op.finalization? = some f) (hclaim : f.claim ∈ issuedClaims log)
    (hfence : Fenced f.claim f.databaseNow t) (happroved : f.taskValues.status = .approved) :
    t.attemptCount < t.maxAttempts := by
  have hmem : f.claim ∈ claimsOf log t.id := by
    unfold claimsOf
    rw [List.mem_filter]
    exact ⟨hclaim, by simp [hfence.id]⟩
  have hmax := h.claims f.claim hmem
  have hnumber := hfence.number
  cases op with
  | scheduleRetry now retryNow claim delay code summary reason =>
    cases hf
    have hlimit : claim.attemptNumber < claim.maxAttempts := hop
    change claim.maxAttempts = t.maxAttempts at hmax
    change t.attemptCount = claim.attemptNumber at hnumber
    omega
  | finalizeSuccess | finalizeFailure | finalizeCancellation =>
    cases hf
    cases happroved
  | createTask | approveTask | cancelTask | claimOne | heartbeat | recoverOneExpired | ledger =>
    cases hf

omit [Runtime] in
lemma finalization_ne_pendingApproval {f : Finalization} (hf : op.finalization? = some f) :
    f.taskValues.status ≠ .pendingApproval := by
  cases op with
  | finalizeSuccess | scheduleRetry | finalizeFailure | finalizeCancellation =>
    cases hf
    simp [succeeding, retrying, failing, cancelling]
  | createTask | approveTask | cancelTask | claimOne | heartbeat | recoverOneExpired | ledger =>
    cases hf

/-- A move whose retries stay below the limit keeps a task within its limit. -/
lemma Change.limited (h : Change settings id op response r r') (hr : r.Valid)
    (hop : op.withinLimit) (hold : ∀ t, r.task = some t → t.id = id ∧ TaskLimited log t)
    (habsent : r.task = none → claimsOf log id = [])
    (hissued : ∀ claim, response = .claimed (some claim) →
      ∃ dueAt now locked attemptId token supported worker lease,
        op = .claimOne dueAt now locked attemptId token supported worker lease)
    (hclaim : ∀ f, op.finalization? = some f → f.claim ∈ issuedClaims log)
    (ht' : r'.task = some t') : TaskLimited ((op, .ok response) :: log) t' := by
  have hkept : (∀ claim, response ≠ .claimed (some claim)) →
      claimsOf ((op, .ok response) :: log) id = claimsOf log id := by
    intro hnone
    apply claimsOf_cons_of_ne
    intro claim heq
    exact absurd (Except.ok.inj heq) (hnone claim)
  cases h with
  | same hother =>
    obtain ⟨hid, hlimited⟩ := hold t' ht'
    refine hlimited.rewrite rfl rfl rfl ?_ ?_ ?_
    · rw [hid]
      apply claimsOf_cons_of_ne
      intro claim heq
      exact hother claim (Except.ok.inj heq)
    · exact fun hstatus => hstatus
    · exact hlimited.approved
  | @created timestamp request _ attempts haccepted =>
    cases ht'
    have hnil : claimsOf ((.createTask timestamp id request, .ok response) :: log) id = [] := by
      rw [hkept]
      · exact habsent rfl
      · intro claim heq
        obtain ⟨_, _, _, _, _, _, _, _, hclaimOne⟩ := hissued claim heq
        cases hclaimOne
    refine ⟨fun _ => rfl, fun hstatus => (by cases hstatus), ?_, ?_⟩
    · intro claim hmem
      change claim ∈ claimsOf _ id at hmem
      rw [hnil] at hmem
      cases hmem
    · change ((claimsOf _ id).length : ℤ) = 0
      rw [hnil]
      rfl
  | @approved now _ t attempts hstatus =>
    cases ht'
    obtain ⟨rfl, hlimited⟩ := hold t rfl
    have hmax := (hr.sound t rfl).max
    have hzero := hlimited.pending hstatus
    refine hlimited.rewrite rfl rfl rfl ?_ ?_ ?_
    · apply hkept
      intro claim heq
      obtain ⟨_, _, _, _, _, _, _, _, hclaimOne⟩ := hissued claim heq
      cases hclaimOne
    · intro hnew
      cases hnew
    · intro _
      omega
  | @cancelled now _ t d attempts hdecides hmarker hopen =>
    cases ht'
    obtain ⟨rfl, hlimited⟩ := hold t rfl
    have hnew : (TaskService.cancelled d now t).status = _ := hdecides.status
    refine hlimited.rewrite rfl rfl rfl ?_ ?_ ?_
    · apply hkept
      intro claim heq
      obtain ⟨_, _, _, _, _, _, _, _, hclaimOne⟩ := hissued claim heq
      cases hclaimOne
    · intro hstatus
      rw [hnew] at hstatus
      split at hstatus <;> cases hstatus
    · intro hstatus
      rw [hnew] at hstatus
      split at hstatus <;> cases hstatus
  | @claimed dueAt now locked attemptId token supported worker lease t attempts hclaimable =>
    cases ht'
    obtain ⟨rfl, hlimited⟩ := hold t rfl
    have hclaims : claimsOf ((.claimOne dueAt now locked attemptId token supported worker lease,
        .ok (.claimed (some (claimOf attemptId token worker t)))) :: log) t.id =
        claimOf attemptId token worker t :: claimsOf log t.id := by
      simp [claimsOf, issuedClaims, claimOf]
    refine ⟨fun hstatus => (by cases hstatus), fun hstatus => (by cases hstatus), ?_, ?_⟩
    · intro claim hmem
      change claim ∈ claimsOf _ t.id at hmem
      rw [hclaims] at hmem
      rcases List.mem_cons.1 hmem with rfl | hmem
      · rfl
      · exact hlimited.claims claim hmem
    · change ((claimsOf _ t.id).length : ℤ) = t.attemptCount + 1
      have hcount := hlimited.count
      rw [hclaims, List.length_cons]
      omega
  | @beaten now claim lease _ t a older hfence hrunning =>
    cases ht'
    obtain ⟨rfl, hlimited⟩ := hold t rfl
    refine hlimited.rewrite rfl rfl rfl ?_ ?_ ?_
    · apply hkept
      intro claim heq
      obtain ⟨_, _, _, _, _, _, _, _, hclaimOne⟩ := hissued claim heq
      cases hclaimOne
    · exact fun hstatus => hstatus
    · exact hlimited.approved
  | @finalized _ f t a older hfinal hf hfence hrunning =>
    cases ht'
    obtain ⟨rfl, hlimited⟩ := hold t rfl
    refine hlimited.rewrite rfl rfl rfl ?_ ?_ ?_
    · apply hkept
      intro claim heq
      cases heq
    · intro hstatus
      exact absurd hstatus (finalization_ne_pendingApproval hfinal)
    · exact hlimited.below hop hfinal (hclaim f hfinal) (fence_iff.1 hfence).1
  | @recovered now locked backoff _ t outcome a older hexpired hrecovers hrunning =>
    cases ht'
    obtain ⟨rfl, hlimited⟩ := hold t rfl
    have hnew : (recoveredRow outcome now t).status = _ := hrecovers.status
    refine hlimited.rewrite rfl rfl rfl ?_ ?_ ?_
    · apply hkept
      intro claim heq
      obtain ⟨_, _, _, _, _, _, _, _, hclaimOne⟩ := hissued claim heq
      cases hclaimOne
    · intro hstatus
      rw [hnew] at hstatus
      split at hstatus
      · cases hstatus
      · split at hstatus <;> cases hstatus
    · intro hstatus
      rw [hnew] at hstatus
      split at hstatus
      · cases hstatus
      · split at hstatus
        · cases hstatus
        · omega

/-- The last attempt of a task goes on, succeeds, or fails. -/
lemma Change.endsAfter (h : Change settings id op response r r') (hop : op.withinLimit)
    (ht : r.task = some t) (hlimited : TaskLimited log t) (hlast : LastAttempt t)
    (hclaim : ∀ f, op.finalization? = some f → f.claim ∈ issuedClaims log) :
    ∃ t', r'.task = some t' ∧ EndsAfter op t' := by
  have hstatus := hlast.status
  cases h with
  | same => exact ⟨t, ht, .inl hstatus⟩
  | created => cases ht
  | approved hpending =>
    cases ht
    rw [hpending] at hstatus
    cases hstatus
  | @cancelled now _ _ d attempts hdecides hmarker hopen =>
    cases ht
    refine ⟨_, rfl, .inl ?_⟩
    have hnew : (TaskService.cancelled d now t).status = _ := hdecides.status
    rw [hnew, if_pos hstatus]
  | claimed hclaimable =>
    cases ht
    rw [hclaimable.status] at hstatus
    cases hstatus
  | beaten hfence hrunning =>
    cases ht
    exact ⟨_, rfl, .inl hstatus⟩
  | @finalized _ f _ a older hfinal hf hfence hrunning =>
    cases ht
    obtain ⟨hactive, hmarker⟩ := fence_iff.1 hfence
    have hbelow := hlimited.below hop hfinal (hclaim f hfinal) hactive
    have hlimit := hlast.limit
    refine ⟨_, rfl, ?_⟩
    rw [hlast.marker] at hmarker
    cases op with
    | finalizeSuccess now claim result =>
      cases hfinal
      exact .inr (.inr ⟨rfl, now, claim, result, rfl⟩)
    | scheduleRetry =>
      cases hfinal
      have := hbelow rfl
      omega
    | finalizeFailure =>
      cases hfinal
      exact .inr (.inl rfl)
    | finalizeCancellation =>
      cases hfinal
      cases hmarker
    | createTask | approveTask | cancelTask | claimOne | heartbeat | recoverOneExpired | ledger =>
      cases hfinal
  | @recovered now _ _ _ _ outcome a older hexpired hrecovers hrunning =>
    cases ht
    refine ⟨_, rfl, .inr (.inl ?_)⟩
    have hnew : (recoveredRow outcome now t).status = _ := hrecovers.status
    rw [hnew, hlast.marker, if_neg (by simp), if_pos hlast.limit]

omit [Runtime] in
lemma finalization_issued {db : Database} {f : Finalization} (henabled : op.enabled log db = true)
    (hop : op.finalization? = some f) : f.claim ∈ issuedClaims log := by
  cases op with
  | finalizeSuccess =>
    cases hop
    rw [Operation.enabled, Bool.and_eq_true] at henabled
    exact List.contains_iff_mem.1 henabled.1
  | scheduleRetry | finalizeFailure | finalizeCancellation =>
    cases hop
    exact List.contains_iff_mem.1 henabled
  | createTask | approveTask | cancelTask | claimOne | heartbeat | recoverOneExpired | ledger =>
    cases hop

omit [Runtime] in
/-- No claim has been issued for a task that does not exist. -/
lemma ClaimsKept.claimsOf_eq_nil {c : CoordinationConfig} (hkept : ClaimsKept c)
    (hdb : c.state.TasksValid) (hnone : c.state.task id = none) : claimsOf c.log id = [] := by
  rw [List.eq_nil_iff_forall_not_mem]
  intro claim hmem
  unfold claimsOf at hmem
  rw [List.mem_filter] at hmem
  obtain ⟨a, ha, hnames⟩ := hkept.attempt claim hmem.1
  obtain ⟨s, hs, hid⟩ := hdb.exists_task ha
  have hsome : c.state.task id = some s :=
    task_eq_some_iff.2 ⟨hs, hid.trans (hnames.task.trans (by simpa using hmem.2))⟩
  rw [hnone] at hsome
  cases hsome

theorem limited_step {c c' : CoordinationConfig} (hc : Limited c) (hop : op.withinLimit)
    (h : (coordination settings).step c op = some c') : Limited c' := by
  refine ⟨coordinated_step hc.coordinated h, claimsKept_step hc.coordinated hc.kept h, ?_⟩
  have hdb := hc.coordinated.valid
  obtain ⟨henabled, ⟨response, db', happly, rfl⟩ | ⟨x, -, rfl⟩⟩ := Store.step_cases h
  · intro t' ht'
    have hchange := apply_change hdb henabled happly t'.id
    refine hchange.limited (hdb.record t'.id) hop ?_ ?_ ?_ ?_ (record_task ht')
    · intro t ht
      obtain ⟨hmem, hid⟩ := task_eq_some_iff.1 ht
      exact ⟨hid, hc.task t hmem⟩
    · exact hc.kept.claimsOf_eq_nil hdb
    · rintro claim rfl
      exact apply_claimed happly
    · exact fun f hf => finalization_issued henabled hf
  · intro t ht
    refine (hc.task t ht).rewrite rfl rfl rfl ?_ (fun hstatus => hstatus) (hc.task t ht).approved
    exact claimsOf_cons_of_ne fun claim heq => by cases heq

lemma endsAfter_step {c c' : CoordinationConfig} (hc : Limited c) (hop : op.withinLimit)
    (h : (coordination settings).step c op = some c') (ht : t ∈ c.state.tasks.rows)
    (hlast : LastAttempt t) : ∃ t', c'.state.task t.id = some t' ∧ EndsAfter op t' := by
  have hdb := hc.coordinated.valid
  obtain ⟨henabled, ⟨response, db', happly, rfl⟩ | ⟨x, -, rfl⟩⟩ := Store.step_cases h
  · have hchange := apply_change hdb henabled happly t.id
    exact hchange.endsAfter hop (record_task ht) (hc.task t ht) hlast fun f hf =>
      finalization_issued henabled hf
  · exact ⟨t, record_task ht, .inl hlast.status⟩

omit [Runtime] in
lemma Limited.attemptsLimited {c : CoordinationConfig} (hc : Limited c) : AttemptsLimited c where
  claimable t ht happroved := by
    have hbelow := (hc.task t ht).approved happroved
    have hsound := hc.coordinated.valid.sound ht
    obtain ⟨due, hdue⟩ := Option.isSome_iff_exists.1 (hsound.available happroved)
    refine ⟨hbelow, due, hdue, fun dueAt supported hle htype => ?_⟩
    rw [claimable_iff]
    exact ⟨happroved, ⟨due, hdue, hle⟩, hbelow, htype⟩
  claims t ht := by
    rw [(hc.task t ht).count]
    exact (hc.coordinated.valid.sound ht).within

omit [Runtime] in
lemma task_update {db : Database} {p : Task → Bool} {f : Task → Task}
    (hf : ∀ t, Keyed.key (f t) = Keyed.key t) (ht : t ∈ db.tasks.rows) (hp : p t = true) :
    (db.tasks.update p f hf).find? (fun s => s.id == t.id) = some (f t) := by
  have htask := congrArg TaskRecord.task (record_updateTasks db t.id p hf)
  rw [task_eq_some_iff.2 ⟨ht, rfl⟩, Option.map_some, if_pos hp] at htask
  exact htask

lemma failsAtLast {c : CoordinationConfig} (hc : Limited c) (ht : t ∈ c.state.tasks.rows)
    (hlast : LastAttempt t) : FailsAtLast settings c t where
  finalised now claim code summary reason c' h hactive := by
    have hdb := hc.coordinated.valid
    have hfence : finalizationFence (failing now claim code summary reason) t = true := by
      rw [fence_iff, hlast.marker]
      exact ⟨activeFence_iff.1 hactive, rfl⟩
    have hfind : c.state.tasks.find?
        (finalizationFence (failing now claim code summary reason)) = some t := by
      apply Table.find?_eq_some_of_mem ht hfence
      intro s hs
      exact clashes_of_task_id_eq ((activeFence_iff.1 hactive).id.trans (fence_iff.1 hs).1.id.symm)
    have happly : (Operation.finalizeFailure now claim code summary reason).apply settings c.state =
        .ok (.finalized .applied, finalized c.state (failing now claim code summary reason)) := by
      refine Operation.respond_eq_ok.2 ⟨.applied, ?_, rfl⟩
      change finalize c.state _ = _
      rw [finalize_eq hdb failing_wellFormed, hfind]
    obtain ⟨-, ⟨response, db', heq, rfl⟩ | ⟨x, heq, rfl⟩⟩ := Store.step_cases h
    · change (Operation.finalizeFailure now claim code summary reason).apply settings c.state = _
        at heq
      rw [happly] at heq
      cases heq
      exact ⟨_, task_update (key_finalizedRow _ now) ht hfence, rfl⟩
    · change (Operation.finalizeFailure now claim code summary reason).apply settings c.state = _
        at heq
      rw [happly] at heq
      cases heq
  recovered now locked backoff c' h hselect := by
    have hdb := hc.coordinated.valid
    have hfails : ∃ result tokenHash outcome, t.leaseTokenHash = some tokenHash ∧
        outcome.newStatus = .failed ∧
        recoverOneExpired c.state now locked backoff =
          .ok (some result, recovered c.state t tokenHash now outcome) := by
      rcases recoverOneExpired_cases hdb now locked backoff with ⟨hnone, -⟩ |
        ⟨s, -, -, hs, ⟨message, herror, -⟩ | ⟨tokenHash, outcome, result, htoken, hrecovers, heq⟩⟩
      · rw [hselect] at hnone
        cases hnone
      · rw [hselect] at hs
        cases hs
        rw [recovery, hlast.marker, if_neg (by simp), if_pos hlast.limit] at herror
        cases herror
      · rw [hselect] at hs
        cases hs
        refine ⟨result, tokenHash, outcome, htoken, ?_, heq⟩
        rw [hrecovers.status, hlast.marker, if_neg (by simp), if_pos hlast.limit]
    obtain ⟨result, tokenHash, outcome, htoken, hfailed, hrecover⟩ := hfails
    obtain ⟨hstatus, expires, hexpires, hle⟩ := expired_iff.1 (mem_of_selectForUpdate hselect).2
    have hselected : expiredTask t tokenHash now t = true := by
      simp [expiredTask, hstatus, htoken, hexpires, hle]
    have happly : (Operation.recoverOneExpired now locked backoff).apply settings c.state =
        .ok (.recovered (some result), recovered c.state t tokenHash now outcome) :=
      Operation.respond_eq_ok.2 ⟨some result, hrecover, rfl⟩
    obtain ⟨-, ⟨response, db', heq, rfl⟩ | ⟨x, heq, rfl⟩⟩ := Store.step_cases h
    · change (Operation.recoverOneExpired now locked backoff).apply settings c.state = _ at heq
      rw [happly] at heq
      cases heq
      exact ⟨_, task_update (key_recoveredRow outcome now) ht hselected, hfailed⟩
    · change (Operation.recoverOneExpired now locked backoff).apply settings c.state = _ at heq
      rw [happly] at heq
      cases heq

end

/-! ## The workers -/

section

variable {validator : ResultValidator V}

lemma Performs.withinLimit {ph : RunnerPhase V} {e : RunnerEffect} {op : Operation}
    (h : Performs e op) (hrequest : RunnerRequests validator ph e) : op.withinLimit := by
  cases h with
  | retry now retryNow claim delay code summary reason =>
    cases hrequest with
    | retry hfails hlimit => exact hlimit
  | success | failure | cancellation => trivial

lemma withinLimit_of_not_performs {op : Operation} (h : ∀ e, ¬Performs e op) :
    op.withinLimit := by
  cases op with
  | scheduleRetry now retryNow claim delay code summary reason =>
    exact absurd (.retry now retryNow claim delay code summary reason) (h _)
  | createTask | approveTask | cancelTask | claimOne | heartbeat | finalizeSuccess
  | finalizeFailure | finalizeCancellation | recoverOneExpired | ledger => trivial

variable [Runtime] (settings : CoordinationSettings)

lemma spawn_shared {n : ℕ} {claim : ClaimedTask} {w w' : Fleet V}
    (h : (fleet settings validator).spawn n claim w = some w') : w'.shared = w.shared := by
  simp only [fleet] at h
  split at h
  · cases h
    rfl
  · cases h

lemma FleetExecutes.limited {w w' : Fleet V} {i : ℕ} {e : RunnerEffect}
    {r : Except Raised (e.Answer V)} (h : FleetExecutes settings w i e r w') {ph : RunnerPhase V}
    (hrequest : RunnerRequests validator ph e) : w'.shared = w.shared ∨
      ∃ op, op.withinLimit ∧ (coordination settings).step w.shared op = some w'.shared := by
  rcases h.shared with hsame | ⟨op, hperforms, hstep⟩
  · exact .inl hsame
  · exact .inr ⟨op, hperforms.withinLimit hrequest, hstep⟩

lemma FleetActs.limited {w w' : Fleet V} (h : FleetActs settings w w') : w'.shared = w.shared ∨
    ∃ op, op.withinLimit ∧ (coordination settings).step w.shared op = some w'.shared := by
  rcases h.shared with hsame | ⟨op, hother, hstep⟩
  · exact .inl hsame
  · exact .inr ⟨op, withinLimit_of_not_performs hother, hstep⟩

omit [Runtime] in
lemma FailsWithoutRetry.issue {past : RunnerPast V} {e : RunnerEffect}
    (h : FailsWithoutRetry validator past)
    (hrequest : RunnerRequests validator (runnerPhase past) e) :
    FailsWithoutRetry validator (.issued e :: past) where
  finaliser e' h' claim hsuffix hfails hclaim hlimit := by
    rcases List.suffix_cons_iff.1 hsuffix with heq | hsuffix
    · cases heq
      generalize runnerPhase past = ph at hrequest hfails
      cases hrequest with
      | retry _ hbelow =>
        cases hclaim
        omega
      | failure =>
        cases hclaim
        exact ⟨_, _, _, rfl⟩
      | success claim houtcome =>
        cases hfails with
        | raised herror _ =>
          rw [houtcome] at herror
          cases herror
      | handlerCancelled claim houtcome =>
        cases hfails with
        | raised herror hretryable =>
          rw [houtcome] at herror
          cases herror
          cases hretryable
      | cancellation | rerouted => cases hfails
      | wait | waitForGrace | setCustomerCancellation | setOwnershipLost | cancelHandler
      | yieldOnce | waitForCancelledHandler | handlerResult | retryDelay => cases hclaim
    · exact h.finaliser e' h' claim hsuffix hfails hclaim hlimit
  returns h' hsuffix := by
    rcases List.suffix_cons_iff.1 hsuffix with heq | hsuffix
    · cases heq
    · exact h.returns h' hsuffix

omit [Runtime] in
lemma FailsWithoutRetry.answered {past : RunnerPast V} {e : RunnerEffect}
    {r : Except Raised (e.Answer V)} (h : FailsWithoutRetry validator past) :
    FailsWithoutRetry validator (.answered e r :: past) where
  finaliser e' h' claim hsuffix :=
    h.finaliser e' h' claim (suffix_of_cons (by simp) hsuffix)
  returns h' hsuffix := h.returns h' (suffix_of_cons (by simp) hsuffix)

omit [Runtime] in
lemma FailsWithoutRetry.ended {past : RunnerPast V} {r : Except Raised Unit}
    (h : FailsWithoutRetry validator past) (hends : RunnerEnds validator (runnerPhase past) r) :
    FailsWithoutRetry validator (.ended r :: past) where
  finaliser e' h' claim hsuffix :=
    h.finaliser e' h' claim (suffix_of_cons (by simp) hsuffix)
  returns h' hsuffix := by
    rcases List.suffix_cons_iff.1 hsuffix with heq | hsuffix
    · cases heq
      intro hfails
      obtain ⟨x, hx⟩ := hends.finalises hfails
      cases hx
    · exact h.returns h' hsuffix

/-- What holds of the tables in every run of the workers, and of the past of each execution. -/
structure LimitedFleet (validator : ResultValidator V) (w : Fleet V) : Prop where
  limited : Limited w.shared
  fails : ∀ i, FailsWithoutRetry validator (w.execution i).past

lemma fleet_preserves_limited : (fleet settings validator).Preserves
    (fun i w => (w.execution i).past) (fun _ _ => True) (runnerScript validator)
    (LimitedFleet validator) where
  issue i e w hw _ hrequest := by
    refine ⟨hw.limited, fun k => ?_⟩
    by_cases hk : k = i
    · subst hk
      simpa [fleet] using (hw.fails k).issue hrequest
    · simpa [fleet, Fleet.set_of_ne hk] using hw.fails k
  exec i e c w r w' h hw _ hpast hrequest hexec := by
    have hexecutes := exec_fleetExecutes hexec
    refine ⟨?_, fun k => ?_⟩
    · rcases hexecutes.limited settings hrequest with hsame | ⟨op, hop, hstep⟩
      · rw [hsame]
        exact hw.limited
      · exact limited_step hw.limited hop hstep
    · by_cases hk : k = i
      · subst hk
        rw [hexecutes.past]
        exact (hw.fails k).answered
      · rw [hexecutes.other k hk]
        exact hw.fails k
  returned i e r w hw := hw
  finish i r w hw _ hends := by
    refine ⟨hw.limited, fun k => ?_⟩
    by_cases hk : k = i
    · subst hk
      simpa [fleet] using (hw.fails k).ended hends
    · simpa [fleet, Fleet.set_of_ne hk] using hw.fails k
  env c w w' hw h := by
    have hacts := act_fleetActs h
    refine ⟨?_, fun k => ?_⟩
    · rcases hacts.limited settings with hsame | ⟨op, hop, hstep⟩
      · rw [hsame]
        exact hw.limited
      · exact limited_step hw.limited hop hstep
    · rw [hacts.past k]
      exact hw.fails k
  spawn n claim w w' hw _ h := by
    have hpast := (fleet_records settings validator).spawn n claim w w' h
    refine ⟨?_, fun k => ?_⟩
    · rw [spawn_shared settings h]
      exact hw.limited
    · rw [hpast k]
      exact hw.fails k

omit [Runtime] in
lemma limitedFleet_empty : LimitedFleet validator ({} : Fleet V) := by
  refine ⟨⟨coordinated_empty, ⟨?_, ?_⟩, ?_⟩, fun i => ⟨?_, ?_⟩⟩
  · exact fun claim hmem => (by cases hmem)
  · exact fun claim hmem => (by cases hmem)
  · exact fun t ht => (by cases ht)
  · intro e h claim hsuffix
    simp at hsuffix
  · intro h hsuffix
    simp at hsuffix

lemma limitedFleet_run {moves : List (Move ClaimedTask (FleetChoice V))}
    {w : Config (runnerSignature V) Unit (Fleet V)}
    (hrun : (fleet settings validator).run (Config.init {}) moves = some w) :
    Machine.Scripted (fun i w => (w.execution i).past) (fun _ _ => True) (runnerScript validator)
      (LimitedFleet validator) w :=
  (fleet_records settings validator).run (fleet_preserves_limited settings)
    (fun _ => executeClaim_keeps) limitedFleet_empty (fun _ => rfl) hrun

/-- A move of the fleet is one operation of the tables, within the limit, or none. -/
lemma shared_step {w w' : Config (runnerSignature V) Unit (Fleet V)}
    {mv : Move ClaimedTask (FleetChoice V)}
    (hw : Machine.Scripted (fun i w => (w.execution i).past) (fun _ _ => True)
      (runnerScript validator)
      (LimitedFleet validator) w) (h : (fleet settings validator).step w mv = some w') :
    w'.world.shared = w.world.shared ∨ ∃ op, op.withinLimit ∧
      (coordination settings).step w.world.shared op = some w'.world.shared := by
  have hobserve : ∀ i o v, ((fleet settings validator).observe i o v).shared = v.shared := by
    intro i o v
    cases o with
    | issued e => rfl
    | returned e r => rfl
  have hfinish : ∀ i r v, ((fleet settings validator).finish i r v).shared = v.shared :=
    fun i r v => rfl
  have hspawn : ∀ n claim v v', (fleet settings validator).spawn n claim v = some v' →
      v'.shared = v.shared := fun n claim v v' => spawn_shared settings
  rcases (fleet settings validator).step_frame hobserve hfinish hspawn h with
    hsame | ⟨i, e, k, ch, r, hthread, hexec⟩ | ⟨ch, henv⟩
  · exact .inl hsame
  · have hkeeps := hw.keeps i
    rw [hthread] at hkeeps
    obtain ⟨h, -, hrequest, -⟩ := hkeeps
    exact (exec_fleetExecutes hexec).limited settings hrequest
  · exact (act_fleetActs henv).limited settings

end

/-- In every run of the workers, claims stay within the limit and an approved task can be claimed;
and the last attempt of a task, while no cancellation is pending, ends in success or in failure:
in failure when its execution times out or raises a retryable error, or when its lease expires. -/
theorem attempts_limited [Runtime] (settings : CoordinationSettings)
    (validator : ResultValidator V) (moves : List (Move ClaimedTask (FleetChoice V)))
    (w : Config (runnerSignature V) Unit (Fleet V))
    (hrun : (fleet settings validator).run (Config.init {}) moves = some w) :
    AttemptsLimited w.world.shared ∧
    (∀ t ∈ w.world.shared.state.tasks.rows, LastAttempt t →
      (∀ mv w', (fleet settings validator).step w mv = some w' →
        w'.world.shared = w.world.shared ∨ ∃ op outcome t',
          w'.world.shared.log = (op, outcome) :: w.world.shared.log ∧
          w'.world.shared.state.task t.id = some t' ∧ EndsAfter op t') ∧
      FailsAtLast settings w.world.shared t) ∧
    ∀ i, FailsWithoutRetry validator (w.world.execution i).past := by
  have hw := limitedFleet_run settings hrun
  refine ⟨hw.inv.limited.attemptsLimited, fun t ht hlast => ⟨fun mv w' hstep => ?_, ?_⟩,
    hw.inv.fails⟩
  · rcases shared_step settings hw hstep with hsame | ⟨op, hop, hshared⟩
    · exact .inl hsame
    · obtain ⟨outcome, hlog⟩ := Store.log_of_step hshared
      obtain ⟨t', ht', hends⟩ := endsAfter_step hw.inv.limited hop hshared ht hlast
      exact .inr ⟨op, outcome, t', hlog, ht', hends⟩
  · exact failsAtLast hw.inv.limited ht hlast

namespace Sample

def onceSettings : CoordinationSettings where
  workerDefaultMaxAttempts := 1

/-- The only attempt of a task, by worker `a`, times out, and its handler is being stopped. -/
def timedOutOnce : List FleetMove :=
  [.env (.operation (.createTask 0 1 taskRequest)), .env (.operation (.approveTask 1 1)),
    .env (.operation (claimTask 2 1 "a")), .start { taskClaim 1 "a" with maxAttempts := 1 },
    .resume 0, .env (.timeoutFires 0)] ++
  proceed 0 .proceed ++ proceed 0 .proceed ++ proceed 0 .expires

end Sample

open Sample in
theorem attempts_limited_timedOutOnce : ∃ w t,
    (@fleet _ taskHost onceSettings jsonValidator).run (Config.init {}) timedOutOnce = some w ∧
      t ∈ w.world.shared.state.tasks.rows ∧ LastAttempt t ∧ AttemptsLimited w.world.shared ∧
      @FailsAtLast taskHost onceSettings w.world.shared t ∧
      FailsWithoutRetry jsonValidator (w.world.execution 0).past := by
  have hrun : ((@fleet _ taskHost onceSettings jsonValidator).run (Config.init {})
      timedOutOnce).any (fun w => w.world.shared.state.tasks.rows.any fun t =>
        t.status == .running && decide (t.maxAttempts ≤ t.attemptCount) &&
          t.cancellationRequestedAt.isNone) = true := by
    decide +kernel
  simp only [Option.any_eq_true, List.any_eq_true, Bool.and_eq_true, beq_iff_eq,
    decide_eq_true_eq, Option.isNone_iff_eq_none] at hrun
  obtain ⟨w, hw, t, ht, ⟨hstatus, hlimit⟩, hmarker⟩ := hrun
  have hlast : LastAttempt t := ⟨hstatus, hlimit, hmarker⟩
  obtain ⟨hlimited, hends, hfails⟩ :=
    @attempts_limited _ taskHost onceSettings jsonValidator timedOutOnce w hw
  exact ⟨w, t, hw, ht, hlast, hlimited, (hends t ht hlast).2, hfails 0⟩

end DeploymentLab
