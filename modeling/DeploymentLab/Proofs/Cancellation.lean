import DeploymentLab.Proofs.Fencing
import DeploymentLab.Proofs.RunnerCauses

/-!
# A committed cancellation wins

After `cancel_task` has returned, its task is cancelled, or runs with a marker that no operation
removes: then nothing extends its lease, every other finaliser reports the cancellation, and the
runner answers that report by the finaliser that cancels.
-/

namespace DeploymentLab

open Interaction Relational Transactions TaskService WorkerRepository Database

/-- What may have become of the task `t`, which has been cancelled or marked as to be cancelled. -/
structure Withdrawn (t s : Task) : Prop where
  status : s.status = .cancelled ∨
    s.status = .running ∧ t.status = .running ∧ s.leaseExpiresAt = t.leaseExpiresAt
  marker : t.status = .running → s.cancellationRequestedAt = t.cancellationRequestedAt ∧
    s.cancellationRequestedAt.isSome = true
  attempts : s.attemptCount = t.attemptCount

/-- The operations that cancel a running task `s`: its owner finalises the cancellation, or its
lease has expired and it is recovered. -/
inductive Cancels : Operation → Task → Prop
  | owner {now : Timestamp} {claim : ClaimedTask} {s : Task} (hfence : Fenced claim now s) :
    Cancels (.finalizeCancellation now claim) s
  | recovery {now : Timestamp} {locked : List UUID} {backoff : ℤ → Except String Duration}
    {s : Task} (hexpired : expired now s = true) :
    Cancels (.recoverOneExpired now locked backoff) s

/-- What the cancellation of the task `t`, committed at `c₁`, guarantees at a later `c₂`. -/
structure CancellationHolds [Runtime] (settings : CoordinationSettings) (t : Task)
    (c₁ c₂ : CoordinationConfig) : Prop where
  task : ∃ s, c₂.state.task t.id = some s ∧ Withdrawn t s
  claims : ∀ claim ∈ issuedClaims c₂.log, claim.taskId = t.id → claim ∈ issuedClaims c₁.log
  next : ∀ op c₃ s s', (coordination settings).step c₂ op = some c₃ →
    c₂.state.task t.id = some s → s.status = .running → c₃.state.task t.id = some s' →
    s'.status = .running ∨ s'.status = .cancelled ∧ Cancels op s
  reports : ∀ op c₃ s f, (coordination settings).step c₂ op = some c₃ →
    c₂.state.task t.id = some s → op.finalization? = some f → f.requiredCancellation = false →
    activeFence f.claim f.databaseNow s = true → c₃.state = c₂.state ∧
      c₃.log = (op, .ok (.finalized .cancellationRequested)) :: c₂.log

variable {V : Type}

/-- The claim of a finaliser that has been told of a cancellation. -/
def reportedCancellation : Act (runnerSignature V) Unit → Option ClaimedTask
  | .answered (.finalizeSuccess claim _) (.ok .cancellationRequested)
  | .answered (.scheduleRetry claim _ _ _ _) (.ok .cancellationRequested)
  | .answered (.finalizeFailure claim _ _ _) (.ok .cancellationRequested) => some claim
  | _ => none

/-- After the report of a cancellation comes the finaliser that cancels, and nothing else. -/
def Reroutes (past : RunnerPast V) : Prop :=
  ∀ next report earlier claim, next :: report :: earlier <:+ past →
    reportedCancellation report = some claim → next = .issued (.finalizeCancellation claim)

namespace Withdrawn

variable {t s : Task}

lemma marked (h : Withdrawn t s) (hrunning : s.status = .running) :
    s.cancellationRequestedAt.isSome = true := by
  rcases h.status with hcancelled | ⟨-, ht, -⟩
  · rw [hcancelled] at hrunning
    cases hrunning
  · exact (h.marker ht).2

/-- The row of a task at the time of its cancellation. -/
lemma refl (hstatus : t.status = .cancelled ∨
    t.status = .running ∧ t.cancellationRequestedAt.isSome = true) : Withdrawn t t := by
  refine ⟨?_, fun hrunning => ⟨rfl, ?_⟩, rfl⟩
  · rcases hstatus with hcancelled | ⟨hrunning, -⟩
    · exact .inl hcancelled
    · exact .inr ⟨hrunning, hrunning, rfl⟩
  · rcases hstatus with hcancelled | ⟨-, hmarker⟩
    · rw [hcancelled] at hrunning
      cases hrunning
    · exact hmarker

/-- A row that keeps the marker and the number of attempts, and is cancelled. -/
lemma cancel {s' : Task} (h : Withdrawn t s) (hstatus : s'.status = .cancelled)
    (hmarker : s'.cancellationRequestedAt = s.cancellationRequestedAt)
    (hattempts : s'.attemptCount = s.attemptCount) : Withdrawn t s' := by
  refine ⟨.inl hstatus, fun hrunning => ?_, hattempts.trans h.attempts⟩
  rw [hmarker]
  exact h.marker hrunning

end Withdrawn

section

variable [Runtime] {settings : CoordinationSettings} {op : Operation} {id : UUID}
  {response : Response} {r r' : TaskRecord} {t s : Task} {f : Finalization}

omit [Runtime] in
lemma eq_finalizeCancellation (hop : op.finalization? = some f)
    (hrequired : f.requiredCancellation = true) :
    op = .finalizeCancellation f.databaseNow f.claim := by
  cases op with
  | finalizeCancellation now claim =>
    cases hop
    rfl
  | finalizeSuccess | scheduleRetry | finalizeFailure =>
    cases hop
    cases hrequired
  | createTask | approveTask | cancelTask | claimOne | heartbeat | recoverOneExpired | ledger =>
    cases hop

/-- A move keeps a cancelled task as it is, and lets one that runs go to its cancellation only. -/
lemma Change.withdrawn (h : Change settings id op response r r') (hs : r.task = some s)
    (hw : Withdrawn t s) : ∃ s', r'.task = some s' ∧ Withdrawn t s' ∧
      (s.status = .running → s'.status = .running ∨ s'.status = .cancelled ∧ Cancels op s) := by
  have hstatus : s.status = .cancelled ∨ s.status = .running := by
    rcases hw.status with hcancelled | ⟨hrunning, -⟩
    · exact .inl hcancelled
    · exact .inr hrunning
  cases h with
  | same => exact ⟨s, hs, hw, .inl⟩
  | created => cases hs
  | approved hpending =>
    cases hs
    rw [hpending] at hstatus
    rcases hstatus with heq | heq <;> cases heq
  | cancelled hdecides hmarker hopen =>
    cases hs
    have hrunning := hstatus.resolve_left hopen
    have hmarked := hw.marked hrunning
    rw [hmarker.resolve_left fun hne => hne hrunning] at hmarked
    cases hmarked
  | claimed hclaimable =>
    cases hs
    rw [hclaimable.status] at hstatus
    rcases hstatus with heq | heq <;> cases heq
  | @beaten now claim lease _ _ a older hfence hrunning =>
    cases hs
    have hlease : (beatenRow lease now s).leaseExpiresAt = s.leaseExpiresAt := by
      unfold beatenRow
      rw [if_neg]
      rw [Option.isNone_iff_eq_none, ← ne_eq, ← Option.isSome_iff_ne_none]
      exact hw.marked hfence.status
    have hkept : Withdrawn t (beatenRow lease now s) := by
      refine ⟨?_, hw.marker, hw.attempts⟩
      rw [hlease]
      exact hw.status
    exact ⟨_, rfl, hkept, .inl⟩
  | @finalized _ f _ a older hop hf hfence hrunning =>
    cases hs
    have hactive := (fence_iff.1 hfence).1
    have hrequired : f.requiredCancellation = true := by
      rw [← (fence_iff.1 hfence).2]
      exact hw.marked hactive.status
    have hcancelled : f.taskValues.status = .cancelled := hf.cancellation.1 hrequired
    have hkept : Withdrawn t (finalizedRow f.taskValues f.databaseNow s) :=
      hw.cancel hcancelled rfl rfl
    refine ⟨_, rfl, hkept, fun _ => .inr ⟨hcancelled, ?_⟩⟩
    rw [eq_finalizeCancellation hop hrequired]
    exact .owner hactive
  | @recovered now _ _ _ _ outcome a older hexpired hrecovers hrunning =>
    cases hs
    have hcancelled : outcome.newStatus = .cancelled := by
      rw [hrecovers.status, if_pos (hw.marked (expired_iff.1 hexpired).1)]
    have hkept : Withdrawn t (recoveredRow outcome now s) := hw.cancel hcancelled rfl rfl
    exact ⟨_, rfl, hkept, fun _ => .inr ⟨hcancelled, .recovery hexpired⟩⟩

/-- Every operation keeps a cancelled task as it is, and none claims it. -/
lemma withdrawn_step {c c' : CoordinationConfig} (hc : Coordinated c)
    (h : (coordination settings).step c op = some c') (hs : c.state.task t.id = some s)
    (hw : Withdrawn t s) :
    (∃ s', c'.state.task t.id = some s' ∧ Withdrawn t s' ∧
      (s.status = .running → s'.status = .running ∨ s'.status = .cancelled ∧ Cancels op s)) ∧
    ∀ claim ∈ issuedClaims c'.log, claim.taskId = t.id → claim ∈ issuedClaims c.log := by
  obtain ⟨henabled, ⟨response, db', happly, rfl⟩ | ⟨x, -, rfl⟩⟩ := Store.step_cases h
  · have hchange := apply_change hc.valid henabled happly t.id
    refine ⟨hchange.withdrawn hs hw, fun claim hclaim htask => ?_⟩
    rcases mem_issuedClaims_cons.1 hclaim with heq | hclaim
    · cases heq
      obtain ⟨s', hs', happroved, -⟩ := apply_claims hc.valid henabled happly
      have heq : s' = s := by
        rw [htask, hs] at hs'
        exact (Option.some.inj hs').symm
      have hstatus := hw.status
      rw [← heq, happroved] at hstatus
      rcases hstatus with heq | ⟨heq, -⟩ <;> cases heq
    · exact hclaim
  · refine ⟨⟨s, hs, hw, .inl⟩, fun claim hclaim _ => ?_⟩
    exact (mem_issuedClaims_cons.1 hclaim).resolve_left (by simp)

/-- A finaliser that does not cancel reports the cancellation. -/
lemma reports_step {c c' : CoordinationConfig} (hc : Coordinated c)
    (h : (coordination settings).step c op = some c') (hs : c.state.task t.id = some s)
    (hw : Withdrawn t s) (hop : op.finalization? = some f)
    (hrequired : f.requiredCancellation = false)
    (hactive : activeFence f.claim f.databaseNow s = true) :
    c'.state = c.state ∧ c'.log = (op, .ok (.finalized .cancellationRequested)) :: c.log := by
  have hmem := (task_eq_some_iff.1 hs).1
  have hfenced := activeFence_iff.1 hactive
  have hmarked := hw.marked hfenced.status
  have hfind : c.state.tasks.find? (activeFence f.claim f.databaseNow) = some s := by
    apply Table.find?_eq_some_of_mem hmem hactive
    intro s' hs'
    exact clashes_of_task_id_eq (hfenced.id.trans (activeFence_iff.1 hs').id.symm)
  have hnone : c.state.tasks.find? (finalizationFence f) = none := by
    rw [Table.find?_eq_none_iff]
    intro s' hs'
    by_contra hfence
    rw [Bool.not_eq_false, fence_iff] at hfence
    have heq : s' = s := Table.eq_of_clashes hs' hmem
      (clashes_of_task_id_eq (hfence.1.id.trans hfenced.id.symm))
    rw [heq, hmarked, hrequired] at hfence
    cases hfence.2
  have hreport : f.WellFormed →
      finalize c.state f = .ok (.cancellationRequested, c.state) := by
    intro hf
    rw [finalize_eq hc.valid hf, hnone]
    have := classifyFailedFence_eq_cancellationRequested.2 ⟨s, hfind, hmarked⟩
    simp only [this]
  have hconclude : op.apply settings c.state = .ok (.finalized .cancellationRequested, c.state) →
      c'.state = c.state ∧ c'.log = (op, .ok (.finalized .cancellationRequested)) :: c.log := by
    intro happly
    obtain ⟨-, ⟨response, db', heq, rfl⟩ | ⟨x, heq, rfl⟩⟩ := Store.step_cases h
    · change op.apply settings c.state = _ at heq
      rw [happly] at heq
      cases heq
      exact ⟨rfl, rfl⟩
    · change op.apply settings c.state = _ at heq
      rw [happly] at heq
      cases heq
  apply hconclude
  cases op with
  | finalizeSuccess now claim result =>
    cases hop
    have henabled : Operation.enabled c.log c.state (.finalizeSuccess now claim result) = true :=
      (Store.step_cases h).1
    rw [Operation.enabled, Bool.and_eq_true] at henabled
    exact Operation.respond_eq_ok.2 ⟨_, hreport (succeeding_wellFormed henabled.2), rfl⟩
  | scheduleRetry =>
    cases hop
    exact Operation.respond_eq_ok.2 ⟨_, hreport retrying_wellFormed, rfl⟩
  | finalizeFailure =>
    cases hop
    exact Operation.respond_eq_ok.2 ⟨_, hreport failing_wellFormed, rfl⟩
  | finalizeCancellation =>
    cases hop
    cases hrequired
  | createTask | approveTask | cancelTask | claimOne | heartbeat | recoverOneExpired | ledger =>
    cases hop

/-- What a cancellation that returns leaves of its task. -/
lemma cancelTask_withdraws {c c' : CoordinationConfig} {now : Timestamp} (hc : Coordinated c)
    (h : (coordination settings).step c (.cancelTask now id) = some c')
    (hok : c'.log = (.cancelTask now id, .ok response) :: c.log) :
    ∃ t, c'.state.task id = some t ∧ response = .updated t ∧ Withdrawn t t := by
  obtain ⟨-, ⟨response', db', happly, rfl⟩ | ⟨x, -, rfl⟩⟩ := Store.step_cases h
  · cases hok
    obtain ⟨t, hcancel, rfl⟩ := Operation.respond_eq_ok.1 happly
    rcases cancelTask_cases hc.valid now id with ⟨heq, -⟩ | ⟨s, -, -, heq⟩ |
      ⟨s, hs, hstatus, heq⟩ | ⟨s, d, hs, hdecides, -, -, heq⟩
    · rw [heq] at hcancel
      cases hcancel
    · rw [heq] at hcancel
      cases hcancel
    · rw [heq] at hcancel
      cases hcancel
      exact ⟨t, hs, rfl, .refl hstatus⟩
    · rw [heq] at hcancel
      cases hcancel
      obtain ⟨hmem, rfl⟩ := task_eq_some_iff.1 hs
      refine ⟨_, congrArg TaskRecord.task
        ((record_rewriteTask (key_cancelled d now) hmem s.id).trans
        (if_pos rfl)), rfl, .refl ?_⟩
      change d.newStatus = .cancelled ∨ d.newStatus = .running ∧
        (if d.requestCancellation then some now else s.cancellationRequestedAt).isSome = true
      rw [hdecides.status, hdecides.request]
      by_cases hrunning : s.status = .running
      · right
        rw [if_pos hrunning, hrunning]
        refine ⟨rfl, ?_⟩
        cases hmarker : s.cancellationRequestedAt with
        | none => rfl
        | some marker => rfl
      · rw [if_neg hrunning]
        exact .inl rfl
  · cases hok

/-- A cancellation of a task that has succeeded or failed is rejected. -/
lemma cancelTask_rejects {c c' : CoordinationConfig} {now : Timestamp} (hc : Coordinated c)
    (h : (coordination settings).step c (.cancelTask now id) = some c')
    (ht : c.state.task id = some t) (hover : t.status = .succeeded ∨ t.status = .failed) :
    c' = ⟨c.state, (.cancelTask now id,
      .error (.invalidTaskTransitionError t.status .cancel)) :: c.log⟩ := by
  have hrejects : cancelTask c.state now id =
      .error (.invalidTaskTransitionError t.status .cancel) := by
    rcases cancelTask_cases hc.valid now id with ⟨-, hnone⟩ | ⟨s, hs, -, heq⟩ |
      ⟨s, hs, hstatus, -⟩ | ⟨s, d, hs, hdecides, -, -, -⟩
    · rw [ht] at hnone
      cases hnone
    · rw [ht] at hs
      cases hs
      exact heq
    · rw [ht] at hs
      cases hs
      rcases hover with hover | hover <;> simp [hover] at hstatus
    · rw [ht] at hs
      cases hs
      rcases hover with hover | hover
      · exact absurd hover hdecides.allowed.1
      · exact absurd hover hdecides.allowed.2
  have happly : (Operation.cancelTask now id).apply settings c.state =
      .error (.invalidTaskTransitionError t.status .cancel) :=
    Operation.respond_eq_error.2 hrejects
  obtain ⟨-, ⟨response, db', heq, rfl⟩ | ⟨x, heq, rfl⟩⟩ := Store.step_cases h
  · change (Operation.cancelTask now id).apply settings c.state = _ at heq
    rw [happly] at heq
    cases heq
  · change (Operation.cancelTask now id).apply settings c.state = _ at heq
    rw [happly] at heq
    cases heq
    rfl

/-- The guarantee lasts. -/
lemma cancellationHolds_run {ops : List Operation} {c₁ c₂ : CoordinationConfig}
    (hc : Coordinated c₁) (ht : c₁.state.task t.id = some t) (hw : Withdrawn t t)
    (hrun : (coordination settings).run c₁ ops = some c₂) : CancellationHolds settings t c₁ c₂ := by
  have hall : Coordinated c₂ ∧ (∃ s, c₂.state.task t.id = some s ∧ Withdrawn t s) ∧
      ∀ claim ∈ issuedClaims c₂.log, claim.taskId = t.id → claim ∈ issuedClaims c₁.log := by
    refine Store.run_induction (P := fun c => Coordinated c ∧
      (∃ s, c.state.task t.id = some s ∧ Withdrawn t s) ∧
      ∀ claim ∈ issuedClaims c.log, claim.taskId = t.id → claim ∈ issuedClaims c₁.log)
      ?_ ⟨hc, ⟨t, ht, hw⟩, fun claim hclaim _ => hclaim⟩ hrun
    rintro c op c' - ⟨hc, ⟨s, hs, hw⟩, hclaims⟩ hstep
    obtain ⟨⟨s', hs', hw', -⟩, hissued⟩ := withdrawn_step hc hstep hs hw
    refine ⟨coordinated_step hc hstep, ⟨s', hs', hw'⟩, fun claim hclaim htask => ?_⟩
    exact hclaims claim (hissued claim hclaim htask) htask
  obtain ⟨hc₂, ⟨s, hs, hw⟩, hclaims⟩ := hall
  refine ⟨⟨s, hs, hw⟩, hclaims, ?_, ?_⟩
  · intro op c₃ s₁ s' hstep hs₁ hrunning hs'
    have hsame : s₁ = s := by
      rw [hs] at hs₁
      exact (Option.some.inj hs₁).symm
    subst hsame
    obtain ⟨⟨s₂, hs₂, -, hnext⟩, -⟩ := withdrawn_step hc₂ hstep hs hw
    rw [hs'] at hs₂
    cases hs₂
    exact hnext hrunning
  · intro op c₃ s₁ f hstep hs₁ hop hrequired hactive
    have hsame : s₁ = s := by
      rw [hs] at hs₁
      exact (Option.some.inj hs₁).symm
    subst hsame
    exact reports_step hc₂ hstep hs hw hop hrequired hactive

end

/-! ## The runner -/

section

variable {validator : ResultValidator V} {past : RunnerPast V}

/-- A finaliser that has reported a cancellation has closed the execution. -/
lemma phase_of_reportedCancellation (past : RunnerPast V)
    {report : Act (runnerSignature V) Unit} {claim : ClaimedTask}
    (h : reportedCancellation report = some claim) :
    ∃ cause e, e.completes? = some claim ∧
      runnerPhase (report :: past) = .closed cause e (.ok .cancellationRequested) := by
  unfold reportedCancellation at h
  split at h
  · cases h
    exact ⟨_, _, rfl, rfl⟩
  · cases h
    exact ⟨_, _, rfl, rfl⟩
  · cases h
    exact ⟨_, _, rfl, rfl⟩
  · cases h

lemma Reroutes.cons {next : Act (runnerSignature V) Unit} (h : Reroutes past)
    (hnext : ∀ report earlier claim, past = report :: earlier →
      reportedCancellation report = some claim → next = .issued (.finalizeCancellation claim)) :
    Reroutes (next :: past) := by
  intro next' report earlier claim hsuffix hreport
  rcases List.suffix_cons_iff.1 hsuffix with heq | hsuffix
  · cases heq
    exact hnext report earlier claim rfl hreport
  · exact h next' report earlier claim hsuffix hreport

variable [Runtime] (settings : CoordinationSettings)

theorem fleet_preserves_reroutes : (fleet settings validator).Preserves
    (fun i w => (w.execution i).past) (fun _ _ => True) (runnerScript validator)
    (fun w => ∀ i, Reroutes (w.execution i).past) where
  issue i e w hw _ hrequest k := by
    by_cases hk : k = i
    · subst hk
      have hcons : Reroutes (.issued e :: (w.execution k).past) := by
        refine (hw k).cons fun report earlier claim hpast hreport => ?_
        obtain ⟨cause, e', he, hphase⟩ := phase_of_reportedCancellation earlier hreport
        change RunnerRequests validator (runnerPhase (w.execution k).past) e at hrequest
        rw [hpast, hphase] at hrequest
        cases hrequest with
        | rerouted he' =>
          rw [he] at he'
          cases he'
          rfl
        | retryDelay hfails => cases hfails
        | retry hfails => cases hfails
        | failure hfails => rcases hfails with ⟨hfails, -⟩ | hfails <;> cases hfails
      simpa [fleet] using hcons
    · simpa [fleet, Fleet.set_of_ne hk] using hw k
  exec i e c w r w' h hw _ hpast _ hexec k := by
    have hexecutes := exec_fleetExecutes hexec
    by_cases hk : k = i
    · subst hk
      rw [hexecutes.past]
      refine (hw k).cons fun report earlier claim hreported hreport => ?_
      rw [hpast] at hreported
      cases hreported
      cases hreport
    · rw [hexecutes.other k hk]
      exact hw k
  returned i e r w hw := hw
  finish i r w hw _ hends k := by
    by_cases hk : k = i
    · subst hk
      have hcons : Reroutes (.ended r :: (w.execution k).past) := by
        refine (hw k).cons fun report earlier claim hpast hreport => ?_
        obtain ⟨cause, e', he, hphase⟩ := phase_of_reportedCancellation earlier hreport
        rw [← hpast] at hphase
        exact absurd hphase (hends.rerouted cause e' claim he)
      simpa [fleet] using hcons
    · simpa [fleet, Fleet.set_of_ne hk] using hw k
  env c w w' hw h k := by
    rw [(act_fleetActs h).past k]
    exact hw k
  spawn n claim w w' hw _ h k := by
    rw [(fleet_records settings validator).spawn n claim w w' h k]
    exact hw k

theorem reroutes_run {moves : List (Move ClaimedTask (FleetChoice V))}
    {w : Config (runnerSignature V) Unit (Fleet V)}
    (hrun : (fleet settings validator).run (Config.init {}) moves = some w) (i : ℕ) :
    Reroutes (w.world.execution i).past := by
  have hfresh : ∀ k, Reroutes ((({} : Fleet V).execution k).past) := by
    intro k next report earlier claim hsuffix
    simp at hsuffix
  exact ((fleet_records settings validator).run (fleet_preserves_reroutes settings)
    (fun _ => executeClaim_keeps) hfresh (fun _ => rfl) hrun).inv i

end

/-- Once `cancel_task` has returned, the task is never claimed again, and goes to its cancellation
and nowhere else; one that succeeded or failed before is not touched. A runner whose finaliser
reports a cancellation calls the finaliser that cancels. -/
theorem cancellation_wins [Runtime] (settings : CoordinationSettings)
    (validator : ResultValidator V) (before after : List Operation) (now : Timestamp) (id : UUID)
    (c c₁ c₂ : CoordinationConfig)
    (hrun : (coordination settings).run emptyCoordination before = some c)
    (hcancel : (coordination settings).step c (.cancelTask now id) = some c₁)
    (hafter : (coordination settings).run c₁ after = some c₂) :
    (∀ response, c₁.log = (.cancelTask now id, .ok response) :: c.log →
      ∃ t, c₁.state.task id = some t ∧ response = .updated t ∧
        CancellationHolds settings t c₁ c₂) ∧
    (∀ t, c.state.task id = some t → t.status = .succeeded ∨ t.status = .failed →
      c₁ = ⟨c.state, (.cancelTask now id,
        .error (.invalidTaskTransitionError t.status .cancel)) :: c.log⟩) ∧
    ∀ moves w, (fleet settings validator).run (Config.init {}) moves = some w →
      ∀ i, Reroutes (w.world.execution i).past := by
  have hc := coordinated_run hrun
  refine ⟨fun response hok => ?_, fun t ht hover => ?_, fun moves w hfleet => ?_⟩
  · obtain ⟨t, ht, hresponse, hw⟩ := cancelTask_withdraws hc hcancel hok
    obtain rfl : t.id = id := task_id_eq ht
    have hc₁ := coordinated_step hc hcancel
    exact ⟨t, ht, hresponse, cancellationHolds_run hc₁ ht hw hafter⟩
  · exact cancelTask_rejects hc hcancel ht hover
  · exact reroutes_run settings hfleet

namespace Sample

/-- Worker `a` is at work. -/
def claimedOnce : List Operation :=
  [.createTask 0 1 taskRequest, .approveTask 1 1, claimTask 2 1 "a"]

/-- Worker `a` comes to know of the cancellation. -/
def toldOfCancellation : List Operation :=
  [.heartbeat 4 (taskClaim 1 "a") 10, .finalizeSuccess 5 (taskClaim 1 "a") (.dict []),
    .finalizeCancellation 6 (taskClaim 1 "a")]

attribute [local instance] taskHost

/-- The task is cancelled at `c`, which leads to `c₁`, and from there to `c₂`. -/
structure CancelledAt (c c₁ c₂ : CoordinationConfig) : Prop where
  before : runTasks claimedOnce = some c
  cancel : (coordination defaultSettings).step c (.cancelTask 3 1) = some c₁
  after : (coordination defaultSettings).run c₁ toldOfCancellation = some c₂

end Sample

open Sample in
theorem cancellation_wins_toldOfCancellation : ∃ c c₁ c₂ t, CancelledAt c c₁ c₂ ∧
    c₁.state.task 1 = some t ∧ @CancellationHolds taskHost defaultSettings t c₁ c₂ := by
  have hrun : (runTasks claimedOnce).any (fun c =>
      ((@coordination taskHost defaultSettings).step c (.cancelTask 3 1)).any fun c₁ =>
        (c₁.log.head?.any fun e => e.2.toOption.isSome) &&
        ((@coordination taskHost defaultSettings).run c₁ toldOfCancellation).isSome) = true := by
    decide +kernel
  simp only [Option.any_eq_true, Bool.and_eq_true, Option.isSome_iff_exists] at hrun
  obtain ⟨c, hc, c₁, hc₁, ⟨e, he, response, hresponse⟩, c₂, hc₂⟩ := hrun
  obtain ⟨outcome, hlog⟩ := Store.log_of_step hc₁
  rw [hlog] at he
  cases he
  cases outcome with
  | error x => cases hresponse
  | ok response =>
    obtain ⟨hholds, -⟩ := @cancellation_wins _ taskHost defaultSettings jsonValidator claimedOnce
      toldOfCancellation 3 1 c c₁ c₂ hc hc₁ hc₂
    obtain ⟨t, ht, -, hkept⟩ := hholds response hlog
    exact ⟨c, c₁, c₂, t, ⟨hc, hc₁, hc₂⟩, ht, hkept⟩

end DeploymentLab
