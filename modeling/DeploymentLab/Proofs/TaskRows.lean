import DeploymentLab.Proofs.Cancellation

/-!
# How the row of a task may change

Whatever the clock does, a change of the status or of the cancellation marker moves `updated_at`
forward; commands that repeat or are rejected change nothing; and a task that is over, with its
attempts, stays as it is.
-/

namespace DeploymentLab

open Relational Transactions TaskService WorkerRepository Database

/-- The task is over. -/
def Task.Over (t : Task) : Prop :=
  t.status = .succeeded ∨ t.status = .failed ∨ t.status = .cancelled

/-- What the operations that may come next, and those that may ever come, do to the rows of `c`. -/
structure RowsKept [Runtime] (settings : CoordinationSettings) (c : CoordinationConfig) :
    Prop where
  monotone : ∀ op c' id t t', (coordination settings).step c op = some c' →
    c.state.task id = some t → c'.state.task id = some t' →
    t'.status ≠ t.status ∨ t'.cancellationRequestedAt ≠ t.cancellationRequestedAt →
    t.updatedAt < t'.updatedAt
  approvedAgain : ∀ now id c' t, (coordination settings).step c (.approveTask now id) = some c' →
    c.state.task id = some t → t.status = .approved →
    c' = ⟨c.state, (.approveTask now id, .ok (.updated t)) :: c.log⟩
  cancelledAgain : ∀ now now' id c' response,
    (Operation.cancelTask now id, Except.ok response) ∈ c.log →
    (coordination settings).step c (.cancelTask now' id) = some c' → ∃ t,
      c.state.task id = some t ∧ c' = ⟨c.state, (.cancelTask now' id, .ok (.updated t)) :: c.log⟩
  rejected : ∀ op c' x, (coordination settings).step c op = some c' →
    c'.log = (op, .error x) :: c.log → c'.state = c.state
  frozen : ∀ ops c' id t, (coordination settings).run c ops = some c' →
    c.state.task id = some t → t.Over → c'.state.record id = c.state.record id

lemma lt_max_succ (current now : Timestamp) : current < max now (current + 1) :=
  lt_of_lt_of_le (Int.lt_add_one_of_le (le_refl current)) (le_max_right _ _)

lemma lt_nextUpdatedAt (current now : Timestamp) : current < nextUpdatedAt current now :=
  lt_max_succ current now

section

variable [Runtime] {settings : CoordinationSettings} {op : Operation} {id : UUID}
  {response : Response} {r r' : TaskRecord} {t t' : Task} {c c' : CoordinationConfig}

/-- The moves that touch the status or the marker set a later `updated_at`. -/
lemma Change.monotone (h : Change settings id op response r r') (ht : r.task = some t)
    (ht' : r'.task = some t') : t'.status = t.status ∧
      t'.cancellationRequestedAt = t.cancellationRequestedAt ∨ t.updatedAt < t'.updatedAt := by
  cases h with
  | same =>
    rw [ht] at ht'
    cases ht'
    exact .inl ⟨rfl, rfl⟩
  | created => cases ht
  | approved =>
    cases ht
    cases ht'
    exact .inr (lt_nextUpdatedAt _ _)
  | cancelled =>
    cases ht
    cases ht'
    exact .inr (lt_nextUpdatedAt _ _)
  | claimed =>
    cases ht
    cases ht'
    exact .inr (lt_nextUpdatedAt _ _)
  | beaten =>
    cases ht
    cases ht'
    exact .inl ⟨rfl, rfl⟩
  | finalized =>
    cases ht
    cases ht'
    exact .inr (lt_max_succ _ _)
  | recovered =>
    cases ht
    cases ht'
    exact .inr (lt_nextUpdatedAt _ _)

/-- Every move but `same` needs a task that is not over. -/
lemma Change.frozen (h : Change settings id op response r r') (ht : r.task = some t)
    (hover : t.Over) : r' = r := by
  have hidle : ∀ {s : TaskStatus}, t.status = s →
      s ≠ .pendingApproval ∧ s ≠ .approved ∧ s ≠ .running := by
    rintro s rfl
    rcases hover with h | h | h <;> simp [h]
  cases h with
  | same => rfl
  | created => cases ht
  | approved hstatus =>
    cases ht
    exact absurd rfl (hidle hstatus).1
  | cancelled hdecides hmarker hopen =>
    cases ht
    rcases hover with hover | hover | hover
    · exact absurd hover hdecides.allowed.1
    · exact absurd hover hdecides.allowed.2
    · exact absurd hover hopen
  | claimed hclaimable =>
    cases ht
    exact absurd rfl (hidle hclaimable.status).2.1
  | beaten hfence =>
    cases ht
    exact absurd rfl (hidle hfence.status).2.2
  | finalized hop hf hfence =>
    cases ht
    exact absurd rfl (hidle (fence_iff.1 hfence).1.status).2.2
  | recovered hexpired =>
    cases ht
    exact absurd rfl (hidle (expired_iff.1 hexpired).1).2.2

/-- An operation that commits is a move, and one that raises leaves every row alone. -/
lemma step_change (hc : Coordinated c) (h : (coordination settings).step c op = some c')
    (id : UUID) :
    c'.state = c.state ∨
      ∃ response, Change settings id op response (c.state.record id) (c'.state.record id) := by
  obtain ⟨henabled, ⟨response, db', happly, rfl⟩ | ⟨x, -, rfl⟩⟩ := Store.step_cases h
  · exact .inr ⟨response, apply_change hc.valid henabled happly id⟩
  · exact .inl rfl

lemma monotone_step (hc : Coordinated c) (h : (coordination settings).step c op = some c')
    (ht : c.state.task id = some t) (ht' : c'.state.task id = some t')
    (hchanged : t'.status ≠ t.status ∨
      t'.cancellationRequestedAt ≠ t.cancellationRequestedAt) : t.updatedAt < t'.updatedAt := by
  rcases step_change hc h id with hstate | ⟨response, hchange⟩
  · rw [hstate, ht] at ht'
    cases ht'
    simp at hchanged
  · rcases hchange.monotone ht ht' with ⟨hstatus, hmarker⟩ | hlt
    · rcases hchanged with hne | hne
      · exact absurd hstatus hne
      · exact absurd hmarker hne
    · exact hlt

lemma frozen_step (hc : Coordinated c) (h : (coordination settings).step c op = some c')
    (ht : c.state.task id = some t) (hover : t.Over) :
    c'.state.record id = c.state.record id := by
  rcases step_change hc h id with hstate | ⟨response, hchange⟩
  · rw [hstate]
  · exact hchange.frozen ht hover

lemma frozen_run {ops : List Operation} (hc : Coordinated c)
    (hrun : (coordination settings).run c ops = some c') (ht : c.state.task id = some t)
    (hover : t.Over) : c'.state.record id = c.state.record id := by
  refine (Store.run_induction (P := fun c₁ => Coordinated c₁ ∧
    c₁.state.record id = c.state.record id) ?_ ⟨hc, rfl⟩ hrun).2
  rintro c₁ op c₂ - ⟨hc₁, hrecord⟩ hstep
  have ht₁ : c₁.state.task id = some t := (congrArg TaskRecord.task hrecord).trans ht
  exact ⟨coordinated_step hc₁ hstep, (frozen_step hc₁ hstep ht₁ hover).trans hrecord⟩

/-- An operation of which the outcome is known. -/
lemma step_of_apply (h : (coordination settings).step c op = some c')
    (happly : op.apply settings c.state = .ok (response, c.state)) :
    c' = ⟨c.state, (op, .ok response) :: c.log⟩ := by
  obtain ⟨-, ⟨response', db', heq, rfl⟩ | ⟨x, heq, rfl⟩⟩ := Store.step_cases h
  · change op.apply settings c.state = _ at heq
    rw [happly] at heq
    cases heq
    rfl
  · change op.apply settings c.state = _ at heq
    rw [happly] at heq
    cases heq

lemma approvedAgain_step {now : Timestamp}
    (h : (coordination settings).step c (.approveTask now id) = some c')
    (ht : c.state.task id = some t) (hstatus : t.status = .approved) :
    c' = ⟨c.state, (.approveTask now id, .ok (.updated t)) :: c.log⟩ := by
  refine step_of_apply h (Operation.respond_eq_ok.2 ⟨t, ?_, rfl⟩)
  refine bind_eq_ok.2 ⟨t, lockTask_eq_ok.2 ht, ?_⟩
  rw [hstatus]
  rfl

/-- A task that has been withdrawn is left alone by a further cancellation. -/
lemma cancelledAgain_step {now : Timestamp} {s : Task} (hc : Coordinated c)
    (h : (coordination settings).step c (.cancelTask now id) = some c')
    (ht : c.state.task id = some t) (hw : Withdrawn s t) :
    c' = ⟨c.state, (.cancelTask now id, .ok (.updated t)) :: c.log⟩ := by
  have hstatus : t.status = .cancelled ∨
      t.status = .running ∧ t.cancellationRequestedAt.isSome = true := by
    rcases hw.status with hcancelled | ⟨hrunning, -⟩
    · exact .inl hcancelled
    · exact .inr ⟨hrunning, hw.marked hrunning⟩
  refine step_of_apply h (Operation.respond_eq_ok.2 ⟨t, ?_, rfl⟩)
  rcases cancelTask_cases hc.valid now id with ⟨-, hnone⟩ | ⟨s, hs, hover, -⟩ |
    ⟨s, hs, -, heq⟩ | ⟨s, d, hs, -, hmarker, hopen, -⟩
  · rw [ht] at hnone
    cases hnone
  · rw [ht] at hs
    cases hs
    rcases hover with hover | hover <;> simp [hover] at hstatus
  · rw [ht] at hs
    cases hs
    exact heq
  · rw [ht] at hs
    cases hs
    rcases hstatus with hcancelled | ⟨hrunning, hmarked⟩
    · exact absurd hcancelled hopen
    · rw [hmarker.resolve_left fun hne => hne hrunning] at hmarked
      cases hmarked

/-- A task whose cancellation has been accepted stays withdrawn. -/
lemma withdrawn_run {ops : List Operation} {now : Timestamp}
    (hrun : (coordination settings).run emptyCoordination ops = some c)
    (hmem : (Operation.cancelTask now id, Except.ok response) ∈ c.log) :
    ∃ s t, s.id = id ∧ c.state.task id = some t ∧ Withdrawn s t := by
  refine (Store.run_induction (P := fun c => Coordinated c ∧ ∀ now id response,
    (Operation.cancelTask now id, Except.ok response) ∈ c.log →
      ∃ s t, s.id = id ∧ c.state.task id = some t ∧ Withdrawn s t) ?_
    ⟨coordinated_empty, fun _ _ _ hmem => by cases hmem⟩ hrun).2 now id response hmem
  rintro c₁ op c₂ - ⟨hc₁, hwithdrawn⟩ hstep
  refine ⟨coordinated_step hc₁ hstep, fun now id response hmem => ?_⟩
  obtain ⟨outcome, hlog⟩ := Store.log_of_step hstep
  rw [hlog] at hmem
  rcases List.mem_cons.1 hmem with heq | hmem
  · cases heq
    obtain ⟨t, ht, -, hw⟩ := cancelTask_withdraws hc₁ hstep hlog
    exact ⟨t, t, task_id_eq ht, ht, hw⟩
  · obtain ⟨s, t, rfl, ht, hw⟩ := hwithdrawn now id response hmem
    obtain ⟨⟨t', ht', hw', -⟩, -⟩ := withdrawn_step hc₁ hstep ht hw
    exact ⟨s, t', rfl, ht', hw'⟩

/-- In every run the rows of the tasks change forward only, and not at all for a repeated or a
rejected command or once their task is over. -/
theorem task_rows_kept (settings : CoordinationSettings) (ops : List Operation)
    (c : CoordinationConfig)
    (hrun : (coordination settings).run emptyCoordination ops = some c) : RowsKept settings c := by
  have hc := coordinated_run hrun
  refine ⟨fun op c' id t t' h ht ht' hchanged => monotone_step hc h ht ht' hchanged,
    fun now id c' t h ht hstatus => approvedAgain_step h ht hstatus,
    fun now now' id c' response hmem h => ?_, fun op c' x h hlog => ?_,
    fun ops c' id t hrun ht hover => frozen_run hc hrun ht hover⟩
  · obtain ⟨s, t, -, ht, hw⟩ := withdrawn_run hrun hmem
    exact ⟨t, ht, cancelledAgain_step hc h ht hw⟩
  · obtain ⟨-, ⟨response, s, -, rfl⟩ | ⟨y, -, rfl⟩⟩ := Store.step_cases h
    · cases hlog
    · rfl

end

open Sample in
attribute [local instance] taskHost in
theorem task_rows_kept_expiredThenCancelled : ∃ c, runTasks expiredThenCancelled = some c ∧
    RowsKept {} c := by
  have hrun : (runTasks expiredThenCancelled).isSome = true := by decide +kernel
  obtain ⟨c, hc⟩ := Option.isSome_iff_exists.1 hrun
  exact ⟨c, hc, task_rows_kept {} expiredThenCancelled c hc⟩

end DeploymentLab
