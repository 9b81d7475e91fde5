import DeploymentLab.Proofs.TaskLifecycle

/-!
# The tasks and their attempts in every run

Every database that a run of the task service and of the workers reaches is valid, so its tables
are in step and no operation on the tasks fails but for a reason that its caller can see.
-/

namespace DeploymentLab

open Relational Transactions TaskService WorkerRepository Database

/-- The tables of the tasks and of their attempts are in step. -/
structure Database.InStep (db : Database) : Prop where
  task : ∀ a ∈ db.taskAttempts.rows, ∃ t ∈ db.tasks.rows, t.id = a.taskId
  numbers : ∀ t ∈ db.tasks.rows, ∀ n : ℤ,
    (∃ a ∈ db.taskAttempts.rows, a.taskId = t.id ∧ a.attemptNumber = n) ↔
      1 ≤ n ∧ n ≤ t.attemptCount
  distinct : ∀ a ∈ db.taskAttempts.rows, ∀ b ∈ db.taskAttempts.rows, a.taskId = b.taskId →
    a.attemptNumber = b.attemptNumber → a = b
  running : ∀ t ∈ db.tasks.rows, t.status = .running ↔
    ∃! a, a ∈ db.taskAttempts.rows ∧ a.taskId = t.id ∧ a.status = .running
  current : ∀ t ∈ db.tasks.rows, ∀ a ∈ db.taskAttempts.rows, a.taskId = t.id →
    a.status = .running → a.attemptNumber = t.attemptCount ∧ t.workerId = some a.workerId ∧
      t.leaseTokenHash = some a.leaseTokenHash
  finished : ∀ a ∈ db.taskAttempts.rows, a.status ≠ .running → a.finishedAt.isSome = true
  succeeded : ∀ t ∈ db.tasks.rows, t.status = .succeeded ↔
    (∃ a ∈ db.taskAttempts.rows, a.taskId = t.id ∧ a.attemptNumber = t.attemptCount ∧
      a.status = .succeeded) ∧
    ∀ a ∈ db.taskAttempts.rows, a.taskId = t.id → a.attemptNumber < t.attemptCount →
      a.status ≠ .succeeded
  taskConstraints : ∀ t ∈ db.tasks.rows, ∀ c ∈ t.checkConstraints, c.2 = true
  attemptConstraints : ∀ a ∈ db.taskAttempts.rows, ∀ c ∈ a.checkConstraints, c.2 = true

namespace Database.TasksValid

variable {db : Database} {t : Task} {a : TaskAttempt}

lemma empty : TasksValid {} := by
  refine ⟨fun id => ⟨fun _ => rfl, ?_, by simp [Database.record, Table.empty], ?_, ?_, ?_⟩⟩
  · rintro t ⟨⟩
  · rintro t ⟨⟩
  · rintro t ⟨⟩
  · rintro t ⟨⟩

lemma exists_task (h : db.TasksValid) (ha : a ∈ db.taskAttempts.rows) :
    ∃ t ∈ db.tasks.rows, t.id = a.taskId := by
  cases htask : db.task a.taskId with
  | some t => exact ⟨t, task_eq_some_iff.1 htask⟩
  | none =>
    have hnil := (h.record a.taskId).absent htask
    have hmem := mem_record_attempts.2 ⟨ha, rfl⟩
    rw [hnil] at hmem
    cases hmem

/-- An attempt of a task that runs or has succeeded is the newest one, and agrees with the task. -/
lemma newest (h : db.TasksValid) (ht : t ∈ db.tasks.rows) (ha : a ∈ db.taskAttempts.rows)
    (htask : a.taskId = t.id) (hopen : ¬a.Closed) :
    a.attemptNumber = t.attemptCount ∧ Agrees t a := by
  have hmem := mem_record_attempts.2 ⟨ha, htask⟩
  have hcurrent := (h.record t.id).current t (record_task ht)
  have hnumbered := (h.record t.id).numbered t (record_task ht)
  cases hattempts : (db.record t.id).attempts with
  | nil =>
    rw [hattempts] at hmem
    cases hmem
  | cons b older =>
    rw [hattempts] at hmem hcurrent hnumbered
    rcases List.mem_cons.1 hmem with rfl | holder
    · exact ⟨hnumbered.head, hcurrent.1⟩
    · exact absurd (hcurrent.2 a holder) hopen

/-- The newest attempt of a task that has been claimed. -/
lemma exists_newest (h : db.TasksValid) (ht : t ∈ db.tasks.rows)
    (hstatus : t.status = .running ∨ t.status = .succeeded) :
    ∃ a ∈ db.taskAttempts.rows, a.taskId = t.id ∧ a.attemptNumber = t.attemptCount ∧
      Agrees t a := by
  have hcurrent := (h.record t.id).current t (record_task ht)
  have hnumbered := (h.record t.id).numbered t (record_task ht)
  cases hattempts : (db.record t.id).attempts with
  | nil =>
    rw [hattempts] at hcurrent
    rcases hstatus with hrun | hok
    · exact absurd hrun hcurrent.1
    · exact absurd hok hcurrent.2
  | cons a older =>
    have hmem : a ∈ (db.record t.id).attempts := by
      rw [hattempts]
      exact List.mem_cons_self
    rw [hattempts] at hcurrent hnumbered
    obtain ⟨ha, htask⟩ := mem_record_attempts.1 hmem
    exact ⟨a, ha, htask, hnumbered.head, hcurrent.1⟩

lemma attempt_eq {b : TaskAttempt} (ha : a ∈ db.taskAttempts.rows) (hb : b ∈ db.taskAttempts.rows)
    (htask : a.taskId = b.taskId) (hnumber : a.attemptNumber = b.attemptNumber) : a = b :=
  Table.eq_of_clashes ha hb (by simp [clashes, Keyed.unique, htask, hnumber])

theorem inStep (h : db.TasksValid) : db.InStep where
  task _ ha := h.exists_task ha
  numbers t ht n := by
    have hnumbered := (h.record t.id).numbered t (record_task ht)
    constructor
    · rintro ⟨a, ha, htask, rfl⟩
      exact hnumbered.mem_bounds (mem_record_attempts.2 ⟨ha, htask⟩)
    · rintro ⟨hpos, hle⟩
      obtain ⟨a, ha, hnumber⟩ := hnumbered.exists_mem hpos hle
      obtain ⟨ha, htask⟩ := mem_record_attempts.1 ha
      exact ⟨a, ha, htask, hnumber⟩
  distinct _ ha _ hb := attempt_eq ha hb
  running t ht := by
    constructor
    · intro hstatus
      obtain ⟨a, ha, hrunning⟩ := h.exists_running ht hstatus
      refine ⟨a, ⟨ha, hrunning.task, hrunning.status⟩, ?_⟩
      rintro b ⟨hb, htask, hrun⟩
      refine attempt_eq hb ha (htask.trans hrunning.task.symm) ?_
      rw [hrunning.number]
      exact (h.newest ht hb htask fun hclosed => hclosed.1 hrun).1
    · rintro ⟨a, ⟨ha, htask, hrun⟩, -⟩
      exact (h.newest ht ha htask fun hclosed => hclosed.1 hrun).2.running.1 hrun
  current t ht a ha htask hrun := by
    obtain ⟨hnumber, hagrees⟩ := h.newest ht ha htask fun hclosed => hclosed.1 hrun
    have hstatus := hagrees.running.1 hrun
    exact ⟨hnumber, hagrees.worker hstatus, hagrees.token hstatus⟩
  finished a ha hover :=
    ((h.attempt_sound ha).finished.resolve_left fun hrun => hover hrun.1).2
  succeeded t ht := by
    constructor
    · intro hstatus
      obtain ⟨a, ha, htask, hnumber, hagrees⟩ := h.exists_newest ht (.inr hstatus)
      refine ⟨⟨a, ha, htask, hnumber, hagrees.succeeded.2 hstatus⟩, fun b hb hbtask hlt hok => ?_⟩
      have hlast := (h.newest ht hb hbtask fun hclosed => hclosed.2 hok).1
      omega
    · rintro ⟨⟨a, ha, htask, -, hok⟩, -⟩
      exact (h.newest ht ha htask fun hclosed => hclosed.2 hok).2.succeeded.1 hok
  taskConstraints _ ht := Task.sound_iff.2 (h.sound ht)
  attemptConstraints _ ha := TaskAttempt.sound_iff.2 (h.attempt_sound ha)

end Database.TasksValid

/-- The operations of the task service and of the worker repository. -/
def Operation.onTasks : Operation → Bool
  | .ledger _ _ _ _ => false
  | _ => true

/-- The reasons for which an operation on the tasks may fail. -/
def Excused (x : Exn) : Prop :=
  (∃ id, Rejects id x) ∨ x = .idempotencyConflictError ∨ x = fenceNotMatched ∨
    ∃ message, x = .valueError message

lemma Excused.ne_integrityError {x : Exn} (h : Excused x) (name : String) :
    x ≠ .integrityError name := by
  rintro rfl
  rcases h with ⟨id, heq | ⟨s, command, heq⟩⟩ | heq | heq | ⟨message, heq⟩ <;> cases heq

/-- The text of a failed row count has an `x`, that of a failed fence has none. -/
lemma rowCount_ne_fenceNotMatched (n : ℕ) (operation : String) :
    operation ++ " expected one row but affected " ++ toString n ≠
      "active task fence did not match" := by
  intro heq
  have hlist := congrArg String.toList heq
  have hx : 'x' ∈ "active task fence did not match".toList := by
    rw [← hlist, String.toList_append, String.toList_append]
    simp
  simp at hx

lemma Excused.ne_requireOneRow {x : Exn} (h : Excused x) (n : ℕ) (operation : String) :
    requireOneRow n operation ≠ .error x := by
  intro heq
  unfold requireOneRow at heq
  split at heq
  · cases heq
    rcases h with ⟨id, heq | ⟨s, command, heq⟩⟩ | heq | heq | ⟨message, heq⟩
    · cases heq
    · cases heq
    · cases heq
    · exact rowCount_ne_fenceNotMatched n operation (by simpa [fenceNotMatched] using heq)
    · cases heq
  · cases heq

/-- What holds of every configuration of a run. -/
structure Coordinated (c : CoordinationConfig) : Prop where
  valid : c.state.TasksValid
  excused : ∀ op x, (op, Except.error x) ∈ c.log → op.onTasks = true → Excused x

lemma coordinated_empty : Coordinated emptyCoordination :=
  ⟨.empty, fun _ _ hmem => by cases hmem⟩

variable {db : Database}

lemma finalize_ne_error (hdb : db.TasksValid) {f : Finalization} (hf : f.WellFormed) {x : Exn} :
    finalize db f ≠ .error x := by
  rw [finalize_eq hdb hf]
  split <;> simp

section

variable [Runtime] {settings : CoordinationSettings} {op : Operation}

/-- An operation on the tasks of a valid database fails for a reason of its caller only. -/
theorem apply_excused (hdb : db.TasksValid) {log : CoordinationLog}
    (henabled : op.enabled log db = true) (hop : op.onTasks = true) {x : Exn}
    (h : op.apply settings db = .error x) : Excused x := by
  cases op with
  | createTask timestamp taskId request =>
    rw [Operation.enabled, Bool.and_eq_true, Option.isNone_iff_eq_none] at henabled
    rw [Operation.apply, Operation.respond_eq_error] at h
    rcases createTask_cases settings.positive timestamp henabled.2 henabled.1 with
      ⟨t, -, -, heq⟩ | ⟨t, -, -, heq⟩ | ⟨-, tasks, -, heq⟩
    · rw [heq] at h
      cases h
      exact .inr (.inl rfl)
    · rw [heq] at h
      cases h
    · rw [heq] at h
      cases h
  | approveTask now taskId =>
    rw [Operation.apply, Operation.respond_eq_error] at h
    rcases approveTask_cases hdb now taskId with ⟨y, heq, hrejects⟩ | ⟨t, -, -, heq⟩ |
      ⟨t, -, -, heq⟩
    · rw [heq] at h
      cases h
      exact .inl ⟨taskId, hrejects⟩
    · rw [heq] at h
      cases h
    · rw [heq] at h
      cases h
  | cancelTask now taskId =>
    rw [Operation.apply, Operation.respond_eq_error] at h
    rcases cancelTask_cases hdb now taskId with ⟨heq, -⟩ | ⟨t, -, -, heq⟩ | ⟨t, -, -, heq⟩ |
      ⟨t, d, -, -, -, -, heq⟩
    · rw [heq] at h
      cases h
      exact .inl ⟨taskId, .inl rfl⟩
    · rw [heq] at h
      cases h
      exact .inl ⟨taskId, .inr ⟨_, _, rfl⟩⟩
    · rw [heq] at h
      cases h
    · rw [heq] at h
      cases h
  | claimOne dueAt databaseNow locked attemptId tokenHash supported workerId lease =>
    rw [Operation.enabled, List.all_eq_true] at henabled
    rw [Operation.apply, Operation.respond_eq_error] at h
    rcases claimOne_cases hdb dueAt databaseNow locked
      (fun a ha => by simpa using henabled a ha) tokenHash supported workerId lease with
      heq | ⟨t, -, -, taskAttempts, -, heq⟩
    · rw [heq] at h
      cases h
    · rw [heq] at h
      cases h
  | heartbeat now claim lease =>
    rw [Operation.apply, Operation.respond_eq_error, heartbeat_eq hdb] at h
    split at h
    · cases h
      exact .inr (.inr (.inl rfl))
    · cases h
  | finalizeSuccess now claim result =>
    rw [Operation.enabled, Bool.and_eq_true] at henabled
    rw [Operation.apply, Operation.respond_eq_error] at h
    exact absurd h (finalize_ne_error hdb (succeeding_wellFormed henabled.2))
  | scheduleRetry now retryNow claim delay code summary reason =>
    rw [Operation.apply, Operation.respond_eq_error] at h
    exact absurd h (finalize_ne_error hdb retrying_wellFormed)
  | finalizeFailure now claim code summary reason =>
    rw [Operation.apply, Operation.respond_eq_error] at h
    exact absurd h (finalize_ne_error hdb failing_wellFormed)
  | finalizeCancellation now claim =>
    rw [Operation.apply, Operation.respond_eq_error] at h
    exact absurd h (finalize_ne_error hdb cancelling_wellFormed)
  | recoverOneExpired now locked backoff =>
    rw [Operation.apply, Operation.respond_eq_error] at h
    rcases recoverOneExpired_cases hdb now locked backoff with ⟨-, heq⟩ |
      ⟨t, -, -, -, ⟨message, -, heq⟩ | ⟨tokenHash, outcome, result, -, -, heq⟩⟩
    · rw [heq] at h
      cases h
    · rw [heq] at h
      cases h
      exact .inr (.inr (.inr ⟨message, rfl⟩))
    · rw [heq] at h
      cases h
  | ledger now row history e => cases hop

theorem coordinated_step {c c' : CoordinationConfig} (hc : Coordinated c)
    (h : (coordination settings).step c op = some c') : Coordinated c' := by
  obtain ⟨henabled, ⟨r, s, happly, rfl⟩ | ⟨x, happly, rfl⟩⟩ := Store.step_cases h
  · refine ⟨apply_valid hc.valid henabled happly, fun op' x hmem hop => ?_⟩
    rcases List.mem_cons.1 hmem with heq | hmem
    · cases heq
    · exact hc.excused op' x hmem hop
  · refine ⟨hc.valid, fun op' y hmem hop => ?_⟩
    rcases List.mem_cons.1 hmem with heq | hmem
    · cases heq
      exact apply_excused hc.valid henabled hop happly
    · exact hc.excused op' y hmem hop

theorem coordinated_run {ops : List Operation} {c : CoordinationConfig}
    (hrun : (coordination settings).run emptyCoordination ops = some c) : Coordinated c :=
  Store.run_induction (fun _ _ _ _ hc hstep => coordinated_step hc hstep) coordinated_empty hrun

/-- In every run the tables are in step, and no operation on the tasks ever fails for the number
of rows it affects or for a constraint. -/
theorem tasks_inStep (settings : CoordinationSettings) (ops : List Operation)
    (c : CoordinationConfig)
    (hrun : (coordination settings).run emptyCoordination ops = some c) :
    c.state.InStep ∧ ∀ op x, (op, Except.error x) ∈ c.log → op.onTasks = true →
      (∀ name, x ≠ .integrityError name) ∧ ∀ n operation, requireOneRow n operation ≠ .error x := by
  have hc := coordinated_run hrun
  refine ⟨hc.valid.inStep, fun op x hmem hop => ?_⟩
  have hexcused := hc.excused op x hmem hop
  exact ⟨hexcused.ne_integrityError, hexcused.ne_requireOneRow⟩

end

namespace Sample

@[reducible] def taskHost : Runtime := host []

def taskRequest : CreateTaskRequest := ⟨"k", "t", .dict []⟩

/-- The claim number `n` of the task 1, by worker `w`. -/
def taskClaim (n : ℕ) (w : String) : ClaimedTask :=
  ⟨1, BitVec.ofNat 128 (10 + n), n, 3, w, BitVec.ofNat 256 n, "t", .dict []⟩

/-- Worker `w` claims the task 1, as claim number `n`, for ten seconds. -/
def claimTask (now : Timestamp) (n : ℕ) (w : String) : Operation :=
  .claimOne now now [] (BitVec.ofNat 128 (10 + n)) (BitVec.ofNat 256 n) ["t"] w 10

/-- The lease of worker `a` expires, and worker `b` is at work when the task is cancelled. -/
def expiredThenCancelled : List Operation :=
  [.createTask 0 1 taskRequest, .approveTask 1 1, claimTask 2 1 "a",
    .heartbeat 3 (taskClaim 1 "a") 10, .recoverOneExpired 13 [] fun _ => .ok 1,
    claimTask 14 2 "b", .finalizeSuccess 15 (taskClaim 1 "a") (.dict []), .cancelTask 16 1,
    .finalizeSuccess 17 (taskClaim 2 "b") (.dict []), .finalizeCancellation 18 (taskClaim 2 "b")]

def defaultSettings : CoordinationSettings := {}

attribute [local instance] taskHost

def runTasks (ops : List Operation) : Option CoordinationConfig :=
  (coordination {}).run emptyCoordination ops

end Sample

open Sample in
theorem tasks_inStep_expiredThenCancelled : ∃ c, runTasks expiredThenCancelled = some c ∧
    c.state.InStep ∧ ∀ op x, (op, Except.error x) ∈ c.log → op.onTasks = true →
      (∀ name, x ≠ .integrityError name) ∧ ∀ n operation, requireOneRow n operation ≠ .error x := by
  have hrun : (runTasks expiredThenCancelled).isSome = true := by decide +kernel
  obtain ⟨c, hc⟩ := Option.isSome_iff_exists.1 hrun
  exact ⟨c, hc, @tasks_inStep taskHost {} expiredThenCancelled c hc⟩

end DeploymentLab
