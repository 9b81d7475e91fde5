import DeploymentLab.Proofs.TaskRecord

/-!
# What one transaction on a task does

In a valid database every transaction of the task service and of the worker repository does
exactly what its equation here says: it changes the rows it addresses and it fails for no other
reason than those named.
-/

namespace DeploymentLab

open Relational TaskService WorkerRepository Database

variable {db db' : Database} {id : UUID} {t : Task} {a : TaskAttempt} {claim : ClaimedTask}
  {now : Timestamp}

lemma updateTasks_eq {p : Task → Bool} {f : Task → Task}
    {hf : ∀ t, Keyed.key (f t) = Keyed.key t}
    (h : ∀ t ∈ db.tasks.rows, p t = true → (f t).Sound) :
    updateTasks db p f hf =
      .ok (db.tasks.count p, { db with tasks := db.tasks.update p f hf }) := by
  have hvalid : requireConstraints ((db.tasks.rows.filter p).flatMap fun t =>
      (f t).checkConstraints) = .ok () := by
    rw [requireConstraints_eq_ok]
    intro c hc
    obtain ⟨t, ht, hc⟩ := List.mem_flatMap.1 hc
    rw [List.mem_filter] at ht
    exact Task.sound_iff.2 (h t ht.1 ht.2) c hc
  rw [updateTasks, hvalid]
  rfl

lemma updateTaskAttempts_eq {p : TaskAttempt → Bool} {f : TaskAttempt → TaskAttempt}
    {hf : ∀ a, Keyed.key (f a) = Keyed.key a}
    (h : ∀ a ∈ db.taskAttempts.rows, p a = true → (f a).Sound) :
    updateTaskAttempts db p f hf =
      .ok (db.taskAttempts.count p,
        { db with taskAttempts := db.taskAttempts.update p f hf }) := by
  have hvalid : requireConstraints ((db.taskAttempts.rows.filter p).flatMap fun a =>
      (f a).checkConstraints) = .ok () := by
    rw [requireConstraints_eq_ok]
    intro c hc
    obtain ⟨a, ha, hc⟩ := List.mem_flatMap.1 hc
    rw [List.mem_filter] at ha
    exact TaskAttempt.sound_iff.2 (h a ha.1 ha.2) c hc
  rw [updateTaskAttempts, hvalid]
  rfl

/-- What the active fence of a claim says of a task. -/
structure Fenced (claim : ClaimedTask) (now : Timestamp) (t : Task) : Prop where
  id : t.id = claim.taskId
  status : t.status = .running
  worker : t.workerId = some claim.workerId
  number : t.attemptCount = claim.attemptNumber
  token : t.leaseTokenHash = some claim.leaseTokenHash
  lease : ∃ expires, t.leaseExpiresAt = some expires ∧ now < expires

lemma activeFence_iff : activeFence claim now t = true ↔ Fenced claim now t := by
  simp only [activeFence, Bool.and_eq_true, beq_iff_eq, Option.any_eq_true, decide_eq_true_eq]
  constructor
  · rintro ⟨⟨⟨⟨⟨h₁, h₂⟩, h₃⟩, h₄⟩, h₅⟩, h₆⟩
    exact ⟨h₁, h₂, h₃, h₄, h₅, h₆⟩
  · rintro ⟨h₁, h₂, h₃, h₄, h₅, h₆⟩
    exact ⟨⟨⟨⟨⟨h₁, h₂⟩, h₃⟩, h₄⟩, h₅⟩, h₆⟩

lemma claimedAttempt_iff : claimedAttempt claim a = true ↔ a.taskId = claim.taskId ∧
    a.attemptNumber = claim.attemptNumber ∧ a.leaseTokenHash = claim.leaseTokenHash ∧
    a.status = .running := by
  simp [claimedAttempt, and_assoc]

/-- The attempt of a task that runs. -/
structure RunningAttempt (t : Task) (a : TaskAttempt) : Prop where
  task : a.taskId = t.id
  number : a.attemptNumber = t.attemptCount
  status : a.status = .running
  worker : t.workerId = some a.workerId
  token : t.leaseTokenHash = some a.leaseTokenHash

lemma claimedAttempt_of_running (hfence : Fenced claim now t) (h : RunningAttempt t a) :
    claimedAttempt claim a = true := by
  rw [claimedAttempt_iff]
  refine ⟨h.task.trans hfence.id, h.number.trans hfence.number, ?_, h.status⟩
  exact Option.some.inj (h.token.symm.trans hfence.token)

lemma claimedAttempt_of_closed {older : List TaskAttempt} (h : ∀ b ∈ older, b.Closed) :
    ∀ b ∈ older, claimedAttempt claim b = false := by
  intro b hb
  simp [claimedAttempt, (h b hb).1]

namespace Database.TasksValid

lemma sound (hdb : db.TasksValid) (ht : t ∈ db.tasks.rows) : t.Sound :=
  (hdb.record t.id).sound t (record_task ht)

lemma attempt_sound (hdb : db.TasksValid) (ha : a ∈ db.taskAttempts.rows) : a.Sound :=
  (hdb.record a.taskId).attempts a (mem_record_attempts.2 ⟨ha, rfl⟩)

/-- The newest attempt of a task that runs is its running one, and the others are closed. -/
lemma record_running (hdb : db.TasksValid) (ht : t ∈ db.tasks.rows)
    (hstatus : t.status = .running) :
    ∃ a older, (db.record t.id).attempts = a :: older ∧ RunningAttempt t a ∧
      ∀ b ∈ older, b.Closed := by
  have htask := record_task ht
  have hcurrent := (hdb.record t.id).current t htask
  have hnumbered := (hdb.record t.id).numbered t htask
  cases hattempts : (db.record t.id).attempts with
  | nil =>
    rw [hattempts] at hcurrent
    exact absurd hstatus hcurrent.1
  | cons a older =>
    rw [hattempts] at hcurrent hnumbered
    obtain ⟨hagrees, hclosed⟩ := hcurrent
    have hmem : a ∈ (db.record t.id).attempts := by
      rw [hattempts]
      exact List.mem_cons_self
    refine ⟨a, older, rfl, ⟨(mem_record_attempts.1 hmem).2, hnumbered.head,
      hagrees.running.2 hstatus, hagrees.worker hstatus, hagrees.token hstatus⟩, hclosed⟩

lemma exists_running (hdb : db.TasksValid) (ht : t ∈ db.tasks.rows)
    (hstatus : t.status = .running) :
    ∃ a ∈ db.taskAttempts.rows, RunningAttempt t a := by
  obtain ⟨a, older, hattempts, hrunning, -⟩ := hdb.record_running ht hstatus
  have hmem : a ∈ (db.record t.id).attempts := by
    rw [hattempts]
    exact List.mem_cons_self
  exact ⟨a, (mem_record_attempts.1 hmem).1, hrunning⟩

/-- An update that addresses the attempt of a running task addresses that row alone. -/
lemma count_attempt (hdb : db.TasksValid) (ht : t ∈ db.tasks.rows) (hstatus : t.status = .running)
    {p : TaskAttempt → Bool} (hp : ∀ a, RunningAttempt t a → p a = true)
    (haddress : ∀ a, p a = true → a.taskId = t.id ∧ a.attemptNumber = t.attemptCount) :
    db.taskAttempts.count p = 1 := by
  obtain ⟨a, ha, hrunning⟩ := hdb.exists_running ht hstatus
  refine Table.count_eq_one ha (hp a hrunning) fun s hs => ?_
  obtain ⟨htask, hnumber⟩ := haddress s hs
  simp [clashes, Keyed.unique, htask, hnumber, hrunning.task, hrunning.number]

lemma count_claimed (hdb : db.TasksValid) (ht : t ∈ db.tasks.rows) (hfence : Fenced claim now t) :
    db.taskAttempts.count (claimedAttempt claim) = 1 := by
  refine hdb.count_attempt ht hfence.status (fun a ha => ?_) fun a ha => ?_
  · exact claimedAttempt_of_running hfence ha
  · rw [claimedAttempt_iff] at ha
    exact ⟨ha.1.trans hfence.id.symm, ha.2.1.trans hfence.number.symm⟩

end Database.TasksValid

lemma sound_beatenRow {leaseDuration : Duration} (h : t.Sound) (hstatus : t.status = .running) :
    (beatenRow leaseDuration now t).Sound := by
  obtain ⟨hworker, htoken, hlease, -, hcount⟩ := h.running hstatus
  refine ⟨h.key, h.type, h.input, h.count, h.max, h.within, h.available, .inl ?_, h.result,
    h.cancellation⟩
  refine ⟨hstatus, hworker, htoken, ?_, rfl, hcount⟩
  simp only [beatenRow]
  split
  · rfl
  · exact hlease

/-- The database after a heartbeat of `claim`. -/
def beaten (db : Database) (now : Timestamp) (claim : ClaimedTask) (leaseDuration : Duration) :
    Database :=
  { db with
    tasks := db.tasks.update (activeFence claim now) (beatenRow leaseDuration now)
      (key_beatenRow leaseDuration now)
    taskAttempts := db.taskAttempts.update (claimedAttempt claim)
      (beatenAttempt now) (key_beatenAttempt now) }

theorem heartbeat_eq (hdb : db.TasksValid) (leaseDuration : Duration) :
    heartbeat db now claim leaseDuration =
      match db.tasks.find? (activeFence claim now) with
      | none => .error fenceNotMatched
      | some t => .ok (if t.cancellationRequestedAt.isSome then .cancellationRequested else .active,
          beaten db now claim leaseDuration) := by
  have htasks : ∀ t ∈ db.tasks.rows, activeFence claim now t = true →
      (beatenRow leaseDuration now t).Sound := fun t ht hp =>
    sound_beatenRow (hdb.sound ht) (activeFence_iff.1 hp).status
  cases hfind : db.tasks.find? (activeFence claim now) with
  | none =>
    refine bind_eq_error.2 (.inr ⟨_, updateTasks_eq htasks, ?_⟩)
    rw [hfind]
    rfl
  | some t =>
    have hcount := hdb.count_claimed (Table.mem_of_find? hfind)
      (activeFence_iff.1 (Table.pred_of_find? hfind))
    have hattempts : ∀ a ∈ db.taskAttempts.rows, claimedAttempt claim a = true →
        (beatenAttempt now a).Sound := fun a ha _ =>
      ⟨(hdb.attempt_sound ha).number, (hdb.attempt_sound ha).finished⟩
    refine bind_eq_ok.2 ⟨_, updateTasks_eq htasks, ?_⟩
    rw [hfind]
    refine bind_eq_ok.2 ⟨_, updateTaskAttempts_eq hattempts, ?_⟩
    refine bind_eq_ok.2 ⟨(), requireOneRow_eq_ok.2 hcount, ?_⟩
    split <;> rfl

/-- What the four finalisers have in common: they close task and attempt alike, and only the
one that requires a cancellation leaves the task `CANCELLED`. -/
structure Finalization.WellFormed (f : Finalization) : Prop where
  status : f.taskValues.status ≠ .running
  attempt : f.attemptValues.status ≠ .running
  available : f.taskValues.status = .approved → f.taskValues.availableAt.isSome = true
  result : (f.taskValues.status = .succeeded ∧ f.taskValues.result.any JsonValue.isDict = true) ∨
    (f.taskValues.status ≠ .succeeded ∧ f.taskValues.result = none)
  agrees : f.attemptValues.status = .succeeded ↔ f.taskValues.status = .succeeded
  cancellation : f.requiredCancellation = true ↔ f.taskValues.status = .cancelled

lemma fence_iff {f : Finalization} : finalizationFence f t = true ↔
    Fenced f.claim f.databaseNow t ∧ t.cancellationRequestedAt.isSome = f.requiredCancellation := by
  rw [finalizationFence, Bool.and_eq_true, activeFence_iff, beq_iff_eq]

lemma sound_finalizedRow {f : Finalization} (hf : f.WellFormed) (h : t.Sound)
    (hfence : finalizationFence f t = true) :
    (finalizedRow f.taskValues f.databaseNow t).Sound := by
  refine ⟨h.key, h.type, h.input, h.count, h.max, h.within, hf.available,
    .inr ⟨hf.status, rfl, rfl, rfl, rfl⟩, hf.result, ?_⟩
  have hmarker := (fence_iff.1 hfence).2
  cases hcancel : f.requiredCancellation with
  | true => exact .inr (.inr (hf.cancellation.1 hcancel))
  | false =>
    rw [hcancel, Option.isSome_eq_false_iff, Option.isNone_iff_eq_none] at hmarker
    exact .inl hmarker

lemma Finalization.key_task (f : Finalization) (t : Task) :
    Keyed.key (finalizedRow f.taskValues f.databaseNow t) = Keyed.key t :=
  key_finalizedRow f.taskValues f.databaseNow t

lemma Finalization.key_attempt (f : Finalization) (a : TaskAttempt) :
    Keyed.key (finalizedAttempt f.attemptValues f.databaseNow a) = Keyed.key a :=
  key_finalizedAttempt f.attemptValues f.databaseNow a

/-- The database after the finalisation `f`. -/
def finalized (db : Database) (f : Finalization) : Database :=
  { db with
    tasks := db.tasks.update (finalizationFence f) (finalizedRow f.taskValues f.databaseNow)
      f.key_task
    taskAttempts := db.taskAttempts.update (claimedAttempt f.claim)
      (finalizedAttempt f.attemptValues f.databaseNow) f.key_attempt }

/-- The fence of a claim matches one task at most. -/
lemma count_fence {f : Finalization} (ht : t ∈ db.tasks.rows)
    (hfence : finalizationFence f t = true) :
    db.tasks.count (finalizationFence f) = 1 := by
  refine Table.count_eq_one ht hfence fun s hs => clashes_of_task_id_eq ?_
  exact (fence_iff.1 hfence).1.id.trans (fence_iff.1 hs).1.id.symm

theorem finalize_eq (hdb : db.TasksValid) {f : Finalization} (hf : f.WellFormed) :
    finalize db f =
      match db.tasks.find? (finalizationFence f) with
      | none => .ok (classifyFailedFence db f.databaseNow f.claim, db)
      | some _ => .ok (.applied, finalized db f) := by
  have htasks : ∀ t ∈ db.tasks.rows, finalizationFence f t = true →
      (finalizedRow f.taskValues f.databaseNow t).Sound := fun t ht hp =>
    sound_finalizedRow hf (hdb.sound ht) hp
  cases hfind : db.tasks.find? (finalizationFence f) with
  | none =>
    refine bind_eq_ok.2 ⟨_, updateTasks_eq htasks, ?_⟩
    dsimp only
    rw [if_pos (Table.count_eq_zero_iff.2 hfind), Table.update_of_find?_eq_none hfind]
    rfl
  | some t =>
    have ht := Table.mem_of_find? hfind
    have hfence := Table.pred_of_find? hfind
    have hone := count_fence ht hfence
    have hattempts : ∀ a ∈ db.taskAttempts.rows, claimedAttempt f.claim a = true →
        (finalizedAttempt f.attemptValues f.databaseNow a).Sound := fun a ha _ =>
      ⟨(hdb.attempt_sound ha).number, .inr ⟨hf.attempt, rfl⟩⟩
    refine bind_eq_ok.2 ⟨_, updateTasks_eq htasks, ?_⟩
    dsimp only
    rw [if_neg (by rw [hone]; exact Nat.one_ne_zero)]
    refine bind_eq_ok.2 ⟨(), requireOneRow_eq_ok.2 hone, ?_⟩
    refine bind_eq_ok.2 ⟨_, updateTaskAttempts_eq hattempts, ?_⟩
    refine bind_eq_ok.2 ⟨(), requireOneRow_eq_ok.2 ?_, rfl⟩
    exact hdb.count_claimed ht (fence_iff.1 hfence).1

lemma classifyFailedFence_eq_cancellationRequested :
    classifyFailedFence db now claim = .cancellationRequested ↔
      ∃ t, db.tasks.find? (activeFence claim now) = some t ∧
        t.cancellationRequestedAt.isSome = true := by
  unfold classifyFailedFence
  split
  · split <;> simp_all
  · simp_all

lemma succeeding_wellFormed {result : JsonValue} (h : result.isDict = true) :
    (succeeding now claim result).WellFormed :=
  ⟨by simp [succeeding], by simp [succeeding], by simp [succeeding], .inl ⟨rfl, h⟩,
    by simp [succeeding], by simp [succeeding]⟩

lemma retrying_wellFormed {retryNow : Timestamp} {delay : Duration}
    {errorCode errorSummary terminalReason : String} :
    (retrying now retryNow claim delay errorCode errorSummary terminalReason).WellFormed :=
  ⟨by simp [retrying], by simp [retrying], by simp [retrying], .inr ⟨by simp [retrying], rfl⟩,
    by simp [retrying], by simp [retrying]⟩

lemma failing_wellFormed {errorCode errorSummary terminalReason : String} :
    (failing now claim errorCode errorSummary terminalReason).WellFormed :=
  ⟨by simp [failing], by simp [failing], by simp [failing], .inr ⟨by simp [failing], rfl⟩,
    by simp [failing], by simp [failing]⟩

lemma cancelling_wellFormed : (cancelling now claim).WellFormed :=
  ⟨by simp [cancelling], by simp [cancelling], by simp [cancelling],
    .inr ⟨by simp [cancelling], rfl⟩, by simp [cancelling], by simp [cancelling]⟩

/-- What recovery makes of a task that it finds expired. -/
structure Recovers (t : Task) (now : Timestamp) (outcome : Recovery) : Prop where
  status : outcome.newStatus =
    if t.cancellationRequestedAt.isSome then .cancelled
    else if t.maxAttempts ≤ t.attemptCount then .failed else .approved
  next : outcome.nextAttemptAt.isSome = (outcome.newStatus == .approved)

lemma recovery_cases (t : Task) (now : Timestamp) (backoff : ℤ → Except String Duration) :
    (∃ outcome, recovery now backoff t = .ok outcome ∧ Recovers t now outcome) ∨
      ∃ message, recovery now backoff t = .error (.valueError message) := by
  unfold recovery
  by_cases hcancel : t.cancellationRequestedAt.isSome
  · refine .inl ⟨_, by rw [if_pos hcancel]; rfl, ?_, rfl⟩
    rw [if_pos hcancel]
  rw [if_neg hcancel]
  by_cases hmax : t.maxAttempts ≤ t.attemptCount
  · refine .inl ⟨_, by rw [if_pos hmax]; rfl, ?_, rfl⟩
    rw [if_neg hcancel, if_pos hmax]
  rw [if_neg hmax]
  cases hbackoff : backoff t.attemptCount with
  | error message => exact .inr ⟨message, rfl⟩
  | ok delay =>
    refine .inl ⟨_, rfl, ?_, rfl⟩
    rw [if_neg hcancel, if_neg hmax]

lemma mem_of_selectForUpdate {locked : List UUID} {le : Task → Task → Bool} {p : Task → Bool}
    (h : selectForUpdate db locked le p = some t) : t ∈ db.tasks.rows ∧ p t = true := by
  have hmem := List.mem_of_mem_head? h
  rw [List.mem_insertionSort, List.mem_filter, Bool.and_eq_true] at hmem
  exact ⟨hmem.1, hmem.2.1⟩

/-- The database after the recovery of the task `t`. -/
def recovered (db : Database) (t : Task) (tokenHash : Digest) (now : Timestamp)
    (outcome : Recovery) : Database :=
  { db with
    taskAttempts := db.taskAttempts.update
      (fun a => expiredAddress t tokenHash a && a.status == .running)
      (expiredAttempt t.cancellationRequestedAt.isSome now)
      (key_expiredAttempt t.cancellationRequestedAt.isSome now)
    tasks := db.tasks.update (expiredTask t tokenHash now) (recoveredRow outcome now)
      (key_recoveredRow outcome now) }

lemma expired_iff : expired now t = true ↔
    t.status = .running ∧ ∃ expires, t.leaseExpiresAt = some expires ∧ expires ≤ now := by
  simp [expired, Option.any_eq_true]

lemma sound_recoveredRow {outcome : Recovery} {s : Task} (h : t.Sound) (hs : s = t)
    (hrecovers : Recovers t now outcome) : (recoveredRow outcome now s).Sound := by
  subst hs
  have hstatus := hrecovers.status
  have hnext := hrecovers.next
  refine ⟨h.key, h.type, h.input, h.count, h.max, h.within, fun happroved => ?_,
    .inr ⟨?_, rfl, rfl, rfl, rfl⟩, .inr ⟨?_, rfl⟩, ?_⟩
  · rw [show outcome.newStatus = .approved from happroved] at hnext
    exact hnext
  · change outcome.newStatus ≠ .running
    rw [hstatus]
    split
    · simp
    · split <;> simp
  · change outcome.newStatus ≠ .succeeded
    rw [hstatus]
    split
    · simp
    · split <;> simp
  · by_cases hcancel : s.cancellationRequestedAt.isSome
    · right
      right
      change outcome.newStatus = .cancelled
      rw [hstatus, if_pos hcancel]
    · exact .inl (Option.not_isSome_iff_eq_none.1 hcancel)

/-- Recovery closes the first expired task that is not locked, or finds none, or passes on the
error of the retry policy. -/
theorem recoverOneExpired_cases (hdb : db.TasksValid) (now : Timestamp) (locked : List UUID)
    (backoff : ℤ → Except String Duration) :
    (selectForUpdate db locked recoveryOrder (expired now) = none ∧
      recoverOneExpired db now locked backoff = .ok (none, db)) ∨
    ∃ t ∈ db.tasks.rows, expired now t = true ∧
      selectForUpdate db locked recoveryOrder (expired now) = some t ∧
      ((∃ message, recovery now backoff t = .error (.valueError message) ∧
        recoverOneExpired db now locked backoff = .error (.valueError message)) ∨
      ∃ tokenHash outcome result, t.leaseTokenHash = some tokenHash ∧ Recovers t now outcome ∧
        recoverOneExpired db now locked backoff =
          .ok (some result, recovered db t tokenHash now outcome)) := by
  cases hselect : selectForUpdate db locked recoveryOrder (expired now) with
  | none =>
    refine .inl ⟨rfl, ?_⟩
    rw [recoverOneExpired, hselect]
    rfl
  | some t =>
    obtain ⟨ht, hexpired⟩ := mem_of_selectForUpdate hselect
    refine .inr ⟨t, ht, hexpired, rfl, ?_⟩
    obtain ⟨hstatus, hlease⟩ := expired_iff.1 hexpired
    have hsound := hdb.sound ht
    obtain ⟨hworker, htoken, -, -, hcount⟩ := hsound.running hstatus
    obtain ⟨workerId, hworkerId⟩ := Option.isSome_iff_exists.1 hworker
    obtain ⟨tokenHash, htokenHash⟩ := Option.isSome_iff_exists.1 htoken
    obtain ⟨a, ha, hrunning⟩ := hdb.exists_running ht hstatus
    have haddress : ∀ b : TaskAttempt, RunningAttempt t b →
        expiredAddress t tokenHash b = true := by
      intro b hb
      have hsame := hb.token
      rw [htokenHash] at hsame
      cases hsame
      simp [expiredAddress, hb.task, hb.number]
    have hattempts : ∀ b ∈ db.taskAttempts.rows,
        (expiredAddress t tokenHash b && b.status == .running) = true →
        (expiredAttempt t.cancellationRequestedAt.isSome now b).Sound := fun b hb _ =>
      ⟨(hdb.attempt_sound hb).number, .inr ⟨by simp [expiredAttempt], rfl⟩⟩
    have hone : db.taskAttempts.count
        (fun b => expiredAddress t tokenHash b && b.status == .running) = 1 := by
      refine hdb.count_attempt ht hstatus (fun b hb => ?_) fun b hb => ?_
      · simp [haddress b hb, hb.status]
      · simp only [expiredAddress, Bool.and_eq_true, beq_iff_eq] at hb
        exact ⟨hb.1.1.1, hb.1.1.2⟩
    have hself : ∀ s ∈ db.tasks.rows, expiredTask t tokenHash now s = true → s = t := by
      intro s hs hp
      simp only [expiredTask, Bool.and_eq_true, beq_iff_eq] at hp
      exact Table.eq_of_clashes hs ht (clashes_of_task_id_eq hp.1.1.1.1)
    have htaskOne : db.tasks.count (expiredTask t tokenHash now) = 1 := by
      refine Table.count_eq_one ht ?_ fun s hs => clashes_of_task_id_eq ?_
      · obtain ⟨expires, hexpires, hle⟩ := hlease
        simp [expiredTask, hstatus, htokenHash, hexpires, hle]
      · simp only [expiredTask, Bool.and_eq_true, beq_iff_eq] at hs
        exact hs.1.1.1.1.symm
    rw [recoverOneExpired, hselect]
    dsimp only
    rw [hworkerId, htokenHash]
    dsimp only
    rw [if_neg (by omega)]
    rcases recovery_cases t now backoff with ⟨outcome, hrecovery, hrecovers⟩ | ⟨message, hrecovery⟩
    · right
      have hrows : ∀ s ∈ db.tasks.rows, expiredTask t tokenHash now s = true →
          (recoveredRow outcome now s).Sound := fun s hs hp =>
        sound_recoveredRow hsound (hself s hs hp) hrecovers
      have hkept : ∀ b : TaskAttempt,
          expiredAddress t tokenHash (expiredAttempt t.cancellationRequestedAt.isSome now b) =
            expiredAddress t tokenHash b := fun _ => rfl
      obtain ⟨b, hb⟩ : ∃ b, (db.taskAttempts.update
          (fun b => expiredAddress t tokenHash b && b.status == .running)
          (expiredAttempt t.cancellationRequestedAt.isSome now)
          (key_expiredAttempt t.cancellationRequestedAt.isSome now)).find?
            (expiredAddress t tokenHash) = some b := by
        rw [Table.find?_update hkept]
        cases hfind : db.taskAttempts.find? (expiredAddress t tokenHash) with
        | none =>
          have hnone := Table.find?_eq_none_iff.1 hfind a ha
          rw [haddress a hrunning] at hnone
          cases hnone
        | some b => exact ⟨_, rfl⟩
      refine ⟨tokenHash, outcome, recoveryResult t workerId b outcome, rfl, hrecovers, ?_⟩
      refine bind_eq_ok.2 ⟨_, updateTaskAttempts_eq hattempts, ?_⟩
      refine bind_eq_ok.2 ⟨(), requireOneRow_eq_ok.2 hone, ?_⟩
      refine bind_eq_ok.2 ⟨_, hrecovery, ?_⟩
      refine bind_eq_ok.2 ⟨_, updateTasks_eq hrows, ?_⟩
      refine bind_eq_ok.2 ⟨(), requireOneRow_eq_ok.2 htaskOne, ?_⟩
      dsimp only
      rw [hb]
      rfl
    · left
      refine ⟨message, hrecovery, ?_⟩
      refine bind_eq_error.2 (.inr ⟨_, updateTaskAttempts_eq hattempts, ?_⟩)
      refine bind_eq_error.2 (.inr ⟨(), requireOneRow_eq_ok.2 hone, ?_⟩)
      exact bind_eq_error.2 (.inl hrecovery)

structure Claimable (supportedTaskTypes : List String) (dueAt : Timestamp) (t : Task) : Prop where
  status : t.status = .approved
  due : ∃ available, t.availableAt = some available ∧ available ≤ dueAt
  within : t.attemptCount < t.maxAttempts
  supported : t.taskType ∈ supportedTaskTypes

lemma claimable_iff {supportedTaskTypes : List String} {dueAt : Timestamp} :
    claimable supportedTaskTypes dueAt t = true ↔ Claimable supportedTaskTypes dueAt t := by
  simp only [claimable, Bool.and_eq_true, beq_iff_eq, Option.any_eq_true, decide_eq_true_eq,
    List.contains_iff_mem]
  constructor
  · rintro ⟨⟨⟨h₁, h₂⟩, h₃⟩, h₄⟩
    exact ⟨h₁, h₂, h₃, h₄⟩
  · rintro ⟨h₁, h₂, h₃, h₄⟩
    exact ⟨⟨⟨h₁, h₂⟩, h₃⟩, h₄⟩

lemma Task.Sound.idle (h : t.Sound) (hstatus : t.status = .approved) :
    t.cancellationRequestedAt = none := by
  rcases h.cancellation with hnone | hrunning | hcancelled
  · exact hnone
  · rw [hstatus] at hrunning
    cases hrunning
  · rw [hstatus] at hcancelled
    cases hcancelled

lemma sound_claimedRow {supportedTaskTypes : List String} {dueAt databaseNow : Timestamp}
    {tokenHash : Digest} {workerId : String} {leaseDuration : Duration} (h : t.Sound)
    (hclaimable : Claimable supportedTaskTypes dueAt t) :
    (claimedRow tokenHash workerId leaseDuration databaseNow t).Sound := by
  have hcount := h.count
  have hwithin := hclaimable.within
  refine ⟨h.key, h.type, h.input, ?_, h.max, ?_, by simp [claimedRow],
    .inl ⟨rfl, rfl, rfl, rfl, rfl, ?_⟩, .inr ⟨by simp [claimedRow], rfl⟩,
    .inl (h.idle hclaimable.status)⟩
  · change 0 ≤ t.attemptCount + 1
    omega
  · change t.attemptCount + 1 ≤ t.maxAttempts
    omega
  · change 0 < t.attemptCount + 1
    omega

lemma sound_startedAttempt {attemptId : UUID} {tokenHash : Digest} {workerId : String}
    {databaseNow : Timestamp} (h : t.Sound) :
    (startedAttempt attemptId tokenHash workerId databaseNow t).Sound := by
  refine ⟨?_, .inl ⟨rfl, rfl⟩⟩
  change 0 < t.attemptCount + 1
  have hcount := h.count
  omega

/-- `claim_one` claims a due task, with an attempt of the next number, or finds none. -/
theorem claimOne_cases (hdb : db.TasksValid) (dueAt databaseNow : Timestamp) (locked : List UUID)
    {attemptId : UUID} (hfresh : ∀ a ∈ db.taskAttempts.rows, a.id ≠ attemptId)
    (tokenHash : Digest) (supportedTaskTypes : List String) (workerId : String)
    (leaseDuration : Duration) :
    claimOne db dueAt databaseNow locked attemptId tokenHash supportedTaskTypes workerId
      leaseDuration = .ok (none, db) ∨
    ∃ t ∈ db.tasks.rows, Claimable supportedTaskTypes dueAt t ∧ ∃ taskAttempts,
      db.taskAttempts.insert (startedAttempt attemptId tokenHash workerId databaseNow t) =
        some taskAttempts ∧
      claimOne db dueAt databaseNow locked attemptId tokenHash supportedTaskTypes workerId
        leaseDuration = .ok (some (claimOf attemptId tokenHash workerId t), { db with
          tasks := db.tasks.update (fun s => s.id == t.id)
            (claimedRow tokenHash workerId leaseDuration databaseNow)
            (key_claimedRow tokenHash workerId leaseDuration databaseNow)
          taskAttempts }) := by
  by_cases hnone : supportedTaskTypes = []
  · left
    rw [claimOne, if_pos hnone]
    rfl
  cases hselect : selectForUpdate db locked claimOrder (claimable supportedTaskTypes dueAt) with
  | none =>
    left
    rw [claimOne, if_neg hnone, hselect]
    rfl
  | some t =>
    obtain ⟨ht, hp⟩ := mem_of_selectForUpdate hselect
    have hclaimable := claimable_iff.1 hp
    have hsound := hdb.sound ht
    have hrows : ∀ s ∈ db.tasks.rows, (s.id == t.id) = true →
        (claimedRow tokenHash workerId leaseDuration databaseNow s).Sound := by
      intro s hs hid
      obtain rfl : s = t := Table.eq_of_clashes hs ht (clashes_of_task_id_eq (by simpa using hid))
      exact sound_claimedRow hsound hclaimable
    have hattempt : requireConstraints (startedAttempt attemptId tokenHash workerId databaseNow
        t).checkConstraints = .ok () := by
      rw [requireConstraints_eq_ok, TaskAttempt.sound_iff]
      exact sound_startedAttempt hsound
    cases hinsert : db.taskAttempts.insert
        (startedAttempt attemptId tokenHash workerId databaseNow t) with
    | none =>
      obtain ⟨a, ha, hclash⟩ := Table.insert_eq_none_iff.1 hinsert
      simp only [clashes, Bool.or_eq_true, beq_iff_eq] at hclash
      rcases hclash with hid | hunique
      · exact absurd hid (hfresh a ha)
      · have htaskId : a.taskId = t.id := congrArg Prod.fst hunique
        have hnumber : a.attemptNumber = t.attemptCount + 1 := congrArg Prod.snd hunique
        have hbounds := ((hdb.record t.id).numbered t (record_task ht)).mem_bounds
          (mem_record_attempts.2 ⟨ha, htaskId⟩)
        omega
    | some taskAttempts =>
      refine .inr ⟨t, ht, hclaimable, taskAttempts, hinsert, ?_⟩
      rw [claimOne, if_neg hnone, hselect]
      refine bind_eq_ok.2 ⟨.running, ?_, ?_⟩
      · rw [hclaimable.status]
        rfl
      refine bind_eq_ok.2 ⟨_, updateTasks_eq hrows, ?_⟩
      refine bind_eq_ok.2 ⟨(), hattempt, ?_⟩
      dsimp only
      rw [hinsert]
      rfl

/-! ## The task service -/

/-- The ways in which a command on a task is rejected. -/
def Rejects (id : UUID) (x : Exn) : Prop :=
  x = .taskNotFoundError id ∨
    ∃ currentStatus command, x = .invalidTaskTransitionError currentStatus command

lemma lockTask_eq_ok : lockTask db id = .ok t ↔ db.task id = some t := by
  unfold lockTask
  split <;> simp_all

lemma sound_approved (h : t.Sound) (hstatus : t.status = .pendingApproval) :
    (commanded .approve .approved now t).Sound := by
  refine ⟨h.key, h.type, h.input, h.count, h.max, h.within, fun _ => rfl,
    .inr ⟨by simp [commanded], ?_⟩, .inr ⟨by simp [commanded], ?_⟩, .inl ?_⟩
  · exact (h.lease.resolve_left fun hrun => by simp [hstatus] at hrun).2
  · exact (h.result.resolve_left fun hok => by simp [hstatus] at hok).2
  · exact h.cancellation.resolve_right (by simp [hstatus])

theorem approveTask_cases (hdb : db.TasksValid) (now : Timestamp) (id : UUID) :
    (∃ x, approveTask db now id = .error x ∧ Rejects id x) ∨
    (∃ t, db.task id = some t ∧ t.status = .approved ∧ approveTask db now id = .ok (t, db)) ∨
    ∃ t, db.task id = some t ∧ t.status = .pendingApproval ∧
      approveTask db now id = .ok (commanded .approve .approved now t, { db with
        tasks := db.tasks.update (fun s => s.id == t.id) (commanded .approve .approved now)
          (key_commanded .approve .approved now) }) := by
  cases htask : db.task id with
  | none =>
    refine .inl ⟨.taskNotFoundError id, ?_, .inl rfl⟩
    rw [approveTask, applyCommand, lockTask, htask]
    rfl
  | some t =>
    have ht := (task_eq_some_iff.1 htask).1
    have hsound := hdb.sound ht
    cases hstatus : t.status with
    | running | succeeded | failed | cancelled =>
      refine .inl ⟨_, ?_, .inr ⟨t.status, .approve, rfl⟩⟩
      refine bind_eq_error.2 (.inr ⟨t, lockTask_eq_ok.2 htask, ?_⟩)
      rw [hstatus]
      rfl
    | approved =>
      refine .inr (.inl ⟨t, rfl, hstatus, ?_⟩)
      refine bind_eq_ok.2 ⟨t, lockTask_eq_ok.2 htask, ?_⟩
      rw [hstatus]
      rfl
    | pendingApproval =>
      refine .inr (.inr ⟨t, rfl, hstatus, ?_⟩)
      have hrows : ∀ s ∈ db.tasks.rows, (s.id == t.id) = true →
          (commanded .approve .approved now s).Sound := by
        intro s hs hid
        obtain rfl : s = t := Table.eq_of_clashes hs ht (clashes_of_task_id_eq (by simpa using hid))
        exact sound_approved hsound hstatus
      refine bind_eq_ok.2 ⟨t, lockTask_eq_ok.2 htask, ?_⟩
      refine bind_eq_ok.2 ⟨.approved, by rw [hstatus]; rfl, ?_⟩
      rw [if_pos (by simp [hstatus])]
      exact bind_eq_ok.2 ⟨_, updateTasks_eq hrows, rfl⟩

/-- What a cancellation decides for a task in the status `s`. -/
structure Decides (s : TaskStatus) (alreadyRequested : Bool) (d : CancellationDecision) : Prop where
  status : d.newStatus = if s = .running then .running else .cancelled
  request : d.requestCancellation = (s != .cancelled && !alreadyRequested)
  allowed : s ≠ .succeeded ∧ s ≠ .failed

lemma decideCancellation_cases (s : TaskStatus) (alreadyRequested : Bool) :
    (s = .succeeded ∨ s = .failed) ∧
      decideCancellation s alreadyRequested = .error (.invalidTaskTransitionError s .cancel) ∨
    ∃ d, decideCancellation s alreadyRequested = .ok d ∧ Decides s alreadyRequested d := by
  cases s with
  | succeeded => exact .inl ⟨.inl rfl, rfl⟩
  | failed => exact .inl ⟨.inr rfl, rfl⟩
  | pendingApproval | approved | running | cancelled =>
    exact .inr ⟨_, rfl, by simp, by simp, by simp, by simp⟩

lemma sound_cancelled {d : CancellationDecision} (h : t.Sound)
    (hd : Decides t.status t.cancellationRequestedAt.isSome d) : (cancelled d now t).Sound := by
  have hstatus := hd.status
  have hcancelled : (cancelled d now t).status = d.newStatus := rfl
  refine ⟨h.key, h.type, h.input, h.count, h.max, h.within, ?_, ?_, ?_, ?_⟩
  · rw [hcancelled, hstatus]
    split <;> simp
  · by_cases hrun : t.status = .running
    · rw [hcancelled, hstatus, if_pos hrun]
      exact .inl ⟨rfl, h.running hrun⟩
    · rw [hcancelled, hstatus, if_neg hrun]
      exact .inr ⟨by simp, (h.lease.resolve_left fun hr => hrun hr.1).2⟩
  · right
    refine ⟨?_, (h.result.resolve_left fun hok => hd.allowed.1 hok.1).2⟩
    rw [hcancelled, hstatus]
    split <;> simp
  · right
    rw [hcancelled, hstatus]
    split <;> simp

/-- `cancel_task` rejects a task that is over otherwise, leaves alone one whose cancellation has
been requested, and cancels, or marks as to be cancelled, any other. -/
theorem cancelTask_cases (hdb : db.TasksValid) (now : Timestamp) (id : UUID) :
    (cancelTask db now id = .error (.taskNotFoundError id) ∧ db.task id = none) ∨
    (∃ t, db.task id = some t ∧ (t.status = .succeeded ∨ t.status = .failed) ∧
      cancelTask db now id = .error (.invalidTaskTransitionError t.status .cancel)) ∨
    (∃ t, db.task id = some t ∧ (t.status = .cancelled ∨
        t.status = .running ∧ t.cancellationRequestedAt.isSome = true) ∧
      cancelTask db now id = .ok (t, db)) ∨
    ∃ t d, db.task id = some t ∧ Decides t.status t.cancellationRequestedAt.isSome d ∧
      (t.status ≠ .running ∨ t.cancellationRequestedAt = none) ∧ t.status ≠ .cancelled ∧
      cancelTask db now id = .ok (cancelled d now t, { db with
        tasks := db.tasks.update (fun s => s.id == t.id) (cancelled d now)
          (key_cancelled d now) }) := by
  cases htask : db.task id with
  | none =>
    refine .inl ⟨?_, rfl⟩
    rw [cancelTask, lockTask, htask]
    rfl
  | some t =>
    right
    have ht := (task_eq_some_iff.1 htask).1
    have hsound := hdb.sound ht
    rcases decideCancellation_cases t.status t.cancellationRequestedAt.isSome with
      ⟨hover, herror⟩ | ⟨d, hd, hdecides⟩
    · refine .inl ⟨t, rfl, hover, ?_⟩
      refine bind_eq_error.2 (.inr ⟨t, lockTask_eq_ok.2 htask, ?_⟩)
      exact bind_eq_error.2 (.inl herror)
    right
    have hstatus := hdecides.status
    have hrequest := hdecides.request
    by_cases hchanged : d.newStatus ≠ t.status ∨ d.requestCancellation = true
    · right
      have hrows : ∀ s ∈ db.tasks.rows, (s.id == t.id) = true → (cancelled d now s).Sound := by
        intro s hs hid
        obtain rfl : s = t := Table.eq_of_clashes hs ht (clashes_of_task_id_eq (by simpa using hid))
        exact sound_cancelled hsound hdecides
      have hopen : t.status ≠ .cancelled := by
        intro heq
        rw [heq] at hstatus hrequest
        rcases hchanged with hne | hrequested
        · rw [hstatus, heq] at hne
          exact hne rfl
        · rw [hrequest] at hrequested
          cases hrequested
      refine ⟨t, d, rfl, hdecides, ?_, hopen, ?_⟩
      · by_cases hrun : t.status = .running
        · right
          rw [if_pos hrun] at hstatus
          rcases hchanged with hne | hrequested
          · exact absurd (hstatus.trans hrun.symm) hne
          · rw [hrequest, Bool.and_eq_true, Bool.not_eq_true'] at hrequested
            exact Option.isNone_iff_eq_none.1 (Option.isSome_eq_false_iff.1 hrequested.2)
        · exact .inl hrun
      · refine bind_eq_ok.2 ⟨t, lockTask_eq_ok.2 htask, ?_⟩
        refine bind_eq_ok.2 ⟨d, hd, ?_⟩
        rw [if_pos hchanged]
        exact bind_eq_ok.2 ⟨_, updateTasks_eq hrows, rfl⟩
    · refine .inl ⟨t, rfl, ?_, ?_⟩
      · rw [not_or, not_not] at hchanged
        obtain ⟨hsame, hunrequested⟩ := hchanged
        rw [hstatus] at hsame
        rw [hrequest] at hunrequested
        by_cases hrun : t.status = .running
        · refine .inr ⟨hrun, ?_⟩
          simpa [hrun, Option.isSome_iff_ne_none] using hunrequested
        · rw [if_neg hrun] at hsame
          exact .inl hsame.symm
      · refine bind_eq_ok.2 ⟨t, lockTask_eq_ok.2 htask, ?_⟩
        refine bind_eq_ok.2 ⟨d, hd, ?_⟩
        rw [if_neg hchanged]
        rfl

section Create

variable [Runtime]

lemma sound_pendingTask {maximum : ℤ} (hmaximum : 1 ≤ maximum) {request : CreateTaskRequest}
    (haccepted : request.accepted = true) :
    (pendingTask maximum now id request).Sound := by
  simp only [CreateTaskRequest.accepted, Bool.and_eq_true, decide_eq_true_eq] at haccepted
  obtain ⟨⟨⟨hlength, -⟩, htype⟩, hinput⟩ := haccepted
  exact ⟨hlength, htype, hinput, le_rfl, hmaximum,
    by simpa [pendingTask] using Int.le_trans (by decide) hmaximum,
    by simp [pendingTask], .inr ⟨by simp [pendingTask], rfl, rfl, rfl, rfl⟩,
    .inr ⟨by simp [pendingTask], rfl⟩, .inl rfl⟩

/-- `create_task` inserts a task with a new key, and replays or refuses one with a key that is
there. -/
theorem createTask_cases {maximum : ℤ} (hmaximum : 1 ≤ maximum) (now : Timestamp)
    {id : UUID} (hfresh : db.task id = none) {request : CreateTaskRequest}
    (haccepted : request.accepted = true) :
    (∃ t, TaskRepository.getByIdempotencyKey db request.idempotencyKey = some t ∧
      t.requestFingerprint ≠ taskRequestFingerprint request.taskType request.taskInput ∧
      createTask maximum db now id request = .error .idempotencyConflictError) ∨
    (∃ t, TaskRepository.getByIdempotencyKey db request.idempotencyKey = some t ∧
      t.requestFingerprint = taskRequestFingerprint request.taskType request.taskInput ∧
      createTask maximum db now id request = .ok ({ task := t, created := false }, db)) ∨
    (TaskRepository.getByIdempotencyKey db request.idempotencyKey = none ∧
      ∃ tasks, db.tasks.insert (pendingTask maximum now id request) = some tasks ∧
      createTask maximum db now id request =
        .ok ({ task := pendingTask maximum now id request, created := true },
          { db with tasks })) := by
  have hvalid : requireConstraints (pendingTask maximum now id request).checkConstraints =
      .ok () := by
    rw [requireConstraints_eq_ok, Task.sound_iff]
    exact sound_pendingTask hmaximum haccepted
  cases hkey : TaskRepository.getByIdempotencyKey db request.idempotencyKey with
  | some t =>
    have habsent : TaskRepository.insertIfAbsent db (pendingTask maximum now id request) =
        .ok none := by
      refine bind_eq_ok.2 ⟨(), hvalid, ?_⟩
      rw [show (pendingTask maximum now id request).idempotencyKey = request.idempotencyKey from
        rfl, hkey]
      rfl
    by_cases hsame : t.requestFingerprint =
        taskRequestFingerprint request.taskType request.taskInput
    · refine .inr (.inl ⟨t, rfl, hsame, ?_⟩)
      refine bind_eq_ok.2 ⟨none, habsent, ?_⟩
      dsimp only
      rw [hkey]
      dsimp only
      rw [if_neg fun hne => hne hsame]
      rfl
    · refine .inl ⟨t, rfl, hsame, ?_⟩
      refine bind_eq_error.2 (.inr ⟨none, habsent, ?_⟩)
      dsimp only
      rw [hkey]
      dsimp only
      rw [if_pos (show t.requestFingerprint ≠
        (pendingTask maximum now id request).requestFingerprint from hsame)]
      rfl
  | none =>
    refine .inr (.inr ⟨rfl, ?_⟩)
    cases hinsert : db.tasks.insert (pendingTask maximum now id request) with
    | none =>
      obtain ⟨s, hs, hclash⟩ := Table.insert_eq_none_iff.1 hinsert
      simp only [clashes, Bool.or_eq_true, beq_iff_eq] at hclash
      rcases hclash with hid | hunique
      · have := Table.find?_eq_none_iff.1 hfresh s hs
        rw [beq_eq_false_iff_ne] at this
        exact absurd hid this
      · have := Table.find?_eq_none_iff.1 hkey s hs
        rw [beq_eq_false_iff_ne] at this
        exact absurd hunique this
    | some tasks =>
      refine ⟨tasks, rfl, ?_⟩
      refine bind_eq_ok.2 ⟨some (pendingTask maximum now id request, { db with tasks }), ?_, rfl⟩
      refine bind_eq_ok.2 ⟨(), hvalid, ?_⟩
      rw [show (pendingTask maximum now id request).idempotencyKey = request.idempotencyKey from
        rfl, hkey]
      dsimp only
      rw [hinsert]
      rfl

end Create

end DeploymentLab
