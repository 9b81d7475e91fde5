import DeploymentLab.Proofs.Ledger
import DeploymentLab.Proofs.TaskTransactions

/-!
# What an operation does to one task

Seen from one task, an operation either does nothing or is one of the moves of `Change`. These
moves keep a record valid, so every database that a run reaches is valid.
-/

namespace DeploymentLab

open Relational Transactions TaskService WorkerRepository Database

/-- The finalisation that an operation asks for. -/
def Operation.finalization? : Operation → Option Finalization
  | .finalizeSuccess now claim result => some (succeeding now claim result)
  | .scheduleRetry now retryNow claim delay errorCode errorSummary terminalReason =>
    some (retrying now retryNow claim delay errorCode errorSummary terminalReason)
  | .finalizeFailure now claim errorCode errorSummary terminalReason =>
    some (failing now claim errorCode errorSummary terminalReason)
  | .finalizeCancellation now claim => some (cancelling now claim)
  | _ => none

/-- What an operation with its response does to the task `id` and its attempts. -/
inductive Change [Runtime] (settings : CoordinationSettings) (id : UUID) :
    Operation → Response → TaskRecord → TaskRecord → Prop
  | same {op : Operation} {response : Response} {r : TaskRecord}
    (hclaim : ∀ claim, response = .claimed (some claim) → claim.taskId ≠ id) :
    Change settings id op response r r
  | created {timestamp : Timestamp} {request : CreateTaskRequest} {response : Response}
    {attempts : List TaskAttempt} (haccepted : request.accepted = true) :
    Change settings id (.createTask timestamp id request) response ⟨none, attempts⟩
      ⟨some (pendingTask settings.workerDefaultMaxAttempts timestamp id request), attempts⟩
  | approved {now : Timestamp} {response : Response} {t : Task} {attempts : List TaskAttempt}
    (hstatus : t.status = .pendingApproval) :
    Change settings id (.approveTask now id) response ⟨some t, attempts⟩
      ⟨some (commanded .approve .approved now t), attempts⟩
  | cancelled {now : Timestamp} {response : Response} {t : Task} {d : CancellationDecision}
    {attempts : List TaskAttempt}
    (hdecides : Decides t.status t.cancellationRequestedAt.isSome d)
    (hmarker : t.status ≠ .running ∨ t.cancellationRequestedAt = none)
    (hopen : t.status ≠ .cancelled) :
    Change settings id (.cancelTask now id) response ⟨some t, attempts⟩
      ⟨some (cancelled d now t), attempts⟩
  | claimed {dueAt databaseNow : Timestamp} {locked : List UUID} {attemptId : UUID}
    {tokenHash : Digest} {supportedTaskTypes : List String} {workerId : String}
    {leaseDuration : Duration} {t : Task} {attempts : List TaskAttempt}
    (hclaimable : Claimable supportedTaskTypes dueAt t) :
    Change settings id
      (.claimOne dueAt databaseNow locked attemptId tokenHash supportedTaskTypes workerId
        leaseDuration)
      (.claimed (some (claimOf attemptId tokenHash workerId t))) ⟨some t, attempts⟩
      ⟨some (claimedRow tokenHash workerId leaseDuration databaseNow t),
        startedAttempt attemptId tokenHash workerId databaseNow t :: attempts⟩
  | beaten {now : Timestamp} {claim : ClaimedTask} {leaseDuration : Duration}
    {response : Response} {t : Task} {a : TaskAttempt} {older : List TaskAttempt}
    (hfence : Fenced claim now t) (hrunning : RunningAttempt t a) :
    Change settings id (.heartbeat now claim leaseDuration) response ⟨some t, a :: older⟩
      ⟨some (beatenRow leaseDuration now t), beatenAttempt now a :: older⟩
  | finalized {op : Operation} {f : Finalization} {t : Task} {a : TaskAttempt}
    {older : List TaskAttempt} (hop : op.finalization? = some f) (hf : f.WellFormed)
    (hfence : finalizationFence f t = true) (hrunning : RunningAttempt t a) :
    Change settings id op (.finalized .applied) ⟨some t, a :: older⟩
      ⟨some (finalizedRow f.taskValues f.databaseNow t),
        finalizedAttempt f.attemptValues f.databaseNow a :: older⟩
  | recovered {now : Timestamp} {locked : List UUID} {backoff : ℤ → Except String Duration}
    {response : Response} {t : Task} {outcome : Recovery} {a : TaskAttempt}
    {older : List TaskAttempt} (hexpired : expired now t = true)
    (hrecovers : Recovers t now outcome) (hrunning : RunningAttempt t a) :
    Change settings id (.recoverOneExpired now locked backoff) response ⟨some t, a :: older⟩
      ⟨some (recoveredRow outcome now t),
        expiredAttempt t.cancellationRequestedAt.isSome now a :: older⟩

variable {db db' : Database} {id : UUID} {t t' : Task} {a a' : TaskAttempt}
  {older attempts : List TaskAttempt} {now : Timestamp}

namespace TaskRecord.Valid

variable (h : TaskRecord.Valid ⟨some t, attempts⟩)
include h

/-- A new row for a task that keeps its number of attempts, and what its newest attempt says. -/
lemma rewrite (hid : t'.id = t.id) (hcount : t'.attemptCount = t.attemptCount) (hsound : t'.Sound)
    (hcurrent : Current t' attempts) : TaskRecord.Valid ⟨some t', attempts⟩ where
  absent hnone := by cases hnone
  sound s hs := by
    cases hs
    exact hsound
  attempts := h.attempts
  numbered s hs := by
    cases hs
    rw [hcount]
    exact h.numbered t rfl
  current s hs := by
    cases hs
    exact hcurrent
  owned s hs := by
    cases hs
    rw [hid]
    exact h.owned t rfl

/-- The same where the new row agrees with the old one on success and on the lease. -/
lemma rewrite_same (hid : t'.id = t.id) (hcount : t'.attemptCount = t.attemptCount)
    (hsound : t'.Sound) (hrunning : t'.status = .running ↔ t.status = .running)
    (hsucceeded : t'.status = .succeeded ↔ t.status = .succeeded)
    (hworker : t'.workerId = t.workerId) (htoken : t'.leaseTokenHash = t.leaseTokenHash) :
    TaskRecord.Valid ⟨some t', attempts⟩ := by
  refine h.rewrite hid hcount hsound ?_
  have hcurrent := h.current t rfl
  cases attempts with
  | nil => exact ⟨fun hr => hcurrent.1 (hrunning.1 hr), fun hs => hcurrent.2 (hsucceeded.1 hs)⟩
  | cons a older =>
    obtain ⟨hagrees, hclosed⟩ := hcurrent
    refine ⟨⟨hagrees.running.trans hrunning.symm, hagrees.succeeded.trans hsucceeded.symm, ?_, ?_⟩,
      hclosed⟩
    · rw [hworker, hrunning]
      exact hagrees.worker
    · rw [htoken, hrunning]
      exact hagrees.token

end TaskRecord.Valid

/-- The older attempts of a running task are closed. -/
lemma TaskRecord.Valid.closed (h : TaskRecord.Valid ⟨some t, a :: older⟩) :
    ∀ b ∈ older, b.Closed := (h.current t rfl).2

/-- A new row and a new newest attempt of the same number. -/
lemma TaskRecord.Valid.replace (h : TaskRecord.Valid ⟨some t, a :: older⟩) (hid : t'.id = t.id)
    (hcount : t'.attemptCount = t.attemptCount) (hsound : t'.Sound) (htask : a'.taskId = a.taskId)
    (hnumber : a'.attemptNumber = a.attemptNumber) (hattempt : a'.Sound) (hagrees : Agrees t' a') :
    TaskRecord.Valid ⟨some t', a' :: older⟩ where
  absent hnone := by cases hnone
  sound s hs := by
    cases hs
    exact hsound
  attempts b hb := by
    rcases List.mem_cons.1 hb with rfl | hb
    · exact hattempt
    · exact h.attempts b (List.mem_cons_of_mem _ hb)
  numbered s hs := by
    cases hs
    rw [hcount]
    exact (h.numbered t rfl).replace hnumber
  current s hs := by
    cases hs
    exact ⟨hagrees, h.closed⟩
  owned s hs b hb := by
    cases hs
    rw [hid]
    rcases List.mem_cons.1 hb with rfl | hb
    · rw [htask]
      exact h.owned t rfl a List.mem_cons_self
    · exact h.owned t rfl b (List.mem_cons_of_mem _ hb)

variable [Runtime] {settings : CoordinationSettings} {op : Operation} {response : Response}
  {r r' : TaskRecord}

theorem Change.valid (h : Change settings id op response r r') (hr : r.Valid) : r'.Valid := by
  cases h with
  | same => exact hr
  | @created timestamp request response attempts haccepted =>
    have hempty : attempts = [] := hr.absent rfl
    subst hempty
    refine ⟨fun hnone => (by cases hnone), fun s hs => ?_, by simp, fun s hs => ?_, fun s hs => ?_,
      by simp⟩
    · cases hs
      exact sound_pendingTask settings.positive haccepted
    · cases hs
      exact .nil
    · cases hs
      exact ⟨by simp [pendingTask], by simp [pendingTask]⟩
  | @approved now response t attempts hstatus =>
    have hsound := hr.sound t rfl
    refine hr.rewrite_same rfl rfl ?_ (by simp [commanded, hstatus]) (by simp [commanded, hstatus])
      rfl rfl
    exact sound_approved hsound hstatus
  | @cancelled now response t d attempts hdecides hmarker hopen =>
    have hnew : (TaskService.cancelled d now t).status = d.newStatus := rfl
    refine hr.rewrite_same rfl rfl (sound_cancelled (hr.sound t rfl) hdecides) ?_ ?_ rfl rfl
    · rw [hnew, hdecides.status]
      split
      · simp [*]
      · simp [*]
    · rw [hnew, hdecides.status]
      have := hdecides.allowed.1
      split
      · simp [*]
      · simp [*]
  | @claimed dueAt databaseNow locked attemptId tokenHash supported workerId lease t attempts
      hclaimable =>
    have hsound := hr.sound t rfl
    have hcount := hsound.count
    have hcurrent := hr.current t rfl
    refine ⟨fun hnone => (by cases hnone), fun s hs => ?_, fun b hb => ?_, fun s hs => ?_,
      fun s hs => ?_, fun s hs b hb => ?_⟩
    · cases hs
      exact sound_claimedRow hsound hclaimable
    · rcases List.mem_cons.1 hb with rfl | hb
      · exact sound_startedAttempt hsound
      · exact hr.attempts b hb
    · cases hs
      exact .cons rfl (hr.numbered t rfl)
    · cases hs
      refine ⟨⟨by simp [startedAttempt, claimedRow], by simp [startedAttempt, claimedRow],
        fun _ => rfl, fun _ => rfl⟩, fun b hb => ?_⟩
      cases attempts with
      | nil => cases hb
      | cons a older =>
        obtain ⟨hagrees, hclosed⟩ := hcurrent
        rcases List.mem_cons.1 hb with rfl | hb
        · constructor
          · rw [ne_eq, hagrees.running, hclaimable.status]
            simp
          · rw [ne_eq, hagrees.succeeded, hclaimable.status]
            simp
        · exact hclosed b hb
    · cases hs
      rcases List.mem_cons.1 hb with rfl | hb
      · rfl
      · exact hr.owned t rfl b hb
  | @beaten now claim lease response t a older hfence hrunning =>
    have hsound := hr.attempts a List.mem_cons_self
    refine hr.replace rfl rfl (sound_beatenRow (hr.sound t rfl) hfence.status) rfl rfl
      ⟨hsound.number, hsound.finished⟩ ?_
    have hagrees := (hr.current t rfl).1
    exact ⟨hagrees.running, hagrees.succeeded, hagrees.worker, hagrees.token⟩
  | @finalized op f t a older hop hf hfence hrunning =>
    have hsound := hr.attempts a List.mem_cons_self
    refine hr.replace rfl rfl (sound_finalizedRow hf (hr.sound t rfl) hfence) rfl rfl
      ⟨hsound.number, .inr ⟨hf.attempt, rfl⟩⟩ ?_
    refine ⟨iff_of_false hf.attempt hf.status, hf.agrees, fun hrun => ?_, fun hrun => ?_⟩
    · exact absurd hrun hf.status
    · exact absurd hrun hf.status
  | @recovered now locked backoff response t outcome a older hexpired hrecovers hrunning =>
    have hsound := hr.attempts a List.mem_cons_self
    have hnew := sound_recoveredRow (hr.sound t rfl) rfl hrecovers
    have hover : (recoveredRow outcome now t).status ≠ .running ∧
        (recoveredRow outcome now t).status ≠ .succeeded := by
      change outcome.newStatus ≠ .running ∧ outcome.newStatus ≠ .succeeded
      rw [hrecovers.status]
      split
      · simp
      · split <;> simp
    refine hr.replace rfl rfl hnew rfl rfl
      ⟨hsound.number, .inr ⟨by simp [expiredAttempt], rfl⟩⟩ ?_
    refine ⟨iff_of_false (by simp [expiredAttempt]) hover.1,
      iff_of_false (by simp [expiredAttempt]) hover.2, fun hrun => ?_, fun hrun => ?_⟩
    · exact absurd hrun hover.1
    · exact absurd hrun hover.1

/-! ## Every operation is a move -/

namespace Database

omit [Runtime]

lemma map_eq_self {α : Type} {p : α → Bool} {f : α → α} {l : List α}
    (h : ∀ a ∈ l, p a = false) : (l.map fun a => if p a then f a else a) = l := by
  conv_rhs => rw [← List.map_id l]
  refine List.map_congr_left fun a ha => ?_
  simp [h a ha]

lemma task_id_eq {id : UUID} (h : db.task id = some t) : t.id = id := (task_eq_some_iff.1 h).2

/-- The records after the row of one task is rewritten. -/
lemma record_rewriteTask {f : Task → Task} (hf : ∀ t, Keyed.key (f t) = Keyed.key t)
    (ht : t ∈ db.tasks.rows) (id : UUID) :
    ({ db with tasks := db.tasks.update (fun s => s.id == t.id) f hf } : Database).record id =
      if t.id = id then ⟨some (f t), (db.record id).attempts⟩ else db.record id := by
  rw [record_updateTasks]
  split
  · rename_i hid
    subst hid
    simp [task_eq_some_iff.2 ⟨ht, rfl⟩]
  · rename_i hne
    cases htask : db.task id with
    | none => simp [record, htask]
    | some s =>
      have hother : s.id ≠ t.id := by
        rw [task_id_eq htask]
        exact fun heq => hne heq.symm
      simp [record, htask, hother]

/-- The records after the rows of a running task and of its attempt are rewritten. -/
lemma record_rewrite {p : Task → Bool} {f : Task → Task}
    (hf : ∀ t, Keyed.key (f t) = Keyed.key t) {q : TaskAttempt → Bool}
    {g : TaskAttempt → TaskAttempt} (hg : ∀ a, Keyed.key (g a) = Keyed.key a)
    (ht : t ∈ db.tasks.rows) (hp : p t = true) (hponly : ∀ s, p s = true → s.id = t.id)
    (hattempts : (db.record t.id).attempts = a :: older) (hq : q a = true)
    (holder : ∀ b ∈ older, q b = false) (hqonly : ∀ b, q b = true → b.taskId = t.id)
    (id : UUID) :
    ({ db with
      tasks := db.tasks.update p f hf
      taskAttempts := db.taskAttempts.update q g hg } : Database).record id =
      if t.id = id then ⟨some (f t), g a :: older⟩ else db.record id := by
  have hsplit : ({ db with
      tasks := db.tasks.update p f hf
      taskAttempts := db.taskAttempts.update q g hg } : Database).record id =
      ⟨(db.task id).map fun t => if p t then f t else t,
        (db.record id).attempts.map fun a => if q a then g a else a⟩ := by
    have htasks := record_updateTasks db id p hf
    have hrows := record_updateAttempts db id q hg
    simp only [record, TaskRecord.mk.injEq] at htasks hrows ⊢
    exact ⟨htasks.1, hrows.2⟩
  rw [hsplit]
  split
  · rename_i hid
    subst hid
    rw [hattempts, task_eq_some_iff.2 ⟨ht, rfl⟩, List.map_cons, map_eq_self holder]
    simp [hp, hq]
  · rename_i hne
    have hrows : ∀ b ∈ (db.record id).attempts, q b = false := by
      intro b hb
      by_contra hqb
      have hb' := (mem_record_attempts.1 hb).2
      exact hne ((hqonly b (by simpa using hqb)).symm.trans hb')
    rw [map_eq_self hrows]
    cases htask : db.task id with
    | none => simp [record, htask]
    | some s =>
      have hother : p s = false := by
        by_contra hps
        exact hne ((hponly s (by simpa using hps)).symm.trans (task_id_eq htask))
      simp [record, htask, hother]

end Database

lemma same_of_none {r : TaskRecord} (h : ∀ claim, response ≠ .claimed (some claim)) :
    Change settings id op response r r :=
  .same fun claim heq => absurd heq (h claim)

lemma change_createTask {timestamp : Timestamp} {taskId : UUID}
    {request : CreateTaskRequest} (haccepted : request.accepted = true)
    (hfresh : db.task taskId = none)
    (h : (Operation.createTask timestamp taskId request).apply settings db = .ok (response, db'))
    (id : UUID) :
    Change settings id (.createTask timestamp taskId request) response (db.record id)
      (db'.record id) := by
  simp only [Operation.apply, Operation.respond] at h
  rcases createTask_cases settings.positive timestamp hfresh haccepted with
    ⟨t, -, -, heq⟩ | ⟨t, -, -, heq⟩ | ⟨-, tasks, hinsert, heq⟩
  · rw [heq] at h
    cases h
  · rw [heq] at h
    cases h
    exact same_of_none (by simp)
  · rw [heq] at h
    cases h
    rw [record_insertTask hinsert]
    by_cases hid : taskId = id
    · subst hid
      rw [hfresh, Option.none_or,
        if_pos (show (pendingTask _ _ taskId request).id = taskId from rfl)]
      have hrecord : db.record taskId = ⟨none, (db.record taskId).attempts⟩ := by
        simp only [record, hfresh]
      rw [hrecord]
      exact .created haccepted
    · rw [if_neg (show (pendingTask _ _ taskId request).id ≠ id from hid), Option.or_none]
      exact same_of_none (by simp)

lemma change_approveTask (hdb : db.TasksValid) {now : Timestamp} {taskId : UUID}
    (h : (Operation.approveTask now taskId).apply settings db = .ok (response, db')) (id : UUID) :
    Change settings id (.approveTask now taskId) response (db.record id) (db'.record id) := by
  simp only [Operation.apply, Operation.respond] at h
  rcases approveTask_cases hdb now taskId with ⟨x, heq, -⟩ | ⟨t, -, -, heq⟩ | ⟨t, ht, hstatus, heq⟩
  · rw [heq] at h
    cases h
  · rw [heq] at h
    cases h
    exact same_of_none (by simp)
  · rw [heq] at h
    cases h
    obtain ⟨hmem, rfl⟩ := task_eq_some_iff.1 ht
    rw [record_rewriteTask _ hmem]
    split
    · rename_i hid
      subst hid
      rw [show db.record t.id = ⟨some t, (db.record t.id).attempts⟩ by rw [record, ht]]
      exact .approved hstatus
    · exact same_of_none (by simp)

lemma change_cancelTask (hdb : db.TasksValid) {now : Timestamp} {taskId : UUID}
    (h : (Operation.cancelTask now taskId).apply settings db = .ok (response, db')) (id : UUID) :
    Change settings id (.cancelTask now taskId) response (db.record id) (db'.record id) := by
  simp only [Operation.apply, Operation.respond] at h
  rcases cancelTask_cases hdb now taskId with ⟨heq, -⟩ | ⟨t, -, -, heq⟩ | ⟨t, -, -, heq⟩ |
    ⟨t, d, ht, hdecides, hmarker, hopen, heq⟩
  · rw [heq] at h
    cases h
  · rw [heq] at h
    cases h
  · rw [heq] at h
    cases h
    exact same_of_none (by simp)
  · rw [heq] at h
    cases h
    obtain ⟨hmem, rfl⟩ := task_eq_some_iff.1 ht
    rw [record_rewriteTask _ hmem]
    split
    · rename_i hid
      subst hid
      rw [show db.record t.id = ⟨some t, (db.record t.id).attempts⟩ by rw [record, ht]]
      exact .cancelled hdecides hmarker hopen
    · exact same_of_none (by simp)

lemma change_claimOne (hdb : db.TasksValid) {dueAt databaseNow : Timestamp} {locked : List UUID}
    {attemptId : UUID} {tokenHash : Digest} {supportedTaskTypes : List String}
    {workerId : String} {leaseDuration : Duration}
    (hfresh : ∀ a ∈ db.taskAttempts.rows, a.id ≠ attemptId)
    (h : (Operation.claimOne dueAt databaseNow locked attemptId tokenHash supportedTaskTypes
      workerId leaseDuration).apply settings db = .ok (response, db')) (id : UUID) :
    Change settings id (.claimOne dueAt databaseNow locked attemptId tokenHash supportedTaskTypes
      workerId leaseDuration) response (db.record id) (db'.record id) := by
  simp only [Operation.apply, Operation.respond] at h
  rcases claimOne_cases hdb dueAt databaseNow locked hfresh tokenHash supportedTaskTypes workerId
    leaseDuration with heq | ⟨t, ht, hclaimable, taskAttempts, hinsert, heq⟩
  · rw [heq] at h
    cases h
    exact same_of_none (by simp)
  · rw [heq] at h
    cases h
    have hrecord : ({ db with
        tasks := db.tasks.update (fun s => s.id == t.id)
          (claimedRow tokenHash workerId leaseDuration databaseNow)
          (key_claimedRow tokenHash workerId leaseDuration databaseNow)
        taskAttempts } : Database).record id =
        if t.id = id then ⟨some (claimedRow tokenHash workerId leaseDuration databaseNow t),
          startedAttempt attemptId tokenHash workerId databaseNow t :: (db.record id).attempts⟩
        else db.record id := by
      have htasks := record_rewriteTask (key_claimedRow tokenHash workerId leaseDuration
        databaseNow) ht id
      have hrows := record_insertAttempt id hinsert
      simp only [record, TaskRecord.mk.injEq] at htasks hrows ⊢
      rw [hrows.2]
      by_cases hid : t.id = id
      · rw [if_pos hid] at htasks ⊢
        rw [if_pos (show (startedAttempt _ _ _ _ t).taskId = id from hid)]
        simp only [TaskRecord.mk.injEq] at htasks ⊢
        exact ⟨htasks.1, trivial⟩
      · rw [if_neg hid] at htasks ⊢
        rw [if_neg (show (startedAttempt _ _ _ _ t).taskId ≠ id from hid)]
        exact htasks
    rw [hrecord]
    split
    · rename_i hid
      subst hid
      rw [show db.record t.id = ⟨some t, (db.record t.id).attempts⟩ by
        rw [record, task_eq_some_iff.2 ⟨ht, rfl⟩]]
      exact .claimed hclaimable
    · rename_i hne
      refine .same fun claim hclaim => ?_
      cases hclaim
      exact hne

/-- A task found by the fence of a claim is the task of the claim. -/
lemma change_heartbeat (hdb : db.TasksValid) {now : Timestamp} {claim : ClaimedTask}
    {leaseDuration : Duration}
    (h : (Operation.heartbeat now claim leaseDuration).apply settings db = .ok (response, db'))
    (id : UUID) :
    Change settings id (.heartbeat now claim leaseDuration) response (db.record id)
      (db'.record id) := by
  simp only [Operation.apply, Operation.respond, heartbeat_eq hdb] at h
  cases hfind : db.tasks.find? (activeFence claim now) with
  | none =>
    rw [hfind] at h
    cases h
  | some t =>
    rw [hfind] at h
    cases h
    have ht := Table.mem_of_find? hfind
    have hp := Table.pred_of_find? hfind
    have hfence := activeFence_iff.1 hp
    obtain ⟨a, older, hattempts, hrunning, hclosed⟩ := hdb.record_running ht hfence.status
    have hrecord := record_rewrite (key_beatenRow leaseDuration now)
      (key_beatenAttempt now) ht hp
      (fun s hs => (activeFence_iff.1 hs).id.trans hfence.id.symm) hattempts
      (claimedAttempt_of_running hfence hrunning) (claimedAttempt_of_closed hclosed)
      (fun b hb => (claimedAttempt_iff.1 hb).1.trans hfence.id.symm) id
    dsimp only
    rw [show (beaten db now claim leaseDuration).record id = _ from hrecord]
    by_cases hid : t.id = id
    · subst hid
      rw [if_pos rfl, show db.record t.id = ⟨some t, a :: older⟩ by
        rw [← hattempts, record, task_eq_some_iff.2 ⟨ht, rfl⟩]]
      exact .beaten hfence hrunning
    · rw [if_neg hid]
      exact same_of_none (by simp)

lemma change_finalize (hdb : db.TasksValid) {f : Finalization} (hf : f.WellFormed)
    {result : FenceResult} (h : finalize db f = .ok (result, db'))
    (hop : op.finalization? = some f) (id : UUID) :
    Change settings id op (.finalized result) (db.record id) (db'.record id) := by
  rw [finalize_eq hdb hf] at h
  cases hfind : db.tasks.find? (finalizationFence f) with
  | none =>
    rw [hfind] at h
    cases h
    exact same_of_none (by simp)
  | some t =>
    rw [hfind] at h
    cases h
    have ht := Table.mem_of_find? hfind
    have hp := Table.pred_of_find? hfind
    have hfence := (fence_iff.1 hp).1
    obtain ⟨a, older, hattempts, hrunning, hclosed⟩ := hdb.record_running ht hfence.status
    have hrecord := record_rewrite (key_finalizedRow f.taskValues f.databaseNow)
      (key_finalizedAttempt f.attemptValues f.databaseNow) ht hp
      (fun s hs => (fence_iff.1 hs).1.id.trans hfence.id.symm) hattempts
      (claimedAttempt_of_running hfence hrunning) (claimedAttempt_of_closed hclosed)
      (fun b hb => (claimedAttempt_iff.1 hb).1.trans hfence.id.symm) id
    rw [show (finalized db f).record id = _ from hrecord]
    split
    · rename_i hid
      subst hid
      rw [show db.record t.id = ⟨some t, a :: older⟩ by
        rw [← hattempts, record, task_eq_some_iff.2 ⟨ht, rfl⟩]]
      exact .finalized hop hf hp hrunning
    · exact same_of_none (by simp)

lemma change_recoverOneExpired (hdb : db.TasksValid) {now : Timestamp} {locked : List UUID}
    {backoff : ℤ → Except String Duration}
    (h : (Operation.recoverOneExpired now locked backoff).apply settings db = .ok (response, db'))
    (id : UUID) :
    Change settings id (.recoverOneExpired now locked backoff) response (db.record id)
      (db'.record id) := by
  simp only [Operation.apply, Operation.respond] at h
  rcases recoverOneExpired_cases hdb now locked backoff with
    ⟨-, heq⟩ | ⟨t, ht, hexpired, -,
      ⟨message, -, heq⟩ | ⟨tokenHash, outcome, result, htoken, hrecovers, heq⟩⟩
  · rw [heq] at h
    cases h
    exact same_of_none (by simp)
  · rw [heq] at h
    cases h
  · rw [heq] at h
    cases h
    obtain ⟨hstatus, expires, hexpires, hle⟩ := expired_iff.1 hexpired
    obtain ⟨a, older, hattempts, hrunning, hclosed⟩ := hdb.record_running ht hstatus
    have hp : expiredTask t tokenHash now t = true := by
      simp [expiredTask, hstatus, htoken, hexpires, hle]
    have hq : (expiredAddress t tokenHash a && a.status == .running) = true := by
      have hsame := hrunning.token
      rw [htoken] at hsame
      cases hsame
      simp [expiredAddress, hrunning.task, hrunning.number, hrunning.status]
    have hrecord := record_rewrite (q := fun a => expiredAddress t tokenHash a &&
        a.status == .running) (key_recoveredRow outcome now)
      (key_expiredAttempt t.cancellationRequestedAt.isSome now) ht hp
      (fun s hs => by
        simp only [expiredTask, Bool.and_eq_true, beq_iff_eq] at hs
        exact hs.1.1.1.1) hattempts hq
      (fun b hb => by simp [(hclosed b hb).1])
      (fun b hb => by
        simp only [expiredAddress, Bool.and_eq_true, beq_iff_eq] at hb
        exact hb.1.1.1) id
    rw [show (recovered db t tokenHash now outcome).record id = _ from hrecord]
    split
    · rename_i hid
      subst hid
      rw [show db.record t.id = ⟨some t, a :: older⟩ by
        rw [← hattempts, record, task_eq_some_iff.2 ⟨ht, rfl⟩]]
      exact .recovered hexpired hrecovers hrunning
    · exact same_of_none (by simp)

/-- A transaction of the evidence store or of the ledger that commits does so under its fence, if
it takes one, and leaves the tasks and their attempts alone. Only a recording touches evidence. -/
lemma execute_ok {maximumBytes : ℕ} {row history : UUID} {e : Effect} {answer : e.Answer}
    (h : db.execute maximumBytes now row history e = some (.ok answer, db')) :
    (∀ fence, e.fence? = some fence → fence.active now db = true) ∧
      db'.tasks = db.tasks ∧ db'.taskAttempts = db.taskAttempts ∧
        ((∀ request, e ≠ .record request) → db'.sourceArtifacts = db.sourceArtifacts) := by
  have hfenced : ∀ {fence : ExecutionFence}, fence.active now db = true →
      ∀ other, some fence = some other → other.active now db = true := by
    rintro fence hactive other heq
    cases heq
    exact hactive
  cases e with
  | record request =>
    simp only [Database.execute, Option.some.injEq] at h
    cases hrecord : SourceArtifactRepository.record maximumBytes db now row request with
    | error x =>
      rw [hrecord] at h
      cases h
    | ok p =>
      rw [hrecord] at h
      cases h
      obtain ⟨hactive, sourceArtifacts, heq⟩ := SourceArtifactRepository.record_ok hrecord
      rw [heq]
      exact ⟨hfenced hactive, rfl, rfl, fun hne => absurd rfl (hne request)⟩
  | reserveOrGet request =>
    simp only [Database.execute, Option.some.injEq] at h
    cases hreserve : ExternalActionRepository.reserveOrGet db now row history request with
    | error x =>
      rw [hreserve] at h
      cases h
    | ok p =>
      rw [hreserve] at h
      cases h
      obtain ⟨hactive, hcase⟩ := ExternalActionRepository.reserveOrGet_ok hreserve
      have hevidence : SameEvidence db p.2 := by
        rcases hcase with ⟨-, -, hinserts⟩ | ⟨a, -, -, -, -, hrewrites⟩
        · exact hinserts.evidence
        · exact hrewrites.evidence
      exact ⟨hfenced hactive, hevidence.1, hevidence.2.1, fun _ => hevidence.2.2⟩
  | transition request =>
    simp only [Database.execute, Option.some.injEq] at h
    cases htransition : ExternalActionRepository.transition db now history request with
    | error x =>
      rw [htransition] at h
      cases h
    | ok p =>
      rw [htransition] at h
      cases h
      obtain ⟨hactive, a, -, -, -, hrewrites⟩ := ExternalActionRepository.transition_ok htransition
      have hevidence := hrewrites.evidence
      exact ⟨hfenced hactive, hevidence.1, hevidence.2.1, fun _ => hevidence.2.2⟩
  | revise request =>
    simp only [Database.execute, Option.some.injEq] at h
    cases hrevise : ExternalActionRepository.revise db now history request with
    | error x =>
      rw [hrevise] at h
      cases h
    | ok p =>
      rw [hrevise] at h
      cases h
      obtain ⟨hactive, a, -, -, -, -, -, hrewrites⟩ := ExternalActionRepository.revise_ok hrevise
      have hevidence := hrewrites.evidence
      exact ⟨hfenced hactive, hevidence.1, hevidence.2.1, fun _ => hevidence.2.2⟩
  | reconciliationDelaySeconds actionId =>
    simp only [Database.execute, Option.some.injEq] at h
    cases h
    exact ⟨fun fence hfence => (by cases hfence), rfl, rfl, fun _ => rfl⟩
  | fetchRecords | verifyGitHubIdentity | fetchContext | getComment | findCommentsByMarker
  | createComment | updateComment | fetchIssue | verifySlackIdentity | postNotification => cases h

/-- Seen from any task, a committed operation is a move. -/
theorem apply_change (hdb : db.TasksValid) {log : CoordinationLog}
    (henabled : op.enabled log db = true) (h : op.apply settings db = .ok (response, db'))
    (id : UUID) : Change settings id op response (db.record id) (db'.record id) := by
  cases op with
  | createTask timestamp taskId request =>
    rw [Operation.enabled, Bool.and_eq_true, Option.isNone_iff_eq_none] at henabled
    exact change_createTask henabled.1 henabled.2 h id
  | approveTask now taskId => exact change_approveTask hdb h id
  | cancelTask now taskId => exact change_cancelTask hdb h id
  | claimOne dueAt databaseNow locked attemptId tokenHash supported workerId lease =>
    rw [Operation.enabled, List.all_eq_true] at henabled
    exact change_claimOne hdb (fun a ha => by simpa using henabled a ha) h id
  | heartbeat now claim lease => exact change_heartbeat hdb h id
  | finalizeSuccess now claim result =>
    rw [Operation.enabled, Bool.and_eq_true] at henabled
    obtain ⟨result, hfinal, rfl⟩ := Operation.respond_eq_ok.1 h
    exact change_finalize hdb (succeeding_wellFormed henabled.2) hfinal rfl id
  | scheduleRetry now retryNow claim delay code summary reason =>
    obtain ⟨result, hfinal, rfl⟩ := Operation.respond_eq_ok.1 h
    exact change_finalize hdb retrying_wellFormed hfinal rfl id
  | finalizeFailure now claim code summary reason =>
    obtain ⟨result, hfinal, rfl⟩ := Operation.respond_eq_ok.1 h
    exact change_finalize hdb failing_wellFormed hfinal rfl id
  | finalizeCancellation now claim =>
    obtain ⟨result, hfinal, rfl⟩ := Operation.respond_eq_ok.1 h
    exact change_finalize hdb cancelling_wellFormed hfinal rfl id
  | recoverOneExpired now locked backoff => exact change_recoverOneExpired hdb h id
  | ledger now row history e =>
    simp only [Operation.apply] at h
    split at h
    · rename_i answer db₁ hexecute
      cases h
      obtain ⟨-, htasks, hattempts, -⟩ := execute_ok hexecute
      have hsame : db'.record id = db.record id := by
        simp only [record, task, htasks, hattempts]
      rw [hsame]
      exact same_of_none (by simp)
    · cases h
    · cases h

theorem apply_valid (hdb : db.TasksValid) {log : CoordinationLog}
    (henabled : op.enabled log db = true) (h : op.apply settings db = .ok (response, db')) :
    db'.TasksValid :=
  ⟨fun id => (apply_change hdb henabled h id).valid (hdb.record id)⟩

end DeploymentLab
