import DeploymentLab.Model.Coordination

/-!
# One task with its attempts

The two tables of the workers seen from one task: its row and its attempts, newest first. The
constraints of the rows and the numbering of the attempts are an invariant of such a record, and
a database is valid when every record is.
-/

namespace DeploymentLab

open Relational WorkerRepository

/-- The constraints of a task as facts. -/
structure Task.Sound (t : Task) : Prop where
  key : 1 ≤ t.idempotencyKey.length ∧ t.idempotencyKey.length ≤ 255
  type : taskTypePattern t.taskType = true
  input : t.taskInput.isDict = true
  count : 0 ≤ t.attemptCount
  max : 1 ≤ t.maxAttempts
  within : t.attemptCount ≤ t.maxAttempts
  available : t.status = .approved → t.availableAt.isSome = true
  lease : (t.status = .running ∧ t.workerId.isSome = true ∧ t.leaseTokenHash.isSome = true ∧
      t.leaseExpiresAt.isSome = true ∧ t.lastHeartbeatAt.isSome = true ∧ 0 < t.attemptCount) ∨
    (t.status ≠ .running ∧ t.workerId = none ∧ t.leaseTokenHash = none ∧
      t.leaseExpiresAt = none ∧ t.lastHeartbeatAt = none)
  result : (t.status = .succeeded ∧ t.result.any JsonValue.isDict = true) ∨
    (t.status ≠ .succeeded ∧ t.result = none)
  cancellation : t.cancellationRequestedAt = none ∨ t.status = .running ∨ t.status = .cancelled

lemma Task.sound_iff {t : Task} : (∀ c ∈ t.checkConstraints, c.2 = true) ↔ t.Sound := by
  simp only [Task.checkConstraints, List.forall_mem_cons, List.not_mem_nil, false_implies,
    implies_true, and_true, decide_eq_true_eq, Bool.or_eq_true, Bool.and_eq_true, bne_iff_ne,
    beq_iff_eq, Option.isNone_iff_eq_none, and_assoc, or_assoc]
  constructor
  · rintro ⟨h₁, h₁', h₂, h₃, h₄, h₅, h₆, h₇, h₈, h₉, h₁₀⟩
    exact ⟨⟨h₁, h₁'⟩, h₂, h₃, h₄, h₅, h₆, fun h => h₇.resolve_left fun hne => hne h, h₈, h₉, h₁₀⟩
  · rintro ⟨⟨h₁, h₁'⟩, h₂, h₃, h₄, h₅, h₆, h₇, h₈, h₉, h₁₀⟩
    refine ⟨h₁, h₁', h₂, h₃, h₄, h₅, h₆, ?_, h₈, h₉, h₁₀⟩
    by_cases h : t.status = .approved
    · exact .inr (h₇ h)
    · exact .inl h

lemma Task.Sound.running {t : Task} (h : t.Sound) (hstatus : t.status = .running) :
    t.workerId.isSome = true ∧ t.leaseTokenHash.isSome = true ∧ t.leaseExpiresAt.isSome = true ∧
      t.lastHeartbeatAt.isSome = true ∧ 0 < t.attemptCount :=
  (h.lease.resolve_right fun hidle => hidle.1 hstatus).2

/-- The constraints of an attempt as facts. -/
structure TaskAttempt.Sound (a : TaskAttempt) : Prop where
  number : 0 < a.attemptNumber
  finished : (a.status = .running ∧ a.finishedAt = none) ∨
    (a.status ≠ .running ∧ a.finishedAt.isSome = true)

lemma TaskAttempt.sound_iff {a : TaskAttempt} :
    (∀ c ∈ a.checkConstraints, c.2 = true) ↔ a.Sound := by
  simp only [TaskAttempt.checkConstraints, List.forall_mem_cons, List.not_mem_nil, false_implies,
    implies_true, and_true, decide_eq_true_eq, Bool.or_eq_true, Bool.and_eq_true, bne_iff_ne,
    beq_iff_eq, Option.isNone_iff_eq_none]
  exact ⟨fun h => ⟨h.1, h.2⟩, fun h => ⟨h.number, h.finished⟩⟩

/-- The attempts are numbered down from `n` to 1. -/
inductive Numbered : ℤ → List TaskAttempt → Prop
  | nil : Numbered 0 []
  | cons {n : ℤ} {a : TaskAttempt} {older : List TaskAttempt} (hnumber : a.attemptNumber = n + 1)
    (holder : Numbered n older) : Numbered (n + 1) (a :: older)

namespace Numbered

variable {n : ℤ} {attempts : List TaskAttempt}

lemma nonneg (h : Numbered n attempts) : 0 ≤ n := by
  induction h with
  | nil => exact le_rfl
  | cons _ _ ih => omega

lemma head {a : TaskAttempt} {older : List TaskAttempt} (h : Numbered n (a :: older)) :
    a.attemptNumber = n := by
  cases h with
  | cons hnumber _ => exact hnumber

/-- A new head with the number of the old one. -/
lemma replace {a a' : TaskAttempt} {older : List TaskAttempt} (h : Numbered n (a :: older))
    (hnumber : a'.attemptNumber = a.attemptNumber) : Numbered n (a' :: older) := by
  cases h with
  | cons hold holder => exact .cons (hnumber.trans hold) holder

lemma mem_bounds (h : Numbered n attempts) {a : TaskAttempt} (ha : a ∈ attempts) :
    1 ≤ a.attemptNumber ∧ a.attemptNumber ≤ n := by
  induction h with
  | nil => cases ha
  | cons hnumber holder ih =>
    have := holder.nonneg
    rcases List.mem_cons.1 ha with rfl | ha
    · omega
    · have := ih ha
      omega

lemma exists_mem (h : Numbered n attempts) {k : ℤ} (h₁ : 1 ≤ k) (hk : k ≤ n) :
    ∃ a ∈ attempts, a.attemptNumber = k := by
  induction h with
  | nil => omega
  | @cons n a older hnumber holder ih =>
    by_cases heq : k = n + 1
    · exact ⟨a, List.mem_cons_self, hnumber.trans heq.symm⟩
    · obtain ⟨b, hb, hbk⟩ := ih (by omega)
      exact ⟨b, List.mem_cons_of_mem _ hb, hbk⟩

end Numbered

/-- A task and its attempts, newest first. -/
structure TaskRecord where
  task : Option Task
  attempts : List TaskAttempt

/-- The newest attempt `a` and the task agree on whether the attempt runs and has succeeded. -/
structure Agrees (t : Task) (a : TaskAttempt) : Prop where
  running : a.status = .running ↔ t.status = .running
  succeeded : a.status = .succeeded ↔ t.status = .succeeded
  worker : t.status = .running → t.workerId = some a.workerId
  token : t.status = .running → t.leaseTokenHash = some a.leaseTokenHash

/-- An attempt that is over without success. -/
def TaskAttempt.Closed (a : TaskAttempt) : Prop := a.status ≠ .running ∧ a.status ≠ .succeeded

/-- What the newest attempt says of the task, where there is one. -/
def Current (t : Task) : List TaskAttempt → Prop
  | [] => t.status ≠ .running ∧ t.status ≠ .succeeded
  | a :: older => Agrees t a ∧ ∀ b ∈ older, b.Closed

structure TaskRecord.Valid (r : TaskRecord) : Prop where
  absent : r.task = none → r.attempts = []
  sound : ∀ t, r.task = some t → t.Sound
  attempts : ∀ a ∈ r.attempts, a.Sound
  numbered : ∀ t, r.task = some t → Numbered t.attemptCount r.attempts
  current : ∀ t, r.task = some t → Current t r.attempts
  owned : ∀ t, r.task = some t → ∀ a ∈ r.attempts, a.taskId = t.id

namespace Database

variable {db : Database} {id : UUID} {t : Task} {a : TaskAttempt}

def record (db : Database) (id : UUID) : TaskRecord where
  task := db.task id
  attempts := (db.taskAttempts.rows.filter fun a => a.taskId == id).reverse

structure TasksValid (db : Database) : Prop where
  record : ∀ id, (db.record id).Valid

lemma clashes_of_task_id_eq {s t : Task} (h : s.id = t.id) : clashes s t = true := by
  simp [clashes, Keyed.id, h]

lemma task_eq_some_iff : db.task id = some t ↔ t ∈ db.tasks.rows ∧ t.id = id := by
  constructor
  · intro h
    exact ⟨Table.mem_of_find? h, by simpa using Table.pred_of_find? h⟩
  · rintro ⟨hmem, rfl⟩
    exact Table.find?_eq_some_of_mem hmem (by simp) fun s hs =>
      clashes_of_task_id_eq (by simpa using Eq.symm (by simpa using hs))

lemma mem_record_attempts :
    a ∈ (db.record id).attempts ↔ a ∈ db.taskAttempts.rows ∧ a.taskId = id := by
  simp [record]

lemma record_task (h : t ∈ db.tasks.rows) : (db.record t.id).task = some t :=
  task_eq_some_iff.2 ⟨h, rfl⟩

/-- The record of a task after the rows that `p` selects, of that task at most, are updated. -/
lemma record_updateTasks (db : Database) (id : UUID) (p : Task → Bool) {f : Task → Task}
    (hf : ∀ t, Keyed.key (f t) = Keyed.key t) :
    ({ db with tasks := db.tasks.update p f hf } : Database).record id =
      ⟨(db.task id).map fun t => if p t then f t else t, (db.record id).attempts⟩ := by
  have hid : ∀ t : Task, (f t).id = t.id := fun t => congrArg Prod.fst (hf t)
  simp only [record, task]
  rw [Table.find?_update]
  · intro t
    simp [hid]

lemma record_updateAttempts (db : Database) (id : UUID) (p : TaskAttempt → Bool)
    {f : TaskAttempt → TaskAttempt} (hf : ∀ a, Keyed.key (f a) = Keyed.key a) :
    ({ db with taskAttempts := db.taskAttempts.update p f hf } : Database).record id =
      ⟨db.task id, (db.record id).attempts.map fun a => if p a then f a else a⟩ := by
  have htask : ∀ a : TaskAttempt, (if p a then f a else a).taskId = a.taskId := by
    intro a
    split
    · have hunique : ((f a).taskId, (f a).attemptNumber) = (a.taskId, a.attemptNumber) :=
        congrArg Prod.snd (hf a)
      exact congrArg Prod.fst hunique
    · rfl
  simp only [record, task, Table.rows_update, List.map_reverse, List.filter_map]
  congr 3
  refine List.filter_congr fun a _ => ?_
  simp [htask]

lemma record_insertTask {tasks : Table Task} (h : db.tasks.insert t = some tasks) :
    ({ db with tasks } : Database).record id =
      ⟨(db.task id).or (if t.id = id then some t else none), (db.record id).attempts⟩ := by
  simp only [record, task]
  rw [Table.find?_insert h]
  simp

lemma record_insertAttempt (id : UUID) {taskAttempts : Table TaskAttempt}
    (h : db.taskAttempts.insert a = some taskAttempts) :
    ({ db with taskAttempts } : Database).record id =
      ⟨db.task id, if a.taskId = id then a :: (db.record id).attempts
        else (db.record id).attempts⟩ := by
  simp only [record, task, Table.rows_insert h, List.filter_append]
  split
  · rename_i heq
    simp [heq]
  · rename_i hne
    simp [hne]

end Database

end DeploymentLab
