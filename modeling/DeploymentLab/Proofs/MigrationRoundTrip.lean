import DeploymentLab.Model.Migrations
import DeploymentLab.Proofs.TaskInvariant

/-!
# Upgrading and downgrading the table of tasks

The updates of revision 0003 give every row that revision 0002 accepts what the new constraints
ask for, but for the result of a task that has succeeded: the upgrade takes place exactly where
there is no such row, also after a downgrade, which drops the results.
-/

namespace DeploymentLab

open Relational Transactions Database

namespace Revision0003

open Revision0002

variable {now : Readings} {old : Tasks} {db : Database} {r : TaskRow} {t : Task}

/-- What the two updates make of a row with the new columns. -/
def updatedRow (now : Readings) (t : Task) : Task :=
  let t := if t.status == .running then returnToQueue now t else t
  if t.status == .approved && t.availableAt.isNone then fillAvailableAt now t else t

/-- The table once its columns are added and its rows returned to the queue. -/
def returnedTasks (now : Readings) (old : Tasks) : Table Task :=
  (old.table.alter addColumns clashes_addColumns).update (fun t => t.status == .running)
    (returnToQueue now) (key_returnToQueue now)

/-- The table after both updates. -/
def updatedTasks (now : Readings) (old : Tasks) : Table Task :=
  (returnedTasks now old).update (fun t => t.status == .approved && t.availableAt.isNone)
    (fillAvailableAt now) (key_fillAvailableAt now)

lemma rows_updatedTasks :
    (updatedTasks now old).rows = old.table.rows.map fun r => updatedRow now (addColumns r) := by
  rw [updatedTasks, Table.rows_update, returnedTasks, Table.rows_update, Table.alter,
    List.map_map, List.map_map]
  rfl

/-- The constraints of revision 0002 read no column that the updates set. -/
lemma constraints_returned {t : Task} (ht : t ∈ (returnedTasks now old).rows) :
    ∀ c ∈ (dropColumns t).checkConstraints, c.2 = true := by
  rw [returnedTasks, Table.rows_update, Table.alter, List.map_map] at ht
  obtain ⟨r, hr, rfl⟩ := List.mem_map.1 ht
  have hsame : (dropColumns (if (addColumns r).status == .running
      then returnToQueue now (addColumns r) else addColumns r)).checkConstraints =
      r.checkConstraints := by
    split <;> rfl
  exact hsame ▸ old.constraints r hr

lemma updateRows_eq {p : Task → Bool} {f : Task → Task} {hf : ∀ t, Keyed.key (f t) = Keyed.key t}
    {tasks : Table Task}
    (h : ∀ t ∈ tasks.rows, ∀ c ∈ (dropColumns (f t)).checkConstraints, c.2 = true) :
    updateRows p f hf tasks = .ok (tasks.update p f hf) := by
  refine bind_eq_ok.2 ⟨(), requireConstraints_eq_ok.2 fun c hc => ?_, rfl⟩
  obtain ⟨t, ht, hc⟩ := List.mem_flatMap.1 hc
  exact h t (List.mem_filter.1 ht).1 c hc

/-- The updates take place, and what is left is the creation of the constraints. -/
lemma upgrade_eq : upgrade now old = (do
    createCheckConstraints (updatedTasks now old) addedConstraints
    pure { tasks := updatedTasks now old }) := by
  have hreturn : updateRows (fun t => t.status == .running) (returnToQueue now)
      (key_returnToQueue now) (old.table.alter addColumns clashes_addColumns) =
      .ok (returnedTasks now old) := by
    refine updateRows_eq fun t ht => ?_
    obtain ⟨r, hr, rfl⟩ := List.mem_map.1 ht
    exact old.constraints r hr
  have hfill : updateRows (fun t => t.status == .approved && t.availableAt.isNone)
      (fillAvailableAt now) (key_fillAvailableAt now) (returnedTasks now old) =
      .ok (updatedTasks now old) := by
    refine updateRows_eq fun t ht => ?_
    change ∀ c ∈ (dropColumns t).checkConstraints, c.2 = true
    exact constraints_returned ht
  unfold upgrade
  dsimp only
  rw [hreturn]
  change (updateRows _ _ _ (returnedTasks now old) >>= _) = _
  rw [hfill]
  rfl

/-- The updated row meets every new constraint, but for the result of a success. -/
lemma addedConstraints_updatedRow (now : Readings) (r : TaskRow) :
    ∀ c ∈ addedConstraints, c.2 (updatedRow now (addColumns r)) = true ↔
      (c.1 = "ck_tasks_result_state" → r.status ≠ .succeeded) := by
  intro c hc
  simp only [addedConstraints, List.mem_cons, List.not_mem_nil, or_false] at hc
  rcases hc with rfl | rfl | rfl | rfl | rfl | rfl | rfl <;> cases hstatus : r.status <;>
    simp [updatedRow, addColumns, returnToQueue, fillAvailableAt, hstatus]

lemma createCheckConstraints_eq_ok {tasks : Table Task}
    {constraints : List (String × (Task → Bool))} :
    createCheckConstraints tasks constraints = .ok () ↔
      ∀ c ∈ constraints, ∀ t ∈ tasks.rows, c.2 t = true := by
  induction constraints with
  | nil => simp [createCheckConstraints]
  | cons c constraints ih =>
    obtain ⟨name, check⟩ := c
    have hhead : createCheckConstraint tasks name check = .ok () ↔
        ∀ t ∈ tasks.rows, check t = true := by
      unfold createCheckConstraint
      split <;> simp_all
    rw [createCheckConstraints, bind_eq_ok, List.forall_mem_cons]
    constructor
    · rintro ⟨⟨⟩, hok, hrest⟩
      exact ⟨hhead.1 hok, ih.1 hrest⟩
    · rintro ⟨hok, hrest⟩
      exact ⟨(), hhead.2 hok, ih.2 hrest⟩

/-- The first constraint that is not met stops the creation. -/
lemma createCheckConstraints_append {tasks : Table Task} {name : String} {check : Task → Bool}
    {before after : List (String × (Task → Bool))}
    (hbefore : ∀ c ∈ before, ∀ t ∈ tasks.rows, c.2 t = true)
    (hunmet : ∃ t ∈ tasks.rows, check t = false) :
    createCheckConstraints tasks (before ++ (name, check) :: after) =
      .error (.integrityError name) := by
  induction before with
  | nil =>
    obtain ⟨t, ht, hfalse⟩ := hunmet
    refine bind_eq_error.2 (.inl ?_)
    rw [createCheckConstraint, if_neg]
    intro hall
    rw [List.all_eq_true.1 hall t ht] at hfalse
    cases hfalse
  | cons c before ih =>
    obtain ⟨name', check'⟩ := c
    rw [List.forall_mem_cons] at hbefore
    refine bind_eq_error.2 (.inr ⟨(), ?_, ih hbefore.2⟩)
    rw [createCheckConstraint, if_pos (List.all_eq_true.2 hbefore.1)]

/-- Every row but that of a success meets the constraints. -/
lemma upgrade_ok (h : ∀ r ∈ old.table.rows, r.status ≠ .succeeded) :
    upgrade now old = .ok { tasks := updatedTasks now old } := by
  rw [upgrade_eq]
  refine bind_eq_ok.2 ⟨(), createCheckConstraints_eq_ok.2 fun c hc t ht => ?_, rfl⟩
  rw [rows_updatedTasks] at ht
  obtain ⟨r, hr, rfl⟩ := List.mem_map.1 ht
  exact (addedConstraints_updatedRow now r c hc).2 fun _ => h r hr

/-- A success is left without a result. -/
lemma upgrade_error (h : ∃ r ∈ old.table.rows, r.status = .succeeded) :
    upgrade now old = .error (.integrityError "ck_tasks_result_state") := by
  have hsplit : ∃ before check after,
      addedConstraints = before ++ ("ck_tasks_result_state", check) :: after ∧
        ∀ c ∈ before, c.1 ≠ "ck_tasks_result_state" :=
    ⟨addedConstraints.take 5, _, addedConstraints.drop 6, rfl, by decide⟩
  obtain ⟨before, check, after, hadded, hnames⟩ := hsplit
  have hrow := addedConstraints_updatedRow now
  rw [upgrade_eq]
  refine bind_eq_error.2 (.inl ?_)
  rw [hadded] at hrow ⊢
  refine createCheckConstraints_append (fun c hc t ht => ?_) ?_
  · rw [rows_updatedTasks] at ht
    obtain ⟨r, hr, rfl⟩ := List.mem_map.1 ht
    exact (hrow r c (List.mem_append_left _ hc)).2 fun hname => absurd hname (hnames c hc)
  · obtain ⟨r, hr, hstatus⟩ := h
    refine ⟨updatedRow now (addColumns r), ?_, ?_⟩
    · rw [rows_updatedTasks]
      exact List.mem_map_of_mem hr
    · rw [Bool.eq_false_iff]
      intro htrue
      exact (hrow r _ (List.mem_append_right _ List.mem_cons_self)).1 htrue rfl hstatus

/-- The upgrade takes place exactly where no task has succeeded. -/
theorem upgrade_succeeds_iff :
    (∃ db, upgrade now old = .ok db) ↔ ∀ r ∈ old.table.rows, r.status ≠ .succeeded := by
  constructor
  · rintro ⟨db, hok⟩ r hr hstatus
    rw [upgrade_error ⟨r, hr, hstatus⟩] at hok
    cases hok
  · intro h
    exact ⟨_, upgrade_ok h⟩

end Revision0003

open Revision0002 Revision0003

/-- The upgrade takes place exactly where no task has succeeded: on whatever revision 0002
accepts, and on what a downgrade makes of whatever a run has left. -/
theorem migration_round_trip [Runtime] :
    (∀ (now : Readings) (old : Tasks), (∃ db, upgrade now old = .ok db) ↔
      ∀ r ∈ old.table.rows, r.status ≠ .succeeded) ∧
    ∀ (settings : CoordinationSettings) (ops : List Operation) (c : CoordinationConfig),
      (coordination settings).run emptyCoordination ops = some c →
      ∃ hconstraints, ∀ now : Readings,
        (∃ db, upgrade now (downgrade c.state hconstraints) = .ok db) ↔
          ∀ t ∈ c.state.tasks.rows, t.status ≠ .succeeded := by
  refine ⟨fun now old => upgrade_succeeds_iff, fun settings ops c hrun => ?_⟩
  have hvalid := (coordinated_run hrun).valid
  refine ⟨fun t ht => Task.sound_iff.2 (hvalid.sound ht), fun now => ?_⟩
  rw [upgrade_succeeds_iff]
  constructor
  · intro h t ht
    exact h (dropColumns t) (List.mem_map_of_mem ht)
  · intro h r hr
    obtain ⟨t, ht, rfl⟩ := List.mem_map.1 hr
    exact h t ht

namespace Sample

/-- Worker `a` does the task. -/
def doneOnce : List Operation :=
  [.createTask 0 1 taskRequest, .approveTask 1 1, claimTask 2 1 "a",
    .finalizeSuccess 3 (taskClaim 1 "a") (.dict [])]

end Sample

section

open Sample

attribute [local instance] taskHost

theorem migration_round_trip_expiredThenCancelled : ∃ c,
    runTasks expiredThenCancelled = some c ∧ ∃ hconstraints, ∀ now : Readings,
      (∃ db, upgrade now (downgrade c.state hconstraints) = .ok db) ↔
        ∀ t ∈ c.state.tasks.rows, t.status ≠ .succeeded := by
  have hrun : (runTasks expiredThenCancelled).isSome = true := by decide +kernel
  obtain ⟨c, hc⟩ := Option.isSome_iff_exists.1 hrun
  exact ⟨c, hc, migration_round_trip.2 {} expiredThenCancelled c hc⟩

/-- After one task has succeeded, a downgrade cannot be undone. -/
theorem upgrade_fails_doneOnce : ∃ c, runTasks doneOnce = some c ∧ ∃ hconstraints,
    ∀ now : Readings, upgrade now (downgrade c.state hconstraints) =
      .error (.integrityError "ck_tasks_result_state") := by
  have hrun : (runTasks doneOnce).any (fun c =>
      c.state.tasks.rows.any fun t => t.status == .succeeded) = true := by decide +kernel
  simp only [Option.any_eq_true, List.any_eq_true, beq_iff_eq] at hrun
  obtain ⟨c, hc, t, ht, hstatus⟩ := hrun
  have hvalid := (coordinated_run hc).valid
  refine ⟨c, hc, fun t ht => Task.sound_iff.2 (hvalid.sound ht), fun now => ?_⟩
  exact upgrade_error ⟨dropColumns t, List.mem_map_of_mem ht, hstatus⟩

end

end DeploymentLab
