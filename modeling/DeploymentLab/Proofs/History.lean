import Mathlib.Data.List.Chain
import DeploymentLab.Proofs.Footprint
import DeploymentLab.Proofs.ScopeTrace

/-!
# The history of the external actions

Every committed call of the ledger appends one row to the history of one action, and no call is
refused by a constraint. The rows of an action therefore form a chain that ends in its present
status and revision (`Chronicle`).
-/

namespace DeploymentLab

open Interaction Relational Database ExternalActionRepository

variable {db db' db₁ : Database} {a a' : ExternalAction} {now : Timestamp} {attemptId : UUID}

/-- The row that `transition` appends for the action `a`. -/
def transitionRow (attemptId : UUID) (request : TransitionRequest) (a : ExternalAction) :
    ExternalActionAttempt where
  id := attemptId
  externalActionId := a.id
  taskId := request.fence.taskId
  taskAttemptId := request.fence.attemptId
  sequenceNumber := a.actionAttemptCount + 1
  transition := request.transition
  previousStatus := some a.status
  newStatus := request.newStatus
  revision := a.revision
  errorCode := request.errorCode

/-- The row that `revise` appends for the action `a`. -/
def revisionRow (attemptId : UUID) (request : RevisionRequest) (a : ExternalAction) :
    ExternalActionAttempt where
  id := attemptId
  externalActionId := a.id
  taskId := request.fence.taskId
  taskAttemptId := request.fence.attemptId
  sequenceNumber := a.actionAttemptCount + 1
  transition := "revision_reserved"
  previousStatus := some .succeeded
  newStatus := .reserved
  revision := request.expectedRevision + 1
  errorCode := none

/-- The row that a reservation appends for an action `a` that it finds. -/
def replayRow (attemptId : UUID) (request : ReservationRequest) (a : ExternalAction) :
    ExternalActionAttempt where
  id := attemptId
  externalActionId := a.id
  taskId := request.fence.taskId
  taskAttemptId := request.fence.attemptId
  sequenceNumber := a.actionAttemptCount + 1
  transition := "reservation_" ++ (reservationKind request a).value
  previousStatus := some a.status
  newStatus := a.status
  revision := a.revision
  errorCode := none

/-- The row that a reservation appends for the action that it creates. -/
def reservedRow (actionId attemptId : UUID) (request : ReservationRequest) :
    ExternalActionAttempt where
  id := attemptId
  externalActionId := actionId
  taskId := request.fence.taskId
  taskAttemptId := request.fence.attemptId
  sequenceNumber := 1
  transition := "reserved"
  previousStatus := none
  newStatus := .reserved
  revision := 1
  errorCode := none

/-- `db'` has the rows of history of `db` and one more. -/
def Appends (db db' : Database) (row : ExternalActionAttempt) : Prop :=
  db'.externalActionAttempts.rows = db.externalActionAttempts.rows ++ [row]

lemma appends_of_update {p : ExternalAction → Bool} {f : ExternalAction → ExternalAction}
    {hf : ∀ a, Keyed.key (f a) = Keyed.key a} {n : ℕ} {row : ExternalActionAttempt}
    (hupdate : updateActions db p f hf = .ok (n, db₁)) (happend : appendAttempt db₁ row = .ok db') :
    Appends db db' row := by
  obtain ⟨-, rfl, -⟩ := updateActions_ok hupdate
  obtain ⟨rows, hrows, rfl⟩ := appendAttempt_ok happend
  exact Table.rows_insert hrows

lemma transition_appends {request : TransitionRequest}
    (h : transition db now attemptId request = .ok (a', db'))
    (ha : db.action request.actionId = some a) :
    Appends db db' (transitionRow attemptId request a) := by
  simp only [transition, lockAction_eq_ok.2 ha, bind, Except.bind, throw, throwThe,
    MonadExceptOf.throw, pure, Except.pure] at h
  split at h
  · cases h
  split at h
  · cases h
  split at h
  · cases h
  split at h
  · cases h
  split at h
  · cases h
  rename_i updated hupdate
  split at h
  · cases h
  split at h
  · cases h
  rename_i db₂ happend
  split at h
  · cases h
  cases h
  exact appends_of_update hupdate happend

lemma revise_appends {request : RevisionRequest}
    (h : revise db now attemptId request = .ok (a', db'))
    (ha : db.action request.actionId = some a) :
    Appends db db' (revisionRow attemptId request a) := by
  simp only [revise, lockAction_eq_ok.2 ha, bind, Except.bind, throw, throwThe,
    MonadExceptOf.throw, pure, Except.pure] at h
  split at h
  · cases h
  split at h
  · cases h
  split at h
  · cases h
  rename_i updated hupdate
  split at h
  · cases h
  split at h
  · cases h
  rename_i db₂ happend
  split at h
  · cases h
  cases h
  exact appends_of_update hupdate happend

lemma appendSameStatus_appends {fence : ExecutionFence} {name : String}
    (h : appendSameStatus db now attemptId a fence name = .ok db') :
    Appends db db' {
      id := attemptId
      externalActionId := a.id
      taskId := fence.taskId
      taskAttemptId := fence.attemptId
      sequenceNumber := a.actionAttemptCount + 1
      transition := name
      previousStatus := some a.status
      newStatus := a.status
      revision := a.revision
      errorCode := none } := by
  simp only [appendSameStatus, bind, Except.bind] at h
  split at h
  · cases h
  rename_i updated hupdate
  split at h
  · cases h
  exact appends_of_update hupdate h

lemma reserveOrGet_appends {actionId : UUID} {request : ReservationRequest}
    {reservation : ActionReservation}
    (h : reserveOrGet db now actionId attemptId request = .ok (reservation, db')) :
    Appends db db' (match db.actionAt request.actionScopeKey with
      | none => reservedRow actionId attemptId request
      | some a => replayRow attemptId request a) := by
  simp only [reserveOrGet, bind, Except.bind, throw, throwThe, MonadExceptOf.throw, pure,
    Except.pure] at h
  split at h
  · cases h
  split at h
  · cases h
  cases hat : db.actionAt request.actionScopeKey with
  | none =>
    rw [hat] at h
    dsimp only at h ⊢
    split at h
    · cases h
    split at h
    · cases h
    rename_i rows hinsert
    split at h
    · cases h
    rename_i b hlock
    split at h
    · cases h
    rename_i db₂ happend
    cases h
    have hb : b = reservedAction now actionId request := by
      rw [lockAction_eq_ok, action_eq_some_iff, Table.rows_insert hinsert] at hlock
      exact Table.eq_of_clashes (t := rows) (by rw [Table.rows_insert hinsert]; exact hlock.1)
        (by simp [Table.rows_insert hinsert]) (clashes_of_id_eq hlock.2)
    subst hb
    obtain ⟨history, hhistory, rfl⟩ := appendAttempt_ok happend
    exact Table.rows_insert hhistory
  | some a =>
    rw [hat] at h
    dsimp only at h ⊢
    split at h
    · cases h
    split at h
    · cases h
    rename_i db₂ happend
    split at h
    · cases h
    cases h
    exact appendSameStatus_appends happend

lemma updateActions_error {p : ExternalAction → Bool} {f : ExternalAction → ExternalAction}
    {hf : ∀ a, Keyed.key (f a) = Keyed.key a} {x : Exn}
    (h : updateActions db p f hf = .error x) :
    ∃ a ∈ db.externalActions.rows, p a = true ∧ ∃ c ∈ (f a).checkConstraints, c.2 = false := by
  simp only [updateActions, bind, Except.bind, pure, Except.pure] at h
  split at h
  · rename_i hconstraints
    obtain ⟨c, hc, hfalse⟩ := requireConstraints_eq_error hconstraints
    obtain ⟨a, ha, hca⟩ := List.mem_flatMap.1 hc
    obtain ⟨hmem, hp⟩ := List.mem_filter.1 ha
    exact ⟨a, hmem, hp, c, hca, hfalse⟩
  · cases h

lemma requireOneRow_integrity {n : ℕ} {operation name : String} :
    requireOneRow n operation ≠ .error (.integrityError name) := by
  unfold requireOneRow
  split
  · simp
  · simp

lemma lockAction_integrity {id : UUID} {name : String} :
    lockAction db id ≠ .error (.integrityError name) := by
  unfold lockAction
  split
  · simp
  · simp

lemma assertActiveFence_integrity {fence : ExecutionFence} {name : String} :
    assertActiveFence db fence now ≠ .error (.integrityError name) := by
  unfold assertActiveFence
  split
  · simp
  · simp [fenceNotConfirmed]

/-- The rows that an update selects keep their constraints. -/
def KeepsConstraints (db : Database) (p : ExternalAction → Bool)
    (f : ExternalAction → ExternalAction) : Prop :=
  ∀ a ∈ db.externalActions.rows, p a = true → ∀ c ∈ (f a).checkConstraints, c.2 = true

lemma KeepsConstraints.updateActions {p : ExternalAction → Bool}
    {f : ExternalAction → ExternalAction} {hf : ∀ a, Keyed.key (f a) = Keyed.key a} {x : Exn}
    (hkeeps : KeepsConstraints db p f) : updateActions db p f hf ≠ .error x := by
  intro h
  obtain ⟨a, ha, hp, c, hc, hfalse⟩ := updateActions_error h
  rw [hkeeps a ha hp c hc] at hfalse
  cases hfalse

lemma transition_integrity {request : TransitionRequest} {name : String} (hdb : LedgerValid db)
    (hunused : db.unused attemptId = true)
    (hkeeps : KeepsConstraints db (fun a => request.expectedStatuses.contains a.status)
      (transitioned now request)) :
    transition db now attemptId request ≠ .error (.integrityError name) := by
  intro h
  simp only [transition, bind, Except.bind, throw, throwThe, MonadExceptOf.throw, pure,
    Except.pure] at h
  split at h
  · cases h
  split at h
  · cases h
  split at h
  · rename_i hfence
    cases h
    exact assertActiveFence_integrity hfence
  split at h
  · rename_i hlock
    cases h
    exact lockAction_integrity hlock
  rename_i a hlock
  rw [lockAction_eq_ok] at hlock
  split at h
  · cases h
  rename_i hstatus
  split at h
  · rename_i hupdate
    refine KeepsConstraints.updateActions (fun b hb hp => ?_) hupdate
    simp only [Bool.and_eq_true, beq_iff_eq] at hp
    refine hkeeps b hb ?_
    rw [List.contains_iff_mem, hp.1.2]
    exact not_not.1 hstatus
  rename_i updated hupdate
  obtain ⟨n, db₁⟩ := updated
  split at h
  · rename_i hone
    cases h
    exact requireOneRow_integrity hone
  split at h
  · rename_i happend
    have hmem := (action_eq_some_iff.1 hlock).1
    exact appendAttempt_error hdb hunused hmem rfl rfl
      (by rw [(updateActions_ok hupdate).2.1]) happend
  split at h
  · rename_i hfinal
    cases h
    exact lockAction_integrity hfinal
  · cases h

lemma revise_integrity {request : RevisionRequest} {name : String} (hdb : LedgerValid db)
    (hunused : db.unused attemptId = true)
    (hkeeps : KeepsConstraints db (fun a => a.revision == request.expectedRevision &&
      a.status == .succeeded) (revised now request)) :
    revise db now attemptId request ≠ .error (.integrityError name) := by
  intro h
  simp only [revise, bind, Except.bind, throw, throwThe, MonadExceptOf.throw, pure,
    Except.pure] at h
  split at h
  · rename_i hfence
    cases h
    exact assertActiveFence_integrity hfence
  split at h
  · rename_i hlock
    cases h
    exact lockAction_integrity hlock
  rename_i a hlock
  rw [lockAction_eq_ok] at hlock
  split at h
  · cases h
  split at h
  · rename_i hupdate
    refine KeepsConstraints.updateActions (fun b hb hp => ?_) hupdate
    refine hkeeps b hb ?_
    simp only [Bool.and_eq_true] at hp ⊢
    exact ⟨hp.1.2, hp.2⟩
  rename_i updated hupdate
  obtain ⟨n, db₁⟩ := updated
  split at h
  · rename_i hone
    cases h
    exact requireOneRow_integrity hone
  split at h
  · rename_i happend
    have hmem := (action_eq_some_iff.1 hlock).1
    exact appendAttempt_error hdb hunused hmem rfl rfl
      (by rw [(updateActions_ok hupdate).2.1]) happend
  split at h
  · rename_i hfinal
    cases h
    exact lockAction_integrity hfinal
  · cases h

lemma reservedAction_constraints {actionId : UUID} {request : ReservationRequest} :
    ∀ c ∈ (reservedAction now actionId request).checkConstraints, c.2 = true := by
  simp [reservedAction, ExternalAction.checkConstraints]

/-- A new action has neither the identifier nor the scope of another one. -/
lemma not_clashes_reserved {actionId : UUID} {request : ReservationRequest}
    (hid : db.unused actionId = true) (habsent : db.actionAt request.actionScopeKey = none)
    (ha : a ∈ db.externalActions.rows) :
    clashes a (reservedAction now actionId request) ≠ true := by
  intro hclash
  simp only [clashes, Bool.or_eq_true, beq_iff_eq] at hclash
  rcases hclash with hsame | hscope
  · simp only [unused, Bool.and_eq_true, List.all_eq_true, bne_iff_ne] at hid
    exact hid.1.2 a ha hsame
  · have := Table.find?_eq_none_iff.1 habsent a ha
    rw [show a.actionScopeKey = request.actionScopeKey from hscope] at this
    simp at this

lemma appendReserved_integrity {actionId : UUID} {row : ExternalActionAttempt} {x : Exn}
    {rows : Table ExternalAction} (hdb : LedgerValid db) (hid : db.unused actionId = true)
    (hunused : db.unused row.id = true) (haction : row.externalActionId = actionId)
    (hsequence : row.sequenceNumber = 1) :
    appendAttempt { db with externalActions := rows } row ≠ .error x := by
  intro h
  simp only [appendAttempt, bind, Except.bind, pure, Except.pure] at h
  simp only [unused, Bool.and_eq_true, List.all_eq_true, bne_iff_ne] at hid hunused
  split at h
  · rename_i hconstraints
    obtain ⟨c, hc, hfalse⟩ := requireConstraints_eq_error hconstraints
    rw [ExternalActionAttempt.checkConstraints, List.mem_singleton] at hc
    subst hc
    simp [hsequence] at hfalse
  · split at h
    · cases h
    · rename_i hinsert
      obtain ⟨other, hother, hclash⟩ := Table.insert_eq_none_iff.1 hinsert
      simp only [clashes, Bool.or_eq_true, beq_iff_eq] at hclash
      rcases hclash with hsame | hunique
      · exact hunused.2 other hother hsame
      · obtain ⟨b, hb, hbid, -⟩ := hdb.history other hother
        have hsame : other.externalActionId = row.externalActionId := congrArg Prod.fst hunique
        exact hid.1.2 b hb (hbid.trans (hsame.trans haction))

lemma touch_constraints {fence : ExecutionFence} (ha : ∀ c ∈ a.checkConstraints, c.2 = true) :
    ∀ c ∈ (touch fence now a).checkConstraints, c.2 = true := by
  simp only [ExternalAction.checkConstraints, List.forall_mem_cons, decide_eq_true_eq] at ha ⊢
  exact ⟨ha.1, Int.le_add_one ha.2.1, ha.2.2⟩

/-- A replay of an action fails for no reason. -/
lemma appendSameStatus_error {fence : ExecutionFence} {name : String} {x : Exn}
    (hdb : LedgerValid db) (hunused : db.unused attemptId = true)
    (hmem : a ∈ db.externalActions.rows) :
    appendSameStatus db now attemptId a fence name ≠ .error x := by
  intro h
  simp only [appendSameStatus, bind, Except.bind] at h
  split at h
  · rename_i hupdate
    exact KeepsConstraints.updateActions
      (fun b hb _ => touch_constraints (hdb.actions b hb)) hupdate
  rename_i updated hupdate
  obtain ⟨n, db₁⟩ := updated
  obtain ⟨hn, hdb₁, -⟩ := updateActions_ok hupdate
  have hcount : db.externalActions.count (fun r => r.id == a.id &&
      r.actionAttemptCount == a.actionAttemptCount) = 1 := by
    refine Table.count_eq_one hmem (by simp) fun r hr => ?_
    simp only [Bool.and_eq_true, beq_iff_eq] at hr
    rw [clashes_comm]
    exact clashes_of_id_eq hr.1
  split at h
  · rename_i hone
    simp [requireOneRow, hn, hcount] at hone
  · exact appendAttempt_error hdb hunused hmem rfl rfl (by rw [hdb₁]) h

/-- A reservation fails for one of three reasons: its operation is not supported, its fence, or the
row that has its scope. No constraint refuses it. -/
theorem reserveOrGet_error {actionId : UUID} {request : ReservationRequest} {x : Exn}
    (hdb : LedgerValid db) (hid : db.unused actionId = true) (hunused : db.unused attemptId = true)
    (h : reserveOrGet db now actionId attemptId request = .error x) :
    ((request.provider, request.operation) ∉ supportedExternalActions ∨
      request.fence.active now db = false ∨
      ∃ a, db.actionAt request.actionScopeKey = some a ∧
        (a.provider ≠ request.provider ∨ a.operation ≠ request.operation)) ∧
      ∀ name, x ≠ .integrityError name := by
  simp only [reserveOrGet, bind, Except.bind, throw, throwThe, MonadExceptOf.throw, pure,
    Except.pure] at h
  split at h
  · rename_i hsupported
    cases h
    exact ⟨.inl hsupported, by simp⟩
  split at h
  · rename_i hfence
    unfold assertActiveFence at hfence
    split at hfence
    · cases hfence
    · rename_i hactive
      cases hfence
      cases h
      exact ⟨.inr (.inl (by simpa using hactive)), by simp [fenceNotConfirmed]⟩
  split at h
  · exfalso
    rename_i habsent
    split at h
    · rename_i hconstraints
      obtain ⟨c, hc, hfalse⟩ := requireConstraints_eq_error hconstraints
      rw [reservedAction_constraints c hc] at hfalse
      cases hfalse
    split at h
    · rename_i hinsert
      obtain ⟨b, hb, hclash⟩ := Table.insert_eq_none_iff.1 hinsert
      exact not_clashes_reserved hid habsent hb hclash
    rename_i rows hinsert
    have hlocked : lockAction { db with externalActions := rows } actionId =
        .ok (reservedAction now actionId request) := by
      rw [lockAction_eq_ok, action_eq_some_iff, Table.rows_insert hinsert]
      simp [reservedAction]
    rw [hlocked] at h
    dsimp only at h
    split at h
    · rename_i happend
      exact appendReserved_integrity hdb hid hunused rfl rfl happend
    · cases h
  · rename_i a hpresent
    split at h
    · rename_i hother
      cases h
      exact ⟨.inr (.inr ⟨a, hpresent, hother⟩), by simp⟩
    exfalso
    have hmem := (actionAt_eq_some_iff.1 hpresent).1
    split at h
    · rename_i hsame
      exact appendSameStatus_error hdb hunused hmem hsame
    rename_i db₁ hsame
    have hrewrites := appendSameStatus_ok hsame (action_of_actionAt hpresent)
    rw [lockAction_eq_ok.2 hrewrites.action_self] at h
    cases h

/-- What the constraints ask of a row, and that a write which may still be under way has its
start on record. -/
structure ExternalAction.Sound (a : ExternalAction) : Prop where
  revision : 1 ≤ a.revision
  count : 1 ≤ a.actionAttemptCount
  succeeded : a.status = .succeeded → a.providerResourceIdentifier.isSome = true ∧
    a.appliedRequestFingerprint.isSome = true ∧ a.completedAt.isSome = true
  unfinished : a.status ≠ .succeeded → a.completedAt = none
  started : a.status = .executing ∨ a.status = .outcomeUnknown → a.writeStartedAt.isSome = true

lemma ExternalAction.Sound.constraints (ha : a.Sound) : ∀ c ∈ a.checkConstraints, c.2 = true := by
  simp only [ExternalAction.checkConstraints, List.forall_mem_cons, decide_eq_true_eq]
  refine ⟨ha.revision, ha.count, ?_, ?_, by simp⟩
  · by_cases hstatus : a.status = .succeeded
    · simp [hstatus, ha.succeeded hstatus]
    · simp [hstatus, ha.unfinished hstatus]
  · by_cases hstatus : a.status = .outcomeUnknown
    · simp [hstatus, ha.started (.inr hstatus)]
    · simp [hstatus]

lemma ExternalAction.Sound.touch {fence : ExecutionFence} (ha : a.Sound) :
    (touch fence now a).Sound :=
  ⟨ha.revision, Int.le_add_one ha.count, ha.succeeded, ha.unfinished, ha.started⟩

lemma reservedAction_sound {actionId : UUID} {request : ReservationRequest} :
    (reservedAction now actionId request).Sound := by
  refine ⟨le_refl 1, le_refl 1, ?_, fun _ => rfl, ?_⟩
  · intro h
    cases h
  · rintro (h | h) <;> cases h

lemma revised_sound {request : RevisionRequest} (ha : a.Sound)
    (hrevision : a.revision = request.expectedRevision) : (revised now request a).Sound := by
  refine ⟨?_, Int.le_add_one ha.count, ?_, fun _ => rfl, ?_⟩
  · change 1 ≤ request.expectedRevision + 1
    rw [← hrevision]
    exact Int.le_add_one ha.revision
  · intro h
    cases h
  · rintro (h | h) <;> cases h

/-- The form of the transitions that keep a row sound. -/
structure TransitionRequest.Regular (request : TransitionRequest) : Prop where
  delays : request.WellFormed
  name : request.transition ≠ "revision_reserved"
  succeeded : request.newStatus = .succeeded →
    (∃ identifier, request.values.providerResourceIdentifier = some (some identifier)) ∧
      ∃ fingerprint, request.values.appliedRequestFingerprint = some (some fingerprint)
  unfinished : request.newStatus ≠ .succeeded → .succeeded ∉ request.expectedStatuses ∧
    (request.values.completedAt = none ∨ request.values.completedAt = some none)
  executing : request.newStatus = .executing → request.settlementDelay.isSome = true
  unknown : request.newStatus = .outcomeUnknown → request.expectedStatuses = [.executing] ∧
    request.settlementDelay = none ∧ request.values.writeStartedAt = none

lemma TransitionRequest.Regular.sound {request : TransitionRequest} (hrequest : request.Regular)
    (ha : a.Sound) (hstatus : a.status ∈ request.expectedStatuses) :
    (transitioned now request a).Sound := by
  refine ⟨ha.revision, Int.le_add_one ha.count, fun hnew => ?_, fun hnew => ?_, ?_⟩
  · have hnew : request.newStatus = .succeeded := hnew
    obtain ⟨⟨identifier, hidentifier⟩, fingerprint, hfingerprint⟩ := hrequest.succeeded hnew
    simp [transitioned, hidentifier, hfingerprint, hnew]
  · have hnew : request.newStatus ≠ .succeeded := hnew
    obtain ⟨hexpected, hcompleted⟩ := hrequest.unfinished hnew
    have hold : a.completedAt = none := ha.unfinished fun h => hexpected (h ▸ hstatus)
    rcases hcompleted with hnone | hnone
    · simp [transitioned, hnew, hnone, hold]
    · simp [transitioned, hnew, hnone]
  · rintro (hnew | hnew)
    · have hsettlement := hrequest.executing hnew
      simp [transitioned, hsettlement]
    · obtain ⟨hexpected, hsettlement, hvalue⟩ := hrequest.unknown hnew
      rw [hexpected, List.mem_singleton] at hstatus
      have hold := ha.started (.inl hstatus)
      simp [transitioned, hsettlement, hvalue, hold]

/-! ## The calls that the handlers make -/

/-- The form of the calls of the ledger that handlers make. -/
def LedgerCall : Effect → Prop
  | .transition request => request.Regular
  | _ => True

lemma knownUnsentDelay_nonneg {retryAfter : Option Duration} : 0 ≤ knownUnsentDelay retryAfter := by
  unfold knownUnsentDelay
  split
  · decide
  · exact le_trans (by decide) (le_max_left _ _)

/-- A transition without delays. -/
lemma wellFormed_of_noDelays {request : TransitionRequest}
    (hsettlement : request.settlementDelay = none) (hnotBefore : request.notBeforeDelay = none) :
    request.WellFormed := by
  refine ⟨.inl hsettlement, fun delay h => ?_, fun delay h => ?_⟩
  · rw [hsettlement] at h
    cases h
  · rw [hnotBefore] at h
    cases h

/-- A transition that makes the caller wait. -/
lemma wellFormed_of_notBefore {request : TransitionRequest} {delay : Duration} (hdelay : 0 ≤ delay)
    (hsettlement : request.settlementDelay = none)
    (hnotBefore : request.notBeforeDelay = some delay) :
    request.WellFormed := by
  refine ⟨.inl hsettlement, fun delay' h => ?_, fun delay' h => ?_⟩
  · rw [hsettlement] at h
    cases h
  · rw [hnotBefore] at h
    cases h
    exact hdelay

/-- A transition that starts a write. -/
lemma wellFormed_of_settlement {request : TransitionRequest} {delay : Duration} (hdelay : 0 ≤ delay)
    (hsettlement : request.settlementDelay = some delay)
    (hnotBefore : request.notBeforeDelay = none) :
    request.WellFormed := by
  refine ⟨.inr hnotBefore, fun delay' h => ?_, fun delay' h => ?_⟩
  · rw [hsettlement] at h
    cases h
    exact hdelay
  · rw [hnotBefore] at h
    cases h

/-- A transition of a row that has not succeeded, to a status that asks for no evidence. -/
lemma regular_of_plain {request : TransitionRequest} (new : ExternalActionStatus)
    (hdelays : request.WellFormed) (hname : request.transition ≠ "revision_reserved")
    (hnew : request.newStatus = new) (hplain : new ∉ [.succeeded, .executing, .outcomeUnknown])
    (hexpected : .succeeded ∉ request.expectedStatuses)
    (hcompleted : request.values.completedAt = none ∨ request.values.completedAt = some none) :
    request.Regular := by
  subst hnew
  simp only [List.mem_cons, List.not_mem_nil, or_false, not_or] at hplain
  exact ⟨hdelays, hname, fun h => absurd h hplain.1, fun _ => ⟨hexpected, hcompleted⟩,
    fun h => absurd h hplain.2.1, fun h => absurd h hplain.2.2⟩

/-- A transition of a write to an unknown outcome. -/
lemma regular_of_unknown {request : TransitionRequest} (hdelays : request.WellFormed)
    (hname : request.transition ≠ "revision_reserved") (hnew : request.newStatus = .outcomeUnknown)
    (hexpected : request.expectedStatuses = [.executing])
    (hsettlement : request.settlementDelay = none) (hstarted : request.values.writeStartedAt = none)
    (hcompleted : request.values.completedAt = none) : request.Regular := by
  refine ⟨hdelays, hname, fun h => ?_, fun _ => ⟨?_, .inl hcompleted⟩, fun h => ?_,
    fun _ => ⟨hexpected, hsettlement, hstarted⟩⟩
  · rw [hnew] at h
    cases h
  · rw [hexpected]
    decide
  · rw [hnew] at h
    cases h

/-- A transition that starts a write. -/
lemma regular_of_write {request : TransitionRequest} (hdelays : request.WellFormed)
    (hname : request.transition ≠ "revision_reserved") (hnew : request.newStatus = .executing)
    (hexpected : .succeeded ∉ request.expectedStatuses)
    (hsettlement : request.settlementDelay.isSome = true)
    (hcompleted : request.values.completedAt = none) : request.Regular := by
  refine ⟨hdelays, hname, fun h => ?_, fun _ => ⟨hexpected, .inl hcompleted⟩,
    fun _ => hsettlement, fun h => ?_⟩
  · rw [hnew] at h
    cases h
  · rw [hnew] at h
    cases h

/-- A transition that records the evidence of a success. -/
lemma regular_of_success {request : TransitionRequest} {identifier : String} {fingerprint : Digest}
    (hdelays : request.WellFormed) (hname : request.transition ≠ "revision_reserved")
    (hnew : request.newStatus = .succeeded)
    (hidentifier : request.values.providerResourceIdentifier = some (some identifier))
    (hfingerprint : request.values.appliedRequestFingerprint = some (some fingerprint)) :
    request.Regular := by
  refine ⟨hdelays, hname, fun _ => ⟨⟨identifier, hidentifier⟩, fingerprint, hfingerprint⟩,
    fun h => absurd hnew h, fun h => ?_, fun h => ?_⟩
  · rw [hnew] at h
    cases h
  · rw [hnew] at h
    cases h

section Calls

variable [Runtime] {settings : Settings} {task : TaskExecution} {e : Effect}

open SlackDeliveryService in
lemma DeliveryEffect.ledgerCall (he : DeliveryEffect settings task e) : LedgerCall e := by
  have hnone : ∀ {request : TransitionRequest}, request.settlementDelay = none →
      request.notBeforeDelay = none → request.WellFormed := wellFormed_of_noDelays
  cases he with
  | reserve | delay | verify | post => trivial
  | demote a =>
    exact regular_of_unknown (hnone rfl rfl) (by simp [previousWriteUnresolved]) rfl rfl rfl rfl rfl
  | identityRetryable a errorCode retryAfter =>
    exact regular_of_plain .retryableFailure
      (wellFormed_of_notBefore knownUnsentDelay_nonneg rfl rfl) (by simp [identityRetryableFailure])
      rfl (by decide) (by simp [identityRetryableFailure, postable]) (.inl rfl)
  | identityPermanent a errorCode =>
    exact regular_of_plain .permanentFailure (hnone rfl rfl) (by simp [identityPermanentFailure])
      rfl (by decide) (by simp [identityPermanentFailure, postable]) (.inl rfl)
  | mismatch a =>
    exact regular_of_plain .needsHumanReview (hnone rfl rfl) (by simp [identityMismatch]) rfl
      (by decide) (by simp [identityMismatch, postable]) (.inl rfl)
  | write a =>
    exact regular_of_write (wellFormed_of_settlement settings.slackWriteTimeout_pos.le rfl rfl)
      (by simp [writeStarted]) rfl (by simp [writeStarted, postable]) rfl rfl
  | unsent a errorCode retryAfter =>
    exact regular_of_plain .retryableFailure
      (wellFormed_of_notBefore knownUnsentDelay_nonneg rfl rfl) (by simp [retryableFailure]) rfl
      (by decide) (by simp [retryableFailure]) (.inl rfl)
  | rejected a errorCode =>
    exact regular_of_plain .permanentFailure (hnone rfl rfl) (by simp [permanentFailure]) rfl
      (by decide) (by simp [permanentFailure]) (.inl rfl)
  | unknown a errorCode =>
    exact regular_of_unknown (hnone rfl rfl) (by simp [outcomeUnknown]) rfl rfl rfl rfl rfl
  | succeeded a receipt desiredFingerprint =>
    exact regular_of_success (hnone rfl rfl) (by simp [writeSucceeded]) rfl rfl rfl

open DeploymentContextSyncHandler in
lemma SyncEffect.ledgerCall (he : SyncEffect settings task e) : LedgerCall e := by
  have hnone : ∀ {request : TransitionRequest}, request.settlementDelay = none →
      request.notBeforeDelay = none → request.WellFormed := wellFormed_of_noDelays
  cases he with
  | record | reserve | revise | delay => trivial
  | provider hprovider =>
    cases e <;> trivial
  | delivery he => exact he.ledgerCall
  | start a =>
    exact regular_of_plain .reconciling (hnone rfl rfl) (by simp [reconciliationStarted]) rfl
      (by decide) (by simp [reconciliationStarted]) (.inl rfl)
  | retryable a errorCode =>
    exact regular_of_plain .retryableFailure (hnone rfl rfl)
      (by simp [reconciliationRetryableFailure]) rfl (by decide)
      (by simp [reconciliationRetryableFailure]) (.inl rfl)
  | review a code =>
    exact regular_of_plain .needsHumanReview (hnone rfl rfl)
      (by simp [reconciliationNeedsHumanReview]) rfl (by decide)
      (by simp [reconciliationNeedsHumanReview]) (.inr rfl)
  | mismatch a =>
    exact regular_of_plain .needsHumanReview (hnone rfl rfl) (by simp [reconciledContentMismatch])
      rfl (by decide) (by simp [reconciledContentMismatch]) (.inl rfl)
  | noMatch a =>
    exact regular_of_plain .readyToExecute (hnone rfl rfl)
      (by simp [reconciliationCompletedNoMatch]) rfl (by decide)
      (by simp [reconciliationCompletedNoMatch]) (.inl rfl)
  | write a =>
    exact regular_of_write
      (wellFormed_of_settlement settings.integrationSettlementDelay_pos.le rfl rfl)
      (by simp [writeStarted]) rfl (by simp [writeStarted]) rfl rfl
  | unknown a errorCode =>
    exact regular_of_unknown (hnone rfl rfl) (by simp [writeOutcomeUnknown]) rfl rfl rfl rfl rfl
  | unsent a errorCode =>
    exact regular_of_plain .retryableFailure (hnone rfl rfl) (by simp [writeRetryableFailure]) rfl
      (by decide) (by simp [writeRetryableFailure]) (.inl rfl)
  | rejected a errorCode =>
    exact regular_of_plain .permanentFailure (hnone rfl rfl) (by simp [writePermanentFailure]) rfl
      (by decide) (by simp [writePermanentFailure]) (.inl rfl)
  | reconciled a comment desiredFingerprint =>
    exact regular_of_success (hnone rfl rfl) (by simp [completeSuccess]) rfl rfl rfl
  | succeeded a comment desiredFingerprint =>
    exact regular_of_success (hnone rfl rfl) (by simp [completeSuccess]) rfl rfl rfl

end Calls

end DeploymentLab
