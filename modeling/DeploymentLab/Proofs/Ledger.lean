import DeploymentLab.Model.Persistence

/-!
# What one ledger transaction does

A committed transaction of the ledger inserts one action or rewrites one, appends one row of
history and changes nothing else. Every result about runs rests on the three lemmas
`reserveOrGet_ok`, `transition_ok` and `revise_ok`.
-/

namespace DeploymentLab

open Relational ExternalActionRepository

variable {db db' db₁ : Database} {a a' b : ExternalAction} {id : UUID} {scope : String}
  {now : Timestamp}

namespace Database

lemma clashes_of_id_eq (h : a.id = b.id) : clashes a b = true := by
  simp [clashes, Keyed.id, Keyed.unique, h]

lemma clashes_of_scope_eq (h : a.actionScopeKey = b.actionScopeKey) : clashes a b = true := by
  simp [clashes, Keyed.id, Keyed.unique, h]

lemma action_eq_some_iff : db.action id = some a ↔ a ∈ db.externalActions.rows ∧ a.id = id := by
  constructor
  · intro h
    exact ⟨Table.mem_of_find? h, by simpa using Table.pred_of_find? h⟩
  · rintro ⟨hmem, rfl⟩
    exact Table.find?_eq_some_of_mem hmem (by simp) fun s hs =>
      clashes_of_id_eq (by simpa using Eq.symm (by simpa using hs))

lemma actionAt_eq_some_iff :
    db.actionAt scope = some a ↔ a ∈ db.externalActions.rows ∧ a.actionScopeKey = scope := by
  constructor
  · intro h
    exact ⟨Table.mem_of_find? h, by simpa using Table.pred_of_find? h⟩
  · rintro ⟨hmem, rfl⟩
    exact Table.find?_eq_some_of_mem hmem (by simp) fun s hs =>
      clashes_of_scope_eq (by simpa using Eq.symm (by simpa using hs))

lemma action_of_actionAt (h : db.actionAt scope = some a) : db.action a.id = some a :=
  action_eq_some_iff.2 ⟨(actionAt_eq_some_iff.1 h).1, rfl⟩

/-- The tables that the ledger only reads are the same in both databases. -/
def SameEvidence (db db' : Database) : Prop :=
  db'.tasks = db.tasks ∧ db'.taskAttempts = db.taskAttempts ∧
    db'.sourceArtifacts = db.sourceArtifacts

/-- Every action meets its constraints and has counted every row of its history. -/
structure LedgerValid (db : Database) : Prop where
  actions : ∀ a ∈ db.externalActions.rows, ∀ c ∈ a.checkConstraints, c.2 = true
  history : ∀ row ∈ db.externalActionAttempts.rows, ∃ a ∈ db.externalActions.rows,
    a.id = row.externalActionId ∧ row.sequenceNumber ≤ a.actionAttemptCount

/-- `db'` has one row of history more than `db`, the newest of action `id`. -/
def Records (db db' : Database) (id : UUID) (sequence : ℤ) : Prop :=
  ∃ row, db'.externalActionAttempts.rows = db.externalActionAttempts.rows ++ [row] ∧
    row.externalActionId = id ∧ row.sequenceNumber = sequence

/-- `db'` is `db` with the new action `a`. -/
structure Inserts (db db' : Database) (a : ExternalAction) : Prop where
  evidence : SameEvidence db db'
  absent : db.actionAt a.actionScopeKey = none
  table : db.externalActions.insert a = some db'.externalActions
  valid : ∀ c ∈ a.checkConstraints, c.2 = true
  history : Records db db' a.id a.actionAttemptCount

/-- `db'` is `db` with the row `a'` in the place of the action `a`. -/
structure Rewrites (db db' : Database) (a a' : ExternalAction) : Prop where
  evidence : SameEvidence db db'
  present : a ∈ db.externalActions.rows
  key : Keyed.key a' = Keyed.key a
  rows : db'.externalActions.rows =
    db.externalActions.rows.map fun r => if r.id = a.id then a' else r
  valid : ∀ c ∈ a'.checkConstraints, c.2 = true
  count : a'.actionAttemptCount = a.actionAttemptCount + 1
  history : Records db db' a.id a'.actionAttemptCount

namespace Rewrites

variable (h : Rewrites db db' a a')
include h

lemma id_eq : a'.id = a.id := congrArg Prod.fst h.key

lemma scope_eq : a'.actionScopeKey = a.actionScopeKey := congrArg Prod.snd h.key

lemma ledgerValid (hdb : LedgerValid db) : LedgerValid db' := by
  have hself : a' ∈ db'.externalActions.rows := by
    rw [h.rows]
    exact List.mem_map.2 ⟨a, h.present, by simp⟩
  constructor
  · intro r hr
    rw [h.rows] at hr
    obtain ⟨r₀, hr₀, rfl⟩ := List.mem_map.1 hr
    split
    · exact h.valid
    · exact hdb.actions r₀ hr₀
  · intro row hrow
    obtain ⟨new, hnew, hid, hseq⟩ := h.history
    rw [hnew, List.mem_append, List.mem_singleton] at hrow
    rcases hrow with hrow | rfl
    · obtain ⟨r, hr, hrid, hle⟩ := hdb.history row hrow
      by_cases hra : r.id = a.id
      · have hra' := Table.eq_of_clashes hr h.present (clashes_of_id_eq hra)
        subst hra'
        exact ⟨a', hself, h.id_eq.trans hrid, by have := h.count; omega⟩
      · refine ⟨r, ?_, hrid, hle⟩
        rw [h.rows]
        exact List.mem_map.2 ⟨r, hr, by simp [hra]⟩
    · exact ⟨a', hself, by rw [h.id_eq, hid], hseq.le⟩

lemma find?_eq {p : ExternalAction → Bool} (hp : p a' = p a) :
    db'.externalActions.find? p =
      (db.externalActions.find? p).map fun r => if r.id = a.id then a' else r := by
  rw [Table.find?, h.rows]
  refine Table.find?_map_of_mem fun r hr => ?_
  split
  · rename_i hid
    rw [hp, Table.eq_of_clashes hr h.present (clashes_of_id_eq hid)]
  · rfl

lemma action_eq (id : UUID) :
    db'.action id = (db.action id).map fun r => if r.id = a.id then a' else r :=
  h.find?_eq (by simp [h.id_eq])

lemma action_self : db'.action a.id = some a' := by
  rw [h.action_eq, action_eq_some_iff.2 ⟨h.present, rfl⟩]
  simp

lemma actionAt_eq (scope : String) :
    db'.actionAt scope = (db.actionAt scope).map fun r => if r.id = a.id then a' else r :=
  h.find?_eq (by simp [h.scope_eq])

lemma actionAt_self : db'.actionAt a.actionScopeKey = some a' := by
  rw [h.actionAt_eq, actionAt_eq_some_iff.2 ⟨h.present, rfl⟩]
  simp

end Rewrites

/-- A store that leaves the two tables of the ledger alone leaves it valid. -/
lemma LedgerValid.frame (hdb : LedgerValid db)
    (hactions : db'.externalActions = db.externalActions)
    (hattempts : db'.externalActionAttempts = db.externalActionAttempts) : LedgerValid db' := by
  constructor
  · rw [hactions]
    exact hdb.actions
  · rw [hactions, hattempts]
    exact hdb.history

namespace Inserts

variable (h : Inserts db db' a)
include h

lemma rows : db'.externalActions.rows = db.externalActions.rows ++ [a] :=
  Table.rows_insert h.table

lemma ledgerValid (hdb : LedgerValid db) : LedgerValid db' := by
  constructor
  · intro r hr
    rw [h.rows, List.mem_append, List.mem_singleton] at hr
    rcases hr with hr | rfl
    · exact hdb.actions r hr
    · exact h.valid
  · intro row hrow
    obtain ⟨new, hnew, hid, hseq⟩ := h.history
    rw [hnew, List.mem_append, List.mem_singleton] at hrow
    rcases hrow with hrow | rfl
    · obtain ⟨r, hr, hrid, hle⟩ := hdb.history row hrow
      exact ⟨r, by simp [h.rows, hr], hrid, hle⟩
    · exact ⟨a, by simp [h.rows], hid.symm, hseq.le⟩

lemma actionAt_self : db'.actionAt a.actionScopeKey = some a := by
  rw [Database.actionAt, Table.find?_insert h.table]
  simp [show db.externalActions.find? _ = none from h.absent]

lemma actionAt_of_ne {scope : String} (hne : scope ≠ a.actionScopeKey) :
    db'.actionAt scope = db.actionAt scope := by
  rw [Database.actionAt, Table.find?_insert h.table]
  simp [hne.symm, Database.actionAt]

end Inserts

end Database

lemma assertActiveFence_eq_ok {fence : ExecutionFence} {u : Unit} :
    assertActiveFence db fence now = .ok u ↔ fence.active now db = true := by
  simp [assertActiveFence]

/-- The evidence store writes under the active fence, and no other table than its own. -/
lemma SourceArtifactRepository.record_ok [Runtime] {maximumBytes : ℕ}
    {request : ArtifactRequest} {artifact : SourceArtifact}
    (h : record maximumBytes db now id request = .ok (artifact, db')) :
    request.fence.active now db = true ∧
      ∃ sourceArtifacts, db' = { db with sourceArtifacts := sourceArtifacts } := by
  simp only [record, bind, Except.bind, throw, throwThe, MonadExceptOf.throw, pure,
    Except.pure] at h
  split at h
  · cases h
  split at h
  · cases h
  rename_i hfence
  refine ⟨assertActiveFence_eq_ok.1 hfence, ?_⟩
  split at h
  · cases h
  split at h
  · cases h
  split at h
  · cases h
    exact ⟨_, rfl⟩
  · split at h
    · cases h
      exact ⟨_, rfl⟩
    · cases h

/-- A transition is not refused for its delays. -/
structure TransitionRequest.WellFormed (request : TransitionRequest) : Prop where
  exclusive : request.settlementDelay = none ∨ request.notBeforeDelay = none
  settlement : ∀ delay, request.settlementDelay = some delay → 0 ≤ delay
  notBefore : ∀ delay, request.notBeforeDelay = some delay → 0 ≤ delay

namespace ExternalActionRepository

open Database

lemma lockAction_eq_ok : lockAction db id = .ok a ↔ db.action id = some a := by
  unfold lockAction
  split <;> simp_all

lemma updateActions_ok {p : ExternalAction → Bool} {f : ExternalAction → ExternalAction}
    {hf : ∀ a, Keyed.key (f a) = Keyed.key a} {n : ℕ}
    (h : updateActions db p f hf = .ok (n, db')) :
    n = db.externalActions.count p ∧
      db' = { db with externalActions := db.externalActions.update p f hf } ∧
      ∀ a ∈ db.externalActions.rows, p a = true → ∀ c ∈ (f a).checkConstraints, c.2 = true := by
  simp only [updateActions, bind, Except.bind, pure, Except.pure] at h
  split at h
  · cases h
  · rename_i hvalid
    cases h
    refine ⟨rfl, rfl, fun a ha hp c hc => ?_⟩
    refine requireConstraints_eq_ok.1 hvalid c (List.mem_flatMap.2 ⟨a, ?_, hc⟩)
    exact List.mem_filter.2 ⟨ha, hp⟩

lemma appendAttempt_ok {attempt : ExternalActionAttempt}
    (h : appendAttempt db attempt = .ok db') :
    ∃ rows, db.externalActionAttempts.insert attempt = some rows ∧
      db' = { db with externalActionAttempts := rows } := by
  simp only [appendAttempt, bind, Except.bind, pure, Except.pure] at h
  split at h
  · cases h
  · split at h
    · cases h
      exact ⟨_, ‹_›, rfl⟩
    · cases h

/-- An update that selects one action, followed by its row of history, rewrites the action. -/
lemma rewrites_of_update {p : ExternalAction → Bool} {f : ExternalAction → ExternalAction}
    {hf : ∀ a, Keyed.key (f a) = Keyed.key a} {n : ℕ} {attempt : ExternalActionAttempt}
    (hupdate : updateActions db p f hf = .ok (n, db₁))
    (happend : appendAttempt db₁ attempt = .ok db') (ha : db.action id = some a)
    (hp : p a = true) (hid : ∀ r, p r = true → r.id = a.id)
    (hcount : (f a).actionAttemptCount = a.actionAttemptCount + 1)
    (hattempt : attempt.externalActionId = a.id ∧
      attempt.sequenceNumber = (f a).actionAttemptCount) :
    Rewrites db db' a (f a) := by
  obtain ⟨-, rfl, hvalid⟩ := updateActions_ok hupdate
  obtain ⟨rows, hrows, rfl⟩ := appendAttempt_ok happend
  have hmem := (action_eq_some_iff.1 ha).1
  refine ⟨⟨rfl, rfl, rfl⟩, hmem, hf a, ?_, hvalid a hmem hp, hcount, attempt,
    Table.rows_insert hrows, hattempt⟩
  refine (List.map_congr_left fun r hr => ?_)
  by_cases hr' : r.id = a.id
  · rw [Table.eq_of_clashes hr hmem (clashes_of_id_eq hr')]
    simp [hp]
  · have : p r = false := by
      by_contra hpr
      exact hr' (hid r (by simpa using hpr))
    simp [this, hr']

theorem transition_ok {attemptId : UUID} {request : TransitionRequest}
    (h : transition db now attemptId request = .ok (a', db')) :
    request.fence.active now db = true ∧ ∃ a, db.action request.actionId = some a ∧
      a.status ∈ request.expectedStatuses ∧ a' = transitioned now request a ∧
      Rewrites db db' a a' := by
  simp only [transition, bind, Except.bind, throw, throwThe, MonadExceptOf.throw, pure,
    Except.pure] at h
  split at h
  · cases h
  split at h
  · cases h
  split at h
  · cases h
  rename_i hfence
  split at h
  · cases h
  rename_i a hlock
  rw [lockAction_eq_ok] at hlock
  split at h
  · cases h
  rename_i hstatus
  split at h
  · cases h
  rename_i updated hupdate
  split at h
  · cases h
  split at h
  · cases h
  rename_i db₂ happend
  split at h
  · cases h
  rename_i a₂ hfinal
  cases h
  have hrewrites : Rewrites db db' a (transitioned now request a) :=
    rewrites_of_update hupdate happend hlock (by simp) (by simp; grind) rfl
      ⟨rfl, rfl⟩
  have ha' : a' = transitioned now request a := by
    have := hrewrites.action_self.symm.trans (lockAction_eq_ok.1 hfinal)
    exact (Option.some.inj this).symm
  subst ha'
  exact ⟨assertActiveFence_eq_ok.1 hfence, a, hlock, not_not.1 hstatus, rfl, hrewrites⟩

lemma appendAttempt_error {attempt : ExternalActionAttempt} {x : Exn} (hdb : LedgerValid db)
    (hunused : db.unused attempt.id = true) (ha : a ∈ db.externalActions.rows)
    (hid : attempt.externalActionId = a.id)
    (hsequence : attempt.sequenceNumber = a.actionAttemptCount + 1)
    (hattempts : db₁.externalActionAttempts = db.externalActionAttempts) :
    appendAttempt db₁ attempt ≠ .error x := by
  intro h
  simp only [appendAttempt, bind, Except.bind, pure, Except.pure] at h
  have hcount : 1 ≤ a.actionAttemptCount := by
    have := hdb.actions a ha
    simp only [ExternalAction.checkConstraints, List.forall_mem_cons, decide_eq_true_eq] at this
    exact this.2.1
  split at h
  · rename_i hconstraints
    obtain ⟨c, hc, hfalse⟩ := requireConstraints_eq_error hconstraints
    rw [ExternalActionAttempt.checkConstraints, List.mem_singleton] at hc
    subst hc
    simp at hfalse
    omega
  · split at h
    · cases h
    · rename_i hinsert
      rw [hattempts] at hinsert
      obtain ⟨row, hrow, hclash⟩ := Table.insert_eq_none_iff.1 hinsert
      simp only [clashes, Bool.or_eq_true, beq_iff_eq] at hclash
      rcases hclash with hsame | hunique
      · simp only [unused, Bool.and_eq_true, List.all_eq_true, bne_iff_ne] at hunused
        exact hunused.2 row hrow hsame
      · have haction : row.externalActionId = attempt.externalActionId :=
          congrArg Prod.fst hunique
        have hseq : row.sequenceNumber = attempt.sequenceNumber := congrArg Prod.snd hunique
        obtain ⟨b, hb, hbid, hle⟩ := hdb.history row hrow
        have hab : b = a :=
          Table.eq_of_clashes hb ha (clashes_of_id_eq (hbid.trans (haction.trans hid)))
        subst hab
        omega

/-- A transition to `SUCCEEDED` that sets the provider identifier and the applied fingerprint
breaks no constraint. -/
lemma checkConstraints_of_succeeded {request : TransitionRequest} {identifier : String}
    {fingerprint : Digest} (ha : ∀ c ∈ a.checkConstraints, c.2 = true)
    (hstatus : request.newStatus = .succeeded)
    (hidentifier : request.values.providerResourceIdentifier = some (some identifier))
    (happlied : request.values.appliedRequestFingerprint = some (some fingerprint)) :
    ∀ c ∈ (transitioned now request a).checkConstraints, c.2 = true := by
  simp only [ExternalAction.checkConstraints, List.forall_mem_cons, decide_eq_true_eq] at ha ⊢
  obtain ⟨hrevision, hcount, -, -, -⟩ := ha
  refine ⟨hrevision, ?_, ?_, ?_, by simp⟩
  · change 1 ≤ a.actionAttemptCount + 1
    omega
  · simp [transitioned, hstatus, hidentifier, happlied]
  · simp [transitioned, hstatus]

/-- A transition of an existing action fails for one of three reasons: the fence, the status
the action has, or a constraint that the new row breaks. -/
theorem transition_error {attemptId : UUID} {request : TransitionRequest} {x : Exn}
    (hdb : LedgerValid db) (hunused : db.unused attemptId = true) (hdelays : request.WellFormed)
    (ha : db.action request.actionId = some a)
    (h : transition db now attemptId request = .error x) :
    (request.fence.active now db = false ∧ x = fenceNotConfirmed) ∨
      (a.status ∉ request.expectedStatuses ∧ x = stateChanged) ∨
      ∃ c ∈ (transitioned now request a).checkConstraints, c.2 = false := by
  have hmem := (action_eq_some_iff.1 ha).1
  have hlocked := lockAction_eq_ok.2 ha
  have hselect : ∀ r : ExternalAction, (r.id == a.id && r.status == a.status &&
      r.actionAttemptCount == a.actionAttemptCount) = true → r.id = a.id := by
    intro r hr
    simp only [Bool.and_eq_true, beq_iff_eq] at hr
    exact hr.1.1
  simp only [transition, hlocked, bind, Except.bind, throw, throwThe, MonadExceptOf.throw, pure,
    Except.pure] at h
  split at h
  · rename_i hboth
    rcases hdelays.exclusive with hnone | hnone <;> simp [hnone] at hboth
  split at h
  · rename_i hnegative
    simp only [Option.any_eq_true, decide_eq_true_eq] at hnegative
    rcases hnegative with ⟨delay, hdelay, hlt⟩ | ⟨delay, hdelay, hlt⟩
    · exact absurd hlt (not_lt.2 (hdelays.settlement delay hdelay))
    · exact absurd hlt (not_lt.2 (hdelays.notBefore delay hdelay))
  split at h
  · rename_i hfence
    unfold assertActiveFence at hfence
    split at hfence
    · cases hfence
    · rename_i hactive
      cases hfence
      cases h
      exact .inl ⟨by simpa using hactive, rfl⟩
  split at h
  · rename_i hstatus
    cases h
    exact .inr (.inl ⟨hstatus, rfl⟩)
  right; right
  split at h
  · rename_i hupdate
    simp only [updateActions, bind, Except.bind, pure, Except.pure] at hupdate
    split at hupdate
    · rename_i hconstraints
      obtain ⟨c, hc, hfalse⟩ := requireConstraints_eq_error hconstraints
      obtain ⟨r, hr, hcr⟩ := List.mem_flatMap.1 hc
      obtain ⟨hrmem, hrp⟩ := List.mem_filter.1 hr
      have hra : r = a := Table.eq_of_clashes hrmem hmem (clashes_of_id_eq (hselect r hrp))
      subst hra
      exact ⟨c, hcr, hfalse⟩
    · cases hupdate
  rename_i updated hupdate
  obtain ⟨n, db₁⟩ := updated
  obtain ⟨hn, hdb₁, hvalid⟩ := updateActions_ok hupdate
  exfalso
  split at h
  · rename_i hone
    have hcount : db.externalActions.count (fun r => r.id == a.id && r.status == a.status &&
        r.actionAttemptCount == a.actionAttemptCount) = 1 :=
      Table.count_eq_one hmem (by simp) fun s hs => by
        rw [clashes_comm]
        exact clashes_of_id_eq (hselect s hs)
    simp [requireOneRow, hn, hcount] at hone
  split at h
  · rename_i happend
    exact appendAttempt_error hdb hunused hmem rfl rfl (by rw [hdb₁]) happend
  rename_i db₂ happend
  have hrewrites : Rewrites db db₂ a (transitioned now request a) :=
    rewrites_of_update hupdate happend ha (by simp) hselect rfl ⟨rfl, rfl⟩
  have hfinal := lockAction_eq_ok.2 hrewrites.action_self
  rw [hfinal] at h
  cases h

theorem revise_ok {attemptId : UUID} {request : RevisionRequest}
    (h : revise db now attemptId request = .ok (a', db')) :
    request.fence.active now db = true ∧ ∃ a, db.action request.actionId = some a ∧
      a.status = .succeeded ∧ a.revision = request.expectedRevision ∧
      a.providerResourceIdentifier ≠ none ∧ a' = revised now request a ∧
      Rewrites db db' a a' := by
  simp only [revise, bind, Except.bind, throw, throwThe, MonadExceptOf.throw, pure,
    Except.pure] at h
  split at h
  · cases h
  rename_i hfence
  split at h
  · cases h
  rename_i a hlock
  rw [lockAction_eq_ok] at hlock
  split at h
  · cases h
  rename_i hcurrent
  push Not at hcurrent
  obtain ⟨hstatus, hrevision, hprovider⟩ := hcurrent
  split at h
  · cases h
  rename_i updated hupdate
  split at h
  · cases h
  split at h
  · cases h
  rename_i db₂ happend
  split at h
  · cases h
  rename_i a₂ hfinal
  cases h
  have hrewrites : Rewrites db db' a (revised now request a) :=
    rewrites_of_update hupdate happend hlock (by simp [hstatus, hrevision]) (by simp; grind) rfl
      ⟨rfl, rfl⟩
  have ha' : a' = revised now request a := by
    have := hrewrites.action_self.symm.trans (lockAction_eq_ok.1 hfinal)
    exact (Option.some.inj this).symm
  subst ha'
  exact ⟨assertActiveFence_eq_ok.1 hfence, a, hlock, hstatus, hrevision, hprovider, rfl,
    hrewrites⟩

lemma appendSameStatus_ok {attemptId : UUID} {fence : ExecutionFence} {name : String}
    (h : appendSameStatus db now attemptId a fence name = .ok db')
    (ha : db.action id = some a) : Rewrites db db' a (touch fence now a) := by
  simp only [appendSameStatus, bind, Except.bind] at h
  split at h
  · cases h
  rename_i updated hupdate
  split at h
  · cases h
  exact rewrites_of_update hupdate h ha (by simp) (by simp; grind) rfl ⟨rfl, rfl⟩

theorem reserveOrGet_ok {actionId attemptId : UUID} {request : ReservationRequest}
    {reservation : ActionReservation}
    (h : reserveOrGet db now actionId attemptId request = .ok (reservation, db')) :
    request.fence.active now db = true ∧
      ((db.actionAt request.actionScopeKey = none ∧
          reservation = ⟨reservedAction now actionId request, .created⟩ ∧
          Inserts db db' (reservedAction now actionId request)) ∨
        ∃ a, db.actionAt request.actionScopeKey = some a ∧
          a.provider = request.provider ∧ a.operation = request.operation ∧
          reservation = ⟨touch request.fence now a, reservationKind request a⟩ ∧
          Rewrites db db' a (touch request.fence now a)) := by
  simp only [reserveOrGet, bind, Except.bind, throw, throwThe, MonadExceptOf.throw, pure,
    Except.pure] at h
  split at h
  · cases h
  split at h
  · cases h
  rename_i hfence
  refine ⟨assertActiveFence_eq_ok.1 hfence, ?_⟩
  split at h
  · rename_i habsent
    split at h
    · cases h
    rename_i hvalid
    split at h
    · cases h
    rename_i rows hinsert
    split at h
    · cases h
    rename_i a hlock
    split at h
    · cases h
    rename_i db₂ happend
    cases h
    have ha : a = reservedAction now actionId request := by
      rw [lockAction_eq_ok, action_eq_some_iff, Table.rows_insert hinsert] at hlock
      exact Table.eq_of_clashes (t := rows) (by rw [Table.rows_insert hinsert]; exact hlock.1)
        (by simp [Table.rows_insert hinsert]) (clashes_of_id_eq hlock.2)
    subst ha
    obtain ⟨history, hhistory, rfl⟩ := appendAttempt_ok happend
    exact .inl ⟨habsent, rfl, ⟨rfl, rfl, rfl⟩, habsent, hinsert,
      requireConstraints_eq_ok.1 hvalid, _, Table.rows_insert hhistory, rfl, rfl⟩
  · rename_i a hpresent
    split at h
    · cases h
    rename_i hsupported
    push Not at hsupported
    split at h
    · cases h
    rename_i db₂ happend
    split at h
    · cases h
    rename_i a₂ hlock
    cases h
    have hrewrites := appendSameStatus_ok happend (action_of_actionAt hpresent)
    have ha : a₂ = touch request.fence now a := by
      have := hrewrites.action_self.symm.trans (lockAction_eq_ok.1 hlock)
      exact (Option.some.inj this).symm
    subst ha
    exact .inr ⟨a, hpresent, hsupported.1, hsupported.2, rfl, hrewrites⟩

end ExternalActionRepository

end DeploymentLab
