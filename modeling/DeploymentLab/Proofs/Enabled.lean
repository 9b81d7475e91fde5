import DeploymentLab.Library.Reach
import DeploymentLab.Proofs.History

/-!
# Awaits that nothing keeps from success

A transaction succeeds under an active fence where its row, its constraints and its identifiers
allow it, and a call of a provider where the provider may answer it. Each is told here with what it
leaves as it was, so that one may follow the other.
-/

namespace DeploymentLab

open Interaction Database ExternalActionRepository

section Transactions

variable {db db' : Database} {now : Timestamp} {x y : UUID} {a a' : ExternalAction} {n : ℕ}

lemma active_of_sameEvidence {fence : ExecutionFence} (h : SameEvidence db db') :
    fence.active now db' = fence.active now db := by
  unfold ExecutionFence.active
  rw [h.1, h.2.1]

/-- There are identifiers for `n` more transactions, each of which uses one. -/
def Room (n : ℕ) (db : Database) : Prop :=
  ∃ ids : List UUID, n ≤ ids.length ∧ ids.Nodup ∧ ∀ x ∈ ids, db.unused x = true

lemma Room.mono {m : ℕ} (hroom : Room n db) (hle : m ≤ n) : Room m db := by
  obtain ⟨ids, hlength, hids⟩ := hroom
  exact ⟨ids, hle.trans hlength, hids⟩

/-- A transaction that has used the identifier `x` leaves the others unused. -/
def UsesOnly (x : UUID) (db db' : Database) : Prop :=
  ∀ y, y ≠ x → db.unused y = true → db'.unused y = true

lemma Room.take (hroom : Room (n + 1) db) :
    ∃ x, db.unused x = true ∧ ∀ db', UsesOnly x db db' → Room n db' := by
  obtain ⟨ids, hlength, hnodup, hunused⟩ := hroom
  cases ids with
  | nil => exact absurd hlength (Nat.not_succ_le_zero n)
  | cons x ids =>
    rw [List.nodup_cons] at hnodup
    refine ⟨x, hunused x List.mem_cons_self, fun db' huses => ?_⟩
    refine ⟨ids, Nat.le_of_succ_le_succ hlength, hnodup.2, fun y hy => ?_⟩
    refine huses y ?_ (hunused y (List.mem_cons_of_mem x hy))
    rintro rfl
    exact hnodup.1 hy

lemma usesOnly_of_appends {row : ExternalActionAttempt} (hevidence : SameEvidence db db')
    (happends : Appends db db' row) (hrow : row.id = x)
    (hactions : ∀ b ∈ db'.externalActions.rows, b.id = x ∨ ∃ r ∈ db.externalActions.rows,
      b.id = r.id) : UsesOnly x db db' := by
  intro y hne hunused
  simp only [unused, Bool.and_eq_true, List.all_eq_true, bne_iff_ne] at hunused ⊢
  refine ⟨⟨?_, fun b hb => ?_⟩, fun b hb => ?_⟩
  · rw [hevidence.2.2]
    exact hunused.1.1
  · rcases hactions b hb with heq | ⟨r, hr, heq⟩
    · rw [heq]
      exact hne.symm
    · rw [heq]
      exact hunused.1.2 r hr
  · rw [happends, List.mem_append, List.mem_singleton] at hb
    rcases hb with hb | rfl
    · exact hunused.2 b hb
    · rw [hrow]
      exact hne.symm

lemma Database.Rewrites.usesOnly {row : ExternalActionAttempt} (hrewrites : Rewrites db db' a a')
    (happends : Appends db db' row) (hrow : row.id = x) : UsesOnly x db db' := by
  refine usesOnly_of_appends hrewrites.evidence happends hrow fun b hb => .inr ?_
  rw [hrewrites.rows] at hb
  obtain ⟨r, hr, rfl⟩ := List.mem_map.1 hb
  split
  · exact ⟨a, hrewrites.present, hrewrites.id_eq⟩
  · exact ⟨r, hr, rfl⟩

lemma Database.Inserts.usesOnly {row : ExternalActionAttempt} (hinserts : Inserts db db' a)
    (happends : Appends db db' row) (hrow : row.id = x) (ha : a.id = x) : UsesOnly x db db' := by
  refine usesOnly_of_appends hinserts.evidence happends hrow fun b hb => ?_
  rw [hinserts.rows, List.mem_append, List.mem_singleton] at hb
  rcases hb with hb | rfl
  · exact .inr ⟨b, hb, rfl⟩
  · exact .inl ha

/-- A transition between statuses of an open row breaks no constraint. -/
lemma open_constraints {request : TransitionRequest} (ha : ∀ c ∈ a.checkConstraints, c.2 = true)
    (hopen : a.status ≠ .succeeded) (hnew : request.newStatus ≠ .succeeded)
    (hunknown : request.newStatus ≠ .outcomeUnknown)
    (hcompleted : request.values.completedAt = none) :
    ∀ c ∈ (transitioned now request a).checkConstraints, c.2 = true := by
  simp only [ExternalAction.checkConstraints, List.forall_mem_cons, decide_eq_true_eq] at ha ⊢
  obtain ⟨hrevision, hcount, hcompletion, -, -⟩ := ha
  have hunfinished : a.completedAt = none := by simpa [hopen] using hcompletion
  refine ⟨hrevision, Int.le_add_one hcount, ?_, ?_, by simp⟩
  · simp [transitioned, hnew, hcompleted, hunfinished]
  · simp [transitioned, hunknown]

/-- A transition succeeds under an active fence, from a status that it expects. -/
lemma transition_succeeds {request : TransitionRequest} (hdb : LedgerValid db)
    (hfence : request.fence.active now db = true) (hunused : db.unused x = true)
    (hwell : request.WellFormed) (ha : db.action request.actionId = some a)
    (hstatus : a.status ∈ request.expectedStatuses)
    (hvalid : ∀ c ∈ (transitioned now request a).checkConstraints, c.2 = true) :
    ∃ db', transition db now x request = .ok (transitioned now request a, db') ∧
      Rewrites db db' a (transitioned now request a) ∧ UsesOnly x db db' := by
  cases h : transition db now x request with
  | error failure =>
    exfalso
    rcases transition_error hdb hunused hwell ha h with
      ⟨hinactive, -⟩ | ⟨hother, -⟩ | ⟨c, hc, hbroken⟩
    · rw [hfence] at hinactive
      cases hinactive
    · exact hother hstatus
    · rw [hvalid c hc] at hbroken
      cases hbroken
  | ok result =>
    obtain ⟨a', db'⟩ := result
    obtain ⟨-, b, hb, -, rfl, hrewrites⟩ := transition_ok h
    obtain rfl : a = b := Option.some.inj (ha.symm.trans hb)
    exact ⟨db', rfl, hrewrites, hrewrites.usesOnly (transition_appends h ha) rfl⟩

/-- A reservation of an operation that the ledger supports fails for a row of another operation
only. -/
lemma reserveOrGet_succeeds {request : ReservationRequest} (hdb : LedgerValid db)
    (hx : db.unused x = true)
    (hsupported : (request.provider, request.operation) ∈ supportedExternalActions)
    (hfence : request.fence.active now db = true)
    (hrow : ∀ a, db.actionAt request.actionScopeKey = some a →
      a.provider = request.provider ∧ a.operation = request.operation) :
    ∃ reservation db', reserveOrGet db now x x request = .ok (reservation, db') := by
  cases h : reserveOrGet db now x x request with
  | ok result => exact ⟨result.1, result.2, rfl⟩
  | error failure =>
    exfalso
    obtain ⟨hother | hinactive | ⟨a, ha, hother⟩, -⟩ := reserveOrGet_error hdb hx hx h
    · exact hother hsupported
    · rw [hfence] at hinactive
      cases hinactive
    · rcases hother with hother | hother
      · exact hother (hrow a ha).1
      · exact hother (hrow a ha).2

/-- A reservation makes the row that its scope is to have. -/
lemma reserveOrGet_creates {request : ReservationRequest} (hdb : LedgerValid db)
    (hx : db.unused x = true)
    (hsupported : (request.provider, request.operation) ∈ supportedExternalActions)
    (hfence : request.fence.active now db = true)
    (habsent : db.actionAt request.actionScopeKey = none) :
    ∃ db', reserveOrGet db now x x request = .ok (⟨reservedAction now x request, .created⟩, db') ∧
      Inserts db db' (reservedAction now x request) ∧ UsesOnly x db db' := by
  obtain ⟨reservation, db', h⟩ := reserveOrGet_succeeds hdb hx hsupported hfence fun a ha => by
    rw [habsent] at ha
    cases ha
  have happends := reserveOrGet_appends h
  obtain ⟨-, ⟨-, rfl, hinserts⟩ | ⟨a, ha, -⟩⟩ := reserveOrGet_ok h
  · rw [habsent] at happends
    exact ⟨db', h, hinserts, hinserts.usesOnly happends rfl rfl⟩
  · rw [habsent] at ha
    cases ha

/-- A reservation takes the row that its scope has. -/
lemma reserveOrGet_replays {request : ReservationRequest} (hdb : LedgerValid db)
    (hx : db.unused x = true)
    (hsupported : (request.provider, request.operation) ∈ supportedExternalActions)
    (hfence : request.fence.active now db = true)
    (ha : db.actionAt request.actionScopeKey = some a) (hprovider : a.provider = request.provider)
    (hoperation : a.operation = request.operation) :
    ∃ db', reserveOrGet db now x x request =
        .ok (⟨touch request.fence now a, reservationKind request a⟩, db') ∧
      Rewrites db db' a (touch request.fence now a) ∧ UsesOnly x db db' := by
  obtain ⟨reservation, db', h⟩ := reserveOrGet_succeeds hdb hx hsupported hfence fun b hb => by
    obtain rfl : a = b := Option.some.inj (ha.symm.trans hb)
    exact ⟨hprovider, hoperation⟩
  have happends := reserveOrGet_appends h
  obtain ⟨-, ⟨habsent, -⟩ | ⟨b, hb, -, -, rfl, hrewrites⟩⟩ := reserveOrGet_ok h
  · rw [ha] at habsent
    cases habsent
  · obtain rfl : a = b := Option.some.inj (ha.symm.trans hb)
    rw [ha] at happends
    exact ⟨db', h, hrewrites, hrewrites.usesOnly happends rfl⟩

end Transactions

/-- Handler `i` has not been told to stop. -/
structure Unsignalled {S ρ : Type} (i : ℕ) (w : World S ρ) : Prop where
  owned : (w.context i).ownershipLost = false
  uncancelled : (w.context i).customerCancellation = false

/-- Nothing but the database `db` is new in `w'` to a handler. -/
structure Becomes {S ρ : Type} (w : World S ρ) (db : Database) (w' : World S ρ) : Prop where
  database : w'.database = db
  now : w'.now = w.now
  context : w'.context = w.context

lemma Unsignalled.becomes {S ρ : Type} {i : ℕ} {w w' : World S ρ} {db : Database}
    (h : Unsignalled i w) (hbecomes : Becomes w db w') : Unsignalled i w' := by
  refine ⟨?_, ?_⟩
  · rw [hbecomes.context]
    exact h.owned
  · rw [hbecomes.context]
    exact h.uncancelled

/-- Whenever it is called with `e`, the provider may answer `a`. -/
def Provider.MayAnswer {S M : Type} (providers : Provider S M) (e : Effect) (a : e.Answer) : Prop :=
  ∀ now s, ∃ m s', providers.respond m now e s = some (.ok a, s')

section Awaits

variable [Runtime] {S M J ρ β : Type} {setup : Setup J ρ} {providers : Provider S M} {i : ℕ}
  {Q : World S ρ → Prop} {w : World S ρ} {x : UUID} {e : Effect} {a : e.Answer} {db : Database}

lemma may_checkpoint {R : β → World S ρ → Prop} {p : Handler β} (h : Unsignalled i w)
    (hp : (machine setup providers).May i Q R p w) :
    (machine setup providers).May i Q R (HandlerContext.raiseIfCancelled.bind fun _ => p) w := by
  have hview : (machine setup providers).view i w = w.context i := rfl
  simp only [HandlerContext.raiseIfCancelled, Prog.bind, Machine.May, hview, h.owned,
    h.uncancelled, Bool.false_eq_true, if_false]
  exact hp

/-- A transaction that succeeds. -/
lemma may_transaction {R : e.Answer → World S ρ → Prop} (hunused : w.database.unused x = true)
    (hrun : w.database.execute setup.maximumBytes w.now x x e = some (.ok a, db))
    (hR : ∀ w', Becomes w db w' → R a w') :
    (machine setup providers).May i Q R (perform e) w := by
  let issued := (machine setup providers).observe i (.issued e) w
  have hexec : (machine setup providers).exec i e (.identifiers x x) issued = some (.ok a,
      { issued with database := db, log := .executed i w.now e (.ok a) :: issued.log }) := by
    simp only [machine, issued, hunused, Bool.and_self, if_true, hrun]
    rfl
  exact Machine.may_perform hexec (hR _ ⟨rfl, rfl, rfl⟩)

/-- A call that the provider may answer. -/
lemma may_answered {R : e.Answer → World S ρ → Prop} (he : e.isTransaction = false)
    (hanswers : providers.MayAnswer e a) (hR : ∀ w', Becomes w w.database w' → R a w') :
    (machine setup providers).May i Q R (perform e) w := by
  let issued := (machine setup providers).observe i (.issued e) w
  obtain ⟨m, s, hrespond⟩ := hanswers w.now issued.provider
  have hexec : (machine setup providers).exec i e (.respond m) issued = some (.ok a,
      { issued with provider := s, log := .executed i w.now e (.ok a) :: issued.log }) := by
    have hrespond' : providers.respond m issued.now e issued.provider = some (.ok a, s) := hrespond
    simp only [machine, he, hrespond', Bool.false_eq_true, if_false]
    rfl
  exact Machine.may_perform hexec (hR _ ⟨rfl, rfl, rfl⟩)

/-- Nothing keeps handler `i` from going on with the task, for `n` transactions at least. -/
structure Unhindered (task : TaskExecution) (n i : ℕ) (w : World S ρ) : Prop where
  ledger : LedgerValid w.database
  fence : task.executionFence.active w.now w.database = true
  unsignalled : Unsignalled i w
  room : Room n w.database

variable {task : TaskExecution} {n : ℕ} {w' : World S ρ} {action : ExternalAction}

omit [Runtime] in
lemma Unhindered.becomes (h : Unhindered task n i w) (hbecomes : Becomes w w.database w') :
    Unhindered task n i w' := by
  refine ⟨?_, ?_, h.unsignalled.becomes hbecomes, ?_⟩
  · rw [hbecomes.database]
    exact h.ledger
  · rw [hbecomes.database, hbecomes.now]
    exact h.fence
  · rw [hbecomes.database]
    exact h.room

omit [Runtime] in
lemma Unhindered.mono {m : ℕ} (h : Unhindered task n i w) (hle : m ≤ n) : Unhindered task m i w :=
  ⟨h.ledger, h.fence, h.unsignalled, h.room.mono hle⟩

omit [Runtime] in
/-- A transaction that wrote over a row of the ledger leaves the handler unhindered. -/
lemma Unhindered.rewrites {m : ℕ} {action' : ExternalAction} (h : Unhindered task m i w)
    (hrewrites : Rewrites w.database db action action') (hroom : Room n db)
    (hbecomes : Becomes w db w') : Unhindered task n i w' := by
  refine ⟨?_, ?_, h.unsignalled.becomes hbecomes, ?_⟩
  · rw [hbecomes.database]
    exact hrewrites.ledgerValid h.ledger
  · rw [hbecomes.database, hbecomes.now, active_of_sameEvidence hrewrites.evidence]
    exact h.fence
  · rw [hbecomes.database]
    exact hroom

/-- A transition that succeeds. -/
lemma transition_may {request : TransitionRequest} {R : ExternalAction → World S ρ → Prop}
    (h : Unhindered task (n + 1) i w) (hrow : w.database.action action.id = some action)
    (hfence : request.fence = task.executionFence) (hid : request.actionId = action.id)
    (hwell : request.WellFormed) (hstatus : action.status ∈ request.expectedStatuses)
    (hvalid : ∀ c ∈ (transitioned w.now request action).checkConstraints, c.2 = true)
    (hR : ∀ w', Unhindered task n i w' →
      w'.database.action action.id = some (transitioned w.now request action) →
        R (transitioned w.now request action) w') :
    (machine setup providers).May i Q R (perform (.transition request)) w := by
  obtain ⟨x, hunused, hroom⟩ := h.room.take
  have hactive : request.fence.active w.now w.database = true := by
    rw [hfence]
    exact h.fence
  have hlocked : w.database.action request.actionId = some action := by
    rw [hid]
    exact hrow
  obtain ⟨db, htransition, hrewrites, huses⟩ :=
    transition_succeeds h.ledger hactive hunused hwell hlocked hstatus hvalid
  have hrun : w.database.execute setup.maximumBytes w.now x x (.transition request) =
      some (.ok (transitioned w.now request action), db) :=
    congrArg (fun r => some (w.database.settle r)) htransition
  refine may_transaction hunused hrun fun w' hbecomes => ?_
  refine hR w' (h.rewrites hrewrites (hroom db huses) hbecomes) ?_
  rw [hbecomes.database, ← hrewrites.id_eq]
  exact hrewrites.action_self

/-- Where no handler is at work, a run of the machine takes the job to where it may come. -/
theorem runs_of_may {j : J} {c : Config handlerSignature ρ (World S ρ)}
    (hidle : ∀ k < c.count, (c.thread k).active = false)
    (hmay : ∀ w, Becomes c.world c.world.database w →
      (machine setup providers).May c.count Q (fun _ _ => False) (setup.job j) w) :
    ∃ moves c', (machine setup providers).run c (.start j :: moves) = some c' ∧ Q c'.world ∧
      ∀ mv ∈ moves, mv.Of c.count := by
  have hstart : (machine setup providers).mayStart c.thread c.count = true := by
    simp only [machine, Bool.or_eq_true, List.all_eq_true, List.mem_range]
    exact .inr fun k hk => by rw [hidle k hk]; rfl
  exact Machine.May.run_start hstart rfl (hmay _ ⟨rfl, rfl, rfl⟩)

end Awaits

end DeploymentLab
