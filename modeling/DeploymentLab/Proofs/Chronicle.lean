import DeploymentLab.Proofs.History
import DeploymentLab.Proofs.PolicyOrder

/-!
# Faithful histories

The rows of history of an action narrate its life: they are numbered from one without gaps, each
goes on from the one before, and the last one has the action's present status and revision.
-/

namespace DeploymentLab

open Interaction Relational Database ExternalActionRepository

/-- The rows of history of the action `id`, oldest first. -/
def Database.historyOf (db : Database) (id : UUID) : List ExternalActionAttempt :=
  db.externalActionAttempts.rows.filter fun row => row.externalActionId == id

/-- By how much a row of history raises the revision. -/
def ExternalActionAttempt.revisions (row : ExternalActionAttempt) : ℤ :=
  if row.transition = "revision_reserved" then 1 else 0

/-- In a history, the row `later` goes on from the row `earlier`. -/
structure GoesOn (earlier later : ExternalActionAttempt) : Prop where
  status : later.previousStatus = some earlier.newStatus
  revision : later.revision = earlier.revision + later.revisions

/-- `rows` is the history of the action `a`, oldest first. -/
structure Chronicle (a : ExternalAction) (rows : List ExternalActionAttempt) : Prop where
  numbers : rows.map (·.sequenceNumber) = (List.range rows.length).map fun n : ℕ => (n : ℤ) + 1
  count : (rows.length : ℤ) = a.actionAttemptCount
  first : ∀ row ∈ rows.head?, row.previousStatus = none
  chain : rows.IsChain GoesOn
  last : ∃ row ∈ rows.getLast?, row.newStatus = a.status ∧ row.revision = a.revision

/-- The row of history records that the action `a` has become `a'`. -/
structure Narrates (a a' : ExternalAction) (row : ExternalActionAttempt) : Prop where
  action : row.externalActionId = a.id
  number : row.sequenceNumber = a.actionAttemptCount + 1
  previous : row.previousStatus = some a.status
  status : row.newStatus = a'.status
  revision : row.revision = a'.revision
  step : a'.revision = a.revision + row.revisions

section Chronicles

variable {db db' : Database} {a a' : ExternalAction} {row : ExternalActionAttempt}
  {rows : List ExternalActionAttempt}

lemma Chronicle.append (ha : Chronicle a rows) (hrow : Narrates a a' row)
    (hcount : a'.actionAttemptCount = a.actionAttemptCount + 1) :
    Chronicle a' (rows ++ [row]) := by
  obtain ⟨last, hlast, hstatus, hrevision⟩ := ha.last
  have hne : rows ≠ [] := by
    rintro rfl
    cases hlast
  have hlength : ((rows ++ [row]).length : ℤ) = a.actionAttemptCount + 1 := by
    rw [List.length_append, List.length_singleton, Int.natCast_add, ha.count]
    rfl
  refine ⟨?_, hlength.trans hcount.symm, fun r hr => ?_, ?_, row, by simp, hrow.status,
    hrow.revision⟩
  · rw [List.map_append, ha.numbers, List.length_append, List.length_singleton, List.range_succ,
      List.map_append, List.map_singleton, List.map_singleton, hrow.number, ← ha.count]
  · rw [List.head?_append_of_ne_nil _ hne] at hr
    exact ha.first r hr
  · refine List.isChain_append.2 ⟨ha.chain, List.IsChain.singleton row, fun r hr s hs => ?_⟩
    obtain rfl : r = last := Option.some.inj (hr.symm.trans hlast)
    obtain rfl : row = s := Option.some.inj hs
    refine ⟨?_, ?_⟩
    · rw [hrow.previous, hstatus]
    · rw [hrow.revision, hrow.step, hrevision]

lemma Chronicle.singleton (hnumber : row.sequenceNumber = 1) (hprevious : row.previousStatus = none)
    (hcount : a.actionAttemptCount = 1) (hstatus : row.newStatus = a.status)
    (hrevision : row.revision = a.revision) : Chronicle a [row] := by
  refine ⟨?_, by rw [hcount]; rfl, fun r hr => ?_, List.IsChain.singleton row, row, rfl, hstatus,
    hrevision⟩
  · simp [hnumber]
  · obtain rfl : row = r := Option.some.inj hr
    exact hprevious

lemma Appends.historyOf (h : Appends db db' row) (id : UUID) :
    db'.historyOf id = db.historyOf id ++ if row.externalActionId = id then [row] else [] := by
  unfold Database.historyOf
  rw [h, List.filter_append]
  by_cases hid : row.externalActionId = id
  · simp [hid]
  · simp [hid]

/-- Every action of the database is sound and has its history. -/
structure Chronicled (db : Database) : Prop where
  ledger : LedgerValid db
  sound : ∀ a ∈ db.externalActions.rows, a.Sound
  chronicle : ∀ a ∈ db.externalActions.rows, Chronicle a (db.historyOf a.id)

lemma Chronicled.frame (hdb : Chronicled db) (hactions : db'.externalActions = db.externalActions)
    (hattempts : db'.externalActionAttempts = db.externalActionAttempts) : Chronicled db' := by
  refine ⟨hdb.ledger.frame hactions hattempts, ?_, ?_⟩
  · rw [hactions]
    exact hdb.sound
  · unfold Database.historyOf
    rw [hactions, hattempts]
    exact hdb.chronicle

/-- A transaction that rewrites one action and narrates it keeps the histories. -/
lemma Chronicled.rewrites (hdb : Chronicled db) (hrewrites : Rewrites db db' a a')
    (happends : Appends db db' row) (hrow : Narrates a a' row) (ha' : a'.Sound) :
    Chronicled db' := by
  refine ⟨hrewrites.ledgerValid hdb.ledger, fun b hb => ?_, fun b hb => ?_⟩
  · rw [hrewrites.rows] at hb
    obtain ⟨r, hr, rfl⟩ := List.mem_map.1 hb
    split
    · exact ha'
    · exact hdb.sound r hr
  · rw [hrewrites.rows] at hb
    obtain ⟨r, hr, rfl⟩ := List.mem_map.1 hb
    rw [happends.historyOf]
    by_cases hid : r.id = a.id
    · have hra : r = a := Table.eq_of_clashes hr hrewrites.present (clashes_of_id_eq hid)
      subst hra
      rw [if_pos rfl, hrewrites.id_eq, if_pos hrow.action]
      exact (hdb.chronicle r hr).append hrow hrewrites.count
    · rw [if_neg hid, hrow.action, if_neg (Ne.symm hid), List.append_nil]
      exact hdb.chronicle r hr

/-- A transaction that inserts an action with its first row of history keeps the histories. -/
lemma Chronicled.inserts (hdb : Chronicled db) (hinserts : Inserts db db' a)
    (happends : Appends db db' row) (haction : row.externalActionId = a.id)
    (hnew : Chronicle a [row]) (ha : a.Sound) : Chronicled db' := by
  have hfresh : ∀ b ∈ db.externalActions.rows, b.id ≠ a.id := by
    intro b hb hid
    have hclash : db.externalActions.insert a = none :=
      Table.insert_eq_none_iff.2 ⟨b, hb, clashes_of_id_eq hid⟩
    rw [hinserts.table] at hclash
    cases hclash
  have hempty : db.historyOf a.id = [] := by
    refine List.filter_eq_nil_iff.2 fun r hr hid => ?_
    obtain ⟨b, hb, hbid, -⟩ := hdb.ledger.history r hr
    exact hfresh b hb (hbid.trans (by simpa using hid))
  refine ⟨hinserts.ledgerValid hdb.ledger, fun b hb => ?_, fun b hb => ?_⟩
  · rw [hinserts.rows, List.mem_append, List.mem_singleton] at hb
    rcases hb with hb | rfl
    · exact hdb.sound b hb
    · exact ha
  · rw [hinserts.rows, List.mem_append, List.mem_singleton] at hb
    rw [happends.historyOf]
    rcases hb with hb | rfl
    · rw [haction, if_neg (hfresh b hb).symm, List.append_nil]
      exact hdb.chronicle b hb
    · rw [hempty, if_pos haction, List.nil_append]
      exact hnew

end Chronicles

/-- What a row of history says of the state of its action. -/
def ExternalActionAttempt.summary (row : ExternalActionAttempt) :
    UUID × ExternalActionStatus × ℤ :=
  (row.externalActionId, row.newStatus, row.revision)

def ExternalAction.summary (a : ExternalAction) : UUID × ExternalActionStatus × ℤ :=
  (a.id, a.status, a.revision)

/-- The calls that write to the ledger. -/
def Effect.isLedgerCall : Effect → Bool
  | .reserveOrGet _ | .transition _ | .revise _ => true
  | _ => false

namespace Event

variable {ρ : Type}

/-- The state in which a call of the ledger has left its action. -/
def committed : Event ρ → Option (UUID × ExternalActionStatus × ℤ)
  | .executed _ _ (.reserveOrGet _) (.ok reservation) =>
    some (ExternalAction.summary (ActionReservation.action reservation))
  | .executed _ _ (.transition _) (.ok a) => some (ExternalAction.summary a)
  | .executed _ _ (.revise _) (.ok a) => some (ExternalAction.summary a)
  | _ => none

/-- A reservation has created the action of `scope`. -/
def created (scope : String) : Event ρ → Bool
  | .executed _ _ (.reserveOrGet request) (.ok reservation) =>
    ReservationRequest.actionScopeKey request == scope &&
      ActionReservation.kind reservation == .created
  | _ => false

/-- A constraint of the database has refused a call of the ledger. -/
def refused : Event ρ → Bool
  | .executed _ _ e (.error (.integrityError _)) => e.isLedgerCall
  | _ => false

end Event

lemma Event.refused_error {ρ : Type} {i : ℕ} {now : Timestamp} {e : Effect} {x : Exn}
    (hx : ∀ name, x ≠ .integrityError name) :
    (.executed i now e (.error x) : Event ρ).refused = false := by
  cases x <;> first | rfl | exact absurd rfl (hx _)

/-- An event that takes the database `db` to `db'` keeps its histories. -/
structure Recounts {ρ : Type} (db db' : Database) (event : Event ρ) : Prop where
  chronicled : Chronicled db'
  rows : db'.externalActionAttempts.rows.map (·.summary) =
    db.externalActionAttempts.rows.map (·.summary) ++ event.committed.toList
  actions : ∀ scope, (db'.actionAt scope).isSome =
    ((db.actionAt scope).isSome || event.created scope)
  fresh : ∀ scope, event.created scope = true → (db.actionAt scope).isSome = false
  accepted : event.refused = false

section Transactions

variable {ρ : Type} {db db' : Database} {a a' : ExternalAction} {now : Timestamp} {attemptId : UUID}
  {row : ExternalActionAttempt} {event : Event ρ} {i : ℕ}

/-- An event that leaves the two tables of the ledger alone. -/
lemma recounts_frame (hdb : Chronicled db) (hactions : db'.externalActions = db.externalActions)
    (hattempts : db'.externalActionAttempts = db.externalActionAttempts)
    (hcommitted : event.committed = none) (hcreated : ∀ scope, event.created scope = false)
    (haccepted : event.refused = false) : Recounts db db' event := by
  refine ⟨hdb.frame hactions hattempts, ?_, fun scope => ?_, fun scope h => ?_, haccepted⟩
  · rw [hcommitted, hattempts, Option.toList_none, List.append_nil]
  · unfold Database.actionAt
    rw [hcreated, hactions, Bool.or_false]
  · rw [hcreated] at h
    cases h

lemma recounts_rewrites (hdb : Chronicled db) (hrewrites : Rewrites db db' a a')
    (happends : Appends db db' row) (hrow : Narrates a a' row) (ha' : a'.Sound)
    (hcommitted : event.committed = some a'.summary)
    (hcreated : ∀ scope, event.created scope = false) (haccepted : event.refused = false) :
    Recounts db db' event := by
  refine ⟨hdb.rewrites hrewrites happends hrow ha', ?_, fun scope => ?_, fun scope h => ?_,
    haccepted⟩
  · have hsummary : row.summary = a'.summary := by
      unfold ExternalActionAttempt.summary ExternalAction.summary
      rw [hrow.action, hrow.status, hrow.revision, hrewrites.id_eq]
    rw [happends, List.map_append, List.map_singleton, hcommitted, Option.toList_some, hsummary]
  · rw [hrewrites.actionAt_eq, Option.isSome_map, hcreated, Bool.or_false]
  · rw [hcreated] at h
    cases h

lemma recounts_inserts (hdb : Chronicled db) (hinserts : Inserts db db' a)
    (happends : Appends db db' row) (haction : row.externalActionId = a.id)
    (hnew : Chronicle a [row]) (ha : a.Sound) (hcommitted : event.committed = some a.summary)
    (hcreated : ∀ scope, event.created scope = (a.actionScopeKey == scope))
    (haccepted : event.refused = false) : Recounts db db' event := by
  refine ⟨hdb.inserts hinserts happends haction hnew ha, ?_, fun scope => ?_, fun scope h => ?_,
    haccepted⟩
  · obtain ⟨last, hlast, hstatus, hrevision⟩ := hnew.last
    obtain rfl : row = last := Option.some.inj hlast
    have hsummary : row.summary = a.summary := by
      unfold ExternalActionAttempt.summary ExternalAction.summary
      rw [haction, hstatus, hrevision]
    rw [happends, List.map_append, List.map_singleton, hcommitted, Option.toList_some, hsummary]
  · rw [hcreated]
    by_cases hscope : scope = a.actionScopeKey
    · rw [hscope, hinserts.actionAt_self]
      simp
    · rw [hinserts.actionAt_of_ne hscope]
      simp [Ne.symm hscope]
  · rw [hcreated, beq_iff_eq] at h
    rw [← h, hinserts.absent]
    rfl

lemma transition_narrates {request : TransitionRequest}
    (hname : request.transition ≠ "revision_reserved") :
    Narrates a (transitioned now request a) (transitionRow attemptId request a) := by
  refine ⟨rfl, rfl, rfl, rfl, rfl, ?_⟩
  have hrevisions : (transitionRow attemptId request a).revisions = 0 := if_neg hname
  rw [hrevisions, Int.add_zero]
  rfl

lemma revise_narrates {request : RevisionRequest} (hstatus : a.status = .succeeded)
    (hrevision : a.revision = request.expectedRevision) :
    Narrates a (revised now request a) (revisionRow attemptId request a) := by
  refine ⟨rfl, rfl, ?_, rfl, rfl, ?_⟩
  · rw [hstatus]
    rfl
  · rw [hrevision]
    rfl

lemma replay_narrates {request : ReservationRequest} :
    Narrates a (touch request.fence now a) (replayRow attemptId request a) := by
  refine ⟨rfl, rfl, rfl, rfl, rfl, ?_⟩
  have hrevisions : (replayRow attemptId request a).revisions = 0 := by
    refine if_neg ?_
    change "reservation_" ++ (reservationKind request a).value ≠ _
    cases reservationKind request a <;> decide
  rw [hrevisions, Int.add_zero]
  rfl

lemma reserved_chronicle {actionId : UUID} {request : ReservationRequest} :
    Chronicle (reservedAction now actionId request) [reservedRow actionId attemptId request] :=
  Chronicle.singleton rfl rfl rfl rfl rfl

lemma reservationKind_ne_created {request : ReservationRequest} :
    reservationKind request a ≠ .created := by
  unfold reservationKind
  split
  · split
    · decide
    · decide
  · decide

lemma transition_recounts {request : TransitionRequest} {r : Outcome (.transition request)}
    (hdb : Chronicled db) (hunused : db.unused attemptId = true) (hrequest : request.Regular)
    (hrun : db.settle (transition db now attemptId request) = (r, db')) :
    Recounts db db' (.executed i now (.transition request) r : Event ρ) := by
  cases htransition : transition db now attemptId request with
  | error x =>
    rw [htransition] at hrun
    cases hrun
    refine recounts_frame hdb rfl rfl rfl (fun _ => rfl) (Event.refused_error ?_)
    rintro name rfl
    refine transition_integrity hdb.ledger hunused (fun a ha hp => ?_) htransition
    exact (hrequest.sound (hdb.sound a ha) (List.contains_iff_mem.1 hp)).constraints
  | ok result =>
    obtain ⟨a', db₁⟩ := result
    rw [htransition] at hrun
    cases hrun
    obtain ⟨-, a, ha, hstatus, rfl, hrewrites⟩ := transition_ok htransition
    have hsound := hdb.sound a (action_eq_some_iff.1 ha).1
    exact recounts_rewrites hdb hrewrites (transition_appends htransition ha)
      (transition_narrates hrequest.name) (hrequest.sound hsound hstatus) rfl (fun _ => rfl) rfl

lemma revise_recounts {request : RevisionRequest} {r : Outcome (.revise request)}
    (hdb : Chronicled db) (hunused : db.unused attemptId = true)
    (hrun : db.settle (revise db now attemptId request) = (r, db')) :
    Recounts db db' (.executed i now (.revise request) r : Event ρ) := by
  cases hrevise : revise db now attemptId request with
  | error x =>
    rw [hrevise] at hrun
    cases hrun
    refine recounts_frame hdb rfl rfl rfl (fun _ => rfl) (Event.refused_error ?_)
    rintro name rfl
    refine revise_integrity hdb.ledger hunused (fun a ha hp => ?_) hrevise
    simp only [Bool.and_eq_true, beq_iff_eq] at hp
    exact (revised_sound (hdb.sound a ha) hp.1).constraints
  | ok result =>
    obtain ⟨a', db₁⟩ := result
    rw [hrevise] at hrun
    cases hrun
    obtain ⟨-, a, ha, hstatus, hrevision, -, rfl, hrewrites⟩ := revise_ok hrevise
    have hsound := hdb.sound a (action_eq_some_iff.1 ha).1
    exact recounts_rewrites hdb hrewrites (revise_appends hrevise ha)
      (revise_narrates hstatus hrevision) (revised_sound hsound hrevision) rfl (fun _ => rfl) rfl

lemma reserveOrGet_recounts {actionId : UUID} {request : ReservationRequest}
    {r : Outcome (.reserveOrGet request)} (hdb : Chronicled db)
    (hid : db.unused actionId = true) (hunused : db.unused attemptId = true)
    (hrun : db.settle (reserveOrGet db now actionId attemptId request) = (r, db')) :
    Recounts db db' (.executed i now (.reserveOrGet request) r : Event ρ) := by
  cases hreserve : reserveOrGet db now actionId attemptId request with
  | error x =>
    rw [hreserve] at hrun
    cases hrun
    refine recounts_frame hdb rfl rfl rfl (fun _ => rfl) (Event.refused_error ?_)
    rintro name rfl
    exact (reserveOrGet_error hdb.ledger hid hunused hreserve).2 name rfl
  | ok result =>
    obtain ⟨reservation, db₁⟩ := result
    have happends := reserveOrGet_appends hreserve
    obtain ⟨-, hcase⟩ := reserveOrGet_ok hreserve
    rw [hreserve] at hrun
    cases hrun
    rcases hcase with ⟨habsent, rfl, hinserts⟩ | ⟨a, ha, -, -, rfl, hrewrites⟩
    · rw [habsent] at happends
      exact recounts_inserts hdb hinserts happends rfl reserved_chronicle reservedAction_sound rfl
        (fun scope => by simp [Event.created, reservedAction]) rfl
    · rw [ha] at happends
      have hsound := hdb.sound a (actionAt_eq_some_iff.1 ha).1
      refine recounts_rewrites hdb hrewrites happends replay_narrates hsound.touch rfl
        (fun scope => ?_) rfl
      have hkind : reservationKind request a ≠ .created := reservationKind_ne_created
      simp [Event.created, hkind]

/-- The execution of one transaction of a handler. -/
lemma execute_recounts [Runtime] {maximumBytes : ℕ} {actionId : UUID} {e : Effect} {r : Outcome e}
    (hdb : Chronicled db) (hid : db.unused actionId = true) (hunused : db.unused attemptId = true)
    (hcall : LedgerCall e)
    (hrun : db.execute maximumBytes now actionId attemptId e = some (r, db')) :
    Recounts db db' (.executed i now e r : Event ρ) := by
  cases e with
  | record request =>
    have hframe : db'.externalActions = db.externalActions ∧
        db'.externalActionAttempts = db.externalActionAttempts := by
      simp only [Database.execute, Option.some.injEq] at hrun
      cases hrecord : SourceArtifactRepository.record maximumBytes db now actionId request with
      | error x =>
        rw [hrecord] at hrun
        cases hrun
        exact ⟨rfl, rfl⟩
      | ok result =>
        obtain ⟨artifact, db₁⟩ := result
        rw [hrecord] at hrun
        cases hrun
        obtain ⟨-, artifacts, -, rfl⟩ := SourceArtifactRepository.record_ok hrecord
        exact ⟨rfl, rfl⟩
    refine recounts_frame hdb hframe.1 hframe.2 rfl (fun _ => rfl) ?_
    cases r with
    | error x => cases x <;> rfl
    | ok artifact => rfl
  | reserveOrGet request =>
    exact reserveOrGet_recounts hdb hid hunused (Option.some.inj hrun)
  | transition request => exact transition_recounts hdb hunused hcall (Option.some.inj hrun)
  | revise request => exact revise_recounts hdb hunused (Option.some.inj hrun)
  | reconciliationDelaySeconds id =>
    cases hrun
    exact recounts_frame hdb rfl rfl rfl (fun _ => rfl) rfl
  | fetchRecords | verifyGitHubIdentity | fetchContext | getComment | findCommentsByMarker
  | createComment | updateComment | fetchIssue | verifySlackIdentity | postNotification =>
    cases hrun

/-- An answer of a provider. -/
lemma respond_recounts {e : Effect} {r : Outcome e} (hdb : Chronicled db)
    (he : e.isTransaction = false) : Recounts db db (.executed i now e r : Event ρ) := by
  cases e with
  | record | reserveOrGet | transition | revise | reconciliationDelaySeconds => cases he
  | fetchRecords | verifyGitHubIdentity | fetchContext | getComment | findCommentsByMarker
  | createComment | updateComment | fetchIssue | verifySlackIdentity | postNotification =>
    refine recounts_frame hdb rfl rfl rfl (fun _ => rfl) ?_
    cases r with
    | error x => cases x <;> rfl
    | ok answer => rfl

end Transactions

/-! ## Every run -/

/-- The ledger tells faithfully what has been done to it. -/
structure Faithful {ρ : Type} (db : Database) (log : List (Event ρ)) : Prop where
  chronicled : Chronicled db
  rows : db.externalActionAttempts.rows.map (·.summary) = log.reverse.filterMap Event.committed
  created : ∀ scope, log.countP (Event.created scope) = if (db.actionAt scope).isSome then 1 else 0
  accepted : ∀ event ∈ log, event.refused = false

lemma Faithful.cons {ρ : Type} {db db' : Database} {log : List (Event ρ)} {event : Event ρ}
    (h : Faithful db log) (hevent : Recounts db db' event) : Faithful db' (event :: log) := by
  refine ⟨hevent.chronicled, ?_, fun scope => ?_, fun event' hmem => ?_⟩
  · rw [hevent.rows, h.rows, List.reverse_cons, List.filterMap_append]
    cases hcommitted : event.committed <;> simp [hcommitted]
  · rw [List.countP_cons, h.created, hevent.actions]
    by_cases hcreated : event.created scope = true
    · rw [hevent.fresh scope hcreated, hcreated]
      rfl
    · simp [hcreated]
  · rcases List.mem_cons.1 hmem with rfl | hmem
    · exact hevent.accepted
    · exact h.accepted event' hmem

section Run

variable [Runtime] {S M J : Type} {setup : Setup J DeploymentContextResult}
  {providers : Provider S M}

lemma machine_faithful : (machine setup providers).Maintains LedgerCall
    fun w => Faithful w.database w.log where
  observe i o w hw := by
    cases o with
    | issued e => exact hw.cons (recounts_frame hw.chronicled rfl rfl rfl (fun _ => rfl) rfl)
    | returned e r => exact hw
  finish i r w hw := hw.cons (recounts_frame hw.chronicled rfl rfl rfl (fun _ => rfl) rfl)
  exec i e c w r w' hw he hexec := by
    simp only [machine] at hexec
    split at hexec
    · rename_i row history
      split at hexec
      · rename_i hunused
        rw [Bool.and_eq_true] at hunused
        obtain ⟨⟨r', db⟩, hrun, heq⟩ := Option.map_eq_some_iff.1 hexec
        cases heq
        exact hw.cons (execute_recounts hw.chronicled hunused.1 hunused.2 he hrun)
      · cases hexec
    · split at hexec
      · cases hexec
      · rename_i htransaction
        obtain ⟨⟨r', provider⟩, -, heq⟩ := Option.map_eq_some_iff.1 hexec
        cases heq
        exact hw.cons (respond_recounts hw.chronicled (by simpa using htransaction))
    · cases hexec
  env c w w' hw henv := by
    simp only [machine] at henv
    split at henv
    · split at henv
      · cases henv
        exact hw
      · cases henv
    · cases henv
      exact hw
    · cases henv
      exact ⟨hw.chronicled.frame rfl rfl, hw.rows, hw.created, hw.accepted⟩
    · obtain ⟨provider, -, rfl⟩ := Option.map_eq_some_iff.1 henv
      exact hw
    · cases henv
  spawn n j w w' hw hspawn := by
    cases hspawn
    exact hw.cons (recounts_frame hw.chronicled rfl rfl rfl (fun _ => rfl) rfl)

/-- Over any number of runs of the workflow, from a ledger without actions, the history of every
action is its chronicle and the constraints hold of it; one reservation has created it, no other
action has its scope, every committed call has added one row to the histories and no other call
any, and no call was refused by a constraint. -/
theorem history_faithful [LaxCoercion] {tasks : J → SyncTask} {tick : Timestamp → Timestamp → Bool}
    {maximumBytes : ℕ} {db : Database} {now : Timestamp} {s : S}
    {moves : List (Move J (Choice M))}
    {c : Config handlerSignature DeploymentContextResult (World S DeploymentContextResult)}
    (hactions : db.externalActions.rows = []) (hattempts : db.externalActionAttempts.rows = [])
    (hrun : (machine (syncTasks tasks tick maximumBytes) providers).run
      (Config.init (World.initial db now s)) moves = some c) :
    (∀ a ∈ c.world.database.externalActions.rows,
        Chronicle a (c.world.database.historyOf a.id) ∧
        (∀ constraint ∈ a.checkConstraints, constraint.2 = true) ∧
        c.world.log.countP (Event.created a.actionScopeKey) = 1 ∧
        ∀ b ∈ c.world.database.externalActions.rows, b.actionScopeKey = a.actionScopeKey → b = a) ∧
      c.world.database.externalActionAttempts.rows.map (·.summary) =
        c.world.log.reverse.filterMap Event.committed ∧
      ∀ event ∈ c.world.log, event.refused = false := by
  have hinit : Faithful db ([] : List (Event DeploymentContextResult)) := by
    refine ⟨⟨⟨?_, ?_⟩, ?_, ?_⟩, ?_, fun scope => ?_, ?_⟩
    · simp [hactions]
    · simp [hattempts]
    · simp [hactions]
    · simp [hactions]
    · simp [hattempts]
    · simp [Database.actionAt, Table.find?, hactions]
    · simp
  have hjob : ∀ j, ((syncTasks tasks tick maximumBytes).job j).Issues LedgerCall :=
    fun j => execute_issues.mono fun e he => he.ledgerCall
  have hfaithful := machine_faithful.run hjob hinit hrun
  refine ⟨fun a ha => ?_, hfaithful.rows, hfaithful.accepted⟩
  have hat : c.world.database.actionAt a.actionScopeKey = some a :=
    actionAt_eq_some_iff.2 ⟨ha, rfl⟩
  refine ⟨hfaithful.chronicled.chronicle a ha, hfaithful.chronicled.ledger.actions a ha, ?_,
    fun b hb hscope => Table.eq_of_clashes hb ha (clashes_of_scope_eq hscope)⟩
  rw [hfaithful.created, hat]
  rfl

end Run

attribute [local instance] Sample.syncHost Sample.laxCoercion in
open Sample in
theorem history_faithful_published : ∃ c, runSync published = some c ∧
    hasPublished (past 0 c.world.log) = true ∧
    (∀ a ∈ c.world.database.externalActions.rows,
        Chronicle a (c.world.database.historyOf a.id) ∧
        (∀ constraint ∈ a.checkConstraints, constraint.2 = true) ∧
        c.world.log.countP (Event.created a.actionScopeKey) = 1 ∧
        ∀ b ∈ c.world.database.externalActions.rows, b.actionScopeKey = a.actionScopeKey → b = a) ∧
      c.world.database.externalActionAttempts.rows.map (·.summary) =
        c.world.log.reverse.filterMap Event.committed ∧
      ∀ event ∈ c.world.log, event.refused = false := by
  have hrun := runSync_published
  simp only [Option.any_eq_true] at hrun
  obtain ⟨c, hc, hpublished⟩ := hrun
  refine ⟨c, hc, hpublished, ?_⟩
  refine history_faithful ?_ ?_ hc
  · rfl
  · rfl

end DeploymentLab
