import DeploymentLab.Proofs.Ledger
import DeploymentLab.Model.World

/-!
# What a transaction writes to the ledger

The transactions of the evidence store and of the ledger, by what they do to the rows of the ledger
and by what they answer.
-/

namespace DeploymentLab

open ExternalActionRepository Database

/-- The row that an await has returned. -/
def Effect.rowOf : (e : Effect) → Outcome e → Option ExternalAction
  | .reserveOrGet _, .ok reservation => some (ActionReservation.action reservation)
  | .transition _, .ok a => some a
  | .revise _, .ok a => some a
  | _, _ => none

/-- The await `e` has been executed at the time `now`, with the outcome `r`, and has taken the
ledger of `db` to the one of `db'`. -/
inductive LedgerWrite (db db' : Database) (now : Timestamp) : (e : Effect) → Outcome e → Prop
  | frame {e : Effect} {r : Outcome e} (hrow : e.rowOf r = none)
    (hactions : db'.externalActions = db.externalActions) : LedgerWrite db db' now e r
  | creates (id : UUID) (request : ReservationRequest)
    (hinserts : Inserts db db' (reservedAction now id request)) :
    LedgerWrite db db' now (.reserveOrGet request)
      (.ok (⟨reservedAction now id request, .created⟩ : ActionReservation))
  | replays (request : ReservationRequest) (a : ExternalAction)
    (ha : db.actionAt request.actionScopeKey = some a)
    (hprovider : a.provider = request.provider)
    (hrewrites : Rewrites db db' a (touch request.fence now a)) :
    LedgerWrite db db' now (.reserveOrGet request)
      (.ok (⟨touch request.fence now a, reservationKind request a⟩ : ActionReservation))
  | moves (request : TransitionRequest) (a : ExternalAction)
    (ha : db.action request.actionId = some a) (hstatus : a.status ∈ request.expectedStatuses)
    (hrewrites : Rewrites db db' a (transitioned now request a)) :
    LedgerWrite db db' now (.transition request) (.ok (transitioned now request a))
  | revises (request : RevisionRequest) (a : ExternalAction)
    (ha : db.action request.actionId = some a) (hstatus : a.status = .succeeded)
    (hrevision : a.revision = request.expectedRevision)
    (hbound : a.providerResourceIdentifier ≠ none)
    (hrewrites : Rewrites db db' a (revised now request a)) :
    LedgerWrite db db' now (.revise request) (.ok (revised now request a))

variable {db db' : Database} {now : Timestamp} {maximumBytes : ℕ} {row history : UUID} {e : Effect}
  {r : Outcome e}

theorem execute_writes [Runtime]
    (hrun : db.execute maximumBytes now row history e = some (r, db')) :
    LedgerWrite db db' now e r := by
  cases e with
  | record request =>
    simp only [Database.execute, Option.some.injEq] at hrun
    cases hrecord : SourceArtifactRepository.record maximumBytes db now row request with
    | error x =>
      rw [hrecord] at hrun
      cases hrun
      exact .frame rfl rfl
    | ok result =>
      obtain ⟨artifact, db₁⟩ := result
      rw [hrecord] at hrun
      cases hrun
      obtain ⟨-, sourceArtifacts, rfl⟩ := SourceArtifactRepository.record_ok hrecord
      exact .frame rfl rfl
  | reserveOrGet request =>
    simp only [Database.execute, Option.some.injEq] at hrun
    cases hreserve : reserveOrGet db now row history request with
    | error x =>
      rw [hreserve] at hrun
      cases hrun
      exact .frame rfl rfl
    | ok result =>
      obtain ⟨reservation, db₁⟩ := result
      rw [hreserve] at hrun
      cases hrun
      obtain ⟨-, ⟨-, rfl, hinserts⟩ | ⟨a, ha, hprovider, -, rfl, hrewrites⟩⟩ :=
        reserveOrGet_ok hreserve
      · exact .creates row request hinserts
      · exact .replays request a ha hprovider hrewrites
  | transition request =>
    simp only [Database.execute, Option.some.injEq] at hrun
    cases htransition : transition db now history request with
    | error x =>
      rw [htransition] at hrun
      cases hrun
      exact .frame rfl rfl
    | ok result =>
      obtain ⟨a', db₁⟩ := result
      rw [htransition] at hrun
      cases hrun
      obtain ⟨-, a, ha, hstatus, rfl, hrewrites⟩ := transition_ok htransition
      exact .moves request a ha hstatus hrewrites
  | revise request =>
    simp only [Database.execute, Option.some.injEq] at hrun
    cases hrevise : revise db now history request with
    | error x =>
      rw [hrevise] at hrun
      cases hrun
      exact .frame rfl rfl
    | ok result =>
      obtain ⟨a', db₁⟩ := result
      rw [hrevise] at hrun
      cases hrun
      obtain ⟨-, a, ha, hstatus, hrevision, hbound, rfl, hrewrites⟩ := revise_ok hrevise
      exact .revises request a ha hstatus hrevision hbound hrewrites
  | reconciliationDelaySeconds id =>
    cases hrun
    exact .frame rfl rfl
  | fetchRecords | verifyGitHubIdentity | fetchContext | getComment | findCommentsByMarker
  | createComment | updateComment | fetchIssue | verifySlackIdentity | postNotification =>
    simp [Database.execute] at hrun

section Machine

variable [Runtime] {S M J ρ : Type} {setup : Setup J ρ} {providers : Provider S M} {i : ℕ}
  {choice : Choice M} {w w' : World S ρ}

/-- What an await is executed as: one transaction, or a call that leaves the database alone. -/
lemma exec_cases (hexec : (machine setup providers).exec i e choice w = some (r, w')) :
    (∃ row history, w.database.execute setup.maximumBytes w.now row history e =
      some (r, w'.database)) ∨ (e.isTransaction = false ∧ w'.database = w.database) := by
  simp only [machine] at hexec
  split at hexec
  · rename_i row history
    split at hexec
    · obtain ⟨⟨r, db⟩, hrun, heq⟩ := Option.map_eq_some_iff.1 hexec
      cases heq
      exact .inl ⟨row, history, hrun⟩
    · cases hexec
  · split at hexec
    · cases hexec
    · rename_i he
      obtain ⟨⟨r, s⟩, -, heq⟩ := Option.map_eq_some_iff.1 hexec
      cases heq
      exact .inr ⟨by simpa using he, rfl⟩
  · cases hexec

/-- Every execution of an await writes to the ledger in one of these ways. -/
theorem exec_writes (hexec : (machine setup providers).exec i e choice w = some (r, w')) :
    LedgerWrite w.database w'.database w.now e r := by
  rcases exec_cases hexec with ⟨row, history, hrun⟩ | ⟨he, hdb⟩
  · exact execute_writes hrun
  · refine .frame ?_ (by rw [hdb])
    cases e <;> first | rfl | cases he

/-- The environment writes to no row of the ledger. -/
lemma externalActions_of_env (henv : (machine setup providers).env choice w = some w') :
    w'.database.externalActions = w.database.externalActions := by
  simp only [machine] at henv
  split at henv
  · split at henv
    · cases henv
      rfl
    · cases henv
  · cases henv
    rfl
  · cases henv
    rfl
  · obtain ⟨s, -, rfl⟩ := Option.map_eq_some_iff.1 henv
    rfl
  · cases henv

end Machine

namespace LedgerWrite

variable {a : ExternalAction} {id : UUID}

/-- What every write to a row keeps of it holds of the row later on. -/
lemma action_kept {K : ExternalAction → ExternalAction → Prop}
    (hwrite : LedgerWrite db db' now e r) (hrefl : ∀ a, K a a)
    (htouch : ∀ fence a, K a (touch fence now a))
    (hmoved : ∀ request a, K a (transitioned now request a))
    (hrevised : ∀ request a, (⟨e, r⟩ : (e : Effect) × Outcome e) =
      ⟨.revise request, .ok (revised now request a)⟩ → a.revision = request.expectedRevision →
        K a (revised now request a))
    (ha : db.action id = some a) : ∃ a', db'.action id = some a' ∧ K a a' := by
  have hrewritten : ∀ {b b'}, Rewrites db db' b b' → K b b' →
      ∃ a', db'.action id = some a' ∧ K a a' := by
    intro b b' hrewrites hkeeps
    refine ⟨if a.id = b.id then b' else a, by rw [hrewrites.action_eq, ha]; rfl, ?_⟩
    split
    · rename_i hid
      obtain rfl : a = b := Relational.Table.eq_of_clashes (action_eq_some_iff.1 ha).1
        hrewrites.present (clashes_of_id_eq hid)
      exact hkeeps
    · exact hrefl a
  cases hwrite with
  | frame hrow hactions =>
    unfold Database.action
    rw [hactions]
    exact ⟨a, ha, hrefl a⟩
  | creates id request hinserts =>
    refine ⟨a, action_eq_some_iff.2 ⟨?_, (action_eq_some_iff.1 ha).2⟩, hrefl a⟩
    rw [hinserts.rows]
    exact List.mem_append_left _ (action_eq_some_iff.1 ha).1
  | replays request b hb hprovider hrewrites => exact hrewritten hrewrites (htouch _ b)
  | moves request b hb hstatus hrewrites => exact hrewritten hrewrites (hmoved request b)
  | revises request b hb hstatus hrevision hbound hrewrites =>
    exact hrewritten hrewrites (hrevised request b rfl hrevision)

end LedgerWrite

end DeploymentLab
