import DeploymentLab.Proofs.Enabled
import DeploymentLab.Proofs.SlackScript

/-!
# A delivery that nothing keeps from its post

The transactions that a delivery needs up to its post succeed under an active fence, over a row that
may be sent. So, where Slack may verify the identity, a run of the machine takes the delivery to its
post (`Delivery.Free.posts`).
-/

namespace DeploymentLab

open Interaction Database ExternalActionRepository SlackDeliveryService

/-- The row is there with one of the statuses. -/
def StatusIn (statuses : List ExternalActionStatus) (status : Option ExternalActionStatus) : Prop :=
  ∃ s ∈ statuses, status = some s

/-- A delivery that finds the status may post. -/
def Sendable (status : Option ExternalActionStatus) : Prop :=
  status = none ∨ StatusIn postable status

section Transactions

variable {db db' : Database} {now : Timestamp} {x y : UUID} {a : ExternalAction}

/-- The row `a` is of the message that is reserved, and its retry time has come. -/
structure Matches (request : ReservationRequest) (now : Timestamp) (a : ExternalAction) : Prop where
  provider : a.provider = request.provider
  operation : a.operation = request.operation
  fingerprint : a.desiredRequestFingerprint = request.desiredRequestFingerprint
  snapshot : a.decisionSnapshotHash = request.decisionSnapshotHash
  due : a.status = .retryableFailure → a.delay now ≤ 0

/-- The reservation is of a row that may be sent. -/
structure Taken (db : Database) (now : Timestamp) (reservation : ActionReservation) : Prop where
  row : db.action reservation.action.id = some reservation.action
  kind : reservation.kind = .created ∨ reservation.kind = .replay
  status : reservation.action.status ∈ postable
  due : reservation.action.status = .retryableFailure → reservation.action.delay now ≤ 0

lemma reserveOrGet_takes {request : ReservationRequest} (hdb : LedgerValid db)
    (hunused : db.unused x = true)
    (hsupported : (request.provider, request.operation) ∈ supportedExternalActions)
    (hfence : request.fence.active now db = true)
    (hsendable : Sendable ((db.actionAt request.actionScopeKey).map (·.status)))
    (hrow : ∀ a, db.actionAt request.actionScopeKey = some a → Matches request now a) :
    ∃ reservation db', reserveOrGet db now x x request = .ok (reservation, db') ∧
      LedgerValid db' ∧ SameEvidence db db' ∧ UsesOnly x db db' ∧ Taken db' now reservation := by
  cases hat : db.actionAt request.actionScopeKey with
  | none =>
    obtain ⟨db', hreserve, hinserts, huses⟩ :=
      reserveOrGet_creates hdb hunused hsupported hfence hat
    refine ⟨_, db', hreserve, hinserts.ledgerValid hdb, hinserts.evidence, huses, ?_, .inl rfl,
      by simp [reservedAction, postable], fun heq => by cases heq⟩
    rw [action_eq_some_iff, hinserts.rows]
    simp
  | some a =>
    have hmatches := hrow a hat
    obtain ⟨db', hreserve, hrewrites, huses⟩ := reserveOrGet_replays hdb hunused hsupported hfence
      hat hmatches.provider hmatches.operation
    refine ⟨_, db', hreserve, hrewrites.ledgerValid hdb, hrewrites.evidence, huses,
      hrewrites.action_self, .inr ?_, ?_, hmatches.due⟩
    · unfold reservationKind
      rw [if_pos hmatches.fingerprint, if_pos hmatches.snapshot]
    · rw [hat] at hsendable
      rcases hsendable with hnone | ⟨status, hmem, heq⟩
      · cases hnone
      · cases heq
        exact hmem

end Transactions

section Delivery

variable [Runtime] {S M J : Type} {scope : String}
  {setup : Setup J SlackNotificationResult} {providers : Provider S M} {i : ℕ}
  {w w' : World S SlackNotificationResult} {y : UUID} {settings : Settings} {task : TaskExecution}
  {a : ExternalAction} {request : SlackMessageRequest} {desiredFingerprint : Digest}

/-- Handler `i` has just called `post_notification`. -/
def Posting (i : ℕ) (request : SlackMessageRequest) (w : World S SlackNotificationResult) : Prop :=
  ∃ now older, w.log = .issued i now (.postNotification request) :: older

lemma post_may (h : Unhindered task 1 i w) (hrow : w.database.action a.id = some a)
    (hstatus : a.status ∈ postable) :
    (machine setup providers).May i (Posting i request) (fun _ _ => False)
      (SlackDeliveryService.post settings task a request desiredFingerprint) w := by
  have hopen : a.status ≠ .succeeded := by
    intro heq
    rw [heq] at hstatus
    exact absurd hstatus (by decide)
  refine may_checkpoint h.unsignalled (.bind (transition_may h hrow rfl rfl
    (wellFormed_of_settlement settings.slackWriteTimeout_pos.le rfl rfl) hstatus
    (open_constraints (h.ledger.actions a (action_eq_some_iff.1 hrow).1) hopen
      (by simp [writeStarted]) (by simp [writeStarted]) rfl) fun w' h' _ => ?_))
  exact may_checkpoint h'.unsignalled
    (.bind (.attempt (Machine.may_issue ⟨w'.now, w'.log, rfl⟩)))

lemma verifyAndPost_may (hverify : providers.MayAnswer .verifySlackIdentity true)
    (h : Unhindered task 1 i w) (hrow : w.database.action a.id = some a)
    (hstatus : a.status ∈ postable) :
    (machine setup providers).May i (Posting i request) (fun _ _ => False)
      (verifyAndPost settings task a request desiredFingerprint) w := by
  refine may_checkpoint h.unsignalled
    (.bind (.attempt (may_answered rfl hverify fun w' hbecomes => ?_)))
  have h' := h.becomes hbecomes
  refine may_checkpoint h'.unsignalled ?_
  rw [if_pos rfl]
  refine post_may h' ?_ hstatus
  rw [hbecomes.database]
  exact hrow

lemma deliverReserved_may {kind : ActionReservationKind}
    (hverify : providers.MayAnswer .verifySlackIdentity true) (h : Unhindered task 1 i w)
    (htaken : Taken w.database w.now ⟨a, kind⟩) :
    (machine setup providers).May i (Posting i request) (fun _ _ => False)
      (deliverReserved settings task request desiredFingerprint ⟨a, kind⟩) w := by
  obtain ⟨hrow, hkind, hstatus, hdue⟩ := htaken
  unfold deliverReserved
  rw [if_neg (by rcases hkind with heq | heq <;> rw [heq] <;> simp)]
  dsimp only
  have hcases := hstatus
  simp only [postable, List.mem_cons, List.not_mem_nil, or_false] at hcases
  rcases hcases with hreserved | hready | hretryable
  · rw [hreserved]
    exact verifyAndPost_may hverify h hrow hstatus
  · rw [hready]
    exact verifyAndPost_may hverify h hrow hstatus
  · rw [hretryable]
    have hdelay : reconciliationDelaySeconds w.database w.now a.id = a.delay w.now := by
      unfold reconciliationDelaySeconds ExternalAction.delay
      rw [hrow]
      rfl
    obtain ⟨x, hunused, -⟩ := h.room.take
    have hrun : w.database.execute setup.maximumBytes w.now x x
        (.reconciliationDelaySeconds a.id) = some (.ok (a.delay w.now), w.database) := by
      rw [← hdelay]
      rfl
    refine .bind (may_transaction hunused hrun fun w' hbecomes => ?_)
    have h' := h.becomes hbecomes
    refine may_checkpoint h'.unsignalled ?_
    rw [if_neg (not_lt.2 (hdue hretryable))]
    refine verifyAndPost_may hverify h' ?_ hstatus
    rw [hbecomes.database]
    exact hrow

/-- The delivery has a message to post, with the evidence that it is decided on. -/
structure Delivery.Composes (delivery : Delivery scope) (request : SlackMessageRequest)
    (snapshotHash : Digest) : Prop where
  message : ∃ message,
    renderSlackNotification delivery.request.decision delivery.request.canonicalServiceId
      delivery.request.githubAction delivery.settings.slackMaxTextChars = .ok message ∧
    SlackMessageRequest.validate delivery.request.channelId message = .ok request
  snapshot : slackDecisionSnapshotHash delivery.request.decision delivery.request.githubAction
    delivery.request.channelId delivery.settings.slackExpectedTeamId = .ok snapshotHash

/-- What the delivery asks the ledger for. -/
def Delivery.reservation (delivery : Delivery scope) (request : SlackMessageRequest)
    (snapshotHash : Digest) : ReservationRequest where
  fence := delivery.task.executionFence
  provider := .slack
  operation := .postDeploymentContextNotification
  actionScopeKey := scope
  desiredRequestFingerprint := sha256Json request.providerPayload
  decisionSnapshotHash := snapshotHash

/-- Nothing keeps the delivery, begun as handler `i` in the world `w`, from its post: its fence is
active, it is not told to stop, and the row, where there is one, may be sent, is of its message and
is due. -/
structure Delivery.Free (delivery : Delivery scope) (request : SlackMessageRequest)
    (snapshotHash : Digest) (i : ℕ) (w : World S SlackNotificationResult) : Prop where
  composes : delivery.Composes request snapshotHash
  fence : delivery.task.executionFence.active w.now w.database = true
  unsignalled : Unsignalled i w
  sendable : Sendable ((w.database.actionAt scope).map (·.status))
  row : ∀ a, w.database.actionAt scope = some a →
    Matches (delivery.reservation request snapshotHash) w.now a
  room : Room 2 w.database

variable {delivery : Delivery scope} {snapshotHash : Digest}

lemma deliver_may (hverify : providers.MayAnswer .verifySlackIdentity true)
    (hdb : LedgerValid w.database) (hfree : delivery.Free request snapshotHash i w) :
    (machine setup providers).May i (Posting i request) (fun _ _ => False) delivery.run w := by
  obtain ⟨message, hrender, hvalidate⟩ := hfree.composes.message
  obtain ⟨x, hunused, hroom⟩ := hfree.room.take
  have hsupported : ((delivery.reservation request snapshotHash).provider,
      (delivery.reservation request snapshotHash).operation) ∈ supportedExternalActions := by
    simp [Delivery.reservation, supportedExternalActions]
  obtain ⟨⟨a, kind⟩, db', hreserve, hledger, hevidence, huses, htaken⟩ :=
    reserveOrGet_takes hdb hunused hsupported hfree.fence hfree.sendable hfree.row
  have hrun : w.database.execute setup.maximumBytes w.now x x
      (.reserveOrGet (delivery.reservation request snapshotHash)) = some (.ok ⟨a, kind⟩, db') :=
    congrArg (fun r => some (w.database.settle r)) hreserve
  rw [Delivery.run, deliver_eq hrender hvalidate delivery.scope_eq rfl hfree.composes.snapshot]
  refine may_checkpoint hfree.unsignalled
    (.bind (may_transaction hunused hrun fun w' hbecomes => ?_))
  have h' : Unhindered delivery.task 1 i w' := by
    refine ⟨?_, ?_, hfree.unsignalled.becomes hbecomes, ?_⟩
    · rw [hbecomes.database]
      exact hledger
    · rw [hbecomes.database, hbecomes.now, active_of_sameEvidence hevidence]
      exact hfree.fence
    · rw [hbecomes.database]
      exact hroom db' huses
  refine deliverReserved_may hverify h' ?_
  rw [hbecomes.database, hbecomes.now]
  exact htaken

/-- Where no handler is at work, a run of the machine takes the delivery to its post. -/
theorem Delivery.Free.posts {setup : Setup J SlackNotificationResult} {j : J}
    {c : Config handlerSignature SlackNotificationResult (World S SlackNotificationResult)}
    (hjob : setup.job j = delivery.run) (hverify : providers.MayAnswer .verifySlackIdentity true)
    (hdb : LedgerValid c.world.database) (hidle : ∀ k < c.count, (c.thread k).active = false)
    (hfree : delivery.Free request snapshotHash c.count c.world) :
    ∃ moves c', (machine setup providers).run c (.start j :: moves) = some c' ∧
      Posting c.count request c'.world ∧ ∀ mv ∈ moves, mv.Of c.count := by
  refine runs_of_may hidle fun w hstarted => ?_
  rw [hjob]
  refine deliver_may hverify (hstarted.database ▸ hdb) ⟨hfree.composes, ?_,
    hfree.unsignalled.becomes hstarted, ?_, ?_, ?_⟩
  · rw [hstarted.database, hstarted.now]
    exact hfree.fence
  · rw [hstarted.database]
    exact hfree.sendable
  · rw [hstarted.database, hstarted.now]
    exact hfree.row
  · rw [hstarted.database]
    exact hfree.room

end Delivery

end DeploymentLab
