import DeploymentLab.Proofs.Reconciliation

/-!
# The walk of a row

From its reconciliation on, `_reconcile_and_apply` takes its row from one status to the next, each
time with the row that the last transition has returned. What every transition keeps holds of the
row wherever it stands. A delivery to Slack walks its row in the same way.
-/

namespace DeploymentLab

open Interaction DeploymentContextSyncHandler

/-- The await returns a row of the ledger. -/
def Effect.returnsRow : Effect → Bool
  | .reserveOrGet _ | .transition _ | .revise _ => true
  | _ => false

/-- The transition takes `current` from `status` to the next one. A success is of the content
`desired`. -/
structure Steps (desired : Digest) (status : ExternalActionStatus) (current : ExternalAction)
    (request : TransitionRequest) : Prop where
  id : request.actionId = current.id
  expected : request.expectedStatuses = [status]
  applied : request.newStatus = .succeeded →
    request.values.appliedRequestFingerprint = some (some desired)

/-- Where the row stands in `status` as `Inv` says, the script lets it take its next step, and it
stands there as well. -/
structure Walks (script : Script handlerSignature DeploymentContextResult) (desired : Digest)
    (Inv : ExternalActionStatus → SyncPast → ExternalAction → Prop) : Prop where
  free : ∀ h e, Effect.returnsRow e = false → script h (.issued e)
  await : ∀ {status h current} (e : Effect) (r : Outcome e), e.returnsRow = false →
    Inv status h current → Inv status (.answered e r :: .issued e :: h) current
  issue : ∀ {status h current request}, Inv status h current →
    Steps desired status current request → script h (.issued (.transition request))
  step : ∀ {status h current request} (a : ExternalAction), Inv status h current →
    Steps desired status current request → Inv request.newStatus
      (.answered (.transition request) (.ok a) :: .issued (.transition request) :: h) a

/-- The end of the run is not asked for anything. -/
abbrev AnyEnd {β : Type} : SyncPast → Except Exn β → Prop := fun _ _ => True

section Walks

variable {script : Script handlerSignature DeploymentContextResult}
  {Inv : ExternalActionStatus → SyncPast → ExternalAction → Prop} {status : ExternalActionStatus}
  {settings : Settings} {task : TaskExecution} {publication : Publication}
  {current : ExternalAction} {h : SyncPast}

/-- Reading the comment leaves the row where it stands. -/
lemma Walks.reconcileComment {desired : Digest} (hwalks : Walks script desired Inv)
    {repository marker : String} {issueNumber : ℤ} (hinv : Inv status h current) :
    (reconcileComment current repository issueNumber marker).Emits script
      (fun h _ => Inv status h current) h := by
  have hsearch : ∀ {h}, Inv status h current →
      (searchComments repository issueNumber marker).Emits script
        (fun h _ => Inv status h current) h := by
    intro h hinv
    unfold searchComments
    refine emits_await (hwalks.free _ _ rfl) (fun search => ?_) fun x => hwalks.await _ _ rfl hinv
    split
    · exact hwalks.await _ _ rfl hinv
    split
    · exact hwalks.await _ _ rfl hinv
    · exact hwalks.await _ _ rfl hinv
  unfold DeploymentContextSyncHandler.reconcileComment
  split
  · unfold boundComment
    refine emits_await (hwalks.free _ _ rfl) (fun found => ?_) fun x => hwalks.await _ _ rfl hinv
    split
    · exact hwalks.await _ _ rfl hinv
    split
    · exact hwalks.await _ _ rfl hinv
    · exact hwalks.await _ _ rfl hinv
  · unfold reconciliationHoldoff
    split
    · refine emits_await (hwalks.free _ _ rfl) (fun holdoff => ?_)
        fun x => hwalks.await _ _ rfl hinv
      split
      · exact hwalks.await _ _ rfl hinv
      · exact hsearch (hwalks.await _ _ rfl hinv)
    · exact hsearch hinv

/-- Writing the comment leaves the row where it stands. -/
lemma Walks.writeComment {desired : Digest} (hwalks : Walks script desired Inv)
    (hinv : Inv status h current) :
    (writeComment publication current).Emits script (fun h _ => Inv status h current) h := by
  unfold DeploymentContextSyncHandler.writeComment
  split
  · exact Prog.emits_perform.2 ⟨hwalks.free _ _ rfl,
      fun r => hwalks.await (.createComment _ _ _) r rfl hinv⟩
  · exact Prog.emits_perform.2 ⟨hwalks.free _ _ rfl,
      fun r => hwalks.await (.updateComment _ _ _) r rfl hinv⟩

/-- After a failure has been recorded, the run raises. -/
lemma emits_failure {request : TransitionRequest} {x : Exn}
    (hissue : script h (.issued (.transition request))) :
    ((perform (.transition request)).bind fun _ =>
      (.raise x : Handler DeploymentContextResult)).Emits script AnyEnd h :=
  emits_await hissue (fun _ => trivial) fun _ => trivial

variable [Runtime] (hwalks : Walks script publication.desiredFingerprint Inv)
include hwalks

lemma Walks.applyWrite (hinv : Inv .reconciling h current) :
    (applyWrite settings task publication current).Emits script AnyEnd h := by
  have hnoMatch : Steps publication.desiredFingerprint .reconciling current
      (reconciliationCompletedNoMatch task current) := ⟨rfl, rfl, fun heq => by cases heq⟩
  refine emits_await (hwalks.issue hinv hnoMatch) (fun a₁ => ?_) fun _ => trivial
  refine emits_checkCancelled ?_ fun _ => trivial
  have hready := hwalks.step a₁ hinv hnoMatch
  have hwrite : Steps publication.desiredFingerprint .readyToExecute a₁
      (writeStarted settings task a₁) := ⟨rfl, rfl, fun heq => by cases heq⟩
  refine emits_await (hwalks.issue hready hwrite) (fun a => ?_) fun _ => trivial
  refine emits_checkCancelled ?_ fun _ => trivial
  have hexecuting := hwalks.step a hready hwrite
  rw [Prog.bind_eq, Prog.emits_bind, Prog.emits_attempt]
  refine Prog.emits_mono (hwalks.writeComment hexecuting) fun h r hinv => ?_
  dsimp only
  split
  · exact emits_failure (hwalks.issue hinv ⟨rfl, rfl, fun heq => by cases heq⟩)
  · exact emits_failure (hwalks.issue hinv ⟨rfl, rfl, fun heq => by cases heq⟩)
  · exact emits_failure (hwalks.issue hinv ⟨rfl, rfl, fun heq => by cases heq⟩)
  · trivial
  · refine emits_checkOwnership (emits_await (hwalks.issue hinv ⟨rfl, rfl, fun _ => rfl⟩)
      (fun a => ?_) fun _ => trivial) fun _ => trivial
    exact emits_checkCancelled (Prog.emits_ofExcept.2 trivial) fun _ => trivial

lemma Walks.applyReconciled {existing : Option GitHubComment} (hinv : Inv .reconciling h current) :
    (applyReconciled settings task publication current existing).Emits script AnyEnd h := by
  unfold DeploymentContextSyncHandler.applyReconciled
  split
  · exact hwalks.applyWrite hinv
  split
  · split
    · exact hwalks.applyWrite hinv
    · exact emits_await (hwalks.issue hinv ⟨rfl, rfl, fun heq => by cases heq⟩)
        (fun a => Prog.emits_ofExcept.2 trivial) fun _ => trivial
  · refine emits_checkOwnership (emits_await (hwalks.issue hinv ⟨rfl, rfl, fun _ => rfl⟩)
      (fun a => ?_) fun _ => trivial) fun _ => trivial
    exact emits_checkCancelled (Prog.emits_ofExcept.2 trivial) fun _ => trivial

/-- Once the row stands in `RECONCILING`, it walks on. -/
lemma Walks.reconcileAndApply {action : ExternalAction}
    (hstart : (startReconciliation task action).Emits script
      (fun h r => ∀ current, r = .ok current → Inv .reconciling h current) h) :
    (reconcileAndApply settings task publication action).Emits script AnyEnd h := by
  unfold DeploymentContextSyncHandler.reconcileAndApply
  rw [Prog.bind_eq, Prog.emits_bind]
  refine Prog.emits_mono hstart fun h r hinv => ?_
  cases r with
  | error x => trivial
  | ok current =>
    refine emits_checkCancelled ?_ fun _ => trivial
    rw [Prog.bind_eq, Prog.emits_bind, Prog.emits_attempt]
    refine Prog.emits_mono (hwalks.reconcileComment (hinv current rfl)) fun h r hinv => ?_
    dsimp only
    split
    · exact emits_failure (hwalks.issue hinv ⟨rfl, rfl, fun heq => by cases heq⟩)
    · exact emits_await (hwalks.issue hinv ⟨rfl, rfl, fun heq => by cases heq⟩)
        (fun a => Prog.emits_ofExcept.2 trivial) fun _ => trivial
    · trivial
    · exact hwalks.applyReconciled hinv

end Walks

/-! ## The walk of the row of a delivery -/

/-- A delivery moves the row that its reservation has given it, and then the one that the last
transition has returned. `desired` is the content that it delivers. -/
structure Delivers (script : Script handlerSignature DeploymentContextResult)
    (Inv : Digest → SyncPast → ExternalAction → Prop) : Prop where
  free : ∀ h e, Effect.moves e = false → script h (.issued e)
  given : ∀ {desired h request reservation}, ReservationRequest.provider request = .slack →
    request.desiredRequestFingerprint = desired →
      ActionReservation.kind reservation = .created ∨ reservation.kind = .replay →
        Inv desired (.answered (.reserveOrGet request) (.ok reservation) ::
          .issued (.reserveOrGet request) :: h) reservation.action
  await : ∀ {desired h current} (e : Effect) (r : Outcome e), e.returnsRow = false →
    Inv desired h current → Inv desired (.answered e r :: .issued e :: h) current
  issue : ∀ {desired h current request}, Inv desired h current →
    TransitionRequest.actionId request = ExternalAction.id current →
      (request.newStatus = .succeeded →
        request.values.appliedRequestFingerprint = some (some desired)) →
        script h (.issued (.transition request))
  step : ∀ {desired h current} (request : TransitionRequest) (a : ExternalAction),
    Inv desired h current → request.actionId = current.id →
      Inv desired (.answered (.transition request) (.ok a) :: .issued (.transition request) :: h) a

section Delivers

open SlackDeliveryService

variable [Runtime] {script : Script handlerSignature DeploymentContextResult}
  {Inv : Digest → SyncPast → ExternalAction → Prop} {settings : Settings} {task : TaskExecution}
  {a : ExternalAction} {request : SlackMessageRequest} {desired : Digest} {h : SyncPast}

omit [Runtime] in
/-- What a delivery comes to is no await. -/
lemma emits_delivered {state : SlackDeliveryState} {errorCode : Option String} :
    (result state a errorCode : Handler SlackNotificationResult).Emits script AnyEnd h :=
  emits_free (P := fun _ => False) (fun _ _ hfalse => hfalse.elim) result_issues

variable (hdelivers : Delivers script Inv)
include hdelivers

omit [Runtime] in
/-- What has come of the post is recorded in the row. -/
lemma Delivers.recorded {transition : TransitionRequest} {state : SlackDeliveryState}
    {errorCode : Option String} (hinv : Inv desired h a) (hid : transition.actionId = a.id)
    (happlied : transition.newStatus = .succeeded →
      transition.values.appliedRequestFingerprint = some (some desired)) :
    Prog.Emits script AnyEnd ((perform (.transition transition)).bind fun action =>
      HandlerContext.raiseIfCancelled.bind fun _ => result state action errorCode) h :=
  emits_await (hdelivers.issue hinv hid happlied)
    (fun _ => emits_checkCancelled emits_delivered fun _ => trivial) fun _ => trivial

lemma Delivers.post (hinv : Inv desired h a) :
    (SlackDeliveryService.post settings task a request desired).Emits script AnyEnd h := by
  refine emits_checkCancelled (emits_await (hdelivers.issue hinv rfl fun heq => by cases heq)
    (fun a₁ => ?_) fun _ => trivial) fun _ => trivial
  refine emits_checkCancelled ?_ fun _ => trivial
  have hwriting := hdelivers.step (SlackDeliveryService.writeStarted settings task a) a₁ hinv rfl
  rw [Prog.bind_eq, Prog.emits_bind, Prog.emits_attempt]
  refine Prog.emits_perform.2 ⟨hdelivers.free _ _ rfl, fun r => ?_⟩
  have hposted := hdelivers.await (.postNotification request) r rfl hwriting
  dsimp only
  split
  · exact emits_checkOwnership (hdelivers.recorded hposted rfl fun heq => by cases heq)
      fun _ => trivial
  · exact emits_checkOwnership (hdelivers.recorded hposted rfl fun heq => by cases heq)
      fun _ => trivial
  · exact emits_checkOwnership (hdelivers.recorded hposted rfl fun heq => by cases heq)
      fun _ => trivial
  · trivial
  · exact emits_checkOwnership (hdelivers.recorded hposted rfl fun _ => rfl) fun _ => trivial

lemma Delivers.verifyAndPost (hinv : Inv desired h a) :
    (verifyAndPost settings task a request desired).Emits script AnyEnd h := by
  refine emits_checkCancelled ?_ fun _ => trivial
  rw [Prog.bind_eq, Prog.emits_bind, Prog.emits_attempt]
  refine Prog.emits_perform.2 ⟨hdelivers.free _ _ rfl, fun r => ?_⟩
  have hverified := hdelivers.await .verifySlackIdentity r rfl hinv
  dsimp only
  split
  · exact emits_checkCancelled (hdelivers.recorded hverified rfl fun heq => by cases heq)
      fun _ => trivial
  · exact emits_checkCancelled (hdelivers.recorded hverified rfl fun heq => by cases heq)
      fun _ => trivial
  · trivial
  · refine emits_checkCancelled ?_ fun _ => trivial
    split
    · exact hdelivers.post hverified
    · exact hdelivers.recorded hverified rfl fun heq => by cases heq

lemma Delivers.deliverReserved {reservation : ActionReservation}
    (hinv : reservation.kind = .created ∨ reservation.kind = .replay →
      Inv desired h reservation.action) :
    (deliverReserved settings task request desired reservation).Emits script AnyEnd h := by
  unfold SlackDeliveryService.deliverReserved
  dsimp only
  split
  · exact emits_delivered
  rename_i hkind
  have hgiven : Inv desired h reservation.action := by
    refine hinv ?_
    cases hreserved : reservation.kind with
    | created => exact .inl rfl
    | replay => exact .inr rfl
    | changed => exact absurd (.inl hreserved) hkind
    | sourceDrift => exact absurd (.inr hreserved) hkind
  split
  · exact emits_delivered
  · exact emits_delivered
  · exact emits_delivered
  · exact emits_delivered
  · exact emits_checkCancelled (emits_await (hdelivers.issue hgiven rfl fun heq => by cases heq)
      (fun _ => emits_delivered) fun _ => trivial) fun _ => trivial
  · refine emits_await (hdelivers.free _ _ rfl) (fun delay => ?_) fun _ => trivial
    refine emits_checkCancelled ?_ fun _ => trivial
    split
    · exact emits_delivered
    · exact hdelivers.verifyAndPost
        (hdelivers.await (.reconciliationDelaySeconds _) _ rfl hgiven)
  · exact hdelivers.verifyAndPost hgiven
  · exact hdelivers.verifyAndPost hgiven
  · exact hdelivers.verifyAndPost hgiven

lemma Delivers.deliver {delivery : SlackDeliveryRequest} :
    (deliver settings task delivery).Emits script AnyEnd h := by
  refine emits_checkCancelled (emits_checked (fun message _ => ?_) fun _ => trivial)
    fun _ => trivial
  refine emits_checked (fun providerRequest _ => ?_) fun _ => trivial
  refine emits_checked (fun scope _ => ?_) fun _ => trivial
  refine emits_checked (fun snapshotHash _ => ?_) fun _ => trivial
  refine emits_await (hdelivers.free _ _ rfl) (fun reservation => ?_) fun _ => trivial
  exact hdelivers.deliverReserved (hdelivers.given rfl rfl)

/-- A run keeps to a script about the moves of its rows where the two walks do. -/
theorem Delivers.execute [LaxCoercion] {handler : DeploymentContextSyncHandler}
    {input : JsonValue} (hresume : Resumes script) :
    (handler.execute task input).Emits script AnyEnd h := by
  unfold DeploymentContextSyncHandler.execute
  split
  · trivial
  rw [Prog.bind_eq, Prog.emits_bind]
  refine Prog.emits_mono (authoritative_keepsTo hdelivers.free hresume) fun h r _ => ?_
  cases r with
  | error x => trivial
  | ok exit =>
    dsimp only
    unfold finish
    split
    · trivial
    split
    · trivial
    refine emits_checkCancelled ?_ fun _ => trivial
    split
    · trivial
    rw [Prog.bind_eq, Prog.emits_bind]
    refine Prog.emits_mono hdelivers.deliver fun h r _ => ?_
    cases r with
    | error x => trivial
    | ok result => trivial

end Delivers

end DeploymentLab
