import DeploymentLab.Model.Slack
import DeploymentLab.Proofs.ScopeTrace

/-!
# The script of one delivery

Where a delivery is follows from what it has done (`phase`), and what it may do next from where
it is (`deliveryScript`). `deliver_keeps` is the proof that `deliver` keeps to this script.
-/

namespace DeploymentLab

open Interaction SlackDeliveryService

abbrev SlackPast := Past handlerSignature SlackNotificationResult

inductive SlackPhase
  | fresh
  | reserved (reservation : ActionReservation)
  | delayed (reservation : ActionReservation) (delay : Duration)
  | armed (a : ExternalAction)
  | posting (a : ExternalAction)
  | answered (a : ExternalAction) (outcome : Except Exn SlackMessageReceipt)
  | settled (request : TransitionRequest) (outcome : Except Exn ExternalAction)

namespace SlackPhase

def next (phase : SlackPhase) : Act handlerSignature SlackNotificationResult → SlackPhase
  | .answered (.reserveOrGet _) (.ok reservation) => .reserved reservation
  | .answered (.reconciliationDelaySeconds _) (.ok delay) =>
    match phase with
    | .reserved reservation => .delayed reservation delay
    | phase => phase
  | .answered (.transition request) outcome =>
    match outcome with
    | .ok a =>
      if request.transition = "slack_write_started" then .armed a else .settled request (.ok a)
    | .error x => .settled request (.error x)
  | .issued (.postNotification _) =>
    match phase with
    | .armed a => .posting a
    | phase => phase
  | .answered (.postNotification _) outcome =>
    match phase with
    | .posting a => .answered a outcome
    | phase => phase
  | _ => phase

/-- The row that the delivery holds. -/
def action : SlackPhase → Option ExternalAction
  | .fresh | .settled _ _ => none
  | .reserved reservation | .delayed reservation _ => some reservation.action
  | .armed a | .posting a | .answered a _ => some a

end SlackPhase

def phase : SlackPast → SlackPhase
  | [] => .fresh
  | act :: h => (phase h).next act

/-- The delivery may verify the identity and start its write on the row `a`. -/
inductive Clear : SlackPhase → ExternalAction → Prop
  | unstarted (reservation : ActionReservation)
    (hstatus : reservation.action.status ∈ [.reserved, .reconciling, .readyToExecute]) :
    Clear (.reserved reservation) reservation.action
  | due (reservation : ActionReservation) (delay : Duration)
    (hstatus : reservation.action.status = .retryableFailure) (hdelay : delay ≤ 0) :
    Clear (.delayed reservation delay) reservation.action

/-- The transitions that a delivery asks for. -/
inductive Requests : SlackPhase → TransitionRequest → Prop
  | demote (task : TaskExecution) (reservation : ActionReservation)
    (hstatus : reservation.action.status = .executing) :
    Requests (.reserved reservation) (previousWriteUnresolved task reservation.action)
  | identityRetryable (task : TaskExecution) {ph : SlackPhase} {a : ExternalAction}
    (hclear : Clear ph a) (errorCode : String) (retryAfter : Option Duration) :
    Requests ph (identityRetryableFailure task a errorCode retryAfter)
  | identityPermanent (task : TaskExecution) {ph : SlackPhase} {a : ExternalAction}
    (hclear : Clear ph a) (errorCode : String) :
    Requests ph (identityPermanentFailure task a errorCode)
  | mismatch (task : TaskExecution) {ph : SlackPhase} {a : ExternalAction}
    (hclear : Clear ph a) : Requests ph (identityMismatch task a)
  | write (settings : Settings) (task : TaskExecution) {ph : SlackPhase} {a : ExternalAction}
    (hclear : Clear ph a) : Requests ph (writeStarted settings task a)
  | unsent (task : TaskExecution) (a : ExternalAction) (errorCode : String)
    (retryAfter : Option Duration) :
    Requests (.answered a (.error (.slackRetryableFailure errorCode retryAfter)))
      (retryableFailure task a errorCode retryAfter)
  | rejected (task : TaskExecution) (a : ExternalAction) (errorCode : String) :
    Requests (.answered a (.error (.slackPermanentFailure errorCode)))
      (permanentFailure task a errorCode)
  | unknown (task : TaskExecution) (a : ExternalAction) (errorCode : String) :
    Requests (.answered a (.error (.slackOutcomeUnknown errorCode)))
      (outcomeUnknown task a errorCode)
  | succeeded [Runtime] (task : TaskExecution) (a : ExternalAction)
    (receipt : SlackMessageReceipt) (desiredFingerprint : Digest) :
    Requests (.answered a (.ok receipt)) (writeSucceeded task a receipt desiredFingerprint)

/-- A delivery that gives up for the sake of its identity has been told of it. -/
def ToldOfIdentity (h : SlackPast) (request : TransitionRequest) : Prop :=
  (request.transition = "slack_identity_permanent_failure" →
    ∃ code, .answered .verifySlackIdentity (.error (.slackPermanentFailure code)) ∈ h) ∧
  (request.transition = "slack_identity_mismatch" →
    .answered .verifySlackIdentity (.ok false) ∈ h)

lemma ToldOfIdentity.cons {h : SlackPast} {act : Act handlerSignature SlackNotificationResult}
    {request : TransitionRequest} (htold : ToldOfIdentity h request) :
    ToldOfIdentity (act :: h) request :=
  ⟨fun heq => (htold.1 heq).imp fun _ hmem => List.mem_cons_of_mem _ hmem,
    fun heq => List.mem_cons_of_mem _ (htold.2 heq)⟩

/-- The delivery knows that the outcome of a write is recorded as unknown. -/
inductive KnowsUnknown : SlackPhase → Prop
  | reported (reservation : ActionReservation)
    (hstatus : reservation.action.status = .outcomeUnknown) : KnowsUnknown (.reserved reservation)
  | recorded (request : TransitionRequest) (a : ExternalAction)
    (hstatus : request.newStatus = .outcomeUnknown) : KnowsUnknown (.settled request (.ok a))

/-- How a delivery ends: with a receipt it has not recorded only when it has lost its ownership,
and with the report of an unknown outcome only when it knows of one. -/
structure Ends (ph : SlackPhase) (r : Except Exn SlackNotificationResult) : Prop where
  receipt : ∀ a receipt, ph = .answered a (.ok receipt) → r = .error .ownershipLostError
  unknown : ∀ result, r = .ok result → result.state = .outcomeUnknown → KnowsUnknown ph

def deliveryScript (scope : String) : Script handlerSignature SlackNotificationResult
  | h, .issued e =>
    match e with
    | .reserveOrGet request => phase h = .fresh ∧ request.actionScopeKey = scope
    | .transition request => Requests (phase h) request ∧ ToldOfIdentity h request
    | .postNotification _ => ∃ a, phase h = .armed a
    | .reconciliationDelaySeconds id => ∃ reservation, phase h = .reserved reservation ∧
        reservation.action.status = .retryableFailure ∧ id = reservation.action.id
    | .verifySlackIdentity => ∃ a, Clear (phase h) a
    | _ => False
  | _, .answered _ _ => True
  | h, .ended r => Ends (phase h) r

lemma Clear.action {ph : SlackPhase} {a : ExternalAction} (h : Clear ph a) :
    ph.action = some a := by
  cases h <;> rfl

lemma Requests.action {ph : SlackPhase} {request : TransitionRequest}
    (h : Requests ph request) : ∃ a, ph.action = some a ∧ request.actionId = a.id := by
  cases h with
  | demote task reservation => exact ⟨_, rfl, rfl⟩
  | identityRetryable task hclear => exact ⟨_, hclear.action, rfl⟩
  | identityPermanent task hclear => exact ⟨_, hclear.action, rfl⟩
  | mismatch task hclear => exact ⟨_, hclear.action, rfl⟩
  | write settings task hclear => exact ⟨_, hclear.action, rfl⟩
  | unsent | rejected | unknown | succeeded => exact ⟨_, rfl, rfl⟩

/-- The row that a delivery holds was returned to it. -/
lemma action_mem_returnedActions {h : SlackPast} {a : ExternalAction}
    (ha : (phase h).action = some a) : a ∈ returnedActions h := by
  induction h with
  | nil => cases ha
  | cons act h ih =>
    have hkept : (phase h).action = some a → a ∈ returnedActions (act :: h) := by
      intro hold
      have := ih hold
      unfold returnedActions
      split <;> simp_all
    simp only [phase] at ha
    unfold SlackPhase.next at ha
    split at ha
    · cases ha
      exact List.mem_cons_self
    · split at ha
      · rename_i hphase
        exact hkept (by rw [hphase]; exact ha)
      · exact hkept ha
    · split at ha
      · split at ha
        · cases ha
          exact List.mem_cons_self
        · cases ha
      · cases ha
    · split at ha
      · rename_i hphase
        exact hkept (by rw [hphase]; exact ha)
      · exact hkept ha
    · split at ha
      · rename_i hphase
        exact hkept (by rw [hphase]; exact ha)
      · exact hkept ha
    · exact hkept ha

/-- A delivery is settled by the transition that it was answered. -/
lemma answered_of_settled {h : SlackPast} {request : TransitionRequest}
    {outcome : Except Exn ExternalAction} (hphase : phase h = .settled request outcome) :
    .answered (.transition request) outcome ∈ h := by
  induction h with
  | nil => cases hphase
  | cons act h ih =>
    rw [phase] at hphase
    unfold SlackPhase.next at hphase
    split at hphase
    · cases hphase
    · split at hphase
      · cases hphase
      · exact List.mem_cons_of_mem _ (ih hphase)
    · split at hphase
      · split at hphase
        · cases hphase
        · cases hphase
          exact List.mem_cons_self
      · cases hphase
        exact List.mem_cons_self
    · split at hphase
      · cases hphase
      · exact List.mem_cons_of_mem _ (ih hphase)
    · split at hphase
      · cases hphase
      · exact List.mem_cons_of_mem _ (ih hphase)
    · exact List.mem_cons_of_mem _ (ih hphase)

lemma deliveryScript_inScope {scope : String} {h : SlackPast}
    {act : Act handlerSignature SlackNotificationResult} (hact : deliveryScript scope h act) :
    InScope scope h act := by
  cases act with
  | answered e r => trivial
  | ended r => trivial
  | issued e =>
    cases e with
    | reserveOrGet request => exact hact.2
    | transition request =>
      obtain ⟨a, ha, hid⟩ := Requests.action hact.1
      exact ⟨a, action_mem_returnedActions ha, hid.symm⟩
    | reconciliationDelaySeconds id =>
      obtain ⟨reservation, hphase, -, rfl⟩ := hact
      exact ⟨reservation.action, action_mem_returnedActions (by rw [hphase]; rfl), rfl⟩
    | revise request => exact hact.elim
    | record | fetchRecords | verifyGitHubIdentity | fetchContext | getComment
    | findCommentsByMarker | createComment | updateComment | fetchIssue | verifySlackIdentity
    | postNotification => trivial

section Keeps

variable {scope : String} {h : SlackPast}

/-- The handler `p` keeps to the script after the past `h`, up to the end of the delivery. -/
abbrev KeepsFrom (scope : String) (h : SlackPast) (p : Handler SlackNotificationResult) : Prop :=
  p.Keeps (deliveryScript scope) h

lemma ends_error {ph : SlackPhase} {x : Exn}
    (h : ∀ a receipt, ph = .answered a (.ok receipt) → x = .ownershipLostError) :
    Ends ph (.error x) :=
  ⟨fun a receipt hph => by rw [h a receipt hph], fun result hr => by cases hr⟩

lemma keeps_checkpoint {p : Handler SlackNotificationResult}
    (hphase : ∀ a receipt, phase h ≠ .answered a (.ok receipt)) (hp : KeepsFrom scope h p) :
    KeepsFrom scope h (HandlerContext.raiseIfCancelled.bind fun _ => p) := by
  have hstop : ∀ x, Ends (phase h) (.error x) := fun x =>
    ends_error fun a receipt heq => absurd heq (hphase a receipt)
  unfold KeepsFrom Prog.Keeps
  rw [Prog.emits_bind]
  exact emits_raiseIfCancelled hp (hstop _) (hstop _)

lemma keeps_ownershipCheckpoint {p : Handler SlackNotificationResult}
    (hp : KeepsFrom scope h p) :
    KeepsFrom scope h (HandlerContext.raiseIfOwnershipLost.bind fun _ => p) := by
  unfold KeepsFrom Prog.Keeps
  rw [Prog.emits_bind]
  exact emits_raiseIfOwnershipLost hp (ends_error fun _ _ _ => rfl)

lemma keeps_result {state : SlackDeliveryState} {a : ExternalAction} {errorCode : Option String}
    (hphase : ∀ a receipt, phase h ≠ .answered a (.ok receipt))
    (hunknown : state = .outcomeUnknown → KnowsUnknown (phase h)) :
    KeepsFrom scope h (result state a errorCode) := by
  have hstop : ∀ x, Ends (phase h) (.error x) := fun x =>
    ends_error fun a receipt heq => absurd heq (hphase a receipt)
  unfold result KeepsFrom Prog.Keeps
  rw [Prog.bind_eq, Prog.emits_bind, Prog.emits_ofExcept]
  split
  · rename_i reference _
    rw [Prog.emits_ofExcept]
    refine ⟨fun a receipt heq => absurd heq (hphase a receipt), fun r hr hstate => ?_⟩
    apply hunknown
    rw [← hstate]
    simp only [SlackNotificationResult.validate, bind, Except.bind, throw, throwThe,
      MonadExceptOf.throw, pure, Except.pure] at hr
    repeat' split at hr
    all_goals cases hr
    all_goals rfl
  · exact hstop _

/-- After a transition that ends the delivery, only a checkpoint and the result are left. -/
lemma keeps_recorded {request : TransitionRequest} {state : SlackDeliveryState}
    {errorCode : Option String} (hrequest : Requests (phase h) request)
    (htold : ToldOfIdentity h request) (hname : request.transition ≠ "slack_write_started")
    (hunknown : state = .outcomeUnknown → request.newStatus = .outcomeUnknown) :
    KeepsFrom scope h (do
      let action ← perform (.transition request)
      HandlerContext.raiseIfCancelled
      result state action errorCode) := by
  unfold KeepsFrom Prog.Keeps
  rw [Prog.bind_eq, Prog.emits_bind]
  refine Prog.emits_perform.2 ⟨⟨hrequest, htold⟩, fun r => ?_⟩
  cases r with
  | error x => exact ends_error fun a receipt heq => by cases heq
  | ok a =>
    have hphase : phase (.answered (.transition request) (.ok a) ::
        .issued (.transition request) :: h) = .settled request (.ok a) := if_neg hname
    apply keeps_checkpoint
    · intro b receipt heq
      rw [hphase] at heq
      cases heq
    · apply keeps_result
      · intro b receipt heq
        rw [hphase] at heq
        cases heq
      · intro hstate
        rw [hphase]
        exact .recorded request a (hunknown hstate)

lemma toldOfIdentity_of_ne {request : TransitionRequest}
    (hpermanent : request.transition ≠ "slack_identity_permanent_failure")
    (hmismatch : request.transition ≠ "slack_identity_mismatch") : ToldOfIdentity h request :=
  ⟨fun heq => absurd heq hpermanent, fun heq => absurd heq hmismatch⟩

lemma Clear.not_answered {a b : ExternalAction} {receipt : SlackMessageReceipt} {ph : SlackPhase}
    (hclear : Clear ph a) : ph ≠ .answered b (.ok receipt) := by
  rintro rfl
  cases hclear

variable [Runtime]

lemma post_keeps (settings : Settings) (task : TaskExecution) (a : ExternalAction)
    (request : SlackMessageRequest) (desiredFingerprint : Digest) (hclear : Clear (phase h) a) :
    KeepsFrom scope h (SlackDeliveryService.post settings task a request desiredFingerprint) := by
  refine keeps_checkpoint (fun _ _ => hclear.not_answered) ?_
  unfold KeepsFrom Prog.Keeps
  rw [Prog.bind_eq, Prog.emits_bind]
  refine Prog.emits_perform.2 ⟨⟨.write settings task hclear,
    toldOfIdentity_of_ne (by simp [writeStarted]) (by simp [writeStarted])⟩, fun r => ?_⟩
  cases r with
  | error x => exact ends_error fun _ _ heq => by cases heq
  | ok a' =>
    refine keeps_checkpoint (fun _ _ heq => by cases heq) ?_
    unfold KeepsFrom Prog.Keeps
    rw [Prog.bind_eq, Prog.emits_bind, Prog.emits_attempt]
    refine Prog.emits_perform.2 ⟨⟨a', rfl⟩, fun r => ?_⟩
    dsimp only
    split
    · exact keeps_ownershipCheckpoint
        (keeps_recorded (.unsent task a' _ _)
          (toldOfIdentity_of_ne (by simp [retryableFailure]) (by simp [retryableFailure]))
          (by simp [retryableFailure]) (by simp))
    · exact keeps_ownershipCheckpoint
        (keeps_recorded (.rejected task a' _)
          (toldOfIdentity_of_ne (by simp [permanentFailure]) (by simp [permanentFailure]))
          (by simp [permanentFailure]) (by simp))
    · exact keeps_ownershipCheckpoint
        (keeps_recorded (.unknown task a' _)
          (toldOfIdentity_of_ne (by simp [outcomeUnknown]) (by simp [outcomeUnknown]))
          (by simp [outcomeUnknown]) fun _ => rfl)
    · exact ends_error fun _ _ heq => by cases heq
    · exact keeps_ownershipCheckpoint
        (keeps_recorded (.succeeded task a' _ desiredFingerprint)
          (toldOfIdentity_of_ne (by simp [writeSucceeded]) (by simp [writeSucceeded]))
          (by simp [writeSucceeded]) (by simp))

lemma verifyAndPost_keeps (settings : Settings) (task : TaskExecution) (a : ExternalAction)
    (request : SlackMessageRequest) (desiredFingerprint : Digest) (hclear : Clear (phase h) a) :
    KeepsFrom scope h (verifyAndPost settings task a request desiredFingerprint) := by
  refine keeps_checkpoint (fun _ _ => hclear.not_answered) ?_
  unfold KeepsFrom Prog.Keeps
  rw [Prog.bind_eq, Prog.emits_bind, Prog.emits_attempt]
  refine Prog.emits_perform.2 ⟨⟨a, hclear⟩, fun r => ?_⟩
  have hclear' : Clear (phase (.answered .verifySlackIdentity r ::
      .issued .verifySlackIdentity :: h)) a := hclear
  dsimp only
  split
  · exact keeps_checkpoint (fun _ _ => hclear'.not_answered)
      (keeps_recorded (.identityRetryable task hclear' _ _)
        (toldOfIdentity_of_ne (by simp [identityRetryableFailure])
          (by simp [identityRetryableFailure]))
        (by simp [identityRetryableFailure]) (by simp))
  · exact keeps_checkpoint (fun _ _ => hclear'.not_answered)
      (keeps_recorded (.identityPermanent task hclear' _)
        ⟨fun _ => ⟨_, List.mem_cons_self⟩, by simp [identityPermanentFailure]⟩
        (by simp [identityPermanentFailure]) (by simp))
  · exact ends_error fun _ _ heq => absurd heq hclear'.not_answered
  · refine keeps_checkpoint (fun _ _ => hclear'.not_answered) ?_
    split
    · exact post_keeps settings task a request desiredFingerprint hclear'
    · rename_i hverified
      rw [Bool.not_eq_true] at hverified
      subst hverified
      exact keeps_recorded (.mismatch task hclear')
        ⟨by simp [identityMismatch], fun _ => List.mem_cons_self⟩
        (by simp [identityMismatch]) (by simp)

lemma deliverReserved_keeps (settings : Settings) (task : TaskExecution)
    (request : SlackMessageRequest) (desiredFingerprint : Digest)
    (reservation : ActionReservation) (hphase : phase h = .reserved reservation) :
    KeepsFrom scope h
      (deliverReserved settings task request desiredFingerprint reservation) := by
  have hne : ∀ a receipt, phase h ≠ .answered a (.ok receipt) := by
    intro a receipt heq
    rw [hphase] at heq
    cases heq
  have hclear : reservation.action.status ∈ [.reserved, .reconciling, .readyToExecute] →
      KeepsFrom scope h
        (verifyAndPost settings task reservation.action request desiredFingerprint) := by
    intro hstatus
    apply verifyAndPost_keeps
    rw [hphase]
    exact .unstarted reservation hstatus
  unfold deliverReserved
  split
  · exact keeps_result hne (by simp)
  dsimp only
  cases hstatus : reservation.action.status with
  | succeeded => exact keeps_result hne (by simp)
  | outcomeUnknown =>
    refine keeps_result hne fun _ => ?_
    rw [hphase]
    exact .reported reservation hstatus
  | permanentFailure => exact keeps_result hne (by simp)
  | needsHumanReview => exact keeps_result hne (by simp)
  | executing =>
    refine keeps_checkpoint hne ?_
    unfold KeepsFrom Prog.Keeps
    rw [Prog.bind_eq, Prog.emits_bind]
    refine Prog.emits_perform.2 ⟨?_, fun r => ?_⟩
    · refine ⟨?_, toldOfIdentity_of_ne (by simp [previousWriteUnresolved])
        (by simp [previousWriteUnresolved])⟩
      rw [hphase]
      exact .demote task reservation hstatus
    · cases r with
      | error x => exact ends_error fun _ _ heq => by cases heq
      | ok a =>
        refine keeps_result (fun _ _ heq => ?_) fun _ => ?_
        · cases heq
        · exact .recorded _ a rfl
  | retryableFailure =>
    unfold KeepsFrom Prog.Keeps
    dsimp only
    rw [Prog.bind_eq, Prog.emits_bind]
    refine Prog.emits_perform.2 ⟨⟨reservation, hphase, hstatus, rfl⟩, fun r => ?_⟩
    cases r with
    | error x => exact ends_error fun a receipt heq => absurd heq (hne a receipt)
    | ok delay =>
      have hdelayed : phase (.answered (.reconciliationDelaySeconds reservation.action.id)
          (.ok delay) :: .issued (.reconciliationDelaySeconds reservation.action.id) :: h) =
          .delayed reservation delay := by
        simp only [phase, SlackPhase.next, hphase]
      have hne' : ∀ a receipt, phase (.answered (.reconciliationDelaySeconds
          reservation.action.id) (.ok delay) ::
          .issued (.reconciliationDelaySeconds reservation.action.id) :: h) ≠
          .answered a (.ok receipt) := by
        intro a receipt heq
        rw [hdelayed] at heq
        cases heq
      refine keeps_checkpoint hne' ?_
      split
      · exact keeps_result hne' (by simp)
      · rename_i hdelay
        apply verifyAndPost_keeps
        rw [hdelayed]
        exact .due reservation delay hstatus (not_lt.1 hdelay)
  | reserved => exact hclear (by simp [hstatus])
  | reconciling => exact hclear (by simp [hstatus])
  | readyToExecute => exact hclear (by simp [hstatus])

theorem deliver_keeps (delivery : Delivery scope) : KeepsFrom scope [] delivery.run := by
  have hpure : ∀ {β : Type} {r : Except Exn β} {f : β → Handler SlackNotificationResult},
      (∀ a, r = .ok a → KeepsFrom scope [] (f a)) →
      KeepsFrom scope [] ((Prog.ofExcept r).bind f) := by
    intro β r f hf
    cases r with
    | error x => exact ends_error fun _ _ heq => by cases heq
    | ok a => exact hf a rfl
  refine keeps_checkpoint (fun _ _ heq => by cases heq) ?_
  refine hpure fun message _ => hpure fun request _ => hpure fun key hkey =>
    hpure fun snapshot _ => ?_
  unfold KeepsFrom Prog.Keeps
  rw [Prog.bind_eq, Prog.emits_bind]
  have hscope : key = scope := Except.ok.inj (hkey.symm.trans delivery.scope_eq)
  refine Prog.emits_perform.2 ⟨⟨rfl, hscope⟩, fun r => ?_⟩
  cases r with
  | error x => exact ends_error fun _ _ heq => by cases heq
  | ok reservation => exact deliverReserved_keeps _ _ _ _ reservation rfl

end Keeps

section

variable [Runtime] {S M J : Type}

/-- Any number of deliveries to one scope, under a clock that moves as `tick` says. -/
def deliveries {scope : String} (delivery : J → Delivery scope)
    (tick : Timestamp → Timestamp → Bool) : Setup J SlackNotificationResult where
  job j := (delivery j).run
  tick := tick

abbrev SlackView (S : Type) := ScopeView S SlackNotificationResult

/-- An invariant of the scope holds after every run of deliveries to it. -/
theorem slack_run {scope : String} {delivery : J → Delivery scope}
    {tick : Timestamp → Timestamp → Bool} {providers : Provider S M}
    {allowed : ℕ → Effect → SlackView S → Bool} {I : SlackView S → Prop} {db : Database}
    {now : Timestamp} {s : S}
    (hI : ScopeInvariant (deliveries delivery tick) providers scope (deliveryScript scope) allowed
      (Database.LedgerValid db) I)
    (hinit : I ⟨db.actionAt scope, now, s, []⟩) {moves : List (Move J (Choice M))}
    {c : Config handlerSignature SlackNotificationResult (World S SlackNotificationResult)}
    (hrun : (scopeMachine (deliveries delivery tick) providers scope allowed).run
      (Config.init (World.initial db now s)) moves = some c) : I (c.world.view scope) :=
  hI.run (fun _ _ => deliveryScript_inScope) (fun j => deliver_keeps (delivery j)) id hinit hrun

end

/-! ## A scope to try the results on -/

namespace Sample

@[reducible] def slackHost : Runtime :=
  host [
    ("\x7b\"channel\":\"C12345678\",\"mrkdwn\":true,\"text\":\"" ++
      "Deployment context sync\\nDecision: ready\\nService: payments\\n" ++
      "Authoritative GitHub: <https://github.example/acme/payments/issues/7#issuecomment-9001" ++
      "|deployment-context comment>\\nGitHub revision: 1\"" ++
      ",\"unfurl_links\":false,\"unfurl_media\":false\x7d",
      0x6e39c7c152a8b09a6d671fee70f192e2deafa76c779219e7247c52227f1f15d0),
    ("\x7b\"authoritative_github\":\x7b\"provider_resource_identifier\":\"9001\"," ++
      "\"revision\":1\x7d," ++
      "\"channel\":\"C12345678\",\"decision\":\x7b\"outcome\":\"ready\",\"policy_version\":3," ++
      "\"reason_codes\":[\"ready\"]\x7d,\"slack_team\":\"T01\"," ++
      "\"sources\":[],\"workflow_version\":\"deployment_context_sync:v1\"\x7d",
      0xad96a4663a30b1118d967256779ed49f53bfe3f9810e7d68754fc48bfc24891c),
    ("\x7b\"channel\":\"C12345678\",\"timestamp\":\"1715000000.000100\"\x7d",
      0x096f1c6d58d23281f70003dd3373551dc4902ecd6aa18de3752ac2de09bc4186)]

def slackRequest : SlackDeliveryRequest where
  channelId := "C12345678"
  canonicalServiceId := "payments"
  githubRepositoryId := 42
  githubIssueNumber := 7
  githubAction := {
    actionId := 1
    provider := .github
    operation := .upsertDeploymentContextComment
    revision := 1
    providerResourceIdentifier := some "9001"
    providerUrl := some "https://github.example/acme/payments/issues/7#issuecomment-9001" }
  decision := {
    outcome := .ready
    reasonCodes := [.ready]
    reasons := ["The deployment is ready."]
    sourceReferences := []
    policyVersion := 3
    generatedAt := ⟨2024, 5, 6, 7, 8, 9, 0, some 0⟩ }

def slackScope : String :=
  "deployment_context_sync:v1:prod:slack_team:T01:42:7:payments:" ++
    "github_revision:1:slack_channel:C12345678:notification"

lemma slackScope_eq : slackActionScopeKey (some "prod") (some "T01")
    slackRequest.githubRepositoryId slackRequest.githubIssueNumber slackRequest.canonicalServiceId
    slackRequest.githubAction.revision slackRequest.channelId = .ok slackScope := by
  decide

lemma writeTimeout_pos : 0 < (5000000 : Duration) := by decide

lemma settlementDelay_pos : 0 < (3000000 : Duration) := by decide

/-- The delivery of the same notification by task `n`. -/
def delivery (n : ℕ) : Delivery slackScope where
  settings := {
    deploymentScopeId := some "prod"
    slackExpectedTeamId := some "T01"
    slackWriteTimeout_pos := writeTimeout_pos
    integrationSettlementDelay_pos := settlementDelay_pos }
  task := ⟨(fence n).taskId, fence n⟩
  request := slackRequest
  scope_eq := slackScope_eq

def receipt : SlackMessageReceipt := ⟨"C12345678", "1715000000.000100", by decide, by decide⟩

/-- Slack verifies the identity and answers a post with `posted`. -/
def slackAnswers (posted : Except Exn SlackMessageReceipt) : (e : Effect) → Outcome e
  | .verifySlackIdentity => .ok true
  | .postNotification _ => posted
  | .record _ | .reserveOrGet _ | .transition _ | .revise _ | .reconciliationDelaySeconds _
  | .fetchRecords _ | .verifyGitHubIdentity | .fetchContext _ _ | .getComment _ _
  | .findCommentsByMarker _ _ _ | .createComment _ _ _ | .updateComment _ _ _
  | .fetchIssue _ => .error .noResultFound

abbrev SlackMove : Type := Move ℕ (Choice ((e : Effect) → Outcome e))

/-- The next transaction of handler `i`, and what it does up to its next await. -/
def commit (i n : ℕ) : List SlackMove :=
  [.exec i (.identifiers (BitVec.ofNat 128 (2 * n + 100)) (BitVec.ofNat 128 (2 * n + 101))),
    .resume i]

/-- The next call of handler `i`, answered, and what it does up to its next await. -/
def answer (i : ℕ) (posted : Except Exn SlackMessageReceipt) : List SlackMove :=
  [.exec i (.respond (slackAnswers posted)), .resume i]

abbrev SlackConfig : Type :=
  Config handlerSignature SlackNotificationResult (World Unit SlackNotificationResult)

def slackText : String :=
  "Deployment context sync\nDecision: ready\nService: payments\n" ++
    "Authoritative GitHub: <https://github.example/acme/payments/issues/7#issuecomment-9001|" ++
    "deployment-context comment>\nGitHub revision: 1"

set_option maxRecDepth 100000 in
def slackMessage : SlackMessageRequest where
  channel := "C12345678"
  text := slackText
  channel_pattern := by decide
  text_length := by decide +kernel

def slackFingerprint : Digest :=
  0x6e39c7c152a8b09a6d671fee70f192e2deafa76c779219e7247c52227f1f15d0

def slackSnapshotHash : Digest :=
  0xad96a4663a30b1118d967256779ed49f53bfe3f9810e7d68754fc48bfc24891c

attribute [local instance] slackHost

set_option maxRecDepth 100000 in
lemma renderSlackNotification_slackRequest : renderSlackNotification slackRequest.decision
    slackRequest.canonicalServiceId slackRequest.githubAction 1000 = .ok slackText := by
  decide +kernel

set_option maxRecDepth 100000 in
lemma escapeString_slackText : escapeString slackText =
    "\"Deployment context sync\\nDecision: ready\\nService: payments\\n" ++
      "Authoritative GitHub: <https://github.example/acme/payments/issues/7#issuecomment-9001|" ++
      "deployment-context comment>\\nGitHub revision: 1\"" := by
  decide +kernel

set_option maxRecDepth 100000 in
lemma sha256Json_slackMessage : sha256Json slackMessage.providerPayload = slackFingerprint := by
  simp only [sha256Json, SlackMessageRequest.providerPayload, canonicalJson, canonicalMembers,
    slackMessage, escapeString_slackText]
  decide +kernel

set_option maxRecDepth 100000 in
lemma slackDecisionSnapshotHash_slackRequest :
    slackDecisionSnapshotHash slackRequest.decision slackRequest.githubAction
      slackRequest.channelId (some "T01") = .ok slackSnapshotHash := by
  decide +kernel

/-- A delivery of the sample, with its texts and digests worked out. -/
def preparedDelivery (n : ℕ) : Handler SlackNotificationResult := do
  HandlerContext.raiseIfCancelled
  let reservation ← perform (.reserveOrGet {
    fence := fence n
    provider := .slack
    operation := .postDeploymentContextNotification
    actionScopeKey := slackScope
    desiredRequestFingerprint := slackFingerprint
    decisionSnapshotHash := slackSnapshotHash })
  deliverReserved (delivery n).settings (delivery n).task slackMessage slackFingerprint
    reservation

lemma run_delivery (n : ℕ) : (delivery n).run = preparedDelivery n :=
  deliver_eq renderSlackNotification_slackRequest
    (SlackMessageRequest.validate_ok slackMessage.channel_pattern slackMessage.text_length)
    (delivery n).scope_eq sha256Json_slackMessage slackDecisionSnapshotHash_slackRequest

/-- The machine that runs deliveries of the sample under a clock that does not go back. -/
def slackMachine : Machine handlerSignature SlackNotificationResult ℕ
    (World Unit SlackNotificationResult) (Choice ((e : Effect) → Outcome e)) :=
  machine (deliveries delivery fun now later => decide (now ≤ later)) anyProvider

def runSlack (moves : List SlackMove) : Option SlackConfig :=
  slackMachine.run (Config.init (World.initial database 0 ())) moves

lemma runSlack_eq (moves : List SlackMove) : runSlack moves =
    (machine { job := preparedDelivery, tick := fun now later => decide (now ≤ later) }
      anyProvider).run (Config.init (World.initial database 0 ())) moves := by
  have h : (fun n => (delivery n).run) = preparedDelivery := funext run_delivery
  simp only [runSlack, slackMachine, deliveries, h]

end Sample

end DeploymentLab
