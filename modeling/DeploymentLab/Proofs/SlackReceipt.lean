import DeploymentLab.Proofs.SlackCustody

/-!
# What becomes of a receipt

A delivery that is handed a receipt records it, unless another delivery has meanwhile taken the
write for unresolved. Then the row stays `OUTCOME_UNKNOWN`.
-/

namespace DeploymentLab

open Interaction SlackDeliveryService SlackLog

variable {S M : Type}

namespace SlackLog

/-- Another delivery than `i` has taken the write in progress for unresolved. -/
def DemotedByOther (i : ℕ) (log : Log) : Prop :=
  ∃ j now request row, j ≠ i ∧ .executed j now (.transition request) (.ok row) ∈ log ∧
    request.transition = "slack_previous_write_unresolved"

/-- A delivery has recorded the outcome as unknown, or has reported it so. -/
def UnknownTold (log : Log) : Prop :=
  (∃ i now request row, .executed i now (.transition request) (.ok row) ∈ log ∧
    request.newStatus = .outcomeUnknown) ∨
  ∃ i result, .ended i (.ok result) ∈ log ∧ result.state = .outcomeUnknown

lemma UnknownTold.of_cons {log : Log} {event : Event SlackNotificationResult}
    (h : UnknownTold (event :: log)) (hcommit : event.commit = none)
    (hended : ∀ i r, event ≠ .ended i r) : UnknownTold log := by
  rcases h with ⟨i, now, request, row, hmem, hnew⟩ | ⟨i, result, hmem, hstate⟩
  · rcases List.mem_cons.1 hmem with rfl | hmem
    · cases hcommit
    · exact .inl ⟨i, now, request, row, hmem, hnew⟩
  · rcases List.mem_cons.1 hmem with rfl | hmem
    · exact absurd rfl (hended i _)
    · exact .inr ⟨i, result, hmem, hstate⟩

lemma DemotedByOther.mono {i : ℕ} {log : Log} {event : Event SlackNotificationResult}
    (h : DemotedByOther i log) : DemotedByOther i (event :: log) := by
  obtain ⟨j, now, request, row, hne, hmem, hname⟩ := h
  exact ⟨j, now, request, row, hne, List.mem_cons_of_mem _ hmem, hname⟩

end SlackLog

/-- The row has the status `status`. -/
def RowIs (row : Option ExternalAction) (status : ExternalActionStatus) : Prop :=
  ∃ a, row = some a ∧ a.status = status

/-- The row of a write in progress, seen by the delivery `i` that has started it. -/
def InProgress (i : ℕ) (row : Option ExternalAction) (log : Log) : Prop :=
  RowIs row .executing ∨ (RowIs row .outcomeUnknown ∧ DemotedByOther i log)

def SlackPhase.Settling (i : ℕ) (row : Option ExternalAction) (log : Log) : SlackPhase → Prop
  | .armed _ | .posting _ | .answered _ _ => InProgress i row log
  | .reserved reservation =>
    reservation.action.status = .outcomeUnknown → RowIs row .outcomeUnknown
  | .settled request (.ok _) => request.newStatus = .outcomeUnknown → RowIs row .outcomeUnknown
  | .fresh | .delayed _ _ | .settled _ (.error _) => True

/-- What has become of the receipt that was handed to delivery `i`. -/
def SlackPhase.Keeping (i : ℕ) (receipt : SlackMessageReceipt) (row : Option ExternalAction)
    (log : Log) : SlackPhase → Prop
  | .answered _ outcome => outcome = .ok receipt
  | .settled _ (.ok _) => ∃ a, row = some a ∧ a.status = .succeeded ∧
      a.providerResourceIdentifier = some receipt.providerResourceIdentifier
  | .settled _ (.error x) =>
    x = fenceNotConfirmed ∨ (RowIs row .outcomeUnknown ∧ DemotedByOther i log)
  | .fresh | .reserved _ | .delayed _ _ | .armed _ | .posting _ => False

structure Receipts (v : SlackView S) : Prop where
  custody : Custody v
  settling : ∀ i, (phase (past i v.log)).Settling i v.row v.log
  keeping : ∀ i now message receipt,
    .executed i now (.postNotification message) (.ok receipt) ∈ v.log →
    (phase (past i v.log)).Keeping i receipt v.row v.log
  unknown : UnknownTold v.log → RowIs v.row .outcomeUnknown
  ended : ∀ i r, .ended i r ∈ v.log → ∀ a receipt,
    phase (past i v.log) = .answered a (.ok receipt) → r = .error .ownershipLostError

/-- The row that was there is there, with its status and its provider identifier. -/
def Stays (row row' : Option ExternalAction) : Prop :=
  ∀ a, row = some a → ∃ a', row' = some a' ∧ a'.status = a.status ∧
    a'.providerResourceIdentifier = a.providerResourceIdentifier

lemma Stays.rfl (row : Option ExternalAction) : Stays row row :=
  fun a ha => ⟨a, ha, Eq.refl _, Eq.refl _⟩

lemma RowIs.stays {row row' : Option ExternalAction} {status : ExternalActionStatus}
    (h : RowIs row status) (hstays : Stays row row') : RowIs row' status := by
  obtain ⟨a, ha, hstatus⟩ := h
  obtain ⟨a', ha', hsame, -⟩ := hstays a ha
  exact ⟨a', ha', hsame.trans hstatus⟩

lemma RowIs.status_eq {a : ExternalAction} {status : ExternalActionStatus}
    (h : RowIs (some a) status) : a.status = status := by
  obtain ⟨b, hb, hstatus⟩ := h
  cases hb
  exact hstatus

namespace Receipts

variable {i : ℕ} {v : SlackView S} {event : Event SlackNotificationResult} {ph : SlackPhase}
  {row row' : Option ExternalAction} {log : Log} {s : S}

variable (event) in
lemma settling_mono {k : ℕ} (h : ph.Settling k row log) (hstays : Stays row row') :
    ph.Settling k row' (event :: log) := by
  have hprogress : InProgress k row log → InProgress k row' (event :: log) := by
    rintro (hexecuting | ⟨hunknown, hdemoted⟩)
    · exact .inl (hexecuting.stays hstays)
    · exact .inr ⟨hunknown.stays hstays, hdemoted.mono⟩
  cases ph with
  | fresh | delayed => trivial
  | reserved reservation => exact fun hstatus => (h hstatus).stays hstays
  | armed | posting | answered => exact hprogress h
  | settled request outcome =>
    cases outcome with
    | ok a => exact fun hstatus => (h hstatus).stays hstays
    | error x => trivial

lemma keeping_mono {k : ℕ} {receipt : SlackMessageReceipt} (h : ph.Keeping k receipt row log)
    (hstays : Stays row row') : ph.Keeping k receipt row' (event :: log) := by
  cases ph with
  | fresh | reserved | delayed | armed | posting => exact h
  | answered => exact h
  | settled request outcome =>
    cases outcome with
    | ok b =>
      obtain ⟨a, ha, hstatus, hid⟩ := h
      obtain ⟨a', ha', hstatus', hid'⟩ := hstays a ha
      exact ⟨a', ha', hstatus'.trans hstatus, hid'.trans hid⟩
    | error x => exact h.imp_right fun ⟨hunknown, hdemoted⟩ =>
        ⟨hunknown.stays hstays, hdemoted.mono⟩

/-- A step that leaves status and provider identifier of the row alone. -/
lemma stays (h : Receipts v) (hactor : event.actor = i) (hunended : (past i v.log).Unended)
    (hcustody : Custody ({ v with row := row, provider := s }.note event))
    (hstays : Stays v.row row)
    (hsettling : (phase (past i (event :: v.log))).Settling i row (event :: v.log))
    (hkeeping : ∀ now message receipt,
      .executed i now (.postNotification message) (.ok receipt) ∈ event :: v.log →
      (phase (past i (event :: v.log))).Keeping i receipt row (event :: v.log))
    (hunknown : UnknownTold (event :: v.log) → UnknownTold v.log ∨ RowIs v.row .outcomeUnknown)
    (hended : ∀ r, event = .ended i r → ∀ a receipt,
      phase (past i (event :: v.log)) = .answered a (.ok receipt) →
      r = .error .ownershipLostError) :
    Receipts ({ v with row := row, provider := s }.note event) := by
  have hother : ∀ k, k ≠ i → past k (event :: v.log) = past k v.log := by
    intro k hk
    exact past_of_ne (by rw [hactor]; exact fun heq => hk heq.symm)
  refine ⟨hcustody, fun k => ?_, fun k now message receipt hmem => ?_, fun htold => ?_,
    fun k r hmem a receipt hphase => ?_⟩
  · by_cases hk : k = i
    · subst hk
      exact hsettling
    · rw [ScopeView.note_log, hother k hk]
      exact settling_mono _ (h.settling k) hstays
  · by_cases hk : k = i
    · subst hk
      exact hkeeping now message receipt hmem
    · rw [ScopeView.note_log, hother k hk]
      rcases List.mem_cons.1 hmem with rfl | hmem
      · exact absurd hactor hk
      · exact keeping_mono (h.keeping k now message receipt hmem) hstays
  · rcases hunknown htold with hold | hrow
    · exact (h.unknown hold).stays hstays
    · exact hrow.stays hstays
  · by_cases hk : k = i
    · subst hk
      rcases List.mem_cons.1 hmem with heq | hmem
      · exact hended r heq.symm a receipt hphase
      · refine absurd ?_ (hunended r)
        exact List.mem_filterMap.2 ⟨_, hmem, by simp [Event.actor, Event.act]⟩
    · rw [ScopeView.note_log, hother k hk] at hphase
      rcases List.mem_cons.1 hmem with rfl | hmem
      · exact absurd hactor hk
      · exact h.ended k r hmem a receipt hphase

/-- A step that leaves the row alone and does not move its actor. -/
lemma stays_of_phase (h : Receipts v) (hactor : event.actor = i)
    (hunended : (past i v.log).Unended)
    (hcustody : Custody ({ v with row := row, provider := s }.note event))
    (hstays : Stays v.row row)
    (hphase : phase (past i (event :: v.log)) = phase (past i v.log))
    (hreceipt : ∀ now message receipt,
      event ≠ .executed i now (.postNotification message) (.ok receipt))
    (hunknown : UnknownTold (event :: v.log) → UnknownTold v.log ∨ RowIs v.row .outcomeUnknown)
    (hended : ∀ r, event = .ended i r → ∀ a receipt,
      phase (past i (event :: v.log)) = .answered a (.ok receipt) →
      r = .error .ownershipLostError) :
    Receipts ({ v with row := row, provider := s }.note event) := by
  refine h.stays hactor hunended hcustody hstays ?_ (fun now message receipt hmem => ?_) hunknown
    hended
  · rw [hphase]
    exact settling_mono _ (h.settling i) hstays
  · rw [hphase]
    rcases List.mem_cons.1 hmem with heq | hmem
    · exact absurd heq.symm (hreceipt now message receipt)
    · exact keeping_mono (h.keeping i now message receipt hmem) hstays

/-- The statuses from which a delivery moves the row: never one that is final, and a write in
progress only to record its own outcome or to take it for unresolved. -/
lemma requests_from {request : TransitionRequest} {status : ExternalActionStatus}
    (hrequest : Requests ph request) (hstatus : status ∈ request.expectedStatuses) :
    status ≠ .outcomeUnknown ∧ status ≠ .succeeded ∧
      (status = .executing → (request.transition = "slack_previous_write_unresolved" ∧
        request.newStatus = .outcomeUnknown) ∨ ∃ b outcome, ph = .answered b outcome) := by
  cases hrequest with
  | demote =>
    simp only [previousWriteUnresolved, List.mem_singleton] at hstatus
    subst hstatus
    exact ⟨by simp, by simp, fun _ => .inl ⟨rfl, rfl⟩⟩
  | unsent | rejected | unknown | succeeded =>
    simp only [retryableFailure, permanentFailure, outcomeUnknown, writeSucceeded,
      List.mem_singleton] at hstatus
    subst hstatus
    exact ⟨by simp, by simp, fun _ => .inr ⟨_, _, rfl⟩⟩
  | identityRetryable | identityPermanent | mismatch | write =>
    simp only [identityRetryableFailure, identityPermanentFailure, identityMismatch, writeStarted,
      postable, List.mem_cons, List.not_mem_nil, or_false] at hstatus
    rcases hstatus with rfl | rfl | rfl <;> simp

lemma commit (h : Receipts v) (hunended : (past i v.log).Unended) {request : TransitionRequest}
    {a : ExternalAction} (hphase : phase (past i v.log) = ph) (hrequest : Requests ph request)
    (hrow : v.row = some a) (hstatus : a.status ∈ request.expectedStatuses) :
    let a' := ExternalActionRepository.transitioned v.now request a
    Receipts ({ v with row := some a', provider := s }.note
      (.executed i v.now (.transition request) (.ok a'))) := by
  intro a'
  obtain ⟨hknown, hopen, hfrom⟩ := requests_from hrequest hstatus
  have hcustody : Custody ({ v with row := some a', provider := s }.note
      (.executed i v.now (.transition request) (.ok a'))) :=
    h.custody.commit hphase hrequest hrow hstatus rfl
  have hnot : ∀ status, status = .outcomeUnknown ∨ status = .succeeded → ¬RowIs v.row status := by
    intro status hfinal his
    rw [hrow] at his
    have := his.status_eq
    rcases hfinal with rfl | rfl
    · exact hknown this
    · exact hopen this
  have hnext : phase (past i (.executed i v.now (.transition request) (.ok a') :: v.log)) =
      .armed a' ∧ request.newStatus = .executing ∨
      phase (past i (.executed i v.now (.transition request) (.ok a') :: v.log)) =
        .settled request (.ok a') := by
    rw [past_executed, phase, hphase]
    by_cases hname : request.transition = "slack_write_started"
    · refine .inl ⟨if_pos hname, ?_⟩
      cases hrequest <;> first | rfl | simp [previousWriteUnresolved, identityRetryableFailure,
        identityPermanentFailure, identityMismatch, retryableFailure, permanentFailure,
        outcomeUnknown, writeSucceeded] at hname
    · exact .inr (if_neg hname)
  have hother : ∀ k, k ≠ i →
      past k (.executed i v.now (.transition request) (.ok a') :: v.log) = past k v.log :=
    fun k hk => past_executed_of_ne hk.symm
  refine ⟨hcustody, fun k => ?_, fun k now message receipt hmem => ?_, fun htold => ?_,
    fun k r hmem b receipt hanswered => ?_⟩
  · by_cases hk : k = i
    · subst hk
      rcases hnext with ⟨hnext, hnew⟩ | hnext
      · rw [ScopeView.note_log, hnext]
        exact .inl ⟨a', rfl, hnew⟩
      · rw [ScopeView.note_log, hnext]
        exact fun hnew => ⟨a', rfl, hnew⟩
    · rw [ScopeView.note_log, hother k hk]
      have hsettling := h.settling k
      have hholding := h.custody.holding k
      have hholder : holder v.log = some k → InProgress k v.row v.log →
          InProgress k (some a') (.executed i v.now (.transition request) (.ok a') :: v.log) := by
        rintro hheld (hexecuting | ⟨hunknown, -⟩)
        · rw [hrow] at hexecuting
          rcases hfrom hexecuting.status_eq with ⟨hname, hnew⟩ | ⟨b, outcome, hanswered⟩
          · exact .inr ⟨⟨a', rfl, hnew⟩, i, v.now, request, a', hk ∘ Eq.symm, List.mem_cons_self,
              hname⟩
          · have hself := h.custody.holding i
            rw [hphase, hanswered] at hself
            exact absurd (Option.some.inj (hheld.symm.trans hself.1)) hk
        · exact absurd hunknown (hnot _ (.inl rfl))
      cases hplace : phase (past k v.log) with
      | fresh | delayed => trivial
      | reserved reservation =>
        rw [hplace] at hsettling
        exact fun hstatus => absurd (hsettling hstatus) (hnot _ (.inl rfl))
      | armed b =>
        rw [hplace] at hsettling hholding
        exact hholder hholding.1 hsettling
      | posting b =>
        rw [hplace] at hsettling hholding
        exact hholder hholding hsettling
      | answered b outcome =>
        rw [hplace] at hsettling hholding
        exact hholder hholding.1 hsettling
      | settled request' outcome =>
        rw [hplace] at hsettling
        cases outcome with
        | ok b => exact fun hstatus => absurd (hsettling hstatus) (hnot _ (.inl rfl))
        | error x => trivial
  · have hmem : .executed k now (.postNotification message) (.ok receipt) ∈ v.log := by
      rcases List.mem_cons.1 hmem with heq | hmem
      · cases heq
      · exact hmem
    have hkeeping := h.keeping k now message receipt hmem
    by_cases hk : k = i
    · subst hk
      rw [hphase] at hkeeping
      have hanswered : ∃ b, ph = .answered b (.ok receipt) := by
        cases hrequest with
        | demote | unsent | rejected | unknown => cases hkeeping
        | succeeded task b receipt' fingerprint =>
          cases hkeeping
          exact ⟨b, rfl⟩
        | identityRetryable task hclear | identityPermanent task hclear | mismatch task hclear
        | write settings task hclear => cases hclear <;> cases hkeeping
      obtain ⟨b, rfl⟩ := hanswered
      cases hrequest with
      | succeeded task b receipt fingerprint =>
        have hsettled : phase (past k (.executed k v.now (.transition
            (writeSucceeded task b receipt fingerprint)) (.ok a') :: v.log)) =
            .settled (writeSucceeded task b receipt fingerprint) (.ok a') := by
          rw [past_executed]
          rfl
        rw [ScopeView.note_log, hsettled]
        exact ⟨a', rfl, rfl, rfl⟩
      | identityRetryable task hclear | identityPermanent task hclear | mismatch task hclear
      | write settings task hclear => cases hclear
    · rw [ScopeView.note_log, hother k hk]
      cases hplace : phase (past k v.log) with
      | fresh | reserved | delayed | armed | posting =>
        rw [hplace] at hkeeping
        exact hkeeping
      | answered b outcome =>
        rw [hplace] at hkeeping
        exact hkeeping
      | settled request' outcome =>
        rw [hplace] at hkeeping
        cases outcome with
        | ok b =>
          obtain ⟨c, hc, hsucceeded, -⟩ := hkeeping
          exact absurd ⟨c, hc, hsucceeded⟩ (hnot _ (.inr rfl))
        | error x =>
          rcases hkeeping with hfence | ⟨hunknown, -⟩
          · exact .inl hfence
          · exact absurd hunknown (hnot _ (.inl rfl))
  · have hold : ¬UnknownTold v.log := fun hold => hnot _ (.inl rfl) (h.unknown hold)
    rcases htold with ⟨k, now, request', row', hmem, hnew⟩ | ⟨k, result, hmem, hstate⟩
    · rcases List.mem_cons.1 hmem with heq | hmem
      · cases heq
        exact ⟨a', rfl, hnew⟩
      · exact absurd (.inl ⟨k, now, request', row', hmem, hnew⟩) hold
    · rcases List.mem_cons.1 hmem with heq | hmem
      · cases heq
      · exact absurd (.inr ⟨k, result, hmem, hstate⟩) hold
  · have hmem : .ended k r ∈ v.log := by
      rcases List.mem_cons.1 hmem with heq | hmem
      · cases heq
      · exact hmem
    by_cases hk : k = i
    · subst hk
      rw [ScopeView.note_log] at hanswered
      rcases hnext with ⟨hnext, -⟩ | hnext
      · rw [hnext] at hanswered
        cases hanswered
      · rw [hnext] at hanswered
        cases hanswered
    · rw [ScopeView.note_log, hother k hk] at hanswered
      exact h.ended k r hmem b receipt hanswered

/-- A failed transition of a delivery, which had a receipt to record or not. -/
lemma fail (h : Receipts v) (hunended : (past i v.log).Unended) {request : TransitionRequest}
    {a : ExternalAction} {x : Exn} (hphase : phase (past i v.log) = ph)
    (hrequest : Requests ph request) (hrow : v.row = some a)
    (hcustody : Custody ({ v with row := v.row, provider := s }.note
      (.executed i v.now (.transition request) (.error x))))
    (hvalid : ∀ c ∈ a.checkConstraints, c.2 = true)
    (hreason : request.WellFormed → x = fenceNotConfirmed ∨
      (a.status ∉ request.expectedStatuses ∧ x = ExternalActionRepository.stateChanged) ∨
      ∃ c ∈ (ExternalActionRepository.transitioned v.now request a).checkConstraints,
        c.2 = false) :
    Receipts ({ v with row := v.row, provider := s }.note
      (.executed i v.now (.transition request) (.error x))) := by
  have hsettled : phase (past i (.executed i v.now (.transition request) (.error x) :: v.log)) =
      .settled request (.error x) := by
    rw [past_executed]
    rfl
  refine h.stays (i := i) rfl hunended hcustody (.rfl _) ?_ (fun now message receipt hmem => ?_)
    (fun htold => .inl (htold.of_cons rfl (by simp))) (by simp)
  · rw [hsettled]
    trivial
  · have hmem : .executed i now (.postNotification message) (.ok receipt) ∈ v.log := by
      rcases List.mem_cons.1 hmem with heq | hmem
      · cases heq
      · exact hmem
    have hkeeping := h.keeping i now message receipt hmem
    have hsettling := h.settling i
    rw [hphase] at hkeeping hsettling
    rw [hsettled]
    cases hrequest with
    | demote | unsent | rejected | unknown => cases hkeeping
    | identityRetryable task hclear | identityPermanent task hclear | mismatch task hclear
    | write settings task hclear => cases hclear <;> cases hkeeping
    | succeeded task b receipt' fingerprint =>
      rcases hreason ⟨.inl rfl, by simp [writeSucceeded], by simp [writeSucceeded]⟩ with
        hfence | ⟨hstatus, -⟩ | ⟨c, hc, hfalse⟩
      · exact .inl hfence
      · rcases hsettling with hexecuting | ⟨hunknown, hdemoted⟩
        · rw [hrow] at hexecuting
          rw [hexecuting.status_eq] at hstatus
          exact absurd (List.mem_singleton.2 rfl) hstatus
        · exact .inr ⟨hunknown, hdemoted.mono⟩
      · have htrue := ExternalActionRepository.checkConstraints_of_succeeded hvalid rfl rfl rfl c hc
        rw [hfalse] at htrue
        cases htrue

lemma initial {row : Option ExternalAction} {now : Timestamp} {s : S} :
    Receipts (⟨row, now, s, []⟩ : SlackView S) := by
  refine ⟨.initial, fun i => trivial, fun i now message receipt hmem => ?_, ?_,
    fun i r hmem => ?_⟩
  · cases hmem
  · rintro (⟨i, now, request, row, hmem, -⟩ | ⟨i, result, hmem, -⟩) <;> cases hmem
  · cases hmem

end Receipts

variable [Runtime] {J : Type} {scope : String} {delivery : J → Delivery scope}
  {tick : Timestamp → Timestamp → Bool} {providers : Provider S M}
  {allowed : ℕ → Effect → SlackView S → Bool} {valid : Prop}

lemma receipts_invariant (hvalid : valid)
    (hcustody : ScopeInvariant (deliveries delivery tick) providers scope (deliveryScript scope)
      allowed valid Custody) :
    ScopeInvariant (deliveries delivery tick) providers scope (deliveryScript scope) allowed valid
      Receipts where
  started v i hv hempty := by
    refine hv.stays_of_phase (i := i) rfl ?_ (hcustody.started v i hv.custody hempty) (.rfl _) ?_
      (by simp) (fun htold => .inl (htold.of_cons rfl (by simp))) (by simp)
    · rw [hempty]
      intro r hmem
      cases hmem
    · rw [past_started]
  issued v i e s hv hacts hissue hissues := by
    have hc := hcustody.issued v i e s hv.custody hacts hissue hissues
    by_cases hpost : ∃ message, e = .postNotification message
    · obtain ⟨message, rfl⟩ := hpost
      obtain ⟨a, harmed⟩ := hissue
      have hposting : phase (past i (.issued i v.now (.postNotification message) :: v.log)) =
          .posting a := by
        rw [past_issued, phase, harmed]
        rfl
      have hsettling := Receipts.settling_mono (.issued i v.now (.postNotification message))
        (hv.settling i) (.rfl _)
      refine hv.stays (i := i) rfl hacts.unended hc (.rfl _) ?_ (fun now message receipt hmem => ?_)
        (fun htold => .inl (htold.of_cons rfl (by simp))) (by simp)
      · rw [harmed] at hsettling
        rw [hposting]
        exact hsettling
      · rcases List.mem_cons.1 hmem with heq | hmem
        · cases heq
        · have hkeeping := hv.keeping i now message receipt hmem
          rw [harmed] at hkeeping
          exact hkeeping.elim
    · refine hv.stays_of_phase (i := i) rfl hacts.unended hc (.rfl _) ?_ (by simp)
        (fun htold => .inl (htold.of_cons rfl (by simp))) (by simp)
      rw [past_issued, phase]
      cases e <;> first | rfl | exact absurd ⟨_, rfl⟩ hpost
  executed v i e r row s h hv hacts hpast hissue hallowed hx := by
    have hc := hcustody.executed v i e r row s h hv.custody hacts hpast hissue hallowed hx
    have hnone : ∀ ph, phase (past i v.log) = ph → (∀ receipt, ¬ph.Keeping i receipt v.row v.log) →
        ∀ now message receipt,
          .executed i now (.postNotification message) (.ok receipt) ∉ v.log := by
      intro ph hphase hfalse now message receipt hmem
      have hkeeping := hv.keeping i now message receipt hmem
      rw [hphase] at hkeeping
      exact hfalse receipt hkeeping
    cases hx with
    | created request id habsent =>
      have hfresh : phase (past i v.log) = .fresh := by
        rw [hpast]
        exact hissue.1
      refine hv.stays (i := i) rfl hacts.unended hc (fun a ha => ?_) ?_
        (fun now message receipt hmem => ?_) (fun htold => .inl (htold.of_cons rfl (by simp)))
        (by simp)
      · rw [habsent] at ha
        cases ha
      · rw [past_executed]
        intro hstatus
        cases hstatus
      · rcases List.mem_cons.1 hmem with heq | hmem
        · cases heq
        · exact absurd hmem (hnone _ hfresh (fun _ hf => hf) now message receipt)
    | existing request a hrow =>
      have hfresh : phase (past i v.log) = .fresh := by
        rw [hpast]
        exact hissue.1
      refine hv.stays (i := i) rfl hacts.unended hc (fun b hb => ?_) ?_
        (fun now message receipt hmem => ?_) (fun htold => .inl (htold.of_cons rfl (by simp)))
        (by simp)
      · rw [hrow] at hb
        cases hb
        exact ⟨_, rfl, rfl, rfl⟩
      · rw [past_executed]
        exact fun hstatus => ⟨_, rfl, hstatus⟩
      · rcases List.mem_cons.1 hmem with heq | hmem
        · cases heq
        · exact absurd hmem (hnone _ hfresh (fun _ hf => hf) now message receipt)
    | transitioned request a hrow hid hstatus =>
      have hphase : phase (past i v.log) = phase h := by
        rw [hpast]
        rfl
      exact hv.commit hacts.unended hphase hissue.1 hrow hstatus
    | transitionFailed request x a hrow hid hconstraints hreason =>
      have hphase : phase (past i v.log) = phase h := by
        rw [hpast]
        rfl
      exact hv.fail hacts.unended hphase hissue.1 hrow hc (hconstraints hvalid) (hreason hvalid)
    | delayed id a hrow =>
      obtain ⟨reservation, hreserved, -, -⟩ := hissue
      have hphase : phase (past i v.log) = .reserved reservation := by
        rw [hpast]
        exact hreserved
      refine hv.stays (i := i) rfl hacts.unended hc (.rfl _) ?_ (fun now message receipt hmem => ?_)
        (fun htold => .inl (htold.of_cons rfl (by simp))) (by simp)
      · rw [past_executed, phase, hphase]
        trivial
      · rcases List.mem_cons.1 hmem with heq | hmem
        · cases heq
        · exact absurd hmem (hnone _ hphase (fun _ hf => hf) now message receipt)
    | reserveFailed request x =>
      refine hv.stays_of_phase (i := i) rfl hacts.unended hc (.rfl _) ?_ (by simp)
        (fun htold => .inl (htold.of_cons rfl (by simp))) (by simp)
      rw [past_executed]
      rfl
    | revised | reviseFailed | recorded => exact hissue.elim
    | responded _ _ _ m he =>
      cases e with
      | verifySlackIdentity =>
        refine hv.stays_of_phase (i := i) rfl hacts.unended hc (.rfl _) ?_ (by simp)
          (fun htold => .inl (htold.of_cons rfl (by simp))) (by simp)
        rw [past_executed]
        rfl
      | postNotification message =>
        obtain ⟨a, harmed⟩ := hissue
        have hposting : phase (past i v.log) = .posting a := by
          rw [hpast, phase, harmed]
          rfl
        have hanswered : phase (past i (.executed i v.now (.postNotification message) r ::
            v.log)) = .answered a r := by
          rw [past_executed, phase, hposting]
          rfl
        have hsettling := Receipts.settling_mono
          (.executed i v.now (.postNotification message) r) (hv.settling i) (.rfl _)
        rw [hposting] at hsettling
        refine hv.stays (i := i) rfl hacts.unended hc (.rfl _) ?_
          (fun now message receipt hmem => ?_) (fun htold => .inl (htold.of_cons rfl (by simp)))
          (by simp)
        · rw [hanswered]
          exact hsettling
        · rcases List.mem_cons.1 hmem with heq | hmem
          · cases heq
            rw [hanswered]
            rfl
          · exact absurd hmem (hnone _ hposting (fun _ hf => hf) now message receipt)
      | reserveOrGet | transition | reconciliationDelaySeconds => cases he
      | record | revise | fetchRecords | verifyGitHubIdentity | fetchContext | getComment
      | findCommentsByMarker | createComment | updateComment | fetchIssue => exact hissue.elim
  ended v i r hv hacts hend := by
    have hphase : phase (past i (.ended i r :: v.log)) = phase (past i v.log) := by
      rw [past_ended]
      rfl
    refine hv.stays_of_phase (i := i) rfl hacts.unended (hcustody.ended v i r hv.custody hacts hend)
      (.rfl _) hphase (by simp) (fun htold => ?_) (fun r' heq a receipt hanswered => ?_)
    · rcases htold with ⟨k, now, request, row, hmem, hnew⟩ | ⟨k, result, hmem, hstate⟩
      · rcases List.mem_cons.1 hmem with heq | hmem
        · cases heq
        · exact .inl (.inl ⟨k, now, request, row, hmem, hnew⟩)
      · rcases List.mem_cons.1 hmem with heq | hmem
        · cases heq
          have hsettling := hv.settling i
          have hknows := hend.unknown result rfl hstate
          right
          revert hknows hsettling
          generalize phase (past i v.log) = ph
          intro hsettling hknows
          cases hknows with
          | reported reservation hstatus => exact hsettling hstatus
          | recorded request a hstatus => exact hsettling hstatus
        · exact .inl (.inr ⟨k, result, hmem, hstate⟩)
    · cases heq
      rw [hphase] at hanswered
      exact hend.receipt a receipt hanswered
  clock v now hv htick := ⟨hcustody.clock v now hv.custody htick, hv.settling, hv.keeping,
    hv.unknown, hv.ended⟩
  act v m s hv hact := ⟨hcustody.act v m s hv.custody hact, hv.settling, hv.keeping, hv.unknown,
    hv.ended⟩

namespace Sample

/-- Delivery `i` was handed a receipt. -/
def handed (i : ℕ) : Event SlackNotificationResult → Bool
  | .executed j _ (.postNotification _) (.ok _) => j == i
  | _ => false

/-- Delivery `i` has come to its end, and not by losing its ownership. -/
def endedOwned (i : ℕ) : Event SlackNotificationResult → Bool
  | .ended j r => j == i && decide (r ≠ .error .ownershipLostError)
  | _ => false

/-- The event is not a transition of delivery `i` that failed for its fence. -/
def fenceConfirmed (i : ℕ) : Event SlackNotificationResult → Bool
  | .executed j _ (.transition _) (.error x) => j != i || decide (x ≠ fenceNotConfirmed)
  | _ => true

/-- Delivery `i` was handed a receipt and came to its end under its fence. -/
def receiptUnderFence (i : ℕ) (log : Log) : Bool :=
  log.any (handed i) && log.any (endedOwned i) && log.all (fenceConfirmed i)

omit [Runtime] in
lemma receiptUnderFence_spec {i : ℕ} {log : Log} (h : receiptUnderFence i log = true) :
    (∃ t message receipt, .executed i t (.postNotification message) (.ok receipt) ∈ log) ∧
    (∃ result, .ended i result ∈ log ∧ result ≠ .error .ownershipLostError) ∧
    ∀ t request, .executed i t (.transition request) (.error fenceNotConfirmed) ∉ log := by
  simp only [receiptUnderFence, Bool.and_eq_true, List.any_eq_true, List.all_eq_true] at h
  obtain ⟨⟨⟨e₁, hmem₁, h₁⟩, e₂, hmem₂, h₂⟩, hall⟩ := h
  refine ⟨?_, ?_, fun t request hmem => ?_⟩
  · unfold handed at h₁
    split at h₁
    · rw [beq_iff_eq] at h₁
      subst h₁
      exact ⟨_, _, _, hmem₁⟩
    · cases h₁
  · unfold endedOwned at h₂
    split at h₂
    · rw [Bool.and_eq_true, beq_iff_eq, decide_eq_true_eq] at h₂
      obtain ⟨rfl, hne⟩ := h₂
      exact ⟨_, hmem₂, hne⟩
    · cases h₂
  · have := hall _ hmem
    simp [fenceConfirmed] at this

/-- While delivery 1 waits for its receipt, delivery 2 meets its write and takes it for
unresolved; the receipt arrives after that. -/
def demotedMeanwhile : List SlackMove :=
  [.start 1, .resume 0] ++ commit 0 0 ++ answer 0 (.ok receipt) ++ commit 0 1 ++
    [.start 2, .resume 1] ++ commit 1 2 ++ commit 1 3 ++ answer 0 (.ok receipt) ++ commit 0 4

end Sample

end DeploymentLab
