import DeploymentLab.Proofs.SlackCustody

/-!
# Posts and the persisted retry delay

A delivery looks at the retry delay of the row only when its own reservation met a retryable
failure. While nobody else moves the row between its reservation and its write, that is enough:
no post is issued before a delay that was recorded earlier.
-/

namespace DeploymentLab

open Interaction SlackDeliveryService

variable {S M : Type}

namespace SlackLog

/-- The time before which a retryable failure, when recorded, allows no new attempt. -/
def retryTime : Event SlackNotificationResult → Option Timestamp
  | .executed _ _ (.transition _) (.ok a) =>
    if ExternalAction.status a = .retryableFailure then ExternalAction.reconcileNotBefore a
    else none
  | _ => none

def retryTimes (log : Log) : List Timestamp := log.filterMap retryTime

/-- The time of a call of `post_notification`. -/
def postTime : Event SlackNotificationResult → Option Timestamp
  | .issued _ now (.postNotification _) => some now
  | _ => none

/-- The event is a reservation by delivery `i`. -/
def reserves (i : ℕ) : Event SlackNotificationResult → Bool
  | .executed j _ (.reserveOrGet _) (.ok _) => j == i
  | _ => false

/-- Since delivery `i` reserved the action, another delivery has moved it. -/
def movedByOther (i : ℕ) : Log → Bool
  | [] => false
  | event :: log =>
    match event.commit with
    | some (j, _) => j != i || movedByOther i log
    | none => !reserves i event && movedByOther i log

/-- Every post is issued after the retry times recorded before it. -/
def Gated : Log → Prop
  | [] => True
  | event :: log => (∀ now ∈ postTime event, ∀ t ∈ retryTimes log, t ≤ now) ∧ Gated log

instance Gated.decidable : DecidablePred Gated
  | [] => inferInstanceAs (Decidable True)
  | event :: log =>
    have := Gated.decidable log
    inferInstanceAs (Decidable
      ((∀ now ∈ postTime event, ∀ t ∈ retryTimes log, t ≤ now) ∧ Gated log))

variable {i : ℕ} {log : Log} {event : Event SlackNotificationResult}

lemma gated_iff : Gated log ↔ ∀ newer older i now message,
    log = newer ++ .issued i now (.postNotification message) :: older →
    ∀ t ∈ retryTimes older, t ≤ now := by
  induction log with
  | nil => simp [Gated]
  | cons event log ih =>
    constructor
    · rintro ⟨hpost, hgated⟩ newer older i now message heq
      cases newer with
      | nil =>
        obtain ⟨rfl, rfl⟩ := List.cons.inj heq
        exact hpost now rfl
      | cons _ newer =>
        obtain ⟨-, rfl⟩ := List.cons.inj heq
        exact ih.1 hgated newer older i now message rfl
    · intro h
      refine ⟨fun now hnow => ?_, ih.2 fun newer older i now message heq => ?_⟩
      · unfold postTime at hnow
        split at hnow
        · cases hnow
          exact h [] log _ _ _ rfl
        · cases hnow
      · exact h (event :: newer) older i now message (by rw [heq, List.cons_append])

lemma retryTimes_cons (h : event.commit = none) : retryTimes (event :: log) = retryTimes log := by
  apply List.filterMap_cons_none
  unfold retryTime
  split
  · cases h
  · rfl

lemma movedByOther_cons (hcommit : event.commit = none) (hreserve : reserves i event = false) :
    movedByOther i (event :: log) = movedByOther i log := by
  simp [movedByOther, hcommit, hreserve]

end SlackLog

open SlackLog

/-- The retry time of the row, where it waits for one. -/
def pendingRetry : Option ExternalAction → Option Timestamp
  | some a => if a.status = .retryableFailure then a.reconcileNotBefore else none
  | none => none

/-- A delivery whose row another delivery has moved since its reservation does not start its
write before the retry time of the row, and does not record an earlier one. -/
def keepsRetryTime (i : ℕ) (e : Effect) (v : SlackView S) : Bool :=
  match e with
  | .transition request =>
    !movedByOther i v.log || (pendingRetry v.row).all fun t =>
      if request.transition = "slack_write_started" then decide (t ≤ v.now)
      else if request.transition = "slack_identity_retryable_failure" then
        request.notBeforeDelay.all fun delay => decide (t ≤ v.now + delay)
      else true
  | _ => true

/-- What the place of delivery `i` says about the row that it waits for. -/
def SlackPhase.Waiting (i : ℕ) (v : SlackView S) : SlackPhase → Prop
  | .reserved reservation => movedByOther i v.log = false →
      ∃ a, v.row = some a ∧ a.status = reservation.action.status
  | .delayed _ delay => movedByOther i v.log = false → delay ≤ 0 →
      ∀ t ∈ pendingRetry v.row, t ≤ v.now
  | .fresh | .armed _ | .posting _ | .answered _ _ | .settled _ _ => True

/-- The row is open only as a retryable failure that waits until `t` at least. -/
def Awaits (row : Option ExternalAction) (t : Timestamp) : Prop :=
  ∃ a, row = some a ∧ (a.status ∈ openStatuses → ∃ t' ∈ pendingRetry row, t ≤ t')

structure Delays (v : SlackView S) : Prop where
  custody : Custody v
  due : ∀ t ∈ retryTimes v.log, t ≤ v.now ∨ (holder v.log = none ∧ Awaits v.row t)
  waiting : ∀ i, (phase (past i v.log)).Waiting i v
  gated : Gated v.log

/-- The row that was there is there with its status, and waits as before. -/
def Alike (row row' : Option ExternalAction) : Prop :=
  (∀ a, row = some a → ∃ a', row' = some a' ∧ a'.status = a.status) ∧
    pendingRetry row' = pendingRetry row

lemma Alike.rfl (row : Option ExternalAction) : Alike row row :=
  ⟨fun a ha => ⟨a, ha, Eq.refl _⟩, Eq.refl _⟩

lemma Awaits.alike {row row' : Option ExternalAction} {t : Timestamp} (h : Awaits row t)
    (halike : Alike row row') : Awaits row' t := by
  obtain ⟨a, ha, hopen⟩ := h
  obtain ⟨a', ha', hstatus⟩ := halike.1 a ha
  refine ⟨a', ha', fun hopen' => ?_⟩
  rw [halike.2]
  rw [hstatus] at hopen'
  exact hopen hopen'

lemma pendingRetry_of_status {a : ExternalAction} (h : a.status ≠ .retryableFailure) :
    pendingRetry (some a) = none := if_neg h

namespace Delays

variable {i : ℕ} {v : SlackView S} {event : Event SlackNotificationResult} {ph : SlackPhase}
  {row : Option ExternalAction} {s : S}

lemma reserves_of_actor {k : ℕ} (h : event.actor ≠ k) : reserves k event = false := by
  unfold reserves
  split
  · exact beq_eq_false_iff_ne.2 h
  · rfl

/-- A step that commits no transition and posts nothing. -/
lemma quiet (h : Delays v) (hactor : event.actor = i)
    (hcustody : Custody ({ v with row := row, provider := s }.note event))
    (hcommit : event.commit = none) (hpost : postTime event = none) (halike : Alike v.row row)
    (hholder : holder (event :: v.log) = holder v.log)
    (hself : (phase (past i (event :: v.log))).Waiting i
      ({ v with row := row, provider := s }.note event)) :
    Delays ({ v with row := row, provider := s }.note event) := by
  refine ⟨hcustody, fun t ht => ?_, fun k => ?_, ?_, h.gated⟩
  · rw [ScopeView.note_log, retryTimes_cons hcommit] at ht
    rcases h.due t ht with hdue | ⟨hfree, hawaits⟩
    · exact .inl hdue
    · exact .inr ⟨hholder.trans hfree, hawaits.alike halike⟩
  · by_cases hk : k = i
    · subst hk
      exact hself
    · have hne : event.actor ≠ k := by
        rw [hactor]
        exact fun heq => hk heq.symm
      have hmoved : movedByOther k (event :: v.log) = movedByOther k v.log :=
        movedByOther_cons hcommit (reserves_of_actor hne)
      have hplace := h.waiting k
      rw [ScopeView.note_log, past_of_ne hne]
      revert hplace
      cases phase (past k v.log) with
      | fresh | armed | posting | answered | settled => exact id
      | reserved reservation =>
        intro hplace hmoved'
        obtain ⟨a, ha, hstatus⟩ := hplace (hmoved.symm.trans hmoved')
        obtain ⟨a', ha', hstatus'⟩ := halike.1 a ha
        exact ⟨a', ha', hstatus'.trans hstatus⟩
      | delayed reservation delay =>
        intro hplace hmoved' hdelay
        rw [ScopeView.note_row, halike.2]
        exact hplace (hmoved.symm.trans hmoved') hdelay
  · rw [hpost]
    simp

/-- The same, when the event neither moves its actor nor is a reservation. -/
lemma quiet_of_phase (h : Delays v) (hactor : event.actor = i)
    (hcustody : Custody ({ v with row := row, provider := s }.note event))
    (hcommit : event.commit = none) (hpost : postTime event = none) (halike : Alike v.row row)
    (hholder : holder (event :: v.log) = holder v.log) (hreserve : reserves i event = false)
    (hphase : phase (past i (event :: v.log)) = phase (past i v.log)) :
    Delays ({ v with row := row, provider := s }.note event) := by
  refine h.quiet hactor hcustody hcommit hpost halike hholder ?_
  have hmoved : movedByOther i (event :: v.log) = movedByOther i v.log :=
    movedByOther_cons hcommit hreserve
  have hplace := h.waiting i
  rw [hphase]
  revert hplace
  cases phase (past i v.log) with
  | fresh | armed | posting | answered | settled => exact id
  | reserved reservation =>
    intro hplace hmoved'
    obtain ⟨a, ha, hstatus⟩ := hplace (hmoved.symm.trans hmoved')
    obtain ⟨a', ha', hstatus'⟩ := halike.1 a ha
    exact ⟨a', ha', hstatus'.trans hstatus⟩
  | delayed reservation delay =>
    intro hplace hmoved' hdelay
    rw [ScopeView.note_row, halike.2]
    exact hplace (hmoved.symm.trans hmoved') hdelay

/-- The call of the holder, which has seen every recorded retry time pass. -/
lemma issue_post {a : ExternalAction} {message : SlackMessageRequest} (h : Delays v)
    (hphase : phase (past i v.log) = .armed a) :
    Delays ({ v with provider := s }.note (.issued i v.now (.postNotification message))) := by
  have harmed := h.custody.holding i
  rw [hphase] at harmed
  have hpassed : ∀ t ∈ retryTimes v.log, t ≤ v.now := by
    intro t ht
    rcases h.due t ht with hdue | ⟨hfree, -⟩
    · exact hdue
    · rw [harmed.1] at hfree
      cases hfree
  refine ⟨h.custody.issue_post hphase, fun t ht => .inl (hpassed t ht), fun k => ?_, ?_, h.gated⟩
  · by_cases hk : i = k
    · subst hk
      rw [ScopeView.note_log, past_issued, phase, hphase]
      trivial
    · have hmoved : movedByOther k (.issued i v.now (.postNotification message) :: v.log) =
          movedByOther k v.log := movedByOther_cons rfl rfl
      have hplace := h.waiting k
      rw [ScopeView.note_log, past_issued_of_ne hk]
      revert hplace
      cases phase (past k v.log) with
      | fresh | armed | posting | answered | settled => exact id
      | reserved reservation => exact fun hplace hmoved' => hplace (hmoved.symm.trans hmoved')
      | delayed reservation delay => exact fun hplace hmoved' => hplace (hmoved.symm.trans hmoved')
  · intro now hnow t ht
    cases hnow
    exact hpassed t ht

/-- A delivery that may start its write and whose row nobody has moved finds no retry time
ahead. -/
lemma passed_of_clear {a : ExternalAction} (hclear : Clear ph a) (hplace : ph.Waiting i v)
    (hmoved : movedByOther i v.log = false) : ∀ t ∈ pendingRetry v.row, t ≤ v.now := by
  cases hclear with
  | unstarted reservation hstatus =>
    obtain ⟨b, hb, hsame⟩ := hplace hmoved
    rw [hb, pendingRetry_of_status]
    · simp
    · rw [hsame]
      intro heq
      rw [heq] at hstatus
      simp at hstatus
  | due reservation delay hstatus hdelay => exact hplace hmoved hdelay

lemma knownUnsentDelay_nonneg (retryAfter : Option Duration) : 0 ≤ knownUnsentDelay retryAfter := by
  cases retryAfter with
  | none => simp [knownUnsentDelay, defaultRetryDelay]
  | some delay => simp [knownUnsentDelay]

/-- A transition that records a retryable failure leaves nobody with the right to post. -/
lemma holder_of_retry (h : Delays v) {request : TransitionRequest} {a a' : ExternalAction}
    (hphase : phase (past i v.log) = ph) (hrequest : Requests ph request) (hrow : v.row = some a)
    (hstatus : a.status ∈ request.expectedStatuses)
    (hnew : request.newStatus = .retryableFailure) :
    holder (.executed i v.now (.transition request) (.ok a') :: v.log) = none := by
  cases hrequest with
  | identityRetryable =>
    have hfree := h.custody.idle_of_row hrow (openStatuses_of_postable hstatus)
    simpa [holder, Event.commit, identityRetryableFailure] using hfree
  | unsent => simp [holder, Event.commit, retryableFailure]
  | demote | identityPermanent | mismatch | write | rejected | unknown | succeeded => cases hnew

/-- A row that waits goes on waiting, or its time has come. -/
lemma awaits_commit (h : Delays v) {request : TransitionRequest} {a : ExternalAction}
    (hphase : phase (past i v.log) = ph) (hrequest : Requests ph request)
    (hallowed : keepsRetryTime i (.transition request) v = true) (hrow : v.row = some a)
    (hstatus : a.status ∈ request.expectedStatuses) {t : Timestamp}
    (hfree : holder v.log = none) (hawaits : Awaits v.row t) :
    let a' := ExternalActionRepository.transitioned v.now request a
    t ≤ v.now ∨ (holder (.executed i v.now (.transition request) (.ok a') :: v.log) = none ∧
      Awaits (some a') t) := by
  intro a'
  have hplace := h.waiting i
  have hholding := h.custody.holding i
  rw [hphase] at hplace hholding
  obtain ⟨b, hb, hopen⟩ := hawaits
  obtain rfl : a = b := Option.some.inj (hrow.symm.trans hb)
  have hclosed : request.newStatus ∉ openStatuses →
      request.transition ≠ "slack_write_started" →
      request.transition ≠ "slack_retryable_failure" → t ≤ v.now ∨
      (holder (.executed i v.now (.transition request) (.ok a') :: v.log) = none ∧
        Awaits (some a') t) := by
    intro hnew hwrite hunsent
    refine .inr ⟨?_, a', rfl, fun hopen' => absurd hopen' hnew⟩
    simpa [holder, Event.commit, hwrite, hunsent] using hfree
  rw [keepsRetryTime, Bool.or_eq_true, Bool.not_eq_true'] at hallowed
  cases hrequest with
  | unsent | rejected | unknown | succeeded =>
    have hheld : holder v.log = some i := hholding.1
    rw [hheld] at hfree
    cases hfree
  | demote =>
    exact hclosed (by simp [previousWriteUnresolved, openStatuses])
      (by simp [previousWriteUnresolved]) (by simp [previousWriteUnresolved])
  | identityPermanent =>
    exact hclosed (by simp [identityPermanentFailure, openStatuses])
      (by simp [identityPermanentFailure]) (by simp [identityPermanentFailure])
  | mismatch =>
    exact hclosed (by simp [identityMismatch, openStatuses]) (by simp [identityMismatch])
      (by simp [identityMismatch])
  | write settings task hclear =>
    obtain ⟨t', ht', hle⟩ := hopen (openStatuses_of_postable hstatus)
    left
    apply hle.trans
    rcases hallowed with hmoved | hall
    · exact passed_of_clear hclear hplace hmoved t' ht'
    · rw [ht'] at hall
      simpa [writeStarted] using hall
  | identityRetryable task hclear errorCode retryAfter =>
    obtain ⟨t', ht', hle⟩ := hopen (openStatuses_of_postable hstatus)
    have hlater : t' ≤ v.now + knownUnsentDelay retryAfter := by
      rcases hallowed with hmoved | hall
      · have hpassed := passed_of_clear hclear hplace hmoved t' ht'
        exact Int.le_trans hpassed (Int.le_add_of_nonneg_right (knownUnsentDelay_nonneg retryAfter))
      · rw [ht'] at hall
        simpa [identityRetryableFailure] using hall
    refine .inr ⟨?_, a', rfl, fun _ => ⟨v.now + knownUnsentDelay retryAfter, rfl, ?_⟩⟩
    · simpa [holder, Event.commit, identityRetryableFailure] using hfree
    · exact hle.trans hlater

lemma commit (h : Delays v) {request : TransitionRequest} {a : ExternalAction}
    (hphase : phase (past i v.log) = ph) (hrequest : Requests ph request)
    (hallowed : keepsRetryTime i (.transition request) v = true) (hrow : v.row = some a)
    (hstatus : a.status ∈ request.expectedStatuses) :
    let a' := ExternalActionRepository.transitioned v.now request a
    Delays ({ v with row := some a', provider := s }.note
      (.executed i v.now (.transition request) (.ok a'))) := by
  intro a'
  have hcustody : Custody ({ v with row := some a', provider := s }.note
      (.executed i v.now (.transition request) (.ok a'))) :=
    h.custody.commit hphase hrequest hrow hstatus rfl
  have hretry : ∀ t, retryTime (.executed i v.now (.transition request) (.ok a')) = some t →
      holder (.executed i v.now (.transition request) (.ok a') :: v.log) = none ∧
        Awaits (some a') t := by
    intro t ht
    have hpending : pendingRetry (some a') = some t := ht
    refine ⟨?_, a', rfl, fun _ => ⟨t, hpending, le_rfl⟩⟩
    have hnew : request.newStatus = .retryableFailure := by
      by_contra hne
      rw [pendingRetry_of_status hne] at hpending
      cases hpending
    exact h.holder_of_retry hphase hrequest hrow hstatus hnew
  have hold : ∀ t, holder v.log = none → Awaits v.row t → t ≤ v.now ∨
      (holder (.executed i v.now (.transition request) (.ok a') :: v.log) = none ∧
        Awaits (some a') t) := by
    intro t hfree hawaits
    exact h.awaits_commit hphase hrequest hallowed hrow hstatus hfree hawaits
  refine ⟨hcustody, fun t ht => ?_, fun k => ?_, ?_, h.gated⟩
  · rw [ScopeView.note_log, retryTimes, List.filterMap_cons] at ht
    have hcase : retryTime (.executed i v.now (.transition request) (.ok a')) = some t ∨
        t ∈ retryTimes v.log := by
      split at ht
      · exact .inr ht
      · rename_i t' heq
        rcases List.mem_cons.1 ht with rfl | ht
        · exact .inl heq
        · exact .inr ht
    rcases hcase with hnew | ht
    · exact .inr (hretry t hnew)
    · rcases h.due t ht with hdue | ⟨hfree, hawaits⟩
      · exact .inl hdue
      · exact hold t hfree hawaits
  · by_cases hk : i = k
    · subst hk
      rw [ScopeView.note_log, past_executed]
      simp only [phase, SlackPhase.next]
      split <;> trivial
    · rw [ScopeView.note_log, past_executed_of_ne hk]
      have hmoved : movedByOther k (.executed i v.now (.transition request) (.ok a') :: v.log) =
          true := by simp [movedByOther, Event.commit, hk]
      cases phase (past k v.log) with
      | fresh | armed | posting | answered | settled => trivial
      | reserved reservation =>
        intro hunmoved
        rw [ScopeView.note_log, hmoved] at hunmoved
        cases hunmoved
      | delayed reservation delay =>
        intro hunmoved
        rw [ScopeView.note_log, hmoved] at hunmoved
        cases hunmoved
  · intro now hnow
    cases hnow

lemma initial {now : Timestamp} : Delays (⟨row, now, s, []⟩ : SlackView S) :=
  ⟨.initial, by simp [retryTimes], fun _ => trivial, trivial⟩

end Delays

section

variable [Runtime] {J : Type} {scope : String} {delivery : J → Delivery scope}
  {providers : Provider S M} {valid : Prop}

lemma delays_invariant (hcustody : ScopeInvariant
    (deliveries delivery fun now later => decide (now ≤ later)) providers scope
    (deliveryScript scope) keepsRetryTime valid Custody) :
    ScopeInvariant (deliveries delivery fun now later => decide (now ≤ later)) providers scope
      (deliveryScript scope) keepsRetryTime valid Delays where
  started v i hv hempty := by
    refine hv.quiet_of_phase (i := i) rfl (hcustody.started v i hv.custody hempty) rfl rfl
      (.rfl _) rfl rfl ?_
    rw [past_started]
  issued v i e s hv hacts hissue hissues := by
    by_cases hpost : ∃ message, e = .postNotification message
    · obtain ⟨message, rfl⟩ := hpost
      obtain ⟨a, hphase⟩ := hissue
      exact hv.issue_post hphase
    · have hpostTime : postTime (.issued i v.now e) = none := by
        unfold postTime
        split
        · rename_i heq
          cases heq
          exact absurd ⟨_, rfl⟩ hpost
        · rfl
      refine hv.quiet_of_phase (i := i) rfl
        (hcustody.issued v i e s hv.custody hacts hissue hissues) rfl hpostTime (.rfl _)
        rfl rfl ?_
      rw [past_issued, phase]
      cases e <;> first | rfl | exact absurd ⟨_, rfl⟩ hpost
  executed v i e r row s h hv hacts hpast hissue hallowed hx := by
    have hkept := hcustody.executed v i e r row s h hv.custody hacts hpast hissue
      hallowed hx
    cases hx with
    | created request id habsent =>
      refine hv.quiet (i := i) rfl hkept rfl rfl ⟨fun a ha => ?_, ?_⟩ rfl ?_
      · rw [habsent] at ha
        cases ha
      · rw [habsent]
        rfl
      · rw [past_executed]
        exact fun _ => ⟨_, rfl, rfl⟩
    | existing request a hrow =>
      refine hv.quiet (i := i) rfl hkept rfl rfl ⟨fun b hb => ?_, ?_⟩ rfl ?_
      · rw [hrow] at hb
        cases hb
        exact ⟨_, rfl, rfl⟩
      · rw [hrow]
        rfl
      · rw [past_executed]
        exact fun _ => ⟨_, rfl, rfl⟩
    | transitioned request a hrow hid hstatus =>
      have hphase : phase (past i v.log) = phase h := by
        rw [hpast]
        rfl
      exact hv.commit hphase hissue.1 hallowed hrow hstatus
    | delayed id a hrow hid =>
      obtain ⟨reservation, hreserved, -, -⟩ := hissue
      have hphase : phase (past i v.log) = .reserved reservation := by
        rw [hpast]
        exact hreserved
      refine hv.quiet (i := i) rfl hkept rfl rfl (.rfl _) rfl ?_
      rw [past_executed, phase, hphase]
      intro _ hdelay t ht
      have hnotBefore : a.reconcileNotBefore = some t := by
        rw [ScopeView.note_row, hrow] at ht
        unfold pendingRetry at ht
        dsimp only at ht
        split at ht
        · exact ht
        · cases ht
      rw [ExternalAction.delay, hnotBefore] at hdelay
      exact Int.le_of_sub_nonpos ((le_max_right 0 (t - v.now)).trans hdelay)
    | transitionFailed request x =>
      refine hv.quiet (i := i) rfl hkept rfl rfl (.rfl _) rfl ?_
      rw [past_executed]
      trivial
    | reserveFailed request x =>
      refine hv.quiet_of_phase (i := i) rfl hkept rfl rfl (.rfl _) rfl rfl ?_
      rw [past_executed]
      rfl
    | revised | reviseFailed | recorded => exact hissue.elim
    | responded _ _ _ m he =>
      cases e with
      | verifySlackIdentity =>
        refine hv.quiet_of_phase (i := i) rfl hkept rfl rfl (.rfl _) rfl rfl ?_
        rw [past_executed]
        rfl
      | postNotification message =>
        obtain ⟨a, harmed⟩ := hissue
        have hposting : phase (past i v.log) = .posting a := by
          rw [hpast, phase, harmed]
          rfl
        refine hv.quiet (i := i) rfl hkept rfl rfl (.rfl _) rfl ?_
        rw [past_executed, phase, hposting]
        trivial
      | reserveOrGet | transition | reconciliationDelaySeconds => cases he
      | record | revise | fetchRecords | verifyGitHubIdentity | fetchContext | getComment
      | findCommentsByMarker | createComment | updateComment | fetchIssue => exact hissue.elim
  ended v i r hv hacts hend := by
    refine hv.quiet_of_phase (i := i) rfl (hcustody.ended v i r hv.custody hacts hend) rfl
      rfl (.rfl _) rfl rfl ?_
    rw [past_ended]
    rfl
  clock v now hv htick := by
    have hlater : v.now ≤ now := of_decide_eq_true htick
    refine ⟨hcustody.clock v now hv.custody htick,
      fun t ht => ?_, fun i => ?_, hv.gated⟩
    · exact (hv.due t ht).imp_left fun hdue => hdue.trans hlater
    · have hplace := hv.waiting i
      revert hplace
      change (phase (past i v.log)).Waiting i v →
        (phase (past i v.log)).Waiting i { v with now := now }
      cases phase (past i v.log) with
      | fresh | armed | posting | answered | settled => exact id
      | reserved reservation => exact id
      | delayed reservation delay =>
        exact fun hplace hmoved hdelay t ht => (hplace hmoved hdelay t ht).trans hlater
  act v m s hv hact := ⟨hcustody.act v m s hv.custody hact, hv.due, hv.waiting, hv.gated⟩

/-- Where no delivery starts a write over a row that another has moved before its retry time, no
post is issued before a retry time that was recorded earlier. -/
theorem posts_gated (delivery : J → Delivery scope) (providers : Provider S M) {db : Database}
    {now : Timestamp} {s : S} {moves : List (Move J (Choice M))}
    {c : Config handlerSignature SlackNotificationResult (World S SlackNotificationResult)}
    (hrun : (scopeMachine (deliveries delivery fun now later => decide (now ≤ later)) providers
      scope keepsRetryTime).run (Config.init (World.initial db now s)) moves = some c) :
    ∀ newer older i t message,
      c.world.log = newer ++ .issued i t (.postNotification message) :: older →
      ∀ notBefore ∈ retryTimes older, notBefore ≤ t := by
  have hdelays : Delays (c.world.view scope) :=
    slack_run (delays_invariant custody_invariant) .initial hrun
  exact gated_iff.1 hdelays.gated

end

namespace Sample

/-- Two deliveries reserve; the first is refused by a rate limit, and the second, which met the
row `RESERVED`, posts at once. -/
def postedEarly : List SlackMove :=
  [.start 1, .resume 0] ++ commit 0 0 ++ [.start 2, .resume 1] ++ commit 1 1 ++
    answer 0 (.ok receipt) ++ commit 0 2 ++
    answer 0 (.error (.slackRetryableFailure "slack_rate_limited" none)) ++ commit 0 3 ++
    answer 1 (.ok receipt) ++ commit 1 4

attribute [local instance] slackHost

/-- The same machine, where no delivery starts its write before a retry time it has not seen. -/
def runGated (moves : List SlackMove) : Option SlackConfig :=
  (scopeMachine (deliveries delivery fun now later => decide (now ≤ later)) anyProvider
    slackScope keepsRetryTime).run (Config.init (World.initial database 0 ())) moves

lemma runGated_eq (moves : List SlackMove) : runGated moves =
    (scopeMachine { job := preparedDelivery, tick := fun now later => decide (now ≤ later) }
      anyProvider slackScope keepsRetryTime).run (Config.init (World.initial database 0 ()))
      moves := by
  have h : (fun n => (delivery n).run) = preparedDelivery := funext run_delivery
  simp only [runGated, deliveries, h]

end Sample

open Sample in
set_option maxRecDepth 100000 in
/-- A delivery that reserved before a rate limit was recorded posts before its retry time. -/
theorem posts_not_gated_postedEarly : ∃ c, runSlack postedEarly = some c ∧
    ¬∀ newer older i t message,
      c.world.log = newer ++ .issued i t (.postNotification message) :: older →
      ∀ notBefore ∈ retryTimes older, notBefore ≤ t := by
  have hrun : (runSlack postedEarly).any (fun c => decide ¬Gated c.world.log) = true := by
    rw [runSlack_eq]
    decide +kernel
  obtain ⟨c, hc, hearly⟩ := (Option.any_eq_true _ _).1 hrun
  refine ⟨c, hc, fun hgated => ?_⟩
  exact of_decide_eq_true hearly (gated_iff.2 hgated)

open Sample in
set_option maxRecDepth 100000 in
theorem posts_gated_refusedThenSent : ∃ c, runGated refusedThenSent = some c ∧
    ∀ newer older i t message,
      c.world.log = newer ++ .issued i t (.postNotification message) :: older →
      ∀ notBefore ∈ retryTimes older, notBefore ≤ t := by
  have hrun : (runGated refusedThenSent).isSome = true := by
    rw [runGated_eq]
    decide +kernel
  obtain ⟨c, hc⟩ := Option.isSome_iff_exists.1 hrun
  let _ := slackHost
  exact ⟨c, hc, posts_gated delivery anyProvider hc⟩

end DeploymentLab
