import DeploymentLab.Proofs.SlackScript

/-!
# Who holds the right to post

The delivery that commits `slack_write_started` holds the one right to post of its scope. It
gives the right back only by recording that its own post was not sent, so whoever posts later
finds every earlier post known unsent.
-/

namespace DeploymentLab

open Interaction SlackDeliveryService

variable {S M : Type}

namespace SlackLog

abbrev Log := List (Event SlackNotificationResult)

/-- Delivery `i` has called `post_notification`. -/
def Posted (i : ℕ) (log : Log) : Prop :=
  ∃ now request, .issued i now (.postNotification request) ∈ log

/-- The call of delivery `i` raised `SlackRetryableFailure`, and that was recorded. -/
def KnownUnsent (i : ℕ) (log : Log) : Prop :=
  (∃ now request errorCode retryAfter, .executed i now (.postNotification request)
    (.error (.slackRetryableFailure errorCode retryAfter)) ∈ log) ∧
  ∃ now request row, .executed i now (.transition request) (.ok row) ∈ log ∧
    request.transition = "slack_retryable_failure"

/-- The delivery that holds the right to post. -/
def holder : Log → Option ℕ
  | [] => none
  | event :: log =>
    match event.commit with
    | some (i, request) =>
      if request.transition = "slack_write_started" then some i
      else if request.transition = "slack_retryable_failure" then none
      else holder log
    | none => holder log

/-- At every call of `post_notification`, the earlier ones were by other deliveries and known
to be unsent. -/
def Exclusive : Log → Prop
  | [] => True
  | event :: log => Exclusive log ∧
    ∀ i now request, event = .issued i now (.postNotification request) →
      ¬Posted i log ∧ ∀ j, Posted j log → KnownUnsent j log

variable {i j : ℕ} {log : Log} {event : Event SlackNotificationResult}

lemma holder_cons (h : event.commit = none) : holder (event :: log) = holder log := by
  simp [holder, h]

lemma Posted.mono (h : Posted j log) : Posted j (event :: log) := by
  obtain ⟨now, request, h⟩ := h
  exact ⟨now, request, List.mem_cons_of_mem _ h⟩

lemma KnownUnsent.mono (h : KnownUnsent j log) : KnownUnsent j (event :: log) := by
  obtain ⟨⟨now, request, errorCode, retryAfter, h⟩, now', request', row, h', hname⟩ := h
  exact ⟨⟨now, request, errorCode, retryAfter, List.mem_cons_of_mem _ h⟩,
    now', request', row, List.mem_cons_of_mem _ h', hname⟩

lemma Posted.of_cons (h : Posted j (event :: log))
    (hne : ∀ now request, event ≠ .issued j now (.postNotification request)) : Posted j log := by
  obtain ⟨now, request, h⟩ := h
  rcases List.mem_cons.1 h with rfl | h
  · exact absurd rfl (hne now request)
  · exact ⟨now, request, h⟩

lemma Exclusive.of_append {newer older : Log} {now : Timestamp} {message : SlackMessageRequest}
    (h : Exclusive (newer ++ .issued i now (.postNotification message) :: older)) :
    ¬Posted i older ∧ ∀ j, Posted j older → KnownUnsent j older := by
  induction newer with
  | nil => exact h.2 i now message rfl
  | cons event newer ih => exact ih h.1

end SlackLog

open SlackLog

/-- The statuses from which no post is under way. -/
def openStatuses : List ExternalActionStatus :=
  [.reserved, .reconciling, .readyToExecute, .retryableFailure]

lemma openStatuses_of_postable {status : ExternalActionStatus} (h : status ∈ postable) :
    status ∈ openStatuses := by
  revert h
  simp only [postable, openStatuses, List.mem_cons, List.not_mem_nil]
  tauto

/-- What the place of delivery `i` says about the right to post. -/
def SlackPhase.Holding (i : ℕ) (log : Log) : SlackPhase → Prop
  | .fresh | .reserved _ | .delayed _ _ => ¬Posted i log
  | .armed _ => holder log = some i ∧ ¬Posted i log
  | .posting _ => holder log = some i
  | .answered _ outcome => holder log = some i ∧
      ∃ now message, .executed i now (.postNotification message) outcome ∈ log
  | .settled _ _ => True

structure Custody (v : SlackView S) : Prop where
  unsent : ∀ j, Posted j v.log → holder v.log ≠ some j → KnownUnsent j v.log
  idle : (∀ a, v.row = some a → a.status ∈ openStatuses) → holder v.log = none
  exclusive : Exclusive v.log
  holding : ∀ i, (phase (past i v.log)).Holding i v.log

namespace Custody

variable {i : ℕ} {v : SlackView S} {event : Event SlackNotificationResult} {ph : SlackPhase}
  {row : Option ExternalAction} {s : S}

lemma holding_mono {k : ℕ} {log : Log} (h : ph.Holding k log)
    (hholder : holder log = some k → holder (event :: log) = some k)
    (hpost : ∀ now message, event ≠ .issued k now (.postNotification message)) :
    ph.Holding k (event :: log) := by
  have hposted : ¬Posted k log → ¬Posted k (event :: log) := by
    intro hnot hp
    exact hnot (hp.of_cons hpost)
  cases ph with
  | fresh => exact hposted h
  | reserved => exact hposted h
  | delayed => exact hposted h
  | armed => exact ⟨hholder h.1, hposted h.2⟩
  | posting => exact hholder h
  | answered a outcome =>
    obtain ⟨hheld, now, message, hmem⟩ := h
    exact ⟨hholder hheld, now, message, List.mem_cons_of_mem _ hmem⟩
  | settled => trivial

/-- A delivery that has not called `post_notification` by its place. -/
lemma not_posted_of_clear {a : ExternalAction} {log : Log} (hclear : Clear ph a)
    (h : ph.Holding i log) : ¬Posted i log := by
  cases hclear <;> exact h

/-- Nobody holds the right to post when the row is open. -/
lemma idle_of_row (h : Custody v) {a : ExternalAction} (hrow : v.row = some a)
    (hopen : a.status ∈ openStatuses) : holder v.log = none := by
  apply h.idle
  intro b hb
  rw [hrow] at hb
  cases hb
  exact hopen

/-- The others keep their places when an event of `i` takes nobody's right. -/
lemma holding_of_step (h : Custody v) (hactor : event.actor = i)
    (hholder : ∀ k, k ≠ i → holder v.log = some k → holder (event :: v.log) = some k)
    (hself : (phase (past i (event :: v.log))).Holding i (event :: v.log)) (k : ℕ) :
    (phase (past k (event :: v.log))).Holding k (event :: v.log) := by
  by_cases hk : k = i
  · subst hk
    exact hself
  · rw [past_of_ne (by rw [hactor]; exact fun heq => hk heq.symm)]
    refine holding_mono (h.holding k) (hholder k hk) ?_
    rintro now message rfl
    exact hk hactor

/-- A step that neither posts nor moves the right to post. -/
lemma quiet (h : Custody v) (hactor : event.actor = i)
    (hholder : holder (event :: v.log) = holder v.log)
    (hpost : ∀ j now message, event ≠ .issued j now (.postNotification message))
    (hrow : (∀ a, row = some a → a.status ∈ openStatuses) →
      ∀ a, v.row = some a → a.status ∈ openStatuses)
    (hself : (phase (past i (event :: v.log))).Holding i (event :: v.log)) :
    Custody ({ v with row := row, provider := s }.note event) where
  unsent j hj hne := by
    rw [ScopeView.note_log, hholder] at hne
    exact (h.unsent j (hj.of_cons (hpost j)) hne).mono
  idle hopen := hholder.trans (h.idle (hrow hopen))
  exclusive := ⟨h.exclusive, fun j now message heq => absurd heq (hpost j now message)⟩
  holding := h.holding_of_step hactor (fun k _ hk => hholder.trans hk) hself

/-- The same, when the event does not change the place of its actor either. -/
lemma quiet_of_phase (h : Custody v) (hactor : event.actor = i)
    (hholder : holder (event :: v.log) = holder v.log)
    (hpost : ∀ j now message, event ≠ .issued j now (.postNotification message))
    (hrow : (∀ a, row = some a → a.status ∈ openStatuses) →
      ∀ a, v.row = some a → a.status ∈ openStatuses)
    (hphase : phase (past i (event :: v.log)) = phase (past i v.log)) :
    Custody ({ v with row := row, provider := s }.note event) := by
  refine h.quiet hactor hholder hpost hrow ?_
  rw [hphase]
  exact holding_mono (h.holding i) (fun hk => hholder.trans hk) (hpost i)

/-- The call of the holder itself, which has not called before. -/
lemma issue_post {a : ExternalAction} {message : SlackMessageRequest} (h : Custody v)
    (hphase : phase (past i v.log) = .armed a) :
    Custody ({ v with provider := s }.note (.issued i v.now (.postNotification message))) := by
  have harmed := h.holding i
  rw [hphase] at harmed
  obtain ⟨hheld, hfirst⟩ := harmed
  have hsame : holder (.issued i v.now (.postNotification message) :: v.log) = holder v.log :=
    holder_cons rfl
  have hearlier : ∀ j, Posted j v.log → KnownUnsent j v.log := by
    intro j hj
    apply h.unsent j hj
    rw [hheld]
    rintro heq
    cases heq
    exact hfirst hj
  refine ⟨fun j hj hne => ?_, fun hopen => hsame.trans (h.idle hopen), ⟨h.exclusive, ?_⟩, ?_⟩
  · have hji : j ≠ i := by
      rintro rfl
      exact hne (hsame.trans hheld)
    refine (hearlier j (hj.of_cons fun now request heq => hji ?_)).mono
    cases heq
    rfl
  · rintro j now request heq
    cases heq
    exact ⟨hfirst, hearlier⟩
  · refine h.holding_of_step (i := i) rfl (fun k _ hk => hsame.trans hk) ?_
    have hnext : phase (past i (.issued i v.now (.postNotification message) :: v.log)) =
        .posting a := by
      rw [past_issued, phase, hphase]
      rfl
    rw [hnext]
    exact hsame.trans hheld

/-- A committed transition, by what it does to the right to post. -/
lemma commit (h : Custody v) {request : TransitionRequest} {a a' : ExternalAction}
    (hphase : phase (past i v.log) = ph) (hrequest : Requests ph request) (hrow : v.row = some a)
    (hstatus : a.status ∈ request.expectedStatuses) (hnew : a'.status = request.newStatus) :
    Custody ({ v with row := some a', provider := s }.note
      (.executed i v.now (.transition request) (.ok a'))) := by
  have hplace := h.holding i
  rw [hphase] at hplace
  have hsettled : request.transition ≠ "slack_write_started" →
      (phase (past i (.executed i v.now (.transition request) (.ok a') :: v.log))).Holding i
        (.executed i v.now (.transition request) (.ok a') :: v.log) := by
    intro hname
    rw [past_executed]
    simp only [phase, SlackPhase.next, if_neg hname]
    trivial
  have hquiet : request.transition ≠ "slack_write_started" →
      request.transition ≠ "slack_retryable_failure" →
      (request.newStatus ∈ openStatuses → a.status ∈ openStatuses) →
      Custody ({ v with row := some a', provider := s }.note
        (.executed i v.now (.transition request) (.ok a'))) := by
    intro hwrite hunsent hopen
    refine h.quiet rfl ?_ (by simp) ?_ (hsettled hwrite)
    · simp [holder, Event.commit, hwrite, hunsent]
    · intro hall b hb
      rw [hrow] at hb
      cases hb
      apply hopen
      rw [← hnew]
      exact hall a' rfl
  have hpostable : request.expectedStatuses = postable → a.status ∈ openStatuses := by
    intro heq
    rw [heq] at hstatus
    exact openStatuses_of_postable hstatus
  cases hrequest with
  | demote =>
    exact hquiet (by simp [previousWriteUnresolved]) (by simp [previousWriteUnresolved])
      (by simp [previousWriteUnresolved, openStatuses])
  | identityRetryable =>
    exact hquiet (by simp [identityRetryableFailure])
      (by simp [identityRetryableFailure]) fun _ => hpostable rfl
  | identityPermanent =>
    exact hquiet (by simp [identityPermanentFailure])
      (by simp [identityPermanentFailure]) fun _ => hpostable rfl
  | mismatch =>
    exact hquiet (by simp [identityMismatch]) (by simp [identityMismatch])
      fun _ => hpostable rfl
  | rejected =>
    exact hquiet (by simp [permanentFailure]) (by simp [permanentFailure])
      (by simp [permanentFailure, openStatuses])
  | unknown =>
    exact hquiet (by simp [outcomeUnknown]) (by simp [outcomeUnknown])
      (by simp [outcomeUnknown, openStatuses])
  | succeeded =>
    exact hquiet (by simp [writeSucceeded]) (by simp [writeSucceeded])
      (by simp [writeSucceeded, openStatuses])
  | @write settings task ph b hclear =>
    have hfree := h.idle_of_row hrow (hpostable rfl)
    have hheld : holder (.executed i v.now (.transition (writeStarted settings task b))
        (.ok a') :: v.log) = some i := by
      simp [holder, Event.commit, writeStarted]
    refine ⟨fun j hj _ => ?_, fun hall => ?_, ⟨h.exclusive, by simp⟩, ?_⟩
    · exact (h.unsent j (hj.of_cons (by simp)) (by simp [hfree])).mono
    · have := hall a' rfl
      rw [hnew] at this
      simp [writeStarted, openStatuses] at this
    · refine h.holding_of_step (i := i) rfl (fun k _ hk => ?_) ?_
      · rw [hfree] at hk
        cases hk
      · have hfirst : ¬Posted i v.log := not_posted_of_clear hclear hplace
        rw [past_executed]
        exact ⟨hheld, fun hp => hfirst (hp.of_cons (by simp))⟩
  | unsent task b errorCode retryAfter =>
    obtain ⟨hheld, now, message, hmem⟩ := hplace
    have hfree : holder (.executed i v.now
        (.transition (retryableFailure task b errorCode retryAfter)) (.ok a') :: v.log) = none := by
      simp [holder, Event.commit, retryableFailure]
    refine ⟨fun j hj _ => ?_, fun _ => hfree, ⟨h.exclusive, by simp⟩, ?_⟩
    · by_cases hji : j = i
      · subst hji
        exact ⟨⟨now, message, errorCode, retryAfter, List.mem_cons_of_mem _ hmem⟩,
          v.now, _, a', List.mem_cons_self, rfl⟩
      · refine (h.unsent j (hj.of_cons (by simp)) ?_).mono
        rw [hheld]
        exact fun heq => hji (Option.some.inj heq).symm
    · refine h.holding_of_step (i := i) rfl (fun k hk hk' => ?_)
        (hsettled (by simp [retryableFailure]))
      rw [hheld] at hk'
      exact absurd (Option.some.inj hk').symm hk

lemma initial {now : Timestamp} : Custody (⟨row, now, s, []⟩ : SlackView S) := by
  refine ⟨fun j hj _ => ?_, fun _ => rfl, trivial, fun i hp => ?_⟩
  · obtain ⟨now, message, hmem⟩ := hj
    cases hmem
  · obtain ⟨now, message, hmem⟩ := hp
    cases hmem

end Custody

variable [Runtime] {J : Type} {scope : String} {delivery : J → Delivery scope}
  {tick : Timestamp → Timestamp → Bool} {providers : Provider S M}
  {allowed : ℕ → Effect → SlackView S → Bool} {valid : Prop}

lemma custody_invariant : ScopeInvariant (deliveries delivery tick) providers scope
    (deliveryScript scope) allowed valid Custody where
  started v i hv _ := by
    refine hv.quiet_of_phase (i := i) rfl rfl (by simp) (fun h => h) ?_
    rw [past_started]
  issued v i e s hv _ hissue _ := by
    by_cases hpost : ∃ message, e = .postNotification message
    · obtain ⟨message, rfl⟩ := hpost
      obtain ⟨a, hphase⟩ := hissue
      exact hv.issue_post hphase
    · refine hv.quiet_of_phase (i := i) rfl rfl ?_ (fun h => h) ?_
      · rintro j now message heq
        cases heq
        exact hpost ⟨message, rfl⟩
      · rw [past_issued, phase]
        cases e <;> first | rfl | exact absurd ⟨_, rfl⟩ hpost
  executed v i e r row s h hv _ hpast hissue _ hx := by
    have hplace := hv.holding i
    have hphase : ∀ request, e = .reserveOrGet request → phase (past i v.log) = .fresh := by
      rintro request rfl
      rw [hpast]
      exact hissue.1
    cases hx with
    | created request id habsent =>
      rw [hphase request rfl] at hplace
      refine hv.quiet (i := i) rfl rfl (by simp) (fun _ b hb => ?_) ?_
      · rw [habsent] at hb
        cases hb
      · rw [past_executed]
        exact fun hp => hplace (hp.of_cons (by simp))
    | existing request a hrow =>
      rw [hphase request rfl] at hplace
      refine hv.quiet (i := i) rfl rfl (by simp) (fun hall b hb => ?_) ?_
      · rw [hrow] at hb
        cases hb
        exact hall (ExternalActionRepository.touch request.fence v.now a) rfl
      · rw [past_executed]
        exact fun hp => hplace (hp.of_cons (by simp))
    | transitioned request a hrow hid hstatus =>
      have hphase : phase (past i v.log) = phase h := by
        rw [hpast]
        rfl
      exact hv.commit hphase hissue.1 hrow hstatus rfl
    | delayed id a hrow =>
      obtain ⟨reservation, hreserved, -, -⟩ := hissue
      have hphase : phase (past i v.log) = .reserved reservation := by
        rw [hpast]
        exact hreserved
      rw [hphase] at hplace
      refine hv.quiet (i := i) rfl rfl (by simp) (fun hall => hall) ?_
      rw [past_executed, phase, hphase]
      exact fun hp => hplace (hp.of_cons (by simp))
    | transitionFailed request x =>
      refine hv.quiet (i := i) rfl rfl (by simp) (fun hall => hall) ?_
      rw [past_executed]
      trivial
    | reserveFailed request x =>
      refine hv.quiet_of_phase (i := i) rfl rfl (by simp) (fun hall => hall) ?_
      rw [past_executed]
      rfl
    | revised | reviseFailed | recorded => exact hissue.elim
    | responded _ _ _ m he =>
      cases e with
      | verifySlackIdentity =>
        refine hv.quiet_of_phase (i := i) rfl rfl (by simp) (fun hall => hall) ?_
        rw [past_executed]
        rfl
      | postNotification message =>
        obtain ⟨a, harmed⟩ := hissue
        have hposting : phase (past i v.log) = .posting a := by
          rw [hpast, phase, harmed]
          rfl
        rw [hposting] at hplace
        refine hv.quiet (i := i) rfl rfl (by simp) (fun hall => hall) ?_
        rw [past_executed, phase, hposting]
        exact ⟨hplace, v.now, message, List.mem_cons_self⟩
      | reserveOrGet | transition | reconciliationDelaySeconds => cases he
      | record | revise | fetchRecords | verifyGitHubIdentity | fetchContext | getComment
      | findCommentsByMarker | createComment | updateComment | fetchIssue => exact hissue.elim
  ended v i r hv _ _ := by
    refine hv.quiet_of_phase (i := i) rfl rfl (by simp) (fun h => h) ?_
    rw [past_ended]
    rfl
  clock v now hv _ := ⟨hv.unsent, hv.idle, hv.exclusive, hv.holding⟩
  act v m s hv _ := ⟨hv.unsent, hv.idle, hv.exclusive, hv.holding⟩

/-- Whenever a delivery calls `post_notification`, it calls for the first time and every earlier
call for the scope is known to be unsent; so at most one call is not known to be unsent. -/
theorem slack_never_resent (delivery : J → Delivery scope)
    (tick : Timestamp → Timestamp → Bool) (providers : Provider S M) {db : Database}
    {now : Timestamp} {s : S} {moves : List (Move J (Choice M))}
    {c : Config handlerSignature SlackNotificationResult (World S SlackNotificationResult)}
    (hrun : (machine (deliveries delivery tick) providers).run
      (Config.init (World.initial db now s)) moves = some c) :
    (∀ newer older i t message,
      c.world.log = newer ++ .issued i t (.postNotification message) :: older →
      ¬Posted i older ∧ ∀ j, Posted j older → KnownUnsent j older) ∧
    ∀ i j, Posted i c.world.log → ¬KnownUnsent i c.world.log → Posted j c.world.log →
      ¬KnownUnsent j c.world.log → i = j := by
  rw [← scopeMachine_true] at hrun
  have hcustody : Custody (c.world.view scope) :=
    slack_run custody_invariant .initial hrun
  constructor
  · intro newer older i t message hlog
    have hexclusive := hcustody.exclusive
    rw [show (c.world.view scope).log = _ from hlog] at hexclusive
    exact hexclusive.of_append
  · intro i j hi hi' hj hj'
    have holds : ∀ k, Posted k c.world.log → ¬KnownUnsent k c.world.log →
        holder c.world.log = some k := by
      intro k hk hk'
      by_contra hne
      exact hk' (hcustody.unsent k hk hne)
    exact Option.some.inj ((holds i hi hi').symm.trans (holds j hj hj'))

namespace Sample

/-- The first post is refused by a rate limit, and a second delivery posts after its delay. -/
def refusedThenSent : List SlackMove :=
  [.start 1, .resume 0] ++ commit 0 0 ++ answer 0 (.ok receipt) ++ commit 0 1 ++
    answer 0 (.error (.slackRetryableFailure "slack_rate_limited" none)) ++ commit 0 2 ++
    [.env (.clock 6000000), .start 2, .resume 1] ++ commit 1 3 ++ commit 1 4 ++
    answer 1 (.ok receipt) ++ commit 1 5 ++ answer 1 (.ok receipt) ++ commit 1 6

end Sample

omit [Runtime] in
open Sample in
set_option maxRecDepth 100000 in
theorem slack_never_resent_refusedThenSent : ∃ c, runSlack refusedThenSent = some c ∧
    (∀ newer older i t message,
      c.world.log = newer ++ .issued i t (.postNotification message) :: older →
      ¬Posted i older ∧ ∀ j, Posted j older → KnownUnsent j older) ∧
    ∀ i j, Posted i c.world.log → ¬KnownUnsent i c.world.log → Posted j c.world.log →
      ¬KnownUnsent j c.world.log → i = j := by
  have hrun : (runSlack refusedThenSent).isSome = true := by
    rw [runSlack_eq]
    decide +kernel
  obtain ⟨c, hc⟩ := Option.isSome_iff_exists.1 hrun
  let _ := slackHost
  exact ⟨c, hc, slack_never_resent delivery _ anyProvider hc⟩

end DeploymentLab
