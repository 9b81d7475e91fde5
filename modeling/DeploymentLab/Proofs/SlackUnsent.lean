import DeploymentLab.Proofs.SlackCustody
import DeploymentLab.Proofs.SlackSending

/-!
# Deliveries that end without a post

A delivery that ends before it has announced its write leaves the row as it may be sent, and no
unknown outcome goes back to it. One that ends between the announcement and the call leaves the
row `EXECUTING`; the next delivery takes that for a write of unknown outcome, and nobody posts.
-/

namespace DeploymentLab

open Interaction SlackDeliveryService

variable {S M J : Type}

namespace SlackLog

/-- Delivery `i` has announced its write. -/
def Announced (i : ℕ) (log : Log) : Prop :=
  ∃ now request row, .executed i now (.transition request) (.ok row) ∈ log ∧
    request.transition = "slack_write_started"

/-- An outcome is recorded or reported as unknown. -/
def TellsUnknown : Event SlackNotificationResult → Prop
  | .executed _ _ (.transition request) (.ok _) => request.newStatus = .outcomeUnknown
  | .ended _ (.ok result) => result.state = .outcomeUnknown
  | _ => False

/-- The status of the row after a log, when it was `initial` before. -/
def statusAfter (initial : Option ExternalActionStatus) : Log → Option ExternalActionStatus
  | [] => initial
  | .executed _ _ (.reserveOrGet _) (.ok reservation) :: _ => some reservation.action.status
  | .executed _ _ (.transition _) (.ok a) :: _ => some a.status
  | _ :: log => statusAfter initial log

/-- What had happened when delivery `i` was started. -/
def before (i : ℕ) : Log → Log
  | [] => []
  | .started j _ :: log => if j = i then log else before i log
  | _ :: log => before i log

/-- `P` holds of every event and what was before it. -/
def Each (P : Event SlackNotificationResult → Log → Prop) : Log → Prop
  | [] => True
  | event :: log => P event log ∧ Each P log

variable {P : Event SlackNotificationResult → Log → Prop} {i j : ℕ} {log newer older : Log}
  {event : Event SlackNotificationResult} {initial : Option ExternalActionStatus}

lemma Each.of_append (h : Each P (newer ++ event :: older)) : P event older := by
  induction newer with
  | nil => exact h.1
  | cons newest newer ih => exact ih h.2

lemma Announced.mono (h : Announced i log) : Announced i (event :: log) := by
  obtain ⟨now, request, row, hmem, hname⟩ := h
  exact ⟨now, request, row, List.mem_cons_of_mem _ hmem, hname⟩

lemma Announced.of_cons (h : Announced i (event :: log))
    (hne : ∀ request, event.commit = some (i, request) →
      request.transition ≠ "slack_write_started") : Announced i log := by
  obtain ⟨now, request, row, hmem, hname⟩ := h
  rcases List.mem_cons.1 hmem with rfl | hmem
  · exact absurd hname (hne request rfl)
  · exact ⟨now, request, row, hmem, hname⟩

/-- Who holds the right to post has announced its write. -/
lemma announced_of_holder (h : holder log = some i) : Announced i log := by
  induction log with
  | nil => cases h
  | cons event log ih =>
    rw [holder] at h
    split at h
    · rename_i k request hcommit
      split at h
      · rename_i hname
        cases h
        unfold Event.commit at hcommit
        split at hcommit
        · cases hcommit
          exact ⟨_, _, _, List.mem_cons_self, hname⟩
        · cases hcommit
      · split at h
        · cases h
        · exact (ih h).mono
    · exact (ih h).mono

lemma not_announced_of_past (h : past i log = []) : ¬Announced i log := by
  rintro ⟨now, request, row, hmem, -⟩
  have hanswered : .answered (.transition request) (.ok row) ∈ past i log :=
    answered_mem_past.2 ⟨now, hmem⟩
  rw [h] at hanswered
  cases hanswered

lemma before_cons (h : ∀ now, event ≠ .started i now) : before i (event :: log) = before i log := by
  cases event with
  | started j now =>
    refine if_neg ?_
    rintro rfl
    exact h now rfl
  | issued | executed | ended => rfl

end SlackLog

open SlackLog

/-- The statuses of a write that may have been sent without its outcome being on record. -/
def unresolved : List ExternalActionStatus := [.executing, .outcomeUnknown]

/-- Delivery `i` has been told that its identity fails for good, or that it is not the one
expected, and has recorded it; the row has the status of that record. -/
inductive Disqualified (i : ℕ) (log : Log) : Option ExternalActionStatus → Prop
  | failed (told now : Timestamp) (code : String) (request : TransitionRequest)
    (row : ExternalAction)
    (htold : .executed i told .verifySlackIdentity (.error (.slackPermanentFailure code)) ∈ log)
    (hrecorded : .executed i now (.transition request) (.ok row) ∈ log)
    (hname : request.transition = "slack_identity_permanent_failure") :
    Disqualified i log (some .permanentFailure)
  | mismatched (told now : Timestamp) (request : TransitionRequest) (row : ExternalAction)
    (htold : .executed i told .verifySlackIdentity (.ok false) ∈ log)
    (hrecorded : .executed i now (.transition request) (.ok row) ∈ log)
    (hname : request.transition = "slack_identity_mismatch") :
    Disqualified i log (some .needsHumanReview)

lemma Disqualified.mono {i : ℕ} {log : Log} {event : Event SlackNotificationResult}
    {status : Option ExternalActionStatus} (h : Disqualified i log status) :
    Disqualified i (event :: log) status := by
  cases h with
  | failed told now code request row htold hrecorded hname =>
    exact .failed told now code request row (List.mem_cons_of_mem _ htold)
      (List.mem_cons_of_mem _ hrecorded) hname
  | mismatched told now request row htold hrecorded hname =>
    exact .mismatched told now request row (List.mem_cons_of_mem _ htold)
      (List.mem_cons_of_mem _ hrecorded) hname

/-- What a delivery that has not posted leaves behind. -/
structure LeftBehind (initial : Option ExternalActionStatus) (i : ℕ) (log : Log) : Prop where
  unannounced : ¬Announced i log →
    (StatusIn unresolved (statusAfter initial log) →
      StatusIn unresolved (statusAfter initial (before i log))) ∧
    (Sendable (statusAfter initial (before i log)) → Sendable (statusAfter initial log) ∨
      Disqualified i log (statusAfter initial log))
  announced : Announced i log → statusAfter initial log = some .executing

/-- What holds of an event after what was before it. -/
structure Answerable (initial : Option ExternalActionStatus) (event : Event SlackNotificationResult)
    (log : Log) : Prop where
  /-- An unknown outcome goes back to the delivery that has announced its write last. -/
  unknown : TellsUnknown event →
    (∃ k, holder log = some k ∧ Announced k log) ∨ StatusIn unresolved initial
  left : ∀ i r, event = .ended i r → ¬Posted i log → LeftBehind initial i log
  /-- After a delivery that has announced its write and not posted, nobody posts. -/
  silent : ∀ k now message, event = .issued k now (.postNotification message) →
    ∀ i r, .ended i r ∈ log → Announced i log → Posted i log

/-- Where delivery `i` is, the status that it was started in and the one that is now. -/
def SlackPhase.Leaves (i : ℕ) (log : Log) (first now : Option ExternalActionStatus) :
    SlackPhase → Prop
  | .fresh => now = first ∧ ¬Announced i log
  | .reserved reservation | .delayed reservation _ =>
    now = some reservation.action.status ∧ (now = first ∨ first = none ∧ now = some .reserved) ∧
      ¬Announced i log
  | .armed _ => now = some .executing ∧ Announced i log
  | .posting _ | .answered _ _ => now = some .executing ∧ Posted i log
  | .settled request outcome =>
    (∀ a, outcome = .ok a → now = some request.newStatus) ∧ (Posted i log ∨ ¬Announced i log ∧
      (now = first ∨ first = none ∧ now = some .reserved ∨
        Sendable first ∧ (now = some .retryableFailure ∨ Disqualified i log now) ∨
        first = some .executing ∧ now = some .outcomeUnknown))

lemma SlackPhase.Leaves.mono {i : ℕ} {log : Log} {first now : Option ExternalActionStatus}
    {ph : SlackPhase} {event : Event SlackNotificationResult} (h : ph.Leaves i log first now)
    (hcommit : event.commit = none) : ph.Leaves i (event :: log) first now := by
  have hnot : ¬Announced i log → ¬Announced i (event :: log) := by
    intro hnot hannounced
    refine hnot (hannounced.of_cons fun request heq => ?_)
    rw [hcommit] at heq
    cases heq
  cases ph with
  | fresh => exact ⟨h.1, hnot h.2⟩
  | reserved | delayed => exact ⟨h.1, h.2.1, hnot h.2.2⟩
  | armed => exact ⟨h.1, h.2.mono⟩
  | posting | answered => exact ⟨h.1, h.2.mono⟩
  | settled =>
    refine ⟨h.1, h.2.imp (fun hposted => hposted.mono) fun hleft => ⟨hnot hleft.1, ?_⟩⟩
    rcases hleft.2 with hmet | hmet | ⟨hfirst, hrefused⟩ | hdemoted
    · exact .inl hmet
    · exact .inr (.inl hmet)
    · exact .inr (.inr (.inl ⟨hfirst, hrefused.imp_right Disqualified.mono⟩))
    · exact .inr (.inr (.inr hdemoted))

structure Unsent (initial : Option ExternalActionStatus) (v : SlackView S) : Prop where
  custody : Custody v
  status : v.row.map (·.status) = statusAfter initial v.log
  owed : StatusIn unresolved (statusAfter initial v.log) →
    (∃ k, holder v.log = some k) ∨ StatusIn unresolved initial
  leaves : ∀ i, latest v.log = some i → (phase (past i v.log)).Leaves i v.log
    (statusAfter initial (before i v.log)) (statusAfter initial v.log)
  /-- A delivery that has announced its write and not posted keeps the right to post. -/
  held : ∀ i r, .ended i r ∈ v.log → Announced i v.log → ¬Posted i v.log →
    holder v.log = some i ∧ StatusIn unresolved (statusAfter initial v.log)
  each : Each (Answerable initial) v.log

namespace Unsent

variable {i : ℕ} {v : SlackView S} {event : Event SlackNotificationResult} {ph : SlackPhase}
  {row : Option ExternalAction} {s : S} {initial : Option ExternalActionStatus}

lemma not_tellsUnknown (hcommit : event.commit = none) (hended : ∀ k r, event ≠ .ended k r) :
    ¬TellsUnknown event := by
  intro htells
  unfold TellsUnknown at htells
  split at htells
  · cases hcommit
  · exact hended _ _ rfl
  · exact htells

/-- The others do not move: their turn is over. -/
lemma leaves_of_turn {log : Log} (hturn : latest log = some i) (hactor : event.actor = i)
    (hstarted : ∀ k now, event ≠ .started k now)
    (hself : (phase (past i (event :: log))).Leaves i (event :: log)
      (statusAfter initial (before i log)) (statusAfter initial (event :: log))) (k : ℕ)
    (hk : latest (event :: log) = some k) :
    (phase (past k (event :: log))).Leaves k (event :: log)
      (statusAfter initial (before k (event :: log))) (statusAfter initial (event :: log)) := by
  have hlatest : latest (event :: log) = latest log := by
    cases event with
    | started k now => exact absurd rfl (hstarted k now)
    | issued | executed | ended => rfl
  rw [hlatest, hturn] at hk
  obtain rfl : i = k := Option.some.inj hk
  rw [before_cons fun now => hstarted i now]
  exact hself

/-- A step that commits no transition, neither posts nor ends, and does not make a write out of
the row or take one from it. -/
lemma quiet (h : Unsent initial v) (hturn : latest v.log = some i) (hactor : event.actor = i)
    (hstarted : ∀ k now, event ≠ .started k now) (hcommit : event.commit = none)
    (hpost : ∀ k now message, event ≠ .issued k now (.postNotification message))
    (hended : ∀ k r, event ≠ .ended k r)
    (hcustody : Custody ({ v with row := row, provider := s }.note event))
    (hstatus : row.map (·.status) = statusAfter initial (event :: v.log))
    (hsame : StatusIn unresolved (statusAfter initial (event :: v.log)) ↔
      StatusIn unresolved (statusAfter initial v.log))
    (hself : (phase (past i (event :: v.log))).Leaves i (event :: v.log)
      (statusAfter initial (before i v.log)) (statusAfter initial (event :: v.log))) :
    Unsent initial ({ v with row := row, provider := s }.note event) := by
  have hholder : holder (event :: v.log) = holder v.log := holder_cons hcommit
  have hannounced : ∀ {k}, Announced k (event :: v.log) → Announced k v.log := fun hk =>
    hk.of_cons fun request heq => by rw [hcommit] at heq; cases heq
  refine ⟨hcustody, hstatus, fun howed => ?_, leaves_of_turn hturn hactor hstarted hself,
    fun k r hmem hk hunsent => ?_, ⟨⟨fun htells => ?_, fun k r heq => absurd heq (hended k r),
      fun k now message heq => absurd heq (hpost k now message)⟩, h.each⟩⟩
  · rw [ScopeView.note_log, hholder]
    exact h.owed (hsame.1 howed)
  · have hold : .ended k r ∈ v.log := by
      rcases List.mem_cons.1 hmem with heq | hmem
      · exact absurd heq.symm (hended k r)
      · exact hmem
    obtain ⟨hheld, hunresolved⟩ := h.held k r hold (hannounced hk) fun hp => hunsent hp.mono
    exact ⟨hholder.trans hheld, hsame.2 hunresolved⟩
  · exact absurd htells (not_tellsUnknown hcommit hended)

lemma started (h : Unsent initial v) (hempty : past i v.log = []) :
    Unsent initial (v.note (.started i v.now)) := by
  have hstatus : statusAfter initial (.started i v.now :: v.log) = statusAfter initial v.log := rfl
  have hannounced : ∀ {k}, Announced k (.started i v.now :: v.log) → Announced k v.log :=
    fun hk => hk.of_cons fun request heq => by cases heq
  refine ⟨?_, h.status, h.owed, fun k hk => ?_, fun k r hmem hk hunsent => ?_,
    ⟨⟨fun htells => htells.elim, fun k r heq => (by cases heq),
      fun k now message heq => (by cases heq)⟩, h.each⟩⟩
  · refine h.custody.quiet_of_phase (i := i) rfl rfl (by simp) (fun hopen => hopen) ?_
    rw [past_started]
  · obtain rfl : i = k := Option.some.inj hk
    rw [ScopeView.note_log, past_started, hempty, hstatus]
    have hbefore : before i (.started i v.now :: v.log) = v.log := if_pos rfl
    rw [hbefore]
    exact ⟨rfl, fun hk => not_announced_of_past hempty (hannounced hk)⟩
  · have hold : .ended k r ∈ v.log := by
      rcases List.mem_cons.1 hmem with heq | hmem
      · cases heq
      · exact hmem
    exact h.held k r hold (hannounced hk) fun hp => hunsent hp.mono

/-- A call by the delivery that has announced its write. -/
lemma issue_post {a : ExternalAction} {message : SlackMessageRequest} (h : Unsent initial v)
    (hturn : latest v.log = some i) (hunended : (past i v.log).Unended)
    (hphase : phase (past i v.log) = .armed a) :
    Unsent initial
      ({ v with provider := s }.note (.issued i v.now (.postNotification message))) := by
  have hcustody : Custody
      ({ v with provider := s }.note (.issued i v.now (.postNotification message))) :=
    h.custody.issue_post hphase
  have hholding := h.custody.holding i
  have hleaves := h.leaves i hturn
  rw [hphase] at hholding hleaves
  obtain ⟨hheld, hfirst⟩ := hholding
  obtain ⟨hexecuting, hannounced⟩ := hleaves
  have hholder : holder (.issued i v.now (.postNotification message) :: v.log) = holder v.log :=
    holder_cons rfl
  have hold : ∀ {k}, Announced k (.issued i v.now (.postNotification message) :: v.log) →
      Announced k v.log := fun hk => hk.of_cons fun request heq => by cases heq
  have hsilent : ∀ k r, .ended k r ∈ v.log → Announced k v.log → Posted k v.log := by
    intro k r hmem hk
    by_contra hunsent
    have hkheld := (h.held k r hmem hk hunsent).1
    obtain rfl : i = k := Option.some.inj (hheld.symm.trans hkheld)
    exact hunended r (List.mem_filterMap.2 ⟨_, hmem, by simp [Event.actor, Event.act]⟩)
  refine ⟨hcustody, h.status, fun howed => ?_,
    leaves_of_turn hturn rfl
      (fun _ _ heq => by cases heq) ?_,
    fun k r hmem hk hunsent => ?_, ⟨⟨fun htells => htells.elim, fun k r heq => (by cases heq),
      fun k now message heq => hsilent⟩, h.each⟩⟩
  · rw [ScopeView.note_log, hholder]
    exact h.owed howed
  · have hnext : phase (past i (.issued i v.now (.postNotification message) :: v.log)) =
        .posting a := by
      rw [past_issued, phase, hphase]
      rfl
    rw [hnext]
    exact ⟨hexecuting, v.now, message, List.mem_cons_self⟩
  · rcases List.mem_cons.1 hmem with heq | hmem
    · cases heq
    · exact absurd (hsilent k r hmem (hold hk)).mono hunsent

/-- What a transition makes of the row, by where the delivery is that asks for it. -/
inductive Moves (ph : SlackPhase) (request : TransitionRequest) (status : ExternalActionStatus) :
    Prop
  | refused (a : ExternalAction) (hclear : Clear ph a) (hstatus : status ∈ postable)
    (hnew : request.newStatus = .retryableFailure ∨
      request.newStatus = .permanentFailure ∧
        request.transition = "slack_identity_permanent_failure" ∨
      request.newStatus = .needsHumanReview ∧ request.transition = "slack_identity_mismatch")
    (hname : request.transition ≠ "slack_write_started")
  | announced (a : ExternalAction) (hclear : Clear ph a) (hstatus : status ∈ postable)
    (hnew : request.newStatus = .executing) (hname : request.transition = "slack_write_started")
  | demoted (reservation : ActionReservation) (hphase : ph = .reserved reservation)
    (hstatus : status = .executing) (hnew : request.newStatus = .outcomeUnknown)
    (hname : request.transition ≠ "slack_write_started")
    (hkept : request.transition ≠ "slack_retryable_failure")
  | settled (a : ExternalAction) (outcome : Except Exn SlackMessageReceipt)
    (hphase : ph = .answered a outcome) (hname : request.transition ≠ "slack_write_started")
    (hkept : request.newStatus = .outcomeUnknown → request.transition ≠ "slack_retryable_failure")
    (hnew : request.newStatus ≠ .executing)

lemma moves_of_requests {request : TransitionRequest} {status : ExternalActionStatus}
    (hrequest : Requests ph request) (hstatus : status ∈ request.expectedStatuses) :
    Moves ph request status := by
  cases hrequest with
  | demote =>
    refine .demoted _ rfl (List.mem_singleton.1 hstatus) rfl ?_ ?_
    · simp [previousWriteUnresolved]
    · simp [previousWriteUnresolved]
  | identityRetryable task hclear =>
    exact .refused _ hclear hstatus (.inl rfl) (by simp [identityRetryableFailure])
  | identityPermanent task hclear =>
    exact .refused _ hclear hstatus (.inr (.inl ⟨rfl, rfl⟩)) (by simp [identityPermanentFailure])
  | mismatch task hclear =>
    exact .refused _ hclear hstatus (.inr (.inr ⟨rfl, rfl⟩)) (by simp [identityMismatch])
  | write settings task hclear => exact .announced _ hclear hstatus rfl rfl
  | unsent =>
    exact .settled _ _ rfl (by simp [retryableFailure]) (by simp [retryableFailure])
      (by simp [retryableFailure])
  | rejected =>
    exact .settled _ _ rfl (by simp [permanentFailure]) (by simp [permanentFailure])
      (by simp [permanentFailure])
  | unknown =>
    exact .settled _ _ rfl (by simp [outcomeUnknown]) (by simp [outcomeUnknown])
      (by simp [outcomeUnknown])
  | succeeded =>
    exact .settled _ _ rfl (by simp [writeSucceeded]) (by simp [writeSucceeded])
      (by simp [writeSucceeded])

/-- A delivery that is clear to write has met the row as it is. -/
lemma leaves_of_clear {a : ExternalAction} {log : Log} {first now : Option ExternalActionStatus}
    (hclear : Clear ph a) (hleaves : ph.Leaves i log first now) :
    (now = first ∨ first = none ∧ now = some .reserved) ∧ ¬Announced i log := by
  cases hclear with
  | unstarted => exact hleaves.2
  | due => exact hleaves.2

/-- A transition that fails leaves the row as the delivery has met it. -/
lemma settled_of_requests {request : TransitionRequest} {log : Log} {x : Exn}
    {first now : Option ExternalActionStatus} (hrequest : Requests ph request)
    (hleaves : ph.Leaves i log first now) :
    (SlackPhase.settled request (.error x)).Leaves i log first now := by
  have hclear : ∀ {a}, Clear ph a →
      (SlackPhase.settled request (.error x)).Leaves i log first now := by
    intro a hclear
    obtain ⟨hmet, hnot⟩ := leaves_of_clear hclear hleaves
    exact ⟨fun a heq => (by cases heq), .inr ⟨hnot, hmet.imp_right .inl⟩⟩
  cases hrequest with
  | demote =>
    exact ⟨fun a heq => (by cases heq), .inr ⟨hleaves.2.2, hleaves.2.1.imp_right .inl⟩⟩
  | identityRetryable task h | identityPermanent task h | mismatch task h | write settings task h =>
    exact hclear h
  | unsent | rejected | unknown | succeeded =>
    exact ⟨fun a heq => (by cases heq), .inl hleaves.2⟩

lemma not_unresolved_of_postable {status : ExternalActionStatus} (h : status ∈ postable) :
    ¬StatusIn unresolved (some status) := by
  rintro ⟨status', hmem, heq⟩
  obtain rfl : status = status' := Option.some.inj heq
  revert h hmem
  cases status <;> decide

lemma sendable_of_met {status : ExternalActionStatus} {first : Option ExternalActionStatus}
    (hstatus : status ∈ postable)
    (hmet : some status = first ∨ first = none ∧ some status = some .reserved) :
    Sendable first := by
  rcases hmet with rfl | ⟨rfl, -⟩
  · exact .inr ⟨status, hstatus, rfl⟩
  · exact .inl rfl

/-- The status that a delivery leaves which does not write for the sake of its identity. -/
lemma retryable_or_disqualified {log : Log} {now : Timestamp} {request : TransitionRequest}
    {row : ExternalAction} (htold : ToldOfIdentity (past i log) request)
    (hnew : request.newStatus = .retryableFailure ∨
      request.newStatus = .permanentFailure ∧
        request.transition = "slack_identity_permanent_failure" ∨
      request.newStatus = .needsHumanReview ∧ request.transition = "slack_identity_mismatch") :
    some request.newStatus = some .retryableFailure ∨
      Disqualified i (.executed i now (.transition request) (.ok row) :: log)
        (some request.newStatus) := by
  rcases hnew with hnew | ⟨hnew, hname⟩ | ⟨hnew, hname⟩
  · exact .inl (congrArg some hnew)
  · obtain ⟨code, hanswered⟩ := htold.1 hname
    obtain ⟨told, hmem⟩ := answered_mem_past.1 hanswered
    rw [hnew]
    exact .inr (.failed told now code request row (List.mem_cons_of_mem _ hmem)
      List.mem_cons_self hname)
  · obtain ⟨told, hmem⟩ := answered_mem_past.1 (htold.2 hname)
    rw [hnew]
    exact .inr (.mismatched told now request row (List.mem_cons_of_mem _ hmem)
      List.mem_cons_self hname)

section Commit

variable {request : TransitionRequest} {a a' : ExternalAction} {log : Log} {now : Timestamp}

/-- The announcement and the write that was not sent are the transitions that move the right to
post. -/
lemma holder_committed (hname : request.transition ≠ "slack_write_started")
    (hkept : request.transition ≠ "slack_retryable_failure") :
    holder (.executed i now (.transition request) (.ok a') :: log) = holder log := by
  simp [holder, Event.commit, hname, hkept]

lemma not_announced_committed (hname : request.transition ≠ "slack_write_started")
    (hnot : ¬Announced i log) :
    ¬Announced i (.executed i now (.transition request) (.ok a') :: log) := by
  intro hannounced
  refine hnot (hannounced.of_cons fun request' heq => ?_)
  cases heq
  exact hname

lemma phase_committed (hname : request.transition ≠ "slack_write_started") :
    phase (past i (.executed i now (.transition request) (.ok a') :: log)) =
      .settled request (.ok a') := by
  rw [past_executed]
  exact if_neg hname

lemma holder_of_answered {b : ExternalAction} {outcome : Except Exn SlackMessageReceipt}
    (h : Unsent initial v) (hphase : phase (past i v.log) = .answered b outcome) :
    holder v.log = some i := by
  have hholding := h.custody.holding i
  rw [hphase] at hholding
  exact hholding.1

lemma owed_of_executing (h : Unsent initial v)
    (hmet : statusAfter initial v.log = some .executing) :
    (∃ k, holder v.log = some k) ∨ StatusIn unresolved initial :=
  h.owed ⟨.executing, by simp [unresolved], hmet⟩

lemma commit_owed (h : Unsent initial v) (hphase : phase (past i v.log) = ph)
    (hmet : statusAfter initial v.log = some a.status) (hmoves : Moves ph request a.status)
    (hunresolved : StatusIn unresolved (some request.newStatus)) :
    (∃ k, holder (.executed i now (.transition request) (.ok a') :: v.log) = some k) ∨
      StatusIn unresolved initial := by
  obtain ⟨status, hmem, heq⟩ := hunresolved
  obtain rfl : request.newStatus = status := Option.some.inj heq
  cases hmoves with
  | refused b hclear hpostable hnew =>
    rcases hnew with heq | ⟨heq, -⟩ | ⟨heq, -⟩ <;> simp [unresolved, heq] at hmem
  | announced b hclear hpostable hnew hname =>
    exact .inl ⟨i, by simp [holder, Event.commit, hname]⟩
  | demoted reservation hph hexecuting hnew hname hkept =>
    rw [holder_committed hname hkept]
    rw [hexecuting] at hmet
    exact h.owed_of_executing hmet
  | settled b outcome hph hname hkept hnew =>
    subst hph
    have hunknown : request.newStatus = .outcomeUnknown := by
      revert hmem hnew
      cases request.newStatus <;> simp [unresolved]
    rw [holder_committed hname (hkept hunknown)]
    exact .inl ⟨i, h.holder_of_answered hphase⟩

lemma commit_leaves (hleaves : ph.Leaves i log (statusAfter initial (before i log)) (some a.status))
    (htold : ToldOfIdentity (past i log) request) (hmoves : Moves ph request a.status) :
    (phase (past i (.executed i now (.transition request) (.ok a') :: log))).Leaves i
      (.executed i now (.transition request) (.ok a') :: log)
      (statusAfter initial (before i log)) (some request.newStatus) := by
  cases hmoves with
  | refused b hclear hpostable hrefused hname =>
    obtain ⟨hfirst, hnot⟩ := leaves_of_clear hclear hleaves
    rw [phase_committed hname]
    exact ⟨fun _ _ => rfl, .inr ⟨not_announced_committed hname hnot, .inr (.inr (.inl
      ⟨sendable_of_met hpostable hfirst, retryable_or_disqualified htold hrefused⟩))⟩⟩
  | announced b hclear hpostable hexecuting hname =>
    have harmed : phase (past i (.executed i now (.transition request) (.ok a') :: log)) =
        .armed a' := by
      rw [past_executed]
      exact if_pos hname
    rw [harmed, hexecuting]
    exact ⟨rfl, now, request, a', List.mem_cons_self, hname⟩
  | demoted reservation hph hexecuting hunknown hname hkept =>
    subst hph
    obtain ⟨-, hfirst, hnot⟩ := hleaves
    rw [hexecuting] at hfirst
    have hwas : statusAfter initial (before i log) = some .executing := by
      rcases hfirst with heq | ⟨-, heq⟩
      · exact heq.symm
      · cases heq
    rw [phase_committed hname, hunknown]
    exact ⟨fun _ _ => congrArg some hunknown.symm,
      .inr ⟨not_announced_committed hname hnot, .inr (.inr (.inr ⟨hwas, rfl⟩))⟩⟩
  | settled b outcome hph hname =>
    subst hph
    rw [phase_committed hname]
    exact ⟨fun _ _ => rfl, .inl hleaves.2.mono⟩

lemma commit_held (h : Unsent initial v) (hphase : phase (past i v.log) = ph)
    (hmet : statusAfter initial v.log = some a.status) (hmoves : Moves ph request a.status)
    {k : ℕ} (hne : k ≠ i) {r : Except Exn SlackNotificationResult} (hmem : .ended k r ∈ v.log)
    (hannounced : Announced k v.log) (hunsent : ¬Posted k v.log) :
    holder (.executed i now (.transition request) (.ok a') :: v.log) = some k ∧
      StatusIn unresolved (some request.newStatus) := by
  obtain ⟨hheld, hunresolved⟩ := h.held k r hmem hannounced hunsent
  rw [hmet] at hunresolved
  cases hmoves with
  | refused b hclear hpostable => exact absurd hunresolved (not_unresolved_of_postable hpostable)
  | announced b hclear hpostable => exact absurd hunresolved (not_unresolved_of_postable hpostable)
  | demoted reservation hph hexecuting hunknown hname hkept =>
    rw [holder_committed hname hkept, hunknown]
    exact ⟨hheld, .outcomeUnknown, by simp [unresolved], rfl⟩
  | settled b outcome hph =>
    subst hph
    exact absurd (Option.some.inj (hheld.symm.trans (h.holder_of_answered hphase))) hne

lemma commit_unknown (h : Unsent initial v) (hphase : phase (past i v.log) = ph)
    (hmet : statusAfter initial v.log = some a.status) (hmoves : Moves ph request a.status)
    (hunknown : request.newStatus = .outcomeUnknown) :
    (∃ k, holder v.log = some k ∧ Announced k v.log) ∨ StatusIn unresolved initial := by
  have hheld : (∃ k, holder v.log = some k) ∨ StatusIn unresolved initial := by
    cases hmoves with
    | refused b hclear hpostable hnew =>
      rw [hunknown] at hnew
      rcases hnew with heq | ⟨heq, -⟩ | ⟨heq, -⟩ <;> cases heq
    | announced b hclear hpostable hnew =>
      rw [hunknown] at hnew
      cases hnew
    | demoted reservation hph hexecuting =>
      rw [hexecuting] at hmet
      exact h.owed_of_executing hmet
    | settled b outcome hph =>
      subst hph
      exact .inl ⟨i, h.holder_of_answered hphase⟩
  exact hheld.imp_left (Exists.imp fun k hk => ⟨hk, announced_of_holder hk⟩)

/-- A committed transition, by what it makes of the row. -/
lemma commit (h : Unsent initial v) (hturn : latest v.log = some i)
    (hunended : (past i v.log).Unended) (hphase : phase (past i v.log) = ph)
    (hrequest : Requests ph request) (htold : ToldOfIdentity (past i v.log) request)
    (hrow : v.row = some a) (hstatus : a.status ∈ request.expectedStatuses)
    (hnew : a'.status = request.newStatus) :
    Unsent initial ({ v with row := some a', provider := s }.note
      (.executed i v.now (.transition request) (.ok a'))) := by
  have hmet : statusAfter initial v.log = some a.status := by
    rw [← h.status, hrow]
    rfl
  have hleft : statusAfter initial (.executed i v.now (.transition request) (.ok a') :: v.log) =
      some request.newStatus := congrArg some hnew
  have hleaves := h.leaves i hturn
  rw [hphase, hmet] at hleaves
  have hmoves := moves_of_requests hrequest hstatus
  have hother : ∀ k r, .ended k r ∈ v.log → k ≠ i := by
    rintro k r hmem rfl
    exact hunended r (List.mem_filterMap.2 ⟨_, hmem, by simp [Event.actor, Event.act]⟩)
  refine ⟨h.custody.commit hphase hrequest hrow hstatus hnew, rfl, fun hunresolved => ?_,
    leaves_of_turn hturn rfl (fun _ _ heq => by cases heq) ?_, fun k r hmem hk hunsent => ?_,
    ⟨⟨fun htells => h.commit_unknown hphase hmet hmoves htells, fun k r heq => (by cases heq),
      fun k now message heq => (by cases heq)⟩, h.each⟩⟩
  · rw [ScopeView.note_log, hleft] at hunresolved
    exact h.commit_owed hphase hmet hmoves hunresolved
  · rw [hleft]
    exact commit_leaves hleaves htold hmoves
  · have hold : .ended k r ∈ v.log := by
      rcases List.mem_cons.1 hmem with heq | hmem
      · cases heq
      · exact hmem
    have hne := hother k r hold
    have hannounced : Announced k v.log := hk.of_cons fun request' heq => by
      cases heq
      exact absurd rfl hne
    rw [ScopeView.note_log, hleft]
    exact h.commit_held hphase hmet hmoves hne hold hannounced fun hp => hunsent hp.mono

end Commit

/-- What a delivery leaves that has come to its end without a post. -/
lemma leftBehind_of_leaves {log : Log}
    (hleaves : ph.Leaves i log (statusAfter initial (before i log)) (statusAfter initial log))
    (hunsent : ¬Posted i log) : LeftBehind initial i log := by
  have hmet : (statusAfter initial log = statusAfter initial (before i log) ∨
      statusAfter initial (before i log) = none ∧ statusAfter initial log = some .reserved) →
      ¬Announced i log → LeftBehind initial i log := by
    rintro hmet hnot
    refine ⟨fun _ => ⟨fun hunresolved => ?_, fun hsendable => .inl ?_⟩,
      fun hannounced => absurd hannounced hnot⟩
    · rcases hmet with heq | ⟨-, heq⟩
      · rw [← heq]
        exact hunresolved
      · rw [heq] at hunresolved
        exact absurd hunresolved (not_unresolved_of_postable (by decide))
    · rcases hmet with heq | ⟨-, heq⟩
      · rw [heq]
        exact hsendable
      · exact .inr ⟨.reserved, by decide, heq⟩
  cases ph with
  | fresh => exact hmet (.inl hleaves.1) hleaves.2
  | reserved | delayed => exact hmet hleaves.2.1 hleaves.2.2
  | armed => exact ⟨fun hnot => absurd hleaves.2 hnot, fun _ => hleaves.1⟩
  | posting | answered => exact absurd hleaves.2 hunsent
  | settled request outcome =>
    rcases hleaves.2 with hposted | ⟨hnot, heq | heq | ⟨hfirst, hrefused⟩ | ⟨hfirst, heq⟩⟩
    · exact absurd hposted hunsent
    · exact hmet (.inl heq) hnot
    · exact hmet (.inr heq) hnot
    · refine ⟨fun _ => ⟨fun hunresolved => ?_, fun _ => ?_⟩,
        fun hannounced => absurd hannounced hnot⟩
      · obtain ⟨status, hmem, heq⟩ := hunresolved
        rw [heq] at hrefused
        rcases hrefused with hretryable | hdisqualified
        · cases hretryable
          simp [unresolved] at hmem
        · cases hdisqualified <;> simp [unresolved] at hmem
      · exact hrefused.imp_left fun hretryable => .inr ⟨_, by simp [postable], hretryable⟩
    · refine ⟨fun _ => ⟨fun _ => ⟨_, by simp [unresolved], hfirst⟩, fun hsendable => ?_⟩,
        fun hannounced => absurd hannounced hnot⟩
      rcases hsendable with hnone | ⟨status, hmem, heq'⟩
      · rw [hfirst] at hnone
        cases hnone
      · obtain rfl : .executing = status := Option.some.inj (hfirst.symm.trans heq')
        exact absurd hmem (by decide)

/-- The end of a delivery. -/
lemma ended (h : Unsent initial v) (hturn : latest v.log = some i)
    {r : Except Exn SlackNotificationResult} (hends : Ends (phase (past i v.log)) r)
    (hcustody : Custody (v.note (.ended i r))) : Unsent initial (v.note (.ended i r)) := by
  have hleaves := h.leaves i hturn
  have hholding := h.custody.holding i
  have hholder : holder (.ended i r :: v.log) = holder v.log := holder_cons rfl
  have hphase : phase (past i (.ended i r :: v.log)) = phase (past i v.log) := by
    rw [past_ended]
    rfl
  have hannounced : ∀ {k}, Announced k (.ended i r :: v.log) ↔ Announced k v.log :=
    ⟨fun hk => hk.of_cons fun request heq => (by cases heq), fun hk => hk.mono⟩
  have hposted : ∀ {k}, Posted k (.ended i r :: v.log) ↔ Posted k v.log :=
    ⟨fun hk => hk.of_cons fun now request heq => (by cases heq), fun hk => hk.mono⟩
  refine ⟨hcustody, h.status, fun howed => ?_,
    leaves_of_turn hturn rfl (fun _ _ heq => by cases heq) ?_, fun k r' hmem hk hunsent => ?_,
    ⟨⟨fun htells => ?_, fun k r' heq hunsent => ?_, fun k now message heq => (by cases heq)⟩,
      h.each⟩⟩
  · rw [ScopeView.note_log, hholder]
    exact h.owed howed
  · rw [hphase]
    exact hleaves.mono rfl
  · rw [ScopeView.note_log, hannounced] at hk
    rw [ScopeView.note_log, hposted] at hunsent
    rw [ScopeView.note_log, hholder]
    rcases List.mem_cons.1 hmem with heq | hold
    · cases heq
      cases hph : phase (past i v.log) with
      | fresh =>
        rw [hph] at hleaves
        exact absurd hk hleaves.2
      | reserved | delayed =>
        rw [hph] at hleaves
        exact absurd hk hleaves.2.2
      | armed =>
        rw [hph] at hleaves hholding
        exact ⟨hholding.1, .executing, by simp [unresolved], hleaves.1⟩
      | posting | answered =>
        rw [hph] at hleaves
        exact absurd hleaves.2 hunsent
      | settled =>
        rw [hph] at hleaves
        rcases hleaves.2 with hp | ⟨hnot, -⟩
        · exact absurd hp hunsent
        · exact absurd hk hnot
    · exact h.held k r' hold hk hunsent
  · cases r with
    | error x => exact htells.elim
    | ok result =>
      have hunknown : statusAfter initial v.log = some .outcomeUnknown := by
        have hknows := hends.unknown result rfl htells
        revert hleaves hknows
        generalize phase (past i v.log) = ph
        intro hleaves hknows
        cases hknows with
        | reported reservation hstatus => exact hleaves.1.trans (congrArg some hstatus)
        | recorded request a hstatus => exact (hleaves.1 a rfl).trans (congrArg some hstatus)
      have hanswer := h.owed ⟨.outcomeUnknown, by simp [unresolved], hunknown⟩
      exact hanswer.imp_left (Exists.imp fun k hk => ⟨hk, announced_of_holder hk⟩)
  · cases heq
    exact leftBehind_of_leaves hleaves hunsent

end Unsent

/-- Any number of deliveries to one scope, one at a time. -/
def soloDeliveries [Runtime] {scope : String} (delivery : J → Delivery scope)
    (tick : Timestamp → Timestamp → Bool) : Setup J SlackNotificationResult :=
  { deliveries delivery tick with exclusive := true }

section Deliveries

variable [Runtime] {scope : String} {delivery : J → Delivery scope}
  {tick : Timestamp → Timestamp → Bool} {providers : Provider S M}
  {allowed : ℕ → Effect → SlackView S → Bool} {valid : Prop}

lemma unsent_invariant (initial : Option ExternalActionStatus) :
    ScopeInvariant (soloDeliveries delivery tick) providers scope (deliveryScript scope) allowed
      valid (Unsent initial) := by
  have hcustody : ScopeInvariant (deliveries delivery tick) providers scope (deliveryScript scope)
      allowed valid Custody := custody_invariant
  have hany : ∀ {i log}, (soloDeliveries delivery tick).Acts i log →
      (deliveries delivery tick).Acts i log := fun h => ⟨fun heq => (by cases heq), h.unended⟩
  refine ⟨fun v i hv hempty => hv.started hempty, fun v i e s hv hacts hscript hissue => ?_,
    fun v i e r row s h hv hacts hpast hscript hallowed hx => ?_,
    fun v i r hv hacts hend => hv.ended (hacts.turn rfl) hend
      (hcustody.ended v i r hv.custody (hany hacts) hend),
    fun v now hv htick => ⟨hcustody.clock v now hv.custody htick, hv.status, hv.owed, hv.leaves,
      hv.held, hv.each⟩,
    fun v m s hv hact => ⟨hcustody.act v m s hv.custody hact, hv.status, hv.owed, hv.leaves,
      hv.held, hv.each⟩⟩
  · by_cases hpost : ∃ message, e = .postNotification message
    · obtain ⟨message, rfl⟩ := hpost
      obtain ⟨a, hphase⟩ := hscript
      exact hv.issue_post (hacts.turn rfl) hacts.unended hphase
    · have hphase : phase (past i (.issued i v.now e :: v.log)) = phase (past i v.log) := by
        rw [past_issued, phase]
        cases e <;> first | rfl | exact absurd ⟨_, rfl⟩ hpost
      refine hv.quiet (i := i) (hacts.turn rfl) rfl (fun _ _ heq => by cases heq) rfl ?_
        (fun _ _ heq => by cases heq)
        (hcustody.issued v i e s hv.custody (hany hacts) hscript hissue)
        hv.status .rfl ?_
      · rintro k now message heq
        cases heq
        exact hpost ⟨message, rfl⟩
      · rw [hphase]
        exact (hv.leaves i (hacts.turn rfl)).mono rfl
  · have hnext :=
      hcustody.executed v i e r row s h hv.custody (hany hacts) hpast hscript hallowed hx
    have hturn := hacts.turn rfl
    have hleaves := hv.leaves i hturn
    have hmet : ∀ {a}, v.row = some a → statusAfter initial v.log = some a.status := by
      intro a hrow
      rw [← hv.status, hrow]
      rfl
    have hfresh : ∀ request, e = .reserveOrGet request → phase (past i v.log) = .fresh := by
      rintro request rfl
      rw [hpast]
      exact hscript.1
    cases hx with
    | created request id habsent =>
      rw [hfresh request rfl] at hleaves
      have hnone : statusAfter initial v.log = none := by
        rw [← hv.status, habsent]
        rfl
      refine hv.quiet (i := i) hturn rfl (by simp) rfl (by simp) (by simp) hnext rfl ?_ ?_
      · rw [hnone]
        constructor
        · exact fun h => absurd h (Unsent.not_unresolved_of_postable
            (by decide : ExternalActionStatus.reserved ∈ postable))
        · rintro ⟨status, -, heq⟩
          cases heq
      · rw [past_executed]
        exact ⟨rfl, .inr ⟨hleaves.1.symm.trans hnone, rfl⟩, (hleaves.mono rfl).2⟩
    | existing request a hrow =>
      rw [hfresh request rfl] at hleaves
      refine hv.quiet (i := i) hturn rfl (by simp) rfl (by simp) (by simp) hnext rfl ?_ ?_
      · rw [hmet hrow]
        exact .rfl
      · rw [past_executed]
        exact ⟨rfl, .inl ((hmet hrow).symm.trans hleaves.1), (hleaves.mono rfl).2⟩
    | transitioned request a hrow hid hstatus =>
      have hphase : phase (past i v.log) = phase h := by
        rw [hpast]
        rfl
      have htold : ToldOfIdentity (past i v.log) request := by
        rw [hpast]
        exact hscript.2.cons
      exact hv.commit hturn hacts.unended hphase hscript.1 htold hrow hstatus rfl
    | delayed id a hrow =>
      obtain ⟨reservation, hreserved, -, -⟩ := hscript
      have hphase : phase (past i v.log) = .reserved reservation := by
        rw [hpast]
        exact hreserved
      refine hv.quiet (i := i) hturn rfl (by simp) rfl (by simp) (by simp) hnext hv.status .rfl ?_
      rw [past_executed, phase, hphase]
      rw [hphase] at hleaves
      exact hleaves.mono rfl
    | transitionFailed request x =>
      have hphase : phase (past i v.log) = phase h := by
        rw [hpast]
        rfl
      refine hv.quiet (i := i) hturn rfl (by simp) rfl (by simp) (by simp) hnext hv.status .rfl ?_
      rw [past_executed]
      rw [hphase] at hleaves
      exact (Unsent.settled_of_requests hscript.1 hleaves).mono rfl
    | reserveFailed request x =>
      refine hv.quiet (i := i) hturn rfl (by simp) rfl (by simp) (by simp) hnext hv.status .rfl ?_
      rw [past_executed]
      exact hleaves.mono rfl
    | revised | reviseFailed | recorded => exact hscript.elim
    | responded _ _ _ m he =>
      cases e with
      | verifySlackIdentity =>
        refine hv.quiet (i := i) hturn rfl (by simp) rfl (by simp) (by simp) hnext hv.status .rfl ?_
        rw [past_executed]
        exact hleaves.mono rfl
      | postNotification message =>
        obtain ⟨a, harmed⟩ := hscript
        have hposting : phase (past i v.log) = .posting a := by
          rw [hpast, phase, harmed]
          rfl
        refine hv.quiet (i := i) hturn rfl (by simp) rfl (by simp) (by simp) hnext hv.status .rfl ?_
        rw [past_executed, phase, hposting]
        rw [hposting] at hleaves
        exact ⟨hleaves.1, hleaves.2.mono⟩
      | reserveOrGet | transition | reconciliationDelaySeconds => cases he
      | record | revise | fetchRecords | verifyGitHubIdentity | fetchContext | getComment
      | findCommentsByMarker | createComment | updateComment | fetchIssue => exact hscript.elim

/-- Where deliveries do not overlap, an unknown outcome goes back to the delivery that has
announced its write last. One that ends without a post leaves the row as it may be sent unless it
has announced its write or recorded that its identity is not the right one; from a row that may be
sent, a later delivery that nothing keeps from it may post. Where it has announced its write, the
row is `EXECUTING`, and nobody posts any more. -/
theorem unsent_unless_announced (delivery : J → Delivery scope)
    (tick : Timestamp → Timestamp → Bool) (providers : Provider S M) {db : Database}
    {now : Timestamp} {s : S} {moves : List (Move J (Choice M))}
    {c : Config handlerSignature SlackNotificationResult (World S SlackNotificationResult)}
    (hrun : (machine (soloDeliveries delivery tick) providers).run
      (Config.init (World.initial db now s)) moves = some c) :
    (∀ newer event older, c.world.log = newer ++ event :: older →
      Answerable ((db.actionAt scope).map (·.status)) event older) ∧
    (db.LedgerValid → providers.MayAnswer .verifySlackIdentity true →
      (∀ k < c.count, (c.thread k).active = false) →
      ∀ j request snapshotHash, (delivery j).Free request snapshotHash c.count c.world →
        ∃ moves' c', (machine (soloDeliveries delivery tick) providers).run c
            (.start j :: moves') = some c' ∧
          Posting c.count request c'.world ∧ ∀ mv ∈ moves', mv.Of c.count) := by
  have hallowed := hrun
  rw [← scopeMachine_true] at hallowed
  have hinitial : Unsent ((db.actionAt scope).map (·.status))
      (⟨db.actionAt scope, now, s, []⟩ : SlackView S) :=
    ⟨.initial, rfl, .inr, fun i hi => (by cases hi), fun i r hmem => (by cases hmem), trivial⟩
  have hvalid : db.LedgerValid → db.LedgerValid := id
  have hstate := (unsent_invariant _).state (fun _ _ => deliveryScript_inScope)
    (fun j => deliver_keeps (delivery j)) hvalid hinitial hallowed
  constructor
  · intro newer event older hlog
    have heach := hstate.scope.each
    rw [show (c.world.view scope).log = _ from hlog] at heach
    exact heach.of_append
  · intro hdb hverify hidle j request snapshotHash hfree
    exact hfree.posts rfl hverify (hstate.ledger hdb) hidle

end Deliveries

/-! ## A write that is announced and never sent -/

namespace Sample

/-- Delivery 0 is cancelled while its announcement commits; delivery 1 comes after it. -/
def cancelledAtCall : List SlackMove :=
  [.start 1, .resume 0] ++ commit 0 0 ++ answer 0 (.ok receipt) ++
    [.exec 0 (.identifiers 102 103), .env (.context 0 { customerCancellation := true }),
      .resume 0, .start 2, .resume 1] ++ commit 1 2 ++ commit 1 3

/-- Delivery `i` has been cancelled. -/
def cancelled (i : ℕ) : Event SlackNotificationResult → Bool
  | .ended j (.error .taskCancelled) => j == i
  | _ => false

def postsNothing : Event SlackNotificationResult → Bool
  | .issued _ _ (.postNotification _) => false
  | _ => true

/-- The last event records an unknown outcome; delivery 0 was cancelled before it, and nobody
has posted. -/
def unknownAfterCancel : Log → Bool
  | .ended _ _ :: .executed _ _ (.transition request) (.ok _) :: older =>
    decide (request.newStatus = .outcomeUnknown) && older.any (cancelled 0) &&
      older.all postsNothing
  | _ => false

attribute [local instance] slackHost

/-- The machine that runs deliveries of the sample one at a time. -/
def soloMachine : Machine handlerSignature SlackNotificationResult ℕ
    (World Unit SlackNotificationResult) (Choice ((e : Effect) → Outcome e)) :=
  machine (soloDeliveries delivery fun now later => decide (now ≤ later)) anyProvider

def runSolo (moves : List SlackMove) : Option SlackConfig :=
  soloMachine.run (Config.init (World.initial database 0 ())) moves

lemma runSolo_eq (moves : List SlackMove) : runSolo moves =
    (machine { job := preparedDelivery, tick := fun now later => decide (now ≤ later),
               exclusive := true } anyProvider).run
      (Config.init (World.initial database 0 ())) moves := by
  have h : (fun n => (delivery n).run) = preparedDelivery := funext run_delivery
  simp only [runSolo, soloMachine, soloDeliveries, deliveries, h]

set_option maxRecDepth 100000 in
lemma runSolo_cancelledAtCall :
    ((runSolo cancelledAtCall).any fun c => unknownAfterCancel c.world.log) = true := by
  rw [runSolo_eq]
  decide +kernel

end Sample

open Sample in
/-- Delivery 0 is cancelled and has not posted, and because of it an unknown outcome is
recorded. -/
theorem unknown_after_cancelledAtCall : ∃ c newer event older,
    runSolo cancelledAtCall = some c ∧ c.world.log = newer ++ event :: older ∧
    .ended 0 (.error .taskCancelled) ∈ older ∧ (∀ i, ¬Posted i older) ∧ TellsUnknown event := by
  obtain ⟨c, hc, hcheck⟩ := (Option.any_eq_true _ _).1 runSolo_cancelledAtCall
  unfold unknownAfterCancel at hcheck
  split at hcheck
  · rename_i i r j now request row older heq
    simp only [Bool.and_eq_true, decide_eq_true_eq, List.any_eq_true, List.all_eq_true] at hcheck
    obtain ⟨⟨hunknown, event, hmem, hcancelled⟩, hsilent⟩ := hcheck
    refine ⟨c, [_], _, older, hc, heq, ?_, ?_, hunknown⟩
    · unfold cancelled at hcancelled
      split at hcancelled
      · rw [beq_iff_eq] at hcancelled
        subst hcancelled
        exact hmem
      · cases hcancelled
    · rintro i ⟨now, message, hposted⟩
      have := hsilent _ hposted
      cases this
  · cases hcheck

namespace Sample

/-- Delivery 0 is cancelled while it reserves. -/
def cancelledAtReserve : List SlackMove :=
  [.start 1, .resume 0, .exec 0 (.identifiers 100 101),
    .env (.context 0 { customerCancellation := true }), .resume 0]

/-- Delivery 0 has been cancelled, and nothing keeps the delivery of task 2 from its post. -/
def isCancelledAndFree (c : SlackConfig) : Bool :=
  c.world.log.any (cancelled 0) && c.count == 1 && !(c.thread 0).active &&
    (fence 2).active c.world.now c.world.database && !(c.world.context 1).ownershipLost &&
    !(c.world.context 1).customerCancellation &&
    c.world.database.unused 200 && c.world.database.unused 201 &&
    (c.world.database.actionAt slackScope).any fun a =>
      a.provider == .slack && a.operation == .postDeploymentContextNotification &&
        a.desiredRequestFingerprint == slackFingerprint &&
        a.decisionSnapshotHash == slackSnapshotHash && a.status == .reserved

attribute [local instance] slackHost

set_option maxRecDepth 100000 in
lemma runSolo_cancelledAtReserve :
    ((runSolo cancelledAtReserve).any isCancelledAndFree) = true := by
  rw [runSolo_eq]
  decide +kernel

lemma delivery_composes (n : ℕ) : (delivery n).Composes slackMessage slackSnapshotHash :=
  ⟨⟨slackText, renderSlackNotification_slackRequest,
    SlackMessageRequest.validate_ok slackMessage.channel_pattern slackMessage.text_length⟩,
    slackDecisionSnapshotHash_slackRequest⟩

/-- What the check says of the row. -/
lemma free_of_check {c : SlackConfig} (h : isCancelledAndFree c = true) :
    (∀ k < c.count, (c.thread k).active = false) ∧
      (delivery 2).Free slackMessage slackSnapshotHash c.count c.world := by
  simp only [isCancelledAndFree, Bool.and_eq_true, Bool.not_eq_true', beq_iff_eq,
    Option.any_eq_true] at h
  obtain ⟨⟨⟨⟨⟨⟨⟨⟨-, hcount⟩, hidle⟩, hfence⟩, howned⟩, huncancelled⟩, hx⟩, hy⟩, a,
      hrow, hmatches⟩ :=
    h
  obtain ⟨⟨⟨⟨hprovider, hoperation⟩, hfingerprint⟩, hsnapshot⟩, hstatus⟩ := hmatches
  refine ⟨fun k hk => ?_, delivery_composes 2, hfence, ⟨?_, ?_⟩, ?_, fun b hb => ?_,
    ⟨[200, 201], le_rfl, by decide, ?_⟩⟩
  · obtain rfl : k = 0 := by omega
    exact hidle
  · rw [hcount]
    exact howned
  · rw [hcount]
    exact huncancelled
  · rw [hrow]
    exact .inr ⟨.reserved, by decide, congrArg some hstatus⟩
  · obtain rfl : a = b := Option.some.inj (hrow.symm.trans hb)
    refine ⟨hprovider, hoperation, ?_, hsnapshot, fun hretryable => ?_⟩
    · exact hfingerprint.trans sha256Json_slackMessage.symm
    · rw [hstatus] at hretryable
      cases hretryable
  · exact List.forall_mem_cons.2 ⟨hx, List.forall_mem_singleton.2 hy⟩

end Sample

attribute [local instance] Sample.slackHost in
open Sample in
/-- A delivery that is cancelled while it reserves leaves the row to the next one, which may post;
of one that is cancelled while it announces its write, the unknown outcome is told. -/
theorem unsent_unless_announced_cancelled :
    (∃ c, runSolo cancelledAtReserve = some c ∧
      (∃ i, .ended i (.error .taskCancelled) ∈ c.world.log) ∧
      (∀ newer event older, c.world.log = newer ++ event :: older →
        Answerable none event older) ∧
      ∃ moves c', soloMachine.run c (.start 2 :: moves) = some c' ∧
        Posting c.count slackMessage c'.world) ∧
    ∃ c, runSolo cancelledAtCall = some c ∧ unknownAfterCancel c.world.log = true ∧
      ∀ newer event older, c.world.log = newer ++ event :: older →
        Answerable none event older := by
  constructor
  · obtain ⟨c, hc, hcheck⟩ := (Option.any_eq_true _ _).1 runSolo_cancelledAtReserve
    obtain ⟨heach, hposts⟩ := unsent_unless_announced delivery _ anyProvider hc
    obtain ⟨hidle, hfree⟩ := free_of_check hcheck
    have hverify : anyProvider.MayAnswer .verifySlackIdentity true := fun now s =>
      ⟨slackAnswers (.ok receipt), s, rfl⟩
    have hdb : database.LedgerValid := ⟨by simp [database, Relational.Table.empty],
      by simp [database, Relational.Table.empty]⟩
    obtain ⟨moves, c', hrun, hposting, -⟩ := hposts hdb hverify hidle 2 _ _ hfree
    refine ⟨c, hc, ?_, heach, moves, c', hrun, hposting⟩
    simp only [isCancelledAndFree, Bool.and_eq_true, List.any_eq_true] at hcheck
    obtain ⟨event, hmem, hcancelled⟩ := hcheck.1.1.1.1.1.1.1.1
    unfold cancelled at hcancelled
    split at hcancelled
    · exact ⟨_, hmem⟩
    · cases hcancelled
  · obtain ⟨c, hc, hcheck⟩ := (Option.any_eq_true _ _).1 runSolo_cancelledAtCall
    exact ⟨c, hc, hcheck, (unsent_unless_announced delivery _ anyProvider hc).1⟩

end DeploymentLab
