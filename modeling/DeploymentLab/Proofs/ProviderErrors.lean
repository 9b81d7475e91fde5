import DeploymentLab.Model.Runner
import DeploymentLab.Proofs.PolicyOrder
import DeploymentLab.Proofs.Raised

/-!
# Where the errors of the providers go

The first error of a provider ends a run of the workflow. It is translated at once where a source is
read; where the comment is reconciled or written, the ledger takes note of it before. A permanent
error at a read of the reconciliation is the one that nobody translates.
-/

namespace DeploymentLab

open Interaction HandlerContext DeploymentContextSyncHandler

/-- The error of a task for the error of a provider. -/
def Exn.translated : Exn → Exn
  | .retryableProviderError errorCode retryAfter => .retryableTaskError errorCode retryAfter
  | .permanentProviderError errorCode => .permanentTaskError errorCode
  | .providerWriteOutcomeUnknown errorCode => .retryableTaskError errorCode none
  | x => x

namespace Effect

/-- A call to the service catalog, to GitHub or to Jira. -/
def isConnectorCall : Effect → Bool
  | .fetchRecords _ | .verifyGitHubIdentity | .fetchContext _ _ | .getComment _ _
  | .findCommentsByMarker _ _ _ | .createComment _ _ _ | .updateComment _ _ _
  | .fetchIssue _ => true
  | _ => false

def isCommentWrite : Effect → Bool
  | .createComment _ _ _ | .updateComment _ _ _ => true
  | _ => false

/-- What an await may raise: the errors of the providers come of the connectors, an unknown outcome
of a write, and the database raises no error of a task. -/
structure MayRaise (e : Effect) (x : Exn) : Prop where
  connector : x.isProviderError = true → e.isConnectorCall = true
  write : ∀ errorCode, x = .providerWriteOutcomeUnknown errorCode → e.isCommentWrite = true
  transaction : e.isTransaction = true → x.isTaskError = false

end Effect

/-- Every await has raised what it may raise. -/
def Orderly (h : SyncPast) : Prop := ∀ e x, .answered e (.error x) ∈ h → e.MayRaise x

/-- No provider has raised an error. -/
def Undisturbed (h : SyncPast) : Prop :=
  ∀ e x, .answered e (.error x) ∈ h → x.isProviderError = false

/-- After the past `h`, the await is a read of the reconciliation: the other reads of a comment
directly follow a reservation that found the action changed. -/
def ReadsBack (h : SyncPast) : Effect → Prop
  | .findCommentsByMarker _ _ _ => True
  | .getComment _ _ => ∀ request reservation earlier,
      h = .answered (.reserveOrGet request) (.ok reservation) :: earlier →
        reservation.kind ≠ .changed
  | _ => False

/-- A read of the reconciliation has raised a permanent error. -/
def ReconciliationRejected (h : SyncPast) : Prop :=
  ∃ e errorCode earlier, .answered e (.error (.permanentProviderError errorCode)) ::
    .issued e :: earlier <:+ h ∧ ReadsBack earlier e

/-- The ledger has refused to take note of a retryable or of a permanent error. -/
def RecordRefused (h : SyncPast) : Prop :=
  ∃ e x request y earlier, .answered (.transition request) (.error y) ::
    .issued (.transition request) :: .answered e (.error x) :: earlier <:+ h ∧
    x.isProviderError = true ∧ ∀ errorCode, x ≠ .providerWriteOutcomeUnknown errorCode

def RunnerEffect.isRetry : RunnerEffect → Bool
  | .scheduleRetry _ _ _ _ _ => true
  | _ => false

/-- The errors of the providers are kept: a permanent one ends the run for good, a retryable one
with the delay it asks for, and none of them leaves the run as it is. -/
structure ErrorsKept (h : SyncPast) (r : Except Exn DeploymentContextResult) : Prop where
  permanent : ∀ e errorCode, .answered e (.error (.permanentProviderError errorCode)) ∈ h →
    r = .error (.permanentTaskError errorCode) ∨
      ∃ result, r = .ok result ∧ result.decision.outcome = .needsHumanReview
  unretried : ∀ e errorCode, .answered e (.error (.permanentProviderError errorCode)) ∈ h →
    ∀ x, r = .error x → ∀ (V : Type) claim,
      (WorkerRunner.finalizeOutcome claim (.error (.exception x)) : Runner V Unit).Issues
        fun e : RunnerEffect => e.isRetry = false
  retryable : ∀ e errorCode retryAfter,
    .answered e (.error (.retryableProviderError errorCode retryAfter)) ∈ h →
      r = .error (.retryableTaskError errorCode retryAfter)
  translated : ∀ x, r = .error x → x.isProviderError = false

/-- The run has ended in `x` with the first error of a provider. -/
inductive Faulty : SyncPast → Exn → Prop
  /-- It is translated at once. -/
  | read {e : Effect} {x : Exn} {h : SyncPast} (hquiet : Undisturbed h)
      (hx : x.isProviderError = true)
      (hread : ∀ errorCode, x = .permanentProviderError errorCode → ¬ReadsBack h e) :
      Faulty (.answered e (.error x) :: .issued e :: h) x.translated
  /-- It is a permanent one of the reconciliation, which nobody translates. -/
  | rejected {e : Effect} {errorCode : String} {h : SyncPast} (hquiet : Undisturbed h)
      (hread : ReadsBack h e) :
      Faulty (.answered e (.error (.permanentProviderError errorCode)) :: .issued e :: h)
        (.permanentProviderError errorCode)
  /-- The ledger has taken note of it. -/
  | recorded {e : Effect} {x : Exn} {h : SyncPast} {request : TransitionRequest}
      {a : ExternalAction} (hquiet : Undisturbed h) (hx : x.isProviderError = true)
      (hread : ∀ errorCode, x = .permanentProviderError errorCode → ¬ReadsBack h e) :
      Faulty (.answered (.transition request) (.ok a) :: .issued (.transition request) ::
        .answered e (.error x) :: .issued e :: h) x.translated
  /-- The ledger has refused to. -/
  | refused {e : Effect} {x y : Exn} {h : SyncPast} {request : TransitionRequest}
      (hquiet : Undisturbed h) (hx : x.isProviderError = true)
      (hread : ∀ errorCode, x = .permanentProviderError errorCode → ¬ReadsBack h e)
      (hprovider : y.isProviderError = false) (htask : y.isTaskError = false) :
      Faulty (.answered (.transition request) (.error y) :: .issued (.transition request) ::
        .answered e (.error x) :: .issued e :: h) y

/-- A program goes on only where no provider has raised an error. -/
def Settled {β : Type} (h : SyncPast) : Except Exn β → Prop
  | .ok _ => Undisturbed h
  | .error x => Undisturbed h ∧ x.isProviderError = false ∨ Faulty h x

section Pasts

variable {h : SyncPast} {e : Effect} {x : Exn}

lemma Orderly.suffix {h' : SyncPast} (hh : Orderly h') (hsuffix : h <:+ h') : Orderly h :=
  fun e x hmem => hh e x (hsuffix.subset hmem)

lemma undisturbed_nil : Undisturbed [] := fun _ _ hmem => absurd hmem List.not_mem_nil

lemma Undisturbed.issued (hh : Undisturbed h) (e : Effect) : Undisturbed (.issued e :: h) := by
  intro e' x hmem
  rcases List.mem_cons.1 hmem with heq | hmem
  · cases heq
  · exact hh e' x hmem

lemma Undisturbed.ok (hh : Undisturbed h) (a : e.Answer) :
    Undisturbed (.answered e (.ok a) :: .issued e :: h) := by
  intro e' x hmem
  rcases List.mem_cons.1 hmem with heq | hmem
  · cases heq
  · exact hh.issued e e' x hmem

lemma Undisturbed.error (hh : Undisturbed h) (hx : x.isProviderError = false) :
    Undisturbed (.answered e (.error x) :: .issued e :: h) := by
  intro e' y hmem
  rcases List.mem_cons.1 hmem with heq | hmem
  · cases heq
    exact hx
  · exact hh.issued e e' y hmem

/-- Where nothing was disturbed, no read was rejected and no record refused. -/
lemma Undisturbed.not_rejected (hh : Undisturbed h) : ¬ReconciliationRejected h := by
  rintro ⟨e, errorCode, earlier, hsuffix, -⟩
  exact absurd (hh e _ (hsuffix.subset List.mem_cons_self)) (by simp [Exn.isProviderError])

lemma Undisturbed.not_refused (hh : Undisturbed h) : ¬RecordRefused h := by
  rintro ⟨e, x, request, y, earlier, hsuffix, hx, -⟩
  have hmem : .answered e (.error x) ∈ h := hsuffix.subset (by simp)
  rw [hh e x hmem] at hx
  cases hx

/-- The only error of a provider in the past is `x`. -/
def OnlyError (h : SyncPast) (x : Exn) : Prop :=
  ∀ e' x', .answered e' (.error x') ∈ h → x'.isProviderError = true → x' = x

lemma Undisturbed.onlyError (hh : Undisturbed h) :
    OnlyError (.answered e (.error x) :: .issued e :: h) x := by
  intro e' x' hmem hx'
  rcases List.mem_cons.1 hmem with heq | hmem
  · cases heq
    rfl
  · rw [hh.issued e e' x' hmem] at hx'
    cases hx'

lemma OnlyError.cons {act : Act handlerSignature DeploymentContextResult} (hh : OnlyError h x)
    (hact : ∀ e' x', act = .answered e' (.error x') → x'.isProviderError = false) :
    OnlyError (act :: h) x := by
  intro e' x' hmem hx'
  rcases List.mem_cons.1 hmem with heq | hmem
  · rw [hact e' x' heq.symm] at hx'
    cases hx'
  · exact hh e' x' hmem hx'

lemma rejected_cons_iff {act : Act handlerSignature DeploymentContextResult}
    (hact : ∀ e errorCode, act ≠ .answered e (.error (.permanentProviderError errorCode))) :
    ReconciliationRejected (act :: h) ↔ ReconciliationRejected h := by
  constructor
  · rintro ⟨e, errorCode, earlier, hsuffix, hread⟩
    rcases List.suffix_cons_iff.1 hsuffix with heq | hsuffix
    · exact absurd (List.cons.inj heq).1.symm (hact e errorCode)
    · exact ⟨e, errorCode, earlier, hsuffix, hread⟩
  · rintro ⟨e, errorCode, earlier, hsuffix, hread⟩
    exact ⟨e, errorCode, earlier, hsuffix.trans (List.suffix_cons act h), hread⟩

/-- The error that ends an undisturbed run is all that may have been rejected. -/
lemma Undisturbed.rejected_iff (hh : Undisturbed h) :
    ReconciliationRejected (.answered e (.error x) :: .issued e :: h) ↔
      ∃ errorCode, x = .permanentProviderError errorCode ∧ ReadsBack h e := by
  constructor
  · rintro ⟨e', errorCode, earlier, hsuffix, hread⟩
    rcases List.suffix_cons_iff.1 hsuffix with heq | hsuffix
    · cases heq
      exact ⟨errorCode, rfl, hread⟩
    · exact absurd ⟨e', errorCode, earlier, hsuffix, hread⟩ (hh.issued e).not_rejected
  · rintro ⟨errorCode, rfl, hread⟩
    exact ⟨e, errorCode, h, List.suffix_refl _, hread⟩

lemma refused_cons_iff {act : Act handlerSignature DeploymentContextResult}
    (hact : ∀ request y, act ≠ .answered (.transition request) (.error y)) :
    RecordRefused (act :: h) ↔ RecordRefused h := by
  constructor
  · rintro ⟨e, x, request, y, earlier, hsuffix, hx⟩
    rcases List.suffix_cons_iff.1 hsuffix with heq | hsuffix
    · exact absurd (List.cons.inj heq).1.symm (hact request y)
    · exact ⟨e, x, request, y, earlier, hsuffix, hx⟩
  · rintro ⟨e, x, request, y, earlier, hsuffix, hx⟩
    exact ⟨e, x, request, y, earlier, hsuffix.trans (List.suffix_cons act h), hx⟩

/-- No record can have been refused before the first error. -/
lemma Undisturbed.error_not_refused (hh : Undisturbed h) :
    ¬RecordRefused (.answered e (.error x) :: .issued e :: h) := by
  rintro ⟨e', x', request, y, earlier, hsuffix, hx'⟩
  rcases List.suffix_cons_iff.1 hsuffix with heq | hsuffix
  · cases heq
    have hquiet := hh e' x' List.mem_cons_self
    rw [hquiet] at hx'
    cases hx'.1
  · exact (hh.issued e).not_refused ⟨e', x', request, y, earlier, hsuffix, hx'⟩

end Pasts

section Kept

variable {h : SyncPast} {e : Effect} {x y : Exn}

lemma Exn.translated_isProviderError : x.translated.isProviderError = false := by
  cases x <;> rfl

/-- The runner gives up on a permanent error. -/
lemma finalizeOutcome_permanent (V : Type) (claim : ClaimedTask) (errorCode : String) :
    (WorkerRunner.finalizeOutcome claim (.error (.exception (.permanentTaskError errorCode))) :
      Runner V Unit).Issues fun e : RunnerEffect => e.isRetry = false := by
  have hfence : ∀ fenceResult, (WorkerRunner.handleFailedFence claim fenceResult :
      Runner V Unit).Issues fun e : RunnerEffect => e.isRetry = false := by
    intro fenceResult
    cases fenceResult with
    | applied => trivial
    | cancellationRequested =>
      exact Prog.Issues.bind (Prog.issues_perform.2 rfl) fun _ => trivial
    | stale => trivial
  unfold WorkerRunner.finalizeOutcome WorkerRunner.finalizeFailurePolicy
  exact Prog.Issues.bind (Prog.issues_perform.2 rfl) hfence

/-- A run that ends with the translation of its error has kept it. -/
lemma OnlyError.kept (hh : OnlyError h x) : ErrorsKept h (.error x.translated) where
  permanent e errorCode hmem := by
    rw [← hh e _ hmem rfl]
    exact .inl rfl
  unretried e errorCode hmem y hy V claim := by
    rw [← hh e _ hmem rfl] at hy
    cases hy
    exact finalizeOutcome_permanent V claim errorCode
  retryable e errorCode retryAfter hmem := by
    rw [← hh e _ hmem rfl]
    rfl
  translated y hy := by
    cases hy
    exact Exn.translated_isProviderError

/-- So has one that ends with another error where the outcome of its write is unknown. -/
lemma OnlyError.kept_unknown {errorCode : String}
    (hh : OnlyError h (.providerWriteOutcomeUnknown errorCode)) (hy : y.isProviderError = false) :
    ErrorsKept h (.error y) where
  permanent e errorCode hmem := by cases hh e _ hmem rfl
  unretried e errorCode hmem := by cases hh e _ hmem rfl
  retryable e errorCode retryAfter hmem := by cases hh e _ hmem rfl
  translated z hz := by
    cases hz
    exact hy

lemma Undisturbed.kept {r : Except Exn DeploymentContextResult} (hh : Undisturbed h)
    (hr : ∀ x, r = .error x → x.isProviderError = false) : ErrorsKept h r where
  permanent e errorCode hmem := by cases hh e _ hmem
  unretried e errorCode hmem := by cases hh e _ hmem
  retryable e errorCode retryAfter hmem := by cases hh e _ hmem
  translated := hr

/-- An error of the database does not keep the error that it could not record. -/
lemma ErrorsKept.not_of_task (hmem : .answered e (.error x) ∈ h) (hx : x.isProviderError = true)
    (hknown : ∀ errorCode, x ≠ .providerWriteOutcomeUnknown errorCode)
    (hy : y.isTaskError = false) : ¬ErrorsKept h (.error y) := by
  intro hkept
  cases x with
  | retryableProviderError errorCode retryAfter =>
    cases hkept.retryable e errorCode retryAfter hmem
    cases hy
  | permanentProviderError errorCode =>
    rcases hkept.permanent e errorCode hmem with heq | ⟨result, heq, -⟩
    · cases heq
      cases hy
    · cases heq
  | providerWriteOutcomeUnknown errorCode => exact hknown errorCode rfl
  | _ => cases hx

/-- A faulty end keeps the error unless the reconciliation was rejected or the record refused. -/
lemma Faulty.kept_iff (hfaulty : Faulty h y) :
    ErrorsKept h (.error y) ↔ ¬ReconciliationRejected h ∧ ¬RecordRefused h := by
  cases hfaulty with
  | read hquiet hx hread =>
    refine iff_of_true (hquiet.onlyError.kept) ⟨?_, hquiet.error_not_refused⟩
    rw [hquiet.rejected_iff]
    rintro ⟨errorCode, heq, hreadsBack⟩
    exact hread errorCode heq hreadsBack
  | rejected hquiet hread =>
    refine iff_of_false (fun hkept => ?_)
      fun hnone => hnone.1 (hquiet.rejected_iff.2 ⟨_, rfl, hread⟩)
    cases hkept.translated _ rfl
  | @recorded e x h request a hquiet hx hread =>
    have honly : OnlyError (.answered (.transition request) (.ok a) ::
        .issued (.transition request) :: .answered e (.error x) :: .issued e :: h) x :=
      (hquiet.onlyError.cons (fun _ _ heq => by cases heq)).cons fun _ _ heq => by cases heq
    refine iff_of_true (honly.kept) ⟨?_, ?_⟩
    · rw [rejected_cons_iff (fun _ _ heq => by cases heq),
        rejected_cons_iff (fun _ _ heq => by cases heq), hquiet.rejected_iff]
      rintro ⟨errorCode, heq, hreadsBack⟩
      exact hread errorCode heq hreadsBack
    · rw [refused_cons_iff (fun _ _ heq => by cases heq),
        refused_cons_iff (fun _ _ heq => by cases heq)]
      exact hquiet.error_not_refused
  | @refused e x _ h request hquiet hx hread hprovider htask =>
    have honly : OnlyError (.answered (.transition request) (.error y) ::
        .issued (.transition request) :: .answered e (.error x) :: .issued e :: h) x :=
      (hquiet.onlyError.cons (fun _ _ heq => by cases heq)).cons fun _ _ heq => by
        cases heq
        exact hprovider
    have hnone : ¬ReconciliationRejected (.answered (.transition request) (.error y) ::
        .issued (.transition request) :: .answered e (.error x) :: .issued e :: h) := by
      rw [rejected_cons_iff (fun _ _ heq => by cases heq; cases hprovider),
        rejected_cons_iff (fun _ _ heq => by cases heq), hquiet.rejected_iff]
      rintro ⟨errorCode, heq, hreadsBack⟩
      exact hread errorCode heq hreadsBack
    by_cases hunknown : ∃ errorCode, x = .providerWriteOutcomeUnknown errorCode
    · obtain ⟨errorCode, rfl⟩ := hunknown
      refine iff_of_true (honly.kept_unknown hprovider) ⟨hnone, ?_⟩
      rintro ⟨e', x', request', y', earlier, hsuffix, hx', hknown⟩
      have hmem := hsuffix.subset (List.mem_cons_of_mem _ (List.mem_cons_of_mem _
        List.mem_cons_self))
      exact hknown errorCode (honly e' x' hmem hx')
    · push Not at hunknown
      have hmem : .answered e (.error x) ∈ (.answered (.transition request) (.error y) ::
          .issued (.transition request) :: .answered e (.error x) :: .issued e :: h : SyncPast) :=
        List.mem_cons_of_mem _ (List.mem_cons_of_mem _ List.mem_cons_self)
      refine iff_of_false (ErrorsKept.not_of_task hmem hx hunknown htask) fun hnot => ?_
      exact hnot.2 ⟨e, x, request, y, .issued e :: h, List.suffix_refl _, hx, hunknown⟩

lemma Settled.kept_iff {r : Except Exn DeploymentContextResult} (hsettled : Settled h r) :
    ErrorsKept h r ↔ ¬ReconciliationRejected h ∧ ¬RecordRefused h := by
  cases r with
  | ok result =>
    exact iff_of_true (Undisturbed.kept hsettled fun _ heq => by cases heq)
      ⟨Undisturbed.not_rejected hsettled, Undisturbed.not_refused hsettled⟩
  | error y =>
    rcases hsettled with ⟨hquiet, hy⟩ | hfaulty
    · refine iff_of_true (hquiet.kept fun x heq => ?_) ⟨hquiet.not_rejected, hquiet.not_refused⟩
      cases heq
      exact hy
    · exact hfaulty.kept_iff

end Kept

/-! ## The programs -/

/-- However the program runs on from the past `h₀`, it settles. -/
def Settles {β : Type} (h₀ : SyncPast) (p : Handler β) : Prop :=
  ∀ h r, Orderly h → p.Trace h₀ h r → Settled h r

section Programs

variable {β γ : Type} {h₀ : SyncPast} {e : Effect}

lemma settles_ret (hquiet : Undisturbed h₀) (a : β) : Settles h₀ (.ret a) := by
  rintro h r - ⟨rfl, rfl⟩
  exact hquiet

lemma settles_raise (hquiet : Undisturbed h₀) {x : Exn} (hx : x.isProviderError = false) :
    Settles h₀ (.raise x : Handler β) := by
  rintro h r - ⟨rfl, rfl⟩
  exact .inl ⟨hquiet, hx⟩

lemma settles_look {k : HandlerView → Handler β} (hk : ∀ s, Settles h₀ (k s)) :
    Settles h₀ (.look k) := by
  rintro h r horderly ⟨s, htrace⟩
  exact hk s h r horderly htrace

lemma settles_ofExcept (hquiet : Undisturbed h₀) {r : Except Exn β}
    (hr : ∀ x, r = .error x → x.isProviderError = false) : Settles h₀ (.ofExcept r) := by
  cases r with
  | ok a => exact settles_ret hquiet a
  | error x => exact settles_raise hquiet (hr x rfl)

/-- A program settles if its first part does, and the rest from wherever it may go on. -/
lemma Settles.bind_trace {p : Handler β} {f : β → Handler γ} (hp : Settles h₀ p)
    (hf : ∀ a h₁, p.Trace h₀ h₁ (.ok a) → Undisturbed h₁ → Settles h₁ (f a)) :
    Settles h₀ (p.bind f) := by
  intro h r horderly htrace
  rcases Prog.trace_bind htrace with ⟨x, hx, rfl⟩ | ⟨a, h₁, ha, hrest⟩
  · exact hp h (.error x) horderly hx
  · have hquiet : Undisturbed h₁ := hp h₁ (.ok a) (horderly.suffix hrest.suffix) ha
    exact hf a h₁ ha hquiet h r horderly hrest

lemma Settles.bind {p : Handler β} {f : β → Handler γ} (hp : Settles h₀ p)
    (hf : ∀ a h₁, Undisturbed h₁ → Settles h₁ (f a)) : Settles h₀ (p.bind f) :=
  hp.bind_trace fun a h₁ _ hquiet => hf a h₁ hquiet

lemma settles_raiseIfCancelled (hquiet : Undisturbed h₀) : Settles h₀ raiseIfCancelled := by
  refine settles_look fun s => ?_
  split
  · exact settles_raise hquiet rfl
  split
  · exact settles_raise hquiet rfl
  · exact settles_ret hquiet ()

lemma settles_raiseIfOwnershipLost (hquiet : Undisturbed h₀) :
    Settles h₀ raiseIfOwnershipLost := by
  refine settles_look fun s => ?_
  split
  · exact settles_raise hquiet rfl
  · exact settles_ret hquiet ()

/-- A check of the events leaves the past as it is. -/
lemma raiseIfCancelled_past {h : SyncPast} {r : Except Exn Unit}
    (htrace : raiseIfCancelled.Trace h₀ h r) : h = h₀ := by
  obtain ⟨s, htrace⟩ := htrace
  dsimp only at htrace
  split at htrace
  · exact htrace.1
  split at htrace
  · exact htrace.1
  · exact htrace.1

lemma settles_datetimeNow (hquiet : Undisturbed h₀) : Settles h₀ datetimeNow :=
  settles_look fun _ => settles_ret hquiet _

/-- An await that is no call to a connector, whose errors are handled. -/
lemma settles_attempt (hquiet : Undisturbed h₀) (he : e.isConnectorCall = false)
    {f : Except Exn e.Answer → Handler β}
    (hok : ∀ a h₁, Undisturbed h₁ → Settles h₁ (f (.ok a)))
    (herror : ∀ x h₁, Undisturbed h₁ → x.isProviderError = false → Settles h₁ (f (.error x))) :
    Settles h₀ ((perform e).attempt.bind f) := by
  rintro h r horderly ⟨answer, htrace⟩
  have hmay := horderly.suffix htrace.suffix
  cases answer with
  | ok a => exact hok a _ (hquiet.ok a) h r horderly htrace
  | error x =>
    have hx : x.isProviderError = false := by
      have := (hmay e x List.mem_cons_self).connector
      rw [he] at this
      simpa using this
    exact herror x _ (hquiet.error hx) hx h r horderly htrace

lemma settles_perform (hquiet : Undisturbed h₀) (he : e.isConnectorCall = false) :
    Settles h₀ (perform e) := by
  rintro h r horderly ⟨answer, htrace⟩
  have hmay := horderly.suffix htrace.suffix
  cases answer with
  | ok a => exact settles_ret (hquiet.ok a) a h r horderly htrace
  | error x =>
    have hx : x.isProviderError = false := by
      have := (hmay e x List.mem_cons_self).connector
      rw [he] at this
      simpa using this
    exact settles_raise (hquiet.error hx) hx h r horderly htrace

/-- A read through `_provider_call` is none of the reconciliation. -/
lemma settles_providerCall (hquiet : Undisturbed h₀) (hread : ¬ReadsBack h₀ e)
    (hwrite : e.isCommentWrite = false) : Settles h₀ (providerCall e) := by
  rintro h r horderly ⟨answer, htrace⟩
  have hmay := horderly.suffix htrace.suffix
  cases answer with
  | ok a => exact settles_ret (hquiet.ok a) a h r horderly htrace
  | error x =>
    by_cases hx : x.isProviderError = true
    · have hfaulty : Faulty (.answered e (.error x) :: .issued e :: h₀) x.translated :=
        .read hquiet hx fun _ _ => hread
      cases x with
      | retryableProviderError errorCode retryAfter =>
        obtain ⟨rfl, rfl⟩ := htrace
        exact .inr hfaulty
      | permanentProviderError errorCode =>
        obtain ⟨rfl, rfl⟩ := htrace
        exact .inr hfaulty
      | providerWriteOutcomeUnknown errorCode =>
        have := (hmay e _ List.mem_cons_self).write errorCode rfl
        rw [hwrite] at this
        cases this
      | _ => cases hx
    · rw [Bool.not_eq_true] at hx
      have hraise : Settles (.answered e (.error x) :: .issued e :: h₀)
          (.raise x : Handler e.Answer) := settles_raise (hquiet.error hx) hx
      refine hraise h r horderly ?_
      cases x <;> first | exact htrace | cases hx

section Delivery

open SlackDeliveryService

variable {settings : Settings} {task : TaskExecution} {a : ExternalAction}
  {providerRequest : SlackMessageRequest} {desiredFingerprint : Digest}

lemma settles_result (hquiet : Undisturbed h₀) {state : SlackDeliveryState}
    {errorCode : Option String} : Settles h₀ (SlackDeliveryService.result state a errorCode) :=
  (settles_ofExcept hquiet clean_actionReference).bind fun _ _ hquiet =>
    settles_ofExcept hquiet clean_validate

/-- An outcome is recorded and reported. -/
lemma settles_report (hquiet : Undisturbed h₀) {request : TransitionRequest}
    {state : SlackDeliveryState} {errorCode : Option String} :
    Settles h₀ ((perform (.transition request)).bind fun action =>
      raiseIfCancelled.bind fun _ => SlackDeliveryService.result state action errorCode) :=
  (settles_perform hquiet rfl).bind fun _ _ hquiet =>
    (settles_raiseIfCancelled hquiet).bind fun _ _ hquiet => settles_result hquiet

variable [Runtime]

lemma settles_post (hquiet : Undisturbed h₀) :
    Settles h₀ (post settings task a providerRequest desiredFingerprint) := by
  refine (settles_raiseIfCancelled hquiet).bind fun _ _ hquiet => ?_
  refine (settles_perform hquiet rfl).bind fun _ _ hquiet => ?_
  refine (settles_raiseIfCancelled hquiet).bind fun _ _ hquiet => ?_
  refine settles_attempt hquiet rfl (fun _ _ hquiet => ?_) fun x _ hquiet hx => ?_
  · exact (settles_raiseIfOwnershipLost hquiet).bind fun _ _ hquiet => settles_report hquiet
  · dsimp only
    split
    · exact (settles_raiseIfOwnershipLost hquiet).bind fun _ _ hquiet => settles_report hquiet
    · exact (settles_raiseIfOwnershipLost hquiet).bind fun _ _ hquiet => settles_report hquiet
    · exact (settles_raiseIfOwnershipLost hquiet).bind fun _ _ hquiet => settles_report hquiet
    case h_4 heq =>
      cases heq
      exact settles_raise hquiet hx
    case h_5 heq => cases heq

lemma settles_verifyAndPost (hquiet : Undisturbed h₀) :
    Settles h₀ (verifyAndPost settings task a providerRequest desiredFingerprint) := by
  refine (settles_raiseIfCancelled hquiet).bind fun _ _ hquiet => ?_
  refine settles_attempt hquiet rfl (fun identityVerified _ hquiet => ?_) fun x _ hquiet hx => ?_
  · refine (settles_raiseIfCancelled hquiet).bind fun _ _ hquiet => ?_
    cases identityVerified with
    | true => exact settles_post hquiet
    | false => exact settles_report hquiet
  · dsimp only
    split
    · exact (settles_raiseIfCancelled hquiet).bind fun _ _ hquiet => settles_report hquiet
    · exact (settles_raiseIfCancelled hquiet).bind fun _ _ hquiet => settles_report hquiet
    case h_3 heq =>
      cases heq
      exact settles_raise hquiet hx
    case h_4 heq => cases heq

lemma settles_deliverReserved (hquiet : Undisturbed h₀) (reservation : ActionReservation) :
    Settles h₀ (deliverReserved settings task providerRequest desiredFingerprint reservation) := by
  unfold deliverReserved
  dsimp only
  split
  · exact settles_result hquiet
  split
  · exact settles_result hquiet
  · exact settles_result hquiet
  · exact settles_result hquiet
  · exact settles_result hquiet
  · exact (settles_raiseIfCancelled hquiet).bind fun _ _ hquiet =>
      (settles_perform hquiet rfl).bind fun _ _ hquiet => settles_result hquiet
  · refine (settles_perform hquiet rfl).bind fun delay _ hquiet => ?_
    refine (settles_raiseIfCancelled hquiet).bind fun _ _ hquiet => ?_
    split
    · exact settles_result hquiet
    · exact settles_verifyAndPost hquiet
  · exact settles_verifyAndPost hquiet
  · exact settles_verifyAndPost hquiet
  · exact settles_verifyAndPost hquiet

lemma settles_deliver (hquiet : Undisturbed h₀) (request : SlackDeliveryRequest) :
    Settles h₀ (deliver settings task request) := by
  refine (settles_raiseIfCancelled hquiet).bind fun _ _ hquiet => ?_
  refine (settles_ofExcept hquiet clean_render).bind fun _ _ hquiet => ?_
  refine (settles_ofExcept hquiet clean_messageRequest).bind fun _ _ hquiet => ?_
  refine (settles_ofExcept hquiet clean_slackActionScopeKey).bind fun _ _ hquiet => ?_
  refine (settles_ofExcept hquiet clean_slackSnapshot).bind fun _ _ hquiet => ?_
  exact (settles_perform hquiet rfl).bind fun reservation _ hquiet =>
    settles_deliverReserved hquiet reservation

end Delivery

section Comment

variable {repository marker : String} {issueNumber : ℤ} {action : ExternalAction}
  {settings : Settings} {task : TaskExecution} {publication : Publication}

/-- How the search for the comment ends: the errors of the providers come of its own reads, but for
the holdoff. -/
structure Searched (h : SyncPast) (r : Except Exn (Option GitHubComment)) : Prop where
  ok : ∀ comment, r = .ok comment → Undisturbed h
  error : ∀ x, r = .error x →
    Undisturbed h ∧ (x.isProviderError = false ∨
      ∃ errorCode retryAfter, x = .retryableProviderError errorCode retryAfter) ∨
    ∃ e h₁, h = .answered e (.error x) :: .issued e :: h₁ ∧ Undisturbed h₁ ∧
      x.isProviderError = true ∧ ReadsBack h₁ e ∧ e.isCommentWrite = false

lemma searched_ok {h : SyncPast} (hquiet : Undisturbed h) (comment : Option GitHubComment) :
    Searched h (.ok comment) where
  ok _ _ := hquiet
  error _ heq := by cases heq

lemma searched_error {h : SyncPast} (hquiet : Undisturbed h) {x : Exn}
    (hx : x.isProviderError = false) : Searched h (.error x) where
  ok _ heq := by cases heq
  error y heq := by
    cases heq
    exact .inl ⟨hquiet, .inl hx⟩

/-- A read of the reconciliation that fails. -/
lemma searched_read (hquiet : Undisturbed h₀) {x : Exn} (hread : ReadsBack h₀ e)
    (hwrite : e.isCommentWrite = false) : Searched (.answered e (.error x) :: .issued e :: h₀)
      (.error x) where
  ok _ heq := by cases heq
  error y heq := by
    cases heq
    by_cases hx : x.isProviderError = true
    · exact .inr ⟨e, h₀, rfl, hquiet, hx, hread, hwrite⟩
    · rw [Bool.not_eq_true] at hx
      exact .inl ⟨hquiet.error hx, .inl hx⟩

lemma searched_boundComment (hquiet : Undisturbed h₀) {identifier : String} {h : SyncPast}
    {r : Except Exn (Option GitHubComment)}
    (hdetached : ReadsBack h₀ (.getComment repository identifier))
    (htrace : (boundComment repository identifier marker).Trace h₀ h r) : Searched h r := by
  obtain ⟨answer, htrace⟩ := htrace
  cases answer with
  | error x =>
    obtain ⟨rfl, rfl⟩ := htrace
    exact searched_read hquiet hdetached rfl
  | ok comment =>
    cases comment with
    | none =>
      obtain ⟨rfl, rfl⟩ := htrace
      exact searched_error (hquiet.ok _) rfl
    | some comment =>
      change (if substring marker comment.body then _ else _ : Handler _).Trace _ h r at htrace
      split at htrace
      · obtain ⟨rfl, rfl⟩ := htrace
        exact searched_ok (hquiet.ok _) _
      · obtain ⟨rfl, rfl⟩ := htrace
        exact searched_error (hquiet.ok _) rfl

lemma searched_searchComments (hquiet : Undisturbed h₀) {h : SyncPast}
    {r : Except Exn (Option GitHubComment)}
    (htrace : (searchComments repository issueNumber marker).Trace h₀ h r) : Searched h r := by
  obtain ⟨answer, htrace⟩ := htrace
  cases answer with
  | error x =>
    obtain ⟨rfl, rfl⟩ := htrace
    exact searched_read hquiet trivial rfl
  | ok search =>
    change (if !search.complete then _ else _ : Handler _).Trace _ h r at htrace
    split at htrace
    · obtain ⟨rfl, rfl⟩ := htrace
      exact searched_error (hquiet.ok _) rfl
    split at htrace
    · obtain ⟨rfl, rfl⟩ := htrace
      exact searched_error (hquiet.ok _) rfl
    · obtain ⟨rfl, rfl⟩ := htrace
      exact searched_ok (hquiet.ok _) _

lemma settles_holdoff (hquiet : Undisturbed h₀) : Settles h₀ (reconciliationHoldoff action) := by
  unfold reconciliationHoldoff
  split
  · exact settles_perform hquiet rfl
  · exact settles_ret hquiet 0

lemma Searched.of_holdoff {h : SyncPast} {x : Exn} (horderly : Orderly h) (hquiet : Undisturbed h₀)
    (htrace : (reconciliationHoldoff action).Trace h₀ h (.error x)) : Searched h (.error x) := by
  unfold reconciliationHoldoff at htrace
  split at htrace
  · obtain ⟨answer, htrace⟩ := htrace
    cases answer with
    | ok delay => cases htrace.2
    | error y =>
      obtain ⟨rfl, hxy⟩ := htrace
      cases hxy
      have hmay := (horderly _ x List.mem_cons_self).connector
      have hx : x.isProviderError = false := by
        by_contra hnot
        rw [Bool.not_eq_false] at hnot
        cases hmay hnot
      exact searched_error (hquiet.error hx) hx
  · cases htrace.2

lemma searched_reconcileComment (hquiet : Undisturbed h₀) {h : SyncPast}
    {r : Except Exn (Option GitHubComment)} (horderly : Orderly h)
    (hdetached : ∀ identifier, ReadsBack h₀ (.getComment repository identifier))
    (htrace : (reconcileComment action repository issueNumber marker).Trace h₀ h r) :
    Searched h r := by
  unfold reconcileComment at htrace
  split at htrace
  · exact searched_boundComment hquiet (hdetached _) htrace
  rcases Prog.trace_bind htrace with ⟨x, hx, rfl⟩ | ⟨holdoff, h₁, hdelay, hrest⟩
  · exact .of_holdoff horderly hquiet hx
  have hquiet₁ : Undisturbed h₁ :=
    settles_holdoff hquiet h₁ (.ok holdoff) (horderly.suffix hrest.suffix) hdelay
  split at hrest
  · obtain ⟨rfl, rfl⟩ := hrest
    refine ⟨fun _ heq => (by cases heq), fun x heq => ?_⟩
    cases heq
    exact .inl ⟨hquiet₁, .inr ⟨_, _, rfl⟩⟩
  · exact searched_searchComments hquiet₁ hrest

/-- The ledger takes note of an error, or refuses to. -/
lemma settles_recorded {x : Exn} {request : TransitionRequest} (hquiet : Undisturbed h₀)
    (hx : x.isProviderError = true)
    (hread : ∀ errorCode, x = .permanentProviderError errorCode → ¬ReadsBack h₀ e) :
    Settles (.answered e (.error x) :: .issued e :: h₀)
      ((perform (.transition request)).bind fun _ => .raise x.translated : Handler β) := by
  rintro h r horderly ⟨answer, htrace⟩
  cases answer with
  | ok a =>
    obtain ⟨rfl, rfl⟩ := htrace
    exact .inr (.recorded hquiet hx hread)
  | error y =>
    obtain ⟨rfl, rfl⟩ := htrace
    have hmay := horderly (.transition request) y List.mem_cons_self
    have hy : Exn.isProviderError y = false := by
      by_contra hnot
      rw [Bool.not_eq_false] at hnot
      cases hmay.connector hnot
    exact .inr (.refused hquiet hx hread hy (hmay.transaction rfl))

variable [Runtime]

omit [Runtime] in
/-- A write whose errors are handled. -/
lemma settles_attemptWrite {f : Except Exn GitHubComment → Handler β} (hquiet : Undisturbed h₀)
    (hok : ∀ comment h₁, Undisturbed h₁ → Settles h₁ (f (.ok comment)))
    (herror : ∀ (e : Effect) x h₁, Undisturbed h₁ →
      e.isCommentWrite = true → x.isProviderError = true →
      Settles (.answered e (.error x) :: .issued e :: h₁) (f (.error x)))
    (hother : ∀ x h₁, Undisturbed h₁ → x.isProviderError = false → Settles h₁ (f (.error x))) :
    Settles h₀ ((writeComment publication action).attempt.bind f) := by
  have hanswer : ∀ (e : Effect) (x : Exn), e.isCommentWrite = true →
      Settles (.answered e (.error x) :: .issued e :: h₀) (f (.error x)) := by
    intro e x he
    by_cases hx : x.isProviderError = true
    · exact herror e x h₀ hquiet he hx
    · rw [Bool.not_eq_true] at hx
      exact hother x _ (hquiet.error hx) hx
  unfold writeComment
  split
  · rintro h r horderly ⟨answer, htrace⟩
    cases answer with
    | ok comment =>
      have hquiet₁ := hquiet.ok (e := .createComment publication.repository
        publication.issueNumber publication.body) comment
      exact hok comment _ hquiet₁ h r horderly htrace
    | error x => exact hanswer _ x rfl h r horderly htrace
  case h_2 identifier _ =>
    rintro h r horderly ⟨answer, htrace⟩
    cases answer with
    | ok comment =>
      have hquiet₁ := hquiet.ok (e := .updateComment publication.repository identifier
        publication.body) comment
      exact hok comment _ hquiet₁ h r horderly htrace
    | error x => exact hanswer _ x rfl h r horderly htrace

omit [Runtime] in
lemma not_readsBack_of_isCommentWrite (he : e.isCommentWrite = true) : ¬ReadsBack h₀ e := by
  cases e <;> first | exact id | cases he

omit [Runtime] in
/-- A confirmed comment is recorded and reported. -/
lemma settles_success (hquiet : Undisturbed h₀) {request : TransitionRequest} :
    Settles h₀ (raiseIfOwnershipLost.bind fun _ => (perform (.transition request)).bind fun a =>
      raiseIfCancelled.bind fun _ =>
        .ofExcept (successResult publication.decision publication.references a)) := by
  refine (settles_raiseIfOwnershipLost hquiet).bind fun _ _ hquiet => ?_
  refine (settles_perform hquiet rfl).bind fun _ _ hquiet => ?_
  exact (settles_raiseIfCancelled hquiet).bind fun _ _ hquiet =>
    settles_ofExcept hquiet clean_successResult

lemma settles_applyWrite (hquiet : Undisturbed h₀) :
    Settles h₀ (applyWrite settings task publication action) := by
  refine (settles_perform hquiet rfl).bind fun _ _ hquiet => ?_
  refine (settles_raiseIfCancelled hquiet).bind fun _ _ hquiet => ?_
  refine (settles_perform hquiet rfl).bind fun started h₁ hquiet => ?_
  refine (settles_raiseIfCancelled hquiet).bind fun _ h₁ hquiet => ?_
  refine settles_attemptWrite hquiet (fun comment _ hquiet => settles_success hquiet)
    (fun e x h₂ hquiet he hx => ?_) fun x _ hquiet hx => ?_
  · have hread : ∀ errorCode, x = .permanentProviderError errorCode → ¬ReadsBack h₂ e :=
      fun _ _ => not_readsBack_of_isCommentWrite he
    cases x with
    | providerWriteOutcomeUnknown errorCode => exact settles_recorded hquiet hx hread
    | retryableProviderError errorCode retryAfter => exact settles_recorded hquiet hx hread
    | permanentProviderError errorCode => exact settles_recorded hquiet hx hread
    | _ => cases hx
  · dsimp only
    split
    case h_1 heq =>
      cases heq
      cases hx
    case h_2 heq =>
      cases heq
      cases hx
    case h_3 heq =>
      cases heq
      cases hx
    case h_4 heq =>
      cases heq
      exact settles_raise hquiet hx
    case h_5 heq => cases heq

lemma settles_applyReconciled (hquiet : Undisturbed h₀) (existing : Option GitHubComment) :
    Settles h₀ (applyReconciled settings task publication action existing) := by
  cases existing with
  | none => exact settles_applyWrite hquiet
  | some comment =>
    unfold applyReconciled
    dsimp only
    split
    · split
      · exact settles_applyWrite hquiet
      · exact (settles_perform hquiet rfl).bind fun _ _ hquiet =>
          settles_ofExcept hquiet clean_actionReviewResult
    · exact settles_success hquiet

/-- The past does not end with a reservation that found the action changed. -/
def Detached (h : SyncPast) : Prop := ∀ request reservation earlier,
  h = .answered (.reserveOrGet request) (.ok reservation) :: earlier → reservation.kind ≠ .changed

omit [Runtime] in
lemma detached_start {h : SyncPast} {started : ExternalAction} (hdetached : Detached h₀)
    (htrace : (startReconciliation task action).Trace h₀ h (.ok started)) : Detached h := by
  unfold startReconciliation at htrace
  split at htrace
  · obtain ⟨rfl, -⟩ := htrace
    exact hdetached
  · obtain ⟨answer, htrace⟩ := htrace
    cases answer with
    | ok a =>
      obtain ⟨rfl, -⟩ := htrace
      intro request reservation earlier heq
      cases heq
    | error x => cases htrace.2

omit [Runtime] in
lemma settles_startReconciliation (hquiet : Undisturbed h₀) :
    Settles h₀ (startReconciliation task action) := by
  unfold startReconciliation
  split
  · exact settles_ret hquiet _
  · exact settles_perform hquiet rfl

/-- A search that has been given up for another reason than an error of a provider. -/
lemma settles_searchError {x : Exn} (hquiet : Undisturbed h₀)
    (hx : x.isProviderError = false ∨
      ∃ errorCode retryAfter, x = .retryableProviderError errorCode retryAfter) :
    Settles h₀ (match (.error x : Except Exn (Option GitHubComment)) with
      | .error (.retryableProviderError errorCode retryAfter) => do
        let _ ← perform (.transition (reconciliationRetryableFailure task action errorCode))
        .raise (.retryableTaskError errorCode retryAfter)
      | .error (.reconciliationNeedsReview code safeReason) => do
        let action ← perform (.transition (reconciliationNeedsHumanReview task action code))
        .ofExcept (actionReviewResult publication.decision publication.references action code
          safeReason)
      | .error x => .raise x
      | .ok existing => applyReconciled settings task publication action existing) := by
  cases x with
  | retryableProviderError errorCode retryAfter =>
    exact (settles_perform hquiet rfl).bind fun _ _ hquiet => settles_raise hquiet rfl
  | reconciliationNeedsReview code safeReason =>
    exact (settles_perform hquiet rfl).bind fun _ _ hquiet =>
      settles_ofExcept hquiet clean_actionReviewResult
  | permanentProviderError errorCode =>
    rcases hx with hx | ⟨_, _, hx⟩ <;> cases hx
  | providerWriteOutcomeUnknown errorCode =>
    rcases hx with hx | ⟨_, _, hx⟩ <;> cases hx
  | _ => exact settles_raise hquiet rfl

lemma settles_reconcileAndApply (hquiet : Undisturbed h₀) (hdetached : Detached h₀) :
    Settles h₀ (reconcileAndApply settings task publication action) := by
  refine (settles_startReconciliation hquiet).bind_trace fun started h₁ hstart hquiet => ?_
  have hdetached₁ := detached_start hdetached hstart
  refine (settles_raiseIfCancelled hquiet).bind_trace fun _ h₂ hchecked hquiet => ?_
  have hdetached₂ : Detached h₂ := raiseIfCancelled_past hchecked ▸ hdetached₁
  intro h r horderly htrace
  obtain ⟨r₁, h₃, hsearch, hrest⟩ := Prog.trace_attempt_bind htrace
  have hsearched := searched_reconcileComment hquiet (horderly.suffix hrest.suffix)
    (fun identifier => hdetached₂) hsearch
  cases r₁ with
  | ok existing =>
    exact settles_applyReconciled (hsearched.ok _ rfl) existing h r horderly hrest
  | error x =>
    rcases hsearched.error x rfl with ⟨hquiet₃, hx⟩ | ⟨e, h₄, rfl, hquiet₄, hx, hread, hwrite⟩
    · exact settles_searchError hquiet₃ hx h r horderly hrest
    · cases x with
      | retryableProviderError errorCode retryAfter =>
        exact settles_recorded hquiet₄ hx (fun _ heq => by cases heq) h r horderly hrest
      | permanentProviderError errorCode =>
        obtain ⟨rfl, rfl⟩ := hrest
        exact .inr (.rejected hquiet₄ hread)
      | providerWriteOutcomeUnknown errorCode =>
        have hmay := (horderly.suffix hrest.suffix) e _ List.mem_cons_self
        rw [hmay.write errorCode rfl] at hwrite
        cases hwrite
      | _ => cases hx

/-- The read of a revision comes directly after the reservation. -/
lemma settles_prepareControlledRevision (hquiet : Undisturbed h₀) (hchanged : ¬Detached h₀)
    {service : ServiceCatalogRecord} {snapshotHash : Digest} :
    Settles h₀ (prepareControlledRevision task publication action service snapshotHash) := by
  unfold prepareControlledRevision
  split
  case h_1 identifier _ =>
    split
    · exact settles_ofExcept hquiet clean_actionReviewResult.map
    · refine (settles_raiseIfCancelled hquiet).bind_trace fun _ h₁ hchecked hquiet => ?_
      rw [raiseIfCancelled_past hchecked] at hquiet ⊢
      have hread : ¬ReadsBack h₀ (.getComment publication.repository identifier) := hchanged
      refine (settles_providerCall hquiet hread rfl).bind fun existing _ hquiet => ?_
      split
      · exact settles_ofExcept hquiet clean_actionReviewResult.map
      · refine (settles_raiseIfCancelled hquiet).bind fun _ _ hquiet => ?_
        exact (settles_perform hquiet rfl).bind fun _ _ hquiet => settles_ret hquiet _
  · exact settles_ofExcept hquiet clean_actionReviewResult.map

omit [Runtime] in
lemma detached_revised {h : SyncPast} {request : RevisionRequest} {revised : ExternalAction}
    (htrace : ((perform (.revise request)).bind fun a =>
      (.ret (.inl a) : Handler (ExternalAction ⊕ DeploymentContextResult))).Trace h₀ h
        (.ok (.inl revised))) : Detached h := by
  obtain ⟨answer, htrace⟩ := htrace
  cases answer with
  | ok a =>
    obtain ⟨rfl, -⟩ := htrace
    intro request reservation earlier heq
    cases heq
  | error x => cases htrace.2

lemma detached_prepared {h : SyncPast} {service : ServiceCatalogRecord} {snapshotHash : Digest}
    {revised : ExternalAction}
    (htrace : (prepareControlledRevision task publication action service snapshotHash).Trace h₀ h
      (.ok (.inl revised))) : Detached h := by
  have hreview : ∀ {r : Except Exn DeploymentContextResult} {h₁ : SyncPast},
      ¬(Prog.ofExcept (r.map .inr) : Handler (ExternalAction ⊕ DeploymentContextResult)).Trace h₁ h
        (.ok (.inl revised)) := by
    intro r h₁ htrace
    cases r with
    | ok result => cases htrace.2
    | error x => cases htrace.2
  unfold prepareControlledRevision at htrace
  split at htrace
  · split at htrace
    · exact absurd htrace hreview
    · rcases Prog.trace_bind htrace with ⟨x, -, heq⟩ | ⟨_, h₁, -, htrace⟩
      · cases heq
      rcases Prog.trace_bind htrace with ⟨x, -, heq⟩ | ⟨existing, h₂, -, htrace⟩
      · cases heq
      split at htrace
      · exact absurd htrace hreview
      · rcases Prog.trace_bind htrace with ⟨x, -, heq⟩ | ⟨_, h₃, -, htrace⟩
        · cases heq
        exact detached_revised htrace
  · exact absurd htrace hreview

lemma settles_applyReservation {reservation : ActionReservation}
    (hquiet : Undisturbed h₀) (hkind : Detached h₀ ↔ reservation.kind ≠ .changed)
    {service : ServiceCatalogRecord} {snapshotHash : Digest} :
    Settles h₀ (applyReservation settings task publication service snapshotHash reservation) := by
  unfold applyReservation
  dsimp only
  split
  · exact settles_ofExcept hquiet clean_actionReviewResult
  split
  case isTrue hchanged =>
    have hnot : ¬Detached h₀ := fun hdetached => hkind.1 hdetached hchanged
    refine (settles_prepareControlledRevision hquiet hnot).bind_trace
      fun prepared h₁ htrace hquiet => ?_
    cases prepared with
    | inl revised => exact settles_reconcileAndApply hquiet (detached_prepared htrace)
    | inr result => exact settles_ret hquiet result
  case isFalse hchanged =>
    split
    · exact settles_ofExcept hquiet clean_successResult
    split
    · exact settles_ofExcept hquiet clean_actionReviewResult
    · exact settles_reconcileAndApply hquiet (hkind.2 hchanged)

end Comment

section Execution

variable [Runtime] {handler : DeploymentContextSyncHandler} {task : TaskExecution}
  {taskInput : DeploymentContextSyncInput} {evaluation : PolicyEvaluation}
  {service : ServiceCatalogRecord} {github : GitHubRepositoryContext} {jira : JiraWorkItem}
  {references : List SourceReference}

omit [Runtime] in
lemma settles_reserve (hquiet : Undisturbed h₀) (request : ReservationRequest) :
    Settles h₀ (reserve request) := by
  refine settles_attempt hquiet rfl (fun reservation _ hquiet => settles_ret hquiet reservation)
    fun x h₁ hquiet hx => ?_
  cases x with
  | executionInvariantError message =>
    exact (settles_raiseIfCancelled hquiet).bind fun _ _ hquiet => settles_raise hquiet rfl
  | _ => exact settles_raise hquiet hx

omit [Runtime] in
/-- A reservation is the last thing in the past, once it has been made. -/
lemma detached_reserved {h : SyncPast} {request : ReservationRequest}
    {reservation : ActionReservation}
    (htrace : (reserve request).Trace h₀ h (.ok reservation)) :
    Detached h ↔ reservation.kind ≠ .changed := by
  obtain ⟨r₁, h₁, hperform, hrest⟩ := Prog.trace_attempt_bind htrace
  cases r₁ with
  | ok reservation' =>
    obtain ⟨rfl, heq⟩ := hrest
    cases heq
    obtain ⟨answer, hperform⟩ := hperform
    cases answer with
    | ok reservation'' =>
      obtain ⟨rfl, heq⟩ := hperform
      cases heq
      constructor
      · intro hdetached
        exact hdetached request reservation _ rfl
      · intro hkind request' reservation' earlier heq
        cases heq
        exact hkind
    | error x => cases hperform.2
  | error x =>
    cases x with
    | executionInvariantError message =>
      rcases Prog.trace_bind hrest with ⟨y, -, heq⟩ | ⟨_, h₂, -, hraise⟩
      · cases heq
      · cases hraise.2
    | _ => cases hrest.2

lemma settles_publish (hquiet : Undisturbed h₀) :
    Settles h₀ (publish handler task taskInput evaluation service github jira references) := by
  refine (settles_ofExcept hquiet clean_actionScopeKey).bind fun scope _ hquiet => ?_
  refine (settles_ofExcept hquiet clean_githubComment).bind fun body _ hquiet => ?_
  refine (settles_raiseIfCancelled hquiet).bind fun _ _ hquiet => ?_
  refine (settles_reserve hquiet _).bind_trace fun reservation _ htrace hquiet => ?_
  refine (settles_applyReservation hquiet (detached_reserved htrace)).bind fun result _ hquiet => ?_
  exact settles_ret hquiet _

omit [Runtime] in
lemma settles_reviewExit (hquiet : Undisturbed h₀) {code : DecisionReasonCode} {reason : String}
    {outcome : DecisionOutcome} :
    Settles h₀ (reviewExit evaluation references code reason outcome) :=
  (settles_datetimeNow hquiet).bind fun _ _ hquiet => settles_ret hquiet _

omit [Runtime] in
lemma settles_recordJira (hquiet : Undisturbed h₀) {classification : DataClassification} :
    Settles h₀ (recordJira task jira classification) :=
  (settles_datetimeNow hquiet).bind fun _ _ hquiet =>
    (settles_perform hquiet rfl).bind fun _ _ hquiet => settles_ret hquiet _

omit [Runtime] in
lemma settles_recordGithub (hquiet : Undisturbed h₀) : Settles h₀ (recordGithub task github) :=
  (settles_datetimeNow hquiet).bind fun _ _ hquiet =>
    (settles_perform hquiet rfl).bind fun _ _ hquiet => settles_ret hquiet _

omit [Runtime] in
lemma settles_recordCatalog (hquiet : Undisturbed h₀) (records : List ServiceCatalogRecord) :
    Settles h₀ (recordCatalog task records) := by
  induction records generalizing h₀ with
  | nil => exact settles_ret hquiet []
  | cons record records ih =>
    refine (settles_datetimeNow hquiet).bind fun _ _ hquiet => ?_
    refine (settles_perform hquiet rfl).bind fun _ _ hquiet => ?_
    exact (ih hquiet).bind fun _ _ hquiet => settles_ret hquiet _

lemma settles_readJira (hquiet : Undisturbed h₀) :
    Settles h₀ (readJira handler task taskInput evaluation service github references) := by
  refine (settles_raiseIfCancelled hquiet).bind fun _ _ hquiet => ?_
  refine (settles_providerCall hquiet id rfl).bind fun jira _ hquiet => ?_
  refine (settles_raiseIfCancelled hquiet).bind fun _ _ hquiet => ?_
  split
  · exact settles_reviewExit hquiet
  · exact (settles_recordJira hquiet).bind fun _ _ hquiet => settles_publish hquiet

lemma settles_readGithub (hquiet : Undisturbed h₀) :
    Settles h₀ (readGithub handler task taskInput evaluation service references) := by
  refine (settles_raiseIfCancelled hquiet).bind fun _ _ hquiet => ?_
  refine (settles_providerCall hquiet id rfl).bind fun identityVerified _ hquiet => ?_
  split
  · exact settles_reviewExit hquiet
  refine (settles_providerCall hquiet id rfl).bind fun github _ hquiet => ?_
  refine (settles_raiseIfCancelled hquiet).bind fun _ _ hquiet => ?_
  split
  · exact settles_reviewExit hquiet
  split
  · exact settles_reviewExit hquiet
  refine (settles_recordGithub hquiet).bind fun _ _ hquiet => ?_
  split
  · exact settles_reviewExit hquiet
  split
  · exact settles_reviewExit hquiet
  split
  · exact settles_reviewExit hquiet
  · exact settles_readJira hquiet

lemma settles_readCatalog (hquiet : Undisturbed h₀) :
    Settles h₀ (readCatalog handler task taskInput) := by
  refine (settles_providerCall hquiet id rfl).bind fun records _ hquiet => ?_
  refine (settles_raiseIfCancelled hquiet).bind fun _ _ hquiet => ?_
  refine (settles_recordCatalog hquiet records).bind fun _ _ hquiet => ?_
  split
  · exact (settles_datetimeNow hquiet).bind fun _ _ hquiet => settles_ret hquiet _
  split
  · exact settles_raise hquiet rfl
  · exact settles_readGithub hquiet

lemma settles_authoritative (hquiet : Undisturbed h₀) :
    Settles h₀ (authoritative handler task taskInput) := by
  refine (settles_ofExcept hquiet clean_validateSlackRequest).bind fun _ _ hquiet => ?_
  refine (settles_raiseIfCancelled hquiet).bind fun _ _ hquiet => ?_
  split
  · exact (settles_datetimeNow hquiet).bind fun _ _ hquiet => settles_ret hquiet _
  · exact settles_readCatalog hquiet

lemma settles_finish (hquiet : Undisturbed h₀) (exit : Exit) :
    Settles h₀ (finish handler task taskInput exit) := by
  unfold finish
  split
  · exact settles_ret hquiet _
  split
  · exact settles_ret hquiet _
  · refine (settles_raiseIfCancelled hquiet).bind fun _ _ hquiet => ?_
    split
    · exact settles_raise hquiet rfl
    · exact (settles_deliver hquiet _).bind fun _ _ hquiet => settles_ret hquiet _

lemma settles_execute [LaxCoercion] (hquiet : Undisturbed h₀) (input : JsonValue) :
    Settles h₀ (handler.execute task input) := by
  unfold execute
  split
  · exact settles_raise hquiet rfl
  · exact (settles_authoritative hquiet).bind fun exit _ hquiet => settles_finish hquiet exit

end Execution

end Programs

/-! ## Any number of runs -/

section Run

variable [Runtime] {S M J : Type}

/-- The calls of the providers raise what they may raise. -/
def Provider.Orderly (providers : Provider S M) : Prop :=
  ∀ m now e s outcome s', e.isTransaction = false →
    providers.respond m now e s = some (outcome, s') → ∀ x, outcome = .error x → e.MayRaise x

variable {setup : Setup J DeploymentContextResult} {providers : Provider S M} {db : Database}
  {now : Timestamp} {s : S} {moves : List (Move J (Choice M))}
  {c : Config handlerSignature DeploymentContextResult (World S DeploymentContextResult)}

lemma mayRaise_of_exec (hproviders : providers.Orderly) {i : ℕ} {e : Effect} {choice : Choice M}
    {w w' : World S DeploymentContextResult} {r : Outcome e}
    (hexec : (machine setup providers).exec i e choice w = some (r, w')) :
    ∀ x, r = .error x → e.MayRaise x := by
  intro x hx
  simp only [machine] at hexec
  split at hexec
  · split at hexec
    · obtain ⟨⟨r', db'⟩, hrun, heq⟩ := Option.map_eq_some_iff.1 hexec
      cases heq
      obtain ⟨hprovider, htask⟩ := stored_execute hrun x hx
      refine ⟨fun h => ?_, fun errorCode heq => ?_, fun _ => htask⟩
      · rw [hprovider] at h
        cases h
      · rw [heq] at hprovider
        cases hprovider
    · cases hexec
  · split at hexec
    · cases hexec
    case isFalse htransaction =>
      obtain ⟨⟨r', s'⟩, hrespond, heq⟩ := Option.map_eq_some_iff.1 hexec
      cases heq
      exact hproviders _ _ _ _ _ _ (by simpa using htransaction) hrespond x hx
  · cases hexec

lemma orderly_run (hproviders : providers.Orderly)
    (hrun : (machine setup providers).run (Config.init (World.initial db now s)) moves = some c)
    (i : ℕ) : Orderly (past i c.world.log) := by
  intro e x hmem
  exact answers_run (Q := fun e r => ∀ x, r = .error x → e.MayRaise x)
    (fun i e choice w r w' hexec => mayRaise_of_exec hproviders hexec)
    hrun i e (.error x) hmem x rfl

/-- A run of the workflow keeps the errors of the providers if and only if no read of its
reconciliation has raised a permanent one, and the ledger has recorded those that it is told of. -/
theorem errors_kept_iff [LaxCoercion] {tasks : J → SyncTask} {tick : Timestamp → Timestamp → Bool}
    {maximumBytes : ℕ} (hproviders : providers.Orderly)
    (hrun : (machine (syncTasks tasks tick maximumBytes) providers).run
      (Config.init (World.initial db now s)) moves = some c) (i : ℕ) {h : SyncPast}
    {r : Except Exn DeploymentContextResult} (hended : past i c.world.log = .ended r :: h) :
    ErrorsKept h r ↔ ¬ReconciliationRejected h ∧ ¬RecordRefused h := by
  have horderly : Orderly h := by
    have hpast := orderly_run hproviders hrun i
    rw [hended] at hpast
    exact hpast.suffix (List.suffix_cons _ h)
  rcases past_unfolds hrun i with hempty | ⟨j, -, hunfolds⟩
  · rw [hended] at hempty
    cases hempty
  · rw [hended] at hunfolds
    have htrace : (tasks j).run.Trace [] h r :=
      Prog.Unfolds.trace (fun _ hmem => absurd hmem List.not_mem_nil) hunfolds
    exact (settles_execute undisturbed_nil _ h r horderly htrace).kept_iff

end Run

namespace Sample

/-- Providers that may raise any error that is theirs. -/
def heeded : Provider Unit ((e : Effect) → Outcome e) where
  issue _ _ s := s
  respond m _ e s :=
    match m e with
    | .ok a => some (.ok a, s)
    | .error (.providerWriteOutcomeUnknown errorCode) =>
      if e.isCommentWrite then some (.error (.providerWriteOutcomeUnknown errorCode), s) else none
    | .error x => if x.isProviderError && !e.isConnectorCall then none else some (.error x, s)
  act _ _ _ := none

lemma heeded_orderly : heeded.Orderly := by
  intro m now e s outcome s' htransaction h x hx
  have hcall : e.isCommentWrite = true → e.isConnectorCall = true := by
    cases e <;> first | exact fun _ => rfl | exact fun h => (by cases h)
  simp only [heeded] at h
  split at h
  · cases h
    cases hx
  · split at h
    case isTrue hwrite =>
      cases h
      cases hx
      exact ⟨fun _ => hcall hwrite, fun _ _ => hwrite, fun h => by rw [htransaction] at h; cases h⟩
    · cases h
  case h_3 y hunknown hy =>
    split at h
    · cases h
    case isFalse hheeded =>
      cases h
      cases hx
      refine ⟨fun hprovider => ?_, fun errorCode heq => ?_, fun h => by
        rw [htransaction] at h; cases h⟩
      · simpa [hprovider] using hheeded
      · exact absurd heq (hunknown errorCode)

attribute [local instance] syncHost laxCoercion

def runHeeded (moves : List SlackMove) :
    Option (Config handlerSignature DeploymentContextResult
      (World Unit DeploymentContextResult)) :=
  (machine (syncTasks syncTask (fun now later => decide (now ≤ later)) 65536) heeded).run
    (Config.init (World.initial database 0 ())) moves

/-- GitHub forbids the search for the comment. -/
def rejected : List SlackMove :=
  readSources 0 1 ++ reply 0 (.error (.permanentProviderError "provider_identity_rejected"))

def isRejected : SyncPast → Bool
  | .ended (.error (.permanentProviderError _)) :: _ => true
  | _ => false

set_option maxRecDepth 100000 in
lemma runHeeded_rejected :
    ((runHeeded rejected).any fun c => isRejected (past 0 c.world.log)) = true := by
  decide +kernel

end Sample

attribute [local instance] Sample.syncHost Sample.laxCoercion in
open Sample in
/-- Where the search for the comment is forbidden, the error leaves the run as it is. -/
theorem rejection_escapes : ¬∀ moves c h r, runHeeded moves = some c →
    past 0 c.world.log = .ended r :: h → ErrorsKept h r := by
  intro hkept
  have hrun := runHeeded_rejected
  simp only [Option.any_eq_true] at hrun
  obtain ⟨c, hc, hrejected⟩ := hrun
  unfold isRejected at hrejected
  split at hrejected
  case h_1 errorCode h hpast => cases (hkept rejected c h _ hc hpast).translated _ rfl
  case h_2 => cases hrejected

attribute [local instance] Sample.syncHost Sample.laxCoercion in
open Sample in
theorem errors_kept_iff_rejected : ∃ c h r, runHeeded rejected = some c ∧
    past 0 c.world.log = .ended r :: h ∧
    (ErrorsKept h r ↔ ¬ReconciliationRejected h ∧ ¬RecordRefused h) := by
  have hrun := runHeeded_rejected
  simp only [Option.any_eq_true] at hrun
  obtain ⟨c, hc, hrejected⟩ := hrun
  unfold isRejected at hrejected
  split at hrejected
  case h_1 errorCode h hpast =>
    exact ⟨c, h, _, hc, hpast, errors_kept_iff heeded_orderly hc 0 hpast⟩
  case h_2 => cases hrejected

end DeploymentLab
