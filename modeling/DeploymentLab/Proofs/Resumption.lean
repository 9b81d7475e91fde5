import DeploymentLab.Proofs.RowWalk
import DeploymentLab.Proofs.Raised
import DeploymentLab.Proofs.Convergence

/-!
# Taking up the row that an attempt has left behind

An attempt may stop at any await and leave its row in any status. The next one that is given the
row resumes it, unless the row was left ready to be written: from there nothing that
`_reconcile_and_apply` may do is a transition that expects the row as it is.
-/

namespace DeploymentLab

open Interaction DeploymentContextSyncHandler ExternalActionRepository

/-- The transition finds its row in one of the statuses that it expects. -/
def FindsExpected (db : Database) (request : TransitionRequest) : Prop :=
  ∃ row, db.action request.actionId = some row ∧ row.status ∈ request.expectedStatuses

/-- A transition of the reconciliation expects the row as the run holds it, unless the row that was
replayed had been left ready to be written. -/
def resumeScript : Script handlerSignature DeploymentContextResult
  | h, .issued (.transition request) =>
    TransitionRequest.transition request ∈ reconcileTransitions → RowAlone h →
      ∀ action, replayed h = some action → ∃ row, (returnedActions h).head? = some row ∧
        row.id = request.actionId ∧
        (row.status ∈ request.expectedStatuses ↔ action.status ≠ .readyToExecute)
  | _, _ => True

/-- The run holds the row as `current`, in the status `status`. A row that was replayed as ready to
be written is still so, and the run believes it to be reconciling. -/
structure StandsAt (status : ExternalActionStatus) (h : SyncPast) (current : ExternalAction) :
    Prop where
  head : (returnedActions h).head? = some current
  resumes : RowAlone h → ∀ action, replayed h = some action →
    (action.status ≠ .readyToExecute ∧ current.status = status) ∨
      (action.status = .readyToExecute ∧ current.status = .readyToExecute ∧ status = .reconciling)

section Standing

variable {status : ExternalActionStatus} {h : SyncPast} {current : ExternalAction}
  {request : TransitionRequest}

/-- An await that returns no row. -/
lemma StandsAt.await {e : Effect} {r : Outcome e} (hstands : StandsAt status h current)
    (hrows : returnedActions (.answered e r :: .issued e :: h) = returnedActions h)
    (hreplayed : replayed (.answered e r :: .issued e :: h) = replayed h) :
    StandsAt status (.answered e r :: .issued e :: h) current where
  head := by rw [hrows]; exact hstands.head
  resumes halone action haction := by
    rw [hreplayed] at haction
    exact hstands.resumes halone.of_cons.of_cons action haction

lemma StandsAt.expects (hstands : StandsAt status h current) (hid : request.actionId = current.id)
    (hexpected : request.expectedStatuses = [status]) :
    resumeScript h (.issued (.transition request)) := by
  intro _ halone action haction
  refine ⟨current, hstands.head, hid.symm, ?_⟩
  rw [hexpected, List.mem_singleton]
  rcases hstands.resumes halone action haction with ⟨hready, hcurrent⟩ | ⟨hready, hcurrent, hstatus⟩
  · exact ⟨fun _ => hready, fun _ => hcurrent⟩
  · rw [hcurrent, hstatus]
    exact ⟨fun heq => (by cases heq), fun hne => absurd hready hne⟩

/-- After a transition that has succeeded, the row is in the new status. -/
lemma StandsAt.transition (hstands : StandsAt status h current) (request : TransitionRequest)
    (a : ExternalAction) (hid : request.actionId = current.id)
    (hexpected : request.expectedStatuses = [status]) :
    StandsAt request.newStatus
      (.answered (.transition request) (.ok a) :: .issued (.transition request) :: h) a where
  head := rfl
  resumes halone action haction := by
    obtain ⟨hfound, now, rfl⟩ := halone.last hstands.head hid.symm
    rw [hexpected, List.mem_singleton] at hfound
    rcases hstands.resumes halone.of_cons.of_cons action haction with
      ⟨hready, -⟩ | ⟨-, hcurrent, hstatus⟩
    · exact .inl ⟨hready, rfl⟩
    · rw [hcurrent, hstatus] at hfound
      cases hfound

lemma resumeScript_walks {desired : Digest} : Walks resumeScript desired StandsAt where
  free h e he := by
    cases e <;> trivial
  await e r he hstands := by
    refine hstands.await ?_ ?_
    · cases e <;> first | rfl | cases he
    · cases e <;> first | rfl | cases he
  issue hstands hsteps := hstands.expects hsteps.id hsteps.expected
  step a hstands hsteps := hstands.transition _ a hsteps.id hsteps.expected

end Standing

section Reconciling

variable [Runtime] {settings : Settings} {task : TaskExecution} {publication : Publication}
  {action current : ExternalAction} {h : SyncPast}

omit [Runtime] in
lemma startReconciliation_resumes (hhead : (returnedActions h).head? = some action)
    (hreplayed : ∀ a, replayed h = some a → a = action ∧ action.status ∉ settledStatuses) :
    (startReconciliation task action).Emits resumeScript
      (fun h r => ∀ current, r = .ok current → StandsAt .reconciling h current) h := by
  unfold startReconciliation
  split
  · rename_i hstatus
    intro current hcurrent
    obtain rfl := Except.ok.inj hcurrent
    refine ⟨hhead, fun _ a ha => ?_⟩
    obtain ⟨rfl, -⟩ := hreplayed a ha
    rcases hstatus with hstatus | hstatus
    · exact .inl ⟨by rw [hstatus]; decide, hstatus⟩
    · exact .inr ⟨hstatus, hstatus, rfl⟩
  · rename_i hstatus
    refine Prog.emits_perform.2 ⟨fun _ _ a ha => ?_, fun r current hcurrent => ?_⟩
    · obtain ⟨rfl, hopen⟩ := hreplayed a ha
      refine ⟨a, hhead, rfl, fun _ hready => hstatus (.inr hready), fun _ => ?_⟩
      simp only [reconciliationStarted, List.mem_cons, List.not_mem_nil, or_false]
      simp only [settledStatuses, List.mem_cons, List.not_mem_nil, or_false] at hopen
      cases hrow : a.status <;> simp_all
    · subst hcurrent
      refine ⟨rfl, fun halone a ha => ?_⟩
      obtain ⟨rfl, -⟩ := hreplayed a ha
      obtain ⟨-, now, rfl⟩ := halone.last hhead rfl
      exact .inl ⟨fun hready => hstatus (.inr hready), rfl⟩

lemma resumeScript_resumes : Resumes resumeScript := by
  intro settings task publication action h _ hhanded
  exact resumeScript_walks.reconcileAndApply
    (startReconciliation_resumes hhanded.head hhanded.replayed)

omit [Runtime] in
lemma resumeScript_free (h : SyncPast) (e : Effect) (he : e.reconciles = false) :
    resumeScript h (.issued e) := by
  cases e with
  | transition request =>
    intro hmem
    have hcontains : reconcileTransitions.contains request.transition = true := by simpa using hmem
    rw [Effect.reconciles, hcontains] at he
    cases he
  | record | reserveOrGet | revise | reconciliationDelaySeconds | fetchRecords
  | verifyGitHubIdentity | fetchContext | getComment | findCommentsByMarker | createComment
  | updateComment | fetchIssue | verifySlackIdentity | postNotification => trivial

end Reconciling

/-- Since handler `i` has started, no other handler has done anything. -/
def runsAlone {ρ : Type} (i : ℕ) : List (Event ρ) → Bool
  | [] => false
  | .started k _ :: _ => k == i
  | event :: log => event.actor == i && runsAlone i log

section Run

variable {S M J : Type} {setup : Setup J DeploymentContextResult} {providers : Provider S M}
  {script : Script handlerSignature DeploymentContextResult}

/-- A run that has been alone since its start has its row in hand. -/
def AloneInHand (w : World S DeploymentContextResult) : Prop :=
  ∀ i, runsAlone i w.log = true → InHand w.database (past i w.log)

/-- An event of a run, which ends the time that any other run is alone. -/
lemma AloneInHand.event {w w' : World S DeploymentContextResult} {i : ℕ}
    {event : Event DeploymentContextResult} (hw : AloneInHand w) (hlog : w'.log = event :: w.log)
    (hactor : event.actor = i) (hevent : ∀ k t, event ≠ .started k t)
    (hhand : InHand w.database (past i w.log) → InHand w'.database (past i w'.log)) :
    AloneInHand w' := by
  intro k halone
  rw [hlog] at halone
  have hboth : event.actor = k ∧ runsAlone k w.log = true := by
    cases event with
    | started j t => exact absurd rfl (hevent j t)
    | issued | executed | ended => simpa [runsAlone] using halone
  obtain rfl : i = k := hactor.symm.trans hboth.1
  exact hhand (hw i hboth.2)

variable [Runtime]

lemma aloneInHand_preserves : (machine setup providers).Preserves (fun i w => past i w.log)
    (fun i w => setup.Turn i w.log) script AloneInHand where
  issue i e w hw hmoves _ := by
    refine hw.event (i := i) rfl rfl (fun k t heq => by cases heq) fun hhand => ?_
    change InHand w.database (past i (.issued i w.now e :: w.log))
    rw [past_issued]
    exact hhand.cons (fun _ => rfl) rfl fun _ _ heq => by cases heq
  exec i e c w r w' h hw hmoves hpast _ hexec := by
    have hlog := log_of_exec hexec
    refine hw.event (i := i) hlog rfl (fun k t heq => by cases heq) fun hhand => ?_
    rw [hlog, past_executed]
    exact hhand.exec hexec
  returned i e r w hw := hw
  finish i r w hw hmoves _ := by
    refine hw.event (i := i) rfl rfl (fun k t heq => by cases heq) fun hhand => ?_
    change InHand w.database (past i (.ended i r :: w.log))
    rw [past_ended]
    exact hhand.cons (fun _ => rfl) rfl fun _ _ heq => by cases heq
  env c w w' hw henv i halone := by
    rw [log_of_env henv] at halone ⊢
    exact (hw i halone).env henv
  spawn n j w w' hw hempty hspawn i halone := by
    cases hspawn
    obtain rfl : n = i := by simpa [runsAlone] using halone
    change InHand w.database (past n (.started n w.now :: w.log))
    change past n w.log = [] at hempty
    rw [past_started, hempty]
    exact ⟨rowAlone_nil, fun row hhead => by cases hhead⟩

end Run

section Transition

variable {db : Database} {request : TransitionRequest} {now : Timestamp} {history : UUID}

lemma requireOneRow_raises {rowcount : ℕ} :
    Raises (· ≠ stateChanged) (requireOneRow rowcount "external action transition") := by
  unfold requireOneRow
  split
  · refine raises_error fun heq => ?_
    have hmessage :=
      congrArg (fun s : String => s.toList.take 24) (Exn.executionInvariantError.inj heq)
    rw [String.append_assoc] at hmessage
    simp only [String.toList_append] at hmessage
    rw [List.take_append_of_le_length (by decide)] at hmessage
    exact absurd hmessage (by decide)
  · exact raises_ok

lemma requireConstraints_raises (constraints : List (String × Bool)) :
    Raises (· ≠ stateChanged) (requireConstraints constraints) := by
  induction constraints with
  | nil => exact raises_ok
  | cons c constraints ih =>
    obtain ⟨name, holds⟩ := c
    unfold requireConstraints
    split
    · exact ih
    · exact raises_error fun heq => by cases heq

lemma lockAction_raises {id : UUID} : Raises (· ≠ stateChanged) (lockAction db id) := by
  unfold lockAction
  split
  · exact raises_ok
  · exact raises_error fun heq => by cases heq

lemma assertActiveFence_raises {fence : ExecutionFence} :
    Raises (· ≠ stateChanged) (assertActiveFence db fence now) := by
  unfold assertActiveFence
  split
  · exact raises_ok
  · exact raises_error fun heq => absurd (Exn.executionInvariantError.inj heq) (by decide)

lemma appendAttempt_raises {attempt : ExternalActionAttempt} :
    Raises (· ≠ stateChanged) (appendAttempt db attempt) := by
  refine (requireConstraints_raises _).bind fun _ => ?_
  split
  · exact raises_ok
  · exact raises_error fun heq => by cases heq

/-- A row that is as expected is not reported to have changed. -/
lemma FindsExpected.raises (hfinds : FindsExpected db request) :
    Raises (· ≠ stateChanged) (transition db now history request) := by
  obtain ⟨row, hrow, hstatus⟩ := hfinds
  have hlock : lockAction db request.actionId = .ok row := lockAction_eq_ok.2 hrow
  unfold transition
  dsimp only
  split
  · exact raises_error fun heq => by cases heq
  split
  · exact raises_error fun heq => by cases heq
  refine assertActiveFence_raises.bind fun _ => ?_
  rw [hlock]
  change Raises _ (if row.status ∉ request.expectedStatuses then _ else _)
  rw [if_neg (not_not.2 hstatus)]
  refine Raises.bind ((requireConstraints_raises _).bind fun _ => raises_ok) fun updated => ?_
  refine requireOneRow_raises.bind fun _ => ?_
  refine appendAttempt_raises.bind fun _ => ?_
  exact lockAction_raises.bind fun _ => raises_ok

lemma FindsExpected.of_ok {a : ExternalAction} {db' : Database}
    (h : transition db now history request = .ok (a, db')) : FindsExpected db request := by
  obtain ⟨-, row, hrow, hstatus, -, -⟩ := transition_ok h
  exact ⟨row, hrow, hstatus⟩

end Transition

/-! ## A row that is taken up -/

namespace Sample

attribute [local instance] syncHost laxCoercion

/-- The row that handler 1 has just been given, given to it as a replay. -/
def settleReplay (c : Config handlerSignature DeploymentContextResult
    (World Unit DeploymentContextResult)) : Config handlerSignature DeploymentContextResult
      (World Unit DeploymentContextResult) where
  world := { c.world with
    log := match c.world.log with
      | .executed i t (.reserveOrGet request) (.ok reservation) :: log =>
        .executed i t (.reserveOrGet request) (.ok ⟨reservation.action, .replay⟩) :: log
      | log => log }
  thread := Function.update c.thread 1 (match c.thread 1 with
    | .answered (.reserveOrGet request) (.ok reservation) k =>
      .answered (.reserveOrGet request) (.ok ⟨reservation.action, .replay⟩) k
    | thread => thread)
  count := c.count

/-- What has been given as a replay need not be settled. -/
lemma settleReplay_of_exec {c₀ c : Config handlerSignature DeploymentContextResult
      (World Unit DeploymentContextResult)} {choice : Choice ((e : Effect) → Outcome e)}
    (hstep : sourceMachine.step c₀ (.exec 1 choice) = some c) {t : Timestamp}
    {request : ReservationRequest} {reservation : ActionReservation}
    {log : List (Event DeploymentContextResult)}
    (hlog : c.world.log = .executed 1 t (.reserveOrGet request) (.ok reservation) :: log)
    (hkind : reservation.kind = .replay) : settleReplay c = c := by
  simp only [Machine.step] at hstep
  split at hstep
  · rename_i e k hthread
    obtain ⟨⟨r, w⟩, hexec, rfl⟩ := Option.map_eq_some_iff.1 hstep
    change w.log = _ at hlog
    rw [log_of_exec hexec] at hlog
    obtain ⟨hevent, -⟩ := List.cons.inj hlog
    cases hevent
    obtain ⟨action, kind⟩ := reservation
    obtain rfl : kind = .replay := hkind
    have hw : w.log = .executed 1 _ (.reserveOrGet request) (.ok ⟨action, .replay⟩) :: _ :=
      log_of_exec hexec
    simp [settleReplay, Machine.put, hw]
    rw [← hw]
  · cases hstep

/-- The row that the second task is given is the one that the first one has made. -/
lemma settleReplay_bothReserve {c : Config handlerSignature DeploymentContextResult
    (World Unit DeploymentContextResult)} (hc : runSources bothReserve = some c)
    (hgiven : givenTwice c.world.log = true) : settleReplay c = c := by
  simp only [givenTwice, Bool.and_eq_true] at hgiven
  obtain ⟨⟨hhead, htail⟩, hrevised⟩ := hgiven
  obtain ⟨event', hevent', hgives⟩ := Option.any_eq_true .. |>.1 hhead
  obtain ⟨t', request', reservation', rfl, hgithub'⟩ := givesRow_eq_true hgives
  obtain ⟨event, hmem, hmakes⟩ := List.any_eq_true.1 htail
  obtain ⟨t, request, reservation, rfl, hgithub, hcreated⟩ := makesRow_eq_true hmakes
  have hunfolds := past_of_job hc (i := 0) (j := 1) rfl
  have hunfolds' := past_of_job hc (i := 1) (j := 2) rfl
  have hanswered := answered_mem_past.2 ⟨t, List.mem_of_mem_tail hmem⟩
  have hanswered' := answered_mem_past.2 ⟨t', List.mem_of_mem_head? hevent'⟩
  have hsame := sameKeys_of_sources hunfolds hunfolds' (storeAnswers_run hc 0)
    (storeAnswers_run hc 1) rfl rfl (runSources_same hc hc 0 1)
    (hunfolds.issued hanswered fun hnil => by cases hnil)
    (hunfolds'.issued hanswered' fun hnil => by cases hnil) hgithub hgithub'
  obtain ⟨mid, earlier, hsplit⟩ := List.append_of_mem hmem
  have hlog := (List.cons_head?_tail hevent').symm
  have hsub : mid ⊆ c.world.log := by
    rw [hlog, hsplit]
    exact fun _ hmem => List.mem_cons_of_mem _ (List.mem_append_left _ hmem)
  have hreplay := ((rowsStand_run hc).replays [] 1 t' request' reservation' mid 0 t request
    reservation earlier (by rw [hlog, hsplit]; rfl) hsame (.inl hcreated)
    (unrevised_of_all _ hrevised hsub)).1
  rw [runSources, bothReserve, Machine.run_append, Option.bind_eq_some_iff] at hc
  obtain ⟨c₀, -, hlast⟩ := hc
  obtain ⟨c₁, hstep, heq⟩ := Option.bind_eq_some_iff.1 hlast
  cases heq
  exact settleReplay_of_exec hstep hlog hreplay

/-- Handler 1 awaits the transition `name`, alone, of a row that it has been given again. -/
def takesUp (name : String) (c : Config handlerSignature DeploymentContextResult
    (World Unit DeploymentContextResult)) : Bool :=
  (match c.thread 1 with
    | .waiting (.transition request) _ => request.transition == name
    | _ => false) && runsAlone 1 c.world.log &&
  (replayed (past 1 c.world.log)).any fun action => action.status == .reconciling

/-- The search for the comment fails. -/
def searchFails : List SlackMove :=
  [.resume 1] ++ reply 1 (.error (.retryableProviderError "github_unavailable" none))

set_option maxRecDepth 100000 in
lemma runSources_takesUp : (((runSources bothReserve).filter fun c => givenTwice c.world.log).bind
    fun c => sourceMachine.run (settleReplay c) searchFails).any
      (takesUp "reconciliation_retryable_failure") = true := by
  decide +kernel

end Sample

/-- Whatever earlier attempts have left behind, an attempt that runs alone and has been given a row
again finds it as each of its transitions expects it, unless the row was left ready to be written.
Then none does. -/
theorem replayed_found_iff [Runtime] [LaxCoercion] {S M J : Type} {providers : Provider S M}
    {tasks : J → SyncTask} {tick : Timestamp → Timestamp → Bool} {maximumBytes : ℕ}
    {db : Database} {now : Timestamp} {s : S} {moves : List (Move J (Choice M))}
    {c : Config handlerSignature DeploymentContextResult (World S DeploymentContextResult)}
    (hrun : (machine (syncTasks tasks tick maximumBytes) providers).run
      (Config.init (World.initial db now s)) moves = some c) {i : ℕ}
    {request : TransitionRequest}
    {k : Outcome (.transition request) → Handler DeploymentContextResult}
    (hwaits : c.thread i = .waiting (.transition request) k)
    (hreconciles : request.transition ∈ reconcileTransitions)
    (halone : runsAlone i c.world.log = true) {action : ExternalAction}
    (hreplayed : replayed (past i c.world.log) = some action) :
    (FindsExpected c.world.database request ↔ action.status ≠ .readyToExecute) ∧
      (action.status ≠ .readyToExecute → ∀ now history,
        transition c.world.database now history request ≠ .error stateChanged) ∧
      (action.status = .readyToExecute → ∀ now history result,
        transition c.world.database now history request ≠ .ok result) := by
  have hkeeps : ∀ j, ((syncTasks tasks tick maximumBytes).job j).Keeps resumeScript [] :=
    fun j => Prog.emits_mono (execute_resumes resumeScript_free resumeScript_resumes)
      fun _ _ _ => trivial
  have hinit : AloneInHand (World.initial db now s : World S DeploymentContextResult) :=
    fun _ halone => by cases halone
  have hend := machine_records.run aloneInHand_preserves hkeeps hinit (fun _ => rfl) hrun
  have hhand := hend.inv i halone
  have hthread := hend.keeps i
  rw [hwaits] at hthread
  obtain ⟨earlier, hpast, hscript, -⟩ := hthread
  rw [hpast] at hhand hreplayed
  obtain ⟨row, hhead, hid, hiff⟩ := hscript hreconciles hhand.alone.of_cons action hreplayed
  have hcurrent : c.world.database.action request.actionId = some row :=
    hid ▸ hhand.current row hhead
  have hfound : FindsExpected c.world.database request ↔ action.status ≠ .readyToExecute := by
    refine Iff.trans ⟨?_, fun hstatus => ⟨row, hcurrent, hstatus⟩⟩ hiff
    rintro ⟨row', hrow', hstatus⟩
    obtain rfl : row = row' := Option.some.inj (hcurrent.symm.trans hrow')
    exact hstatus
  refine ⟨hfound, fun hopen now history heq => ?_, fun hready now history result heq => ?_⟩
  · exact (hfound.2 hopen).raises _ heq rfl
  · exact hfound.1 (.of_ok heq) hready

attribute [local instance] Sample.syncHost Sample.laxCoercion in
open Sample in
theorem replayed_found_iff_second : ∃ c request k action,
    runSources (bothReserve ++ searchFails) = some c ∧
      c.thread 1 = .waiting (.transition request) k ∧
      replayed (past 1 c.world.log) = some action ∧ action.status = .reconciling ∧
      FindsExpected c.world.database request := by
  have hrun := runSources_takesUp
  simp only [Option.any_eq_true, Option.bind_eq_some_iff, Option.filter_eq_some_iff] at hrun
  obtain ⟨c, ⟨c₁, ⟨hc₁, hgiven⟩, hc⟩, htakes⟩ := hrun
  rw [settleReplay_bothReserve hc₁ hgiven] at hc
  have hrun : runSources (bothReserve ++ searchFails) = some c := by
    rw [runSources, Machine.run_append, Option.bind_eq_some_iff]
    exact ⟨c₁, hc₁, hc⟩
  unfold takesUp at htakes
  split at htakes
  · rename_i request k hthread
    simp only [Bool.and_eq_true, beq_iff_eq, Option.any_eq_true] at htakes
    obtain ⟨⟨hname, halone⟩, action, haction, hstatus⟩ := htakes
    refine ⟨c, request, k, action, hrun, hthread, haction, hstatus, ?_⟩
    refine (replayed_found_iff hrun hthread ?_ halone haction).1.2 ?_
    · rw [hname]
      decide
    · rw [hstatus]
      decide
  · simp at htakes

end DeploymentLab
