import DeploymentLab.Proofs.RunnerScript
import DeploymentLab.Proofs.TaskInvariant

/-!
# A stop cause can never become success

Whatever the order in which a handler, its heartbeats, its timers and the shutdown of its worker
come to their ends, the runner reads the result of a handler that is done, and calls the finalisers
that the stop cause allows.
-/

namespace DeploymentLab

open Interaction Transactions WorkerRunner

variable {V : Type}

namespace Fleet

variable {w : Fleet V} {i k : ℕ} {x : Execution V}

@[simp] lemma set_self : (w.set i x).execution i = x := by simp [set]

lemma set_of_ne (h : k ≠ i) : (w.set i x).execution k = w.execution k := by simp [set, h]

end Fleet

/-- What an answer says of the execution that gets it. -/
def Answers (x : Execution V) : (e : RunnerEffect) → Except Raised (e.Answer V) → Prop
  | .wait, r => x.completed.isEmpty = false ∧ r = .ok x.completed
  | .waitForGrace, r => r = .ok { x.completed with shutdown := false }
  | .handlerResult, r => r = x.handler.getD (.error .otherException)
  | _, _ => True

/-- The operation that a finaliser asks for. -/
inductive Performs : RunnerEffect → Operation → Prop
  | success (now : Timestamp) (claim : ClaimedTask) (result : JsonValue) :
    Performs (.finalizeSuccess claim result) (.finalizeSuccess now claim result)
  | retry (now retryNow : Timestamp) (claim : ClaimedTask) (delay : Duration)
    (errorCode errorSummary terminalReason : String) :
    Performs (.scheduleRetry claim delay errorCode errorSummary terminalReason)
      (.scheduleRetry now retryNow claim delay errorCode errorSummary terminalReason)
  | failure (now : Timestamp) (claim : ClaimedTask)
    (errorCode errorSummary terminalReason : String) :
    Performs (.finalizeFailure claim errorCode errorSummary terminalReason)
      (.finalizeFailure now claim errorCode errorSummary terminalReason)
  | cancellation (now : Timestamp) (claim : ClaimedTask) :
    Performs (.finalizeCancellation claim) (.finalizeCancellation now claim)

/-- What the execution of an await does: it touches no other execution and no handler, and the
tables only as the finaliser asks. -/
structure FleetExecutes [Runtime] (settings : CoordinationSettings) (w : Fleet V) (i : ℕ)
    (e : RunnerEffect) (r : Except Raised (e.Answer V)) (w' : Fleet V) : Prop where
  other : ∀ k, k ≠ i → w'.execution k = w.execution k
  past : (w'.execution i).past = .answered e r :: (w.execution i).past
  handler : (w'.execution i).handler = (w.execution i).handler
  answer : Answers (w.execution i) e r
  shared : w'.shared = w.shared ∨
    ∃ op, Performs e op ∧ (coordination settings).step w.shared op = some w'.shared

section

variable [Runtime] {settings : CoordinationSettings} {w w' : Fleet V} {i : ℕ} {e : RunnerEffect}
  {c : FleetChoice V}

lemma transact_cases {op : Timestamp → Timestamp → Operation} {r : Except Raised FenceResult}
    (h : w.transact settings op c = some (r, w')) : w'.execution = w.execution ∧
      (w'.shared = w.shared ∨ ∃ now retryNow,
        (coordination settings).step w.shared (op now retryNow) = some w'.shared) := by
  unfold Fleet.transact at h
  split at h
  · obtain ⟨c, hstep, heq⟩ := Option.map_eq_some_iff.1 h
    cases heq
    exact ⟨rfl, .inr ⟨_, _, hstep⟩⟩
  · obtain ⟨c, hstep, heq⟩ := Option.map_eq_some_iff.1 h
    cases heq
    exact ⟨rfl, .inr ⟨_, _, hstep⟩⟩
  · cases h
    exact ⟨rfl, .inl rfl⟩
  · cases h

/-- An await that is answered at once, in a world with the same handlers and pasts. -/
lemma executes_answer {v : Fleet V} {r : Except Raised (e.Answer V)}
    (hother : ∀ k, k ≠ i → v.execution k = w.execution k)
    (hpast : (v.execution i).past = (w.execution i).past)
    (hhandler : (v.execution i).handler = (w.execution i).handler)
    (hanswer : Answers (w.execution i) e r)
    (hshared : v.shared = w.shared ∨
      ∃ op, Performs e op ∧ (coordination settings).step w.shared op = some v.shared) :
    FleetExecutes settings w i e r (v.answer i e r).2 := by
  refine ⟨fun k hk => ?_, ?_, ?_, hanswer, hshared⟩
  · rw [Fleet.answer, Fleet.set_of_ne hk, hother k hk]
  · rw [Fleet.answer, Fleet.set_self, hpast]
  · rw [Fleet.answer, Fleet.set_self, hhandler]

lemma executes_transact {op : Timestamp → Timestamp → Operation}
    {r : Except Raised (e.Answer V)} {s : Except Raised FenceResult} {v : Fleet V}
    (h : w.transact settings op c = some (s, v)) (hanswer : Answers (w.execution i) e r)
    (hop : ∀ now retryNow, Performs e (op now retryNow)) :
    FleetExecutes settings w i e r (v.answer i e r).2 := by
  obtain ⟨hexecution, hshared⟩ := transact_cases h
  refine executes_answer (fun k _ => by rw [hexecution]) (by rw [hexecution])
    (by rw [hexecution]) hanswer ?_
  rcases hshared with hsame | ⟨now, retryNow, hstep⟩
  · exact .inl hsame
  · exact .inr ⟨_, hop now retryNow, hstep⟩

theorem exec_fleetExecutes {r : Except Raised (e.Answer V)}
    (h : w.exec i settings e c = some (r, w')) : FleetExecutes settings w i e r w' := by
  have hsame : ∀ {e : RunnerEffect} {r : Except Raised (e.Answer V)},
      Answers (w.execution i) e r → FleetExecutes settings w i e r (w.answer i e r).2 :=
    fun hanswer => executes_answer (fun _ _ => rfl) rfl rfl hanswer (.inl rfl)
  have hset : ∀ {e : RunnerEffect} {r : Except Raised (e.Answer V)} {x : Execution V},
      x.past = (w.execution i).past → x.handler = (w.execution i).handler →
      Answers (w.execution i) e r →
      FleetExecutes settings w i e r ((w.set i x).answer i e r).2 := by
    intro e r x hpast hhandler hanswer
    refine executes_answer (fun k hk => Fleet.set_of_ne hk) ?_ ?_ hanswer (.inl rfl)
    · rw [Fleet.set_self, hpast]
    · rw [Fleet.set_self, hhandler]
  cases e with
  | wait =>
    simp only [Fleet.exec] at h
    split at h
    · cases h
    · rename_i hsome
      cases h
      exact hsame ⟨by simpa using hsome, rfl⟩
  | waitForGrace =>
    simp only [Fleet.exec] at h
    split at h
    · cases h
      exact hsame rfl
    · cases h
      exact hsame rfl
    · cases h
  | setCustomerCancellation | setOwnershipLost | cancelHandler =>
    simp only [Fleet.exec, Option.some.injEq] at h
    cases h
    exact hset rfl rfl trivial
  | yieldOnce =>
    simp only [Fleet.exec, Option.some.injEq] at h
    cases h
    exact hsame trivial
  | waitForCancelledHandler =>
    simp only [Fleet.exec] at h
    split at h
    · cases h
      exact hsame trivial
    · cases h
      exact hsame trivial
    · cases h
  | handlerResult =>
    simp only [Fleet.exec, Option.some.injEq] at h
    cases h
    exact hsame rfl
  | retryDelay attemptNumber =>
    cases c with
    | delay result =>
      cases h
      exact hsame trivial
    | proceed | readings | connectionLost | unavailable | expires | handlerEnds | heartbeats
    | heartbeatFails | timeoutFires | shutdownRequested | operation => cases h
  | finalizeSuccess claim result =>
    simp only [Fleet.exec] at h
    obtain ⟨⟨s, v⟩, htransact, heq⟩ := Option.map_eq_some_iff.1 h
    cases heq
    exact executes_transact htransact trivial fun now _ => .success now claim result
  | scheduleRetry claim delay code summary reason =>
    simp only [Fleet.exec] at h
    obtain ⟨⟨s, v⟩, htransact, heq⟩ := Option.map_eq_some_iff.1 h
    cases heq
    exact executes_transact htransact trivial fun now retryNow =>
      .retry now retryNow claim delay code summary reason
  | finalizeFailure claim code summary reason =>
    simp only [Fleet.exec] at h
    obtain ⟨⟨s, v⟩, htransact, heq⟩ := Option.map_eq_some_iff.1 h
    cases heq
    exact executes_transact htransact trivial fun now _ => .failure now claim code summary reason
  | finalizeCancellation claim =>
    simp only [Fleet.exec] at h
    obtain ⟨⟨s, v⟩, htransact, heq⟩ := Option.map_eq_some_iff.1 h
    cases heq
    exact executes_transact htransact trivial fun now _ => .cancellation now claim

/-- What the environment does: it touches no past and no handler that has ended, and what it does
to the tables is not a finaliser. -/
structure FleetActs (settings : CoordinationSettings) (w w' : Fleet V) : Prop where
  past : ∀ k, (w'.execution k).past = (w.execution k).past
  handler : ∀ k outcome, (w.execution k).handler = some outcome →
    (w'.execution k).handler = some outcome
  shared : w'.shared = w.shared ∨ ∃ op, (∀ e, ¬Performs e op) ∧
    (coordination settings).step w.shared op = some w'.shared

lemma acts_set {x : Execution V} {shared : CoordinationConfig}
    (hpast : x.past = (w.execution i).past)
    (hhandler : ∀ outcome, (w.execution i).handler = some outcome → x.handler = some outcome)
    (hshared : shared = w.shared ∨ ∃ op, (∀ e, ¬Performs e op) ∧
      (coordination settings).step w.shared op = some shared) :
    FleetActs settings w { w.set i x with shared } := by
  refine ⟨fun k => ?_, fun k outcome houtcome => ?_, hshared⟩
  · by_cases hk : k = i
    · subst hk
      simpa [Fleet.set] using hpast
    · simp [Fleet.set, hk]
  · by_cases hk : k = i
    · subst hk
      simpa [Fleet.set] using hhandler outcome houtcome
    · simpa [Fleet.set, hk] using houtcome

omit [Runtime] in
lemma not_performs_heartbeat {now : Timestamp} {claim : ClaimedTask} {lease : Duration} :
    ∀ e, ¬Performs e (.heartbeat now claim lease) := by
  intro e h
  cases h

omit [Runtime] in
lemma not_performs_of_claim?_eq_none {op : Operation} (hop : op.claim? = none) :
    ∀ e, ¬Performs e op := by
  intro e h
  cases h <;> cases hop

lemma heartbeats_acts {now : Timestamp} {lease : Duration}
    (h : w.heartbeats i settings now lease = some w') : FleetActs settings w w' := by
  unfold Fleet.heartbeats at h
  obtain ⟨claim, -, h⟩ := Option.bind_eq_some_iff.1 h
  split at h
  · cases h
  · obtain ⟨c, hstep, h⟩ := Option.bind_eq_some_iff.1 h
    have hshared : ∃ op, (∀ e, ¬Performs e op) ∧
        (coordination settings).step w.shared op = some c := ⟨_, not_performs_heartbeat, hstep⟩
    dsimp only at h
    split at h
    · cases h
      exact ⟨fun _ => rfl, fun _ _ hk => hk, .inr hshared⟩
    · cases h
      exact acts_set (x := (w.execution i).heartbeatEnds .customerCancellation) rfl
        (fun _ hk => hk) (.inr hshared)
    · cases h
      exact acts_set (x := (w.execution i).heartbeatEnds .ownershipLoss) rfl
        (fun _ hk => hk) (.inr hshared)

lemma heartbeatFails_acts {committed : Option (Timestamp × Duration)}
    (h : w.heartbeatFails i settings committed = some w') : FleetActs settings w w' := by
  unfold Fleet.heartbeatFails at h
  obtain ⟨claim, -, h⟩ := Option.bind_eq_some_iff.1 h
  split at h
  · cases h
  · dsimp only at h
    cases committed with
    | none =>
      cases h
      exact acts_set (x := (w.execution i).heartbeatEnds .ownershipLoss) rfl
        (fun _ hk => hk) (.inl rfl)
    | some p =>
      obtain ⟨c, hstep, heq⟩ := Option.map_eq_some_iff.1 h
      cases heq
      exact acts_set (x := (w.execution i).heartbeatEnds .ownershipLoss) rfl
        (fun _ hk => hk) (.inr ⟨_, not_performs_heartbeat, hstep⟩)

theorem act_fleetActs (h : w.act settings c = some w') : FleetActs settings w w' := by
  cases c with
  | handlerEnds i outcome =>
    simp only [Fleet.act] at h
    split at h
    · cases h
    · rename_i hnone
      cases h
      refine acts_set (x := { w.execution i with handler := some outcome }) rfl
        (fun other hother => ?_) (.inl rfl)
      rw [hother] at hnone
      exact absurd rfl hnone
  | heartbeats i now lease => exact heartbeats_acts h
  | heartbeatFails i committed => exact heartbeatFails_acts h
  | timeoutFires i =>
    simp only [Fleet.act] at h
    cases h
    exact acts_set (x := { w.execution i with timeout := true }) rfl (fun _ hk => hk) (.inl rfl)
  | shutdownRequested i =>
    simp only [Fleet.act] at h
    cases h
    exact acts_set (x := { w.execution i with shutdown := true }) rfl (fun _ hk => hk) (.inl rfl)
  | operation op =>
    simp only [Fleet.act] at h
    split at h
    · cases h
    · rename_i hclaim
      obtain ⟨c, hstep, heq⟩ := Option.map_eq_some_iff.1 h
      cases heq
      refine ⟨fun _ => rfl, fun _ _ hk => hk, .inr ⟨op, ?_, hstep⟩⟩
      exact not_performs_of_claim?_eq_none (Option.not_isSome_iff_eq_none.1 hclaim)
  | proceed | readings | connectionLost | unavailable | expires | delay => cases h

variable (settings) (validator : ResultValidator V)

/-- The world records the pasts of the executions. -/
theorem fleet_records : (fleet settings validator).Records
    (fun i w => (w.execution i).past) (fun _ _ => True) where
  issued i e w := by simp [fleet]
  returned i e r w := rfl
  observe i o w k hk := by
    cases o with
    | issued e => simp [fleet, Fleet.set_of_ne hk]
    | returned e r => rfl
  exec i e c w r w' h := by
    have hexec := exec_fleetExecutes h
    exact ⟨hexec.past, fun k hk => by rw [hexec.other k hk]⟩
  finish i r w k hk := by simp [fleet, Fleet.set_of_ne hk]
  env c w w' h k := (act_fleetActs h).past k
  spawn n claim w w' h k := by
    simp only [fleet] at h
    split at h
    · cases h
      by_cases hk : k = n
      · subst hk
        simp
      · rw [Fleet.set_of_ne hk]
    · cases h
  turn_observe _ _ _ _ _ := trivial
  turn_exec _ _ _ _ _ _ _ _ _ := trivial
  turn_finish _ _ _ _ _ := trivial
  turn_env _ _ _ _ _ _ := trivial
  turn_spawn _ _ _ _ _ _ _ := ⟨trivial, fun _ _ _ _ => trivial⟩

end

/-! ## The invariant of an execution -/

/-- An act that tells a finaliser that it has been applied. -/
def appliedAct : Act (runnerSignature V) Unit → Bool
  | .answered (.finalizeSuccess _ _) (.ok .applied)
  | .answered (.scheduleRetry _ _ _ _ _) (.ok .applied)
  | .answered (.finalizeFailure _ _ _ _) (.ok .applied)
  | .answered (.finalizeCancellation _) (.ok .applied) => true
  | _ => false

/-- What the waits have observed when an execution is in a phase. -/
def RunnerPhase.observed : RunnerPhase V → Option (Option ExecutionStopCause)
  | .starting => none
  | .gracing => some none
  | .decided cause => some cause
  | .read _ => some none
  | .closed cause _ _ => some cause

/-- A finaliser has been called for no cause, for a timeout, or to cancel. -/
def ClosedRight (ph : RunnerPhase V) : Prop :=
  ∀ cause e r, ph = .closed cause e r → cause = none ∨
    cause = some .timeout ∧ (∀ claim result, e ≠ .finalizeSuccess claim result) ∨
    cause = some .customerCancellation ∧ e.completes? = none

/-- A wait has found `done`. -/
def Found (h : RunnerPast V) (done : Completed) : Prop :=
  .answered .wait (.ok done) ∈ h ∨ .answered .waitForGrace (.ok done) ∈ h

/-- The waits have found a stop cause: the end of the heartbeat loop, whatever else is done, or else
the timer of the handler, or that nothing has ended in the grace period. -/
inductive Stopped (h : RunnerPast V) : ExecutionStopCause → Prop
  | heartbeat {done : Completed} {cause : ExecutionStopCause} (hfound : Found h done)
    (hheartbeat : done.heartbeat = some cause) : Stopped h cause
  | timeout {done : Completed} (hfound : Found h done) (hheartbeat : done.heartbeat = none)
    (htimeout : done.timeout = true) : Stopped h .timeout
  | grace (hnothing : .answered .waitForGrace (.ok {}) ∈ h) : Stopped h .workerShutdown

/-- The phase agrees with the waits, and the finalisers with the phase. -/
structure Coherent (h : RunnerPast V) : Prop where
  stopped : ∀ cause, Stopped h cause → (runnerPhase h).observed = some (some cause)
  handled : (runnerPhase h).observed = some none → runnerPhase h ≠ .gracing →
    ∃ done, Found h done ∧ done.handler = true
  closed : ClosedRight (runnerPhase h)

structure Lawful (validator : ResultValidator V) (x : Execution V) : Prop where
  followed : ∀ e h, .issued e :: h <:+ x.past →
    RunnerRequests validator (runnerPhase h) e ∧ Coherent h
  coherent : Coherent x.past
  reading : runnerPhase x.past = .decided none → x.handler.isSome = true
  issued : .issued .handlerResult ∈ x.past → x.handler.isSome = true
  answers : ∀ outcome, .answered .handlerResult outcome ∈ x.past → x.handler = some outcome
  applied : x.past.countP appliedAct = 0 ∨ x.past.countP appliedAct = 1 ∧
    ∃ cause e, runnerPhase x.past = .closed cause e (.ok .applied)

section

variable {validator : ResultValidator V} {ph : RunnerPhase V} {e : RunnerEffect} {x : Execution V}
  {h : RunnerPast V}

lemma FailsRetryably.cause (hfails : FailsRetryably validator ph) :
    ph.cause = none ∨ ph.cause = some .timeout := by
  cases hfails with
  | timeout => exact .inr rfl
  | raised => exact .inl rfl

lemma FailsPermanently.cause (hfails : FailsPermanently validator ph) : ph.cause = none := by
  cases hfails
  rfl

lemma RunnerRequests.closedRight {r : Except Raised (e.Answer V)}
    (hrequest : RunnerRequests validator ph e) (hclosed : ClosedRight ph) :
    ClosedRight (ph.next e r) := by
  intro cause e' r' heq
  cases hrequest with
  | wait =>
    cases r with
    | error x => cases heq
    | ok done =>
      simp only [RunnerPhase.next] at heq
      split at heq <;> cases heq
  | waitForGrace =>
    cases r with
    | error x => cases heq
    | ok done => cases heq
  | setCustomerCancellation | setOwnershipLost | cancelHandler | yieldOnce
  | waitForCancelledHandler => cases heq
  | handlerResult => cases heq
  | success claim houtcome =>
    cases heq
    exact .inl rfl
  | cancellation claim =>
    cases heq
    exact .inr (.inr ⟨rfl, rfl⟩)
  | handlerCancelled claim houtcome =>
    cases heq
    exact .inl rfl
  | retryDelay => exact hclosed cause e' r' heq
  | retry hfails =>
    cases heq
    exact hfails.cause.imp_right fun htimeout => .inl ⟨htimeout, fun _ _ => nofun⟩
  | failure hfails =>
    cases heq
    rcases hfails with ⟨hfails, -⟩ | hfails
    · exact hfails.cause.imp_right fun htimeout => .inl ⟨htimeout, fun _ _ => nofun⟩
    · exact .inl hfails.cause
  | @rerouted cause₀ e₀ claim he =>
    cases heq
    rcases hclosed cause₀ e₀ _ rfl with hnone | ⟨htimeout, -⟩ | ⟨-, hother⟩
    · exact .inl hnone
    · exact .inr (.inl ⟨htimeout, fun _ _ => nofun⟩)
    · rw [he] at hother
      cases hother

lemma completedCause_eq_none {done : Completed} :
    completedCause done = none ↔ done.heartbeat = none ∧ done.timeout = false := by
  unfold completedCause
  cases hheartbeat : done.heartbeat with
  | none => cases done.timeout <;> simp
  | some cause => simp

/-- What is neither the answer of a wait nor of the grace period finds nothing. -/
lemma Found.of_cons {act : Act (runnerSignature V) Unit} {done : Completed}
    (hact : ∀ done, act ≠ .answered .wait (.ok done) ∧ act ≠ .answered .waitForGrace (.ok done))
    (hfound : Found (act :: h) done) : Found h done :=
  hfound.imp (List.mem_of_ne_of_mem (hact done).1.symm) (List.mem_of_ne_of_mem (hact done).2.symm)

lemma Found.cons {act : Act (runnerSignature V) Unit} {done : Completed} (hfound : Found h done) :
    Found (act :: h) done :=
  hfound.imp (List.mem_cons_of_mem _) (List.mem_cons_of_mem _)

lemma Stopped.of_cons {act : Act (runnerSignature V) Unit} {cause : ExecutionStopCause}
    (hact : ∀ done, act ≠ .answered .wait (.ok done) ∧ act ≠ .answered .waitForGrace (.ok done))
    (hstopped : Stopped (act :: h) cause) : Stopped h cause := by
  cases hstopped with
  | heartbeat hfound hheartbeat => exact .heartbeat (hfound.of_cons hact) hheartbeat
  | timeout hfound hheartbeat htimeout => exact .timeout (hfound.of_cons hact) hheartbeat htimeout
  | grace hnothing => exact .grace (List.mem_of_ne_of_mem (hact _).2.symm hnothing)

/-- An act that finds nothing and leaves the phase as it is. -/
lemma Coherent.cons {act : Act (runnerSignature V) Unit} (hh : Coherent h)
    (hact : ∀ done, act ≠ .answered .wait (.ok done) ∧ act ≠ .answered .waitForGrace (.ok done))
    (hphase : (runnerPhase (act :: h)).observed = (runnerPhase h).observed)
    (hgracing : runnerPhase h = .gracing → runnerPhase (act :: h) = .gracing)
    (hclosed : ClosedRight (runnerPhase (act :: h))) : Coherent (act :: h) where
  stopped cause hstopped := by
    rw [hphase]
    exact hh.stopped cause (hstopped.of_cons hact)
  handled hnone hne := by
    rw [hphase] at hnone
    obtain ⟨done, hfound, hhandler⟩ := hh.handled hnone fun heq => hne (hgracing heq)
    exact ⟨done, hfound.cons, hhandler⟩
  closed := hclosed

lemma Coherent.issued (hh : Coherent h) : Coherent (.issued e :: h) :=
  hh.cons (fun _ => ⟨nofun, nofun⟩) rfl id hh.closed

lemma found_wait {done done' : Completed}
    (hfound : Found (.answered .wait (.ok done) :: .issued .wait :: h) done') :
    done' = done ∨ Found h done' := by
  rcases hfound with hmem | hmem
  · rcases List.mem_cons.1 hmem with heq | hmem
    · cases heq
      exact .inl rfl
    · exact .inr (.inl (by simpa using hmem))
  · exact .inr (.inr (by simpa using hmem))

lemma found_grace {done done' : Completed}
    (hfound : Found (.answered .waitForGrace (.ok done) :: .issued .waitForGrace :: h) done') :
    done' = done ∨ Found h done' := by
  rcases hfound with hmem | hmem
  · exact .inr (.inl (by simpa using hmem))
  · rcases List.mem_cons.1 hmem with heq | hmem
    · cases heq
      exact .inl rfl
    · exact .inr (.inr (by simpa using hmem))

/-- What the first wait finds: it waits for the grace period where shutdown is all that is done. -/
lemma Coherent.wait {done : Completed} (hh : Coherent h) (hphase : runnerPhase h = .starting)
    (hsome : done.isEmpty = false) :
    Coherent (.answered .wait (.ok done) :: .issued .wait :: h) := by
  have hfresh : ∀ cause, ¬Stopped h cause := by
    intro cause hstopped
    have hold := hh.stopped cause hstopped
    rw [hphase] at hold
    cases hold
  have hnext : runnerPhase (.answered .wait (.ok done) :: .issued .wait :: h) =
      if done.shutdown = true ∧ completedCause done = none ∧ done.handler = false then .gracing
      else .decided (completedCause done) := rfl
  have hdecides : ∀ cause, completedCause done = some cause →
      (runnerPhase (.answered .wait (.ok done) :: .issued .wait :: h)).observed =
        some (some cause) := by
    intro cause hcause
    rw [hnext, hcause, if_neg (by simp)]
    rfl
  refine ⟨fun cause hstopped => ?_, fun hnone hne => ?_, fun cause e r hclosed => ?_⟩
  · cases hstopped with
    | heartbeat hfound hheartbeat =>
      rcases found_wait hfound with rfl | hold
      · exact hdecides cause (by rw [completedCause, hheartbeat]; rfl)
      · exact absurd (.heartbeat hold hheartbeat) (hfresh cause)
    | timeout hfound hheartbeat htimeout =>
      rcases found_wait hfound with rfl | hold
      · exact hdecides .timeout (by rw [completedCause, hheartbeat, htimeout]; rfl)
      · exact absurd (.timeout hold hheartbeat htimeout) (hfresh .timeout)
    | grace hnothing =>
      exact absurd (.grace (by simpa using hnothing)) (hfresh .workerShutdown)
  · rw [hnext] at hnone hne
    refine ⟨done, .inl List.mem_cons_self, ?_⟩
    split at hnone
    · rename_i hgracing
      exact absurd (if_pos hgracing) hne
    · rename_i hshutdown
      have hcause : completedCause done = none := Option.some.inj hnone
      obtain ⟨hheartbeat, htimeout⟩ := completedCause_eq_none.1 hcause
      by_contra hhandler
      rw [Bool.not_eq_true] at hhandler
      refine hshutdown ⟨?_, hcause, hhandler⟩
      simpa [Completed.isEmpty, hheartbeat, htimeout, hhandler] using hsome
  · rw [hnext] at hclosed
    split at hclosed <;> cases hclosed

/-- What the wait for the grace period finds. -/
lemma Coherent.waitForGrace {done : Completed} (hh : Coherent h)
    (hphase : runnerPhase h = .gracing) (hshutdown : done.shutdown = false) :
    Coherent (.answered .waitForGrace (.ok done) :: .issued .waitForGrace :: h) := by
  have hfresh : ∀ cause, ¬Stopped h cause := by
    intro cause hstopped
    have hold := hh.stopped cause hstopped
    rw [hphase] at hold
    cases hold
  have hnext : (runnerPhase (.answered .waitForGrace (.ok done) :: .issued .waitForGrace :: h)) =
      .decided (if done.isEmpty then some .workerShutdown else completedCause done) := rfl
  have hdecides : ∀ cause, done.isEmpty = false → completedCause done = some cause →
      (runnerPhase (.answered .waitForGrace (.ok done) :: .issued .waitForGrace :: h)).observed =
        some (some cause) := by
    intro cause hsome hcause
    rw [hnext, hsome, hcause]
    rfl
  refine ⟨fun cause hstopped => ?_, fun hnone _ => ?_, fun cause e r hclosed => ?_⟩
  · cases hstopped with
    | heartbeat hfound hheartbeat =>
      rcases found_grace hfound with rfl | hold
      · exact hdecides cause (by simp [Completed.isEmpty, hheartbeat])
          (by rw [completedCause, hheartbeat]; rfl)
      · exact absurd (.heartbeat hold hheartbeat) (hfresh cause)
    | timeout hfound hheartbeat htimeout =>
      rcases found_grace hfound with rfl | hold
      · exact hdecides .timeout (by simp [Completed.isEmpty, htimeout])
          (by rw [completedCause, hheartbeat, htimeout]; rfl)
      · exact absurd (.timeout hold hheartbeat htimeout) (hfresh .timeout)
    | grace hnothing =>
      rcases List.mem_cons.1 hnothing with heq | hold
      · cases heq
        rfl
      · exact absurd (.grace (by simpa using hold)) (hfresh .workerShutdown)
  · rw [hnext] at hnone
    refine ⟨done, .inr List.mem_cons_self, ?_⟩
    have hcause := Option.some.inj hnone
    split at hcause
    · cases hcause
    · rename_i hsome
      obtain ⟨hheartbeat, htimeout⟩ := completedCause_eq_none.1 hcause
      simpa [Completed.isEmpty, hheartbeat, htimeout, hshutdown] using hsome
  · cases hclosed

/-- An answer leaves the phase in agreement with what the waits have found. -/
lemma RunnerRequests.coherent {r : Except Raised (e.Answer V)}
    (hrequest : RunnerRequests validator (runnerPhase h) e) (hanswer : Answers x e r)
    (hh : Coherent h) : Coherent (.answered e r :: .issued e :: h) := by
  have hclosed : ClosedRight (runnerPhase (.answered e r :: .issued e :: h)) :=
    hrequest.closedRight hh.closed
  have hplain :
      (∀ done, (.answered e r : Act (runnerSignature V) Unit) ≠ .answered .wait (.ok done) ∧
      (.answered e r : Act (runnerSignature V) Unit) ≠ .answered .waitForGrace (.ok done)) →
      ((runnerPhase h).next e r).observed = (runnerPhase h).observed →
      runnerPhase h ≠ .gracing → Coherent (.answered e r :: .issued e :: h) :=
    fun hact hphase hgracing => hh.issued.cons hact hphase (fun heq => absurd heq hgracing) hclosed
  generalize hphase : runnerPhase h = ph at hrequest hplain
  cases hrequest with
  | wait =>
    obtain ⟨hsome, rfl⟩ := hanswer
    exact hh.wait hphase hsome
  | waitForGrace =>
    cases hanswer
    exact hh.waitForGrace hphase rfl
  | setCustomerCancellation | setOwnershipLost | cancelHandler | yieldOnce
  | waitForCancelledHandler => exact hplain (fun _ => ⟨nofun, nofun⟩) rfl nofun
  | handlerResult | success | cancellation | handlerCancelled | rerouted =>
    exact hplain (fun _ => ⟨nofun, nofun⟩) rfl nofun
  | retryDelay hfails | retry hfails =>
    cases hfails <;> exact hplain (fun _ => ⟨nofun, nofun⟩) rfl nofun
  | failure hfails =>
    rcases hfails with ⟨hfails, -⟩ | hfails <;> cases hfails <;>
      exact hplain (fun _ => ⟨nofun, nofun⟩) rfl nofun

/-- The waits decide for the handler only when it is done. -/
lemma RunnerRequests.reading {r : Except Raised (e.Answer V)}
    (hrequest : RunnerRequests validator ph e) (hanswer : Answers x e r)
    (hold : ph = .decided none → x.handler.isSome = true) (hnew : ph.next e r = .decided none) :
    x.handler.isSome = true := by
  by_contra hhandler
  rw [Bool.not_eq_true] at hhandler
  cases hrequest with
  | wait =>
    obtain ⟨hsome, rfl⟩ := hanswer
    simp only [RunnerPhase.next] at hnew
    split at hnew
    · cases hnew
    · rename_i hshutdown
      have hcause := completedCause_eq_none.1 (RunnerPhase.decided.inj hnew)
      refine hshutdown ⟨?_, RunnerPhase.decided.inj hnew, hhandler⟩
      simpa [Completed.isEmpty, hcause, show x.completed.handler = false from hhandler] using hsome
  | waitForGrace =>
    cases hanswer
    have hcause := RunnerPhase.decided.inj hnew
    split at hcause
    · cases hcause
    · rename_i hsome
      obtain ⟨hheartbeat, htimeout⟩ := completedCause_eq_none.1 hcause
      have hheartbeat : x.heartbeat = none := hheartbeat
      have htimeout : x.timeout = false := htimeout
      apply hsome
      simp [Completed.isEmpty, Execution.completed, hheartbeat, htimeout, hhandler]
  | setCustomerCancellation | setOwnershipLost | cancelHandler | yieldOnce
  | waitForCancelledHandler => cases hnew
  | handlerResult | success | cancellation | handlerCancelled | retry | failure | rerouted =>
    cases hnew
  | retryDelay =>
    rw [hold hnew] at hhandler
    cases hhandler

/-- A finaliser that has been applied closes the execution. -/
lemma next_of_appliedAct {r : Except Raised (e.Answer V)} (h : appliedAct (.answered e r) = true) :
    ∃ cause, ph.next e r = .closed cause e (.ok .applied) := by
  unfold appliedAct at h
  split at h
  · rename_i heq
    cases heq
    exact ⟨_, rfl⟩
  · rename_i heq
    cases heq
    exact ⟨_, rfl⟩
  · rename_i heq
    cases heq
    exact ⟨_, rfl⟩
  · rename_i heq
    cases heq
    exact ⟨_, rfl⟩
  · cases h

/-- Nothing is requested of an execution that a finaliser has closed. -/
lemma RunnerRequests.not_applied {cause : Option ExecutionStopCause} {e' : RunnerEffect} :
    ¬RunnerRequests validator (.closed cause e' (.ok .applied)) e := by
  intro hrequest
  cases hrequest with
  | retryDelay hfails => cases hfails
  | retry hfails => cases hfails
  | failure hfails =>
    rcases hfails with ⟨hfails, -⟩ | hfails <;> cases hfails

lemma suffix_of_cons {act act' : Act (runnerSignature V) Unit} (hne : act ≠ act')
    {earlier : RunnerPast V} (hsuffix : act :: earlier <:+ act' :: h) : act :: earlier <:+ h := by
  rcases List.suffix_cons_iff.1 hsuffix with heq | hsuffix
  · cases heq
    exact absurd rfl hne
  · exact hsuffix

namespace Lawful

/-- The execution issues what the script allows. -/
lemma issue (hx : Lawful validator x) (hrequest : RunnerRequests validator (runnerPhase x.past) e) :
    Lawful validator { x with past := .issued e :: x.past } where
  followed e' h hsuffix := by
    rcases List.suffix_cons_iff.1 hsuffix with heq | hsuffix
    · cases heq
      exact ⟨hrequest, hx.coherent⟩
    · exact hx.followed e' h hsuffix
  coherent := hx.coherent.issued
  reading := hx.reading
  issued hmem := by
    rcases List.mem_cons.1 hmem with heq | hmem
    · cases heq
      apply hx.reading
      generalize runnerPhase x.past = ph at hrequest
      cases hrequest
      rfl
    · exact hx.issued hmem
  answers outcome hmem := by
    rcases List.mem_cons.1 hmem with heq | hmem
    · cases heq
    · exact hx.answers outcome hmem
  applied := by
    rw [List.countP_cons_of_neg (by simp [appliedAct])]
    exact hx.applied

/-- What it has issued is answered. -/
lemma answered (hx : Lawful validator x) {r : Except Raised (e.Answer V)}
    (hpast : x.past = .issued e :: h) (hrequest : RunnerRequests validator (runnerPhase h) e)
    (hanswer : Answers x e r) :
    Lawful validator { x with past := .answered e r :: x.past } where
  followed e' h' hsuffix := hx.followed e' h' (suffix_of_cons (by simp) hsuffix)
  coherent := by
    rw [hpast]
    exact hrequest.coherent hanswer (hx.followed e h (by rw [hpast])).2
  reading hphase := by
    have hold := hx.reading
    rw [hpast] at hold
    change (runnerPhase x.past).next e r = _ at hphase
    rw [hpast] at hphase
    exact hrequest.reading hanswer hold hphase
  issued hmem := hx.issued (by simpa using hmem)
  answers outcome hmem := by
    rcases List.mem_cons.1 hmem with heq | hmem
    · cases heq
      have hdone := hx.issued (by simp [hpast])
      obtain ⟨result, hresult⟩ := Option.isSome_iff_exists.1 hdone
      have hvalue : outcome = x.handler.getD (.error .otherException) := hanswer
      rw [hresult] at hvalue
      rw [hvalue]
      exact hresult
    · exact hx.answers outcome hmem
  applied := by
    have hnone : x.past.countP appliedAct = 0 := by
      rcases hx.applied with hnone | ⟨-, cause, e', hphase⟩
      · exact hnone
      · rw [hpast] at hphase
        rw [show runnerPhase h = .closed cause e' (.ok .applied) from hphase] at hrequest
        exact absurd hrequest RunnerRequests.not_applied
    by_cases happlied : appliedAct (.answered e r) = true
    · right
      have hclosed : ∃ cause, (runnerPhase x.past).next e r = .closed cause e (.ok .applied) :=
        next_of_appliedAct happlied
      obtain ⟨cause, hphase⟩ := hclosed
      refine ⟨?_, cause, e, hphase⟩
      rw [List.countP_cons_of_pos happlied, hnone]
    · left
      rw [List.countP_cons_of_neg happlied, hnone]

lemma ended (hx : Lawful validator x) (r : Except Raised Unit) :
    Lawful validator { x with past := .ended r :: x.past } where
  followed e h hsuffix := hx.followed e h (suffix_of_cons (by simp) hsuffix)
  coherent := hx.coherent.cons (fun _ => ⟨nofun, nofun⟩) rfl id hx.coherent.closed
  reading := hx.reading
  issued hmem := hx.issued (by simpa using hmem)
  answers outcome hmem := hx.answers outcome (by simpa using hmem)
  applied := by
    rw [List.countP_cons_of_neg (by simp [appliedAct])]
    exact hx.applied

/-- Nothing but the past and the end of the handler matters. -/
lemma congr (hx : Lawful validator x) {y : Execution V} (hpast : y.past = x.past)
    (hhandler : ∀ outcome, x.handler = some outcome → y.handler = some outcome) :
    Lawful validator y := by
  have hdone : x.handler.isSome = true → y.handler.isSome = true := by
    intro hx
    obtain ⟨outcome, houtcome⟩ := Option.isSome_iff_exists.1 hx
    rw [hhandler outcome houtcome]
    rfl
  constructor
  · rw [hpast]
    exact hx.followed
  · rw [hpast]
    exact hx.coherent
  · rw [hpast]
    exact fun hphase => hdone (hx.reading hphase)
  · rw [hpast]
    exact fun hmem => hdone (hx.issued hmem)
  · rw [hpast]
    exact fun outcome hmem => hhandler outcome (hx.answers outcome hmem)
  · rw [hpast]
    exact hx.applied

end Lawful

lemma lawful_fresh : Lawful validator ({} : Execution V) where
  followed e h hsuffix := by simp at hsuffix
  coherent := by
    refine ⟨fun cause hstopped => ?_, fun hnone => (by cases hnone),
      fun cause e r heq => by cases heq⟩
    cases hstopped with
    | heartbeat hfound | timeout hfound => rcases hfound with hmem | hmem <;> cases hmem
    | grace hnothing => cases hnothing
  reading heq := by cases heq
  issued hmem := by cases hmem
  answers outcome hmem := by cases hmem
  applied := .inl rfl

end

section

variable [Runtime] (settings : CoordinationSettings) (validator : ResultValidator V)

theorem fleet_preserves : (fleet settings validator).Preserves
    (fun i w => (w.execution i).past) (fun _ _ => True) (runnerScript validator)
    (fun w => ∀ i, Lawful validator (w.execution i)) where
  issue i e w hw _ hrequest k := by
    by_cases hk : k = i
    · subst hk
      simpa [fleet] using (hw k).issue hrequest
    · simpa [fleet, Fleet.set_of_ne hk] using hw k
  exec i e c w r w' h hw _ hpast hrequest hexec k := by
    have hexecutes := exec_fleetExecutes hexec
    by_cases hk : k = i
    · subst hk
      refine ((hw k).answered hpast hrequest hexecutes.answer).congr hexecutes.past ?_
      rw [hexecutes.handler]
      exact fun _ h => h
    · rw [hexecutes.other k hk]
      exact hw k
  returned i e r w hw := hw
  finish i r w hw _ _ k := by
    by_cases hk : k = i
    · subst hk
      simpa [fleet] using (hw k).ended r
    · simpa [fleet, Fleet.set_of_ne hk] using hw k
  env c w w' hw h k := by
    have hacts := act_fleetActs h
    exact (hw k).congr (hacts.past k) (hacts.handler k)
  spawn n claim w w' hw _ h k := by
    simp only [fleet] at h
    split at h
    · cases h
      by_cases hk : k = n
      · subst hk
        rw [Fleet.set_self]
        exact (hw k).congr rfl fun _ h => h
      · rw [Fleet.set_of_ne hk]
        exact hw k
    · cases h

theorem lawful_run {moves : List (Move ClaimedTask (FleetChoice V))}
    {c : Config (runnerSignature V) Unit (Fleet V)}
    (hrun : (fleet settings validator).run (Config.init {}) moves = some c) (i : ℕ) :
    Lawful validator (c.world.execution i) :=
  ((fleet_records settings validator).run (fleet_preserves settings validator)
    (fun _ => executeClaim_keeps) (fun _ => lawful_fresh) (fun _ => rfl) hrun).inv i

end

/-- The failure policy has been told that the cancellation of the task is requested. -/
inductive ToldOfCancellation (claim : ClaimedTask) (h : RunnerPast V) : Prop
  | retry {delay : Duration} {code summary reason : String}
    (hmem : .answered (.scheduleRetry claim delay code summary reason)
      (.ok .cancellationRequested) ∈ h)
  | failure {code summary reason : String}
    (hmem : .answered (.finalizeFailure claim code summary reason)
      (.ok .cancellationRequested) ∈ h)

/-- What an execution does, by the stop cause that its waits have found. -/
structure StopsSoundly (validator : ResultValidator V) (x : Execution V) : Prop where
  reads : .issued .handlerResult ∈ x.past → x.handler.isSome = true
  succeeds : ∀ claim result h, .issued (.finalizeSuccess claim result) :: h <:+ x.past →
    (∃ v, x.handler = some (.ok v) ∧ validator.validate v = .ok result) ∧
    (∃ done, Found h done ∧ done.handler = true) ∧
    ∀ done, Found h done → done.heartbeat = none ∧ done.timeout = false
  lost : ∀ e h, .issued e :: h <:+ x.past →
    Stopped h .ownershipLoss ∨ Stopped h .workerShutdown → e.finalises? = none
  cancelled : ∀ e h claim, .issued e :: h <:+ x.past → Stopped h .customerCancellation →
    e.finalises? = some claim → e = .finalizeCancellation claim
  timedOut : ∀ e h claim, .issued e :: h <:+ x.past → Stopped h .timeout →
    e.finalises? = some claim →
    (∃ delay code summary reason, e = .scheduleRetry claim delay code summary reason) ∨
    (∃ code summary reason, e = .finalizeFailure claim code summary reason) ∨
    e = .finalizeCancellation claim ∧ ToldOfCancellation claim h
  once : x.past.countP appliedAct ≤ 1

section

variable {validator : ResultValidator V} {ph : RunnerPhase V} {e : RunnerEffect}
  {claim : ClaimedTask}

lemma FailsRetryably.observed (hfails : FailsRetryably validator ph) :
    ph.observed = some none ∨ ph.observed = some (some .timeout) := by
  cases hfails with
  | timeout => exact .inr rfl
  | raised => exact .inl rfl

/-- The finaliser that a stop cause allows. -/
lemma RunnerRequests.finaliser (hrequest : RunnerRequests validator ph e)
    (hclosed : ClosedRight ph) (he : e.finalises? = some claim) :
    ph.observed = some none ∨
    ph.observed = some (some .customerCancellation) ∧ e = .finalizeCancellation claim ∨
    ph.observed = some (some .timeout) ∧
      ((∃ delay code summary reason, e = .scheduleRetry claim delay code summary reason) ∨
      (∃ code summary reason, e = .finalizeFailure claim code summary reason) ∨
      e = .finalizeCancellation claim ∧ ∃ cause e', e'.completes? = some claim ∧
        (∀ claim result, e' ≠ .finalizeSuccess claim result) ∧
          ph = .closed cause e' (.ok .cancellationRequested)) := by
  cases hrequest with
  | success => exact .inl rfl
  | cancellation =>
    cases he
    exact .inr (.inl ⟨rfl, rfl⟩)
  | handlerCancelled => exact .inl rfl
  | retry hfails =>
    cases he
    rcases hfails.observed with hnone | htimeout
    · exact .inl hnone
    · exact .inr (.inr ⟨htimeout, .inl ⟨_, _, _, _, rfl⟩⟩)
  | failure hfails =>
    cases he
    rcases hfails with ⟨hfails, -⟩ | hfails
    · rcases hfails.observed with hnone | htimeout
      · exact .inl hnone
      · exact .inr (.inr ⟨htimeout, .inr (.inl ⟨_, _, _, rfl⟩)⟩)
    · cases hfails
      exact .inl rfl
  | @rerouted cause e' claim' he' =>
    cases he
    rcases hclosed cause e' _ rfl with rfl | ⟨rfl, hfailure⟩ | ⟨-, hother⟩
    · exact .inl rfl
    · exact .inr (.inr ⟨rfl, .inr (.inr ⟨rfl, _, e', he', hfailure, rfl⟩)⟩)
    · rw [he'] at hother
      cases hother
  | wait | waitForGrace | setCustomerCancellation | setOwnershipLost | cancelHandler | yieldOnce
  | waitForCancelledHandler | handlerResult | retryDelay => cases he

end

namespace Lawful

variable {validator : ResultValidator V} {x : Execution V} {h : RunnerPast V}

/-- The outcome that an execution has read is that of its handler. -/
lemma answered_of_read {outcome : Except Raised V} (hphase : runnerPhase h = .read outcome) :
    .answered .handlerResult outcome ∈ h := by
  induction h with
  | nil => cases hphase
  | cons act h ih =>
    cases act with
    | issued e => exact List.mem_cons_of_mem _ (ih hphase)
    | ended r => exact List.mem_cons_of_mem _ (ih hphase)
    | answered e r =>
      have hpass : runnerPhase h = .read outcome →
          .answered .handlerResult outcome ∈ .answered e r :: h := fun hphase =>
        List.mem_cons_of_mem _ (ih hphase)
      change (runnerPhase h).next e r = .read outcome at hphase
      cases e with
      | wait =>
        cases r with
        | error x => exact hpass hphase
        | ok done =>
          simp only [RunnerPhase.next] at hphase
          split at hphase <;> cases hphase
      | waitForGrace =>
        cases r with
        | error x => exact hpass hphase
        | ok done => cases hphase
      | handlerResult =>
        cases hphase
        exact List.mem_cons_self
      | setCustomerCancellation | setOwnershipLost | cancelHandler | yieldOnce
      | waitForCancelledHandler | retryDelay => exact hpass hphase
      | finalizeSuccess | scheduleRetry | finalizeFailure | finalizeCancellation => cases hphase

/-- The answer of the finaliser that has closed an execution. -/
lemma told_of_closed {cause : Option ExecutionStopCause} {e : RunnerEffect} {claim : ClaimedTask}
    (hphase : runnerPhase h = .closed cause e (.ok .cancellationRequested))
    (he : e.completes? = some claim)
    (hfailure : ∀ claim result, e ≠ .finalizeSuccess claim result) :
    ToldOfCancellation claim h := by
  induction h with
  | nil => cases hphase
  | cons act h ih =>
    have hpass : runnerPhase h = .closed cause e (.ok .cancellationRequested) →
        ToldOfCancellation claim (act :: h) := by
      intro hphase
      cases ih hphase with
      | retry hmem => exact .retry (List.mem_cons_of_mem _ hmem)
      | failure hmem => exact .failure (List.mem_cons_of_mem _ hmem)
    cases act with
    | issued e' => exact hpass hphase
    | ended r => exact hpass hphase
    | answered e' r =>
      change (runnerPhase h).next e' r = _ at hphase
      cases e' with
      | wait =>
        cases r with
        | error x => exact hpass hphase
        | ok done =>
          simp only [RunnerPhase.next] at hphase
          split at hphase <;> cases hphase
      | waitForGrace =>
        cases r with
        | error x => exact hpass hphase
        | ok done => cases hphase
      | handlerResult => cases hphase
      | setCustomerCancellation | setOwnershipLost | cancelHandler | yieldOnce
      | waitForCancelledHandler | retryDelay => exact hpass hphase
      | finalizeSuccess claim' result =>
        cases hphase
        exact absurd rfl (hfailure claim' result)
      | scheduleRetry =>
        cases hphase
        cases he
        exact .retry List.mem_cons_self
      | finalizeFailure =>
        cases hphase
        cases he
        exact .failure List.mem_cons_self
      | finalizeCancellation =>
        cases hphase
        cases he

/-- A finaliser is called for the stop cause that the waits have found. -/
lemma finaliser_of_stopped (hx : Lawful validator x) {e : RunnerEffect} {claim : ClaimedTask}
    {cause : ExecutionStopCause} (hsuffix : .issued e :: h <:+ x.past) (hstopped : Stopped h cause)
    (he : e.finalises? = some claim) :
    cause = .customerCancellation ∧ e = .finalizeCancellation claim ∨ cause = .timeout ∧
      ((∃ delay code summary reason, e = .scheduleRetry claim delay code summary reason) ∨
      (∃ code summary reason, e = .finalizeFailure claim code summary reason) ∨
      e = .finalizeCancellation claim ∧ ToldOfCancellation claim h) := by
  obtain ⟨hrequest, hcoherent⟩ := hx.followed e h hsuffix
  have hobserved := hcoherent.stopped cause hstopped
  rcases hrequest.finaliser hcoherent.closed he with hnone | ⟨hcancel, heq⟩ | ⟨htimeout, hpolicy⟩
  · rw [hnone] at hobserved
    cases hobserved
  · rw [hcancel] at hobserved
    cases hobserved
    exact .inl ⟨rfl, heq⟩
  · rw [htimeout] at hobserved
    cases hobserved
    refine .inr ⟨rfl, hpolicy.imp_right
      (.imp_right fun ⟨heq, cause, e', he', hfailure, hphase⟩ => ?_)⟩
    exact ⟨heq, told_of_closed hphase he' hfailure⟩

theorem stopsSoundly (hx : Lawful validator x) : StopsSoundly validator x where
  reads := hx.issued
  succeeds claim result h hsuffix := by
    obtain ⟨hrequest, hcoherent⟩ := hx.followed _ h hsuffix
    generalize hphase : runnerPhase h = ph at hrequest
    cases hrequest with
    | @success _ outcome _ houtcome =>
      have hmem : .answered .handlerResult outcome ∈ x.past :=
        hsuffix.mem (List.mem_cons_of_mem _ (answered_of_read hphase))
      have hobserved : (runnerPhase h).observed = some none := by
        rw [hphase]
        rfl
      have hnone : ∀ cause, ¬Stopped h cause := by
        intro cause hstopped
        have hcause := hcoherent.stopped cause hstopped
        rw [hobserved] at hcause
        cases hcause
      refine ⟨?_, hcoherent.handled hobserved (by rw [hphase]; nofun), fun done hfound => ?_⟩
      · cases outcome with
        | error y => cases houtcome
        | ok v => exact ⟨v, hx.answers _ hmem, houtcome⟩
      · have hheartbeat : done.heartbeat = none := by
          by_contra hsome
          obtain ⟨cause, hcause⟩ := Option.ne_none_iff_exists'.1 hsome
          exact hnone cause (.heartbeat hfound hcause)
        refine ⟨hheartbeat, ?_⟩
        by_contra htimeout
        exact hnone .timeout (.timeout hfound hheartbeat (by simpa using htimeout))
  lost e h hsuffix hcause := by
    by_contra hsome
    obtain ⟨claim, he⟩ := Option.ne_none_iff_exists'.1 hsome
    rcases hcause with hstopped | hstopped
    · rcases hx.finaliser_of_stopped hsuffix hstopped he with ⟨hcause, -⟩ | ⟨hcause, -⟩ <;>
        cases hcause
    · rcases hx.finaliser_of_stopped hsuffix hstopped he with ⟨hcause, -⟩ | ⟨hcause, -⟩ <;>
        cases hcause
  cancelled e h claim hsuffix hstopped he := by
    rcases hx.finaliser_of_stopped hsuffix hstopped he with ⟨-, heq⟩ | ⟨hcause, -⟩
    · exact heq
    · cases hcause
  timedOut e h claim hsuffix hstopped he := by
    rcases hx.finaliser_of_stopped hsuffix hstopped he with ⟨hcause, -⟩ | ⟨-, hpolicy⟩
    · cases hcause
    · exact hpolicy
  once := by
    rcases hx.applied with hnone | ⟨hone, -⟩
    · omega
    · omega

end Lawful

/-- In every run of the workers, whatever ends first and in whatever order, an execution stops as
its stop cause demands. -/
theorem stop_cause_never_success [Runtime] (settings : CoordinationSettings)
    (validator : ResultValidator V) (moves : List (Move ClaimedTask (FleetChoice V)))
    (c : Config (runnerSignature V) Unit (Fleet V))
    (hrun : (fleet settings validator).run (Config.init {}) moves = some c) (i : ℕ) :
    StopsSoundly validator (c.world.execution i) :=
  (lawful_run settings validator hrun i).stopsSoundly

namespace Sample

def jsonValidator : ResultValidator JsonValue where
  validate v := if v.isDict then .ok v else .error .handlerContractError
  isDict v result h := by
    split at h
    · rename_i hdict
      cases h
      exact hdict
    · cases h

abbrev FleetMove : Type := Move ClaimedTask (FleetChoice JsonValue)

/-- The next await of execution `i`, and what its runner does up to the one after it. -/
def proceed (i : ℕ) (c : FleetChoice JsonValue) : List FleetMove := [.exec i c, .resume i]

/-- A heartbeat reports the cancellation of the task while its handler returns a result. -/
def cancelledMeanwhile : List FleetMove :=
  [.env (.operation (.createTask 0 1 taskRequest)), .env (.operation (.approveTask 1 1)),
    .env (.operation (claimTask 2 1 "a")), .start (taskClaim 1 "a"), .resume 0,
    .env (.operation (.cancelTask 3 1)), .env (.handlerEnds 0 (.ok (.dict []))),
    .env (.heartbeats 0 4 10)] ++
  proceed 0 .proceed ++ proceed 0 .proceed ++ proceed 0 .proceed ++ proceed 0 .proceed ++
  proceed 0 (.readings 5 5)

attribute [local instance] taskHost

def runFleet (moves : List FleetMove) :
    Option (Config (runnerSignature JsonValue) Unit (Fleet JsonValue)) :=
  (fleet defaultSettings jsonValidator).run (Config.init {}) moves

end Sample

open Sample in
theorem stop_cause_never_success_cancelledMeanwhile : ∃ c, runFleet cancelledMeanwhile = some c ∧
    (∃ t, c.world.shared.state.task 1 = some t ∧ t.status = .cancelled) ∧
    StopsSoundly jsonValidator (c.world.execution 0) := by
  have hrun : (runFleet cancelledMeanwhile).any (fun c =>
      (c.world.shared.state.task 1).any fun t => t.status == .cancelled) = true := by
    decide +kernel
  simp only [Option.any_eq_true, beq_iff_eq] at hrun
  obtain ⟨c, hc, ht⟩ := hrun
  exact ⟨c, hc, ht, @stop_cause_never_success _ taskHost defaultSettings
    jsonValidator cancelledMeanwhile
    c hc 0⟩

end DeploymentLab
