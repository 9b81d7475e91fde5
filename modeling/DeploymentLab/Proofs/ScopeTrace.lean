import DeploymentLab.Library.Trace
import DeploymentLab.Model.World
import DeploymentLab.Proofs.Ledger

/-!
# The traces of one action scope

Handlers of one scope meet in one row of `external_actions`. What they do to it is a sequence of
events, each with its effect on the row and on the providers (`Executes`) and each allowed by
the script of the handler that makes it. `ScopeInvariant.run` reduces a statement about every
run of the machine to one about these events.
-/

namespace DeploymentLab

open Interaction Relational Database

variable {S M J ρ : Type} {i j : ℕ}

namespace Event

def actor : Event ρ → ℕ
  | .started i _ => i
  | .issued i _ _ => i
  | .executed i _ _ _ => i
  | .ended i _ => i

def act : Event ρ → Option (Act handlerSignature ρ)
  | .started _ _ => none
  | .issued _ _ e => some (.issued e)
  | .executed _ _ e r => some (.answered e r)
  | .ended _ r => some (.ended r)

/-- The transition that an event commits, with the handler that commits it. -/
def commit : Event ρ → Option (ℕ × TransitionRequest)
  | .executed i _ (.transition request) (.ok _) => some (i, request)
  | _ => none

end Event

/-- What handler `i` has done, newest first. -/
def past (i : ℕ) (log : List (Event ρ)) : Past handlerSignature ρ :=
  log.filterMap fun event => if event.actor = i then event.act else none

section Past

variable {log : List (Event ρ)} {now : Timestamp} {e : Effect} {r : Outcome e}

lemma past_of_ne {event : Event ρ} (h : event.actor ≠ i) : past i (event :: log) = past i log := by
  rw [past, List.filterMap_cons_none (by simp [h])]
  rfl

@[simp] lemma past_started : past i (.started j now :: log) = past i log := by
  rw [past, List.filterMap_cons_none (by simp [Event.act])]
  rfl

@[simp] lemma past_issued : past i (.issued i now e :: log) = .issued e :: past i log := by
  simp only [past, List.filterMap_cons, Event.actor, if_pos, Event.act]

@[simp] lemma past_executed :
    past i (.executed i now e r :: log) = .answered e r :: past i log := by
  simp only [past, List.filterMap_cons, Event.actor, if_pos, Event.act]

@[simp] lemma past_ended {r : Except Exn ρ} : past i (.ended i r :: log) =
    .ended r :: past i log := by
  simp only [past, List.filterMap_cons, Event.actor, if_pos, Event.act]

lemma past_issued_of_ne (h : j ≠ i) : past i (.issued j now e :: log) = past i log :=
  past_of_ne h

lemma past_executed_of_ne (h : j ≠ i) : past i (.executed j now e r :: log) = past i log :=
  past_of_ne h

lemma past_ended_of_ne {r : Except Exn ρ} (h : j ≠ i) :
    past i (.ended j r :: log) = past i log :=
  past_of_ne h

lemma issued_mem_past : (.issued e : Act handlerSignature ρ) ∈ past i log ↔
    ∃ t, .issued i t e ∈ log := by
  simp only [past, List.mem_filterMap]
  constructor
  · rintro ⟨event, hmem, hact⟩
    split at hact
    · rename_i hactor
      cases event <;> simp only [Event.act, Option.some.injEq, reduceCtorEq] at hact
      rename_i k t e'
      cases hact
      cases hactor
      exact ⟨t, hmem⟩
    · cases hact
  · rintro ⟨t, hmem⟩
    exact ⟨_, hmem, by simp [Event.actor, Event.act]⟩

lemma answered_mem_past : (.answered e r : Act handlerSignature ρ) ∈ past i log ↔
    ∃ t, .executed i t e r ∈ log := by
  simp only [past, List.mem_filterMap]
  constructor
  · rintro ⟨event, hmem, hact⟩
    split at hact
    · rename_i hactor
      cases event <;> simp only [Event.act, Option.some.injEq, reduceCtorEq] at hact
      rename_i k t e' r'
      cases hact
      cases hactor
      exact ⟨t, hmem⟩
    · cases hact
  · rintro ⟨t, hmem⟩
    exact ⟨_, hmem, by simp [Event.actor, Event.act]⟩

end Past

/-- The handler that was started last. -/
def latest : List (Event ρ) → Option ℕ
  | [] => none
  | .started i _ :: _ => some i
  | _ :: log => latest log

/-- The actions that the ledger has returned to a handler. -/
def returnedActions : Past handlerSignature ρ → List ExternalAction
  | [] => []
  | .answered (.reserveOrGet _) (.ok reservation) :: h =>
    ActionReservation.action reservation :: returnedActions h
  | .answered (.transition _) (.ok a) :: h => a :: returnedActions h
  | .answered (.revise _) (.ok a) :: h => a :: returnedActions h
  | _ :: h => returnedActions h

/-- A handler reserves `scope` and addresses the actions that were returned to it. -/
def InScope (scope : String) : Script handlerSignature ρ
  | _, .issued (.reserveOrGet request) => request.actionScopeKey = scope
  | h, .issued (.transition request) => ∃ a ∈ returnedActions h, a.id = request.actionId
  | h, .issued (.revise request) => ∃ a ∈ returnedActions h, a.id = request.actionId
  | h, .issued (.reconciliationDelaySeconds id) => ∃ a ∈ returnedActions h, a.id = id
  | _, _ => True

section Checkpoints

variable {script : Script handlerSignature ρ} {h : Past handlerSignature ρ}
  {Q : Past handlerSignature ρ → Except Exn Unit → Prop}

lemma emits_raiseIfCancelled (hok : Q h (.ok ())) (hlost : Q h (.error .ownershipLostError))
    (hcancelled : Q h (.error .taskCancelled)) :
    HandlerContext.raiseIfCancelled.Emits script Q h := by
  intro context
  dsimp only
  split
  · exact hlost
  split
  · exact hcancelled
  · exact hok

lemma emits_raiseIfOwnershipLost (hok : Q h (.ok ()))
    (hlost : Q h (.error .ownershipLostError)) :
    HandlerContext.raiseIfOwnershipLost.Emits script Q h := by
  intro context
  dsimp only
  split
  · exact hlost
  · exact hok

section Possible

variable {β : Type} {p : Handler β} {r : Except Exn β} {h₀ h : Past handlerSignature ρ}

lemma trace_checkCancelled (hp : p.Trace h₀ h r) :
    (HandlerContext.raiseIfCancelled.bind fun _ => p).Trace h₀ h r := ⟨{}, hp⟩

lemma trace_checkOwnership (hp : p.Trace h₀ h r) :
    (HandlerContext.raiseIfOwnershipLost.bind fun _ => p).Trace h₀ h r := ⟨{}, hp⟩

lemma trace_cancelled :
    (HandlerContext.raiseIfCancelled.bind fun _ => p).Trace h h (.error .taskCancelled) :=
  ⟨{ customerCancellation := true }, rfl, rfl⟩

lemma trace_await {e : Effect} {f : e.Answer → Handler β} (a : e.Answer)
    (hf : (f a).Trace (.answered e (.ok a) :: .issued e :: h₀) h r) :
    ((perform e).bind f).Trace h₀ h r := ⟨.ok a, hf⟩

end Possible

end Checkpoints

/-- What the handlers of one scope share. -/
structure ScopeView (S ρ : Type) where
  row : Option ExternalAction
  now : Timestamp
  provider : S
  log : List (Event ρ)

def World.view (scope : String) (w : World S ρ) : ScopeView S ρ :=
  ⟨w.database.actionAt scope, w.now, w.provider, w.log⟩

namespace ScopeView

def note (v : ScopeView S ρ) (event : Event ρ) : ScopeView S ρ :=
  { v with log := event :: v.log }

/-- The row of the scope is the action `id`. -/
def Has (id : UUID) (v : ScopeView S ρ) : Prop := ∃ a, v.row = some a ∧ a.id = id

variable (v : ScopeView S ρ) (event : Event ρ)

@[simp] lemma note_row : (v.note event).row = v.row := rfl
@[simp] lemma note_log : (v.note event).log = event :: v.log := rfl

end ScopeView

/-- The delay, by the database clock, before another attempt at the action `a`. -/
def ExternalAction.delay (now : Timestamp) (a : ExternalAction) : Duration :=
  match a.reconcileNotBefore with
  | some notBefore => max 0 (notBefore - now)
  | none => 0

/-- What the execution of an effect may do to the scope: its outcome, the row it leaves and the
state of the providers. In a ledger that is `valid`, a transition fails for its fence, for the
status of the row, or for a constraint. -/
inductive Executes (valid : Prop) (providers : Provider S M) (v : ScopeView S ρ) :
    (e : Effect) → Outcome e → Option ExternalAction → S → Prop
  | created (request : ReservationRequest) (id : UUID) (habsent : v.row = none) :
    Executes valid providers v (.reserveOrGet request)
      (.ok ⟨ExternalActionRepository.reservedAction v.now id request, .created⟩)
      (some (ExternalActionRepository.reservedAction v.now id request)) v.provider
  | existing (request : ReservationRequest) (a : ExternalAction) (hrow : v.row = some a)
    (hprovider : a.provider = request.provider) (hoperation : a.operation = request.operation) :
    Executes valid providers v (.reserveOrGet request)
      (.ok ⟨ExternalActionRepository.touch request.fence v.now a,
        ExternalActionRepository.reservationKind request a⟩)
      (some (ExternalActionRepository.touch request.fence v.now a)) v.provider
  | reserveFailed (request : ReservationRequest) (x : Exn) :
    Executes valid providers v (.reserveOrGet request) (.error x) v.row v.provider
  | transitioned (request : TransitionRequest) (a : ExternalAction) (hrow : v.row = some a)
    (hid : a.id = request.actionId) (hstatus : a.status ∈ request.expectedStatuses) :
    Executes valid providers v (.transition request)
      (.ok (ExternalActionRepository.transitioned v.now request a))
      (some (ExternalActionRepository.transitioned v.now request a)) v.provider
  | transitionFailed (request : TransitionRequest) (x : Exn) (a : ExternalAction)
    (hrow : v.row = some a) (hid : a.id = request.actionId)
    (hvalid : valid → ∀ c ∈ a.checkConstraints, c.2 = true)
    (hreason : valid → request.WellFormed → x = fenceNotConfirmed ∨
      (a.status ∉ request.expectedStatuses ∧ x = ExternalActionRepository.stateChanged) ∨
      ∃ c ∈ (ExternalActionRepository.transitioned v.now request a).checkConstraints,
        c.2 = false) :
    Executes valid providers v (.transition request) (.error x) v.row v.provider
  | revised (request : RevisionRequest) (a : ExternalAction) (hrow : v.row = some a)
    (hid : a.id = request.actionId) (hstatus : a.status = .succeeded)
    (hrevision : a.revision = request.expectedRevision)
    (hprovider : a.providerResourceIdentifier ≠ none) :
    Executes valid providers v (.revise request)
      (.ok (ExternalActionRepository.revised v.now request a))
      (some (ExternalActionRepository.revised v.now request a)) v.provider
  | reviseFailed (request : RevisionRequest) (x : Exn) :
    Executes valid providers v (.revise request) (.error x) v.row v.provider
  | delayed (id : UUID) (a : ExternalAction) (hrow : v.row = some a) (hid : a.id = id) :
    Executes valid providers v (.reconciliationDelaySeconds id) (.ok (a.delay v.now)) v.row
      v.provider
  | recorded (request : ArtifactRequest) (r : Outcome (.record request)) :
    Executes valid providers v (.record request) r v.row v.provider
  | responded (e : Effect) (r : Outcome e) (s : S) (m : M) (he : e.isTransaction = false)
    (hrespond : providers.respond m v.now e v.provider = some (r, s)) :
    Executes valid providers v e r v.row s

/-- In view `v`, issuing `e` puts the providers into state `s`. -/
def Provider.Issues (providers : Provider S M) (scope : String) (e : Effect) (v : ScopeView S ρ)
    (s : S) : Prop :=
  ∃ db, Database.actionAt db scope = v.row ∧ s = providers.issue db e v.provider

/-- Where handlers run one at a time, handler `i` is the one that was started last. -/
def Setup.Turn (setup : Setup J ρ) (i : ℕ) (log : List (Event ρ)) : Prop :=
  setup.exclusive = true → latest log = some i

/-- Handler `i` may act. -/
structure Setup.Acts (setup : Setup J ρ) (i : ℕ) (log : List (Event ρ)) : Prop where
  turn : setup.Turn i log
  unended : (past i log).Unended

/-- A property of a scope that every event keeps, in runs that make only the executions
`allowed`. -/
structure ScopeInvariant (setup : Setup J ρ) (providers : Provider S M) (scope : String)
    (script : Script handlerSignature ρ) (allowed : ℕ → Effect → ScopeView S ρ → Bool)
    (valid : Prop) (I : ScopeView S ρ → Prop) : Prop where
  started : ∀ v i, I v → past i v.log = [] → I (v.note (.started i v.now))
  issued : ∀ v i e s, I v → setup.Acts i v.log → script (past i v.log) (.issued e) →
    providers.Issues scope e v s → I ({ v with provider := s }.note (.issued i v.now e))
  executed : ∀ v i e r row s h, I v → setup.Acts i v.log → past i v.log = .issued e :: h →
    script h (.issued e) → allowed i e v = true → Executes valid providers v e r row s →
    I ({ v with row := row, provider := s }.note (.executed i v.now e r))
  ended : ∀ v i r, I v → setup.Acts i v.log → script (past i v.log) (.ended r) →
    I (v.note (.ended i r))
  clock : ∀ v now, I v → setup.tick v.now now = true → I { v with now := now }
  act : ∀ v m s, I v → providers.act m v.now v.provider = some s → I { v with provider := s }

variable [Runtime] {setup : Setup J ρ} {providers : Provider S M} {scope : String}
  {script : Script handlerSignature ρ} {allowed : ℕ → Effect → ScopeView S ρ → Bool}
  {valid : Prop} {I : ScopeView S ρ → Prop}

/-- The machine of handlers, restricted to the executions that are allowed. -/
def scopeMachine (setup : Setup J ρ) (providers : Provider S M) (scope : String)
    (allowed : ℕ → Effect → ScopeView S ρ → Bool) :
    Machine handlerSignature ρ J (World S ρ) (Choice M) :=
  (machine setup providers).guard fun i e w => allowed i e (w.view scope)

lemma scopeMachine_true : scopeMachine setup providers scope (fun _ _ _ => true) =
    machine setup providers := by
  simp [scopeMachine, Machine.guard]

omit [Runtime] in
lemma Executes.has {v : ScopeView S ρ} {e : Effect} {r : Outcome e} {row : Option ExternalAction}
    {s : S} (hx : Executes valid providers v e r row s) {id : UUID} (h : v.Has id) :
    ∃ a, row = some a ∧ a.id = id := by
  obtain ⟨b, hb, hid⟩ := h
  cases hx with
  | created request id' habsent =>
    rw [habsent] at hb
    cases hb
  | existing request a hrow =>
    rw [hrow] at hb
    cases hb
    exact ⟨_, rfl, hid⟩
  | transitioned request a hrow =>
    rw [hrow] at hb
    cases hb
    exact ⟨_, rfl, hid⟩
  | revised request a hrow =>
    rw [hrow] at hb
    cases hb
    exact ⟨_, rfl, hid⟩
  | reserveFailed | transitionFailed | reviseFailed | delayed | recorded | responded =>
    exact ⟨b, hb, hid⟩

omit [Runtime] in
/-- An action that an execution returns is the row that it leaves. -/
lemma Executes.returned {v : ScopeView S ρ} {e : Effect} {r : Outcome e}
    {row : Option ExternalAction} {s : S} (hx : Executes valid providers v e r row s)
    {h : Past handlerSignature ρ} {a : ExternalAction}
    (ha : a ∈ returnedActions (.answered e r :: h)) : row = some a ∨ a ∈ returnedActions h := by
  cases hx with
  | created | existing | transitioned | revised =>
    rcases List.mem_cons.1 ha with rfl | hmem
    · exact .inl rfl
    · exact .inr hmem
  | responded _ _ _ m he =>
    cases e <;> first | exact .inr ha | cases he
  | reserveFailed | transitionFailed | reviseFailed | delayed | recorded => exact .inr ha

/-- The transactions of the machine are executions of the scope. -/
lemma executes_of_execute {w : World S ρ} {maximumBytes : ℕ} {row history : UUID} {e : Effect}
    {r : Outcome e} {db : Database} {h : Past handlerSignature ρ}
    (hvalid : valid → LedgerValid w.database) (hunused : w.database.unused history = true)
    (hscope : InScope scope h (.issued e))
    (hhas : ∀ a ∈ returnedActions h, (w.view scope).Has a.id)
    (hrun : w.database.execute maximumBytes w.now row history e = some (r, db)) :
    Executes valid providers (w.view scope) e r (db.actionAt scope) w.provider ∧
      (valid → LedgerValid db) := by
  have haction : ∀ id, (∃ a ∈ returnedActions h, a.id = id) →
      ∃ a, w.database.actionAt scope = some a ∧ w.database.action id = some a ∧ a.id = id := by
    rintro id ⟨a, ha, rfl⟩
    obtain ⟨b, hb, hid⟩ := hhas a ha
    refine ⟨b, hb, ?_, hid⟩
    rw [← hid]
    exact action_of_actionAt hb
  cases e with
  | record request =>
    simp only [Database.execute, Option.some.injEq] at hrun
    obtain ⟨rfl, rfl⟩ := Prod.mk.inj hrun
    cases hrecord : SourceArtifactRepository.record maximumBytes w.database w.now row request with
    | error x => exact ⟨.recorded request _, hvalid⟩
    | ok result =>
      obtain ⟨artifact, db'⟩ := result
      obtain ⟨-, sourceArtifacts, rfl⟩ := SourceArtifactRepository.record_ok hrecord
      exact ⟨.recorded (v := w.view scope) request _, fun hv => (hvalid hv).frame rfl rfl⟩
  | reserveOrGet request =>
    simp only [Database.execute, Option.some.injEq] at hrun
    obtain ⟨rfl, rfl⟩ := Prod.mk.inj hrun
    cases hreserve : ExternalActionRepository.reserveOrGet w.database w.now row history request with
    | error x => exact ⟨.reserveFailed request x, hvalid⟩
    | ok result =>
      obtain ⟨reservation, db'⟩ := result
      obtain ⟨-, hcase⟩ := ExternalActionRepository.reserveOrGet_ok hreserve
      rw [show request.actionScopeKey = scope from hscope] at hcase
      rcases hcase with ⟨habsent, rfl, hinserts⟩ | ⟨a, ha, hprovider, hoperation, rfl, hrewrites⟩
      · have hat := hinserts.actionAt_self
        rw [show (ExternalActionRepository.reservedAction w.now row request).actionScopeKey = scope
          from hscope] at hat
        refine ⟨?_, fun hv => hinserts.ledgerValid (hvalid hv)⟩
        simp only [hat]
        exact .created (v := w.view scope) request row habsent
      · have hat := hrewrites.actionAt_self
        rw [(actionAt_eq_some_iff.1 ha).2] at hat
        refine ⟨?_, fun hv => hrewrites.ledgerValid (hvalid hv)⟩
        simp only [hat]
        exact .existing (v := w.view scope) request a ha hprovider hoperation
  | transition request =>
    simp only [Database.execute, Option.some.injEq] at hrun
    obtain ⟨rfl, rfl⟩ := Prod.mk.inj hrun
    obtain ⟨a, hat, ha, hid⟩ := haction request.actionId hscope
    cases htransition : ExternalActionRepository.transition w.database w.now history request with
    | error x =>
      have hconstraints : valid → ∀ c ∈ a.checkConstraints, c.2 = true := fun hv =>
        (hvalid hv).actions a (action_eq_some_iff.1 ha).1
      refine ⟨.transitionFailed request x a hat hid hconstraints fun hv hdelays => ?_, hvalid⟩
      exact (ExternalActionRepository.transition_error (hvalid hv) hunused hdelays ha
        htransition).imp_left And.right
    | ok result =>
      obtain ⟨a', db'⟩ := result
      obtain ⟨-, b, hb, hstatus, rfl, hrewrites⟩ :=
        ExternalActionRepository.transition_ok htransition
      obtain rfl : b = a := Option.some.inj (hb.symm.trans ha)
      have hat' := hrewrites.actionAt_self
      rw [(actionAt_eq_some_iff.1 hat).2] at hat'
      refine ⟨?_, fun hv => hrewrites.ledgerValid (hvalid hv)⟩
      simp only [hat']
      exact .transitioned (v := w.view scope) request b hat hid hstatus
  | revise request =>
    simp only [Database.execute, Option.some.injEq] at hrun
    obtain ⟨rfl, rfl⟩ := Prod.mk.inj hrun
    obtain ⟨a, hat, ha, hid⟩ := haction request.actionId hscope
    cases hrevise : ExternalActionRepository.revise w.database w.now history request with
    | error x => exact ⟨.reviseFailed request x, hvalid⟩
    | ok result =>
      obtain ⟨a', db'⟩ := result
      obtain ⟨-, b, hb, hstatus, hrevision, hprovider, rfl, hrewrites⟩ :=
        ExternalActionRepository.revise_ok hrevise
      obtain rfl : b = a := Option.some.inj (hb.symm.trans ha)
      have hat' := hrewrites.actionAt_self
      rw [(actionAt_eq_some_iff.1 hat).2] at hat'
      refine ⟨?_, fun hv => hrewrites.ledgerValid (hvalid hv)⟩
      simp only [hat']
      exact .revised (v := w.view scope) request b hat hid hstatus hrevision hprovider
  | reconciliationDelaySeconds id =>
    simp only [Database.execute, Option.some.injEq] at hrun
    obtain ⟨rfl, rfl⟩ := Prod.mk.inj hrun
    obtain ⟨a, hat, ha, hid⟩ := haction id hscope
    have hdelay : ExternalActionRepository.reconciliationDelaySeconds w.database w.now id =
        a.delay w.now := by
      unfold ExternalActionRepository.reconciliationDelaySeconds ExternalAction.delay
      cases hbefore : a.reconcileNotBefore with
      | none => simp [ha, hbefore]
      | some notBefore => simp [ha, hbefore]
    rw [hdelay]
    exact ⟨.delayed (v := w.view scope) id a hat hid, hvalid⟩
  | fetchRecords | verifyGitHubIdentity | fetchContext | getComment | findCommentsByMarker
  | createComment | updateComment | fetchIssue | verifySlackIdentity | postNotification =>
    simp [Database.execute] at hrun

omit [Runtime] in
lemma turn_of_ne {log : List (Event ρ)} {event : Event ρ}
    (hevent : ∀ k t, event ≠ .started k t)
    (h : setup.Turn i log) : setup.Turn i (event :: log) := by
  intro hexclusive
  have hlatest : latest (event :: log) = latest log := by
    cases event with
    | started k t => exact absurd rfl (hevent k t)
    | issued | executed | ended => rfl
  rw [hlatest]
  exact h hexclusive

/-- An execution by handler `i` adds its event to the log. -/
lemma log_of_exec {e : Effect} {c : Choice M} {w w' : World S ρ} {r : Outcome e}
    (h : (machine setup providers).exec i e c w = some (r, w')) :
    w'.log = .executed i w.now e r :: w.log := by
  simp only [machine] at h
  split at h
  · split at h
    · obtain ⟨⟨r, db⟩, -, heq⟩ := Option.map_eq_some_iff.1 h
      cases heq
      rfl
    · cases h
  · split at h
    · cases h
    · obtain ⟨⟨r, s⟩, -, heq⟩ := Option.map_eq_some_iff.1 h
      cases heq
      rfl
  · cases h

lemma log_of_env {c : Choice M} {w w' : World S ρ}
    (h : (machine setup providers).env c w = some w') : w'.log = w.log := by
  simp only [machine] at h
  split at h
  · split at h
    · cases h
      rfl
    · cases h
  · cases h
    rfl
  · cases h
    rfl
  · obtain ⟨s, -, rfl⟩ := Option.map_eq_some_iff.1 h
    rfl
  · cases h

lemma scopeMachine_records : (scopeMachine setup providers scope allowed).Records
    (fun i w => past i w.log) (fun i w => setup.Turn i w.log) where
  issued i e w := past_issued
  returned i e r w := rfl
  observe i o w k hk := by
    cases o with
    | issued e => exact past_issued_of_ne hk.symm
    | returned e r => rfl
  exec i e c w r w' h := by
    have hlog := log_of_exec ((machine setup providers).guard_exec h).2
    constructor
    · rw [hlog]
      exact past_executed
    · intro k hk
      rw [hlog]
      exact past_executed_of_ne hk.symm
  finish i r w k hk := past_ended_of_ne hk.symm
  env c w w' h k := by rw [log_of_env h]
  spawn n j w w' h k := by
    cases h
    exact past_started
  turn_observe i o w k h := by
    cases o with
    | issued e => exact turn_of_ne (by simp) h
    | returned e r => exact h
  turn_exec i e c w r w' h k hk := by
    rw [log_of_exec ((machine setup providers).guard_exec h).2]
    exact turn_of_ne (by simp) hk
  turn_finish i r w k h := turn_of_ne (by simp) h
  turn_env c w w' h k hk := by
    rw [log_of_env h]
    exact hk
  turn_spawn t n j w w' hstart h := by
    cases h
    refine ⟨fun _ => rfl, fun k hlt hactive _ hexclusive => ?_⟩
    have hstart : (!setup.exclusive || (List.range n).all fun k => !(t k).active) = true := hstart
    rw [hexclusive, Bool.not_true, Bool.false_or, List.all_eq_true] at hstart
    have := hstart k (List.mem_range.2 hlt)
    rw [hactive] at this
    cases this

/-- The scope is in the invariant, and every action returned to a handler is its row. -/
structure ScopeState (scope : String) (valid : Prop) (I : ScopeView S ρ → Prop)
    (w : World S ρ) : Prop where
  ledger : valid → LedgerValid w.database
  returned : ∀ i, ∀ a ∈ returnedActions (past i w.log), (w.view scope).Has a.id
  scope : I (w.view scope)

lemma scopeState_preserves (hI : ScopeInvariant setup providers scope script allowed valid I)
    (hscript : ∀ h act, script h act → InScope scope h act) :
    (scopeMachine setup providers scope allowed).Preserves (fun i w => past i w.log)
      (fun i w => setup.Turn i w.log) script (ScopeState scope valid I) where
  issue i e w hw hmoves hissue := by
    refine ⟨hw.ledger, fun k a ha => ?_, ?_⟩
    · refine hw.returned k a ?_
      by_cases hk : i = k
      · subst hk
        simpa [scopeMachine, Machine.guard, machine, returnedActions] using ha
      · simpa [scopeMachine, Machine.guard, machine, past_issued_of_ne hk] using ha
    · exact hI.issued (w.view scope) i e _ hw.scope ⟨hmoves.turn, hmoves.unended⟩ hissue
        ⟨w.database, rfl, rfl⟩
  exec i e c w r w' h hw hmoves hpast hissue hexec := by
    obtain ⟨hallowed, hexec⟩ := (machine setup providers).guard_exec hexec
    have hlog := log_of_exec hexec
    obtain ⟨row, s, hx, hledger, hview⟩ : ∃ row s,
        Executes valid providers (w.view scope) e r row s ∧ (valid → LedgerValid w'.database) ∧
        w'.view scope = { w.view scope with row := row, provider := s }.note
          (.executed i w.now e r) := by
      simp only [machine] at hexec
      split at hexec
      · rename_i row history
        split at hexec
        · rename_i hunused
          obtain ⟨⟨r, db⟩, hrun, heq⟩ := Option.map_eq_some_iff.1 hexec
          cases heq
          rw [Bool.and_eq_true] at hunused
          have hhas : ∀ a ∈ returnedActions h, (w.view scope).Has a.id := by
            intro a ha
            apply hw.returned i a
            rw [hpast]
            exact ha
          obtain ⟨hx, hl⟩ :=
            executes_of_execute hw.ledger hunused.2 (hscript h _ hissue) hhas hrun
          exact ⟨_, _, hx, hl, rfl⟩
        · cases hexec
      · rename_i m
        split at hexec
        · cases hexec
        · rename_i he
          obtain ⟨⟨r, s⟩, hrun, heq⟩ := Option.map_eq_some_iff.1 hexec
          cases heq
          exact ⟨_, _, .responded _ _ _ _ (by simpa using he) hrun, hw.ledger, rfl⟩
      · cases hexec
    have hhas : ∀ id, (w.view scope).Has id → (w'.view scope).Has id := by
      intro id hid
      rw [hview]
      exact hx.has hid
    refine ⟨hledger, fun k a ha => ?_, ?_⟩
    · rw [hlog] at ha
      by_cases hk : i = k
      · subst hk
        rw [past_executed] at ha
        rcases hx.returned ha with hrow | hmem
        · rw [hview]
          exact ⟨a, hrow, rfl⟩
        · exact hhas _ (hw.returned i a hmem)
      · rw [past_executed_of_ne hk] at ha
        exact hhas _ (hw.returned k a ha)
    · rw [hview]
      exact hI.executed (w.view scope) i e r row s h hw.scope ⟨hmoves.turn, hmoves.unended⟩
        hpast hissue hallowed hx
  returned i e r w hw := hw
  finish i r w hw hmoves hend := by
    refine ⟨hw.ledger, fun k a ha => ?_,
      hI.ended (w.view scope) i r hw.scope ⟨hmoves.turn, hmoves.unended⟩ hend⟩
    refine hw.returned k a ?_
    by_cases hk : i = k
    · subst hk
      simpa [scopeMachine, Machine.guard, machine, past, Event.actor, Event.act,
        returnedActions] using ha
    · simpa [scopeMachine, Machine.guard, machine, past_ended_of_ne hk] using ha
  env c w w' hw h := by
    have hlog := log_of_env h
    have hreturned : ∀ k, ∀ a ∈ returnedActions (past k w'.log), (w.view scope).Has a.id := by
      rw [hlog]
      exact hw.returned
    simp only [scopeMachine, Machine.guard, machine] at h
    split at h
    · split at h
      · rename_i htick
        cases h
        exact ⟨hw.ledger, hreturned, hI.clock (w.view scope) _ hw.scope htick⟩
      · cases h
    · cases h
      exact ⟨hw.ledger, hreturned, hw.scope⟩
    · cases h
      exact ⟨fun hv => (hw.ledger hv).frame rfl rfl, hreturned, hw.scope⟩
    · obtain ⟨s, hs, rfl⟩ := Option.map_eq_some_iff.1 h
      exact ⟨hw.ledger, hreturned, hI.act (w.view scope) _ s hw.scope hs⟩
    · cases h
  spawn n j w w' hw hempty h := by
    cases h
    refine ⟨hw.ledger, fun k a ha => ?_, hI.started (w.view scope) n hw.scope hempty⟩
    rw [past_started] at ha
    exact hw.returned k a ha

/-- An invariant of the scope, and what else is known of it, after every run of handlers that keep
to their script. -/
theorem ScopeInvariant.state (hI : ScopeInvariant setup providers scope script allowed valid I)
    (hscript : ∀ h act, script h act → InScope scope h act)
    (hjob : ∀ j, (setup.job j).Keeps script []) {db : Database} {now : Timestamp} {s : S}
    (hvalid : valid → LedgerValid db) (hinit : I ⟨db.actionAt scope, now, s, []⟩)
    {moves : List (Move J (Choice M))} {c : Config handlerSignature ρ (World S ρ)}
    (hrun : (scopeMachine setup providers scope allowed).run
      (Config.init (World.initial db now s)) moves = some c) :
    ScopeState scope valid I c.world := by
  have hstate : ScopeState scope valid I (World.initial db now s) := by
    refine ⟨hvalid, fun i a ha => ?_, hinit⟩
    change a ∈ ([] : List ExternalAction) at ha
    cases ha
  exact (scopeMachine_records.run (scopeState_preserves hI hscript) hjob hstate (fun _ => rfl)
    hrun).inv

/-- An invariant of the scope holds after every run of handlers that keep to their script. -/
theorem ScopeInvariant.run (hI : ScopeInvariant setup providers scope script allowed valid I)
    (hscript : ∀ h act, script h act → InScope scope h act)
    (hjob : ∀ j, (setup.job j).Keeps script []) {db : Database} {now : Timestamp} {s : S}
    (hvalid : valid → LedgerValid db) (hinit : I ⟨db.actionAt scope, now, s, []⟩)
    {moves : List (Move J (Choice M))} {c : Config handlerSignature ρ (World S ρ)}
    (hrun : (scopeMachine setup providers scope allowed).run
      (Config.init (World.initial db now s)) moves = some c) : I (c.world.view scope) :=
  (hI.state hscript hjob hvalid hinit hrun).scope

end DeploymentLab
