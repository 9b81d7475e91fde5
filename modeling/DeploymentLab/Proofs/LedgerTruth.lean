import DeploymentLab.Proofs.RowWalk
import DeploymentLab.Proofs.Convergence

/-!
# What a row that has succeeded says

A run records a success for the row that it was handed, with the content that the row was of then.
The row still is of that content unless a later revision has replaced it. So a row that has
succeeded names the content it is of, as long as no success comes after a revision that its run has
not seen.
-/

namespace DeploymentLab

open Interaction HandlerContext DeploymentContextSyncHandler ExternalActionRepository Relational
  Database

/-- A success is recorded for the row that the run was handed, and is of its content. -/
def truthScript : Script handlerSignature DeploymentContextResult
  | h, .issued (.transition request) => TransitionRequest.newStatus request = .succeeded →
    ∃ row, handed h = some row ∧ (AsAsked h → row.id = request.actionId ∧
      request.values.appliedRequestFingerprint = some (some row.desiredRequestFingerprint))
  | _, _ => True

/-- `current` is the row that the run was handed, of the content `desired`. -/
def Holds (desired : Digest) (h : SyncPast) (current : ExternalAction) : Prop :=
  ∃ row, handed h = some row ∧
    (AsAsked h → row.id = current.id ∧ row.desiredRequestFingerprint = desired)

section Holding

variable {desired : Digest} {h : SyncPast} {current : ExternalAction} {request : TransitionRequest}

lemma Holds.await (hholds : Holds desired h current) (e : Effect) (r : Outcome e)
    (he : e.returnsRow = false) : Holds desired (.answered e r :: .issued e :: h) current := by
  obtain ⟨row, hrow, hsame⟩ := hholds
  refine ⟨row, ?_, fun hasked => hsame (hasked.mono fun _ hmem => ?_)⟩
  · rw [← hrow]
    cases e <;> first | rfl | cases he
  · exact List.mem_cons_of_mem _ (List.mem_cons_of_mem _ hmem)

lemma Holds.issue (hholds : Holds desired h current) (hid : request.actionId = current.id)
    (happlied : request.newStatus = .succeeded →
      request.values.appliedRequestFingerprint = some (some desired)) :
    truthScript h (.issued (.transition request)) := by
  intro hsucceeded
  obtain ⟨row, hrow, hsame⟩ := hholds
  refine ⟨row, hrow, fun hasked => ?_⟩
  obtain ⟨hrowid, hdesired⟩ := hsame hasked
  exact ⟨hrowid.trans hid.symm, (happlied hsucceeded).trans (by rw [hdesired])⟩

lemma Holds.step (hholds : Holds desired h current) (request : TransitionRequest)
    (hid : request.actionId = current.id) (a : ExternalAction) :
    Holds desired (.answered (.transition request) (.ok a) :: .issued (.transition request) :: h)
      a := by
  obtain ⟨row, hrow, hsame⟩ := hholds
  refine ⟨row, hrow, fun hasked => ?_⟩
  obtain ⟨hrowid, hdesired⟩ := hsame (hasked.mono fun _ hmem =>
    List.mem_cons_of_mem _ (List.mem_cons_of_mem _ hmem))
  exact ⟨(hrowid.trans hid.symm).trans (hasked.moved request a List.mem_cons_self).symm, hdesired⟩

lemma truthScript_walks : Walks truthScript desired fun _ h current => Holds desired h current where
  free h e he := by
    cases e <;> trivial
  await e r he hholds := hholds.await e r he
  issue hholds hsteps := hholds.issue hsteps.id hsteps.applied
  step a hholds hsteps := hholds.step _ hsteps.id a

lemma truthScript_resumes [Runtime] : Resumes truthScript := by
  intro settings task publication action h _ hhanded
  have hholds : Holds publication.desiredFingerprint h action :=
    ⟨action, hhanded.given, fun hasked => ⟨rfl, hhanded.content hasked⟩⟩
  refine truthScript_walks.reconcileAndApply ?_
  unfold startReconciliation
  split
  · intro current hcurrent
    obtain rfl := Except.ok.inj hcurrent
    exact hholds
  · refine Prog.emits_perform.2 ⟨hholds.issue rfl fun heq => (by cases heq), fun r current hr => ?_⟩
    subst hr
    exact hholds.step _ rfl current

end Holding

lemma truthScript_free (h : SyncPast) (e : Effect) (he : e.moves = false) :
    truthScript h (.issued e) := by
  cases e <;> trivial

lemma truthScript_delivers : Delivers truthScript Holds where
  free := truthScript_free
  given := by
    intro desired h request reservation _ hdesired hkind
    refine ⟨reservation.action, rfl, fun hasked => ⟨rfl, ?_⟩⟩
    rw [← hdesired]
    exact hasked.reserved request reservation List.mem_cons_self hkind
  await e r he hholds := hholds.await e r he
  issue hholds hid happlied := hholds.issue hid happlied
  step request a hholds hid := hholds.step request hid a

/-- Every row that has succeeded is of the content that has been applied. -/
def Truthful (db : Database) : Prop :=
  ∀ a ∈ db.externalActions.rows, a.status = .succeeded →
    a.appliedRequestFingerprint = some a.desiredRequestFingerprint

/-- `a'` is the row `a` later on. At one revision, it is of one content. -/
structure Ages (a a' : ExternalAction) : Prop where
  revision : a.revision ≤ a'.revision
  content : a'.revision = a.revision → a'.desiredRequestFingerprint = a.desiredRequestFingerprint

lemma Ages.refl (a : ExternalAction) : Ages a a := ⟨le_refl _, fun _ => rfl⟩

lemma Ages.trans {a b c : ExternalAction} (hab : Ages a b) (hbc : Ages b c) : Ages a c := by
  refine ⟨hab.revision.trans hbc.revision, fun hrevision => ?_⟩
  have hsame : b.revision = a.revision :=
    le_antisymm (hbc.revision.trans hrevision.le) hab.revision
  exact (hbc.content (hrevision.trans hsame.symm)).trans (hab.content hsame)

section Transaction

variable {db db' : Database} {a : ExternalAction} {id : UUID} {now : Timestamp} {e : Effect}
  {r : Outcome e}

lemma ages_revised {request : RevisionRequest} (hrevision : a.revision = request.expectedRevision) :
    Ages a (revised now request a) := by
  have hnext : (revised now request a).revision = a.revision + 1 := by
    rw [hrevision]
    rfl
  refine ⟨?_, fun hsame => ?_⟩
  · rw [hnext]
    exact Int.le_add_one (le_refl _)
  · rw [hnext] at hsame
    omega

lemma LedgerWrite.ages (hwrite : LedgerWrite db db' now e r) (ha : db.action id = some a) :
    ∃ a', db'.action id = some a' ∧ Ages a a' :=
  hwrite.action_kept Ages.refl (fun _ _ => ⟨le_refl _, fun _ => rfl⟩)
    (fun _ _ => ⟨le_refl _, fun _ => rfl⟩) (fun _ _ _ hrevision => ages_revised hrevision) ha

/-- Only a revision changes the revision of a row. -/
lemma LedgerWrite.revision (hwrite : LedgerWrite db db' now e r)
    (hrevise : ∀ request a, (⟨e, r⟩ : (e : Effect) × Outcome e) ≠ ⟨.revise request, .ok a⟩)
    (ha : db.action id = some a) : ∃ a', db'.action id = some a' ∧ a'.revision = a.revision :=
  hwrite.action_kept (K := fun a a' => a'.revision = a.revision) (fun _ => rfl)
    (fun _ _ => rfl) (fun _ _ => rfl) (fun _ _ heq => absurd heq (hrevise _ _)) ha

/-- A write keeps the ledger truthful, unless it is a success that records other content than its
row is of. -/
lemma LedgerWrite.truthful (hwrite : LedgerWrite db db' now e r) (hdb : Truthful db)
    (hsuccess : ∀ request a, (⟨e, r⟩ : (e : Effect) × Outcome e) = ⟨.transition request, .ok a⟩ →
      TransitionRequest.newStatus request = .succeeded →
        ExternalAction.appliedRequestFingerprint a = some a.desiredRequestFingerprint) :
    Truthful db' := by
  have hrewritten : ∀ {b b'}, Rewrites db db' b b' → (b'.status = .succeeded →
      b'.appliedRequestFingerprint = some b'.desiredRequestFingerprint) → Truthful db' := by
    intro b b' hrewrites hb' a ha
    rw [hrewrites.rows] at ha
    obtain ⟨r, hr, rfl⟩ := List.mem_map.1 ha
    split
    · exact hb'
    · exact hdb r hr
  cases hwrite with
  | frame hrow hactions =>
    unfold Truthful
    rw [hactions]
    exact hdb
  | creates id request hinserts =>
    intro a ha hstatus
    rw [hinserts.rows, List.mem_append, List.mem_singleton] at ha
    rcases ha with ha | rfl
    · exact hdb a ha hstatus
    · cases hstatus
  | replays request b hb hprovider hrewrites => exact hrewritten hrewrites (hdb b hrewrites.present)
  | moves request b hb hstatus hrewrites => exact hrewritten hrewrites (hsuccess request _ rfl)
  | revises request b hb hstatus hrevision hbound hrewrites =>
    exact hrewritten hrewrites fun heq => by cases heq

/-- The ledger gives the rows that are asked for. -/
lemma LedgerWrite.asAsked {h : SyncPast} (hwrite : LedgerWrite db db' now e r) (hh : AsAsked h) :
    AsAsked (.answered e r :: h) := by
  refine ⟨fun request reservation hmem hagrees => ?_, fun request a hmem => ?_,
    fun request a hmem => ?_⟩
  · rcases List.mem_cons.1 hmem with heq | hmem
    · cases heq
      have hcontent := hwrite.reserved.2 hagrees
      simp only [ExternalAction.content, Prod.mk.injEq] at hcontent
      exact hcontent.2.1
    · exact hh.reserved request reservation hmem hagrees
  · rcases List.mem_cons.1 hmem with heq | hmem
    · cases heq
      cases hwrite with
      | frame hrow => cases hrow
      | revises => rfl
    · exact hh.revised request a hmem
  · rcases List.mem_cons.1 hmem with heq | hmem
    · cases heq
      cases hwrite with
      | frame hrow => cases hrow
      | moves request b hb => exact (action_eq_some_iff.1 hb).2
    · exact hh.moved request a hmem

/-- The row that a run was handed last, after an await. -/
lemma LedgerWrite.handed {h : SyncPast} {row : ExternalAction}
    (hwrite : LedgerWrite db db' now e r) (hrow : handed (.answered e r :: h) = some row) :
    (handed h = some row ∧
      ∀ request a, (⟨e, r⟩ : (e : Effect) × Outcome e) ≠ ⟨.revise request, .ok a⟩) ∨
      db'.action row.id = some row := by
  cases hwrite with
  | frame hnone =>
    refine .inl ⟨?_, fun request a heq => ?_⟩
    · rw [← hrow]
      cases e with
      | reserveOrGet request =>
        cases r with
        | ok reservation => cases hnone
        | error x => rfl
      | revise request =>
        cases r with
        | ok a => cases hnone
        | error x => rfl
      | record | transition | reconciliationDelaySeconds | fetchRecords | verifyGitHubIdentity
      | fetchContext | getComment | findCommentsByMarker | createComment | updateComment
      | fetchIssue | verifySlackIdentity | postNotification => rfl
    · cases heq
      cases hnone
  | creates id request hinserts =>
    obtain rfl := Option.some.inj hrow
    exact .inr (action_of_actionAt hinserts.actionAt_self)
  | replays request b hb hprovider hrewrites =>
    obtain rfl := Option.some.inj hrow
    exact .inr hrewrites.action_self
  | moves request b hb hstatus hrewrites => exact .inl ⟨hrow, fun _ _ => nofun⟩
  | revises request b hb hstatus hrevision hbound hrewrites =>
    obtain rfl := Option.some.inj hrow
    exact .inr hrewrites.action_self

end Transaction

/-- Every success has found its row at the revision at which its run was handed it. -/
def timely : List (Event DeploymentContextResult) → Bool
  | [] => true
  | .executed i _ (.transition request) (.ok a) :: log =>
    (TransitionRequest.newStatus request != .succeeded ||
      (handed (past i log)).all fun row => row.revision == ExternalAction.revision a) && timely log
  | _ :: log => timely log

/-- No row has been revised. -/
def unrevised : List (Event DeploymentContextResult) → Bool
  | [] => true
  | .executed _ _ (.revise _) (.ok _) :: _ => false
  | _ :: log => unrevised log

/-- Every run has been handed a row that is still there, only older, and the ledger is truthful as
long as every success is timely. -/
structure TruthState {S : Type} (w : World S DeploymentContextResult) : Prop where
  asked : ∀ i, AsAsked (past i w.log)
  aged : ∀ i row, handed (past i w.log) = some row → ∃ a, w.database.action row.id = some a ∧
    Ages row a
  truthful : timely w.log = true → Truthful w.database

section Run

variable {S M J : Type} {setup : Setup J DeploymentContextResult} {providers : Provider S M}
  {w w' : World S DeploymentContextResult} {h : SyncPast}

/-- The event is no execution. -/
def Event.IsNote (event : Event DeploymentContextResult) : Prop :=
  ∀ i t e r, event ≠ .executed i t e r

lemma handed_cons {act : Act handlerSignature DeploymentContextResult}
    (hact : ∀ e r, act ≠ .answered e r) : handed (act :: h) = handed h := by
  cases act with
  | answered e r => exact absurd rfl (hact e r)
  | issued | ended => rfl

lemma AsAsked.cons {act : Act handlerSignature DeploymentContextResult} (hasked : AsAsked h)
    (hact : ∀ e r, act ≠ .answered e r) : AsAsked (act :: h) where
  reserved request reservation hmem :=
    hasked.reserved request reservation (List.mem_of_ne_of_mem (hact _ _).symm hmem)
  revised request a hmem :=
    hasked.revised request a (List.mem_of_ne_of_mem (hact _ _).symm hmem)
  moved request a hmem := hasked.moved request a (List.mem_of_ne_of_mem (hact _ _).symm hmem)

/-- A note adds no answer to a past. -/
lemma past_note {event : Event DeploymentContextResult} (hevent : event.IsNote) (k : ℕ)
    (log : List (Event DeploymentContextResult)) :
    past k (event :: log) = past k log ∨
      ∃ act, (∀ e r, act ≠ .answered e r) ∧ past k (event :: log) = act :: past k log := by
  by_cases hactor : event.actor = k
  · cases event with
    | started j t => exact .inl past_started
    | executed j t e r => exact absurd rfl (hevent j t e r)
    | issued j t e =>
      obtain rfl : j = k := hactor
      exact .inr ⟨.issued e, fun _ _ => nofun, past_issued⟩
    | ended j r =>
      obtain rfl : j = k := hactor
      exact .inr ⟨.ended r, fun _ _ => nofun, past_ended⟩
  · exact .inl (past_of_ne hactor)

/-- A note of another event than an execution. -/
lemma TruthState.note (hw : TruthState w) (event : Event DeploymentContextResult)
    (hlog : w'.log = event :: w.log)
    (hactions : w'.database.externalActions = w.database.externalActions)
    (hevent : event.IsNote) : TruthState w' := by
  have hpast : ∀ k, past k w'.log = past k w.log ∨
      ∃ act, (∀ e r, act ≠ .answered e r) ∧ past k w'.log = act :: past k w.log := by
    intro k
    rw [hlog]
    exact past_note hevent k w.log
  refine ⟨fun k => ?_, fun k row hrow => ?_, fun htimely => ?_⟩
  · rcases hpast k with heq | ⟨act, hact, heq⟩
    · rw [heq]
      exact hw.asked k
    · rw [heq]
      exact (hw.asked k).cons hact
  · unfold Database.action
    rw [hactions]
    refine hw.aged k row ?_
    rw [← hrow]
    rcases hpast k with heq | ⟨act, hact, heq⟩
    · rw [heq]
    · rw [heq, handed_cons hact]
  · unfold Truthful
    rw [hactions]
    refine hw.truthful ?_
    rw [← htimely, hlog]
    cases event with
    | executed j t e r => exact absurd rfl (hevent j t e r)
    | started | issued | ended => rfl

/-- The row of a success is of the content that is recorded where the success is timely. -/
lemma TruthState.success (hw : TruthState w) {i : ℕ} {now : Timestamp} {db' : Database}
    {request : TransitionRequest} {a : ExternalAction} {earlier : SyncPast}
    (hpast : past i w.log = .issued (.transition request) :: earlier)
    (hscript : truthScript earlier (.issued (.transition request)))
    (hwrite : LedgerWrite w.database db' now (.transition request) (.ok a))
    (hsucceeded : request.newStatus = .succeeded)
    (htimely : ((handed (past i w.log)).all fun row => row.revision == a.revision) = true) :
    a.appliedRequestFingerprint = some a.desiredRequestFingerprint := by
  obtain ⟨row, hrow, hsame⟩ := hscript hsucceeded
  have hasked := hw.asked i
  rw [hpast] at hasked
  obtain ⟨hid, happlied⟩ := hsame (hasked.mono (List.subset_cons_self _ _))
  have hhanded : handed (past i w.log) = some row := by
    rw [hpast]
    exact hrow
  obtain ⟨b, hb, hages⟩ := hw.aged i row hhanded
  rw [hhanded, Option.all_some, beq_iff_eq] at htimely
  cases hwrite with
  | frame hnone => cases hnone
  | moves request b' hb' hstatus hrewrites =>
    rw [hid, hb'] at hb
    obtain rfl := Option.some.inj hb
    have hdesired : b'.desiredRequestFingerprint = row.desiredRequestFingerprint :=
      hages.content htimely.symm
    change request.values.appliedRequestFingerprint.getD _ = some b'.desiredRequestFingerprint
    rw [happlied, hdesired]
    rfl

lemma timely_executed {i : ℕ} {t : Timestamp} {e : Effect} {r : Outcome e}
    {log : List (Event DeploymentContextResult)} (h : timely (.executed i t e r :: log) = true) :
    timely log = true ∧ ∀ request a, (⟨e, r⟩ : (e : Effect) × Outcome e) =
      ⟨.transition request, .ok a⟩ → TransitionRequest.newStatus request = .succeeded →
        ((handed (past i log)).all fun row => row.revision == ExternalAction.revision a) =
          true := by
  unfold timely at h
  split at h
  · rename_i heq
    cases heq
  · rename_i heq
    cases heq
    rw [Bool.and_eq_true, Bool.or_eq_true] at h
    refine ⟨h.2, fun request a heq hsucceeded => ?_⟩
    cases heq
    refine h.1.resolve_left fun hne => ?_
    rw [bne_iff_ne] at hne
    exact hne hsucceeded
  · rename_i hne heq
    cases heq
    refine ⟨h, fun request a heq _ => ?_⟩
    cases heq
    exact (hne i t request a rfl).elim

variable [Runtime]

lemma truthState_preserves : (machine setup providers).Preserves (fun i w => past i w.log)
    (fun i w => setup.Turn i w.log) truthScript TruthState where
  issue i e w hw _ _ := hw.note (.issued i w.now e) rfl rfl fun _ _ _ _ => nofun
  exec i e c w r w' h hw _ hpast hscript hexec := by
    have hlog := log_of_exec hexec
    have hwrite := exec_writes hexec
    have hother : ∀ k, k ≠ i → past k w'.log = past k w.log := fun k hk => by
      rw [hlog]
      exact past_executed_of_ne hk.symm
    refine ⟨fun k => ?_, fun k row hrow => ?_, fun htimely => ?_⟩
    · by_cases hk : k = i
      · subst hk
        rw [hlog, past_executed]
        exact hwrite.asAsked (hw.asked k)
      · rw [hother k hk]
        exact hw.asked k
    · have hcurrent : handed (past k w.log) = some row → ∃ a,
          w'.database.action row.id = some a ∧ Ages row a := by
        intro hhanded
        obtain ⟨a, ha, hages⟩ := hw.aged k row hhanded
        obtain ⟨a', ha', hages'⟩ := hwrite.ages ha
        exact ⟨a', ha', hages.trans hages'⟩
      by_cases hk : k = i
      · subst hk
        rw [hlog, past_executed] at hrow
        rcases hwrite.handed hrow with ⟨hhanded, -⟩ | hself
        · exact hcurrent hhanded
        · exact ⟨row, hself, Ages.refl row⟩
      · rw [hother k hk] at hrow
        exact hcurrent hrow
    · rw [hlog] at htimely
      obtain ⟨hbefore, hsuccess⟩ := timely_executed htimely
      refine hwrite.truthful (hw.truthful hbefore) fun request a heq hsucceeded => ?_
      have hall := hsuccess request a heq hsucceeded
      cases heq
      exact hw.success hpast hscript hwrite hsucceeded hall
  returned i e r w hw := hw
  finish i r w hw _ _ := hw.note (.ended i r) rfl rfl fun _ _ _ _ => nofun
  env c w w' hw henv := by
    have hlog := log_of_env henv
    have hactions := externalActions_of_env henv
    refine ⟨fun k => ?_, fun k row hrow => ?_, fun htimely => ?_⟩
    · rw [hlog]
      exact hw.asked k
    · rw [hlog] at hrow
      unfold Database.action
      rw [hactions]
      exact hw.aged k row hrow
    · rw [hlog] at htimely
      unfold Truthful
      rw [hactions]
      exact hw.truthful htimely
  spawn n j w w' hw _ hspawn := by
    cases hspawn
    exact hw.note (.started n w.now) rfl rfl fun _ _ _ _ => nofun

lemma truthState_run [LaxCoercion] {tasks : J → SyncTask} {setup : Setup J DeploymentContextResult}
    (hjobs : setup.job = fun j => (tasks j).run) {db : Database} {now : Timestamp} {s : S}
    (hdb : Truthful db) {moves : List (Move J (Choice M))}
    {c : Config handlerSignature DeploymentContextResult (World S DeploymentContextResult)}
    (hrun : (machine setup providers).run (Config.init (World.initial db now s)) moves = some c) :
    TruthState c.world := by
  have hkeeps : ∀ j, ((machine setup providers).job j).Keeps truthScript [] := by
    intro j
    change (setup.job j).Keeps truthScript []
    rw [hjobs]
    exact Prog.emits_mono (truthScript_delivers.execute truthScript_resumes) fun _ _ _ => trivial
  have hinit : TruthState (World.initial db now s : World S DeploymentContextResult) :=
    ⟨fun i => ⟨fun _ _ => nofun, fun _ _ => nofun, fun _ _ => nofun⟩,
      fun _ _ => nofun, fun _ => hdb⟩
  exact (machine_records.run truthState_preserves hkeeps hinit (fun _ => rfl) hrun).inv

/-! ## Runs in which every success is timely -/

/-- Handler `i` is alone, or no row has been revised. -/
def Unshared (setup : Setup J DeploymentContextResult) (i : ℕ)
    (log : List (Event DeploymentContextResult)) : Prop :=
  (setup.exclusive = true ∧ latest log = some i) ∨ unrevised log = true

/-- A handler that is undisturbed has its row at the revision at which it was handed it. -/
structure SettledState (setup : Setup J DeploymentContextResult)
    (w : World S DeploymentContextResult) : Prop extends TruthState w where
  current : ∀ i row, Unshared setup i w.log → handed (past i w.log) = some row →
    ∃ a, w.database.action row.id = some a ∧ a.revision = row.revision
  timely : setup.exclusive = true ∨ unrevised w.log = true → timely w.log = true

omit [Runtime] in
lemma unrevised_cons {event : Event DeploymentContextResult}
    {log : List (Event DeploymentContextResult)} (h : unrevised (event :: log) = true) :
    unrevised log = true ∧ ∀ i t request a, event ≠ .executed i t (.revise request) (.ok a) := by
  unfold unrevised at h
  split at h
  · rename_i heq
    cases heq
  · cases h
  · rename_i hne heq
    cases heq
    exact ⟨h, fun i t request a heq => hne i t request a heq⟩

omit [Runtime] in
lemma unrevised_note {event : Event DeploymentContextResult}
    (log : List (Event DeploymentContextResult)) (hevent : event.IsNote) :
    unrevised (event :: log) = unrevised log ∧
      DeploymentLab.timely (event :: log) = DeploymentLab.timely log := by
  cases event with
  | executed i t e r => exact absurd rfl (hevent i t e r)
  | started | issued | ended => exact ⟨rfl, rfl⟩

omit [Runtime] in
/-- A note by the handler that was alone, or by any other when no row has been revised. -/
lemma SettledState.note (hw : SettledState setup w) (event : Event DeploymentContextResult)
    (hlog : w'.log = event :: w.log)
    (hactions : w'.database.externalActions = w.database.externalActions)
    (hevent : event.IsNote)
    (hlatest : ∀ i, latest w'.log = some i → handed (past i w'.log) ≠ none →
      latest w.log = some i) : SettledState setup w' := by
  have htruth := hw.toTruthState.note event hlog hactions hevent
  obtain ⟨hunrevised, htimely⟩ := unrevised_note w.log hevent
  have hpast : ∀ k, handed (past k w'.log) = handed (past k w.log) := by
    intro k
    rw [hlog]
    rcases past_note hevent k w.log with heq | ⟨act, hact, heq⟩
    · rw [heq]
    · rw [heq, handed_cons hact]
  refine ⟨htruth, fun i row hunshared hrow => ?_, fun hsettled => ?_⟩
  · have hbefore : Unshared setup i w.log := by
      rcases hunshared with ⟨hexclusive, hlast⟩ | hnone
      · refine .inl ⟨hexclusive, hlatest i hlast ?_⟩
        rw [hrow]
        exact nofun
      · rw [hlog, hunrevised] at hnone
        exact .inr hnone
    rw [hpast] at hrow
    unfold Database.action
    rw [hactions]
    exact hw.current i row hbefore hrow
  · rw [hlog, hunrevised] at hsettled
    rw [hlog, htimely]
    exact hw.timely hsettled

omit [Runtime] in
lemma latest_note (event : Event DeploymentContextResult)
    {log : List (Event DeploymentContextResult)} (hevent : ∀ i t, event ≠ .started i t) :
    latest (event :: log) = latest log := by
  cases event with
  | started i t => exact absurd rfl (hevent i t)
  | issued | executed | ended => rfl

lemma settledState_preserves : (machine setup providers).Preserves (fun i w => past i w.log)
    (fun i w => setup.Turn i w.log) truthScript (SettledState setup) where
  issue i e w hw _ _ := by
    refine hw.note (.issued i w.now e) rfl rfl (fun _ _ _ _ => nofun) fun k hlast _ => ?_
    rwa [← latest_note (.issued i w.now e) fun _ _ => nofun]
  exec i e c w r w' h hw hmoves hpast hscript hexec := by
    have htruth := truthState_preserves.exec i e c w r w' h hw.toTruthState hmoves hpast hscript
      hexec
    have hlog := log_of_exec hexec
    have hwrite := exec_writes hexec
    have hlatest : latest w'.log = latest w.log := by
      rw [hlog]
      exact latest_note _ fun _ _ => nofun
    refine ⟨htruth, fun k row hunshared hrow => ?_, fun hsettled => ?_⟩
    · have hkept : (∀ request a, (⟨e, r⟩ : (e : Effect) × Outcome e) ≠ ⟨.revise request, .ok a⟩) →
          Unshared setup k w.log → handed (past k w.log) = some row →
            ∃ a, w'.database.action row.id = some a ∧ a.revision = row.revision := by
        intro hrevise hbefore hhanded
        obtain ⟨a, ha, hrevision⟩ := hw.current k row hbefore hhanded
        obtain ⟨a', ha', hsame⟩ := hwrite.revision hrevise ha
        exact ⟨a', ha', hsame.trans hrevision⟩
      by_cases hk : k = i
      · subst hk
        have hbefore : Unshared setup k w.log := by
          rcases hunshared with ⟨hexclusive, hlast⟩ | hnone
          · exact .inl ⟨hexclusive, hlatest ▸ hlast⟩
          · rw [hlog] at hnone
            exact .inr (unrevised_cons hnone).1
        rw [hlog, past_executed] at hrow
        rcases hwrite.handed hrow with ⟨hhanded, hrevise⟩ | hself
        · exact hkept hrevise hbefore hhanded
        · exact ⟨row, hself, rfl⟩
      · rcases hunshared with ⟨hexclusive, hlast⟩ | hnone
        · rw [hlatest, hmoves.turn hexclusive] at hlast
          exact absurd (Option.some.inj hlast).symm hk
        · rw [hlog] at hnone hrow
          rw [past_executed_of_ne (Ne.symm hk)] at hrow
          obtain ⟨hnone, hrevise⟩ := unrevised_cons hnone
          refine hkept (fun request a heq => ?_) (.inr hnone) hrow
          cases heq
          exact hrevise _ _ _ _ rfl
    · have hbefore : setup.exclusive = true ∨ unrevised w.log = true := by
        refine hsettled.imp_right fun hnone => ?_
        rw [hlog] at hnone
        exact (unrevised_cons hnone).1
      have hunshared : Unshared setup i w.log :=
        hbefore.imp_left fun hexclusive => ⟨hexclusive, hmoves.turn hexclusive⟩
      rw [hlog]
      unfold DeploymentLab.timely
      split
      · rfl
      · rename_i j t request a log heq
        cases heq
        rw [Bool.and_eq_true, Bool.or_eq_true, bne_iff_ne]
        refine ⟨?_, hw.timely hbefore⟩
        by_cases hsucceeded : request.newStatus = .succeeded
        · refine .inr ?_
          obtain ⟨row, hrow, hsame⟩ := hscript hsucceeded
          have hasked := hw.asked i
          rw [hpast] at hasked
          obtain ⟨hid, -⟩ := hsame (hasked.mono (List.subset_cons_self _ _))
          have hhanded : handed (past i w.log) = some row := by
            rw [hpast]
            exact hrow
          obtain ⟨b, hb, hrevision⟩ := hw.current i row hunshared hhanded
          rw [hhanded, Option.all_some, beq_iff_eq, ← hrevision]
          cases hwrite with
          | frame hnone => cases hnone
          | moves request b' hb' hstatus hrewrites =>
            rw [hid, hb'] at hb
            obtain rfl := Option.some.inj hb
            rfl
        · exact .inl hsucceeded
      · rename_i heq
        cases heq
        exact hw.timely hbefore
  returned i e r w hw := hw
  finish i r w hw _ _ := by
    refine hw.note (.ended i r) rfl rfl (fun _ _ _ _ => nofun) fun k hlast _ => ?_
    rwa [← latest_note (.ended i r) fun _ _ => nofun]
  env c w w' hw henv := by
    have hlog := log_of_env henv
    have hactions := externalActions_of_env henv
    refine ⟨truthState_preserves.env c w w' hw.toTruthState henv, fun k row hunshared hrow => ?_,
      fun hsettled => ?_⟩
    · rw [hlog] at hunshared hrow
      unfold Database.action
      rw [hactions]
      exact hw.current k row hunshared hrow
    · rw [hlog] at hsettled ⊢
      exact hw.timely hsettled
  spawn n j w w' hw hempty hspawn := by
    cases hspawn
    refine hw.note (.started n w.now) rfl rfl (fun _ _ _ _ => nofun) fun k hlast hrow => ?_
    obtain rfl : n = k := Option.some.inj hlast
    refine absurd ?_ hrow
    change handed (past n (.started n w.now :: w.log)) = none
    change past n w.log = [] at hempty
    rw [past_started, hempty]
    rfl

lemma settledState_run [LaxCoercion] {tasks : J → SyncTask}
    (hjobs : setup.job = fun j => (tasks j).run) {db : Database} {now : Timestamp} {s : S}
    (hdb : Truthful db) {moves : List (Move J (Choice M))}
    {c : Config handlerSignature DeploymentContextResult (World S DeploymentContextResult)}
    (hrun : (machine setup providers).run (Config.init (World.initial db now s)) moves = some c) :
    SettledState setup c.world := by
  have hkeeps : ∀ j, ((machine setup providers).job j).Keeps truthScript [] := by
    intro j
    change (setup.job j).Keeps truthScript []
    rw [hjobs]
    exact Prog.emits_mono (truthScript_delivers.execute truthScript_resumes) fun _ _ _ => trivial
  have hinit : SettledState setup (World.initial db now s : World S DeploymentContextResult) :=
    ⟨⟨fun i => ⟨fun _ _ => nofun, fun _ _ => nofun, fun _ _ => nofun⟩, fun _ _ => nofun,
      fun _ => hdb⟩, fun _ _ _ => nofun, fun _ => rfl⟩
  exact (machine_records.run settledState_preserves hkeeps hinit (fun _ => rfl) hrun).inv

end Run

namespace Sample

lemma truthful_database : Truthful database := by
  intro a ha
  change a ∈ [] at ha
  cases ha

attribute [local instance] syncHost laxCoercion

set_option maxRecDepth 100000 in
lemma runSync_timely : ((runSync published).any fun c => timely c.world.log &&
    c.world.database.externalActions.rows.any fun a => a.status == .succeeded) = true := by
  decide +kernel

/-- The machine of one handler at a time, whose moves are those of `published`. -/
def aloneMachine : Machine handlerSignature DeploymentContextResult ℕ
    (World Unit DeploymentContextResult) (Choice ((e : Effect) → Outcome e)) :=
  machine { syncTasks syncTask (fun now later => decide (now ≤ later)) 65536 with
    exclusive := true } anyProvider

set_option maxRecDepth 100000 in
lemma aloneMachine_published : ((aloneMachine.run (Config.init (World.initial database 0 ()))
    published).any fun c => c.world.database.externalActions.rows.any fun a =>
      a.status == .succeeded) = true := by
  decide +kernel

end Sample

/-- Whatever the interleaving, a row that has succeeded names as applied the content that it is of,
as long as every success has found its row at the revision at which its run was handed it. -/
theorem ledger_truthful [Runtime] [LaxCoercion] {S M J : Type} {providers : Provider S M}
    {tasks : J → SyncTask} {tick : Timestamp → Timestamp → Bool} {maximumBytes : ℕ}
    {db : Database} {now : Timestamp} {s : S} {moves : List (Move J (Choice M))}
    {c : Config handlerSignature DeploymentContextResult (World S DeploymentContextResult)}
    (hdb : Truthful db)
    (hrun : (machine (syncTasks tasks tick maximumBytes) providers).run
      (Config.init (World.initial db now s)) moves = some c)
    (htimely : timely c.world.log = true) {a : ExternalAction}
    (ha : a ∈ c.world.database.externalActions.rows) (hstatus : a.status = .succeeded) :
    a.appliedRequestFingerprint = some a.desiredRequestFingerprint :=
  (truthState_run rfl hdb hrun).truthful htimely a ha hstatus

attribute [local instance] Sample.syncHost Sample.laxCoercion in
open Sample in
theorem ledger_truthful_published : ∃ c, runSync published = some c ∧
    ∃ a ∈ c.world.database.externalActions.rows, a.status = .succeeded ∧
      a.appliedRequestFingerprint = some a.desiredRequestFingerprint := by
  have hrun := runSync_timely
  simp only [Option.any_eq_true, Bool.and_eq_true, List.any_eq_true, beq_iff_eq] at hrun
  obtain ⟨c, hc, htimely, a, ha, hstatus⟩ := hrun
  exact ⟨c, hc, a, ha, hstatus, ledger_truthful truthful_database hc htimely ha hstatus⟩

/-- Where handlers run one at a time, or where no row is revised, a row that has succeeded names as
applied the content that it is of. -/
theorem ledger_truthful_settled [Runtime] [LaxCoercion] {S M J : Type} {providers : Provider S M}
    {tasks : J → SyncTask} {tick : Timestamp → Timestamp → Bool} {maximumBytes : ℕ}
    {exclusive : Bool} {db : Database} {now : Timestamp} {s : S} {moves : List (Move J (Choice M))}
    {c : Config handlerSignature DeploymentContextResult (World S DeploymentContextResult)}
    (hdb : Truthful db)
    (hrun : (machine { syncTasks tasks tick maximumBytes with exclusive } providers).run
      (Config.init (World.initial db now s)) moves = some c)
    (hsettled : exclusive = true ∨ unrevised c.world.log = true) {a : ExternalAction}
    (ha : a ∈ c.world.database.externalActions.rows) (hstatus : a.status = .succeeded) :
    a.appliedRequestFingerprint = some a.desiredRequestFingerprint := by
  have hstate := settledState_run rfl hdb hrun
  exact hstate.truthful (hstate.timely hsettled) a ha hstatus

attribute [local instance] Sample.syncHost Sample.laxCoercion in
open Sample in
theorem ledger_truthful_settled_published : ∃ c,
    aloneMachine.run (Config.init (World.initial database 0 ())) published = some c ∧
      ∃ a ∈ c.world.database.externalActions.rows, a.status = .succeeded ∧
        a.appliedRequestFingerprint = some a.desiredRequestFingerprint := by
  have hrun := aloneMachine_published
  simp only [Option.any_eq_true, List.any_eq_true, beq_iff_eq] at hrun
  obtain ⟨c, hc, a, ha, hstatus⟩ := hrun
  exact ⟨c, hc, a, ha, hstatus,
    ledger_truthful_settled truthful_database hc (.inl rfl) ha hstatus⟩

end DeploymentLab
