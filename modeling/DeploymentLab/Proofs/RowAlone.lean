import DeploymentLab.Proofs.Checkpoints

/-!
# A run that has its row to itself

While a run holds the row of its scope, the transitions of other runs may move the row under it.
Where handlers run one at a time they cannot: each transition then finds the row as the ledger
last returned it to the run (`rowAlone_run`).
-/

namespace DeploymentLab

open Interaction DeploymentContextSyncHandler ExternalActionRepository

/-! ## A row that nobody else moves -/

/-- Every transition has found the row as the ledger returned it to this run before. -/
def RowAlone (h : SyncPast) : Prop :=
  ∀ later request a earlier row, h = later ++ .answered (.transition request) (.ok a) :: earlier →
    (returnedActions earlier).head? = some row → row.id = request.actionId →
      row.status ∈ TransitionRequest.expectedStatuses request ∧
        ∃ now, a = transitioned now request row

section RowAlone

variable {h : SyncPast} {act : Act handlerSignature DeploymentContextResult}
  {request : TransitionRequest} {a row : ExternalAction}

lemma RowAlone.of_cons (halone : RowAlone (act :: h)) : RowAlone h := by
  intro later request a earlier row heq
  apply halone (act :: later)
  rw [heq, List.cons_append]

lemma RowAlone.of_append {later : SyncPast} (halone : RowAlone (later ++ h)) : RowAlone h := by
  induction later with
  | nil => exact halone
  | cons act later ih => exact ih halone.of_cons

lemma RowAlone.of_suffix {h' : SyncPast} (halone : RowAlone h') (hsuffix : h <:+ h') :
    RowAlone h := by
  obtain ⟨later, rfl⟩ := hsuffix
  exact halone.of_append

lemma RowAlone.last (halone : RowAlone (.answered (.transition request) (.ok a) :: h))
    (hhead : (returnedActions h).head? = some row) (hid : row.id = request.actionId) :
    row.status ∈ request.expectedStatuses ∧ ∃ now, a = transitioned now request row :=
  halone [] request a h row rfl hhead hid

lemma rowAlone_nil : RowAlone [] := by
  intro later request a earlier row heq
  have := congrArg List.length heq
  simp at this

lemma RowAlone.cons (halone : RowAlone h)
    (hact : ∀ request a, act ≠ .answered (.transition request) (.ok a)) :
    RowAlone (act :: h) := by
  intro later request a earlier row heq
  cases later with
  | nil => exact absurd (List.cons.inj heq).1 (hact request a)
  | cons b later => exact halone later request a earlier row (List.cons.inj heq).2

lemma RowAlone.issued {e : Effect} (halone : RowAlone h) : RowAlone (.issued e :: h) :=
  halone.cons fun _ _ heq => by cases heq

/-- An await that is no transition. -/
lemma RowAlone.await {e : Effect} {r : Outcome e} (halone : RowAlone h)
    (he : ∀ request, e ≠ .transition request) : RowAlone (.answered e r :: .issued e :: h) := by
  refine halone.issued.cons fun request a heq => ?_
  cases heq
  exact he request rfl

/-- An await that has failed. -/
lemma RowAlone.failed {e : Effect} {x : Exn} (halone : RowAlone h) :
    RowAlone (.answered e (.error x) :: .issued e :: h) := by
  refine halone.issued.cons fun request a heq => ?_
  cases e with
  | transition => cases heq
  | record | reserveOrGet | revise | reconciliationDelaySeconds | fetchRecords
  | verifyGitHubIdentity | fetchContext | getComment | findCommentsByMarker | createComment
  | updateComment | fetchIssue | verifySlackIdentity | postNotification => cases heq

/-- The ledger answers a transition with the row that it finds and writes. -/
lemma RowAlone.answer (halone : RowAlone h)
    (hrow : ∀ row, (returnedActions h).head? = some row → row.id = request.actionId →
      row.status ∈ request.expectedStatuses ∧ ∃ now, a = transitioned now request row) :
    RowAlone (.answered (.transition request) (.ok a) :: h) := by
  intro later request' a' earlier row heq hhead hid
  cases later with
  | nil =>
    obtain ⟨hact, rfl⟩ := List.cons.inj heq
    cases hact
    exact hrow row hhead hid
  | cons b later => exact halone later request' a' earlier row (List.cons.inj heq).2 hhead hid

end RowAlone

/-- The rows are bound to the same comment, at the same revision. -/
structure SameBinding (a b : ExternalAction) : Prop where
  id : b.id = a.id
  scope : b.actionScopeKey = a.actionScopeKey
  identifier : b.providerResourceIdentifier = a.providerResourceIdentifier
  revision : b.revision = a.revision
  applied : b.appliedRequestFingerprint = a.appliedRequestFingerprint

section SameBinding

variable {a b c : ExternalAction} {request : TransitionRequest} {now : Timestamp}

lemma SameBinding.refl (a : ExternalAction) : SameBinding a a := ⟨rfl, rfl, rfl, rfl, rfl⟩

lemma SameBinding.trans (hab : SameBinding a b) (hbc : SameBinding b c) : SameBinding a c :=
  ⟨hbc.id.trans hab.id, hbc.scope.trans hab.scope, hbc.identifier.trans hab.identifier,
    hbc.revision.trans hab.revision, hbc.applied.trans hab.applied⟩

lemma sameBinding_transitioned (hidentifier : request.values.providerResourceIdentifier = none)
    (happlied : request.values.appliedRequestFingerprint = none) :
    SameBinding a (transitioned now request a) where
  id := rfl
  scope := rfl
  identifier := by rw [transitioned, hidentifier, Option.getD_none]
  revision := rfl
  applied := by rw [transitioned, happlied, Option.getD_none]

lemma SameBinding.replaceable (h : SameBinding a b) (desired : Digest) :
    replaceable b desired = DeploymentContextSyncHandler.replaceable a desired := by
  rw [DeploymentContextSyncHandler.replaceable, DeploymentContextSyncHandler.replaceable,
    h.revision, h.applied]

end SameBinding

section Run

variable {S M J : Type} {setup : Setup J DeploymentContextResult} {providers : Provider S M}
  {db db' : Database} {now : Timestamp} {s : S} {h : SyncPast}

/-- The past is of a run alone, whose row is still the one that it was given last. -/
structure InHand (db : Database) (h : SyncPast) : Prop where
  alone : RowAlone h
  current : ∀ row, (returnedActions h).head? = some row → db.action row.id = some row

/-- An act that returns no row leaves the row in hand, as does a write to other tables. -/
lemma InHand.cons {act : Act handlerSignature DeploymentContextResult} (hhand : InHand db h)
    (haction : ∀ id, db'.action id = db.action id)
    (hrows : returnedActions (act :: h) = returnedActions h)
    (hact : ∀ request a, act ≠ .answered (.transition request) (.ok a)) :
    InHand db' (act :: h) := by
  refine ⟨hhand.alone.cons hact, fun row hhead => ?_⟩
  rw [haction]
  apply hhand.current
  rw [← hrows]
  exact hhead

/-- One transaction of a run that has its row in hand. -/
lemma InHand.execute [Runtime] {maximumBytes : ℕ} {row history : UUID} {e : Effect}
    {r : Outcome e} (hhand : InHand db h)
    (hrun : db.execute maximumBytes now row history e = some (r, db')) :
    InHand db' (.answered e r :: h) := by
  cases e with
  | record request =>
    simp only [Database.execute, Option.some.injEq] at hrun
    refine hhand.cons (fun id => ?_) rfl fun _ _ heq => by cases heq
    cases hrecord : SourceArtifactRepository.record maximumBytes db now row request with
    | error x =>
      rw [hrecord] at hrun
      cases hrun
      rfl
    | ok result =>
      obtain ⟨artifact, db₁⟩ := result
      rw [hrecord] at hrun
      cases hrun
      obtain ⟨-, sourceArtifacts, rfl⟩ := SourceArtifactRepository.record_ok hrecord
      rfl
  | reserveOrGet request =>
    simp only [Database.execute, Option.some.injEq] at hrun
    cases hreserve : reserveOrGet db now row history request with
    | error x =>
      rw [hreserve] at hrun
      cases hrun
      exact hhand.cons (fun _ => rfl) rfl fun _ _ heq => by cases heq
    | ok result =>
      obtain ⟨reservation, db₁⟩ := result
      rw [hreserve] at hrun
      cases hrun
      refine ⟨hhand.alone.cons (fun _ _ heq => by cases heq), fun a hhead => ?_⟩
      obtain rfl : reservation.action = a := Option.some.inj hhead
      obtain ⟨-, ⟨-, rfl, hinserts⟩ | ⟨a, ha, -, -, rfl, hrewrites⟩⟩ := reserveOrGet_ok hreserve
      · exact Database.action_of_actionAt hinserts.actionAt_self
      · exact hrewrites.action_self
  | transition request =>
    simp only [Database.execute, Option.some.injEq] at hrun
    cases htransition : transition db now history request with
    | error x =>
      rw [htransition] at hrun
      cases hrun
      exact hhand.cons (fun _ => rfl) rfl fun _ _ heq => by cases heq
    | ok result =>
      obtain ⟨a, db₁⟩ := result
      rw [htransition] at hrun
      cases hrun
      obtain ⟨-, b, hb, hstatus, rfl, hrewrites⟩ := transition_ok htransition
      refine ⟨hhand.alone.answer fun row hhead hid => ?_, fun a hhead => ?_⟩
      · have hrow := hhand.current row hhead
        rw [hid, hb] at hrow
        obtain rfl := Option.some.inj hrow
        exact ⟨hstatus, now, rfl⟩
      · obtain rfl := Option.some.inj hhead
        exact hrewrites.action_self
  | revise request =>
    simp only [Database.execute, Option.some.injEq] at hrun
    cases hrevise : revise db now history request with
    | error x =>
      rw [hrevise] at hrun
      cases hrun
      exact hhand.cons (fun _ => rfl) rfl fun _ _ heq => by cases heq
    | ok result =>
      obtain ⟨a, db₁⟩ := result
      rw [hrevise] at hrun
      cases hrun
      obtain ⟨-, b, -, -, -, -, rfl, hrewrites⟩ := revise_ok hrevise
      refine ⟨hhand.alone.cons (fun _ _ heq => by cases heq), fun a hhead => ?_⟩
      obtain rfl := Option.some.inj hhead
      exact hrewrites.action_self
  | reconciliationDelaySeconds id =>
    cases hrun
    exact hhand.cons (fun _ => rfl) rfl fun _ _ heq => by cases heq
  | fetchRecords | verifyGitHubIdentity | fetchContext | getComment | findCommentsByMarker
  | createComment | updateComment | fetchIssue | verifySlackIdentity | postNotification =>
    simp [Database.execute] at hrun

/-- One await of a run that has its row in hand. -/
lemma InHand.exec [Runtime] {i : ℕ} {e : Effect} {c : Choice M}
    {w w' : World S DeploymentContextResult} {r : Outcome e}
    (hhand : InHand w.database h)
    (hexec : (machine setup providers).exec i e c w = some (r, w')) :
    InHand w'.database (.answered e r :: h) := by
  simp only [machine] at hexec
  split at hexec
  · split at hexec
    · obtain ⟨⟨r, db⟩, hrun, heq⟩ := Option.map_eq_some_iff.1 hexec
      cases heq
      exact hhand.execute hrun
    · cases hexec
  · split at hexec
    · cases hexec
    · rename_i he
      obtain ⟨⟨r, s⟩, -, heq⟩ := Option.map_eq_some_iff.1 hexec
      cases heq
      refine hhand.cons (fun _ => rfl) ?_ fun request a heq => ?_
      · cases e <;> first | rfl | exact absurd rfl he
      · cases heq
        exact he rfl
  · cases hexec

/-- The environment leaves the ledger alone. -/
lemma InHand.env [Runtime] {c : Choice M} {w w' : World S DeploymentContextResult}
    (hhand : InHand w.database h) (henv : (machine setup providers).env c w = some w') :
    InHand w'.database h := by
  have haction : ∀ id, w'.database.action id = w.database.action id := by
    intro id
    simp only [machine] at henv
    split at henv
    · split at henv
      · cases henv
        rfl
      · cases henv
    · cases henv
      rfl
    · cases henv
      rfl
    · obtain ⟨s, -, rfl⟩ := Option.map_eq_some_iff.1 henv
      rfl
    · cases henv
  refine ⟨hhand.alone, fun row hhead => ?_⟩
  rw [haction]
  exact hhand.current row hhead

/-- Every run is alone with its row, and the last one has it in hand. -/
def OneAtATime (w : World S DeploymentContextResult) : Prop :=
  ∀ i, RowAlone (past i w.log) ∧ (latest w.log = some i → InHand w.database (past i w.log))

/-- An event of the last run, which leaves the other runs alone. -/
lemma OneAtATime.event {w w' : World S DeploymentContextResult} {i : ℕ}
    {event : Event DeploymentContextResult} (hw : OneAtATime w) (hlog : w'.log = event :: w.log)
    (hactor : event.actor = i) (hevent : ∀ k t, event ≠ .started k t)
    (hturn : latest w.log = some i)
    (hhand : InHand w.database (past i w.log) → InHand w'.database (past i w'.log)) :
    OneAtATime w' := by
  have hlatest : latest w'.log = some i := by
    rw [hlog, ← hturn]
    cases event with
    | started k t => exact absurd rfl (hevent k t)
    | issued | executed | ended => rfl
  have hmine := hhand ((hw i).2 hturn)
  intro k
  by_cases hk : k = i
  · subst hk
    exact ⟨hmine.alone, fun _ => hmine⟩
  · have hpast : past k w'.log = past k w.log := by
      rw [hlog]
      exact past_of_ne (by rw [hactor]; exact fun heq => hk heq.symm)
    refine ⟨hpast ▸ (hw k).1, fun hlast => ?_⟩
    rw [hlatest] at hlast
    exact absurd (Option.some.inj hlast).symm hk

variable [Runtime]

lemma oneAtATime_preserves (hexclusive : setup.exclusive = true) :
    (machine setup providers).Preserves (fun i w => past i w.log)
      (fun i w => setup.Turn i w.log) (fun _ _ => True) OneAtATime where
  issue i e w hw hmoves _ := by
    refine hw.event (i := i) rfl rfl (fun k t heq => by cases heq) (hmoves.turn hexclusive)
      fun hhand => ?_
    change InHand w.database (past i (.issued i w.now e :: w.log))
    rw [past_issued]
    exact hhand.cons (fun _ => rfl) rfl fun _ _ heq => by cases heq
  exec i e c w r w' h hw hmoves hpast _ hexec := by
    have hlog := log_of_exec hexec
    refine hw.event (i := i) hlog rfl (fun k t heq => by cases heq) (hmoves.turn hexclusive)
      fun hhand => ?_
    rw [hlog, past_executed]
    exact hhand.exec hexec
  returned i e r w hw := hw
  finish i r w hw hmoves _ := by
    refine hw.event (i := i) rfl rfl (fun k t heq => by cases heq) (hmoves.turn hexclusive)
      fun hhand => ?_
    change InHand w.database (past i (.ended i r :: w.log))
    rw [past_ended]
    exact hhand.cons (fun _ => rfl) rfl fun _ _ heq => by cases heq
  env c w w' hw henv := by
    have hlog := log_of_env henv
    intro i
    rw [hlog]
    exact ⟨(hw i).1, fun hlast => ((hw i).2 hlast).env henv⟩
  spawn n j w w' hw hempty hspawn := by
    cases hspawn
    intro i
    change RowAlone (past i (.started n w.now :: w.log)) ∧ (latest (.started n w.now :: w.log) =
      some i → InHand w.database (past i (.started n w.now :: w.log)))
    rw [past_started]
    refine ⟨(hw i).1, fun hlast => ?_⟩
    obtain rfl : n = i := Option.some.inj hlast
    change past n w.log = [] at hempty
    rw [hempty]
    exact ⟨rowAlone_nil, fun row hhead => by cases hhead⟩

/-- Where handlers run one at a time, every run is alone with its row. -/
theorem rowAlone_run (hexclusive : setup.exclusive = true) {moves : List (Move J (Choice M))}
    {c : Config handlerSignature DeploymentContextResult (World S DeploymentContextResult)}
    (hrun : (machine setup providers).run (Config.init (World.initial db now s)) moves = some c)
    (i : ℕ) : RowAlone (past i c.world.log) := by
  have hjob : ∀ j, ((machine setup providers).job j).Keeps (fun _ _ => True) [] := fun j =>
    Prog.issues_true.emits (fun _ _ _ => trivial) (fun _ _ _ _ => trivial) trivial
  have hinit : OneAtATime (World.initial db now s : World S DeploymentContextResult) := by
    intro k
    exact ⟨rowAlone_nil, fun hlast => by cases hlast⟩
  have hend := machine_records.run (oneAtATime_preserves hexclusive) hjob hinit (fun _ => rfl) hrun
  exact (hend.inv i).1

end Run

end DeploymentLab
