import DeploymentLab.Proofs.CommentGrounds
import DeploymentLab.Proofs.LedgerTruth

/-!
# The rows of runs that are alone

Where handlers run one at a time, what a run has been told of its rows is how they stand: it has
them to itself, as it has asked for them, and none that is bound to no comment has been revised.
So every await of a run has its ground (`RowState.ground`).
-/

namespace DeploymentLab

open Interaction ExternalActionRepository Relational Database

section Rows

variable {h : SyncPast} {db db' : Database} {now : Timestamp} {e : Effect} {r : Outcome e}
  {a b : ExternalAction}

lemma returnedActions_answered :
    returnedActions (.answered e r :: h) = (e.rowOf r).toList ++ returnedActions h := by
  cases e <;> cases r <;> rfl

lemma returnedActions_note {act : Act handlerSignature DeploymentContextResult}
    (hact : ∀ e r, act ≠ .answered e r) : returnedActions (act :: h) = returnedActions h := by
  cases act with
  | answered e r => exact absurd rfl (hact e r)
  | issued | ended => rfl

/-- A row that is bound to no comment has not been revised. -/
def Sober (a : ExternalAction) : Prop :=
  a.provider = .github → a.providerResourceIdentifier = none → a.revision ≤ 1

/-- The rows are of one scope and of one provider. -/
def SameRow (a b : ExternalAction) : Prop :=
  a.actionScopeKey = b.actionScopeKey ∧ a.provider = b.provider

namespace LedgerWrite

/-- The row that an await returns is as it stands. -/
lemma returned (hwrite : LedgerWrite db db' now e r) (ha : e.rowOf r = some a) :
    db'.action a.id = some a := by
  cases hwrite with
  | frame hrow =>
    rw [hrow] at ha
    cases ha
  | creates id request hinserts =>
    obtain rfl := Option.some.inj ha
    exact action_of_actionAt hinserts.actionAt_self
  | replays request b hb hprovider hrewrites =>
    obtain rfl := Option.some.inj ha
    exact hrewrites.action_self
  | moves request b hb hstatus hrewrites =>
    obtain rfl := Option.some.inj ha
    exact hrewrites.action_self
  | revises request b hb hstatus hrevision hbound hrewrites =>
    obtain rfl := Option.some.inj ha
    exact hrewrites.action_self

lemma sameRow (hwrite : LedgerWrite db db' now e r) {id : UUID} (ha : db.action id = some a) :
    ∃ a', db'.action id = some a' ∧ SameRow a' a :=
  hwrite.action_kept (K := fun a a' => SameRow a' a) (fun _ => ⟨rfl, rfl⟩) (fun _ _ => ⟨rfl, rfl⟩)
    (fun _ _ => ⟨rfl, rfl⟩) (fun _ _ _ _ => ⟨rfl, rfl⟩) ha

/-- A write keeps what every way to write keeps of the row that it concerns. -/
lemma all_rows {P : ExternalAction → Prop} (hwrite : LedgerWrite db db' now e r)
    (hdb : ∀ a ∈ db.externalActions.rows, P a)
    (hcreated : ∀ id request, Inserts db db' (reservedAction now id request) →
      P (reservedAction now id request))
    (htouched : ∀ fence a, P a → P (touch fence now a))
    (hmoved : ∀ request a, e = .transition request → db.action request.actionId = some a → P a →
      P (transitioned now request a))
    (hrevised : ∀ request a, a.providerResourceIdentifier ≠ none → P a →
      P (revised now request a)) : ∀ a ∈ db'.externalActions.rows, P a := by
  have hrewritten : ∀ {b b'}, Rewrites db db' b b' → (P b → P b') →
      ∀ a ∈ db'.externalActions.rows, P a := by
    intro b b' hrewrites hb' a ha
    rw [hrewrites.rows] at ha
    obtain ⟨r, hr, rfl⟩ := List.mem_map.1 ha
    split
    · exact hb' (hdb b hrewrites.present)
    · exact hdb r hr
  cases hwrite with
  | frame hrow hactions =>
    rw [hactions]
    exact hdb
  | creates id request hinserts =>
    intro a ha
    rw [hinserts.rows, List.mem_append, List.mem_singleton] at ha
    rcases ha with ha | rfl
    · exact hdb a ha
    · exact hcreated id request hinserts
  | replays request b hb hprovider hrewrites => exact hrewritten hrewrites (htouched _ b)
  | moves request b hb hstatus hrewrites => exact hrewritten hrewrites (hmoved request b rfl hb)
  | revises request b hb hstatus hrevision hbound hrewrites =>
    exact hrewritten hrewrites (hrevised request b hbound)

end LedgerWrite

/-- The ledger gives rows as they are asked for, and gives each under its own identifier. -/
lemma LedgerWrite.placed (hwrite : LedgerWrite db db' now e r) (hh : Placed h)
    (hstands : ∀ a ∈ returnedActions h, ∃ b, db.action a.id = some b ∧ SameRow b a) :
    Placed (.answered e r :: h) := by
  have hnew : ∀ a, e.rowOf r = some a → ∀ b ∈ returnedActions h, a.id = b.id → SameRow a b := by
    intro a ha b hb hid
    obtain ⟨c, hc, hcb⟩ := hstands b hb
    obtain ⟨c', hc', hsame⟩ := hwrite.sameRow hc
    have ha' := hwrite.returned ha
    rw [hid, hc'] at ha'
    obtain rfl := Option.some.inj ha'
    exact ⟨hsame.1.trans hcb.1, hsame.2.trans hcb.2⟩
  refine ⟨fun request reservation hmem => ?_, fun request a hmem => ?_, fun request a hmem => ?_,
    fun a ha b hb hid => ?_⟩
  · rcases List.mem_cons.1 hmem with heq | hmem
    · cases heq
      cases hwrite with
      | frame hrow => cases hrow
      | creates => exact ⟨rfl, rfl⟩
      | replays request b hb hprovider => exact ⟨(actionAt_eq_some_iff.1 hb).2, hprovider⟩
    · exact hh.reserved request reservation hmem
  · rcases List.mem_cons.1 hmem with heq | hmem
    · cases heq
      cases hwrite with
      | frame hrow => cases hrow
      | moves request b hb => exact (action_eq_some_iff.1 hb).2
    · exact hh.moved request a hmem
  · rcases List.mem_cons.1 hmem with heq | hmem
    · cases heq
      cases hwrite with
      | frame hrow => cases hrow
      | revises request b hb => exact (action_eq_some_iff.1 hb).2
    · exact hh.revised request a hmem
  · rw [returnedActions_answered] at ha hb
    rcases List.mem_append.1 ha with ha | ha
    · rw [Option.mem_toList] at ha
      rcases List.mem_append.1 hb with hb | hb
      · rw [Option.mem_toList] at hb
        obtain rfl := Option.some.inj (ha.symm.trans hb)
        exact ⟨rfl, rfl⟩
      · exact hnew a ha b hb hid
    · rcases List.mem_append.1 hb with hb | hb
      · rw [Option.mem_toList] at hb
        obtain ⟨hscope, hprovider⟩ := hnew b hb a ha hid.symm
        exact ⟨hscope.symm, hprovider.symm⟩
      · exact hh.same a ha b hb hid

lemma Placed.cons {act : Act handlerSignature DeploymentContextResult} (hplaced : Placed h)
    (hact : ∀ e r, act ≠ .answered e r) : Placed (act :: h) where
  reserved request reservation hmem :=
    hplaced.reserved request reservation (List.mem_of_ne_of_mem (hact _ _).symm hmem)
  moved request a hmem := hplaced.moved request a (List.mem_of_ne_of_mem (hact _ _).symm hmem)
  revised request a hmem := hplaced.revised request a (List.mem_of_ne_of_mem (hact _ _).symm hmem)
  same := by
    rw [returnedActions_note hact]
    exact hplaced.same

end Rows

/-- Every run has its rows to itself, as it has asked for them. -/
structure RowState {S : Type} (w : World S DeploymentContextResult) : Prop where
  alone : OneAtATime w
  placed : ∀ i, Placed (past i w.log)
  stands : ∀ i, ∀ a ∈ returnedActions (past i w.log),
    ∃ b, w.database.action a.id = some b ∧ SameRow b a
  sober : ∀ a ∈ w.database.externalActions.rows, Sober a
  returned : ∀ i, ∀ a ∈ returnedActions (past i w.log), Sober a

section Run

variable {S M J : Type} {setup : Setup J DeploymentContextResult} {providers : Provider S M}
  {w w' : World S DeploymentContextResult} {i : ℕ} {h : SyncPast}

lemma RowState.tracked (hw : RowState w) (i : ℕ) : Tracked (past i w.log) :=
  ⟨(hw.alone i).1, hw.placed i, hw.returned i⟩

/-- The row that the last run has been given last stands as it was given. -/
lemma RowState.current (hw : RowState w) (hlatest : latest w.log = some i) {a : ExternalAction}
    (ha : (returnedActions (past i w.log)).head? = some a) : w.database.action a.id = some a :=
  ((hw.alone i).2 hlatest).current a ha

/-- A note leaves the rows as they are. -/
lemma RowState.note (hw : RowState w) (event : Event DeploymentContextResult)
    (halone : OneAtATime w') (hlog : w'.log = event :: w.log)
    (hactions : w'.database.externalActions = w.database.externalActions)
    (hevent : event.IsNote) : RowState w' := by
  have hrows : ∀ k, returnedActions (past k w'.log) = returnedActions (past k w.log) := by
    intro k
    rw [hlog]
    rcases past_note hevent k w.log with heq | ⟨act, hact, heq⟩
    · rw [heq]
    · rw [heq, returnedActions_note hact]
  refine ⟨halone, fun k => ?_, fun k a ha => ?_, ?_, fun k a ha => ?_⟩
  · rw [hlog]
    rcases past_note hevent k w.log with heq | ⟨act, hact, heq⟩
    · rw [heq]
      exact hw.placed k
    · rw [heq]
      exact (hw.placed k).cons hact
  · rw [hrows] at ha
    unfold Database.action
    rw [hactions]
    exact hw.stands k a ha
  · rw [hactions]
    exact hw.sober
  · rw [hrows] at ha
    exact hw.returned k a ha

variable [Runtime]

/-- The ground for the await that the last run is at. -/
lemma RowState.ground (hw : RowState w) {e : Effect} (hpast : past i w.log = .issued e :: h)
    (hscript : commentScript h (.issued e)) : CommentGround h e := by
  refine hscript ((hw.tracked i).of_suffix ?_)
  rw [hpast]
  exact List.suffix_cons _ _

/-- A transition concerns the row that the last run has been given last. -/
lemma RowState.moves (hw : RowState w) (hlatest : latest w.log = some i)
    {request : TransitionRequest} (hpast : past i w.log = .issued (.transition request) :: h)
    (hscript : commentScript h (.issued (.transition request))) {b : ExternalAction}
    (hb : w.database.action request.actionId = some b) (hgithub : b.provider = .github) :
    Keeps b h request := by
  obtain ⟨current, hhead, hid, hkeeps⟩ := hw.ground hpast hscript
  have hcurrent : w.database.action current.id = some current := by
    refine hw.current hlatest ?_
    rw [hpast]
    exact hhead
  rw [hid, hcurrent] at hb
  obtain rfl := Option.some.inj hb
  exact hkeeps hgithub

/-- A transition binds no row to nothing. -/
lemma Keeps.bound {current : ExternalAction} {request : TransitionRequest}
    (hkeeps : Keeps current h request) : request.values.providerResourceIdentifier ≠ some none := by
  intro heq
  obtain ⟨comment, hnone, -⟩ := hkeeps.binds none heq
  cases hnone

lemma rowState_preserves (hexclusive : setup.exclusive = true) :
    (machine setup providers).Preserves (fun i w => past i w.log)
      (fun i w => setup.Turn i w.log) commentScript RowState where
  issue i e w hw hmoves _ := hw.note (.issued i w.now e)
    ((oneAtATime_preserves hexclusive).issue i e w hw.alone hmoves trivial) rfl rfl
    fun _ _ _ _ heq => by cases heq
  exec i e c w r w' h hw hmoves hpast hscript hexec := by
    have halone := (oneAtATime_preserves hexclusive).exec i e c w r w' h hw.alone hmoves hpast
      trivial hexec
    have hlog := log_of_exec hexec
    have hwrite := exec_writes hexec
    have hother : ∀ k, k ≠ i → past k w'.log = past k w.log := fun k hk => by
      rw [hlog]
      exact past_executed_of_ne hk.symm
    have hself : past i w'.log = .answered e r :: past i w.log := by
      rw [hlog, past_executed]
    have hsober : ∀ a ∈ w'.database.externalActions.rows, Sober a := by
      refine hwrite.all_rows hw.sober (fun id request _ _ _ => Int.le_refl 1)
        (fun fence a ha => ha) (fun request a he ha hold hgithub hunbound => ?_)
        fun request a hbound _ _ hunbound => absurd hunbound hbound
      subst he
      have hkeeps := hw.moves (hmoves.turn hexclusive) hpast hscript ha hgithub
      cases hvalue : request.values.providerResourceIdentifier with
      | none =>
        rw [transitioned, hvalue] at hunbound
        exact hold hgithub hunbound
      | some identifier =>
        rw [transitioned, hvalue] at hunbound
        exact absurd (hvalue.trans (congrArg some hunbound)) hkeeps.bound
    have hkept : ∀ k, ∀ a ∈ returnedActions (past k w.log),
        ∃ b, w'.database.action a.id = some b ∧ SameRow b a := by
      intro k a ha
      obtain ⟨b, hb, hba⟩ := hw.stands k a ha
      obtain ⟨b', hb', hsame⟩ := hwrite.sameRow hb
      exact ⟨b', hb', hsame.1.trans hba.1, hsame.2.trans hba.2⟩
    refine ⟨halone, fun k => ?_, fun k a ha => ?_, hsober, fun k a ha => ?_⟩
    · by_cases hk : k = i
      · subst hk
        rw [hself]
        exact hwrite.placed (hw.placed k) (hw.stands k)
      · rw [hother k hk]
        exact hw.placed k
    · by_cases hk : k = i
      · subst hk
        rw [hself, returnedActions_answered] at ha
        rcases List.mem_append.1 ha with ha | ha
        · exact ⟨a, hwrite.returned (Option.mem_toList.1 ha), rfl, rfl⟩
        · exact hkept k a ha
      · rw [hother k hk] at ha
        exact hkept k a ha
    · by_cases hk : k = i
      · subst hk
        rw [hself, returnedActions_answered] at ha
        rcases List.mem_append.1 ha with ha | ha
        · exact hsober a (action_eq_some_iff.1 (hwrite.returned (Option.mem_toList.1 ha))).1
        · exact hw.returned k a ha
      · rw [hother k hk] at ha
        exact hw.returned k a ha
  returned i e r w hw := hw
  finish i r w hw hmoves _ := hw.note (.ended i r)
    ((oneAtATime_preserves hexclusive).finish i r w hw.alone hmoves trivial) rfl rfl
    fun _ _ _ _ heq => by cases heq
  env c w w' hw henv := by
    have hlog := log_of_env henv
    have hactions := externalActions_of_env henv
    have haction : ∀ id, w'.database.action id = w.database.action id := fun id => by
      unfold Database.action
      rw [hactions]
    refine ⟨(oneAtATime_preserves hexclusive).env c w w' hw.alone henv, fun k => ?_,
      fun k a ha => ?_, ?_, fun k a ha => ?_⟩
    · rw [hlog]
      exact hw.placed k
    · rw [hlog] at ha
      rw [haction]
      exact hw.stands k a ha
    · rw [hactions]
      exact hw.sober
    · rw [hlog] at ha
      exact hw.returned k a ha
  spawn n j w w' hw hempty hspawn := by
    have halone := (oneAtATime_preserves hexclusive).spawn n j w w' hw.alone hempty hspawn
    cases hspawn
    exact hw.note (.started n w.now) halone rfl rfl fun _ _ _ _ heq => by cases heq

end Run

end DeploymentLab
