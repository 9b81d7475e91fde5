import DeploymentLab.Proofs.PolicyOrder
import DeploymentLab.Proofs.PostedComments
import DeploymentLab.Proofs.TrackedRows

/-!
# One comment for a scope

Handlers that run one at a time, each of which may stop at any await, add at most one comment for a
scope to an issue, although a create whose outcome is unknown may come through after its handler is
gone. The row notes a time by which every create for it has come through or never will
(`Guarded.gated`), and a run searches only after that time. So when it finds nothing, nothing is on
the issue and nothing can be added to it any more (`Guarded.cleared`).
-/

namespace DeploymentLab

open Interaction Flight ExternalActionRepository Relational Database

section Answers

variable [Runtime] {s s' : PostedComments} {h : SyncPast} {resolve : String → ℤ}

/-- The comments that a run has been told of. -/
structure Reported (s : PostedComments) (h : SyncPast) : Prop where
  created : ∀ repository issueNumber body comment scope,
    .answered (.createComment repository issueNumber body) (.ok comment) ∈ h →
      Marked scope body → s.Known (GitHubComment.identifier comment) scope
  found : ∀ repository issueNumber scope search,
    .answered (.findCommentsByMarker repository issueNumber (safeMarker scope)) (.ok search) ∈ h →
      ∀ comment ∈ CommentSearchResult.comments search, s.Known comment.identifier scope
  kept : ∀ repository identifier comment,
    .answered (.getComment repository identifier) (.ok (some comment)) ∈ h →
      GitHubComment.identifier comment = identifier
  updated : ∀ repository identifier body comment,
    .answered (.updateComment repository identifier body) (.ok comment) ∈ h →
      GitHubComment.identifier comment = identifier

lemma reported_nil : Reported s [] :=
  ⟨fun _ _ _ _ _ => nofun, fun _ _ _ _ => nofun, fun _ _ _ => nofun, fun _ _ _ _ => nofun⟩

lemma Reported.known (hreported : Reported s h)
    (hknown : ∀ identifier scope, s.Known identifier scope → s'.Known identifier scope) :
    Reported s' h where
  created repository issueNumber body comment scope hmem hmarked :=
    hknown _ _ (hreported.created repository issueNumber body comment scope hmem hmarked)
  found repository issueNumber scope search hmem comment hcomment :=
    hknown _ _ (hreported.found repository issueNumber scope search hmem comment hcomment)
  kept := hreported.kept
  updated := hreported.updated

/-- A note tells a run of no comment. -/
lemma Reported.cons {act : Act handlerSignature DeploymentContextResult}
    (hreported : Reported s h) (hact : ∀ e r, act ≠ .answered e r) : Reported s (act :: h) where
  created repository issueNumber body comment scope hmem :=
    hreported.created repository issueNumber body comment scope
      (List.mem_of_ne_of_mem (hact _ _).symm hmem)
  found repository issueNumber scope search hmem :=
    hreported.found repository issueNumber scope search
      (List.mem_of_ne_of_mem (hact _ _).symm hmem)
  kept repository identifier comment hmem :=
    hreported.kept repository identifier comment (List.mem_of_ne_of_mem (hact _ _).symm hmem)
  updated repository identifier body comment hmem :=
    hreported.updated repository identifier body comment
      (List.mem_of_ne_of_mem (hact _ _).symm hmem)

lemma Reported.of_cons {act : Act handlerSignature DeploymentContextResult}
    (hreported : Reported s (act :: h)) : Reported s h where
  created repository issueNumber body comment scope hmem :=
    hreported.created repository issueNumber body comment scope (List.mem_cons_of_mem _ hmem)
  found repository issueNumber scope search hmem :=
    hreported.found repository issueNumber scope search (List.mem_cons_of_mem _ hmem)
  kept repository identifier comment hmem :=
    hreported.kept repository identifier comment (List.mem_cons_of_mem _ hmem)
  updated repository identifier body comment hmem :=
    hreported.updated repository identifier body comment (List.mem_cons_of_mem _ hmem)

/-- A comment that carries the marker of the scope is known to be of the scope. -/
lemma PostedComments.Sound.found (hs : s.Sound) {repositoryId issueNumber : ℤ} {scope : String}
    {comment : GitHubComment}
    (hcomment : comment ∈ s.found repositoryId issueNumber (safeMarker scope)) :
    s.Known comment.identifier scope := by
  obtain ⟨posted, hposted, rfl⟩ := List.mem_map.1 hcomment
  obtain ⟨hmem, hcarries⟩ := List.mem_filter.1 hposted
  rcases List.mem_append.1 hmem with hours | hothers
  · obtain ⟨scope', hmarked⟩ := hs.marked posted hours
    rw [PostedComment.carries, Bool.and_eq_true, hmarked scope] at hcarries
    exact .inr ⟨posted, hours, rfl, hmarked.congr hcarries.2.symm⟩
  · exact .inl (hs.foreign posted hothers)

omit [Runtime] in
lemma PostedComments.identifier_of_lookup {repositoryId : ℤ} {identifier : String}
    {comment : GitHubComment} (hlookup : s.lookup repositoryId identifier = some comment) :
    comment.identifier = identifier := by
  obtain ⟨posted, hposted, rfl⟩ := Option.map_eq_some_iff.1 hlookup
  have := List.find?_some hposted
  rw [Bool.and_eq_true, beq_iff_eq] at this
  exact this.2

/-- A truthful answer tells a run of the comments as they are. -/
lemma Reported.answered (hreported : Reported s h) (hs : s.Sound) {e : Effect} {r : Outcome e}
    (htruthful : s.truthful resolve e r = true) : Reported s (.answered e r :: h) where
  created repository issueNumber body comment scope hmem hmarked := by
    rcases List.mem_cons.1 hmem with heq | hmem
    · cases heq
      rw [PostedComments.truthful, Bool.and_eq_true, beq_iff_eq, List.any_eq_true] at htruthful
      obtain ⟨hbody, posted, hposted, hsame⟩ := htruthful
      simp only [Bool.and_eq_true, beq_iff_eq] at hsame
      obtain rfl := hsame.1.1
      exact .inr ⟨posted, hposted, rfl, by rw [hbody]; exact hmarked⟩
    · exact hreported.created repository issueNumber body comment scope hmem hmarked
  found repository issueNumber scope search hmem comment hcomment := by
    rcases List.mem_cons.1 hmem with heq | hmem
    · cases heq
      suffices hmem : comment ∈ s.found (resolve repository) issueNumber (safeMarker scope) from
        hs.found hmem
      rw [PostedComments.truthful] at htruthful
      split at htruthful
      · exact (List.isPerm_iff.1 htruthful).subset hcomment
      · exact List.contains_iff_mem.1 (List.all_eq_true.1 htruthful comment hcomment)
    · exact hreported.found repository issueNumber scope search hmem comment hcomment
  kept repository identifier comment hmem := by
    rcases List.mem_cons.1 hmem with heq | hmem
    · cases heq
      rw [PostedComments.truthful, beq_iff_eq] at htruthful
      exact PostedComments.identifier_of_lookup htruthful.symm
    · exact hreported.kept repository identifier comment hmem
  updated repository identifier body comment hmem := by
    rcases List.mem_cons.1 hmem with heq | hmem
    · cases heq
      rw [PostedComments.truthful, Bool.and_eq_true, beq_iff_eq, beq_iff_eq] at htruthful
      exact PostedComments.identifier_of_lookup htruthful.2
    · exact hreported.updated repository identifier body comment hmem

/-- A comment from a known source is known to be of the scope of the row. -/
lemma Source.known {current : ExternalAction} {comment : GitHubComment}
    (hsource : Source current h comment) (hreported : Reported s h)
    (hbound : ∀ identifier, current.providerResourceIdentifier = some identifier →
      s.Known identifier current.actionScopeKey) :
    s.Known comment.identifier current.actionScopeKey := by
  cases hsource with
  | created hbody hmem => exact hreported.created _ _ _ _ _ hmem hbody.marked
  | found hmem hcomment => exact hreported.found _ _ _ _ hmem comment hcomment
  | kept hrow hmem => exact hreported.kept _ _ _ hmem ▸ hbound _ hrow
  | updated hrow hmem => exact hreported.updated _ _ _ _ hmem ▸ hbound _ hrow

omit [Runtime] in
/-- A complete search that finds nothing tells that nothing is there. -/
lemma PostedComments.carries_of_search {repository : String} {issueNumber : ℤ} {marker : String}
    {search : CommentSearchResult}
    (htruthful : s.truthful resolve (.findCommentsByMarker repository issueNumber marker)
      (.ok search) = true) (hcomplete : search.complete = true) (hnone : search.comments = []) :
    ∀ posted ∈ s.ours, posted.carries (resolve repository) issueNumber marker = false := by
  rw [PostedComments.truthful] at htruthful
  rw [if_pos hcomplete, hnone, List.isPerm_iff, List.nil_perm] at htruthful
  intro posted hposted
  have hempty := List.filter_eq_nil_iff.1 (List.map_eq_nil_iff.1 htruthful) posted
    (List.mem_append_left _ hposted)
  simpa using hempty

end Answers

/-! ## The invariant of a run -/

section Invariant

variable [Runtime]

/-- No two rows have scopes whose digests collide. -/
def Distinct (db : Database) : Prop :=
  ∀ a ∈ db.externalActions.rows, ∀ b ∈ db.externalActions.rows,
    NoCollision a.actionScopeKey b.actionScopeKey

/-- Rows that are bound are bound to comments for their scopes. -/
structure CommentState (w : World PostedComments DeploymentContextResult) : Prop
    extends RowState w where
  sound : w.provider.Sound
  bound : ∀ a ∈ w.database.externalActions.rows, a.provider = .github → ∀ identifier,
    a.providerResourceIdentifier = some identifier → w.provider.Known identifier a.actionScopeKey
  reported : ∀ i, Reported w.provider (past i w.log)
  owned : ∀ create ∈ w.provider.creates, ∃ a ∈ w.database.externalActions.rows,
    Marked a.actionScopeKey create.content.body
  waited : ∀ i, latest w.log = some i → ∀ a, (returnedActions (past i w.log)).head? = some a →
    Waited a (past i w.log) → ∀ notBefore, a.reconcileNotBefore = some notBefore →
      notBefore ≤ w.now

/-- The row `a` notes a time by which the create has come through, or never will. -/
def Notes (a : ExternalAction) (create : Request CreateRequest Timestamp) : Prop :=
  ∃ deadline notBefore, create.deadline = some deadline ∧
    a.reconcileNotBefore = some notBefore ∧ deadline ≤ notBefore

/-- Every create that may still come through is one that its row notes, and a run that has been
cleared to create a comment is the only one to. -/
structure Guarded (resolve : String → ℤ) (w : World PostedComments DeploymentContextResult) :
    Prop where
  gated : ∀ a ∈ w.database.externalActions.rows, a.provider = .github →
    a.providerResourceIdentifier = none → ∀ create ∈ w.provider.creates,
      substring (safeMarker a.actionScopeKey) create.content.body = true → Notes a create
  cleared : ∀ i, latest w.log = some i → ∀ repository issueNumber scope,
    Cleared repository issueNumber scope (past i w.log) →
      w.provider.Quiet w.now (resolve repository) issueNumber scope
  single : ∀ repositoryId issueNumber scope,
    w.provider.standing w.now repositoryId issueNumber scope ≤ 1

/-- What a run keeps: at most one comment for a scope, as long as no digests collide. -/
structure SingleState (resolve : String → ℤ) (w : World PostedComments DeploymentContextResult) :
    Prop extends CommentState w where
  guarded : Distinct w.database → Guarded resolve w

end Invariant

section Steps

variable [Runtime] {resolve : String → ℤ} {w w' : World PostedComments DeploymentContextResult}
  {i : ℕ} {h : SyncPast} {e : Effect} {r : Outcome e}

/-- The delay that the ledger answers with. -/
def TellsDelay (db : Database) (now : Timestamp) : (e : Effect) → Outcome e → Prop
  | .reconciliationDelaySeconds id, .ok delay => delay = reconciliationDelaySeconds db now id
  | _, _ => True

/-- Handler `i` is answered, truthfully of the comments as they are. -/
structure AnsweredTruly (resolve : String → ℤ) (i : ℕ) (e : Effect) (r : Outcome e)
    (w w' : World PostedComments DeploymentContextResult) : Prop where
  log : w'.log = .executed i w.now e r :: w.log
  now : w'.now = w.now
  provider : w'.provider = w.provider
  writes : LedgerWrite w.database w'.database w.now e r
  truthful : w.provider.truthful resolve e r = true
  delay : TellsDelay w.database w.now e r

lemma row_of_digest {db : Database} {a b : ExternalAction} (hdb : Distinct db)
    (ha : a ∈ db.externalActions.rows) (hb : b ∈ db.externalActions.rows)
    (hdigest : Runtime.sha256 a.actionScopeKey = Runtime.sha256 b.actionScopeKey) : a = b :=
  Table.eq_of_clashes ha hb (clashes_of_scope_eq (hdb a ha b hb hdigest))

/-- The time that is noted for a create is the one of the row that it is made for. -/
lemma writeDeadline_eq {db : Database} {a : ExternalAction} {body : String} (hdb : Distinct db)
    (ha : a ∈ db.externalActions.rows) (hbody : Marked a.actionScopeKey body) :
    writeDeadline db body = a.reconcileNotBefore := by
  unfold writeDeadline
  cases hfind : db.externalActions.find? fun a => substring (safeMarker a.actionScopeKey) body with
  | none =>
    have hnone := Table.find?_eq_none_iff.1 hfind a ha
    rw [hbody.self] at hnone
    cases hnone
  | some b =>
    have hmarker := Table.pred_of_find? hfind
    rw [row_of_digest hdb (Table.mem_of_find? hfind) ha ((hbody _).1 hmarker)]
    rfl

/-- The rows of a later database are at least as many. -/
lemma LedgerWrite.distinct {db db' : Database} {now : Timestamp}
    (hwrite : LedgerWrite db db' now e r) (hdb : Distinct db') : Distinct db := by
  intro a ha b hb
  obtain ⟨a', ha', hsame, -⟩ := hwrite.sameRow (action_eq_some_iff.2 ⟨ha, rfl⟩)
  obtain ⟨b', hb', hsame', -⟩ := hwrite.sameRow (action_eq_some_iff.2 ⟨hb, rfl⟩)
  rw [← hsame, ← hsame']
  exact hdb a' (action_eq_some_iff.1 ha').1 b' (action_eq_some_iff.1 hb').1

omit [Runtime] in
/-- What a note adds to a past clears no run and tells of no delay. -/
lemma waited_note {act : Act handlerSignature DeploymentContextResult} {a : ExternalAction}
    (hact : ∀ e r, act ≠ .answered e r) (hwaited : Waited a (act :: h)) : Waited a h := by
  cases hwaited with
  | delay => exact absurd rfl (hact _ _)
  | issued hwaited => exact hwaited

lemma cleared_note {act : Act handlerSignature DeploymentContextResult} {repository scope : String}
    {issueNumber : ℤ} (hact : ∀ e r, act ≠ .answered e r)
    (hcleared : Cleared repository issueNumber scope (act :: h)) :
    Cleared repository issueNumber scope h := by
  cases hcleared with
  | searched => exact absurd rfl (hact _ _)
  | later _ hcleared => exact hcleared

/-- A note that leaves the database, the clock and the comments alone. -/
lemma SingleState.note (hw : SingleState resolve w) (event : Event DeploymentContextResult)
    (hrows : RowState w') (hlog : w'.log = event :: w.log) (hdb : w'.database = w.database)
    (hnow : w'.now = w.now) (hprovider : w'.provider = w.provider) (hevent : event.IsNote)
    (hlatest : ∀ k, latest w'.log = some k → past k w'.log = [] ∨ latest w.log = some k) :
    SingleState resolve w' := by
  refine ⟨⟨hrows, ?_, ?_, fun k => ?_, ?_, fun k hlast a hhead hwaited => ?_⟩, fun hdistinct => ?_⟩
  · rw [hprovider]
    exact hw.sound
  · rw [hprovider, hdb]
    exact hw.bound
  · rw [hprovider, hlog]
    rcases past_note hevent k w.log with heq | ⟨act, hact, heq⟩
    · rw [heq]
      exact hw.reported k
    · rw [heq]
      exact (hw.reported k).cons hact
  · rw [hprovider, hdb]
    exact hw.owned
  · rcases hlatest k hlast with hempty | hbefore
    · rw [hempty] at hwaited
      cases hwaited
    rw [hnow]
    rw [hlog] at hhead hwaited
    rcases past_note hevent k w.log with heq | ⟨act, hact, heq⟩
    · rw [heq] at hhead hwaited
      exact hw.waited k hbefore a hhead hwaited
    · rw [heq] at hhead hwaited
      rw [returnedActions_note hact] at hhead
      exact hw.waited k hbefore a hhead (waited_note hact hwaited)
  · rw [hdb] at hdistinct
    obtain ⟨hgated, hcleared, hsingle⟩ := hw.guarded hdistinct
    refine ⟨?_, fun k hlast repository issueNumber scope hclear => ?_, ?_⟩
    · rw [hprovider, hdb]
      exact hgated
    · rw [hprovider, hnow]
      rcases hlatest k hlast with hempty | hbefore
      · rw [hempty] at hclear
        cases hclear
      rw [hlog] at hclear
      rcases past_note hevent k w.log with heq | ⟨act, hact, heq⟩
      · rw [heq] at hclear
        exact hcleared k hbefore _ _ _ hclear
      · rw [heq] at hclear
        exact hcleared k hbefore _ _ _ (cleared_note hact hclear)
    · rw [hprovider, hnow]
      exact hsingle

section Create

variable {repository body : String} {issueNumber : ℤ}

/-- Handler `i` sends a create, and nothing else changes. -/
structure SendsCreate (resolve : String → ℤ) (i : ℕ) (repository : String) (issueNumber : ℤ)
    (body : String) (w w' : World PostedComments DeploymentContextResult) : Prop where
  log : w'.log = .issued i w.now (.createComment repository issueNumber body) :: w.log
  database : w'.database = w.database
  now : w'.now = w.now
  provider : w'.provider = { w.provider with creates := w.provider.creates ++
    [⟨⟨resolve repository, issueNumber, body⟩, writeDeadline w.database body⟩] }

lemma SendsCreate.past (hsends : SendsCreate resolve i repository issueNumber body w w') :
    past i w'.log = .issued (.createComment repository issueNumber body) :: past i w.log := by
  rw [hsends.log, past_issued]

lemma SendsCreate.turn (hsends : SendsCreate resolve i repository issueNumber body w w')
    (hlatest : latest w.log = some i) {k : ℕ} (hk : latest w'.log = some k) : k = i := by
  rw [hsends.log] at hk
  exact Option.some.inj (hk.symm.trans hlatest)

/-- A create that is sent is for a row of the ledger. -/
lemma CommentState.create (hw : CommentState w)
    (hsends : SendsCreate resolve i repository issueNumber body w w') (hrows : RowState w')
    (hlatest : latest w.log = some i) {current : ExternalAction}
    (hrow : current ∈ w.database.externalActions.rows)
    (hbody : Marked current.actionScopeKey body) : CommentState w' := by
  have hknown : ∀ identifier scope, w.provider.Known identifier scope →
      w'.provider.Known identifier scope := by
    rw [hsends.provider]
    exact fun _ _ h => h
  have hnote : Event.IsNote (.issued i w.now (.createComment repository issueNumber body)) :=
    fun _ _ _ _ => nofun
  refine ⟨hrows, ?_, ?_, fun k => ?_, fun create hcreate => ?_, fun k hk a ha hwaited => ?_⟩
  · rw [hsends.provider]
    refine ⟨hw.sound.apart, hw.sound.foreign, hw.sound.unique, hw.sound.marked,
      fun create hcreate => ?_, hw.sound.edits⟩
    rcases List.mem_append.1 hcreate with hold | hnew
    · exact hw.sound.creates create hold
    · rw [List.mem_singleton.1 hnew]
      exact ⟨_, hbody⟩
  · rw [hsends.database]
    exact fun a ha hprovider identifier hid => hknown _ _ (hw.bound a ha hprovider identifier hid)
  · rw [hsends.log]
    rcases past_note hnote k w.log with heq | ⟨act, hact, heq⟩
    · rw [heq]
      exact (hw.reported k).known hknown
    · rw [heq]
      exact ((hw.reported k).cons hact).known hknown
  · rw [hsends.database]
    rw [hsends.provider] at hcreate
    rcases List.mem_append.1 hcreate with hold | hnew
    · exact hw.owned create hold
    · rw [List.mem_singleton.1 hnew]
      exact ⟨current, hrow, hbody⟩
  · obtain rfl := hsends.turn hlatest hk
    rw [hsends.past] at ha hwaited
    rw [hsends.now]
    cases hwaited with
    | issued hwaited => exact hw.waited k hlatest a ha hwaited

/-- A run that has been cleared to create a comment adds the only one. -/
lemma Guarded.create (hw : Guarded resolve w)
    (hsends : SendsCreate resolve i repository issueNumber body w w')
    (hdistinct : Distinct w.database) (hlatest : latest w.log = some i) {current : ExternalAction}
    (hrow : current ∈ w.database.externalActions.rows)
    (hbody : Marked current.actionScopeKey body)
    (hnoted : current.reconcileNotBefore.isSome = true)
    (hclear : Cleared repository issueNumber current.actionScopeKey (past i w.log)) :
    Guarded resolve w' where
  gated a ha hgit hbound create hcreate hmarker := by
    rw [hsends.database] at ha
    rw [hsends.provider] at hcreate
    rcases List.mem_append.1 hcreate with hold | hnew
    · exact hw.gated a ha hgit hbound create hold hmarker
    · obtain rfl := List.mem_singleton.1 hnew
      obtain rfl := row_of_digest hdistinct ha hrow ((hbody _).1 hmarker)
      obtain ⟨notBefore, hnotBefore⟩ := Option.isSome_iff_exists.1 hnoted
      refine ⟨notBefore, notBefore, ?_, hnotBefore, le_refl _⟩
      rw [← hnotBefore]
      exact writeDeadline_eq hdistinct ha hbody
  cleared k hk repository' issueNumber' scope hclear' := by
    obtain rfl := hsends.turn hlatest hk
    rw [hsends.past] at hclear'
    cases hclear' with
    | later hact => exact absurd rfl (hact _ _ _)
  single repositoryId issueNumber' scope := by
    unfold PostedComments.standing
    rw [hsends.provider, hsends.now]
    by_cases hcarries : CreateRequest.carries repositoryId issueNumber' (safeMarker scope)
        ⟨resolve repository, issueNumber, body⟩ = true
    · have hquiet := hw.cleared i hlatest _ _ _ hclear
      simp only [CreateRequest.carries, Bool.and_eq_true, beq_iff_eq] at hcarries
      obtain ⟨⟨rfl, rfl⟩, hmarker⟩ := hcarries
      have hscope : safeMarker current.actionScopeKey = safeMarker scope := by
        unfold safeMarker
        rw [(hbody scope).1 hmarker]
      have hhere := hquiet.here
      rw [hscope] at hhere
      exact standing_send hhere
    · rw [standing_send_other (by simpa using hcarries)]
      exact hw.single repositoryId issueNumber' scope

/-- A create is issued by a run that has been cleared to. -/
lemma SingleState.create (hw : SingleState resolve w)
    (hsends : SendsCreate resolve i repository issueNumber body w w') (hrows : RowState w')
    (hlatest : latest w.log = some i)
    (hground : CommentGround (past i w.log) (.createComment repository issueNumber body)) :
    SingleState resolve w' := by
  obtain ⟨current, hhead, hgithub, hunbound, hnoted, hrendered, hclear⟩ := hground
  have hrow := (action_eq_some_iff.1 (hw.current hlatest hhead)).1
  have hbody : Marked current.actionScopeKey body := RenderedFor.marked hrendered
  refine ⟨hw.toCommentState.create hsends hrows hlatest hrow hbody, fun hdistinct => ?_⟩
  rw [hsends.database] at hdistinct
  exact (hw.guarded hdistinct).create hsends hdistinct hlatest hrow hbody hnoted hclear

end Create

/-- An update is issued for the comment that its row is bound to. -/
lemma SingleState.update (hw : SingleState resolve w) (hlatest : latest w.log = some i)
    {repository identifier body : String}
    (hground : CommentGround (past i w.log) (.updateComment repository identifier body)) :
    SingleState resolve { w with provider := { w.provider with
      edits := w.provider.edits ++ [⟨resolve repository, identifier, body⟩] } } := by
  obtain ⟨current, hhead, hgithub, hbound, hrendered⟩ := hground
  have hrow := (action_eq_some_iff.1 (hw.current hlatest hhead)).1
  have hknown := hw.bound current hrow hgithub identifier hbound
  refine ⟨⟨⟨hw.alone, hw.placed, hw.stands, hw.sober, hw.returned⟩, ?_, hw.bound,
    fun k => (hw.reported k).known fun _ _ h => h, hw.owned, hw.waited⟩, fun hdistinct => ?_⟩
  · refine ⟨hw.sound.apart, hw.sound.foreign, hw.sound.unique, hw.sound.marked, hw.sound.creates,
      fun edit hedit => ?_⟩
    rcases List.mem_append.1 hedit with hold | hnew
    · exact hw.sound.edits edit hold
    · rw [List.mem_singleton.1 hnew]
      exact ⟨current.actionScopeKey, RenderedFor.marked hrendered, hknown⟩
  · obtain ⟨hgated, hcleared, hsingle⟩ := hw.guarded hdistinct
    refine ⟨hgated, fun k hk repository issueNumber scope hclear => ?_, hsingle⟩
    have hquiet := hcleared k hk repository issueNumber scope hclear
    exact ⟨hquiet.here, hquiet.anywhere⟩

/-- A transition leaves its row bound to a comment for its scope. -/
lemma Keeps.known {s : PostedComments} {request : TransitionRequest} {a : ExternalAction}
    {now : Timestamp} (hkeeps : Keeps a h request) (hreported : Reported s h)
    (hbound : ∀ identifier, a.providerResourceIdentifier = some identifier →
      s.Known identifier a.actionScopeKey) {identifier : String}
    (hid : (transitioned now request a).providerResourceIdentifier = some identifier) :
    s.Known identifier a.actionScopeKey := by
  cases hvalue : request.values.providerResourceIdentifier with
  | none =>
    rw [transitioned, hvalue] at hid
    exact hbound identifier hid
  | some value =>
    rw [transitioned, hvalue] at hid
    obtain ⟨comment, rfl, hsource⟩ := hkeeps.binds value hvalue
    obtain rfl := Option.some.inj hid
    exact hsource.known hreported hbound

/-- A transition leaves its row with a time by which every create has come through. -/
lemma Guarded.notes_moved (hw : Guarded resolve w) (hlatest : latest w.log = some i)
    (hpast : past i w.log = .issued e :: h) (he : e.isTransaction = true)
    {request : TransitionRequest} {a : ExternalAction} (hkeeps : Keeps a h request)
    {create : Request CreateRequest Timestamp} (hcreate : create ∈ w.provider.creates)
    (hmarker : substring (safeMarker a.actionScopeKey) create.content.body = true)
    (hunbound : (transitioned w.now request a).providerResourceIdentifier = none)
    (hnotes : a.providerResourceIdentifier = none → Notes a create) :
    Notes (transitioned w.now request a) create := by
  have hfree : a.providerResourceIdentifier = none := by
    cases hvalue : request.values.providerResourceIdentifier with
    | none =>
      rw [transitioned, hvalue] at hunbound
      exact hunbound
    | some identifier =>
      rw [transitioned, hvalue] at hunbound
      exact absurd (hvalue.trans (congrArg some hunbound)) hkeeps.bound
  obtain ⟨hretry, hheld⟩ := hkeeps.holds
  cases hdelay : request.settlementDelay with
  | none =>
    obtain ⟨deadline, notBefore, hdeadline, hnotBefore, hle⟩ := hnotes hfree
    refine ⟨deadline, notBefore, hdeadline, ?_, hle⟩
    rw [transitioned, hretry, hdelay, hheld]
    exact hnotBefore
  | some delay =>
    obtain ⟨hpos, hcleared⟩ := hkeeps.settles delay hdelay
    obtain ⟨repository, issueNumber, hclear⟩ := hcleared hfree
    have hquiet := hw.cleared i hlatest repository issueNumber a.actionScopeKey (by
      rw [hpast]
      refine .later (fun _ _ _ heq => ?_) hclear
      cases heq
      cases he)
    obtain ⟨deadline, hdeadline, hle⟩ :=
      Request.live_eq_false.1 (hquiet.anywhere create hcreate hmarker)
    refine ⟨deadline, w.now + delay, hdeadline, ?_, hle.trans (Int.le_add_of_nonneg_right hpos)⟩
    rw [transitioned, hretry, hdelay]

/-- A search that finds nothing clears the run. -/
lemma Guarded.searched (hguarded : Guarded resolve w) (hw : CommentState w)
    (hlatest : latest w.log = some i) {a : ExternalAction} {repository : String} {issueNumber : ℤ}
    {search : CommentSearchResult}
    (htruthful : w.provider.truthful resolve (.findCommentsByMarker repository issueNumber
      (safeMarker a.actionScopeKey)) (.ok search) = true)
    (hhead : (returnedActions (past i w.log)).head? = some a) (hgithub : a.provider = .github)
    (hunbound : a.providerResourceIdentifier = none)
    (hwaited : a.reconcileNotBefore = none ∨ Waited a (past i w.log))
    (hcomplete : search.complete = true) (hnone : search.comments = []) :
    w.provider.Quiet w.now (resolve repository) issueNumber a.actionScopeKey := by
  have hexpired : Expired (fun create : CreateRequest =>
      substring (safeMarker a.actionScopeKey) create.body) w.now w.provider.creates := by
    intro create hcreate hmarker
    have hrow := (action_eq_some_iff.1 (hw.current hlatest hhead)).1
    obtain ⟨deadline, notBefore, hdeadline, hnotBefore, hle⟩ :=
      hguarded.gated a hrow hgithub hunbound create hcreate hmarker
    refine Request.live_eq_false.2 ⟨deadline, hdeadline, hle.trans ?_⟩
    rcases hwaited with hnone | hwaited
    · rw [hnone] at hnotBefore
      cases hnotBefore
    · exact hw.waited i hlatest a hhead hwaited notBefore hnotBefore
  refine ⟨⟨PostedComments.carries_of_search htruthful hcomplete hnone,
    fun create hcreate hcarries =>
    hexpired create hcreate ?_⟩, hexpired⟩
  rw [CreateRequest.carries, Bool.and_eq_true] at hcarries
  exact hcarries.2

omit [Runtime] in
lemma AnsweredTruly.past (hanswered : AnsweredTruly resolve i e r w w') :
    past i w'.log = .answered e r :: past i w.log := by
  rw [hanswered.log, past_executed]

omit [Runtime] in
lemma AnsweredTruly.turn (hanswered : AnsweredTruly resolve i e r w w')
    (hlatest : latest w.log = some i) {k : ℕ} (hk : latest w'.log = some k) : k = i := by
  rw [hanswered.log] at hk
  exact Option.some.inj (hk.symm.trans hlatest)

/-- An answer leaves the rows bound to comments for their scopes. -/
lemma CommentState.exec (hw : CommentState w) (hanswered : AnsweredTruly resolve i e r w w')
    (hrows : RowState w') (hlatest : latest w.log = some i)
    (hpast : past i w.log = .issued e :: h) (hscript : commentScript h (.issued e)) :
    CommentState w' := by
  have hreported : Reported w.provider h := by
    have := hw.reported i
    rw [hpast] at this
    exact this.of_cons
  refine ⟨hrows, ?_, ?_, fun k => ?_, fun create hcreate => ?_, fun k hk a hhead hwaited => ?_⟩
  · rw [hanswered.provider]
    exact hw.sound
  · rw [hanswered.provider]
    refine hanswered.writes.all_rows hw.bound (fun id request _ _ _ => nofun) (fun fence a ha => ha)
      (fun request a he ha hold hgithub identifier hid => ?_) fun request a _ hold => hold
    subst he
    exact (hw.moves hlatest hpast hscript ha hgithub).known hreported (hold hgithub) hid
  · rw [hanswered.provider]
    by_cases hk : k = i
    · subst hk
      rw [hanswered.past]
      exact (hw.reported k).answered hw.sound hanswered.truthful
    · rw [hanswered.log, past_executed_of_ne (Ne.symm hk)]
      exact hw.reported k
  · rw [hanswered.provider] at hcreate
    obtain ⟨a, ha, hmarked⟩ := hw.owned create hcreate
    obtain ⟨a', ha', hscope, -⟩ := hanswered.writes.sameRow (action_eq_some_iff.2 ⟨ha, rfl⟩)
    exact ⟨a', (action_eq_some_iff.1 ha').1, hscope ▸ hmarked⟩
  · obtain rfl := hanswered.turn hlatest hk
    rw [hanswered.past] at hhead hwaited
    intro notBefore hnotBefore
    rw [hanswered.now]
    cases hwaited with
    | delay hdelay =>
      have hrow := hw.current hlatest hhead
      have hanswer := hanswered.delay
      rw [TellsDelay, reconciliationDelaySeconds, hrow, Option.bind_some, hnotBefore] at hanswer
      rename_i delay
      have hleft : delay = max 0 (notBefore - w.now) := hanswer
      rw [hleft] at hdelay
      exact Int.le_of_sub_nonpos ((le_max_right 0 _).trans hdelay)

/-- An answer clears no run but one that has searched for the comment in vain. -/
lemma Guarded.exec (hguarded : Guarded resolve w) (hw : CommentState w)
    (hanswered : AnsweredTruly resolve i e r w w') (hdistinct : Distinct w'.database)
    (hlatest : latest w.log = some i) (hpast : past i w.log = .issued e :: h)
    (hscript : commentScript h (.issued e)) : Guarded resolve w' where
  gated := by
    rw [hanswered.provider]
    refine hanswered.writes.all_rows hguarded.gated
      (fun id request hinserts _ _ create hcreate hmarker => ?_) (fun fence a ha => ha)
      (fun request a he ha hold hgithub hunbound create hcreate hmarker => ?_)
      fun request a hbound _ _ hunbound => absurd hunbound hbound
    · obtain ⟨a, ha, hmarked⟩ := hw.owned create hcreate
      have hscope := hdistinct (reservedAction w.now id request) (by simp [hinserts.rows]) a
        (by simp [hinserts.rows, ha]) ((hmarked _).1 hmarker)
      have hpresent := actionAt_eq_some_iff.2 ⟨ha, hscope.symm⟩
      rw [hinserts.absent] at hpresent
      cases hpresent
    · subst he
      exact hguarded.notes_moved hlatest hpast rfl (hw.moves hlatest hpast hscript ha hgithub)
        hcreate hmarker hunbound fun hfree => hold hgithub hfree create hcreate hmarker
  cleared k hk repository issueNumber scope hclear := by
    obtain rfl := hanswered.turn hlatest hk
    rw [hanswered.past] at hclear
    rw [hanswered.provider, hanswered.now]
    cases hclear with
    | searched hhead hgithub hscope hunbound hwaited hcomplete hnone =>
      subst hscope
      exact hguarded.searched hw hlatest hanswered.truthful hhead hgithub hunbound hwaited
        hcomplete hnone
    | later _ hclear => exact hguarded.cleared k hlatest _ _ _ hclear
  single := by
    rw [hanswered.provider, hanswered.now]
    exact hguarded.single

/-- The last run is answered. -/
lemma SingleState.exec (hw : SingleState resolve w) (hanswered : AnsweredTruly resolve i e r w w')
    (hrows : RowState w') (hlatest : latest w.log = some i)
    (hpast : past i w.log = .issued e :: h) (hscript : commentScript h (.issued e)) :
    SingleState resolve w' :=
  ⟨hw.toCommentState.exec hanswered hrows hlatest hpast hscript, fun hdistinct =>
    (hw.guarded (hanswered.writes.distinct hdistinct)).exec hw.toCommentState hanswered hdistinct
      hlatest hpast hscript⟩

/-- Time goes by, or something happens on GitHub. -/
lemma SingleState.env (hw : SingleState resolve w) (hrows : RowState w') (hlog : w'.log = w.log)
    (hactions : w'.database.externalActions = w.database.externalActions)
    (hnow : w.now ≤ w'.now)
    (hprovider : PostedComments.Evolves w'.now w.provider w'.provider) :
    SingleState resolve w' := by
  refine ⟨⟨hrows, hprovider.sound, ?_, fun k => ?_, fun create hcreate => ?_,
    fun k hk a ha hwaited notBefore hnotBefore => ?_⟩, fun hdistinct => ?_⟩
  · rw [hactions]
    exact fun a ha hgithub identifier hid =>
      hprovider.known _ _ (hw.bound a ha hgithub identifier hid)
  · rw [hlog]
    exact (hw.reported k).known hprovider.known
  · rw [hactions]
    exact hw.owned create (hprovider.creates hcreate)
  · rw [hlog] at hk ha hwaited
    exact (hw.waited k hk a ha hwaited notBefore hnotBefore).trans hnow
  · unfold Distinct at hdistinct
    rw [hactions] at hdistinct
    obtain ⟨hgated, hcleared, hsingle⟩ := hw.guarded hdistinct
    refine ⟨?_, fun k hk repository issueNumber scope hclear => ?_,
      fun repositoryId issueNumber scope => ?_⟩
    · rw [hactions]
      exact fun a ha hgithub hunbound create hcreate =>
        hgated a ha hgithub hunbound create (hprovider.creates hcreate)
    · rw [hlog] at hk hclear
      exact hprovider.quiet _ _ _ ((hcleared k hk _ _ _ hclear).later hnow)
    · exact (hprovider.standing repositoryId issueNumber scope).trans
        ((standing_later hnow).trans (hsingle repositoryId issueNumber scope))

end Steps

section Run

variable [Runtime] {S M J : Type} {setup : Setup J DeploymentContextResult}
  {providers : Provider S M} {resolve : String → ℤ} {view : S → PostedComments}
  {w w' : World S DeploymentContextResult} {i : ℕ} {e : Effect} {r : Outcome e}
  {choice : Choice M}

/-- The world with what can be seen of GitHub. -/
def World.seen {S ρ : Type} (view : S → PostedComments) (w : World S ρ) : World PostedComments ρ :=
  { w with provider := view w.provider }

omit [Runtime] in
lemma RowState.seen (hw : RowState w) : RowState (w.seen view) :=
  ⟨hw.alone, hw.placed, hw.stands, hw.sober, hw.returned⟩

omit [Runtime] in
lemma RowState.of_seen (hw : RowState (w.seen view)) : RowState w :=
  ⟨hw.alone, hw.placed, hw.stands, hw.sober, hw.returned⟩

/-- The ledger answers how long a row is to be waited for. -/
lemma exec_delay (hexec : (machine setup providers).exec i e choice w = some (r, w')) :
    TellsDelay w.database w.now e r := by
  rcases exec_cases hexec with ⟨row, history, hrun⟩ | ⟨he, -⟩
  · cases e with
    | reconciliationDelaySeconds id =>
      simp only [Database.execute, Option.some.injEq, Prod.mk.injEq] at hrun
      rw [← hrun.1]
      exact rfl
    | record | reserveOrGet | transition | revise | fetchRecords | verifyGitHubIdentity
    | fetchContext | getComment | findCommentsByMarker | createComment | updateComment | fetchIssue
    | verifySlackIdentity | postNotification => exact trivial
  · cases e with
    | reconciliationDelaySeconds => cases he
    | record | reserveOrGet | transition | revise | fetchRecords | verifyGitHubIdentity
    | fetchContext | getComment | findCommentsByMarker | createComment | updateComment | fetchIssue
    | verifySlackIdentity | postNotification => exact trivial

/-- An await is answered truthfully of the comments, as they have become by then. -/
lemma exec_answeredTruly (hhosts : HostsComments resolve providers view)
    (hexec : (machine setup providers).exec i e choice w = some (r, w')) :
    (view w.provider).Later w.now (view w'.provider) ∧
      AnsweredTruly resolve i e r { w.seen view with provider := view w'.provider }
        (w'.seen view) := by
  have hwrites : LedgerWrite w.database w'.database w.now e r := exec_writes hexec
  have hdelay : TellsDelay w.database w.now e r := exec_delay hexec
  have hlog : w'.log = .executed i w.now e r :: w.log := log_of_exec hexec
  suffices hprovider : w'.now = w.now ∧ (view w.provider).Later w.now (view w'.provider) ∧
      (view w'.provider).truthful resolve e r = true from
    ⟨hprovider.2.1, hlog, hprovider.1, rfl, hwrites, hprovider.2.2, hdelay⟩
  simp only [machine] at hexec
  split at hexec
  · split at hexec
    · obtain ⟨⟨r, db⟩, hrun, heq⟩ := Option.map_eq_some_iff.1 hexec
      cases heq
      refine ⟨rfl, .refl, ?_⟩
      cases e with
      | record | reserveOrGet | transition | revise | reconciliationDelaySeconds => rfl
      | fetchRecords | verifyGitHubIdentity | fetchContext | getComment | findCommentsByMarker
      | createComment | updateComment | fetchIssue | verifySlackIdentity | postNotification =>
        cases hrun
    · cases hexec
  · split at hexec
    · cases hexec
    · obtain ⟨⟨r, s⟩, hrespond, heq⟩ := Option.map_eq_some_iff.1 hexec
      cases heq
      exact ⟨rfl, hhosts.answers _ _ _ _ _ _ hrespond⟩
  · cases hexec

/-- What the environment does is a thing of GitHub or of time, or leaves the comments alone. -/
lemma env_comments (hhosts : HostsComments resolve providers view)
    (htick : ∀ now later, setup.tick now later = true → now ≤ later)
    (hsound : (view w.provider).Sound)
    (henv : (machine setup providers).env choice w = some w') :
    w.now ≤ w'.now ∧ PostedComments.Evolves w'.now (view w.provider) (view w'.provider) := by
  simp only [machine] at henv
  split at henv
  · split at henv
    · cases henv
      exact ⟨htick _ _ ‹_›, hsound.evolves⟩
    · cases henv
  · cases henv
    exact ⟨le_refl _, hsound.evolves⟩
  · cases henv
    exact ⟨le_refl _, hsound.evolves⟩
  · obtain ⟨s, hact, rfl⟩ := Option.map_eq_some_iff.1 henv
    exact ⟨le_refl _, hsound.later (hhosts.acts _ _ _ _ hact)⟩
  · cases henv

lemma singleState_preserves (hhosts : HostsComments resolve providers view)
    (hexclusive : setup.exclusive = true)
    (htick : ∀ now later, setup.tick now later = true → now ≤ later) :
    (machine setup providers).Preserves (fun i w => past i w.log)
      (fun i w => setup.Turn i w.log) commentScript fun w => SingleState resolve (w.seen view) where
  issue i e w hw hmoves hscript := by
    have hrows : RowState ((machine setup providers).observe i (.issued e) w) :=
      (rowState_preserves hexclusive).issue i e w hw.toRowState.of_seen hmoves hscript
    have hlatest := hmoves.turn hexclusive
    have hnotes : (Event.issued i w.now e : Event DeploymentContextResult).IsNote :=
      fun _ _ _ _ => nofun
    have hlast : ∀ k, latest (.issued i w.now e :: w.log) = some k →
        past k (.issued i w.now e :: w.log) = [] ∨ latest w.log = some k :=
      fun k hk => .inr hk
    cases e with
    | createComment repository issueNumber body =>
      exact hw.create ⟨rfl, rfl, rfl, hhosts.create _ _ _ _ _⟩ hrows.seen hlatest
        (hscript (hw.tracked i))
    | updateComment repository identifier body =>
      exact (hw.update hlatest (hscript (hw.tracked i))).note _ hrows.seen rfl rfl rfl
        (hhosts.update _ _ _ _ _) hnotes hlast
    | record | reserveOrGet | transition | revise | reconciliationDelaySeconds | fetchRecords
    | verifyGitHubIdentity | fetchContext | getComment | findCommentsByMarker | fetchIssue
    | verifySlackIdentity | postNotification =>
      exact hw.note _ hrows.seen rfl rfl rfl (hhosts.other _ _ _ rfl) hnotes hlast
  exec i e c w r w' h hw hmoves hpast hscript hexec := by
    have hrows := (rowState_preserves hexclusive).exec i e c w r w' h hw.toRowState.of_seen hmoves
      hpast hscript hexec
    obtain ⟨hlater, hanswered⟩ := exec_answeredTruly hhosts hexec
    -- The comments may have changed before the answer is given.
    have hbefore : SingleState resolve { w.seen view with provider := view w'.provider } :=
      hw.env ⟨hw.alone, hw.placed, hw.stands, hw.sober, hw.returned⟩ rfl rfl (le_refl _)
        (hw.sound.later hlater)
    exact hbefore.exec hanswered hrows.seen (hmoves.turn hexclusive) hpast hscript
  returned i e r w hw := hw
  finish i r w hw hmoves hscript := by
    have hrows : RowState ((machine setup providers).finish i r w) :=
      (rowState_preserves hexclusive).finish i r w hw.toRowState.of_seen hmoves hscript
    exact hw.note (.ended i r) hrows.seen rfl rfl rfl rfl (fun _ _ _ _ => nofun)
      fun k hk => .inr hk
  env c w w' hw henv := by
    obtain ⟨hnow, hprovider⟩ := env_comments hhosts htick hw.sound henv
    have hactions : w'.database.externalActions = w.database.externalActions :=
      externalActions_of_env henv
    have hlog : w'.log = w.log := log_of_env henv
    exact hw.env ((rowState_preserves hexclusive).env c w w' hw.toRowState.of_seen henv).seen
      hlog hactions hnow hprovider
  spawn n j w w' hw hempty hspawn := by
    have hrows := (rowState_preserves hexclusive).spawn n j w w' hw.toRowState.of_seen hempty hspawn
    cases hspawn
    refine hw.note (.started n w.now) hrows.seen rfl rfl rfl rfl (fun _ _ _ _ => nofun)
      fun k hk => ?_
    obtain rfl : n = k := Option.some.inj hk
    exact .inl (past_started.trans hempty)

lemma singleState_initial {db : Database} {now : Timestamp} {s : PostedComments}
    (hdb : db.externalActions.rows = []) (hs : s.Settled now) :
    SingleState resolve (World.initial db now s) where
  alone _ := ⟨rowAlone_nil, nofun⟩
  placed _ := ⟨fun _ _ => nofun, fun _ _ => nofun, fun _ _ => nofun, fun _ => nofun⟩
  stands _ _ := nofun
  sober a ha := by
    change a ∈ db.externalActions.rows at ha
    rw [hdb] at ha
    cases ha
  returned _ _ := nofun
  sound := hs.sound
  bound a ha := by
    change a ∈ db.externalActions.rows at ha
    rw [hdb] at ha
    cases ha
  reported _ := reported_nil
  owned create hcreate := by
    change create ∈ s.creates at hcreate
    rw [hs.creates] at hcreate
    cases hcreate
  waited _ := nofun
  guarded _ := by
    refine ⟨fun a ha => ?_, fun _ => nofun, hs.single⟩
    change a ∈ db.externalActions.rows at ha
    rw [hdb] at ha
    cases ha

lemma singleState_run [LaxCoercion] {tasks : J → SyncTask}
    (hhosts : HostsComments resolve providers view)
    (hjobs : setup.job = fun j => (tasks j).run) (hexclusive : setup.exclusive = true)
    (htick : ∀ now later, setup.tick now later = true → now ≤ later) {db : Database}
    {now : Timestamp} {s : S} (hdb : db.externalActions.rows = []) (hs : (view s).Settled now)
    {moves : List (Move J (Choice M))}
    {c : Config handlerSignature DeploymentContextResult (World S DeploymentContextResult)}
    (hrun : (machine setup providers).run (Config.init (World.initial db now s)) moves = some c) :
    SingleState resolve (c.world.seen view) := by
  have hkeeps : ∀ j, ((machine setup providers).job j).Keeps commentScript [] := by
    intro j
    change (setup.job j).Keeps commentScript []
    rw [hjobs]
    exact Prog.emits_mono execute_grounded fun _ _ _ => trivial
  exact (machine_records.run (singleState_preserves hhosts hexclusive htick) hkeeps
    (singleState_initial hdb hs) (fun _ => rfl) hrun).inv

end Run

/-- The comments as they should be: at most one for a scope is on an issue or may still be added to
it, and what a row is bound to is its own. -/
structure OneEach [Runtime] {S : Type} (view : S → PostedComments)
    (w : World S DeploymentContextResult) : Prop where
  single : ∀ repositoryId issueNumber scope,
    (view w.provider).standing w.now repositoryId issueNumber scope ≤ 1
  marked : ∀ a ∈ w.database.externalActions.rows, a.provider = .github →
    ∀ posted ∈ (view w.provider).ours,
      a.providerResourceIdentifier = some posted.comment.identifier →
        Marked a.actionScopeKey posted.comment.body
  apart : ∀ a ∈ w.database.externalActions.rows, ∀ b ∈ w.database.externalActions.rows,
    a.provider = .github → b.provider = .github → ∀ posted ∈ (view w.provider).ours,
      a.providerResourceIdentifier = some posted.comment.identifier →
        b.providerResourceIdentifier = some posted.comment.identifier → a = b

lemma SingleState.oneEach [Runtime] {S : Type} {view : S → PostedComments} {resolve : String → ℤ}
    {w : World S DeploymentContextResult} (hw : SingleState resolve (w.seen view))
    (hdistinct : Distinct w.database) : OneEach view w where
  single := (hw.guarded hdistinct).single
  marked a ha hgithub posted hposted hbound :=
    hw.sound.marked_of_known hposted (hw.bound a ha hgithub _ hbound)
  apart a ha b hb hgithub hgithub' posted hposted hbound hbound' := by
    have hmarked := hw.sound.marked_of_known hposted (hw.bound a ha hgithub _ hbound)
    have hmarked' := hw.sound.marked_of_known hposted (hw.bound b hb hgithub' _ hbound')
    exact row_of_digest hdistinct ha hb (hmarked.digest hmarked')

/-- Where handlers run one at a time, at most one comment for a scope is ever on an issue or may
still be added to it, whatever creates come through after their handler is gone, and no row is bound
to a comment of another. -/
theorem one_comment_each [Runtime] [LaxCoercion] {S M J : Type} {providers : Provider S M}
    {resolve : String → ℤ} {view : S → PostedComments} {tasks : J → SyncTask}
    {tick : Timestamp → Timestamp → Bool} {maximumBytes : ℕ} {db : Database} {now : Timestamp}
    {s : S} {moves : List (Move J (Choice M))}
    {c : Config handlerSignature DeploymentContextResult (World S DeploymentContextResult)}
    (hhosts : HostsComments resolve providers view)
    (htick : ∀ now later, tick now later = true → now ≤ later)
    (hdb : db.externalActions.rows = []) (hs : (view s).Settled now)
    (hrun : (machine (soloTasks tasks tick maximumBytes) providers).run
      (Config.init (World.initial db now s)) moves = some c)
    (hdistinct : Distinct c.world.database) : OneEach view c.world :=
  (singleState_run hhosts rfl rfl htick hdb hs hrun).oneEach hdistinct

namespace Sample

/-- A call is answered, or something becomes of the comments without one. -/
inductive StoreChoice
  | answer (outcome : (e : Effect) → Outcome e)
  | change (change : CommentChange)

/-- GitHub as nothing but its comments. Any answer that is true of them may be given. -/
def commentStore [Runtime] : Provider PostedComments StoreChoice where
  issue db e s :=
    match e with
    | .createComment _ issueNumber body =>
      { s with creates := s.creates ++ [⟨⟨42, issueNumber, body⟩, writeDeadline db body⟩] }
    | .updateComment _ identifier body => { s with edits := s.edits ++ [⟨42, identifier, body⟩] }
    | _ => s
  respond m _ e s :=
    match m with
    | .answer outcome =>
      if s.truthful (fun _ => 42) e (outcome e) then some (outcome e, s) else none
    | .change _ => none
  act m now s :=
    match m with
    | .answer _ => none
    | .change change => s.change now change

lemma commentStore_hosts [Runtime] : HostsComments (fun _ => 42) commentStore id where
  create _ _ _ _ _ := rfl
  update _ _ _ _ _ := rfl
  other db e s he := by
    cases e with
    | createComment | updateComment => cases he
    | record | reserveOrGet | transition | revise | reconciliationDelaySeconds | fetchRecords
    | verifyGitHubIdentity | fetchContext | getComment | findCommentsByMarker | fetchIssue
    | verifySlackIdentity | postNotification => rfl
  answers m now e s r s' hrespond := by
    cases m with
    | answer outcome =>
      simp only [commentStore] at hrespond
      split at hrespond
      · rename_i htruthful
        cases hrespond
        exact ⟨.refl, htruthful⟩
      · cases hrespond
    | change change => cases hrespond
  acts m now s s' hact := by
    cases m with
    | answer outcome => cases hact
    | change change => exact .single ⟨change, hact⟩

attribute [local instance] syncHost laxCoercion

/-- The next call of handler `i`, answered, and what it does up to its next await. -/
def tell (i : ℕ) : List (Move ℕ (Choice StoreChoice)) :=
  [.exec i (.respond (.answer (syncAnswers (.ok ⟨[], true⟩)))), .resume i]

/-- The next transaction of handler `i`, and what it does up to its next await. -/
def settle (i n : ℕ) : List (Move ℕ (Choice StoreChoice)) :=
  [.exec i (.identifiers (BitVec.ofNat 128 (2 * n)) (BitVec.ofNat 128 (2 * n + 1))), .resume i]

/-- A handler asks for its comment, and stops. -/
def askedAndStopped : List (Move ℕ (Choice StoreChoice)) :=
  [.start 1, .resume 0] ++ tell 0 ++ settle 0 50 ++ tell 0 ++ tell 0 ++ settle 0 51 ++ tell 0 ++
    settle 0 52 ++ settle 0 53 ++ settle 0 54 ++ tell 0 ++ settle 0 55 ++ settle 0 56 ++ [.halt 0]

def runStore (moves : List (Move ℕ (Choice StoreChoice))) :
    Option (Config handlerSignature DeploymentContextResult
      (World PostedComments DeploymentContextResult)) :=
  (machine (soloTasks syncTask (fun now later => decide (now ≤ later)) 65536) commentStore).run
    (Config.init (World.initial database 0 (.initial []))) moves

set_option maxRecDepth 100000 in
lemma runStore_askedAndStopped : ((runStore askedAndStopped).any fun c =>
    c.world.database.externalActions.rows.length == 1 && c.world.provider.creates.length == 1) =
      true := by
  decide +kernel

lemma distinct_of_singleton [Runtime] {db : Database}
    (hdb : db.externalActions.rows.length = 1) : Distinct db := by
  obtain ⟨a, ha⟩ := List.length_eq_one_iff.1 hdb
  intro b hb b' hb' _
  rw [ha, List.mem_singleton] at hb hb'
  rw [hb, hb']

end Sample

attribute [local instance] Sample.syncHost Sample.laxCoercion in
open Sample in
theorem one_comment_each_askedAndStopped : ∃ c, runStore askedAndStopped = some c ∧
    c.world.provider.creates.length = 1 ∧ OneEach id c.world := by
  have hrun := runStore_askedAndStopped
  simp only [Option.any_eq_true, Bool.and_eq_true, beq_iff_eq] at hrun
  obtain ⟨c, hc, hrows, hcreates⟩ := hrun
  exact ⟨c, hc, hcreates, one_comment_each commentStore_hosts
    (fun _ _ htick => of_decide_eq_true htick) rfl PostedComments.settled_initial hc
    (distinct_of_singleton hrows)⟩

end DeploymentLab
