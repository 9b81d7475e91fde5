import DeploymentLab.Proofs.CanonicalJson
import DeploymentLab.Proofs.CatalogPolicy
import DeploymentLab.Proofs.CommentAuthors
import DeploymentLab.Proofs.CommentUpdate

/-!
# What an update writes over

An update replaces the comment that its row is bound to, as the run has just read it. The row has
to be at a later revision, with other content applied than is desired now, and the comment has to
have kept its marker. What else the comment says is not asked.
-/

namespace DeploymentLab

open Interaction DeploymentContextSyncHandler

section Updates

variable [Runtime]

/-- The row and the comment that an update of the comment `identifier` with `body` rests on. -/
structure Overwrites (h : SyncPast) (repository identifier body : String) (row : ExternalAction)
    (comment : GitHubComment) : Prop where
  given : row ∈ returnedActions h
  bound : row.providerResourceIdentifier = some identifier
  read : .answered (.getComment repository identifier) (.ok (some comment)) ∈ h
  last : lastRead h = some [comment]
  marked : substring (safeMarker row.actionScopeKey) comment.body = true
  outdated : bodyFingerprint comment.body ≠ bodyFingerprint body
  later : 1 < row.revision
  applied : ∃ applied, row.appliedRequestFingerprint = some applied ∧
    applied ≠ bodyFingerprint body

def overwriteScript : Script handlerSignature DeploymentContextResult
  | h, .issued (.updateComment repository identifier body) =>
    RowAlone h → ∃ row comment, Overwrites h repository identifier body row comment
  | _, _ => True

omit [Runtime] in
lemma replaceable_iff {row : ExternalAction} {desired : Digest} :
    replaceable row desired = true ↔ 1 < row.revision ∧
      ∃ applied, row.appliedRequestFingerprint = some applied ∧ applied ≠ desired := by
  rw [replaceable]
  cases row.appliedRequestFingerprint with
  | none => simp
  | some applied => simp

/-- A row that is bound to a comment is written after that comment has been read only. -/
lemma Writable.overwrites {publication : Publication} {action : ExternalAction} {h : SyncPast}
    {identifier : String} (hwritable : Writable publication action h)
    (hrow : action.providerResourceIdentifier = some identifier)
    (hdesired : publication.desiredFingerprint = bodyFingerprint publication.body) :
    ∃ comment, Overwrites h publication.repository identifier publication.body action comment := by
  obtain ⟨hgiven, -, existing, hread, hexisting⟩ := hwritable
  cases hread with
  | @bound identifier' comment hrow' hmem hlast hmarker =>
    obtain rfl : identifier' = identifier := Option.some.inj (hrow'.symm.trans hrow)
    obtain ⟨hbody, hreplaceable⟩ := hexisting comment rfl
    rw [hdesired] at hbody hreplaceable
    obtain ⟨hlater, happlied⟩ := replaceable_iff.1 hreplaceable
    exact ⟨comment, hgiven, hrow, hmem, hlast, hmarker, hbody, hlater, happlied⟩
  | searched hrow' =>
    rw [hrow] at hrow'
    cases hrow'

lemma overwriteScript_free (h : SyncPast) (e : Effect) (he : e.writesComment = false) :
    overwriteScript h (.issued e) := by
  cases e <;> trivial

lemma overwriteScript_reconciles : Reconciles overwriteScript := by
  intro settings task publication action h hdesired hhead
  refine Prog.emits_mono (Prog.emits_laxer (reconcileAndApply_grounded hhead) fun h e hground => ?_)
    fun _ _ _ => trivial
  by_cases he : e.writesComment = false
  · exact overwriteScript_free h e he
  cases e with
  | createComment => trivial
  | updateComment repository identifier body =>
    intro halone
    obtain ⟨hwritable, rfl, hrow, rfl⟩ := hground halone
    exact ⟨action, hwritable.overwrites hrow hdesired⟩
  | record | reserveOrGet | transition | revise | reconciliationDelaySeconds | fetchRecords
  | verifyGitHubIdentity | fetchContext | getComment | findCommentsByMarker | fetchIssue
  | verifySlackIdentity | postNotification => exact absurd rfl he

end Updates

section Mismatch

variable [Runtime] {settings : Settings} {task : TaskExecution} {publication : Publication}
  {action : ExternalAction} {identifier : String} {comment : GitHubComment} {h₀ h : SyncPast}

/-- A bound row that may be written to is at a revision that replaces what was applied. -/
lemma Writable.replaceable (hwritable : Writable publication action h)
    (hrow : action.providerResourceIdentifier = some identifier) :
    DeploymentContextSyncHandler.replaceable action publication.desiredFingerprint = true := by
  obtain ⟨-, -, existing, hread, hexisting⟩ := hwritable
  cases hread with
  | bound => exact (hexisting _ rfl).2
  | searched hnone =>
    rw [hrow] at hnone
    cases hnone

/-- What a reconciliation of a bound row has found is the comment that it has read last. -/
lemma Read.eq_of_bound {existing : Option GitHubComment}
    (hread : Read publication action h existing)
    (hrow : action.providerResourceIdentifier = some identifier)
    (hlast : lastRead h = some [comment]) : existing = some comment := by
  cases hread with
  | bound hrow' hmem hlast' =>
    rw [hlast] at hlast'
    cases hlast'
    rfl
  | searched hnone =>
    rw [hrow] at hnone
    cases hnone

/-- A run that finds the comment of a bound row with other content than is desired does not write it
and, unless it is stopped before it has read it, asks that it be left to a human. -/
lemma reconcileAndApply_mismatch {r : Except Exn DeploymentContextResult}
    (hhead : (returnedActions h₀).head? = some action)
    (hrow : action.providerResourceIdentifier = some identifier)
    (htrace : (reconcileAndApply settings task publication action).Trace h₀ h r)
    (halone : RowAlone h) (hlast : lastRead h = some [comment])
    (hbody : bodyFingerprint comment.body ≠ publication.desiredFingerprint)
    (hfinal : replaceable action publication.desiredFingerprint = false) :
    (∀ later e earlier, h = later ++ .issued e :: earlier → h₀ <:+ earlier →
        Effect.writesComment e = false) ∧
      (∀ e answer, Effect.readsComments e = true → Past.Since h₀ h (.answered e (.ok answer)) →
        AsksReview task action h₀ h) ∧
      ∀ result, r = .ok result → result.decision.outcome = .needsHumanReview ∧
        ∃ a, (returnedActions h).head? = some a ∧ a.status = .needsHumanReview := by
  have hgrounded : (reconcileAndApply settings task publication action).Emits
      (reconcileScript publication action) (Concluded publication action) h₀ :=
    reconcileAndApply_grounded hhead
  have hunwritable : ∀ past, ¬Writable publication action past := by
    intro past hwritable
    rw [hwritable.replaceable hrow] at hfinal
    cases hfinal
  have hunsettled : ∀ existing, Read publication action h existing →
      ¬∀ found, existing = some found →
        bodyFingerprint found.body = publication.desiredFingerprint ∨
          replaceable action publication.desiredFingerprint = true := by
    intro existing hread hexisting
    rcases hexisting comment (hread.eq_of_bound hrow hlast) with hdesired | hreplaceable
    · exact hbody hdesired
    · rw [hfinal] at hreplaceable
      cases hreplaceable
  refine ⟨?_, fun e answer he hsince => ?_, ?_⟩
  · intro later e earlier heq hsuffix
    have hground := hgrounded.issued_since htrace heq hsuffix
    rw [heq] at halone
    have hpast : RowAlone earlier := halone.of_append.of_cons
    cases e with
    | createComment => exact absurd (hground hpast) (hunwritable earlier)
    | updateComment => exact absurd (hground hpast).1 (hunwritable earlier)
    | record | reserveOrGet | transition | revise | reconciliationDelaySeconds | fetchRecords
    | verifyGitHubIdentity | fetchContext | getComment | findCommentsByMarker | fetchIssue
    | verifySlackIdentity | postNotification => rfl
  · rcases reconcileAndApply_reviews hhead htrace halone he hsince with
      hasks | ⟨existing, hread, hexisting⟩
    · exact hasks
    · exact absurd hexisting (hunsettled existing hread)
  · intro result hresult
    obtain ⟨-, hreview | ⟨existing, hread, hexisting⟩⟩ :=
      hgrounded.of_trace htrace halone result hresult
    · exact hreview
    · exact absurd hexisting (hunsettled existing hread)

end Mismatch

/-- The text that a body is fingerprinted by. -/
def bodyText (body : String) : String := canonicalJson (.dict [("body", .str body)])

lemma bodyText_inj {body body' : String} (h : bodyText body = bodyText body') : body = body' := by
  have hwell : ∀ s : String, (JsonValue.dict [("body", .str s)]).WellFormed := by
    intro s
    simp [JsonValue.WellFormed, wellFormedMembers]
  obtain ⟨y, rest, hperm, hsame, -⟩ := (canonicalJson_eq_iff (hwell body) (hwell body')).1 h
  have hmember := List.singleton_perm.1 hperm
  obtain ⟨-, rfl⟩ := Prod.mk.inj (List.cons.inj hmember).1
  exact hsame

/-- A fingerprinted text opens with a brace. -/
lemma bodyText_ne {body s : String} (hs : s.toList.head? ≠ some '\x7b') : bodyText body ≠ s := by
  rintro rfl
  apply hs
  simp [bodyText, canonicalJson]

namespace Sample

def scopeDigest : Digest := 0xdb726831023c69a92aaa2afae0acd86302ff21f8b661ddd955786461f3482bb5

def markerText : String :=
  "<!-- ninjatech-deployment-context:" ++ scopeDigest.hexdigest ++ " -->"

/-- What somebody has made of the comment, under its marker. -/
def editedBody : String := markerText ++ "\nDo not deploy."

/-- The host of a run that comes upon the edited comment. -/
@[reducible] def editedHost : Runtime :=
  { syncHost with
    sha256 := fun s =>
      if s = bodyText editedBody then
        0xe90be646dd9d6bc3819db74807980e0466b420ba367fd4c9aad9d06f86cc0cbb
      else if s = bodyText expectedBody then
        0x2e59ed87c70204d39e2959eada950dfaf00c2fcba5176f1f961deee20a8790bf
      else syncHost.sha256 s }

def editedComment : GitHubComment := githubComment editedBody

attribute [local instance] editedHost

lemma scope_head : commentScope.toList.head? ≠ some '\x7b' := by decide

lemma expectedBody_ne : expectedBody ≠ editedBody := by
  intro heq
  have hlast : expectedBody.toList.getLast? = editedBody.toList.getLast? := by rw [heq]
  have hexpected : expectedBody.toList.getLast? = some '\n' := by
    have hend : "\n".toList.getLast? = some '\n' := by decide
    rw [expectedBody, String.toList_append, String.toList_append, List.getLast?_append,
      List.getLast?_append, hend, Option.some_or, Option.some_or]
  have hedited : editedBody.toList.getLast? = some '.' := by
    have hend : "\nDo not deploy.".toList.getLast? = some '.' := by decide
    rw [editedBody, String.toList_append, List.getLast?_append, hend, Option.some_or]
  rw [hexpected, hedited] at hlast
  exact absurd hlast (by decide)

lemma bodyFingerprint_edited : bodyFingerprint editedBody =
    0xe90be646dd9d6bc3819db74807980e0466b420ba367fd4c9aad9d06f86cc0cbb := by
  change editedHost.sha256 (bodyText editedBody) = _
  exact if_pos rfl

lemma bodyFingerprint_expected : bodyFingerprint expectedBody =
    0x2e59ed87c70204d39e2959eada950dfaf00c2fcba5176f1f961deee20a8790bf := by
  have hne : bodyText expectedBody ≠ bodyText editedBody :=
    fun heq => expectedBody_ne (bodyText_inj heq)
  change editedHost.sha256 (bodyText expectedBody) = _
  exact (if_neg hne).trans (if_pos rfl)

lemma sha256_scope : editedHost.sha256 commentScope = scopeDigest := by
  have hsync : syncHost.sha256 commentScope = scopeDigest := by decide +kernel
  exact (if_neg (bodyText_ne scope_head).symm).trans
    ((if_neg (bodyText_ne scope_head).symm).trans hsync)

/-- The row at its second revision, bound to the comment of the first. -/
def revisedRow : ExternalAction :=
  { unboundRow with
    desiredRequestFingerprint := bodyFingerprint expectedBody
    appliedRequestFingerprint :=
      some 0xbf8eb1975e4d46c718b2f62f9ca22cadfcc0c37dae5319ae6927ba09f35ea21d
    revision := 2
    status := .reconciling
    providerResourceIdentifier := some "9001" }

def revisedPublication : Publication :=
  { expectedPublication with desiredFingerprint := bodyFingerprint expectedBody }

end Sample

namespace Sample

/-- The row at its first revision, bound to its comment. -/
def firstRow : ExternalAction :=
  { revisedRow with revision := 1 }

attribute [local instance] editedHost

lemma edited_ne_desired :
    bodyFingerprint editedComment.body ≠ revisedPublication.desiredFingerprint := by
  change bodyFingerprint editedBody ≠ bodyFingerprint expectedBody
  rw [bodyFingerprint_edited, bodyFingerprint_expected]
  decide

lemma edited_marked : substring (safeMarker commentScope) editedComment.body = true := by
  have htext : safeMarker commentScope = markerText :=
    congrArg (fun digest : Digest =>
      "<!-- ninjatech-deployment-context:" ++ digest.hexdigest ++ " -->") sha256_scope
  rw [htext]
  exact substring_append markerText _

end Sample

namespace Sample

attribute [local instance] editedHost

/-- What the run reads, and under which references it stores it. -/
def syncSources : Sources := ⟨[catalogRecord], githubContext, jiraItem⟩

def syncReferences : List SourceReference :=
  [⟨0, "service_catalog", "service", "payments", "v1", sha256Json (catalogPayload catalogRecord)⟩,
    ⟨0, "github", "repository_issue_context", "42:issue:7", "abcdef1:2024-05-06",
      sha256Json (githubPayload githubContext)⟩,
    ⟨0, "jira", "work_item", "OPS-1", "1", sha256Json (jiraPayload jiraItem .internal)⟩]

def syncDecision : DeploymentContextDecision :=
  readyDecision (evaluateServiceCatalog paymentsInput [catalogRecord] syncSettings) catalogRecord
    jiraItem syncReferences

/-- What the run asks the ledger for. -/
def syncRequest : ReservationRequest where
  fence := fence 1
  provider := .github
  operation := .upsertDeploymentContextComment
  actionScopeKey := commentScope
  desiredRequestFingerprint := bodyFingerprint expectedBody
  decisionSnapshotHash := decisionSnapshotHash syncDecision

def dueRow : ExternalAction :=
  { revisedRow with decisionSnapshotHash := syncRequest.decisionSnapshotHash }

def dueDatabase : Database :=
  { database with externalActions := ⟨[dueRow], List.pairwise_singleton _ _⟩ }

set_option maxRecDepth 100000 in
lemma renderGithubComment_sync : @renderGithubComment syncHost commentScope syncDecision
    catalogRecord githubContext jiraItem = .ok expectedBody := by
  have hrendered : (@renderGithubComment syncHost commentScope syncDecision catalogRecord
      githubContext jiraItem).toOption = some expectedBody := by
    decide +kernel
  cases h : @renderGithubComment syncHost commentScope syncDecision catalogRecord githubContext
      jiraItem with
  | error x =>
    rw [h] at hrendered
    cases hrendered
  | ok body =>
    rw [h] at hrendered
    exact congrArg Except.ok (Option.some.inj hrendered)

/-- A text depends on the host by the digest of its scope only. -/
lemma renderGithubComment_edited : renderGithubComment commentScope syncDecision catalogRecord
    githubContext jiraItem = .ok expectedBody := by
  have hscope : editedHost.sha256 commentScope = syncHost.sha256 commentScope := by
    rw [sha256_scope]
    decide +kernel
  rw [← renderGithubComment_sync]
  unfold renderGithubComment safeMarker
  rw [hscope]

lemma sync_evidence : syncReferences.map SourceReference.evidence =
    syncSources.evidence catalogRecord := by
  have hissue : toString githubContext.repositoryId ++ ":issue:" ++
      toString githubContext.issueNumber = "42:issue:7" := by decide +kernel
  simp only [syncReferences, syncSources, Sources.evidence, List.map_cons, List.map_nil,
    List.cons_append, List.nil_append, catalogEvidence, githubEvidence, jiraEvidence, hissue]
  rfl

lemma syncRequest_callsFor : CallsFor syncSettings paymentsInput syncSources syncRequest :=
  ⟨catalogRecord, syncReferences, expectedBody, by decide +kernel, sync_evidence,
    by decide +kernel, renderGithubComment_edited, rfl, rfl⟩

lemma sync_letThrough :
    LetThrough { settings := syncSettings } paymentsInput syncSources catalogRecord where
  slack := by decide +kernel
  scope := by decide +kernel
  ready := by decide +kernel
  record := by decide +kernel
  repository := by decide +kernel
  issue := rfl
  isIssue := rfl
  unarchived := rfl
  isOpen := by decide +kernel
  jira := by decide +kernel

lemma storable_of {payload : JsonValue} {sourceUrl : String} {maximumBytes : ℕ}
    (hsize : (canonicalJson payload).utf8ByteSize ≤ maximumBytes)
    (hsource : (canonicalSourceUrl sourceUrl).toOption.isSome = true) :
    Storable maximumBytes payload sourceUrl := by
  refine ⟨hsize, ?_⟩
  cases h : canonicalSourceUrl sourceUrl with
  | ok url => exact ⟨url, rfl⟩
  | error x =>
    rw [h] at hsource
    cases hsource

lemma sync_recordable : syncSources.Recordable catalogRecord 65536 where
  catalog record hrecord := by
    obtain rfl := List.mem_singleton.1 hrecord
    exact storable_of (by decide +kernel) (by decide +kernel)
  github := storable_of (by decide +kernel) (by decide +kernel)
  jira := storable_of (by decide +kernel) (by decide +kernel)

lemma anyProvider_mayAnswer (e : Effect) (a : e.Answer) : anyProvider.MayAnswer e a := by
  classical
  intro now s
  refine ⟨Function.update (fun _ => .error .noResultFound) e (.ok a), s, ?_⟩
  simp [anyProvider]

lemma revisedRow_outdated :
    (0xbf8eb1975e4d46c718b2f62f9ca22cadfcc0c37dae5319ae6927ba09f35ea21d : Digest) ≠
      bodyFingerprint expectedBody := by
  rw [bodyFingerprint_expected]
  decide

lemma dueRow_reserved : ReservedUpdate syncRequest "9001" editedComment dueRow where
  provider := rfl
  operation := rfl
  desired := rfl
  snapshot := rfl
  due := {
    status := by decide
    bound := rfl
    replaceable := replaceable_iff.2 ⟨by decide, _, rfl, revisedRow_outdated⟩
    marked := edited_marked
    outdated := edited_ne_desired }

lemma dueDatabase_unused {x : UUID} (h : x ≠ 1) : dueDatabase.unused x = true := by
  have hrows : dueDatabase.externalActions.rows = [dueRow] := rfl
  have hartifacts : dueDatabase.sourceArtifacts.rows = [] := rfl
  have hattempts : dueDatabase.externalActionAttempts.rows = [] := rfl
  simp only [Database.unused, hrows, hartifacts, hattempts, List.all_cons, List.all_nil,
    Bool.and_true, Bool.true_and, bne_iff_ne]
  exact h.symm

lemma dueDatabase_ledger : Database.LedgerValid dueDatabase where
  actions a ha := by
    obtain rfl := List.mem_singleton.1 ha
    decide
  history a ha := by cases ha

lemma dueDatabase_heading : Heading (syncTask 1).task commentScope dueRow 7 0
    (World.initial dueDatabase 0 () : World Unit DeploymentContextResult) where
  unhindered := {
    ledger := dueDatabase_ledger
    fence := rfl
    unsignalled := ⟨rfl, rfl⟩
    room := ⟨[200, 201, 202, 203, 204, 205, 206], le_rfl, by decide, fun x hx =>
      dueDatabase_unused (by rintro rfl; exact absurd hx (by decide))⟩ }
  row := Database.actionAt_eq_some_iff.2 ⟨List.mem_singleton_self _, rfl⟩

attribute [local instance] laxCoercion

lemma sync_validated :
    DeploymentContextSyncInput.modelValidate (syncTask 1).input = some paymentsInput := by
  rfl

/-- Runs of the sample tasks, one at a time. -/
def soloSetup : Setup ℕ DeploymentContextResult :=
  soloTasks syncTask (fun now later => decide (now ≤ later)) 65536

lemma due_reached : ∃ moves c,
    (machine soloSetup anyProvider).run (Config.init (World.initial dueDatabase 0 ())) moves =
      some c ∧
    Overwriting 0 "acme/payments" "9001" (bodyFingerprint expectedBody) c.world := by
  let initial : Config handlerSignature DeploymentContextResult
    (World Unit DeploymentContextResult) := Config.init (World.initial dueDatabase 0 ())
  have hidle : ∀ k < initial.count, (initial.thread k).active = false :=
    fun k hk => absurd hk (Nat.not_lt_zero k)
  have hheading : Heading (syncTask 1).task syncRequest.actionScopeKey dueRow
      (syncSources.records.length + 6) initial.count initial.world := dueDatabase_heading
  have hjob : soloSetup.job 1 = DeploymentContextSyncHandler.execute { settings := syncSettings }
      (syncTask 1).task (syncTask 1).input := rfl
  have hanswers : MayAnswerAll anyProvider paymentsInput syncSources "9001" editedComment :=
    ⟨anyProvider_mayAnswer _ _, anyProvider_mayAnswer _ _, anyProvider_mayAnswer _ _,
      anyProvider_mayAnswer _ _, anyProvider_mayAnswer _ _⟩
  obtain ⟨moves, c, hrun, hoverwriting, -⟩ := dueRow_reserved.reached hjob hidle hheading
    sync_validated syncRequest_callsFor sync_letThrough sync_recordable hanswers
  exact ⟨.start 1 :: moves, c, hrun, hoverwriting⟩

end Sample

end DeploymentLab
