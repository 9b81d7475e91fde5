import DeploymentLab.Proofs.CommentAuthors
import DeploymentLab.Proofs.Escaping
import DeploymentLab.Proofs.MarkerSearch
import DeploymentLab.Proofs.Snapshots

/-!
# The marker of a comment

A rendered comment begins with the marker of its scope, and has no other angle bracket to open
with: whatever the providers wrote, no other marker can be found in it.
-/

namespace DeploymentLab

open Reading

section Brackets

lemma bracket_notMem_htmlEscape {s : String} {quote : Bool} :
    '<' ∉ (htmlEscape s quote).toList :=
  angle_notMem_htmlEscape (by decide)

lemma bracket_notMem_hexdigest {d : Digest} : '<' ∉ d.hexdigest.toList := by
  have hdigit : ∀ n : ℕ, hexDigit n ≠ '<' := by
    have hall : ∀ n < 16, Nat.digitChar n ≠ '<' := by decide
    intro n
    exact hall _ (Nat.mod_lt n (by decide))
  simp [Digest.hexdigest, hdigit]

lemma bracket_notMem_intToString {i : ℤ} : '<' ∉ (toString i).toList := by
  intro hmem
  have hnumeral := isNumeral_of_mem_intToString hmem
  revert hnumeral
  decide

lemma bracket_notMem_zeroPadded {width n : ℕ} : '<' ∉ (zeroPadded width n).toList := by
  intro hmem
  rw [zeroPadded, String.toList_ofList, List.mem_append] at hmem
  rcases hmem with hzero | hdigits
  · have := List.eq_of_mem_replicate hzero
    revert this
    decide
  · have := isDigit_of_mem_natRepr hdigits
    revert this
    decide

lemma bracket_notMem_isoformat {t : Datetime} : '<' ∉ t.isoformat.toList := by
  have hlocal : '<' ∉ t.localIsoformat.toList := by
    unfold Datetime.localIsoformat
    split
    · simp [bracket_notMem_zeroPadded]
    · simp [bracket_notMem_zeroPadded]
  have hoffset : ∀ offset, '<' ∉ (Datetime.offsetIsoformat offset).toList := by
    intro offset
    unfold Datetime.offsetIsoformat
    dsimp only
    repeat' split
    all_goals simp [bracket_notMem_zeroPadded]
  rw [Datetime.isoformat, String.toList_append, List.mem_append, not_or]
  refine ⟨hlocal, ?_⟩
  cases t.utcoffset with
  | none => simp
  | some offset => exact hoffset offset

lemma bracket_notMem_value {outcome : DecisionOutcome} : '<' ∉ outcome.value.toList := by
  cases outcome with
  | ready => decide
  | blocked => decide
  | needsHumanReview => decide

end Brackets

/-! ## Markers -/

/-- A marker after its bracket. -/
def markerRest (digest : Digest) : List Char :=
  "!-- ninjatech-deployment-context:".toList ++ digest.hexdigest.toList ++ " -->".toList

lemma bracket_notMem_markerRest {digest : Digest} : '<' ∉ markerRest digest := by
  unfold markerRest
  simp only [List.mem_append, not_or]
  exact ⟨⟨by decide, bracket_notMem_hexdigest⟩, by decide⟩

lemma markerRest_length {digest digest' : Digest} :
    (markerRest digest).length = (markerRest digest').length := by
  have hlength : ∀ d : Digest, d.hexdigest.toList.length = 64 := by
    intro d
    simp [Digest.hexdigest]
  unfold markerRest
  rw [List.length_append, List.length_append, List.length_append,
    List.length_append, hlength, hlength]

lemma markerRest_prefix_iff {digest digest' : Digest} {rest : List Char} :
    markerRest digest <+: markerRest digest' ++ rest ↔ digest = digest' := by
  constructor
  · rintro ⟨u, hu⟩
    have hrest := (List.append_inj hu markerRest_length).1
    unfold markerRest at hrest
    simp only [List.append_cancel_right_eq, List.append_cancel_left_eq,
      String.toList_inj] at hrest
    exact hexdigest_injective hrest
  · rintro rfl
    exact List.prefix_append _ _

section Markers

variable [Runtime] {scope t body : String} {decision : DeploymentContextDecision}
  {service : ServiceCatalogRecord} {github : GitHubRepositoryContext} {jira : JiraWorkItem}

lemma safeMarker_toList :
    (safeMarker scope).toList = '<' :: markerRest (Runtime.sha256 scope) := by
  have hbracket : "<!-- ninjatech-deployment-context:".toList =
      '<' :: "!-- ninjatech-deployment-context:".toList := by
    decide
  unfold safeMarker markerRest
  rw [String.toList_append, String.toList_append, hbracket, List.cons_append, List.cons_append]

omit [Runtime] in
lemma bracket_notMem_renderSource {reference : SourceReference} :
    '<' ∉ (renderSource reference).toList := by
  unfold renderSource
  simp only [String.toList_append, List.mem_append, not_or,
    bracket_notMem_htmlEscape, not_false_eq_true, and_true]
  decide

/-- A comment that the workflow renders for the scope. -/
def RenderedFor (scope body : String) : Prop :=
  ∃ decision service github jira, renderGithubComment scope decision service github jira = .ok body

/-- A comment is its marker and text that opens no tag. -/
lemma renderGithubComment_ok
    (h : renderGithubComment scope decision service github jira = .ok body) :
    ∃ rest, '<' ∉ rest ∧ body.toList = '<' :: (markerRest (Runtime.sha256 scope) ++ rest) := by
  have hreasons : '<' ∉ ("\n".intercalate
      (decision.reasons.map fun reason => "- " ++ htmlEscape reason)).toList := by
    rw [String.toList_intercalate]
    apply notMem_intercalate (by decide)
    simp [bracket_notMem_htmlEscape]
  have hsources : '<' ∉ ("\n".intercalate
      ((sortReferences decision.sourceReferences).map renderSource)).toList := by
    rw [String.toList_intercalate]
    apply notMem_intercalate (by decide)
    simp [bracket_notMem_renderSource]
  unfold renderGithubComment at h
  dsimp only at h
  split at h
  · cases h
  have hbody := Except.ok.inj h
  rw [← hbody]
  simp only [String.toList_append, safeMarker_toList, List.append_assoc, List.cons_append]
  refine ⟨_, ?_, rfl⟩
  simp only [List.mem_append, not_or, bracket_notMem_htmlEscape, bracket_notMem_value,
    bracket_notMem_intToString, bracket_notMem_isoformat, hreasons, hsources, not_false_eq_true,
    true_and]
  decide

omit [Runtime] in
/-- The rest of a comment opens no tag either. -/
lemma bracket_notMem_after {digest : Digest} {rest : List Char} (hrest : '<' ∉ rest) :
    '<' ∉ markerRest digest ++ rest := by
  rw [List.mem_append, not_or]
  exact ⟨bracket_notMem_markerRest, hrest⟩

/-- Which markers a comment has is up to the digests of the scopes. -/
lemma RenderedFor.substring_iff (h : RenderedFor scope body) :
    substring (safeMarker t) body = true ↔ Runtime.sha256 t = Runtime.sha256 scope := by
  obtain ⟨decision, service, github, jira, hrender⟩ := h
  obtain ⟨rest, hrest, hbody⟩ := renderGithubComment_ok hrender
  rw [substring, decide_eq_true_iff, safeMarker_toList, hbody,
    infix_iff_prefix (bracket_notMem_after hrest), markerRest_prefix_iff]

lemma RenderedFor.ne_empty (h : RenderedFor scope body) : body ≠ "" := by
  obtain ⟨decision, service, github, jira, hrender⟩ := h
  obtain ⟨rest, -, hbody⟩ := renderGithubComment_ok hrender
  rintro rfl
  cases hbody

lemma RenderedFor.prefix_drop_iff (h : RenderedFor scope body) (i : ℕ) :
    (safeMarker scope).toList <+: body.toList.drop i ↔ i = 0 := by
  obtain ⟨decision, service, github, jira, hrender⟩ := h
  obtain ⟨rest, hrest, hbody⟩ := renderGithubComment_ok hrender
  rw [safeMarker_toList, hbody, Reading.prefix_drop_iff (bracket_notMem_after hrest),
    markerRest_prefix_iff]
  simp

/-- Comments of the workflow, each with the scope it is rendered for, that are among the found ones
are the ones of the scope. -/
lemma withMarker_rendered {rendered : List (String × GitHubComment)}
    (hrendered : ∀ item ∈ rendered, RenderedFor item.1 item.2.body)
    (hcollide : ∀ item ∈ rendered, NoCollision t item.1) :
    withMarker (safeMarker t) (rendered.map (·.2)) =
      (rendered.filter fun item => item.1 = t).map (·.2) := by
  rw [withMarker, List.filter_map]
  congr 1
  apply List.filter_congr
  intro item hitem
  have hiff := (hrendered item hitem).substring_iff (t := t)
  rw [(hcollide item hitem).iff] at hiff
  rw [Function.comp_apply, Bool.eq_iff_iff, hiff, decide_eq_true_iff]
  exact eq_comm

variable [Calendar]

/-- A comment has the marker of its scope once, at its beginning, and no other scope's. A search for
a marker among comments of the workflow gives the comments of its scope that are on the pages which
it reads, and it is complete where these are all pages. -/
theorem markers_separate_scopes :
    (∀ scope body, RenderedFor scope body →
      (∀ i, (safeMarker scope).toList <+: body.toList.drop i ↔ i = 0) ∧
        ∀ t, t ≠ scope → NoCollision t scope → substring (safeMarker t) body = false) ∧
    ∀ (client : GitHubClient) (payloads : List JsonValue)
      (rendered : List (String × GitHubComment)) (t : String),
      1 ≤ client.maxPages → ReadAs payloads (rendered.map (·.2)) →
        (∀ item ∈ rendered, RenderedFor item.1 item.2.body) →
          (∀ item ∈ rendered, NoCollision t item.1) →
            (searchIssue client payloads (safeMarker t)).1 = .ok
              ⟨((rendered.take (100 * client.pageLimit)).filter fun item => item.1 = t).map (·.2),
                decide (rendered.length < 100 * client.pageLimit)⟩ := by
  constructor
  · intro scope body hbody
    refine ⟨hbody.prefix_drop_iff, fun t hne hcollide => ?_⟩
    rw [← Bool.not_eq_true, hbody.substring_iff, hcollide.iff]
    exact hne
  · intro client payloads rendered t hpages hread hrendered hcollide
    rw [(searchIssue_searches hpages).exact _ hread, List.length_map, ← List.map_take,
      withMarker_rendered]
    · intro item hitem
      exact hrendered item (List.mem_of_mem_take hitem)
    · intro item hitem
      exact hcollide item (List.mem_of_mem_take hitem)

end Markers

namespace Sample

/-- The scope of another issue of the repository. -/
def otherScope : String := "deployment_context_sync:v1:prod:42:8:payments:github_comment"

@[reducible] def scopesHost : Runtime :=
  host [(commentScope, 0xdb726831023c69a92aaa2afae0acd86302ff21f8b661ddd955786461f3482bb5),
    (otherScope, 0x5e162dffc3f09b3cc8b62e1d34110dda57054bbf41b991be16f63f2ba2aa8715)]

attribute [local instance] scopesHost anyCalendar

/-- What the connector reads of a comment. -/
def plainRead (id : ℤ) (body : String) : GitHubComment where
  identifier := toString id
  body := body
  url := "https://h/1"
  updatedAt := ⟨2024, 5, 6, 7, 8, 10, 0, some 0⟩

lemma normalizeComment_plain {id : ℤ} {body : String} (hbody : body ≠ "") :
    normalizeComment (plainComment id body).payload false = .ok (plainRead id body) := by
  have hurl : providerActionUrl "https://h/1" = .ok "https://h/1" := by decide +kernel
  exact normalizeComment_of hbody (by decide : "https://h/1" ≠ "") hurl (by decide : "now" ≠ "") rfl

lemma scopes_noCollision {s t : String} (hs : s ∈ [commentScope, otherScope])
    (ht : t ∈ [commentScope, otherScope]) : NoCollision s t := by
  have hne : Runtime.sha256 commentScope ≠ Runtime.sha256 otherScope := by decide +kernel
  simp only [List.mem_cons, List.not_mem_nil, or_false] at hs ht
  rcases hs with rfl | rfl
  all_goals rcases ht with rfl | rfl
  · exact fun _ => rfl
  · exact fun heq => absurd heq hne
  · exact fun heq => absurd heq.symm hne
  · exact fun _ => rfl

/-- A comment for the scope. -/
def scopeComment (scope : String) : Except Exn String :=
  renderGithubComment scope (decisionOn []) catalogRecord githubContext jiraItem

lemma scopeComment_ok : ∃ body other, scopeComment commentScope = .ok body ∧
    scopeComment otherScope = .ok other := by
  have hbody : (scopeComment commentScope).toOption.isSome = true := by decide +kernel
  have hother : (scopeComment otherScope).toOption.isSome = true := by decide +kernel
  cases h : scopeComment commentScope with
  | error x =>
    rw [h] at hbody
    cases hbody
  | ok body =>
    cases h' : scopeComment otherScope with
    | error x =>
      rw [h'] at hother
      cases hother
    | ok other => exact ⟨body, other, rfl, rfl⟩

end Sample

attribute [local instance] Sample.scopesHost Sample.anyCalendar in
open Sample in
/-- Two comments on one page, of two scopes. -/
theorem markers_separate_scopes_two : ∃ body other,
    scopeComment commentScope = .ok body ∧ scopeComment otherScope = .ok other ∧
    (∀ i, (safeMarker commentScope).toList <+: body.toList.drop i ↔ i = 0) ∧
    substring (safeMarker otherScope) body = false ∧
    (searchIssue pagedClient [(plainComment 1 body).payload, (plainComment 2 other).payload]
      (safeMarker otherScope)).1 = .ok ⟨[plainRead 2 other], true⟩ := by
  obtain ⟨body, other, hbody, hother⟩ := scopeComment_ok
  have hfirst : RenderedFor commentScope body := ⟨_, _, _, _, hbody⟩
  have hsecond : RenderedFor otherScope other := ⟨_, _, _, _, hother⟩
  have hne : otherScope ≠ commentScope := by decide
  obtain ⟨hmarkers, hsearch⟩ := markers_separate_scopes
  obtain ⟨honce, hothers⟩ := hmarkers commentScope body hfirst
  have hread : ReadAs [(plainComment 1 body).payload, (plainComment 2 other).payload]
      [plainRead 1 body, plainRead 2 other] :=
    .cons (normalizeComment_plain hfirst.ne_empty)
      (.cons (normalizeComment_plain hsecond.ne_empty) .nil)
  have hfound := hsearch pagedClient _
    [(commentScope, plainRead 1 body), (otherScope, plainRead 2 other)] otherScope (by decide) hread
    (by simp [hfirst, hsecond, plainRead])
    (by simp [scopes_noCollision])
  refine ⟨body, other, hbody, hother, honce, hothers _ hne (scopes_noCollision (by simp) (by simp)),
    hfound.trans ?_⟩
  simp [hne.symm, GitHubClient.pageLimit, pagedClient, pagesForItems]

end DeploymentLab
