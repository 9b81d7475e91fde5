import DeploymentLab.Library.Reading
import DeploymentLab.Model.Config
import DeploymentLab.Model.Workflow
import DeploymentLab.Model.World

/-!
# Scope keys

The ledger finds the row of an action by the text of its scope key. The fields of a key for GitHub
can be read back from it. In a key for Slack the identifier of the team is free text between
colons: the key can be read in two ways exactly when one team's identifier goes on, after
another's, like the fields that follow it.
-/

namespace DeploymentLab

open Reading DeploymentContextSyncHandler

/-- What the keys of an action are made of besides the settings. -/
structure BusinessAction where
  taskInput : DeploymentContextSyncInput
  github : GitHubRepositoryContext
  service : ServiceCatalogRecord
  githubActionRevision : ℤ
  github_valid : github.Valid
  service_valid : service.Valid
  -- `execute` turns away an issue other than the requested one
  issueNumber_eq : github.issueNumber = taskInput.githubIssueNumber

/-- The two actions concern the same issue and service. -/
def BusinessAction.SameTarget (a b : BusinessAction) : Prop :=
  a.github.repositoryId = b.github.repositoryId ∧
    a.taskInput.githubIssueNumber = b.taskInput.githubIssueNumber ∧
    a.service.canonicalServiceId = b.service.canonicalServiceId

/-- After `team`, the identifier `team'` goes on with a repository, or with a repository and an
issue, as if these were fields of the key. -/
def RunsInto (team team' : String) : Prop :=
  ∃ repositoryId : ℤ, 1 ≤ repositoryId ∧
    (team' = team ++ ":" ++ toString repositoryId ∨
      ∃ issueNumber : ℤ, (1 ≤ issueNumber ∧ issueNumber ≤ 2147483647) ∧
        (team' = team ++ ":" ++ toString repositoryId ++ ":" ++ toString issueNumber ∨
          ∃ rest, team' = team ++ ":" ++ toString repositoryId ++ ":" ++ toString issueNumber ++
            ":" ++ rest))

/-- Neither of the configured teams runs into the other. -/
def Apart (team team' : Option String) : Prop :=
  ∀ t ∈ team, ∀ t' ∈ team', ¬RunsInto t t' ∧ ¬RunsInto t' t

lemma colon_notMem_scope {s : String} (h : deploymentScopePattern s = true) :
    ':' ∉ s.toList := by
  unfold deploymentScopePattern at h
  intro hmem
  cases hs : s.toList with
  | nil => simp [hs] at hmem
  | cons c cs =>
    simp only [hs, Bool.and_eq_true, List.all_eq_true] at h
    rw [hs] at hmem
    rcases List.mem_cons.1 hmem with rfl | hmem
    · exact absurd h.1.1 (by decide)
    · exact absurd (h.2 ':' hmem) (by decide)

lemma colon_notMem_channel {s : String} (h : slackChannelPattern s = true) :
    ':' ∉ s.toList := by
  unfold slackChannelPattern at h
  intro hmem
  cases hs : s.toList with
  | nil => simp [hs] at hmem
  | cons c cs =>
    simp only [hs, Bool.and_eq_true, List.all_eq_true] at h
    rw [hs] at hmem
    rcases List.mem_cons.1 hmem with rfl | hmem
    · exact absurd h.1.1 (by decide)
    · exact absurd (h.2 ':' hmem) (by decide)

lemma colon_notMem_numeral {n : ℤ} : ':' ∉ (toString n).toList := by
  intro hmem
  exact absurd (isNumeral_of_mem_intToString hmem) (by decide)

/-- The repository, the issue and the service as they stand in a key. -/
def targetText (repositoryId issueNumber : ℤ) (canonicalServiceId : String) : List Char :=
  (toString repositoryId).toList ++
    ':' :: ((toString issueNumber).toList ++ ':' :: canonicalServiceId.toList)

lemma targetText_inj {r i r' i' : ℤ} {s s' : String}
    (h : targetText r i s = targetText r' i' s') : r = r' ∧ i = i' ∧ s = s' := by
  obtain ⟨hrepository, hrest⟩ := firstField_inj colon_notMem_numeral colon_notMem_numeral h
  obtain ⟨hissue, hservice⟩ := firstField_inj colon_notMem_numeral colon_notMem_numeral hrest
  exact ⟨intToString_injective (String.toList_inj.1 hrepository),
    intToString_injective (String.toList_inj.1 hissue), String.toList_inj.1 hservice⟩

/-- A target that holds a whole target after its first field: the text in front ends at the
repository, at the issue, or in the service. -/
lemma targetText_split {r i : ℤ} {s : String} {w v : List Char}
    (h : targetText r i s = w ++ ':' :: v) :
    w = (toString r).toList ∨
      w = (toString r).toList ++ ':' :: (toString i).toList ∨
      ∃ z, w = (toString r).toList ++ ':' :: ((toString i).toList ++ ':' :: z) := by
  rcases freeField_cases h with ⟨hw, -⟩ | ⟨z, hw, hz⟩ | ⟨z, hz, -⟩
  · exact .inl hw.symm
  · rcases freeField_cases hz with ⟨hi, -⟩ | ⟨y, hy, -⟩ | ⟨y, hy, -⟩
    · exact .inr (.inl (by rw [hw, hi]))
    · exact .inr (.inr ⟨y, by rw [hw, hy]⟩)
    · exact absurd (hy ▸ by simp) (colon_notMem_numeral (n := i))
  · exact absurd (hz ▸ by simp) (colon_notMem_numeral (n := r))

/-- Text that goes on after a team like a target makes its identifier run into another. -/
lemma runsInto_of_split {r i : ℤ} {s t t' : String} {w v : List Char} (hr : 1 ≤ r)
    (hi : 1 ≤ i ∧ i ≤ 2147483647) (ht : t'.toList = t.toList ++ ':' :: w)
    (h : targetText r i s = w ++ ':' :: v) : RunsInto t t' := by
  have hcolon : (":" : String).toList = [':'] := rfl
  refine ⟨r, hr, ?_⟩
  rcases targetText_split h with hw | hw | ⟨z, hw⟩
  · refine .inl (String.toList_inj.1 ?_)
    simp [ht, hw, hcolon]
  · refine .inr ⟨i, hi, .inl (String.toList_inj.1 ?_)⟩
    simp [ht, hw, hcolon]
  · refine .inr ⟨i, hi, .inr ⟨String.ofList z, String.toList_inj.1 ?_⟩⟩
    simp [ht, hw, hcolon]

/-- Teams that keep apart can be told from the text of a team and its target. -/
lemma team_inj {r i r' i' : ℤ} {s s' t t' : String} (hr : 1 ≤ r) (hr' : 1 ≤ r')
    (hi : 1 ≤ i ∧ i ≤ 2147483647) (hi' : 1 ≤ i' ∧ i' ≤ 2147483647)
    (hapart : ¬RunsInto t t' ∧ ¬RunsInto t' t)
    (h : t.toList ++ ':' :: targetText r i s = t'.toList ++ ':' :: targetText r' i' s') :
    t = t' ∧ r = r' ∧ i = i' ∧ s = s' := by
  rcases freeField_cases h with ⟨ht, htarget⟩ | ⟨w, ht, hw⟩ | ⟨w, ht, hw⟩
  · exact ⟨String.toList_inj.1 ht, targetText_inj htarget⟩
  · exact absurd (runsInto_of_split hr hi ht hw) hapart.1
  · exact absurd (runsInto_of_split hr' hi' ht hw) hapart.2

section Keys

variable [Runtime]

namespace BusinessAction

variable (settings : AcceptedSettings) (action : BusinessAction)

def githubKey : Option String :=
  (actionScopeKey settings.toSettings action.taskInput action.github action.service).toOption

/-- The key of the notification, where one is asked for. -/
def slackKey : Option String :=
  action.taskInput.slackChannelId.bind fun channelId =>
    (slackActionScopeKey settings.deploymentScopeId settings.slackExpectedTeamId
      action.github.repositoryId action.github.issueNumber action.service.canonicalServiceId
      action.githubActionRevision channelId).toOption

/-- The target of the action as it stands in a key. -/
abbrev target : List Char :=
  targetText action.github.repositoryId action.taskInput.githubIssueNumber
    action.service.canonicalServiceId

end BusinessAction

/-- Under the settings `c` and `c'`, equal keys belong to equal actions. -/
structure Unambiguous (c c' : AcceptedSettings) : Prop where
  github : ∀ (a b : BusinessAction) key, a.githubKey c = some key → b.githubKey c' = some key →
    c.deploymentScopeId = c'.deploymentScopeId ∧ a.SameTarget b
  slack : ∀ (a b : BusinessAction) key, a.slackKey c = some key → b.slackKey c' = some key →
    c.deploymentScopeId = c'.deploymentScopeId ∧
      c.slackExpectedTeamId = c'.slackExpectedTeamId ∧ a.SameTarget b ∧
      a.githubActionRevision = b.githubActionRevision ∧
      a.taskInput.slackChannelId = b.taskInput.slackChannelId
  disjoint : ∀ (a b : BusinessAction) key, a.githubKey c = some key → b.slackKey c' ≠ some key

variable {c c' : AcceptedSettings} {a b : BusinessAction} {key : String}

lemma githubKey_text (h : a.githubKey c = some key) : ∃ scope,
    c.deploymentScopeId = some scope ∧ key.toList = workflowVersion.toList ++
      ':' :: (scope.toList ++ ':' :: (a.target ++ ':' :: "github_comment".toList)) := by
  unfold BusinessAction.githubKey actionScopeKey at h
  cases hscope : c.deploymentScopeId with
  | none => simp [hscope, Except.toOption] at h
  | some scope =>
    simp only [hscope, Except.toOption, Option.some.injEq] at h
    refine ⟨scope, rfl, ?_⟩
    rw [← h]
    simp [targetText]

/-- A key for Slack, up to the fields that follow the target. -/
def slackHead (scope team : String) (target : List Char) : List Char :=
  workflowVersion.toList ++
    ':' :: (scope.toList ++ ':' :: ("slack_team".toList ++ ':' :: (team.toList ++ ':' :: target)))

def slackText (head : List Char) (revision : ℤ) (channelId : String) : List Char :=
  ((((head ++ ':' :: "github_revision".toList) ++ ':' :: (toString revision).toList) ++
    ':' :: "slack_channel".toList) ++ ':' :: channelId.toList) ++ ':' :: "notification".toList

lemma slackKey_eq {scope team channelId : String} (hscope : c.deploymentScopeId = some scope)
    (hteam : c.slackExpectedTeamId = some team)
    (hchannel : a.taskInput.slackChannelId = some channelId) :
    a.slackKey c = some (String.ofList
      (slackText (slackHead scope team a.target) a.githubActionRevision channelId)) := by
  unfold BusinessAction.slackKey slackActionScopeKey
  rw [hchannel, hscope, hteam, Option.bind_some]
  refine congrArg some (String.toList_inj.1 ?_)
  simp [slackText, slackHead, targetText, a.issueNumber_eq]

lemma slackKey_cases (h : a.slackKey c = some key) : ∃ scope team channelId,
    c.deploymentScopeId = some scope ∧ c.slackExpectedTeamId = some team ∧
      a.taskInput.slackChannelId = some channelId ∧ key = String.ofList
        (slackText (slackHead scope team a.target) a.githubActionRevision channelId) := by
  cases hchannel : a.taskInput.slackChannelId with
  | none => simp [BusinessAction.slackKey, hchannel] at h
  | some channelId =>
    have hthrow : ∀ x : Exn, (throw x : Except Exn String).toOption = none := fun _ => rfl
    cases hscope : c.deploymentScopeId with
    | none =>
      simp [BusinessAction.slackKey, slackActionScopeKey, hchannel, hscope, hthrow] at h
    | some scope =>
      cases hteam : c.slackExpectedTeamId with
      | none =>
        simp [BusinessAction.slackKey, slackActionScopeKey, hchannel, hscope, hteam, hthrow] at h
      | some team =>
        rw [slackKey_eq hscope hteam hchannel] at h
        exact ⟨scope, team, channelId, rfl, rfl, rfl, (Option.some.inj h).symm⟩

omit [Runtime] in
/-- The fields after the target are read from the end of the key. -/
lemma slackText_inj {head head' : List Char} {revision revision' : ℤ} {channel channel' : String}
    (hchannel : ':' ∉ channel.toList) (hchannel' : ':' ∉ channel'.toList)
    (h : slackText head revision channel = slackText head' revision' channel') :
    head = head' ∧ revision = revision' ∧ channel = channel' := by
  obtain ⟨h, -⟩ := lastField_inj (by decide) (by decide) h
  obtain ⟨h, hchannels⟩ := lastField_inj hchannel hchannel' h
  obtain ⟨h, -⟩ := lastField_inj (by decide) (by decide) h
  obtain ⟨h, hrevision⟩ := lastField_inj colon_notMem_numeral colon_notMem_numeral h
  obtain ⟨h, -⟩ := lastField_inj (by decide) (by decide) h
  exact ⟨h, intToString_injective (String.toList_inj.1 hrevision), String.toList_inj.1 hchannels⟩

omit [Runtime] in
/-- The scope is read from the front of the key, and the team and its target stay together. -/
lemma slackHead_inj {scope scope' team team' : String} {target target' : List Char}
    (hscope : ':' ∉ scope.toList) (hscope' : ':' ∉ scope'.toList)
    (h : slackHead scope team target = slackHead scope' team' target') :
    scope = scope' ∧ team.toList ++ ':' :: target = team'.toList ++ ':' :: target' := by
  have hversion := (List.cons.inj (List.append_cancel_left h)).2
  obtain ⟨hscopes, hrest⟩ := firstField_inj hscope hscope' hversion
  obtain ⟨-, hteams⟩ := firstField_inj (by decide) (by decide) hrest
  exact ⟨String.toList_inj.1 hscopes, hteams⟩

/-- The scope of accepted settings has no colon. -/
lemma scope_pattern {scope : String} (h : c.deploymentScopeId = some scope) :
    ':' ∉ scope.toList := by
  have hpattern := c.deploymentScopeId_pattern
  rw [h] at hpattern
  exact colon_notMem_scope hpattern

omit [Runtime] in
lemma channel_pattern {channelId : String} (h : a.taskInput.slackChannelId = some channelId) :
    ':' ∉ channelId.toList := by
  have hpattern := a.taskInput.slackChannelId_pattern
  rw [h] at hpattern
  exact colon_notMem_channel hpattern

lemma githubKey_inj (ha : a.githubKey c = some key) (hb : b.githubKey c' = some key) :
    c.deploymentScopeId = c'.deploymentScopeId ∧ a.SameTarget b := by
  obtain ⟨scope, hscope, htext⟩ := githubKey_text ha
  obtain ⟨scope', hscope', htext'⟩ := githubKey_text hb
  have hversion := (List.cons.inj (List.append_cancel_left (htext.symm.trans htext'))).2
  obtain ⟨hscopes, hrest⟩ := firstField_inj (scope_pattern hscope) (scope_pattern hscope') hversion
  obtain ⟨htarget, -⟩ := lastField_inj (by decide) (by decide) hrest
  refine ⟨?_, targetText_inj htarget⟩
  rw [hscope, hscope', String.toList_inj.1 hscopes]

/-- What stands after the scope is a numeral in a key for GitHub and a word in one for Slack. -/
lemma githubKey_ne_slackKey (ha : a.githubKey c = some key) : b.slackKey c' ≠ some key := by
  intro hb
  obtain ⟨scope, hscope, htext⟩ := githubKey_text ha
  obtain ⟨scope', team, channelId, hscope', -, -, rfl⟩ := slackKey_cases hb
  rw [String.toList_ofList, slackText, slackHead] at htext
  simp only [List.append_assoc, List.cons_append] at htext
  have hversion := (List.cons.inj (List.append_cancel_left htext.symm)).2
  obtain ⟨-, hrest⟩ := firstField_inj (scope_pattern hscope) (scope_pattern hscope') hversion
  simp only [targetText, List.append_assoc, List.cons_append] at hrest
  obtain ⟨hword, -⟩ := firstField_inj colon_notMem_numeral (by decide) hrest
  have hletter : 's' ∈ (toString a.github.repositoryId).toList := by
    rw [hword]
    decide
  exact absurd (isNumeral_of_mem_intToString hletter) (by decide)

lemma slackKey_inj (ha : a.slackKey c = some key) (hb : b.slackKey c' = some key) :
    (∃ scope, c.deploymentScopeId = some scope ∧ c'.deploymentScopeId = some scope) ∧
      a.githubActionRevision = b.githubActionRevision ∧
      a.taskInput.slackChannelId = b.taskInput.slackChannelId ∧
      ∃ team team', c.slackExpectedTeamId = some team ∧ c'.slackExpectedTeamId = some team' ∧
        team.toList ++ ':' :: a.target = team'.toList ++ ':' :: b.target := by
  obtain ⟨scope, team, channelId, hscope, hteam, hchannel, rfl⟩ := slackKey_cases ha
  obtain ⟨scope', team', channelId', hscope', hteam', hchannel', htext⟩ := slackKey_cases hb
  obtain ⟨hhead, hrevision, rfl⟩ := slackText_inj (channel_pattern hchannel)
    (channel_pattern hchannel') (String.ofList_injective htext)
  obtain ⟨rfl, hteams⟩ := slackHead_inj (scope_pattern hscope) (scope_pattern hscope') hhead
  exact ⟨⟨scope, hscope, hscope'⟩, hrevision, hchannel.trans hchannel'.symm, team, team', hteam,
    hteam', hteams⟩

/-! ## Two readings of one key -/

omit [Runtime] in
/-- A target for which there is an action that asks for a notification. -/
lemma exists_action {r i : ℤ} (hr : 1 ≤ r) (hi : 1 ≤ i ∧ i ≤ 2147483647) (s : String) :
    ∃ a : BusinessAction, a.target = targetText r i s ∧ a.githubActionRevision = 1 ∧
      a.taskInput.slackChannelId = some "C00000000" := by
  refine ⟨{
    taskInput := {
      jiraIssueKey := "OPS-1"
      githubRepository := "acme/payments"
      githubIssueNumber := i
      serviceId := "payments"
      publishSlackNotification := true
      slackChannelId := some "C00000000"
      jiraIssueKey_pattern := by decide
      githubRepository_length := by decide
      githubRepository_pattern := by decide
      githubIssueNumber_range := hi
      serviceId_visible := by decide
      slackChannelId_pattern := by decide
      channel_required := fun _ => rfl }
    github := {
      fullName := "acme/payments"
      repositoryId := r
      «visibility» := "private"
      archived := false
      defaultBranch := "main"
      defaultBranchHeadSha := "abcdef1"
      issueNumber := i
      issueState := "open"
      issueTitle := "Deploy"
      isPullRequest := false
      sourceUrl := "https://github.example/acme/payments/issues/7"
      sourceVersion := "abcdef1:2024-05-06" }
    service := {
      serviceId := "payments"
      canonicalServiceId := s
      aliases := []
      serviceOwner := some "team"
      criticality := "high"
      approvedRepositories := ["acme/payments"]
      dataClassification := .internal
      deploymentPolicyVersion := 3
      automaticPublicationAllowed := true
      requiredReviewer := none
      allowAutomaticUpdates := false
      sourceVersion := "v1"
      sourceUrl := "https://catalog.example/payments" }
    githubActionRevision := 1
    github_valid := ⟨hr, (by decide : headShaPattern "abcdef1" = true), hi.1,
      (by decide : "Deploy".length ≤ 500)⟩
    service_valid := ⟨(by decide : (1 : ℤ) ≤ 3)⟩
    issueNumber_eq := rfl }, rfl, rfl, rfl⟩

omit [Runtime] in
lemma RunsInto.ne {t t' : String} (h : RunsInto t t') : t ≠ t' := by
  have hcolon : (":" : String).length = 1 := rfl
  rintro rfl
  obtain ⟨r, -, h | ⟨i, -, h | ⟨rest, h⟩⟩⟩ := h
  all_goals
    have hlength := congrArg String.length h
    simp only [String.length_append, hcolon] at hlength
    omega

omit [Runtime] in
/-- The text of a team that runs into another, with two targets that differ accordingly. -/
lemma RunsInto.readings {t t' : String} (h : RunsInto t t') : ∃ r i s, 1 ≤ r ∧
    (1 ≤ i ∧ i ≤ 2147483647) ∧ t.toList ++ ':' :: targetText r i s =
      t'.toList ++ ':' :: targetText 1 1 "payments" := by
  have hcolon : (":" : String).toList = [':'] := rfl
  obtain ⟨r, hr, rfl | ⟨i, hi, rfl | ⟨rest, rfl⟩⟩⟩ := h
  · refine ⟨r, 1, "1:payments", hr, by decide, ?_⟩
    simp only [String.toList_append, targetText, hcolon, List.append_assoc, List.cons_append,
      List.nil_append]
    rfl
  · refine ⟨r, i, "1:1:payments", hr, hi, ?_⟩
    simp only [String.toList_append, targetText, hcolon, List.append_assoc, List.cons_append,
      List.nil_append]
    rfl
  · refine ⟨r, i, rest ++ ":1:1:payments", hr, hi, ?_⟩
    simp only [String.toList_append, targetText, hcolon, List.append_assoc, List.cons_append,
      List.nil_append]
    rfl

/-- A team that runs into another has one key for two actions. -/
lemma RunsInto.collide {scope t t' : String} (h : RunsInto t t')
    (hscope : c.deploymentScopeId = some scope) (hscope' : c'.deploymentScopeId = some scope)
    (hteam : c.slackExpectedTeamId = some t) (hteam' : c'.slackExpectedTeamId = some t') :
    ∃ (a b : BusinessAction) (key : String), a.slackKey c = some key ∧
      b.slackKey c' = some key := by
  obtain ⟨r, i, s, hr, hi, htext⟩ := h.readings
  obtain ⟨a, ha, hrevision, hchannel⟩ := exists_action hr hi s
  obtain ⟨b, hb, hrevision', hchannel'⟩ :=
    exists_action (r := 1) (i := 1) (by decide) (by decide) "payments"
  have hhead : slackHead scope t a.target = slackHead scope t' b.target := by
    rw [slackHead, slackHead, ha, hb, htext]
  refine ⟨a, b, _, slackKey_eq hscope hteam hchannel, ?_⟩
  rw [slackKey_eq hscope' hteam' hchannel', hhead, hrevision, hrevision']

/-- Settings tell actions apart by their keys exactly when they are of different scopes or their
teams keep apart. -/
theorem keys_unambiguous_iff (c c' : AcceptedSettings) : Unambiguous c c' ↔
    ∀ scope, c.deploymentScopeId = some scope → c'.deploymentScopeId = some scope →
      Apart c.slackExpectedTeamId c'.slackExpectedTeamId := by
  constructor
  · intro hkeys scope hscope hscope' t ht t' ht'
    constructor
    · intro hruns
      obtain ⟨a, b, key, ha, hb⟩ := hruns.collide hscope hscope' ht ht'
      have hteams := (hkeys.slack a b key ha hb).2.1
      rw [ht, ht'] at hteams
      exact hruns.ne (Option.some.inj hteams)
    · intro hruns
      obtain ⟨b, a, key, hb, ha⟩ := hruns.collide hscope' hscope ht' ht
      have hteams := (hkeys.slack a b key ha hb).2.1
      rw [ht, ht'] at hteams
      exact hruns.ne (Option.some.inj hteams).symm
  · intro hapart
    refine ⟨fun a b key ha hb => githubKey_inj ha hb, fun a b key ha hb => ?_,
      fun a b key ha => githubKey_ne_slackKey ha⟩
    obtain ⟨⟨scope, hscope, hscope'⟩, hrevision, hchannel, team, team', hteam, hteam', htext⟩ :=
      slackKey_inj ha hb
    obtain ⟨rfl, htarget⟩ := team_inj a.github_valid.repositoryId b.github_valid.repositoryId
      a.taskInput.githubIssueNumber_range b.taskInput.githubIssueNumber_range
      (hapart scope hscope hscope' team hteam team' hteam') htext
    exact ⟨hscope.trans hscope'.symm, hteam.trans hteam'.symm, htarget, hrevision, hchannel⟩

/-- Under one and the same settings the keys are unambiguous. -/
theorem keys_unambiguous_self (c : AcceptedSettings) : Unambiguous c c := by
  refine ⟨fun a b key ha hb => githubKey_inj ha hb, fun a b key ha hb => ?_,
    fun a b key ha => githubKey_ne_slackKey ha⟩
  obtain ⟨-, hrevision, hchannel, team, team', hteam, hteam', htext⟩ := slackKey_inj ha hb
  obtain rfl : team = team' := Option.some.inj (hteam.symm.trans hteam')
  have htarget := (List.cons.inj (List.append_cancel_left htext)).2
  exact ⟨rfl, rfl, targetText_inj htarget, hrevision, hchannel⟩

end Keys

section Sample

/-- A host that no digest is asked of. -/
@[reducible] def Sample.plainHost : Runtime := Sample.host []

attribute [local instance] Sample.plainHost

lemma Sample.baseUrl_accepted (c : Configuration) (henvironment : c.environment = .development) :
    c.validateIntegrationBaseUrl "http://h" = .ok () := by
  have hsplit : urlsplit "http://h" = .ok ⟨"http", "h", "", "", ""⟩ := by decide +kernel
  have hhostname : SplitResult.hostname ⟨"http", "h", "", "", ""⟩ ≠ none := by decide +kernel
  have hcredentials : SplitResult.hasCredentials ⟨"http", "h", "", "", ""⟩ = false := by
    decide +kernel
  unfold Configuration.validateIntegrationBaseUrl
  rw [hsplit]
  simp [bind, Except.bind, pure, Except.pure, hhostname, hcredentials, henvironment]

/-- Settings with both integrations enabled, for any team that has an identifier. -/
lemma Sample.exists_settings {team : String} (hteam : identifierLength team = true)
    (hblank : blank (some team) = false) : ∃ c : AcceptedSettings,
    (c.enableSlackNotification = true ∧ c.deploymentScopeId = some "prod" ∧
      c.slackExpectedTeamId = some team) ∧
      c.enableDeploymentContextSync = true ∧ c.githubBaseUrl = "http://h" := by
  refine ⟨{
    deploymentScopeId := some "prod"
    deploymentAllowedServiceIds := ["payments"]
    deploymentAllowedGithubRepositories := ["acme/payments"]
    deploymentAllowedJiraProjects := ["OPS"]
    deploymentAllowedSlackChannels := ["C00000000"]
    enableSlackNotification := true
    enableDeploymentContextSync := true
    slackExpectedTeamId := some team
    slackExpectedUserId := some "U1"
    githubExpectedLogin := some "bot"
    serviceCatalogBaseUrl := "http://h"
    jiraBaseUrl := "http://h"
    githubBaseUrl := "http://h"
    slackBaseUrl := "http://h"
    slackBotCredential := { inline := some "xoxb" }
    deploymentScopeId_pattern := by decide
    deploymentMinimumPolicyVersion_pos := by decide
    slackExpectedTeamId_length := hteam
    slackExpectedUserId_length := by decide
    deploymentAllowedSlackChannels_pattern := by decide
    slackMaxTextChars_range := by decide
    slackWriteTimeout_le := by decide
    integrationSettlementDelay_range := by decide
    accepted := ?_ }, ⟨rfl, rfl, rfl⟩, rfl, rfl⟩
  have hlogin : blank (some "bot") = false := by decide
  have huser : blank (some "U1") = false := by decide
  have hurl (c : Configuration) (h : c.environment = .development) := baseUrl_accepted c h
  simp [Configuration.validateWorkerSafety, Configuration.validateDeploymentContextSync,
    Configuration.validateSlackNotification, Configuration.integrationEnvironment,
    Configuration.validateCredential, hblank, hlogin, huser, hurl, bind, Except.bind, pure,
    Except.pure]

/-- A team whose identifier is another's with a repository and an issue shares a key with it. -/
theorem slackKey_shared : ∃ (c c' : AcceptedSettings) (a b : BusinessAction),
    c.enableSlackNotification = true ∧ c.slackExpectedTeamId = some "T0123" ∧
      c'.enableSlackNotification = true ∧ c'.slackExpectedTeamId = some "T0123:42:7" ∧
      a.slackKey c = some ("deployment_context_sync:v1:prod:slack_team:T0123:42:7:1:7:payments" ++
        ":github_revision:1:slack_channel:C00000000:notification") ∧
      b.slackKey c' = a.slackKey c ∧ ¬Unambiguous c c' := by
  obtain ⟨c, ⟨henabled, hscope, hteam⟩, -⟩ :=
    Sample.exists_settings (by decide : identifierLength "T0123" = true) (by decide)
  obtain ⟨c', ⟨henabled', hscope', hteam'⟩, -⟩ :=
    Sample.exists_settings (by decide : identifierLength "T0123:42:7" = true) (by decide)
  obtain ⟨a, ha, hrevision, hchannel⟩ :=
    exists_action (r := 42) (i := 7) (by decide) (by decide) "1:7:payments"
  obtain ⟨b, hb, hrevision', hchannel'⟩ :=
    exists_action (r := 1) (i := 7) (by decide) (by decide) "payments"
  have hkeya := slackKey_eq hscope hteam hchannel
  have hkeyb := slackKey_eq hscope' hteam' hchannel'
  rw [ha, hrevision] at hkeya
  rw [hb, hrevision'] at hkeyb
  have hkey : b.slackKey c' = a.slackKey c := by
    rw [hkeya, hkeyb]
    rfl
  refine ⟨c, c', a, b, henabled, hteam, henabled', hteam', ?_, hkey, ?_⟩
  · rw [hkeya]
    decide +kernel
  · intro hkeys
    have hteams := (hkeys.slack a b _ hkeya (hkey.trans hkeya)).2.1
    rw [hteam, hteam'] at hteams
    exact absurd hteams (by decide)

end Sample

end DeploymentLab
