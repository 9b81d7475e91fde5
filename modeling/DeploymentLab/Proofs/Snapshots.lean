import Mathlib.Data.List.Perm.Basic
import DeploymentLab.Model.Workflow
import DeploymentLab.Model.World
import DeploymentLab.Proofs.CanonicalJson

/-!
# What a decision snapshot identifies

The two snapshots of a decision are digests of canonical texts. A text determines the decision up
to the order of its evidence, since sorting by all that is kept of a reference leaves one order.
-/

namespace DeploymentLab

section Sorting

variable {α : Type} {r : α → α → Prop} [DecidableRel r] [Std.Total r] [IsTrans α r]
  [Std.Antisymm r]

/-- Sorting leaves one order of the same items. -/
lemma insertionSort_eq_iff {xs ys : List α} :
    xs.insertionSort r = ys.insertionSort r ↔ xs.Perm ys := by
  constructor
  · intro h
    have hperm := (List.perm_insertionSort r xs).symm
    rw [h] at hperm
    exact hperm.trans (List.perm_insertionSort r ys)
  · intro hperm
    have hsorted : (xs.insertionSort r).Perm (ys.insertionSort r) :=
      (List.perm_insertionSort r xs).trans (hperm.trans (List.perm_insertionSort r ys).symm)
    exact hsorted.eq_of_pairwise (fun a b _ _ hab hba => Std.Antisymm.antisymm a b hab hba)
      (List.pairwise_insertionSort r xs) (List.pairwise_insertionSort r ys)

end Sorting

lemma hexDigit_eq_iff {a b : ℕ} : hexDigit a = hexDigit b ↔ a % 16 = b % 16 := by
  have hinj : ∀ m < 16, ∀ n < 16, Nat.digitChar m = Nat.digitChar n → m = n := by decide
  constructor
  · exact hinj _ (Nat.mod_lt _ (by omega)) _ (Nat.mod_lt _ (by omega))
  · intro h
    unfold hexDigit
    rw [h]

/-- A number below `16 ^ n` is determined by its `n` hexadecimal digits. -/
lemma eq_of_hexDigits {n a b : ℕ} (ha : a < 16 ^ n) (hb : b < 16 ^ n)
    (h : ∀ k < n, hexDigit (a / 16 ^ k) = hexDigit (b / 16 ^ k)) : a = b := by
  induction n generalizing a b with
  | zero => omega
  | succ n ih =>
    have hlow : a % 16 = b % 16 := by
      have := hexDigit_eq_iff.1 (h 0 (by omega))
      simpa using this
    have hhigh : a / 16 = b / 16 := by
      apply ih
      · rw [pow_succ] at ha
        omega
      · rw [pow_succ] at hb
        omega
      · intro k hk
        rw [Nat.div_div_eq_div_mul, Nat.div_div_eq_div_mul, ← pow_succ']
        exact h (k + 1) (by omega)
    omega

lemma hexdigest_injective : Function.Injective Digest.hexdigest := by
  intro d e h
  have hlist := String.ofList_injective h
  apply BitVec.eq_of_toNat_eq
  apply eq_of_hexDigits (n := 64)
  · have := d.isLt
    omega
  · have := e.isLt
    omega
  · intro k hk
    exact List.map_inj_left.1 hlist k (by simpa using hk)

/-- Objects that list the same keys in the same order are alike member by member. -/
lemma alikeMembers_iff {xs ys : List (String × JsonValue)}
    (hkeys : xs.map (·.1) = ys.map (·.1)) (hnodup : (ys.map (·.1)).Nodup) :
    alikeMembers xs ys ↔ List.Forall₂ AlikeMember xs ys := by
  refine ⟨fun h => ?_, alikeMembers_of_forall₂⟩
  induction xs generalizing ys with
  | nil =>
    rw [List.map_nil, eq_comm, List.map_eq_nil_iff] at hkeys
    rw [hkeys]
    exact .nil
  | cons m xs ih =>
    cases ys with
    | nil => cases hkeys
    | cons n ys =>
      obtain ⟨hkey, hrest⟩ := List.cons.inj hkeys
      rw [List.map_cons, List.nodup_cons] at hnodup
      obtain ⟨y, rest, hperm, hy, hxs⟩ := h
      have hn : n = (m.1, y) := by
        have hmem : (m.1, y) ∈ n :: ys := hperm.mem_iff.2 List.mem_cons_self
        rcases List.mem_cons.1 hmem with heq | hmem
        · exact heq.symm
        · refine absurd (List.mem_map.2 ⟨_, hmem, ?_⟩) hnodup.1
          exact hkey
      subst hn
      exact .cons ⟨rfl, hy⟩ (ih hrest hnodup.2 (alikeMembers_perm_right hperm.cons_inv hxs))

lemma alike_dict_iff {xs ys : List (String × JsonValue)} (hkeys : xs.map (·.1) = ys.map (·.1))
    (hnodup : (ys.map (·.1)).Nodup) :
    (JsonValue.dict xs).Alike (.dict ys) ↔ List.Forall₂ AlikeMember xs ys :=
  alikeMembers_iff hkeys hnodup

/-- What a snapshot keeps of a reference. -/
def SourceReference.evidence (r : SourceReference) : String × String × String × String × Digest :=
  (r.provider, r.resourceType, r.providerResourceIdentifier, r.sourceVersion, r.contentHash)

section Evidence

variable {a b : SourceReference} {as bs : List SourceReference}

lemma sortKey_eq_iff : a.sortKey = b.sortKey ↔ a.evidence = b.evidence := by
  simp only [SourceReference.sortKey, SourceReference.evidence, List.cons.injEq, and_true,
    Prod.mk.injEq, hexdigest_injective.eq_iff]

lemma alike_snapshot_iff : a.snapshot.Alike b.snapshot ↔ a.sortKey = b.sortKey := by
  rw [SourceReference.snapshot, SourceReference.snapshot]
  refine Iff.trans (alike_dict_iff ?_ ?_) ?_
  · rfl
  · simp
  · simp [AlikeMember, JsonValue.Alike, SourceReference.sortKey]

lemma wellFormed_snapshot : a.snapshot.WellFormed :=
  ⟨by simp, trivial, trivial, trivial, trivial, trivial, trivial⟩

/-- The references in the order in which they are hashed keep what was hashed of them. -/
lemma sortKeys_eq_iff :
    (sortReferences as).map (·.sortKey) = (sortReferences bs).map (·.sortKey) ↔
      (as.map (·.evidence)).Perm (bs.map (·.evidence)) := by
  have hmap : ∀ xs, (sortReferences xs).map (·.sortKey) =
      (xs.map (·.sortKey)).insertionSort (· ≤ ·) :=
    fun xs => List.map_insertionSort _ _ _ xs fun _ _ _ _ => Iff.rfl
  rw [hmap, hmap, insertionSort_eq_iff]
  let f : String × String × String × String × Digest → List String :=
    fun e => [e.1, e.2.1, e.2.2.1, e.2.2.2.1, e.2.2.2.2.hexdigest]
  have hf : Function.Injective f := by
    rintro ⟨_, _, _, _, _⟩ ⟨_, _, _, _, _⟩ h
    simpa [f, hexdigest_injective.eq_iff] using h
  have hkeys : ∀ xs : List SourceReference,
      xs.map (·.sortKey) = (xs.map (·.evidence)).map f := by
    intro xs
    rw [List.map_map]
    rfl
  rw [hkeys, hkeys, List.map_perm_map_iff hf]

lemma alike_sources_iff :
    (JsonValue.list ((sortReferences as).map (·.snapshot))).Alike
        (.list ((sortReferences bs).map (·.snapshot))) ↔
      (as.map (·.evidence)).Perm (bs.map (·.evidence)) := by
  rw [JsonValue.Alike, alikeItems_iff, List.forall₂_map_left_iff, List.forall₂_map_right_iff,
    ← sortKeys_eq_iff, ← List.forall₂_eq_eq_eq, List.forall₂_map_left_iff,
    List.forall₂_map_right_iff]
  simp only [alike_snapshot_iff]

lemma wellFormed_sources :
    (JsonValue.list ((sortReferences as).map (·.snapshot))).WellFormed := by
  refine wellFormedItems_iff.2 fun item hitem => ?_
  obtain ⟨reference, -, rfl⟩ := List.mem_map.1 hitem
  exact wellFormed_snapshot

lemma alike_strings_iff {xs ys : List String} :
    (JsonValue.list (xs.map .str)).Alike (.list (ys.map .str)) ↔ xs = ys := by
  rw [JsonValue.Alike, alikeItems_iff, List.forall₂_map_left_iff, List.forall₂_map_right_iff]
  change List.Forall₂ (fun x y : String => x = y) xs ys ↔ _
  rw [List.forall₂_eq_eq_eq]

lemma wellFormed_strings {xs : List String} : (JsonValue.list (xs.map .str)).WellFormed := by
  refine wellFormedItems_iff.2 fun item hitem => ?_
  obtain ⟨x, -, rfl⟩ := List.mem_map.1 hitem
  trivial

lemma DecisionOutcome.value_injective : Function.Injective DecisionOutcome.value := by
  intro a b h
  cases a <;> cases b <;> first | rfl | exact absurd h (by decide)

lemma DecisionReasonCode.value_injective : Function.Injective DecisionReasonCode.value := by
  intro a b h
  cases a <;> cases b <;> first | rfl | exact absurd h (by decide)

lemma alike_optionalString_iff {a b : Option String} :
    (optionalString a).Alike (optionalString b) ↔ a = b := by
  cases a <;> cases b <;> simp [optionalString, JsonValue.Alike]

lemma wellFormed_optionalString {a : Option String} : (optionalString a).WellFormed := by
  cases a <;> trivial

end Evidence

/-! ## The two texts -/

/-- The text of which `_decision_snapshot_hash` is the digest. -/
def decisionSnapshotText (decision : DeploymentContextDecision) : String :=
  canonicalJson (.dict [("workflow_version", .str workflowVersion),
    ("policy_version", .int decision.policyVersion),
    ("outcome", .str decision.outcome.value),
    ("reason_codes", .list (decision.reasonCodes.map fun code => .str code.value)),
    ("sources", .list ((sortReferences decision.sourceReferences).map (·.snapshot)))])

/-- The text of which `slack_decision_snapshot_hash` is the digest. -/
def slackSnapshotText (decision : DeploymentContextDecision)
    (githubAction : ExternalActionReference) (channelId team : String) : String :=
  canonicalJson (.dict [("workflow_version", .str workflowVersion),
    ("decision", .dict [("outcome", .str decision.outcome.value),
      ("reason_codes", .list (((decision.reasonCodes.map (·.value)).insertionSort
        (· ≤ ·)).map .str)),
      ("policy_version", .int decision.policyVersion)]),
    ("sources", .list ((sortReferences decision.sourceReferences).map (·.snapshot))),
    ("authoritative_github", .dict [
      ("provider_resource_identifier", optionalString githubAction.providerResourceIdentifier),
      ("revision", .int githubAction.revision)]),
    ("slack_team", .str team), ("channel", .str channelId)])

/-- The decisions rest on the same evidence: on the same references, each as often, whatever
their order and the artifacts that they were read from. -/
def SameEvidenceOf (d e : DeploymentContextDecision) : Prop :=
  (d.sourceReferences.map (·.evidence)).Perm (e.sourceReferences.map (·.evidence))

/-- What the snapshot of the GitHub action identifies. -/
structure SameDecision (d e : DeploymentContextDecision) : Prop where
  policyVersion : d.policyVersion = e.policyVersion
  outcome : d.outcome = e.outcome
  reasonCodes : d.reasonCodes = e.reasonCodes
  evidence : SameEvidenceOf d e

/-- What the snapshot of the Slack action identifies. -/
structure SameNotification (d e : DeploymentContextDecision) (a b : ExternalActionReference)
    (channel channel' team team' : String) : Prop where
  policyVersion : d.policyVersion = e.policyVersion
  outcome : d.outcome = e.outcome
  reasonCodes : d.reasonCodes.Perm e.reasonCodes
  evidence : SameEvidenceOf d e
  identifier : a.providerResourceIdentifier = b.providerResourceIdentifier
  revision : a.revision = b.revision
  team : team = team'
  channel : channel = channel'

section Texts

variable {d e : DeploymentContextDecision} {a b : ExternalActionReference}
  {channel channel' team team' : String}

lemma reasonCodes_values (d : DeploymentContextDecision) :
    (d.reasonCodes.map fun code => JsonValue.str code.value) =
      (d.reasonCodes.map (·.value)).map .str := by
  rw [List.map_map]
  rfl

lemma decisionSnapshotText_eq_iff :
    decisionSnapshotText d = decisionSnapshotText e ↔ SameDecision d e := by
  unfold decisionSnapshotText
  have hwell : ∀ d : DeploymentContextDecision,
      (JsonValue.dict [("workflow_version", .str workflowVersion),
        ("policy_version", .int d.policyVersion), ("outcome", .str d.outcome.value),
        ("reason_codes", .list (d.reasonCodes.map fun code => .str code.value)),
        ("sources", .list ((sortReferences d.sourceReferences).map (·.snapshot)))]).WellFormed := by
    intro d
    refine ⟨by simp, trivial, trivial, trivial, ?_, wellFormed_sources, trivial⟩
    rw [reasonCodes_values]
    exact wellFormed_strings
  rw [canonicalJson_eq_iff (hwell d) (hwell e)]
  refine Iff.trans (alike_dict_iff ?_ ?_) ?_
  · rfl
  · simp
  simp only [List.forall₂_cons, AlikeMember, true_and, alike_sources_iff, reasonCodes_values,
    alike_strings_iff, List.forall₂_nil_left_iff, and_true]
  constructor
  · rintro ⟨-, hversion, houtcome, hcodes, hevidence⟩
    exact ⟨hversion, DecisionOutcome.value_injective houtcome,
      DecisionReasonCode.value_injective.list_map hcodes, hevidence⟩
  · intro h
    exact ⟨rfl, h.policyVersion, congrArg _ h.outcome, by rw [h.reasonCodes], h.evidence⟩

lemma slackSnapshotText_eq_iff :
    slackSnapshotText d a channel team = slackSnapshotText e b channel' team' ↔
      SameNotification d e a b channel channel' team team' := by
  unfold slackSnapshotText
  have hwell : ∀ (d : DeploymentContextDecision) (a : ExternalActionReference)
      (channel team : String),
      (JsonValue.dict [("workflow_version", .str workflowVersion),
        ("decision", .dict [("outcome", .str d.outcome.value),
          ("reason_codes", .list (((d.reasonCodes.map (·.value)).insertionSort
            (· ≤ ·)).map .str)),
          ("policy_version", .int d.policyVersion)]),
        ("sources", .list ((sortReferences d.sourceReferences).map (·.snapshot))),
        ("authoritative_github", .dict [
          ("provider_resource_identifier", optionalString a.providerResourceIdentifier),
          ("revision", .int a.revision)]),
        ("slack_team", .str team), ("channel", .str channel)]).WellFormed := by
    intro d a channel team
    refine ⟨by simp, trivial, ⟨by simp, trivial, wellFormed_strings, trivial, trivial⟩,
      wellFormed_sources, ⟨by simp, wellFormed_optionalString, trivial, trivial⟩, trivial, trivial,
      trivial⟩
  rw [canonicalJson_eq_iff (hwell d a channel team) (hwell e b channel' team')]
  refine Iff.trans (alike_dict_iff ?_ ?_) ?_
  · rfl
  · simp
  have hdecision : ∀ {xs ys : List String} {m n : ℤ} {s t : String},
      (JsonValue.dict [("outcome", .str s), ("reason_codes", .list (xs.map .str)),
        ("policy_version", .int m)]).Alike (.dict [("outcome", .str t),
        ("reason_codes", .list (ys.map .str)), ("policy_version", .int n)]) ↔
      s = t ∧ xs = ys ∧ m = n := by
    intro xs ys m n s t
    refine Iff.trans (alike_dict_iff ?_ ?_) ?_
    · rfl
    · simp
    simp only [List.forall₂_cons, AlikeMember, true_and, alike_strings_iff,
      List.forall₂_nil_left_iff, and_true]
    exact Iff.rfl
  have hgithub : ∀ {o p : Option String} {m n : ℤ},
      (JsonValue.dict [("provider_resource_identifier", optionalString o),
        ("revision", .int m)]).Alike (.dict [("provider_resource_identifier", optionalString p),
        ("revision", .int n)]) ↔ o = p ∧ m = n := by
    intro o p m n
    refine Iff.trans (alike_dict_iff ?_ ?_) ?_
    · rfl
    · simp
    simp only [List.forall₂_cons, AlikeMember, true_and, alike_optionalString_iff,
      List.forall₂_nil_left_iff, and_true]
    exact Iff.rfl
  simp only [List.forall₂_cons, AlikeMember, true_and, alike_sources_iff, hdecision, hgithub,
    List.forall₂_nil_left_iff, and_true, insertionSort_eq_iff,
    List.map_perm_map_iff DecisionReasonCode.value_injective]
  constructor
  · rintro ⟨-, ⟨houtcome, hcodes, hversion⟩, hevidence, ⟨hidentifier, hrevision⟩, hteam, hchannel⟩
    exact ⟨hversion, DecisionOutcome.value_injective houtcome, hcodes, hevidence, hidentifier,
      hrevision, hteam, hchannel⟩
  · intro h
    exact ⟨rfl, ⟨congrArg _ h.outcome, h.reasonCodes, h.policyVersion⟩, h.evidence,
      ⟨h.identifier, h.revision⟩, h.team, h.channel⟩

/-- The two texts do not collide. -/
def NoCollision [Runtime] (s t : String) : Prop := Runtime.sha256 s = Runtime.sha256 t → s = t

lemma NoCollision.iff [Runtime] {s t : String} (h : NoCollision s t) :
    Runtime.sha256 s = Runtime.sha256 t ↔ s = t :=
  ⟨h, fun heq => by rw [heq]⟩

/-- Where SHA-256 does not collide, the snapshot of a GitHub action identifies the decision with its
evidence, and the snapshot of a Slack action the decision up to the order of its reasons, with its
evidence, the GitHub action, the team and the channel. Decisions that are one for GitHub are one for
Slack. -/
theorem snapshots_identify [Runtime] (d e : DeploymentContextDecision)
    (a b : ExternalActionReference) (channel channel' team team' : String)
    (hgithub : NoCollision (decisionSnapshotText d) (decisionSnapshotText e))
    (hslack : NoCollision (slackSnapshotText d a channel team)
      (slackSnapshotText e b channel' team')) :
    (decisionSnapshotHash d = decisionSnapshotHash e ↔ SameDecision d e) ∧
      (slackDecisionSnapshotHash d a channel (some team) =
          slackDecisionSnapshotHash e b channel' (some team') ↔
        SameNotification d e a b channel channel' team team') ∧
      (decisionSnapshotHash d = decisionSnapshotHash e →
        slackDecisionSnapshotHash d a channel (some team) =
          slackDecisionSnapshotHash e a channel (some team)) := by
  have hhash : ∀ d, decisionSnapshotHash d = Runtime.sha256 (decisionSnapshotText d) :=
    fun _ => rfl
  have hslackHash : ∀ d a channel team, slackDecisionSnapshotHash d a channel (some team) =
      .ok (Runtime.sha256 (slackSnapshotText d a channel team)) := fun _ _ _ _ => rfl
  have hdecision : decisionSnapshotHash d = decisionSnapshotHash e ↔ SameDecision d e := by
    rw [hhash, hhash, hgithub.iff, decisionSnapshotText_eq_iff]
  refine ⟨hdecision, ?_, fun heq => ?_⟩
  · rw [hslackHash, hslackHash, Except.ok.injEq, hslack.iff, slackSnapshotText_eq_iff]
  · obtain ⟨hversion, houtcome, hcodes, hevidence⟩ := hdecision.1 heq
    have hnotification : SameNotification d e a a channel channel team team :=
      ⟨hversion, houtcome, by rw [hcodes], hevidence, rfl, rfl, rfl, rfl⟩
    rw [hslackHash, hslackHash, slackSnapshotText_eq_iff.2 hnotification]

end Texts

namespace Sample

def evidenceOf (artifactId : UUID) (provider : String) : SourceReference where
  artifactId := artifactId
  provider := provider
  resourceType := "work_item"
  providerResourceIdentifier := "OPS-1"
  sourceVersion := "1"
  contentHash := 7

/-- A decision that rests on these references. -/
def decisionOn (references : List SourceReference) : DeploymentContextDecision where
  outcome := .ready
  reasonCodes := [.ready]
  reasons := []
  sourceReferences := references
  policyVersion := 3
  generatedAt := ⟨2024, 5, 6, 7, 8, 9, 0, some 0⟩

def confirmedComment : ExternalActionReference where
  actionId := 1
  provider := .github
  operation := .upsertDeploymentContextComment
  revision := 1
  providerResourceIdentifier := some "9001"

/-- A decision on one version of a work item. -/
def decisionAt (version : String) : DeploymentContextDecision :=
  decisionOn [{ evidenceOf 1 "jira" with sourceVersion := version }]

def notificationAt (version : String) : String :=
  slackSnapshotText (decisionAt version) confirmedComment "C12345678" "T1"

@[reducible] def snapshotHost : Runtime :=
  host [
    (decisionSnapshotText (decisionAt "1"),
      0xb76e5e205094594912c19d5000cf353825325978d410d79c141c6abe0f14086e),
    (decisionSnapshotText (decisionAt "2"),
      0x501862cafbbbba3a74d683684e6474060601aa5bdd92e52c9a4cbab134f0419e),
    (notificationAt "1", 0xaf734bf32b8432e35999e73a9b4f471cbc35c54449b5318809d37e37b16295c0),
    (notificationAt "2", 0xacde376be8309d813fac5571f69e4f02e417b51c9cd81ae87d37421d18940397)]

end Sample

attribute [local instance] Sample.snapshotHost in
open Sample in
set_option maxRecDepth 100000 in
theorem snapshots_identify_versions :
    decisionSnapshotHash (decisionAt "1") ≠ decisionSnapshotHash (decisionAt "2") ∧
    slackDecisionSnapshotHash (decisionAt "1") confirmedComment "C12345678" (some "T1") ≠
      slackDecisionSnapshotHash (decisionAt "2") confirmedComment "C12345678" (some "T1") := by
  have hgithub : Runtime.sha256 (decisionSnapshotText (decisionAt "1")) ≠
      Runtime.sha256 (decisionSnapshotText (decisionAt "2")) := by
    decide +kernel
  have hslack : Runtime.sha256 (notificationAt "1") ≠ Runtime.sha256 (notificationAt "2") := by
    decide +kernel
  have hevidence : ¬SameEvidenceOf (decisionAt "1") (decisionAt "2") := by
    intro hsame
    exact absurd (List.singleton_perm_singleton.1 hsame) (by decide)
  obtain ⟨hdecision, hnotification, -⟩ := snapshots_identify (decisionAt "1") (decisionAt "2")
    confirmedComment confirmedComment "C12345678" "C12345678" "T1" "T1"
    (fun heq => absurd heq hgithub) (fun heq => absurd heq hslack)
  exact ⟨fun heq => hevidence (hdecision.1 heq).evidence,
    fun heq => hevidence (hnotification.1 heq).evidence⟩

end DeploymentLab
