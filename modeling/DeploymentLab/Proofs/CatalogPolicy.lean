import Mathlib.Data.List.Dedup
import DeploymentLab.Model.Catalog
import DeploymentLab.Model.Workflow
import DeploymentLab.Model.World

/-!
# What the catalog has to say for a decision to go ahead

The checks are made of one record, and the signatures carry them over to every record that stands
for the service. The order of the records matters for the spelling of the service alone.
-/

namespace DeploymentLab

open DeploymentContextSyncHandler

section Policy

variable [Runtime]

namespace ServiceCatalogRecord

variable {record item : ServiceCatalogRecord} {records : List ServiceCatalogRecord}

/-- The record has the requested service among its names, in whatever case. -/
def Names (taskInput : DeploymentContextSyncInput) (record : ServiceCatalogRecord) : Prop :=
  ∃ name ∈ record.serviceId :: record.canonicalServiceId :: record.aliases,
    Runtime.casefold name = Runtime.casefold taskInput.serviceId

/-- What records for one service have to agree on, field by field. -/
structure SameAuthority (record item : ServiceCatalogRecord) : Prop where
  canonicalServiceId :
    Runtime.casefold record.canonicalServiceId = Runtime.casefold item.canonicalServiceId
  deploymentPolicyVersion : record.deploymentPolicyVersion = item.deploymentPolicyVersion
  approvedRepositories : record.approvedRepositories = item.approvedRepositories
  serviceOwner : record.serviceOwner = item.serviceOwner
  dataClassification : record.dataClassification = item.dataClassification
  automaticPublicationAllowed :
    record.automaticPublicationAllowed = item.automaticPublicationAllowed
  requiredReviewer : record.requiredReviewer = item.requiredReviewer
  allowAutomaticUpdates : record.allowAutomaticUpdates = item.allowAutomaticUpdates

/-- The record lets the workflow publish to the requested repository by itself. -/
structure Approves (taskInput : DeploymentContextSyncInput) (settings : Settings)
    (record : ServiceCatalogRecord) : Prop where
  owner : record.serviceOwner.isSome = true
  unrestricted : record.dataClassification = .«public» ∨ record.dataClassification = .internal
  current : settings.deploymentMinimumPolicyVersion ≤ record.deploymentPolicyVersion
  repository : Runtime.casefold taskInput.githubRepository ∈ record.approvedRepositories
  publication : record.automaticPublicationAllowed = true
  reviewer : record.requiredReviewer = none

lemma resolves_iff {taskInput : DeploymentContextSyncInput} :
    record.resolves taskInput.serviceId = true ↔ record.Names taskInput := by
  rw [resolves, allowedFolded, List.contains_iff_mem, List.mem_map]
  rfl

lemma signature_eq_iff : record.signature = item.signature ↔ record.SameAuthority item := by
  constructor
  · intro h
    simp only [signature, Prod.mk.injEq] at h
    obtain ⟨hid, hversion, hrepositories, howner, hclass, hpublication, hreviewer, hupdates⟩ := h
    exact ⟨hid, hversion, hrepositories, howner, hclass, hpublication, hreviewer, hupdates⟩
  · intro h
    simp only [signature, Prod.mk.injEq]
    exact ⟨h.1, h.2, h.3, h.4, h.5, h.6, h.7, h.8⟩

/-- An approval goes from one record to every record that agrees with it. -/
lemma Approves.of_sameAuthority {taskInput : DeploymentContextSyncInput} {settings : Settings}
    (happroves : record.Approves taskInput settings) (hsame : record.SameAuthority item) :
    item.Approves taskInput settings where
  owner := hsame.serviceOwner ▸ happroves.owner
  unrestricted := hsame.dataClassification ▸ happroves.unrestricted
  current := hsame.deploymentPolicyVersion ▸ happroves.current
  repository := hsame.approvedRepositories ▸ happroves.repository
  publication := hsame.automaticPublicationAllowed ▸ happroves.publication
  reviewer := hsame.requiredReviewer ▸ happroves.reviewer

omit [Runtime] in
lemma newest_cons : record.newest (item :: records) =
    (if record.sourceVersion < item.sourceVersion then item else record).newest records := rfl

omit [Runtime] in
lemma newest_mem (record : ServiceCatalogRecord) (records : List ServiceCatalogRecord) :
    record.newest records ∈ record :: records := by
  induction records generalizing record with
  | nil => exact List.mem_cons_self
  | cons item records ih =>
    rw [newest_cons]
    by_cases hlt : record.sourceVersion < item.sourceVersion
    · rw [if_pos hlt]
      exact List.mem_cons_of_mem _ (ih item)
    · rw [if_neg hlt]
      rcases List.mem_cons.1 (ih record) with heq | hmem
      · rw [heq]
        exact List.mem_cons_self
      · exact List.mem_cons_of_mem _ (List.mem_cons_of_mem _ hmem)

omit [Runtime] in
/-- No record has a greater version than the newest one. -/
lemma le_newest (record : ServiceCatalogRecord) (records : List ServiceCatalogRecord) :
    ∀ item ∈ record :: records, item.sourceVersion ≤ (record.newest records).sourceVersion := by
  induction records generalizing record with
  | nil =>
    intro item hitem
    rw [List.mem_singleton.1 hitem]
    exact le_refl _
  | cons next records ih =>
    intro item hitem
    rw [newest_cons]
    by_cases hlt : record.sourceVersion < next.sourceVersion
    · rw [if_pos hlt]
      rcases List.mem_cons.1 hitem with rfl | hitem
      · exact hlt.le.trans (ih next next List.mem_cons_self)
      · exact ih next item hitem
    · rw [if_neg hlt]
      rcases List.mem_cons.1 hitem with rfl | hitem
      · exact ih item item List.mem_cons_self
      rcases List.mem_cons.1 hitem with rfl | hitem
      · exact (not_lt.1 hlt).trans (ih record record List.mem_cons_self)
      · exact ih record item (List.mem_cons_of_mem _ hitem)

omit [Runtime] in
/-- Where no later record has a greater version, the first one is taken. -/
lemma newest_of_le (hle : ∀ item ∈ records, item.sourceVersion ≤ record.sourceVersion) :
    record.newest records = record := by
  induction records with
  | nil => rfl
  | cons item records ih =>
    rw [newest_cons, if_neg (not_lt.2 (hle item List.mem_cons_self))]
    exact ih fun other hother => hle other (List.mem_cons_of_mem _ hother)

end ServiceCatalogRecord

open ServiceCatalogRecord

variable {taskInput : DeploymentContextSyncInput} {settings : Settings}
  {record item : ServiceCatalogRecord} {records records' : List ServiceCatalogRecord}

lemma evaluateRecord_ready_iff :
    (evaluateRecord taskInput record settings).outcome = .ready ↔
      record.Approves taskInput settings := by
  unfold evaluateRecord
  by_cases howner : record.serviceOwner = none
  · rw [if_pos howner]
    apply iff_of_false (by simp [PolicyEvaluation.result])
    intro happroves
    simpa [howner] using happroves.owner
  rw [if_neg howner]
  by_cases hrestricted : record.dataClassification = .restricted
  · rw [if_pos hrestricted]
    apply iff_of_false (by simp [PolicyEvaluation.result])
    intro happroves
    simpa [hrestricted] using happroves.unrestricted
  rw [if_neg hrestricted]
  by_cases hconfidential : record.dataClassification = .confidential
  · rw [if_pos hconfidential]
    apply iff_of_false (by simp [PolicyEvaluation.result])
    intro happroves
    simpa [hconfidential] using happroves.unrestricted
  rw [if_neg hconfidential]
  by_cases hstale : record.deploymentPolicyVersion < settings.deploymentMinimumPolicyVersion
  · rw [if_pos hstale]
    apply iff_of_false (by simp [PolicyEvaluation.result])
    intro happroves
    exact absurd happroves.current (not_le.2 hstale)
  rw [if_neg hstale]
  by_cases hrepository :
      Runtime.casefold taskInput.githubRepository ∈ record.approvedRepositories
  · rw [if_neg (by simpa using hrepository)]
    by_cases hpublication : record.automaticPublicationAllowed = true
    · rw [if_neg (by simpa using hpublication)]
      by_cases hreviewer : record.requiredReviewer = none
      · rw [if_neg (by simp [hreviewer])]
        apply iff_of_true rfl
        refine ⟨Option.isSome_iff_ne_none.2 howner, ?_, not_lt.1 hstale, hrepository, hpublication,
          hreviewer⟩
        cases hclass : record.dataClassification with
        | «public» => exact .inl rfl
        | internal => exact .inr rfl
        | confidential => exact absurd hclass hconfidential
        | restricted => exact absurd hclass hrestricted
      · rw [if_pos (Option.isSome_iff_ne_none.2 hreviewer)]
        apply iff_of_false (by simp [PolicyEvaluation.result])
        intro happroves
        exact hreviewer happroves.reviewer
    · rw [if_pos (by simpa using hpublication)]
      apply iff_of_false (by simp [PolicyEvaluation.result])
      intro happroves
      exact hpublication happroves.publication
  · rw [if_pos (by simpa using hrepository)]
    apply iff_of_false (by simp [PolicyEvaluation.result])
    intro happroves
    exact hrepository happroves.repository

lemma evaluateRecord_record : (evaluateRecord taskInput record settings).record = some record := by
  unfold evaluateRecord
  repeat' split
  all_goals rfl

/-- The verdict on a record is read off what records for one service agree on. -/
lemma evaluateRecord_congr (taskInput : DeploymentContextSyncInput) (settings : Settings)
    (hsame : record.SameAuthority item) :
    (evaluateRecord taskInput record settings).outcome =
        (evaluateRecord taskInput item settings).outcome ∧
      (evaluateRecord taskInput record settings).reasonCodes =
        (evaluateRecord taskInput item settings).reasonCodes := by
  unfold evaluateRecord
  rw [hsame.serviceOwner, hsame.dataClassification, hsame.deploymentPolicyVersion,
    hsame.approvedRepositories, hsame.automaticPublicationAllowed, hsame.requiredReviewer]
  repeat' split
  all_goals exact ⟨rfl, rfl⟩

/-- The records that stand for the service agree with each other. -/
def Agree (taskInput : DeploymentContextSyncInput) (records : List ServiceCatalogRecord) : Prop :=
  ∀ record ∈ records, record.Names taskInput → ∀ item ∈ records, item.Names taskInput →
    record.SameAuthority item

/-- The record stands for the service, and no such record has a greater version. -/
structure Greatest (taskInput : DeploymentContextSyncInput) (records : List ServiceCatalogRecord)
    (record : ServiceCatalogRecord) : Prop where
  mem : record ∈ records
  names : record.Names taskInput
  greatest : ∀ item ∈ records, item.Names taskInput → item.sourceVersion ≤ record.sourceVersion

/-- The catalog permits the workflow to publish by itself: every record that stands for the
service does, and they agree. -/
structure Permitted (taskInput : DeploymentContextSyncInput) (settings : Settings)
    (records : List ServiceCatalogRecord) : Prop where
  named : ∃ record ∈ records, record.Names taskInput
  agree : Agree taskInput records
  approved : ∀ record ∈ records, record.Names taskInput → record.Approves taskInput settings

lemma mem_candidates : record ∈ records.filter (·.resolves taskInput.serviceId) ↔
    record ∈ records ∧ record.Names taskInput := by
  rw [List.mem_filter, resolves_iff]

lemma Agree.perm (hagree : Agree taskInput records) (hperm : records'.Perm records) :
    Agree taskInput records' :=
  fun record hrecord hnames item hitem =>
    hagree record (hperm.mem_iff.1 hrecord) hnames item (hperm.mem_iff.1 hitem)

lemma Greatest.perm (hgreatest : Greatest taskInput records record)
    (hperm : records'.Perm records) : Greatest taskInput records' record :=
  ⟨hperm.mem_iff.2 hgreatest.mem, hgreatest.names,
    fun item hitem => hgreatest.greatest item (hperm.mem_iff.1 hitem)⟩

/-- No record stands for the service. -/
lemma evaluate_unnamed (hnone : ¬∃ record ∈ records, record.Names taskInput) :
    evaluateServiceCatalog taskInput records settings =
      .result .blocked .serviceRecordMalformed
        "No authoritative service-catalog record resolved the requested service." := by
  have hempty : records.filter (·.resolves taskInput.serviceId) = [] := by
    refine List.eq_nil_iff_forall_not_mem.2 fun record hmem => ?_
    obtain ⟨hrecord, hnames⟩ := mem_candidates.1 hmem
    exact hnone ⟨record, hrecord, hnames⟩
  rw [evaluateServiceCatalog, hempty]

lemma agree_candidates_iff {candidates : List ServiceCatalogRecord}
    (hcandidates : records.filter (·.resolves taskInput.serviceId) = record :: candidates) :
    (candidates.any fun item => item.signature != record.signature) = false ↔
      Agree taskInput records := by
  have hmem : ∀ item, item ∈ record :: candidates ↔ item ∈ records ∧ item.Names taskInput := by
    intro item
    rw [← hcandidates, mem_candidates]
  constructor
  · intro hnone
    have hfirst : ∀ item ∈ record :: candidates, item.signature = record.signature := by
      intro item hitem
      rcases List.mem_cons.1 hitem with rfl | hitem
      · rfl
      · simpa using List.any_eq_false.1 hnone item hitem
    intro a ha hnames b hb hnames'
    have hsignature : a.signature = b.signature :=
      (hfirst a ((hmem a).2 ⟨ha, hnames⟩)).trans (hfirst b ((hmem b).2 ⟨hb, hnames'⟩)).symm
    exact signature_eq_iff.1 hsignature
  · intro hagree
    refine List.any_eq_false.2 fun item hitem => ?_
    obtain ⟨hrecord, hnames⟩ := (hmem record).1 List.mem_cons_self
    obtain ⟨hitem, hnames'⟩ := (hmem item).1 (List.mem_cons_of_mem _ hitem)
    have hsignature := signature_eq_iff.2 (hagree item hitem hnames' record hrecord hnames)
    simp [hsignature]

/-- The records that stand for the service do not agree. -/
lemma evaluate_conflict (hnamed : ∃ record ∈ records, record.Names taskInput)
    (hconflict : ¬Agree taskInput records) :
    evaluateServiceCatalog taskInput records settings =
      .result .needsHumanReview .serviceRecordConflict
        "Conflicting service-catalog records require an owner to choose authority." := by
  obtain ⟨named, hmem, hnames⟩ := hnamed
  have hcandidate := mem_candidates.2 ⟨hmem, hnames⟩
  unfold evaluateServiceCatalog
  split
  · rename_i hempty
    rw [hempty] at hcandidate
    cases hcandidate
  · rename_i record candidates hcandidates
    have hany : ¬(candidates.any fun item => item.signature != record.signature) = false :=
      fun hnone => hconflict ((agree_candidates_iff hcandidates).1 hnone)
    rw [if_pos (by simpa using hany)]

/-- The records that stand for the service agree, and one of the newest is evaluated. -/
lemma evaluate_agree (settings : Settings) (hnamed : ∃ record ∈ records, record.Names taskInput)
    (hagree : Agree taskInput records) :
    ∃ record, Greatest taskInput records record ∧
      evaluateServiceCatalog taskInput records settings =
        evaluateRecord taskInput record settings := by
  obtain ⟨named, hmem, hnames⟩ := hnamed
  have hcandidate := mem_candidates.2 ⟨hmem, hnames⟩
  unfold evaluateServiceCatalog
  split
  · rename_i hempty
    rw [hempty] at hcandidate
    cases hcandidate
  · rename_i record candidates hcandidates
    have hnone := (agree_candidates_iff hcandidates).2 hagree
    have hnewest := record.newest_mem candidates
    rw [← hcandidates, mem_candidates] at hnewest
    refine ⟨record.newest candidates, ⟨hnewest.1, hnewest.2, fun item hitem hnames' => ?_⟩, ?_⟩
    · refine record.le_newest candidates item ?_
      rw [← hcandidates]
      exact mem_candidates.2 ⟨hitem, hnames'⟩
    · rw [if_neg (by simp [hnone])]

/-- A record in front that no other exceeds is the one that is evaluated. -/
lemma evaluate_first (hgreatest : Greatest taskInput (record :: records) record)
    (hagree : Agree taskInput (record :: records)) :
    evaluateServiceCatalog taskInput (record :: records) settings =
      evaluateRecord taskInput record settings := by
  have hcandidates : (record :: records).filter (·.resolves taskInput.serviceId) =
      record :: records.filter (·.resolves taskInput.serviceId) :=
    List.filter_cons_of_pos (resolves_iff.2 hgreatest.names)
  have hnone := (agree_candidates_iff hcandidates).2 hagree
  have hnewest : record.newest (records.filter (·.resolves taskInput.serviceId)) = record := by
    refine newest_of_le fun item hitem => ?_
    obtain ⟨hmem, hnames⟩ := mem_candidates.1 hitem
    exact hgreatest.greatest item (List.mem_cons_of_mem _ hmem) hnames
  rw [evaluateServiceCatalog, hcandidates]
  dsimp only
  rw [if_neg (by simp [hnone]), hnewest]

lemma evaluate_ready_iff (taskInput : DeploymentContextSyncInput) (settings : Settings)
    (records : List ServiceCatalogRecord) :
    (evaluateServiceCatalog taskInput records settings).outcome = .ready ↔
      Permitted taskInput settings records := by
  by_cases hnamed : ∃ record ∈ records, record.Names taskInput
  · by_cases hagree : Agree taskInput records
    · obtain ⟨record, hgreatest, heq⟩ := evaluate_agree settings hnamed hagree
      rw [heq, evaluateRecord_ready_iff]
      constructor
      · intro happroves
        refine ⟨hnamed, hagree, fun item hitem hnames => ?_⟩
        exact happroves.of_sameAuthority
          (hagree record hgreatest.mem hgreatest.names item hitem hnames)
      · intro hpermitted
        exact hpermitted.approved record hgreatest.mem hgreatest.names
    · rw [evaluate_conflict hnamed hagree]
      apply iff_of_false (by simp [PolicyEvaluation.result])
      intro hpermitted
      exact hagree hpermitted.agree
  · rw [evaluate_unnamed hnamed]
    apply iff_of_false (by simp [PolicyEvaluation.result])
    intro hpermitted
    exact hnamed hpermitted.named

omit [Runtime] in
lemma mem_sortedSet {s : String} {items : List String} : s ∈ sortedSet items ↔ s ∈ items := by
  rw [sortedSet, (List.perm_insertionSort _ _).mem_iff, List.mem_dedup]

/-- The repositories of a record are those of its payload, in one case. -/
lemma normalizeServiceRecord_repositories {payload : List (String × JsonValue)}
    (h : normalizeServiceRecord payload = .ok record) :
    ∃ repositories, stringList (firstNonNull payload
        ["approved_repositories", "repositories", "repo_names"]) = .ok repositories ∧
      record.approvedRepositories = sortedSet (repositories.map Runtime.casefold) := by
  unfold normalizeServiceRecord at h
  split at h
  · rename_i read hread
    obtain rfl := Except.ok.inj h
    simp only [readServiceRecord, bind_eq_ok] at hread
    obtain ⟨serviceId, -, canonicalServiceId, -, repositories, hrepositories, aliases, -, owner, -,
      criticality, -, classification, -, version, -, publication, -, reviewer, -, sourceVersion, -,
      url, -, sourceUrl, -, dataClassification, -, policyVersion, -, hread⟩ := hread
    obtain rfl := Except.ok.inj hread
    exact ⟨repositories, hrepositories, rfl⟩
  · cases h

/-- The evaluation lets the workflow go ahead exactly when some record stands for the service and
all that do agree with each other and approve; and a record that the connector has read approves
of a repository exactly when its payload lists it in some case. -/
theorem ready_iff_permitted (taskInput : DeploymentContextSyncInput) (settings : Settings)
    (records : List ServiceCatalogRecord) :
    ((evaluateServiceCatalog taskInput records settings).outcome = .ready ↔
        Permitted taskInput settings records) ∧
      ∀ payload record, normalizeServiceRecord payload = .ok record →
        ∃ repositories, stringList (firstNonNull payload
            ["approved_repositories", "repositories", "repo_names"]) = .ok repositories ∧
          (Runtime.casefold taskInput.githubRepository ∈ record.approvedRepositories ↔
            ∃ repository ∈ repositories,
              Runtime.casefold repository = Runtime.casefold taskInput.githubRepository) := by
  refine ⟨evaluate_ready_iff taskInput settings records, fun payload record hrecord => ?_⟩
  obtain ⟨repositories, hrepositories, hfolded⟩ := normalizeServiceRecord_repositories hrecord
  refine ⟨repositories, hrepositories, ?_⟩
  rw [hfolded, mem_sortedSet, List.mem_map]

/-! ## The order of the records -/

/-- What the workflow reads off two evaluations is the same. -/
structure SameEvaluation (taskInput : DeploymentContextSyncInput) (settings : Settings)
    (e e' : PolicyEvaluation) : Prop where
  outcome : e.outcome = e'.outcome
  reasonCodes : e.reasonCodes = e'.reasonCodes
  selected : e.outcome = .ready → ∃ record item, e.record = some record ∧ e'.record = some item ∧
    (∀ github, actionScopeKey settings taskInput github record =
      actionScopeKey settings taskInput github item) ∧
    record.deploymentPolicyVersion = item.deploymentPolicyVersion ∧
    record.allowAutomaticUpdates = item.allowAutomaticUpdates

/-- The newest records that stand for the service spell it in one way. -/
def SpelledAlike (taskInput : DeploymentContextSyncInput) (records : List ServiceCatalogRecord) :
    Prop :=
  ∀ record item, Greatest taskInput records record → Greatest taskInput records item →
    record.canonicalServiceId = item.canonicalServiceId

omit [Runtime] in
/-- The scope key tells the spellings of a service apart. -/
lemma actionScopeKey_congr_iff {github : GitHubRepositoryContext} {scope : String}
    (hscope : settings.deploymentScopeId = some scope) :
    actionScopeKey settings taskInput github record =
        actionScopeKey settings taskInput github item ↔
      record.canonicalServiceId = item.canonicalServiceId := by
  unfold actionScopeKey
  rw [hscope]
  constructor
  · intro h
    have htext := congrArg String.toList (Except.ok.inj h)
    simp only [String.toList_append, List.append_cancel_right_eq,
      List.append_cancel_left_eq] at htext
    exact String.toList_inj.1 htext
  · intro h
    rw [h]

/-- Evaluations of the records in two orders agree, up to the spelling of the service. -/
lemma sameEvaluation_of_perm (hperm : records'.Perm records)
    (hspelled : settings.deploymentScopeId = none ∨ ¬Permitted taskInput settings records ∨
      SpelledAlike taskInput records) :
    SameEvaluation taskInput settings (evaluateServiceCatalog taskInput records settings)
      (evaluateServiceCatalog taskInput records' settings) := by
  by_cases hnamed : ∃ record ∈ records, record.Names taskInput
  · have hnamed' : ∃ record ∈ records', record.Names taskInput := by
      obtain ⟨record, hmem, hnames⟩ := hnamed
      exact ⟨record, hperm.mem_iff.2 hmem, hnames⟩
    by_cases hagree : Agree taskInput records
    · obtain ⟨record, hgreatest, heq⟩ := evaluate_agree settings hnamed hagree
      obtain ⟨item, hgreatest', heq'⟩ :=
        evaluate_agree settings hnamed' (hagree.perm hperm)
      have hitem := hgreatest'.perm hperm.symm
      have hsame := hagree record hgreatest.mem hgreatest.names item hitem.mem hitem.names
      obtain ⟨houtcome, hreasons⟩ :=
        evaluateRecord_congr taskInput settings hsame
      have hready := evaluate_ready_iff taskInput settings records
      rw [heq] at hready
      rw [heq, heq']
      refine ⟨houtcome, hreasons, fun houtcome => ?_⟩
      refine ⟨record, item, evaluateRecord_record, evaluateRecord_record, fun github => ?_,
        hsame.deploymentPolicyVersion, hsame.allowAutomaticUpdates⟩
      rcases hspelled with hscope | hforbidden | hspelled
      · unfold actionScopeKey
        rw [hscope]
      · exact absurd (hready.1 houtcome) hforbidden
      · unfold actionScopeKey
        rw [hspelled record item hgreatest hitem]
    · have hconflict : ¬Agree taskInput records' := fun h => hagree (h.perm hperm.symm)
      rw [evaluate_conflict hnamed hagree, evaluate_conflict hnamed' hconflict]
      exact ⟨rfl, rfl, fun h => by cases h⟩
  · have hnone : ¬∃ record ∈ records', record.Names taskInput := by
      rintro ⟨record, hmem, hnames⟩
      exact hnamed ⟨record, hperm.mem_iff.1 hmem, hnames⟩
    rw [evaluate_unnamed hnamed, evaluate_unnamed hnone]
    exact ⟨rfl, rfl, fun h => by cases h⟩

/-- Each of the newest records is the selected one in some order of the records. -/
lemma exists_perm_selects (hpermitted : Permitted taskInput settings records)
    (hgreatest : Greatest taskInput records record) :
    ∃ records', records'.Perm records ∧
      (evaluateServiceCatalog taskInput records' settings).record = some record := by
  obtain ⟨before, after, rfl⟩ := List.append_of_mem hgreatest.mem
  have hperm : (record :: (before ++ after)).Perm (before ++ record :: after) :=
    List.perm_middle.symm
  refine ⟨record :: (before ++ after), hperm, ?_⟩
  rw [evaluate_first (hgreatest.perm hperm) (hpermitted.agree.perm hperm), evaluateRecord_record]

instance : Inhabited GitHubRepositoryContext := ⟨{
  fullName := "", repositoryId := 1, «visibility» := "", archived := false, defaultBranch := ""
  defaultBranchHeadSha := "", issueNumber := 1, issueState := "", issueTitle := ""
  isPullRequest := false, sourceUrl := "", sourceVersion := "" }⟩

/-- The order of the records makes no difference exactly when no scope is configured, when the
catalog does not permit the publication, or when the newest records spell the service in one way. -/
theorem order_irrelevant_iff (taskInput : DeploymentContextSyncInput) (settings : Settings)
    (records : List ServiceCatalogRecord) :
    (∀ records', records'.Perm records →
      SameEvaluation taskInput settings (evaluateServiceCatalog taskInput records settings)
        (evaluateServiceCatalog taskInput records' settings)) ↔
      settings.deploymentScopeId = none ∨ ¬Permitted taskInput settings records ∨
        SpelledAlike taskInput records := by
  refine ⟨fun hsame => ?_, fun hspelled records' hperm => sameEvaluation_of_perm hperm hspelled⟩
  by_contra hneither
  simp only [not_or, not_not] at hneither
  obtain ⟨hscope, hpermitted, hspelled⟩ := hneither
  obtain ⟨scope, hscope⟩ := Option.ne_none_iff_exists'.1 hscope
  have hready := (evaluate_ready_iff _ _ _).2 hpermitted
  apply hspelled
  -- Each of two newest records is selected in an order of its own, and both are spelled like the
  -- record that the given order selects.
  have hlike : ∀ record, Greatest taskInput records record →
      ∃ selected, (evaluateServiceCatalog taskInput records settings).record = some selected ∧
        selected.canonicalServiceId = record.canonicalServiceId := by
    intro record hgreatest
    obtain ⟨records', hperm, hrecord⟩ := exists_perm_selects hpermitted hgreatest
    obtain ⟨selected, item, hselected, hitem, hkey, -⟩ := (hsame records' hperm).selected hready
    rw [hrecord] at hitem
    obtain rfl := Option.some.inj hitem
    exact ⟨selected, hselected, (actionScopeKey_congr_iff hscope).1 (hkey default)⟩
  intro record item hgreatest hgreatest'
  obtain ⟨selected, hselected, hid⟩ := hlike record hgreatest
  obtain ⟨selected', hselected', hid'⟩ := hlike item hgreatest'
  rw [hselected] at hselected'
  obtain rfl := Option.some.inj hselected'
  exact hid.symm.trans hid'

end Policy

namespace Sample

def paymentsInput : DeploymentContextSyncInput where
  jiraIssueKey := "OPS-1"
  githubRepository := "acme/payments"
  githubIssueNumber := 7
  serviceId := "payments"
  publishSlackNotification := false
  slackChannelId := none
  jiraIssueKey_pattern := by decide
  githubRepository_length := by decide
  githubRepository_pattern := by decide
  githubIssueNumber_range := by decide
  serviceId_visible := by decide
  slackChannelId_pattern := by decide
  channel_required := by decide

def prodSettings : Settings where
  deploymentScopeId := some "prod"

def spelledRecord (canonicalServiceId : String) : ServiceCatalogRecord where
  serviceId := "payments"
  canonicalServiceId := canonicalServiceId
  aliases := []
  serviceOwner := some "team"
  criticality := "high"
  approvedRepositories := ["acme/payments"]
  dataClassification := .internal
  deploymentPolicyVersion := 3
  automaticPublicationAllowed := true
  requiredReviewer := none
  allowAutomaticUpdates := false
  sourceVersion := "v1"
  sourceUrl := "https://catalog.example/payments"

attribute [local instance] asciiHost in
lemma evaluate_spelled :
    (evaluateServiceCatalog paymentsInput [spelledRecord "payments", spelledRecord "Payments"]
      prodSettings).outcome = .ready ∧
    (evaluateServiceCatalog paymentsInput [spelledRecord "payments", spelledRecord "Payments"]
      prodSettings).record = some (spelledRecord "payments") ∧
    (evaluateServiceCatalog paymentsInput [spelledRecord "Payments", spelledRecord "payments"]
      prodSettings).record = some (spelledRecord "Payments") := by
  decide +kernel

end Sample

attribute [local instance] Sample.asciiHost in
open Sample in
/-- Two records of one version that spell their service in two ways give two scope keys, according
to which of them comes first. -/
theorem order_matters_spelling : ¬∀ records',
    records'.Perm [spelledRecord "payments", spelledRecord "Payments"] →
      SameEvaluation paymentsInput prodSettings
        (evaluateServiceCatalog paymentsInput [spelledRecord "payments", spelledRecord "Payments"]
          prodSettings)
        (evaluateServiceCatalog paymentsInput records' prodSettings) := by
  intro hsame
  obtain ⟨hready, hfirst, hsecond⟩ := evaluate_spelled
  have hswap := hsame [spelledRecord "Payments", spelledRecord "payments"] (List.Perm.swap _ _ _)
  obtain ⟨record, item, hrecord, hitem, hkey, -⟩ := hswap.selected hready
  rw [hfirst] at hrecord
  rw [hsecond] at hitem
  obtain rfl := Option.some.inj hrecord
  obtain rfl := Option.some.inj hitem
  have hid := (actionScopeKey_congr_iff rfl).1 (hkey default)
  simp [spelledRecord] at hid

end DeploymentLab
