import DeploymentLab.Proofs.CatalogPolicy

/-!
# What a catalog record says of its payload

Every field that is read by a function for its type holds the value of the first spelling, as it
stands there. The authority to update is read by its truth value instead, so that a payload of
another type than a Boolean may grant it.
-/

namespace DeploymentLab

section Values

variable {value : JsonValue} {s : String}

lemma stringValue_ok : stringValue value = .ok s ↔ value = .str s ∧ s ≠ "" := by
  cases value with
  | str item =>
    by_cases hempty : item = ""
    · simp only [stringValue, hempty, if_pos, reduceCtorEq, JsonValue.str.injEq, false_iff]
      rintro ⟨rfl, hne⟩
      exact hne rfl
    · simp only [stringValue, if_neg hempty, Except.ok.injEq, JsonValue.str.injEq]
      constructor
      · rintro rfl
        exact ⟨rfl, hempty⟩
      · exact fun h => h.1
  | null | bool | int | float | list | dict => simp [stringValue]

lemma optionalStringValue_ok {o : Option String} :
    optionalStringValue value = .ok o ↔ value = optionalString o ∧ o ≠ some "" := by
  by_cases hnull : value = .null
  · rw [hnull, optionalStringValue]
    cases o <;> simp [optionalString]
  · have hread : optionalStringValue value = (stringValue value).map some := by
      cases value <;> first | rfl | exact absurd rfl hnull
    rw [hread]
    cases o with
    | none =>
      simp only [optionalString, hnull, false_and, iff_false]
      cases stringValue value <;> simp [Except.map]
    | some s =>
      have hmap : (stringValue value).map some = .ok (some s) ↔ stringValue value = .ok s := by
        cases stringValue value <;> simp [Except.map]
      rw [hmap, stringValue_ok]
      simp [optionalString]

lemma intValue_ok {n : ℤ} : intValue value = .ok n ↔ value = .int n := by
  cases value <;> simp [intValue]

lemma boolValue_ok {b : Bool} : boolValue value = .ok b ↔ value = .bool b := by
  cases value <;> simp [boolValue]

lemma mapM_stringItem_ok {values : List JsonValue} {items : List String} :
    values.mapM stringItem = .ok items ↔ values = items.map .str := by
  have hitem : ∀ {value : JsonValue} {item : String},
      stringItem value = .ok item ↔ value = .str item := by
    intro value item
    cases value <;> simp [stringItem]
  rw [mapM_eq_ok]
  simp only [hitem]
  rw [← List.forall₂_map_right_iff (f := JsonValue.str), List.forall₂_eq_eq_eq]

/-- The strings that a payload lists, none where it has no list. -/
def Lists (value : JsonValue) (items : List String) : Prop :=
  value = .list (items.map .str) ∨ value = .null ∧ items = []

lemma stringList_ok {items : List String} : stringList value = .ok items ↔ Lists value items := by
  cases value with
  | null =>
    simp only [stringList, Lists, Except.ok.injEq, reduceCtorEq, true_and, false_or]
    exact eq_comm
  | list values => simp [stringList, Lists, mapM_stringItem_ok]
  | bool | int | float | str | dict => simp [stringList, Lists]

lemma DataClassification.ofValue_ok {classification : DataClassification} :
    DataClassification.ofValue s = .ok classification ↔ classification.value = s := by
  unfold DataClassification.ofValue
  constructor
  · intro h
    split at h
    · rename_i found hfound
      obtain rfl := Except.ok.inj h
      simpa using List.find?_some hfound
    · cases h
  · rintro rfl
    cases classification <;> rfl

lemma policyVersionField_ok {version n : ℤ} :
    policyVersionField version = .ok n ↔ version = n ∧ 1 ≤ n := by
  unfold policyVersionField
  by_cases hpos : 1 ≤ version
  · rw [if_pos hpos]
    constructor
    · intro h
      obtain rfl := Except.ok.inj h
      exact ⟨rfl, hpos⟩
    · rintro ⟨rfl, -⟩
      rfl
  · rw [if_neg hpos]
    simp only [reduceCtorEq, false_iff]
    rintro ⟨rfl, h⟩
    exact hpos h

lemma sortedSet_sorted (items : List String) : (sortedSet items).Pairwise (· < ·) := by
  have hsorted : (sortedSet items).Pairwise (· ≤ ·) := List.pairwise_insertionSort _ _
  have hnodup : (sortedSet items).Nodup :=
    (List.perm_insertionSort _ _).nodup_iff.2 (List.nodup_dedup items)
  exact (hsorted.and hnodup).imp fun h => lt_of_le_of_ne h.1 h.2

end Values

section Records

variable [Runtime] {payload : List (String × JsonValue)} {record : ServiceCatalogRecord}

/-- Every field of the record is the value that the payload has under the first spelling. -/
structure ReadsExactly (payload : List (String × JsonValue)) (record : ServiceCatalogRecord) :
    Prop where
  automaticPublicationAllowed : firstNonNull payload
    ["automatic_publication_allowed", "auto_publish"] = .bool record.automaticPublicationAllowed
  allowAutomaticUpdates :
    firstNonNull payload ["allow_automatic_updates"] = .bool record.allowAutomaticUpdates ∨
      firstNonNull payload ["allow_automatic_updates"] = .null ∧
        record.allowAutomaticUpdates = false
  deploymentPolicyVersion : firstNonNull payload ["deployment_policy_version", "policy_version"] =
    .int record.deploymentPolicyVersion ∧ 1 ≤ record.deploymentPolicyVersion
  serviceOwner : firstNonNull payload ["service_owner", "owner", "owner_id"] =
    optionalString record.serviceOwner ∧ record.serviceOwner ≠ some ""
  requiredReviewer : firstNonNull payload ["required_reviewer", "reviewer"] =
    optionalString record.requiredReviewer ∧ record.requiredReviewer ≠ some ""
  approvedRepositories : record.approvedRepositories.Pairwise (· < ·) ∧ ∃ items,
    Lists (firstNonNull payload ["approved_repositories", "repositories", "repo_names"]) items ∧
      ∀ repository, repository ∈ record.approvedRepositories ↔
        ∃ item ∈ items, Runtime.casefold item = repository
  dataClassification : ∃ value,
    firstNonNull payload ["data_classification", "classification"] = .str value ∧
      record.dataClassification.value = Runtime.casefold value
  serviceId : firstNonNull payload ["service_id", "serviceId", "legacy_id"] =
    .str record.serviceId ∧ record.serviceId ≠ ""
  canonicalServiceId : firstNonNull payload ["canonical_service_id", "canonicalId", "service_id"] =
    .str record.canonicalServiceId ∧ record.canonicalServiceId ≠ ""
  aliases : record.aliases.Pairwise (· < ·) ∧ ∃ items,
    Lists (firstNonNull payload ["aliases", "legacy_ids"]) items ∧
      ∀ name, name ∈ record.aliases ↔ name ∈ items
  criticality : firstNonNull payload ["criticality", "tier", "service_tier"] =
    .str record.criticality ∧ record.criticality ≠ ""
  sourceVersion : firstNonNull payload ["source_version", "etag", "version"] =
    .str record.sourceVersion ∧ record.sourceVersion ≠ ""
  sourceUrl : ∃ url, firstNonNull payload ["source_url", "url"] = .str url ∧
    canonicalSourceUrl url = .ok record.sourceUrl

/-- The authority to update is absent, null or a Boolean. -/
def UpdatesStated (payload : List (String × JsonValue)) : Prop :=
  firstNonNull payload ["allow_automatic_updates"] = .null ∨
    ∃ b, firstNonNull payload ["allow_automatic_updates"] = .bool b

/-- Every other field can be read. -/
structure Readable (payload : List (String × JsonValue)) : Prop where
  serviceId : ∃ s, stringValue (firstNonNull payload ["service_id", "serviceId", "legacy_id"]) =
    .ok s
  canonicalServiceId : ∃ s, stringValue (firstNonNull payload
    ["canonical_service_id", "canonicalId", "service_id"]) = .ok s
  repositories : ∃ items, stringList (firstNonNull payload
    ["approved_repositories", "repositories", "repo_names"]) = .ok items
  aliases : ∃ items, stringList (firstNonNull payload ["aliases", "legacy_ids"]) = .ok items
  owner : ∃ o, optionalStringValue (firstNonNull payload
    ["service_owner", "owner", "owner_id"]) = .ok o
  criticality : ∃ s, stringValue (firstNonNull payload
    ["criticality", "tier", "service_tier"]) = .ok s
  classification : ∃ s c, stringValue (firstNonNull payload
    ["data_classification", "classification"]) = .ok s ∧
      DataClassification.ofValue (Runtime.casefold s) = .ok c
  version : ∃ n, intValue (firstNonNull payload
    ["deployment_policy_version", "policy_version"]) = .ok n ∧ 1 ≤ n
  publication : ∃ b, boolValue (firstNonNull payload
    ["automatic_publication_allowed", "auto_publish"]) = .ok b
  reviewer : ∃ o, optionalStringValue (firstNonNull payload
    ["required_reviewer", "reviewer"]) = .ok o
  sourceVersion : ∃ s, stringValue (firstNonNull payload
    ["source_version", "etag", "version"]) = .ok s
  sourceUrl : ∃ s url, stringValue (firstNonNull payload ["source_url", "url"]) = .ok s ∧
    canonicalSourceUrl s = .ok url

lemma normalizeServiceRecord_ok :
    normalizeServiceRecord payload = .ok record ↔ readServiceRecord payload = .ok record := by
  unfold normalizeServiceRecord
  cases readServiceRecord payload <;> simp

lemma normalizeServiceRecord_error {x : Exn} (h : normalizeServiceRecord payload = .error x) :
    x = serviceCatalogContractError := by
  unfold normalizeServiceRecord at h
  split at h
  · cases h
  · exact (Except.error.inj h).symm

/-- A payload is accepted when every field but the authority to update can be read. -/
lemma readServiceRecord_readable :
    (∃ record, readServiceRecord payload = .ok record) ↔ Readable payload := by
  constructor
  · rintro ⟨record, hread⟩
    simp only [readServiceRecord, bind_eq_ok] at hread
    obtain ⟨serviceId, hserviceId, canonicalServiceId, hcanonical, repositories, hrepositories,
      aliases, haliases, owner, howner, criticality, hcriticality, classification,
      hclassification, version, hversion, publication, hpublication, reviewer, hreviewer,
      sourceVersion, hsourceVersion, url, hurl, sourceUrl, hsourceUrl, dataClassification,
      hdataClassification, policyVersion, hpolicyVersion, -⟩ := hread
    obtain ⟨rfl, hpos⟩ := policyVersionField_ok.1 hpolicyVersion
    exact ⟨⟨_, hserviceId⟩, ⟨_, hcanonical⟩, ⟨_, hrepositories⟩, ⟨_, haliases⟩, ⟨_, howner⟩,
      ⟨_, hcriticality⟩, ⟨_, _, hclassification, hdataClassification⟩, ⟨_, hversion, hpos⟩,
      ⟨_, hpublication⟩, ⟨_, hreviewer⟩, ⟨_, hsourceVersion⟩, ⟨_, _, hurl, hsourceUrl⟩⟩
  · intro hreadable
    obtain ⟨serviceId, hserviceId⟩ := hreadable.serviceId
    obtain ⟨canonicalServiceId, hcanonical⟩ := hreadable.canonicalServiceId
    obtain ⟨repositories, hrepositories⟩ := hreadable.repositories
    obtain ⟨aliases, haliases⟩ := hreadable.aliases
    obtain ⟨owner, howner⟩ := hreadable.owner
    obtain ⟨criticality, hcriticality⟩ := hreadable.criticality
    obtain ⟨classification, dataClassification, hclassification, hdata⟩ :=
      hreadable.classification
    obtain ⟨version, hversion, hpos⟩ := hreadable.version
    obtain ⟨publication, hpublication⟩ := hreadable.publication
    obtain ⟨reviewer, hreviewer⟩ := hreadable.reviewer
    obtain ⟨sourceVersion, hsourceVersion⟩ := hreadable.sourceVersion
    obtain ⟨url, sourceUrl, hurl, hsourceUrl⟩ := hreadable.sourceUrl
    have hpolicy : policyVersionField version = .ok version := policyVersionField_ok.2 ⟨rfl, hpos⟩
    simp only [readServiceRecord, hserviceId, hcanonical, hrepositories, haliases, howner,
      hcriticality, hclassification, hversion, hpublication, hreviewer, hsourceVersion, hurl,
      hsourceUrl, hdata, hpolicy, bind, Except.bind, pure, Except.pure]
    exact ⟨_, rfl⟩

/-- Where the authority to update is stated, an accepted payload is read exactly. -/
lemma readServiceRecord_exact (hstated : UpdatesStated payload)
    (hread : readServiceRecord payload = .ok record) : ReadsExactly payload record := by
  simp only [readServiceRecord, bind_eq_ok] at hread
  obtain ⟨serviceId, hserviceId, canonicalServiceId, hcanonical, repositories, hrepositories,
    aliases, haliases, owner, howner, criticality, hcriticality, classification,
    hclassification, version, hversion, publication, hpublication, reviewer, hreviewer,
    sourceVersion, hsourceVersion, url, hurl, sourceUrl, hsourceUrl, dataClassification,
    hdataClassification, policyVersion, hpolicyVersion, hread⟩ := hread
  obtain rfl := Except.ok.inj hread
  obtain ⟨rfl, hpos⟩ := policyVersionField_ok.1 hpolicyVersion
  refine ⟨boolValue_ok.1 hpublication, ?_, ⟨intValue_ok.1 hversion, hpos⟩,
    optionalStringValue_ok.1 howner, optionalStringValue_ok.1 hreviewer,
    ⟨sortedSet_sorted _, repositories, stringList_ok.1 hrepositories, fun repository => ?_⟩,
    ⟨classification, (stringValue_ok.1 hclassification).1,
      DataClassification.ofValue_ok.1 hdataClassification⟩,
    stringValue_ok.1 hserviceId, stringValue_ok.1 hcanonical,
    ⟨sortedSet_sorted _, aliases, stringList_ok.1 haliases, fun name => mem_sortedSet⟩,
    stringValue_ok.1 hcriticality, stringValue_ok.1 hsourceVersion,
    ⟨url, (stringValue_ok.1 hurl).1, hsourceUrl⟩⟩
  · rcases hstated with hnull | ⟨b, hbool⟩
    · right
      exact ⟨hnull, by rw [hnull]; rfl⟩
    · left
      rw [hbool]
      rfl
  · rw [mem_sortedSet, List.mem_map]

/-- A record says of its payload what stands there, and every other payload is refused with one
error, exactly when the authority to update is absent, null or a Boolean, or another field cannot
be read. -/
theorem normalization_exact_iff (payload : List (String × JsonValue)) :
    ((∀ record, normalizeServiceRecord payload = .ok record → ReadsExactly payload record) ∧
        ∀ x, normalizeServiceRecord payload = .error x → x = serviceCatalogContractError) ↔
      UpdatesStated payload ∨ ¬Readable payload := by
  constructor
  · rintro ⟨hexact, -⟩
    by_cases hreadable : Readable payload
    · left
      obtain ⟨record, hread⟩ := readServiceRecord_readable.2 hreadable
      rcases (hexact record (normalizeServiceRecord_ok.2 hread)).allowAutomaticUpdates with
        hbool | ⟨hnull, -⟩
      · exact .inr ⟨_, hbool⟩
      · exact .inl hnull
    · exact .inr hreadable
  · intro hcondition
    refine ⟨fun record hrecord => ?_, fun x hx => normalizeServiceRecord_error hx⟩
    have hread := normalizeServiceRecord_ok.1 hrecord
    rcases hcondition with hstated | hunreadable
    · exact readServiceRecord_exact hstated hread
    · exact absurd (readServiceRecord_readable.1 ⟨record, hread⟩) hunreadable

end Records

/-! ## A flag that is a text -/

namespace Sample

/-- The payload of a record whose authority to update is the text `false`. -/
def textFlagPayload : List (String × JsonValue) :=
  [("service_id", .str "payments"), ("canonical_service_id", .str "payments"),
    ("service_owner", .str "team"), ("criticality", .str "high"),
    ("repositories", .list [.str "Acme/Payments"]), ("classification", .str "internal"),
    ("policy_version", .int 3), ("auto_publish", .bool true),
    ("allow_automatic_updates", .str "false"), ("version", .str "v1"),
    ("url", .str "https://catalog.example/payments")]

attribute [local instance] asciiHost in
lemma normalize_textFlag : ((normalizeServiceRecord textFlagPayload).toOption.map
    fun record => record.allowAutomaticUpdates) = some true := by
  decide +kernel

end Sample

attribute [local instance] Sample.asciiHost in
open Sample in
/-- The text `false` grants the authority to update. -/
theorem text_flag_grants_updates :
    ¬((∀ record, normalizeServiceRecord textFlagPayload = .ok record →
          ReadsExactly textFlagPayload record) ∧
        ∀ x, normalizeServiceRecord textFlagPayload = .error x →
          x = serviceCatalogContractError) := by
  rintro ⟨hexact, -⟩
  have hgrants := normalize_textFlag
  cases hread : normalizeServiceRecord textFlagPayload with
  | error x =>
    rw [hread] at hgrants
    cases hgrants
  | ok record =>
    rcases (hexact record hread).allowAutomaticUpdates with hbool | ⟨hnull, -⟩
    · cases hbool
    · cases hnull

end DeploymentLab
