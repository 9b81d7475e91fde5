import DeploymentLab.Model.Connectors

/-!
# The records of the service catalog as the connector reads them

`_normalize_service_record` accepts up to three spellings of a field and takes the first that is
not null. Every value that it refuses is one and the same error.
-/

namespace DeploymentLab

/-- `first(*names)`: the first of the members that is not null. -/
def firstNonNull (payload : List (String × JsonValue)) : List String → JsonValue
  | [] => .null
  | name :: names =>
    match payload.lookup name with
    | none | some .null => firstNonNull payload names
    | some value => value

/-! ## Values of one type -/

def stringItem : JsonValue → Except Exn String
  | .str item => .ok item
  | _ => .error (.valueError "expected a string list")

def stringList : JsonValue → Except Exn (List String)
  | .null => .ok []
  | .list items => items.mapM stringItem
  | _ => .error (.valueError "expected a string list")

def stringValue : JsonValue → Except Exn String
  | .str value => if value = "" then .error (.valueError "expected non-empty string") else .ok value
  | _ => .error (.valueError "expected non-empty string")

/-- `_optional_string`. -/
def optionalStringValue : JsonValue → Except Exn (Option String)
  | .null => .ok none
  | value => (stringValue value).map some

def intValue : JsonValue → Except Exn ℤ
  | .int value => .ok value
  | _ => .error (.valueError "expected integer")

def boolValue : JsonValue → Except Exn Bool
  | .bool value => .ok value
  | _ => .error (.valueError "expected boolean")

/-- `bool(value or False)`: whether the value counts as true. -/
def JsonValue.truthy : JsonValue → Bool
  | .null => false
  | .bool value => value
  | .int value => value != 0
  | .float repr => repr != "0.0" && repr != "-0.0"
  | .str value => value != ""
  | .list items => !items.isEmpty
  | .dict members => !members.isEmpty

def DataClassification.ofValue (value : String) : Except Exn DataClassification :=
  match [.«public», .internal, .confidential, .restricted].find? fun
      c : DataClassification => c.value == value with
  | some classification => .ok classification
  | none => .error (.valueError "ServiceCatalogRecord.data_classification")

/-- `Field(ge=1)` of the policy version. -/
def policyVersionField (version : ℤ) : Except Exn ℤ :=
  if 1 ≤ version then .ok version
  else .error (.valueError "ServiceCatalogRecord.deployment_policy_version")

def sortedSet (items : List String) : List String := items.dedup.insertionSort (· ≤ ·)

section Records

variable [Runtime]

/-- The record of a payload, or the error by which the payload is not one. -/
def readServiceRecord (payload : List (String × JsonValue)) :
    Except Exn ServiceCatalogRecord := do
  let first := firstNonNull payload
  let serviceId ← stringValue (first ["service_id", "serviceId", "legacy_id"])
  let canonicalServiceId ←
    stringValue (first ["canonical_service_id", "canonicalId", "service_id"])
  let repositories ←
    stringList (first ["approved_repositories", "repositories", "repo_names"])
  let aliases ← stringList (first ["aliases", "legacy_ids"])
  let serviceOwner ← optionalStringValue (first ["service_owner", "owner", "owner_id"])
  let criticality ← stringValue (first ["criticality", "tier", "service_tier"])
  let classification ← stringValue (first ["data_classification", "classification"])
  let version ← intValue (first ["deployment_policy_version", "policy_version"])
  let automaticPublicationAllowed ←
    boolValue (first ["automatic_publication_allowed", "auto_publish"])
  let requiredReviewer ← optionalStringValue (first ["required_reviewer", "reviewer"])
  let allowAutomaticUpdates := (first ["allow_automatic_updates"]).truthy
  let sourceVersion ← stringValue (first ["source_version", "etag", "version"])
  let url ← stringValue (first ["source_url", "url"])
  let sourceUrl ← canonicalSourceUrl url
  let dataClassification ← DataClassification.ofValue (Runtime.casefold classification)
  let deploymentPolicyVersion ← policyVersionField version
  pure {
    serviceId, canonicalServiceId
    aliases := sortedSet aliases
    serviceOwner, criticality
    approvedRepositories := sortedSet (repositories.map Runtime.casefold)
    dataClassification, deploymentPolicyVersion, automaticPublicationAllowed, requiredReviewer
    allowAutomaticUpdates, sourceVersion, sourceUrl }

def serviceCatalogContractError : Exn := .permanentProviderError "service_catalog_contract_error"

def normalizeServiceRecord (payload : List (String × JsonValue)) :
    Except Exn ServiceCatalogRecord :=
  match readServiceRecord payload with
  | .ok record => .ok record
  | .error _ => .error serviceCatalogContractError

end Records

end DeploymentLab
