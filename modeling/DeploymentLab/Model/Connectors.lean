import DeploymentLab.Model.Providers

/-!
# The comments of an issue as the connector reads them

`GitHubClient` turns the JSON of GitHub's comments into the records that the workflow reads. The
responses themselves, with the statuses that stand for a missing comment already told apart, are
arguments.
-/

namespace DeploymentLab

/-- `datetime.fromisoformat`, where `none` is a `ValueError`. -/
class Calendar where
  fromisoformat : String → Option Datetime

def maxProviderActionUrlChars : ℕ := 2000

def maxProviderActionFragmentChars : ℕ := 255

/-- `^[A-Za-z0-9._~:-]*$` -/
def safeProviderActionFragment (fragment : String) : Bool :=
  fragment.toList.all fun c =>
    c.isAlphanum || c == '.' || c == '_' || c == '~' || c == ':' || c == '-'

/-- The URL of a comment without its query, with its fragment. -/
def providerActionUrl [Runtime] (value : String) : Except Exn String := do
  if maxProviderActionUrlChars < value.length ∨
      value.toList.any fun c => decide (c.toNat < 32) || c.toNat == 127 then
    throw (.valueError "provider action URL is invalid")
  let parsed ← urlsplit value
  if (parsed.scheme ≠ "http" ∧ parsed.scheme ≠ "https") ∨ parsed.hostname = none ∨
      parsed.netloc.toList.contains '@' ∨
      maxProviderActionFragmentChars < parsed.fragment.length ∨
      safeProviderActionFragment parsed.fragment = false then
    throw (.valueError "provider action URL must be safe absolute HTTP(S)")
  let sanitized := urlunsplit parsed.scheme parsed.netloc parsed.path ++
    if parsed.fragment = "" then "" else "#" ++ parsed.fragment
  if maxProviderActionUrlChars < sanitized.length then
    throw (.valueError "provider action URL exceeds its size limit")
  pure sanitized

/-- `_object_payload`. -/
def objectPayload : JsonValue → Except Exn (List (String × JsonValue))
  | .dict members => .ok members
  | _ => .error (.permanentProviderError "provider_contract_error")

/-- `_required_string`. -/
def requiredString (value : List (String × JsonValue)) (name : String) : Except Exn String :=
  match value.lookup name with
  | some (.str item) => if item = "" then .error (.valueError name) else .ok item
  | _ => .error (.valueError name)

/-- `_required_int`. -/
def requiredInt (value : List (String × JsonValue)) (name : String) : Except Exn ℤ :=
  match value.lookup name with
  | some (.int item) => .ok item
  | _ => .error (.valueError name)

section Comments

variable [Runtime] [Calendar]

/-- The comment of a payload, or the error by which the payload is not one. -/
def readComment (payload : JsonValue) : Except Exn GitHubComment := do
  let value ← objectPayload payload
  let identifier ← requiredInt value "id"
  let body ← requiredString value "body"
  let htmlUrl ← requiredString value "html_url"
  let url ← providerActionUrl htmlUrl
  let updatedAt ← requiredString value "updated_at"
  match Calendar.fromisoformat updatedAt with
  | some updatedAt => pure { identifier := toString identifier, body, url, updatedAt }
  | none => throw (.valueError "Invalid isoformat string")

/-- `_normalize_comment`. -/
def normalizeComment (payload : JsonValue) (ambiguousOnFailure : Bool) :
    Except Exn GitHubComment :=
  match readComment payload with
  | .ok comment => .ok comment
  | .error _ =>
    if ambiguousOnFailure then .error (.providerWriteOutcomeUnknown "github_write_outcome_unknown")
    else .error (.permanentProviderError "github_contract_error")

structure GitHubClient where
  expectedLogin : Option String
  maxPages : ℕ
  maxItems : ℕ

namespace GitHubClient

variable (client : GitHubClient)

omit [Calendar] in
/-- `verify_identity`, given what GitHub says of the user. -/
def verifyIdentity (payload : JsonValue) : Except Exn Bool :=
  match objectPayload payload >>= fun value => requiredString value "login" with
  | .error _ => .error (.permanentProviderError "github_contract_error")
  | .ok login =>
    match client.expectedLogin with
    | none => .ok false
    | some expectedLogin => .ok (Runtime.casefold login == Runtime.casefold expectedLogin)

/-- `get_comment`, given the response, which is `none` where there is no such comment. -/
def getComment (response : Option JsonValue) : Except Exn (Option GitHubComment) :=
  match response with
  | none => .ok none
  | some payload => (normalizeComment payload false).map some

section Search

variable {m : Type → Type} [Monad m] [MonadExceptOf Exn m] (read : ℕ → m JsonValue)
  (marker : String)

/-- The pages from `page` on, of which there are `remaining` at most, after `seen` comments. -/
def searchPages : (remaining page seen : ℕ) → List GitHubComment → m CommentSearchResult
  | 0, _, _, found => pure ⟨found, true⟩
  | remaining + 1, page, seen, found => do
    match ← read page with
    | .list items =>
      match items.mapM fun item => normalizeComment item false with
      | .error x => throw x
      | .ok comments =>
        let seen := seen + comments.length
        let found := found ++ comments.filter fun comment => substring marker comment.body
        if comments.length < 100 then pure ⟨found, true⟩
        else if page = client.maxPages ∨ client.maxItems ≤ seen then pure ⟨found, false⟩
        else searchPages remaining (page + 1) seen found
    | _ => throw (.permanentProviderError "github_contract_error")

/-- `find_comments_by_marker`, given how a page of the comments is read. -/
def findCommentsByMarker : m CommentSearchResult :=
  client.searchPages read marker client.maxPages 1 0 []

end Search

end GitHubClient

end Comments

/-- Page `page` of a list that is served a hundred items at a time. -/
def servedPage (payloads : List JsonValue) (page : ℕ) : JsonValue :=
  .list ((payloads.drop (100 * (page - 1))).take 100)

/-! ## The comments that GitHub holds -/

structure IssueComment where
  id : ℤ
  author : String
  body : String
  htmlUrl : String
  updatedAt : String
  deriving DecidableEq, Repr

/-- The JSON of a user. -/
def userPayload (login : String) : JsonValue := .dict [("login", .str login)]

/-- The JSON of a comment. -/
def IssueComment.payload (comment : IssueComment) : JsonValue :=
  .dict [("id", .int comment.id), ("user", userPayload comment.author),
    ("body", .str comment.body), ("html_url", .str comment.htmlUrl),
    ("updated_at", .str comment.updatedAt)]

/-- The comments of an issue, as GitHub lists them. -/
structure IssueComments where
  comments : List IssueComment
  nodup : (comments.map (·.id)).Nodup

namespace IssueComments

variable (issue : IssueComments)

/-- Page `page` of the comments. -/
def page (page : ℕ) : JsonValue :=
  .list (((issue.comments.drop (100 * (page - 1))).take 100).map (·.payload))

/-- A read of a page that nothing goes wrong with. -/
def read (page : ℕ) : Except Exn JsonValue := .ok (issue.page page)

/-- The comment with the identifier. -/
def comment (identifier : String) : Option IssueComment :=
  issue.comments.find? fun comment => toString comment.id == identifier

end IssueComments

section Payload

variable [Runtime] [Calendar] {comment : IssueComment} {read : GitHubComment}

omit [Runtime] [Calendar] in
lemma requiredString_ok {value : List (String × JsonValue)} {name item s : String}
    (hlookup : value.lookup name = some (.str item)) (h : requiredString value name = .ok s) :
    s = item := by
  rw [requiredString, hlookup] at h
  dsimp only at h
  split at h
  · cases h
  · exact (Except.ok.inj h).symm

omit [Runtime] [Calendar] in
lemma requiredString_of_lookup {value : List (String × JsonValue)} {name item : String}
    (hlookup : value.lookup name = some (.str item)) (hne : item ≠ "") :
    requiredString value name = .ok item := by
  rw [requiredString, hlookup]
  exact if_neg hne

/-- What is read of a comment names it and has its body, whoever wrote it. -/
lemma readComment_payload (h : readComment comment.payload = .ok read) :
    read.identifier = toString comment.id ∧ read.body = comment.body := by
  simp only [readComment, bind_eq_ok] at h
  obtain ⟨value, hvalue, identifier, hid, body, hbody, htmlUrl, -, url, -, updatedAt, -, h⟩ := h
  obtain rfl := Except.ok.inj hvalue
  have hidentifier : identifier = comment.id := (Except.ok.inj hid).symm
  have hbody' : body = comment.body := requiredString_ok rfl hbody
  split at h
  · obtain rfl := Except.ok.inj h
    exact ⟨by rw [hidentifier], hbody'⟩
  · cases h

/-- A comment with a body, a safe URL and a time is read. -/
lemma normalizeComment_of {url : String} {updatedAt : Datetime} {ambiguousOnFailure : Bool}
    (hbody : comment.body ≠ "") (hhtmlUrl : comment.htmlUrl ≠ "")
    (hurl : providerActionUrl comment.htmlUrl = .ok url) (hstamp : comment.updatedAt ≠ "")
    (hupdatedAt : Calendar.fromisoformat comment.updatedAt = some updatedAt) :
    normalizeComment comment.payload ambiguousOnFailure =
      .ok ⟨toString comment.id, comment.body, url, updatedAt⟩ := by
  have hread : readComment comment.payload =
      .ok ⟨toString comment.id, comment.body, url, updatedAt⟩ := by
    simp only [readComment, bind_eq_ok]
    refine ⟨_, rfl, comment.id, rfl, _, requiredString_of_lookup rfl hbody, _,
      requiredString_of_lookup rfl hhtmlUrl, url, hurl, _, requiredString_of_lookup rfl hstamp, ?_⟩
    rw [hupdatedAt]
    rfl
  rw [normalizeComment, hread]

lemma normalizeComment_payload {ambiguousOnFailure : Bool}
    (h : normalizeComment comment.payload ambiguousOnFailure = .ok read) :
    read.identifier = toString comment.id ∧ read.body = comment.body := by
  unfold normalizeComment at h
  split at h
  · rename_i accepted haccepted
    obtain rfl := Except.ok.inj h
    exact readComment_payload haccepted
  · split at h
    · cases h
    · cases h

end Payload

end DeploymentLab
