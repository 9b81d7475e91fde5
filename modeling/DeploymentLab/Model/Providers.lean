import DeploymentLab.Model.Persistence

/-!
# What the providers exchange with the workflow

The records that the connectors return and the requests and receipts of the Slack notifier.
-/

namespace DeploymentLab

/-- A date and time as `datetime` holds it, with its offset from UTC when it has one. -/
structure Datetime where
  year : ℕ
  month : ℕ
  day : ℕ
  hour : ℕ := 0
  minute : ℕ := 0
  second : ℕ := 0
  microsecond : ℕ := 0
  utcoffset : Option Duration := some 0
  deriving DecidableEq, Repr

def zeroPadded (width n : ℕ) : String :=
  let digits := (toString n).toList
  String.ofList (List.replicate (width - digits.length) '0' ++ digits)

namespace Datetime

def localIsoformat (t : Datetime) : String :=
  zeroPadded 4 t.year ++ "-" ++ zeroPadded 2 t.month ++ "-" ++ zeroPadded 2 t.day ++ "T" ++
    zeroPadded 2 t.hour ++ ":" ++ zeroPadded 2 t.minute ++ ":" ++ zeroPadded 2 t.second ++
    if t.microsecond = 0 then "" else "." ++ zeroPadded 6 t.microsecond

def offsetIsoformat (offset : Duration) : String :=
  let micros := offset.natAbs
  let seconds := micros / 1000000
  (if offset < 0 then "-" else "+") ++ zeroPadded 2 (seconds / 3600) ++ ":" ++
    zeroPadded 2 (seconds / 60 % 60) ++
    (if micros % 60000000 = 0 then "" else ":" ++ zeroPadded 2 (seconds % 60)) ++
    if micros % 1000000 = 0 then "" else "." ++ zeroPadded 6 (micros % 1000000)

/-- `datetime.isoformat`. -/
def isoformat (t : Datetime) : String :=
  t.localIsoformat ++ (t.utcoffset.map offsetIsoformat).getD ""

/-- A date and time in `model_dump(mode="json")`, where UTC is written `Z`. -/
def modelDump (t : Datetime) : String :=
  t.localIsoformat ++ match t.utcoffset with
    | none => ""
    | some offset => if offset = 0 then "Z" else offsetIsoformat offset

end Datetime

structure GitHubComment where
  identifier : String
  body : String
  url : String
  updatedAt : Datetime
  deriving DecidableEq, Repr

structure CommentSearchResult where
  comments : List GitHubComment
  complete : Bool
  deriving DecidableEq, Repr

structure GitHubRepositoryContext where
  fullName : String
  repositoryId : ℤ
  «visibility» : String
  archived : Bool
  defaultBranch : String
  defaultBranchHeadSha : String
  issueNumber : ℤ
  issueState : String
  issueTitle : String
  isPullRequest : Bool
  sourceUrl : String
  sourceVersion : String
  deriving DecidableEq, Repr

structure JiraWorkItem where
  key : String
  title : String
  normalizedDescriptionText : String
  status : String
  priority : Option String
  labels : List String
  assigneeIdentifier : Option String
  updatedAt : Datetime
  sourceUrl : String
  sourceVersion : String
  deriving DecidableEq, Repr

structure ServiceCatalogRecord where
  serviceId : String
  canonicalServiceId : String
  aliases : List String
  serviceOwner : Option String
  criticality : String
  approvedRepositories : List String
  dataClassification : DataClassification
  deploymentPolicyVersion : ℤ
  automaticPublicationAllowed : Bool
  requiredReviewer : Option String
  allowAutomaticUpdates : Bool
  sourceVersion : String
  sourceUrl : String
  deriving DecidableEq, Repr

/-- `^[CG][A-Z0-9]{8,30}$` -/
def slackChannelPattern (s : String) : Bool :=
  match s.toList with
  | [] => false
  | c :: cs => (c == 'C' || c == 'G') && decide (8 ≤ cs.length ∧ cs.length ≤ 30) &&
      cs.all fun c => c.isUpper || c.isDigit

/-- `^[0-9]{1,20}\.[0-9]{1,12}$` -/
def messageTimestampPattern (s : String) : Bool :=
  let (whole, found, fraction) := partitionAt '.' s.toList
  found && decide (1 ≤ whole.length ∧ whole.length ≤ 20) && whole.all Char.isDigit &&
    decide (1 ≤ fraction.length ∧ fraction.length ≤ 12) && fraction.all Char.isDigit

structure SlackMessageRequest where
  channel : String
  text : String
  mrkdwn : Bool := true
  unfurlLinks : Bool := false
  unfurlMedia : Bool := false
  channel_pattern : slackChannelPattern channel = true
  text_length : 1 ≤ text.length ∧ text.length ≤ 4000
  deriving DecidableEq

structure SlackMessageReceipt where
  channel : String
  timestamp : String
  channel_pattern : slackChannelPattern channel = true
  timestamp_pattern : messageTimestampPattern timestamp = true
  deriving DecidableEq

/-- `SlackMessageRequest(channel=..., text=...)`, which a `ValidationError` may refuse. -/
def SlackMessageRequest.validate (channel text : String) : Except Exn SlackMessageRequest :=
  if hc : slackChannelPattern channel = true then
    if ht : 1 ≤ text.length ∧ text.length ≤ 4000 then
      .ok { channel, text, channel_pattern := hc, text_length := ht }
    else .error (.valueError "SlackMessageRequest.text")
  else .error (.valueError "SlackMessageRequest.channel")

lemma SlackMessageRequest.validate_ok {channel text : String}
    (hc : slackChannelPattern channel = true) (ht : 1 ≤ text.length ∧ text.length ≤ 4000) :
    validate channel text =
      .ok { channel, text, channel_pattern := hc, text_length := ht } := by
  rw [validate, dif_pos hc, dif_pos ht]

def SlackMessageRequest.providerPayload (request : SlackMessageRequest) : JsonValue :=
  .dict [("channel", .str request.channel), ("text", .str request.text),
    ("mrkdwn", .bool request.mrkdwn), ("unfurl_links", .bool request.unfurlLinks),
    ("unfurl_media", .bool request.unfurlMedia)]

def SlackMessageReceipt.providerResourceIdentifier (receipt : SlackMessageReceipt) : String :=
  receipt.channel ++ ":" ++ receipt.timestamp

example : (⟨2024, 5, 6, 7, 8, 9, 0, some (-5400000000)⟩ : Datetime).isoformat =
    "2024-05-06T07:08:09-01:30" := by decide

end DeploymentLab
