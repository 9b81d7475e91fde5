import DeploymentLab.Model.Http

/-!
# The Slack client

`SlackClient` verifies the identity behind its token before it posts, and remembers it for a while.
A call is taken in two: up to the request it sends, and from the answer on. Between the two, and
between calls, the token may be rotated and the expected principal changed.
-/

namespace DeploymentLab

/-- `_retry_after`. -/
def slackRetryAfter [ResponseReader] (headers : List (String × String)) (maximum : PyFloat) :
    Option PyFloat :=
  match headers.lookup "retry-after" with
  | none => none
  | some value => (ResponseReader.float value).map fun value =>
      pyMin (pyMax value (.finite 0)) maximum

def slackApiError (payload : List (String × JsonValue)) (identity : Bool) : ProviderExn :=
  let error := match payload.lookup "error" with
    | some (.str error) => error
    | _ => "unknown_error"
  if error = "ratelimited" then .slackRetryableFailure "slack_rate_limited" none
  else if identity then .slackPermanentFailure "slack_auth_rejected"
  else
    let safeCodes := [("invalid_auth", "slack_auth_rejected"),
      ("not_authed", "slack_auth_rejected"), ("token_revoked", "slack_auth_rejected"),
      ("missing_scope", "slack_missing_scope"), ("channel_not_found", "slack_channel_not_found"),
      ("not_in_channel", "slack_bot_not_in_channel"), ("is_archived", "slack_channel_archived"),
      ("restricted_action", "slack_restricted_action")]
    .slackPermanentFailure ((safeCodes.lookup error).getD "slack_write_rejected")

structure SlackIdentity where
  teamId : String
  userId : String
  botId : Option String
  deriving DecidableEq

/-- `_required_string`, where `none` is a `ValueError`. -/
def slackRequiredString (payload : List (String × JsonValue)) (key : String) : Option String :=
  match payload.lookup key with
  | some (.str value) => if value = "" then none else some value
  | _ => none

def slackOptionalString (payload : List (String × JsonValue)) (key : String) :
    Option (Option String) :=
  match payload.lookup key with
  | none | some .null => some none
  | some (.str value) => if value = "" then none else some (some value)
  | _ => none

def slackIdentity (payload : List (String × JsonValue)) : Option SlackIdentity := do
  let teamId ← slackRequiredString payload "team_id"
  let userId ← slackRequiredString payload "user_id"
  let botId ← slackOptionalString payload "bot_id"
  if identifierLength teamId && identifierLength userId && botId.all identifierLength then
    pure { teamId, userId, botId }
  else none

structure SlackIdentityCache where
  credentialFingerprint : Digest
  expectedTeamId : Option String
  expectedUserId : Option String
  expectedBotId : Option String
  verifiedUntil : ℚ
  deriving DecidableEq

def identityCacheSeconds : ℚ := 300

/-- What `get_secret` does: fail with an `OSError` or a `ValueError`, or answer. -/
inductive CredentialReading
  | failed
  | secret (token : Option String)
  deriving DecidableEq

structure SlackClient where
  http : IntegrationHttpClient
  maximumRetryAfter : PyFloat
  expectedTeamId : Option String
  expectedUserId : Option String
  expectedBotId : Option String
  identityCache : Option SlackIdentityCache := none

namespace SlackClient

variable (client : SlackClient)

def currentCredential [Runtime] : CredentialReading → Except ProviderExn (String × Digest)
  | .failed | .secret none => .error (.slackPermanentFailure "slack_credential_missing")
  | .secret (some token) =>
    if token = "" then .error (.slackPermanentFailure "slack_credential_missing")
    else .ok (token, Runtime.sha256 token)

def cacheAuthorizes (now : ℚ) (credentialFingerprint : Digest) : Bool :=
  match client.identityCache with
  | none => false
  | some cache =>
    decide (now < cache.verifiedUntil) &&
      credentialFingerprint == cache.credentialFingerprint &&
      client.expectedTeamId == cache.expectedTeamId &&
      client.expectedUserId == cache.expectedUserId &&
      client.expectedBotId == cache.expectedBotId

def classifyReadResponse [ResponseReader] (statusCode : ℕ) (headers : List (String × String)) :
    Except ProviderExn Unit :=
  if successful statusCode then .ok ()
  else if statusCode = 429 then
    .error (.slackRetryableFailure "slack_rate_limited"
      (slackRetryAfter headers client.maximumRetryAfter))
  else if statusCode ∈ [408, 500, 502, 503, 504] then
    .error (.slackRetryableFailure "slack_identity_unavailable" none)
  else if statusCode ∈ [401, 403] then .error (.slackPermanentFailure "slack_auth_rejected")
  else .error (.slackPermanentFailure "slack_identity_rejected")

/-- `verify_identity` up to its request: the token to send and its fingerprint, or nothing where
the identity is known. -/
def beginVerification [Runtime] (reading : CredentialReading) (now : ℚ) :
    Except ProviderExn (Option (String × Digest)) := do
  let (token, credentialFingerprint) ← currentCredential reading
  if client.cacheAuthorizes now credentialFingerprint then pure none
  else pure (some (token, credentialFingerprint))

def expects (identity : SlackIdentity) : Bool :=
  some identity.teamId == client.expectedTeamId && some identity.userId == client.expectedUserId &&
    (client.expectedBotId == none || identity.botId == client.expectedBotId)

/-- What `verify_identity` reads in an answer: whether the identity is valid. -/
def readVerification [ResponseReader] :
    Except HttpExn JsonHttpResponse → Except ProviderExn Bool
  | .error .retryableHttpError => .error (.slackRetryableFailure "slack_identity_unavailable" none)
  | .error .providerContractError | .error .responseTooLargeError =>
    .error (.slackPermanentFailure "slack_auth_malformed")
  | .error error => .error (.http error)
  | .ok response => do
    client.classifyReadResponse response.statusCode response.headers
    match response.payload with
    | .dict payload =>
      if payload.lookup "ok" ≠ some (.bool true) then throw (slackApiError payload true)
      match slackIdentity payload with
      | none => throw (.slackPermanentFailure "slack_auth_malformed")
      | some identity => pure (client.expects identity)
    | _ => throw (.slackPermanentFailure "slack_auth_malformed")

/-- `verify_identity` from the answer on. -/
def endVerification [ResponseReader] (credentialFingerprint : Digest)
    (answer : Except HttpExn JsonHttpResponse) (now : ℚ) :
    Except ProviderExn Bool × SlackClient :=
  match client.readVerification answer with
  | .error x => (.error x, client)
  | .ok true =>
    (.ok true, { client with
      identityCache := some {
        credentialFingerprint
        expectedTeamId := client.expectedTeamId
        expectedUserId := client.expectedUserId
        expectedBotId := client.expectedBotId
        verifiedUntil := now + identityCacheSeconds } })
  | .ok false => (.ok false, { client with identityCache := none })

/-- `post_notification` up to its request: the token to send. -/
def beginPost [Runtime] (reading : CredentialReading) (now : ℚ) : Except ProviderExn String := do
  let (token, credentialFingerprint) ← currentCredential reading
  if client.cacheAuthorizes now credentialFingerprint then pure token
  else throw (.slackRetryableFailure "slack_identity_verification_required" none)

/-- `post_notification` from the answer on. -/
def endPost [ResponseReader] (request : SlackMessageRequest) :
    Except HttpExn JsonHttpResponse → Except ProviderExn SlackMessageReceipt
  | .error .ambiguousWriteError => .error (.slackOutcomeUnknown "slack_write_outcome_unknown")
  | .error .retryableHttpError =>
    .error (.slackRetryableFailure "slack_write_pretransmission_failure" none)
  | .error .providerContractError | .error .responseTooLargeError =>
    .error (.slackOutcomeUnknown "slack_write_outcome_unknown")
  | .error error => .error (.http error)
  | .ok response =>
    if response.statusCode = 429 then
      .error (.slackRetryableFailure "slack_rate_limited"
        (slackRetryAfter response.headers client.maximumRetryAfter))
    else if response.statusCode ∈ [408, 500, 502, 503, 504] then
      .error (.slackOutcomeUnknown "slack_write_outcome_unknown")
    else if response.statusCode ∈ [401, 403] then
      .error (.slackPermanentFailure "slack_auth_rejected")
    else if successful response.statusCode = false then
      .error (.slackPermanentFailure "slack_write_rejected")
    else
      match response.payload with
      | .dict payload =>
        match payload.lookup "ok" with
        | some (.bool false) => .error (slackApiError payload false)
        | some (.bool true) =>
          match payload.lookup "channel", payload.lookup "ts" with
          | some (.str channel), some (.str timestamp) =>
            if h : channel = request.channel ∧ messageTimestampPattern timestamp = true then
              .ok ⟨channel, timestamp, h.1 ▸ request.channel_pattern, h.2⟩
            else .error (.slackOutcomeUnknown "slack_write_outcome_unknown")
          | _, _ => .error (.slackOutcomeUnknown "slack_write_outcome_unknown")
        | _ => .error (.slackOutcomeUnknown "slack_write_outcome_unknown")
      | _ => .error (.slackOutcomeUnknown "slack_write_outcome_unknown")

end SlackClient

/-! ## Sessions -/

/-- What a client has received and sent: an answer to `auth.test`, with the token that it was asked
for, and a `chat.postMessage` request, with its token and the principal expected when it is sent. -/
inductive SlackEvent
  | answered (token : String) (answer : Except HttpExn JsonHttpResponse) (now : ℚ)
  | posted (token : String) (team user bot : Option String) (now : ℚ)

/-- What happens next: the secret or the expected principal is changed, a verification begins, the
`i`-th of those that wait has its answer, or a notification is posted. -/
inductive SlackMove
  | rotate (secret : CredentialReading)
  | expect (team user bot : Option String)
  | verify (now : ℚ)
  | answer (i : ℕ) (exchange : Exchange) (now : ℚ)
  | post (now : ℚ)

def CredentialReading.tokens : CredentialReading → List String
  | .secret (some token) => [token]
  | _ => []

def SlackMove.tokens : SlackMove → List String
  | .rotate secret => secret.tokens
  | _ => []

/-- A client in use, with the secret that it would read, the verifications that wait for an answer,
and its events, last first. Calls may overlap. The answer to a post leaves the client as it is. -/
structure SlackSession where
  client : SlackClient
  secret : CredentialReading
  verifying : List (String × Digest) := []
  log : List SlackEvent := []

namespace SlackSession

variable [Runtime] [ResponseReader]

def step (s : SlackSession) : SlackMove → SlackSession
  | .rotate secret => { s with secret }
  | .expect team user bot =>
    { s with
      client := { s.client with
        expectedTeamId := team
        expectedUserId := user
        expectedBotId := bot } }
  | .verify now =>
    match s.client.beginVerification s.secret now with
    | .ok (some request) => { s with verifying := s.verifying ++ [request] }
    | _ => s
  | .answer i exchange now =>
    match s.verifying[i]? with
    | none => s
    | some (token, credentialFingerprint) =>
      let answer := s.client.http.requestJson false exchange
      { s with
        client := (s.client.endVerification credentialFingerprint answer now).2
        verifying := s.verifying.eraseIdx i
        log := .answered token answer now :: s.log }
  | .post now =>
    match s.client.beginPost s.secret now with
    | .error _ => s
    | .ok token =>
      { s with
        log := .posted token s.client.expectedTeamId s.client.expectedUserId
          s.client.expectedBotId now :: s.log }

def run (s : SlackSession) (moves : List SlackMove) : SlackSession := moves.foldl step s

def initial (http : IntegrationHttpClient) (maximumRetryAfter : PyFloat)
    (team user bot : Option String) (secret : CredentialReading) : SlackSession where
  client := {
    http, maximumRetryAfter
    expectedTeamId := team
    expectedUserId := user
    expectedBotId := bot }
  secret

end SlackSession

end DeploymentLab
