import Mathlib.Data.Rat.Defs
import DeploymentLab.Model.Config
import DeploymentLab.Model.Connectors

/-!
# Requests and what comes of them

`IntegrationHttpClient.request_json` and the writes of `GitHubClient` over it. What httpx2 does with
a request is an argument: the chunks of a body that arrive, and then a complete response or an
error.
-/

namespace DeploymentLab

/-- A `float`, with exact arithmetic on the finite ones. -/
inductive PyFloat
  | nan
  | negativeInfinity
  | finite (value : ℚ)
  | positiveInfinity
  deriving DecidableEq

/-- `a < b`, which is false wherever NaN is compared. -/
def PyFloat.less : PyFloat → PyFloat → Bool
  | .finite a, .finite b => decide (a < b)
  | .negativeInfinity, .finite _ | .negativeInfinity, .positiveInfinity
  | .finite _, .positiveInfinity => true
  | _, _ => false

/-- `min(a, b)`: the first unless the second is less. -/
def pyMin (a b : PyFloat) : PyFloat := if b.less a then b else a

/-- `max(a, b)`: the first unless the second is greater. -/
def pyMax (a b : PyFloat) : PyFloat := if a.less b then b else a

inductive RequestError
  | connectError | connectTimeout | poolTimeout
  | readError | readTimeout | writeError | writeTimeout | closeError
  | remoteProtocolError | localProtocolError
  | proxyError | unsupportedProtocol | decodingError
  deriving DecidableEq

inductive Ending
  | raised (error : RequestError)
  | complete (statusCode : ℕ) (headers : List (String × String))

/-- What comes of a request: the chunks of the body as they arrive, and how it ends. -/
structure Exchange where
  chunks : List (List UInt8) := []
  ending : Ending

/-- What `json.loads` may raise beside `JSONDecodeError` and `UnicodeDecodeError`. -/
inductive LoadsError
  | valueError | recursionError
  deriving DecidableEq

inductive Loaded
  | value (payload : JsonValue)
  | malformed
  | raised (error : LoadsError)

/-- What the standard library reads in the bytes and the texts of a response: `json.loads`, and
`float`, where `none` is a `ValueError`. -/
class ResponseReader where
  loads : List UInt8 → Loaded
  float : String → Option PyFloat

structure JsonHttpResponse where
  statusCode : ℕ
  headers : List (String × String)
  payload : JsonValue

/-- What leaves `request_json`: its own errors, and those that it does not catch. -/
inductive HttpExn
  | retryableHttpError | providerContractError | responseTooLargeError | ambiguousWriteError
  | request (error : RequestError)
  | loads (error : LoadsError)
  deriving DecidableEq

section Responses

variable [Runtime]

def strip (s : String) : String :=
  String.ofList ((s.toList.dropWhile isSpace).reverse.dropWhile isSpace).reverse

def isJsonContentType (value : String) : Bool :=
  let mediaType := Runtime.casefold (strip (String.ofList (partitionAt ';' value.toList).1))
  mediaType == "application/json" || decide ("+json".toList <:+ mediaType.toList)

def successful (statusCode : ℕ) : Bool := decide (200 ≤ statusCode ∧ statusCode < 300)

/-- The body of the chunks after `body`, or `none` once it is too large. -/
def readBody (maximumBytes : ℕ) (body : List UInt8) : List (List UInt8) → Option (List UInt8)
  | [] => some body
  | chunk :: chunks =>
    if maximumBytes < (body ++ chunk).length then none
    else readBody maximumBytes (body ++ chunk) chunks

def RequestError.handled (write : Bool) : RequestError → HttpExn
  | .connectError | .connectTimeout | .poolTimeout => .retryableHttpError
  | .readError | .readTimeout | .remoteProtocolError | .writeError | .writeTimeout =>
    if write then .ambiguousWriteError else .retryableHttpError
  | error => .request error

structure IntegrationHttpClient where
  maximumBytes : ℕ

def IntegrationHttpClient.requestJson [ResponseReader] (http : IntegrationHttpClient)
    (write : Bool) (exchange : Exchange) : Except HttpExn JsonHttpResponse :=
  match readBody http.maximumBytes [] exchange.chunks with
  | none => .error (if write then .ambiguousWriteError else .responseTooLargeError)
  | some body =>
    match exchange.ending with
    | .raised error => .error (error.handled write)
    | .complete statusCode headers =>
      -- A later header of the same name takes the place of an earlier one.
      let headers := (headers.map fun header => (Runtime.lower header.1, header.2)).reverse
      if successful statusCode = false ∨ body = [] then .ok ⟨statusCode, headers, .null⟩
      else if isJsonContentType ((headers.lookup "content-type").getD "") = false then
        .error (if write then .ambiguousWriteError else .providerContractError)
      else
        match ResponseReader.loads body with
        | .value payload => .ok ⟨statusCode, headers, payload⟩
        | .malformed => .error (if write then .ambiguousWriteError else .providerContractError)
        | .raised error => .error (.loads error)

end Responses

/-! ## Writes to GitHub -/

/-- What leaves a connector: its own errors, with the seconds to wait where a header says so, those
of the client below that it does not catch, and any other. -/
inductive ProviderExn
  | retryableProviderError (errorCode : String) (retryAfterSeconds : Option PyFloat)
  | permanentProviderError (errorCode : String)
  | providerWriteOutcomeUnknown (errorCode : String)
  | slackRetryableFailure (errorCode : String) (retryAfterSeconds : Option PyFloat)
  | slackPermanentFailure (errorCode : String)
  | slackOutcomeUnknown (errorCode : String)
  | http (error : HttpExn)
  | other (x : Exn)
  deriving DecidableEq

def ProviderExn.ofExn : Exn → ProviderExn
  | .permanentProviderError errorCode => .permanentProviderError errorCode
  | .providerWriteOutcomeUnknown errorCode => .providerWriteOutcomeUnknown errorCode
  | x => .other x

/-- `connectors._retry_after`. -/
def retryAfter [ResponseReader] (headers : List (String × String)) (maximum : PyFloat) :
    Option PyFloat :=
  match headers.lookup "retry-after" with
  | none => none
  | some raw => (ResponseReader.float raw).map fun value =>
      pyMin maximum (pyMax (.finite 0) value)

def classifyRead [ResponseReader] (maxRetryAfter : PyFloat) (notFound : String)
    (response : JsonHttpResponse) : Except ProviderExn Unit :=
  if successful response.statusCode then .ok ()
  else if response.statusCode = 404 then .error (.permanentProviderError notFound)
  else if response.statusCode ∈ [408, 429, 500, 502, 503, 504] then
    .error (.retryableProviderError "provider_read_retryable"
      (retryAfter response.headers maxRetryAfter))
  else if response.statusCode ∈ [401, 403] then
    .error (.permanentProviderError "provider_identity_rejected")
  else .error (.permanentProviderError "provider_read_rejected")

structure GitHubWriter where
  http : IntegrationHttpClient
  maxRetryAfter : PyFloat

namespace GitHubWriter

variable [Runtime] [ResponseReader] (client : GitHubWriter)

def write (exchange : Exchange) : Except ProviderExn JsonHttpResponse :=
  match client.http.requestJson true exchange with
  | .error .ambiguousWriteError =>
    .error (.providerWriteOutcomeUnknown "github_write_outcome_unknown")
  | .error .retryableHttpError =>
    .error (.retryableProviderError "github_write_pretransmission_failure" none)
  | .error .providerContractError | .error .responseTooLargeError =>
    .error (.providerWriteOutcomeUnknown "github_write_outcome_unknown")
  | .error error => .error (.http error)
  | .ok response =>
    if successful response.statusCode then
      if response.payload = .null then
        .error (.providerWriteOutcomeUnknown "github_write_outcome_unknown")
      else .ok response
    else if response.statusCode = 429 then
      .error (.retryableProviderError "github_rate_limited"
        (retryAfter response.headers client.maxRetryAfter))
    else if response.statusCode = 408 then
      .error (.providerWriteOutcomeUnknown "github_write_outcome_unknown")
    else if response.statusCode ∈ [500, 502, 503, 504] then
      .error (.providerWriteOutcomeUnknown "github_write_outcome_unknown")
    else if response.statusCode ∈ [401, 403] then
      .error (.permanentProviderError "github_write_forbidden")
    else if response.statusCode = 404 then
      .error (.permanentProviderError "github_write_target_not_found")
    else .error (.permanentProviderError "github_write_rejected")

def commentWritten [Calendar] (exchange : Exchange) : Except ProviderExn GitHubComment :=
  match client.write exchange with
  | .error x => .error x
  | .ok response =>
    match normalizeComment response.payload true with
    | .ok comment => .ok comment
    | .error x => .error (.ofExn x)

def createComment [Calendar] (exchange : Exchange) : Except ProviderExn GitHubComment :=
  client.commentWritten exchange

def updateComment [Calendar] (exchange : Exchange) : Except ProviderExn GitHubComment :=
  client.commentWritten exchange

end GitHubWriter

end DeploymentLab
