import DeploymentLab.Model.SlackClient
import DeploymentLab.Model.World

/-!
# What a write is taken to have done

A write that may have been applied has to be reported as one whose outcome is unknown. The client,
the connectors and the readers of the receipts each decide on a part of what may come of a request;
here it is told apart once, and each of them is compared with that.
-/

namespace DeploymentLab

/-- What has come of a request by the time it is given up. -/
inductive Reception
  | tooLarge
  | broken (error : RequestError)
  | refused (statusCode : ℕ)
  | unreadable
  | undecodable (error : LoadsError)
  | read (payload : JsonValue)

inductive WriteOutcome
  | success | notApplied | outcomeUnknown | unclassified
  deriving DecidableEq

def ProviderExn.outcome : ProviderExn → WriteOutcome
  | .retryableProviderError _ _ | .permanentProviderError _ => .notApplied
  | .slackRetryableFailure _ _ | .slackPermanentFailure _ => .notApplied
  | .providerWriteOutcomeUnknown _ | .slackOutcomeUnknown _ => .outcomeUnknown
  | .http _ | .other _ => .unclassified

/-- What both connectors make of an error of the client below. -/
def HttpExn.outcome : HttpExn → WriteOutcome
  | .retryableHttpError => .notApplied
  | .ambiguousWriteError | .providerContractError | .responseTooLargeError => .outcomeUnknown
  | .request _ | .loads _ => .unclassified

/-- What both connectors make of a status that is not a success. -/
def refusedOutcome (statusCode : ℕ) : WriteOutcome :=
  if statusCode ∈ [408, 500, 502, 503, 504] then .outcomeUnknown else .notApplied

def writeOutcome {α : Type} : Except ProviderExn α → WriteOutcome
  | .ok _ => .success
  | .error x => x.outcome

/-- A write is a success only with a receipt, and is known not to have been applied only where that
may be known. Otherwise its outcome is unknown. -/
structure Conservative (receipt known : Prop) (outcome : WriteOutcome) : Prop where
  success : outcome = .success → receipt
  notApplied : outcome = .notApplied → known
  unknown : ¬receipt → ¬known → outcome = .outcomeUnknown

namespace Conservative

variable {receipt known : Prop}

lemma outcomeUnknown : Conservative receipt known .outcomeUnknown :=
  ⟨fun h => (by cases h), fun h => (by cases h), fun _ _ => rfl⟩

lemma of_receipt (h : receipt) : Conservative receipt known .success :=
  ⟨fun _ => h, fun h => (by cases h), fun hnot => absurd h hnot⟩

lemma of_known (h : known) : Conservative receipt known .notApplied :=
  ⟨fun h => (by cases h), fun _ => h, fun _ hnot => absurd h hnot⟩

lemma false_of_ne {outcome : WriteOutcome} (hreceipt : ¬receipt) (hknown : ¬known)
    (hne : outcome ≠ .outcomeUnknown) : ¬Conservative receipt known outcome :=
  fun h => hne (h.unknown hreceipt hknown)

end Conservative

/-- The request is known not to have been applied: it was not sent, or it was refused. -/
def NotApplied : Reception → Prop
  | .broken error => error ∈ [.connectError, .connectTimeout, .poolTimeout]
  | .refused statusCode => statusCode = 429 ∨ statusCode < 500 ∧ statusCode ≠ 408
  | _ => False

/-- What the code tells apart: the errors and the statuses that it names. -/
def Told : Reception → Prop
  | .broken error => error ∈ [.connectError, .connectTimeout, .poolTimeout, .readError,
      .readTimeout, .remoteProtocolError, .writeError, .writeTimeout]
  | .refused statusCode => statusCode < 500 ∨ statusCode ∈ [500, 502, 503, 504]
  | .undecodable _ => False
  | _ => True

section Receptions

variable [Runtime] [ResponseReader]

def Exchange.reception (http : IntegrationHttpClient) (exchange : Exchange) : Reception :=
  match readBody http.maximumBytes [] exchange.chunks with
  | none => .tooLarge
  | some body =>
    match exchange.ending with
    | .raised error => .broken error
    | .complete statusCode headers =>
      let headers := (headers.map fun header => (Runtime.lower header.1, header.2)).reverse
      if successful statusCode = false then .refused statusCode
      else if body = [] ∨ isJsonContentType ((headers.lookup "content-type").getD "") = false then
        .unreadable
      else
        match ResponseReader.loads body with
        | .value payload => .read payload
        | .malformed => .unreadable
        | .raised error => .undecodable error

/-- What `request_json` makes of it in a write. -/
inductive Returns : Reception → Except HttpExn JsonHttpResponse → Prop
  | tooLarge : Returns .tooLarge (.error .ambiguousWriteError)
  | broken (error : RequestError) : Returns (.broken error) (.error (error.handled true))
  | refused {statusCode : ℕ} {headers : List (String × String)} :
    successful statusCode = false →
      Returns (.refused statusCode) (.ok ⟨statusCode, headers, .null⟩)
  | blank {statusCode : ℕ} {headers : List (String × String)} :
    successful statusCode = true → Returns .unreadable (.ok ⟨statusCode, headers, .null⟩)
  | unreadable : Returns .unreadable (.error .ambiguousWriteError)
  | undecodable (error : LoadsError) : Returns (.undecodable error) (.error (.loads error))
  | read {statusCode : ℕ} {headers : List (String × String)} {payload : JsonValue} :
    successful statusCode = true → Returns (.read payload) (.ok ⟨statusCode, headers, payload⟩)

lemma requestJson_returns (http : IntegrationHttpClient) (exchange : Exchange) :
    Returns (exchange.reception http) (http.requestJson true exchange) := by
  unfold Exchange.reception IntegrationHttpClient.requestJson
  cases readBody http.maximumBytes [] exchange.chunks with
  | none => exact .tooLarge
  | some body =>
    cases exchange.ending with
    | raised error => exact .broken error
    | complete statusCode headers =>
      dsimp only
      cases hsuccessful : successful statusCode with
      | false =>
        rw [if_pos rfl, if_pos (.inl rfl)]
        exact .refused hsuccessful
      | true =>
        rw [if_neg (by simp)]
        by_cases hbody : body = []
        · rw [if_pos (.inl hbody), if_pos (.inr hbody)]
          exact .blank hsuccessful
        generalize isJsonContentType _ = json
        cases json with
        | false =>
          rw [if_pos (.inr rfl), if_neg (by simp [hbody]), if_pos rfl]
          exact .unreadable
        | true =>
          rw [if_neg (by simp [hbody]), if_neg (by simp [hbody]), if_neg (by simp)]
          cases ResponseReader.loads body with
          | value payload => exact .read hsuccessful
          | malformed => exact .unreadable
          | raised error => exact .undecodable error

variable {receipt known : Prop}

omit [Runtime] [ResponseReader] in
lemma broken_outcome_iff {error : RequestError} (hreceipt : ¬receipt) :
    Conservative receipt (NotApplied (.broken error)) (error.handled true).outcome ↔
      Told (.broken error) := by
  cases error with
  | connectError | connectTimeout | poolTimeout =>
    exact iff_of_true (.of_known (by simp [NotApplied])) (by simp [Told])
  | readError | readTimeout | remoteProtocolError | writeError | writeTimeout =>
    exact iff_of_true .outcomeUnknown (by simp [Told])
  | closeError | localProtocolError | proxyError | unsupportedProtocol | decodingError =>
    refine iff_of_false (Conservative.false_of_ne hreceipt (by simp [NotApplied]) ?_)
      (by simp [Told])
    simp [RequestError.handled, HttpExn.outcome]

omit [Runtime] [ResponseReader] in
lemma refused_outcome_iff {statusCode : ℕ} (hreceipt : ¬receipt) :
    Conservative receipt (NotApplied (.refused statusCode)) (refusedOutcome statusCode) ↔
      Told (.refused statusCode) := by
  unfold NotApplied Told refusedOutcome
  by_cases hlisted : statusCode ∈ [408, 500, 502, 503, 504]
  · rw [if_pos hlisted]
    refine iff_of_true .outcomeUnknown ?_
    simp only [List.mem_cons, List.not_mem_nil, or_false] at hlisted ⊢
    omega
  · rw [if_neg hlisted]
    simp only [List.mem_cons, List.not_mem_nil, or_false, not_or] at hlisted
    by_cases hserver : statusCode < 500
    · exact iff_of_true (.of_known (by omega)) (.inl hserver)
    · refine iff_of_false (Conservative.false_of_ne hreceipt (by omega) (by simp)) ?_
      simp only [List.mem_cons, List.not_mem_nil, or_false]
      omega

/-! ## GitHub -/

section Comments

variable [Calendar]

/-- A comment, as `_normalize_comment` requires it. -/
def CommentReceipt (reception : Reception) : Prop :=
  ∃ payload comment, reception = .read payload ∧ readComment payload = .ok comment

variable {client : GitHubWriter} {exchange : Exchange} {statusCode : ℕ}
  {headers : List (String × String)} {payload : JsonValue}

lemma commentWritten_error {error : HttpExn}
    (hresult : client.http.requestJson true exchange = .error error) :
    writeOutcome (client.commentWritten exchange) = error.outcome := by
  unfold GitHubWriter.commentWritten GitHubWriter.write
  rw [hresult]
  cases error with
  | retryableHttpError | ambiguousWriteError | providerContractError | responseTooLargeError => rfl
  | request error => rfl
  | loads error => rfl

lemma commentWritten_refused (hrefused : successful statusCode = false)
    (hresult : client.http.requestJson true exchange = .ok ⟨statusCode, headers, .null⟩) :
    writeOutcome (client.commentWritten exchange) = refusedOutcome statusCode := by
  have hwrite : ∃ x, client.write exchange = .error x ∧
      x.outcome = refusedOutcome statusCode := by
    unfold GitHubWriter.write refusedOutcome
    rw [hresult]
    dsimp only
    rw [hrefused, if_neg (by simp)]
    by_cases hlimited : statusCode = 429
    · rw [if_pos hlimited, if_neg (by simp [hlimited])]
      exact ⟨_, rfl, rfl⟩
    rw [if_neg hlimited]
    by_cases htimeout : statusCode = 408
    · rw [if_pos htimeout, if_pos (by simp [htimeout])]
      exact ⟨_, rfl, rfl⟩
    rw [if_neg htimeout]
    by_cases hserver : statusCode ∈ [500, 502, 503, 504]
    · rw [if_pos hserver, if_pos (List.mem_cons_of_mem _ hserver)]
      exact ⟨_, rfl, rfl⟩
    have hlisted : statusCode ∉ [408, 500, 502, 503, 504] := by
      rw [List.mem_cons, not_or]
      exact ⟨htimeout, hserver⟩
    rw [if_neg hserver, if_neg hlisted]
    split
    · exact ⟨_, rfl, rfl⟩
    split
    · exact ⟨_, rfl, rfl⟩
    · exact ⟨_, rfl, rfl⟩
  obtain ⟨x, hx, houtcome⟩ := hwrite
  unfold GitHubWriter.commentWritten
  rw [hx]
  exact houtcome

/-- A write that is answered gives the comment of the answer, if there is one in it. -/
lemma commentWritten_read
    (hsuccessful : successful statusCode = true)
    (hresult : client.http.requestJson true exchange = .ok ⟨statusCode, headers, payload⟩) :
    client.commentWritten exchange =
      match readComment payload with
      | .ok comment => .ok comment
      | .error _ => .error (.providerWriteOutcomeUnknown "github_write_outcome_unknown") := by
  unfold GitHubWriter.commentWritten GitHubWriter.write
  rw [hresult]
  dsimp only
  rw [hsuccessful, if_pos rfl]
  by_cases hnull : payload = .null
  · rw [if_pos hnull, hnull]
    rfl
  · rw [if_neg hnull]
    dsimp only
    unfold normalizeComment
    cases readComment payload with
    | ok comment => rfl
    | error x => rfl

lemma commentWritten_conservative_iff (client : GitHubWriter) (exchange : Exchange) :
    Conservative (CommentReceipt (exchange.reception client.http))
        (NotApplied (exchange.reception client.http))
        (writeOutcome (client.commentWritten exchange)) ↔
      Told (exchange.reception client.http) := by
  have hreturns := requestJson_returns client.http exchange
  generalize exchange.reception client.http = reception at hreturns
  generalize hresult : client.http.requestJson true exchange = result at hreturns
  have hnone : ∀ r : Reception, (∀ payload, r ≠ .read payload) → ¬CommentReceipt r := by
    rintro r hne ⟨payload, comment, heq, -⟩
    exact hne payload heq
  cases hreturns with
  | tooLarge =>
    rw [commentWritten_error hresult]
    exact iff_of_true .outcomeUnknown trivial
  | broken error =>
    rw [commentWritten_error hresult]
    exact broken_outcome_iff (hnone _ (by simp))
  | refused hrefused =>
    rw [commentWritten_refused hrefused hresult]
    exact refused_outcome_iff (hnone _ (by simp))
  | blank hsuccessful =>
    rw [commentWritten_read hsuccessful hresult]
    exact iff_of_true .outcomeUnknown trivial
  | unreadable =>
    rw [commentWritten_error hresult]
    exact iff_of_true .outcomeUnknown trivial
  | undecodable error =>
    rw [commentWritten_error hresult]
    refine iff_of_false (Conservative.false_of_ne (hnone _ (by simp)) id ?_) id
    simp [HttpExn.outcome]
  | @read statusCode headers payload hsuccessful =>
    rw [commentWritten_read hsuccessful hresult]
    refine iff_of_true ?_ trivial
    cases hread : readComment payload with
    | ok comment => exact .of_receipt ⟨payload, comment, rfl, hread⟩
    | error x => exact .outcomeUnknown

end Comments

/-! ## Slack -/

section Messages

variable {client : SlackClient} {request : SlackMessageRequest} {statusCode : ℕ}
  {headers : List (String × String)} {payload : JsonValue}

/-- A message in the channel of the request, with its timestamp. -/
def MessageReceipt (request : SlackMessageRequest) (reception : Reception) : Prop :=
  ∃ payload timestamp, reception = .read (.dict payload) ∧
    payload.lookup "ok" = some (.bool true) ∧
      payload.lookup "channel" = some (.str request.channel) ∧
        payload.lookup "ts" = some (.str timestamp) ∧ messageTimestampPattern timestamp = true

/-- The body says that there is no message. -/
def Rejected (reception : Reception) : Prop :=
  ∃ payload, reception = .read (.dict payload) ∧ payload.lookup "ok" = some (.bool false)

omit [Runtime] in
lemma endPost_error {error : HttpExn} :
    writeOutcome (client.endPost request (.error error)) = error.outcome := by
  cases error with
  | retryableHttpError | ambiguousWriteError | providerContractError | responseTooLargeError => rfl
  | request error => rfl
  | loads error => rfl

omit [Runtime] in
lemma endPost_refused (hrefused : successful statusCode = false) :
    writeOutcome (client.endPost request (.ok ⟨statusCode, headers, .null⟩)) =
      refusedOutcome statusCode := by
  unfold SlackClient.endPost refusedOutcome
  dsimp only
  rw [hrefused]
  by_cases hlimited : statusCode = 429
  · rw [if_pos hlimited, if_neg (by simp [hlimited])]
    rfl
  rw [if_neg hlimited]
  by_cases hlisted : statusCode ∈ [408, 500, 502, 503, 504]
  · rw [if_pos hlisted, if_pos hlisted]
    rfl
  rw [if_neg hlisted, if_neg hlisted]
  split
  · rfl
  · rfl

omit [Runtime] in
/-- An answer is a receipt, a rejection, or neither. -/
lemma endPost_read (hsuccessful : successful statusCode = true) :
    Conservative (MessageReceipt request (.read payload)) (Rejected (.read payload))
      (writeOutcome (client.endPost request (.ok ⟨statusCode, headers, payload⟩))) := by
  have hrange : 200 ≤ statusCode ∧ statusCode < 300 := of_decide_eq_true hsuccessful
  have hlimited : statusCode ≠ 429 := by omega
  have hlisted : statusCode ∉ [408, 500, 502, 503, 504] := by
    simp only [List.mem_cons, List.not_mem_nil, or_false]
    omega
  have hforbidden : statusCode ∉ [401, 403] := by
    simp only [List.mem_cons, List.not_mem_nil, or_false]
    omega
  unfold SlackClient.endPost
  dsimp only
  rw [if_neg hlimited, if_neg hlisted, if_neg hforbidden, if_neg (by simp [hsuccessful])]
  split
  · rename_i members
    split
    · rename_i hok
      have hknown : Rejected (.read (.dict members)) := ⟨members, rfl, hok⟩
      have houtcome : (slackApiError members false).outcome = .notApplied := by
        unfold slackApiError
        dsimp only
        repeat' split
        all_goals rfl
      rw [writeOutcome, houtcome]
      exact .of_known hknown
    · rename_i hok
      split
      · rename_i channel timestamp hchannel htimestamp
        split
        · rename_i hvalid
          rw [hvalid.1] at hchannel
          exact .of_receipt ⟨members, timestamp, rfl, hok, hchannel, htimestamp, hvalid.2⟩
        · exact .outcomeUnknown
      · exact .outcomeUnknown
    · exact .outcomeUnknown
  · exact .outcomeUnknown

lemma endPost_conservative_iff (client : SlackClient) (request : SlackMessageRequest)
    (exchange : Exchange) :
    Conservative (MessageReceipt request (exchange.reception client.http))
        (NotApplied (exchange.reception client.http) ∨ Rejected (exchange.reception client.http))
        (writeOutcome (client.endPost request (client.http.requestJson true exchange))) ↔
      Told (exchange.reception client.http) := by
  have hreturns := requestJson_returns client.http exchange
  generalize exchange.reception client.http = reception at hreturns
  generalize client.http.requestJson true exchange = result at hreturns
  have hnone : ∀ r : Reception, (∀ payload, r ≠ .read payload) →
      ¬MessageReceipt request r ∧ (NotApplied r ∨ Rejected r) = NotApplied r := by
    intro r hne
    constructor
    · rintro ⟨payload, timestamp, heq, -⟩
      exact hne _ heq
    · apply propext
      apply or_iff_left
      rintro ⟨payload, heq, -⟩
      exact hne _ heq
  cases hreturns with
  | tooLarge =>
    rw [endPost_error]
    exact iff_of_true .outcomeUnknown trivial
  | broken error =>
    obtain ⟨hreceipt, hknown⟩ := hnone (.broken error) (by simp)
    rw [endPost_error, hknown]
    exact broken_outcome_iff hreceipt
  | @refused statusCode headers hrefused =>
    obtain ⟨hreceipt, hknown⟩ := hnone (.refused statusCode) (by simp)
    rw [endPost_refused hrefused, hknown]
    exact refused_outcome_iff hreceipt
  | @blank statusCode headers hsuccessful =>
    have hread : Conservative (MessageReceipt request (.read .null)) (Rejected (.read .null))
        (writeOutcome (client.endPost request (.ok ⟨statusCode, headers, .null⟩))) :=
      endPost_read hsuccessful
    have hreceipt : ¬MessageReceipt request (.read .null) := by
      rintro ⟨members, timestamp, heq, -⟩
      cases heq
    have hrejected : ¬Rejected (.read .null) := by
      rintro ⟨members, heq, -⟩
      cases heq
    rw [hread.unknown hreceipt hrejected]
    exact iff_of_true .outcomeUnknown trivial
  | unreadable =>
    rw [endPost_error]
    exact iff_of_true .outcomeUnknown trivial
  | undecodable error =>
    obtain ⟨hreceipt, hknown⟩ := hnone (.undecodable error) (by simp)
    rw [endPost_error, hknown]
    refine iff_of_false (Conservative.false_of_ne hreceipt id ?_) id
    simp [HttpExn.outcome]
  | @read statusCode headers payload hsuccessful =>
    have hknown : (NotApplied (.read payload) ∨ Rejected (.read payload)) =
        Rejected (.read payload) := by
      apply propext
      exact or_iff_right id
    rw [hknown]
    exact iff_of_true (endPost_read hsuccessful) trivial

end Messages

/-- The writes of both connectors are classified conservatively if and only if what comes of the
request is told apart: no error that is not named, no status of 500 or above that is not, and no
body that the decoder fails on in another way than by refusing it. -/
theorem write_outcomes_conservative_iff [Calendar] (github : GitHubWriter) (slack : SlackClient)
    (request : SlackMessageRequest) (exchange : Exchange) :
    (Conservative (CommentReceipt (exchange.reception github.http))
          (NotApplied (exchange.reception github.http))
          (writeOutcome (github.createComment exchange)) ↔
        Told (exchange.reception github.http)) ∧
      (Conservative (CommentReceipt (exchange.reception github.http))
            (NotApplied (exchange.reception github.http))
            (writeOutcome (github.updateComment exchange)) ↔
          Told (exchange.reception github.http)) ∧
        (Conservative (MessageReceipt request (exchange.reception slack.http))
              (NotApplied (exchange.reception slack.http) ∨
                Rejected (exchange.reception slack.http))
              (writeOutcome (slack.endPost request (slack.http.requestJson true exchange))) ↔
            Told (exchange.reception slack.http)) :=
  ⟨commentWritten_conservative_iff github exchange, commentWritten_conservative_iff github exchange,
    endPost_conservative_iff slack request exchange⟩

end Receptions

namespace Sample

/-- A library that reads no text. -/
@[reducible] def blindReader : ResponseReader where
  loads _ := .malformed
  float _ := none

@[reducible] def blankCalendar : Calendar where
  fromisoformat _ := none

def writer : GitHubWriter where
  http := ⟨65536⟩
  maxRetryAfter := .finite 300

/-- GitHub answers with the status 501 Not Implemented. -/
def notImplemented : Exchange where
  ending := .complete 501 []

end Sample

open Sample in
attribute [local instance] Sample.asciiHost Sample.blindReader Sample.blankCalendar in
/-- A server error that is not in the list of the connector is taken for a refusal. -/
theorem server_error_taken_for_refusal : ¬∀ (github : GitHubWriter) (exchange : Exchange),
    Conservative (CommentReceipt (exchange.reception github.http))
      (NotApplied (exchange.reception github.http))
      (writeOutcome (github.createComment exchange)) := by
  intro h
  have houtcome : writeOutcome (writer.createComment notImplemented) = .notApplied := by decide
  have hknown := (h writer notImplemented).notApplied houtcome
  have hrefused : notImplemented.reception writer.http = .refused 501 := rfl
  rw [hrefused] at hknown
  simp [NotApplied] at hknown

end DeploymentLab
