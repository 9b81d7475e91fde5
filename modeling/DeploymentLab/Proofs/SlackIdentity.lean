import Mathlib.Data.List.Basic
import Mathlib.Tactic.Linarith
import DeploymentLab.Model.SlackClient
import DeploymentLab.Model.World
import DeploymentLab.Proofs.Snapshots

/-!
# The identity behind a post

A remembered identity is worth what the answer it was read from said. Whatever is rotated, changed
or answered in between, the cache stands for one answer that the client received, and a post is sent
only while that answer is recent and fits the token and the expected principal.
-/

namespace DeploymentLab

/-- The answer confirms the principal that is expected. -/
structure Confirms (team user bot : Option String) (response : JsonHttpResponse)
    (payload : List (String × JsonValue)) : Prop where
  successful : successful response.statusCode = true
  payload_eq : response.payload = .dict payload
  ok : payload.lookup "ok" = some (.bool true)
  team : ∃ t, team = some t ∧ payload.lookup "team_id" = some (.str t)
  user : ∃ u, user = some u ∧ payload.lookup "user_id" = some (.str u)
  bot : ∀ b, bot = some b → payload.lookup "bot_id" = some (.str b)

/-- At `now`, `log` has an answer of the last 300 seconds by which the token confirms the
principal. -/
def Verified (log : List SlackEvent) (token : String) (team user bot : Option String) (now : ℚ) :
    Prop :=
  ∃ response payload received, .answered token (.ok response) received ∈ log ∧
    now - received < 300 ∧ Confirms team user bot response payload

section Answers

lemma slackRequiredString_some {payload : List (String × JsonValue)} {key value : String}
    (h : slackRequiredString payload key = some value) :
    payload.lookup key = some (.str value) := by
  unfold slackRequiredString at h
  split at h
  case h_1 found hlookup =>
    split at h
    · exact absurd h (by simp)
    · rw [hlookup, Option.some.inj h]
  case h_2 => exact absurd h (by simp)

lemma slackOptionalString_some {payload : List (String × JsonValue)} {key value : String}
    (h : slackOptionalString payload key = some (some value)) :
    payload.lookup key = some (.str value) := by
  unfold slackOptionalString at h
  split at h
  case h_3 found hlookup =>
    split at h
    · exact absurd h (by simp)
    · rw [hlookup]
      simpa using h
  all_goals exact absurd h (by simp)

/-- An identity is what its three members say. -/
lemma slackIdentity_some {payload : List (String × JsonValue)} {identity : SlackIdentity}
    (h : slackIdentity payload = some identity) :
    payload.lookup "team_id" = some (.str identity.teamId) ∧
      payload.lookup "user_id" = some (.str identity.userId) ∧
      ∀ b, identity.botId = some b → payload.lookup "bot_id" = some (.str b) := by
  unfold slackIdentity at h
  simp only [Option.bind_eq_bind, Option.bind_eq_some_iff] at h
  obtain ⟨team, hteam, user, huser, bot, hbot, h⟩ := h
  split at h
  · obtain rfl := Option.some.inj h
    refine ⟨slackRequiredString_some hteam, slackRequiredString_some huser, fun b hb => ?_⟩
    exact slackOptionalString_some (hbot.trans (congrArg some hb))
  · exact absurd h (by simp)

variable {client : SlackClient} {identity : SlackIdentity}

lemma SlackClient.expects_iff : client.expects identity = true ↔
    client.expectedTeamId = some identity.teamId ∧ client.expectedUserId = some identity.userId ∧
      ∀ b, client.expectedBotId = some b → identity.botId = some b := by
  have hbot : (client.expectedBotId == none || identity.botId == client.expectedBotId) = true ↔
      ∀ b, client.expectedBotId = some b → identity.botId = some b := by
    cases client.expectedBotId <;> simp
  unfold SlackClient.expects
  rw [Bool.and_eq_true, Bool.and_eq_true, hbot, beq_iff_eq, beq_iff_eq, and_assoc,
    eq_comm (a := some identity.teamId), eq_comm (a := some identity.userId)]

variable [ResponseReader] {answer : Except HttpExn JsonHttpResponse} {now : ℚ}

lemma SlackClient.classifyReadResponse_ok {statusCode : ℕ} {headers : List (String × String)}
    (h : client.classifyReadResponse statusCode headers = .ok ()) :
    successful statusCode = true := by
  unfold SlackClient.classifyReadResponse at h
  by_contra hnot
  rw [if_neg hnot] at h
  split at h
  · cases h
  split at h
  · cases h
  split at h <;> cases h

/-- An identity is valid only by an answer that confirms the principal. -/
lemma SlackClient.readVerification_true (h : client.readVerification answer = .ok true) :
    ∃ response payload, answer = .ok response ∧
      Confirms client.expectedTeamId client.expectedUserId client.expectedBotId response
        payload := by
  unfold SlackClient.readVerification at h
  split at h
  case h_5 response =>
    cases hclass : client.classifyReadResponse response.statusCode response.headers with
    | error x => simp [hclass, bind, Except.bind] at h
    | ok =>
      simp only [hclass, bind, Except.bind] at h
      split at h
      case h_1 payload hpayload =>
        by_cases hok : payload.lookup "ok" = some (.bool true)
        · simp only [hok, ne_eq, not_true_eq_false, if_false, pure, Except.pure] at h
          split at h
          · cases h
          case h_2 identity hidentity =>
            obtain ⟨hteam, huser, hbot⟩ := slackIdentity_some hidentity
            obtain ⟨hteam', huser', hbot'⟩ := SlackClient.expects_iff.1 (Except.ok.inj h)
            exact ⟨response, payload, rfl, SlackClient.classifyReadResponse_ok hclass, hpayload,
              hok, ⟨_, hteam', hteam⟩, ⟨_, huser', huser⟩, fun b hb => hbot b (hbot' b hb)⟩
        · rw [if_pos hok] at h
          cases h
      · cases h
  all_goals cases h

/-- What an answer leaves of the client: the cache is kept, emptied, or written from an answer that
confirms the principal. -/
lemma SlackClient.endVerification_cases (client : SlackClient) (fp : Digest)
    (answer : Except HttpExn JsonHttpResponse) (now : ℚ) :
    (client.endVerification fp answer now).2 = client ∨
    (client.endVerification fp answer now).2 = { client with identityCache := none } ∨
    ∃ response payload, answer = .ok response ∧
      Confirms client.expectedTeamId client.expectedUserId client.expectedBotId response payload ∧
      (client.endVerification fp answer now).2 =
        { client with
          identityCache := some ⟨fp, client.expectedTeamId, client.expectedUserId,
            client.expectedBotId, now + identityCacheSeconds⟩ } := by
  unfold SlackClient.endVerification
  split
  case h_1 => exact .inl rfl
  case h_2 h =>
    obtain ⟨response, payload, hanswer, hconfirms⟩ := SlackClient.readVerification_true h
    exact .inr (.inr ⟨response, payload, hanswer, hconfirms, rfl⟩)
  case h_3 => exact .inr (.inl rfl)

end Answers

section Calls

variable [Runtime] {client : SlackClient} {reading : CredentialReading} {now : ℚ}
  {token : String} {fp : Digest}

lemma SlackClient.currentCredential_ok
    (h : SlackClient.currentCredential reading = .ok (token, fp)) :
    reading = .secret (some token) ∧ fp = Runtime.sha256 token := by
  unfold SlackClient.currentCredential at h
  split at h
  · cases h
  · cases h
  · split at h
    · cases h
    · cases h
      exact ⟨rfl, rfl⟩

/-- A request for verification is sent with the token that is read, and its fingerprint. -/
lemma SlackClient.beginVerification_ok
    (h : client.beginVerification reading now = .ok (some (token, fp))) :
    reading = .secret (some token) ∧ fp = Runtime.sha256 token := by
  unfold SlackClient.beginVerification at h
  cases hread : SlackClient.currentCredential reading with
  | error x => simp [hread, bind, Except.bind] at h
  | ok credential =>
    simp only [hread, bind, Except.bind] at h
    split at h
    · cases h
    · have hrequest : credential = (token, fp) := Option.some.inj (Except.ok.inj h)
      rw [hrequest] at hread
      exact SlackClient.currentCredential_ok hread

/-- A post is sent with the token that is read, which the cache authorizes. -/
lemma SlackClient.beginPost_ok (h : client.beginPost reading now = .ok token) :
    reading = .secret (some token) ∧
      client.cacheAuthorizes now (Runtime.sha256 token) = true := by
  unfold SlackClient.beginPost at h
  cases hread : SlackClient.currentCredential reading with
  | error x => simp [hread, bind, Except.bind] at h
  | ok credential =>
    simp only [hread, bind, Except.bind] at h
    split at h
    case isTrue hcache =>
      obtain rfl := Except.ok.inj h
      obtain ⟨hreading, hfp⟩ := SlackClient.currentCredential_ok hread
      rw [hfp] at hcache
      exact ⟨hreading, hcache⟩
    · cases h

omit [Runtime] in
lemma SlackClient.cacheAuthorizes_iff : client.cacheAuthorizes now fp = true ↔
    ∃ cache, client.identityCache = some cache ∧ now < cache.verifiedUntil ∧
      fp = cache.credentialFingerprint ∧ client.expectedTeamId = cache.expectedTeamId ∧
      client.expectedUserId = cache.expectedUserId ∧
      client.expectedBotId = cache.expectedBotId := by
  unfold SlackClient.cacheAuthorizes
  cases client.identityCache <;> simp [and_assoc]

end Calls

/-! ## Runs -/

/-- The cache stands for an answer in `log` to a verification of one of `tokens`. -/
def Stands [Runtime] (tokens : List String) (log : List SlackEvent) (cache : SlackIdentityCache) :
    Prop :=
  ∃ token ∈ tokens, ∃ response payload received,
    .answered token (.ok response) received ∈ log ∧
    cache.credentialFingerprint = Runtime.sha256 token ∧
    cache.verifiedUntil = received + identityCacheSeconds ∧
    Confirms cache.expectedTeamId cache.expectedUserId cache.expectedBotId response payload

lemma Stands.cons [Runtime] {tokens : List String} {log : List SlackEvent}
    {cache : SlackIdentityCache} (h : Stands tokens log cache) (event : SlackEvent) :
    Stands tokens (event :: log) cache := by
  obtain ⟨token, htoken, response, payload, received, hmem, hrest⟩ := h
  exact ⟨token, htoken, response, payload, received, List.mem_cons_of_mem _ hmem, hrest⟩

namespace SlackSession

variable [Runtime] {tokens : List String}

/-- What holds in every run whose tokens are among `tokens`: verifications carry the fingerprint of
their token, the cache stands for an answer, and so does every post. -/
structure Justified (tokens : List String) (s : SlackSession) : Prop where
  secret : ∀ token ∈ s.secret.tokens, token ∈ tokens
  verifying : ∀ request ∈ s.verifying, request.1 ∈ tokens ∧ request.2 = Runtime.sha256 request.1
  cache : ∀ cache, s.client.identityCache = some cache → Stands tokens s.log cache
  posted : ∀ token team user bot now earlier,
    .posted token team user bot now :: earlier <:+ s.log → Verified earlier token team user bot now

lemma justified_initial {http : IntegrationHttpClient} {maximumRetryAfter : PyFloat}
    {team user bot : Option String} {secret : CredentialReading}
    (hsecret : ∀ token ∈ secret.tokens, token ∈ tokens) :
    Justified tokens (initial http maximumRetryAfter team user bot secret) where
  secret := hsecret
  verifying request hmem := absurd hmem (List.not_mem_nil)
  cache cache hcache := by cases hcache
  posted token team user bot now earlier h := by
    have := h.length_le
    simp [initial] at this

variable {s : SlackSession}

/-- A post that the cache authorizes is verified. -/
lemma Justified.verified (hs : Justified tokens s)
    (hsha : ∀ a ∈ tokens, ∀ b ∈ tokens, NoCollision a b) {token : String} {now : ℚ}
    (h : s.client.beginPost s.secret now = .ok token) :
    Verified s.log token s.client.expectedTeamId s.client.expectedUserId s.client.expectedBotId
      now := by
  obtain ⟨hsecret, hauthorized⟩ := SlackClient.beginPost_ok h
  obtain ⟨cache, hcache, hnow, hfp, hteam, huser, hbot⟩ :=
    SlackClient.cacheAuthorizes_iff.1 hauthorized
  obtain ⟨verified, hverified, response, payload, received, hmem, hfp', huntil, hconfirms⟩ :=
    hs.cache cache hcache
  have htoken : token ∈ tokens := hs.secret token (by simp [hsecret, CredentialReading.tokens])
  have hsame : token = verified := hsha token htoken verified hverified (hfp.trans hfp')
  rw [← hsame] at hmem
  rw [← hteam, ← huser, ← hbot] at hconfirms
  refine ⟨response, payload, received, hmem, ?_, hconfirms⟩
  rw [huntil] at hnow
  unfold identityCacheSeconds at hnow
  linarith

variable [ResponseReader]

/-- Whatever happens next, all of it holds again. -/
lemma Justified.step (hs : Justified tokens s)
    (hsha : ∀ a ∈ tokens, ∀ b ∈ tokens, NoCollision a b) (move : SlackMove)
    (hmove : ∀ token ∈ move.tokens, token ∈ tokens) : Justified tokens (s.step move) := by
  cases move with
  | rotate secret => exact { hs with secret := hmove }
  | expect team user bot => exact { hs with }
  | verify now =>
    unfold SlackSession.step
    dsimp only
    split
    case h_1 request hbegin =>
      obtain ⟨token, fp⟩ := request
      obtain ⟨hsecret, hfp⟩ := SlackClient.beginVerification_ok hbegin
      refine { hs with verifying := fun request hmem => ?_ }
      rcases List.mem_append.1 hmem with hmem | hmem
      · exact hs.verifying request hmem
      · obtain rfl := List.mem_singleton.1 hmem
        exact ⟨hs.secret token (by simp [hsecret, CredentialReading.tokens]), hfp⟩
    case h_2 => exact hs
  | answer i exchange now =>
    unfold SlackSession.step
    dsimp only
    split
    case h_1 => exact hs
    case h_2 token fp hrequest =>
      obtain ⟨htoken, hfp⟩ := hs.verifying _ (List.mem_of_getElem? hrequest)
      refine { secret := hs.secret
               verifying := fun request hmem => hs.verifying request (List.mem_of_mem_eraseIdx hmem)
               cache := fun cache hcache => ?_
               posted := fun token team user bot now earlier h => ?_ }
      · rcases s.client.endVerification_cases fp (s.client.http.requestJson false exchange) now with
          hclient | hclient | ⟨response, payload, hanswer, hconfirms, hclient⟩
        · rw [hclient] at hcache
          exact (hs.cache cache hcache).cons _
        · rw [hclient] at hcache
          cases hcache
        · rw [hclient] at hcache
          obtain rfl := Option.some.inj hcache
          refine ⟨token, htoken, response, payload, now, ?_, hfp, rfl, hconfirms⟩
          rw [hanswer]
          exact List.mem_cons_self
      · rcases List.suffix_cons_iff.1 h with h | h
        · cases h
        · exact hs.posted token team user bot now earlier h
  | post now =>
    unfold SlackSession.step
    dsimp only
    split
    case h_1 => exact hs
    case h_2 token hbegin =>
      have hverified := hs.verified hsha hbegin
      refine { hs with
        cache := fun cache hcache => (hs.cache cache hcache).cons _
        posted := fun token team user bot now earlier h => ?_ }
      rcases List.suffix_cons_iff.1 h with h | h
      · cases h
        exact hverified
      · exact hs.posted token team user bot now earlier h

lemma Justified.run (hsha : ∀ a ∈ tokens, ∀ b ∈ tokens, NoCollision a b) (moves : List SlackMove)
    (hmoves : ∀ move ∈ moves, ∀ token ∈ move.tokens, token ∈ tokens) {s : SlackSession}
    (hs : Justified tokens s) : Justified tokens (s.run moves) := by
  induction moves generalizing s with
  | nil => exact hs
  | cons move moves ih =>
    have hstep := hs.step hsha move (hmoves move List.mem_cons_self)
    exact ih (fun move hmem => hmoves move (List.mem_cons_of_mem _ hmem)) hstep

end SlackSession

/-- Whatever is rotated, changed, answered or fails between the steps of a client, where SHA-256
does not collide on the tokens it is given, every post is sent with a token for which an answer that
confirms the principal expected at that time was received less than 300 seconds before. -/
theorem posts_verified [Runtime] [ResponseReader] (http : IntegrationHttpClient)
    (maximumRetryAfter : PyFloat) (team user bot : Option String) (secret : CredentialReading)
    (moves : List SlackMove)
    (hsha : ∀ a ∈ secret.tokens ++ moves.flatMap SlackMove.tokens,
      ∀ b ∈ secret.tokens ++ moves.flatMap SlackMove.tokens, NoCollision a b)
    (token : String) (team' user' bot' : Option String) (now : ℚ) (earlier : List SlackEvent)
    (hposted : .posted token team' user' bot' now :: earlier <:+
      ((SlackSession.initial http maximumRetryAfter team user bot secret).run moves).log) :
    Verified earlier token team' user' bot' now := by
  have hinitial : SlackSession.Justified (secret.tokens ++ moves.flatMap SlackMove.tokens)
      (SlackSession.initial http maximumRetryAfter team user bot secret) :=
    SlackSession.justified_initial fun token hmem => List.mem_append_left _ hmem
  have hrun := SlackSession.Justified.run hsha moves
    (fun move hmove token hmem => List.mem_append_right _ (List.mem_flatMap.2 ⟨move, hmove, hmem⟩))
    hinitial
  exact hrun.posted token team' user' bot' now earlier hposted

namespace Sample

/-- The answer of `auth.test` for a bot. -/
def authPayload : List (String × JsonValue) :=
  [("ok", .bool true), ("team_id", .str "T1234567890"), ("user_id", .str "U1234567890"),
    ("bot_id", .str "B1234567890")]

def authBytes : List UInt8 :=
  ("\x7b\"ok\":true,\"team_id\":\"T1234567890\",\"user_id\":\"U1234567890\"," ++
    "\"bot_id\":\"B1234567890\"\x7d").toList.map fun c => UInt8.ofNat c.toNat

/-- A library that reads the answer. -/
@[reducible] def authReader : ResponseReader where
  loads body := if body = authBytes then .value (.dict authPayload) else .malformed
  float _ := none

def authenticated : Exchange where
  chunks := [authBytes]
  ending := .complete 200 [("Content-Type", "application/json; charset=utf-8")]

@[reducible] def tokensHost : Runtime :=
  host [
    ("xoxb-1", 0x4cf3463fc5d89e904a3918be2cae6e2bc407103d12088414b133b4ee53b82fe0),
    ("xoxb-2", 0xc5ae1a7bec057379dbe32f90f40175e3dc43fb57334ea492a0096e038448de36)]

attribute [local instance] tokensHost authReader

lemma authenticated_read : (⟨65536⟩ : IntegrationHttpClient).requestJson false authenticated =
    .ok ⟨200, [("content-type", "application/json; charset=utf-8")], .dict authPayload⟩ := by
  have hbody : readBody 65536 [] [authBytes] = some authBytes := by decide +kernel
  have hjson : isJsonContentType "application/json; charset=utf-8" = true := by decide +kernel
  have hempty : authBytes ≠ [] := by decide +kernel
  have hloads : ResponseReader.loads authBytes = .value (.dict authPayload) := if_pos rfl
  have hlower : Runtime.lower "Content-Type" = "content-type" := by decide
  unfold IntegrationHttpClient.requestJson
  simp only [authenticated, hbody, List.map_cons, List.map_nil, List.reverse_singleton, hlower]
  simp [hjson, hempty, hloads, successful]

/-- A session that expects the identity, with this cache and this token to read. -/
def sessionOf (cache : Option SlackIdentityCache) (token : String) (log : List SlackEvent) :
    SlackSession where
  client := { (SlackSession.initial ⟨65536⟩ (.finite 300) (some "T1234567890")
    (some "U1234567890") (some "B1234567890") (.secret none)).client with identityCache := cache }
  secret := .secret (some token)
  log := log

/-- The event of the answer. -/
def confirmed (token : String) (received : ℚ) : SlackEvent :=
  .answered token
    (.ok ⟨200, [("content-type", "application/json; charset=utf-8")], .dict authPayload⟩) received

def cacheOf (digest : Digest) (received : ℚ) : SlackIdentityCache :=
  ⟨digest, some "T1234567890", some "U1234567890", some "B1234567890",
    received + identityCacheSeconds⟩

lemma step_verify {s : SlackSession} {request : String × Digest} {now : ℚ}
    (h : s.client.beginVerification s.secret now = .ok (some request)) :
    s.step (.verify now) = { s with verifying := s.verifying ++ [request] } := by
  unfold SlackSession.step
  dsimp only
  rw [h]

lemma step_refused {s : SlackSession} {x : ProviderExn} {now : ℚ}
    (h : s.client.beginPost s.secret now = .error x) : s.step (.post now) = s := by
  unfold SlackSession.step
  dsimp only
  rw [h]

lemma step_posted {s : SlackSession} {token : String} {now : ℚ}
    (h : s.client.beginPost s.secret now = .ok token) :
    (s.step (.post now)).log = .posted token s.client.expectedTeamId s.client.expectedUserId
      s.client.expectedBotId now :: s.log := by
  unfold SlackSession.step
  dsimp only
  rw [h]

lemma step_answer {cache : Option SlackIdentityCache} {token : String} {digest : Digest}
    {log : List SlackEvent} {received : ℚ} :
    ({ sessionOf cache token log with verifying := [(token, digest)] } : SlackSession).step
      (.answer 0 authenticated received) =
        sessionOf (some (cacheOf digest received)) token (confirmed token received :: log) := by
  unfold SlackSession.step
  dsimp only [sessionOf, SlackSession.initial, List.getElem?_cons_zero]
  rw [authenticated_read]
  rfl

/-- The token is rotated, and the rotated one is not used before it has been verified. -/
def rotated : List DeploymentLab.SlackMove :=
  [.verify 0, .answer 0 authenticated 1, .rotate (.secret (some "xoxb-2")), .post 2, .verify 2,
    .answer 0 authenticated 3, .post 300]

lemma run_rotated : ((sessionOf none "xoxb-1" []).run rotated).log =
    [.posted "xoxb-2" (some "T1234567890") (some "U1234567890") (some "B1234567890") 300,
      confirmed "xoxb-2" 3, confirmed "xoxb-1" 1] := by
  let first : Digest := 0x4cf3463fc5d89e904a3918be2cae6e2bc407103d12088414b133b4ee53b82fe0
  let second : Digest := 0xc5ae1a7bec057379dbe32f90f40175e3dc43fb57334ea492a0096e038448de36
  let verified := sessionOf (some (cacheOf first 1)) "xoxb-2" [confirmed "xoxb-1" 1]
  let renewed := sessionOf (some (cacheOf second 3)) "xoxb-2"
    [confirmed "xoxb-2" 3, confirmed "xoxb-1" 1]
  have hverify : (sessionOf none "xoxb-1" []).step (.verify 0) =
      { sessionOf none "xoxb-1" [] with verifying := [("xoxb-1", first)] } :=
    step_verify (by decide +kernel)
  have hrotate : (sessionOf (some (cacheOf first 1)) "xoxb-1" [confirmed "xoxb-1" 1]).step
      (.rotate (.secret (some "xoxb-2"))) = verified := rfl
  have hunsent : verified.step (.post 2) = verified :=
    step_refused (x := .slackRetryableFailure "slack_identity_verification_required" none)
      (by decide +kernel)
  have hverify' : verified.step (.verify 2) = { verified with verifying := [("xoxb-2", second)] } :=
    step_verify (by decide +kernel)
  have hanswer' : ({ verified with verifying := [("xoxb-2", second)] } : SlackSession).step
      (.answer 0 authenticated 3) = renewed := step_answer
  have hposts : renewed.client.beginPost renewed.secret 300 = .ok "xoxb-2" := by decide +kernel
  rw [rotated, SlackSession.run]
  simp only [List.foldl_cons, List.foldl_nil, hverify, step_answer, hrotate, hunsent, hverify',
    hanswer']
  exact step_posted hposts

end Sample

attribute [local instance] Sample.tokensHost Sample.authReader in
open Sample in
theorem posts_verified_rotated : Verified [confirmed "xoxb-2" 3, confirmed "xoxb-1" 1] "xoxb-2"
    (some "T1234567890") (some "U1234567890") (some "B1234567890") 300 := by
  refine posts_verified ⟨65536⟩ (.finite 300) (some "T1234567890") (some "U1234567890")
    (some "B1234567890") (.secret (some "xoxb-1")) rotated ?_ _ _ _ _ _ _ ⟨[], run_rotated.symm⟩
  have hdigests : Runtime.sha256 "xoxb-1" ≠ Runtime.sha256 "xoxb-2" := by decide
  intro a ha b hb
  have ha' : a = "xoxb-1" ∨ a = "xoxb-2" := by
    simpa [rotated, CredentialReading.tokens, DeploymentLab.SlackMove.tokens] using ha
  have hb' : b = "xoxb-1" ∨ b = "xoxb-2" := by
    simpa [rotated, CredentialReading.tokens, DeploymentLab.SlackMove.tokens] using hb
  rcases ha' with rfl | rfl
  all_goals rcases hb' with rfl | rfl
  · exact fun _ => rfl
  · exact fun heq => absurd heq hdigests
  · exact fun heq => absurd heq.symm hdigests
  · exact fun _ => rfl

end DeploymentLab
