import Mathlib.Algebra.Order.Ring.Rat
import Mathlib.Tactic.Linarith
import Mathlib.Tactic.NormNum
import DeploymentLab.Model.Delays
import DeploymentLab.Model.World

/-!
# Every delay is bounded

The backoff grows up to its cap, and a delay that a provider asks for is clamped. The clamp of the
Slack client lets NaN through, which is less than no number; that of the other connectors does not.
-/

namespace DeploymentLab

namespace RetryPolicy

variable {policy : RetryPolicy} {m n : ℕ} {randomValue : ℚ}

lemma ceiling_mono (hbase : 0 ≤ policy.baseSeconds) (hmn : m ≤ n) :
    policy.ceiling m ≤ policy.ceiling n := by
  have hpow : (2 : ℚ) ^ (m - 1) ≤ 2 ^ (n - 1) :=
    pow_le_pow_right₀ (by norm_num) (Nat.sub_le_sub_right hmn 1)
  exact min_le_min_left _ (mul_le_mul_of_nonneg_left hpow hbase)

lemma ceiling_nonneg (hbase : 0 ≤ policy.baseSeconds) (hcap : 0 ≤ policy.capSeconds) :
    0 ≤ policy.ceiling n :=
  le_min hcap (mul_nonneg hbase (by positivity))

/-- The jitter takes away one half of the ceiling at most. -/
lemma delaySeconds_bounds (hbase : 0 ≤ policy.baseSeconds) (hcap : 0 ≤ policy.capSeconds)
    (hlower : 0 ≤ randomValue) (hupper : randomValue ≤ 1) :
    ∃ delay, policy.delaySeconds n randomValue = .ok delay ∧
      policy.ceiling n / 2 ≤ delay ∧ delay ≤ policy.ceiling n := by
  have hceiling : 0 ≤ policy.ceiling n := ceiling_nonneg hbase hcap
  have hhalf : 0 ≤ policy.ceiling n / 2 := by linarith
  refine ⟨_, if_pos ⟨hlower, hupper⟩, ?_, ?_⟩
  · have hjitter := mul_nonneg hhalf hlower
    linarith
  · have hjitter := mul_le_mul_of_nonneg_left hupper hhalf
    linarith

end RetryPolicy

section Clamp

variable {maximum : ℚ} {value : PyFloat}

/-- A number between zero and the maximum. -/
def PyFloat.Within (value : PyFloat) (lower upper : ℚ) : Prop :=
  ∃ q, value = .finite q ∧ lower ≤ q ∧ q ≤ upper

/-- The clamp of the connectors makes a number of every float: NaN becomes zero. -/
lemma within_clamp (hmaximum : 0 ≤ maximum) (value : PyFloat) :
    (pyMin (.finite maximum) (pyMax (.finite 0) value)).Within 0 maximum := by
  cases value with
  | nan | negativeInfinity =>
    rw [show pyMin (.finite maximum) (pyMax (.finite 0) _) = pyMin (.finite maximum) (.finite 0)
      from rfl, pyMin]
    split
    · exact ⟨0, rfl, le_rfl, hmaximum⟩
    · exact ⟨maximum, rfl, hmaximum, le_rfl⟩
  | positiveInfinity => exact ⟨maximum, rfl, hmaximum, le_rfl⟩
  | finite q =>
    have hmax : pyMax (.finite 0) (.finite q) = .finite (max 0 q) := by
      by_cases hq : 0 < q
      · simp [pyMax, PyFloat.less, hq, max_eq_right hq.le]
      · simp [pyMax, PyFloat.less, hq, max_eq_left (not_lt.1 hq)]
    rw [hmax, pyMin]
    split
    · rename_i hless
      exact ⟨max 0 q, rfl, le_max_left .., (of_decide_eq_true hless).le⟩
    · exact ⟨maximum, rfl, hmaximum, le_rfl⟩

/-- Where NaN is not compared, the order of the arguments does not matter. -/
lemma pyMin_comm {a b : PyFloat} (ha : a ≠ .nan) (hb : b ≠ .nan) : pyMin a b = pyMin b a := by
  cases a with
  | nan => exact absurd rfl ha
  | negativeInfinity | positiveInfinity => cases b <;> first | exact absurd rfl hb | rfl
  | finite p =>
    cases b with
    | nan => exact absurd rfl hb
    | negativeInfinity | positiveInfinity => rfl
    | finite q =>
      simp only [pyMin, PyFloat.less, decide_eq_true_eq]
      rcases lt_trichotomy p q with h | h | h
      · rw [if_neg h.not_gt, if_pos h]
      · rw [h]
      · rw [if_pos h, if_neg h.not_gt]

lemma pyMax_comm {a b : PyFloat} (ha : a ≠ .nan) (hb : b ≠ .nan) : pyMax a b = pyMax b a := by
  cases a with
  | nan => exact absurd rfl ha
  | negativeInfinity | positiveInfinity => cases b <;> first | exact absurd rfl hb | rfl
  | finite p =>
    cases b with
    | nan => exact absurd rfl hb
    | negativeInfinity | positiveInfinity => rfl
    | finite q =>
      simp only [pyMax, PyFloat.less, decide_eq_true_eq]
      rcases lt_trichotomy p q with h | h | h
      · rw [if_pos h, if_neg h.not_gt]
      · rw [h]
      · rw [if_neg h.not_gt, if_pos h]

lemma pyMax_ne_nan {a b : PyFloat} (ha : a ≠ .nan) (hb : b ≠ .nan) : pyMax a b ≠ .nan := by
  rw [pyMax]
  split <;> assumption

/-- The clamp of the Slack client is that of the connectors, but for NaN. -/
lemma slackClamp_eq (hvalue : value ≠ .nan) :
    pyMin (pyMax value (.finite 0)) (.finite maximum) =
      pyMin (.finite maximum) (pyMax (.finite 0) value) := by
  have hzero : PyFloat.finite 0 ≠ .nan := by simp
  have hmaximum : PyFloat.finite maximum ≠ .nan := by simp
  rw [pyMax_comm hvalue hzero, pyMin_comm (pyMax_ne_nan hzero hvalue) hmaximum]

lemma slackClamp_nan : pyMin (pyMax .nan (.finite 0)) (.finite maximum) = .nan := rfl

end Clamp

section Headers

variable [ResponseReader] {settings : DelaySettings} {headers : List (String × String)}
  {seconds : PyFloat}

/-- The response asks to retry after NaN seconds. -/
def ReadsNan (headers : List (String × String)) : Prop :=
  (headers.lookup "retry-after").bind ResponseReader.float = some .nan

lemma retryAfter_eq (headers : List (String × String)) (maximum : PyFloat) :
    retryAfter headers maximum = ((headers.lookup "retry-after").bind ResponseReader.float).map
      fun value => pyMin maximum (pyMax (.finite 0) value) := by
  unfold retryAfter
  cases headers.lookup "retry-after" <;> rfl

lemma slackRetryAfter_eq (headers : List (String × String)) (maximum : PyFloat) :
    slackRetryAfter headers maximum =
      ((headers.lookup "retry-after").bind ResponseReader.float).map
        fun value => pyMin (pyMax value (.finite 0)) maximum := by
  unfold slackRetryAfter
  cases headers.lookup "retry-after" <;> rfl

lemma within_retryAfter (h : retryAfter headers settings.maxRetryAfter = some seconds) :
    seconds.Within 0 settings.integrationMaxRetryAfterSeconds := by
  rw [retryAfter_eq] at h
  obtain ⟨value, -, rfl⟩ := Option.map_eq_some_iff.1 h
  exact within_clamp settings.integrationMaxRetryAfterSeconds_range.1 value

lemma slackRetryAfter_of_not_readsNan (hnan : ¬ReadsNan headers) :
    slackRetryAfter headers settings.maxRetryAfter =
      retryAfter headers settings.maxRetryAfter := by
  rw [slackRetryAfter_eq, retryAfter_eq]
  cases hvalue : (headers.lookup "retry-after").bind ResponseReader.float with
  | none => rfl
  | some value =>
    have hne : value ≠ .nan := fun heq => hnan (by rw [ReadsNan, hvalue, heq])
    exact congrArg some (slackClamp_eq hne)

lemma slackRetryAfter_of_readsNan (hnan : ReadsNan headers) :
    slackRetryAfter headers settings.maxRetryAfter = some .nan := by
  rw [slackRetryAfter_eq, hnan]
  exact congrArg some slackClamp_nan

/-- The delay stored for Slack is bounded even where the header says NaN. -/
lemma within_knownUnsentDelaySeconds :
    (knownUnsentDelaySeconds (slackRetryAfter headers settings.maxRetryAfter)).Within 1
      (max 5 settings.integrationMaxRetryAfterSeconds) := by
  have hfive : (1 : ℚ) ≤ max 5 settings.integrationMaxRetryAfterSeconds :=
    le_max_of_le_left (by norm_num)
  by_cases hnan : ReadsNan headers
  · rw [slackRetryAfter_of_readsNan hnan]
    exact ⟨1, rfl, le_rfl, hfive⟩
  · rw [slackRetryAfter_of_not_readsNan hnan]
    cases hdelay : retryAfter headers settings.maxRetryAfter with
    | none => exact ⟨5, rfl, by norm_num, le_max_left ..⟩
    | some seconds =>
      obtain ⟨q, rfl, -, hq⟩ := within_retryAfter hdelay
      have hupper : q ≤ max 5 settings.integrationMaxRetryAfterSeconds := le_max_of_le_right hq
      rw [knownUnsentDelaySeconds, pyMax]
      split
      · rename_i hless
        exact ⟨q, rfl, (of_decide_eq_true hless).le, hupper⟩
      · exact ⟨1, rfl, le_rfl, hfive⟩

end Headers

section Connectors

variable [Runtime] [ResponseReader] {maximum : PyFloat} {notFound errorCode : String}
  {response : JsonHttpResponse} {seconds : PyFloat} {client : GitHubWriter} {exchange : Exchange}

omit [Runtime] in
/-- A read asks for the delay that its response asks for. -/
lemma classifyRead_retryable (h : classifyRead maximum notFound response =
    .error (.retryableProviderError errorCode (some seconds))) :
    retryAfter response.headers maximum = some seconds := by
  unfold classifyRead at h
  split at h
  · cases h
  split at h
  · cases h
  split at h
  · rw [Except.error.injEq, ProviderExn.retryableProviderError.injEq] at h
    exact h.2
  split at h <;> cases h

/-- So does a write. -/
lemma write_retryable (hresponse : client.http.requestJson true exchange = .ok response)
    (h : client.write exchange = .error (.retryableProviderError errorCode (some seconds))) :
    retryAfter response.headers client.maxRetryAfter = some seconds := by
  unfold GitHubWriter.write at h
  rw [hresponse] at h
  dsimp only at h
  split at h
  · split at h <;> cases h
  split at h
  · rw [Except.error.injEq, ProviderExn.retryableProviderError.injEq] at h
    exact h.2
  split at h
  · cases h
  split at h
  · cases h
  split at h
  · cases h
  split at h <;> cases h

end Connectors

/-- The delays that the worker and the ledger store for a response with these headers. -/
structure DelaysBounded [Runtime] [ResponseReader] (settings : DelaySettings)
    (headers : List (String × String)) : Prop where
  backoff : ∀ n randomValue, 1 ≤ n → 0 ≤ randomValue → randomValue ≤ 1 →
    ∃ delay, settings.retryPolicy.delaySeconds n randomValue = .ok delay ∧
      settings.retryPolicy.ceiling n / 2 ≤ delay ∧ delay ≤ settings.retryPolicy.ceiling n
  growing : ∀ m n, 1 ≤ m → m ≤ n →
    settings.retryPolicy.ceiling m / 2 ≤ settings.retryPolicy.ceiling n / 2 ∧
      settings.retryPolicy.ceiling m ≤ settings.retryPolicy.ceiling n
  reads : ∀ statusCode payload notFound errorCode seconds n randomValue,
    classifyRead settings.maxRetryAfter notFound ⟨statusCode, headers, payload⟩ =
      .error (.retryableProviderError errorCode (some seconds)) →
    ∃ delay, settings.retryPolicy.finalizeDelay n randomValue (some seconds) = .ok delay ∧
      delay.Within 0 settings.integrationMaxRetryAfterSeconds
  writes : ∀ http exchange response errorCode seconds n randomValue,
    IntegrationHttpClient.requestJson http true exchange = .ok response →
    response.headers = headers →
    (⟨http, settings.maxRetryAfter⟩ : GitHubWriter).write exchange =
      .error (.retryableProviderError errorCode (some seconds)) →
    ∃ delay, settings.retryPolicy.finalizeDelay n randomValue (some seconds) = .ok delay ∧
      delay.Within 0 settings.integrationMaxRetryAfterSeconds
  slack : ∀ seconds, slackRetryAfter headers settings.maxRetryAfter = some seconds →
    seconds.Within 0 settings.integrationMaxRetryAfterSeconds
  agrees : slackRetryAfter headers settings.maxRetryAfter =
    retryAfter headers settings.maxRetryAfter
  notBefore : (knownUnsentDelaySeconds (slackRetryAfter headers settings.maxRetryAfter)).Within 1
    (max 5 settings.integrationMaxRetryAfterSeconds)

/-- Every delay is bounded, and both readers of the header agree, if and only if the response does
not ask to retry after NaN seconds. -/
theorem delays_bounded_iff [Runtime] [ResponseReader] (settings : DelaySettings)
    (headers : List (String × String)) :
    DelaysBounded settings headers ↔ ¬ReadsNan headers := by
  constructor
  · intro h hnan
    obtain ⟨q, heq, -⟩ := h.slack .nan (slackRetryAfter_of_readsNan hnan)
    cases heq
  · intro hnan
    have hbase : 0 ≤ settings.retryPolicy.baseSeconds :=
      le_trans (by norm_num) settings.workerRetryBaseSeconds_range.1
    have hcap : 0 ≤ settings.retryPolicy.capSeconds :=
      le_trans (by norm_num) settings.workerRetryCapSeconds_range.1
    have hagrees : slackRetryAfter headers settings.maxRetryAfter =
        retryAfter headers settings.maxRetryAfter := slackRetryAfter_of_not_readsNan hnan
    refine ⟨fun n randomValue _ hlower hupper =>
      RetryPolicy.delaySeconds_bounds hbase hcap hlower hupper, fun m n _ hmn => ?_,
      fun statusCode payload notFound errorCode seconds n randomValue h => ?_,
      fun http exchange response errorCode seconds n randomValue hresponse hheaders h => ?_,
      fun seconds h => ?_, hagrees, within_knownUnsentDelaySeconds⟩
    · have hmono := RetryPolicy.ceiling_mono hbase hmn
      exact ⟨by linarith, hmono⟩
    · exact ⟨seconds, rfl, within_retryAfter (classifyRead_retryable h)⟩
    · have hafter : retryAfter response.headers settings.maxRetryAfter = some seconds :=
        write_retryable hresponse h
      exact ⟨seconds, rfl, within_retryAfter hafter⟩
    · rw [hagrees] at h
      exact within_retryAfter h

namespace Sample

/-- A reader of the one number that no comparison holds of. -/
@[reducible] def nanReader : ResponseReader where
  loads _ := .malformed
  float text := if text = "nan" then some .nan else none

/-- The defaults of `Settings`. -/
def delaySettings : DelaySettings where
  workerRetryBaseSeconds_range := by norm_num
  workerRetryCapSeconds_range := by norm_num
  integrationMaxRetryAfterSeconds_range := by norm_num
  retryBase_le_retryCap := by norm_num

end Sample

open Sample in
attribute [local instance] asciiHost nanReader in
/-- Slack is waited for NaN seconds where every other connector is waited for none. -/
theorem delays_bounded_fails :
    slackRetryAfter [("retry-after", "nan")] delaySettings.maxRetryAfter = some .nan ∧
      retryAfter [("retry-after", "nan")] delaySettings.maxRetryAfter = some (.finite 0) ∧
      ¬DelaysBounded delaySettings [("retry-after", "nan")] := by
  refine ⟨rfl, by decide +kernel, fun h => ?_⟩
  obtain ⟨q, heq, -⟩ := h.slack .nan rfl
  cases heq

end DeploymentLab
