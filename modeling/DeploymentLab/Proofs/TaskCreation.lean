import DeploymentLab.Model.TaskApi
import DeploymentLab.Proofs.HandlerResults
import DeploymentLab.Proofs.TaskTransactions

/-!
# Responses to task creation

What the request model refuses is answered. What it accepts still has to pass the contract of its
type, the encoder and the database, and their exceptions have no handler.
-/

namespace DeploymentLab

open Reading

lemma ofDigitChars_lt {cs : List Char} (h : ∀ c ∈ cs, c.isDigit = true) (n : ℕ) :
    Nat.ofDigitChars 10 cs n < (n + 1) * 10 ^ cs.length := by
  induction cs generalizing n with
  | nil => simp
  | cons c cs ih =>
    rw [List.forall_mem_cons] at h
    have hdigit : c.toNat - '0'.toNat ≤ 9 := by
      have hle := h.1
      rw [Char.isDigit, Bool.and_eq_true, decide_eq_true_eq, decide_eq_true_eq] at hle
      have hle' : c.toNat ≤ 57 := hle.2
      have hzero : '0'.toNat = 48 := rfl
      omega
    rw [Nat.ofDigitChars_cons, List.length_cons, Nat.pow_succ']
    calc Nat.ofDigitChars 10 cs (10 * n + (c.toNat - '0'.toNat))
        < (10 * n + (c.toNat - '0'.toNat) + 1) * 10 ^ cs.length := ih h.2 _
      _ ≤ ((n + 1) * 10) * 10 ^ cs.length := Nat.mul_le_mul_right _ (by omega)
      _ = (n + 1) * (10 * 10 ^ cs.length) := Nat.mul_assoc _ _ _

lemma fractionPart_eq_false {cs : List Char} (h : fractionPart cs = some false) : cs = [] := by
  unfold fractionPart at h
  split at h
  · rfl
  · split at h
    · cases h
    · cases h
  · split at h
    · cases h
    · cases h

/-- An integer that is read is not too long to be written. -/
lemma intRepr_literalValue {token : List Char} (h : numberLiteral token = some false)
    (hlength : (magnitude token).length ≤ 4300) : (intRepr (literalValue token)).isSome = true := by
  have hdigits : (∀ c ∈ magnitude token, c.isDigit = true) ∧ magnitude token ≠ [] := by
    unfold numberLiteral at h
    dsimp only at h
    split at h
    · cases h
    rename_i hwhole
    rw [Bool.or_eq_true, not_or, List.isEmpty_iff] at hwhole
    have hrest := fractionPart_eq_false h
    refine ⟨List.dropWhile_eq_nil_iff.1 hrest, fun hnil => ?_⟩
    rw [hnil] at hwhole
    exact hwhole.1 rfl
  have hnat : (literalValue token).natAbs = Nat.ofDigitChars 10 (magnitude token) 0 := by
    unfold literalValue magnitude
    split <;> simp
  have hlt := ofDigitChars_lt hdigits.1 0
  rw [intRepr_isSome_iff, ShortInt, hnat]
  refine le_trans ((Nat.length_repr_le_iff (List.length_pos_iff.2 hdigits.2)).2 ?_) hlength
  rwa [Nat.zero_add, Nat.one_mul] at hlt

lemma itemsLoaded_iff (items : List PyValue) :
    itemsLoaded items = true ↔ ∀ item ∈ items, item.loaded = true := by
  induction items with
  | nil => simp [itemsLoaded]
  | cons item items ih => rw [itemsLoaded, Bool.and_eq_true, ih, List.forall_mem_cons]

lemma membersLoaded_iff (members : List (PyKey × PyValue)) :
    membersLoaded members = true ↔ ∀ m ∈ members, m.1.isStr = true ∧ m.2.loaded = true := by
  induction members with
  | nil => simp [membersLoaded]
  | cons m members ih =>
    rw [membersLoaded, Bool.and_eq_true, Bool.and_eq_true, ih, List.forall_mem_cons]

/-- The values of a `dict` are values of its pairs. -/
lemma forall_dictOf {p : PyValue → Prop} {pairs : List (PyStr × PyValue)}
    (h : ∀ m ∈ pairs, p m.2) : ∀ m ∈ dictOf pairs, p m.2 := by
  induction pairs with
  | nil => exact h
  | cons pair pairs ih =>
    obtain ⟨key, value⟩ := pair
    rw [List.forall_mem_cons] at h
    rw [dictOf, List.forall_mem_cons]
    refine ⟨?_, fun m hm => ih h.2 m (List.mem_of_mem_filter hm)⟩
    cases hlookup : (dictOf pairs).lookup key with
    | none => exact h.1
    | some value' =>
      obtain ⟨before, after, heq, -⟩ := List.lookup_eq_some_iff.1 hlookup
      refine ih h.2 (key, value') ?_
      rw [heq]
      exact List.mem_append_right _ List.mem_cons_self

section Loads

variable [FloatSyntax]

lemma scanNumber_loaded {cs rest : List Char} {v : PyValue} (h : scanNumber cs = some (v, rest)) :
    v.loaded = true := by
  unfold scanNumber at h
  dsimp only at h
  split at h
  · rename_i hliteral
    split at h
    · rename_i hlength
      cases h
      exact intRepr_literalValue hliteral hlength
    · cases h
  · cases h
    rfl
  · cases h

omit [FloatSyntax] in
lemma scanMember_loaded {scan : List Char → Option (PyValue × List Char)}
    (hscan : ∀ cs v rest, scan cs = some (v, rest) → v.loaded = true) (cs : List Char)
    (m : PyStr × PyValue) (rest : List Char) (h : scanMember scan cs = some (m, rest)) :
    m.2.loaded = true := by
  unfold scanMember at h
  split at h
  · obtain ⟨⟨key, text⟩, -, h⟩ := Option.bind_eq_some_iff.1 h
    dsimp only at h
    split at h
    · obtain ⟨⟨value, text'⟩, hvalue, h⟩ := Option.bind_eq_some_iff.1 h
      cases h
      exact hscan _ _ _ hvalue
    · cases h
  · cases h

/-- Whatever a text is scanned to is a value that may be loaded: by induction on the fuel, as the
parts of a value are scanned with less. -/
lemma scanValue_loaded {fuel : ℕ} {cs rest : List Char} {v : PyValue}
    (h : scanValue fuel cs = some (v, rest)) : v.loaded = true := by
  induction fuel generalizing cs rest v with
  | zero => cases h
  | succ fuel ih =>
    have hscan : ∀ cs v rest, scanValue fuel cs = some (v, rest) → v.loaded = true :=
      fun _ _ _ => ih
    unfold scanValue at h
    split at h
    · obtain ⟨⟨s, text⟩, -, h⟩ := Option.bind_eq_some_iff.1 h
      cases h
      rfl
    · split at h
      · cases h
        rfl
      · obtain ⟨⟨items, text⟩, hitems, h⟩ := Option.bind_eq_some_iff.1 h
        cases h
        exact (itemsLoaded_iff items).2 (forall_of_readParts hscan hitems)
    · split at h
      · cases h
        rfl
      · obtain ⟨⟨pairs, text⟩, hpairs, h⟩ := Option.bind_eq_some_iff.1 h
        cases h
        refine (membersLoaded_iff _).2 ?_
        rw [List.forall_mem_map]
        exact fun m hm => ⟨rfl, forall_dictOf (p := fun v => v.loaded = true)
          (forall_of_readParts (scanMember_loaded hscan) hpairs) m hm⟩
    all_goals first
      | exact scanNumber_loaded h
      | (cases h; rfl)

/-- What `json.loads` returns of any text is the value of a body. -/
theorem jsonLoads_loaded {text : String} {v : PyValue} (h : jsonLoads text = some v) :
    v.loaded = true := by
  unfold jsonLoads at h
  split at h
  · rename_i hscan
    split at h
    · rw [← Option.some.inj h]
      exact scanValue_loaded hscan
    · cases h
  · cases h

end Loads

def PyKey.codePoints : PyKey → PyStr
  | .str s => s
  | _ => []

mutual

/-- The code points of the strings and of the keys in a value. -/
def PyValue.codePoints : PyValue → PyStr
  | .none | .bool _ | .int _ | .float _ _ => []
  | .str s => s
  | .list items | .tuple items => itemsCodePoints items
  | .dict members => membersCodePoints members

def itemsCodePoints : List PyValue → PyStr
  | [] => []
  | item :: items => item.codePoints ++ itemsCodePoints items

def membersCodePoints : List (PyKey × PyValue) → PyStr
  | [] => []
  | (key, value) :: members => key.codePoints ++ value.codePoints ++ membersCodePoints members

end

/-- A character that UTF-8 can encode and that PostgreSQL takes. -/
def CodePoint.storable : CodePoint → Bool
  | .char c => c != '\x00'
  | .surrogate _ => false

mutual

/-- A value that is JSON has the characters of that JSON. -/
theorem codePoints_of_toJson : ∀ {v : PyValue} {a : JsonValue}, v.toJson = some a →
    v.codePoints = a.characters.map .char
  | .none, _, h | .bool _, _, h => by
    cases h
    rfl
  | .int i, a, h => by
    obtain ⟨_, -, rfl⟩ := Option.map_eq_some_iff.1 h
    rfl
  | .float value repr, a, h => by
    rw [PyValue.toJson] at h
    split at h
    · cases h
      rfl
    · cases h
  | .str s, a, h => by
    obtain ⟨t, ht, rfl⟩ := Option.map_eq_some_iff.1 h
    exact (ofString_of_encode ht).symm
  | .list items, a, h => by
    obtain ⟨as, has, rfl⟩ := Option.map_eq_some_iff.1 h
    exact itemsCodePoints_of_toJson has
  | .tuple _, _, h => by cases h
  | .dict members, a, h => by
    obtain ⟨ms, hms, rfl⟩ := Option.map_eq_some_iff.1 h
    exact membersCodePoints_of_toJson hms

theorem itemsCodePoints_of_toJson : ∀ {items : List PyValue} {as : List JsonValue},
    itemsToJson items = some as → itemsCodePoints items = (itemsCharacters as).map .char
  | [], _, h => by
    cases h
    rfl
  | item :: items, _, h => by
    rw [itemsToJson] at h
    obtain ⟨a, ha, h⟩ := Option.bind_eq_some_iff.1 h
    obtain ⟨as, has, h⟩ := Option.bind_eq_some_iff.1 h
    cases h
    rw [itemsCodePoints, itemsCharacters, codePoints_of_toJson ha, itemsCodePoints_of_toJson has,
      List.map_append]

theorem membersCodePoints_of_toJson : ∀ {members : List (PyKey × PyValue)}
    {ms : List (String × JsonValue)}, membersToJson members = some ms →
      membersCodePoints members = (membersCharacters ms).map .char
  | [], _, h => by
    cases h
    rfl
  | (.str key, value) :: members, _, h => by
    rw [membersToJson] at h
    obtain ⟨t, ht, h⟩ := Option.bind_eq_some_iff.1 h
    obtain ⟨a, ha, h⟩ := Option.bind_eq_some_iff.1 h
    obtain ⟨ms, hms, h⟩ := Option.bind_eq_some_iff.1 h
    cases h
    rw [membersCodePoints, membersCharacters, codePoints_of_toJson ha,
      membersCodePoints_of_toJson hms, List.map_append, List.map_append, PyKey.codePoints,
      ← ofString_of_encode ht]
    rfl
  | (.none, _) :: _, _, h | (.bool _, _) :: _, _, h | (.int _, _) :: _, _, h
  | (.float _ _, _) :: _, _, h | (.tuple _, _) :: _, _, h => by cases h

end

lemma exists_encode {s : PyStr} (h : ∀ c ∈ s, c.storable = true) : ∃ t, s.encode = some t := by
  refine Option.isSome_iff_exists.1 ((encode_isSome_iff s).2 fun n hn => ?_)
  cases h _ hn

mutual

/-- A finite value that was loaded, of text that can be encoded, is JSON. -/
theorem exists_toJson : ∀ v : PyValue, v.loaded = true → v.containsNonFinite = false →
    (∀ c ∈ v.codePoints, c.storable = true) → ∃ a, v.toJson = some a
  | .none, _, _, _ => ⟨.null, rfl⟩
  | .bool b, _, _, _ => ⟨.bool b, rfl⟩
  | .int i, hloaded, _, _ => by
    obtain ⟨text, htext⟩ := Option.isSome_iff_exists.1 hloaded
    exact ⟨.int i, Option.map_eq_some_iff.2 ⟨text, htext, rfl⟩⟩
  | .float value repr, _, hfinite, _ => by
    refine ⟨.float repr, if_pos ?_⟩
    simpa [PyValue.containsNonFinite] using hfinite
  | .str s, _, _, hchars => by
    obtain ⟨t, ht⟩ := exists_encode hchars
    exact ⟨.str t, Option.map_eq_some_iff.2 ⟨t, ht, rfl⟩⟩
  | .list items, hloaded, hfinite, hchars => by
    obtain ⟨as, has⟩ := exists_itemsToJson items hloaded hfinite hchars
    exact ⟨.list as, Option.map_eq_some_iff.2 ⟨as, has, rfl⟩⟩
  | .tuple _, hloaded, _, _ => by cases hloaded
  | .dict members, hloaded, hfinite, hchars => by
    obtain ⟨ms, hms⟩ := exists_membersToJson members hloaded hfinite hchars
    exact ⟨.dict ms, Option.map_eq_some_iff.2 ⟨ms, hms, rfl⟩⟩

theorem exists_itemsToJson : ∀ items : List PyValue, itemsLoaded items = true →
    itemsContainNonFinite items = false → (∀ c ∈ itemsCodePoints items, c.storable = true) →
      ∃ as, itemsToJson items = some as
  | [], _, _, _ => ⟨[], rfl⟩
  | item :: items, hloaded, hfinite, hchars => by
    rw [itemsLoaded, Bool.and_eq_true] at hloaded
    rw [itemsContainNonFinite, Bool.or_eq_false_iff] at hfinite
    rw [itemsCodePoints] at hchars
    obtain ⟨a, ha⟩ := exists_toJson item hloaded.1 hfinite.1 fun c hc =>
      hchars c (List.mem_append_left _ hc)
    obtain ⟨as, has⟩ := exists_itemsToJson items hloaded.2 hfinite.2 fun c hc =>
      hchars c (List.mem_append_right _ hc)
    refine ⟨a :: as, ?_⟩
    rw [itemsToJson, ha, has]
    rfl

theorem exists_membersToJson : ∀ members : List (PyKey × PyValue), membersLoaded members = true →
    membersContainNonFinite members = false →
      (∀ c ∈ membersCodePoints members, c.storable = true) → ∃ ms, membersToJson members = some ms
  | [], _, _, _ => ⟨[], rfl⟩
  | (.str key, value) :: members, hloaded, hfinite, hchars => by
    rw [membersLoaded, Bool.and_eq_true, Bool.and_eq_true] at hloaded
    rw [membersContainNonFinite, Bool.or_eq_false_iff] at hfinite
    rw [membersCodePoints] at hchars
    obtain ⟨t, ht⟩ : ∃ t, key.encode = some t := exists_encode fun c hc =>
      hchars c (List.mem_append_left _ (List.mem_append_left _ hc))
    obtain ⟨a, ha⟩ := exists_toJson value hloaded.1.2 hfinite.1 fun c hc =>
      hchars c (List.mem_append_left _ (List.mem_append_right _ hc))
    obtain ⟨ms, hms⟩ := exists_membersToJson members hloaded.2 hfinite.2 fun c hc =>
      hchars c (List.mem_append_right _ hc)
    refine ⟨(t, a) :: ms, ?_⟩
    rw [membersToJson, ht, ha, hms]
    rfl
  | (.none, _) :: _, h, _, _ | (.bool _, _) :: _, h, _, _ | (.int _, _) :: _, h, _, _
  | (.float _ _, _) :: _, h, _, _ | (.tuple _, _) :: _, h, _, _ => by cases h

end

/-- Text that is stored is text that can be encoded and has no U+0000 in it. -/
lemma storable_iff {v : PyValue} (hloaded : v.loaded = true)
    (hfinite : v.containsNonFinite = false) :
    (∀ c ∈ v.codePoints, c.storable = true) ↔
      ∃ a, v.toJson = some a ∧ a.characters.contains '\x00' = false := by
  have hnul : ∀ a : JsonValue, a.characters.contains '\x00' = false ↔
      ∀ c ∈ a.characters.map CodePoint.char, c.storable = true := by
    intro a
    rw [← Bool.not_eq_true, List.contains_iff_mem]
    simp only [List.forall_mem_map, CodePoint.storable, bne_iff_ne]
    exact ⟨fun h c hc heq => h (heq ▸ hc), fun h hmem => h _ hmem rfl⟩
  constructor
  · intro h
    obtain ⟨a, ha⟩ := exists_toJson v hloaded hfinite h
    refine ⟨a, ha, (hnul a).2 ?_⟩
    rwa [← codePoints_of_toJson ha]
  · rintro ⟨a, ha, h⟩
    rw [codePoints_of_toJson ha]
    exact (hnul a).1 h

lemma ne_nul_of_mem {p : Char → Bool} (hp : p '\x00' = false) {cs : List Char}
    (h : ∀ c ∈ cs, p c = true) : '\x00' ∉ cs := by
  intro hmem
  rw [h _ hmem] at hp
  cases hp

lemma nul_notMem_jiraIssueKey {s : String} (h : jiraIssueKeyPattern s = true) :
    '\x00' ∉ s.toList := by
  have hparts := partitionAt_parts '-' s.toList
  unfold jiraIssueKeyPattern at h
  generalize partitionAt '-' s.toList = parts at h hparts
  obtain ⟨project, found, number⟩ := parts
  simp only [Bool.and_eq_true, List.all_eq_true] at h
  have hproject : '\x00' ∉ project := ne_nul_of_mem (by decide) h.1.1.1.2
  have hnumber : '\x00' ∉ number := ne_nul_of_mem (by decide) h.2
  dsimp only at hparts
  rw [h.1.1.1.1.1.1, if_pos rfl] at hparts
  rw [← hparts]
  simp [hproject, hnumber]

lemma nul_notMem_repository {s : String} (h : repositoryPattern s = true) :
    '\x00' ∉ s.toList := by
  have hparts := partitionAt_parts '/' s.toList
  unfold repositoryPattern at h
  generalize partitionAt '/' s.toList = parts at h hparts
  obtain ⟨owner, found, name⟩ := parts
  simp only [Bool.and_eq_true, List.all_eq_true] at h
  have howner : '\x00' ∉ owner := ne_nul_of_mem (by decide) h.1.1.2
  have hname : '\x00' ∉ name := ne_nul_of_mem (by decide) h.2
  dsimp only at hparts
  rw [h.1.1.1.1, if_pos rfl] at hparts
  rw [← hparts]
  simp [howner, hname]

lemma nul_notMem_slackChannel {s : String} (h : slackChannelPattern s = true) :
    '\x00' ∉ s.toList := by
  unfold slackChannelPattern at h
  cases hs : s.toList with
  | nil => exact List.not_mem_nil
  | cons c cs =>
    rw [hs] at h
    simp only [Bool.and_eq_true, Bool.or_eq_true, List.all_eq_true] at h
    rw [List.mem_cons, not_or]
    refine ⟨?_, ne_nul_of_mem (p := fun c => c.isUpper || c.isDigit) (by decide) fun c hc => ?_⟩
    · rintro rfl
      exact absurd h.1.1 (by decide)
    · simpa using h.2 c hc

/-- The contract takes visible ASCII only. -/
lemma nul_notMem_modelDump (input : DeploymentContextSyncInput) :
    input.modelDump.characters.contains '\x00' = false := by
  have hjira := nul_notMem_jiraIssueKey input.jiraIssueKey_pattern
  have hrepository := nul_notMem_repository input.githubRepository_pattern
  have hservice : '\x00' ∉ input.serviceId.toList := by
    have h := input.serviceId_visible
    rw [visibleIdentifier, Bool.and_eq_true, List.all_eq_true] at h
    exact ne_nul_of_mem (by decide) h.2
  have hchannel : ∀ channel ∈ input.slackChannelId, '\x00' ∉ channel.toList := by
    intro channel hchannel
    have h := input.slackChannelId_pattern
    rw [hchannel] at h
    exact nul_notMem_slackChannel h
  rw [← Bool.not_eq_true, List.contains_iff_mem]
  cases hchannels : input.slackChannelId with
  | none =>
    simp [DeploymentContextSyncInput.modelDump, hchannels, JsonValue.characters, membersCharacters,
      hjira, hrepository, hservice]
  | some channel =>
    simp [DeploymentContextSyncInput.modelDump, hchannels, JsonValue.characters, membersCharacters,
      hjira, hrepository, hservice, hchannel channel hchannels]

/-- What a body is when it has been accepted. -/
structure CreatePayload.Valid (payload : CreatePayload) : Prop where
  taskType : taskTypePattern payload.taskType = true
  object : ∃ members, payload.input = .dict members
  loaded : payload.input.loaded = true
  finite : payload.input.containsNonFinite = false

lemma loaded_of_field {members : List (PyKey × PyValue)} (h : membersLoaded members = true)
    {name : String} {value : PyValue} (hfield : CreatePayload.field members name = some value) :
    value.loaded = true := by
  obtain ⟨m, hm, rfl⟩ := Option.map_eq_some_iff.1 hfield
  exact ((membersLoaded_iff members).1 h m (List.mem_of_find?_eq_some hm)).2

section Validation

variable [InputScreen]

/-- The request model accepts a body or raises the one error of validation. -/
lemma modelValidate_cases {value : PyValue} (hloaded : value.loaded = true) :
    CreatePayload.modelValidate value = .error .requestValidationError ∨
      ∃ payload, CreatePayload.modelValidate value = .ok payload ∧ payload.Valid := by
  cases value with
  | dict members =>
    rw [CreatePayload.modelValidate]
    split
    · split
      · rename_i s input hs hinput
        split
        · rename_i taskType _
          split
          · rename_i hpasses
            rw [Bool.and_eq_true] at hpasses
            cases hfinite : (PyValue.dict input).containsNonFinite with
            | true =>
              left
              rw [rejectNonFiniteNumbers, hfinite]
              rfl
            | false =>
              right
              rw [rejectNonFiniteNumbers, hfinite]
              exact ⟨_, rfl, hpasses.1, ⟨input, rfl⟩, loaded_of_field hloaded hinput, hfinite⟩
          · exact .inl rfl
        · exact .inl rfl
      · exact .inl rfl
    · exact .inl rfl
  | none | bool _ | int _ | float _ _ | str _ | list _ | tuple _ => exact .inl rfl

lemma validate_cases {body : RequestBody} (hbody : body ≠ .unreadable) :
    body.validate = .error .requestValidationError ∨
      ∃ payload, body.validate = .ok payload ∧ payload.Valid := by
  cases body with
  | json value loaded => exact modelValidate_cases loaded
  | malformed => exact .inl rfl
  | unreadable => exact absurd rfl hbody

end Validation

/-! ## The request to the service -/

section Request

variable [LaxCoercion] {payload : CreatePayload} {idempotencyKey : String}

/-- The input keeps the contract of its type: that of the one type, or for any other that its text
can be stored. -/
def CreatePayload.Storable (payload : CreatePayload) : Prop :=
  if payload.taskType = "deployment_context_sync" then
    ∃ a input, payload.input.toJson = some a ∧
      DeploymentContextSyncInput.modelValidate a = some input
  else ∀ c ∈ payload.input.codePoints, c.storable = true

lemma request_sync {a : JsonValue} (ha : payload.input.toJson = some a)
    (hsync : payload.taskType = "deployment_context_sync") :
    payload.request idempotencyKey =
      match DeploymentContextSyncInput.modelValidate a with
      | some input => .ok ⟨idempotencyKey, payload.taskType, input.modelDump⟩
      | none => .error .validationError := by
  unfold CreatePayload.request TaskCreateRequest.request normalizeTaskInput
  rw [ha]
  dsimp only
  rw [if_neg (not_not.2 hsync)]
  cases DeploymentContextSyncInput.modelValidate a <;> rfl

lemma request_other {a : JsonValue} (ha : payload.input.toJson = some a)
    (hother : payload.taskType ≠ "deployment_context_sync") :
    payload.request idempotencyKey = .ok ⟨idempotencyKey, payload.taskType, a⟩ := by
  unfold CreatePayload.request TaskCreateRequest.request normalizeTaskInput
  rw [ha]
  dsimp only
  rw [if_pos hother]
  rfl

omit [LaxCoercion] in
lemma accepted_of_valid (hvalid : payload.Valid) (hkey : validIdempotencyKey idempotencyKey = true)
    {taskInput : JsonValue} (hdict : taskInput.isDict = true) :
    CreateTaskRequest.accepted ⟨idempotencyKey, payload.taskType, taskInput⟩ = true := by
  rw [validIdempotencyKey, Bool.and_eq_true] at hkey
  rw [CreateTaskRequest.accepted, hkey.1, hkey.2, hvalid.taskType, hdict]
  rfl

/-- An input that keeps the contract makes a request that can be stored. -/
lemma exists_request (hvalid : payload.Valid) (hkey : validIdempotencyKey idempotencyKey = true)
    (hstorable : payload.Storable) :
    ∃ request, payload.request idempotencyKey = .ok request ∧ request.accepted = true ∧
      request.taskInput.characters.contains '\x00' = false := by
  unfold CreatePayload.Storable at hstorable
  split at hstorable
  · rename_i hsync
    obtain ⟨a, input, ha, hinput⟩ := hstorable
    refine ⟨⟨idempotencyKey, payload.taskType, input.modelDump⟩, ?_,
      accepted_of_valid hvalid hkey rfl, nul_notMem_modelDump input⟩
    rw [request_sync ha hsync, hinput]
  · rename_i hother
    obtain ⟨a, ha, hnul⟩ := (storable_iff hvalid.loaded hvalid.finite).1 hstorable
    have hdict : a.isDict = true := by
      obtain ⟨members, hmembers⟩ := hvalid.object
      rw [hmembers] at ha
      obtain ⟨ms, -, rfl⟩ := Option.map_eq_some_iff.1 ha
      rfl
    exact ⟨⟨idempotencyKey, payload.taskType, a⟩, request_other ha hother,
      accepted_of_valid hvalid hkey hdict, hnul⟩

/-- An input that breaks it fails without a handler, at the latest in the database. -/
lemma request_fails (idempotencyKey : String) (hvalid : payload.Valid)
    (hstorable : ¬payload.Storable) :
    (∃ e, payload.request idempotencyKey = .error e ∧ e.status = 500) ∨
      ∃ request, payload.request idempotencyKey = .ok request ∧
        request.taskInput.characters.contains '\x00' = true := by
  unfold CreatePayload.Storable at hstorable
  cases ha : payload.input.toJson with
  | none =>
    left
    unfold CreatePayload.request
    rw [ha]
    dsimp only
    split
    · exact ⟨_, rfl, rfl⟩
    · exact ⟨_, rfl, rfl⟩
  | some a =>
    split at hstorable
    · rename_i hsync
      left
      cases hinput : DeploymentContextSyncInput.modelValidate a with
      | none => exact ⟨.validationError, by rw [request_sync ha hsync, hinput], rfl⟩
      | some input => exact absurd ⟨a, input, ha, hinput⟩ hstorable
    · rename_i hother
      right
      refine ⟨_, request_other ha hother, ?_⟩
      by_contra hnul
      exact hstorable ((storable_iff hvalid.loaded hvalid.finite).2
        ⟨a, ha, Bool.not_eq_true _ ▸ hnul⟩)

end Request

/-- The request ends as the API documents it: created, replayed, in a conflict of keys or refused by
validation, and no exception is left to the framework. -/
structure Answered (response : Except ApiError (CreateTaskResult × Database)) : Prop where
  status : responseStatus response ∈ [201, 200, 409, 422]
  conflict : responseStatus response = 409 → response = .error (.service .idempotencyConflictError)
  registered : ∀ e, response = .error e → e.registered = true

lemma answered_refused : Answered (.error .requestValidationError) where
  status := by decide
  conflict h := absurd h (by decide)
  registered e he := by
    cases he
    rfl

lemma answered_ok (result : CreateTaskResult) (db : Database) : Answered (.ok (result, db)) := by
  refine ⟨?_, fun h => ?_, fun e he => nomatch he⟩
  · rw [responseStatus]
    split <;> decide
  · rw [responseStatus] at h
    split at h <;> exact absurd h (by decide)

lemma not_answered_of_status {e : ApiError} (h : e.status = 500) : ¬Answered (.error e) := by
  intro hanswered
  have hstatus := hanswered.status
  rw [responseStatus, h] at hstatus
  exact absurd hstatus (by decide)

section Responses

variable [Runtime] {settings : CoordinationSettings} {db : Database} {timestamp : Timestamp}
  {taskId : UUID} {request : CreateTaskRequest}

lemma answered_insertTask (hfresh : db.task taskId = none) (haccepted : request.accepted = true)
    (hnul : request.taskInput.characters.contains '\x00' = false) :
    Answered (insertTask settings db timestamp taskId request) := by
  unfold insertTask
  rw [hnul, if_neg Bool.false_ne_true]
  rcases createTask_cases settings.positive timestamp hfresh haccepted with
    ⟨t, -, -, hconflict⟩ | ⟨t, -, -, hreplay⟩ | ⟨-, tasks, -, hcreated⟩
  · rw [hconflict]
    refine ⟨by decide, fun _ => rfl, fun e he => ?_⟩
    cases he
    rfl
  · rw [hreplay]
    exact answered_ok _ _
  · rw [hcreated]
    exact answered_ok _ _

lemma not_answered_insertTask (hnul : request.taskInput.characters.contains '\x00' = true) :
    ¬Answered (insertTask settings db timestamp taskId request) := by
  unfold insertTask
  rw [if_pos hnul]
  exact not_answered_of_status rfl

lemma postTask_eq [LaxCoercion] [InputScreen] {idempotencyKey : String}
    (hkey : validIdempotencyKey idempotencyKey = true) {body : RequestBody}
    {payload : CreatePayload}
    (hpayload : body.validate = .ok payload) :
    postTask settings db timestamp taskId idempotencyKey body =
      payload.request idempotencyKey >>= insertTask settings db timestamp taskId := by
  unfold postTask
  rw [hpayload, hkey]
  rfl

/-- A request with a valid key is answered if and only if its body can be read, and holds an input
that keeps the contract of its type wherever the request model accepts it. -/
theorem post_task_answered_iff [LaxCoercion] [InputScreen] (settings : CoordinationSettings)
    (db : Database) (timestamp : Timestamp) (taskId : UUID) (hfresh : db.task taskId = none)
    (idempotencyKey : String) (hkey : validIdempotencyKey idempotencyKey = true)
    (body : RequestBody) :
    Answered (postTask settings db timestamp taskId idempotencyKey body) ↔
      body ≠ .unreadable ∧ ∀ payload, body.validate = .ok payload → payload.Storable := by
  by_cases hbody : body = .unreadable
  · subst hbody
    refine ⟨fun h => ?_, fun h => absurd rfl h.1⟩
    exact absurd (h.registered (.httpException 400) rfl) (by decide)
  rcases validate_cases hbody with hrefused | ⟨payload, hpayload, hvalid⟩
  · have hpost : postTask settings db timestamp taskId idempotencyKey body =
        .error .requestValidationError := by
      rw [postTask, hrefused]
      rfl
    rw [hpost, hrefused]
    refine ⟨fun _ => ⟨hbody, fun payload h => nomatch h⟩, fun _ => answered_refused⟩
  have hiff : (∀ payload', body.validate = .ok payload' → payload'.Storable) ↔
      payload.Storable := by
    rw [hpayload]
    refine ⟨fun h => h _ rfl, fun h payload' heq => ?_⟩
    rwa [← Except.ok.inj heq]
  rw [hiff, and_iff_right hbody, postTask_eq hkey hpayload]
  constructor
  · intro hanswered
    by_contra hstorable
    rcases request_fails idempotencyKey hvalid hstorable with
      ⟨e, he, hstatus⟩ | ⟨request, hrequest, hnul⟩
    · rw [he] at hanswered
      exact not_answered_of_status hstatus hanswered
    · rw [hrequest] at hanswered
      exact not_answered_insertTask hnul hanswered
  · intro hstorable
    obtain ⟨request, hrequest, haccepted, hnul⟩ := exists_request hvalid hkey hstorable
    rw [hrequest]
    exact answered_insertTask hfresh haccepted hnul

end Responses

namespace Sample

/-- A framework that refuses nothing of its own. -/
@[reducible] def screen : InputScreen where
  passes _ := true

/-- The text of a task with an empty input. -/
def emptyText (taskType : String) : String :=
  "\x7b\"task_type\": \"" ++ taskType ++ "\", \"input\": \x7b\x7d\x7d"

def emptyValue (taskType : String) : PyValue :=
  .dict [(.str (.ofString "task_type"), .str (.ofString taskType)),
    (.str (.ofString "input"), .dict [])]

attribute [local instance] oneFloat

set_option maxRecDepth 100000 in
lemma jsonLoads_change : jsonLoads (emptyText "code_change") = some (emptyValue "code_change") := by
  rfl

set_option maxRecDepth 100000 in
lemma jsonLoads_sync : jsonLoads (emptyText "deployment_context_sync") =
    some (emptyValue "deployment_context_sync") := by
  rfl

/-- The body that such a text is read to. -/
def emptyBody {taskType : String}
    (h : jsonLoads (emptyText taskType) = some (emptyValue taskType)) :
    RequestBody :=
  .json (emptyValue taskType) (jsonLoads_loaded h)

attribute [local instance] screen in
lemma validate_emptyBody {taskType : String} (h : taskTypePattern taskType = true)
    (hloads : jsonLoads (emptyText taskType) = some (emptyValue taskType)) :
    (emptyBody hloads).validate = .ok ⟨taskType, .dict []⟩ := by
  have hinput : (PyStr.ofString "input" == PyStr.ofString "task_type") = false := by decide
  have htype : (PyStr.ofString "task_type" == PyStr.ofString "input") = false := by decide
  simp [emptyBody, emptyValue, RequestBody.validate, CreatePayload.modelValidate,
    CreatePayload.field, PyKey.isNamed, hinput, htype, encode_ofString, h, rejectNonFiniteNumbers,
    PyValue.containsNonFinite, membersContainNonFinite]
  rfl

end Sample

attribute [local instance] Sample.asciiHost Sample.laxCoercion Sample.screen in
open Sample in
theorem post_task_answered_iff_change :
    Answered (postTask {} database 0 99 "key-1" (emptyBody jsonLoads_change)) := by
  rw [post_task_answered_iff {} database 0 99 (by decide +kernel) "key-1" (by decide)]
  refine ⟨by rintro ⟨⟩, fun payload h => ?_⟩
  rw [validate_emptyBody (by decide) jsonLoads_change] at h
  obtain rfl := Except.ok.inj h
  rintro c ⟨⟩

attribute [local instance] Sample.asciiHost Sample.laxCoercion Sample.screen in
open Sample in
/-- An empty input breaks the contract of a deployment context, and the exception is nobody's. -/
theorem post_task_unhandled : ¬∀ (settings : CoordinationSettings) (db : Database)
    (timestamp : Timestamp) (taskId : UUID), db.task taskId = none →
      ∀ idempotencyKey, validIdempotencyKey idempotencyKey = true → ∀ body : RequestBody,
        Answered (postTask settings db timestamp taskId idempotencyKey body) := by
  intro h
  have hanswered := h {} database 0 99 (by decide +kernel) "key-1" (by decide)
    (emptyBody jsonLoads_sync)
  have hpost : postTask {} database 0 99 "key-1" (emptyBody jsonLoads_sync) =
      .error .validationError := by
    have hinput : DeploymentContextSyncInput.modelValidate (.dict []) = none := rfl
    rw [postTask_eq (by decide) (validate_emptyBody (by decide) jsonLoads_sync)]
    rw [request_sync rfl rfl, hinput]
    rfl
  rw [hpost] at hanswered
  exact not_answered_of_status rfl hanswered

end DeploymentLab
