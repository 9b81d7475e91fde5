import DeploymentLab.Proofs.JsonRoundTrip

/-!
# Accepted handler results

`validate_handler_result` looks at the keys of the outermost object only, and leaves the rest to an
encoder that writes tuples as arrays and numbers as keys. What it accepts is plain JSON exactly
where the value is so at every depth.
-/

namespace DeploymentLab

mutual

/-- The value is JSON: keys are strings, arrays lists, and numbers finite. -/
def PyValue.Plain : PyValue → Prop
  | .none | .bool _ | .int _ | .str _ => True
  | .float value _ => value.isFinite = true
  | .list items => plainItems items
  | .tuple _ => False
  | .dict members => plainMembers members

def plainItems : List PyValue → Prop
  | [] => True
  | item :: items => item.Plain ∧ plainItems items

def plainMembers : List (PyKey × PyValue) → Prop
  | [] => True
  | (key, value) :: members => key.isStr = true ∧ value.Plain ∧ plainMembers members

end

/-- No half of a surrogate pair stands in the text. -/
def PyStr.Encodable (s : PyStr) : Prop := ∀ n, CodePoint.surrogate n ∉ s

def ShortInt (i : ℤ) : Prop := i.natAbs.repr.length ≤ 4300

def PyKey.Encodable : PyKey → Prop
  | .none | .bool _ => True
  | .int i => ShortInt i
  | .float value _ => value.isFinite = true
  | .str s => s.Encodable
  | .tuple _ => False

mutual

/-- The encoder can write the value: text without surrogates, integers that are not too long, finite
numbers, and for each `dict` keys that can be written and sorted. -/
def PyValue.Encodable : PyValue → Prop
  | .none | .bool _ => True
  | .int i => ShortInt i
  | .float value _ => value.isFinite = true
  | .str s => s.Encodable
  | .list items | .tuple items => encodableItems items
  | .dict members => sortable (members.map (·.1)) = true ∧ encodableMembers members

def encodableItems : List PyValue → Prop
  | [] => True
  | item :: items => item.Encodable ∧ encodableItems items

def encodableMembers : List (PyKey × PyValue) → Prop
  | [] => True
  | (key, value) :: members => key.Encodable ∧ value.Encodable ∧ encodableMembers members

end

lemma encode_isSome_iff (s : PyStr) : s.encode.isSome = true ↔ s.Encodable := by
  rw [PyStr.encode, Option.isSome_map]
  induction s with
  | nil => simp [PyStr.Encodable]
  | cons c s ih =>
    have hcons : PyStr.Encodable (c :: s) ↔ c.char?.isSome = true ∧ PyStr.Encodable s := by
      cases c with
      | char c => simp [PyStr.Encodable, CodePoint.char?]
      | surrogate n =>
        refine ⟨fun h => absurd List.mem_cons_self (h n), fun h => ?_⟩
        cases h.1
    rw [hcons, ← ih, List.mapM_cons]
    cases c.char? with
    | none => simp
    | some c => cases s.mapM CodePoint.char? <;> simp

lemma intRepr_isSome_iff (i : ℤ) : (intRepr i).isSome = true ↔ ShortInt i := by
  unfold intRepr ShortInt
  split <;> simp [*]

lemma text_isSome_iff (key : PyKey) : key.text.isSome = true ↔ key.Encodable := by
  cases key with
  | none | bool _ => simp [PyKey.text, PyKey.Encodable]
  | int i => exact intRepr_isSome_iff i
  | float value repr =>
    rw [PyKey.text, PyKey.Encodable]
    cases value.isFinite <;> simp
  | str s => exact encode_isSome_iff s
  | tuple items => simp [PyKey.text, PyKey.Encodable]

mutual

theorem encodedJson_isSome_iff : ∀ v : PyValue, v.encodedJson.isSome = true ↔ v.Encodable
  | .none | .bool _ => by simp [PyValue.encodedJson, PyValue.Encodable]
  | .int i => intRepr_isSome_iff i
  | .float value repr => by
    rw [PyValue.encodedJson, PyValue.Encodable]
    cases value.isFinite <;> simp
  | .str s => by
    rw [PyValue.encodedJson, Option.isSome_map]
    exact encode_isSome_iff s
  | .list items => by
    rw [PyValue.encodedJson, PyValue.Encodable, ← encodedItems_isSome_iff items]
    cases encodedItems items <;> simp
  | .tuple items => by
    rw [PyValue.encodedJson, PyValue.Encodable, ← encodedItems_isSome_iff items]
    cases encodedItems items <;> simp
  | .dict members => by
    rw [PyValue.encodedJson, PyValue.Encodable, ← encodedMembers_isSome_iff members]
    cases encodedMembers members with
    | none => simp
    | some items => cases sortable (members.map (·.1)) <;> simp

theorem encodedItems_isSome_iff : ∀ items : List PyValue,
    (encodedItems items).isSome = true ↔ encodableItems items
  | [] => by simp [encodedItems, encodableItems]
  | item :: items => by
    rw [encodedItems, encodableItems, ← encodedJson_isSome_iff item,
      ← encodedItems_isSome_iff items]
    cases item.encodedJson with
    | none => simp
    | some text => cases encodedItems items <;> simp

theorem encodedMembers_isSome_iff : ∀ members : List (PyKey × PyValue),
    (encodedMembers members).isSome = true ↔ encodableMembers members
  | [] => by simp [encodedMembers, encodableMembers]
  | (key, value) :: members => by
    rw [encodedMembers, encodableMembers, ← text_isSome_iff key, ← encodedJson_isSome_iff value,
      ← encodedMembers_isSome_iff members]
    cases key.text with
    | none => simp
    | some keyText =>
      cases value.encodedJson with
      | none => simp
      | some text => cases encodedMembers members <;> simp

end

mutual

theorem containsNonFinite_of_encodable : ∀ v : PyValue, v.Encodable → v.containsNonFinite = false
  | .none, _ | .bool _, _ | .int _, _ | .str _, _ | .tuple _, _ => by
    simp [PyValue.containsNonFinite]
  | .float value repr, h => by
    rw [PyValue.containsNonFinite]
    exact congrArg Bool.not h
  | .list items, h => itemsContainNonFinite_of_encodable items h
  | .dict members, h => membersContainNonFinite_of_encodable members h.2

theorem itemsContainNonFinite_of_encodable : ∀ items : List PyValue, encodableItems items →
    itemsContainNonFinite items = false
  | [], _ => rfl
  | item :: items, h => by
    rw [itemsContainNonFinite, containsNonFinite_of_encodable item h.1,
      itemsContainNonFinite_of_encodable items h.2]
    rfl

theorem membersContainNonFinite_of_encodable : ∀ members : List (PyKey × PyValue),
    encodableMembers members → membersContainNonFinite members = false
  | [], _ => rfl
  | (key, value) :: members, h => by
    rw [membersContainNonFinite, containsNonFinite_of_encodable value h.2.1,
      membersContainNonFinite_of_encodable members h.2.2]
    rfl

end

mutual

theorem passesNonFinite_of_plain : ∀ v : PyValue, v.Plain → v.passesNonFinite = true
  | .none, _ | .bool _, _ | .int _, _ | .str _, _ => by simp [PyValue.passesNonFinite]
  | .float _ _, h => h
  | .list items, h => itemsPassNonFinite_of_plain items h
  | .tuple _, h => h.elim
  | .dict members, h => membersPassNonFinite_of_plain members h

theorem itemsPassNonFinite_of_plain : ∀ items : List PyValue, plainItems items →
    itemsPassNonFinite items = true
  | [], _ => rfl
  | item :: items, h => by
    rw [itemsPassNonFinite, passesNonFinite_of_plain item h.1,
      itemsPassNonFinite_of_plain items h.2]
    rfl

theorem membersPassNonFinite_of_plain : ∀ members : List (PyKey × PyValue), plainMembers members →
    membersPassNonFinite members = true
  | [], _ => rfl
  | (key, value) :: members, h => by
    rw [membersPassNonFinite, h.1, passesNonFinite_of_plain value h.2.1,
      membersPassNonFinite_of_plain members h.2.2]
    rfl

end

/-! ## Plain values as JSON -/

section Genuine

variable [FloatSyntax]

mutual

/-- The value is one that the host can hold: the keys of a `dict` are distinct, and floats are those
of the host. -/
def PyValue.Genuine : PyValue → Prop
  | .float (.finite q) repr => FloatSyntax.genuine q repr
  | .list items | .tuple items => genuineItems items
  | .dict members => (members.map (·.1)).Nodup ∧ genuineMembers members
  | _ => True

def genuineItems : List PyValue → Prop
  | [] => True
  | item :: items => item.Genuine ∧ genuineItems items

def genuineMembers : List (PyKey × PyValue) → Prop
  | [] => True
  | (_, value) :: members => value.Genuine ∧ genuineMembers members

end

omit [FloatSyntax] in
lemma map_char_of_mapM {s : PyStr} {cs : List Char} (h : s.mapM CodePoint.char? = some cs) :
    cs.map .char = s := by
  induction s generalizing cs with
  | nil =>
    cases h
    rfl
  | cons c s ih =>
    rw [List.mapM_cons] at h
    cases c with
    | surrogate n => cases h
    | char c =>
      cases hs : s.mapM CodePoint.char? with
      | none =>
        rw [hs] at h
        cases h
      | some ds =>
        rw [hs] at h
        cases h
        exact congrArg (CodePoint.char c :: ·) (ih hs)

omit [FloatSyntax] in
lemma ofString_of_encode {s : PyStr} {t : String} (h : s.encode = some t) :
    PyStr.ofString t = s := by
  obtain ⟨cs, hcs, rfl⟩ := Option.map_eq_some_iff.1 h
  rw [ofString_eq, String.toList_ofList, map_char_of_mapM hcs]

/-- A member as the encoder sees it before it sorts. -/
def encodedMember (m : String × JsonValue) : PyKey × String × String :=
  (.str (PyStr.ofString m.1), m.1, canonicalJson m.2)

omit [FloatSyntax] in
/-- Objects with string keys are written as JSON objects are. -/
lemma encodedJson_dict {members : List (PyKey × PyValue)} {ms : List (String × JsonValue)}
    (hsort : sortable (members.map (·.1)) = true)
    (h : encodedMembers members = some (ms.map encodedMember)) :
    (PyValue.dict members).encodedJson = some (canonicalJson (.dict ms)) := by
  have hstr : ((ms.map encodedMember).all fun item => item.1.isStr) = true := by
    simp [encodedMember, PyKey.isStr]
  have hitems : sortItems (ms.map encodedMember) = sortMembers (canonicalMembers ms) := by
    rw [sortItems, if_pos hstr, List.map_map, canonicalMembers_eq]
    rfl
  rw [PyValue.encodedJson, h, Option.bind_eq_bind, Option.bind_some, if_pos hsort, hitems,
    canonicalJson]

mutual

/-- A plain value that can be written is JSON, and is written as `canonical_json` writes it. -/
theorem toJson_of_plain : ∀ v : PyValue, v.Plain → v.Encodable → v.Genuine →
    ∃ a, v.toJson = some a ∧ a.Written ∧ v.encodedJson = some (canonicalJson a)
  | .none, _, _, _ => ⟨.null, rfl, trivial, rfl⟩
  | .bool b, _, _, _ => ⟨.bool b, rfl, trivial, by cases b <;> rfl⟩
  | .int i, _, h, _ => by
    have hi : intRepr i = some (toString i) := if_pos h
    refine ⟨.int i, ?_, (intRepr_isSome_iff i).2 h, hi⟩
    rw [PyValue.toJson, hi]
    rfl
  | .float (.finite q) repr, _, _, hgenuine => ⟨.float repr, rfl, ⟨q, hgenuine⟩, rfl⟩
  | .float .nan _, h, _, _ | .float .positiveInfinity _, h, _, _
  | .float .negativeInfinity _, h, _, _ => by
    cases h
  | .str s, _, h, _ => by
    obtain ⟨t, ht⟩ := Option.isSome_iff_exists.1 ((encode_isSome_iff s).2 h)
    refine ⟨.str t, ?_, trivial, ?_⟩
    · rw [PyValue.toJson, ht]
      rfl
    · rw [PyValue.encodedJson, ht]
      rfl
  | .list items, hplain, h, hgenuine => by
    obtain ⟨as, has, hwritten, htexts⟩ := itemsToJson_of_plain items hplain h hgenuine
    refine ⟨.list as, ?_, hwritten, ?_⟩
    · rw [PyValue.toJson, has]
      rfl
    · rw [PyValue.encodedJson, htexts]
      rfl
  | .tuple _, hplain, _, _ => hplain.elim
  | .dict members, hplain, h, hgenuine => by
    obtain ⟨ms, hms, hwritten, hkeys, htexts⟩ :=
      membersToJson_of_plain members hplain h.2 hgenuine.2
    refine ⟨.dict ms, ?_, ⟨?_, hwritten⟩, encodedJson_dict h.1 htexts⟩
    · rw [PyValue.toJson, hms]
      rfl
    · have hnodup := hgenuine.1
      rw [hkeys] at hnodup
      have hmap : (ms.map fun m => PyKey.str (PyStr.ofString m.1)) =
          (ms.map (·.1)).map fun key => PyKey.str (PyStr.ofString key) := by
        rw [List.map_map]
        rfl
      rw [hmap] at hnodup
      exact hnodup.of_map

theorem itemsToJson_of_plain : ∀ items : List PyValue, plainItems items → encodableItems items →
    genuineItems items → ∃ as, itemsToJson items = some as ∧ writtenItems as ∧
      encodedItems items = some (canonicalItems as)
  | [], _, _, _ => ⟨[], rfl, trivial, rfl⟩
  | item :: items, hplain, h, hgenuine => by
    obtain ⟨a, ha, hwritten, htext⟩ := toJson_of_plain item hplain.1 h.1 hgenuine.1
    obtain ⟨as, has, hwrittens, htexts⟩ := itemsToJson_of_plain items hplain.2 h.2 hgenuine.2
    refine ⟨a :: as, ?_, ⟨hwritten, hwrittens⟩, ?_⟩
    · rw [itemsToJson, ha, has]
      rfl
    · rw [encodedItems, htext, htexts]
      rfl

theorem membersToJson_of_plain : ∀ members : List (PyKey × PyValue), plainMembers members →
    encodableMembers members → genuineMembers members →
      ∃ ms, membersToJson members = some ms ∧ writtenMembers ms ∧
        members.map (·.1) = (ms.map fun m => PyKey.str (PyStr.ofString m.1)) ∧
        encodedMembers members = some (ms.map encodedMember)
  | [], _, _, _ => ⟨[], rfl, trivial, rfl, rfl⟩
  | (.str key, value) :: members, hplain, h, hgenuine => by
    obtain ⟨a, ha, hwritten, htext⟩ := toJson_of_plain value hplain.2.1 h.2.1 hgenuine.1
    obtain ⟨ms, hms, hwrittens, hkeys, htexts⟩ :=
      membersToJson_of_plain members hplain.2.2 h.2.2 hgenuine.2
    obtain ⟨t, ht⟩ := Option.isSome_iff_exists.1 ((encode_isSome_iff key).2 h.1)
    refine ⟨(t, a) :: ms, ?_, ⟨hwritten, hwrittens⟩, ?_, ?_⟩
    · rw [membersToJson, ht, ha, hms]
      rfl
    · rw [List.map_cons, List.map_cons, hkeys, ofString_of_encode ht]
    · rw [encodedMembers, PyKey.text, ht, htext, htexts, List.map_cons, encodedMember,
        ofString_of_encode ht]
      rfl
  | (.none, _) :: _, hplain, _, _ | (.bool _, _) :: _, hplain, _, _ | (.int _, _) :: _, hplain, _, _
  | (.float _ _, _) :: _, hplain, _, _ | (.tuple _, _) :: _, hplain, _, _ => by
    cases hplain.1

end

/-- The outermost value is an object with string keys. -/
def PyValue.IsObject : PyValue → Prop
  | .dict members => ∀ m ∈ members, m.1.isStr = true
  | _ => False

/-- The two values are the same JSON, up to the order of the keys. -/
def SameJson (v w : PyValue) : Prop :=
  ∃ a b, v.toJson = some a ∧ w.toJson = some b ∧ a.Alike b

/-- The accepted value is plain JSON: an object at every depth, whose canonical text is within the
limit and is read back as the value. -/
structure PlainResult (maximumBytes : ℕ) (result accepted : PyValue) : Prop where
  same : accepted = result
  object : result.IsObject
  plain : result.Plain
  readBack : ∃ text decoded, result.canonicalJson = some text ∧ text.utf8ByteSize ≤ maximumBytes ∧
    jsonLoads text = some decoded ∧ SameJson decoded result

omit [FloatSyntax] in
lemma validateHandlerResult_eq_some_iff {maximumBytes : ℕ} {result accepted : PyValue} :
    validateHandlerResult maximumBytes result = some accepted ↔
      result.IsObject ∧ result.containsNonFinite = false ∧
        (∃ text, result.encodedJson = some text ∧ text.utf8ByteSize ≤ maximumBytes) ∧
        accepted = result := by
  cases result with
  | dict members =>
    unfold validateHandlerResult
    dsimp only
    have hkeys : (members.all fun m => m.1.isStr) = true ↔ (PyValue.dict members).IsObject :=
      List.all_eq_true
    split
    · rename_i hall
      constructor
      · intro h
        cases h
      · intro h
        rw [hkeys.2 h.1] at hall
        cases hall
    rename_i hall
    split
    · rename_i hfinite
      simp [hfinite]
    rename_i hfinite
    have hobject : (PyValue.dict members).IsObject := hkeys.1 (by simpa using hall)
    split
    · rename_i htext
      simp [htext]
    · rename_i text htext
      split
      · rename_i hsize
        simp [htext, Nat.not_le.2 hsize]
      · rename_i hsize
        simp [htext, hobject, hfinite, Nat.not_lt.1 hsize, eq_comm]
  | none | bool _ | int _ | float _ _ | str _ | list _ | tuple _ =>
    simp [validateHandlerResult, PyValue.IsObject]

/-- What is accepted under any limit is plain JSON if and only if the value is plain at every depth
or is refused under every limit: it is no object with string keys, or cannot be written. -/
theorem handler_result_plain_iff (result : PyValue) (hgenuine : result.Genuine) :
    (∀ maximumBytes accepted, validateHandlerResult maximumBytes result = some accepted →
      PlainResult maximumBytes result accepted) ↔
      result.Plain ∨ ¬(result.IsObject ∧ result.Encodable) := by
  constructor
  · intro h
    by_cases hrefused : result.IsObject ∧ result.Encodable
    · obtain ⟨text, htext⟩ := Option.isSome_iff_exists.1
        ((encodedJson_isSome_iff result).2 hrefused.2)
      have haccepted : validateHandlerResult text.utf8ByteSize result = some result :=
        validateHandlerResult_eq_some_iff.2 ⟨hrefused.1,
          containsNonFinite_of_encodable result hrefused.2, ⟨text, htext, le_rfl⟩, rfl⟩
      exact .inl (h _ _ haccepted).plain
    · exact .inr hrefused
  · intro h maximumBytes accepted haccepted
    obtain ⟨hobject, -, ⟨text, htext, hsize⟩, rfl⟩ :=
      validateHandlerResult_eq_some_iff.1 haccepted
    have hencodable : accepted.Encodable :=
      (encodedJson_isSome_iff accepted).1 (by rw [htext]; rfl)
    have hplain : accepted.Plain := h.resolve_right fun hrefused => hrefused ⟨hobject, hencodable⟩
    obtain ⟨a, ha, hwritten, hcanonical⟩ := toJson_of_plain accepted hplain hencodable hgenuine
    obtain ⟨b, hb, halike⟩ := a.toJson_decoded hwritten
    refine ⟨rfl, hobject, hplain, text, a.decoded, ?_, hsize, ?_, b, a, hb, ha, halike⟩
    · rw [PyValue.canonicalJson, passesNonFinite_of_plain accepted hplain, if_pos rfl, htext]
    · rw [htext, Option.some.injEq] at hcanonical
      rw [hcanonical]
      exact jsonLoads_canonicalJson hwritten

end Genuine

namespace Sample

/-- A host with one float. -/
@[reducible] def oneFloat : FloatSyntax where
  genuine q s := q = 3 / 2 ∧ s = "1.5"
  parse s := if s = "1.5" then (.finite (3 / 2), "1.5") else (.nan, "nan")
  literal := by
    rintro q s ⟨-, rfl⟩
    decide
  chars := by
    rintro q s ⟨-, rfl⟩
    decide
  parse_repr := by
    rintro q s ⟨rfl, rfl⟩
    rfl

def keyA : PyKey := .str (PyStr.ofString "a")

/-- `\x7b"a": [1.5, "x"]\x7d` -/
def plainResult : PyValue :=
  .dict [(keyA, .list [.float (.finite (3 / 2)) "1.5", .str (PyStr.ofString "x")])]

/-- `\x7b"a": \x7b1: 2\x7d\x7d` -/
def numberKeyed : PyValue := .dict [(keyA, .dict [(.int 1, .int 2)])]

/-- `\x7b"a": (1, 2)\x7d` -/
def tupleResult : PyValue := .dict [(keyA, .tuple [.int 1, .int 2])]

end Sample

open Sample in
attribute [local instance] oneFloat in
theorem handler_result_plain_iff_plainResult :
    (∀ maximumBytes accepted, validateHandlerResult maximumBytes plainResult = some accepted →
      PlainResult maximumBytes plainResult accepted) ↔
      plainResult.Plain ∨ ¬(plainResult.IsObject ∧ plainResult.Encodable) := by
  refine handler_result_plain_iff plainResult ⟨?_, ⟨⟨rfl, rfl⟩, trivial, trivial⟩, trivial⟩
  exact List.nodup_singleton _

open Sample in
attribute [local instance] oneFloat in
/-- Both values are accepted and neither is JSON. -/
theorem handler_result_plain_fails :
    (validateHandlerResult 100 numberKeyed = some numberKeyed ∧ ¬numberKeyed.Plain ∧
      numberKeyed.canonicalJson = none) ∧
      (validateHandlerResult 100 tupleResult = some tupleResult ∧ ¬tupleResult.Plain) ∧
      ¬∀ maximumBytes accepted, validateHandlerResult maximumBytes numberKeyed = some accepted →
        PlainResult maximumBytes numberKeyed accepted := by
  have haccepted : validateHandlerResult 100 numberKeyed = some numberKeyed := by rfl
  have hplain : ¬numberKeyed.Plain := by
    rintro ⟨-, hnested, -⟩
    cases hnested.1
  refine ⟨⟨haccepted, hplain, rfl⟩, ⟨rfl, fun h => h.2.1⟩, fun h => ?_⟩
  exact hplain (h 100 numberKeyed haccepted).plain

end DeploymentLab
