import DeploymentLab.Model.PyJson
import DeploymentLab.Proofs.CanonicalJson
import Mathlib.Data.List.TakeWhile

/-!
# Canonical JSON is read back

`json.loads` reads the canonical text of a value as that value, up to the order of the keys. Each
kind of token is read back first, and the texts of lists and objects part by part.
-/

namespace DeploymentLab

open Reading

section Numbers

lemma isDigit_natRepr (n : ℕ) : ∀ c ∈ n.repr.toList, c.isDigit = true :=
  fun _ hc => isDigit_of_mem_natRepr hc

/-- Only zero is written with a leading zero. -/
lemma head?_natRepr {n : ℕ} (hn : n ≠ 0) : n.repr.toList.head? ≠ some '0' := by
  rw [Nat.toList_repr]
  induction n using Nat.strongRecOn with
  | ind n ih =>
    by_cases hlt : n < 10
    · rw [Nat.toDigits_of_lt_base hlt]
      have hdigits : ∀ k < 10, k ≠ 0 → Nat.digitChar k ≠ '0' := by decide
      simpa using hdigits n hlt hn
    · rw [Nat.toDigits_of_base_le (by decide) (Nat.le_of_not_lt hlt)]
      rw [List.head?_append_of_ne_nil _ Nat.toDigits_ne_nil]
      exact ih (n / 10) (by omega) (by omega)

lemma magnitude_natRepr (n : ℕ) : magnitude n.repr.toList = n.repr.toList := by
  have hminus := minus_notMem_natRepr (n := n)
  unfold magnitude
  split
  · rename_i cs htext
    rw [htext] at hminus
    exact absurd List.mem_cons_self hminus
  · rfl

lemma magnitude_intToString (i : ℤ) : magnitude (toString i).toList = i.natAbs.repr.toList := by
  rw [intToString_toList]
  split
  · rw [magnitude_natRepr, ← Int.natAbs_of_nonneg ‹0 ≤ i›]
    rfl
  · have habs : (-i).toNat = i.natAbs := by omega
    rw [magnitude, habs]

/-- An integer is a number of JSON. -/
lemma numberLiteral_intToString (i : ℤ) : numberLiteral (toString i).toList = some false := by
  have hdigits := isDigit_natRepr i.natAbs
  have hne : i.natAbs.repr.toList ≠ [] := by
    rw [Nat.toList_repr]
    exact Nat.toDigits_ne_nil
  unfold numberLiteral
  rw [magnitude_intToString, List.takeWhile_eq_self_iff.2 hdigits,
    List.dropWhile_eq_nil_iff.2 hdigits]
  have hzero : (i.natAbs.repr.toList.head? == some '0' &&
      i.natAbs.repr.toList.length != 1) = false := by
    by_cases hi : i.natAbs = 0
    · rw [hi]
      decide
    · rw [beq_eq_false_iff_ne.2 (head?_natRepr hi), Bool.false_and]
  dsimp only
  rw [hzero, List.isEmpty_eq_false_iff.2 hne]
  rfl

lemma literalValue_intToString (i : ℤ) : literalValue (toString i).toList = i := by
  rw [intToString_toList]
  split
  · have hvalue : Nat.ofDigitChars 10 i.toNat.repr.toList 0 = i.toNat := by
      rw [Nat.toList_repr, Nat.ofDigitChars_ten_toDigits]
    have hminus := minus_notMem_natRepr (n := i.toNat)
    unfold literalValue
    split
    · rename_i cs htext
      rw [htext] at hminus
      exact absurd List.mem_cons_self hminus
    · rw [hvalue]
      omega
  · rw [literalValue, Nat.toList_repr, Nat.ofDigitChars_ten_toDigits]
    omega

lemma numberChar_intToString (i : ℤ) : ∀ c ∈ (toString i).toList, numberChar c = true := by
  intro c hc
  have hnumeral := isNumeral_of_mem_intToString hc
  simp only [isNumeral, Bool.or_eq_true, beq_iff_eq] at hnumeral
  rcases hnumeral with hdigit | rfl
  · simp [numberChar, hdigit]
  · decide

end Numbers

section Tokens

variable [FloatSyntax] {cs u : List Char}

/-- A number is one of the values whose text is read as a token. -/
lemma scanValue_number {fuel : ℕ} (h : numberLiteral (cs.takeWhile numberChar) ≠ none) :
    scanValue (fuel + 1) cs = scanNumber cs := by
  rw [scanValue.eq_def]
  dsimp only
  split
  all_goals first | rfl | exact absurd rfl h

omit [FloatSyntax] in
lemma takeWhile_token (hcs : ∀ c ∈ cs, numberChar c = true) (hu : Stops numberChar u) :
    (cs ++ u).takeWhile numberChar = cs ∧ (cs ++ u).dropWhile numberChar = u := by
  rw [List.takeWhile_append_of_pos hcs, List.dropWhile_append_of_pos hcs]
  cases u with
  | nil => simp
  | cons c u => simp [hu c rfl]

lemma scanValue_intToString {fuel : ℕ} {i : ℤ} (hi : (intRepr i).isSome = true)
    (hu : Stops numberChar u) :
    scanValue (fuel + 1) ((toString i).toList ++ u) = some (.int i, u) := by
  obtain ⟨htake, hdrop⟩ := takeWhile_token (numberChar_intToString i) hu
  have hlength : i.natAbs.repr.toList.length ≤ 4300 := by
    unfold intRepr at hi
    split at hi
    · rwa [String.length_toList]
    · cases hi
  have hliteral := numberLiteral_intToString i
  rw [scanValue_number (by rw [htake, hliteral]; exact Option.some_ne_none _), scanNumber, htake,
    hdrop, hliteral, magnitude_intToString, literalValue_intToString]
  exact if_pos hlength

lemma scanValue_float {fuel : ℕ} {q : ℚ} {repr : String} (h : FloatSyntax.genuine q repr)
    (hu : Stops numberChar u) :
    scanValue (fuel + 1) (repr.toList ++ u) = some (.float (.finite q) repr, u) := by
  have hchars : ∀ c ∈ repr.toList, numberChar c = true :=
    List.all_eq_true.1 (FloatSyntax.chars q repr h)
  obtain ⟨htake, hdrop⟩ := takeWhile_token hchars hu
  have hliteral := FloatSyntax.literal q repr h
  rw [scanValue_number (by rw [htake, hliteral]; exact Option.some_ne_none _), scanNumber, htake,
    hdrop, hliteral, String.ofList_toList, FloatSyntax.parse_repr q repr h]

end Tokens

section Strings

variable {u : List Char}

lemma hexNumber_hexDigit : ∀ n < 32,
    hexNumber '0' '0' (hexDigit (n / 16)) (hexDigit n) = some n := by
  decide

lemma scanString_escape {c e : Char} (cs : List Char) (he : e ≠ 'u')
    (h : simpleEscape e = some c) :
    scanString ('\\' :: e :: cs) = (scanString cs).map fun p => (.char c :: p.1, p.2) := by
  rw [scanString.eq_def]
  split
  · cases ‹_ :: _ = []›
  · cases ‹_ :: _ = _›
  · cases ‹_ :: _ = _›
    exact absurd rfl he
  · cases ‹_ :: _ = _›
    rw [h]
    cases scanString cs <;> rfl
  · rename_i hsimple heq
    cases heq
    exact absurd rfl (hsimple e cs rfl)

/-- A character is read back from what escapes it. -/
lemma scanString_escapeChar (c : Char) (cs : List Char) :
    scanString (escapeChar c ++ cs) = (scanString cs).map fun p => (.char c :: p.1, p.2) := by
  have hof : ∀ {n : ℕ}, c.toNat = n → Char.ofNat n = c := by
    intro n hn
    rw [← hn, Char.ofNat_toNat]
  unfold escapeChar
  split
  · rename_i hc
    exact scanString_escape cs (by decide) (by rw [hc]; rfl)
  rename_i hquote
  split
  · rename_i hc
    exact scanString_escape cs (by decide) (by rw [hc]; rfl)
  rename_i hbackslash
  split
  · rename_i hc
    exact scanString_escape cs (by decide) (by rw [hc]; rfl)
  split
  · rename_i hc
    exact scanString_escape cs (by decide) (by rw [hc]; rfl)
  split
  · rename_i hc
    exact scanString_escape cs (by decide) (by rw [hc]; rfl)
  split
  · rename_i hc
    exact scanString_escape cs (by decide) (by rw [← hof hc]; rfl)
  split
  · rename_i hc
    exact scanString_escape cs (by decide) (by rw [← hof hc]; rfl)
  split
  · rename_i hc
    have hunit : codeUnit c.toNat = .char c := by
      rw [codeUnit, if_neg (by omega), Char.ofNat_toNat]
    simp only [List.cons_append, List.nil_append]
    rw [scanString, hexNumber_hexDigit c.toNat hc]
    change Option.bind (scanString cs) _ = _
    cases scanString cs with
    | none => rfl
    | some p => exact congrArg (fun x => some (x :: p.1, p.2)) hunit
  · rename_i hc
    rw [List.singleton_append, scanString.eq_def]
    split
    · cases ‹_ :: _ = []›
    · cases ‹_ :: _ = _›
      exact absurd rfl hquote
    · cases ‹_ :: _ = _›
      exact absurd rfl hbackslash
    · cases ‹_ :: _ = _›
      exact absurd rfl hbackslash
    · cases ‹_ :: _ = _›
      rw [if_neg hc]
      cases scanString cs <;> rfl

/-- A string is read back up to its closing quote. -/
lemma scanString_text (s u : List Char) :
    scanString (s.flatMap escapeChar ++ '"' :: u) = some (s.map .char, u) := by
  induction s with
  | nil => rfl
  | cons c s ih =>
    rw [List.flatMap_cons, List.append_assoc, scanString_escapeChar, ih]
    rfl

lemma joinSurrogates_map (s : List Char) : joinSurrogates (s.map .char) = s.map .char := by
  induction s with
  | nil => rfl
  | cons c s ih =>
    rw [List.map_cons, joinSurrogates, ih]
    intro high low t h
    cases h

lemma ofString_eq (s : String) : PyStr.ofString s = s.toList.map .char := rfl

lemma encode_ofString (s : String) : (PyStr.ofString s).encode = some s := by
  have hchars : ∀ cs : List Char, (cs.map CodePoint.char).mapM CodePoint.char? = some cs := by
    intro cs
    induction cs with
    | nil => rfl
    | cons c cs ih =>
      rw [List.map_cons, List.mapM_cons, ih]
      rfl
  rw [PyStr.encode, ofString_eq, hchars, Option.map_some, String.ofList_toList]

end Strings

/-- The character begins a value: it is no blank and closes neither a list nor an object. -/
def opensValue (c : Char) : Bool := !isBlank c && c != ']' && c != '\x7d'

lemma skipSpace_cons {c : Char} (cs : List Char) (hc : isBlank c = false) :
    skipSpace (c :: cs) = c :: cs := by
  rw [skipSpace, List.dropWhile_cons_of_neg]
  simpa using hc

lemma opensValue_iff {c : Char} :
    opensValue c = true ↔ isBlank c = false ∧ c ≠ ']' ∧ c ≠ '\x7d' := by
  simp [opensValue, and_assoc]

lemma opensValue_digit {c : Char} (hc : c.isDigit = true) : opensValue c = true := by
  have hne : ∀ d : Char, d.isDigit = false → c ≠ d := by
    rintro d hd rfl
    rw [hc] at hd
    cases hd
  refine opensValue_iff.2 ⟨?_, hne ']' (by decide), hne '\x7d' (by decide)⟩
  unfold isBlank
  rw [beq_eq_false_iff_ne.2 (hne ' ' (by decide)), beq_eq_false_iff_ne.2 (hne '\t' (by decide)),
    beq_eq_false_iff_ne.2 (hne '\n' (by decide)), beq_eq_false_iff_ne.2 (hne '\r' (by decide))]
  rfl

/-- A number begins with a digit or with its sign. -/
lemma opensValue_literal {cs : List Char} (h : numberLiteral cs ≠ none) :
    ∃ c rest, cs = c :: rest ∧ opensValue c = true := by
  cases cs with
  | nil => exact absurd rfl h
  | cons c cs =>
    refine ⟨c, cs, rfl, ?_⟩
    by_cases hminus : c = '-'
    · rw [hminus]
      decide
    by_cases hdigit : c.isDigit = true
    · exact opensValue_digit hdigit
    · have hmagnitude : magnitude (c :: cs) = c :: cs := by
        unfold magnitude
        split
        · cases ‹_ :: _ = _›
          exact absurd rfl hminus
        · rfl
      refine absurd ?_ h
      rw [numberLiteral, hmagnitude, List.takeWhile_cons_of_neg hdigit]
      rfl

/-! ## Values -/

section Values

variable [FloatSyntax]

mutual

/-- The keys of every object are distinct, integers are short enough, and every float is one of
the host. -/
def JsonValue.Written : JsonValue → Prop
  | .null | .bool _ | .str _ => True
  | .int i => (intRepr i).isSome = true
  | .float repr => ∃ q, FloatSyntax.genuine q repr
  | .list items => writtenItems items
  | .dict members => (members.map (·.1)).Nodup ∧ writtenMembers members

def writtenItems : List JsonValue → Prop
  | [] => True
  | item :: items => item.Written ∧ writtenItems items

def writtenMembers : List (String × JsonValue) → Prop
  | [] => True
  | (_, value) :: members => value.Written ∧ writtenMembers members

end

mutual

/-- What the text of the value is read as: the members of an object come in the order of their
keys. -/
def JsonValue.decoded : JsonValue → PyValue
  | .null => .none
  | .bool b => .bool b
  | .int i => .int i
  | .float repr => .float (FloatSyntax.parse repr).1 (FloatSyntax.parse repr).2
  | .str s => .str (PyStr.ofString s)
  | .list items => .list (decodedItems items)
  | .dict members =>
    .dict (((decodedMembers members).insertionSort fun a b => a.1 ≤ b.1).map fun m =>
      (.str (PyStr.ofString m.1), m.2))

def decodedItems : List JsonValue → List PyValue
  | [] => []
  | item :: items => item.decoded :: decodedItems items

def decodedMembers : List (String × JsonValue) → List (String × PyValue)
  | [] => []
  | (key, value) :: members => (key, value.decoded) :: decodedMembers members

end

lemma writtenItems_iff {items : List JsonValue} :
    writtenItems items ↔ ∀ item ∈ items, item.Written := by
  induction items with
  | nil => simp [writtenItems]
  | cons item items ih => simp [writtenItems, ih]

lemma writtenMembers_iff {members : List (String × JsonValue)} :
    writtenMembers members ↔ ∀ m ∈ members, m.2.Written := by
  induction members with
  | nil => simp [writtenMembers]
  | cons m members ih => simp [writtenMembers, ih]

lemma decodedItems_eq (items : List JsonValue) : decodedItems items = items.map (·.decoded) := by
  induction items with
  | nil => rfl
  | cons item items ih => rw [decodedItems, ih, List.map_cons]

lemma decodedMembers_eq (members : List (String × JsonValue)) :
    decodedMembers members = members.map fun m => (m.1, m.2.decoded) := by
  induction members with
  | nil => rfl
  | cons m members ih => rw [decodedMembers, ih, List.map_cons]

/-- A member as it is read. -/
def decodedMember (m : String × JsonValue) : PyStr × PyValue :=
  (PyStr.ofString m.1, m.2.decoded)

lemma decoded_dict (members : List (String × JsonValue)) :
    (JsonValue.dict members).decoded =
      .dict (((members.insertionSort byKey).map decodedMember).map fun m => (.str m.1, m.2)) := by
  have hsort : (decodedMembers members).insertionSort (fun a b => a.1 ≤ b.1) =
      (members.insertionSort byKey).map fun m => (m.1, m.2.decoded) := by
    rw [decodedMembers_eq]
    exact (List.map_insertionSort byKey (fun a b : String × PyValue => a.1 ≤ b.1) _ members
      fun a _ b _ => Iff.rfl).symm
  rw [JsonValue.decoded, hsort, List.map_map, List.map_map]
  rfl

lemma text_opens {a : JsonValue} (ha : a.Written) :
    ∃ c rest, a.text = c :: rest ∧ opensValue c = true := by
  cases a with
  | null => exact ⟨'n', _, rfl, rfl⟩
  | bool b => cases b <;> exact ⟨_, _, rfl, rfl⟩
  | int i => exact opensValue_literal (by
      rw [JsonValue.text, canonicalJson, numberLiteral_intToString]
      exact Option.some_ne_none _)
  | float repr =>
    obtain ⟨q, hq⟩ := ha
    refine opensValue_literal ?_
    rw [JsonValue.text, canonicalJson, FloatSyntax.literal q repr hq]
    exact Option.some_ne_none _
  | str s =>
    refine ⟨'"', s.toList.flatMap escapeChar ++ ['"'], ?_, rfl⟩
    rw [JsonValue.text, canonicalJson, escapeString_toList]
  | list items => exact ⟨'[', _, text_list items, rfl⟩
  | dict members => exact ⟨'\x7b', _, text_dict members, rfl⟩

lemma skipSpace_text {a : JsonValue} (ha : a.Written) (u : List Char) :
    skipSpace (a.text ++ u) = a.text ++ u := by
  obtain ⟨c, rest, htext, hc⟩ := text_opens ha
  rw [htext]
  exact skipSpace_cons _ (opensValue_iff.1 hc).1

lemma scanValue_string (fuel : ℕ) (cs : List Char) :
    scanValue (fuel + 1) ('"' :: cs) =
      (scanString cs).map fun p => (.str (joinSurrogates p.1), p.2) := by
  rw [scanValue]
  cases scanString cs <;> rfl

lemma scanValue_list {fuel : ℕ} {cs rest : List Char} {c : Char} (hcs : skipSpace cs = c :: rest)
    (hc : c ≠ ']') :
    scanValue (fuel + 1) ('[' :: cs) =
      (readParts skipSpace (scanValue fuel) ',' ']' fuel (c :: rest)).map fun p =>
        (.list p.1, p.2) := by
  rw [scanValue, hcs]
  split
  · cases ‹_ :: _ = _›
    exact absurd rfl hc
  · cases readParts skipSpace (scanValue fuel) ',' ']' fuel (c :: rest) <;> rfl

lemma scanValue_dict {fuel : ℕ} {cs rest : List Char} {c : Char} (hcs : skipSpace cs = c :: rest)
    (hc : c ≠ '\x7d') :
    scanValue (fuel + 1) ('\x7b' :: cs) =
      (readParts skipSpace (scanMember (scanValue fuel)) ',' '\x7d' fuel (c :: rest)).map fun p =>
        (.dict ((dictOf p.1).map fun m => (.str m.1, m.2)), p.2) := by
  rw [scanValue, hcs]
  split
  · cases ‹_ :: _ = _›
    exact absurd rfl hc
  · cases readParts skipSpace (scanMember (scanValue fuel)) ',' '\x7d' fuel (c :: rest) <;> rfl

lemma scanMember_text {scan : List Char → Option (PyValue × List Char)} {m : String × JsonValue}
    {u : List Char} (hm : m.2.Written) (hscan : scan (m.2.text ++ u) = some (m.2.decoded, u)) :
    scanMember scan (memberText m ++ u) = some (decodedMember m, u) := by
  have hcolon : skipSpace (':' :: (m.2.text ++ u)) = ':' :: (m.2.text ++ u) :=
    skipSpace_cons _ (by decide)
  rw [memberText, escapeString_toList, List.append_assoc, List.cons_append, List.append_assoc,
    List.cons_append, List.nil_append, List.cons_append, scanMember, scanString_text]
  simp only [Option.bind_eq_bind, Option.bind_some, hcolon, skipSpace_text hm, hscan,
    joinSurrogates_map]
  rfl

omit [FloatSyntax] in
/-- Distinct keys each keep their own value. -/
lemma dictOf_of_nodup {pairs : List (PyStr × PyValue)} (h : (pairs.map (·.1)).Nodup) :
    dictOf pairs = pairs := by
  induction pairs with
  | nil => rfl
  | cons p pairs ih =>
    rw [List.map_cons, List.nodup_cons] at h
    have hfilter : (pairs.filter fun m => m.1 != p.1) = pairs := by
      refine List.filter_eq_self.2 fun m hm => ?_
      refine bne_iff_ne.2 fun heq => ?_
      exact h.1 (heq ▸ List.mem_map_of_mem hm)
    have hlookup : pairs.lookup p.1 = none := by
      refine List.lookup_eq_none_iff.2 fun m hm => ?_
      refine bne_iff_ne.2 fun heq => ?_
      exact h.1 (heq ▸ List.mem_map_of_mem hm)
    rw [dictOf, ih h.2, hfilter, hlookup]
    rfl

lemma nodup_decodedMember {members : List (String × JsonValue)} (h : (members.map (·.1)).Nodup) :
    ((members.map decodedMember).map (·.1)).Nodup := by
  have hinj : Function.Injective PyStr.ofString := by
    intro s t hst
    have := congrArg PyStr.encode hst
    rwa [encode_ofString, encode_ofString, Option.some.injEq] at this
  have hkeys : (members.map decodedMember).map (·.1) = (members.map (·.1)).map PyStr.ofString := by
    rw [List.map_map, List.map_map]
    rfl
  rw [hkeys]
  exact h.map hinj

/-- The value is read off any text that its own text begins, if there is fuel for its length. -/
def JsonValue.ReadBack (a : JsonValue) : Prop :=
  ∀ fuel u, a.text.length ≤ fuel → Stops numberChar u →
    scanValue fuel (a.text ++ u) = some (a.decoded, u)

omit [FloatSyntax] in
lemma stops_of_mark {c : Char} {w : List Char} (hc : numberChar c = false) :
    Stops numberChar (c :: w) := by
  intro d hd
  cases hd
  exact hc

omit [FloatSyntax] in
/-- The texts of the parts of a list or of an object are read one after the other. -/
lemma readParts_texts {α γ : Type} {code : α → List Char} {close : Char} {xs : List α} {fuel : ℕ}
    (value : α → γ) (read : List Char → Option (γ × List Char)) (u : List Char)
    (hclose : close = ']' ∨ close = '\x7d') (hxs : xs ≠ [])
    (hopens : ∀ x ∈ xs, ∃ c rest, code x = c :: rest ∧ opensValue c = true)
    (hread : ∀ x ∈ xs, ∀ w, Stops numberChar w → read (code x ++ w) = some (value x, w))
    (hfuel : (parts code ',' close xs).length ≤ fuel) :
    (∃ c rest, parts code ',' close xs = c :: rest ∧ opensValue c = true) ∧
      readParts skipSpace read ',' close fuel (parts code ',' close xs ++ u) =
        some (xs.map value, u) := by
  constructor
  · cases xs with
    | nil => exact absurd rfl hxs
    | cons x xs =>
      obtain ⟨c, rest, hcode, hc⟩ := hopens x List.mem_cons_self
      rw [parts, hcode]
      exact ⟨c, _, rfl, hc⟩
  · have hmark : numberChar close = false ∧ isBlank close = false ∧ ',' ≠ close := by
      rcases hclose with rfl | rfl <;> decide
    refine readParts_parts hmark.2.2 (fun w => ⟨stops_of_mark (by decide), stops_of_mark hmark.1⟩)
      (fun w => ⟨skipSpace_cons w (by decide), skipSpace_cons w hmark.2.1⟩) (fun x hx w => ?_) hread
      hxs (length_le_parts.trans hfuel)
    obtain ⟨c, rest, hcode, hc⟩ := hopens x hx
    rw [hcode]
    exact skipSpace_cons _ (opensValue_iff.1 hc).1

lemma readBack_list {items : List JsonValue} (ha : writtenItems items)
    (hitems : ∀ item ∈ items, item.ReadBack) : (JsonValue.list items).ReadBack := by
  intro fuel u hfuel hu
  rw [text_list, List.length_cons] at hfuel
  obtain ⟨fuel, rfl⟩ : ∃ k, fuel = k + 1 := Nat.exists_eq_add_one_of_ne_zero (by omega)
  rw [text_list, List.cons_append, JsonValue.decoded, decodedItems_eq]
  by_cases hne : items = []
  · subst hne
    rfl
  have hshort : (parts JsonValue.text ',' ']' items).length ≤ fuel := Nat.le_of_succ_le_succ hfuel
  obtain ⟨⟨c, rest, hparts, hc⟩, hread⟩ := readParts_texts JsonValue.decoded
    (scanValue fuel) u (.inl rfl) hne
    (fun item hitem => text_opens (writtenItems_iff.1 ha item hitem))
    (fun item hitem w => hitems item hitem fuel w
      ((code_length_lt_parts hitem).le.trans hshort)) hshort
  rw [hparts, List.cons_append] at hread ⊢
  rw [scanValue_list (skipSpace_cons _ (opensValue_iff.1 hc).1) (opensValue_iff.1 hc).2.1, hread]
  rfl

lemma readBack_dict {members : List (String × JsonValue)}
    (ha : (JsonValue.dict members).Written) (hmembers : ∀ m ∈ members, m.2.ReadBack) :
    (JsonValue.dict members).ReadBack := by
  intro fuel u hfuel hu
  have hsorted : ∀ {p : String × JsonValue → Prop}, (∀ m ∈ members, p m) →
      ∀ m ∈ members.insertionSort byKey, p m :=
    fun hp m hm => hp m ((List.mem_insertionSort _).1 hm)
  have hnodup : ((members.insertionSort byKey).map (·.1)).Nodup :=
    ((List.perm_insertionSort byKey members).map _).nodup_iff.2 ha.1
  rw [text_dict, List.length_cons] at hfuel
  obtain ⟨fuel, rfl⟩ : ∃ k, fuel = k + 1 := Nat.exists_eq_add_one_of_ne_zero (by omega)
  rw [text_dict, List.cons_append, decoded_dict]
  generalize hsort : members.insertionSort byKey = sorted at *
  by_cases hne : sorted = []
  · subst hne
    rfl
  have hshort : (parts memberText ',' '\x7d' sorted).length ≤ fuel :=
    Nat.le_of_succ_le_succ hfuel
  obtain ⟨⟨c, rest, hparts, hc⟩, hread⟩ := readParts_texts decodedMember
    (scanMember (scanValue fuel)) u (.inr rfl) hne
    (fun m _ => ⟨'"', _, by rw [memberText, escapeString_toList]; rfl, by decide⟩)
    (fun m hm w hw => scanMember_text (hsorted (writtenMembers_iff.1 ha.2) m hm)
      (hsorted hmembers m hm fuel w (by
        have hlength := (code_length_lt_parts hm).trans_le hshort
        rw [memberText, List.length_append, List.length_cons] at hlength
        omega) hw)) hshort
  rw [hparts, List.cons_append] at hread ⊢
  rw [scanValue_dict (skipSpace_cons _ (opensValue_iff.1 hc).1) (opensValue_iff.1 hc).2.2, hread,
    Option.map_some, dictOf_of_nodup (nodup_decodedMember hnodup)]

lemma readBack_str (s : String) : (JsonValue.str s).ReadBack := by
  intro fuel u hfuel hu
  rw [JsonValue.text, canonicalJson, escapeString_toList] at hfuel ⊢
  obtain ⟨fuel, rfl⟩ : ∃ k, fuel = k + 1 := Nat.exists_eq_add_one_of_ne_zero (by
    rw [List.length_cons] at hfuel
    omega)
  rw [List.cons_append, List.append_assoc, List.singleton_append, scanValue_string, scanString_text,
    Option.map_some, joinSurrogates_map]
  rfl

lemma readBack_int {i : ℤ} (hi : (intRepr i).isSome = true) : (JsonValue.int i).ReadBack := by
  intro fuel u hfuel hu
  obtain ⟨c, rest, htext, -⟩ := text_opens (a := .int i) hi
  rw [htext, List.length_cons] at hfuel
  obtain ⟨fuel, rfl⟩ : ∃ k, fuel = k + 1 := Nat.exists_eq_add_one_of_ne_zero (by omega)
  exact scanValue_intToString hi hu

lemma readBack_float {repr : String} (ha : (JsonValue.float repr).Written) :
    (JsonValue.float repr).ReadBack := by
  intro fuel u hfuel hu
  obtain ⟨c, rest, htext, -⟩ := text_opens ha
  rw [htext, List.length_cons] at hfuel
  obtain ⟨fuel, rfl⟩ : ∃ k, fuel = k + 1 := Nat.exists_eq_add_one_of_ne_zero (by omega)
  obtain ⟨q, hq⟩ := ha
  rw [JsonValue.decoded, FloatSyntax.parse_repr q repr hq]
  exact scanValue_float hq hu

/-- The three constants are read letter by letter. -/
lemma readBack_constant {a : JsonValue} (ha : a = .null ∨ a = .bool true ∨ a = .bool false) :
    a.ReadBack := by
  intro fuel u hfuel hu
  have hpos : fuel ≠ 0 := by
    rintro rfl
    rcases ha with rfl | rfl | rfl <;> exact absurd hfuel (by decide)
  obtain ⟨fuel, rfl⟩ := Nat.exists_eq_add_one_of_ne_zero hpos
  rcases ha with rfl | rfl | rfl <;> rfl

mutual

theorem JsonValue.readBack : ∀ a : JsonValue, a.Written → a.ReadBack
  | .null, _ => readBack_constant (.inl rfl)
  | .bool true, _ => readBack_constant (.inr (.inl rfl))
  | .bool false, _ => readBack_constant (.inr (.inr rfl))
  | .int _, ha => readBack_int ha
  | .float _, ha => readBack_float ha
  | .str s, _ => readBack_str s
  | .list items, ha => readBack_list ha (readBack_items items ha)
  | .dict members, ha => readBack_dict ha (readBack_members members ha.2)

theorem readBack_items : ∀ items : List JsonValue, writtenItems items →
    ∀ item ∈ items, item.ReadBack
  | [], _, item, hitem => by cases hitem
  | a :: items, ha, item, hitem => by
    rcases List.mem_cons.1 hitem with heq | hitem
    · rw [heq]
      exact JsonValue.readBack a ha.1
    · exact readBack_items items ha.2 item hitem

theorem readBack_members : ∀ members : List (String × JsonValue), writtenMembers members →
    ∀ m ∈ members, m.2.ReadBack
  | [], _, m, hm => by cases hm
  | (key, a) :: members, ha, m, hm => by
    rcases List.mem_cons.1 hm with heq | hm
    · rw [heq]
      exact JsonValue.readBack a ha.1
    · exact readBack_members members ha.2 m hm

end

/-- Reading the canonical text of a value gives the value, with the members of its objects in the
order of their keys. -/
theorem jsonLoads_canonicalJson {a : JsonValue} (ha : a.Written) :
    jsonLoads (canonicalJson a) = some a.decoded := by
  have hends : Stops numberChar [] := fun c hc => by cases hc
  have hread := a.readBack ha a.text.length [] le_rfl hends
  have hskip := skipSpace_text ha []
  rw [List.append_nil] at hread hskip
  rw [jsonLoads, ← JsonValue.text, hskip, hread]
  rfl

lemma membersToJson_decoded {members : List (String × JsonValue)}
    (h : ∀ m ∈ members, ∃ b, m.2.decoded.toJson = some b ∧ b.Alike m.2) :
    ∃ bs, membersToJson (members.map fun m => (.str (PyStr.ofString m.1), m.2.decoded)) =
      some bs ∧ List.Forall₂ AlikeMember bs members := by
  induction members with
  | nil => exact ⟨[], rfl, .nil⟩
  | cons m members ih =>
    obtain ⟨b, hb, halike⟩ := h m List.mem_cons_self
    obtain ⟨bs, hbs, halikes⟩ := ih fun m hm => h m (List.mem_cons_of_mem _ hm)
    refine ⟨(m.1, b) :: bs, ?_, .cons ⟨rfl, halike⟩ halikes⟩
    rw [List.map_cons, membersToJson, encode_ofString, hb, hbs]
    rfl

mutual

theorem JsonValue.toJson_decoded : ∀ a : JsonValue, a.Written →
    ∃ b, a.decoded.toJson = some b ∧ b.Alike a
  | .null, _ => ⟨.null, rfl, trivial⟩
  | .bool p, _ => ⟨.bool p, rfl, rfl⟩
  | .int i, ha => by
    obtain ⟨text, htext⟩ := Option.isSome_iff_exists.1 ha
    exact ⟨.int i, by rw [JsonValue.decoded, PyValue.toJson, htext]; rfl, rfl⟩
  | .float repr, ha => by
    obtain ⟨q, hq⟩ := ha
    exact ⟨.float repr, by rw [JsonValue.decoded, FloatSyntax.parse_repr q repr hq]; rfl, rfl⟩
  | .str s, _ => by
    exact ⟨.str s, by rw [JsonValue.decoded, PyValue.toJson, encode_ofString]; rfl, rfl⟩
  | .list items, ha => by
    obtain ⟨bs, hbs, halike⟩ := itemsToJson_decoded items ha
    exact ⟨.list bs, by rw [JsonValue.decoded, PyValue.toJson, hbs]; rfl, halike⟩
  | .dict members, ha => by
    have hmembers := membersToJson_members members ha.2
    obtain ⟨bs, hbs, halike⟩ := membersToJson_decoded fun m hm =>
      hmembers m ((List.mem_insertionSort byKey).1 hm)
    refine ⟨.dict bs, ?_, ?_⟩
    · rw [decoded_dict, PyValue.toJson, List.map_map]
      exact congrArg (Option.map JsonValue.dict) hbs
    · exact alikeMembers_perm_right (List.perm_insertionSort byKey members).symm
        (alikeMembers_of_forall₂ halike)

theorem itemsToJson_decoded : ∀ items : List JsonValue, writtenItems items →
    ∃ bs, itemsToJson (decodedItems items) = some bs ∧ alikeItems bs items
  | [], _ => ⟨[], rfl, trivial⟩
  | a :: items, ha => by
    obtain ⟨b, hb, halike⟩ := JsonValue.toJson_decoded a ha.1
    obtain ⟨bs, hbs, halikes⟩ := itemsToJson_decoded items ha.2
    refine ⟨b :: bs, ?_, halike, halikes⟩
    rw [decodedItems, itemsToJson, hb, hbs]
    rfl

theorem membersToJson_members : ∀ members : List (String × JsonValue), writtenMembers members →
    ∀ m ∈ members, ∃ b, m.2.decoded.toJson = some b ∧ b.Alike m.2
  | [], _, m, hm => by cases hm
  | (key, a) :: members, ha, m, hm => by
    rcases List.mem_cons.1 hm with heq | hm
    · rw [heq]
      exact JsonValue.toJson_decoded a ha.1
    · exact membersToJson_members members ha.2 m hm

end

end Values

end DeploymentLab
