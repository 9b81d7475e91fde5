import DeploymentLab.Library.Reading
import DeploymentLab.Model.TaskService

/-!
# Canonical JSON is a faithful encoding

Two JSON values have the same canonical text if and only if they are alike: equal up to the order
of the keys of their objects. One direction reads the text back, the other sorts the keys.
-/

namespace DeploymentLab

open Reading

/-- A float is written with a point or an exponent, and begins with a digit or a sign. -/
def floatToken (s : String) : Bool :=
  s.toList.head?.any isNumeral && (s.toList.any fun c => c == '.' || c == 'e') &&
    s.toList.all fun c => isNumeral c || c == '.' || c == 'e' || c == '+'

mutual

/-- The keys of every object are distinct, and every float is one. -/
def JsonValue.WellFormed : JsonValue → Prop
  | .null | .bool _ | .int _ | .str _ => True
  | .float repr => floatToken repr = true
  | .list items => wellFormedItems items
  | .dict members => (members.map (·.1)).Nodup ∧ wellFormedMembers members

def wellFormedItems : List JsonValue → Prop
  | [] => True
  | item :: items => item.WellFormed ∧ wellFormedItems items

def wellFormedMembers : List (String × JsonValue) → Prop
  | [] => True
  | (_, value) :: members => value.WellFormed ∧ wellFormedMembers members

end

mutual

/-- The values are equal up to the order of the keys of their objects. -/
def JsonValue.Alike : JsonValue → JsonValue → Prop
  | .null, .null => True
  | .bool a, .bool b => a = b
  | .int a, .int b => a = b
  | .float a, .float b => a = b
  | .str a, .str b => a = b
  | .list xs, .list ys => alikeItems xs ys
  | .dict xs, .dict ys => alikeMembers xs ys
  | _, _ => False

def alikeItems : List JsonValue → List JsonValue → Prop
  | [], [] => True
  | x :: xs, y :: ys => x.Alike y ∧ alikeItems xs ys
  | _, _ => False

/-- The members, in some order of the second ones. -/
def alikeMembers : List (String × JsonValue) → List (String × JsonValue) → Prop
  | [], ys => ys = []
  | (key, x) :: xs, ys => ∃ y rest, ys.Perm ((key, y) :: rest) ∧ x.Alike y ∧ alikeMembers xs rest

end

section Lists

variable {xs ys zs : List (String × JsonValue)}

lemma wellFormedItems_iff {items : List JsonValue} :
    wellFormedItems items ↔ ∀ item ∈ items, item.WellFormed := by
  induction items with
  | nil => simp [wellFormedItems]
  | cons item items ih => simp [wellFormedItems, ih]

lemma wellFormedMembers_iff :
    wellFormedMembers xs ↔ ∀ m ∈ xs, m.2.WellFormed := by
  induction xs with
  | nil => simp [wellFormedMembers]
  | cons m members ih => simp [wellFormedMembers, ih]

lemma alikeItems_iff {items items' : List JsonValue} :
    alikeItems items items' ↔ List.Forall₂ JsonValue.Alike items items' := by
  induction items generalizing items' with
  | nil => cases items' <;> simp [alikeItems]
  | cons item items ih => cases items' <;> simp [alikeItems, ih]

/-- Members with the same key and alike values. -/
def AlikeMember (m n : String × JsonValue) : Prop := m.1 = n.1 ∧ m.2.Alike n.2

lemma alikeMembers_of_forall₂ (h : List.Forall₂ AlikeMember xs ys) : alikeMembers xs ys := by
  induction h with
  | nil => rfl
  | @cons m n xs ys hmn _ ih =>
    obtain ⟨key, y⟩ := n
    obtain ⟨rfl, hy⟩ := hmn
    exact ⟨y, ys, List.Perm.refl _, hy, ih⟩

lemma alikeMembers_perm_right (hperm : ys.Perm zs) (h : alikeMembers xs zs) :
    alikeMembers xs ys := by
  cases xs with
  | nil =>
    rw [alikeMembers] at h ⊢
    rw [h] at hperm
    exact hperm.eq_nil
  | cons m xs =>
    obtain ⟨y, rest, hrest, hy, hxs⟩ := h
    exact ⟨y, rest, hperm.trans hrest, hy, hxs⟩

lemma alikeMembers_perm_left (hperm : xs.Perm zs) (h : alikeMembers zs ys) :
    alikeMembers xs ys := by
  induction hperm generalizing ys with
  | nil => exact h
  | cons m _ ih =>
    obtain ⟨y, rest, hrest, hy, hxs⟩ := h
    exact ⟨y, rest, hrest, hy, ih hxs⟩
  | swap m n xs =>
    obtain ⟨y, rest, hrest, hy, y', rest', hrest', hy', hxs⟩ := h
    refine ⟨y', (m.1, y) :: rest', hrest.trans ?_, hy', y, rest', List.Perm.refl _, hy, hxs⟩
    exact (hrest'.cons _).trans (List.Perm.swap _ _ _)
  | trans _ _ ih₁ ih₂ => exact ih₁ (ih₂ h)

end Lists

/-- The character that a two-character escape stands for. -/
def unescape (c : Char) : Char :=
  if c = 'n' then '\n'
  else if c = 'r' then '\r'
  else if c = 't' then '\t'
  else if c = 'b' then Char.ofNat 8
  else if c = 'f' then Char.ofNat 12
  else c

/-- A character is written as itself, by a letter of its own, or by its number. -/
lemma escapeChar_cases (c : Char) :
    (escapeChar c = [c] ∧ c ≠ '\\' ∧ c ≠ '"') ∨
      (∃ e, e ≠ 'u' ∧ escapeChar c = ['\\', e] ∧ c = unescape e) ∨
      (c.toNat < 32 ∧
        escapeChar c = ['\\', 'u', '0', '0', hexDigit (c.toNat / 16), hexDigit c.toNat]) := by
  have hof : ∀ {n : ℕ}, c.toNat = n → c = Char.ofNat n := by
    intro n hn
    rw [← hn, Char.ofNat_toNat]
  unfold escapeChar
  split
  · rename_i hc
    exact .inr (.inl ⟨'"', by decide, rfl, hc⟩)
  rename_i hquote
  split
  · rename_i hc
    exact .inr (.inl ⟨'\\', by decide, rfl, hc⟩)
  rename_i hbackslash
  split
  · rename_i hc
    exact .inr (.inl ⟨'n', by decide, rfl, hc⟩)
  split
  · rename_i hc
    exact .inr (.inl ⟨'r', by decide, rfl, hc⟩)
  split
  · rename_i hc
    exact .inr (.inl ⟨'t', by decide, rfl, hc⟩)
  split
  · rename_i hc
    exact .inr (.inl ⟨'b', by decide, rfl, hof hc⟩)
  split
  · rename_i hc
    exact .inr (.inl ⟨'f', by decide, rfl, hof hc⟩)
  split
  · rename_i hc
    exact .inr (.inr ⟨hc, rfl⟩)
  · exact .inl ⟨rfl, hbackslash, hquote⟩

lemma hexDigits_inj : ∀ m < 32, ∀ n < 32, hexDigit (m / 16) = hexDigit (n / 16) →
    hexDigit m = hexDigit n → m = n := by
  decide

lemma escapeChar_prefixFree : PrefixFree escapeChar := by
  intro c d u v h
  rcases escapeChar_cases c with ⟨hc, hne, -⟩ | ⟨e, he, hc, hce⟩ | ⟨hlt, hc⟩
  · rcases escapeChar_cases d with ⟨hd, -, -⟩ | ⟨e', -, hd, -⟩ | ⟨-, hd⟩
    · rw [hc, hd] at h
      exact ⟨(List.cons.inj h).1, (List.cons.inj h).2⟩
    · rw [hc, hd] at h
      exact absurd (List.cons.inj h).1 hne
    · rw [hc, hd] at h
      exact absurd (List.cons.inj h).1 hne
  · rcases escapeChar_cases d with ⟨hd, hne, -⟩ | ⟨e', -, hd, hde⟩ | ⟨-, hd⟩
    · rw [hc, hd] at h
      exact absurd (List.cons.inj h).1.symm hne
    · rw [hc, hd] at h
      obtain ⟨rfl, huv⟩ := List.cons.inj (List.cons.inj h).2
      exact ⟨hce.trans hde.symm, huv⟩
    · rw [hc, hd] at h
      exact absurd (List.cons.inj (List.cons.inj h).2).1 he
  · rcases escapeChar_cases d with ⟨hd, hne, -⟩ | ⟨e', he', hd, -⟩ | ⟨hlt', hd⟩
    · rw [hc, hd] at h
      exact absurd (List.cons.inj h).1.symm hne
    · rw [hc, hd] at h
      exact absurd (List.cons.inj (List.cons.inj h).2).1.symm he'
    · rw [hc, hd] at h
      simp only [List.cons_append, List.nil_append, List.cons.injEq, true_and] at h
      obtain ⟨hhigh, hlow, huv⟩ := h
      have hsame := hexDigits_inj c.toNat hlt d.toNat hlt' hhigh hlow
      refine ⟨?_, huv⟩
      rw [← Char.ofNat_toNat c, hsame, Char.ofNat_toNat]

lemma escapeChar_head (c : Char) : escapeChar c ≠ [] ∧ (escapeChar c).head? ≠ some '"' := by
  rcases escapeChar_cases c with ⟨hc, -, hne⟩ | ⟨e, -, hc, -⟩ | ⟨-, hc⟩
  · rw [hc]
    exact ⟨by simp, by simpa using hne⟩
  · rw [hc]
    exact ⟨by simp, by simp⟩
  · rw [hc]
    exact ⟨by simp, by simp⟩

lemma escapeString_toList (s : String) :
    (escapeString s).toList = '"' :: (s.toList.flatMap escapeChar ++ ['"']) := by
  simp [escapeString]

/-- A string is read up to its closing quote. -/
lemma escapeString_inj {s t : String} {u v : List Char}
    (h : (escapeString s).toList ++ u = (escapeString t).toList ++ v) : s = t ∧ u = v := by
  rw [escapeString_toList, escapeString_toList, List.cons_append, List.cons_append,
    List.append_assoc, List.append_assoc] at h
  obtain ⟨hst, huv⟩ := escapeChar_prefixFree.flatMap_inj (fun c => (escapeChar_head c).1)
    (fun c => (escapeChar_head c).2) (List.cons.inj h).2
  exact ⟨String.toList_inj.1 hst, huv⟩

def JsonValue.text (a : JsonValue) : List Char := (canonicalJson a).toList

def memberText (m : String × JsonValue) : List Char :=
  (escapeString m.1).toList ++ ':' :: m.2.text

def byKey (m n : String × JsonValue) : Prop := m.1 ≤ n.1

instance : DecidableRel byKey := fun m n => inferInstanceAs (Decidable (m.1 ≤ n.1))

lemma canonicalItems_eq (items : List JsonValue) :
    canonicalItems items = items.map canonicalJson := by
  induction items with
  | nil => rfl
  | cons item items ih => rw [canonicalItems, ih, List.map_cons]

lemma canonicalMembers_eq (members : List (String × JsonValue)) :
    canonicalMembers members = members.map fun m => (m.1, canonicalJson m.2) := by
  induction members with
  | nil => rfl
  | cons m members ih => rw [canonicalMembers, ih, List.map_cons]

lemma text_list (items : List JsonValue) :
    (JsonValue.list items).text = '[' :: parts JsonValue.text ',' ']' items := by
  unfold JsonValue.text
  rw [parts_eq_intercalate, canonicalJson, canonicalItems_eq]
  simp [Function.comp_def]

lemma text_dict (members : List (String × JsonValue)) :
    (JsonValue.dict members).text =
      '\x7b' :: parts memberText ',' '\x7d' (members.insertionSort byKey) := by
  have hsort : sortMembers (canonicalMembers members) =
      (members.insertionSort byKey).map fun m => (m.1, canonicalJson m.2) := by
    rw [canonicalMembers_eq, sortMembers]
    exact (List.map_insertionSort byKey (fun a b : String × String => a.1 ≤ b.1) _ members
      fun a _ b _ => Iff.rfl).symm
  unfold JsonValue.text
  rw [parts_eq_intercalate, canonicalJson, hsort]
  simp only [String.toList_append, String.toList_intercalate, List.map_map]
  have htext : String.toList ∘ (fun m : String × String => escapeString m.1 ++ ":" ++ m.2) ∘
      (fun m : String × JsonValue => (m.1, canonicalJson m.2)) = memberText := by
    funext m
    simp [memberText, JsonValue.text]
  rw [htext]
  rfl

/-- The characters of numbers. -/
def isNumber (c : Char) : Bool := isNumeral c || c == '.' || c == 'e' || c == '+'

/-- The form that the first character of a text shows. -/
def leadForm (c : Char) : ℕ :=
  if c = 'n' then 0
  else if c = 't' ∨ c = 'f' then 1
  else if isNumeral c = true then 2
  else if c = '"' then 3
  else if c = '[' then 4
  else if c = '\x7b' then 5
  else 6

def JsonValue.form : JsonValue → ℕ
  | .null => 0
  | .bool _ => 1
  | .int _ | .float _ => 2
  | .str _ => 3
  | .list _ => 4
  | .dict _ => 5

lemma JsonValue.form_lt (a : JsonValue) : a.form < leadForm ']' := by
  have hmark : leadForm ']' = 6 := by decide
  rw [hmark]
  cases a <;> simp [JsonValue.form]

lemma leadForm_numeral {c : Char} (hc : isNumeral c = true) : leadForm c = 2 := by
  unfold leadForm
  split
  · rename_i h
    rw [h] at hc
    exact absurd hc (by decide)
  split
  · rename_i h
    rcases h with h | h
    · rw [h] at hc
      exact absurd hc (by decide)
    · rw [h] at hc
      exact absurd hc (by decide)
  · rfl

lemma text_lead {a : JsonValue} (ha : a.WellFormed) :
    ∃ c rest, a.text = c :: rest ∧ leadForm c = a.form := by
  cases a with
  | null => exact ⟨'n', _, rfl, rfl⟩
  | bool b => cases b <;> exact ⟨_, _, rfl, rfl⟩
  | int i =>
    cases htext : (toString i).toList with
    | nil => exact absurd htext intToString_ne_nil
    | cons c rest =>
      refine ⟨c, rest, ?_, leadForm_numeral (isNumeral_of_mem_intToString (i := i) ?_)⟩
      · rw [JsonValue.text, canonicalJson, htext]
      · rw [htext]
        exact List.mem_cons_self
  | float repr =>
    have ha : floatToken repr = true := ha
    simp only [floatToken, Bool.and_eq_true] at ha
    cases htext : repr.toList with
    | nil =>
      rw [htext] at ha
      exact absurd ha.1.1 (by decide)
    | cons c rest =>
      rw [htext] at ha
      refine ⟨c, rest, ?_, leadForm_numeral (by simpa using ha.1.1)⟩
      rw [JsonValue.text, canonicalJson, htext]
  | str s =>
    refine ⟨'"', s.toList.flatMap escapeChar ++ ['"'], ?_, rfl⟩
    rw [JsonValue.text, canonicalJson, escapeString_toList]
  | list items => exact ⟨'[', _, text_list items, rfl⟩
  | dict members => exact ⟨'\x7b', _, text_dict members, rfl⟩

/-! ## Reading -/

abbrev NumberEnds : List Char → Prop := Stops isNumber

/-- The value can be read off a text. -/
abbrev JsonValue.Readable : JsonValue → Prop :=
  Reads JsonValue.text JsonValue.WellFormed NumberEnds JsonValue.Alike

lemma ends_of_mark {c : Char} {w : List Char} (hc : isNumber c = false) : NumberEnds (c :: w) := by
  intro d hd
  cases hd
  exact hc

lemma form_eq_of_text {a b : JsonValue} {u v : List Char} (ha : a.WellFormed)
    (hb : b.WellFormed) (h : a.text ++ u = b.text ++ v) : a.form = b.form := by
  obtain ⟨c, rest, htext, hform⟩ := text_lead ha
  obtain ⟨d, rest', htext', hform'⟩ := text_lead hb
  rw [htext, htext'] at h
  rw [← hform, ← hform', (List.cons.inj h).1]

/-- The text of a number is a token. -/
lemma isNumber_of_mem_text {a : JsonValue} (ha : a.WellFormed) (hform : a.form = 2) :
    ∀ c ∈ a.text, isNumber c = true := by
  intro c hc
  cases a with
  | int i =>
    have hc : c ∈ (toString i).toList := hc
    simp [isNumber, isNumeral_of_mem_intToString hc]
  | float repr =>
    have ha : floatToken repr = true := ha
    simp only [floatToken, Bool.and_eq_true, List.all_eq_true] at ha
    exact ha.2 c hc
  | null | bool | str | list | dict => cases hform

/-- No integer is written like a float. -/
lemma int_ne_float {i : ℤ} {repr : String} (hfloat : floatToken repr = true) :
    toString i ≠ repr := by
  rintro rfl
  simp only [floatToken, Bool.and_eq_true, List.any_eq_true, Bool.or_eq_true, beq_iff_eq] at hfloat
  obtain ⟨⟨-, c, hmem, hc⟩, -⟩ := hfloat
  have hnumeral := isNumeral_of_mem_intToString hmem
  rcases hc with rfl | rfl
  · exact absurd hnumeral (by decide)
  · exact absurd hnumeral (by decide)

lemma readable_number {a : JsonValue} (ha : a.WellFormed) (hform : a.form = 2) :
    a.Readable := by
  intro b u v hb hu hv h
  have hform' : b.form = 2 := (form_eq_of_text ha hb h).symm.trans hform
  obtain ⟨htext, huv⟩ := token_inj (isNumber_of_mem_text ha hform) (isNumber_of_mem_text hb hform')
    hu hv h
  refine ⟨?_, huv⟩
  have hsame : canonicalJson a = canonicalJson b := String.toList_inj.1 htext
  cases a with
  | int i =>
    cases b with
    | int j => exact intToString_injective hsame
    | float repr => exact absurd hsame (int_ne_float hb)
    | null | bool | str | list | dict => cases hform'
  | float repr =>
    cases b with
    | int j => exact absurd hsame.symm (int_ne_float ha)
    | float repr' => exact hsame
    | null | bool | str | list | dict => cases hform'
  | null | bool | str | list | dict => cases hform

lemma readable_list {items : List JsonValue} (ha : wellFormedItems items)
    (hitems : ∀ item ∈ items, item.Readable) : (JsonValue.list items).Readable := by
  intro b u v hb hu hv h
  have hform := form_eq_of_text (a := .list items) ha hb h
  cases b with
  | list items' =>
    rw [text_list, text_list] at h
    have hclose : ∀ x : JsonValue, x.WellFormed → ∀ w w', x.text ++ w ≠ ']' :: w' := by
      intro x hx w w' heq
      obtain ⟨c, rest, htext, hlead⟩ := text_lead hx
      rw [htext] at heq
      rw [(List.cons.inj heq).1] at hlead
      exact absurd hlead x.form_lt.ne'
    obtain ⟨halike, huv⟩ := parts_inj (fun w => ⟨ends_of_mark rfl, ends_of_mark rfl⟩) (by decide)
      hclose (wellFormedItems_iff.1 ha) hitems (wellFormedItems_iff.1 hb) (List.cons.inj h).2
    exact ⟨alikeItems_iff.2 halike, huv⟩
  | null | bool | int | float | str | dict => cases hform

lemma readable_member {m : String × JsonValue} (hm : m.2.Readable) :
    Reads memberText (fun m => m.2.WellFormed) NumberEnds AlikeMember m := by
  intro n u v hn hu hv h
  simp only [memberText, List.append_assoc, List.cons_append] at h
  obtain ⟨hkey, hrest⟩ := escapeString_inj h
  obtain ⟨halike, huv⟩ := hm n.2 u v hn hu hv (List.cons.inj hrest).2
  exact ⟨⟨hkey, halike⟩, huv⟩

lemma readable_dict {members : List (String × JsonValue)}
    (ha : (JsonValue.dict members).WellFormed) (hmembers : ∀ m ∈ members, m.2.Readable) :
    (JsonValue.dict members).Readable := by
  intro b u v hb hu hv h
  have hform := form_eq_of_text ha hb h
  cases b with
  | dict members' =>
    rw [text_dict, text_dict] at h
    have hclose : ∀ m : String × JsonValue, m.2.WellFormed → ∀ w w',
        memberText m ++ w ≠ '\x7d' :: w' := by
      intro m _ w w' heq
      rw [memberText, escapeString_toList] at heq
      exact absurd (List.cons.inj heq).1 (by decide)
    have hsorted : ∀ {p : String × JsonValue → Prop} {ms : List (String × JsonValue)},
        (∀ m ∈ ms, p m) → ∀ m ∈ ms.insertionSort byKey, p m :=
      fun hp m hm => hp m ((List.mem_insertionSort _).1 hm)
    obtain ⟨halike, huv⟩ := parts_inj (fun w => ⟨ends_of_mark rfl, ends_of_mark rfl⟩) (by decide)
      hclose (hsorted (wellFormedMembers_iff.1 ha.2))
      (hsorted fun m hm => readable_member (hmembers m hm))
      (hsorted (wellFormedMembers_iff.1 hb.2)) (List.cons.inj h).2
    refine ⟨?_, huv⟩
    exact alikeMembers_perm_left (List.perm_insertionSort byKey members).symm
      (alikeMembers_perm_right (List.perm_insertionSort byKey members').symm
        (alikeMembers_of_forall₂ halike))
  | null | bool | int | float | str | list => cases hform

lemma readable_null : JsonValue.null.Readable := by
  intro b u v hb hu hv h
  have hform := form_eq_of_text (a := .null) trivial hb h
  cases b with
  | null => exact ⟨trivial, List.append_cancel_left h⟩
  | bool | int | float | str | list | dict => cases hform

lemma readable_bool {p : Bool} : (JsonValue.bool p).Readable := by
  intro b u v hb hu hv h
  have hform := form_eq_of_text (a := .bool p) trivial hb h
  cases b with
  | bool q =>
    by_cases hpq : p = q
    · subst hpq
      exact ⟨rfl, List.append_cancel_left h⟩
    · cases p
      · cases q
        · exact absurd rfl hpq
        · exact absurd h (by simp [JsonValue.text, canonicalJson])
      · cases q
        · exact absurd h (by simp [JsonValue.text, canonicalJson])
        · exact absurd rfl hpq
  | null | int | float | str | list | dict => cases hform

lemma readable_str {s : String} : (JsonValue.str s).Readable := by
  intro b u v hb hu hv h
  have hform := form_eq_of_text (a := .str s) trivial hb h
  cases b with
  | str t => exact escapeString_inj h
  | null | bool | int | float | list | dict => cases hform

mutual

theorem JsonValue.readable : ∀ a : JsonValue, a.WellFormed → a.Readable
  | .null, _ => readable_null
  | .bool _, _ => readable_bool
  | .int _, ha => readable_number ha rfl
  | .float _, ha => readable_number ha rfl
  | .str _, _ => readable_str
  | .list items, ha => readable_list ha (readable_items items ha)
  | .dict members, ha => readable_dict ha (readable_members members ha.2)

theorem readable_items : ∀ items : List JsonValue, wellFormedItems items →
    ∀ item ∈ items, item.Readable
  | [], _, item, hitem => by cases hitem
  | a :: items, ha, item, hitem => by
    rcases List.mem_cons.1 hitem with heq | hitem
    · rw [heq]
      exact JsonValue.readable a ha.1
    · exact readable_items items ha.2 item hitem

theorem readable_members : ∀ members : List (String × JsonValue), wellFormedMembers members →
    ∀ m ∈ members, m.2.Readable
  | [], _, m, hm => by cases hm
  | (key, a) :: members, ha, m, hm => by
    rcases List.mem_cons.1 hm with heq | hm
    · rw [heq]
      exact JsonValue.readable a ha.1
    · exact readable_members members ha.2 m hm

end

lemma sortMembers_perm {xs ys : List (String × String)} (hperm : xs.Perm ys)
    (hnodup : (xs.map (·.1)).Nodup) : sortMembers xs = sortMembers ys := by
  have htotal : Std.Total fun a b : String × String => a.1 ≤ b.1 := ⟨fun a b => le_total a.1 b.1⟩
  have htrans : IsTrans (String × String) fun a b => a.1 ≤ b.1 := ⟨fun a b c => le_trans⟩
  unfold sortMembers
  refine List.Perm.eq_of_pairwise (fun a b ha hb hab hba => ?_)
    (List.pairwise_insertionSort _ xs) (List.pairwise_insertionSort _ ys)
    ((List.perm_insertionSort _ xs).trans (hperm.trans (List.perm_insertionSort _ ys).symm))
  have ha : a ∈ xs := (List.mem_insertionSort _).1 ha
  have hb : b ∈ xs := hperm.mem_iff.2 ((List.mem_insertionSort _).1 hb)
  exact List.inj_on_of_nodup_map hnodup ha hb (le_antisymm hab hba)

mutual

theorem canonicalJson_of_alike : ∀ a b : JsonValue, a.WellFormed → b.WellFormed → a.Alike b →
    canonicalJson a = canonicalJson b
  | .null, b, _, _, h => by
    cases b with
    | null => rfl
    | bool | int | float | str | list | dict => exact h.elim
  | .bool p, b, _, _, h => by
    cases b with
    | bool q =>
      have h : p = q := h
      rw [h]
    | null | int | float | str | list | dict => exact h.elim
  | .int i, b, _, _, h => by
    cases b with
    | int j =>
      have h : i = j := h
      rw [h]
    | null | bool | float | str | list | dict => exact h.elim
  | .float r, b, _, _, h => by
    cases b with
    | float r' =>
      have h : r = r' := h
      rw [h]
    | null | bool | int | str | list | dict => exact h.elim
  | .str s, b, _, _, h => by
    cases b with
    | str t =>
      have h : s = t := h
      rw [h]
    | null | bool | int | float | list | dict => exact h.elim
  | .list xs, b, ha, hb, h => by
    cases b with
    | list ys => rw [canonicalJson, canonicalJson, canonicalItems_of_alike xs ys ha hb h]
    | null | bool | int | float | str | dict => exact h.elim
  | .dict xs, b, ha, hb, h => by
    cases b with
    | dict ys =>
      have hkeys : ((canonicalMembers xs).map (·.1)).Nodup := by
        rw [canonicalMembers_eq, List.map_map]
        exact ha.1
      rw [canonicalJson, canonicalJson,
        sortMembers_perm (canonicalMembers_of_alike xs ys ha.2 hb.2 h) hkeys]
    | null | bool | int | float | str | list => exact h.elim

theorem canonicalItems_of_alike : ∀ xs ys : List JsonValue, wellFormedItems xs →
    wellFormedItems ys → alikeItems xs ys → canonicalItems xs = canonicalItems ys
  | [], ys, _, _, h => by
    cases ys with
    | nil => rfl
    | cons y ys => exact h.elim
  | x :: xs, ys, hx, hy, h => by
    cases ys with
    | nil => exact h.elim
    | cons y ys =>
      rw [canonicalItems, canonicalItems, canonicalJson_of_alike x y hx.1 hy.1 h.1,
        canonicalItems_of_alike xs ys hx.2 hy.2 h.2]

theorem canonicalMembers_of_alike : ∀ xs ys : List (String × JsonValue), wellFormedMembers xs →
    wellFormedMembers ys → alikeMembers xs ys →
      (canonicalMembers xs).Perm (canonicalMembers ys)
  | [], ys, _, _, h => by
    have h : ys = [] := h
    rw [h]
  | (key, x) :: xs, ys, hx, hy, h => by
    obtain ⟨y, rest, hperm, hxy, hrest⟩ := h
    have hys : ∀ m ∈ (key, y) :: rest, m.2.WellFormed :=
      fun m hm => wellFormedMembers_iff.1 hy m (hperm.mem_iff.2 hm)
    have hwell := wellFormedMembers_iff.2 hys
    have htexts : (canonicalMembers ys).Perm (canonicalMembers ((key, y) :: rest)) := by
      rw [canonicalMembers_eq, canonicalMembers_eq]
      exact hperm.map _
    refine List.Perm.trans ?_ htexts.symm
    rw [canonicalMembers, canonicalMembers, canonicalJson_of_alike x y hx.1 hwell.1 hxy]
    exact (canonicalMembers_of_alike xs rest hx.2 hwell.2 hrest).cons _

end

/-- The canonical text of a value determines it, up to the order of the keys, and nothing else
does. -/
theorem canonicalJson_eq_iff {a b : JsonValue} (ha : a.WellFormed) (hb : b.WellFormed) :
    canonicalJson a = canonicalJson b ↔ a.Alike b := by
  refine ⟨fun h => ?_, canonicalJson_of_alike a b ha hb⟩
  have hends : NumberEnds [] := fun c hc => by cases hc
  exact (a.readable ha b [] [] hb hends hends (by rw [JsonValue.text, h, JsonValue.text])).1

/-- The text that `task_request_fingerprint` hashes. -/
def taskRequestText (taskType : String) (taskInput : JsonValue) : String :=
  canonicalJson (.dict [("input", taskInput), ("task_type", .str taskType)])

lemma taskRequestFingerprint_eq [Runtime] (taskType : String) (taskInput : JsonValue) :
    taskRequestFingerprint taskType taskInput =
      Runtime.sha256 (taskRequestText taskType taskInput) := rfl

/-- A member of a request is found under its key. -/
lemma request_member {a x : JsonValue} {s key : String}
    (hmem : (key, x) ∈ [("input", a), ("task_type", .str s)]) :
    (key = "input" → x = a) ∧ (key = "task_type" → x = .str s) := by
  simp only [List.mem_cons, Prod.mk.injEq, List.not_mem_nil, or_false] at hmem
  rcases hmem with ⟨rfl, rfl⟩ | ⟨rfl, rfl⟩
  · exact ⟨fun _ => rfl, fun h => absurd h (by decide)⟩
  · exact ⟨fun h => absurd h (by decide), fun _ => rfl⟩

lemma alike_request_iff {a b : JsonValue} {s t : String} :
    (JsonValue.dict [("input", a), ("task_type", .str s)]).Alike
      (.dict [("input", b), ("task_type", .str t)]) ↔ s = t ∧ a.Alike b := by
  constructor
  · rintro ⟨y, rest, hperm, hy, y', rest', hperm', hst, -⟩
    have hinput : y = b :=
      (request_member (hperm.mem_iff.2 List.mem_cons_self)).1 rfl
    have htype : y' = .str t := by
      have hrest : ("task_type", y') ∈ rest := hperm'.mem_iff.2 List.mem_cons_self
      exact (request_member (hperm.mem_iff.2 (List.mem_cons_of_mem _ hrest))).2 rfl
    rw [hinput] at hy
    rw [htype] at hst
    exact ⟨hst, hy⟩
  · rintro ⟨rfl, hab⟩
    exact ⟨b, _, List.Perm.refl _, hab, .str s, [], List.Perm.refl _, rfl, rfl⟩

lemma taskRequestText_eq_iff {a b : JsonValue} (ha : a.WellFormed) (hb : b.WellFormed)
    {s t : String} : taskRequestText s a = taskRequestText t b ↔ s = t ∧ a.Alike b := by
  have hwell : ∀ {c : JsonValue} {r : String}, c.WellFormed →
      (JsonValue.dict [("input", c), ("task_type", .str r)]).WellFormed := by
    intro c r hc
    exact ⟨by simp, hc, trivial, trivial⟩
  exact (canonicalJson_eq_iff (hwell ha) (hwell hb)).trans alike_request_iff

/-- Canonical JSON encodes values, and requests with them, faithfully up to the order of keys. -/
theorem canonical_json_faithful {a b : JsonValue} (ha : a.WellFormed) (hb : b.WellFormed) :
    (canonicalJson a = canonicalJson b ↔ a.Alike b) ∧
      ∀ s t : String, taskRequestText s a = taskRequestText t b ↔ s = t ∧ a.Alike b :=
  ⟨canonicalJson_eq_iff ha hb, fun _ _ => taskRequestText_eq_iff ha hb⟩

namespace Sample

def nested : JsonValue :=
  .dict [("b", .float "1e+16"), ("a", .list [.int (-3), .str "\""])]

/-- The same value with its keys in another order. -/
def reordered : JsonValue :=
  .dict [("a", .list [.int (-3), .str "\""]), ("b", .float "1e+16")]

end Sample

open Sample in
theorem canonical_json_faithful_nested : canonicalJson nested = canonicalJson reordered ∧
    taskRequestText "sync" nested ≠ taskRequestText "other" reordered := by
  have hfloat : (JsonValue.float "1e+16").WellFormed := by
    change floatToken "1e+16" = true
    decide
  have hnested : nested.WellFormed := ⟨by decide, hfloat, ⟨trivial, trivial, trivial⟩, trivial⟩
  have hreordered : reordered.WellFormed :=
    ⟨by decide, ⟨trivial, trivial, trivial⟩, hfloat, trivial⟩
  obtain ⟨htext, hrequest⟩ := canonical_json_faithful hnested hreordered
  constructor
  · refine htext.2 ⟨.float "1e+16", _, List.Perm.swap _ _ _, rfl, ?_⟩
    exact ⟨_, [], List.Perm.refl _, ⟨rfl, rfl, trivial⟩, rfl⟩
  · intro h
    exact absurd ((hrequest "sync" "other").1 h).1 (by decide)

end DeploymentLab
