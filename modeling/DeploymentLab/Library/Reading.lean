import Mathlib.Data.Int.Notation
import Mathlib.Data.List.Basic
import Mathlib.Data.List.Forall2
import Mathlib.Data.Nat.Notation
import Mathlib.Tactic.Common

/-!
# Unique readability

When a text that is put together from the codes of its parts determines the parts: codes of which
none goes on into another, tokens that end where their alphabet does, parts between separators,
and decimal numerals.
-/

namespace Reading

variable {α β : Type}

/-- Codes that can be read off the front of any text. -/
def PrefixFree (code : α → List β) : Prop :=
  ∀ a b u v, code a ++ u = code b ++ v → a = b ∧ u = v

/-- The code of `a` can be read off a text that goes on as `ends` says: a value in `S` has it
only if `R` relates it to `a`. -/
def Reads (code : α → List β) (S : α → Prop) (ends : List β → Prop) (R : α → α → Prop) (a : α) :
    Prop :=
  ∀ b u v, S b → ends u → ends v → code a ++ u = code b ++ v → R a b ∧ u = v

/-- A text of codes that ends in a mark with which no code begins. -/
lemma PrefixFree.flatMap_inj {code : α → List β} (hcode : PrefixFree code) {stop : β}
    (hne : ∀ a, code a ≠ []) (hstop : ∀ a, (code a).head? ≠ some stop) {xs ys : List α}
    {u v : List β} (h : xs.flatMap code ++ stop :: u = ys.flatMap code ++ stop :: v) :
    xs = ys ∧ u = v := by
  have hhead : ∀ a (w w' : List β), code a ++ w ≠ stop :: w' := by
    intro a w w' heq
    cases hcodea : code a with
    | nil => exact hne a hcodea
    | cons b bs =>
      rw [hcodea, List.cons_append] at heq
      refine hstop a ?_
      rw [hcodea, List.head?_cons, (List.cons.inj heq).1]
  induction xs generalizing ys with
  | nil =>
    cases ys with
    | nil => exact ⟨rfl, (List.cons.inj h).2⟩
    | cons y ys =>
      rw [List.flatMap_cons, List.append_assoc] at h
      exact absurd h.symm (hhead y _ _)
  | cons x xs ih =>
    cases ys with
    | nil =>
      rw [List.flatMap_cons, List.append_assoc] at h
      exact absurd h (hhead x _ _)
    | cons y ys =>
      rw [List.flatMap_cons, List.flatMap_cons, List.append_assoc, List.append_assoc] at h
      obtain ⟨rfl, hrest⟩ := hcode x y _ _ h
      obtain ⟨rfl, rfl⟩ := ih hrest
      exact ⟨rfl, rfl⟩

/-- A text of codes that ends with its last code. -/
lemma PrefixFree.flatMap_injective {code : α → List β} (hcode : PrefixFree code)
    (hne : ∀ a, code a ≠ []) {xs ys : List α} (h : xs.flatMap code = ys.flatMap code) :
    xs = ys := by
  induction xs generalizing ys with
  | nil =>
    cases ys with
    | nil => rfl
    | cons y ys =>
      rw [List.flatMap_nil, List.flatMap_cons] at h
      exact absurd (List.append_eq_nil_iff.1 h.symm).1 (hne y)
  | cons x xs ih =>
    cases ys with
    | nil =>
      rw [List.flatMap_nil, List.flatMap_cons] at h
      exact absurd (List.append_eq_nil_iff.1 h).1 (hne x)
    | cons y ys =>
      rw [List.flatMap_cons, List.flatMap_cons] at h
      obtain ⟨rfl, hrest⟩ := hcode x y _ _ h
      rw [ih hrest]

/-- The text does not go on in the alphabet `p`. -/
def Stops (p : β → Bool) (u : List β) : Prop := ∀ c ∈ u.head?, p c = false

/-- A token ends where its alphabet does. -/
lemma token_inj {p : β → Bool} {x y u v : List β} (hx : ∀ c ∈ x, p c = true)
    (hy : ∀ c ∈ y, p c = true) (hu : Stops p u) (hv : Stops p v) (h : x ++ u = y ++ v) :
    x = y ∧ u = v := by
  have htake : ∀ {x u : List β}, (∀ c ∈ x, p c = true) → Stops p u →
      (x ++ u).takeWhile p = x := by
    intro x u hx hu
    rw [List.takeWhile_append_of_pos hx]
    cases u with
    | nil => simp
    | cons c u => simp [hu c rfl]
  have hxy : x = y := by
    rw [← htake hx hu, h, htake hy hv]
  subst hxy
  exact ⟨rfl, List.append_cancel_left h⟩

/-- The rest of a list after its first part, up to the closing mark. -/
def rest (code : α → List β) (separator close : β) : List α → List β
  | [] => [close]
  | x :: xs => separator :: (code x ++ rest code separator close xs)

/-- The parts between separators, up to the closing mark. -/
def parts (code : α → List β) (separator close : β) : List α → List β
  | [] => [close]
  | x :: xs => code x ++ rest code separator close xs

lemma parts_eq_intercalate {code : α → List β} {separator close : β} (xs : List α) :
    parts code separator close xs =
      List.intercalate [separator] (xs.map code) ++ [close] := by
  have hrest : ∀ x xs, code x ++ rest code separator close xs =
      List.intercalate [separator] ((x :: xs).map code) ++ [close] := by
    intro x xs
    induction xs generalizing x with
    | nil => simp [rest]
    | cons y ys ih =>
      rw [rest, ih y]
      simp [List.intercalate_cons_cons]
  cases xs with
  | nil => simp [parts]
  | cons x xs => exact hrest x xs

section Parts

variable {code : α → List β} {separator close : β} {S : α → Prop} {ends : List β → Prop}
  {R : α → α → Prop} {xs ys : List α} {u v : List β}

lemma rest_inj (hends : ∀ w, ends (separator :: w) ∧ ends (close :: w))
    (hne : separator ≠ close) (hxs : ∀ x ∈ xs, Reads code S ends R x) (hys : ∀ y ∈ ys, S y)
    (h : rest code separator close xs ++ u = rest code separator close ys ++ v) :
    List.Forall₂ R xs ys ∧ u = v := by
  have hrest : ∀ (zs : List α) (w : List β), ends (rest code separator close zs ++ w) := by
    intro zs w
    cases zs with
    | nil => exact (hends w).2
    | cons z zs => exact (hends _).1
  induction xs generalizing ys with
  | nil =>
    cases ys with
    | nil => exact ⟨.nil, (List.cons.inj h).2⟩
    | cons y ys => exact absurd (List.cons.inj h).1.symm hne
  | cons x xs ih =>
    cases ys with
    | nil => exact absurd (List.cons.inj h).1 hne
    | cons y ys =>
      rw [rest, rest, List.cons_append, List.cons_append, List.append_assoc,
        List.append_assoc] at h
      obtain ⟨hR, hxy⟩ := hxs x List.mem_cons_self y _ _ (hys y List.mem_cons_self)
        (hrest xs u) (hrest ys v) (List.cons.inj h).2
      obtain ⟨hrests, rfl⟩ := ih (fun x hx => hxs x (List.mem_cons_of_mem _ hx))
        (fun y hy => hys y (List.mem_cons_of_mem _ hy)) hxy
      exact ⟨.cons hR hrests, rfl⟩

/-- The text of the parts determines them, up to `R`. -/
lemma parts_inj (hends : ∀ w, ends (separator :: w) ∧ ends (close :: w))
    (hne : separator ≠ close) (hclose : ∀ x, S x → ∀ w w', code x ++ w ≠ close :: w')
    (hS : ∀ x ∈ xs, S x) (hxs : ∀ x ∈ xs, Reads code S ends R x) (hys : ∀ y ∈ ys, S y)
    (h : parts code separator close xs ++ u = parts code separator close ys ++ v) :
    List.Forall₂ R xs ys ∧ u = v := by
  have hrest : ∀ (zs : List α) (w : List β), ends (rest code separator close zs ++ w) := by
    intro zs w
    cases zs with
    | nil => exact (hends w).2
    | cons z zs => exact (hends _).1
  cases xs with
  | nil =>
    cases ys with
    | nil => exact ⟨.nil, (List.cons.inj h).2⟩
    | cons y ys =>
      rw [parts, parts, List.append_assoc] at h
      exact absurd h.symm (hclose y (hys y List.mem_cons_self) _ _)
  | cons x xs =>
    cases ys with
    | nil =>
      rw [parts, parts, List.append_assoc] at h
      exact absurd h (hclose x (hS x List.mem_cons_self) _ _)
    | cons y ys =>
      rw [parts, parts, List.append_assoc, List.append_assoc] at h
      obtain ⟨hR, hxy⟩ := hxs x List.mem_cons_self y _ _ (hys y List.mem_cons_self)
        (hrest xs u) (hrest ys v) h
      obtain ⟨hrests, rfl⟩ := rest_inj hends hne (fun x hx => hxs x (List.mem_cons_of_mem _ hx))
        (fun y hy => hys y (List.mem_cons_of_mem _ hy)) hxy
      exact ⟨.cons hR hrests, rfl⟩

end Parts

section Readers

variable {γ : Type}

/-- The parts up to the closing mark, of which there is one at least. What `skip` takes off may
stand around the marks. -/
def readParts [DecidableEq β] (skip : List β → List β) (read : List β → Option (γ × List β))
    (separator close : β) : ℕ → List β → Option (List γ × List β)
  | 0, _ => none
  | fuel + 1, text =>
    match read text with
    | none => none
    | some (x, text) =>
      match skip text with
      | [] => none
      | mark :: text =>
        if mark = separator then
          (readParts skip read separator close fuel (skip text)).map fun p => (x :: p.1, p.2)
        else if mark = close then some ([x], text)
        else none

variable {code : α → List β} {separator close : β} {xs : List α}

lemma length_lt_rest : xs.length < (rest code separator close xs).length := by
  induction xs with
  | nil => simp [rest]
  | cons x xs ih =>
    simp only [rest, List.length_cons, List.length_append]
    omega

lemma length_le_parts : xs.length ≤ (parts code separator close xs).length := by
  cases xs with
  | nil => simp
  | cons x xs =>
    rw [parts, List.length_append]
    exact Nat.le_add_left_of_le length_lt_rest

lemma code_length_lt_rest {x : α} (hx : x ∈ xs) :
    (code x).length < (rest code separator close xs).length := by
  induction xs with
  | nil => cases hx
  | cons y ys ih =>
    simp only [rest, List.length_cons, List.length_append]
    rcases List.mem_cons.1 hx with rfl | hx
    · omega
    · have := ih hx
      omega

/-- A part is shorter than the text. -/
lemma code_length_lt_parts {x : α} (hx : x ∈ xs) :
    (code x).length < (parts code separator close xs).length := by
  cases xs with
  | nil => cases hx
  | cons y ys =>
    rw [parts, List.length_append]
    rcases List.mem_cons.1 hx with rfl | hx
    · exact Nat.lt_add_of_pos_right (Nat.zero_lt_of_lt length_lt_rest)
    · exact Nat.lt_add_left _ (code_length_lt_rest hx)

/-- A reader of each part reads the parts off their text. -/
lemma readParts_parts [DecidableEq β] {skip : List β → List β}
    {read : List β → Option (γ × List β)} {value : α → γ} {ends : List β → Prop} {fuel : ℕ}
    {u : List β} (hne : separator ≠ close)
    (hends : ∀ w, ends (separator :: w) ∧ ends (close :: w))
    (hmarks : ∀ w, skip (separator :: w) = separator :: w ∧ skip (close :: w) = close :: w)
    (hskip : ∀ x ∈ xs, ∀ w, skip (code x ++ w) = code x ++ w)
    (hread : ∀ x ∈ xs, ∀ w, ends w → read (code x ++ w) = some (value x, w))
    (hxs : xs ≠ []) (hfuel : xs.length ≤ fuel) :
    readParts skip read separator close fuel (parts code separator close xs ++ u) =
      some (xs.map value, u) := by
  induction xs generalizing fuel with
  | nil => exact absurd rfl hxs
  | cons x xs ih =>
    obtain ⟨fuel, rfl⟩ : ∃ k, fuel = k + 1 := Nat.exists_eq_add_one_of_ne_zero (by
      rw [List.length_cons] at hfuel
      omega)
    rw [parts, List.append_assoc, readParts]
    cases xs with
    | nil =>
      rw [hread x List.mem_cons_self _ (by simpa [rest] using (hends u).2)]
      simp [rest, (hmarks u).2, hne.symm]
    | cons y ys =>
      rw [hread x List.mem_cons_self _ (by simpa [rest] using (hends _).1)]
      have hparts : code y ++ rest code separator close ys =
          parts code separator close (y :: ys) := rfl
      have hy : skip (parts code separator close (y :: ys) ++ u) =
          parts code separator close (y :: ys) ++ u := by
        rw [← hparts, List.append_assoc]
        exact hskip y (by simp) _
      simp only [rest, List.cons_append, (hmarks _).1, if_true, hparts, hy]
      rw [ih (fun z hz => hskip z (List.mem_cons_of_mem _ hz))
        (fun z hz => hread z (List.mem_cons_of_mem _ hz)) (List.cons_ne_nil _ _)
        (Nat.le_of_succ_le_succ hfuel)]
      rfl

/-- What a reader gives of each part holds of all parts. -/
lemma forall_of_readParts [DecidableEq β] {skip : List β → List β}
    {read : List β → Option (γ × List β)} {p : γ → Prop} {fuel : ℕ}
    (hread : ∀ text z rest, read text = some (z, rest) → p z) {text rest : List β} {zs : List γ}
    (h : readParts skip read separator close fuel text = some (zs, rest)) : ∀ z ∈ zs, p z := by
  induction fuel generalizing text zs with
  | zero => cases h
  | succ fuel ih =>
    rw [readParts] at h
    cases hz : read text with
    | none =>
      rw [hz] at h
      cases h
    | some first =>
      obtain ⟨z, text'⟩ := first
      have hp := hread _ _ _ hz
      rw [hz] at h
      dsimp only at h
      split at h
      · cases h
      rename_i mark tail _
      split at h
      · obtain ⟨⟨ws, rest'⟩, hws, heq⟩ := Option.map_eq_some_iff.1 h
        cases heq
        rw [List.forall_mem_cons]
        exact ⟨hp, ih hws⟩
      split at h
      · cases h
        simpa using hp
      · cases h

end Readers

/-! ## Fields between separators -/

section Fields

variable {separator : β} {x y u v : List β}

/-- The first field of a text, where the field does not hold the separator. -/
lemma firstField_inj (hx : separator ∉ x) (hy : separator ∉ y)
    (h : x ++ separator :: u = y ++ separator :: v) : x = y ∧ u = v := by
  induction x generalizing y with
  | nil =>
    cases y with
    | nil => exact ⟨rfl, (List.cons.inj h).2⟩
    | cons b bs =>
      have hb : separator = b := (List.cons.inj h).1
      exact absurd (hb ▸ List.mem_cons_self) hy
  | cons a as ih =>
    cases y with
    | nil =>
      have ha : a = separator := (List.cons.inj h).1
      exact absurd (ha ▸ List.mem_cons_self) hx
    | cons b bs =>
      obtain ⟨rfl, hrest⟩ := List.cons.inj h
      obtain ⟨rfl, rfl⟩ := ih (fun hmem => hx (List.mem_cons_of_mem _ hmem))
        (fun hmem => hy (List.mem_cons_of_mem _ hmem)) hrest
      exact ⟨rfl, rfl⟩

/-- The last field of a text, where the field does not hold the separator. -/
lemma lastField_inj (hx : separator ∉ x) (hy : separator ∉ y)
    (h : u ++ separator :: x = v ++ separator :: y) : u = v ∧ x = y := by
  have hreverse : x.reverse ++ separator :: u.reverse = y.reverse ++ separator :: v.reverse := by
    simpa using congrArg List.reverse h
  obtain ⟨hxy, huv⟩ := firstField_inj (fun hmem => hx (List.mem_reverse.1 hmem))
    (fun hmem => hy (List.mem_reverse.1 hmem)) hreverse
  exact ⟨List.reverse_injective huv, List.reverse_injective hxy⟩

/-- A field that may hold the separator can be read in two ways: one reading goes on after the
other, into what the other takes for the fields that follow. -/
lemma freeField_cases (h : x ++ separator :: u = y ++ separator :: v) :
    (x = y ∧ u = v) ∨ (∃ w, y = x ++ separator :: w ∧ u = w ++ separator :: v) ∨
      ∃ w, x = y ++ separator :: w ∧ v = w ++ separator :: u := by
  rcases List.append_eq_append_iff.1 h with ⟨w, rfl, hw⟩ | ⟨w, rfl, hw⟩
  · cases w with
    | nil => exact .inl ⟨by simp, (List.cons.inj hw).2⟩
    | cons b bs =>
      obtain ⟨rfl, rfl⟩ := List.cons.inj hw
      exact .inr (.inl ⟨bs, rfl, rfl⟩)
  · cases w with
    | nil => exact .inl ⟨by simp, (List.cons.inj hw).2.symm⟩
    | cons b bs =>
      obtain ⟨rfl, rfl⟩ := List.cons.inj hw
      exact .inr (.inr ⟨bs, rfl, rfl⟩)

end Fields

section Marks

variable {mark : β} {needle text : List β}

/-- A needle that begins with a mark is found only where the text has the mark. -/
lemma prefix_drop_iff (hmark : mark ∉ text) (i : ℕ) :
    mark :: needle <+: (mark :: text).drop i ↔ i = 0 ∧ needle <+: text := by
  constructor
  · intro h
    cases i with
    | zero => exact ⟨rfl, List.prefix_cons_inj mark |>.1 h⟩
    | succ i =>
      rw [List.drop_succ_cons] at h
      exact absurd (List.mem_of_mem_drop (h.subset List.mem_cons_self)) hmark
  · rintro ⟨rfl, h⟩
    exact (List.prefix_cons_inj mark).2 h

lemma infix_iff_prefix (hmark : mark ∉ text) :
    mark :: needle <:+: mark :: text ↔ needle <+: text := by
  constructor
  · intro h
    rcases List.infix_cons_iff.1 h with hprefix | hwithin
    · exact (List.prefix_cons_inj mark).1 hprefix
    · exact absurd (hwithin.subset List.mem_cons_self) hmark
  · intro h
    exact ((List.prefix_cons_inj mark).2 h).isInfix

lemma notMem_intercalate {separator : List β} {lines : List (List β)}
    (hseparator : mark ∉ separator) (hlines : ∀ line ∈ lines, mark ∉ line) :
    mark ∉ List.intercalate separator lines := by
  induction lines with
  | nil => simp
  | cons line lines ih =>
    have hline := hlines line List.mem_cons_self
    cases lines with
    | nil =>
      rw [List.intercalate_singleton]
      exact hline
    | cons line' lines =>
      rw [List.intercalate_cons_cons, List.append_assoc, List.mem_append, List.mem_append]
      rintro (hmem | hmem | hmem)
      · exact hline hmem
      · exact hseparator hmem
      · exact ih (fun l hl => hlines l (List.mem_cons_of_mem _ hl)) hmem

end Marks

/-- The characters of a decimal integer. -/
def isNumeral (c : Char) : Bool := c.isDigit || c == '-'

lemma natRepr_injective {m n : ℕ} (h : m.repr = n.repr) : m = n := by
  have hdigits : Nat.toDigits 10 m = Nat.toDigits 10 n := by
    rw [← Nat.toList_repr, ← Nat.toList_repr, h]
  rw [← Nat.ofDigitChars_ten_toDigits (n := m), hdigits, Nat.ofDigitChars_ten_toDigits]

lemma isDigit_of_mem_natRepr {n : ℕ} {c : Char} (hc : c ∈ n.repr.toList) : c.isDigit = true := by
  rw [Nat.toList_repr] at hc
  exact Nat.isDigit_of_mem_toDigits (by decide) (by decide) hc

lemma minus_notMem_natRepr {n : ℕ} : '-' ∉ n.repr.toList := by
  intro hmem
  have := isDigit_of_mem_natRepr hmem
  revert this
  decide

lemma intToString_toList (i : ℤ) : (toString i).toList =
    if 0 ≤ i then i.toNat.repr.toList else '-' :: (-i).toNat.repr.toList := by
  rw [Int.toString_eq_repr, Int.repr_eq_if]
  split
  · rfl
  · rw [String.toList_append]
    rfl

lemma isNumeral_of_mem_intToString {i : ℤ} {c : Char} (hc : c ∈ (toString i).toList) :
    isNumeral c = true := by
  rw [intToString_toList] at hc
  unfold isNumeral
  split at hc
  · rw [isDigit_of_mem_natRepr hc, Bool.true_or]
  · rcases List.mem_cons.1 hc with rfl | hc
    · decide
    · rw [isDigit_of_mem_natRepr hc, Bool.true_or]

lemma intToString_ne_nil {i : ℤ} : (toString i).toList ≠ [] := by
  rw [intToString_toList]
  split
  · rw [Nat.toList_repr]
    exact Nat.toDigits_ne_nil
  · simp

/-- A decimal numeral denotes one integer. -/
lemma intToString_injective {i j : ℤ} (h : toString i = toString j) : i = j := by
  have htext : (toString i).toList = (toString j).toList := by rw [h]
  rw [intToString_toList, intToString_toList] at htext
  split at htext
  · split at htext
    · have := natRepr_injective (String.toList_inj.1 htext)
      omega
    · have hmem : '-' ∈ i.toNat.repr.toList := by
        rw [htext]
        exact List.mem_cons_self
      exact absurd hmem minus_notMem_natRepr
  · split at htext
    · have hmem : '-' ∈ j.toNat.repr.toList := by
        rw [← htext]
        exact List.mem_cons_self
      exact absurd hmem minus_notMem_natRepr
    · have := natRepr_injective (String.toList_inj.1 (List.cons.inj htext).2)
      omega

end Reading
