import DeploymentLab.Library.Reading
import DeploymentLab.Model.Slack

/-!
# Escaped text

What `html.escape` leaves of a text: no markup, the other characters as they are, and enough to
tell two texts apart.
-/

namespace DeploymentLab

open Reading

/-- The characters that are escaped and the names of their entities. -/
def entities : List (Char × String) :=
  [('&', "amp"), ('<', "lt"), ('>', "gt"), ('"', "quot"), ('\'', "#x27")]

lemma htmlEscapeChar_cases (quote : Bool) (c : Char) :
    (htmlEscapeChar quote c = [c] ∧ c ∉ ['&', '<', '>']) ∨
      ∃ name, (c, name) ∈ entities ∧ htmlEscapeChar quote c = '&' :: (name.toList ++ [';']) := by
  unfold htmlEscapeChar
  split
  · rename_i hc
    exact .inr ⟨"amp", by simp [entities, hc], by decide⟩
  split
  · rename_i hc
    exact .inr ⟨"lt", by simp [entities, hc], by decide⟩
  split
  · rename_i hc
    exact .inr ⟨"gt", by simp [entities, hc], by decide⟩
  split
  · rename_i hc
    exact .inr ⟨"quot", by simp [entities, hc.2], by decide⟩
  split
  · rename_i hc
    exact .inr ⟨"#x27", by simp [entities, hc.2], by decide⟩
  · rename_i hamp hlt hgt hquot happos
    exact .inl ⟨rfl, by simp [hamp, hlt, hgt]⟩

lemma entities_inj : ∀ e ∈ entities, ∀ e' ∈ entities, e.2 = e'.2 → e = e' := by
  decide

lemma semicolon_notMem_entities : ∀ e ∈ entities, ';' ∉ e.2.toList := by
  decide

lemma htmlEscapeChar_prefixFree (quote : Bool) : PrefixFree (htmlEscapeChar quote) := by
  intro c d u v h
  rcases htmlEscapeChar_cases quote c with ⟨hc, hplain⟩ | ⟨name, hmem, hc⟩
  · rcases htmlEscapeChar_cases quote d with ⟨hd, -⟩ | ⟨name', hmem', hd⟩
    · rw [hc, hd] at h
      exact ⟨(List.cons.inj h).1, (List.cons.inj h).2⟩
    · rw [hc, hd] at h
      have hamp : c = '&' := (List.cons.inj h).1
      simp [hamp] at hplain
  · rcases htmlEscapeChar_cases quote d with ⟨hd, hplain⟩ | ⟨name', hmem', hd⟩
    · rw [hc, hd] at h
      have hamp : '&' = d := (List.cons.inj h).1
      simp [← hamp] at hplain
    · rw [hc, hd, List.cons_append, List.cons_append, List.append_assoc,
        List.append_assoc] at h
      obtain ⟨hnames, huv⟩ := firstField_inj (semicolon_notMem_entities _ hmem)
        (semicolon_notMem_entities _ hmem') (List.cons.inj h).2
      have hsame := entities_inj _ hmem _ hmem' (String.toList_inj.1 hnames)
      exact ⟨congrArg Prod.fst hsame, huv⟩

lemma htmlEscapeChar_ne_nil (quote : Bool) (c : Char) : htmlEscapeChar quote c ≠ [] := by
  rcases htmlEscapeChar_cases quote c with ⟨hc, -⟩ | ⟨name, -, hc⟩
  · simp [hc]
  · simp [hc]

lemma htmlEscape_toList (s : String) (quote : Bool) :
    (htmlEscape s quote).toList = s.toList.flatMap (htmlEscapeChar quote) := by
  rw [htmlEscape, String.toList_ofList]

lemma htmlEscape_injective {s t : String} {quote : Bool}
    (h : htmlEscape s quote = htmlEscape t quote) : s = t := by
  have htext := congrArg String.toList h
  rw [htmlEscape_toList, htmlEscape_toList] at htext
  exact String.toList_inj.1 ((htmlEscapeChar_prefixFree quote).flatMap_injective
    (htmlEscapeChar_ne_nil quote) htext)

/-- A character that is neither escaped nor part of an entity. -/
def unescaped (c : Char) : Bool := !("&<>\"';#ampltgquox27".toList.contains c)

lemma entities_escaped : ∀ e ∈ entities, unescaped e.1 = false ∧
    ('&' :: (e.2.toList ++ [';'])).any unescaped = false := by
  decide

lemma mem_htmlEscape_iff {c : Char} {s : String} {quote : Bool} (hc : unescaped c = true) :
    c ∈ (htmlEscape s quote).toList ↔ c ∈ s.toList := by
  rw [htmlEscape_toList, List.mem_flatMap]
  constructor
  · rintro ⟨d, hd, hmem⟩
    rcases htmlEscapeChar_cases quote d with ⟨hplain, -⟩ | ⟨name, hentity, hname⟩
    · rw [hplain, List.mem_singleton] at hmem
      rw [hmem]
      exact hd
    · rw [hname] at hmem
      exact absurd hc (List.any_eq_false.1 (entities_escaped _ hentity).2 c hmem)
  · intro hmem
    refine ⟨c, hmem, ?_⟩
    rcases htmlEscapeChar_cases quote c with ⟨hplain, -⟩ | ⟨name, hentity, -⟩
    · rw [hplain]
      exact List.mem_singleton_self c
    · have hescaped := (entities_escaped _ hentity).1
      rw [hescaped] at hc
      cases hc

lemma angle_notMem_entities : ∀ e ∈ entities,
    ('&' :: (e.2.toList ++ [';'])).any (['<', '>'].contains ·) = false := by
  decide

/-- No tag or link begins or ends in an escaped text. -/
lemma angle_notMem_htmlEscape {c : Char} {s : String} {quote : Bool} (hc : c ∈ ['<', '>']) :
    c ∉ (htmlEscape s quote).toList := by
  intro hmem
  rw [htmlEscape_toList, List.mem_flatMap] at hmem
  obtain ⟨d, -, hmem⟩ := hmem
  rcases htmlEscapeChar_cases quote d with ⟨hplain, hd⟩ | ⟨name, hentity, hname⟩
  · rw [hplain, List.mem_singleton] at hmem
    rw [← hmem] at hd
    exact hd (List.mem_cons_of_mem _ hc)
  · rw [hname] at hmem
    have hnone := List.any_eq_false.1 (angle_notMem_entities _ hentity) c hmem
    rw [List.contains_iff_mem] at hnone
    exact hnone hc

end DeploymentLab
