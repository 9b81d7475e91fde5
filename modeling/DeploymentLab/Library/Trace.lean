import Mathlib.Data.List.Induction
import DeploymentLab.Library.Script

/-!
# Traces of programs

The pasts that a program may come to have, whatever it is answered and whatever it sees. A
thread of a machine never has another past than one of its job, so that a result about the
traces of one program holds of each thread that runs it.
-/

namespace Interaction

variable {sig : Signature} {α β γ J W C : Type}

namespace Past

variable {h₀ h₁ h : Past sig α} {act b : Act sig α}

/-- The act has been done since the past `h₀`. -/
def Since (h₀ h : Past sig α) (act : Act sig α) : Prop :=
  ∃ later earlier, h = later ++ act :: earlier ∧ h₀ <:+ earlier

lemma not_since : ¬Since h h act := by
  rintro ⟨later, earlier, heq, hsuffix⟩
  have hlength := congrArg List.length heq
  have hle := hsuffix.length_le
  simp only [List.length_append, List.length_cons] at hlength
  omega

lemma since_cons : Since h₀ (b :: h) act ↔ (b = act ∧ h₀ <:+ h) ∨ Since h₀ h act := by
  constructor
  · rintro ⟨later, earlier, heq, hsuffix⟩
    cases later with
    | nil =>
      obtain ⟨rfl, rfl⟩ := List.cons.inj heq
      exact .inl ⟨rfl, hsuffix⟩
    | cons b' later => exact .inr ⟨later, earlier, (List.cons.inj heq).2, hsuffix⟩
  · rintro (⟨rfl, hsuffix⟩ | ⟨later, earlier, rfl, hsuffix⟩)
    · exact ⟨[], h, rfl, hsuffix⟩
    · exact ⟨b :: later, earlier, rfl, hsuffix⟩

/-- What has been done since `h₀` has been done since a later past, or before it. -/
lemma Since.split (hsince : Since h₀ h act) (hsuffix : h₁ <:+ h) :
    Since h₁ h act ∨ Since h₀ h₁ act := by
  obtain ⟨later, earlier, rfl, hearlier⟩ := hsince
  have hown : act :: earlier <:+ later ++ act :: earlier := List.suffix_append _ _
  rcases List.suffix_or_suffix_of_suffix hown hsuffix with ⟨newer, rfl⟩ | hold
  · exact .inr ⟨newer, earlier, rfl, hearlier⟩
  rcases List.suffix_cons_iff.1 hold with rfl | hold
  · exact .inr ⟨[], earlier, rfl, hearlier⟩
  · exact .inl ⟨later, earlier, rfl, hold⟩

end Past

namespace Prog

/-- Every await of the program is in `P`. -/
def Issues (P : sig.Effect → Prop) : Prog sig β → Prop
  | .ret _ => True
  | .raise _ => True
  | .look k => ∀ s, Issues P (k s)
  | .call e k => P e ∧ ∀ r, Issues P (k r)

/-- Begun after the past `h₀`, the program may end in `r` with the past `h`. -/
def Trace : Prog sig β → Past sig α → Past sig α → Except sig.Exn β → Prop
  | .ret a, h₀, h, r => h = h₀ ∧ r = .ok a
  | .raise x, h₀, h, r => h = h₀ ∧ r = .error x
  | .look k, h₀, h, r => ∃ s, Trace (k s) h₀ h r
  | .call e k, h₀, h, r => ∃ answer, Trace (k answer) (.answered e answer :: .issued e :: h₀) h r

/-- Begun after the past `h₀`, the program may come to have the past `h`. -/
def Unfolds : Prog sig α → Past sig α → Past sig α → Prop
  | .ret a, h₀, h => h = h₀ ∨ h = .ended (.ok a) :: h₀
  | .raise x, h₀, h => h = h₀ ∨ h = .ended (.error x) :: h₀
  | .look k, h₀, h => h = h₀ ∨ ∃ s, Unfolds (k s) h₀ h
  | .call e k, h₀, h => h = h₀ ∨ h = .issued e :: h₀ ∨
      ∃ answer, Unfolds (k answer) (.answered e answer :: .issued e :: h₀) h

/-- At every await of a program that is begun in the view `s`, the view meets `P`. -/
def Attends (P : sig.View → sig.Effect → Prop) : Prog sig β → sig.View → Prop
  | .ret _, _ => True
  | .raise _, _ => True
  | .look k, s => Attends P (k s) s
  | .call e k, s => P s e ∧ ∀ r s', Attends P (k r) s'

section Issues

variable {P P' : sig.Effect → Prop} {p : Prog sig β} {f : β → Prog sig γ}

lemma Issues.mono (hp : p.Issues P) (hP : ∀ e, P e → P' e) : p.Issues P' := by
  induction p with
  | ret a => trivial
  | raise x => trivial
  | look k ih => exact fun s => ih s (hp s)
  | call e k ih => exact ⟨hP e hp.1, fun r => ih r (hp.2 r)⟩

lemma issues_true : p.Issues fun _ => True := by
  induction p with
  | ret a => trivial
  | raise x => trivial
  | look k ih => exact fun s => ih s
  | call e k ih => exact ⟨trivial, fun r => ih r⟩

lemma Issues.bind (hp : p.Issues P) (hf : ∀ a, (f a).Issues P) : (p.bind f).Issues P := by
  induction p with
  | ret a => exact hf a
  | raise x => trivial
  | look k ih => exact fun s => ih s (hp s)
  | call e k ih => exact ⟨hp.1, fun r => ih r (hp.2 r)⟩

lemma Issues.attempt (hp : p.Issues P) : p.attempt.Issues P := by
  induction p with
  | ret a => trivial
  | raise x => trivial
  | look k ih => exact fun s => ih s (hp s)
  | call e k ih => exact ⟨hp.1, fun r => ih r (hp.2 r)⟩

@[simp] lemma issues_perform {e : sig.Effect} : (perform e).Issues P ↔ P e := by
  refine ⟨And.left, fun h => ⟨h, fun r => ?_⟩⟩
  cases r <;> trivial

@[simp] lemma issues_ofExcept {r : Except sig.Exn β} : (ofExcept r).Issues P := by
  cases r <;> trivial

end Issues

section Attends

variable {P : sig.View → sig.Effect → Prop} {p : Prog sig β} {f : β → Prog sig γ} {s : sig.View}

/-- A program whose awaits are allowed in every view. -/
lemma Issues.attends (hp : p.Issues fun e => ∀ s, P s e) : p.Attends P s := by
  induction p generalizing s with
  | ret a => trivial
  | raise x => trivial
  | look k ih => exact ih s (hp s)
  | call e k ih => exact ⟨hp.1 s, fun r s' => ih r (hp.2 r)⟩

lemma Attends.bind (hp : p.Attends P s) (hf : ∀ a s', (f a).Attends P s') :
    (p.bind f).Attends P s := by
  induction p generalizing s with
  | ret a => exact hf a s
  | raise x => trivial
  | look k ih => exact ih s hp
  | call e k ih => exact ⟨hp.1, fun r s' => ih r (hp.2 r s')⟩

lemma Attends.attempt (hp : p.Attends P s) : p.attempt.Attends P s := by
  induction p generalizing s with
  | ret a => trivial
  | raise x => trivial
  | look k ih => exact ih s hp
  | call e k ih => exact ⟨hp.1, fun r s' => ih r (hp.2 r s')⟩

end Attends

section Trace

variable {p : Prog sig β} {f : β → Prog sig γ} {h₀ h : Past sig α}

lemma trace_ofExcept (r : Except sig.Exn β) : (ofExcept r).Trace h h r := by
  cases r with
  | ok a => exact ⟨rfl, rfl⟩
  | error x => exact ⟨rfl, rfl⟩

lemma trace_bind {r : Except sig.Exn γ} (hbind : (p.bind f).Trace h₀ h r) :
    (∃ x, p.Trace h₀ h (.error x) ∧ r = .error x) ∨
      ∃ a h₁, p.Trace h₀ h₁ (.ok a) ∧ (f a).Trace h₁ h r := by
  induction p generalizing h₀ with
  | ret a => exact .inr ⟨a, h₀, ⟨rfl, rfl⟩, hbind⟩
  | raise x => exact .inl ⟨x, ⟨hbind.1, rfl⟩, hbind.2⟩
  | look k ih =>
    obtain ⟨s, hs⟩ := hbind
    rcases ih s hs with ⟨x, hx, hr⟩ | ⟨a, h₁, ha, hf⟩
    · exact .inl ⟨x, ⟨s, hx⟩, hr⟩
    · exact .inr ⟨a, h₁, ⟨s, ha⟩, hf⟩
  | call e k ih =>
    obtain ⟨answer, hanswer⟩ := hbind
    rcases ih answer hanswer with ⟨x, hx, hr⟩ | ⟨a, h₁, ha, hf⟩
    · exact .inl ⟨x, ⟨answer, hx⟩, hr⟩
    · exact .inr ⟨a, h₁, ⟨answer, ha⟩, hf⟩

lemma trace_bind_ok {r : Except sig.Exn γ} {h₁ : Past sig α} {a : β}
    (hp : p.Trace h₀ h₁ (.ok a)) (hf : (f a).Trace h₁ h r) : (p.bind f).Trace h₀ h r := by
  induction p generalizing h₀ with
  | ret b =>
    obtain ⟨rfl, hb⟩ := hp
    cases hb
    exact hf
  | raise x => cases hp.2
  | look k ih =>
    obtain ⟨s, hs⟩ := hp
    exact ⟨s, ih s hs⟩
  | call e k ih =>
    obtain ⟨answer, hanswer⟩ := hp
    exact ⟨answer, ih answer hanswer⟩

/-- What a program raises is a value to who has attempted it. -/
lemma trace_attempt {r : Except sig.Exn β} (hp : p.Trace h₀ h r) :
    p.attempt.Trace h₀ h (.ok r) := by
  induction p generalizing h₀ with
  | ret a =>
    obtain ⟨rfl, rfl⟩ := hp
    exact ⟨rfl, rfl⟩
  | raise x =>
    obtain ⟨rfl, rfl⟩ := hp
    exact ⟨rfl, rfl⟩
  | look k ih =>
    obtain ⟨s, hs⟩ := hp
    exact ⟨s, ih s hs⟩
  | call e k ih =>
    obtain ⟨answer, hanswer⟩ := hp
    exact ⟨answer, ih answer hanswer⟩

lemma trace_attempt_bind {f : Except sig.Exn β → Prog sig γ} {r : Except sig.Exn γ}
    (hbind : (p.attempt.bind f).Trace h₀ h r) :
    ∃ r₁ h₁, p.Trace h₀ h₁ r₁ ∧ (f r₁).Trace h₁ h r := by
  induction p generalizing h₀ with
  | ret a => exact ⟨.ok a, h₀, ⟨rfl, rfl⟩, hbind⟩
  | raise x => exact ⟨.error x, h₀, ⟨rfl, rfl⟩, hbind⟩
  | look k ih =>
    obtain ⟨s, hs⟩ := hbind
    obtain ⟨r₁, h₁, htrace, hrest⟩ := ih s hs
    exact ⟨r₁, h₁, ⟨s, htrace⟩, hrest⟩
  | call e k ih =>
    obtain ⟨answer, hanswer⟩ := hbind
    obtain ⟨r₁, h₁, htrace, hrest⟩ := ih answer hanswer
    exact ⟨r₁, h₁, ⟨answer, htrace⟩, hrest⟩

variable {script script' : Script sig α} {Q : Past sig α → Except sig.Exn β → Prop}

/-- A program that keeps to a script keeps to every laxer one. -/
lemma emits_laxer (hp : p.Emits script Q h₀)
    (hscript : ∀ h e, script h (.issued e) → script' h (.issued e)) :
    p.Emits script' Q h₀ := by
  induction p generalizing h₀ with
  | ret a => exact hp
  | raise x => exact hp
  | look k ih => exact fun s => ih s (hp s)
  | call e k ih => exact ⟨hscript h₀ e hp.1, fun r => ih r (hp.2 r)⟩

/-- A program that keeps to a script ends as the script's proof says, with one of its traces. -/
lemma emits_trace (hp : p.Emits script Q h₀) :
    p.Emits script (fun h r => Q h r ∧ p.Trace h₀ h r) h₀ := by
  induction p generalizing h₀ with
  | ret a => exact ⟨hp, rfl, rfl⟩
  | raise x => exact ⟨hp, rfl, rfl⟩
  | look k ih =>
    exact fun s => emits_mono (ih s (hp s)) fun _ _ hQ => ⟨hQ.1, s, hQ.2⟩
  | call e k ih =>
    exact ⟨hp.1, fun r => emits_mono (ih r (hp.2 r)) fun _ _ hQ => ⟨hQ.1, r, hQ.2⟩⟩

lemma Trace.suffix {r : Except sig.Exn β} (htrace : p.Trace h₀ h r) : h₀ <:+ h := by
  induction p generalizing h₀ with
  | ret a => exact htrace.1 ▸ List.suffix_refl h
  | raise x => exact htrace.1 ▸ List.suffix_refl h
  | look k ih =>
    obtain ⟨s, hs⟩ := htrace
    exact ih s hs
  | call e k ih =>
    obtain ⟨answer, hanswer⟩ := htrace
    exact ((List.suffix_cons _ _).trans (List.suffix_cons _ _)).trans (ih answer hanswer)

/-- An answer that a program has got is to what it issued just before. -/
lemma Trace.answered {r : Except sig.Exn β} (htrace : p.Trace h₀ h r) {e : sig.Effect}
    {answer : Except sig.Exn (sig.Answer e)} (hmem : .answered e answer ∈ h) :
    .answered e answer ∈ h₀ ∨ ∃ later earlier,
      h = later ++ .answered e answer :: .issued e :: earlier ∧ h₀ <:+ earlier := by
  induction p generalizing h₀ with
  | ret a => exact .inl (htrace.1 ▸ hmem)
  | raise x => exact .inl (htrace.1 ▸ hmem)
  | look k ih =>
    obtain ⟨s, hs⟩ := htrace
    exact ih s hs
  | call e' k ih =>
    obtain ⟨answer', htrace⟩ := htrace
    rcases ih answer' htrace with hold | ⟨later, earlier, heq, hsuffix⟩
    · rcases List.mem_cons.1 hold with heq | hold
      · cases heq
        obtain ⟨later, heq⟩ := htrace.suffix
        exact .inr ⟨later, h₀, heq.symm, List.suffix_refl h₀⟩
      rcases List.mem_cons.1 hold with heq | hold
      · cases heq
      · exact .inl hold
    · refine .inr ⟨later, earlier, heq, ?_⟩
      exact ((List.suffix_cons _ _).trans (List.suffix_cons _ _)).trans hsuffix

/-- A program that awaits nothing leaves the past as it is. -/
lemma Issues.trace_silent (hp : p.Issues fun _ => False) {r : Except sig.Exn β}
    (htrace : p.Trace h₀ h r) : h = h₀ := by
  induction p with
  | ret a => exact htrace.1
  | raise x => exact htrace.1
  | look k ih =>
    obtain ⟨s, hs⟩ := htrace
    exact ih s (hp s) hs
  | call e k _ => exact hp.1.elim

/-- What a program has been answered since the past it began with is to an await of its own. -/
lemma Issues.since {P : sig.Effect → Prop} (hp : p.Issues P) {r : Except sig.Exn β}
    (htrace : p.Trace h₀ h r) {e : sig.Effect} {answer : Except sig.Exn (sig.Answer e)}
    (hsince : Past.Since h₀ h (.answered e answer)) : P e := by
  induction p generalizing h₀ with
  | ret a =>
    obtain ⟨rfl, -⟩ := htrace
    exact absurd hsince Past.not_since
  | raise x =>
    obtain ⟨rfl, -⟩ := htrace
    exact absurd hsince Past.not_since
  | look k ih =>
    obtain ⟨s, hs⟩ := htrace
    exact ih s (hp s) hs hsince
  | call e' k ih =>
    obtain ⟨answer', hrest⟩ := htrace
    rcases hsince.split hrest.suffix with hnew | hold
    · exact ih answer' (hp.2 answer') hrest hnew
    · rcases Past.since_cons.1 hold with ⟨heq, -⟩ | hold
      · cases heq
        exact hp.1
      rcases Past.since_cons.1 hold with ⟨heq, -⟩ | hold
      · cases heq
      · exact absurd hold Past.not_since

/-- A program does not lose the past that it began with. -/
lemma emits_suffix (hp : p.Emits script Q h₀) :
    p.Emits script (fun h r => Q h r ∧ h₀ <:+ h) h₀ :=
  emits_mono (emits_trace hp) fun _ _ hQ => ⟨hQ.1, hQ.2.suffix⟩

lemma Emits.of_trace (hp : p.Emits script Q h₀) {r : Except sig.Exn β}
    (htrace : p.Trace h₀ h r) : Q h r := by
  induction p generalizing h₀ with
  | ret a =>
    obtain ⟨rfl, rfl⟩ := htrace
    exact hp
  | raise x =>
    obtain ⟨rfl, rfl⟩ := htrace
    exact hp
  | look k ih =>
    obtain ⟨s, hs⟩ := htrace
    exact ih s (hp s) hs
  | call e k ih =>
    obtain ⟨answer, hanswer⟩ := htrace
    exact ih answer (hp.2 answer) hanswer

/-- A program whose awaits are all in `P` keeps to a script that allows them wherever `I`, which
no act ends, holds. -/
lemma Issues.emits {P : sig.Effect → Prop} {I : Past sig α → Prop} (hp : p.Issues P)
    (hcons : ∀ act h, I h → I (act :: h)) (hscript : ∀ h e, I h → P e → script h (.issued e))
    (hI : I h₀) : p.Emits script (fun h _ => I h) h₀ := by
  induction p generalizing h₀ with
  | ret a => exact hI
  | raise x => exact hI
  | look k ih => exact fun s => ih s (hp s) hI
  | call e k ih =>
    exact ⟨hscript h₀ e hI hp.1, fun r => ih r (hp.2 r) (hcons _ _ (hcons _ _ hI))⟩

end Trace

section Unfolds

variable {p : Prog sig α} {h₀ h : Past sig α}

lemma unfolds_self : p.Unfolds h h := by
  cases p with
  | ret | raise | look | call => exact .inl rfl

/-- Every await of a past was one that the script allowed. -/
def Conforms (script : Script sig α) (h : Past sig α) : Prop :=
  ∀ later e earlier, h = later ++ .issued e :: earlier → script earlier (.issued e)

lemma conforms_nil {script : Script sig α} : Conforms script [] := by
  intro later e earlier heq
  have := congrArg List.length heq
  simp at this

lemma Conforms.cons {script : Script sig α} (hh : Conforms script h) {act : Act sig α}
    (hact : ∀ e, act = .issued e → script h (.issued e)) : Conforms script (act :: h) := by
  intro later e earlier heq
  cases later with
  | nil =>
    obtain ⟨rfl, rfl⟩ := List.cons.inj heq
    exact hact e rfl
  | cons b later => exact hh later e earlier (List.cons.inj heq).2

/-- What a program has been answered it has issued. -/
lemma Unfolds.issued (hunfolds : p.Unfolds h₀ h) {e : sig.Effect}
    {answer : Except sig.Exn (sig.Answer e)} (hmem : .answered e answer ∈ h)
    (hold : .answered e answer ∈ h₀ → .issued e ∈ h₀) : .issued e ∈ h := by
  induction p generalizing h₀ with
  | ret a =>
    rcases hunfolds with rfl | rfl
    · exact hold hmem
    · simpa using hold (by simpa using hmem)
  | raise x =>
    rcases hunfolds with rfl | rfl
    · exact hold hmem
    · simpa using hold (by simpa using hmem)
  | look k ih =>
    rcases hunfolds with rfl | ⟨s, hs⟩
    · exact hold hmem
    · exact ih s hs hold
  | call e' k ih =>
    rcases hunfolds with rfl | rfl | ⟨r, hr⟩
    · exact hold hmem
    · exact List.mem_cons_of_mem _ (hold (by simpa using hmem))
    · refine ih r hr fun hmem => ?_
      rcases List.mem_cons.1 hmem with heq | hmem
      · cases heq
        simp
      · exact List.mem_cons_of_mem _ (List.mem_cons_of_mem _ (hold (by simpa using hmem)))

/-- The pasts of a program that keeps to a script conform to it. -/
lemma Emits.conforms {script : Script sig α} {Q : Past sig α → Except sig.Exn α → Prop}
    (hp : p.Emits script Q h₀) (hconforms : Conforms script h₀) (hunfolds : p.Unfolds h₀ h) :
    Conforms script h := by
  induction p generalizing h₀ with
  | ret a =>
    rcases hunfolds with rfl | rfl
    · exact hconforms
    · exact hconforms.cons fun _ heq => by cases heq
  | raise x =>
    rcases hunfolds with rfl | rfl
    · exact hconforms
    · exact hconforms.cons fun _ heq => by cases heq
  | look k ih =>
    rcases hunfolds with rfl | ⟨s, hs⟩
    · exact hconforms
    · exact ih s (hp s) hconforms hs
  | call e k ih =>
    have hissued : Conforms script (.issued e :: h₀) :=
      hconforms.cons fun _ heq => by cases heq; exact hp.1
    rcases hunfolds with rfl | rfl | ⟨answer, hanswer⟩
    · exact hconforms
    · exact hissued
    · exact ih answer (hp.2 answer) (hissued.cons fun _ heq => by cases heq) hanswer

/-- The trace of a program that keeps to a script conforms to it. -/
lemma Emits.conforms_trace {p : Prog sig β} {script : Script sig α}
    {Q : Past sig α → Except sig.Exn β → Prop} (hp : p.Emits script Q h₀)
    (hconforms : Conforms script h₀) {r : Except sig.Exn β} (htrace : p.Trace h₀ h r) :
    Conforms script h := by
  induction p generalizing h₀ with
  | ret a => exact htrace.1 ▸ hconforms
  | raise x => exact htrace.1 ▸ hconforms
  | look k ih =>
    obtain ⟨s, hs⟩ := htrace
    exact ih s (hp s) hconforms hs
  | call e k ih =>
    obtain ⟨answer, hanswer⟩ := htrace
    have hissued : Conforms script (.issued e :: h₀) :=
      hconforms.cons fun _ heq => by cases heq; exact hp.1
    exact ih answer (hp.2 answer) (hissued.cons fun _ heq => by cases heq) hanswer

/-- What a program issues after `h₀` it issues as its script says. -/
lemma Emits.issued_since {p : Prog sig β} {script : Script sig α}
    {Q : Past sig α → Except sig.Exn β → Prop} (hp : p.Emits script Q h₀)
    {r : Except sig.Exn β} (htrace : p.Trace h₀ h r) {later earlier : Past sig α} {e : sig.Effect}
    (heq : h = later ++ .issued e :: earlier) (hsuffix : h₀ <:+ earlier) :
    script earlier (.issued e) := by
  have hlaxer : p.Emits (fun past act => h₀ <:+ past → script past act) Q h₀ :=
    emits_laxer hp fun past e hscript _ => hscript
  refine hlaxer.conforms_trace (fun later e earlier heq hsuffix => ?_) htrace later e earlier heq
    hsuffix
  have hlength := congrArg List.length heq
  have hle := hsuffix.length_le
  simp only [List.length_append, List.length_cons] at hlength
  omega

/-- A past that has come to its end is a trace. -/
lemma Unfolds.trace {r : Except sig.Exn α} (hunended : Past.Unended h₀)
    (hunfolds : p.Unfolds h₀ (.ended r :: h)) : p.Trace h₀ h r := by
  have hne : .ended r :: h ≠ h₀ := by
    rintro rfl
    exact hunended r List.mem_cons_self
  induction p generalizing h₀ with
  | ret a =>
    rcases hunfolds with heq | heq
    · exact absurd heq hne
    · cases heq
      exact ⟨rfl, rfl⟩
  | raise x =>
    rcases hunfolds with heq | heq
    · exact absurd heq hne
    · cases heq
      exact ⟨rfl, rfl⟩
  | look k ih =>
    rcases hunfolds with heq | ⟨s, hs⟩
    · exact absurd heq hne
    · exact ⟨s, ih s hunended hs hne⟩
  | call e k ih =>
    rcases hunfolds with heq | heq | ⟨answer, hanswer⟩
    · exact absurd heq hne
    · cases heq
    · have hunended' : Past.Unended (.answered e answer :: .issued e :: h₀) := by
        intro r' hmem
        rcases List.mem_cons.1 hmem with heq | hmem
        · cases heq
        rcases List.mem_cons.1 hmem with heq | hmem
        · cases heq
        exact hunended r' hmem
      refine ⟨answer, ih answer hunended' hanswer ?_⟩
      intro heq
      cases heq

end Unfolds

end Prog

/-- The thread, whose past is `h`, is on its way through `p`. -/
def Thread.Follows (p : Prog sig α) (h : Past sig α) : Thread sig α → Prop
  | .fresh => h = []
  | .ready q => ∀ h', q.Unfolds h h' → p.Unfolds [] h'
  | .waiting e k => p.Unfolds [] h ∧
      ∀ r h', (k r).Unfolds (.answered e r :: h) h' → p.Unfolds [] h'
  | .answered _ r k => ∀ h', (k r).Unfolds h h' → p.Unfolds [] h'
  | .finished _ | .halted => p.Unfolds [] h

/-- The past of a thread that has been started is one of its program. -/
lemma Thread.Follows.unfolds {t : Thread sig α} {p : Prog sig α} {h : Past sig α}
    (hfollows : t.Follows p h) (hstarted : t ≠ .fresh) : p.Unfolds [] h := by
  cases t with
  | fresh => exact absurd rfl hstarted
  | ready q => exact hfollows _ Prog.unfolds_self
  | waiting e k => exact hfollows.1
  | answered e r k => exact hfollows _ Prog.unfolds_self
  | finished r => exact hfollows
  | halted => exact hfollows

/-- The thread awaits effects in `P` only. -/
def Thread.Issues (P : sig.Effect → Prop) : Thread sig α → Prop
  | .ready p => p.Issues P
  | .waiting e k => P e ∧ ∀ r, (k r).Issues P
  | .answered _ r k => (k r).Issues P
  | .fresh | .finished _ | .halted => True

/-- Whatever the views are, every await to come is in a view that meets `P`. -/
def Thread.Attends (P : sig.View → sig.Effect → Prop) : Thread sig α → Prop
  | .ready p => ∀ s, p.Attends P s
  | .waiting _ k => ∀ r s, (k r).Attends P s
  | .answered _ r k => ∀ s, (k r).Attends P s
  | .fresh | .finished _ | .halted => True

namespace Machine

variable {m : Machine sig α J W C} {past : ℕ → W → Past sig α} {turn : ℕ → W → Prop}

lemma arrive_past_of_ne (hr : m.Records past turn) {i k : ℕ} (hk : k ≠ i) (w : W)
    (q : Prog sig α) : past k (m.arrive i w q).1 = past k w := by
  induction q with
  | ret a => exact hr.finish i _ w k hk
  | raise x => exact hr.finish i _ w k hk
  | look k' ih => exact ih (m.view i w)
  | call e k' _ => exact hr.observe i _ w k hk

/-- Running a thread up to its next await or its end keeps it on its way. -/
lemma arrive_follows (hr : m.Records past turn)
    (hended : ∀ i r w, past i (m.finish i r w) = .ended r :: past i w) {i : ℕ} {w : W}
    {p q : Prog sig α} (hq : ∀ h', q.Unfolds (past i w) h' → p.Unfolds [] h') :
    (m.arrive i w q).2.Follows p (past i (m.arrive i w q).1) := by
  induction q with
  | ret a =>
    change p.Unfolds [] (past i (m.finish i _ w))
    rw [hended]
    exact hq _ (.inr rfl)
  | raise x =>
    change p.Unfolds [] (past i (m.finish i _ w))
    rw [hended]
    exact hq _ (.inr rfl)
  | look k ih => exact ih (m.view i w) fun h' h => hq h' (.inr ⟨_, h⟩)
  | call e k _ =>
    change p.Unfolds [] (past i (m.observe i (.issued e) w)) ∧
      ∀ r h', (k r).Unfolds (.answered e r :: past i (m.observe i (.issued e) w)) h' →
        p.Unfolds [] h'
    rw [hr.issued]
    exact ⟨hq _ (.inr (.inl rfl)), fun r h' h => hq h' (.inr (.inr ⟨r, h⟩))⟩

/-- The thread that a move is of, where `count` threads have been started. -/
def mover (count : ℕ) : Move J C → Option ℕ
  | .start _ => some count
  | .exec i _ | .resume i | .halt i => some i
  | .env _ => none

/-- The job that a move starts. -/
def startedBy : Move J C → Option J
  | .start j => some j
  | .exec _ _ | .resume _ | .halt _ | .env _ => none

section Step

variable {c c' : Config sig α W} {mv : Move J C}

lemma count_step (hstep : m.step c mv = some c') :
    c'.count = c.count + (startedBy mv).toList.length := by
  cases mv with
  | start j =>
    simp only [Machine.step] at hstep
    split at hstep
    · obtain ⟨w, -, rfl⟩ := Option.map_eq_some_iff.1 hstep
      rfl
    · cases hstep
  | exec i ch =>
    simp only [Machine.step] at hstep
    split at hstep
    · obtain ⟨p, -, rfl⟩ := Option.map_eq_some_iff.1 hstep
      rfl
    · cases hstep
  | resume i =>
    simp only [Machine.step] at hstep
    split at hstep
    · cases hstep
      rfl
    · cases hstep
      rfl
    · cases hstep
  | halt i =>
    simp only [Machine.step] at hstep
    split at hstep
    · cases hstep
      rfl
    · cases hstep
  | env ch =>
    simp only [Machine.step] at hstep
    obtain ⟨w, -, rfl⟩ := Option.map_eq_some_iff.1 hstep
    rfl

/-- The move of another thread leaves a thread and its past alone. -/
lemma step_of_ne (hr : m.Records past turn) (hstep : m.step c mv = some c') {k : ℕ}
    (hk : mover c.count mv ≠ some k) :
    c'.thread k = c.thread k ∧ past k c'.world = past k c.world := by
  cases mv with
  | start j =>
    have hne : k ≠ c.count := fun heq => hk (congrArg some heq.symm)
    simp only [Machine.step] at hstep
    split at hstep
    · obtain ⟨w, hspawn, rfl⟩ := Option.map_eq_some_iff.1 hstep
      exact ⟨by simp [Machine.put, hne], hr.spawn c.count j c.world w hspawn k⟩
    · cases hstep
  | exec i ch =>
    have hne : k ≠ i := fun heq => hk (congrArg some heq.symm)
    simp only [Machine.step] at hstep
    split at hstep
    · obtain ⟨⟨r, w⟩, hexec, rfl⟩ := Option.map_eq_some_iff.1 hstep
      exact ⟨by simp [Machine.put, hne], (hr.exec i _ ch c.world r w hexec).2 k hne⟩
    · cases hstep
  | resume i =>
    have hne : k ≠ i := fun heq => hk (congrArg some heq.symm)
    simp only [Machine.step] at hstep
    split at hstep
    · cases hstep
      exact ⟨by simp [Machine.put, hne], arrive_past_of_ne hr hne _ _⟩
    · cases hstep
      exact ⟨by simp [Machine.put, hne],
        (arrive_past_of_ne hr hne _ _).trans (hr.observe i _ _ k hne)⟩
    · cases hstep
  | halt i =>
    have hne : k ≠ i := fun heq => hk (congrArg some heq.symm)
    simp only [Machine.step] at hstep
    split at hstep
    · cases hstep
      exact ⟨by simp [Machine.put, hne], rfl⟩
    · cases hstep
  | env ch =>
    simp only [Machine.step] at hstep
    obtain ⟨w, henv, rfl⟩ := Option.map_eq_some_iff.1 hstep
    exact ⟨rfl, hr.env ch c.world w henv k⟩

/-- A thread that has been started stays on its way. -/
lemma follows_step (hr : m.Records past turn)
    (hended : ∀ i r w, past i (m.finish i r w) = .ended r :: past i w) {i : ℕ} {p : Prog sig α}
    (hi : i < c.count) (hfollows : (c.thread i).Follows p (past i c.world))
    (hstep : m.step c mv = some c') : (c'.thread i).Follows p (past i c'.world) := by
  by_cases hmover : mover c.count mv = some i
  · cases mv with
    | start j => exact absurd (Option.some.inj hmover) (Nat.ne_of_gt hi)
    | exec k ch =>
      obtain rfl : k = i := Option.some.inj hmover
      simp only [Machine.step] at hstep
      split at hstep
      · rename_i e q hthread
        obtain ⟨⟨r, w⟩, hexec, rfl⟩ := Option.map_eq_some_iff.1 hstep
        rw [hthread] at hfollows
        simp only [Machine.put, Function.update_self]
        change ∀ h', (q r).Unfolds (past k w) h' → _
        rw [(hr.exec k e ch c.world r w hexec).1]
        exact hfollows.2 r
      · cases hstep
    | resume k =>
      obtain rfl : k = i := Option.some.inj hmover
      simp only [Machine.step] at hstep
      split at hstep
      · rename_i q hthread
        cases hstep
        rw [hthread] at hfollows
        simp only [Machine.put, Function.update_self]
        exact arrive_follows hr hended hfollows
      · rename_i e r q hthread
        cases hstep
        rw [hthread] at hfollows
        simp only [Machine.put, Function.update_self]
        apply arrive_follows hr hended
        rw [hr.returned]
        exact hfollows
      · cases hstep
    | halt k =>
      obtain rfl : k = i := Option.some.inj hmover
      simp only [Machine.step] at hstep
      split at hstep
      · rename_i hactive
        cases hstep
        simp only [Machine.put, Function.update_self]
        refine hfollows.unfolds fun hfresh => ?_
        rw [hfresh] at hactive
        cases hactive
      · cases hstep
    | env ch => cases hmover
  · obtain ⟨hthread, hpast⟩ := step_of_ne hr hstep hmover
    rw [hthread, hpast]
    exact hfollows

end Step

/-- Every thread that has been started is on its way through its job. -/
def Following (m : Machine sig α J W C) (past : ℕ → W → Past sig α) (c : Config sig α W) : Prop :=
  (∀ i, c.count ≤ i → c.thread i = .fresh ∧ past i c.world = []) ∧
    ∀ i, i < c.count → ∃ j, (c.thread i).Follows (m.job j) (past i c.world)

/-- A thread that is started is at the beginning of its job. -/
lemma Following.started (hr : m.Records past turn) {c c' : Config sig α W} {j : J}
    (hc : m.Following past c) (hstep : m.step c (.start j) = some c') :
    (c'.thread c.count).Follows (m.job j) (past c.count c'.world) := by
  simp only [Machine.step] at hstep
  split at hstep
  · obtain ⟨w, hspawn, rfl⟩ := Option.map_eq_some_iff.1 hstep
    have hempty : past c.count w = [] :=
      (hr.spawn c.count j c.world w hspawn c.count).trans (hc.1 c.count (Nat.le_refl _)).2
    simp only [Machine.put, Function.update_self]
    change ∀ h', (m.job j).Unfolds (past c.count w) h' → _
    rw [hempty]
    exact fun h' hh' => hh'
  · cases hstep

lemma Following.fresh_step (hr : m.Records past turn) {c c' : Config sig α W} {mv : Move J C}
    (hc : m.Following past c) (hstep : m.step c mv = some c') {k : ℕ} (hk : c'.count ≤ k) :
    c'.thread k = .fresh ∧ past k c'.world = [] := by
  have hcount := count_step hstep
  have hold := hc.1 k (by omega)
  have hmover : mover c.count mv ≠ some k := by
    intro hmover
    cases mv with
    | start j =>
      obtain rfl : c.count = k := Option.some.inj hmover
      simp [startedBy] at hcount
      omega
    | exec i ch =>
      obtain rfl : i = k := Option.some.inj hmover
      simp [Machine.step, hold.1] at hstep
    | resume i =>
      obtain rfl : i = k := Option.some.inj hmover
      simp [Machine.step, hold.1] at hstep
    | halt i =>
      obtain rfl : i = k := Option.some.inj hmover
      simp [Machine.step, hold.1, Thread.active] at hstep
    | env ch => cases hmover
  obtain ⟨hthread, hpast⟩ := step_of_ne hr hstep hmover
  exact ⟨hthread.trans hold.1, hpast.trans hold.2⟩

theorem Following.step (hr : m.Records past turn)
    (hended : ∀ i r w, past i (m.finish i r w) = .ended r :: past i w) {c c' : Config sig α W}
    {mv : Move J C} (hc : m.Following past c) (hstep : m.step c mv = some c') :
    m.Following past c' := by
  refine ⟨fun k hk => hc.fresh_step hr hstep hk, fun k hk => ?_⟩
  by_cases hold : k < c.count
  · obtain ⟨j, hj⟩ := hc.2 k hold
    exact ⟨j, follows_step hr hended hold hj hstep⟩
  · have hcount := count_step hstep
    cases mv with
    | start j =>
      obtain rfl : k = c.count := by
        simp [startedBy] at hcount
        omega
      exact ⟨j, hc.started hr hstep⟩
    | exec i ch | resume i | halt i | env ch =>
      simp [startedBy] at hcount
      omega

lemma following_run (hr : m.Records past turn)
    (hended : ∀ i r w, past i (m.finish i r w) = .ended r :: past i w) {w : W}
    (hempty : ∀ i, past i w = []) {moves : List (Move J C)} {c : Config sig α W}
    (hrun : m.run (Config.init w) moves = some c) : m.Following past c :=
  m.run_induction (fun _ _ _ hc => Following.step hr hended hc)
    ⟨fun i _ => ⟨rfl, hempty i⟩, fun i hi => absurd hi (Nat.not_lt_zero i)⟩ hrun

/-- The jobs that a run starts, in order: thread `i` runs the one at `i`. -/
def jobs (moves : List (Move J C)) : List J := moves.filterMap startedBy

/-- Thread `i` is on its way through the job that it was started with. -/
theorem follows_run (hr : m.Records past turn)
    (hended : ∀ i r w, past i (m.finish i r w) = .ended r :: past i w) {w : W}
    (hempty : ∀ i, past i w = []) {moves : List (Move J C)} {c : Config sig α W}
    (hrun : m.run (Config.init w) moves = some c) :
    c.count = (jobs moves).length ∧
      ∀ i j, (jobs moves)[i]? = some j → (c.thread i).Follows (m.job j) (past i c.world) := by
  induction moves using List.reverseRecOn generalizing c with
  | nil =>
    cases hrun
    exact ⟨rfl, fun i j hj => by cases hj⟩
  | append_singleton moves mv ih =>
    rw [run_append, Option.bind_eq_some_iff] at hrun
    obtain ⟨c₁, hc₁, hlast⟩ := hrun
    rw [run_cons, Option.bind_eq_some_iff] at hlast
    obtain ⟨c₂, hstep, heq⟩ := hlast
    cases heq
    obtain ⟨hcount, hfollows⟩ := ih hc₁
    have hjobs : jobs (moves ++ [mv]) = jobs moves ++ (startedBy mv).toList := by
      cases mv <;> simp [jobs, startedBy]
    refine ⟨by rw [count_step hstep, hcount, hjobs, List.length_append], fun i j hj => ?_⟩
    rw [hjobs] at hj
    by_cases hi : i < (jobs moves).length
    · rw [List.getElem?_append_left hi] at hj
      exact follows_step hr hended (hcount ▸ hi) (hfollows i j hj) hstep
    · rw [List.getElem?_append_right (Nat.le_of_not_lt hi)] at hj
      have hfollowing : m.Following past c₁ := following_run hr hended hempty hc₁
      cases mv with
      | start j' =>
        have hlt := (List.getElem?_eq_some_iff.1 hj).1
        simp only [startedBy, Option.toList_some, List.length_singleton] at hlt
        obtain rfl : i = c₁.count := by omega
        rw [hcount, Nat.sub_self] at hj
        obtain rfl := Option.some.inj hj
        exact hfollowing.started hr hstep
      | exec k ch | resume k | halt k | env ch => simp [startedBy] at hj

/-- After every run, the past of thread `i` is one that the job it was started with may have. -/
theorem unfolds_of_job (hr : m.Records past turn)
    (hended : ∀ i r w, past i (m.finish i r w) = .ended r :: past i w) {w : W}
    (hempty : ∀ i, past i w = []) {moves : List (Move J C)} {c : Config sig α W}
    (hrun : m.run (Config.init w) moves = some c) {i : ℕ} {j : J}
    (hjob : (jobs moves)[i]? = some j) : (m.job j).Unfolds [] (past i c.world) := by
  have hfollows := (follows_run hr hended hempty hrun).2 i j hjob
  by_cases hfresh : c.thread i = .fresh
  · rw [hfresh] at hfollows
    change past i c.world = [] at hfollows
    rw [hfollows]
    exact Prog.unfolds_self
  · exact hfollows.unfolds hfresh

/-- After every run, the past of a thread is one that the job it was started with may have, or
empty where it was never started. -/
theorem unfolds_run (hr : m.Records past turn)
    (hended : ∀ i r w, past i (m.finish i r w) = .ended r :: past i w) {w : W}
    (hempty : ∀ i, past i w = []) {moves : List (Move J C)} {c : Config sig α W}
    (hrun : m.run (Config.init w) moves = some c) (i : ℕ) :
    past i c.world = [] ∨
      ∃ j, (jobs moves)[i]? = some j ∧ (m.job j).Unfolds [] (past i c.world) := by
  cases hjob : (jobs moves)[i]? with
  | none =>
    have hcount := (follows_run hr hended hempty hrun).1
    have hfollowing : m.Following past c := following_run hr hended hempty hrun
    exact .inl (hfollowing.1 i (hcount ▸ List.getElem?_eq_none_iff.1 hjob)).2
  | some j => exact .inr ⟨j, rfl, unfolds_of_job hr hended hempty hrun hjob⟩

/-- What a machine has to keep of its world: an invariant that survives every note, and every
execution of an effect in `P`. -/
structure Maintains (m : Machine sig α J W C) (P : sig.Effect → Prop) (I : W → Prop) : Prop where
  observe : ∀ i o w, I w → I (m.observe i o w)
  finish : ∀ i r w, I w → I (m.finish i r w)
  exec : ∀ i e c w r w', I w → P e → m.exec i e c w = some (r, w') → I w'
  env : ∀ c w w', I w → m.env c w = some w' → I w'
  spawn : ∀ n j w w', I w → m.spawn n j w = some w' → I w'

variable {P : sig.Effect → Prop} {I : W → Prop}

lemma Maintains.arrive (hm : m.Maintains P I) {i : ℕ} {w : W} {p : Prog sig α} (hw : I w)
    (hp : p.Issues P) : I (m.arrive i w p).1 ∧ (m.arrive i w p).2.Issues P := by
  induction p with
  | ret a => exact ⟨hm.finish i _ w hw, trivial⟩
  | raise x => exact ⟨hm.finish i _ w hw, trivial⟩
  | look k ih => exact ih (m.view i w) (hp (m.view i w))
  | call e k _ => exact ⟨hm.observe i _ w hw, hp⟩

/-- The world is in the invariant, and its threads await effects in `P` only. -/
def Maintained (P : sig.Effect → Prop) (I : W → Prop) (c : Config sig α W) : Prop :=
  I c.world ∧ ∀ i, (c.thread i).Issues P

omit m in
lemma Maintained.put {c : Config sig α W} (hc : Maintained P I c) (i : ℕ) {w : W}
    {t : Thread sig α} (hw : I w) (ht : t.Issues P) : Maintained P I (Machine.put c i (w, t)) := by
  refine ⟨hw, fun k => ?_⟩
  by_cases hk : k = i
  · subst hk
    simpa [Machine.put] using ht
  · simpa [Machine.put, hk] using hc.2 k

theorem Maintained.step (hm : m.Maintains P I) (hjob : ∀ j, (m.job j).Issues P)
    {c c' : Config sig α W} {mv : Move J C} (hc : Maintained P I c)
    (hstep : m.step c mv = some c') : Maintained P I c' := by
  cases mv with
  | start j =>
    simp only [Machine.step] at hstep
    split at hstep
    · obtain ⟨w, hspawn, rfl⟩ := Option.map_eq_some_iff.1 hstep
      exact hc.put c.count (hm.spawn _ j _ w hc.1 hspawn) (hjob j)
    · cases hstep
  | exec i ch =>
    simp only [Machine.step] at hstep
    split at hstep
    · rename_i e k hthread
      obtain ⟨⟨r, w⟩, hexec, rfl⟩ := Option.map_eq_some_iff.1 hstep
      have hi := hc.2 i
      rw [hthread] at hi
      exact hc.put i (hm.exec i e ch _ r w hc.1 hi.1 hexec) (hi.2 r)
    · cases hstep
  | resume i =>
    simp only [Machine.step] at hstep
    have hi := hc.2 i
    split at hstep
    · rename_i p hthread
      cases hstep
      rw [hthread] at hi
      exact hc.put i (hm.arrive hc.1 hi).1 (hm.arrive hc.1 hi).2
    · rename_i e r k hthread
      cases hstep
      rw [hthread] at hi
      have hw := hm.observe i (.returned e r) _ hc.1
      exact hc.put i (hm.arrive hw hi).1 (hm.arrive hw hi).2
    · cases hstep
  | halt i =>
    simp only [Machine.step] at hstep
    split at hstep
    · cases hstep
      exact hc.put i hc.1 trivial
    · cases hstep
  | env ch =>
    simp only [Machine.step] at hstep
    obtain ⟨w, henv, rfl⟩ := Option.map_eq_some_iff.1 hstep
    exact ⟨hm.env ch _ w hc.1 henv, hc.2⟩

/-- An invariant that a machine maintains holds after every run of jobs that await effects in
`P` only. -/
theorem Maintains.run (hm : m.Maintains P I) (hjob : ∀ j, (m.job j).Issues P) {w : W} (hw : I w)
    {moves : List (Move J C)} {c : Config sig α W} (hrun : m.run (Config.init w) moves = some c) :
    I c.world := by
  have hinit : Maintained P I (Config.init w : Config sig α W) := ⟨hw, fun _ => trivial⟩
  exact (m.run_induction (fun _ _ _ hc hstep => Maintained.step hm hjob hc hstep) hinit hrun).1

section Attends

variable {P : sig.View → sig.Effect → Prop} {c c' : Config sig α W}

/-- Running a thread up to its next await, in the view that it has there. -/
lemma arrive_attends {i : ℕ} {w : W} {p : Prog sig α} (hp : p.Attends P (m.view i w)) :
    (m.arrive i w p).2.Attends P ∧
      ∀ e k, (m.arrive i w p).2 = .waiting e k → P (m.view i w) e := by
  induction p with
  | ret a => exact ⟨trivial, fun e k heq => by cases heq⟩
  | raise x => exact ⟨trivial, fun e k heq => by cases heq⟩
  | look k ih => exact ih (m.view i w) hp
  | call e k _ =>
    refine ⟨hp.2, fun e' k' heq => ?_⟩
    cases heq
    exact hp.1

/-- A move keeps the threads attentive, and the await at which a thread arrives is in a view
that meets `P`. -/
theorem attends_step (hobserve : ∀ i k o w, m.view i (m.observe k o w) = m.view i w)
    (hfinish : ∀ i k r w, m.view i (m.finish k r w) = m.view i w)
    (hjob : ∀ j s, (m.job j).Attends P s) (hc : ∀ i, (c.thread i).Attends P) {mv : Move J C}
    (hstep : m.step c mv = some c') :
    (∀ i, (c'.thread i).Attends P) ∧
      ∀ i e k, mv = .resume i → c'.thread i = .waiting e k → P (m.view i c'.world) e := by
  have hput : ∀ {i w t}, t.Attends P → ∀ k, ((Machine.put c i (w, t)).thread k).Attends P := by
    intro i w t ht k
    by_cases hk : k = i
    · subst hk
      simpa [Machine.put] using ht
    · simpa [Machine.put, hk] using hc k
  cases mv with
  | start j =>
    simp only [Machine.step] at hstep
    split at hstep
    · obtain ⟨w, -, rfl⟩ := Option.map_eq_some_iff.1 hstep
      refine ⟨hput (hjob j), fun i e k heq => ?_⟩
      cases heq
    · cases hstep
  | exec i ch =>
    simp only [Machine.step] at hstep
    split at hstep
    · rename_i e k hthread
      obtain ⟨⟨r, w⟩, -, rfl⟩ := Option.map_eq_some_iff.1 hstep
      have hi := hc i
      rw [hthread] at hi
      refine ⟨hput (hi r), fun i e k heq => ?_⟩
      cases heq
    · cases hstep
  | resume i =>
    have harrive : ∀ {w p}, (∀ s, Prog.Attends P p s) →
        c' = Machine.put c i (m.arrive i w p) → (∀ k, (c'.thread k).Attends P) ∧
          ∀ i' e k, Move.resume i = (.resume i' : Move J C) → c'.thread i' = .waiting e k →
            P (m.view i' c'.world) e := by
      intro w p hp heq
      subst heq
      obtain ⟨ht, hissued⟩ := arrive_attends (hp (m.view i w))
      refine ⟨hput ht, fun i' e k heq hwaits => ?_⟩
      cases heq
      simp only [Machine.put, Function.update_self] at hwaits
      have hsame : m.view i (m.arrive i w p).1 = m.view i w :=
        m.arrive_frame (hobserve i) (hfinish i) i w p
      change P (m.view i (m.arrive i w p).1) e
      rw [hsame]
      exact hissued e k hwaits
    simp only [Machine.step] at hstep
    have hi := hc i
    split at hstep
    · rename_i p hthread
      rw [hthread] at hi
      exact harrive hi (Option.some.inj hstep).symm
    · rename_i e r k hthread
      rw [hthread] at hi
      exact harrive hi (Option.some.inj hstep).symm
    · cases hstep
  | halt i =>
    simp only [Machine.step] at hstep
    split at hstep
    · cases hstep
      refine ⟨hput trivial, fun i e k heq => ?_⟩
      cases heq
    · cases hstep
  | env ch =>
    simp only [Machine.step] at hstep
    obtain ⟨w, -, rfl⟩ := Option.map_eq_some_iff.1 hstep
    refine ⟨hc, fun i e k heq => ?_⟩
    cases heq

/-- In every run, a thread arrives at its awaits in views that meet `P`. -/
theorem attends_run (hobserve : ∀ i k o w, m.view i (m.observe k o w) = m.view i w)
    (hfinish : ∀ i k r w, m.view i (m.finish k r w) = m.view i w)
    (hjob : ∀ j s, (m.job j).Attends P s) {w : W} {moves : List (Move J C)}
    (hrun : m.run (Config.init w) moves = some c) {i : ℕ} (hstep : m.step c (.resume i) = some c')
    {e : sig.Effect} {k : Except sig.Exn (sig.Answer e) → Prog sig α}
    (hwaits : c'.thread i = .waiting e k) : P (m.view i c'.world) e := by
  have hinit : ∀ i, ((Config.init w : Config sig α W).thread i).Attends P := fun i => trivial
  have hc : ∀ i, (c.thread i).Attends P := m.run_induction
    (fun _ _ _ hc hstep => (attends_step hobserve hfinish hjob hc hstep).1) hinit hrun
  exact (attends_step hobserve hfinish hjob hc hstep).2 i e k rfl hwaits

end Attends

end Machine

end Interaction
