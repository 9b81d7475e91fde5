import DeploymentLab.Library.Trace

/-!
# Runs of a program in an environment

An environment decides what a program sees and what it is answered. A run in it is one of the
traces of the program, and where two environments agree on what a program asks, its runs agree.
-/

namespace Interaction

variable {sig : Signature} {α β γ σ : Type}

/-- What decides the views and the answers, from a state of its own. -/
structure Surroundings (sig : Signature) (σ : Type) where
  view : σ → sig.View × σ
  answer : (e : sig.Effect) → σ → Except sig.Exn (sig.Answer e) × σ

/-- How a run has come to its end. -/
structure Played (sig : Signature) (α β σ : Type) where
  result : Except sig.Exn β
  past : Past sig α
  state : σ

namespace Prog

/-- The run of the program in the environment, after the past `h`. -/
def play (env : Surroundings sig σ) : Prog sig β → σ → Past sig α → Played sig α β σ
  | .ret a, s, h => ⟨.ok a, h, s⟩
  | .raise x, s, h => ⟨.error x, h, s⟩
  | .look k, s, h =>
    let (view, s) := env.view s
    (k view).play env s h
  | .call e k, s, h =>
    let (answer, s) := env.answer e s
    (k answer).play env s (.answered e answer :: .issued e :: h)

/-- The run of a program that goes on with what `p` has come to. -/
def resume (env : Surroundings sig σ) (f : β → Prog sig γ) (q : Played sig α β σ) :
    Played sig α γ σ :=
  match q.result with
  | .ok a => (f a).play env q.state q.past
  | .error x => ⟨.error x, q.past, q.state⟩

variable {env env' : Surroundings sig σ} {p : Prog sig β} {f : β → Prog sig γ} {s : σ}
  {h h' : Past sig α}

lemma play_call (e : sig.Effect) (k : Except sig.Exn (sig.Answer e) → Prog sig β) :
    (call e k).play env s h = (k (env.answer e s).1).play env (env.answer e s).2
      (.answered e (env.answer e s).1 :: .issued e :: h) := rfl

lemma play_bind : (p.bind f).play env s h = resume env f (p.play env s h) := by
  induction p generalizing s h with
  | ret a => rfl
  | raise x => rfl
  | look k ih => exact ih _
  | call e k ih => exact ih _

end Prog

/-- The act is about an effect in `P`. -/
def Act.About (P : sig.Effect → Prop) : Act sig α → Prop
  | .issued e | .answered e _ => P e
  | .ended _ => False

/-- The environments differ in their answers to effects out of `P` only. -/
structure Surroundings.AgreesOn (P : sig.Effect → Prop) (env env' : Surroundings sig σ) : Prop where
  view : ∀ s, env.view s = env'.view s
  answer : ∀ e s, P e → env.answer e s = env'.answer e s

lemma Surroundings.AgreesOn.mono {P P' : sig.Effect → Prop} {env env' : Surroundings sig σ}
    (h : env.AgreesOn P env') (hP : ∀ e, P' e → P e) : env.AgreesOn P' env' :=
  ⟨h.view, fun e s he => h.answer e s (hP e he)⟩

namespace Prog

variable {P : sig.Effect → Prop} {env env' : Surroundings sig σ} {p : Prog sig β} {s : σ}
  {h h' : Past sig α}

/-- Runs of one program after two pasts, in environments that agree on what it asks. -/
lemma Issues.play_agrees (hp : p.Issues P) (henv : env.AgreesOn P env') (s : σ)
    (h h' : Past sig α) : ∃ added : Past sig α,
      (p.play env s h).past = added ++ h ∧ (p.play env' s h').past = added ++ h' ∧
      (p.play env s h).result = (p.play env' s h').result ∧
      (p.play env s h).state = (p.play env' s h').state ∧ ∀ act ∈ added, act.About P := by
  induction p generalizing s h h' with
  | ret a => exact ⟨[], rfl, rfl, rfl, rfl, fun _ hact => by cases hact⟩
  | raise x => exact ⟨[], rfl, rfl, rfl, rfl, fun _ hact => by cases hact⟩
  | look k ih =>
    have := ih (env.view s).1 (hp _) (env.view s).2 h h'
    unfold play
    rw [← henv.view s]
    exact this
  | call e k ih =>
    unfold play
    rw [← henv.answer e s hp.1]
    obtain ⟨added, hpast, hpast', hresult, hstate, habout⟩ := ih (env.answer e s).1 (hp.2 _)
      (env.answer e s).2 (.answered e (env.answer e s).1 :: .issued e :: h)
      (.answered e (env.answer e s).1 :: .issued e :: h')
    refine ⟨added ++ [.answered e (env.answer e s).1, .issued e], ?_, ?_, hresult, hstate, ?_⟩
    · rw [List.append_assoc]
      exact hpast
    · rw [List.append_assoc]
      exact hpast'
    · intro act hact
      rcases List.mem_append.1 hact with hact | hact
      · exact habout act hact
      · simp only [List.mem_cons, List.not_mem_nil, or_false] at hact
        rcases hact with rfl | rfl
        · exact hp.1
        · exact hp.1

/-- A program without awaits only looks. -/
lemma Issues.play_silent (hp : p.Issues fun _ => False)
    (hview : ∀ s, env.view s = env'.view s) (s : σ) (h h' : Past sig α) :
    (p.play env s h).past = h ∧ (p.play env' s h').past = h' ∧
      (p.play env s h).result = (p.play env' s h').result ∧
      (p.play env s h).state = (p.play env' s h').state := by
  obtain ⟨added, hpast, hpast', hresult, hstate, habout⟩ :=
    hp.play_agrees ⟨hview, fun _ _ hfalse => hfalse.elim⟩ s h h'
  have hnil : added = [] := by
    refine List.eq_nil_iff_forall_not_mem.2 fun act hact => ?_
    have := habout act hact
    cases act <;> exact this
  rw [hnil] at hpast hpast'
  exact ⟨hpast, hpast', hresult, hstate⟩

lemma Issues.play_past (hp : p.Issues fun _ => False) (env : Surroundings sig σ) (s : σ)
    (h : Past sig α) : (p.play env s h).past = h :=
  (hp.play_silent (fun _ => rfl) s h h).1

end Prog

end Interaction
