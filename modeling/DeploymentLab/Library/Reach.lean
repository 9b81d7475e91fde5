import DeploymentLab.Library.Interaction

/-!
# What a thread may come to

The worlds that a machine can be taken to by the moves of one thread alone. A thread may come to a
world when some choices answer its awaits so that it does; these answers are those of the machine,
not any answers.
-/

namespace Interaction

variable {sig : Signature} {α β γ J W C : Type}

/-- The move is one of thread `i` that goes on. -/
def Move.Of (i : ℕ) : Move J C → Prop
  | .exec k _ | .resume k => k = i
  | .start _ | .halt _ | .env _ => False

namespace Machine

variable (m : Machine sig α J W C)

/-- In the world `w`, thread `i` is to go on with the program, and some choices take it to a world
in `Q`, in which it has issued an await, or to the end of the program, with a result in `R`. -/
def May (i : ℕ) (Q : W → Prop) (R : β → W → Prop) : Prog sig β → W → Prop
  | .ret a, w => R a w
  | .raise _, _ => False
  | .look k, w => May i Q R (k (m.view i w)) w
  | .call e k, w => Q (m.observe i (.issued e) w) ∨ ∃ ch r w',
      m.exec i e ch (m.observe i (.issued e) w) = some (r, w') ∧
        May i Q R (k r) (m.observe i (.returned e r) w')

variable {m} {i : ℕ} {Q : W → Prop} {R : β → W → Prop} {w w' : W}

section Rules

variable {p : Prog sig β} {e : sig.Effect} {a : sig.Answer e} {ch : C}

lemma May.mono {Q' : W → Prop} (hmay : m.May i Q R p w) (hQ : ∀ w, Q w → Q' w) :
    m.May i Q' R p w := by
  induction p generalizing w with
  | ret a => exact hmay
  | raise x => exact hmay
  | look k ih => exact ih (m.view i w) hmay
  | call e k ih =>
    refine hmay.imp (hQ _) ?_
    rintro ⟨ch, r, w', hexec, hrest⟩
    exact ⟨ch, r, w', hexec, ih r hrest⟩

/-- What follows a program goes on from where the program may come to. -/
lemma May.bind {f : β → Prog sig γ} {R : γ → W → Prop}
    (hmay : m.May i Q (fun a w => m.May i Q R (f a) w) p w) : m.May i Q R (p.bind f) w := by
  induction p generalizing w with
  | ret a => exact hmay
  | raise x => exact hmay.elim
  | look k ih => exact ih (m.view i w) hmay
  | call e k ih =>
    refine hmay.imp_right ?_
    rintro ⟨ch, r, w', hexec, hrest⟩
    exact ⟨ch, r, w', hexec, ih r hrest⟩

lemma May.attempt {R : Except sig.Exn β → W → Prop}
    (hmay : m.May i Q (fun a w => R (.ok a) w) p w) : m.May i Q R p.attempt w := by
  induction p generalizing w with
  | ret a => exact hmay
  | raise x => exact hmay.elim
  | look k ih => exact ih (m.view i w) hmay
  | call e k ih =>
    refine hmay.imp_right ?_
    rintro ⟨ch, r, w', hexec, hrest⟩
    exact ⟨ch, r, w', hexec, ih r hrest⟩

/-- An await that is answered. -/
lemma may_perform {R : sig.Answer e → W → Prop}
    (hexec : m.exec i e ch (m.observe i (.issued e) w) = some (.ok a, w'))
    (hR : R a (m.observe i (.returned e (.ok a)) w')) : m.May i Q R (Prog.perform e) w :=
  .inr ⟨ch, .ok a, w', hexec, hR⟩

/-- An await at which the thread is to arrive. -/
lemma may_issue {R : sig.Answer e → W → Prop} (hissued : Q (m.observe i (.issued e) w)) :
    m.May i Q R (Prog.perform e) w :=
  .inl hissued

end Rules

/-- A thread that may come to a world in `Q` is taken there by a run of its own moves. -/
theorem May.run {p : Prog sig α} (hmay : m.May i Q (fun _ _ => False) p w) {c : Config sig α W}
    (hresume : m.step c (.resume i) = some (put c i (m.arrive i w p))) :
    ∃ moves c', m.run c (.resume i :: moves) = some c' ∧ Q c'.world ∧
      ∀ mv ∈ moves, mv.Of i := by
  have hrun : ∀ moves, m.run c (.resume i :: moves) = m.run (put c i (m.arrive i w p)) moves := by
    intro moves
    rw [run_cons, hresume]
    rfl
  induction p generalizing w c with
  | ret a => exact hmay.elim
  | raise x => exact hmay.elim
  | look k ih => exact ih (m.view i w) hmay hresume hrun
  | call e k ih =>
    rcases hmay with hissued | ⟨ch, r, w', hexec, hrest⟩
    · exact ⟨[], _, hrun [], hissued, fun _ hmv => by cases hmv⟩
    · let waits := put c i (m.arrive i w (.call e k))
      let answered := put waits i (w', .answered e r k)
      have hwaits : m.step waits (.exec i ch) = some answered := by
        simp [step, waits, answered, put, arrive, hexec]
      have hnext : m.step answered (.resume i) =
          some (put answered i (m.arrive i (m.observe i (.returned e r) w') (k r))) := by
        simp [step, answered, put]
      obtain ⟨moves, c', hrest, hQ, hmoves⟩ := ih r hrest hnext fun moves => by
        rw [run_cons, hnext]
        rfl
      refine ⟨.exec i ch :: .resume i :: moves, c', ?_, hQ, fun mv hmv => ?_⟩
      · rw [hrun, run_cons, hwaits]
        exact hrest
      · rcases List.mem_cons.1 hmv with rfl | hmv
        · rfl
        rcases List.mem_cons.1 hmv with rfl | hmv
        · rfl
        · exact hmoves mv hmv

/-- A job that may come to a world in `Q` once it is spawned is taken there by a run. -/
theorem May.run_start {c : Config sig α W} {j : J}
    (hstart : m.mayStart c.thread c.count = true) (hspawn : m.spawn c.count j c.world = some w)
    (hmay : m.May c.count Q (fun _ _ => False) (m.job j) w) :
    ∃ moves c', m.run c (.start j :: moves) = some c' ∧ Q c'.world ∧
      ∀ mv ∈ moves, mv.Of c.count := by
  let started : Config sig α W :=
    { put c c.count (w, .ready (m.job j)) with count := c.count + 1 }
  have hstarted : m.step c (.start j) = some started := by
    simp [step, hstart, hspawn, started]
  have hresume : m.step started (.resume c.count) =
      some (put started c.count (m.arrive c.count w (m.job j))) := by
    simp [step, started, put]
  obtain ⟨moves, c', hrun, hQ, hmoves⟩ := hmay.run hresume
  refine ⟨.resume c.count :: moves, c', ?_, hQ, fun mv hmv => ?_⟩
  · rw [run_cons, hstarted]
    exact hrun
  · rcases List.mem_cons.1 hmv with rfl | hmv
    · rfl
    · exact hmoves mv hmv

end Machine

end Interaction
