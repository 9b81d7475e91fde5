import DeploymentLab.Library.Interaction

/-!
# Scripts of programs and invariants of machines

The past of a thread is what it has issued and been answered. A script says which act may
follow which past, and `Emits` is the proof that a program keeps to one; it speaks of the
program alone. A machine that records the pasts of its threads then offers each of its moves
together with what the script knows about the mover, and an invariant of the world has to be
kept by these moves only.
-/

namespace Interaction

variable {sig : Signature} {α β γ J W C : Type}

inductive Act (sig : Signature) (α : Type) : Type
  | issued (e : sig.Effect)
  | answered (e : sig.Effect) (r : Except sig.Exn (sig.Answer e))
  | ended (r : Except sig.Exn α)

/-- What a thread has done, newest first. -/
abbrev Past (sig : Signature) (α : Type) := List (Act sig α)

/-- The thread has not come to its end. -/
def Past.Unended (h : Past sig α) : Prop := ∀ r, .ended r ∉ h

/-- Which act a thread may choose after a past. The answers it gets are not its choice. -/
abbrev Script (sig : Signature) (α : Type) := Past sig α → Act sig α → Prop

namespace Prog

/-- After the past `h`, the program issues what the script allows and ends in `Q`. -/
def Emits (script : Script sig α) (Q : Past sig α → Except sig.Exn β → Prop) :
    Prog sig β → Past sig α → Prop
  | .ret a, h => Q h (.ok a)
  | .raise x, h => Q h (.error x)
  | .look k, h => ∀ s, Emits script Q (k s) h
  | .call e k, h =>
    script h (.issued e) ∧ ∀ r, Emits script Q (k r) (.answered e r :: .issued e :: h)

variable {script : Script sig α} {Q Q' : Past sig α → Except sig.Exn β → Prop}
  {h : Past sig α}

lemma emits_mono {p : Prog sig β} (hp : p.Emits script Q h)
    (hQ : ∀ h r, Q h r → Q' h r) : p.Emits script Q' h := by
  induction p generalizing h with
  | ret a => exact hQ h _ hp
  | raise x => exact hQ h _ hp
  | look k ih => exact fun s => ih s (hp s)
  | call e k ih => exact ⟨hp.1, fun r => ih r (hp.2 r)⟩

lemma emits_bind {p : Prog sig γ} {f : γ → Prog sig β} :
    (p.bind f).Emits script Q h ↔ p.Emits script (fun h r => match r with
      | .ok a => (f a).Emits script Q h
      | .error x => Q h (.error x)) h := by
  induction p generalizing h with
  | ret a => exact Iff.rfl
  | raise x => exact Iff.rfl
  | look k ih => exact forall_congr' fun s => ih s
  | call e k ih => exact and_congr_right fun _ => forall_congr' fun r => ih r

lemma emits_attempt {p : Prog sig β} {Q : Past sig α → Except sig.Exn (Except sig.Exn β) → Prop} :
    p.attempt.Emits script Q h ↔ p.Emits script (fun h r => Q h (.ok r)) h := by
  induction p generalizing h with
  | ret a => exact Iff.rfl
  | raise x => exact Iff.rfl
  | look k ih => exact forall_congr' fun s => ih s
  | call e k ih => exact and_congr_right fun _ => forall_congr' fun r => ih r

lemma emits_perform {e : sig.Effect} {Q : Past sig α → Except sig.Exn (sig.Answer e) → Prop} :
    (perform e).Emits script Q h ↔
      script h (.issued e) ∧ ∀ r, Q (.answered e r :: .issued e :: h) r := by
  apply and_congr_right
  intro _
  apply forall_congr'
  intro r
  cases r <;> exact Iff.rfl

lemma emits_ofExcept {r : Except sig.Exn β} : (ofExcept r).Emits script Q h ↔ Q h r := by
  cases r <;> exact Iff.rfl

/-- The program keeps to the script up to its end. -/
def Keeps (script : Script sig α) (p : Prog sig α) (h : Past sig α) : Prop :=
  p.Emits script (fun h r => script h (.ended r)) h

end Prog

/-- Where a thread with the past `h` may be. -/
def Thread.Keeps (script : Script sig α) (h : Past sig α) : Thread sig α → Prop
  | .fresh => h = []
  | .ready p => p.Keeps script h
  | .waiting e k => ∃ earlier, h = .issued e :: earlier ∧ script earlier (.issued e) ∧
      ∀ r, (k r).Keeps script (.answered e r :: h)
  | .answered _ r k => (k r).Keeps script h
  | .finished _ | .halted => True

namespace Machine

/-- The world records the past of every thread, and `turn` holds of every active one. -/
structure Records (m : Machine sig α J W C) (past : ℕ → W → Past sig α)
    (turn : ℕ → W → Prop) : Prop where
  issued : ∀ i e w, past i (m.observe i (.issued e) w) = .issued e :: past i w
  returned : ∀ i e r w, past i (m.observe i (.returned e r) w) = past i w
  observe : ∀ i o w k, k ≠ i → past k (m.observe i o w) = past k w
  exec : ∀ i e c w r w', m.exec i e c w = some (r, w') →
    past i w' = .answered e r :: past i w ∧ ∀ k, k ≠ i → past k w' = past k w
  finish : ∀ i r w k, k ≠ i → past k (m.finish i r w) = past k w
  env : ∀ c w w', m.env c w = some w' → ∀ k, past k w' = past k w
  spawn : ∀ n j w w', m.spawn n j w = some w' → ∀ k, past k w' = past k w
  turn_observe : ∀ i o w k, turn k w → turn k (m.observe i o w)
  turn_exec : ∀ i e c w r w', m.exec i e c w = some (r, w') → ∀ k, turn k w → turn k w'
  turn_finish : ∀ i r w k, turn k w → turn k (m.finish i r w)
  turn_env : ∀ c w w', m.env c w = some w' → ∀ k, turn k w → turn k w'
  turn_spawn : ∀ (t : ℕ → Thread sig α) n j w w', m.mayStart t n = true →
    m.spawn n j w = some w' →
    turn n w' ∧ ∀ k, k < n → (t k).active = true → turn k w → turn k w'

/-- Thread `i` may move: it has its turn, and it has not come to its end. -/
structure Moves (past : ℕ → W → Past sig α) (turn : ℕ → W → Prop) (i : ℕ) (w : W) : Prop where
  turn : turn i w
  unended : (past i w).Unended

/-- Every move that the script allows keeps `Inv`. -/
structure Preserves (m : Machine sig α J W C) (past : ℕ → W → Past sig α)
    (turn : ℕ → W → Prop) (script : Script sig α) (Inv : W → Prop) : Prop where
  issue : ∀ i e w, Inv w → Moves past turn i w → script (past i w) (.issued e) →
    Inv (m.observe i (.issued e) w)
  exec : ∀ i e c w r w' h, Inv w → Moves past turn i w → past i w = .issued e :: h →
    script h (.issued e) → m.exec i e c w = some (r, w') → Inv w'
  returned : ∀ i e r w, Inv w → Inv (m.observe i (.returned e r) w)
  finish : ∀ i r w, Inv w → Moves past turn i w → script (past i w) (.ended r) →
    Inv (m.finish i r w)
  env : ∀ c w w', Inv w → m.env c w = some w' → Inv w'
  spawn : ∀ n j w w', Inv w → past n w = [] → m.spawn n j w = some w' → Inv w'

/-- The world is in the invariant, and every thread is where its past says. -/
structure Scripted (past : ℕ → W → Past sig α) (turn : ℕ → W → Prop) (script : Script sig α)
    (Inv : W → Prop) (c : Config sig α W) : Prop where
  inv : Inv c.world
  keeps : ∀ i, (c.thread i).Keeps script (past i c.world)
  moves : ∀ i, (c.thread i).active = true → Moves past turn i c.world
  fresh : ∀ i, c.count ≤ i → c.thread i = .fresh

variable {m : Machine sig α J W C} {past : ℕ → W → Past sig α} {turn : ℕ → W → Prop}
  {script : Script sig α} {Inv : W → Prop}

/-- Running a thread up to its next await or its end. -/
lemma arrive_scripted (hr : m.Records past turn) (hp : m.Preserves past turn script Inv)
    {i : ℕ} {w : W} {p : Prog sig α} (hinv : Inv w) (hmoves : Moves past turn i w)
    (hkeeps : p.Keeps script (past i w)) :
    Inv (m.arrive i w p).1 ∧
      (m.arrive i w p).2.Keeps script (past i (m.arrive i w p).1) ∧
      ((m.arrive i w p).2.active = true → Moves past turn i (m.arrive i w p).1) ∧
      (∀ k, k ≠ i → past k (m.arrive i w p).1 = past k w) ∧
      ∀ k, turn k w → turn k (m.arrive i w p).1 := by
  induction p with
  | ret a =>
    exact ⟨hp.finish i _ w hinv hmoves hkeeps, trivial, (fun h => by cases h),
      fun k hk => hr.finish i _ w k hk, fun k hk => hr.turn_finish i _ w k hk⟩
  | raise x =>
    exact ⟨hp.finish i _ w hinv hmoves hkeeps, trivial, (fun h => by cases h),
      fun k hk => hr.finish i _ w k hk, fun k hk => hr.turn_finish i _ w k hk⟩
  | look k ih => exact ih (m.view i w) (hkeeps (m.view i w))
  | call e k _ =>
    have hpast : past i (m.arrive i w (.call e k)).1 = .issued e :: past i w := hr.issued i e w
    refine ⟨hp.issue i e w hinv hmoves hkeeps.1, ?_, fun _ => ⟨?_, ?_⟩,
      fun k hk => hr.observe i _ w k hk, fun k hk => hr.turn_observe i _ w k hk⟩
    · exact ⟨past i w, hpast, hkeeps.1, fun r => by rw [hpast]; exact hkeeps.2 r⟩
    · exact hr.turn_observe i _ w i hmoves.turn
    · intro r hmem
      rw [hpast] at hmem
      rcases List.mem_cons.1 hmem with heq | hmem
      · cases heq
      · exact hmoves.unended r hmem

lemma Scripted.put {c : Config sig α W} (hc : Scripted past turn script Inv c) {i : ℕ}
    (hi : c.thread i ≠ .fresh) {w : W} {t : Thread sig α} (hinv : Inv w)
    (hkeeps : t.Keeps script (past i w)) (hmoves : t.active = true → Moves past turn i w)
    (hother : ∀ k, k ≠ i → past k w = past k c.world)
    (hturn : ∀ k, turn k c.world → turn k w) :
    Scripted past turn script Inv (Machine.put c i (w, t)) where
  inv := hinv
  keeps k := by
    by_cases hk : k = i
    · subst hk
      simpa [Machine.put] using hkeeps
    · have := hc.keeps k
      rw [← hother k hk] at this
      simpa [Machine.put, hk] using this
  moves k := by
    by_cases hk : k = i
    · subst hk
      intro h
      apply hmoves
      simpa [Machine.put] using h
    · intro h
      have hold : Moves past turn k c.world := hc.moves k (by simpa [Machine.put, hk] using h)
      refine ⟨hturn k hold.turn, ?_⟩
      have hunended := hold.unended
      rwa [← hother k hk] at hunended
  fresh k hle := by
    have hk : k ≠ i := by
      rintro rfl
      exact hi (hc.fresh k hle)
    simpa [Machine.put, hk] using hc.fresh k hle

theorem Scripted.step (hr : m.Records past turn) (hp : m.Preserves past turn script Inv)
    (hjob : ∀ j, (m.job j).Keeps script []) {c c' : Config sig α W} {mv : Move J C}
    (hc : Scripted past turn script Inv c) (hstep : m.step c mv = some c') :
    Scripted past turn script Inv c' := by
  cases mv with
  | start j =>
    simp only [Machine.step] at hstep
    split at hstep
    · rename_i hstart
      obtain ⟨w, hspawn, rfl⟩ := Option.map_eq_some_iff.1 hstep
      have hfresh := hc.fresh c.count (Nat.le_refl _)
      have hempty : past c.count c.world = [] := by
        have := hc.keeps c.count
        rwa [hfresh] at this
      have hpast := hr.spawn c.count j c.world w hspawn
      have hturn := hr.turn_spawn c.thread c.count j c.world w hstart hspawn
      have hw : past c.count w = [] := (hpast c.count).trans hempty
      refine ⟨hp.spawn c.count j c.world w hc.inv hempty hspawn, fun k => ?_, fun k hk => ?_,
        fun k hle => ?_⟩
      · by_cases hkn : k = c.count
        · subst hkn
          simpa [Machine.put, hw, Thread.Keeps] using hjob j
        · simpa [Machine.put, hkn, hpast k] using hc.keeps k
      · by_cases hkn : k = c.count
        · subst hkn
          refine ⟨hturn.1, fun r hmem => ?_⟩
          simp [Machine.put, hw] at hmem
        · have hactive : (c.thread k).active = true := by simpa [Machine.put, hkn] using hk
          have hlt : k < c.count := by
            by_contra hnot
            rw [hc.fresh k (Nat.le_of_not_lt hnot)] at hactive
            cases hactive
          have hold := hc.moves k hactive
          refine ⟨hturn.2 k hlt hactive hold.turn, ?_⟩
          have hunended := hold.unended
          rwa [← hpast k] at hunended
      · have hkn : k ≠ c.count := fun hk => Nat.not_succ_le_self _ (hk ▸ hle)
        simpa [Machine.put, hkn] using hc.fresh k (Nat.le_of_succ_le hle)
    · cases hstep
  | exec i ch =>
    simp only [Machine.step] at hstep
    split at hstep
    · rename_i e k ht
      obtain ⟨⟨r, w⟩, hexec, rfl⟩ := Option.map_eq_some_iff.1 hstep
      have hmoves : Moves past turn i c.world := hc.moves i (by rw [ht]; rfl)
      have hkeeps := hc.keeps i
      rw [ht] at hkeeps
      obtain ⟨h, hpast, hscript, hnext⟩ := hkeeps
      obtain ⟨hself, hother⟩ := hr.exec i e ch c.world r w hexec
      have hturn := hr.turn_exec i e ch c.world r w hexec
      refine hc.put (by simp [ht])
        (hp.exec i e ch c.world r w h hc.inv hmoves hpast hscript hexec) ?_ (fun _ => ?_) hother
        hturn
      · have := hnext r
        rwa [← hself] at this
      · refine ⟨hturn i hmoves.turn, fun r' hmem => ?_⟩
        rw [hself] at hmem
        rcases List.mem_cons.1 hmem with heq | hmem
        · cases heq
        · exact hmoves.unended r' hmem
    · cases hstep
  | resume i =>
    simp only [Machine.step] at hstep
    split at hstep
    · rename_i p ht
      cases hstep
      have hmoves : Moves past turn i c.world := hc.moves i (by rw [ht]; rfl)
      have hkeeps := hc.keeps i
      rw [ht] at hkeeps
      obtain ⟨hinv, hk, hm, hother, ho⟩ := arrive_scripted hr hp hc.inv hmoves hkeeps
      exact hc.put (by simp [ht]) hinv hk hm hother ho
    · rename_i e r k ht
      cases hstep
      have hmoves : Moves past turn i c.world := hc.moves i (by rw [ht]; rfl)
      have hkeeps := hc.keeps i
      rw [ht] at hkeeps
      have hreturn := hr.returned i e r c.world
      have hkeeps' : (k r).Keeps script (past i (m.observe i (.returned e r) c.world)) := by
        rw [hreturn]
        exact hkeeps
      have hmoves' : Moves past turn i (m.observe i (.returned e r) c.world) := by
        refine ⟨hr.turn_observe i _ _ i hmoves.turn, ?_⟩
        rw [hreturn]
        exact hmoves.unended
      obtain ⟨hinv, hk, hm, hother, ho⟩ :=
        arrive_scripted hr hp (hp.returned i e r _ hc.inv) hmoves' hkeeps'
      refine hc.put (by simp [ht]) hinv hk hm (fun k' hk' => ?_) (fun k' hk' => ?_)
      · rw [hother k' hk', hr.observe i _ _ k' hk']
      · exact ho k' (hr.turn_observe i _ _ k' hk')
    · cases hstep
  | halt i =>
    simp only [Machine.step] at hstep
    split at hstep
    · rename_i ht
      cases hstep
      have hi : c.thread i ≠ .fresh := by
        intro h
        simp [h, Thread.active] at ht
      exact hc.put hi hc.inv trivial (fun h => by cases h) (fun _ _ => rfl) fun _ h => h
    · cases hstep
  | env ch =>
    simp only [Machine.step] at hstep
    obtain ⟨w, henv, rfl⟩ := Option.map_eq_some_iff.1 hstep
    have hpast := hr.env ch c.world w henv
    refine ⟨hp.env ch c.world w hc.inv henv, fun k => ?_, fun k hk => ?_, hc.fresh⟩
    · rw [hpast k]
      exact hc.keeps k
    · have hold := hc.moves k hk
      refine ⟨hr.turn_env ch c.world w henv k hold.turn, ?_⟩
      have hunended := hold.unended
      rwa [← hpast k] at hunended

/-- Programs that keep to a script keep every invariant that the script's moves preserve. -/
theorem Records.run (hr : m.Records past turn) (hp : m.Preserves past turn script Inv)
    (hjob : ∀ j, (m.job j).Keeps script []) {w : W} (hw : Inv w) (hpast : ∀ i, past i w = [])
    {moves : List (Move J C)} {c : Config sig α W}
    (hrun : m.run (Config.init w) moves = some c) : Scripted past turn script Inv c := by
  have hinit : Scripted past turn script Inv (Config.init w : Config sig α W) := by
    refine ⟨hw, hpast, fun i h => ?_, fun _ _ => rfl⟩
    simp [Config.init, Thread.active] at h
  exact m.run_induction (fun _ _ _ hc hstep => hc.step hr hp hjob hstep) hinit hrun

end Machine

end Interaction
