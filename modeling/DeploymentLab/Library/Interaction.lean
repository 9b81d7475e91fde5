import Mathlib.Data.Nat.Notation
import Mathlib.Logic.Function.Basic
import Mathlib.Tactic.Common

/-!
# Interaction programs and the machines that run them

A program is a finite tree of awaited effects. Between two awaits it may look at its own
view of the world, but nothing else can happen. A machine runs any number of such programs
over one shared world: an awaited effect is issued, executed and returned in three separate
moves, so moves of the other threads and of the environment may fall between them, and a
thread may be halted wherever it is suspended.
-/

namespace Interaction

/-- What programs of one kind may await, look at and raise. -/
structure Signature where
  View : Type
  Effect : Type
  Answer : Effect → Type
  Exn : Type

variable {sig : Signature} {α β J W C : Type}

inductive Prog (sig : Signature) (α : Type) : Type
  | ret (a : α)
  | raise (x : sig.Exn)
  | look (k : sig.View → Prog sig α)
  | call (e : sig.Effect) (k : Except sig.Exn (sig.Answer e) → Prog sig α)

namespace Prog

def bind : Prog sig α → (α → Prog sig β) → Prog sig β
  | ret a, f => f a
  | raise x, _ => raise x
  | look k, f => look fun s => (k s).bind f
  | call e k, f => call e fun r => (k r).bind f

instance : Monad (Prog sig) where
  pure := ret
  bind := bind

@[simp] lemma pure_eq (a : α) : (pure a : Prog sig α) = ret a := rfl
@[simp] lemma bind_eq (p : Prog sig α) (f : α → Prog sig β) : p >>= f = p.bind f := rfl
@[simp] lemma ret_bind (a : α) (f : α → Prog sig β) : (ret a).bind f = f a := rfl
@[simp] lemma raise_bind (x : sig.Exn) (f : α → Prog sig β) : (raise x).bind f = raise x := rfl

lemma bind_assoc {γ : Type} (p : Prog sig α) (f : α → Prog sig β) (g : β → Prog sig γ) :
    (p.bind f).bind g = p.bind fun a => (f a).bind g := by
  induction p with
  | ret a => rfl
  | raise x => rfl
  | look k ih =>
    simp only [bind]
    congr
    funext s
    exact ih s
  | call e k ih =>
    simp only [bind]
    congr
    funext r
    exact ih r

/-- Await one effect. -/
def perform (e : sig.Effect) : Prog sig (sig.Answer e) :=
  call e fun
    | .ok a => ret a
    | .error x => raise x

def ofExcept : Except sig.Exn α → Prog sig α
  | .ok a => ret a
  | .error x => raise x

/-- Run a program and hand its exception, if any, to the caller as a value. -/
def attempt : Prog sig α → Prog sig (Except sig.Exn α)
  | ret a => ret (.ok a)
  | raise x => ret (.error x)
  | look k => look fun s => (k s).attempt
  | call e k => call e fun r => (k r).attempt

end Prog

/-- A thread between two moves. -/
inductive Thread (sig : Signature) (α : Type) : Type
  | fresh
  | ready (p : Prog sig α)
  | waiting (e : sig.Effect) (k : Except sig.Exn (sig.Answer e) → Prog sig α)
  | answered (e : sig.Effect) (r : Except sig.Exn (sig.Answer e))
      (k : Except sig.Exn (sig.Answer e) → Prog sig α)
  | finished (r : Except sig.Exn α)
  | halted

/-- Started, and neither finished nor halted. -/
def Thread.active : Thread sig α → Bool
  | .ready _ | .waiting _ _ | .answered _ _ _ => true
  | .fresh | .finished _ | .halted => false

/-- The two moments at which a world can take note of a thread's await. -/
inductive Observation (sig : Signature) : Type
  | issued (e : sig.Effect)
  | returned (e : sig.Effect) (r : Except sig.Exn (sig.Answer e))

/-- The atomic actions of one system. `C` is the type of the choices that resolve what the
threads do not decide: the answer of an outside party, a fresh identifier, a clock reading. -/
structure Machine (sig : Signature) (α J W C : Type) where
  view : ℕ → W → sig.View
  exec : ℕ → (e : sig.Effect) → C → W → Option (Except sig.Exn (sig.Answer e) × W)
  observe : ℕ → Observation sig → W → W
  finish : ℕ → Except sig.Exn α → W → W
  env : C → W → Option W
  job : J → Prog sig α
  spawn : ℕ → J → W → Option W
  mayStart : (ℕ → Thread sig α) → ℕ → Bool

structure Config (sig : Signature) (α W : Type) where
  world : W
  thread : ℕ → Thread sig α
  count : ℕ

/-- The configuration in which no thread has started. -/
def Config.init (w : W) : Config sig α W := ⟨w, fun _ => .fresh, 0⟩

inductive Move (J C : Type) : Type
  | start (j : J)
  | exec (i : ℕ) (c : C)
  | resume (i : ℕ)
  | halt (i : ℕ)
  | env (c : C)

namespace Machine

variable (m : Machine sig α J W C)

/-- Run thread `i` up to its next await, which it issues, or to its end. -/
def arrive (i : ℕ) (w : W) : Prog sig α → W × Thread sig α
  | .ret a => (m.finish i (.ok a) w, .finished (.ok a))
  | .raise x => (m.finish i (.error x) w, .finished (.error x))
  | .look k => arrive i w (k (m.view i w))
  | .call e k => (m.observe i (.issued e) w, .waiting e k)

def put (c : Config sig α W) (i : ℕ) (next : W × Thread sig α) : Config sig α W :=
  { c with world := next.1, thread := Function.update c.thread i next.2 }

def step (c : Config sig α W) : Move J C → Option (Config sig α W)
  | .start j =>
    if m.mayStart c.thread c.count then
      (m.spawn c.count j c.world).map fun w =>
        { put c c.count (w, .ready (m.job j)) with count := c.count + 1 }
    else none
  | .exec i ch =>
    match c.thread i with
    | .waiting e k => (m.exec i e ch c.world).map fun p => put c i (p.2, .answered e p.1 k)
    | _ => none
  | .resume i =>
    match c.thread i with
    | .ready p => some (put c i (m.arrive i c.world p))
    | .answered e r k => some (put c i (m.arrive i (m.observe i (.returned e r) c.world) (k r)))
    | _ => none
  | .halt i => if (c.thread i).active then some (put c i (c.world, .halted)) else none
  | .env ch => (m.env ch c.world).map fun w => { c with world := w }

def run (c : Config sig α W) (moves : List (Move J C)) : Option (Config sig α W) :=
  moves.foldlM m.step c

lemma run_cons (c : Config sig α W) (mv : Move J C) (moves : List (Move J C)) :
    m.run c (mv :: moves) = (m.step c mv).bind fun c' => m.run c' moves := rfl

lemma run_append (c : Config sig α W) (xs ys : List (Move J C)) :
    m.run c (xs ++ ys) = (m.run c xs).bind fun c' => m.run c' ys :=
  List.foldlM_append ..

/-- A property kept by every move holds after every run. -/
theorem run_induction {P : Config sig α W → Prop}
    (hstep : ∀ c mv c', P c → m.step c mv = some c' → P c') {c c' : Config sig α W}
    {moves : List (Move J C)} (hc : P c) (hrun : m.run c moves = some c') : P c' := by
  induction moves generalizing c with
  | nil => cases hrun; exact hc
  | cons mv moves ih =>
    rw [run_cons, Option.bind_eq_some_iff] at hrun
    obtain ⟨c₁, h₁, hrest⟩ := hrun
    exact ih (hstep c mv c₁ hc h₁) hrest

/-- Taking note of awaits and of ends keeps what `f` reads of the world. -/
lemma arrive_frame {X : Type} {f : W → X} (hobserve : ∀ i o w, f (m.observe i o w) = f w)
    (hfinish : ∀ i r w, f (m.finish i r w) = f w) (i : ℕ) (w : W) (p : Prog sig α) :
    f (m.arrive i w p).1 = f w := by
  induction p with
  | ret a => exact hfinish i _ w
  | raise x => exact hfinish i _ w
  | look k ih => exact ih (m.view i w)
  | call e k _ => exact hobserve i _ w

/-- What `f` reads of the world is changed by an executed await or by the environment only. -/
lemma step_frame {X : Type} {f : W → X} (hobserve : ∀ i o w, f (m.observe i o w) = f w)
    (hfinish : ∀ i r w, f (m.finish i r w) = f w)
    (hspawn : ∀ n j w w', m.spawn n j w = some w' → f w' = f w) {c c' : Config sig α W}
    {mv : Move J C} (h : m.step c mv = some c') :
    f c'.world = f c.world ∨
      (∃ i e k ch r, c.thread i = .waiting e k ∧ m.exec i e ch c.world = some (r, c'.world)) ∨
      ∃ ch, m.env ch c.world = some c'.world := by
  cases mv with
  | start j =>
    simp only [step] at h
    split at h
    · obtain ⟨w, hw, rfl⟩ := Option.map_eq_some_iff.1 h
      exact .inl (hspawn _ _ _ _ hw)
    · cases h
  | exec i ch =>
    simp only [step] at h
    split at h
    · rename_i e k hthread
      obtain ⟨⟨r, w⟩, hexec, rfl⟩ := Option.map_eq_some_iff.1 h
      exact .inr (.inl ⟨i, e, k, ch, r, hthread, hexec⟩)
    · cases h
  | resume i =>
    simp only [step] at h
    split at h
    · cases h
      exact .inl (m.arrive_frame hobserve hfinish i _ _)
    · cases h
      exact .inl ((m.arrive_frame hobserve hfinish i _ _).trans (hobserve i _ _))
    · cases h
  | halt i =>
    simp only [step] at h
    split at h
    · cases h
      exact .inl rfl
    · cases h
  | env ch =>
    simp only [step] at h
    obtain ⟨w, hw, rfl⟩ := Option.map_eq_some_iff.1 h
    exact .inr (.inr ⟨ch, hw⟩)

/-- The machine whose runs are the runs of `m` in which every execution meets `ok`. -/
def guard (ok : ℕ → sig.Effect → W → Bool) : Machine sig α J W C :=
  { m with exec := fun i e c w => if ok i e w then m.exec i e c w else none }

lemma guard_exec {ok : ℕ → sig.Effect → W → Bool} {i : ℕ} {e : sig.Effect} {c : C} {w : W}
    {p : Except sig.Exn (sig.Answer e) × W} (h : (m.guard ok).exec i e c w = some p) :
    ok i e w = true ∧ m.exec i e c w = some p := by
  simp only [guard] at h
  split at h
  · exact ⟨‹_›, h⟩
  · cases h

end Machine

end Interaction
