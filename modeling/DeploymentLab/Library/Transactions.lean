import Mathlib.Data.List.Infix
import Mathlib.Tactic.Common

/-!
# Stores of atomic operations

An operation of a store either commits a new state with a result or raises and leaves the state
as it was. A run is a sequence of such operations by whoever may call them, and its log, newest
first, tells which operations there were and what became of each.
-/

namespace Transactions

variable {St Op Res Err : Type}

abbrev Log (Op Res Err : Type) := List (Op × Except Err Res)

/-- The operations of a store; `enabled` says which of them may come after a log. -/
structure Store (St Op Res Err : Type) where
  enabled : Log Op Res Err → St → Op → Bool
  apply : Op → St → Except Err (Res × St)

structure Config (St Op Res Err : Type) where
  state : St
  log : Log Op Res Err := []

/-- The outcome of an operation and the state it leaves. -/
def settle (s : St) : Except Err (Res × St) → Except Err Res × St
  | .ok (r, s') => (.ok r, s')
  | .error x => (.error x, s)

namespace Store

variable (m : Store St Op Res Err)

def step (c : Config St Op Res Err) (op : Op) : Option (Config St Op Res Err) :=
  if m.enabled c.log c.state op then
    let (outcome, state) := settle c.state (m.apply op c.state)
    some { state, log := (op, outcome) :: c.log }
  else none

def run (c : Config St Op Res Err) (ops : List Op) : Option (Config St Op Res Err) :=
  ops.foldlM m.step c

lemma run_cons (c : Config St Op Res Err) (op : Op) (ops : List Op) :
    m.run c (op :: ops) = (m.step c op).bind fun c' => m.run c' ops := rfl

variable {m} {c c' : Config St Op Res Err} {op : Op} {ops : List Op}

/-- What one operation does: it commits, or it raises and changes nothing. -/
lemma step_cases (h : m.step c op = some c') : m.enabled c.log c.state op = true ∧
    ((∃ r s, m.apply op c.state = .ok (r, s) ∧ c' = ⟨s, (op, .ok r) :: c.log⟩) ∨
      ∃ x, m.apply op c.state = .error x ∧ c' = ⟨c.state, (op, .error x) :: c.log⟩) := by
  unfold step at h
  split at h
  · rename_i henabled
    refine ⟨henabled, ?_⟩
    cases happly : m.apply op c.state with
    | ok p =>
      rw [happly] at h
      cases h
      exact .inl ⟨_, _, rfl, rfl⟩
    | error x =>
      rw [happly] at h
      cases h
      exact .inr ⟨x, rfl, rfl⟩
  · cases h

lemma log_of_step (h : m.step c op = some c') : ∃ outcome, c'.log = (op, outcome) :: c.log := by
  rcases (step_cases h).2 with ⟨r, s, -, rfl⟩ | ⟨x, -, rfl⟩ <;> exact ⟨_, rfl⟩

/-- A property that every step of a run keeps holds at its end. -/
theorem run_induction {P : Config St Op Res Err → Prop}
    (hstep : ∀ c op c', op ∈ ops → P c → m.step c op = some c' → P c') (hc : P c)
    (hrun : m.run c ops = some c') : P c' := by
  induction ops generalizing c with
  | nil =>
    cases hrun
    exact hc
  | cons op ops ih =>
    rw [run_cons, Option.bind_eq_some_iff] at hrun
    obtain ⟨c₁, h₁, hrest⟩ := hrun
    exact ih (fun c op c' hop => hstep c op c' (List.mem_cons_of_mem _ hop))
      (hstep c op c₁ List.mem_cons_self hc h₁) hrest

end Store

end Transactions
