import Mathlib.Data.List.Perm.Basic
import Mathlib.Order.Lattice
import Mathlib.Tactic.Common

/-!
# Requests in flight

A request that has been sent may land once, at any time before its deadline, whatever its sender is
told and whether or not the sender is still there. A sender that sends another request of a kind
only when none of the kind has landed and none can land any more (`Quiet`) has at most one of them
stand (`standing_send`).
-/

namespace Flight

variable {R L T : Type}

/-- A request, with the time at which it can no longer land. Without one it can always land. -/
structure Request (R T : Type) where
  content : R
  deadline : Option T
  deriving DecidableEq, Repr

section Requests

variable [LinearOrder T] {now next : T} {r : Request R T}

/-- The request may still land. -/
def Request.live (now : T) (r : Request R T) : Bool :=
  r.deadline.all fun deadline => decide (now < deadline)

lemma Request.live_eq_false : r.live now = false ↔ ∃ d, r.deadline = some d ∧ d ≤ now := by
  unfold Request.live
  cases r.deadline with
  | none => simp
  | some d => simp

/-- A request that can no longer land will not land later either. -/
lemma Request.expired_later (h : r.live now = false) (hle : now ≤ next) :
    r.live next = false := by
  obtain ⟨d, hd, hdle⟩ := live_eq_false.1 h
  exact live_eq_false.2 ⟨d, hd, hdle.trans hle⟩

end Requests

section Standing

variable [LinearOrder T] {p : R → Bool} {q : L → Bool} {now next : T}
  {sent : List (Request R T)} {landed : List L} {r : Request R T} {n : ℕ}

/-- How many requests of the kind `p` have landed, as what `q` tells, or may still land. -/
def standing (p : R → Bool) (q : L → Bool) (now : T) (sent : List (Request R T))
    (landed : List L) : ℕ :=
  landed.countP q + sent.countP fun r => r.live now && p r.content

/-- No request of the kind `p` can land any more. -/
def Expired (p : R → Bool) (now : T) (sent : List (Request R T)) : Prop :=
  ∀ r ∈ sent, p r.content = true → r.live now = false

/-- No request of the kind has landed, and none can land any more. -/
structure Quiet (p : R → Bool) (q : L → Bool) (now : T) (sent : List (Request R T))
    (landed : List L) : Prop where
  landed : ∀ l ∈ landed, q l = false
  expired : Expired p now sent

lemma Expired.later (h : Expired p now sent) (hle : now ≤ next) : Expired p next sent :=
  fun r hr hp => Request.expired_later (h r hr hp) hle

lemma Quiet.later (h : Quiet p q now sent landed) (hle : now ≤ next) :
    Quiet p q next sent landed :=
  ⟨h.landed, h.expired.later hle⟩

/-- A request that lands is of another kind. -/
lemma Quiet.land (h : Quiet p q now sent landed) {l : L} (hr : sent[n]? = some r)
    (hlive : r.live now = true) (hl : q l = p r.content) :
    Quiet p q now (sent.eraseIdx n) (landed ++ [l]) := by
  have hother : p r.content = false := by
    by_contra hp
    have := h.expired r (List.mem_of_getElem? hr) (by simpa using hp)
    rw [hlive] at this
    cases this
  refine ⟨fun k hk => ?_, fun k hk => h.expired k (List.mem_of_mem_eraseIdx hk)⟩
  rcases List.mem_append.1 hk with hk | hk
  · exact h.landed k hk
  · rw [List.mem_singleton.1 hk, hl, hother]

/-- What has landed may be changed, as long as nothing becomes of the kind. -/
lemma Quiet.map (h : Quiet p q now sent landed) {f : L → L}
    (hf : ∀ l ∈ landed, q (f l) = true → q l = true) : Quiet p q now sent (landed.map f) := by
  refine ⟨fun k hk => ?_, h.expired⟩
  obtain ⟨l, hl, rfl⟩ := List.mem_map.1 hk
  by_contra hq
  have hold := hf l hl (by simpa using hq)
  rw [h.landed l hl] at hold
  cases hold

lemma Quiet.standing (h : Quiet p q now sent landed) : standing p q now sent landed = 0 := by
  unfold Flight.standing
  rw [List.countP_eq_zero.2 fun l hl => by simp [h.landed l hl], Nat.zero_add, List.countP_eq_zero]
  intro r hr hstands
  rw [Bool.and_eq_true] at hstands
  rw [h.expired r hr hstands.2] at hstands
  cases hstands.1

/-- A request is sent into the quiet. -/
lemma standing_send (h : Quiet p q now sent landed) :
    standing p q now (sent ++ [r]) landed ≤ 1 := by
  have hquiet := h.standing
  unfold standing at hquiet ⊢
  have hone : [r].countP (fun r => r.live now && p r.content) ≤ 1 := List.countP_le_length
  rw [List.countP_append]
  omega

lemma standing_send_other (hr : p r.content = false) :
    standing p q now (sent ++ [r]) landed = standing p q now sent landed := by
  unfold standing
  rw [List.countP_append, List.countP_singleton, hr, Bool.and_false]
  rfl

/-- A request that lands stands as before. -/
lemma standing_land {l : L} (hr : sent[n]? = some r) (hlive : r.live now = true)
    (hl : q l = p r.content) :
    standing p q now (sent.eraseIdx n) (landed ++ [l]) = standing p q now sent landed := by
  obtain ⟨hn, rfl⟩ := List.getElem?_eq_some_iff.1 hr
  unfold standing
  have hperm := (List.getElem_cons_eraseIdx_perm hn).countP_eq
    (fun r : Request R T => r.live now && p r.content)
  rw [List.countP_cons, hlive, Bool.true_and] at hperm
  rw [List.countP_append, List.countP_singleton, hl]
  omega

/-- In the course of time, fewer requests may still land. -/
lemma standing_later (hle : now ≤ next) :
    standing p q next sent landed ≤ standing p q now sent landed := by
  unfold standing
  refine Nat.add_le_add_left (List.countP_mono_left fun r _ h => ?_) _
  rw [Bool.and_eq_true] at h ⊢
  refine ⟨?_, h.2⟩
  by_contra hexpired
  rw [Request.expired_later (by simpa using hexpired) hle] at h
  cases h.1

lemma standing_map {f : L → L} (hf : ∀ l ∈ landed, q (f l) = true → q l = true) :
    standing p q now sent (landed.map f) ≤ standing p q now sent landed := by
  unfold standing
  rw [List.countP_map]
  exact Nat.add_le_add_right (List.countP_mono_left hf) _

end Standing

end Flight
