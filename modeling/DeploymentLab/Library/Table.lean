import Mathlib.Data.List.Basic
import Mathlib.Data.List.Pairwise
import Mathlib.Data.Nat.Notation
import Mathlib.Tactic.Common

/-!
# Tables with unique columns

A table is a list of rows of which no two share their primary key or their unique columns.
-/

namespace Relational

/-- Rows with a primary key and one more unique constraint. -/
class Keyed (ρ : Type) where
  Id : Type
  Unique : Type
  [decEqId : DecidableEq Id]
  [decEqUnique : DecidableEq Unique]
  id : ρ → Id
  unique : ρ → Unique

attribute [reducible, instance] Keyed.decEqId Keyed.decEqUnique

variable {ρ : Type} [Keyed ρ]

def Keyed.key (r : ρ) : Keyed.Id ρ × Keyed.Unique ρ := (Keyed.id r, Keyed.unique r)

def clashes (r s : ρ) : Bool :=
  Keyed.id r == Keyed.id s || Keyed.unique r == Keyed.unique s

lemma clashes_comm (r s : ρ) : clashes r s = clashes s r := by
  rw [clashes, clashes, Bool.beq_comm (a := Keyed.id r), Bool.beq_comm (a := Keyed.unique r)]

lemma clashes_of_key_eq {r s t : ρ} (h : Keyed.key r = Keyed.key s) :
    clashes r t = clashes s t := by
  rw [clashes, clashes, show Keyed.id r = Keyed.id s from congrArg Prod.fst h,
    show Keyed.unique r = Keyed.unique s from congrArg Prod.snd h]

instance : Std.Symm fun r s : ρ => clashes r s = false := ⟨fun r s h => clashes_comm r s ▸ h⟩

structure Table (ρ : Type) [Keyed ρ] where
  rows : List ρ
  unique : rows.Pairwise fun r s => clashes r s = false

namespace Table

def empty : Table ρ := ⟨[], List.Pairwise.nil⟩

def find? (t : Table ρ) (p : ρ → Bool) : Option ρ := t.rows.find? p

/-- `INSERT`, refused when the row shares a unique key with one that is there. -/
def insert (t : Table ρ) (r : ρ) : Option (Table ρ) :=
  if h : t.rows.all fun s => !clashes s r then
    some ⟨t.rows ++ [r], by
      refine List.pairwise_append.2 ⟨t.unique, List.pairwise_singleton .., ?_⟩
      rintro s hs r' hr'
      rw [List.mem_singleton] at hr'
      subst hr'
      simpa using List.all_eq_true.1 h s hs⟩
  else none

/-- `UPDATE ... SET f WHERE p`, for an `f` that leaves the unique columns alone. -/
def update (t : Table ρ) (p : ρ → Bool) (f : ρ → ρ) (hf : ∀ r, Keyed.key (f r) = Keyed.key r) :
    Table ρ where
  rows := t.rows.map fun r => if p r then f r else r
  unique := by
    have hkey : ∀ r, Keyed.key (if p r then f r else r) = Keyed.key r := fun r => by
      split
      · exact hf r
      · rfl
    rw [List.pairwise_map]
    refine t.unique.imp fun {r s} h => ?_
    rwa [clashes_of_key_eq (hkey r), clashes_comm, clashes_of_key_eq (hkey s), clashes_comm]

/-- `ALTER TABLE`: the rows in another shape, with the unique columns they had. -/
def alter {σ : Type} [Keyed σ] (t : Table ρ) (f : ρ → σ)
    (hf : ∀ r s, clashes (f r) (f s) = clashes r s) : Table σ where
  rows := t.rows.map f
  unique := by
    rw [List.pairwise_map]
    refine t.unique.imp fun {r s} h => ?_
    rwa [hf]

/-- The number of rows that `UPDATE ... WHERE p` affects. -/
def count (t : Table ρ) (p : ρ → Bool) : ℕ := t.rows.countP p

variable {t t' : Table ρ} {p q : ρ → Bool} {f : ρ → ρ} {r s : ρ}

lemma mem_of_find? (h : t.find? p = some r) : r ∈ t.rows := List.mem_of_find?_eq_some h

lemma pred_of_find? (h : t.find? p = some r) : p r = true := List.find?_some h

omit [Keyed ρ] in
lemma find?_map_of_mem {g : ρ → ρ} {rows : List ρ} (h : ∀ r ∈ rows, p (g r) = p r) :
    (rows.map g).find? p = (rows.find? p).map g := by
  induction rows with
  | nil => rfl
  | cons r rows ih =>
    have hr := h r (by simp)
    cases hp : p r with
    | true => simp [hr, hp]
    | false => simp [hr, hp, ih fun s hs => h s (by simp [hs])]

lemma find?_eq_none_iff : t.find? p = none ↔ ∀ r ∈ t.rows, p r = false := by
  simp [find?, List.find?_eq_none]

lemma rows_insert (h : t.insert r = some t') : t'.rows = t.rows ++ [r] := by
  unfold insert at h
  split at h
  · cases h
    rfl
  · cases h

lemma find?_insert (h : t.insert r = some t') :
    t'.find? p = (t.find? p).or (if p r then some r else none) := by
  rw [find?, rows_insert h, List.find?_append]
  cases hp : p r <;> simp [find?, hp]

lemma insert_eq_none_iff : t.insert r = none ↔ ∃ s ∈ t.rows, clashes s r = true := by
  simp [insert]

lemma find?_update {hf : ∀ r, Keyed.key (f r) = Keyed.key r} (hp : ∀ r, p (f r) = p r) :
    (t.update q f hf).find? p = (t.find? p).map fun r => if q r then f r else r := by
  refine find?_map_of_mem fun r _ => ?_
  split
  · exact hp r
  · rfl

lemma rows_update {hf : ∀ r, Keyed.key (f r) = Keyed.key r} :
    (t.update q f hf).rows = t.rows.map fun r => if q r then f r else r := rfl

/-- An update that selects no row. -/
lemma update_of_find?_eq_none {hf : ∀ r, Keyed.key (f r) = Keyed.key r} (h : t.find? p = none) :
    t.update p f hf = t := by
  have hrows : (t.update p f hf).rows = t.rows := by
    rw [rows_update]
    conv_rhs => rw [← List.map_id t.rows]
    refine List.map_congr_left fun r hr => ?_
    simp [find?_eq_none_iff.1 h r hr]
  cases t
  simp only [update] at hrows ⊢
  congr

lemma count_eq_zero_iff : t.count p = 0 ↔ t.find? p = none := by
  rw [count, List.countP_eq_zero, find?_eq_none_iff]
  simp

/-- Two rows of a table that share a unique key are the same row. -/
lemma eq_of_clashes (hr : r ∈ t.rows) (hs : s ∈ t.rows) (h : clashes r s = true) : r = s := by
  by_contra hne
  simp [t.unique.forall hr hs hne] at h

/-- A condition that a key determines and one row meets is met by that row alone. -/
lemma count_eq_one (hr : r ∈ t.rows) (hp : p r = true)
    (hkey : ∀ s, p s = true → clashes r s = true) : t.count p = 1 := by
  obtain ⟨rows, hunique⟩ := t
  obtain ⟨xs, ys, rfl⟩ := List.append_of_mem hr
  have hother : ∀ s ∈ xs ++ ys, p s = false := by
    intro s hs
    have hpair := (List.pairwise_middle fun {a b} h => by rwa [clashes_comm]).1 hunique
    have hapart := (List.pairwise_cons.1 hpair).1 s hs
    by_contra hps
    simp [hkey s (by simpa using hps)] at hapart
  have hx : xs.countP p = 0 := List.countP_eq_zero.2 fun s hs => by simp [hother s (by simp [hs])]
  have hy : ys.countP p = 0 := List.countP_eq_zero.2 fun s hs => by simp [hother s (by simp [hs])]
  simp [count, List.countP_append, hp, hx, hy]

lemma find?_eq_some_of_mem (hr : r ∈ t.rows) (hp : p r = true)
    (hkey : ∀ s, p s = true → clashes r s = true) : t.find? p = some r := by
  cases h : t.find? p with
  | none => simp [find?_eq_none_iff.1 h r hr] at hp
  | some s => rw [eq_of_clashes hr (mem_of_find? h) (hkey s (pred_of_find? h))]

end Table

end Relational
