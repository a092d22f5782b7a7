import Mathlib.Algebra.BigOperators.Group.List.Basic
import Mathlib.Algebra.CharZero.Defs
import Mathlib.Algebra.Order.Field.Basic
import Mathlib.Data.List.Induction
import Mathlib.Tactic.FieldSimp
import Mathlib.Tactic.LinearCombination
import Mathlib.Tactic.Ring

/-!
# Running moments

Welford's recurrence for the mean and the sum of squared deviations, and the
batch formulas that it maintains over every prefix.
-/

namespace RunningMoments

universe u

structure Moments (α : Type u) where
  mean : α
  m2 : α
  n : ℕ
deriving DecidableEq, Repr

variable {α : Type u} [Field α]

def start : Moments α := ⟨0, 0, 0⟩

/-- One more value. -/
def push (m : Moments α) (x : α) : Moments α :=
  let n := m.n + 1
  let delta := x - m.mean
  let mean := m.mean + delta / n
  ⟨mean, m.m2 + delta * (x - mean), n⟩

def ofList (l : List α) : Moments α := l.foldl push start

/-- The sum of squared deviations from `c`. -/
def squares (l : List α) (c : α) : α := (l.map fun x => (x - c) ^ 2).sum

/-- What the recurrence keeps: the count, the sum and the sum of squares. -/
structure Keeps (l : List α) (m : Moments α) : Prop where
  count : m.n = l.length
  sum : m.n * m.mean = l.sum
  squares : m.m2 = squares l 0 - m.n * m.mean ^ 2

lemma squares_append (l : List α) (x c : α) :
    squares (l ++ [x]) c = squares l c + (x - c) ^ 2 := by
  simp [squares]

/-- Squares around any centre from those around zero. -/
lemma squares_eq (l : List α) (c : α) :
    squares l c = squares l 0 - 2 * c * l.sum + l.length * c ^ 2 := by
  induction l with
  | nil => simp [squares]
  | cons x l ih =>
    simp only [squares, List.map_cons, List.sum_cons, List.length_cons, Nat.cast_add,
      Nat.cast_one] at ih ⊢
    rw [ih]
    ring

variable [CharZero α]

lemma keeps_push {l : List α} {m : Moments α} (keeps : Keeps l m) (x : α) :
    Keeps (l ++ [x]) (push m x) := by
  obtain ⟨count, sum, squared⟩ := keeps
  have positive : (m.n : α) + 1 ≠ 0 := Nat.cast_add_one_ne_zero m.n
  refine ⟨by simp [push, count], ?_, ?_⟩
  · rw [List.sum_append, List.sum_singleton, ← sum]
    simp only [push, Nat.cast_add, Nat.cast_one]
    field_simp
    ring
  · rw [squares_append]
    simp only [push, Nat.cast_add, Nat.cast_one]
    field_simp
    linear_combination ((m.n : α) + 1) * squared

theorem keeps_ofList (l : List α) : Keeps l (ofList l) := by
  induction l using List.reverseRecOn with
  | nil => exact ⟨rfl, by simp [ofList, start], by simp [ofList, start, squares]⟩
  | append_singleton l x ih =>
    rw [ofList, List.foldl_append]
    exact keeps_push ih x

theorem ofList_mean {l : List α} (nonempty : l ≠ []) : (ofList l).mean = l.sum / l.length := by
  have keeps := keeps_ofList l
  have positive : (l.length : α) ≠ 0 := by
    rw [Nat.cast_ne_zero, ne_eq, List.length_eq_zero_iff]
    exact nonempty
  rw [← keeps.sum, keeps.count]
  field_simp

/-- The second moment is the sum of squared deviations from the mean. -/
theorem ofList_m2 (l : List α) : (ofList l).m2 = squares l (ofList l).mean := by
  have keeps := keeps_ofList l
  rw [squares_eq, keeps.squares, ← keeps.sum, keeps.count]
  ring

end RunningMoments
