import Mathlib.Algebra.Order.Floor.Semiring
import Mathlib.Order.Monotone.Basic
import Mathlib.Tactic.Linarith
import Mathlib.Tactic.Ring

/-!
# Linear interpolation of a sequence

A sequence is read between two consecutive indices on the line through its two
values there. Between the values of a monotone sequence the reading is monotone
in the position and stays between the two neighbours.
-/

namespace Interpolation

universe u
variable {α : Type u} [Field α] [LinearOrder α] [IsStrictOrderedRing α] [FloorSemiring α]

def between (x : ℕ → α) (h : α) : α := x ⌊h⌋₊ + (h - ⌊h⌋₊) * (x ⌈h⌉₊ - x ⌊h⌋₊)

variable {x : ℕ → α} {h h' : α}

theorem between_natCast (x : ℕ → α) (n : ℕ) : between x (n : α) = x n := by
  simp [between]

omit [IsStrictOrderedRing α] in
/-- At an integer position the slope is multiplied by zero, so any next value will do. -/
theorem between_eq_next (x : ℕ → α) (nonneg : 0 ≤ h) :
    between x h = x ⌊h⌋₊ + (h - ⌊h⌋₊) * (x (⌊h⌋₊ + 1) - x ⌊h⌋₊) := by
  rcases (Nat.floor_le nonneg).eq_or_lt with whole | part
  · rw [between, whole, sub_self, zero_mul, zero_mul]
  · have next : ⌈h⌉₊ = ⌊h⌋₊ + 1 := by
      apply le_antisymm (Nat.ceil_le_floor_add_one h)
      exact Nat.lt_ceil.mpr part
    rw [between, next]

theorem floor_le_between (mono : Monotone x) (nonneg : 0 ≤ h) : x ⌊h⌋₊ ≤ between x h := by
  have rise := sub_nonneg.mpr (mono (Nat.floor_le_ceil h))
  have share := mul_nonneg (sub_nonneg.mpr (Nat.floor_le nonneg)) rise
  rw [between]
  linarith

theorem between_le_next (mono : Monotone x) (nonneg : 0 ≤ h) : between x h ≤ x (⌊h⌋₊ + 1) := by
  have rise := sub_nonneg.mpr (mono (Nat.le_succ ⌊h⌋₊))
  have part : h - ⌊h⌋₊ ≤ 1 := by
    have below := Nat.lt_floor_add_one h
    linarith
  have share := mul_le_mul_of_nonneg_right part rise
  rw [between_eq_next x nonneg]
  linarith

theorem between_le_ceil (mono : Monotone x) (nonneg : 0 ≤ h) : between x h ≤ x ⌈h⌉₊ := by
  rcases (Nat.floor_le nonneg).eq_or_lt with whole | part
  · have same : between x h = x ⌊h⌋₊ := by
      rw [between, whole, sub_self, zero_mul, add_zero]
    rw [same]
    exact mono (Nat.floor_le_ceil h)
  · exact (between_le_next mono nonneg).trans (mono (Nat.lt_ceil.mpr part))

/-- Further along a monotone sequence nothing smaller is read. -/
theorem between_mono (mono : Monotone x) (nonneg : 0 ≤ h) (le : h ≤ h') :
    between x h ≤ between x h' := by
  have nonneg' := nonneg.trans le
  rcases (Nat.floor_mono le).eq_or_lt with same | further
  · rw [between_eq_next x nonneg, between_eq_next x nonneg', same]
    have rise := sub_nonneg.mpr (mono (Nat.le_succ ⌊h'⌋₊))
    have share := mul_le_mul_of_nonneg_right (sub_le_sub_right le (⌊h'⌋₊ : α)) rise
    linarith
  · calc between x h ≤ x (⌊h⌋₊ + 1) := between_le_next mono nonneg
      _ ≤ x ⌊h'⌋₊ := mono further
      _ ≤ between x h' := floor_le_between mono nonneg'

end Interpolation
