import Mathlib.Algebra.Order.Field.Basic
import Mathlib.Data.List.Perm.Basic
import Mathlib.Data.Rat.Cast.Order

/-!
# Empirical distribution functions

The share of a sample that is at most `t`, and how it is read off a position in
the sorted sample.
-/

namespace EmpiricalDistribution

universe u
variable {α : Type u} [LinearOrder α]

def ecdf (l : List α) (t : α) : ℚ := (l.countP (fun x => decide (x ≤ t)) : ℚ) / l.length

variable {l l' : List α} {t m : α} {i : ℕ}

lemma ecdf_perm (h : l.Perm l') (t : α) : ecdf l t = ecdf l' t := by
  rw [ecdf, ecdf, h.countP_eq, h.length_eq]

lemma ecdf_mono (l : List α) (h : m ≤ t) : ecdf l m ≤ ecdf l t := by
  have counts : l.countP (fun x => decide (x ≤ m)) ≤ l.countP (fun x => decide (x ≤ t)) := by
    apply List.countP_mono_left
    intro x _ small
    rw [decide_eq_true_eq] at small ⊢
    exact small.trans h
  exact div_le_div_of_nonneg_right (by exact_mod_cast counts) (Nat.cast_nonneg _)

lemma ecdf_le_one (l : List α) (t : α) : ecdf l t ≤ 1 := by
  apply div_le_one_of_le₀ _ (Nat.cast_nonneg _)
  exact_mod_cast List.countP_le_length

/-- The first `i` places hold what is at most `m`, the others what is greater. -/
structure Cut (l : List α) (i : ℕ) (m : α) : Prop where
  inside : i ≤ l.length
  before : ∀ x ∈ l.take i, x ≤ m
  after : ∀ x ∈ l.drop i, m < x

lemma Cut.ecdf_eq (cut : Cut l i m) : ecdf l m = (i : ℚ) / l.length := by
  have low : (l.take i).countP (fun x => decide (x ≤ m)) = i := by
    rw [List.countP_eq_length.mpr (fun x hx => decide_eq_true (cut.before x hx)), List.length_take,
      min_eq_left cut.inside]
  have high : (l.drop i).countP (fun x => decide (x ≤ m)) = 0 := by
    rw [List.countP_eq_zero]
    intro x hx
    rw [decide_eq_true_eq]
    exact not_le.mpr (cut.after x hx)
  have whole : l.countP (fun x => decide (x ≤ m)) = i := by
    conv_lhs => rw [← List.take_append_drop i l]
    rw [List.countP_append, low, high, Nat.add_zero]
  rw [ecdf, whole]

/-- The cut stays where it is up to the next value. -/
lemma Cut.hold (cut : Cut l i m) (le : m ≤ t) (after : ∀ x ∈ l.drop i, t < x) : Cut l i t :=
  ⟨cut.inside, fun x hx => (cut.before x hx).trans le, after⟩

end EmpiricalDistribution
