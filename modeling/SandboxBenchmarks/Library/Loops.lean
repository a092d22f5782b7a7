import Mathlib.Init

/-!
# Counted loops over an explicit state

`down f lo hi c` runs `f` at `hi - 1, …, lo`, in that order. Stopping at a larger
`lo` gives the state in the middle of the loop, so a loop invariant indexed by
the stopping point speaks about every intermediate state.
-/

namespace Loops

universe u
variable {σ : Type u}

/-- `for (let s = hi - 1; s >= lo; s--) c = f(s, c)`. -/
def down (f : Nat → σ → σ) (lo : Nat) : Nat → σ → σ
  | 0, c => c
  | hi + 1, c => if lo ≤ hi then down f lo hi (f hi c) else c

theorem down_of_le (f : Nat → σ → σ) {lo hi : Nat} (h : hi ≤ lo) (c : σ) :
    down f lo hi c = c := by
  cases hi with
  | zero => rfl
  | succ hi =>
    have stop : ¬ lo ≤ hi := by omega
    simp only [down, if_neg stop]

/-- One more iteration at the low end. -/
theorem down_step (f : Nat → σ → σ) {lo hi : Nat} (h : lo < hi) (c : σ) :
    down f lo hi c = f lo (down f (lo + 1) hi c) := by
  induction hi generalizing c with
  | zero => omega
  | succ hi ih =>
    have enter : lo ≤ hi := by omega
    simp only [down, if_pos enter]
    by_cases last : lo = hi
    · subst last
      rw [down_of_le f (Nat.le_refl _), if_neg (by omega)]
    · rw [if_pos (by omega), ih (by omega)]

/-- The invariant rule: true on entry and kept by each iteration, down to any stop. -/
theorem down_invariant (f : Nat → σ → σ) (Inv : Nat → σ → Prop) (hi : Nat) (c : σ)
    (entry : Inv hi c)
    (step : ∀ s, s < hi → ∀ d, Inv (s + 1) d → Inv s (f s d)) :
    ∀ lo, lo ≤ hi → Inv lo (down f lo hi c) := by
  have key : ∀ gap lo, lo + gap = hi → Inv lo (down f lo hi c) := by
    intro gap
    induction gap with
    | zero =>
      intro lo h
      rw [down_of_le f (by omega)]
      have : lo = hi := by omega
      exact this ▸ entry
    | succ gap ih =>
      intro lo h
      rw [down_step f (by omega)]
      exact step lo (by omega) _ (ih (lo + 1) (by omega))
  intro lo h
  exact key (hi - lo) lo (by omega)

end Loops
