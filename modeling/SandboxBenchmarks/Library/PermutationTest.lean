import Mathlib.Data.Finset.Powerset
import Mathlib.Data.Nat.Choose.Basic
import Mathlib.Algebra.BigOperators.Group.Finset.Basic
import Mathlib.Algebra.BigOperators.Ring.Finset
import Mathlib.Algebra.Group.Action.Defs
import Mathlib.Algebra.Order.Field.Rat
import Mathlib.Algebra.Order.AbsoluteValue.Basic
import Mathlib.Order.Bounds.Basic
import Mathlib.Tactic.Ring
import Mathlib.Tactic.Linarith
import Mathlib.Tactic.FieldSimp
import Mathlib.Tactic.Positivity

/-!
# The two-sided rank-sum permutation test

A pooled sample `x 0, …, x (N-1)` is relabelled by choosing which `n` positions
form the first group. `mannWhitney` counts, for one relabelling, the pairs in
which the first group is larger, a tie counting one half. The permutation
`p`-value is the share of relabellings at least as far from `n(N-n)/2`.

Doubled quantities are natural numbers, so ties need no fractions.
-/

namespace PermutationTest

open Finset

universe u
variable {α : Type u} [LinearOrder α]

/-- Twice the score of position `i` against position `j`: win 2, tie 1, loss 0. -/
def twiceWin (x : Nat → α) (i j : Nat) : Nat :=
  if x j < x i then 2 else if x j = x i then 1 else 0

/-- Twice the average rank of position `i` among the first `N` positions. -/
def twiceMidrank (x : Nat → α) (N i : Nat) : Nat :=
  2 * ((range N).filter (fun j => x j < x i)).card +
    ((range N).filter (fun j => x j = x i)).card + 1

/-- Twice the Mann-Whitney count of the relabelling `S`. -/
def twiceU (x : Nat → α) (N : Nat) (S : Finset Nat) : Nat :=
  ∑ i ∈ S, ∑ j ∈ range N \ S, twiceWin x i j

def mannWhitney (x : Nat → α) (N : Nat) (S : Finset Nat) : ℚ :=
  (twiceU x N S : ℚ) / 2

/-- Distance of the statistic from its mean under relabelling. -/
def deviation (x : Nat → α) (N n : Nat) (S : Finset Nat) : ℚ :=
  |mannWhitney x N S - (n : ℚ) * ((N : ℚ) - n) / 2|

/-- The equally likely relabellings. -/
def relabellings (N n : Nat) : Finset (Finset Nat) := (range N).powersetCard n

def atLeastAsExtreme (x : Nat → α) (N n : Nat) (S : Finset Nat) : Finset (Finset Nat) :=
  (relabellings N n).filter (fun T => deviation x N n S ≤ deviation x N n T)

/-- The two-sided permutation `p`-value of the relabelling `S`. -/
def permutationP (x : Nat → α) (N n : Nat) (S : Finset Nat) : ℚ :=
  ((atLeastAsExtreme x N n S).card : ℚ) / (N.choose n : ℚ)

theorem twiceWin_add_swap (x : Nat → α) (i j : Nat) :
    twiceWin x i j + twiceWin x j i = 2 := by
  rcases lt_trichotomy (x i) (x j) with h | h | h
  · simp [twiceWin, h, not_lt_of_gt h, ne_of_gt h]
  · simp [twiceWin, h]
  · simp [twiceWin, h, not_lt_of_gt h, ne_of_gt h]

theorem twiceMidrank_eq_sum (x : Nat → α) (N i : Nat) :
    twiceMidrank x N i = ∑ j ∈ range N, twiceWin x i j + 1 := by
  have split : ∀ j, twiceWin x i j =
      2 * (if x j < x i then 1 else 0) + (if x j = x i then 1 else 0) := by
    intro j
    by_cases hlt : x j < x i
    · simp [twiceWin, hlt, ne_of_lt hlt]
    · simp [twiceWin, hlt]
  simp only [split, sum_add_distrib, ← mul_sum, ← card_filter]
  rfl

/-- Inside one group every pair of positions scores two between them. -/
theorem twiceWin_within (x : Nat → α) (S : Finset Nat) :
    ∑ i ∈ S, ∑ j ∈ S, twiceWin x i j = S.card * S.card := by
  have swapped : ∑ i ∈ S, ∑ j ∈ S, twiceWin x i j = ∑ i ∈ S, ∑ j ∈ S, twiceWin x j i :=
    sum_comm
  have total : ∑ i ∈ S, ∑ j ∈ S, twiceWin x i j + ∑ i ∈ S, ∑ j ∈ S, twiceWin x j i =
      2 * (S.card * S.card) := by
    simp only [← sum_add_distrib, twiceWin_add_swap, sum_const, smul_eq_mul]
    ring
  omega

/-- The doubled rank sum of a group is its Mann-Whitney count plus a constant. -/
theorem sum_twiceMidrank (x : Nat → α) (N : Nat) {S : Finset Nat} (hS : S ⊆ range N) :
    ∑ i ∈ S, twiceMidrank x N i = S.card * (S.card + 1) + twiceU x N S := by
  have split : ∀ i, ∑ j ∈ range N, twiceWin x i j =
      ∑ j ∈ range N \ S, twiceWin x i j + ∑ j ∈ S, twiceWin x i j :=
    fun i => (sum_sdiff hS).symm
  simp only [twiceMidrank_eq_sum, split, sum_add_distrib, sum_const, smul_eq_mul, mul_one]
  rw [twiceWin_within]
  unfold twiceU
  ring

/-- The deviation of a relabelling, read off its doubled rank sum. -/
theorem two_mul_deviation (x : Nat → α) (N n : Nat) {S : Finset Nat}
    (hS : S ∈ relabellings N n) :
    2 * deviation x N n S =
      |((∑ i ∈ S, twiceMidrank x N i : Nat) : ℚ) - n * (n + 1) - n * ((N : ℚ) - n)| := by
  obtain ⟨sub, card⟩ := mem_powersetCard.mp hS
  have two : (2 : ℚ) = |2| := by norm_num
  rw [deviation, sum_twiceMidrank x N sub, card]
  nth_rewrite 1 [two]
  rw [← abs_mul]
  congr 1
  push_cast
  unfold mannWhitney
  ring

theorem mem_atLeastAsExtreme_self (x : Nat → α) (N n : Nat) {S : Finset Nat}
    (hS : S ∈ relabellings N n) : S ∈ atLeastAsExtreme x N n S :=
  mem_filter.mpr ⟨hS, le_rfl⟩

/-- A relabelling further out has the smaller `p`-value. -/
theorem permutationP_anti (x : Nat → α) (N n : Nat) {S T : Finset Nat}
    (h : deviation x N n S ≤ deviation x N n T) :
    permutationP x N n T ≤ permutationP x N n S := by
  have sub : atLeastAsExtreme x N n T ⊆ atLeastAsExtreme x N n S := by
    intro R hR
    obtain ⟨hR, hT⟩ := mem_filter.mp hR
    exact mem_filter.mpr ⟨hR, h.trans hT⟩
  have card : ((atLeastAsExtreme x N n T).card : ℚ) ≤ (atLeastAsExtreme x N n S).card := by
    exact_mod_cast card_le_card sub
  exact div_le_div_of_nonneg_right card (by positivity)

/-- The most extreme relabelling attains the smallest `p`-value there is. -/
theorem isLeast_permutationP (x : Nat → α) (N n : Nat) {S : Finset Nat}
    (hS : S ∈ relabellings N n)
    (extreme : ∀ T ∈ relabellings N n, deviation x N n T ≤ deviation x N n S) :
    IsLeast {p | ∃ T ∈ relabellings N n, p = permutationP x N n T}
      (permutationP x N n S) := by
  refine ⟨⟨S, hS, rfl⟩, ?_⟩
  rintro p ⟨T, hT, rfl⟩
  exact permutationP_anti x N n (extreme T hT)

/-- Every relabelling is at least as extreme as one on the mean. -/
theorem permutationP_of_deviation_eq_zero (x : Nat → α) {N n : Nat} (few : n ≤ N) {S : Finset Nat}
    (h : deviation x N n S = 0) : permutationP x N n S = 1 := by
  have all : atLeastAsExtreme x N n S = relabellings N n := by
    refine filter_true_of_mem ?_
    intro T _
    rw [h]
    exact abs_nonneg _
  have positive : (N.choose n : ℚ) ≠ 0 := by exact_mod_cast (Nat.choose_pos few).ne'
  rw [permutationP, all, relabellings, card_powersetCard, card_range, div_self positive]

/-! ### Renumbering the positions -/

section Renumbering
variable {N : Nat} {σ : Nat → Nat} (maps : ∀ i < N, σ i < N) (inj : Set.InjOn σ (range N))
include maps inj

lemma image_range_renumber : (range N).image σ = range N := by
  refine eq_of_subset_of_card_le ?_ (card_image_of_injOn inj).ge
  intro j hj
  obtain ⟨i, hi, rfl⟩ := mem_image.mp hj
  exact mem_range.mpr (maps i (mem_range.mp hi))

lemma deviation_renumber (x : Nat → α) (n : Nat) {S : Finset Nat} (hS : S ⊆ range N) :
    deviation (fun i => x (σ i)) N n S = deviation x N n (S.image σ) := by
  have others : range N \ S.image σ = (range N \ S).image σ := by
    rw [image_sdiff_of_injOn inj hS, image_range_renumber maps inj]
  have count : twiceU (fun i => x (σ i)) N S = twiceU x N (S.image σ) := by
    unfold twiceU
    rw [others, sum_image (inj.mono (coe_subset.mpr hS))]
    refine sum_congr rfl ?_
    intro i _
    rw [sum_image (inj.mono (coe_subset.mpr sdiff_subset))]
    rfl
  rw [deviation, deviation, mannWhitney, mannWhitney, count]

lemma relabellings_renumber (n : Nat) :
    (relabellings N n).image (fun T => T.image σ) = relabellings N n := by
  have injective := image_injOn_powerset_of_injOn inj
  have inside : ∀ T ∈ relabellings N n, T ⊆ range N := fun T hT => (mem_powersetCard.mp hT).1
  refine eq_of_subset_of_card_le ?_ ?_
  · intro R hR
    obtain ⟨T, hT, rfl⟩ := mem_image.mp hR
    obtain ⟨sub, card⟩ := mem_powersetCard.mp hT
    refine mem_powersetCard.mpr ⟨?_, ?_⟩
    · rw [← image_range_renumber maps inj]
      exact image_subset_image sub
    · rw [card_image_of_injOn (inj.mono (coe_subset.mpr sub)), card]
  · refine (card_image_of_injOn (injective.mono ?_)).ge
    intro T hT
    exact mem_powerset.mpr (inside T hT)

/-- The `p`-value does not depend on how the positions are numbered. -/
theorem permutationP_renumber (x : Nat → α) (n : Nat) {S : Finset Nat} (hS : S ⊆ range N) :
    permutationP (fun i => x (σ i)) N n S = permutationP x N n (S.image σ) := by
  have injective := image_injOn_powerset_of_injOn inj
  have inside : ∀ T ∈ relabellings N n, T ⊆ range N := fun T hT => (mem_powersetCard.mp hT).1
  have extreme : atLeastAsExtreme x N n (S.image σ) =
      (atLeastAsExtreme (fun i => x (σ i)) N n S).image (fun T => T.image σ) := by
    unfold atLeastAsExtreme
    rw [← relabellings_renumber maps inj n, filter_image, relabellings_renumber maps inj n]
    refine congrArg (image _) (filter_congr ?_)
    intro T hT
    rw [deviation_renumber maps inj x n hS, deviation_renumber maps inj x n (inside T hT)]
  rw [permutationP, permutationP, extreme, card_image_of_injOn]
  refine injective.mono ?_
  intro T hT
  exact mem_powerset.mpr (inside T (mem_filter.mp hT).1)

end Renumbering

theorem permutationP_le_one (x : Nat → α) (N n : Nat) (S : Finset Nat) :
    permutationP x N n S ≤ 1 := by
  have card : ((atLeastAsExtreme x N n S).card : ℚ) ≤ (N.choose n : ℚ) := by
    have h := card_filter_le (relabellings N n)
      (fun T => deviation x N n S ≤ deviation x N n T)
    rw [relabellings, card_powersetCard, card_range] at h
    exact_mod_cast h
  exact div_le_one_of_le₀ card (by positivity)

/-! ### The other group -/

section Complement
variable {x : Nat → α} {N n : Nat} {S : Finset Nat}

lemma complement_mem_relabellings (few : n ≤ N) (hS : S ∈ relabellings N n) :
    range N \ S ∈ relabellings N (N - n) := by
  obtain ⟨sub, card⟩ := mem_powersetCard.mp hS
  refine mem_powersetCard.mpr ⟨sdiff_subset, ?_⟩
  rw [card_sdiff_of_subset sub, card, card_range]

lemma complement_complement (hS : S ∈ relabellings N n) : range N \ (range N \ S) = S :=
  Finset.sdiff_sdiff_eq_self (mem_powersetCard.mp hS).1

/-- Every pair across the groups is worth two between its sides. -/
lemma twiceU_complement (hS : S ∈ relabellings N n) :
    twiceU x N S + twiceU x N (range N \ S) = 2 * (n * (N - n)) := by
  obtain ⟨sub, card⟩ := mem_powersetCard.mp hS
  have size : (range N \ S).card = N - n := by rw [card_sdiff_of_subset sub, card, card_range]
  rw [twiceU, twiceU, complement_complement hS, sum_comm (s := range N \ S), ← sum_add_distrib]
  simp only [← sum_add_distrib, twiceWin_add_swap, sum_const, smul_eq_mul, card, size]
  ring

lemma deviation_complement (few : n ≤ N) (hS : S ∈ relabellings N n) :
    deviation x N (N - n) (range N \ S) = deviation x N n S := by
  have both : ((twiceU x N S + twiceU x N (range N \ S) : ℕ) : ℚ) = ((2 * (n * (N - n)) : ℕ) : ℚ) :=
    congrArg Nat.cast (twiceU_complement hS)
  push_cast [Nat.cast_sub few] at both
  rw [deviation, deviation, mannWhitney, mannWhitney, Nat.cast_sub few, ← abs_neg]
  congr 1
  linarith

/-- Which of the two groups is named first does not matter. -/
theorem permutationP_complement (few : n ≤ N) (hS : S ∈ relabellings N n) :
    permutationP x N (N - n) (range N \ S) = permutationP x N n S := by
  have back : N - (N - n) = n := Nat.sub_sub_self few
  have card : (atLeastAsExtreme x N (N - n) (range N \ S)).card =
      (atLeastAsExtreme x N n S).card := by
    refine card_bij (fun T _ => range N \ T) ?_ ?_ ?_
    · intro T hT
      obtain ⟨member, far⟩ := mem_filter.mp hT
      have other := complement_mem_relabellings (Nat.sub_le N n) member
      have same := deviation_complement (x := x) (Nat.sub_le N n) member
      rw [back] at other same
      rw [deviation_complement few hS, ← same] at far
      exact mem_filter.mpr ⟨other, far⟩
    · intro T hT T' hT' same
      rw [← complement_complement (mem_filter.mp hT).1, same,
        complement_complement (mem_filter.mp hT').1]
    · intro T hT
      obtain ⟨member, far⟩ := mem_filter.mp hT
      refine ⟨range N \ T, mem_filter.mpr ⟨complement_mem_relabellings few member, ?_⟩,
        complement_complement member⟩
      rwa [deviation_complement few hS, deviation_complement few member]
  rw [permutationP, permutationP, card, Nat.choose_symm few]

end Complement

end PermutationTest
