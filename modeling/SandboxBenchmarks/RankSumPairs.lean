import SandboxBenchmarks.Library.PairCounts
import SandboxBenchmarks.RankSumExact

/-!
# The rank-sum statistic as a count of pairs

Both branches of `mannWhitneyU` read the same statistic off the midranks: the number
of pairs the first sample wins. Past the exact sizes the test depends on the samples
through this count and through the pooled values alone.
-/

namespace RankSumPairs

open PairCounts PermutationTest RankSumExact RankSumTest

lemma nonempty_of_ok {tail : NormalTail} {a b : List ℚ} {test : RankSum}
    (h : mannWhitneyU tail a b = .ok test) : a ≠ [] ∧ b ≠ [] := by
  unfold mannWhitneyU at h
  split at h
  · cases h
  · rename_i some
    simpa [not_or, List.length_eq_zero_iff] using some

/-! ### The statistic -/

/-- `U` of the first sample. -/
def uOf (a b : List ℚ) : ℚ := (twicePairs a b : ℚ) / 2

def meanU (nA nB : ℕ) : ℚ := ((nA * nB : ℕ) : ℚ) / 2

lemma scoreAgainst_eq (pooled : List ℚ) (v : ℚ) :
    scoreAgainst pooled v = 2 * pooled.countP (· < v) + pooled.countP (· = v) := by
  induction pooled with
  | nil => rfl
  | cons y pooled ih =>
    rw [scoreAgainst, List.map_cons, List.sum_cons, List.countP_cons, List.countP_cons]
    have rest : (pooled.map (twiceScore v)).sum = _ := ih
    rw [rest]
    rcases lt_trichotomy y v with h | h | h
    · simp [twiceScore, h, ne_of_lt h]
      omega
    · simp [twiceScore, h]
      omega
    · simp [twiceScore, not_lt_of_gt h, ne_of_gt h]

lemma twiceMidrank_eq (pooled : List ℚ) (i : ℕ) :
    twiceMidrank (position pooled) pooled.length i = scoreAgainst pooled (position pooled i) + 1 := by
  rw [twiceMidrank, count_position (fun v => v < position pooled i),
    count_position (fun v => v = position pooled i), scoreAgainst_eq]

lemma map_position (a b : List ℚ) : (List.range a.length).map (position (a ++ b)) = a := by
  refine List.ext_getElem (by simp) ?_
  intro i hi hi'
  simp [position, List.getD_eq_getElem?_getD, List.getElem?_append_left hi', hi']

lemma map_over_positions {β : Type} (f : ℚ → β) (a b : List ℚ) :
    a.map f = (List.range a.length).map (fun i => f (position (a ++ b) i)) := by
  conv_lhs => rw [← map_position a b, List.map_map]
  rfl

/-- The rank sum of the first sample. -/
theorem rankSum_eq (a b : List ℚ) :
    ((midranks (a ++ b)).ranks.take a.length).sum =
      ((a.length * (a.length + 1) : ℕ) : ℚ) / 2 + uOf a b := by
  have ranks : (midranks (a ++ b)).ranks.take a.length =
      a.map (fun v => ((scoreAgainst (a ++ b) v + 1 : ℕ) : ℚ) / 2) := by
    rw [midranks_spec, ← List.map_take, List.take_range, List.length_append,
      Nat.min_eq_left (Nat.le_add_right _ _)]
    rw [map_over_positions _ a b]
    refine List.map_congr_left ?_
    intro i _
    rw [← List.length_append, twiceMidrank_eq]
  have sum : ∀ l : List ℚ, (l.map (fun v => ((scoreAgainst (a ++ b) v + 1 : ℕ) : ℚ) / 2)).sum =
      (((l.map (scoreAgainst (a ++ b))).sum + l.length : ℕ) : ℚ) / 2 := by
    intro l
    induction l with
    | nil => simp
    | cons v l ih =>
      rw [List.map_cons, List.sum_cons, ih, List.map_cons, List.sum_cons, List.length_cons]
      push_cast
      ring
  rw [ranks, sum, sum_scoreAgainst_pooled, uOf]
  push_cast
  ring

/-- The count of the permutation test for the split that was observed. -/
theorem twiceU_eq (a b : List ℚ) :
    twiceU (position (a ++ b)) (a.length + b.length) (Finset.range a.length) = twicePairs a b := by
  have sub : Finset.range a.length ⊆ Finset.range (a.length + b.length) :=
    Finset.range_mono (Nat.le_add_right _ _)
  have ranks := sum_twiceMidrank (position (a ++ b)) (a.length + b.length) sub
  have pooled : ∑ i ∈ Finset.range a.length, twiceMidrank (position (a ++ b))
      (a.length + b.length) i = (a.map (fun v => scoreAgainst (a ++ b) v + 1)).sum := by
    rw [map_over_positions _ a b, sum_map_range, ← List.length_append]
    exact Finset.sum_congr rfl fun i _ => twiceMidrank_eq (a ++ b) i
  have scores := sum_scoreAgainst_pooled a b
  have ones : (a.map (fun v => scoreAgainst (a ++ b) v + 1)).sum =
      (a.map (scoreAgainst (a ++ b))).sum + a.length := by
    simp [List.sum_map_add]
  rw [pooled, ones, scores, Finset.card_range, Nat.mul_add] at ranks
  omega

lemma deviation_eq (a b : List ℚ) :
    deviation (position (a ++ b)) (a.length + b.length) a.length (Finset.range a.length) =
      |uOf a b - meanU a.length b.length| := by
  rw [deviation, mannWhitney, twiceU_eq, uOf, meanU]
  push_cast
  ring_nf

lemma uOf_add_swap (a b : List ℚ) : uOf a b + uOf b a = ((a.length * b.length : ℕ) : ℚ) := by
  have both : ((twicePairs a b + twicePairs b a : ℕ) : ℚ) = ((2 * (a.length * b.length) : ℕ) : ℚ) :=
    congrArg Nat.cast (twicePairs_swap a b)
  push_cast at both ⊢
  rw [uOf, uOf]
  linarith

/-! ### The asymptotic branch -/

/-- The tie-corrected variance. -/
def varianceOf (a b : List ℚ) : ℚ :=
  let N := a.length + b.length
  ((a.length * b.length : ℕ) : ℚ) / 12 *
    ((N : ℚ) + 1 - (midranks (a ++ b)).tieCorrection / ((N : ℚ) * ((N : ℚ) - 1)))

/-- The two-sided normal tail at a deviation from the mean. -/
def normalP (tail : NormalTail) (variance dev : ℚ) : ℚ :=
  min 1 (2 * (1 - tail.normalCdf (max 0 (dev - 1 / 2) / tail.sqrt variance)))

lemma statistic_eq (a b : List ℚ) :
    ((midranks (a ++ b)).ranks.take a.length).sum - ((a.length * (a.length + 1) : ℕ) : ℚ) / 2 =
      uOf a b := by
  rw [rankSum_eq]
  ring

/-- The smaller of `U` and its mirror image stands as far from the mean as `U`. -/
lemma abs_min_sub_mean (u m : ℚ) : |min u (m - u) - m / 2| = |u - m / 2| := by
  rcases le_total u (m - u) with h | h
  · rw [min_eq_left h]
  · rw [min_eq_right h, abs_sub_comm]
    congr 1
    ring

/-- The tie correction reads the values in order and nothing of their positions. -/
lemma rankTies_tieCorrection (i i' : ℕ) {l l' : List (ℚ × ℕ)} {acc acc' : Midranks}
    (values : l.map Prod.fst = l'.map Prod.fst) (same : acc.tieCorrection = acc'.tieCorrection) :
    (rankTies i l acc).tieCorrection = (rankTies i' l' acc').tieCorrection := by
  induction hn : l.length using Nat.strong_induction_on generalizing i i' l l' acc acc' with
  | _ n ih =>
  cases l with
  | nil =>
    obtain rfl : l' = [] := List.map_eq_nil_iff.mp values.symm
    rw [rankTies, rankTies]
    exact same
  | cons head tail =>
    cases l' with
    | nil => cases values
    | cons head' tail' =>
      obtain ⟨value, index⟩ := head
      obtain ⟨value', index'⟩ := head'
      simp only [List.map_cons, List.cons.injEq] at values
      obtain ⟨rfl, values⟩ := values
      have group : (tail.takeWhile (fun e => e.1 == value)).length =
          (tail'.takeWhile (fun e => e.1 == value)).length := by
        have taken := congrArg (List.takeWhile (fun v => v == value)) values
        rw [List.takeWhile_map, List.takeWhile_map] at taken
        simpa [Function.comp_def] using congrArg List.length taken
      have rest : (tail.dropWhile (fun e => e.1 == value)).map Prod.fst =
          (tail'.dropWhile (fun e => e.1 == value)).map Prod.fst := by
        have dropped := congrArg (List.dropWhile (fun v => v == value)) values
        rwa [List.dropWhile_map, List.dropWhile_map] at dropped
      have shorter : (tail.dropWhile (fun e => e.1 == value)).length < n := by
        have := (List.dropWhile_sublist (fun e : ℚ × ℕ => e.1 == value) (l := tail)).length_le
        rw [List.length_cons] at hn
        omega
      rw [rankTies, rankTies]
      refine ih _ shorter _ _ rest ?_ rfl
      simp only [List.length_cons, group, same]

lemma order_eq_of_perm {pooled pooled' : List ℚ} (h : pooled.Perm pooled') :
    (order pooled).map Prod.fst = (order pooled').map Prod.fst := by
  have sorted : ∀ l : List ℚ, ((order l).map Prod.fst).Pairwise (· ≤ ·) :=
    fun l => List.pairwise_map.mpr (order_sorted l)
  refine List.Perm.eq_of_pairwise (fun a b _ _ => le_antisymm) (sorted _) (sorted _) ?_
  exact ((order_values pooled).trans h).trans (order_values pooled').symm

lemma tieCorrection_perm {pooled pooled' : List ℚ} (h : pooled.Perm pooled') :
    (midranks pooled).tieCorrection = (midranks pooled').tieCorrection :=
  rankTies_tieCorrection 0 0 (order_eq_of_perm h) rfl

/-- Relabelling the pooled values leaves the variance. -/
theorem varianceOf_relabel {a b a' b' : List ℚ} (split : (a' ++ b').Perm (a ++ b))
    (size : a'.length = a.length) : varianceOf a' b' = varianceOf a b := by
  have length := split.length_eq
  rw [List.length_append, List.length_append] at length
  have size' : b'.length = b.length := by omega
  rw [varianceOf, varianceOf, size, size', tieCorrection_perm split]

theorem mannWhitneyU_asymptotic (tail : NormalTail) {a b : List ℚ} (ha : a ≠ []) (hb : b ≠ [])
    (many : maxExactN < a.length + b.length) :
    ∃ test, mannWhitneyU tail a b = .ok test ∧
      test.pValue = (if varianceOf a b ≤ 0 then 1 else
        normalP tail (varianceOf a b) |uOf a b - meanU a.length b.length|) ∧
      test.minAttainablePValue = (if varianceOf a b ≤ 0 then 1 else
        normalP tail (varianceOf a b) (meanU a.length b.length)) := by
  have nonempty : ¬ (a.length = 0 ∨ b.length = 0) := by
    simp [List.length_eq_zero_iff, ha, hb]
  rw [mannWhitneyU, if_neg nonempty]
  dsimp only
  rw [if_neg (not_le.mpr many), statistic_eq, abs_min_sub_mean]
  split
  · rename_i flat
    have flat : varianceOf a b ≤ 0 := flat
    rw [if_pos flat, if_pos flat]
    exact ⟨_, rfl, rfl, rfl⟩
  · rename_i spread
    have spread : ¬ varianceOf a b ≤ 0 := spread
    rw [if_neg spread, if_neg spread]
    exact ⟨_, rfl, rfl, rfl⟩

/-- A test whose statistic stands on its mean finds nothing. -/
theorem pValue_of_mean {tail : NormalTail} {a b : List ℚ} {test : RankSum}
    (h : mannWhitneyU tail a b = .ok test) (centred : tail.normalCdf 0 ≤ 9 / 10)
    (mean : uOf a b = meanU a.length b.length) : 1 / 5 ≤ test.pValue := by
  obtain ⟨ha, hb⟩ := nonempty_of_ok h
  rcases le_or_gt (a.length + b.length) maxExactN with few | many
  · obtain ⟨⟨test', ran, _, p, _⟩, _⟩ := mannWhitneyU_exact tail a b ha hb few
    obtain rfl := Except.ok.inj (ran.symm.trans h)
    have zero := deviation_eq a b
    rw [mean, sub_self, abs_zero] at zero
    rw [p, permutationP_of_deviation_eq_zero _ (Nat.le_add_right _ _) zero]
    norm_num
  · obtain ⟨test', ran, p, _⟩ := mannWhitneyU_asymptotic tail ha hb many
    obtain rfl := Except.ok.inj (ran.symm.trans h)
    rw [p]
    split
    · norm_num
    · rw [mean, sub_self, abs_zero, normalP]
      norm_num
      linarith

end RankSumPairs
