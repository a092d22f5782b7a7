import SandboxBenchmarks.RankSumPairs

/-!
# What a rank-sum test could have returned

The levels a comparison could have reached: those above the `p`-value of some
relabelling of its values. On the exact branch the floor the test reports is one of
these `p`-values. Past it the floor is the tail at `U = 0`, which ties can keep every
relabelling from reaching; the furthest deviation is then read off the sorted values.
-/

namespace RankSumPower

open PairCounts PermutationTest RankSumExact RankSumPairs RankSumTest

/-- Some relabelling of the values, in groups of the same sizes, tests below the level. -/
def CouldReach (tail : NormalTail) (level : ℚ) (a b : List ℚ) : Prop :=
  ∃ a' b', (a' ++ b').Perm (a ++ b) ∧ a'.length = a.length ∧
    ∃ test, mannWhitneyU tail a' b' = .ok test ∧ test.pValue < level

/-! ### The exact branch -/

/-- The values of a relabelling, and the others. -/
lemma exists_relabelled (pooled : List ℚ) {n : ℕ} {T : Finset ℕ}
    (hT : T ∈ relabellings pooled.length n) :
    ∃ a b, (a ++ b).Perm pooled ∧ a.length = n ∧
      permutationP (position (a ++ b)) pooled.length n (Finset.range n) =
        permutationP (position pooled) pooled.length n T := by
  obtain ⟨sub, card⟩ := Finset.mem_powersetCard.mp hT
  set order := T.toList ++ (Finset.range pooled.length \ T).toList with horder
  have nodup : order.Nodup := by
    refine List.nodup_append'.mpr ⟨T.nodup_toList, Finset.nodup_toList _, ?_⟩
    intro i hi hi'
    exact (Finset.mem_sdiff.mp (Finset.mem_toList.mp hi')).2 (Finset.mem_toList.mp hi)
  have members : ∀ i, i ∈ order ↔ i < pooled.length := by
    intro i
    rw [horder, List.mem_append, Finset.mem_toList, Finset.mem_toList, Finset.mem_sdiff,
      Finset.mem_range]
    constructor
    · rintro (inside | ⟨below, _⟩)
      · exact Finset.mem_range.mp (sub inside)
      · exact below
    · intro below
      by_cases inside : i ∈ T
      · exact Or.inl inside
      · exact Or.inr ⟨below, inside⟩
  have perm : order.Perm (List.range pooled.length) :=
    (List.perm_ext_iff_of_nodup nodup List.nodup_range).mpr
      (fun i => (members i).trans List.mem_range.symm)
  have length : order.length = pooled.length := perm.length_eq.trans List.length_range
  have values : (T.toList.map (position pooled) ++
      (Finset.range pooled.length \ T).toList.map (position pooled)) =
      order.map (position pooled) := (List.map_append).symm
  -- positions past the end stay past the end
  let σ : ℕ → ℕ := fun i => order.getD i pooled.length
  have σ_at : ∀ i (h : i < order.length), σ i = order[i] := by
    intro i h
    simp [σ, h]
  have renumbered : position (order.map (position pooled)) = fun i => position pooled (σ i) := by
    funext i
    by_cases h : i < order.length
    · simp [position, σ, h]
    · simp [position, σ, h]
  refine ⟨T.toList.map (position pooled),
    (Finset.range pooled.length \ T).toList.map (position pooled), ?_, ?_, ?_⟩
  · rw [values]
    have whole := map_position pooled []
    rw [List.append_nil] at whole
    conv_rhs => rw [← whole]
    exact perm.map _
  · rw [List.length_map, Finset.length_toList, card]
  · have maps : ∀ i < pooled.length, σ i < pooled.length := by
      intro i h
      rw [σ_at i (length ▸ h)]
      exact (members _).mp (List.getElem_mem _)
    have inj : Set.InjOn σ (Finset.range pooled.length) := by
      intro i hi j hj same
      rw [Finset.coe_range, Set.mem_Iio] at hi hj
      rw [σ_at i (length ▸ hi), σ_at j (length ▸ hj)] at same
      exact (List.Nodup.getElem_inj_iff nodup).mp same
    have few : n ≤ pooled.length := by
      rw [← card, ← Finset.card_range pooled.length]
      exact Finset.card_le_card sub
    have first : (Finset.range n).image σ = T := by
      refine Finset.eq_of_subset_of_card_le ?_ ?_
      · intro j hj
        obtain ⟨i, hi, rfl⟩ := Finset.mem_image.mp hj
        rw [Finset.mem_range] at hi
        rw [σ_at i (length ▸ hi.trans_le few)]
        have front : i < T.toList.length := by rwa [Finset.length_toList, card]
        simp only [horder, List.getElem_append_left front]
        exact Finset.mem_toList.mp (List.getElem_mem _)
      · rw [Finset.card_image_of_injOn (inj.mono ?_), Finset.card_range, card]
        intro i hi
        rw [Finset.coe_range, Set.mem_Iio] at hi ⊢
        exact hi.trans_le few
    have below : Finset.range n ⊆ Finset.range pooled.length := Finset.range_mono few
    rw [values, renumbered, permutationP_renumber maps inj _ _ below, first]

/-- The floor of an exact test is the `p`-value of some relabelling. -/
theorem couldReach_exact {tail : NormalTail} {level : ℚ} {a b : List ℚ} {test : RankSum}
    (h : mannWhitneyU tail a b = .ok test) (few : a.length + b.length ≤ maxExactN)
    (able : test.minAttainablePValue < level) : CouldReach tail level a b := by
  obtain ⟨ha, hb⟩ := nonempty_of_ok h
  obtain ⟨⟨r, ran, _, _, least⟩, _⟩ := mannWhitneyU_exact tail a b ha hb few
  obtain rfl := Except.ok.inj (ran.symm.trans h)
  obtain ⟨T, hT, floor⟩ := least.1
  rw [← List.length_append] at hT floor
  obtain ⟨a', b', perm, size, same⟩ := exists_relabelled (a ++ b) hT
  have length := perm.length_eq
  rw [List.length_append, List.length_append] at length
  have size' : b'.length = b.length := by omega
  have ha' : a' ≠ [] := by
    rw [← List.length_pos_iff, size, List.length_pos_iff]
    exact ha
  have hb' : b' ≠ [] := by
    rw [← List.length_pos_iff, size', List.length_pos_iff]
    exact hb
  obtain ⟨⟨test', ran', _, p', _⟩, _⟩ :=
    mannWhitneyU_exact tail a' b' ha' hb' (size.symm ▸ size'.symm ▸ few)
  refine ⟨a', b', perm, size, test', ran', ?_⟩
  rw [p', size, size', ← List.length_append, same, ← floor]
  exact able

/-! ### The asymptotic branch -/

/-- The pooled values in order. -/
def sortedUnits (a b : List ℚ) : List ℚ := (a ++ b).insertionSort (· ≤ ·)

/-- The largest distance of `U` from its mean: one side takes the lowest values, and the ties
across the cut count half. -/
def furthestDeviation (a b : List ℚ) : ℚ :=
  meanU a.length b.length -
    (min (tiesAcross (sortedUnits a b) a.length) (tiesAcross (sortedUnits a b) b.length) : ℕ) / 2

section
variable {tail : NormalTail} (cdf : Monotone tail.normalCdf) (sqrt : ∀ v, 0 < v → 0 ≤ tail.sqrt v)
include cdf sqrt

lemma normalP_anti {variance : ℚ} (spread : 0 < variance) {d d' : ℚ} (h : d ≤ d') :
    normalP tail variance d' ≤ normalP tail variance d := by
  have scaled : max 0 (d - 1 / 2) / tail.sqrt variance ≤ max 0 (d' - 1 / 2) / tail.sqrt variance := by
    refine div_le_div_of_nonneg_right (max_le_max le_rfl ?_) (sqrt variance spread)
    linarith
  have below := cdf scaled
  exact min_le_min le_rfl (by linarith)

/-- Past the exact sizes a level is within reach when the furthest deviation reaches it. -/
theorem couldReach_asymptotic {level : ℚ} {a b : List ℚ} (ha : a ≠ []) (hb : b ≠ [])
    (many : maxExactN < a.length + b.length) (spread : 0 < varianceOf a b) :
    CouldReach tail level a b ↔ normalP tail (varianceOf a b) (furthestDeviation a b) < level := by
  have sorted : (sortedUnits a b).Pairwise (· ≤ ·) := List.pairwise_insertionSort _ _
  have perm : (sortedUnits a b).Perm (a ++ b) := List.perm_insertionSort _ _
  have pooledLength : (sortedUnits a b).length = a.length + b.length := by
    rw [perm.length_eq, List.length_append]
  have returned : ∀ a' b' : List ℚ, (a' ++ b').Perm (a ++ b) → a'.length = a.length →
      ∃ test, mannWhitneyU tail a' b' = .ok test ∧
        test.pValue = normalP tail (varianceOf a b) |uOf a' b' - meanU a.length b.length| := by
    intro a' b' split size
    have length := split.length_eq
    rw [List.length_append, List.length_append] at length
    have size' : b'.length = b.length := by omega
    have ha' : a' ≠ [] := by rwa [← List.length_pos_iff, size, List.length_pos_iff]
    have hb' : b' ≠ [] := by rwa [← List.length_pos_iff, size', List.length_pos_iff]
    obtain ⟨test, ran, p, _⟩ :=
      mannWhitneyU_asymptotic tail ha' hb' (size.symm ▸ size'.symm ▸ many)
    rw [varianceOf_relabel split size, if_neg (not_le.mpr spread), size, size'] at p
    exact ⟨test, ran, p⟩
  constructor
  · rintro ⟨a', b', split, size, test, ran, below⟩
    obtain ⟨test', ran', p⟩ := returned a' b' split size
    obtain rfl := Except.ok.inj (ran'.symm.trans ran)
    refine lt_of_le_of_lt ?_ below
    rw [p]
    refine normalP_anti cdf sqrt spread ?_
    have length := split.length_eq
    rw [List.length_append, List.length_append] at length
    have size' : b'.length = b.length := by omega
    obtain ⟨low, high⟩ := twicePairs_between sorted (split.trans perm.symm)
    rw [size] at low
    rw [size, size'] at high
    have atLeast : ((min (tiesAcross (sortedUnits a b) a.length)
        (tiesAcross (sortedUnits a b) b.length) : ℕ) : ℚ) ≤ twicePairs a' b' := by
      exact_mod_cast (min_le_left _ _).trans low
    have atMost : (twicePairs a' b' : ℚ) + (min (tiesAcross (sortedUnits a b) a.length)
        (tiesAcross (sortedUnits a b) b.length) : ℕ) ≤ 2 * ((a.length * b.length : ℕ) : ℚ) := by
      exact_mod_cast (Nat.add_le_add_left (min_le_right _ _) _).trans high
    rw [furthestDeviation, uOf, meanU, abs_le]
    constructor
    · linarith
    · linarith
  · intro below
    rcases le_total (tiesAcross (sortedUnits a b) a.length) (tiesAcross (sortedUnits a b) b.length)
      with fewer | fewer
    · -- the lowest values to the first side
      have split : ((sortedUnits a b).take a.length ++ (sortedUnits a b).drop a.length).Perm
          (a ++ b) := by
        rwa [List.take_append_drop]
      obtain ⟨test, ran, p⟩ := returned _ _ split (by rw [List.length_take]; omega)
      refine ⟨_, _, split, by rw [List.length_take]; omega, test, ran, ?_⟩
      refine lt_of_le_of_lt ?_ below
      rw [p]
      refine normalP_anti cdf sqrt spread ?_
      rw [furthestDeviation, min_eq_left fewer, uOf, twicePairs_lowest sorted]
      exact (neg_sub _ _).symm.le.trans (neg_le_abs _)
    · -- the lowest values to the second side
      have split : ((sortedUnits a b).drop b.length ++ (sortedUnits a b).take b.length).Perm
          (a ++ b) := by
        refine List.perm_append_comm.trans ?_
        rwa [List.take_append_drop]
      have size : ((sortedUnits a b).drop b.length).length = a.length := by
        rw [List.length_drop]
        omega
      have size' : ((sortedUnits a b).take b.length).length = b.length := by
        rw [List.length_take]
        omega
      obtain ⟨test, ran, p⟩ := returned _ _ split size
      refine ⟨_, _, split, size, test, ran, ?_⟩
      refine lt_of_le_of_lt ?_ below
      rw [p]
      refine normalP_anti cdf sqrt spread ((le_of_eq ?_).trans (le_abs_self _))
      have high := twicePairs_highest sorted b.length
      rw [size, size'] at high
      have high : (twicePairs ((sortedUnits a b).drop b.length) ((sortedUnits a b).take b.length) :
          ℚ) + tiesAcross (sortedUnits a b) b.length = 2 * ((a.length * b.length : ℕ) : ℚ) := by
        exact_mod_cast high
      rw [furthestDeviation, min_eq_right fewer, uOf, meanU]
      linarith

end

/-- Where complete separation would pass the level, the furthest relabelling does. -/
def FloorAttained (tail : NormalTail) (level : ℚ) (a b : List ℚ) : Prop :=
  maxExactN < a.length + b.length → 0 < varianceOf a b →
    normalP tail (varianceOf a b) (meanU a.length b.length) < level →
    normalP tail (varianceOf a b) (furthestDeviation a b) < level

/-- A floor below the level speaks for some relabelling exactly when the sorted values allow it. -/
theorem couldReach_iff {tail : NormalTail} (cdf : Monotone tail.normalCdf)
    (sqrt : ∀ v, 0 < v → 0 ≤ tail.sqrt v) {level : ℚ} (small : level ≤ 1) {a b : List ℚ} {test : RankSum}
    (h : mannWhitneyU tail a b = .ok test) :
    (test.minAttainablePValue < level → CouldReach tail level a b) ↔
      FloorAttained tail level a b := by
  rcases le_or_gt (a.length + b.length) maxExactN with few | many
  · constructor
    · intro _ many
      omega
    · intro _ able
      exact couldReach_exact h few able
  · obtain ⟨ha, hb⟩ := nonempty_of_ok h
    obtain ⟨test', ran, _, floor⟩ := mannWhitneyU_asymptotic tail ha hb many
    obtain rfl := Except.ok.inj (ran.symm.trans h)
    rcases le_or_gt (varianceOf a b) 0 with flat | spread
    · rw [if_pos flat] at floor
      constructor
      · intro _ _ spread
        linarith
      · intro _ able
        linarith
    · rw [if_neg (not_le.mpr spread)] at floor
      rw [floor, couldReach_asymptotic cdf sqrt ha hb many spread]
      exact ⟨fun reach _ _ => reach, fun attained => attained many spread⟩

end RankSumPower
