import SandboxBenchmarks.BootstrapIntervals
import SandboxBenchmarks.Leaderboard
import SandboxBenchmarks.RankSumPower

/-!
# The rank-sum test does not depend on the order of its samples

`mannWhitneyU` and `clusterSeparation` of `packages/schema/src/analysis.ts` with
the two sides exchanged, on both branches of the test.
-/

namespace RankSumSymmetry

open AggregateSamples BootstrapIntervals Checks PermutationTest RankSumExact RankSumPairs RankSumPower RankSumTest

/-! ### Positions -/

/-- Where position `i` of the pool that starts with the other `m` values stands in the pool that
starts with these `n`. -/
def exchange (n m i : ℕ) : ℕ := if i < m then n + i else if i < n + m then i - m else i

lemma exchange_lt {n m i : ℕ} (h : i < n + m) : exchange n m i < n + m := by
  unfold exchange
  grind

lemma exchange_exchange (n m i : ℕ) : exchange n m (exchange m n i) = i := by
  unfold exchange
  grind

lemma exchange_injective (n m : ℕ) : Function.Injective (exchange n m) :=
  Function.LeftInverse.injective (g := exchange m n) (exchange_exchange m n)

lemma position_exchange (a b : List ℚ) :
    position (b ++ a) = fun i => position (a ++ b) (exchange a.length b.length i) := by
  funext i
  unfold position exchange
  split
  · rename_i first
    rw [List.getD_append _ _ _ _ first, List.getD_append_right _ _ _ _ (Nat.le_add_right _ _),
      Nat.add_sub_cancel_left]
  · rename_i later
    split
    · rename_i inside
      rw [List.getD_append_right _ _ _ _ (not_lt.mp later), List.getD_append _ _ _ _ (by omega)]
    · rename_i outside
      rw [List.getD_eq_default _ _ (by rw [List.length_append]; omega),
        List.getD_eq_default _ _ (by rw [List.length_append]; omega)]

lemma image_exchange_first (n m : ℕ) :
    (Finset.range m).image (exchange n m) = Finset.range (n + m) \ Finset.range n := by
  ext i
  simp only [Finset.mem_image, Finset.mem_range, Finset.mem_sdiff, not_lt]
  constructor
  · rintro ⟨j, below, rfl⟩
    rw [exchange, if_pos below]
    omega
  · rintro ⟨below, above⟩
    refine ⟨i - n, by omega, ?_⟩
    rw [exchange, if_pos (by omega)]
    omega

/-! ### The exact branch -/

variable {a b : List ℚ}

/-- A relabelling of one pool has the `p`-value of the corresponding one of the other. -/
lemma permutationP_exchange {T : Finset ℕ} (hT : T ⊆ Finset.range (b.length + a.length)) :
    permutationP (position (b ++ a)) (b.length + a.length) b.length T =
      permutationP (position (a ++ b)) (a.length + b.length) b.length
        (T.image (exchange a.length b.length)) := by
  rw [Nat.add_comm b.length] at hT ⊢
  rw [position_exchange a b]
  exact permutationP_renumber (fun i below => exchange_lt below)
    ((exchange_injective _ _).injOn) _ _ hT

lemma observed_mem (n m : ℕ) : Finset.range n ∈ relabellings (n + m) n :=
  Finset.mem_powersetCard.mpr
    ⟨Finset.range_mono (Nat.le_add_right n m), Finset.card_range n⟩

/-- Exchanging the sides leaves the observed `p`-value. -/
lemma permutationP_swap (a b : List ℚ) :
    permutationP (position (b ++ a)) (b.length + a.length) b.length (Finset.range b.length) =
      permutationP (position (a ++ b)) (a.length + b.length) a.length (Finset.range a.length) := by
  have other := permutationP_complement (x := position (a ++ b))
    (Nat.le_add_right a.length b.length) (observed_mem a.length b.length)
  rw [Nat.add_sub_cancel_left] at other
  rw [permutationP_exchange (Finset.range_mono (Nat.le_add_right _ _)), image_exchange_first, other]

/-- The `p`-values that the relabellings of a pool attain. -/
def attainable (a b : List ℚ) : Set ℚ :=
  {p | ∃ T ∈ relabellings (a.length + b.length) a.length,
    p = permutationP (position (a ++ b)) (a.length + b.length) a.length T}

lemma attainable_subset (a b : List ℚ) : attainable a b ⊆ attainable b a := by
  rintro p ⟨T, hT, rfl⟩
  have few := Nat.le_add_right a.length b.length
  have member := complement_mem_relabellings few hT
  rw [Nat.add_sub_cancel_left] at member
  obtain ⟨sub, card⟩ := Finset.mem_powersetCard.mp member
  set others := Finset.range (a.length + b.length) \ T with hothers
  have back : (others.image (exchange b.length a.length)).image (exchange a.length b.length) =
      others := by
    rw [Finset.image_image]
    exact (Finset.image_congr (fun i _ => exchange_exchange _ _ i)).trans Finset.image_id
  have inside : others.image (exchange b.length a.length) ⊆
      Finset.range (b.length + a.length) := by
    intro i hi
    obtain ⟨j, hj, rfl⟩ := Finset.mem_image.mp hi
    have below := Finset.mem_range.mp (sub hj)
    exact Finset.mem_range.mpr (exchange_lt (by omega))
  refine ⟨others.image (exchange b.length a.length), Finset.mem_powersetCard.mpr ⟨inside, ?_⟩, ?_⟩
  · rw [Finset.card_image_of_injective _ (exchange_injective _ _), card]
  · have same := permutationP_complement (x := position (a ++ b)) few hT
    rw [Nat.add_sub_cancel_left] at same
    rw [permutationP_exchange inside, back, same]

lemma attainable_swap (a b : List ℚ) : attainable a b = attainable b a :=
  Set.Subset.antisymm (attainable_subset a b) (attainable_subset b a)

/-! ### The asymptotic branch -/

lemma varianceOf_swap (a b : List ℚ) : varianceOf b a = varianceOf a b := by
  rw [varianceOf, varianceOf, tieCorrection_perm List.perm_append_comm, Nat.mul_comm b.length,
    Nat.add_comm b.length]

lemma meanU_comm (n m : ℕ) : meanU n m = meanU m n := by
  rw [meanU, meanU, Nat.mul_comm]

lemma deviation_swap (a b : List ℚ) :
    |uOf b a - meanU b.length a.length| = |uOf a b - meanU a.length b.length| := by
  have both := uOf_add_swap a b
  rw [meanU_comm b.length, abs_sub_comm (uOf a b)]
  congr 1
  rw [meanU]
  linarith

/-- The statistic is between no pair won and all of them. -/
lemma deviation_le_meanU (a b : List ℚ) :
    |uOf a b - meanU a.length b.length| ≤ meanU a.length b.length := by
  have nonneg (a b : List ℚ) : 0 ≤ uOf a b := by
    rw [uOf]
    positivity
  have both := uOf_add_swap a b
  have first := nonneg a b
  have second := nonneg b a
  rw [abs_le, meanU]
  constructor
  · linarith
  · linarith

lemma normalP_le_one (tail : NormalTail) (variance dev : ℚ) : normalP tail variance dev ≤ 1 :=
  min_le_left _ _

/-! ### The test -/

lemma method_eq {tail : NormalTail} {test : RankSum} (h : mannWhitneyU tail a b = .ok test) :
    test.method = if a.length + b.length ≤ maxExactN then .exact else .asymptotic := by
  rw [mannWhitneyU] at h
  split at h
  · cases h
  · dsimp only at h
    split at h
    · rename_i few
      rw [if_pos few]
      exact (Except.ok.inj h) ▸ rfl
    · rename_i many
      rw [if_neg many]
      split at h
      · exact (Except.ok.inj h) ▸ rfl
      · exact (Except.ok.inj h) ▸ rfl

/-- `uA`, before the smaller of the two is taken. -/
def uStatistic (a b : List ℚ) : ℚ :=
  ((midranks (a ++ b)).ranks.take a.length).sum - ((a.length * (a.length + 1) : ℕ) : ℚ) / 2

/-- Two results that differ in which side is which only. -/
structure Mirrored (test test' : RankSum) : Prop where
  pValue : test'.pValue = test.pValue
  minAttainablePValue : test'.minAttainablePValue = test.minAttainablePValue
  method : test'.method = test.method

lemma mirrored_exact {tail : NormalTail} (ha : a ≠ []) (hb : b ≠ [])
    (few : a.length + b.length ≤ maxExactN) :
    ∃ test test', mannWhitneyU tail a b = .ok test ∧ mannWhitneyU tail b a = .ok test' ∧
      Mirrored test test' ∧ test.minAttainablePValue ≤ test.pValue ∧ test.pValue ≤ 1 := by
  obtain ⟨⟨test, ran, method, p, least⟩, -⟩ := mannWhitneyU_exact tail a b ha hb few
  obtain ⟨⟨test', ran', method', p', least'⟩, -⟩ :=
    mannWhitneyU_exact tail b a hb ha (by rwa [Nat.add_comm])
  refine ⟨test, test', ran, ran', ⟨?_, ?_, method'.trans method.symm⟩, ?_, ?_⟩
  · rw [p, p', permutationP_swap]
  · have swapped : IsLeast (attainable b a) test.minAttainablePValue :=
      attainable_swap a b ▸ least
    exact least'.unique swapped
  · exact least.2 ⟨_, observed_mem a.length b.length, p⟩
  · rw [p]
    exact permutationP_le_one _ _ _ _

section
variable {tail : NormalTail} (cdf : Monotone tail.normalCdf) (sqrt : ∀ v, 0 < v → 0 ≤ tail.sqrt v)
include cdf sqrt

lemma mirrored_asymptotic (ha : a ≠ []) (hb : b ≠ []) (many : maxExactN < a.length + b.length) :
    ∃ test test', mannWhitneyU tail a b = .ok test ∧ mannWhitneyU tail b a = .ok test' ∧
      Mirrored test test' ∧ test.minAttainablePValue ≤ test.pValue ∧ test.pValue ≤ 1 := by
  obtain ⟨test, ran, p, floor⟩ := mannWhitneyU_asymptotic tail ha hb many
  have many' : maxExactN < b.length + a.length := by rwa [Nat.add_comm]
  obtain ⟨test', ran', p', floor'⟩ := mannWhitneyU_asymptotic tail hb ha many'
  refine ⟨test, test', ran, ran', ⟨?_, ?_, ?_⟩, ?_, ?_⟩
  · rw [p, p', varianceOf_swap, deviation_swap]
  · rw [floor, floor', varianceOf_swap, meanU_comm]
  · rw [method_eq ran, method_eq ran', Nat.add_comm]
  · rw [p, floor]
    split
    · exact le_refl 1
    · rename_i spread
      exact normalP_anti cdf sqrt (not_le.mp spread) (deviation_le_meanU a b)
  · rw [p]
    split
    · exact le_refl 1
    · exact normalP_le_one _ _ _

lemma mirrored (ha : a ≠ []) (hb : b ≠ []) :
    ∃ test test', mannWhitneyU tail a b = .ok test ∧ mannWhitneyU tail b a = .ok test' ∧
      Mirrored test test' ∧ test.minAttainablePValue ≤ test.pValue ∧ test.pValue ≤ 1 := by
  rcases le_or_gt (a.length + b.length) maxExactN with few | many
  · exact mirrored_exact ha hb few
  · exact mirrored_asymptotic cdf sqrt ha hb many

end

lemma uStatistic_add_swap (a b : List ℚ) :
    uStatistic a b + uStatistic b a = ((a.length * b.length : ℕ) : ℚ) := by
  rw [uStatistic, uStatistic, statistic_eq, statistic_eq, uOf_add_swap]

/-! ### The verdict -/

/-- What the test throws. -/
def thrown {α : Type} : Except String α → Except Failure α
  | .ok value => .ok value
  | .error message => .error (.thrown message)

def clusterSeparation (tail : NormalTail) (a b : List (List ℚ)) (options : Options) :
    Except Failure Leaderboard.ClusterSeparation := do
  assertReplicates "clusterSeparation" a
  assertReplicates "clusterSeparation" b
  let level ← coverageLevel "clusterSeparation" options
  let test ← thrown (mannWhitneyU tail (sandboxMedians a) (sandboxMedians b))
  return {
    level
    method := test.method
    pValue := test.pValue
    minAttainablePValue := test.minAttainablePValue
    separated := decide (test.pValue < 1 - level) }

lemma sandboxMedians_values (replicates : List RunModel.Samples) :
    sandboxMedians (replicates.map (·.values)) = Leaderboard.sandboxMedians replicates := by
  rw [sandboxMedians, List.map_map]
  rfl

/-- With samples that pass their checks and the default level it is the verdict rankings read. -/
theorem clusterSeparation_leaderboard (tail : NormalTail) (a b : List RunModel.Samples)
    (text : ℚ → String) :
    clusterSeparation tail (a.map (·.values)) (b.map (·.values)) ⟨none, none, text⟩ =
      thrown (Leaderboard.clusterSeparation tail a b) := by
  have checked (replicates : List RunModel.Samples) :
      assertReplicates "clusterSeparation" (replicates.map (·.values)) =
        thrown (throwIf (replicates.length = 0)
          "clusterSeparation() requires at least one replicate") := by
    by_cases none : replicates.length = 0
    · rw [assertReplicates, refuseIf, throwIf, throwIf, List.length_map, if_pos none, if_pos none]
      rfl
    · have all : assertReplicates "clusterSeparation" (replicates.map (·.values)) = .ok () := by
        refine assertReplicates_eq_ok.mpr ⟨?_, ?_⟩
        · simpa using none
        · intro replicate member
          obtain ⟨samples, -, rfl⟩ := List.mem_map.mp member
          exact samples.nonempty
      rw [all, throwIf, if_neg none]
      rfl
  have inside : 0 < ninetyFifth ∧ ninetyFifth < 1 := by decide +kernel
  have level : coverageLevel "clusterSeparation" ⟨none, none, text⟩ = .ok ninetyFifth :=
    coverageLevel_eq_ok.mpr ⟨inside, rfl⟩
  rw [clusterSeparation, Leaderboard.clusterSeparation, checked, checked, level,
    sandboxMedians_values, sandboxMedians_values]
  by_cases noneA : a.length = 0
  · simp [throwIf, noneA, thrown, bind, Except.bind]
  · by_cases noneB : b.length = 0
    · simp [throwIf, noneA, noneB, thrown, bind, Except.bind]
    · simp only [throwIf, if_neg noneA, if_neg noneB, thrown, ok_bind]
      cases mannWhitneyU tail (Leaderboard.sandboxMedians a) (Leaderboard.sandboxMedians b) with
      | error message => rfl
      | ok test => rfl

lemma clusterSeparation_eq_ok {tail : NormalTail} {a b : List (List ℚ)} {options : Options}
    {verdict : Leaderboard.ClusterSeparation} :
    clusterSeparation tail a b options = .ok verdict ↔
      Sampled a ∧ Sampled b ∧ ∃ level test, coverageLevel "clusterSeparation" options = .ok level ∧
        mannWhitneyU tail (sandboxMedians a) (sandboxMedians b) = .ok test ∧
        (⟨level, test.method, test.pValue, test.minAttainablePValue,
          decide (test.pValue < 1 - level)⟩ : Leaderboard.ClusterSeparation) = verdict := by
  have unthrown {test : RankSum} {result : Except String RankSum} :
      thrown result = .ok test ↔ result = .ok test := by
    cases result with
    | error message => simp [thrown]
    | ok value => simp [thrown]
  simp only [clusterSeparation, bind_eq_ok, assertReplicates_eq_ok, pure_eq_ok, unthrown]
  constructor
  · rintro ⟨-, first, -, second, level, covered, test, ran, rfl⟩
    exact ⟨first, second, level, test, covered, ran, rfl⟩
  · rintro ⟨first, second, level, test, covered, ran, rfl⟩
    exact ⟨(), first, (), second, level, covered, test, ran, rfl⟩

theorem mannWhitneyU_symmetric {tail : NormalTail} (cdf : Monotone tail.normalCdf)
    (sqrt : ∀ v, 0 < v → 0 ≤ tail.sqrt v) :
    (∀ a b : List ℚ, a ≠ [] → b ≠ [] → ∃ test test', mannWhitneyU tail a b = .ok test ∧
      mannWhitneyU tail b a = .ok test' ∧ Mirrored test test' ∧
      test.minAttainablePValue ≤ test.pValue ∧ test.pValue ≤ 1 ∧
      uStatistic a b + uStatistic b a = ((a.length * b.length : ℕ) : ℚ)) ∧
    ∀ (a b : List (List ℚ)) (options : Options) (verdict : Leaderboard.ClusterSeparation),
      clusterSeparation tail a b options = .ok verdict →
        clusterSeparation tail b a options = .ok verdict ∧
          (verdict.separated = true → verdict.minAttainablePValue < 1 - verdict.level) := by
  constructor
  · intro a b ha hb
    obtain ⟨test, test', ran, ran', same, floor, le_one⟩ := mirrored cdf sqrt ha hb
    exact ⟨test, test', ran, ran', same, floor, le_one, uStatistic_add_swap a b⟩
  · intro a b options verdict returned
    obtain ⟨sampledA, sampledB, level, test, covered, ran, rfl⟩ :=
      clusterSeparation_eq_ok.mp returned
    obtain ⟨test₁, test', ran₁, ran', ⟨p, least, method⟩, floor, -⟩ :=
      mirrored cdf sqrt (sandboxMedians_ne_nil sampledA.1) (sandboxMedians_ne_nil sampledB.1)
    obtain rfl := Except.ok.inj (ran.symm.trans ran₁)
    refine ⟨clusterSeparation_eq_ok.mpr ⟨sampledB, sampledA, level, test', covered, ran', ?_⟩,
      fun separated => ?_⟩
    · rw [p, least, method]
    · exact floor.trans_lt (of_decide_eq_true separated)

/-- A distribution function that rises on a line from 0 to 1 around zero. -/
def linearTail : NormalTail := ⟨id, fun z => max 0 (min 1 (1 / 2 + z / 4))⟩

theorem mannWhitneyU_symmetric_linear :
    (∀ a b : List ℚ, a ≠ [] → b ≠ [] → ∃ test test', mannWhitneyU linearTail a b = .ok test ∧
      mannWhitneyU linearTail b a = .ok test' ∧ Mirrored test test' ∧
      test.minAttainablePValue ≤ test.pValue ∧ test.pValue ≤ 1 ∧
      uStatistic a b + uStatistic b a = ((a.length * b.length : ℕ) : ℚ)) ∧
    ∀ (a b : List (List ℚ)) (options : Options) (verdict : Leaderboard.ClusterSeparation),
      clusterSeparation linearTail a b options = .ok verdict →
        clusterSeparation linearTail b a options = .ok verdict ∧
          (verdict.separated = true → verdict.minAttainablePValue < 1 - verdict.level) :=
  mannWhitneyU_symmetric
    (fun _ _ h => max_le_max le_rfl (min_le_min le_rfl (by linarith)))
    (fun _ h => h.le)

end RankSumSymmetry
