import Mathlib.Data.List.GetD
import SandboxBenchmarks.Leaderboard
import SandboxBenchmarks.Library.Interpolation
import SandboxBenchmarks.Library.OrderStatistics
import SandboxBenchmarks.Library.RunningMoments
import SandboxBenchmarks.RunModel

/-!
# The distribution of a sample

The whole of `aggregate` in `packages/schema/src/analysis.ts`, with the square
root as a parameter. Numbers are exact and finite by type.
-/

namespace AggregateSamples

open Checks Interpolation OrderStatistics RunModel RunningMoments

/-- The canonical distribution. -/
structure Distribution where
  p50 : ℚ
  p95 : ℚ
  mean : ℚ
  stdev : ℚ
  min : ℚ
  max : ℚ
  n : ℕ
deriving DecidableEq, Repr

/-- The double nearest to 0.95. -/
def ninetyFifth : ℚ := Leaderboard.defaultLevel

def aggregate (sqrt : ℚ → ℚ) (samples : List ℚ) : Except String Distribution := do
  throwIf (samples.length = 0) "aggregate() requires at least one sample"
  let sorted := sort samples
  let moments := RunningMoments.ofList sorted
  return {
    p50 := percentile sorted (1 / 2)
    p95 := percentile sorted ninetyFifth
    mean := moments.mean
    stdev := sqrt (if 1 < moments.n then moments.m2 / (moments.n - 1) else 0)
    min := percentile sorted 0
    max := percentile sorted 1
    n := moments.n }

/-! ### Percentiles -/

variable {sorted : List ℚ} {p q : ℚ}

/-- The sorted values, the last of them forever after. -/
def ladder (sorted : List ℚ) (i : ℕ) : ℚ := sorted.getD (Min.min i (sorted.length - 1)) 0

lemma ladder_monotone (order : sorted.Pairwise (· ≤ ·)) : Monotone (ladder sorted) := by
  intro i j le
  cases sorted with
  | nil => exact le_refl _
  | cons x l =>
    have hi : Min.min i ((x :: l).length - 1) < (x :: l).length := by
      rw [List.length_cons]
      omega
    have hj : Min.min j ((x :: l).length - 1) < (x :: l).length := by
      rw [List.length_cons]
      omega
    rw [ladder, ladder, List.getD_eq_getElem _ _ hi, List.getD_eq_getElem _ _ hj]
    rcases (min_le_min_right ((x :: l).length - 1) le).lt_or_eq with less | same
    · exact List.pairwise_iff_getElem.mp order _ _ hi hj less
    · simp only [same, le_refl]

/-- Up to one a percentile is a reading between sorted values. -/
lemma percentile_eq_between (nonempty : sorted ≠ []) (high : p ≤ 1) :
    percentile sorted p = between (ladder sorted) (((sorted.length : ℚ) - 1) * p) := by
  have length : 1 ≤ sorted.length := List.length_pos_iff.mpr nonempty
  have size : ((sorted.length - 1 : ℕ) : ℚ) = (sorted.length : ℚ) - 1 := by
    rw [Nat.cast_sub length, Nat.cast_one]
  have within : ((sorted.length : ℚ) - 1) * p ≤ (sorted.length - 1 : ℕ) := by
    have nonneg : 0 ≤ (sorted.length : ℚ) - 1 := by
      rw [← size]
      exact Nat.cast_nonneg _
    rw [size]
    exact mul_le_of_le_one_right nonneg high
  have ceil := Nat.ceil_le.mpr within
  have floor := (Nat.floor_le_ceil (((sorted.length : ℚ) - 1) * p)).trans ceil
  rw [percentile, between, ladder, ladder, min_eq_left ceil, min_eq_left floor,
    List.getD_eq_getElem _ _ (show ⌈((sorted.length : ℚ) - 1) * p⌉₊ < sorted.length by omega),
    List.getD_eq_getElem _ _ (show ⌈((sorted.length : ℚ) - 1) * p⌉₊ < sorted.length by omega)]

lemma percentile_mono (order : sorted.Pairwise (· ≤ ·)) (nonempty : sorted ≠ []) (low : 0 ≤ p)
    (le : p ≤ q) (high : q ≤ 1) : percentile sorted p ≤ percentile sorted q := by
  have length : 1 ≤ sorted.length := List.length_pos_iff.mpr nonempty
  have nonneg : 0 ≤ (sorted.length : ℚ) - 1 := by
    rw [sub_nonneg]
    exact_mod_cast length
  rw [percentile_eq_between nonempty (le.trans high),
    percentile_eq_between nonempty high]
  exact between_mono (ladder_monotone order) (mul_nonneg nonneg low)
    (mul_le_mul_of_nonneg_left le nonneg)

lemma percentile_zero (nonempty : sorted ≠ []) : percentile sorted 0 = sorted.head nonempty := by
  rw [percentile_eq_between nonempty zero_le_one, mul_zero]
  have first := between_natCast (ladder sorted) 0
  rw [Nat.cast_zero] at first
  rw [first, ladder, Nat.zero_min]
  cases sorted with
  | nil => exact absurd rfl nonempty
  | cons x l => rfl

lemma percentile_one (nonempty : sorted ≠ []) : percentile sorted 1 = sorted.getLast nonempty := by
  have length : 1 ≤ sorted.length := List.length_pos_iff.mpr nonempty
  have size : (sorted.length : ℚ) - 1 = (sorted.length - 1 : ℕ) := by
    rw [Nat.cast_sub length, Nat.cast_one]
  rw [percentile_eq_between nonempty (le_refl 1), mul_one, size, between_natCast, ladder,
    min_self, List.getD_eq_getElem _ _ (by omega), List.getLast_eq_getElem]

/-- No percentile leaves the range of the sorted values. -/
lemma percentile_mem_range (order : sorted.Pairwise (· ≤ ·)) (nonempty : sorted ≠ []) (low : 0 ≤ p)
    (high : p ≤ 1) : sorted.head nonempty ≤ percentile sorted p ∧
      percentile sorted p ≤ sorted.getLast nonempty := by
  constructor
  · rw [← percentile_zero nonempty]
    exact percentile_mono order nonempty (le_refl 0) low high
  · rw [← percentile_one nonempty]
    exact percentile_mono order nonempty low high (le_refl 1)

/-! ### The moments -/

def meanOf (samples : List ℚ) : ℚ := samples.sum / samples.length

/-- The unbiased estimate. -/
def sampleVariance (samples : List ℚ) : ℚ :=
  squares samples (meanOf samples) / ((samples.length : ℚ) - 1)

variable {samples samples' : List ℚ}

lemma meanOf_sort (samples : List ℚ) : meanOf (sort samples) = meanOf samples := by
  rw [meanOf, meanOf, (sort_perm samples).sum_eq, length_sort]

lemma sampleVariance_sort (samples : List ℚ) :
    sampleVariance (sort samples) = sampleVariance samples := by
  have same : squares (sort samples) (meanOf samples) = squares samples (meanOf samples) :=
    ((sort_perm samples).map _).sum_eq
  rw [sampleVariance, sampleVariance, meanOf_sort, same, length_sort]

lemma sort_ne_nil (nonempty : samples ≠ []) : sort samples ≠ [] := by
  rw [← List.length_pos_iff, length_sort]
  exact List.length_pos_iff.mpr nonempty

/-- The recurrence ends with the batch formulas. -/
lemma moments_textbook (nonempty : samples ≠ []) :
    (ofList (sort samples)).mean = meanOf samples ∧
      (ofList (sort samples)).m2 / (((ofList (sort samples)).n : ℚ) - 1) = sampleVariance samples ∧
      (ofList (sort samples)).n = samples.length := by
  have mean : (ofList (sort samples)).mean = meanOf (sort samples) :=
    ofList_mean (sort_ne_nil nonempty)
  have count := (keeps_ofList (sort samples)).count
  refine ⟨by rw [mean, meanOf_sort], ?_, by rw [count, length_sort]⟩
  rw [← sampleVariance_sort, sampleVariance, ofList_m2, mean, count]

/-- What the textbook says of a distribution. -/
structure Textbook (sqrt : ℚ → ℚ) (samples : List ℚ) (d : Distribution) : Prop where
  mean : d.mean = meanOf samples
  stdev : d.stdev = sqrt (if 1 < samples.length then sampleVariance samples else 0)
  count : d.n = samples.length
  min_mem : d.min ∈ samples
  min_le : ∀ x ∈ samples, d.min ≤ x
  max_mem : d.max ∈ samples
  le_max : ∀ x ∈ samples, x ≤ d.max

lemma head_le_of_sorted (order : sorted.Pairwise (· ≤ ·)) (nonempty : sorted ≠ []) {x : ℚ}
    (hx : x ∈ sorted) : sorted.head nonempty ≤ x ∧ x ≤ sorted.getLast nonempty := by
  obtain ⟨i, hi, rfl⟩ := List.mem_iff_getElem.mp hx
  rw [List.head_eq_getElem, List.getLast_eq_getElem]
  constructor
  · rcases (Nat.zero_le i).eq_or_lt with rfl | later
    · exact le_refl _
    · exact List.pairwise_iff_getElem.mp order _ _ _ hi later
  · rcases (Nat.le_sub_one_of_lt hi).eq_or_lt with rfl | earlier
    · exact le_refl _
    · exact List.pairwise_iff_getElem.mp order _ _ hi _ earlier

lemma aggregate_perm (sqrt : ℚ → ℚ) (perm : samples'.Perm samples) :
    aggregate sqrt samples' = aggregate sqrt samples := by
  rw [aggregate, aggregate, sort_eq_of_perm perm, perm.length_eq]

theorem aggregate_textbook (sqrt : ℚ → ℚ) {samples : List ℚ} (nonempty : samples ≠ []) :
    ∃ d, (∀ samples', samples'.Perm samples → aggregate sqrt samples' = .ok d) ∧
      Textbook sqrt samples d ∧ d.min ≤ d.p50 ∧ d.p50 ≤ d.p95 ∧ d.p95 ≤ d.max := by
  have some := sort_ne_nil nonempty
  have order := sort_sorted samples
  have level : 1 / 2 ≤ ninetyFifth ∧ ninetyFifth ≤ 1 := by decide +kernel
  obtain ⟨mean, variance, count⟩ := moments_textbook nonempty
  have ran : ∃ d, aggregate sqrt samples = .ok d := by
    rw [aggregate, throwIf, if_neg (by simpa using nonempty)]
    exact ⟨_, rfl⟩
  obtain ⟨d, ran⟩ := ran
  refine ⟨d, fun samples' perm => by rw [aggregate_perm sqrt perm, ran], ?_⟩
  rw [aggregate, throwIf, if_neg (by simpa using nonempty)] at ran
  obtain rfl := Except.ok.inj ran
  dsimp only
  refine ⟨⟨mean, ?_, count, ?_, ?_, ?_, ?_⟩, ?_, ?_, ?_⟩
  · dsimp only
    rw [variance, count]
  · dsimp only
    rw [percentile_zero some]
    exact mem_sort.mp (List.head_mem some)
  · intro x hx
    dsimp only
    rw [percentile_zero some]
    exact (head_le_of_sorted order some (mem_sort.mpr hx)).1
  · dsimp only
    rw [percentile_one some]
    exact mem_sort.mp (List.getLast_mem some)
  · intro x hx
    dsimp only
    rw [percentile_one some]
    exact (head_le_of_sorted order some (mem_sort.mpr hx)).2
  · exact percentile_mono order some (le_refl 0) (by norm_num) (by norm_num)
  · exact percentile_mono order some (by norm_num) level.1 level.2
  · exact percentile_mono order some (by linarith [level.1]) level.2 (le_refl 1)

/-- Four samples out of order, two of them equal. -/
theorem aggregate_textbook_four :
    ∃ d, (∀ samples', samples'.Perm [4, 1, 4, 2] → aggregate id samples' = .ok d) ∧
      Textbook id [4, 1, 4, 2] d ∧ d.min ≤ d.p50 ∧ d.p50 ≤ d.p95 ∧ d.p95 ≤ d.max :=
  aggregate_textbook id (by decide)

example : aggregate id [4, 1, 4, 2] =
    .ok ⟨3, 4, 11 / 4, 9 / 4, 1, 4, 4⟩ := by decide +kernel

/-- The part of the distribution that runs are modelled with. -/
theorem aggregate_runModel (sqrt : ℚ → ℚ) (samples : Samples) :
    ∃ d, aggregate sqrt samples.values = .ok d ∧
      RunModel.aggregate samples = ⟨d.p50, d.mean, d.n⟩ := by
  obtain ⟨mean, -, count⟩ := moments_textbook samples.nonempty
  rw [aggregate, throwIf, if_neg (by simpa using samples.nonempty)]
  refine ⟨_, rfl, ?_⟩
  rw [RunModel.aggregate, mean, count]
  rfl

end AggregateSamples
