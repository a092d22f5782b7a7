import Mathlib.Data.List.GetD
import SandboxBenchmarks.LeaderboardRanking

/-!
# Which way a separation points

The order of the table comes from reported medians, the verdict from a two-sided test
that looks at the distance of `U` from its mean alone. A separation keeps `U` off its
mean, on either side. The median order still has a share in it: where the values are
medians of the tested units, the row above wins no less than an eighth of the pairs.
-/

namespace Leaderboard

open CanonicalJson Checks LeaderboardDatasets PairCounts PermutationTest RankSumExact RankSumPairs
  RankSumPower RankSumTest RunModel

variable {runtime : Runtime} {stats : Statistics} {run : LeaderboardDataset} {metric : MetricDef}

/-! ### Medians -/

/-- The interpolated median lies between two entries around the middle. -/
lemma percentile_half_between {sorted : List ℚ} (h : sorted.Pairwise (· ≤ ·)) (nonempty : sorted ≠ []) :
    ∃ lo hi, hi < sorted.length ∧ 2 * hi ≤ sorted.length ∧ sorted.length ≤ 2 * (lo + 1) ∧
      lo ≤ hi ∧ sorted.getD lo 0 ≤ percentile sorted (1 / 2) ∧
      percentile sorted (1 / 2) ≤ sorted.getD hi 0 := by
  have length : 1 ≤ sorted.length := List.length_pos_iff.mpr nonempty
  have lengthQ : (1 : ℚ) ≤ sorted.length := by exact_mod_cast length
  set middle : ℚ := ((sorted.length : ℚ) - 1) * (1 / 2) with hmiddle
  have nonneg : 0 ≤ middle := by
    rw [hmiddle]
    linarith
  have below : (⌊middle⌋₊ : ℚ) ≤ middle := Nat.floor_le nonneg
  have belowNext : middle < ⌊middle⌋₊ + 1 := Nat.lt_floor_add_one middle
  have above : middle ≤ ⌈middle⌉₊ := Nat.le_ceil middle
  have aboveLast : (⌈middle⌉₊ : ℚ) < middle + 1 := Nat.ceil_lt_add_one nonneg
  have hi_le : 2 * ⌈middle⌉₊ ≤ sorted.length := by
    have bound : (2 * ⌈middle⌉₊ : ℚ) < sorted.length + 1 := by linarith
    have bound : 2 * ⌈middle⌉₊ < sorted.length + 1 := by exact_mod_cast bound
    omega
  have lo_ge : sorted.length ≤ 2 * (⌊middle⌋₊ + 1) := by
    have bound : (sorted.length : ℚ) < 2 * (⌊middle⌋₊ + 1) + 1 := by linarith
    have bound : sorted.length < 2 * (⌊middle⌋₊ + 1) + 1 := by exact_mod_cast bound
    omega
  have lo_le : ⌊middle⌋₊ ≤ ⌈middle⌉₊ := Nat.floor_le_ceil middle
  have hi_lt : ⌈middle⌉₊ < sorted.length := by omega
  have lo_lt : ⌊middle⌋₊ < sorted.length := by omega
  have entries : sorted.getD ⌊middle⌋₊ 0 ≤ sorted.getD ⌈middle⌉₊ 0 := by
    rw [List.getD_eq_getElem _ _ lo_lt, List.getD_eq_getElem _ _ hi_lt]
    rcases lo_le.lt_or_eq with less | same
    · exact List.pairwise_iff_getElem.mp h _ _ lo_lt hi_lt less
    · simp only [same, le_refl]
  have value : percentile sorted (1 / 2) = sorted.getD ⌊middle⌋₊ 0 +
      (middle - ⌊middle⌋₊) * (sorted.getD ⌈middle⌉₊ 0 - sorted.getD ⌊middle⌋₊ 0) := by
    simp only [percentile]
    rw [← hmiddle, List.getD_eq_getElem _ _ hi_lt, List.getD_eq_getElem _ _ hi_lt]
  refine ⟨⌊middle⌋₊, ⌈middle⌉₊, hi_lt, hi_le, lo_ge, lo_le, ?_, ?_⟩
  · rw [value]
    have share := mul_nonneg (sub_nonneg.mpr below) (sub_nonneg.mpr entries)
    linarith
  · rw [value]
    have share := mul_le_mul_of_nonneg_right (show middle - ⌊middle⌋₊ ≤ 1 by linarith)
      (sub_nonneg.mpr entries)
    linarith

/-- A side of the median holds at least half of the values. -/
lemma half_le_countP {values : List ℚ} (nonempty : values ≠ []) :
    values.length ≤ 2 * values.countP (fun v => percentileOf values (1 / 2) ≤ v) ∧
      values.length ≤ 2 * values.countP (fun v => v ≤ percentileOf values (1 / 2)) := by
  have perm := List.perm_insertionSort (· ≤ ·) values
  have sorted : (values.insertionSort (· ≤ ·)).Pairwise (· ≤ ·) := List.pairwise_insertionSort _ _
  have some : values.insertionSort (· ≤ ·) ≠ [] := by
    rw [← List.length_pos_iff, perm.length_eq, List.length_pos_iff]
    exact nonempty
  obtain ⟨lo, hi, hi_lt, hi_le, lo_ge, lo_le, atLeast, atMost⟩ := percentile_half_between sorted some
  rw [← perm.countP_eq, ← perm.countP_eq, ← perm.length_eq, percentileOf]
  generalize values.insertionSort (· ≤ ·) = l at *
  have ordered : ∀ i j, i ≤ j → j < l.length → l.getD i 0 ≤ l.getD j 0 := by
    intro i j ij hj
    have hi : i < l.length := by omega
    rw [List.getD_eq_getElem _ _ hi, List.getD_eq_getElem _ _ hj]
    rcases ij.lt_or_eq with less | rfl
    · exact List.pairwise_iff_getElem.mp sorted _ _ hi hj less
    · exact le_rfl
  constructor
  · -- everything from `hi` on
    have upper : (l.drop hi).countP (fun v => percentile l (1 / 2) ≤ v) = (l.drop hi).length := by
      refine List.countP_eq_length.mpr ?_
      intro v hv
      obtain ⟨i, hi', rfl⟩ := List.getElem_of_mem hv
      rw [List.length_drop] at hi'
      have bound : hi + i < l.length := by omega
      have step := ordered hi (hi + i) (by omega) bound
      rw [List.getD_eq_getElem _ _ bound] at step
      rw [List.getElem_drop]
      exact decide_eq_true (atMost.trans step)
    have whole := (List.drop_sublist hi l).countP_le (p := fun v => percentile l (1 / 2) ≤ v)
    rw [upper, List.length_drop] at whole
    omega
  · -- everything up to `lo`
    have lower : (l.take (lo + 1)).countP (fun v => v ≤ percentile l (1 / 2)) =
        (l.take (lo + 1)).length := by
      refine List.countP_eq_length.mpr ?_
      intro v hv
      obtain ⟨i, hi', rfl⟩ := List.getElem_of_mem hv
      rw [List.length_take] at hi'
      have bound : lo < l.length := by omega
      have step := ordered i lo (by omega) bound
      rw [List.getD_eq_getElem _ _ (by omega)] at step
      rw [List.getElem_take]
      exact decide_eq_true (step.trans atLeast)
    have whole := (List.take_sublist (lo + 1) l).countP_le (p := fun v => v ≤ percentile l (1 / 2))
    rw [lower, List.length_take] at whole
    omega

/-! ### What a separation says -/

/-- `U` says that the first sample tends to be the better one. -/
def Favours : Direction → List ℚ → List ℚ → Prop
  | .HIB, a, b => meanU a.length b.length < uOf a b
  | .LIB, a, b => uOf a b < meanU a.length b.length

/-- The pairs the first sample wins. -/
def pairsWon : Direction → List ℚ → List ℚ → ℚ
  | .HIB, a, b => uOf a b
  | .LIB, a, b => uOf b a

/-- A row separated from the row above it. -/
structure Separation (tail : NormalTail) (direction : Direction) (a b : Candidate) : Prop where
  decided : ∃ test, decidingTest tail a b = .ok test ∧ test.minAttainablePValue < defaultAlpha ∧
    test.pValue < decidingLevel a b
  offMean : uOf (unitsOf b a) (unitsOf a b) ≠ meanU (unitsOf b a).length (unitsOf a b).length
  order : compareValues direction a.row.value b.row.value ≠ .gt
  share : a.row.value = percentileOf (unitsOf b a) (1 / 2) →
    b.row.value = percentileOf (unitsOf a b) (1 / 2) →
      (((unitsOf b a).length * (unitsOf a b).length : ℕ) : ℚ) ≤
        8 * pairsWon direction (unitsOf b a) (unitsOf a b) ∧
      (a.row.value ≠ b.row.value → (((unitsOf b a).length * (unitsOf a b).length : ℕ) : ℚ) ≤
        4 * pairsWon direction (unitsOf b a) (unitsOf a b))

lemma decidingLevel_lt (previous candidate : Candidate) : decidingLevel previous candidate < 1 / 5 := by
  unfold decidingLevel
  split
  · norm_num [defaultLevel]
  · norm_num [defaultAlpha]

/-- The better median wins its share of the pairs. -/
lemma pairs_of_medians {a b : List ℚ} (ha : a ≠ []) (hb : b ≠ []) {k : ℕ}
    (each : ∀ x y, percentileOf a (1 / 2) ≤ x → y ≤ percentileOf b (1 / 2) → k ≤ twiceScore x y) :
    (k : ℚ) * ((a.length * b.length : ℕ) : ℚ) ≤ 8 * uOf a b := by
  have upper := (half_le_countP ha).1
  have lower := (half_le_countP hb).2
  have scores := le_twicePairs (a := a) (b := b) (k := k)
    (p := fun v => percentileOf a (1 / 2) ≤ v) (q := fun v => v ≤ percentileOf b (1 / 2))
    (fun x hx y hy => each x y (of_decide_eq_true hx) (of_decide_eq_true hy))
  have quarter : k * (a.length * b.length) ≤ 4 * twicePairs a b := by
    calc k * (a.length * b.length)
        ≤ k * ((2 * a.countP (fun v => percentileOf a (1 / 2) ≤ v)) *
            (2 * b.countP (fun v => v ≤ percentileOf b (1 / 2)))) :=
          Nat.mul_le_mul_left k (Nat.mul_le_mul upper lower)
      _ = 4 * (k * (a.countP (fun v => percentileOf a (1 / 2) ≤ v) *
            b.countP (fun v => v ≤ percentileOf b (1 / 2)))) := by ring
      _ ≤ 4 * twicePairs a b := Nat.mul_le_mul_left 4 scores
  have quarter : ((k * (a.length * b.length) : ℕ) : ℚ) ≤ ((4 * twicePairs a b : ℕ) : ℚ) := by
    exact_mod_cast quarter
  push_cast at quarter ⊢
  rw [uOf]
  linarith

lemma share_of_medians {a b : List ℚ} (ha : a ≠ []) (hb : b ≠ [])
    (order : percentileOf b (1 / 2) ≤ percentileOf a (1 / 2)) :
    ((a.length * b.length : ℕ) : ℚ) ≤ 8 * uOf a b ∧
      (percentileOf a (1 / 2) ≠ percentileOf b (1 / 2) →
        ((a.length * b.length : ℕ) : ℚ) ≤ 4 * uOf a b) := by
  constructor
  · have ties := pairs_of_medians ha hb (k := 1)
      (fun x y hx hy => twiceScore_of_ge (hy.trans (order.trans hx)))
    simpa using ties
  · intro apart
    have wins := pairs_of_medians ha hb (k := 2) (fun x y hx hy =>
      (twiceScore_of_gt (hy.trans_lt ((lt_of_le_of_ne order apart.symm).trans_le hx))).ge)
    push_cast at wins ⊢
    linarith

lemma Outcome.separation {tail : NormalTail} (centred : tail.normalCdf 0 ≤ 9 / 10)
    {direction : Direction} {a b : Candidate} {basis : Option TieBasis}
    (outcome : Outcome tail a b .separated basis)
    (order : compareValues direction a.row.value b.row.value ≠ .gt) :
    Separation tail direction a b := by
  cases outcome with
  | separated several test ran able below =>
    refine ⟨⟨test, ran, able, below⟩, ?_, order, ?_⟩
    · intro mean
      have large := pValue_of_mean ran centred mean
      have level := decidingLevel_lt a b
      linarith
    · intro ha hb
      obtain ⟨someA, someB⟩ := nonempty_of_ok ran
      rw [ha, hb] at order ⊢
      cases direction with
      | HIB =>
        refine share_of_medians someA someB ?_
        by_contra above
        exact order (compare_gt_iff_gt.mpr (not_le.mp above))
      | LIB =>
        have share := share_of_medians someB someA (by
          by_contra above
          exact order (compare_gt_iff_gt.mpr (not_le.mp above)))
        rw [Nat.mul_comm] at share
        exact ⟨share.1, fun apart => share.2 apart.symm⟩

/-- Neighbours in the sorted candidates stand in the order of their values. -/
lemma sortCandidates_order {candidates : List Candidate} {i : ℕ} {a b : Candidate}
    (ha : (sortCandidates runtime metric candidates)[i]? = some a)
    (hb : (sortCandidates runtime metric candidates)[i + 1]? = some b) :
    compareValues metric.direction a.row.value b.row.value ≠ .gt := by
  have total := Sorting.total_upTo (compareStanding runtime metric) standing
  have trans := Sorting.trans_upTo (compareStanding runtime metric) standing
  have sorted : (sortCandidates runtime metric candidates).Pairwise
      (Sorting.upTo (compareStanding runtime metric) standing) := List.pairwise_insertionSort _ _
  obtain ⟨hi, rfl⟩ := List.getElem?_eq_some_iff.mp ha
  obtain ⟨hj, rfl⟩ := List.getElem?_eq_some_iff.mp hb
  intro above
  refine List.pairwise_iff_getElem.mp sorted i (i + 1) hi hj (by omega) ?_
  rw [compareStanding, standing, standing, above]
  rfl

/-- The reported value of a row with several sandboxes is the median of their medians. -/
theorem candidateOf_median {provider : ProviderRun} {candidate : Candidate}
    {replicates : List Samples}
    (made : candidateOf stats run metric provider = .ok (some candidate))
    (several : candidate.replicates = some replicates) :
    candidate.row.value = percentileOf (sandboxMedians replicates) (1 / 2) := by
  unfold candidateOf at made
  split at made
  · cases made
  · rename_i result _
    cases broken : result.replicates with
    | none =>
      simp only [reportedMedianOf, broken] at made
      cases made
      cases several
    | some replicates' =>
      simp only [reportedMedianOf, broken] at made
      rcases sandboxMedianOf_cases (replicates'.map (·.samples)) with ⟨_, fails⟩ | ⟨_, returns⟩
      · rw [fails, error_bind] at made
        cases made
      · rw [returns, ok_bind] at made
        cases made
        obtain rfl := Option.some.inj several
        rfl

/-- A separated row is told apart by the test, and stands below the row above by its value. -/
theorem rankMetric_separated {rows : List LeaderboardRow}
    (centred : stats.tail.normalCdf 0 ≤ 9 / 10)
    (ranked : rankMetric runtime stats run metric = .ok rows) :
    ∃ candidates, candidatesOf stats run metric = .ok candidates ∧
      ∀ i above row, rows[i]? = some above → rows[i + 1]? = some row →
        row.verdict = some .separated →
        ∃ a b, (sortCandidates runtime metric candidates)[i]? = some a ∧
          (sortCandidates runtime metric candidates)[i + 1]? = some b ∧
          (above.value, above.providerId) = standing a ∧ (row.value, row.providerId) = standing b ∧
          Separation stats.tail metric.direction a b := by
  obtain ⟨candidates, collected, table⟩ := rankMetric_table ranked
  refine ⟨candidates, collected, ?_⟩
  intro i above row habove hrow apart
  obtain ⟨a, b, ha, hb, adjacent⟩ := table.behind habove hrow
  obtain ⟨verdict, here, outcome⟩ := adjacent.outcome
  obtain rfl := Option.some.inj (here.symm.trans apart)
  have upper := table.providerId ha habove
  have lower := table.providerId hb hrow
  exact ⟨a, b, ha, hb, Prod.ext upper.1 upper.2, Prod.ext lower.1 lower.2,
    outcome.separation centred (sortCandidates_order ha hb)⟩

/-! ### A separation against the row above -/

/-- Every separation says that the row above tends to be better. -/
def SeparationsFavourAbove (runtime : Runtime) (stats : Statistics) (run : LeaderboardDataset)
    (metric : MetricDef) : Prop :=
  ∀ rows, rankMetric runtime stats run metric = .ok rows →
    ∀ candidates, candidatesOf stats run metric = .ok candidates →
    ∀ i a b row, (sortCandidates runtime metric candidates)[i]? = some a →
      (sortCandidates runtime metric candidates)[i + 1]? = some b → rows[i + 1]? = some row →
      row.verdict = some .separated → Favours metric.direction (unitsOf b a) (unitsOf a b)

/-- Fast on most passes, and ten times slower on the others. -/
def stallingTrials : Samples := ⟨List.replicate 15 10 ++ List.replicate 14 100, by decide⟩

/-- Slower in the middle, and far faster on nearly half of the passes. -/
def burstingTrials : Samples := ⟨List.replicate 14 1 ++ List.replicate 15 11, by decide⟩

lemma stalling_medians : percentileOf stallingTrials.values (1 / 2) ≤
    percentileOf burstingTrials.values (1 / 2) := by decide +kernel

lemma stalling_rows : ∃ rows, rankMetric plainRuntime sampleStatistics
    (sampleRun stallingTrials burstingTrials) ⟨"boot", .LIB⟩ = .ok rows ∧
      rows.map (·.verdict) = [none, some .separated] := by
  have verdicts : (rankRows sampleStatistics [sampleCandidate "e2b" stallingTrials,
      sampleCandidate "modal" burstingTrials]).toOption.map (fun rows => rows.map (·.verdict)) =
        some [none, some .separated] := by decide +kernel
  rw [sampleRun_ranked stalling_medians]
  cases ranked : rankRows sampleStatistics [sampleCandidate "e2b" stallingTrials,
    sampleCandidate "modal" burstingTrials] with
  | error e =>
    rw [ranked] at verdicts
    cases verdicts
  | ok rows =>
    rw [ranked] at verdicts
    exact ⟨rows, rfl, Option.some.inj verdicts⟩

lemma stalling_second {rows : List LeaderboardRow}
    (verdicts : rows.map (·.verdict) = [none, some .separated]) :
    ∃ above row, rows[0]? = some above ∧ rows[1]? = some row ∧ row.verdict = some .separated := by
  obtain ⟨above, rest, rfl, _, verdicts⟩ := List.map_eq_cons_iff.mp verdicts
  obtain ⟨row, rest, rfl, separated, _⟩ := List.map_eq_cons_iff.mp verdicts
  exact ⟨above, row, rfl, rfl, separated⟩

theorem rankMetric_separated_stalling : Separation sampleTail .LIB
    (sampleCandidate "e2b" stallingTrials) (sampleCandidate "modal" burstingTrials) := by
  obtain ⟨rows, ranked, verdicts⟩ := stalling_rows
  obtain ⟨above, row, habove, hrow, separated⟩ := stalling_second verdicts
  have centred : sampleStatistics.tail.normalCdf 0 ≤ 9 / 10 := by
    show sampleTail.normalCdf 0 ≤ 9 / 10
    norm_num [sampleTail]
  obtain ⟨candidates, collected, each⟩ := rankMetric_separated centred ranked
  obtain rfl := Except.ok.inj ((sampleRun_candidates _ _ _).symm.trans collected)
  obtain ⟨a, b, ha, hb, _, _, separation⟩ := each 0 above row habove hrow separated
  rw [sampleRun_sorted stalling_medians] at ha hb
  obtain rfl := Option.some.inj ha
  obtain rfl := Option.some.inj hb
  exact separation

/-- The lower median is ranked first, and the test that separates the two finds it slower. -/
theorem stalling_ranked_above :
    ¬ SeparationsFavourAbove plainRuntime sampleStatistics (sampleRun stallingTrials burstingTrials)
      ⟨"boot", .LIB⟩ := by
  intro favour
  obtain ⟨rows, ranked, verdicts⟩ := stalling_rows
  obtain ⟨above, row, _, hrow, separated⟩ := stalling_second verdicts
  have pair := favour rows ranked _ (sampleRun_candidates _ _ _) 0
    (sampleCandidate "e2b" stallingTrials) (sampleCandidate "modal" burstingTrials) row
  rw [sampleRun_sorted stalling_medians] at pair
  have below : uOf stallingTrials.values burstingTrials.values <
      meanU stallingTrials.values.length burstingTrials.values.length :=
    pair rfl rfl hrow separated
  have above : meanU stallingTrials.values.length burstingTrials.values.length <
      uOf stallingTrials.values burstingTrials.values := by decide +kernel
  exact lt_asymm below above

end Leaderboard
