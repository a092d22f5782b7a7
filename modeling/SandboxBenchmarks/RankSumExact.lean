import SandboxBenchmarks.RankSumTest

/-!
# The count table stands for relabellings

The loops of `exactMannWhitney` keep one invariant: an entry already relaxed for
item `i` counts subsets of the first `i + 1` positions, any other entry subsets
of the first `i`. The tails of the last row are then permutation tails.
-/

namespace RankSumExact

open Loops PermutationTest SubsetCounts RankSumTest

/-- `nA + 1` rows of `total + 1` sums. -/
structure Shaped (nA total : Nat) (counts : Counts) : Prop where
  rows : counts.length = nA + 1
  sums : ∀ k, k ≤ nA → (counts.getD k []).length = total + 1

lemma getD_modify {α : Type} (f : α → α) (d : α) (l : List α) (k j : Nat) :
    (l.modify k f).getD j d = if j = k ∧ k < l.length then f (l.getD j d) else l.getD j d := by
  rw [List.getD_eq_getElem?_getD, List.getD_eq_getElem?_getD, List.getElem?_modify]
  by_cases here : k = j
  · subst here
    by_cases bound : k < l.length
    · simp [bound]
    · simp [bound]
  · have other : ¬ j = k := fun h => here h.symm
    simp [here, other]

lemma add_shaped {nA total : Nat} {counts : Counts} (h : Shaped nA total counts)
    (k s c : Nat) : Shaped nA total (counts.add k s c) := by
  constructor
  · rw [Counts.add, List.length_modify, h.rows]
  · intro j hj
    rw [Counts.add, getD_modify]
    split
    · rw [List.length_modify, h.sums j hj]
    · exact h.sums j hj

lemma add_at {nA total : Nat} {counts : Counts} (h : Shaped nA total counts)
    {k s : Nat} (hk : k ≤ nA) (hs : s ≤ total) (c j t : Nat) :
    (counts.add k s c).at j t = counts.at j t + if j = k ∧ t = s then c else 0 := by
  have rows : k < counts.length := by rw [h.rows]; omega
  rw [Counts.at, Counts.add, getD_modify, Counts.at]
  by_cases row : j = k
  · subst row
    have bound : s < (counts.getD j []).length := by rw [h.sums j hk]; omega
    rw [if_pos ⟨rfl, rows⟩, getD_modify]
    by_cases col : t = s
    · rw [if_pos ⟨col, bound⟩, if_pos ⟨rfl, col⟩]
    · simp [col]
  · simp [row]

lemma emptyCounts_shaped (nA total : Nat) : Shaped nA total (emptyCounts nA total) := by
  refine add_shaped ⟨by simp, ?_⟩ 0 0 1
  intro k hk
  simp [List.getD_eq_getElem?_getD, Nat.lt_succ_of_le hk]

lemma emptyCounts_at (nA total j t : Nat) :
    (emptyCounts nA total).at j t = if j = 0 ∧ t = 0 then 1 else 0 := by
  have blank : Shaped nA total (List.replicate (nA + 1) (List.replicate (total + 1) 0)) := by
    refine ⟨by simp, ?_⟩
    intro k hk
    simp [List.getD_eq_getElem?_getD, Nat.lt_succ_of_le hk]
  rw [emptyCounts, add_at blank (Nat.zero_le _) (Nat.zero_le _), Counts.at]
  have zero : ((List.replicate (nA + 1) (List.replicate (total + 1) 0)).getD j []).getD t 0 = 0 := by
    simp only [List.getD_eq_getElem?_getD, List.getElem?_replicate]
    split <;> simp [List.getElem?_replicate]
    split <;> rfl
  rw [zero, Nat.zero_add]

/-- Entry `(j, t)` was already relaxed for the current item of doubled rank `rank`. -/
def Relaxed (rank k s j t : Nat) : Prop := k + 1 < j ∨ (j = k + 1 ∧ rank + s ≤ t)

instance (rank k s j t : Nat) : Decidable (Relaxed rank k s j t) := by
  unfold Relaxed
  infer_instance

/-- Item `i` is being added: relaxed entries see the first `i + 1` items, others the first `i`. -/
structure Between (w : Nat → Nat) (nA total i k s : Nat) (counts : Counts) : Prop where
  shaped : Shaped nA total counts
  entry : ∀ j, j ≤ nA → ∀ t, t ≤ total → counts.at j t =
    subsetCount w (Finset.range (if Relaxed (w i) k s j t then i + 1 else i)) j t

/-- All entries see the first `i` items. -/
structure Counted (w : Nat → Nat) (nA total i : Nat) (counts : Counts) : Prop where
  shaped : Shaped nA total counts
  entry : ∀ j, j ≤ nA → ∀ t, t ≤ total → counts.at j t = subsetCount w (Finset.range i) j t

lemma emptyCounts_counted (w : Nat → Nat) (nA total : Nat) :
    Counted w nA total 0 (emptyCounts nA total) := by
  refine ⟨emptyCounts_shaped nA total, ?_⟩
  intro j _ t _
  rw [emptyCounts_at, Finset.range_zero, subsetCount_empty]

/-- The recurrence of the table, item `i` joining the first `i`. -/
lemma subsetCount_range_succ (w : Nat → Nat) (i k s : Nat) :
    subsetCount w (Finset.range (i + 1)) (k + 1) s =
      subsetCount w (Finset.range i) (k + 1) s +
        (if w i ≤ s then subsetCount w (Finset.range i) k (s - w i) else 0) := by
  rw [Finset.range_add_one]
  exact subsetCount_insert w Finset.notMem_range_self k s

/-- One iteration of the innermost loop. -/
lemma relax_between {w : Nat → Nat} {nA total i k s : Nat} {counts : Counts}
    (hk : k < nA) (hs : s < total + 1 - w i)
    (h : Between w nA total i k (s + 1) counts) :
    Between w nA total i k s (relax (w i) k s counts) := by
  have from_old : counts.at k s = subsetCount w (Finset.range i) k s := by
    rw [h.entry k hk.le s (by omega), if_neg]
    unfold Relaxed
    omega
  have into_old : counts.at (k + 1) (s + w i) =
      subsetCount w (Finset.range i) (k + 1) (s + w i) := by
    rw [h.entry (k + 1) hk (s + w i) (by omega), if_neg]
    unfold Relaxed
    omega
  have added : Between w nA total i k s (counts.add (k + 1) (s + w i) (counts.at k s)) := by
    refine ⟨add_shaped h.shaped _ _ _, ?_⟩
    intro j hj t ht
    rw [add_at h.shaped (by omega) (by omega)]
    by_cases here : j = k + 1 ∧ t = s + w i
    · obtain ⟨rfl, rfl⟩ := here
      have relaxed : Relaxed (w i) k s (k + 1) (s + w i) := Or.inr ⟨rfl, by omega⟩
      rw [if_pos ⟨rfl, rfl⟩, if_pos relaxed, into_old, from_old, subsetCount_range_succ,
        if_pos (by omega), Nat.add_sub_cancel]
    · have same : Relaxed (w i) k s j t ↔ Relaxed (w i) k (s + 1) j t := by
        unfold Relaxed
        omega
      rw [if_neg here, Nat.add_zero, h.entry j hj t ht]
      simp only [same]
  unfold relax
  by_cases zero : counts.at k s = 0
  · -- A zero count is skipped; adding it would change nothing.
    rw [if_neg (by simp [zero])]
    refine ⟨h.shaped, ?_⟩
    intro j hj t ht
    rw [← added.entry j hj t ht, add_at h.shaped (by omega) (by omega), zero]
    simp
  · rw [if_pos zero]
    exact added

/-- The innermost loop, stopped anywhere. -/
lemma overSums_between {w : Nat → Nat} {nA total i k : Nat} {counts : Counts} (hk : k < nA)
    (h : Between w nA total i k (total + 1 - w i) counts)
    (s : Nat) (hs : s ≤ total + 1 - w i) :
    Between w nA total i k s (overSums total (w i) k s counts) :=
  down_invariant (relax (w i) k) (fun s => Between w nA total i k s) _ counts h
    (fun _ lt _ inv => relax_between hk lt inv) s hs

/-- Rows above `k` are relaxed, the others not: the state between two inner loops. -/
structure RowsFrom (w : Nat → Nat) (nA total i k : Nat) (counts : Counts) : Prop where
  shaped : Shaped nA total counts
  entry : ∀ j, j ≤ nA → ∀ t, t ≤ total → counts.at j t =
    subsetCount w (Finset.range (if k < j then i + 1 else i)) j t

lemma RowsFrom.between {w : Nat → Nat} {nA total i k : Nat} {counts : Counts}
    (h : RowsFrom w nA total i (k + 1) counts) :
    Between w nA total i k (total + 1 - w i) counts := by
  refine ⟨h.shaped, ?_⟩
  intro j hj t ht
  have same : Relaxed (w i) k (total + 1 - w i) j t ↔ k + 1 < j := by
    unfold Relaxed
    omega
  rw [h.entry j hj t ht]
  simp only [same]

lemma Between.rowsFrom {w : Nat → Nat} {nA total i k : Nat} {counts : Counts}
    (h : Between w nA total i k 0 counts) : RowsFrom w nA total i k counts := by
  refine ⟨h.shaped, ?_⟩
  intro j hj t ht
  rw [h.entry j hj t ht]
  by_cases relaxed : Relaxed (w i) k 0 j t
  · have above : k < j := by
      unfold Relaxed at relaxed
      omega
    rw [if_pos relaxed, if_pos above]
  · by_cases above : k < j
    · -- Sums below the item's own rank cannot use it.
      have last : j = k + 1 ∧ t < w i := by
        unfold Relaxed at relaxed
        omega
      obtain ⟨rfl, small⟩ := last
      rw [if_neg relaxed, if_pos above, subsetCount_range_succ,
        if_neg (Nat.not_le.mpr small)]
      rfl
    · rw [if_neg relaxed, if_neg above]

/-- The loop over sizes, stopped anywhere. -/
lemma overSizes_rowsFrom {w : Nat → Nat} {nA total i : Nat} {counts : Counts}
    (h : Counted w nA total i counts) (k : Nat) (hk : k ≤ nA) :
    RowsFrom w nA total i k (overSizes total nA (w i) k counts) := by
  refine down_invariant (fun k => overSums total (w i) k 0)
    (fun k => RowsFrom w nA total i k) nA counts ⟨h.shaped, ?_⟩ ?_ k hk
  · intro j hj t ht
    rw [h.entry j hj t ht, if_neg (by omega)]
  · intro k hk d inv
    exact (overSums_between hk inv.between 0 (Nat.zero_le _)).rowsFrom

lemma RowsFrom.counted {w : Nat → Nat} {nA total i : Nat} {counts : Counts}
    (h : RowsFrom w nA total i 0 counts) : Counted w nA total (i + 1) counts := by
  refine ⟨h.shaped, ?_⟩
  intro j hj t ht
  rw [h.entry j hj t ht]
  cases j with
  | zero => simp [subsetCount_zero]
  | succ j => simp

/-- The loop over items. -/
lemma countSplits_counted (w : Nat → Nat) (total nA N : Nat) (hN : nA ≤ N) (n : Nat) :
    Counted w nA total n (countSplits total nA N ((List.range n).map w)) := by
  unfold countSplits
  rw [Nat.min_eq_left hN]
  induction n with
  | zero => exact emptyCounts_counted w nA total
  | succ n ih =>
    rw [List.range_succ, List.map_append, List.foldl_append]
    exact (overSizes_rowsFrom ih 0 (Nat.zero_le _)).counted

/-- Every state of the table while item `i` is processed. -/
theorem countsDuring_between (w : Nat → Nat) (total nA N n : Nat) (hN : nA ≤ N) {i k s : Nat}
    (hi : i < n) (hk : k < nA) (hs : s ≤ total + 1 - w i) :
    Between w nA total i k s (countsDuring total nA N ((List.range n).map w) i k s) := by
  have item : ((List.range n).map w).getD i 0 = w i := by
    simp [List.getD_eq_getElem?_getD, hi]
  have before : ((List.range n).map w).take i = (List.range i).map w := by
    rw [← List.map_take, List.take_range, Nat.min_eq_left hi.le]
  unfold countsDuring
  rw [item, before, Nat.min_eq_left hN]
  have counted := countSplits_counted w total nA N hN i
  exact overSums_between hk (overSizes_rowsFrom counted (k + 1) hk).between s hs

lemma choose_bound (m k : Nat) (h : m ≤ 50) : m.choose k ≤ Nat.choose 50 25 :=
  (Nat.choose_le_choose k h).trans (Nat.choose_le_middle k 50)

lemma choose_middle_lt : Nat.choose 50 25 * 50 < 2 ^ 53 := by
  norm_num [Nat.choose]

/-- The running product before its division. -/
lemma chooseProduct_num (n j : Nat) (hj : j ≤ n) (i : Nat) :
    ((n - j + i).choose i : ℚ) * ((n : ℚ) - j + (i + 1)) =
      (((n - j + (i + 1)).choose (i + 1) * (i + 1) : Nat) : ℚ) := by
  have cast : ((n - j + i : Nat) : ℚ) = (n : ℚ) - j + i := by
    push_cast [Nat.cast_sub hj]
    ring
  have pascal := congrArg (Nat.cast (R := ℚ)) (Nat.add_one_mul_choose_eq (n - j + i) i)
  rw [Nat.cast_mul, Nat.cast_add, cast, Nat.cast_one, mul_comm, add_assoc] at pascal
  exact pascal

/-- The running product is itself a binomial coefficient. -/
lemma chooseProduct_eq (n j : Nat) (hj : j ≤ n) (i : Nat) :
    chooseProduct n j i = ((n - j + i).choose i : ℚ) := by
  induction i with
  | zero => simp [chooseProduct]
  | succ i ih =>
    have divisor : ((i : ℚ) + 1) ≠ 0 := by positivity
    rw [chooseProduct, ih, chooseProduct_num n j hj, Nat.cast_mul, Nat.cast_add_one,
      mul_div_assoc, div_self divisor, mul_one]

theorem choose_eq (n k : Nat) (h : k ≤ n) : choose n k = n.choose k := by
  have mid : min k (n - k) ≤ n := by omega
  rw [choose, if_neg (by omega)]
  simp only
  rw [chooseProduct_eq n _ mid, Nat.sub_add_cancel mid, round_natCast, Int.toNat_natCast]
  rcases Nat.le_total k (n - k) with le | le
  · rw [Nat.min_eq_left le]
  · rw [Nat.min_eq_right le, Nat.choose_symm h]

/-! ### The tails of the last row -/

lemma tailMass_eq_sum (nA nB : Nat) (row : List Nat) (threshold bound : Nat) :
    tailMass nA nB row threshold bound =
      ∑ s ∈ (Finset.range bound).filter (fun s => threshold ≤ deviationOf nA nB s),
        row.getD s 0 := by
  induction bound with
  | zero => rfl
  | succ s ih =>
    rw [Finset.range_add_one, Finset.filter_insert, tailMass]
    simp only [ih, ge_iff_le]
    by_cases far : threshold ≤ deviationOf nA nB s
    · rw [if_pos far, if_pos far, Finset.sum_insert (by simp)]
      split <;> omega
    · rw [if_neg far, if_neg far, ite_self]

lemma le_maxDeviation (nA nB : Nat) (row : List Nat) (bound : Nat) {s : Nat}
    (hs : s < bound) (present : row.getD s 0 ≠ 0) :
    deviationOf nA nB s ≤ maxDeviation nA nB row bound := by
  induction bound with
  | zero => omega
  | succ top ih =>
    rw [maxDeviation]
    by_cases last : s = top
    · subst last
      simp only [present, ne_eq, not_false_eq_true, if_true]
      exact le_max_right _ _
    · have below := ih (by omega)
      split
      · exact below.trans (le_max_left _ _)
      · exact below

/-- The running maximum is zero or a deviation some split attains. -/
lemma maxDeviation_attained (nA nB : Nat) (row : List Nat) (bound : Nat) :
    maxDeviation nA nB row bound = 0 ∨
      ∃ s, s < bound ∧ row.getD s 0 ≠ 0 ∧
        maxDeviation nA nB row bound = deviationOf nA nB s := by
  induction bound with
  | zero => exact Or.inl rfl
  | succ top ih =>
    have step : maxDeviation nA nB row (top + 1) = maxDeviation nA nB row top ∨
        (row.getD top 0 ≠ 0 ∧ maxDeviation nA nB row (top + 1) = deviationOf nA nB top) := by
      rw [maxDeviation]
      split
      · rename_i present
        rcases max_choice (maxDeviation nA nB row top) (deviationOf nA nB top) with h | h
        · exact Or.inl h
        · exact Or.inr ⟨present, h⟩
      · exact Or.inl rfl
    rcases step with same | ⟨present, here⟩
    · rcases ih with zero | ⟨s, hs, present, attained⟩
      · exact Or.inl (same.trans zero)
      · exact Or.inr ⟨s, by omega, present, same.trans attained⟩
    · exact Or.inr ⟨top, by omega, present, here⟩

/-- The relabellings whose doubled rank sum is below `bound` and at least `threshold` out. -/
def tailRelabellings (w : Nat → Nat) (nA nB threshold bound : Nat) : Finset (Finset Nat) :=
  (relabellings (nA + nB) nA).filter (fun S =>
    (∑ i ∈ S, w i) < bound ∧ threshold ≤ deviationOf nA nB (∑ i ∈ S, w i))

lemma card_tailRelabellings_le (w : Nat → Nat) (nA nB threshold bound : Nat) :
    (tailRelabellings w nA nB threshold bound).card ≤ (nA + nB).choose nA := by
  have h := Finset.card_filter_le (relabellings (nA + nB) nA) (fun S =>
    (∑ i ∈ S, w i) < bound ∧ threshold ≤ deviationOf nA nB (∑ i ∈ S, w i))
  rwa [relabellings, Finset.card_powersetCard, Finset.card_range] at h

/-! ### The exact branch -/

/-- The doubled midrank of a position. -/
def doubledRank (a b : List ℚ) : Nat → Nat :=
  twiceMidrank (position (a ++ b)) (a.length + b.length)

/-- The doubled rank sum of the whole pool. -/
def pooledTotal (a b : List ℚ) : Nat := (doubledRanks (midranks (a ++ b)).ranks).sum

/-- The count table at every point of the loops over `i`, `k` and `s`. -/
def tableDuring (a b : List ℚ) (i k s : Nat) : Counts :=
  countsDuring (pooledTotal a b) a.length (a.length + b.length)
    (doubledRanks (midranks (a ++ b)).ranks) i k s

/-- The row of the finished table the tails are read from. -/
def lastRow (a b : List ℚ) : List Nat :=
  (countSplits (pooledTotal a b) a.length (a.length + b.length)
    (doubledRanks (midranks (a ++ b)).ranks)).getD a.length []

lemma doubledRanks_eq (a b : List ℚ) :
    doubledRanks (midranks (a ++ b)).ranks =
      (List.range (a.length + b.length)).map (doubledRank a b) := by
  rw [doubledRanks_midranks, List.length_append]
  rfl

lemma sum_map_range (w : Nat → Nat) (n : Nat) :
    ((List.range n).map w).sum = ∑ i ∈ Finset.range n, w i := by
  induction n with
  | zero => rfl
  | succ n ih =>
    rw [List.range_succ, List.map_append, List.sum_append, ih, Finset.sum_range_succ]
    rfl

lemma pooledTotal_eq (a b : List ℚ) :
    pooledTotal a b = ∑ i ∈ Finset.range (a.length + b.length), doubledRank a b i := by
  rw [pooledTotal, doubledRanks_eq, sum_map_range]

/-- Counts of an exact run that stand for relabellings and fit in a double. -/
structure CountsExact (a b : List ℚ) : Prop where
  table : ∀ i, i < a.length + b.length → ∀ k, k < a.length →
    ∀ s, s ≤ pooledTotal a b + 1 - doubledRank a b i →
    ∀ j, j ≤ a.length → ∀ t, t ≤ pooledTotal a b →
      (tableDuring a b i k s).at j t =
        subsetCount (doubledRank a b)
          (Finset.range (if Relaxed (doubledRank a b i) k s j t then i + 1 else i)) j t ∧
      (tableDuring a b i k s).at j t < 2 ^ 53
  row : ∀ t, t ≤ pooledTotal a b →
    (lastRow a b).getD t 0 =
      subsetCount (doubledRank a b) (Finset.range (a.length + b.length)) a.length t
  mass : ∀ threshold bound, bound ≤ pooledTotal a b + 1 →
    tailMass a.length b.length (lastRow a b) threshold bound =
      (tailRelabellings (doubledRank a b) a.length b.length threshold bound).card ∧
    tailMass a.length b.length (lastRow a b) threshold bound < 2 ^ 53
  products : ∀ i, i < min a.length b.length → ∃ m q : Nat, m < 2 ^ 53 ∧ q < 2 ^ 53 ∧
    chooseProduct (a.length + b.length) (min a.length b.length) i *
      (((a.length + b.length : Nat) : ℚ) - (min a.length b.length : Nat) + (i + 1)) = m ∧
    chooseProduct (a.length + b.length) (min a.length b.length) (i + 1) = q
  splits : choose (a.length + b.length) a.length = (a.length + b.length).choose a.length

lemma choose_lt (m k : Nat) (h : m ≤ 50) : m.choose k < 2 ^ 53 := by
  have := choose_bound m k h
  have := choose_middle_lt
  omega

lemma table_exact {a b : List ℚ} (hN : a.length + b.length ≤ maxExactN) {i k s j t : Nat}
    (hi : i < a.length + b.length) (hk : k < a.length)
    (hs : s ≤ pooledTotal a b + 1 - doubledRank a b i) (hj : j ≤ a.length)
    (ht : t ≤ pooledTotal a b) :
    (tableDuring a b i k s).at j t =
      subsetCount (doubledRank a b)
        (Finset.range (if Relaxed (doubledRank a b i) k s j t then i + 1 else i)) j t ∧
    (tableDuring a b i k s).at j t < 2 ^ 53 := by
  have between := countsDuring_between (doubledRank a b) (pooledTotal a b) a.length
    (a.length + b.length) (a.length + b.length) (Nat.le_add_right _ _) hi hk hs
  rw [← doubledRanks_eq] at between
  have entry := between.entry j hj t ht
  refine ⟨entry, ?_⟩
  rw [tableDuring, entry]
  refine (subsetCount_le_choose _ _ _ _).trans_lt ?_
  rw [Finset.card_range]
  apply choose_lt
  unfold maxExactN at hN
  split <;> omega

lemma lastRow_getD (a b : List ℚ) {t : Nat} (ht : t ≤ pooledTotal a b) :
    (lastRow a b).getD t 0 =
      subsetCount (doubledRank a b) (Finset.range (a.length + b.length)) a.length t := by
  have counted := countSplits_counted (doubledRank a b) (pooledTotal a b) a.length
    (a.length + b.length) (Nat.le_add_right _ _) (a.length + b.length)
  rw [← doubledRanks_eq] at counted
  exact counted.entry a.length (Nat.le_refl _) t ht

lemma tailMass_eq_card (a b : List ℚ) (threshold : Nat) {bound : Nat}
    (hb : bound ≤ pooledTotal a b + 1) :
    tailMass a.length b.length (lastRow a b) threshold bound =
      (tailRelabellings (doubledRank a b) a.length b.length threshold bound).card := by
  have whole : ∑ i ∈ Finset.range (a.length + b.length), doubledRank a b i <
      pooledTotal a b + 1 := by
    rw [pooledTotal_eq]
    omega
  have counted := card_filter_weight (doubledRank a b) (Finset.range (a.length + b.length))
    a.length (fun s => s < bound ∧ threshold ≤ deviationOf a.length b.length s) _ whole
  rw [tailRelabellings, relabellings, counted, tailMass_eq_sum]
  apply Finset.sum_congr
  · ext s
    simp only [Finset.mem_filter, Finset.mem_range]
    omega
  · intro s hs
    simp only [Finset.mem_filter, Finset.mem_range] at hs
    exact lastRow_getD a b (by omega)

/-- The integer deviation of a relabelling is twice the deviation of its `U`. -/
lemma deviationOf_eq (a b : List ℚ) {S : Finset Nat}
    (hS : S ∈ relabellings (a.length + b.length) a.length) :
    (deviationOf a.length b.length (∑ i ∈ S, doubledRank a b i) : ℚ) =
      2 * deviation (position (a ++ b)) (a.length + b.length) a.length S := by
  rw [two_mul_deviation _ _ _ hS, deviationOf, Nat.cast_natAbs]
  push_cast
  congr 1
  unfold doubledRank
  ring

lemma deviationOf_le_iff (a b : List ℚ) {S T : Finset Nat}
    (hS : S ∈ relabellings (a.length + b.length) a.length)
    (hT : T ∈ relabellings (a.length + b.length) a.length) :
    deviationOf a.length b.length (∑ i ∈ S, doubledRank a b i) ≤
      deviationOf a.length b.length (∑ i ∈ T, doubledRank a b i) ↔
    deviation (position (a ++ b)) (a.length + b.length) a.length S ≤
      deviation (position (a ++ b)) (a.length + b.length) a.length T := by
  rw [← Nat.cast_le (α := ℚ), deviationOf_eq a b hS, deviationOf_eq a b hT]
  constructor
  · intro h; linarith
  · intro h; linarith

lemma weight_lt {a b : List ℚ} {S : Finset Nat}
    (hS : S ∈ relabellings (a.length + b.length) a.length) :
    ∑ i ∈ S, doubledRank a b i < pooledTotal a b + 1 := by
  have sub := (Finset.mem_powersetCard.mp hS).1
  have := Finset.sum_le_sum_of_subset (f := doubledRank a b) sub
  rw [pooledTotal_eq]
  omega

/-- The tail at the deviation of one relabelling is the permutation tail of that relabelling. -/
lemma tailMass_at (a b : List ℚ) {S : Finset Nat}
    (hS : S ∈ relabellings (a.length + b.length) a.length) :
    tailMass a.length b.length (lastRow a b)
        (deviationOf a.length b.length (∑ i ∈ S, doubledRank a b i)) (pooledTotal a b + 1) =
      (atLeastAsExtreme (position (a ++ b)) (a.length + b.length) a.length S).card := by
  rw [tailMass_eq_card a b _ (Nat.le_refl _), tailRelabellings, atLeastAsExtreme]
  congr 1
  apply Finset.filter_congr
  intro T hT
  rw [deviationOf_le_iff a b hS hT]
  exact and_iff_right (weight_lt hT)

/-- The first `n` positions: the split that was observed. -/
lemma observed_mem (a b : List ℚ) :
    Finset.range a.length ∈ relabellings (a.length + b.length) a.length := by
  rw [relabellings, Finset.mem_powersetCard, Finset.card_range]
  exact ⟨Finset.range_mono (Nat.le_add_right _ _), rfl⟩

lemma present_iff (a b : List ℚ) {t : Nat} (ht : t ≤ pooledTotal a b) :
    (lastRow a b).getD t 0 ≠ 0 ↔
      ∃ S ∈ relabellings (a.length + b.length) a.length, ∑ i ∈ S, doubledRank a b i = t := by
  rw [lastRow_getD a b ht, subsetCount, Finset.card_ne_zero]
  constructor
  · rintro ⟨S, hS⟩
    obtain ⟨sub, card, sum⟩ := mem_ofWeight.mp hS
    exact ⟨S, Finset.mem_powersetCard.mpr ⟨sub, card⟩, sum⟩
  · rintro ⟨S, hS, sum⟩
    obtain ⟨sub, card⟩ := Finset.mem_powersetCard.mp hS
    exact ⟨S, mem_ofWeight.mpr ⟨sub, card, sum⟩⟩

/-- Some relabelling attains the running maximum, and none exceeds it. -/
lemma exists_extreme (a b : List ℚ) :
    ∃ S ∈ relabellings (a.length + b.length) a.length,
      maxDeviation a.length b.length (lastRow a b) (pooledTotal a b + 1) =
        deviationOf a.length b.length (∑ i ∈ S, doubledRank a b i) ∧
      ∀ T ∈ relabellings (a.length + b.length) a.length,
        deviation (position (a ++ b)) (a.length + b.length) a.length T ≤
          deviation (position (a ++ b)) (a.length + b.length) a.length S := by
  have bound : ∀ T ∈ relabellings (a.length + b.length) a.length,
      deviationOf a.length b.length (∑ i ∈ T, doubledRank a b i) ≤
        maxDeviation a.length b.length (lastRow a b) (pooledTotal a b + 1) := by
    intro T hT
    have below := weight_lt hT
    exact le_maxDeviation _ _ _ _ below
      ((present_iff a b (Nat.le_of_lt_succ below)).mpr ⟨T, hT, rfl⟩)
  have attained : ∃ S ∈ relabellings (a.length + b.length) a.length,
      maxDeviation a.length b.length (lastRow a b) (pooledTotal a b + 1) =
        deviationOf a.length b.length (∑ i ∈ S, doubledRank a b i) := by
    rcases maxDeviation_attained a.length b.length (lastRow a b) (pooledTotal a b + 1) with
      zero | ⟨s, hs, present, same⟩
    · have observed := bound _ (observed_mem a b)
      exact ⟨_, observed_mem a b, by omega⟩
    · obtain ⟨S, hS, rfl⟩ := (present_iff a b (Nat.le_of_lt_succ hs)).mp present
      exact ⟨S, hS, same⟩
  obtain ⟨S, hS, same⟩ := attained
  refine ⟨S, hS, same, ?_⟩
  intro T hT
  exact (deviationOf_le_iff a b hT hS).mp (same ▸ bound T hT)

theorem countsExact (a b : List ℚ) (hN : a.length + b.length ≤ maxExactN) : CountsExact a b := by
  have fits : (a.length + b.length).choose a.length < 2 ^ 53 := choose_lt _ _ hN
  refine ⟨?_, ?_, ?_, ?_, choose_eq _ _ (Nat.le_add_right _ _)⟩
  · intro i hi k hk s hs j hj t ht
    exact table_exact hN hi hk hs hj ht
  · intro t ht
    exact lastRow_getD a b ht
  · intro threshold bound hb
    rw [tailMass_eq_card a b threshold hb]
    exact ⟨rfl, (card_tailRelabellings_le _ _ _ _ _).trans_lt fits⟩
  · intro i hi
    have hj : min a.length b.length ≤ a.length + b.length := by omega
    have small : a.length + b.length ≤ 50 := hN
    have top : a.length + b.length - min a.length b.length + (i + 1) ≤ 50 := by omega
    have bound := choose_bound _ (i + 1) top
    have few : i + 1 ≤ 50 := by omega
    refine ⟨(a.length + b.length - min a.length b.length + (i + 1)).choose (i + 1) * (i + 1), _,
      ?_, choose_lt _ (i + 1) top, ?_, chooseProduct_eq _ _ hj (i + 1)⟩
    · exact (Nat.mul_le_mul bound few).trans_lt choose_middle_lt
    · rw [chooseProduct_eq _ _ hj i, chooseProduct_num _ _ hj]

/-- On its exact branch the test returns the permutation `p`-value and the least one attainable. -/
theorem mannWhitneyU_exact (tail : NormalTail) (a b : List ℚ) (ha : a ≠ []) (hb : b ≠ [])
    (hN : a.length + b.length ≤ maxExactN) :
    (∃ r, mannWhitneyU tail a b = .ok r ∧ r.method = .exact ∧
      r.pValue = permutationP (position (a ++ b)) (a.length + b.length) a.length
        (Finset.range a.length) ∧
      IsLeast {p | ∃ T ∈ relabellings (a.length + b.length) a.length,
        p = permutationP (position (a ++ b)) (a.length + b.length) a.length T}
        r.minAttainablePValue) ∧
    CountsExact a b := by
  refine ⟨?_, countsExact a b hN⟩
  have nonempty : ¬ (a.length = 0 ∨ b.length = 0) := by
    simp [List.length_eq_zero_iff, ha, hb]
  have observed : ((doubledRanks (midranks (a ++ b)).ranks).take a.length).sum =
      ∑ i ∈ Finset.range a.length, doubledRank a b i := by
    rw [doubledRanks_eq, ← List.map_take, List.take_range,
      Nat.min_eq_left (Nat.le_add_right _ _), sum_map_range]
  have quotient : ∀ S ∈ relabellings (a.length + b.length) a.length,
      min 1 ((tailMass a.length b.length (lastRow a b)
        (deviationOf a.length b.length (∑ i ∈ S, doubledRank a b i)) (pooledTotal a b + 1) : ℚ) /
        choose (a.length + b.length) a.length) =
      permutationP (position (a ++ b)) (a.length + b.length) a.length S := by
    intro S hS
    rw [tailMass_at a b hS, choose_eq _ _ (Nat.le_add_right _ _)]
    exact min_eq_right (permutationP_le_one _ _ _ _)
  obtain ⟨S, hS, extreme, furthest⟩ := exists_extreme a b
  rw [mannWhitneyU, if_neg nonempty]
  dsimp only
  rw [if_pos hN]
  refine ⟨_, rfl, rfl, ?_, ?_⟩
  · rw [← quotient _ (observed_mem a b), ← observed]
    rfl
  · have least := isLeast_permutationP _ _ _ hS furthest
    rw [← quotient S hS, ← extreme] at least
    exact least

/-- Tied samples of different sizes, where one split alone is the most extreme. -/
theorem mannWhitneyU_exact_tied :
    (∃ r, mannWhitneyU ⟨id, id⟩ [2] [1, 1] = .ok r ∧ r.method = .exact ∧
      r.pValue = permutationP (position [2, 1, 1]) 3 1 {0}) ∧
    CountsExact [2] [1, 1] := by
  obtain ⟨⟨r, run, method, pValue, -⟩, counts⟩ :=
    mannWhitneyU_exact ⟨id, id⟩ [2] [1, 1] (by simp) (by simp) (by decide)
  exact ⟨⟨r, run, method, pValue⟩, counts⟩

end RankSumExact
