import Mathlib.Data.List.Sort
import Mathlib.Data.List.TakeWhile
import Mathlib.Data.Nat.Count
import Mathlib.Algebra.Order.Round
import Mathlib.Data.Rat.Floor
import SandboxBenchmarks.Library.Loops
import SandboxBenchmarks.Library.PermutationTest
import SandboxBenchmarks.Library.SubsetCounts

/-!
# The exact Mann-Whitney test

`packages/schema/src/analysis.ts`: midranks of the pooled samples, the table of
subset counts indexed by size and doubled rank sum, and the two tail masses read
off its last row. A finite sample is a rational number; `-0` and `0` compare
equal in the source, so they are one value here. Counts are natural numbers and
the two quotients are exact: the source divides two integers below `2^53` once.

The square root and the normal distribution of the asymptotic branch are
parameters.
-/

namespace RankSumTest

open Loops PermutationTest

inductive PValueMethod where
  | exact
  | asymptotic
deriving DecidableEq, Repr

/-- `Math.sqrt` and `normalCdf`, which only the asymptotic branch calls. -/
structure NormalTail where
  sqrt : ℚ → ℚ
  normalCdf : ℚ → ℚ

structure RankSum where
  statistic : ℚ
  pValue : ℚ
  minAttainablePValue : ℚ
  method : PValueMethod
  nA : Nat
  nB : Nat
deriving DecidableEq, Repr

structure Midranks where
  ranks : List ℚ
  tieCorrection : Nat
deriving DecidableEq, Repr

/-- The pooled samples with their positions, by value; the sort is stable. -/
def order (pooled : List ℚ) : List (ℚ × Nat) :=
  pooled.zipIdx.insertionSort (fun a b => a.1 ≤ b.1)

/-- The outer loop of `midranks` from position `i` on: one tie group at a time. -/
def rankTies (i : Nat) : List (ℚ × Nat) → Midranks → Midranks
  | [], acc => acc
  | (value, index) :: rest, acc =>
    let group := (value, index) :: rest.takeWhile (fun e => e.1 == value)
    let t := group.length
    let j := i + t - 1
    -- Ranks are 1-based; a tie group spanning [i, j] shares their mean rank.
    let mean : ℚ := ((i + j + 2 : Nat) : ℚ) / 2
    rankTies (j + 1) (rest.dropWhile (fun e => e.1 == value))
      { ranks := group.foldl (fun ranks e => ranks.set e.2 mean) acc.ranks
        tieCorrection := acc.tieCorrection + (t ^ 3 - t) }
termination_by rest => rest.length
decreasing_by
  have := (List.dropWhile_sublist (l := rest) (fun e : ℚ × Nat => e.1 == value)).length_le
  simp only [List.length_cons]
  omega

def midranks (pooled : List ℚ) : Midranks :=
  rankTies 0 (order pooled) ⟨List.replicate pooled.length 0, 0⟩

/-- The largest pooled sample the exact enumeration runs on. -/
def maxExactN : Nat := 50

/-- The running product of `choose` after `i` factors. -/
def chooseProduct (n j : Nat) : Nat → ℚ
  | 0 => 1
  | i + 1 => chooseProduct n j i * ((n : ℚ) - j + (i + 1)) / (i + 1)

def choose (n k : Nat) : Nat :=
  if k > n then 0
  else
    let j := min k (n - k)
    (round (chooseProduct n j j)).toNat

/-- `counts[k][s]`: subsets of size `k` with doubled rank sum `s`. -/
abbrev Counts := List (List Nat)

def Counts.at (counts : Counts) (k s : Nat) : Nat := (counts.getD k []).getD s 0

/-- `into[s] += c` on row `k`. -/
def Counts.add (counts : Counts) (k s c : Nat) : Counts :=
  counts.modify k (fun into => into.modify s (· + c))

def emptyCounts (nA total : Nat) : Counts :=
  Counts.add (List.replicate (nA + 1) (List.replicate (total + 1) 0)) 0 0 1

/-- The body of the innermost loop. -/
def relax (rank k s : Nat) (counts : Counts) : Counts :=
  let c := counts.at k s
  if c ≠ 0 then counts.add (k + 1) (s + rank) c else counts

/-- The loop over `s`, downwards from `total - rank`, stopped at `stop`. -/
def overSums (total rank k stop : Nat) (counts : Counts) : Counts :=
  down (relax rank k) stop (total + 1 - rank) counts

/-- The loop over `k`, downwards so that each element is used at most once. -/
def overSizes (total nA rank stop : Nat) (counts : Counts) : Counts :=
  down (fun k => overSums total rank k 0) stop nA counts

def countSplits (total nA N : Nat) (doubled : List Nat) : Counts :=
  doubled.foldl (fun counts rank => overSizes total (min nA N) rank 0 counts)
    (emptyCounts nA total)

/-- The table while item `i` is processed: the `k` loop stands at `k`, its `s` loop at `s`. -/
def countsDuring (total nA N : Nat) (doubled : List Nat) (i k s : Nat) : Counts :=
  let rank := doubled.getD i 0
  overSums total rank k s
    (overSizes total (min nA N) rank (k + 1) (countSplits total nA N (doubled.take i)))

/-- `Math.abs(s - offset - mu2)`. -/
def deviationOf (nA nB s : Nat) : Nat :=
  ((s : Int) - (nA * (nA + 1) : Nat) - (nA * nB : Nat)).natAbs

/-- The largest deviation any split attains, over sums below `bound`. -/
def maxDeviation (nA nB : Nat) (row : List Nat) : Nat → Nat
  | 0 => 0
  | s + 1 =>
    let m := maxDeviation nA nB row s
    if row.getD s 0 ≠ 0 then max m (deviationOf nA nB s) else m

/-- The tail mass at `threshold`, accumulated over sums below `bound`. -/
def tailMass (nA nB : Nat) (row : List Nat) (threshold : Nat) : Nat → Nat
  | 0 => 0
  | s + 1 =>
    let mass := tailMass nA nB row threshold s
    let c := row.getD s 0
    if c = 0 then mass
    else if deviationOf nA nB s ≥ threshold then mass + c else mass

/-- `Math.round(r * 2)` of every rank. -/
def doubledRanks (ranks : List ℚ) : List Nat := ranks.map (fun r => (round (r * 2)).toNat)

def exactMannWhitney (ranks : List ℚ) (nA nB : Nat) : ℚ × ℚ :=
  let N := nA + nB
  let doubled := doubledRanks ranks
  let total := doubled.sum
  let counts := countSplits total nA N doubled
  let rankSumA2 := (doubled.take nA).sum
  let observedDeviation := deviationOf nA nB rankSumA2
  let row := counts.getD nA []
  let extreme := maxDeviation nA nB row (total + 1)
  let atLeastAsExtreme := tailMass nA nB row observedDeviation (total + 1)
  let atMostExtreme := tailMass nA nB row extreme (total + 1)
  let splits := choose N nA
  (min 1 ((atLeastAsExtreme : ℚ) / splits), min 1 ((atMostExtreme : ℚ) / splits))

def mannWhitneyU (tail : NormalTail) (a b : List ℚ) : Except String RankSum :=
  if a.length = 0 ∨ b.length = 0 then
    .error "mannWhitneyU() requires a non-empty sample on both sides"
  else
    let nA := a.length
    let nB := b.length
    let m := midranks (a ++ b)
    let rankSumA := (m.ranks.take nA).sum
    let uA := rankSumA - ((nA * (nA + 1) : Nat) : ℚ) / 2
    let uB := ((nA * nB : Nat) : ℚ) - uA
    let statistic := min uA uB
    let N := nA + nB
    if N ≤ maxExactN then
      let (pValue, minAttainablePValue) := exactMannWhitney m.ranks nA nB
      .ok ⟨statistic, pValue, minAttainablePValue, .exact, nA, nB⟩
    else
      let mu : ℚ := ((nA * nB : Nat) : ℚ) / 2
      let variance : ℚ := ((nA * nB : Nat) : ℚ) / 12 *
        ((N : ℚ) + 1 - m.tieCorrection / ((N : ℚ) * ((N : ℚ) - 1)))
      if variance ≤ 0 then .ok ⟨statistic, 1, 1, .asymptotic, nA, nB⟩
      else
        -- Continuity correction: |U − μ| is discrete, so shave half a step before the normal tail.
        let z (dev : ℚ) : ℚ := max 0 (dev - 1 / 2) / tail.sqrt variance
        let tailOf (dev : ℚ) : ℚ := min 1 (2 * (1 - tail.normalCdf (z dev)))
        .ok ⟨statistic, tailOf |statistic - mu|, tailOf mu, .asymptotic, nA, nB⟩

/-- Position `i` of the pooled sample. -/
def position (pooled : List ℚ) (i : Nat) : ℚ := pooled.getD i 0

lemma count_position (p : ℚ → Prop) [DecidablePred p] (pooled : List ℚ) :
    ((Finset.range pooled.length).filter (fun j => p (position pooled j))).card =
      pooled.countP (fun v => p v) := by
  rw [← Nat.count_eq_card_filter_range]
  induction pooled with
  | nil => rfl
  | cons v rest ih =>
    rw [List.length_cons, Nat.count_succ', List.countP_cons, ← ih]
    simp only [position, List.getD_cons_succ, List.getD_cons_zero, decide_eq_true_eq]
    congr 1

lemma order_perm (pooled : List ℚ) : (order pooled).Perm pooled.zipIdx :=
  List.perm_insertionSort _ _

lemma order_values (pooled : List ℚ) : ((order pooled).map Prod.fst).Perm pooled := by
  have h := (order_perm pooled).map Prod.fst
  rwa [List.zipIdx_map_fst] at h

lemma order_sorted (pooled : List ℚ) : (order pooled).Pairwise (fun a b => a.1 ≤ b.1) := by
  have total : Std.Total (fun a b : ℚ × Nat => a.1 ≤ b.1) := ⟨fun a b => le_total a.1 b.1⟩
  have trans : IsTrans (ℚ × Nat) (fun a b => a.1 ≤ b.1) := ⟨fun _ _ _ h k => le_trans h k⟩
  exact List.pairwise_insertionSort _ _

lemma mem_order {pooled : List ℚ} {e : ℚ × Nat} (h : e ∈ order pooled) :
    e.2 < pooled.length ∧ position pooled e.2 = e.1 := by
  obtain ⟨v, i⟩ := e
  have mem := (order_perm pooled).mem_iff.mp h
  rw [List.mem_zipIdx_iff_getElem?] at mem
  obtain ⟨bound, -⟩ := List.getElem?_eq_some_iff.mp mem
  refine ⟨bound, ?_⟩
  simp only [position, List.getD_eq_getElem?_getD, mem, Option.getD_some]

lemma exists_mem_order {pooled : List ℚ} {i : Nat} (h : i < pooled.length) :
    ∃ e ∈ order pooled, e.2 = i := by
  refine ⟨(pooled[i], i), ?_, rfl⟩
  rw [(order_perm pooled).mem_iff, List.mem_zipIdx_iff_getElem?]
  exact List.getElem?_eq_getElem h

/-- Writing one value at every position a group names. -/
lemma foldl_set_getElem? (mean : ℚ) (group : List (ℚ × Nat)) (ranks : List ℚ) (k : Nat) :
    (group.foldl (fun ranks e => ranks.set e.2 mean) ranks)[k]? =
      if k ∈ group.map Prod.snd ∧ k < ranks.length then some mean else ranks[k]? := by
  induction group generalizing ranks with
  | nil => simp
  | cons e group ih =>
    rw [List.foldl_cons, ih, List.length_set, List.getElem?_set]
    by_cases here : e.2 = k
    · subst here
      by_cases bound : e.2 < ranks.length
      · simp [bound]
      · simp [bound]
    · have other : ¬ k = e.2 := fun h => here h.symm
      simp only [here, if_false, List.map_cons, List.mem_cons, other, false_or]

lemma foldl_set_length (mean : ℚ) (group : List (ℚ × Nat)) (ranks : List ℚ) :
    (group.foldl (fun ranks e => ranks.set e.2 mean) ranks).length = ranks.length := by
  induction group generalizing ranks with
  | nil => rfl
  | cons e group ih => rw [List.foldl_cons, ih, List.length_set]

/-- Splitting a sorted list at its first tie group. -/
lemma tieGroup_sorted {value : ℚ} {rest : List (ℚ × Nat)}
    (above : ∀ e ∈ rest, value ≤ e.1) (sorted : rest.Pairwise (fun a b => a.1 ≤ b.1)) :
    (∀ e ∈ rest.takeWhile (fun e => e.1 == value), e.1 = value) ∧
      ∀ e ∈ rest.dropWhile (fun e => e.1 == value), value < e.1 := by
  constructor
  · intro e he
    have tied := List.mem_takeWhile_imp he
    simpa only [beq_iff_eq] using tied
  · induction rest with
    | nil => simp
    | cons head tail ih =>
      rw [List.dropWhile_cons]
      split
      · exact ih (fun e he => above e (List.mem_cons_of_mem _ he)) (List.Pairwise.of_cons sorted)
      · rename_i differs
        have strict : value < head.1 := by
          refine lt_of_le_of_ne (above head List.mem_cons_self) ?_
          intro same
          exact differs (by simp [same])
        intro e he
        rcases List.mem_cons.mp he with rfl | he
        · exact strict
        · exact lt_of_lt_of_le strict (List.rel_of_pairwise_cons sorted he)

/-- The rank of a tie group, counted from the sorted list around it. -/
lemma twiceMidrank_of_split (pooled : List ℚ) (pre group rest : List (ℚ × Nat)) (value : ℚ)
    (split : order pooled = pre ++ (group ++ rest))
    (below : ∀ e ∈ pre, e.1 < value) (equal : ∀ e ∈ group, e.1 = value)
    (above : ∀ e ∈ rest, value < e.1) {i : Nat} (here : position pooled i = value) :
    twiceMidrank (position pooled) pooled.length i = 2 * pre.length + group.length + 1 := by
  have lower : pooled.countP (fun v => v < value) = pre.length := by
    rw [← (order_values pooled).countP_eq, List.countP_map, split, List.countP_append,
      List.countP_append, List.countP_eq_length.mpr, List.countP_eq_zero.mpr,
      List.countP_eq_zero.mpr]
    · omega
    · intro e he; simpa using (above e he).le
    · intro e he; simp [equal e he]
    · intro e he; simpa using below e he
  have tied : pooled.countP (fun v => v = value) = group.length := by
    rw [← (order_values pooled).countP_eq, List.countP_map, split, List.countP_append,
      List.countP_append, List.countP_eq_zero.mpr, List.countP_eq_length.mpr,
      List.countP_eq_zero.mpr]
    · omega
    · intro e he; simpa using (above e he).ne'
    · intro e he; simpa using equal e he
    · intro e he; simpa using (below e he).ne
  rw [twiceMidrank, here, count_position (fun v => v < value), lower,
    count_position (fun v => v = value), tied]

/-- What the outer loop of `midranks` keeps: every position before `i` has its midrank. -/
lemma rankTies_spec (pooled : List ℚ) (pre rest : List (ℚ × Nat)) (acc : Midranks)
    (split : order pooled = pre ++ rest)
    (apart : ∀ e ∈ pre, ∀ f ∈ rest, e.1 < f.1)
    (size : acc.ranks.length = pooled.length)
    (done : ∀ e ∈ pre, acc.ranks[e.2]? =
      some ((twiceMidrank (position pooled) pooled.length e.2 : ℚ) / 2)) :
    (rankTies pre.length rest acc).ranks.length = pooled.length ∧
    ∀ e ∈ order pooled, (rankTies pre.length rest acc).ranks[e.2]? =
      some ((twiceMidrank (position pooled) pooled.length e.2 : ℚ) / 2) := by
  induction hn : rest.length using Nat.strong_induction_on generalizing pre rest acc with
  | _ n ih =>
  cases rest with
  | nil =>
    rw [rankTies]
    rw [List.append_nil] at split
    exact ⟨size, fun e he => done e (split ▸ he)⟩
  | cons head tail =>
    obtain ⟨value, index⟩ := head
    rw [rankTies]
    set group := (value, index) :: tail.takeWhile (fun e => e.1 == value) with hgroup
    set rest' := tail.dropWhile (fun e => e.1 == value) with hrest
    have sorted : ((value, index) :: tail).Pairwise (fun a b => a.1 ≤ b.1) := by
      have all := order_sorted pooled
      rw [split] at all
      exact (List.pairwise_append.mp all).2.1
    have parts := tieGroup_sorted (fun e he => List.rel_of_pairwise_cons sorted he)
      (List.Pairwise.of_cons sorted)
    have equal : ∀ e ∈ group, e.1 = value := by
      intro e he
      rcases List.mem_cons.mp he with rfl | he
      · rfl
      · exact parts.1 e he
    have regroup : (value, index) :: tail = group ++ rest' := by
      rw [hgroup, hrest, List.cons_append, List.takeWhile_append_dropWhile]
    have below : ∀ e ∈ pre, e.1 < value := fun e he => apart e he _ List.mem_cons_self
    have nonempty : 0 < group.length := by simp [hgroup]
    have next : pre.length + group.length - 1 + 1 = (pre ++ group).length := by
      rw [List.length_append]
      omega
    rw [next]
    have split' : order pooled = (pre ++ group) ++ rest' := by
      rw [split, regroup, List.append_assoc]
    refine ih rest'.length ?_ (pre ++ group) rest' _ split' ?_ ?_ ?_ rfl
    · have : rest'.length ≤ tail.length := (List.dropWhile_sublist _).length_le
      simp only [List.length_cons] at hn
      omega
    · intro e he f hf
      have hf' := parts.2 f hf
      rcases List.mem_append.mp he with he | he
      · exact (below e he).trans hf'
      · rw [equal e he]
        exact hf'
    · rw [foldl_set_length, size]
    · intro e he
      have inOrder : e ∈ order pooled := by
        rw [split']
        exact List.mem_append_left _ he
      obtain ⟨bound, value_at⟩ := mem_order inOrder
      rw [foldl_set_getElem?]
      split
      · rename_i hit
        obtain ⟨f, hf, same⟩ := List.mem_map.mp hit.1
        have hfOrder : f ∈ order pooled := by
          rw [split']
          exact List.mem_append_left _ (List.mem_append_right _ hf)
        have here : position pooled e.2 = value := by
          rw [← same, (mem_order hfOrder).2, equal f hf]
        rw [twiceMidrank_of_split pooled pre group rest' value
          (by rw [split', List.append_assoc]) below equal parts.2 here]
        congr 2
        have sum : pre.length + (pre.length + group.length - 1) + 2 =
            2 * pre.length + group.length + 1 := by omega
        rw [sum]
      · rename_i miss
        rcases List.mem_append.mp he with he | he
        · exact done e he
        · exact absurd ⟨List.mem_map_of_mem he, size ▸ bound⟩ miss

/-- `midranks` computes the midrank of every position. -/
theorem midranks_spec (pooled : List ℚ) :
    (midranks pooled).ranks = (List.range pooled.length).map
      (fun i => (twiceMidrank (position pooled) pooled.length i : ℚ) / 2) := by
  obtain ⟨size, ranks⟩ := rankTies_spec pooled [] (order pooled)
    ⟨List.replicate pooled.length 0, 0⟩ rfl (by simp) (by simp) (by simp)
  apply List.ext_getElem?
  intro i
  by_cases bound : i < pooled.length
  · obtain ⟨e, he, rfl⟩ := exists_mem_order bound
    rw [List.getElem?_map, List.getElem?_range bound]
    exact ranks e he
  · rw [List.getElem?_eq_none, List.getElem?_eq_none]
    · simpa using Nat.le_of_not_lt bound
    · exact size ▸ Nat.le_of_not_lt bound

/-- Doubling the midranks leaves integers, whatever the ties. -/
theorem doubledRanks_midranks (pooled : List ℚ) :
    doubledRanks (midranks pooled).ranks =
      (List.range pooled.length).map (twiceMidrank (position pooled) pooled.length) := by
  rw [midranks_spec, doubledRanks, List.map_map]
  apply List.map_congr_left
  intro i _
  simp only [Function.comp_apply, div_mul_cancel₀ _ (two_ne_zero (α := ℚ)), round_natCast,
    Int.toNat_natCast]

end RankSumTest
