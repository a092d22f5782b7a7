import Mathlib.Algebra.Order.Group.Unbundled.Abs
import Mathlib.Data.Rat.Cast.Order
import Mathlib.Data.Real.Basic
import Mathlib.Order.Bounds.Basic
import SandboxBenchmarks.Library.EmpiricalDistribution
import SandboxBenchmarks.Library.OrderStatistics
import SandboxBenchmarks.RankSumTest

/-!
# The two-sample Kolmogorov-Smirnov test

`kolmogorovSmirnov` of `packages/schema/src/analysis.ts`: two sorted samples are
swept together. Samples are finite by type; the square root and the exponential
are parameters.
-/

namespace KolmogorovSmirnov

open EmpiricalDistribution OrderStatistics RankSumTest

structure DistributionTest where
  statistic : ℚ
  pValue : ℚ
  method : PValueMethod
  nA : ℕ
  nB : ℕ
deriving DecidableEq, Repr

/-- `while (i < n && sorted[i] === x) i++` -/
def advance (sorted : List ℚ) (x : ℚ) (i : ℕ) : ℕ :=
  if h : i < sorted.length then
    if sorted[i] = x then advance sorted x (i + 1) else i
  else i
termination_by sorted.length - i

lemma le_advance (sorted : List ℚ) (x : ℚ) (i : ℕ) : i ≤ advance sorted x i := by
  fun_induction advance with
  | case1 i inside same ih => omega
  | case2 => exact le_refl _
  | case3 => exact le_refl _

lemma advance_le (sorted : List ℚ) (x : ℚ) {i : ℕ} (h : i ≤ sorted.length) :
    advance sorted x i ≤ sorted.length := by
  fun_induction advance with
  | case1 i inside same ih => exact ih inside
  | case2 i inside => exact h
  | case3 => exact h

/-- The value it starts from is passed. -/
lemma lt_advance {sorted : List ℚ} {i : ℕ} (h : i < sorted.length) :
    i < advance sorted sorted[i] i := by
  rw [advance, dif_pos h, if_pos rfl]
  exact le_advance _ _ _

/-- The sweep of both samples. Of two finite numbers one is not greater, so one index advances. -/
def sweep (sortedA sortedB : List ℚ) (i j : ℕ) (statistic : ℚ) : ℚ :=
  if h : i < sortedA.length ∧ j < sortedB.length then
    let x := sortedA[i]
    let y := sortedB[j]
    let i' := if x ≤ y then advance sortedA x i else i
    let j' := if y ≤ x then advance sortedB y j else j
    sweep sortedA sortedB i' j'
      (max statistic |(i' : ℚ) / sortedA.length - (j' : ℚ) / sortedB.length|)
  else statistic
termination_by (sortedA.length - i) + (sortedB.length - j)
decreasing_by
  have first := lt_advance h.1
  have second := lt_advance h.2
  rcases le_total sortedA[i] sortedB[j] with le | le
  · rw [dif_pos le]
    split <;> omega
  · rw [dif_pos le]
    split <;> omega

/-- `kolmogorovQ` from the `j`-th term on, with so many terms left. -/
def kolmogorovTerms (exp : ℚ → ℚ) (a2 : ℚ) : ℕ → ℕ → ℚ → ℚ → ℚ → ℚ
  | 0, _, _, _, _ => 1
  | left + 1, j, fac, sum, termPrev =>
    let term := fac * exp (a2 * j * j)
    let sum := sum + term
    if |term| ≤ 1 / 10 ^ 6 * termPrev ∨ |term| ≤ 1 / 10 ^ 16 * sum then max 0 (min 1 sum)
    else kolmogorovTerms exp a2 left (j + 1) (-fac) sum |term|

def kolmogorovQ (exp : ℚ → ℚ) (lambda : ℚ) : ℚ :=
  kolmogorovTerms exp (-2 * lambda * lambda) 100 1 2 0 0

def kolmogorovSmirnov (sqrt exp : ℚ → ℚ) (a b : List ℚ) : Except String DistributionTest :=
  if a.length = 0 ∨ b.length = 0 then
    .error "kolmogorovSmirnov() requires a non-empty sample on both sides"
  else
    let nA := a.length
    let nB := b.length
    let statistic := sweep (sort a) (sort b) 0 0 0
    let en := sqrt ((nA * nB : ℚ) / (nA + nB))
    .ok {
      statistic
      pValue := kolmogorovQ exp ((en + 12 / 100 + 11 / 100 / en) * statistic)
      method := .asymptotic
      nA
      nB }

/-! ### Cuts -/

noncomputable section

def values (l : List ℚ) : List ℝ := l.map (fun x : ℚ => (x : ℝ))

/-- The distance of the two empirical distribution functions. -/
def gap (a b : List ℚ) (t : ℝ) : ℚ := |ecdf (values a) t - ecdf (values b) t|

variable {sorted A B : List ℚ} {i j : ℕ} {m z statistic : ℚ}

lemma length_values (l : List ℚ) : (values l).length = l.length := List.length_map _

lemma mem_take_values {x : ℝ} : x ∈ (values sorted).take i ↔ ∃ q ∈ sorted.take i, (q : ℝ) = x := by
  rw [values, ← List.map_take, List.mem_map]

lemma mem_drop_values {x : ℝ} : x ∈ (values sorted).drop i ↔ ∃ q ∈ sorted.drop i, (q : ℝ) = x := by
  rw [values, ← List.map_drop, List.mem_map]

lemma cut_values (cut : Cut sorted i m) : Cut (values sorted) i (m : ℝ) := by
  refine ⟨by rw [length_values]; exact cut.inside, fun x hx => ?_, fun x hx => ?_⟩
  · obtain ⟨q, hq, rfl⟩ := mem_take_values.mp hx
    exact_mod_cast cut.before q hq
  · obtain ⟨q, hq, rfl⟩ := mem_drop_values.mp hx
    exact_mod_cast cut.after q hq

lemma getElem_le_of_mem_drop (order : sorted.Pairwise (· ≤ ·)) (inside : i < sorted.length) {x : ℚ}
    (hx : x ∈ sorted.drop i) : sorted[i] ≤ x := by
  rw [List.drop_eq_getElem_cons inside] at hx
  rcases List.mem_cons.mp hx with rfl | later
  · exact le_refl _
  · have rest := order.sublist (List.drop_sublist i sorted)
    rw [List.drop_eq_getElem_cons inside] at rest
    exact List.rel_of_pairwise_cons rest later

/-- What is passed equals the value, what comes after is greater. -/
lemma advance_cut (order : sorted.Pairwise (· ≤ ·)) (inside : i ≤ sorted.length)
    (before : ∀ x ∈ sorted.take i, x ≤ z) (next : ∀ x ∈ sorted.drop i, z ≤ x) :
    Cut sorted (advance sorted z i) z := by
  fun_induction advance with
  | case1 i more same ih =>
    refine ih more (fun x hx => ?_) (fun x hx => next x ?_)
    · rw [List.take_succ_eq_append_getElem more, List.mem_append, List.mem_singleton] at hx
      rcases hx with earlier | rfl
      · exact before x earlier
      · exact same.le
    · rw [List.drop_eq_getElem_cons more]
      exact List.mem_cons_of_mem _ hx
  | case2 i more other =>
    refine ⟨inside, before, fun x hx => ?_⟩
    have here : z ≤ sorted[i] := by
      apply next
      rw [List.drop_eq_getElem_cons more]
      exact List.mem_cons_self
    exact (lt_of_le_of_ne here (Ne.symm other)).trans_le (getElem_le_of_mem_drop order more hx)
  | case3 i last =>
    refine ⟨inside, before, fun x hx => ?_⟩
    rw [List.drop_eq_nil_of_le (not_lt.mp last)] at hx
    cases hx

/-- One sample of a step to `z`, which is not past its next value. -/
lemma cut_step (order : sorted.Pairwise (· ≤ ·)) (cut : Cut sorted i m) (more : i < sorted.length)
    (le : m ≤ z) (next : z ≤ sorted[i]) :
    Cut sorted (if sorted[i] ≤ z then advance sorted sorted[i] i else i) z := by
  have before (x : ℚ) (hx : x ∈ sorted.take i) : x ≤ z := (cut.before x hx).trans le
  split
  · rename_i reached
    rw [le_antisymm reached next]
    exact advance_cut order more.le before
      (fun x hx => next.trans (getElem_le_of_mem_drop order more hx))
  · rename_i ahead
    exact cut.hold le (fun x hx => (not_le.mp ahead).trans_le (getElem_le_of_mem_drop order more hx))

/-! ### The sweep -/

/-- What the sweep keeps: where it stands in both samples, that it has seen every distance so far,
and that the greatest is one of them. -/
structure Swept (A B : List ℚ) (i j : ℕ) (m statistic : ℚ) : Prop where
  cutA : Cut A i m
  cutB : Cut B j m
  seen : ∀ t : ℝ, t ≤ m → gap A B t ≤ statistic
  attained : ∃ t, gap A B t = statistic

lemma gap_of_cuts {t : ℝ} (cutA : Cut (values A) i t) (cutB : Cut (values B) j t) :
    gap A B t = |(i : ℚ) / A.length - (j : ℚ) / B.length| := by
  rw [gap, cutA.ecdf_eq, cutB.ecdf_eq, length_values, length_values]

lemma hold_values {t : ℝ} (order : sorted.Pairwise (· ≤ ·)) (cut : Cut sorted i m)
    (more : i < sorted.length) (le : (m : ℝ) ≤ t) (lt : t < sorted[i]) : Cut (values sorted) i t := by
  refine (cut_values cut).hold le (fun x hx => ?_)
  obtain ⟨q, hq, rfl⟩ := mem_drop_values.mp hx
  have next := getElem_le_of_mem_drop order more hq
  exact lt.trans_le (by exact_mod_cast next)

lemma Swept.step (orderA : A.Pairwise (· ≤ ·)) (orderB : B.Pairwise (· ≤ ·))
    (swept : Swept A B i j m statistic) (moreA : i < A.length) (moreB : j < B.length) {i' j' : ℕ}
    (hi : i' = if A[i] ≤ B[j] then advance A A[i] i else i)
    (hj : j' = if B[j] ≤ A[i] then advance B B[j] j else j) :
    Swept A B i' j' (min A[i] B[j])
      (max statistic |(i' : ℚ) / A.length - (j' : ℚ) / B.length|) := by
  obtain ⟨cutA, cutB, seen, attained⟩ := swept
  have nextA : m ≤ A[i] := (cutA.after _ (by
    rw [List.drop_eq_getElem_cons moreA]; exact List.mem_cons_self)).le
  have nextB : m ≤ B[j] := (cutB.after _ (by
    rw [List.drop_eq_getElem_cons moreB]; exact List.mem_cons_self)).le
  have le : m ≤ min A[i] B[j] := le_min nextA nextB
  have cutA' : Cut A i' (min A[i] B[j]) := by
    have cut := cut_step orderA cutA moreA le (min_le_left _ _)
    simp only [le_min_iff, le_refl, true_and] at cut
    rwa [hi]
  have cutB' : Cut B j' (min A[i] B[j]) := by
    have cut := cut_step orderB cutB moreB le (min_le_right _ _)
    simp only [le_min_iff, le_refl, and_true] at cut
    rwa [hj]
  have here := gap_of_cuts (cut_values cutA') (cut_values cutB')
  refine ⟨cutA', cutB', fun t ht => ?_, ?_⟩
  · rcases ht.lt_or_eq with earlier | rfl
    · apply le_max_of_le_left
      rcases le_total t m with old | new
      · exact seen t old
      · have before : t < A[i] ∧ t < B[j] := by
          have bound := earlier
          rwa [Rat.cast_min, lt_min_iff] at bound
        rw [gap_of_cuts (hold_values orderA cutA moreA new before.1)
          (hold_values orderB cutB moreB new before.2),
          ← gap_of_cuts (cut_values cutA) (cut_values cutB)]
        exact seen m (le_refl _)
    · rw [here]
      exact le_max_right _ _
  · rcases max_choice statistic |(i' : ℚ) / A.length - (j' : ℚ) / B.length| with same | same
    · rw [same]
      exact attained
    · rw [same]
      exact ⟨_, here⟩

lemma gap_comm (A B : List ℚ) (t : ℝ) : gap A B t = gap B A t := abs_sub_comm _ _

/-- Once a sample is exhausted the distance can only shrink. -/
lemma gap_le_of_exhausted {t m : ℝ} (le : m ≤ t) (exhausted : ecdf (values A) m = 1) :
    gap A B t ≤ gap A B m := by
  have full : ecdf (values A) t = 1 := by
    apply le_antisymm (ecdf_le_one _ _)
    rw [← exhausted]
    exact ecdf_mono _ le
  have rest := ecdf_le_one (values B) t
  have rise := ecdf_mono (values B) le
  rw [gap, gap, full, exhausted, abs_of_nonneg (sub_nonneg.mpr rest),
    abs_of_nonneg (sub_nonneg.mpr (rise.trans rest))]
  exact sub_le_sub_left rise 1

lemma ecdf_of_exhausted (cut : Cut sorted i m) (nonempty : sorted ≠ []) (last : ¬i < sorted.length) :
    ecdf (values sorted) (m : ℝ) = 1 := by
  have whole : i = sorted.length := le_antisymm cut.inside (not_lt.mp last)
  have some : (sorted.length : ℚ) ≠ 0 := by
    rw [Nat.cast_ne_zero, ne_eq, List.length_eq_zero_iff]
    exact nonempty
  rw [(cut_values cut).ecdf_eq, length_values, whole, div_self some]

lemma Swept.finish (swept : Swept A B i j m statistic) (nonemptyA : A ≠ []) (nonemptyB : B ≠ [])
    (stopped : ¬(i < A.length ∧ j < B.length)) :
    IsGreatest (Set.range (gap A B)) statistic := by
  refine ⟨swept.attained, ?_⟩
  rintro _ ⟨t, rfl⟩
  rcases le_total t m with before | after
  · exact swept.seen t before
  · have known := swept.seen m (le_refl _)
    rcases not_and_or.mp stopped with lastA | lastB
    · exact (gap_le_of_exhausted after (ecdf_of_exhausted swept.cutA nonemptyA lastA)).trans known
    · rw [gap_comm] at known ⊢
      exact (gap_le_of_exhausted after (ecdf_of_exhausted swept.cutB nonemptyB lastB)).trans known

lemma sweep_isGreatest (orderA : A.Pairwise (· ≤ ·)) (orderB : B.Pairwise (· ≤ ·))
    (nonemptyA : A ≠ []) (nonemptyB : B ≠ []) (swept : Swept A B i j m statistic) :
    IsGreatest (Set.range (gap A B)) (sweep A B i j statistic) := by
  fun_induction sweep generalizing m with
  | case1 i j statistic more x y i' j' =>
    rename_i ih
    exact ih (swept.step orderA orderB more.1 more.2 rfl rfl)
  | case2 i j statistic stopped => exact swept.finish nonemptyA nonemptyB stopped

lemma cut_start (order : sorted.Pairwise (· ≤ ·)) (nonempty : sorted ≠ [])
    (lt : m < sorted.head nonempty) : Cut sorted 0 m := by
  refine ⟨Nat.zero_le _, fun x hx => (List.not_mem_nil hx).elim, fun x hx => ?_⟩
  have least := getElem_le_of_mem_drop order (List.length_pos_iff.mpr nonempty) hx
  rw [← List.head_eq_getElem nonempty] at least
  exact lt.trans_le least

lemma swept_start (orderA : A.Pairwise (· ≤ ·)) (orderB : B.Pairwise (· ≤ ·)) (nonemptyA : A ≠ [])
    (nonemptyB : B ≠ []) :
    Swept A B 0 0 (min (A.head nonemptyA) (B.head nonemptyB) - 1) 0 := by
  have below := sub_one_lt (min (A.head nonemptyA) (B.head nonemptyB))
  have cutA := cut_start orderA nonemptyA (below.trans_le (min_le_left _ _))
  have cutB := cut_start orderB nonemptyB (below.trans_le (min_le_right _ _))
  have none {t : ℝ} (le : t ≤ ((min (A.head nonemptyA) (B.head nonemptyB) - 1 : ℚ) : ℝ)) :
      gap A B t = 0 := by
    have before {l : List ℚ} (cut : Cut l 0 (min (A.head nonemptyA) (B.head nonemptyB) - 1)) :
        Cut (values l) 0 t :=
      ⟨Nat.zero_le _, fun x hx => (List.not_mem_nil hx).elim,
        fun x hx => le.trans_lt ((cut_values cut).after x hx)⟩
    rw [gap_of_cuts (before cutA) (before cutB), Nat.cast_zero, zero_div, zero_div, sub_zero, abs_zero]
  exact ⟨cutA, cutB, fun t le => (none le).le, _, none (le_refl _)⟩

lemma gap_sort (a b : List ℚ) (t : ℝ) : gap (sort a) (sort b) t = gap a b t := by
  have same (l : List ℚ) : ecdf (values (sort l)) t = ecdf (values l) t :=
    ecdf_perm ((sort_perm l).map _) t
  rw [gap, gap, same, same]

theorem kolmogorovSmirnov_statistic (sqrt exp : ℚ → ℚ) {a b : List ℚ} (nonemptyA : a ≠ [])
    (nonemptyB : b ≠ []) :
    ∃ test, kolmogorovSmirnov sqrt exp a b = .ok test ∧
      IsGreatest (Set.range (gap a b)) test.statistic := by
  have some {l : List ℚ} (nonempty : l ≠ []) : sort l ≠ [] := by
    rw [← List.length_pos_iff, length_sort]
    exact List.length_pos_iff.mpr nonempty
  rw [kolmogorovSmirnov, if_neg (by simp [nonemptyA, nonemptyB])]
  refine ⟨_, rfl, ?_⟩
  have greatest := sweep_isGreatest (sort_sorted a) (sort_sorted b) (some nonemptyA) (some nonemptyB)
    (swept_start (sort_sorted a) (sort_sorted b) (some nonemptyA) (some nonemptyB))
  have same : gap (sort a) (sort b) = gap a b := funext (gap_sort a b)
  rwa [same] at greatest

/-- Ties within the samples and across them. -/
theorem kolmogorovSmirnov_statistic_ties :
    ∃ test, kolmogorovSmirnov id id [2, 1, 2] [2, 3, 3, 1] = .ok test ∧
      IsGreatest (Set.range (gap [2, 1, 2] [2, 3, 3, 1])) test.statistic :=
  kolmogorovSmirnov_statistic id id (by decide) (by decide)

end

end KolmogorovSmirnov
