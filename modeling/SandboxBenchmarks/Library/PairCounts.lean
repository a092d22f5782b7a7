import Mathlib.Algebra.BigOperators.Group.List.Basic
import Mathlib.Algebra.Order.BigOperators.Group.List
import Mathlib.Data.List.Sort
import Mathlib.Tactic.Linarith
import Mathlib.Tactic.Ring
import SandboxBenchmarks.Library.Sorting

/-!
# Pair counts of two samples

The Mann-Whitney count of two lists: over all pairs, a win of the first counts one,
a tie one half. It depends on the lists as collections only. Among the splits of one
pooled sample it is least where the first list takes the lowest values, and there
it counts the ties across the cut.

Counts are doubled, so that ties need no fractions.
-/

namespace PairCounts

universe u
variable {α : Type u} [LinearOrder α]

/-- Win 2, tie 1, loss 0. -/
def twiceScore (x y : α) : ℕ := if y < x then 2 else if y = x then 1 else 0

/-- What `x` scores against a whole list. -/
def scoreAgainst (pooled : List α) (x : α) : ℕ := (pooled.map (twiceScore x)).sum

/-- Twice the Mann-Whitney count of `a` over `b`. -/
def twicePairs (a b : List α) : ℕ := (a.map (scoreAgainst b)).sum

lemma twiceScore_add_swap (x y : α) : twiceScore x y + twiceScore y x = 2 := by
  rcases lt_trichotomy x y with h | h | h
  · simp [twiceScore, h, not_lt_of_gt h, ne_of_gt h]
  · simp [twiceScore, h]
  · simp [twiceScore, h, not_lt_of_gt h, ne_of_gt h]

lemma twiceScore_of_lt {x y : α} (h : x < y) : twiceScore x y = 0 := by
  rw [twiceScore, if_neg h.not_gt, if_neg h.ne']

lemma twiceScore_of_gt {x y : α} (h : y < x) : twiceScore x y = 2 := if_pos h

lemma twiceScore_of_ge {x y : α} (h : y ≤ x) : 1 ≤ twiceScore x y := by
  rcases h.lt_or_eq with h | h
  · rw [twiceScore_of_gt h]
    omega
  · rw [twiceScore, if_neg h.not_lt, if_pos h]

lemma twiceScore_mono {x x' : α} (h : x ≤ x') (y : α) : twiceScore x y ≤ twiceScore x' y := by
  rcases lt_trichotomy x y with below | rfl | above
  · rw [twiceScore_of_lt below]
    omega
  · have tied : twiceScore x x = 1 := by simp [twiceScore]
    rw [tied]
    exact twiceScore_of_ge h
  · rw [twiceScore_of_gt above, twiceScore_of_gt (above.trans_le h)]

lemma scoreAgainst_append (b c : List α) :
    scoreAgainst (b ++ c) = fun x => scoreAgainst b x + scoreAgainst c x := by
  funext x
  rw [scoreAgainst, List.map_append, List.sum_append]
  rfl

lemma scoreAgainst_perm {b c : List α} (h : b.Perm c) : scoreAgainst b = scoreAgainst c :=
  funext fun x => (h.map (twiceScore x)).sum_nat

lemma scoreAgainst_mono (b : List α) : Monotone (scoreAgainst b) :=
  fun _ _ h => List.sum_le_sum fun y _ => twiceScore_mono h y

lemma twicePairs_perm {a a' b b' : List α} (ha : a.Perm a') (hb : b.Perm b') :
    twicePairs a b = twicePairs a' b' := by
  rw [twicePairs, scoreAgainst_perm hb]
  exact (ha.map _).sum_nat

lemma twicePairs_append_right (a b c : List α) :
    twicePairs a (b ++ c) = twicePairs a b + twicePairs a c := by
  rw [twicePairs, scoreAgainst_append, List.sum_map_add]
  rfl

lemma twicePairs_cons_left (x : α) (a b : List α) :
    twicePairs (x :: a) b = scoreAgainst b x + twicePairs a b := by
  rw [twicePairs, List.map_cons, List.sum_cons]
  rfl

lemma twicePairs_cons_right (a b : List α) (y : α) :
    twicePairs a (y :: b) = (a.map (fun x => twiceScore x y)).sum + twicePairs a b := by
  have single : scoreAgainst [y] = fun x => twiceScore x y := by
    funext x
    simp [scoreAgainst]
  rw [← List.singleton_append, twicePairs_append_right, twicePairs, single]

/-- Every pair is worth two between its sides. -/
theorem twicePairs_swap (a b : List α) :
    twicePairs a b + twicePairs b a = 2 * (a.length * b.length) := by
  have column : ∀ x, (b.map (fun y => twiceScore y x)).sum + scoreAgainst b x = 2 * b.length := by
    intro x
    rw [scoreAgainst, ← List.sum_map_add]
    simp only [twiceScore_add_swap, List.map_const', List.sum_replicate, Nat.nsmul_eq_mul]
    ring
  induction a with
  | nil =>
    have none : scoreAgainst ([] : List α) = fun _ => 0 := rfl
    simp [twicePairs, none]
  | cons x a ih =>
    have here := column x
    rw [twicePairs_cons_left, twicePairs_cons_right, List.length_cons, Nat.add_mul, Nat.mul_add]
    omega

lemma twicePairs_self (a : List α) : twicePairs a a = a.length * a.length := by
  have both := twicePairs_swap a a
  omega

/-- The scores of `a` against the pooled sample: a constant and the count of `a` over `b`. -/
theorem sum_scoreAgainst_pooled (a b : List α) :
    (a.map (scoreAgainst (a ++ b))).sum = a.length * a.length + twicePairs a b := by
  have pooled := twicePairs_append_right a a b
  rw [twicePairs_self] at pooled
  exact pooled

lemma le_scoreAgainst {q : α → Bool} {k : ℕ} {b : List α} {x : α}
    (each : ∀ y, q y → k ≤ twiceScore x y) : k * b.countP q ≤ scoreAgainst b x := by
  induction b with
  | nil => simp
  | cons y b ih =>
    rw [scoreAgainst, List.map_cons, List.sum_cons, List.countP_cons]
    have rest : k * b.countP q ≤ (b.map (twiceScore x)).sum := ih
    split
    · rename_i here
      have first := each y here
      rw [Nat.mul_add]
      omega
    · rw [Nat.add_zero]
      omega

/-- Two groups that score against each other bound the count from below. -/
theorem le_twicePairs {p q : α → Bool} {k : ℕ} {a b : List α}
    (each : ∀ x, p x → ∀ y, q y → k ≤ twiceScore x y) :
    k * (a.countP p * b.countP q) ≤ twicePairs a b := by
  induction a with
  | nil => simp
  | cons x a ih =>
    rw [twicePairs_cons_left, List.countP_cons, Nat.add_mul, Nat.mul_add]
    split
    · rename_i here
      have first := le_scoreAgainst (b := b) (each x here)
      rw [Nat.one_mul]
      omega
    · rw [Nat.zero_mul, Nat.mul_zero]
      omega

/-! ### The extreme splits of a sorted sample -/

/-- Ties between the first `k` values and the others. -/
def tiesAcross (sorted : List α) (k : ℕ) : ℕ :=
  ((sorted.take k).map (fun x => (sorted.drop k).count x)).sum

lemma scoreAgainst_lowest {x : α} {high : List α} (above : ∀ y ∈ high, x ≤ y) :
    scoreAgainst high x = high.count x := by
  induction high with
  | nil => rfl
  | cons y high ih =>
    obtain ⟨here, later⟩ := List.forall_mem_cons.mp above
    rw [scoreAgainst, List.map_cons, List.sum_cons, List.count_cons, ← ih later, Nat.add_comm]
    congr 1
    simp [twiceScore, here.not_gt]

/-- Where the lowest values stand on one side, only ties across the cut are counted. -/
theorem twicePairs_lowest {sorted : List α} (h : sorted.Pairwise (· ≤ ·)) (k : ℕ) :
    twicePairs (sorted.take k) (sorted.drop k) = tiesAcross sorted k := by
  have across : ∀ x ∈ sorted.take k, ∀ y ∈ sorted.drop k, x ≤ y := by
    rw [← List.take_append_drop k sorted] at h
    exact (List.pairwise_append.mp h).2.2
  refine congrArg List.sum (List.map_congr_left ?_)
  intro x hx
  exact scoreAgainst_lowest (across x hx)

/-- No split of the sample counts less than the one that takes the lowest values. -/
theorem lowest_le_twicePairs {a b sorted : List α} (h : sorted.Pairwise (· ≤ ·))
    (split : (a ++ b).Perm sorted) :
    twicePairs (sorted.take a.length) (sorted.drop a.length) ≤ twicePairs a b := by
  have length : a.length ≤ sorted.length := by
    rw [← split.length_eq, List.length_append]
    omega
  have taken : (sorted.take a.length).length = a.length := by
    rw [List.length_take, Nat.min_eq_left length]
  have low := sum_scoreAgainst_pooled (sorted.take a.length) (sorted.drop a.length)
  have any := sum_scoreAgainst_pooled a b
  rw [List.take_append_drop, taken] at low
  rw [scoreAgainst_perm split] at any
  have least : ((sorted.take a.length).map (scoreAgainst sorted)).sum ≤
      (a.map (scoreAgainst sorted)).sum := by
    have ranked : (sorted.map (scoreAgainst sorted)).Pairwise (· ≤ ·) :=
      List.pairwise_map.mpr (h.imp fun xy => scoreAgainst_mono sorted xy)
    have mapped : (a.map (scoreAgainst sorted) ++ b.map (scoreAgainst sorted)).Perm
        (sorted.map (scoreAgainst sorted)) := by
      rw [← List.map_append]
      exact split.map _
    have low := Sorting.sum_take_le_sum ranked mapped
    rwa [List.length_map, ← List.map_take] at low
  omega

/-- The counts that the splits of one sorted sample span. -/
theorem twicePairs_between {a b sorted : List α} (h : sorted.Pairwise (· ≤ ·))
    (split : (a ++ b).Perm sorted) :
    tiesAcross sorted a.length ≤ twicePairs a b ∧
      twicePairs a b + tiesAcross sorted b.length ≤ 2 * (a.length * b.length) := by
  have low := lowest_le_twicePairs h split
  have high := lowest_le_twicePairs h (List.perm_append_comm.trans split)
  rw [twicePairs_lowest h] at low high
  have both := twicePairs_swap a b
  omega

/-- The other extreme: the first side takes the values behind the first `k`. -/
theorem twicePairs_highest {sorted : List α} (h : sorted.Pairwise (· ≤ ·)) (k : ℕ) :
    twicePairs (sorted.drop k) (sorted.take k) + tiesAcross sorted k =
      2 * ((sorted.drop k).length * (sorted.take k).length) := by
  rw [← twicePairs_lowest h]
  exact twicePairs_swap _ _

end PairCounts
