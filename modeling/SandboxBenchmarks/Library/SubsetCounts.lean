import Mathlib.Data.Finset.Powerset
import Mathlib.Data.Nat.Choose.Basic
import Mathlib.Algebra.BigOperators.Group.Finset.Basic
import Mathlib.Algebra.Order.BigOperators.Group.Finset

/-!
# Fixed-size subsets counted by weight

`subsetCount w T k s` is the number of `k`-element subsets of `T` whose weights
add up to `s`. Inserting one element obeys the Pascal-like recurrence a 0/1
knapsack table relies on, and the counts of all sums add up to a binomial
coefficient. Nothing here names a program.
-/

namespace SubsetCounts

open Finset

universe u
variable {ι : Type u} [DecidableEq ι]

/-- The `k`-element subsets of `T`, selected by their total weight `s`. -/
def ofWeight (w : ι → Nat) (T : Finset ι) (k s : Nat) : Finset (Finset ι) :=
  (T.powersetCard k).filter (fun S => ∑ i ∈ S, w i = s)

def subsetCount (w : ι → Nat) (T : Finset ι) (k s : Nat) : Nat :=
  (ofWeight w T k s).card

omit [DecidableEq ι] in
theorem mem_ofWeight {w : ι → Nat} {T : Finset ι} {k s : Nat} {S : Finset ι} :
    S ∈ ofWeight w T k s ↔ S ⊆ T ∧ S.card = k ∧ ∑ i ∈ S, w i = s := by
  simp only [ofWeight, mem_filter, mem_powersetCard, and_assoc]

omit [DecidableEq ι] in
theorem subsetCount_congr {w v : ι → Nat} {T : Finset ι} (h : ∀ i ∈ T, w i = v i)
    (k s : Nat) : subsetCount w T k s = subsetCount v T k s := by
  have sums : ∀ S ∈ T.powersetCard k, ∑ i ∈ S, w i = ∑ i ∈ S, v i := fun S hS =>
    sum_congr rfl (fun i hi => h i ((mem_powersetCard.mp hS).1 hi))
  simp only [subsetCount, ofWeight]
  rw [filter_congr (fun S hS => by rw [sums S hS])]

omit [DecidableEq ι] in
/-- The empty choice is the only one of size zero. -/
theorem subsetCount_zero (w : ι → Nat) (T : Finset ι) (s : Nat) :
    subsetCount w T 0 s = if s = 0 then 1 else 0 := by
  have only : ∀ S, S ∈ ofWeight w T 0 s ↔ S = ∅ ∧ s = 0 := by
    intro S
    rw [mem_ofWeight, card_eq_zero]
    constructor
    · rintro ⟨_, rfl, h⟩
      exact ⟨rfl, h.symm⟩
    · rintro ⟨rfl, rfl⟩
      exact ⟨empty_subset T, rfl, rfl⟩
  by_cases hs : s = 0
  · have single : ofWeight w T 0 s = {∅} := by
      ext S
      rw [only, mem_singleton, and_iff_left hs]
    rw [subsetCount, single, card_singleton, if_pos hs]
  · have none : ofWeight w T 0 s = ∅ := by
      ext S
      rw [only, iff_false_right (notMem_empty S)]
      exact fun h => hs h.2
    rw [subsetCount, none, card_empty, if_neg hs]

omit [DecidableEq ι] in
theorem subsetCount_empty (w : ι → Nat) (k s : Nat) :
    subsetCount w (∅ : Finset ι) k s = if k = 0 ∧ s = 0 then 1 else 0 := by
  cases k with
  | zero => simp [subsetCount_zero]
  | succ k =>
    have none : (∅ : Finset ι).powersetCard (k + 1) = ∅ := by
      rw [powersetCard_eq_empty]
      simp
    simp [subsetCount, ofWeight, none]

/-- A subset of `insert x T` either avoids `x` or is `x` joined to a smaller subset of `T`. -/
theorem subsetCount_insert (w : ι → Nat) {T : Finset ι} {x : ι} (hx : x ∉ T) (k s : Nat) :
    subsetCount w (insert x T) (k + 1) s =
      subsetCount w T (k + 1) s +
        (if w x ≤ s then subsetCount w T k (s - w x) else 0) := by
  have fresh : ∀ S ∈ T.powersetCard k, x ∉ S := fun S hS hxS =>
    hx ((mem_powersetCard.mp hS).1 hxS)
  have disjoint : Disjoint (ofWeight w T (k + 1) s)
      (((T.powersetCard k).image (insert x)).filter (fun S => ∑ i ∈ S, w i = s)) := by
    rw [disjoint_left]
    intro S hS hS'
    obtain ⟨R, _, rfl⟩ := mem_image.mp (mem_filter.mp hS').1
    exact hx ((mem_ofWeight.mp hS).1 (mem_insert_self x R))
  have joined : (((T.powersetCard k).image (insert x)).filter
      (fun S => ∑ i ∈ S, w i = s)).card =
        if w x ≤ s then subsetCount w T k (s - w x) else 0 := by
    rw [filter_image]
    rw [card_image_of_injOn]
    · by_cases hle : w x ≤ s
      · rw [if_pos hle]
        apply congrArg card
        apply filter_congr
        intro S hS
        rw [sum_insert (fresh S hS)]
        omega
      · rw [if_neg hle, card_eq_zero, filter_eq_empty_iff]
        intro S hS
        rw [sum_insert (fresh S hS)]
        omega
    · intro S hS R hR same
      have hxS := fresh S (mem_filter.mp hS).1
      have hxR := fresh R (mem_filter.mp hR).1
      calc S = (insert x S).erase x := (erase_insert hxS).symm
        _ = (insert x R).erase x := by rw [same]
        _ = R := erase_insert hxR
  calc subsetCount w (insert x T) (k + 1) s
      = (ofWeight w T (k + 1) s ∪ ((T.powersetCard k).image (insert x)).filter
          (fun S => ∑ i ∈ S, w i = s)).card := by
        rw [subsetCount, ofWeight, powersetCard_succ_insert hx, filter_union]
        rfl
    _ = _ := by rw [card_union_of_disjoint disjoint, joined]; rfl

omit [DecidableEq ι] in
theorem subsetCount_le_choose (w : ι → Nat) (T : Finset ι) (k s : Nat) :
    subsetCount w T k s ≤ T.card.choose k := by
  rw [← card_powersetCard k T]
  exact card_filter_le _ _

omit [DecidableEq ι] in
/-- Weights are non-negative, so no subset weighs more than everything. -/
theorem subsetCount_eq_zero_of_lt (w : ι → Nat) (T : Finset ι) (k s : Nat)
    (h : ∑ i ∈ T, w i < s) : subsetCount w T k s = 0 := by
  rw [subsetCount, card_eq_zero, eq_empty_iff_forall_notMem]
  intro S hS
  obtain ⟨sub, _, sum⟩ := mem_ofWeight.mp hS
  have := sum_le_sum_of_subset (f := w) sub
  omega

omit [DecidableEq ι] in
/-- Subsets satisfying a test on their weight, counted weight by weight. -/
theorem card_filter_weight (w : ι → Nat) (T : Finset ι) (k : Nat) (p : Nat → Prop)
    [DecidablePred p] (bound : Nat) (hb : ∑ i ∈ T, w i < bound) :
    ((T.powersetCard k).filter (fun S => p (∑ i ∈ S, w i))).card =
      ∑ s ∈ (range bound).filter p, subsetCount w T k s := by
  rw [card_eq_sum_card_fiberwise (f := fun S => ∑ i ∈ S, w i)
    (t := (range bound).filter p)]
  · apply sum_congr rfl
    intro s hs
    apply congrArg card
    ext S
    simp only [ofWeight, mem_filter]
    constructor
    · rintro ⟨⟨hS, _⟩, rfl⟩
      exact ⟨hS, rfl⟩
    · rintro ⟨hS, rfl⟩
      exact ⟨⟨hS, (mem_filter.mp hs).2⟩, rfl⟩
  · intro S hS
    obtain ⟨hS, hp⟩ := mem_filter.mp hS
    have lighter : ∑ i ∈ S, w i < bound :=
      (sum_le_sum_of_subset (f := w) (mem_powersetCard.mp hS).1).trans_lt hb
    exact mem_coe.mpr (mem_filter.mpr ⟨mem_range.mpr lighter, hp⟩)

end SubsetCounts
