import Mathlib.Algebra.GroupWithZero.Nat
import Mathlib.Data.List.Sort
import Mathlib.Order.Compare
import Mathlib.Tactic.Common

/-!
# Sorting lists that hold the same elements

Where a comparison separates the elements of a list, sorting forgets the order
they came in; where it ties elements, exactly their order among themselves is
kept. Comparisons through a key inherit totality and transitivity.
-/

namespace Sorting

universe u v
variable {α : Type u} {κ : Type v}

lemma filter_swap (p q : α → Bool) (l : List α) :
    (l.filter p).filter q = (l.filter q).filter p := by
  rw [List.filter_filter, List.filter_filter]
  exact List.filter_congr (fun x _ => Bool.and_comm _ _)

section
variable {r : α → α → Prop} [DecidableRel r] [Std.Total r] [IsTrans α r]

theorem insertionSort_eq_of_perm {l l' : List α} (h : l.Perm l')
    (anti : ∀ a ∈ l, ∀ b ∈ l, r a b → r b a → a = b) :
    l.insertionSort r = l'.insertionSort r := by
  have perm : (l.insertionSort r).Perm (l'.insertionSort r) :=
    (List.perm_insertionSort r l).trans (h.trans (List.perm_insertionSort r l').symm)
  refine List.Perm.eq_of_pairwise ?_ (List.pairwise_insertionSort r l)
    (List.pairwise_insertionSort r l') perm
  intro a b ha hb hab hba
  have hb' : b ∈ l := h.mem_iff.mpr ((List.mem_insertionSort r).mp hb)
  exact anti a ((List.mem_insertionSort r).mp ha) b hb' hab hba

/-- Neither of two elements comes strictly before the other. -/
def Tied (r : α → α → Prop) (a b : α) : Prop := r a b ∧ r b a

instance (a b : α) : Decidable (Tied r a b) := inferInstanceAs (Decidable (_ ∧ _))

omit [Std.Total r] in
/-- Sorting is stable. -/
theorem filter_tied_insertionSort (l : List α) (a : α) :
    (l.insertionSort r).filter (fun b => Tied r a b) = l.filter (fun b => Tied r a b) := by
  have ordered : (l.filter (fun b => Tied r a b)).Pairwise r := by
    refine List.pairwise_of_forall_mem_list ?_
    intro b hb c hc
    simp only [List.mem_filter, decide_eq_true_eq] at hb hc
    exact IsTrans.trans b a c hb.2.2 hc.2.1
  have kept : (l.filter (fun b => Tied r a b)).Sublist
      ((l.insertionSort r).filter (fun b => Tied r a b)) := by
    have inside := (List.sublist_insertionSort ordered List.filter_sublist).filter
      (fun b => decide (Tied r a b))
    simpa only [List.filter_filter, Bool.and_self] using inside
  have same := ((List.perm_insertionSort r l).filter (fun b => decide (Tied r a b))).length_eq
  exact (kept.eq_of_length same.symm).symm

omit [DecidableRel r] [IsTrans α r] in
lemma tied_self (a : α) : Tied r a a := by
  have self : r a a := by
    rcases Std.Total.total (r := r) a a with h | h
    · exact h
    · exact h
  exact ⟨self, self⟩

omit [DecidableRel r] [IsTrans α r] in
/-- A sorted list starts with one of the first elements. -/
lemma head_of_sorted {b c : α} {s : List α} (sorted : (b :: s).Pairwise r)
    (hc : c ∈ b :: s) : r b c := by
  rcases List.mem_cons.mp hc with rfl | hc
  · exact (tied_self c).1
  · exact (List.pairwise_cons.mp sorted).1 c hc

omit [IsTrans α r] in
lemma mem_iff_of_tied {l l' : List α}
    (same : ∀ a, l.filter (fun b => Tied r a b) = l'.filter (fun b => Tied r a b)) (x : α) :
    x ∈ l ↔ x ∈ l' := by
  have here : x ∈ l.filter (fun b => Tied r x b) ↔ x ∈ l'.filter (fun b => Tied r x b) := by
    rw [same]
  simpa [List.mem_filter, tied_self] using here

omit [IsTrans α r] in
lemma eq_of_sorted_of_tied {l l' : List α} (sorted : l.Pairwise r) (sorted' : l'.Pairwise r)
    (same : ∀ a, l.filter (fun b => Tied r a b) = l'.filter (fun b => Tied r a b)) : l = l' := by
  have member := mem_iff_of_tied same
  induction l generalizing l' with
  | nil =>
    rcases l' with _ | ⟨c, s'⟩
    · rfl
    · exact absurd ((member c).mpr List.mem_cons_self) (by simp)
  | cons b s ih =>
    rcases l' with _ | ⟨c, s'⟩
    · exact absurd ((member b).mp List.mem_cons_self) (by simp)
    · have tied : Tied r b c :=
        ⟨head_of_sorted sorted ((member c).mpr List.mem_cons_self),
          head_of_sorted sorted' ((member b).mp List.mem_cons_self)⟩
      -- the heads lead the class they share
      have heads := congrArg List.head? (same b)
      simp only [tied_self, tied, decide_true, List.filter_cons_of_pos, List.head?_cons,
        Option.some.injEq] at heads
      subst heads
      have rest : ∀ a, s.filter (fun x => Tied r a x) = s'.filter (fun x => Tied r a x) := by
        intro a
        have here := same a
        by_cases h : Tied r a b
        · simpa [h] using here
        · simpa [h] using here
      rw [ih (List.pairwise_cons.mp sorted).2 (List.pairwise_cons.mp sorted').2 rest
        (mem_iff_of_tied rest)]

/-- Lists sort to the same when every class of tied elements stands in the same order in both. -/
theorem insertionSort_eq_iff {l m : List α} : l.insertionSort r = m.insertionSort r ↔
    ∀ a, l.filter (fun b => Tied r a b) = m.filter (fun b => Tied r a b) := by
  constructor
  · intro h a
    rw [← filter_tied_insertionSort l a, h, filter_tied_insertionSort]
  · intro same
    apply eq_of_sorted_of_tied (List.pairwise_insertionSort r l) (List.pairwise_insertionSort r m)
    intro a
    rw [filter_tied_insertionSort, filter_tied_insertionSort, same]

/-- Taking a part of a sorted list out and sorting it in again changes nothing. -/
theorem insertionSort_filter_append {p : α → Bool} {l m : List α} (kept : ∀ a ∈ l, p a = true)
    (dropped : ∀ a ∈ m, p a = false) :
    (((l ++ m).insertionSort r).filter p ++ m).insertionSort r = (l ++ m).insertionSort r := by
  rw [insertionSort_eq_iff]
  intro a
  have left : l.filter p = l := List.filter_eq_self.mpr kept
  have right : m.filter p = [] := by
    rw [List.filter_eq_nil_iff]
    exact fun x hx => by simp [dropped x hx]
  rw [List.filter_append, filter_swap, filter_tied_insertionSort, filter_swap, List.filter_append l m,
    left, right, List.append_nil, ← List.filter_append]

end

/-- `a` does not come after `b` under `cmp`. -/
def upTo (cmp : κ → κ → Ordering) (key : α → κ) (a b : α) : Prop := cmp (key a) (key b) ≠ .gt

instance (cmp : κ → κ → Ordering) (key : α → κ) : DecidableRel (upTo cmp key) := fun a b =>
  inferInstanceAs (Decidable (cmp (key a) (key b) ≠ .gt))

theorem total_upTo (cmp : κ → κ → Ordering) [Std.OrientedCmp cmp] (key : α → κ) :
    Std.Total (upTo cmp key) where
  total a b := by
    by_cases h : cmp (key a) (key b) = .gt
    · apply Or.inr
      have other : cmp (key b) (key a) = .lt := Std.OrientedCmp.gt_iff_lt.mp h
      simp [upTo, other]
    · exact Or.inl h

theorem trans_upTo (cmp : κ → κ → Ordering) [Std.TransCmp cmp] (key : α → κ) :
    IsTrans α (upTo cmp key) where
  trans a b c hab hbc := by
    simp only [upTo, Ordering.ne_gt_iff_isLE] at *
    exact Std.TransCmp.isLE_trans hab hbc

theorem transCmp_on (cmp : κ → κ → Ordering) [Std.TransCmp cmp] (key : α → κ) :
    Std.TransCmp (fun a b => cmp (key a) (key b)) where
  eq_swap := Std.OrientedCmp.eq_swap
  isLE_trans := Std.TransCmp.isLE_trans

/-- Neither comes after the other only when the comparison says `eq`. -/
theorem eq_of_upTo {cmp : κ → κ → Ordering} [Std.OrientedCmp cmp] {key : α → κ} {a b : α}
    (hab : upTo cmp key a b) (hba : upTo cmp key b a) : cmp (key a) (key b) = .eq := by
  simp only [upTo] at hab hba
  cases h : cmp (key a) (key b) with
  | eq => rfl
  | gt => exact absurd h hab
  | lt => exact absurd (Std.OrientedCmp.gt_iff_lt.mpr h) hba

/-- Sorting by a key that separates the elements forgets their order. -/
theorem sort_eq_of_perm {cmp : κ → κ → Ordering} [Std.TransCmp cmp] {key : α → κ} {l l' : List α}
    (h : l.Perm l') (separates : ∀ a ∈ l, ∀ b ∈ l, cmp (key a) (key b) = .eq → a = b) :
    l.insertionSort (upTo cmp key) = l'.insertionSort (upTo cmp key) := by
  have := total_upTo cmp key
  have := trans_upTo cmp key
  apply insertionSort_eq_of_perm h
  intro a ha b hb hab hba
  exact separates a ha b hb (eq_of_upTo hab hba)

/-- Sums over a descending list only shrink when its head is passed over. -/
lemma sum_take_le_cons {a : ℕ} {l : List ℕ} (above : ∀ x ∈ l, x ≤ a) (k : ℕ) :
    (l.take k).sum ≤ ((a :: l).take k).sum := by
  induction l generalizing a k with
  | nil => simp
  | cons b l ih =>
    obtain ⟨head, rest⟩ := List.forall_mem_cons.mp above
    cases k with
    | zero => simp
    | succ k =>
      cases k with
      | zero => simpa using head
      | succ k =>
        have later := ih rest (k + 1)
        simp only [List.take_succ_cons, List.sum_cons] at later ⊢
        omega

lemma sum_le_sum_take {l s : List ℕ} (sorted : l.Pairwise (· ≥ ·)) (sub : s.Sublist l) {k : ℕ}
    (few : s.length ≤ k) : s.sum ≤ (l.take k).sum := by
  induction sub generalizing k with
  | slnil => simp
  | cons a _ ih =>
    obtain ⟨above, sorted⟩ := List.pairwise_cons.mp sorted
    exact (ih sorted few).trans (sum_take_le_cons above k)
  | cons_cons a _ ih =>
    obtain ⟨_, sorted⟩ := List.pairwise_cons.mp sorted
    cases k with
    | zero => simp at few
    | succ k =>
      have later := ih sorted (Nat.le_of_succ_le_succ few)
      simpa using later

/-- No part of an ascending list has a smaller sum than its beginning. -/
theorem sum_take_le_sum {l s t : List ℕ} (sorted : l.Pairwise (· ≤ ·)) (split : (s ++ t).Perm l) :
    (l.take s.length).sum ≤ s.sum := by
  have descending : l.reverse.Pairwise (· ≥ ·) := List.pairwise_reverse.mpr sorted
  have inside : t.Subperm l.reverse :=
    (List.sublist_append_right s t).subperm.trans (split.trans (List.reverse_perm l).symm).subperm
  obtain ⟨t', perm, sublist⟩ := inside
  -- what is left over is at most the end of the list
  have rest : t'.sum ≤ (l.reverse.take t'.length).sum := sum_le_sum_take descending sublist le_rfl
  have length := split.length_eq
  rw [List.length_append] at length
  have cut : l.length - t'.length = s.length := by
    rw [perm.length_eq]
    omega
  rw [List.take_reverse, List.sum_reverse, cut, perm.sum_nat] at rest
  have whole := split.sum_nat
  rw [List.sum_append] at whole
  have parts := congrArg List.sum (List.take_append_drop s.length l)
  rw [List.sum_append] at parts
  omega

/-- The elements of most weight, at most `k` of them. -/
def heaviest (weight : α → ℕ) (k : ℕ) (l : List α) : List α :=
  (l.insertionSort (fun a b => weight b ≤ weight a)).take k

/-- No `k` elements of a list weigh more than its `k` heaviest. -/
theorem sum_le_sum_heaviest {weight : α → ℕ} {l s : List α} (sub : s.Subperm l) {k : ℕ}
    (few : s.length ≤ k) : (s.map weight).sum ≤ ((heaviest weight k l).map weight).sum := by
  have : Std.Total (fun a b : α => weight b ≤ weight a) := ⟨fun a b => le_total _ _⟩
  have : IsTrans α (fun a b => weight b ≤ weight a) := ⟨fun _ _ _ hab hbc => hbc.trans hab⟩
  have sorted : ((l.insertionSort (fun a b => weight b ≤ weight a)).map weight).Pairwise
      (· ≥ ·) := List.pairwise_map.mpr (List.pairwise_insertionSort _ l)
  have inside := sub.trans (List.perm_insertionSort (fun a b => weight b ≤ weight a) l).symm.subperm
  obtain ⟨s', perm, sublist⟩ := inside
  rw [← (perm.map weight).sum_nat, heaviest, List.map_take]
  refine sum_le_sum_take sorted (sublist.map weight) ?_
  rw [List.length_map, perm.length_eq]
  exact few

end Sorting
