import Mathlib.Data.List.Sort
import Mathlib.Order.Defs.LinearOrder

/-!
# Order statistics of a partitioned list

A list split about one of its elements, nothing greater before it and nothing
smaller after it, has that element at the same place of its sorted form, and the
least element of what follows at the next.
-/

namespace OrderStatistics

universe u
variable {α : Type u} [LinearOrder α]

def sort (l : List α) : List α := l.insertionSort (· ≤ ·)

lemma sort_perm (l : List α) : (sort l).Perm l := List.perm_insertionSort _ l

lemma sort_sorted (l : List α) : (sort l).Pairwise (· ≤ ·) := List.pairwise_insertionSort _ l

lemma length_sort (l : List α) : (sort l).length = l.length := (sort_perm l).length_eq

lemma mem_sort {l : List α} {x : α} : x ∈ sort l ↔ x ∈ l := (sort_perm l).mem_iff

lemma sort_eq_of_perm {l l' : List α} (h : l.Perm l') : sort l = sort l' :=
  List.Perm.eq_of_pairwise (fun _ _ _ _ => le_antisymm) (sort_sorted l) (sort_sorted l')
    (((sort_perm l).trans h).trans (sort_perm l').symm)

/-- Nothing greater before the middle, nothing smaller after it. -/
structure Partitioned (low : List α) (mid : α) (high : List α) : Prop where
  below : ∀ x ∈ low, x ≤ mid
  above : ∀ x ∈ high, mid ≤ x

theorem sort_of_partitioned {l low high : List α} {mid : α} (perm : l.Perm (low ++ mid :: high))
    (parts : Partitioned low mid high) : sort l = sort low ++ mid :: sort high := by
  have sorted : (sort low ++ mid :: sort high).Pairwise (· ≤ ·) := by
    rw [List.pairwise_append, List.pairwise_cons]
    refine ⟨sort_sorted low, ⟨fun x hx => parts.above x (mem_sort.mp hx), sort_sorted high⟩, ?_⟩
    intro x hx y hy
    have below := parts.below x (mem_sort.mp hx)
    rcases List.mem_cons.mp hy with rfl | hy
    · exact below
    · exact below.trans (parts.above y (mem_sort.mp hy))
  have same : l.Perm (sort low ++ mid :: sort high) :=
    perm.trans ((sort_perm low).symm.append ((sort_perm high).symm.cons mid))
  exact List.Perm.eq_of_pairwise (fun _ _ _ _ => le_antisymm) (sort_sorted l) sorted
    ((sort_perm l).trans same)

/-- The middle of a partition is the order statistic of its place. -/
theorem sort_getElem?_of_partitioned {l low high : List α} {mid : α}
    (perm : l.Perm (low ++ mid :: high)) (parts : Partitioned low mid high) :
    (sort l)[low.length]? = some mid := by
  rw [sort_of_partitioned perm parts, List.getElem?_append_right (length_sort low).le, length_sort,
    Nat.sub_self, List.getElem?_cons_zero]

/-- The next order statistic is the least element after the middle. -/
theorem sort_getElem?_succ_of_partitioned {l low high : List α} {mid least : α}
    (perm : l.Perm (low ++ mid :: high)) (parts : Partitioned low mid high) (member : least ∈ high)
    (smallest : ∀ x ∈ high, least ≤ x) : (sort l)[low.length + 1]? = some least := by
  rw [sort_of_partitioned perm parts,
    List.getElem?_append_right (by rw [length_sort]; exact Nat.le_succ _), length_sort,
    Nat.add_sub_cancel_left, List.getElem?_cons_succ]
  cases sorted : sort high with
  | nil =>
    rw [← mem_sort, sorted] at member
    cases member
  | cons first rest =>
    rw [List.getElem?_cons_zero, Option.some.injEq]
    have listed : first ∈ sort high := by simp [sorted]
    apply le_antisymm
    · rw [← mem_sort, sorted] at member
      rcases List.mem_cons.mp member with same | later
      · exact same.ge
      · have order := sort_sorted high
        rw [sorted] at order
        exact List.rel_of_pairwise_cons order later
    · exact smallest first (mem_sort.mp listed)

end OrderStatistics
