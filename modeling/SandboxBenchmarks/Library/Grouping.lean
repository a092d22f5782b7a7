import Mathlib.Data.List.Flatten
import SandboxBenchmarks.Library.Keyed

/-!
# Groups and chunks

A list split by key, in the order in which the keys first occur, and a list cut
into consecutive pieces of one size.
-/

namespace Grouping

open Keyed

universe u v
variable {κ : Type u} {α : Type v} [DecidableEq κ]

/-- Each element joins the group of its key; a new key opens a group behind the others. -/
def groups (key : α → κ) (l : List α) : List (κ × List α) :=
  l.foldl (fun m x => set m (key x) ((get? m (key x)).getD [] ++ [x])) []

/-- `for (offset = 0; offset < l.length; offset += size) l.slice(offset, offset + size)` -/
def chunks (size : ℕ) (l : List α) : List (List α) :=
  (List.range ((l.length + size - 1) / size)).map fun i => (l.drop (i * size)).take size

theorem keys_groups (key : α → κ) (l : List α) :
    (groups key l).map Prod.fst = Keyed.setOf (l.map key) := by
  suffices all : ∀ m : List (κ × List α),
      (l.foldl (fun m x => set m (key x) ((get? m (key x)).getD [] ++ [x])) m).map Prod.fst =
        (l.map key).foldl add (m.map Prod.fst) from all []
  induction l with
  | nil => exact fun m => rfl
  | cons x l ih =>
    intro m
    rw [List.foldl_cons, ih, keys_set, List.map_cons, List.foldl_cons]

theorem nodup_groups (key : α → κ) (l : List α) : ((groups key l).map Prod.fst).Nodup := by
  rw [keys_groups]
  apply nodup_setOf

/-- A group holds the elements of its key, in their order. -/
theorem eq_filter_of_mem_groups {key : α → κ} {l : List α} {k : κ} {group : List α}
    (member : (k, group) ∈ groups key l) : group = l.filter (fun x => key x = k) := by
  have reads : ∀ (l : List α) (m : List (κ × List α)),
      (get? (l.foldl (fun m x => set m (key x) ((get? m (key x)).getD [] ++ [x])) m) k).getD [] =
        (get? m k).getD [] ++ l.filter (fun x => key x = k) := by
    intro l
    induction l with
    | nil => exact fun m => (List.append_nil _).symm
    | cons x l ih =>
      intro m
      rw [List.foldl_cons, ih, get?_set]
      by_cases here : key x = k
      · subst here
        simp
      · simp [here]
  have found := reads l []
  rw [← groups, get?_of_mem (nodup_groups key l) member] at found
  simpa [get?] using found

theorem mem_of_mem_groups {key : α → κ} {l : List α} {k : κ} {group : List α} {x : α}
    (member : (k, group) ∈ groups key l) (hx : x ∈ group) : x ∈ l ∧ key x = k := by
  rw [eq_filter_of_mem_groups member, List.mem_filter] at hx
  exact ⟨hx.1, of_decide_eq_true hx.2⟩

theorem ne_nil_of_mem_groups {key : α → κ} {l : List α} {k : κ} {group : List α}
    (member : (k, group) ∈ groups key l) : group ≠ [] := by
  have keyed : k ∈ l.map key := by
    rw [← mem_setOf, ← keys_groups]
    exact List.mem_map_of_mem member
  obtain ⟨x, hx, rfl⟩ := List.mem_map.mp keyed
  rw [eq_filter_of_mem_groups member]
  exact List.ne_nil_of_mem (List.mem_filter.mpr ⟨hx, decide_eq_true rfl⟩)

theorem exists_group (key : α → κ) {l : List α} {x : α} (hx : x ∈ l) :
    ∃ group, (key x, group) ∈ groups key l ∧ x ∈ group := by
  have keyed : key x ∈ (groups key l).map Prod.fst := by
    rw [keys_groups, mem_setOf]
    exact List.mem_map_of_mem hx
  obtain ⟨⟨_, group⟩, member, rfl⟩ := List.mem_map.mp keyed
  refine ⟨group, member, ?_⟩
  rw [eq_filter_of_mem_groups member, List.mem_filter]
  exact ⟨hx, decide_eq_true rfl⟩

theorem nodup_flatMap_groups {key : α → κ} {l : List α} (nodup : l.Nodup) :
    ((groups key l).flatMap Prod.snd).Nodup := by
  rw [List.nodup_flatMap]
  constructor
  · rintro ⟨k, group⟩ member
    rw [eq_filter_of_mem_groups member]
    exact nodup.filter _
  · have distinct := nodup_groups key l
    rw [List.Nodup, List.pairwise_map] at distinct
    refine distinct.imp_of_mem ?_
    rintro ⟨k, group⟩ ⟨k', group'⟩ member member' other x hx hx'
    apply other
    exact (mem_of_mem_groups member hx).2.symm.trans (mem_of_mem_groups member' hx').2

/-- Splitting a list by key loses nothing. -/
theorem perm_flatMap_groups {key : α → κ} {l : List α} (nodup : l.Nodup) :
    ((groups key l).flatMap Prod.snd).Perm l := by
  refine (List.perm_ext_iff_of_nodup (nodup_flatMap_groups nodup) nodup).mpr fun x => ?_
  rw [List.mem_flatMap]
  constructor
  · rintro ⟨⟨k, group⟩, member, hx⟩
    exact (mem_of_mem_groups member hx).1
  · intro hx
    obtain ⟨group, member, inGroup⟩ := exists_group key hx
    exact ⟨(key x, group), member, inGroup⟩

theorem setOf_sublist (l : List κ) : (Keyed.setOf l).Sublist l := by
  suffices all : ∀ s : List κ, ∃ t, l.foldl add s = s ++ t ∧ t.Sublist l by
    obtain ⟨t, split, sub⟩ := all []
    rw [Keyed.setOf, split, List.nil_append]
    exact sub
  induction l with
  | nil => exact fun s => ⟨[], (List.append_nil s).symm, List.Sublist.refl _⟩
  | cons x l ih =>
    intro s
    obtain ⟨t, split, sub⟩ := ih (add s x)
    rw [List.foldl_cons, split, add]
    split
    · exact ⟨t, rfl, sub.cons x⟩
    · exact ⟨x :: t, by simp, sub.cons_cons x⟩

/-- Groups stand in the order of their elements when that order respects the key. -/
theorem pairwise_groups {key : α → κ} {l : List α} {rank : α → ℕ}
    (sorted : l.Pairwise (fun a b => rank a ≤ rank b))
    (respects : ∀ a ∈ l, ∀ b ∈ l, key a = key b → rank a = rank b) :
    (groups key l).Pairwise fun g h => ∀ a ∈ g.2, ∀ b ∈ h.2, rank a ≤ rank b := by
  have keys : (Keyed.setOf (l.map key)).Pairwise fun k k' =>
      ∀ a ∈ l, ∀ b ∈ l, key a = k → key b = k' → rank a ≤ rank b := by
    apply List.Pairwise.sublist (setOf_sublist _)
    rw [List.pairwise_map]
    refine sorted.imp_of_mem ?_
    intro x y hx hy below a ha b hb same same'
    rw [respects a ha x hx same, respects b hb y hy same']
    exact below
  rw [← keys_groups, List.pairwise_map] at keys
  refine keys.imp_of_mem ?_
  rintro ⟨k, group⟩ ⟨k', group'⟩ member member' below a ha b hb
  obtain ⟨inList, keyed⟩ := mem_of_mem_groups member ha
  obtain ⟨inList', keyed'⟩ := mem_of_mem_groups member' hb
  exact below a inList b inList' keyed keyed'

/-- Where one block at most has what is sought, the order of the blocks does not matter. -/
theorem find?_flatMap_perm {β : Type*} {l l' : List α} {f : α → List β} {p : β → Bool}
    (perm : l.Perm l')
    (one : l.Pairwise fun a b => (f a).find? p = none ∨ (f b).find? p = none) :
    (l.flatMap f).find? p = (l'.flatMap f).find? p := by
  induction perm with
  | nil => rfl
  | cons a perm ih =>
    rw [List.flatMap_cons, List.flatMap_cons, List.find?_append, List.find?_append,
      ih (List.pairwise_cons.mp one).2]
  | swap a b l =>
    obtain ⟨first, _⟩ := List.pairwise_cons.mp one
    simp only [List.flatMap_cons, List.find?_append]
    rcases first a List.mem_cons_self with none | none
    · rw [none]
      simp
    · rw [none]
      simp
  | trans perm _ ih ih' =>
    rw [ih one, ih' (perm.pairwise one fun h => h.symm)]

/-! ### Chunks -/

variable {size : ℕ} {l : List α}

lemma flatten_range_chunks (count : ℕ) :
    ((List.range count).map fun i => (l.drop (i * size)).take size).flatten =
      l.take (count * size) := by
  induction count with
  | zero => simp
  | succ count ih =>
    rw [List.range_succ, List.map_append, List.flatten_append, ih, Nat.succ_mul, List.take_add]
    simp

/-- Cutting a list loses nothing and changes no order. -/
theorem flatten_chunks (positive : 0 < size) : (chunks size l).flatten = l := by
  rw [chunks, flatten_range_chunks, List.take_of_length_le]
  have covers := Nat.div_add_mod (l.length + size - 1) size
  have short := Nat.mod_lt (l.length + size - 1) positive
  rw [Nat.mul_comm] at covers
  omega

theorem length_chunk {chunk : List α} (member : chunk ∈ chunks size l) : chunk.length ≤ size := by
  obtain ⟨i, _, rfl⟩ := List.mem_map.mp member
  exact List.length_take_le _ _

theorem chunk_ne_nil {chunk : List α} (positive : 0 < size) (member : chunk ∈ chunks size l) :
    chunk ≠ [] := by
  obtain ⟨i, hi, rfl⟩ := List.mem_map.mp member
  rw [List.mem_range, Nat.lt_div_iff_mul_lt positive] at hi
  intro empty
  have none := congrArg List.length empty
  rw [List.length_take, List.length_drop, List.length_nil] at none
  omega

theorem mem_of_mem_chunk {chunk : List α} (positive : 0 < size) (member : chunk ∈ chunks size l)
    {x : α} (hx : x ∈ chunk) : x ∈ l := by
  rw [← flatten_chunks positive (l := l)]
  exact List.mem_flatten_of_mem member hx

/-! ### Keys of joined parts -/

/-- A separator that the first part does not contain tells where it ends. -/
theorem cut_unique {sep : α} {a a' b b' : List α} (ha : sep ∉ a) (ha' : sep ∉ a')
    (same : a ++ sep :: b = a' ++ sep :: b') : a = a' ∧ b = b' := by
  induction a generalizing a' with
  | nil =>
    cases a' with
    | nil => exact ⟨rfl, List.tail_eq_of_cons_eq same⟩
    | cons x a' =>
      rw [List.nil_append, List.cons_append, List.cons.injEq] at same
      exact absurd (same.1 ▸ List.mem_cons_self) ha'
  | cons x a ih =>
    cases a' with
    | nil =>
      rw [List.nil_append, List.cons_append, List.cons.injEq] at same
      exact absurd (same.1 ▸ List.mem_cons_self) ha
    | cons y a' =>
      rw [List.cons_append, List.cons_append, List.cons.injEq] at same
      rw [List.mem_cons, not_or] at ha ha'
      obtain ⟨rfl, rfl⟩ := ih ha.2 ha'.2 same.2
      exact ⟨by rw [same.1], rfl⟩

end Grouping
