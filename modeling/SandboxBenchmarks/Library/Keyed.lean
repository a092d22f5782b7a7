import Mathlib.Algebra.GroupWithZero.Nat
import Mathlib.Data.List.Nodup
import Mathlib.Data.List.Perm.Subperm
import Mathlib.Tactic.Common

/-!
# Insertion-ordered sets and maps

A set keeps the first of equal elements, a map keeps the position of the first
and the value of the last write under a key. Sizes against the length of the
list a collection was built from tell whether that list repeats a key.
-/

namespace Keyed

universe u v
variable {κ : Type u} {α : Type v} [DecidableEq κ]

def add (s : List κ) (x : κ) : List κ := if x ∈ s then s else s ++ [x]

/-- `new Set(l)`. -/
def setOf (l : List κ) : List κ := l.foldl add []

def get? : List (κ × α) → κ → Option α
  | [], _ => none
  | (j, a) :: m, k => if j = k then some a else get? m k

def has (m : List (κ × α)) (k : κ) : Bool := (get? m k).isSome

def set : List (κ × α) → κ → α → List (κ × α)
  | [], k, a => [(k, a)]
  | (j, b) :: m, k, a => if j = k then (k, a) :: m else (j, b) :: set m k a

/-- `new Map(l)`. -/
def mapOf (l : List (κ × α)) : List (κ × α) := l.foldl (fun m e => set m e.1 e.2) []

@[simp] theorem mem_add {s : List κ} {x y : κ} : y ∈ add s x ↔ y ∈ s ∨ y = x := by
  unfold add
  split
  · rename_i h
    constructor
    · exact Or.inl
    · rintro (hy | rfl)
      · exact hy
      · exact h
  · simp

theorem nodup_add {s : List κ} (h : s.Nodup) (x : κ) : (add s x).Nodup := by
  unfold add
  split
  · exact h
  · rename_i fresh
    exact List.nodup_append.mpr ⟨h, by simp, by
      intro a ha b hb same
      rw [List.mem_singleton] at hb
      exact fresh (hb ▸ same ▸ ha)⟩

theorem mem_foldl_add {l s : List κ} {y : κ} : y ∈ l.foldl add s ↔ y ∈ s ∨ y ∈ l := by
  induction l generalizing s with
  | nil => simp
  | cons x l ih =>
    rw [List.foldl_cons, ih, mem_add, List.mem_cons, or_assoc]

@[simp] theorem mem_setOf {l : List κ} {y : κ} : y ∈ setOf l ↔ y ∈ l := by
  simp [setOf, mem_foldl_add]

theorem nodup_foldl_add {l s : List κ} (h : s.Nodup) : (l.foldl add s).Nodup := by
  induction l generalizing s with
  | nil => exact h
  | cons x l ih => exact ih (nodup_add h x)

theorem nodup_setOf (l : List κ) : (setOf l).Nodup := nodup_foldl_add List.nodup_nil

theorem setOf_of_nodup {l : List κ} (h : l.Nodup) : setOf l = l := by
  have key : ∀ post pre : List κ, (pre ++ post).Nodup → post.foldl add pre = pre ++ post := by
    intro post
    induction post with
    | nil => intro pre _; simp
    | cons x post ih =>
      intro pre h
      have fresh : x ∉ pre := by
        intro hx
        exact (List.nodup_append.mp h).2.2 x hx x (by simp) rfl
      rw [List.foldl_cons, add, if_neg fresh, ih (pre ++ [x]) (by simpa using h)]
      simp
  exact key l [] h

/-- A set is as large as its source exactly when the source repeats nothing. -/
theorem length_setOf_eq_iff {l : List κ} : (setOf l).length = l.length ↔ l.Nodup := by
  constructor
  · intro h
    have sub : setOf l ⊆ l := fun y hy => mem_setOf.mp hy
    have perm := (List.subperm_of_subset (nodup_setOf l) sub).perm_of_length_le (Nat.le_of_eq h.symm)
    exact perm.nodup_iff.mp (nodup_setOf l)
  · intro h
    rw [setOf_of_nodup h]

theorem keys_set (m : List (κ × α)) (k : κ) (a : α) :
    (set m k a).map Prod.fst = add (m.map Prod.fst) k := by
  induction m with
  | nil => rfl
  | cons e m ih =>
    obtain ⟨j, b⟩ := e
    by_cases here : j = k
    · simp [set, add, here]
    · have other : ¬ k = j := fun h => here h.symm
      simp only [set, here, if_false, List.map_cons, ih, add, List.mem_cons, other, false_or]
      split
      · rfl
      · rfl

theorem mem_set {m : List (κ × α)} {k : κ} {a : α} {e : κ × α} (h : e ∈ set m k a) :
    e = (k, a) ∨ e ∈ m := by
  induction m with
  | nil => exact Or.inl (List.mem_singleton.mp h)
  | cons d m ih =>
    obtain ⟨j, b⟩ := d
    simp only [set] at h
    split at h
    · exact (List.mem_cons.mp h).imp_right (List.mem_cons_of_mem _)
    · rcases List.mem_cons.mp h with rfl | h
      · exact Or.inr List.mem_cons_self
      · exact (ih h).imp_right (List.mem_cons_of_mem _)

@[simp] theorem get?_set (m : List (κ × α)) (k j : κ) (a : α) :
    get? (set m k a) j = if k = j then some a else get? m j := by
  induction m with
  | nil => rfl
  | cons e m ih =>
    obtain ⟨i, b⟩ := e
    by_cases here : i = k
    · subst here
      by_cases hj : i = j
      · simp [set, get?, hj]
      · simp [set, get?, hj]
    · by_cases hj : i = j
      · subst hj
        have other : ¬ k = i := fun h => here h.symm
        simp [set, get?, here, other]
      · simp [set, get?, here, hj, ih]

theorem keys_mapOf (l : List (κ × α)) : (mapOf l).map Prod.fst = setOf (l.map Prod.fst) := by
  have key : ∀ (l m : List (κ × α)), (l.foldl (fun m e => set m e.1 e.2) m).map Prod.fst =
      (l.map Prod.fst).foldl add (m.map Prod.fst) := by
    intro l
    induction l with
    | nil => intro m; rfl
    | cons e l ih => intro m; rw [List.foldl_cons, ih, keys_set]; rfl
  exact key l []

theorem length_mapOf_eq_iff {l : List (κ × α)} :
    (mapOf l).length = l.length ↔ (l.map Prod.fst).Nodup := by
  rw [← length_setOf_eq_iff, ← keys_mapOf, List.length_map, List.length_map]

theorem set_of_fresh {m : List (κ × α)} {k : κ} (h : k ∉ m.map Prod.fst) (a : α) :
    set m k a = m ++ [(k, a)] := by
  induction m with
  | nil => rfl
  | cons e m ih =>
    obtain ⟨j, b⟩ := e
    simp only [List.map_cons, List.mem_cons, not_or] at h
    have other : ¬ j = k := fun same => h.1 same.symm
    simp [set, other, ih h.2]

/-- With distinct keys the map is the list it was built from. -/
theorem mapOf_of_nodup {l : List (κ × α)} (h : (l.map Prod.fst).Nodup) : mapOf l = l := by
  have key : ∀ post pre : List (κ × α), ((pre ++ post).map Prod.fst).Nodup →
      post.foldl (fun m e => set m e.1 e.2) pre = pre ++ post := by
    intro post
    induction post with
    | nil => intro pre _; simp
    | cons e post ih =>
      intro pre h
      have fresh : e.1 ∉ pre.map Prod.fst := by
        intro he
        rw [List.map_append] at h
        exact (List.nodup_append.mp h).2.2 e.1 he e.1 (by simp) rfl
      rw [List.foldl_cons, set_of_fresh fresh, ih (pre ++ [(e.1, e.2)]) (by simpa using h)]
      simp
  exact key l [] h

theorem mem_of_get? {m : List (κ × α)} {k : κ} {a : α} (h : get? m k = some a) : (k, a) ∈ m := by
  induction m with
  | nil => simp [get?] at h
  | cons e m ih =>
    obtain ⟨j, b⟩ := e
    by_cases here : j = k
    · simp only [get?, here, if_true, Option.some.injEq] at h
      simp [here, h]
    · simp only [get?, here, if_false] at h
      exact List.mem_cons_of_mem _ (ih h)

theorem get?_of_mem {m : List (κ × α)} (nodup : (m.map Prod.fst).Nodup) {k : κ} {a : α}
    (h : (k, a) ∈ m) : get? m k = some a := by
  induction m with
  | nil => simp at h
  | cons e m ih =>
    obtain ⟨j, b⟩ := e
    rw [List.map_cons, List.nodup_cons] at nodup
    rcases List.mem_cons.mp h with same | h
    · simp only [Prod.mk.injEq] at same
      simp [get?, same]
    · have other : ¬ j = k := by
        rintro rfl
        exact nodup.1 (List.mem_map.mpr ⟨_, h, rfl⟩)
      simp only [get?, other, if_false]
      exact ih nodup.2 h

/-- The order of distinct keys does not matter. -/
theorem get?_of_perm {m m' : List (κ × α)} (nodup : (m.map Prod.fst).Nodup) (perm : m.Perm m')
    (k : κ) : get? m k = get? m' k := by
  have nodup' : (m'.map Prod.fst).Nodup := (perm.map Prod.fst).nodup_iff.mp nodup
  cases found : get? m' k with
  | some a => exact get?_of_mem nodup (perm.mem_iff.mpr (mem_of_get? found))
  | none =>
    cases found' : get? m k with
    | none => rfl
    | some a =>
      rw [get?_of_mem nodup' (perm.mem_iff.mp (mem_of_get? found'))] at found
      cases found

theorem get?_eq_none_iff {m : List (κ × α)} {k : κ} : get? m k = none ↔ k ∉ m.map Prod.fst := by
  induction m with
  | nil => simp [get?]
  | cons e m ih =>
    obtain ⟨j, b⟩ := e
    by_cases here : j = k
    · simp [get?, here]
    · have other : ¬ k = j := fun h => here h.symm
      simp only [get?, here, if_false, ih, List.map_cons, List.mem_cons, other, false_or]

@[simp] theorem has_iff {m : List (κ × α)} {k : κ} : has m k = true ↔ k ∈ m.map Prod.fst := by
  rw [has, Option.isSome_iff_ne_none, ne_eq, get?_eq_none_iff, not_not]

theorem nodup_keys_set {m : List (κ × α)} (h : (m.map Prod.fst).Nodup) (k : κ) (a : α) :
    ((set m k a).map Prod.fst).Nodup := by
  rw [keys_set]
  exact nodup_add h k

theorem mem_keys_of_get? {m : List (κ × α)} {k : κ} {a : α} (h : get? m k = some a) :
    k ∈ m.map Prod.fst :=
  List.mem_map.mpr ⟨(k, a), mem_of_get? h, rfl⟩

theorem exists_get? {m : List (κ × α)} {k : κ} (h : k ∈ m.map Prod.fst) :
    ∃ a, get? m k = some a :=
  Option.isSome_iff_exists.mp (has_iff.mpr h)

/-- Two maps that agree under every key hold the same values, up to order. -/
theorem values_perm {β : Type*} {m m' : List (κ × α)} {f : α → β}
    (nodup : (m.map Prod.fst).Nodup) (nodup' : (m'.map Prod.fst).Nodup)
    (agree : ∀ k, (get? m k).map f = (get? m' k).map f) :
    (m.map (fun e => f e.2)).Perm (m'.map (fun e => f e.2)) := by
  have lookup : ∀ {m : List (κ × α)}, (m.map Prod.fst).Nodup → ∀ k b,
      (k, b) ∈ m.map (fun e => (e.1, f e.2)) ↔ (get? m k).map f = some b := by
    intro m nodup k b
    simp only [List.mem_map, Prod.mk.injEq, Option.map_eq_some_iff]
    constructor
    · rintro ⟨⟨j, a⟩, he, rfl, rfl⟩
      exact ⟨a, get?_of_mem nodup he, rfl⟩
    · rintro ⟨a, found, rfl⟩
      exact ⟨(k, a), mem_of_get? found, rfl, rfl⟩
  have distinct : ∀ {m : List (κ × α)}, (m.map Prod.fst).Nodup →
      (m.map (fun e => (e.1, f e.2))).Nodup := by
    intro m nodup
    apply List.Nodup.of_map Prod.fst
    simpa only [List.map_map, Function.comp_def] using nodup
  have pairs : (m.map (fun e => (e.1, f e.2))).Perm (m'.map (fun e => (e.1, f e.2))) := by
    rw [List.perm_ext_iff_of_nodup (distinct nodup) (distinct nodup')]
    rintro ⟨k, b⟩
    rw [lookup nodup, lookup nodup', agree]
  simpa only [List.map_map, Function.comp_def] using pairs.map Prod.snd

/-- Maps that agree under every key hold the same entries. -/
theorem perm_of_get?_eq {m m' : List (κ × α)} (nodup : (m.map Prod.fst).Nodup)
    (nodup' : (m'.map Prod.fst).Nodup) (agree : ∀ k, get? m k = get? m' k) : m.Perm m' := by
  rw [List.perm_ext_iff_of_nodup (List.Nodup.of_map _ nodup) (List.Nodup.of_map _ nodup')]
  rintro ⟨k, a⟩
  constructor
  · intro h
    exact mem_of_get? (agree k ▸ get?_of_mem nodup h)
  · intro h
    exact mem_of_get? ((agree k).symm ▸ get?_of_mem nodup' h)

/-- Among elements of distinct keys a search for one's key finds that one. -/
theorem find?_of_nodup {β : Type*} {l : List β} {key : β → κ} (nodup : (l.map key).Nodup) {x : β}
    (member : x ∈ l) : l.find? (fun y => decide (key y = key x)) = some x := by
  cases found : l.find? fun y => decide (key y = key x) with
  | none =>
    rw [List.find?_eq_none] at found
    exact absurd (decide_eq_true rfl) (found x member)
  | some y =>
    have same := List.find?_some found
    rw [List.inj_on_of_nodup_map nodup (List.mem_of_find?_eq_some found) member
      (of_decide_eq_true same)]

/-- A write exchanges the old value's weight for the new one's. -/
theorem sum_set (f : α → ℕ) (m : List (κ × α)) (k : κ) (a : α) :
    ((set m k a).map (fun e => f e.2)).sum + ((get? m k).map f).getD 0 =
      (m.map (fun e => f e.2)).sum + f a := by
  induction m with
  | nil => simp [set, get?]
  | cons e m ih =>
    obtain ⟨j, b⟩ := e
    by_cases here : j = k
    · simp only [set, get?, here, if_true, List.map_cons, List.sum_cons, Option.map_some,
        Option.getD_some]
      omega
    · simp only [set, get?, here, if_false, List.map_cons, List.sum_cons]
      omega

end Keyed
