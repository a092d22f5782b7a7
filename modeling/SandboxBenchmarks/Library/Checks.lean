import Mathlib.Data.List.Forall2
import Mathlib.Data.List.Perm.Basic
import Mathlib.Tactic.Common

/-!
# Computations that stop at the first failed check

Inversion rules for `Except`, a check as a unit-valued computation, and the
invariant rule for a left fold whose steps may fail.
-/

namespace Checks

variable {ε α β : Type}

/-- `if (bad) throw error`. -/
def throwIf (bad : Prop) [Decidable bad] (error : ε) : Except ε Unit :=
  if bad then .error error else .ok ()

@[simp] theorem throwIf_eq_ok {bad : Prop} [Decidable bad] {error : ε} {u : Unit} :
    throwIf bad error = .ok u ↔ ¬ bad := by
  by_cases h : bad
  · simp [throwIf, h]
  · simp [throwIf, h]

@[simp] theorem throwIf_eq_error {bad : Prop} [Decidable bad] {error error' : ε} :
    throwIf bad error = .error error' ↔ bad ∧ error = error' := by
  by_cases h : bad
  · simp [throwIf, h]
  · simp [throwIf, h]

/-- Read a value that may be missing. -/
def require (value : Option α) (error : ε) : Except ε α :=
  match value with
  | some a => .ok a
  | none => .error error

@[simp] theorem require_eq_ok {value : Option α} {error : ε} {a : α} :
    require value error = .ok a ↔ value = some a := by
  cases value with
  | none => simp [require]
  | some b => simp [require]

@[simp] theorem ok_bind (a : α) (f : α → Except ε β) : (Except.ok a >>= f) = f a := rfl

@[simp] theorem error_bind (e : ε) (f : α → Except ε β) :
    ((Except.error e : Except ε α) >>= f) = .error e := rfl

@[simp] theorem bind_eq_ok {x : Except ε α} {f : α → Except ε β} {b : β} :
    (x >>= f) = .ok b ↔ ∃ a, x = .ok a ∧ f a = .ok b := by
  cases x with
  | error e => simp
  | ok a => simp

theorem toOption_eq_some {x : Except ε α} {a : α} : x.toOption = some a ↔ x = .ok a := by
  cases x with
  | error e => simp [Except.toOption]
  | ok b => simp [Except.toOption]

@[simp] theorem map_eq_ok {x : Except ε α} {f : α → β} {b : β} :
    (f <$> x) = .ok b ↔ ∃ a, x = .ok a ∧ f a = b := by
  cases x with
  | error e => simp [Functor.map, Except.map]
  | ok a => simp [Functor.map, Except.map]

@[simp] theorem pure_eq_ok {a b : α} : (pure a : Except ε α) = .ok b ↔ a = b := by
  simp [pure, Except.pure]

/-- The invariant rule of a checked fold; the invariant sees the elements already passed. -/
theorem foldlM_invariant {f : β → α → Except ε β} {l : List α} {s t : β}
    (Inv : List α → β → Prop) (entry : Inv [] s)
    (step : ∀ pre x post s s', l = pre ++ x :: post → Inv pre s → f s x = .ok s' →
      Inv (pre ++ [x]) s')
    (run : l.foldlM f s = .ok t) : Inv l t := by
  have key : ∀ post pre s, l = pre ++ post → Inv pre s → post.foldlM f s = .ok t → Inv l t := by
    intro post
    induction post with
    | nil =>
      intro pre s split inv run
      simp only [List.foldlM_nil, pure_eq_ok] at run
      subst run
      simpa only [split, List.append_nil] using inv
    | cons x post ih =>
      intro pre s split inv run
      simp only [List.foldlM_cons, bind_eq_ok] at run
      obtain ⟨s', here, rest⟩ := run
      exact ih (pre ++ [x]) s' (by simp [split]) (step pre x post s s' split inv here) rest
  exact key l [] s rfl entry run

/-- A checked fold that returns has accepted each element, after what it had seen. -/
theorem foldlM_each {f : β → α → Except ε β} {l : List α} {s t : β} (run : l.foldlM f s = .ok t)
    {x : α} (member : x ∈ l) : ∃ before after, f before x = .ok after := by
  have each : ∀ x ∈ l, ∃ before after, f before x = .ok after := by
    refine foldlM_invariant (fun passed _ => ∀ x ∈ passed, ∃ before after, f before x = .ok after)
      (by simp) ?_ run
    intro pre x post before after _ passed here y hy
    rcases List.mem_append.mp hy with earlier | last
    · exact passed y earlier
    · rw [List.mem_singleton.mp last]
      exact ⟨before, after, here⟩
  exact each x member

/-- A checked fold returns when, under the invariant, no step is refused. -/
theorem foldlM_returns {f : β → α → Except ε β} {l : List α} {s : β}
    (Inv : List α → β → Prop) (entry : Inv [] s)
    (step : ∀ pre x post s, l = pre ++ x :: post → Inv pre s →
      ∃ s', f s x = .ok s' ∧ Inv (pre ++ [x]) s') :
    ∃ t, l.foldlM f s = .ok t ∧ Inv l t := by
  have key : ∀ post pre s, l = pre ++ post → Inv pre s →
      ∃ t, post.foldlM f s = .ok t ∧ Inv l t := by
    intro post
    induction post with
    | nil =>
      intro pre s split inv
      refine ⟨s, rfl, ?_⟩
      simpa only [split, List.append_nil] using inv
    | cons x post ih =>
      intro pre s split inv
      obtain ⟨s', here, inv'⟩ := step pre x post s split inv
      obtain ⟨t, rest, final⟩ := ih (pre ++ [x]) s' (by simp [split]) inv'
      exact ⟨t, by rw [List.foldlM_cons, here, ok_bind, rest], final⟩
  exact key l [] s rfl entry

/-- The results of a list of checks, each under what it was computed from. -/
theorem mapM_eq_ok {f : α → Except ε β} {l : List α} {ys : List β} :
    l.mapM f = .ok ys ↔ List.Forall₂ (fun x y => f x = .ok y) l ys := by
  induction l generalizing ys with
  | nil =>
    rw [List.mapM_nil, pure_eq_ok, List.forall₂_nil_left_iff]
    exact eq_comm
  | cons x l ih =>
    simp only [List.mapM_cons, bind_eq_ok, pure_eq_ok, List.forall₂_cons_left_iff, ih]
    constructor
    · rintro ⟨y, here, ys', rest, rfl⟩
      exact ⟨y, ys', here, rest, rfl⟩
    · rintro ⟨y, ys', here, rest, rfl⟩
      exact ⟨y, here, ys', rest, rfl⟩

/-- Checking every element of a list, each of them accepted. -/
theorem mapM_returns {f : α → Except ε β} {g : α → β} {l : List α}
    (each : ∀ x ∈ l, f x = .ok (g x)) : l.mapM f = .ok (l.map g) := by
  induction l with
  | nil => rfl
  | cons x l ih =>
    rw [List.forall_mem_cons] at each
    rw [List.mapM_cons, each.1, ok_bind, ih each.2]
    rfl

/-- Checking every element of a list, none of them refused. -/
theorem mapM_accepts {f : α → Except ε β} {l : List α} (each : ∀ x ∈ l, ∃ y, f x = .ok y) :
    ∃ ys, l.mapM f = .ok ys := by
  induction l with
  | nil => exact ⟨[], rfl⟩
  | cons x l ih =>
    rw [List.forall_mem_cons] at each
    obtain ⟨y, here⟩ := each.1
    obtain ⟨ys, rest⟩ := ih each.2
    exact ⟨y :: ys, by rw [List.mapM_cons, here, ok_bind, rest]; rfl⟩

theorem mem_mapM {f : α → Except ε β} {l : List α} {ys : List β} (run : l.mapM f = .ok ys)
    {y : β} (member : y ∈ ys) : ∃ x ∈ l, f x = .ok y := by
  induction l generalizing ys with
  | nil =>
    rw [List.mapM_nil, pure_eq_ok] at run
    subst run
    cases member
  | cons x l ih =>
    simp only [List.mapM_cons, bind_eq_ok, pure_eq_ok] at run
    obtain ⟨y', here, ys', rest, rfl⟩ := run
    rcases List.mem_cons.mp member with rfl | later
    · exact ⟨x, List.mem_cons_self, here⟩
    · obtain ⟨x', hx', made⟩ := ih rest later
      exact ⟨x', List.mem_cons_of_mem _ hx', made⟩

theorem mapM_mem {f : α → Except ε β} {l : List α} {ys : List β} (run : l.mapM f = .ok ys)
    {x : α} (member : x ∈ l) : ∃ y ∈ ys, f x = .ok y := by
  induction l generalizing ys with
  | nil => cases member
  | cons x' l ih =>
    simp only [List.mapM_cons, bind_eq_ok, pure_eq_ok] at run
    obtain ⟨y, here, ys', rest, rfl⟩ := run
    rcases List.mem_cons.mp member with rfl | later
    · exact ⟨y, List.mem_cons_self, here⟩
    · obtain ⟨y', hy', made⟩ := ih rest later
      exact ⟨y', List.mem_cons_of_mem _ hy', made⟩

/-- A list of checks fails as one of them does. -/
theorem mapM_eq_error {f : α → Except ε β} {l : List α} {e : ε} (h : l.mapM f = .error e) :
    ∃ x ∈ l, f x = .error e := by
  induction l with
  | nil => cases h
  | cons x l ih =>
    rw [List.mapM_cons] at h
    cases here : f x with
    | error e' =>
      rw [here, error_bind] at h
      obtain rfl := Except.error.inj h
      exact ⟨x, List.mem_cons_self, here⟩
    | ok y =>
      cases rest : l.mapM f with
      | error e' =>
        rw [here, ok_bind, rest, error_bind] at h
        obtain rfl := Except.error.inj h
        obtain ⟨x', hx', failed⟩ := ih rest
        exact ⟨x', List.mem_cons_of_mem _ hx', failed⟩
      | ok ys =>
        rw [here, ok_bind, rest, ok_bind] at h
        cases h

theorem mapM_perm {f : α → Except ε β} {l l' : List α} (perm : l.Perm l') {ys : List β}
    (run : l.mapM f = .ok ys) : ∃ ys', l'.mapM f = .ok ys' ∧ ys.Perm ys' := by
  obtain ⟨ys', made, same⟩ := List.perm_comp_forall₂ perm.symm (mapM_eq_ok.mp run)
  exact ⟨ys', mapM_eq_ok.mpr made, same.symm⟩

/-- Results that keep what they were computed from keep its order. -/
theorem map_mapM {f : α → Except ε β} {l : List α} {ys : List β} (run : l.mapM f = .ok ys)
    {source : β → α} (keeps : ∀ x y, f x = .ok y → source y = x) : ys.map source = l := by
  induction l generalizing ys with
  | nil =>
    rw [List.mapM_nil, pure_eq_ok] at run
    subst run
    rfl
  | cons x l ih =>
    simp only [List.mapM_cons, bind_eq_ok, pure_eq_ok] at run
    obtain ⟨y, here, ys', rest, rfl⟩ := run
    rw [List.map_cons, ih rest, keeps x y here]

/-- What a result has in common with what it was computed from. -/
theorem map_mapM_eq {γ : Type} {f : α → Except ε β} {l : List α} {ys : List β}
    (run : l.mapM f = .ok ys) {g : β → γ} {h : α → γ} (keeps : ∀ x y, f x = .ok y → g y = h x) :
    ys.map g = l.map h := by
  have same := (mapM_eq_ok.mp run).imp fun x y made => keeps x y made
  rw [← List.forall₂_eq_eq_eq, List.forall₂_map_left_iff, List.forall₂_map_right_iff]
  exact same.flip

/-- Where each key yields only elements of its own, a key's elements among all of them are
exactly those it yielded. -/
theorem filter_mapM_flatMap {γ : Type} [DecidableEq α] {f : α → Except ε β} {l : List α}
    {ys : List β} {g : β → List γ} {key : γ → α} (run : l.mapM f = .ok ys)
    (own : ∀ k y, f k = .ok y → ∀ c ∈ g y, key c = k) {k : α} (absent : k ∉ l) :
    (ys.flatMap g).filter (fun c => key c = k) = [] := by
  rw [List.filter_eq_nil_iff]
  intro c hc
  obtain ⟨y, hy, inside⟩ := List.mem_flatMap.mp hc
  obtain ⟨j, hj, here⟩ := mem_mapM run hy
  have := own j y here c inside
  grind

theorem filter_mapM_flatMap_of_mem {γ : Type} [DecidableEq α] {f : α → Except ε β} {l : List α}
    {ys : List β} {g : β → List γ} {key : γ → α} (run : l.mapM f = .ok ys)
    (own : ∀ k y, f k = .ok y → ∀ c ∈ g y, key c = k) (nodup : l.Nodup) {k : α} (member : k ∈ l) :
    ∃ y, f k = .ok y ∧ (ys.flatMap g).filter (fun c => key c = k) = g y := by
  induction l generalizing ys with
  | nil => cases member
  | cons j l ih =>
    simp only [List.mapM_cons, bind_eq_ok, pure_eq_ok] at run
    obtain ⟨y, here, ys', rest, rfl⟩ := run
    obtain ⟨fresh, nodup⟩ := List.nodup_cons.mp nodup
    rw [List.flatMap_cons, List.filter_append]
    rcases List.mem_cons.mp member with rfl | later
    · refine ⟨y, here, ?_⟩
      have mine : (g y).filter (fun c => key c = k) = g y := by
        rw [List.filter_eq_self]
        simpa using own k y here
      rw [mine, filter_mapM_flatMap rest own fresh, List.append_nil]
    · obtain ⟨z, found, only⟩ := ih rest nodup later
      refine ⟨z, found, ?_⟩
      have others : (g y).filter (fun c => key c = k) = [] := by
        rw [List.filter_eq_nil_iff]
        intro c hc
        have := own j y here c hc
        grind
      rw [others, only, List.nil_append]

/-- Where each key yields at most one element, and that under its own name, the names follow the
keys. -/
theorem flatMap_mapM_sublist {γ : Type} {f : α → Except ε β} {l : List α} {ys : List β}
    {g : β → List γ} {key : γ → α} (run : l.mapM f = .ok ys)
    (own : ∀ k y, f k = .ok y → ((g y).map key).Sublist [k]) :
    ((ys.flatMap g).map key).Sublist l := by
  induction l generalizing ys with
  | nil =>
    rw [List.mapM_nil, pure_eq_ok] at run
    subst run
    exact List.Sublist.refl []
  | cons k l ih =>
    simp only [List.mapM_cons, bind_eq_ok, pure_eq_ok] at run
    obtain ⟨y, here, ys', rest, rfl⟩ := run
    rw [List.flatMap_cons, List.map_append]
    exact (own k y here).append (ih rest)

/-- A list of checks passes when each one does. -/
theorem forM_eq_ok {f : α → Except ε Unit} {l : List α} {u : Unit} :
    forM l f = .ok u ↔ ∀ x ∈ l, f x = .ok () := by
  induction l with
  | nil => simp
  | cons x l ih =>
    simp only [List.forM_cons, bind_eq_ok, ih, List.forall_mem_cons]
    constructor
    · rintro ⟨_, here, rest⟩
      exact ⟨here, rest⟩
    · rintro ⟨here, rest⟩
      exact ⟨(), here, rest⟩

/-- A fold that checks each element by itself and against the ones before it accepts a list exactly
when every element passes and they are pairwise compatible. -/
theorem foldlM_checked {f : β → α → Except ε β} {P : α → Prop} {R : α → α → Prop} {s : β}
    (Inv : List α → β → Prop) (entry : Inv [] s)
    (accepts : ∀ pre s x, pre.Pairwise R → Inv pre s →
      ((∃ s', f s x = .ok s') ↔ P x ∧ ∀ y ∈ pre, R y x))
    (keeps : ∀ pre s x s', Inv pre s → f s x = .ok s' → Inv (pre ++ [x]) s') (l : List α) :
    (∃ t, l.foldlM f s = .ok t) ↔ (∀ x ∈ l, P x) ∧ l.Pairwise R := by
  have key : ∀ post pre s, Inv pre s → pre.Pairwise R →
      ((∃ t, post.foldlM f s = .ok t) ↔ (∀ x ∈ post, P x) ∧ (pre ++ post).Pairwise R) := by
    intro post
    induction post with
    | nil =>
      intro pre s _ passed
      simpa using passed
    | cons x post ih =>
      intro pre s inv passed
      have next : ∀ s', f s x = .ok s' → ((∃ t, post.foldlM f s' = .ok t) ↔
          (∀ y ∈ post, P y) ∧ (pre ++ x :: post).Pairwise R) := by
        intro s' here
        have compatible := ((accepts pre s x passed inv).mp ⟨s', here⟩).2
        have extended : (pre ++ [x]).Pairwise R :=
          List.pairwise_append.mpr ⟨passed, List.pairwise_singleton R x, by simpa using compatible⟩
        simpa using ih (pre ++ [x]) s' (keeps pre s x s' inv here) extended
      simp only [List.foldlM_cons, bind_eq_ok, List.forall_mem_cons]
      constructor
      · rintro ⟨t, s', here, rest⟩
        obtain ⟨all, pairwise⟩ := (next s' here).mp ⟨t, rest⟩
        exact ⟨⟨((accepts pre s x passed inv).mp ⟨s', here⟩).1, all⟩, pairwise⟩
      · rintro ⟨⟨own, all⟩, pairwise⟩
        have compatible : ∀ y ∈ pre, R y x := fun y hy =>
          (List.pairwise_append.mp pairwise).2.2 y hy x List.mem_cons_self
        obtain ⟨s', here⟩ := (accepts pre s x passed inv).mpr ⟨own, compatible⟩
        obtain ⟨t, rest⟩ := (next s' here).mpr ⟨all, pairwise⟩
        exact ⟨t, s', here, rest⟩
  exact key l [] s entry List.Pairwise.nil

/-- The same without a check of the element by itself. -/
theorem foldlM_pairwise {f : β → α → Except ε β} {R : α → α → Prop} {s : β}
    (Inv : List α → β → Prop) (entry : Inv [] s)
    (accepts : ∀ pre s x, pre.Pairwise R → Inv pre s →
      ((∃ s', f s x = .ok s') ↔ ∀ y ∈ pre, R y x))
    (keeps : ∀ pre s x s', Inv pre s → f s x = .ok s' → Inv (pre ++ [x]) s') (l : List α) :
    (∃ t, l.foldlM f s = .ok t) ↔ l.Pairwise R := by
  have checked := foldlM_checked (P := fun _ => True) Inv entry (by simpa using accepts) keeps l
  simpa using checked

end Checks
