import SandboxBenchmarks.Library.Checks

/-!
# What a loop records

Where each step makes a property of the state true exactly for what it is given to
record, and never makes it false again, the loop has recorded exactly what one of its
elements gave.
-/

namespace Recording

universe u v
variable {σ : Type u} {α : Type v}

theorem exists_mem_snoc {p : α → Prop} {l : List α} {x : α} :
    (∃ y ∈ l ++ [x], p y) ↔ (∃ y ∈ l, p y) ∨ p x := by
  simp only [List.mem_append, List.mem_singleton, or_and_right, exists_or, exists_eq_left]

theorem foldl_records (recorded : σ → Prop) (records : α → Prop) {f : σ → α → σ} {l : List α}
    (step : ∀ x ∈ l, ∀ s, recorded (f s x) ↔ recorded s ∨ records x) (s : σ) :
    recorded (l.foldl f s) ↔ recorded s ∨ ∃ x ∈ l, records x := by
  induction l generalizing s with
  | nil => simp
  | cons x l ih =>
    rw [List.forall_mem_cons] at step
    rw [List.foldl_cons, ih step.2, step.1]
    simp only [List.mem_cons, exists_eq_or_imp]
    rw [or_assoc]

end Recording

namespace Checks

variable {ε α β : Type}

theorem foldlM_records (recorded : β → Prop) (records : α → Prop) {f : β → α → Except ε β}
    {l : List α} {s t : β}
    (step : ∀ x ∈ l, ∀ s s', f s x = .ok s' → (recorded s' ↔ recorded s ∨ records x))
    (run : l.foldlM f s = .ok t) : recorded t ↔ recorded s ∨ ∃ x ∈ l, records x := by
  induction l generalizing s with
  | nil =>
    rw [List.foldlM_nil, pure_eq_ok] at run
    subst run
    simp
  | cons x l ih =>
    simp only [List.foldlM_cons, bind_eq_ok] at run
    obtain ⟨s', here, rest⟩ := run
    have later := ih (fun y hy => step y (List.mem_cons_of_mem x hy)) rest
    rw [later, step x List.mem_cons_self s s' here]
    simp only [List.mem_cons, exists_eq_or_imp]
    rw [or_assoc]

end Checks
