import Mathlib.Logic.Relation
import Mathlib.Tactic.Common

/-!
# Runs of a transition system

Reachable states, the induction rule for invariants, and its companion for
relations between an earlier and a later state of one run.
-/

namespace Transition

universe u
variable {σ : Type u} {init : σ → Prop} {step : σ → σ → Prop} {s t : σ}

/-- Every run from `s` to `t`, of any length. -/
abbrev Leads (step : σ → σ → Prop) : σ → σ → Prop := Relation.ReflTransGen step

def Reachable (init : σ → Prop) (step : σ → σ → Prop) (s : σ) : Prop :=
  ∃ s₀, init s₀ ∧ Leads step s₀ s

theorem Reachable.start (h : init s) : Reachable init step s :=
  ⟨s, h, Relation.ReflTransGen.refl⟩

theorem Reachable.later (h : Reachable init step s) (run : Leads step s t) :
    Reachable init step t := by
  obtain ⟨s₀, start, before⟩ := h
  exact ⟨s₀, start, before.trans run⟩

/-- An inductive predicate holds in every reachable state. -/
theorem Reachable.invariant {I : σ → Prop} (base : ∀ s, init s → I s)
    (keeps : ∀ s t, I s → step s t → I t) (h : Reachable init step s) : I s := by
  obtain ⟨s₀, start, run⟩ := h
  induction run with
  | refl => exact base s₀ start
  | tail _ last ih => exact keeps _ _ ih last

/-- A reflexive and transitive relation that each step respects relates the ends of any run. -/
theorem Reachable.related {Inv : σ → Prop} {R : σ → σ → Prop} (base : ∀ s, init s → Inv s)
    (keeps : ∀ s t, Inv s → step s t → Inv t) (refl : ∀ s, R s s)
    (trans : ∀ a b c, R a b → R b c → R a c) (each : ∀ s t, Inv s → step s t → R s t)
    (h : Reachable init step s) (run : Leads step s t) : R s t := by
  induction run with
  | refl => exact refl s
  | tail before last ih =>
    exact trans _ _ _ ih (each _ _ ((h.later before).invariant base keeps) last)

/-- A run that a step function computes. -/
theorem leads_of_foldlM {ε : Type*} {next : σ → ε → Option σ} {events : List ε}
    (h : events.foldlM next s = some t) : Leads (fun s t => ∃ event, next s event = some t) s t := by
  induction events generalizing s with
  | nil =>
    simp only [List.foldlM_nil, Option.pure_def, Option.some.injEq] at h
    rw [h]
  | cons event events ih =>
    simp only [List.foldlM_cons, Option.bind_eq_bind, Option.bind_eq_some_iff] at h
    obtain ⟨middle, first, rest⟩ := h
    exact Relation.ReflTransGen.head ⟨event, first⟩ (ih rest)

/-! ### What every run comes to -/

/-- Every run comes to a state with `P`, and none gets stuck before it. -/
inductive Inevitably (step : σ → σ → Prop) (P : σ → Prop) : σ → Prop
  | now {s : σ} (holds : P s) : Inevitably step P s
  | later {s : σ} (progress : ∃ t, step s t) (every : ∀ t, step s t → Inevitably step P t) :
      Inevitably step P s

/-- Where `P` ends a run, it is still ahead of every state before it. -/
theorem Inevitably.ahead {P : σ → Prop} (ends : ∀ u v, P u → ¬ step u v) (h : Inevitably step P s)
    (run : Leads step s t) : Inevitably step P t := by
  induction run with
  | refl => exact h
  | tail _ last ih =>
    cases ih with
    | now holds => exact absurd last (ends _ _ holds)
    | later _ every => exact every _ last

theorem not_inevitably_of_stuck {P : σ → Prop} (ends : ∀ u v, P u → ¬ step u v)
    (run : Leads step s t) (stuck : ∀ u, ¬ step t u) (fails : ¬ P t) : ¬ Inevitably step P s := by
  intro h
  cases h.ahead ends run with
  | now holds => exact fails holds
  | later progress _ => exact progress.elim stuck

/-! ### Traces -/

/-- Every event of a trace, latest first, is explained by the events before it. -/
def Explained {ε : Type u} (why : List ε → ε → Prop) : List ε → Prop
  | [] => True
  | event :: earlier => why earlier event ∧ Explained why earlier

theorem Explained.earlier {ε : Type u} {why : List ε → ε → Prop} {later earlier : List ε}
    (h : Explained why (later ++ earlier)) : Explained why earlier := by
  induction later with
  | nil => exact h
  | cons _ later ih => exact ih h.2

theorem Explained.split {ε : Type u} {why : List ε → ε → Prop} {later earlier : List ε} {event : ε}
    (h : Explained why (later ++ event :: earlier)) : why earlier event :=
  h.earlier.1

/-- The events before a given one explain it. -/
theorem Explained.of_mem {ε : Type u} {why : List ε → ε → Prop} {trace : List ε} {event : ε}
    (h : Explained why trace) (mem : event ∈ trace) :
    ∃ later earlier, trace = later ++ event :: earlier ∧ why earlier event := by
  obtain ⟨later, earlier, rfl⟩ := List.append_of_mem mem
  exact ⟨later, earlier, rfl, h.split⟩

end Transition
