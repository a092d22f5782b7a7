import SandboxBenchmarks.Library.Interaction

/-!
# Programs served from a state

An environment answers every question from a state of its own, which the answer
may change. `Keeps` is the weakest precondition over that state: a guard holds
wherever a question is asked, and a postcondition wherever the program returns.
-/

namespace Interaction

universe u v w x y

variable {Q : Type u} {A : Q → Type v} {α : Type w} {β : Type x} {σ : Type y}

/-- How a state may answer a question, and the state after the answer. -/
abbrev Service (σ : Type y) (Q : Type u) (A : Q → Type v) := σ → (q : Q) → A q → σ → Prop

namespace Program

/-- The environment answers the question asked. -/
inductive Serves (serve : Service σ Q A) : Program Q A α × σ → Program Q A α × σ → Prop
  | answer {q : Q} {next : A q → Program Q A α} {answer : A q} {s t : σ}
      (served : serve s q answer t) : Serves serve (ask q next, s) (next answer, t)

variable {serve : Service σ Q A} {guard : σ → Q → Prop} {post : σ → α → Prop} {s t : σ}

/-- Every run from a state keeps the guard at its questions and returns within `post`. -/
def Keeps (serve : Service σ Q A) (guard : σ → Q → Prop) (post : σ → α → Prop) :
    Program Q A α → σ → Prop
  | done a, s => post s a
  | ask q next, s => guard s q ∧ ∀ answer t, serve s q answer t → Keeps serve guard post (next answer) t
  | cut, _ => True

theorem keeps_bind {p : Program Q A α} {f : α → Program Q A β} {post : σ → β → Prop} :
    (p.bind f).Keeps serve guard post s ↔
      p.Keeps serve guard (fun s a => (f a).Keeps serve guard post s) s := by
  induction p generalizing s with
  | done a => exact Iff.rfl
  | ask q next ih =>
    exact and_congr_right fun _ => forall₂_congr fun answer t => imp_congr_right fun _ => ih answer
  | cut => exact Iff.rfl

theorem Keeps.mono {p : Program Q A α} {post' : σ → α → Prop} (keeps : p.Keeps serve guard post s)
    (weaker : ∀ s a, post s a → post' s a) : p.Keeps serve guard post' s := by
  induction p generalizing s with
  | done a => exact weaker s a keeps
  | ask q next ih => exact ⟨keeps.1, fun answer t served => ih answer (keeps.2 answer t served)⟩
  | cut => exact trivial

theorem Keeps.step {x y : Program Q A α × σ} (keeps : x.1.Keeps serve guard post x.2)
    (step : Serves serve x y) : y.1.Keeps serve guard post y.2 := by
  cases step with
  | answer served => exact keeps.2 _ _ served

theorem Keeps.run {x y : Program Q A α × σ} (keeps : x.1.Keeps serve guard post x.2)
    (run : Transition.Leads (Serves serve) x y) : y.1.Keeps serve guard post y.2 := by
  induction run with
  | refl => exact keeps
  | tail _ step ih => exact ih.step step

theorem Keeps.invariant (Inv : σ → Prop) {x y : Program Q A α × σ}
    (keeps : x.1.Keeps serve guard post x.2)
    (preserved : ∀ s q answer t, Inv s → guard s q → serve s q answer t → Inv t)
    (run : Transition.Leads (Serves serve) x y) (entry : Inv x.2) : Inv y.2 := by
  induction run with
  | refl => exact entry
  | tail before step ih =>
    have here := keeps.run before
    cases step with
    | answer served => exact preserved _ _ _ _ ih here.1 served

end Program

/-! ### Programs that may throw -/

section
variable {ε : Type w} {α β : Type w} {serve : Service σ Q A} {guard : σ → Q → Prop} {s : σ}
  {post : σ → Except ε α → Prop}

def Maintains (serve : Service σ Q A) (guard : σ → Q → Prop) (post : σ → Except ε α → Prop)
    (x : Attempt Q A ε α) (s : σ) : Prop := x.run.Keeps serve guard post s

@[simp] theorem maintains_pure {a : α} :
    Maintains serve guard post (pure a : Attempt Q A ε α) s ↔ post s (.ok a) := Iff.rfl

@[simp] theorem maintains_throw {e : ε} :
    Maintains serve guard post (throw e : Attempt Q A ε α) s ↔ post s (.error e) := Iff.rfl

@[simp] theorem maintains_computed {value : Except ε α} :
    Maintains serve guard post (computed value : Attempt Q A ε α) s ↔ post s value := Iff.rfl

@[simp] theorem maintains_cut : Maintains serve guard post (cut : Attempt Q A ε α) s := trivial

@[simp] theorem maintains_question {q : Q} {next : A q → Attempt Q A ε α} :
    Maintains serve guard post (question q next) s ↔
      guard s q ∧ ∀ answer t, serve s q answer t → Maintains serve guard post (next answer) t :=
  Iff.rfl

theorem Maintains.mono {x : Attempt Q A ε α} {post' : σ → Except ε α → Prop}
    (keeps : Maintains serve guard post x s) (weaker : ∀ s r, post s r → post' s r) :
    Maintains serve guard post' x s :=
  Program.Keeps.mono keeps weaker

theorem Maintains.asks {x : Attempt Q A ε α} {q : Q} {next : A q → Program Q A (Except ε α)} {t : σ}
    (keeps : Maintains serve guard post x s)
    (run : Transition.Leads (Program.Serves serve) (x.run, s) (.ask q next, t)) : guard t q :=
  (Program.Keeps.run (x := (x.run, s)) keeps run).1

theorem Maintains.returns {x : Attempt Q A ε α} {r : Except ε α} {t : σ}
    (keeps : Maintains serve guard post x s)
    (run : Transition.Leads (Program.Serves serve) (x.run, s) (.done r, t)) : post t r :=
  Program.Keeps.run (x := (x.run, s)) keeps run

/-- What answers to guarded questions preserve holds wherever a run has come to. -/
theorem Maintains.invariant (Inv : σ → Prop) {x : Attempt Q A ε α} {p : Program Q A (Except ε α)}
    {t : σ} (keeps : Maintains serve guard post x s)
    (preserved : ∀ s q answer t, Inv s → guard s q → serve s q answer t → Inv t)
    (run : Transition.Leads (Program.Serves serve) (x.run, s) (p, t)) (entry : Inv s) : Inv t :=
  Program.Keeps.invariant Inv (x := (x.run, s)) keeps preserved run entry

theorem maintains_bind {x : Attempt Q A ε α} {f : α → Attempt Q A ε β}
    {post : σ → Except ε β → Prop} :
    Maintains serve guard post (x >>= f) s ↔
      Maintains serve guard (fun s r => match r with
        | .ok a => Maintains serve guard post (f a) s
        | .error e => post s (.error e)) x s := by
  refine Program.keeps_bind.trans (Iff.of_eq
    (congrArg (fun post => x.run.Keeps serve guard post s) ?_))
  funext s r
  cases r with
  | ok a => rfl
  | error e => rfl

/-- To go on after `x` it is enough to go on from each value it may return. -/
theorem Maintains.bind {x : Attempt Q A ε α} {f : α → Attempt Q A ε β}
    {post' : σ → Except ε β → Prop} (keeps : Maintains serve guard post x s)
    (error : ∀ t e, post t (.error e) → post' t (.error e))
    (ok : ∀ t a, post t (.ok a) → Maintains serve guard post' (f a) t) :
    Maintains serve guard post' (x >>= f) s := by
  rw [maintains_bind]
  refine keeps.mono ?_
  intro t r here
  cases r with
  | ok a => exact ok t a here
  | error e => exact error t e here

/-- A failed check throws, and a passed one goes on with its value. -/
theorem maintains_computed_bind {value : Except ε α} {f : α → Attempt Q A ε β}
    {post : σ → Except ε β → Prop} (error : ∀ e, value = .error e → post s (.error e))
    (ok : ∀ a, value = .ok a → Maintains serve guard post (f a) s) :
    Maintains serve guard post (computed value >>= f) s := by
  rw [maintains_bind, maintains_computed]
  cases value with
  | ok a => exact ok a rfl
  | error e => exact error e rfl

end

end Interaction
