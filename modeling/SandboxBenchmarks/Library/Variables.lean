import SandboxBenchmarks.Library.Interaction

/-!
# Programs with variables

A program that questions its environment, assigns to variables and may throw. The
variables keep their values when it throws, so a handler reads what the failed part
left in them. `Ensures` is the weakest precondition over the history, the variables and
the outcome.
-/

namespace Interaction

universe u v w

variable {Q : Type u} {A : Q → Type v}

abbrev Action (Q : Type u) (A : Q → Type v) (σ ε α : Type w) := ExceptT ε (StateT σ (Program Q A)) α

namespace Action

variable {σ ε α β : Type w}

def question (q : Q) (next : A q → Action Q A σ ε α) : Action Q A σ ε α :=
  ExceptT.mk (fun s => .ask q (fun answer => (next answer).run s))

def assign (f : σ → σ) : Action Q A σ ε PUnit := ExceptT.mk (fun s => .done (.ok .unit, f s))

def read (f : σ → α) : Action Q A σ ε α := ExceptT.mk (fun s => .done (.ok (f s), s))

def cut : Action Q A σ ε α := ExceptT.mk (fun _ => .cut)

/-- The outcome of a program that may throw, as a value. -/
def captured {ε' : Type w} (x : Action Q A σ ε α) : Action Q A σ ε' (Except ε α) :=
  ExceptT.mk (fun s => (x.run s).bind (fun r => .done (.ok r.1, r.2)))

/-- `try { x } finally { after }` -/
def finally_ (x : Action Q A σ ε α) (after : Action Q A σ ε PUnit) : Action Q A σ ε α := do
  let outcome ← captured x
  after
  match outcome with
  | .ok a => pure a
  | .error e => throw e

/-- The program as one that returns its outcome and its variables. -/
def runFrom (x : Action Q A σ ε α) (s : σ) : Program Q A (Except ε α × σ) := x.run s

/-- Every run from a history and variables returns within `post`. -/
def Ensures (post : History Q A → σ → Except ε α → Prop) (x : Action Q A σ ε α) (s : σ)
    (h : History Q A) : Prop :=
  (x.runFrom s).Safe (fun _ _ => True) (fun h r => post h r.2 r.1) h

variable {post : History Q A → σ → Except ε α → Prop} {s : σ} {h : History Q A}

@[simp] theorem ensures_pure {a : α} :
    Ensures post (pure a : Action Q A σ ε α) s h ↔ post h s (.ok a) := Iff.rfl

@[simp] theorem ensures_throw {e : ε} :
    Ensures post (throw e : Action Q A σ ε α) s h ↔ post h s (.error e) := Iff.rfl

@[simp] theorem ensures_cut : Ensures post (cut : Action Q A σ ε α) s h := trivial

@[simp] theorem ensures_read {f : σ → α} :
    Ensures post (read f : Action Q A σ ε α) s h ↔ post h s (.ok (f s)) := Iff.rfl

@[simp] theorem ensures_assign {f : σ → σ} {post : History Q A → σ → Except ε PUnit → Prop} :
    Ensures post (assign f : Action Q A σ ε PUnit) s h ↔ post h (f s) (.ok .unit) := Iff.rfl

@[simp] theorem ensures_question {q : Q} {next : A q → Action Q A σ ε α} :
    Ensures post (question q next) s h ↔
      ∀ answer, Ensures post (next answer) s (h ++ [⟨q, answer⟩]) := Iff.of_eq (true_and _)

/-- What follows a value, and nothing after an error. -/
def afterOk (f : α → Action Q A σ ε β) (post : History Q A → σ → Except ε β → Prop)
    (h : History Q A) (s : σ) : Except ε α → Prop
  | .ok a => Ensures post (f a) s h
  | .error e => post h s (.error e)

theorem ensures_bind {x : Action Q A σ ε α} {f : α → Action Q A σ ε β}
    {post : History Q A → σ → Except ε β → Prop} :
    Ensures post (x >>= f) s h ↔ Ensures (afterOk f post) x s h := by
  refine Program.safe_bind.trans (Iff.of_eq ?_)
  refine congrArg (fun post => (x.runFrom s).Safe (fun _ _ => True) post h) ?_
  funext h r
  obtain ⟨r, s⟩ := r
  cases r with
  | ok a => rfl
  | error e => rfl

/-- What a handler does with an error. -/
def afterError (handler : ε → Action Q A σ ε α) (post : History Q A → σ → Except ε α → Prop)
    (h : History Q A) (s : σ) : Except ε α → Prop
  | .ok a => post h s (.ok a)
  | .error e => Ensures post (handler e) s h

theorem ensures_tryCatch {x : Action Q A σ ε α} {handler : ε → Action Q A σ ε α} :
    Ensures post (tryCatch x handler) s h ↔ Ensures (afterError handler post) x s h := by
  refine Program.safe_bind.trans (Iff.of_eq ?_)
  refine congrArg (fun post => (x.runFrom s).Safe (fun _ _ => True) post h) ?_
  funext h r
  obtain ⟨r, s⟩ := r
  cases r with
  | ok a => rfl
  | error e => rfl

theorem ensures_captured {ε' : Type w} {x : Action Q A σ ε α}
    {post : History Q A → σ → Except ε' (Except ε α) → Prop} :
    Ensures post (captured x) s h ↔ Ensures (fun h s r => post h s (.ok r)) x s h :=
  Program.safe_bind

theorem Ensures.mono {x : Action Q A σ ε α} {post' : History Q A → σ → Except ε α → Prop}
    (ensures : Ensures post x s h)
    (weaker : ∀ later s r, h <+: later → post later s r → post' later s r) :
    Ensures post' x s h :=
  Program.Safe.mono ensures (fun later r extends_ here => weaker later r.2 r.1 extends_ here)

/-- To go on after `x` it is enough to go on from each value it may return. -/
theorem Ensures.bind {x : Action Q A σ ε α} {f : α → Action Q A σ ε β}
    {post' : History Q A → σ → Except ε β → Prop} (ensures : Ensures post x s h)
    (error : ∀ later s e, h <+: later → post later s (.error e) → post' later s (.error e))
    (ok : ∀ later s a, h <+: later → post later s (.ok a) → Ensures post' (f a) s later) :
    Ensures post' (x >>= f) s h := by
  rw [ensures_bind]
  refine ensures.mono ?_
  intro later s r extends_ here
  cases r with
  | ok a => exact ok later s a extends_ here
  | error e => exact error later s e extends_ here

theorem ensures_finally {x : Action Q A σ ε α} {after : Action Q A σ ε PUnit} :
    Ensures post (finally_ x after) s h ↔
      Ensures (fun h s r => Ensures (fun h s a => match a with
        | .ok _ => post h s r
        | .error e => post h s (.error e)) after s h) x s h := by
  rw [finally_, ensures_bind, ensures_captured]
  refine Iff.of_eq (congrArg (fun post => Ensures post x s h) ?_)
  funext h s r
  rw [afterOk, ensures_bind]
  refine congrArg (fun post => Ensures post after s h) ?_
  funext h s a
  cases a with
  | error e => rfl
  | ok _ =>
    cases r with
    | ok a => rfl
    | error e => rfl

theorem Ensures.returns {x : Action Q A σ ε α} {r : Except ε α} {s' : σ}
    (ensures : Ensures post x s []) (returns : (x.runFrom s).Returns h (r, s')) : post h s' r :=
  Program.Safe.returns ensures returns

end Action

end Interaction
