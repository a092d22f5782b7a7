import SandboxBenchmarks.Library.Transition

/-!
# Programs that question their environment

A program asks questions one after another and goes on with whatever the
environment answers. `Safe` is its weakest precondition over the history of
answers: a guard holds wherever a question is asked, and a postcondition wherever
the program returns. Programs with errors compose by the rules of `Holds`.
-/

namespace Interaction

universe u v w x

/-- A program over questions `Q`, where `q` is answered in `A q`. -/
inductive Program (Q : Type u) (A : Q → Type v) (α : Type w) : Type (max u v w)
  | done (a : α)
  | ask (q : Q) (next : A q → Program Q A α)
  /-- A loop that is followed no further. -/
  | cut

/-- Questions with their answers, oldest first. -/
abbrev History (Q : Type u) (A : Q → Type v) := List (Sigma A)

variable {Q : Type u} {A : Q → Type v} {α : Type w} {β : Type x}

namespace Program

def bind : Program Q A α → (α → Program Q A β) → Program Q A β
  | done a, f => f a
  | ask q next, f => ask q (fun answer => (next answer).bind f)
  | cut, _ => cut

instance : Monad (Program Q A) where
  pure := done
  bind := bind

def question (q : Q) : Program Q A (A q) := ask q done

/-- Every run from a history keeps the guard at its questions and returns within `post`. -/
def Safe (guard : History Q A → Q → Prop) (post : History Q A → α → Prop) :
    Program Q A α → History Q A → Prop
  | done a, h => post h a
  | ask q next, h => guard h q ∧ ∀ answer, Safe guard post (next answer) (h ++ [⟨q, answer⟩])
  | cut, _ => True

variable {guard : History Q A → Q → Prop} {post : History Q A → α → Prop} {h : History Q A}

theorem safe_bind {p : Program Q A α} {f : α → Program Q A β} {post : History Q A → β → Prop} :
    (p.bind f).Safe guard post h ↔ p.Safe guard (fun h a => (f a).Safe guard post h) h := by
  induction p generalizing h with
  | done a => exact Iff.rfl
  | ask q next ih => exact and_congr_right (fun _ => forall_congr' (fun answer => ih answer))
  | cut => exact Iff.rfl

theorem Safe.mono {p : Program Q A α} {post' : History Q A → α → Prop} (safe : p.Safe guard post h)
    (weaker : ∀ later a, h <+: later → post later a → post' later a) : p.Safe guard post' h := by
  induction p generalizing h with
  | done a => exact weaker h a List.prefix_rfl safe
  | ask q next ih =>
    refine ⟨safe.1, fun answer => ih answer (safe.2 answer) ?_⟩
    intro later a extends_ holds
    exact weaker later a ((List.prefix_append _ _).trans extends_) holds
  | cut => exact trivial

/-! ### Runs -/

/-- The environment answers the question asked. -/
inductive Answers : Program Q A α × History Q A → Program Q A α × History Q A → Prop
  | answer (q : Q) (next : A q → Program Q A α) (answer : A q) (h : History Q A) :
    Answers (ask q next, h) (next answer, h ++ [⟨q, answer⟩])

/-- In some run from the start, `q` is asked after `h`. -/
def Asks (p : Program Q A α) (h : History Q A) (q : Q) : Prop :=
  ∃ next, Transition.Leads Answers (p, []) (ask q next, h)

/-- Some run from the start returns `a` after `h`. -/
def Returns (p : Program Q A α) (h : History Q A) (a : α) : Prop :=
  Transition.Leads Answers (p, []) (done a, h)

theorem Safe.step {s t : Program Q A α × History Q A} (safe : s.1.Safe guard post s.2)
    (step : Answers s t) : t.1.Safe guard post t.2 := by
  cases step with
  | answer q next answer h => exact safe.2 answer

theorem Safe.run {s t : Program Q A α × History Q A} (safe : s.1.Safe guard post s.2)
    (run : Transition.Leads Answers s t) : t.1.Safe guard post t.2 := by
  induction run with
  | refl => exact safe
  | tail _ step ih => exact ih.step step

theorem Safe.asks {p : Program Q A α} {q : Q} (safe : p.Safe guard post [])
    (asks : p.Asks h q) : guard h q := by
  obtain ⟨next, run⟩ := asks
  exact (safe.run run).1

theorem Safe.returns {p : Program Q A α} {a : α} (safe : p.Safe guard post [])
    (returns : p.Returns h a) : post h a :=
  safe.run returns

/-- The program left after a history of answers to its own questions. -/
def follow [DecidableEq Q] : Program Q A α → History Q A → Option (Program Q A α)
  | p, [] => some p
  | ask q next, ⟨q', answer⟩ :: h =>
    if same : q' = q then follow (next (same ▸ answer)) h else none
  | _, _ :: _ => none

theorem leads_of_follow [DecidableEq Q] {p p' : Program Q A α} {events : History Q A}
    (h : p.follow events = some p') (before : History Q A) :
    Transition.Leads Answers (p, before) (p', before ++ events) := by
  induction events generalizing p before with
  | nil =>
    simp only [follow, Option.some.injEq] at h
    subst h
    simpa using Relation.ReflTransGen.refl
  | cons e events ih =>
    obtain ⟨q', answer⟩ := e
    cases p with
    | ask q next =>
      rw [follow] at h
      split at h
      · rename_i same
        subst same
        have rest := ih h (before ++ [⟨q', answer⟩])
        rw [List.append_assoc, List.singleton_append] at rest
        exact Relation.ReflTransGen.head (Answers.answer q' next answer before) rest
      · cases h
    | done a => cases h
    | cut => cases h

theorem returns_of_follow [DecidableEq Q] {p : Program Q A α} {events : History Q A} {a : α}
    (h : p.follow events = some (done a)) : p.Returns events a :=
  leads_of_follow h []

/-- The question a program is left with, to be decided by evaluation. -/
def asking [DecidableEq Q] (p : Program Q A α) (events : History Q A) : Option Q :=
  match p.follow events with
  | some (ask q _) => some q
  | _ => none

theorem asks_of_asking [DecidableEq Q] {p : Program Q A α} {events : History Q A} {q : Q}
    (h : p.asking events = some q) : p.Asks events q := by
  rw [asking] at h
  split at h
  · rename_i q' next reached
    cases h
    exact ⟨next, leads_of_follow reached []⟩
  · cases h

/-- The answers lead the program to `a`, to be decided by evaluation. -/
def finishes [DecidableEq Q] [DecidableEq α] (p : Program Q A α) (events : History Q A) (a : α) :
    Bool :=
  match p.follow events with
  | some (done b) => b = a
  | _ => false

theorem returns_of_finishes [DecidableEq Q] [DecidableEq α] {p : Program Q A α}
    {events : History Q A} {a : α} (h : p.finishes events a = true) : p.Returns events a := by
  rw [finishes] at h
  split at h
  · rename_i b reached
    rw [of_decide_eq_true h] at reached
    exact returns_of_follow reached
  · cases h

/-- The answers lead the program to a value that passes a test, to be decided by evaluation. -/
def ends [DecidableEq Q] (p : Program Q A α) (events : History Q A) (test : α → Bool) : Bool :=
  match p.follow events with
  | some (done a) => test a
  | _ => false

theorem returns_of_ends [DecidableEq Q] {p : Program Q A α} {events : History Q A} {test : α → Bool}
    (h : p.ends events test = true) : ∃ a, test a = true ∧ p.Returns events a := by
  rw [ends] at h
  split at h
  · rename_i a reached
    exact ⟨a, h, returns_of_follow reached⟩
  · cases h

end Program

/-! ### Programs that may throw -/

abbrev Attempt (Q : Type u) (A : Q → Type v) (ε : Type w) (α : Type w) := ExceptT ε (Program Q A) α

section
variable {ε : Type w} {α β : Type w} {guard : History Q A → Q → Prop} {h : History Q A}

def question (q : Q) {α : Type w} (next : A q → Attempt Q A ε α) : Attempt Q A ε α :=
  ExceptT.mk (.ask q (fun answer => (next answer).run))

/-- A computation of the program itself. -/
def computed (value : Except ε α) : Attempt Q A ε α := ExceptT.mk (.done value)

def cut : Attempt Q A ε α := ExceptT.mk .cut

/-- Pass an error on as another one. -/
def mapError {ε' : Type w} (f : ε → ε') (x : Attempt Q A ε α) : Attempt Q A ε' α :=
  ExceptT.mk (x.run.bind fun result => .done (result.mapError f))

/-- The outcome of a program that may throw, as a value. -/
def captured {ε' : Type w} (x : Attempt Q A ε α) : Attempt Q A ε' (Except ε α) :=
  ExceptT.lift x.run

def Holds (guard : History Q A → Q → Prop) (post : History Q A → Except ε α → Prop)
    (x : Attempt Q A ε α) (h : History Q A) : Prop := x.run.Safe guard post h

variable {post : History Q A → Except ε α → Prop}

@[simp] theorem holds_pure {a : α} :
    Holds guard post (pure a : Attempt Q A ε α) h ↔ post h (.ok a) := Iff.rfl

@[simp] theorem holds_throw {e : ε} :
    Holds guard post (throw e : Attempt Q A ε α) h ↔ post h (.error e) := Iff.rfl

@[simp] theorem holds_computed {value : Except ε α} :
    Holds guard post (computed value : Attempt Q A ε α) h ↔ post h value := Iff.rfl

@[simp] theorem holds_cut : Holds guard post (cut : Attempt Q A ε α) h := trivial

@[simp] theorem holds_question {q : Q} {next : A q → Attempt Q A ε α} :
    Holds guard post (question q next) h ↔
      guard h q ∧ ∀ answer, Holds guard post (next answer) (h ++ [⟨q, answer⟩]) := Iff.rfl

@[simp] theorem holds_lift {p : Program Q A α} :
    Holds guard post (ExceptT.lift p : Attempt Q A ε α) h ↔
      p.Safe guard (fun h a => post h (.ok a)) h :=
  Program.safe_bind

theorem holds_mapError {ε' : Type w} {f : ε → ε'} {x : Attempt Q A ε α}
    {post : History Q A → Except ε' α → Prop} :
    Holds guard post (mapError f x) h ↔
      Holds guard (fun later result => post later (result.mapError f)) x h :=
  Program.safe_bind

theorem holds_captured {ε' : Type w} {x : Attempt Q A ε α}
    {post : History Q A → Except ε' (Except ε α) → Prop} :
    Holds guard post (captured x) h ↔ Holds guard (fun later result => post later (.ok result)) x h :=
  holds_lift

/-- What follows a value, and nothing after an error. -/
def afterOk (guard : History Q A → Q → Prop) (f : α → Attempt Q A ε β)
    (post : History Q A → Except ε β → Prop) (h : History Q A) : Except ε α → Prop
  | .ok a => Holds guard post (f a) h
  | .error e => post h (.error e)

theorem holds_bind {x : Attempt Q A ε α} {f : α → Attempt Q A ε β}
    {post : History Q A → Except ε β → Prop} :
    Holds guard post (x >>= f) h ↔ Holds guard (afterOk guard f post) x h := by
  refine Program.safe_bind.trans (Iff.of_eq (congrArg (fun post => x.run.Safe guard post h) ?_))
  funext h r
  cases r with
  | ok a => rfl
  | error e => rfl

/-- What a handler does with an error. -/
def afterError (guard : History Q A → Q → Prop) (handler : ε → Attempt Q A ε α)
    (post : History Q A → Except ε α → Prop) (h : History Q A) : Except ε α → Prop
  | .ok a => post h (.ok a)
  | .error e => Holds guard post (handler e) h

theorem holds_tryCatch {x : Attempt Q A ε α} {handler : ε → Attempt Q A ε α} :
    Holds guard post (tryCatch x handler) h ↔ Holds guard (afterError guard handler post) x h := by
  refine Program.safe_bind.trans (Iff.of_eq (congrArg (fun post => x.run.Safe guard post h) ?_))
  funext h r
  cases r with
  | ok a => rfl
  | error e => rfl

theorem Holds.mono {x : Attempt Q A ε α} {post' : History Q A → Except ε α → Prop}
    (holds : Holds guard post x h)
    (weaker : ∀ later r, h <+: later → post later r → post' later r) : Holds guard post' x h :=
  Program.Safe.mono holds weaker

/-- To go on after `x` it is enough to go on from each value it may return. -/
theorem Holds.bind {x : Attempt Q A ε α} {f : α → Attempt Q A ε β}
    {post' : History Q A → Except ε β → Prop} (holds : Holds guard post x h)
    (error : ∀ later e, h <+: later → post later (.error e) → post' later (.error e))
    (ok : ∀ later a, h <+: later → post later (.ok a) → Holds guard post' (f a) later) :
    Holds guard post' (x >>= f) h := by
  rw [holds_bind]
  refine holds.mono ?_
  intro later r extends_ here
  cases r with
  | ok a => exact ok later a extends_ here
  | error e => exact error later e extends_ here

/-- A postcondition on the values returned, silent on errors. -/
def returning (P : History Q A → α → Prop) (h : History Q A) : Except ε α → Prop
  | .ok a => P h a
  | .error _ => True

@[simp] theorem returning_ok {P : History Q A → α → Prop} {a : α} :
    returning P h (.ok a : Except ε α) ↔ P h a := Iff.rfl

@[simp] theorem returning_error {P : History Q A → α → Prop} {e : ε} :
    returning P h (.error e) ↔ True := Iff.rfl

/-- The sequence rule where only returned values matter. -/
theorem Holds.andThen {x : Attempt Q A ε α} {f : α → Attempt Q A ε β} {P : History Q A → α → Prop}
    {P' : History Q A → β → Prop} (holds : Holds guard (returning P) x h)
    (ok : ∀ later a, h <+: later → P later a → Holds guard (returning P') (f a) later) :
    Holds guard (returning P') (x >>= f) h :=
  holds.bind (fun _ _ _ _ => trivial) ok

theorem holds_computed_andThen {value : Except ε α} {f : α → Attempt Q A ε β}
    {P : History Q A → β → Prop}
    (ok : ∀ a, value = .ok a → Holds guard (returning P) (f a) h) :
    Holds guard (returning P) (computed value >>= f) h := by
  rw [holds_bind, holds_computed]
  cases value with
  | ok a => exact ok a rfl
  | error e => exact trivial

theorem Holds.asks {x : Attempt Q A ε α} {q : Q} (holds : Holds guard post x [])
    (asks : Program.Asks x.run h q) : guard h q :=
  Program.Safe.asks holds asks

theorem Holds.returns {x : Attempt Q A ε α} {r : Except ε α} (holds : Holds guard post x [])
    (returns : Program.Returns x.run h r) : post h r :=
  Program.Safe.returns holds returns

end

end Interaction
