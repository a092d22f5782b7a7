import Mathlib.Algebra.Order.Ring.Rat
import SandboxBenchmarks.Library.Interaction

/-!
# Polling until ready

`pollUntilReady` of `packages/driver/src/lib/poll.ts`. A probe is started and then
races the abort signal and the deadline; a probe that loses the race is still in
flight when polling fails.
-/

namespace Polling

open Interaction

/-- Which of the promises raced settles first. -/
inductive Race (ε : Type)
  | polled
  | aborted (reason : ε)
  | timedOut
deriving DecidableEq, Repr

/-- How polling fails: with what the probes have left behind, and one in flight or none. -/
structure Fault (σ τ ε : Type) where
  state : σ
  error : ε
  inFlight : Option τ
deriving DecidableEq, Repr

/-- What probes and timers ask of the environment; `start` is a probe up to its first wait. -/
structure Strategy (Q : Type) (A : Q → Type) (σ τ ε α : Type) where
  now : Program Q A ℚ
  aborted : Program Q A (Option ε)
  race : Program Q A (Race ε)
  delay : ℚ → Program Q A (Option ε)
  timeoutError : ε
  deadlineMs : ℚ
  intervalMs : ℚ
  start : σ → Attempt Q A (σ × ε) τ
  finish : τ → Attempt Q A (σ × ε) (σ × Option α)

variable {Q : Type} {A : Q → Type} {σ τ ε α : Type}

namespace Strategy

variable (strategy : Strategy Q A σ τ ε α)

/-- A failure of the probe itself. -/
def settled {β : Type} (probe : Attempt Q A (σ × ε) β) : Attempt Q A (Fault σ τ ε) β :=
  ExceptT.mk (probe.run.bind fun result => .done (result.mapError fun e => ⟨e.1, e.2, none⟩))

def pollBefore (deadline : ℚ) (state : σ) : Attempt Q A (Fault σ τ ε) (σ × Option α) := do
  match ← ExceptT.lift strategy.aborted with
  | some reason => throw ⟨state, reason, none⟩
  | none =>
    let at_ ← ExceptT.lift strategy.now
    if deadline - at_ ≤ 0 then throw ⟨state, strategy.timeoutError, none⟩
    else do
      let probe ← settled (strategy.start state)
      match ← ExceptT.lift strategy.race with
      | .aborted reason => throw ⟨state, reason, some probe⟩
      | .timedOut => throw ⟨state, strategy.timeoutError, some probe⟩
      | .polled => do
        let ready ← settled (strategy.finish probe)
        let at_ ← ExceptT.lift strategy.now
        if deadline ≤ at_ then throw ⟨ready.1, strategy.timeoutError, none⟩
        else pure ready

/-- `rounds` bounds how many probes a run is followed for. -/
def pollFrom (deadline : ℚ) : ℕ → σ → Attempt Q A (Fault σ τ ε) (σ × α)
  | 0, _ => cut
  | rounds + 1, state => do
    match ← strategy.pollBefore deadline state with
    | (state, some ready) => pure (state, ready)
    | (state, none) =>
      let at_ ← ExceptT.lift strategy.now
      if deadline - at_ ≤ 0 then throw ⟨state, strategy.timeoutError, none⟩
      else do
        match ← ExceptT.lift (strategy.delay (min strategy.intervalMs (deadline - at_))) with
        | some reason => throw ⟨state, reason, none⟩
        | none => pollFrom deadline rounds state

def pollUntilReady (rounds : ℕ) (state : σ) : Attempt Q A (Fault σ τ ε) (σ × α) := do
  let at_ ← ExceptT.lift strategy.now
  strategy.pollFrom (at_ + strategy.deadlineMs) rounds state

/-! ### The rule for polling -/

/-- What the clock, the signal, the race and the delay leave true. -/
structure Stable (guard : History Q A → Q → Prop) (P : History Q A → Prop) : Prop where
  now : ∀ h, P h → strategy.now.Safe guard (fun later _ => P later) h
  aborted : ∀ h, P h → strategy.aborted.Safe guard (fun later _ => P later) h
  race : ∀ h, P h → strategy.race.Safe guard (fun later _ => P later) h
  delay : ∀ ms h, P h → (strategy.delay ms).Safe guard (fun later _ => P later) h

/-- What holds between probes, while one runs, once one is ready, and when polling fails. -/
structure Rule (guard : History Q A → Q → Prop) (between : History Q A → σ → Prop)
    (during : History Q A → σ → τ → Prop) (ready : History Q A → σ → α → Prop)
    (failed : History Q A → Fault σ τ ε → Prop) : Prop where
  stable_between : ∀ state, strategy.Stable guard (fun h => between h state)
  stable_during : ∀ state probe, strategy.Stable guard (fun h => during h state probe)
  stable_ready : ∀ state a, strategy.Stable guard (fun h => ready h state a)
  start : ∀ h state, between h state → Holds guard (fun later result => match result with
    | .ok probe => during later state probe
    | .error e => failed later ⟨e.1, e.2, none⟩) (strategy.start state) h
  finish : ∀ h state probe, during h state probe → Holds guard (fun later result => match result with
    | .ok (state, none) => between later state
    | .ok (state, some a) => ready later state a
    | .error e => failed later ⟨e.1, e.2, none⟩) (strategy.finish probe) h
  failed_between : ∀ h state error, between h state → failed h ⟨state, error, none⟩
  failed_during : ∀ h state probe error, during h state probe → failed h ⟨state, error, some probe⟩
  failed_late : ∀ h state a, ready h state a → failed h ⟨state, strategy.timeoutError, none⟩

variable {strategy} {guard : History Q A → Q → Prop} {between : History Q A → σ → Prop}
  {during : History Q A → σ → τ → Prop} {ready : History Q A → σ → α → Prop}
  {failed : History Q A → Fault σ τ ε → Prop} {h : History Q A}

/-- The outcome of one probe, or of all of them. -/
def Ends {β : Type} (ok : History Q A → β → Prop) (failed : History Q A → Fault σ τ ε → Prop)
    (h : History Q A) : Except (Fault σ τ ε) β → Prop
  | .ok b => ok h b
  | .error fault => failed h fault

theorem holds_settled {β : Type} {probe : Attempt Q A (σ × ε) β}
    {post : History Q A → Except (Fault σ τ ε) β → Prop} :
    Holds guard post (settled probe) h ↔
      Holds guard (fun later result => post later (result.mapError fun e => ⟨e.1, e.2, none⟩))
        probe h :=
  Program.safe_bind

theorem Rule.pollBefore (rule : strategy.Rule guard between during ready failed) (deadline : ℚ)
    (state : σ) (start : between h state) :
    Holds guard (Ends (fun later (result : σ × Option α) => match result with
      | (state, none) => between later state
      | (state, some a) => ready later state a) failed) (strategy.pollBefore deadline state) h := by
  rw [Strategy.pollBefore, holds_bind, holds_lift]
  refine ((rule.stable_between state).aborted h start).mono ?_
  rintro h (_ | reason) _ holds
  swap
  · exact rule.failed_between h state reason holds
  refine holds_bind.mpr (holds_lift.mpr (((rule.stable_between state).now h holds).mono ?_))
  rintro h at_ _ holds
  dsimp only [afterOk]
  split
  · exact rule.failed_between h state _ holds
  refine holds_bind.mpr (holds_settled.mpr ((rule.start h state holds).mono ?_))
  rintro h (e | probe) _ started
  · exact started
  refine holds_bind.mpr (holds_lift.mpr (((rule.stable_during state probe).race h started).mono ?_))
  rintro h (_ | reason | _) _ running
  · refine holds_bind.mpr (holds_settled.mpr ((rule.finish h state probe running).mono ?_))
    rintro h (e | ⟨state', _ | a⟩) _ finished
    · exact finished
    · refine holds_bind.mpr (holds_lift.mpr (((rule.stable_between state').now h finished).mono ?_))
      rintro h at_ _ holds
      dsimp only [afterOk]
      split
      · exact rule.failed_between h state' _ holds
      · exact holds
    · refine holds_bind.mpr (holds_lift.mpr (((rule.stable_ready state' a).now h finished).mono ?_))
      rintro h at_ _ holds
      dsimp only [afterOk]
      split
      · exact rule.failed_late h state' a holds
      · exact holds
  · exact rule.failed_during h state probe reason running
  · exact rule.failed_during h state probe _ running

theorem Rule.pollFrom (rule : strategy.Rule guard between during ready failed) (deadline : ℚ)
    (rounds : ℕ) (state : σ) (start : between h state) :
    Holds guard (Ends (fun later (result : σ × α) => ready later result.1 result.2) failed)
      (strategy.pollFrom deadline rounds state) h := by
  induction rounds generalizing state h with
  | zero => exact trivial
  | succ rounds ih =>
    rw [Strategy.pollFrom]
    refine holds_bind.mpr ((rule.pollBefore deadline state start).mono ?_)
    rintro h (fault | ⟨state', _ | a⟩) _ probed
    · exact probed
    · refine holds_bind.mpr (holds_lift.mpr (((rule.stable_between state').now h probed).mono ?_))
      rintro h at_ _ holds
      dsimp only [afterOk]
      split
      · exact rule.failed_between h state' _ holds
      refine holds_bind.mpr (holds_lift.mpr (((rule.stable_between state').delay _ h holds).mono ?_))
      rintro h (_ | reason) _ holds
      · exact ih state' holds
      · exact rule.failed_between h state' reason holds
    · exact probed

/-- Polling keeps what holds between probes, and ends as its probes do. -/
theorem Rule.pollUntilReady (rule : strategy.Rule guard between during ready failed) (rounds : ℕ)
    (state : σ) (start : between h state) :
    Holds guard (Ends (fun later (result : σ × α) => ready later result.1 result.2) failed)
      (strategy.pollUntilReady rounds state) h := by
  rw [Strategy.pollUntilReady]
  refine holds_bind.mpr (holds_lift.mpr (((rule.stable_between state).now h start).mono ?_))
  intro h at_ _ holds
  exact rule.pollFrom _ rounds state holds

end Strategy

end Polling
