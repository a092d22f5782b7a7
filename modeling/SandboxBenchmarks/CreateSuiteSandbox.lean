import SandboxBenchmarks.RunModel
import SandboxBenchmarks.SandboxOwner

/-!
# Creating the sandbox of a suite

`createSuiteSandboxFromPlan` of `packages/harness/src/index.ts`, over the owner of
`sandbox-owner.ts`: each attempt is one `createOwnedSandbox`, which goes on in the owner
after the loop has given it up. The clock is read where the loop reads it, and may show
any time. Log lines are left out.
-/

namespace CreateSuiteSandbox

open RunModel

/-- What a provider's create rejects with, as the loop and the owner tell it apart. -/
inductive ProviderError where
  /-- `isFailedCreateCleanupError` -/
  | failedCreateCleanup (described : String)
  /-- Whether the owner finds a disposal, and more than it. -/
  | other (described : String) (disposal : Option Bool)
deriving DecidableEq, Repr

def ProviderError.disposal : ProviderError → Option Bool
  | .failedCreateCleanup _ => some true
  | .other _ disposal => disposal

inductive CreateError where
  | allocationTimeout
  /-- By the owner, during a shutdown. -/
  | refused
  | provider (error : ProviderError)
deriving DecidableEq, Repr

/-- `describeDriverFailure` -/
def CreateError.described : CreateError → String
  | .allocationTimeout => "Sandbox creation timed out; allocation ownership unresolved"
  | .refused => "Sandbox creation refused during shutdown"
  | .provider (.failedCreateCleanup described) => described
  | .provider (.other described _) => described

structure Plan where
  isRetryable : CreateError → Bool
  /-- The kind of its `destroy`, as `SandboxOwner.Entry` has it. -/
  forwards : Bool

structure Context where
  suiteName : String
  providerName : String
  /-- Absent, `null` or a number. -/
  createTimeoutMs : Option (Option ℚ)
  createAttemptCeilingMs : Option ℚ
  retryDelayMs : Option ℚ
  retryBudgetMs : Option ℚ

def minute : ℚ := 60000

def createFailurePrefix : String := "Failed to create sandbox: "

section
variable (plan : Plan) (ctx : Context)

def Context.timeoutMs : Option ℚ :=
  match ctx.createTimeoutMs with
  | none => some (5 * minute)
  | some createTimeoutMs => createTimeoutMs

def Context.delayMs : ℚ := ctx.retryDelayMs.getD (2 * minute)

def Context.budgetMs : ℚ := ctx.retryBudgetMs.getD 0

/-- What one more attempt can cost. -/
def Context.attemptCeilingMs : ℚ :=
  match ctx.timeoutMs with
  | some timeoutMs => timeoutMs
  | none => ctx.createAttemptCeilingMs.getD 0

def Plan.retryable : CreateError → Bool
  | .allocationTimeout => false
  | .provider (.failedCreateCleanup _) => false
  | error => plan.isRetryable error

/-! ### States -/

inductive Outcome where
  | session
  | failed (error : CreateError)
deriving DecidableEq, Repr

structure Attempt where
  /-- Its entry in the owner, unless it was refused. -/
  entry : Option ℕ
  /-- The clock before the backoff and after it, where there was one. -/
  readings : Option (ℚ × ℚ)
  outcome : Option Outcome
  /-- Its late arrival was handed to `destroySandbox`. -/
  late : Bool
deriving DecidableEq, Repr

structure Marker where
  provider : String
  suite : String
  outcome : GapOutcome
  reason : String
  cause : GapCause
  written : Bool
deriving DecidableEq, Repr

inductive Stage where
  | idle
  | awaiting
  | sleeping (error : CreateError) (before : ℚ)
  | returned (entry : ℕ)
  | thrown (error : CreateError)
deriving DecidableEq, Repr

structure State where
  owner : SandboxOwner.State
  began : ℚ
  attempts : List Attempt
  stage : Stage
  markers : List Marker
deriving DecidableEq, Repr

/-- Whatever the owner holds already. -/
def State.initial (owner : SandboxOwner.State) : State := ⟨owner, 0, [], .idle, []⟩

def State.deadline (s : State) : ℚ := s.began + ctx.budgetMs

def State.fitsInBudget (s : State) (now inMs : ℚ) : Prop :=
  now + inMs + ctx.attemptCeilingMs ≤ s.deadline ctx

instance (s : State) (now inMs : ℚ) : Decidable (s.fitsInBudget ctx now inMs) :=
  inferInstanceAs (Decidable (_ ≤ _))

def State.setAttempt (s : State) (k : ℕ) (attempt : Attempt) : State :=
  { s with attempts := s.attempts.set k attempt }

/-! ### The loop -/

def State.startAttempt (s : State) (readings : Option (ℚ × ℚ)) : State :=
  { s with
    owner := s.owner.create plan.forwards
    attempts := s.attempts ++
      [(⟨if s.owner.stopping then none else some s.owner.entries.length, readings, none, false⟩ : Attempt)]
    stage := .awaiting }

def marker (error : CreateError) (written : Bool) : Marker where
  provider := ctx.providerName
  suite := ctx.suiteName
  outcome := .failed
  reason := createFailurePrefix ++ error.described
  cause := .sandboxCreateFailed (some error.described)
  written := written

/-- The write is best-effort: the error is thrown either way. -/
def State.giveUp (s : State) (error : CreateError) (written : Bool) : State :=
  { s with stage := .thrown error, markers := s.markers ++ [marker ctx error written] }

/-- The `catch`, once attempt `k` is known to have failed. -/
def State.fails (s : State) (k : ℕ) (attempt : Attempt) (error : CreateError) (now : ℚ)
    (written : Bool) : State :=
  let s := s.setAttempt k { attempt with outcome := some (.failed error) }
  if plan.retryable error = true ∧ s.fitsInBudget ctx now ctx.delayMs then
    { s with stage := .sleeping error now }
  else s.giveUp ctx error written

def State.wakes (s : State) (error : CreateError) (before now : ℚ) (written : Bool) : State :=
  if s.fitsInBudget ctx now 0 then s.startAttempt plan (some (before, now))
  else s.giveUp ctx error written

/-- The errors an entry's promise may have been rejected with. -/
def RejectsWith (phase : SandboxOwner.Phase) (error : ProviderError) : Prop :=
  match phase with
  | .rejected => error.disposal = none
  | .recoverable cleanup => error.disposal = some cleanup
  | .unusable => True
  | _ => False

/-! ### Runs -/

inductive Action where
  /-- The owner goes on, by itself or for its other callers. -/
  | owner (action : SandboxOwner.Action)
  | begins
  | resolves
  | rejects
  | timesOut
  | wakes
  /-- An attempt that was given up resolves after all. -/
  | late (k : ℕ)
deriving DecidableEq, Repr

inductive Step : State → Action → State → Prop
  | owner (s : State) (action : SandboxOwner.Action) (owner : SandboxOwner.State)
    (step : SandboxOwner.Step s.owner action owner) :
    Step s (.owner action) { s with owner }
  | begins (s : State) (now : ℚ) (idle : s.stage = .idle) :
    Step s .begins ({ s with began := now }.startAttempt plan none)
  | resolves (s : State) (k : ℕ) (attempt : Attempt) (i : ℕ) (entry : SandboxOwner.Entry)
    (awaiting : s.stage = .awaiting) (last : k + 1 = s.attempts.length)
    (at_ : s.attempts[k]? = some attempt) (owned : attempt.entry = some i)
    (entry_at : s.owner.entries[i]? = some entry) (live : entry.phase = .live) :
    Step s .resolves
      { s.setAttempt k { attempt with outcome := some .session } with stage := .returned i }
  | rejects (s : State) (k : ℕ) (attempt : Attempt) (i : ℕ) (entry : SandboxOwner.Entry)
    (error : ProviderError) (now : ℚ) (written : Bool) (awaiting : s.stage = .awaiting)
    (last : k + 1 = s.attempts.length) (at_ : s.attempts[k]? = some attempt)
    (owned : attempt.entry = some i) (entry_at : s.owner.entries[i]? = some entry)
    (rejected : RejectsWith entry.phase error) :
    Step s .rejects (s.fails plan ctx k attempt (.provider error) now written)
  | refused (s : State) (k : ℕ) (attempt : Attempt) (now : ℚ) (written : Bool)
    (awaiting : s.stage = .awaiting) (last : k + 1 = s.attempts.length)
    (at_ : s.attempts[k]? = some attempt) (refused : attempt.entry = none) :
    Step s .rejects (s.fails plan ctx k attempt .refused now written)
  | timesOut (s : State) (k : ℕ) (attempt : Attempt) (now : ℚ) (written : Bool)
    (awaiting : s.stage = .awaiting) (last : k + 1 = s.attempts.length)
    (at_ : s.attempts[k]? = some attempt) (bounded : ctx.timeoutMs ≠ none) :
    Step s .timesOut (s.fails plan ctx k attempt .allocationTimeout now written)
  | wakes (s : State) (error : CreateError) (before now : ℚ) (written : Bool)
    (sleeping : s.stage = .sleeping error before) :
    Step s .wakes (s.wakes plan ctx error before now written)
  | late (s : State) (k : ℕ) (attempt : Attempt) (i : ℕ) (entry : SandboxOwner.Entry)
    (at_ : s.attempts[k]? = some attempt)
    (abandoned : attempt.outcome = some (.failed .allocationTimeout)) (due : attempt.late = false)
    (owned : attempt.entry = some i) (entry_at : s.owner.entries[i]? = some entry)
    (live : entry.phase = .live) :
    Step s (.late k)
      { s.setAttempt k { attempt with late := true } with
        owner := s.owner.setEntry i entry.destroy }

/-- Started at any time in the life of the process. -/
abbrev Runs : State → Prop :=
  Transition.Reachable (fun s => ∃ owner, SandboxOwner.Runs owner ∧ s = .initial owner)
    (fun s t => ∃ action, Step plan ctx s action t)

end

end CreateSuiteSandbox
