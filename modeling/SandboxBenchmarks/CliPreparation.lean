import Mathlib.Logic.Function.Basic
import SandboxBenchmarks.CliCreate

/-!
# The preparation that the calls of a driver share

`performPreparation`, `ensurePrepared` and `ensurePreparedOnce` of
`packages/driver/src/cli.ts`. Any number of calls on any number of driver contexts take
their steps in any order between two await points; clocks, timers, abort signals and
the runner of subprocesses are the environment.
-/

namespace CliPreparation

open Interaction CliCreate

/-! ### One preparation -/

inductive Ask where
  /-- `performance.now()` -/
  | now
  | run (args : CliArgv) (timeoutMs : ℤ)
  /-- Whether the rows of the probe can be read. -/
  | parseRows (stdout : String)
deriving DecidableEq

abbrev Answer : Ask → Type
  | .now => ℚ
  | .run _ _ => Except RunFault CliRunResult
  | .parseRows _ => Except Thrown Unit

abbrev Preparing (ε α : Type) := Attempt Ask Answer ε α

structure Preparation where
  authenticateFirst : Bool
  probe : CliArgv
  fallback : CliArgv

section
variable (table : CliTable) (preparation : Preparation) (deadlineMs deadline : ℚ)

def remaining {ε : Type} : Preparing ε ℚ :=
  question .now fun (at_ : ℚ) => pure (max 0 (deadline - at_))

def call (args : CliArgv) (timeoutMs : ℚ) : Preparing RunFault CliRunResult :=
  if ⌊timeoutMs⌋ ≤ 0 then throw .timeout
  else question (.run args ⌊timeoutMs⌋) fun (result : Except RunFault CliRunResult) => computed result

def parseRows (result : CliRunResult) : Preparing Thrown Unit :=
  question (.parseRows result.stdout) fun (parsed : Except Thrown Unit) => computed parsed

/-- A command within what is left of the budget, and what is thrown when it did not complete. -/
def bounded (args : CliArgv) (next : CliRunResult → Preparing Thrown Unit) : Preparing Thrown Unit := do
  let budget ← remaining deadline
  if budget < 1 then throw (createDeadlineError table deadlineMs)
  else match ← captured (call args (min budget table.commandTimeoutMs)) with
    | .error fault => throw (runFailed table deadlineMs budget table.commandTimeoutMs args fault)
    | .ok result => next result

/-- The probe again, after a successful login. -/
def verify : Preparing Thrown Unit :=
  bounded table deadlineMs deadline preparation.probe fun verified =>
    if verified.code ≠ 0 then
      throw (vendorFailed table .createFailed preparation.probe verified [preparation.probe])
    else parseRows verified

def login : Preparing Thrown Unit :=
  bounded table deadlineMs deadline preparation.fallback fun fallback =>
    if fallback.code ≠ 0 then
      throw (vendorFailed table .createFailed preparation.fallback fallback [preparation.fallback])
    else verify table preparation deadlineMs deadline

def performPreparation : Preparing Thrown Unit :=
  if preparation.authenticateFirst then do
    -- the budget is checked before the branch as well
    let probeBudget ← remaining deadline
    if probeBudget < 1 then throw (createDeadlineError table deadlineMs)
    else login table preparation deadlineMs deadline
  else
    bounded table deadlineMs deadline preparation.probe fun probed =>
      if probed.code = 0 then parseRows probed
      else login table preparation deadlineMs deadline

/-- `Math.min(Number.MAX_SAFE_INTEGER, commandTimeoutMs * 3)` -/
def sharedBudgetMs : ℚ := min 9007199254740991 (table.commandTimeoutMs * 3)

def noRemainingOwner : Thrown :=
  let provider := table.provider
  .other s!"{provider} CLI preparation has no remaining create owner"

end

/-! ### States -/

/-- What the contexts of one driver have in common. -/
structure Driver where
  table : CliTable
  prepare : Option Preparation

/-- The profile an authenticate-first table shares with others of its binary. -/
def Driver.lock (driver : Driver) : Option String :=
  match driver.prepare with
  | some preparation => if preparation.authenticateFirst then some driver.table.binary else none
  | none => none

abbrev Running := Program Ask Answer (Except Thrown Unit)

inductive Phase where
  /-- Behind the preparation that held the lock. -/
  | queued (prior : Option ℕ) (program : Running)
  | running (program : Running)
  /-- `ensurePrepared` has settled. -/
  | finished (outcome : Except Thrown Unit)
  /-- The context knows, and so do the waiters. -/
  | settled (outcome : Except Thrown Unit)

/-- A `CliPreparationInFlight`. -/
structure Task where
  context : ℕ
  phase : Phase
  cancelled : Bool
  waiters : List ℕ

inductive Failure where
  /-- Its own deadline or abort. -/
  | own (error : Thrown)
  | preparation (task : ℕ) (error : Thrown)
deriving DecidableEq

inductive Stage where
  | arriving
  /-- Waits for a cancelled task to drain. -/
  | retiring (task : ℕ)
  | waiting (task : ℕ)
  /-- The race is decided, the `finally` is still to come. -/
  | leaving (task : ℕ) (result : Except Failure Unit)
  /-- The last owner waits for the task it cancelled. -/
  | draining (task : ℕ) (result : Except Failure Unit)
  | returned (result : Except Failure Unit)

/-- One call of `ensurePreparedOnce`, with its later calls of itself. -/
structure Caller where
  context : ℕ
  deadlineMs : ℚ
  stage : Stage

/-- `CliDriverContext.prepare` -/
inductive Prepared where
  | unset
  | inFlight (task : ℕ)
  | done
deriving DecidableEq

structure State where
  prepare : ℕ → Prepared
  preparationLocks : String → Option ℕ
  tasks : List Task
  callers : List Caller

def State.initial : State := ⟨fun _ => .unset, fun _ => none, [], []⟩

def State.setTask (s : State) (k : ℕ) (task : Task) : State :=
  { s with tasks := s.tasks.set k task }

def State.setCaller (s : State) (c : ℕ) (caller : Caller) (stage : Stage) : State :=
  { s with callers := s.callers.set c { caller with stage } }

section
variable (drivers : ℕ → Driver)

def Caller.timedOut (caller : Caller) : Failure :=
  .own (createDeadlineError (drivers caller.context).table caller.deadlineMs)

/-- A `CliRunAbortedError` of the call's own signal. -/
def Caller.aborted : Failure := .own .runAborted

/-- What follows a preparation that is done. -/
def Caller.checked (caller : Caller) (aborted : Bool) (budget : ℚ) : Except Failure Unit :=
  if aborted then .error Caller.aborted
  else if budget < 1 then .error (caller.timedOut drivers)
  else .ok ()

/-- What a race against the own timer and signal is lost to. -/
def Caller.lost (caller : Caller) (timer : Bool) : Failure :=
  if timer then caller.timedOut drivers else Caller.aborted

/-- A new task, which its caller waits for. -/
def State.start (s : State) (c : ℕ) (caller : Caller) (preparation : Preparation) (now : ℚ) : State :=
  let driver := drivers caller.context
  let deadlineMs := sharedBudgetMs driver.table
  let program := (performPreparation driver.table preparation deadlineMs (now + deadlineMs)).run
  let k := s.tasks.length
  let phase : Phase := match driver.lock with
    | some binary => .queued (s.preparationLocks binary) program
    | none => .running program
  { prepare := Function.update s.prepare caller.context (.inFlight k)
    preparationLocks := match driver.lock with
      | some binary => Function.update s.preparationLocks binary (some k)
      | none => s.preparationLocks
    tasks := s.tasks ++ [⟨caller.context, phase, false, [c]⟩]
    callers := s.callers.set c { caller with stage := .waiting k } }

/-- The promise of a task settles; its context is told first. -/
def State.settle (s : State) (k : ℕ) (task : Task) (outcome : Except Thrown Unit) : State :=
  { s.setTask k { task with phase := .settled outcome } with
    prepare :=
      if s.prepare task.context = .inFlight k then
        Function.update s.prepare task.context (match outcome with
          | .ok _ => .done
          | .error _ => .unset)
      else s.prepare }

/-- The `finally` of a waiter: the last one cancels, and waits for the task to drain. -/
def State.leave (s : State) (c : ℕ) (caller : Caller) (k : ℕ) (task : Task)
    (result : Except Failure Unit) : State :=
  let waiters := task.waiters.filter (· ≠ c)
  if waiters = [] ∧ s.prepare task.context = .inFlight k then
    (s.setTask k { task with waiters, cancelled := true }).setCaller c caller (.draining k result)
  else (s.setTask k { task with waiters }).setCaller c caller (.returned result)

/-- Whether a task no longer holds the lock. -/
def Phase.released : Phase → Bool
  | .finished _ => true
  | .settled _ => true
  | _ => false

/-! ### Runs -/

inductive Action where
  | calls
  /-- `ensurePreparedOnce` is called, or calls itself. -/
  | enters (c : ℕ)
  | drained (c : ℕ)
  | loses (c : ℕ)
  | learns (c : ℕ)
  | leaves (c : ℕ)
  | returns (c : ℕ)
  | dequeues (k : ℕ)
  | answers (k : ℕ)
  | finishes (k : ℕ)
  | settles (k : ℕ)
  | unlocks (k : ℕ)
deriving DecidableEq

/-- Each reading of a budget or of a signal may be anything. -/
inductive Step : State → Action → State → Prop
  | calls (s : State) (context : ℕ) (deadlineMs : ℚ) :
    Step s .calls { s with callers := s.callers ++ [⟨context, deadlineMs, .arriving⟩] }
  | unprepared (s : State) (c : ℕ) (caller : Caller) (at_ : s.callers[c]? = some caller)
    (arriving : caller.stage = .arriving) (none_ : (drivers caller.context).prepare = none) :
    Step s (.enters c) (s.setCaller c caller (.returned (.ok ())))
  | prepared (s : State) (c : ℕ) (caller : Caller) (preparation : Preparation) (aborted : Bool)
    (budget : ℚ) (at_ : s.callers[c]? = some caller) (arriving : caller.stage = .arriving)
    (some_ : (drivers caller.context).prepare = some preparation)
    (done : s.prepare caller.context = .done) :
    Step s (.enters c)
      (s.setCaller c caller (.returned (caller.checked drivers aborted budget)))
  | exhausted (s : State) (c : ℕ) (caller : Caller) (preparation : Preparation) (budget : ℚ)
    (at_ : s.callers[c]? = some caller) (arriving : caller.stage = .arriving)
    (some_ : (drivers caller.context).prepare = some preparation)
    (undone : s.prepare caller.context ≠ .done) (spent : budget < 1) :
    Step s (.enters c)
      (s.setCaller c caller (.returned (.error (caller.timedOut drivers))))
  | starts (s : State) (c : ℕ) (caller : Caller) (preparation : Preparation) (budget now : ℚ)
    (at_ : s.callers[c]? = some caller) (arriving : caller.stage = .arriving)
    (some_ : (drivers caller.context).prepare = some preparation)
    (unset : s.prepare caller.context = .unset) (left : 1 ≤ budget) :
    Step s (.enters c) (s.start drivers c caller preparation now)
  | joins (s : State) (c : ℕ) (caller : Caller) (preparation : Preparation) (budget : ℚ) (k : ℕ)
    (task : Task) (at_ : s.callers[c]? = some caller) (arriving : caller.stage = .arriving)
    (some_ : (drivers caller.context).prepare = some preparation)
    (inFlight : s.prepare caller.context = .inFlight k) (left : 1 ≤ budget)
    (task_at : s.tasks[k]? = some task) (live : task.cancelled = false) :
    Step s (.enters c)
      ((s.setTask k { task with waiters := task.waiters ++ [c] }).setCaller c caller (.waiting k))
  | retires (s : State) (c : ℕ) (caller : Caller) (preparation : Preparation) (budget : ℚ) (k : ℕ)
    (task : Task) (at_ : s.callers[c]? = some caller) (arriving : caller.stage = .arriving)
    (some_ : (drivers caller.context).prepare = some preparation)
    (inFlight : s.prepare caller.context = .inFlight k) (left : 1 ≤ budget)
    (task_at : s.tasks[k]? = some task) (cancelled : task.cancelled = true) :
    Step s (.enters c) (s.setCaller c caller (.retiring k))
  | drained (s : State) (c : ℕ) (caller : Caller) (k : ℕ) (task : Task)
    (outcome : Except Thrown Unit) (at_ : s.callers[c]? = some caller)
    (retiring : caller.stage = .retiring k) (task_at : s.tasks[k]? = some task)
    (settled : task.phase = .settled outcome) :
    Step s (.drained c) (s.setCaller c caller .arriving)
  | losesRetirement (s : State) (c : ℕ) (caller : Caller) (k : ℕ) (timer : Bool)
    (at_ : s.callers[c]? = some caller) (retiring : caller.stage = .retiring k) :
    Step s (.loses c) (s.setCaller c caller (.returned (.error (caller.lost drivers timer))))
  | loses (s : State) (c : ℕ) (caller : Caller) (k : ℕ) (timer : Bool)
    (at_ : s.callers[c]? = some caller) (waiting : caller.stage = .waiting k) :
    Step s (.loses c) (s.setCaller c caller (.leaving k (.error (caller.lost drivers timer))))
  | learnsDone (s : State) (c : ℕ) (caller : Caller) (k : ℕ) (task : Task) (aborted : Bool)
    (budget : ℚ) (at_ : s.callers[c]? = some caller) (waiting : caller.stage = .waiting k)
    (task_at : s.tasks[k]? = some task) (settled : task.phase = .settled (.ok ())) :
    Step s (.learns c)
      (s.setCaller c caller (.leaving k (caller.checked drivers aborted budget)))
  | learnsFailure (s : State) (c : ℕ) (caller : Caller) (k : ℕ) (task : Task) (error : Thrown)
    (at_ : s.callers[c]? = some caller) (waiting : caller.stage = .waiting k)
    (task_at : s.tasks[k]? = some task) (settled : task.phase = .settled (.error error)) :
    Step s (.learns c)
      (s.setCaller c caller (.leaving k (.error (.preparation k error))))
  | leaves (s : State) (c : ℕ) (caller : Caller) (k : ℕ) (task : Task)
    (result : Except Failure Unit) (at_ : s.callers[c]? = some caller)
    (leaving : caller.stage = .leaving k result) (task_at : s.tasks[k]? = some task) :
    Step s (.leaves c) (s.leave c caller k task result)
  | returns (s : State) (c : ℕ) (caller : Caller) (k : ℕ) (task : Task)
    (result : Except Failure Unit) (outcome : Except Thrown Unit)
    (at_ : s.callers[c]? = some caller) (draining : caller.stage = .draining k result)
    (task_at : s.tasks[k]? = some task) (settled : task.phase = .settled outcome) :
    Step s (.returns c) (s.setCaller c caller (.returned result))
  | dequeues (s : State) (k : ℕ) (task : Task) (prior : Option ℕ) (program : Running)
    (at_ : s.tasks[k]? = some task) (queued : task.phase = .queued prior program)
    (free : ∀ p, prior = some p → ∃ before, s.tasks[p]? = some before ∧ before.phase.released = true) :
    Step s (.dequeues k) (s.setTask k { task with
      phase := if task.cancelled then .finished (.error (noRemainingOwner (drivers task.context).table))
        else .running program })
  | answers (s : State) (k : ℕ) (task : Task) (q : Ask) (next : Answer q → Running)
    (answer : Answer q) (at_ : s.tasks[k]? = some task)
    (running : task.phase = .running (.ask q next)) :
    Step s (.answers k) (s.setTask k { task with phase := .running (next answer) })
  | finishes (s : State) (k : ℕ) (task : Task) (outcome : Except Thrown Unit)
    (at_ : s.tasks[k]? = some task) (running : task.phase = .running (.done outcome)) :
    Step s (.finishes k) (s.setTask k { task with phase := .finished outcome })
  | settles (s : State) (k : ℕ) (task : Task) (outcome : Except Thrown Unit)
    (at_ : s.tasks[k]? = some task) (finished : task.phase = .finished outcome) :
    Step s (.settles k) (s.settle k task outcome)
  | unlocks (s : State) (k : ℕ) (task : Task) (binary : String) (at_ : s.tasks[k]? = some task)
    (lock : (drivers task.context).lock = some binary) (released : task.phase.released = true)
    (held : s.preparationLocks binary = some k) :
    Step s (.unlocks k)
      { s with preparationLocks := Function.update s.preparationLocks binary none }

abbrev Runs : State → Prop :=
  Transition.Reachable (· = State.initial) (fun s t => ∃ action, Step drivers s action t)

end

end CliPreparation
