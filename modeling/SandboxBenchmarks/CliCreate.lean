import Mathlib.Algebra.Order.Floor.Ring
import Mathlib.Data.Rat.Floor
import SandboxBenchmarks.DriverPort
import SandboxBenchmarks.Polling

/-!
# Creating a sandbox through a command line

`create` of `cliMethodTable` in `packages/driver/src/cli.ts`, with the retries of the
cleanup that a failed create hands on. The runner of subprocesses, the clocks, the
signals and the callbacks of a table are the environment; a callback answers with what
the kit made of it.
-/

namespace CliCreate

open Interaction DriverPort

abbrev CliArgv := List String

structure CliRunResult where
  code : ℤ
  stdout : String
  stderr : String
deriving DecidableEq, Repr

/-- Why `call` rejects. -/
inductive RunFault
  | timeout
  | contract (error : DriverError)
  | other
deriving DecidableEq, Repr

inductive Thrown
  | driver (error : DriverError)
  /-- A `CliRunAbortedError`. -/
  | runAborted
  | other (label : String)
deriving DecidableEq, Repr

inductive Status
  | ready
  | pending
  | terminal (detail : String) (retryable : Bool)
deriving DecidableEq, Repr

/-- What a subprocess is run for. -/
inductive Purpose
  | create | readiness | lookup | destroy
deriving DecidableEq, Repr

inductive Query (Row : Type)
  | validate
  /-- `performance.now()` -/
  | now
  /-- `Date.now()` -/
  | date
  | aborted
  | race
  | delay (ms : ℚ)
  | cleanupArgv
  | createArgv
  | destroyArgv (id : String)
  | prepare
  | start (purpose : Purpose) (args : CliArgv) (timeoutMs : ℤ)
  /-- The runner settles, after its child has ended. -/
  | settle (purpose : Purpose)
  | parse (stdout : String)
  | select (rows : List Row)
  | classify (row : Row)
  /-- `cleanupCreated.select` -/
  | locate (rows : List Row)
  /-- `ready.classify`, for its diagnostic alone. -/
  | diagnose (row : Row)
  | sandboxId (row : Row)
  | isRetryableCreate (error : DriverError)
  /-- `markRetryableDriverCreate` -/
  | mark (error : DriverError)
deriving DecidableEq

variable {Row : Type}

abbrev Answer : Query Row → Type
  | .validate => Except Thrown Unit
  | .now => ℚ
  | .date => ℚ
  | .aborted => Option Thrown
  | .race => Polling.Race Thrown
  | .delay _ => Option Thrown
  | .cleanupArgv => Except Thrown CliArgv
  | .createArgv => Except Thrown CliArgv
  | .destroyArgv _ => Except Thrown CliArgv
  | .prepare => Except Thrown Unit
  | .start _ _ _ => Unit
  | .settle _ => Except RunFault CliRunResult
  | .parse _ => Except Thrown (List Row)
  | .select _ => Except Thrown (Option Row)
  | .classify _ => Except Thrown Status
  | .locate _ => Except Thrown (Option Row)
  | .diagnose _ => Except Thrown Status
  | .sandboxId _ => Except Thrown String
  | .isRetryableCreate _ => Except Thrown Bool
  | .mark _ => Unit

abbrev Events (Row : Type) := History (Query Row) Answer

abbrev Cli (Row ε α : Type) := Attempt (Query Row) Answer ε α

inductive CleanupKind
  | command
  | lookup
deriving DecidableEq, Repr

/-- What a table declares; its numbers are checked when the table is built. -/
structure CliTable where
  provider : String
  binary : String
  commandTimeoutMs : ℕ
  commandTimeout_pos : 0 < commandTimeoutMs
  createCommandTimeoutMs : Option ℕ
  createAttemptCeilingMs : Option ℕ
  readyPoll : CliArgv
  pollIntervalMs : Option ℕ
  cleanupCreated : CleanupKind
  absenceConfirmationMs : ℕ
  absenceConfirmation_pos : 0 < absenceConfirmationMs
  matchesNotFound : String → Bool
  redactArgs : CliArgv → CliArgv
  /-- `redactKnownDiagnostic` -/
  redact : String → List CliArgv → String

/-- The argument lists that are compiled before the first side effect. -/
structure Argvs where
  create : CliArgv
  cleanup : Option CliArgv
deriving DecidableEq, Repr

variable (table : CliTable)

def Argvs.attempt (argvs : Argvs) : List CliArgv :=
  [argvs.create, table.readyPoll] ++ argvs.cleanup.toList

/-! ### Errors -/

def isSpace (c : Char) : Bool :=
  c.val ∈ ([9, 10, 11, 12, 13, 32, 0xA0, 0x1680, 0x2028, 0x2029, 0x202F, 0x205F, 0x3000, 0xFEFF] :
    List UInt32) || (0x2000 ≤ c.val && c.val ≤ 0x200A)

/-- `String.prototype.trim` -/
def trim (s : String) : String :=
  String.ofList (((s.toList.dropWhile isSpace).reverse.dropWhile isSpace).reverse)

def failure (code : DriverErrorCode) (message : String) : Thrown :=
  .driver { code, message, provider := some table.provider }

def createDeadlineError (deadlineMs : ℚ) : Thrown :=
  let provider := table.provider
  let ms := toString deadlineMs
  failure table .readinessTimeout s!"{provider} sandbox not ready within {ms}ms"

def isReadinessTimeout : Thrown → Bool
  | .driver error => error.code = .readinessTimeout
  | _ => false

def commandLine (args : CliArgv) : String :=
  let binary := table.binary
  let redacted := " ".intercalate (table.redactArgs args)
  s!"{binary} {redacted}"

def vendorFailed (code : DriverErrorCode) (args : CliArgv) (result : CliRunResult)
    (diagnosticArgs : List CliArgv) : Thrown :=
  let command := commandLine table args
  let exit := toString result.code
  let diagnostic := if trim result.stderr ≠ "" then trim result.stderr else trim result.stdout
  .driver
    { code
      message := s!"{command}: exit {exit}"
      provider := some table.provider
      vendorExitCode := some result.code
      vendorMessage := some (table.redact diagnostic diagnosticArgs) }

def runnerFailed (code : DriverErrorCode) (args : CliArgv) : RunFault → Thrown
  | .contract error => .driver error
  | _ =>
    let command := commandLine table args
    let detail := "CLI runner failed; original diagnostic omitted to protect credentials"
    .driver
      { code
        message := s!"{command}: {detail}"
        provider := some table.provider
        vendorMessage := some detail }

/-! ### Subprocesses and clocks -/

variable {ε α : Type}

/-- `Math.max(0, deadline - performance.now())` -/
def remaining (deadline : ℚ) : Cli Row ε ℚ :=
  question .now fun (at_ : ℚ) => pure (max 0 (deadline - at_))

def launch (purpose : Purpose) (args : CliArgv) (timeoutMs : ℚ) : Cli Row RunFault Unit :=
  if ⌊timeoutMs⌋ ≤ 0 then throw .timeout
  else question (.start purpose args ⌊timeoutMs⌋) fun _ => pure ()

def settled (purpose : Purpose) : Cli Row RunFault CliRunResult :=
  question (.settle purpose) fun (result : Except RunFault CliRunResult) => computed result

def call (purpose : Purpose) (args : CliArgv) (timeoutMs : ℚ) : Cli Row RunFault CliRunResult := do
  launch purpose args timeoutMs
  settled purpose

/-- What a callback answered; an error carries the variables of the caller. -/
def orThrow {σ : Type} (state : σ) (answer : Except Thrown α) : Cli Row (σ × Thrown) α :=
  computed (answer.mapError fun error => (state, error))

/-! ### Readiness

`retryableReadiness` is the variable of a create that its probes assign to.
-/

structure Probe where
  retryableReadiness : Bool
  budget : ℚ
deriving DecidableEq, Repr

/-- How a run that was cut short, or whose fault says so, is reported. -/
def runFailed (deadlineMs budget limit : ℚ) (args : CliArgv) (fault : RunFault) : Thrown :=
  if fault = .timeout ∧ budget ≤ limit then createDeadlineError table deadlineMs
  else runnerFailed table .createFailed args fault

def probeStart (deadlineMs readinessDeadline : ℚ) (retryable : Bool) :
    Cli Row (Bool × Thrown) Probe := do
  let budget ← remaining readinessDeadline
  if budget < 1 then throw (retryable, createDeadlineError table deadlineMs)
  else do
    match ← captured (launch .readiness table.readyPoll (min budget table.commandTimeoutMs)) with
    | .ok () => pure ⟨retryable, budget⟩
    | .error fault =>
      throw (retryable, runFailed table deadlineMs budget table.commandTimeoutMs table.readyPoll fault)

def probeFinish (argvs : Argvs) (deadlineMs : ℚ) (probe : Probe) :
    Cli Row (Bool × Thrown) (Bool × Option Row) := do
  let retryable := probe.retryableReadiness
  match ← captured (settled .readiness) with
  | .error fault =>
    throw (retryable,
      runFailed table deadlineMs probe.budget table.commandTimeoutMs table.readyPoll fault)
  | .ok polled =>
    if polled.code ≠ 0 then
      throw (retryable, vendorFailed table .createFailed table.readyPoll polled (argvs.attempt table))
    else question (.parse polled.stdout) fun (parsed : Except Thrown (List Row)) => do
      let rows ← orThrow retryable parsed
      question (.select rows) fun (selected : Except Thrown (Option Row)) => do
        match ← orThrow retryable selected with
        | none => pure (retryable, none)
        | some row => question (.classify row) fun (classified : Except Thrown Status) => do
          match ← orThrow retryable classified with
          | .ready => pure (retryable, some row)
          | .pending => pure (retryable, none)
          | .terminal detail retry =>
            let provider := table.provider
            throw (retry, .driver
              { code := .createFailed
                message := s!"{provider} sandbox entered a terminal state: {detail}"
                provider := some provider
                vendorMessage := some detail })

def readiness (argvs : Argvs) (deadlineMs budget readinessDeadline : ℚ) :
    Polling.Strategy (Query Row) Answer Bool Probe Thrown Row :=
  let provider := table.provider
  let ms := toString budget
  { now := Program.question Query.date
    aborted := Program.question Query.aborted
    race := Program.question Query.race
    delay := fun ms => Program.question (Query.delay ms)
    timeoutError := failure table .readinessTimeout s!"{provider} sandbox not ready within {ms}ms"
    deadlineMs := budget
    intervalMs := table.pollIntervalMs.getD 1000
    start := probeStart table deadlineMs readinessDeadline
    finish := probeFinish table argvs deadlineMs }

/-- `await drainingPoll`: the poll that lost its race goes on to its own end. -/
def drain (argvs : Argvs) (deadlineMs : ℚ) (fault : Polling.Fault Bool Probe Thrown) :
    Cli Row ε Bool :=
  match fault.inFlight with
  | none => pure fault.state
  | some probe => do
    match ← captured (probeFinish table argvs deadlineMs probe) with
    | .ok (retryable, _) => pure retryable
    | .error (retryable, _) => pure retryable

/-! ### The attempt -/

/-- From the budget for readiness on. -/
def awaitReady (argvs : Argvs) (deadlineMs pollBudget : ℚ) (rounds : ℕ) :
    Cli Row (Bool × Thrown) (Row × SandboxRef) :=
  question .now fun (at_ : ℚ) => do
    let budget := pollBudget - min (table.commandTimeoutMs : ℚ) ⌊pollBudget / 2⌋
    let strategy := readiness table argvs deadlineMs budget (at_ + budget)
    match ← captured (strategy.pollUntilReady rounds false) with
    | .ok (retryable, row) => question (.sandboxId row) fun (answer : Except Thrown String) => do
      let id ← orThrow retryable answer
      pure (row, ⟨table.provider, id⟩)
    | .error fault => do
      let retryable ← drain table argvs deadlineMs fault
      if isReadinessTimeout fault.error then throw (retryable, createDeadlineError table deadlineMs)
      else throw (retryable, fault.error)

/-- The body of the outer `try`. -/
def attempt (argvs : Argvs) (deadlineMs deadline : ℚ) (rounds : ℕ) :
    Cli Row (Bool × Thrown) (Row × SandboxRef) := do
  let createBudget ← remaining deadline
  if createBudget < 1 then throw (false, createDeadlineError table deadlineMs)
  else do
    let limit : ℚ := (table.createCommandTimeoutMs.getD table.commandTimeoutMs : ℕ)
    match ← captured (call .create argvs.create (min createBudget limit)) with
    | .error fault => throw (false, runFailed table deadlineMs createBudget limit argvs.create fault)
    | .ok created =>
      if created.code ≠ 0 then
        throw (false, vendorFailed table .createFailed argvs.create created (argvs.attempt table))
      else do
        let pollBudget ← remaining deadline
        if pollBudget < 1 then throw (false, createDeadlineError table deadlineMs)
        else awaitReady table argvs deadlineMs pollBudget rounds

/-! ### Cleanup -/

/-- The variables of a failed create that its cleanups share. -/
structure Cleanup where
  firstMissingAt : Option ℚ
  provisioningDiagnosticCaptured : Bool
  primary : Thrown
deriving DecidableEq, Repr

inductive Observation
  | destroyed
  | absent (args : CliArgv) (result : CliRunResult) (diagnosticArgs : List CliArgv)
deriving DecidableEq, Repr

abbrev Cleaning (Row α : Type) := Cli Row (Cleanup × Thrown) α

def destroyByArgs (state : Cleanup) (args : CliArgv) (timeoutMs : ℚ) (diagnosticArgs : List CliArgv) :
    Cleaning Row Observation := do
  match ← captured (call .destroy args timeoutMs) with
  | .error fault => throw (state, runnerFailed table .destroyFailed args fault)
  | .ok result =>
    if table.matchesNotFound result.stderr ∨ table.matchesNotFound result.stdout then
      pure (.absent args result diagnosticArgs)
    else if result.code ≠ 0 then
      throw (state, vendorFailed table .destroyFailed args result diagnosticArgs)
    else pure .destroyed

/-- The reason of a create that failed behind a generic error, from the row it left. -/
def provisioning (state : Cleanup) (error : DriverError) (detail : String) : Cleanup :=
  let parts := [error.vendorMessage.getD "", s!"provisioning: {detail}"].filter (· ≠ "")
  { state with
    provisioningDiagnosticCaptured := true
    primary := .driver
      { code := error.code
        message := error.message
        provider := some table.provider
        vendorExitCode := error.vendorExitCode
        vendorMessage := some ("; ".intercalate parts)
        marked := error.retryable } }

def diagnose (state : Cleanup) (row : Row) : Cleaning Row Cleanup :=
  match state.primary with
  | .driver error =>
    if state.provisioningDiagnosticCaptured = false ∧ error.code = .createFailed ∧
        error.vendorExitCode ≠ none then
      question (.diagnose row) fun (answer : Except Thrown Status) =>
        match answer with
        | .ok (.terminal detail _) => pure (provisioning table state error detail)
        | _ => pure state
    else pure state
  | _ => pure state

/-- The live row that a lookup found is destroyed by its id. -/
def destroyRow (argvs : Argvs) (deadline : ℚ) (state : Cleanup) (row : Row) :
    Cleaning Row (Cleanup × Observation) := do
  let state ← diagnose table state row
  let state := { state with firstMissingAt := none }
  question (.sandboxId row) fun (parsed : Except Thrown String) => do
    let id ← orThrow state parsed
    question (.destroyArgv id) fun (built : Except Thrown CliArgv) => do
      let args ← orThrow state built
      let budget ← remaining deadline
      if budget < 1 then
        let provider := table.provider
        throw (state, failure table .destroyFailed
          s!"{provider} failed-create lookup spent its cleanup attempt budget")
      else do
        let outcome ← destroyByArgs table state args budget (argvs.attempt table ++ [args])
        pure (state, outcome)

def lookUp (argvs : Argvs) (deadline : ℚ) (state : Cleanup) :
    Cleaning Row (Cleanup × Observation) := do
  let budget ← remaining deadline
  match ← captured (call .lookup table.readyPoll budget) with
  | .error fault => throw (state, runnerFailed table .destroyFailed table.readyPoll fault)
  | .ok listed =>
    if listed.code ≠ 0 then
      throw (state, vendorFailed table .destroyFailed table.readyPoll listed (argvs.attempt table))
    else question (.parse listed.stdout) fun (parsed : Except Thrown (List Row)) => do
      let rows ← orThrow state parsed
      question (.locate rows) fun (located : Except Thrown (Option Row)) => do
        match ← orThrow state located with
        | none => pure (state, .absent table.readyPoll listed (argvs.attempt table))
        | some row => destroyRow table argvs deadline state row

def observeCleanup (argvs : Argvs) (timeoutMs : ℚ) (state : Cleanup) :
    Cleaning Row (Cleanup × Observation) :=
  question .now fun (at_ : ℚ) => do
    let deadline := at_ + timeoutMs
    match table.cleanupCreated, argvs.cleanup with
    | .command, none =>
      let provider := table.provider
      throw (state, failure table .vendorContractViolation
        s!"{provider} CLI cleanup command was not preflighted")
    | .command, some args =>
      let budget ← remaining deadline
      let outcome ← destroyByArgs table state args budget (argvs.attempt table)
      pure (state, outcome)
    | .lookup, _ => lookUp table argvs deadline state

/-- Whether the sandbox has been missing for long enough at `at_`. -/
def Cleanup.confirms (state : Cleanup) (at_ : ℚ) : Bool :=
  state.firstMissingAt.any fun missing => (table.absenceConfirmationMs : ℚ) ≤ at_ - missing

/-- The second observation of a cleanup; `args` and what follows tell of the first. -/
def confirmAbsence (argvs : Argvs) (deadline : ℚ) (state : Cleanup) (args : CliArgv)
    (result : CliRunResult) (diagnosticArgs : List CliArgv) : Cleaning Row Cleanup := do
  let budget ← remaining deadline
  if budget < 1 then throw (state, vendorFailed table .destroyFailed args result diagnosticArgs)
  else do
    match ← observeCleanup table argvs budget state with
    | (state, .destroyed) => pure state
    | (state, .absent args result diagnosticArgs) => question .now fun (at_ : ℚ) => do
      if state.confirms table at_ then pure state
      else throw (state, vendorFailed table .destroyFailed args result diagnosticArgs)

/-- What follows a first observation that found nothing. -/
def awaitAbsence (argvs : Argvs) (deadline : ℚ) (state : Cleanup) (args : CliArgv)
    (result : CliRunResult) (diagnosticArgs : List CliArgv) : Cleaning Row Cleanup :=
  question .now fun (observedAt : ℚ) =>
    if state.confirms table observedAt then pure state
    else do
      let missing := state.firstMissingAt.getD observedAt
      let state := { state with firstMissingAt := some missing }
      let waitMs ← remaining (missing + table.absenceConfirmationMs)
      let left ← remaining deadline
      if left ≤ (⌈waitMs⌉ : ℚ) then
        throw (state, vendorFailed table .destroyFailed args result diagnosticArgs)
      else if 0 < ⌈waitMs⌉ then
        question (.delay ⌈waitMs⌉) fun (aborted : Option Thrown) =>
          match aborted with
          | some reason => throw (state, reason)
          | none => confirmAbsence table argvs deadline state args result diagnosticArgs
      else confirmAbsence table argvs deadline state args result diagnosticArgs

def retryCleanup (argvs : Argvs) (timeoutMs : ℚ) (state : Cleanup) : Cleaning Row Cleanup :=
  question .aborted fun (aborted : Option Thrown) =>
    match aborted with
    | some _ => throw (state, .runAborted)
    | none => question .now fun (at_ : ℚ) => do
      let deadline := at_ + timeoutMs
      let budget ← remaining deadline
      if budget < 1 then
        let provider := table.provider
        throw (state, failure table .destroyFailed
          s!"{provider} failed-create cleanup attempt budget was exhausted")
      else do
        match ← observeCleanup table argvs budget state with
        | (state, .destroyed) => pure state
        | (state, .absent args result diagnosticArgs) =>
          awaitAbsence table argvs deadline state args result diagnosticArgs

/-! ### How a create ends -/

inductive Rejection
  | plain (error : Thrown)
  /-- A `FailedCreateCleanupError`, with what its cleanup retains. -/
  | cleanupFailed (cleanupError : Thrown) (argvs : Argvs) (state : Cleanup)
deriving DecidableEq, Repr

/-- The error of a create whose cleanup is confirmed. -/
def classifyFailure (retryableReadiness : Bool) (primary : Thrown) : Cli Row Rejection Thrown :=
  match primary with
  | .driver error =>
    if error.code = .createFailed then do
      let error ← if retryableReadiness then
          question (.mark error) fun _ => pure (markRetryableDriverCreate error)
        else pure error
      question (.isRetryableCreate error) fun (answer : Except Thrown Bool) =>
        match answer with
        | .ok true => question (.mark error) fun _ => pure (.driver (markRetryableDriverCreate error))
        | _ => pure (.driver error)
    else pure primary
  | _ => pure primary

/-- The handler of the outer `try`. -/
def reconcile (argvs : Argvs) (deadline : ℚ) (retryableReadiness : Bool) (caught : Thrown) :
    Cli Row Rejection α := do
  let state : Cleanup := ⟨none, false, caught⟩
  let provider := table.provider
  let cleanupBudget ← remaining deadline
  question .aborted fun (aborted : Option Thrown) =>
    if aborted.isSome then
      throw (.cleanupFailed (failure table .destroyFailed
        s!"{provider} failed-create cleanup was handed to the process owner after cancellation")
        argvs state)
    else if cleanupBudget < 1 then
      throw (.cleanupFailed (failure table .destroyFailed
        s!"{provider} failed-create cleanup was deferred because the request deadline was exhausted")
        argvs state)
    else do
      match ← captured (retryCleanup table argvs (min cleanupBudget table.commandTimeoutMs) state) with
      | .error (state, error) => throw (.cleanupFailed error argvs state)
      | .ok state => do
        let error ← classifyFailure retryableReadiness state.primary
        throw (.plain error)

def cleanupArgv : Cli Row Rejection (Option CliArgv) :=
  match table.cleanupCreated with
  | .command => question .cleanupArgv fun (built : Except Thrown CliArgv) =>
    computed ((built.map some).mapError Rejection.plain)
  | .lookup => pure none

/-- The argument lists and the preparation, before anything can be allocated. -/
def preflight : Cli Row Rejection Argvs := do
  let cleanup ← cleanupArgv table
  question .createArgv fun (built : Except Thrown CliArgv) => do
    let create ← computed (built.mapError Rejection.plain)
    question .prepare fun (prepared : Except Thrown Unit) => do
      computed (prepared.mapError Rejection.plain)
      pure ⟨create, cleanup⟩

def create (requestDeadlineMs : ℚ) (rounds : ℕ) : Cli Row Rejection (Row × SandboxRef) := do
  let ceiling : ℚ := match table.createAttemptCeilingMs with
    | some ms => ms
    | none => requestDeadlineMs
  let deadlineMs := min requestDeadlineMs ceiling
  question .validate fun (validated : Except Thrown Unit) => do
    computed (validated.mapError Rejection.plain)
    question .now fun (at_ : ℚ) => do
      let deadline := at_ + deadlineMs
      let argvs ← preflight table
      match ← captured (attempt table argvs deadlineMs deadline rounds) with
      | .ok created => pure created
      | .error (retryableReadiness, caught) => reconcile table argvs deadline retryableReadiness caught

/-! ### Later retries -/

inductive Ending (Row : Type)
  | returned (row : Row) (ref : SandboxRef)
  | rejected (error : Thrown)
  /-- A retry of the retained cleanup resolved. -/
  | cleaned
  /-- The cleanup is still retained. -/
  | retained (state : Cleanup)
deriving DecidableEq

/-- `FailedCreateCleanupError.cleanup`, called one time after another. -/
def retryLater (argvs : Argvs) : ℕ → Cleanup → Program (Query Row) Answer (Ending Row)
  | 0, state => .done (.retained state)
  | retries + 1, state =>
    (retryCleanup table argvs table.commandTimeoutMs state).run.bind fun result =>
      match result with
      | .ok _ => .done .cleaned
      | .error (state, _) => retryLater argvs retries state

/-- A create, and at most so many retries of the cleanup that it retains. -/
def createAndRetry (requestDeadlineMs : ℚ) (rounds retries : ℕ) :
    Program (Query Row) Answer (Ending Row) :=
  (create table requestDeadlineMs rounds).run.bind fun result =>
    match result with
    | .ok (row, ref) => .done (.returned row ref)
    | .error (.plain error) => .done (.rejected error)
    | .error (.cleanupFailed _ argvs state) => retryLater table argvs retries state

end CliCreate
