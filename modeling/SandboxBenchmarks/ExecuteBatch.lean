import SandboxBenchmarks.AccountJournal
import SandboxBenchmarks.PlanVerification
import SandboxBenchmarks.Library.Transition

/-!
# Executing one batch

`executeExperimentBatch` of `apps/cli/src/lib/execute-experiment.ts`, with what
it runs of `account-journal.ts`, `run-replicate.ts` and the harness
(`executeSuite`, `createSuiteSandboxFromPlan`, `createOwnedSandbox`). One step
is what JavaScript runs between two awaits; drivers, journal, timers and
shutdown decide which step comes next.
-/

namespace ExecuteBatch

open AccountJournal CanonicalJson Checks PlanVerification

/-- What the process is started with. -/
structure Setting where
  runtime : Runtime
  registry : Registry
  /-- `PROVIDERS`, each with its quota domain. -/
  providers : List (String × String)
  /-- `SUITES`, each as the JSON that is digested. -/
  suites : List (String × JsonText.Value)
  targetSpec : TargetSpec
  workflowAttempt : Nat
  /-- `randomUUID()`, for each attempt. -/
  uuid : Nat → String

structure Prepared where
  plan : ExperimentPlan
  batch : ExperimentBatch
  cells : List ExperimentCell
  account : ExperimentAccount

def batchCell (setting : Setting) (plan : ExperimentPlan) (batch : ExperimentBatch) (id : String) :
    Except String ExperimentCell := do
  let cell ← require (plan.cells.find? (fun cell => cell.id == id)) "batch account mismatch"
  throwIf (Keyed.get? setting.providers cell.provider ≠ some batch.quotaDomain)
    "batch account mismatch"
  return cell

/-- The checks before any driver is opened. -/
def prepareBatch (setting : Setting) (raw : ExperimentPlan) (batchId : String) :
    Except String Prepared := do
  let plan ← verifyExperimentPlan setting.runtime setting.registry raw
  let batch ← require (plan.batches.find? (fun entry => entry.id == batchId))
    "batch is absent from experiment plan"
  let cells ← batch.cells.mapM (batchCell setting plan batch)
  throwIf (batch.maxConcurrency < 1) "batch concurrency must be positive"
  let account ← require
    (plan.accounts.find? (fun entry => entry.quotaDomain == batch.quotaDomain))
    "batch quota domain missing from frozen account capacity"
  throwIf (account.sandboxes < batch.maxConcurrency)
    s!"frozen batch maxConcurrency {batch.maxConcurrency} exceeds declared sandboxes {account.sandboxes} for {batch.quotaDomain}"
  return { plan, batch, cells, account }

/-- The providers whose drivers the batch opens. -/
def domainProviders (setting : Setting) (p : Prepared) : List String :=
  (setting.providers.filter (fun entry => entry.2 == p.batch.quotaDomain)).map Prod.fst

/-! ### One attempt -/

/-- A rejected `create`, with what `isFailedCreateCleanupError` and
`isConcurrentSandboxAdmissionError` say of it. -/
structure CreateError where
  detail : String
  failedCleanup : Bool
  concurrentAdmission : Bool
deriving DecidableEq, Repr

/-- What runs outside the process, or is said to it, latest first in a trace. -/
inductive Event where
  /-- `journal.append(record)` is called, by the attempt of a cell or by recovery. -/
  | asked (cell : Option Nat) (record : AccountRecord)
  | landed (record : AccountRecord)
  | acknowledged (cell : Option Nat) (record : AccountRecord)
  | stopRefill (cell : Nat)
  /-- `opened.driver.create` is called. -/
  | created (cell : Nat)
  | rejected (cell : Nat) (error : CreateError)
  | resolved (cell : Nat) (ref : SandboxRef)
  /-- The control plane reports a destroyed sandbox as not running. -/
  | removed (ref : SandboxRef)
deriving DecidableEq, Repr

/-- Where `executeSuite` awaits. -/
inductive Harness where
  /-- Before the microtask that calls the plan's `create`. -/
  | starting
  | creating
  | working (ref : SandboxRef)
  | observing (ref : SandboxRef)
deriving DecidableEq, Repr

inductive Cleanup where
  | confirmed
  | unresolved
  | notAllocated
deriving DecidableEq, Repr

structure Evidence where
  completed : Bool
  cleanup : Cleanup
deriving DecidableEq, Repr

/-- Where `runCell` awaits. -/
inductive Position where
  | unlaunched
  | appendingIntent
  | replicating (harness : Harness)
  | replicated
  | releasingAbsent (cleanup : Cleanup)
  | readingJournal (cleanup : Cleanup)
  | releasingNotAllocated (cleanup : Cleanup)
  | uploading (evidence : Evidence)
  | settled (evidence : Option Evidence)
deriving DecidableEq, Repr

/-- Where the `create` wrapper awaits; it may outlive the harness's interest in it. -/
inductive Creation where
  | idle
  | pending
  | recording (ref : SandboxRef)
  | destroying (ref : SandboxRef)
  | returned (ref : SandboxRef)
  | failed
deriving DecidableEq, Repr

structure CleanupReceipt where
  completed : Bool
  confirmedAbsent : Bool
deriving DecidableEq, Repr

/-- The variables of one `runCell`. -/
structure Run where
  position : Position
  creation : Creation
  createStarted : Bool
  createRejectedCleanly : Bool
  allocated : Option SandboxRef
  allocationRecorded : Bool
  failure : Option String
  journalFailed : Bool
  receipt : Option CleanupReceipt
deriving DecidableEq, Repr

def Run.fresh : Run where
  position := .unlaunched
  creation := .idle
  createStarted := false
  createRejectedCleanly := false
  allocated := none
  allocationRecorded := false
  failure := none
  journalFailed := false
  receipt := none

section
variable (setting : Setting) (p : Prepared)

def attemptId (i : Nat) (cell : ExperimentCell) : String :=
  s!"{cell.id}-a{setting.workflowAttempt}-{setting.uuid i}"

/-- `{ ...intent, kind, ... }` -/
def recordOf (i : Nat) (cell : ExperimentCell) (body : RecordBody) : AccountRecord where
  account := cell.quotaDomain
  attempt := attemptId setting i cell
  cellId := cell.id
  planDigest := p.plan.digest
  body := body

def admissionStoppedDetail (account cellId : String) : String :=
  s!"account {account} admission stopped after {cellId}: allocation ownership or journal release remains unresolved"

def concurrentSandboxAdmissionDetail (error : CreateError) : String :=
  s!"vendor concurrent sandbox limit refused create for {p.batch.quotaDomain} while admission declared {p.account.sandboxes} sandboxes and this batch freezes maxConcurrency={p.batch.maxConcurrency}; reconcile BENCH_ACCOUNT_CAPACITY before retrying: {error.detail}"

/-- What one synchronous segment of a cell leaves behind. -/
structure Segment where
  run : Run
  /-- Latest first. -/
  events : List Event
  /-- `refillFailure ??= ...` -/
  refill : Option String
deriving DecidableEq, Repr

def Segment.quiet (run : Run) : Segment := ⟨run, [], none⟩

def Segment.ask (i : Nat) (record : AccountRecord) (run : Run) : Segment :=
  ⟨run, [.asked (some i) record], none⟩

def stopped (cell : ExperimentCell) : Option String :=
  some (admissionStoppedDetail p.batch.quotaDomain cell.id)

/-- The `catch` of `append`. -/
def appendFailed (i : Nat) (cell : ExperimentCell) (run : Run) : Segment :=
  ⟨{ run with journalFailed := true }, [.stopRefill i], stopped p cell⟩

/-- A driver opened for the batch. -/
structure Opened where
  provider : String
  artifact : JsonText.Value

/-- What all cells of the batch share. -/
structure Shared where
  admissionFailure : Option String
  drivers : List Opened
  history : List AccountRecord
  refillFailure : Option String

/-- Everything `runCell` checks before it appends the intent. -/
def admitCell (shared : Shared) (late : Bool) (cell : ExperimentCell) : Except String Unit := do
  throwIf (shared.history.any (fun record =>
      record.planDigest == p.plan.digest && record.cellId == cell.id) = true)
    "this planned cell already has an attempt; retries require an authorized lineage or a fresh experiment"
  if let some failure := shared.admissionFailure <|> shared.refillFailure then
    throw failure
  let opened ← require (shared.drivers.find? (fun opened => opened.provider == cell.provider))
    "driver was not admitted"
  let suite ← require (Keyed.get? setting.suites cell.suite) "suite was not admitted"
  let artifact ← evidenceDigest setting.runtime opened.artifact
  let workload ← evidenceDigest setting.runtime
    (.obj [("sha", .str p.plan.sha), ("suite", suite), ("passes", natural cell.passes)])
  let target ← evidenceDigest setting.runtime cell.target.toJson
  let expected ← evidenceDigest setting.runtime setting.targetSpec.toJson
  throwIf (cell.gpu.isSome ∨ artifact ≠ cell.artifactIdentity ∨
      cell.environmentRevision ≠ p.plan.sha ∨ workload ≠ cell.workloadRevision ∨
      target ≠ expected)
    "resolved execution inputs differ from frozen plan"
  throwIf (late = true) "startup deadline exceeded before allocation"

/-- The first segment of `runCell`, up to the intent. -/
def launch (shared : Shared) (i : Nat) (cell : ExperimentCell) (late : Bool) : Segment :=
  match admitCell setting p shared late cell with
  | .error failure => .quiet { Run.fresh with position := .replicated, failure := some failure }
  | .ok () =>
    .ask i (recordOf setting p i cell .intent) { Run.fresh with position := .appendingIntent }

/-- The `create` wrapper up to the driver: an abort or deadline, given by `stop`, may end it. -/
def callCreate (shared : Shared) (i : Nat) (stop : Option String) (run : Run) : Segment :=
  match shared.refillFailure <|> stop with
  | some _ => .quiet { run with position := .replicating .creating, creation := .failed }
  | none =>
    ⟨{ run with
        position := .replicating .creating, creation := .pending, createStarted := true },
      [.created i], none⟩

/-- The handler of a rejected `create`. -/
def createRejected (i : Nat) (cell : ExperimentCell) (error : CreateError) (run : Run) : Segment :=
  let run := { run with creation := .failed, createRejectedCleanly := !error.failedCleanup }
  let refill := if error.concurrentAdmission then some (concurrentSandboxAdmissionDetail p error)
    else none
  if error.failedCleanup then
    ⟨run, [.stopRefill i, .rejected i error], stopped p cell <|> refill⟩
  else ⟨run, [.rejected i error], refill⟩

/-- The wrapper with its session; `stored` tells whether `allocation.json` could be written. -/
def createResolved (i : Nat) (cell : ExperimentCell) (ref : SandboxRef) (stored : Bool)
    (run : Run) : Segment :=
  let run := { run with allocated := some ref }
  if stored then
    ⟨{ run with creation := .recording ref },
      [.asked (some i) (recordOf setting p i cell (.allocated ref)), .resolved i ref], none⟩
  else
    ⟨{ run with creation := .destroying ref }, [.stopRefill i, .resolved i ref], stopped p cell⟩

def Run.cleanup (run : Run) (receipt : Option CleanupReceipt) : Cleanup :=
  if receipt.any (fun receipt => receipt.completed && receipt.confirmedAbsent) then .confirmed
  else if run.createStarted && !run.createRejectedCleanly then .unresolved
  else .notAllocated

/-- After the release: stop the refill where ownership is uncertain, and keep the evidence. -/
def close (i : Nat) (cell : ExperimentCell) (cleanup : Cleanup) (run : Run) : Segment :=
  let evidence : Evidence :=
    { completed := run.failure.isNone && cleanup == .confirmed, cleanup := cleanup }
  let run := { run with position := .uploading evidence }
  if cleanup == .unresolved || run.journalFailed then ⟨run, [.stopRefill i], stopped p cell⟩
  else .quiet run

/-- `failure ??= error` -/
def Run.fail (run : Run) (failure : Option String) : Run :=
  { run with failure := run.failure <|> failure }

/-- The segment after `runReplicate`: read the receipts, and choose what to release. -/
def release (shared : Shared) (i : Nat) (cell : ExperimentCell) (unreadable : Option String)
    (run : Run) : Segment :=
  let run := run.fail unreadable
  let cleanup := run.cleanup (if unreadable.isSome then none else run.receipt)
  match run.allocated.filter (fun _ => run.allocationRecorded && cleanup == .confirmed) with
  | some ref =>
    .ask i (recordOf setting p i cell (.absent ref none))
      { run with position := .releasingAbsent cleanup }
  | none =>
    -- An ambiguous create failure leaves its intent open.
    if (!run.createStarted || run.createRejectedCleanly) && shared.admissionFailure.isNone &&
        shared.drivers.any (fun opened => opened.provider == cell.provider) then
      .quiet { run with position := .readingJournal cleanup }
    else close p i cell cleanup run

/-- Only an intent that is in the journal is closed as not allocated. -/
def releaseUnallocated (i : Nat) (cell : ExperimentCell) (cleanup : Cleanup)
    (records : List AccountRecord) (run : Run) : Segment :=
  if records.any (fun entry =>
      entry.kind == .intent && entry.attempt == attemptId setting i cell) then
    .ask i (recordOf setting p i cell .notAllocated)
      { run with position := .releasingNotAllocated cleanup }
  else close p i cell cleanup run

/-- A release that could not be appended, or a journal that could not be read. -/
def releaseFailed (i : Nat) (cell : ExperimentCell) (cleanup : Cleanup) (failure : String)
    (run : Run) : Segment :=
  close p i cell cleanup ({ run with journalFailed := true }.fail (some failure))

/-! ### All cells, the journal and the drivers -/

/-- Where `executeExperimentBatch` awaits. -/
inductive Stage where
  | opening (providers : List String)
  | recovering (attempts : List (List AccountRecord))
  | confirming (intent : AccountRecord) (ref : SandboxRef) (attempts : List (List AccountRecord))
  | closing (record : AccountRecord) (attempts : List (List AccountRecord))
  | reconciling
  | running
deriving DecidableEq, Repr

structure World where
  stage : Stage
  shared : Shared
  /-- The cells launched so far are those below `next`. -/
  next : Nat
  runs : Nat → Run
  trace : List Event

def initial : World where
  stage := .opening (domainProviders setting p)
  shared := ⟨none, [], [], none⟩
  next := 0
  runs := fun _ => .fresh
  trace := []

/-- A later read of the journal returns the record; what is durable stays. -/
def Durable (journal : List AccountRecord) (trace : List Event) (record : AccountRecord) : Prop :=
  record ∈ journal ∨ .landed record ∈ trace

def World.commit (world : World) (i : Nat) (segment : Segment) : World :=
  { world with
    shared := { world.shared with
      refillFailure := world.shared.refillFailure <|> segment.refill }
    runs := fun k => if k = i then segment.run else world.runs k
    trace := segment.events ++ world.trace }

def World.proceed (world : World) (stage : Stage) (events : List Event) : World :=
  { world with stage := stage, trace := events ++ world.trace }

/-- Admission is over, with the reason it failed for if it did. -/
def World.admitted (world : World) (failure : Option String) : World :=
  { world with stage := .running, shared := { world.shared with admissionFailure := failure } }

/-- `pending.size` -/
def World.pending (world : World) : Nat :=
  ((List.range world.next).filter (fun i => match (world.runs i).position with
    | .settled _ => false
    | _ => true)).length

/-- Where the loop over interrupted attempts goes with the next one. -/
def World.recover (world : World) (records : List AccountRecord)
    (attempts : List (List AccountRecord)) : World :=
  match interrupted records with
  | .error failure => world.admitted (some failure)
  | .ok none => world.proceed (.recovering attempts) []
  | .ok (some (intent, ref)) =>
    if world.shared.drivers.any (fun opened => opened.provider == ref.provider) then
      world.proceed (.confirming intent ref attempts) []
    else world.admitted (some "interrupted allocation has no recovery driver")

def absentRecord (intent : AccountRecord) (ref : SandboxRef) : AccountRecord :=
  { intent with body := .absent ref none }

/-- What a cell does when one of the things it awaits happens. An append may be acknowledged once it
is durable, and may fail at any time, whether or not it lands. -/
inductive Moves (journal : List AccountRecord) (world : World) (i : Nat) (cell : ExperimentCell)
    (run : Run) : Segment → Prop
  | intentAcknowledged (here : run.position = .appendingIntent)
      (durable : Durable journal world.trace (recordOf setting p i cell .intent)) :
      Moves journal world i cell run
        ⟨{ run with position := .replicating .starting },
          [.acknowledged (some i) (recordOf setting p i cell .intent)], none⟩
  | intentFails (here : run.position = .appendingIntent) (failure : String) :
      Moves journal world i cell run
        (appendFailed p i cell { run with position := .replicated, failure := some failure })
  /-- `executeSuite` gives up before its plan's `create`: a spent deadline, a shutdown. -/
  | suiteRefuses (here : run.position = .replicating .starting) (failure : String) :
      Moves journal world i cell run
        (.quiet { run with position := .replicated, failure := some failure })
  | createCalled (here : run.position = .replicating .starting) (stop : Option String) :
      Moves journal world i cell run (callCreate world.shared i stop run)
  /-- The driver throws instead of returning a promise: its error is not classified. -/
  | createThrows (here : run.creation = .pending) :
      Moves journal world i cell run (.quiet { run with creation := .failed })
  | createRejects (here : run.creation = .pending) (error : CreateError) :
      Moves journal world i cell run (createRejected p i cell error run)
  | createResolves (here : run.creation = .pending) (ref : SandboxRef) (stored : Bool) :
      Moves journal world i cell run (createResolved setting p i cell ref stored run)
  | allocationAcknowledged (ref : SandboxRef) (here : run.creation = .recording ref)
      (durable : Durable journal world.trace (recordOf setting p i cell (.allocated ref))) :
      Moves journal world i cell run
        ⟨{ run with creation := .returned ref, allocationRecorded := true },
          [.acknowledged (some i) (recordOf setting p i cell (.allocated ref))], none⟩
  | allocationFails (ref : SandboxRef) (here : run.creation = .recording ref) :
      Moves journal world i cell run (appendFailed p i cell { run with creation := .destroying ref })
  | destroySettles (ref : SandboxRef) (here : run.creation = .destroying ref) :
      Moves journal world i cell run (.quiet { run with creation := .failed })
  | sessionArrives (ref : SandboxRef) (here : run.position = .replicating .creating)
      (session : run.creation = .returned ref) :
      Moves journal world i cell run (.quiet { run with position := .replicating (.working ref) })
  /-- The wrapper rejected, or the harness's own timer fired whatever the wrapper does. -/
  | createAbandoned (here : run.position = .replicating .creating) (failure : String) :
      Moves journal world i cell run
        (.quiet { run with position := .replicated, failure := some failure })
  | destroyed (ref : SandboxRef) (here : run.position = .replicating (.working ref)) :
      Moves journal world i cell run (.quiet { run with position := .replicating (.observing ref) })
  | destroyFails (ref : SandboxRef) (here : run.position = .replicating (.working ref))
      (written : Bool) (failure : String) :
      Moves journal world i cell run
        (.quiet { run with
          position := .replicated, failure := some failure
          receipt := if written then some ⟨false, false⟩ else none })
  | removalConfirmed (ref : SandboxRef) (here : run.position = .replicating (.observing ref))
      (written : Bool) (failure : Option String) :
      Moves journal world i cell run
        ⟨{ run with
            position := .replicated, failure := failure
            receipt := if written then some ⟨true, true⟩ else none }, [.removed ref], none⟩
  | removalUnconfirmed (ref : SandboxRef) (here : run.position = .replicating (.observing ref))
      (written : Bool) (failure : String) :
      Moves journal world i cell run
        (.quiet { run with
          position := .replicated, failure := some failure
          receipt := if written then some ⟨false, false⟩ else none })
  | releases (here : run.position = .replicated) (unreadable : Option String) :
      Moves journal world i cell run (release setting p world.shared i cell unreadable run)
  | absentAcknowledged (cleanup : Cleanup) (ref : SandboxRef)
      (here : run.position = .releasingAbsent cleanup) (allocated : run.allocated = some ref)
      (durable : Durable journal world.trace (recordOf setting p i cell (.absent ref none))) :
      Moves journal world i cell run
        (let segment := close p i cell cleanup run
        { segment with
          events := segment.events ++
            [.acknowledged (some i) (recordOf setting p i cell (.absent ref none))] })
  | absentFails (cleanup : Cleanup) (here : run.position = .releasingAbsent cleanup)
      (failure : String) :
      Moves journal world i cell run (releaseFailed p i cell cleanup failure run)
  | journalRead (cleanup : Cleanup) (here : run.position = .readingJournal cleanup)
      (records : List AccountRecord) (durable : ∀ record ∈ records, Durable journal world.trace record) :
      Moves journal world i cell run (releaseUnallocated setting p i cell cleanup records run)
  | readFails (cleanup : Cleanup) (here : run.position = .readingJournal cleanup)
      (failure : String) :
      Moves journal world i cell run (releaseFailed p i cell cleanup failure run)
  | notAllocatedAcknowledged (cleanup : Cleanup)
      (here : run.position = .releasingNotAllocated cleanup)
      (durable : Durable journal world.trace (recordOf setting p i cell .notAllocated)) :
      Moves journal world i cell run
        (let segment := close p i cell cleanup run
        { segment with
          events := segment.events ++
            [.acknowledged (some i) (recordOf setting p i cell .notAllocated)] })
  | notAllocatedFails (cleanup : Cleanup) (here : run.position = .releasingNotAllocated cleanup)
      (failure : String) :
      Moves journal world i cell run (releaseFailed p i cell cleanup failure run)
  | uploaded (evidence : Evidence) (here : run.position = .uploading evidence) (stored : Bool) :
      Moves journal world i cell run
        (.quiet { run with position := .settled (if stored then some evidence else none) })

inductive Step (journal : List AccountRecord) : World → World → Prop
  | opens {world : World} (provider : String) (rest : List String) (artifact : JsonText.Value)
      (here : world.stage = .opening (provider :: rest)) :
      Step journal world
        { world with
          stage := .opening rest
          shared := { world.shared with
            drivers := world.shared.drivers ++ [⟨provider, artifact⟩] } }
  /-- A driver that does not open, a deadline, a request that fails. -/
  | admissionFails {world : World} (here : world.stage ≠ .running) (failure : String) :
      Step journal world (world.admitted (some failure))
  | readsAccount {world : World} (here : world.stage = .opening [])
      (records : List AccountRecord)
      (durable : ∀ record ∈ records, Durable journal world.trace record) :
      Step journal world (match fileRecords p.batch.quotaDomain records with
        | .error failure => world.admitted (some failure)
        | .ok attempts => world.proceed (.recovering (attempts.map Prod.snd)) [])
  | recovers {world : World} (records : List AccountRecord) (rest : List (List AccountRecord))
      (here : world.stage = .recovering (records :: rest)) :
      Step journal world (world.recover records rest)
  | removalObserved {world : World} (intent : AccountRecord) (ref : SandboxRef)
      (rest : List (List AccountRecord)) (here : world.stage = .confirming intent ref rest) :
      Step journal world
        (world.proceed (.closing (absentRecord intent ref) rest)
          [.asked none (absentRecord intent ref), .removed ref])
  | recoveryAcknowledged {world : World} (record : AccountRecord)
      (rest : List (List AccountRecord)) (here : world.stage = .closing record rest)
      (durable : Durable journal world.trace record) :
      Step journal world (world.proceed (.recovering rest) [.acknowledged none record])
  | readsHistory {world : World} (here : world.stage = .recovering [])
      (records : List AccountRecord)
      (durable : ∀ record ∈ records, Durable journal world.trace record) :
      Step journal world
        { world with
          stage := .reconciling, shared := { world.shared with history := records } }
  | reconciled {world : World} (here : world.stage = .reconciling) :
      Step journal world (world.admitted none)
  /-- An append that was asked for lands in the journal, perhaps after its caller gave up. -/
  | lands {world : World} (owner : Option Nat) (record : AccountRecord)
      (asked : .asked owner record ∈ world.trace) :
      Step journal world (world.proceed world.stage [.landed record])
  | launches {world : World} (cell : ExperimentCell) (late : Bool) (here : world.stage = .running)
      (planned : p.cells[world.next]? = some cell)
      (free : world.pending < p.batch.maxConcurrency) :
      Step journal world
        { world.commit world.next (launch setting p world.shared world.next cell late) with
          next := world.next + 1 }
  | moves {world : World} (i : Nat) (cell : ExperimentCell) (segment : Segment)
      (launched : i < world.next) (planned : p.cells[i]? = some cell)
      (move : Moves setting p journal world i cell (world.runs i) segment) :
      Step journal world (world.commit i segment)

/-- Every state of any order of outcomes, timeouts and stops. -/
abbrev Reachable (journal : List AccountRecord) : World → Prop :=
  Transition.Reachable (fun world => world = initial setting p) (Step setting p journal)

end

end ExecuteBatch
