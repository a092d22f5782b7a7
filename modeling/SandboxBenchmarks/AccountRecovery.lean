import SandboxBenchmarks.AccountHistory
import SandboxBenchmarks.AccountReconciliation
import SandboxBenchmarks.ExperimentRecords
import SandboxBenchmarks.Library.Serving

/-!
# Recovering an account

`recoverAccount`, `confirmRemoval` and `withinSignal` of
`apps/cli/src/lib/account-journal.ts`, and `recoverAllocatedIntent` of
`apps/cli/src/lib/allocated-intent-recovery.ts`. An operation that loses the race
against its signal is answered with the signal's reason.
-/

namespace AccountRecovery

open AccountJournal Checks ExperimentRecords Interaction PlanVerification
open AccountReconciliation (Observation SandboxDriver)

/-! ### The environment -/

/-- What recovery awaits. -/
inductive Operation where
  /-- `journal.read(account)` -/
  | read (account : String)
  /-- `journal.append(record)` -/
  | append (record : AccountRecord)
  | openDriver (provider : String)
  | observe (driver : SandboxDriver) (ref : SandboxRef)
  | destroyById (driver : SandboxDriver) (ref : SandboxRef)
  | pause
  | assertQuiescent (workflowRun sourceSha : String)
  | observeRuncloudName (name : String)
  | observeModalApp (anchorSandboxId : String)
deriving DecidableEq, Repr

abbrev Operation.Result : Operation → Type
  | .read _ => List AccountRecord
  | .append _ => Unit
  | .openDriver _ => SandboxDriver
  | .observe _ _ => Observation
  | .destroyById _ _ => Unit
  | .pause => Unit
  | .assertQuiescent _ _ => Unit
  | .observeRuncloudName _ => CleanupObservation
  | .observeModalApp _ => CleanupObservation

inductive Query where
  /-- `signal.aborted`, with the reason. -/
  | aborted
  | await (operation : Operation)
  /-- `new Date().toISOString()` -/
  | now
  /-- `cleanup-recovery.json` of the attempt's directory, parsed if it exists. -/
  | storedRecovery
  | writeRecovery (recovery : CleanupRecovery)
deriving DecidableEq, Repr

abbrev Answer : Query → Type
  | .aborted => Option String
  | .await operation => Except String operation.Result
  | .now => String
  | .storedRecovery => Except String (Option JsonText.Value)
  | .writeRecovery _ => Except String Unit

abbrev Events := History Query Answer

abbrev Recovering (α : Type) := Attempt Query Answer String α

def throwIfAborted : Recovering Unit :=
  question .aborted fun (reason : Option String) =>
    match reason with
    | some reason => throw reason
    | none => pure ()

def awaiting (operation : Operation) : Recovering operation.Result :=
  question (.await operation) fun (answer : Except String operation.Result) => computed answer

/-- An operation is only issued while the signal is silent. -/
def withinSignal (operation : Operation) : Recovering operation.Result := do
  throwIfAborted
  throwIfAborted
  awaiting operation

/-! ### Removing a sandbox -/

/-- The loop of `confirmRemoval`, followed for a number of observations. -/
def awaitRemoval (driver : SandboxDriver) (ref : SandboxRef) : Nat → Recovering Unit
  | 0 => cut
  | rounds + 1 => do
    throwIfAborted
    let observation ← awaiting (.observe driver ref)
    if observation = .running then
      throwIfAborted
      awaiting .pause
      awaitRemoval driver ref rounds
    else pure ()

/-- Observed absence or a retained terminal record releases ownership; transport failures do not. -/
def confirmRemoval (rounds : Nat) (driver : SandboxDriver) (ref : SandboxRef) :
    Recovering Unit := do
  computed (throwIf ((driver.probes && driver.destroyById) = false)
    "driver cannot observe allocation removal")
  throwIfAborted
  let observation ← awaiting (.observe driver ref)
  if observation = .running then
    throwIfAborted
    awaiting (.destroyById driver ref)
    awaitRemoval driver ref rounds
  else pure ()

/-! ### Recovering interrupted attempts -/

/-- `/^[0-9]+$/` -/
def workflowRunText (s : String) : Bool := nonempty s && s.toList.all Char.isDigit

def evidenceSchema (clock : Clock) : ReconciliationEvidence → Bool
  | .completedCreate sourceSha attemptDigest workflowRun confirmedAt operator =>
    shaText sourceSha && sha256Digest attemptDigest && workflowRunText workflowRun &&
      clock.iso confirmedAt && evidenceIdentifier operator
  | .recovery recovery => cleanupRecoverySchema clock recovery

def sandboxRefSchema (ref : SandboxRef) : Bool :=
  providerIds.contains ref.provider && nonempty ref.id

def bodySchema (clock : Clock) : RecordBody → Bool
  | .intent | .notAllocated => true
  | .allocated ref => sandboxRefSchema ref
  | .cleanupAttested recovery => cleanupRecoverySchema clock recovery
  | .absent ref recovery => sandboxRefSchema ref && recovery.all (cleanupRecoverySchema clock)
  | .reconciled evidence => evidenceSchema clock evidence

def accountRecordSchema (clock : Clock) (record : AccountRecord) : Bool :=
  evidenceIdentifier record.account && evidenceIdentifier record.attempt &&
    evidenceIdentifier record.cellId && sha256Digest record.planDigest &&
    bodySchema clock record.body

/-- `accountRecordSchema.assert(record)` -/
def assertRecord (clock : Clock) (record : AccountRecord) : Except String Unit :=
  throwIf (accountRecordSchema clock record = false) "accountRecordSchema"

def readRecord (clock : Clock) (account : String) (attempts : List (String × List AccountRecord))
    (raw : AccountRecord) : Except String (List (String × List AccountRecord)) := do
  assertRecord clock raw
  fileRecord account attempts raw

/-- `{ ...intent, kind: "released", outcome: "absent", ref }` -/
def absentRecord (intent : AccountRecord) (ref : SandboxRef) : AccountRecord :=
  { intent with body := .absent ref none }

section
variable (clock : Clock) (rounds : Nat)

/-- `drivers.get(provider)`, if it can destroy and observe. -/
def recoveryDriver (drivers : List (String × SandboxDriver)) (ref : SandboxRef) :
    Option SandboxDriver :=
  (Keyed.get? drivers ref.provider).filter fun driver => driver.destroyById && driver.probes

def recoverAttempt (drivers : List (String × SandboxDriver)) (records : List AccountRecord) :
    Recovering Unit := do
  throwIfAborted
  match ← computed (interrupted records) with
  | none => pure ()
  | some (intent, ref) =>
    let driver ← computed
      (require (recoveryDriver drivers ref) "interrupted allocation has no recovery driver")
    confirmRemoval rounds driver ref
    withinSignal (.append (absentRecord intent ref))

def recoverAttempts (drivers : List (String × SandboxDriver)) :
    List (List AccountRecord) → Recovering Unit
  | [] => pure ()
  | records :: attempts => do
    recoverAttempt rounds drivers records
    recoverAttempts drivers attempts

/-- Queues provide exclusion; the journal preserves ownership facts, never allocation claims. -/
def recoverAccount (account : String) (drivers : List (String × SandboxDriver)) :
    Recovering Unit := do
  let records ← withinSignal (.read account)
  let attempts ← computed (records.foldlM (readRecord clock account) [])
  recoverAttempts rounds drivers (attempts.map Prod.snd)

end

/-! ### Recovering a retained allocation -/

/-- An attempt as its directory keeps it. -/
structure AttemptWithRun where
  evidence : ExperimentAttempt
  execution : Option ExecutionReceipt
  cleanup : Option CleanupReceipt
  cleanupRecovery : Option CleanupRecovery
  allocation : Option RetainedAllocation
  /-- Whether a shard was recorded. -/
  run : Bool
deriving DecidableEq, Repr

/-- The sandbox of a retained allocation, if the allocation is this attempt's. -/
def retainedRef (evidence : ExperimentAttempt) (allocation : AccountRecord) : Option SandboxRef :=
  match allocation.body with
  | .allocated ref =>
    if allocation.attempt = evidence.id ∧ allocation.cellId = evidence.cellId ∧
      allocation.planDigest = evidence.planDigest then some ref else none
  | _ => none

section
variable (clock : Clock)

/-- `readRecords`: the attempt's records must be of exactly the expected kinds. -/
def readRecords (account : String) (evidence : ExperimentAttempt) (expected : List RecordKind) :
    Recovering AccountRecord := do
  let read ← withinSignal (.read account)
  computed (forM read (assertRecord clock))
  let records := ofAttempt evidence.id read
  let error := "recovery requires a matching unresolved intent without a release"
  let intent ← computed (require records.head? error)
  computed (throwIf (records.map AccountRecord.kind ≠ expected ∨ intent.kind ≠ .intent ∨
    intent.account ≠ account ∨ intent.cellId ≠ evidence.cellId ∨
    intent.planDigest ≠ evidence.planDigest) error)
  return intent

/-- Identity-based recovery of an allocation that never reached the harness; `read` is what
`readExperimentAttempt` returns, and `retained` what `raw/allocation.json` holds. -/
def recoverAllocatedIntent (rounds : Nat) (read : Except String AttemptWithRun)
    (retained : Except String AccountRecord) : Recovering SandboxRef := do
  let attempt ← computed read
  let evidence := attempt.evidence
  -- An attempt that measured anything, or has receipts of its own, is a different failure.
  computed (throwIf (evidence.outcome ≠ .failed ∨ evidence.measurementStarted = true ∨
    evidence.cleanup ≠ .unresolved ∨ evidence.rawDigest.isNone ∨ attempt.execution.isSome ∨
    attempt.cleanup.isSome) "attempt does not prove an unresolved allocation")
  let allocation ← computed retained
  computed (assertRecord clock allocation)
  let ref ← computed (require (retainedRef evidence allocation)
    "retained allocation does not identify this attempt")
  let driver ← withinSignal (.openDriver ref.provider)
  computed (throwIf ((driver.destroyById && driver.probes) = false)
    "retained allocation has no recovery driver")
  let intent ← readRecords clock allocation.account evidence [.intent]
  awaiting (.assertQuiescent evidence.workflowRun evidence.sha)
  -- With its allocation restored, the attempt is one that admission recovers on its own.
  withinSignal (.append allocation)
  confirmRemoval rounds driver ref
  awaiting (.assertQuiescent evidence.workflowRun evidence.sha)
  let _ ← readRecords clock allocation.account evidence [.intent, .allocated]
  throwIfAborted
  computed (assertRecord clock (absentRecord intent ref))
  withinSignal (.append (absentRecord intent ref))
  return ref

end

end AccountRecovery
