import SandboxBenchmarks.AccountJournal
import SandboxBenchmarks.PlanVerification

/-!
# Attempts, receipts and repairs

The evidence records of `packages/schema/src/experiment.ts`,
`experiment-repair.ts` and `unstarted-batch.ts`, the schema and digested form of
a `CleanupRecovery`, and `PtsTrialEvidence`. Records are typed values: a schema
keeps the checks a type does not already make.
-/

namespace ExperimentRecords

open AccountJournal JsonText PlanVerification

/-- Timestamps: the schema's `string.date.iso`, and `Date.parse`, undefined for `NaN`. -/
structure Clock where
  iso : String → Bool
  parse : String → Option Int

inductive Outcome where
  | completed
  | failed
  | cancelled
deriving DecidableEq, Repr

def Outcome.text : Outcome → String
  | .completed => "completed"
  | .failed => "failed"
  | .cancelled => "cancelled"

inductive Cleanup where
  | confirmed
  | unresolved
  | notAllocated
deriving DecidableEq, Repr

def Cleanup.text : Cleanup → String
  | .confirmed => "confirmed"
  | .unresolved => "unresolved"
  | .notAllocated => "not-allocated"

inductive Completion where
  | knownSuccess
  | knownFailure
  | unknown
deriving DecidableEq, Repr

def Completion.text : Completion → String
  | .knownSuccess => "known-success"
  | .knownFailure => "known-failure"
  | .unknown => "unknown"

/-- Evidence is a receipt: `runDigest` binds its observations to one shard. -/
structure ExperimentAttempt where
  id : String
  cellId : String
  planDigest : String
  sha : String
  workloadRevision : String
  environmentRevision : String
  artifactIdentity : String
  passes : Nat
  workflowRun : String
  workflowAttempt : Nat
  job : String
  sequence : Nat
  previousAttempt : Option String
  outcome : Outcome
  measurementStarted : Bool
  retryable : Bool
  cleanup : Cleanup
  completion : Completion
  runDigest : Option String
  rawDigest : Option String
  diagnostic : Option String
deriving DecidableEq, Repr

def experimentAttemptSchema (a : ExperimentAttempt) : Bool :=
  evidenceIdentifier a.id && evidenceIdentifier a.cellId && sha256Digest a.planDigest &&
    shaText a.sha && nonempty a.workloadRevision && nonempty a.environmentRevision &&
    nonempty a.artifactIdentity && decide (1 ≤ a.passes) && evidenceIdentifier a.workflowRun &&
    decide (1 ≤ a.workflowAttempt) && nonempty a.job && a.previousAttempt.all evidenceIdentifier &&
    a.runDigest.all sha256Digest && a.rawDigest.all sha256Digest &&
    a.diagnostic.all (fun d => decide (CodeUnits.utf16Length d ≤ 16384))

def texts (key : String) (value : Option String) : List (String × Value) :=
  optionalField key (value.map .str)

def ExperimentAttempt.toJson (a : ExperimentAttempt) : Value :=
  .obj ([("schemaVersion", .str "1"), ("id", .str a.id), ("cellId", .str a.cellId),
      ("planDigest", .str a.planDigest), ("sha", .str a.sha),
      ("workloadRevision", .str a.workloadRevision),
      ("environmentRevision", .str a.environmentRevision),
      ("artifactIdentity", .str a.artifactIdentity), ("passes", natural a.passes),
      ("workflowRun", .str a.workflowRun), ("workflowAttempt", natural a.workflowAttempt),
      ("job", .str a.job), ("sequence", natural a.sequence)] ++
    texts "previousAttempt" a.previousAttempt ++
    [("outcome", .str a.outcome.text), ("measurementStarted", .bool a.measurementStarted),
      ("retryable", .bool a.retryable), ("cleanup", .str a.cleanup.text),
      ("completion", .str a.completion.text)] ++
    texts "runDigest" a.runDigest ++ texts "rawDigest" a.rawDigest ++
    texts "diagnostic" a.diagnostic)

/-! ### Receipts -/

inductive Phase where
  | create
  | setup
  | benchmark
  | collect
deriving DecidableEq, Repr

def Phase.text : Phase → String
  | .create => "create"
  | .setup => "setup"
  | .benchmark => "benchmark"
  | .collect => "collect"

/-- One attempt of a step; `exitCode` is absent when its completion was not observed. -/
structure ExecutionStep where
  phase : Phase
  label : String
  exitCode : Option Int
  allowFailure : Bool
deriving DecidableEq, Repr

inductive DetachedState where
  | launchPending
  | launchAccepted
  | running
  | observationUnavailable
  | completed
  | deadlineExceeded
  | collectionFailed
deriving DecidableEq, Repr

structure DetachedStep extends ExecutionStep where
  identity : String
  state : DetachedState
deriving DecidableEq, Repr

structure ExecutionReceipt where
  executionId : String
  runId : String
  replicateIndex : Option Nat
  provider : String
  suite : String
  sandboxId : String
  steps : List ExecutionStep
  detached : List DetachedStep
  primaryFailure : Option String
deriving DecidableEq, Repr

def executionReceiptSchema (e : ExecutionReceipt) : Bool :=
  evidenceIdentifier e.executionId && evidenceIdentifier e.runId &&
    providerIds.contains e.provider && nonempty e.suite && nonempty e.sandboxId &&
    e.detached.all (fun step => evidenceIdentifier step.identity)

structure CleanupReceipt where
  executionId : String
  completed : Bool
  attemptedAt : String
  completedAt : Option String
  diagnostic : Option String
  confirmedAbsent : Bool
deriving DecidableEq, Repr

def cleanupReceiptSchema (clock : Clock) (c : CleanupReceipt) : Bool :=
  evidenceIdentifier c.executionId && clock.iso c.attemptedAt && c.completedAt.all clock.iso

inductive TrialSource where
  | rawString
  | singleTrialValue
  | aggregateValue
  | unverified
deriving DecidableEq, Repr

/-- Trial evidence recovered from an attempt's original raw tree. -/
structure PtsTrialEvidence where
  providerId : String
  metricId : String
  source : TrialSource
  observed : Option Nat
deriving DecidableEq, Repr

/-- The journal's `allocated` record, retained beside the attempt. -/
structure RetainedAllocation where
  account : String
  attempt : String
  cellId : String
  planDigest : String
  ref : SandboxRef
deriving DecidableEq, Repr

/-! ### Cleanup recoveries -/

def isLowerHex (k : Nat) (chars : List Char) : Bool := chars.length == k && chars.all isHex

/-- The reviewed run.cloud sandbox name: a fixed prefix and a UUID. -/
def runcloudSandboxName (s : String) : Bool :=
  match s.splitOn "-" with
  | ["sandbox", "benchmarks", a, b, c, d, e] =>
    isLowerHex 8 a.toList && isLowerHex 4 b.toList && isLowerHex 4 c.toList &&
      isLowerHex 4 d.toList && isLowerHex 12 e.toList
  | _ => false

/-- `/^ap-[a-zA-Z0-9]+$/` -/
def modalAppId (s : String) : Bool :=
  s.toList.take 3 == ['a', 'p', '-'] && decide (1 ≤ (s.toList.drop 3).length) &&
    (s.toList.drop 3).all Char.isAlphanum

def observationSchema : CleanupObservation → Bool
  | .sandbox provider sandboxId state =>
    providerIds.contains provider && nonempty sandboxId && (state == "terminal" || state == "absent")
  | .runcloudNamedSandbox sandboxName sandboxId =>
    runcloudSandboxName sandboxName && evidenceIdentifier sandboxId
  | .modalApp appId anchorSandboxId environment =>
    modalAppId appId && nonempty anchorSandboxId && nonempty environment

def cleanupRecoverySchema (clock : Clock) (r : CleanupRecovery) : Bool :=
  nonempty r.attemptId && nonempty r.cellId && sha256Digest r.planDigest &&
    sha256Digest r.attemptDigest && nonempty r.workflowRun && shaText r.sourceSha &&
    clock.iso r.confirmedAt && evidenceIdentifier r.operator && observationSchema r.observation

def observationJson : CleanupObservation → Value
  | .sandbox provider sandboxId state =>
    .obj [("kind", .str "sandbox"), ("provider", .str provider), ("sandboxId", .str sandboxId),
      ("state", .str state)]
  | .runcloudNamedSandbox sandboxName sandboxId =>
    .obj [("kind", .str "runcloud-named-sandbox"), ("sandboxName", .str sandboxName),
      ("sandboxId", .str sandboxId), ("state", .str "destroyed"), ("inventoryPasses", natural 2)]
  | .modalApp appId anchorSandboxId environment =>
    .obj [("kind", .str "modal-app"), ("appName", .str "sandbox-benchmarks"),
      ("appId", .str appId), ("anchorSandboxId", .str anchorSandboxId),
      ("environment", .str environment), ("v1Running", natural 0), ("v2Running", natural 0),
      ("inventoryPasses", natural 2)]

def recoveryJson (r : CleanupRecovery) : Value :=
  .obj [("kind", .str "post-run-cleanup"), ("attemptId", .str r.attemptId),
    ("cellId", .str r.cellId), ("planDigest", .str r.planDigest),
    ("attemptDigest", .str r.attemptDigest), ("workflowRun", .str r.workflowRun),
    ("sourceSha", .str r.sourceSha), ("confirmedAt", .str r.confirmedAt),
    ("operator", .str r.operator), ("observation", observationJson r.observation)]

def modalCreatedRequestRevision : String := "845a0f19b3aa3bda32f0ec988c1d1c188c9e260f"

def runcloudAmbiguousCreateRevision : String := "f571eec3dc1378680f223a365d586f61a4fc6658"

/-! ### Repairs -/

structure RepairCell where
  id : String
  previousAttempt : Option String
deriving DecidableEq, Repr

/-- An operator freezes all replacement cells before any new measurements are made. -/
structure ExperimentRepair where
  sourceRun : String
  sourceSha : String
  sourcePlanDigest : String
  sourceAttemptsDigest : String
  recoveryRun : String
  recoveryPlanDigest : String
  operator : String
  reason : String
  cells : List RepairCell
  digest : String
deriving DecidableEq, Repr

def experimentRepairSchema (r : ExperimentRepair) : Bool :=
  evidenceIdentifier r.sourceRun && shaText r.sourceSha && sha256Digest r.sourcePlanDigest &&
    sha256Digest r.sourceAttemptsDigest && evidenceIdentifier r.recoveryRun &&
    sha256Digest r.recoveryPlanDigest && nonempty r.operator && nonempty r.reason &&
    decide (1 ≤ r.cells.length) &&
    r.cells.all (fun c => evidenceIdentifier c.id && c.previousAttempt.all evidenceIdentifier) &&
    sha256Digest r.digest

def RepairCell.toJson (c : RepairCell) : Value :=
  .obj ([("id", .str c.id)] ++ texts "previousAttempt" c.previousAttempt)

/-- The repair without its digest. -/
def ExperimentRepair.body (r : ExperimentRepair) : Value :=
  .obj [("schemaVersion", .str "1"), ("sourceRun", .str r.sourceRun),
    ("sourceSha", .str r.sourceSha), ("sourcePlanDigest", .str r.sourcePlanDigest),
    ("sourceAttemptsDigest", .str r.sourceAttemptsDigest), ("recoveryRun", .str r.recoveryRun),
    ("recoveryPlanDigest", .str r.recoveryPlanDigest), ("operator", .str r.operator),
    ("reason", .str r.reason), ("cells", .arr (r.cells.map (·.toJson)))]

/-! ### Batches that never started -/

def unstartedBatchSourceRevision : String := "8d12320592d858202f46648b903bf4e5a75d086f"

def unstartedBatchWorkflowRevision : String := "de63d929211cd0b416372e11f1dd71e63b99fa0d"

structure UnstartedWorkflow where
  id : Nat
  runAttempt : Nat
  headSha : String
  actorLogin : String
deriving DecidableEq, Repr

structure UnstartedStep where
  number : Nat
  name : String
  conclusion : String
deriving DecidableEq, Repr

structure UnstartedJob where
  id : Nat
  runId : Nat
  runAttempt : Nat
  headSha : String
  name : String
  steps : List UnstartedStep
deriving DecidableEq, Repr

/-- Platform failure before the sole allocation step, not an execution attempt. -/
structure UnstartedBatch where
  planDigest : String
  sourceSha : String
  batchId : String
  cellIds : List String
  operator : String
  checkedAt : String
  workflow : UnstartedWorkflow
  job : UnstartedJob
  recordsDigest : String
  digest : String
deriving DecidableEq, Repr

def unstartedBatchSchema (clock : Clock) (u : UnstartedBatch) : Bool :=
  sha256Digest u.planDigest && shaText u.sourceSha && nonempty u.batchId &&
    decide (1 ≤ u.cellIds.length) && nonempty u.operator && clock.iso u.checkedAt &&
    decide (0 < u.workflow.id) && decide (0 < u.workflow.runAttempt) &&
    shaText u.workflow.headSha && nonempty u.workflow.actorLogin && decide (0 < u.job.id) &&
    decide (0 < u.job.runId) && decide (0 < u.job.runAttempt) && shaText u.job.headSha &&
    nonempty u.job.name && decide (1 ≤ u.job.steps.length) &&
    u.job.steps.all (fun s => decide (0 < s.number) && nonempty s.name && nonempty s.conclusion) &&
    sha256Digest u.recordsDigest && sha256Digest u.digest

def UnstartedWorkflow.toJson (w : UnstartedWorkflow) : Value :=
  .obj [("id", natural w.id), ("run_attempt", natural w.runAttempt), ("head_sha", .str w.headSha),
    ("head_branch", .str "main"), ("path", .str ".github/workflows/recover-benchmark.yml"),
    ("event", .str "workflow_dispatch"), ("status", .str "completed"),
    ("actor", .obj [("login", .str w.actorLogin)])]

def UnstartedStep.toJson (s : UnstartedStep) : Value :=
  .obj [("number", natural s.number), ("name", .str s.name), ("status", .str "completed"),
    ("conclusion", .str s.conclusion)]

def UnstartedJob.toJson (j : UnstartedJob) : Value :=
  .obj [("id", natural j.id), ("run_id", natural j.runId), ("run_attempt", natural j.runAttempt),
    ("head_sha", .str j.headSha), ("name", .str j.name), ("status", .str "completed"),
    ("conclusion", .str "failure"), ("steps", .arr (j.steps.map (·.toJson)))]

/-- The receipt without its digest. -/
def UnstartedBatch.body (u : UnstartedBatch) : Value :=
  .obj [("kind", .str "github-actions-unstarted-batch"), ("planDigest", .str u.planDigest),
    ("sourceSha", .str u.sourceSha), ("batchId", .str u.batchId), ("cellIds", strings u.cellIds),
    ("operator", .str u.operator), ("checkedAt", .str u.checkedAt),
    ("workflow", u.workflow.toJson), ("job", u.job.toJson),
    ("journal", .obj [("account", .str "vercel"), ("recordsDigest", .str u.recordsDigest)])]

end ExperimentRecords
