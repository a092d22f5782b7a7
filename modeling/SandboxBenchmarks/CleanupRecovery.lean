import SandboxBenchmarks.AccountRecovery

/-!
# Recovering the cleanup of an attempt

`recoverExperimentCleanup` of `apps/cli/src/lib/cleanup-recovery.ts`, with
`verifyCleanupRecovery`, `failedBeforeExecution`, `originalSandboxId`,
`verifiedRetainedAllocation` and `runcloudAmbiguousCreateName` of
`packages/results/src/lib/experiment.ts`.
-/

namespace CleanupRecovery

open AccountJournal AccountRecovery CanonicalJson Checks ExperimentRecords Interaction JsonText
  PlanVerification
open AccountReconciliation (Observation SandboxDriver)

/-! ### Journal records as JSON -/

def refJson (ref : SandboxRef) : Value :=
  .obj [("provider", .str ref.provider), ("id", .str ref.id)]

def evidenceJson : ReconciliationEvidence → Value
  | .completedCreate sourceSha attemptDigest workflowRun confirmedAt operator =>
    .obj [("kind", .str "completed-create"), ("sourceSha", .str sourceSha),
      ("attemptDigest", .str attemptDigest), ("workflowRun", .str workflowRun),
      ("confirmedAt", .str confirmedAt), ("operator", .str operator)]
  | .recovery recovery => recoveryJson recovery

def bodyFields : RecordBody → List (String × Value)
  | .intent => [("kind", .str "intent")]
  | .allocated ref => [("kind", .str "allocated"), ("ref", refJson ref)]
  | .cleanupAttested recovery =>
    [("kind", .str "cleanup-attested"), ("recovery", recoveryJson recovery)]
  | .absent ref recovery =>
    [("kind", .str "released"), ("outcome", .str "absent"), ("ref", refJson ref)] ++
      optionalField "recovery" (recovery.map recoveryJson)
  | .notAllocated => [("kind", .str "released"), ("outcome", .str "not-allocated")]
  | .reconciled evidence =>
    [("kind", .str "released"), ("outcome", .str "reconciled"), ("evidence", evidenceJson evidence)]

def recordJson (record : AccountRecord) : Value :=
  .obj ([("version", .str "1"), ("account", .str record.account), ("attempt", .str record.attempt),
    ("cellId", .str record.cellId), ("planDigest", .str record.planDigest)] ++
    bodyFields record.body)

def recordOf (allocation : RetainedAllocation) : AccountRecord where
  account := allocation.account
  attempt := allocation.attempt
  cellId := allocation.cellId
  planDigest := allocation.planDigest
  body := .allocated allocation.ref

/-! ### What the original attempt proves -/

/-- Nothing ran: no measurement began and the harness left neither receipt. -/
def failedBeforeExecution (attempt : AttemptWithRun) : Bool :=
  !attempt.evidence.measurementStarted && attempt.execution.isNone && attempt.cleanup.isNone

def cellOf (plan : ExperimentPlan) (attempt : AttemptWithRun) : Option ExperimentCell :=
  plan.cells.find? fun cell => cell.id == attempt.evidence.cellId

/-- A retained identity is evidence only when bound to this original attempt and frozen account. -/
def verifiedRetainedAllocation (plan : ExperimentPlan) (attempt : AttemptWithRun) :
    Except String RetainedAllocation := do
  let error := "retained allocation does not bind the original attempt"
  let evidence := attempt.evidence
  let allocation ← require attempt.allocation error
  let cell ← require (cellOf plan attempt) error
  throwIf (evidence.rawDigest.isNone ∨ allocation.attempt ≠ evidence.id ∨
    allocation.cellId ≠ cell.id ∨ allocation.planDigest ≠ plan.digest ∨
    allocation.planDigest ≠ evidence.planDigest ∨ allocation.account ≠ cell.quotaDomain ∨
    allocation.ref.provider ≠ cell.provider) error
  return allocation

/-- The one sandbox the original attempt proves it owned. -/
def originalSandboxId (plan : ExperimentPlan) (attempt : AttemptWithRun) :
    Except String (Option String) :=
  match attempt.execution with
  | some execution =>
    return if some execution.provider = (cellOf plan attempt).map (·.provider) then
      some execution.sandboxId else none
  | none =>
    if failedBeforeExecution attempt && attempt.allocation.isSome then do
      let allocation ← verifiedRetainedAllocation plan attempt
      return some allocation.ref.id
    else return none

/-- `diagnostic.slice(prefix.length, -suffix.length)`, if it has both. -/
def between (before after text : List Char) : Option (List Char) :=
  if before.isPrefixOf text && after.isSuffixOf text then
    some ((text.take (text.length - after.length)).drop before.length)
  else none

def ambiguousCreateStart (cell : ExperimentCell) (evidence : ExperimentAttempt) : String :=
  s!"Suite \"{cell.suite}\" failed on runcloud — recorded as a failed gap in experiment/attempts/{evidence.id}/run.json: computesdk create failed: run.cloud create failed ambiguously (run.cloud create did not settle within 30000ms) and reconciliation could not establish its outcome (no allocation visible during reconciliation), so it is unknown whether a sandbox was allocated; if one was it carries the name "

def ambiguousCreateEnd : String :=
  " and manual cleanup may be required; cleanup failed: runcloud ComputeSDK failed-create recovery cleanup callback failed"

/-- A reviewed lost create response retained its exact caller-owned name, never a sandbox ID. -/
def runcloudAmbiguousCreateName (plan : ExperimentPlan) (attempt : AttemptWithRun) :
    Option String := do
  let evidence := attempt.evidence
  let cell ← cellOf plan attempt
  let diagnostic ← evidence.diagnostic
  if plan.sha = runcloudAmbiguousCreateRevision ∧ evidence.sha = plan.sha ∧
      cell.provider = "runcloud" ∧ cell.quotaDomain = "runcloud" ∧ evidence.outcome = .failed ∧
      evidence.cleanup = .unresolved ∧ failedBeforeExecution attempt = true ∧
      attempt.allocation.isNone then
    let name ← between (ambiguousCreateStart cell evidence).toList ambiguousCreateEnd.toList
      diagnostic.toList
    if runcloudSandboxName (String.ofList name) then some (String.ofList name) else none
  else none

/-- `cell.provider === "modal-gvisor"` and the rest of the reviewed Modal failure. -/
def reviewedModalFailure (cell : ExperimentCell) (attempt : AttemptWithRun) : Bool :=
  cell.provider == "modal-gvisor" && cell.quotaDomain == "modal" &&
    attempt.evidence.sha == modalCreatedRequestRevision && failedBeforeExecution attempt

def modalDiagnosticEnd : String :=
  "modal-gvisor ComputeSDK created-request preparation and verification callback failed; cleanup failed: modal-gvisor ComputeSDK lifecycle destroy callback failed"

section
variable (runtime : Runtime) (clock : Clock) (plan : ExperimentPlan)

/-- `Date.parse(a) < Date.parse(b)` -/
def earlier (a b : String) : Bool :=
  match clock.parse a, clock.parse b with
  | some a, some b => decide (a < b)
  | _, _ => false

/-- Only releases the partial-publication cleanup gate. -/
def verifyCleanupRecovery (attempt : AttemptWithRun) : Except String Unit := do
  let recovery ← require attempt.cleanupRecovery "cleanupRecoverySchema"
  throwIf (cleanupRecoverySchema clock recovery = false) "cleanupRecoverySchema"
  let evidence := attempt.evidence
  let error := "cleanup recovery does not bind the original failed attempt"
  let cell ← require (cellOf plan attempt) error
  throwIf (evidence.outcome ≠ .failed ∨ evidence.cleanup ≠ .unresolved ∨
    evidence.rawDigest.isNone ∨ evidence.runDigest.isNone ∨ attempt.run = false ∨
    recovery.attemptId ≠ evidence.id ∨ recovery.cellId ≠ evidence.cellId ∨
    recovery.planDigest ≠ plan.digest ∨ recovery.planDigest ≠ evidence.planDigest) error
  let digest ← evidenceDigest runtime evidence.toJson
  throwIf (recovery.attemptDigest ≠ digest ∨ recovery.workflowRun ≠ plan.id ∨
    recovery.workflowRun ≠ evidence.workflowRun ∨ recovery.sourceSha ≠ plan.sha ∨
    recovery.sourceSha ≠ evidence.sha ∨
    earlier clock recovery.confirmedAt (plan.createdOn ++ "T00:00:00Z") = true) error
  match recovery.observation with
  | .sandbox provider sandboxId _ => do
    let error := "cleanup recovery sandbox differs from original execution"
    throwIf (provider ≠ cell.provider) error
    let original ← originalSandboxId plan attempt
    throwIf (original ≠ some sandboxId) error
  | .runcloudNamedSandbox sandboxName _ =>
    throwIf (runcloudAmbiguousCreateName plan attempt ≠ some sandboxName)
      "cleanup recovery is not the reviewed Runcloud named create failure"
  | .modalApp _ _ _ =>
    throwIf ((reviewedModalFailure cell attempt &&
        evidence.diagnostic.any (fun text => modalDiagnosticEnd.toList.isSuffixOf text.toList)) =
      false) "cleanup recovery is not the reviewed Modal post-create failure"

/-! ### What the journal says already -/

/-- A recovery the journal already holds for the attempt. -/
def previousRecovery (supplemental : Option CleanupRecovery) (records : List AccountRecord) :
    Option CleanupRecovery :=
  supplemental <|> match bodyOf .released records with
    | some (.absent _ recovery) => recovery
    | some (.reconciled (.recovery recovery)) => some recovery
    | _ => none

def CleanupObservation.isSandbox : CleanupObservation → Bool
  | .sandbox _ _ _ => true
  | _ => false

def observesRef (ref : SandboxRef) : CleanupObservation → Bool
  | .sandbox provider sandboxId _ => sandboxId == ref.id && provider == ref.provider
  | _ => false

/-- Whether a recovery the journal holds contradicts its other records. -/
def contradictsOwnership (supplemental : Option CleanupRecovery) (previous : CleanupRecovery)
    (records : List AccountRecord) : Bool :=
  match bodyOf .released records with
  | some (.absent ref _) =>
    records.length != (if supplemental.isSome then 4 else 3) || allocatedRef records != some ref ||
      !observesRef ref previous.observation
  | _ =>
    records.length != 2 || (allocatedRef records).isSome ||
      CleanupObservation.isSandbox previous.observation

/-- Whether the records are more, or other, than an unresolved attempt and its plain release. -/
def mismatched (records : List AccountRecord) : Bool :=
  match bodyOf .released records with
  | none => records.length != (if (allocatedRef records).isSome then 2 else 1)
  | some (.absent ref _) => allocatedRef records != some ref || records.length != 3
  | some _ => true

/-! ### The recovery -/

/-- What the operator gives, and what `readExperimentAttempt` returns for the directory. -/
structure Options where
  plan : ExperimentPlan
  operator : String
  modalAnchor : Option String
  /-- Whether `observeRuncloudName` is given. -/
  namesObservable : Bool
  read : Except String AttemptWithRun

def readAttemptRecords (cell : ExperimentCell) (evidence : ExperimentAttempt) :
    Recovering (List AccountRecord) := do
  let records ← awaiting (.read cell.quotaDomain)
  return ofAttempt evidence.id records

def assertJournalUnchanged (cell : ExperimentCell) (evidence : ExperimentAttempt)
    (records : List AccountRecord) : Recovering Unit := do
  let current ← readAttemptRecords cell evidence
  let now ← computed (evidenceDigest runtime (.arr (current.map recordJson)))
  let before ← computed (evidenceDigest runtime (.arr (records.map recordJson)))
  computed (throwIf (now ≠ before) "journal changed during cleanup recovery")

def persist (recovery : CleanupRecovery) : Recovering Unit :=
  question .storedRecovery fun (stored : Except String (Option Value)) => do
    match ← computed stored with
    | some json =>
      let existing ← computed (evidenceDigest runtime json)
      let digest ← computed (evidenceDigest runtime (recoveryJson recovery))
      computed (throwIf (existing ≠ digest)
        "local cleanup recovery conflicts with durable journal")
    | none =>
      question (.writeRecovery recovery) fun (written : Except String Unit) => computed written

/-- Replay an allocation whose append was lost. -/
def replayAllocation (cell : ExperimentCell) (attempt : AttemptWithRun)
    (records : List AccountRecord) : Recovering AccountRecord := do
  computed (throwIf (failedBeforeExecution attempt = false)
    "lost allocation append requires a pre-execution failure")
  let retained ← computed (verifiedRetainedAllocation plan attempt)
  assertJournalUnchanged runtime cell attempt.evidence records
  withinSignal (.append (recordOf retained))
  return recordOf retained

/-- The executor retained the identity, and its append was lost. -/
def restoreAllocation (cell : ExperimentCell) (attempt : AttemptWithRun)
    (records : List AccountRecord) : Recovering (List AccountRecord) :=
  if (ofKind .allocated records).isNone && attempt.allocation.isSome then do
    let retained ← replayAllocation runtime plan cell attempt records
    return records ++ [retained]
  else pure records

def stateText : Observation → String
  | .running => "running"
  | .terminal => "terminal"
  | .absent => "absent"

def observeAllocation (rounds : Nat) (cell : ExperimentCell) (attempt : AttemptWithRun)
    (allocation : AccountRecord) (ref : SandboxRef) : Recovering CleanupObservation := do
  let error := "cleanup recovery allocation differs from original retained execution"
  let retained ← computed (verifiedRetainedAllocation plan attempt)
  let expected ← computed (evidenceDigest runtime (recordJson (recordOf retained)))
  let digest ← computed (evidenceDigest runtime (recordJson allocation))
  computed (throwIf (expected ≠ digest) error)
  let original ← computed (originalSandboxId plan attempt)
  computed (throwIf (original ≠ some ref.id) error)
  let driver ← withinSignal (.openDriver cell.provider)
  computed (throwIf (driver.probes = false) "cleanup recovery requires control-plane probes")
  confirmRemoval rounds driver ref
  let state ← withinSignal (.observe driver ref)
  computed (throwIf (state = .running) "sandbox became active during cleanup recovery")
  return .sandbox cell.provider ref.id (stateText state)

def CleanupObservation.isRuncloud : CleanupObservation → Bool
  | .runcloudNamedSandbox _ _ => true
  | _ => false

def CleanupObservation.isModal : CleanupObservation → Bool
  | .modalApp _ _ _ => true
  | _ => false

def observeName (options : Options) (name : String) : Recovering CleanupObservation := do
  computed (throwIf (options.namesObservable = false)
    "reviewed Runcloud recovery requires its named sandbox observer")
  let observation ← withinSignal (.observeRuncloudName name)
  computed (throwIf (CleanupObservation.isRuncloud observation = false)
    "missing positive Runcloud named sandbox observation")
  return observation

def observeApp (options : Options) (cell : ExperimentCell) (attempt : AttemptWithRun) :
    Recovering CleanupObservation := do
  let error := "identifier-free recovery requires the reviewed Modal post-create failure"
  computed (throwIf (reviewedModalFailure cell attempt = false) error)
  let anchor ← computed (require (options.modalAnchor.filter nonempty) error)
  let observation ← withinSignal (.observeModalApp anchor)
  computed (throwIf (CleanupObservation.isModal observation = false)
    "missing complete Modal App observation")
  return observation

def observeCleanup (rounds : Nat) (options : Options) (cell : ExperimentCell)
    (attempt : AttemptWithRun) (records : List AccountRecord) : Recovering CleanupObservation :=
  match ofKind .allocated records, allocatedRef records with
  | some allocation, some ref =>
    observeAllocation runtime options.plan rounds cell attempt allocation ref
  | _, _ =>
    match runcloudAmbiguousCreateName options.plan attempt with
    | some name => observeName options name
    | none => observeApp options cell attempt

/-- The record that closes the attempt, or supplements its plain release. -/
def closingRecord (intent : AccountRecord) (released : Bool) (ref : Option SandboxRef)
    (recovery : CleanupRecovery) : AccountRecord :=
  { intent with body :=
      if released then .cleanupAttested recovery
      else match ref with
        | some ref => .absent ref (some recovery)
        | none => .reconciled (.recovery recovery) }

/-- Verify the recovery, and append its record to a journal that is still as it was read. -/
def recordCleanup (options : Options) (cell : ExperimentCell) (attempt : AttemptWithRun)
    (intent : AccountRecord) (records : List AccountRecord) (recovery : CleanupRecovery) :
    Recovering CleanupRecovery := do
  let evidence := attempt.evidence
  computed (throwIf (cleanupRecoverySchema clock recovery = false) "cleanupRecoverySchema")
  computed (verifyCleanupRecovery runtime clock options.plan
    { attempt with cleanupRecovery := some recovery })
  awaiting (.assertQuiescent evidence.workflowRun evidence.sha)
  assertJournalUnchanged runtime cell evidence records
  throwIfAborted
  let record := closingRecord intent (ofKind .released records).isSome (allocatedRef records) recovery
  computed (assertRecord clock record)
  withinSignal (.append record)
  persist runtime recovery
  return recovery

def recoveryOf (options : Options) (evidence : ExperimentAttempt) (attemptDigest : String)
    (observation : CleanupObservation) (confirmedAt : String) : CleanupRecovery where
  attemptId := evidence.id
  cellId := evidence.cellId
  planDigest := options.plan.digest
  attemptDigest := attemptDigest
  workflowRun := evidence.workflowRun
  sourceSha := evidence.sha
  confirmedAt := confirmedAt
  operator := options.operator
  observation := observation

/-- What is left to do once ownership of an unresolved attempt is to be settled. -/
def settleCleanup (rounds : Nat) (options : Options) (cell : ExperimentCell)
    (attempt : AttemptWithRun) (intent : AccountRecord) (records : List AccountRecord) :
    Recovering CleanupRecovery := do
  let evidence := attempt.evidence
  awaiting (.assertQuiescent evidence.workflowRun evidence.sha)
  let records ← restoreAllocation runtime options.plan cell attempt records
  let observation ← observeCleanup runtime rounds options cell attempt records
  let attemptDigest ← computed (evidenceDigest runtime evidence.toJson)
  question .now fun (confirmedAt : String) =>
    recordCleanup runtime clock options cell attempt intent records
      (recoveryOf options evidence attemptDigest observation confirmedAt)

/-- Explicit post-run ownership recovery. No original receipt or measurement is rewritten. -/
def recoverExperimentCleanup (rounds : Nat) (options : Options) : Recovering CleanupRecovery := do
  let attempt ← computed options.read
  let evidence := attempt.evidence
  let error := "recovery requires an original failed attempt with unresolved cleanup"
  let cell ← computed (require (cellOf options.plan attempt) error)
  computed (throwIf (evidence.cleanup ≠ .unresolved ∨ evidence.outcome ≠ .failed ∨
    evidence.planDigest ≠ options.plan.digest ∨ evidence.sha ≠ options.plan.sha ∨
    evidence.workflowRun ≠ options.plan.id ∨ evidence.rawDigest.isNone ∨
    evidence.runDigest.isNone ∨ attempt.run = false) error)
  let records ← readAttemptRecords cell evidence
  let supplemental ← computed (supplementalCleanupRecovery records)
  let intent ← computed (require (ofKind .intent records)
    "cleanup recovery journal provenance mismatch")
  computed (throwIf (records.any (fun record => record.cellId != cell.id ||
    record.planDigest != options.plan.digest || record.account != cell.quotaDomain) = true)
    "cleanup recovery journal provenance mismatch")
  match previousRecovery supplemental records with
  | some previous => do
    computed (throwIf (contradictsOwnership supplemental previous records = true)
      "existing cleanup recovery contradicts journal ownership")
    computed (verifyCleanupRecovery runtime clock options.plan
      { attempt with cleanupRecovery := some previous })
    persist runtime previous
    return previous
  | none => do
    computed (throwIf (mismatched records = true)
      "cleanup recovery requires matching unresolved journal records")
    settleCleanup runtime clock rounds options cell attempt intent records

end

end CleanupRecovery
