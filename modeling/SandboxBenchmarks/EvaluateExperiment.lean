import SandboxBenchmarks.Aggregate

/-!
# Evaluating an experiment

`evaluateExperiment`, with `finalAttempts` and `stepAccepted`, of
`packages/results/src/lib/experiment.ts`: whole attempts against the frozen
denominator.
-/

namespace EvaluateExperiment

open Aggregate CanonicalJson Checks ExperimentRecords JsonText PlanVerification RunModel RunSchema
open AccountJournal (CleanupRecovery)

structure AttemptWithRun where
  evidence : ExperimentAttempt
  run : Option Run
  execution : Option ExecutionReceipt
  cleanup : Option CleanupReceipt
  cleanupRecovery : Option CleanupRecovery
  allocation : Option RetainedAllocation
  /-- Raw verification takes precedence over a shard's declared sample origin. -/
  ptsTrials : Option (List PtsTrialEvidence)

structure CoverageCell where
  id : String
  status : CellStatus
  missingMetrics : List String
  excludedMetrics : List String
  attemptId : Option String
  retainedMetrics : Option (List String)
  passShortfalls : Option (List PassShortfall)
deriving DecidableEq, Repr

structure CoverageReport where
  planDigest : String
  complete : Bool
  selectedAttempts : List String
  cells : List CoverageCell
  conflicts : List String
deriving DecidableEq, Repr

/-- `["complete", "excluded"].includes(cell.status)` -/
def CoverageCell.settled (cell : CoverageCell) : Bool :=
  cell.status == .complete || cell.status == .excluded

/-- The ids of `NETWORK_DNS_TARGETS`: dig reports whole milliseconds. -/
def subMillisecondDns : List String :=
  ["network_dns_cold_github_com_ms", "network_dns_cold_registry_npmjs_org_ms",
    "network_dns_cold_docker_io_ms", "network_dns_cold_pypi_org_ms",
    "network_dns_cold_rubygems_org_ms"]

/-! ### Steps -/

/-- A step is judged by its final attempt, keyed by phase and label. -/
def finalAttempts {α : Type} (step : α → ExecutionStep) (entries : List α) : List α :=
  (Keyed.mapOf (entries.map fun entry =>
    ((step entry).phase.text ++ "\x00" ++ (step entry).label, entry))).map Prod.snd

/-- The tolerance covers a non-zero exit, never a step whose completion was not observed. -/
def stepAccepted (step : ExecutionStep) : Bool :=
  step.exitCode == some 0 || (step.allowFailure && step.exitCode.isSome)

/-! ### Attempts -/

section
variable (runtime : Runtime) (catalog : Catalog)

/-- Whether a shard is not the one its attempt and cell name. -/
def shardMismatch (plan : ExperimentPlan) (evidence : ExperimentAttempt)
    (cell : Option ExperimentCell) (run : Run) : Except String Bool :=
  match cell with
  | none => return true
  | some cell =>
    if run.sha ≠ plan.sha ∨ run.runId ≠ plan.id then return true
    else do
      let target ← evidenceDigest runtime run.targetSpec.toJson
      let planned ← evidenceDigest runtime cell.target.toJson
      if target ≠ planned then return true
      else do
        let digest ← evidenceDigest runtime (catalog.document run)
        return some digest ≠ evidence.runDigest

def mismatchOf (plan : ExperimentPlan) (evidence : ExperimentAttempt) (cell : Option ExperimentCell)
    (run : Option Run) : Except String Bool :=
  match run with
  | none => return false
  | some run => shardMismatch runtime catalog plan evidence cell run

/-- The line of a conflict that is there. -/
def lineIf (conflict : Bool) (line : String) : List String := if conflict then [line] else []

/-- One attempt of the loop, after the ids and conflicts of those before. -/
def checkAttempt (plan : ExperimentPlan) (seen : List String × List String)
    (attempt : AttemptWithRun) : Except String (List String × List String) := do
  let evidence := attempt.evidence
  throwIf (experimentAttemptSchema evidence = false) "experimentAttemptSchema"
  forM attempt.run.toList fun run => do
    let _ ← parseRun catalog run
  let cell := plan.cells.find? fun entry => entry.id == evidence.cellId
  let provenance := cell.isNone || evidence.workflowRun != plan.id ||
    evidence.planDigest != plan.digest || evidence.sha != plan.sha
  let policy := cell.any fun cell =>
    evidence.workloadRevision != cell.workloadRevision ||
      evidence.environmentRevision != cell.environmentRevision ||
      evidence.artifactIdentity != cell.artifactIdentity || evidence.passes != cell.passes
  let mismatch ← mismatchOf runtime catalog plan evidence cell attempt.run
  return (Keyed.add seen.1 evidence.id, seen.2 ++
    lineIf (seen.1.contains evidence.id) s!"duplicate attempt: {evidence.id}" ++
    lineIf provenance s!"attempt provenance mismatch: {evidence.id}" ++
    lineIf policy s!"attempt execution policy mismatch: {evidence.id}" ++
    lineIf mismatch s!"attempt shard mismatch: {evidence.id}")

/-! ### Lineages -/

/-- By sequence, ties by id. -/
def lineageOf (attempts : List AttemptWithRun) (cell : ExperimentCell) : List AttemptWithRun :=
  (attempts.filter fun attempt => attempt.evidence.cellId == cell.id).insertionSort fun a b =>
    a.evidence.sequence < b.evidence.sequence ∨ a.evidence.sequence = b.evidence.sequence ∧
      runtime.localeCompare a.evidence.id b.evidence.id ≠ .gt

/-- A first attempt, or a retry of a failure before any measurement. -/
def authorized (previous : Option ExperimentAttempt) (current : ExperimentAttempt) : Bool :=
  match previous with
  | none => current.previousAttempt == none
  | some previous =>
    current.previousAttempt == some previous.id && previous.outcome == .failed &&
      !previous.measurementStarted && previous.retryable && previous.cleanup != .unresolved

def inSequence (index : ℕ) (previous : Option ExperimentAttempt) : List ExperimentAttempt → Bool
  | [] => true
  | current :: rest =>
    current.sequence == index && authorized previous current &&
      inSequence (index + 1) (some current) rest

def validLineage (plan : ExperimentPlan) (lineage : List AttemptWithRun) : Bool :=
  decide (lineage.length ≤ plan.maxPremeasurementRetries + 1) &&
    inSequence 0 none (lineage.map (·.evidence))

/-! ### Measurements -/

/-- Only a known metric that PTS does not sample has a sampling contract of its own. -/
def ptsSampled (metricId : String) : Bool :=
  match catalog.getMetric metricId with
  | none => true
  | some definition => definition.pts

def declaredTrials (metric : MetricResult) : TrialSource × Option ℕ :=
  match metric.ptsSampleSource with
  | some .rawString => (.rawString, some metric.samples.values.length)
  | some .aggregateValue => (.aggregateValue, none)
  | none => (.unverified, none)

/-- What proves the trials of a metric, and how many it proves. -/
def trialsOf (cell : ExperimentCell) (ptsTrials : Option (List PtsTrialEvidence))
    (metric : MetricResult) : TrialSource × Option ℕ :=
  match catalog.getMetric metric.metricId, ptsTrials with
  | none, _ => (.unverified, none)
  | some _, none => declaredTrials metric
  | some _, some trials =>
    match trials.find? fun entry =>
        entry.providerId == cell.provider && entry.metricId == metric.metricId with
    | none => (.unverified, none)
    | some entry => (entry.source, entry.observed)

def fallsShort (entry : PassShortfall) : Bool :=
  match entry.source with
  | .singleTrialValue => entry.observed != some 1 || entry.expected != 1
  | .rawString => entry.observed != some entry.expected
  | _ => true

def passShortfalls (cell : ExperimentCell) (eligible : List String)
    (ptsTrials : Option (List PtsTrialEvidence)) (metrics : List MetricResult) :
    List PassShortfall :=
  ((metrics.filter fun metric => eligible.contains metric.metricId &&
    ptsSampled catalog metric.metricId).map fun metric =>
      let trials := trialsOf catalog cell ptsTrials metric
      { providerId := cell.provider
        metricId := metric.metricId
        source := trials.1
        observed := trials.2
        expected := cell.passes }).filter fallsShort

/-- Declared metrics need real samples. -/
def measured (shortfalls : List PassShortfall) (metrics : List MetricResult) : List String :=
  (metrics.filter fun metric =>
    metric.samples.values.all (fun sample => decide (0 < sample) ||
      (decide (sample = 0) && subMillisecondDns.contains metric.metricId)) &&
      !shortfalls.any fun entry => entry.metricId == metric.metricId).map (·.metricId)

/-! ### Receipts -/

def receiptsConfirmSuccess (plan : ExperimentPlan) (cell : ExperimentCell)
    (execution : Option ExecutionReceipt) (cleanup : Option CleanupReceipt)
    (artifact : Option ProviderArtifactEvidence) : Bool :=
  match execution, cleanup with
  | some execution, some cleanup =>
    execution.runId == plan.id && execution.provider == cell.provider &&
      execution.suite == cell.suite && execution.replicateIndex == some cell.replicate &&
      cleanup.executionId == execution.executionId && cleanup.completed && cleanup.confirmedAbsent &&
      execution.primaryFailure == none && execution.steps.any (fun step => step.phase == .benchmark) &&
      execution.steps.any (fun step => step.phase == .collect) &&
      (finalAttempts id execution.steps).all stepAccepted &&
      (finalAttempts DetachedStep.toExecutionStep execution.detached).all (fun step =>
        step.state == .completed && stepAccepted step.toExecutionStep) &&
      (artifact.map (·.sandboxId)) == some execution.sandboxId
  | _, _ => false

/-- A gap that no partial publication of the suite may carry. -/
def breaksSuite (cell : ExperimentCell) (gap : ResultGap) : Bool :=
  if gap.scope ≠ .suite ∨ gap.id ≠ cell.suite then true
  else match gap.cause with
    | some (.metricsUnrecorded _ _) => false
    | _ => true

/-- A gap that is more than the metrics the plan excludes. -/
def breaksCell (excludedMetrics : List String) (gap : ResultGap) : Bool :=
  match gap.cause with
  | some (.metricsUnrecorded metricIds _) => metricIds.any fun id => !excludedMetrics.contains id
  | _ => true

/-- Everything that must hold before the artifact is digested. -/
def attestedBy (cell : ExperimentCell) (selected : AttemptWithRun) (run : Run)
    (artifact : ProviderArtifactEvidence) : Bool :=
  let evidence := selected.evidence
  evidence.outcome == .completed && evidence.completion == .knownSuccess &&
    evidence.measurementStarted && evidence.cleanup == .confirmed && evidence.rawDigest.isSome &&
    run.providers.all (fun entry => entry.providerId == cell.provider || providerReportedNothing entry) &&
    (artifact.provenance.requested == .none || artifactVerified artifact)

/-- `measurementVerified` -/
def measurementVerified (cell : ExperimentCell) (confirmed : Bool) (selected : Option AttemptWithRun)
    (provider : Option ProviderRun) (artifact : Option ProviderArtifactEvidence) : Except String Bool :=
  match selected, selected.bind (·.run), provider, artifact with
  | some selected, some run, some provider, some artifact =>
    if confirmed && attestedBy cell selected run artifact then do
      let digest ← evidenceDigest runtime (effectiveArtifact artifact.provenance).toJson
      return digest == cell.artifactIdentity && run.replicateIndex == some cell.replicate &&
        provider.suitesCovered.contains cell.suite && !provider.gaps.any (breaksSuite cell)
    else return false
  | _, _, _, _ => return false

/-! ### Cells -/

/-- What the loop over the cells adds to the report. -/
structure CellOutcome where
  cell : CoverageCell
  conflicts : List String
  selected : Option String
deriving DecidableEq, Repr

def statusOf (selected : Option AttemptWithRun) (complete : Bool) : CellStatus :=
  match selected with
  | none => .missing
  | some attempt =>
    if complete then .complete
    else if attempt.evidence.outcome = .cancelled then .cancelled
    else .failed

def ExperimentCell.eligibleMetrics (cell : ExperimentCell) : List String :=
  cell.metrics.filter fun id => !cell.excludes id

/-- A cell with work to do. -/
def evaluateEligible (plan : ExperimentPlan) (cell : ExperimentCell) (lineage : List AttemptWithRun) :
    Except String CellOutcome := do
  let excludedMetrics := cell.exclusions.map (·.metricId)
  let eligible := ExperimentCell.eligibleMetrics cell
  let valid := validLineage plan lineage
  let selected := lineage.getLast?
  let provider := (selected.bind (·.run)).bind fun run =>
    run.providers.find? fun entry => entry.providerId == cell.provider
  let artifact := (provider.bind (·.artifactEvidence)).bind fun records =>
    records.find? fun entry => entry.cell.suite == cell.suite &&
      entry.cell.replicateIndex == some cell.replicate
  let metrics := (provider.map (·.metrics)).getD []
  let shortfalls := passShortfalls catalog cell eligible (selected.bind (·.ptsTrials)) metrics
  let recorded := measured shortfalls metrics
  let missingMetrics := eligible.filter fun id => !recorded.contains id
  let execution := selected.bind (·.execution)
  throwIf (execution.all executionReceiptSchema = false) "executionReceiptSchema"
  let cleanup := selected.bind (·.cleanup)
  throwIf (cleanup.all (cleanupReceiptSchema catalog.toClock) = false) "cleanupReceiptSchema"
  let confirmed := receiptsConfirmSuccess plan cell execution cleanup artifact
  let verified ← measurementVerified runtime cell confirmed selected provider artifact
  let completed := verified && missingMetrics.isEmpty &&
    provider.any fun row => !row.gaps.any (breaksCell excludedMetrics)
  let status := statusOf selected (completed && valid)
  let attemptId := selected.map (·.evidence.id)
  return {
    cell :=
      { id := cell.id
        status := status
        missingMetrics := missingMetrics
        excludedMetrics := excludedMetrics
        attemptId := attemptId
        retainedMetrics := some (if verified && valid then
          eligible.filter fun id => recorded.contains id else [])
        passShortfalls := if shortfalls.isEmpty then none else some shortfalls }
    conflicts := lineIf (!valid) s!"unauthorized retry lineage: {cell.id}"
    selected := if status = .complete then attemptId else none }

def evaluateCell (plan : ExperimentPlan) (attempts : List AttemptWithRun) (cell : ExperimentCell) :
    Except String CellOutcome :=
  let lineage := lineageOf runtime attempts cell
  if ExperimentCell.eligibleMetrics cell = [] then
    return {
      cell := ⟨cell.id, .excluded, [], cell.exclusions.map (·.metricId), none, none, none⟩
      conflicts := lineIf (!lineage.isEmpty) s!"unexpected execution of excluded cell: {cell.id}"
      selected := none }
  else evaluateEligible runtime catalog plan cell lineage

/-- Artifact order never selects a sample. -/
def evaluateExperiment (input : ExperimentPlan) (attempts : List AttemptWithRun) :
    Except String CoverageReport := do
  let plan ← verifyExperimentPlan runtime catalog.toRegistry input
  let seen ← (byLocale runtime (·.evidence.id) attempts).foldlM (checkAttempt runtime catalog plan)
    ([], [])
  let outcomes ← plan.cells.mapM (evaluateCell runtime catalog plan attempts)
  let cells := outcomes.map (·.cell)
  let conflicts := seen.2 ++ outcomes.flatMap (·.conflicts)
  return {
    planDigest := plan.digest
    complete := conflicts.isEmpty && cells.all CoverageCell.settled
    selectedAttempts := outcomes.filterMap (·.selected)
    cells := cells
    conflicts := conflicts }

end

end EvaluateExperiment
