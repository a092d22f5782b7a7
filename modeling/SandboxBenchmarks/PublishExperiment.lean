import SandboxBenchmarks.CleanupRecovery
import SandboxBenchmarks.EvaluateExperiment

/-!
# Publishing an experiment

`aggregateExperiment`, `renderExperiment` and `partialPublicationBlockers` of
`packages/results/src/lib/experiment.ts`.
-/

namespace PublishExperiment

open Aggregate CanonicalJson Checks CodeUnits EvaluateExperiment ExperimentRecords JsonText
  PlanVerification RunModel RunSchema

structure ExperimentAggregation where
  coverage : CoverageReport
  /-- Why an incomplete experiment cannot be published even partially. -/
  publicationBlockers : Option (List String)
  run : Option Run

/-- The attempt as the account tools read it: of the shard, only whether it is there. -/
def recorded (attempt : AttemptWithRun) : AccountRecovery.AttemptWithRun where
  evidence := attempt.evidence
  execution := attempt.execution
  cleanup := attempt.cleanup
  cleanupRecovery := attempt.cleanupRecovery
  allocation := attempt.allocation
  run := attempt.run.isSome

/-! ### Blockers -/

/-- A stopped admission never enters the harness, so its terminal receipt has no shard Run. -/
def isUnallocatedFailureWithoutRun (attempt : AttemptWithRun) : Bool :=
  let evidence := attempt.evidence
  attempt.run.isNone && evidence.runDigest.isNone && evidence.outcome == .failed &&
    !evidence.measurementStarted && evidence.completion != .knownSuccess &&
    evidence.cleanup == .notAllocated && attempt.execution.isNone && attempt.cleanup.isNone

def attemptBlockers (attempt : AttemptWithRun) : List String :=
  let evidence := attempt.evidence
  lineIf (attempt.run.isNone && !isUnallocatedFailureWithoutRun attempt) s!"missing Run: {evidence.id}" ++
    lineIf evidence.rawDigest.isNone s!"missing raw digest: {evidence.id}" ++
    lineIf (evidence.cleanup == .unresolved && attempt.cleanupRecovery.isNone)
      s!"unresolved cleanup: {evidence.id}"

/-- Partial publication relaxes metric completeness only. -/
def partialPublicationBlockers (coverage : CoverageReport) (attempts : List AttemptWithRun)
    (unstarted : List String) : List String :=
  let missing := (coverage.cells.filter fun cell =>
    cell.status == .missing && !unstarted.contains cell.id).length
  lineIf (!coverage.conflicts.isEmpty)
      s!"conflicting evidence: {coverage.conflicts.length} conflict(s)" ++
    lineIf (decide (0 < missing)) s!"missing attempts: {missing} cell(s)" ++
    attempts.flatMap attemptBlockers ++
    lineIf (!coverage.cells.any fun cell => !(cell.retainedMetrics.getD []).isEmpty)
      "no verified measurements"

/-! ### The Run -/

def cellOf (plan : ExperimentPlan) (evidence : ExperimentAttempt) : Option ExperimentCell :=
  plan.cells.find? fun entry => entry.id == evidence.cellId

/-- The metrics of a shard that are published. -/
def publishedMetrics (coverage : CoverageReport) (partly : Bool) (cell : Option ExperimentCell)
    (evidence : ExperimentAttempt) : List String :=
  if partly then
    ((coverage.cells.find? fun entry => entry.id == evidence.cellId).bind (·.retainedMetrics)).getD []
  else (cell.map ExperimentCell.eligibleMetrics).getD []

def omittedMetrics (eligible : List String) (cell : Option ExperimentCell) : List String :=
  match cell with
  | none => []
  | some cell => (ExperimentCell.eligibleMetrics cell).filter fun id => !eligible.contains id

/-- The gap that a withheld measurement leaves. -/
def withheld (partly ours : Bool) (cell : Option ExperimentCell) (omitted : List String) :
    List ResultGap :=
  match cell with
  | some cell =>
    if partly && ours && !omitted.isEmpty then
      let names := ", ".intercalate omitted
      [⟨.suite, cell.suite, .failed,
        s!"Partial publication withheld unverified measurements: {names}", none⟩]
    else []
  | none => []

def publishRow (plan : ExperimentPlan) (partly : Bool) (cell : Option ExperimentCell)
    (eligible omitted : List String) (row : ProviderRun) : ProviderRun :=
  let ours := cell.any fun cell => row.providerId == cell.provider
  let relabel (cell : ProviderCostCell) : ProviderCostCell := { cell with runId := plan.id }
  { row with
    costEvidence := row.costEvidence.map fun records =>
      records.map fun e => { e with cell := relabel e.cell }
    artifactEvidence := row.artifactEvidence.map fun records =>
      records.map fun e => { e with cell := relabel e.cell }
    metrics := if ours then row.metrics.filter fun metric => eligible.contains metric.metricId else []
    validationStatus :=
      if ours && row.metrics.any fun metric => eligible.contains metric.metricId then .validated
      else .pending
    gaps := row.gaps ++ withheld partly ours cell omitted }

/-- The shard of a selected attempt, cut down to what is published. -/
def publishShard (plan : ExperimentPlan) (coverage : CoverageReport) (partly : Bool)
    (attempt : AttemptWithRun) : Except String Run := do
  let error := "experiment publication requires artifact-attributed shards"
  let run ← require attempt.run error
  throwIf (run.schemaVersion < 6) error
  let cell := cellOf plan attempt.evidence
  let eligible := publishedMetrics coverage partly cell attempt.evidence
  return { run with
    runId := plan.id
    providers := run.providers.map
      (publishRow plan partly cell eligible (omittedMetrics eligible cell)) }

def emptyRow (providerId : String) : ProviderRun where
  providerId := providerId
  costEvidence := some []
  artifactEvidence := some []
  validationStatus := .pending
  specMatched := none
  observedSpecs := []
  observedMixtures := none
  hostMetadata := none
  metrics := []
  suitesCovered := []
  gaps := []
  uncatalogued := []

def admissionFailure : String :=
  "Admission failed before allocation; no measurements were produced."

/-- A failure that never produced a Run, as a gap of its provider. -/
def recordFailure (plan : ExperimentPlan) (rows : List ProviderRun) (attempt : AttemptWithRun) :
    Except String (List ProviderRun) := do
  let evidence := attempt.evidence
  let cell ← require (cellOf plan evidence) s!"attempt cell missing from plan: {evidence.cellId}"
  let rows := if rows.any fun row => row.providerId == cell.provider then rows
    else rows ++ [emptyRow cell.provider]
  let diagnostic := evidence.diagnostic.getD admissionFailure
  let gap : ResultGap := ⟨.suite, cell.suite, .failed, s!"{cell.id}: {diagnostic}", none⟩
  return rows.modify (rows.findIdx fun row => row.providerId == cell.provider)
    fun row => { row with gaps := row.gaps ++ [gap] }

def cohortJson (cell : ExperimentCell) : Value :=
  .obj [("suite", .str cell.suite), ("target", cell.target.toJson),
    ("workloadRevision", .str cell.workloadRevision),
    ("environmentRevision", .str cell.environmentRevision), ("passes", natural cell.passes),
    ("metrics", strings (sorted (ExperimentCell.eligibleMetrics cell)))]

def publishedCell (plan : ExperimentPlan) (cell : CoverageCell) : Except String PublishedCell := do
  let planned ← require (plan.cells.find? fun entry => entry.id == cell.id)
    s!"coverage cell missing from plan: {cell.id}"
  return {
    id := cell.id
    provider := planned.provider
    suite := planned.suite
    replicate := planned.replicate
    attemptId := cell.attemptId
    status := cell.status
    plannedMetrics := planned.metrics
    passes := planned.passes
    missingMetrics := cell.missingMetrics
    excludedMetrics := cell.excludedMetrics
    retainedMetrics := cell.retainedMetrics.getD []
    passShortfalls := cell.passShortfalls }

def partialCoverage (plan : ExperimentPlan) (coverage : CoverageReport) :
    Except String PartialCoverage := do
  let cells ← coverage.cells.mapM (publishedCell plan)
  return {
    planned := plan.cells.length
    complete := (coverage.cells.filter fun cell => cell.status == .complete).length
    incomplete := (coverage.cells.filter fun cell => !cell.settled).length
    excluded := (coverage.cells.filter fun cell => cell.status == .excluded).length
    cells := cells }

section
variable (runtime : Runtime) (catalog : Catalog)

/-- One comparison cohort per suite, that of its last cell. -/
def cohortsJson (plan : ExperimentPlan) : Value :=
  .arr ((byLocale runtime Prod.fst (Keyed.mapOf (plan.cells.map fun cell =>
    (cell.suite, cohortJson cell)))).map Prod.snd)

def selectedIds (coverage : CoverageReport) (partly : Bool) : List String :=
  if partly then coverage.cells.filterMap (·.attemptId) else coverage.selectedAttempts

def selectedAttempts (attempts : List AttemptWithRun) (coverage : CoverageReport) (partly : Bool) :
    List AttemptWithRun :=
  byLocale runtime (·.evidence.cellId) (attempts.filter fun attempt =>
    (selectedIds coverage partly).contains attempt.evidence.id)

def renderExperiment (plan : ExperimentPlan) (attempts : List AttemptWithRun)
    (coverage : CoverageReport) (partly : Bool) (repair : Option ExperimentRepair)
    (unstartedBatches : List UnstartedBatch) : Except String ExperimentAggregation := do
  let selected := selectedAttempts runtime attempts coverage partly
  let runs ← (selected.filter fun attempt => !(partly && isUnallocatedFailureWithoutRun attempt)).mapM
    (publishShard plan coverage partly)
  let merged ← aggregateRuns runtime catalog runs
  let rows ← (selected.filter isUnallocatedFailureWithoutRun).foldlM (recordFailure plan)
    merged.providers
  let cohortDigest ← evidenceDigest runtime (cohortsJson runtime plan)
  let partialCoverage ← if partly then some <$> partialCoverage plan coverage else pure none
  let recoveries := selected.filterMap (·.cleanupRecovery)
  let run ← parseRun catalog { merged with
    schemaVersion := if partly then 8 else 7
    providers := byLocale runtime (·.providerId) rows
    experiment := some
      { planDigest := plan.digest
        cohortDigest := some cohortDigest
        attemptIds := selectedIds coverage partly
        cleanupRecoveries := if recoveries.isEmpty then none
          else some (byLocale runtime (·.attemptId) recoveries)
        repair := repair
        unstartedBatches := if unstartedBatches.isEmpty then none else some unstartedBatches
        partialCoverage := partialCoverage } }
  return ⟨coverage, none, some run⟩

/-! ### The aggregation -/

/-- An execution of the original experiment in the sandbox an observation names as its anchor. -/
def anchors (plan : ExperimentPlan) (anchorSandboxId : String) (attempt : AttemptWithRun) : Bool :=
  attempt.evidence.planDigest == plan.digest && attempt.evidence.sha == plan.sha &&
    attempt.execution.any fun execution =>
      execution.provider == "modal-gvisor" && execution.sandboxId == anchorSandboxId

def unanchored (plan : ExperimentPlan) (attempts : List AttemptWithRun) (attempt : AttemptWithRun) :
    Bool :=
  match attempt.cleanupRecovery with
  | none => false
  | some recovery =>
    match recovery.observation with
    | .modalApp _ anchorSandboxId _ => !attempts.any (anchors plan anchorSandboxId)
    | _ => false

def checkRecovery (plan : ExperimentPlan) (attempts : List AttemptWithRun) (attempt : AttemptWithRun) :
    Except String Unit := do
  if attempt.cleanupRecovery.isSome then
    CleanupRecovery.verifyCleanupRecovery runtime catalog.toClock plan (recorded attempt)
  throwIf (unanchored plan attempts attempt = true)
    "Modal cleanup recovery anchor is missing from original experiment evidence"

def aggregateExperiment (plan : ExperimentPlan) (attempts : List AttemptWithRun)
    (allowPartial : Bool) : Except String ExperimentAggregation := do
  let coverage ← evaluateExperiment runtime catalog plan attempts
  forM attempts (checkRecovery runtime catalog plan attempts)
  let partly := !coverage.complete && allowPartial
  let blockers := partialPublicationBlockers coverage attempts []
  if coverage.complete = false ∧ (partly = false ∨ blockers ≠ []) then
    return ⟨coverage, if blockers.isEmpty then none else some blockers, none⟩
  else renderExperiment runtime catalog plan attempts coverage partly none []

end

end PublishExperiment
