import SandboxBenchmarks.PlanExperiment
import SandboxBenchmarks.PublishExperiment

/-!
# Repairing an experiment

`planExperimentRepair` of `apps/cli/src/lib/experiment-repair.ts`, and
`repairAttemptsDigest`, `repairableCoverage`, `verifyUnstartedBatches` and
`aggregateRepairedExperiment` of `packages/results/src/lib/experiment.ts`.
-/

namespace RepairExperiment

open Aggregate CanonicalJson Checks EvaluateExperiment ExperimentRecords JsonText PlanExperiment
  PlanVerification PublishExperiment RunModel

/-- Nothing is wrong with the evidence but that cells are missing. -/
def repairable (blocker : String) : Bool :=
  "missing attempts:".toList.isPrefixOf blocker.toList || blocker == "no verified measurements"

def attemptJson (attempt : AttemptWithRun) : Value :=
  .obj ([("evidence", attempt.evidence.toJson)] ++
    optionalField "cleanupRecovery" (attempt.cleanupRecovery.map recoveryJson))

/-- The cells a repair is for. -/
def repairTargets (coverage : CoverageReport) : List CoverageCell :=
  coverage.cells.filter fun cell => !cell.settled

/-- What an operator gives for a repair. -/
structure RepairIdentity where
  run : String
  operator : String
  reason : String
  createdOn : String
deriving DecidableEq, Repr

/-- `Object.fromEntries(source.accounts.map((a) => [a.quotaDomain, a]))` -/
def accountPolicy (source : ExperimentPlan) : List (String × AccountCapacity) :=
  Keyed.mapOf (source.accounts.map fun account =>
    (account.quotaDomain, ⟨account.sandboxes, account.vcpus, account.memoryGb, account.gpus,
      [("quotaDomain", .str account.quotaDomain)]⟩))

/-- The request for the cells of a repair alone. -/
def repairRequest (source : ExperimentPlan) (targets : List CoverageCell)
    (identity : RepairIdentity) : PlanRequest where
  id := identity.run
  sha := source.sha
  createdOn := identity.createdOn
  cells := source.cells.filter fun cell => (targets.map (·.id)).contains cell.id
  maxPremeasurementRetries := none

/-- The manifest, but for its digest. -/
def manifestOf (source plan : ExperimentPlan) (sourceAttemptsDigest : String)
    (targets : List CoverageCell) (identity : RepairIdentity) (digest : String) :
    ExperimentRepair where
  sourceRun := source.id
  sourceSha := source.sha
  sourcePlanDigest := source.digest
  sourceAttemptsDigest := sourceAttemptsDigest
  recoveryRun := plan.id
  recoveryPlanDigest := plan.digest
  operator := identity.operator
  reason := identity.reason
  -- An empty id is no previous attempt.
  cells := targets.map fun cell => ⟨cell.id, cell.attemptId.filter nonempty⟩
  digest := digest

section
variable (runtime : Runtime) (catalog : Catalog)

/-- Original terminal receipts and later attestations, without depending on download order. -/
def repairAttemptsDigest (attempts : List AttemptWithRun) : Except String String :=
  evidenceDigest runtime (.arr ((byLocale runtime (·.evidence.id) attempts).map attemptJson))

/-- Missing cells may be repaired; conflicting evidence or unresolved ownership may not. -/
def repairableCoverage (plan : ExperimentPlan) (attempts : List AttemptWithRun) :
    Except String CoverageReport := do
  let result ← aggregateExperiment runtime catalog plan attempts true
  let blockers := (result.publicationBlockers.getD []).filter fun b => !repairable b
  let names := "; ".intercalate blockers
  throwIf (blockers ≠ []) s!"repair blocked: {names}"
  return result.coverage

/-! ### Planning -/

def planExperimentRepair (source : ExperimentPlan) (attempts : List AttemptWithRun)
    (identity : RepairIdentity) : Except String (ExperimentPlan × ExperimentRepair) := do
  let coverage ← repairableCoverage runtime catalog source attempts
  let cells := repairTargets coverage
  throwIf (cells = []) "experiment has no failed or missing cells to repair"
  throwIf (source.id = identity.run) "repair requires a new workflow run"
  let plan ← planExperiment runtime catalog.toRegistry (accountPolicy source)
    (repairRequest source cells identity)
  let sourceAttemptsDigest ← repairAttemptsDigest runtime attempts
  let manifest := manifestOf source plan sourceAttemptsDigest cells identity
  let digest ← evidenceDigest runtime (manifest "").body
  throwIf (experimentRepairSchema (manifest digest) = false) "experimentRepairSchema"
  return (plan, manifest digest)

/-! ### Batches that never started -/

def waveName (batch : ExperimentBatch) : String :=
  match batch.wave with
  | some .syntheticMemory => "memory"
  | some .syntheticSystem => "system"
  | _ => "realworld"

/-- The job of a batch: one suite is named by itself, several by their wave. -/
def expectedJob (batch : ExperimentBatch) (planned : List ExperimentCell) : String :=
  let suite := match Keyed.setOf (planned.map (·.suite)) with
    | [suite] => suite
    | _ => (batch.wave.map BenchmarkWave.text).getD "undefined"
  let wave := waveName batch
  s!"retry-{wave} (vercel, [\"vercel\"], {suite}, {batch.id}) / vercel"

/-- The sole allocation step was skipped after a failed authentication. -/
def failedPrerequisite (steps : List UnstartedStep) : Bool :=
  match steps.filter (fun s => s.name == "Run suite and normalize"),
      steps.filter (fun s => s.name == "Authenticate with Vercel") with
  | [executor], [auth] =>
    executor.conclusion == "skipped" && auth.conclusion == "failure" && auth.number < executor.number
  | _, _ => false

/-- One receipt, after the batches and cells of those before. -/
def verifyUnstartedBatch (plan : ExperimentPlan) (attempts : List AttemptWithRun) (operator : String)
    (seen : List String × List String) (receipt : UnstartedBatch) :
    Except String (List String × List String) := do
  throwIf (unstartedBatchSchema catalog.toClock receipt = false) "unstartedBatchSchema"
  let error := "unstarted batch lacks verified pre-execution failure provenance"
  let batch ← require (plan.batches.find? fun b => b.id == receipt.batchId) error
  let planned := plan.cells.filter fun cell => batch.cells.contains cell.id
  throwIf (planned = [] ∨ batch.id ∈ seen.1 ∨
    receipt.workflow.headSha ≠ unstartedBatchWorkflowRevision) error
  let named ← evidenceDigest runtime (strings receipt.cellIds)
  let batched ← evidenceDigest runtime (strings batch.cells)
  throwIf (named ≠ batched ∨
    planned.any (fun cell => cell.provider != "vercel" || cell.quotaDomain != "vercel") = true ∨
    receipt.planDigest ≠ plan.digest ∨ receipt.sourceSha ≠ plan.sha ∨
    plan.sha ≠ unstartedBatchSourceRevision ∨ toString receipt.workflow.id ≠ plan.id ∨
    receipt.job.runId ≠ receipt.workflow.id ∨
    receipt.job.runAttempt ≠ receipt.workflow.runAttempt ∨
    receipt.job.headSha ≠ receipt.workflow.headSha ∨
    receipt.job.name ≠ expectedJob batch planned ∨ receipt.operator ≠ operator ∨
    receipt.workflow.actorLogin ≠ operator) error
  let none ← evidenceDigest runtime (.arr [])
  throwIf (receipt.recordsDigest ≠ none) error
  let digest ← evidenceDigest runtime receipt.body
  throwIf (digest ≠ receipt.digest ∨ failedPrerequisite receipt.job.steps = false ∨
    ¬ (receipt.job.steps.map (·.number)).Nodup ∨
    attempts.any (fun attempt => batch.cells.contains attempt.evidence.cellId) = true) error
  return (seen.1 ++ [batch.id], seen.2 ++ batch.cells)

/-- Only a verified failed prerequisite qualifies; the cells of such batches. -/
def verifyUnstartedBatches (plan : ExperimentPlan) (attempts : List AttemptWithRun)
    (receipts : List UnstartedBatch) (operator : String) : Except String (List String) :=
  Prod.snd <$> receipts.foldlM (verifyUnstartedBatch runtime catalog plan attempts operator) ([], [])

/-! ### Replacing the cells -/

/-- One target of the loop: bound by the manifest, and the same cell in both plans. -/
def checkTarget (source recovery : ExperimentPlan) (repair : ExperimentRepair)
    (target : CoverageCell) : Except String Unit := do
  let error := s!"repair changes cell execution policy: {target.id}"
  let binding ← require (repair.cells.find? fun c => c.id == target.id) error
  throwIf (binding.previousAttempt ≠ target.attemptId) error
  let cell ← require (source.cells.find? fun c => c.id == target.id) error
  let next ← require (recovery.cells.find? fun c => c.id == target.id) error
  let before ← evidenceDigest runtime cell.toJson
  let after ← evidenceDigest runtime next.toJson
  throwIf (before ≠ after) error

/-- What `aggregateRepairedExperiment` checks before it looks at a replacement. -/
def verifySelection (source : ExperimentPlan) (originals : List AttemptWithRun)
    (recovery : ExperimentPlan) (repair : ExperimentRepair) : Except String CoverageReport := do
  throwIf (experimentRepairSchema repair = false) "experimentRepairSchema"
  let digest ← evidenceDigest runtime repair.body
  throwIf (digest ≠ repair.digest) "repair manifest digest mismatch"
  let _ ← verifyExperimentPlan runtime catalog.toRegistry source
  let _ ← verifyExperimentPlan runtime catalog.toRegistry recovery
  let originalCoverage ← repairableCoverage runtime catalog source originals
  let targets := repairTargets originalCoverage
  let error := "repair source or frozen selection mismatch"
  throwIf (repair.sourceRun ≠ source.id ∨ repair.sourceSha ≠ source.sha ∨
    repair.sourcePlanDigest ≠ source.digest) error
  let sourceAttemptsDigest ← repairAttemptsDigest runtime originals
  throwIf (repair.sourceAttemptsDigest ≠ sourceAttemptsDigest ∨ repair.recoveryRun ≠ recovery.id ∨
    repair.recoveryPlanDigest ≠ recovery.digest ∨ source.id = recovery.id ∨
    source.sha ≠ recovery.sha ∨ repair.cells.length ≠ targets.length ∨
    recovery.cells.length ≠ targets.length ∨
    (Keyed.setOf (repair.cells.map (·.id))).length ≠ targets.length) error
  forM targets (checkTarget runtime source recovery repair)
  return originalCoverage

/-- The coverage of a repaired experiment: every target as its replacement left it. -/
def repairedCell (replaced : List String) (recovered : CoverageReport) (cell : CoverageCell) :
    Except String CoverageCell :=
  if replaced.contains cell.id then
    require (recovered.cells.find? fun n => n.id == cell.id)
      s!"recovery coverage missing cell: {cell.id}"
  else return cell

def repairedCoverage (source : ExperimentPlan) (cells : List CoverageCell) : CoverageReport where
  planDigest := source.digest
  complete := cells.all CoverageCell.settled
  selectedAttempts := (cells.filter fun c => c.status == .complete).filterMap (·.attemptId)
  cells := cells
  conflicts := []

/-- A blocker of the recovery that does not stop a publication of the repair. -/
def repairAllows (unstarted : List String) (recovered : CoverageReport) (blocker : String) : Bool :=
  blocker == "no verified measurements" ||
    ("missing attempts:".toList.isPrefixOf blocker.toList &&
      (recovered.cells.filter fun c => c.status == .missing).all fun c => unstarted.contains c.id)

structure RepairOptions where
  allowPartial : Bool
  unstartedBatches : List UnstartedBatch

/-- Every frozen target is replaced as a whole cell, even on failure. -/
def replaceTargets (source : ExperimentPlan) (originals : List AttemptWithRun)
    (recovery : ExperimentPlan) (replacements : List AttemptWithRun) (repair : ExperimentRepair)
    (options : RepairOptions) (originalCoverage : CoverageReport) :
    Except String ExperimentAggregation := do
  let unstarted ← verifyUnstartedBatches runtime catalog recovery replacements
    options.unstartedBatches repair.operator
  let result ← aggregateExperiment runtime catalog recovery replacements true
  let blockers := (result.publicationBlockers.getD []).filter fun b =>
    !repairAllows unstarted result.coverage b
  if blockers ≠ [] then return ⟨result.coverage, some blockers, none⟩
  else do
    let replaced := repair.cells.map (·.id)
    let cells ← originalCoverage.cells.mapM (repairedCell replaced result.coverage)
    let coverage := repairedCoverage source cells
    let selected := (originals.filter fun a => !replaced.contains a.evidence.cellId) ++ replacements
    let finalBlockers := partialPublicationBlockers coverage selected unstarted
    if finalBlockers ≠ [] ∨ (coverage.complete = false ∧ options.allowPartial = false) then
      return ⟨coverage, some finalBlockers, none⟩
    else
      renderExperiment runtime catalog source selected coverage (!coverage.complete) (some repair)
        options.unstartedBatches

/-- Each source is verified independently. -/
def aggregateRepairedExperiment (source : ExperimentPlan) (originals : List AttemptWithRun)
    (recovery : ExperimentPlan) (replacements : List AttemptWithRun) (repair : ExperimentRepair)
    (options : RepairOptions) : Except String ExperimentAggregation := do
  let originalCoverage ← verifySelection runtime catalog source originals recovery repair
  replaceTargets runtime catalog source originals recovery replacements repair options originalCoverage

end

end RepairExperiment
