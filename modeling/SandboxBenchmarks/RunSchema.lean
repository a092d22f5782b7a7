import SandboxBenchmarks.RunModel

/-!
# The Run schema

The cross-field rules of `packages/schema/src/run.ts`: `parseRun` returns a Run
unchanged or says what it must be. The digest pattern of `cohortDigest` is what
`evidenceDigest` prints, and is not checked again.
-/

namespace RunSchema

open AccountJournal CanonicalJson Checks ExperimentRecords JsonText PlanVerification RunModel

/-! ### Metrics -/

def ascending (samples : List ℚ) : List ℚ := samples.insertionSort (· ≤ ·)

def checkReplicate (indices : List Nat) (replicate : MetricReplicate) :
    Except String (List Nat) := do
  throwIf (replicate.index ∈ indices) "a MetricResult whose replicate indices are distinct"
  throwIf (replicate.ptsSampleSource = some .aggregateValue ∧
      replicate.samples.values.length ≠ 1)
    "one aggregate Value sample per PTS aggregate-only replicate"
  return Keyed.add indices replicate.index

/-- The breakdown of a Metric over at least two sandboxes. -/
def checkReplicates (metric : MetricResult) (replicates : List MetricReplicate) :
    Except String Unit := do
  throwIf (replicates.length < 2)
    "a MetricResult whose replicates hold at least two sandboxes (or omit them)"
  let _ ← replicates.foldlM checkReplicate []
  let pooled := replicates.flatMap (·.samples.values)
  throwIf (pooled.length ≠ metric.samples.values.length)
    "a MetricResult whose pooled samples count equals the sum of its replicates"
  throwIf (ascending pooled ≠ ascending metric.samples.values)
    "a MetricResult whose pooled samples are the union of its replicate samples"

def metricResultSchema (metric : MetricResult) : Except String Unit := do
  throwIf (metric.aggregates.n ≠ metric.samples.values.length)
    "a MetricResult whose aggregates.n equals samples.length"
  throwIf (metric.ptsSampleSource = some .aggregateValue ∧ metric.samples.values.length ≠ 1)
    "one aggregate Value sample when PTS trial samples are unavailable"
  throwIf (metric.ptsSampleSource ≠ none ∧ (metric.derived = true ∨ metric.replicates ≠ none))
    "PTS sample origin on a measured metric or on its individual replicates"
  throwIf (metric.derived = true ∧ metric.replicates ≠ none)
    "a derived MetricResult without a replicate breakdown"
  throwIf (metric.replicates ≠ none ∧
      (metric.ids.hostHardwareId ≠ none ∨ metric.ids.hostNetworkId ≠ none))
    "a MetricResult whose host attribution is per-replicate when it has a replicate breakdown"
  match metric.replicates with
  | none => return ()
  | some replicates => checkReplicates metric replicates

/-! ### Mixtures and gaps -/

/-- Only declared fields of the category, and at least one of them. -/
def mixtureSpecs (keys : List String) (specs : ObservedSpecs) : Bool :=
  specs.all (fun entry => keys.contains entry.1) && ! specs.isEmpty

def observedMixturesSchema (mixtures : ObservedMixtures) : Except String Unit := do
  throwIf ((mixtures.hostHardware.all (fun entry =>
      decide (1 ≤ entry.2.count) && mixtureSpecs hostHardwareSpecKeys entry.2.specs)) = false)
    "a mixture whose specs disclose at least one field"
  throwIf ((mixtures.hostNetwork.all (fun entry =>
      decide (1 ≤ entry.2.count) && mixtureSpecs hostNetworkSpecKeys entry.2.specs)) = false)
    "a mixture whose specs disclose at least one field"
  throwIf (mixtures.sandboxes < 1) "observedMixtures.sandboxes"
  let hardware := (mixtures.hostHardware.map (·.2.count)).sum
  throwIf (hardware > mixtures.sandboxes)
    s!"ObservedMixtures whose hostHardware counts sum to at most sandboxes (got {hardware} of {mixtures.sandboxes})"
  let network := (mixtures.hostNetwork.map (·.2.count)).sum
  throwIf (network > mixtures.sandboxes)
    s!"ObservedMixtures whose hostNetwork counts sum to at most sandboxes (got {network} of {mixtures.sandboxes})"

/-- The numbers of a cause agree with its meaning. -/
def checkCause : GapCause → Except String Unit
  | .diskShortfall freeGb requiredGb =>
    throwIf (requiredGb ≤ freeGb) "a disk shortfall whose freeGb is below requiredGb"
  | .stepFailed _ exitCode =>
    throwIf (exitCode = some 0) "a failed step whose exitCode is non-zero"
  | .metricsUnrecorded metricIds declared =>
    throwIf (declared < metricIds.length)
      "unrecorded metrics that are a subset of the declared ones"
  | _ => return ()

def resultGapSchema (gap : ResultGap) : Except String Unit :=
  match gap.cause with
  | none => return ()
  | some cause => do
    throwIf (gapCauseSchema cause = false) "gapCauseSchema"
    checkCause cause
    throwIf (gapOutcomeOfCause cause ≠ gap.outcome)
      s!"a {gap.outcome.text} gap whose cause describes one (got \"{cause.kind}\", a {(gapOutcomeOfCause cause).text} cause)"
    throwIf (cause.kind = "unsupported-operation" ∧ gap.scope ≠ .operation)
      "an operation-scoped gap when its cause is \"unsupported-operation\""

/-! ### Evidence records -/

def retiredProviderIds : List String := ["runloop"]

/-- `/^[A-Za-z0-9][A-Za-z0-9._+-]*$/` -/
def runIdSchema (s : String) : Bool :=
  match s.toList with
  | [] => false
  | c :: rest =>
    c.isAlphanum && rest.all (fun c => c.isAlphanum || c == '.' || c == '_' || c == '+' || c == '-')

def providerCostCellSchema (cell : ProviderCostCell) : Bool :=
  runIdSchema cell.runId &&
    (providerIds.contains cell.providerId || retiredProviderIds.contains cell.providerId) &&
    (suites.map Prod.fst).contains cell.suite

def providerCostEvidenceSchema (record : ProviderCostEvidence) : Except String Unit := do
  throwIf (providerCostCellSchema record.cell = false) "providerCostCellSchema"
  throwIf (record.kind = .observed ∧ record.subject.sandboxId = none)
    "sandbox-scoped observed evidence with a sandboxId"

/-- A report differs from the request neither in kind nor in reference. -/
def artifactProvenanceSchema (provenance : ArtifactProvenance) : Except String Unit :=
  match provenance.reported with
  | none => return ()
  | some reported => do
    throwIf (reported.kind ≠ provenance.requested.kind)
      s!"a driver-reported artifact whose kind matches the request (requested {provenance.requested.kind}, reported {reported.kind})"
    let requestedRef := provenance.requested.ref.getD ""
    let reportedRef := reported.ref.getD ""
    throwIf (provenance.requested.ref ≠ reported.ref)
      s!"a driver-reported artifact whose ref matches the request (requested {requestedRef}, reported {reportedRef})"

section
variable (catalog : Catalog)

/-- A fingerprint is the one the release expects of the canonical artifact. -/
def checkFingerprint (providerId : String) : ArtifactProvenance → Except String Unit
  | .guestFingerprint requested observed _ => do
    let expected ← require (catalog.expectedToolchainFingerprint providerId requested)
      s!"guest fingerprint evidence for a canonical {providerId} release artifact"
    throwIf (observed ≠ expected)
      s!"a toolchain-manifest-v1 fingerprint matching {expected.imageName}@{expected.imageVersion}"
  | _ => return ()

/-- Evidence of a retired provider is a historical record; Blaxel and Freestyle once booted stock. -/
def providerArtifactEvidenceSchema (evidence : ProviderArtifactEvidence) : Except String Unit := do
  throwIf (providerCostCellSchema evidence.cell = false) "providerCostCellSchema"
  artifactProvenanceSchema evidence.provenance
  match catalog.artifactKind evidence.cell.providerId with
  | none => return ()
  | some declaredKind => do
    let requested := evidence.provenance.requested
    let legacyStock := (evidence.cell.providerId == "blaxel" ||
      evidence.cell.providerId == "freestyle") && requested.kind == "none"
    throwIf (requested.kind ≠ declaredKind ∧ legacyStock = false)
      s!"artifact evidence whose requested kind matches {evidence.cell.providerId}'s registry declaration ({declaredKind})"
    checkFingerprint catalog evidence.cell.providerId evidence.provenance

/-! ### Provider rows -/

/-- An id, when there is one, is a key of the map. -/
def resolves {α : Type} (mixtures : List (String × α)) (id : Option String) : Bool :=
  id.all (fun id => (mixtures.map Prod.fst).contains id)

def checkIds (mixtures : Option ObservedMixtures) (holder name : String)
    (ids : ObservedMixtureIds) : Except String Unit := do
  let hardwareId := ids.hostHardwareId.getD ""
  let networkId := ids.hostNetworkId.getD ""
  throwIf (resolves ((mixtures.map (·.hostHardware)).getD []) ids.hostHardwareId = false)
    s!"a ProviderRun whose {holder} hostHardwareId resolves in observedMixtures ({name} → {hardwareId})"
  throwIf (resolves ((mixtures.map (·.hostNetwork)).getD []) ids.hostNetworkId = false)
    s!"a ProviderRun whose {holder} hostNetworkId resolves in observedMixtures ({name} → {networkId})"

def checkMetricIds (mixtures : Option ObservedMixtures) (metric : MetricResult) :
    Except String Unit := do
  checkIds mixtures "metric" metric.metricId metric.ids
  forM (metric.replicates.getD []) (fun replicate =>
    checkIds mixtures "replicate" s!"{metric.metricId} r{replicate.index}" replicate.ids)

/-- The host-hardware mixtures of a row, if it has any. -/
def hardwareMixtures (row : ProviderRun) : List (String × ObservedHardwareMixture) :=
  (row.observedMixtures.map (·.hostHardware)).getD []

def providerRunSchema (row : ProviderRun) : Except String Unit := do
  forM (row.costEvidence.getD []) providerCostEvidenceSchema
  forM (row.artifactEvidence.getD []) (providerArtifactEvidenceSchema catalog)
  forM row.observedMixtures.toList observedMixturesSchema
  forM row.metrics metricResultSchema
  forM row.gaps resultGapSchema
  throwIf (row.validationStatus = .validated ∧ row.metrics = [])
    "a ProviderRun with at least one metric when validationStatus is \"validated\""
  throwIf (row.specMatched ≠ none ∧ row.observedSpecs = [])
    "a ProviderRun with observedSpecs when specMatched carries a verdict"
  forM row.metrics (checkMetricIds row.observedMixtures)
  forM (row.hostMetadata.getD []) (fun record =>
    checkIds row.observedMixtures "hostMetadata" record.sourceFile record.ids)
  throwIf ((hardwareMixtures row).any (fun entry => entry.2.specMatched == some false) = true ∧
      row.specMatched ≠ some false)
    "a ProviderRun with specMatched false when any host-hardware mixture failed the target spec"

/-! ### The Run -/

/-- `new Set(l).size !== l.length` -/
def repeats {α : Type} [DecidableEq α] (l : List α) : Bool := decide ((Keyed.setOf l).length ≠ l.length)

def checkRepair (run : Run) (experiment : ExperimentLinkage) (repair : ExperimentRepair) :
    Except String Unit := do
  throwIf (experimentRepairSchema repair = false) "experimentRepairSchema"
  throwIf (repair.sourceRun ≠ run.runId ∨ repair.sourceSha ≠ run.sha ∨
      repair.sourcePlanDigest ≠ experiment.planDigest ∨ repair.sourceRun = repair.recoveryRun ∨
      repeats (repair.cells.map (·.id)) = true)
    "repair bound to the original experiment and a distinct recovery run"

/-- A repair cell without measurements, as a Vercel batch that never started leaves it. -/
def unmeasured (repair : ExperimentRepair) (cells : List PublishedCell) (id : String) : Bool :=
  repair.cells.any (fun c => c.id == id) &&
    match cells.find? (fun c => c.id == id) with
    | none => false
    | some cell => cell.provider == "vercel" && cell.status == .missing &&
        cell.attemptId == none && cell.retainedMetrics.isEmpty

def boundToRepair (run : Run) (repair : ExperimentRepair) (cells : List PublishedCell)
    (r : UnstartedBatch) : Bool :=
  r.planDigest == repair.recoveryPlanDigest && r.sourceSha == run.sha &&
    r.sourceSha == unstartedBatchSourceRevision && toString r.workflow.id == repair.recoveryRun &&
    r.job.runId == r.workflow.id && r.job.runAttempt == r.workflow.runAttempt &&
    r.job.headSha == r.workflow.headSha && r.workflow.headSha == unstartedBatchWorkflowRevision &&
    r.operator == repair.operator && r.workflow.actorLogin == repair.operator &&
    r.cellIds.all (unmeasured repair cells)

def checkUnstarted (catalog : Catalog) (run : Run) (experiment : ExperimentLinkage)
    (unstarted : List UnstartedBatch) : Except String Unit := do
  throwIf ((unstarted.isEmpty || ! unstarted.all (unstartedBatchSchema catalog.toClock)) = true)
    "unstartedBatchSchema"
  let bound := match experiment.repair, experiment.partialCoverage with
    | some repair, some coverage =>
      ! repeats (unstarted.map (·.batchId)) && ! repeats (unstarted.flatMap (·.cellIds)) &&
        unstarted.all (boundToRepair run repair coverage.cells)
    | _, _ => false
  throwIf (bound = false) "unstarted batches bound to missing repair cells without measurements"

/-- A recovery names a failed cell without measurements, under the plan its attempt ran for. -/
def linkedRecovery (run : Run) (experiment : ExperimentLinkage) (cells : List PublishedCell)
    (r : CleanupRecovery) : Bool :=
  let replaced := experiment.repair.filter (fun repair => repair.cells.any (fun c => c.id == r.cellId))
  r.planDigest == (replaced.map (·.recoveryPlanDigest)).getD experiment.planDigest &&
    r.workflowRun == (replaced.map (·.recoveryRun)).getD run.runId && r.sourceSha == run.sha &&
    match cells.find? (fun c => c.attemptId == some r.attemptId) with
    | none => false
    | some cell => cell.id == r.cellId && cell.status == .failed && cell.retainedMetrics.isEmpty

def checkRecoveries (catalog : Catalog) (run : Run) (experiment : ExperimentLinkage)
    (recoveries : List CleanupRecovery) : Except String Unit := do
  throwIf ((recoveries.isEmpty || ! recoveries.all (cleanupRecoverySchema catalog.toClock)) = true)
    "cleanupRecoverySchema"
  let linked := match experiment.partialCoverage with
    | none => false
    | some coverage => ! repeats (recoveries.map (·.attemptId)) &&
        recoveries.all (linkedRecovery run experiment coverage.cells)
  throwIf (linked = false) "cleanup recoveries linked to failed partial cells without measurements"

/-- Metric lists are sets of planned metrics, and a complete cell accounts for all of them. -/
def consistentCell (cell : PublishedCell) : Bool :=
  ! repeats cell.plannedMetrics && ! repeats cell.missingMetrics && ! repeats cell.excludedMetrics &&
    ! repeats cell.retainedMetrics &&
    (cell.missingMetrics ++ cell.excludedMetrics ++ cell.retainedMetrics).all
      (cell.plannedMetrics.contains ·) &&
    cell.retainedMetrics.all (fun id =>
      ! cell.missingMetrics.contains id && ! cell.excludedMetrics.contains id) &&
    (cell.retainedMetrics.isEmpty || cell.attemptId.isSome) &&
    (cell.status != .complete || (cell.missingMetrics.isEmpty &&
      cell.retainedMetrics.length + cell.excludedMetrics.length == cell.plannedMetrics.length))

def publishedCellSchema (cell : PublishedCell) : Bool :=
  nonempty cell.id && nonempty cell.provider && nonempty cell.suite &&
    cell.attemptId.all nonempty && decide (1 ≤ cell.plannedMetrics.length) &&
    decide (1 ≤ cell.passes) &&
    (cell.passShortfalls.getD []).all (fun entry => decide (1 ≤ entry.expected))

def ofStatus (status : CellStatus) (cells : List PublishedCell) : Nat :=
  (cells.filter (fun cell => cell.status == status)).length

def checkPartial (experiment : ExperimentLinkage) (coverage : PartialCoverage) :
    Except String Unit := do
  throwIf ((decide (1 ≤ coverage.planned) && decide (1 ≤ coverage.incomplete) &&
    coverage.cells.all publishedCellSchema) = false) "partialCoverage"
  throwIf (coverage.cells.length ≠ coverage.planned ∨ repeats (coverage.cells.map (·.id)) = true ∨
      ofStatus .complete coverage.cells ≠ coverage.complete ∨
      ofStatus .excluded coverage.cells ≠ coverage.excluded ∨
      coverage.complete + coverage.incomplete + coverage.excluded ≠ coverage.planned)
    "partial coverage counts matching unique planned cells"
  let attemptIds := coverage.cells.filterMap (·.attemptId)
  throwIf (repeats attemptIds = true ∨ attemptIds.length ≠ experiment.attemptIds.length ∨
      attemptIds.all (experiment.attemptIds.contains ·) = false)
    "partial coverage linked to exactly its selected attempts"
  throwIf (coverage.cells.all consistentCell = false)
    "consistent partial metric coverage within each frozen cell"

def checkExperiment (catalog : Catalog) (run : Run) (experiment : ExperimentLinkage) :
    Except String Unit := do
  throwIf (experiment.attemptIds = []) "experiment.attemptIds"
  forM experiment.repair.toList (checkRepair run experiment)
  forM experiment.unstartedBatches.toList (checkUnstarted catalog run experiment)
  forM experiment.cleanupRecoveries.toList (checkRecoveries catalog run experiment)
  throwIf (¬ (run.schemaVersion = 8 ↔ experiment.partialCoverage ≠ none))
    "explicit partial coverage exactly on Run v8"
  throwIf (repeats experiment.attemptIds = true) "unique experiment attempt IDs"
  forM experiment.partialCoverage.toList (checkPartial experiment)

/-- Fields below the version that introduced them, for one row. -/
def checkVersion (version : Nat) (row : ProviderRun) : Except String Unit := do
  throwIf (version < 3 ∧ row.metrics.any (fun m => m.replicates.isSome) = true)
    "a v3-or-later Run when a MetricResult carries replicates"
  throwIf (version < 4 ∧ row.observedMixtures ≠ none)
    "a v4-or-later Run when a ProviderRun carries observedMixtures"
  throwIf (version < 4 ∧ row.gaps.any (fun gap => gap.cause.isSome) = true)
    "a v4-or-later Run when a ResultGap carries a structured cause"
  throwIf (version < 4 ∧ row.metrics.any (fun metric => metric.derived) = true)
    "a v4-or-later Run when a MetricResult carries the derived marker"
  throwIf (version < 4 ∧ (row.hostMetadata.getD []).any (fun record => record.sandboxes.isSome ||
      record.ids.hostHardwareId.isSome || record.ids.hostNetworkId.isSome) = true)
    "a v4-or-later Run when a HostMetadataRecord is folded or attributed"

def checkCell (run : Run) (row : ProviderRun) (cell : ProviderCostCell)
    (misplaced misnumbered : String) : Except String Unit := do
  throwIf (cell.runId ≠ run.runId ∨ cell.providerId ≠ row.providerId) misplaced
  throwIf (run.replicateIndex ≠ none ∧ cell.replicateIndex ≠ run.replicateIndex) misnumbered

/-- The cells, sandboxes and effective artifact of the attributions passed so far. -/
structure ArtifactScan where
  cells : List String
  sandboxes : List String
  effective : Option ResolvedArtifact
deriving DecidableEq, Repr

def checkArtifact (run : Run) (row : ProviderRun) (scan : ArtifactScan)
    (evidence : ProviderArtifactEvidence) : Except String ArtifactScan := do
  checkCell run row evidence.cell
    "artifact evidence whose runId and providerId match its parent Run"
    "shard artifact evidence whose replicateIndex matches the Run"
  let cellKey := providerCostCellKey evidence.cell
  throwIf (cellKey ∈ scan.cells) "at most one artifact attribution for each benchmark cell"
  throwIf (evidence.sandboxId ∈ scan.sandboxes)
    "an artifact sandbox id used by exactly one benchmark cell"
  let artifact := effectiveArtifact evidence.provenance
  throwIf (scan.effective.any (fun current => current ≠ artifact) = true)
    "one effective artifact across every sandbox of a provider Run"
  return ⟨cellKey :: scan.cells, evidence.sandboxId :: scan.sandboxes, some artifact⟩

/-- What the version asks of one row's evidence. -/
def checkEvidence (run : Run) (row : ProviderRun) : Except String Unit := do
  throwIf (run.schemaVersion < 5 ∧ row.costEvidence.isSome = true)
    "a v5 Run when a ProviderRun carries costEvidence"
  throwIf (5 ≤ run.schemaVersion ∧ row.costEvidence.isNone = true)
    "a v5 ProviderRun with a costEvidence array"
  throwIf (run.schemaVersion < 6 ∧ row.artifactEvidence.isSome = true)
    "a v6 Run when a ProviderRun carries artifactEvidence"
  throwIf (6 ≤ run.schemaVersion ∧ row.artifactEvidence.isNone = true)
    "a v6 ProviderRun with an artifactEvidence array"
  throwIf (6 ≤ run.schemaVersion ∧ row.metrics ≠ [] ∧ row.artifactEvidence.getD [] = [])
    "a v6 ProviderRun whose metrics carry artifact attribution (an empty artifactEvidence array claims the provider never booted)"
  forM (row.costEvidence.getD []) (fun evidence => checkCell run row evidence.cell
    "cost evidence whose runId and providerId match its parent Run"
    "shard cost evidence whose replicateIndex matches the Run")
  let _ ← (row.artifactEvidence.getD []).foldlM (checkArtifact run row) ⟨[], [], none⟩

def parseRun (run : Run) : Except String Run := do
  throwIf (run.schemaVersion < 2 ∨ 8 < run.schemaVersion) "schemaVersion"
  throwIf (runIdSchema run.runId = false) "runId"
  throwIf (catalog.iso run.generatedAt = false) "generatedAt"
  throwIf (targetSpecSchema run.targetSpec = false) "targetSpec"
  forM run.providers (providerRunSchema catalog)
  throwIf (¬ (7 ≤ run.schemaVersion ↔ run.experiment ≠ none))
    "experiment linkage exactly on Run v7 or newer"
  forM run.experiment.toList (checkExperiment catalog run)
  throwIf (run.schemaVersion < 3 ∧ run.replicateIndex ≠ none)
    "a v3-or-later Run when it carries a replicateIndex"
  forM run.providers (checkVersion run.schemaVersion)
  forM run.providers (checkEvidence run)
  throwIf (run.replicateIndex ≠ none ∧
      run.providers.any (fun row => row.metrics.any (fun m => m.replicates.isSome)) = true)
    "either a replicate shard (replicateIndex, no folded replicates) or an aggregate (folded replicates, no replicateIndex), never both"
  return run

end

end RunSchema
