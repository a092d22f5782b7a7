import Mathlib.Data.List.Sort
import Mathlib.Data.Rat.Floor
import SandboxBenchmarks.ExperimentRecords

/-!
# Runs

`packages/schema/src/run.ts` with the evidence records of `cost-evidence.ts` and
`artifact-evidence.ts`. Fields that nothing reads or rewrites are carried as JSON
(`rest`, `context`), and their own checks are not repeated. Samples are finite
by type.
-/

namespace RunModel

open AccountJournal CanonicalJson Checks ExperimentRecords JsonText PlanVerification

inductive ValidationStatus where
  | validated
  | pending
deriving DecidableEq, Repr

/-- PTS sample storage provenance. -/
inductive PtsSampleSource where
  | rawString
  | aggregateValue
deriving DecidableEq, Repr

/-- `number[] >= 1` -/
structure Samples where
  values : List ℚ
  nonempty : values ≠ []
deriving DecidableEq, Repr

/-- `percentile` of sorted samples, with R-7 interpolation. -/
def percentile (sorted : List ℚ) (p : ℚ) : ℚ :=
  let h := ((sorted.length : ℚ) - 1) * p
  let lo := ⌊h⌋₊
  let hi := ⌈h⌉₊
  let loValue := sorted.getD lo 0
  let hiValue := sorted.getD hi loValue
  loValue + (h - lo) * (hiValue - loValue)

def percentileOf (samples : List ℚ) (p : ℚ) : ℚ := percentile (samples.insertionSort (· ≤ ·)) p

/-- The distribution retained for a Metric, as far as anything reads it. -/
structure Aggregates where
  p50 : ℚ
  mean : ℚ
  n : Nat
deriving DecidableEq, Repr

def aggregate (samples : Samples) : Aggregates where
  p50 := percentileOf samples.values (1 / 2)
  mean := samples.values.sum / samples.values.length
  n := samples.values.length

/-- The mixture ids one sandbox's reading falls under. -/
structure ObservedMixtureIds where
  hostHardwareId : Option String
  hostNetworkId : Option String
deriving DecidableEq, Repr

/-- `{ ...own, ...ids }` -/
def ObservedMixtureIds.over (ids own : ObservedMixtureIds) : ObservedMixtureIds where
  hostHardwareId := ids.hostHardwareId <|> own.hostHardwareId
  hostNetworkId := ids.hostNetworkId <|> own.hostNetworkId

/-- One replicate sandbox's contribution to a Metric. -/
structure MetricReplicate where
  index : Nat
  samples : Samples
  ptsSampleSource : Option PtsSampleSource
  ids : ObservedMixtureIds
deriving DecidableEq, Repr

structure MetricResult where
  metricId : String
  samples : Samples
  aggregates : Aggregates
  sourceFile : Option String
  appVersion : Option String
  arguments : Option String
  ptsSampleSource : Option PtsSampleSource
  replicates : Option (List MetricReplicate)
  ids : ObservedMixtureIds
  derived : Bool
deriving DecidableEq, Repr

structure UncataloguedResult where
  id : String
  value : ℚ
  unit : Option String
  direction : Option String
  sourceFile : String
deriving DecidableEq, Repr

structure HostMetadataField where
  path : String
  value : String
deriving DecidableEq, Repr

structure HostMetadataRecord where
  source : String
  sourceFile : String
  fields : List HostMetadataField
  sandboxes : Option Nat
  ids : ObservedMixtureIds
deriving DecidableEq, Repr

/-! ### Observed specs -/

inductive SpecValue where
  | number (q : ℚ)
  | text (s : String)
deriving DecidableEq, Repr

/-- The fields a reading defines, each key once. -/
abbrev ObservedSpecs := List (String × SpecValue)

def hostHardwareSpecKeys : List String :=
  ["vcpus", "memoryGb", "diskGb", "hostVcpus", "hostMemoryGb", "cpuModel", "cpuMicroarch", "cpuMhz",
    "kernel", "os", "virtualization", "detectedIsolation", "isolationClass", "isolationConfidence",
    "machineVmm", "containerRuntime", "manufacturer", "productName", "biosVendor"]

def hostNetworkSpecKeys : List String :=
  ["egressOrg", "egressAsn", "egressOrgName", "networkPrefix", "city", "region", "country",
    "location", "timezone", "asnSource", "geoSource"]

structure ObservedHardwareMixture where
  count : Nat
  specs : ObservedSpecs
  specMatched : Option Bool
deriving DecidableEq, Repr

structure ObservedNetworkMixture where
  count : Nat
  specs : ObservedSpecs
deriving DecidableEq, Repr

/-- The counted disclosure: mixtures by content hash, and how many sandboxes reported. -/
structure ObservedMixtures where
  sandboxes : Nat
  hostHardware : List (String × ObservedHardwareMixture)
  hostNetwork : List (String × ObservedNetworkMixture)
deriving DecidableEq, Repr

/-! ### Gaps -/

inductive GapScope where
  | suite
  | operation
deriving DecidableEq, Repr

def GapScope.text : GapScope → String
  | .suite => "suite"
  | .operation => "operation"

inductive GapOutcome where
  | skipped
  | failed
deriving DecidableEq, Repr

def GapOutcome.text : GapOutcome → String
  | .skipped => "skipped"
  | .failed => "failed"

/-- Why a benchmark produced no result, as data. -/
inductive GapCause where
  | diskShortfall (freeGb requiredGb : ℚ)
  | missingCredentials (variableNames : List String)
  | sandboxCreateFailed (detail : Option String)
  | sandboxLost (step : String) (consecutivePollFailures : Option Nat)
  | stepTimeout (step : String) (timeoutSeconds : ℚ)
  | stepFailed (step : String) (exitCode : Option Int)
  | metricsUnrecorded (metricIds : List String) (declared : Nat)
  | duplicateValueDedup (metricIds : List String)
  | unsupportedOperation (detail : Option String)
  | measurementDisabled (detail : Option String)
deriving DecidableEq, Repr

def GapCause.kind : GapCause → String
  | .diskShortfall _ _ => "disk-shortfall"
  | .missingCredentials _ => "missing-credentials"
  | .sandboxCreateFailed _ => "sandbox-create-failed"
  | .sandboxLost _ _ => "sandbox-lost"
  | .stepTimeout _ _ => "step-timeout"
  | .stepFailed _ _ => "step-failed"
  | .metricsUnrecorded _ _ => "metrics-unrecorded"
  | .duplicateValueDedup _ => "duplicate-value-dedup"
  | .unsupportedOperation _ => "unsupported-operation"
  | .measurementDisabled _ => "measurement-disabled"

def integer (code : Int) : Value := .num (code : ℚ)

/-- The fields of a cause, in the order of `Object.keys(cause).sort()`. -/
def GapCause.fields : GapCause → List (String × Value)
  | .diskShortfall freeGb requiredGb =>
    [("freeGb", .num freeGb), ("kind", .str "disk-shortfall"), ("requiredGb", .num requiredGb)]
  | .missingCredentials variableNames =>
    [("kind", .str "missing-credentials"), ("variables", strings variableNames)]
  | .sandboxCreateFailed detail =>
    texts "detail" detail ++ [("kind", .str "sandbox-create-failed")]
  | .sandboxLost step consecutivePollFailures =>
    optionalField "consecutivePollFailures" (consecutivePollFailures.map natural) ++
      [("kind", .str "sandbox-lost"), ("step", .str step)]
  | .stepTimeout step timeoutSeconds =>
    [("kind", .str "step-timeout"), ("step", .str step), ("timeoutSeconds", .num timeoutSeconds)]
  | .stepFailed step exitCode =>
    optionalField "exitCode" (exitCode.map integer) ++
      [("kind", .str "step-failed"), ("step", .str step)]
  | .metricsUnrecorded metricIds declared =>
    [("declared", natural declared), ("kind", .str "metrics-unrecorded"),
      ("metricIds", strings metricIds)]
  | .duplicateValueDedup metricIds =>
    [("kind", .str "duplicate-value-dedup"), ("metricIds", strings metricIds)]
  | .unsupportedOperation detail =>
    texts "detail" detail ++ [("kind", .str "unsupported-operation")]
  | .measurementDisabled detail =>
    texts "detail" detail ++ [("kind", .str "measurement-disabled")]

def gapCauseSchema : GapCause → Bool
  | .diskShortfall freeGb requiredGb => decide (0 ≤ freeGb) && decide (0 < requiredGb)
  | .missingCredentials variableNames => decide (1 ≤ variableNames.length)
  | .sandboxLost step consecutivePollFailures =>
    nonempty step && consecutivePollFailures.all (fun k => decide (1 ≤ k))
  | .stepTimeout step timeoutSeconds => nonempty step && decide (0 < timeoutSeconds)
  | .stepFailed step _ => nonempty step
  | .metricsUnrecorded metricIds declared =>
    decide (1 ≤ metricIds.length) && decide (1 ≤ declared)
  | .duplicateValueDedup metricIds => decide (1 ≤ metricIds.length)
  | _ => true

/-- Which outcome a cause belongs to: a precondition refused, or something broke. -/
def gapOutcomeOfCause : GapCause → GapOutcome
  | .diskShortfall _ _ => .skipped
  | .missingCredentials _ => .skipped
  | .unsupportedOperation _ => .skipped
  | .measurementDisabled _ => .skipped
  | _ => .failed

structure ResultGap where
  scope : GapScope
  id : String
  outcome : GapOutcome
  reason : String
  cause : Option GapCause
deriving DecidableEq, Repr

/-! ### Evidence -/

/-- Identity of one benchmark sandbox cell. -/
structure ProviderCostCell where
  runId : String
  providerId : String
  suite : String
  replicateIndex : Option Nat
deriving DecidableEq, Repr

inductive CostKind where
  | observed
  | missing
deriving DecidableEq, Repr

def CostKind.text : CostKind → String
  | .observed => "observed"
  | .missing => "missing"

/-- The billable sandbox; the other ids are context only. -/
structure ProviderCostSubject where
  sandboxId : Option String
  context : List (String × Value)

structure ProviderCostEvidence where
  kind : CostKind
  cell : ProviderCostCell
  subject : ProviderCostSubject
  rest : List (String × Value)

inductive ResolvedArtifact where
  | none
  | image (ref : String)
  | baked (ref : String)
  | mirror (ref : String)
  | built (ref : String)
deriving DecidableEq, Repr

def ResolvedArtifact.kind : ResolvedArtifact → String
  | .none => "none"
  | .image _ => "image"
  | .baked _ => "baked"
  | .mirror _ => "mirror"
  | .built _ => "built"

def ResolvedArtifact.ref : ResolvedArtifact → Option String
  | .none => Option.none
  | .image ref => some ref
  | .baked ref => some ref
  | .mirror ref => some ref
  | .built ref => some ref

structure GuestFingerprint where
  imageName : String
  imageVersion : String
deriving DecidableEq, Repr

/-- How the effective boot artifact was established. -/
inductive ArtifactProvenance where
  | requestFallback (requested : ResolvedArtifact)
  | driverReported (requested reported : ResolvedArtifact)
  | guestFingerprint (requested : ResolvedArtifact) (fingerprint : GuestFingerprint)
      (reported : Option ResolvedArtifact)
deriving DecidableEq, Repr

def ArtifactProvenance.requested : ArtifactProvenance → ResolvedArtifact
  | .requestFallback requested => requested
  | .driverReported requested _ => requested
  | .guestFingerprint requested _ _ => requested

def ArtifactProvenance.reported : ArtifactProvenance → Option ResolvedArtifact
  | .requestFallback _ => none
  | .driverReported _ reported => some reported
  | .guestFingerprint _ _ reported => reported

/-- One sandbox's artifact attribution. -/
structure ProviderArtifactEvidence where
  cell : ProviderCostCell
  sandboxId : String
  provenance : ArtifactProvenance
deriving DecidableEq, Repr

/-- Whether the attribution rests on an observation rather than on the request alone. -/
def artifactVerified (evidence : ProviderArtifactEvidence) : Bool :=
  match evidence.provenance with
  | .requestFallback _ => false
  | _ => true

/-- The artifact a sandbox effectively booted, whatever established it. -/
def effectiveArtifact (provenance : ArtifactProvenance) : ResolvedArtifact :=
  provenance.reported.getD provenance.requested

/-- Deterministic identity of one cell. -/
def providerCostCellKey (cell : ProviderCostCell) : String :=
  "\x00".intercalate [cell.runId, cell.providerId, cell.suite,
    (cell.replicateIndex.map toString).getD "single"]

def ProviderCostCell.toJson (c : ProviderCostCell) : Value :=
  .obj ([("runId", .str c.runId), ("providerId", .str c.providerId), ("suite", .str c.suite)] ++
    optionalField "replicateIndex" (c.replicateIndex.map natural))

def ProviderCostEvidence.toJson (e : ProviderCostEvidence) : Value :=
  .obj ([("kind", .str e.kind.text), ("cell", e.cell.toJson),
    ("subject", .obj ([("kind", .str "sandbox")] ++ texts "sandboxId" e.subject.sandboxId ++
      e.subject.context))] ++ e.rest)

def ResolvedArtifact.toJson (a : ResolvedArtifact) : Value :=
  .obj ([("kind", .str a.kind)] ++ texts "ref" a.ref)

def ArtifactProvenance.toJson (p : ArtifactProvenance) : Value :=
  match p with
  | .requestFallback requested =>
    .obj [("source", .str "request-fallback"), ("requested", requested.toJson)]
  | .driverReported requested reported =>
    .obj [("source", .str "driver-reported"), ("requested", requested.toJson),
      ("reported", reported.toJson)]
  | .guestFingerprint requested fingerprint reported =>
    .obj ([("source", .str "guest-fingerprint"), ("requested", requested.toJson),
      ("fingerprint", .obj [("authority", .str "toolchain-manifest-v1"),
        ("imageName", .str fingerprint.imageName),
        ("imageVersion", .str fingerprint.imageVersion)])] ++
      optionalField "reported" (reported.map (·.toJson)))

def ProviderArtifactEvidence.toJson (e : ProviderArtifactEvidence) : Value :=
  .obj [("cell", e.cell.toJson), ("sandboxId", .str e.sandboxId),
    ("provenance", e.provenance.toJson)]

/-! ### Provider rows -/

structure ProviderRun where
  providerId : String
  costEvidence : Option (List ProviderCostEvidence)
  artifactEvidence : Option (List ProviderArtifactEvidence)
  validationStatus : ValidationStatus
  specMatched : Option Bool
  observedSpecs : ObservedSpecs
  observedMixtures : Option ObservedMixtures
  hostMetadata : Option (List HostMetadataRecord)
  metrics : List MetricResult
  suitesCovered : List String
  gaps : List ResultGap
  uncatalogued : List UncataloguedResult

/-- No evidence of participation at all: the normalizer's placeholder row. -/
def providerReportedNothing (p : ProviderRun) : Bool :=
  p.metrics.isEmpty && p.suitesCovered.isEmpty && p.gaps.isEmpty && p.uncatalogued.isEmpty &&
    p.observedSpecs.isEmpty && (p.hostMetadata.getD []).isEmpty &&
    (p.costEvidence.getD []).isEmpty && (p.artifactEvidence.getD []).isEmpty

/-! ### Experiment linkage -/

inductive CellStatus where
  | complete
  | missing
  | failed
  | cancelled
  | excluded
deriving DecidableEq, Repr

structure PassShortfall extends PtsTrialEvidence where
  expected : Nat
deriving DecidableEq, Repr

/-- One frozen cell of a partial publication. -/
structure PublishedCell where
  id : String
  provider : String
  suite : String
  replicate : Nat
  attemptId : Option String
  status : CellStatus
  plannedMetrics : List String
  passes : Nat
  missingMetrics : List String
  excludedMetrics : List String
  retainedMetrics : List String
  passShortfalls : Option (List PassShortfall)
deriving DecidableEq, Repr

structure PartialCoverage where
  planned : Nat
  complete : Nat
  incomplete : Nat
  excluded : Nat
  cells : List PublishedCell
deriving DecidableEq, Repr

structure ExperimentLinkage where
  planDigest : String
  cohortDigest : Option String
  attemptIds : List String
  cleanupRecoveries : Option (List CleanupRecovery)
  repair : Option ExperimentRepair
  unstartedBatches : Option (List UnstartedBatch)
  partialCoverage : Option PartialCoverage
deriving DecidableEq, Repr

structure Run where
  schemaVersion : Nat
  runId : String
  sha : String
  generatedAt : String
  sourceRunUrl : Option String
  replicateIndex : Option Nat
  experiment : Option ExperimentLinkage
  targetSpec : TargetSpec
  providers : List ProviderRun

/-- What the Metric Catalog says of one metric. -/
structure MetricDef where
  /-- `definition.pts !== undefined` -/
  pts : Bool
  derived : Bool
deriving DecidableEq, Repr

/-- What parsing, merging and evaluation read from the registries. -/
structure Catalog extends Registry, Clock where
  getMetric : String → Option MetricDef
  /-- `getProvider(id)`, with the hourly cost of what it finds; `none` inside for `null`. -/
  hourlyCostAtTargetSpec : String → Option (TargetSpec → Option ℚ)
  /-- The artifact kind a registered provider declares. -/
  artifactKind : String → Option String
  expectedToolchainFingerprint : String → ResolvedArtifact → Option GuestFingerprint
  /-- The JSON document of a Run. -/
  document : Run → Value

/-- A catalog without metrics, prices or artifacts, to evaluate with. -/
def plainCatalog : Catalog where
  vendor := some
  iso := fun _ => true
  parse := fun _ => none
  getMetric := fun _ => none
  hourlyCostAtTargetSpec := fun _ => none
  artifactKind := fun _ => none
  expectedToolchainFingerprint := fun _ _ => none
  document := fun _ => .null

end RunModel
