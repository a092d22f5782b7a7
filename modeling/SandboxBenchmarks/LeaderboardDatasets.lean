import SandboxBenchmarks.Aggregate

/-!
# Pooled leaderboard datasets

`combineLeaderboardDatasets` of `packages/results/src/lib/leaderboard-datasets.ts`.
Copies are values here, so `structuredClone` leaves nothing to model. Numbers are
exact.
-/

namespace LeaderboardDatasets

open Aggregate CanonicalJson Checks JsonText PlanVerification RunModel RunSchema

structure DatasetCell where
  runId : String
  providerId : String
  metricId : String
  suite : String
  replicateIndex : ℕ
  sandboxId : Option String
  combinedIndex : ℕ
deriving DecidableEq, Repr

/-- Several published experiments read together. -/
structure PooledDataset where
  runId : String
  sha : String
  generatedAt : String
  targetSpec : TargetSpec
  providers : List ProviderRun
  sources : List Run
  poolingNotes : List String
  cells : List DatasetCell

/-- A published experiment or a pooled view of several. -/
inductive LeaderboardDataset where
  | published (run : Run)
  | pooled (dataset : PooledDataset)

structure CombineDatasetsOptions where
  cohortReview : Option String
deriving DecidableEq, Repr

/-- The white space and line ends that `trim` removes. -/
def jsBlank (c : Char) : Bool :=
  let n := c.toNat
  (decide (9 ≤ n) && decide (n ≤ 13)) || n == 32 || n == 160 || n == 5760 ||
    (decide (8192 ≤ n) && decide (n ≤ 8202)) || n == 8232 || n == 8233 || n == 8239 || n == 8287 ||
    n == 12288 || n == 65279

/-- `text?.trim()` is empty or missing. -/
def unreviewed (review : Option String) : Bool := review.all (fun text => text.toList.all jsBlank)

section
variable (runtime : Runtime) (catalog : Catalog)

/-! ### Mixtures -/

def specsJson (specs : ObservedSpecs) : Value :=
  .obj (specs.map fun entry => (entry.1, SpecValue.toJson entry.2))

/-- What the two categories of mixtures have in common. -/
structure MixtureKind (σ : Type) where
  category : String
  specs : σ → ObservedSpecs
  count : σ → ℕ
  recount : σ → ℕ → σ

def hostHardwareKind : MixtureKind ObservedHardwareMixture :=
  ⟨"hostHardware", (·.specs), (·.count), fun entry count => { entry with count }⟩

def hostNetworkKind : MixtureKind ObservedNetworkMixture :=
  ⟨"hostNetwork", (·.specs), (·.count), fun entry count => { entry with count }⟩

/-- One entry of one mixture. An inherited property passes for an entry without specs. -/
def mergeEntry {σ : Type} (kind : MixtureKind σ) (result : List (String × σ))
    (entry : String × σ) : Except String (List (String × σ)) := do
  match Keyed.get? result entry.1 with
  | some previous => do
    let before ← canonicalJsonString runtime.toJsonRuntime providerResponseLimits
      (specsJson (kind.specs previous))
    let after ← canonicalJsonString runtime.toJsonRuntime providerResponseLimits
      (specsJson (kind.specs entry.2))
    throwIf (before ≠ after) s!"Conflicting {kind.category} identity {entry.1}"
    return Keyed.set result entry.1
      (kind.recount entry.2 (kind.count previous + kind.count entry.2))
  | none => do
    throwIf (inheritedNames.contains entry.1 = true)
      "canonical JSON must contain an object or array"
    return Keyed.set result entry.1 entry.2

def mergeMixture (result mixture : ObservedMixtures) : Except String ObservedMixtures := do
  let hostHardware ← mixture.hostHardware.foldlM (mergeEntry runtime hostHardwareKind)
    result.hostHardware
  let hostNetwork ← mixture.hostNetwork.foldlM (mergeEntry runtime hostNetworkKind)
    result.hostNetwork
  return ⟨result.sandboxes + mixture.sandboxes, hostHardware, hostNetwork⟩

def mergeMixtures (rows : List ProviderRun) : Except String (Option ObservedMixtures) :=
  match rows.filterMap (·.observedMixtures) with
  | [] => return none
  | mixtures => do return some (← mixtures.foldlM (mergeMixture runtime) ⟨0, [], []⟩)

/-! ### One metric of one provider -/

structure Contribution where
  run : Run
  provider : ProviderRun

structure Entry extends Contribution where
  metric : MetricResult

/-- `metric.sourceFile?.split("/")[0]` -/
def suiteOf (metric : MetricResult) : Option String :=
  metric.sourceFile.map fun file => (file.splitOn "/").headD ""

def optionalText (value : Option String) : Value := (value.map Value.str).getD .null

/-- Version, arguments and suite of a measurement. -/
def signature (metric : MetricResult) : Except String String :=
  canonicalJsonString runtime.toJsonRuntime providerResponseLimits
    (.arr [optionalText metric.appVersion, optionalText metric.arguments,
      optionalText (suiteOf metric)])

def checkSignature (providerId metricId : String) (initial metric : MetricResult) :
    Except String Unit := do
  let own ← signature runtime metric
  let expected ← signature runtime initial
  throwIf (own ≠ expected)
    s!"Incompatible measurement version, arguments or suite: {providerId}/{metricId}"

/-- The distinct effective artifacts of the entry's suite, as canonical texts. -/
def artifactSet (entry : Entry) : Except String (List String) := do
  let attributed := (entry.provider.artifactEvidence.getD []).filter fun e =>
    some e.cell.suite = suiteOf entry.metric
  let texts ← attributed.mapM fun e => canonicalJsonString runtime.toJsonRuntime
    providerResponseLimits (effectiveArtifact e.provenance).toJson
  return CodeUnits.sorted (Keyed.setOf texts)

def checkArtifacts (providerId metricId : String) (entries : List Entry) : Except String Unit := do
  let artifactSets ← entries.mapM (artifactSet runtime)
  let known ← (artifactSets.filter fun set => ! set.isEmpty).mapM fun set =>
    canonicalJsonString runtime.toJsonRuntime providerResponseLimits (strings set)
  throwIf ((Keyed.setOf known).length > 1)
    s!"Incompatible artifact identities: {providerId}/{metricId}"

/-- `run.experiment?.partial?.cells` -/
def partialCells (run : Run) : Option (List PublishedCell) :=
  (run.experiment.bind (·.partialCoverage)).map (·.cells)

def passPolicies (providerId metricId : String) (entry : Entry) : List ℕ :=
  (((partialCells entry.run).getD []).filter fun cell =>
    cell.provider = providerId ∧ some cell.suite = suiteOf entry.metric ∧
      cell.plannedMetrics.contains metricId = true).map (·.passes)

def retainedCells (providerId metricId suite : String) (run : Run) : Option (List PublishedCell) :=
  (partialCells run).map fun cells => cells.filter fun cell =>
    cell.provider = providerId ∧ cell.suite = suite ∧ cell.retainedMetrics.contains metricId = true

/-- The one cluster of a metric without a breakdown. -/
def wholeCluster (retained : Option (List PublishedCell)) (run : Run) (metric : MetricResult) :
    MetricReplicate where
  index := match retained with
    | some [cell] => cell.replicate
    | _ => run.replicateIndex.getD 0
  samples := metric.samples
  ptsSampleSource := metric.ptsSampleSource
  ids := metric.ids

/-- A sandbox's cluster, with where it was measured. -/
structure Cluster where
  runId : String
  suite : String
  sandboxId : Option String
  replicate : MetricReplicate
deriving DecidableEq, Repr

def clusterOf (providerId metricId suite : String) (retained : Option (List PublishedCell))
    (entry : Entry) (replicate : MetricReplicate) : Except String Cluster := do
  let runId := entry.run.runId
  throwIf (retained.any (fun cells => ! cells.any (fun c => c.replicate = replicate.index)) = true)
    s!"Metric lacks retained-cell evidence: {runId}/{providerId}/{metricId}/{replicate.index}"
  let evidence := (entry.provider.artifactEvidence.getD []).find? fun e =>
    e.cell.suite = suite ∧ e.cell.replicateIndex = some replicate.index
  return ⟨runId, suite, evidence.map (·.sandboxId), replicate⟩

def clustersOf (providerId metricId : String) (entry : Entry) : Except String (List Cluster) := do
  let runId := entry.run.runId
  let suite := (suiteOf entry.metric).getD ""
  throwIf (suite = "") s!"Missing suite provenance: {runId}/{providerId}/{metricId}"
  let retained := retainedCells providerId metricId suite entry.run
  throwIf (entry.metric.replicates = none ∧ retained.any (fun cells => cells.length ≠ 1) = true)
    s!"Ambiguous sandbox breakdown: {runId}/{providerId}/{metricId}"
  let replicates := entry.metric.replicates.getD [wholeCluster retained entry.run entry.metric]
  replicates.mapM (clusterOf providerId metricId suite retained entry)

/-- `entries.length === 1 ? cluster.index : nextIndex++` -/
def combinedIndex (entries : List Entry) (position : ℕ) (cluster : Cluster) : ℕ :=
  if entries.length = 1 then cluster.replicate.index else position

def cellOf (providerId metricId : String) (combined : ℕ) (cluster : Cluster) : DatasetCell where
  runId := cluster.runId
  providerId := providerId
  metricId := metricId
  suite := cluster.suite
  replicateIndex := cluster.replicate.index
  sandboxId := cluster.sandboxId
  combinedIndex := combined

/-- The measurement over all sandboxes of all runs. -/
def pooledMetric (initial : MetricResult) (replicates : List MetricReplicate) :
    Except String MetricResult :=
  match replicates with
  | [] => .error "aggregate() requires at least one sample"
  | first :: rest =>
    let samples := pooled first rest
    return { initial with
      samples := samples
      aggregates := aggregate samples
      ptsSampleSource := none
      ids := ⟨none, none⟩
      replicates := some replicates }

/-- A metric that is not derived. -/
def poolMeasured (providerId metricId : String) (initial : Entry) (entries : List Entry) :
    Except String (MetricResult × List DatasetCell) := do
  forM entries fun entry => checkSignature runtime providerId metricId initial.metric entry.metric
  checkArtifacts runtime providerId metricId entries
  throwIf ((Keyed.setOf (entries.flatMap (passPolicies providerId metricId))).length > 1)
    s!"Incompatible pass policies: {providerId}/{metricId}"
  let clusters := (← entries.mapM (clustersOf providerId metricId)).flatten
  let cells := clusters.mapIdx fun i cluster =>
    cellOf providerId metricId (combinedIndex entries i cluster) cluster
  let replicates := clusters.mapIdx fun i cluster =>
    { cluster.replicate with index := combinedIndex entries i cluster }
  let metric ←
    if entries.length = 1 then pure initial.metric else pooledMetric initial.metric replicates
  return (metric, cells)

def entriesOf (metricId : String) (contributions : List Contribution) : List Entry :=
  contributions.flatMap fun c =>
    (c.provider.metrics.filter fun m => m.metricId = metricId).map fun metric => ⟨c, metric⟩

/-- Of the derived metrics, only the price is kept, as it was published last. -/
def poolMetric (providerId : String) (contributions : List Contribution) (metricId : String) :
    Except String (List MetricResult × List DatasetCell) :=
  match entriesOf metricId contributions with
  | [] => return ([], [])
  | initial :: later =>
    let entries := initial :: later
    if isDerivedMetric catalog initial.metric then
      let last := (entries.getLast?.getD initial).metric
      return (if metricId = "usd_per_hour" then [last] else [], [])
    else do
      let (metric, cells) ← poolMeasured runtime providerId metricId initial entries
      return ([metric], cells)

/-! ### One provider -/

def contributionsOf (sources : List Run) (providerId : String) : List Contribution :=
  sources.flatMap fun run =>
    (run.providers.filter fun p => p.providerId = providerId).map fun provider => ⟨run, provider⟩

def metricIdsOf (contributions : List Contribution) : List String :=
  CodeUnits.sorted (Keyed.setOf (contributions.flatMap fun c => c.provider.metrics.map (·.metricId)))

def sourcedGap (run : Run) (gap : ResultGap) : ResultGap :=
  let runId := run.runId
  { gap with reason := s!"[{runId}] {gap.reason}" }

def pooledRow (contributions : List Contribution) (latest : ProviderRun)
    (metrics : List MetricResult) (mixtures : Option ObservedMixtures) : ProviderRun :=
  let slices := contributions.map (·.provider)
  let failed := slices.find? fun p => p.specMatched = some false
  { latest with
    metrics := metrics
    validationStatus := if metrics.isEmpty then .pending else .validated
    specMatched := if failed.isSome then some false else latest.specMatched
    observedSpecs := (failed.map (·.observedSpecs)).getD latest.observedSpecs
    observedMixtures := mixtures <|> latest.observedMixtures
    suitesCovered := CodeUnits.sorted (Keyed.setOf (slices.flatMap (·.suitesCovered)))
    gaps := contributions.flatMap fun c => c.provider.gaps.map (sourcedGap c.run)
    costEvidence := some (slices.flatMap fun p => p.costEvidence.getD [])
    artifactEvidence := some (slices.flatMap fun p => p.artifactEvidence.getD [])
    hostMetadata := some (slices.flatMap fun p => p.hostMetadata.getD [])
    uncatalogued := slices.flatMap (·.uncatalogued) }

def poolProvider (sources : List Run) (providerId : String) :
    Except String (ProviderRun × List DatasetCell) := do
  let contributions := contributionsOf sources providerId
  let latest ← require contributions.getLast? s!"Missing provider {providerId}"
  let pools ← (metricIdsOf contributions).mapM (poolMetric runtime catalog providerId contributions)
  let mixtures ← mergeMixtures runtime (contributions.map (·.provider))
  return (pooledRow contributions latest.provider (pools.flatMap Prod.fst) mixtures,
    pools.flatMap Prod.snd)

/-! ### Several runs -/

/-- One input of the loop that keeps each run once. -/
def collect (byId : List (String × Run)) (input : Run) : Except String (List (String × Run)) := do
  let run ← parseRun catalog input
  match Keyed.get? byId run.runId with
  | none => return Keyed.set byId run.runId run
  | some previous => do
    let before ← evidenceDigest runtime (catalog.document previous)
    let after ← evidenceDigest runtime (catalog.document run)
    throwIf (before ≠ after) s!"Conflicting dataset {run.runId}"
    return Keyed.set byId run.runId run

/-- `a.generatedAt.localeCompare(b.generatedAt) || a.runId.localeCompare(b.runId)` -/
def compareSources (a b : Run) : Ordering :=
  (runtime.localeCompare a.generatedAt b.generatedAt).then (runtime.localeCompare a.runId b.runId)

def sortedSources (byId : List (String × Run)) : List Run :=
  (byId.map Prod.snd).insertionSort fun a b => compareSources runtime a b ≠ .gt

def checkTarget (first run : Run) : Except String Unit := do
  let own ← canonicalJsonString runtime.toJsonRuntime providerResponseLimits run.targetSpec.toJson
  let expected ← canonicalJsonString runtime.toJsonRuntime providerResponseLimits
    first.targetSpec.toJson
  throwIf (own ≠ expected) "Cannot pool different requested resource targets"

/-- Different or missing cohort digests. -/
def cohortMismatch (sources : List Run) : Bool :=
  let cohorts := Keyed.setOf (sources.map fun r => r.experiment.bind (·.cohortDigest))
  decide (cohorts.length ≠ 1) || cohorts.contains none

def checkSourceId (seen : List String) (id : String) : Except String (List String) := do
  throwIf (id ∈ seen) s!"Overlapping source run {id}"
  return seen ++ [id]

def checkAttempt (seen : List String) (id : String) : Except String (List String) := do
  throwIf (id ∈ seen) s!"Overlapping attempt {id}; cannot count a measurement twice"
  return seen ++ [id]

def checkSandbox (seen : List String) (key : String) : Except String (List String) := do
  throwIf (key ∈ seen) s!"Reused sandbox {key}; independence is not established"
  return seen ++ [key]

def sandboxKeys (run : Run) : List String :=
  run.providers.flatMap fun provider =>
    (provider.artifactEvidence.getD []).map fun evidence =>
      provider.providerId ++ ":" ++ evidence.sandboxId

/-- No attempt and no sandbox counts twice. -/
def checkIndependent (seen : List String × List String) (run : Run) :
    Except String (List String × List String) := do
  let attempts ← ((run.experiment.map (·.attemptIds)).getD []).foldlM checkAttempt seen.1
  let sandboxes ← (sandboxKeys run).foldlM checkSandbox seen.2
  return (attempts, sandboxes)

def providerIdsOf (sources : List Run) : List String :=
  CodeUnits.sorted (Keyed.setOf (sources.flatMap fun r => r.providers.map (·.providerId)))

def poolingNotesOf (mismatch : Bool) (review : String) : List String :=
  ["Exploratory pooled sandbox analysis: each sandbox has one vote, regardless of its trial count. Intervals resample whole sandboxes and assume exchangeability across these selected runs; they do not quantify future-run variability or correct run/date effects."] ++
    (if mismatch then [s!"Different comparison cohorts. Review: {review}"] else []) ++
    ["Original experiments retain their separate completeness records. Missing cells are never zero-valued observations. Only hourly price is retained from the latest contributing dataset; other derived metrics are omitted."]

/-- The pooled view of at least two sources, in their order. -/
def poolSources (options : CombineDatasetsOptions) (first : Run) (sources : List Run) :
    Except String PooledDataset := do
  forM sources (checkTarget runtime first)
  throwIf (cohortMismatch sources = true ∧ unreviewed options.cohortReview = true)
    "Datasets have different or missing cohort digests; supply a documented cohortReview for an exploratory pooling analysis"
  let _ ← (sources.flatMap fun run => run.runId.splitOn "+").foldlM checkSourceId []
  let _ ← sources.foldlM checkIndependent ([], [])
  let rows ← (providerIdsOf sources).mapM (poolProvider runtime catalog sources)
  return {
    runId := "+".intercalate (sources.map (·.runId))
    sha := first.sha
    generatedAt := (sources.getLast?.getD first).generatedAt
    targetSpec := first.targetSpec
    providers := rows.map Prod.fst
    sources := sources
    poolingNotes := poolingNotesOf (cohortMismatch sources) (options.cohortReview.getD "undefined")
    cells := rows.flatMap Prod.snd }

/-- Union independent sandbox cells, retaining trials inside their original clusters. -/
def combineLeaderboardDatasets (options : CombineDatasetsOptions) (inputs : List Run) :
    Except String LeaderboardDataset := do
  let byId ← inputs.foldlM (collect runtime catalog) []
  match sortedSources runtime byId with
  | [] => throw "At least one dataset is required"
  | [only] => do
    let name := only.runId
    throwIf (inputs.length > 1)
      s!"{inputs.length} datasets requested but all name Run {name}; pass distinct datasets"
    return .published only
  | first :: second :: rest =>
    return .pooled (← poolSources runtime catalog options first (first :: second :: rest))

end

end LeaderboardDatasets
