import SandboxBenchmarks.Library.Sorting
import SandboxBenchmarks.RunSchema

/-!
# Merging shards

`packages/results/src/lib/aggregate.ts`, with `observed-mixtures.ts`,
`computeSpecMatched` of `specs.ts` and the economics of
`packages/schema/src/economics.ts`. Arithmetic is exact.
-/

namespace Aggregate

open CanonicalJson Checks CodeUnits JsonText PlanVerification RunModel RunSchema

/-! ### Observed mixtures -/

def SpecValue.toJson : SpecValue → Value
  | .number q => .num q
  | .text s => .str s

/-- One category's projection of a reading, with the content hash that identifies it. -/
structure Category where
  specs : ObservedSpecs
  canonical : String
  id : String
deriving DecidableEq, Repr

def entryJson (entry : String × SpecValue) : Value := .arr [.str entry.1, SpecValue.toJson entry.2]

section
variable (runtime : Runtime)

/-- The defined fields of a category, keys sorted. -/
def categoryEntries (specs : ObservedSpecs) (keys : List String) : ObservedSpecs :=
  (keys.filterMap (fun key => (Keyed.get? specs key).map (fun value => (key, value)))).insertionSort
    (fun a b => CodeUnits.le a.1 b.1)

def canonicalEntries (entries : ObservedSpecs) : String :=
  String.ofList (text runtime.number (.arr (entries.map entryJson)))

/-- `createHash("sha256").update(canonical).digest("hex").slice(0, 16)` -/
def contentId (canonical : String) : String :=
  String.ofList ((runtime.sha256 canonical).toList.take 16)

def categoryOf (specs : ObservedSpecs) (keys : List String) : Option Category :=
  match categoryEntries specs keys with
  | [] => none
  | entries =>
    let canonical := canonicalEntries runtime entries
    some ⟨entries, canonical, contentId runtime canonical⟩

structure Tally where
  canonical : String
  count : Nat
  specs : ObservedSpecs
deriving DecidableEq, Repr

def tallyReading (keys : List String) (byId : List (String × Tally)) (reading : ObservedSpecs) :
    Except String (List (String × Tally)) :=
  match categoryOf runtime reading keys with
  | none => return byId
  | some category =>
    match Keyed.get? byId category.id with
    | none => return Keyed.set byId category.id ⟨category.canonical, 1, category.specs⟩
    | some existing => do
      -- a silent collision would merge two machine shapes under a summed count
      throwIf (existing.canonical ≠ category.canonical)
        s!"observed-mixtures hash collision on id {category.id}: {existing.canonical} vs {category.canonical}"
      return Keyed.set byId category.id { existing with count := existing.count + 1 }

/-- Dominance: most common first, ties by id. -/
def byDominance (a b : String × Nat) : Bool :=
  decide (b.2 < a.2) || (a.2 == b.2 && CodeUnits.le a.1 b.1)

def tallyCategory (readings : List ObservedSpecs) (keys : List String) :
    Except String (List (String × Tally)) := do
  let byId ← readings.foldlM (tallyReading runtime keys) []
  return byId.insertionSort (fun a b => byDominance (a.1, a.2.count) (b.1, b.2.count))

def pinnedTarget : TargetSpec := ⟨4, 8, some 40⟩

def numberOf (specs : ObservedSpecs) (key : String) : Option ℚ :=
  match Keyed.get? specs key with
  | some (.number q) => some q
  | _ => none

/-- Disk is a gate, not an axis: only vCPUs and memory decide. -/
def computeSpecMatched (specs : ObservedSpecs) : Option Bool :=
  match numberOf specs "vcpus", numberOf specs "memoryGb" with
  | some vcpus, some memoryGb =>
    let memoryOk := decide (|memoryGb - pinnedTarget.memoryGb| ≤ pinnedTarget.memoryGb / 10)
    some (vcpus == pinnedTarget.vcpus && memoryOk)
  | _, _ => none

def buildObservedMixtures (readings : List ObservedSpecs) :
    Except String (Option ObservedMixtures) := do
  if readings.isEmpty then return none
  let hardware ← tallyCategory runtime readings hostHardwareSpecKeys
  let network ← tallyCategory runtime readings hostNetworkSpecKeys
  return some {
    sandboxes := readings.length
    hostHardware := hardware.map (fun e =>
      (e.1, ⟨e.2.count, e.2.specs, computeSpecMatched e.2.specs⟩))
    hostNetwork := network.map (fun e => (e.1, ⟨e.2.count, e.2.specs⟩)) }

def observedMixtureIds (specs : ObservedSpecs) : ObservedMixtureIds where
  hostHardwareId := (categoryOf runtime specs hostHardwareSpecKeys).map (·.id)
  hostNetworkId := (categoryOf runtime specs hostNetworkSpecKeys).map (·.id)

/-- `Object.entries(category).sort(byDominance)[0]?.[1].specs` -/
def dominant (category : List (String × Nat × ObservedSpecs)) : ObservedSpecs :=
  match category.insertionSort (fun a b => byDominance (a.1, a.2.1) (b.1, b.2.1)) with
  | [] => []
  | (_, _, specs) :: _ => specs

/-- Exactly the dominant machine and the dominant egress network. -/
def representativeSpecs (mixtures : ObservedMixtures) : ObservedSpecs :=
  (dominant (mixtures.hostNetwork.map (fun e => (e.1, e.2.count, e.2.specs)))).foldl
    (fun specs entry => Keyed.set specs entry.1 entry.2)
    (dominant (mixtures.hostHardware.map (fun e => (e.1, e.2.count, e.2.specs))))

/-! ### Host metadata -/

structure HostMetadataRecordInput where
  record : HostMetadataRecord
  ids : ObservedMixtureIds
deriving DecidableEq, Repr

def isVolatileHostMetadataPath (path : String) : Bool :=
  ".timestamp".toList.isSuffixOf path.toList

def byLocale {α : Type} (key : α → String) (l : List α) : List α :=
  l.insertionSort (Sorting.upTo runtime.localeCompare key)

def hostMetadataKey (record : HostMetadataRecord) (ids : ObservedMixtureIds)
    (stable : List HostMetadataField) : String :=
  let nullable (id : Option String) : Value := (id.map .str).getD .null
  runtime.sha256 (String.ofList (text runtime.number (.arr [.str record.source,
    .str record.sourceFile, nullable ids.hostHardwareId, nullable ids.hostNetworkId,
    .arr ((byLocale runtime (·.path) stable).map (fun f => .arr [.str f.path, .str f.value]))])))

/-- Volatile fields are dropped from a record that speaks for several sandboxes. -/
def foldHostRecord (byKey : List (String × HostMetadataRecord)) (input : HostMetadataRecordInput) :
    List (String × HostMetadataRecord) :=
  let stable := input.record.fields.filter (fun f => ! isVolatileHostMetadataPath f.path)
  let key := hostMetadataKey runtime input.record input.ids stable
  match Keyed.get? byKey key with
  | some existing =>
    Keyed.set byKey key
      { existing with sandboxes := some (existing.sandboxes.getD 1 + 1), fields := stable }
  | none =>
    Keyed.set byKey key
      { input.record with sandboxes := some 1, ids := input.ids.over input.record.ids }

def foldHostMetadata (records : List HostMetadataRecordInput) : List HostMetadataRecord :=
  (records.foldl (foldHostRecord runtime) []).map Prod.snd

/-! ### Gaps -/

def causeKey (cause : GapCause) : String :=
  String.ofList (text runtime.number (.obj cause.fields))

/-- Any classification beats none; between two the canonically smaller wins. -/
def preferCause (current : Option GapCause) (next : GapCause) : Bool :=
  match current with
  | none => true
  | some current => CodeUnits.lt (causeKey runtime next) (causeKey runtime current)

def gapKey (gap : ResultGap) : String :=
  "\x00".intercalate [gap.scope.text, gap.id, gap.outcome.text, gap.reason]

def addGap (gapByKey : List (String × ResultGap)) (gap : ResultGap) : List (String × ResultGap) :=
  match Keyed.get? gapByKey (gapKey gap) with
  | none => Keyed.set gapByKey (gapKey gap) gap
  | some existing =>
    match gap.cause with
    | none => gapByKey
    | some cause =>
      if preferCause runtime existing.cause cause then
        Keyed.set gapByKey (gapKey gap) { existing with cause := some cause }
      else gapByKey

/-! ### Evidence -/

/-- A kind of evidence: its name in errors, and what merging reads of a record. -/
structure EvidenceKind (ε : Type) where
  name : String
  cell : ε → ProviderCostCell
  sandboxId : ε → Option String
  toJson : ε → Value

def costEvidenceKind : EvidenceKind ProviderCostEvidence :=
  ⟨"cost", (·.cell), (·.subject.sandboxId), (·.toJson)⟩

def artifactEvidenceKind : EvidenceKind ProviderArtifactEvidence :=
  ⟨"artifact", (·.cell), fun e => some e.sandboxId, (·.toJson)⟩

structure EvidenceFile (ε : Type) where
  byCell : List (String × ε)
  sandboxCells : List (String × String)

variable {ε : Type} (kind : EvidenceKind ε)

def EvidenceKind.key (record : ε) : String := providerCostCellKey (kind.cell record)

/-- The first record of a cell stays; another one must say the same. -/
def fileByCell (byCell : List (String × ε)) (record : ε) : Except String (List (String × ε)) :=
  match Keyed.get? byCell (kind.key record) with
  | none => return Keyed.set byCell (kind.key record) record
  | some existing => do
    let known ← canonicalJsonString runtime.toJsonRuntime providerEvidenceJsonLimits
      (kind.toJson existing)
    let json ← canonicalJsonString runtime.toJsonRuntime providerEvidenceJsonLimits
      (kind.toJson record)
    throwIf (known ≠ json)
      s!"aggregateRuns: conflicting provider {kind.name} evidence for cell {kind.key record}"
    return byCell

/-- A sandbox belongs to one cell. -/
def fileSandbox (sandboxCells : List (String × String)) (record : ε) :
    Except String (List (String × String)) :=
  match kind.sandboxId record with
  | none => return sandboxCells
  | some sandboxId => do
    throwIf ((Keyed.get? sandboxCells sandboxId).any (fun prior => prior ≠ kind.key record) = true)
      s!"aggregateRuns: provider {kind.name} sandbox {sandboxId} is reused across cells"
    return Keyed.set sandboxCells sandboxId (kind.key record)

def fileEvidence (file : EvidenceFile ε) (record : ε) : Except String (EvidenceFile ε) := do
  let byCell ← fileByCell runtime kind file.byCell record
  let sandboxCells ← fileSandbox kind file.sandboxCells record
  return ⟨byCell, sandboxCells⟩

end

/-! ### Metrics -/

section
variable (runtime : Runtime) (catalog : Catalog)

def isDerivedMetric (metric : MetricResult) : Bool :=
  metric.derived || (catalog.getMetric metric.metricId).any (·.derived)

/-- One replicate's contribution, with the mixture ids of the sandbox that produced it. -/
structure ReplicateContribution where
  metric : MetricResult
  ids : ObservedMixtureIds
deriving DecidableEq, Repr

abbrev ByReplicate := List (Nat × ReplicateContribution)

/-- Within one replicate the first listing of a metric stays. -/
def addMetric (replicateIndex : Nat) (ids : ObservedMixtureIds)
    (byMetric : List (String × ByReplicate)) (metric : MetricResult) :
    List (String × ByReplicate) :=
  if isDerivedMetric catalog metric then byMetric
  else
    let byReplicate := (Keyed.get? byMetric metric.metricId).getD []
    if Keyed.has byReplicate replicateIndex then byMetric
    else
      Keyed.set byMetric metric.metricId (Keyed.set byReplicate replicateIndex ⟨metric, ids⟩)

def replicateOf (entry : Nat × ReplicateContribution) : MetricReplicate where
  index := entry.1
  samples := entry.2.metric.samples
  ptsSampleSource := entry.2.metric.ptsSampleSource
  ids := entry.2.ids

def pooled (first : MetricReplicate) (rest : List MetricReplicate) : Samples where
  values := (first :: rest).flatMap (·.samples.values)
  nonempty := by
    intro empty
    exact first.samples.nonempty (List.append_eq_nil_iff.mp empty).1

/-- One replicate is kept as it is, attributed to its sandbox; several are pooled in index order. -/
def mergeMetricReplicates (byReplicate : ByReplicate) : Option MetricResult :=
  match byReplicate.insertionSort (fun a b => a.1 ≤ b.1) with
  | [] => none
  | [(_, only)] => some { only.metric with ids := only.ids.over only.metric.ids }
  | first :: rest =>
    let samples := pooled (replicateOf first) (rest.map replicateOf)
    some { first.2.metric with
      samples := samples
      aggregates := aggregate samples
      ptsSampleSource := none
      replicates := some ((first :: rest).map replicateOf) }

/-- The lifecycle metrics of the harness. -/
def lifecycleMetricIds : List String :=
  ["lifecycle_spawn_ms", "lifecycle_cold_start_ms", "lifecycle_time_to_first_exec_ms",
    "lifecycle_exec_ms", "lifecycle_snapshot_ms", "lifecycle_teardown_ms"]

def economicsResult (metricId : String) (value : ℚ) : MetricResult where
  metricId := metricId
  samples := ⟨[value], by simp⟩
  aggregates := aggregate ⟨[value], by simp⟩
  sourceFile := none
  appVersion := none
  arguments := none
  ptsSampleSource := none
  replicates := none
  ids := ⟨none, none⟩
  derived := true

def burstCostPerRun (hourlyUsd runtimeMs : ℚ) : ℚ := hourlyUsd * (runtimeMs / 3600000)

/-- Hourly cost, and the cost of the lifecycle when any of it was measured. -/
def deriveEconomics (hourly : Option ℚ) (measured : List MetricResult) : List MetricResult :=
  match hourly with
  | none => []
  | some hourly =>
    let lifecycle := measured.filter (fun m => lifecycleMetricIds.contains m.metricId)
    let lifecycleMs := (lifecycle.map (fun m => m.aggregates.mean)).sum
    economicsResult "usd_per_hour" hourly ::
      (if lifecycle.isEmpty then []
        else [economicsResult "usd_per_lifecycle" (burstCostPerRun hourly lifecycleMs)])

/-! ### One provider -/

/-- One provider's slice of one shard, with the replicate it was measured under. -/
structure ReplicateSlice where
  slice : ProviderRun
  replicateIndex : Nat

/-- A single `false` is sticky, `true` stands while nothing contradicts it. -/
def foldVerdict (current next : Option Bool) : Option Bool :=
  if next = some false ∨ current = some false then some false
  else if next = some true then some true else current

/-- What one pass over the slices collects. -/
structure Merge where
  byMetric : List (String × ByReplicate)
  gapByKey : List (String × ResultGap)
  suitesCovered : List String
  uncatalogued : List UncataloguedResult
  specMatched : Option Bool
  sandboxSpecReadings : List ObservedSpecs
  hostMetadataInputs : List HostMetadataRecordInput
  cost : EvidenceFile ProviderCostEvidence
  artifact : EvidenceFile ProviderArtifactEvidence

def Merge.empty : Merge :=
  ⟨[], [], [], [], none, [], [], ⟨[], []⟩, ⟨[], []⟩⟩

def addStraggler (uncatalogued : List UncataloguedResult) (straggler : UncataloguedResult) :
    List UncataloguedResult :=
  if straggler.id ∈ uncatalogued.map (·.id) then uncatalogued else uncatalogued ++ [straggler]

/-- Only slices with participation evidence count as sandbox readings. -/
def addReading (readings : List ObservedSpecs) (slice : ProviderRun) : List ObservedSpecs :=
  if providerReportedNothing slice then readings else readings ++ [slice.observedSpecs]

def hostMetadataOf (slice : ProviderRun) : List HostMetadataRecordInput :=
  (slice.hostMetadata.getD []).map (fun record =>
    ⟨record, observedMixtureIds runtime slice.observedSpecs⟩)

def mergeSlice (merge : Merge) (entry : ReplicateSlice) : Except String Merge := do
  let slice := entry.slice
  let ids := observedMixtureIds runtime slice.observedSpecs
  let cost ← (slice.costEvidence.getD []).foldlM (fileEvidence runtime costEvidenceKind) merge.cost
  let artifact ← (slice.artifactEvidence.getD []).foldlM
    (fileEvidence runtime artifactEvidenceKind) merge.artifact
  return {
    byMetric := slice.metrics.foldl (addMetric catalog entry.replicateIndex ids) merge.byMetric
    gapByKey := slice.gaps.foldl (addGap runtime) merge.gapByKey
    suitesCovered := slice.suitesCovered.foldl Keyed.add merge.suitesCovered
    uncatalogued := slice.uncatalogued.foldl addStraggler merge.uncatalogued
    specMatched := foldVerdict merge.specMatched slice.specMatched
    sandboxSpecReadings := addReading merge.sandboxSpecReadings slice
    hostMetadataInputs := merge.hostMetadataInputs ++ hostMetadataOf runtime slice
    cost := cost
    artifact := artifact }

/-- Suite, then replicate with none first, then sandbox. -/
def byEvidenceCell {ε : Type} (kind : EvidenceKind ε) (a b : ε) : Bool :=
  let replicate (record : ε) : Int := ((kind.cell record).replicateIndex.map (fun r => (r : Int))).getD (-1)
  ((runtime.localeCompareEn (kind.cell a).suite (kind.cell b).suite).then
    ((compare (replicate a) (replicate b)).then
      (runtime.localeCompareEn ((kind.sandboxId a).getD "") ((kind.sandboxId b).getD "")))) != .gt

def sortedEvidence {ε : Type} (kind : EvidenceKind ε) (byCell : List (String × ε)) : List ε :=
  (byCell.map Prod.snd).insertionSort (fun a b => byEvidenceCell runtime kind a b)

/-- Economics are derived again from everything measured, and only enrich a measured row. -/
def publishedMetrics (providerId : String) (targetSpec : TargetSpec)
    (measured : List MetricResult) : List MetricResult :=
  let hourly := (catalog.hourlyCostAtTargetSpec providerId).bind (fun cost => cost targetSpec)
  byLocale runtime (·.metricId)
    (measured ++ if measured.isEmpty then [] else deriveEconomics hourly measured)

/-- The per-machine verdicts are folded into the row's own. -/
def foldMixtures (specMatched : Option Bool) (mixtures : Option ObservedMixtures) : Option Bool :=
  ((mixtures.map (·.hostHardware)).getD []).foldl
    (fun verdict entry => foldVerdict verdict entry.2.specMatched) specMatched

def mergedRow (providerId : String) (targetSpec : TargetSpec) (emitArtifactEvidence : Bool)
    (merge : Merge) (observedMixtures : Option ObservedMixtures) : ProviderRun :=
  let measured := merge.byMetric.filterMap (fun entry => mergeMetricReplicates entry.2)
  let metrics := publishedMetrics runtime catalog providerId targetSpec measured
  let hostMetadata := foldHostMetadata runtime merge.hostMetadataInputs
  { providerId := providerId
    costEvidence := some (sortedEvidence runtime costEvidenceKind merge.cost.byCell)
    artifactEvidence :=
      if emitArtifactEvidence then
        some (sortedEvidence runtime artifactEvidenceKind merge.artifact.byCell)
      else none
    validationStatus := if metrics.isEmpty then .pending else .validated
    specMatched := foldMixtures merge.specMatched observedMixtures
    observedSpecs := (observedMixtures.map representativeSpecs).getD []
    observedMixtures := observedMixtures
    hostMetadata := if hostMetadata.isEmpty then none else some hostMetadata
    metrics := metrics
    suitesCovered := byLocale runtime id merge.suitesCovered
    gaps := merge.gapByKey.map Prod.snd
    uncatalogued := merge.uncatalogued }

def mergeProvider (providerId : String) (entries : List ReplicateSlice) (targetSpec : TargetSpec)
    (emitArtifactEvidence : Bool) : Except String ProviderRun := do
  let merge ← entries.foldlM (mergeSlice runtime catalog) Merge.empty
  let observedMixtures ← buildObservedMixtures runtime merge.sandboxSpecReadings
  return mergedRow runtime catalog providerId targetSpec emitArtifactEvidence merge observedMixtures

/-! ### All shards -/

/-- One shard against the first: run, revision and target. -/
def checkIdentity (first run : Run) : Except String Unit := do
  let stringify (spec : TargetSpec) : String := String.ofList (text runtime.number spec.toJson)
  throwIf (run.runId ≠ first.runId ∨ run.sha ≠ first.sha)
    s!"aggregateRuns: shard identity mismatch — expected runId={first.runId} sha={first.sha}, got runId={run.runId} sha={run.sha}"
  throwIf (run.targetSpec ≠ first.targetSpec)
    s!"aggregateRuns: shard target spec mismatch — expected {stringify first.targetSpec}, got {stringify run.targetSpec}"

/-- A provider's slices in shard order; a shard without a replicate index is replicate 0. -/
def slicesOf (providerId : String) (runs : List Run) : List ReplicateSlice :=
  runs.flatMap (fun run => (run.providers.filter (fun p => p.providerId == providerId)).map
    (fun slice => ⟨slice, run.replicateIndex.getD 0⟩))

def providerIdsOf (runs : List Run) : List String :=
  byLocale runtime id (Keyed.setOf (runs.flatMap (fun run => run.providers.map (·.providerId))))

/-- The run is as of its last shard. -/
def latest (runs : List Run) : String :=
  ((byLocale runtime id (runs.map (·.generatedAt))).getLast?).getD ""

def mergedRun (first : Run) (runs : List Run) (emitArtifactEvidence : Bool)
    (providers : List ProviderRun) : Run where
  schemaVersion := if emitArtifactEvidence then 6 else 5
  runId := first.runId
  sha := first.sha
  generatedAt := latest runtime runs
  sourceRunUrl := runs.findSome? (·.sourceRunUrl)
  replicateIndex := none
  experiment := none
  targetSpec := first.targetSpec
  providers := providers

def aggregateRuns (runs : List Run) : Except String Run := do
  throwIf (runs.any (fun run => run.experiment.isSome) = true)
    "aggregateRuns cannot merge completed experiments; use original planned attempts to preserve eligibility and provenance"
  let first ← require runs.head? "aggregateRuns requires at least one shard Run"
  let emitArtifactEvidence := runs.all (fun run => decide (6 ≤ run.schemaVersion))
  throwIf (emitArtifactEvidence = false ∧ runs.any (fun run => decide (6 ≤ run.schemaVersion)) = true)
    "aggregateRuns: cannot mix v6 artifact-attributed shards with older shards"
  forM runs (checkIdentity runtime first)
  let providers ← (providerIdsOf runtime runs).mapM (fun id =>
    mergeProvider runtime catalog id (slicesOf id runs) first.targetSpec emitArtifactEvidence)
  parseRun catalog (mergedRun runtime first runs emitArtifactEvidence providers)

end

end Aggregate
