import SandboxBenchmarks.ExtractProvider

/-!
# Normalizing a raw tree

`packages/results/src/lib/normalize-tree.ts`: the directory of each provider becomes a
row of one Run. A directory comes with its listing; evidence files, host metadata and
probed specs come as their readers return them. Warnings are left out.
-/

namespace NormalizeTree

open Aggregate CanonicalJson Checks ExtractProvider GapMarkers Keyed RunModel RunSchema SuiteContract
open PlanVerification hiding suites

/-! ### Raw directories -/

/-- A subdirectory of a provider; an evidence file is `none` where there is none. -/
structure Subdirectory where
  name : String
  files : List RawFile
  artifactEvidence : Option (Except String ProviderArtifactEvidence)
  costEvidence : Option (Except String ProviderCostEvidence)
  /-- `readHostMetadata` -/
  hostMetadata : List HostMetadataRecord

structure ProviderDir where
  subdirectories : List Subdirectory
  distinct : (subdirectories.map (·.name)).Nodup
  files : List RawFile
  hostMetadata : List HostMetadataRecord
  /-- `readObservedSpecs` -/
  probeSpecs : ObservedSpecs

structure NormalizeInput where
  rawRoot : String → Option ProviderDir
  runId : String
  sha : String
  generatedAt : String
  sourceRunUrl : Option String
  replicateIndex : Option Nat

/-! ### Metrics and leaves -/

/-- `text.split(separator)`, for one character. -/
def split (text : String) (separator : Char) : List String :=
  (text.toList.splitOn separator).map String.ofList

section
variable (metrics : MetricCatalog)

/-- `pts/git` → `pts_git` -/
def metricLeafBase (metricId : String) : Option String :=
  match (metrics.entries.find? (fun metric => metric.id == metricId)).bind (·.pts) with
  | none => none
  | some pts =>
    match (split pts.test '/').getLast? with
    | none => none
    | some profile => if profile = "" then none else some s!"pts_{profile}"

/-- A marker names the PTS test of a metric, perhaps with a scenario. -/
def leafMatchesMetricTest (leaf metricId : String) : Bool :=
  match metricLeafBase metrics metricId with
  | none => false
  | some base => leaf == base || startsWith leaf s!"{base}-"

def scenarioAlias (token : String) : String :=
  if token = "rand" then "random" else if token = "seq" then "sequential" else token

/-- Scenario tokens of a leaf are matched against the metric id. -/
def leafOwnsMetric (leaf metricId : String) : Bool :=
  match metricLeafBase metrics metricId with
  | none => false
  | some base =>
    if leafMatchesMetricTest metrics leaf metricId = false then false
    else if leaf = base then true
    else
      let rest := String.ofList (leaf.toList.drop (base.toList.length + 1))
      ((split rest '-').map scenarioAlias).all (fun token => includes metricId s!"_{token}")

/-- The one suite that declares a metric of a leaf's test. -/
def suiteForLeaf (leaf : String) : Option String :=
  match suiteNames.filter (fun suite =>
      (suiteMetrics suite).any (fun metricId => leafMatchesMetricTest metrics leaf metricId)) with
  | [suite] => some suite
  | _ => none

end

/-! ### Gaps normalization derives -/

def declaredMetricCount (suite : String) (fallback : Nat) : Nat :=
  ((get? suites suite).map (·.metrics.length)).getD fallback

def shortfallReason (suite : String) (missing : List AttemptedEmptyResult) : String :=
  let list := ", ".intercalate (missing.map (fun e => s!"{e.metricId} ({e.sourceFile})"))
  let count := missing.length
  let declared := declaredMetricCount suite count
  s!"PTS ran but every trial failed for {count} of {declared} declared metrics: {list} — attempted, no value recorded"

def shortfallCause (suite : String) (missing : List AttemptedEmptyResult) : GapCause :=
  .metricsUnrecorded (missing.map (·.metricId)) (declaredMetricCount suite missing.length)

/-- An fio twin whose Result PTS omitted; the file is that of the surviving twin. -/
structure DroppedTwinResult where
  metricId : String
  sourceFile : String
deriving DecidableEq, Repr

def twinDropReason (dropped : List DroppedTwinResult) : String :=
  let list := ", ".intercalate
    (dropped.map (fun d => s!"{d.metricId} (twin survived in {d.sourceFile})"))
  let count := dropped.length
  let plural := if count = 1 then "" else "s"
  s!"PTS duplicate-value dedup dropped {count} fio twin result{plural} (MB/s == IOPS at this block size, so the duplicate-valued <Result> was never written): {list}"

def twinDropCause (dropped : List DroppedTwinResult) : GapCause :=
  .duplicateValueDedup (dropped.map (·.metricId))

def failedSuiteGap (suite reason : String) (cause : GapCause) : ResultGap where
  scope := .suite
  id := suite
  outcome := .failed
  reason := reason
  cause := some cause

def mbSuffix : String := "_mb_per_s"

def iopsSuffix : String := "_iops"

/-- Only at this block size do the two scales agree. -/
def twinEqualityMarker : String := "_block_size_1mb_"

/-- What a suite's evidence is diffed against; disk keeps its historical observations. -/
def declaredMetrics (suite : String) : List String :=
  if suite = "disk" then setOf (suiteMetrics suite ++ fioScenarioMetrics)
  else setOf (suiteMetrics suite)

section
variable (runtime : Runtime)

def byLocaleEn {α : Type} (key : α → String) (l : List α) : List α :=
  l.insertionSort (Sorting.upTo runtime.localeCompareEn key)

def twinPairs (declared : List String) : List (String × String) :=
  (byLocaleEn runtime id declared).filterMap (fun metricId =>
    if endsWith metricId mbSuffix = true ∧ includes metricId twinEqualityMarker = true then
      let iops := dropEnd metricId mbSuffix.toList.length ++ iopsSuffix
      if iops ∈ declared then some (metricId, iops) else none
    else none)

/-! ### Evidence of one suite directory -/

def addMissing (suite : String) (declared produced : List String)
    (missingById : List (String × AttemptedEmptyResult)) (e : AttemptedEmptyResult) :
    List (String × AttemptedEmptyResult) :=
  if e.metricId ∉ declared ∨ e.metricId ∈ produced then missingById
  else if has missingById e.metricId then missingById
  else set missingById e.metricId ⟨e.metricId, s!"{suite}/{e.sourceFile}"⟩

/-- Declared metrics attempted and empty, that no file of the suite produced. -/
def shortfallEvidence (suite : String) (ext : ProviderExtraction) : List AttemptedEmptyResult :=
  let missingById := ext.attemptedEmpty.foldl
    (addMissing suite (declaredMetrics suite) (ext.contributions.map (·.metricId))) []
  byLocaleEn runtime (·.metricId) (missingById.map Prod.snd)

/-- The surviving twin is the proof that the scenario ran. -/
def droppedTwin (suite : String) (ext : ProviderExtraction) (twins : String × String) :
    Option DroppedTwinResult :=
  let produced := ext.contributions.map (·.metricId)
  if twins.1 ∉ produced ∨ twins.2 ∈ produced ∨
      twins.2 ∈ ext.attemptedEmpty.map (·.metricId) then none
  else
    match ext.contributions.find? (fun c => c.metricId == twins.1) with
    | none => none
    | some source =>
      -- beside a Result that failed to map, the dedup is no certain explanation
      if ext.unmappedPts.any (fun result => result.sourceFile == source.sourceFile) then none
      else some ⟨twins.2, s!"{suite}/{source.sourceFile}"⟩

def twinDropEvidence (suite : String) (ext : ProviderExtraction) : List DroppedTwinResult :=
  let pairs := twinPairs runtime (declaredMetrics suite)
  byLocaleEn runtime (·.metricId)
    (pairs.flatMap (fun pair => [pair, (pair.2, pair.1)].filterMap (droppedTwin suite ext)))

end

/-! ### Markers -/

/-- The gaps read from markers, and the failures they record of each suite. -/
structure Markers where
  gaps : List ResultGap
  foldedFailedLeaves : List (String × List String)
  harnessFailedSuites : List String
deriving DecidableEq, Repr

def Markers.push (markers : Markers) (g : ResultGap) : Markers :=
  { markers with gaps := markers.gaps ++ [g] }

/-- A leaf's marker becomes a gap of the suite, the leaf a part of its reason. -/
def foldedLeaf (suite : String) (g : ResultGap) : ResultGap :=
  let leaf := g.id
  let reason := g.reason
  { g with id := suite, reason := s!"{leaf}: {reason}" }

def Markers.foldLeaf (markers : Markers) (suite : String) (g : ResultGap) : Markers :=
  let leaves := (get? markers.foldedFailedLeaves suite).getD []
  let recorded := if g.outcome = .failed then
      { markers with
        foldedFailedLeaves := set markers.foldedFailedLeaves suite (add leaves g.id) }
    else markers
  recorded.push (foldedLeaf suite g)

def Markers.foldHarness (markers : Markers) (suite : String) (g : ResultGap) : Markers :=
  let recorded := if g.outcome = .failed then
      { markers with harnessFailedSuites := add markers.harnessFailedSuites suite }
    else markers
  recorded.push g

/-- A marker found in a suite's directory. -/
def foldNested (suite : String) (markers : Markers) (g : ResultGap) : Markers :=
  if g.scope ≠ .suite then markers.push g
  else if g.id = suite then markers.foldHarness suite g
  else markers.foldLeaf suite g

/-- The suite a marker without a directory names, itself or by a leaf. -/
def flatSuite (metrics : MetricCatalog) (g : ResultGap) : Option String :=
  if g.id ∈ suiteNames then some g.id else suiteForLeaf metrics g.id

/-- A marker found beside the suite directories. -/
def foldFlat (metrics : MetricCatalog) (markers : Markers) (g : ResultGap) : Markers :=
  if g.scope ≠ .suite then markers.push g
  else
    match flatSuite metrics g with
    | none => markers.push g
    | some suite =>
      if g.id = suite then markers.foldHarness suite g else markers.foldLeaf suite g

/-! ### Reading one provider -/

structure Reading where
  contributions : List SampleContribution
  rawUncatalogued : List UncataloguedResult
  markers : Markers
  suitesCovered : List String
  offDimension : List OffDimensionEmission
  hostMetadata : List HostMetadataRecord
  costEvidence : List ProviderCostEvidence
  artifactEvidence : List ProviderArtifactEvidence
  systemHost : Option ObservedSpecs
  suiteShortfalls : List (String × List AttemptedEmptyResult)
  suiteTwinDrops : List (String × List DroppedTwinResult)

def Reading.empty : Reading := ⟨[], [], ⟨[], [], []⟩, [], [], [], [], [], none, [], []⟩

section
variable (runtime : Runtime) (metrics : MetricCatalog) (providerId : String)

/-- A cell of evidence is that of the directory it lies in. -/
def checkIdentity (kind suite : String) (cell : ProviderCostCell) : Except String Unit :=
  let owner := cell.providerId
  let place := cell.suite
  throwIf (cell.providerId ≠ providerId ∨ cell.suite ≠ suite)
    s!"{kind} evidence identity mismatch: expected {providerId}/{suite}, got {owner}/{place}"

def fileArtifactEvidence (suite : String) (found : List ProviderArtifactEvidence)
    (parsed : Except String ProviderArtifactEvidence) :
    Except String (List ProviderArtifactEvidence) := do
  let evidence ← parsed
  checkIdentity providerId "artifact" suite evidence.cell
  match found.find? (fun record =>
      providerCostCellKey record.cell == providerCostCellKey evidence.cell) with
  | none => return found ++ [evidence]
  | some duplicate => do
    throwIf (canonicalJsonEqual runtime.toJsonRuntime duplicate.toJson evidence.toJson = false)
      s!"conflicting artifact evidence for {providerId}/{suite}"
    return found

def fileCostEvidence (suite : String) (found : List ProviderCostEvidence)
    (parsed : Except String ProviderCostEvidence) : Except String (List ProviderCostEvidence) := do
  let evidence ← parsed
  checkIdentity providerId "cost" suite evidence.cell
  return found ++ [evidence]

/-- A missing evidence file is no error, any other failure is. -/
def readEvidence {ε : Type} (suite filename : String) (found : List ε)
    (read : List ε → Except String ε → Except String (List ε))
    (file : Option (Except String ε)) : Except String (List ε) :=
  match file with
  | none => return found
  | some parsed =>
    (read found parsed).mapError (fun message =>
      s!"invalid {providerId}/{suite}/{filename}: {message}")

def within (suite sourceFile : String) : String := s!"{suite}/{sourceFile}"

def readSuite (reading : Reading) (dir : Subdirectory) : Except String Reading := do
  let suite := dir.name
  let artifactEvidence ← readEvidence providerId suite "provider-artifact-evidence.json"
    reading.artifactEvidence (fileArtifactEvidence runtime providerId suite) dir.artifactEvidence
  let costEvidence ← readEvidence providerId suite "provider-cost-evidence.json"
    reading.costEvidence (fileCostEvidence providerId suite) dir.costEvidence
  let ext ← extractProviderDir runtime metrics dir.files providerId
  let shortfall := shortfallEvidence runtime suite ext
  let dropped := twinDropEvidence runtime suite ext
  return {
    contributions := reading.contributions ++
      ext.contributions.map (fun c => { c with sourceFile := within suite c.sourceFile })
    rawUncatalogued := reading.rawUncatalogued ++
      ext.uncatalogued.map (fun u => { u with sourceFile := within suite u.sourceFile })
    markers := ext.gaps.foldl (foldNested suite) reading.markers
    suitesCovered :=
      if ext.contributions.isEmpty then reading.suitesCovered else add reading.suitesCovered suite
    offDimension := reading.offDimension ++
      offDimensionEmissions metrics suite (ext.contributions.map (·.metricId))
    hostMetadata := reading.hostMetadata ++
      dir.hostMetadata.map (fun r => { r with sourceFile := within suite r.sourceFile })
    costEvidence := costEvidence
    artifactEvidence := artifactEvidence
    systemHost := reading.systemHost <|> ext.observedHost
    suiteShortfalls :=
      if shortfall.isEmpty then reading.suiteShortfalls
      else set reading.suiteShortfalls suite shortfall
    suiteTwinDrops :=
      if dropped.isEmpty then reading.suiteTwinDrops
      else set reading.suiteTwinDrops suite dropped }

/-- Files beside the suite directories belong to no suite. -/
def readFlat (reading : Reading) (dir : ProviderDir) : Except String Reading := do
  let lines := "\n".intercalate
    (reading.offDimension.map (fun e => "  - " ++ describeOffDimensionEmission e))
  throwIf (reading.offDimension ≠ [])
    s!"provider \"{providerId}\" emitted off-contract metrics (suite ↔ dimension ↔ metric contract):\n{lines}"
  let flat ← extractProviderDir runtime metrics dir.files providerId
  return { reading with
    contributions := reading.contributions ++ flat.contributions
    rawUncatalogued := reading.rawUncatalogued ++ flat.uncatalogued
    markers := flat.gaps.foldl (foldFlat metrics) reading.markers
    hostMetadata := reading.hostMetadata ++ dir.hostMetadata
    systemHost := reading.systemHost <|> flat.observedHost }

/-- The directories of registered suites, by name; others are ignored. -/
def suiteDirs (dir : ProviderDir) : List Subdirectory :=
  (byLocale runtime (·.name) dir.subdirectories).filter (fun sub => decide (sub.name ∈ suiteNames))

def readProviderDir (dir : ProviderDir) : Except String Reading := do
  let reading ← (suiteDirs runtime dir).foldlM (readSuite runtime metrics providerId) Reading.empty
  readFlat runtime metrics providerId reading dir

/-! ### The derived gaps of one provider -/

/-- A value published elsewhere or a failed leaf accounts for a loss. -/
def stillMissing (reading : Reading) (suite metricId : String) : Bool :=
  ! (reading.contributions.map (·.metricId)).contains metricId &&
    ! ((get? reading.markers.foldedFailedLeaves suite).getD []).any
      (fun leaf => leafOwnsMetric metrics leaf metricId)

/-- At most one gap of a suite, from the evidence its directory left. -/
def derivedGap {α : Type} (reading : Reading) (evidence : List (String × List α))
    (metricId : α → String) (reason : String → List α → String)
    (cause : String → List α → GapCause) (suite : String) : Option ResultGap :=
  match get? evidence suite with
  | none => none
  | some collected =>
    if suite ∈ reading.markers.harnessFailedSuites then none
    else
      let missing := collected.filter (fun e => stillMissing metrics reading suite (metricId e))
      if missing.isEmpty then none
      else some (failedSuiteGap suite (reason suite missing) (cause suite missing))

def shortfallGap (reading : Reading) : String → Option ResultGap :=
  derivedGap metrics reading reading.suiteShortfalls (·.metricId) shortfallReason shortfallCause

def twinDropGap (reading : Reading) : String → Option ResultGap :=
  derivedGap metrics reading reading.suiteTwinDrops (·.metricId) (fun _ => twinDropReason)
    (fun _ => twinDropCause)

/-- The shortfalls of all suites, then the dropped twins of all suites. -/
def derivedGaps (reading : Reading) (names : List String) : List ResultGap :=
  names.filterMap (shortfallGap metrics reading) ++ names.filterMap (twinDropGap metrics reading)

end

/-! ### The row of one provider -/

/-- The first of a metric's contributions stays. -/
def mergeContribution (merged : List (String × SampleContribution)) (c : SampleContribution) :
    List (String × SampleContribution) :=
  if has merged c.metricId then merged else set merged c.metricId c

def measuredResult (metricId : String) (c : SampleContribution) (nonempty : c.samples ≠ []) :
    MetricResult where
  metricId := metricId
  samples := ⟨c.samples, nonempty⟩
  aggregates := aggregate ⟨c.samples, nonempty⟩
  sourceFile := some c.sourceFile
  appVersion := c.appVersion
  arguments := c.arguments
  ptsSampleSource := c.ptsSampleSource
  replicates := none
  ids := ⟨none, none⟩
  derived := false

/-- A metric without samples is dropped. -/
def metricResult? (entry : String × SampleContribution) : Option MetricResult :=
  if h : entry.2.samples ≠ [] then some (measuredResult entry.1 entry.2 h) else none

/-- The first straggler of an id stays. -/
def mergeStraggler (merged : List (String × UncataloguedResult)) (u : UncataloguedResult) :
    List (String × UncataloguedResult) :=
  if has merged u.id then merged else set merged u.id u

section
variable (runtime : Runtime) (catalog : Catalog) (metrics : MetricCatalog)

def measuredMetrics (contributions : List SampleContribution) : List MetricResult :=
  byLocale runtime (·.metricId) ((contributions.foldl mergeContribution []).filterMap metricResult?)

/-- Economics enrich a measured provider, they never promote a pending one. -/
def withEconomics (providerId : String) (measured : List MetricResult) : List MetricResult :=
  match catalog.hourlyCostAtTargetSpec providerId with
  | none => measured
  | some cost =>
    if measured.isEmpty then measured
    else byLocale runtime (·.metricId) (measured ++ deriveEconomics (cost pinnedTarget) measured)

/-- The probe wins over what the composites disclose of the host. -/
def mergedSpecs (systemHost : Option ObservedSpecs) (probeSpecs : ObservedSpecs) : ObservedSpecs :=
  probeSpecs.foldl (fun specs entry => set specs entry.1 entry.2) (systemHost.getD [])

def providerRow (providerId : String) (dir : ProviderDir) (reading : Reading)
    (gaps : List ResultGap) : ProviderRun :=
  let rowMetrics := withEconomics runtime catalog providerId
    (measuredMetrics runtime reading.contributions)
  let observedSpecs := mergedSpecs reading.systemHost dir.probeSpecs
  { providerId := providerId
    costEvidence := some reading.costEvidence
    artifactEvidence := some reading.artifactEvidence
    validationStatus := if rowMetrics.isEmpty then .pending else .validated
    specMatched := computeSpecMatched observedSpecs
    observedSpecs := observedSpecs
    observedMixtures := none
    hostMetadata := if reading.hostMetadata.isEmpty then none else some reading.hostMetadata
    metrics := rowMetrics
    suitesCovered := byLocale runtime id reading.suitesCovered
    gaps := gaps
    uncatalogued := (reading.rawUncatalogued.foldl mergeStraggler []).map Prod.snd }

/-- A provider without a directory reported nothing. -/
def pendingRow (providerId : String) : ProviderRun where
  providerId := providerId
  costEvidence := some []
  artifactEvidence := some []
  validationStatus := .pending
  specMatched := none
  observedSpecs := []
  observedMixtures := none
  hostMetadata := none
  metrics := []
  suitesCovered := []
  gaps := []
  uncatalogued := []

/-- The gaps of the markers, then those normalization derives. -/
def rowGaps (dir : ProviderDir) (reading : Reading) : List ResultGap :=
  reading.markers.gaps ++ derivedGaps metrics reading ((suiteDirs runtime dir).map (·.name))

def normalizeProviderDir (rawRoot : String → Option ProviderDir) (providerId : String) :
    Except String ProviderRun :=
  match rawRoot providerId with
  | none => return pendingRow providerId
  | some dir => do
    let reading ← readProviderDir runtime metrics providerId dir
    return providerRow runtime catalog providerId dir reading (rowGaps runtime metrics dir reading)

def candidateRun (input : NormalizeInput) (providers : List ProviderRun) : Run where
  schemaVersion := 6
  runId := input.runId
  sha := input.sha
  generatedAt := input.generatedAt
  sourceRunUrl := input.sourceRunUrl
  replicateIndex := input.replicateIndex
  experiment := none
  targetSpec := pinnedTarget
  providers := providers

/-- Every known provider appears in every Run. -/
def normalizeResultsTree (input : NormalizeInput) : Except String Run := do
  let providers ← (byLocale runtime id providerIds).mapM
    (normalizeProviderDir runtime catalog metrics input.rawRoot)
  let runId := input.runId
  (parseRun catalog (candidateRun input providers)).mapError (fun message =>
    s!"Normalized Run for {runId} failed schema validation: {message}")

end

end NormalizeTree
