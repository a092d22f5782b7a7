import SandboxBenchmarks.Aggregate
import SandboxBenchmarks.GapMarkers
import SandboxBenchmarks.NetworkProbes

/-!
# Extracting a raw directory

`extractProviderDir` of `packages/results/src/lib/extract.ts`. A file comes with what
its parsers make of its bytes; its name decides which of them is asked.
-/

namespace ExtractProvider

open Aggregate CanonicalJson Checks GapMarkers JsonText NetworkProbes PtsIndex RunModel SuiteContract

/-- One `<Result>` of a composite. -/
structure CompositeResult extends PtsResult where
  appVersion : Option String
  arguments : Option String
  /-- `""` where every pass failed. -/
  proportion : String
deriving DecidableEq, Repr

structure PtsComposite where
  /-- `parseSystemHost` of the `<System>` block; empty without one. -/
  host : ObservedSpecs
  results : List CompositeResult
deriving DecidableEq, Repr

structure RawFile where
  name : String
  /-- `parsePtsComposite` of the text. -/
  composite : Except String PtsComposite
  /-- `JSON.parse` of the text; `none` where it throws. -/
  json : Option Value

/-- One Metric's samples from a single raw file. -/
structure SampleContribution where
  metricId : String
  samples : List ℚ
  sourceFile : String
  appVersion : Option String
  arguments : Option String
  ptsSampleSource : Option PtsSampleSource
deriving DecidableEq, Repr

/-- A catalogued Metric that was attempted but produced no measurement. -/
structure AttemptedEmptyResult where
  metricId : String
  sourceFile : String
deriving DecidableEq, Repr

/-- A Result that was present but matched no catalogued Metric. -/
structure UnmappedPtsResult where
  test : String
  description : String
  scale : String
  sourceFile : String
deriving DecidableEq, Repr

structure ProviderExtraction where
  contributions : List SampleContribution
  uncatalogued : List UncataloguedResult
  unmappedPts : List UnmappedPtsResult
  gaps : List ResultGap
  attemptedEmpty : List AttemptedEmptyResult
  observedHost : Option ObservedSpecs
deriving DecidableEq, Repr

def ProviderExtraction.empty : ProviderExtraction := ⟨[], [], [], [], [], none⟩

def ptsSampleSource : SampleSource → PtsSampleSource
  | .rawString => .rawString
  | .aggregateValue => .aggregateValue

/-- `...(text ? { key: text } : {})` -/
def populated (text : Option String) : Option String := text.bind orUndefined

def matchedContribution (filename : String) (metricId : String) (samples : List ℚ)
    (measurement : Measurement) (result : CompositeResult) : SampleContribution where
  metricId := metricId
  samples := samples
  sourceFile := filename
  appVersion := populated result.appVersion
  arguments := populated result.arguments
  ptsSampleSource := some (ptsSampleSource measurement.source)

def straggler (filename test description scale : String) (measurement : Measurement)
    (result : CompositeResult) : UncataloguedResult where
  id :=
    let label := if description = "" then "default" else description
    s!"{test}::{label}::{scale}"
  value := measurement.entry.value.getD 0
  unit := some result.scale
  direction := orUndefined result.proportion
  sourceFile := filename

section
variable (runtime : Runtime) (metrics : MetricCatalog)

/-- An empty Result of a catalogued Metric is evidence, of any other Metric it is nothing. -/
def extractResult (filename : String) (out : ProviderExtraction) (result : CompositeResult) :
    ProviderExtraction :=
  match lookup metrics.index result.toPtsResult with
  | .matched metric samples measurement =>
    match measurement with
    | none => { out with attemptedEmpty := out.attemptedEmpty ++ [⟨metric.id, filename⟩] }
    | some measurement =>
      { out with
        contributions := out.contributions ++
          [matchedContribution filename metric.id samples measurement result] }
  | .uncatalogued test description scale =>
    let seen := { out with
      unmappedPts := out.unmappedPts ++ [⟨test, description, scale, filename⟩] }
    match resultMeasurement result.toPtsResult with
    | none => seen
    | some measurement =>
      { seen with
        uncatalogued := seen.uncatalogued ++
          [straggler filename test description scale measurement result] }

def extractComposite (filename : String) (out : ProviderExtraction) (composite : PtsComposite) :
    ProviderExtraction :=
  let hosted :=
    if out.observedHost = none ∧ composite.host ≠ [] then
      { out with observedHost := some composite.host }
    else out
  composite.results.foldl (extractResult metrics filename) hosted

def extractMarker (providerId : String) (file : RawFile) (out : ProviderExtraction) :
    ProviderExtraction :=
  if isGapMarkerFile file.name then
    match parseGapMarker file.name file.json providerId with
    | some marker => { out with gaps := out.gaps ++ [marker] }
    | none => out
  else out

def probeContribution (filename : String) (c : NetworkProbeContribution) : SampleContribution where
  metricId := c.metricId
  samples := c.samples
  sourceFile := filename
  appVersion := none
  arguments := none
  ptsSampleSource := none

def extractProbe (file : RawFile) (out : ProviderExtraction) : ProviderExtraction :=
  if isNetworkProbeFile file.name then
    { out with
      contributions := out.contributions ++
        (networkProbeContributions file.name file.json).map (probeContribution file.name) }
  else out

/-- A malformed composite throws; any other malformed file contributes nothing. -/
def extractFile (providerId : String) (out : ProviderExtraction) (file : RawFile) :
    Except String ProviderExtraction :=
  if isPtsResultFile file.name then do
    let composite ← file.composite
    return extractComposite metrics file.name out composite
  else return extractProbe file (extractMarker providerId file out)

/-- The files of one directory, in the order of their names. -/
def extractProviderDir (files : List RawFile) (providerId : String) :
    Except String ProviderExtraction :=
  (byLocale runtime (·.name) files).foldlM (extractFile metrics providerId) ProviderExtraction.empty

end

end ExtractProvider
