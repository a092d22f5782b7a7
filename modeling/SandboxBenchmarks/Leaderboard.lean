import SandboxBenchmarks.LeaderboardDatasets
import SandboxBenchmarks.RankSumTest

/-!
# The ranking of a metric

`rankMetric` of `packages/results/src/lib/leaderboard.ts`, with `reportedMedianOf` and
`clusterSeparation` of `packages/schema/src/analysis.ts`. The bootstrap intervals and
the Kolmogorov-Smirnov test, which no rank depends on, are parameters, like the
normal tail of `mannWhitneyU`. The spread of the pooled trials is left out.
-/

namespace LeaderboardDatasets

open RunModel

def LeaderboardDataset.runId : LeaderboardDataset → String
  | .published run => run.runId
  | .pooled dataset => dataset.runId

def LeaderboardDataset.providers : LeaderboardDataset → List ProviderRun
  | .published run => run.providers
  | .pooled dataset => dataset.providers

def LeaderboardDataset.sources : LeaderboardDataset → Option (List Run)
  | .published _ => none
  | .pooled dataset => some dataset.sources

def LeaderboardDataset.withProviders (run : LeaderboardDataset) (providers : List ProviderRun) :
    LeaderboardDataset :=
  match run with
  | .published run => .published { run with providers }
  | .pooled dataset => .pooled { dataset with providers }

end LeaderboardDatasets

namespace Leaderboard

open CanonicalJson Checks LeaderboardDatasets RankSumTest RunModel

/-- Higher is better, or lower is better. -/
inductive Direction where
  | HIB
  | LIB
deriving DecidableEq, Repr

structure MetricDef where
  id : String
  direction : Direction
deriving DecidableEq, Repr

/-- The better value first. -/
def compareValues : Direction → ℚ → ℚ → Ordering
  | .HIB, a, b => compare b a
  | .LIB, a, b => compare a b

inductive ComparisonVerdict where
  | separated
  | tied
  | underpowered
  | untested
deriving DecidableEq, Repr

/-- Why a row shares the rank above it. -/
inductive TieBasis where
  | statistical
  | identicalValue
deriving DecidableEq, Repr

structure MedianInterval where
  median : ℚ
  lo : ℚ
  hi : ℚ
  level : ℚ
  resamples : ℕ
deriving DecidableEq, Repr

/-- The sandbox-level test, when it decided the verdict. -/
structure ClusterComparison where
  p : ℚ
  floor : ℚ
  sandboxesA : ℕ
  sandboxesB : ℕ
deriving DecidableEq, Repr

structure PVsPrevious where
  mannWhitney : ℚ
  ks : ℚ
  floor : ℚ
  cluster : Option ClusterComparison
deriving DecidableEq, Repr

structure LeaderboardRow where
  providerId : String
  displayName : String
  value : ℚ
  rank : ℕ
  interval : MedianInterval
  n : ℕ
  sandboxes : Option ℕ
  pVsPrevious : Option PVsPrevious
  verdict : Option ComparisonVerdict
  tiedWithAbove : Option TieBasis
deriving DecidableEq, Repr

/-- What ranking takes from elsewhere; intervals are seeded. -/
structure Statistics where
  tail : NormalTail
  clusterMedianInterval : List Samples → String → MedianInterval
  bootstrapMedianInterval : Samples → String → MedianInterval
  kolmogorovSmirnov : Samples → Samples → ℚ
  /-- `getProvider(id)?.displayName` -/
  displayName : String → Option String

/-- `DEFAULT_ALPHA` -/
def defaultAlpha : ℚ := 1 / 20

/-- The double nearest to 0.95; one minus it lies just above `DEFAULT_ALPHA`. -/
def defaultLevel : ℚ := 4278419646001971 / 4503599627370496

/-! ### Medians of sandboxes -/

def sandboxMedians (replicates : List Samples) : List ℚ :=
  replicates.map (fun replicate => percentileOf replicate.values (1 / 2))

def sandboxMedianOf (replicates : List Samples) : Except String ℚ := do
  throwIf (replicates.length = 0) "sandboxMedianOf() requires at least one replicate"
  return percentileOf (sandboxMedians replicates) (1 / 2)

def reportedMedianOf (result : MetricResult) : Except String ℚ :=
  match result.replicates with
  | some replicates => sandboxMedianOf (replicates.map (·.samples))
  | none => return result.aggregates.p50

structure ClusterSeparation where
  level : ℚ
  method : PValueMethod
  pValue : ℚ
  minAttainablePValue : ℚ
  separated : Bool
deriving DecidableEq, Repr

/-- Mann-Whitney on the per-sandbox medians. -/
def clusterSeparation (tail : NormalTail) (a b : List Samples) :
    Except String ClusterSeparation := do
  throwIf (a.length = 0) "clusterSeparation() requires at least one replicate"
  throwIf (b.length = 0) "clusterSeparation() requires at least one replicate"
  let test ← mannWhitneyU tail (sandboxMedians a) (sandboxMedians b)
  return {
    level := defaultLevel
    method := test.method
    pValue := test.pValue
    minAttainablePValue := test.minAttainablePValue
    separated := decide (test.pValue < 1 - defaultLevel) }

def canSeparate (test : RankSum) : Bool := decide (test.minAttainablePValue < defaultAlpha)

/-! ### Candidates -/

/-- A row with the samples behind it. -/
structure Candidate where
  samples : Samples
  replicates : Option (List Samples)
  row : LeaderboardRow
deriving DecidableEq, Repr

section
variable (runtime : Runtime) (stats : Statistics) (run : LeaderboardDataset) (metric : MetricDef)

/-- The pooled experiments in which the provider measured the metric. -/
def contributingIds (providerId : String) : Option String :=
  run.sources.map (fun sources => "+".intercalate ((sources.filter (fun source =>
    source.providers.any (fun p => p.providerId == providerId &&
      p.metrics.any (fun m => m.metricId == metric.id)))).map (·.runId)))

def seedOf (providerId : String) : String :=
  let ids := (contributingIds run metric providerId).getD run.runId
  s!"{ids}:{metric.id}:{providerId}"

def candidateOf (provider : ProviderRun) : Except String (Option Candidate) :=
  match provider.metrics.find? (fun m => m.metricId == metric.id) with
  | none => return none
  | some result => do
    let replicates := result.replicates.map (fun l => l.map (·.samples))
    let seed := seedOf run metric provider.providerId
    let value ← reportedMedianOf result
    return some {
      samples := result.samples
      replicates := replicates
      row := {
        providerId := provider.providerId
        displayName := (stats.displayName provider.providerId).getD provider.providerId
        value := value
        rank := 0
        interval := match replicates with
          | some replicates => stats.clusterMedianInterval replicates seed
          | none => stats.bootstrapMedianInterval result.samples seed
        n := result.aggregates.n
        sandboxes := replicates.map (·.length)
        pVsPrevious := none
        verdict := none
        tiedWithAbove := none } }

def candidatesOf : Except String (List Candidate) := do
  let candidates ← run.providers.mapM (candidateOf stats run metric)
  return candidates.reduceOption

/-- By direction of the metric, equal values by provider id. -/
def compareStanding (a b : ℚ × String) : Ordering :=
  (compareValues metric.direction a.1 b.1).then (runtime.localeCompareEn a.2 b.2)

def standing (candidate : Candidate) : ℚ × String := (candidate.row.value, candidate.row.providerId)

def sortCandidates (candidates : List Candidate) : List Candidate :=
  candidates.insertionSort (Sorting.upTo (compareStanding runtime metric) standing)

/-! ### Ranks -/

/-- A row shares the rank above it exactly when it has a reason to, and the reason is recorded. -/
def settle (position previousRank : ℕ) (basis : Option TieBasis) (row : LeaderboardRow) :
    LeaderboardRow :=
  { row with
    tiedWithAbove := basis
    rank := if basis = none then position else previousRank }

/-- The row at index `i`, tested against the one above it. -/
def rankAgainst (i : ℕ) (previous candidate : Candidate) : Except String LeaderboardRow := do
  let settled (basis : Option TieBasis) (verdict : ComparisonVerdict) (row : LeaderboardRow) :=
    settle (i + 1) previous.row.rank basis { row with verdict := some verdict }
  let identical :=
    if candidate.row.value = previous.row.value then some TieBasis.identicalValue else none
  if previous.samples.values.length < 2 ∨ candidate.samples.values.length < 2 then
    return settled identical .untested candidate.row
  let mw ← mannWhitneyU stats.tail previous.samples.values candidate.samples.values
  let p : PVsPrevious := {
    mannWhitney := mw.pValue
    ks := stats.kolmogorovSmirnov previous.samples candidate.samples
    floor := mw.minAttainablePValue
    cluster := none }
  if previous.replicates.isSome ∨ candidate.replicates.isSome then
    let clustersA := previous.replicates.getD [previous.samples]
    let clustersB := candidate.replicates.getD [candidate.samples]
    let cluster ← clusterSeparation stats.tail clustersA clustersB
    let row := { candidate.row with
      pVsPrevious := some { p with
        cluster := some ⟨cluster.pValue, cluster.minAttainablePValue, clustersA.length,
          clustersB.length⟩ } }
    -- a test that can never reach alpha is not evidence of sameness
    if defaultAlpha ≤ cluster.minAttainablePValue then return settled identical .underpowered row
    else if cluster.separated then return settled none .separated row
    else return settled (some .statistical) .tied row
  else
    let row := { candidate.row with pVsPrevious := some p }
    if canSeparate mw = false then return settled identical .underpowered row
    else if mw.pValue < defaultAlpha then return settled none .separated row
    else return settled (some .statistical) .tied row

/-- The rows from index `i` on, below `previous`. -/
def rankBelow (i : ℕ) (previous : Candidate) : List Candidate → Except String (List LeaderboardRow)
  | [] => return []
  | candidate :: rest => do
    let row ← rankAgainst stats i previous candidate
    let rows ← rankBelow (i + 1) { candidate with row } rest
    return row :: rows

def rankRows : List Candidate → Except String (List LeaderboardRow)
  | [] => return []
  | first :: rest => do
    let top := { first.row with rank := 1 }
    let rows ← rankBelow stats 1 { first with row := top } rest
    return top :: rows

def rankMetric : Except String (List LeaderboardRow) := do
  let candidates ← candidatesOf stats run metric
  rankRows stats (sortCandidates runtime metric candidates)

end

end Leaderboard
