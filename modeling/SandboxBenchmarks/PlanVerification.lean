import Mathlib.Algebra.Order.Floor.Ring
import Mathlib.Data.Rat.Floor
import SandboxBenchmarks.CanonicalJson
import SandboxBenchmarks.Library.Keyed

/-!
# Experiment plans

`packages/schema/src/experiment.ts`, the wave table of
`packages/schema/src/suites.ts`, and `verifyExperimentPlan` of
`packages/results/src/lib/experiment.ts`. A plan is a typed value: the schema
keeps the checks a type does not already make. Its legacy wave name has no
representation here. Numbers are exact.
-/

namespace PlanVerification

open CanonicalJson Checks CodeUnits JsonText

/-- Ordered CPU matrix collection waves. -/
inductive BenchmarkWave where
  | syntheticMemory
  | syntheticSystem
  | realworld
deriving DecidableEq, Repr

def BenchmarkWave.text : BenchmarkWave → String
  | .syntheticMemory => "synthetic-memory"
  | .syntheticSystem => "synthetic-system"
  | .realworld => "realworld"

def benchmarkWaveOrder : List BenchmarkWave := [.syntheticMemory, .syntheticSystem, .realworld]

def requiredWaveRank (wave : BenchmarkWave) : Nat := benchmarkWaveOrder.idxOf wave

/-- The suite registry, as far as planning reads it. -/
def suites : List (String × BenchmarkWave) :=
  [("cpu-node", .syntheticSystem),
    ("system", .syntheticSystem),
    ("pgbench", .syntheticSystem),
    ("memory", .syntheticMemory),
    ("disk", .syntheticSystem),
    ("network", .syntheticSystem),
    ("realworld-mastra", .realworld),
    ("realworld-better-auth", .realworld),
    ("realworld-openclaw", .realworld)]

def benchmarkWave (suite : String) : Except String BenchmarkWave :=
  require (Keyed.get? suites suite) s!"unknown benchmark suite: {suite}"

def benchJobCeilingMinutes : ℚ := 330

def providerIds : List String :=
  ["e2b", "daytona-vm", "daytona-container", "blaxel", "microsandbox-cloud", "modal-gvisor",
    "modal-vm", "novita", "namespace", "vercel", "runcloud", "tama", "boat", "freestyle",
    "brezel", "digitalocean"]

structure TargetSpec where
  vcpus : ℚ
  memoryGb : ℚ
  diskGb : Option ℚ
deriving DecidableEq, Repr

structure GpuSpec where
  model : String
  count : Nat
deriving DecidableEq, Repr

structure ExperimentExclusion where
  metricId : String
  workloadRevision : String
  reason : String
  owner : String
  issue : String
  expires : String
deriving DecidableEq, Repr

structure ExperimentCell where
  id : String
  provider : String
  quotaDomain : String
  suite : String
  replicate : Nat
  workloadRevision : String
  artifactIdentity : String
  environmentRevision : String
  target : TargetSpec
  gpu : Option GpuSpec
  metrics : List String
  exclusions : List ExperimentExclusion
  passes : Nat
  startupMinutes : ℚ
  workloadMinutes : ℚ
  finishMinutes : ℚ
deriving DecidableEq, Repr

structure ExperimentAccount where
  quotaDomain : String
  sandboxes : Nat
  vcpus : Option ℚ
  memoryGb : Option ℚ
  gpus : Option Nat
deriving DecidableEq, Repr

structure ExperimentBatch where
  id : String
  quotaDomain : String
  wave : Option BenchmarkWave
  cells : List String
  maxConcurrency : Nat
  budgetMinutes : ℚ
deriving DecidableEq, Repr

structure ExperimentRound where
  id : String
  quotaDomain : String
  wave : Option BenchmarkWave
  batches : List String
deriving DecidableEq, Repr

structure ExperimentPlan where
  id : String
  sha : String
  createdOn : String
  digest : String
  maxPremeasurementRetries : Nat
  accounts : List ExperimentAccount
  cells : List ExperimentCell
  batches : List ExperimentBatch
  rounds : List ExperimentRound
deriving DecidableEq, Repr

/-! ### The schema -/

def isHex (c : Char) : Bool := c.isDigit || ('a' ≤ c && c ≤ 'f')

/-- `/^[a-zA-Z0-9][a-zA-Z0-9._-]*$/` -/
def evidenceIdentifier (s : String) : Bool :=
  match s.toList with
  | [] => false
  | c :: rest => c.isAlphanum && rest.all (fun c => c.isAlphanum || c == '.' || c == '_' || c == '-')

/-- `/^[a-f0-9]{40}$/` -/
def shaText (s : String) : Bool := s.toList.length == 40 && s.toList.all isHex

/-- `/^sha256:[a-f0-9]{64}$/` -/
def sha256Digest (s : String) : Bool :=
  s.toList.take 7 == "sha256:".toList && (s.toList.drop 7).length == 64 &&
    (s.toList.drop 7).all isHex

/-- `/^\d{4}-\d{2}-\d{2}$/` -/
def dateText (s : String) : Bool :=
  match s.toList with
  | [y₁, y₂, y₃, y₄, '-', m₁, m₂, '-', d₁, d₂] =>
    [y₁, y₂, y₃, y₄, m₁, m₂, d₁, d₂].all Char.isDigit
  | _ => false

/-- `/^https:\/\/github\.com\/[^/]+\/[^/]+\/issues\/\d+$/` -/
def issueUrl (s : String) : Bool :=
  match (s.splitOn "/") with
  | [scheme, blank, host, owner, repo, issues, number] =>
    scheme == "https:" && blank == "" && host == "github.com" && owner != "" && repo != "" &&
      issues == "issues" && number != "" && number.toList.all Char.isDigit
  | _ => false

def nonempty (s : String) : Bool := s != ""

def targetSpecSchema (t : TargetSpec) : Bool :=
  decide (0 < t.vcpus) && decide (0 < t.memoryGb) && t.diskGb.all (fun d => decide (0 < d))

def gpuSpecSchema (g : GpuSpec) : Bool := nonempty g.model && decide (0 < g.count)

def experimentExclusionSchema (e : ExperimentExclusion) : Bool :=
  nonempty e.metricId && nonempty e.workloadRevision && nonempty e.reason && nonempty e.owner &&
    issueUrl e.issue && dateText e.expires

def experimentCellSchema (c : ExperimentCell) : Bool :=
  evidenceIdentifier c.id && providerIds.contains c.provider && evidenceIdentifier c.quotaDomain &&
    nonempty c.suite && nonempty c.workloadRevision && nonempty c.artifactIdentity &&
    nonempty c.environmentRevision && targetSpecSchema c.target && c.gpu.all gpuSpecSchema &&
    decide (1 ≤ c.metrics.length) && c.exclusions.all experimentExclusionSchema &&
    decide (1 ≤ c.passes) && decide (0 < c.startupMinutes) && decide (0 < c.workloadMinutes) &&
    decide (0 < c.finishMinutes)

def experimentAccountSchema (a : ExperimentAccount) : Bool :=
  evidenceIdentifier a.quotaDomain && decide (1 ≤ a.sandboxes) &&
    a.vcpus.all (fun v => decide (0 < v)) && a.memoryGb.all (fun m => decide (0 < m))

def experimentBatchSchema (b : ExperimentBatch) : Bool :=
  evidenceIdentifier b.id && evidenceIdentifier b.quotaDomain && decide (1 ≤ b.cells.length) &&
    decide (1 ≤ b.maxConcurrency) && decide (0 < b.budgetMinutes)

def experimentRoundSchema (r : ExperimentRound) : Bool :=
  evidenceIdentifier r.id && evidenceIdentifier r.quotaDomain && decide (1 ≤ r.batches.length)

def experimentPlanSchema (p : ExperimentPlan) : Bool :=
  evidenceIdentifier p.id && shaText p.sha && dateText p.createdOn && sha256Digest p.digest &&
    decide (1 ≤ p.accounts.length) && p.accounts.all experimentAccountSchema &&
    decide (1 ≤ p.cells.length) && p.cells.all experimentCellSchema &&
    decide (1 ≤ p.batches.length) && p.batches.all experimentBatchSchema &&
    decide (1 ≤ p.rounds.length) && p.rounds.all experimentRoundSchema

/-! ### Digested forms -/

def optionalField (key : String) (value : Option Value) : List (String × Value) :=
  (value.map (fun v => (key, v))).toList

def strings (l : List String) : Value := .arr (l.map .str)

def natural (k : Nat) : Value := .num (k : ℚ)

def TargetSpec.toJson (t : TargetSpec) : Value :=
  .obj ([("vcpus", .num t.vcpus), ("memoryGb", .num t.memoryGb)] ++
    optionalField "diskGb" (t.diskGb.map .num))

def GpuSpec.toJson (g : GpuSpec) : Value :=
  .obj [("model", .str g.model), ("count", natural g.count)]

def ExperimentExclusion.toJson (e : ExperimentExclusion) : Value :=
  .obj [("metricId", .str e.metricId), ("workloadRevision", .str e.workloadRevision),
    ("reason", .str e.reason), ("owner", .str e.owner), ("issue", .str e.issue),
    ("expires", .str e.expires)]

def ExperimentCell.toJson (c : ExperimentCell) : Value :=
  .obj ([("id", .str c.id), ("provider", .str c.provider), ("quotaDomain", .str c.quotaDomain),
      ("suite", .str c.suite), ("replicate", natural c.replicate),
      ("workloadRevision", .str c.workloadRevision), ("artifactIdentity", .str c.artifactIdentity),
      ("environmentRevision", .str c.environmentRevision), ("target", c.target.toJson)] ++
    optionalField "gpu" (c.gpu.map GpuSpec.toJson) ++
    [("metrics", strings c.metrics), ("exclusions", .arr (c.exclusions.map (·.toJson))),
      ("passes", natural c.passes), ("startupMinutes", .num c.startupMinutes),
      ("workloadMinutes", .num c.workloadMinutes), ("finishMinutes", .num c.finishMinutes)])

def ExperimentAccount.toJson (a : ExperimentAccount) : Value :=
  .obj ([("quotaDomain", .str a.quotaDomain), ("sandboxes", natural a.sandboxes)] ++
    optionalField "vcpus" (a.vcpus.map .num) ++ optionalField "memoryGb" (a.memoryGb.map .num) ++
    optionalField "gpus" (a.gpus.map natural))

def ExperimentBatch.toJson (b : ExperimentBatch) : Value :=
  .obj ([("id", .str b.id), ("quotaDomain", .str b.quotaDomain)] ++
    optionalField "wave" (b.wave.map (fun w => .str w.text)) ++
    [("cells", strings b.cells), ("maxConcurrency", natural b.maxConcurrency),
      ("budgetMinutes", .num b.budgetMinutes)])

def ExperimentRound.toJson (r : ExperimentRound) : Value :=
  .obj ([("id", .str r.id), ("quotaDomain", .str r.quotaDomain)] ++
    optionalField "wave" (r.wave.map (fun w => .str w.text)) ++
    [("batches", strings r.batches)])

/-- The plan without its digest. -/
def ExperimentPlan.body (p : ExperimentPlan) : Value :=
  .obj [("schemaVersion", .str "1"), ("id", .str p.id), ("sha", .str p.sha),
    ("createdOn", .str p.createdOn), ("retryPolicy", .str "premeasurement-only"),
    ("maxPremeasurementRetries", natural p.maxPremeasurementRetries),
    ("accounts", .arr (p.accounts.map (·.toJson))), ("cells", .arr (p.cells.map (·.toJson))),
    ("batches", .arr (p.batches.map (·.toJson))), ("rounds", .arr (p.rounds.map (·.toJson)))]

/-! ### Verification -/

/-- What the provider registry says of one provider, as far as planning reads it. -/
structure Registry where
  /-- `getProvider(id)?.vendor` -/
  vendor : String → Option String

/-- Days of a month in the proleptic Gregorian calendar. -/
def daysInMonth (year month : Nat) : Nat :=
  let leap := year % 4 == 0 && (year % 100 != 0 || year % 400 == 0)
  [31, if leap then 29 else 28, 31, 30, 31, 30, 31, 31, 30, 31, 30, 31].getD (month - 1) 0

def digits (l : List Char) : Nat := l.foldl (fun n c => 10 * n + (c.toNat - 48)) 0

/-- A calendar date survives the round trip through `Date`. -/
def validDate (date : String) : Bool :=
  let chars := date.toList
  let year := digits (chars.take 4)
  let month := digits ((chars.drop 5).take 2)
  let day := digits (chars.drop 8)
  dateText date && decide (1 ≤ month) && decide (month ≤ 12) && decide (1 ≤ day) &&
    decide (day ≤ daysInMonth year month)

def ExperimentCell.excludes (cell : ExperimentCell) (metric : String) : Bool :=
  cell.exclusions.any (fun entry => entry.metricId == metric)

/-- `cell.metrics.some((metric) => !cell.exclusions.some(...))` -/
def ExperimentCell.eligible (cell : ExperimentCell) : Bool :=
  cell.metrics.any (fun metric => ! cell.excludes metric)

section
variable (runtime : Runtime) (registry : Registry)

/-- One cell of the first loop: one target, one quota domain per vendor. -/
def checkTarget (first : TargetSpec) (quotaDomains : List (String × String))
    (cell : ExperimentCell) : Except String (List (String × String)) := do
  let target ← evidenceDigest runtime cell.target.toJson
  let expected ← evidenceDigest runtime first.toJson
  throwIf (target ≠ expected)
    "a published experiment requires one target resource specification"
  let vendor ← require (registry.vendor cell.provider)
    "Cannot read properties of undefined (reading 'vendor')"
  throwIf (Keyed.has quotaDomains vendor = true ∧
      Keyed.get? quotaDomains vendor ≠ some cell.quotaDomain)
    s!"shared provider credentials require one quota domain: {vendor}"
  return Keyed.set quotaDomains vendor cell.quotaDomain

def checkTargets (plan : ExperimentPlan) : Except String (List (String × String)) :=
  match plan.cells with
  | [] => return []
  | first :: _ => plan.cells.foldlM (checkTarget runtime registry first.target) []

/-- What the loop over batches has seen. -/
structure BatchScan where
  batchIds : List String
  assigned : List String
  batchWaves : List (String × BenchmarkWave)
  lastWaveRank : List (String × Nat)
deriving DecidableEq, Repr

/-- One id of `batch.cells`. -/
def assignCell (cells : List (String × ExperimentCell)) (batch : ExperimentBatch)
    (assigned : List String) (id : String) : Except String (List String) := do
  let cell ← require (Keyed.get? cells id) s!"invalid batch assignment: {id}"
  throwIf (cell.eligible = false ∨ id ∈ assigned ∨ cell.quotaDomain ≠ batch.quotaDomain)
    s!"invalid batch assignment: {id}"
  return Keyed.add assigned id

/-- `demand > (limit ?? Infinity)` -/
def exceeds (demand : ℚ) (limit : Option ℚ) : Bool := limit.any (fun l => decide (l < demand))

/-- Rolling admission runs at most `maxConcurrency` cells at once, whatever the batch holds. -/
def overBudget (account : ExperimentAccount) (batch : ExperimentBatch)
    (members : List ExperimentCell) : Bool :=
  let memberBudgets := members.map
    (fun cell => cell.startupMinutes + cell.workloadMinutes + cell.finishMinutes + 15)
  let maxMemberBudget := memberBudgets.foldl max 0
  match members.head? with
  | none => true
  | some sample =>
    decide (((sample.gpu.map (·.count)).getD 0) * batch.maxConcurrency > account.gpus.getD 0) ||
      exceeds (sample.target.vcpus * batch.maxConcurrency) account.vcpus ||
      exceeds (sample.target.memoryGb * batch.maxConcurrency) account.memoryGb ||
      decide (⌈(members.length : ℚ) / batch.maxConcurrency⌉ * maxMemberBudget > batch.budgetMinutes)

/-- The one wave of a batch or round, or the errors for none, several, or another declared one. -/
def soleWave (waves : List BenchmarkWave) (declared : Option BenchmarkWave)
    (mixes disagrees : String) : Except String BenchmarkWave := do
  let distinct := Keyed.setOf waves
  throwIf (distinct.length ≠ 1) mixes
  let inferred ← require distinct.head? disagrees
  throwIf (declared.any (fun wave => wave ≠ inferred) = true) disagrees
  return declared.getD inferred

/-- Ranks never fall within one quota domain. -/
def advanceWave (ranks : List (String × Nat)) (quotaDomain : String) (wave : BenchmarkWave)
    (error : String) : Except String (List (String × Nat)) := do
  let rank := requiredWaveRank wave
  throwIf ((Keyed.get? ranks quotaDomain).any (fun previous => rank < previous) = true) error
  return Keyed.set ranks quotaDomain rank

def checkBatch (accounts : List (String × ExperimentAccount))
    (cells : List (String × ExperimentCell)) (scan : BatchScan) (batch : ExperimentBatch) :
    Except String BatchScan := do
  let account ← require (Keyed.get? accounts batch.quotaDomain)
    s!"invalid account batch capacity: {batch.id}"
  throwIf (batch.maxConcurrency > account.sandboxes ∨ batch.cells.length < 1 ∨
      batch.budgetMinutes > benchJobCeilingMinutes)
    s!"invalid account batch capacity: {batch.id}"
  throwIf (batch.id ∈ scan.batchIds) "duplicate experiment batch"
  let assigned ← batch.cells.foldlM (assignCell cells batch) scan.assigned
  let members := batch.cells.filterMap (Keyed.get? cells)
  let memberWaves ← members.mapM (fun cell => benchmarkWave cell.suite)
  let wave ← soleWave memberWaves batch.wave s!"batch mixes benchmark waves: {batch.id}"
    s!"batch wave disagrees with its cells: {batch.id}"
  let lastWaveRank ← advanceWave scan.lastWaveRank batch.quotaDomain wave
    s!"experiment batches are out of wave order: {batch.id}"
  throwIf (overBudget account batch members = true)
    s!"batch exceeds resource or time budget: {batch.id}"
  return {
    batchIds := Keyed.add scan.batchIds batch.id
    assigned := assigned
    batchWaves := Keyed.set scan.batchWaves batch.id wave
    lastWaveRank := lastWaveRank }

/-- What the loop over rounds has seen. -/
structure RoundScan where
  scheduled : List String
  roundIds : List String
  lastWaveRank : List (String × Nat)
deriving DecidableEq, Repr

/-- One id of `round.batches`: the batch's wave joins the round's, the id is scheduled. -/
def scheduleBatch (plan : ExperimentPlan) (batchWaves : List (String × BenchmarkWave))
    (round : ExperimentRound) (seen : List BenchmarkWave × List String) (id : String) :
    Except String (List BenchmarkWave × List String) := do
  let batch ← require (plan.batches.find? (fun entry => entry.id = id))
    s!"invalid round assignment: {id}"
  throwIf (batch.quotaDomain ≠ round.quotaDomain ∨ id ∈ seen.2) s!"invalid round assignment: {id}"
  let wave ← require (Keyed.get? batchWaves id) s!"invalid round assignment: {id}"
  return (seen.1 ++ [wave], Keyed.add seen.2 id)

def checkRound (plan : ExperimentPlan) (batchWaves : List (String × BenchmarkWave))
    (scan : RoundScan) (round : ExperimentRound) : Except String RoundScan := do
  throwIf (round.id ∈ scan.roundIds ∨ round.batches.length > 256)
    s!"invalid collection round: {round.id}"
  let (memberWaves, scheduled) ←
    round.batches.foldlM (scheduleBatch plan batchWaves round) ([], scan.scheduled)
  let wave ← soleWave memberWaves round.wave s!"round mixes benchmark waves: {round.id}"
    s!"round wave disagrees with its batches: {round.id}"
  let lastWaveRank ← advanceWave scan.lastWaveRank round.quotaDomain wave
    s!"experiment rounds are out of wave order: {round.id}"
  return {
    scheduled := scheduled
    roundIds := Keyed.add scan.roundIds round.id
    lastWaveRank := lastWaveRank }

/-- `a.metricId.localeCompare(b.metricId)` as a sort. -/
def sortedExclusions (exclusions : List ExperimentExclusion) : List ExperimentExclusion :=
  exclusions.insertionSort (fun a b => runtime.localeCompare a.metricId b.metricId ≠ .gt)

def ExperimentCell.eligibility (cell : ExperimentCell) : Value :=
  .obj [("workloadRevision", .str cell.workloadRevision),
    ("metrics", strings (sorted cell.metrics)),
    ("exclusions", .arr ((sortedExclusions runtime cell.exclusions).map (·.toJson))),
    ("environmentRevision", .str cell.environmentRevision),
    ("passes", natural cell.passes)]

def checkExclusion (plan : ExperimentPlan) (cell : ExperimentCell) (excluded : List String)
    (exclusion : ExperimentExclusion) : Except String (List String) := do
  throwIf (validDate exclusion.expires = false ∨
      exclusion.workloadRevision ≠ cell.workloadRevision ∨
      exclusion.metricId ∉ cell.metrics ∨
      CodeUnits.le exclusion.expires plan.createdOn = true ∨
      exclusion.metricId ∈ excluded)
    s!"invalid or expired exclusion: {cell.id}/{exclusion.metricId}"
  return Keyed.add excluded exclusion.metricId

/-- One comparison cohort per suite. -/
def checkCohort (plan : ExperimentPlan) (cohorts : List (String × String))
    (cell : ExperimentCell) : Except String (List (String × String)) := do
  let eligibility ← evidenceDigest runtime (cell.eligibility runtime)
  throwIf (Keyed.has cohorts cell.suite = true ∧ Keyed.get? cohorts cell.suite ≠ some eligibility)
    s!"inconsistent comparison cohort: {cell.suite}"
  throwIf ((Keyed.setOf cell.metrics).length ≠ cell.metrics.length) "duplicate required metric"
  let _ ← cell.exclusions.foldlM (checkExclusion plan cell) []
  return Keyed.set cohorts cell.suite eligibility

def logicalReplicate (cell : ExperimentCell) : String :=
  s!"{cell.provider}/{cell.suite}/{cell.replicate}"

def verifyExperimentPlan (plan : ExperimentPlan) : Except String ExperimentPlan := do
  throwIf (experimentPlanSchema plan = false) "experimentPlanSchema"
  let digest ← evidenceDigest runtime plan.body
  throwIf (digest ≠ plan.digest) "experiment plan digest mismatch"
  throwIf (validDate plan.createdOn = false) "invalid experiment creation date"
  let cells := Keyed.mapOf (plan.cells.map (fun cell => (cell.id, cell)))
  let _ ← checkTargets runtime registry plan
  throwIf (cells.length ≠ plan.cells.length) "duplicate experiment cell"
  throwIf ((Keyed.setOf (plan.cells.map logicalReplicate)).length ≠ cells.length)
    "duplicate logical replicate"
  let eligibleCells := plan.cells.filter (·.eligible)
  throwIf (eligibleCells.length = 0) "experiment has no eligible work"
  let accounts := Keyed.mapOf (plan.accounts.map (fun account => (account.quotaDomain, account)))
  throwIf (accounts.length ≠ plan.accounts.length) "duplicate quota domain"
  let batches ← plan.batches.foldlM (checkBatch accounts cells) ⟨[], [], [], []⟩
  throwIf (batches.assigned.length ≠ eligibleCells.length) "experiment cells missing from batches"
  let rounds ← plan.rounds.foldlM (checkRound plan batches.batchWaves) ⟨[], [], []⟩
  throwIf (rounds.scheduled.length ≠ plan.batches.length) "batches missing from collection rounds"
  let _ ← (cells.map Prod.snd).foldlM (checkCohort runtime plan) []
  return plan

end

end PlanVerification
