import SandboxBenchmarks.Library.Grouping
import SandboxBenchmarks.PlanVerification

/-!
# Planning an experiment

`planExperiment` of `apps/cli/src/lib/experiment-plan.ts` and the request and
policy schemas of `packages/schema/src/experiment.ts`. A policy is the list of
its own properties; what an entry carries beside the four capacities is kept,
because the policy schema keeps it. Numbers are exact.
-/

namespace PlanExperiment

open CanonicalJson Checks JsonText PlanVerification

structure AccountCapacity where
  sandboxes : ℕ
  vcpus : Option ℚ
  memoryGb : Option ℚ
  gpus : Option ℕ
  /-- Properties under other keys than these four. -/
  undeclared : List (String × Value)

structure PlanRequest where
  id : String
  sha : String
  createdOn : String
  cells : List ExperimentCell
  maxPremeasurementRetries : Option ℕ
deriving DecidableEq, Repr

def accountCapacitySchema (c : AccountCapacity) : Bool :=
  decide (1 ≤ c.sandboxes) && c.vcpus.all (fun v => decide (0 < v)) &&
    c.memoryGb.all (fun m => decide (0 < m))

/-- `accountCapacityPolicySchema` rejects no undeclared key. -/
def accountCapacityPolicySchema (policy : List (String × AccountCapacity)) : Bool :=
  policy.all fun entry => accountCapacitySchema entry.2

/-- Batches per collection round. -/
def roundBatchLimit : ℕ := 64

/-- `Number.MAX_SAFE_INTEGER` -/
def maxSafeInteger : ℕ := 9007199254740991

/-- `policy[quotaDomain] ?? { sandboxes: 1 }`; an inherited property has no capacities. -/
def capacityOf (policy : List (String × AccountCapacity)) (quotaDomain : String) :
    Option AccountCapacity :=
  match Keyed.get? policy quotaDomain with
  | some capacity => some capacity
  | none =>
    if inheritedNames.contains quotaDomain then none else some ⟨1, none, none, none, []⟩

/-! ### Cells -/

/-- The requirements that share one resource window. -/
def allocation (cell : ExperimentCell) : Value :=
  .obj [("quotaDomain", .str cell.quotaDomain), ("target", cell.target.toJson),
    ("gpu", (cell.gpu.map GpuSpec.toJson).getD .null),
    ("environmentRevision", .str cell.environmentRevision),
    ("startupMinutes", .num cell.startupMinutes)]

def allocationIdentity (runtime : Runtime) (cell : ExperimentCell) : Except String String :=
  evidenceDigest runtime (allocation cell)

structure Prepared where
  cell : ExperimentCell
  cap : ℕ
  budget : ℚ
  wave : BenchmarkWave
  identity : String
deriving DecidableEq, Repr

/-- `Math.min(cap, Math.floor((limit ?? Infinity) / demand))` -/
def limited (limit : Option ℚ) (demand : ℚ) (cap : ℕ) : ℕ :=
  match limit with
  | none => cap
  | some limit => min cap ⌊limit / demand⌋₊

/-- Cells of this shape that run at once. -/
def capOf (capacity : AccountCapacity) (cell : ExperimentCell) : ℕ :=
  let cap := limited capacity.memoryGb cell.target.memoryGb
    (limited capacity.vcpus cell.target.vcpus capacity.sandboxes)
  match cell.gpu with
  | none => cap
  | some gpu => min cap (capacity.gpus.getD 0 / gpu.count)

def budgetOf (cell : ExperimentCell) : ℚ :=
  cell.startupMinutes + cell.workloadMinutes + cell.finishMinutes + 15

section
variable (runtime : Runtime) (registry : Registry) (policy : List (String × AccountCapacity))

/-- One cell of the loop over the ordered cells. -/
def prepare (cell : ExperimentCell) : Except String Prepared := do
  let capacity ← require (capacityOf policy cell.quotaDomain)
    s!"invalid account capacity: {cell.quotaDomain}"
  throwIf (maxSafeInteger < capacity.sandboxes ∨ capacity.sandboxes < 1 ∨
      capacity.vcpus.any (fun v => v ≤ 0) = true ∨ capacity.memoryGb.any (fun m => m ≤ 0) = true)
    s!"invalid account capacity: {cell.quotaDomain}"
  let cap := capOf capacity cell
  throwIf (cap < 1) s!"target exceeds account capacity: {cell.id}"
  let budget := budgetOf cell
  throwIf (benchJobCeilingMinutes < budget) s!"replicate cannot fit a 330-minute job: {cell.id}"
  let wave ← benchmarkWave cell.suite
  let identity ← allocationIdentity runtime cell
  return ⟨cell, cap, budget, wave, identity⟩

def byRank (ranked : List (ℕ × ExperimentCell)) : List ExperimentCell :=
  (ranked.insertionSort (fun a b => a.1 ≤ b.1)).map Prod.snd

/-- `[...eligible].sort(...)`. The comparator sees no element of a list of one. -/
def inWaveOrder (eligible : List ExperimentCell) : Except String (List ExperimentCell) := do
  if eligible.length < 2 then return eligible
  else do
    let ranked ← eligible.mapM fun cell => do
      let wave ← benchmarkWave cell.suite
      return (requiredWaveRank wave, cell)
    return byRank ranked

/-! ### Batches and rounds -/

def Prepared.key (entry : Prepared) : String :=
  entry.cell.quotaDomain ++ "\x00" ++ entry.wave.text ++ "\x00" ++ entry.identity

/-- The batches of one group, each one waiting for the number that its id takes. -/
def batchesOf (group : List Prepared) : List (String → ExperimentBatch) :=
  match group with
  | [] => []
  | first :: _ =>
    let budget := (group.map (·.budget)).foldl max first.budget
    let affordable := max 1 ⌊benchJobCeilingMinutes / budget⌋₊
    let size := min group.length (first.cap * affordable)
    (Grouping.chunks size group).map fun chunk id =>
      { id := id
        quotaDomain := first.cell.quotaDomain
        wave := some first.wave
        cells := chunk.map (·.cell.id)
        maxConcurrency := first.cap
        budgetMinutes := ⌈(chunk.length : ℚ) / first.cap⌉ * budget }

/-- Ids number the entries in the order in which they are pushed. -/
def numbered {α : Type} (kind : String) (entries : List (String → α)) : List α :=
  entries.mapIdx fun i entry => entry (kind ++ toString i)

def planBatches (prepared : List Prepared) : List ExperimentBatch :=
  numbered "batch-" ((Grouping.groups Prepared.key prepared).flatMap fun g => batchesOf g.2)

/-- The rounds of one quota domain and wave. -/
def roundsOf (batches : List ExperimentBatch) (quotaDomain : String) (wave : BenchmarkWave) :
    List (String → ExperimentRound) :=
  let domainBatches := batches.filter fun batch =>
    batch.quotaDomain = quotaDomain ∧ batch.wave = some wave
  (Grouping.chunks roundBatchLimit domainBatches).map fun chunk id =>
    { id := id, quotaDomain := quotaDomain, wave := some wave, batches := chunk.map (·.id) }

def quotaDomains (cells : List ExperimentCell) : List String :=
  Keyed.setOf (cells.map (·.quotaDomain))

def planRounds (domains : List String) (batches : List ExperimentBatch) : List ExperimentRound :=
  numbered "round-" (domains.flatMap fun quotaDomain =>
    benchmarkWaveOrder.flatMap fun wave => roundsOf batches quotaDomain wave)

/-! ### The plan -/

/-- `{ quotaDomain, ...capacity }` -/
def accountJson (quotaDomain : String) (capacity : Option AccountCapacity) : Value :=
  .obj (Keyed.mapOf (("quotaDomain", .str quotaDomain) :: match capacity with
    | none => []
    | some c => ("sandboxes", natural c.sandboxes) ::
      (optionalField "vcpus" (c.vcpus.map .num) ++ optionalField "memoryGb" (c.memoryGb.map .num) ++
        optionalField "gpus" (c.gpus.map natural) ++ c.undeclared)))

/-- The account as the plan schema reads it: it rejects every key but its own. -/
def parseAccount (quotaDomain : String) (capacity : Option AccountCapacity) :
    Option ExperimentAccount :=
  capacity.bind fun c =>
    match c.undeclared with
    | [] => some ⟨quotaDomain, c.sandboxes, c.vcpus, c.memoryGb, c.gpus⟩
    | [("quotaDomain", .str other)] => some ⟨other, c.sandboxes, c.vcpus, c.memoryGb, c.gpus⟩
    | _ => none

/-- What `planExperiment` has built when it takes the digest. -/
structure PlanDraft where
  request : PlanRequest
  accounts : List (String × Option AccountCapacity)
  batches : List ExperimentBatch
  rounds : List ExperimentRound

def PlanDraft.body (draft : PlanDraft) : Value :=
  .obj [("schemaVersion", .str "1"), ("id", .str draft.request.id), ("sha", .str draft.request.sha),
    ("createdOn", .str draft.request.createdOn), ("retryPolicy", .str "premeasurement-only"),
    ("maxPremeasurementRetries", natural (draft.request.maxPremeasurementRetries.getD 0)),
    ("accounts", .arr (draft.accounts.map fun entry => accountJson entry.1 entry.2)),
    ("cells", .arr (draft.request.cells.map (·.toJson))),
    ("batches", .arr (draft.batches.map (·.toJson))),
    ("rounds", .arr (draft.rounds.map (·.toJson)))]

/-- The draft under its digest, once the accounts have passed the plan schema. -/
def PlanDraft.sealed (draft : PlanDraft) (accounts : List ExperimentAccount) (digest : String) :
    ExperimentPlan where
  id := draft.request.id
  sha := draft.request.sha
  createdOn := draft.request.createdOn
  digest := digest
  maxPremeasurementRetries := draft.request.maxPremeasurementRetries.getD 0
  accounts := accounts
  cells := draft.request.cells
  batches := draft.batches
  rounds := draft.rounds

/-- Everything up to the digest. -/
def draftPlan (request : PlanRequest) : Except String PlanDraft := do
  throwIf (request.cells.all experimentCellSchema = false) "experimentCellSchema"
  let ordered ← inWaveOrder (request.cells.filter (·.eligible))
  let prepared ← ordered.mapM (prepare runtime policy)
  let batches := planBatches prepared
  let domains := quotaDomains request.cells
  return {
    request := request
    accounts := domains.map fun quotaDomain => (quotaDomain, capacityOf policy quotaDomain)
    batches := batches
    rounds := planRounds domains batches }

/-- Pure admission planning. -/
def planExperiment (request : PlanRequest) : Except String ExperimentPlan := do
  let draft ← draftPlan runtime policy request
  let digest ← evidenceDigest runtime draft.body
  let accounts ← require (draft.accounts.mapM fun entry => parseAccount entry.1 entry.2)
    "experimentPlanSchema"
  verifyExperimentPlan runtime registry (draft.sealed accounts digest)

end

end PlanExperiment
