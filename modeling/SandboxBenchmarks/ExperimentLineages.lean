import Mathlib.Data.List.Chain
import SandboxBenchmarks.RepairExperimentReturns

/-!
# What an evaluation without conflicts means

The loop over the attempts and the loop over the cells together admit one history of
each cell: retries of failures before any measurement, and at most one measurement,
which is the last attempt.
-/

namespace EvaluateExperiment

open Aggregate CanonicalJson Checks ExperimentRecords JsonText PlanVerification PublishExperiment
  RunModel RunSchema

variable {runtime : Runtime} {catalog : Catalog} {plan : ExperimentPlan}
  {attempts : List AttemptWithRun} {report : CoverageReport}

theorem lineIf_eq_nil {conflict : Bool} {line : String} : lineIf conflict line = [] ↔
    conflict = false := by
  cases conflict <;> simp [lineIf]

/-! ### One attempt -/

/-- The shard an attempt brings is of this plan and this cell, and the one it digested. -/
structure OwnShard (runtime : Runtime) (catalog : Catalog) (plan : ExperimentPlan)
    (evidence : ExperimentAttempt) (cell : ExperimentCell) (run : Run) : Prop where
  sha : run.sha = plan.sha
  runId : run.runId = plan.id
  target : evidenceDigest runtime run.targetSpec.toJson = evidenceDigest runtime cell.target.toJson
  digest : ∃ digest, evidenceDigest runtime (catalog.document run) = .ok digest ∧
    evidence.runDigest = some digest

/-- An attempt of a planned cell, under the revisions the plan froze. -/
structure Bound (runtime : Runtime) (catalog : Catalog) (plan : ExperimentPlan)
    (attempt : AttemptWithRun) (cell : ExperimentCell) : Prop where
  planned : cell ∈ plan.cells
  cellId : attempt.evidence.cellId = cell.id
  workflowRun : attempt.evidence.workflowRun = plan.id
  planDigest : attempt.evidence.planDigest = plan.digest
  sha : attempt.evidence.sha = plan.sha
  workloadRevision : attempt.evidence.workloadRevision = cell.workloadRevision
  environmentRevision : attempt.evidence.environmentRevision = cell.environmentRevision
  artifactIdentity : attempt.evidence.artifactIdentity = cell.artifactIdentity
  passes : attempt.evidence.passes = cell.passes
  shard : ∀ run, attempt.run = some run → OwnShard runtime catalog plan attempt.evidence cell run

theorem ownShard_iff {evidence : ExperimentAttempt} {cell : ExperimentCell} {run : Run}
    {mismatch : Bool}
    (h : shardMismatch runtime catalog plan evidence (some cell) run = .ok mismatch) :
    mismatch = false ↔ OwnShard runtime catalog plan evidence cell run := by
  simp only [shardMismatch] at h
  split at h
  · rename_i other
    obtain rfl := Except.ok.inj h
    constructor
    · intro wrong
      cases wrong
    · intro own
      rcases other with sha | runId
      · exact absurd own.sha sha
      · exact absurd own.runId runId
  · rename_i same
    rw [not_or, not_not, not_not] at same
    simp only [bind_eq_ok] at h
    obtain ⟨target, hTarget, planned, hPlanned, h⟩ := h
    split at h
    · rename_i other
      obtain rfl := Except.ok.inj h
      constructor
      · intro wrong
        cases wrong
      · intro own
        have equal := own.target
        rw [hTarget, hPlanned] at equal
        exact absurd (Except.ok.inj equal) other
    · rename_i equal
      rw [not_not] at equal
      simp only [bind_eq_ok, pure_eq_ok] at h
      obtain ⟨digest, hDigest, rfl⟩ := h
      constructor
      · intro fits
        have kept : some digest = evidence.runDigest := by simpa using fits
        exact ⟨same.1, same.2, by rw [hTarget, hPlanned, equal], digest, hDigest, kept.symm⟩
      · intro own
        obtain ⟨digest', hDigest', kept⟩ := own.digest
        rw [hDigest] at hDigest'
        obtain rfl := Except.ok.inj hDigest'
        simp [kept]

/-- The cell an attempt names, as the loop finds it. -/
theorem find_cell (ids : (plan.cells.map (·.id)).Nodup) {cell : ExperimentCell}
    (planned : cell ∈ plan.cells) {cellId : String} (named : cellId = cell.id) :
    (plan.cells.find? fun entry => entry.id == cellId) = some cell := by
  subst named
  exact Keyed.find?_of_nodup ids planned

/-- What one round of the loop adds to the ids and the conflicts. -/
theorem checkAttempt_clean (ids : (plan.cells.map (·.id)).Nodup)
    {seen next : List String × List String} {attempt : AttemptWithRun}
    (step : checkAttempt runtime catalog plan seen attempt = .ok next) :
    next.1 = Keyed.add seen.1 attempt.evidence.id ∧
      (next.2 = [] ↔ seen.2 = [] ∧ attempt.evidence.id ∉ seen.1 ∧
        ∃ cell, Bound runtime catalog plan attempt cell) := by
  simp only [checkAttempt, bind_eq_ok, pure_eq_ok] at step
  obtain ⟨_, _, _, _, mismatch, compared, rfl⟩ := step
  refine ⟨rfl, ?_⟩
  simp only [List.append_eq_nil_iff, lineIf_eq_nil]
  constructor
  · rintro ⟨⟨⟨⟨clean, fresh⟩, provenance⟩, policy⟩, fits⟩
    refine ⟨clean, by simpa using fresh, ?_⟩
    cases found : plan.cells.find? fun entry => entry.id == attempt.evidence.cellId with
    | none => simp [found] at provenance
    | some cell =>
      rw [found] at compared
      simp only [found, Option.isNone_some, Bool.false_or, Bool.or_eq_false_iff, bne_eq_false_iff_eq,
        Option.any_some] at provenance policy
      obtain ⟨⟨workflowRun, planDigest⟩, sha⟩ := provenance
      obtain ⟨⟨⟨workload, environment⟩, artifact⟩, passes⟩ := policy
      refine ⟨cell, List.mem_of_find?_eq_some found, ?_, workflowRun, planDigest, sha, workload,
        environment, artifact, passes, ?_⟩
      · have same := List.find?_some found
        exact (beq_iff_eq.mp same).symm
      · intro run brought
        rw [brought] at compared
        exact (ownShard_iff compared).mp fits
  · rintro ⟨clean, fresh, cell, bound⟩
    have found := find_cell ids bound.planned bound.cellId
    rw [found] at compared
    refine ⟨⟨⟨⟨clean, by simpa using fresh⟩, ?_⟩, ?_⟩, ?_⟩
    · simp [found, bound.workflowRun, bound.planDigest, bound.sha]
    · simp [found, bound.workloadRevision, bound.environmentRevision, bound.artifactIdentity,
        bound.passes]
    · cases brought : attempt.run with
      | none =>
        rw [brought] at compared
        exact (Except.ok.inj compared).symm
      | some run =>
        rw [brought] at compared
        exact (ownShard_iff compared).mpr (bound.shard run brought)

/-- The loop over the attempts, in whatever order it takes them. -/
theorem checkAttempts_clean (ids : (plan.cells.map (·.id)).Nodup) {sorted : List AttemptWithRun}
    {seen : List String × List String}
    (run : sorted.foldlM (checkAttempt runtime catalog plan) ([], []) = .ok seen) :
    seen.2 = [] ↔ (sorted.map (·.evidence.id)).Nodup ∧
      ∀ attempt ∈ sorted, ∃ cell, Bound runtime catalog plan attempt cell := by
  have both : seen.1 = Keyed.setOf (sorted.map (·.evidence.id)) ∧ (seen.2 = [] ↔
      (sorted.map (·.evidence.id)).Nodup ∧
        ∀ attempt ∈ sorted, ∃ cell, Bound runtime catalog plan attempt cell) := by
    refine foldlM_invariant (fun passed seen => seen.1 = Keyed.setOf (passed.map (·.evidence.id)) ∧
      (seen.2 = [] ↔ (passed.map (·.evidence.id)).Nodup ∧
        ∀ attempt ∈ passed, ∃ cell, Bound runtime catalog plan attempt cell)) (by simp [Keyed.setOf])
      ?_ run
    intro pre attempt post seen next _ inv step
    obtain ⟨known, clean⟩ := checkAttempt_clean ids step
    refine ⟨?_, ?_⟩
    · rw [known, inv.1, List.map_append, Keyed.setOf, Keyed.setOf, List.foldl_append]
      rfl
    · rw [clean, inv.2, inv.1, Keyed.mem_setOf]
      simp only [List.map_append, List.map_singleton, List.nodup_append, List.nodup_singleton,
        List.mem_append, List.mem_singleton, or_imp, forall_and, forall_eq]
      constructor
      · rintro ⟨⟨distinct, bound⟩, fresh, cell⟩
        exact ⟨⟨distinct, trivial, fun id listed same => fresh (same ▸ listed)⟩, bound, cell⟩
      · rintro ⟨⟨distinct, _, apart⟩, bound, cell⟩
        exact ⟨⟨distinct, bound⟩, fun listed => apart _ listed rfl, cell⟩
  exact both.2

/-! ### One cell -/

/-- The next attempt of a cell whose last one failed before any measurement. -/
structure Retries (previous current : ExperimentAttempt) : Prop where
  link : current.previousAttempt = some previous.id
  failed : previous.outcome = .failed
  unmeasured : previous.measurementStarted = false
  retryable : previous.retryable = true
  cleaned : previous.cleanup ≠ .unresolved

/-- The attempts of a cell, oldest first: a first one, then authorized retries. -/
structure Lineage (plan : ExperimentPlan) (lineage : List ExperimentAttempt) : Prop where
  bounded : lineage.length ≤ plan.maxPremeasurementRetries + 1
  numbered : lineage.map (·.sequence) = List.range lineage.length
  first : ∀ current ∈ lineage.head?, current.previousAttempt = none
  retries : lineage.IsChain Retries

theorem authorized_some {previous current : ExperimentAttempt} :
    authorized (some previous) current = true ↔ Retries previous current := by
  simp only [authorized, Bool.and_eq_true, Bool.not_eq_true', beq_iff_eq, bne_iff_ne]
  constructor
  · rintro ⟨⟨⟨⟨link, failed⟩, unmeasured⟩, retryable⟩, cleaned⟩
    exact ⟨link, failed, unmeasured, retryable, cleaned⟩
  · rintro ⟨link, failed, unmeasured, retryable, cleaned⟩
    exact ⟨⟨⟨⟨link, failed⟩, unmeasured⟩, retryable⟩, cleaned⟩

theorem inSequence_iff {index : ℕ} {previous : Option ExperimentAttempt}
    {lineage : List ExperimentAttempt} : inSequence index previous lineage = true ↔
      lineage.map (·.sequence) = List.range' index lineage.length ∧
        (∀ current ∈ lineage.head?, authorized previous current = true) ∧
        lineage.IsChain Retries := by
  induction lineage generalizing index previous with
  | nil => simp [inSequence]
  | cons current rest ih =>
    simp only [inSequence, Bool.and_eq_true, ih, authorized_some, beq_iff_eq, List.map_cons,
      List.length_cons, List.range'_succ, List.cons.injEq, List.head?_cons, Option.mem_some_iff,
      forall_eq', List.isChain_cons]
    tauto

theorem validLineage_iff {lineage : List AttemptWithRun} : validLineage plan lineage = true ↔
    Lineage plan (lineage.map (·.evidence)) := by
  simp only [validLineage, Bool.and_eq_true, decide_eq_true_eq, inSequence_iff]
  constructor
  · rintro ⟨bounded, numbered, first, retries⟩
    refine ⟨by simpa using bounded, by rw [numbered, List.range_eq_range'], ?_, retries⟩
    intro current head
    simpa [authorized] using first current head
  · rintro ⟨bounded, numbered, first, retries⟩
    refine ⟨by simpa using bounded, by rw [numbered, List.range_eq_range'], ?_, retries⟩
    intro current head
    simpa [authorized] using first current head

/-- Only the last attempt of a cell may have begun to measure. -/
theorem Lineage.measured_last {lineage : List ExperimentAttempt} (valid : Lineage plan lineage)
    {attempt : ExperimentAttempt} (member : attempt ∈ lineage)
    (measured : attempt.measurementStarted = true) : lineage.getLast? = some attempt := by
  obtain ⟨before, after, split⟩ := List.append_of_mem member
  cases after with
  | nil => simp [split]
  | cons next after =>
    have chain := valid.retries
    rw [split, List.isChain_append] at chain
    have retried := (List.isChain_cons.mp chain.2.1).1 next rfl
    rw [retried.unmeasured] at measured
    cases measured

theorem Lineage.sequences_nodup {lineage : List ExperimentAttempt} (valid : Lineage plan lineage) :
    (lineage.map (·.sequence)).Nodup := by
  rw [valid.numbered]
  exact List.nodup_range

/-! ### The order of a cell's attempts -/

section
variable (runtime : Runtime)

/-- By sequence, ties by id. -/
def earlier (a b : AttemptWithRun) : Prop :=
  a.evidence.sequence < b.evidence.sequence ∨ a.evidence.sequence = b.evidence.sequence ∧
    runtime.localeCompare a.evidence.id b.evidence.id ≠ .gt

instance : DecidableRel (earlier runtime) := fun a b => by
  unfold earlier
  infer_instance

theorem lineageOf_eq_sort (attempts : List AttemptWithRun) (cell : ExperimentCell) :
    lineageOf runtime attempts cell =
      (attempts.filter fun attempt => attempt.evidence.cellId == cell.id).insertionSort
        (earlier runtime) := rfl

instance : Std.Total (earlier runtime) := by
  have ids := @Sorting.total_upTo _ _ runtime.localeCompare runtime.collation.toOrientedCmp
    (fun attempt : AttemptWithRun => attempt.evidence.id)
  refine ⟨fun a b => ?_⟩
  rcases lt_trichotomy a.evidence.sequence b.evidence.sequence with less | same | more
  · exact .inl (.inl less)
  · rcases ids.total a b with ab | ba
    · exact .inl (.inr ⟨same, ab⟩)
    · exact .inr (.inr ⟨same.symm, ba⟩)
  · exact .inr (.inl more)

instance : IsTrans AttemptWithRun (earlier runtime) := by
  have ids := @Sorting.trans_upTo _ _ runtime.localeCompare runtime.collation
    (fun attempt : AttemptWithRun => attempt.evidence.id)
  refine ⟨fun a b c ab bc => ?_⟩
  rcases ab with ab | ⟨sameAb, ab⟩
  · rcases bc with bc | ⟨sameBc, _⟩
    · exact .inl (ab.trans bc)
    · exact .inl (by omega)
  · rcases bc with bc | ⟨sameBc, bc⟩
    · exact .inl (by omega)
    · exact .inr ⟨sameAb.trans sameBc, ids.trans _ _ _ ab bc⟩

end

theorem lineageOf_perm (runtime : Runtime) (attempts : List AttemptWithRun) (cell : ExperimentCell) :
    (lineageOf runtime attempts cell).Perm
      (attempts.filter fun attempt => attempt.evidence.cellId == cell.id) :=
  List.perm_insertionSort _ _

/-- Numbers without a gap leave one order. -/
theorem lineageOf_eq {cell : ExperimentCell} {lineage : List AttemptWithRun}
    (perm : lineage.Perm (attempts.filter fun attempt => attempt.evidence.cellId == cell.id))
    (valid : Lineage plan (lineage.map (·.evidence))) :
    lineageOf runtime attempts cell = lineage := by
  have distinct : (lineage.map (·.evidence.sequence)).Nodup := by
    simpa [List.map_map, Function.comp_def] using valid.sequences_nodup
  have ordered : lineage.Pairwise (earlier runtime) := by
    have numbers : (lineage.map (·.evidence.sequence)).Pairwise (· < ·) := by
      have numbered := valid.numbered
      rw [List.map_map, List.length_map] at numbered
      rw [show lineage.map (·.evidence.sequence) = _ from numbered]
      exact List.pairwise_lt_range
    exact (List.pairwise_map.mp numbers).imp fun less => .inl less
  rw [lineageOf_eq_sort]
  have sorted := List.pairwise_insertionSort (earlier runtime)
    (attempts.filter fun attempt => attempt.evidence.cellId == cell.id)
  refine List.Perm.eq_of_pairwise ?_ sorted ordered
    ((List.perm_insertionSort _ _).trans perm.symm)
  intro a b listed listed' ab ba
  have inLineage : a ∈ lineage :=
    perm.symm.subset ((List.mem_insertionSort _).mp listed)
  have same : a.evidence.sequence = b.evidence.sequence := by
    rcases ab with less | same
    · rcases ba with more | other
      · omega
      · omega
    · exact same.1
  exact List.inj_on_of_nodup_map distinct inLineage listed' same

/-! ### The report -/

/-- The whole history of one cell. -/
def CellHistory (plan : ExperimentPlan) (attempts : List AttemptWithRun) (cell : ExperimentCell) :
    Prop :=
  ∃ lineage, lineage.Perm (attempts.filter fun attempt => attempt.evidence.cellId == cell.id) ∧
    Lineage plan (lineage.map (·.evidence)) ∧ (ExperimentCell.eligibleMetrics cell = [] → lineage = [])

/-- What attempts without a conflict are. -/
structure Admitted (runtime : Runtime) (catalog : Catalog) (plan : ExperimentPlan)
    (attempts : List AttemptWithRun) : Prop where
  ids : (attempts.map (·.evidence.id)).Nodup
  bound : ∀ attempt ∈ attempts, ∃ cell, Bound runtime catalog plan attempt cell
  cells : ∀ cell ∈ plan.cells, CellHistory plan attempts cell

theorem evaluateCell_clean {cell : ExperimentCell} {outcome : CellOutcome}
    (h : evaluateCell runtime catalog plan attempts cell = .ok outcome) :
    outcome.conflicts = [] ↔ CellHistory plan attempts cell := by
  simp only [evaluateCell] at h
  split at h
  · rename_i excluded
    obtain rfl := Except.ok.inj h
    simp only [lineIf_eq_nil, Bool.not_eq_false', List.isEmpty_iff]
    constructor
    · intro empty
      have perm := lineageOf_perm runtime attempts cell
      rw [empty] at perm
      exact ⟨[], perm, ⟨Nat.zero_le _, rfl, by simp, .nil⟩, fun _ => rfl⟩
    · rintro ⟨lineage, perm, valid, empty⟩
      rw [lineageOf_eq perm valid, empty excluded]
  · rename_i eligible
    simp only [evaluateEligible, bind_eq_ok, pure_eq_ok] at h
    obtain ⟨_, _, _, _, _, _, rfl⟩ := h
    simp only [lineIf_eq_nil, Bool.not_eq_false', validLineage_iff]
    constructor
    · intro valid
      exact ⟨_, lineageOf_perm runtime attempts cell, valid, fun empty => absurd empty eligible⟩
    · rintro ⟨lineage, perm, valid, _⟩
      rw [lineageOf_eq perm valid]
      exact valid

theorem conflicts_eq_nil_iff
    (h : evaluateExperiment runtime catalog plan attempts = .ok report) :
    report.conflicts = [] ↔ Admitted runtime catalog plan attempts := by
  simp only [evaluateExperiment, bind_eq_ok, pure_eq_ok] at h
  obtain ⟨accepted, verified, seen, checked, outcomes, evaluated, rfl⟩ := h
  have ids := (PlanAcceptance.cellRules_of_ok verified).ids
  obtain rfl := (PlanSchedule.verified_of_ok verified).1
  have perm := List.perm_insertionSort
    (Sorting.upTo runtime.localeCompare fun attempt : AttemptWithRun => attempt.evidence.id) attempts
  have loop := checkAttempts_clean ids checked
  have cells : outcomes.flatMap (·.conflicts) = [] ↔
      ∀ cell ∈ accepted.cells, CellHistory accepted attempts cell := by
    simp only [List.flatMap_eq_nil_iff]
    constructor
    · intro clean cell planned
      obtain ⟨outcome, listed, returns⟩ := mapM_mem evaluated planned
      exact (evaluateCell_clean returns).mp (clean outcome listed)
    · intro histories outcome listed
      obtain ⟨cell, planned, returns⟩ := mem_mapM evaluated listed
      exact (evaluateCell_clean returns).mpr (histories cell planned)
  rw [List.append_eq_nil_iff, loop, cells]
  have sameIds := (perm.map fun attempt : AttemptWithRun => attempt.evidence.id).nodup_iff
  constructor
  · rintro ⟨⟨distinct, bound⟩, histories⟩
    exact ⟨sameIds.mp distinct, fun attempt listed => bound attempt (perm.mem_iff.mpr listed), histories⟩
  · rintro ⟨distinct, bound, histories⟩
    exact ⟨⟨sameIds.mpr distinct, fun attempt listed => bound attempt (perm.mem_iff.mp listed)⟩, histories⟩

/-- Of one cell at most one attempt began to measure, and it is the one no other follows. -/
theorem CellHistory.measured_once {cell : ExperimentCell} (history : CellHistory plan attempts cell)
    (ids : (attempts.map (·.evidence.id)).Nodup) {first second : AttemptWithRun}
    (listed : first ∈ attempts) (listed' : second ∈ attempts)
    (named : first.evidence.cellId = cell.id) (named' : second.evidence.cellId = cell.id)
    (measured : first.evidence.measurementStarted = true) :
    second.evidence.sequence ≤ first.evidence.sequence ∧
      (second.evidence.measurementStarted = true → second = first) := by
  obtain ⟨lineage, perm, valid, _⟩ := history
  have within : ∀ attempt ∈ attempts, attempt.evidence.cellId = cell.id →
      attempt.evidence ∈ lineage.map (·.evidence) := by
    intro attempt listed named
    have kept : attempt ∈ lineage :=
      perm.mem_iff.mpr (List.mem_filter.mpr ⟨listed, beq_iff_eq.mpr named⟩)
    exact List.mem_map_of_mem kept
  have last := valid.measured_last (within first listed named) measured
  constructor
  · have numbers := congrArg List.getLast? valid.numbered
    rw [List.getLast?_map, last, List.getLast?_range] at numbers
    have below : second.evidence.sequence ∈ List.range (lineage.map (·.evidence)).length := by
      rw [← valid.numbered]
      exact List.mem_map_of_mem (within second listed' named')
    rw [List.mem_range] at below
    split at numbers
    · omega
    · have number : first.evidence.sequence = (lineage.map (·.evidence)).length - 1 :=
        Option.some.inj numbers
      omega
  · intro measured'
    have last' := valid.measured_last (within second listed' named') measured'
    rw [last] at last'
    have same := Option.some.inj last'
    exact List.inj_on_of_nodup_map ids listed' listed (by rw [same])

/-- An evaluation reports no conflict exactly when every attempt is the plan's own and every cell
has one history, and then no cell is measured twice. -/
theorem evaluateExperiment_lineages
    (h : evaluateExperiment runtime catalog plan attempts = .ok report) :
    (report.conflicts = [] ↔ Admitted runtime catalog plan attempts) ∧
      (report.conflicts = [] → ∀ first ∈ attempts, ∀ second ∈ attempts,
        first.evidence.cellId = second.evidence.cellId → first.evidence.measurementStarted = true →
        second.evidence.sequence ≤ first.evidence.sequence ∧
          (second.evidence.measurementStarted = true → second = first)) := by
  refine ⟨conflicts_eq_nil_iff h, ?_⟩
  intro clean first listed second listed' same measured
  have admitted := (conflicts_eq_nil_iff h).mp clean
  obtain ⟨cell, bound⟩ := admitted.bound first listed
  exact (admitted.cells cell bound.planned).measured_once admitted.ids listed listed' bound.cellId
    (same ▸ bound.cellId) measured

/-! ### A complete experiment -/

/-- The sandbox of an attempt ran the suite through, booted the frozen artifact and is gone. -/
structure Ran (runtime : Runtime) (plan : ExperimentPlan) (cell : ExperimentCell)
    (attempt : AttemptWithRun) (row : ProviderRun) (execution : ExecutionReceipt)
    (cleanup : CleanupReceipt) (artifact : ProviderArtifactEvidence) : Prop where
  executed : attempt.execution = some execution
  runId : execution.runId = plan.id
  provider : execution.provider = cell.provider
  suite : execution.suite = cell.suite
  replicate : execution.replicateIndex = some cell.replicate
  unfailed : execution.primaryFailure = none
  steps : ∀ step ∈ finalAttempts id execution.steps, stepAccepted step = true
  detached : ∀ step ∈ finalAttempts DetachedStep.toExecutionStep execution.detached,
    step.state = .completed ∧ stepAccepted step.toExecutionStep = true
  cleaned : attempt.cleanup = some cleanup
  sameExecution : cleanup.executionId = execution.executionId
  absent : cleanup.completed = true ∧ cleanup.confirmedAbsent = true
  recorded : ∃ records, row.artifactEvidence = some records ∧ artifact ∈ records
  artifactCell : artifact.cell.suite = cell.suite ∧ artifact.cell.replicateIndex = some cell.replicate
  sandbox : artifact.sandboxId = execution.sandboxId
  booted : evidenceDigest runtime (effectiveArtifact artifact.provenance).toJson =
    .ok cell.artifactIdentity

/-- Real samples of a metric, as many trials as the plan asks for. -/
structure Sampled (catalog : Catalog) (cell : ExperimentCell) (attempt : AttemptWithRun)
    (metric : MetricResult) : Prop where
  positive : ∀ sample ∈ metric.samples.values, 0 < sample ∨
    sample = 0 ∧ metric.metricId ∈ subMillisecondDns
  passes : ptsSampled catalog metric.metricId = true →
    trialsOf catalog cell attempt.ptsTrials metric = (.rawString, some cell.passes) ∨
      trialsOf catalog cell attempt.ptsTrials metric = (.singleTrialValue, some 1) ∧ cell.passes = 1

theorem sampled_of_measured {cell : ExperimentCell} {attempt : AttemptWithRun}
    {metrics : List MetricResult} {metricId : String}
    (eligible : metricId ∈ ExperimentCell.eligibleMetrics cell)
    (recorded : metricId ∈ measured (passShortfalls catalog cell (ExperimentCell.eligibleMetrics cell)
      attempt.ptsTrials metrics) metrics) :
    ∃ metric ∈ metrics, metric.metricId = metricId ∧ Sampled catalog cell attempt metric := by
  simp only [measured, List.mem_map, List.mem_filter, Bool.and_eq_true, Bool.or_eq_true,
    List.all_eq_true, decide_eq_true_eq, Bool.not_eq_true', List.contains_iff_mem] at recorded
  obtain ⟨metric, ⟨listed, positive, enough⟩, rfl⟩ := recorded
  refine ⟨metric, listed, rfl, positive, ?_⟩
  intro sampled
  have short : fallsShort ⟨⟨cell.provider, metric.metricId,
      (trialsOf catalog cell attempt.ptsTrials metric).1,
      (trialsOf catalog cell attempt.ptsTrials metric).2⟩, cell.passes⟩ = false := by
    by_contra falls
    rw [Bool.not_eq_false] at falls
    rw [List.any_eq_false] at enough
    refine enough _ (List.mem_filter.mpr ⟨List.mem_map.mpr ⟨metric, ?_, rfl⟩, falls⟩) (by simp)
    exact List.mem_filter.mpr ⟨listed, by simp [eligible, sampled]⟩
  generalize trialsOf catalog cell attempt.ptsTrials metric = trials at short ⊢
  obtain ⟨source, observed⟩ := trials
  cases source with
  | rawString => exact .inl (by simpa [fallsShort] using short)
  | singleTrialValue => exact .inr (by simpa [fallsShort] using short)
  | aggregateValue => cases short
  | unverified => cases short

theorem ran_of_verified {cell : ExperimentCell} {attempt : AttemptWithRun} {run : Run}
    {row : ProviderRun} {artifact : ProviderArtifactEvidence} (brought : attempt.run = some run)
    (recorded : ∃ records, row.artifactEvidence = some records ∧ artifact ∈ records)
    (artifactCell : artifact.cell.suite = cell.suite ∧
      artifact.cell.replicateIndex = some cell.replicate)
    (verified : measurementVerified runtime cell
      (receiptsConfirmSuccess plan cell attempt.execution attempt.cleanup (some artifact))
      (some attempt) (some row) (some artifact) = .ok true) :
    attestedBy cell attempt run artifact = true ∧ run.replicateIndex = some cell.replicate ∧
      ∃ execution cleanup, Ran runtime plan cell attempt row execution cleanup artifact := by
  simp only [measurementVerified, Option.bind_some, brought] at verified
  split at verified
  · rename_i both
    rw [Bool.and_eq_true] at both
    obtain ⟨confirmed, attested⟩ := both
    simp only [bind_eq_ok, pure_eq_ok, Bool.and_eq_true, beq_iff_eq] at verified
    obtain ⟨digest, booted, ⟨⟨rfl, replicate⟩, _⟩, _⟩ := verified
    refine ⟨attested, replicate, ?_⟩
    simp only [receiptsConfirmSuccess] at confirmed
    split at confirmed
    · rename_i execution cleanup executed cleaned
      simp only [Bool.and_eq_true, beq_iff_eq, List.all_eq_true, Option.map_some,
        Option.some.injEq] at confirmed
      obtain ⟨⟨⟨⟨⟨⟨⟨⟨⟨⟨⟨⟨runId, provider⟩, suite⟩, index⟩, same⟩, completed⟩, absent⟩, unfailed⟩, _⟩, _⟩,
        steps⟩, detached⟩, sandbox⟩ := confirmed
      exact ⟨execution, cleanup, executed, runId, provider, suite, index, unfailed, steps, detached,
        cleaned, same, ⟨completed, absent⟩, recorded, artifactCell, sandbox, booted⟩
    · cases confirmed
  · cases verified

/-- The row of the cell's provider in the shard of an attempt. -/
def rowOf (cell : ExperimentCell) (attempt : AttemptWithRun) : Option ProviderRun :=
  attempt.run.bind fun run => run.providers.find? fun entry => entry.providerId == cell.provider

/-- The artifact record of the cell in that row. -/
def artifactOf (cell : ExperimentCell) (row : Option ProviderRun) : Option ProviderArtifactEvidence :=
  (row.bind (·.artifactEvidence)).bind fun records => records.find? fun entry =>
    entry.cell.suite == cell.suite && entry.cell.replicateIndex == some cell.replicate

/-- The metrics an attempt measured as its cell asks for. -/
def recordedOf (catalog : Catalog) (cell : ExperimentCell) (attempt : AttemptWithRun) : List String :=
  measured (passShortfalls catalog cell (ExperimentCell.eligibleMetrics cell) attempt.ptsTrials
    (((rowOf cell attempt).map (·.metrics)).getD [])) (((rowOf cell attempt).map (·.metrics)).getD [])

/-- An attempt whose one sandbox is accounted for from its execution to its end. -/
structure Confirmed (runtime : Runtime) (plan : ExperimentPlan) (cell : ExperimentCell)
    (attempt : AttemptWithRun) (run : Run) (row : ProviderRun) : Prop where
  brought : attempt.run = some run
  found : rowOf cell attempt = some row
  listed : row ∈ run.providers
  own : row.providerId = cell.provider
  others : ∀ other ∈ run.providers, other.providerId = cell.provider ∨
    providerReportedNothing other = true
  replicate : run.replicateIndex = some cell.replicate
  outcome : attempt.evidence.outcome = .completed
  completion : attempt.evidence.completion = .knownSuccess
  started : attempt.evidence.measurementStarted = true
  cleanup : attempt.evidence.cleanup = .confirmed
  ran : ∃ execution cleanup artifact, Ran runtime plan cell attempt row execution cleanup artifact

/-- An attempt that measured everything its cell asks for. -/
structure Proven (runtime : Runtime) (catalog : Catalog) (plan : ExperimentPlan)
    (cell : ExperimentCell) (attempt : AttemptWithRun) (run : Run) (row : ProviderRun) : Prop where
  confirmed : Confirmed runtime plan cell attempt run row
  metrics : ∀ metricId ∈ ExperimentCell.eligibleMetrics cell, ∃ metric ∈ row.metrics,
    metric.metricId = metricId ∧ Sampled catalog cell attempt metric

theorem confirmed_of_verified {cell : ExperimentCell} {attempt : AttemptWithRun}
    (verified : measurementVerified runtime cell
      (receiptsConfirmSuccess plan cell attempt.execution attempt.cleanup
        (artifactOf cell (rowOf cell attempt)))
      (some attempt) (rowOf cell attempt) (artifactOf cell (rowOf cell attempt)) = .ok true) :
    ∃ run row, Confirmed runtime plan cell attempt run row := by
  cases brought : attempt.run with
  | none =>
    simp only [measurementVerified, Option.bind_some, brought] at verified
    cases verified
  | some run =>
    cases found : rowOf cell attempt with
    | none =>
      simp only [measurementVerified, Option.bind_some, brought, found] at verified
      cases verified
    | some row =>
      rw [found] at verified
      cases kept : artifactOf cell (some row) with
      | none =>
        simp only [measurementVerified, Option.bind_some, brought, kept] at verified
        cases verified
      | some artifact =>
        rw [kept] at verified
        have search : run.providers.find? (fun entry => entry.providerId == cell.provider) =
            some row := by
          simpa only [rowOf, brought, Option.bind_some] using found
        have own := List.find?_some search
        obtain ⟨records, listed, chosen⟩ := Option.bind_eq_some_iff.mp kept
        rw [Option.bind_some] at listed
        have cellOf := List.find?_some chosen
        simp only [Bool.and_eq_true, beq_iff_eq] at cellOf
        obtain ⟨attested, replicate, execution, cleanup, ran⟩ := ran_of_verified brought
          ⟨records, listed, List.mem_of_find?_eq_some chosen⟩ cellOf verified
        simp only [attestedBy, Bool.and_eq_true, Bool.or_eq_true, beq_iff_eq, List.all_eq_true]
          at attested
        obtain ⟨⟨⟨⟨⟨⟨outcome, completion⟩, started⟩, confirmed⟩, _⟩, others⟩, _⟩ := attested
        exact ⟨run, row, brought, found, List.mem_of_find?_eq_some search, beq_iff_eq.mp own, others,
          replicate, outcome, completion, started, confirmed, execution, cleanup, artifact, ran⟩

theorem Confirmed.sampled {cell : ExperimentCell} {attempt : AttemptWithRun} {run : Run}
    {row : ProviderRun} {metricId : String} (confirmed : Confirmed runtime plan cell attempt run row)
    (eligible : metricId ∈ ExperimentCell.eligibleMetrics cell)
    (recorded : metricId ∈ recordedOf catalog cell attempt) :
    ∃ metric ∈ row.metrics, metric.metricId = metricId ∧ Sampled catalog cell attempt metric := by
  rw [recordedOf, confirmed.found] at recorded
  exact sampled_of_measured eligible recorded

theorem proven_of_complete {cell : ExperimentCell} {outcome : CellOutcome}
    (eligible : ExperimentCell.eligibleMetrics cell ≠ [])
    (h : evaluateCell runtime catalog plan attempts cell = .ok outcome)
    (settled : outcome.cell.settled = true) :
    ∃ attempt, (lineageOf runtime attempts cell).getLast? = some attempt ∧
      outcome.selected = some attempt.evidence.id ∧
      ∃ run row, Proven runtime catalog plan cell attempt run row := by
  simp only [evaluateCell, eligible, if_false, evaluateEligible, bind_eq_ok, pure_eq_ok] at h
  obtain ⟨_, _, _, _, verified, hVerified, rfl⟩ := h
  cases last : (lineageOf runtime attempts cell).getLast? with
  | none => simp [CoverageCell.settled, last, statusOf] at settled
  | some attempt =>
    rw [last] at hVerified settled
    refine ⟨attempt, rfl, ?_⟩
    simp only [CoverageCell.settled, statusOf] at settled ⊢
    split at settled
    · rename_i completed
      refine ⟨by simp only [Option.map_some, completed, if_true], ?_⟩
      simp only [Bool.and_eq_true, List.isEmpty_iff, List.filter_eq_nil_iff, Bool.not_eq_true',
        Bool.not_eq_false, List.contains_iff_mem] at completed
      obtain ⟨⟨⟨rfl, all⟩, _⟩, _⟩ := completed
      obtain ⟨run, row, confirmed⟩ := confirmed_of_verified hVerified
      refine ⟨run, row, confirmed, fun metricId eligible => ?_⟩
      exact confirmed.sampled eligible (all metricId eligible)
    · split at settled
      · cases settled
      · cases settled

/-- The one measurement of a cell. -/
structure Chosen (runtime : Runtime) (catalog : Catalog) (plan : ExperimentPlan)
    (attempts : List AttemptWithRun) (cell : ExperimentCell) (attempt : AttemptWithRun) : Prop where
  listed : attempt ∈ attempts
  cellId : attempt.evidence.cellId = cell.id
  proven : ∃ run row, Proven runtime catalog plan cell attempt run row
  only : ∀ other ∈ attempts, other.evidence.cellId = cell.id →
    other.evidence.measurementStarted = true → other = attempt

theorem chosen_of_selected (admitted : Admitted runtime catalog plan attempts) {cell : ExperimentCell}
    (planned : cell ∈ plan.cells) {outcome : CellOutcome}
    (h : evaluateCell runtime catalog plan attempts cell = .ok outcome)
    (settled : outcome.cell.settled = true) :
    (ExperimentCell.eligibleMetrics cell = [] ∧ outcome.selected = none) ∨
      ExperimentCell.eligibleMetrics cell ≠ [] ∧ ∃ attempt,
        outcome.selected = some attempt.evidence.id ∧
          Chosen runtime catalog plan attempts cell attempt := by
  by_cases excluded : ExperimentCell.eligibleMetrics cell = []
  · simp only [evaluateCell, excluded, if_true] at h
    obtain rfl := Except.ok.inj h
    exact .inl ⟨excluded, rfl⟩
  · obtain ⟨attempt, last, selected, proven⟩ := proven_of_complete excluded h settled
    have inside := (lineageOf_perm runtime attempts cell).mem_iff.mp (List.mem_of_getLast? last)
    obtain ⟨listed, named⟩ := List.mem_filter.mp inside
    have cellId := beq_iff_eq.mp named
    refine .inr ⟨excluded, attempt, selected, listed, cellId, proven, ?_⟩
    obtain ⟨_, _, ⟨_, _, _, _, _, _, _, _, started', _, _⟩, _⟩ := proven
    intro other listed' cellId' started
    exact ((admitted.cells cell planned).measured_once admitted.ids listed listed' cellId cellId'
      started').2 started

theorem id_of_evaluateCell {cell : ExperimentCell} {outcome : CellOutcome}
    (h : evaluateCell runtime catalog plan attempts cell = .ok outcome) : outcome.cell.id = cell.id := by
  simp only [evaluateCell] at h
  split at h
  · obtain rfl := Except.ok.inj h
    rfl
  · simp only [evaluateEligible, bind_eq_ok, pure_eq_ok] at h
    obtain ⟨_, _, _, _, _, _, rfl⟩ := h
    rfl

/-- A complete experiment has measured each eligible cell in one attempt and selects those alone. -/
theorem evaluateExperiment_complete
    (h : evaluateExperiment runtime catalog plan attempts = .ok report)
    (complete : report.complete = true) :
    Admitted runtime catalog plan attempts ∧
      report.selectedAttempts.Nodup ∧
      (∀ cell ∈ plan.cells, ExperimentCell.eligibleMetrics cell ≠ [] →
        ∃ attempt, Chosen runtime catalog plan attempts cell attempt ∧
          attempt.evidence.id ∈ report.selectedAttempts) ∧
      ∀ id ∈ report.selectedAttempts, ∃ cell ∈ plan.cells, ∃ attempt,
        Chosen runtime catalog plan attempts cell attempt ∧ attempt.evidence.id = id := by
  have clean := conflicts_eq_nil_iff h
  have sameIds := (RepairExperiment.evaluated_of_ok h).ids
  simp only [evaluateExperiment, bind_eq_ok, pure_eq_ok] at h
  obtain ⟨accepted, verified, seen, checked, outcomes, evaluated, rfl⟩ := h
  have distinct := (PlanAcceptance.cellRules_of_ok verified).ids
  obtain rfl := (PlanSchedule.verified_of_ok verified).1
  simp only [Bool.and_eq_true, List.isEmpty_iff, List.all_eq_true, List.mem_map,
    forall_exists_index, and_imp, forall_apply_eq_imp_iff₂] at complete
  obtain ⟨empty, settled⟩ := complete
  have admitted := clean.mp empty
  have chosen : ∀ outcome ∈ outcomes, ∀ id, outcome.selected = some id → ∃ cell ∈ accepted.cells,
      outcome.cell.id = cell.id ∧ ∃ attempt, Chosen runtime catalog accepted attempts cell attempt ∧
        attempt.evidence.id = id := by
    intro outcome listed id selects
    obtain ⟨cell, planned, returns⟩ := mem_mapM evaluated listed
    rcases chosen_of_selected admitted planned returns (settled outcome listed) with
      ⟨_, nothing⟩ | ⟨_, attempt, selected, found⟩
    · rw [nothing] at selects
      cases selects
    · rw [selected] at selects
      exact ⟨cell, planned, id_of_evaluateCell returns, attempt, found, Option.some.inj selects⟩
  refine ⟨admitted, ?_, ?_, ?_⟩
  · -- attempts of different cells have different ids
    have apart : outcomes.Pairwise fun outcome other => outcome.cell.id ≠ other.cell.id := by
      rw [← List.pairwise_map (f := fun outcome : CellOutcome => outcome.cell.id)]
      rw [← sameIds, List.map_map] at distinct
      exact distinct
    refine List.pairwise_filterMap.mpr (apart.imp_of_mem ?_)
    intro outcome other listed listed' apart id selects id' selects' same
    obtain ⟨cell, _, named, attempt, found, rfl⟩ := chosen outcome listed id selects
    obtain ⟨cell', _, named', attempt', found', rfl⟩ := chosen other listed' id' selects'
    have one := List.inj_on_of_nodup_map admitted.ids found.listed found'.listed same
    apply apart
    rw [named, named', ← found.cellId, ← found'.cellId, one]
  · intro cell planned eligible
    obtain ⟨outcome, listed, returns⟩ := mapM_mem evaluated planned
    rcases chosen_of_selected admitted planned returns (settled outcome listed) with
      ⟨excluded, _⟩ | ⟨_, attempt, selected, found⟩
    · exact absurd excluded eligible
    · exact ⟨attempt, found, List.mem_filterMap.mpr ⟨outcome, listed, selected⟩⟩
  · intro id member
    obtain ⟨outcome, listed, selects⟩ := List.mem_filterMap.mp member
    obtain ⟨cell, planned, _, found⟩ := chosen outcome listed id selects
    exact ⟨cell, planned, found⟩

/-! ### Samples -/

/-- A runtime that tells the sample's artifact and its shard from every other text. -/
def naming : Runtime :=
  { plainRuntime with
    sha256 := fun text =>
      if text = "\x7b\"kind\":\"image\",\"ref\":\"i\"\x7d" then
        "1111111111111111111111111111111111111111111111111111111111111111"
      else if text = "{}" then "2222222222222222222222222222222222222222222222222222222222222222"
      else "0000000000000000000000000000000000000000000000000000000000000000" }

/-- One cell of two passes, of a metric PTS samples. -/
def measuredPlan : ExperimentPlan where
  id := "7"
  sha := "aaaaaaaaaaaaaaaaaaaaaaaaaaaaaaaaaaaaaaaa"
  createdOn := "2026-01-31"
  digest := "sha256:0000000000000000000000000000000000000000000000000000000000000000"
  maxPremeasurementRetries := 1
  accounts := [⟨"e2b", 2, some 8, some 16, none⟩]
  cells := [⟨"c0", "e2b", "e2b", "memory", 0, "w",
    "sha256:1111111111111111111111111111111111111111111111111111111111111111",
    "v", ⟨4, 8, none⟩, none, ["m"], [], 2, 5, 40, 5⟩]
  batches := [⟨"b0", "e2b", none, ["c0"], 1, 70⟩]
  rounds := [⟨"r0", "e2b", none, ["b0"]⟩]

def measuredCatalog : Catalog :=
  { plainCatalog with
    getMetric := fun _ => some ⟨true, false⟩
    artifactKind := fun _ => some "image"
    document := fun _ => .obj [] }

/-- A first attempt that failed before it measured. -/
def failedEvidence : ExperimentAttempt where
  id := "a0"
  cellId := "c0"
  planDigest := "sha256:0000000000000000000000000000000000000000000000000000000000000000"
  sha := "aaaaaaaaaaaaaaaaaaaaaaaaaaaaaaaaaaaaaaaa"
  workloadRevision := "w"
  environmentRevision := "v"
  artifactIdentity := "sha256:1111111111111111111111111111111111111111111111111111111111111111"
  passes := 2
  workflowRun := "7"
  workflowAttempt := 1
  job := "b0"
  sequence := 0
  previousAttempt := none
  outcome := .failed
  measurementStarted := false
  retryable := true
  cleanup := .confirmed
  completion := .knownFailure
  runDigest := none
  rawDigest := none
  diagnostic := some "no capacity"

def retriedEvidence : ExperimentAttempt :=
  { failedEvidence with
    id := "a1"
    sequence := 1
    previousAttempt := some "a0"
    outcome := .completed
    measurementStarted := true
    retryable := false
    completion := .knownSuccess
    runDigest := some "sha256:2222222222222222222222222222222222222222222222222222222222222222"
    rawDigest := some "sha256:3333333333333333333333333333333333333333333333333333333333333333"
    diagnostic := none }

def measuredRow : ProviderRun :=
  { emptyRow "e2b" with
    artifactEvidence := some [⟨⟨"7", "e2b", "memory", some 0⟩, "s",
      .driverReported (.image "i") (.image "i")⟩]
    validationStatus := .validated
    metrics := [⟨"m", ⟨[3, 4], by decide⟩, ⟨7 / 2, 7 / 2, 2⟩, none, none, none, some .rawString, none,
      ⟨none, none⟩, false⟩]
    suitesCovered := ["memory"] }

def measuredShard : Run where
  schemaVersion := 6
  runId := "7"
  sha := "aaaaaaaaaaaaaaaaaaaaaaaaaaaaaaaaaaaaaaaa"
  generatedAt := "2026-01-31T00:00:00.000Z"
  sourceRunUrl := none
  replicateIndex := some 0
  experiment := none
  targetSpec := ⟨4, 8, none⟩
  providers := [measuredRow]

def measuredAttempts : List AttemptWithRun :=
  [⟨retriedEvidence, some measuredShard,
      some ⟨"x1", "7", some 0, "e2b", "memory", "s",
        [⟨.benchmark, "run", some 0, false⟩, ⟨.collect, "pull", some 0, false⟩], [], none⟩,
      some ⟨"x1", true, "2026-01-31T01:00:00.000Z", none, none, true⟩, none, none, none⟩,
    ⟨failedEvidence, none, none, none, none, none, none⟩]

lemma measuredPlan_digest : evidenceDigest naming measuredPlan.body = .ok measuredPlan.digest := by
  have long : ((visit plainJson evidenceLimits (evidenceLimits.maxDepth + 1) measuredPlan.body
      ⟨0, 0⟩).toOption.map fun visited => visited.1.length) = some 766 := by decide +kernel
  obtain ⟨visited, printed, many⟩ := Option.map_eq_some_iff.mp long
  have other : ∀ text : String, text.length < 766 → String.ofList visited.1 ≠ text := by
    rintro _ short rfl
    rw [String.length_ofList, many] at short
    exact lt_irrefl _ short
  have json : canonicalJsonString naming.toJsonRuntime evidenceLimits measuredPlan.body =
      .ok (String.ofList visited.1) := by
    unfold canonicalJsonString
    rw [show naming.toJsonRuntime = plainJson from rfl, toOption_eq_some.mp printed]
    rfl
  have artifact := other "\x7b\"kind\":\"image\",\"ref\":\"i\"\x7d" (by decide)
  have shard := other "{}" (by decide)
  generalize String.ofList visited.1 = text at json artifact shard
  unfold evidenceDigest
  rw [json]
  simp only [ok_bind, naming, artifact, shard, if_false]
  decide +kernel

lemma measuredPlan_accepted :
    verifyExperimentPlan naming measuredCatalog.toRegistry measuredPlan = .ok measuredPlan := by
  simp only [verifyExperimentPlan, bind_eq_ok, throwIf_eq_ok, pure_eq_ok, and_true]
  exact ⟨(), by decide +kernel, _, measuredPlan_digest, (), fun other => other rfl, (),
    by decide +kernel, [("e2b", "e2b")], by decide +kernel, (), by decide +kernel, (),
    by decide +kernel, (), by decide +kernel, (), by decide +kernel,
    ⟨["b0"], ["c0"], [("b0", .syntheticMemory)], [("e2b", 0)]⟩, by decide +kernel, (),
    by decide +kernel, ⟨["b0"], ["r0"], [("e2b", 0)]⟩, by decide +kernel, (), by decide +kernel,
    [("memory", "sha256:0000000000000000000000000000000000000000000000000000000000000000")],
    by decide +kernel⟩

lemma measured_report : ∃ report,
    evaluateExperiment naming measuredCatalog measuredPlan measuredAttempts = .ok report ∧
      report.conflicts = [] ∧ report.complete = true := by
  have both : (evaluateExperiment naming measuredCatalog measuredPlan measuredAttempts).toOption.map
      (fun report => (report.conflicts, report.complete)) = some ([], true) := by
    simp only [evaluateExperiment, measuredPlan_accepted, ok_bind]
    decide +kernel
  obtain ⟨report, evaluated, flags⟩ := Option.map_eq_some_iff.mp both
  obtain ⟨clean, complete⟩ := Prod.mk.inj flags
  exact ⟨report, toOption_eq_some.mp evaluated, clean, complete⟩

/-- A failure before any measurement, and the retry that measured. -/
theorem evaluateExperiment_lineages_sample :
    Admitted naming measuredCatalog measuredPlan measuredAttempts := by
  obtain ⟨report, evaluated, clean, _⟩ := measured_report
  exact (evaluateExperiment_lineages evaluated).1.mp clean

theorem evaluateExperiment_complete_sample : ∃ cell ∈ measuredPlan.cells, ∃ attempt,
    Chosen naming measuredCatalog measuredPlan measuredAttempts cell attempt := by
  obtain ⟨report, evaluated, _, complete⟩ := measured_report
  obtain ⟨_, _, chosen, _⟩ := evaluateExperiment_complete evaluated complete
  obtain ⟨attempt, found, _⟩ := chosen _ List.mem_cons_self (by decide)
  exact ⟨_, List.mem_cons_self, attempt, found⟩

end EvaluateExperiment
