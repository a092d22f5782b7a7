import SandboxBenchmarks.PublicationContents

/-!
# What the publication of a repair contains

A repair replaces its cells whole: of a cell it names, what the replacements retained is
published and nothing that the original attempts measured, even where a replacement failed,
and every other cell is published as it was.
-/

namespace RepairExperiment

open Aggregate hiding publishedMetrics
open CanonicalJson Checks EvaluateExperiment ExperimentRecords PlanVerification PublishExperiment
  RunModel RunSchema

variable {runtime : Runtime} {catalog : Catalog} {source recovery : ExperimentPlan}
  {originals replacements : List AttemptWithRun} {repair : ExperimentRepair}
  {original recovered : CoverageReport}

/-- Two cells with one digest are one cell. -/
def CellsSeparated (runtime : Runtime) (source recovery : ExperimentPlan) : Prop :=
  ∀ c ∈ source.cells, ∀ d ∈ recovery.cells, ∀ digest,
    evidenceDigest runtime c.toJson = .ok digest → evidenceDigest runtime d.toJson = .ok digest → c = d

/-- The ids of the cells that a repair replaces. -/
abbrev replacedIds (repair : ExperimentRepair) : List String := repair.cells.map (·.id)

/-- The selection of a repair: its cells are what the original left unsettled and what the recovery
plans. -/
structure Frozen (runtime : Runtime) (catalog : Catalog) (source : ExperimentPlan)
    (originals : List AttemptWithRun) (recovery : ExperimentPlan) (repair : ExperimentRepair)
    (original : CoverageReport) : Prop where
  evaluated : evaluateExperiment runtime catalog source originals = .ok original
  verified : verifyExperimentPlan runtime catalog.toRegistry recovery = .ok recovery
  unsettled : ∀ covered ∈ original.cells, covered.id ∈ replacedIds repair ↔ covered.settled = false
  planned : ∀ cell, cell ∈ recovery.cells ↔ cell ∈ source.cells ∧ cell.id ∈ replacedIds repair

lemma evaluated_of_repairableCoverage {plan : ExperimentPlan} {attempts : List AttemptWithRun}
    {coverage : CoverageReport}
    (h : repairableCoverage runtime catalog plan attempts = .ok coverage) :
    evaluateExperiment runtime catalog plan attempts = .ok coverage := by
  simp only [repairableCoverage, bind_eq_ok, pure_eq_ok] at h
  obtain ⟨result, aggregated, _, _, rfl⟩ := h
  exact coverage_of_aggregate aggregated

/-- Distinct ids among as many are all of them. -/
lemma mem_iff_of_subset {some all : List String} (distinct : some.Nodup) (inside : some ⊆ all)
    (length : all.length = some.length) (id : String) : id ∈ all ↔ id ∈ some :=
  ((List.subperm_of_subset distinct inside).perm_of_length_le length.le).mem_iff.symm

theorem frozen_of_ok (separated : CellsSeparated runtime source recovery)
    (h : verifySelection runtime catalog source originals recovery repair = .ok original) :
    Frozen runtime catalog source originals recovery repair original := by
  simp only [verifySelection, bind_eq_ok, throwIf_eq_ok, pure_eq_ok, not_or, not_not, forM_eq_ok] at h
  obtain ⟨_, _, _, _, _, _, _, _, plan, verified, coverage, repairable, _, _, _, _, _, bound, _,
    targets, rfl⟩ := h
  obtain ⟨_, _, _, _, _, repairs, plans, _⟩ := bound
  obtain rfl := (PlanSchedule.verified_of_ok verified).1
  have evaluated := evaluated_of_repairableCoverage repairable
  have whole := evaluated_of_ok evaluated
  have sourceIds : (source.cells.map (·.id)).Nodup :=
    (PlanAcceptance.cellRules_of_ok whole.verified).ids
  have recoveryIds : (plan.cells.map (·.id)).Nodup := (PlanAcceptance.cellRules_of_ok verified).ids
  have targetIds : ((repairTargets coverage).map (·.id)).Nodup := by
    have distinct : (coverage.cells.map (·.id)).Nodup := whole.ids ▸ sourceIds
    exact distinct.sublist (List.filter_sublist.map _)
  -- each target is bound by the manifest and is one cell of both plans
  have each : ∀ target ∈ repairTargets coverage, target.id ∈ replacedIds repair ∧
      ∃ cell ∈ source.cells, cell.id = target.id ∧ cell ∈ plan.cells := by
    intro target listed
    have checked := targets target listed
    simp only [checkTarget, bind_eq_ok, require_eq_ok, throwIf_eq_ok, not_not] at checked
    obtain ⟨binding, binds, _, _, cell, planned, next, again, before, hBefore, after, hAfter, same⟩ :=
      checked
    subst same
    obtain rfl := separated cell (List.mem_of_find?_eq_some planned) next
      (List.mem_of_find?_eq_some again) _ hBefore hAfter
    have named : binding.id = target.id := by simpa using List.find?_some binds
    refine ⟨named ▸ List.mem_map_of_mem (List.mem_of_find?_eq_some binds), cell,
      List.mem_of_find?_eq_some planned, ?_, List.mem_of_find?_eq_some again⟩
    simpa using List.find?_some planned
  have replaced : ∀ id, id ∈ replacedIds repair ↔ id ∈ (repairTargets coverage).map (·.id) := by
    refine mem_iff_of_subset targetIds ?_ (by simpa using repairs)
    intro id listed
    obtain ⟨target, member, rfl⟩ := List.mem_map.mp listed
    exact (each target member).1
  have recovers : ∀ id, id ∈ plan.cells.map (·.id) ↔ id ∈ (repairTargets coverage).map (·.id) := by
    refine mem_iff_of_subset targetIds ?_ (by simpa using plans)
    intro id listed
    obtain ⟨target, member, rfl⟩ := List.mem_map.mp listed
    obtain ⟨_, cell, _, named, planned⟩ := each target member
    exact named ▸ List.mem_map_of_mem planned
  refine ⟨evaluated, verified, ?_, ?_⟩
  · intro covered listed
    rw [replaced, List.mem_map]
    constructor
    · rintro ⟨target, member, same⟩
      obtain ⟨inside, unsettled⟩ := List.mem_filter.mp member
      have distinct : (coverage.cells.map (·.id)).Nodup := whole.ids ▸ sourceIds
      obtain rfl := List.inj_on_of_nodup_map distinct inside listed same
      simpa using unsettled
    · intro unsettled
      exact ⟨covered, List.mem_filter.mpr ⟨listed, by simp [unsettled]⟩, rfl⟩
  · intro cell
    constructor
    · intro planned
      obtain ⟨target, member, same⟩ := List.mem_map.mp
        ((recovers cell.id).mp (List.mem_map_of_mem planned))
      obtain ⟨bound, cell', inSource, named, inRecovery⟩ := each target member
      obtain rfl := List.inj_on_of_nodup_map recoveryIds inRecovery planned (named.trans same)
      exact ⟨inSource, same ▸ bound⟩
    · rintro ⟨inSource, listed⟩
      obtain ⟨target, member, same⟩ := List.mem_map.mp ((replaced cell.id).mp listed)
      obtain ⟨_, cell', inSource', named, inRecovery⟩ := each target member
      obtain rfl := List.inj_on_of_nodup_map sourceIds inSource' inSource (named.trans same)
      exact inRecovery

/-! ### The repaired coverage -/

/-- A replaced cell is read from the recovery, and every other is kept. -/
lemma repairedCell_ok {replaced : List String} {covered after : CoverageCell} :
    repairedCell replaced recovered covered = .ok after ↔
      covered.id ∉ replaced ∧ after = covered ∨ covered.id ∈ replaced ∧
        (recovered.cells.find? fun n => n.id == covered.id) = some after := by
  by_cases inside : covered.id ∈ replaced
  · have listed : replaced.contains covered.id = true := List.contains_iff_mem.mpr inside
    simp only [repairedCell, listed, if_true, require_eq_ok, inside, not_true, false_and, true_and,
      false_or]
  · have unlisted : replaced.contains covered.id = false := by simpa using inside
    simp only [repairedCell, unlisted, Bool.false_eq_true, if_false, pure_eq_ok, inside,
      not_false_eq_true, true_and, false_and, or_false]
    exact eq_comm

/-- Where a cell of the repaired experiment was measured. -/
def measuredIn (source recovery : ExperimentPlan) (originals replacements : List AttemptWithRun)
    (repair : ExperimentRepair) (cell : ExperimentCell) : ExperimentPlan × List AttemptWithRun :=
  if cell.id ∈ replacedIds repair then (recovery, replacements) else (source, originals)

/-- The attempts that a repair publishes of. -/
def keptAttempts (originals replacements : List AttemptWithRun) (repair : ExperimentRepair) :
    List AttemptWithRun :=
  (originals.filter fun a => !(replacedIds repair).contains a.evidence.cellId) ++ replacements

/-- How the Run of a repair came to be published. -/
structure Repaired (runtime : Runtime) (catalog : Catalog) (source : ExperimentPlan)
    (originals : List AttemptWithRun) (recovery : ExperimentPlan)
    (replacements : List AttemptWithRun) (repair : ExperimentRepair)
    (original recovered : CoverageReport) (cells : List CoverageCell) (partly : Bool) (run : Run) :
    Prop where
  frozen : Frozen runtime catalog source originals recovery repair original
  evaluated : evaluateExperiment runtime catalog recovery replacements = .ok recovered
  joined : original.cells.mapM (repairedCell (replacedIds repair) recovered) = .ok cells
  settled : partly = false → cells.all CoverageCell.settled = true
  rendered : Rendered runtime catalog source (keptAttempts originals replacements repair)
    (repairedCoverage source cells) partly run

theorem repaired_of_ok (separated : CellsSeparated runtime source recovery) {options : RepairOptions}
    {result : ExperimentAggregation} {run : Run}
    (h : aggregateRepairedExperiment runtime catalog source originals recovery replacements repair
      options = .ok result) (published : result.run = some run) :
    ∃ original recovered cells partly, Repaired runtime catalog source originals recovery
      replacements repair original recovered cells partly run := by
  simp only [aggregateRepairedExperiment, bind_eq_ok] at h
  obtain ⟨original, selection, h⟩ := h
  have frozen := frozen_of_ok separated selection
  simp only [replaceTargets, bind_eq_ok] at h
  obtain ⟨unstarted, _, recovered, aggregated, h⟩ := h
  split at h
  · obtain rfl := Except.ok.inj h
    cases published
  · simp only [bind_eq_ok] at h
    obtain ⟨cells, joined, h⟩ := h
    split at h
    · obtain rfl := Except.ok.inj h
      cases published
    · refine ⟨original, recovered.coverage, cells, _, frozen, coverage_of_aggregate aggregated, joined,
        ?_, rendered_of_ok h published⟩
      simp [repairedCoverage]

section
variable {cells : List CoverageCell} {partly : Bool} {run : Run}
  (repaired : Repaired runtime catalog source originals recovery replacements repair original
    recovered cells partly run)
include repaired

/-- The entries of the repaired coverage: the recovered ones of the replaced cells, and the
original ones of the others. -/
lemma mem_repaired {covered : CoverageCell} : covered ∈ cells ↔
    (covered ∈ original.cells ∧ covered.id ∉ replacedIds repair) ∨
      (covered ∈ recovered.cells ∧ covered.id ∈ replacedIds repair) := by
  have recoveredIds : (recovered.cells.map (·.id)).Nodup := by
    rw [(evaluated_of_ok repaired.evaluated).ids]
    exact (PlanAcceptance.cellRules_of_ok repaired.frozen.verified).ids
  constructor
  · intro listed
    obtain ⟨before, member, made⟩ := mem_mapM repaired.joined listed
    rcases repairedCell_ok.mp made with ⟨kept, rfl⟩ | ⟨replaced, found⟩
    · exact .inl ⟨member, kept⟩
    · have named : covered.id = before.id := by simpa using List.find?_some found
      exact .inr ⟨List.mem_of_find?_eq_some found, named ▸ replaced⟩
  · rintro (⟨listed, kept⟩ | ⟨listed, replaced⟩)
    · obtain ⟨after, member, made⟩ := mapM_mem repaired.joined listed
      rcases repairedCell_ok.mp made with ⟨_, rfl⟩ | ⟨replaced, _⟩
      · exact member
      · exact absurd replaced kept
    · have planned : covered.id ∈ recovery.cells.map (·.id) := by
        rw [← (evaluated_of_ok repaired.evaluated).ids]
        exact List.mem_map_of_mem listed
      obtain ⟨cell, inRecovery, named⟩ := List.mem_map.mp planned
      have inSource := ((repaired.frozen.planned cell).mp inRecovery).1
      have before : covered.id ∈ original.cells.map (·.id) := by
        rw [(evaluated_of_ok repaired.frozen.evaluated).ids, ← named]
        exact List.mem_map_of_mem inSource
      obtain ⟨entry, inOriginal, same⟩ := List.mem_map.mp before
      obtain ⟨after, member, made⟩ := mapM_mem repaired.joined inOriginal
      have found : (recovered.cells.find? fun n => n.id == covered.id) = some covered :=
        Keyed.find?_of_nodup recoveredIds listed
      rw [repairedCell_ok, same, found] at made
      rcases made with ⟨kept, _⟩ | ⟨_, read⟩
      · exact absurd replaced kept
      · exact Option.some.inj read ▸ member

/-- Each entry was evaluated where its cell was measured. -/
theorem covered_of_repaired :
    Covered runtime catalog source (keptAttempts originals replacements repair)
      (repairedCoverage source cells)
      (measuredIn source recovery originals replacements repair) := by
  have before := covered_of_evaluated repaired.frozen.evaluated
  have after := covered_of_evaluated repaired.evaluated
  refine ⟨before.cells, before.logical, ?_, ?_, ?_, ?_⟩
  · rw [← before.ids]
    refine map_mapM_eq repaired.joined ?_
    intro covered entry made
    rcases repairedCell_ok.mp made with ⟨_, rfl⟩ | ⟨_, found⟩
    · rfl
    · simpa using List.find?_some found
  · intro covered listed
    rcases (mem_repaired repaired).mp listed with ⟨member, kept⟩ | ⟨member, replaced⟩
    · obtain ⟨cell, planned, outcome, made, rfl⟩ := before.entries covered member
      rw [id_of_evaluateCell made] at kept
      exact ⟨cell, planned, outcome, by rw [measuredIn, if_neg kept]; exact made, rfl⟩
    · obtain ⟨cell, planned, outcome, made, rfl⟩ := after.entries covered member
      rw [id_of_evaluateCell made] at replaced
      exact ⟨cell, ((repaired.frozen.planned cell).mp planned).1, outcome,
        by rw [measuredIn, if_pos replaced]; exact made, rfl⟩
  · intro cell planned attempt inside
    rw [measuredIn] at inside
    split at inside
    · exact List.mem_append_right _ (mem_lineageOf inside)
    · rename_i kept
      obtain ⟨listed, named⟩ :=
        List.mem_filter.mp ((lineageOf_perm runtime originals cell).mem_iff.mp inside)
      refine List.mem_append_left _ (List.mem_filter.mpr ⟨listed, ?_⟩)
      rw [beq_iff_eq.mp named]
      simpa using kept
  · intro id
    simp only [repairedCoverage, List.mem_filterMap, List.mem_filter, beq_iff_eq, and_assoc]

/-- What the repaired coverage retains is what one of the two evaluations does. -/
theorem retained_of_repaired {cell : ExperimentCell} {attempt : AttemptWithRun} {shard : Run}
    {row : ProviderRun} {metricId : String} :
    RetainedFrom runtime catalog source (repairedCoverage source cells)
        (measuredIn source recovery originals replacements repair) cell attempt shard row metricId ↔
      (cell.id ∉ replacedIds repair ∧
        Retained runtime catalog source originals original cell attempt shard row metricId) ∨
      Retained runtime catalog recovery replacements recovered cell attempt shard row metricId := by
  constructor
  · rintro ⟨planned, ⟨covered, listed, same, retained⟩, retains⟩
    rcases (mem_repaired repaired).mp listed with ⟨member, kept⟩ | ⟨member, replaced⟩
    · rw [same] at kept
      rw [measuredIn, if_neg kept] at retains
      exact .inl ⟨kept, planned, ⟨covered, member, same, retained⟩, retains⟩
    · rw [same] at replaced
      rw [measuredIn, if_pos replaced] at retains
      exact .inr ⟨(repaired.frozen.planned cell).mpr ⟨planned, replaced⟩,
        ⟨covered, member, same, retained⟩, retains⟩
  · rintro (⟨kept, planned, ⟨covered, member, same, retained⟩, retains⟩ |
      ⟨planned, ⟨covered, member, same, retained⟩, retains⟩)
    · refine ⟨planned, ⟨covered, (mem_repaired repaired).mpr (.inl ⟨member, ?_⟩), same, retained⟩, ?_⟩
      · rwa [same]
      · rw [measuredIn, if_neg kept]
        exact retains
    · obtain ⟨inSource, replaced⟩ := (repaired.frozen.planned cell).mp planned
      refine ⟨inSource, ⟨covered, (mem_repaired repaired).mpr (.inr ⟨member, ?_⟩), same, retained⟩, ?_⟩
      · rwa [same]
      · rw [measuredIn, if_pos replaced]
        exact retains

end

/-- A published repair holds, for the cells it replaces, what the recovery retained of them, and for
every other cell what the original experiment retained. -/
theorem aggregateRepairedExperiment_samples (separated : CellsSeparated runtime source recovery)
    (ids : ((originals ++ replacements).map (·.evidence.id)).Nodup)
    (once : ListsOnce (originals ++ replacements)) (apart : SuitesApart source)
    {options : RepairOptions} {result : ExperimentAggregation} {run : Run}
    (h : aggregateRepairedExperiment runtime catalog source originals recovery replacements repair
      options = .ok result) (published : result.run = some run) :
    ∃ original recovered, evaluateExperiment runtime catalog source originals = .ok original ∧
      evaluateExperiment runtime catalog recovery replacements = .ok recovered ∧
      (∀ covered ∈ original.cells, covered.id ∈ replacedIds repair ↔ covered.settled = false) ∧
      ∀ providerId metricId samples, Publishes catalog run providerId metricId samples ↔
        (∃ cell attempt shard row metric, cell.id ∉ replacedIds repair ∧
          HeldSamples catalog (Retained runtime catalog source originals original) providerId metricId
            samples cell attempt shard row metric) ∨
        ∃ cell attempt shard row metric,
          HeldSamples catalog (Retained runtime catalog recovery replacements recovered) providerId
            metricId samples cell attempt shard row metric := by
  obtain ⟨original, recovered, cells, partly, repaired⟩ := repaired_of_ok separated h published
  refine ⟨original, recovered, repaired.frozen.evaluated, repaired.evaluated,
    repaired.frozen.unsettled, ?_⟩
  intro providerId metricId samples
  have part : (keptAttempts originals replacements repair).Sublist (originals ++ replacements) :=
    List.filter_sublist.append_right _
  have accepted : ∀ attempt ∈ keptAttempts originals replacements repair, ∀ run,
      attempt.run = some run → AcceptedRun catalog run := by
    intro attempt listed run brought
    rcases List.mem_append.mp (part.subset listed) with old | new
    · exact accepted_of_evaluated repaired.frozen.evaluated old brought
    · exact accepted_of_evaluated repaired.evaluated new brought
  have selects := (covered_of_repaired repaired).selects repaired.settled (ids.sublist (part.map _))
    accepted
  rw [selects.publishes repaired.rendered (fun attempt listed => once attempt (part.subset listed))
    apart]
  constructor
  · rintro ⟨cell, attempt, shard, row, metric, kept⟩
    rcases (retained_of_repaired repaired).mp kept.held with ⟨unreplaced, held⟩ | held
    · exact .inl ⟨cell, attempt, shard, row, metric, unreplaced, kept.held_by held⟩
    · exact .inr ⟨cell, attempt, shard, row, metric, kept.held_by held⟩
  · rintro (⟨cell, attempt, shard, row, metric, unreplaced, kept⟩ |
      ⟨cell, attempt, shard, row, metric, kept⟩)
    · have held := (retained_of_repaired repaired).mpr (.inl ⟨unreplaced, kept.held⟩)
      exact ⟨cell, attempt, shard, row, metric, kept.held_by held⟩
    · have held := (retained_of_repaired repaired).mpr (.inr kept.held)
      exact ⟨cell, attempt, shard, row, metric, kept.held_by held⟩

end RepairExperiment
