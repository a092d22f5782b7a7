import SandboxBenchmarks.ExperimentLineages

/-!
# The order of the attempts

Attempts are read from artifacts in whatever order these were downloaded. Every pass
over them sorts first, or asks about them as a set.
-/

namespace PublishExperiment

open Aggregate CanonicalJson Checks EvaluateExperiment ExperimentRecords PlanVerification RunModel

variable {runtime : Runtime} {catalog : Catalog} {plan : ExperimentPlan}
  {attempts attempts' : List AttemptWithRun} {report : CoverageReport}

/-- The collation of the runtime separates identifiers. -/
def SeparatesIdentifiers (runtime : Runtime) : Prop :=
  ∀ a b, evidenceIdentifier a = true → evidenceIdentifier b = true →
    runtime.localeCompare a b = .eq → a = b

/-- Attempts that the evaluation has accepted one by one. -/
structure WellFormed (attempts : List AttemptWithRun) : Prop where
  ids : (attempts.map (·.evidence.id)).Nodup
  named : ∀ attempt ∈ attempts, evidenceIdentifier attempt.evidence.id = true ∧
    evidenceIdentifier attempt.evidence.cellId = true

theorem WellFormed.eq_of_id (formed : WellFormed attempts) {a b : AttemptWithRun}
    (ha : a ∈ attempts) (hb : b ∈ attempts) (same : a.evidence.id = b.evidence.id) : a = b :=
  List.inj_on_of_nodup_map formed.ids ha hb same

theorem wellFormed_of_ok (ids : (attempts.map (·.evidence.id)).Nodup)
    (h : evaluateExperiment runtime catalog plan attempts = .ok report) : WellFormed attempts := by
  simp only [evaluateExperiment, bind_eq_ok] at h
  obtain ⟨accepted, _, seen, checked, _⟩ := h
  refine ⟨ids, fun attempt listed => ?_⟩
  have sorted : attempt ∈ byLocale runtime (·.evidence.id) attempts :=
    (List.perm_insertionSort _ _).mem_iff.mpr listed
  obtain ⟨before, after, step⟩ := foldlM_each checked sorted
  simp only [checkAttempt, bind_eq_ok, throwIf_eq_ok, Bool.not_eq_false] at step
  obtain ⟨_, schema, _⟩ := step
  simp only [experimentAttemptSchema, Bool.and_eq_true] at schema
  tauto

/-! ### Evaluation -/

theorem byLocale_ids (separates : SeparatesIdentifiers runtime) (formed : WellFormed attempts)
    (perm : attempts.Perm attempts') :
    byLocale runtime (·.evidence.id) attempts = byLocale runtime (·.evidence.id) attempts' := by
  have := runtime.collation
  refine Sorting.sort_eq_of_perm perm ?_
  intro a ha b hb tied
  exact formed.eq_of_id ha hb
    (separates _ _ (formed.named a ha).1 (formed.named b hb).1 tied)

theorem lineageOf_order (separates : SeparatesIdentifiers runtime) (formed : WellFormed attempts)
    (perm : attempts.Perm attempts') (cell : ExperimentCell) :
    lineageOf runtime attempts cell = lineageOf runtime attempts' cell := by
  have oriented := runtime.collation.toOrientedCmp
  rw [lineageOf_eq_sort, lineageOf_eq_sort]
  refine Sorting.insertionSort_eq_of_perm (perm.filter _) ?_
  intro a ha b hb ab ba
  have ha := (List.mem_filter.mp ha).1
  have hb := (List.mem_filter.mp hb).1
  have tied : runtime.localeCompare a.evidence.id b.evidence.id = .eq := by
    rcases ab with less | ⟨same, ab⟩
    · rcases ba with more | ⟨other, _⟩
      · omega
      · omega
    · rcases ba with more | ⟨_, ba⟩
      · omega
      · exact @Sorting.eq_of_upTo _ _ _ _ (fun id : String => id) _ _ ab ba
  exact formed.eq_of_id ha hb
    (separates _ _ (formed.named a ha).1 (formed.named b hb).1 tied)

theorem evaluateExperiment_order (separates : SeparatesIdentifiers runtime)
    (ids : (attempts.map (·.evidence.id)).Nodup) (perm : attempts.Perm attempts')
    (h : evaluateExperiment runtime catalog plan attempts = .ok report) :
    evaluateExperiment runtime catalog plan attempts' = .ok report := by
  have formed := wellFormed_of_ok ids h
  have same : ∀ accepted : ExperimentPlan, evaluateCell runtime catalog accepted attempts =
      evaluateCell runtime catalog accepted attempts' := by
    intro accepted
    funext cell
    simp only [evaluateCell, lineageOf_order separates formed perm cell]
  unfold evaluateExperiment at h ⊢
  simpa only [byLocale_ids separates formed perm, same] using h

/-! ### Selection -/

theorem last_of_evaluateCell {cell : ExperimentCell} {outcome : CellOutcome} {id : String}
    (h : evaluateCell runtime catalog plan attempts cell = .ok outcome)
    (picked : outcome.cell.attemptId = some id ∨ outcome.selected = some id) :
    ∃ attempt, (lineageOf runtime attempts cell).getLast? = some attempt ∧
      attempt.evidence.id = id := by
  simp only [evaluateCell] at h
  split at h
  · obtain rfl := Except.ok.inj h
    rcases picked with kept | kept
    · cases kept
    · cases kept
  · simp only [evaluateEligible, bind_eq_ok, pure_eq_ok] at h
    obtain ⟨_, _, _, _, _, _, rfl⟩ := h
    rcases picked with kept | kept
    · exact Option.map_eq_some_iff.mp kept
    · simp only [ite_eq_iff, reduceCtorEq, and_false, or_false] at kept
      exact Option.map_eq_some_iff.mp kept.2

/-- A selected attempt is the last of its cell. -/
theorem last_of_selected (ids : (attempts.map (·.evidence.id)).Nodup) {partly : Bool}
    (h : evaluateExperiment runtime catalog plan attempts = .ok report) {attempt : AttemptWithRun}
    (listed : attempt ∈ attempts) (selected : attempt.evidence.id ∈ selectedIds report partly) :
    ∃ cell ∈ plan.cells, attempt.evidence.cellId = cell.id ∧
      (lineageOf runtime attempts cell).getLast? = some attempt := by
  have formed := wellFormed_of_ok ids h
  simp only [evaluateExperiment, bind_eq_ok, pure_eq_ok] at h
  obtain ⟨accepted, verified, seen, checked, outcomes, evaluated, rfl⟩ := h
  obtain rfl := (PlanSchedule.verified_of_ok verified).1
  have picked : ∃ outcome ∈ outcomes, outcome.cell.attemptId = some attempt.evidence.id ∨
      outcome.selected = some attempt.evidence.id := by
    simp only [selectedIds] at selected
    split at selected
    · rw [List.filterMap_map] at selected
      obtain ⟨outcome, member, picked⟩ := List.mem_filterMap.mp selected
      exact ⟨outcome, member, .inl picked⟩
    · obtain ⟨outcome, member, picked⟩ := List.mem_filterMap.mp selected
      exact ⟨outcome, member, .inr picked⟩
  obtain ⟨outcome, member, picked⟩ := picked
  obtain ⟨cell, planned, returns⟩ := mem_mapM evaluated member
  obtain ⟨last, isLast, same⟩ := last_of_evaluateCell returns picked
  have inside := List.mem_filter.mp ((lineageOf_perm runtime attempts cell).mem_iff.mp
    (List.mem_of_getLast? isLast))
  obtain rfl := formed.eq_of_id inside.1 listed same
  exact ⟨cell, planned, beq_iff_eq.mp inside.2, isLast⟩

theorem lineageOf_id {cell cell' : ExperimentCell} (same : cell.id = cell'.id) :
    lineageOf runtime attempts cell = lineageOf runtime attempts cell' := by
  unfold lineageOf
  rw [same]

/-- One attempt of each cell is selected, so sorting these by cell leaves no tie. -/
theorem selectedAttempts_order (separates : SeparatesIdentifiers runtime)
    (ids : (attempts.map (·.evidence.id)).Nodup) (perm : attempts.Perm attempts')
    (h : evaluateExperiment runtime catalog plan attempts = .ok report) (partly : Bool) :
    selectedAttempts runtime attempts report partly =
      selectedAttempts runtime attempts' report partly := by
  have := runtime.collation
  have formed := wellFormed_of_ok ids h
  refine Sorting.sort_eq_of_perm (perm.filter _) ?_
  intro a ha b hb tied
  obtain ⟨listed, selected⟩ := List.mem_filter.mp ha
  obtain ⟨listed', selected'⟩ := List.mem_filter.mp hb
  obtain ⟨cell, _, named, last⟩ := last_of_selected ids h listed (List.contains_iff_mem.mp selected)
  obtain ⟨cell', _, named', last'⟩ :=
    last_of_selected ids h listed' (List.contains_iff_mem.mp selected')
  have sameCell := separates _ _ (formed.named a listed).2 (formed.named b listed').2 tied
  rw [lineageOf_id (named.symm.trans (sameCell.trans named')), last'] at last
  exact (Option.some.inj last).symm

theorem renderExperiment_order (separates : SeparatesIdentifiers runtime)
    (ids : (attempts.map (·.evidence.id)).Nodup) (perm : attempts.Perm attempts')
    (h : evaluateExperiment runtime catalog plan attempts = .ok report) (partly : Bool)
    (repair : Option ExperimentRepair) (unstarted : List UnstartedBatch) :
    renderExperiment runtime catalog plan attempts report partly repair unstarted =
      renderExperiment runtime catalog plan attempts' report partly repair unstarted := by
  simp only [renderExperiment, selectedAttempts_order separates ids perm h partly]

/-! ### Publication -/

theorem unanchored_order (perm : attempts.Perm attempts') (attempt : AttemptWithRun) :
    unanchored plan attempts attempt = unanchored plan attempts' attempt := by
  have same : ∀ anchor, attempts.any (anchors plan anchor) = attempts'.any (anchors plan anchor) := by
    intro anchor
    rw [Bool.eq_iff_iff, List.any_eq_true, List.any_eq_true]
    simp only [perm.mem_iff]
  unfold unanchored
  simp only [same]

theorem checkRecovery_order (perm : attempts.Perm attempts')
    (h : forM attempts (checkRecovery runtime catalog plan attempts) = .ok ()) :
    forM attempts' (checkRecovery runtime catalog plan attempts') = .ok () := by
  rw [forM_eq_ok] at h ⊢
  intro attempt listed
  have here := h attempt (perm.mem_iff.mpr listed)
  simp only [checkRecovery, unanchored_order perm] at here ⊢
  exact here

theorem blockers_order (perm : attempts.Perm attempts') (unstarted : List String) :
    (partialPublicationBlockers report attempts unstarted).Perm
      (partialPublicationBlockers report attempts' unstarted) := by
  unfold partialPublicationBlockers
  exact ((perm.flatMap_right _).append_left _).append_right _

/-- Whatever the order of the attempts, the same evaluation, the same selection and the same Run. -/
theorem aggregateExperiment_order (separates : SeparatesIdentifiers runtime)
    (ids : (attempts.map (·.evidence.id)).Nodup) (perm : attempts.Perm attempts')
    {allowPartial : Bool} {result : ExperimentAggregation}
    (h : aggregateExperiment runtime catalog plan attempts allowPartial = .ok result) :
    evaluateExperiment runtime catalog plan attempts' = .ok result.coverage ∧
      ∃ result', aggregateExperiment runtime catalog plan attempts' allowPartial = .ok result' ∧
        result'.coverage = result.coverage ∧ result'.run = result.run ∧
        (result'.publicationBlockers.getD []).Perm (result.publicationBlockers.getD []) := by
  have covered := RepairExperiment.coverage_of_aggregate h
  have covered' := evaluateExperiment_order separates ids perm covered
  refine ⟨covered', ?_⟩
  simp only [aggregateExperiment, bind_eq_ok] at h
  obtain ⟨coverage, evaluated, _, recovered, h⟩ := h
  have evaluated' := evaluateExperiment_order separates ids perm evaluated
  have recovered' := checkRecovery_order perm recovered
  have blockers : (partialPublicationBlockers coverage attempts []).Perm
      (partialPublicationBlockers coverage attempts' []) := blockers_order perm []
  have empty : partialPublicationBlockers coverage attempts [] = [] ↔
      partialPublicationBlockers coverage attempts' [] = [] := by
    rw [← List.length_eq_zero_iff, ← List.length_eq_zero_iff, blockers.length_eq]
  simp only [aggregateExperiment, evaluated', recovered', ok_bind]
  split at h
  · rename_i refused
    obtain rfl := Except.ok.inj h
    rw [ne_eq, empty] at refused
    rw [if_pos refused]
    refine ⟨_, rfl, rfl, rfl, ?_⟩
    by_cases clean : partialPublicationBlockers coverage attempts [] = []
    · rw [clean, empty.mp clean]
    · have some := mt List.isEmpty_iff.mp clean
      have some' := mt List.isEmpty_iff.mp (mt empty.mpr clean)
      rw [if_neg some, if_neg some']
      exact blockers.symm
  · rename_i published
    rw [ne_eq, empty] at published
    rw [if_neg published, ← renderExperiment_order separates ids perm evaluated]
    exact ⟨result, h, rfl, rfl, List.Perm.refl _⟩

lemma naming_separates : SeparatesIdentifiers naming := by
  intro a b _ _ tied
  exact CodeUnits.units_injective (Std.LawfulEqOrd.eq_of_compare tied)

/-- The shard of the retry is published as it is. -/
lemma measured_result : ∃ result run,
    aggregateExperiment naming measuredCatalog measuredPlan measuredAttempts false = .ok result ∧
      result.run = some run ∧
      run.providers.map (fun row => (row.providerId, row.metrics)) = [("e2b", measuredRow.metrics)] := by
  have returns : ((aggregateExperiment naming measuredCatalog measuredPlan measuredAttempts
      false).toOption.bind (·.run)).map (fun run => run.providers.map fun row =>
        (row.providerId, row.metrics)) = some [("e2b", measuredRow.metrics)] := by
    simp only [aggregateExperiment, evaluateExperiment, measuredPlan_accepted, ok_bind]
    decide +kernel
  obtain ⟨run, published, contents⟩ := Option.map_eq_some_iff.mp returns
  obtain ⟨result, aggregated, published⟩ := Option.bind_eq_some_iff.mp published
  exact ⟨result, run, toOption_eq_some.mp aggregated, published, contents⟩

/-- The retry read before the failure it follows. -/
theorem aggregateExperiment_order_sample : ∃ result result',
    aggregateExperiment naming measuredCatalog measuredPlan measuredAttempts false = .ok result ∧
      aggregateExperiment naming measuredCatalog measuredPlan measuredAttempts.reverse false =
        .ok result' ∧ result'.run = result.run := by
  obtain ⟨result, _, aggregated, _⟩ := measured_result
  obtain ⟨_, result', aggregated', _, same, _⟩ := aggregateExperiment_order naming_separates
    (by decide) (List.reverse_perm measuredAttempts).symm aggregated
  exact ⟨result, result', aggregated, aggregated', same⟩

end PublishExperiment
