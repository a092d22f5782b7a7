import SandboxBenchmarks.CanonicalJsonBytes
import SandboxBenchmarks.PlanExperimentReturns

/-!
# What an accepted plan says of its cells

The cells of an accepted plan obey the rules for cells, each eligible one alone
fits the account it is charged to, and the rules hold for any part of them.
-/

namespace PlanAcceptance

open CanonicalJson Checks JsonText PlanVerification PlanSchedule

variable {runtime : Runtime} {registry : Registry} {plan plan' : ExperimentPlan}

/-! ### Targets and quota domains -/

lemma target_of_checkTargets {domains : List (String × String)}
    (h : checkTargets runtime registry plan = .ok domains) :
    ∃ digest, ∀ cell ∈ plan.cells, evidenceDigest runtime cell.target.toJson = .ok digest := by
  unfold checkTargets at h
  split at h
  · rename_i empty
    exact ⟨"", by simp [empty]⟩
  · rename_i first rest split
    have each : ∀ cell ∈ plan.cells, ∃ digest, evidenceDigest runtime cell.target.toJson = .ok digest ∧
        evidenceDigest runtime first.target.toJson = .ok digest := by
      intro cell member
      obtain ⟨before, after, step⟩ := foldlM_each h member
      simp only [checkTarget, bind_eq_ok, throwIf_eq_ok, not_not] at step
      obtain ⟨digest, here, expected, first_here, _, rfl, _⟩ := step
      exact ⟨digest, here, first_here⟩
    obtain ⟨digest, _, expected⟩ := each first (by simp [split])
    refine ⟨digest, fun cell member => ?_⟩
    obtain ⟨digest', here, expected'⟩ := each cell member
    rw [here, ← expected', expected]

lemma domains_of_checkTargets {domains : List (String × String)}
    (h : checkTargets runtime registry plan = .ok domains) :
    ∀ c ∈ plan.cells, ∃ vendor, registry.vendor c.provider = some vendor ∧
      Keyed.get? domains vendor = some c.quotaDomain := by
  unfold checkTargets at h
  split at h
  · rename_i empty
    simp [empty]
  · refine foldlM_invariant (fun passed seen => ∀ c ∈ passed, ∃ vendor,
      registry.vendor c.provider = some vendor ∧ Keyed.get? seen vendor = some c.quotaDomain)
      (by simp) ?_ h
    intro pre cell post seen seen' _ inv step
    simp only [checkTarget, bind_eq_ok, throwIf_eq_ok, require_eq_ok, pure_eq_ok] at step
    obtain ⟨_, _, _, _, _, _, vendor, vendor_of, _, agrees, rfl⟩ := step
    intro c hc
    rcases List.mem_append.mp hc with earlier | last
    · obtain ⟨vendor', vendor_of', found⟩ := inv c earlier
      refine ⟨vendor', vendor_of', ?_⟩
      rw [Keyed.get?_set]
      split
      · -- the vendor has been seen, so its domain is this cell's
        rename_i same
        subst same
        have has : Keyed.has seen vendor = true := Keyed.has_iff.mpr (Keyed.mem_keys_of_get? found)
        have kept : Keyed.get? seen vendor = some cell.quotaDomain := by
          by_contra other
          exact agrees ⟨has, other⟩
        exact kept.symm.trans found
      · exact found
    · rw [List.mem_singleton.mp last]
      exact ⟨vendor, vendor_of, by simp⟩

/-! ### Cohorts and exclusions -/

lemma cohorts_of_checkCohorts {cohorts : List (String × String)}
    (h : plan.cells.foldlM (checkCohort runtime plan) [] = .ok cohorts) :
    ∀ c ∈ plan.cells, ∃ digest, evidenceDigest runtime (c.eligibility runtime) = .ok digest ∧
      Keyed.get? cohorts c.suite = some digest := by
  refine foldlM_invariant (fun passed seen => ∀ c ∈ passed, ∃ digest,
    evidenceDigest runtime (c.eligibility runtime) = .ok digest ∧
      Keyed.get? seen c.suite = some digest) (by simp) ?_ h
  intro pre cell post seen seen' _ inv step
  simp only [checkCohort, bind_eq_ok, throwIf_eq_ok, pure_eq_ok] at step
  obtain ⟨digest, here, _, agrees, _, _, _, _, rfl⟩ := step
  intro c hc
  rcases List.mem_append.mp hc with earlier | last
  · obtain ⟨digest', here', found⟩ := inv c earlier
    refine ⟨digest', here', ?_⟩
    rw [Keyed.get?_set]
    split
    · rename_i same
      rw [← same] at found
      have has : Keyed.has seen cell.suite = true := Keyed.has_iff.mpr (Keyed.mem_keys_of_get? found)
      have kept : Keyed.get? seen cell.suite = some digest := by
        by_contra other
        exact agrees ⟨has, other⟩
      exact kept.symm.trans found
    · exact found
  · rw [List.mem_singleton.mp last]
    exact ⟨digest, here, by simp⟩

/-- What one accepted exclusion satisfies. -/
def LiveExclusion (cell : ExperimentCell) (createdOn : String) (exclusion : ExperimentExclusion) : Prop :=
  validDate exclusion.expires = true ∧ exclusion.workloadRevision = cell.workloadRevision ∧
    exclusion.metricId ∈ cell.metrics ∧ CodeUnits.le exclusion.expires createdOn = false

lemma exclusions_of_checkExclusions {cell : ExperimentCell} {excluded : List String}
    (h : cell.exclusions.foldlM (checkExclusion plan cell) [] = .ok excluded) :
    (cell.exclusions.map (·.metricId)).Nodup ∧
      ∀ exclusion ∈ cell.exclusions, LiveExclusion cell plan.createdOn exclusion := by
  have all : excluded = cell.exclusions.map (·.metricId) ∧
      (cell.exclusions.map (·.metricId)).Nodup ∧
      ∀ exclusion ∈ cell.exclusions, LiveExclusion cell plan.createdOn exclusion := by
    refine foldlM_invariant (fun passed seen => seen = passed.map (·.metricId) ∧
      (passed.map (·.metricId)).Nodup ∧
      ∀ exclusion ∈ passed, LiveExclusion cell plan.createdOn exclusion) (by simp) ?_ h
    rintro pre exclusion post seen seen' _ ⟨rfl, distinct, live⟩ step
    simp only [checkExclusion, bind_eq_ok, throwIf_eq_ok, pure_eq_ok, not_or, not_not] at step
    obtain ⟨_, ⟨date, workload, metric, expires, fresh⟩, rfl⟩ := step
    refine ⟨by simp [add_fresh fresh], ?_, ?_⟩
    · rw [List.map_append, List.map_singleton, ← add_fresh fresh]
      exact Keyed.nodup_add distinct _
    · intro e he
      rcases List.mem_append.mp he with earlier | last
      · exact live e earlier
      · rw [List.mem_singleton.mp last]
        exact ⟨by simpa using date, workload, metric, by simpa using expires⟩
  exact all.2

/-! ### The rules of an accepted plan -/

lemma values_of_mapOf {cells : List ExperimentCell} (ids : (cells.map (·.id)).Nodup) :
    (Keyed.mapOf (cells.map (fun cell => (cell.id, cell)))).map Prod.snd = cells := by
  have distinct : ((cells.map (fun cell => (cell.id, cell))).map Prod.fst).Nodup := by
    rw [List.map_map]
    exact ids
  rw [Keyed.mapOf_of_nodup distinct, List.map_map]
  exact List.map_id _

lemma cellRules_of_ok (h : verifyExperimentPlan runtime registry plan = .ok plan') :
    CellRules runtime registry plan.createdOn plan.cells := by
  simp only [verifyExperimentPlan, bind_eq_ok, throwIf_eq_ok, pure_eq_ok, not_not] at h
  obtain ⟨_, schema, _, _, _, _, _, date, domains, targets, _, cells, _, logical, _, eligible, _, _,
    _, _, _, _, _, _, _, _, cohorts, consistent, _⟩ := h
  have ids := keys_nodup cells
  rw [values_of_mapOf ids] at consistent
  have checked : ∀ cell ∈ plan.cells, cell.metrics.Nodup ∧ (cell.exclusions.map (·.metricId)).Nodup ∧
      ∀ exclusion ∈ cell.exclusions, LiveExclusion cell plan.createdOn exclusion := by
    intro cell member
    obtain ⟨before, after, step⟩ := foldlM_each consistent member
    simp only [checkCohort, bind_eq_ok, throwIf_eq_ok, not_not] at step
    obtain ⟨_, _, _, _, _, distinct, excluded, exclusions, _⟩ := step
    exact ⟨Keyed.length_setOf_eq_iff.mp distinct, exclusions_of_checkExclusions exclusions⟩
  refine
    { schema := ?_
      ids := ids
      logical := ?_
      target := target_of_checkTargets targets
      domains := ?_
      cohorts := ⟨fun suite => (Keyed.get? cohorts suite).getD "", fun cell member => ?_⟩
      metrics := fun cell member => (checked cell member).1
      exclusions := fun cell member => (checked cell member).2
      date := by simpa using date
      eligible := ?_ }
  · simp only [Bool.not_eq_false, experimentPlanSchema, Bool.and_eq_true, List.all_eq_true] at schema
    exact schema.1.1.1.1.2
  · rw [cells, ← List.length_map (f := logicalReplicate)] at logical
    exact Keyed.length_setOf_eq_iff.mp logical
  · intro c hc d hd same
    obtain ⟨vendor, vendor_c, domain_c⟩ := domains_of_checkTargets targets c hc
    obtain ⟨vendor', vendor_d, domain_d⟩ := domains_of_checkTargets targets d hd
    rw [vendor_c, vendor_d] at same
    cases same
    rw [domain_c] at domain_d
    exact Option.some.inj domain_d
  · obtain ⟨digest, here, found⟩ := cohorts_of_checkCohorts consistent cell member
    show _ = Except.ok ((Keyed.get? cohorts cell.suite).getD "")
    rw [here, found]
    rfl
  · obtain ⟨cell, member⟩ := List.exists_mem_of_length_pos (Nat.pos_of_ne_zero eligible)
    obtain ⟨hc, ok⟩ := List.mem_filter.mp member
    exact ⟨cell, hc, ok⟩

/-! ### A part of the cells -/

/-- The rules hold for any of the cells at any date that leaves their exclusions alive. -/
lemma CellRules.restrict {createdOn date : String} {cells some : List ExperimentCell}
    (rules : CellRules runtime registry createdOn cells) (part : some.Sublist cells)
    (valid : validDate date = true)
    (live : ∀ cell ∈ some, ∀ exclusion ∈ cell.exclusions, CodeUnits.le exclusion.expires date = false)
    (eligible : ∃ cell ∈ some, cell.eligible = true) :
    CellRules runtime registry date some := by
  obtain ⟨target, targets⟩ := rules.target
  obtain ⟨cohort, cohorts⟩ := rules.cohorts
  refine
    { schema := fun cell member => rules.schema cell (part.subset member)
      ids := rules.ids.sublist (part.map _)
      logical := rules.logical.sublist (part.map _)
      target := ⟨target, fun cell member => targets cell (part.subset member)⟩
      domains := fun c hc d hd => rules.domains c (part.subset hc) d (part.subset hd)
      cohorts := ⟨cohort, fun cell member => cohorts cell (part.subset member)⟩
      metrics := fun cell member => rules.metrics cell (part.subset member)
      exclusions := ?_
      date := valid
      eligible := eligible }
  intro cell member
  obtain ⟨distinct, each⟩ := rules.exclusions cell (part.subset member)
  refine ⟨distinct, fun exclusion listed => ?_⟩
  obtain ⟨expires, workload, metric, _⟩ := each exclusion listed
  exact ⟨expires, workload, metric, live cell member exclusion listed⟩

/-! ### Cells and accounts -/

/-- The hash keeps the target records of the cells apart. -/
def TargetsApart (runtime : Runtime) (cells : List ExperimentCell) : Prop :=
  ∀ c ∈ cells, ∀ d ∈ cells, ∀ json json',
    canonicalJsonString runtime.toJsonRuntime evidenceLimits c.target.toJson = .ok json →
    canonicalJsonString runtime.toJsonRuntime evidenceLimits d.target.toJson = .ok json' →
    runtime.sha256 json = runtime.sha256 json' → json = json'

lemma one_target (apart : TargetsApart runtime plan.cells)
    (rules : CellRules runtime registry plan.createdOn plan.cells) {c d : ExperimentCell}
    (hc : c ∈ plan.cells) (hd : d ∈ plan.cells) : c.target = d.target := by
  obtain ⟨digest, same⟩ := rules.target
  exact target_eq_of_sortKeys (evidenceDigest_determines (apart c hc d hd) (same c hc) (same d hd))

/-- What an accepted plan says of an eligible cell and the account that it is charged to. -/
structure Charged (plan : ExperimentPlan) (cell : ExperimentCell) (account : ExperimentAccount) :
    Prop where
  listed : account ∈ plan.accounts
  domain : account.quotaDomain = cell.quotaDomain
  schema : experimentAccountSchema account = true
  wave : ∃ wave, benchmarkWave cell.suite = .ok wave
  vcpus : ∀ limit, account.vcpus = some limit → cell.target.vcpus ≤ limit
  memoryGb : ∀ limit, account.memoryGb = some limit → cell.target.memoryGb ≤ limit
  minutes : cell.startupMinutes + cell.workloadMinutes + cell.finishMinutes + 15 ≤
    benchJobCeilingMinutes

/-- One of many that fit at once fits. -/
lemma fits_of_exceeds {demand : ℚ} {limit : Option ℚ} {count : ℕ} (positive : 0 < demand)
    (one : 1 ≤ count) (fits : exceeds (demand * count) limit = false) :
    ∀ bound, limit = some bound → demand ≤ bound := by
  rintro bound rfl
  simp only [exceeds, Option.any_some, decide_eq_false_iff_not, not_lt] at fits
  have several : demand * 1 ≤ demand * count :=
    mul_le_mul_of_nonneg_left (by exact_mod_cast one) positive.le
  linarith

/-- The longest member fits in the minutes of its batch. -/
lemma minutes_of_window {lengths : List ℚ} {minutes bound : ℚ} {members concurrency : ℕ}
    (member : minutes ∈ lengths) (some : 1 ≤ members) (one : 1 ≤ concurrency)
    (fits : ⌈(members : ℚ) / concurrency⌉ * lengths.foldl max 0 ≤ bound) : minutes ≤ bound := by
  have longest := PlanExperiment.foldl_max_le.mp (le_refl (lengths.foldl max 0))
  have windows : 1 ≤ ⌈(members : ℚ) / concurrency⌉ :=
    Int.one_le_ceil_iff.mpr (div_pos (by exact_mod_cast some) (by exact_mod_cast one))
  calc minutes ≤ lengths.foldl max 0 := longest.2 minutes member
    _ = 1 * lengths.foldl max 0 := (one_mul _).symm
    _ ≤ ⌈(members : ℚ) / concurrency⌉ * lengths.foldl max 0 :=
      mul_le_mul_of_nonneg_right (by exact_mod_cast windows) longest.1
    _ ≤ bound := fits

/-- Members of one target, admitted together, fit one by one. -/
lemma fits_of_overBudget {account : ExperimentAccount} {batch : ExperimentBatch}
    {members : List ExperimentCell} {cell : ExperimentCell} (member : cell ∈ members)
    (same : ∀ c ∈ members, c.target = cell.target)
    (positive : 0 < cell.target.vcpus ∧ 0 < cell.target.memoryGb) (one : 1 ≤ batch.maxConcurrency)
    (budget : overBudget account batch members = false) :
    (∀ limit, account.vcpus = some limit → cell.target.vcpus ≤ limit) ∧
      (∀ limit, account.memoryGb = some limit → cell.target.memoryGb ≤ limit) ∧
      cell.startupMinutes + cell.workloadMinutes + cell.finishMinutes + 15 ≤ batch.budgetMinutes := by
  simp only [overBudget] at budget
  split at budget
  · cases budget
  · rename_i sample head
    rw [same sample (List.mem_of_head? head)] at budget
    simp only [Bool.or_eq_false_iff, decide_eq_false_iff_not, not_lt, gt_iff_lt] at budget
    obtain ⟨⟨⟨_, vcpus⟩, memoryGb⟩, minutes⟩ := budget
    have listed : cell.startupMinutes + cell.workloadMinutes + cell.finishMinutes + 15 ∈
        members.map fun cell : ExperimentCell =>
          cell.startupMinutes + cell.workloadMinutes + cell.finishMinutes + 15 :=
      List.mem_map.mpr ⟨cell, member, rfl⟩
    exact ⟨fits_of_exceeds positive.1 one vcpus, fits_of_exceeds positive.2 one memoryGb,
      minutes_of_window listed (List.length_pos_of_mem member) one minutes⟩

theorem charged_of_ok (apart : TargetsApart runtime plan.cells)
    (h : verifyExperimentPlan runtime registry plan = .ok plan') {cell : ExperimentCell}
    (member : cell ∈ plan.cells) (eligible : cell.eligible = true) :
    ∃ account, Charged plan cell account := by
  have rules := cellRules_of_ok h
  have verified := (verified_of_ok h).2
  have schema := verified.schema
  simp only [experimentPlanSchema, Bool.and_eq_true, List.all_eq_true] at schema
  -- The batch that the cell is assigned to.
  have assigned : cell.id ∈ plan.batches.flatMap (·.cells) := by
    have once := verified.assigned_once member eligible
    exact List.count_pos_iff.mp (by omega)
  obtain ⟨batch, planned, named⟩ := List.mem_flatMap.mp assigned
  obtain ⟨assignedTo, inBatch, sameId, _, sameDomain⟩ :=
    verified.members_planned planned cell.id named
  obtain rfl : assignedTo = cell := List.inj_on_of_nodup_map rules.ids inBatch member sameId
  have batchSchema := schema.1.1.2 batch planned
  simp only [experimentBatchSchema, Bool.and_eq_true, decide_eq_true_eq] at batchSchema
  simp only [verifyExperimentPlan, bind_eq_ok] at h
  obtain ⟨_, _, _, _, _, _, _, _, _, _, _, _, _, _, _, _, _, _, scan, scanned, _⟩ := h
  obtain ⟨before, after, step⟩ := foldlM_each scanned planned
  simp only [checkBatch, bind_eq_ok, require_eq_ok, throwIf_eq_ok, not_or, not_lt] at step
  obtain ⟨account, found, _, ⟨_, _, ceiling⟩, _, _, _, _, waves, known, _, _, _, _, _, budget, _⟩ := step
  obtain ⟨listed, domain⟩ := verified.get_account.mp found
  have here : assignedTo ∈ batch.cells.filterMap (Keyed.get?
      (Keyed.mapOf (plan.cells.map (fun cell => (cell.id, cell))))) :=
    List.mem_filterMap.mpr ⟨_, named, verified.get_cell.mpr ⟨member, rfl⟩⟩
  obtain ⟨wave, _, waveOf⟩ := mapM_ok known assignedTo here
  have same : ∀ c ∈ batch.cells.filterMap (Keyed.get?
      (Keyed.mapOf (plan.cells.map (fun cell => (cell.id, cell))))), c.target = assignedTo.target := by
    intro c assigned
    obtain ⟨_, _, found⟩ := List.mem_filterMap.mp assigned
    exact one_target apart rules (verified.get_cell.mp found).1 member
  obtain ⟨vcpus, memoryGb, minutes⟩ := fits_of_overBudget here same (verified.target_pos member)
    batchSchema.1.2 (by simpa using budget)
  exact ⟨account, listed, domain.trans sameDomain.symm, schema.1.1.1.1.1.1.2 account listed,
    ⟨wave, waveOf⟩, vcpus, memoryGb, minutes.trans ceiling⟩

end PlanAcceptance
