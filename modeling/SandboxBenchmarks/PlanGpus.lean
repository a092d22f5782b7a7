import SandboxBenchmarks.Library.Sorting
import SandboxBenchmarks.PlanSchedule

/-!
# GPUs in flight

`verifyExperimentPlan` multiplies the GPU count of a batch's first cell by the
batch's concurrency. The other cells of the batch are not read.
-/

namespace PlanGpus

open CanonicalJson Checks PlanVerification PlanSchedule Sorting

/-- `cell.gpu?.count ?? 0` -/
def gpuCount (cell : ExperimentCell) : ℕ := (cell.gpu.map (·.count)).getD 0

def cellsOf (plan : ExperimentPlan) (batch : ExperimentBatch) : List ExperimentCell :=
  plan.cells.filter (fun cell => cell.id ∈ batch.cells)

def gpuCapacity (account : ExperimentAccount) : ℕ := account.gpus.getD 0

/-- Whatever cells of the batch run at the same time, the account has the GPUs they request. -/
def WithinGpus (plan : ExperimentPlan) (account : ExperimentAccount) (batch : ExperimentBatch) :
    Prop :=
  ∀ cells, InFlight plan batch cells → (cells.map gpuCount).sum ≤ gpuCapacity account

/-- The account has the GPUs of the `maxConcurrency` cells that request the most. -/
def HeaviestFit (plan : ExperimentPlan) (account : ExperimentAccount) (batch : ExperimentBatch) :
    Prop :=
  ((heaviest gpuCount batch.maxConcurrency (cellsOf plan batch)).map gpuCount).sum ≤
    gpuCapacity account

/-- No cell of the batch requests more than its first one. -/
def FirstIsHeaviest (plan : ExperimentPlan) (batch : ExperimentBatch) : Prop :=
  ∀ first ∈ plan.cells, batch.cells.head? = some first.id →
    ∀ cell ∈ cellsOf plan batch, gpuCount cell ≤ gpuCount first

variable {plan : ExperimentPlan} {batch : ExperimentBatch} {account : ExperimentAccount}

lemma heaviest_inFlight (distinct : (plan.cells.map (·.id)).Nodup) :
    InFlight plan batch (heaviest gpuCount batch.maxConcurrency (cellsOf plan batch)) := by
  have perm := List.perm_insertionSort
    (fun c d : ExperimentCell => gpuCount d ≤ gpuCount c) (cellsOf plan batch)
  constructor
  · have nodup : (cellsOf plan batch).Nodup := (List.Nodup.of_map _ distinct).filter _
    exact (perm.nodup_iff.mpr nodup).sublist (List.take_sublist _ _)
  · intro cell member
    have inside := perm.mem_iff.mp ((List.take_sublist _ _).mem member)
    simpa [cellsOf] using inside
  · exact List.length_take_le _ _

theorem withinGpus_iff (distinct : (plan.cells.map (·.id)).Nodup) :
    WithinGpus plan account batch ↔ HeaviestFit plan account batch := by
  constructor
  · exact fun within => within _ (heaviest_inFlight distinct)
  · intro fit cells flight
    have sub : cells ⊆ cellsOf plan batch := by
      intro cell hc
      simpa [cellsOf] using flight.members cell hc
    have bound := @sum_le_sum_heaviest _ gpuCount _ _
      (List.subperm_of_subset flight.distinct sub) _ flight.admitted
    exact bound.trans fit

/-- The check made of the first cell covers the batch when no other cell requests more. -/
lemma withinGpus_of_first {runtime : Runtime} {registry : Registry}
    (v : Verified runtime registry plan) (hb : batch ∈ plan.batches)
    (provisioned : account ∈ plan.accounts) (domain : account.quotaDomain = batch.quotaDomain)
    (first : FirstIsHeaviest plan batch) : WithinGpus plan account batch := by
  obtain ⟨scan, inv, _⟩ := v.batches
  obtain ⟨_, _, sound⟩ := inv.sound batch hb
  obtain ⟨found, lookup, _, budget⟩ := sound.capacity
  have same := v.get_account.mpr ⟨provisioned, domain⟩
  rw [lookup, Option.some.injEq] at same
  subst same
  intro cells flight
  rcases ids : batch.cells with _ | ⟨id, rest⟩
  · exact absurd ids (v.batch_size hb)
  · obtain ⟨sample, hSample, rfl, _⟩ := v.members_planned hb id (by simp [ids])
    have head : (batch.cells.filterMap (Keyed.get? (Keyed.mapOf
        (plan.cells.map (fun cell => (cell.id, cell)))))).head? = some sample := by
      rw [ids, List.filterMap_cons, v.get_cell.mpr ⟨hSample, rfl⟩]
      rfl
    simp only [overBudget, head, Bool.or_eq_false_iff, decide_eq_false_iff_not, not_lt] at budget
    have each : ∀ n ∈ cells.map gpuCount, n ≤ gpuCount sample := by
      intro n hn
      obtain ⟨cell, hc, rfl⟩ := List.mem_map.mp hn
      exact first sample hSample (by rw [ids]; rfl) cell
        (by simpa [cellsOf] using flight.members cell hc)
    have total := List.sum_le_card_nsmul _ _ each
    rw [List.length_map, nsmul_eq_mul, Nat.cast_id] at total
    calc (cells.map gpuCount).sum ≤ cells.length * gpuCount sample := total
      _ ≤ gpuCount sample * batch.maxConcurrency := by
        rw [Nat.mul_comm]
        exact Nat.mul_le_mul_left _ flight.admitted
      _ ≤ gpuCapacity found := budget.1.1.1

/-- In an accepted plan, the GPUs in flight stay within the account exactly when those of the
heaviest cells do; they do where the first cell of the batch requests as many as any other. -/
theorem verifyExperimentPlan_gpus {runtime : Runtime} (registry : Registry)
    {value plan : ExperimentPlan} (accepted : verifyExperimentPlan runtime registry value = .ok plan)
    (batch : ExperimentBatch) (hb : batch ∈ plan.batches) :
    ∃ account ∈ plan.accounts, account.quotaDomain = batch.quotaDomain ∧
      (WithinGpus plan account batch ↔ HeaviestFit plan account batch) ∧
      (FirstIsHeaviest plan batch → WithinGpus plan account batch) := by
  obtain ⟨rfl, v⟩ := verified_of_ok accepted
  obtain ⟨scan, inv, _⟩ := v.batches
  obtain ⟨_, _, sound⟩ := inv.sound batch hb
  obtain ⟨account, lookup, _, _⟩ := sound.capacity
  obtain ⟨provisioned, domain⟩ := v.get_account.mp lookup
  exact ⟨account, provisioned, domain, withinGpus_iff (keys_nodup v.cells),
    withinGpus_of_first v hb provisioned domain⟩

/-- The sample plan, with a GPU for the second cell of its batch. -/
def mixedPlan : ExperimentPlan :=
  { samplePlan with cells := [
    ⟨"c0", "e2b", "e2b", "memory", 0, "w", "a", "v", ⟨4, 8, none⟩, none, ["m"], [], 2, 5, 40, 5⟩,
    ⟨"c1", "e2b", "e2b", "memory", 1, "w", "a", "v", ⟨4, 8, none⟩, some ⟨"test-gpu", 1⟩, ["m"], [],
      2, 5, 40, 5⟩] }

def mixedBatch : ExperimentBatch := ⟨"b0", "e2b", none, ["c0", "c1"], 2, 70⟩

def plainAccount : ExperimentAccount := ⟨"e2b", 2, some 8, some 16, none⟩

lemma mixedPlan_targets {runtime : Runtime} {digest : String}
    (target : evidenceDigest runtime (TargetSpec.toJson ⟨4, 8, none⟩) = .ok digest) :
    checkTargets runtime sampleRegistry mixedPlan = .ok [("e2b", "e2b")] := by
  simp [checkTargets, checkTarget, mixedPlan, sampleRegistry, target, throwIf, require, Keyed.has,
    Keyed.get?, Keyed.set, pure, Except.pure]

lemma mixedPlan_cohorts {runtime : Runtime} {digest : String}
    (cohort : evidenceDigest runtime sampleCohort = .ok digest) :
    mixedPlan.cells.foldlM (checkCohort runtime mixedPlan) [] = .ok [("memory", digest)] := by
  simp only [sampleCohort] at cohort
  simp [mixedPlan, checkCohort, ExperimentCell.eligibility, sortedExclusions, CodeUnits.sorted,
    cohort, throwIf, Keyed.has, Keyed.get?, Keyed.set, Keyed.setOf, Keyed.add, pure, Except.pure]

lemma mixedPlan_accepted : ∃ runtime : Runtime,
    verifyExperimentPlan runtime sampleRegistry mixedPlan = .ok mixedPlan := by
  obtain ⟨_, body⟩ := canonicalJsonString_of_visit plainJson evidenceLimits mixedPlan.body rfl
    (by decide +kernel)
  obtain ⟨_, target⟩ := canonicalJsonString_of_visit plainJson evidenceLimits
    (TargetSpec.toJson ⟨4, 8, none⟩) rfl (by decide +kernel)
  obtain ⟨_, cohort⟩ := canonicalJsonString_of_visit plainJson evidenceLimits sampleCohort rfl
    (by decide +kernel)
  obtain ⟨_, hTarget⟩ := digest_exists mixedPlan.body target
  obtain ⟨_, hCohort⟩ := digest_exists mixedPlan.body cohort
  refine ⟨sealing mixedPlan.body, ?_⟩
  simp only [verifyExperimentPlan, bind_eq_ok, throwIf_eq_ok, pure_eq_ok, and_true]
  refine ⟨(), by decide +kernel, _, sealing_digest body, (), by decide +kernel, (),
    by decide +kernel, _, mixedPlan_targets hTarget, (), by decide +kernel, (), by decide +kernel,
    (), by decide +kernel, (), by decide +kernel,
    ⟨["b0"], ["c0", "c1"], [("b0", .syntheticMemory)], [("e2b", 0)]⟩, by decide +kernel, (),
    by decide +kernel, ⟨["b0"], ["r0"], [("e2b", 0)]⟩, by decide +kernel, (), by decide +kernel, _,
    mixedPlan_cohorts hCohort⟩

/-- An accepted plan, whose account records no GPU, with a cell in flight that requests one. -/
theorem verifyExperimentPlan_mixed_gpus : ∃ runtime : Runtime,
    verifyExperimentPlan runtime sampleRegistry mixedPlan = .ok mixedPlan ∧
      mixedBatch ∈ mixedPlan.batches ∧ plainAccount ∈ mixedPlan.accounts ∧
      plainAccount.quotaDomain = mixedBatch.quotaDomain ∧ gpuCapacity plainAccount = 0 ∧
      ∃ cells, InFlight mixedPlan mixedBatch cells ∧ (cells.map gpuCount).sum = 1 := by
  obtain ⟨runtime, accepted⟩ := mixedPlan_accepted
  refine ⟨runtime, accepted, by decide, by decide, rfl, rfl, mixedPlan.cells, ?_, by decide⟩
  exact ⟨by decide, by decide, by decide⟩

theorem verifyExperimentPlan_gpus_mixed : ¬ HeaviestFit mixedPlan plainAccount mixedBatch ∧
    ∃ account ∈ mixedPlan.accounts, account.quotaDomain = mixedBatch.quotaDomain ∧
      (WithinGpus mixedPlan account mixedBatch ↔ HeaviestFit mixedPlan account mixedBatch) ∧
      (FirstIsHeaviest mixedPlan mixedBatch → WithinGpus mixedPlan account mixedBatch) := by
  obtain ⟨_, accepted⟩ := mixedPlan_accepted
  exact ⟨by unfold HeaviestFit; decide,
    verifyExperimentPlan_gpus sampleRegistry accepted mixedBatch (by decide)⟩

end PlanGpus
