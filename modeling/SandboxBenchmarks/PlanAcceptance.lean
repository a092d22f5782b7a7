import SandboxBenchmarks.PlanSchedule

/-!
# Plans that verification accepts

The converse of what an accepted plan guarantees: rules for the cells, and a
description of batches and rounds, under which no loop of `verifyExperimentPlan`
is refused.
-/

namespace PlanAcceptance

open CanonicalJson Checks PlanVerification PlanSchedule

variable {runtime : Runtime} {registry : Registry} {plan : ExperimentPlan}

/-! ### Cells -/

/-- What `verifyExperimentPlan` asks of the cells alone. -/
structure CellRules (runtime : Runtime) (registry : Registry) (createdOn : String)
    (cells : List ExperimentCell) : Prop where
  schema : ∀ cell ∈ cells, experimentCellSchema cell = true
  ids : (cells.map (·.id)).Nodup
  logical : (cells.map logicalReplicate).Nodup
  target : ∃ digest, ∀ cell ∈ cells, evidenceDigest runtime cell.target.toJson = .ok digest
  domains : ∀ c ∈ cells, ∀ d ∈ cells, registry.vendor c.provider = registry.vendor d.provider →
    c.quotaDomain = d.quotaDomain
  cohorts : ∃ cohort : String → String, ∀ cell ∈ cells,
    evidenceDigest runtime (cell.eligibility runtime) = .ok (cohort cell.suite)
  metrics : ∀ cell ∈ cells, cell.metrics.Nodup
  exclusions : ∀ cell ∈ cells, (cell.exclusions.map (·.metricId)).Nodup ∧
    ∀ exclusion ∈ cell.exclusions, validDate exclusion.expires = true ∧
      exclusion.workloadRevision = cell.workloadRevision ∧ exclusion.metricId ∈ cell.metrics ∧
      CodeUnits.le exclusion.expires createdOn = false
  date : validDate createdOn = true
  eligible : ∃ cell ∈ cells, cell.eligible = true

/-- Every provider of the vocabulary has a vendor. -/
def Registered (registry : Registry) : Prop :=
  ∀ id ∈ providerIds, ∃ vendor, registry.vendor id = some vendor

lemma provider_known {cell : ExperimentCell} (schema : experimentCellSchema cell = true) :
    cell.provider ∈ providerIds := by
  simp only [experimentCellSchema, Bool.and_eq_true, List.contains_iff_mem] at schema
  tauto

lemma checkTargets_accepts (known : Registered registry)
    (rules : CellRules runtime registry plan.createdOn plan.cells) :
    ∃ domains, checkTargets runtime registry plan = .ok domains := by
  unfold checkTargets
  split
  · exact ⟨[], rfl⟩
  · rename_i first rest split
    obtain ⟨digest, same⟩ := rules.target
    have expected := same first (by simp [split])
    obtain ⟨domains, returns, _⟩ := foldlM_returns (l := plan.cells) (s := [])
      (f := checkTarget runtime registry first.target)
      (fun passed seen => ∀ vendor domain, Keyed.get? seen vendor = some domain →
        ∃ c ∈ passed, registry.vendor c.provider = some vendor ∧ c.quotaDomain = domain)
      (by simp [Keyed.get?]) (by
        intro pre cell post seen at_ inv
        have member : cell ∈ plan.cells := by simp [at_]
        obtain ⟨vendor, hVendor⟩ := known _ (provider_known (rules.schema cell member))
        have one : ¬ (Keyed.has seen vendor = true ∧
            Keyed.get? seen vendor ≠ some cell.quotaDomain) := by
          rintro ⟨has, other⟩
          obtain ⟨domain, found⟩ := Keyed.exists_get? (Keyed.has_iff.mp has)
          obtain ⟨c, hc, vendorOf, rfl⟩ := inv vendor domain found
          apply other
          rw [found, rules.domains c (by simp [at_, hc]) cell member (vendorOf.trans hVendor.symm)]
        refine ⟨Keyed.set seen vendor cell.quotaDomain, ?_, ?_⟩
        · simp only [checkTarget, same cell member, expected, hVendor, throwIf, require, one,
            ok_bind, ne_eq, not_true_eq_false, if_false]
          rfl
        · intro vendor' domain found
          rw [Keyed.get?_set] at found
          split at found
          · rename_i here
            subst here
            exact ⟨cell, by simp, hVendor, Option.some.inj found⟩
          · obtain ⟨c, hc, rest⟩ := inv vendor' domain found
            exact ⟨c, by simp [hc], rest⟩)
    exact ⟨domains, returns⟩

lemma checkExclusions_accepts {cell : ExperimentCell} (member : cell ∈ plan.cells)
    (rules : CellRules runtime registry plan.createdOn plan.cells) :
    ∃ excluded, cell.exclusions.foldlM (checkExclusion plan cell) [] = .ok excluded := by
  obtain ⟨distinct, valid⟩ := rules.exclusions cell member
  obtain ⟨excluded, returns, _⟩ := foldlM_returns (l := cell.exclusions) (s := [])
    (f := checkExclusion plan cell) (fun passed excluded => excluded = passed.map (·.metricId))
    rfl (by
      rintro pre exclusion post _ at_ rfl
      obtain ⟨date, workload, metric, live⟩ := valid exclusion (by simp [at_])
      have fresh : exclusion.metricId ∉ pre.map (·.metricId) := by
        rw [at_, List.map_append, List.map_cons, List.nodup_append] at distinct
        intro again
        exact distinct.2.2 _ again _ List.mem_cons_self rfl
      refine ⟨pre.map (·.metricId) ++ [exclusion.metricId], ?_, by simp⟩
      simp only [checkExclusion, date, workload, metric, live, fresh, throwIf, not_true_eq_false,
        ne_eq, Bool.true_eq_false, Bool.false_eq_true, or_self, if_false, ok_bind, add_fresh fresh]
      rfl)
  exact ⟨excluded, returns⟩

lemma checkCohorts_accepts (rules : CellRules runtime registry plan.createdOn plan.cells) :
    ∃ cohorts, plan.cells.foldlM (checkCohort runtime plan) [] = .ok cohorts := by
  obtain ⟨cohort, digests⟩ := rules.cohorts
  obtain ⟨cohorts, returns, _⟩ := foldlM_returns (l := plan.cells) (s := [])
    (f := checkCohort runtime plan)
    (fun _ cohorts => ∀ suite digest, Keyed.get? cohorts suite = some digest →
      digest = cohort suite)
    (by simp [Keyed.get?]) (by
      intro pre cell post cohorts at_ inv
      have member : cell ∈ plan.cells := by simp [at_]
      have same : ¬ (Keyed.has cohorts cell.suite = true ∧
          Keyed.get? cohorts cell.suite ≠ some (cohort cell.suite)) := by
        rintro ⟨has, other⟩
        obtain ⟨digest, found⟩ := Keyed.exists_get? (Keyed.has_iff.mp has)
        exact other (found.trans (congrArg some (inv _ _ found)))
      have distinct : (Keyed.setOf cell.metrics).length = cell.metrics.length :=
        Keyed.length_setOf_eq_iff.mpr (rules.metrics cell member)
      obtain ⟨excluded, passes⟩ := checkExclusions_accepts member rules
      refine ⟨Keyed.set cohorts cell.suite (cohort cell.suite), ?_, ?_⟩
      · simp only [checkCohort, digests cell member, throwIf, same, distinct, passes, ok_bind,
          ne_eq, not_true_eq_false, if_false]
        rfl
      · intro suite digest found
        rw [Keyed.get?_set] at found
        split at found
        · rename_i here
          rw [← here, Option.some.inj found]
        · exact inv suite digest found)
  exact ⟨cohorts, returns⟩

/-! ### Batches -/

/-- A batch of planned cells of one quota domain and wave, within its account's capacity. -/
structure BatchFits (plan : ExperimentPlan) (batch : ExperimentBatch) (wave : BenchmarkWave)
    (members : List ExperimentCell) (account : ExperimentAccount) : Prop where
  declared : batch.wave = some wave
  ids : batch.cells = members.map (·.id)
  nonempty : members ≠ []
  planned : ∀ cell ∈ members, cell ∈ plan.cells ∧ cell.eligible = true ∧
    cell.quotaDomain = batch.quotaDomain ∧ benchmarkWave cell.suite = .ok wave
  provisioned : account ∈ plan.accounts
  domain : account.quotaDomain = batch.quotaDomain
  concurrency : batch.maxConcurrency ≤ account.sandboxes
  ceiling : batch.budgetMinutes ≤ benchJobCeilingMinutes
  budget : overBudget account batch members = false

/-- Batches of one quota domain never go back to an earlier wave. -/
def BatchesInOrder (a b : ExperimentBatch) : Prop :=
  a.quotaDomain = b.quotaDomain → ∀ wave wave', a.wave = some wave → b.wave = some wave' →
    requiredWaveRank wave ≤ requiredWaveRank wave'

lemma get?_keyed {α : Type} {l : List α} {key : α → String} (nodup : (l.map key).Nodup) {x : α}
    (hx : x ∈ l) : Keyed.get? (Keyed.mapOf (l.map (fun y => (key y, y)))) (key x) = some x := by
  have distinct : ((l.map (fun y => (key y, y))).map Prod.fst).Nodup := by
    rw [List.map_map]
    exact nodup
  rw [Keyed.mapOf_of_nodup distinct]
  exact Keyed.get?_of_mem distinct (List.mem_map_of_mem hx)

lemma length_keyed {α : Type} {l : List α} {key : α → String} (nodup : (l.map key).Nodup) :
    (Keyed.mapOf (l.map (fun y => (key y, y)))).length = l.length := by
  have distinct : ((l.map (fun y => (key y, y))).map Prod.fst).Nodup := by
    rw [List.map_map]
    exact nodup
  rw [Keyed.mapOf_of_nodup distinct, List.length_map]

lemma assignCells_accepts {cells : List (String × ExperimentCell)} {batch : ExperimentBatch}
    {ids assigned : List String} (fresh : (assigned ++ ids).Nodup)
    (assignable : ∀ id ∈ ids, Assignable cells batch id) :
    ids.foldlM (assignCell cells batch) assigned = .ok (assigned ++ ids) := by
  induction ids generalizing assigned with
  | nil => rw [List.append_nil]; rfl
  | cons id ids ih =>
    obtain ⟨cell, found, eligible, domain⟩ := assignable id List.mem_cons_self
    have new : id ∉ assigned := by
      intro again
      exact (List.nodup_append.mp fresh).2.2 id again id List.mem_cons_self rfl
    have here : assignCell cells batch assigned id = .ok (assigned ++ [id]) := by
      simp only [assignCell, found, require, eligible, new, domain, throwIf, ok_bind, ne_eq,
        not_true_eq_false, Bool.true_eq_false, or_self, if_false, add_fresh new]
      rfl
    rw [List.foldlM_cons, here, ok_bind, ih (by simpa using fresh)
      (fun id' member => assignable id' (List.mem_cons_of_mem _ member)), List.append_assoc]
    rfl

lemma soleWave_accepts {waves : List BenchmarkWave} {wave : BenchmarkWave}
    {mixes disagrees : String} (nonempty : waves ≠ []) (same : ∀ w ∈ waves, w = wave) :
    soleWave waves (some wave) mixes disagrees = .ok wave := by
  have distinct : Keyed.setOf waves = [wave] := by
    obtain ⟨first, rest, rfl⟩ := List.exists_cons_of_ne_nil nonempty
    apply List.perm_singleton.mp
    rw [List.perm_ext_iff_of_nodup (Keyed.nodup_setOf _) (List.nodup_singleton _)]
    intro w
    rw [Keyed.mem_setOf, List.mem_singleton]
    constructor
    · exact same w
    · rintro rfl
      rw [← same first List.mem_cons_self]
      exact List.mem_cons_self
  simp only [soleWave, distinct, throwIf, require, ok_bind, List.length_singleton, List.head?_cons,
    ne_eq, not_true_eq_false, if_false, Option.any_some, decide_false, Bool.false_eq_true]
  rfl

lemma advanceWave_accepts {ranks : List (String × Nat)} {quotaDomain error : String}
    {wave : BenchmarkWave} (rises : ∀ previous, Keyed.get? ranks quotaDomain = some previous →
      previous ≤ requiredWaveRank wave) :
    advanceWave ranks quotaDomain wave error =
      .ok (Keyed.set ranks quotaDomain (requiredWaveRank wave)) := by
  have behind : (Keyed.get? ranks quotaDomain).any
      (fun previous => requiredWaveRank wave < previous) = false := by
    cases found : Keyed.get? ranks quotaDomain with
    | none => rfl
    | some previous => simpa using rises previous found
  simp only [advanceWave, behind, throwIf, Bool.false_eq_true, if_false, ok_bind]
  rfl

/-- What the loop over fitting batches has seen. -/
structure BatchesPassed (passed : List ExperimentBatch) (scan : BatchScan) : Prop where
  ids : scan.batchIds = passed.map (·.id)
  assigned : scan.assigned = passed.flatMap (·.cells)
  waves : ∀ batch ∈ passed, Keyed.get? scan.batchWaves batch.id = batch.wave
  ranks : ∀ domain rank, Keyed.get? scan.lastWaveRank domain = some rank →
    ∃ batch ∈ passed, ∃ wave, batch.quotaDomain = domain ∧ batch.wave = some wave ∧
      rank = requiredWaveRank wave

/-- The batches of a plan, each fitting, together a partition of distinct cells in wave order. -/
structure BatchesFit (plan : ExperimentPlan) : Prop where
  cellIds : (plan.cells.map (·.id)).Nodup
  accountDomains : (plan.accounts.map (·.quotaDomain)).Nodup
  fits : ∀ batch ∈ plan.batches, ∃ wave members account, BatchFits plan batch wave members account
  ids : (plan.batches.map (·.id)).Nodup
  assigned : (plan.batches.flatMap (·.cells)).Nodup
  order : plan.batches.Pairwise BatchesInOrder

lemma checkBatch_accepts (ok : BatchesFit plan) {pre post : List ExperimentBatch}
    {batch : ExperimentBatch} {scan : BatchScan} (at_ : plan.batches = pre ++ batch :: post)
    (inv : BatchesPassed pre scan) :
    ∃ scan', checkBatch
        (Keyed.mapOf (plan.accounts.map (fun account => (account.quotaDomain, account))))
        (Keyed.mapOf (plan.cells.map (fun cell => (cell.id, cell)))) scan batch = .ok scan' ∧
      BatchesPassed (pre ++ [batch]) scan' := by
  obtain ⟨wave, members, account, fits⟩ := ok.fits batch (by simp [at_])
  have found : Keyed.get?
      (Keyed.mapOf (plan.accounts.map (fun account => (account.quotaDomain, account))))
      batch.quotaDomain = some account := by
    rw [← fits.domain]
    exact get?_keyed ok.accountDomains fits.provisioned
  have cellAt : ∀ cell ∈ members, Keyed.get?
      (Keyed.mapOf (plan.cells.map (fun cell => (cell.id, cell)))) cell.id = some cell :=
    fun cell member => get?_keyed ok.cellIds (fits.planned cell member).1
  have fresh : batch.id ∉ scan.batchIds := by
    have distinct := ok.ids
    rw [at_, List.map_append, List.map_cons, List.nodup_append] at distinct
    rw [inv.ids]
    exact fun again => distinct.2.2 _ again _ List.mem_cons_self rfl
  have nodup : (scan.assigned ++ batch.cells).Nodup := by
    have distinct := ok.assigned
    rw [at_, List.flatMap_append, List.flatMap_cons, ← List.append_assoc] at distinct
    rw [inv.assigned]
    exact (List.nodup_append.mp distinct).1
  have assigns : batch.cells.foldlM
      (assignCell (Keyed.mapOf (plan.cells.map (fun cell => (cell.id, cell)))) batch)
      scan.assigned = .ok (scan.assigned ++ batch.cells) := by
    apply assignCells_accepts nodup
    intro id member
    rw [fits.ids] at member
    obtain ⟨cell, hc, rfl⟩ := List.mem_map.mp member
    obtain ⟨_, eligible, domain, _⟩ := fits.planned cell hc
    exact ⟨cell, cellAt cell hc, eligible, domain⟩
  have named : batch.cells.filterMap
      (Keyed.get? (Keyed.mapOf (plan.cells.map (fun cell => (cell.id, cell))))) = members := by
    rw [fits.ids, List.filterMap_map]
    exact (List.filterMap_congr cellAt).trans List.filterMap_some
  have measured : members.mapM (fun cell => benchmarkWave cell.suite) =
      .ok (members.map fun _ => wave) :=
    mapM_returns (fun cell member => (fits.planned cell member).2.2.2)
  have sole : ∀ mixes disagrees,
      soleWave (members.map fun _ => wave) batch.wave mixes disagrees = .ok wave := by
    intro mixes disagrees
    rw [fits.declared]
    apply soleWave_accepts
    · simpa using fits.nonempty
    · intro w hw
      obtain ⟨_, _, rfl⟩ := List.mem_map.mp hw
      rfl
  have advances : ∀ error, advanceWave scan.lastWaveRank batch.quotaDomain wave error =
      .ok (Keyed.set scan.lastWaveRank batch.quotaDomain (requiredWaveRank wave)) := by
    intro error
    apply advanceWave_accepts
    intro previous last
    obtain ⟨before, hb, wave', domain, declared, rfl⟩ := inv.ranks _ _ last
    have order := ok.order
    rw [at_, List.pairwise_append] at order
    exact order.2.2 before hb batch List.mem_cons_self domain wave' wave declared fits.declared
  have size : ¬ batch.cells.length < 1 := by
    rw [fits.ids, List.length_map, not_lt]
    exact List.length_pos_iff.mpr fits.nonempty
  refine ⟨⟨Keyed.add scan.batchIds batch.id, scan.assigned ++ batch.cells,
    Keyed.set scan.batchWaves batch.id wave,
    Keyed.set scan.lastWaveRank batch.quotaDomain (requiredWaveRank wave)⟩, ?_, ?_⟩
  · simp only [checkBatch, found, require, throwIf, ok_bind, not_lt.mpr fits.concurrency, size,
      not_lt.mpr fits.ceiling, gt_iff_lt, or_self, if_false, fresh, assigns, named, measured, sole,
      advances, fits.budget, Bool.false_eq_true]
    rfl
  · refine ⟨?_, ?_, ?_, ?_⟩
    · rw [add_fresh fresh, inv.ids, List.map_append, List.map_singleton]
    · simp [inv.assigned]
    · intro b hb
      rw [Keyed.get?_set]
      split
      · rename_i same
        rcases List.mem_append.mp hb with before | here
        · rw [inv.ids, same] at fresh
          exact absurd (List.mem_map_of_mem before) fresh
        · rw [List.mem_singleton.mp here, fits.declared]
      · rename_i other
        rcases List.mem_append.mp hb with before | here
        · exact inv.waves b before
        · exact absurd (congrArg _ (List.mem_singleton.mp here).symm) other
    · intro domain rank last
      rw [Keyed.get?_set] at last
      split at last
      · rename_i same
        exact ⟨batch, by simp, wave, same, fits.declared, (Option.some.inj last).symm⟩
      · obtain ⟨before, hb, rest⟩ := inv.ranks _ _ last
        exact ⟨before, List.mem_append_left _ hb, rest⟩

theorem checkBatches_accepts (ok : BatchesFit plan) :
    ∃ scan, plan.batches.foldlM (checkBatch
        (Keyed.mapOf (plan.accounts.map (fun account => (account.quotaDomain, account))))
        (Keyed.mapOf (plan.cells.map (fun cell => (cell.id, cell))))) ⟨[], [], [], []⟩ = .ok scan ∧
      BatchesPassed plan.batches scan := by
  apply foldlM_returns BatchesPassed
  · exact ⟨rfl, rfl, by simp, by simp [Keyed.get?]⟩
  · intro pre batch post scan at_ inv
    exact checkBatch_accepts ok at_ inv

/-! ### Rounds -/

/-- A round of planned batches of one quota domain and wave. -/
structure RoundFits (plan : ExperimentPlan) (round : ExperimentRound) (wave : BenchmarkWave)
    (members : List ExperimentBatch) : Prop where
  declared : round.wave = some wave
  ids : round.batches = members.map (·.id)
  nonempty : members ≠ []
  short : members.length ≤ 256
  planned : ∀ batch ∈ members, batch ∈ plan.batches ∧ batch.quotaDomain = round.quotaDomain ∧
    batch.wave = some wave

/-- Rounds of one quota domain never go back to an earlier wave. -/
def RoundsInOrder (a b : ExperimentRound) : Prop :=
  a.quotaDomain = b.quotaDomain → ∀ wave wave', a.wave = some wave → b.wave = some wave' →
    requiredWaveRank wave ≤ requiredWaveRank wave'

/-- The rounds of a plan, each fitting, together a partition of distinct batches in wave order. -/
structure RoundsFit (plan : ExperimentPlan) : Prop where
  batchIds : (plan.batches.map (·.id)).Nodup
  fits : ∀ round ∈ plan.rounds, ∃ wave members, RoundFits plan round wave members
  ids : (plan.rounds.map (·.id)).Nodup
  scheduled : (plan.rounds.flatMap (·.batches)).Nodup
  order : plan.rounds.Pairwise RoundsInOrder

/-- What the loop over fitting rounds has seen. -/
structure RoundsPassed (passed : List ExperimentRound) (scan : RoundScan) : Prop where
  scheduled : scan.scheduled = passed.flatMap (·.batches)
  ids : scan.roundIds = passed.map (·.id)
  ranks : ∀ domain rank, Keyed.get? scan.lastWaveRank domain = some rank →
    ∃ round ∈ passed, ∃ wave, round.quotaDomain = domain ∧ round.wave = some wave ∧
      rank = requiredWaveRank wave

lemma find_batch (ids : (plan.batches.map (·.id)).Nodup) {batch : ExperimentBatch}
    (member : batch ∈ plan.batches) :
    plan.batches.find? (fun entry => entry.id = batch.id) = some batch :=
  Keyed.find?_of_nodup ids member

lemma scheduleBatches_accepts {batchWaves : List (String × BenchmarkWave)}
    {round : ExperimentRound} {wave : BenchmarkWave} (ids : (plan.batches.map (·.id)).Nodup)
    (recorded : ∀ batch ∈ plan.batches, Keyed.get? batchWaves batch.id = batch.wave)
    {members : List ExperimentBatch} (planned : ∀ batch ∈ members, batch ∈ plan.batches ∧
      batch.quotaDomain = round.quotaDomain ∧ batch.wave = some wave)
    {waves : List BenchmarkWave} {scheduled : List String}
    (fresh : (scheduled ++ members.map (·.id)).Nodup) :
    (members.map (·.id)).foldlM (scheduleBatch plan batchWaves round) (waves, scheduled) =
      .ok (waves ++ members.map (fun _ => wave), scheduled ++ members.map (·.id)) := by
  induction members generalizing waves scheduled with
  | nil => simp only [List.map_nil, List.append_nil]; rfl
  | cons batch members ih =>
    obtain ⟨member, domain, declared⟩ := planned batch List.mem_cons_self
    have new : batch.id ∉ scheduled := by
      intro again
      exact (List.nodup_append.mp fresh).2.2 _ again _ List.mem_cons_self rfl
    have here : scheduleBatch plan batchWaves round (waves, scheduled) batch.id =
        .ok (waves ++ [wave], scheduled ++ [batch.id]) := by
      simp only [scheduleBatch, find_batch ids member, recorded batch member, declared, domain, new,
        require, throwIf, ne_eq, not_true_eq_false, or_self, if_false, ok_bind, add_fresh new]
      rfl
    rw [List.map_cons, List.foldlM_cons, here, ok_bind,
      ih (fun b hb => planned b (List.mem_cons_of_mem _ hb)) (by simpa using fresh)]
    simp

lemma checkRound_accepts (ok : RoundsFit plan) {batchWaves : List (String × BenchmarkWave)}
    (recorded : ∀ batch ∈ plan.batches, Keyed.get? batchWaves batch.id = batch.wave)
    {pre post : List ExperimentRound} {round : ExperimentRound} {scan : RoundScan}
    (at_ : plan.rounds = pre ++ round :: post) (inv : RoundsPassed pre scan) :
    ∃ scan', checkRound plan batchWaves scan round = .ok scan' ∧
      RoundsPassed (pre ++ [round]) scan' := by
  obtain ⟨wave, members, fits⟩ := ok.fits round (by simp [at_])
  have fresh : round.id ∉ scan.roundIds := by
    have distinct := ok.ids
    rw [at_, List.map_append, List.map_cons, List.nodup_append] at distinct
    rw [inv.ids]
    exact fun again => distinct.2.2 _ again _ List.mem_cons_self rfl
  have nodup : (scan.scheduled ++ members.map (·.id)).Nodup := by
    have distinct := ok.scheduled
    rw [at_, List.flatMap_append, List.flatMap_cons, ← List.append_assoc, fits.ids] at distinct
    rw [inv.scheduled]
    exact (List.nodup_append.mp distinct).1
  have schedules : round.batches.foldlM (scheduleBatch plan batchWaves round)
      ([], scan.scheduled) =
      .ok (members.map (fun _ => wave), scan.scheduled ++ round.batches) := by
    rw [fits.ids]
    exact scheduleBatches_accepts ok.batchIds recorded fits.planned nodup
  have sole : ∀ mixes disagrees,
      soleWave (members.map fun _ => wave) round.wave mixes disagrees = .ok wave := by
    intro mixes disagrees
    rw [fits.declared]
    apply soleWave_accepts
    · simpa using fits.nonempty
    · intro w hw
      obtain ⟨_, _, rfl⟩ := List.mem_map.mp hw
      rfl
  have advances : ∀ error, advanceWave scan.lastWaveRank round.quotaDomain wave error =
      .ok (Keyed.set scan.lastWaveRank round.quotaDomain (requiredWaveRank wave)) := by
    intro error
    apply advanceWave_accepts
    intro previous last
    obtain ⟨before, hb, wave', domain, declared, rfl⟩ := inv.ranks _ _ last
    have order := ok.order
    rw [at_, List.pairwise_append] at order
    exact order.2.2 before hb round List.mem_cons_self domain wave' wave declared fits.declared
  have short : ¬ round.batches.length > 256 := by
    rw [fits.ids, List.length_map]
    exact not_lt.mpr fits.short
  refine ⟨⟨scan.scheduled ++ round.batches, Keyed.add scan.roundIds round.id,
    Keyed.set scan.lastWaveRank round.quotaDomain (requiredWaveRank wave)⟩, ?_, ?_⟩
  · simp only [checkRound, fresh, short, throwIf, or_self, if_false, ok_bind, schedules, sole,
      advances]
    rfl
  · refine ⟨?_, ?_, ?_⟩
    · simp [inv.scheduled]
    · rw [add_fresh fresh, inv.ids, List.map_append, List.map_singleton]
    · intro domain rank last
      rw [Keyed.get?_set] at last
      split at last
      · rename_i same
        exact ⟨round, by simp, wave, same, fits.declared, (Option.some.inj last).symm⟩
      · obtain ⟨before, hb, rest⟩ := inv.ranks _ _ last
        exact ⟨before, List.mem_append_left _ hb, rest⟩

theorem checkRounds_accepts (ok : RoundsFit plan) {batchWaves : List (String × BenchmarkWave)}
    (recorded : ∀ batch ∈ plan.batches, Keyed.get? batchWaves batch.id = batch.wave) :
    ∃ scan, plan.rounds.foldlM (checkRound plan batchWaves) ⟨[], [], []⟩ = .ok scan ∧
      RoundsPassed plan.rounds scan := by
  apply foldlM_returns RoundsPassed
  · exact ⟨rfl, rfl, by simp [Keyed.get?]⟩
  · intro pre round post scan at_ inv
    exact checkRound_accepts ok recorded at_ inv

/-! ### The plan as a whole -/

/-- A sealed plan of rule-abiding cells whose batches and rounds fit and leave nothing out. -/
structure PlanFits (runtime : Runtime) (registry : Registry) (plan : ExperimentPlan) : Prop where
  schema : experimentPlanSchema plan = true
  digest : evidenceDigest runtime plan.body = .ok plan.digest
  cells : CellRules runtime registry plan.createdOn plan.cells
  batches : BatchesFit plan
  rounds : RoundsFit plan
  assigned : (plan.batches.flatMap (·.cells)).length = (plan.cells.filter (·.eligible)).length
  scheduled : (plan.rounds.flatMap (·.batches)).length = plan.batches.length

theorem verifyExperimentPlan_accepts (known : Registered registry)
    (fits : PlanFits runtime registry plan) :
    verifyExperimentPlan runtime registry plan = .ok plan := by
  have rules := fits.cells
  obtain ⟨domains, targets⟩ := checkTargets_accepts known rules
  obtain ⟨scan, batches, passed⟩ := checkBatches_accepts fits.batches
  obtain ⟨rounds, scheduled, all⟩ := checkRounds_accepts fits.rounds passed.waves
  obtain ⟨cohorts, consistent⟩ := checkCohorts_accepts rules
  have cells := length_keyed rules.ids
  have logical : (Keyed.setOf (plan.cells.map logicalReplicate)).length = plan.cells.length := by
    rw [Keyed.length_setOf_eq_iff.mpr rules.logical, List.length_map]
  have eligible : ¬ (plan.cells.filter (·.eligible)).length = 0 := by
    obtain ⟨cell, hc, ok⟩ := rules.eligible
    exact (List.length_pos_of_mem (List.mem_filter.mpr ⟨hc, ok⟩)).ne'
  have accounts := length_keyed fits.batches.accountDomains
  have assigned : scan.assigned.length = (plan.cells.filter (·.eligible)).length := by
    rw [passed.assigned, fits.assigned]
  have complete : rounds.scheduled.length = plan.batches.length := by
    rw [all.scheduled, fits.scheduled]
  have planned : (Keyed.mapOf (plan.cells.map (fun cell => (cell.id, cell)))).map Prod.snd =
      plan.cells := by
    have distinct : ((plan.cells.map (fun cell => (cell.id, cell))).map Prod.fst).Nodup := by
      rw [List.map_map]
      exact rules.ids
    rw [Keyed.mapOf_of_nodup distinct, List.map_map]
    exact List.map_id _
  simp only [verifyExperimentPlan, fits.schema, fits.digest, rules.date, targets, cells, logical,
    eligible, accounts, batches, assigned, scheduled, complete, planned, consistent, throwIf,
    ok_bind, ne_eq, not_true_eq_false, Bool.true_eq_false, if_false]
  rfl

end PlanAcceptance
