import SandboxBenchmarks.AggregateOrder
import SandboxBenchmarks.ExperimentOrder

/-!
# What a publication contains

Every sample of a published Run that is not derived was measured in a selected attempt
whose execution, cleanup and artifact the evaluation has verified, and every sample such
an attempt retained is published.
-/

namespace Aggregate

open CanonicalJson Checks JsonText PlanVerification RunModel

variable {runtime : Runtime} {catalog : Catalog} {entries : List ReplicateSlice}

/-! ### The samples of a merge -/

/-- The samples of a published metric, one list for each replicate. -/
def samplesOf (metric : MetricResult) : List Samples :=
  match metric.replicates with
  | none => [metric.samples]
  | some replicates => replicates.map (·.samples)

/-- Merging the replicates of a metric keeps the samples of each. -/
lemma samplesOf_merged {byReplicate : ByReplicate} {m : MetricResult}
    (flat : ∀ e ∈ byReplicate, e.2.metric.replicates = none)
    (h : mergeMetricReplicates byReplicate = some m) :
    (∀ samples, samples ∈ samplesOf m ↔ ∃ e ∈ byReplicate, e.2.metric.samples = samples) ∧
      ∃ e ∈ byReplicate, m.metricId = e.2.metric.metricId ∧ m.derived = e.2.metric.derived := by
  have perm := List.perm_insertionSort (fun a b : ℕ × ReplicateContribution => a.1 ≤ b.1) byReplicate
  unfold mergeMetricReplicates at h
  split at h
  · cases h
  · rename_i index only sorted
    rw [sorted] at perm
    obtain rfl := Option.some.inj h
    have inside := perm.mem_iff.mp List.mem_cons_self
    refine ⟨fun samples => ?_, _, inside, rfl, rfl⟩
    have single : only.metric.replicates = none := flat _ inside
    simp only [samplesOf, single, List.mem_singleton]
    constructor
    · rintro rfl
      exact ⟨_, inside, rfl⟩
    · rintro ⟨e, he, rfl⟩
      rw [List.mem_singleton.mp (perm.mem_iff.mpr he)]
  · rename_i first rest several sorted
    rw [sorted] at perm
    obtain rfl := Option.some.inj h
    refine ⟨fun samples => ?_, first, perm.mem_iff.mp List.mem_cons_self, rfl, rfl⟩
    simp only [samplesOf, List.map_map, List.mem_map, Function.comp_apply, replicateOf]
    constructor
    · rintro ⟨e, he, same⟩
      exact ⟨e, perm.mem_iff.mp he, same⟩
    · rintro ⟨e, he, same⟩
      exact ⟨e, perm.mem_iff.mpr he, same⟩

lemma exists_merged {byReplicate : ByReplicate} (some : byReplicate ≠ []) :
    ∃ m, mergeMetricReplicates byReplicate = .some m := by
  have perm := List.perm_insertionSort (fun a b : ℕ × ReplicateContribution => a.1 ≤ b.1) byReplicate
  unfold mergeMetricReplicates
  split
  · rename_i sorted
    rw [sorted] at perm
    exact absurd perm.nil_eq.symm some
  · exact ⟨_, rfl⟩
  · exact ⟨_, rfl⟩

/-- The listing that is filed for a metric under a replicate. -/
lemma listing_of_filed {byMetric : List (String × ByReplicate)}
    (measured : Measured catalog (listings runtime entries) byMetric) {metricId : String}
    {byReplicate : ByReplicate} (filed : (metricId, byReplicate) ∈ byMetric)
    {e : ℕ × ReplicateContribution} (he : e ∈ byReplicate) :
    ∃ listing ∈ listings runtime entries, listing.measures catalog metricId = true ∧
      listing.replicateIndex = e.1 ∧ e.2 = listing.contribution ∧
      (listings runtime entries).find?
        (fun l => l.measures catalog metricId && l.replicateIndex == e.1) = some listing := by
  have found := Keyed.get?_of_mem measured.nodup filed
  have first := measured.first metricId e.1
  rw [contributed, found, Option.getD_some,
    Keyed.get?_of_mem (measured.inner _ _ found).1 he, eq_comm, Option.map_eq_some_iff] at first
  obtain ⟨listing, hl, same⟩ := first
  have both := List.find?_some hl
  simp only [Bool.and_eq_true, beq_iff_eq] at both
  exact ⟨listing, List.mem_of_find?_eq_some hl, both.1, both.2, same.symm, hl⟩

/-- What a row publishes of a metric is what its slices list first, under each replicate. -/
theorem published_iff {merge : Merge} (collected : Collected runtime catalog entries merge)
    (flat : ∀ listing ∈ listings runtime entries, listing.metric.replicates = none)
    {providerId metricId : String} {targetSpec : TargetSpec} {samples : Samples} :
    (∃ m ∈ publishedMetrics runtime catalog providerId targetSpec (measuredOf merge),
        isDerivedMetric catalog m = false ∧ m.metricId = metricId ∧ samples ∈ samplesOf m) ↔
      ∃ index listing, (listings runtime entries).find?
          (fun l => l.measures catalog metricId && l.replicateIndex == index) = some listing ∧
        listing.metric.samples = samples := by
  have measured : Measured catalog (listings runtime entries) merge.byMetric :=
    collected.byMetric ▸ measured_run _
  have flatMetric : ∀ {id byReplicate}, (id, byReplicate) ∈ merge.byMetric →
      ∀ e ∈ byReplicate, e.2.metric.replicates = none := by
    intro id byReplicate filed e he
    obtain ⟨listing, listed, _, _, same, _⟩ := listing_of_filed measured filed he
    rw [same]
    exact flat listing listed
  constructor
  · rintro ⟨m, hm, underived, rfl, present⟩
    rcases mem_publishedMetrics hm with hm | ⟨id, value, rfl⟩
    · obtain ⟨⟨id, byReplicate⟩, filed, merged⟩ := List.mem_filterMap.mp hm
      obtain ⟨kept, e₀, he₀, named, _⟩ := samplesOf_merged (flatMetric filed) merged
      obtain ⟨e, he, same⟩ := (kept samples).mp present
      obtain ⟨listing, _, _, _, fromListing, found⟩ := listing_of_filed measured filed he
      obtain ⟨first, _, measures, _, fromFirst, _⟩ := listing_of_filed measured filed he₀
      have id_eq : m.metricId = id := by
        simp only [Listing.measures, Bool.and_eq_true, beq_iff_eq] at measures
        rw [named, fromFirst]
        exact measures.1
      refine ⟨e.1, listing, by rw [id_eq]; exact found, ?_⟩
      rw [← same, fromListing]
      rfl
    · simp [isDerivedMetric, economicsResult] at underived
  · rintro ⟨index, listing, found, rfl⟩
    have filedAt : contributed merge.byMetric metricId index = some listing.contribution := by
      rw [measured.first, found, Option.map_some]
    cases present : Keyed.get? merge.byMetric metricId with
    | none =>
      rw [contributed, present] at filedAt
      cases filedAt
    | some byReplicate =>
      rw [contributed, present, Option.getD_some] at filedAt
      have filed := Keyed.mem_of_get? present
      have inside := Keyed.mem_of_get? filedAt
      obtain ⟨m, merged⟩ := exists_merged (List.ne_nil_of_mem inside)
      obtain ⟨kept, e, he, named, derived⟩ := samplesOf_merged (flatMetric filed) merged
      obtain ⟨first, _, measures, _, fromFirst, _⟩ := listing_of_filed measured filed he
      simp only [Listing.measures, Bool.and_eq_true, beq_iff_eq, Bool.not_eq_true'] at measures
      have id_eq : m.metricId = metricId := by
        rw [named, fromFirst]
        exact measures.1
      have hm : m ∈ measuredOf merge := List.mem_filterMap.mpr ⟨_, filed, merged⟩
      refine ⟨m, ?_, ?_, id_eq, (kept _).mpr ⟨_, inside, rfl⟩⟩
      · rw [publishedMetrics, byLocale, List.mem_insertionSort]
        exact List.mem_append_left _ hm
      · have underived := measures.2
        simp only [isDerivedMetric] at underived ⊢
        rw [derived, id_eq, fromFirst]
        rw [measures.1] at underived
        exact underived

end Aggregate

namespace PublishExperiment

open Aggregate hiding publishedMetrics
open CanonicalJson Checks EvaluateExperiment ExperimentRecords PlanVerification RunModel
  RunSchema

variable {runtime : Runtime} {catalog : Catalog} {plan : ExperimentPlan}
  {attempts : List AttemptWithRun} {coverage : CoverageReport}

/-! ### From the shards to the Run -/

/-- The provider of a row, and what it measured. -/
def contents (row : ProviderRun) : String × List MetricResult := (row.providerId, row.metrics)

lemma contents_modify (rows : List ProviderRun) (i : ℕ) (gap : ResultGap) :
    (rows.modify i fun row => { row with gaps := row.gaps ++ [gap] }).map contents =
      rows.map contents := by
  refine List.ext_getElem? fun j => ?_
  rw [List.getElem?_map, List.getElem?_map, List.getElem?_modify]
  by_cases here : i = j
  · cases rows[j]? <;> simp [here, contents]
  · simp [here]

/-- Rows with some more that measured nothing. -/
def Padded (rows rows' : List ProviderRun) : Prop :=
  ∃ silent, rows'.map contents = rows.map contents ++ silent ∧ ∀ entry ∈ silent, entry.2 = []

/-- Failures without a Run add rows and gaps, and touch no metric. -/
theorem recordFailures_contents {rows rows' : List ProviderRun} {failures : List AttemptWithRun}
    (h : failures.foldlM (recordFailure plan) rows = .ok rows') : Padded rows rows' := by
  refine foldlM_invariant (fun _ seen => Padded rows seen) ⟨[], by simp⟩ ?_ h
  intro pre attempt post seen next _ padded step
  obtain ⟨silent, same, nothing⟩ := padded
  simp only [recordFailure, bind_eq_ok, pure_eq_ok] at step
  obtain ⟨cell, _, rfl⟩ := step
  rw [Padded, contents_modify]
  split
  · exact ⟨silent, same, nothing⟩
  · refine ⟨silent ++ [(cell.provider, [])], ?_, ?_⟩
    · rw [List.map_append, same, List.append_assoc]
      rfl
    · intro entry member
      rcases List.mem_append.mp member with earlier | last
      · exact nothing entry earlier
      · rw [List.mem_singleton.mp last]

/-- The shards of the selected attempts, cut down to what is published, merge to the rows. -/
structure Rendered (runtime : Runtime) (catalog : Catalog) (plan : ExperimentPlan)
    (attempts : List AttemptWithRun) (coverage : CoverageReport) (partly : Bool) (run : Run) :
    Prop where
  shards : ∃ runs merged, ((selectedAttempts runtime attempts coverage partly).filter fun attempt =>
      !(partly && isUnallocatedFailureWithoutRun attempt)).mapM (publishShard plan coverage partly) =
        .ok runs ∧ aggregateRuns runtime catalog runs = .ok merged ∧
      ∃ rows, Padded merged.providers rows ∧ run.providers.Perm rows
  accepted : AcceptedRun catalog run

theorem rendered_of_ok {partly : Bool} {repair : Option ExperimentRepair}
    {unstarted : List UnstartedBatch} {result : ExperimentAggregation} {run : Run}
    (h : renderExperiment runtime catalog plan attempts coverage partly repair unstarted = .ok result)
    (published : result.run = some run) :
    Rendered runtime catalog plan attempts coverage partly run := by
  simp only [renderExperiment, bind_eq_ok] at h
  obtain ⟨runs, shards, merged, merges, rows, recorded, digest, _, h⟩ := h
  have padded := recordFailures_contents recorded
  split at h
  all_goals
    simp only [bind_eq_ok, pure_eq_ok, parseRun_ok_iff] at h
    obtain ⟨_, _, _, ⟨rfl, accepted⟩, rfl⟩ := h
    obtain rfl := Option.some.inj published
    exact ⟨⟨runs, merged, shards, merges, rows, padded, List.perm_insertionSort _ _⟩, accepted⟩

lemma publishShard_ok {partly : Bool} {attempt : AttemptWithRun} {r : Run}
    (h : publishShard plan coverage partly attempt = .ok r) :
    ∃ shard, attempt.run = some shard ∧ r.replicateIndex = shard.replicateIndex ∧
      r.providers = shard.providers.map (publishRow plan partly (cellOf plan attempt.evidence)
        (publishedMetrics coverage partly (cellOf plan attempt.evidence) attempt.evidence)
        (omittedMetrics (publishedMetrics coverage partly (cellOf plan attempt.evidence)
          attempt.evidence) (cellOf plan attempt.evidence))) := by
  simp only [publishShard, bind_eq_ok, require_eq_ok, pure_eq_ok] at h
  obtain ⟨shard, brought, _, _, rfl⟩ := h
  exact ⟨shard, brought, rfl, rfl⟩

lemma mem_publishRow {partly : Bool} {cell : Option ExperimentCell} {eligible omitted : List String}
    {row : ProviderRun} {metric : MetricResult} :
    metric ∈ (publishRow plan partly cell eligible omitted row).metrics ↔
      (∃ own, cell = some own ∧ row.providerId = own.provider) ∧ metric ∈ row.metrics ∧
        metric.metricId ∈ eligible := by
  cases cell with
  | none => simp [publishRow]
  | some own =>
    by_cases ours : row.providerId = own.provider
    · simp [publishRow, ours, List.mem_filter]
    · simp [publishRow, ours]

section
variable {providerId : String}

/-- A Run publishes samples of a metric that is not derived. -/
def Publishes (catalog : Catalog) (run : Run) (providerId metricId : String) (samples : Samples) :
    Prop :=
  ∃ row ∈ run.providers, row.providerId = providerId ∧ ∃ m ∈ row.metrics,
    isDerivedMetric catalog m = false ∧ m.metricId = metricId ∧ samples ∈ samplesOf m

lemma Padded.publishes {merged run : Run} {rows : List ProviderRun}
    (padded : Padded merged.providers rows) (perm : run.providers.Perm rows) {metricId : String}
    {samples : Samples} :
    Publishes catalog run providerId metricId samples ↔
      Publishes catalog merged providerId metricId samples := by
  obtain ⟨silent, same, nothing⟩ := padded
  have byContents : ∀ r : Run, Publishes catalog r providerId metricId samples ↔
      ∃ entry ∈ r.providers.map contents, entry.1 = providerId ∧ ∃ m ∈ entry.2,
        isDerivedMetric catalog m = false ∧ m.metricId = metricId ∧ samples ∈ samplesOf m := by
    intro r
    simp only [Publishes, List.mem_map, contents, exists_exists_and_eq_and]
  rw [byContents, byContents]
  constructor
  · rintro ⟨entry, member, named, m, inside, published⟩
    rw [(perm.map contents).mem_iff, same] at member
    rcases List.mem_append.mp member with merges | pads
    · exact ⟨entry, merges, named, m, inside, published⟩
    · rw [nothing entry pads] at inside
      cases inside
  · rintro ⟨entry, member, published⟩
    refine ⟨entry, ?_, published⟩
    rw [(perm.map contents).mem_iff, same]
    exact List.mem_append_left _ member

lemma listings_runs {runs : List Run} {listing : Listing} :
    listing ∈ listings runtime (slicesOf providerId runs) ↔
      ∃ r ∈ runs, listing ∈ listings runtime (slicesOf providerId [r]) := by
  simp only [listings, slicesOf, List.flatMap_cons, List.flatMap_nil, List.append_nil,
    List.mem_flatMap, List.mem_map]
  constructor
  · rintro ⟨e, ⟨r, hr, row, hrow, rfl⟩, inside⟩
    exact ⟨r, hr, _, ⟨row, hrow, rfl⟩, inside⟩
  · rintro ⟨r, hr, e, ⟨row, hrow, rfl⟩, inside⟩
    exact ⟨_, ⟨r, hr, row, hrow, rfl⟩, inside⟩

/-- What the merged rows publish is what the shards list first. -/
lemma publishes_merged {runs : List Run} {merged : Run}
    (merges : aggregateRuns runtime catalog runs = .ok merged)
    (flat : ∀ listing ∈ listings runtime (slicesOf providerId runs), listing.metric.replicates = none)
    {metricId : String} {samples : Samples} :
    Publishes catalog merged providerId metricId samples ↔
      ∃ index listing, (listings runtime (slicesOf providerId runs)).find?
          (fun l => l.measures catalog metricId && l.replicateIndex == index) = some listing ∧
        listing.metric.samples = samples := by
  obtain ⟨first, emit, providers, merging, rfl⟩ := mergeRuns_ok (mergeRuns_of_aggregateRuns merges)
  constructor
  · rintro ⟨row, hrow, rfl, published⟩
    obtain ⟨id, merge, mixtures, collected, _, rfl⟩ := merging.row hrow
    exact (published_iff collected flat).mp published
  · rintro ⟨index, listing, found, same⟩
    have present : providerId ∈ providerIdsOf runtime runs := by
      obtain ⟨r, hr, inside⟩ := listings_runs.mp (List.mem_of_find?_eq_some found)
      obtain ⟨_, row, hrow, named, _⟩ := mem_listings inside
      rw [providerIdsOf, byLocale, List.mem_insertionSort, Keyed.mem_setOf, ← named]
      exact List.mem_flatMap.mpr ⟨r, hr, List.mem_map_of_mem hrow⟩
    obtain ⟨row, hrow, ok⟩ := mapM_mem merging.rows present
    obtain ⟨merge, mixtures, collected, _, rfl⟩ := mergeProvider_ok ok
    exact ⟨_, hrow, rfl, (published_iff collected flat).mpr ⟨index, listing, found, same⟩⟩

end

/-! ### Publications -/

/-- A shard lists each provider once, and each metric of it once. -/
def ListsOnce (attempts : List AttemptWithRun) : Prop :=
  ∀ attempt ∈ attempts, ∀ run, attempt.run = some run → (run.providers.map (·.providerId)).Nodup ∧
    ∀ row ∈ run.providers, (row.metrics.map (·.metricId)).Nodup

/-- No metric is measured by the cells of two suites. -/
def SuitesApart (plan : ExperimentPlan) : Prop :=
  ∀ c ∈ plan.cells, ∀ d ∈ plan.cells, ∀ metricId ∈ ExperimentCell.eligibleMetrics c,
    metricId ∈ ExperimentCell.eligibleMetrics d → c.suite = d.suite

/-- A shard of the attempts measured a metric for a cell. -/
structure Measures (catalog : Catalog) (attempts : List AttemptWithRun) (cell : ExperimentCell)
    (attempt : AttemptWithRun) (shard : Run) (row : ProviderRun) (metricId : String) : Prop where
  listed : attempt ∈ attempts
  brought : attempt.run = some shard
  accepted : AcceptedRun catalog shard
  replicate : shard.replicateIndex = some cell.replicate
  inShard : row ∈ shard.providers
  own : row.providerId = cell.provider
  eligible : metricId ∈ ExperimentCell.eligibleMetrics cell
  sampled : ∃ metric ∈ row.metrics, metric.metricId = metricId ∧ Sampled catalog cell attempt metric

/-- Which attempt, shard and row hold a metric for a cell. -/
abbrev Holds : Type := ExperimentCell → AttemptWithRun → Run → ProviderRun → String → Prop

/-- What is published of the selected attempts is what is held. -/
structure Selects (runtime : Runtime) (catalog : Catalog) (plan : ExperimentPlan)
    (attempts : List AttemptWithRun) (coverage : CoverageReport) (partly : Bool) (holds : Holds) :
    Prop where
  logical : (plan.cells.map logicalReplicate).Nodup
  sound : ∀ {attempt metricId}, attempt ∈ selectedAttempts runtime attempts coverage partly →
    metricId ∈ publishedMetrics coverage partly (cellOf plan attempt.evidence) attempt.evidence →
      ∃ cell, cellOf plan attempt.evidence = some cell ∧
        ∃ shard row, holds cell attempt shard row metricId
  whole : ∀ {cell attempt shard row metricId}, holds cell attempt shard row metricId →
    attempt ∈ selectedAttempts runtime attempts coverage partly ∧
      cellOf plan attempt.evidence = some cell ∧
      metricId ∈ publishedMetrics coverage partly (some cell) attempt.evidence
  one : ∀ {cell attempt attempt' shard shard' row row' metricId metricId'},
    holds cell attempt shard row metricId → holds cell attempt' shard' row' metricId' →
      attempt = attempt'
  measures : ∀ {cell attempt shard row metricId}, holds cell attempt shard row metricId →
    Measures catalog attempts cell attempt shard row metricId

/-- Samples of a metric that is not derived, held for a cell of the provider. -/
structure HeldSamples (catalog : Catalog) (holds : Holds) (providerId metricId : String)
    (samples : Samples) (cell : ExperimentCell) (attempt : AttemptWithRun) (shard : Run)
    (row : ProviderRun) (metric : MetricResult) : Prop where
  provider : cell.provider = providerId
  held : holds cell attempt shard row metricId
  listed : metric ∈ row.metrics
  named : metric.metricId = metricId
  underived : isDerivedMetric catalog metric = false
  samples : metric.samples = samples
  sampled : Sampled catalog cell attempt metric

theorem HeldSamples.held_by {holds holds' : Holds} {providerId metricId : String} {samples : Samples}
    {cell : ExperimentCell} {attempt : AttemptWithRun} {shard : Run} {row : ProviderRun}
    {metric : MetricResult}
    (kept : HeldSamples catalog holds providerId metricId samples cell attempt shard row metric)
    (held : holds' cell attempt shard row metricId) :
    HeldSamples catalog holds' providerId metricId samples cell attempt shard row metric :=
  ⟨kept.provider, held, kept.listed, kept.named, kept.underived, kept.samples, kept.sampled⟩

/-- Where a measurement of a published shard comes from. -/
structure Origin (holds : Holds) (providerId : String) (listing : Listing) (cell : ExperimentCell)
    (attempt : AttemptWithRun) (shard : Run) (row proven : ProviderRun) : Prop where
  provider : cell.provider = providerId
  held : holds cell attempt shard proven listing.metric.metricId
  replicate : listing.replicateIndex = cell.replicate
  inShard : row ∈ shard.providers
  own : row.providerId = cell.provider
  inside : listing.metric ∈ row.metrics
  single : listing.metric.replicates = none

section
variable {partly : Bool} {run : Run} {providerId : String} {holds : Holds}
  (selects : Selects runtime catalog plan attempts coverage partly holds)
include selects

/-- A measurement of a published shard is of a metric that is held. -/
theorem origin_of_listing {attempt : AttemptWithRun}
    (chosen : attempt ∈ selectedAttempts runtime attempts coverage partly) {r : Run}
    (made : publishShard plan coverage partly attempt = .ok r) {listing : Listing}
    (listed : listing ∈ listings runtime (slicesOf providerId [r])) :
    ∃ cell shard row proven, Origin holds providerId listing cell attempt shard row proven := by
  obtain ⟨index, row', hrow', named, inside⟩ := mem_listings listed
  obtain ⟨shard, brought, sameIndex, providers⟩ := publishShard_ok made
  rw [providers] at hrow'
  obtain ⟨row, hrow, rfl⟩ := List.mem_map.mp hrow'
  obtain ⟨⟨own, found, ours⟩, kept, eligible⟩ := mem_publishRow.mp inside
  obtain ⟨cell, found', run', proven, held⟩ := selects.sound chosen eligible
  obtain rfl := Option.some.inj (found.symm.trans found')
  have measures := selects.measures held
  obtain rfl := Option.some.inj (brought.symm.trans measures.brought)
  have replicate : shard.replicateIndex ≠ none := by simp [measures.replicate]
  refine ⟨own, shard, row, proven, ours.symm.trans named, held, ?_, hrow, ours, kept,
    measures.accepted.shard replicate row hrow listing.metric kept⟩
  rw [index, sameIndex, measures.replicate, Option.getD_some]

/-- What is published of a metric that is not derived are samples that are held. -/
theorem Origin.heldSamples (once : ListsOnce attempts) {listing : Listing} {cell : ExperimentCell}
    {attempt : AttemptWithRun} {shard : Run} {row proven : ProviderRun}
    (origin : Origin holds providerId listing cell attempt shard row proven)
    (underived : isDerivedMetric catalog listing.metric = false) :
    HeldSamples catalog holds providerId listing.metric.metricId listing.metric.samples cell attempt
      shard row listing.metric := by
  have measures := selects.measures origin.held
  obtain ⟨rows, metrics⟩ := once attempt measures.listed shard measures.brought
  obtain rfl : row = proven := List.inj_on_of_nodup_map rows origin.inShard measures.inShard
    (origin.own.trans measures.own.symm)
  obtain ⟨metric, there, same, sampled⟩ := measures.sampled
  obtain rfl := List.inj_on_of_nodup_map (metrics row origin.inShard) there origin.inside same
  exact ⟨origin.provider, origin.held, origin.inside, rfl, underived, rfl, sampled⟩

/-- One replicate of a metric has one origin. -/
theorem Origin.unique (once : ListsOnce attempts) (apart : SuitesApart plan)
    {listing listing' : Listing} {cell cell' : ExperimentCell} {attempt attempt' : AttemptWithRun}
    {shard shard' : Run} {row row' proven proven' : ProviderRun}
    (origin : Origin holds providerId listing cell attempt shard row proven)
    (origin' : Origin holds providerId listing' cell' attempt' shard' row' proven')
    (index : listing.replicateIndex = listing'.replicateIndex)
    (named : listing.metric.metricId = listing'.metric.metricId) :
    listing.metric = listing'.metric := by
  have measures := selects.measures origin.held
  have measures' := selects.measures origin'.held
  have planned := List.mem_of_find?_eq_some (selects.whole origin.held).2.1
  have planned' := List.mem_of_find?_eq_some (selects.whole origin'.held).2.1
  -- a metric of a provider is measured under each replicate by one cell
  obtain rfl : cell = cell' := by
    refine List.inj_on_of_nodup_map selects.logical planned planned' ?_
    have replicate : cell.replicate = cell'.replicate := by
      rw [← origin.replicate, ← origin'.replicate, index]
    have suite := apart cell planned cell' planned' _ measures.eligible (named ▸ measures'.eligible)
    simp only [logicalReplicate, origin.provider, origin'.provider, suite, replicate]
  obtain rfl := selects.one origin.held origin'.held
  obtain rfl := Option.some.inj (measures.brought.symm.trans measures'.brought)
  obtain ⟨rows, metrics⟩ := once attempt measures.listed shard measures.brought
  obtain rfl : row = row' := List.inj_on_of_nodup_map rows origin.inShard origin'.inShard
    (origin.own.trans origin'.own.symm)
  exact List.inj_on_of_nodup_map (metrics row origin.inShard) origin.inside origin'.inside named

/-- Held samples are listed by the shard of their attempt. -/
theorem listing_of_held {runs : List Run}
    (shards : ((selectedAttempts runtime attempts coverage partly).filter fun attempt =>
      !(partly && isUnallocatedFailureWithoutRun attempt)).mapM (publishShard plan coverage partly) =
        .ok runs) {metricId : String} {samples : Samples} {cell : ExperimentCell}
    {attempt : AttemptWithRun} {shard : Run} {row : ProviderRun} {metric : MetricResult}
    (kept : HeldSamples catalog holds providerId metricId samples cell attempt shard row metric) :
    ∃ listing ∈ listings runtime (slicesOf providerId runs), listing.measures catalog metricId = true ∧
      listing.replicateIndex = cell.replicate ∧ listing.metric = metric := by
  obtain ⟨chosen, found, eligible⟩ := selects.whole kept.held
  have measures := selects.measures kept.held
  have brought : isUnallocatedFailureWithoutRun attempt = false := by
    simp [isUnallocatedFailureWithoutRun, measures.brought]
  obtain ⟨r, hr, made⟩ := mapM_mem shards (List.mem_filter.mpr ⟨chosen, by simp [brought]⟩)
  obtain ⟨shard', brought', sameIndex, providers⟩ := publishShard_ok made
  obtain rfl := Option.some.inj (measures.brought.symm.trans brought')
  have inside : metric ∈ (publishRow plan partly (cellOf plan attempt.evidence)
      (publishedMetrics coverage partly (cellOf plan attempt.evidence) attempt.evidence)
      (omittedMetrics (publishedMetrics coverage partly (cellOf plan attempt.evidence)
        attempt.evidence) (cellOf plan attempt.evidence)) row).metrics := by
    rw [mem_publishRow, found, kept.named]
    exact ⟨⟨cell, rfl, measures.own⟩, kept.listed, eligible⟩
  refine ⟨⟨r.replicateIndex.getD 0, observedMixtureIds runtime row.observedSpecs, metric⟩,
    listings_runs.mpr ⟨r, hr, ?_⟩, ?_, ?_, rfl⟩
  · simp only [listings, slicesOf, List.flatMap_cons, List.flatMap_nil, List.append_nil,
      List.mem_flatMap, List.mem_map, List.mem_filter, beq_iff_eq]
    refine ⟨_, ⟨_, ⟨providers ▸ List.mem_map_of_mem measures.inShard, ?_⟩, rfl⟩, metric, inside, rfl⟩
    exact measures.own.trans kept.provider
  · simp [Listing.measures, kept.named, kept.underived]
  · simp [sameIndex, measures.replicate]

/-- A Run rendered of a selection publishes the held samples. -/
theorem Selects.publishes (rendered : Rendered runtime catalog plan attempts coverage partly run)
    (once : ListsOnce attempts) (apart : SuitesApart plan) {metricId : String} {samples : Samples} :
    Publishes catalog run providerId metricId samples ↔ ∃ cell attempt shard row metric,
      HeldSamples catalog holds providerId metricId samples cell attempt shard row metric := by
  obtain ⟨runs, merged, shards, merges, rows, padded, perm⟩ := rendered.shards
  have origins : ∀ listing ∈ listings runtime (slicesOf providerId runs), ∃ cell attempt shard row proven,
      Origin holds providerId listing cell attempt shard row proven := by
    intro listing listed
    obtain ⟨r, hr, inside⟩ := listings_runs.mp listed
    obtain ⟨attempt, kept, made⟩ := mem_mapM shards hr
    obtain ⟨cell, shard, row, proven, origin⟩ :=
      origin_of_listing selects (List.mem_filter.mp kept).1 made inside
    exact ⟨cell, attempt, shard, row, proven, origin⟩
  have flat : ∀ listing ∈ listings runtime (slicesOf providerId runs),
      listing.metric.replicates = none := by
    intro listing listed
    obtain ⟨_, _, _, _, _, origin⟩ := origins listing listed
    exact origin.single
  rw [padded.publishes perm, publishes_merged merges flat]
  constructor
  · rintro ⟨index, listing, found, rfl⟩
    obtain ⟨cell, attempt, shard, row, proven, origin⟩ :=
      origins listing (List.mem_of_find?_eq_some found)
    have measures := List.find?_some found
    simp only [Listing.measures, Bool.and_eq_true, beq_iff_eq, Bool.not_eq_true'] at measures
    obtain ⟨⟨rfl, underived⟩, _⟩ := measures
    exact ⟨cell, attempt, shard, row, _, origin.heldSamples selects once underived⟩
  · rintro ⟨cell, attempt, shard, row, metric, kept⟩
    obtain ⟨listing, listed, measures, replicate, rfl⟩ := listing_of_held selects shards kept
    cases found : (listings runtime (slicesOf providerId runs)).find? fun l =>
        l.measures catalog metricId && l.replicateIndex == cell.replicate with
    | none =>
      have missed := List.find?_eq_none.mp found listing listed
      simp [measures, replicate] at missed
    | some listing' =>
      refine ⟨cell.replicate, listing', found, ?_⟩
      obtain ⟨_, _, _, _, _, origin⟩ := origins listing listed
      obtain ⟨_, _, _, _, _, origin'⟩ := origins listing' (List.mem_of_find?_eq_some found)
      have measures' := List.find?_some found
      simp only [Listing.measures, Bool.and_eq_true, beq_iff_eq, Bool.not_eq_true']
        at measures measures'
      have one := origin.unique selects once apart origin'
        (replicate.trans measures'.2.symm) (measures.1.trans measures'.1.1.symm)
      rw [← one, kept.samples]

end

/-! ### What an attempt retains -/

/-- The last attempt of a cell retains a metric it measured in a sandbox accounted for. -/
structure Retains (runtime : Runtime) (catalog : Catalog) (plan : ExperimentPlan)
    (attempts : List AttemptWithRun) (cell : ExperimentCell) (attempt : AttemptWithRun) (run : Run)
    (row : ProviderRun) (metricId : String) : Prop where
  last : (lineageOf runtime attempts cell).getLast? = some attempt
  lineage : Lineage plan ((lineageOf runtime attempts cell).map (·.evidence))
  confirmed : Confirmed runtime plan cell attempt run row
  eligible : metricId ∈ ExperimentCell.eligibleMetrics cell
  recorded : metricId ∈ recordedOf catalog cell attempt

theorem retains_of_evaluateCell {cell : ExperimentCell} {outcome : CellOutcome} {metricId : String}
    (h : evaluateCell runtime catalog plan attempts cell = .ok outcome)
    (retained : metricId ∈ outcome.cell.retainedMetrics.getD []) :
    ∃ attempt run row, Retains runtime catalog plan attempts cell attempt run row metricId := by
  simp only [evaluateCell] at h
  split at h
  · obtain rfl := Except.ok.inj h
    cases retained
  · simp only [evaluateEligible, bind_eq_ok, pure_eq_ok] at h
    obtain ⟨_, _, _, _, verified, hVerified, rfl⟩ := h
    simp only [Option.getD_some] at retained
    split at retained
    · rename_i both
      rw [Bool.and_eq_true] at both
      obtain ⟨rfl, valid⟩ := both
      obtain ⟨eligible, recorded⟩ := List.mem_filter.mp retained
      cases last : (lineageOf runtime attempts cell).getLast? with
      | none =>
        rw [last] at hVerified
        cases hVerified
      | some attempt =>
        rw [last] at hVerified recorded
        obtain ⟨run, row, confirmed⟩ := confirmed_of_verified hVerified
        exact ⟨attempt, run, row, last, validLineage_iff.mp valid, confirmed, eligible,
          List.contains_iff_mem.mp recorded⟩
    · cases retained

/-- A complete cell retains everything that is eligible. -/
theorem retained_of_settled {cell : ExperimentCell} {outcome : CellOutcome} {metricId : String}
    (h : evaluateCell runtime catalog plan attempts cell = .ok outcome)
    (settled : outcome.cell.settled = true) (eligible : metricId ∈ ExperimentCell.eligibleMetrics cell) :
    metricId ∈ outcome.cell.retainedMetrics.getD [] := by
  have some := List.ne_nil_of_mem eligible
  simp only [evaluateCell, some, if_false, evaluateEligible, bind_eq_ok, pure_eq_ok] at h
  obtain ⟨_, _, _, _, verified, hVerified, rfl⟩ := h
  simp only [CoverageCell.settled, statusOf] at settled
  split at settled
  · cases settled
  · split at settled
    · rename_i completed
      simp only [Bool.and_eq_true, List.isEmpty_iff, List.filter_eq_nil_iff, Bool.not_eq_true',
        Bool.not_eq_false] at completed
      obtain ⟨⟨⟨rfl, all⟩, _⟩, valid⟩ := completed
      simp only [Option.getD_some, valid, Bool.and_true, if_true]
      exact List.mem_filter.mpr ⟨eligible, all metricId eligible⟩
    · split at settled
      · cases settled
      · cases settled

lemma attemptId_of_last {cell : ExperimentCell} {outcome : CellOutcome} {attempt : AttemptWithRun}
    (eligible : ExperimentCell.eligibleMetrics cell ≠ [])
    (last : (lineageOf runtime attempts cell).getLast? = some attempt)
    (h : evaluateCell runtime catalog plan attempts cell = .ok outcome) :
    outcome.cell.attemptId = some attempt.evidence.id := by
  simp only [evaluateCell, eligible, if_false, evaluateEligible, bind_eq_ok, pure_eq_ok] at h
  obtain ⟨_, _, _, _, _, _, rfl⟩ := h
  simp only [last, Option.map_some]

lemma statusOf_ne_excluded (selected : Option AttemptWithRun) (complete : Bool) :
    statusOf selected complete ≠ .excluded := by
  cases selected with
  | none => simp [statusOf]
  | some attempt =>
    simp only [statusOf]
    split
    · simp
    · split
      · simp
      · simp

lemma complete_of_settled {cell : ExperimentCell} {outcome : CellOutcome}
    (eligible : ExperimentCell.eligibleMetrics cell ≠ [])
    (h : evaluateCell runtime catalog plan attempts cell = .ok outcome)
    (settled : outcome.cell.settled = true) : outcome.cell.status = .complete := by
  simp only [evaluateCell, eligible, if_false, evaluateEligible, bind_eq_ok, pure_eq_ok] at h
  obtain ⟨_, _, _, _, verified, _, rfl⟩ := h
  rw [CoverageCell.settled, Bool.or_eq_true, beq_iff_eq, beq_iff_eq] at settled
  rcases settled with complete | excluded
  · exact complete
  · exact absurd excluded (statusOf_ne_excluded _ _)

lemma selected_of_evaluateCell {cell : ExperimentCell} {outcome : CellOutcome} {id : String}
    (h : evaluateCell runtime catalog plan attempts cell = .ok outcome) :
    outcome.selected = some id ↔
      outcome.cell.status = .complete ∧ outcome.cell.attemptId = some id := by
  simp only [evaluateCell] at h
  split at h
  · obtain rfl := Except.ok.inj h
    simp
  · simp only [evaluateEligible, bind_eq_ok, pure_eq_ok] at h
    obtain ⟨_, _, _, _, _, _, rfl⟩ := h
    simp only [ite_eq_iff, reduceCtorEq, and_false, or_false]

/-- Every shard that was evaluated is a valid Run. -/
lemma accepted_of_evaluated
    (evaluated : evaluateExperiment runtime catalog plan attempts = .ok coverage)
    {attempt : AttemptWithRun} (listed : attempt ∈ attempts) {shard : Run}
    (brought : attempt.run = some shard) : AcceptedRun catalog shard := by
  simp only [evaluateExperiment, bind_eq_ok] at evaluated
  obtain ⟨_, _, _, checked, _⟩ := evaluated
  have sorted : attempt ∈ byLocale runtime (·.evidence.id) attempts :=
    (List.perm_insertionSort _ _).mem_iff.mpr listed
  obtain ⟨before, after, step⟩ := foldlM_each checked sorted
  simp only [checkAttempt, bind_eq_ok, brought, forM_eq_ok, Option.mem_toList, pure_eq_ok] at step
  obtain ⟨_, _, _, parses, _⟩ := step
  obtain ⟨_, parsed, _⟩ := parses shard rfl
  exact (parseRun_ok_iff.mp parsed).2

/-- A coverage of the plan, each entry of it evaluated for its cell from some of the attempts. -/
structure Covered (runtime : Runtime) (catalog : Catalog) (plan : ExperimentPlan)
    (attempts : List AttemptWithRun) (coverage : CoverageReport)
    (source : ExperimentCell → ExperimentPlan × List AttemptWithRun) : Prop where
  cells : (plan.cells.map (·.id)).Nodup
  logical : (plan.cells.map logicalReplicate).Nodup
  ids : coverage.cells.map (·.id) = plan.cells.map (·.id)
  entries : ∀ covered ∈ coverage.cells, ∃ cell ∈ plan.cells, ∃ outcome,
    evaluateCell runtime catalog (source cell).1 (source cell).2 cell = .ok outcome ∧
      covered = outcome.cell
  inside : ∀ cell ∈ plan.cells, ∀ attempt ∈ lineageOf runtime (source cell).2 cell,
    attempt ∈ attempts
  selected : ∀ id, id ∈ coverage.selectedAttempts ↔ ∃ covered ∈ coverage.cells,
    covered.status = .complete ∧ covered.attemptId = some id

/-- What a coverage retains for a cell of the plan. -/
structure RetainedFrom (runtime : Runtime) (catalog : Catalog) (plan : ExperimentPlan)
    (coverage : CoverageReport) (source : ExperimentCell → ExperimentPlan × List AttemptWithRun)
    (cell : ExperimentCell) (attempt : AttemptWithRun) (shard : Run) (row : ProviderRun)
    (metricId : String) : Prop where
  planned : cell ∈ plan.cells
  covered : ∃ covered ∈ coverage.cells, covered.id = cell.id ∧
    metricId ∈ covered.retainedMetrics.getD []
  retains : Retains runtime catalog (source cell).1 (source cell).2 cell attempt shard row metricId

section
variable {source : ExperimentCell → ExperimentPlan × List AttemptWithRun}

/-- The entry of a cell, and the cell of an entry. -/
lemma Covered.entry (h : Covered runtime catalog plan attempts coverage source)
    {cell : ExperimentCell} (planned : cell ∈ plan.cells) {covered : CoverageCell}
    (listed : covered ∈ coverage.cells) (same : covered.id = cell.id) : ∃ outcome,
    evaluateCell runtime catalog (source cell).1 (source cell).2 cell = .ok outcome ∧
      covered = outcome.cell := by
  obtain ⟨cell', planned', outcome, made, rfl⟩ := h.entries covered listed
  rw [id_of_evaluateCell made] at same
  obtain rfl := List.inj_on_of_nodup_map h.cells planned' planned same
  exact ⟨outcome, made, rfl⟩

/-- The entry that is read back for the shard of an attempt. -/
lemma Covered.find (h : Covered runtime catalog plan attempts coverage source)
    {covered : CoverageCell} (listed : covered ∈ coverage.cells) {cellId : String}
    (named : cellId = covered.id) :
    (coverage.cells.find? fun entry => entry.id == cellId) = some covered := by
  have distinct : (coverage.cells.map (·.id)).Nodup := h.ids ▸ h.cells
  rw [named]
  exact Keyed.find?_of_nodup distinct listed

lemma cellId_of_last {cell : ExperimentCell} {attempt : AttemptWithRun}
    (last : (lineageOf runtime attempts cell).getLast? = some attempt) :
    attempt.evidence.cellId = cell.id := by
  have inside := (lineageOf_perm runtime attempts cell).mem_iff.mp (List.mem_of_getLast? last)
  exact beq_iff_eq.mp (List.mem_filter.mp inside).2

/-- The selected attempts and metrics are those that the coverage retains. -/
theorem Covered.selects (h : Covered runtime catalog plan attempts coverage source) {partly : Bool}
    (mode : partly = false → coverage.cells.all CoverageCell.settled = true)
    (ids : (attempts.map (·.evidence.id)).Nodup)
    (accepted : ∀ attempt ∈ attempts, ∀ run, attempt.run = some run → AcceptedRun catalog run) :
    Selects runtime catalog plan attempts coverage partly
      (RetainedFrom runtime catalog plan coverage source) := by
  have settles : partly = false → ∀ covered ∈ coverage.cells, covered.settled = true :=
    fun whole => List.all_eq_true.mp (mode whole)
  refine ⟨h.logical, ?_, ?_, ?_, ?_⟩
  · intro attempt metricId chosen published
    obtain ⟨listed, picked⟩ := List.mem_filter.mp ((List.perm_insertionSort _ _).mem_iff.mp chosen)
    rw [List.contains_iff_mem] at picked
    have picks : ∃ covered ∈ coverage.cells, covered.attemptId = some attempt.evidence.id := by
      cases partly with
      | true => simpa [selectedIds, List.mem_filterMap] using picked
      | false =>
        obtain ⟨covered, member, _, same⟩ := (h.selected _).mp picked
        exact ⟨covered, member, same⟩
    obtain ⟨covered, member, same⟩ := picks
    obtain ⟨cell, planned, outcome, made, rfl⟩ := h.entries covered member
    obtain ⟨attempt', last, sameId⟩ := last_of_evaluateCell made (.inl same)
    obtain rfl := List.inj_on_of_nodup_map ids
      (h.inside cell planned attempt' (List.mem_of_getLast? last)) listed sameId
    have found := find_cell h.cells planned (cellId_of_last last)
    refine ⟨cell, found, ?_⟩
    have retained : metricId ∈ outcome.cell.retainedMetrics.getD [] := by
      cases partly with
      | true =>
        have read := h.find member ((cellId_of_last last).trans (id_of_evaluateCell made).symm)
        simpa only [publishedMetrics, if_true, read, Option.bind_some] using published
      | false =>
        have read : cellOf plan attempt'.evidence = some cell := found
        rw [publishedMetrics, read] at published
        exact retained_of_settled made (settles rfl _ member) published
    obtain ⟨attempt, shard, row, retains⟩ := retains_of_evaluateCell made retained
    obtain rfl := Option.some.inj (last.symm.trans retains.last)
    exact ⟨shard, row, planned, ⟨_, member, id_of_evaluateCell made, retained⟩, retains⟩
  · rintro cell attempt shard row metricId ⟨planned, ⟨covered, member, same, retained⟩, retains⟩
    obtain ⟨outcome, made, rfl⟩ := h.entry planned member same
    have eligible := List.ne_nil_of_mem retains.eligible
    have named := cellId_of_last retains.last
    have attemptId := attemptId_of_last eligible retains.last made
    refine ⟨?_, find_cell h.cells planned named, ?_⟩
    · refine (List.perm_insertionSort _ _).mem_iff.mpr (List.mem_filter.mpr
        ⟨h.inside cell planned attempt (List.mem_of_getLast? retains.last), ?_⟩)
      rw [List.contains_iff_mem]
      cases partly with
      | true => exact List.mem_filterMap.mpr ⟨_, member, attemptId⟩
      | false =>
        exact (h.selected _).mpr
          ⟨_, member, complete_of_settled eligible made (settles rfl _ member), attemptId⟩
    · cases partly with
      | true =>
        have read := h.find member (named.trans same.symm)
        simpa only [publishedMetrics, if_true, read, Option.bind_some] using retained
      | false => exact retains.eligible
  · intro cell attempt attempt' shard shard' row row' metricId metricId' held held'
    exact Option.some.inj (held.retains.last.symm.trans held'.retains.last)
  · intro cell attempt shard row metricId held
    have confirmed := held.retains.confirmed
    have listed := h.inside cell held.planned attempt (List.mem_of_getLast? held.retains.last)
    exact ⟨listed, confirmed.brought, accepted attempt listed shard confirmed.brought,
      confirmed.replicate, confirmed.listed, confirmed.own, held.retains.eligible,
      confirmed.sampled held.retains.eligible held.retains.recorded⟩

end

/-! ### A publication of one experiment -/

/-- What the evaluation of an experiment retains. -/
abbrev Retained (runtime : Runtime) (catalog : Catalog) (plan : ExperimentPlan)
    (attempts : List AttemptWithRun) (coverage : CoverageReport) : Holds :=
  RetainedFrom runtime catalog plan coverage fun _ => (plan, attempts)

theorem covered_of_evaluated
    (evaluated : evaluateExperiment runtime catalog plan attempts = .ok coverage) :
    Covered runtime catalog plan attempts coverage fun _ => (plan, attempts) := by
  have ids := (RepairExperiment.evaluated_of_ok evaluated).ids
  simp only [evaluateExperiment, bind_eq_ok, pure_eq_ok] at evaluated
  obtain ⟨accepted, verified, seen, checked, outcomes, returns, rfl⟩ := evaluated
  have rules := PlanAcceptance.cellRules_of_ok verified
  obtain rfl := (PlanSchedule.verified_of_ok verified).1
  refine ⟨rules.ids, rules.logical, ids, ?_, ?_, ?_⟩
  · intro covered listed
    obtain ⟨outcome, member, rfl⟩ := List.mem_map.mp listed
    obtain ⟨cell, planned, made⟩ := mem_mapM returns member
    exact ⟨cell, planned, outcome, made, rfl⟩
  · intro cell _ attempt inside
    exact RepairExperiment.mem_lineageOf inside
  · intro id
    simp only [List.mem_filterMap, List.mem_map, exists_exists_and_eq_and]
    refine exists_congr fun outcome => and_congr_right fun member => ?_
    obtain ⟨cell, _, made⟩ := mem_mapM returns member
    exact selected_of_evaluateCell made

/-- How a Run came to be published. -/
structure Publication (runtime : Runtime) (catalog : Catalog) (plan : ExperimentPlan)
    (attempts : List AttemptWithRun) (coverage : CoverageReport) (partly : Bool) (run : Run) :
    Prop where
  evaluated : evaluateExperiment runtime catalog plan attempts = .ok coverage
  settled : partly = false → coverage.cells.all CoverageCell.settled = true
  admitted : Admitted runtime catalog plan attempts
  rendered : Rendered runtime catalog plan attempts coverage partly run

lemma clean_of_complete
    (evaluated : evaluateExperiment runtime catalog plan attempts = .ok coverage)
    (complete : coverage.complete = true) :
    coverage.conflicts = [] ∧ coverage.cells.all CoverageCell.settled = true := by
  simp only [evaluateExperiment, bind_eq_ok, pure_eq_ok] at evaluated
  obtain ⟨_, _, _, _, _, _, rfl⟩ := evaluated
  rwa [Bool.and_eq_true, List.isEmpty_iff] at complete

theorem publication_of_ok {allowPartial : Bool} {result : ExperimentAggregation} {run : Run}
    (h : aggregateExperiment runtime catalog plan attempts allowPartial = .ok result)
    (published : result.run = some run) :
    ∃ partly, Publication runtime catalog plan attempts result.coverage partly run := by
  simp only [aggregateExperiment, bind_eq_ok] at h
  obtain ⟨coverage, evaluated, _, _, h⟩ := h
  split at h
  · obtain rfl := Except.ok.inj h
    cases published
  · rename_i publishable
    rw [not_and_or, not_or, not_not, Bool.not_eq_false] at publishable
    have same := RepairExperiment.coverage_of_render h
    subst same
    refine ⟨_, evaluated, ?_, ?_, rendered_of_ok h published⟩
    · intro whole
      rcases publishable with complete | ⟨partly, _⟩
      · exact (clean_of_complete evaluated complete).2
      · rw [whole] at partly
        exact absurd rfl partly
    · rw [← conflicts_eq_nil_iff evaluated]
      rcases publishable with complete | ⟨_, clean⟩
      · exact (clean_of_complete evaluated complete).1
      · simp only [partialPublicationBlockers, List.append_eq_nil_iff, lineIf_eq_nil,
          Bool.not_eq_false', List.isEmpty_iff] at clean
        exact clean.1.1.1

/-- The samples that are published are those that were retained: of a complete experiment every
measurement of every cell, of a partial one those that the evaluation has verified. -/
theorem aggregateExperiment_samples {allowPartial : Bool} {result : ExperimentAggregation} {run : Run}
    (h : aggregateExperiment runtime catalog plan attempts allowPartial = .ok result)
    (published : result.run = some run) (once : ListsOnce attempts) (apart : SuitesApart plan)
    (providerId metricId : String) (samples : Samples) :
    Publishes catalog run providerId metricId samples ↔ ∃ cell attempt shard row metric,
      HeldSamples catalog (Retained runtime catalog plan attempts result.coverage) providerId
        metricId samples cell attempt shard row metric := by
  obtain ⟨partly, publication⟩ := publication_of_ok h published
  have covered := covered_of_evaluated publication.evaluated
  have selects := covered.selects publication.settled publication.admitted.ids
    fun attempt listed run brought => accepted_of_evaluated publication.evaluated listed brought
  exact selects.publishes publication.rendered once apart

lemma publishes_of_contents {run : Run}
    (rows : run.providers.map (fun row => (row.providerId, row.metrics)) =
      [("e2b", measuredRow.metrics)]) :
    Publishes measuredCatalog run "e2b" "m" ⟨[3, 4], by decide⟩ := by
  have inside : ("e2b", measuredRow.metrics) ∈
      run.providers.map fun row => (row.providerId, row.metrics) := by
    rw [rows]
    exact List.mem_cons_self
  obtain ⟨row, hrow, same⟩ := List.mem_map.mp inside
  obtain ⟨named, metrics⟩ := Prod.mk.inj same
  refine ⟨row, hrow, named, ?_⟩
  rw [metrics]
  exact ⟨_, List.mem_cons_self, by decide, rfl, List.mem_cons_self⟩

/-- The two trials of the retry. -/
theorem aggregateExperiment_samples_sample : ∃ result run,
    aggregateExperiment naming measuredCatalog measuredPlan measuredAttempts false = .ok result ∧
      result.run = some run ∧ ∃ cell attempt shard row metric,
        HeldSamples measuredCatalog
          (Retained naming measuredCatalog measuredPlan measuredAttempts result.coverage) "e2b" "m"
          ⟨[3, 4], by decide⟩ cell attempt shard row metric := by
  obtain ⟨result, run, aggregated, published, rows⟩ := measured_result
  refine ⟨result, run, aggregated, published, ?_⟩
  have once : ListsOnce measuredAttempts := by
    intro attempt listed shard brought
    rcases List.mem_cons.mp listed with rfl | listed
    · obtain rfl := Option.some.inj brought
      decide
    · rw [List.mem_singleton.mp listed] at brought
      cases brought
  have apart : SuitesApart measuredPlan := by
    intro c hc d hd _ _ _
    rw [List.mem_singleton.mp hc, List.mem_singleton.mp hd]
  exact (aggregateExperiment_samples aggregated published once apart "e2b" "m" _).mp
    (publishes_of_contents rows)

end PublishExperiment
