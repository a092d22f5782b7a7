import SandboxBenchmarks.Library.Grouping
import SandboxBenchmarks.AggregateVerdict

/-!
# Merged rows

A row merged from slices that the schema accepted. The folds build what the schema
asks for, except that gaps are keyed by a text that joins their parts, and two
different gaps can share it.
-/

namespace Aggregate

open CanonicalJson Checks JsonText PlanVerification RunModel RunSchema

variable {runtime : Runtime} {catalog : Catalog}

/-! ### Slices of shards -/

/-- Slices as a normalized shard holds them. -/
structure Emitted (catalog : Catalog) (entries : List ReplicateSlice) : Prop where
  accepted : ∀ e ∈ entries, AcceptedRow catalog e.slice
  unmerged : ∀ e ∈ entries, e.slice.observedMixtures = none
  unfolded : ∀ e ∈ entries, ∀ m ∈ e.slice.metrics, m.replicates = none
  judged : ∀ e ∈ entries, e.slice.specMatched = computeSpecMatched e.slice.observedSpecs

section
variable {entries : List ReplicateSlice}

/-- Both ids, where there are any, name mixtures of the row. -/
structure IdsResolve (mixtures : Option ObservedMixtures) (ids : ObservedMixtureIds) : Prop where
  hardware : Resolves (hardwareOf mixtures) ids.hostHardwareId
  network : Resolves (networkOf mixtures) ids.hostNetworkId

lemma checkIds_iff {mixtures : Option ObservedMixtures} {holder name : String}
    {ids : ObservedMixtureIds} {u : Unit} :
    checkIds mixtures holder name ids = .ok u ↔ IdsResolve mixtures ids := by
  rw [checkIds_ok_iff]
  exact ⟨fun h => ⟨h.1, h.2⟩, fun h => ⟨h.hardware, h.network⟩⟩

lemma checkMetricIds_iff {mixtures : Option ObservedMixtures} {m : MetricResult} :
    checkMetricIds mixtures m = .ok () ↔
      IdsResolve mixtures m.ids ∧ ∀ r ∈ m.replicates.getD [], IdsResolve mixtures r.ids := by
  simp only [checkMetricIds, bind_eq_ok, checkIds_iff, forM_eq_ok, exists_const]

lemma IdsResolve.of_none {mixtures : Option ObservedMixtures} :
    IdsResolve mixtures ⟨none, none⟩ := ⟨nofun, nofun⟩

lemma IdsResolve.nothing {ids : ObservedMixtureIds} (h : IdsResolve none ids) :
    ids = ⟨none, none⟩ := by
  obtain ⟨hardware, network⟩ := ids
  obtain ⟨hw, net⟩ := h
  cases hardware with
  | some k => exact absurd (hw k rfl) List.not_mem_nil
  | none =>
    cases network with
    | some k => exact absurd (net k rfl) List.not_mem_nil
    | none => rfl

/-- Without mixtures there is nothing for a metric of a shard to point at. -/
lemma Emitted.unattributed (emitted : Emitted catalog entries) {e : ReplicateSlice}
    (he : e ∈ entries) {m : MetricResult} (hm : m ∈ e.slice.metrics) : m.ids = ⟨none, none⟩ := by
  have ids := (emitted.accepted e he).metricIds m hm
  rw [emitted.unmerged e he, checkMetricIds_iff] at ids
  exact ids.1.nothing

lemma Emitted.unattributed_host (emitted : Emitted catalog entries) {e : ReplicateSlice}
    (he : e ∈ entries) {r : HostMetadataRecord} (hr : r ∈ e.slice.hostMetadata.getD []) :
    r.ids = ⟨none, none⟩ := by
  have ids := (emitted.accepted e he).hostIds r hr
  rw [emitted.unmerged e he, checkIds_iff] at ids
  exact ids.nothing

/-! ### Measured metrics -/

/-- A contribution of some slice: a metric it measured, under its own mixture ids. -/
structure Contributed (runtime : Runtime) (catalog : Catalog) (e : ReplicateSlice)
    (c : ReplicateContribution) : Prop where
  metric : c.metric ∈ e.slice.metrics
  ids : c.ids = observedMixtureIds runtime e.slice.observedSpecs
  underived : isDerivedMetric catalog c.metric = false

lemma contributed_of_filed {byMetric : List (String × ByReplicate)}
    (measured : Measured catalog (listings runtime entries) byMetric) {metricId : String}
    {byReplicate : ByReplicate} (filed : (metricId, byReplicate) ∈ byMetric) {index : Nat}
    {c : ReplicateContribution} (hc : (index, c) ∈ byReplicate) :
    ∃ e ∈ entries, Contributed runtime catalog e c := by
  have found := Keyed.get?_of_mem measured.nodup filed
  have first := measured.first metricId index
  rw [contributed, found, Option.getD_some,
    Keyed.get?_of_mem (measured.inner _ _ found).1 hc, eq_comm, Option.map_eq_some_iff] at first
  obtain ⟨l, hl, rfl⟩ := first
  obtain ⟨e, he, listed⟩ := List.mem_flatMap.mp (List.mem_of_find?_eq_some hl)
  obtain ⟨m, hm, rfl⟩ := List.mem_map.mp listed
  have measures := List.find?_some hl
  simp only [Listing.measures, Bool.and_eq_true, Bool.not_eq_true'] at measures
  exact ⟨e, he, hm, rfl, measures.1.2⟩

/-- What several replicates of a metric are pooled into. -/
def pooledMetric (first : Nat × ReplicateContribution) (rest : ByReplicate) : MetricResult :=
  let samples := pooled (replicateOf first) (rest.map replicateOf)
  { first.2.metric with
    samples := samples
    aggregates := aggregate samples
    ptsSampleSource := none
    replicates := some ((first :: rest).map replicateOf) }

lemma mergeMetricReplicates_some {byReplicate : ByReplicate} {m : MetricResult}
    (h : mergeMetricReplicates byReplicate = some m) :
    (∃ only, only ∈ byReplicate ∧
      m = { only.2.metric with ids := only.2.ids.over only.2.metric.ids }) ∨
    ∃ first rest, (first :: rest).Perm byReplicate ∧ rest ≠ [] ∧ m = pooledMetric first rest := by
  have perm := List.perm_insertionSort (fun a b : Nat × ReplicateContribution => a.1 ≤ b.1) byReplicate
  unfold mergeMetricReplicates at h
  split at h
  · cases h
  · rename_i index only sorted
    rw [sorted] at perm
    exact Or.inl ⟨_, perm.mem_iff.mp List.mem_cons_self, (Option.some.inj h).symm⟩
  · rename_i first rest several sorted
    rw [sorted] at perm
    refine Or.inr ⟨first, rest, perm, several _ _ rfl, (Option.some.inj h).symm⟩

/-- A row's metrics: merged replicates of something measured, or economics derived again. -/
lemma metricId_of_mem_deriveEconomics {hourly : Option ℚ} {measured : List MetricResult}
    {m : MetricResult} (h : m ∈ deriveEconomics hourly measured) :
    m.metricId = "usd_per_hour" ∨ m.metricId = "usd_per_lifecycle" := by
  unfold deriveEconomics at h
  split at h
  · cases h
  · rcases List.mem_cons.mp h with rfl | h
    · exact Or.inl rfl
    · split at h
      · cases h
      · exact Or.inr (congrArg MetricResult.metricId (List.mem_singleton.mp h))

lemma mem_publishedMetrics {providerId : String} {targetSpec : TargetSpec}
    {measured : List MetricResult} {m : MetricResult}
    (h : m ∈ publishedMetrics runtime catalog providerId targetSpec measured) :
    m ∈ measured ∨ ∃ metricId value, m = economicsResult metricId value := by
  simp only [publishedMetrics, byLocale, List.mem_insertionSort, List.mem_append] at h
  rcases h with h | h
  · exact Or.inl h
  · right
    split at h
    · cases h
    · unfold deriveEconomics at h
      split at h
      · cases h
      · rcases List.mem_cons.mp h with rfl | h
        · exact ⟨_, _, rfl⟩
        · split at h
          · cases h
          · exact ⟨_, _, List.mem_singleton.mp h⟩

/-- A metric of a merged row is one a slice measured, its replicates pooled, or derived. -/
inductive Published (runtime : Runtime) (catalog : Catalog) (entries : List ReplicateSlice) :
    MetricResult → Prop
  | single (e : ReplicateSlice) (he : e ∈ entries) (c : ReplicateContribution)
      (from_slice : Contributed runtime catalog e c) :
      Published runtime catalog entries { c.metric with ids := c.ids.over c.metric.ids }
  | pooled (first : Nat × ReplicateContribution) (rest : ByReplicate) (several : rest ≠ [])
      (distinct : ((first :: rest).map Prod.fst).Nodup)
      (from_slices : ∀ c ∈ first :: rest, ∃ e ∈ entries, Contributed runtime catalog e c.2) :
      Published runtime catalog entries (pooledMetric first rest)
  | derived (metricId : String) (value : ℚ) :
      Published runtime catalog entries (economicsResult metricId value)

theorem published_of_mem {merge : Merge} (collected : Collected runtime catalog entries merge)
    {providerId : String} {targetSpec : TargetSpec} {m : MetricResult}
    (h : m ∈ publishedMetrics runtime catalog providerId targetSpec
      (merge.byMetric.filterMap (fun entry => mergeMetricReplicates entry.2))) :
    Published runtime catalog entries m := by
  have measured : Measured catalog (listings runtime entries) _ := measured_run _
  rw [← collected.byMetric] at measured
  rcases mem_publishedMetrics h with h | ⟨metricId, value, rfl⟩
  · obtain ⟨⟨metricId, byReplicate⟩, filed, merged⟩ := List.mem_filterMap.mp h
    rcases mergeMetricReplicates_some merged with ⟨⟨index, c⟩, hc, rfl⟩ |
      ⟨first, rest, perm, several, rfl⟩
    · obtain ⟨e, he, from_slice⟩ := contributed_of_filed measured filed hc
      exact .single e he c from_slice
    · refine .pooled first rest several ?_ ?_
      · rw [(perm.map Prod.fst).nodup_iff]
        exact (measured.inner _ _ (Keyed.get?_of_mem measured.nodup filed)).1
      · rintro ⟨index, c⟩ hc
        exact contributed_of_filed measured filed (perm.mem_iff.mp hc)
  · exact .derived metricId value

lemma over_none (ids : ObservedMixtureIds) : ids.over ⟨none, none⟩ = ids := by
  simp [ObservedMixtureIds.over]

/-- A metric of a shard that is measured, and how the schema accepted it. -/
lemma Contributed.accepted (emitted : Emitted catalog entries) {e : ReplicateSlice}
    (he : e ∈ entries) {c : ReplicateContribution} (h : Contributed runtime catalog e c) :
    AcceptedMetric c.metric ∧ c.metric.replicates = none ∧ c.metric.ids = ⟨none, none⟩ ∧
      c.metric.derived = false := by
  refine ⟨metricResultSchema_ok_iff.mp ((emitted.accepted e he).metrics _ h.metric),
    emitted.unfolded e he _ h.metric, emitted.unattributed he h.metric, ?_⟩
  have underived := h.underived
  simp only [isDerivedMetric, Bool.or_eq_false_iff] at underived
  exact underived.1

theorem Published.accepted (emitted : Emitted catalog entries) {m : MetricResult}
    (h : Published runtime catalog entries m) : AcceptedMetric m := by
  cases h with
  | derived metricId value =>
    constructor
    all_goals simp [economicsResult, aggregate]
  | single e he c from_slice =>
    obtain ⟨accepted, whole, _, underived⟩ := from_slice.accepted emitted he
    refine ⟨accepted.count, accepted.single, fun _ => ⟨underived, whole⟩, fun _ => underived, ?_, ?_⟩
    · exact fun folded => absurd whole folded
    · intro l folded
      cases whole.symm.trans folded
  | pooled first rest several distinct from_slices =>
    obtain ⟨e, he, from_slice⟩ := from_slices first List.mem_cons_self
    obtain ⟨_, _, unattributed, underived⟩ := from_slice.accepted emitted he
    refine ⟨rfl, nofun, nofun, fun _ => underived, fun _ => unattributed, ?_⟩
    rintro _ ⟨rfl⟩
    refine ⟨?_, ?_, ?_, ?_⟩
    · have := List.length_pos_of_ne_nil several
      simp only [List.length_map, List.length_cons]
      omega
    · simpa [replicateOf, Function.comp_def] using distinct
    · intro r hr
      obtain ⟨c, hc, rfl⟩ := List.mem_map.mp hr
      obtain ⟨e, he, from_slice⟩ := from_slices c hc
      exact (from_slice.accepted emitted he).1.single
    · exact .refl _

/-! ### Ids -/

section
variable {mixtures : Option ObservedMixtures}

/-- The ids of a slice that reported anything name mixtures of the merged row. -/
lemma reported_resolve (built : buildObservedMixtures runtime (sandboxReadings entries) = .ok mixtures)
    {e : ReplicateSlice} (he : e ∈ entries) (reported : providerReportedNothing e.slice = false) :
    IdsResolve mixtures (observedMixtureIds runtime e.slice.observedSpecs) := by
  have reading : e.slice.observedSpecs ∈ sandboxReadings entries := by
    refine List.mem_map.mpr ⟨e, List.mem_filter.mpr ⟨he, ?_⟩, rfl⟩
    simp [reported]
  cases mixtures with
  | none =>
    rw [buildObservedMixtures_none built] at reading
    cases reading
  | some mixtures =>
    obtain ⟨hardware, network⟩ := ids_resolve built reading
    exact ⟨resolves_eq_true.mp hardware, resolves_eq_true.mp network⟩

lemma reported_of_metric {p : ProviderRun} {m : MetricResult} (h : m ∈ p.metrics) :
    providerReportedNothing p = false := by
  have measured : p.metrics.isEmpty = false := List.isEmpty_eq_false_iff.mpr (List.ne_nil_of_mem h)
  simp [providerReportedNothing, measured]

lemma reported_of_host {p : ProviderRun} {r : HostMetadataRecord}
    (h : r ∈ p.hostMetadata.getD []) : providerReportedNothing p = false := by
  have attributed : (p.hostMetadata.getD []).isEmpty = false :=
    List.isEmpty_eq_false_iff.mpr (List.ne_nil_of_mem h)
  simp [providerReportedNothing, attributed]

lemma Contributed.resolve
    (built : buildObservedMixtures runtime (sandboxReadings entries) = .ok mixtures)
    {e : ReplicateSlice} (he : e ∈ entries) {c : ReplicateContribution}
    (h : Contributed runtime catalog e c) : IdsResolve mixtures c.ids := by
  rw [h.ids]
  exact reported_resolve built he (reported_of_metric h.metric)

theorem Published.resolve (emitted : Emitted catalog entries)
    (built : buildObservedMixtures runtime (sandboxReadings entries) = .ok mixtures)
    {m : MetricResult} (h : Published runtime catalog entries m) :
    IdsResolve mixtures m.ids ∧ ∀ r ∈ m.replicates.getD [], IdsResolve mixtures r.ids := by
  cases h with
  | derived metricId value => exact ⟨.of_none, fun r hr => absurd hr List.not_mem_nil⟩
  | single e he c from_slice =>
    obtain ⟨_, whole, unattributed, _⟩ := from_slice.accepted emitted he
    refine ⟨?_, ?_⟩
    · show IdsResolve mixtures (c.ids.over c.metric.ids)
      rw [unattributed, over_none]
      exact from_slice.resolve built he
    · intro r hr
      rw [show ({ c.metric with ids := c.ids.over c.metric.ids } : MetricResult).replicates =
        none from whole] at hr
      cases hr
  | pooled first rest several distinct from_slices =>
    obtain ⟨e, he, from_slice⟩ := from_slices first List.mem_cons_self
    obtain ⟨_, _, unattributed, _⟩ := from_slice.accepted emitted he
    refine ⟨?_, ?_⟩
    · rw [show (pooledMetric first rest).ids = ⟨none, none⟩ from unattributed]
      exact .of_none
    · intro r hr
      obtain ⟨c, hc, rfl⟩ := List.mem_map.mp hr
      obtain ⟨e, he, from_slice⟩ := from_slices c hc
      exact from_slice.resolve built he

lemma foldHostRecord_ids {byKey : List (String × HostMetadataRecord)}
    {input : HostMetadataRecordInput} {entry : String × HostMetadataRecord}
    (h : entry ∈ foldHostRecord runtime byKey input) :
    entry.2.ids = input.ids.over input.record.ids ∨ ∃ e ∈ byKey, entry.2.ids = e.2.ids := by
  simp only [foldHostRecord] at h
  split at h
  · rename_i existing found
    rcases Keyed.mem_set h with rfl | earlier
    · exact Or.inr ⟨_, Keyed.mem_of_get? found, rfl⟩
    · exact Or.inr ⟨entry, earlier, rfl⟩
  · rcases Keyed.mem_set h with rfl | earlier
    · exact Or.inl rfl
    · exact Or.inr ⟨entry, earlier, rfl⟩

/-- Every folded record carries the ids of one of those given. -/
lemma mem_foldHostMetadata {inputs : List HostMetadataRecordInput} {r : HostMetadataRecord}
    (h : r ∈ foldHostMetadata runtime inputs) :
    ∃ input ∈ inputs, r.ids = input.ids.over input.record.ids := by
  have key : ∀ (inputs : List HostMetadataRecordInput) (byKey : List (String × HostMetadataRecord)),
      ∀ entry ∈ inputs.foldl (foldHostRecord runtime) byKey,
        (∃ input ∈ inputs, entry.2.ids = input.ids.over input.record.ids) ∨
          ∃ e ∈ byKey, entry.2.ids = e.2.ids := by
    intro inputs
    induction inputs with
    | nil => exact fun byKey entry hentry => Or.inr ⟨entry, hentry, rfl⟩
    | cons input inputs ih =>
      intro byKey entry hentry
      rcases ih _ entry hentry with ⟨later, hlater, ids⟩ | ⟨e, he, ids⟩
      · exact Or.inl ⟨later, List.mem_cons_of_mem _ hlater, ids⟩
      · rcases foldHostRecord_ids he with now | ⟨d, hd, same⟩
        · exact Or.inl ⟨input, List.mem_cons_self, ids.trans now⟩
        · exact Or.inr ⟨d, hd, ids.trans same⟩
  obtain ⟨entry, hentry, rfl⟩ := List.mem_map.mp h
  rcases key inputs [] entry hentry with folded | ⟨e, he, _⟩
  · exact folded
  · cases he

theorem hostMetadata_resolve (emitted : Emitted catalog entries)
    (built : buildObservedMixtures runtime (sandboxReadings entries) = .ok mixtures)
    {r : HostMetadataRecord}
    (h : r ∈ foldHostMetadata runtime (entries.flatMap (fun e => hostMetadataOf runtime e.slice))) :
    IdsResolve mixtures r.ids := by
  obtain ⟨input, hinput, ids⟩ := mem_foldHostMetadata h
  obtain ⟨e, he, listed⟩ := List.mem_flatMap.mp hinput
  obtain ⟨record, hrecord, rfl⟩ := List.mem_map.mp listed
  rw [ids, emitted.unattributed_host he hrecord, over_none]
  exact reported_resolve built he (reported_of_host hrecord)

end

/-! ### Verdicts -/

lemma dominant_ne_nil {category : List (String × Nat × ObservedSpecs)} (nonempty : category ≠ [])
    (disclosed : ∀ e ∈ category, e.2.2 ≠ []) : dominant category ≠ [] := by
  have perm := List.perm_insertionSort
    (fun a b : String × Nat × ObservedSpecs => byDominance (a.1, a.2.1) (b.1, b.2.1)) category
  unfold dominant
  split
  · rename_i empty
    rw [empty] at perm
    exact absurd perm.nil_eq.symm nonempty
  · rename_i id count specs rest sorted
    rw [sorted] at perm
    exact disclosed (id, count, specs) (perm.mem_iff.mp List.mem_cons_self)

lemma foldl_set_ne_nil {specs entries : ObservedSpecs} (h : specs ≠ []) :
    entries.foldl (fun specs entry => Keyed.set specs entry.1 entry.2) specs ≠ [] := by
  induction entries generalizing specs with
  | nil => exact h
  | cons entry entries ih =>
    refine ih ?_
    intro empty
    have keys := Keyed.keys_set specs entry.1 entry.2
    rw [show Keyed.set specs entry.1 entry.2 = [] from empty, eq_comm] at keys
    exact absurd (Keyed.mem_add.mpr (Or.inr rfl)) (List.eq_nil_iff_forall_not_mem.mp keys entry.1)

/-- A machine judged at all has a mixture, and the row publishes the specs of the commonest. -/
lemma representativeSpecs_ne_nil {readings : List ObservedSpecs} {mixtures : ObservedMixtures}
    (built : buildObservedMixtures runtime readings = .ok (some mixtures)) {r : ObservedSpecs}
    (hr : r ∈ readings) {verdict : Bool} (judged : computeSpecMatched r = some verdict) :
    representativeSpecs mixtures ≠ [] := by
  obtain ⟨_, hardware, network, hw, _, rfl⟩ := buildObservedMixtures_some built
  obtain ⟨entry, hentry, _⟩ := (tallyCategory_specs hw _).mpr ⟨vcpus_disclosed judged, r, hr, rfl⟩
  refine foldl_set_ne_nil (dominant_ne_nil ?_ ?_)
  · exact List.ne_nil_of_mem (List.mem_map_of_mem (List.mem_map_of_mem hentry))
  · rintro e he
    obtain ⟨mixture, hmixture, rfl⟩ := List.mem_map.mp he
    obtain ⟨t, ht, rfl⟩ := List.mem_map.mp hmixture
    have disclosed := ((tallyCategory_sound hw).entry t ht).2
    simp only [mixtureSpecs, Bool.and_eq_true, Bool.not_eq_true', List.isEmpty_eq_false_iff]
      at disclosed
    exact disclosed.2

lemma judged_of_mixture {readings : List ObservedSpecs} {mixtures : Option ObservedMixtures}
    (built : buildObservedMixtures runtime readings = .ok mixtures)
    {e : String × ObservedHardwareMixture} (he : e ∈ hardwareOf mixtures)
    (verdict : e.2.specMatched ≠ none) : ∃ r ∈ readings, computeSpecMatched r ≠ none := by
  cases mixtures with
  | none => cases he
  | some mixtures =>
    obtain ⟨_, hardware, network, hw, _, rfl⟩ := buildObservedMixtures_some built
    obtain ⟨entry, hentry, rfl⟩ := List.mem_map.mp he
    obtain ⟨_, r, hr, specs⟩ := (tallyCategory_specs hw entry.2.specs).mp ⟨entry, hentry, rfl⟩
    refine ⟨r, hr, ?_⟩
    rw [← computeSpecMatched_category, specs]
    exact verdict

/-- A merged verdict stands on a machine that some sandbox disclosed. -/
theorem mergedVerdict_disclosed (emitted : Emitted catalog entries)
    {mixtures : Option ObservedMixtures}
    (built : buildObservedMixtures runtime (sandboxReadings entries) = .ok mixtures)
    (verdict : foldMixtures ((verdictsOf entries).foldl foldVerdict none) mixtures ≠ none) :
    (mixtures.map representativeSpecs).getD [] ≠ [] := by
  have judged : ∃ r ∈ sandboxReadings entries, computeSpecMatched r ≠ none := by
    rw [foldMixtures, ← List.foldl_map, foldVerdicts_ne_none, foldVerdicts_ne_none] at verdict
    rcases verdict with (unjudged | ⟨v, hv, some⟩) | ⟨v, hv, some⟩
    · exact absurd rfl unjudged
    · obtain ⟨e, he, rfl⟩ := List.mem_map.mp hv
      rw [emitted.judged e he] at some
      refine ⟨_, List.mem_map.mpr ⟨e, List.mem_filter.mpr ⟨he, ?_⟩, rfl⟩, some⟩
      cases specs : e.slice.observedSpecs with
      | nil =>
        rw [specs] at some
        exact absurd rfl some
      | cons s rest => simp [providerReportedNothing, specs]
    · obtain ⟨e, he, rfl⟩ := List.mem_map.mp hv
      exact judged_of_mixture built he some
  obtain ⟨r, hr, some⟩ := judged
  obtain ⟨v, hv⟩ := Option.ne_none_iff_exists'.mp some
  cases mixtures with
  | none =>
    rw [buildObservedMixtures_none built] at hr
    cases hr
  | some mixtures => exact representativeSpecs_ne_nil built hr hv

/-! ### Gaps -/

/-- Under every key, the least cause describes the outcome of the gap listed first. -/
def CausesFit (runtime : Runtime) (gaps : List ResultGap) : Prop :=
  ∀ k first cause, (classOf k gaps).head? = some first →
    LeastCause runtime (classOf k gaps) cause → gapOutcomeOfCause cause = first.outcome

/-- What the schema asks of a gap that names a cause. -/
structure AcceptedCause (gap : ResultGap) (cause : GapCause) : Prop where
  wellFormed : gapCauseSchema cause = true
  numbers : checkCause cause = .ok ()
  outcome : gapOutcomeOfCause cause = gap.outcome
  operation : cause.kind = "unsupported-operation" → gap.scope = .operation

lemma resultGapSchema_ok_iff {gap : ResultGap} :
    resultGapSchema gap = .ok () ↔ ∀ cause, gap.cause = some cause → AcceptedCause gap cause := by
  unfold resultGapSchema
  cases gap.cause with
  | none => exact ⟨fun _ => nofun, fun _ => rfl⟩
  | some cause =>
    simp only [bind_eq_ok, throwIf_eq_ok, exists_const, Bool.not_eq_false, not_not, not_and, ne_eq,
      Option.some.injEq, forall_eq']
    constructor
    · rintro ⟨wellFormed, _, numbers, outcome, operation⟩
      exact ⟨wellFormed, numbers, outcome, operation⟩
    · intro h
      exact ⟨h.wellFormed, (), h.numbers, h.outcome, h.operation⟩

lemma gapKey_chars (gap : ResultGap) : (gapKey gap).toList =
    gap.scope.text.toList ++ '\x00' :: (gap.id.toList ++
      '\x00' :: (gap.outcome.text.toList ++ '\x00' :: gap.reason.toList)) := by
  have joined : gapKey gap = gap.scope.text ++ "\x00" ++ gap.id ++ "\x00" ++ gap.outcome.text ++
      "\x00" ++ gap.reason := rfl
  rw [joined]
  simp

lemma scope_of_text : ∀ a b : GapScope, a.text = b.text → a = b := by
  intro a b
  cases a <;> cases b <;> decide

lemma outcome_of_text : ∀ a b : GapOutcome, a.text = b.text → a = b := by
  intro a b
  cases a <;> cases b <;> decide

lemma gapKey_cut {a b : ResultGap} (same : gapKey a = gapKey b) : a.scope = b.scope ∧
    a.id.toList ++ '\x00' :: (a.outcome.text.toList ++ '\x00' :: a.reason.toList) =
      b.id.toList ++ '\x00' :: (b.outcome.text.toList ++ '\x00' :: b.reason.toList) := by
  have chars := congrArg String.toList same
  rw [gapKey_chars, gapKey_chars] at chars
  have plain : ∀ scope : GapScope, '\x00' ∉ scope.text.toList := by
    intro scope
    cases scope <;> decide
  obtain ⟨scope, rest⟩ := Grouping.cut_unique (plain _) (plain _) chars
  exact ⟨scope_of_text _ _ (String.toList_injective scope), rest⟩

/-- Where ids are free of the separator, the key holds scope, id, outcome and reason apart. -/
lemma gapKey_separates {a b : ResultGap} (plainA : '\x00' ∉ a.id.toList)
    (plainB : '\x00' ∉ b.id.toList) (same : gapKey a = gapKey b) : a.outcome = b.outcome := by
  obtain ⟨_, rest⟩ := gapKey_cut same
  obtain ⟨_, rest⟩ := Grouping.cut_unique plainA plainB rest
  have plain : ∀ outcome : GapOutcome, '\x00' ∉ outcome.text.toList := by
    intro outcome
    cases outcome <;> decide
  obtain ⟨outcome, _⟩ := Grouping.cut_unique (plain _) (plain _) rest
  exact outcome_of_text _ _ (String.toList_injective outcome)

theorem causesFit_of_plain {gaps : List ResultGap}
    (accepted : ∀ g ∈ gaps, resultGapSchema g = .ok ())
    (plain : ∀ g ∈ gaps, '\x00' ∉ g.id.toList) : CausesFit runtime gaps := by
  intro k first cause head least
  obtain ⟨g, hg, named⟩ := least.named
  obtain ⟨hg, key⟩ := mem_classOf.mp hg
  obtain ⟨hfirst, firstKey⟩ := mem_classOf.mp (List.mem_of_mem_head? head)
  rw [(resultGapSchema_ok_iff.mp (accepted g hg) cause named).outcome]
  exact gapKey_separates (plain g hg) (plain first hfirst) (key.trans firstKey.symm)

/-- Of accepted gaps, the schema accepts what is kept exactly when the causes fit. -/
theorem keptGaps_accepted_iff {gaps : List ResultGap}
    (accepted : ∀ g ∈ gaps, resultGapSchema g = .ok ()) :
    (∀ g ∈ (gaps.foldl (addGap runtime) []).map Prod.snd, resultGapSchema g = .ok ()) ↔
      CausesFit runtime gaps := by
  have nodup : ((gaps.foldl (addGap runtime) []).map Prod.fst).Nodup :=
    nodup_addGaps gaps List.nodup_nil
  constructor
  · intro kept k first cause head least
    obtain ⟨g, hg, named⟩ := least.named
    cases filed : Keyed.get? (gaps.foldl (addGap runtime) []) k with
    | none =>
      rw [get?_gaps_none.mp filed] at hg
      cases hg
    | some merged =>
      have joined := get?_gaps filed
      have ok := kept merged (List.mem_map.mpr ⟨_, Keyed.mem_of_get? filed, rfl⟩)
      obtain ⟨first', head', fields⟩ := joined.head
      obtain rfl := Option.some.inj (head.symm.trans head')
      have caused : merged.cause = some cause := by
        cases present : merged.cause with
        | none =>
          rw [joined.none present g hg] at named
          cases named
        | some c => rw [(joined.some c present).unique (fun _ => Iff.rfl) least]
      have outcome := (resultGapSchema_ok_iff.mp ok cause caused).outcome
      rw [outcome, fields]
  · intro fit merged hmerged
    obtain ⟨⟨k, merged⟩, filed, rfl⟩ := List.mem_map.mp hmerged
    have joined := get?_gaps (Keyed.get?_of_mem nodup filed)
    obtain ⟨first, head, fields⟩ := joined.head
    rw [resultGapSchema_ok_iff]
    intro cause caused
    have least := joined.some cause caused
    obtain ⟨g, hg, named⟩ := least.named
    obtain ⟨hg, key⟩ := mem_classOf.mp hg
    obtain ⟨_, firstKey⟩ := mem_classOf.mp (List.mem_of_mem_head? head)
    have ok := resultGapSchema_ok_iff.mp (accepted g hg) cause named
    have scope := (gapKey_cut (key.trans firstKey.symm)).1
    refine ⟨ok.wellFormed, ok.numbers, ?_, ?_⟩
    · rw [fit k first cause head least, fields]
    · intro unsupported
      rw [fields]
      exact scope.symm.trans (ok.operation unsupported)

end

/-! ### Evidence -/

section
variable {ε : Type} {kind : EvidenceKind ε} {records : List ε} {file : EvidenceFile ε}

lemma Filed.mem (filed : Filed kind records file) {entry : String × ε} (h : entry ∈ file.byCell) :
    entry.2 ∈ records ∧ kind.key entry.2 = entry.1 := by
  have found := Keyed.get?_of_mem filed.nodup h
  rw [filed.byCell] at found
  exact ⟨List.mem_of_find?_eq_some found, by simpa using List.find?_some found⟩

lemma Filed.nonempty (filed : Filed kind records file) (h : records ≠ []) : file.byCell ≠ [] := by
  obtain ⟨r, rest, rfl⟩ := List.exists_cons_of_ne_nil h
  intro empty
  have found := filed.byCell (kind.key r)
  rw [empty, List.find?_cons_of_pos (by simp)] at found
  cases found

lemma mem_sortedEvidence (filed : Filed kind records file) {r : ε}
    (h : r ∈ sortedEvidence runtime kind file.byCell) : r ∈ records := by
  rw [sortedEvidence, List.mem_insertionSort] at h
  obtain ⟨entry, hentry, rfl⟩ := List.mem_map.mp h
  exact (filed.mem hentry).1

/-- Two records kept are of two cells, and of two sandboxes. -/
def Apart (kind : EvidenceKind ε) (a b : ε) : Prop :=
  kind.key a ≠ kind.key b ∧ ∀ x, kind.sandboxId a = some x → kind.sandboxId b ≠ some x

theorem sortedEvidence_apart (filed : Filed kind records file) :
    (sortedEvidence runtime kind file.byCell).Pairwise (Apart kind) := by
  have symm : Std.Symm (Apart kind) :=
    ⟨fun a b h => ⟨h.1.symm, fun x hb ha => h.2 x ha hb⟩⟩
  have perm := List.perm_insertionSort (fun a b => byEvidenceCell runtime kind a b)
    (file.byCell.map Prod.snd)
  have keys : file.byCell.Pairwise (fun a b => a.1 ≠ b.1) := List.pairwise_map.mp filed.nodup
  have kept : (file.byCell.map Prod.snd).Pairwise (Apart kind) := by
    refine List.pairwise_map.mpr (keys.imp_of_mem ?_)
    intro a b ha hb other
    obtain ⟨memA, keyA⟩ := filed.mem ha
    obtain ⟨memB, keyB⟩ := filed.mem hb
    refine ⟨by rwa [keyA, keyB], fun x sandboxA sandboxB => other ?_⟩
    have cellA := (filed.sandboxes x _).mpr ⟨_, memA, sandboxA, rfl⟩
    have cellB := (filed.sandboxes x _).mpr ⟨_, memB, sandboxB, rfl⟩
    rw [← keyA, ← keyB]
    exact Option.some.inj (cellA.symm.trans cellB)
  exact (perm.pairwise_iff (fun h => symm.symm _ _ h)).mpr kept

end

/-! ### Merged rows -/

section
variable {entries : List ReplicateSlice} {merge : Merge} {mixtures : Option ObservedMixtures}
  {providerId : String} {targetSpec : TargetSpec} {emit : Bool}

/-- What the schema asks of a row beyond its gaps, as far as a merge could break it. -/
structure Coherent (row : ProviderRun) : Prop where
  metricIds : ∀ m ∈ row.metrics, IdsResolve row.observedMixtures m.ids ∧
    ∀ r ∈ m.replicates.getD [], IdsResolve row.observedMixtures r.ids
  hostIds : ∀ r ∈ row.hostMetadata.getD [], IdsResolve row.observedMixtures r.ids
  machines : ∀ mixtures, row.observedMixtures = some mixtures →
    (mixtures.hostHardware.map (·.2.count)).sum ≤ mixtures.sandboxes ∧
      (mixtures.hostNetwork.map (·.2.count)).sum ≤ mixtures.sandboxes
  samples : ∀ m ∈ row.metrics, ∀ replicates, m.replicates = some replicates →
    m.samples.values = replicates.flatMap (·.samples.values)
  verdict : row.specMatched ≠ none → row.observedSpecs ≠ []

lemma Published.samples (emitted : Emitted catalog entries) {m : MetricResult}
    (h : Published runtime catalog entries m) {replicates : List MetricReplicate}
    (folded : m.replicates = some replicates) :
    m.samples.values = replicates.flatMap (·.samples.values) := by
  cases h with
  | derived metricId value => cases folded
  | single e he c from_slice => cases (from_slice.accepted emitted he).2.1.symm.trans folded
  | pooled first rest several distinct from_slices =>
    obtain rfl := Option.some.inj folded
    rfl

lemma mem_mergedHost {r : HostMetadataRecord} (h : r ∈ (mergedRow runtime catalog providerId
    targetSpec emit merge mixtures).hostMetadata.getD []) :
    r ∈ foldHostMetadata runtime merge.hostMetadataInputs := by
  simp only [mergedRow] at h
  split at h
  · cases h
  · exact h

theorem mergedRow_coherent (emitted : Emitted catalog entries)
    (collected : Collected runtime catalog entries merge)
    (built : buildObservedMixtures runtime (sandboxReadings entries) = .ok mixtures) :
    Coherent (mergedRow runtime catalog providerId targetSpec emit merge mixtures) where
  metricIds m hm := (published_of_mem collected hm).resolve emitted built
  hostIds r hr := by
    have folded := mem_mergedHost hr
    rw [collected.hostMetadata] at folded
    exact hostMetadata_resolve emitted built folded
  machines := by
    rintro mixtures rfl
    have accepted := observedMixturesSchema_ok_iff.mp (observedMixturesSchema_of_build built)
    exact ⟨accepted.hardwareSum, accepted.networkSum⟩
  samples m hm replicates := (published_of_mem collected hm).samples emitted
  verdict := by
    intro judged
    refine mergedVerdict_disclosed emitted built ?_
    rw [← collected.specMatched]
    exact judged

/-- The schema accepts a merged row exactly when its gaps' causes fit. -/
theorem mergedRow_accepted_iff (emitted : Emitted catalog entries)
    (collected : Collected runtime catalog entries merge)
    (built : buildObservedMixtures runtime (sandboxReadings entries) = .ok mixtures) :
    AcceptedRow catalog (mergedRow runtime catalog providerId targetSpec emit merge mixtures) ↔
      CausesFit runtime (gapsOf entries) := by
  have coherent : Coherent (mergedRow runtime catalog providerId targetSpec emit merge mixtures) :=
    mergedRow_coherent emitted collected built
  have accepted : ∀ g ∈ gapsOf entries, resultGapSchema g = .ok () := by
    intro g hg
    obtain ⟨e, he, listed⟩ := List.mem_flatMap.mp hg
    exact (emitted.accepted e he).gaps g listed
  rw [← keptGaps_accepted_iff accepted, ← collected.gaps]
  refine ⟨fun row => row.gaps, fun gaps => ?_⟩
  have cost := fileEvidence_run collected.cost
  have artifact := fileEvidence_run collected.artifact
  constructor
  · intro r hr
    obtain ⟨e, he, listed⟩ := List.mem_flatMap.mp (mem_sortedEvidence cost hr)
    exact (emitted.accepted e he).cost r listed
  · intro r hr
    have kept : r ∈ sortedEvidence runtime artifactEvidenceKind merge.artifact.byCell := by
      cases emit with
      | true => exact hr
      | false => cases hr
    obtain ⟨e, he, listed⟩ := List.mem_flatMap.mp (mem_sortedEvidence artifact kept)
    exact (emitted.accepted e he).artifacts r listed
  · rintro m ⟨rfl⟩
    exact observedMixturesSchema_of_build built
  · exact fun m hm => metricResultSchema_ok_iff.mpr ((published_of_mem collected hm).accepted emitted)
  · exact gaps
  · intro validated empty
    simp only [mergedRow] at validated empty
    simp [empty] at validated
  · exact coherent.verdict
  · exact fun m hm => checkMetricIds_iff.mpr (coherent.metricIds m hm)
  · exact fun r hr => checkIds_iff.mpr (coherent.hostIds r hr)
  · intro e he failed
    exact foldMixtures_eq_false.mpr (Or.inr ⟨e, he, failed⟩)

end

end Aggregate
