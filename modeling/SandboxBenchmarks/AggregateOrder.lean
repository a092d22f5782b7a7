import SandboxBenchmarks.AggregateProvenance

/-!
# The order of the shards

What a merge publishes of measurements, verdicts, machines, evidence and gaps does not
depend on the order in which it reads the shards, and neither does whether it returns.
-/

namespace Aggregate

open CanonicalJson Checks JsonText PlanVerification RunModel RunSchema

variable {runtime : Runtime} {catalog : Catalog} {runs runs' : List Run} {providerId : String}

/-! ### Measurements -/

/-- No two shards hold the same measured metric of a provider under one replicate index. -/
def MeasuredOnce (catalog : Catalog) (runs : List Run) : Prop :=
  runs.Pairwise fun a b => a.replicateIndex.getD 0 = b.replicateIndex.getD 0 →
    ∀ row ∈ a.providers, ∀ row' ∈ b.providers, row.providerId = row'.providerId →
      ∀ m ∈ row.metrics, ∀ m' ∈ row'.metrics, isDerivedMetric catalog m = false →
        isDerivedMetric catalog m' = false → m.metricId ≠ m'.metricId

lemma listings_eq (runtime : Runtime) (providerId : String) (runs : List Run) :
    listings runtime (slicesOf providerId runs) =
      runs.flatMap fun run => listings runtime (slicesOf providerId [run]) := by
  unfold listings
  rw [slicesOf_singleton, List.flatMap_assoc]

lemma mem_listings {run : Run} {listing : Listing}
    (h : listing ∈ listings runtime (slicesOf providerId [run])) :
    listing.replicateIndex = run.replicateIndex.getD 0 ∧
      ∃ row ∈ run.providers, row.providerId = providerId ∧ listing.metric ∈ row.metrics := by
  obtain ⟨entry, he, inside⟩ := List.mem_flatMap.mp h
  obtain ⟨run', hr, row, hrow, named, rfl⟩ := mem_slicesOf.mp he
  obtain rfl := List.mem_singleton.mp hr
  obtain ⟨metric, hm, rfl⟩ := List.mem_map.mp inside
  exact ⟨rfl, row, hrow, named, hm⟩

/-- The first listing of a metric under a replicate is the same in every order. -/
theorem find?_listings_perm (once : MeasuredOnce catalog runs) (perm : runs.Perm runs')
    (providerId metricId : String) (index : ℕ) :
    (listings runtime (slicesOf providerId runs)).find?
        (fun l => l.measures catalog metricId && l.replicateIndex == index) =
      (listings runtime (slicesOf providerId runs')).find?
        (fun l => l.measures catalog metricId && l.replicateIndex == index) := by
  rw [listings_eq, listings_eq]
  refine Grouping.find?_flatMap_perm perm (once.imp fun {a b} apart => ?_)
  by_contra both
  rw [not_or] at both
  obtain ⟨l, found⟩ := Option.ne_none_iff_exists'.mp both.1
  obtain ⟨l', found'⟩ := Option.ne_none_iff_exists'.mp both.2
  have here := List.find?_some found
  have there := List.find?_some found'
  simp only [Listing.measures, Bool.and_eq_true, beq_iff_eq, Bool.not_eq_true'] at here there
  obtain ⟨ofA, row, hrow, named, listed⟩ := mem_listings (List.mem_of_find?_eq_some found)
  obtain ⟨ofB, row', hrow', named', listed'⟩ := mem_listings (List.mem_of_find?_eq_some found')
  have sameIndex : a.replicateIndex.getD 0 = b.replicateIndex.getD 0 := by
    rw [← ofA, ← ofB, here.2, there.2]
  exact apart sameIndex row hrow row' hrow' (named.trans named'.symm) l.metric listed l'.metric
    listed' here.1.2 there.1.2 (here.1.1.trans there.1.1.symm)

lemma mergeMetricReplicates_perm {byReplicate byReplicate' : ByReplicate}
    (distinct : (byReplicate.map Prod.fst).Nodup) (perm : byReplicate.Perm byReplicate') :
    mergeMetricReplicates byReplicate = mergeMetricReplicates byReplicate' := by
  have sorted : byReplicate.insertionSort (fun a b => a.1 ≤ b.1) =
      byReplicate'.insertionSort (fun a b => a.1 ≤ b.1) := by
    have total : Std.Total fun a b : ℕ × ReplicateContribution => a.1 ≤ b.1 :=
      ⟨fun a b => le_total a.1 b.1⟩
    have trans : IsTrans (ℕ × ReplicateContribution) fun a b => a.1 ≤ b.1 :=
      ⟨fun _ _ _ ab bc => le_trans ab bc⟩
    refine Sorting.insertionSort_eq_of_perm perm ?_
    intro a ha b hb ab ba
    exact List.inj_on_of_nodup_map distinct ha hb (le_antisymm ab ba)
  unfold mergeMetricReplicates
  rw [sorted]

/-- What a provider measured, replicates pooled. -/
def measuredOf (merge : Merge) : List MetricResult :=
  merge.byMetric.filterMap fun entry => mergeMetricReplicates entry.2

theorem measuredOf_perm (once : MeasuredOnce catalog runs) (perm : runs.Perm runs')
    {merge merge' : Merge} (collected : Collected runtime catalog (slicesOf providerId runs) merge)
    (collected' : Collected runtime catalog (slicesOf providerId runs') merge') :
    (measuredOf merge).Perm (measuredOf merge') := by
  have measured : Measured catalog _ merge.byMetric := collected.byMetric ▸ measured_run _
  have measured' : Measured catalog _ merge'.byMetric := collected'.byMetric ▸ measured_run _
  have agree : ∀ metricId, (Keyed.get? merge.byMetric metricId).map mergeMetricReplicates =
      (Keyed.get? merge'.byMetric metricId).map mergeMetricReplicates := by
    intro metricId
    have filed : ∀ index, contributed merge.byMetric metricId index =
        contributed merge'.byMetric metricId index := by
      intro index
      rw [measured.first, measured'.first, find?_listings_perm once perm]
    have keys : metricId ∈ merge.byMetric.map Prod.fst ↔ metricId ∈ merge'.byMetric.map Prod.fst := by
      have listed : (listings runtime (slicesOf providerId runs)).Perm
          (listings runtime (slicesOf providerId runs')) := (slicesOf_perm perm).flatMap_right _
      rw [measured.keys, measured'.keys]
      simp only [listed.mem_iff]
    cases found : Keyed.get? merge.byMetric metricId with
    | none =>
      have absent := mt keys.mpr (Keyed.get?_eq_none_iff.mp found)
      rw [Keyed.get?_eq_none_iff.mpr absent]
    | some byReplicate =>
      obtain ⟨byReplicate', found'⟩ := Keyed.exists_get? (keys.mp (Keyed.mem_keys_of_get? found))
      have distinct := (measured.inner _ _ found).1
      have distinct' := (measured'.inner _ _ found').1
      have same : byReplicate.Perm byReplicate' := by
        refine Keyed.perm_of_get?_eq distinct distinct' fun index => ?_
        have here := filed index
        rwa [contributed, contributed, found, found', Option.getD_some, Option.getD_some] at here
      rw [found', Option.map_some, Option.map_some, mergeMetricReplicates_perm distinct same]
  have pooled := Keyed.values_perm measured.nodup measured'.nodup agree
  have split : ∀ byMetric : List (String × ByReplicate),
      byMetric.filterMap (fun entry => mergeMetricReplicates entry.2) =
        (byMetric.map fun entry => mergeMetricReplicates entry.2).filterMap id := by
    intro byMetric
    rw [List.filterMap_map]
    rfl
  rw [measuredOf, measuredOf, split, split]
  exact pooled.filterMap id

lemma deriveEconomics_perm {hourly : Option ℚ} {measured measured' : List MetricResult}
    (perm : measured.Perm measured') :
    deriveEconomics hourly measured = deriveEconomics hourly measured' := by
  have lifecycle := perm.filter fun m => lifecycleMetricIds.contains m.metricId
  have total := (lifecycle.map fun m : MetricResult => m.aggregates.mean).sum_eq
  have empty : (measured.filter fun m => lifecycleMetricIds.contains m.metricId).isEmpty =
      (measured'.filter fun m => lifecycleMetricIds.contains m.metricId).isEmpty := by
    rw [Bool.eq_iff_iff, List.isEmpty_iff_length_eq_zero, List.isEmpty_iff_length_eq_zero,
      lifecycle.length_eq]
  cases hourly with
  | none => rfl
  | some hourly => simp only [deriveEconomics, total, empty]

lemma publishedMetrics_perm {targetSpec : TargetSpec} {measured measured' : List MetricResult}
    (perm : measured.Perm measured') :
    (publishedMetrics runtime catalog providerId targetSpec measured).Perm
      (publishedMetrics runtime catalog providerId targetSpec measured') := by
  have empty : measured.isEmpty = measured'.isEmpty := by
    rw [Bool.eq_iff_iff, List.isEmpty_iff_length_eq_zero, List.isEmpty_iff_length_eq_zero,
      perm.length_eq]
  unfold publishedMetrics byLocale
  refine (List.perm_insertionSort _ _).trans (List.Perm.trans ?_ (List.perm_insertionSort _ _).symm)
  rw [deriveEconomics_perm perm, empty]
  exact perm.append_right _

/-! ### Verdicts and machines -/

lemma foldVerdicts_perm {verdicts verdicts' : List (Option Bool)} (perm : verdicts.Perm verdicts')
    (init : Option Bool) : verdicts.foldl foldVerdict init = verdicts'.foldl foldVerdict init :=
  perm.foldl_eq' (fun x _ y _ z => foldVerdict_right_comm z x y) init

lemma sandboxReadings_perm {entries entries' : List ReplicateSlice} (perm : entries.Perm entries') :
    (sandboxReadings entries).Perm (sandboxReadings entries') := (perm.filter _).map _

/-- The mixtures are counted, and counts have no order. -/
lemma buildObservedMixtures_perm {readings readings' : List ObservedSpecs}
    (perm : readings.Perm readings') {mixtures mixtures' : Option ObservedMixtures}
    (built : buildObservedMixtures runtime readings = .ok mixtures)
    (built' : buildObservedMixtures runtime readings' = .ok mixtures') : mixtures = mixtures' := by
  cases mixtures with
  | none =>
    have empty := buildObservedMixtures_none built
    subst empty
    obtain rfl := perm.nil_eq
    rw [built] at built'
    exact Except.ok.inj built'
  | some m =>
    cases mixtures' with
    | none =>
      have empty := buildObservedMixtures_none built'
      subst empty
      obtain rfl := perm.eq_nil
      rw [built] at built'
      exact Except.ok.inj built'
    | some m' =>
      obtain ⟨_, hardware, network, hw, net, rfl⟩ := buildObservedMixtures_some built
      obtain ⟨_, hardware', network', hw', net', rfl⟩ := buildObservedMixtures_some built'
      rw [tallyCategory_perm perm hw hw', tallyCategory_perm perm net net', perm.length_eq]

/-! ### Gaps -/

/-- The separator of gap keys is in no id. -/
def PlainGaps (runs : List Run) : Prop :=
  ∀ run ∈ runs, ∀ row ∈ run.providers, ∀ gap ∈ row.gaps, '\x00' ∉ gap.id.toList

/-- With a plain id the key holds everything of a gap but its cause. -/
lemma gap_of_key {a b : ResultGap} (plainA : '\x00' ∉ a.id.toList) (plainB : '\x00' ∉ b.id.toList)
    (same : gapKey a = gapKey b) : b = { a with cause := b.cause } := by
  obtain ⟨scope, rest⟩ := gapKey_cut same
  obtain ⟨id, rest⟩ := Grouping.cut_unique plainA plainB rest
  have plain : ∀ outcome : GapOutcome, '\x00' ∉ outcome.text.toList := by
    intro outcome
    cases outcome <;> decide
  obtain ⟨outcome, reason⟩ := Grouping.cut_unique (plain _) (plain _) rest
  have id := String.toList_injective id
  have outcome := outcome_of_text _ _ (String.toList_injective outcome)
  have reason := String.toList_injective reason
  cases a
  cases b
  simp_all

/-- Two joins of one class keep the same cause. -/
lemma cause_of_joined {gaps gaps' : List ResultGap} {gap gap' : ResultGap}
    (same : ∀ g, g ∈ gaps ↔ g ∈ gaps') (joined : Joined runtime gaps gap)
    (joined' : Joined runtime gaps' gap') : gap.cause = gap'.cause := by
  cases cause : gap.cause with
  | none =>
    cases cause' : gap'.cause with
    | none => rfl
    | some d =>
      obtain ⟨g, hg, named⟩ := (joined'.some d cause').named
      rw [joined.none cause g ((same g).mpr hg)] at named
      cases named
  | some c =>
    cases cause' : gap'.cause with
    | none =>
      obtain ⟨g, hg, named⟩ := (joined.some c cause).named
      rw [joined'.none cause' g ((same g).mp hg)] at named
      cases named
    | some d => rw [(joined.some c cause).unique same (joined'.some d cause')]

lemma keptGaps_perm {gaps gaps' : List ResultGap} (perm : gaps.Perm gaps')
    (plain : ∀ gap ∈ gaps, '\x00' ∉ gap.id.toList) :
    ((gaps.foldl (addGap runtime) []).map Prod.snd).Perm
      ((gaps'.foldl (addGap runtime) []).map Prod.snd) := by
  have agree : ∀ k, (Keyed.get? (gaps.foldl (addGap runtime) []) k).map id =
      (Keyed.get? (gaps'.foldl (addGap runtime) []) k).map id := by
    intro k
    have classes : (classOf k gaps).Perm (classOf k gaps') := perm.filter _
    cases found : Keyed.get? (gaps.foldl (addGap runtime) []) k with
    | none =>
      have empty := get?_gaps_none.mp found
      rw [empty] at classes
      rw [get?_gaps_none.mpr classes.nil_eq.symm]
    | some gap =>
      cases found' : Keyed.get? (gaps'.foldl (addGap runtime) []) k with
      | none =>
        have empty := get?_gaps_none.mp found'
        rw [empty] at classes
        rw [get?_gaps_none.mpr classes.eq_nil] at found
        cases found
      | some gap' =>
        have joined := get?_gaps found
        have joined' := get?_gaps found'
        have cause := cause_of_joined (fun _ => classes.mem_iff) joined joined'
        obtain ⟨first, head, fields⟩ := joined.head
        obtain ⟨first', head', fields'⟩ := joined'.head
        obtain ⟨listed, key⟩ := mem_classOf.mp (List.mem_of_mem_head? head)
        obtain ⟨listed', key'⟩ := mem_classOf.mp (List.mem_of_mem_head? head')
        have one := gap_of_key (plain first listed) (plain first' (perm.mem_iff.mpr listed'))
          (key.trans key'.symm)
        rw [fields, fields', one, cause]
  have nodup : ((gaps.foldl (addGap runtime) []).map Prod.fst).Nodup :=
    nodup_addGaps gaps List.nodup_nil
  have nodup' : ((gaps'.foldl (addGap runtime) []).map Prod.fst).Nodup :=
    nodup_addGaps gaps' List.nodup_nil
  simpa using Keyed.values_perm nodup nodup' agree

/-! ### Rows -/

/-- Evidence as what its records say, whatever the order of records and fields. -/
def saidBy {ε : Type} (runtime : Runtime) (kind : EvidenceKind ε) (records : Option (List ε)) :
    Option (List Value) :=
  records.map fun records => records.map (evidenceForm runtime kind)

/-- The same evidence, in some order, or none in both. -/
def SameEvidence (said said' : Option (List Value)) : Prop :=
  said.isSome = said'.isSome ∧ (said.getD []).Perm (said'.getD [])

/-- Rows that publish the same of one provider. -/
structure RowsAgree (runtime : Runtime) (row row' : ProviderRun) : Prop where
  providerId : row.providerId = row'.providerId
  metrics : row.metrics.Perm row'.metrics
  validationStatus : row.validationStatus = row'.validationStatus
  specMatched : row.specMatched = row'.specMatched
  observedSpecs : row.observedSpecs = row'.observedSpecs
  observedMixtures : row.observedMixtures = row'.observedMixtures
  suitesCovered : row.suitesCovered.Perm row'.suitesCovered
  gaps : row.gaps.Perm row'.gaps
  costEvidence : SameEvidence (saidBy runtime costEvidenceKind row.costEvidence)
    (saidBy runtime costEvidenceKind row'.costEvidence)
  artifactEvidence : SameEvidence (saidBy runtime artifactEvidenceKind row.artifactEvidence)
    (saidBy runtime artifactEvidenceKind row'.artifactEvidence)

lemma setOf_perm {l l' : List String} (perm : l.Perm l') :
    (Keyed.setOf l).Perm (Keyed.setOf l') := by
  rw [List.perm_ext_iff_of_nodup (Keyed.nodup_setOf l) (Keyed.nodup_setOf l')]
  intro x
  rw [Keyed.mem_setOf, Keyed.mem_setOf, perm.mem_iff]

lemma byLocale_perm {α : Type} {key : α → String} {l l' : List α} (perm : l.Perm l') :
    (byLocale runtime key l).Perm (byLocale runtime key l') :=
  (List.perm_insertionSort _ _).trans (perm.trans (List.perm_insertionSort _ _).symm)

lemma sortedEvidence_perm {ε : Type} {kind : EvidenceKind ε} {records records' : List ε}
    {file file' : EvidenceFile ε} (perm : records.Perm records')
    (run : records.foldlM (fileEvidence runtime kind) ⟨[], []⟩ = .ok file)
    (run' : records'.foldlM (fileEvidence runtime kind) ⟨[], []⟩ = .ok file') :
    ((sortedEvidence runtime kind file.byCell).map (evidenceForm runtime kind)).Perm
      ((sortedEvidence runtime kind file'.byCell).map (evidenceForm runtime kind)) := by
  have agree := (fileEvidence_run_iff records).mp ⟨file, run⟩
  have filed := Filed.perm perm agree (fileEvidence_run run) (fileEvidence_run run')
  have forms : ∀ byCell : List (String × ε),
      ((sortedEvidence runtime kind byCell).map (evidenceForm runtime kind)).Perm
        (byCell.map fun e => evidenceForm runtime kind e.2) := by
    intro byCell
    have sorted := (List.perm_insertionSort (fun a b => byEvidenceCell runtime kind a b)
      (byCell.map Prod.snd)).map (evidenceForm runtime kind)
    rwa [List.map_map] at sorted
  exact (forms _).trans (filed.trans (forms _).symm)

theorem mergeProvider_agree (once : MeasuredOnce catalog runs) (plain : PlainGaps runs)
    (perm : runs.Perm runs') {targetSpec : TargetSpec} {emit : Bool} {row row' : ProviderRun}
    (h : mergeProvider runtime catalog providerId (slicesOf providerId runs) targetSpec emit = .ok row)
    (h' : mergeProvider runtime catalog providerId (slicesOf providerId runs') targetSpec emit =
      .ok row') : RowsAgree runtime row row' := by
  obtain ⟨merge, mixtures, collected, built, rfl⟩ := mergeProvider_ok h
  obtain ⟨merge', mixtures', collected', built', rfl⟩ := mergeProvider_ok h'
  have slices : (slicesOf providerId runs).Perm (slicesOf providerId runs') := slicesOf_perm perm
  have metrics : (publishedMetrics runtime catalog providerId targetSpec (measuredOf merge)).Perm
      (publishedMetrics runtime catalog providerId targetSpec (measuredOf merge')) :=
    publishedMetrics_perm (measuredOf_perm once perm collected collected')
  have verdicts : merge.specMatched = merge'.specMatched := by
    rw [collected.specMatched, collected'.specMatched]
    exact foldVerdicts_perm (slices.map _) none
  obtain rfl := buildObservedMixtures_perm (sandboxReadings_perm slices) built built'
  have cost := sortedEvidence_perm (slices.flatMap_right _) collected.cost collected'.cost
  have artifact := sortedEvidence_perm (slices.flatMap_right _) collected.artifact
    collected'.artifact
  refine
    { providerId := rfl
      metrics := metrics
      validationStatus := ?_
      specMatched := ?_
      observedSpecs := rfl
      observedMixtures := rfl
      suitesCovered := ?_
      gaps := ?_
      costEvidence := ⟨rfl, cost⟩
      artifactEvidence := ?_ }
  · have empty : (publishedMetrics runtime catalog providerId targetSpec (measuredOf merge)).isEmpty =
        (publishedMetrics runtime catalog providerId targetSpec (measuredOf merge')).isEmpty := by
      rw [Bool.eq_iff_iff, List.isEmpty_iff_length_eq_zero, List.isEmpty_iff_length_eq_zero,
        metrics.length_eq]
    show (if (publishedMetrics runtime catalog providerId targetSpec (measuredOf merge)).isEmpty then
        ValidationStatus.pending else .validated) =
      if (publishedMetrics runtime catalog providerId targetSpec (measuredOf merge')).isEmpty then
        .pending else .validated
    rw [empty]
  · show foldMixtures merge.specMatched mixtures = foldMixtures merge'.specMatched mixtures
    rw [verdicts]
  · show (byLocale runtime id merge.suitesCovered).Perm (byLocale runtime id merge'.suitesCovered)
    rw [collected.suites, collected'.suites]
    exact byLocale_perm (setOf_perm (slices.flatMap_right _))
  · show (merge.gapByKey.map Prod.snd).Perm (merge'.gapByKey.map Prod.snd)
    rw [collected.gaps, collected'.gaps]
    refine keptGaps_perm (slices.flatMap_right _) ?_
    intro gap listed
    obtain ⟨entry, he, inside⟩ := List.mem_flatMap.mp listed
    obtain ⟨run, hr, row, hrow, _, rfl⟩ := mem_slicesOf.mp he
    exact plain run hr row hrow gap inside
  · cases emit with
    | false => exact ⟨rfl, .nil⟩
    | true => exact ⟨rfl, artifact⟩

/-! ### Artifacts -/

section
variable {le : String → String → Bool}

/-- A text under a key stays under it. -/
lemma str_of_sortKeys {fields fields' : List (String × Value)}
    (h : sortKeys le (.obj fields) = sortKeys le (.obj fields')) {key s : String}
    (listed : (key, .str s) ∈ fields) : (key, .str s) ∈ fields' := by
  obtain ⟨value, listed', same⟩ := mem_of_sortKeys_obj le h listed
  cases value with
  | str t =>
    rw [sortKeys, sortKeys, Value.str.injEq] at same
    rwa [same] at listed'
  | _ => cases same

lemma mem_texts {key name s : String} {value : Option String} :
    (name, Value.str s) ∈ ExperimentRecords.texts key value ↔ name = key ∧ value = some s := by
  cases value with
  | none => simp [ExperimentRecords.texts, optionalField]
  | some t => simp [ExperimentRecords.texts, optionalField, eq_comm]

lemma artifact_eq_of_sortKeys {a b : ResolvedArtifact}
    (h : sortKeys le a.toJson = sortKeys le b.toJson) : a = b := by
  have kind : a.kind = b.kind := by
    have listed := @str_of_sortKeys le _ _ h "kind" a.kind (by simp)
    simpa [mem_texts] using listed
  have ref : ∀ s, a.ref = some s → b.ref = some s := by
    intro s present
    have listed := @str_of_sortKeys le _ _ h "ref" s (by simp [mem_texts, present])
    simpa [mem_texts] using listed
  cases a <;> cases b <;> simp_all [ResolvedArtifact.kind, ResolvedArtifact.ref]

lemma provenance_fields (p : ArtifactProvenance) : ∃ fields, p.toJson = .obj fields ∧
    (∀ v, ("requested", v) ∈ fields ↔ v = p.requested.toJson) ∧
    ∀ v, ("reported", v) ∈ fields ↔ ∃ reported, p.reported = some reported ∧ v = reported.toJson := by
  cases p with
  | requestFallback requested =>
    exact ⟨_, rfl, by simp [ArtifactProvenance.requested], by simp [ArtifactProvenance.reported]⟩
  | driverReported requested reported =>
    exact ⟨_, rfl, by simp [ArtifactProvenance.requested], by simp [ArtifactProvenance.reported]⟩
  | guestFingerprint requested fingerprint reported =>
    refine ⟨_, rfl, ?_, ?_⟩
    · cases reported <;> simp [ArtifactProvenance.requested, optionalField]
    · cases reported <;> simp [ArtifactProvenance.reported, optionalField]

/-- What a provenance says was booted is the same in another order of its fields. -/
lemma effective_eq_of_sortKeys {p q : ArtifactProvenance}
    (h : sortKeys le p.toJson = sortKeys le q.toJson) : effectiveArtifact p = effectiveArtifact q := by
  obtain ⟨fields, ofP, requestedP, reportedP⟩ := provenance_fields p
  obtain ⟨fields', ofQ, requestedQ, reportedQ⟩ := provenance_fields q
  rw [ofP, ofQ] at h
  have requested : p.requested = q.requested := by
    obtain ⟨v, listed, same⟩ := mem_of_sortKeys_obj le h ((requestedP _).mpr rfl)
    rw [(requestedQ v).mp listed] at same
    exact (artifact_eq_of_sortKeys same).symm
  have forward : ∀ r, p.reported = some r → q.reported = some r := by
    intro r present
    obtain ⟨v, listed, same⟩ := mem_of_sortKeys_obj le h ((reportedP _).mpr ⟨r, present, rfl⟩)
    obtain ⟨r', present', rfl⟩ := (reportedQ v).mp listed
    rw [present', artifact_eq_of_sortKeys same]
  have backward : ∀ r, q.reported = some r → p.reported = some r := by
    intro r present
    obtain ⟨v, listed, same⟩ := mem_of_sortKeys_obj le h.symm ((reportedQ _).mpr ⟨r, present, rfl⟩)
    obtain ⟨r', present', rfl⟩ := (reportedP v).mp listed
    rw [present', artifact_eq_of_sortKeys same]
  have reported : p.reported = q.reported := Option.ext fun r => ⟨forward r, backward r⟩
  rw [effectiveArtifact, effectiveArtifact, requested, reported]

end

lemma effective_of_form {a b : ProviderArtifactEvidence}
    (same : evidenceForm runtime artifactEvidenceKind a = evidenceForm runtime artifactEvidenceKind b) :
    effectiveArtifact a.provenance = effectiveArtifact b.provenance := by
  have listed : ("provenance", a.provenance.toJson) ∈ [("cell", a.cell.toJson),
      ("sandboxId", .str a.sandboxId), ("provenance", a.provenance.toJson)] := by simp
  obtain ⟨value, listed', equal⟩ := mem_of_sortKeys_obj _ same listed
  have here : value = b.provenance.toJson := by simpa using listed'
  rw [here] at equal
  exact (effective_eq_of_sortKeys equal).symm

/-- A record that was dropped said what the kept one says. -/
lemma kept_of_listed {records : List ProviderArtifactEvidence}
    {file : EvidenceFile ProviderArtifactEvidence}
    (run : records.foldlM (fileEvidence runtime artifactEvidenceKind) ⟨[], []⟩ = .ok file)
    {a : ProviderArtifactEvidence} (ha : a ∈ records) :
    ∃ r ∈ sortedEvidence runtime artifactEvidenceKind file.byCell,
      effectiveArtifact r.provenance = effectiveArtifact a.provenance := by
  have agree := (fileEvidence_run_iff records).mp ⟨file, run⟩
  have filed := fileEvidence_run run
  cases found : records.find? (fun r => artifactEvidenceKind.key r = artifactEvidenceKind.key a) with
  | none =>
    rw [List.find?_eq_none] at found
    exact absurd (decide_eq_true rfl) (found a ha)
  | some r =>
    have key : artifactEvidenceKind.key r = artifactEvidenceKind.key a := by
      simpa using List.find?_some found
    have kept := filed.byCell (artifactEvidenceKind.key a)
    rw [found] at kept
    refine ⟨r, ?_, ?_⟩
    · rw [sortedEvidence, List.mem_insertionSort]
      exact List.mem_map.mpr ⟨_, Keyed.mem_of_get? kept, rfl⟩
    · by_cases same : r = a
      · rw [same]
      · have agree := agree.forall (List.mem_of_find?_eq_some found) ha same
        exact effective_of_form (agree.form_eq key)

instance : Std.Symm Attributable :=
  ⟨fun _ _ h => ⟨h.cell.symm, h.sandbox.symm, h.effective.symm⟩⟩

/-- The sandboxes of a provider of a published Run booted one artifact. -/
theorem oneArtifact_of_accepted (normalized : Normalized catalog runs) {merged : Run}
    (passed : mergeRuns runtime catalog runs = .ok merged) (accepted : AcceptedRun catalog merged)
    (providerId : String) : OneArtifact runs providerId := by
  obtain ⟨first, emit, providers, merging, rfl⟩ := mergeRuns_ok passed
  cases emit with
  | false =>
    intro a ha
    obtain ⟨entry, he, listed⟩ := List.mem_flatMap.mp ha
    obtain ⟨run, hr, row, hrow, _, rfl⟩ := mem_slicesOf.mp he
    have early : ¬ 6 ≤ run.schemaVersion := by simp [merging.versions run hr]
    have absent := mt ((normalized.shards run hr).accepted.evidence row hrow).artifact.mpr early
    rw [Bool.not_eq_true, Option.isSome_eq_false_iff, Option.isNone_iff_eq_none] at absent
    rw [absent] at listed
    cases listed
  | true =>
    intro a ha b hb
    obtain ⟨entry, he, _⟩ := List.mem_flatMap.mp ha
    obtain ⟨run, hr, slice, hslice, named, _⟩ := mem_slicesOf.mp he
    have present : providerId ∈ providerIdsOf runtime runs :=
      mem_providerIdsOf.mpr ⟨run, hr, slice, hslice, named⟩
    obtain ⟨row, hrow, ok⟩ := mapM_mem merging.rows present
    have pairwise := (accepted.evidence row hrow).attributable
    obtain ⟨merge, mixtures, collected, _, rfl⟩ := mergeProvider_ok ok
    obtain ⟨r, hr, fromA⟩ := kept_of_listed collected.artifact ha
    obtain ⟨s, hs, fromB⟩ := kept_of_listed collected.artifact hb
    rw [← fromA, ← fromB]
    by_cases same : r = s
    · rw [same]
    · exact (List.Pairwise.forall pairwise hr hs same).effective

/-! ### Runs -/

/-- Runs that publish the same, whatever the order of their rows. -/
structure RunsAgree (runtime : Runtime) (merged merged' : Run) : Prop where
  schemaVersion : merged.schemaVersion = merged'.schemaVersion
  runId : merged.runId = merged'.runId
  sha : merged.sha = merged'.sha
  generatedAt : merged.generatedAt = merged'.generatedAt
  targetSpec : merged.targetSpec = merged'.targetSpec
  providerIds : (merged.providers.map (·.providerId)).Perm (merged'.providers.map (·.providerId))
  rows : ∀ row ∈ merged.providers, ∀ row' ∈ merged'.providers,
    row.providerId = row'.providerId → RowsAgree runtime row row'

/-- The collation tells the shards' times apart. -/
def TimesApart (runtime : Runtime) (runs : List Run) : Prop :=
  ∀ a ∈ runs, ∀ b ∈ runs, runtime.localeCompare a.generatedAt b.generatedAt = .eq →
    a.generatedAt = b.generatedAt

lemma latest_perm (times : TimesApart runtime runs) (perm : runs.Perm runs') :
    latest runtime runs = latest runtime runs' := by
  have := runtime.collation
  have sorted : byLocale runtime id (runs.map (·.generatedAt)) =
      byLocale runtime id (runs'.map (·.generatedAt)) := by
    refine Sorting.sort_eq_of_perm (perm.map _) ?_
    intro a ha b hb tied
    obtain ⟨x, hx, rfl⟩ := List.mem_map.mp ha
    obtain ⟨y, hy, rfl⟩ := List.mem_map.mp hb
    exact times x hx y hy tied
  rw [latest, latest, sorted]

lemma providerIds_of_merging {first : Run} {emit : Bool} {providers : List ProviderRun}
    (merging : Merging runtime catalog runs first emit providers) :
    providers.map (·.providerId) = providerIdsOf runtime runs := by
  refine map_mapM merging.rows ?_
  intro id row ok
  obtain ⟨_, _, _, _, rfl⟩ := mergeProvider_ok ok
  rfl

theorem mergeRuns_agree (once : MeasuredOnce catalog runs) (plain : PlainGaps runs)
    (times : TimesApart runtime runs) (perm : runs.Perm runs') {merged merged' : Run}
    (h : mergeRuns runtime catalog runs = .ok merged)
    (h' : mergeRuns runtime catalog runs' = .ok merged') : RunsAgree runtime merged merged' := by
  obtain ⟨first, emit, providers, merging, rfl⟩ := mergeRuns_ok h
  obtain ⟨first', emit', providers', merging', rfl⟩ := mergeRuns_ok h'
  have hfirst' : first' ∈ runs := perm.mem_iff.mpr (List.mem_of_head? merging'.head)
  obtain ⟨runId, sha, targetSpec⟩ := merging.identity first' hfirst'
  have sameEmit : emit = emit' := by
    rw [Bool.eq_iff_iff, ← merging.versions first' hfirst',
      ← merging'.versions first' (List.mem_of_head? merging'.head)]
  subst sameEmit
  refine ⟨rfl, runId.symm, sha.symm, latest_perm times perm, targetSpec.symm, ?_, ?_⟩
  · show (providers.map (·.providerId)).Perm (providers'.map (·.providerId))
    rw [providerIds_of_merging merging, providerIds_of_merging merging']
    exact byLocale_perm (setOf_perm (perm.flatMap_right _))
  · intro row hrow row' hrow' same
    obtain ⟨id, _, ok⟩ := mem_mapM merging.rows hrow
    obtain ⟨id', _, ok'⟩ := mem_mapM merging'.rows hrow'
    obtain rfl : id = id' := by
      rw [← (mergeProvider_merged ok).1, ← (mergeProvider_merged ok').1, same]
    rw [targetSpec] at ok'
    exact mergeProvider_agree once plain perm ok ok'

/-- A replicate of one metric, failed at a step with an exit code. -/
def replicateShard (index : ℕ) (sample : ℚ) (code : ℤ) : Run :=
  { smallShard with
    replicateIndex := some index
    generatedAt := if index = 0 then "2026-01-31T00:00:00.000Z" else "2026-02-01T00:00:00.000Z"
    providers := [{ smallRow with
      specMatched := some false
      validationStatus := .validated
      metrics := [⟨"m", ⟨[sample], List.cons_ne_nil _ _⟩, ⟨sample, sample, 1⟩, none, none, none, none, none,
        ⟨none, none⟩, false⟩]
      gaps := [⟨.suite, "x", .failed, "z", some (.stepFailed "run" (some code))⟩] }] }

def replicateShards : List Run := [replicateShard 0 4 2, replicateShard 1 2 1]

lemma accepted_of_parses {run : Run} (parses : (parseRun plainCatalog run).isOk = true) :
    AcceptedRun plainCatalog run := by
  cases parsed : parseRun plainCatalog run with
  | error e =>
    rw [parsed] at parses
    cases parses
  | ok run' => exact (parseRun_ok_iff.mp parsed).2

lemma replicateShards_normalized : Normalized plainCatalog replicateShards := by
  have rows : ∀ run ∈ replicateShards, ∀ row ∈ run.providers, row.observedMixtures = none ∧
      (∀ m ∈ row.metrics, m.replicates = none) ∧ row.specMatched = some false ∧
      row.observedSpecs = smallRow.observedSpecs := by
    simp [replicateShards, replicateShard, smallRow]
  refine ⟨fun run hr => ⟨?_, ?_, fun row hrow => (rows run hr row hrow).1,
    fun row hrow => (rows run hr row hrow).2.1⟩, ?_⟩
  · have all : ∀ run ∈ replicateShards, (parseRun plainCatalog run).isOk = true := by decide +kernel
    exact accepted_of_parses (all run hr)
  · have all : ∀ run ∈ replicateShards, run.experiment = none := by
      simp [replicateShards, replicateShard, smallShard]
    exact all run hr
  · intro run hr row hrow
    obtain ⟨_, _, verdict, specs⟩ := rows run hr row hrow
    rw [verdict, specs]
    decide +kernel

end Aggregate
