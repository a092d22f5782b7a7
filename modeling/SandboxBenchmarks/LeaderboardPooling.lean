import SandboxBenchmarks.LeaderboardDatasets
import SandboxBenchmarks.Library.Splitting
import SandboxBenchmarks.PublicationContents

/-!
# What a pooled dataset contains

Pooling keeps every sandbox of every run as one cluster: it neither drops one nor counts one
twice, and its cells say where each was measured.
-/

namespace LeaderboardDatasets

open Aggregate CanonicalJson Checks JsonText PlanVerification RunModel RunSchema

variable {runtime : Runtime} {catalog : Catalog} {sources : List Run} {providerId metricId : String}

/-! ### The clusters of the sources -/

/-- The clusters of an entry: its replicates, or the whole of it. -/
def breakdown (providerId metricId : String) (entry : Entry) : List MetricReplicate :=
  entry.metric.replicates.getD
    [wholeCluster (retainedCells providerId metricId ((suiteOf entry.metric).getD "") entry.run)
      entry.run entry.metric]

/-- All clusters of a metric of a provider, with the runs they were measured in. -/
def sourceClusters (sources : List Run) (providerId metricId : String) :
    List (String × MetricReplicate) :=
  (entriesOf metricId (contributionsOf sources providerId)).flatMap fun entry =>
    (breakdown providerId metricId entry).map fun cluster => (entry.run.runId, cluster)

/-- A metric that is pooled: the first run that lists it has measured it. -/
def Measured (catalog : Catalog) (sources : List Run) (providerId metricId : String) : Prop :=
  ∃ initial, (entriesOf metricId (contributionsOf sources providerId)).head? = some initial ∧
    isDerivedMetric catalog initial.metric = false

lemma metricId_of_mem_entriesOf {contributions : List Contribution} {entry : Entry}
    (listed : entry ∈ entriesOf metricId contributions) : entry.metric.metricId = metricId := by
  obtain ⟨c, _, inside⟩ := List.mem_flatMap.mp listed
  obtain ⟨m, kept, rfl⟩ := List.mem_map.mp inside
  simpa using (List.mem_filter.mp kept).2

lemma providerId_of_mem_contributionsOf {c : Contribution}
    (listed : c ∈ contributionsOf sources providerId) : c.provider.providerId = providerId := by
  obtain ⟨run, _, inside⟩ := List.mem_flatMap.mp listed
  obtain ⟨row, kept, rfl⟩ := List.mem_map.mp inside
  simpa using (List.mem_filter.mp kept).2

lemma samplesOf_breakdown (entry : Entry) :
    samplesOf entry.metric = (breakdown providerId metricId entry).map (·.samples) := by
  cases folded : entry.metric.replicates with
  | none => simp [samplesOf, breakdown, folded, wholeCluster]
  | some replicates => simp [samplesOf, breakdown, folded]

theorem clustersOf_ok {entry : Entry} {clusters : List Cluster}
    (h : clustersOf providerId metricId entry = .ok clusters) :
    clusters.map (fun c => (c.runId, c.replicate)) =
      (breakdown providerId metricId entry).map fun cluster => (entry.run.runId, cluster) := by
  simp only [clustersOf, bind_eq_ok] at h
  obtain ⟨_, _, _, _, each⟩ := h
  refine map_mapM_eq each ?_
  intro replicate cluster made
  simp only [clusterOf, bind_eq_ok, pure_eq_ok] at made
  obtain ⟨_, _, rfl⟩ := made
  rfl

lemma clusters_ok {entries : List Entry} {clusters : List (List Cluster)}
    (h : entries.mapM (clustersOf providerId metricId) = .ok clusters) :
    clusters.flatten.map (fun c => (c.runId, c.replicate)) =
      entries.flatMap fun entry => (breakdown providerId metricId entry).map fun cluster =>
        (entry.run.runId, cluster) := by
  rw [List.map_flatten, List.flatMap_def]
  exact congrArg List.flatten (map_mapM_eq h fun entry group made => clustersOf_ok made)

/-! ### One metric -/

section
variable {α β γ : Type} {l : List α}

lemma map_mapIdx {f : ℕ → α → β} {g : β → γ} :
    (l.mapIdx f).map g = l.mapIdx fun i x => g (f i x) := by
  rw [List.mapIdx_eq_zipIdx_map, List.mapIdx_eq_zipIdx_map, List.map_map]
  rfl

lemma mapIdx_eq_map {h : α → γ} : (l.mapIdx fun _ x => h x) = l.map h := by
  refine List.ext_getElem? fun i => ?_
  rw [List.getElem?_mapIdx, List.getElem?_map]

lemma mapIdx_eq_range : (l.mapIdx fun i _ => i) = List.range l.length := by
  refine List.ext_getElem (by simp) fun i _ _ => ?_
  simp

end

/-- What pooling keeps of the clusters of one metric. -/
structure Pools (sources : List Run) (providerId : String) (metric : MetricResult)
    (cells : List DatasetCell) : Prop where
  samples : samplesOf metric =
    (sourceClusters sources providerId metric.metricId).map (·.2.samples)
  traced : cells.map (fun c => (c.runId, c.replicateIndex)) =
    (sourceClusters sources providerId metric.metricId).map fun x => (x.1, x.2.index)
  /-- The cells stand in the order of the replicates, under their indices. -/
  indexed : ∀ replicates, metric.replicates = some replicates →
    cells.map (·.combinedIndex) = replicates.map (·.index)
  /-- Several entries are numbered anew, and their samples are put together. -/
  renumbered : (entriesOf metric.metricId (contributionsOf sources providerId)).length ≠ 1 →
    cells.map (·.combinedIndex) = List.range cells.length ∧
      metric.samples.values = (samplesOf metric).flatMap (·.values)

lemma pooledMetric_ok {initial m : MetricResult} {replicates : List MetricReplicate}
    (h : pooledMetric initial replicates = .ok m) :
    m.metricId = initial.metricId ∧ m.replicates = some replicates ∧
      m.samples.values = replicates.flatMap (·.samples.values) := by
  cases replicates with
  | nil => cases h
  | cons first rest =>
    obtain rfl := Except.ok.inj h
    exact ⟨rfl, rfl, rfl⟩

lemma cells_traced {clusters : List Cluster} {combined : ℕ → Cluster → ℕ} :
    (clusters.mapIdx fun i cluster => cellOf providerId metricId (combined i cluster) cluster).map
        (fun c => (c.runId, c.replicateIndex)) =
      clusters.map fun c => (c.runId, c.replicate.index) := by
  rw [map_mapIdx, ← mapIdx_eq_map]
  rfl

lemma mem_cells {clusters : List Cluster} {combined : ℕ → Cluster → ℕ} : ∀ cell ∈
    clusters.mapIdx fun i cluster => cellOf providerId metricId (combined i cluster) cluster,
      cell.providerId = providerId ∧ cell.metricId = metricId := by
  intro cell listed
  obtain ⟨i, inside, rfl⟩ := List.mem_mapIdx.mp listed
  exact ⟨rfl, rfl⟩

section
variable {initial : Entry} {entries : List Entry} {clusters : List Cluster} {metric : MetricResult}

/-- A single entry is kept as it was published. -/
lemma pools_single (named : initial.metric.metricId = metricId)
    (own : entriesOf metricId (contributionsOf sources providerId) = [initial])
    (all : clusters.map (fun c => (c.runId, c.replicate)) =
      sourceClusters sources providerId metricId) :
    Pools sources providerId initial.metric (clusters.mapIdx fun i cluster =>
      cellOf providerId metricId (combinedIndex [initial] i cluster) cluster) := by
  have whole : sourceClusters sources providerId metricId =
      (breakdown providerId metricId initial).map fun cluster => (initial.run.runId, cluster) := by
    rw [sourceClusters, own, List.flatMap_singleton]
  refine ⟨?_, ?_, ?_, ?_⟩
  · rw [named, whole, samplesOf_breakdown, List.map_map]
    rfl
  · rw [named, cells_traced, ← all, List.map_map]
    rfl
  · intro replicates folded
    have kept : clusters.map (·.replicate) = replicates := by
      have second := congrArg (List.map Prod.snd) (all.trans whole)
      rw [List.map_map, List.map_map, breakdown, folded] at second
      simpa [Function.comp_def] using second
    rw [map_mapIdx, ← kept, List.map_map, ← mapIdx_eq_map]
    rfl
  · rw [named, own]
    exact fun several => absurd rfl several

/-- Several entries give one metric, whose replicates are numbered anew. -/
lemma pools_several (named : initial.metric.metricId = metricId) (several : entries.length ≠ 1)
    (all : clusters.map (fun c => (c.runId, c.replicate)) =
      sourceClusters sources providerId metricId)
    (made : pooledMetric initial.metric (clusters.mapIdx fun i cluster =>
      { cluster.replicate with index := combinedIndex entries i cluster }) = .ok metric) :
    metric.metricId = metricId ∧ Pools sources providerId metric (clusters.mapIdx fun i cluster =>
      cellOf providerId metricId (combinedIndex entries i cluster) cluster) := by
  obtain ⟨same, folded, values⟩ := pooledMetric_ok made
  rw [named] at same
  refine ⟨same, ?_, ?_, ?_, ?_⟩
  · rw [same, ← all, List.map_map]
    simp only [samplesOf, folded, map_mapIdx]
    exact mapIdx_eq_map
  · rw [same, cells_traced, ← all, List.map_map]
    rfl
  · intro replicates indexed
    rw [folded] at indexed
    obtain rfl := Option.some.inj indexed
    rw [map_mapIdx, map_mapIdx]
    rfl
  · intro _
    constructor
    · rw [map_mapIdx, List.length_mapIdx, ← mapIdx_eq_range]
      simp only [cellOf, combinedIndex, several, if_false]
    · rw [values]
      simp only [samplesOf, folded, List.flatMap_map]

theorem poolMeasured_ok {cells : List DatasetCell}
    (own : entriesOf metricId (contributionsOf sources providerId) = entries)
    (first : entries.head? = some initial)
    (h : poolMeasured runtime providerId metricId initial entries = .ok (metric, cells)) :
    metric.metricId = metricId ∧ Pools sources providerId metric cells ∧
      ∀ cell ∈ cells, cell.providerId = providerId ∧ cell.metricId = metricId := by
  simp only [poolMeasured, bind_eq_ok] at h
  obtain ⟨_, _, _, _, _, _, groups, measured, h⟩ := h
  have all : groups.flatten.map (fun c => (c.runId, c.replicate)) =
      sourceClusters sources providerId metricId := by
    rw [clusters_ok measured, ← own]
    rfl
  have named : initial.metric.metricId = metricId :=
    metricId_of_mem_entriesOf (own ▸ List.mem_of_head? first)
  split at h
  · rename_i single
    simp only [bind_eq_ok, pure_eq_ok, Prod.mk.injEq] at h
    obtain ⟨_, rfl, rfl, rfl⟩ := h
    obtain rfl : entries = [initial] := by
      obtain ⟨only, rfl⟩ := List.length_eq_one_iff.mp single
      rw [Option.some.inj first]
    exact ⟨named, pools_single named own all, mem_cells⟩
  · rename_i several
    simp only [bind_eq_ok, pure_eq_ok, Prod.mk.injEq] at h
    obtain ⟨m, made, rfl, rfl⟩ := h
    obtain ⟨same, pools⟩ := pools_several named several all made
    exact ⟨same, pools, mem_cells⟩

end

/-! ### Machines -/

/-- How many machines were counted under an id. -/
def countedUnder {σ : Type} (kind : MixtureKind σ) (entries : List (String × σ)) (id : String) : ℕ :=
  ((entries.filter fun e => e.1 = id).map fun e => kind.count e.2).sum

/-- The map of a category after some entries: their counts under each id, and specs that all of an id
agree with. -/
structure Tallied {σ : Type} (runtime : Runtime) (kind : MixtureKind σ) (pre : List (String × σ))
    (result : List (String × σ)) : Prop where
  nodup : (result.map Prod.fst).Nodup
  counts : ∀ id, ((Keyed.get? result id).map kind.count).getD 0 = countedUnder kind pre id
  agree : ∀ e ∈ pre, ∃ entry, Keyed.get? result e.1 = some entry ∧
    canonicalJsonString runtime.toJsonRuntime providerResponseLimits (specsJson (kind.specs e.2)) =
      canonicalJsonString runtime.toJsonRuntime providerResponseLimits (specsJson (kind.specs entry))

/-- Recounting an entry changes its count alone. -/
structure Recounts {σ : Type} (kind : MixtureKind σ) : Prop where
  count : ∀ s n, kind.count (kind.recount s n) = n
  specs : ∀ s n, kind.specs (kind.recount s n) = kind.specs s

lemma recounts_hostHardware : Recounts hostHardwareKind := ⟨fun _ _ => rfl, fun _ _ => rfl⟩

lemma recounts_hostNetwork : Recounts hostNetworkKind := ⟨fun _ _ => rfl, fun _ _ => rfl⟩

section
variable {σ : Type} {kind : MixtureKind σ} {pre result next : List (String × σ)} {x : String × σ}

lemma Tallied.nil : Tallied runtime kind [] [] :=
  ⟨List.nodup_nil, fun _ => rfl, fun _ listed => absurd listed List.not_mem_nil⟩

/-- An entry that is written under its id, with the specs of those before. -/
lemma Tallied.set (tallied : Tallied runtime kind pre result) {entry : σ}
    (count : kind.count entry = countedUnder kind pre x.1 + kind.count x.2)
    (specs : kind.specs entry = kind.specs x.2)
    (agrees : ∀ previous, Keyed.get? result x.1 = some previous →
      canonicalJsonString runtime.toJsonRuntime providerResponseLimits
          (specsJson (kind.specs previous)) =
        canonicalJsonString runtime.toJsonRuntime providerResponseLimits
          (specsJson (kind.specs x.2))) :
    Tallied runtime kind (pre ++ [x]) (Keyed.set result x.1 entry) := by
  refine ⟨Keyed.nodup_keys_set tallied.nodup _ _, ?_, ?_⟩
  · intro id
    rw [Keyed.get?_set, countedUnder, List.filter_append, List.map_append, List.sum_append]
    split
    · rename_i here
      subst here
      simp [count, countedUnder]
    · rename_i elsewhere
      rw [tallied.counts id]
      simp [countedUnder, elsewhere]
  · intro e listed
    rw [Keyed.get?_set]
    split
    · rename_i here
      refine ⟨entry, rfl, ?_⟩
      rw [specs]
      rcases List.mem_append.mp listed with earlier | last
      · obtain ⟨previous, read, same⟩ := tallied.agree e earlier
        rw [← here] at read
        exact same.trans (agrees previous read)
      · rw [List.mem_singleton.mp last]
    · rename_i elsewhere
      rcases List.mem_append.mp listed with earlier | last
      · exact tallied.agree e earlier
      · exact absurd (congrArg Prod.fst (List.mem_singleton.mp last)).symm elsewhere

lemma mergeEntry_ok (recounts : Recounts kind) (tallied : Tallied runtime kind pre result)
    (h : mergeEntry runtime kind result x = .ok next) : Tallied runtime kind (pre ++ [x]) next := by
  unfold mergeEntry at h
  split at h
  · rename_i previous read
    simp only [bind_eq_ok, throwIf_eq_ok, not_not, pure_eq_ok] at h
    obtain ⟨before, hBefore, after, hAfter, _, rfl, rfl⟩ := h
    refine tallied.set ?_ (recounts.specs _ _) ?_
    · rw [recounts.count, ← tallied.counts x.1, read, Option.map_some, Option.getD_some]
    · intro previous' read'
      obtain rfl := Option.some.inj (read.symm.trans read')
      rw [hBefore, hAfter]
  · rename_i unread
    simp only [bind_eq_ok, throwIf_eq_ok, pure_eq_ok] at h
    obtain ⟨_, _, rfl⟩ := h
    refine tallied.set ?_ rfl ?_
    · rw [← tallied.counts x.1, unread, Option.map_none, Option.getD_none, Nat.zero_add]
    · intro previous read
      rw [unread] at read
      cases read

lemma mergeEntries_ok (recounts : Recounts kind) {entries : List (String × σ)}
    (tallied : Tallied runtime kind pre result)
    (h : entries.foldlM (mergeEntry runtime kind) result = .ok next) :
    Tallied runtime kind (pre ++ entries) next := by
  refine foldlM_invariant (fun seen map => Tallied runtime kind (pre ++ seen) map) ?_ ?_ h
  · rwa [List.append_nil]
  · intro seen entry post map map' _ tallied step
    rw [← List.append_assoc]
    exact mergeEntry_ok recounts tallied step

end

/-- What the mixtures of some rows add up to. -/
structure Mixes (runtime : Runtime) (mixtures : List ObservedMixtures) (mixture : ObservedMixtures) :
    Prop where
  sandboxes : mixture.sandboxes = (mixtures.map (·.sandboxes)).sum
  hostHardware : Tallied runtime hostHardwareKind (mixtures.flatMap (·.hostHardware))
    mixture.hostHardware
  hostNetwork : Tallied runtime hostNetworkKind (mixtures.flatMap (·.hostNetwork))
    mixture.hostNetwork

lemma mergeMixture_ok {pre : List ObservedMixtures} {result mixture next : ObservedMixtures}
    (mixes : Mixes runtime pre result) (h : mergeMixture runtime result mixture = .ok next) :
    Mixes runtime (pre ++ [mixture]) next := by
  simp only [mergeMixture, bind_eq_ok, pure_eq_ok] at h
  obtain ⟨hardware, hHardware, network, hNetwork, rfl⟩ := h
  refine ⟨?_, ?_, ?_⟩
  · rw [List.map_append, List.sum_append, ← mixes.sandboxes, List.map_singleton, List.sum_singleton]
  · rw [List.flatMap_append, List.flatMap_singleton]
    exact mergeEntries_ok recounts_hostHardware mixes.hostHardware hHardware
  · rw [List.flatMap_append, List.flatMap_singleton]
    exact mergeEntries_ok recounts_hostNetwork mixes.hostNetwork hNetwork

theorem mergeMixtures_ok {rows : List ProviderRun} {mixture : Option ObservedMixtures}
    (h : mergeMixtures runtime rows = .ok mixture) :
    (mixture = none ↔ rows.filterMap (·.observedMixtures) = []) ∧
      ∀ m, mixture = some m → Mixes runtime (rows.filterMap (·.observedMixtures)) m := by
  unfold mergeMixtures at h
  split at h
  · rename_i silent
    obtain rfl := Except.ok.inj h
    refine ⟨by simp [silent], ?_⟩
    intro m same
    cases same
  · rename_i observed
    simp only [bind_eq_ok, pure_eq_ok] at h
    obtain ⟨merged, folded, rfl⟩ := h
    refine ⟨⟨?_, fun silent => absurd silent observed⟩, ?_⟩
    · intro absent
      cases absent
    rintro m ⟨⟩
    exact foldlM_invariant (Mixes runtime) ⟨rfl, Tallied.nil, Tallied.nil⟩
      (fun pre x post result next _ mixes step => mergeMixture_ok mixes step) folded

/-! ### One provider -/

theorem poolMetric_ok {pool : List MetricResult × List DatasetCell}
    (h : poolMetric runtime catalog providerId (contributionsOf sources providerId) metricId =
      .ok pool) :
    (Measured catalog sources providerId metricId → ∃ metric, pool.1 = [metric] ∧
      metric.metricId = metricId ∧ Pools sources providerId metric pool.2) ∧
    (¬ Measured catalog sources providerId metricId → pool.2 = [] ∧
      (pool.1 = [] ∨ metricId = "usd_per_hour" ∧ ∃ metric, pool.1 = [metric] ∧
        metric.metricId = metricId)) ∧
    ∀ cell ∈ pool.2, cell.providerId = providerId ∧ cell.metricId = metricId := by
  unfold poolMetric at h
  split at h
  · rename_i unlisted
    obtain rfl := Except.ok.inj h
    refine ⟨?_, fun _ => ⟨rfl, .inl rfl⟩, by simp⟩
    rintro ⟨initial, first, _⟩
    rw [unlisted] at first
    cases first
  · rename_i initial later entries
    have first : (entriesOf metricId (contributionsOf sources providerId)).head? = some initial := by
      rw [entries, List.head?_cons]
    split at h
    · rename_i derived
      obtain rfl := Except.ok.inj h
      refine ⟨?_, fun _ => ⟨rfl, ?_⟩, by simp⟩
      · rintro ⟨initial', first', underived⟩
        obtain rfl := Option.some.inj (first.symm.trans first')
        rw [derived] at underived
        cases underived
      · by_cases price : metricId = "usd_per_hour"
        · have listed : (initial :: later).getLast?.getD initial ∈
              entriesOf metricId (contributionsOf sources providerId) := by
            rw [entries]
            cases last : (initial :: later).getLast? with
            | none => simp at last
            | some entry => exact List.mem_of_getLast? last
          exact .inr ⟨price, _, if_pos price, metricId_of_mem_entriesOf listed⟩
        · exact .inl (if_neg price)
    · rename_i underived
      simp only [bind_eq_ok, pure_eq_ok] at h
      obtain ⟨⟨metric, cells⟩, made, rfl⟩ := h
      obtain ⟨named, pools, labelled⟩ := poolMeasured_ok entries (by rw [List.head?_cons]) made
      refine ⟨fun _ => ⟨metric, rfl, named, pools⟩, fun unmeasured => ?_, labelled⟩
      exact absurd ⟨initial, first, by simpa using underived⟩ unmeasured

section
variable {pool : List MetricResult × List DatasetCell}

lemma names_sublist (h : poolMetric runtime catalog providerId (contributionsOf sources providerId)
    metricId = .ok pool) : (pool.1.map (·.metricId)).Sublist [metricId] := by
  obtain ⟨whenMeasured, whenUnmeasured, _⟩ := poolMetric_ok h
  by_cases measured : Measured catalog sources providerId metricId
  · obtain ⟨metric, only, same, _⟩ := whenMeasured measured
    simp [only, same]
  · rcases (whenUnmeasured measured).2 with nothing | ⟨_, metric, only, same⟩
    · simp [nothing]
    · simp [only, same]

lemma measured_or_price (h : poolMetric runtime catalog providerId
    (contributionsOf sources providerId) metricId = .ok pool) :
    ∀ metric ∈ pool.1,
      Measured catalog sources providerId metric.metricId ∨ metric.metricId = "usd_per_hour" := by
  intro metric listed
  have same : metric.metricId = metricId := by
    have named := (names_sublist h).subset (List.mem_map_of_mem listed)
    exact List.mem_singleton.mp named
  by_cases measured : Measured catalog sources providerId metricId
  · exact .inl (same ▸ measured)
  · rcases ((poolMetric_ok h).2.1 measured).2 with nothing | ⟨price, _⟩
    · rw [nothing] at listed
      cases listed
    · exact .inr (same.trans price)

lemma measured_of_cell (h : poolMetric runtime catalog providerId
    (contributionsOf sources providerId) metricId = .ok pool) :
    ∀ cell ∈ pool.2,
      cell.providerId = providerId ∧ Measured catalog sources providerId cell.metricId := by
  intro cell listed
  obtain ⟨_, whenUnmeasured, labelled⟩ := poolMetric_ok h
  obtain ⟨provider, metric⟩ := labelled cell listed
  refine ⟨provider, ?_⟩
  by_contra unmeasured
  rw [metric] at unmeasured
  rw [(whenUnmeasured unmeasured).1] at listed
  cases listed

end

lemma nodup_sorted_setOf {ids : List String} : (CodeUnits.sorted (Keyed.setOf ids)).Nodup :=
  (List.perm_insertionSort _ _).nodup_iff.mpr (Keyed.nodup_setOf _)

lemma mem_metricIdsOf (measured : Measured catalog sources providerId metricId) :
    metricId ∈ metricIdsOf (contributionsOf sources providerId) := by
  obtain ⟨initial, first, _⟩ := measured
  obtain ⟨c, contributes, listed⟩ := List.mem_flatMap.mp (List.mem_of_head? first)
  obtain ⟨m, kept, rfl⟩ := List.mem_map.mp listed
  obtain ⟨inside, named⟩ := List.mem_filter.mp kept
  rw [metricIdsOf, CodeUnits.sorted, List.mem_insertionSort, Keyed.mem_setOf]
  exact List.mem_flatMap.mpr ⟨c, contributes, List.mem_map.mpr ⟨m, inside, by simpa using named⟩⟩

/-- What the sources observed of the machines of a provider. -/
def mixturesOf (sources : List Run) (providerId : String) : List ObservedMixtures :=
  ((contributionsOf sources providerId).map (·.provider)).filterMap (·.observedMixtures)

/-- What pooling makes of one provider. -/
structure PoolsRow (runtime : Runtime) (catalog : Catalog) (sources : List Run) (row : ProviderRun)
    (cells : List DatasetCell) : Prop where
  names : (row.metrics.map (·.metricId)).Nodup
  metrics : ∀ metric ∈ row.metrics, Measured catalog sources row.providerId metric.metricId ∨
    metric.metricId = "usd_per_hour"
  pools : ∀ metricId, Measured catalog sources row.providerId metricId → ∃ metric ∈ row.metrics,
    metric.metricId = metricId ∧
      Pools sources row.providerId metric (cells.filter fun c => c.metricId = metricId)
  cells : ∀ cell ∈ cells, cell.providerId = row.providerId ∧
    Measured catalog sources row.providerId cell.metricId
  unmixed : row.observedMixtures = none ↔ mixturesOf sources row.providerId = []
  mixed : ∀ mixture, row.observedMixtures = some mixture →
    Mixes runtime (mixturesOf sources row.providerId) mixture

theorem poolProvider_ok {made : ProviderRun × List DatasetCell}
    (h : poolProvider runtime catalog sources providerId = .ok made) :
    made.1.providerId = providerId ∧ PoolsRow runtime catalog sources made.1 made.2 := by
  simp only [poolProvider, bind_eq_ok, require_eq_ok, pure_eq_ok] at h
  obtain ⟨latest, last, pools, pooled, mixtures, mixed, rfl⟩ := h
  have named : latest.provider.providerId = providerId :=
    providerId_of_mem_contributionsOf (List.mem_of_getLast? last)
  subst named
  have distinct : (metricIdsOf (contributionsOf sources latest.provider.providerId)).Nodup :=
    nodup_sorted_setOf
  have labelled : ∀ metricId pool, poolMetric runtime catalog latest.provider.providerId
      (contributionsOf sources latest.provider.providerId) metricId = .ok pool →
        ∀ cell ∈ pool.2, cell.metricId = metricId :=
    fun metricId pool returns cell inside => ((poolMetric_ok returns).2.2 cell inside).2
  obtain ⟨unmixed, adds⟩ := mergeMixtures_ok mixed
  -- the latest row has a mixture only where some row has one
  have kept : (mixtures <|> latest.provider.observedMixtures) = mixtures := by
    cases mixtures with
    | some mixture => rfl
    | none =>
      have silent := List.filterMap_eq_nil_iff.mp (unmixed.mp rfl) latest.provider
        (List.mem_map_of_mem (List.mem_of_getLast? last))
      exact silent
  refine ⟨rfl, ?_, ?_, ?_, ?_, ?_, ?_⟩
  · exact distinct.sublist (flatMap_mapM_sublist pooled fun _ _ returns => names_sublist returns)
  · intro metric listed
    obtain ⟨pool, member, inside⟩ := List.mem_flatMap.mp listed
    obtain ⟨metricId, _, returns⟩ := mem_mapM pooled member
    exact measured_or_price returns metric inside
  · intro metricId measured
    obtain ⟨pool, returns, own⟩ := filter_mapM_flatMap_of_mem pooled labelled distinct
      (mem_metricIdsOf measured)
    obtain ⟨metric, only, same, pools⟩ := (poolMetric_ok returns).1 measured
    obtain ⟨pool', member, returns'⟩ := mapM_mem pooled (mem_metricIdsOf measured)
    obtain rfl := Except.ok.inj (returns.symm.trans returns')
    refine ⟨metric, List.mem_flatMap.mpr ⟨pool, member, ?_⟩, same, ?_⟩
    · rw [only]
      exact List.mem_cons_self
    · rw [own]
      exact pools
  · intro cell listed
    obtain ⟨pool, member, inside⟩ := List.mem_flatMap.mp listed
    obtain ⟨metricId, _, returns⟩ := mem_mapM pooled member
    exact measured_of_cell returns cell inside
  · rw [pooledRow, kept]
    exact unmixed
  · rw [pooledRow, kept]
    exact adds

/-! ### The dataset -/

/-- A pooled dataset comes of at least two sources. -/
lemma pooled_of_ok {options : CombineDatasetsOptions} {inputs : List Run} {dataset : PooledDataset}
    (h : combineLeaderboardDatasets runtime catalog options inputs = .ok (.pooled dataset)) :
    ∃ byId first second rest, inputs.foldlM (collect runtime catalog) [] = .ok byId ∧
      sortedSources runtime byId = first :: second :: rest ∧
      poolSources runtime catalog options first (first :: second :: rest) = .ok dataset := by
  simp only [combineLeaderboardDatasets, bind_eq_ok] at h
  obtain ⟨byId, collected, h⟩ := h
  split at h
  · cases h
  · simp only [bind_eq_ok, pure_eq_ok, reduceCtorEq, and_false, exists_false] at h
  · rename_i first second rest sorted
    simp only [bind_eq_ok, pure_eq_ok, LeaderboardDataset.pooled.injEq] at h
    obtain ⟨made, pooled, rfl⟩ := h
    exact ⟨byId, first, second, rest, collected, sorted, pooled⟩

/-- Pooling keeps every cluster of every source once: each measured metric of a provider has the
samples of all of its clusters, one cell for each at the same place, and there are no other cells. -/
theorem combineLeaderboardDatasets_clusters {options : CombineDatasetsOptions} {inputs : List Run}
    {dataset : PooledDataset}
    (h : combineLeaderboardDatasets runtime catalog options inputs = .ok (.pooled dataset)) :
    dataset.providers.map (·.providerId) = providerIdsOf dataset.sources ∧
      (∀ row ∈ dataset.providers, PoolsRow runtime catalog dataset.sources row
        (dataset.cells.filter fun c => c.providerId = row.providerId)) ∧
      ∀ cell ∈ dataset.cells, cell.providerId ∈ providerIdsOf dataset.sources := by
  obtain ⟨_, first, second, rest, _, _, pooled⟩ := pooled_of_ok h
  simp only [poolSources, bind_eq_ok, pure_eq_ok] at pooled
  obtain ⟨_, _, _, _, _, _, _, _, rows, made, rfl⟩ := pooled
  have labelled : ∀ providerId row,
      poolProvider runtime catalog (first :: second :: rest) providerId = .ok row →
        ∀ cell ∈ row.2, cell.providerId = providerId := by
    intro providerId row returns cell inside
    obtain ⟨named, pools⟩ := poolProvider_ok returns
    exact (pools.cells cell inside).1.trans named
  have distinct : (providerIdsOf (first :: second :: rest)).Nodup := nodup_sorted_setOf
  refine ⟨?_, ?_, ?_⟩
  · rw [List.map_map]
    exact map_mapM made fun providerId row returns => (poolProvider_ok returns).1
  · intro row listed
    obtain ⟨pair, member, rfl⟩ := List.mem_map.mp listed
    obtain ⟨providerId, planned, returns⟩ := mem_mapM made member
    obtain ⟨named, pools⟩ := poolProvider_ok returns
    obtain ⟨pair', returns', own⟩ := filter_mapM_flatMap_of_mem made labelled distinct planned
    obtain rfl := Except.ok.inj (returns.symm.trans returns')
    rw [named, own]
    exact pools
  · intro cell listed
    obtain ⟨pair, member, inside⟩ := List.mem_flatMap.mp listed
    obtain ⟨providerId, planned, returns⟩ := mem_mapM made member
    rw [labelled providerId pair returns cell inside]
    exact planned

/-! ### Two datasets -/

/-- A dataset with one measured metric. -/
def datasetRun (id : String) (samples : Samples) : Run :=
  { smallShard with
    runId := id
    providers := [{ smallRow with
      validationStatus := .validated
      metrics := [⟨"m", samples, aggregate samples, some "memory/m.xml", none, none, none, none,
        ⟨none, none⟩, false⟩] }] }

def earlierRun : Run := datasetRun "7" ⟨[4, 6, 8], by decide⟩

def laterRun : Run := datasetRun "8" ⟨[2, 6], by decide⟩

def datasetCatalog : Catalog :=
  { plainCatalog with document := fun run => .obj [("runId", .str run.runId)] }

def datasets : List Run := [earlierRun, laterRun]

def pooledView : LeaderboardDataset → Option PooledDataset
  | .published _ => none
  | .pooled dataset => some dataset

lemma suiteOf_eq : suiteOf = fun metric => metric.sourceFile.map fun file =>
    ((file.toList.splitOn '/').map String.ofList).headD "" := by
  funext metric
  have slash (file : String) : file.splitOn "/" = (file.toList.splitOn '/').map String.ofList :=
    Splitting.splitOn_eq '/' file
  simp only [suiteOf, slash]

lemma idsOf_eq : (fun run : Run => run.runId.splitOn "+") =
    fun run => (run.runId.toList.splitOn '+').map String.ofList := by
  funext run
  exact Splitting.splitOn_eq '+' run.runId

lemma datasets_pool : ∃ dataset,
    combineLeaderboardDatasets plainRuntime datasetCatalog ⟨some "reviewed"⟩ datasets =
        .ok (.pooled dataset) ∧ dataset.cells.map (·.combinedIndex) = [0, 1] := by
  have returns : ((combineLeaderboardDatasets plainRuntime datasetCatalog ⟨some "reviewed"⟩
      datasets).toOption.bind pooledView).map (fun dataset => dataset.cells.map (·.combinedIndex)) =
        some [0, 1] := by
    delta combineLeaderboardDatasets poolSources poolProvider poolMetric poolMeasured checkSignature
      signature checkArtifacts artifactSet passPolicies clustersOf
    rw [suiteOf_eq, idsOf_eq]
    decide +kernel
  obtain ⟨dataset, viewed, indices⟩ := Option.map_eq_some_iff.mp returns
  obtain ⟨view, combined, viewed⟩ := Option.bind_eq_some_iff.mp viewed
  cases view with
  | published run => cases viewed
  | pooled made =>
    obtain rfl := Option.some.inj viewed
    exact ⟨made, toOption_eq_some.mp combined, indices⟩

theorem combineLeaderboardDatasets_clusters_sample : ∃ dataset,
    combineLeaderboardDatasets plainRuntime datasetCatalog ⟨some "reviewed"⟩ datasets =
        .ok (.pooled dataset) ∧ dataset.cells.map (·.combinedIndex) = [0, 1] ∧
      dataset.providers.map (·.providerId) = providerIdsOf dataset.sources ∧
      ∀ row ∈ dataset.providers, PoolsRow plainRuntime datasetCatalog dataset.sources row
        (dataset.cells.filter fun c => c.providerId = row.providerId) := by
  obtain ⟨dataset, pooled, indices⟩ := datasets_pool
  obtain ⟨named, rows, _⟩ := combineLeaderboardDatasets_clusters pooled
  exact ⟨dataset, pooled, indices, named, rows⟩

/-! ### The order of the inputs -/

section
variable {inputs inputs' : List Run}

/-- Every document has a digest, and no two datasets share one. -/
structure Documents (runtime : Runtime) (catalog : Catalog) (inputs : List Run) : Prop where
  digested : ∀ run ∈ inputs, ∃ digest, evidenceDigest runtime (catalog.document run) = .ok digest
  separated : ∀ a ∈ inputs, ∀ b ∈ inputs, ∀ digest,
    evidenceDigest runtime (catalog.document a) = .ok digest →
      evidenceDigest runtime (catalog.document b) = .ok digest → a = b

/-- The map of the loop holds each dataset that it has read, under its id. -/
structure Kept (pre : List Run) (byId : List (String × Run)) : Prop where
  nodup : (byId.map Prod.fst).Nodup
  keeps : ∀ id run, Keyed.get? byId id = some run ↔ run ∈ pre ∧ run.runId = id

lemma Kept.nil : Kept [] [] := ⟨List.nodup_nil, fun _ _ => by simp [Keyed.get?]⟩

lemma Kept.set {pre : List Run} {byId : List (String × Run)} {run : Run} (kept : Kept pre byId)
    (agrees : ∀ previous ∈ pre, previous.runId = run.runId → previous = run) :
    Kept (pre ++ [run]) (Keyed.set byId run.runId run) := by
  refine ⟨Keyed.nodup_keys_set kept.nodup _ _, fun id other => ?_⟩
  rw [Keyed.get?_set, List.mem_append, List.mem_singleton]
  split
  · rename_i here
    rw [Option.some.injEq]
    constructor
    · rintro rfl
      exact ⟨.inr rfl, here⟩
    · rintro ⟨earlier | rfl, named⟩
      · exact (agrees other earlier (named.trans here.symm)).symm
      · rfl
  · rename_i elsewhere
    rw [kept.keeps]
    constructor
    · rintro ⟨earlier, named⟩
      exact ⟨.inl earlier, named⟩
    · rintro ⟨earlier | rfl, named⟩
      · exact ⟨earlier, named⟩
      · exact absurd named elsewhere

/-- One round of the loop. -/
theorem collect_ok {byId next : List (String × Run)} {run : Run}
    (h : collect runtime catalog byId run = .ok next) :
    AcceptedRun catalog run ∧ next = Keyed.set byId run.runId run ∧
      ∀ previous, Keyed.get? byId run.runId = some previous → ∃ digest,
        evidenceDigest runtime (catalog.document previous) = .ok digest ∧
          evidenceDigest runtime (catalog.document run) = .ok digest := by
  simp only [collect, bind_eq_ok, parseRun_ok_iff] at h
  obtain ⟨_, ⟨rfl, accepted⟩, h⟩ := h
  refine ⟨accepted, ?_⟩
  split at h
  · rename_i unread
    refine ⟨(Except.ok.inj h).symm, fun previous here => ?_⟩
    rw [unread] at here
    cases here
  · rename_i previous read
    simp only [bind_eq_ok, throwIf_eq_ok, not_not, pure_eq_ok] at h
    obtain ⟨before, hBefore, after, hAfter, _, rfl, rfl⟩ := h
    refine ⟨rfl, fun previous' here => ?_⟩
    rw [read] at here
    obtain rfl := Option.some.inj here
    exact ⟨_, hBefore, hAfter⟩

/-- Datasets that pool: valid Runs, one of each id. -/
structure Poolable (catalog : Catalog) (inputs : List Run) : Prop where
  accepted : ∀ run ∈ inputs, AcceptedRun catalog run
  one : ∀ a ∈ inputs, ∀ b ∈ inputs, a.runId = b.runId → a = b

theorem collect_reads (documents : Documents runtime catalog inputs) {byId : List (String × Run)}
    (h : inputs.foldlM (collect runtime catalog) [] = .ok byId) :
    Kept inputs byId ∧ Poolable catalog inputs := by
  have both := foldlM_invariant (fun pre byId => Kept pre byId ∧ Poolable catalog pre)
    ⟨Kept.nil, by simp, by simp⟩ ?_ h
  · exact both
  · rintro pre run post byId next split ⟨kept, poolable⟩ step
    obtain ⟨accepted, rfl, agrees⟩ := collect_ok step
    have inside : run ∈ inputs := by
      rw [split]
      exact List.mem_append_right _ List.mem_cons_self
    have same : ∀ previous ∈ pre, previous.runId = run.runId → previous = run := by
      intro previous earlier named
      obtain ⟨digest, before, after⟩ := agrees previous ((kept.keeps _ _).mpr ⟨earlier, named⟩)
      have earlier : previous ∈ inputs := by
        rw [split]
        exact List.mem_append_left _ earlier
      exact documents.separated previous earlier run inside digest before after
    refine ⟨kept.set same, ?_, ?_⟩
    · intro a listed
      rcases List.mem_append.mp listed with earlier | last
      · exact poolable.accepted a earlier
      · rwa [List.mem_singleton.mp last]
    · intro a ha b hb named
      rcases List.mem_append.mp ha with earlier | last
      · rcases List.mem_append.mp hb with earlier' | last'
        · exact poolable.one a earlier b earlier' named
        · obtain rfl := List.mem_singleton.mp last'
          exact same a earlier named
      · obtain rfl := List.mem_singleton.mp last
        rcases List.mem_append.mp hb with earlier' | last'
        · exact (same b earlier' named.symm).symm
        · exact (List.mem_singleton.mp last').symm

theorem collect_returns (documents : Documents runtime catalog inputs)
    (poolable : Poolable catalog inputs) :
    ∃ byId, inputs.foldlM (collect runtime catalog) [] = .ok byId ∧ Kept inputs byId := by
  refine foldlM_returns Kept Kept.nil ?_
  intro pre run post byId split kept
  have inside : run ∈ inputs := by
    rw [split]
    exact List.mem_append_right _ List.mem_cons_self
  have same : ∀ previous ∈ pre, previous.runId = run.runId → previous = run := by
    intro previous earlier named
    refine poolable.one previous ?_ run inside named
    rw [split]
    exact List.mem_append_left _ earlier
  refine ⟨_, ?_, kept.set same⟩
  have parses := parseRun_ok_iff.mpr ⟨rfl, poolable.accepted run inside⟩
  cases read : Keyed.get? byId run.runId with
  | none => simp only [collect, parses, ok_bind, read]; rfl
  | some previous =>
    obtain ⟨earlier, named⟩ := (kept.keeps _ _).mp read
    obtain rfl := same previous earlier named
    obtain ⟨digest, digested⟩ := documents.digested previous inside
    simp only [collect, parses, ok_bind, read, digested, throwIf, ne_eq, not_true, if_false]
    rfl

/-- Datasets that tie have one id. -/
def SourcesApart (runtime : Runtime) (inputs : List Run) : Prop :=
  ∀ a ∈ inputs, ∀ b ∈ inputs, compareSources runtime a b = .eq → a.runId = b.runId

lemma Kept.mem {byId : List (String × Run)} (kept : Kept inputs byId) {run : Run} :
    run ∈ byId.map Prod.snd ↔ run ∈ inputs := by
  rw [List.mem_map]
  constructor
  · rintro ⟨⟨id, run⟩, listed, rfl⟩
    exact ((kept.keeps id run).mp (Keyed.get?_of_mem kept.nodup listed)).1
  · intro listed
    exact ⟨_, Keyed.mem_of_get? ((kept.keeps run.runId run).mpr ⟨listed, rfl⟩), rfl⟩

lemma transCmp_compareSources (runtime : Runtime) : Std.TransCmp (compareSources runtime) := by
  have := runtime.collation
  have dates := Sorting.transCmp_on runtime.localeCompare (fun run : Run => run.generatedAt)
  have names := Sorting.transCmp_on runtime.localeCompare (fun run : Run => run.runId)
  exact inferInstanceAs (Std.TransCmp (compareLex
    (fun a b : Run => runtime.localeCompare a.generatedAt b.generatedAt)
    (fun a b : Run => runtime.localeCompare a.runId b.runId)))

theorem sortedSources_eq (apart : SourcesApart runtime inputs) (poolable : Poolable catalog inputs)
    (same : ∀ run, run ∈ inputs ↔ run ∈ inputs') {byId byId' : List (String × Run)}
    (kept : Kept inputs byId) (kept' : Kept inputs' byId') :
    sortedSources runtime byId = sortedSources runtime byId' := by
  have := transCmp_compareSources runtime
  have perm : byId.Perm byId' := by
    refine Keyed.perm_of_get?_eq kept.nodup kept'.nodup fun id => Option.ext fun run => ?_
    rw [kept.keeps, kept'.keeps, same]
  have sorted := @Sorting.sort_eq_of_perm _ _ (compareSources runtime) _ id _ _
    (perm.map Prod.snd) ?_
  · exact sorted
  · intro a ha b hb tied
    exact poolable.one a (kept.mem.mp ha) b (kept.mem.mp hb)
      (apart a (kept.mem.mp ha) b (kept.mem.mp hb) tied)

/-- Neither the order of the inputs nor a repetition changes the pooled dataset, whose sources are
the inputs, each once. -/
theorem combineLeaderboardDatasets_order (documents : Documents runtime catalog inputs)
    (apart : SourcesApart runtime inputs) (same : ∀ run, run ∈ inputs ↔ run ∈ inputs')
    {options : CombineDatasetsOptions} {dataset : PooledDataset}
    (h : combineLeaderboardDatasets runtime catalog options inputs = .ok (.pooled dataset)) :
    combineLeaderboardDatasets runtime catalog options inputs' = .ok (.pooled dataset) ∧
      (dataset.sources.map (·.runId)).Nodup ∧ ∀ run, run ∈ dataset.sources ↔ run ∈ inputs := by
  obtain ⟨byId, first, second, rest, collected, sorted, pooled⟩ := pooled_of_ok h
  obtain ⟨kept, poolable⟩ := collect_reads documents collected
  have documents' : Documents runtime catalog inputs' :=
    ⟨fun run listed => documents.digested run ((same run).mpr listed),
      fun a ha b hb => documents.separated a ((same a).mpr ha) b ((same b).mpr hb)⟩
  have poolable' : Poolable catalog inputs' :=
    ⟨fun run listed => poolable.accepted run ((same run).mpr listed),
      fun a ha b hb => poolable.one a ((same a).mpr ha) b ((same b).mpr hb)⟩
  obtain ⟨byId', collected', kept'⟩ := collect_returns documents' poolable'
  have sources : dataset.sources = sortedSources runtime byId := by
    simp only [poolSources, bind_eq_ok, pure_eq_ok] at pooled
    obtain ⟨_, _, _, _, _, _, _, _, rows, _, rfl⟩ := pooled
    rw [sorted]
  refine ⟨?_, ?_, ?_⟩
  · simp only [combineLeaderboardDatasets, collected', ok_bind,
      ← sortedSources_eq apart poolable same kept kept', sorted, pooled]
    rfl
  · rw [sources, sortedSources]
    refine ((List.perm_insertionSort _ _).map _).nodup_iff.mpr ?_
    have ids : (byId.map Prod.snd).map (·.runId) = byId.map Prod.fst := by
      rw [List.map_map]
      refine List.map_congr_left fun entry listed => ?_
      exact ((kept.keeps entry.1 entry.2).mp (Keyed.get?_of_mem kept.nodup listed)).2
    exact ids ▸ kept.nodup
  · intro run
    rw [sources, sortedSources, List.mem_insertionSort]
    exact kept.mem

end

/-- The later dataset read first, and read again. -/
theorem combineLeaderboardDatasets_order_sample : ∃ dataset,
    combineLeaderboardDatasets plainRuntime datasetCatalog ⟨some "reviewed"⟩ datasets =
        .ok (.pooled dataset) ∧
      combineLeaderboardDatasets plainRuntime datasetCatalog ⟨some "reviewed"⟩
        [laterRun, earlierRun, laterRun] = .ok (.pooled dataset) := by
  obtain ⟨dataset, pooled, _⟩ := datasets_pool
  have either : ∀ run ∈ datasets, run = earlierRun ∨ run = laterRun := by
    simp [datasets]
  have documents : Documents plainRuntime datasetCatalog datasets := by
    have apart : evidenceDigest plainRuntime (datasetCatalog.document earlierRun) ≠
        evidenceDigest plainRuntime (datasetCatalog.document laterRun) := by
      decide +kernel
    constructor
    · intro run listed
      rcases either run listed with rfl | rfl
      · exact ⟨"sha256:\x7b\"runId\":\"7\"\x7d", by decide +kernel⟩
      · exact ⟨"sha256:\x7b\"runId\":\"8\"\x7d", by decide +kernel⟩
    · intro a ha b hb digest own other
      have same := own.trans other.symm
      rcases either a ha with rfl | rfl
      · rcases either b hb with rfl | rfl
        · rfl
        · exact absurd same apart
      · rcases either b hb with rfl | rfl
        · exact absurd same.symm apart
        · rfl
  have apart : SourcesApart plainRuntime datasets := by
    have before : compareSources plainRuntime earlierRun laterRun ≠ .eq := by
      decide +kernel
    have after : compareSources plainRuntime laterRun earlierRun ≠ .eq := by
      decide +kernel
    intro a ha b hb tied
    rcases either a ha with rfl | rfl
    · rcases either b hb with rfl | rfl
      · rfl
      · exact absurd tied before
    · rcases either b hb with rfl | rfl
      · exact absurd tied after
      · rfl
  have same : ∀ run, run ∈ datasets ↔ run ∈ [laterRun, earlierRun, laterRun] := by
    intro run
    simp only [datasets, List.mem_cons, List.not_mem_nil, or_false]
    tauto
  exact ⟨dataset, pooled, (combineLeaderboardDatasets_order documents apart same pooled).1⟩

end LeaderboardDatasets
