import SandboxBenchmarks.AggregateParse

/-!
# Repricing a Run

`rederiveRunEconomics` of `packages/results/src/lib/reprice.ts` drops the economics
of a Run and derives them again, in a module of its own. It agrees with the
derivation of a merge, and doing it twice is doing it once.
-/

namespace RepriceRun

open Aggregate CanonicalJson Checks PlanVerification RunModel RunSchema

variable (runtime : Runtime) (catalog : Catalog)

/-- `Object.values(ECONOMICS_METRIC_IDS)` -/
def economicsMetricIds : List String :=
  ["usd_per_hour", "usd_per_lifecycle", "usd_per_compute_run"]

def isEconomics (metric : MetricResult) : Bool := economicsMetricIds.contains metric.metricId

/-- `const { derived: _derived, ...legacyEconomics } = economics` -/
def legacyEconomics (economics : MetricResult) : MetricResult := { economics with derived := false }

def retainedMetrics (metrics : List MetricResult) : List MetricResult :=
  metrics.filter (fun metric => ! isEconomics metric)

/-- The economics of what a row measured, without the marker in a Run that cannot carry it. -/
def rederivedEconomics (keepDerivedMarker : Bool) (providerId : String) (targetSpec : TargetSpec)
    (retained : List MetricResult) : List MetricResult :=
  let measured := retained.filter (fun metric => ! isDerivedMetric catalog metric)
  let hourly := (catalog.hourlyCostAtTargetSpec providerId).bind (fun cost => cost targetSpec)
  let economics := if measured.isEmpty then [] else deriveEconomics hourly measured
  if keepDerivedMarker then economics else economics.map legacyEconomics

def repricedMetrics (keepDerivedMarker : Bool) (targetSpec : TargetSpec) (row : ProviderRun) :
    List MetricResult :=
  let retained := retainedMetrics row.metrics
  byLocale runtime (·.metricId)
    (retained ++ rederivedEconomics catalog keepDerivedMarker row.providerId targetSpec retained)

def repricedRow (keepDerivedMarker : Bool) (targetSpec : TargetSpec) (row : ProviderRun) :
    ProviderRun :=
  { row with metrics := repricedMetrics runtime catalog keepDerivedMarker targetSpec row }

/-- Some row carries the price of a whole pipeline. -/
def hasComputeRun (run : Run) : Bool :=
  run.providers.any (fun row => row.metrics.any (fun m => m.metricId == "usd_per_compute_run"))

def repricedRun (run : Run) : Run :=
  { run with
    providers := run.providers.map
      (repricedRow runtime catalog (decide (4 ≤ run.schemaVersion)) run.targetSpec) }

def rederiveRunEconomics (run : Run) : Except String Run := do
  throwIf (hasComputeRun run = true)
    "cannot reprice a Run containing usd_per_compute_run: whole-pipeline runtime is not retained"
  parseRun catalog (repricedRun runtime catalog run)

variable {runtime catalog}

/-- The catalog marks the economics as derived. -/
def EconomicsDerived (catalog : Catalog) : Prop :=
  ∀ metricId ∈ economicsMetricIds, (catalog.getMetric metricId).any (·.derived) = true

lemma isDerivedMetric_of_isEconomics (priced : EconomicsDerived catalog) {m : MetricResult}
    (h : isEconomics m = true) : isDerivedMetric catalog m = true := by
  rw [isEconomics, List.contains_iff_mem] at h
  rw [isDerivedMetric, priced m.metricId h, Bool.or_true]

/-! ### Derived economics -/

/-- Derivation depends on the measured metrics, not on their order. -/
lemma deriveEconomics_perm {hourly : Option ℚ} {measured measured' : List MetricResult}
    (h : measured.Perm measured') :
    deriveEconomics hourly measured = deriveEconomics hourly measured' := by
  cases hourly with
  | none => rfl
  | some hourly =>
    have lifecycle := h.filter (fun m => lifecycleMetricIds.contains m.metricId)
    have total := (lifecycle.map (fun m => m.aggregates.mean)).sum_eq
    have empty : (measured.filter (fun m => lifecycleMetricIds.contains m.metricId)).isEmpty =
        (measured'.filter (fun m => lifecycleMetricIds.contains m.metricId)).isEmpty := by
      rw [Bool.eq_iff_iff, List.isEmpty_iff, List.isEmpty_iff]
      exact ⟨fun none => (none ▸ lifecycle).nil_eq.symm, fun none => (none ▸ lifecycle).eq_nil⟩
    simp only [deriveEconomics, total, empty]

lemma rederivedEconomics_perm {marker : Bool} {providerId : String} {targetSpec : TargetSpec}
    {retained retained' : List MetricResult} (h : retained.Perm retained') :
    rederivedEconomics catalog marker providerId targetSpec retained =
      rederivedEconomics catalog marker providerId targetSpec retained' := by
  have measured := h.filter (fun metric => ! isDerivedMetric catalog metric)
  have empty : (retained.filter (fun metric => ! isDerivedMetric catalog metric)).isEmpty =
      (retained'.filter (fun metric => ! isDerivedMetric catalog metric)).isEmpty := by
    rw [Bool.eq_iff_iff, List.isEmpty_iff, List.isEmpty_iff]
    exact ⟨fun none => (none ▸ measured).nil_eq.symm, fun none => (none ▸ measured).eq_nil⟩
  simp only [rederivedEconomics, empty, deriveEconomics_perm measured]

lemma metricId_of_mem_rederivedEconomics {marker : Bool} {providerId : String}
    {targetSpec : TargetSpec} {retained : List MetricResult} {m : MetricResult}
    (h : m ∈ rederivedEconomics catalog marker providerId targetSpec retained) :
    m.metricId = "usd_per_hour" ∨ m.metricId = "usd_per_lifecycle" := by
  simp only [rederivedEconomics] at h
  split at h
  · split at h
    · cases h
    · exact metricId_of_mem_deriveEconomics h
  · obtain ⟨economics, derived, rfl⟩ := List.mem_map.mp h
    split at derived
    · cases derived
    · have named := metricId_of_mem_deriveEconomics derived
      exact named

lemma isEconomics_of_mem_rederivedEconomics {marker : Bool} {providerId : String}
    {targetSpec : TargetSpec} {retained : List MetricResult} {m : MetricResult}
    (h : m ∈ rederivedEconomics catalog marker providerId targetSpec retained) :
    isEconomics m = true := by
  rw [isEconomics, List.contains_iff_mem]
  rcases metricId_of_mem_rederivedEconomics h with named | named
  · rw [named]
    exact List.mem_cons_self
  · rw [named]
    exact List.mem_cons_of_mem _ List.mem_cons_self

/-! ### One row -/

section
variable {marker : Bool} {targetSpec : TargetSpec} {row : ProviderRun}

lemma isEconomics_of_mem_retainedMetrics {metrics : List MetricResult} {m : MetricResult}
    (h : m ∈ retainedMetrics metrics) : isEconomics m = false := by
  simpa using (List.mem_filter.mp h).2

/-- Repricing keeps what is no economics metric. -/
lemma retainedMetrics_sorted {l economics : List MetricResult}
    (plain : ∀ m ∈ l, isEconomics m = false) (derived : ∀ m ∈ economics, isEconomics m = true) :
    (retainedMetrics (byLocale runtime (·.metricId) (l ++ economics))).Perm l := by
  have sorted := List.perm_insertionSort
    (Sorting.upTo runtime.localeCompare (fun m : MetricResult => m.metricId)) (l ++ economics)
  have kept := sorted.filter (fun metric => ! isEconomics metric)
  have left : l.filter (fun metric => ! isEconomics metric) = l :=
    List.filter_eq_self.mpr (fun m hm => by simp [plain m hm])
  have right : economics.filter (fun metric => ! isEconomics metric) = [] := by
    rw [List.filter_eq_nil_iff]
    exact fun m hm => by simp [derived m hm]
  rwa [List.filter_append, left, right, List.append_nil] at kept

/-- A row whose metrics are what it retains with the economics derived from it stays as it is. -/
theorem repricedMetrics_eq {l : List MetricResult} (plain : ∀ m ∈ l, isEconomics m = false)
    (metrics : row.metrics = byLocale runtime (·.metricId)
      (l ++ rederivedEconomics catalog marker row.providerId targetSpec l)) :
    repricedMetrics runtime catalog marker targetSpec row = row.metrics := by
  have := runtime.collation
  have := Sorting.total_upTo runtime.localeCompare (fun m : MetricResult => m.metricId)
  have := Sorting.trans_upTo runtime.localeCompare (fun m : MetricResult => m.metricId)
  have derived : ∀ m ∈ rederivedEconomics catalog marker row.providerId targetSpec l,
      isEconomics m = true := fun m hm => isEconomics_of_mem_rederivedEconomics hm
  have same : rederivedEconomics catalog marker row.providerId targetSpec
        (retainedMetrics row.metrics) =
      rederivedEconomics catalog marker row.providerId targetSpec l := by
    rw [metrics]
    exact rederivedEconomics_perm (retainedMetrics_sorted plain derived)
  rw [repricedMetrics, same, metrics]
  exact Sorting.insertionSort_filter_append (fun m hm => by simp [plain m hm])
    (fun m hm => by simp [derived m hm])

lemma repricedRow_eq {l : List MetricResult} (plain : ∀ m ∈ l, isEconomics m = false)
    (metrics : row.metrics = byLocale runtime (·.metricId)
      (l ++ rederivedEconomics catalog marker row.providerId targetSpec l)) :
    repricedRow runtime catalog marker targetSpec row = row := by
  rw [repricedRow, repricedMetrics_eq plain metrics]

theorem repricedRow_idem : repricedRow runtime catalog marker targetSpec
      (repricedRow runtime catalog marker targetSpec row) =
    repricedRow runtime catalog marker targetSpec row :=
  repricedRow_eq (fun _ hm => isEconomics_of_mem_retainedMetrics hm) rfl

/-- What repricing may do to a row: only economics metrics differ. -/
structure Repriced (catalog : Catalog) (row row' : ProviderRun) : Prop where
  frame : row' = { row with metrics := row'.metrics }
  measured : (row'.metrics.filter (fun m => ! isDerivedMetric catalog m)).Perm
    (row.metrics.filter (fun m => ! isDerivedMetric catalog m))
  retained : (retainedMetrics row'.metrics).Perm (retainedMetrics row.metrics)

/-- What is measured is retained. -/
lemma measured_of_retained (priced : EconomicsDerived catalog) (metrics : List MetricResult) :
    (retainedMetrics metrics).filter (fun m => ! isDerivedMetric catalog m) =
      metrics.filter (fun m => ! isDerivedMetric catalog m) := by
  rw [retainedMetrics, List.filter_filter]
  refine List.filter_congr (fun m _ => ?_)
  cases economics : isEconomics m with
  | false => simp
  | true => simp [isDerivedMetric_of_isEconomics priced economics]

theorem repricedRow_repriced (priced : EconomicsDerived catalog) :
    Repriced catalog row (repricedRow runtime catalog marker targetSpec row) := by
  have retained : (retainedMetrics (repricedRow runtime catalog marker targetSpec row).metrics).Perm
      (retainedMetrics row.metrics) :=
    retainedMetrics_sorted (fun _ hm => isEconomics_of_mem_retainedMetrics hm)
      (fun _ hm => isEconomics_of_mem_rederivedEconomics hm)
  have measured := retained.filter (fun m => ! isDerivedMetric catalog m)
  rw [measured_of_retained priced, measured_of_retained priced] at measured
  exact ⟨rfl, measured, retained⟩

end

/-! ### The Run -/

section
variable {run run' : Run}

lemma repricedRun_eq (rows : ∀ row ∈ run.providers,
    repricedRow runtime catalog (decide (4 ≤ run.schemaVersion)) run.targetSpec row = row) :
    repricedRun runtime catalog run = run := by
  rw [repricedRun, List.map_congr_left rows, List.map_id']

theorem repricedRun_idem : repricedRun runtime catalog (repricedRun runtime catalog run) =
    repricedRun runtime catalog run := by
  apply repricedRun_eq
  intro row hrow
  obtain ⟨row, _, rfl⟩ := List.mem_map.mp hrow
  exact repricedRow_idem

lemma hasComputeRun_repricedRun : hasComputeRun (repricedRun runtime catalog run) = false := by
  rw [hasComputeRun, List.any_eq_false]
  intro row hrow
  obtain ⟨row, _, rfl⟩ := List.mem_map.mp hrow
  rw [List.any_eq_true]
  rintro ⟨m, hm, named⟩
  rw [beq_iff_eq] at named
  simp only [repricedRow, repricedMetrics, byLocale, List.mem_insertionSort, List.mem_append] at hm
  rcases hm with kept | derived
  · have plain := isEconomics_of_mem_retainedMetrics kept
    rw [isEconomics, named] at plain
    exact absurd plain (by decide)
  · rcases metricId_of_mem_rederivedEconomics derived with other | other
    · exact absurd (named.symm.trans other) (by decide)
    · exact absurd (named.symm.trans other) (by decide)

theorem rederiveRunEconomics_ok_iff : rederiveRunEconomics runtime catalog run = .ok run' ↔
    hasComputeRun run = false ∧ run' = repricedRun runtime catalog run ∧
      AcceptedRun catalog (repricedRun runtime catalog run) := by
  simp only [rederiveRunEconomics, bind_eq_ok, throwIf_eq_ok, exists_const, parseRun_ok_iff,
    Bool.not_eq_true]

/-! ### Merged Runs -/

/-- What a merge publishes of a metric is as underived as what it was measured as. -/
lemma underived_of_merged {entries : List ReplicateSlice} {byMetric : List (String × ByReplicate)}
    (measured : Measured catalog (listings runtime entries) byMetric) {m : MetricResult}
    (h : m ∈ byMetric.filterMap (fun entry => mergeMetricReplicates entry.2)) :
    isDerivedMetric catalog m = false := by
  obtain ⟨⟨metricId, byReplicate⟩, filed, merged⟩ := List.mem_filterMap.mp h
  rcases mergeMetricReplicates_some merged with ⟨⟨index, c⟩, hc, rfl⟩ |
    ⟨first, rest, perm, _, rfl⟩
  · obtain ⟨_, _, from_slice⟩ := contributed_of_filed measured filed hc
    exact from_slice.underived
  · obtain ⟨_, _, from_slice⟩ :=
      contributed_of_filed measured filed (perm.mem_iff.mp List.mem_cons_self)
    exact from_slice.underived

/-- The economics a merge publishes are those repricing derives. -/
lemma publishedMetrics_eq {providerId : String} {targetSpec : TargetSpec}
    {measured : List MetricResult} (underived : ∀ m ∈ measured, isDerivedMetric catalog m = false) :
    publishedMetrics runtime catalog providerId targetSpec measured =
      byLocale runtime (·.metricId)
        (measured ++ rederivedEconomics catalog true providerId targetSpec measured) := by
  have all : measured.filter (fun m => ! isDerivedMetric catalog m) = measured :=
    List.filter_eq_self.mpr (fun m hm => by simp [underived m hm])
  simp only [publishedMetrics, rederivedEconomics, all, if_true]

lemma repricedRow_mergedRow (priced : EconomicsDerived catalog) {entries : List ReplicateSlice}
    {merge : Merge} (collected : Collected runtime catalog entries merge) {providerId : String}
    {targetSpec : TargetSpec} {emit : Bool} {mixtures : Option ObservedMixtures} :
    repricedRow runtime catalog true targetSpec
        (mergedRow runtime catalog providerId targetSpec emit merge mixtures) =
      mergedRow runtime catalog providerId targetSpec emit merge mixtures := by
  have measured : Measured catalog (listings runtime entries) _ := measured_run _
  rw [← collected.byMetric] at measured
  have underived := fun m (hm : m ∈ merge.byMetric.filterMap _) => underived_of_merged measured hm
  refine repricedRow_eq (fun m hm => ?_) (publishedMetrics_eq underived)
  cases economics : isEconomics m with
  | false => rfl
  | true =>
    have derived := isDerivedMetric_of_isEconomics priced economics
    exact absurd ((underived m hm).symm.trans derived) (by decide)

theorem repricedRun_aggregateRuns (priced : EconomicsDerived catalog) {runs : List Run}
    (h : aggregateRuns runtime catalog runs = .ok run) :
    repricedRun runtime catalog run = run ∧ AcceptedRun catalog run := by
  rw [aggregateRuns_eq, bind_eq_ok] at h
  obtain ⟨merged, merges, parsed⟩ := h
  obtain ⟨rfl, accepted⟩ := parseRun_ok_iff.mp parsed
  obtain ⟨first, emit, providers, merging, rfl⟩ := mergeRuns_ok merges
  refine ⟨?_, accepted⟩
  have marker : decide (4 ≤ (mergedRun runtime first runs emit providers).schemaVersion) = true := by
    cases emit with
    | false => rfl
    | true => rfl
  apply repricedRun_eq
  intro row hrow
  obtain ⟨providerId, merge, mixtures, collected, _, rfl⟩ := merging.row hrow
  rw [marker]
  exact repricedRow_mergedRow priced collected

end

/-- Every provider costs 9 cents an hour. -/
def pricedCatalog : Catalog :=
  { plainCatalog with
    getMetric := fun metricId => some ⟨false, economicsMetricIds.contains metricId⟩
    hourlyCostAtTargetSpec := fun _ => some (fun _ => some (9 / 100)) }

def lifecycleMetric (value : ℚ) : MetricResult :=
  { economicsResult "lifecycle_exec_ms" value with derived := false }

/-- A shard that executed for four seconds when an hour cost a dollar. -/
def lifecycleShard : Run :=
  { smallShard with
    providers := [{ smallRow with
      validationStatus := .validated
      metrics := [lifecycleMetric 4000, economicsResult "usd_per_hour" 1] }] }

/-- What the rows of a Run measured and cost. -/
def priceTags (run : Run) : List (List (String × ℚ)) :=
  run.providers.map (fun row => row.metrics.map (fun m => (m.metricId, m.aggregates.mean)))

end RepriceRun
