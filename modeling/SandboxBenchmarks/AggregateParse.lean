import SandboxBenchmarks.AggregateRows

/-!
# The final parse of a merge

`aggregateRuns` parses what it merged before it returns it. Shards that pass its
conflict checks merge to a valid Run exactly when the causes of every row's gaps
fit the gaps they are kept with.
-/

namespace Aggregate

open CanonicalJson Checks JsonText PlanVerification RunModel RunSchema

variable {runtime : Runtime} {catalog : Catalog}

/-- `aggregateRuns` up to its final parse. -/
def mergeRuns (runtime : Runtime) (catalog : Catalog) (runs : List Run) : Except String Run := do
  throwIf (runs.any (fun run => run.experiment.isSome) = true)
    "aggregateRuns cannot merge completed experiments; use original planned attempts to preserve eligibility and provenance"
  let first ← require runs.head? "aggregateRuns requires at least one shard Run"
  let emitArtifactEvidence := runs.all (fun run => decide (6 ≤ run.schemaVersion))
  throwIf (emitArtifactEvidence = false ∧ runs.any (fun run => decide (6 ≤ run.schemaVersion)) = true)
    "aggregateRuns: cannot mix v6 artifact-attributed shards with older shards"
  forM runs (checkIdentity runtime first)
  let providers ← (providerIdsOf runtime runs).mapM (fun id =>
    mergeProvider runtime catalog id (slicesOf id runs) first.targetSpec emitArtifactEvidence)
  return mergedRun runtime first runs emitArtifactEvidence providers

theorem aggregateRuns_eq (runs : List Run) :
    aggregateRuns runtime catalog runs = mergeRuns runtime catalog runs >>= parseRun catalog := by
  simp only [aggregateRuns, mergeRuns, bind_assoc, pure_bind]

/-- Shards as the normalizer emits them. -/
structure Normalized (catalog : Catalog) (runs : List Run) : Prop where
  shards : ∀ run ∈ runs, Shard catalog run
  judged : ∀ run ∈ runs, ∀ row ∈ run.providers,
    row.specMatched = computeSpecMatched row.observedSpecs

/-- All sandboxes of a provider booted one artifact. -/
def OneArtifact (runs : List Run) (providerId : String) : Prop :=
  ∀ a ∈ artifactsOf (slicesOf providerId runs), ∀ b ∈ artifactsOf (slicesOf providerId runs),
    effectiveArtifact a.provenance = effectiveArtifact b.provenance

section
variable {runs : List Run} {merged : Run}

lemma Normalized.emitted (normalized : Normalized catalog runs) (providerId : String) :
    Emitted catalog (slicesOf providerId runs) := by
  constructor
  · intro e he
    obtain ⟨run, hr, row, hrow, _, rfl⟩ := mem_slicesOf.mp he
    exact (normalized.shards run hr).accepted.rows row hrow
  · intro e he
    obtain ⟨run, hr, row, hrow, _, rfl⟩ := mem_slicesOf.mp he
    exact (normalized.shards run hr).unmerged row hrow
  · intro e he
    obtain ⟨run, hr, row, hrow, _, rfl⟩ := mem_slicesOf.mp he
    exact (normalized.shards run hr).unfolded row hrow
  · intro e he
    obtain ⟨run, hr, row, hrow, _, rfl⟩ := mem_slicesOf.mp he
    exact normalized.judged run hr row hrow

/-- What the conflict checks establish. -/
structure Merging (runtime : Runtime) (catalog : Catalog) (runs : List Run) (first : Run)
    (emit : Bool) (providers : List ProviderRun) : Prop where
  head : runs.head? = some first
  identity : ∀ run ∈ runs, run.runId = first.runId ∧ run.sha = first.sha ∧
    run.targetSpec = first.targetSpec
  versions : ∀ run ∈ runs, 6 ≤ run.schemaVersion ↔ emit = true
  rows : (providerIdsOf runtime runs).mapM (fun id =>
    mergeProvider runtime catalog id (slicesOf id runs) first.targetSpec emit) = .ok providers

theorem mergeRuns_ok (h : mergeRuns runtime catalog runs = .ok merged) :
    ∃ first emit providers, Merging runtime catalog runs first emit providers ∧
      merged = mergedRun runtime first runs emit providers := by
  simp only [mergeRuns, bind_eq_ok, throwIf_eq_ok, require_eq_ok, forM_eq_ok, exists_const,
    pure_eq_ok] at h
  obtain ⟨_, first, head, versions, identity, rows, merges, rfl⟩ := h
  refine ⟨first, _, rows, ⟨head, ?_, ?_, merges⟩, rfl⟩
  · intro run hr
    have ok := identity run hr
    simp only [checkIdentity, bind_eq_ok, throwIf_eq_ok, exists_const, not_or, not_not] at ok
    exact ⟨ok.1.1, ok.1.2, ok.2⟩
  · intro run hr
    cases all : runs.all (fun run => decide (6 ≤ run.schemaVersion)) with
    | true => simpa using List.all_eq_true.mp all run hr
    | false =>
      simp only [Bool.false_eq_true, iff_false]
      intro late
      exact versions ⟨all, List.any_eq_true.mpr ⟨run, hr, decide_eq_true late⟩⟩

lemma latest_mem (runtime : Runtime) (nonempty : runs ≠ []) : ∃ run ∈ runs, latest runtime runs = run.generatedAt := by
  have perm := List.perm_insertionSort (Sorting.upTo runtime.localeCompare (id : String → String))
    (runs.map (·.generatedAt))
  cases last : (byLocale runtime id (runs.map (·.generatedAt))).getLast? with
  | none =>
    rw [List.getLast?_eq_none_iff] at last
    rw [show List.insertionSort _ _ = [] from last] at perm
    exact absurd (List.map_eq_nil_iff.mp perm.nil_eq.symm) nonempty
  | some t =>
    have member := perm.mem_iff.mp (List.mem_of_getLast? last)
    obtain ⟨run, hr, rfl⟩ := List.mem_map.mp member
    exact ⟨run, hr, by rw [latest, last, Option.getD_some]⟩

lemma slice_of_published {entries : List ReplicateSlice} {merge : Merge}
    (collected : Collected runtime catalog entries merge) {providerId : String}
    {targetSpec : TargetSpec}
    (nonempty : publishedMetrics runtime catalog providerId targetSpec
      (merge.byMetric.filterMap (fun entry => mergeMetricReplicates entry.2)) ≠ []) :
    ∃ e ∈ entries, e.slice.metrics ≠ [] := by
  have measured : Measured catalog (listings runtime entries) _ := measured_run _
  rw [← collected.byMetric] at measured
  cases filed : merge.byMetric with
  | nil =>
    rw [filed] at nonempty
    exact absurd rfl nonempty
  | cons entry rest =>
    obtain ⟨metricId, byReplicate⟩ := entry
    have member : (metricId, byReplicate) ∈ merge.byMetric := by simp [filed]
    obtain ⟨_, some⟩ := measured.inner _ _ (Keyed.get?_of_mem measured.nodup member)
    obtain ⟨⟨index, c⟩, _, rfl⟩ := List.exists_cons_of_ne_nil some
    obtain ⟨e, he, from_slice⟩ := contributed_of_filed measured member List.mem_cons_self
    exact ⟨e, he, List.ne_nil_of_mem from_slice.metric⟩

theorem mergedRow_evidence (normalized : Normalized catalog runs) {first : Run} {emit : Bool}
    {providers : List ProviderRun} (merging : Merging runtime catalog runs first emit providers)
    {providerId : String} (one : OneArtifact runs providerId) {merge : Merge}
    (collected : Collected runtime catalog (slicesOf providerId runs) merge)
    (mixtures : Option ObservedMixtures) :
    EvidenceFits (mergedRun runtime first runs emit providers)
      (mergedRow runtime catalog providerId first.targetSpec emit merge mixtures) := by
  have cost := fileEvidence_run collected.cost
  have artifact := fileEvidence_run collected.artifact
  have fits : ∀ run ∈ runs, ∀ row ∈ run.providers, row.providerId = providerId →
      ∀ cell, CellFits run row cell → CellFits (mergedRun runtime first runs emit providers)
        (mergedRow runtime catalog providerId first.targetSpec emit merge mixtures) cell := by
    intro run hr row _ named cell here
    exact ⟨here.runId.trans (merging.identity run hr).1, here.providerId.trans named,
      fun replicate => absurd rfl replicate⟩
  have attributed : ∀ r ∈ sortedEvidence runtime artifactEvidenceKind merge.artifact.byCell,
      CellFits (mergedRun runtime first runs emit providers)
        (mergedRow runtime catalog providerId first.targetSpec emit merge mixtures) r.cell := by
    intro r hr
    obtain ⟨e, he, listed⟩ := List.mem_flatMap.mp (mem_sortedEvidence artifact hr)
    obtain ⟨run, hrun, row, hrow, named, rfl⟩ := mem_slicesOf.mp he
    exact fits run hrun row hrow named _
      (((normalized.shards run hrun).accepted.evidence row hrow).artifactCells r listed)
  have billed : ∀ r ∈ sortedEvidence runtime costEvidenceKind merge.cost.byCell,
      CellFits (mergedRun runtime first runs emit providers)
        (mergedRow runtime catalog providerId first.targetSpec emit merge mixtures) r.cell := by
    intro r hr
    obtain ⟨e, he, listed⟩ := List.mem_flatMap.mp (mem_sortedEvidence cost hr)
    obtain ⟨run, hrun, row, hrow, named, rfl⟩ := mem_slicesOf.mp he
    exact fits run hrun row hrow named _
      (((normalized.shards run hrun).accepted.evidence row hrow).costCells r listed)
  have apart : (sortedEvidence runtime artifactEvidenceKind merge.artifact.byCell).Pairwise
      Attributable := by
    refine (sortedEvidence_apart artifact).imp_of_mem ?_
    intro a b ha hb apart
    refine ⟨apart.1, fun same => apart.2 a.sandboxId rfl (congrArg some same.symm), ?_⟩
    exact one a (mem_sortedEvidence artifact ha) b (mem_sortedEvidence artifact hb)
  cases emit with
  | false =>
    refine ⟨by simp [mergedRun, mergedRow], by simp [mergedRun, mergedRow], ?_, billed, ?_, .nil⟩
    · intro late
      simp [mergedRun] at late
    · intro r hr
      cases hr
  | true =>
    refine ⟨by simp [mergedRun, mergedRow], by simp [mergedRun, mergedRow], ?_, billed, attributed,
      apart⟩
    intro _ metrics empty
    obtain ⟨e, he, measured⟩ := slice_of_published collected metrics
    obtain ⟨run, hrun, row, hrow, named, rfl⟩ := mem_slicesOf.mp he
    have evidence := (normalized.shards run hrun).accepted.evidence row hrow
    obtain ⟨r, rest, some⟩ := List.exists_cons_of_ne_nil
      (evidence.attributed ((merging.versions run hrun).mpr rfl) measured)
    have listed : r ∈ artifactsOf (slicesOf providerId runs) :=
      List.mem_flatMap.mpr ⟨_, he, by rw [some]; exact List.mem_cons_self⟩
    have filed := artifact.nonempty (List.ne_nil_of_mem listed)
    have perm := List.perm_insertionSort
      (fun a b => byEvidenceCell runtime artifactEvidenceKind a b)
      (merge.artifact.byCell.map Prod.snd)
    rw [show List.insertionSort _ _ = [] from empty] at perm
    exact filed (List.map_eq_nil_iff.mp perm.nil_eq.symm)

lemma Merging.row {first : Run} {emit : Bool} {providers : List ProviderRun}
    (merging : Merging runtime catalog runs first emit providers) {row : ProviderRun}
    (hrow : row ∈ providers) : ∃ providerId merge mixtures,
      Collected runtime catalog (slicesOf providerId runs) merge ∧
      buildObservedMixtures runtime (sandboxReadings (slicesOf providerId runs)) = .ok mixtures ∧
      row = mergedRow runtime catalog providerId first.targetSpec emit merge mixtures := by
  obtain ⟨providerId, _, ok⟩ := mem_mapM merging.rows hrow
  exact ⟨providerId, mergeProvider_ok ok⟩

theorem mergeRuns_coherent (normalized : Normalized catalog runs)
    (passed : mergeRuns runtime catalog runs = .ok merged) :
    ∀ row ∈ merged.providers, Coherent row := by
  obtain ⟨first, emit, providers, merging, rfl⟩ := mergeRuns_ok passed
  intro row hrow
  obtain ⟨providerId, merge, mixtures, collected, built, rfl⟩ := merging.row hrow
  exact mergedRow_coherent (normalized.emitted providerId) collected built

lemma checkVersion_late {version : Nat} (late : 5 ≤ version) (row : ProviderRun) :
    checkVersion version row = .ok () := by
  have not_early : ¬ version < 4 := by omega
  have not_first : ¬ version < 3 := by omega
  simp only [checkVersion, bind_eq_ok, throwIf_eq_ok, exists_const, not_early, not_first, false_and,
    not_false_eq_true, and_self]

/-- What was merged is a valid Run exactly when every row's gaps have fitting causes. -/
theorem mergeRuns_accepted_iff (normalized : Normalized catalog runs)
    (one : ∀ providerId, OneArtifact runs providerId)
    (passed : mergeRuns runtime catalog runs = .ok merged) :
    AcceptedRun catalog merged ↔
      ∀ providerId, CausesFit runtime (gapsOf (slicesOf providerId runs)) := by
  obtain ⟨first, emit, providers, merging, rfl⟩ := mergeRuns_ok passed
  have hfirst : first ∈ runs := List.mem_of_head? merging.head
  have accepted := (normalized.shards first hfirst).accepted
  have late : 5 ≤ (mergedRun runtime first runs emit providers).schemaVersion ∧
      (mergedRun runtime first runs emit providers).schemaVersion ≤ 6 := by
    cases emit <;> simp [mergedRun]
  constructor
  · intro whole providerId
    by_cases present : providerId ∈ providerIdsOf runtime runs
    · obtain ⟨row, hrow, ok⟩ := mapM_mem merging.rows present
      obtain ⟨merge, mixtures, collected, built, rfl⟩ := mergeProvider_ok ok
      exact (mergedRow_accepted_iff (normalized.emitted providerId) collected built).mp
        (whole.rows _ hrow)
    · have absent : slicesOf providerId runs = [] := by
        rw [List.eq_nil_iff_forall_not_mem]
        intro e he
        obtain ⟨run, hr, row, hrow, rfl, _⟩ := mem_slicesOf.mp he
        refine present ?_
        rw [providerIdsOf, byLocale, List.mem_insertionSort, Keyed.mem_setOf]
        exact List.mem_flatMap.mpr ⟨run, hr, List.mem_map_of_mem hrow⟩
      rw [absent]
      intro k first cause head
      cases head
  · intro fit
    obtain ⟨run, hrun, generated⟩ := latest_mem runtime (List.ne_nil_of_mem hfirst)
    refine ⟨by omega, accepted.runId, ?_, accepted.targetSpec, ?_, ?_, by rintro _ ⟨⟩, fun h => absurd rfl h,
      fun row _ => checkVersion_late late.1 row, ?_, fun h => absurd rfl h⟩
    · show catalog.iso (latest runtime runs) = true
      rw [generated]
      exact (normalized.shards run hrun).accepted.generatedAt
    · intro row hrow
      obtain ⟨providerId, merge, mixtures, collected, built, rfl⟩ := merging.row hrow
      exact (mergedRow_accepted_iff (normalized.emitted providerId) collected built).mpr
        (fit providerId)
    · refine ⟨fun published => ?_, fun linked => absurd rfl linked⟩
      have := late.2
      omega
    · intro row hrow
      obtain ⟨providerId, merge, mixtures, collected, built, rfl⟩ := merging.row hrow
      exact mergedRow_evidence normalized merging (one providerId) collected mixtures

end

/-- The small machine, judged off the pinned target, with some gaps. -/
def gapShard (gaps : List ResultGap) : Run :=
  { smallShard with providers := [{ smallRow with specMatched := some false, gaps := gaps }] }

lemma gapShard_normalized (gaps : List ResultGap)
    (valid : (parseRun plainCatalog (gapShard gaps)).isOk = true) :
    Normalized plainCatalog [gapShard gaps] ∧
      ∀ providerId, OneArtifact [gapShard gaps] providerId := by
  refine ⟨⟨?_, ?_⟩, ?_⟩
  · intro run hr
    obtain rfl := List.mem_singleton.mp hr
    refine ⟨?_, rfl, ?_, ?_⟩
    · cases parsed : parseRun plainCatalog (gapShard gaps) with
      | error e =>
        rw [parsed] at valid
        cases valid
      | ok run => exact (parseRun_ok_iff.mp parsed).2
    · intro row hrow
      obtain rfl := List.mem_singleton.mp hrow
      rfl
    · intro row hrow m hm
      obtain rfl := List.mem_singleton.mp hrow
      cases hm
  · intro run hr row hrow
    obtain rfl := List.mem_singleton.mp hr
    obtain rfl := List.mem_singleton.mp hrow
    show some false = computeSpecMatched smallRow.observedSpecs
    decide +kernel
  · intro providerId a ha
    obtain ⟨e, he, listed⟩ := List.mem_flatMap.mp ha
    obtain ⟨run, hr, row, hrow, _, rfl⟩ := mem_slicesOf.mp he
    obtain rfl := List.mem_singleton.mp hr
    obtain rfl := List.mem_singleton.mp hrow
    cases listed

/-- Two gaps, one skipped and one failed, whose parts join to one text. -/
def joinedGaps : List ResultGap :=
  [⟨.suite, "x", .skipped, "y\x00failed\x00z", none⟩,
    ⟨.suite, "x\x00skipped\x00y", .failed, "z", some (.stepFailed "run" (some 1))⟩]

/-- A failed gap with its cause. -/
def plainGaps : List ResultGap := [⟨.suite, "x", .failed, "z", some (.stepFailed "run" (some 1))⟩]

end Aggregate
