import SandboxBenchmarks.Library.Sorting
import SandboxBenchmarks.RunSchema

/-!
# What an accepted Run satisfies

Each narrow of the Run schema as a proposition: a Run parses exactly when the
propositions hold, and it is returned unchanged.
-/

namespace RunSchema

open Checks PlanVerification RunModel

variable {catalog : Catalog}

/-! ### Metrics and mixtures -/

/-- A breakdown of a Metric: distinct sandboxes, and exactly the pooled samples. -/
structure AcceptedBreakdown (metric : MetricResult) (replicates : List MetricReplicate) : Prop where
  several : 2 ≤ replicates.length
  distinct : (replicates.map (·.index)).Nodup
  single : ∀ r ∈ replicates, r.ptsSampleSource = some .aggregateValue →
    r.samples.values.length = 1
  union : (replicates.flatMap (·.samples.values)).Perm metric.samples.values

lemma ascending_eq_iff {l l' : List ℚ} : ascending l = ascending l' ↔ l.Perm l' := by
  constructor
  · intro same
    have perm := (List.perm_insertionSort (· ≤ ·) l).symm
    rw [show l.insertionSort (· ≤ ·) = l'.insertionSort (· ≤ ·) from same] at perm
    exact perm.trans (List.perm_insertionSort (· ≤ ·) l')
  · intro perm
    exact Sorting.insertionSort_eq_of_perm perm (fun _ _ _ _ => le_antisymm)

lemma checkReplicate_run_iff (l : List MetricReplicate) :
    (∃ indices, l.foldlM checkReplicate [] = .ok indices) ↔
      (∀ r ∈ l, r.ptsSampleSource = some .aggregateValue → r.samples.values.length = 1) ∧
        (l.map (·.index)).Nodup := by
  rw [List.Nodup, List.pairwise_map]
  apply foldlM_checked (fun passed indices => ∀ i, i ∈ indices ↔ ∃ r ∈ passed, r.index = i)
  · simp
  · intro passed indices r _ seen
    simp only [checkReplicate, bind_eq_ok, throwIf_eq_ok, exists_const, pure_eq_ok, not_and, not_not,
      exists_and_left, exists_eq', and_true, seen, not_exists]
    exact and_comm
  · intro passed indices r indices' seen step i
    simp only [checkReplicate, bind_eq_ok, throwIf_eq_ok, exists_const, pure_eq_ok] at step
    obtain ⟨_, _, rfl⟩ := step
    simp [seen, or_and_right, exists_or, eq_comm]

lemma checkReplicates_ok_iff {metric : MetricResult} {replicates : List MetricReplicate} :
    checkReplicates metric replicates = .ok () ↔ AcceptedBreakdown metric replicates := by
  have scan := checkReplicate_run_iff replicates
  simp only [checkReplicates, bind_eq_ok, throwIf_eq_ok, exists_const, not_lt, not_not,
    ascending_eq_iff, ne_eq]
  constructor
  · rintro ⟨several, indices, run, _, union⟩
    obtain ⟨single, distinct⟩ := scan.mp ⟨indices, run⟩
    exact ⟨several, distinct, single, union⟩
  · intro h
    obtain ⟨indices, run⟩ := scan.mpr ⟨h.single, h.distinct⟩
    exact ⟨h.several, indices, run, h.union.length_eq, h.union⟩

structure AcceptedMetric (metric : MetricResult) : Prop where
  count : metric.aggregates.n = metric.samples.values.length
  single : metric.ptsSampleSource = some .aggregateValue → metric.samples.values.length = 1
  origin : metric.ptsSampleSource ≠ none → metric.derived = false ∧ metric.replicates = none
  underived : metric.replicates ≠ none → metric.derived = false
  ids : metric.replicates ≠ none → metric.ids = ⟨none, none⟩
  breakdown : ∀ l, metric.replicates = some l → AcceptedBreakdown metric l

theorem metricResultSchema_ok_iff {metric : MetricResult} :
    metricResultSchema metric = .ok () ↔ AcceptedMetric metric := by
  obtain ⟨id, samples, aggregates, sourceFile, version, arguments, origin, replicates, ⟨hw, net⟩,
    derived⟩ := metric
  cases replicates with
  | none =>
    simp only [metricResultSchema, bind_eq_ok, throwIf_eq_ok, exists_const, pure_eq_ok]
    constructor
    · rintro ⟨count, single, unbroken, -⟩
      refine ⟨by simpa using count, by simpa using single, ?_, by simp, by simp, by simp⟩
      simpa using unbroken
    · intro h
      have unbroken := h.origin
      exact ⟨by simpa using h.count, by simpa using h.single, by simpa using unbroken, by simp,
        by simp, trivial⟩
  | some l =>
    simp only [metricResultSchema, bind_eq_ok, throwIf_eq_ok, exists_const, checkReplicates_ok_iff]
    constructor
    · rintro ⟨count, single, unbroken, underived, unattributed, breakdown⟩
      refine ⟨by simpa using count, by simpa using single, ?_, ?_, ?_, ?_⟩
      · simpa using unbroken
      · simpa using underived
      · simpa using unattributed
      · simpa using breakdown
    · intro h
      have unbroken := h.origin
      have underived := h.underived
      have unattributed := h.ids
      exact ⟨by simpa using h.count, by simpa using h.single, by simpa using unbroken,
        by simpa using underived, by simpa using unattributed, h.breakdown l rfl⟩

/-- One category of a row's mixtures: counted machines with the fields that tell them apart. -/
def Counted {σ : Type} (keys : List String) (count : σ → ℕ) (specs : σ → ObservedSpecs)
    (category : List (String × σ)) : Prop :=
  ∀ e ∈ category, 1 ≤ count e.2 ∧ mixtureSpecs keys (specs e.2) = true

structure AcceptedMixtures (mixtures : ObservedMixtures) : Prop where
  hardware : Counted hostHardwareSpecKeys (·.count) (·.specs) mixtures.hostHardware
  network : Counted hostNetworkSpecKeys (·.count) (·.specs) mixtures.hostNetwork
  reported : 1 ≤ mixtures.sandboxes
  hardwareSum : (mixtures.hostHardware.map (·.2.count)).sum ≤ mixtures.sandboxes
  networkSum : (mixtures.hostNetwork.map (·.2.count)).sum ≤ mixtures.sandboxes

theorem observedMixturesSchema_ok_iff {mixtures : ObservedMixtures} :
    observedMixturesSchema mixtures = .ok () ↔ AcceptedMixtures mixtures := by
  simp only [observedMixturesSchema, bind_eq_ok, throwIf_eq_ok, exists_const, Bool.not_eq_false,
    List.all_eq_true, Bool.and_eq_true, decide_eq_true_eq, not_lt, gt_iff_lt]
  constructor
  · rintro ⟨hardware, network, reported, hardwareSum, networkSum⟩
    exact ⟨hardware, network, reported, hardwareSum, networkSum⟩
  · intro h
    exact ⟨h.hardware, h.network, h.reported, h.hardwareSum, h.networkSum⟩

/-- An id, when there is one, names a mixture of the row. -/
def Resolves {σ : Type} (category : List (String × σ)) (id : Option String) : Prop :=
  ∀ k, id = some k → k ∈ category.map Prod.fst

def hardwareOf (mixtures : Option ObservedMixtures) : List (String × ObservedHardwareMixture) :=
  (mixtures.map (·.hostHardware)).getD []

def networkOf (mixtures : Option ObservedMixtures) : List (String × ObservedNetworkMixture) :=
  (mixtures.map (·.hostNetwork)).getD []

lemma resolves_eq_true {σ : Type} {category : List (String × σ)} {id : Option String} :
    resolves category id = true ↔ Resolves category id := by
  cases id with
  | none => simp [resolves, Resolves]
  | some k => simp [resolves, Resolves]

theorem checkIds_ok_iff {mixtures : Option ObservedMixtures} {holder name : String}
    {ids : ObservedMixtureIds} : checkIds mixtures holder name ids = .ok () ↔
      Resolves (hardwareOf mixtures) ids.hostHardwareId ∧
        Resolves (networkOf mixtures) ids.hostNetworkId := by
  simp only [checkIds, bind_eq_ok, throwIf_eq_ok, exists_const, Bool.not_eq_false,
    resolves_eq_true]
  rfl

/-! ### Provider rows -/

structure AcceptedRow (catalog : Catalog) (row : ProviderRun) : Prop where
  cost : ∀ e ∈ row.costEvidence.getD [], providerCostEvidenceSchema e = .ok ()
  artifacts : ∀ e ∈ row.artifactEvidence.getD [], providerArtifactEvidenceSchema catalog e = .ok ()
  mixtures : ∀ m, row.observedMixtures = some m → observedMixturesSchema m = .ok ()
  metrics : ∀ m ∈ row.metrics, metricResultSchema m = .ok ()
  gaps : ∀ g ∈ row.gaps, resultGapSchema g = .ok ()
  status : row.validationStatus = .validated → row.metrics ≠ []
  verdict : row.specMatched ≠ none → row.observedSpecs ≠ []
  metricIds : ∀ m ∈ row.metrics, checkMetricIds row.observedMixtures m = .ok ()
  hostIds : ∀ r ∈ row.hostMetadata.getD [],
    checkIds row.observedMixtures "hostMetadata" r.sourceFile r.ids = .ok ()
  offSpec : ∀ e ∈ hardwareMixtures row, e.2.specMatched = some false → row.specMatched = some false

theorem providerRunSchema_ok_iff {row : ProviderRun} :
    providerRunSchema catalog row = .ok () ↔ AcceptedRow catalog row := by
  simp only [providerRunSchema, bind_eq_ok, forM_eq_ok, throwIf_eq_ok, exists_const,
    Option.mem_toList]
  constructor
  · rintro ⟨cost, artifacts, mixtures, metrics, gaps, status, verdict, metricIds, hostIds, offSpec⟩
    refine ⟨cost, artifacts, mixtures, metrics, gaps, ?_, ?_, metricIds, hostIds, ?_⟩
    · exact fun validated empty => status ⟨validated, empty⟩
    · exact fun judged silent => verdict ⟨judged, silent⟩
    · intro e he failed
      by_contra kinder
      exact offSpec ⟨List.any_eq_true.mpr ⟨e, he, by simp [failed]⟩, kinder⟩
  · intro h
    refine ⟨h.cost, h.artifacts, h.mixtures, h.metrics, h.gaps, ?_, ?_, h.metricIds, h.hostIds, ?_⟩
    · exact fun bad => h.status bad.1 bad.2
    · exact fun bad => h.verdict bad.1 bad.2
    · rintro ⟨failed, kinder⟩
      obtain ⟨e, he, verdict⟩ := List.any_eq_true.mp failed
      exact kinder (h.offSpec e he (by simpa using verdict))

/-- A cell of evidence lies in its Run and row. -/
structure CellFits (run : Run) (row : ProviderRun) (cell : ProviderCostCell) : Prop where
  runId : cell.runId = run.runId
  providerId : cell.providerId = row.providerId
  replicate : run.replicateIndex ≠ none → cell.replicateIndex = run.replicateIndex

lemma checkCell_ok_iff {run : Run} {row : ProviderRun} {cell : ProviderCostCell} {a b : String}
    {u : Unit} : checkCell run row cell a b = .ok u ↔ CellFits run row cell := by
  simp only [checkCell, bind_eq_ok, throwIf_eq_ok, exists_const, not_or, not_not, not_and]
  constructor
  · rintro ⟨⟨runId, providerId⟩, replicate⟩
    exact ⟨runId, providerId, replicate⟩
  · intro h
    exact ⟨⟨h.runId, h.providerId⟩, h.replicate⟩

/-- Two attributions of one row: distinct cells and sandboxes, one effective artifact. -/
structure Attributable (a b : ProviderArtifactEvidence) : Prop where
  cell : providerCostCellKey a.cell ≠ providerCostCellKey b.cell
  sandbox : a.sandboxId ≠ b.sandboxId
  effective : effectiveArtifact a.provenance = effectiveArtifact b.provenance

structure Scanned (passed : List ProviderArtifactEvidence) (scan : ArtifactScan) : Prop where
  cells : ∀ k, k ∈ scan.cells ↔ ∃ e ∈ passed, providerCostCellKey e.cell = k
  sandboxes : ∀ x, x ∈ scan.sandboxes ↔ ∃ e ∈ passed, e.sandboxId = x
  some : ∀ a, scan.effective = some a → ∃ e ∈ passed, effectiveArtifact e.provenance = a
  none : scan.effective = none → passed = []

lemma scanned_nil : Scanned [] ⟨[], [], none⟩ := by
  constructor
  all_goals simp

lemma checkArtifact_ok {run : Run} {row : ProviderRun} {scan scan' : ArtifactScan}
    {e : ProviderArtifactEvidence} :
    checkArtifact run row scan e = .ok scan' ↔ CellFits run row e.cell ∧
      providerCostCellKey e.cell ∉ scan.cells ∧ e.sandboxId ∉ scan.sandboxes ∧
      (∀ a, scan.effective = some a → a = effectiveArtifact e.provenance) ∧
      scan' = ⟨providerCostCellKey e.cell :: scan.cells, e.sandboxId :: scan.sandboxes,
        some (effectiveArtifact e.provenance)⟩ := by
  simp only [checkArtifact, bind_eq_ok, checkCell_ok_iff, throwIf_eq_ok, exists_const, pure_eq_ok]
  have current : ¬ (scan.effective.any (fun current => current ≠ effectiveArtifact e.provenance)) =
      true ↔ ∀ a, scan.effective = some a → a = effectiveArtifact e.provenance := by
    cases scan.effective with
    | none => simp
    | some a => simp
  rw [current, eq_comm (b := scan')]

lemma checkArtifact_keeps {run : Run} {row : ProviderRun} {passed : List ProviderArtifactEvidence}
    {scan scan' : ArtifactScan} {e : ProviderArtifactEvidence} (scanned : Scanned passed scan)
    (h : checkArtifact run row scan e = .ok scan') : Scanned (passed ++ [e]) scan' := by
  obtain ⟨_, _, _, _, rfl⟩ := checkArtifact_ok.mp h
  refine ⟨?_, ?_, ?_, by simp⟩
  · intro k
    simp only [List.mem_cons, scanned.cells, List.mem_append, List.not_mem_nil, or_false,
      or_and_right, exists_or, exists_eq_left]
    rw [or_comm, eq_comm (a := k)]
  · intro x
    simp only [List.mem_cons, scanned.sandboxes, List.mem_append, List.not_mem_nil, or_false,
      or_and_right, exists_or, exists_eq_left]
    rw [or_comm, eq_comm (a := x)]
  · intro a ha
    exact ⟨e, by simp, Option.some.inj ha⟩

lemma checkArtifact_accepts {run : Run} {row : ProviderRun}
    {passed : List ProviderArtifactEvidence} {scan : ArtifactScan} {e : ProviderArtifactEvidence}
    (pairwise : passed.Pairwise Attributable) (scanned : Scanned passed scan) :
    (∃ scan', checkArtifact run row scan e = .ok scan') ↔
      CellFits run row e.cell ∧ ∀ other ∈ passed, Attributable other e := by
  simp only [checkArtifact_ok, exists_and_left, exists_eq, and_true]
  refine and_congr_right (fun _ => ?_)
  constructor
  · rintro ⟨cell, sandbox, effective⟩ other hother
    refine ⟨?_, ?_, ?_⟩
    · exact fun same => cell ((scanned.cells _).mpr ⟨other, hother, same⟩)
    · exact fun same => sandbox ((scanned.sandboxes _).mpr ⟨other, hother, same⟩)
    · cases present : scan.effective with
      | none =>
        rw [scanned.none present] at hother
        cases hother
      | some a =>
        obtain ⟨first, hfirst, rfl⟩ := scanned.some a present
        rw [← effective _ present]
        by_cases same : other = first
        · rw [same]
        · rcases List.pairwise_iff_getElem.mp pairwise with order
          obtain ⟨i, hi, rfl⟩ := List.getElem_of_mem hother
          obtain ⟨j, hj, rfl⟩ := List.getElem_of_mem hfirst
          rcases Nat.lt_trichotomy i j with before | rfl | after
          · exact (order i j hi hj before).effective
          · rfl
          · exact (order j i hj hi after).effective.symm
  · intro attributable
    refine ⟨?_, ?_, ?_⟩
    · intro present
      obtain ⟨other, hother, same⟩ := (scanned.cells _).mp present
      exact (attributable other hother).cell same
    · intro present
      obtain ⟨other, hother, same⟩ := (scanned.sandboxes _).mp present
      exact (attributable other hother).sandbox same
    · intro a present
      obtain ⟨other, hother, rfl⟩ := scanned.some a present
      exact (attributable other hother).effective

/-- What a Run's version asks of one row's evidence. -/
structure EvidenceFits (run : Run) (row : ProviderRun) : Prop where
  cost : 5 ≤ run.schemaVersion ↔ row.costEvidence.isSome = true
  artifact : 6 ≤ run.schemaVersion ↔ row.artifactEvidence.isSome = true
  attributed : 6 ≤ run.schemaVersion → row.metrics ≠ [] → row.artifactEvidence.getD [] ≠ []
  costCells : ∀ e ∈ row.costEvidence.getD [], CellFits run row e.cell
  artifactCells : ∀ e ∈ row.artifactEvidence.getD [], CellFits run row e.cell
  attributable : (row.artifactEvidence.getD []).Pairwise Attributable

lemma checkArtifacts_ok_iff {run : Run} {row : ProviderRun} (l : List ProviderArtifactEvidence) :
    (∃ scan, l.foldlM (checkArtifact run row) ⟨[], [], none⟩ = .ok scan) ↔
      (∀ e ∈ l, CellFits run row e.cell) ∧ l.Pairwise Attributable := by
  apply foldlM_checked Scanned scanned_nil
  · intro _ _ _ pairwise scanned
    exact checkArtifact_accepts pairwise scanned
  · intro _ _ _ _ scanned step
    exact checkArtifact_keeps scanned step

theorem checkEvidence_ok_iff {run : Run} {row : ProviderRun} :
    checkEvidence run row = .ok () ↔ EvidenceFits run row := by
  have scan := @checkArtifacts_ok_iff run row (row.artifactEvidence.getD [])
  simp only [checkEvidence, bind_eq_ok, throwIf_eq_ok, forM_eq_ok, checkCell_ok_iff, exists_const,
    pure_eq_ok, and_true, scan, not_and, Option.isNone_iff_eq_none, Bool.not_eq_true,
    Option.isSome_eq_false_iff, ne_eq]
  constructor
  · rintro ⟨cost, costOf, artifact, artifactOf, attributed, costCells, artifactCells, pairwise⟩
    refine ⟨?_, ?_, attributed, costCells, artifactCells, pairwise⟩
    · rw [Option.isSome_iff_ne_none]
      constructor
      · exact costOf
      · intro present
        by_contra low
        exact present (cost (by omega))
    · rw [Option.isSome_iff_ne_none]
      constructor
      · exact artifactOf
      · intro present
        by_contra low
        exact present (artifact (by omega))
  · intro h
    refine ⟨?_, ?_, ?_, ?_, h.attributed, h.costCells, h.artifactCells, h.attributable⟩
    · intro low
      by_contra present
      have := h.cost.mpr (Option.isSome_iff_ne_none.mpr present)
      omega
    · intro high
      exact Option.isSome_iff_ne_none.mp (h.cost.mp high)
    · intro low
      by_contra present
      have := h.artifact.mpr (Option.isSome_iff_ne_none.mpr present)
      omega
    · intro high
      exact Option.isSome_iff_ne_none.mp (h.artifact.mp high)

structure AcceptedRun (catalog : Catalog) (run : Run) : Prop where
  version : 2 ≤ run.schemaVersion ∧ run.schemaVersion ≤ 8
  runId : runIdSchema run.runId = true
  generatedAt : catalog.iso run.generatedAt = true
  targetSpec : targetSpecSchema run.targetSpec = true
  rows : ∀ row ∈ run.providers, AcceptedRow catalog row
  linked : 7 ≤ run.schemaVersion ↔ run.experiment ≠ none
  experiment : ∀ e, run.experiment = some e → checkExperiment catalog run e = .ok ()
  replicateVersion : run.replicateIndex ≠ none → 3 ≤ run.schemaVersion
  versions : ∀ row ∈ run.providers, checkVersion run.schemaVersion row = .ok ()
  evidence : ∀ row ∈ run.providers, EvidenceFits run row
  shard : run.replicateIndex ≠ none → ∀ row ∈ run.providers, ∀ m ∈ row.metrics, m.replicates = none

theorem parseRun_ok_iff {run run' : Run} :
    parseRun catalog run = .ok run' ↔ run' = run ∧ AcceptedRun catalog run := by
  simp only [parseRun, bind_eq_ok, throwIf_eq_ok, forM_eq_ok, providerRunSchema_ok_iff,
    checkEvidence_ok_iff, exists_const, pure_eq_ok, not_or, not_lt, not_and, not_not,
    Bool.not_eq_false, Option.mem_toList]
  constructor
  · rintro ⟨version, runId, generatedAt, targetSpec, rows, linked, experiment, replicateVersion,
      versions, evidence, shard, rfl⟩
    refine ⟨rfl, version, runId, generatedAt, targetSpec, rows, linked, experiment, ?_, versions,
      evidence, ?_⟩
    · intro replicate
      by_contra low
      exact replicate (replicateVersion (by omega))
    · intro replicate row hrow m hm
      by_contra folded
      apply shard replicate
      rw [List.any_eq_true]
      refine ⟨row, hrow, List.any_eq_true.mpr ⟨m, hm, ?_⟩⟩
      rwa [Option.isSome_iff_ne_none]
  · rintro ⟨rfl, h⟩
    refine ⟨h.version, h.runId, h.generatedAt, h.targetSpec, h.rows, h.linked, h.experiment, ?_,
      h.versions, h.evidence, ?_, rfl⟩
    · intro low
      by_contra replicate
      have := h.replicateVersion replicate
      omega
    · intro replicate folded
      obtain ⟨row, hrow, some⟩ := List.any_eq_true.mp folded
      obtain ⟨m, hm, present⟩ := List.any_eq_true.mp some
      rw [h.shard replicate row hrow m hm] at present
      cases present

end RunSchema
