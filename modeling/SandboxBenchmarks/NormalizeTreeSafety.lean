import Mathlib.Data.Set.Card
import SandboxBenchmarks.NormalizeEvidence
import SandboxBenchmarks.RunFacts

/-!
# What normalization reports

The gaps that normalization derives name exactly the declared metrics a provider
attempted and lost. The Run accepts them unless a disk directory lost more metrics than
the disk suite lists: its evidence is diffed against more metrics than are counted.
-/

namespace NormalizeTree

open Aggregate CanonicalJson Checks ExtractProvider GapMarkers Keyed PtsIndex RunModel RunSchema
  SuiteContract
open PlanVerification hiding suites

variable {runtime : Runtime} {catalog : Catalog} {metrics : MetricCatalog} {providerId : String}
  {dir : ProviderDir} {reading : Reading}

/-! ### Derived gaps -/

/-- What is left of a suite's evidence when everything is read. -/
def left {α : Type} (metrics : MetricCatalog) (reading : Reading)
    (evidence : List (String × List α)) (metricId : α → String) (suite : String) : List α :=
  ((get? evidence suite).getD []).filter (fun e => stillMissing metrics reading suite (metricId e))

lemma derivedGap_eq_some {α : Type} {evidence : List (String × List α)} {metricId : α → String}
    {reason : String → List α → String} {cause : String → List α → GapCause} {suite : String}
    {gap : ResultGap} :
    derivedGap metrics reading evidence metricId reason cause suite = some gap ↔
      suite ∉ reading.markers.harnessFailedSuites ∧
        left metrics reading evidence metricId suite ≠ [] ∧
        gap = failedSuiteGap suite (reason suite (left metrics reading evidence metricId suite))
          (cause suite (left metrics reading evidence metricId suite)) := by
  unfold derivedGap left
  cases get? evidence suite with
  | none => simp
  | some collected =>
    dsimp only [Option.getD_some]
    by_cases failed : suite ∈ reading.markers.harnessFailedSuites
    · simp [failed]
    · rw [if_neg failed]
      split
      · rename_i empty
        simp [List.isEmpty_iff.mp empty]
      · rename_i some
        rw [List.isEmpty_iff] at some
        simp [failed, some, eq_comm]

lemma stillMissing_iff (evident : Evident metrics providerId dir reading) {suite metricId : String}
    (registered : suite ∈ suiteNames) : stillMissing metrics reading suite metricId = true ↔
      ¬ Published metrics dir metricId ∧ ∀ leaf g, LeafMarker metrics providerId dir suite leaf g →
        leafOwnsMetric metrics leaf metricId = false := by
  have leaves := evident.leaves suite registered
  rw [Markers.leaves] at leaves
  rw [stillMissing, Bool.and_eq_true, Bool.not_eq_true', Bool.not_eq_true', ← evident.published,
    List.any_eq_false]
  simp only [leaves, Bool.not_eq_true, List.contains_eq_mem, decide_eq_false_iff_not]
  constructor
  · rintro ⟨fresh, unowned⟩
    exact ⟨fresh, fun leaf g marker => unowned leaf ⟨g, marker⟩⟩
  · rintro ⟨fresh, unowned⟩
    refine ⟨fresh, ?_⟩
    rintro leaf ⟨g, marker⟩
    exact unowned leaf g marker

/-- The losses of a suite that only a shortfall gap can report. -/
def missing (metrics : MetricCatalog) (reading : Reading) (suite : String) :
    List AttemptedEmptyResult :=
  left metrics reading reading.suiteShortfalls (·.metricId) suite

lemma nodup_missing (evident : Evident metrics providerId dir reading) (suite : String) :
    ((missing metrics reading suite).map (·.metricId)).Nodup :=
  (evident.once suite).sublist (List.filter_sublist.map (fun e : AttemptedEmptyResult => e.metricId))

/-- Where the suite did not fail as a whole, its missing metrics are its unrecorded ones. -/
lemma mem_missing (evident : Evident metrics providerId dir reading) {suite metricId : String}
    (registered : suite ∈ suiteNames) (standing : suite ∉ reading.markers.harnessFailedSuites) :
    metricId ∈ (missing metrics reading suite).map (·.metricId) ↔
      Unrecorded metrics providerId dir suite metricId := by
  have inside : metricId ∈ (missing metrics reading suite).map (·.metricId) ↔
      metricId ∈ (reading.shortfall suite).map (·.metricId) ∧
        stillMissing metrics reading suite metricId = true := by
    rw [missing, left, Reading.shortfall]
    simp only [List.mem_map, List.mem_filter]
    constructor
    · rintro ⟨e, ⟨member, missing⟩, rfl⟩
      exact ⟨⟨e, member, rfl⟩, missing⟩
    · rintro ⟨⟨e, member, rfl⟩, missing⟩
      exact ⟨e, ⟨member, missing⟩, rfl⟩
  rw [inside, evident.missing suite registered, stillMissing_iff evident registered]
  constructor
  · rintro ⟨⟨sub, member, same, declared, attempted, -⟩, unpublished, unowned⟩
    refine ⟨declared, ⟨sub, member, same, attempted⟩, unpublished, ?_⟩
    rintro (whole | ⟨leaf, g, marker, owns⟩)
    · exact standing ((evident.harness suite registered).mpr whole)
    · rw [unowned leaf g marker] at owns
      cases owns
  · intro h
    obtain ⟨sub, member, same, attempted⟩ := h.attempted
    refine ⟨⟨sub, member, same, h.declared, attempted, fun measured => ?_⟩, h.unpublished, ?_⟩
    · exact h.unpublished (Or.inl ⟨sub, member, same ▸ registered, measured⟩)
    · intro leaf g marker
      by_contra owns
      rw [Bool.not_eq_false] at owns
      exact h.unaccounted (Or.inr ⟨leaf, g, marker, owns⟩)

/-! ### What the gap schema says of them -/

lemma declaredMetricCount_of_registered {suite : String} (registered : suite ∈ suiteNames)
    (fallback : Nat) : declaredMetricCount suite fallback = (suiteMetrics suite).length := by
  obtain ⟨contract, found⟩ := exists_get? registered
  rw [declaredMetricCount, suiteMetrics, found]
  rfl

/-- A shortfall names at most as many metrics as its suite lists. -/
lemma shortfall_accepted_iff {suite reason : String} {lost : List AttemptedEmptyResult}
    (registered : suite ∈ suiteNames) (some : lost ≠ []) :
    resultGapSchema (failedSuiteGap suite reason (shortfallCause suite lost)) = .ok () ↔
      lost.length ≤ (suiteMetrics suite).length := by
  have positive : 1 ≤ lost.length := List.length_pos_iff.mpr some
  simp only [resultGapSchema, failedSuiteGap, shortfallCause, gapCauseSchema, checkCause,
    gapOutcomeOfCause, GapCause.kind, bind_eq_ok, throwIf_eq_ok, exists_const, List.length_map,
    declaredMetricCount_of_registered registered, Bool.not_eq_false, Bool.and_eq_true,
    decide_eq_true_eq, not_lt]
  constructor
  · rintro ⟨-, fits, -⟩
    exact fits
  · intro fits
    exact ⟨⟨positive, positive.trans fits⟩, fits, by simp, by simp⟩

lemma twinDrop_accepted {suite reason : String} {dropped : List DroppedTwinResult}
    (some : dropped ≠ []) :
    resultGapSchema (failedSuiteGap suite reason (twinDropCause dropped)) = .ok () := by
  have positive : 1 ≤ dropped.length := List.length_pos_iff.mpr some
  simp [resultGapSchema, failedSuiteGap, twinDropCause, gapCauseSchema, checkCause,
    gapOutcomeOfCause, GapCause.kind, positive]

/-! ### How much a suite can lose -/

lemma declared_of_mem_missing (evident : Evident metrics providerId dir reading)
    {suite metricId : String} (registered : suite ∈ suiteNames)
    (member : metricId ∈ (missing metrics reading suite).map (·.metricId)) :
    metricId ∈ declaredMetrics suite := by
  obtain ⟨e, inside, rfl⟩ := List.mem_map.mp member
  have collected : e.metricId ∈ (reading.shortfall suite).map (·.metricId) :=
    List.mem_map_of_mem (List.mem_of_mem_filter inside)
  obtain ⟨_, -, -, declared, -⟩ := (evident.missing suite registered e.metricId).mp collected
  exact declared

/-- Away from disk the declared metrics are those the suite lists. -/
lemma length_missing_le (evident : Evident metrics providerId dir reading) {suite : String}
    (registered : suite ∈ suiteNames) (other : suite ≠ "disk") :
    (missing metrics reading suite).length ≤ (suiteMetrics suite).length := by
  have inside : (missing metrics reading suite).map (·.metricId) ⊆ suiteMetrics suite := by
    intro metricId member
    have declared := declared_of_mem_missing evident registered member
    rwa [declaredMetrics, if_neg other, mem_setOf] at declared
  have bound := (List.subperm_of_subset (nodup_missing evident suite) inside).length_le
  rwa [List.length_map] at bound

/-- The missing metrics of a suite are counted once each. -/
lemma length_missing_eq (evident : Evident metrics providerId dir reading) {suite : String}
    (registered : suite ∈ suiteNames) (standing : suite ∉ reading.markers.harnessFailedSuites) :
    (missing metrics reading suite).length =
      {metricId | Unrecorded metrics providerId dir suite metricId}.ncard := by
  have same : {metricId | Unrecorded metrics providerId dir suite metricId} =
      (((missing metrics reading suite).map (·.metricId)).toFinset : Set String) := by
    ext metricId
    rw [Set.mem_ofPred_eq, List.coe_toFinset, Set.mem_ofPred_eq, mem_missing evident registered standing]
  rw [same, Set.ncard_coe_finset, List.toFinset_card_of_nodup (nodup_missing evident suite),
    List.length_map]

lemma finite_unrecorded (metrics : MetricCatalog) (providerId : String) (dir : ProviderDir)
    (suite : String) : {metricId | Unrecorded metrics providerId dir suite metricId}.Finite :=
  (List.finite_toSet (declaredMetrics suite)).subset fun _ unrecorded => unrecorded.declared

/-- A suite that failed as a whole has nothing left to report. -/
lemma unrecorded_of_failed (evident : Evident metrics providerId dir reading) {suite : String}
    (registered : suite ∈ suiteNames) (failed : suite ∈ reading.markers.harnessFailedSuites) :
    {metricId | Unrecorded metrics providerId dir suite metricId} = ∅ := by
  rw [Set.eq_empty_iff_forall_notMem]
  intro metricId unrecorded
  exact unrecorded.unaccounted (Or.inl ((evident.harness suite registered).mp failed))

lemma suiteDirs_registered {suite : String} (h : suite ∈ (suiteDirs runtime dir).map (·.name)) :
    suite ∈ suiteNames := by
  obtain ⟨sub, member, rfl⟩ := List.mem_map.mp h
  exact (mem_suiteDirs.mp member).2

lemma mem_derivedGaps {names : List String} {gap : ResultGap} :
    gap ∈ derivedGaps metrics reading names ↔
      (∃ suite ∈ names, shortfallGap metrics reading suite = some gap) ∨
        ∃ suite ∈ names, twinDropGap metrics reading suite = some gap := by
  rw [derivedGaps, List.mem_append, List.mem_filterMap, List.mem_filterMap]

/-- The Run accepts what is derived exactly where disk lost no more than its suite lists. -/
lemma derivedGaps_accepted_iff (evident : Evident metrics providerId dir reading) :
    (∀ gap ∈ derivedGaps metrics reading ((suiteDirs runtime dir).map (·.name)),
      resultGapSchema gap = .ok ()) ↔
      {metricId | Unrecorded metrics providerId dir "disk" metricId}.ncard ≤ 9 := by
  have registered : "disk" ∈ suiteNames := by decide
  rw [← length_suiteMetrics_disk]
  constructor
  · intro accepted
    by_contra many
    rw [not_le] at many
    have standing : "disk" ∉ reading.markers.harnessFailedSuites := by
      intro failed
      rw [unrecorded_of_failed evident registered failed, Set.ncard_empty] at many
      exact absurd many (Nat.not_lt_zero _)
    rw [← length_missing_eq evident registered standing] at many
    have some : missing metrics reading "disk" ≠ [] := by
      intro empty
      rw [empty] at many
      exact absurd many (Nat.not_lt_zero _)
    obtain ⟨e, inside⟩ := List.exists_mem_of_ne_nil _ some
    have unrecorded := (mem_missing evident registered standing).mp
      (List.mem_map_of_mem (f := (·.metricId)) inside)
    obtain ⟨sub, member, named, -⟩ := unrecorded.attempted
    have read : "disk" ∈ (suiteDirs runtime dir).map (·.name) :=
      List.mem_map.mpr ⟨sub, mem_suiteDirs.mpr ⟨member, named ▸ registered⟩, named⟩
    have gap : shortfallGap metrics reading "disk" = Option.some _ :=
      derivedGap_eq_some.mpr ⟨standing, some, rfl⟩
    have fits := accepted _ (mem_derivedGaps.mpr (Or.inl ⟨"disk", read, gap⟩))
    have few := (shortfall_accepted_iff registered some).mp fits
    exact absurd few (Nat.not_le.mpr many)
  · intro few gap member
    rcases mem_derivedGaps.mp member with ⟨suite, read, made⟩ | ⟨suite, read, made⟩
    · have known := suiteDirs_registered read
      obtain ⟨standing, some, rfl⟩ := derivedGap_eq_some.mp made
      apply (shortfall_accepted_iff known some).mpr
      by_cases disk : suite = "disk"
      · subst disk
        exact (length_missing_eq evident known standing).trans_le few
      · exact length_missing_le evident known disk
    · obtain ⟨-, some, rfl⟩ := derivedGap_eq_some.mp made
      exact twinDrop_accepted some

/-! ### The Run of a tree -/

section
variable (runtime : Runtime) (catalog : Catalog) (metrics : MetricCatalog)

/-- The row of a provider with the gaps of its markers alone. -/
def markerRow (rawRoot : String → Option ProviderDir) (providerId : String) :
    Except String ProviderRun :=
  match rawRoot providerId with
  | none => return pendingRow providerId
  | some dir => do
    let reading ← readProviderDir runtime metrics providerId dir
    return providerRow runtime catalog providerId dir reading reading.markers.gaps

/-- What normalization would publish without the gaps it derives. -/
def markerRun (input : NormalizeInput) : Except String Run := do
  let providers ← (byLocale runtime id providerIds).mapM
    (markerRow runtime catalog metrics input.rawRoot)
  parseRun catalog (candidateRun input providers)

/-- The gaps normalization derives are well formed, and never cost the Run. -/
structure ShortfallSafe (input : NormalizeInput) : Prop where
  accepted : ∀ providerId ∈ providerIds, ∀ dir, input.rawRoot providerId = some dir →
    ∀ reading, readProviderDir runtime metrics providerId dir = .ok reading →
      ∀ gap ∈ derivedGaps metrics reading ((suiteDirs runtime dir).map (·.name)),
        resultGapSchema gap = .ok ()
  kept : ∀ run, markerRun runtime catalog metrics input = .ok run →
    ∃ run', normalizeResultsTree runtime catalog metrics input = .ok run'

end

/-- A row with other gaps. -/
def SameButGaps (row row' : ProviderRun) : Prop := row' = { row with gaps := row'.gaps }

lemma checkVersion_six (row : ProviderRun) : checkVersion 6 row = .ok () := by
  simp [checkVersion, throwIf]

lemma evidenceFits_of_sameButGaps {input : NormalizeInput} {rows rows' : List ProviderRun}
    {row row' : ProviderRun} (same : SameButGaps row row')
    (h : EvidenceFits (candidateRun input rows) row) :
    EvidenceFits (candidateRun input rows') row' := by
  rw [SameButGaps] at same
  rw [same]
  refine ⟨h.cost, h.artifact, h.attributed, fun e member => ?_, fun e member => ?_, h.attributable⟩
  · exact ⟨(h.costCells e member).runId, (h.costCells e member).providerId,
      (h.costCells e member).replicate⟩
  · exact ⟨(h.artifactCells e member).runId, (h.artifactCells e member).providerId,
      (h.artifactCells e member).replicate⟩

/-- The Run checks a gap by itself. -/
lemma accepted_of_sameButGaps {input : NormalizeInput} {rows rows' : List ProviderRun}
    (source : ∀ row' ∈ rows', ∃ row ∈ rows, SameButGaps row row')
    (gaps : ∀ row ∈ rows', ∀ g ∈ row.gaps, resultGapSchema g = .ok ())
    (h : AcceptedRun catalog (candidateRun input rows)) :
    AcceptedRun catalog (candidateRun input rows') := by
  refine ⟨h.version, h.runId, h.generatedAt, h.targetSpec, fun row' member => ?_, h.linked,
    h.experiment, h.replicateVersion, fun row' _ => checkVersion_six row', fun row' member => ?_,
    fun replicate row' member => ?_⟩
  · obtain ⟨row, inside, pair⟩ := source row' member
    have accepted := h.rows row inside
    have own := gaps row' member
    rw [SameButGaps] at pair
    rw [pair] at own ⊢
    exact ⟨accepted.cost, accepted.artifacts, accepted.mixtures, accepted.metrics, own,
      accepted.status, accepted.verdict, accepted.metricIds, accepted.hostIds, accepted.offSpec⟩
  · obtain ⟨row, inside, pair⟩ := source row' member
    exact evidenceFits_of_sameButGaps pair (h.evidence row inside)
  · obtain ⟨row, inside, pair⟩ := source row' member
    rw [SameButGaps] at pair
    rw [pair]
    exact h.shard replicate row inside

/-- Where the derived gaps are well formed, the two rows differ in gaps the Run accepts. -/
lemma normalizeProviderDir_of_markerRow {rawRoot : String → Option ProviderDir}
    {row : ProviderRun} (h : markerRow runtime catalog metrics rawRoot providerId = .ok row)
    (marked : ∀ g ∈ row.gaps, resultGapSchema g = .ok ())
    (derived : ∀ dir, rawRoot providerId = some dir → ∀ reading,
      readProviderDir runtime metrics providerId dir = .ok reading →
        ∀ gap ∈ derivedGaps metrics reading ((suiteDirs runtime dir).map (·.name)),
          resultGapSchema gap = .ok ()) :
    ∃ row', normalizeProviderDir runtime catalog metrics rawRoot providerId = .ok row' ∧
      SameButGaps row row' ∧ ∀ g ∈ row'.gaps, resultGapSchema g = .ok () := by
  cases present : rawRoot providerId with
  | none =>
    simp only [markerRow, present, pure_eq_ok] at h
    subst h
    exact ⟨pendingRow providerId, by simp only [normalizeProviderDir, present]; rfl, rfl, marked⟩
  | some dir =>
    simp only [markerRow, present, bind_eq_ok, pure_eq_ok] at h
    obtain ⟨reading, read, rfl⟩ := h
    refine ⟨providerRow runtime catalog providerId dir reading (rowGaps runtime metrics dir reading),
      ?_, rfl, fun g member => ?_⟩
    · simp only [normalizeProviderDir, present, read, ok_bind]
      rfl
    · rcases List.mem_append.mp member with own | added
      · exact marked g own
      · exact derived dir present reading read g added

lemma mem_providers {providerId : String} :
    providerId ∈ byLocale runtime id providerIds ↔ providerId ∈ providerIds :=
  List.mem_insertionSort _

/-- Every tree: the gaps derived from it are well formed, and cost nothing, exactly where each
provider lost at most nine of the metrics that its disk evidence is diffed against. -/
theorem shortfallSafe_iff {input : NormalizeInput} :
    ShortfallSafe runtime catalog metrics input ↔
      ∀ providerId ∈ providerIds, ∀ dir, input.rawRoot providerId = some dir →
        (∃ reading, readProviderDir runtime metrics providerId dir = .ok reading) →
          {metricId | Unrecorded metrics providerId dir "disk" metricId}.ncard ≤ 9 := by
  constructor
  · rintro safe providerId known dir present ⟨reading, read⟩
    have evident := readProviderDir_evident read
    exact (derivedGaps_accepted_iff evident).mp (safe.accepted providerId known dir present reading read)
  · intro few
    have accepted : ∀ providerId ∈ providerIds, ∀ dir, input.rawRoot providerId = some dir →
        ∀ reading, readProviderDir runtime metrics providerId dir = .ok reading →
          ∀ gap ∈ derivedGaps metrics reading ((suiteDirs runtime dir).map (·.name)),
            resultGapSchema gap = .ok () := by
      intro providerId known dir present reading read
      have evident := readProviderDir_evident read
      exact (derivedGaps_accepted_iff evident).mpr (few providerId known dir present ⟨reading, read⟩)
    refine ⟨accepted, fun run ran => ?_⟩
    simp only [markerRun, bind_eq_ok] at ran
    obtain ⟨rows, made, parsed⟩ := ran
    have whole := (parseRun_ok_iff.mp parsed).2
    have each : ∀ providerId ∈ byLocale runtime id providerIds, ∃ row' row,
        normalizeProviderDir runtime catalog metrics input.rawRoot providerId = .ok row' ∧
          row ∈ rows ∧ SameButGaps row row' ∧ ∀ g ∈ row'.gaps, resultGapSchema g = .ok () := by
      intro providerId member
      obtain ⟨row, inside, made⟩ := mapM_mem made member
      have derived := accepted providerId (mem_providers.mp member)
      obtain ⟨row', normalized, same, gaps⟩ :=
        normalizeProviderDir_of_markerRow made (whole.rows row inside).gaps derived
      exact ⟨row', row, normalized, inside, same, gaps⟩
    obtain ⟨rows', normalized⟩ := mapM_accepts (fun providerId member =>
      (each providerId member).imp fun row' rest => rest.choose_spec.1)
    have origin : ∀ row' ∈ rows', ∃ row ∈ rows, SameButGaps row row' ∧
        ∀ g ∈ row'.gaps, resultGapSchema g = .ok () := by
      intro row' inside
      obtain ⟨providerId, member, here⟩ := mem_mapM normalized inside
      obtain ⟨other, row, there, source, same, gaps⟩ := each providerId member
      obtain rfl := Except.ok.inj (here.symm.trans there)
      exact ⟨row, source, same, gaps⟩
    have accepts : AcceptedRun catalog (candidateRun input rows') := by
      refine accepted_of_sameButGaps (fun row' inside => ?_) (fun row' inside => ?_) whole
      · obtain ⟨row, source, same, -⟩ := origin row' inside
        exact ⟨row, source, same⟩
      · obtain ⟨_, -, -, gaps⟩ := origin row' inside
        exact gaps
    have final : parseRun catalog (candidateRun input rows') = .ok (candidateRun input rows') :=
      parseRun_ok_iff.mpr ⟨rfl, accepts⟩
    refine ⟨candidateRun input rows', ?_⟩
    rw [normalizeResultsTree, normalized, ok_bind, final]
    rfl

/-! ### Ten scenarios lost -/

/-- How PTS describes the first fio scenarios. -/
def fioDescriptions : List String :=
  ["Type: Sequential Read - Engine: Linux AIO - Direct: Yes - Block Size: 1MB - Job Count: 1 - Disk Target: Default Test Directory",
    "Type: Sequential Write - Engine: Linux AIO - Direct: Yes - Block Size: 1MB - Job Count: 1 - Disk Target: Default Test Directory",
    "Type: Random Read - Engine: Linux AIO - Direct: Yes - Block Size: 4KB - Job Count: 1 - Disk Target: Default Test Directory",
    "Type: Random Write - Engine: Linux AIO - Direct: Yes - Block Size: 4KB - Job Count: 1 - Disk Target: Default Test Directory",
    "Type: Sequential Read - Engine: Linux AIO - Direct: No - Block Size: 1MB - Job Count: 1 - Disk Target: Default Test Directory"]

/-- Each scenario is reported in two scales. -/
def fioPins : List (String × String) := fioDescriptions.product ["MB/s", "IOPS"]

def fioMetric (entry : String × String × String) : CatalogMetric where
  id := entry.1
  unit := entry.2.2
  pts := some ⟨"pts/fio", some entry.2.1, some entry.2.2⟩
  dimension := .disk

def fioEntries : List CatalogMetric := (fioScenarioMetrics.zip fioPins).map fioMetric

set_option maxRecDepth 4000 in
lemma nodup_fioPins : fioPins.Nodup := by
  refine List.Nodup.product ?_ (by decide)
  refine nodup_of_spelled [_, _, _, _, _] rfl ?_
  decide +kernel

set_option maxRecDepth 4000 in
lemma fioDescriptions_named : ∀ description ∈ fioDescriptions, description ≠ "" := by
  simp only [fioDescriptions, List.forall_mem_cons]
  refine ⟨?_, ?_, ?_, ?_, ?_, List.forall_mem_nil _⟩
  all_goals exact ofList_cons_ne_empty _ _

lemma fioEntries_accepted : catalogSchema (fioEntries.map (·.toMetricDef)) = .ok () := by
  have short : fioPins.length ≤ fioScenarioMetrics.length := by decide
  apply catalogSchema_of_pinned
  · intro m member
    obtain ⟨entry, inside, rfl⟩ := List.mem_map.mp member
    obtain ⟨e, paired, rfl⟩ := List.mem_map.mp inside
    obtain ⟨listed, pinned⟩ := List.of_mem_zip paired
    obtain ⟨described, scaled⟩ := List.mem_product.mp pinned
    have unit : e.2.2 ≠ "" := by
      intro empty
      rw [empty] at scaled
      exact absurd scaled (by decide)
    exact ⟨fioScenarioMetrics_named _ listed, unit, "pts/fio", e.2.1, by decide,
      fioDescriptions_named _ described, rfl⟩
  · have pins : (fioEntries.map (·.toMetricDef)).map (·.pts) =
        fioPins.map (fun pin => some ⟨"pts/fio", some pin.1, some pin.2⟩) := by
      conv_rhs => rw [← List.map_snd_zip short]
      simp [fioEntries, fioMetric]
    rw [pins]
    refine nodup_fioPins.map ?_
    intro pin pin' same
    simpa [Prod.ext_iff] using same

def fioMetrics : MetricCatalog := MetricCatalog.load fioEntries fioEntries_accepted

/-- A scenario of which every pass failed. -/
def lostResult (pin : String × String) : CompositeResult where
  identifier := "pts/fio-2.1.0"
  description := some pin.1
  scale := pin.2
  entries := [⟨none, none⟩]
  appVersion := none
  arguments := none
  proportion := "HIB"

def lostFile : RawFile := ⟨"pts_fio.xml", .ok ⟨[], fioPins.map lostResult⟩, none⟩

def diskDirectory : Subdirectory := ⟨"disk", [lostFile], none, none, []⟩

def lostDir : ProviderDir := ⟨[diskDirectory], by simp, [], [], []⟩

def lostTree : NormalizeInput where
  rawRoot := fun providerId => if providerId = "e2b" then some lostDir else none
  runId := "run"
  sha := "sha"
  generatedAt := "2026-01-01T00:00:00.000Z"
  sourceRunUrl := none
  replicateIndex := none

lemma lostFile_composite : isPtsResultFile lostFile.name = true := by
  decide +kernel

lemma not_measured_lostFile (metricId : String) : ¬ HasValue fioMetrics [lostFile] metricId := by
  rintro (⟨file, member, -, composite, parsed, result, inside, metric, -, -, -, measured⟩ |
    ⟨file, member, other, -⟩)
  · obtain rfl := List.mem_singleton.mp member
    obtain rfl := Except.ok.inj parsed
    obtain ⟨pin, -, rfl⟩ := List.mem_map.mp inside
    cases measured
  · obtain rfl := List.mem_singleton.mp member
    rw [lostFile_composite] at other
    cases other

lemma not_marked_lostFile (g : ResultGap) : ¬ HasMarker "e2b" [lostFile] g := by
  rintro ⟨file, member, parsed⟩
  obtain rfl := List.mem_singleton.mp member
  have other := not_isPtsResultFile_of_isGapMarkerFile (isGapMarkerFile_of_parseGapMarker parsed)
  rw [lostFile_composite] at other
  cases other

lemma attempted_lostFile : ∀ metricId ∈ fioScenarioMetrics.take 10,
    AttemptedEmpty fioMetrics [lostFile] metricId := by
  intro metricId member
  have ids : ((fioScenarioMetrics.zip fioPins).map Prod.fst) = fioScenarioMetrics.take 10 := by
    rfl
  rw [← ids] at member
  obtain ⟨entry, paired, rfl⟩ := List.mem_map.mp member
  have pinned := (List.of_mem_zip paired).2
  have versioned : versionlessTest "pts/fio-2.1.0" = "pts/fio" := by decide +kernel
  refine ⟨lostFile, List.mem_singleton_self _, lostFile_composite, _, rfl, lostResult entry.2,
    List.mem_map_of_mem pinned, fioMetric entry, ?_, rfl, ?_, rfl⟩
  · rw [fioMetrics, MetricCatalog.entries_load]
    exact List.mem_map_of_mem paired
  · exact ⟨_, rfl, versioned.symm, by rintro _ ⟨⟩; rfl, by rintro _ ⟨⟩; rfl⟩

lemma unrecorded_lostDir : ∀ metricId ∈ fioScenarioMetrics.take 10,
    Unrecorded fioMetrics "e2b" lostDir "disk" metricId := by
  intro metricId member
  refine ⟨?_, ⟨diskDirectory, List.mem_singleton_self _, rfl, attempted_lostFile metricId member⟩,
    ?_, ?_⟩
  · rw [declaredMetrics, if_pos rfl, mem_setOf]
    exact List.mem_append_right _ (List.mem_of_mem_take member)
  · rintro (⟨sub, inside, -, measured⟩ | measured)
    · obtain rfl := List.mem_singleton.mp inside
      exact not_measured_lostFile metricId measured
    · simp [HasValue, HasResult, HasProbe, lostDir] at measured
  · have unmarked (g : ResultGap) : ¬ HasMarker "e2b" lostDir.files g := by simp [HasMarker, lostDir]
    have within (g : ResultGap) : ¬ MarkedWithin "e2b" lostDir "disk" g := by
      rintro ⟨sub, inside, -, marker⟩
      obtain rfl := List.mem_singleton.mp inside
      exact not_marked_lostFile g marker
    simp [Accounted, HarnessMarker, LeafMarker, unmarked, within]

theorem lostTree_refused : ¬ ShortfallSafe plainRuntime plainCatalog fioMetrics lostTree := by
  intro safe
  obtain ⟨reading, read⟩ : ∃ reading,
      readProviderDir plainRuntime fioMetrics "e2b" lostDir = .ok reading := by
    apply readProviderDir_of_unmeasured
    · intro file member
      cases member
    · intro sub member file inside named
      obtain rfl := List.mem_singleton.mp member
      rw [List.mem_singleton.mp inside]
      exact ⟨_, rfl⟩
    · intro sub member
      rw [List.mem_singleton.mp member]
      exact ⟨rfl, rfl⟩
    · intro sub member
      rw [List.mem_singleton.mp member]
      exact not_measured_lostFile
  have few := (derivedGaps_accepted_iff (readProviderDir_evident read)).mp
    (safe.accepted "e2b" (by decide) lostDir rfl reading read)
  have many : (fioScenarioMetrics.take 10).toFinset.card = 10 := by
    rw [List.toFinset_card_of_nodup (nodup_fioScenarioMetrics.sublist (List.take_sublist _ _))]
    rfl
  have inside : ((fioScenarioMetrics.take 10).toFinset : Set String) ⊆
      {metricId | Unrecorded fioMetrics "e2b" lostDir "disk" metricId} := by
    intro metricId member
    exact unrecorded_lostDir metricId (List.mem_toFinset.mp member)
  have bound := Set.ncard_le_ncard inside (finite_unrecorded _ _ _ _)
  rw [Set.ncard_coe_finset, many] at bound
  exact absurd (bound.trans few) (by decide)

end NormalizeTree
