import SandboxBenchmarks.AggregateRows
import SandboxBenchmarks.NormalizeTreeSafety

/-!
# What a row accounts for

The row of a provider publishes exactly what its files measured. What a suite lost is
named in a gap or lies behind a failed marker, and what the row derives names no metric
the row publishes. Markers are passed through as they were written.
-/

namespace NormalizeTree

open Aggregate CanonicalJson Checks ExtractProvider GapMarkers JsonText Keyed NetworkProbes PtsIndex
  Recording RunModel SuiteContract
open PlanVerification hiding suites

/-! ### Published metrics -/

def metricIds (row : ProviderRun) : List String := row.metrics.map (·.metricId)

lemma mem_keys_mergeContribution {metricId : String} (merged : List (String × SampleContribution))
    (c : SampleContribution) : metricId ∈ (mergeContribution merged c).map Prod.fst ↔
      metricId ∈ merged.map Prod.fst ∨ c.metricId = metricId := by
  unfold mergeContribution
  split
  · rename_i present
    constructor
    · exact Or.inl
    · rintro (h | rfl)
      · exact h
      · exact has_iff.mp present
  · rw [keys_set, mem_add, eq_comm]

/-- Only contributions are merged. -/
lemma mem_foldl_mergeContribution {l : List SampleContribution}
    {merged : List (String × SampleContribution)} {entry : String × SampleContribution}
    (h : entry ∈ l.foldl mergeContribution merged) : entry ∈ merged ∨ entry.2 ∈ l := by
  induction l generalizing merged with
  | nil => exact Or.inl h
  | cons c l ih =>
    rcases ih h with earlier | later
    · unfold mergeContribution at earlier
      split at earlier
      · exact Or.inl earlier
      · rcases mem_set earlier with rfl | old
        · exact Or.inr List.mem_cons_self
        · exact Or.inl old
    · exact Or.inr (List.mem_cons_of_mem c later)

/-- Every metric with samples is measured, and no other. -/
lemma mem_measuredMetrics (runtime : Runtime) {contributions : List SampleContribution}
    (sampled : ∀ c ∈ contributions, c.samples ≠ []) {metricId : String} :
    metricId ∈ (measuredMetrics runtime contributions).map (·.metricId) ↔
      metricId ∈ contributions.map (·.metricId) := by
  have merged : metricId ∈ (contributions.foldl mergeContribution []).map Prod.fst ↔
      metricId ∈ contributions.map (·.metricId) := by
    have ran := foldl_records
      (fun merged : List (String × SampleContribution) => metricId ∈ merged.map Prod.fst)
      (fun c => c.metricId = metricId)
      (fun c (_ : c ∈ contributions) merged => mem_keys_mergeContribution merged c) []
    rw [ran, List.map_nil, or_iff_right List.not_mem_nil, List.mem_map]
  have results : metricId ∈ (measuredMetrics runtime contributions).map (·.metricId) ↔
      metricId ∈ (contributions.foldl mergeContribution []).map Prod.fst := by
    simp only [measuredMetrics, byLocale, List.mem_map, List.mem_insertionSort, List.mem_filterMap]
    constructor
    · rintro ⟨m, ⟨entry, inside, made⟩, rfl⟩
      unfold metricResult? at made
      split at made
      · rw [← Option.some.inj made]
        exact ⟨entry, inside, rfl⟩
      · cases made
    · rintro ⟨entry, inside, rfl⟩
      have some : entry.2.samples ≠ [] := by
        rcases mem_foldl_mergeContribution inside with empty | source
        · cases empty
        · exact sampled _ source
      exact ⟨measuredResult entry.1 entry.2 some, ⟨entry, inside, dif_pos some⟩, rfl⟩
  exact results.trans merged

lemma declaredMetrics_head {suite metricId : String} (declared : metricId ∈ declaredMetrics suite) :
    metricId.toList.head? ≠ some 'u' := by
  have listed : metricId ∈ suiteMetrics suite ∨ metricId ∈ fioScenarioMetrics := by
    unfold declaredMetrics at declared
    split at declared
    · exact List.mem_append.mp (mem_setOf.mp declared)
    · exact Or.inl (mem_setOf.mp declared)
  rcases listed with own | scenario
  · rw [suiteMetrics] at own
    cases found : get? suites suite with
    | none =>
      rw [found] at own
      cases own
    | some contract =>
      rw [found] at own
      exact suites_head (suite, contract) (mem_of_get? found) metricId own
  · exact fioScenarioMetrics_head metricId scenario

/-- Economics are no suite's metrics: they neither add to nor take from what a suite published. -/
lemma mem_withEconomics {runtime : Runtime} {catalog : Catalog} {providerId : String}
    {measured : List MetricResult} {suite metricId : String}
    (declared : metricId ∈ declaredMetrics suite) :
    metricId ∈ (withEconomics runtime catalog providerId measured).map (·.metricId) ↔
      metricId ∈ measured.map (·.metricId) := by
  unfold withEconomics
  split
  · rfl
  · rename_i cost _
    split
    · rfl
    · have absent : metricId ∉ (deriveEconomics (cost pinnedTarget) measured).map (·.metricId) := by
        intro derived
        obtain ⟨m, inside, rfl⟩ := List.mem_map.mp derived
        have head := declaredMetrics_head declared
        rcases metricId_of_mem_deriveEconomics inside with named | named
        · rw [named] at head
          exact head (by decide)
        · rw [named] at head
          exact head (by decide)
      have sorted := (List.perm_insertionSort (Sorting.upTo runtime.localeCompare
        (fun m : MetricResult => m.metricId)) (measured ++ deriveEconomics (cost pinnedTarget) measured)).map
          (·.metricId)
      rw [byLocale, sorted.mem_iff, List.map_append, List.mem_append, or_iff_left absent]

/-- A row publishes of a suite's metrics exactly those its files have a value of. -/
lemma mem_metricIds {runtime : Runtime} {catalog : Catalog} {metrics : MetricCatalog}
    {providerId : String} {dir : ProviderDir} {reading : Reading} {gaps : List ResultGap}
    (evident : Evident metrics providerId dir reading) {suite metricId : String}
    (declared : metricId ∈ declaredMetrics suite) :
    metricId ∈ metricIds (providerRow runtime catalog providerId dir reading gaps) ↔
      Published metrics dir metricId := by
  rw [← evident.published, ← mem_measuredMetrics runtime evident.sampled]
  exact mem_withEconomics declared

/-! ### What a row says of a loss -/

/-- The metrics that a gap says are missing. -/
def namedMetrics (gap : ResultGap) : List String :=
  match gap.cause with
  | some (.metricsUnrecorded metricIds _) => metricIds
  | some (.duplicateValueDedup metricIds) => metricIds
  | _ => []

section
variable (metrics : MetricCatalog) (providerId : String) (dir : ProviderDir)

/-- A suite's directory shows that a metric the suite declares was tried: it holds a Result
without a value, or the Result of a twin alone. -/
def Tried (suite metricId : String) : Prop :=
  metricId ∈ declaredMetrics suite ∧ Attempted metrics dir suite metricId ∨
    ∃ sub ∈ dir.subdirectories, sub.name = suite ∧
      ∃ survivor, TwinDropped metrics suite sub.files survivor metricId

/-- A failed gap of the suite names the metric, or is a marker that accounts for it. -/
structure Reports (suite metricId : String) (gap : ResultGap) : Prop where
  scope : gap.scope = .suite
  id : gap.id = suite
  failed : gap.outcome = .failed
  why : metricId ∈ namedMetrics gap ∨ HarnessMarker providerId dir suite gap ∨
    ∃ leaf g, LeafMarker metrics providerId dir suite leaf g ∧
      leafOwnsMetric metrics leaf metricId = true ∧ gap = foldedLeaf suite g

/-- A gap is what a marker was read as. -/
def PassedThrough (gap : ResultGap) : Prop :=
  (∃ sub ∈ dir.subdirectories, sub.name ∈ suiteNames ∧
    ∃ g, HasMarker providerId sub.files g ∧ gap = nestedGap sub.name g) ∨
    ∃ g, HasMarker providerId dir.files g ∧ gap = flatGap metrics g

/-- Every loss is reported, and what is published is called missing by a marker at most. -/
structure Accounts (row : ProviderRun) : Prop where
  reported : ∀ suite metricId, Tried metrics dir suite metricId → metricId ∉ metricIds row →
    ∃ gap ∈ row.gaps, Reports metrics providerId dir suite metricId gap
  honest : ∀ gap ∈ row.gaps, PassedThrough metrics providerId dir gap ∨
    ∀ metricId ∈ namedMetrics gap, metricId ∉ metricIds row

end

variable {runtime : Runtime} {catalog : Catalog} {metrics : MetricCatalog} {providerId : String}
  {dir : ProviderDir} {reading : Reading}

lemma registered_of_declared {suite metricId : String} (declared : metricId ∈ declaredMetrics suite) :
    suite ∈ suiteNames := by
  by_contra unknown
  have other : suite ≠ "disk" := by
    rintro rfl
    exact unknown (by decide)
  have absent : get? suites suite = none := get?_eq_none_iff.mpr unknown
  rw [declaredMetrics, if_neg other, mem_setOf, suiteMetrics, absent] at declared
  cases declared

lemma declared_of_tried {suite metricId : String} (tried : Tried metrics dir suite metricId) :
    metricId ∈ declaredMetrics suite := by
  rcases tried with ⟨declared, -⟩ | ⟨sub, -, -, survivor, dropped⟩
  · exact declared
  · rcases dropped.twins with twins | twins
    · exact twins.declaredToo
    · exact twins.declared

lemma marker_scope {files : List RawFile} {g : ResultGap} (marker : HasMarker providerId files g) :
    g.scope = .suite := by
  obtain ⟨file, -, parsed⟩ := marker
  exact scope_of_parseGapMarker parsed

/-- The marker behind an accounted loss stands among the gaps. -/
lemma reports_of_accounted (evident : Evident metrics providerId dir reading)
    {suite metricId : String} (registered : suite ∈ suiteNames)
    (accounted : Accounted metrics providerId dir suite metricId) :
    ∃ gap ∈ reading.markers.gaps, Reports metrics providerId dir suite metricId gap := by
  rcases accounted with ⟨g, whole⟩ | ⟨leaf, g, marker, owns⟩
  · obtain ⟨rfl, failed, place⟩ := whole
    rcases place with ⟨sub, member, named, marker⟩ | marker
    · refine ⟨g, (evident.gaps g).mpr (Or.inl ⟨sub, member, named ▸ registered, g, marker, ?_⟩),
        marker_scope marker, rfl, failed, Or.inr (Or.inl ⟨rfl, failed, ?_⟩)⟩
      · rw [nestedGap, if_pos named.symm]
      · exact Or.inl ⟨sub, member, named, marker⟩
    · refine ⟨g, (evident.gaps g).mpr (Or.inr ⟨g, marker, ?_⟩), marker_scope marker, rfl, failed,
        Or.inr (Or.inl ⟨rfl, failed, Or.inr marker⟩)⟩
      have own : flatSuite metrics g = some g.id := (flatSuite_eq_some registered).mpr (Or.inl rfl)
      simp [flatGap, own, nestedGap]
  · have why : ∃ leaf' g', LeafMarker metrics providerId dir suite leaf' g' ∧
        leafOwnsMetric metrics leaf' metricId = true ∧ foldedLeaf suite g = foldedLeaf suite g' :=
      ⟨leaf, g, marker, owns, rfl⟩
    obtain ⟨rfl, other, failed, place⟩ := marker
    rcases place with ⟨sub, member, rfl, marker⟩ | ⟨unknown, known, marker⟩
    · refine ⟨foldedLeaf sub.name g,
        (evident.gaps _).mpr (Or.inl ⟨sub, member, registered, g, marker, ?_⟩),
        (marker_scope marker : g.scope = .suite), rfl, failed, Or.inr (Or.inr why)⟩
      rw [nestedGap, if_neg other]
    · refine ⟨foldedLeaf suite g, (evident.gaps _).mpr (Or.inr ⟨g, marker, ?_⟩),
        (marker_scope marker : g.scope = .suite), rfl, failed, Or.inr (Or.inr why)⟩
      have own : flatSuite metrics g = some suite :=
        (flatSuite_eq_some registered).mpr (Or.inr ⟨unknown, known⟩)
      simp [flatGap, own, nestedGap, other]

/-- What is left of the evidence makes a gap that names it. -/
lemma exists_derivedGap {α : Type} {evidence : List (String × List α)} {metricOf : α → String}
    {reason : String → List α → String} {cause : String → List α → GapCause}
    {suite metricId : String} (standing : suite ∉ reading.markers.harnessFailedSuites)
    (names : ∀ lost, namedMetrics (failedSuiteGap suite (reason suite lost) (cause suite lost)) =
      lost.map metricOf)
    (found : metricId ∈ ((get? evidence suite).getD []).map metricOf)
    (missing : stillMissing metrics reading suite metricId = true) :
    ∃ gap, derivedGap metrics reading evidence metricOf reason cause suite = some gap ∧
      Reports metrics providerId dir suite metricId gap := by
  obtain ⟨e, inside, rfl⟩ := List.mem_map.mp found
  have remains : e ∈ left metrics reading evidence metricOf suite :=
    List.mem_filter.mpr ⟨inside, missing⟩
  refine ⟨_, derivedGap_eq_some.mpr ⟨standing, List.ne_nil_of_mem remains, rfl⟩, rfl, rfl, rfl,
    Or.inl ?_⟩
  rw [names]
  exact List.mem_map_of_mem remains

/-- A derived gap names what is still missing of the evidence. -/
lemma missing_of_derivedGap {α : Type} {evidence : List (String × List α)} {metricOf : α → String}
    {reason : String → List α → String} {cause : String → List α → GapCause}
    {suite metricId : String} {gap : ResultGap}
    (names : ∀ lost, namedMetrics (failedSuiteGap suite (reason suite lost) (cause suite lost)) =
      lost.map metricOf)
    (made : derivedGap metrics reading evidence metricOf reason cause suite = some gap)
    (named : metricId ∈ namedMetrics gap) :
    metricId ∈ ((get? evidence suite).getD []).map metricOf ∧
      stillMissing metrics reading suite metricId = true := by
  obtain ⟨-, -, rfl⟩ := derivedGap_eq_some.mp made
  rw [names] at named
  obtain ⟨e, remains, rfl⟩ := List.mem_map.mp named
  obtain ⟨inside, missing⟩ := List.mem_filter.mp remains
  exact ⟨List.mem_map_of_mem inside, missing⟩

/-- The row of every directory that can be read accounts for what its suites tried. -/
theorem normalizeProviderDir_accounts {rawRoot : String → Option ProviderDir} {row : ProviderRun}
    (present : rawRoot providerId = some dir)
    (normalized : normalizeProviderDir runtime catalog metrics rawRoot providerId = .ok row) :
    Accounts metrics providerId dir row := by
  simp only [normalizeProviderDir, present, bind_eq_ok, pure_eq_ok] at normalized
  obtain ⟨reading, read, rfl⟩ := normalized
  have evident := readProviderDir_evident read
  refine ⟨fun suite metricId tried unpublished => ?_, fun gap member => ?_⟩
  · have declared := declared_of_tried tried
    have registered := registered_of_declared declared
    rw [mem_metricIds evident declared] at unpublished
    by_cases accounted : Accounted metrics providerId dir suite metricId
    · obtain ⟨gap, member, reports⟩ := reports_of_accounted evident registered accounted
      exact ⟨gap, List.mem_append_left _ member, reports⟩
    · have standing : suite ∉ reading.markers.harnessFailedSuites := fun failed =>
        accounted (Or.inl ((evident.harness suite registered).mp failed))
      have missing : stillMissing metrics reading suite metricId = true := by
        refine (stillMissing_iff evident registered).mpr ⟨unpublished, fun leaf g marker => ?_⟩
        by_contra owns
        rw [Bool.not_eq_false] at owns
        exact accounted (Or.inr ⟨leaf, g, marker, owns⟩)
      rcases tried with ⟨-, sub, member, rfl, attempted⟩ | ⟨sub, member, rfl, survivor, dropped⟩
      · have read : sub.name ∈ (suiteDirs runtime dir).map (·.name) :=
          List.mem_map_of_mem (mem_suiteDirs.mpr ⟨member, registered⟩)
        have found : metricId ∈ (reading.shortfall sub.name).map (·.metricId) := by
          refine (evident.missing sub.name registered metricId).mpr
            ⟨sub, member, rfl, declared, attempted, fun measured => ?_⟩
          exact unpublished (Or.inl ⟨sub, member, registered, measured⟩)
        obtain ⟨gap, made, reports⟩ : ∃ gap, shortfallGap metrics reading sub.name = some gap ∧
            Reports metrics providerId dir sub.name metricId gap :=
          exists_derivedGap standing (fun _ => rfl) found missing
        exact ⟨gap, List.mem_append_right _ (mem_derivedGaps.mpr (Or.inl ⟨sub.name, read, made⟩)),
          reports⟩
      · have read : sub.name ∈ (suiteDirs runtime dir).map (·.name) :=
          List.mem_map_of_mem (mem_suiteDirs.mpr ⟨member, registered⟩)
        have found := evident.twins sub member registered survivor metricId dropped
        obtain ⟨gap, made, reports⟩ : ∃ gap, twinDropGap metrics reading sub.name = some gap ∧
            Reports metrics providerId dir sub.name metricId gap :=
          exists_derivedGap standing (fun _ => rfl) found missing
        exact ⟨gap, List.mem_append_right _ (mem_derivedGaps.mpr (Or.inr ⟨sub.name, read, made⟩)),
          reports⟩
  · rcases List.mem_append.mp member with marked | derived
    · exact Or.inl ((evident.gaps gap).mp marked)
    · right
      intro metricId named
      rcases mem_derivedGaps.mp derived with ⟨suite, read, made⟩ | ⟨suite, read, made⟩
      · have registered := suiteDirs_registered read
        obtain ⟨found, missing⟩ := missing_of_derivedGap (fun _ => rfl) made named
        obtain ⟨-, -, -, declared, -⟩ := (evident.missing suite registered metricId).mp found
        rw [mem_metricIds evident declared]
        exact ((stillMissing_iff evident registered).mp missing).1
      · have registered := suiteDirs_registered read
        obtain ⟨found, missing⟩ := missing_of_derivedGap (fun _ => rfl) made named
        rw [mem_metricIds evident (evident.twinsDeclared suite metricId found)]
        exact ((stillMissing_iff evident registered).mp missing).1

/-! ### A loss without a suite, and a marker that accuses -/

/-- Every declared metric that some file tried without a value is named, or its suite failed. -/
def NamesEveryLoss (metrics : MetricCatalog) (dir : ProviderDir) (row : ProviderRun) : Prop :=
  ∀ suite metricId, metricId ∈ declaredMetrics suite →
    Attempted metrics dir suite metricId ∨ AttemptedEmpty metrics dir.files metricId →
    metricId ∉ metricIds row →
    ∃ gap ∈ row.gaps, metricId ∈ namedMetrics gap ∨ gap.id = suite ∧ gap.outcome = .failed

def NamesNoPublished (row : ProviderRun) : Prop :=
  ∀ gap ∈ row.gaps, ∀ metricId ∈ namedMetrics gap, metricId ∉ metricIds row

def gitMetric : CatalogMetric := ⟨⟨"git_seconds", "Seconds", some ⟨"pts/git", none, none⟩⟩, .system⟩

def pybenchMetric : CatalogMetric :=
  ⟨⟨"pybench_milliseconds", "Milliseconds", some ⟨"pts/pybench", none, none⟩⟩, .system⟩

def systemMetrics : MetricCatalog := MetricCatalog.load [gitMetric, pybenchMetric] (by decide +kernel)

def failedGit : CompositeResult where
  identifier := "pts/git-1.1.0"
  description := none
  scale := "Seconds"
  entries := [⟨none, none⟩]
  appVersion := none
  arguments := none
  proportion := "LIB"

def measuredPybench : CompositeResult where
  identifier := "pts/pybench-1.1.3"
  description := none
  scale := "Milliseconds"
  entries := [⟨some 812, none⟩]
  appVersion := none
  arguments := none
  proportion := "LIB"

/-- A file beside the suite directories. -/
def systemFile : RawFile := ⟨"pts_system.xml", .ok ⟨[], [failedGit, measuredPybench]⟩, none⟩

def accusation : Value :=
  .obj [("outcome", .str "failed"), ("suite", .str "memory"), ("reason", .str "no value recorded"),
    ("cause", .obj [("kind", .str "metrics-unrecorded"),
      ("metricIds", .arr [.str "pybench_milliseconds"]), ("declared", .num 1)])]

def markerFile : RawFile := ⟨"sandbox-e2b-memory--failed.json", .error "no composite", some accusation⟩

/-- What the marker is read as. -/
def accusingGap : ResultGap :=
  ⟨.suite, "memory", .failed, "no value recorded", some (.metricsUnrecorded ["pybench_milliseconds"] 1)⟩

def memoryDirectory : Subdirectory := ⟨"memory", [markerFile], none, none, []⟩

def strayDir : ProviderDir := ⟨[memoryDirectory], by simp, [systemFile], [], []⟩

def strayRoot (providerId : String) : Option ProviderDir :=
  if providerId = "e2b" then some strayDir else none

/-- What the names and texts of the stray files come to. -/
structure StrayFacts : Prop where
  marks : parseGapMarker markerFile.name markerFile.json "e2b" = some accusingGap
  composite : isPtsResultFile systemFile.name = true
  plain : isPtsResultFile markerFile.name = false
  noProbe : networkProbeContributions markerFile.name markerFile.json = []
  gitTest : versionlessTest "pts/git-1.1.0" = "pts/git"
  pybenchTest : versionlessTest "pts/pybench-1.1.3" = "pts/pybench"
  foreign : "git_seconds" ∉ declaredMetrics "memory"
  git : "git_seconds" ∈ declaredMetrics "system"
  pybench : "pybench_milliseconds" ∈ declaredMetrics "system"

lemma strayFacts : StrayFacts := by
  constructor <;> decide +kernel

lemma not_measured_markerFile (metricId : String) :
    ¬ HasValue systemMetrics [markerFile] metricId := by
  simp [HasValue, HasResult, HasProbe, strayFacts.plain, strayFacts.noProbe]

lemma attempted_git : AttemptedEmpty systemMetrics [systemFile] "git_seconds" := by
  refine ⟨systemFile, List.mem_singleton_self _, strayFacts.composite, _, rfl, failedGit,
    List.mem_cons_self, gitMetric, ?_, rfl, ?_, rfl⟩
  · rw [systemMetrics, MetricCatalog.entries_load]
    exact List.mem_cons_self
  · exact ⟨_, rfl, strayFacts.gitTest.symm, by rintro _ ⟨⟩, by rintro _ ⟨⟩⟩

lemma measured_pybench : HasValue systemMetrics [systemFile] "pybench_milliseconds" := by
  refine Or.inl ⟨systemFile, List.mem_singleton_self _, strayFacts.composite, _, rfl,
    measuredPybench, List.mem_cons_of_mem _ List.mem_cons_self, pybenchMetric, ?_, rfl, ?_, rfl⟩
  · rw [systemMetrics, MetricCatalog.entries_load]
    exact List.mem_cons_of_mem _ List.mem_cons_self
  · exact ⟨_, rfl, strayFacts.pybenchTest.symm, by rintro _ ⟨⟩, by rintro _ ⟨⟩⟩

lemma not_measured_git : ¬ HasValue systemMetrics [systemFile] "git_seconds" := by
  rintro (⟨file, member, -, composite, parsed, result, inside, metric, listed, named,
    ⟨pts, given, test, -⟩, measured⟩ | ⟨file, member, other, -⟩)
  · obtain rfl := List.mem_singleton.mp member
    obtain rfl := Except.ok.inj parsed
    rw [systemMetrics, MetricCatalog.entries_load] at listed
    rcases List.mem_cons.mp inside with rfl | inside
    · cases measured
    · obtain rfl := List.mem_singleton.mp inside
      rcases List.mem_cons.mp listed with rfl | listed
      · obtain rfl := Option.some.inj given
        rw [show measuredPybench.identifier = "pts/pybench-1.1.3" from rfl, strayFacts.pybenchTest] at test
        exact absurd test (by decide)
      · obtain rfl := List.mem_singleton.mp listed
        exact absurd named (by decide)
  · obtain rfl := List.mem_singleton.mp member
    rw [strayFacts.composite] at other
    cases other

lemma strayDir_read : ∃ reading,
    readProviderDir plainRuntime systemMetrics "e2b" strayDir = .ok reading := by
  apply readProviderDir_of_unmeasured
  · intro file member _
    rw [List.mem_singleton.mp member]
    exact ⟨_, rfl⟩
  · intro sub member file inside named
    obtain rfl := List.mem_singleton.mp member
    rw [List.mem_singleton.mp inside, strayFacts.plain] at named
    cases named
  · intro sub member
    rw [List.mem_singleton.mp member]
    exact ⟨rfl, rfl⟩
  · intro sub member
    rw [List.mem_singleton.mp member]
    exact not_measured_markerFile

lemma strayRoot_normalized : ∃ reading,
    readProviderDir plainRuntime systemMetrics "e2b" strayDir = .ok reading ∧
      normalizeProviderDir plainRuntime plainCatalog systemMetrics strayRoot "e2b" =
        .ok (providerRow plainRuntime plainCatalog "e2b" strayDir reading
          (rowGaps plainRuntime systemMetrics strayDir reading)) := by
  obtain ⟨reading, read⟩ := strayDir_read
  refine ⟨reading, read, ?_⟩
  rw [normalizeProviderDir]
  simp only [strayRoot, if_true, read, ok_bind]
  rfl

/-- No gap of the row is about the system suite. -/
lemma gaps_of_strayDir {reading : Reading} (evident : Evident systemMetrics "e2b" strayDir reading)
    {gap : ResultGap} (member : gap ∈ rowGaps plainRuntime systemMetrics strayDir reading) :
    gap.id = "memory" ∧ "git_seconds" ∉ namedMetrics gap := by
  have registered : "memory" ∈ suiteNames := by decide
  have only : ∀ suite ∈ (suiteDirs plainRuntime strayDir).map (·.name), suite = "memory" := by
    intro suite read
    obtain ⟨sub, inside, rfl⟩ := List.mem_map.mp read
    rw [List.mem_singleton.mp (mem_suiteDirs.mp inside).1]
    rfl
  rcases List.mem_append.mp member with marked | derived
  · rcases (evident.gaps gap).mp marked with ⟨sub, inside, -, g, marker, rfl⟩ | ⟨g, marker, -⟩
    · obtain rfl := List.mem_singleton.mp inside
      obtain ⟨file, own, parsed⟩ := marker
      rw [List.mem_singleton.mp own, strayFacts.marks] at parsed
      rw [← Option.some.inj parsed]
      decide
    · obtain ⟨file, own, parsed⟩ := marker
      have other :=
        not_isPtsResultFile_of_isGapMarkerFile (isGapMarkerFile_of_parseGapMarker parsed)
      rw [List.mem_singleton.mp own, strayFacts.composite] at other
      cases other
  · rcases mem_derivedGaps.mp derived with ⟨suite, read, made⟩ | ⟨suite, read, made⟩
    · obtain rfl := only suite read
      refine ⟨?_, fun named => ?_⟩
      · obtain ⟨-, -, rfl⟩ := derivedGap_eq_some.mp made
        rfl
      · have found := (missing_of_derivedGap (fun _ => rfl) made named).1
        obtain ⟨-, -, -, declared, -⟩ := (evident.missing "memory" registered _).mp found
        exact strayFacts.foreign declared
    · obtain rfl := only suite read
      refine ⟨?_, fun named => ?_⟩
      · obtain ⟨-, -, rfl⟩ := derivedGap_eq_some.mp made
        rfl
      · have found := (missing_of_derivedGap (fun _ => rfl) made named).1
        exact strayFacts.foreign (evident.twinsDeclared "memory" _ found)

/-- The flat loss is no suite's, and the marker passes through. -/
theorem strayRoot_unaccounted : ∃ row,
    normalizeProviderDir plainRuntime plainCatalog systemMetrics strayRoot "e2b" = .ok row ∧
      ¬ NamesEveryLoss systemMetrics strayDir row ∧ ¬ NamesNoPublished row := by
  obtain ⟨reading, read, normalized⟩ := strayRoot_normalized
  have evident := readProviderDir_evident read
  have marker : HasMarker "e2b" memoryDirectory.files accusingGap :=
    ⟨markerFile, List.mem_singleton_self _, strayFacts.marks⟩
  refine ⟨_, normalized, ?_, ?_⟩
  · intro named
    have unpublished : ¬ Published systemMetrics strayDir "git_seconds" := by
      rintro (⟨sub, inside, -, value⟩ | value)
      · obtain rfl := List.mem_singleton.mp inside
        exact not_measured_markerFile _ value
      · exact not_measured_git value
    obtain ⟨gap, member, accounts⟩ := named "system" "git_seconds" strayFacts.git (Or.inr attempted_git)
      (mt (mem_metricIds evident strayFacts.git).mp unpublished)
    have memory := gaps_of_strayDir evident member
    rcases accounts with accused | ⟨own, -⟩
    · exact memory.2 accused
    · rw [memory.1] at own
      exact absurd own (by decide)
  · intro honest
    have published : Published systemMetrics strayDir "pybench_milliseconds" := Or.inr measured_pybench
    have passed : accusingGap ∈ reading.markers.gaps :=
      (evident.gaps _).mpr (Or.inl ⟨memoryDirectory, List.mem_singleton_self _, by decide, _, marker, rfl⟩)
    exact honest accusingGap (List.mem_append_left _ passed) "pybench_milliseconds" (by decide)
      ((mem_metricIds evident strayFacts.pybench).mpr published)

theorem strayRoot_accounts : ∃ row,
    normalizeProviderDir plainRuntime plainCatalog systemMetrics strayRoot "e2b" = .ok row ∧
      Accounts systemMetrics "e2b" strayDir row := by
  obtain ⟨reading, -, normalized⟩ := strayRoot_normalized
  exact ⟨_, normalized, normalizeProviderDir_accounts rfl normalized⟩

end NormalizeTree
