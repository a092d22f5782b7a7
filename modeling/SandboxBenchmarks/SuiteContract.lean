import Mathlib.Data.List.Infix
import SandboxBenchmarks.PlanVerification
import SandboxBenchmarks.PtsIndex

/-!
# Suites and their metrics

What `packages/schema/src/suites.ts`, `fio-mode.ts` and `network-probe-metrics.ts`
declare of the suites, and the check of what a suite emitted in
`suite-contract.ts`.
-/

namespace SuiteContract

open Checks Keyed PtsIndex

/-- The axes a provider is measured across. -/
inductive Dimension where
  | lifecycle
  | controlPlane
  | cpu
  | disk
  | memory
  | network
  | system
  | realworld
  | economics
deriving DecidableEq, Repr

def Dimension.text : Dimension → String
  | .lifecycle => "lifecycle"
  | .controlPlane => "control-plane"
  | .cpu => "cpu"
  | .disk => "disk"
  | .memory => "memory"
  | .network => "network"
  | .system => "system"
  | .realworld => "realworld"
  | .economics => "economics"

/-- `text.includes(part)` -/
def includes (text part : String) : Bool := decide (part.toList <:+: text.toList)

/-! ### Network probes -/

structure NetworkLatencyTarget where
  id : String
  url : String

structure NetworkDnsTarget where
  id : String
  domain : String

structure NetworkDownloadTarget where
  id : String
  url : String

def networkLatencyTargets : List NetworkLatencyTarget :=
  [⟨"network_https_github_com_total_ms",
      "https://github.com/"⟩,
    ⟨"network_https_api_github_com_total_ms",
      "https://api.github.com/"⟩,
    ⟨"network_https_raw_githubusercontent_com_total_ms",
      "https://raw.githubusercontent.com/"⟩,
    ⟨"network_https_registry_npmjs_org_total_ms",
      "https://registry.npmjs.org/"⟩,
    ⟨"network_https_pypi_org_total_ms",
      "https://pypi.org/"⟩,
    ⟨"network_https_files_pythonhosted_org_total_ms",
      "https://files.pythonhosted.org/"⟩,
    ⟨"network_https_ghcr_io_v2_total_ms",
      "https://ghcr.io/v2/"⟩,
    ⟨"network_https_gcr_io_v2_total_ms",
      "https://gcr.io/v2/"⟩,
    ⟨"network_https_auth_docker_io_registry_token_total_ms",
      "https://auth.docker.io/token?service=registry.docker.io"⟩,
    ⟨"network_https_crates_io_total_ms",
      "https://crates.io/"⟩,
    ⟨"network_https_index_crates_io_config_total_ms",
      "https://index.crates.io/config.json"⟩]

def networkDnsTargets : List NetworkDnsTarget :=
  [⟨"network_dns_cold_github_com_ms", "github.com"⟩,
    ⟨"network_dns_cold_registry_npmjs_org_ms", "registry.npmjs.org"⟩,
    ⟨"network_dns_cold_docker_io_ms", "docker.io"⟩,
    ⟨"network_dns_cold_pypi_org_ms", "pypi.org"⟩,
    ⟨"network_dns_cold_rubygems_org_ms", "rubygems.org"⟩]

def networkDownloadTarget : NetworkDownloadTarget where
  id := "network_download_node_v22_23_1_linux_x64_mbits_per_sec"
  url := "https://nodejs.org/dist/v22.23.1/node-v22.23.1-linux-x64.tar.gz"

def networkProbeMetricIds : List String :=
  networkLatencyTargets.map (·.id) ++ networkDnsTargets.map (·.id) ++ [networkDownloadTarget.id]

/-! ### Suites -/

inductive FioDirectMode where
  | yes
  | no
deriving DecidableEq, Repr

def diskFioDirect : FioDirectMode := .yes

def fioDirectToken : FioDirectMode → String
  | .yes => "_direct_yes_"
  | .no => "_direct_no_"

/-- Supported fio scenarios, with historical direct-mode observations. -/
def fioScenarioMetrics : List String :=
  ["fio_type_sequential_read_engine_linux_aio_direct_yes_block_size_1mb_job_count_1_disk_target_default_test_directory_mb_per_s",
    "fio_type_sequential_read_engine_linux_aio_direct_yes_block_size_1mb_job_count_1_disk_target_default_test_directory_iops",
    "fio_type_sequential_write_engine_linux_aio_direct_yes_block_size_1mb_job_count_1_disk_target_default_test_directory_mb_per_s",
    "fio_type_sequential_write_engine_linux_aio_direct_yes_block_size_1mb_job_count_1_disk_target_default_test_directory_iops",
    "fio_type_random_read_engine_linux_aio_direct_yes_block_size_4kb_job_count_1_disk_target_default_test_directory_mb_per_s",
    "fio_type_random_read_engine_linux_aio_direct_yes_block_size_4kb_job_count_1_disk_target_default_test_directory_iops",
    "fio_type_random_write_engine_linux_aio_direct_yes_block_size_4kb_job_count_1_disk_target_default_test_directory_mb_per_s",
    "fio_type_random_write_engine_linux_aio_direct_yes_block_size_4kb_job_count_1_disk_target_default_test_directory_iops",
    "fio_type_sequential_read_engine_linux_aio_direct_no_block_size_1mb_job_count_1_disk_target_default_test_directory_mb_per_s",
    "fio_type_sequential_read_engine_linux_aio_direct_no_block_size_1mb_job_count_1_disk_target_default_test_directory_iops",
    "fio_type_sequential_write_engine_linux_aio_direct_no_block_size_1mb_job_count_1_disk_target_default_test_directory_mb_per_s",
    "fio_type_sequential_write_engine_linux_aio_direct_no_block_size_1mb_job_count_1_disk_target_default_test_directory_iops",
    "fio_type_random_read_engine_linux_aio_direct_no_block_size_4kb_job_count_1_disk_target_default_test_directory_mb_per_s",
    "fio_type_random_read_engine_linux_aio_direct_no_block_size_4kb_job_count_1_disk_target_default_test_directory_iops",
    "fio_type_random_write_engine_linux_aio_direct_no_block_size_4kb_job_count_1_disk_target_default_test_directory_mb_per_s",
    "fio_type_random_write_engine_linux_aio_direct_no_block_size_4kb_job_count_1_disk_target_default_test_directory_iops"]

/-- The fio metrics a disk run in one mode emits. -/
def diskFioMetrics (mode : FioDirectMode) : List String :=
  fioScenarioMetrics.filter (fun id => includes id (fioDirectToken mode))

/-- What a suite says it measures. -/
structure Suite where
  dimensions : List Dimension
  metrics : List String

def diskMetrics : List String := "hardlink_bogo_ops_per_s" :: diskFioMetrics diskFioDirect

def suites : List (String × Suite) :=
  [("cpu-node", ⟨[.cpu],
      ["node_web_tooling_runs_per_s"]⟩),
    ("system", ⟨[.system],
      ["pybench_milliseconds",
        "sqlite_speedtest_seconds",
        "git_seconds"]⟩),
    ("pgbench", ⟨[.system],
      ["pgbench_scaling_factor_100_clients_50_mode_read_only",
        "pgbench_scaling_factor_100_clients_50_mode_read_only_average_latency",
        "pgbench_scaling_factor_100_clients_50_mode_read_write",
        "pgbench_scaling_factor_100_clients_50_mode_read_write_average_latency"]⟩),
    ("memory", ⟨[.memory],
      ["stream_type_copy",
        "stream_type_scale",
        "stream_type_add",
        "stream_type_triad"]⟩),
    ("disk", ⟨[.disk],
      diskMetrics⟩),
    ("network", ⟨[.network],
      ["iperf_server_address_localhost_server_port_5201_duration_10_seconds_test_tcp_parallel_1",
        "iperf_server_address_localhost_server_port_5201_duration_10_seconds_test_tcp_parallel_10",
        "iperf_server_address_localhost_server_port_5201_duration_10_seconds_test_udp_10000mbit_objective_parallel_1",
        "iperf_wan_direction_download",
        "iperf_wan_direction_upload"] ++ networkProbeMetricIds⟩),
    ("realworld-mastra", ⟨[.realworld],
      ["realworld_mastra_task_git_clone",
        "realworld_mastra_task_cold_install",
        "realworld_mastra_task_lint_format",
        "realworld_mastra_task_build_core",
        "realworld_mastra_task_test_core"]⟩),
    ("realworld-better-auth", ⟨[.realworld],
      ["realworld_better_auth_task_git_clone",
        "realworld_better_auth_task_cold_install",
        "realworld_better_auth_task_lint_biome",
        "realworld_better_auth_task_lint_deps_knip",
        "realworld_better_auth_task_lint_format",
        "realworld_better_auth_task_lint_spell",
        "realworld_better_auth_task_lint_types",
        "realworld_better_auth_task_lint_packages",
        "realworld_better_auth_task_typecheck",
        "realworld_better_auth_task_build"]⟩),
    ("realworld-openclaw", ⟨[.realworld],
      ["realworld_openclaw_task_git_clone",
        "realworld_openclaw_task_cold_install",
        "realworld_openclaw_task_lint_oxlint",
        "realworld_openclaw_task_lint_extensions_all",
        "realworld_openclaw_task_typecheck",
        "realworld_openclaw_task_test_types"]⟩)]

def suiteNames : List String := suites.map Prod.fst

/-- The suites are those that are planned. -/
example : suiteNames = PlanVerification.suites.map Prod.fst := rfl

/-- `SUITES[suite]?.metrics ?? []` -/
def suiteMetrics (suite : String) : List String := ((get? suites suite).map (·.metrics)).getD []

/-! ### Emissions -/

structure CatalogMetric extends MetricDef where
  dimension : Dimension
deriving DecidableEq, Repr

/-- The Metric Catalog as it is loaded, with the index of its PTS entries. -/
structure MetricCatalog where
  entries : List CatalogMetric
  accepted : catalogSchema (entries.map (·.toMetricDef)) = .ok ()
  index : Index
  built : buildPtsIndex (entries.map (·.toMetricDef)) = .ok index

lemma buildPtsIndex_ne_error {cat : List MetricDef} (accepted : catalogSchema cat = .ok ())
    (message : String) : buildPtsIndex cat ≠ .error message := by
  obtain ⟨index, built, -⟩ := buildPtsIndex_indexed (narrow_of_accepted accepted).1
  simp [built]

def MetricCatalog.load (entries : List CatalogMetric)
    (accepted : catalogSchema (entries.map (·.toMetricDef)) = .ok ()) : MetricCatalog :=
  match built : buildPtsIndex (entries.map (·.toMetricDef)) with
  | .ok index => ⟨entries, accepted, index, built⟩
  | .error message => absurd built (buildPtsIndex_ne_error accepted message)

@[simp] lemma MetricCatalog.entries_load {entries : List CatalogMetric}
    (accepted : catalogSchema (entries.map (·.toMetricDef)) = .ok ()) :
    (load entries accepted).entries = entries := by
  unfold load
  split
  · rfl
  · rename_i message built
    exact absurd built (buildPtsIndex_ne_error accepted message)

/-- A catalogued metric a suite emitted on a dimension it does not declare. -/
structure OffDimensionEmission where
  suite : String
  metricId : String
  dimension : Dimension
deriving DecidableEq, Repr

section
variable (metrics : MetricCatalog)

def dimensionById : List (String × Dimension) :=
  mapOf (metrics.entries.map (fun metric => (metric.id, metric.dimension)))

/-- A repeated id is reported once, at its first place. -/
def offDimensionEmissions (suite : String) (emittedMetricIds : List String) :
    List OffDimensionEmission :=
  match get? suites suite with
  | none => []
  | some contract =>
    (setOf emittedMetricIds).filterMap (fun metricId =>
      match get? (dimensionById metrics) metricId with
      | none => none
      | some dimension =>
        if dimension ∈ contract.dimensions then none else some ⟨suite, metricId, dimension⟩)

end

def describeOffDimensionEmission (emission : OffDimensionEmission) : String :=
  let suite := emission.suite
  let metricId := emission.metricId
  let dimension := emission.dimension.text
  s!"suite \"{suite}\" emitted metric \"{metricId}\" on dimension \"{dimension}\", which it does not measure"

/-! ### Literals -/

/-- Strings are compared by their characters. -/
lemma nodup_of_spelled {l : List String} (spelling : List (List Char))
    (spelled : l = spelling.map String.ofList) (apart : spelling.Nodup) : l.Nodup := by
  rw [spelled]
  exact apart.map (fun _ _ same => String.ofList_injective same)

lemma ofList_cons_ne_empty (c : Char) (chars : List Char) : String.ofList (c :: chars) ≠ "" := by
  simp [String.ofList_eq_empty_iff]

lemma includes_ofList (text part : List Char) :
    includes (String.ofList text) (String.ofList part) = decide (part <:+: text) := by
  rw [includes, String.toList_ofList, String.toList_ofList]

/-! ### The disk suite -/

set_option maxRecDepth 4000 in
lemma nodup_fioScenarioMetrics : fioScenarioMetrics.Nodup := by
  refine nodup_of_spelled [_, _, _, _, _, _, _, _, _, _, _, _, _, _, _, _] rfl ?_
  decide +kernel

lemma fioScenarioMetrics_named : ∀ id ∈ fioScenarioMetrics, id ≠ "" := by
  simp only [fioScenarioMetrics, List.forall_mem_cons]
  refine ⟨?_, ?_, ?_, ?_, ?_, ?_, ?_, ?_, ?_, ?_, ?_, ?_, ?_, ?_, ?_, ?_, List.forall_mem_nil _⟩
  all_goals exact ofList_cons_ne_empty _ _

set_option maxRecDepth 2000 in
/-- The scenarios come in O_DIRECT first, then buffered. -/
lemma direct_of_take : ∀ id ∈ fioScenarioMetrics.take 8, includes id "_direct_yes_" = true := by
  simp only [fioScenarioMetrics, List.take_succ_cons, List.take_zero, List.forall_mem_cons]
  refine ⟨?_, ?_, ?_, ?_, ?_, ?_, ?_, ?_, List.forall_mem_nil _⟩
  all_goals exact (includes_ofList _ _).trans (by decide +kernel)

set_option maxRecDepth 2000 in
lemma buffered_of_drop : ∀ id ∈ fioScenarioMetrics.drop 8, includes id "_direct_yes_" = false := by
  simp only [fioScenarioMetrics, List.drop_succ_cons, List.drop_zero, List.forall_mem_cons]
  refine ⟨?_, ?_, ?_, ?_, ?_, ?_, ?_, ?_, List.forall_mem_nil _⟩
  all_goals exact (includes_ofList _ _).trans (by decide +kernel)

lemma diskFioMetrics_direct : diskFioMetrics .yes = fioScenarioMetrics.take 8 := by
  have direct : (fioScenarioMetrics.take 8).filter (fun id => includes id "_direct_yes_") =
      fioScenarioMetrics.take 8 := List.filter_eq_self.mpr direct_of_take
  have buffered : (fioScenarioMetrics.drop 8).filter (fun id => includes id "_direct_yes_") = [] := by
    rw [List.filter_eq_nil_iff]
    exact fun id member => by simp [buffered_of_drop id member]
  have split : diskFioMetrics .yes = (fioScenarioMetrics.take 8 ++ fioScenarioMetrics.drop 8).filter
      (fun id => includes id "_direct_yes_") := by
    rw [List.take_append_drop]
    rfl
  rw [split, List.filter_append, direct, buffered, List.append_nil]

lemma suiteMetrics_disk : suiteMetrics "disk" =
    "hardlink_bogo_ops_per_s" :: fioScenarioMetrics.take 8 := by
  rw [← diskFioMetrics_direct]
  rfl

/-- The hardlink metric and eight scenarios of one mode. -/
lemma length_suiteMetrics_disk : (suiteMetrics "disk").length = 9 := by
  rw [suiteMetrics_disk]
  rfl

/-! ### Initials -/

lemma head_ofList {c : Char} (chars : List Char) (other : c ≠ 'u') :
    (String.ofList (c :: chars)).toList.head? ≠ some 'u' := by
  simpa using other

set_option maxRecDepth 2000 in
lemma fioScenarioMetrics_head : ∀ id ∈ fioScenarioMetrics, id.toList.head? ≠ some 'u' := by
  simp only [fioScenarioMetrics, List.forall_mem_cons]
  refine ⟨?_, ?_, ?_, ?_, ?_, ?_, ?_, ?_, ?_, ?_, ?_, ?_, ?_, ?_, ?_, ?_, List.forall_mem_nil _⟩
  all_goals exact head_ofList _ (by decide)

lemma networkProbeMetricIds_head : ∀ id ∈ networkProbeMetricIds, id.toList.head? ≠ some 'u' := by
  simp only [networkProbeMetricIds, networkLatencyTargets, networkDnsTargets, networkDownloadTarget,
    List.map_cons, List.map_nil, List.cons_append, List.nil_append]
  repeat' refine List.forall_mem_cons.mpr ⟨head_ofList _ (by decide), ?_⟩
  exact List.forall_mem_nil _

set_option maxRecDepth 2000 in
/-- Metrics of suites are not named like economics. -/
lemma suites_head : ∀ entry ∈ suites, ∀ id ∈ entry.2.metrics, id.toList.head? ≠ some 'u' := by
  have scenarios : ∀ id ∈ diskFioMetrics diskFioDirect, id.toList.head? ≠ some 'u' :=
    fun id member => fioScenarioMetrics_head id (List.mem_of_mem_filter member)
  have probes := networkProbeMetricIds_head
  simp only [suites, diskMetrics, List.forall_mem_cons, List.cons_append, List.nil_append]
  generalize diskFioMetrics diskFioDirect = scenarioIds at scenarios ⊢
  generalize networkProbeMetricIds = probeIds at probes ⊢
  repeat' apply And.intro
  all_goals
    first
    | exact scenarios
    | exact probes
    | exact List.forall_mem_nil _
    | exact head_ofList _ (by decide)

end SuiteContract
