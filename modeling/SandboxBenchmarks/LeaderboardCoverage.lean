import Mathlib.Data.List.Count
import SandboxBenchmarks.Leaderboard
import SandboxBenchmarks.RunSchema

/-!
# Holes in a run's coverage

`coverageGapsOf` of `packages/results/src/lib/leaderboard.ts`: the gaps the
providers recorded, and the suites that ran elsewhere and never reported here.
-/

namespace LeaderboardCoverage

open CanonicalJson Checks LeaderboardDatasets PlanVerification RunModel

inductive CoverageOutcome where
  | recorded (outcome : GapOutcome)
  | missing
deriving DecidableEq, Repr

/-- One benchmark that produced no result for a provider. -/
structure CoverageGap where
  providerId : String
  displayName : String
  scope : GapScope
  id : String
  outcome : CoverageOutcome
  reason : String
  disk : Bool
deriving DecidableEq, Repr

/-- Whether any gap carries a structured cause. -/
def producerClassifiesGaps (run : LeaderboardDataset) : Bool :=
  run.providers.any (fun provider => provider.gaps.any (fun gap => gap.cause.isSome))

/-- `reason.trim()` -/
def trimmed (reason : String) : List Char :=
  ((reason.toList.dropWhile jsBlank).reverse.dropWhile jsBlank).reverse

/-- A cause decides where there is one; prose speaks only for runs without any. -/
def isDiskGap (gap : ResultGap) (classified : Bool) : Bool :=
  match gap.cause with
  | some cause => cause.kind == "disk-shortfall"
  | none =>
    ! classified && "insufficient disk".toList.isPrefixOf ((trimmed gap.reason).map Char.toLower)

def outcomeOrder : CoverageOutcome → ℕ
  | .recorded .skipped => 0
  | .recorded .failed => 1
  | .missing => 2

/-- `SUITE_NAMES` -/
def registeredSuites : List String := suites.map Prod.fst

/-- The suite names one provider's row mentions, as results or as suite gaps. -/
def accountedFor (provider : ProviderRun) : List String :=
  provider.suitesCovered ++
    (provider.gaps.filter (fun gap => gap.scope = .suite)).map (·.id)

section
variable (runtime : JsonRuntime) (displayName : String → Option String)

/-- The registered suites that some provider covered or left a gap for. -/
def suitesExercised (run : LeaderboardDataset) : List String :=
  (Keyed.setOf (run.providers.flatMap fun provider =>
    (accountedFor provider).filter (· ∈ registeredSuites))).insertionSort
      (fun a b => runtime.localeCompareEn a b ≠ .gt)

def recordedGap (classified : Bool) (provider : ProviderRun) (gap : ResultGap) : CoverageGap where
  providerId := provider.providerId
  displayName := (displayName provider.providerId).getD provider.providerId
  scope := gap.scope
  id := gap.id
  outcome := .recorded gap.outcome
  reason := gap.reason
  disk := gap.outcome == .skipped && isDiskGap gap classified

def missingGap (provider : ProviderRun) (suite : String) : CoverageGap where
  providerId := provider.providerId
  displayName := (displayName provider.providerId).getD provider.providerId
  scope := .suite
  id := suite
  outcome := .missing
  reason := "No result and no marker — the suite never reported for this provider."
  disk := false

/-- One provider's holes; a row without evidence has none. -/
def providerGaps (exercised : List String) (classified : Bool) (provider : ProviderRun) :
    List CoverageGap :=
  if providerReportedNothing provider = true then []
  else
    provider.gaps.map (recordedGap displayName classified provider) ++
      (exercised.filter (· ∉ accountedFor provider)).map (missingGap displayName provider)

/-- Disk gaps first, then by outcome, provider and benchmark. -/
def compareGaps (a b : CoverageGap) : Ordering :=
  (compare b.disk.toNat a.disk.toNat).then <|
    (compare (outcomeOrder a.outcome) (outcomeOrder b.outcome)).then <|
      (runtime.localeCompareEn a.displayName b.displayName).then
        (runtime.localeCompareEn a.id b.id)

def coverageGapsOf (run : LeaderboardDataset) : List CoverageGap :=
  let exercised := suitesExercised runtime run
  let classified := producerClassifiesGaps run
  (run.providers.flatMap (providerGaps displayName exercised classified)).insertionSort
    (fun a b => compareGaps runtime a b ≠ .gt)

end

/-- A registered suite that some provider covered or left a suite gap for. -/
def Exercised (run : LeaderboardDataset) (suite : String) : Prop :=
  suite ∈ registeredSuites ∧ ∃ provider ∈ run.providers, suite ∈ accountedFor provider

instance (run : LeaderboardDataset) (suite : String) : Decidable (Exercised run suite) :=
  inferInstanceAs (Decidable (_ ∧ ∃ provider ∈ run.providers, suite ∈ accountedFor provider))

/-- A participating row that neither covered the suite nor recorded a gap for it. -/
def Silent (run : LeaderboardDataset) (suite : String) (provider : ProviderRun) : Prop :=
  providerReportedNothing provider = false ∧ Exercised run suite ∧ suite ∉ accountedFor provider

instance (run : LeaderboardDataset) (suite : String) (provider : ProviderRun) :
    Decidable (Silent run suite provider) :=
  inferInstanceAs (Decidable (_ ∧ Exercised run suite ∧ _))

/-- The derived entries for one provider and suite. -/
def missingCount (gaps : List CoverageGap) (providerId suite : String) : ℕ :=
  gaps.countP (fun gap => gap.outcome = .missing ∧ gap.providerId = providerId ∧ gap.id = suite)

variable {runtime : JsonRuntime} {displayName : String → Option String} {run : LeaderboardDataset}

lemma mem_suitesExercised {suite : String} :
    suite ∈ suitesExercised runtime run ↔ Exercised run suite := by
  rw [suitesExercised, (List.perm_insertionSort _ _).mem_iff, Keyed.mem_setOf, List.mem_flatMap,
    Exercised]
  simp only [List.mem_filter, decide_eq_true_eq]
  constructor
  · rintro ⟨provider, member, mentioned, registered⟩
    exact ⟨registered, provider, member, mentioned⟩
  · rintro ⟨registered, provider, member, mentioned⟩
    exact ⟨provider, member, mentioned, registered⟩

lemma nodup_suitesExercised : (suitesExercised runtime run).Nodup :=
  (List.perm_insertionSort _ _).nodup_iff.mpr (Keyed.nodup_setOf _)

lemma perm_coverageGapsOf : (coverageGapsOf runtime displayName run).Perm
    (run.providers.flatMap (providerGaps displayName (suitesExercised runtime run)
      (producerClassifiesGaps run))) :=
  List.perm_insertionSort _ _

/-- A row without evidence has no gaps to lose. -/
lemma gaps_of_reportedNothing {provider : ProviderRun} (h : providerReportedNothing provider = true) :
    provider.gaps = [] := by
  simp only [providerReportedNothing, Bool.and_eq_true, List.isEmpty_iff] at h
  exact h.1.1.1.1.1.2

lemma recorded_providerGaps (exercised : List String) (classified : Bool) (provider : ProviderRun) :
    (providerGaps displayName exercised classified provider).filter (·.outcome ≠ .missing) =
      provider.gaps.map (recordedGap displayName classified provider) := by
  unfold providerGaps
  split
  · rename_i silent
    rw [gaps_of_reportedNothing silent]
    rfl
  · have kept : (provider.gaps.map (recordedGap displayName classified provider)).filter
        (·.outcome ≠ .missing) = provider.gaps.map (recordedGap displayName classified provider) := by
      rw [List.filter_eq_self]
      intro gap member
      obtain ⟨g, _, rfl⟩ := List.mem_map.mp member
      rfl
    have dropped : ((exercised.filter (· ∉ accountedFor provider)).map
        (missingGap displayName provider)).filter (·.outcome ≠ .missing) = [] := by
      rw [List.filter_eq_nil_iff]
      intro gap member
      obtain ⟨suite, _, rfl⟩ := List.mem_map.mp member
      simp [missingGap]
    rw [List.filter_append, kept, dropped, List.append_nil]

lemma missing_providerGaps (provider : ProviderRun) (classified : Bool) (providerId suite : String) :
    missingCount (providerGaps displayName (suitesExercised runtime run) classified provider)
        providerId suite =
      if provider.providerId = providerId ∧ Silent run suite provider then 1 else 0 := by
  unfold providerGaps Silent
  by_cases silent : providerReportedNothing provider = true
  · simp [silent, missingCount]
  · have recorded : missingCount (provider.gaps.map (recordedGap displayName classified provider))
        providerId suite = 0 := by
      simp [missingCount, recordedGap]
    have derived : missingCount (((suitesExercised runtime run).filter
        (· ∉ accountedFor provider)).map (missingGap displayName provider)) providerId suite =
        if provider.providerId = providerId then
          ((suitesExercised runtime run).filter (· ∉ accountedFor provider)).count suite else 0 := by
      rw [missingCount, List.countP_map, List.count]
      by_cases mine : provider.providerId = providerId
      · rw [if_pos mine]
        apply List.countP_congr
        intro s _
        simp [missingGap, mine]
      · rw [if_neg mine]
        simp [missingGap, mine]
    have exercised : (suitesExercised runtime run).Nodup := nodup_suitesExercised
    have once := exercised.filter (fun s => decide (s ∉ accountedFor provider))
    have parts : missingCount (provider.gaps.map (recordedGap displayName classified provider) ++
        ((suitesExercised runtime run).filter (· ∉ accountedFor provider)).map
          (missingGap displayName provider)) providerId suite =
        if provider.providerId = providerId then
          ((suitesExercised runtime run).filter (· ∉ accountedFor provider)).count suite else 0 := by
      rw [missingCount, List.countP_append, ← missingCount, ← missingCount, recorded, derived,
        Nat.zero_add]
    rw [if_neg silent, parts, once.count]
    simp only [List.mem_filter, mem_suitesExercised, decide_eq_true_eq, Bool.not_eq_true] at silent ⊢
    simp only [silent, true_and]
    split_ifs <;> simp_all

lemma missingCount_coverageGapsOf (providerId suite : String) :
    missingCount (coverageGapsOf runtime displayName run) providerId suite =
      run.providers.countP (fun provider =>
        provider.providerId = providerId ∧ Silent run suite provider) := by
  rw [missingCount, perm_coverageGapsOf.countP_eq, List.countP_flatMap]
  have each : ∀ provider, List.countP (fun gap : CoverageGap =>
      gap.outcome = .missing ∧ gap.providerId = providerId ∧ gap.id = suite)
      (providerGaps displayName (suitesExercised runtime run) (producerClassifiesGaps run) provider) =
      if provider.providerId = providerId ∧ Silent run suite provider then 1 else 0 :=
    fun provider => missing_providerGaps provider _ providerId suite
  generalize run.providers = providers
  induction providers with
  | nil => rfl
  | cons provider providers ih =>
    rw [List.map_cons, List.sum_cons, ih, Function.comp_apply, each, List.countP_cons, Nat.add_comm]
    simp

/-- With one row for each provider, a count over the rows of one provider looks at one row. -/
lemma countP_own_row {providers : List ProviderRun} {provider : ProviderRun}
    (distinct : (providers.map (·.providerId)).Nodup) (member : provider ∈ providers)
    (P : ProviderRun → Prop) [DecidablePred P] :
    providers.countP (fun other => other.providerId = provider.providerId ∧ P other) =
      if P provider then 1 else 0 := by
  induction providers with
  | nil => cases member
  | cons first providers ih =>
    rw [List.map_cons, List.nodup_cons] at distinct
    rw [List.countP_cons]
    rcases List.mem_cons.mp member with rfl | later
    · have others : providers.countP (fun other =>
          other.providerId = provider.providerId ∧ P other) = 0 := by
        rw [List.countP_eq_zero]
        intro other here
        have apart : other.providerId ≠ provider.providerId := fun same =>
          distinct.1 (same ▸ List.mem_map_of_mem here)
        simp [apart]
      rw [others]
      simp
    · have apart : first.providerId ≠ provider.providerId := fun same =>
        distinct.1 (same ▸ List.mem_map_of_mem later)
      rw [ih distinct.2 later]
      simp [apart]

lemma scope_of_missing {gap : CoverageGap} (member : gap ∈ coverageGapsOf runtime displayName run)
    (missing : gap.outcome = .missing) : gap.scope = .suite := by
  obtain ⟨provider, _, here⟩ := List.mem_flatMap.mp (perm_coverageGapsOf.mem_iff.mp member)
  unfold providerGaps at here
  split at here
  · cases here
  · rcases List.mem_append.mp here with recorded | derived
    · obtain ⟨g, _, rfl⟩ := List.mem_map.mp recorded
      cases missing
    · obtain ⟨suite, _, rfl⟩ := List.mem_map.mp derived
      rfl

/-- Recorded gaps are kept with their multiplicity. The entries derived for a provider and suite are
as many as it has participating rows that neither covered an exercised suite nor recorded a gap for
it, so with one row each a pair is either reported or derived once. -/
theorem coverageGapsOf_accounts (runtime : JsonRuntime) (displayName : String → Option String)
    (run : LeaderboardDataset) :
    let gaps := coverageGapsOf runtime displayName run
    (gaps.filter (·.outcome ≠ .missing)).Perm (run.providers.flatMap fun provider =>
      provider.gaps.map (recordedGap displayName (producerClassifiesGaps run) provider)) ∧
    (∀ gap ∈ gaps, gap.outcome = .missing → gap.scope = .suite) ∧
    (∀ providerId suite, missingCount gaps providerId suite =
      run.providers.countP (fun provider =>
        provider.providerId = providerId ∧ Silent run suite provider)) ∧
    ((run.providers.map (·.providerId)).Nodup → ∀ provider ∈ run.providers, ∀ suite,
      providerReportedNothing provider = false → Exercised run suite →
        missingCount gaps provider.providerId suite =
          if suite ∈ provider.suitesCovered ∨
              (∃ gap ∈ provider.gaps, gap.scope = .suite ∧ gap.id = suite) then 0 else 1) := by
  intro gaps
  refine ⟨?_, fun gap member => scope_of_missing member, missingCount_coverageGapsOf, ?_⟩
  · have whole : (coverageGapsOf runtime displayName run).Perm _ := perm_coverageGapsOf
    have perm := whole.filter (·.outcome ≠ .missing)
    rw [List.filter_flatMap] at perm
    simp only [recorded_providerGaps] at perm
    exact perm
  · intro distinct provider member suite participates exercised
    have reported : (suite ∈ provider.suitesCovered ∨
        ∃ gap ∈ provider.gaps, gap.scope = .suite ∧ gap.id = suite) ↔
        suite ∈ accountedFor provider := by
      simp [accountedFor, and_assoc]
    rw [missingCount_coverageGapsOf, countP_own_row distinct member (Silent run suite)]
    simp only [reported, Silent, participates, exercised, true_and]
    split_ifs
    all_goals rfl

/-- A suite that gave some metrics and lost others. -/
def partialRow : ProviderRun where
  providerId := "e2b"
  costEvidence := none
  artifactEvidence := none
  validationStatus := .validated
  specMatched := none
  observedSpecs := []
  observedMixtures := none
  hostMetadata := none
  metrics := [⟨"fio_seq_read", ⟨[1], by simp⟩, ⟨1, 1, 1⟩, none, none, none, none, none, ⟨none, none⟩,
    false⟩]
  suitesCovered := ["disk"]
  gaps := [⟨.suite, "disk", .failed, "1 of 2 metrics produced no value",
    some (.metricsUnrecorded ["fio_seq_write"] 2)⟩]
  uncatalogued := []

def partialRun : Run where
  schemaVersion := 4
  runId := "1"
  sha := "a"
  generatedAt := "2026-01-31T00:00:00.000Z"
  sourceRunUrl := none
  replicateIndex := none
  experiment := none
  targetSpec := ⟨2, 4, none⟩
  providers := [partialRow]

/-- In a valid run the pair is covered and has a recorded gap, so it is accounted for twice. -/
theorem coverageGapsOf_overlap :
    (RunSchema.parseRun plainCatalog partialRun).isOk = true ∧
      partialRow ∈ partialRun.providers ∧ "disk" ∈ partialRow.suitesCovered ∧
      (coverageGapsOf plainJson (fun _ => none) (.published partialRun)).map
          (fun gap => (gap.providerId, gap.scope, gap.id, gap.outcome)) =
        [("e2b", .suite, "disk", .recorded .failed)] := by
  refine ⟨by decide +kernel, List.mem_singleton.mpr rfl, by decide, by decide +kernel⟩

end LeaderboardCoverage
