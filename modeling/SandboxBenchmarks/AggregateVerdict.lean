import SandboxBenchmarks.AggregateAccept

/-!
# Spec verdicts of merged rows

A merged row's `specMatched` folds what its shards recorded and what
`computeSpecMatched` says of each machine. The latter judges against the pinned
target, whatever target the shards were run for.
-/

namespace Aggregate

open CanonicalJson Checks JsonText PlanVerification RunModel RunSchema

variable {runtime : Runtime} {catalog : Catalog}

/-! ### What a category keeps of a reading -/

lemma get?_filterMap {specs : ObservedSpecs} (keys : List String) (key : String) :
    Keyed.get? (keys.filterMap fun k => (Keyed.get? specs k).map fun value => (k, value)) key =
      if key ∈ keys then Keyed.get? specs key else none := by
  induction keys with
  | nil => simp [Keyed.get?]
  | cons k keys ih =>
    rw [List.filterMap_cons]
    cases found : Keyed.get? specs k with
    | none =>
      simp only [Option.map_none, ih, List.mem_cons]
      by_cases here : key = k
      · subst here
        simp [found]
      · simp [here]
    | some value =>
      simp only [Option.map_some, Keyed.get?, ih, List.mem_cons]
      by_cases here : k = key
      · subst here
        simp [found]
      · have other : ¬ key = k := fun same => here same.symm
        simp [here, other]

lemma nodup_filterMap {specs : ObservedSpecs} {keys : List String} (nodup : keys.Nodup) :
    ((keys.filterMap fun k => (Keyed.get? specs k).map fun value => (k, value)).map
      Prod.fst).Nodup := by
  induction keys with
  | nil => simp
  | cons k keys ih =>
    obtain ⟨fresh, nodup⟩ := List.nodup_cons.mp nodup
    rw [List.filterMap_cons]
    cases found : Keyed.get? specs k with
    | none => simpa using ih nodup
    | some value =>
      refine List.nodup_cons.mpr ⟨?_, ih nodup⟩
      simp only [List.mem_map, List.mem_filterMap, Option.map_eq_some_iff, not_exists, not_and]
      rintro entry ⟨j, hj, v, _, rfl⟩ rfl
      exact fresh hj

/-- A category keeps the fields it declares. -/
theorem get?_categoryEntries {specs : ObservedSpecs} {keys : List String} (nodup : keys.Nodup)
    {key : String} (declared : key ∈ keys) :
    Keyed.get? (categoryEntries specs keys) key = Keyed.get? specs key := by
  have distinct := @nodup_filterMap specs keys nodup
  have perm := List.perm_insertionSort (fun a b : String × SpecValue => CodeUnits.le a.1 b.1)
    (keys.filterMap fun k => (Keyed.get? specs k).map fun value => (k, value))
  have sorted : ((categoryEntries specs keys).map Prod.fst).Nodup :=
    (perm.map Prod.fst).nodup_iff.mpr distinct
  have kept := @get?_filterMap specs keys key
  rw [if_pos declared] at kept
  cases found : Keyed.get? specs key with
  | none =>
    rw [found, Keyed.get?_eq_none_iff] at kept
    rw [Keyed.get?_eq_none_iff]
    exact fun member => kept ((perm.map Prod.fst).mem_iff.mp member)
  | some value =>
    rw [found] at kept
    exact Keyed.get?_of_mem sorted (perm.mem_iff.mpr (Keyed.mem_of_get? kept))

lemma computeSpecMatched_category (specs : ObservedSpecs) :
    computeSpecMatched (categoryEntries specs hostHardwareSpecKeys) = computeSpecMatched specs := by
  have vcpus := @get?_categoryEntries specs hostHardwareSpecKeys (by decide) "vcpus" (by decide)
  have memoryGb := @get?_categoryEntries specs hostHardwareSpecKeys (by decide) "memoryGb" (by decide)
  simp only [computeSpecMatched, numberOf, vcpus, memoryGb]

/-- The tally holds the content of every reading, and nothing else. -/
lemma tallyCategory_specs {keys : List String} {readings : List ObservedSpecs}
    {tally : List (String × Tally)} (h : tallyCategory runtime readings keys = .ok tally)
    (specs : ObservedSpecs) : (∃ e ∈ tally, e.2.specs = specs) ↔
      specs ≠ [] ∧ ∃ r ∈ readings, categoryEntries r keys = specs := by
  have passed := (tallyCategory_ok_iff readings).mp ⟨tally, h⟩
  obtain ⟨byId, counted, rfl⟩ := tallyCategory_ok h
  obtain ⟨tallied, _⟩ := tallyReading_run counted
  have perm := List.perm_insertionSort tallyOrder byId
  constructor
  · rintro ⟨⟨id, t⟩, he, rfl⟩
    have found := Keyed.get?_of_mem tallied.nodup (perm.mem_iff.mp he)
    rw [tallied.counts, Option.map_eq_some_iff] at found
    obtain ⟨c, head, rfl⟩ := found
    obtain ⟨⟨r, hr, category⟩, _⟩ := mem_readingsOf.mp (List.mem_of_mem_head? head)
    have disclosed := categoryOf_some category
    exact ⟨disclosed.nonempty, r, hr, disclosed.specs.symm⟩
  · rintro ⟨nonempty, r, hr, rfl⟩
    obtain ⟨c, category⟩ : ∃ c, categoryOf runtime r keys = some c := by
      unfold categoryOf
      cases entries : categoryEntries r keys with
      | nil => exact absurd entries nonempty
      | cons e es => exact ⟨_, rfl⟩
    have member : c ∈ readingsOf runtime keys readings c.id := mem_readingsOf.mpr ⟨⟨r, hr, category⟩, rfl⟩
    have found := tallied.counts c.id
    cases head : (readingsOf runtime keys readings c.id).head? with
    | none =>
      rw [List.head?_eq_none_iff.mp head] at member
      cases member
    | some d =>
      have same := readingsOf_unique passed (List.mem_of_mem_head? head) member
      subst same
      rw [head, Option.map_some] at found
      exact ⟨_, perm.mem_iff.mpr (Keyed.mem_of_get? found), (categoryOf_some category).specs⟩

/-! ### The verdict -/

lemma vcpus_disclosed {reading : ObservedSpecs} {verdict : Bool}
    (judged : computeSpecMatched reading = some verdict) :
    categoryEntries reading hostHardwareSpecKeys ≠ [] := by
  intro empty
  rw [← computeSpecMatched_category, empty] at judged
  cases judged

/-- A machine of the mixtures failed exactly when a sandbox read such a machine. -/
lemma mixture_failed_iff {readings : List ObservedSpecs} {mixtures : Option ObservedMixtures}
    (h : buildObservedMixtures runtime readings = .ok mixtures) :
    (∃ e ∈ (mixtures.map (·.hostHardware)).getD [], e.2.specMatched = some false) ↔
      ∃ r ∈ readings, computeSpecMatched r = some false := by
  cases mixtures with
  | none =>
    rw [buildObservedMixtures_none h]
    simp
  | some mixtures =>
    obtain ⟨_, hardware, network, hw, _, rfl⟩ := buildObservedMixtures_some h
    constructor
    · rintro ⟨e, he, failed⟩
      obtain ⟨entry, hentry, rfl⟩ := List.mem_map.mp he
      obtain ⟨_, r, hr, specs⟩ := (tallyCategory_specs hw entry.2.specs).mp ⟨entry, hentry, rfl⟩
      refine ⟨r, hr, ?_⟩
      rw [← computeSpecMatched_category, specs]
      exact failed
    · rintro ⟨r, hr, failed⟩
      obtain ⟨entry, hentry, specs⟩ := (tallyCategory_specs hw _).mpr
        ⟨vcpus_disclosed failed, r, hr, rfl⟩
      refine ⟨_, List.mem_map.mpr ⟨entry, hentry, rfl⟩, ?_⟩
      rw [← computeSpecMatched_category, ← specs] at failed
      exact failed

lemma foldMixtures_eq_false {verdict : Option Bool} {mixtures : Option ObservedMixtures} :
    foldMixtures verdict mixtures = some false ↔ verdict = some false ∨
      ∃ e ∈ (mixtures.map (·.hostHardware)).getD [], e.2.specMatched = some false := by
  rw [foldMixtures, ← List.foldl_map, foldVerdicts_eq_false]
  simp

lemma mergeProvider_ok {providerId : String} {entries : List ReplicateSlice}
    {targetSpec : TargetSpec} {emit : Bool} {row : ProviderRun}
    (h : mergeProvider runtime catalog providerId entries targetSpec emit = .ok row) :
    ∃ merge mixtures, Collected runtime catalog entries merge ∧
      buildObservedMixtures runtime (sandboxReadings entries) = .ok mixtures ∧
      row = mergedRow runtime catalog providerId targetSpec emit merge mixtures := by
  simp only [mergeProvider, bind_eq_ok, pure_eq_ok] at h
  obtain ⟨merge, pass, mixtures, built, rfl⟩ := h
  have collected := mergeSlice_run pass
  rw [collected.readings] at built
  exact ⟨merge, mixtures, collected, built, rfl⟩

/-- A merged row fails exactly when a shard recorded a failure or a sandbox that reported anything
read a machine off the pinned target. -/
theorem mergeProvider_failed_iff {providerId : String} {entries : List ReplicateSlice}
    {targetSpec : TargetSpec} {emit : Bool} {row : ProviderRun}
    (h : mergeProvider runtime catalog providerId entries targetSpec emit = .ok row) :
    row.specMatched = some false ↔
      (∃ e ∈ entries, e.slice.specMatched = some false) ∨
        ∃ e ∈ entries, computeSpecMatched e.slice.observedSpecs = some false := by
  obtain ⟨merge, mixtures, collected, built, rfl⟩ := mergeProvider_ok h
  have verdict : (mergedRow runtime catalog providerId targetSpec emit merge mixtures).specMatched =
      foldMixtures merge.specMatched mixtures := rfl
  rw [verdict, foldMixtures_eq_false, mixture_failed_iff built, collected.specMatched,
    foldVerdicts_eq_false]
  have recorded : some false ∈ verdictsOf entries ↔ ∃ e ∈ entries, e.slice.specMatched = some false :=
    List.mem_map
  rw [recorded]
  simp only [reduceCtorEq, false_or]
  refine or_congr_right ?_
  constructor
  · rintro ⟨r, hr, failed⟩
    obtain ⟨e, he, rfl⟩ := List.mem_map.mp hr
    exact ⟨e, (List.mem_filter.mp he).1, failed⟩
  · rintro ⟨e, he, failed⟩
    refine ⟨_, List.mem_map.mpr ⟨e, List.mem_filter.mpr ⟨he, ?_⟩, rfl⟩, failed⟩
    -- a judged reading is not empty, so the slice reported something
    cases specs : e.slice.observedSpecs with
    | nil =>
      rw [specs] at failed
      cases failed
    | cons s rest => simp [providerReportedNothing, specs]

/-! ### Merged Runs -/

structure Aggregated (runtime : Runtime) (catalog : Catalog) (runs : List Run) (merged : Run) :
    Prop where
  shards : runs ≠ []
  identity : ∀ run ∈ runs, run.runId = merged.runId ∧ run.sha = merged.sha ∧
    run.targetSpec = merged.targetSpec
  versions : (∀ run ∈ runs, 6 ≤ run.schemaVersion) ∨ ∀ run ∈ runs, run.schemaVersion < 6
  rows : ∀ row ∈ merged.providers, ∃ id, mergeProvider runtime catalog id (slicesOf id runs)
    merged.targetSpec (runs.all (fun run => decide (6 ≤ run.schemaVersion))) = .ok row
  accepted : AcceptedRun catalog merged

theorem aggregateRuns_ok {runs : List Run} {merged : Run}
    (h : aggregateRuns runtime catalog runs = .ok merged) :
    Aggregated runtime catalog runs merged := by
  simp only [aggregateRuns, bind_eq_ok, throwIf_eq_ok, require_eq_ok, forM_eq_ok, exists_const,
    parseRun_ok_iff] at h
  obtain ⟨_, first, head, versions, identity, rows, merges, rfl, accepted⟩ := h
  have same : ∀ run ∈ runs, run.runId = first.runId ∧ run.sha = first.sha ∧
      run.targetSpec = first.targetSpec := by
    intro run hr
    have ok := identity run hr
    simp only [checkIdentity, bind_eq_ok, throwIf_eq_ok, exists_const, not_or, not_not] at ok
    exact ⟨ok.1.1, ok.1.2, ok.2⟩
  refine ⟨List.ne_nil_of_mem (List.mem_of_head? head), same, ?_, ?_, accepted⟩
  · by_cases all : runs.all (fun run => decide (6 ≤ run.schemaVersion)) = true
    · exact Or.inl (by simpa using all)
    · right
      intro run hr
      by_contra late
      refine versions ⟨by simpa using all, List.any_eq_true.mpr ⟨run, hr, ?_⟩⟩
      exact decide_eq_true (by omega)
  · intro row hrow
    obtain ⟨id, _, ok⟩ := mem_mapM merges hrow
    exact ⟨id, ok⟩

lemma mem_slicesOf {providerId : String} {runs : List Run} {entry : ReplicateSlice} :
    entry ∈ slicesOf providerId runs ↔ ∃ run ∈ runs, ∃ row ∈ run.providers,
      row.providerId = providerId ∧ entry = ⟨row, run.replicateIndex.getD 0⟩ := by
  simp only [slicesOf, List.mem_flatMap, List.mem_map, List.mem_filter, beq_iff_eq]
  constructor
  · rintro ⟨run, hr, row, ⟨hrow, id⟩, rfl⟩
    exact ⟨run, hr, row, hrow, id, rfl⟩
  · rintro ⟨run, hr, row, hrow, id, rfl⟩
    exact ⟨run, hr, row, ⟨hrow, id⟩, rfl⟩

/-- The rule of `computeSpecMatched`, for any target. -/
def specMatchedFor (target : TargetSpec) (specs : ObservedSpecs) : Option Bool :=
  match numberOf specs "vcpus", numberOf specs "memoryGb" with
  | some vcpus, some memoryGb =>
    some (vcpus == target.vcpus && decide (|memoryGb - target.memoryGb| ≤ target.memoryGb / 10))
  | _, _ => none

lemma specMatchedFor_pinned {target : TargetSpec} (vcpus : target.vcpus = 4)
    (memoryGb : target.memoryGb = 8) (specs : ObservedSpecs) :
    specMatchedFor target specs = computeSpecMatched specs := by
  unfold specMatchedFor computeSpecMatched
  rw [vcpus, memoryGb]
  cases numberOf specs "vcpus" with
  | none => rfl
  | some _ =>
    cases numberOf specs "memoryGb" with
    | none => rfl
    | some _ => rfl

/-- Some shard's slice of the provider satisfies `P`. -/
def SomeSlice (runs : List Run) (providerId : String) (P : Run → ProviderRun → Prop) : Prop :=
  ∃ run ∈ runs, ∃ row ∈ run.providers, row.providerId = providerId ∧ P run row

/-- A shard recorded a mismatch, or a machine misses the target its shard was run for. -/
def Missed (runs : List Run) (providerId : String) : Prop :=
  SomeSlice runs providerId (fun _ row => row.specMatched = some false) ∨
    SomeSlice runs providerId
      (fun run row => specMatchedFor run.targetSpec row.observedSpecs = some false)

/-- Some machine misses the pinned 4 vCPUs and 8 GB. -/
def MissedPinned (runs : List Run) (providerId : String) : Prop :=
  SomeSlice runs providerId (fun _ row => computeSpecMatched row.observedSpecs = some false)

lemma mergedRow_failed_iff {runs : List Run} {merged : Run}
    (ok : Aggregated runtime catalog runs merged) {row : ProviderRun}
    (hrow : row ∈ merged.providers) : row.specMatched = some false ↔
      SomeSlice runs row.providerId (fun _ row => row.specMatched = some false) ∨
        MissedPinned runs row.providerId := by
  obtain ⟨id, merges⟩ := ok.rows row hrow
  have named : row.providerId = id := by
    obtain ⟨_, _, _, _, rfl⟩ := mergeProvider_ok merges
    rfl
  have slices : ∀ P : ProviderRun → Prop, (∃ e ∈ slicesOf id runs, P e.slice) ↔
      SomeSlice runs id (fun _ row => P row) := by
    intro P
    constructor
    · rintro ⟨e, he, holds⟩
      obtain ⟨run, hr, slice, hslice, same, rfl⟩ := mem_slicesOf.mp he
      exact ⟨run, hr, slice, hslice, same, holds⟩
    · rintro ⟨run, hr, slice, hslice, same, holds⟩
      exact ⟨_, mem_slicesOf.mpr ⟨run, hr, slice, hslice, same, rfl⟩, holds⟩
  rw [mergeProvider_failed_iff merges, named, slices (fun row => row.specMatched = some false),
    slices (fun row => computeSpecMatched row.observedSpecs = some false)]
  rfl

/-- A merged mismatch has a cause among the shards exactly when a cause exists or every machine
meets the pinned target; with that target, always. -/
theorem aggregateRuns_verdict {runs : List Run} {merged : Run}
    (ok : aggregateRuns runtime catalog runs = .ok merged) (row : ProviderRun)
    (hrow : row ∈ merged.providers) :
    ((row.specMatched = some false → Missed runs row.providerId) ↔
      (Missed runs row.providerId ∨ ¬ MissedPinned runs row.providerId)) ∧
    (merged.targetSpec.vcpus = 4 → merged.targetSpec.memoryGb = 8 →
      row.specMatched = some false → Missed runs row.providerId) := by
  have ok := aggregateRuns_ok ok
  have failed := mergedRow_failed_iff ok hrow
  constructor
  · constructor
    · intro caused
      by_cases pinned : MissedPinned runs row.providerId
      · exact Or.inl (caused (failed.mpr (Or.inr pinned)))
      · exact Or.inr pinned
    · rintro (missed | met) verdict
      · exact missed
      · rcases failed.mp verdict with recorded | pinned
        · exact Or.inl recorded
        · exact absurd pinned met
  · intro vcpus memoryGb verdict
    rcases failed.mp verdict with recorded | ⟨run, hr, slice, hslice, named, off⟩
    · exact Or.inl recorded
    · refine Or.inr ⟨run, hr, slice, hslice, named, ?_⟩
      have target := (ok.identity run hr).2.2
      show specMatchedFor run.targetSpec slice.observedSpecs = some false
      rw [target, specMatchedFor_pinned vcpus memoryGb, off]

/-- A machine of 2 vCPUs and 4 GB, which a shard judged to match. -/
def smallRow : ProviderRun where
  providerId := "e2b"
  costEvidence := some []
  artifactEvidence := none
  validationStatus := .pending
  specMatched := some true
  observedSpecs := [("vcpus", .number 2), ("memoryGb", .number 4)]
  observedMixtures := none
  hostMetadata := none
  metrics := []
  suitesCovered := []
  gaps := []
  uncatalogued := []

/-- A shard that asked for 2 vCPUs and 4 GB. -/
def smallShard : Run where
  schemaVersion := 5
  runId := "1"
  sha := "a"
  generatedAt := "2026-01-31T00:00:00.000Z"
  sourceRunUrl := none
  replicateIndex := none
  experiment := none
  targetSpec := ⟨2, 4, none⟩
  providers := [smallRow]

lemma smallShard_merges : ∃ merged, aggregateRuns plainRuntime plainCatalog [smallShard] = .ok merged ∧
    ∃ row ∈ merged.providers, row.providerId = "e2b" ∧ row.specMatched = some false := by
  have verdicts : (aggregateRuns plainRuntime plainCatalog [smallShard]).toOption.map
      (fun run => run.providers.map (fun row => (row.providerId, row.specMatched))) =
        some [("e2b", some false)] := by decide +kernel
  cases merges : aggregateRuns plainRuntime plainCatalog [smallShard] with
  | error e => simp [merges, Except.toOption] at verdicts
  | ok merged =>
    simp only [merges, Except.toOption, Option.map_some, Option.some.injEq] at verdicts
    have member : ("e2b", some false) ∈
        merged.providers.map (fun row => (row.providerId, row.specMatched)) := by simp [verdicts]
    obtain ⟨row, hrow, same⟩ := List.mem_map.mp member
    exact ⟨merged, rfl, row, hrow, congrArg Prod.fst same, congrArg Prod.snd same⟩

/-- A machine exactly on the target of its shard merges to a mismatch. -/
theorem aggregateRuns_misjudges : (parseRun plainCatalog smallShard).isOk = true ∧ ∃ merged,
    aggregateRuns plainRuntime plainCatalog [smallShard] = .ok merged ∧
      ∃ row ∈ merged.providers, row.specMatched = some false ∧
        ¬ Missed [smallShard] row.providerId := by
  obtain ⟨merged, merges, row, hrow, named, failed⟩ := smallShard_merges
  refine ⟨by decide +kernel, merged, merges, row, hrow, failed, ?_⟩
  rw [named]
  rintro (⟨run, hr, slice, hslice, _, recorded⟩ | ⟨run, hr, slice, hslice, _, off⟩)
  · obtain rfl := List.mem_singleton.mp hr
    obtain rfl := List.mem_singleton.mp hslice
    cases recorded
  · obtain rfl := List.mem_singleton.mp hr
    obtain rfl := List.mem_singleton.mp hslice
    exact absurd off (by decide +kernel)

theorem aggregateRuns_verdict_small : ∃ row : ProviderRun, row.specMatched = some false ∧
    ((row.specMatched = some false → Missed [smallShard] row.providerId) ↔
      (Missed [smallShard] row.providerId ∨ ¬ MissedPinned [smallShard] row.providerId)) := by
  obtain ⟨merged, merges, row, hrow, _, failed⟩ := smallShard_merges
  exact ⟨row, failed, (aggregateRuns_verdict merges row hrow).1⟩

end Aggregate
