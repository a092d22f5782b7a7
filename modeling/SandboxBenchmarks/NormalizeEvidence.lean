import SandboxBenchmarks.ExtractEvidence
import SandboxBenchmarks.NormalizeTree

/-!
# The evidence of a provider

What a provider's directory says of a metric and of a suite, stated over its files,
and that reading the directory collects exactly that.
-/

namespace NormalizeTree

open Aggregate CanonicalJson Checks ExtractProvider GapMarkers Keyed Recording RunModel SuiteContract

section
variable (metrics : MetricCatalog) (providerId : String) (dir : ProviderDir)

/-- Some file that is read has a value of the metric. -/
def Published (metricId : String) : Prop :=
  (∃ sub ∈ dir.subdirectories, sub.name ∈ suiteNames ∧ HasValue metrics sub.files metricId) ∨
    HasValue metrics dir.files metricId

/-- The suite's directory holds an attempt at the metric without a value. -/
def Attempted (suite metricId : String) : Prop :=
  ∃ sub ∈ dir.subdirectories, sub.name = suite ∧ AttemptedEmpty metrics sub.files metricId

/-- The two scales of a 1MB scenario that the suite declares. -/
structure Twins (suite mbps iops : String) : Prop where
  declared : mbps ∈ declaredMetrics suite
  scale : endsWith mbps mbSuffix = true
  equal : includes mbps twinEqualityMarker = true
  other : iops = dropEnd mbps mbSuffix.toList.length ++ iopsSuffix
  declaredToo : iops ∈ declaredMetrics suite

/-- A scenario has a value in one scale and no Result in the other, and everything beside the
value could be mapped. -/
structure TwinDropped (suite : String) (files : List RawFile) (survivor metricId : String) :
    Prop where
  twins : Twins suite survivor metricId ∨ Twins suite metricId survivor
  survived : HasValue metrics files survivor
  unmeasured : ¬ HasValue metrics files metricId
  unattempted : ¬ AttemptedEmpty metrics files metricId
  mapped : ∀ file ∈ files, HasValue metrics [file] survivor →
    ¬ HasUnmapped metrics files file.name

/-- A marker lies in the directory of a suite. -/
def MarkedWithin (suite : String) (g : ResultGap) : Prop :=
  ∃ sub ∈ dir.subdirectories, sub.name = suite ∧ HasMarker providerId sub.files g

/-- A marker says that the suite failed as a whole. -/
def HarnessMarker (suite : String) (g : ResultGap) : Prop :=
  g.id = suite ∧ g.outcome = .failed ∧
    (MarkedWithin providerId dir suite g ∨ HasMarker providerId dir.files g)

/-- A marker says that a leaf of the suite failed. -/
def LeafMarker (suite leaf : String) (g : ResultGap) : Prop :=
  g.id = leaf ∧ leaf ≠ suite ∧ g.outcome = .failed ∧
    (MarkedWithin providerId dir suite g ∨
      leaf ∉ suiteNames ∧ suiteForLeaf metrics leaf = some suite ∧ HasMarker providerId dir.files g)

/-- A failed marker of the suite accounts for the loss of the metric. -/
def Accounted (suite metricId : String) : Prop :=
  (∃ g, HarnessMarker providerId dir suite g) ∨
    ∃ leaf g, LeafMarker metrics providerId dir suite leaf g ∧
      leafOwnsMetric metrics leaf metricId = true

/-- A declared metric was attempted, nothing was published, and no marker says why. -/
structure Unrecorded (suite metricId : String) : Prop where
  declared : metricId ∈ declaredMetrics suite
  attempted : Attempted metrics dir suite metricId
  unpublished : ¬ Published metrics dir metricId
  unaccounted : ¬ Accounted metrics providerId dir suite metricId

end

variable {runtime : Runtime} {metrics : MetricCatalog} {providerId : String}

/-! ### Shortfall evidence -/

/-- Each missing metric stands once, under its own id. -/
structure ById (missingById : List (String × AttemptedEmptyResult)) : Prop where
  nodup : (missingById.map Prod.fst).Nodup
  own : ∀ entry ∈ missingById, entry.2.metricId = entry.1

lemma addMissing_keys {metricId : String} {declared produced : List String} (suite : String)
    (missingById : List (String × AttemptedEmptyResult)) (e : AttemptedEmptyResult) :
    metricId ∈ (addMissing suite declared produced missingById e).map Prod.fst ↔
      metricId ∈ missingById.map Prod.fst ∨
        e.metricId = metricId ∧ metricId ∈ declared ∧ metricId ∉ produced := by
  unfold addMissing
  split
  · rename_i skipped
    constructor
    · exact Or.inl
    · rintro (h | ⟨rfl, declared, fresh⟩)
      · exact h
      · rcases skipped with undeclared | made
        · exact absurd declared undeclared
        · exact absurd made fresh
  · rename_i taken
    rw [not_or, not_not] at taken
    split
    · rename_i present
      constructor
      · exact Or.inl
      · rintro (h | ⟨rfl, -⟩)
        · exact h
        · exact has_iff.mp present
    · rw [keys_set, mem_add]
      constructor
      · rintro (h | rfl)
        · exact Or.inl h
        · exact Or.inr ⟨rfl, taken⟩
      · rintro (h | ⟨rfl, -⟩)
        · exact Or.inl h
        · exact Or.inr rfl

lemma addMissing_byId {suite : String} {declared produced : List String}
    {missingById : List (String × AttemptedEmptyResult)} (h : ById missingById)
    (e : AttemptedEmptyResult) : ById (addMissing suite declared produced missingById e) := by
  unfold addMissing
  split
  · exact h
  · split
    · exact h
    · refine ⟨nodup_keys_set h.nodup _ _, fun entry member => ?_⟩
      rcases mem_set member with rfl | earlier
      · rfl
      · exact h.own entry earlier

/-- The losses of one directory, under their metrics. -/
def missingOf (suite : String) (ext : ProviderExtraction) : List (String × AttemptedEmptyResult) :=
  ext.attemptedEmpty.foldl
    (addMissing suite (declaredMetrics suite) (ext.contributions.map (·.metricId))) []

lemma missingOf_byId (suite : String) (ext : ProviderExtraction) : ById (missingOf suite ext) := by
  have ran (l : List AttemptedEmptyResult) (missingById : List (String × AttemptedEmptyResult))
      (h : ById missingById) : ById (l.foldl (addMissing suite (declaredMetrics suite)
        (ext.contributions.map (·.metricId))) missingById) := by
    induction l generalizing missingById with
    | nil => exact h
    | cons e l ih => exact ih _ (addMissing_byId h e)
  exact ran _ _ ⟨List.nodup_nil, by simp⟩

lemma mem_missingOf {suite metricId : String} {ext : ProviderExtraction} :
    metricId ∈ (missingOf suite ext).map Prod.fst ↔
      metricId ∈ declaredMetrics suite ∧ metricId ∈ ext.attemptedEmpty.map (·.metricId) ∧
        metricId ∉ ext.contributions.map (·.metricId) := by
  have ran := foldl_records
    (fun missingById : List (String × AttemptedEmptyResult) => metricId ∈ missingById.map Prod.fst)
    (fun e => e.metricId = metricId ∧ metricId ∈ declaredMetrics suite ∧
      metricId ∉ ext.contributions.map (·.metricId))
    (fun e (_ : e ∈ ext.attemptedEmpty) missingById => addMissing_keys suite missingById e) []
  rw [missingOf, ran, List.map_nil, or_iff_right List.not_mem_nil]
  constructor
  · rintro ⟨e, member, rfl, declared, fresh⟩
    exact ⟨declared, List.mem_map_of_mem member, fresh⟩
  · rintro ⟨declared, attempted, fresh⟩
    obtain ⟨e, member, rfl⟩ := List.mem_map.mp attempted
    exact ⟨e, member, rfl, declared, fresh⟩

/-- The evidence names each loss once. -/
lemma shortfallEvidence_perm (suite : String) (ext : ProviderExtraction) :
    ((shortfallEvidence runtime suite ext).map (·.metricId)).Perm
      ((missingOf suite ext).map Prod.fst) := by
  have sorted := List.perm_insertionSort
    (Sorting.upTo runtime.localeCompareEn (fun e : AttemptedEmptyResult => e.metricId))
    ((missingOf suite ext).map Prod.snd)
  have keys : ((missingOf suite ext).map Prod.snd).map (·.metricId) =
      (missingOf suite ext).map Prod.fst := by
    rw [List.map_map]
    exact List.map_congr_left (missingOf_byId suite ext).own
  rw [← keys]
  exact sorted.map (·.metricId)

lemma nodup_shortfallEvidence (suite : String) (ext : ProviderExtraction) :
    ((shortfallEvidence runtime suite ext).map (·.metricId)).Nodup :=
  (shortfallEvidence_perm suite ext).nodup_iff.mpr (missingOf_byId suite ext).nodup

lemma mem_shortfallEvidence {suite metricId : String} {ext : ProviderExtraction} :
    metricId ∈ (shortfallEvidence runtime suite ext).map (·.metricId) ↔
      metricId ∈ declaredMetrics suite ∧ metricId ∈ ext.attemptedEmpty.map (·.metricId) ∧
        metricId ∉ ext.contributions.map (·.metricId) := by
  rw [(shortfallEvidence_perm suite ext).mem_iff, mem_missingOf]

/-! ### Dropped twins -/

lemma mem_twinPairs {suite mbps iops : String} :
    (mbps, iops) ∈ twinPairs runtime (declaredMetrics suite) ↔ Twins suite mbps iops := by
  rw [twinPairs, List.mem_filterMap]
  have sorted (metricId : String) : metricId ∈ byLocaleEn runtime id (declaredMetrics suite) ↔
      metricId ∈ declaredMetrics suite := (List.perm_insertionSort _ _).mem_iff
  constructor
  · rintro ⟨metricId, member, paired⟩
    split at paired
    · rename_i scaled
      dsimp only at paired
      split at paired
      · rename_i declared
        obtain ⟨rfl, rfl⟩ := Prod.mk.inj (Option.some.inj paired)
        exact ⟨(sorted metricId).mp member, scaled.1, scaled.2, rfl, declared⟩
      · cases paired
    · cases paired
  · rintro ⟨declared, scale, equal, rfl, declaredToo⟩
    refine ⟨mbps, (sorted mbps).mpr declared, ?_⟩
    rw [if_pos ⟨scale, equal⟩]
    dsimp only
    rw [if_pos declaredToo]

/-- A dropped twin is evidence. -/
lemma mem_twinDropEvidence (runtime : Runtime) {suite survivor metricId : String} {files : List RawFile}
    {ext : ProviderExtraction} (evidence : Extraction metrics providerId files ext)
    (dropped : TwinDropped metrics suite files survivor metricId) :
    metricId ∈ (twinDropEvidence runtime suite ext).map (·.metricId) := by
  have produced := (evidence.contributed survivor).mpr dropped.survived
  obtain ⟨c, inside, named⟩ := List.mem_map.mp produced
  obtain ⟨source, found⟩ : ∃ source, ext.contributions.find? (fun c => c.metricId == survivor) =
      some source := by
    rw [← Option.isSome_iff_exists, List.find?_isSome]
    exact ⟨c, inside, by simpa using named⟩
  have own : source.metricId = survivor := by simpa using List.find?_some found
  have clear : ext.unmappedPts.any (fun result => result.sourceFile == source.sourceFile) = false := by
    rw [List.any_eq_false]
    intro result unmapped same
    obtain ⟨file, member, place, measured⟩ :=
      evidence.sources source (List.mem_of_find?_eq_some found)
    apply dropped.mapped file member (own ▸ measured)
    rw [place, ← beq_iff_eq.mp same]
    exact evidence.unmapped result unmapped
  let lost : DroppedTwinResult := ⟨metricId, within suite source.sourceFile⟩
  have made : droppedTwin suite ext (survivor, metricId) = some lost := by
    have absent := mt (evidence.contributed metricId).mp dropped.unmeasured
    have silent := mt (evidence.attempted metricId).mp dropped.unattempted
    unfold droppedTwin
    dsimp only
    rw [if_neg (by simp only [not_or, not_not]; exact ⟨produced, absent, silent⟩), found]
    dsimp only
    rw [clear]
    rfl
  have listed : lost ∈ twinDropEvidence runtime suite ext := by
    rw [twinDropEvidence, byLocaleEn, List.mem_insertionSort, List.mem_flatMap]
    rcases dropped.twins with twins | twins
    · exact ⟨_, mem_twinPairs.mpr twins, List.mem_filterMap.mpr ⟨_, List.mem_cons_self, made⟩⟩
    · exact ⟨_, mem_twinPairs.mpr twins,
        List.mem_filterMap.mpr ⟨_, List.mem_cons_of_mem _ List.mem_cons_self, made⟩⟩
  exact List.mem_map_of_mem listed

/-- Only declared metrics are said to be dropped. -/
lemma declared_of_mem_twinDropEvidence {suite metricId : String} {ext : ProviderExtraction}
    (h : metricId ∈ (twinDropEvidence runtime suite ext).map (·.metricId)) :
    metricId ∈ declaredMetrics suite := by
  obtain ⟨d, inside, rfl⟩ := List.mem_map.mp h
  rw [twinDropEvidence, byLocaleEn, List.mem_insertionSort, List.mem_flatMap] at inside
  obtain ⟨⟨mbps, iops⟩, paired, inside⟩ := inside
  have twins := mem_twinPairs.mp paired
  obtain ⟨pair, either, made⟩ := List.mem_filterMap.mp inside
  have named : d.metricId = pair.2 := by
    unfold droppedTwin at made
    dsimp only at made
    split at made
    · cases made
    · split at made
      · cases made
      · split at made
        · cases made
        · rw [← Option.some.inj made]
  rw [named]
  rcases List.mem_cons.mp either with rfl | other
  · exact twins.declaredToo
  · rw [List.mem_singleton.mp other]
    exact twins.declared

/-! ### Markers -/

/-- The leaves recorded as failed for a suite. -/
def Markers.leaves (markers : Markers) (suite : String) : List String :=
  (get? markers.foldedFailedLeaves suite).getD []

lemma leaves_foldLeaf {markers : Markers} {suite suite' leaf : String} {g : ResultGap} :
    leaf ∈ (markers.foldLeaf suite g).leaves suite' ↔
      leaf ∈ markers.leaves suite' ∨ suite = suite' ∧ g.id = leaf ∧ g.outcome = .failed := by
  unfold Markers.foldLeaf Markers.leaves Markers.push
  dsimp only
  split
  · rename_i failed
    rw [get?_set]
    split
    · rename_i here
      subst here
      simp [failed, eq_comm]
    · rename_i other
      simp [other]
  · rename_i other
    simp [other]

lemma harness_foldLeaf {markers : Markers} {suite : String} {g : ResultGap} :
    (markers.foldLeaf suite g).harnessFailedSuites = markers.harnessFailedSuites := by
  unfold Markers.foldLeaf Markers.push
  dsimp only
  split
  · rfl
  · rfl

lemma gaps_foldLeaf {markers : Markers} {suite : String} {g : ResultGap} :
    (markers.foldLeaf suite g).gaps = markers.gaps ++ [foldedLeaf suite g] := by
  unfold Markers.foldLeaf Markers.push
  dsimp only
  split
  · rfl
  · rfl

lemma leaves_foldHarness {markers : Markers} {suite suite' : String} {g : ResultGap} :
    (markers.foldHarness suite g).leaves suite' = markers.leaves suite' := by
  unfold Markers.foldHarness Markers.leaves Markers.push
  dsimp only
  split
  · rfl
  · rfl

lemma harness_foldHarness {markers : Markers} {suite suite' : String} {g : ResultGap} :
    suite' ∈ (markers.foldHarness suite g).harnessFailedSuites ↔
      suite' ∈ markers.harnessFailedSuites ∨ suite = suite' ∧ g.outcome = .failed := by
  unfold Markers.foldHarness Markers.push
  dsimp only
  split
  · rename_i failed
    simp [failed, eq_comm]
  · rename_i other
    simp [other]

lemma gaps_foldHarness {markers : Markers} {suite : String} {g : ResultGap} :
    (markers.foldHarness suite g).gaps = markers.gaps ++ [g] := by
  unfold Markers.foldHarness Markers.push
  dsimp only
  split
  · rfl
  · rfl

/-- The gap a marker of a suite's directory becomes. -/
def nestedGap (suite : String) (g : ResultGap) : ResultGap :=
  if g.id = suite then g else foldedLeaf suite g

/-- The gap a marker without a directory becomes. -/
def flatGap (metrics : MetricCatalog) (g : ResultGap) : ResultGap :=
  match flatSuite metrics g with
  | none => g
  | some suite => nestedGap suite g

/-- What one marker adds: its gap, and its failure under the suite it was taken for. -/
structure Adds (suite : Option String) (g gap : ResultGap) (markers markers' : Markers) : Prop where
  gaps : ∀ x, x ∈ markers'.gaps ↔ x ∈ markers.gaps ∨ x = gap
  leaves : ∀ suite' leaf, leaf ∈ markers'.leaves suite' ↔ leaf ∈ markers.leaves suite' ∨
    suite = some suite' ∧ g.id = leaf ∧ leaf ≠ suite' ∧ g.outcome = .failed
  harness : ∀ suite', suite' ∈ markers'.harnessFailedSuites ↔ suite' ∈ markers.harnessFailedSuites ∨
    suite = some suite' ∧ g.id = suite' ∧ g.outcome = .failed

lemma push_adds (markers : Markers) (g : ResultGap) : Adds none g g markers (markers.push g) := by
  refine ⟨fun x => ?_, fun suite' leaf => ?_, fun suite' => ?_⟩
  · simp [Markers.push]
  · simp [Markers.push, Markers.leaves]
  · simp [Markers.push]

lemma foldNested_adds (suite : String) {g : ResultGap} (scope : g.scope = .suite)
    (markers : Markers) :
    Adds (some suite) g (nestedGap suite g) markers (foldNested suite markers g) := by
  unfold foldNested nestedGap
  rw [if_neg (not_not.mpr scope)]
  by_cases own : g.id = suite
  · rw [if_pos own, if_pos own]
    refine ⟨fun x => ?_, fun suite' leaf => ?_, fun suite' => ?_⟩
    · rw [gaps_foldHarness]
      simp
    · rw [leaves_foldHarness, Option.some.injEq]
      constructor
      · exact Or.inl
      · rintro (h | ⟨rfl, rfl, other, -⟩)
        · exact h
        · exact absurd own other
    · rw [harness_foldHarness, Option.some.injEq]
      constructor
      · rintro (h | ⟨rfl, failed⟩)
        · exact Or.inl h
        · exact Or.inr ⟨rfl, own, failed⟩
      · rintro (h | ⟨rfl, -, failed⟩)
        · exact Or.inl h
        · exact Or.inr ⟨rfl, failed⟩
  · rw [if_neg own, if_neg own]
    refine ⟨fun x => ?_, fun suite' leaf => ?_, fun suite' => ?_⟩
    · rw [gaps_foldLeaf]
      simp
    · rw [leaves_foldLeaf, Option.some.injEq]
      constructor
      · rintro (h | ⟨rfl, rfl, failed⟩)
        · exact Or.inl h
        · exact Or.inr ⟨rfl, rfl, own, failed⟩
      · rintro (h | ⟨rfl, rfl, -, failed⟩)
        · exact Or.inl h
        · exact Or.inr ⟨rfl, rfl, failed⟩
    · rw [harness_foldLeaf, Option.some.injEq]
      constructor
      · exact Or.inl
      · rintro (h | ⟨rfl, same, -⟩)
        · exact h
        · exact absurd same own

lemma foldFlat_adds {g : ResultGap} (scope : g.scope = .suite) (markers : Markers) :
    Adds (flatSuite metrics g) g (flatGap metrics g) markers (foldFlat metrics markers g) := by
  unfold foldFlat flatGap
  rw [if_neg (not_not.mpr scope)]
  split
  · rename_i unknown
    rw [unknown]
    exact push_adds markers g
  · rename_i suite known
    rw [known]
    have nested := foldNested_adds suite scope markers
    rwa [foldNested, if_neg (not_not.mpr scope)] at nested

/-- What the markers of one directory add, taken one by one. -/
lemma foldl_adds {target : ResultGap → Option String} {gapOf : ResultGap → ResultGap}
    {fold : Markers → ResultGap → Markers} {l : List ResultGap}
    (step : ∀ g ∈ l, ∀ markers, Adds (target g) g (gapOf g) markers (fold markers g))
    (markers : Markers) :
    (∀ x, x ∈ (l.foldl fold markers).gaps ↔ x ∈ markers.gaps ∨ ∃ g ∈ l, x = gapOf g) ∧
      (∀ suite leaf, leaf ∈ (l.foldl fold markers).leaves suite ↔ leaf ∈ markers.leaves suite ∨
        ∃ g ∈ l, target g = some suite ∧ g.id = leaf ∧ leaf ≠ suite ∧ g.outcome = .failed) ∧
      ∀ suite, suite ∈ (l.foldl fold markers).harnessFailedSuites ↔
        suite ∈ markers.harnessFailedSuites ∨
          ∃ g ∈ l, target g = some suite ∧ g.id = suite ∧ g.outcome = .failed := by
  refine ⟨fun x => ?_, fun suite leaf => ?_, fun suite => ?_⟩
  · exact foldl_records (fun markers : Markers => x ∈ markers.gaps) (fun g => x = gapOf g)
      (fun g member markers => (step g member markers).gaps x) markers
  · exact foldl_records (fun markers : Markers => leaf ∈ markers.leaves suite)
      (fun g => target g = some suite ∧ g.id = leaf ∧ leaf ≠ suite ∧ g.outcome = .failed)
      (fun g member markers => (step g member markers).leaves suite leaf) markers
  · exact foldl_records (fun markers : Markers => suite ∈ markers.harnessFailedSuites)
      (fun g => target g = some suite ∧ g.id = suite ∧ g.outcome = .failed)
      (fun g member markers => (step g member markers).harness suite) markers

/-! ### Reading the suite directories -/

def Reading.shortfall (reading : Reading) (suite : String) : List AttemptedEmptyResult :=
  (get? reading.suiteShortfalls suite).getD []

def Reading.twinDrops (reading : Reading) (suite : String) : List DroppedTwinResult :=
  (get? reading.suiteTwinDrops suite).getD []

/-- What one suite directory adds to a reading. -/
structure SuiteRead (runtime : Runtime) (dir : Subdirectory) (ext : ProviderExtraction)
    (reading reading' : Reading) : Prop where
  contributed : reading'.contributions.map (·.metricId) =
    reading.contributions.map (·.metricId) ++ ext.contributions.map (·.metricId)
  sampled : (∀ c ∈ reading.contributions, c.samples ≠ []) → Sampled ext →
    ∀ c ∈ reading'.contributions, c.samples ≠ []
  markers : reading'.markers = ext.gaps.foldl (foldNested dir.name) reading.markers
  shortfall : ∀ suite, reading'.shortfall suite =
    if dir.name = suite ∧ shortfallEvidence runtime dir.name ext ≠ [] then
      shortfallEvidence runtime dir.name ext
    else reading.shortfall suite
  dropped : ∀ suite, reading'.twinDrops suite =
    if dir.name = suite ∧ twinDropEvidence runtime dir.name ext ≠ [] then
      twinDropEvidence runtime dir.name ext
    else reading.twinDrops suite

/-- Evidence is kept under its suite, where there is any. -/
lemma getD_keep {α : Type} (kept : List (String × List α)) (suite suite' : String)
    (collected : List α) :
    (get? (if collected.isEmpty then kept else set kept suite collected) suite').getD [] =
      if suite = suite' ∧ collected ≠ [] then collected else (get? kept suite').getD [] := by
  cases collected with
  | nil => simp
  | cons first rest =>
    rw [List.isEmpty_cons, if_neg Bool.false_ne_true, get?_set]
    by_cases here : suite = suite'
    · simp [here]
    · simp [here]

lemma readSuite_ok {reading reading' : Reading} {dir : Subdirectory}
    (h : readSuite runtime metrics providerId reading dir = .ok reading') :
    ∃ ext, extractProviderDir runtime metrics dir.files providerId = .ok ext ∧
      SuiteRead runtime dir ext reading reading' := by
  simp only [readSuite, bind_eq_ok, pure_eq_ok] at h
  obtain ⟨_, -, _, -, ext, extracted, rfl⟩ := h
  refine ⟨ext, extracted, ?_, ?_, rfl, fun suite => getD_keep _ _ _ _,
    fun suite => getD_keep _ _ _ _⟩
  · simp
  · intro before inside c hc
    rcases List.mem_append.mp hc with hc | hc
    · exact before c hc
    · obtain ⟨c', member, rfl⟩ := List.mem_map.mp hc
      exact inside c' member

/-- What is gathered of the suite directories passed so far. -/
structure Gathered (metrics : MetricCatalog) (providerId : String) (passed : List Subdirectory)
    (reading : Reading) : Prop where
  published : ∀ metricId, metricId ∈ reading.contributions.map (·.metricId) ↔
    ∃ sub ∈ passed, HasValue metrics sub.files metricId
  sampled : ∀ c ∈ reading.contributions, c.samples ≠ []
  gaps : ∀ x, x ∈ reading.markers.gaps ↔
    ∃ sub ∈ passed, ∃ g, HasMarker providerId sub.files g ∧ x = nestedGap sub.name g
  leaves : ∀ suite leaf, leaf ∈ reading.markers.leaves suite ↔ ∃ sub ∈ passed, sub.name = suite ∧
    ∃ g, HasMarker providerId sub.files g ∧ g.id = leaf ∧ leaf ≠ suite ∧ g.outcome = .failed
  harness : ∀ suite, suite ∈ reading.markers.harnessFailedSuites ↔
    ∃ sub ∈ passed, sub.name = suite ∧
      ∃ g, HasMarker providerId sub.files g ∧ g.id = suite ∧ g.outcome = .failed
  missing : ∀ suite metricId, metricId ∈ (reading.shortfall suite).map (·.metricId) ↔
    ∃ sub ∈ passed, sub.name = suite ∧ metricId ∈ declaredMetrics suite ∧
      AttemptedEmpty metrics sub.files metricId ∧ ¬ HasValue metrics sub.files metricId
  once : ∀ suite, ((reading.shortfall suite).map (·.metricId)).Nodup
  twins : ∀ sub ∈ passed, ∀ survivor metricId,
    TwinDropped metrics sub.name sub.files survivor metricId →
      metricId ∈ (reading.twinDrops sub.name).map (·.metricId)
  twinsDeclared : ∀ suite, ∀ metricId ∈ (reading.twinDrops suite).map (·.metricId),
    metricId ∈ declaredMetrics suite

lemma gathered_nil : Gathered metrics providerId [] Reading.empty := by
  constructor
  all_goals simp [Reading.empty, Markers.leaves, Reading.shortfall, Reading.twinDrops, get?]

lemma gathered_step {passed : List Subdirectory} {sub : Subdirectory} {reading reading' : Reading}
    (inv : Gathered metrics providerId passed reading) (fresh : sub.name ∉ passed.map (·.name))
    (h : readSuite runtime metrics providerId reading sub = .ok reading') :
    Gathered metrics providerId (passed ++ [sub]) reading' := by
  obtain ⟨ext, extracted, read⟩ := readSuite_ok h
  have evidence := extractProviderDir_extraction extracted
  have adds : ∀ g ∈ ext.gaps, ∀ markers, Adds (some sub.name) g (nestedGap sub.name g) markers
      (foldNested sub.name markers g) := by
    intro g member markers
    obtain ⟨file, -, parsed⟩ := (evidence.marked g).mp member
    exact foldNested_adds sub.name (scope_of_parseGapMarker parsed) markers
  obtain ⟨gaps, leaves, harness⟩ := foldl_adds adds reading.markers
  rw [← read.markers] at gaps leaves harness
  have absent : reading.shortfall sub.name = [] := by
    rw [List.eq_nil_iff_forall_not_mem]
    intro e member
    obtain ⟨other, earlier, same, -⟩ :=
      (inv.missing sub.name e.metricId).mp (List.mem_map_of_mem member)
    exact fresh (List.mem_map.mpr ⟨other, earlier, same⟩)
  have shortfall (suite : String) : reading'.shortfall suite =
      if sub.name = suite then shortfallEvidence runtime sub.name ext
      else reading.shortfall suite := by
    rw [read.shortfall]
    by_cases here : sub.name = suite
    · by_cases empty : shortfallEvidence runtime sub.name ext = []
      · rw [if_neg (fun both => both.2 empty), if_pos here, empty, ← here, absent]
      · rw [if_pos ⟨here, empty⟩, if_pos here]
    · rw [if_neg (fun both => here both.1), if_neg here]
  refine ⟨fun metricId => ?_, ?_, fun x => ?_, fun suite leaf => ?_, fun suite => ?_,
    fun suite metricId => ?_, fun suite => ?_, ?_, fun suite metricId => ?_⟩
  · rw [read.contributed, List.mem_append, inv.published, evidence.contributed, exists_mem_snoc]
  · exact read.sampled inv.sampled evidence.sampled
  · rw [gaps, inv.gaps, exists_mem_snoc]
    simp only [evidence.marked]
  · rw [leaves, inv.leaves, exists_mem_snoc]
    simp only [evidence.marked, Option.some.injEq]
    grind
  · rw [harness, inv.harness, exists_mem_snoc]
    simp only [evidence.marked, Option.some.injEq]
    grind
  · rw [shortfall, exists_mem_snoc]
    by_cases here : sub.name = suite
    · subst here
      rw [if_pos rfl, mem_shortfallEvidence, evidence.attempted, evidence.contributed]
      have none : ¬ ∃ other ∈ passed, other.name = sub.name ∧ metricId ∈ declaredMetrics sub.name ∧
          AttemptedEmpty metrics other.files metricId ∧ ¬ HasValue metrics other.files metricId := by
        rintro ⟨other, earlier, same, -⟩
        exact fresh (List.mem_map.mpr ⟨other, earlier, same⟩)
      rw [or_iff_right none]
      simp
    · rw [if_neg here, inv.missing]
      simp [here]
  · rw [shortfall]
    split
    · exact nodup_shortfallEvidence sub.name ext
    · exact inv.once suite
  · intro other member survivor metricId dropped
    rw [read.dropped]
    rcases List.mem_append.mp member with earlier | here
    · have apart : sub.name ≠ other.name := by
        intro same
        exact fresh (List.mem_map.mpr ⟨other, earlier, same.symm⟩)
      rw [if_neg (fun both => apart both.1)]
      exact inv.twins other earlier survivor metricId dropped
    · obtain rfl := List.mem_singleton.mp here
      have found := mem_twinDropEvidence runtime evidence dropped
      rw [if_pos ⟨rfl, List.ne_nil_of_mem (List.mem_map.mp found).choose_spec.1⟩]
      exact found
  · rw [read.dropped]
    split
    · rename_i here
      rw [← here.1]
      exact declared_of_mem_twinDropEvidence
    · exact inv.twinsDeclared suite metricId

lemma mem_suiteDirs {dir : ProviderDir} {sub : Subdirectory} :
    sub ∈ suiteDirs runtime dir ↔ sub ∈ dir.subdirectories ∧ sub.name ∈ suiteNames := by
  rw [suiteDirs, List.mem_filter, decide_eq_true_eq, byLocale, List.mem_insertionSort]

lemma nodup_suiteDirs (runtime : Runtime) (dir : ProviderDir) :
    ((suiteDirs runtime dir).map (·.name)).Nodup := by
  have sorted := List.perm_insertionSort
    (Sorting.upTo runtime.localeCompare (fun sub : Subdirectory => sub.name)) dir.subdirectories
  have whole := (sorted.map (·.name)).nodup_iff.mpr dir.distinct
  exact whole.sublist (List.filter_sublist.map (fun sub : Subdirectory => sub.name))

lemma gathered_suiteDirs {dir : ProviderDir} {reading : Reading}
    (h : (suiteDirs runtime dir).foldlM (readSuite runtime metrics providerId) Reading.empty =
      .ok reading) : Gathered metrics providerId (suiteDirs runtime dir) reading := by
  have distinct := nodup_suiteDirs runtime dir
  refine foldlM_invariant (Gathered metrics providerId) gathered_nil ?_ h
  intro pre sub post before after split inv here
  rw [split, List.map_append, List.map_cons, List.nodup_append] at distinct
  have fresh : sub.name ∉ pre.map (·.name) := by
    intro earlier
    exact distinct.2.2 sub.name earlier sub.name List.mem_cons_self rfl
  exact gathered_step inv fresh here

/-! ### Reading the whole directory -/

/-- A reading is the evidence of the directory. -/
structure Evident (metrics : MetricCatalog) (providerId : String) (dir : ProviderDir)
    (reading : Reading) : Prop where
  published : ∀ metricId, metricId ∈ reading.contributions.map (·.metricId) ↔
    Published metrics dir metricId
  sampled : ∀ c ∈ reading.contributions, c.samples ≠ []
  gaps : ∀ x, x ∈ reading.markers.gaps ↔
    (∃ sub ∈ dir.subdirectories, sub.name ∈ suiteNames ∧
      ∃ g, HasMarker providerId sub.files g ∧ x = nestedGap sub.name g) ∨
    ∃ g, HasMarker providerId dir.files g ∧ x = flatGap metrics g
  leaves : ∀ suite ∈ suiteNames, ∀ leaf, leaf ∈ reading.markers.leaves suite ↔
    ∃ g, LeafMarker metrics providerId dir suite leaf g
  harness : ∀ suite ∈ suiteNames, (suite ∈ reading.markers.harnessFailedSuites ↔
    ∃ g, HarnessMarker providerId dir suite g)
  missing : ∀ suite ∈ suiteNames, ∀ metricId,
    (metricId ∈ (reading.shortfall suite).map (·.metricId) ↔ ∃ sub ∈ dir.subdirectories,
      sub.name = suite ∧ metricId ∈ declaredMetrics suite ∧
        AttemptedEmpty metrics sub.files metricId ∧ ¬ HasValue metrics sub.files metricId)
  once : ∀ suite, ((reading.shortfall suite).map (·.metricId)).Nodup
  twins : ∀ sub ∈ dir.subdirectories, sub.name ∈ suiteNames → ∀ survivor metricId,
    TwinDropped metrics sub.name sub.files survivor metricId →
      metricId ∈ (reading.twinDrops sub.name).map (·.metricId)
  twinsDeclared : ∀ suite, ∀ metricId ∈ (reading.twinDrops suite).map (·.metricId),
    metricId ∈ declaredMetrics suite

lemma flatSuite_eq_some {g : ResultGap} {suite : String} (registered : suite ∈ suiteNames) :
    flatSuite metrics g = some suite ↔
      g.id = suite ∨ g.id ∉ suiteNames ∧ suiteForLeaf metrics g.id = some suite := by
  unfold flatSuite
  by_cases own : g.id ∈ suiteNames
  · simp [own]
  · have other : g.id ≠ suite := fun same => own (same ▸ registered)
    simp [own, other]

/-- A registered suite's directory, if there is one, was read. -/
lemma exists_suiteDirs (runtime : Runtime) {dir : ProviderDir} {suite : String}
    {p : Subdirectory → Prop} (registered : suite ∈ suiteNames) :
    (∃ sub ∈ suiteDirs runtime dir, sub.name = suite ∧ p sub) ↔
      ∃ sub ∈ dir.subdirectories, sub.name = suite ∧ p sub := by
  constructor
  · rintro ⟨sub, member, rest⟩
    exact ⟨sub, (mem_suiteDirs.mp member).1, rest⟩
  · rintro ⟨sub, member, rfl, rest⟩
    exact ⟨sub, mem_suiteDirs.mpr ⟨member, registered⟩, rfl, rest⟩

theorem readProviderDir_evident {dir : ProviderDir} {reading : Reading}
    (h : readProviderDir runtime metrics providerId dir = .ok reading) :
    Evident metrics providerId dir reading := by
  simp only [readProviderDir, bind_eq_ok] at h
  obtain ⟨nested, ran, h⟩ := h
  have inv := gathered_suiteDirs ran
  simp only [readFlat, bind_eq_ok, pure_eq_ok] at h
  obtain ⟨_, -, flat, extracted, rfl⟩ := h
  have evidence := extractProviderDir_extraction extracted
  have adds : ∀ g ∈ flat.gaps, ∀ markers, Adds (flatSuite metrics g) g (flatGap metrics g) markers
      (foldFlat metrics markers g) := by
    intro g member markers
    obtain ⟨file, -, parsed⟩ := (evidence.marked g).mp member
    exact foldFlat_adds (scope_of_parseGapMarker parsed) markers
  obtain ⟨gaps, leaves, harness⟩ := foldl_adds adds nested.markers
  refine ⟨fun metricId => ?_, ?_, fun x => ?_, fun suite registered leaf => ?_,
    fun suite registered => ?_, fun suite registered metricId => ?_, inv.once,
    fun sub member registered => inv.twins sub (mem_suiteDirs.mpr ⟨member, registered⟩),
    inv.twinsDeclared⟩
  · rw [List.map_append, List.mem_append, inv.published, evidence.contributed, Published]
    simp only [mem_suiteDirs, and_assoc]
  · intro c hc
    rcases List.mem_append.mp hc with hc | hc
    · exact inv.sampled c hc
    · exact evidence.sampled c hc
  · rw [gaps, inv.gaps]
    simp only [mem_suiteDirs, and_assoc, evidence.marked]
  · rw [leaves, inv.leaves, exists_suiteDirs runtime registered]
    simp only [evidence.marked, flatSuite_eq_some registered, LeafMarker, MarkedWithin]
    constructor
    · rintro (⟨sub, member, same, g, marker, named, other, failed⟩ |
        ⟨g, marker, own | ⟨unknown, known⟩, rfl, other, failed⟩)
      · exact ⟨g, named, other, failed, Or.inl ⟨sub, member, same, marker⟩⟩
      · exact absurd own other
      · exact ⟨g, rfl, other, failed, Or.inr ⟨unknown, known, marker⟩⟩
    · rintro ⟨g, rfl, other, failed, ⟨sub, member, same, marker⟩ | ⟨unknown, known, marker⟩⟩
      · exact Or.inl ⟨sub, member, same, g, marker, rfl, other, failed⟩
      · exact Or.inr ⟨g, marker, Or.inr ⟨unknown, known⟩, rfl, other, failed⟩
  · rw [harness, inv.harness, exists_suiteDirs runtime registered]
    simp only [evidence.marked, flatSuite_eq_some registered, HarnessMarker, MarkedWithin]
    constructor
    · rintro (⟨sub, member, same, g, marker, named, failed⟩ | ⟨g, marker, -, named, failed⟩)
      · exact ⟨g, named, failed, Or.inl ⟨sub, member, same, marker⟩⟩
      · exact ⟨g, named, failed, Or.inr marker⟩
    · rintro ⟨g, named, failed, ⟨sub, member, same, marker⟩ | marker⟩
      · exact Or.inl ⟨sub, member, same, g, marker, named, failed⟩
      · exact Or.inr ⟨g, marker, Or.inl named, named, failed⟩
  · rw [← exists_suiteDirs runtime registered]
    exact inv.missing suite metricId

lemma readSuite_of_unmeasured {sub : Subdirectory} {reading : Reading}
    (noArtifact : sub.artifactEvidence = none) (noCost : sub.costEvidence = none)
    (parsed : Parsed sub.files) (unmeasured : ∀ metricId, ¬ HasValue metrics sub.files metricId) :
    ∃ reading', readSuite runtime metrics providerId reading sub = .ok reading' ∧
      reading'.offDimension = reading.offDimension := by
  obtain ⟨ext, extracted⟩ : ∃ ext, extractProviderDir runtime metrics sub.files providerId = .ok ext :=
    extractProviderDir_returns parsed
  have nothing : ext.contributions = [] := by
    rw [List.eq_nil_iff_forall_not_mem]
    intro c member
    exact unmeasured _ (((extractProviderDir_extraction extracted).contributed c.metricId).mp
      (List.mem_map_of_mem member))
  have none : offDimensionEmissions metrics sub.name [] = [] := by
    unfold offDimensionEmissions
    split
    · rfl
    · rfl
  refine ⟨_, by simp only [readSuite, readEvidence, noArtifact, noCost, extracted]; rfl, ?_⟩
  simp [nothing, none]

/-- A tree whose suites measured nothing can be read. -/
lemma readProviderDir_of_unmeasured {dir : ProviderDir} (flat : Parsed dir.files)
    (parsed : ∀ sub ∈ dir.subdirectories, Parsed sub.files)
    (bare : ∀ sub ∈ dir.subdirectories, sub.artifactEvidence = none ∧ sub.costEvidence = none)
    (unmeasured : ∀ sub ∈ dir.subdirectories, ∀ metricId, ¬ HasValue metrics sub.files metricId) :
    ∃ reading, readProviderDir runtime metrics providerId dir = .ok reading := by
  obtain ⟨nested, ran, clean⟩ := foldlM_returns (f := readSuite runtime metrics providerId)
    (l := suiteDirs runtime dir) (s := Reading.empty)
    (fun _ reading => reading.offDimension = []) rfl (by
      intro pre sub post reading split clean
      have inside : sub ∈ suiteDirs runtime dir := by
        rw [split]
        exact List.mem_append_right _ List.mem_cons_self
      have member := (mem_suiteDirs.mp inside).1
      obtain ⟨reading', here, same⟩ := readSuite_of_unmeasured (bare sub member).1
        (bare sub member).2 (parsed sub member) (unmeasured sub member)
      exact ⟨reading', here, same.trans clean⟩)
  obtain ⟨ext, extracted⟩ : ∃ ext, extractProviderDir runtime metrics dir.files providerId = .ok ext :=
    extractProviderDir_returns flat
  simp [readProviderDir, ran, readFlat, extracted, clean, throwIf]

end NormalizeTree
