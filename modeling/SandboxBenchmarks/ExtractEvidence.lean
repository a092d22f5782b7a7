import SandboxBenchmarks.ExtractProvider
import SandboxBenchmarks.Library.Recording

/-!
# The evidence of a directory

What the files of a directory say of a metric, file by file, and that an extraction
collects exactly that.
-/

namespace ExtractProvider

open Aggregate CanonicalJson Checks GapMarkers JsonText NetworkProbes PtsIndex Recording RunModel
  SuiteContract

/-! ### File names -/

lemma endsWith_getLast {text ending : String} {c : Char} (h : endsWith text ending = true)
    (last : ending.toList.getLast? = some c) : text.toList.getLast? = some c := by
  rw [endsWith, List.isSuffixOf_iff_suffix] at h
  obtain ⟨start, same⟩ := h
  rw [← same, List.getLast?_append, last]
  rfl

lemma getLast_of_isPtsResultFile {filename : String} (h : isPtsResultFile filename = true) :
    filename.toList.getLast? = some 'l' := by
  simp only [isPtsResultFile, Bool.and_eq_true] at h
  exact endsWith_getLast h.1.1.2 (by decide)

/-- A marker is never read as a composite. -/
lemma not_isPtsResultFile_of_isGapMarkerFile {filename : String}
    (h : isGapMarkerFile filename = true) : isPtsResultFile filename = false := by
  have last : filename.toList.getLast? = some 'n' := by
    rw [isGapMarkerFile, Bool.or_eq_true] at h
    rcases h with h | h
    · exact endsWith_getLast h (by decide)
    · exact endsWith_getLast h (by decide)
  by_contra composite
  rw [Bool.not_eq_false] at composite
  rw [getLast_of_isPtsResultFile composite] at last
  exact absurd (Option.some.inj last) (by decide)

lemma isGapMarkerFile_of_parseGapMarker {filename providerId : String} {data : Option Value}
    {g : ResultGap} (h : parseGapMarker filename data providerId = some g) :
    isGapMarkerFile filename = true := by
  simp only [parseGapMarker, Option.bind_eq_bind, Option.bind_eq_some_iff] at h
  obtain ⟨outcome, named, -⟩ := h
  rw [isGapMarkerFile, Bool.or_eq_true]
  unfold markerOutcome at named
  split at named
  · rename_i failed
    exact Or.inr failed
  · split at named
    · rename_i skipped
      exact Or.inl skipped
    · cases named

lemma scope_of_parseGapMarker {filename providerId : String} {data : Option Value}
    {g : ResultGap} (h : parseGapMarker filename data providerId = some g) : g.scope = .suite := by
  simp only [parseGapMarker, Option.bind_eq_bind, Option.bind_eq_some_iff] at h
  obtain ⟨outcome, -, body, -, made⟩ := h
  split at made
  · cases made
  · rw [← Option.some.inj made]

/-! ### Evidence -/

section
variable (metrics : MetricCatalog) (providerId : String)

/-- A Result is of a catalogued Metric, measured or not. -/
def ResultOf (metricId : String) (measured : Bool) (result : CompositeResult) : Prop :=
  ∃ metric ∈ metrics.entries, metric.id = metricId ∧
    Matches metric.toMetricDef result.toPtsResult ∧
      (resultMeasurement result.toPtsResult).isSome = measured

/-- A Result is of no catalogued Metric. -/
def Unmapped (result : CompositeResult) : Prop :=
  ∀ metric ∈ metrics.entries, ¬ Matches metric.toMetricDef result.toPtsResult

/-- A composite of the directory holds such a Result. -/
def HasResult (files : List RawFile) (metricId : String) (measured : Bool) : Prop :=
  ∃ file ∈ files, isPtsResultFile file.name = true ∧ ∃ composite, file.composite = .ok composite ∧
    ∃ result ∈ composite.results, ResultOf metrics metricId measured result

/-- A composite of this name holds a Result that no Metric matches. -/
def HasUnmapped (files : List RawFile) (source : String) : Prop :=
  ∃ file ∈ files, file.name = source ∧ isPtsResultFile file.name = true ∧
    ∃ composite, file.composite = .ok composite ∧ ∃ result ∈ composite.results,
      Unmapped metrics result

/-- Every pass of some attempt at the metric failed. -/
def AttemptedEmpty (files : List RawFile) (metricId : String) : Prop :=
  HasResult metrics files metricId false

def HasProbe (files : List RawFile) (metricId : String) : Prop :=
  ∃ file ∈ files, isPtsResultFile file.name = false ∧
    ∃ c ∈ networkProbeContributions file.name file.json, c.metricId = metricId

/-- Some file of the directory has a value of the metric. -/
def HasValue (files : List RawFile) (metricId : String) : Prop :=
  HasResult metrics files metricId true ∨ HasProbe files metricId

def HasMarker (files : List RawFile) (g : ResultGap) : Prop :=
  ∃ file ∈ files, parseGapMarker file.name file.json providerId = some g

end

variable {runtime : Runtime} {metrics : MetricCatalog} {providerId : String}

/-! ### Results -/

lemma lookup_matched {index : Index} {result : PtsResult} {metric : PtsIndex.MetricDef}
    {samples : List ℚ} {measurement : Option Measurement} (h : lookup index result = .matched metric samples measurement) :
    measurement = resultMeasurement result ∧ samples = measurement.elim [] (·.samples) := by
  unfold lookup at h
  dsimp only at h
  split at h
  · obtain ⟨-, samples, measured⟩ := PtsMapping.matched.inj h
    exact ⟨measured.symm, by rw [← samples, measured]⟩
  · cases h

/-- The index finds what the catalog matches. -/
lemma lookup_iff_matches {result : PtsResult} {metric : PtsIndex.MetricDef} :
    (∃ samples measurement, lookup metrics.index result = .matched metric samples measurement) ↔
      metric ∈ metrics.entries.map (·.toMetricDef) ∧ Matches metric result := by
  obtain ⟨compatible, unpinned⟩ := narrow_of_accepted metrics.accepted
  obtain ⟨index, built, indexed⟩ := buildPtsIndex_indexed compatible
  obtain rfl := Except.ok.inj (metrics.built.symm.trans built)
  rw [← findMetric_eq_some compatible unpinned indexed, lookup]
  dsimp only
  split
  · rename_i found
    rw [found]
    constructor
    · rintro ⟨samples, measurement, same⟩
      rw [(PtsMapping.matched.inj same).1]
    · intro same
      rw [Option.some.inj same]
      exact ⟨_, _, rfl⟩
  · rename_i none
    rw [none]
    simp

lemma resultOf_of_matched {result : CompositeResult} {metric : PtsIndex.MetricDef}
    {samples : List ℚ} {measurement : Option Measurement} {metricId : String} {measured : Bool}
    (h : lookup metrics.index result.toPtsResult = .matched metric samples measurement) :
    ResultOf metrics metricId measured result ↔
      metric.id = metricId ∧ measurement.isSome = measured := by
  have stated := (lookup_matched h).1
  have own := lookup_iff_matches.mp ⟨samples, measurement, h⟩
  constructor
  · rintro ⟨metric', member, rfl, fits, state⟩
    have own := And.intro (List.mem_map_of_mem (f := (·.toMetricDef)) member) fits
    obtain ⟨samples', measurement', same⟩ := lookup_iff_matches.mpr own
    obtain ⟨rfl, -⟩ := PtsMapping.matched.inj (h.symm.trans same)
    exact ⟨rfl, by rw [stated, state]⟩
  · rintro ⟨rfl, state⟩
    obtain ⟨metric', member, rfl⟩ := List.mem_map.mp own.1
    exact ⟨metric', member, rfl, own.2, by rw [← stated, state]⟩

lemma unmapped_of_uncatalogued {result : CompositeResult} {test description scale : String}
    (h : lookup metrics.index result.toPtsResult = .uncatalogued test description scale) :
    Unmapped metrics result := by
  intro metric member fits
  have own := And.intro (List.mem_map_of_mem (f := (·.toMetricDef)) member) fits
  obtain ⟨samples, measurement, same⟩ := lookup_iff_matches.mpr own
  cases h.symm.trans same

lemma not_resultOf_of_uncatalogued {result : CompositeResult} {test description scale : String}
    (h : lookup metrics.index result.toPtsResult = .uncatalogued test description scale)
    (metricId : String) (measured : Bool) :
    ¬ ResultOf metrics metricId measured result := by
  rintro ⟨metric, member, -, fits, -⟩
  exact unmapped_of_uncatalogued h metric member fits

lemma samples_of_resultMeasurement {result : PtsResult} {measurement : Measurement}
    (h : resultMeasurement result = some measurement) : measurement.samples ≠ [] := by
  simp only [resultMeasurement, Option.bind_eq_bind, Option.bind_eq_some_iff] at h
  obtain ⟨entry, -, value, -, made⟩ := h
  split at made
  · rw [← Option.some.inj made]
    simp
  · rw [← Option.some.inj made]
    simp

/-! ### What an extraction collects -/

lemma attempted_extractResult {metricId : String} (filename : String) (out : ProviderExtraction)
    (result : CompositeResult) :
    metricId ∈ (extractResult metrics filename out result).attemptedEmpty.map (·.metricId) ↔
      metricId ∈ out.attemptedEmpty.map (·.metricId) ∨
        ResultOf metrics metricId false result := by
  unfold extractResult
  split
  · rename_i metric samples measurement found
    rw [resultOf_of_matched found]
    cases measurement with
    | none => simp [eq_comm]
    | some measurement => simp
  · rename_i test description scale found
    have absent := not_resultOf_of_uncatalogued found metricId false
    dsimp only
    split
    · simp [absent]
    · simp [absent]

/-- The metric and the file of a contribution. -/
def origin (c : SampleContribution) : String × String := (c.metricId, c.sourceFile)

lemma contributed_extractResult {metricId source : String} (filename : String)
    (out : ProviderExtraction) (result : CompositeResult) :
    (metricId, source) ∈ (extractResult metrics filename out result).contributions.map origin ↔
      (metricId, source) ∈ out.contributions.map origin ∨
        source = filename ∧ ResultOf metrics metricId true result := by
  unfold extractResult
  split
  · rename_i metric samples measurement found
    rw [resultOf_of_matched found]
    cases measurement with
    | none => simp
    | some measurement => simp [matchedContribution, origin, eq_comm, and_comm]
  · rename_i test description scale found
    have absent := not_resultOf_of_uncatalogued found metricId true
    dsimp only
    split
    · simp [absent]
    · simp [absent]

lemma unmapped_extractResult {source : String} (filename : String) (out : ProviderExtraction)
    (result : CompositeResult)
    (found : source ∈ (extractResult metrics filename out result).unmappedPts.map (·.sourceFile)) :
    source ∈ out.unmappedPts.map (·.sourceFile) ∨
      source = filename ∧ Unmapped metrics result := by
  unfold extractResult at found
  split at found
  · split at found
    · exact Or.inl found
    · exact Or.inl found
  · rename_i test description scale unmatched
    have unmapped := unmapped_of_uncatalogued unmatched
    have grown : source ∈ out.unmappedPts.map (·.sourceFile) ++ [filename] := by
      dsimp only at found
      split at found
      · simpa using found
      · simpa using found
    rcases List.mem_append.mp grown with earlier | here
    · exact Or.inl earlier
    · exact Or.inr ⟨List.mem_singleton.mp here, unmapped⟩

lemma gaps_extractResult {filename : String} (out : ProviderExtraction)
    (result : CompositeResult) : (extractResult metrics filename out result).gaps = out.gaps := by
  unfold extractResult
  split
  · split
    · rfl
    · rfl
  · dsimp only
    split
    · rfl
    · rfl

/-- No contribution is without samples. -/
def Sampled (out : ProviderExtraction) : Prop := ∀ c ∈ out.contributions, c.samples ≠ []

lemma sampled_extractResult {filename : String} {out : ProviderExtraction} (sampled : Sampled out)
    (result : CompositeResult) : Sampled (extractResult metrics filename out result) := by
  unfold extractResult
  split
  · rename_i metric samples measurement found
    cases measurement with
    | none => exact sampled
    | some measurement =>
      obtain ⟨stated, rfl⟩ := lookup_matched found
      intro c hc
      rcases List.mem_append.mp hc with hc | hc
      · exact sampled c hc
      · rw [List.mem_singleton.mp hc]
        exact samples_of_resultMeasurement stated.symm
  · dsimp only
    split
    · exact sampled
    · exact sampled

lemma attempted_extractComposite {filename metricId : String} (out : ProviderExtraction)
    (composite : PtsComposite) :
    metricId ∈ (extractComposite metrics filename out composite).attemptedEmpty.map (·.metricId) ↔
      metricId ∈ out.attemptedEmpty.map (·.metricId) ∨
        ∃ result ∈ composite.results, ResultOf metrics metricId false result := by
  have ran := foldl_records
    (fun out : ProviderExtraction => metricId ∈ out.attemptedEmpty.map (·.metricId))
    (ResultOf metrics metricId false)
    (fun result (_ : result ∈ composite.results) out => attempted_extractResult filename out result)
  unfold extractComposite
  dsimp only
  split
  · exact ran _
  · exact ran _

lemma contributed_extractComposite {filename metricId source : String} (out : ProviderExtraction)
    (composite : PtsComposite) :
    (metricId, source) ∈ (extractComposite metrics filename out composite).contributions.map origin ↔
      (metricId, source) ∈ out.contributions.map origin ∨
        ∃ result ∈ composite.results, source = filename ∧ ResultOf metrics metricId true result := by
  have ran := foldl_records
    (fun out : ProviderExtraction => (metricId, source) ∈ out.contributions.map origin)
    (fun result => source = filename ∧ ResultOf metrics metricId true result)
    (fun result (_ : result ∈ composite.results) out =>
      contributed_extractResult filename out result)
  unfold extractComposite
  dsimp only
  split
  · exact ran _
  · exact ran _

lemma unmapped_extractComposite {filename source : String} (out : ProviderExtraction)
    (composite : PtsComposite) (found : source ∈
      (extractComposite metrics filename out composite).unmappedPts.map (·.sourceFile)) :
    source ∈ out.unmappedPts.map (·.sourceFile) ∨
      source = filename ∧ ∃ result ∈ composite.results, Unmapped metrics result := by
  have ran (l : List CompositeResult) (start : ProviderExtraction)
      (found : source ∈
        (l.foldl (extractResult metrics filename) start).unmappedPts.map (·.sourceFile)) :
      source ∈ start.unmappedPts.map (·.sourceFile) ∨
        source = filename ∧ ∃ result ∈ l, Unmapped metrics result := by
    induction l generalizing start with
    | nil => exact Or.inl found
    | cons result l ih =>
      rcases ih _ found with earlier | ⟨named, other, member, unmapped⟩
      · rcases unmapped_extractResult filename start result earlier with old | ⟨named, unmapped⟩
        · exact Or.inl old
        · exact Or.inr ⟨named, result, List.mem_cons_self, unmapped⟩
      · exact Or.inr ⟨named, other, List.mem_cons_of_mem _ member, unmapped⟩
  unfold extractComposite at found
  dsimp only at found
  split at found
  · exact ran composite.results { out with observedHost := some composite.host } found
  · exact ran composite.results out found

lemma gaps_extractComposite {filename : String} (out : ProviderExtraction)
    (composite : PtsComposite) :
    (extractComposite metrics filename out composite).gaps = out.gaps := by
  have ran (start : ProviderExtraction) :
      (composite.results.foldl (extractResult metrics filename) start).gaps = start.gaps := by
    induction composite.results generalizing start with
    | nil => rfl
    | cons result results ih => rw [List.foldl_cons, ih, gaps_extractResult]
  unfold extractComposite
  dsimp only
  split
  · exact ran _
  · exact ran _

lemma sampled_extractComposite {filename : String} {out : ProviderExtraction}
    (sampled : Sampled out) (composite : PtsComposite) :
    Sampled (extractComposite metrics filename out composite) := by
  have ran (start : ProviderExtraction) (sampled : Sampled start) :
      Sampled (composite.results.foldl (extractResult metrics filename) start) := by
    induction composite.results generalizing start with
    | nil => exact sampled
    | cons result results ih => exact ih _ (sampled_extractResult sampled result)
  unfold extractComposite
  dsimp only
  split
  · exact ran _ sampled
  · exact ran _ sampled

/-- A file that is no composite adds its marker and its probe. -/
lemma extractMarker_eq (file : RawFile) (out : ProviderExtraction) :
    extractMarker providerId file out =
      { out with
        gaps := out.gaps ++ (parseGapMarker file.name file.json providerId).toList } := by
  unfold extractMarker
  split
  · split
    · rename_i marker parsed
      rw [parsed, Option.toList_some]
    · rename_i none
      rw [none, Option.toList_none, List.append_nil]
  · rename_i other
    cases parsed : parseGapMarker file.name file.json providerId with
    | none => rw [Option.toList_none, List.append_nil]
    | some g => exact absurd (isGapMarkerFile_of_parseGapMarker parsed) other

lemma extractProbe_eq (file : RawFile) (out : ProviderExtraction) :
    extractProbe file out =
      { out with
        contributions := out.contributions ++
          (networkProbeContributions file.name file.json).map (probeContribution file.name) } := by
  unfold extractProbe
  split
  · rfl
  · rename_i other
    have absent : networkProbeContributions file.name file.json = [] := by
      rw [isNetworkProbeFile, Keyed.has, Bool.not_eq_true, Option.isSome_eq_false_iff,
        Option.isNone_iff_eq_none] at other
      rw [networkProbeContributions, other]
      rfl
    rw [absent, List.map_nil, List.append_nil]

/-- What a file that was read leaves behind. -/
structure Extracts (metrics : MetricCatalog) (providerId : String) (file : RawFile)
    (out out' : ProviderExtraction) : Prop where
  attempted : ∀ metricId, metricId ∈ out'.attemptedEmpty.map (·.metricId) ↔
    metricId ∈ out.attemptedEmpty.map (·.metricId) ∨ AttemptedEmpty metrics [file] metricId
  contributed : ∀ metricId source, (metricId, source) ∈ out'.contributions.map origin ↔
    (metricId, source) ∈ out.contributions.map origin ∨
      source = file.name ∧ HasValue metrics [file] metricId
  unmapped : ∀ source, source ∈ out'.unmappedPts.map (·.sourceFile) →
    source ∈ out.unmappedPts.map (·.sourceFile) ∨ HasUnmapped metrics [file] source
  marked : ∀ g, g ∈ out'.gaps ↔ g ∈ out.gaps ∨ HasMarker providerId [file] g
  sampled : Sampled out → Sampled out'

lemma hasResult_singleton {file : RawFile} {composite : PtsComposite} {metricId : String}
    {measured : Bool} (named : isPtsResultFile file.name = true)
    (parsed : file.composite = .ok composite) : HasResult metrics [file] metricId measured ↔
      ∃ result ∈ composite.results, ResultOf metrics metricId measured result := by
  simp [HasResult, named, parsed]

lemma extractFile_extracts {file : RawFile} {out out' : ProviderExtraction}
    (h : extractFile metrics providerId out file = .ok out') :
    Extracts metrics providerId file out out' := by
  unfold extractFile at h
  split at h
  · rename_i named
    simp only [bind_eq_ok, pure_eq_ok] at h
    obtain ⟨composite, parsed, rfl⟩ := h
    have noProbe (metricId : String) : ¬ HasProbe [file] metricId := by
      simp [HasProbe, named]
    have noMarker (g : ResultGap) : ¬ HasMarker providerId [file] g := by
      rintro ⟨file', member, parsed⟩
      rw [List.mem_singleton.mp member] at parsed
      have other := not_isPtsResultFile_of_isGapMarkerFile (isGapMarkerFile_of_parseGapMarker parsed)
      rw [named] at other
      cases other
    refine ⟨fun metricId => ?_, fun metricId source => ?_, fun source found => ?_, fun g => ?_,
      fun sampled => ?_⟩
    · rw [attempted_extractComposite, AttemptedEmpty, hasResult_singleton named parsed]
    · rw [contributed_extractComposite, HasValue, hasResult_singleton named parsed]
      simp [noProbe, and_left_comm]
    · rcases unmapped_extractComposite out composite found with old | ⟨rfl, result, inside, unmapped⟩
      · exact Or.inl old
      · exact Or.inr ⟨file, List.mem_singleton_self _, rfl, named, composite, parsed, result, inside,
          unmapped⟩
    · rw [gaps_extractComposite]
      simp [noMarker]
    · exact sampled_extractComposite sampled composite
  · rename_i other
    obtain rfl := pure_eq_ok.mp h
    rw [Bool.not_eq_true] at other
    have noResult (metricId : String) (measured : Bool) :
        ¬ HasResult metrics [file] metricId measured := by
      simp [HasResult, other]
    rw [extractProbe_eq, extractMarker_eq]
    refine ⟨fun metricId => ?_, fun metricId source => ?_, fun source found => Or.inl found,
      fun g => ?_, fun sampled => ?_⟩
    · simp [AttemptedEmpty, noResult]
    · have measured : HasValue metrics [file] metricId ↔
          ∃ c ∈ networkProbeContributions file.name file.json, c.metricId = metricId := by
        simp [HasValue, noResult, HasProbe, other]
      rw [List.map_append, List.mem_append, measured, List.map_map]
      refine or_congr_right ⟨?_, ?_⟩
      · intro found
        obtain ⟨c, inside, same⟩ := List.mem_map.mp found
        obtain ⟨named, placed⟩ := Prod.mk.inj same
        exact ⟨placed.symm, c, inside, named⟩
      · rintro ⟨rfl, c, inside, rfl⟩
        exact List.mem_map_of_mem inside
    · simp [HasMarker]
    · intro c hc
      rcases List.mem_append.mp hc with hc | hc
      · exact sampled c hc
      · obtain ⟨probe, member, rfl⟩ := List.mem_map.mp hc
        have accepted := contributionSchema_of_mem member
        rw [contributionSchema, Bool.and_eq_true, Bool.and_eq_true, Bool.not_eq_true',
          List.isEmpty_eq_false_iff] at accepted
        exact accepted.1.2

/-- An extraction is the evidence of the directory. -/
structure Extraction (metrics : MetricCatalog) (providerId : String) (files : List RawFile)
    (out : ProviderExtraction) : Prop where
  attempted : ∀ metricId, metricId ∈ out.attemptedEmpty.map (·.metricId) ↔
    AttemptedEmpty metrics files metricId
  contributed : ∀ metricId, metricId ∈ out.contributions.map (·.metricId) ↔
    HasValue metrics files metricId
  sources : ∀ c ∈ out.contributions, ∃ file ∈ files, file.name = c.sourceFile ∧
    HasValue metrics [file] c.metricId
  unmapped : ∀ u ∈ out.unmappedPts, HasUnmapped metrics files u.sourceFile
  marked : ∀ g, g ∈ out.gaps ↔ HasMarker providerId files g
  sampled : Sampled out

lemma attemptedEmpty_iff_exists {files : List RawFile} {metricId : String} :
    AttemptedEmpty metrics files metricId ↔
      ∃ file ∈ files, AttemptedEmpty metrics [file] metricId := by
  simp [AttemptedEmpty, HasResult]

lemma measured_iff_exists {files : List RawFile} {metricId : String} :
    HasValue metrics files metricId ↔ ∃ file ∈ files, HasValue metrics [file] metricId := by
  simp only [HasValue, HasResult, HasProbe, List.mem_singleton, exists_eq_left]
  constructor
  · rintro (⟨file, member, here⟩ | ⟨file, member, here⟩)
    · exact ⟨file, member, Or.inl here⟩
    · exact ⟨file, member, Or.inr here⟩
  · rintro ⟨file, member, here | here⟩
    · exact Or.inl ⟨file, member, here⟩
    · exact Or.inr ⟨file, member, here⟩

lemma hasMarker_iff_exists {files : List RawFile} {g : ResultGap} :
    HasMarker providerId files g ↔ ∃ file ∈ files, HasMarker providerId [file] g := by
  simp [HasMarker]

theorem extractProviderDir_extraction {files : List RawFile} {out : ProviderExtraction}
    (h : extractProviderDir runtime metrics files providerId = .ok out) :
    Extraction metrics providerId files out := by
  have member (file : RawFile) : file ∈ byLocale runtime (·.name) files ↔ file ∈ files :=
    (List.perm_insertionSort _ files).mem_iff
  have origins (metricId source : String) : (metricId, source) ∈ out.contributions.map origin ↔
      ∃ file ∈ files, source = file.name ∧ HasValue metrics [file] metricId := by
    have ran := foldlM_records
      (fun out : ProviderExtraction => (metricId, source) ∈ out.contributions.map origin)
      (fun file => source = file.name ∧ HasValue metrics [file] metricId)
      (fun file _ s s' here => (extractFile_extracts here).contributed metricId source) h
    rw [ran]
    simp [ProviderExtraction.empty, member]
  refine ⟨fun metricId => ?_, fun metricId => ?_, fun c inside => ?_, ?_, fun g => ?_, ?_⟩
  · have ran := foldlM_records
      (fun out : ProviderExtraction => metricId ∈ out.attemptedEmpty.map (·.metricId))
      (fun file => AttemptedEmpty metrics [file] metricId)
      (fun file _ s s' here => (extractFile_extracts here).attempted metricId) h
    rw [ran, attemptedEmpty_iff_exists]
    simp [ProviderExtraction.empty, member]
  · rw [measured_iff_exists]
    constructor
    · intro inside
      obtain ⟨c, contributed, rfl⟩ := List.mem_map.mp inside
      obtain ⟨file, inside, -, measured⟩ :=
        (origins c.metricId c.sourceFile).mp (List.mem_map_of_mem contributed)
      exact ⟨file, inside, measured⟩
    · rintro ⟨file, inside, measured⟩
      obtain ⟨c, contributed, same⟩ :=
        List.mem_map.mp ((origins metricId file.name).mpr ⟨file, inside, rfl, measured⟩)
      exact List.mem_map.mpr ⟨c, contributed, congrArg Prod.fst same⟩
  · obtain ⟨file, inside, named, measured⟩ :=
      (origins c.metricId c.sourceFile).mp (List.mem_map_of_mem inside)
    exact ⟨file, inside, named.symm, measured⟩
  · have collected : ∀ source ∈ out.unmappedPts.map (·.sourceFile),
        HasUnmapped metrics files source := by
      refine foldlM_invariant (fun _ out => ∀ source ∈ out.unmappedPts.map (·.sourceFile),
        HasUnmapped metrics files source) ?_ ?_ h
      · intro source found
        cases found
      · intro pre file post s s' split inv here source found
        have inside : file ∈ files := by
          rw [← member, split]
          exact List.mem_append_right _ List.mem_cons_self
        rcases (extractFile_extracts here).unmapped source found with old | ⟨file', own, rest⟩
        · exact inv source old
        · rw [List.mem_singleton.mp own] at rest
          exact ⟨file, inside, rest⟩
    exact fun u inside => collected _ (List.mem_map_of_mem inside)
  · have ran := foldlM_records
      (fun out : ProviderExtraction => g ∈ out.gaps)
      (fun file => HasMarker providerId [file] g)
      (fun file _ s s' here => (extractFile_extracts here).marked g) h
    rw [ran, hasMarker_iff_exists]
    simp [ProviderExtraction.empty, member]
  · refine foldlM_invariant (fun _ out => Sampled out) ?_ ?_ h
    · intro c hc
      cases hc
    · intro _ file _ s s' _ sampled here
      exact (extractFile_extracts here).sampled sampled

/-- Every composite of the directory is well formed. -/
def Parsed (files : List RawFile) : Prop :=
  ∀ file ∈ files, isPtsResultFile file.name = true → ∃ composite, file.composite = .ok composite

/-- Only a malformed composite stops an extraction. -/
lemma extractProviderDir_returns {files : List RawFile} (parsed : Parsed files) :
    ∃ ext, extractProviderDir runtime metrics files providerId = .ok ext := by
  have step : ∀ file ∈ files, ∀ out, ∃ out', extractFile metrics providerId out file = .ok out' := by
    intro file member out
    unfold extractFile
    split
    · rename_i named
      obtain ⟨composite, here⟩ := parsed file member named
      exact ⟨_, by rw [here]; rfl⟩
    · exact ⟨_, rfl⟩
  obtain ⟨ext, ran, -⟩ := foldlM_returns (l := byLocale runtime (·.name) files)
    (s := ProviderExtraction.empty) (fun _ _ => True) trivial (by
      intro pre file post out split _
      have member : file ∈ byLocale runtime (·.name) files := by
        rw [split]
        exact List.mem_append_right _ List.mem_cons_self
      obtain ⟨out', here⟩ := step file ((List.perm_insertionSort _ files).mem_iff.mp member) out
      exact ⟨out', here, trivial⟩)
  exact ⟨ext, ran⟩

end ExtractProvider
