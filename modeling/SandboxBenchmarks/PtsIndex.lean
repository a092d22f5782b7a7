import Mathlib.Data.List.Pairwise
import SandboxBenchmarks.Library.Checks
import SandboxBenchmarks.Library.JsonText
import SandboxBenchmarks.Library.Keyed

/-!
# The PTS index of a catalog

`catalogSchema` of `packages/schema/src/catalog.ts` and `buildPtsIndex` of
`packages/results/src/lib/pts.ts`: the schema groups entries by the key that the
index routes results by. Fields that neither reads are left out, and a refusal
carries what the schema expected.
-/

namespace PtsIndex

open Checks JsonText Keyed

/-- The PTS provenance pin. -/
structure PtsSource where
  test : String
  description : Option String
  scale : Option String
deriving DecidableEq, Repr

structure MetricDef where
  id : String
  unit : String
  pts : Option PtsSource
deriving DecidableEq, Repr

def ptsKey (test : String) (description scale : Option String) : String :=
  let orNull (s : Option String) : Value := s.elim .null .str
  String.ofList (text decimal (.arr [.str test, orNull description, orNull scale]))

/-! ### The schema -/

/-- `string >= 1` -/
def atLeastOne (field : String) (s : String) : Except String Unit :=
  throwIf (s = "") s!"{field} must be non-empty"

def ptsSourceSchema (pts : PtsSource) : Except String Unit := do
  atLeastOne "pts.test" pts.test
  pts.description.forM (atLeastOne "pts.description")
  pts.scale.forM (atLeastOne "pts.scale")

def metricDefSchema (metric : MetricDef) : Except String Unit := do
  atLeastOne "id" metric.id
  atLeastOne "unit" metric.unit
  metric.pts.forM ptsSourceSchema

/-- What the first loop of the narrow collects. -/
structure Seen where
  wildcardTests : List String
  describedTests : List String
  scalesByDescription : List (String × List (Option String))

def see (seen : Seen) (metric : MetricDef) : Except String Seen :=
  match metric.pts with
  | none => .ok seen
  | some pts => do
    let id := metric.id
    let unit := metric.unit
    let test := pts.test
    let pin := pts.scale.getD ""
    throwIf (pts.scale ≠ none ∧ pts.scale ≠ some metric.unit)
      s!"a pts.scale pin equal to the entry's unit (\"{id}\" pins \"{pin}\" but is labeled \"{unit}\")"
    match pts.description with
    | none => do
      throwIf (pts.scale ≠ none)
        s!"no pts.scale pin on a description-less wildcard (\"{id}\": the wildcard arm never compares <Scale>, so the pin would be silently ignored)"
      throwIf (pts.test ∈ seen.wildcardTests)
        s!"at most one description-less wildcard per PTS test (\"{test}\")"
      return { seen with wildcardTests := add seen.wildcardTests pts.test }
    | some description =>
      let key := ptsKey pts.test (some description) none
      let scales := (get? seen.scalesByDescription key).getD [] ++ [pts.scale]
      return { seen with
        describedTests := add seen.describedTests pts.test
        scalesByDescription := set seen.scalesByDescription key scales }

def catalogSchema (cat : List MetricDef) : Except String Unit := do
  cat.forM metricDefSchema
  let seen ← cat.foldlM see ⟨[], [], []⟩
  seen.wildcardTests.forM fun test =>
    throwIf (test ∈ seen.describedTests)
      s!"no description-bearing entries alongside the description-less wildcard for \"{test}\""
  seen.scalesByDescription.forM fun entry =>
    let key := entry.1
    let scales := entry.2
    throwIf (2 ≤ scales.length ∧ (none ∈ scales ∨ (setOf scales).length ≠ scales.length))
      s!"entries sharing a description disambiguated by distinct pts.scale pins on all of them ({key})"

/-! ### Results -/

structure PtsEntry where
  value : Option ℚ
  rawString : Option (List ℚ)
deriving DecidableEq, Repr

structure PtsResult where
  identifier : String
  description : Option String
  scale : String
  entries : List PtsEntry
deriving DecidableEq, Repr

/-- `\d+(\.\d+)*` -/
def isVersion (chars : List Char) : Bool :=
  (chars.splitOn '.').all fun part => !part.isEmpty && part.all Char.isDigit

/-- A version contains no `-`, so only what follows the last one can be it. -/
def versionlessTest (identifier : String) : String :=
  let reversed := identifier.toList.reverse
  match reversed.dropWhile (· != '-') with
  | [] => identifier
  | _ :: name =>
    if isVersion (reversed.takeWhile (· != '-')).reverse then String.ofList name.reverse
    else identifier

inductive SampleSource where
  | rawString
  | aggregateValue
deriving DecidableEq, Repr

structure Measurement where
  entry : PtsEntry
  source : SampleSource
  samples : List ℚ
deriving DecidableEq, Repr

def resultMeasurement (result : PtsResult) : Option Measurement := do
  let entry ← result.entries.find? (·.value.isSome)
  let value ← entry.value
  match entry.rawString with
  | some (sample :: samples) => return ⟨entry, .rawString, sample :: samples⟩
  | _ => return ⟨entry, .aggregateValue, [value]⟩

inductive PtsMapping where
  | matched (metric : MetricDef) (samples : List ℚ) (measurement : Option Measurement)
  | uncatalogued (test description scale : String)
deriving DecidableEq, Repr

/-! ### The index -/

structure Index where
  byTestDescriptionScale : List (String × MetricDef)
  byTestDescription : List (String × MetricDef)
  byTestWildcard : List (String × MetricDef)

def indexInto (map : List (String × MetricDef)) (key : String) (metric : MetricDef) :
    Except String (List (String × MetricDef)) :=
  match get? map key with
  | some existing =>
    let id := metric.id
    let other := existing.id
    .error s!"catalog integrity: \"{id}\" and \"{other}\" collide on PTS match key {key} — the catalogSchema invariants should have rejected this at load"
  | none => .ok (set map key metric)

def indexMetric (index : Index) (metric : MetricDef) : Except String Index :=
  match metric.pts with
  | none => .ok index
  | some pts =>
    match pts.description, pts.scale with
    | none, _ => do
      let map ← indexInto index.byTestWildcard (ptsKey pts.test none none) metric
      return { index with byTestWildcard := map }
    | some description, some scale => do
      let key := ptsKey pts.test (some description) (some scale)
      let map ← indexInto index.byTestDescriptionScale key metric
      return { index with byTestDescriptionScale := map }
    | some description, none => do
      let map ← indexInto index.byTestDescription (ptsKey pts.test (some description) none) metric
      return { index with byTestDescription := map }

def buildPtsIndex (catalog : List MetricDef) : Except String Index :=
  catalog.foldlM indexMetric ⟨[], [], []⟩

/-- `??` over the three arms. -/
def findMetric (index : Index) (test description scale : String) : Option MetricDef :=
  get? index.byTestDescriptionScale (ptsKey test (some description) (some scale)) <|>
    get? index.byTestDescription (ptsKey test (some description) none) <|>
      get? index.byTestWildcard (ptsKey test none none)

def lookup (index : Index) (result : PtsResult) : PtsMapping :=
  let test := versionlessTest result.identifier
  let description := result.description.getD ""
  match findMetric index test description result.scale with
  | some metric =>
    let measurement := resultMeasurement result
    .matched metric (measurement.elim [] (·.samples)) measurement
  | none => .uncatalogued test description result.scale

/-! ### Keys -/

theorem ptsKey_inj {test test' : String} {description description' scale scale' : Option String} :
    ptsKey test description scale = ptsKey test' description' scale' ↔
      test = test' ∧ description = description' ∧ scale = scale' := by
  constructor
  · intro same
    have values := text_injective (String.ofList_injective same)
    cases description <;> cases description' <;> cases scale <;> cases scale' <;>
      simp_all
  · rintro ⟨rfl, rfl, rfl⟩
    rfl

/-! ### What the schema accepts -/

/-- Entries of one test share no result: both have descriptions, and where these are the same,
both have pins and these differ. -/
def Compatible (m m' : MetricDef) : Prop :=
  ∀ pts, m.pts = some pts → ∀ pts', m'.pts = some pts' → pts.test = pts'.test →
    ∃ d d', pts.description = some d ∧ pts'.description = some d' ∧
      (d = d' → pts.scale ≠ pts'.scale ∧ pts.scale ≠ none ∧ pts'.scale ≠ none)

/-- The test of a wildcard entry. -/
def wildcardTest (metric : MetricDef) : Option String :=
  metric.pts.bind fun pts => if pts.description = none then some pts.test else none

/-- The test of an entry with a description. -/
def describedTest (metric : MetricDef) : Option String :=
  metric.pts.bind fun pts => if pts.description = none then none else some pts.test

/-- The pin of an entry under a description key, if it has that key. -/
def scaleUnder (key : String) (metric : MetricDef) : Option (Option String) :=
  metric.pts.bind fun pts => pts.description.bind fun description =>
    if ptsKey pts.test (some description) none = key then some pts.scale else none

/-- What the first loop knows of the entries it has passed. -/
structure Collected (cat : List MetricDef) (seen : Seen) : Prop where
  unpinned : ∀ m ∈ cat, ∀ pts, m.pts = some pts → pts.description = none → pts.scale = none
  single : cat.Pairwise fun m m' => ∀ t, wildcardTest m = some t → wildcardTest m' ≠ some t
  wildcards : ∀ t, t ∈ seen.wildcardTests ↔ ∃ m ∈ cat, wildcardTest m = some t
  described : ∀ t, t ∈ seen.describedTests ↔ ∃ m ∈ cat, describedTest m = some t
  scales : ∀ key, (get? seen.scalesByDescription key).getD [] = cat.filterMap (scaleUnder key)

lemma collected_nil : Collected [] ⟨[], [], []⟩ :=
  ⟨by simp, by simp, by simp, by simp, by simp [get?]⟩

lemma exists_append {P : MetricDef → Prop} {pre : List MetricDef} {metric : MetricDef} :
    (∃ m ∈ pre ++ [metric], P m) ↔ (∃ m ∈ pre, P m) ∨ P metric := by
  simp only [List.mem_append, List.mem_singleton, or_and_right, exists_or, exists_eq_left]

lemma see_collected {pre : List MetricDef} {seen seen' : Seen} {metric : MetricDef}
    (inv : Collected pre seen) (here : see seen metric = .ok seen') :
    Collected (pre ++ [metric]) seen' := by
  obtain ⟨unpinned, single, wildcards, described, scales⟩ := inv
  rw [see] at here
  split at here
  · rename_i bare
    obtain rfl := Except.ok.inj here
    have wild : wildcardTest metric = none := by simp [wildcardTest, bare]
    have desc : describedTest metric = none := by simp [describedTest, bare]
    have scale (key : String) : scaleUnder key metric = none := by simp [scaleUnder, bare]
    refine ⟨?_, ?_, ?_, ?_, ?_⟩
    · grind
    · rw [List.pairwise_append]
      simp [single, wild]
    · intro t
      rw [exists_append, wildcards, wild]
      simp
    · intro t
      rw [exists_append, described, desc]
      simp
    · intro key
      rw [List.filterMap_append, scales]
      simp [scale]
  · rename_i pts given
    simp only [bind_eq_ok, throwIf_eq_ok] at here
    obtain ⟨-, -, here⟩ := here
    split at here
    · rename_i bare
      simp only [bind_eq_ok, throwIf_eq_ok, pure_eq_ok] at here
      obtain ⟨-, unpinnedHere, -, fresh, rfl⟩ := here
      have wild : wildcardTest metric = some pts.test := by simp [wildcardTest, given, bare]
      have desc : describedTest metric = none := by simp [describedTest, given, bare]
      have scale (key : String) : scaleUnder key metric = none := by simp [scaleUnder, given, bare]
      refine ⟨?_, ?_, ?_, ?_, ?_⟩
      · grind
      · rw [List.pairwise_append]
        refine ⟨single, List.pairwise_singleton _ _, ?_⟩
        intro m hm m' hm' t own other
        rw [List.mem_singleton.mp hm', wild] at other
        obtain rfl := Option.some.inj other
        exact fresh ((wildcards pts.test).mpr ⟨m, hm, own⟩)
      · intro t
        rw [exists_append, mem_add, wildcards, wild, Option.some.injEq, eq_comm]
      · intro t
        rw [exists_append, described, desc]
        simp
      · intro key
        rw [List.filterMap_append, scales]
        simp [scale]
    · rename_i description bare
      obtain rfl := pure_eq_ok.mp here
      have wild : wildcardTest metric = none := by simp [wildcardTest, given, bare]
      have desc : describedTest metric = some pts.test := by simp [describedTest, given, bare]
      refine ⟨?_, ?_, ?_, ?_, ?_⟩
      · grind
      · rw [List.pairwise_append]
        simp [single, wild]
      · intro t
        rw [exists_append, wildcards, wild]
        simp
      · intro t
        rw [exists_append, mem_add, described, desc, Option.some.injEq, eq_comm]
      · intro key
        rw [List.filterMap_append, get?_set]
        by_cases own : ptsKey pts.test (some description) none = key
        · have scale : scaleUnder key metric = some pts.scale := by
            simp [scaleUnder, given, bare, own]
          rw [if_pos own, own, scales key]
          simp [scale]
        · have scale : scaleUnder key metric = none := by
            simp [scaleUnder, given, bare, own]
          rw [if_neg own, scales key]
          simp [scale]

/-- What the narrow rules out. -/
lemma narrow_of_accepted {cat : List MetricDef} (accepted : catalogSchema cat = .ok ()) :
    cat.Pairwise Compatible ∧
      ∀ m ∈ cat, ∀ pts, m.pts = some pts → pts.description = none → pts.scale = none := by
  simp only [catalogSchema, bind_eq_ok] at accepted
  obtain ⟨_, _, seen, ran, _, apart, twins⟩ := accepted
  have inv : Collected cat seen := by
    refine foldlM_invariant Collected collected_nil ?_ ran
    intro pre metric _ before after _ inv here
    exact see_collected inv here
  refine ⟨?_, inv.unpinned⟩
  rw [List.pairwise_iff_forall_sublist]
  intro m m' pair pts given pts' given' same
  have member : m ∈ cat := pair.subset (by simp)
  have member' : m' ∈ cat := pair.subset (by simp)
  rw [List.forM_eq_forM, forM_eq_ok] at apart twins
  have apart {n n' : MetricDef} {t : String} (hn : n ∈ cat) (hn' : n' ∈ cat)
      (wild : wildcardTest n = some t) : describedTest n' ≠ some t := by
    intro desc
    have check := apart t ((inv.wildcards t).mpr ⟨n, hn, wild⟩)
    rw [throwIf_eq_ok] at check
    exact check ((inv.described t).mpr ⟨n', hn', desc⟩)
  cases bare : pts.description with
  | none =>
    have wild : wildcardTest m = some pts.test := by simp [wildcardTest, given, bare]
    cases bare' : pts'.description with
    | none =>
      have single := (List.pairwise_iff_forall_sublist.mp inv.single) pair pts.test wild
      exact absurd (by simp [wildcardTest, given', bare', same]) single
    | some d' => exact absurd (by simp [describedTest, given', bare', same]) (apart member member' wild)
  | some d =>
    cases bare' : pts'.description with
    | none =>
      have wild : wildcardTest m' = some pts'.test := by simp [wildcardTest, given', bare']
      exact absurd (by simp [describedTest, given, bare, same]) (apart member' member wild)
    | some d' =>
      refine ⟨d, d', rfl, rfl, ?_⟩
      rintro rfl
      have own : scaleUnder (ptsKey pts.test (some d) none) m = some pts.scale := by
        simp [scaleUnder, given, bare]
      have own' : scaleUnder (ptsKey pts.test (some d) none) m' = some pts'.scale := by
        simp [scaleUnder, given', bare', same]
      have both := pair.filterMap (scaleUnder (ptsKey pts.test (some d) none))
      rw [List.filterMap_cons_some own, List.filterMap_cons_some own', List.filterMap_nil,
        ← inv.scales] at both
      cases found : get? seen.scalesByDescription (ptsKey pts.test (some d) none) with
      | none =>
        rw [found] at both
        cases both
      | some scales =>
        rw [found, Option.getD_some] at both
        have check := twins _ (mem_of_get? found)
        rw [throwIf_eq_ok, not_and, not_or, not_not, length_setOf_eq_iff] at check
        obtain ⟨pinned, distinct⟩ := check both.length_le
        have apart := List.pairwise_pair.mp (distinct.sublist both)
        refine ⟨apart, ?_, ?_⟩
        · intro none
          exact pinned (none ▸ both.subset (by simp))
        · intro none
          exact pinned (none ▸ both.subset (by simp))

/-- Entries that pin their unit as the scale of a described result, each its own, may be
catalogued. -/
theorem catalogSchema_of_pinned {cat : List MetricDef}
    (pinned : ∀ m ∈ cat, m.id ≠ "" ∧ m.unit ≠ "" ∧ ∃ test description, test ≠ "" ∧
      description ≠ "" ∧ m.pts = some ⟨test, some description, some m.unit⟩)
    (apart : (cat.map (·.pts)).Nodup) : catalogSchema cat = .ok () := by
  have shapes : ∀ m ∈ cat, metricDefSchema m = .ok () := by
    intro m member
    obtain ⟨id, unit, test, description, named, described, given⟩ := pinned m member
    simp [metricDefSchema, ptsSourceSchema, atLeastOne, throwIf, given, id, unit, named, described,
      Option.forM]
  have bare (m : MetricDef) (member : m ∈ cat) : wildcardTest m = none := by
    obtain ⟨-, -, test, description, -, -, given⟩ := pinned m member
    simp [wildcardTest, given]
  obtain ⟨seen, ran, inv, once⟩ : ∃ seen, cat.foldlM see ⟨[], [], []⟩ = .ok seen ∧
      Collected cat seen ∧ (seen.scalesByDescription.map Prod.fst).Nodup := by
    refine foldlM_returns
      (fun pre seen => Collected pre seen ∧ (seen.scalesByDescription.map Prod.fst).Nodup)
      ⟨collected_nil, List.nodup_nil⟩ ?_
    rintro pre m post seen rfl ⟨inv, once⟩
    obtain ⟨-, -, test, description, -, -, given⟩ := pinned m (by simp)
    have here : see seen m = .ok { seen with
        describedTests := add seen.describedTests test
        scalesByDescription := Keyed.set seen.scalesByDescription (ptsKey test (some description) none)
          ((get? seen.scalesByDescription (ptsKey test (some description) none)).getD [] ++
            [some m.unit]) } := by
      simp [see, given, throwIf]
    exact ⟨_, here, see_collected inv here, nodup_keys_set once _ _⟩
  have wildcards : seen.wildcardTests = [] := by
    rw [List.eq_nil_iff_forall_not_mem]
    intro test member
    obtain ⟨m, inside, wild⟩ := (inv.wildcards test).mp member
    rw [bare m inside] at wild
    cases wild
  have scales : ∀ entry ∈ seen.scalesByDescription, none ∉ entry.2 ∧ entry.2.Nodup := by
    intro entry member
    have listed := inv.scales entry.1
    rw [get?_of_mem once member, Option.getD_some] at listed
    rw [listed]
    refine ⟨?_, ?_⟩
    · intro unpinned
      obtain ⟨m, inside, under⟩ := List.mem_filterMap.mp unpinned
      obtain ⟨-, -, test, description, -, -, given⟩ := pinned m inside
      simp [scaleUnder, given] at under
    · rw [List.nodup_iff_pairwise_ne, List.pairwise_filterMap]
      have distinct := List.pairwise_map.mp (List.nodup_iff_pairwise_ne.mp apart)
      refine distinct.imp_of_mem ?_
      intro m m' inside inside' differ scale under scale' under' same
      obtain ⟨-, -, test, description, -, -, given⟩ := pinned m inside
      obtain ⟨-, -, test', description', -, -, given'⟩ := pinned m' inside'
      simp only [scaleUnder, given, given', Option.bind_some, Option.ite_none_right_eq_some,
        Option.some.injEq] at under under'
      apply differ
      have keys := ptsKey_inj.mp (under.1.trans under'.1.symm)
      rw [given, given', keys.1, keys.2.1, under.2, under'.2, same]
  simp only [catalogSchema, bind_eq_ok, List.forM_eq_forM, forM_eq_ok]
  refine ⟨(), shapes, seen, ran, (), by simp [wildcards], ?_⟩
  intro entry member
  obtain ⟨unpinned, distinct⟩ := scales entry member
  rw [throwIf_eq_ok, length_setOf_eq_iff.mpr distinct]
  simp [unpinned]

/-! ### What the index holds -/

inductive Arm where
  | testDescriptionScale
  | testDescription
  | testWildcard
deriving DecidableEq

def Index.map (index : Index) : Arm → List (String × MetricDef)
  | .testDescriptionScale => index.byTestDescriptionScale
  | .testDescription => index.byTestDescription
  | .testWildcard => index.byTestWildcard

/-- Where an entry is indexed. -/
def slot (metric : MetricDef) : Option (Arm × String) :=
  metric.pts.map fun pts =>
    match pts.description, pts.scale with
    | none, _ => (.testWildcard, ptsKey pts.test none none)
    | some description, some scale =>
      (.testDescriptionScale, ptsKey pts.test (some description) (some scale))
    | some description, none => (.testDescription, ptsKey pts.test (some description) none)

/-- Entries that may both be accepted are indexed apart. -/
lemma Compatible.slot_ne {m m' : MetricDef} (compatible : Compatible m m') {s : Arm × String}
    (own : slot m = some s) : slot m' ≠ some s := by
  intro other
  rw [slot, Option.map_eq_some_iff] at own other
  obtain ⟨pts, given, rfl⟩ := own
  obtain ⟨pts', given', same⟩ := other
  have matcher : pts'.test = pts.test ∧ pts'.description = pts.description ∧
      (pts.description ≠ none → pts'.scale = pts.scale) := by
    obtain ⟨test, description, scale⟩ := pts
    obtain ⟨test', description', scale'⟩ := pts'
    cases description <;> cases description' <;> cases scale <;> cases scale' <;>
      simp_all [ptsKey_inj]
  obtain ⟨test, description, scale⟩ := matcher
  obtain ⟨d, d', bare, bare', apart⟩ := compatible pts given pts' given' test.symm
  rw [bare, bare', Option.some.injEq] at description
  exact (apart description.symm).1 (scale (by simp [bare])).symm

/-- An entry fills its slot and nothing else. -/
lemma indexMetric_ok {index : Index} {metric : MetricDef}
    (free : ∀ arm key, slot metric = some (arm, key) → get? (index.map arm) key = none) :
    ∃ index', indexMetric index metric = .ok index' ∧ ∀ arm key,
      get? (index'.map arm) key =
        if slot metric = some (arm, key) then some metric else get? (index.map arm) key := by
  have into {map : List (String × MetricDef)} {key : String} (absent : get? map key = none) :
      indexInto map key metric = .ok (set map key metric) := by
    rw [indexInto, absent]
  cases given : metric.pts with
  | none =>
    have bare : slot metric = none := by rw [slot, given]; rfl
    refine ⟨index, by rw [indexMetric, given], fun arm key => ?_⟩
    rw [bare, if_neg (by simp)]
  | some pts =>
    have own : slot metric = some (match pts.description, pts.scale with
        | none, _ => (.testWildcard, ptsKey pts.test none none)
        | some description, some scale =>
          (.testDescriptionScale, ptsKey pts.test (some description) (some scale))
        | some description, none => (.testDescription, ptsKey pts.test (some description) none)) := by
      rw [slot, given, Option.map_some]
    rw [indexMetric, given]
    split at own
    · rename_i bare
      have placed : indexInto index.byTestWildcard _ metric = _ := into (free _ _ own)
      refine ⟨_, by simp only [bare, placed]; rfl, fun arm key => ?_⟩
      cases arm <;> simp [Index.map, own, get?_set, eq_comm]
    · rename_i description scale bare pin
      have placed : indexInto index.byTestDescriptionScale _ metric = _ := into (free _ _ own)
      refine ⟨_, by simp only [bare, pin, placed]; rfl, fun arm key => ?_⟩
      cases arm <;> simp [Index.map, own, get?_set, eq_comm]
    · rename_i description bare pin
      have placed : indexInto index.byTestDescription _ metric = _ := into (free _ _ own)
      refine ⟨_, by simp only [bare, pin, placed]; rfl, fun arm key => ?_⟩
      cases arm <;> simp [Index.map, own, get?_set, eq_comm]

/-- Each map answers with the entries of its slots. -/
def Indexed (cat : List MetricDef) (index : Index) : Prop :=
  ∀ arm key metric, get? (index.map arm) key = some metric ↔
    metric ∈ cat ∧ slot metric = some (arm, key)

lemma buildPtsIndex_indexed {cat : List MetricDef} (compatible : cat.Pairwise Compatible) :
    ∃ index, buildPtsIndex cat = .ok index ∧ Indexed cat index := by
  refine foldlM_returns Indexed ?_ ?_
  · intro arm key metric
    cases arm <;> simp [Index.map, get?]
  · rintro pre metric post index rfl inv
    have earlier : ∀ m ∈ pre, Compatible m metric := fun m hm =>
      (List.pairwise_append.mp compatible).2.2 m hm metric List.mem_cons_self
    have free (arm : Arm) (key : String) (own : slot metric = some (arm, key)) :
        get? (index.map arm) key = none := by
      cases taken : get? (index.map arm) key with
      | none => rfl
      | some other =>
        obtain ⟨member, same⟩ := (inv arm key other).mp taken
        exact absurd own ((earlier other member).slot_ne same)
    obtain ⟨index', ran, reads⟩ := indexMetric_ok free
    refine ⟨index', ran, fun arm key m => ?_⟩
    rw [reads, List.mem_append, List.mem_singleton]
    split
    · rename_i own
      have absent := free arm key own
      constructor
      · rintro ⟨⟩
        exact ⟨Or.inr rfl, own⟩
      · rintro ⟨old | rfl, same⟩
        · rw [(inv arm key m).mpr ⟨old, same⟩] at absent
          cases absent
        · rfl
    · rename_i other
      rw [inv]
      constructor
      · rintro ⟨old, same⟩
        exact ⟨Or.inl old, same⟩
      · rintro ⟨old | rfl, same⟩
        · exact ⟨old, same⟩
        · exact absurd same other

/-! ### Routing -/

/-- The declared matcher of an entry. -/
def Matches (metric : MetricDef) (result : PtsResult) : Prop :=
  ∃ pts, metric.pts = some pts ∧ pts.test = versionlessTest result.identifier ∧
    (∀ description, pts.description = some description →
      description = result.description.getD "") ∧
    ∀ scale, pts.scale = some scale → scale = result.scale

lemma Compatible.not_both {m m' : MetricDef} (compatible : Compatible m m') (result : PtsResult) :
    ¬(Matches m result ∧ Matches m' result) := by
  rintro ⟨⟨pts, given, test, description, scale⟩, pts', given', test', description', scale'⟩
  obtain ⟨d, d', bare, bare', apart⟩ := compatible pts given pts' given' (test.trans test'.symm)
  obtain ⟨differ, pinned, pinned'⟩ := apart ((description d bare).trans (description' d' bare').symm)
  obtain ⟨s, pin⟩ := Option.ne_none_iff_exists'.mp pinned
  obtain ⟨s', pin'⟩ := Option.ne_none_iff_exists'.mp pinned'
  rw [pin, pin', scale s pin, scale' s' pin'] at differ
  exact differ rfl

/-- An entry that may be accepted matches by its slot. -/
lemma matches_iff_slot {metric : MetricDef} {result : PtsResult}
    (unpinned : ∀ pts, metric.pts = some pts → pts.description = none → pts.scale = none) :
    Matches metric result ↔
      slot metric = some (.testDescriptionScale, ptsKey (versionlessTest result.identifier)
        (some (result.description.getD "")) (some result.scale)) ∨
      slot metric = some (.testDescription, ptsKey (versionlessTest result.identifier)
        (some (result.description.getD "")) none) ∨
      slot metric = some (.testWildcard,
        ptsKey (versionlessTest result.identifier) none none) := by
  rw [Matches, slot]
  cases given : metric.pts with
  | none => simp
  | some pts =>
    have unpinned := unpinned pts given
    obtain ⟨test, description, scale⟩ := pts
    cases description <;> cases scale <;> simp_all [ptsKey_inj]

variable {cat : List MetricDef} {index : Index}

lemma findMetric_eq_some (compatible : cat.Pairwise Compatible)
    (unpinned : ∀ m ∈ cat, ∀ pts, m.pts = some pts → pts.description = none → pts.scale = none)
    (indexed : Indexed cat index) (result : PtsResult) (metric : MetricDef) :
    findMetric index (versionlessTest result.identifier) (result.description.getD "") result.scale =
      some metric ↔ metric ∈ cat ∧ Matches metric result := by
  have apart : cat.Pairwise fun m m' => ¬(Matches m result ∧ Matches m' result) :=
    compatible.imp fun pair => pair.not_both result
  have same {m m' : MetricDef} (hm : m ∈ cat) (hm' : m' ∈ cat) (own : Matches m result)
      (own' : Matches m' result) : m = m' := by
    by_contra differ
    have : Std.Symm fun m m' => ¬(Matches m result ∧ Matches m' result) :=
      ⟨fun _ _ none both => none both.symm⟩
    exact apart.forall hm hm' differ ⟨own, own'⟩
  have sound {m : MetricDef} (found : findMetric index (versionlessTest result.identifier)
      (result.description.getD "") result.scale = some m) : m ∈ cat ∧ Matches m result := by
    simp only [findMetric, Option.orElse_eq_orElse, Option.orElse_eq_or, Option.or_eq_some_iff]
      at found
    rcases found with first | ⟨-, second | ⟨-, third⟩⟩
    · obtain ⟨member, own⟩ := (indexed .testDescriptionScale _ m).mp first
      exact ⟨member, (matches_iff_slot (unpinned m member)).mpr (Or.inl own)⟩
    · obtain ⟨member, own⟩ := (indexed .testDescription _ m).mp second
      exact ⟨member, (matches_iff_slot (unpinned m member)).mpr (Or.inr (Or.inl own))⟩
    · obtain ⟨member, own⟩ := (indexed .testWildcard _ m).mp third
      exact ⟨member, (matches_iff_slot (unpinned m member)).mpr (Or.inr (Or.inr own))⟩
  refine ⟨sound, ?_⟩
  rintro ⟨member, own⟩
  cases found : findMetric index (versionlessTest result.identifier)
      (result.description.getD "") result.scale with
  | some other =>
    obtain ⟨member', own'⟩ := sound found
    rw [same member member' own own']
  | none =>
    simp only [findMetric, Option.orElse_eq_orElse, Option.orElse_eq_or, Option.or_eq_none_iff]
      at found
    obtain ⟨first, second, third⟩ := found
    rcases (matches_iff_slot (unpinned metric member)).mp own with at1 | at2 | at3
    · exact absurd ((indexed .testDescriptionScale _ metric).mpr ⟨member, at1⟩)
        (by rw [Index.map, first]; exact Option.some_ne_none _ |>.symm)
    · exact absurd ((indexed .testDescription _ metric).mpr ⟨member, at2⟩)
        (by rw [Index.map, second]; exact Option.some_ne_none _ |>.symm)
    · exact absurd ((indexed .testWildcard _ metric).mpr ⟨member, at3⟩)
        (by rw [Index.map, third]; exact Option.some_ne_none _ |>.symm)

theorem buildPtsIndex_refines {catalog : List MetricDef} (accepted : catalogSchema catalog = .ok ()) :
    ∃ index, buildPtsIndex catalog = .ok index ∧ ∀ result,
      catalog.Pairwise (fun m m' => ¬(Matches m result ∧ Matches m' result)) ∧
      (∀ metric, (∃ samples measurement, lookup index result =
          .matched metric samples measurement) ↔ metric ∈ catalog ∧ Matches metric result) ∧
      ((∀ metric ∈ catalog, ¬Matches metric result) → lookup index result =
        .uncatalogued (versionlessTest result.identifier) (result.description.getD "")
          result.scale) := by
  obtain ⟨compatible, unpinned⟩ := narrow_of_accepted accepted
  obtain ⟨index, built, indexed⟩ := buildPtsIndex_indexed compatible
  refine ⟨index, built, fun result => ?_⟩
  have finds := findMetric_eq_some compatible unpinned indexed result
  refine ⟨compatible.imp fun pair => pair.not_both result, fun metric => ?_, fun noEntry => ?_⟩
  · rw [← finds, lookup]
    dsimp only
    split
    · rename_i found
      rw [found]
      constructor
      · rintro ⟨samples, measurement, same⟩
        cases same
        rfl
      · rintro ⟨⟩
        exact ⟨_, _, rfl⟩
    · rename_i none
      rw [none]
      constructor
      · rintro ⟨samples, measurement, same⟩
        cases same
      · rintro ⟨⟩
  · rw [lookup]
    dsimp only
    split
    · rename_i metric found
      obtain ⟨member, own⟩ := (finds metric).mp found
      exact absurd own (noEntry metric member)
    · rfl

/-- A wildcard, an option of another test and two scales of a third. -/
def sampleCatalog : List MetricDef :=
  [⟨"tooling", "runs/s", some ⟨"pts/tooling", none, none⟩⟩,
    ⟨"select", "TPS", some ⟨"pts/db", some "Select", none⟩⟩,
    ⟨"read_mb", "MB/s", some ⟨"pts/fio", some "Read", some "MB/s"⟩⟩,
    ⟨"read_iops", "IOPS", some ⟨"pts/fio", some "Read", some "IOPS"⟩⟩,
    ⟨"spawn", "ms", none⟩]

theorem buildPtsIndex_refines_sample :
    ∃ index, buildPtsIndex sampleCatalog = .ok index ∧ ∀ result,
      sampleCatalog.Pairwise (fun m m' => ¬(Matches m result ∧ Matches m' result)) ∧
      (∀ metric, (∃ samples measurement, lookup index result =
          .matched metric samples measurement) ↔ metric ∈ sampleCatalog ∧ Matches metric result) ∧
      ((∀ metric ∈ sampleCatalog, ¬Matches metric result) → lookup index result =
        .uncatalogued (versionlessTest result.identifier) (result.description.getD "")
          result.scale) :=
  buildPtsIndex_refines (by decide +kernel)

example : versionlessTest "pts/fio-2.1-1.0.1" = "pts/fio-2.1" := by decide +kernel

end PtsIndex
