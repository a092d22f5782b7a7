import SandboxBenchmarks.AggregatePass
import SandboxBenchmarks.RunFacts

/-!
# When shards merge

`aggregateRuns` of shards succeeds exactly when the shards belong to one run and
every provider's slices are compatible: evidence agrees, ids name one content,
causes fit their gaps, a verdict has a mixture behind it, and all sandboxes
booted one artifact.
-/

namespace Aggregate

open CanonicalJson Checks JsonText PlanVerification RunModel RunSchema

variable {runtime : Runtime} {catalog : Catalog}

/-- A Run of one sandbox: accepted by the schema, without the fields only a merge writes. -/
structure Shard (catalog : Catalog) (run : Run) : Prop where
  accepted : AcceptedRun catalog run
  unpublished : run.experiment = none
  unmerged : ∀ row ∈ run.providers, row.observedMixtures = none
  unfolded : ∀ row ∈ run.providers, ∀ m ∈ row.metrics, m.replicates = none

/-! ### Mixtures -/

lemma buildObservedMixtures_some {readings : List ObservedSpecs} {mixtures : ObservedMixtures}
    (h : buildObservedMixtures runtime readings = .ok (some mixtures)) :
    readings ≠ [] ∧ ∃ hardware network,
      tallyCategory runtime readings hostHardwareSpecKeys = .ok hardware ∧
      tallyCategory runtime readings hostNetworkSpecKeys = .ok network ∧
      mixtures = {
        sandboxes := readings.length
        hostHardware := hardware.map (fun e =>
          (e.1, ⟨e.2.count, e.2.specs, computeSpecMatched e.2.specs⟩))
        hostNetwork := network.map (fun e => (e.1, ⟨e.2.count, e.2.specs⟩)) } := by
  unfold buildObservedMixtures at h
  cases readings with
  | nil => simp [pure, Except.pure] at h
  | cons r readings =>
    simp only [List.isEmpty_cons, Bool.false_eq_true, if_false, bind_eq_ok, pure_eq_ok,
      Option.some.injEq] at h
    obtain ⟨hardware, hw, network, net, rfl⟩ := h
    exact ⟨List.cons_ne_nil _ _, hardware, network, hw, net, rfl⟩

lemma buildObservedMixtures_none {readings : List ObservedSpecs}
    (h : buildObservedMixtures runtime readings = .ok none) : readings = [] := by
  unfold buildObservedMixtures at h
  cases readings with
  | nil => rfl
  | cons r readings =>
    simp only [List.isEmpty_cons, Bool.false_eq_true, if_false, bind_eq_ok, pure_eq_ok] at h
    obtain ⟨_, _, _, _, bad⟩ := h
    cases bad

theorem buildObservedMixtures_ok_iff (readings : List ObservedSpecs) :
    (∃ mixtures, buildObservedMixtures runtime readings = .ok mixtures) ↔
      readings.Pairwise (SameShape runtime hostHardwareSpecKeys) ∧
        readings.Pairwise (SameShape runtime hostNetworkSpecKeys) := by
  rw [← tallyCategory_ok_iff, ← tallyCategory_ok_iff]
  unfold buildObservedMixtures
  cases readings with
  | nil => exact ⟨fun _ => ⟨⟨[], rfl⟩, [], rfl⟩, fun _ => ⟨none, rfl⟩⟩
  | cons r readings =>
    simp only [List.isEmpty_cons, Bool.false_eq_true, if_false, bind_eq_ok, pure_eq_ok]
    constructor
    · rintro ⟨_, hardware, hw, network, net, _⟩
      exact ⟨⟨hardware, hw⟩, network, net⟩
    · rintro ⟨⟨hardware, hw⟩, network, net⟩
      exact ⟨_, hardware, hw, network, net, rfl⟩

/-- The entries of a category's tally. -/
structure TallySound (runtime : Runtime) (keys : List String) (readings : List ObservedSpecs)
    (tally : List (String × Tally)) : Prop where
  entry : ∀ e ∈ tally, 1 ≤ e.2.count ∧ mixtureSpecs keys e.2.specs = true
  total : (tally.map (fun e => e.2.count)).sum ≤ readings.length
  keyed : ∀ r ∈ readings, ∀ c, categoryOf runtime r keys = some c → c.id ∈ tally.map Prod.fst
  disclosed : tally ≠ [] → ∃ r ∈ readings, ∃ c, categoryOf runtime r keys = some c

lemma mem_categoryEntries {specs : ObservedSpecs} {keys : List String} {key : String}
    {value : SpecValue} : (key, value) ∈ categoryEntries specs keys ↔
      key ∈ keys ∧ Keyed.get? specs key = some value := by
  simp only [categoryEntries, List.mem_insertionSort, List.mem_filterMap, Option.map_eq_some_iff,
    Prod.mk.injEq]
  constructor
  · rintro ⟨k, hk, v, hv, rfl, rfl⟩
    exact ⟨hk, hv⟩
  · rintro ⟨hk, hv⟩
    exact ⟨key, hk, value, hv, rfl, rfl⟩

lemma mixtureSpecs_of_category {keys : List String} {reading : ObservedSpecs} {c : Category}
    (h : categoryOf runtime reading keys = some c) : mixtureSpecs keys c.specs = true := by
  have disclosed := categoryOf_some h
  simp only [mixtureSpecs, Bool.and_eq_true, List.all_eq_true, List.contains_iff_mem,
    Bool.not_eq_true', List.isEmpty_eq_false_iff]
  refine ⟨?_, disclosed.nonempty⟩
  rintro ⟨key, value⟩ hv
  rw [disclosed.specs] at hv
  exact (mem_categoryEntries.mp hv).1

theorem tallyCategory_sound {keys : List String} {readings : List ObservedSpecs}
    {tally : List (String × Tally)} (h : tallyCategory runtime readings keys = .ok tally) :
    TallySound runtime keys readings tally := by
  obtain ⟨byId, counted, rfl⟩ := tallyCategory_ok h
  obtain ⟨tallied, total⟩ := tallyReading_run counted
  have perm := List.perm_insertionSort tallyOrder byId
  have from_reading : ∀ e ∈ byId, ∃ c ∈ readingsOf runtime keys readings e.1,
      e.2 = ⟨c.canonical, (readingsOf runtime keys readings e.1).length, c.specs⟩ := by
    rintro ⟨id, t⟩ he
    have found := Keyed.get?_of_mem tallied.nodup he
    rw [tallied.counts, Option.map_eq_some_iff] at found
    obtain ⟨c, head, rfl⟩ := found
    exact ⟨c, List.mem_of_mem_head? head, rfl⟩
  refine ⟨?_, ?_, ?_, ?_⟩
  · intro e he
    obtain ⟨c, hc, same⟩ := from_reading e (perm.mem_iff.mp he)
    obtain ⟨⟨r, _, category⟩, _⟩ := mem_readingsOf.mp hc
    rw [same]
    exact ⟨List.length_pos_of_mem hc, mixtureSpecs_of_category category⟩
  · rw [(perm.map _).sum_eq, total]
    exact List.length_filterMap_le _ _
  · intro r hr c hc
    rw [(perm.map Prod.fst).mem_iff]
    have member : c ∈ readingsOf runtime keys readings c.id := mem_readingsOf.mpr ⟨⟨r, hr, hc⟩, rfl⟩
    by_contra absent
    have found := tallied.counts c.id
    rw [Keyed.get?_eq_none_iff.mpr absent, eq_comm, Option.map_eq_none_iff,
      List.head?_eq_none_iff] at found
    rw [found] at member
    cases member
  · intro nonempty
    obtain ⟨e, rest, split⟩ := List.exists_cons_of_ne_nil nonempty
    have he : e ∈ byId := perm.mem_iff.mp (by rw [split]; exact List.mem_cons_self)
    obtain ⟨c, hc, _⟩ := from_reading e he
    obtain ⟨⟨r, hr, category⟩, _⟩ := mem_readingsOf.mp hc
    exact ⟨r, hr, c, category⟩

/-- What the merge builds is what the schema asks of mixtures. -/
theorem observedMixturesSchema_of_build {readings : List ObservedSpecs}
    {mixtures : ObservedMixtures}
    (h : buildObservedMixtures runtime readings = .ok (some mixtures)) :
    observedMixturesSchema mixtures = .ok () := by
  obtain ⟨nonempty, hardware, network, hw, net, rfl⟩ := buildObservedMixtures_some h
  have hw := tallyCategory_sound hw
  have net := tallyCategory_sound net
  have positive : 1 ≤ readings.length := List.length_pos_of_ne_nil nonempty
  have hwTotal := hw.total
  have netTotal := net.total
  simp only [observedMixturesSchema, bind_eq_ok, throwIf_eq_ok, exists_const, Bool.not_eq_false,
    List.all_eq_true, List.mem_map, forall_exists_index, and_imp, forall_apply_eq_imp_iff₂,
    Bool.and_eq_true, decide_eq_true_eq, List.map_map, Function.comp_def, not_lt, gt_iff_lt]
  exact ⟨hw.entry, net.entry, positive, hwTotal, netTotal⟩

/-- A counted reading's ids are keys of the mixtures. -/
lemma ids_resolve {readings : List ObservedSpecs} {mixtures : ObservedMixtures}
    (h : buildObservedMixtures runtime readings = .ok (some mixtures)) {r : ObservedSpecs}
    (hr : r ∈ readings) :
    resolves mixtures.hostHardware (observedMixtureIds runtime r).hostHardwareId = true ∧
      resolves mixtures.hostNetwork (observedMixtureIds runtime r).hostNetworkId = true := by
  obtain ⟨_, hardware, network, hw, net, rfl⟩ := buildObservedMixtures_some h
  have hw := (tallyCategory_sound hw).keyed r hr
  have net := (tallyCategory_sound net).keyed r hr
  constructor
  · cases category : categoryOf runtime r hostHardwareSpecKeys with
    | none => simp [observedMixtureIds, category, resolves]
    | some c =>
      have present := hw c category
      simpa [observedMixtureIds, category, resolves] using present
  · cases category : categoryOf runtime r hostNetworkSpecKeys with
    | none => simp [observedMixtureIds, category, resolves]
    | some c =>
      have present := net c category
      simpa [observedMixtureIds, category, resolves] using present

/-- A reading that names a machine or a network, and not only the sandbox itself. -/
def Discloses (reading : ObservedSpecs) : Prop :=
  ∃ key ∈ hostHardwareSpecKeys ++ hostNetworkSpecKeys, (Keyed.get? reading key).isSome = true

lemma categoryOf_isSome {reading : ObservedSpecs} {keys : List String} :
    (∃ c, categoryOf runtime reading keys = some c) ↔
      ∃ key ∈ keys, (Keyed.get? reading key).isSome = true := by
  constructor
  · rintro ⟨c, h⟩
    have disclosed := categoryOf_some h
    obtain ⟨⟨key, value⟩, rest, split⟩ := List.exists_cons_of_ne_nil disclosed.nonempty
    have member : (key, value) ∈ categoryEntries reading keys := by
      rw [← disclosed.specs, split]
      exact List.mem_cons_self
    obtain ⟨hk, hv⟩ := mem_categoryEntries.mp member
    exact ⟨key, hk, by rw [hv]; rfl⟩
  · rintro ⟨key, hk, present⟩
    obtain ⟨value, hv⟩ := Option.isSome_iff_exists.mp present
    have member := mem_categoryEntries.mpr ⟨hk, hv⟩
    unfold categoryOf
    cases entries : categoryEntries reading keys with
    | nil => simp [entries] at member
    | cons e es => exact ⟨_, rfl⟩

lemma discloses_iff {reading : ObservedSpecs} : Discloses reading ↔
    (∃ c, categoryOf runtime reading hostHardwareSpecKeys = some c) ∨
      ∃ c, categoryOf runtime reading hostNetworkSpecKeys = some c := by
  rw [categoryOf_isSome, categoryOf_isSome, Discloses]
  simp only [List.mem_append, or_and_right, exists_or]

end Aggregate
