import SandboxBenchmarks.AggregateHosts

/-!
# Shard order and provenance

What a merge publishes about stragglers and hosts. The first straggler of an id
stays whatever it says, and a folded host record lists its fields as the last of
its records did; where shards agree on both, their order changes nothing.
-/

namespace Aggregate

open CanonicalJson Checks JsonText PlanVerification RunModel RunSchema

variable {runtime : Runtime} {catalog : Catalog}

/-! ### Stragglers -/

def stragglersOf (entries : List ReplicateSlice) : List UncataloguedResult :=
  entries.flatMap (·.slice.uncatalogued)

/-- The first entry of each id stays. -/
lemma mem_addStragglers {stragglers : List UncataloguedResult} {u : UncataloguedResult} :
    u ∈ stragglers.foldl addStraggler [] ↔ stragglers.find? (fun v => v.id = u.id) = some u := by
  induction stragglers using List.reverseRecOn generalizing u with
  | nil => simp
  | append_singleton stragglers x ih =>
    have listed : x.id ∈ (stragglers.foldl addStraggler []).map (·.id) ↔
        (stragglers.find? (fun v => v.id = x.id)).isSome = true := by
      rw [List.mem_map, Option.isSome_iff_exists]
      constructor
      · rintro ⟨u, hu, same⟩
        exact ⟨u, same ▸ ih.mp hu⟩
      · rintro ⟨w, found⟩
        have same : w.id = x.id := by simpa using List.find?_some found
        exact ⟨w, ih.mpr (same ▸ found), same⟩
    rw [List.foldl_append, List.foldl_cons, List.foldl_nil, addStraggler, List.find?_append]
    by_cases known : x.id ∈ (stragglers.foldl addStraggler []).map (·.id)
    · rw [if_pos known, ih]
      cases found : stragglers.find? (fun v => v.id = u.id) with
      | some w => simp
      | none =>
        have other : ¬ x.id = u.id := by
          intro same
          rw [listed, same, found] at known
          cases known
        simp [other]
    · rw [if_neg known, List.mem_append, List.mem_singleton, ih]
      rw [listed] at known
      cases found : stragglers.find? (fun v => v.id = u.id) with
      | some w =>
        have other : ¬ u = x := by
          rintro rfl
          exact known (by rw [found]; rfl)
        simp [other]
      | none =>
        by_cases same : u = x
        · simp [same]
        · have other : ¬ x = u := fun h => same h.symm
          simp [same, other]

lemma mergeSlice_uncatalogued {entries : List ReplicateSlice} {merge : Merge}
    (h : entries.foldlM (mergeSlice runtime catalog) Merge.empty = .ok merge) :
    merge.uncatalogued = (stragglersOf entries).foldl addStraggler [] := by
  refine foldlM_invariant
    (fun entries merge => merge.uncatalogued = (stragglersOf entries).foldl addStraggler []) rfl ?_ h
  intro pre x post s s' _ here step
  simp only [mergeSlice, bind_eq_ok, pure_eq_ok] at step
  obtain ⟨cost, _, artifact, _, rfl⟩ := step
  simp [stragglersOf, here]

/-! ### What a provider's shards report -/

def hostInputs (runtime : Runtime) (providerId : String) (runs : List Run) :
    List HostMetadataRecordInput :=
  (slicesOf providerId runs).flatMap (fun e => hostMetadataOf runtime e.slice)

def stragglers (providerId : String) (runs : List Run) : List UncataloguedResult :=
  stragglersOf (slicesOf providerId runs)

/-- The first straggler of an id that one shard lists. -/
def firstStraggler (providerId : String) (run : Run) (id : String) : Option UncataloguedResult :=
  (stragglers providerId [run]).find? (fun u => u.id = id)

/-- The last host record of one shard that reports these facts. -/
def lastRecord (runtime : Runtime) (providerId : String) (run : Run) (facts : HostFacts) :
    Option HostMetadataRecordInput :=
  ((hostInputs runtime providerId [run]).filter (fun i => i.facts = facts)).getLast?

section
variable {providerId : String} {runs runs' : List Run} {run : Run}

lemma slicesOf_singleton (providerId : String) (runs : List Run) :
    slicesOf providerId runs = runs.flatMap (fun run => slicesOf providerId [run]) := by
  simp [slicesOf]

lemma slicesOf_perm (perm : runs.Perm runs') :
    (slicesOf providerId runs).Perm (slicesOf providerId runs') := perm.flatMap_right _

lemma hostInputs_eq (runtime : Runtime) (providerId : String) (runs : List Run) :
    hostInputs runtime providerId runs =
      runs.flatMap (fun run => hostInputs runtime providerId [run]) := by
  unfold hostInputs
  rw [slicesOf_singleton, List.flatMap_assoc]

lemma stragglers_eq (providerId : String) (runs : List Run) :
    stragglers providerId runs = runs.flatMap (fun run => stragglers providerId [run]) := by
  unfold stragglers stragglersOf
  rw [slicesOf_singleton, List.flatMap_assoc]

lemma hostInputs_perm (perm : runs.Perm runs') :
    (hostInputs runtime providerId runs).Perm (hostInputs runtime providerId runs') :=
  (slicesOf_perm perm).flatMap_right _

lemma alike_perm (k : String) (perm : runs.Perm runs') :
    (alike runtime k (hostInputs runtime providerId runs)).Perm
      (alike runtime k (hostInputs runtime providerId runs')) := (hostInputs_perm perm).filter _

lemma getLast?_flatMap {α β : Type} {f : α → List β} {l : List α} {y : β}
    (h : (l.flatMap f).getLast? = some y) : ∃ x ∈ l, (f x).getLast? = some y := by
  induction l using List.reverseRecOn with
  | nil => cases h
  | append_singleton l x ih =>
    rw [List.flatMap_append, List.flatMap_singleton, List.getLast?_append] at h
    cases last : (f x).getLast? with
    | some z =>
      rw [last] at h
      exact ⟨x, by simp, last.trans h⟩
    | none =>
      rw [last] at h
      obtain ⟨w, hw, found⟩ := ih h
      exact ⟨w, List.mem_append_left _ hw, found⟩

end

/-! ### Merged rows -/

section
variable {providerId : String} {runs runs' : List Run} {merged merged' : Run}

lemma mergeProvider_ok_iff {entries : List ReplicateSlice} {targetSpec : TargetSpec} {emit : Bool} :
    (∃ row, mergeProvider runtime catalog providerId entries targetSpec emit = .ok row) ↔
      ((costOf entries).Pairwise (Agree runtime costEvidenceKind) ∧
        (artifactsOf entries).Pairwise (Agree runtime artifactEvidenceKind)) ∧
      (sandboxReadings entries).Pairwise (SameShape runtime hostHardwareSpecKeys) ∧
        (sandboxReadings entries).Pairwise (SameShape runtime hostNetworkSpecKeys) := by
  have merges : (∃ merge, entries.foldlM (mergeSlice runtime catalog) Merge.empty = .ok merge) ↔ _ :=
    mergeSlice_run_iff entries
  rw [← merges, ← buildObservedMixtures_ok_iff]
  simp only [mergeProvider, bind_eq_ok, pure_eq_ok]
  constructor
  · rintro ⟨row, merge, pass, mixtures, built, _⟩
    rw [(mergeSlice_run pass).readings] at built
    exact ⟨⟨merge, pass⟩, mixtures, built⟩
  · rintro ⟨⟨merge, pass⟩, mixtures, built⟩
    rw [← (mergeSlice_run pass).readings] at built
    exact ⟨_, merge, pass, mixtures, built, rfl⟩

lemma mergeProvider_perm {entries entries' : List ReplicateSlice} {targetSpec targetSpec' : TargetSpec}
    {emit emit' : Bool} (perm : entries.Perm entries')
    (h : ∃ row, mergeProvider runtime catalog providerId entries targetSpec emit = .ok row) :
    ∃ row, mergeProvider runtime catalog providerId entries' targetSpec' emit' = .ok row := by
  rw [mergeProvider_ok_iff] at h ⊢
  have readings : (sandboxReadings entries).Perm (sandboxReadings entries') :=
    (perm.filter _).map _
  exact ⟨⟨(perm.flatMap_right _).pairwise h.1.1 (fun h => h.symm),
      (perm.flatMap_right _).pairwise h.1.2 (fun h => h.symm)⟩,
    readings.pairwise h.2.1 (fun h => Std.Symm.symm _ _ h),
    readings.pairwise h.2.2 (fun h => Std.Symm.symm _ _ h)⟩

lemma mem_providerIdsOf : providerId ∈ providerIdsOf runtime runs ↔
    ∃ run ∈ runs, ∃ row ∈ run.providers, row.providerId = providerId := by
  simp [providerIdsOf, byLocale, List.mem_insertionSort]

/-- In another order the conflict checks pass as well. -/
theorem mergeRuns_perm (perm : runs.Perm runs')
    (h : mergeRuns runtime catalog runs = .ok merged) :
    ∃ merged', mergeRuns runtime catalog runs' = .ok merged' := by
  simp only [mergeRuns, bind_eq_ok, throwIf_eq_ok, require_eq_ok, forM_eq_ok, exists_const,
    pure_eq_ok] at h
  obtain ⟨fresh, first, head, versions, identity, rows, merges, rfl⟩ := h
  have same : ∀ run ∈ runs, run.runId = first.runId ∧ run.sha = first.sha ∧
      run.targetSpec = first.targetSpec := by
    intro run hr
    have ok := identity run hr
    simp only [checkIdentity, bind_eq_ok, throwIf_eq_ok, exists_const, not_or, not_not] at ok
    exact ⟨ok.1.1, ok.1.2, ok.2⟩
  have hfirst := List.mem_of_head? head
  obtain ⟨first', rest, split⟩ := List.exists_cons_of_ne_nil
    (List.ne_nil_of_mem (perm.mem_iff.mp hfirst))
  have hfirst' : first' ∈ runs := perm.mem_iff.mpr (by simp [split])
  have each : ∀ id ∈ providerIdsOf runtime runs', ∃ row, mergeProvider runtime catalog id
      (slicesOf id runs') first'.targetSpec
        (runs'.all (fun run => decide (6 ≤ run.schemaVersion))) = .ok row := by
    intro id hid
    have here : id ∈ providerIdsOf runtime runs := by
      rw [mem_providerIdsOf] at hid ⊢
      obtain ⟨run, hr, listed⟩ := hid
      exact ⟨run, perm.mem_iff.mpr hr, listed⟩
    obtain ⟨row, _, ok⟩ := mapM_mem merges here
    exact mergeProvider_perm (slicesOf_perm perm) ⟨row, ok⟩
  obtain ⟨rows', merges'⟩ := mapM_accepts each
  refine ⟨mergedRun runtime first' runs'
    (runs'.all (fun run => decide (6 ≤ run.schemaVersion))) rows', ?_⟩
  simp only [mergeRuns, bind_eq_ok, throwIf_eq_ok, require_eq_ok, forM_eq_ok, exists_const,
    pure_eq_ok]
  refine ⟨?_, first', by rw [split]; rfl, ?_, ?_, rows', merges', rfl⟩
  · rw [← perm.any_eq]
    exact fresh
  · rw [← perm.all_eq, ← perm.any_eq]
    exact versions
  · intro run hr
    have here := same run (perm.mem_iff.mpr hr)
    have there := same first' hfirst'
    simp only [checkIdentity, bind_eq_ok, throwIf_eq_ok, exists_const, not_or, not_not]
    exact ⟨⟨here.1.trans there.1.symm, here.2.1.trans there.2.1.symm⟩,
      here.2.2.trans there.2.2.symm⟩

/-- What a merged row holds of stragglers and hosts. -/
structure Merged (runtime : Runtime) (runs : List Run) (row : ProviderRun) : Prop where
  uncatalogued : row.uncatalogued = (stragglers row.providerId runs).foldl addStraggler []
  hosts : row.hostMetadata.getD [] =
    foldHostMetadata runtime (hostInputs runtime row.providerId runs)

lemma mergeProvider_merged {targetSpec : TargetSpec} {emit : Bool} {row : ProviderRun}
    (h : mergeProvider runtime catalog providerId (slicesOf providerId runs) targetSpec emit =
      .ok row) : row.providerId = providerId ∧ Merged runtime runs row := by
  simp only [mergeProvider, bind_eq_ok, pure_eq_ok] at h
  obtain ⟨merge, pass, mixtures, _, rfl⟩ := h
  refine ⟨rfl, mergeSlice_uncatalogued pass, ?_⟩
  have inputs := (mergeSlice_run pass).hostMetadata
  show (if (foldHostMetadata runtime merge.hostMetadataInputs).isEmpty then none
    else some (foldHostMetadata runtime merge.hostMetadataInputs)).getD [] =
      foldHostMetadata runtime (hostInputs runtime providerId runs)
  rw [inputs, hostInputs]
  split
  · rename_i empty
    rw [List.isEmpty_iff.mp empty]
    rfl
  · rfl

lemma merged_of_mem (passed : mergeRuns runtime catalog runs = .ok merged) {row : ProviderRun}
    (hrow : row ∈ merged.providers) : Merged runtime runs row := by
  obtain ⟨first, emit, providers, merging, rfl⟩ := mergeRuns_ok passed
  obtain ⟨id, _, ok⟩ := mem_mapM merging.rows hrow
  exact (mergeProvider_merged ok).2

lemma row_iff (passed : mergeRuns runtime catalog runs = .ok merged) :
    (∃ row ∈ merged.providers, row.providerId = providerId) ↔
      ∃ run ∈ runs, ∃ row ∈ run.providers, row.providerId = providerId := by
  obtain ⟨first, emit, providers, merging, rfl⟩ := mergeRuns_ok passed
  have named : providerId ∈ providerIdsOf runtime runs ↔ _ := mem_providerIdsOf
  rw [← named]
  constructor
  · rintro ⟨row, hrow, rfl⟩
    obtain ⟨id, hid, ok⟩ := mem_mapM merging.rows hrow
    rw [(mergeProvider_merged ok).1]
    exact hid
  · intro listed
    obtain ⟨row, hrow, ok⟩ := mapM_mem merging.rows listed
    exact ⟨row, hrow, (mergeProvider_merged ok).1⟩

end

/-! ### What a row claims about its sandboxes -/

/-- Every folded record stands for the input records of its facts. -/
structure Faithful (inputs : List HostMetadataRecordInput) (records : List HostMetadataRecord) :
    Prop where
  stands : ∀ r ∈ records,
    r.sandboxes = some (inputs.countP (fun i => i.facts = publishedFacts r))
  reported : ∀ r ∈ records, ∃ i ∈ inputs, i.facts = publishedFacts r
  covered : ∀ i ∈ inputs, ∃ r ∈ records, publishedFacts r = i.facts
  distinct : (records.map publishedFacts).Nodup
  total : (records.map (fun r => r.sandboxes.getD 0)).sum = inputs.length

/-- Records of the same facts are hashed alike: fields whose paths compare equal stand in one
order. -/
def HashedAlike (runtime : Runtime) (inputs : List HostMetadataRecordInput) : Prop :=
  ∀ i ∈ inputs, ∀ j ∈ inputs, i.facts = j.facts →
    hashedFields runtime i.record = hashedFields runtime j.record

section
variable {inputs inputs' : List HostMetadataRecordInput}

lemma sandboxes_total (runtime : Runtime) (inputs : List HostMetadataRecordInput) :
    ((foldHostMetadata runtime inputs).map (fun r => r.sandboxes.getD 0)).sum = inputs.length := by
  simp only [foldHostMetadata, List.map_map, Function.comp_def]
  induction inputs using List.reverseRecOn with
  | nil => rfl
  | append_singleton inputs x ih =>
    rw [List.foldl_append, List.foldl_cons, List.foldl_nil, List.length_append,
      List.length_singleton, ← ih, foldHostRecord]
    split
    · rename_i existing found
      have counted := (foldedFrom ((get?_foldHost _ inputs).symm.trans found)).count
      have step := Keyed.sum_set (fun r : HostMetadataRecord => r.sandboxes.getD 0)
        (inputs.foldl (foldHostRecord runtime) [])
        (hostMetadataKey runtime x.record x.ids
          (x.record.fields.filter (fun f => ! isVolatileHostMetadataPath f.path)))
        { existing with
          sandboxes := some (existing.sandboxes.getD 1 + 1)
          fields := x.record.fields.filter (fun f => ! isVolatileHostMetadataPath f.path) }
      rw [found] at step
      simp only [counted, Option.map_some, Option.getD_some] at step ⊢
      omega
    · rename_i absent
      have step := Keyed.sum_set (fun r : HostMetadataRecord => r.sandboxes.getD 0)
        (inputs.foldl (foldHostRecord runtime) [])
        (hostMetadataKey runtime x.record x.ids
          (x.record.fields.filter (fun f => ! isVolatileHostMetadataPath f.path)))
        { x.record with sandboxes := some 1, ids := x.ids.over x.record.ids }
      rw [absent] at step
      simpa using step

lemma alike_of_facts (hash : Function.Injective runtime.sha256)
    (alikes : HashedAlike runtime inputs) {i : HostMetadataRecordInput} (hi : i ∈ inputs)
    {part : List HostMetadataRecordInput} (sub : ∀ j ∈ part, j ∈ inputs) :
    alike runtime (hostKey runtime i) part = part.filter (fun j => j.facts = i.facts) := by
  refine List.filter_congr fun j hj => ?_
  rw [decide_eq_decide]
  constructor
  · exact facts_of_hostKey hash
  · intro same
    exact hostKey_of_facts hash same (alikes j (sub j hj) i hi same)

/-- A fold is faithful exactly when records of the same facts are hashed alike. -/
theorem faithful_iff_hashed (hash : Function.Injective runtime.sha256) (unnamed : Unnamed inputs) :
    Faithful inputs (foldHostMetadata runtime inputs) ↔ HashedAlike runtime inputs := by
  constructor
  · intro faithful i hi j hj same
    have own : ∀ x ∈ inputs, ∃ r ∈ foldHostMetadata runtime inputs,
        folded (alike runtime (hostKey runtime x) inputs) = some r ∧ publishedFacts r = x.facts := by
      intro x hx
      have listed : x ∈ alike runtime (hostKey runtime x) inputs := mem_alike.mpr ⟨hx, rfl⟩
      obtain ⟨r, hr⟩ := folded_of_mem listed
      exact ⟨r, mem_foldHost.mpr ⟨_, hr⟩, hr, publishedFacts_folded hash unnamed hr listed⟩
    obtain ⟨r, hr, foldedR, factsR⟩ := own i hi
    obtain ⟨s, hs, foldedS, factsS⟩ := own j hj
    have single : r = s := List.inj_on_of_nodup_map faithful.distinct hr hs
      (factsR.trans (same.trans factsS.symm))
    subst single
    have keys := (hostMetadataKey_folded hash unnamed foldedR).symm.trans
      (hostMetadataKey_folded hash unnamed foldedS)
    exact ((hostKey_eq_iff hash).mp keys).2.2.2
  · intro alikes
    have member : ∀ {k r}, folded (alike runtime k inputs) = some r →
        ∃ i ∈ inputs, hostKey runtime i = k ∧ publishedFacts r = i.facts := by
      intro k r h
      obtain ⟨i, hi, _⟩ := (foldedFrom h).first
      exact ⟨i, (mem_alike.mp hi).1, (mem_alike.mp hi).2, publishedFacts_folded hash unnamed h hi⟩
    refine ⟨?_, ?_, ?_, ?_, sandboxes_total runtime inputs⟩
    · intro r hr
      obtain ⟨k, h⟩ := mem_foldHost.mp hr
      obtain ⟨i, hi, rfl, facts⟩ := member h
      rw [(foldedFrom h).count, alike_of_facts hash alikes hi (fun _ => id), facts,
        List.countP_eq_length_filter]
    · intro r hr
      obtain ⟨k, h⟩ := mem_foldHost.mp hr
      obtain ⟨i, hi, _, facts⟩ := member h
      exact ⟨i, hi, facts.symm⟩
    · intro i hi
      have listed : i ∈ alike runtime (hostKey runtime i) inputs := mem_alike.mpr ⟨hi, rfl⟩
      obtain ⟨r, hr⟩ := folded_of_mem listed
      exact ⟨r, mem_foldHost.mpr ⟨_, hr⟩, publishedFacts_folded hash unnamed hr listed⟩
    · rw [foldHostMetadata, List.map_map]
      refine List.Nodup.map_on ?_ (List.Nodup.of_map _ (nodup_foldHost inputs))
      rintro ⟨k, r⟩ hr ⟨k', r'⟩ hr' same
      have here : Keyed.get? (inputs.foldl (foldHostRecord runtime) []) k = _ :=
        get?_foldHost k inputs
      have there : Keyed.get? (inputs.foldl (foldHostRecord runtime) []) k' = _ :=
        get?_foldHost k' inputs
      rw [Keyed.get?_of_mem (nodup_foldHost inputs) hr] at here
      rw [Keyed.get?_of_mem (nodup_foldHost inputs) hr'] at there
      obtain ⟨i, hi, rfl, facts⟩ := member here.symm
      obtain ⟨j, hj, rfl, facts'⟩ := member there.symm
      have equal : i.facts = j.facts := facts.symm.trans ((show publishedFacts r = publishedFacts r'
        from same).trans facts')
      have keys := hostKey_of_facts hash equal (alikes i hi j hj equal)
      rw [keys] at here
      rw [keys, Option.some.inj (here.trans there.symm)]

end

/-! ### Any order of the shards -/

/-- The same stragglers and the same host records for the same providers. -/
structure SameProvenance (merged merged' : Run) : Prop where
  providers : ∀ providerId, (∃ row ∈ merged.providers, row.providerId = providerId) ↔
    ∃ row ∈ merged'.providers, row.providerId = providerId
  uncatalogued : ∀ row ∈ merged.providers, ∀ row' ∈ merged'.providers,
    row.providerId = row'.providerId → ∀ u, u ∈ row.uncatalogued ↔ u ∈ row'.uncatalogued
  hosts : ∀ row ∈ merged.providers, ∀ row' ∈ merged'.providers,
    row.providerId = row'.providerId →
      ∀ r, r ∈ row.hostMetadata.getD [] ↔ r ∈ row'.hostMetadata.getD []

/-- What `merge` returns has the same provenance for every order of the shards, and its host
records are faithful. -/
def Provenance (merge : List Run → Except String Run) (runtime : Runtime) (runs : List Run) : Prop :=
  ∀ runs', runs.Perm runs' → ∀ merged merged', merge runs = .ok merged →
    merge runs' = .ok merged' → SameProvenance merged merged' ∧
      ∀ row ∈ merged.providers,
        Faithful (hostInputs runtime row.providerId runs) (row.hostMetadata.getD [])

/-- A provider's shards agree on what stays when they are merged in any order. -/
structure Settled (runtime : Runtime) (runs : List Run) (providerId : String) : Prop where
  stragglers : ∀ s ∈ runs, ∀ t ∈ runs, ∀ id u v, firstStraggler providerId s id = some u →
    firstStraggler providerId t id = some v → u = v
  hashed : HashedAlike runtime (hostInputs runtime providerId runs)
  listed : ∀ s ∈ runs, ∀ t ∈ runs, ∀ facts i j, lastRecord runtime providerId s facts = some i →
    lastRecord runtime providerId t facts = some j → stableFields i.record = stableFields j.record

/-- No host record of a shard names a machine: the ids are set by aggregation. -/
def NamesNoMachine (run : Run) : Prop :=
  ∀ row ∈ run.providers, ∀ record ∈ row.hostMetadata.getD [], record.ids = ⟨none, none⟩

section
variable {providerId : String} {runs runs' : List Run} {merged merged' : Run}

lemma unnamed_hostInputs (shards : ∀ run ∈ runs, NamesNoMachine run) (providerId : String) :
    Unnamed (hostInputs runtime providerId runs) := by
  intro i hi
  obtain ⟨e, he, listed⟩ := List.mem_flatMap.mp hi
  obtain ⟨run, hr, row, hrow, _, rfl⟩ := mem_slicesOf.mp he
  obtain ⟨record, hrecord, rfl⟩ := List.mem_map.mp listed
  exact shards run hr row hrow record hrecord

lemma find?_stragglers {id : String} {u : UncataloguedResult}
    (h : (stragglers providerId runs).find? (fun w => w.id = id) = some u) :
    ∃ s ∈ runs, firstStraggler providerId s id = some u := by
  rw [stragglers_eq, List.find?_flatMap] at h
  obtain ⟨s, hs, found⟩ := List.exists_of_findSome?_eq_some h
  exact ⟨s, hs, found⟩

lemma mem_hostInputs {run : Run} (hr : run ∈ runs) {i : HostMetadataRecordInput}
    (hi : i ∈ hostInputs runtime providerId [run]) : i ∈ hostInputs runtime providerId runs := by
  rw [hostInputs_eq]
  exact List.mem_flatMap.mpr ⟨run, hr, hi⟩

/-- The last record of a class is the last one of some shard. -/
lemma getLast?_alike (hash : Function.Injective runtime.sha256)
    (alikes : HashedAlike runtime (hostInputs runtime providerId runs))
    {i j : HostMetadataRecordInput} (hi : i ∈ hostInputs runtime providerId runs)
    (perm : runs.Perm runs')
    (h : (alike runtime (hostKey runtime i) (hostInputs runtime providerId runs')).getLast? =
      some j) : ∃ s ∈ runs, lastRecord runtime providerId s i.facts = some j := by
  rw [hostInputs_eq, alike, List.filter_flatMap] at h
  obtain ⟨s, hs, last⟩ := getLast?_flatMap h
  have inRuns := perm.mem_iff.mpr hs
  refine ⟨s, inRuns, ?_⟩
  rw [lastRecord, ← alike_of_facts hash alikes hi (fun j hj => mem_hostInputs inRuns hj)]
  exact last

lemma settled_uncatalogued (settled : Settled runtime runs providerId) (perm : runs.Perm runs')
    {u : UncataloguedResult} (h : u ∈ (stragglers providerId runs).foldl addStraggler []) :
    u ∈ (stragglers providerId runs').foldl addStraggler [] := by
  rw [mem_addStragglers] at h ⊢
  obtain ⟨s, hs, first⟩ := find?_stragglers h
  have member : u ∈ stragglers providerId runs' := by
    have listed : (stragglers providerId runs).Perm (stragglers providerId runs') :=
      (slicesOf_perm perm).flatMap_right _
    exact listed.mem_iff.mp (List.mem_of_find?_eq_some h)
  cases found : (stragglers providerId runs').find? (fun w => w.id = u.id) with
  | none => simpa using List.find?_eq_none.mp found u member
  | some v =>
    obtain ⟨t, ht, first'⟩ := find?_stragglers found
    rw [settled.stragglers s hs t (perm.mem_iff.mpr ht) _ u v first first']

lemma settled_hosts (hash : Function.Injective runtime.sha256)
    (shards : ∀ run ∈ runs, NamesNoMachine run) (settled : Settled runtime runs providerId)
    (perm : runs.Perm runs') {r : HostMetadataRecord}
    (h : r ∈ foldHostMetadata runtime (hostInputs runtime providerId runs)) :
    r ∈ foldHostMetadata runtime (hostInputs runtime providerId runs') := by
  have unnamed : Unnamed (hostInputs runtime providerId runs) := unnamed_hostInputs shards providerId
  have unnamed' : Unnamed (hostInputs runtime providerId runs') :=
    fun i hi => unnamed i ((hostInputs_perm perm).mem_iff.mpr hi)
  obtain ⟨k, hr⟩ := mem_foldHost.mp h
  have groups : (alike runtime k (hostInputs runtime providerId runs)).Perm
      (alike runtime k (hostInputs runtime providerId runs')) := alike_perm k perm
  obtain ⟨i, hi, _⟩ := (foldedFrom hr).first
  obtain ⟨r', hr'⟩ := folded_of_mem (groups.mem_iff.mp hi)
  have facts := (publishedFacts_folded hash unnamed hr hi).trans
    (publishedFacts_folded hash unnamed' hr' (groups.mem_iff.mp hi)).symm
  simp only [publishedFacts, factsOf, HostFacts.mk.injEq] at facts
  have counts : r.sandboxes = r'.sandboxes := by
    rw [(foldedFrom hr).count, (foldedFrom hr').count, groups.length_eq]
  have fields : r.fields = r'.fields := by
    obtain ⟨inRuns, rfl⟩ := mem_alike.mp hi
    by_cases many : 2 ≤ (alike runtime (hostKey runtime i)
        (hostInputs runtime providerId runs)).length
    · obtain ⟨x, lastX, fieldsX⟩ := (foldedFrom hr).several many
      obtain ⟨y, lastY, fieldsY⟩ := (foldedFrom hr').several (groups.length_eq ▸ many)
      obtain ⟨s, hs, ofS⟩ := getLast?_alike hash settled.hashed inRuns (List.Perm.refl _) lastX
      obtain ⟨t, ht, ofT⟩ := getLast?_alike hash settled.hashed inRuns perm lastY
      rw [fieldsX, fieldsY, settled.listed s hs t ht _ x y ofS ofT]
    · -- a class of one record keeps its fields as they are
      have one : (alike runtime (hostKey runtime i)
          (hostInputs runtime providerId runs)).length = 1 := by
        have := List.length_pos_of_mem hi
        omega
      obtain ⟨x, single⟩ := List.length_eq_one_iff.mp one
      have single' := groups
      rw [single, List.singleton_perm] at single'
      rw [(foldedFrom hr).only x single, (foldedFrom hr').only x single'.symm]
  have equal : r = r' := by
    obtain ⟨source, file, fields, sandboxes, ids⟩ := r
    obtain ⟨source', file', fields', sandboxes', ids'⟩ := r'
    simp only [HostMetadataRecord.mk.injEq]
    exact ⟨facts.1, facts.2.1, fields, counts, facts.2.2.1⟩
  rw [equal]
  exact mem_foldHost.mpr ⟨k, hr'⟩

lemma Settled.perm (settled : Settled runtime runs providerId) (perm : runs.Perm runs') :
    Settled runtime runs' providerId where
  stragglers s hs t ht := settled.stragglers s (perm.mem_iff.mpr hs) t (perm.mem_iff.mpr ht)
  hashed i hi j hj := settled.hashed i ((hostInputs_perm perm).mem_iff.mpr hi) j
    ((hostInputs_perm perm).mem_iff.mpr hj)
  listed s hs t ht := settled.listed s (perm.mem_iff.mpr hs) t (perm.mem_iff.mpr ht)

theorem provenance_of_settled (hash : Function.Injective runtime.sha256)
    (shards : ∀ run ∈ runs, NamesNoMachine run)
    (settled : ∀ providerId, Settled runtime runs providerId) :
    Provenance (mergeRuns runtime catalog) runtime runs := by
  intro runs' perm merged merged' passed passed'
  have shards' : ∀ run ∈ runs', NamesNoMachine run :=
    fun run hr => shards run (perm.mem_iff.mpr hr)
  refine ⟨⟨fun providerId => ?_, ?_, ?_⟩, ?_⟩
  · rw [row_iff passed, row_iff passed']
    constructor
    · rintro ⟨run, hr, listed⟩
      exact ⟨run, perm.mem_iff.mp hr, listed⟩
    · rintro ⟨run, hr, listed⟩
      exact ⟨run, perm.mem_iff.mpr hr, listed⟩
  · intro row hrow row' hrow' same u
    rw [(merged_of_mem passed hrow).uncatalogued, (merged_of_mem passed' hrow').uncatalogued, ← same]
    exact ⟨settled_uncatalogued (settled _) perm,
      settled_uncatalogued ((settled _).perm perm) perm.symm⟩
  · intro row hrow row' hrow' same r
    rw [(merged_of_mem passed hrow).hosts, (merged_of_mem passed' hrow').hosts, ← same]
    exact ⟨settled_hosts hash shards (settled _) perm,
      settled_hosts hash shards' ((settled _).perm perm) perm.symm⟩
  · intro row hrow
    rw [(merged_of_mem passed hrow).hosts]
    exact (faithful_iff_hashed hash (unnamed_hostInputs shards _)).mpr (settled _).hashed

lemma row_of_slice (passed : mergeRuns runtime catalog runs = .ok merged) {s : Run} (hs : s ∈ runs)
    (listed : slicesOf providerId [s] ≠ []) :
    ∃ row ∈ merged.providers, row.providerId = providerId := by
  obtain ⟨e, rest, some⟩ := List.exists_cons_of_ne_nil listed
  have he : e ∈ slicesOf providerId [s] := by simp [some]
  obtain ⟨run, hr, row, hrow, named, _⟩ := mem_slicesOf.mp he
  obtain rfl := List.mem_singleton.mp hr
  exact (row_iff passed).mpr ⟨run, hs, row, hrow, named⟩

/-- A shard can be merged first. -/
lemma exists_first {s : Run} (hs : s ∈ runs) : ∃ rest, runs.Perm (s :: rest) := by
  obtain ⟨before, after, rfl⟩ := List.append_of_mem hs
  exact ⟨before ++ after, List.perm_middle⟩

/-- What two shards list first of one id can both be published. -/
lemma stragglers_of_provenance (passed : mergeRuns runtime catalog runs = .ok merged)
    (provenance : Provenance (mergeRuns runtime catalog) runtime runs)
    {s t : Run} (hs : s ∈ runs) (ht : t ∈ runs) {id : String} {u v : UncataloguedResult}
    (first : firstStraggler providerId s id = some u)
    (first' : firstStraggler providerId t id = some v) : u = v := by
  have published : ∀ {s u}, s ∈ runs → firstStraggler providerId s id = some u →
      ∀ row ∈ merged.providers, row.providerId = providerId → u ∈ row.uncatalogued := by
    intro s u hs first row hrow named
    obtain ⟨rest, perm⟩ := exists_first hs
    obtain ⟨other, passed'⟩ := mergeRuns_perm perm passed
    have same := (provenance _ perm _ _ passed passed').1
    obtain ⟨row', hrow', named'⟩ := (same.providers providerId).mp ⟨row, hrow, named⟩
    refine (same.uncatalogued row hrow row' hrow' (named.trans named'.symm) u).mpr ?_
    have ofId : u.id = id := by simpa using List.find?_some first
    rw [(merged_of_mem passed' hrow').uncatalogued, named', mem_addStragglers, ofId, stragglers_eq,
      List.flatMap_cons, List.find?_append]
    rw [firstStraggler] at first
    rw [first]
    rfl
  have listed : slicesOf providerId [s] ≠ [] := by
    intro none
    rw [firstStraggler, stragglers, stragglersOf, none] at first
    cases first
  obtain ⟨row, hrow, named⟩ := row_of_slice passed hs listed
  have hu := published hs first row hrow named
  have hv := published ht first' row hrow named
  have ids : u.id = v.id := by
    have ofU : u.id = id := by simpa using List.find?_some first
    have ofV : v.id = id := by simpa using List.find?_some first'
    exact ofU.trans ofV.symm
  rw [(merged_of_mem passed hrow).uncatalogued, mem_addStragglers] at hu hv
  rw [ids, hv] at hu
  exact (Option.some.inj hu).symm

/-- A shard can be merged last. -/
lemma exists_last {s : Run} (hs : s ∈ runs) : ∃ rest, runs.Perm (rest ++ [s]) := by
  obtain ⟨rest, perm⟩ := exists_first hs
  exact ⟨rest, perm.trans (List.perm_append_singleton s rest).symm⟩

/-- With a shard merged last, the record of a class of several lists the fields of that shard's
last record. -/
lemma folded_last (hash : Function.Injective runtime.sha256)
    (alikes : HashedAlike runtime (hostInputs runtime providerId runs)) {s : Run} (hs : s ∈ runs)
    (rest : List Run) {i x : HostMetadataRecordInput}
    (hi : i ∈ hostInputs runtime providerId runs)
    (last : lastRecord runtime providerId s i.facts = some x) :
    (alike runtime (hostKey runtime i) (hostInputs runtime providerId (rest ++ [s]))).getLast? =
      some x := by
  rw [lastRecord, ← alike_of_facts hash alikes hi (fun j hj => mem_hostInputs hs hj)] at last
  rw [hostInputs_eq, List.flatMap_append, List.flatMap_singleton, alike, List.filter_append,
    List.getLast?_append]
  rw [alike] at last
  rw [last]
  rfl

lemma listed_of_provenance (hash : Function.Injective runtime.sha256)
    (shards : ∀ run ∈ runs, NamesNoMachine run)
    (passed : mergeRuns runtime catalog runs = .ok merged)
    (provenance : Provenance (mergeRuns runtime catalog) runtime runs)
    (alikes : HashedAlike runtime (hostInputs runtime providerId runs))
    {s t : Run} (hs : s ∈ runs) (ht : t ∈ runs) {facts : HostFacts}
    {i j : HostMetadataRecordInput} (lastI : lastRecord runtime providerId s facts = some i)
    (lastJ : lastRecord runtime providerId t facts = some j) :
    stableFields i.record = stableFields j.record := by
  have unnamed : Unnamed (hostInputs runtime providerId runs) := unnamed_hostInputs shards providerId
  have inS := List.mem_filter.mp (List.mem_of_getLast? lastI)
  have hi : i ∈ hostInputs runtime providerId runs := mem_hostInputs hs inS.1
  obtain rfl : i.facts = facts := of_decide_eq_true inS.2
  have listed : slicesOf providerId [s] ≠ [] := by
    intro none
    rw [hostInputs, none] at inS
    cases inS.1
  obtain ⟨row, hrow, named⟩ := row_of_slice passed hs listed
  -- whichever of the two shards comes last, the published record of the class is the same
  have published : ∀ {u x}, u ∈ runs → lastRecord runtime providerId u i.facts = some x →
      ∃ rest r, runs.Perm (rest ++ [u]) ∧
        (alike runtime (hostKey runtime i)
          (hostInputs runtime providerId (rest ++ [u]))).getLast? = some x ∧
        folded (alike runtime (hostKey runtime i) (hostInputs runtime providerId (rest ++ [u]))) =
          some r ∧
        folded (alike runtime (hostKey runtime i) (hostInputs runtime providerId runs)) =
          some r := by
    intro u x hu last
    obtain ⟨rest, perm⟩ := exists_last hu
    obtain ⟨other, passed'⟩ := mergeRuns_perm perm passed
    have same := (provenance _ perm _ _ passed passed').1
    obtain ⟨row', hrow', named'⟩ := (same.providers providerId).mp ⟨row, hrow, named⟩
    have final := folded_last hash alikes hu rest hi last
    obtain ⟨r, hr⟩ := folded_of_mem (List.mem_of_getLast? final)
    have inRow' : r ∈ row'.hostMetadata.getD [] := by
      rw [(merged_of_mem passed' hrow').hosts, named']
      exact mem_foldHost.mpr ⟨_, hr⟩
    have inRow := (same.hosts row hrow row' hrow' (named.trans named'.symm) r).mpr inRow'
    rw [(merged_of_mem passed hrow).hosts, named] at inRow
    obtain ⟨k, hk⟩ := mem_foldHost.mp inRow
    have unnamed' : Unnamed (hostInputs runtime providerId (rest ++ [u])) :=
      fun i hi => unnamed i ((hostInputs_perm perm).mem_iff.mpr hi)
    have keys := (hostMetadataKey_folded hash unnamed hk).symm.trans
      (hostMetadataKey_folded hash unnamed' hr)
    exact ⟨rest, r, perm, final, hr, keys ▸ hk⟩
  obtain ⟨rest, r, perm, lastX, foldedX, here⟩ := published hs lastI
  obtain ⟨rest', r', perm', lastY, foldedY, there⟩ := published ht lastJ
  obtain rfl := Option.some.inj (here.symm.trans there)
  by_cases many : 2 ≤ (alike runtime (hostKey runtime i)
      (hostInputs runtime providerId runs)).length
  · obtain ⟨x, isX, fieldsX⟩ :=
      (foldedFrom foldedX).several ((alike_perm _ perm).length_eq ▸ many)
    obtain ⟨y, isY, fieldsY⟩ :=
      (foldedFrom foldedY).several ((alike_perm _ perm').length_eq ▸ many)
    cases isX.symm.trans lastX
    cases isY.symm.trans lastY
    exact fieldsX.symm.trans fieldsY
  · have member : i ∈ alike runtime (hostKey runtime i) (hostInputs runtime providerId runs) :=
      mem_alike.mpr ⟨hi, rfl⟩
    have one : (alike runtime (hostKey runtime i)
        (hostInputs runtime providerId runs)).length = 1 := by
      have := List.length_pos_of_mem member
      omega
    obtain ⟨x, single⟩ := List.length_eq_one_iff.mp one
    have inX : ∀ {runs' y}, runs.Perm runs' → (alike runtime (hostKey runtime i)
        (hostInputs runtime providerId runs')).getLast? = some y → y = x := by
      intro runs' y perm last
      have listed := (alike_perm _ perm).mem_iff.mpr (List.mem_of_getLast? last)
      rw [single] at listed
      exact List.mem_singleton.mp listed
    rw [inX perm lastX, inX perm' lastY]

/-- What was merged has one provenance, and a faithful one, exactly when the shards are settled. -/
theorem provenance_iff (hash : Function.Injective runtime.sha256)
    (shards : ∀ run ∈ runs, NamesNoMachine run)
    (passed : mergeRuns runtime catalog runs = .ok merged) :
    Provenance (mergeRuns runtime catalog) runtime runs ↔
      ∀ providerId, Settled runtime runs providerId := by
  refine ⟨fun provenance providerId => ?_, provenance_of_settled hash shards⟩
  have alikes : HashedAlike runtime (hostInputs runtime providerId runs) := by
    by_cases empty : hostInputs runtime providerId runs = []
    · intro i hi
      rw [empty] at hi
      cases hi
    · obtain ⟨i, rest, some⟩ := List.exists_cons_of_ne_nil empty
      have hi : i ∈ hostInputs runtime providerId runs := by simp [some]
      obtain ⟨e, he, _⟩ := List.mem_flatMap.mp hi
      obtain ⟨run, hr, row, hrow, named, _⟩ := mem_slicesOf.mp he
      obtain ⟨merge, hmerge, here⟩ := (row_iff passed).mpr ⟨run, hr, row, hrow, named⟩
      have faithful := (provenance runs (List.Perm.refl _) _ _ passed passed).2 merge hmerge
      rw [(merged_of_mem passed hmerge).hosts, here] at faithful
      exact (faithful_iff_hashed hash (unnamed_hostInputs shards _)).mp faithful
  exact {
    stragglers := fun s hs t ht id u v => stragglers_of_provenance passed provenance hs ht
    hashed := alikes
    listed := fun s hs t ht facts i j =>
      listed_of_provenance hash shards passed provenance alikes hs ht }

lemma mergeRuns_of_aggregateRuns (h : aggregateRuns runtime catalog runs = .ok merged) :
    mergeRuns runtime catalog runs = .ok merged := by
  rw [aggregateRuns_eq, bind_eq_ok] at h
  obtain ⟨parsed, passed, accepted⟩ := h
  rw [(parseRun_ok_iff.mp accepted).1]
  exact passed

/-- Settled shards have one provenance in every order. The condition is exact for what is merged,
and for `aggregateRuns` itself where the final parse refuses no order. -/
theorem aggregateRuns_provenance (hash : Function.Injective runtime.sha256)
    (shards : ∀ run ∈ runs, NamesNoMachine run) :
    ((∀ providerId, Settled runtime runs providerId) →
      Provenance (aggregateRuns runtime catalog) runtime runs) ∧
    ((∃ merged, mergeRuns runtime catalog runs = .ok merged) →
      (Provenance (mergeRuns runtime catalog) runtime runs ↔
        ∀ providerId, Settled runtime runs providerId)) ∧
    ((∀ runs', runs.Perm runs' → ∃ merged, aggregateRuns runtime catalog runs' = .ok merged) →
      (Provenance (aggregateRuns runtime catalog) runtime runs ↔
        ∀ providerId, Settled runtime runs providerId)) := by
  have suffices_ : (∀ providerId, Settled runtime runs providerId) →
      Provenance (aggregateRuns runtime catalog) runtime runs := by
    intro settled runs' perm merged merged' accepted accepted'
    exact provenance_of_settled hash shards settled runs' perm merged merged'
      (mergeRuns_of_aggregateRuns accepted) (mergeRuns_of_aggregateRuns accepted')
  refine ⟨suffices_, fun ⟨merged, passed⟩ => provenance_iff hash shards passed, fun every => ?_⟩
  refine ⟨fun provenance => ?_, suffices_⟩
  obtain ⟨merged, accepted⟩ := every runs (List.Perm.refl _)
  refine (provenance_iff hash shards (mergeRuns_of_aggregateRuns accepted)).mp ?_
  intro runs' perm merged merged' passed passed'
  obtain ⟨first, accepted⟩ := every runs (List.Perm.refl _)
  obtain ⟨second, accepted'⟩ := every runs' perm
  cases passed.symm.trans (mergeRuns_of_aggregateRuns accepted)
  cases passed'.symm.trans (mergeRuns_of_aggregateRuns accepted')
  exact provenance runs' perm merged merged' accepted accepted'

end

/-- The small machine in one replicate, with a result the catalog does not know. -/
def stragglerShard (replicateIndex : Nat) (value : ℚ) : Run :=
  { smallShard with
    replicateIndex := some replicateIndex
    providers := [{ smallRow with uncatalogued := [⟨"x", value, none, none, "f"⟩] }] }

/-- Each row's stragglers, where the shards merge to a valid Run. -/
def stragglersPublished (runs : List Run) : Option (List (String × List UncataloguedResult)) :=
  (aggregateRuns plainRuntime plainCatalog runs).toOption.map (fun run =>
    run.providers.map (fun row => (row.providerId, row.uncatalogued)))

lemma exists_published {runs : List Run} {published : List (String × List UncataloguedResult)}
    (h : stragglersPublished runs = some published) :
    ∃ merged, aggregateRuns plainRuntime plainCatalog runs = .ok merged ∧
      merged.providers.map (fun row => (row.providerId, row.uncatalogued)) = published := by
  unfold stragglersPublished at h
  cases merges : aggregateRuns plainRuntime plainCatalog runs with
  | error e => simp [merges, Except.toOption] at h
  | ok merged =>
    simp only [merges, Except.toOption, Option.map_some, Option.some.injEq] at h
    exact ⟨merged, rfl, h⟩

/-- Two replicates measured the same result: the first shard's value is published. -/
theorem aggregateRuns_first_straggler :
    (∀ run ∈ [stragglerShard 0 1, stragglerShard 1 2], (parseRun plainCatalog run).isOk = true) ∧
    ¬ Provenance (aggregateRuns plainRuntime plainCatalog) plainRuntime
      [stragglerShard 0 1, stragglerShard 1 2] := by
  refine ⟨by decide +kernel, fun provenance => ?_⟩
  have one : stragglersPublished [stragglerShard 0 1, stragglerShard 1 2] =
    some [("e2b", [⟨"x", 1, none, none, "f"⟩])] := by decide +kernel
  have two : stragglersPublished [stragglerShard 1 2, stragglerShard 0 1] =
    some [("e2b", [⟨"x", 2, none, none, "f"⟩])] := by decide +kernel
  obtain ⟨merged, accepted, rows⟩ := exists_published one
  obtain ⟨merged', accepted', rows'⟩ := exists_published two
  have same := (provenance _ (List.Perm.swap _ _ _) merged merged' accepted accepted').1
  obtain ⟨row, rest, some⟩ := List.exists_cons_of_ne_nil
    (show merged.providers ≠ [] from fun none => by simp [none] at rows)
  obtain ⟨row', rest', some'⟩ := List.exists_cons_of_ne_nil
    (show merged'.providers ≠ [] from fun none => by simp [none] at rows')
  simp only [some, List.map_cons, List.cons.injEq, Prod.mk.injEq] at rows
  simp only [some', List.map_cons, List.cons.injEq, Prod.mk.injEq] at rows'
  have moved := (same.uncatalogued row (by simp [some]) row' (by simp [some'])
    (rows.1.1.trans rows'.1.1.symm) ⟨"x", 1, none, none, "f"⟩).mp (by simp [rows.1.2])
  rw [rows'.1.2] at moved
  exact absurd moved (by decide +kernel)

/-- Two replicates that agree merge in the one order there is. -/
theorem aggregateRuns_provenance_sample :
    Provenance (aggregateRuns plainRuntime plainCatalog) plainRuntime
        (List.replicate 2 (stragglerShard 0 1)) ↔
      ∀ providerId, Settled plainRuntime (List.replicate 2 (stragglerShard 0 1)) providerId := by
  refine (aggregateRuns_provenance Function.injective_id ?_).2.2 ?_
  · intro run hr row hrow record hrecord
    obtain rfl := List.eq_of_mem_replicate hr
    obtain rfl := List.mem_singleton.mp hrow
    cases hrecord
  · intro runs' perm
    rw [List.perm_comm, List.perm_replicate] at perm
    subst perm
    have published : stragglersPublished (List.replicate 2 (stragglerShard 0 1)) =
      some [("e2b", [⟨"x", 1, none, none, "f"⟩])] := by decide +kernel
    obtain ⟨merged, accepted, _⟩ := exists_published published
    exact ⟨merged, accepted⟩

end Aggregate
