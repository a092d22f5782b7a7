import Mathlib.Data.List.Pairwise
import SandboxBenchmarks.Aggregate

/-!
# What each fold of a merge computes

The pass over a provider's slices runs independent folds side by side. Each one
has a closed form in the list it folds, and the ones that may throw accept a list
exactly when its elements are pairwise compatible.
-/

namespace Aggregate

open CanonicalJson Checks JsonText RunModel

variable {runtime : Runtime} {catalog : Catalog}

/-! ### Evidence -/

section
variable {ε : Type} {kind : EvidenceKind ε}

def canonicalEvidence (runtime : Runtime) (kind : EvidenceKind ε) (record : ε) :
    Except String String :=
  canonicalJsonString runtime.toJsonRuntime providerEvidenceJsonLimits (kind.toJson record)

/-- Two records of one cell say the same, and a sandbox belongs to one cell. -/
structure Agree (runtime : Runtime) (kind : EvidenceKind ε) (r s : ε) : Prop where
  same : kind.key r = kind.key s →
    ∃ json, canonicalEvidence runtime kind r = .ok json ∧ canonicalEvidence runtime kind s = .ok json
  sandbox : ∀ x, kind.sandboxId r = some x → kind.sandboxId s = some x → kind.key r = kind.key s

lemma Agree.symm {r s : ε} (h : Agree runtime kind r s) : Agree runtime kind s r where
  same := by
    intro keys
    obtain ⟨json, hr, hs⟩ := h.same keys.symm
    exact ⟨json, hs, hr⟩
  sandbox := fun x hs hr => (h.sandbox x hr hs).symm

instance : Std.Symm (Agree runtime kind) := ⟨fun _ _ h => h.symm⟩

/-- The file after `records`: the first of each cell, and the cell of each sandbox. -/
structure Filed (kind : EvidenceKind ε) (records : List ε) (file : EvidenceFile ε) : Prop where
  nodup : (file.byCell.map Prod.fst).Nodup
  byCell : ∀ k, Keyed.get? file.byCell k = records.find? (fun r => kind.key r = k)
  sandboxes : ∀ x k, Keyed.get? file.sandboxCells x = some k ↔
    ∃ r ∈ records, kind.sandboxId r = some x ∧ kind.key r = k

lemma filed_nil : Filed kind [] (⟨[], []⟩ : EvidenceFile ε) where
  nodup := List.nodup_nil
  byCell _ := rfl
  sandboxes x k := by simp [Keyed.get?]

lemma fileByCell_ok {byCell byCell' : List (String × ε)} {record : ε}
    (h : fileByCell runtime kind byCell record = .ok byCell') :
    (Keyed.get? byCell (kind.key record) = none ∧
        byCell' = Keyed.set byCell (kind.key record) record) ∨
      ∃ existing json, Keyed.get? byCell (kind.key record) = some existing ∧
        canonicalEvidence runtime kind existing = .ok json ∧
        canonicalEvidence runtime kind record = .ok json ∧ byCell' = byCell := by
  unfold fileByCell at h
  split at h
  · rename_i fresh
    exact Or.inl ⟨fresh, (pure_eq_ok.mp h).symm⟩
  · rename_i existing found
    simp only [bind_eq_ok, throwIf_eq_ok, not_not, pure_eq_ok] at h
    obtain ⟨known, hknown, json, hjson, _, rfl, rfl⟩ := h
    exact Or.inr ⟨existing, known, found, hknown, hjson, rfl⟩

lemma fileSandbox_ok {sandboxCells sandboxCells' : List (String × String)} {record : ε}
    (h : fileSandbox kind sandboxCells record = .ok sandboxCells') :
    (kind.sandboxId record = none ∧ sandboxCells' = sandboxCells) ∨
      ∃ x, kind.sandboxId record = some x ∧
        (∀ prior, Keyed.get? sandboxCells x = some prior → prior = kind.key record) ∧
        sandboxCells' = Keyed.set sandboxCells x (kind.key record) := by
  unfold fileSandbox at h
  split at h
  · rename_i absent
    exact Or.inl ⟨absent, (pure_eq_ok.mp h).symm⟩
  · rename_i x present
    simp only [bind_eq_ok, throwIf_eq_ok, pure_eq_ok] at h
    obtain ⟨_, fits, rfl⟩ := h
    refine Or.inr ⟨x, present, ?_, rfl⟩
    intro prior hprior
    simpa [hprior] using fits

/-- Filing one more record keeps the first of its cell. -/
lemma fileEvidence_keeps {records : List ε} {file file' : EvidenceFile ε} {record : ε}
    (filed : Filed kind records file) (h : fileEvidence runtime kind file record = .ok file') :
    Filed kind (records ++ [record]) file' := by
  simp only [fileEvidence, bind_eq_ok, pure_eq_ok] at h
  obtain ⟨byCell, cellOk, sandboxCells, sandboxOk, rfl⟩ := h
  have cells : (byCell.map Prod.fst).Nodup ∧ ∀ k, Keyed.get? byCell k =
      (records ++ [record]).find? (fun r => kind.key r = k) := by
    rcases fileByCell_ok cellOk with ⟨fresh, rfl⟩ | ⟨existing, _, found, _, _, rfl⟩
    · refine ⟨Keyed.nodup_keys_set filed.nodup _ _, ?_⟩
      intro k
      rw [filed.byCell] at fresh
      rw [Keyed.get?_set, List.find?_append, filed.byCell]
      by_cases here : kind.key record = k
      · subst here
        simp [fresh]
      · simp [here]
    · refine ⟨filed.nodup, ?_⟩
      intro k
      rw [List.find?_append, filed.byCell]
      by_cases here : kind.key record = k
      · subst here
        rw [filed.byCell] at found
        simp [found]
      · simp [here]
  refine ⟨cells.1, cells.2, ?_⟩
  intro x k
  simp only [List.mem_append, List.mem_singleton, or_and_right, exists_or, exists_eq_left]
  rcases fileSandbox_ok sandboxOk with ⟨absent, rfl⟩ | ⟨y, present, fits, rfl⟩
  · simp only [filed.sandboxes, absent, reduceCtorEq, false_and, or_false]
  · rw [Keyed.get?_set, present, Option.some.injEq]
    by_cases here : y = x
    · subst here
      simp only [if_true, Option.some.injEq, true_and]
      constructor
      · exact Or.inr
      · rintro (earlier | rfl)
        · exact (fits k ((filed.sandboxes y k).mpr earlier)).symm
        · rfl
    · simp only [here, if_false, filed.sandboxes, false_and, or_false]

/-- A record is filed exactly when it agrees with every record before it. -/
lemma fileEvidence_accepts {records : List ε} {file : EvidenceFile ε} {record : ε}
    (passed : records.Pairwise (Agree runtime kind)) (filed : Filed kind records file) :
    (∃ file', fileEvidence runtime kind file record = .ok file') ↔
      ∀ r ∈ records, Agree runtime kind r record := by
  constructor
  · rintro ⟨file', h⟩ r hr
    simp only [fileEvidence, bind_eq_ok, pure_eq_ok] at h
    obtain ⟨byCell, cellOk, sandboxCells, sandboxOk, rfl⟩ := h
    refine ⟨?_, ?_⟩
    · intro keys
      rcases fileByCell_ok cellOk with ⟨fresh, _⟩ | ⟨existing, json, found, known, here, _⟩
      · rw [filed.byCell, List.find?_eq_none] at fresh
        exact absurd keys (by simpa using fresh r hr)
      · rw [filed.byCell] at found
        have existingKey : kind.key existing = kind.key record := by
          simpa using List.find?_some found
        by_cases same : r = existing
        · exact ⟨json, same ▸ known, here⟩
        · have agree := passed.forall hr (List.mem_of_find?_eq_some found) same
          obtain ⟨json', hr', hexisting⟩ := agree.same (keys.trans existingKey.symm)
          have : json' = json := Except.ok.inj (hexisting.symm.trans known)
          exact ⟨json, this ▸ hr', here⟩
    · intro x rx recordx
      rcases fileSandbox_ok sandboxOk with ⟨absent, _⟩ | ⟨y, present, fits, _⟩
      · simp [recordx] at absent
      · have : y = x := Option.some.inj (present.symm.trans recordx)
        subst this
        exact fits _ ((filed.sandboxes y _).mpr ⟨r, hr, rx, rfl⟩)
  · intro agree
    have cellOk : ∃ byCell, fileByCell runtime kind file.byCell record = .ok byCell := by
      unfold fileByCell
      cases found : Keyed.get? file.byCell (kind.key record) with
      | none => exact ⟨_, rfl⟩
      | some existing =>
        rw [filed.byCell] at found
        have existingKey : kind.key existing = kind.key record := by
          simpa using List.find?_some found
        obtain ⟨json, known, here⟩ :=
          (agree existing (List.mem_of_find?_eq_some found)).same existingKey
        rw [canonicalEvidence] at known here
        exact ⟨file.byCell, by simp [known, here, throwIf, pure, Except.pure]⟩
    have sandboxOk : ∃ cells, fileSandbox kind file.sandboxCells record = .ok cells := by
      unfold fileSandbox
      cases present : kind.sandboxId record with
      | none => exact ⟨_, rfl⟩
      | some x =>
        refine ⟨Keyed.set file.sandboxCells x (kind.key record), ?_⟩
        simp only [bind_eq_ok, throwIf_eq_ok, pure_eq_ok, and_true, exists_const]
        cases prior : Keyed.get? file.sandboxCells x with
        | none => simp
        | some k =>
          obtain ⟨r, hr, rx, rfl⟩ := (filed.sandboxes x k).mp prior
          simpa using (agree r hr).sandbox x rx present
    obtain ⟨byCell, cellOk⟩ := cellOk
    obtain ⟨cells, sandboxOk⟩ := sandboxOk
    exact ⟨⟨byCell, cells⟩, by simp [fileEvidence, cellOk, sandboxOk, pure, Except.pure]⟩

theorem fileEvidence_run_iff (records : List ε) :
    (∃ file, records.foldlM (fileEvidence runtime kind) ⟨[], []⟩ = .ok file) ↔
      records.Pairwise (Agree runtime kind) := by
  apply foldlM_pairwise (Filed kind) filed_nil
  · intro _ _ _ passed filed
    exact fileEvidence_accepts passed filed
  · intro _ _ _ _ filed step
    exact fileEvidence_keeps filed step

theorem fileEvidence_run {records : List ε} {file : EvidenceFile ε}
    (h : records.foldlM (fileEvidence runtime kind) ⟨[], []⟩ = .ok file) :
    Filed kind records file := by
  refine foldlM_invariant (Filed kind) filed_nil ?_ h
  intro _ _ _ _ _ _ filed step
  exact fileEvidence_keeps filed step

/-- What evidence says, whatever the order of its fields. -/
def evidenceForm (runtime : Runtime) (kind : EvidenceKind ε) (record : ε) : Value :=
  sortKeys (keyOrder runtime.toJsonRuntime) (kind.toJson record)

lemma Agree.form_eq {r s : ε} (h : Agree runtime kind r s) (keys : kind.key r = kind.key s) :
    evidenceForm runtime kind r = evidenceForm runtime kind s := by
  obtain ⟨json, hr, hs⟩ := h.same keys
  exact canonicalJsonString_injective hr hs

lemma find?_key_of_perm {records records' : List ε} (h : records.Perm records') {k : String}
    {r : ε} (found : records.find? (fun r => kind.key r = k) = some r) :
    ∃ r' ∈ records, kind.key r' = k ∧ records'.find? (fun r => kind.key r = k) = some r' := by
  cases found' : records'.find? (fun r => kind.key r = k) with
  | none =>
    rw [List.find?_eq_none] at found'
    have hr := h.mem_iff.mp (List.mem_of_find?_eq_some found)
    exact absurd (List.find?_some found) (found' r hr)
  | some r' =>
    refine ⟨r', h.mem_iff.mpr (List.mem_of_find?_eq_some found'), ?_, rfl⟩
    simpa using List.find?_some found'

/-- In whatever order compatible records come, the same evidence is kept. -/
theorem Filed.perm {records records' : List ε} {file file' : EvidenceFile ε}
    (h : records.Perm records') (passed : records.Pairwise (Agree runtime kind))
    (filed : Filed kind records file) (filed' : Filed kind records' file') :
    (file.byCell.map (fun e => evidenceForm runtime kind e.2)).Perm
      (file'.byCell.map (fun e => evidenceForm runtime kind e.2)) := by
  apply Keyed.values_perm filed.nodup filed'.nodup
  intro k
  rw [filed.byCell, filed'.byCell]
  cases found : records.find? (fun r => kind.key r = k) with
  | none =>
    cases found' : records'.find? (fun r => kind.key r = k) with
    | none => rfl
    | some r' =>
      obtain ⟨r, _, _, other⟩ := find?_key_of_perm h.symm found'
      rw [found] at other
      cases other
  | some r =>
    obtain ⟨r', hr', key', found'⟩ := find?_key_of_perm h found
    have key : kind.key r = k := by simpa using List.find?_some found
    rw [found', Option.map_some, Option.map_some, Option.some.injEq]
    by_cases same : r = r'
    · rw [same]
    · have agree := passed.forall (List.mem_of_find?_eq_some found) hr' same
      exact agree.form_eq (key.trans key'.symm)

end

/-! ### Mixtures -/

section
variable {keys : List String}

/-- Readings of one id are readings of one content. -/
def SameShape (runtime : Runtime) (keys : List String) (r s : ObservedSpecs) : Prop :=
  ∀ c d, categoryOf runtime r keys = some c → categoryOf runtime s keys = some d →
    c.id = d.id → c.canonical = d.canonical

instance : Std.Symm (SameShape runtime keys) :=
  ⟨fun _ _ h c d hc hd ids => (h d c hd hc ids.symm).symm⟩

/-- The category readings of one id, in order. -/
def readingsOf (runtime : Runtime) (keys : List String) (readings : List ObservedSpecs)
    (id : String) : List Category :=
  (readings.filterMap (fun r => categoryOf runtime r keys)).filter (fun c => c.id == id)

structure Tallied (runtime : Runtime) (keys : List String) (readings : List ObservedSpecs)
    (byId : List (String × Tally)) : Prop where
  nodup : (byId.map Prod.fst).Nodup
  counts : ∀ id, Keyed.get? byId id = (readingsOf runtime keys readings id).head?.map
    (fun c => ⟨c.canonical, (readingsOf runtime keys readings id).length, c.specs⟩)

lemma tallied_nil : Tallied runtime keys [] [] where
  nodup := List.nodup_nil
  counts _ := rfl

lemma readingsOf_snoc_none {readings : List ObservedSpecs} {r : ObservedSpecs}
    (h : categoryOf runtime r keys = none) (id : String) :
    readingsOf runtime keys (readings ++ [r]) id = readingsOf runtime keys readings id := by
  simp [readingsOf, h]

lemma readingsOf_snoc_some {readings : List ObservedSpecs} {r : ObservedSpecs} {c : Category}
    (h : categoryOf runtime r keys = some c) (id : String) :
    readingsOf runtime keys (readings ++ [r]) id =
      readingsOf runtime keys readings id ++ if c.id = id then [c] else [] := by
  by_cases here : c.id = id
  · simp [readingsOf, h, here]
  · simp [readingsOf, h, here]

lemma tallyReading_keeps {readings : List ObservedSpecs} {byId byId' : List (String × Tally)}
    {r : ObservedSpecs} (tallied : Tallied runtime keys readings byId)
    (h : tallyReading runtime keys byId r = .ok byId') :
    Tallied runtime keys (readings ++ [r]) byId' := by
  unfold tallyReading at h
  split at h
  · rename_i silent
    rw [pure_eq_ok] at h
    subst h
    refine ⟨tallied.nodup, ?_⟩
    intro id
    rw [readingsOf_snoc_none silent]
    exact tallied.counts id
  · rename_i category disclosed
    have here := tallied.counts category.id
    split at h
    · rename_i fresh
      rw [pure_eq_ok] at h
      subst h
      refine ⟨Keyed.nodup_keys_set tallied.nodup _ _, ?_⟩
      intro id
      rw [Keyed.get?_set, readingsOf_snoc_some disclosed]
      by_cases same : category.id = id
      · subst same
        rw [fresh, eq_comm, Option.map_eq_none_iff, List.head?_eq_none_iff] at here
        simp [here]
      · simp [same, tallied.counts id]
    · rename_i existing found
      simp only [bind_eq_ok, throwIf_eq_ok, not_not, pure_eq_ok] at h
      obtain ⟨_, same, rfl⟩ := h
      refine ⟨Keyed.nodup_keys_set tallied.nodup _ _, ?_⟩
      intro id
      rw [Keyed.get?_set, readingsOf_snoc_some disclosed]
      by_cases at_id : category.id = id
      · subst at_id
        rw [found, eq_comm, Option.map_eq_some_iff] at here
        obtain ⟨first, head, rfl⟩ := here
        simp [List.head?_append, head]
      · simp [at_id, tallied.counts id]

/-- A reading is counted exactly when it collides with none before it. -/
lemma tallyReading_accepts {readings : List ObservedSpecs} {byId : List (String × Tally)}
    {r : ObservedSpecs} (passed : readings.Pairwise (SameShape runtime keys))
    (tallied : Tallied runtime keys readings byId) :
    (∃ byId', tallyReading runtime keys byId r = .ok byId') ↔
      ∀ s ∈ readings, SameShape runtime keys s r := by
  cases disclosed : categoryOf runtime r keys with
  | none =>
    simp only [tallyReading, disclosed, SameShape]
    exact ⟨by simp, fun _ => ⟨byId, rfl⟩⟩
  | some category =>
    have shape : (∀ s ∈ readings, SameShape runtime keys s r) ↔
        ∀ c ∈ readingsOf runtime keys readings category.id, c.canonical = category.canonical := by
      simp only [readingsOf, List.mem_filter, List.mem_filterMap, beq_iff_eq, SameShape, disclosed,
        Option.some.injEq]
      constructor
      · rintro h c ⟨⟨s, hs, hc⟩, ids⟩
        exact h s hs c category hc rfl ids
      · rintro h s hs c d hc rfl ids
        exact h c ⟨⟨s, hs, hc⟩, ids⟩
    have here := tallied.counts category.id
    cases found : Keyed.get? byId category.id with
    | none =>
      rw [found, eq_comm, Option.map_eq_none_iff, List.head?_eq_none_iff] at here
      simp only [shape, here, tallyReading, disclosed, found]
      exact ⟨by simp, fun _ => ⟨_, rfl⟩⟩
    | some existing =>
      rw [found, eq_comm, Option.map_eq_some_iff] at here
      obtain ⟨first, head, rfl⟩ := here
      have firstMem := List.mem_of_mem_head? (Option.mem_def.mpr head)
      -- all earlier readings of this id have the content of the first
      have uniform : ∀ c ∈ readingsOf runtime keys readings category.id,
          c.canonical = first.canonical := by
        intro c hc
        simp only [readingsOf, List.mem_filter, List.mem_filterMap, beq_iff_eq] at hc firstMem
        obtain ⟨⟨s, hs, cs⟩, cid⟩ := hc
        obtain ⟨⟨t, ht, ct⟩, tid⟩ := firstMem
        by_cases same : s = t
        · subst same
          rw [Option.some.inj (cs.symm.trans ct)]
        · exact passed.forall hs ht same c first cs ct (cid.trans tid.symm)
      simp only [shape, tallyReading, disclosed, found, bind_eq_ok, throwIf_eq_ok, not_not,
        pure_eq_ok]
      constructor
      · rintro ⟨_, _, same, _⟩ c hc
        exact (uniform c hc).trans same
      · intro all
        exact ⟨_, (), all first firstMem, rfl⟩

lemma tallyReading_total {readings : List ObservedSpecs} {byId byId' : List (String × Tally)}
    {r : ObservedSpecs}
    (total : (byId.map (fun e => e.2.count)).sum =
      (readings.filterMap (fun r => categoryOf runtime r keys)).length)
    (h : tallyReading runtime keys byId r = .ok byId') :
    (byId'.map (fun e => e.2.count)).sum =
      ((readings ++ [r]).filterMap (fun r => categoryOf runtime r keys)).length := by
  unfold tallyReading at h
  split at h
  · rename_i silent
    rw [pure_eq_ok] at h
    subst h
    simp [total, silent]
  · rename_i category disclosed
    split at h
    · rename_i fresh
      rw [pure_eq_ok] at h
      subst h
      have weight := Keyed.sum_set Tally.count byId category.id
        ⟨category.canonical, 1, category.specs⟩
      simp only [fresh, Option.map_none, Option.getD_none] at weight
      simp only [List.filterMap_append, List.length_append, ← total]
      simpa [disclosed] using weight
    · rename_i existing found
      simp only [bind_eq_ok, throwIf_eq_ok, pure_eq_ok] at h
      obtain ⟨_, _, rfl⟩ := h
      have weight := Keyed.sum_set Tally.count byId category.id
        { existing with count := existing.count + 1 }
      simp only [found, Option.map_some, Option.getD_some] at weight
      simp only [List.filterMap_append, List.length_append, ← total]
      simp only [disclosed, List.filterMap_cons, List.filterMap_nil, List.length_singleton]
      omega

theorem tallyReading_run_iff (readings : List ObservedSpecs) :
    (∃ byId, readings.foldlM (tallyReading runtime keys) [] = .ok byId) ↔
      readings.Pairwise (SameShape runtime keys) := by
  apply foldlM_pairwise (Tallied runtime keys) tallied_nil
  · intro _ _ _ passed tallied
    exact tallyReading_accepts passed tallied
  · intro _ _ _ _ tallied step
    exact tallyReading_keeps tallied step

theorem tallyReading_run {readings : List ObservedSpecs} {byId : List (String × Tally)}
    (h : readings.foldlM (tallyReading runtime keys) [] = .ok byId) :
    Tallied runtime keys readings byId ∧ (byId.map (fun e => e.2.count)).sum =
      (readings.filterMap (fun r => categoryOf runtime r keys)).length := by
  refine foldlM_invariant (fun readings byId => Tallied runtime keys readings byId ∧
    (byId.map (fun e => e.2.count)).sum =
      (readings.filterMap (fun r => categoryOf runtime r keys)).length) ⟨tallied_nil, rfl⟩ ?_ h
  rintro _ _ _ _ _ _ ⟨tallied, total⟩ step
  exact ⟨tallyReading_keeps tallied step, tallyReading_total total step⟩

/-! #### Content determines a mixture -/

lemma entryJson_injective : Function.Injective entryJson := by
  rintro ⟨key, value⟩ ⟨key', value'⟩ h
  simp only [entryJson, Value.arr.injEq, List.cons.injEq, Value.str.injEq, and_true] at h
  obtain ⟨rfl, values⟩ := h
  cases value with
  | number q =>
    cases value' with
    | number q' => simpa [SpecValue.toJson] using values
    | text s' => cases values
  | text s =>
    cases value' with
    | number q' => cases values
    | text s' => simpa [SpecValue.toJson] using values

lemma canonicalEntries_injective : Function.Injective (canonicalEntries runtime) := by
  intro a b h
  have texts := text_injective (String.ofList_injective h)
  exact List.map_injective_iff.mpr entryJson_injective (Value.arr.inj texts)

structure Disclosed (runtime : Runtime) (keys : List String) (reading : ObservedSpecs)
    (c : Category) : Prop where
  specs : c.specs = categoryEntries reading keys
  nonempty : c.specs ≠ []
  canonical : c.canonical = canonicalEntries runtime c.specs
  id : c.id = contentId runtime c.canonical

lemma categoryOf_some {reading : ObservedSpecs} {c : Category}
    (h : categoryOf runtime reading keys = some c) : Disclosed runtime keys reading c := by
  unfold categoryOf at h
  split at h
  · cases h
  · rename_i entries nonempty
    simp only [Option.some.injEq] at h
    subst h
    exact ⟨rfl, nonempty, rfl, rfl⟩

lemma category_eq {r s : ObservedSpecs} {c d : Category}
    (hc : categoryOf runtime r keys = some c) (hd : categoryOf runtime s keys = some d)
    (same : c.canonical = d.canonical) : c = d := by
  have hc := categoryOf_some hc
  have hd := categoryOf_some hd
  have specs : c.specs = d.specs :=
    canonicalEntries_injective (hc.canonical.symm.trans (same.trans hd.canonical))
  have ids : c.id = d.id := by rw [hc.id, hd.id, same]
  cases c
  cases d
  simp_all

lemma mem_readingsOf {readings : List ObservedSpecs} {id : String} {c : Category} :
    c ∈ readingsOf runtime keys readings id ↔
      (∃ r ∈ readings, categoryOf runtime r keys = some c) ∧ c.id = id := by
  simp [readingsOf]

lemma readingsOf_unique {readings : List ObservedSpecs}
    (passed : readings.Pairwise (SameShape runtime keys)) {id : String} {c d : Category}
    (hc : c ∈ readingsOf runtime keys readings id) (hd : d ∈ readingsOf runtime keys readings id) :
    c = d := by
  obtain ⟨⟨r, hr, cr⟩, cid⟩ := mem_readingsOf.mp hc
  obtain ⟨⟨s, hs, ds⟩, did⟩ := mem_readingsOf.mp hd
  by_cases same : r = s
  · subst same
    exact Option.some.inj (cr.symm.trans ds)
  · exact category_eq cr ds (passed.forall hr hs same c d cr ds (cid.trans did.symm))

/-! #### Dominance -/

def tallyOrder (a b : String × Tally) : Prop := byDominance (a.1, a.2.count) (b.1, b.2.count) = true

lemma tallyOrder_iff {a b : String × Tally} : tallyOrder a b ↔
    b.2.count < a.2.count ∨
      a.2.count = b.2.count ∧ CodeUnits.units a.1 ≤ CodeUnits.units b.1 := by
  simp [tallyOrder, byDominance, CodeUnits.le, CodeUnits.lt]

instance : DecidableRel tallyOrder := fun _ _ => inferInstanceAs (Decidable (_ = true))

instance : Std.Total tallyOrder where
  total a b := by
    simp only [tallyOrder_iff]
    have ids := le_total (CodeUnits.units a.1) (CodeUnits.units b.1)
    rcases lt_trichotomy a.2.count b.2.count with h | h | h
    · exact Or.inr (Or.inl h)
    · exact ids.imp (fun le => Or.inr ⟨h, le⟩) (fun le => Or.inr ⟨h.symm, le⟩)
    · exact Or.inl (Or.inl h)

instance : IsTrans (String × Tally) tallyOrder where
  trans a b c hab hbc := by
    simp only [tallyOrder_iff] at *
    rcases hab with ab | ⟨ab, idsAb⟩
    · rcases hbc with bc | ⟨bc, _⟩
      · exact Or.inl (bc.trans ab)
      · exact Or.inl (bc ▸ ab)
    · rcases hbc with bc | ⟨bc, idsBc⟩
      · exact Or.inl (ab ▸ bc)
      · exact Or.inr ⟨ab.trans bc, idsAb.trans idsBc⟩

lemma tallyOrder_antisymm {a b : String × Tally} (hab : tallyOrder a b) (hba : tallyOrder b a) :
    a.1 = b.1 := by
  rw [tallyOrder_iff] at hab hba
  have ids : CodeUnits.units a.1 = CodeUnits.units b.1 := by
    rcases hab with ab | ⟨ab, idsAb⟩
    · rcases hba with ba | ⟨ba, _⟩
      · omega
      · omega
    · rcases hba with ba | ⟨_, idsBa⟩
      · omega
      · exact le_antisymm idsAb idsBa
  exact CodeUnits.units_injective ids

lemma tallyCategory_ok {readings : List ObservedSpecs} {tally : List (String × Tally)}
    (h : tallyCategory runtime readings keys = .ok tally) :
    ∃ byId, readings.foldlM (tallyReading runtime keys) [] = .ok byId ∧
      tally = byId.insertionSort tallyOrder := by
  simp only [tallyCategory, bind_eq_ok, pure_eq_ok] at h
  obtain ⟨byId, counted, rfl⟩ := h
  exact ⟨byId, counted, rfl⟩

theorem tallyCategory_ok_iff (readings : List ObservedSpecs) :
    (∃ tally, tallyCategory runtime readings keys = .ok tally) ↔
      readings.Pairwise (SameShape runtime keys) := by
  rw [← tallyReading_run_iff]
  constructor
  · rintro ⟨tally, h⟩
    obtain ⟨byId, counted, _⟩ := tallyCategory_ok h
    exact ⟨byId, counted⟩
  · rintro ⟨byId, counted⟩
    exact ⟨_, by simp only [tallyCategory, counted, ok_bind]; rfl⟩

/-- The tally does not depend on the order of the readings. -/
theorem tallyCategory_perm {readings readings' : List ObservedSpecs}
    (h : readings.Perm readings') {tally tally' : List (String × Tally)}
    (ok : tallyCategory runtime readings keys = .ok tally)
    (ok' : tallyCategory runtime readings' keys = .ok tally') : tally = tally' := by
  have passed := (tallyCategory_ok_iff readings).mp ⟨tally, ok⟩
  obtain ⟨byId, counted, rfl⟩ := tallyCategory_ok ok
  obtain ⟨byId', counted', rfl⟩ := tallyCategory_ok ok'
  obtain ⟨tallied, _⟩ := tallyReading_run counted
  obtain ⟨tallied', _⟩ := tallyReading_run counted'
  have same : ∀ id, Keyed.get? byId id = Keyed.get? byId' id := by
    intro id
    have members : (readingsOf runtime keys readings id).Perm
        (readingsOf runtime keys readings' id) := (h.filterMap _).filter _
    rw [tallied.counts, tallied'.counts, members.length_eq]
    cases head : (readingsOf runtime keys readings id).head? with
    | none =>
      rw [List.head?_eq_none_iff] at head
      rw [head] at members
      rw [members.nil_eq.symm]
      rfl
    | some c =>
      have hc : c ∈ readingsOf runtime keys readings id := List.mem_of_mem_head? head
      cases head' : (readingsOf runtime keys readings' id).head? with
      | none =>
        rw [List.head?_eq_none_iff] at head'
        rw [members.mem_iff, head'] at hc
        cases hc
      | some d =>
        have hd : d ∈ readingsOf runtime keys readings' id := List.mem_of_mem_head? head'
        rw [readingsOf_unique passed hc (members.mem_iff.mpr hd)]
  apply Sorting.insertionSort_eq_of_perm (Keyed.perm_of_get?_eq tallied.nodup tallied'.nodup same)
  rintro ⟨id, t⟩ ht ⟨id', t'⟩ ht' le le'
  have ids : id = id' := tallyOrder_antisymm le le'
  subst ids
  have found := Keyed.get?_of_mem tallied.nodup ht
  rw [Keyed.get?_of_mem tallied.nodup ht'] at found
  rw [Option.some.inj found]

end

end Aggregate
