import Mathlib.Data.Multiset.Basic
import SandboxBenchmarks.AggregateParse

/-!
# Folded host records

The fold of host metadata joins records under a hash of what they report. What a
folded record says is decided by its class of records: the first of them, the
last of them, and their number.
-/

namespace Aggregate

open CanonicalJson Checks JsonText PlanVerification RunModel RunSchema

variable {runtime : Runtime} {catalog : Catalog}

/-! ### What a record reports -/

def stableFields (record : HostMetadataRecord) : List HostMetadataField :=
  record.fields.filter (fun f => ! isVolatileHostMetadataPath f.path)

/-- Source, file, machine and network, and the multiset of non-volatile fields. -/
structure HostFacts where
  source : String
  sourceFile : String
  ids : ObservedMixtureIds
  fields : Multiset HostMetadataField
deriving DecidableEq

def factsOf (record : HostMetadataRecord) (ids : ObservedMixtureIds) : HostFacts :=
  ⟨record.source, record.sourceFile, ids, stableFields record⟩

abbrev HostMetadataRecordInput.facts (input : HostMetadataRecordInput) : HostFacts :=
  factsOf input.record input.ids

/-- Of a folded record, which names its machine itself. -/
abbrev publishedFacts (record : HostMetadataRecord) : HostFacts := factsOf record record.ids

/-- The fields in the order in which they are hashed. -/
def hashedFields (runtime : Runtime) (record : HostMetadataRecord) : List HostMetadataField :=
  byLocale runtime (·.path) (stableFields record)

def hostKey (runtime : Runtime) (input : HostMetadataRecordInput) : String :=
  hostMetadataKey runtime input.record input.ids (stableFields input.record)

lemma hashedFields_perm (record : HostMetadataRecord) :
    (hashedFields runtime record).Perm (stableFields record) :=
  List.perm_insertionSort _ _

lemma fieldsJson_injective : Function.Injective
    (fun f : HostMetadataField => Value.arr [.str f.path, .str f.value]) := by
  rintro ⟨path, value⟩ ⟨path', value'⟩ h
  simpa using h

lemma nullable_injective : Function.Injective
    (fun id : Option String => ((id.map Value.str).getD .null : Value)) := by
  intro a b h
  cases a with
  | none =>
    cases b with
    | none => rfl
    | some b => simp at h
  | some a =>
    cases b with
    | none => simp at h
    | some b => simpa using h

/-- The key tells records apart exactly by what is hashed. -/
lemma hostMetadataKey_eq_iff (hash : Function.Injective runtime.sha256)
    {r s : HostMetadataRecord} {ids ids' : ObservedMixtureIds} :
    hostMetadataKey runtime r ids (stableFields r) = hostMetadataKey runtime s ids' (stableFields s)
      ↔ r.source = s.source ∧ r.sourceFile = s.sourceFile ∧ ids = ids' ∧
        hashedFields runtime r = hashedFields runtime s := by
  constructor
  · intro same
    have json := text_injective (String.ofList_injective (hash same))
    simp only [Value.arr.injEq, List.cons.injEq, Value.str.injEq, and_true] at json
    obtain ⟨source, file, hardware, network, fields⟩ := json
    refine ⟨source, file, ?_, (List.map_injective_iff.mpr fieldsJson_injective) fields⟩
    obtain ⟨hw, net⟩ := ids
    obtain ⟨hw', net'⟩ := ids'
    exact congrArg₂ ObservedMixtureIds.mk (nullable_injective hardware) (nullable_injective network)
  · rintro ⟨source, file, rfl, fields⟩
    unfold hashedFields at fields
    simp only [hostMetadataKey, source, file, fields]

lemma hostKey_eq_iff (hash : Function.Injective runtime.sha256)
    {i j : HostMetadataRecordInput} : hostKey runtime i = hostKey runtime j ↔
      i.record.source = j.record.source ∧ i.record.sourceFile = j.record.sourceFile ∧
        i.ids = j.ids ∧ hashedFields runtime i.record = hashedFields runtime j.record :=
  hostMetadataKey_eq_iff hash

lemma facts_of_hostKey (hash : Function.Injective runtime.sha256)
    {i j : HostMetadataRecordInput} (same : hostKey runtime i = hostKey runtime j) :
    i.facts = j.facts := by
  obtain ⟨source, file, ids, fields⟩ := (hostKey_eq_iff hash).mp same
  have perm : (stableFields i.record).Perm (stableFields j.record) :=
    (hashedFields_perm i.record).symm.trans (fields ▸ hashedFields_perm j.record)
  simp only [HostMetadataRecordInput.facts, factsOf, source, file, ids, Multiset.coe_eq_coe.mpr perm]

lemma hostKey_of_facts (hash : Function.Injective runtime.sha256)
    {i j : HostMetadataRecordInput} (same : i.facts = j.facts)
    (sorted : hashedFields runtime i.record = hashedFields runtime j.record) :
    hostKey runtime i = hostKey runtime j := by
  simp only [HostMetadataRecordInput.facts, factsOf, HostFacts.mk.injEq] at same
  exact (hostKey_eq_iff hash).mpr ⟨same.1, same.2.1, same.2.2.1, sorted⟩

@[simp] lemma stableFields_of_stable (record : HostMetadataRecord) (sandboxes : Option Nat)
    (ids : ObservedMixtureIds) (other : HostMetadataRecord) :
    stableFields { record with sandboxes := sandboxes, fields := stableFields other, ids := ids } =
      stableFields other := by
  simp [stableFields, List.filter_filter]

/-! ### The record of a class -/

/-- What a class of records is folded to. -/
def folded : List HostMetadataRecordInput → Option HostMetadataRecord
  | [] => none
  | [only] =>
    some { only.record with sandboxes := some 1, ids := only.ids.over only.record.ids }
  | first :: second :: rest =>
    some { first.record with
      sandboxes := some (rest.length + 2)
      fields := stableFields ((second :: rest).getLast (List.cons_ne_nil _ _)).record
      ids := first.ids.over first.record.ids }

lemma folded_snoc {group : List HostMetadataRecordInput} (nonempty : group ≠ [])
    (x : HostMetadataRecordInput) : folded (group ++ [x]) = (folded group).map (fun existing =>
      { existing with
        sandboxes := some (existing.sandboxes.getD 1 + 1), fields := stableFields x.record }) := by
  match group, nonempty with
  | [only], _ => rfl
  | first :: second :: rest, _ => simp [folded, add_assoc]

def alike (runtime : Runtime) (k : String) (inputs : List HostMetadataRecordInput) :
    List HostMetadataRecordInput :=
  inputs.filter (fun i => hostKey runtime i = k)

lemma alike_snoc (k : String) (inputs : List HostMetadataRecordInput)
    (x : HostMetadataRecordInput) : alike runtime k (inputs ++ [x]) =
      alike runtime k inputs ++ if hostKey runtime x = k then [x] else [] := by
  by_cases here : hostKey runtime x = k
  · simp [alike, here]
  · simp [alike, here]

/-- The fold keeps one record for each class. -/
theorem get?_foldHost (k : String) (inputs : List HostMetadataRecordInput) :
    Keyed.get? (inputs.foldl (foldHostRecord runtime) []) k = folded (alike runtime k inputs) := by
  induction inputs using List.reverseRecOn generalizing k with
  | nil => rfl
  | append_singleton inputs x ih =>
    rw [List.foldl_append, List.foldl_cons, List.foldl_nil, alike_snoc]
    have own := ih (hostKey runtime x)
    simp only [foldHostRecord]
    rw [show hostMetadataKey runtime x.record x.ids
      (x.record.fields.filter (fun f => ! isVolatileHostMetadataPath f.path)) =
        hostKey runtime x from rfl]
    by_cases here : hostKey runtime x = k
    · subst here
      cases found : Keyed.get? (inputs.foldl (foldHostRecord runtime) []) (hostKey runtime x) with
      | none =>
        rw [found] at own
        have empty : alike runtime (hostKey runtime x) inputs = [] := by
          cases class_ : alike runtime (hostKey runtime x) inputs with
          | nil => rfl
          | cons first rest => cases rest <;> simp [class_, folded] at own
        simp [empty, folded]
      | some existing =>
        rw [found] at own
        have nonempty : alike runtime (hostKey runtime x) inputs ≠ [] := by
          intro empty
          simp [empty, folded] at own
        rw [if_pos rfl, folded_snoc nonempty, ← own, Keyed.get?_set, if_pos rfl]
        rfl
    · rw [if_neg here, List.append_nil, ← ih k]
      split
      · rw [Keyed.get?_set, if_neg here]
      · rw [Keyed.get?_set, if_neg here]

lemma nodup_foldHost (inputs : List HostMetadataRecordInput) :
    ((inputs.foldl (foldHostRecord runtime) []).map Prod.fst).Nodup := by
  induction inputs using List.reverseRecOn with
  | nil => exact List.nodup_nil
  | append_singleton inputs x ih =>
    rw [List.foldl_append, List.foldl_cons, List.foldl_nil, foldHostRecord]
    split
    · exact Keyed.nodup_keys_set ih _ _
    · exact Keyed.nodup_keys_set ih _ _

theorem mem_foldHost {inputs : List HostMetadataRecordInput} {r : HostMetadataRecord} :
    r ∈ foldHostMetadata runtime inputs ↔ ∃ k, folded (alike runtime k inputs) = some r := by
  simp only [foldHostMetadata, List.mem_map, Prod.exists, exists_eq_right, ← get?_foldHost]
  exact exists_congr fun k => ⟨Keyed.get?_of_mem (nodup_foldHost inputs), Keyed.mem_of_get?⟩

/-- How a folded record comes from its class. -/
structure FoldedFrom (group : List HostMetadataRecordInput) (r : HostMetadataRecord) : Prop where
  count : r.sandboxes = some group.length
  first : ∃ i ∈ group, r.source = i.record.source ∧ r.sourceFile = i.record.sourceFile ∧
    r.ids = i.ids.over i.record.ids
  last : ∃ i, group.getLast? = some i ∧ stableFields r = stableFields i.record
  only : ∀ i, group = [i] → r.fields = i.record.fields
  several : 2 ≤ group.length → ∃ i, group.getLast? = some i ∧ r.fields = stableFields i.record

lemma foldedFrom {group : List HostMetadataRecordInput} {r : HostMetadataRecord}
    (h : folded group = some r) : FoldedFrom group r := by
  match group with
  | [] => cases h
  | [only] =>
    cases h
    refine ⟨rfl, ⟨only, List.mem_singleton.mpr rfl, rfl, rfl, rfl⟩, ⟨only, rfl, rfl⟩, ?_, ?_⟩
    · intro i single
      cases single
      rfl
    · intro many
      simp at many
  | first :: second :: rest =>
    cases h
    refine ⟨rfl, ⟨first, List.mem_cons_self, rfl, rfl, rfl⟩,
      ⟨_, List.getLast?_eq_getLast_of_ne_nil (List.cons_ne_nil _ _), ?_⟩, ?_,
      fun _ => ⟨_, List.getLast?_eq_getLast_of_ne_nil (List.cons_ne_nil _ _), ?_⟩⟩
    · rw [stableFields_of_stable, List.getLast_cons (List.cons_ne_nil _ _)]
    · intro i single
      cases single
    · rw [List.getLast_cons (List.cons_ne_nil _ _)]

lemma folded_of_mem {group : List HostMetadataRecordInput} {i : HostMetadataRecordInput}
    (hi : i ∈ group) : ∃ r, folded group = some r := by
  match group with
  | [] => cases hi
  | [only] => exact ⟨_, rfl⟩
  | first :: second :: rest => exact ⟨_, rfl⟩

lemma mem_alike {k : String} {inputs : List HostMetadataRecordInput}
    {i : HostMetadataRecordInput} :
    i ∈ alike runtime k inputs ↔ i ∈ inputs ∧ hostKey runtime i = k := by
  simp [alike]

/-! ### Records that name no machine -/

/-- Host records of a shard name no machine; only aggregation writes the ids. -/
def Unnamed (inputs : List HostMetadataRecordInput) : Prop :=
  ∀ i ∈ inputs, i.record.ids = ⟨none, none⟩

section
variable {inputs : List HostMetadataRecordInput} {k : String} {r : HostMetadataRecord}

/-- A folded record reports what every record of its class reports. -/
lemma publishedFacts_folded (hash : Function.Injective runtime.sha256) (unnamed : Unnamed inputs)
    (h : folded (alike runtime k inputs) = some r) {i : HostMetadataRecordInput}
    (hi : i ∈ alike runtime k inputs) : publishedFacts r = i.facts := by
  have from_ := foldedFrom h
  obtain ⟨first, hfirst, source, file, ids⟩ := from_.first
  obtain ⟨last, hlast, fields⟩ := from_.last
  have member := mem_alike.mp (List.mem_of_getLast? hlast)
  obtain ⟨inInputs, key⟩ := mem_alike.mp hfirst
  have same := facts_of_hostKey hash (key.trans (mem_alike.mp hi).2.symm)
  have lastSame := facts_of_hostKey hash (member.2.trans (mem_alike.mp hi).2.symm)
  rw [unnamed first inInputs, over_none] at ids
  simp only [HostMetadataRecordInput.facts, factsOf, HostFacts.mk.injEq] at same lastSame
  simp only [publishedFacts, HostMetadataRecordInput.facts, factsOf, source, file, ids, fields,
    same.1, same.2.1, same.2.2.1, lastSame.2.2.2]

/-- The key of a class can be read off its record. -/
lemma hostMetadataKey_folded (hash : Function.Injective runtime.sha256) (unnamed : Unnamed inputs)
    (h : folded (alike runtime k inputs) = some r) :
    hostMetadataKey runtime r r.ids (stableFields r) = k := by
  have from_ := foldedFrom h
  obtain ⟨last, hlast, fields⟩ := from_.last
  have member := List.mem_of_getLast? hlast
  have facts := publishedFacts_folded hash unnamed h member
  simp only [publishedFacts, HostMetadataRecordInput.facts, factsOf, HostFacts.mk.injEq] at facts
  rw [← (mem_alike.mp member).2, hostKey]
  refine (hostMetadataKey_eq_iff hash).mpr ⟨facts.1, facts.2.1, facts.2.2.1, ?_⟩
  rw [hashedFields, hashedFields, fields]

end

end Aggregate
