import SandboxBenchmarks.CanonicalJson
import SandboxBenchmarks.Library.Keyed
import SandboxBenchmarks.Library.Sorting

/-!
# Which values print alike

Structural equality compares objects as finite maps and arrays by position.
Values that print alike are structurally equal. The converse needs the collation
to tell keys apart: keys it ties are printed in insertion order.
-/

namespace CanonicalJson

open Checks CodeUnits JsonText

/-- No object of the value has a key twice. -/
inductive Proper : Value → Prop
  | null : Proper .null
  | bool (b : Bool) : Proper (.bool b)
  | num (q : ℚ) : Proper (.num q)
  | str (s : String) : Proper (.str s)
  | arr {items : List Value} (each : ∀ x ∈ items, Proper x) : Proper (.arr items)
  | obj {fields : List (String × Value)} (distinct : (fields.map Prod.fst).Nodup)
      (each : ∀ f ∈ fields, Proper f.2) : Proper (.obj fields)

structure Document where
  value : Value
  proper : Proper value

/-- Arrays agree by position and objects as finite maps, whatever the order of their keys. -/
inductive Same : Value → Value → Prop
  | null : Same .null .null
  | bool (b : Bool) : Same (.bool b) (.bool b)
  | num (q : ℚ) : Same (.num q) (.num q)
  | str (s : String) : Same (.str s) (.str s)
  | arr {xs ys : List Value} (length : xs.length = ys.length)
      (each : ∀ (i : Nat) x y, xs[i]? = some x → ys[i]? = some y → Same x y) : Same (.arr xs) (.arr ys)
  | obj {fs gs : List (String × Value)} (keys : ∀ k, Keyed.has fs k = Keyed.has gs k)
      (each : ∀ k x y, Keyed.get? fs k = some x → Keyed.get? gs k = some y → Same x y) :
      Same (.obj fs) (.obj gs)

section
variable (runtime : JsonRuntime)

/-- The keys that collate as `key` does, in insertion order. -/
def tiedKeys (fields : List (String × Value)) (key : String) : List String :=
  (fields.map Prod.fst).filter (fun k => runtime.localeCompareEn key k = .eq)

/-- Objects in one place list the keys that collate alike in one order. -/
inductive TiesInOrder : Value → Value → Prop
  | arr {xs ys : List Value}
      (each : ∀ (i : Nat) x y, xs[i]? = some x → ys[i]? = some y → TiesInOrder x y) :
      TiesInOrder (.arr xs) (.arr ys)
  | obj {fs gs : List (String × Value)} (ties : ∀ key, tiedKeys runtime fs key = tiedKeys runtime gs key)
      (each : ∀ k x y, Keyed.get? fs k = some x → Keyed.get? gs k = some y → TiesInOrder x y) :
      TiesInOrder (.obj fs) (.obj gs)
  | leaf {v w : Value} (h : isContainer v = false) : TiesInOrder v w

/-- The order of printed fields. -/
abbrev fieldOrder (a b : String × Value) : Prop := keyOrder runtime a.1 b.1 = true

end

variable {runtime : JsonRuntime} {limits : CanonicalJsonLimits}

lemma fieldOrder_iff {a b : String × Value} :
    fieldOrder runtime a b ↔ Sorting.upTo runtime.localeCompareEn Prod.fst a b := by
  simp [fieldOrder, keyOrder, Sorting.upTo]

instance : Std.Total (fieldOrder runtime) where
  total a b := by
    have := runtime.collationEn
    have := Sorting.total_upTo runtime.localeCompareEn (Prod.fst (α := String) (β := Value))
    rw [fieldOrder_iff, fieldOrder_iff]
    exact this.total a b

instance : IsTrans (String × Value) (fieldOrder runtime) where
  trans a b c := by
    have := runtime.collationEn
    have := Sorting.trans_upTo runtime.localeCompareEn (Prod.fst (α := String) (β := Value))
    rw [fieldOrder_iff, fieldOrder_iff, fieldOrder_iff]
    exact this.trans a b c

lemma tied_iff {a b : String × Value} :
    Sorting.Tied (fieldOrder runtime) a b ↔ runtime.localeCompareEn a.1 b.1 = .eq := by
  have := runtime.collationEn
  rw [Sorting.Tied, fieldOrder_iff, fieldOrder_iff]
  constructor
  · rintro ⟨up, down⟩
    exact Sorting.eq_of_upTo up down
  · intro h
    have back := Std.OrientedCmp.eq_symm h
    constructor
    · simp [Sorting.upTo, h]
    · simp [Sorting.upTo, back]

/-! ### Printing alike means structurally equal -/

lemma get?_iff_mem {fields : List (String × Value)} (distinct : (fields.map Prod.fst).Nodup)
    {k : String} {x : Value} : Keyed.get? fields k = some x ↔ (k, x) ∈ fields :=
  ⟨Keyed.mem_of_get?, Keyed.get?_of_mem distinct⟩

lemma has_of_sortKeys {fs gs : List (String × Value)}
    (h : sortKeys (keyOrder runtime) (.obj fs) = sortKeys (keyOrder runtime) (.obj gs)) (k : String) :
    Keyed.has fs k = Keyed.has gs k := by
  have keys := (perm_of_sortKeys_obj (keyOrder runtime) h).map Prod.fst
  simp only [List.map_map, Function.comp_def] at keys
  rw [Bool.eq_iff_iff, Keyed.has_iff, Keyed.has_iff]
  exact keys.mem_iff

lemma each_of_sortKeys {fs gs : List (String × Value)} (distinct : (gs.map Prod.fst).Nodup)
    (h : sortKeys (keyOrder runtime) (.obj fs) = sortKeys (keyOrder runtime) (.obj gs))
    {k : String} {x y : Value} (hx : Keyed.get? fs k = some x) (hy : Keyed.get? gs k = some y) :
    sortKeys (keyOrder runtime) x = sortKeys (keyOrder runtime) y := by
  obtain ⟨y', member, same⟩ := mem_of_sortKeys_obj (keyOrder runtime) h (Keyed.mem_of_get? hx)
  rw [(get?_iff_mem distinct).mpr member, Option.some.injEq] at hy
  rw [← hy, same]

lemma items_of_sortKeys {xs ys : List Value}
    (h : sortKeys (keyOrder runtime) (.arr xs) = sortKeys (keyOrder runtime) (.arr ys)) :
    xs.length = ys.length ∧ ∀ (i : Nat) x y, xs[i]? = some x → ys[i]? = some y →
      sortKeys (keyOrder runtime) x = sortKeys (keyOrder runtime) y := by
  simp only [sortKeys, Value.arr.injEq, sortKeysItems_eq_map] at h
  constructor
  · simpa using congrArg List.length h
  · intro i x y hx hy
    have at_i := congrArg (fun l : List Value => l[i]?) h
    simpa [hx, hy] using at_i

/-- Sorted values determine the value up to the order of keys. -/
theorem same_of_sortKeys {v w : Value} (hv : Proper v) (hw : Proper w)
    (h : sortKeys (keyOrder runtime) v = sortKeys (keyOrder runtime) w) : Same v w := by
  induction hv generalizing w with
  | null =>
    cases w <;> simp only [sortKeys, reduceCtorEq] at h
    exact Same.null
  | bool b =>
    cases w <;> simp only [sortKeys, reduceCtorEq] at h
    rw [Value.bool.inj h]
    exact Same.bool _
  | num q =>
    cases w <;> simp only [sortKeys, reduceCtorEq] at h
    rw [Value.num.inj h]
    exact Same.num _
  | str s =>
    cases w <;> simp only [sortKeys, reduceCtorEq] at h
    rw [Value.str.inj h]
    exact Same.str _
  | arr each ih =>
    cases hw with
    | arr each' =>
      obtain ⟨length, items⟩ := items_of_sortKeys h
      refine Same.arr length ?_
      intro i x y hx hy
      exact ih x (List.mem_of_getElem? hx) (each' y (List.mem_of_getElem? hy)) (items i x y hx hy)
    | _ => simp only [sortKeys, reduceCtorEq] at h
  | obj distinct each ih =>
    cases hw with
    | obj distinct' each' =>
      refine Same.obj (has_of_sortKeys h) ?_
      intro k x y hx hy
      exact ih (k, x) (Keyed.mem_of_get? hx) (each' (k, y) (Keyed.mem_of_get? hy))
        (each_of_sortKeys distinct' h hx hy)
    | _ => simp only [sortKeys, reduceCtorEq] at h

/-! ### Structurally equal values print alike when tied keys stand in order -/

/-- What a key holds, sorted. -/
def sortedAt (runtime : JsonRuntime) (fields : List (String × Value)) (key : String) : Value :=
  ((Keyed.get? fields key).map (sortKeys (keyOrder runtime))).getD .null

lemma filter_tied_fields {fields : List (String × Value)} (distinct : (fields.map Prod.fst).Nodup)
    (a : String × Value) :
    (sortKeysFields (keyOrder runtime) fields).filter
        (fun b => Sorting.Tied (fieldOrder runtime) a b) =
      (tiedKeys runtime fields a.1).map (fun key => (key, sortedAt runtime fields key)) := by
  simp only [sortKeysFields_eq_map, tiedKeys, List.filter_map, List.map_map, Function.comp_def,
    tied_iff]
  apply List.map_congr_left
  intro f hf
  have found := Keyed.get?_of_mem distinct (k := f.1) (a := f.2) (List.mem_filter.mp hf).1
  simp [sortedAt, found]

lemma sortKeys_obj_iff {fs gs : List (String × Value)} (distinct : (fs.map Prod.fst).Nodup)
    (distinct' : (gs.map Prod.fst).Nodup) :
    sortKeys (keyOrder runtime) (.obj fs) = sortKeys (keyOrder runtime) (.obj gs) ↔
      ∀ key, (tiedKeys runtime fs key).map (fun k => (k, sortedAt runtime fs k)) =
        (tiedKeys runtime gs key).map (fun k => (k, sortedAt runtime gs k)) := by
  have classes := Sorting.insertionSort_eq_iff (r := fieldOrder runtime)
    (l := sortKeysFields (keyOrder runtime) fs) (m := sortKeysFields (keyOrder runtime) gs)
  simp only [filter_tied_fields distinct, filter_tied_fields distinct'] at classes
  rw [sortKeys, sortKeys, Value.obj.injEq, classes]
  exact ⟨fun h key => h (key, .null), fun h a => h a.1⟩

theorem sortKeys_eq_iff {v w : Value} (hv : Proper v) (hw : Proper w) (same : Same v w) :
    sortKeys (keyOrder runtime) v = sortKeys (keyOrder runtime) w ↔ TiesInOrder runtime v w := by
  induction same with
  | arr length each ih =>
    cases hv with
    | arr eachV =>
    cases hw with
    | arr eachW =>
    constructor
    · intro h
      refine TiesInOrder.arr ?_
      intro i x y hx hy
      exact (ih i x y hx hy (eachV x (List.mem_of_getElem? hx))
        (eachW y (List.mem_of_getElem? hy))).mp ((items_of_sortKeys h).2 i x y hx hy)
    · intro ordered
      cases ordered with
      | arr ordered =>
        rw [sortKeys, sortKeys, sortKeysItems_eq_map, sortKeysItems_eq_map]
        congr 1
        apply List.ext_getElem (by simpa using length)
        intro i hi hi'
        simp only [List.length_map] at hi hi'
        have hx := List.getElem?_eq_getElem hi
        have hy := List.getElem?_eq_getElem hi'
        simpa using (ih i _ _ hx hy (eachV _ (List.mem_of_getElem? hx))
          (eachW _ (List.mem_of_getElem? hy))).mpr (ordered i _ _ hx hy)
      | leaf h => cases h
  | obj keys each ih =>
    rename_i fs gs
    cases hv with
    | obj distinct eachV =>
    cases hw with
    | obj distinct' eachW =>
    have proper : ∀ {k x y}, Keyed.get? fs k = some x → Keyed.get? gs k = some y →
        Proper x ∧ Proper y := fun hx hy =>
      ⟨eachV _ (Keyed.mem_of_get? hx), eachW _ (Keyed.mem_of_get? hy)⟩
    constructor
    · intro h
      refine TiesInOrder.obj ?_ ?_
      · intro key
        have pairs := congrArg (List.map Prod.fst) ((sortKeys_obj_iff distinct distinct').mp h key)
        simpa [Function.comp_def] using pairs
      · intro k x y hx hy
        exact (ih k x y hx hy (proper hx hy).1 (proper hx hy).2).mp
          (each_of_sortKeys distinct' h hx hy)
    · intro ordered
      cases ordered with
      | obj ties ordered =>
        rw [sortKeys_obj_iff distinct distinct']
        intro key
        rw [ties key]
        apply List.map_congr_left
        intro k _
        rw [Prod.mk.injEq]
        refine ⟨rfl, ?_⟩
        -- both objects have the key or neither has it
        have present := keys k
        cases hx : Keyed.get? fs k with
        | none =>
          cases hy : Keyed.get? gs k with
          | none => simp [sortedAt, hx, hy]
          | some y => simp [Keyed.has, hx, hy] at present
        | some x =>
          cases hy : Keyed.get? gs k with
          | none => simp [Keyed.has, hx, hy] at present
          | some y =>
            simpa [sortedAt, hx, hy] using
              (ih k x y hx hy (proper hx hy).1 (proper hx hy).2).mpr (ordered k x y hx hy)
      | leaf h => cases h
  | _ => exact ⟨fun _ => TiesInOrder.leaf rfl, fun _ => rfl⟩

lemma strings_eq_iff {v w : Value} {s t : String}
    (hs : canonicalJsonString runtime limits v = .ok s)
    (ht : canonicalJsonString runtime limits w = .ok t) :
    s = t ↔ sortKeys (keyOrder runtime) v = sortKeys (keyOrder runtime) w := by
  constructor
  · rintro rfl
    exact canonicalJsonString_injective hs ht
  · intro h
    rw [canonicalJsonString_ok hs, canonicalJsonString_ok ht, h]

lemma canonicalJsonEqual_iff {v w : Value} {s t : String}
    (hs : canonicalJsonString runtime providerResponseLimits v = .ok s)
    (ht : canonicalJsonString runtime providerResponseLimits w = .ok t) :
    canonicalJsonEqual runtime v w = true ↔ s = t := by
  simp [canonicalJsonEqual, hs, ht]

/-- Within the bound, equal strings mean structural equality exactly when structural equality
brings the keys that collate alike into one order. -/
theorem canonicalJsonString_structural_iff (runtime : JsonRuntime) (limits : CanonicalJsonLimits)
    (left right : Document) {s t : String}
    (hs : canonicalJsonString runtime limits left.value = .ok s)
    (ht : canonicalJsonString runtime limits right.value = .ok t) :
    ((s = t ↔ Same left.value right.value) ↔
        (Same left.value right.value → TiesInOrder runtime left.value right.value)) ∧
      (limits = providerResponseLimits →
        (canonicalJsonEqual runtime left.value right.value = true ↔ s = t)) := by
  have printed := strings_eq_iff hs ht
  have sound : s = t → Same left.value right.value := fun h =>
    same_of_sortKeys left.proper right.proper (printed.mp h)
  have ordered := fun same : Same left.value right.value =>
    printed.trans (sortKeys_eq_iff left.proper right.proper same)
  constructor
  · constructor
    · intro claim same
      exact (ordered same).mp (claim.mpr same)
    · intro ties
      exact ⟨sound, fun same => (ordered same).mpr (ties same)⟩
  · rintro rfl
    exact canonicalJsonEqual_iff hs ht

lemma proper_pair {k l : String} (apart : k ≠ l) (x y : ℚ) :
    Proper (.obj [(k, .num x), (l, .num y)]) := by
  refine Proper.obj (by simpa using apart) ?_
  intro f hf
  simp only [List.mem_cons, List.not_mem_nil, or_false] at hf
  rcases hf with rfl | rfl
  · exact Proper.num x
  · exact Proper.num y

lemma same_pair {k l : String} (apart : k ≠ l) (x y : ℚ) :
    Same (.obj [(k, .num x), (l, .num y)]) (.obj [(l, .num y), (k, .num x)]) := by
  have swapped : ∀ key, Keyed.get? [(k, Value.num x), (l, .num y)] key =
      Keyed.get? [(l, Value.num y), (k, .num x)] key := by
    intro key
    by_cases hk : k = key
    · subst hk
      simp [Keyed.get?, apart.symm]
    · simp [Keyed.get?, hk]
  refine Same.obj (fun key => by rw [Keyed.has, Keyed.has, swapped]) ?_
  intro key v w hv hw
  rw [swapped, hw, Option.some.injEq] at hv
  have member := Keyed.mem_of_get? hw
  simp only [List.mem_cons, Prod.mk.injEq, List.not_mem_nil, or_false] at member
  rcases member with ⟨_, rfl⟩ | ⟨_, rfl⟩
  · rw [← hv]
    exact Same.num y
  · rw [← hv]
    exact Same.num x

def alphabetical : Document := ⟨_, proper_pair (k := "a") (l := "b") (by decide) 1 2⟩

def reversed : Document := ⟨_, proper_pair (k := "b") (l := "a") (by decide) 2 1⟩

theorem canonicalJsonString_structural_iff_letters : ∃ s t,
    canonicalJsonString plainJson providerResponseLimits alphabetical.value = .ok s ∧
    canonicalJsonString plainJson providerResponseLimits reversed.value = .ok t ∧
    ((s = t ↔ Same alphabetical.value reversed.value) ↔
      (Same alphabetical.value reversed.value →
        TiesInOrder plainJson alphabetical.value reversed.value)) := by
  obtain ⟨s, hs⟩ := canonicalJsonString_of_visit plainJson providerResponseLimits alphabetical.value rfl
    (by decide)
  obtain ⟨t, ht⟩ := canonicalJsonString_of_visit plainJson providerResponseLimits reversed.value rfl
    (by decide)
  exact ⟨s, t, hs, ht, (canonicalJsonString_structural_iff plainJson providerResponseLimits
    alphabetical reversed hs ht).1⟩

/-! ### Keys that collate alike -/

/-- Canonical decomposition, as far as the letter below needs it. -/
def decompose (s : String) : String :=
  String.ofList (s.toList.flatMap (fun c => if c = 'é' then ['e', Char.ofNat 0x301] else [c]))

/-- Collation that does not tell canonically equivalent strings apart. -/
def decomposing : JsonRuntime where
  number := decimal
  localeCompareEn := fun a b => byCodeUnits (decompose a) (decompose b)
  collationEn := {
    eq_swap := @fun a b => Std.OrientedCmp.eq_swap (a := decompose a) (b := decompose b)
    isLE_trans := @fun a b c => Std.TransCmp.isLE_trans (a := decompose a) (b := decompose b)
      (c := decompose c) }

/-- One letter in its two spellings. -/
def composed : String := "é"

def decomposed : String := String.ofList ['e', Char.ofNat 0x301]

def composedFirst : Document := ⟨_, proper_pair (k := composed) (l := decomposed) (by decide) 1 2⟩

def composedLast : Document := ⟨_, proper_pair (k := decomposed) (l := composed) (by decide) 2 1⟩

/-- Structurally equal documents whose strings differ, by nothing but insertion order. -/
theorem canonicalJsonString_insertion_order : ∃ s t,
    canonicalJsonString decomposing providerResponseLimits composedFirst.value = .ok s ∧
    canonicalJsonString decomposing providerResponseLimits composedLast.value = .ok t ∧
    Same composedFirst.value composedLast.value ∧ s ≠ t ∧
    canonicalJsonEqual decomposing composedFirst.value composedLast.value = false := by
  obtain ⟨s, hs⟩ := canonicalJsonString_of_visit decomposing providerResponseLimits
    composedFirst.value rfl (by decide)
  obtain ⟨t, ht⟩ := canonicalJsonString_of_visit decomposing providerResponseLimits
    composedLast.value rfl (by decide)
  have same : Same composedFirst.value composedLast.value := same_pair (by decide) 1 2
  have apart : s ≠ t := by
    rw [Ne, strings_eq_iff hs ht, sortKeys_eq_iff composedFirst.proper composedLast.proper same]
    intro ordered
    cases ordered with
    | obj ties each => exact absurd (ties composed) (by decide)
    | leaf h => cases h
  refine ⟨s, t, hs, ht, same, apart, ?_⟩
  rw [← Bool.not_eq_true, canonicalJsonEqual_iff hs ht]
  exact apart

end CanonicalJson
