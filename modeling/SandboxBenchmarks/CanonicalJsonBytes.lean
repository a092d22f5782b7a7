import SandboxBenchmarks.CanonicalKeys
import SandboxBenchmarks.Library.JsonParse

/-!
# What a canonical text costs

The bytes charged during a traversal are the bytes of the text it returns. The
size error stands for a text beyond the limit, and a value that meets every
other limit fails on nothing else.
-/

namespace CanonicalJson

open Checks CodeUnits JsonText

/-- A value as the printer receives it, where `-0` is a number of its own. -/
inductive Input where
  | null
  | bool (b : Bool)
  | num (q : ℚ)
  | negativeZero
  | str (s : String)
  | arr (items : List Input)
  | obj (fields : List (String × Input))

mutual
/-- `JSON.stringify(-0)` is `"0"`. -/
def Input.plain : Input → Value
  | .null => .null
  | .bool b => .bool b
  | .num q => .num q
  | .negativeZero => .num 0
  | .str s => .str s
  | .arr items => .arr (plainItems items)
  | .obj fields => .obj (plainFields fields)

def plainItems : List Input → List Value
  | [] => []
  | item :: items => item.plain :: plainItems items

def plainField : String × Input → String × Value
  | (key, value) => (key, value.plain)

def plainFields : List (String × Input) → List (String × Value)
  | [] => []
  | field :: fields => plainField field :: plainFields fields
end

def sizeError : String := "canonical JSON exceeds byte limit"

mutual
/-- The values a traversal counts. -/
def nodeCount : Value → Nat
  | .null => 1
  | .bool _ => 1
  | .num _ => 1
  | .str _ => 1
  | .arr items => 1 + nodeCountItems items
  | .obj fields => 1 + nodeCountFields fields

def nodeCountItems : List Value → Nat
  | [] => 0
  | item :: items => nodeCount item + nodeCountItems items

def nodeCountField : String × Value → Nat
  | (_, value) => nodeCount value

def nodeCountFields : List (String × Value) → Nat
  | [] => 0
  | field :: fields => nodeCountField field + nodeCountFields fields
end

section
variable (runtime : JsonRuntime) (limits : CanonicalJsonLimits)

/-- No array, object, string or key is too long, and nothing is nested deeper than `remaining`. -/
def Shaped : Nat → Value → Prop
  | 0, _ => False
  | _ + 1, .null => True
  | _ + 1, .bool _ => True
  | _ + 1, .num _ => True
  | _ + 1, .str s => utf16Length s ≤ limits.maxStringLength
  | deeper + 1, .arr items =>
    items.length ≤ limits.maxArrayLength ∧ ∀ item ∈ items, Shaped deeper item
  | deeper + 1, .obj fields =>
    fields.length ≤ limits.maxObjectKeys ∧
      ∀ field ∈ fields, utf16Length field.1 ≤ limits.maxKeyLength ∧ Shaped deeper field.2

/-- Every limit but the one on bytes. -/
structure Admissible (value : Value) : Prop where
  container : isContainer value = true
  nodes : nodeCount value ≤ limits.maxNodes
  shaped : Shaped limits (limits.maxDepth + 1) value

/-- The complete canonical encoding. -/
def encoding (value : Value) : String :=
  String.ofList (text runtime.number (sortKeys (keyOrder runtime) value))

end

/-- What a part of a traversal takes. -/
structure Need where
  nodes : Nat
  bytes : Nat
  fits : Prop

def Need.then (a b : Need) : Need where
  nodes := a.nodes + b.nodes
  bytes := a.bytes + b.bytes
  fits := a.fits ∧ b.fits

variable {runtime : JsonRuntime} {limits : CanonicalJsonLimits}

/-- A part that ends has spent its need within the limits. One that fails with the size error
was about to exceed the limit on bytes, and one whose need meets the other limits fails with nothing else. -/
def Spends {α : Type} (limits : CanonicalJsonLimits) (need : Need) (spent : Spent)
    (spentAfter : α → Spent) : Except String α → Prop
  | .ok out => need.fits ∧ spentAfter out = ⟨spent.nodes + need.nodes, spent.bytes + need.bytes⟩ ∧
      (spent.nodes ≤ limits.maxNodes → spent.nodes + need.nodes ≤ limits.maxNodes) ∧
      (spent.bytes ≤ limits.maxBytes → spent.bytes + need.bytes ≤ limits.maxBytes)
  | .error e => (e = sizeError → limits.maxBytes < spent.bytes + need.bytes) ∧
      (need.fits → spent.nodes + need.nodes ≤ limits.maxNodes → e = sizeError)

lemma spends_bind {α β : Type} {a b : Need} {spent : Spent} {x : Except String α}
    {f : α → Except String β} {after : α → Spent} {after' : β → Spent}
    (first : Spends limits a spent after x)
    (second : ∀ out, x = .ok out → Spends limits b (after out) after' (f out)) :
    Spends limits (a.then b) spent after' (x >>= f) := by
  cases x with
  | error e =>
    obtain ⟨beyond, only⟩ := first
    constructor
    · intro size
      have := beyond size
      simp only [Need.then]
      omega
    · rintro ⟨fits, _⟩ nodes
      simp only [Need.then] at nodes
      exact only fits (by omega)
  | ok out =>
    obtain ⟨fits, same, nodes, bytes⟩ := first
    have second := second out rfl
    rw [same] at second
    rw [ok_bind]
    cases result : f out with
    | error e =>
      rw [result] at second
      obtain ⟨beyond, only⟩ := second
      constructor
      · intro size
        have := beyond size
        simp only [Need.then] at this ⊢
        omega
      · rintro ⟨_, fits'⟩ within
        simp only [Need.then] at within
        exact only fits' (by simp only; omega)
    | ok out' =>
      rw [result] at second
      obtain ⟨fits', same', nodes', bytes'⟩ := second
      refine ⟨⟨fits, fits'⟩, ?_, ?_, ?_⟩
      · rw [same']
        simp only [Need.then, Nat.add_assoc]
      · intro within
        have := nodes' (nodes within)
        simp only [Need.then] at this ⊢
        omega
      · intro within
        have := bytes' (bytes within)
        simp only [Need.then] at this ⊢
        omega

/-! ### The parts of a traversal -/

lemma Spends.congr {α : Type} {a b : Need} {spent : Spent} {after : α → Spent}
    {x : Except String α} (h : Spends limits a spent after x) (nodes : a.nodes = b.nodes)
    (bytes : a.bytes = b.bytes) (fits : a.fits ↔ b.fits) : Spends limits b spent after x := by
  have same : a = b := by
    obtain ⟨an, ab, af⟩ := a
    obtain ⟨bn, bb, bf⟩ := b
    simp only at nodes bytes fits
    rw [nodes, bytes, propext fits]
  exact same ▸ h

lemma spends_guard (bad : Prop) [Decidable bad] {message : String} (other : message ≠ sizeError)
    (spent : Spent) : Spends limits ⟨0, 0, ¬ bad⟩ spent (fun _ => spent) (throwIf bad message) := by
  unfold throwIf
  split
  · rename_i h
    exact ⟨fun size => absurd size other, fun fits => absurd h fits⟩
  · rename_i h
    exact ⟨h, rfl, id, id⟩

lemma spends_charge (fragment : List Char) (spent : Spent) :
    Spends limits ⟨0, byteLength fragment, True⟩ spent id (charge limits fragment spent) := by
  unfold charge throwIf
  by_cases beyond : spent.bytes + byteLength fragment > limits.maxBytes
  · simp only [beyond, if_true, error_bind]
    exact ⟨fun _ => beyond, fun _ _ => rfl⟩
  · simp only [beyond, if_false, ok_bind]
    exact ⟨trivial, rfl, id, fun _ => Nat.not_lt.mp beyond⟩

lemma spends_charged (fragment : List Char) (spent : Spent) :
    Spends limits ⟨0, byteLength fragment, True⟩ spent Prod.snd (charged limits fragment spent) := by
  refine (spends_bind (b := ⟨0, 0, True⟩) (spends_charge fragment spent) ?_).congr rfl rfl
    (by simp [Need.then])
  intro after _
  exact ⟨trivial, rfl, id, id⟩

/-- Counting one value. -/
lemma spends_count {α : Type} {need : Need} {spent : Spent} {after : α → Spent}
    {rest : Except String α} (h : Spends limits need { spent with nodes := spent.nodes + 1 } after rest) :
    Spends limits ⟨1 + need.nodes, need.bytes, need.fits⟩ spent after
      (throwIf (spent.nodes + 1 > limits.maxNodes) "canonical JSON exceeds node limit" >>=
        fun _ => rest) := by
  unfold throwIf
  by_cases beyond : spent.nodes + 1 > limits.maxNodes
  · simp only [beyond, if_true, error_bind]
    refine ⟨fun size => absurd size (by decide), ?_⟩
    intro _ within
    simp only at within
    omega
  · simp only [beyond, if_false, ok_bind]
    cases rest with
    | error e =>
      obtain ⟨size, only⟩ := h
      refine ⟨size, ?_⟩
      intro fits within
      exact only fits (by simp only at within ⊢; omega)
    | ok out =>
      obtain ⟨fits, same, nodes, bytes⟩ := h
      refine ⟨fits, ?_, ?_, bytes⟩
      · rw [same, Nat.add_assoc]
      · intro _
        have := nodes (Nat.not_lt.mp beyond)
        simp only at this ⊢
        omega

lemma byteLength_append (a b : List Char) : byteLength (a ++ b) = byteLength a + byteLength b := by
  simp [byteLength]

lemma byteLength_cons (c : Char) (l : List Char) : byteLength (c :: l) = c.utf8Size + byteLength l := by
  simp [byteLength]

/-- The need of a sequence of parts. -/
def total {α : Type} (need : α → Need) (xs : List α) : Need where
  nodes := (xs.map (fun x => (need x).nodes)).sum
  bytes := (xs.map (fun x => (need x).bytes)).sum
  fits := ∀ x ∈ xs, (need x).fits

lemma spends_mapSpent {α : Type} {need : α → Need}
    {f : α → Spent → Except String (List Char × Spent)} {xs : List α}
    (each : ∀ x ∈ xs, ∀ spent, Spends limits (need x) spent Prod.snd (f x spent)) (spent : Spent) :
    Spends limits (total need xs) spent Prod.snd (mapSpent f xs spent) := by
  induction xs generalizing spent with
  | nil => exact ⟨by simp [total], rfl, id, id⟩
  | cons x xs ih =>
    have here := each x List.mem_cons_self spent
    have later : ∀ spent, Spends limits (total need xs) spent Prod.snd (mapSpent f xs spent) :=
      ih (fun y hy => each y (List.mem_cons_of_mem x hy))
    refine (spends_bind here (b := total need xs) ?_).congr ?_ ?_ ?_
    · rintro ⟨part, between⟩ _
      refine (spends_bind (b := ⟨0, 0, True⟩) (later between) ?_).congr rfl rfl (by simp [Need.then])
      rintro ⟨parts, last⟩ _
      exact ⟨trivial, rfl, id, id⟩
    · simp [Need.then, total]
    · simp [Need.then, total]
    · simp [Need.then, total]

/-! ### One visit -/

def needOf (runtime : JsonRuntime) (limits : CanonicalJsonLimits) (remaining : Nat)
    (value : Value) : Need where
  nodes := nodeCount value
  bytes := byteLength (text runtime.number (sortKeys (keyOrder runtime) value))
  fits := Shaped limits remaining value

def needOfField (runtime : JsonRuntime) (limits : CanonicalJsonLimits) (remaining : Nat)
    (field : String × Value) : Need where
  nodes := nodeCount field.2
  bytes := byteLength (textField runtime.number (field.1, sortKeys (keyOrder runtime) field.2))
  fits := utf16Length field.1 ≤ limits.maxKeyLength ∧ Shaped limits remaining field.2

lemma spends_visitField {deeper : Nat}
    (ih : ∀ value spent, Spends limits (needOf runtime limits deeper value) spent Prod.snd
      (visit runtime limits deeper value spent)) (field : String × Value) (spent : Spent) :
    Spends limits (needOfField runtime limits deeper field) spent Prod.snd
      (visitField limits (visit runtime limits deeper) field spent) := by
  refine (spends_bind (spends_guard _ (by decide) spent)
    (b := (Need.mk 0 (byteLength (quote field.1 ++ [':'])) True).then
      (needOf runtime limits deeper field.2)) ?_).congr ?_ ?_ ?_
  · intro _ _
    refine spends_bind (spends_charge _ spent) ?_
    intro charged _
    refine (spends_bind (ih field.2 charged) (b := ⟨0, 0, True⟩) ?_).congr rfl rfl
      (by simp [Need.then])
    rintro ⟨part, last⟩ _
    exact ⟨trivial, rfl, id, id⟩
  · simp [Need.then, needOf, needOfField]
  · simp only [Need.then, needOf, needOfField, textField, byteLength_append, byteLength_cons]
    simp [byteLength]
    omega
  · simp [Need.then, needOf, needOfField]

/-- The separators and brackets of a sequence, charged before its parts. -/
lemma byteLength_bracketed (opening closing : Char) (parts : List (List Char)) :
    byteLength (opening :: (join parts ++ [closing])) =
      byteLength (opening :: (List.replicate (parts.length - 1) ',' ++ [closing])) +
        (parts.map byteLength).sum := by
  have separators : byteLength (join parts) = (parts.length - 1) + (parts.map byteLength).sum := by
    cases parts with
    | nil => rfl
    | cons part parts =>
      rw [join_cons, byteLength_append]
      induction parts with
      | nil => simp [byteLength]
      | cons next parts ih =>
        simp only [List.flatMap_cons, List.cons_append, byteLength_append, byteLength_cons,
          List.length_cons, List.map_cons, List.sum_cons] at ih ⊢
        have comma : ','.utf8Size = 1 := by decide
        omega
  have commas : byteLength (List.replicate (parts.length - 1) ',') = parts.length - 1 := by
    have comma : ','.utf8Size = 1 := by decide
    simp [byteLength, comma]
  simp only [byteLength_cons, byteLength_append, separators, commas]
  omega

lemma nodeCountItems_eq_sum (items : List Value) :
    nodeCountItems items = (items.map nodeCount).sum := by
  induction items with
  | nil => rfl
  | cons item items ih => rw [nodeCountItems, ih, List.map_cons, List.sum_cons]

lemma nodeCountFields_eq_sum (fields : List (String × Value)) :
    nodeCountFields fields = (fields.map (fun f => nodeCount f.2)).sum := by
  induction fields with
  | nil => rfl
  | cons field fields ih =>
    obtain ⟨key, value⟩ := field
    rw [nodeCountFields, ih, List.map_cons, List.sum_cons, nodeCountField]

lemma total_perm {α : Type} {need : α → Need} {xs ys : List α} (perm : xs.Perm ys) :
    total need xs = total need ys := by
  simp only [total, perm.mem_iff, (perm.map _).sum_nat]

/-- A visit spends one node for each value and one byte for each byte of the text. -/
theorem spends_visit (remaining : Nat) (value : Value) (spent : Spent) :
    Spends limits (needOf runtime limits remaining value) spent Prod.snd
      (visit runtime limits remaining value spent) := by
  induction remaining generalizing value spent with
  | zero =>
    have failed : ∃ e, visit runtime limits 0 value spent = .error e ∧ e ≠ sizeError := by
      rw [visit]
      by_cases beyond : spent.nodes + 1 > limits.maxNodes
      · exact ⟨"canonical JSON exceeds node limit", by simp [throwIf, beyond], by decide⟩
      · exact ⟨"canonical JSON exceeds nesting depth", by simp [throwIf, beyond], by decide⟩
    obtain ⟨e, failed, other⟩ := failed
    rw [failed]
    exact ⟨fun size => absurd size other, fun fits => absurd fits (by simp [needOf, Shaped])⟩
  | succ deeper ih =>
    cases value with
    | null => exact spends_count (spends_charged _ _)
    | bool b => exact spends_count (spends_charged _ _)
    | num q => exact spends_count (spends_charged _ _)
    | str s =>
      refine (spends_count (spends_bind (spends_guard _ (by decide) _)
        (fun _ _ => spends_charged _ _))).congr ?_ ?_ ?_
      · simp [Need.then, needOf, nodeCount]
      · simp [Need.then, needOf, sortKeys, text]
      · simp [Need.then, needOf, Shaped]
    | arr values =>
      have parts : ∀ spent, Spends limits (total (needOf runtime limits deeper) values) spent
          Prod.snd (mapSpent (visit runtime limits deeper) values spent) :=
        spends_mapSpent (fun v (_ : v ∈ values) => ih v)
      refine Spends.congr (spends_count (spends_bind (spends_guard _ (by decide) _) (fun _ _ =>
        spends_bind (spends_charge _ _) (fun _ _ => spends_bind (parts _) (b := ⟨0, 0, True⟩)
          (fun _ _ => ⟨trivial, rfl, id, id⟩))))) ?_ ?_ ?_
      · simp [Need.then, needOf, total, nodeCount, nodeCountItems_eq_sum]
      · simp only [Need.then, needOf, total, sortKeys, text, textItems_eq, sortKeysItems_eq_map]
        rw [byteLength_bracketed]
        simp [Function.comp_def]
      · simp [Need.then, needOf, total, Shaped]
    | obj fields =>
      have parts : ∀ spent, Spends limits (total (needOfField runtime limits deeper)
          (sortedFields runtime fields)) spent Prod.snd
            (mapSpent (visitField limits (visit runtime limits deeper))
              (sortedFields runtime fields) spent) :=
        spends_mapSpent (fun f (_ : f ∈ sortedFields runtime fields) => spends_visitField ih f)
      have perm : (sortedFields runtime fields).Perm fields := List.perm_insertionSort _ fields
      refine Spends.congr (spends_count (spends_bind (spends_guard _ (by decide) _) (fun _ _ =>
        spends_bind (spends_charge _ _) (fun _ _ => spends_bind (parts _) (b := ⟨0, 0, True⟩)
          (fun _ _ => ⟨trivial, rfl, id, id⟩))))) ?_ ?_ ?_
      · simp only [total_perm perm]
        simp [Need.then, needOfField, total, needOf, nodeCount, nodeCountFields_eq_sum]
      · simp only [Need.then, needOf, needOfField, total, sortKeys, text, textFields_eq,
          ← sortedFields_sortKeys]
        rw [byteLength_bracketed]
        simp [Function.comp_def]
      · simp only [total_perm perm, perm.length_eq]
        simp [Need.then, needOfField, total, needOf, Shaped]

/-! ### Reading the text back -/

lemma merged_of_proper {v : Value} (proper : Proper v) : merged v = v := by
  induction proper with
  | null => rfl
  | bool b => rfl
  | num q => rfl
  | str s => rfl
  | @arr items _ ih =>
    have same : items.map merged = items := by
      rw [List.map_congr_left (g := id) ih, List.map_id]
    rw [merged, mergedItems_eq_map, same]
  | @obj fields distinct _ ih =>
    have same : fields.map (fun f => (f.1, merged f.2)) = fields := by
      rw [List.map_congr_left (g := id) (fun f hf => by rw [ih f hf]; rfl), List.map_id]
    rw [merged, mergedFields_eq_map, same, Keyed.mapOf_of_nodup distinct]

lemma mem_sortKeys_obj {fields : List (String × Value)} {f : String × Value} :
    f ∈ (sortKeysFields (keyOrder runtime) fields).insertionSort
        (fun a b => keyOrder runtime a.1 b.1) ↔
      ∃ g ∈ fields, (g.1, sortKeys (keyOrder runtime) g.2) = f := by
  rw [(List.perm_insertionSort _ _).mem_iff, sortKeysFields_eq_map, List.mem_map]

lemma keys_sortKeys_obj (fields : List (String × Value)) :
    (((sortKeysFields (keyOrder runtime) fields).insertionSort
      (fun a b => keyOrder runtime a.1 b.1)).map Prod.fst).Perm (fields.map Prod.fst) := by
  have perm := (List.perm_insertionSort (fun a b : String × Value => keyOrder runtime a.1 b.1 = true)
    (sortKeysFields (keyOrder runtime) fields)).map Prod.fst
  rw [sortKeysFields_eq_map] at perm ⊢
  rwa [List.map_map (f := fun f : String × Value => (f.1, sortKeys (keyOrder runtime) f.2))] at perm

lemma proper_sortKeys {v : Value} (proper : Proper v) : Proper (sortKeys (keyOrder runtime) v) := by
  induction proper with
  | null => exact Proper.null
  | bool b => exact Proper.bool b
  | num q => exact Proper.num q
  | str s => exact Proper.str s
  | arr _ ih =>
    rw [sortKeys, sortKeysItems_eq_map]
    refine Proper.arr ?_
    intro x hx
    obtain ⟨y, hy, rfl⟩ := List.mem_map.mp hx
    exact ih y hy
  | @obj fields distinct _ ih =>
    rw [sortKeys]
    refine Proper.obj ((keys_sortKeys_obj fields).nodup_iff.mpr distinct) ?_
    intro f hf
    obtain ⟨g, hg, rfl⟩ := mem_sortKeys_obj.mp hf
    exact ih g hg

/-- Sorting keys changes nothing else. -/
lemma same_sortKeys {v : Value} (proper : Proper v) : Same (sortKeys (keyOrder runtime) v) v := by
  induction proper with
  | null => exact Same.null
  | bool b => exact Same.bool b
  | num q => exact Same.num q
  | str s => exact Same.str s
  | arr _ ih =>
    rw [sortKeys, sortKeysItems_eq_map]
    refine Same.arr (List.length_map _) ?_
    intro i x y hx hy
    rw [List.getElem?_map, hy, Option.map_some, Option.some.injEq] at hx
    exact hx ▸ ih y (List.mem_of_getElem? hy)
  | @obj fields distinct _ ih =>
    rw [sortKeys]
    refine Same.obj ?_ ?_
    · intro k
      rw [Bool.eq_iff_iff, Keyed.has_iff, Keyed.has_iff, (keys_sortKeys_obj fields).mem_iff]
    · intro k x y hx hy
      obtain ⟨⟨key, value⟩, member, same⟩ := mem_sortKeys_obj.mp (Keyed.mem_of_get? hx)
      simp only [Prod.mk.injEq] at same
      obtain ⟨rfl, rfl⟩ := same
      have found := Keyed.get?_of_mem distinct member
      rw [hy, Option.some.injEq] at found
      exact found ▸ ih (key, value) member

/-- A runtime that also reads the numbers it prints. -/
structure ReadingRuntime extends JsonRuntime where
  read : List Char → Option ℚ
  read_print : ∀ q, read (number.print q).toList = some q

def ReadingRuntime.codec (runtime : ReadingRuntime) : NumberCodec where
  toNumberText := runtime.number
  read := runtime.read
  read_print := runtime.read_print

/-- A value whose objects have each key once, as the objects of the language do. -/
structure InputDocument where
  input : Input
  proper : Proper input.plain

theorem parse_encoding (runtime : ReadingRuntime) {value : Value} (proper : Proper value) :
    ∃ back, parse runtime.codec (encoding runtime.toJsonRuntime value).toList = some back ∧
      Same back value := by
  refine ⟨sortKeys (keyOrder runtime.toJsonRuntime) value, ?_, same_sortKeys proper⟩
  rw [encoding, String.toList_ofList]
  exact (parse_text (n := runtime.codec) _).trans
    (congrArg some (merged_of_proper (proper_sortKeys proper)))

lemma utf8ByteSize_ofList (chars : List Char) :
    (String.ofList chars).utf8ByteSize = byteLength chars := by
  induction chars with
  | nil => rfl
  | cons c chars ih =>
    rw [String.ofList_cons, String.utf8ByteSize_append, ih, byteLength_cons,
      String.utf8ByteSize_singleton]

/-- What the printer does with its byte limit, from one visit of the whole value. -/
lemma canonicalJsonString_cases (value : Value) :
    (∃ out spent, visit runtime limits (limits.maxDepth + 1) value ⟨0, 0⟩ = .ok (out, spent) ∧
      canonicalJsonString runtime limits value = .ok (String.ofList out) ∧
      String.ofList out = encoding runtime value ∧ Admissible limits value ∧
      spent.bytes = (encoding runtime value).utf8ByteSize ∧
      (encoding runtime value).utf8ByteSize ≤ limits.maxBytes) ∨
    (∃ e, canonicalJsonString runtime limits value = .error e ∧
      (e = sizeError → limits.maxBytes < (encoding runtime value).utf8ByteSize) ∧
      (Admissible limits value →
        e = sizeError ∧ limits.maxBytes < (encoding runtime value).utf8ByteSize)) := by
  have size : (encoding runtime value).utf8ByteSize =
      byteLength (text runtime.number (sortKeys (keyOrder runtime) value)) :=
    utf8ByteSize_ofList _
  by_cases container : isContainer value = true
  · have spends : Spends limits (needOf runtime limits (limits.maxDepth + 1) value) ⟨0, 0⟩ Prod.snd
        (visit runtime limits (limits.maxDepth + 1) value ⟨0, 0⟩) := spends_visit _ value _
    cases visited : visit runtime limits (limits.maxDepth + 1) value ⟨0, 0⟩ with
    | error e =>
      rw [visited] at spends
      obtain ⟨beyond, only⟩ := spends
      simp only [needOf, Nat.zero_add, ← size] at beyond only
      refine Or.inr ⟨e, by simp [canonicalJsonString, throwIf, container, visited], beyond, ?_⟩
      intro admissible
      have same := only admissible.shaped admissible.nodes
      exact ⟨same, beyond same⟩
    | ok result =>
      obtain ⟨out, spent⟩ := result
      rw [visited] at spends
      obtain ⟨shaped, same, nodes, bytes⟩ := spends
      simp only [needOf, Nat.zero_add, ← size] at shaped same nodes bytes
      have printed : canonicalJsonString runtime limits value = .ok (String.ofList out) := by
        simp [canonicalJsonString, throwIf, container, visited, pure, Except.pure]
      refine Or.inl ⟨out, spent, rfl, printed, canonicalJsonString_ok printed, ?_, ?_, ?_⟩
      · exact ⟨container, nodes (Nat.zero_le _), shaped⟩
      · rw [same]
      · exact bytes (Nat.zero_le _)
  · have failed : canonicalJsonString runtime limits value =
        .error "canonical JSON must contain an object or array" := by
      simp [canonicalJsonString, throwIf, container]
    exact Or.inr ⟨_, failed, fun size => absurd size (by decide),
      fun admissible => absurd admissible.container container⟩

/-! ### Parts of a document -/

inductive Inside (part : Value) : Value → Prop
  | here : Inside part part
  | item {items : List Value} {v : Value} : v ∈ items → Inside part v → Inside part (.arr items)
  | field {fields : List (String × Value)} {key : String} {v : Value} :
    (key, v) ∈ fields → Inside part v → Inside part (.obj fields)

lemma visited_inside {part whole : Value} (inside : Inside part whole) {remaining : Nat}
    {spent : Spent} {out : List Char × Spent}
    (h : visit runtime limits remaining whole spent = .ok out) :
    ∃ remaining' ≤ remaining, ∃ before out',
      visit runtime limits remaining' part before = .ok out' := by
  induction inside generalizing remaining spent out with
  | here => exact ⟨remaining, le_rfl, spent, out, h⟩
  | item member _ ih =>
    cases remaining with
    | zero => simp [visit] at h
    | succ deeper =>
      simp only [visit, bind_eq_ok, pure_eq_ok] at h
      obtain ⟨_, _, _, _, _, _, _, mapped, _⟩ := h
      obtain ⟨_, _, visited⟩ := visited_of_mapSpent mapped member
      obtain ⟨remaining', shallower, found⟩ := ih visited
      exact ⟨remaining', by omega, found⟩
  | @field fields key v member _ ih =>
    cases remaining with
    | zero => simp [visit] at h
    | succ deeper =>
      simp only [visit, bind_eq_ok, pure_eq_ok] at h
      obtain ⟨_, _, _, _, _, _, _, mapped, _⟩ := h
      have sorted : (key, v) ∈ sortedFields runtime fields :=
        (List.perm_insertionSort _ fields).mem_iff.mpr member
      obtain ⟨_, _, visited⟩ := visited_of_mapSpent mapped sorted
      simp only [visitField, bind_eq_ok] at visited
      obtain ⟨_, _, _, _, _, visited, _⟩ := visited
      obtain ⟨remaining', shallower, found⟩ := ih visited
      exact ⟨remaining', by omega, found⟩

lemma Shaped.mono {remaining more : Nat} {value : Value} (shaped : Shaped limits remaining value)
    (le : remaining ≤ more) : Shaped limits more value := by
  induction remaining generalizing more value with
  | zero => exact absurd shaped (by simp [Shaped])
  | succ deeper ih =>
    obtain ⟨more, rfl⟩ : ∃ m, more = m + 1 := ⟨more - 1, by omega⟩
    cases value with
    | null => trivial
    | bool b => trivial
    | num q => trivial
    | str s => exact shaped
    | arr items =>
      obtain ⟨short, each⟩ := shaped
      exact ⟨short, fun item member => ih (each item member) (by omega)⟩
    | obj fields =>
      obtain ⟨few, each⟩ := shaped
      exact ⟨few, fun field member => ⟨(each field member).1, ih (each field member).2 (by omega)⟩⟩

/-- A container is visited within the limits. -/
lemma within_of_visit {part : Value} (container : isContainer part = true) {remaining : Nat}
    {before : Spent} {out : List Char × Spent}
    (h : visit runtime limits remaining part before = .ok out) :
    before.nodes ≤ limits.maxNodes ∧ before.bytes ≤ limits.maxBytes := by
  cases remaining with
  | zero => simp [visit] at h
  | succ deeper =>
    cases part with
    | null => cases container
    | bool b => cases container
    | num q => cases container
    | str s => cases container
    | arr items =>
      simp only [visit, charge, bind_eq_ok, throwIf_eq_ok, pure_eq_ok] at h
      obtain ⟨_, nodes, _, _, _, ⟨_, bytes, _⟩, _⟩ := h
      exact ⟨by omega, by omega⟩
    | obj fields =>
      simp only [visit, charge, bind_eq_ok, throwIf_eq_ok, pure_eq_ok] at h
      obtain ⟨_, nodes, _, _, _, ⟨_, bytes, _⟩, _⟩ := h
      exact ⟨by omega, by omega⟩

/-- A container inside a document that prints does so by itself. -/
theorem canonicalJsonString_inside {part whole : Value} {json : String} (inside : Inside part whole)
    (container : isContainer part = true)
    (printed : canonicalJsonString runtime limits whole = .ok json) :
    ∃ json', canonicalJsonString runtime limits part = .ok json' := by
  simp only [canonicalJsonString, bind_eq_ok] at printed
  obtain ⟨_, _, ⟨out, spent⟩, visited, _⟩ := printed
  obtain ⟨remaining, shallower, before, out', visited'⟩ := visited_inside inside visited
  obtain ⟨nodes_before, bytes_before⟩ := within_of_visit container visited'
  have spends : Spends limits (needOf runtime limits remaining part) before Prod.snd
      (visit runtime limits remaining part before) := spends_visit _ part _
  rw [visited'] at spends
  obtain ⟨shaped, _, nodes, bytes⟩ := spends
  have nodes := nodes nodes_before
  have bytes := bytes bytes_before
  simp only [needOf] at shaped nodes bytes
  have admissible : Admissible limits part :=
    ⟨container, by omega, shaped.mono shallower⟩
  have size : (encoding runtime part).utf8ByteSize =
      byteLength (text runtime.number (sortKeys (keyOrder runtime) part)) :=
    utf8ByteSize_ofList _
  rcases canonicalJsonString_cases part with ⟨out, _, _, printed, _⟩ | ⟨e, _, _, only⟩
  · exact ⟨_, printed⟩
  · have beyond := (only admissible).2
    omega

theorem evidenceDigest_inside {runtime : Runtime} {part whole : Value} {digest : String}
    (inside : Inside part whole) (container : isContainer part = true)
    (digested : evidenceDigest runtime whole = .ok digest) :
    ∃ digest', evidenceDigest runtime part = .ok digest' := by
  simp only [evidenceDigest, bind_eq_ok] at digested ⊢
  obtain ⟨json, printed, _⟩ := digested
  obtain ⟨json', printed'⟩ := canonicalJsonString_inside inside container printed
  exact ⟨_, json', printed', rfl⟩

/-- The size error stands for an encoding beyond the limit and is the only error of a value that
meets the other limits. A returned text is that encoding, charged byte for byte, and reads back. -/
theorem canonicalJsonString_bytes (runtime : ReadingRuntime) (limits : CanonicalJsonLimits)
    (document : InputDocument) :
    let value := document.input.plain
    let print := canonicalJsonString runtime.toJsonRuntime limits value
    let size := (encoding runtime.toJsonRuntime value).utf8ByteSize
    (print = .error sizeError → limits.maxBytes < size) ∧
      (limits.maxBytes < size → ∃ e, print = .error e ∧ (Admissible limits value → e = sizeError)) ∧
      (Admissible limits value → size ≤ limits.maxBytes → ∃ json, print = .ok json) ∧
      (∀ json, print = .ok json → json = encoding runtime.toJsonRuntime value ∧
        (∃ spent, visit runtime.toJsonRuntime limits (limits.maxDepth + 1) value ⟨0, 0⟩ =
          .ok (json.toList, spent) ∧ spent.bytes = json.utf8ByteSize) ∧
        ∃ back, parse runtime.codec json.toList = some back ∧ Same back value) := by
  intro value print size
  rcases @canonicalJsonString_cases runtime.toJsonRuntime limits value with
    ⟨out, spent, visited, printed, same, admissible, charged, within⟩ | ⟨e, failed, beyond, only⟩
  · have returned : print = .ok (String.ofList out) := printed
    refine ⟨?_, ?_, fun _ _ => ⟨_, returned⟩, ?_⟩
    · intro refused
      rw [returned] at refused
      cases refused
    · intro exceeds
      exact absurd within (Nat.not_le.mpr exceeds)
    · intro json again
      rw [returned, Except.ok.injEq] at again
      subst again
      refine ⟨same, ⟨spent, by rw [String.toList_ofList]; exact visited, ?_⟩, ?_⟩
      · rw [same]
        exact charged
      · rw [same]
        exact parse_encoding runtime document.proper
  · have refused : print = .error e := failed
    refine ⟨?_, fun _ => ⟨e, refused, fun admissible => (only admissible).1⟩, ?_, ?_⟩
    · intro again
      rw [refused, Except.error.injEq] at again
      exact beyond again
    · intro admissible within
      exact absurd (only admissible).2 (Nat.not_lt.mpr within)
    · intro json returned
      rw [refused] at returned
      cases returned

/-- An array with one string of so many letters. -/
def letters (count : Nat) : Input := .arr [.str (String.ofList (List.replicate count 'a'))]

lemma utf16Length_letters (count : Nat) :
    utf16Length (String.ofList (List.replicate count 'a')) = count := by
  simp [utf16Length, units, unitsOf, List.flatMap_replicate]

lemma utf8ByteSize_letters (runtime : JsonRuntime) (count : Nat) :
    (encoding runtime (letters count).plain).utf8ByteSize = count + 4 := by
  have plain : 'a'.utf8Size = 1 := by decide
  have quoted : '"'.utf8Size = 1 := by decide
  have opening : '['.utf8Size = 1 := by decide
  have closing : ']'.utf8Size = 1 := by decide
  have escaped : escapeChar 'a' = ['a'] := rfl
  rw [encoding, utf8ByteSize_ofList]
  simp [letters, Input.plain, plainItems, sortKeys, sortKeysItems, text, textItems, textMoreItems,
    quote, List.flatMap_replicate, escaped, byteLength, plain, quoted, opening, closing]
  omega

lemma canonicalJsonString_letters {runtime : JsonRuntime} {limits : CanonicalJsonLimits} {count : Nat}
    (nodes : 2 ≤ limits.maxNodes) (depth : 1 ≤ limits.maxDepth) (items : 1 ≤ limits.maxArrayLength)
    (bytes : 2 ≤ limits.maxBytes) (long : limits.maxStringLength < count) :
    canonicalJsonString runtime limits (letters count).plain =
      .error "canonical JSON string is too long" := by
  obtain ⟨deeper, same⟩ : ∃ k, limits.maxDepth = k + 1 := ⟨limits.maxDepth - 1, by omega⟩
  have brackets : byteLength ['[', ']'] = 2 := by decide
  have first : ¬ limits.maxNodes < 1 := by omega
  have second : ¬ limits.maxNodes < 2 := by omega
  have second' : ¬ limits.maxNodes ≤ 1 := by omega
  have one : ¬ limits.maxArrayLength < 1 := by omega
  have cheap : ¬ limits.maxBytes < 2 := by omega
  simp [canonicalJsonString, isContainer, throwIf, letters, Input.plain, plainItems, visit, mapSpent,
    charge, same, brackets, first, second, second', one, cheap, utf16Length_letters, long]

/-- Under the default limits the encoding of 65536 letters is too large, and the limit on strings
refuses it first. -/
theorem canonicalJsonString_other_limit :
    canonicalJsonString plainJson providerResponseLimits (letters 65536).plain =
        .error "canonical JSON string is too long" ∧
      providerResponseLimits.maxBytes < (encoding plainJson (letters 65536).plain).utf8ByteSize := by
  refine ⟨canonicalJsonString_letters ?_ ?_ ?_ ?_ ?_, ?_⟩
  · decide
  · decide
  · decide
  · decide
  · decide
  · rw [utf8ByteSize_letters]
    decide

end CanonicalJson
