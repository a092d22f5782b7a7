import Mathlib.Algebra.GroupWithZero.Nat
import Mathlib.Order.Compare
import SandboxBenchmarks.Library.Checks
import SandboxBenchmarks.Library.CodeUnits
import SandboxBenchmarks.Library.JsonText

/-!
# Canonical JSON and evidence digests

`packages/schema/src/canonical-json.ts` and `evidenceDigest` of
`packages/results/src/lib/experiment.ts`. Values are trees of ordinary objects
and arrays, so the guards against proxies, accessors, sparse arrays and cycles
have nothing to reject. SHA-256, number printing and collation come from the
runtime.
-/

namespace CanonicalJson

open Checks CodeUnits JsonText

/-- What printing a value takes from the JavaScript runtime. -/
structure JsonRuntime where
  number : NumberText
  /-- `a.localeCompare(b, "en")` -/
  localeCompareEn : String → String → Ordering
  collationEn : Std.TransCmp localeCompareEn

structure Runtime extends JsonRuntime where
  /-- `createHash("sha256").update(text).digest("hex")` -/
  sha256 : String → String
  /-- `a.localeCompare(b)`, in the locale the runtime was built with. -/
  localeCompare : String → String → Ordering
  collation : Std.TransCmp localeCompare

structure CanonicalJsonLimits where
  maxBytes : Nat
  maxDepth : Nat
  maxNodes : Nat
  maxArrayLength : Nat
  maxObjectKeys : Nat
  maxStringLength : Nat
  maxKeyLength : Nat
deriving DecidableEq, Repr

def providerResponseLimits : CanonicalJsonLimits where
  maxBytes := 64 * 1024
  maxDepth := 16
  maxNodes := 4096
  maxArrayLength := 1024
  maxObjectKeys := 1024
  maxStringLength := 8192
  maxKeyLength := 256

/-- Canonical comparison limits for the full evidence envelope. -/
def providerEvidenceJsonLimits : CanonicalJsonLimits :=
  { providerResponseLimits with
    maxBytes := 96 * 1024
    maxStringLength := 64 * 1024 }

/-- The properties that every object inherits. -/
def inheritedNames : List String :=
  ["constructor", "__defineGetter__", "__defineSetter__", "hasOwnProperty", "__lookupGetter__",
    "__lookupSetter__", "isPrototypeOf", "propertyIsEnumerable", "toString", "valueOf", "__proto__",
    "toLocaleString"]

/-- `encoder.encode(fragment).byteLength` -/
def byteLength (fragment : List Char) : Nat := (fragment.map Char.utf8Size).sum

/-- The running `nodes` and `bytes` of one traversal. -/
structure Spent where
  nodes : Nat
  bytes : Nat
deriving DecidableEq, Repr

section
variable (runtime : JsonRuntime) (limits : CanonicalJsonLimits)

def charge (fragment : List Char) (spent : Spent) : Except String Spent := do
  let bytes := spent.bytes + byteLength fragment
  throwIf (bytes > limits.maxBytes) "canonical JSON exceeds byte limit"
  return { spent with bytes }

def charged (fragment : List Char) (spent : Spent) : Except String (List Char × Spent) := do
  let spent ← charge limits fragment spent
  return (fragment, spent)

/-- `values.map(f)` with the traversal's counters threaded through. -/
def mapSpent {α : Type} (f : α → Spent → Except String (List Char × Spent)) :
    List α → Spent → Except String (List (List Char) × Spent)
  | [], spent => return ([], spent)
  | x :: xs, spent => do
    let (part, spent) ← f x spent
    let (parts, spent) ← mapSpent f xs spent
    return (part :: parts, spent)

/-- `parts.join(",")` -/
def join (parts : List (List Char)) : List Char := List.intercalate [','] parts

/-- `Object.keys(input).sort((a, b) => a.localeCompare(b, "en"))`, with the values. -/
def keyOrder (a b : String) : Bool := runtime.localeCompareEn a b != .gt

def sortedFields (fields : List (String × Value)) : List (String × Value) :=
  fields.insertionSort (fun a b => keyOrder runtime a.1 b.1)

/-- One field of an object, its key charged before its value is visited. -/
def visitField (visit : Value → Spent → Except String (List Char × Spent))
    (field : String × Value) (spent : Spent) : Except String (List Char × Spent) := do
  throwIf (utf16Length field.1 > limits.maxKeyLength) "canonical JSON key is too long"
  let spent ← charge limits (quote field.1 ++ [':']) spent
  let (part, spent) ← visit field.2 spent
  return (quote field.1 ++ ':' :: part, spent)

/-- `visit`, with the depth counted down from the limit. -/
def visit : Nat → Value → Spent → Except String (List Char × Spent)
  | remaining, input, spent => do
    let spent := { spent with nodes := spent.nodes + 1 }
    throwIf (spent.nodes > limits.maxNodes) "canonical JSON exceeds node limit"
    match remaining with
    | 0 => .error "canonical JSON exceeds nesting depth"
    | deeper + 1 =>
      match input with
      | .null => charged limits (text runtime.number .null) spent
      | .bool b => charged limits (text runtime.number (.bool b)) spent
      | .num q => charged limits (text runtime.number (.num q)) spent
      | .str s => do
        throwIf (utf16Length s > limits.maxStringLength) "canonical JSON string is too long"
        charged limits (quote s) spent
      | .arr values => do
        throwIf (values.length > limits.maxArrayLength) "canonical JSON array is too long"
        let spent ← charge limits ('[' :: (List.replicate (values.length - 1) ',' ++ [']'])) spent
        let (parts, spent) ← mapSpent (visit deeper) values spent
        return ('[' :: (join parts ++ [']']), spent)
      | .obj fields => do
        let keys := sortedFields runtime fields
        throwIf (keys.length > limits.maxObjectKeys) "canonical JSON object has too many keys"
        let spent ← charge limits ('{' :: (List.replicate (keys.length - 1) ',' ++ ['}'])) spent
        let (parts, spent) ← mapSpent (visitField limits (visit deeper)) keys spent
        return ('{' :: (join parts ++ ['}']), spent)

def isContainer : Value → Bool
  | .arr _ => true
  | .obj _ => true
  | _ => false

def canonicalJsonString (value : Value) : Except String String := do
  throwIf (isContainer value = false) "canonical JSON must contain an object or array"
  let (json, _) ← visit runtime limits (limits.maxDepth + 1) value ⟨0, 0⟩
  return String.ofList json

end

/-- Full experiment envelopes are larger than individual vendor response diagnostics. -/
def evidenceLimits : CanonicalJsonLimits where
  maxBytes := 32 * 1024 * 1024
  maxDepth := 64
  maxNodes := 1000000
  maxArrayLength := 100000
  maxObjectKeys := 10000
  maxStringLength := 1024 * 1024
  maxKeyLength := 1024

def evidenceDigest (runtime : Runtime) (value : Value) : Except String String := do
  let json ← canonicalJsonString runtime.toJsonRuntime evidenceLimits value
  return "sha256:" ++ runtime.sha256 json

/-- `canonicalJsonEqual`: a value out of bounds equals nothing. -/
def canonicalJsonEqual (runtime : JsonRuntime) (left right : Value) : Bool :=
  match canonicalJsonString runtime providerResponseLimits left,
      canonicalJsonString runtime providerResponseLimits right with
  | .ok l, .ok r => l == r
  | _, _ => false

/-! ### The canonical text is the text of the value with sorted keys -/

variable {runtime : JsonRuntime} {limits : CanonicalJsonLimits}

lemma charged_ok {fragment out : List Char} {spent spent' : Spent}
    (h : charged limits fragment spent = .ok (out, spent')) : out = fragment := by
  simp only [charged, bind_eq_ok, pure_eq_ok, Prod.mk.injEq] at h
  obtain ⟨_, _, rfl, _⟩ := h
  rfl

lemma mapSpent_ok {α : Type} {f : α → Spent → Except String (List Char × Spent)}
    {g : α → List Char} (spec : ∀ x spent out spent', f x spent = .ok (out, spent') → out = g x)
    {xs : List α} {spent spent' : Spent} {parts : List (List Char)}
    (h : mapSpent f xs spent = .ok (parts, spent')) : parts = xs.map g := by
  induction xs generalizing spent spent' parts with
  | nil =>
    simp only [mapSpent, pure_eq_ok, Prod.mk.injEq] at h
    exact h.1.symm
  | cons x xs ih =>
    simp only [mapSpent, bind_eq_ok, pure_eq_ok, Prod.mk.injEq] at h
    obtain ⟨⟨part, between⟩, here, ⟨more, _⟩, rest, rfl, _⟩ := h
    rw [spec x _ _ _ here, ih rest, List.map_cons]

lemma join_cons (part : List Char) (parts : List (List Char)) :
    join (part :: parts) = part ++ parts.flatMap (fun p => ',' :: p) := by
  induction parts generalizing part with
  | nil => simp [join]
  | cons q parts ih =>
    have ih := ih q
    simp only [join, List.intercalate] at ih ⊢
    rw [List.intersperse_cons_cons, List.flatten_cons, List.flatten_cons, ih, List.flatMap_cons]
    simp

lemma textMoreItems_eq (items : List Value) : textMoreItems runtime.number items =
    (items.map (text runtime.number)).flatMap (fun p => ',' :: p) ++ [']'] := by
  induction items with
  | nil => rfl
  | cons item items ih => simp [textMoreItems, ih]

lemma textItems_eq (items : List Value) :
    textItems runtime.number items = join (items.map (text runtime.number)) ++ [']'] := by
  cases items with
  | nil => rfl
  | cons item items =>
    rw [textItems, textMoreItems_eq, List.map_cons, join_cons, List.append_assoc]

lemma textMoreFields_eq (fields : List (String × Value)) : textMoreFields runtime.number fields =
    (fields.map (textField runtime.number)).flatMap (fun p => ',' :: p) ++ ['}'] := by
  induction fields with
  | nil => rfl
  | cons field fields ih => simp [textMoreFields, ih]

lemma textFields_eq (fields : List (String × Value)) :
    textFields runtime.number fields = join (fields.map (textField runtime.number)) ++ ['}'] := by
  cases fields with
  | nil => rfl
  | cons field fields =>
    rw [textFields, textMoreFields_eq, List.map_cons, join_cons, List.append_assoc]

/-- Sorting by key commutes with sorting inside the values. -/
lemma sortedFields_sortKeys (fields : List (String × Value)) :
    (sortedFields runtime fields).map (fun f => (f.1, sortKeys (keyOrder runtime) f.2)) =
      (sortKeysFields (keyOrder runtime) fields).insertionSort
        (fun a b => keyOrder runtime a.1 b.1) := by
  rw [sortKeysFields_eq_map, sortedFields]
  apply List.map_insertionSort
  intro a _ b _
  exact Iff.rfl

/-- What one visit returns, whatever the limits let pass. -/
theorem visit_ok {remaining : Nat} {input : Value} {spent spent' : Spent} {out : List Char}
    (h : visit runtime limits remaining input spent = .ok (out, spent')) :
    out = text runtime.number (sortKeys (keyOrder runtime) input) := by
  induction remaining generalizing input spent spent' out with
  | zero =>
    simp only [visit, bind_eq_ok, throwIf_eq_ok] at h
    obtain ⟨_, _, bad⟩ := h
    exact absurd bad (by simp)
  | succ deeper ih =>
    cases input with
    | null =>
      simp only [visit, bind_eq_ok, throwIf_eq_ok] at h
      obtain ⟨_, _, h⟩ := h
      exact charged_ok h
    | bool b =>
      simp only [visit, bind_eq_ok, throwIf_eq_ok] at h
      obtain ⟨_, _, h⟩ := h
      exact charged_ok h
    | num q =>
      simp only [visit, bind_eq_ok, throwIf_eq_ok] at h
      obtain ⟨_, _, h⟩ := h
      exact charged_ok h
    | str s =>
      simp only [visit, bind_eq_ok, throwIf_eq_ok] at h
      obtain ⟨_, _, _, _, h⟩ := h
      exact charged_ok h
    | arr values =>
      simp only [visit, bind_eq_ok, throwIf_eq_ok, pure_eq_ok, Prod.mk.injEq] at h
      obtain ⟨_, _, _, _, _, _, ⟨parts, _⟩, mapped, rfl, _⟩ := h
      rw [mapSpent_ok (fun x _ _ _ hx => ih hx) mapped, sortKeys, sortKeysItems_eq_map, text,
        textItems_eq, List.map_map]
      rfl
    | obj fields =>
      simp only [visit, bind_eq_ok, throwIf_eq_ok, pure_eq_ok, Prod.mk.injEq] at h
      obtain ⟨_, _, _, _, _, _, ⟨parts, _⟩, mapped, rfl, _⟩ := h
      have field : ∀ f spent out spent', visitField limits (visit runtime limits deeper) f spent =
          .ok (out, spent') →
          out = textField runtime.number (f.1, sortKeys (keyOrder runtime) f.2) := by
        intro f spent out spent' hf
        simp only [visitField, bind_eq_ok, throwIf_eq_ok, pure_eq_ok, Prod.mk.injEq] at hf
        obtain ⟨_, _, _, _, ⟨part, _⟩, visited, rfl, _⟩ := hf
        rw [ih visited, textField]
      rw [mapSpent_ok field mapped, sortKeys, ← sortedFields_sortKeys, text, textFields_eq,
        List.map_map]
      rfl

theorem canonicalJsonString_ok {value : Value} {json : String}
    (h : canonicalJsonString runtime limits value = .ok json) :
    json = String.ofList (text runtime.number (sortKeys (keyOrder runtime) value)) := by
  simp only [canonicalJsonString, bind_eq_ok, pure_eq_ok] at h
  obtain ⟨_, _, ⟨out, _⟩, visited, rfl⟩ := h
  rw [visit_ok visited]

/-- Two values with one canonical text differ at most in the order of object fields. -/
theorem canonicalJsonString_injective {value value' : Value} {json : String}
    (h : canonicalJsonString runtime limits value = .ok json)
    (h' : canonicalJsonString runtime limits value' = .ok json) :
    sortKeys (keyOrder runtime) value = sortKeys (keyOrder runtime) value' := by
  have same := (canonicalJsonString_ok h).symm.trans (canonicalJsonString_ok h')
  exact text_injective (String.ofList_injective same)

/-- A digest determines its value up to the order of fields, unless two texts collide. -/
theorem evidenceDigest_determines {runtime : Runtime} {value value' : Value} {digest : String}
    (apart : ∀ json json',
      canonicalJsonString runtime.toJsonRuntime evidenceLimits value = .ok json →
      canonicalJsonString runtime.toJsonRuntime evidenceLimits value' = .ok json' →
      runtime.sha256 json = runtime.sha256 json' → json = json')
    (h : evidenceDigest runtime value = .ok digest)
    (h' : evidenceDigest runtime value' = .ok digest) :
    sortKeys (keyOrder runtime.toJsonRuntime) value =
      sortKeys (keyOrder runtime.toJsonRuntime) value' := by
  simp only [evidenceDigest, bind_eq_ok, pure_eq_ok] at h h'
  obtain ⟨json, canonical, prefixed⟩ := h
  obtain ⟨json', canonical', prefixed'⟩ := h'
  have chars := congrArg String.toList (prefixed.trans prefixed'.symm)
  rw [String.toList_append, String.toList_append] at chars
  have hashes := String.toList_injective (List.append_cancel_left chars)
  have same := apart json json' canonical canonical' hashes
  subst same
  exact canonicalJsonString_injective canonical canonical'

/-- With an injective hash, a digest determines its value up to the order of fields. -/
theorem evidenceDigest_injective {runtime : Runtime} (hash : Function.Injective runtime.sha256)
    {value value' : Value} {digest : String}
    (h : evidenceDigest runtime value = .ok digest)
    (h' : evidenceDigest runtime value' = .ok digest) :
    sortKeys (keyOrder runtime.toJsonRuntime) value =
      sortKeys (keyOrder runtime.toJsonRuntime) value' :=
  evidenceDigest_determines (fun _ _ _ _ same => hash same) h h'

/-! ### Refused documents -/

/-- A string somewhere in a document. -/
inductive HasString (s : String) : Value → Prop
  | here : HasString s (.str s)
  | item {items : List Value} {v : Value} : v ∈ items → HasString s v → HasString s (.arr items)
  | field {fields : List (String × Value)} {key : String} {v : Value} :
    (key, v) ∈ fields → HasString s v → HasString s (.obj fields)

lemma visited_of_mapSpent {α : Type} {f : α → Spent → Except String (List Char × Spent)}
    {xs : List α} {spent : Spent} {out : List (List Char) × Spent}
    (h : mapSpent f xs spent = .ok out) {x : α} (hx : x ∈ xs) :
    ∃ before part, f x before = .ok part := by
  induction xs generalizing spent out with
  | nil => cases hx
  | cons y ys ih =>
    simp only [mapSpent, bind_eq_ok, pure_eq_ok] at h
    obtain ⟨part, here, more, rest, _⟩ := h
    rcases List.mem_cons.mp hx with rfl | later
    · exact ⟨spent, part, here⟩
    · exact ih rest later

theorem short_of_visit {s : String} {input : Value} (held : HasString s input) {remaining : Nat}
    {spent : Spent} {out : List Char × Spent}
    (h : visit runtime limits remaining input spent = .ok out) :
    utf16Length s ≤ limits.maxStringLength := by
  induction held generalizing remaining spent out with
  | here =>
    cases remaining with
    | zero => simp [visit] at h
    | succ deeper =>
      simp only [visit, bind_eq_ok, throwIf_eq_ok, not_lt, gt_iff_lt] at h
      obtain ⟨_, _, _, short, _⟩ := h
      exact short
  | item member _ ih =>
    cases remaining with
    | zero => simp [visit] at h
    | succ deeper =>
      simp only [visit, bind_eq_ok, pure_eq_ok] at h
      obtain ⟨_, _, _, _, _, _, _, mapped, _⟩ := h
      obtain ⟨_, _, visited⟩ := visited_of_mapSpent mapped member
      exact ih visited
  | @field fields key v member _ ih =>
    cases remaining with
    | zero => simp [visit] at h
    | succ deeper =>
      simp only [visit, bind_eq_ok, pure_eq_ok] at h
      obtain ⟨_, _, _, _, _, _, _, mapped, _⟩ := h
      have sorted : (key, v) ∈ sortedFields runtime fields :=
        (List.perm_insertionSort _ fields).mem_iff.mpr member
      obtain ⟨_, _, visited⟩ := visited_of_mapSpent mapped sorted
      simp only [visitField, bind_eq_ok] at visited
      obtain ⟨_, _, _, _, _, visited, _⟩ := visited
      exact ih visited

/-- A document with a string beyond the limit has no digest. -/
theorem evidenceDigest_refuses {runtime : Runtime} {value : Value} {s : String}
    (held : HasString s value) (long : evidenceLimits.maxStringLength < utf16Length s) :
    ∃ error, evidenceDigest runtime value = .error error := by
  cases digested : evidenceDigest runtime value with
  | error error => exact ⟨error, rfl⟩
  | ok digest =>
    simp only [evidenceDigest, canonicalJsonString, bind_eq_ok] at digested
    obtain ⟨_, ⟨_, _, _, visited, _⟩, _⟩ := digested
    exact absurd (short_of_visit held visited) (Nat.not_le.mpr long)

/-! ### A runtime to evaluate with -/

/-- Code-unit order, which agrees with collation on lower-case identifiers. -/
def byCodeUnits (a b : String) : Ordering := compare (units a) (units b)

instance : Std.TransCmp byCodeUnits where
  eq_swap := @fun a b => Std.OrientedOrd.eq_swap (a := units a) (b := units b)
  isLE_trans := @fun a b c => Std.TransOrd.isLE_trans (a := units a) (b := units b) (c := units c)

def plainJson : JsonRuntime where
  number := decimal
  localeCompareEn := byCodeUnits
  collationEn := inferInstance

/-- Hashes are the hashed texts. -/
def plainRuntime : Runtime where
  toJsonRuntime := plainJson
  sha256 := id
  localeCompare := byCodeUnits
  collation := inferInstance

/-- A runtime whose hash is readable, except that `sealed` hashes to 64 zeros. -/
def sealing (value : Value) : Runtime where
  toJsonRuntime := plainJson
  sha256 := fun text =>
    if canonicalJsonString plainJson evidenceLimits value = .ok text then
      String.ofList (List.replicate 64 '0')
    else "x" ++ text
  localeCompare := byCodeUnits
  collation := inferInstance

lemma sealing_injective (value : Value) : Function.Injective (sealing value).sha256 := by
  have apart : ∀ text, "x" ++ text ≠ String.ofList (List.replicate 64 '0') := by
    intro text same
    have chars := congrArg String.toList same
    rw [String.toList_append, String.toList_ofList] at chars
    exact absurd (congrArg List.head? chars) (by simp)
  intro a b h
  simp only [sealing] at h
  split at h
  · rename_i ha
    split at h
    · rename_i hb
      exact Except.ok.inj (ha.symm.trans hb)
    · exact absurd h.symm (apart b)
  · split at h
    · exact absurd h (apart a)
    · have chars := congrArg String.toList h
      rw [String.toList_append, String.toList_append] at chars
      exact String.toList_injective (List.append_cancel_left chars)

/-- Printing a value only fails on its limits. -/
lemma canonicalJsonString_of_visit (runtime : JsonRuntime) (limits : CanonicalJsonLimits)
    (value : Value) (container : isContainer value = true)
    (fits : (visit runtime limits (limits.maxDepth + 1) value ⟨0, 0⟩).isOk = true) :
    ∃ json, canonicalJsonString runtime limits value = .ok json := by
  cases visited : visit runtime limits (limits.maxDepth + 1) value ⟨0, 0⟩ with
  | error e => simp [visited, Except.isOk, Except.toBool] at fits
  | ok out =>
    refine ⟨String.ofList out.1, ?_⟩
    simp [canonicalJsonString, container, throwIf, visited, pure, Except.pure]

lemma sealing_digest {value : Value} {json : String}
    (h : canonicalJsonString plainJson evidenceLimits value = .ok json) :
    evidenceDigest (sealing value) value =
      .ok ("sha256:" ++ String.ofList (List.replicate 64 '0')) := by
  simp only [evidenceDigest, ok_bind, sealing, h, if_true]
  rfl

lemma digest_exists (value : Value) {other : Value} {json : String}
    (h : canonicalJsonString plainJson evidenceLimits other = .ok json) :
    ∃ digest, evidenceDigest (sealing value) other = .ok digest := by
  have printed : canonicalJsonString (sealing value).toJsonRuntime evidenceLimits other =
      .ok json := h
  refine ⟨"sha256:" ++ (sealing value).sha256 json, ?_⟩
  simp [evidenceDigest, printed, pure, Except.pure]

end CanonicalJson
