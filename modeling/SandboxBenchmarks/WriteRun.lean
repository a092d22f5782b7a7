import Mathlib.Data.List.Induction
import SandboxBenchmarks.Library.Superseding
import SandboxBenchmarks.Library.Sorting
import SandboxBenchmarks.RunFacts

/-!
# The index of Runs

`updateRunIndex` of `packages/results/src/lib/write-run.ts`, with `runDocumentPaths`,
`runIndexEntrySchema` and `runIndexSchema` of `packages/schema/src/run.ts`. The index file
is the document last written to it, and `relative(dirname(index), file)` is a parameter.
-/

namespace WriteRun

open Checks CanonicalJson RunModel RunSchema Superseding

structure RunIndexEntry where
  runId : String
  generatedAt : String
  path : String
  replicateIndex : Option ℕ
deriving DecidableEq, Repr

structure RunIndex where
  schemaVersion : String
  runs : List RunIndexEntry
deriving DecidableEq, Repr

variable (runtime : Runtime) (catalog : Catalog)

/-! ### Documents and their names -/

def runDocumentPath (runId : String) (replicateIndex : Option ℕ) : String :=
  let suffix := match replicateIndex with
    | none => ""
    | some index => "-r" ++ runtime.number.print index
  "runs/" ++ runId ++ suffix ++ ".json"

def runDocumentPaths (runId : String) (replicateIndex : Option ℕ) : List String :=
  let canonical := runDocumentPath runtime runId replicateIndex
  match replicateIndex with
  | none => [canonical]
  | some _ => [canonical, runDocumentPath runtime runId none]

def quoted (allowed : List String) : String :=
  " or ".intercalate (allowed.map fun path => "\"" ++ path ++ "\"")

def runIndexEntrySchema (entry : RunIndexEntry) : Except String Unit := do
  throwIf (runIdSchema entry.runId = false) "runId"
  throwIf (catalog.iso entry.generatedAt = false) "generatedAt"
  throwIf (entry.path = "") "path"
  let allowed := runDocumentPaths runtime entry.runId entry.replicateIndex
  throwIf (entry.path ∉ allowed) ("a RunIndex entry whose path is " ++ quoted allowed)

/-- An entry stands before a newer one. -/
def outOfOrder (runs : List RunIndexEntry) : Bool :=
  (runs.zip runs.tail).any fun (prev, curr) => CodeUnits.lt prev.generatedAt curr.generatedAt

/-- `runIndexSchema` -/
def parseRunIndex (index : RunIndex) : Except String RunIndex := do
  throwIf (index.schemaVersion ≠ "1") "schemaVersion"
  forM index.runs (runIndexEntrySchema runtime catalog)
  throwIf (outOfOrder index.runs = true)
    "a RunIndex whose runs are ordered newest-first by generatedAt"
  return index

/-! ### One update -/

variable (relative : String → String → String) (indexPath : String)

/-- A call for the index at `indexPath`. -/
structure Call where
  run : Run
  runFilePath : String

def pathOf (call : Call) : String :=
  (relative indexPath call.runFilePath).map fun c => if c = '\\' then '/' else c

def entryOf (call : Call) : RunIndexEntry where
  runId := call.run.runId
  generatedAt := call.run.generatedAt
  path := pathOf relative indexPath call
  replicateIndex := call.run.replicateIndex

/-- The Run document is where its identity allows. -/
def placed (call : Call) : Bool :=
  pathOf relative indexPath call ∈ runDocumentPaths runtime call.run.runId call.run.replicateIndex

def misplaced (call : Call) : String :=
  let path := pathOf relative indexPath call
  let identity := match call.run.replicateIndex with
    | none => "Run " ++ call.run.runId
    | some index => "Run " ++ call.run.runId ++ " replicate " ++ runtime.number.print index
  let start := "RunIndex " ++ indexPath ++ " cannot describe " ++ call.runFilePath ++ ": "
  if "runs/".toList <+: path.toList then
    start ++ identity ++ " must be written as " ++
      quoted (runDocumentPaths runtime call.run.runId call.run.replicateIndex) ++
      " relative to its index, but this one resolves to \"" ++ path ++ "\""
  else
    start ++ "a Run index must sit at the ROOT of the tree holding its Runs (which live under " ++
      "\"runs/\"), but this Run resolves to \"" ++ path ++ "\" relative to the index"

def identity (entry : RunIndexEntry) : String × Option ℕ := (entry.runId, entry.replicateIndex)

/-- By identity or by location. -/
def Supersedes (entry earlier : RunIndexEntry) : Prop :=
  identity earlier = identity entry ∨ earlier.path = entry.path

instance : DecidableRel Supersedes := fun entry earlier =>
  inferInstanceAs (Decidable (identity earlier = identity entry ∨ earlier.path = entry.path))

/-- `b.generatedAt.localeCompare(a.generatedAt, "en") <= 0` -/
def newestFirst (a b : RunIndexEntry) : Prop :=
  Sorting.upTo runtime.localeCompareEn (·.generatedAt) b a

instance : DecidableRel (newestFirst runtime) := fun a b =>
  inferInstanceAs (Decidable (Sorting.upTo runtime.localeCompareEn (·.generatedAt) b a))

/-- The entries on file; a missing index is the first-run case. -/
def existingIndex (file : Option RunIndex) : Except String RunIndex :=
  match file with
  | none => .ok ⟨"1", []⟩
  | some index => parseRunIndex runtime catalog index

/-- The index it writes and returns; an error leaves the file as it was. -/
def updateRunIndex (file : Option RunIndex) (call : Call) : Except String RunIndex := do
  let existing ← existingIndex runtime catalog file
  throwIf (placed runtime relative indexPath call = false) (misplaced runtime relative indexPath call)
  let runs := (supersede Supersedes (entryOf relative indexPath call) existing.runs).insertionSort
    (newestFirst runtime)
  parseRunIndex runtime catalog ⟨"1", runs⟩

/-- The file after a call. -/
def update (file : Option RunIndex) (call : Call) : Option RunIndex :=
  match updateRunIndex runtime catalog relative indexPath file call with
  | .ok index => some index
  | .error _ => file

/-- The file after calls in order, from before the first. -/
def updates (calls : List Call) : Option RunIndex :=
  calls.foldl (update runtime catalog relative indexPath) none

/-! ### Timestamps and their collation -/

def digits : List Char := ['0', '1', '2', '3', '4', '5', '6', '7', '8', '9']

/-- The characters of a timestamp, in the order of their primary weights in the root collation. -/
def stampCharacters : List Char := ['-', ':', '.'] ++ digits ++ ['T', 'Z']

def stampWeight (c : Char) : ℕ := stampCharacters.idxOf c

/-- A place of a pattern is a digit or that very character. -/
def Fits (place c : Char) : Prop := if place = 'd' then c ∈ digits else c = place

instance (place c : Char) : Decidable (Fits place c) :=
  inferInstanceAs (Decidable (if place = 'd' then c ∈ digits else c = place))

def Shaped (pattern : String) (s : String) : Prop := List.Forall₂ Fits pattern.toList s.toList

/-- What `toISOString` writes of a year from 0 to 9999. -/
def PlainStamp (s : String) : Prop := Shaped "dddd-dd-ddTdd:dd:dd.dddZ" s

/-- What it writes of any other year. -/
def ExpandedStamp (s : String) : Prop :=
  Shaped "+dddddd-dd-ddTdd:dd:dd.dddZ" s ∨ Shaped "-dddddd-dd-ddTdd:dd:dd.dddZ" s

/-- Strings of these characters are compared by their primary weights, from left to right. -/
def CollatesStamps (localeCompareEn : String → String → Ordering) : Prop :=
  ∀ a b : String, (∀ c ∈ a.toList ++ b.toList, c ∈ stampCharacters) →
    (localeCompareEn a b = .lt ↔ a.toList.map stampWeight < b.toList.map stampWeight)

/-- A Run, generated at a time that `toISOString` wrote. -/
def Stamped (call : Call) : Prop :=
  parseRun catalog call.run = .ok call.run ∧
    (PlainStamp call.run.generatedAt ∨ ExpandedStamp call.run.generatedAt)

variable {runtime catalog relative indexPath}

/-! ### Timestamps in code-unit order are collated in that order -/

theorem mem_stampCharacters {place c : Char} (fits : Fits place c)
    (stamp : place = 'd' ∨ place ∈ stampCharacters) : c ∈ stampCharacters := by
  rw [Fits] at fits
  split at fits
  · exact List.mem_append_left _ (List.mem_append_right _ fits)
  · rename_i literal
    exact fits ▸ stamp.resolve_left literal

theorem stampWeight_lt {place a b : Char} (fa : Fits place a) (fb : Fits place b)
    (less : a.toNat < b.toNat) : stampWeight a < stampWeight b := by
  have ascending : ∀ a ∈ digits, digits.Forall fun b =>
      a.toNat < b.toNat → stampWeight a < stampWeight b :=
    List.forall_iff_forall_mem.1 (by decide)
  rw [Fits] at fa fb
  split at fa
  · rename_i digit
    rw [if_pos digit] at fb
    exact List.forall_iff_forall_mem.1 (ascending a fa) b fb less
  · rename_i literal
    rw [if_neg literal] at fb
    rw [fa, fb] at less
    exact absurd less (lt_irrefl _)

/-- Induction on the common pattern: the first places that differ are both digits. -/
theorem weights_lt {pattern a b : List Char} (fa : List.Forall₂ Fits pattern a)
    (fb : List.Forall₂ Fits pattern b) (less : a.map Char.toNat < b.map Char.toNat) :
    a.map stampWeight < b.map stampWeight := by
  induction fa generalizing b with
  | nil =>
    cases fb
    exact absurd less (lt_irrefl _)
  | cons fits _ ih =>
    cases fb with
    | cons fits' rest' =>
      rw [List.map_cons, List.map_cons, List.cons_lt_cons_iff] at less ⊢
      rcases less with first | ⟨same, rest⟩
      · exact Or.inl (stampWeight_lt fits fits' first)
      · exact Or.inr ⟨congrArg stampWeight (Char.toNat_inj.mp same), ih rest' rest⟩

theorem units_of_stamp {s : String} (stamp : ∀ c ∈ s.toList, c ∈ stampCharacters) :
    CodeUnits.units s = s.toList.map Char.toNat := by
  have small : ∀ c ∈ stampCharacters, CodeUnits.unitsOf c = [c.toNat] :=
    List.forall_iff_forall_mem.1 (by decide)
  rw [CodeUnits.units]
  generalize s.toList = l at stamp
  induction l with
  | nil => rfl
  | cons c l ih =>
    rw [List.flatMap_cons, small c (stamp c List.mem_cons_self),
      ih fun c member => stamp c (List.mem_cons_of_mem _ member)]
    rfl

theorem exists_place {pattern l : List Char} (shaped : List.Forall₂ Fits pattern l) {c : Char}
    (member : c ∈ l) : ∃ place ∈ pattern, Fits place c := by
  induction shaped with
  | nil => exact absurd member List.not_mem_nil
  | cons fits _ ih =>
    rcases List.mem_cons.mp member with rfl | inside
    · exact ⟨_, List.mem_cons_self, fits⟩
    · obtain ⟨place, inPattern, fits⟩ := ih inside
      exact ⟨place, List.mem_cons_of_mem _ inPattern, fits⟩

theorem PlainStamp.characters {s : String} (plain : PlainStamp s) :
    ∀ c ∈ s.toList, c ∈ stampCharacters := by
  have places : ∀ place ∈ "dddd-dd-ddTdd:dd:dd.dddZ".toList,
      place = 'd' ∨ place ∈ stampCharacters := List.forall_iff_forall_mem.1 (by decide)
  intro c member
  obtain ⟨place, inPattern, fits⟩ := exists_place plain member
  exact mem_stampCharacters fits (places place inPattern)

theorem collated {localeCompareEn : String → String → Ordering}
    (collates : CollatesStamps localeCompareEn) {a b : String} (pa : PlainStamp a)
    (pb : PlainStamp b) (less : CodeUnits.lt a b = true) : localeCompareEn a b = .lt := by
  refine (collates a b ?_).mpr (weights_lt pa pb ?_)
  · intro c member
    exact (List.mem_append.mp member).elim (pa.characters c) (pb.characters c)
  · rw [CodeUnits.lt, decide_eq_true_eq] at less
    rwa [units_of_stamp pa.characters, units_of_stamp pb.characters] at less

/-! ### The validation of the index -/

theorem runIndexEntrySchema_ok_iff {entry : RunIndexEntry} :
    runIndexEntrySchema runtime catalog entry = .ok () ↔ runIdSchema entry.runId = true ∧
      catalog.iso entry.generatedAt = true ∧ entry.path ≠ "" ∧
      entry.path ∈ runDocumentPaths runtime entry.runId entry.replicateIndex := by
  simp [runIndexEntrySchema, bind_eq_ok, throwIf_eq_ok]

theorem parseRunIndex_ok_iff {index index' : RunIndex} :
    parseRunIndex runtime catalog index = .ok index' ↔ index' = index ∧ index.schemaVersion = "1" ∧
      (∀ entry ∈ index.runs, runIndexEntrySchema runtime catalog entry = .ok ()) ∧
      outOfOrder index.runs = false := by
  simp only [parseRunIndex, bind_eq_ok, throwIf_eq_ok, forM_eq_ok, pure_eq_ok, exists_const, not_not,
    Bool.not_eq_true]
  constructor
  · rintro ⟨version, entries, ordered, rfl⟩
    exact ⟨rfl, version, entries, ordered⟩
  · rintro ⟨rfl, version, entries, ordered⟩
    exact ⟨version, entries, ordered, rfl⟩

theorem ne_empty_of_mem_paths {path runId : String} {replicateIndex : Option ℕ}
    (allowed : path ∈ runDocumentPaths runtime runId replicateIndex) : path ≠ "" := by
  rintro rfl
  have long : ∀ index, runDocumentPath runtime runId index ≠ "" := by
    intro index same
    have texts := congrArg String.length same
    simp only [runDocumentPath, String.length_append] at texts
    have : ".json".length = 5 := by decide
    have : "".length = 0 := by decide
    omega
  cases replicateIndex with
  | none => exact long none (List.mem_singleton.mp allowed).symm
  | some index =>
    rcases List.mem_cons.mp allowed with canonical | plain
    · exact long (some index) canonical.symm
    · exact long none (List.mem_singleton.mp plain).symm

/-- What a sorted list of entries shows to the validator. -/
def NewestFirst (runs : List RunIndexEntry) : Prop :=
  runs.Pairwise fun prev curr => CodeUnits.lt prev.generatedAt curr.generatedAt = false

theorem NewestFirst.ordered {runs : List RunIndexEntry} (newest : NewestFirst runs) :
    outOfOrder runs = false := by
  induction runs with
  | nil => rfl
  | cons first rest ih =>
    obtain ⟨above, later⟩ := List.pairwise_cons.mp newest
    cases rest with
    | nil => rfl
    | cons second rest =>
      have here := above second List.mem_cons_self
      simpa [outOfOrder, here] using ih later

instance : Std.Total (newestFirst runtime) where
  total a b :=
    have := runtime.collationEn
    ((Sorting.total_upTo runtime.localeCompareEn RunIndexEntry.generatedAt).total a b).symm

instance : IsTrans RunIndexEntry (newestFirst runtime) where
  trans a b c hab hbc :=
    have := runtime.collationEn
    (Sorting.trans_upTo runtime.localeCompareEn RunIndexEntry.generatedAt).trans c b a hbc hab

/-- Collation sorts timestamps the way the validator wants them. -/
theorem newest_sort (collates : CollatesStamps runtime.localeCompareEn) {runs : List RunIndexEntry}
    (plain : ∀ entry ∈ runs, PlainStamp entry.generatedAt) :
    NewestFirst (runs.insertionSort (newestFirst runtime)) := by
  have same (entry : RunIndexEntry) : entry ∈ runs.insertionSort (newestFirst runtime) ↔
      entry ∈ runs := (List.perm_insertionSort _ runs).mem_iff
  refine (List.pairwise_insertionSort (newestFirst runtime) runs).imp_of_mem ?_
  intro prev curr inPrev inCurr notAfter
  by_contra less
  have earlier := collated collates (plain prev ((same _).mp inPrev)) (plain curr ((same _).mp inCurr))
    (Bool.eq_true_of_not_eq_false less)
  have := runtime.collationEn
  exact notAfter (Std.OrientedCmp.gt_iff_lt.mpr earlier)

/-! ### Histories of updates -/

section
variable (runtime catalog relative indexPath)

/-- The entries that calls wrote, oldest first. -/
def written (calls : List Call) : List RunIndexEntry :=
  (calls.filter (placed runtime relative indexPath)).map (entryOf relative indexPath)

/-- An index holds what of `entries` nothing later supersedes. -/
structure Describes (entries : List RunIndexEntry) (index : RunIndex) : Prop where
  accepted : parseRunIndex runtime catalog index = .ok index
  newest : NewestFirst index.runs
  paths : (index.runs.map (·.path)).Nodup
  identities : (index.runs.map identity).Nodup
  holds : ∀ entry, entry ∈ index.runs ↔ Stands Supersedes entries entry

/-- The file after `entries` were written, timestamps included. -/
def Recorded (entries : List RunIndexEntry) : Option RunIndex → Prop
  | none => entries = []
  | some index => Describes runtime catalog entries index ∧
      ∀ entry ∈ index.runs, PlainStamp entry.generatedAt

end

variable {entries : List RunIndexEntry} {file : Option RunIndex} {call : Call}

theorem Stamped.plain (stamped : Stamped catalog call)
    (expanded : ∀ s, ExpandedStamp s → catalog.iso s = false) :
    PlainStamp call.run.generatedAt := by
  obtain ⟨accepted, plain | wide⟩ := stamped
  · exact plain
  · have iso := (parseRun_ok_iff.mp accepted).2.generatedAt
    exact absurd (iso.symm.trans (expanded _ wide)) (by decide)

/-- The entries a call starts from. -/
theorem Recorded.existing (recorded : Recorded runtime catalog entries file) :
    ∃ existing : RunIndex, existingIndex runtime catalog file = .ok existing ∧
      (existing.runs.map (·.path)).Nodup ∧ (existing.runs.map identity).Nodup ∧
      (∀ entry, entry ∈ existing.runs ↔ Stands Supersedes entries entry) ∧
      ∀ entry ∈ existing.runs, PlainStamp entry.generatedAt ∧
        runIndexEntrySchema runtime catalog entry = .ok () := by
  cases file with
  | none =>
    obtain rfl : entries = [] := recorded
    refine ⟨⟨"1", []⟩, rfl, List.nodup_nil, List.nodup_nil, fun entry => ?_,
      fun _ member => absurd member List.not_mem_nil⟩
    exact ⟨fun member => absurd member List.not_mem_nil, fun stands => absurd stands not_stands_nil⟩
  | some index =>
    obtain ⟨describes, plain⟩ := recorded
    obtain ⟨-, -, schemas, -⟩ := parseRunIndex_ok_iff.mp describes.accepted
    exact ⟨index, describes.accepted, describes.paths, describes.identities, describes.holds,
      fun entry member => ⟨plain entry member, schemas entry member⟩⟩

/-- A call whose document is in its place is recorded. -/
theorem Recorded.update (collates : CollatesStamps runtime.localeCompareEn)
    (expanded : ∀ s, ExpandedStamp s → catalog.iso s = false)
    (recorded : Recorded runtime catalog entries file) (stamped : Stamped catalog call)
    (inPlace : placed runtime relative indexPath call = true) :
    ∃ index, updateRunIndex runtime catalog relative indexPath file call = .ok index ∧
      Recorded runtime catalog (entries ++ [entryOf relative indexPath call]) (some index) := by
  obtain ⟨existing, read, paths, identities, holds, kept⟩ := recorded.existing
  have run := (parseRun_ok_iff.mp stamped.1).2
  have allowed := of_decide_eq_true inPlace
  have entry_ok : runIndexEntrySchema runtime catalog (entryOf relative indexPath call) = .ok () :=
    runIndexEntrySchema_ok_iff.mpr
      ⟨run.runId, run.generatedAt, ne_empty_of_mem_paths allowed, allowed⟩
  let runs := supersede Supersedes (entryOf relative indexPath call) existing.runs
  have every : ∀ entry ∈ runs, PlainStamp entry.generatedAt ∧
      runIndexEntrySchema runtime catalog entry = .ok () := by
    intro entry member
    rcases mem_supersede.mp member with rfl | ⟨earlier, -⟩
    · exact ⟨stamped.plain expanded, entry_ok⟩
    · exact kept entry earlier
  let index : RunIndex := ⟨"1", runs.insertionSort (newestFirst runtime)⟩
  have perm : index.runs.Perm runs := List.perm_insertionSort _ runs
  have newest : NewestFirst index.runs :=
    newest_sort collates (fun entry member => (every entry member).1)
  have accepted : parseRunIndex runtime catalog index = .ok index :=
    parseRunIndex_ok_iff.mpr ⟨rfl, rfl,
      fun entry member => (every entry (perm.mem_iff.mp member)).2, newest.ordered⟩
  refine ⟨index, ?_, ⟨accepted, newest, ?_, ?_, fun entry => ?_⟩,
    fun entry member => (every entry (perm.mem_iff.mp member)).1⟩
  · rw [updateRunIndex]
    refine bind_eq_ok.mpr ⟨existing, read, bind_eq_ok.mpr ⟨(), ?_, accepted⟩⟩
    rw [throwIf_eq_ok, inPlace]
    decide
  · exact ((perm.map _).nodup_iff).mpr
      (nodup_map_supersede (fun _ _ same => Or.inr same) paths _)
  · exact ((perm.map _).nodup_iff).mpr
      (nodup_map_supersede (fun _ _ same => Or.inl same) identities _)
  · exact perm.mem_iff.trans (stands_supersede holds entry)

/-- Any other call is refused for its place. -/
theorem Recorded.refuse (recorded : Recorded runtime catalog entries file)
    (outside : placed runtime relative indexPath call = false) :
    updateRunIndex runtime catalog relative indexPath file call =
      .error (misplaced runtime relative indexPath call) := by
  obtain ⟨existing, read, -⟩ := recorded.existing
  rw [updateRunIndex, read, ok_bind, outside]
  rfl

theorem recorded_updates (collates : CollatesStamps runtime.localeCompareEn)
    (expanded : ∀ s, ExpandedStamp s → catalog.iso s = false) (calls : List Call)
    (stamped : ∀ call ∈ calls, Stamped catalog call) :
    Recorded runtime catalog (written runtime relative indexPath calls)
      (updates runtime catalog relative indexPath calls) := by
  induction calls using List.reverseRecOn with
  | nil => rfl
  | append_singleton calls call ih =>
    have recorded := ih fun c member => stamped c (List.mem_append_left _ member)
    have here := stamped call (List.mem_append_right _ (List.mem_singleton_self _))
    rw [updates, List.foldl_append, List.foldl_cons, List.foldl_nil, written, List.filter_append,
      List.map_append]
    rw [updates] at recorded
    by_cases inPlace : placed runtime relative indexPath call = true
    · obtain ⟨index, updated, next⟩ := recorded.update collates expanded here inPlace
      rw [WriteRun.update, updated]
      simpa [inPlace, written] using next
    · rw [WriteRun.update, recorded.refuse (Bool.eq_false_iff.mpr inPlace)]
      simpa [inPlace, written] using recorded

/-- The last entry under a key, such as its path or its identity, is still there unless a later one
under another key superseded it. -/
theorem Describes.last {κ : Type} {key : RunIndexEntry → κ} {index : RunIndex}
    {before after : List RunIndexEntry} {entry : RunIndexEntry}
    (describes : Describes runtime catalog (before ++ entry :: after) index)
    (last : ∀ later ∈ after, key later ≠ key entry) :
    entry ∈ index.runs ∨ ∃ later ∈ after, Supersedes later entry ∧ key later ≠ key entry := by
  rw [describes.holds]
  exact stands_or_superseded last

/-- After any calls the index holds exactly the entries that no later call superseded, newest first
and without repeated paths or identities; a further call is refused for its own place only. -/
theorem updateRunIndex_history (runtime : Runtime) (catalog : Catalog)
    (relative : String → String → String) (indexPath : String)
    (collates : CollatesStamps runtime.localeCompareEn)
    (expanded : ∀ s, ExpandedStamp s → catalog.iso s = false) (calls : List Call)
    (stamped : ∀ call ∈ calls, Stamped catalog call) :
    (match updates runtime catalog relative indexPath calls with
      | none => written runtime relative indexPath calls = []
      | some index => Describes runtime catalog (written runtime relative indexPath calls) index) ∧
    ∀ call, Stamped catalog call →
      if placed runtime relative indexPath call = true then
        ∃ index, updateRunIndex runtime catalog relative indexPath
            (updates runtime catalog relative indexPath calls) call = .ok index ∧
          Describes runtime catalog (written runtime relative indexPath calls ++
            [entryOf relative indexPath call]) index
      else
        updateRunIndex runtime catalog relative indexPath
            (updates runtime catalog relative indexPath calls) call =
          .error (misplaced runtime relative indexPath call) := by
  have recorded := @recorded_updates _ _ relative indexPath collates expanded calls stamped
  constructor
  · cases file : updates runtime catalog relative indexPath calls with
    | none =>
      rw [file] at recorded
      exact recorded
    | some index =>
      rw [file] at recorded
      exact recorded.1
  · intro call here
    split
    · rename_i inPlace
      obtain ⟨index, updated, next⟩ := recorded.update collates expanded here inPlace
      exact ⟨index, updated, next.1⟩
    · rename_i outside
      exact recorded.refuse (Bool.eq_false_iff.mpr outside)

/-! ### Two replicates under one name -/

def byStampWeight (a b : String) : Ordering :=
  compare (a.toList.map stampWeight) (b.toList.map stampWeight)

instance : Std.TransCmp byStampWeight where
  eq_swap := @fun a b =>
    Std.OrientedOrd.eq_swap (a := a.toList.map stampWeight) (b := b.toList.map stampWeight)
  isLE_trans := @fun a b c =>
    Std.TransOrd.isLE_trans (a := a.toList.map stampWeight) (b := b.toList.map stampWeight)
      (c := c.toList.map stampWeight)

def sampleRuntime : Runtime :=
  { plainRuntime with localeCompareEn := byStampWeight, collationEn := inferInstance }

theorem compare_eq_lt_iff {a b : List ℕ} : compare a b = .lt ↔ a < b := by
  show List.compareLex compare a b = .lt ↔ a < b
  induction a generalizing b with
  | nil => cases b <;> simp [List.compareLex_nil_cons, List.compareLex_nil_nil]
  | cons x a ih =>
    cases b with
    | nil => simp [List.compareLex_cons_nil]
    | cons y b =>
      rw [List.compareLex_cons_cons, List.cons_lt_cons_iff, ← @ih b]
      rcases lt_trichotomy x y with less | rfl | more
      · simp [compare_lt_iff_lt.mpr less, less]
      · simp
      · simp [compare_gt_iff_gt.mpr more, not_lt_of_gt more, ne_of_gt more]

theorem sampleRuntime_collates : CollatesStamps sampleRuntime.localeCompareEn :=
  fun _ _ _ => compare_eq_lt_iff

/-- Timestamps are accepted unless their year carries a sign. -/
def sampleCatalog : Catalog :=
  { plainCatalog with iso := fun s => s.toList.head? ≠ some '+' && s.toList.head? ≠ some '-' }

theorem sampleCatalog_expanded (s : String) (wide : ExpandedStamp s) :
    sampleCatalog.iso s = false := by
  have signed (sign : Char) {pattern : List Char} (literal : sign ≠ 'd')
      (starts : pattern.head? = some sign) (shaped : List.Forall₂ Fits pattern s.toList) :
      s.toList.head? = some sign := by
    generalize s.toList = l at shaped
    cases shaped with
    | nil => cases starts
    | cons fits _ =>
      obtain rfl := Option.some.inj starts
      rw [Fits, if_neg literal] at fits
      rw [fits]
      rfl
  rcases wide with plus | minus
  · simp [sampleCatalog, signed '+' (by decide) (by decide) plus]
  · simp [sampleCatalog, signed '-' (by decide) (by decide) minus]

def sampleCall (replicateIndex : ℕ) : Call where
  run :=
    { schemaVersion := 5, runId := "7", sha := "a", generatedAt := "2026-01-31T00:00:00.000Z",
      sourceRunUrl := none, replicateIndex := some replicateIndex, experiment := none,
      targetSpec := ⟨2, 4, none⟩, providers := [] }
  runFilePath := "runs/7.json"

theorem stamped_of_accepts {call : Call} (accepts : (parseRun catalog call.run).isOk = true)
    (plain : PlainStamp call.run.generatedAt) : Stamped catalog call := by
  refine ⟨?_, Or.inl plain⟩
  cases parsed : parseRun catalog call.run with
  | error message => simp [parsed, Except.isOk, Except.toBool] at accepts
  | ok run => rw [(parseRun_ok_iff.mp parsed).1]

theorem sampleCalls_stamped : ∀ call ∈ [sampleCall 0, sampleCall 1], Stamped sampleCatalog call := by
  have plain : PlainStamp "2026-01-31T00:00:00.000Z" := by
    rw [PlainStamp, Shaped]
    repeat first | exact .nil | refine .cons (by decide) ?_
  intro call member
  simp only [List.mem_cons, List.not_mem_nil, or_false] at member
  rcases member with rfl | rfl
  · exact stamped_of_accepts (by decide +kernel) plain
  · exact stamped_of_accepts (by decide +kernel) plain

/-- `relative` between paths that are already relative to the index. -/
def sampleRelative (_indexPath runFilePath : String) : String := runFilePath

/-- The second replicate takes the document of the first, and with it the entry of its identity. -/
theorem updateRunIndex_takes_over :
    (∀ call ∈ [sampleCall 0, sampleCall 1], Stamped sampleCatalog call) ∧ ∃ index first second,
    updates sampleRuntime sampleCatalog sampleRelative "index.json" [sampleCall 0, sampleCall 1] =
        some index ∧
      written sampleRuntime sampleRelative "index.json" [sampleCall 0, sampleCall 1] =
        [first, second] ∧
      identity second ≠ identity first ∧ first ∉ index.runs := by
  refine ⟨sampleCalls_stamped, ⟨"1", [entryOf sampleRelative "index.json" (sampleCall 1)]⟩,
    entryOf sampleRelative "index.json" (sampleCall 0),
    entryOf sampleRelative "index.json" (sampleCall 1), ?_, ?_, ?_, ?_⟩ <;> decide +kernel

theorem updateRunIndex_history_sample :
    match updates sampleRuntime sampleCatalog sampleRelative "index.json"
        [sampleCall 0, sampleCall 1] with
      | none => written sampleRuntime sampleRelative "index.json" [sampleCall 0, sampleCall 1] = []
      | some index => Describes sampleRuntime sampleCatalog
          (written sampleRuntime sampleRelative "index.json" [sampleCall 0, sampleCall 1]) index :=
  (updateRunIndex_history sampleRuntime sampleCatalog sampleRelative "index.json"
    sampleRuntime_collates sampleCatalog_expanded [sampleCall 0, sampleCall 1]
    sampleCalls_stamped).1

end WriteRun
