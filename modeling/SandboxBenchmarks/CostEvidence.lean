import Mathlib.Algebra.BigOperators.Group.List.Basic
import SandboxBenchmarks.CanonicalJson
import SandboxBenchmarks.Library.DoubleSums
import SandboxBenchmarks.Library.JsonParse
import SandboxBenchmarks.RunSchema

/-!
# Provider cost evidence

`packages/schema/src/cost-evidence.ts`: the records of what a benchmark sandbox cost, and
their total over the expected cells. Amounts are the doubles of the runtime, added in the
order of the records.
-/

namespace CostEvidence

open CanonicalJson CodeUnits DoubleSums JsonText
open RunModel (ProviderCostCell providerCostCellKey)
open RunSchema (providerCostCellSchema)

/-! ### Records -/

structure ProviderCostSubject where
  sandboxId : Option String
  appId : Option String
  appName : Option String
  organizationId : Option String
  workspaceId : Option String
  accountId : Option String
deriving DecidableEq, Repr

structure SdkProvenance where
  packageName : String
  version : String
deriving DecidableEq, Repr

structure ProviderUsageQuantity where
  resource : String
  quantity : Float
  unit : String

structure CalculationProvenance where
  componentIds : List String
  rateVerifiedAt : String
  sourceUrls : List String
deriving DecidableEq, Repr

inductive CostSource
  | providerReported
  | calculatedFromProviderUsage
deriving DecidableEq, Repr

structure ObservedProviderCostEvidence where
  cell : ProviderCostCell
  subject : ProviderCostSubject
  capturedAt : String
  sdk : SdkProvenance
  apiOperation : String
  usage : List ProviderUsageQuantity
  amount : Float
  currency : String
  source : CostSource
  responseJson : String
  calculation : Option CalculationProvenance

inductive MissingReason
  | unsupportedPublicApi | notSandboxScoped | providerApiError | invalidProviderResponse
  | sandboxTeardownUnconfirmed
deriving DecidableEq, Repr

structure MissingProviderCostEvidence where
  cell : ProviderCostCell
  subject : ProviderCostSubject
  capturedAt : String
  sdk : SdkProvenance
  reason : MissingReason
  detail : String
  apiOperation : Option String
  responseJson : Option String
deriving DecidableEq, Repr

inductive ProviderCostEvidence
  | observed (record : ObservedProviderCostEvidence)
  | missing (record : MissingProviderCostEvidence)

def ProviderCostEvidence.cell : ProviderCostEvidence → ProviderCostCell
  | .observed record => record.cell
  | .missing record => record.cell

/-! ### Schemas -/

/-- What the schemas take from the runtime and from ArkType. -/
structure Formats where
  /-- `string.date.iso` -/
  dateIso : String → Bool
  /-- `string.url` -/
  url : String → Bool
  json : JsonRuntime
  codec : NumberCodec
  /-- Numbers are read as they are printed. -/
  codec_eq : codec.toNumberText = json.number

def boundedString (maximum : ℕ) (value : String) : Bool :=
  decide (1 ≤ utf16Length value) && decide (utf16Length value ≤ maximum)

def identifierString : String → Bool := boundedString 256

def detailString : String → Bool := boundedString 512

def finiteNonNegativeNumber (value : Float) : Bool := decide (0 ≤ value) && value.isFinite

/-- `atLeastLength(1)` and `atMostLength(most)`. -/
def lengthWithin {α : Type} (most : ℕ) (items : List α) : Bool :=
  decide (1 ≤ items.length) && decide (items.length ≤ most)

def providerCostSubjectSchema (subject : ProviderCostSubject) : Bool :=
  [subject.sandboxId, subject.appId, subject.appName, subject.organizationId, subject.workspaceId,
    subject.accountId].all (fun id => id.all identifierString)

def sdkProvenanceSchema (sdk : SdkProvenance) : Bool :=
  identifierString sdk.packageName && identifierString sdk.version

def providerUsageQuantitySchema (usage : ProviderUsageQuantity) : Bool :=
  identifierString usage.resource && finiteNonNegativeNumber usage.quantity &&
    identifierString usage.unit

/-- `/^[A-Z]{3}$/` -/
def currencyCode (value : String) : Bool :=
  decide (value.toList.length = 3) && value.toList.all Char.isUpper

section
variable (formats : Formats)

def urlString (value : String) : Bool :=
  formats.url value && decide (utf16Length value ≤ 2048)

def calculationProvenanceSchema (calculation : CalculationProvenance) : Bool :=
  calculation.componentIds.all identifierString && lengthWithin 64 calculation.componentIds &&
    formats.dateIso calculation.rateVerifiedAt &&
    calculation.sourceUrls.all (urlString formats) && lengthWithin 64 calculation.sourceUrls

/-- Canonical bounded JSON text. -/
def providerResponseJsonSchema (value : String) : Bool :=
  decide (1 ≤ utf16Length value) &&
    decide (byteLength value.toList ≤ providerResponseLimits.maxBytes) &&
    match parse formats.codec value.toList with
    | none => false
    | some parsed =>
      match canonicalJsonString formats.json providerResponseLimits parsed with
      | .ok json => json == value
      | .error _ => false

def observedProviderCostEvidenceSchema (record : ObservedProviderCostEvidence) : Bool :=
  providerCostCellSchema record.cell && providerCostSubjectSchema record.subject &&
    formats.dateIso record.capturedAt && sdkProvenanceSchema record.sdk &&
    identifierString record.apiOperation && record.usage.all providerUsageQuantitySchema &&
    lengthWithin 128 record.usage && finiteNonNegativeNumber record.amount &&
    currencyCode record.currency && providerResponseJsonSchema formats record.responseJson &&
    record.calculation.all (calculationProvenanceSchema formats) &&
    -- sandbox-scoped, and rates exactly where the amount was calculated
    record.subject.sandboxId.isSome &&
    (match record.source with
      | .calculatedFromProviderUsage => record.calculation.isSome
      | .providerReported => record.calculation.isNone)

def missingProviderCostEvidenceSchema (record : MissingProviderCostEvidence) : Bool :=
  providerCostCellSchema record.cell && providerCostSubjectSchema record.subject &&
    formats.dateIso record.capturedAt && sdkProvenanceSchema record.sdk &&
    detailString record.detail && record.apiOperation.all identifierString &&
    record.responseJson.all (providerResponseJsonSchema formats)

def providerCostEvidenceSchema : ProviderCostEvidence → Bool
  | .observed record => observedProviderCostEvidenceSchema formats record
  | .missing record => missingProviderCostEvidenceSchema formats record

/-! ### The total -/

/-- The keys of the expected cells; `none` at one that is invalid or repeated. -/
def expectCells : List ProviderCostCell → List String → Option (List String)
  | [], expected => some expected
  | cell :: rest, expected =>
    if providerCostCellSchema cell then
      let key := providerCostCellKey cell
      if key ∈ expected then none else expectCells rest (expected ++ [key])
    else none

/-- What the records so far came to. -/
structure Tally where
  cells : List String
  sandboxes : List String
  currency : Option String
  amount : Float

def charge (expected : List String) (tally : Tally) (record : ProviderCostEvidence) :
    Option Tally :=
  if providerCostEvidenceSchema formats record then
    match record with
    | .missing _ => none
    | .observed record =>
      let cell := providerCostCellKey record.cell
      match record.subject.sandboxId with
      | none => none
      | some sandboxId =>
        if cell ∉ expected ∨ cell ∈ tally.cells ∨ sandboxId ∈ tally.sandboxes then none
        else if tally.currency.any (fun currency => currency ≠ record.currency) then none
        else
          let amount := tally.amount + record.amount
          if amount.isFinite then
            some ⟨tally.cells ++ [cell], tally.sandboxes ++ [sandboxId], some record.currency,
              amount⟩
          else none
  else none

structure Total where
  amount : Float
  currency : String

def providerCostTotal (records : List ProviderCostEvidence)
    (expectedCells : List ProviderCostCell) : Option Total :=
  if records.length = 0 ∨ expectedCells.length = 0 then none
  else do
    let expected ← expectCells expectedCells []
    if records.length ≠ expected.length then none
    else do
      let tally ← records.foldlM (charge formats expected) ⟨[], [], none, 0⟩
      match tally.currency with
      | none => none
      | some currency =>
        if tally.cells.length ≠ expected.length then none else some ⟨tally.amount, currency⟩

end

/-! ### What a total is about -/

namespace ProviderCostEvidence

def sandboxId : ProviderCostEvidence → Option String
  | .observed record => record.subject.sandboxId
  | .missing record => record.subject.sandboxId

def currency : ProviderCostEvidence → Option String
  | .observed record => some record.currency
  | .missing _ => none

def amount : ProviderCostEvidence → Float
  | .observed record => record.amount
  | .missing _ => 0

end ProviderCostEvidence

/-- The records are complete, and are those of the expected cells, of each exactly once, from
distinct sandboxes and in one currency. -/
structure Covers (formats : Formats) (records : List ProviderCostEvidence)
    (expectedCells : List ProviderCostCell) (currency : String) : Prop where
  valid : ∀ cell ∈ expectedCells, providerCostCellSchema cell = true
  distinct : expectedCells.Nodup
  nonempty : expectedCells ≠ []
  once : (records.map (·.cell)).Perm expectedCells
  complete : ∀ record ∈ records, ∃ observed, record = .observed observed ∧
    observedProviderCostEvidenceSchema formats observed = true
  sandboxes : (records.map (·.sandboxId)).Nodup
  currency : ∀ record ∈ records, record.currency = some currency

/-! ### Keys of cells -/

theorem append_cons_inj {a : Char} {front front' back back' : List Char} (fresh : a ∉ front)
    (fresh' : a ∉ front') (same : front ++ a :: back = front' ++ a :: back') :
    front = front' ∧ back = back' := by
  induction front generalizing front' with
  | nil =>
    cases front' with
    | nil => exact ⟨rfl, (List.cons.inj same).2⟩
    | cons c front' => exact absurd ((List.cons.inj same).1 ▸ List.mem_cons_self) fresh'
  | cons c front ih =>
    cases front' with
    | nil => exact absurd ((List.cons.inj same).1 ▸ List.mem_cons_self) fresh
    | cons c' front' =>
      obtain ⟨rfl, rest⟩ := List.cons.inj same
      obtain ⟨rfl, rfl⟩ := ih (fun h => fresh (List.mem_cons_of_mem _ h))
        (fun h => fresh' (List.mem_cons_of_mem _ h)) rest
      exact ⟨rfl, rfl⟩

/-- The text of a replicate in the key of its cell. -/
def indexText (replicateIndex : Option ℕ) : String := (replicateIndex.map toString).getD "single"

theorem indexText_injective : Function.Injective indexText := by
  have digits : ∀ n : ℕ, toString n ≠ "single" := by
    intro n same
    have texts := congrArg String.toList same
    rw [Nat.toString_eq_ofList_toDigits, String.toList_ofList] at texts
    have digit : ('s' : Char).isDigit = true :=
      isDigit_toDigits (k := n) (by rw [texts]; decide)
    exact absurd digit (by decide)
  intro i j same
  cases i with
  | none =>
    cases j with
    | none => rfl
    | some n => exact absurd same.symm (digits n)
  | some m =>
    cases j with
    | none => exact absurd same (digits m)
    | some n =>
      have texts := congrArg String.toList (show toString m = toString n from same)
      rw [Nat.toString_eq_ofList_toDigits, Nat.toString_eq_ofList_toDigits, String.toList_ofList,
        String.toList_ofList] at texts
      rw [toDigits_injective texts]

theorem separator_notMem_runId {runId : String} (valid : RunSchema.runIdSchema runId = true) :
    '\x00' ∉ runId.toList := by
  intro member
  unfold RunSchema.runIdSchema at valid
  split at valid
  · cases valid
  · rename_i c rest chars
    rw [chars] at member
    simp only [Bool.and_eq_true, List.all_eq_true] at valid
    rcases List.mem_cons.mp member with first | later
    · rw [← first] at valid
      exact absurd valid.1 (by decide)
    · exact absurd (valid.2 _ later) (by decide)

theorem separator_notMem_registered : ∀ name ∈ PlanVerification.providerIds ++
    RunSchema.retiredProviderIds ++ PlanVerification.suites.map Prod.fst,
    '\x00' ∉ name.toList := by
  decide +kernel

/-- No part of the key of a valid cell, but for its end, holds the separator. -/
theorem separator_notMem {cell : ProviderCostCell} (valid : providerCostCellSchema cell = true) :
    '\x00' ∉ cell.runId.toList ∧ '\x00' ∉ cell.providerId.toList ∧ '\x00' ∉ cell.suite.toList := by
  simp only [RunSchema.providerCostCellSchema, Bool.and_eq_true, Bool.or_eq_true,
    List.contains_iff_mem] at valid
  obtain ⟨⟨run, provider⟩, suite⟩ := valid
  refine ⟨separator_notMem_runId run, ?_, ?_⟩
  · apply separator_notMem_registered
    rw [List.mem_append, List.mem_append]
    exact Or.inl provider
  · apply separator_notMem_registered
    rw [List.mem_append]
    exact Or.inr suite

theorem providerCostCellKey_toList (cell : ProviderCostCell) :
    (providerCostCellKey cell).toList = cell.runId.toList ++ '\x00' :: (cell.providerId.toList ++
      '\x00' :: (cell.suite.toList ++ '\x00' :: (indexText cell.replicateIndex).toList)) := by
  rw [providerCostCellKey, String.intercalate_cons_cons, String.intercalate_cons_cons,
    String.intercalate_cons_cons, String.intercalate_singleton]
  simp [indexText]

theorem providerCostCellKey_injective {cell cell' : ProviderCostCell}
    (valid : providerCostCellSchema cell = true) (valid' : providerCostCellSchema cell' = true)
    (same : providerCostCellKey cell = providerCostCellKey cell') : cell = cell' := by
  obtain ⟨run, provider, suite⟩ := separator_notMem valid
  obtain ⟨run', provider', suite'⟩ := separator_notMem valid'
  have texts := congrArg String.toList same
  rw [providerCostCellKey_toList, providerCostCellKey_toList] at texts
  obtain ⟨sameRun, texts⟩ := append_cons_inj run run' texts
  obtain ⟨sameProvider, texts⟩ := append_cons_inj provider provider' texts
  obtain ⟨sameSuite, texts⟩ := append_cons_inj suite suite' texts
  have sameIndex := indexText_injective (String.toList_injective texts)
  cases cell
  cases cell'
  simp only [String.toList_inj] at sameRun sameProvider sameSuite
  simp only at sameIndex
  rw [sameRun, sameProvider, sameSuite, sameIndex]

/-! ### The expected cells -/

theorem expectCells_eq_some {cells : List ProviderCostCell} {before expected : List String}
    (h : expectCells cells before = some expected) :
    (∀ cell ∈ cells, providerCostCellSchema cell = true) ∧
      expected = before ++ cells.map providerCostCellKey ∧ (before.Nodup → expected.Nodup) := by
  induction cells generalizing before with
  | nil =>
    rw [← Option.some.inj h, List.map_nil, List.append_nil]
    exact ⟨fun _ h => absurd h List.not_mem_nil, rfl, id⟩
  | cons cell cells ih =>
    rw [expectCells] at h
    split at h
    · rename_i valid
      simp only at h
      split at h
      · cases h
      · rename_i fresh
        obtain ⟨later, rfl, once⟩ := ih h
        refine ⟨?_, by rw [List.map_cons, List.append_assoc, List.singleton_append], ?_⟩
        · intro c member
          rcases List.mem_cons.mp member with rfl | member
          · exact valid
          · exact later c member
        · intro nodup
          apply once
          rw [List.nodup_append]
          refine ⟨nodup, List.nodup_singleton _, ?_⟩
          intro a ha b hb
          rw [List.mem_singleton.mp hb]
          exact fun same => fresh (same ▸ ha)
    · cases h

theorem expectCells_of_nodup {cells : List ProviderCostCell} {before : List String}
    (valid : ∀ cell ∈ cells, providerCostCellSchema cell = true)
    (once : (before ++ cells.map providerCostCellKey).Nodup) :
    expectCells cells before = some (before ++ cells.map providerCostCellKey) := by
  induction cells generalizing before with
  | nil => rw [List.map_nil, List.append_nil, expectCells]
  | cons cell cells ih =>
    have fresh : providerCostCellKey cell ∉ before := by
      intro member
      exact (List.nodup_append.mp once).2.2 _ member _ List.mem_cons_self rfl
    have split : before ++ (cell :: cells).map providerCostCellKey =
        before ++ [providerCostCellKey cell] ++ cells.map providerCostCellKey := by
      rw [List.map_cons, List.append_assoc, List.singleton_append]
    rw [split] at once ⊢
    rw [expectCells, if_pos (valid cell List.mem_cons_self)]
    simp only [if_neg fresh]
    exact ih (fun c hc => valid c (List.mem_cons_of_mem _ hc)) once

/-! ### One record -/

section
variable {formats : Formats} {expected : List String}

theorem charge_eq_some_iff {tally after : Tally} {record : ProviderCostEvidence} :
    charge formats expected tally record = some after ↔
      ∃ observed sandboxId, record = .observed observed ∧
        observedProviderCostEvidenceSchema formats observed = true ∧
        observed.subject.sandboxId = some sandboxId ∧
        providerCostCellKey observed.cell ∈ expected ∧
        providerCostCellKey observed.cell ∉ tally.cells ∧ sandboxId ∉ tally.sandboxes ∧
        (∀ currency, tally.currency = some currency → currency = observed.currency) ∧
        (tally.amount + observed.amount).isFinite = true ∧
        after = ⟨tally.cells ++ [providerCostCellKey observed.cell],
          tally.sandboxes ++ [sandboxId], some observed.currency,
          tally.amount + observed.amount⟩ := by
  constructor
  · intro h
    unfold charge at h
    split at h
    · rename_i valid
      split at h
      · cases h
      · rename_i observed
        simp only at h
        split at h
        · cases h
        · rename_i sandboxId subject
          split at h
          · cases h
          · rename_i known
            rw [not_or, not_or, not_not] at known
            split at h
            · cases h
            · rename_i same
              split at h
              · rename_i finite
                refine ⟨observed, sandboxId, rfl, valid, subject, known.1, known.2.1, known.2.2, ?_,
                  finite, (Option.some.inj h).symm⟩
                intro currency held
                by_contra other
                exact same (by simp [held, other])
              · cases h
    · cases h
  · rintro ⟨observed, sandboxId, rfl, valid, subject, known, fresh, apart, same, finite, rfl⟩
    have agrees : tally.currency.any (fun currency => currency ≠ observed.currency) = false := by
      cases held : tally.currency with
      | none => rfl
      | some currency => simp [same currency held]
    have clear : ¬ (providerCostCellKey observed.cell ∉ expected ∨
        providerCostCellKey observed.cell ∈ tally.cells ∨ sandboxId ∈ tally.sandboxes) := by
      rw [not_or, not_or, not_not]
      exact ⟨known, fresh, apart⟩
    simp only [charge, providerCostEvidenceSchema, valid, if_true, subject, if_neg clear, agrees,
      Bool.false_eq_true, if_false, finite]

/-- What charging the records one after another amounts to. -/
structure Charged (formats : Formats) (expected : List String) (tally : Tally)
    (records : List ProviderCostEvidence) (after : Tally) : Prop where
  complete : ∀ record ∈ records, ∃ observed, record = .observed observed ∧
    observedProviderCostEvidenceSchema formats observed = true
  expected : ∀ record ∈ records, providerCostCellKey record.cell ∈ expected
  cells : after.cells = tally.cells ++ records.map (fun record => providerCostCellKey record.cell)
  cellsOnce : tally.cells.Nodup → after.cells.Nodup
  sandboxes : after.sandboxes.map some = tally.sandboxes.map some ++ records.map (·.sandboxId)
  sandboxesOnce : tally.sandboxes.Nodup → after.sandboxes.Nodup
  currency : ∀ record ∈ records, record.currency = after.currency
  kept : ∀ currency, tally.currency = some currency → after.currency = some currency
  amount : runningSum tally.amount (records.map (·.amount)) = some after.amount

theorem nodup_concat {α : Type} {l : List α} {a : α} (nodup : l.Nodup) (fresh : a ∉ l) :
    (l ++ [a]).Nodup := by
  rw [List.nodup_append]
  refine ⟨nodup, List.nodup_singleton a, ?_⟩
  intro b hb c hc
  rw [List.mem_singleton.mp hc]
  exact fun same => fresh (same ▸ hb)

/-- The next element is apart from those before it, and joins them. -/
theorem nodup_cons_right {α : Type} {l l' : List α} {a : α} (nodup : (l ++ a :: l').Nodup) :
    a ∉ l ∧ (l ++ [a] ++ l').Nodup := by
  refine ⟨fun member => ?_, by rwa [List.append_assoc, List.singleton_append]⟩
  exact (List.nodup_append.mp nodup).2.2 _ member _ List.mem_cons_self rfl

theorem charged_of_foldlM {records : List ProviderCostEvidence} {tally after : Tally}
    (h : records.foldlM (charge formats expected) tally = some after) :
    Charged formats expected tally records after := by
  induction records generalizing tally with
  | nil =>
    rw [List.foldlM_nil, Option.pure_def, Option.some.injEq] at h
    subst h
    exact ⟨fun _ h => absurd h List.not_mem_nil, fun _ h => absurd h List.not_mem_nil,
      (List.append_nil _).symm, id, (List.append_nil _).symm, id,
      fun _ h => absurd h List.not_mem_nil, fun _ => id, rfl⟩
  | cons record records ih =>
    rw [List.foldlM_cons, Option.bind_eq_bind, Option.bind_eq_some_iff] at h
    obtain ⟨next, charged, h⟩ := h
    obtain ⟨observed, sandboxId, rfl, valid, subject, known, fresh, apart, same, finite, rfl⟩ :=
      charge_eq_some_iff.mp charged
    have later := ih h
    refine ⟨?_, ?_, ?_, ?_, ?_, ?_, ?_, ?_, ?_⟩
    · intro r member
      rcases List.mem_cons.mp member with rfl | member
      · exact ⟨observed, rfl, valid⟩
      · exact later.complete r member
    · intro r member
      rcases List.mem_cons.mp member with rfl | member
      · exact known
      · exact later.expected r member
    · rw [later.cells, List.append_assoc]
      rfl
    · exact fun nodup => later.cellsOnce (nodup_concat nodup fresh)
    · rw [later.sandboxes, List.map_append, List.append_assoc, List.map_cons, ← subject]
      rfl
    · exact fun nodup => later.sandboxesOnce (nodup_concat nodup apart)
    · intro r member
      rcases List.mem_cons.mp member with rfl | member
      · exact (later.kept _ rfl).symm
      · exact later.currency r member
    · intro currency held
      rw [same currency held]
      exact later.kept _ rfl
    · rw [List.map_cons, runningSum, ProviderCostEvidence.amount, if_pos finite]
      exact later.amount

theorem exists_sandboxId {observed : ObservedProviderCostEvidence}
    (valid : observedProviderCostEvidenceSchema formats observed = true) :
    ∃ sandboxId, observed.subject.sandboxId = some sandboxId := by
  simp only [observedProviderCostEvidenceSchema, Bool.and_eq_true] at valid
  exact Option.isSome_iff_exists.mp valid.1.2

theorem foldlM_of_covered {records : List ProviderCostEvidence} {tally : Tally} {currency : String}
    {sum : Float}
    (complete : ∀ record ∈ records, ∃ observed, record = .observed observed ∧
      observedProviderCostEvidenceSchema formats observed = true)
    (known : ∀ record ∈ records, providerCostCellKey record.cell ∈ expected)
    (cells : (tally.cells ++ records.map fun record => providerCostCellKey record.cell).Nodup)
    (sandboxes : (tally.sandboxes.map some ++ records.map (·.sandboxId)).Nodup)
    (single : ∀ record ∈ records, record.currency = some currency)
    (held : ∀ c, tally.currency = some c → c = currency)
    (amount : runningSum tally.amount (records.map (·.amount)) = some sum) :
    ∃ after, records.foldlM (charge formats expected) tally = some after := by
  induction records generalizing tally with
  | nil => exact ⟨tally, rfl⟩
  | cons record records ih =>
    obtain ⟨observed, rfl, valid⟩ := complete record List.mem_cons_self
    obtain ⟨sandboxId, subject⟩ := exists_sandboxId valid
    have paid : observed.currency = currency :=
      Option.some.inj (single _ List.mem_cons_self)
    rw [List.map_cons, runningSum, ProviderCostEvidence.amount] at amount
    split at amount
    · rename_i finite
      have cell : (ProviderCostEvidence.observed observed).cell = observed.cell := rfl
      have listed := known _ List.mem_cons_self
      rw [cell] at listed
      rw [List.map_cons, cell] at cells
      obtain ⟨fresh, cells⟩ := nodup_cons_right cells
      have named : ProviderCostEvidence.sandboxId (.observed observed) = some sandboxId := subject
      rw [List.map_cons, named] at sandboxes
      obtain ⟨there, sandboxes⟩ := nodup_cons_right sandboxes
      have apart : sandboxId ∉ tally.sandboxes := fun member => there (List.mem_map_of_mem member)
      have charged : charge formats expected tally (.observed observed) =
          some ⟨tally.cells ++ [providerCostCellKey observed.cell],
            tally.sandboxes ++ [sandboxId], some observed.currency,
            tally.amount + observed.amount⟩ := by
        refine charge_eq_some_iff.mpr ⟨observed, sandboxId, rfl, valid, subject,
          listed, fresh, apart, ?_, finite, rfl⟩
        intro c hc
        rw [held c hc, paid]
      rw [List.foldlM_cons, charged, Option.bind_eq_bind, Option.bind_some]
      apply ih
      · exact fun r hr => complete r (List.mem_cons_of_mem _ hr)
      · exact fun r hr => known r (List.mem_cons_of_mem _ hr)
      · exact cells
      · rwa [List.map_append, List.map_singleton]
      · exact fun r hr => single r (List.mem_cons_of_mem _ hr)
      · intro c hc
        rw [← Option.some.inj hc, paid]
      · exact amount
    · cases amount

/-! ### The total -/

theorem perm_expected {records : List ProviderCostEvidence} {cells : List ProviderCostCell}
    (valid : ∀ cell ∈ cells, providerCostCellSchema cell = true)
    (validRecords : ∀ record ∈ records, providerCostCellSchema record.cell = true)
    (once : (records.map fun record => providerCostCellKey record.cell).Nodup)
    (known : ∀ record ∈ records, providerCostCellKey record.cell ∈ cells.map providerCostCellKey)
    (count : records.length = cells.length) : (records.map (·.cell)).Perm cells := by
  have inside : records.map (·.cell) ⊆ cells := by
    intro cell member
    obtain ⟨record, held, rfl⟩ := List.mem_map.mp member
    obtain ⟨cell', expected, same⟩ := List.mem_map.mp (known record held)
    rwa [← providerCostCellKey_injective (valid cell' expected) (validRecords record held) same]
  have nodup : (records.map (·.cell)).Nodup := by
    rw [← Function.comp_def, ← List.map_map] at once
    exact List.Nodup.of_map _ once
  exact (List.subperm_of_subset nodup inside).perm_of_length_le (by rw [List.length_map, count])

theorem valid_cell {record : ProviderCostEvidence} (complete : ∃ observed,
    record = .observed observed ∧ observedProviderCostEvidenceSchema formats observed = true) :
    providerCostCellSchema record.cell = true := by
  obtain ⟨observed, rfl, valid⟩ := complete
  simp only [observedProviderCostEvidenceSchema, Bool.and_eq_true, and_assoc] at valid
  exact valid.1

theorem covers_of_total {records : List ProviderCostEvidence}
    {expectedCells : List ProviderCostCell} {total : Total} (h : providerCostTotal formats records expectedCells = some total) :
    Covers formats records expectedCells total.currency ∧
      runningSum 0 (records.map (·.amount)) = some total.amount := by
  unfold providerCostTotal at h
  split at h
  · cases h
  · rename_i present
    obtain ⟨expected, listed, h⟩ := Option.bind_eq_some_iff.mp h
    split at h
    · cases h
    · rename_i count
      obtain ⟨tally, folded, h⟩ := Option.bind_eq_some_iff.mp h
      split at h
      · cases h
      · rename_i currency paid
        split at h
        · cases h
        · obtain rfl := Option.some.inj h
          obtain ⟨valid, rfl, once⟩ := expectCells_eq_some listed
          have charged := charged_of_foldlM folded
          have cellsOnce := charged.cellsOnce List.nodup_nil
          rw [charged.cells] at cellsOnce
          rw [not_not, List.nil_append, List.length_map] at count
          have sandboxesOnce := (charged.sandboxesOnce List.nodup_nil).map (Option.some_injective _)
          rw [charged.sandboxes] at sandboxesOnce
          refine ⟨⟨valid, List.Nodup.of_map _ (once List.nodup_nil), ?_, ?_, charged.complete,
            sandboxesOnce, ?_⟩, charged.amount⟩
          · rintro rfl
            exact present (Or.inr rfl)
          · have complete := fun record member => valid_cell (charged.complete record member)
            exact perm_expected valid complete cellsOnce charged.expected count
          · intro record member
            rw [charged.currency record member, paid]

theorem keys_nodup {cells : List ProviderCostCell}
    (valid : ∀ cell ∈ cells, providerCostCellSchema cell = true) (distinct : cells.Nodup) :
    (cells.map providerCostCellKey).Nodup :=
  distinct.map_on fun cell member cell' member' same =>
    providerCostCellKey_injective (valid cell member) (valid cell' member') same

theorem total_of_covers {records : List ProviderCostEvidence}
    {expectedCells : List ProviderCostCell} {total : Total} (covers : Covers formats records expectedCells total.currency)
    (sum : runningSum 0 (records.map (·.amount)) = some total.amount) :
    providerCostTotal formats records expectedCells = some total := by
  have keys := keys_nodup covers.valid covers.distinct
  have same : (records.map fun record => providerCostCellKey record.cell).Perm
      (expectedCells.map providerCostCellKey) := by
    have mapped := covers.once.map providerCostCellKey
    rwa [List.map_map] at mapped
  have count : records.length = (expectedCells.map providerCostCellKey).length := by
    rw [← same.length_eq, List.length_map]
  have present : ¬ (records.length = 0 ∨ expectedCells.length = 0) := by
    rw [count, List.length_map, or_self, List.length_eq_zero_iff]
    exact covers.nonempty
  have listed : expectCells expectedCells [] = some (expectedCells.map providerCostCellKey) :=
    expectCells_of_nodup covers.valid keys
  have known : ∀ record ∈ records,
      providerCostCellKey record.cell ∈ expectedCells.map providerCostCellKey :=
    fun record member => same.subset (List.mem_map_of_mem member)
  obtain ⟨after, folded⟩ := @foldlM_of_covered _ _ _ ⟨[], [], none, 0⟩ _ _ covers.complete known
    (same.nodup_iff.mpr keys) covers.sandboxes covers.currency (fun _ held => by cases held) sum
  have charged := charged_of_foldlM folded
  have paid : after.currency = some total.currency := by
    obtain ⟨record, member⟩ := List.exists_mem_of_length_pos
      (Nat.pos_of_ne_zero fun none => present (Or.inl none))
    rw [← charged.currency record member, covers.currency record member]
  have amount : after.amount = total.amount :=
    Option.some.inj (charged.amount.symm.trans sum)
  have counted : after.cells.length = (expectedCells.map providerCostCellKey).length := by
    rw [charged.cells, List.nil_append, List.length_map, count]
  simp only [providerCostTotal, if_neg present, listed, Option.bind_eq_bind, Option.bind_some,
    if_neg (not_not.mpr count), folded, paid, if_neg (not_not.mpr counted), amount]

theorem providerCostTotal_eq_some_iff {records : List ProviderCostEvidence}
    {expectedCells : List ProviderCostCell} {total : Total} :
    providerCostTotal formats records expectedCells = some total ↔
      Covers formats records expectedCells total.currency ∧
        runningSum 0 (records.map (·.amount)) = some total.amount :=
  ⟨covers_of_total, fun h => total_of_covers h.1 h.2⟩

theorem Covers.perm {records reordered : List ProviderCostEvidence}
    {expectedCells : List ProviderCostCell} {currency : String}
    (covers : Covers formats records expectedCells currency) (perm : reordered.Perm records) :
    Covers formats reordered expectedCells currency where
  valid := covers.valid
  distinct := covers.distinct
  nonempty := covers.nonempty
  once := (perm.map _).trans covers.once
  complete := fun record member => covers.complete record (perm.subset member)
  sandboxes := (perm.map _).nodup_iff.mpr covers.sandboxes
  currency := fun record member => covers.currency record (perm.subset member)

theorem Covers.finite {records : List ProviderCostEvidence} {expectedCells : List ProviderCostCell}
    {currency : String} (covers : Covers formats records expectedCells currency)
    {record : ProviderCostEvidence} (member : record ∈ records) :
    record.amount.isFinite = true := by
  obtain ⟨observed, rfl, valid⟩ := covers.complete record member
  simp only [observedProviderCostEvidenceSchema, Bool.and_eq_true, finiteNonNegativeNumber] at valid
  obtain ⟨⟨⟨⟨⟨⟨-, -, finite⟩, -⟩, -⟩, -⟩, -⟩, -⟩ := valid
  exact finite

/-- Amounts of one unit that stay below `2 ^ 53` of it add up to their exact sum. -/
theorem Covers.total_of_units {records : List ProviderCostEvidence}
    {expectedCells : List ProviderCostCell} {currency : String} {unit : ℤ}
    (covers : Covers formats records expectedCells currency) (least : -1074 ≤ unit)
    (most : unit ≤ 971) (each : ∀ record ∈ records, ∃ n : ℕ, value record.amount = n * 2 ^ unit)
    (short : (records.map fun record => value record.amount).sum < 2 ^ 53 * 2 ^ unit) :
    ∃ amount, providerCostTotal formats records expectedCells = some ⟨amount, currency⟩ ∧
      value amount = (records.map fun record => value record.amount).sum := by
  have amounts : (records.map fun record => value record.amount) =
      (records.map (·.amount)).map value := by
    rw [List.map_map]
    rfl
  rw [amounts] at short ⊢
  have counted : ∀ amount ∈ records.map (·.amount), ∃ n, InUnits unit n amount := by
    intro amount member
    obtain ⟨record, held, rfl⟩ := List.mem_map.mp member
    obtain ⟨n, same⟩ := each record held
    exact ⟨n, covers.finite held, same⟩
  obtain ⟨amount, added, exact⟩ := runningSum_exact least most counted short
  exact ⟨amount, providerCostTotal_eq_some_iff.mpr ⟨covers, added⟩, exact⟩

/-- What the total of records over the expected cells says, whatever their order. -/
structure ExactTotal (formats : Formats) (records : List ProviderCostEvidence)
    (expectedCells : List ProviderCostCell) : Prop where
  /-- It is there where the records cover the cells and the sum of their doubles is finite. -/
  total : ∀ total, providerCostTotal formats records expectedCells = some total ↔
    Covers formats records expectedCells total.currency ∧
      runningSum 0 (records.map (·.amount)) = some total.amount
  covers : ∀ reordered currency, reordered.Perm records →
    (Covers formats reordered expectedCells currency ↔
      Covers formats records expectedCells currency)
  /-- In an order in which no addition rounds it is the exact sum. -/
  exact : ∀ reordered total, reordered.Perm records → Unrounded 0 (reordered.map (·.amount)) →
    providerCostTotal formats reordered expectedCells = some total →
      value total.amount = (records.map fun record => value record.amount).sum
  /-- In no order does an addition round that stays within `2 ^ 53` of a common unit. -/
  units : ∀ reordered currency (unit : ℤ), reordered.Perm records → -1074 ≤ unit → unit ≤ 971 →
    Covers formats records expectedCells currency →
    (∀ record ∈ records, ∃ n : ℕ, value record.amount = n * 2 ^ unit) →
    (records.map fun record => value record.amount).sum < 2 ^ 53 * 2 ^ unit →
      ∃ amount, providerCostTotal formats reordered expectedCells = some ⟨amount, currency⟩ ∧
        value amount = (records.map fun record => value record.amount).sum
  duplicate : ¬ (records.map (·.cell)).Nodup →
    providerCostTotal formats records expectedCells = none
  foreign : ∀ record ∈ records, record.cell ∉ expectedCells →
    providerCostTotal formats records expectedCells = none
  missing : ∀ cell ∈ expectedCells, (∀ record ∈ records, record.cell ≠ cell) →
    providerCostTotal formats records expectedCells = none

theorem not_covers {records : List ProviderCostEvidence} {expectedCells : List ProviderCostCell}
    (uncovered : ∀ currency, ¬ Covers formats records expectedCells currency) :
    providerCostTotal formats records expectedCells = none := by
  rw [Option.eq_none_iff_forall_ne_some]
  exact fun total same => uncovered _ (covers_of_total same).1

/-- The total is the exact sum in every order, as far as doubles have it. -/
theorem providerCostTotal_exact (formats : Formats) (records : List ProviderCostEvidence)
    (expectedCells : List ProviderCostCell) : ExactTotal formats records expectedCells where
  total := fun _ => providerCostTotal_eq_some_iff
  covers := fun _ _ perm => ⟨fun covers => covers.perm perm.symm, fun covers => covers.perm perm⟩
  exact := by
    intro reordered total perm unrounded same
    have added := value_runningSum unrounded (covers_of_total same).2
    rw [added, show value 0 = 0 from rfl, zero_add, List.map_map]
    exact (perm.map _).sum_eq
  units := by
    intro reordered currency unit perm least most covers each short
    have sums := (perm.map fun record => value record.amount).sum_eq
    rw [← sums] at short ⊢
    exact (covers.perm perm).total_of_units least most
      (fun record member => each record (perm.subset member)) short
  duplicate := by
    intro repeated
    apply not_covers
    intro currency covers
    exact repeated (covers.once.nodup_iff.mpr covers.distinct)
  foreign := by
    intro record member unlisted
    apply not_covers
    intro currency covers
    exact unlisted (covers.once.subset (List.mem_map_of_mem member))
  missing := by
    intro cell listed absent
    apply not_covers
    intro currency covers
    obtain ⟨record, member, same⟩ := List.mem_map.mp (covers.once.symm.subset listed)
    exact absent record member same

end

/-! ### Records of one benchmark -/

def plainFormats : Formats := ⟨fun _ => true, fun _ => true, plainJson, decimalCodec, rfl⟩

def replicateCell (replicateIndex : ℕ) : ProviderCostCell :=
  ⟨"run-1", "modal-gvisor", "cpu-node", some replicateIndex⟩

/-- What a replicate is reported to have cost. -/
def reported (replicateIndex : ℕ) (sandboxId : String) (amount : Float) : ProviderCostEvidence :=
  .observed {
    cell := replicateCell replicateIndex
    subject := ⟨some sandboxId, none, none, none, none, none⟩
    capturedAt := "2026-01-01T00:00:00Z"
    sdk := ⟨"modal", "1.0.0"⟩
    apiOperation := "billing.report"
    usage := [⟨"cpu", 1, "core-seconds"⟩]
    amount
    currency := "USD"
    source := .providerReported
    responseJson := "{}"
    calculation := none }

def tenths : List ProviderCostEvidence :=
  [reported 0 "sb-1" 0.1, reported 1 "sb-2" 0.2, reported 2 "sb-3" 0.3]

/-- The records of two replicates. -/
def pair (first second : Float) : List ProviderCostEvidence :=
  [reported 0 "sb-1" first, reported 1 "sb-2" second]

theorem covers_pair {first second : Float}
    (valid : ∀ record ∈ pair first second, providerCostEvidenceSchema plainFormats record = true) :
    Covers plainFormats (pair first second) ((List.range 2).map replicateCell) "USD" where
  valid := by decide +kernel
  distinct := by decide +kernel
  nonempty := by decide
  once := List.Perm.refl _
  complete := by
    intro record member
    have held := valid record member
    rw [pair, List.mem_pair] at member
    rcases member with rfl | rfl
    · exact ⟨_, rfl, held⟩
    · exact ⟨_, rfl, held⟩
  sandboxes := by
    change [some "sb-1", some "sb-2"].Nodup
    decide
  currency := by
    intro record member
    rw [pair, List.mem_pair] at member
    rcases member with rfl | rfl <;> rfl

set_option maxRecDepth 4000 in
/-- A half and a quarter come to three quarters in either order. -/
theorem providerCostTotal_exact_quarters :
    ∃ amount, providerCostTotal plainFormats (pair 0.5 0.25).reverse
      ((List.range 2).map replicateCell) = some ⟨amount, "USD"⟩ ∧ value amount = 3 / 4 := by
  have covers : Covers plainFormats (pair 0.5 0.25) ((List.range 2).map replicateCell) "USD" :=
    covers_pair (by decide +kernel)
  have sum : ((pair 0.5 0.25).map fun record => value record.amount).sum = 3 / 4 := by
    decide +kernel
  have quarters : ∀ record ∈ pair 0.5 0.25, ∃ n : ℕ, value record.amount = n * 2 ^ (-2 : ℤ) := by
    intro record member
    rw [pair, List.mem_pair] at member
    rcases member with rfl | rfl
    · exact ⟨2, by decide +kernel⟩
    · exact ⟨1, by decide +kernel⟩
  rw [← sum]
  exact (providerCostTotal_exact plainFormats (pair 0.5 0.25) _).units _ "USD" (-2)
    (List.reverse_perm _) (by decide) (by decide) covers quarters (by rw [sum]; norm_num)

set_option maxRecDepth 4000 in
/-- Tenths of a dollar come to two totals in two orders, and huge amounts to none. -/
theorem total_ofOrder :
    (∃ total total',
      providerCostTotal plainFormats tenths ((List.range 3).map replicateCell) = some total ∧
      providerCostTotal plainFormats tenths.reverse ((List.range 3).map replicateCell) =
        some total' ∧ value total.amount ≠ value total'.amount) ∧
    (Covers plainFormats (pair 1e308 1e308) ((List.range 2).map replicateCell) "USD" ∧
      providerCostTotal plainFormats (pair 1e308 1e308) ((List.range 2).map replicateCell) =
        none) := by
  refine ⟨?_, covers_pair (by decide +kernel), Option.isNone_iff_eq_none.mp (by decide +kernel)⟩
  have forward : (providerCostTotal plainFormats tenths
      ((List.range 3).map replicateCell)).isSome = true := by decide +kernel
  have backward : (providerCostTotal plainFormats tenths.reverse
      ((List.range 3).map replicateCell)).isSome = true := by decide +kernel
  have differ : (providerCostTotal plainFormats tenths
        ((List.range 3).map replicateCell)).map (fun total => value total.amount) ≠
      (providerCostTotal plainFormats tenths.reverse
        ((List.range 3).map replicateCell)).map (fun total => value total.amount) := by
    decide +kernel
  obtain ⟨total, same⟩ := Option.isSome_iff_exists.mp forward
  obtain ⟨total', same'⟩ := Option.isSome_iff_exists.mp backward
  rw [same, same'] at differ
  exact ⟨total, total', same, same', fun equal => differ (congrArg some equal)⟩

end CostEvidence
