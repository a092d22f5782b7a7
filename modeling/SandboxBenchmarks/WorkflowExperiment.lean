import SandboxBenchmarks.Library.JsonParse
import SandboxBenchmarks.PlanExperimentReturns

/-!
# Worker rows of a frozen plan

`workflowBatch`, `workflowWaves`, `workflowAxes` and `workflowBatchAxis` of
`apps/cli/src/lib/workflow-experiment.ts`. The planner's rounds, the batches and
the rows that workers present are three views of one partition.
-/

namespace WorkflowExperiment

open CanonicalJson Checks JsonText PlanVerification PlanSchedule PlanExperiment

/-- The registry's `quotaDomain`; every other provider is its own. -/
def quotaDomain (provider : String) : String :=
  (Keyed.get? [("modal-gvisor", "modal"), ("modal-vm", "modal"), ("daytona-vm", "daytona"),
    ("daytona-container", "daytona")] provider).getD provider

structure WorkerRow where
  batch : String
  providers : List String
  suite : String
  wave : String
deriving DecidableEq, Repr

/-- What `workflowAxes` lists: accounts, waves of one account, or rows of one wave. -/
inductive AxisEntry where
  | account (quotaDomain : String)
  | wave (wave : Option BenchmarkWave)
  | row (row : WorkerRow)
deriving DecidableEq, Repr

def batchMembers (plan : ExperimentPlan) (batch : ExperimentBatch) : List ExperimentCell :=
  plan.cells.filter (fun cell => cell.id ∈ batch.cells)

/-- Distinct values in order of appearance, as a `Set` spreads them. -/
def memberProviders (plan : ExperimentPlan) (batch : ExperimentBatch) : List String :=
  Keyed.setOf ((batchMembers plan batch).map (·.provider))

def workerRow (plan : ExperimentPlan) (wave : String) (batch : ExperimentBatch) :
    Except String WorkerRow := do
  let cell ← require (plan.cells.find? (fun entry => batch.cells.head? = some entry.id))
    "invalid workflow quota domain"
  throwIf (batch.quotaDomain ≠ quotaDomain cell.provider) "invalid workflow quota domain"
  let suites := Keyed.setOf ((batchMembers plan batch).map (·.suite))
  return {
    batch := batch.id
    providers := memberProviders plan batch
    suite := if suites.length = 1 then suites.headD wave else wave
    wave := wave }

/-- Typed worker rows shared by normal and repair workflows. -/
def workflowBatchAxis (plan : ExperimentPlan) (account wave : String) :
    Except String (List WorkerRow) := do
  throwIf (benchmarkWaveOrder.all (fun candidate => candidate.text ≠ wave) = true)
    "unknown collection wave"
  let selected := plan.batches.filter fun batch =>
    batch.quotaDomain = account ∧ batch.wave.map (·.text) = some wave
  throwIf (roundBatchLimit < selected.length)
    s!"account {account} {wave} wave exceeds 64 queued batches; partition the experiment"
  selected.mapM (workerRow plan wave)

/-- `batch.wave ?? benchmarkWave(cell.suite)`, for the batch's first cell. -/
def batchWave (cells : List (String × ExperimentCell)) (batch : ExperimentBatch) :
    Except String BenchmarkWave := do
  let cell ← require (Keyed.get? cells (batch.cells.headD ""))
    s!"batch has no known cell: {batch.id}"
  match batch.wave with
  | some wave => return wave
  | none => benchmarkWave cell.suite

/-- Ordered waves that contain at least one frozen batch. -/
def workflowWaves (plan : ExperimentPlan) : Except String (List BenchmarkWave) := do
  let active ← plan.batches.mapM
    (batchWave (Keyed.mapOf (plan.cells.map (fun cell => (cell.id, cell)))))
  return benchmarkWaveOrder.filter (· ∈ active)

def accountWaves (plan : ExperimentPlan) (account : String) : List (Option BenchmarkWave) :=
  Keyed.setOf ((plan.rounds.filter (fun entry => entry.quotaDomain = account)).map (·.wave))

/-- Every nesting level stays within the Actions matrix limit under one frozen plan. -/
def workflowAxes (plan : ExperimentPlan) (account wave : Option String) :
    Except String (List AxisEntry) :=
  match account, wave with
  | none, _ => do
    let domains := Keyed.setOf (plan.rounds.map (·.quotaDomain))
    throwIf (256 < domains.length) "experiment requires explicit account collection partitions"
    return domains.map .account
  | some account, none => do
    let waves := accountWaves plan account
    throwIf (waves.length = 0 ∨ 256 < waves.length)
      "account requires explicit wave collection partitions"
    return waves.map .wave
  | some account, some wave => do
    let rows ← workflowBatchAxis plan account wave
    return rows.map .row

/-- `providerIdSchema.array().atLeastLength(1)` -/
def workerProvidersSchema : Value → Option (List String)
  | .arr items =>
    if items.length < 1 then none
    else items.mapM fun
      | .str provider => if providerIds.contains provider then some provider else none
      | _ => none
  | _ => none

def workerMismatch : String := "worker account or providers differ from frozen batch"

/-- The credential scope and account queue must match every cell in the frozen batch. -/
def workflowBatch (codec : NumberCodec) (plan : ExperimentPlan) (id : String)
    (account providersJson : Option String) : Except String ExperimentBatch := do
  let parsed ← require (parse codec (providersJson.getD "[]").toList) "SyntaxError"
  let providers ← require (workerProvidersSchema parsed) "workerProvidersSchema"
  match plan.batches.find? (fun entry => entry.id = id) with
  | none => .error workerMismatch
  | some batch =>
    let expected := memberProviders plan batch
    throwIf (some batch.quotaDomain ≠ account ∨ providers.length ≠ expected.length ∨
        (Keyed.setOf providers).length ≠ expected.length ∨
        providers.any (fun provider => provider ∉ expected) = true)
      workerMismatch
    return batch

/-- The calls that freezing a workflow makes before it keeps a plan. -/
structure AxesReturn (plan : ExperimentPlan) : Prop where
  accounts : ∃ axis, workflowAxes plan none none = .ok axis
  waves : ∀ account ∈ plan.accounts, ∃ axis,
    workflowAxes plan (some account.quotaDomain) none = .ok axis
  rows : ∀ account ∈ plan.accounts, ∀ wave ∈ benchmarkWaveOrder, ∃ axis,
    workflowAxes plan (some account.quotaDomain) (some wave.text) = .ok axis

/-- The rows of every account in every wave. -/
def releasedRows (plan : ExperimentPlan) : Except String (List WorkerRow) := do
  let rows ← plan.accounts.mapM fun account => do
    let waves ← benchmarkWaveOrder.mapM fun wave =>
      workflowBatchAxis plan account.quotaDomain wave.text
    return waves.flatten
  return rows.flatten

/-! ### Three views of one partition -/

/-- Lists made one by one, read through a projection that their sources determine. -/
lemma flatten_mapM {α β γ : Type} {f : α → Except String (List β)} {p : β → γ} {g : α → List γ}
    {l : List α} {ys : List (List β)} (run : l.mapM f = .ok ys)
    (each : ∀ x ∈ l, ∀ y, f x = .ok y → y.map p = g x) : ys.flatten.map p = l.flatMap g := by
  have made := mapM_eq_ok.mp run
  clear run
  induction made with
  | nil => rfl
  | @cons x y l ys here _ ih =>
    rw [List.flatten_cons, List.map_append, List.flatMap_cons, each x List.mem_cons_self y here,
      ih (fun x' member => each x' (List.mem_cons_of_mem x member))]

section
variable {runtime : Runtime} {registry : Registry} {policy : List (String × AccountCapacity)}
  {request : PlanRequest} {plan : ExperimentPlan}

/-- What the three views rest on. -/
structure Partitioned (runtime : Runtime) (registry : Registry) (plan : ExperimentPlan) : Prop where
  verified : Verified runtime registry plan
  declared : ∀ batch ∈ plan.batches, ∃ wave, batch.wave = some wave
  rounds : plan.rounds = planRounds (quotaDomains plan.cells) plan.batches

lemma wave_batchesOf {group : List Prepared} {entry : String → ExperimentBatch}
    (member : entry ∈ batchesOf group) (id : String) : ∃ wave, (entry id).wave = some wave := by
  cases group with
  | nil => cases member
  | cons first rest =>
    obtain ⟨chunk, _, rfl⟩ := List.mem_map.mp member
    exact ⟨first.wave, rfl⟩

lemma partitioned (planned : planExperiment runtime registry policy request = .ok plan) :
    Partitioned runtime registry plan := by
  simp only [planExperiment, bind_eq_ok, require_eq_ok] at planned
  obtain ⟨draft, drafted, digest, _, accounts, _, accepted⟩ := planned
  obtain ⟨rfl, verified⟩ := verified_of_ok accepted
  simp only [draftPlan, bind_eq_ok, pure_eq_ok] at drafted
  obtain ⟨_, _, ordered, _, prepared, _, rfl⟩ := drafted
  refine ⟨verified, ?_, rfl⟩
  intro batch member
  obtain ⟨entry, he, i, rfl⟩ := mem_numbered member
  obtain ⟨_, _, here⟩ := List.mem_flatMap.mp he
  exact wave_batchesOf here _

namespace Partitioned

variable (p : Partitioned runtime registry plan)
include p

lemma batch_account {batch : ExperimentBatch} (hb : batch ∈ plan.batches) :
    batch.quotaDomain ∈ plan.accounts.map (·.quotaDomain) := by
  obtain ⟨scan, inv, _⟩ := p.verified.batches
  obtain ⟨_, _, sound⟩ := inv.sound batch hb
  obtain ⟨account, found, _⟩ := sound.capacity
  obtain ⟨known, same⟩ := p.verified.get_account.mp found
  exact same ▸ List.mem_map_of_mem known

lemma batch_domain {batch : ExperimentBatch} (hb : batch ∈ plan.batches) :
    batch.quotaDomain ∈ quotaDomains plan.cells := by
  obtain ⟨id, hid⟩ := List.exists_mem_of_ne_nil _ (p.verified.batch_size hb)
  obtain ⟨cell, hc, _, _, same⟩ := p.verified.members_planned hb id hid
  have listed : cell.quotaDomain ∈ quotaDomains
      (⟨"", "", "", plan.cells, none⟩ : PlanRequest).cells := mem_quotaDomains hc
  exact same ▸ listed

lemma find_batch {batch : ExperimentBatch} (hb : batch ∈ plan.batches) :
    plan.batches.find? (fun entry => entry.id = batch.id) = some batch :=
  PlanAcceptance.find_batch p.verified.batch_ids hb

end Partitioned

/-! ### Rows -/

lemma workerRow_ok {wave : String} {batch : ExperimentBatch} {row : WorkerRow}
    (h : workerRow plan wave batch = .ok row) :
    row.batch = batch.id ∧ row.providers = memberProviders plan batch := by
  simp only [workerRow, bind_eq_ok, pure_eq_ok] at h
  obtain ⟨_, _, _, _, rfl⟩ := h
  exact ⟨rfl, rfl⟩

lemma wave_text_injective {w w' : BenchmarkWave} (h : w.text = w'.text) : w = w' := by
  revert h
  cases w <;> cases w' <;> decide

lemma selected_eq (account : String) (wave : BenchmarkWave) :
    (plan.batches.filter fun batch =>
      batch.quotaDomain = account ∧ batch.wave.map (·.text) = some wave.text) =
      domainBatches plan.batches account wave := by
  apply List.filter_congr
  intro batch _
  have same : batch.wave.map (·.text) = some wave.text ↔ batch.wave = some wave := by
    constructor
    · intro h
      obtain ⟨w, declared, text⟩ := Option.map_eq_some_iff.mp h
      rw [declared, wave_text_injective text]
    · intro h
      rw [h]
      rfl
  simp only [same]

/-- The rows of one account and wave stand for its batches, in their order. -/
lemma workflowBatchAxis_ok {account : String} {wave : BenchmarkWave} {rows : List WorkerRow}
    (h : workflowBatchAxis plan account wave.text = .ok rows) :
    List.Forall₂ (fun batch row => workerRow plan wave.text batch = .ok row)
      (domainBatches plan.batches account wave) rows := by
  simp only [workflowBatchAxis, bind_eq_ok] at h
  obtain ⟨_, _, _, _, made⟩ := h
  rw [selected_eq] at made
  exact mapM_eq_ok.mp made

lemma batch_ids_rows {account : String} {wave : BenchmarkWave} {rows : List WorkerRow}
    (h : workflowBatchAxis plan account wave.text = .ok rows) :
    rows.map (·.batch) = (domainBatches plan.batches account wave).map (·.id) := by
  have made := workflowBatchAxis_ok h
  have same : List.Forall₂ (fun batch row => row.batch = batch.id)
      (domainBatches plan.batches account wave) rows :=
    made.imp fun _ _ here => (workerRow_ok here).1
  clear made h
  generalize domainBatches plan.batches account wave = selected at same ⊢
  induction same with
  | nil => rfl
  | cons here _ ih => rw [List.map_cons, List.map_cons, here, ih]

lemma releasedRows_returns (axes : AxesReturn plan) : ∃ rows, releasedRows plan = .ok rows := by
  have each : ∀ account ∈ plan.accounts, ∃ rows, (do
      let waves ← benchmarkWaveOrder.mapM fun wave =>
        workflowBatchAxis plan account.quotaDomain wave.text
      return waves.flatten : Except String (List WorkerRow)) = .ok rows := by
    intro account known
    obtain ⟨waves, made⟩ := mapM_accepts (f := fun wave : BenchmarkWave =>
        workflowBatchAxis plan account.quotaDomain wave.text) (l := benchmarkWaveOrder) (by
      intro wave member
      obtain ⟨axis, returned⟩ := axes.rows account known wave member
      simp only [workflowAxes, bind_eq_ok] at returned
      obtain ⟨rows, here, _⟩ := returned
      exact ⟨rows, here⟩)
    exact ⟨waves.flatten, by rw [made]; rfl⟩
  obtain ⟨rows, made⟩ := mapM_accepts each
  exact ⟨rows.flatten, by rw [releasedRows, made]; rfl⟩

lemma releasedRows_ids {rows : List WorkerRow} (h : releasedRows plan = .ok rows) :
    rows.map (·.batch) = ((plan.accounts.map (·.quotaDomain)).flatMap fun domain =>
      benchmarkWaveOrder.flatMap fun wave => domainBatches plan.batches domain wave).map (·.id) := by
  simp only [releasedRows, bind_eq_ok, pure_eq_ok] at h
  obtain ⟨lists, run, rfl⟩ := h
  rw [flatten_mapM (g := fun account : ExperimentAccount =>
    (benchmarkWaveOrder.flatMap fun wave =>
      domainBatches plan.batches account.quotaDomain wave).map (·.id)) run]
  · simp only [List.flatMap_map, List.map_flatMap]
  · intro account _ here made
    simp only [bind_eq_ok, pure_eq_ok] at made
    obtain ⟨waves, inner, rfl⟩ := made
    rw [flatten_mapM inner (fun wave _ rows one => batch_ids_rows one), List.map_flatMap]

/-- The released rows name every batch once. -/
theorem releasedRows_perm (p : Partitioned runtime registry plan) {rows : List WorkerRow}
    (h : releasedRows plan = .ok rows) :
    (rows.map (·.batch)).Perm (plan.batches.map (·.id)) := by
  rw [releasedRows_ids h]
  refine (perm_domainBatches ?_ p.verified.batch_ids.of_map ?_).map _
  · exact keys_nodup p.verified.accounts
  · exact fun batch hb => ⟨p.batch_account hb, p.declared batch hb⟩

/-! ### Waves of one account -/

lemma foldl_add_sublist {l s : List (Option BenchmarkWave)} :
    ∃ t, t.Sublist l ∧ l.foldl Keyed.add s = s ++ t := by
  induction l generalizing s with
  | nil => exact ⟨[], List.Sublist.refl _, by simp⟩
  | cons x l ih =>
    obtain ⟨t, sub, rest⟩ := ih (s := Keyed.add s x)
    rw [List.foldl_cons, rest]
    by_cases seen : x ∈ s
    · exact ⟨t, sub.cons x, by simp [Keyed.add, seen]⟩
    · exact ⟨x :: t, sub.cons_cons x, by simp [Keyed.add, seen]⟩

namespace Partitioned

variable (p : Partitioned runtime registry plan)
include p

/-- A round belongs to the account and the wave of each of its batches. -/
lemma round_of_batch {round : ExperimentRound} (hr : round ∈ plan.rounds) :
    ∃ wave, round.wave = some wave ∧ ∀ batch ∈ plan.batches, batch.id ∈ round.batches →
      batch.quotaDomain = round.quotaDomain ∧ batch.wave = some wave := by
  rw [p.rounds] at hr
  obtain ⟨entry, he, i, rfl⟩ := mem_numbered hr
  obtain ⟨domain, _, here⟩ := List.mem_flatMap.mp he
  obtain ⟨wave, _, here⟩ := List.mem_flatMap.mp here
  obtain ⟨chunk, of⟩ := roundOf_of_mem here
  rw [of.round]
  refine ⟨wave, rfl, ?_⟩
  intro batch hb member
  obtain ⟨drawn, inChunk, same⟩ := List.mem_map.mp member
  obtain ⟨known, domain, wave⟩ := of.drawn drawn inChunk
  obtain rfl := List.inj_on_of_nodup_map p.verified.batch_ids known hb same
  exact ⟨domain, wave⟩

lemma accountWaves_declared {account : String} {wave : Option BenchmarkWave}
    (member : wave ∈ accountWaves plan account) : ∃ w, wave = some w := by
  rw [accountWaves, Keyed.mem_setOf] at member
  obtain ⟨round, hr, rfl⟩ := List.mem_map.mp member
  obtain ⟨w, declared, _⟩ := p.round_of_batch (List.mem_filter.mp hr).1
  exact ⟨w, declared⟩

lemma accountWaves_batch {batch : ExperimentBatch} (hb : batch ∈ plan.batches) :
    batch.wave ∈ accountWaves plan batch.quotaDomain := by
  have once := p.verified.scheduled_once hb
  have listed : batch.id ∈ plan.rounds.flatMap (·.batches) :=
    List.count_pos_iff.mp (by omega)
  obtain ⟨round, hr, member⟩ := List.mem_flatMap.mp listed
  obtain ⟨wave, declared, each⟩ := p.round_of_batch hr
  obtain ⟨domain, same⟩ := each batch hb member
  rw [accountWaves, Keyed.mem_setOf, same, ← declared]
  exact List.mem_map_of_mem (List.mem_filter.mpr ⟨hr, by simpa using domain.symm⟩)

/-- The waves that an account lists, in their order. -/
theorem accountWaves_sublist (account : String) :
    ∃ waves : List BenchmarkWave, accountWaves plan account = waves.map some ∧
      waves.Sublist benchmarkWaveOrder := by
  obtain ⟨t, sub, folded⟩ := foldl_add_sublist (s := [])
    (l := (plan.rounds.filter (fun entry => entry.quotaDomain = account)).map (·.wave))
  have listed : accountWaves plan account = t := by
    rw [accountWaves, Keyed.setOf, folded, List.nil_append]
  have declared : ∀ wave ∈ t, ∃ w, wave = some w := by
    intro wave member
    exact p.accountWaves_declared (listed ▸ member)
  have rising : t.Pairwise fun a b => ∀ w w', a = some w → b = some w' →
      requiredWaveRank w ≤ requiredWaveRank w' := by
    refine List.Pairwise.sublist sub ?_
    have ordered : plan.rounds.Pairwise PlanAcceptance.RoundsInOrder := by
      rw [p.rounds]
      exact PlanExperiment.rounds_in_order (Keyed.nodup_setOf _)
    rw [List.pairwise_map]
    refine (ordered.filter _).imp_of_mem ?_
    intro a b ha hb inOrder
    have mine := (List.mem_filter.mp ha).2
    have yours := (List.mem_filter.mp hb).2
    simp only [decide_eq_true_eq] at mine yours
    exact inOrder (mine.trans yours.symm)
  have nodup : t.Nodup := listed ▸ Keyed.nodup_setOf _
  refine ⟨t.filterMap id, ?_, ?_⟩
  · rw [listed, List.map_filterMap_some_eq_filter_map_isSome]
    symm
    rw [List.map_id, List.filter_eq_self]
    intro wave member
    obtain ⟨w, rfl⟩ := declared wave member
    rfl
  · have distinct : (t.filterMap id).Nodup := nodup.filterMap fun a b w ha hb => by
      rw [Option.mem_def, id] at ha hb
      rw [ha, hb]
    have antisymm : Std.Antisymm fun w w' : BenchmarkWave =>
        requiredWaveRank w ≤ requiredWaveRank w' := ⟨by
      intro w w'
      cases w <;> cases w' <;> decide⟩
    refine List.sublist_of_subperm_of_pairwise (r := fun w w' : BenchmarkWave =>
      requiredWaveRank w ≤ requiredWaveRank w') ?_ ?_ (by decide)
    · refine List.subperm_of_subset distinct ?_
      intro w _
      cases w <;> decide
    · rw [List.pairwise_filterMap]
      exact rising.imp fun below w hw w' hw' => below w w' hw hw'

/-! ### Workers -/

lemma memberProviders_known {batch : ExperimentBatch} {provider : String}
    (member : provider ∈ memberProviders plan batch) : provider ∈ providerIds := by
  rw [memberProviders, Keyed.mem_setOf] at member
  obtain ⟨cell, hc, rfl⟩ := List.mem_map.mp member
  have schema := p.verified.schema
  simp only [experimentPlanSchema, Bool.and_eq_true, List.all_eq_true] at schema
  have ok := schema.1.1.1.1.2 cell (List.mem_filter.mp hc).1
  simp only [experimentCellSchema, Bool.and_eq_true, List.contains_iff_mem] at ok
  tauto

lemma memberProviders_nonempty {batch : ExperimentBatch} (hb : batch ∈ plan.batches) :
    memberProviders plan batch ≠ [] := by
  obtain ⟨id, hid⟩ := List.exists_mem_of_ne_nil _ (p.verified.batch_size hb)
  obtain ⟨cell, hc, same, _⟩ := p.verified.members_planned hb id hid
  have inside : cell ∈ batchMembers plan batch :=
    List.mem_filter.mpr ⟨hc, by simpa [same] using hid⟩
  exact List.ne_nil_of_mem (Keyed.mem_setOf.mpr (List.mem_map_of_mem inside))

/-- A worker that presents its batch's account and providers gets its batch. -/
theorem workflowBatch_selects (codec : NumberCodec) {batch : ExperimentBatch}
    (hb : batch ∈ plan.batches) {json : String}
    (presented : parse codec json.toList = some (.arr ((memberProviders plan batch).map .str))) :
    workflowBatch codec plan batch.id (some batch.quotaDomain) (some json) = .ok batch := by
  have nonempty := List.length_pos_iff.mpr (p.memberProviders_nonempty hb)
  have short : ¬ ((memberProviders plan batch).map Value.str).length < 1 := by
    rw [List.length_map]
    omega
  have schema : workerProvidersSchema (.arr ((memberProviders plan batch).map .str)) =
      some (memberProviders plan batch) := by
    rw [workerProvidersSchema, if_neg short, List.mapM_map]
    refine (mapM_some (g := id) ?_).trans (congrArg some (List.map_id _))
    intro provider member
    exact if_pos (List.contains_iff_mem.mpr (p.memberProviders_known member))
  have distinct : Keyed.setOf (memberProviders plan batch) = memberProviders plan batch :=
    Keyed.setOf_of_nodup (Keyed.nodup_setOf _)
  have known : (memberProviders plan batch).any
      (fun provider => provider ∉ memberProviders plan batch) = false := by
    rw [List.any_eq_false]
    intro provider member
    simpa using member
  simp only [workflowBatch, Option.getD_some, presented, schema, require, ok_bind, p.find_batch hb,
    distinct, known]
  simp [throwIf, pure, Except.pure]

end Partitioned

/-- The waves of the batches, whatever rounds they stand in. -/
theorem workflowWaves_active (p : Partitioned runtime registry plan) :
    workflowWaves plan = .ok (benchmarkWaveOrder.filter fun wave =>
      some wave ∈ plan.batches.map (·.wave)) := by
  have each : ∀ batch ∈ plan.batches, ∃ wave, batch.wave = some wave ∧
      batchWave (Keyed.mapOf (plan.cells.map (fun cell => (cell.id, cell)))) batch = .ok wave := by
    intro batch hb
    obtain ⟨wave, declared⟩ := p.declared batch hb
    obtain ⟨id, rest, split⟩ := List.exists_cons_of_ne_nil (p.verified.batch_size hb)
    obtain ⟨cell, hc, same, _⟩ := p.verified.members_planned hb id (by simp [split])
    have found := p.verified.get_cell.mpr ⟨hc, same⟩
    exact ⟨wave, declared, by simp [batchWave, split, found, require, declared, pure, Except.pure]⟩
  have filed : ∀ batch ∈ plan.batches, ∃ wave,
      batchWave (Keyed.mapOf (plan.cells.map (fun cell => (cell.id, cell)))) batch = .ok wave := by
    intro batch hb
    obtain ⟨wave, _, here⟩ := each batch hb
    exact ⟨wave, here⟩
  obtain ⟨active, run⟩ := mapM_accepts filed
  have same : ∀ wave, some wave ∈ plan.batches.map (·.wave) ↔ wave ∈ active := by
    intro wave
    constructor
    · intro member
      obtain ⟨batch, hb, declared⟩ := List.mem_map.mp member
      obtain ⟨wave', declared', here⟩ := each batch hb
      obtain ⟨made, inActive, here'⟩ := mapM_mem run hb
      rw [declared'] at declared
      rw [here, Except.ok.injEq] at here'
      rwa [← Option.some.inj declared, here']
    · intro member
      obtain ⟨batch, hb, here⟩ := mem_mapM run member
      obtain ⟨wave', declared, here'⟩ := each batch hb
      rw [here, Except.ok.injEq] at here'
      exact List.mem_map.mpr ⟨batch, hb, here' ▸ declared⟩
  simp only [same, workflowWaves, bind_eq_ok, pure_eq_ok]
  exact ⟨active, run, rfl⟩

/-- The released rows name every batch once, an account's waves come in order and miss none of its
batches, and a worker presenting a row's account and providers gets the row's batch. -/
theorem workflow_partition (codec : NumberCodec)
    (planned : planExperiment runtime registry policy request = .ok plan) (axes : AxesReturn plan) :
    (∃ rows, releasedRows plan = .ok rows ∧ (rows.map (·.batch)).Perm (plan.batches.map (·.id)) ∧
      (plan.batches.map (·.id)).Nodup) ∧
    (∀ account ∈ plan.accounts, ∃ waves : List BenchmarkWave,
      workflowAxes plan (some account.quotaDomain) none = .ok (waves.map (fun w => .wave (some w))) ∧
      waves.Sublist benchmarkWaveOrder ∧
      ∀ batch ∈ plan.batches, batch.quotaDomain = account.quotaDomain →
        ∃ wave ∈ waves, batch.wave = some wave) ∧
    ∀ account ∈ plan.accounts, ∀ (wave : BenchmarkWave) (rows : List WorkerRow),
      workflowBatchAxis plan account.quotaDomain wave.text = .ok rows → ∀ row ∈ rows,
      ∀ json : String, parse codec json.toList = some (.arr (row.providers.map .str)) →
      ∃ batch ∈ plan.batches, batch.id = row.batch ∧
        workflowBatch codec plan row.batch (some account.quotaDomain) (some json) = .ok batch := by
  have p := partitioned planned
  refine ⟨?_, ?_, ?_⟩
  · obtain ⟨rows, released⟩ := releasedRows_returns axes
    exact ⟨rows, released, releasedRows_perm p released, p.verified.batch_ids⟩
  · intro account known
    obtain ⟨waves, listed, ordered⟩ := p.accountWaves_sublist account.quotaDomain
    obtain ⟨axis, returned⟩ := axes.waves account known
    refine ⟨waves, ?_, ordered, ?_⟩
    · simp only [workflowAxes, listed, bind_eq_ok, pure_eq_ok] at returned ⊢
      obtain ⟨_, fits, _⟩ := returned
      exact ⟨(), fits, by rw [List.map_map]; rfl⟩
    · intro batch hb same
      have member := p.accountWaves_batch hb
      rw [same, listed] at member
      obtain ⟨wave, inWaves, declared⟩ := List.mem_map.mp member
      exact ⟨wave, inWaves, declared.symm⟩
  · intro account _ wave rows returned row member json presented
    obtain ⟨batch, selected, made⟩ : ∃ batch ∈ domainBatches plan.batches account.quotaDomain wave,
        workerRow plan wave.text batch = .ok row := by
      have run := mapM_eq_ok.mpr (workflowBatchAxis_ok returned)
      exact mem_mapM run member
    obtain ⟨named, providers⟩ := workerRow_ok made
    have filed := List.mem_filter.mp selected
    simp only [decide_eq_true_eq] at filed
    obtain ⟨hb, domain, _⟩ := filed
    rw [providers] at presented
    refine ⟨batch, hb, named.symm, ?_⟩
    rw [named, ← domain]
    exact p.workflowBatch_selects codec hb presented

end

def axesReturn (plan : ExperimentPlan) : Bool :=
  (workflowAxes plan none none).isOk && plan.accounts.all fun account =>
    (workflowAxes plan (some account.quotaDomain) none).isOk &&
      benchmarkWaveOrder.all fun wave =>
        (workflowAxes plan (some account.quotaDomain) (some wave.text)).isOk

lemma axesReturn_spec {plan : ExperimentPlan} (h : axesReturn plan = true) : AxesReturn plan := by
  have returned : ∀ {x : Except String (List AxisEntry)}, x.isOk = true → ∃ axis, x = .ok axis := by
    intro x ok
    cases x with
    | ok axis => exact ⟨axis, rfl⟩
    | error _ => cases ok
  simp only [axesReturn, Bool.and_eq_true, List.all_eq_true] at h
  obtain ⟨accounts, each⟩ := h
  exact ⟨returned accounts, fun account known => returned (each account known).1,
    fun account known wave member => returned ((each account known).2 wave member)⟩

/-- A runtime under which all digests are one. -/
def zeroDigests : Runtime where
  toJsonRuntime := plainJson
  sha256 := fun _ => "0000000000000000000000000000000000000000000000000000000000000000"
  localeCompare := byCodeUnits
  collation := instTransCmpStringByCodeUnits

/-- Two replicates that one account runs in one batch. -/
theorem workflow_partition_sample : ∃ plan,
    planExperiment zeroDigests sampleRegistry (samplePolicy 2)
      (sampleRequest sampleSha "memory" "a") = .ok plan ∧
    ∃ rows, releasedRows plan = .ok rows ∧ (rows.map (·.batch)).Perm (plan.batches.map (·.id)) ∧
      (plan.batches.map (·.id)).Nodup := by
  have evaluated : (match planExperiment zeroDigests sampleRegistry (samplePolicy 2)
      (sampleRequest sampleSha "memory" "a") with
    | .ok plan => axesReturn plan
    | .error _ => false) = true := by decide +kernel
  cases planned : planExperiment zeroDigests sampleRegistry (samplePolicy 2)
      (sampleRequest sampleSha "memory" "a") with
  | error _ =>
    rw [planned] at evaluated
    cases evaluated
  | ok plan =>
    rw [planned] at evaluated
    exact ⟨plan, rfl, (workflow_partition decimalCodec planned (axesReturn_spec evaluated)).1⟩

end WorkflowExperiment
