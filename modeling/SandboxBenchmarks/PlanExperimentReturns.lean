import SandboxBenchmarks.PlanAcceptance
import SandboxBenchmarks.PlanExperiment

/-!
# The planner and the verifier agree

The groups, chunks and rounds that `planExperiment` builds are batches and
rounds that fit, so the only thing that can still refuse a plan is the digest of
its document.
-/

namespace PlanExperiment

open CanonicalJson Checks JsonText PlanVerification PlanSchedule PlanAcceptance

variable {runtime : Runtime} {registry : Registry} {policy : List (String × AccountCapacity)}
  {request : PlanRequest}

/-! ### Requests -/

/-- One cell alone fits its quota domain's capacity and a job's time. -/
def FitsAlone (policy : List (String × AccountCapacity)) (cell : ExperimentCell) : Prop :=
  ∃ capacity, capacityOf policy cell.quotaDomain = some capacity ∧ 1 ≤ capacity.sandboxes ∧
    (∀ limit, capacity.vcpus = some limit → cell.target.vcpus ≤ limit) ∧
    (∀ limit, capacity.memoryGb = some limit → cell.target.memoryGb ≤ limit) ∧
    (∀ gpu, cell.gpu = some gpu → gpu.count ≤ capacity.gpus.getD 0) ∧
    budgetOf cell ≤ benchJobCeilingMinutes

/-- A request and a policy that satisfy their schemas, with cells that fit. -/
structure Requested (runtime : Runtime) (registry : Registry)
    (policy : List (String × AccountCapacity)) (request : PlanRequest) : Prop where
  cells : CellRules runtime registry request.createdOn request.cells
  capacities : accountCapacityPolicySchema policy = true
  fits : ∀ cell ∈ request.cells, cell.eligible = true → FitsAlone policy cell

/-- The hash keeps the allocation records of two eligible cells apart. -/
def CollisionFree (runtime : Runtime) (cells : List ExperimentCell) : Prop :=
  ∀ c ∈ cells, ∀ d ∈ cells, c.eligible = true → d.eligible = true → ∀ json json',
    canonicalJsonString runtime.toJsonRuntime evidenceLimits (allocation c) = .ok json →
    canonicalJsonString runtime.toJsonRuntime evidenceLimits (allocation d) = .ok json' →
    runtime.sha256 json = runtime.sha256 json' → json = json'

/-- What the planner and the plan schema check besides. -/
structure Plannable (runtime : Runtime) (registry : Registry)
    (policy : List (String × AccountCapacity)) (request : PlanRequest) : Prop extends
    Requested runtime registry policy request where
  id : evidenceIdentifier request.id = true
  sha : shaText request.sha = true
  suites : ∀ cell ∈ request.cells, cell.eligible = true →
    ∃ wave, benchmarkWave cell.suite = .ok wave
  records : ∀ cell ∈ request.cells, cell.eligible = true →
    ∃ identity, allocationIdentity runtime cell = .ok identity
  safe : ∀ cell ∈ request.cells, cell.eligible = true → ∀ capacity,
    capacityOf policy cell.quotaDomain = some capacity → capacity.sandboxes ≤ maxSafeInteger
  declared : ∀ cell ∈ request.cells, ∃ capacity,
    capacityOf policy cell.quotaDomain = some capacity ∧ capacity.undeclared = []

/-! ### Capacities -/

lemma capacity_schema (valid : accountCapacityPolicySchema policy = true) {domain : String}
    {capacity : AccountCapacity} (found : capacityOf policy domain = some capacity) :
    accountCapacitySchema capacity = true := by
  rw [capacityOf] at found
  split at found
  · rename_i own
    obtain rfl := Option.some.inj found
    exact List.all_eq_true.mp valid _ (Keyed.mem_of_get? own)
  · split at found
    · cases found
    · obtain rfl := Option.some.inj found
      rfl

lemma limited_le {limit : Option ℚ} {demand : ℚ} {cap : ℕ} : limited limit demand cap ≤ cap := by
  cases limit with
  | none => exact Nat.le_refl cap
  | some limit => exact Nat.min_le_left _ _

lemma limited_pos {limit : Option ℚ} {demand : ℚ} {cap : ℕ} (positive : 0 < demand)
    (one : 1 ≤ cap) (fits : ∀ l, limit = some l → demand ≤ l) : 1 ≤ limited limit demand cap := by
  cases limit with
  | none => exact one
  | some l =>
    refine le_min one ?_
    rw [Nat.one_le_floor_iff]
    exact (one_le_div positive).mpr (fits l rfl)

/-- What runs at once stays within the limit. -/
lemma limited_fits {limit : Option ℚ} {demand : ℚ} {cap : ℕ} (positive : 0 < demand)
    (limits : ∀ l, limit = some l → 0 < l) :
    exceeds (demand * limited limit demand cap) limit = false := by
  cases limit with
  | none => rfl
  | some l =>
    have whole : (⌊l / demand⌋₊ : ℚ) ≤ l / demand :=
      Nat.floor_le (div_pos (limits l rfl) positive).le
    have least : ((min cap ⌊l / demand⌋₊ : ℕ) : ℚ) ≤ l / demand :=
      le_trans (by exact_mod_cast Nat.min_le_right _ _) whole
    have total : demand * ((min cap ⌊l / demand⌋₊ : ℕ) : ℚ) ≤ l := by
      rw [mul_comm]
      exact (le_div_iff₀ positive).mp least
    simpa [exceeds, limited] using total

lemma exceeds_mono {demand demand' : ℚ} {limit : Option ℚ} (below : demand ≤ demand')
    (fits : exceeds demand' limit = false) : exceeds demand limit = false := by
  cases limit with
  | none => rfl
  | some l =>
    simp only [exceeds, Option.any_some, decide_eq_false_iff_not, not_lt] at fits ⊢
    exact below.trans fits

/-- The cap of a cell with positive demands keeps every limit of its account. -/
structure Capped (capacity : AccountCapacity) (cell : ExperimentCell) (cap : ℕ) : Prop where
  sandboxes : cap ≤ capacity.sandboxes
  vcpus : exceeds (cell.target.vcpus * cap) capacity.vcpus = false
  memoryGb : exceeds (cell.target.memoryGb * cap) capacity.memoryGb = false
  gpus : (cell.gpu.map (·.count)).getD 0 * cap ≤ capacity.gpus.getD 0

lemma target_positive {cell : ExperimentCell} (schema : experimentCellSchema cell = true) :
    0 < cell.target.vcpus ∧ 0 < cell.target.memoryGb := by
  simp only [experimentCellSchema, targetSpecSchema, Bool.and_eq_true, decide_eq_true_eq] at schema
  tauto

lemma budgets_positive {cell : ExperimentCell} (schema : experimentCellSchema cell = true) :
    0 < budgetOf cell := by
  simp only [experimentCellSchema, Bool.and_eq_true, decide_eq_true_eq] at schema
  have startup := schema.1.1.2
  have workload := schema.1.2
  have finish := schema.2
  rw [budgetOf]
  linarith

lemma capped_capOf {capacity : AccountCapacity} {cell : ExperimentCell}
    (valid : accountCapacitySchema capacity = true) (schema : experimentCellSchema cell = true) :
    Capped capacity cell (capOf capacity cell) := by
  obtain ⟨vcpus, memoryGb⟩ := target_positive schema
  simp only [accountCapacitySchema, Bool.and_eq_true, decide_eq_true_eq, Option.all_eq_true] at valid
  have first := @limited_fits _ _ capacity.sandboxes vcpus valid.1.2
  have second := @limited_fits _ _ (limited capacity.vcpus cell.target.vcpus capacity.sandboxes)
    memoryGb valid.2
  have below : ∀ {c c' : ℕ} {demand : ℚ}, 0 < demand → c ≤ c' → demand * c ≤ demand * c' :=
    fun positive le => mul_le_mul_of_nonneg_left (by exact_mod_cast le) positive.le
  have whole : Capped capacity { cell with gpu := none } (limited capacity.memoryGb
      cell.target.memoryGb (limited capacity.vcpus cell.target.vcpus capacity.sandboxes)) := by
    refine ⟨limited_le.trans limited_le, ?_, second, by simp⟩
    exact exceeds_mono (below vcpus limited_le) first
  rw [capOf]
  cases shape : cell.gpu with
  | none => exact ⟨whole.sandboxes, whole.vcpus, whole.memoryGb, by simp [shape]⟩
  | some gpu =>
    refine ⟨(Nat.min_le_left _ _).trans whole.sandboxes, ?_, ?_, ?_⟩
    · exact exceeds_mono (below vcpus (Nat.min_le_left _ _)) whole.vcpus
    · exact exceeds_mono (below memoryGb (Nat.min_le_left _ _)) whole.memoryGb
    · rw [shape, Option.map_some, Option.getD_some]
      exact (Nat.mul_le_mul_left _ (Nat.min_le_right _ _)).trans (Nat.mul_div_le _ _)

lemma capOf_pos {capacity : AccountCapacity} {cell : ExperimentCell}
    (schema : experimentCellSchema cell = true) (one : 1 ≤ capacity.sandboxes)
    (vcpus : ∀ limit, capacity.vcpus = some limit → cell.target.vcpus ≤ limit)
    (memoryGb : ∀ limit, capacity.memoryGb = some limit → cell.target.memoryGb ≤ limit)
    (gpus : ∀ gpu, cell.gpu = some gpu → gpu.count ≤ capacity.gpus.getD 0) :
    1 ≤ capOf capacity cell := by
  obtain ⟨vcpus_pos, memoryGb_pos⟩ := target_positive schema
  have whole := limited_pos memoryGb_pos (limited_pos vcpus_pos one vcpus) memoryGb
  rw [capOf]
  cases shape : cell.gpu with
  | none => exact whole
  | some gpu =>
    refine le_min whole ?_
    simp only [experimentCellSchema, shape, Option.all_some, gpuSpecSchema, Bool.and_eq_true,
      decide_eq_true_eq] at schema
    exact (Nat.one_le_div_iff (by tauto)).mpr (gpus gpu shape)

/-! ### Ordered and prepared cells -/

/-- The second cell's wave is not the earlier one. -/
def WavesInOrder (c d : ExperimentCell) : Prop :=
  ∀ wave wave', benchmarkWave c.suite = .ok wave → benchmarkWave d.suite = .ok wave' →
    requiredWaveRank wave ≤ requiredWaveRank wave'

lemma perm_byRank (ranked : List (ℕ × ExperimentCell)) :
    (byRank ranked).Perm (ranked.map Prod.snd) :=
  (List.perm_insertionSort _ ranked).map Prod.snd

lemma pairwise_byRank {ranked : List (ℕ × ExperimentCell)}
    {R : ExperimentCell → ExperimentCell → Prop}
    (ordered : ∀ a ∈ ranked, ∀ b ∈ ranked, a.1 ≤ b.1 → R a.2 b.2) : (byRank ranked).Pairwise R := by
  have perm := List.perm_insertionSort (fun a b : ℕ × ExperimentCell => a.1 ≤ b.1) ranked
  rw [byRank, List.pairwise_map]
  refine (List.pairwise_insertionSort (fun a b => a.1 ≤ b.1) ranked).imp_of_mem ?_
  intro a b ha hb below
  exact ordered a (perm.mem_iff.mp ha) b (perm.mem_iff.mp hb) below

lemma inWaveOrder_accepts {cells : List ExperimentCell}
    (suites : ∀ cell ∈ cells, ∃ wave, benchmarkWave cell.suite = .ok wave) :
    ∃ ordered, inWaveOrder cells = .ok ordered ∧ ordered.Perm cells ∧
      ordered.Pairwise WavesInOrder := by
  rw [inWaveOrder]
  split
  · rename_i few
    refine ⟨cells, rfl, List.Perm.refl _, ?_⟩
    rcases cells with _ | ⟨cell, _ | ⟨_, _⟩⟩
    · exact List.Pairwise.nil
    · exact List.pairwise_singleton _ _
    · rw [List.length_cons, List.length_cons] at few
      omega
  · obtain ⟨ranked, returns⟩ := mapM_accepts (l := cells)
      (f := fun cell => do return (requiredWaveRank (← benchmarkWave cell.suite), cell)) (by
        intro cell member
        obtain ⟨wave, known⟩ := suites cell member
        exact ⟨(requiredWaveRank wave, cell), by rw [known]; rfl⟩)
    have same : ranked.map Prod.snd = cells := by
      apply map_mapM returns
      intro cell entry made
      simp only [bind_eq_ok, pure_eq_ok] at made
      obtain ⟨_, _, rfl⟩ := made
      rfl
    have rank : ∀ entry ∈ ranked, ∀ wave, benchmarkWave entry.2.suite = .ok wave →
        entry.1 = requiredWaveRank wave := by
      intro entry member wave known
      obtain ⟨cell, _, made⟩ := mem_mapM returns member
      simp only [bind_eq_ok, pure_eq_ok] at made
      obtain ⟨wave', known', rfl⟩ := made
      rw [known] at known'
      rw [Except.ok.inj known']
    simp only [returns, ok_bind]
    refine ⟨byRank ranked, rfl, same ▸ perm_byRank ranked, pairwise_byRank ?_⟩
    intro a ha b hb below wave wave' known known'
    rw [← rank a ha wave known, ← rank b hb wave' known']
    exact below

/-- What the loop over the ordered cells says of each. -/
structure Ready (runtime : Runtime) (policy : List (String × AccountCapacity))
    (request : PlanRequest) (entry : Prepared) : Prop where
  member : entry.cell ∈ request.cells
  eligible : entry.cell.eligible = true
  cap : ∃ capacity, capacityOf policy entry.cell.quotaDomain = some capacity ∧
    entry.cap = capOf capacity entry.cell
  positive : 1 ≤ entry.cap
  budget : entry.budget = budgetOf entry.cell
  ceiling : entry.budget ≤ benchJobCeilingMinutes
  wave : benchmarkWave entry.cell.suite = .ok entry.wave
  identity : allocationIdentity runtime entry.cell = .ok entry.identity

lemma prepare_ok {cell : ExperimentCell} {entry : Prepared} (member : cell ∈ request.cells)
    (eligible : cell.eligible = true) (prepared : prepare runtime policy cell = .ok entry) :
    entry.cell = cell ∧ Ready runtime policy request entry := by
  simp only [prepare, bind_eq_ok, require_eq_ok, throwIf_eq_ok, pure_eq_ok, not_lt] at prepared
  obtain ⟨capacity, found, _, _, _, positive, _, ceiling, wave, known, identity, digest, rfl⟩ :=
    prepared
  exact ⟨rfl, member, eligible, ⟨capacity, found, rfl⟩, positive, rfl, ceiling, known, digest⟩

/-- Only the digest of its allocation record can still refuse a cell that fits. -/
lemma prepare_fitting {cell : ExperimentCell} (schema : experimentCellSchema cell = true)
    (capacities : accountCapacityPolicySchema policy = true) (fits : FitsAlone policy cell)
    (safe : ∀ capacity, capacityOf policy cell.quotaDomain = some capacity →
      capacity.sandboxes ≤ maxSafeInteger)
    {wave : BenchmarkWave} (known : benchmarkWave cell.suite = .ok wave) :
    ∃ cap, prepare runtime policy cell =
      (allocationIdentity runtime cell >>= fun identity =>
        .ok ⟨cell, cap, budgetOf cell, wave, identity⟩) := by
  obtain ⟨capacity, found, one, vcpus, memoryGb, gpus, ceiling⟩ := fits
  have safe := safe capacity found
  have positive := capOf_pos schema one vcpus memoryGb gpus
  have valid := capacity_schema capacities found
  simp only [accountCapacitySchema, Bool.and_eq_true, decide_eq_true_eq, Option.all_eq_true] at valid
  have noVcpus : capacity.vcpus.any (fun v => v ≤ 0) = false := by
    rw [Option.any_eq_false]
    exact fun v limit => by simpa using valid.1.2 v limit
  have noMemory : capacity.memoryGb.any (fun m => m ≤ 0) = false := by
    rw [Option.any_eq_false]
    exact fun m limit => by simpa using valid.2 m limit
  refine ⟨capOf capacity cell, ?_⟩
  simp only [prepare, found, require, throwIf, not_lt.mpr safe, not_lt.mpr one, noVcpus, noMemory,
    not_lt.mpr positive, not_lt.mpr ceiling, known, Bool.false_eq_true, or_self, if_false,
    ok_bind]
  rfl

lemma prepare_accepts (h : Plannable runtime registry policy request) {cell : ExperimentCell}
    (member : cell ∈ request.cells) (eligible : cell.eligible = true) :
    ∃ entry, prepare runtime policy cell = .ok entry := by
  obtain ⟨wave, known⟩ := h.suites cell member eligible
  obtain ⟨identity, digest⟩ := h.records cell member eligible
  obtain ⟨cap, prepares⟩ := prepare_fitting (h.cells.schema cell member) h.capacities
    (h.fits cell member eligible) (h.safe cell member eligible) known
  rw [digest, ok_bind] at prepares
  exact ⟨_, prepares⟩

/-- The prepared cells are the eligible ones, in wave order. -/
structure AllReady (runtime : Runtime) (policy : List (String × AccountCapacity))
    (request : PlanRequest) (prepared : List Prepared) : Prop where
  ready : ∀ entry ∈ prepared, Ready runtime policy request entry
  cells : (prepared.map (·.cell)).Perm (request.cells.filter (·.eligible))
  sorted : prepared.Pairwise fun a b => requiredWaveRank a.wave ≤ requiredWaveRank b.wave

lemma prepared_accepts (h : Plannable runtime registry policy request) :
    ∃ ordered prepared, inWaveOrder (request.cells.filter (·.eligible)) = .ok ordered ∧
      ordered.mapM (prepare runtime policy) = .ok prepared ∧
      AllReady runtime policy request prepared := by
  have eligible : ∀ cell ∈ request.cells.filter (·.eligible),
      cell ∈ request.cells ∧ cell.eligible = true := fun cell hc => List.mem_filter.mp hc
  obtain ⟨ordered, orders, perm, sorted⟩ := inWaveOrder_accepts (fun cell hc =>
    h.suites cell (eligible cell hc).1 (eligible cell hc).2)
  have planned : ∀ cell ∈ ordered, cell ∈ request.cells ∧ cell.eligible = true :=
    fun cell hc => eligible cell (perm.mem_iff.mp hc)
  obtain ⟨prepared, prepares⟩ := mapM_accepts (fun cell hc =>
    prepare_accepts h (planned cell hc).1 (planned cell hc).2)
  have ready : ∀ entry ∈ prepared, Ready runtime policy request entry := by
    intro entry member
    obtain ⟨cell, hc, made⟩ := mem_mapM prepares member
    exact (prepare_ok (planned cell hc).1 (planned cell hc).2 made).2
  have cells : prepared.map (·.cell) = ordered := by
    apply map_mapM prepares
    intro cell entry made
    simp only [prepare, bind_eq_ok, pure_eq_ok] at made
    obtain ⟨_, _, _, _, _, _, _, _, _, _, _, _, rfl⟩ := made
    rfl
  refine ⟨ordered, prepared, orders, prepares, ready, cells ▸ perm, ?_⟩
  rw [← cells, List.pairwise_map] at sorted
  refine sorted.imp_of_mem ?_
  intro a b ha hb inOrder
  exact inOrder _ _ (ready a ha).wave (ready b hb).wave

/-! ### Groups -/

lemma identifier_plain {s : String} (valid : evidenceIdentifier s = true) : '\x00' ∉ s.toList := by
  intro nul
  rw [evidenceIdentifier] at valid
  split at valid
  · cases valid
  · rename_i c rest chars
    rw [chars] at nul
    simp only [Bool.and_eq_true, List.all_eq_true] at valid
    rcases List.mem_cons.mp nul with rfl | later
    · exact absurd valid.1 (by decide)
    · exact absurd (valid.2 _ later) (by decide)

lemma key_parts {a b : Prepared} (ha : evidenceIdentifier a.cell.quotaDomain = true)
    (hb : evidenceIdentifier b.cell.quotaDomain = true) (same : a.key = b.key) :
    a.cell.quotaDomain = b.cell.quotaDomain ∧ a.wave = b.wave ∧ a.identity = b.identity := by
  have chars := congrArg String.toList same
  simp only [Prepared.key, String.toList_append, List.append_assoc] at chars
  obtain ⟨domain, rest⟩ := Grouping.cut_unique (identifier_plain ha) (identifier_plain hb) chars
  have plain : ∀ wave : BenchmarkWave, '\x00' ∉ wave.text.toList := by
    intro wave
    cases wave <;> decide
  obtain ⟨wave, identity⟩ := Grouping.cut_unique (plain a.wave) (plain b.wave) rest
  refine ⟨String.toList_injective domain, ?_, String.toList_injective identity⟩
  have texts := String.toList_injective wave
  generalize a.wave = w at texts
  generalize b.wave = w' at texts
  cases w <;> cases w' <;> first | rfl | exact absurd texts (by decide)

/-- Equal allocation records are of one target and one number of GPUs. -/
lemma allocation_parts {le : String → String → Bool} {c d : ExperimentCell}
    (same : sortKeys le (allocation c) = sortKeys le (allocation d)) :
    c.target = d.target ∧ (c.gpu.map (·.count)).getD 0 = (d.gpu.map (·.count)).getD 0 := by
  obtain ⟨target, there, target_eq⟩ :=
    @mem_of_sortKeys_obj le _ _ same "target" c.target.toJson (by simp)
  obtain ⟨gpu, gpuThere, gpu_eq⟩ :=
    @mem_of_sortKeys_obj le _ _ same "gpu" ((c.gpu.map GpuSpec.toJson).getD .null) (by simp)
  simp only [List.mem_cons, Prod.mk.injEq, String.reduceEq, false_and, true_and, false_or,
    List.not_mem_nil, or_false] at there gpuThere
  subst there gpuThere
  refine ⟨(target_eq_of_sortKeys target_eq).symm, ?_⟩
  cases hc : c.gpu with
  | none =>
    cases hd : d.gpu with
    | none => rfl
    | some gpu => simp [hc, hd, GpuSpec.toJson, sortKeys] at gpu_eq
  | some gpu =>
    cases hd : d.gpu with
    | none => simp [hc, hd, GpuSpec.toJson, sortKeys] at gpu_eq
    | some gpu' =>
      rw [hc, hd] at gpu_eq
      obtain ⟨count, counted, count_eq⟩ :=
        @mem_of_sortKeys_obj le _ _ gpu_eq "count" (natural gpu'.count) (by simp)
      simp only [List.mem_cons, Prod.mk.injEq, String.reduceEq, false_and, true_and, false_or,
        List.not_mem_nil, or_false] at counted
      subst counted
      simp only [natural, sortKeys, Value.num.injEq, Nat.cast_inj] at count_eq
      simp [count_eq]

/-- Two entries of one group need the same window of the same account. -/
structure SameWindow (a b : Prepared) : Prop where
  domain : a.cell.quotaDomain = b.cell.quotaDomain
  wave : a.wave = b.wave
  target : a.cell.target = b.cell.target
  gpus : (a.cell.gpu.map (·.count)).getD 0 = (b.cell.gpu.map (·.count)).getD 0

lemma domain_valid {cell : ExperimentCell} (schema : experimentCellSchema cell = true) :
    evidenceIdentifier cell.quotaDomain = true := by
  simp only [experimentCellSchema, Bool.and_eq_true] at schema
  tauto

lemma sameWindow_of_key (rules : CellRules runtime registry request.createdOn request.cells)
    (apart : CollisionFree runtime request.cells) {a b : Prepared}
    (ha : Ready runtime policy request a) (hb : Ready runtime policy request b)
    (same : a.key = b.key) : SameWindow a b := by
  obtain ⟨domain, wave, identity⟩ := key_parts (domain_valid (rules.schema _ ha.member))
    (domain_valid (rules.schema _ hb.member)) same
  have digest := hb.identity
  rw [← identity] at digest
  have records := evidenceDigest_determines
    (apart _ ha.member _ hb.member ha.eligible hb.eligible) ha.identity digest
  obtain ⟨target, gpus⟩ := allocation_parts records
  exact ⟨domain, wave, target, gpus⟩

/-! ### Numbered entries -/

lemma numbered_eq {α : Type} (kind : String) (entries : List (String → α)) :
    numbered kind entries = entries.zipIdx.map fun e => e.1 (kind ++ toString e.2) :=
  List.mapIdx_eq_zipIdx_map

lemma mem_numbered {α : Type} {kind : String} {entries : List (String → α)} {x : α}
    (member : x ∈ numbered kind entries) :
    ∃ entry ∈ entries, ∃ i : ℕ, x = entry (kind ++ toString i) := by
  rw [numbered_eq] at member
  obtain ⟨⟨entry, i⟩, he, rfl⟩ := List.mem_map.mp member
  exact ⟨entry, List.fst_mem_of_mem_zipIdx he, i, rfl⟩

/-- What does not depend on the id is read off the entries. -/
lemma map_numbered {α β : Type} {kind : String} {entries : List (String → α)} {f : α → β}
    {g : (String → α) → β} (reads : ∀ entry ∈ entries, ∀ id, f (entry id) = g entry) :
    (numbered kind entries).map f = entries.map g := by
  have firsts := congrArg (List.map g) (List.zipIdx_map_fst 0 entries)
  rw [List.map_map] at firsts
  rw [numbered_eq, List.map_map, ← firsts]
  apply List.map_congr_left
  intro e he
  exact reads e.1 (List.fst_mem_of_mem_zipIdx he) _

lemma nodup_ids_numbered {α : Type} {kind : String} {entries : List (String → α)} {id : α → String}
    (takes : ∀ entry ∈ entries, ∀ name, id (entry name) = name) :
    ((numbered kind entries).map id).Nodup := by
  have names : (numbered kind entries).map id =
      entries.zipIdx.map (fun e => kind ++ toString e.2) := by
    rw [numbered_eq, List.map_map]
    apply List.map_congr_left
    intro e he
    exact takes e.1 (List.fst_mem_of_mem_zipIdx he) _
  have apart : Function.Injective fun i : ℕ => kind ++ toString i := by
    intro i j same
    have digits := (String.append_right_inj kind).mp same
    exact toDigits_injective (String.ofList_injective digits)
  have indices : (entries.zipIdx.map Prod.snd).Nodup := by
    rw [List.zipIdx_map_snd]
    exact List.nodup_range'
  have distinct := indices.map apart
  rw [List.map_map] at distinct
  rw [names]
  exact distinct

lemma pairwise_numbered {α : Type} {kind : String} {entries : List (String → α)}
    {R : α → α → Prop} (ordered : entries.Pairwise fun e e' => ∀ id id', R (e id) (e' id')) :
    (numbered kind entries).Pairwise R := by
  rw [← List.zipIdx_map_fst 0 entries, List.pairwise_map] at ordered
  rw [numbered_eq, List.pairwise_map]
  exact ordered.imp fun related => related _ _

/-! ### Batches -/

lemma foldl_max_le {l : List ℚ} {start bound : ℚ} :
    l.foldl max start ≤ bound ↔ start ≤ bound ∧ ∀ x ∈ l, x ≤ bound := by
  induction l generalizing start with
  | nil => simp
  | cons x l ih =>
    rw [List.foldl_cons, ih, max_le_iff, List.forall_mem_cons, and_assoc]

/-- The time of as many windows as fit into a job. -/
lemma windows_fit {length cap : ℕ} {budget ceiling : ℚ} (one : 1 ≤ cap) (positive : 0 < budget)
    (below : budget ≤ ceiling) (short : length ≤ cap * max 1 ⌊ceiling / budget⌋₊) :
    ⌈(length : ℚ) / cap⌉ * budget ≤ ceiling := by
  have capPositive : (0 : ℚ) < cap := by exact_mod_cast one
  have windows : ⌈(length : ℚ) / cap⌉ ≤ ((max 1 ⌊ceiling / budget⌋₊ : ℕ) : ℤ) := by
    rw [Int.ceil_le, div_le_iff₀ capPositive, mul_comm]
    exact_mod_cast short
  have affordable : ((max 1 ⌊ceiling / budget⌋₊ : ℕ) : ℚ) * budget ≤ ceiling := by
    rcases le_total ⌊ceiling / budget⌋₊ 1 with few | many
    · rw [max_eq_left few, Nat.cast_one, one_mul]
      exact below
    · rw [max_eq_right many]
      exact (le_div_iff₀ positive).mp (Nat.floor_le (div_nonneg (positive.le.trans below) positive.le))
  have whole : (⌈(length : ℚ) / cap⌉ : ℚ) ≤ ((max 1 ⌊ceiling / budget⌋₊ : ℕ) : ℚ) := by
    exact_mod_cast windows
  exact (mul_le_mul_of_nonneg_right whole positive.le).trans affordable

/-- One batch of a group, under any id. -/
structure BatchOf (group : List Prepared) (first : Prepared) (chunk : List Prepared) (budget : ℚ)
    (entry : String → ExperimentBatch) : Prop where
  leads : first ∈ group
  nonempty : chunk ≠ []
  drawn : ∀ x ∈ chunk, x ∈ group
  budgets : ∀ x ∈ group, x.budget ≤ budget
  attained : ∃ x ∈ group, budget = x.budget
  short : chunk.length ≤ first.cap * max 1 ⌊benchJobCeilingMinutes / budget⌋₊
  batch : ∀ id, entry id =
    { id := id
      quotaDomain := first.cell.quotaDomain
      wave := some first.wave
      cells := chunk.map (·.cell.id)
      maxConcurrency := first.cap
      budgetMinutes := ⌈(chunk.length : ℚ) / first.cap⌉ * budget }

lemma foldl_max_mem (l : List ℚ) (start : ℚ) :
    l.foldl max start = start ∨ l.foldl max start ∈ l := by
  induction l generalizing start with
  | nil => exact Or.inl rfl
  | cons x l ih =>
    rw [List.foldl_cons]
    rcases ih (max start x) with top | later
    · rcases max_choice start x with first | second
      · exact Or.inl (top.trans first)
      · apply Or.inr
        rw [top, second]
        exact List.mem_cons_self
    · exact Or.inr (List.mem_cons_of_mem _ later)

lemma size_positive {group : List Prepared} {first : Prepared} (nonempty : group ≠ [])
    (one : 1 ≤ first.cap) (affordable : ℕ) :
    0 < min group.length (first.cap * max 1 affordable) := by
  refine lt_min (List.length_pos_iff.mpr nonempty) ?_
  exact Nat.mul_pos one (lt_of_lt_of_le one_pos (le_max_left 1 affordable))

lemma batchOf_of_mem {group : List Prepared} (caps : ∀ x ∈ group, 1 ≤ x.cap)
    {entry : String → ExperimentBatch} (member : entry ∈ batchesOf group) :
    ∃ first chunk budget, BatchOf group first chunk budget entry := by
  cases shape : group with
  | nil =>
    rw [shape] at member
    cases member
  | cons first rest =>
    have leads : first ∈ group := by simp [shape]
    rw [shape, batchesOf, ← shape] at member
    generalize top : (group.map (·.budget)).foldl max first.budget = budget at member
    obtain ⟨chunk, cut, rfl⟩ := List.mem_map.mp member
    have positive := size_positive (List.ne_nil_of_mem leads) (caps first leads)
      ⌊benchJobCeilingMinutes / budget⌋₊
    have bounds := foldl_max_le.mp (le_of_eq top)
    rw [← shape]
    refine ⟨first, chunk, budget, leads, Grouping.chunk_ne_nil positive cut,
      fun x hx => Grouping.mem_of_mem_chunk positive cut hx,
      fun x hx => bounds.2 _ (List.mem_map_of_mem hx), ?_, ?_, fun id => rfl⟩
    · rcases foldl_max_mem (group.map (·.budget)) first.budget with start | later
      · exact ⟨first, leads, top.symm.trans start⟩
      · obtain ⟨x, hx, same⟩ := List.mem_map.mp later
        exact ⟨x, hx, top.symm.trans same.symm⟩
    · exact (Grouping.length_chunk cut).trans (Nat.min_le_right _ _)

/-! ### The plan that is built -/

/-- The account of a quota domain whose policy entry declares nothing else. -/
def accountOf (policy : List (String × AccountCapacity)) (domain : String) : ExperimentAccount :=
  match capacityOf policy domain with
  | some c => ⟨domain, c.sandboxes, c.vcpus, c.memoryGb, c.gpus⟩
  | none => ⟨domain, 1, none, none, none⟩

def draftOf (policy : List (String × AccountCapacity)) (request : PlanRequest)
    (prepared : List Prepared) : PlanDraft where
  request := request
  accounts := (quotaDomains request.cells).map fun domain => (domain, capacityOf policy domain)
  batches := planBatches prepared
  rounds := planRounds (quotaDomains request.cells) (planBatches prepared)

def planOf (policy : List (String × AccountCapacity)) (request : PlanRequest)
    (prepared : List Prepared) (digest : String) : ExperimentPlan :=
  (draftOf policy request prepared).sealed
    ((quotaDomains request.cells).map (accountOf policy)) digest

variable {prepared : List Prepared}

lemma mem_quotaDomains {cell : ExperimentCell} (member : cell ∈ request.cells) :
    cell.quotaDomain ∈ quotaDomains request.cells := by
  rw [quotaDomains, Keyed.mem_setOf]
  exact List.mem_map_of_mem member

/-- What a planned batch was cut from. -/
structure Planned (prepared : List Prepared) (batch : ExperimentBatch) (group : List Prepared)
    (key : String) (first : Prepared) (chunk : List Prepared) (budget : ℚ) : Prop where
  grouped : (key, group) ∈ Grouping.groups Prepared.key prepared
  cut : ∃ entry id, BatchOf group first chunk budget entry ∧ batch = entry id

lemma planned_of_mem (all : AllReady runtime policy request prepared) {batch : ExperimentBatch}
    (member : batch ∈ planBatches prepared) :
    ∃ group key first chunk budget, Planned prepared batch group key first chunk budget := by
  obtain ⟨entry, he, i, rfl⟩ := mem_numbered member
  obtain ⟨⟨key, group⟩, grouped, cut⟩ := List.mem_flatMap.mp he
  obtain ⟨first, chunk, budget, of⟩ := batchOf_of_mem (fun x hx =>
    (all.ready x (Grouping.mem_of_mem_groups grouped hx).1).positive) cut
  exact ⟨group, key, first, chunk, budget, grouped, entry, _, of, rfl⟩

lemma batchFits_of_planned (h : Plannable runtime registry policy request)
    (apart : CollisionFree runtime request.cells)
    (all : AllReady runtime policy request prepared) {digest : String} {batch : ExperimentBatch}
    {group chunk : List Prepared} {key : String} {first : Prepared} {budget : ℚ}
    (planned : Planned prepared batch group key first chunk budget) :
    BatchFits (planOf policy request prepared digest) batch first.wave (chunk.map (·.cell))
      (accountOf policy first.cell.quotaDomain) := by
  obtain ⟨grouped, entry, id, of, rfl⟩ := planned
  have ready : ∀ x ∈ group, Ready runtime policy request x ∧ x.key = key := fun x hx =>
    ⟨all.ready x (Grouping.mem_of_mem_groups grouped hx).1, (Grouping.mem_of_mem_groups grouped hx).2⟩
  have window : ∀ x ∈ group, SameWindow x first := fun x hx =>
    sameWindow_of_key h.cells apart (ready x hx).1 (ready first of.leads).1
      ((ready x hx).2.trans (ready first of.leads).2.symm)
  obtain ⟨capacity, found, cap⟩ := (ready first of.leads).1.cap
  have one := (ready first of.leads).1.positive
  have capped := capped_capOf (capacity_schema h.capacities found)
    (h.cells.schema _ (ready first of.leads).1.member)
  rw [← cap] at capped
  have account : accountOf policy first.cell.quotaDomain =
      ⟨first.cell.quotaDomain, capacity.sandboxes, capacity.vcpus, capacity.memoryGb,
        capacity.gpus⟩ := by
    rw [accountOf, found]
  obtain ⟨most, hmost, attained⟩ := of.attained
  have positive : 0 < budget := by
    rw [attained, (ready most hmost).1.budget]
    exact budgets_positive (h.cells.schema _ (ready most hmost).1.member)
  have ceiling : budget ≤ benchJobCeilingMinutes := attained ▸ (ready most hmost).1.ceiling
  rw [of.batch]
  refine ⟨rfl, (List.map_map ..).symm, by simpa using of.nonempty, ?_, ?_, by rw [account], ?_, ?_,
    ?_⟩
  · intro cell member
    obtain ⟨x, hx, rfl⟩ := List.mem_map.mp member
    have inGroup := of.drawn x hx
    refine ⟨(ready x inGroup).1.member, (ready x inGroup).1.eligible, (window x inGroup).domain, ?_⟩
    rw [← (window x inGroup).wave]
    exact (ready x inGroup).1.wave
  · exact List.mem_map_of_mem (mem_quotaDomains (ready first of.leads).1.member)
  · rw [account]
    exact capped.sandboxes
  · exact windows_fit one positive ceiling of.short
  · obtain ⟨sample, rest, shape⟩ := List.exists_cons_of_ne_nil of.nonempty
    have inGroup := of.drawn sample (by simp [shape])
    have same := window sample inGroup
    have longest : ((chunk.map (·.cell)).map fun cell : ExperimentCell =>
        cell.startupMinutes + cell.workloadMinutes + cell.finishMinutes + 15).foldl max 0 ≤
        budget := by
      apply foldl_max_le.mpr
      refine ⟨positive.le, ?_⟩
      intro minutes listed
      obtain ⟨cell, member, rfl⟩ := List.mem_map.mp listed
      obtain ⟨x, hx, rfl⟩ := List.mem_map.mp member
      have below := of.budgets x (of.drawn x hx)
      rw [(ready x (of.drawn x hx)).1.budget] at below
      exact below
    have windows : 0 ≤ ⌈(chunk.length : ℚ) / first.cap⌉ :=
      Int.ceil_nonneg (div_nonneg chunk.length.cast_nonneg first.cap.cast_nonneg)
    have time := mul_le_mul_of_nonneg_left longest (Int.cast_nonneg (R := ℚ) windows)
    have head : (chunk.map (·.cell)).head? = some sample.cell := by rw [shape]; rfl
    simp only [overBudget, head, account, Bool.or_eq_false_iff, decide_eq_false_iff_not, not_lt,
      gt_iff_lt, same.target, same.gpus, List.length_map]
    exact ⟨⟨⟨capped.gpus, capped.vcpus⟩, capped.memoryGb⟩, time⟩

/-- The batches of one group list its cells. -/
lemma cells_batchesOf {group : List Prepared} (caps : ∀ x ∈ group, 1 ≤ x.cap) :
    (batchesOf group).flatMap (fun entry => (entry "").cells) = group.map (·.cell.id) := by
  cases shape : group with
  | nil => rfl
  | cons first rest =>
    have leads : first ∈ group := by simp [shape]
    rw [batchesOf, ← shape]
    generalize (group.map (·.budget)).foldl max first.budget = budget
    have positive := size_positive (List.ne_nil_of_mem leads) (caps first leads)
      ⌊benchJobCeilingMinutes / budget⌋₊
    have whole := congrArg (List.map fun x : Prepared => x.cell.id)
      (Grouping.flatten_chunks positive (l := group))
    rw [List.map_flatten] at whole
    rw [List.flatMap_map, List.flatMap_def]
    exact whole

lemma cells_planBatches (all : AllReady runtime policy request prepared) :
    (planBatches prepared).flatMap (·.cells) =
      ((Grouping.groups Prepared.key prepared).flatMap Prod.snd).map (·.cell.id) := by
  have lists : (planBatches prepared).map (·.cells) =
      ((Grouping.groups Prepared.key prepared).flatMap fun g => batchesOf g.2).map
        (fun entry => (entry "").cells) := by
    apply map_numbered
    intro entry member id
    obtain ⟨⟨key, group⟩, grouped, cut⟩ := List.mem_flatMap.mp member
    obtain ⟨first, chunk, budget, of⟩ := batchOf_of_mem (fun x hx =>
      (all.ready x (Grouping.mem_of_mem_groups grouped hx).1).positive) cut
    rw [of.batch, of.batch]
  rw [List.flatMap_def, lists, ← List.flatMap_def, List.flatMap_assoc, List.map_flatMap]
  apply List.flatMap_congr
  rintro ⟨key, group⟩ grouped
  exact cells_batchesOf fun x hx =>
    (all.ready x (Grouping.mem_of_mem_groups grouped hx).1).positive

lemma nodup_prepared (h : Plannable runtime registry policy request)
    (all : AllReady runtime policy request prepared) :
    (prepared.map (·.cell.id)).Nodup := by
  have ids := all.cells.map (·.id)
  rw [List.map_map] at ids
  refine ids.nodup_iff.mpr ?_
  exact h.cells.ids.sublist (List.filter_sublist.map _)

/-- The batches partition the eligible cells. -/
lemma perm_cells_planBatches (h : Plannable runtime registry policy request)
    (all : AllReady runtime policy request prepared) :
    ((planBatches prepared).flatMap (·.cells)).Perm (prepared.map (·.cell.id)) := by
  rw [cells_planBatches all]
  exact (Grouping.perm_flatMap_groups (nodup_prepared h all).of_map).map _

lemma order_planBatches (h : Plannable runtime registry policy request)
    (all : AllReady runtime policy request prepared) :
    (planBatches prepared).Pairwise BatchesInOrder := by
  have valid : ∀ x ∈ prepared, evidenceIdentifier x.cell.quotaDomain = true := fun x hx =>
    domain_valid (h.cells.schema _ (all.ready x hx).member)
  have respects : ∀ a ∈ prepared, ∀ b ∈ prepared, a.key = b.key →
      requiredWaveRank a.wave = requiredWaveRank b.wave := by
    intro a ha b hb same
    rw [(key_parts (valid a ha) (valid b hb) same).2.1]
  have caps : ∀ g ∈ Grouping.groups Prepared.key prepared, ∀ x ∈ g.2, 1 ≤ x.cap := fun g hg x hx =>
    (all.ready x (Grouping.mem_of_mem_groups hg hx).1).positive
  -- A batch has the wave of an entry of its group.
  have waves : ∀ g ∈ Grouping.groups Prepared.key prepared, ∀ entry ∈ batchesOf g.2,
      ∃ first ∈ g.2, ∀ id, (entry id).wave = some first.wave := by
    intro g hg entry cut
    obtain ⟨first, chunk, budget, of⟩ := batchOf_of_mem (caps g hg) cut
    exact ⟨first, of.leads, fun id => by rw [of.batch]⟩
  apply pairwise_numbered
  rw [List.pairwise_flatMap]
  constructor
  · intro g hg
    apply List.pairwise_of_forall_mem_list
    intro e he e' he' id id' _ wave wave' declared declared'
    obtain ⟨first, hFirst, known⟩ := waves g hg e he
    obtain ⟨first', hFirst', known'⟩ := waves g hg e' he'
    obtain rfl := Option.some.inj ((known id).symm.trans declared)
    obtain rfl := Option.some.inj ((known' id').symm.trans declared')
    obtain ⟨inList, keyed⟩ := Grouping.mem_of_mem_groups hg hFirst
    obtain ⟨inList', keyed'⟩ := Grouping.mem_of_mem_groups hg hFirst'
    exact (respects first inList first' inList' (keyed.trans keyed'.symm)).le
  · refine (Grouping.pairwise_groups all.sorted respects).imp_of_mem ?_
    intro g g' hg hg' below e he e' he' id id' _ wave wave' declared declared'
    obtain ⟨first, hFirst, known⟩ := waves g hg e he
    obtain ⟨first', hFirst', known'⟩ := waves g' hg' e' he'
    obtain rfl := Option.some.inj ((known id).symm.trans declared)
    obtain rfl := Option.some.inj ((known' id').symm.trans declared')
    exact below first hFirst first' hFirst'

lemma ids_planBatches (all : AllReady runtime policy request prepared) :
    ((planBatches prepared).map (·.id)).Nodup := by
  apply nodup_ids_numbered
  intro entry member name
  obtain ⟨⟨key, group⟩, grouped, cut⟩ := List.mem_flatMap.mp member
  obtain ⟨first, chunk, budget, of⟩ := batchOf_of_mem (fun x hx =>
    (all.ready x (Grouping.mem_of_mem_groups grouped hx).1).positive) cut
  rw [of.batch]

lemma domains_accounts : ((quotaDomains request.cells).map (accountOf policy)).map (·.quotaDomain) =
    quotaDomains request.cells := by
  rw [List.map_map]
  refine (List.map_congr_left fun domain _ => ?_).trans (List.map_id _)
  rw [Function.comp_apply, accountOf]
  cases capacityOf policy domain <;> rfl

lemma batchesFit (h : Plannable runtime registry policy request)
    (apart : CollisionFree runtime request.cells)
    (all : AllReady runtime policy request prepared) {digest : String} :
    BatchesFit (planOf policy request prepared digest) := by
  refine ⟨h.cells.ids, ?_, ?_, ids_planBatches all, ?_, order_planBatches h all⟩
  · exact domains_accounts ▸ Keyed.nodup_setOf _
  · intro batch member
    obtain ⟨group, key, first, chunk, budget, planned⟩ := planned_of_mem all member
    exact ⟨_, _, _, batchFits_of_planned h apart all planned⟩
  · exact (perm_cells_planBatches h all).nodup_iff.mpr (nodup_prepared h all)

/-! ### Rounds -/

/-- The batches of one quota domain and wave. -/
def domainBatches (batches : List ExperimentBatch) (domain : String) (wave : BenchmarkWave) :
    List ExperimentBatch :=
  batches.filter fun batch => batch.quotaDomain = domain ∧ batch.wave = some wave

lemma batches_roundsOf (batches : List ExperimentBatch) (domain : String) (wave : BenchmarkWave) :
    (roundsOf batches domain wave).flatMap (fun entry => (entry "").batches) =
      (domainBatches batches domain wave).map (·.id) := by
  have positive : 0 < roundBatchLimit := by decide
  have whole := congrArg (List.map fun b : ExperimentBatch => b.id)
    (Grouping.flatten_chunks positive (l := domainBatches batches domain wave))
  rw [List.map_flatten] at whole
  rw [roundsOf, List.flatMap_map, List.flatMap_def]
  exact whole

/-- Every batch of a known quota domain falls under one quota domain and wave. -/
lemma perm_domainBatches {domains : List String} {batches : List ExperimentBatch}
    (distinct : domains.Nodup) (nodup : batches.Nodup)
    (placed : ∀ batch ∈ batches, batch.quotaDomain ∈ domains ∧ ∃ wave, batch.wave = some wave) :
    (domains.flatMap fun domain => benchmarkWaveOrder.flatMap fun wave =>
      domainBatches batches domain wave).Perm batches := by
  have filed : ∀ {batch domain wave}, batch ∈ domainBatches batches domain wave ↔
      batch ∈ batches ∧ batch.quotaDomain = domain ∧ batch.wave = some wave := by
    intro batch domain wave
    simp [domainBatches]
  have once : (domains.flatMap fun domain => benchmarkWaveOrder.flatMap fun wave =>
      domainBatches batches domain wave).Nodup := by
    rw [List.nodup_flatMap]
    constructor
    · intro domain _
      rw [List.nodup_flatMap]
      refine ⟨fun wave _ => nodup.filter _, ?_⟩
      have waves : benchmarkWaveOrder.Nodup := by decide
      refine waves.imp ?_
      intro wave wave' other batch here there
      exact other (Option.some.inj ((filed.mp here).2.2.symm.trans (filed.mp there).2.2))
    · refine distinct.imp ?_
      intro domain domain' other batch here there
      obtain ⟨_, _, here⟩ := List.mem_flatMap.mp here
      obtain ⟨_, _, there⟩ := List.mem_flatMap.mp there
      exact other ((filed.mp here).2.1.symm.trans (filed.mp there).2.1)
  refine (List.perm_ext_iff_of_nodup once nodup).mpr fun batch => ?_
  simp only [List.mem_flatMap, filed]
  constructor
  · rintro ⟨_, _, _, _, member, _, _⟩
    exact member
  · intro member
    obtain ⟨known, wave, declared⟩ := placed batch member
    refine ⟨batch.quotaDomain, known, wave, ?_, member, rfl, declared⟩
    cases wave <;> decide

/-- One round of a quota domain and wave, under any id. -/
structure RoundOf (batches : List ExperimentBatch) (domain : String) (wave : BenchmarkWave)
    (chunk : List ExperimentBatch) (entry : String → ExperimentRound) : Prop where
  nonempty : chunk ≠ []
  short : chunk.length ≤ roundBatchLimit
  drawn : ∀ batch ∈ chunk, batch ∈ batches ∧ batch.quotaDomain = domain ∧ batch.wave = some wave
  round : ∀ id, entry id =
    { id := id, quotaDomain := domain, wave := some wave, batches := chunk.map (·.id) }

lemma roundOf_of_mem {batches : List ExperimentBatch} {domain : String} {wave : BenchmarkWave}
    {entry : String → ExperimentRound} (member : entry ∈ roundsOf batches domain wave) :
    ∃ chunk, RoundOf batches domain wave chunk entry := by
  rw [roundsOf] at member
  obtain ⟨chunk, cut, rfl⟩ := List.mem_map.mp member
  have positive : 0 < roundBatchLimit := by decide
  refine ⟨chunk, Grouping.chunk_ne_nil positive cut, Grouping.length_chunk cut, ?_, fun id => rfl⟩
  intro batch drawn
  have filed := Grouping.mem_of_mem_chunk positive cut drawn
  simpa using filed

lemma rounds_in_order {batches : List ExperimentBatch} {domains : List String}
    (distinct : domains.Nodup) : (planRounds domains batches).Pairwise RoundsInOrder := by
  have reads : ∀ {domain wave entry}, entry ∈ roundsOf batches domain wave → ∀ id,
      (entry id).quotaDomain = domain ∧ (entry id).wave = some wave := by
    intro domain wave entry member id
    obtain ⟨chunk, of⟩ := roundOf_of_mem member
    rw [of.round]
    exact ⟨rfl, rfl⟩
  apply pairwise_numbered
  rw [List.pairwise_flatMap]
  constructor
  · intro domain _
    rw [List.pairwise_flatMap]
    constructor
    · intro wave _
      apply List.pairwise_of_forall_mem_list
      intro e he e' he' id id' _ w w' declared declared'
      rw [(reads he id).2, Option.some.injEq] at declared
      rw [(reads he' id').2, Option.some.injEq] at declared'
      rw [← declared, ← declared']
    · have rising : benchmarkWaveOrder.Pairwise fun w w' =>
          requiredWaveRank w ≤ requiredWaveRank w' := by decide
      refine rising.imp ?_
      intro wave wave' below e he e' he' id id' _ w w' declared declared'
      rw [(reads he id).2, Option.some.injEq] at declared
      rw [(reads he' id').2, Option.some.injEq] at declared'
      rw [← declared, ← declared']
      exact below
  · refine distinct.imp ?_
    intro domain domain' other e he e' he' id id' same
    obtain ⟨_, _, he⟩ := List.mem_flatMap.mp he
    obtain ⟨_, _, he'⟩ := List.mem_flatMap.mp he'
    exact absurd ((reads he id).1.symm.trans (same.trans (reads he' id').1)) other

lemma batches_planRounds {batches : List ExperimentBatch} {domains : List String} :
    (planRounds domains batches).flatMap (·.batches) =
      (domains.flatMap fun domain => benchmarkWaveOrder.flatMap fun wave =>
        domainBatches batches domain wave).map (·.id) := by
  have lists : (planRounds domains batches).map (·.batches) =
      (domains.flatMap fun domain => benchmarkWaveOrder.flatMap fun wave =>
        roundsOf batches domain wave).map (fun entry => (entry "").batches) := by
    apply map_numbered
    intro entry member id
    obtain ⟨domain, _, here⟩ := List.mem_flatMap.mp member
    obtain ⟨wave, _, here⟩ := List.mem_flatMap.mp here
    obtain ⟨chunk, of⟩ := roundOf_of_mem here
    rw [of.round, of.round]
  rw [List.flatMap_def, lists, ← List.flatMap_def]
  simp only [List.flatMap_assoc, List.map_flatMap, batches_roundsOf]

/-- The rounds partition the batches. -/
lemma perm_batches_planRounds (h : Plannable runtime registry policy request)
    (apart : CollisionFree runtime request.cells)
    (all : AllReady runtime policy request prepared) :
    ((planRounds (quotaDomains request.cells) (planBatches prepared)).flatMap (·.batches)).Perm
      ((planBatches prepared).map (·.id)) := by
  rw [batches_planRounds]
  refine (perm_domainBatches (Keyed.nodup_setOf _) (ids_planBatches all).of_map ?_).map _
  intro batch member
  obtain ⟨group, key, first, chunk, budget, planned⟩ := planned_of_mem all member
  have fits : BatchFits (planOf policy request prepared "") batch first.wave (chunk.map (·.cell))
      (accountOf policy first.cell.quotaDomain) := batchFits_of_planned h apart all planned
  obtain ⟨cell, hc⟩ := List.exists_mem_of_ne_nil _ fits.nonempty
  obtain ⟨inRequest, _, domain, _⟩ := fits.planned cell hc
  exact ⟨domain ▸ mem_quotaDomains inRequest, first.wave, fits.declared⟩

lemma roundsFit (h : Plannable runtime registry policy request)
    (apart : CollisionFree runtime request.cells)
    (all : AllReady runtime policy request prepared) {digest : String} :
    RoundsFit (planOf policy request prepared digest) := by
  refine ⟨ids_planBatches all, ?_, ?_, ?_, rounds_in_order (Keyed.nodup_setOf _)⟩
  · intro round member
    obtain ⟨entry, he, i, rfl⟩ := mem_numbered member
    obtain ⟨domain, _, here⟩ := List.mem_flatMap.mp he
    obtain ⟨wave, _, here⟩ := List.mem_flatMap.mp here
    obtain ⟨chunk, of⟩ := roundOf_of_mem here
    rw [of.round]
    have bound : roundBatchLimit ≤ 256 := by decide
    exact ⟨wave, chunk, rfl, rfl, of.nonempty, of.short.trans bound, of.drawn⟩
  · apply nodup_ids_numbered
    intro entry member name
    obtain ⟨domain, _, here⟩ := List.mem_flatMap.mp member
    obtain ⟨wave, _, here⟩ := List.mem_flatMap.mp here
    obtain ⟨chunk, of⟩ := roundOf_of_mem here
    rw [of.round]
  · exact (perm_batches_planRounds h apart all).nodup_iff.mpr (ids_planBatches all)

/-! ### The document -/

lemma identifier_numbered {kind : String} (lead : evidenceIdentifier kind = true) (i : ℕ) :
    evidenceIdentifier (kind ++ toString i) = true := by
  have digits : ∀ c ∈ (toString i).toList, c.isAlphanum = true := by
    intro c hc
    have chars : (toString i).toList = Nat.toDigits 10 i := String.toList_ofList
    rw [chars] at hc
    simp [Char.isAlphanum, isDigit_toDigits hc]
  rw [evidenceIdentifier] at lead ⊢
  rw [String.toList_append]
  cases chars : kind.toList with
  | nil => simp [chars] at lead
  | cons c rest =>
    rw [chars] at lead
    simp only [List.cons_append, List.all_append, Bool.and_eq_true] at lead ⊢
    refine ⟨lead.1, lead.2, ?_⟩
    rw [List.all_eq_true]
    intro d hd
    simp [digits d hd]

lemma batch_schema (h : Plannable runtime registry policy request)
    (all : AllReady runtime policy request prepared) {batch : ExperimentBatch}
    (member : batch ∈ planBatches prepared) : experimentBatchSchema batch = true := by
  obtain ⟨entry, he, i, rfl⟩ := mem_numbered member
  obtain ⟨⟨key, group⟩, grouped, cut⟩ := List.mem_flatMap.mp he
  have ready : ∀ x ∈ group, Ready runtime policy request x := fun x hx =>
    all.ready x (Grouping.mem_of_mem_groups grouped hx).1
  obtain ⟨first, chunk, budget, of⟩ := batchOf_of_mem (fun x hx => (ready x hx).positive) cut
  obtain ⟨most, hmost, attained⟩ := of.attained
  have positive : 0 < budget := by
    rw [attained, (ready most hmost).budget]
    exact budgets_positive (h.cells.schema _ (ready most hmost).member)
  have one := (ready first of.leads).positive
  have some := List.length_pos_iff.mpr of.nonempty
  have windows : 0 < ⌈(chunk.length : ℚ) / first.cap⌉ :=
    Int.ceil_pos.mpr (div_pos (by exact_mod_cast some) (by exact_mod_cast one))
  rw [of.batch]
  simp only [experimentBatchSchema, Bool.and_eq_true, decide_eq_true_eq, List.length_map]
  refine ⟨⟨⟨⟨identifier_numbered (by decide) i, ?_⟩, some⟩, one⟩, ?_⟩
  · exact domain_valid (h.cells.schema _ (ready first of.leads).member)
  · exact mul_pos (by exact_mod_cast windows) positive

lemma domains_valid (h : Plannable runtime registry policy request) {domain : String}
    (member : domain ∈ quotaDomains request.cells) : evidenceIdentifier domain = true := by
  rw [quotaDomains, Keyed.mem_setOf] at member
  obtain ⟨cell, hc, rfl⟩ := List.mem_map.mp member
  exact domain_valid (h.cells.schema cell hc)

lemma round_schema (h : Plannable runtime registry policy request) {round : ExperimentRound}
    {batches : List ExperimentBatch}
    (member : round ∈ planRounds (quotaDomains request.cells) batches) :
    experimentRoundSchema round = true := by
  obtain ⟨entry, he, i, rfl⟩ := mem_numbered member
  obtain ⟨domain, known, here⟩ := List.mem_flatMap.mp he
  obtain ⟨wave, _, here⟩ := List.mem_flatMap.mp here
  obtain ⟨chunk, of⟩ := roundOf_of_mem here
  rw [of.round]
  simp only [experimentRoundSchema, Bool.and_eq_true, decide_eq_true_eq, List.length_map]
  exact ⟨⟨identifier_numbered (by decide) i, domains_valid h known⟩,
    List.length_pos_iff.mpr of.nonempty⟩

lemma declared_domain (h : Plannable runtime registry policy request) {domain : String}
    (member : domain ∈ quotaDomains request.cells) :
    ∃ capacity, capacityOf policy domain = some capacity ∧ capacity.undeclared = [] := by
  rw [quotaDomains, Keyed.mem_setOf] at member
  obtain ⟨cell, hc, rfl⟩ := List.mem_map.mp member
  exact h.declared cell hc

lemma account_schema (h : Plannable runtime registry policy request) {domain : String}
    (member : domain ∈ quotaDomains request.cells) :
    experimentAccountSchema (accountOf policy domain) = true := by
  obtain ⟨capacity, found, _⟩ := declared_domain h member
  have valid := capacity_schema h.capacities found
  simp only [accountCapacitySchema, Bool.and_eq_true] at valid
  simp only [accountOf, found, experimentAccountSchema, Bool.and_eq_true]
  exact ⟨⟨⟨domains_valid h member, valid.1.1⟩, valid.1.2⟩, valid.2⟩

lemma parseAccount_declared (h : Plannable runtime registry policy request) {domain : String}
    (member : domain ∈ quotaDomains request.cells) :
    parseAccount domain (capacityOf policy domain) = some (accountOf policy domain) := by
  obtain ⟨capacity, found, declared⟩ := declared_domain h member
  simp only [parseAccount, accountOf, found, Option.bind_some, declared]

lemma accountJson_declared (h : Plannable runtime registry policy request) {domain : String}
    (member : domain ∈ quotaDomains request.cells) :
    accountJson domain (capacityOf policy domain) = (accountOf policy domain).toJson := by
  obtain ⟨⟨sandboxes, vcpus, memoryGb, gpus, undeclared⟩, found, rfl⟩ := declared_domain h member
  simp only [accountJson, accountOf, found, ExperimentAccount.toJson, List.append_nil]
  rw [Keyed.mapOf_of_nodup]
  · rfl
  · cases vcpus <;> cases memoryGb <;> cases gpus <;> simp [optionalField]

lemma body_draftOf (h : Plannable runtime registry policy request) (digest : String) :
    (draftOf policy request prepared).body = (planOf policy request prepared digest).body := by
  have accounts : (draftOf policy request prepared).accounts.map
      (fun entry => accountJson entry.1 entry.2) =
      ((quotaDomains request.cells).map (accountOf policy)).map (·.toJson) := by
    rw [draftOf, List.map_map, List.map_map]
    apply List.map_congr_left
    intro domain member
    exact accountJson_declared h member
  simp only [PlanDraft.body, accounts]
  rfl

lemma prepared_ne_nil (h : Plannable runtime registry policy request)
    (all : AllReady runtime policy request prepared) : prepared ≠ [] := by
  obtain ⟨cell, member, eligible⟩ := h.cells.eligible
  rintro rfl
  have none := all.cells.symm.mem_iff.mp (List.mem_filter.mpr ⟨member, eligible⟩)
  cases none

lemma plan_schema (h : Plannable runtime registry policy request)
    (all : AllReady runtime policy request prepared)
    (apart : CollisionFree runtime request.cells) {digest : String}
    (hashed : sha256Digest digest = true) :
    experimentPlanSchema (planOf policy request prepared digest) = true := by
  obtain ⟨cell, member, eligible⟩ := h.cells.eligible
  have dated : dateText request.createdOn = true := by
    have date := h.cells.date
    simp only [validDate, Bool.and_eq_true] at date
    exact date.1.1.1.1
  have domains : 1 ≤ (quotaDomains request.cells).length :=
    List.length_pos_of_mem (mem_quotaDomains member)
  have batches : 1 ≤ (planBatches prepared).length := by
    rw [Nat.one_le_iff_ne_zero, ne_eq, List.length_eq_zero_iff]
    intro none
    have perm := perm_cells_planBatches h all
    rw [none, List.flatMap_nil, List.nil_perm, List.map_eq_nil_iff] at perm
    exact prepared_ne_nil h all perm
  have rounds : 1 ≤ (planRounds (quotaDomains request.cells) (planBatches prepared)).length := by
    rw [Nat.one_le_iff_ne_zero, ne_eq, List.length_eq_zero_iff]
    intro none
    have perm := perm_batches_planRounds h apart all
    rw [none, List.flatMap_nil, List.nil_perm, List.map_eq_nil_iff] at perm
    simp [perm] at batches
  simp only [experimentPlanSchema, Bool.and_eq_true, List.all_eq_true, decide_eq_true_eq]
  refine ⟨⟨⟨⟨⟨⟨⟨⟨⟨⟨⟨h.id, h.sha⟩, dated⟩, hashed⟩, ?_⟩, ?_⟩, ?_⟩, h.cells.schema⟩, batches⟩,
    fun batch hb => batch_schema h all hb⟩, rounds⟩, fun round hr => round_schema h hr⟩
  · exact (List.length_map _).ge.trans' domains
  · intro account known
    obtain ⟨domain, hd, rfl⟩ := List.mem_map.mp known
    exact account_schema h hd
  · exact List.length_pos_of_mem member

/-! ### The planner -/

lemma draftPlan_accepts (h : Plannable runtime registry policy request) :
    ∃ prepared, AllReady runtime policy request prepared ∧
      draftPlan runtime policy request = .ok (draftOf policy request prepared) := by
  obtain ⟨ordered, prepared, orders, prepares, all⟩ := prepared_accepts h
  have schema : request.cells.all experimentCellSchema = true :=
    List.all_eq_true.mpr h.cells.schema
  refine ⟨prepared, all, ?_⟩
  simp only [draftPlan, schema, throwIf, Bool.true_eq_false, if_false, ok_bind, orders, prepares]
  rfl

lemma planOf_accepted (known : Registered registry)
    (hex : ∀ text, sha256Digest ("sha256:" ++ runtime.sha256 text) = true)
    (apart : CollisionFree runtime request.cells)
    (h : Plannable runtime registry policy request)
    (all : AllReady runtime policy request prepared) {digest : String}
    (digested : evidenceDigest runtime (draftOf policy request prepared).body = .ok digest) :
    verifyExperimentPlan runtime registry (planOf policy request prepared digest) =
      .ok (planOf policy request prepared digest) := by
  have hashed : sha256Digest digest = true := by
    simp only [evidenceDigest, bind_eq_ok, pure_eq_ok] at digested
    obtain ⟨json, _, rfl⟩ := digested
    exact hex json
  apply verifyExperimentPlan_accepts known
  refine ⟨plan_schema h all apart hashed, body_draftOf h digest ▸ digested, h.cells,
    batchesFit h apart all, roundsFit h apart all, ?_, ?_⟩
  · have size := (perm_cells_planBatches h all).length_eq
    have eligible := all.cells.length_eq
    rw [List.length_map] at size eligible
    exact size.trans eligible
  · have size := (perm_batches_planRounds h apart all).length_eq
    rw [List.length_map] at size
    exact size

lemma mapM_some {α β : Type} {f : α → Option β} {g : α → β} {l : List α}
    (each : ∀ x ∈ l, f x = some (g x)) : l.mapM f = some (l.map g) := by
  induction l with
  | nil => rfl
  | cons x l ih =>
    rw [List.forall_mem_cons] at each
    rw [List.mapM_cons, each.1, ih each.2]
    rfl

/-- Only the digest of its document can still refuse a plan. -/
theorem planExperiment_returns (known : Registered registry)
    (hex : ∀ text, sha256Digest ("sha256:" ++ runtime.sha256 text) = true)
    (apart : CollisionFree runtime request.cells)
    (h : Plannable runtime registry policy request) :
    ∃ draft accounts, draftPlan runtime policy request = .ok draft ∧
      (∀ digest, evidenceDigest runtime draft.body = .ok digest →
        planExperiment runtime registry policy request = .ok (draft.sealed accounts digest)) ∧
      ∀ error, evidenceDigest runtime draft.body = .error error →
        planExperiment runtime registry policy request = .error error := by
  obtain ⟨prepared, all, drafted⟩ := draftPlan_accepts h
  have parsed : (draftOf policy request prepared).accounts.mapM
      (fun entry => parseAccount entry.1 entry.2) =
      some ((quotaDomains request.cells).map (accountOf policy)) := by
    rw [draftOf, List.mapM_map]
    exact mapM_some fun domain member => parseAccount_declared h member
  refine ⟨draftOf policy request prepared, (quotaDomains request.cells).map (accountOf policy),
    drafted, ?_, ?_⟩
  · intro digest digested
    simp only [planExperiment, drafted, digested, parsed, require, ok_bind]
    exact planOf_accepted known hex apart h all digested
  · intro error refused
    simp only [planExperiment, drafted, refused, ok_bind, error_bind]

/-! ### Samples -/

/-- 64 hexadecimal digits that tell texts of different lengths apart. -/
def lengthDigits (text : String) : List Char :=
  (List.range 64).map fun i => Nat.digitChar (text.length / 16 ^ i % 16)

def measuring : Runtime where
  toJsonRuntime := plainJson
  sha256 := fun text => String.ofList (lengthDigits text)
  localeCompare := byCodeUnits
  collation := instTransCmpStringByCodeUnits

lemma measuring_hex (text : String) :
    sha256Digest ("sha256:" ++ measuring.sha256 text) = true := by
  have digits : (lengthDigits text).all isHex = true := by
    have hex : ∀ n < 16, isHex (Nat.digitChar n) = true := by decide
    rw [List.all_eq_true]
    intro c member
    obtain ⟨i, _, rfl⟩ := List.mem_map.mp member
    exact hex _ (Nat.mod_lt _ (by decide))
  have chars : ("sha256:" ++ measuring.sha256 text).toList =
      "sha256:".toList ++ lengthDigits text := by
    rw [String.toList_append]
    exact congrArg _ String.toList_ofList
  have size : (lengthDigits text).length = 64 := by simp [lengthDigits]
  have front : ("sha256:".toList ++ lengthDigits text).take 7 = "sha256:".toList :=
    List.take_left' (by decide)
  have back : ("sha256:".toList ++ lengthDigits text).drop 7 = lengthDigits text :=
    List.drop_left' (by decide)
  rw [sha256Digest, chars, front, back, size, digits]
  rfl

def sampleCell (suite artifact : String) (replicate : ℕ) : ExperimentCell :=
  ⟨if replicate = 0 then "c0" else "c1", "e2b", "e2b", suite, replicate, "w", artifact, "v",
    ⟨4, 8, none⟩, none, ["m"], [], 2, 5, 40, 5⟩

def sampleRequest (sha suite artifact : String) : PlanRequest :=
  ⟨"7", sha, "2026-01-31", [sampleCell suite artifact 0, sampleCell suite artifact 1], some 1⟩

def samplePolicy (sandboxes : ℕ) : List (String × AccountCapacity) :=
  [("e2b", ⟨sandboxes, some 8, some 16, none, []⟩)]

lemma measuring_digest {value : Value} (container : isContainer value = true)
    (fits : (visit plainJson evidenceLimits (evidenceLimits.maxDepth + 1) value ⟨0, 0⟩).isOk =
      true) : ∃ digest, evidenceDigest measuring value = .ok digest := by
  obtain ⟨json, printed⟩ := canonicalJsonString_of_visit plainJson evidenceLimits value container
    fits
  have same : canonicalJsonString measuring.toJsonRuntime evidenceLimits value = .ok json := printed
  refine ⟨"sha256:" ++ measuring.sha256 json, ?_⟩
  simp only [evidenceDigest, same, ok_bind]
  rfl

lemma sample_rules {sha suite artifact : String} (known : suite = "memory" ∨ suite = "gpu")
    (named : nonempty artifact = true) :
    CellRules measuring sampleRegistry "2026-01-31" (sampleRequest sha suite artifact).cells := by
  have each : ∀ {P : ExperimentCell → Prop}, P (sampleCell suite artifact 0) →
      P (sampleCell suite artifact 1) →
      ∀ cell ∈ (sampleRequest sha suite artifact).cells, P cell := by
    intro P first second
    exact List.forall_mem_cons.mpr ⟨first, List.forall_mem_singleton.mpr second⟩
  obtain ⟨target, hTarget⟩ := @measuring_digest (TargetSpec.toJson ⟨4, 8, none⟩) rfl
    (by decide +kernel)
  obtain ⟨cohort, hCohort⟩ := @measuring_digest sampleCohort rfl (by decide +kernel)
  refine ⟨?_, ?_, ?_, ⟨target, each hTarget hTarget⟩, each (each ?_ ?_) (each ?_ ?_),
    ⟨fun _ => cohort, each hCohort hCohort⟩, each ?_ ?_, each ?_ ?_, by decide +kernel,
    ⟨sampleCell suite artifact 0, by simp [sampleRequest], rfl⟩⟩
  · rcases known with rfl | rfl <;> refine each ?_ ?_ <;>
      (simp [experimentCellSchema, sampleCell, named]; decide +kernel)
  · exact (by decide : ["c0", "c1"].Nodup)
  · rcases known with rfl | rfl <;>
      (simp only [sampleRequest, sampleCell, List.map_cons, List.map_nil, logicalReplicate]
       decide +kernel)
  all_goals simp [sampleCell]

lemma sample_apart {sha suite artifact : String} :
    CollisionFree measuring (sampleRequest sha suite artifact).cells := by
  intro c hc d hd _ _ json json' hJson hJson' _
  have same : ∀ cell ∈ (sampleRequest sha suite artifact).cells,
      allocation cell = allocation (sampleCell suite artifact 0) := by
    simp [sampleRequest, allocation, sampleCell]
  rw [same c hc] at hJson
  rw [same d hd, hJson] at hJson'
  exact Except.ok.inj hJson'

lemma sample_requested {sha suite artifact : String} {sandboxes : ℕ}
    (known : suite = "memory" ∨ suite = "gpu") (named : nonempty artifact = true)
    (one : 1 ≤ sandboxes) : Requested measuring sampleRegistry (samplePolicy sandboxes)
      (sampleRequest sha suite artifact) := by
  refine ⟨sample_rules known named, ?_, ?_⟩
  · simp [accountCapacityPolicySchema, samplePolicy, accountCapacitySchema, one]
  · have fits : ∀ i, FitsAlone (samplePolicy sandboxes) (sampleCell suite artifact i) := by
      intro i
      refine ⟨_, rfl, one, ?_, ?_, ?_, ?_⟩
      · rintro _ ⟨⟩
        norm_num [sampleCell]
      · rintro _ ⟨⟩
        norm_num [sampleCell]
      · rintro _ ⟨⟩
      · norm_num [budgetOf, sampleCell, benchJobCeilingMinutes]
    simp only [sampleRequest, List.forall_mem_cons, List.not_mem_nil, false_imp_iff, imp_true_iff]
    exact ⟨fun _ => fits 0, fun _ => fits 1, trivial⟩

lemma sampleRegistry_known : Registered sampleRegistry := fun id _ => ⟨id, rfl⟩

def sampleSha : String := "aaaaaaaaaaaaaaaaaaaaaaaaaaaaaaaaaaaaaaaa"

lemma sample_plannable {artifact : String} (named : nonempty artifact = true) :
    Plannable measuring sampleRegistry (samplePolicy 2)
      (sampleRequest sampleSha "memory" artifact) := by
  refine ⟨sample_requested (Or.inl rfl) named (by decide), ?_, ?_, ?_, ?_, ?_, ?_⟩
  · exact (by decide : evidenceIdentifier "7" = true)
  · exact (by decide : shaText sampleSha = true)
  · intro cell member _
    refine ⟨.syntheticMemory, ?_⟩
    simp only [sampleRequest, List.mem_cons, List.not_mem_nil, or_false] at member
    rcases member with rfl | rfl <;> rfl
  · intro cell member _
    obtain ⟨identity, digest⟩ := @measuring_digest (allocation (sampleCell "memory" "a" 0)) rfl
      (by decide +kernel)
    refine ⟨identity, ?_⟩
    simp only [sampleRequest, List.mem_cons, List.not_mem_nil, or_false] at member
    rcases member with rfl | rfl <;> exact digest
  · intro cell member _ capacity found
    simp only [sampleRequest, List.mem_cons, List.not_mem_nil, or_false] at member
    rcases member with rfl | rfl <;> obtain rfl := Option.some.inj found <;> decide
  · intro cell member
    simp only [sampleRequest, List.mem_cons, List.not_mem_nil, or_false] at member
    rcases member with rfl | rfl <;> exact ⟨_, rfl, rfl⟩

/-- Two replicates that one account runs at once. -/
theorem planExperiment_returns_sample : ∃ draft accounts,
    draftPlan measuring (samplePolicy 2) (sampleRequest sampleSha "memory" "a") = .ok draft ∧
      (∀ digest, evidenceDigest measuring draft.body = .ok digest →
        planExperiment measuring sampleRegistry (samplePolicy 2)
          (sampleRequest sampleSha "memory" "a") = .ok (draft.sealed accounts digest)) ∧
      ∀ error, evidenceDigest measuring draft.body = .error error →
        planExperiment measuring sampleRegistry (samplePolicy 2)
          (sampleRequest sampleSha "memory" "a") = .error error :=
  planExperiment_returns sampleRegistry_known measuring_hex sample_apart (sample_plannable rfl)

/-! ### Requests without a plan -/

lemma planned_ok {plan : ExperimentPlan}
    (planned : planExperiment runtime registry policy request = .ok plan) :
    shaText request.sha = true ∧ ∃ (draft : PlanDraft) (digest : String),
      draft.request = request ∧ evidenceDigest runtime draft.body = .ok digest := by
  simp only [planExperiment, bind_eq_ok, require_eq_ok] at planned
  obtain ⟨draft, drafted, digest, digested, accounts, _, verified⟩ := planned
  have source : draft.request = request := by
    simp only [draftPlan, bind_eq_ok, pure_eq_ok] at drafted
    obtain ⟨_, _, _, _, _, _, rfl⟩ := drafted
    rfl
  have schema := (verified_of_ok verified).2.schema
  simp only [experimentPlanSchema, Bool.and_eq_true] at schema
  have sha := schema.1.1.1.1.1.1.1.1.1.1.2
  rw [PlanDraft.sealed, source] at sha
  exact ⟨sha, draft, digest, source, digested⟩

/-- A plan is a document that names the artifact of each cell. -/
lemma artifact_in_body {draft : PlanDraft} {cell : ExperimentCell}
    (member : cell ∈ draft.request.cells) : HasString cell.artifactIdentity draft.body := by
  have inCell : HasString cell.artifactIdentity cell.toJson :=
    @HasString.field _ _ "artifactIdentity" (.str cell.artifactIdentity) (by simp) .here
  exact @HasString.field _ _ "cells" (.arr (draft.request.cells.map (·.toJson))) (by simp)
    (.item (List.mem_map_of_mem member) inCell)

lemma utf16Length_replicate (n : ℕ) :
    CodeUnits.utf16Length (String.ofList (List.replicate n 'a')) = n := by
  rw [CodeUnits.utf16Length, CodeUnits.units, String.toList_ofList]
  induction n with
  | zero => rfl
  | succ n ih =>
    rw [List.replicate_succ, List.flatMap_cons, List.length_append, ih, Nat.add_comm]
    rfl

/-- A string one code unit longer than a digest accepts. -/
def longName : String :=
  String.ofList (List.replicate (evidenceLimits.maxStringLength + 1) 'a')

lemma longName_long : evidenceLimits.maxStringLength < CodeUnits.utf16Length longName := by
  rw [longName, utf16Length_replicate]
  exact Nat.lt_succ_self _

lemma longName_nonempty : nonempty longName = true := by
  rw [nonempty, bne_iff_ne]
  intro empty
  have long := longName_long
  rw [empty] at long
  exact absurd long (Nat.not_lt_zero _)

/-- Cells that the rules allow, under a policy that its schema allows, and no plan: a sandbox count
beyond the safe integers, a suite outside the registry, a request that names no commit, and a
document beyond the digest's limits. -/
theorem planExperiment_refuses :
    (Requested measuring sampleRegistry (samplePolicy (maxSafeInteger + 1))
        (sampleRequest sampleSha "memory" "a") ∧
      planExperiment measuring sampleRegistry (samplePolicy (maxSafeInteger + 1))
        (sampleRequest sampleSha "memory" "a") = .error "invalid account capacity: e2b") ∧
    (Requested measuring sampleRegistry (samplePolicy 2) (sampleRequest sampleSha "gpu" "a") ∧
      planExperiment measuring sampleRegistry (samplePolicy 2) (sampleRequest sampleSha "gpu" "a") =
        .error "unknown benchmark suite: gpu") ∧
    (Requested measuring sampleRegistry (samplePolicy 2) (sampleRequest "main" "memory" "a") ∧
      ∀ plan, planExperiment measuring sampleRegistry (samplePolicy 2)
        (sampleRequest "main" "memory" "a") ≠ .ok plan) ∧
    Requested measuring sampleRegistry (samplePolicy 2)
        (sampleRequest sampleSha "memory" longName) ∧
      ∀ plan, planExperiment measuring sampleRegistry (samplePolicy 2)
        (sampleRequest sampleSha "memory" longName) ≠ .ok plan := by
  refine ⟨⟨sample_requested (Or.inl rfl) rfl (by decide), ?_⟩,
    ⟨sample_requested (Or.inr rfl) rfl (by decide), ?_⟩,
    ⟨sample_requested (Or.inl rfl) rfl (by decide), ?_⟩,
    sample_requested (Or.inl rfl) longName_nonempty (by decide), ?_⟩
  · decide +kernel
  · decide +kernel
  · intro plan planned
    exact absurd (planned_ok planned).1 (by decide)
  · intro plan planned
    obtain ⟨_, draft, digest, source, digested⟩ := planned_ok planned
    have member : sampleCell "memory" longName 0 ∈ draft.request.cells := by
      rw [source]
      exact List.mem_cons_self
    obtain ⟨error, refused⟩ := @evidenceDigest_refuses measuring _ _ (artifact_in_body member)
      longName_long
    rw [digested] at refused
    cases refused

end PlanExperiment
