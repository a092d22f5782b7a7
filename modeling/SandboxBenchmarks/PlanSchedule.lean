import Mathlib.Algebra.Order.BigOperators.Group.List
import Mathlib.Tactic.Linarith
import SandboxBenchmarks.PlanVerification

/-!
# What an accepted plan guarantees

Each loop of `verifyExperimentPlan` keeps one invariant over the batches or
rounds it has passed. Together they say that the plan runs each eligible cell
exactly once, in wave order, within the account's capacity.
-/

namespace PlanSchedule

open CanonicalJson Checks JsonText PlanVerification

/-! ### Equal target digests mean equal targets -/

lemma mem_optional {key k : String} {v : Value} {value : Option Value} :
    (k, v) ∈ optionalField key value ↔ value = some v ∧ k = key := by
  cases value with
  | none => simp [optionalField]
  | some w =>
    simp only [optionalField, Option.map_some, Option.toList_some, List.mem_singleton,
      Prod.mk.injEq, Option.some.injEq]
    constructor
    · rintro ⟨rfl, rfl⟩
      exact ⟨rfl, rfl⟩
    · rintro ⟨rfl, rfl⟩
      exact ⟨rfl, rfl⟩

/-- The fields of a target, every one of them a number. -/
def targetFields (t : TargetSpec) : List (String × Value) :=
  [("vcpus", .num t.vcpus), ("memoryGb", .num t.memoryGb)] ++
    optionalField "diskGb" (t.diskGb.map .num)

lemma sortKeys_targetFields (le : String → String → Bool) (t : TargetSpec) :
    (targetFields t).map (fun f => (f.1, sortKeys le f.2)) = targetFields t := by
  obtain ⟨vcpus, memoryGb, diskGb⟩ := t
  cases diskGb with
  | none => simp [targetFields, optionalField, sortKeys]
  | some d => simp [targetFields, optionalField, sortKeys]

lemma mem_targetFields {t : TargetSpec} {key : String} {q : ℚ} :
    (key, Value.num q) ∈ targetFields t ↔
      (key = "vcpus" ∧ q = t.vcpus) ∨ (key = "memoryGb" ∧ q = t.memoryGb) ∨
        (key = "diskGb" ∧ t.diskGb = some q) := by
  simp only [targetFields, List.mem_append, List.mem_cons, List.not_mem_nil, or_false,
    Prod.mk.injEq, Value.num.injEq, mem_optional, Option.map_eq_some_iff, exists_eq_right,
    or_assoc]
  rw [and_comm (a := t.diskGb = some q)]

lemma target_eq_of_fields {t u : TargetSpec}
    (h : ∀ key q, (key, Value.num q) ∈ targetFields t ↔ (key, Value.num q) ∈ targetFields u) :
    t = u := by
  simp only [mem_targetFields] at h
  have vcpus := h "vcpus" t.vcpus
  have memoryGb := h "memoryGb" t.memoryGb
  have diskGb : ∀ q, t.diskGb = some q ↔ u.diskGb = some q := by
    intro q
    simpa using h "diskGb" q
  have sameDisk : t.diskGb = u.diskGb := Option.ext diskGb
  obtain ⟨tv, tm, td⟩ := t
  obtain ⟨uv, um, ud⟩ := u
  simp at vcpus memoryGb sameDisk
  rw [vcpus, memoryGb, sameDisk]

lemma target_eq_of_sortKeys {le : String → String → Bool} {t u : TargetSpec}
    (same : sortKeys le t.toJson = sortKeys le u.toJson) : t = u := by
  have fields : (targetFields t).Perm (targetFields u) := by
    rw [← sortKeys_targetFields le t, ← sortKeys_targetFields le u]
    exact perm_of_sortKeys_obj _ same
  exact target_eq_of_fields (fun key q => fields.mem_iff)

theorem target_eq_of_digest {runtime : Runtime} (hash : Function.Injective runtime.sha256)
    {t u : TargetSpec} {digest : String} (ht : evidenceDigest runtime t.toJson = .ok digest)
    (hu : evidenceDigest runtime u.toJson = .ok digest) : t = u :=
  target_eq_of_sortKeys (evidenceDigest_injective hash ht hu)

variable {runtime : Runtime} {registry : Registry} {plan : ExperimentPlan}

theorem targets_equal (hash : Function.Injective runtime.sha256)
    {domains : List (String × String)} (h : checkTargets runtime registry plan = .ok domains) :
    ∀ c ∈ plan.cells, ∀ d ∈ plan.cells, c.target = d.target := by
  unfold checkTargets at h
  split at h
  · rename_i empty
    simp [empty]
  · rename_i first rest _
    have all : ∀ c ∈ plan.cells, c.target = first.target := by
      refine foldlM_invariant (fun passed _ => ∀ c ∈ passed, c.target = first.target)
        (by simp) ?_ h
      intro pre c post seen seen' _ inv step
      simp only [checkTarget, bind_eq_ok, throwIf_eq_ok, not_not] at step
      obtain ⟨digest, hc, expected, hfirst, _, same, _⟩ := step
      subst same
      simp only [List.mem_append, List.mem_singleton]
      rintro d (hd | rfl)
      · exact inv d hd
      · exact target_eq_of_digest hash hc hfirst
    intro c hc d hd
    rw [all c hc, all d hd]

/-! ### Assigning cells to batches -/

/-- The planned, eligible cell a batch member names. -/
def Assignable (cells : List (String × ExperimentCell)) (batch : ExperimentBatch) (id : String) :
    Prop :=
  ∃ cell, Keyed.get? cells id = some cell ∧ cell.eligible = true ∧
    cell.quotaDomain = batch.quotaDomain

lemma add_fresh {s : List String} {x : String} (h : x ∉ s) : Keyed.add s x = s ++ [x] := by
  rw [Keyed.add, if_neg h]

lemma assignCell_ok {cells : List (String × ExperimentCell)} {batch : ExperimentBatch}
    {assigned assigned' : List String} {id : String}
    (h : assignCell cells batch assigned id = .ok assigned') :
    Assignable cells batch id ∧ id ∉ assigned ∧ assigned' = assigned ++ [id] := by
  simp only [assignCell, bind_eq_ok, require_eq_ok, throwIf_eq_ok, pure_eq_ok, not_or] at h
  obtain ⟨cell, found, _, ⟨eligible, fresh, domain⟩, rfl⟩ := h
  refine ⟨⟨cell, found, ?_, not_not.mp domain⟩, fresh, add_fresh fresh⟩
  simpa using eligible

/-- Ids are appended one by one, each of them new. -/
lemma assignCells_ok {cells : List (String × ExperimentCell)} {batch : ExperimentBatch}
    {ids assigned assigned' : List String} (nodup : assigned.Nodup)
    (h : ids.foldlM (assignCell cells batch) assigned = .ok assigned') :
    assigned' = assigned ++ ids ∧ assigned'.Nodup ∧ ∀ id ∈ ids, Assignable cells batch id := by
  refine foldlM_invariant (fun passed s => s = assigned ++ passed ∧ s.Nodup ∧
    ∀ id ∈ passed, Assignable cells batch id) ⟨by simp, nodup, by simp⟩ ?_ h
  rintro pre id post s s' _ ⟨rfl, distinct, assignable⟩ step
  obtain ⟨ok, fresh, rfl⟩ := assignCell_ok step
  refine ⟨by simp, ?_, ?_⟩
  · rw [← add_fresh fresh]
    exact Keyed.nodup_add distinct id
  · simp only [List.mem_append, List.mem_singleton]
    rintro i (hi | rfl)
    · exact assignable i hi
    · exact ok

lemma soleWave_ok {waves : List BenchmarkWave} {declared : Option BenchmarkWave}
    {mixes disagrees : String} {wave : BenchmarkWave}
    (h : soleWave waves declared mixes disagrees = .ok wave) : ∀ w ∈ waves, w = wave := by
  simp only [soleWave, bind_eq_ok, throwIf_eq_ok, require_eq_ok, pure_eq_ok, not_not] at h
  obtain ⟨_, one, inferred, head, _, agrees, rfl⟩ := h
  have effective : declared.getD inferred = inferred := by
    cases declared with
    | none => rfl
    | some w =>
      simp at agrees
      simp [agrees]
  obtain ⟨only, single⟩ := List.length_eq_one_iff.mp one
  intro w hw
  have member := Keyed.mem_setOf.mpr hw
  rw [single, List.mem_singleton] at member
  rw [single, List.head?_cons, Option.some.injEq] at head
  rw [effective, member, head]

lemma mapM_ok {α β : Type} {f : α → Except String β} {l : List α} {out : List β}
    (h : l.mapM f = .ok out) : ∀ x ∈ l, ∃ y ∈ out, f x = .ok y := by
  induction l generalizing out with
  | nil => simp
  | cons x l ih =>
    simp only [List.mapM_cons, bind_eq_ok, pure_eq_ok] at h
    obtain ⟨y, hy, ys, hys, rfl⟩ := h
    rintro z hz
    rcases List.mem_cons.mp hz with rfl | hz
    · exact ⟨y, List.mem_cons_self, hy⟩
    · obtain ⟨w, hw, hf⟩ := ih hys z hz
      exact ⟨w, List.mem_cons_of_mem _ hw, hf⟩

/-- What one accepted batch satisfies. -/
structure BatchSound (accounts : List (String × ExperimentAccount))
    (cells : List (String × ExperimentCell)) (batch : ExperimentBatch) (wave : BenchmarkWave) :
    Prop where
  members : ∀ id ∈ batch.cells, Assignable cells batch id
  sameWave : ∀ id ∈ batch.cells, ∀ cell, Keyed.get? cells id = some cell →
    benchmarkWave cell.suite = .ok wave
  capacity : ∃ account, Keyed.get? accounts batch.quotaDomain = some account ∧
    batch.maxConcurrency ≤ account.sandboxes ∧
    overBudget account batch (batch.cells.filterMap (Keyed.get? cells)) = false

/-- What the loop over batches keeps. -/
structure BatchInvariant (accounts : List (String × ExperimentAccount))
    (cells : List (String × ExperimentCell)) (passed : List ExperimentBatch) (scan : BatchScan) :
    Prop where
  ids : scan.batchIds = passed.map (·.id)
  idsDistinct : scan.batchIds.Nodup
  assigned : scan.assigned = passed.flatMap (·.cells)
  assignedOnce : scan.assigned.Nodup
  sound : ∀ batch ∈ passed, ∃ wave, Keyed.get? scan.batchWaves batch.id = some wave ∧
    BatchSound accounts cells batch wave

lemma checkBatch_keeps {accounts : List (String × ExperimentAccount)}
    {cells : List (String × ExperimentCell)} {passed : List ExperimentBatch}
    {scan scan' : BatchScan} {batch : ExperimentBatch}
    (inv : BatchInvariant accounts cells passed scan)
    (h : checkBatch accounts cells scan batch = .ok scan') :
    BatchInvariant accounts cells (passed ++ [batch]) scan' := by
  simp only [checkBatch, bind_eq_ok, require_eq_ok, throwIf_eq_ok, pure_eq_ok, not_or] at h
  obtain ⟨account, hAccount, _, ⟨concurrency, _, _⟩, _, fresh, assigned, hAssigned, waves, hWaves,
    wave, hWave, ranks, _, _, budget, rfl⟩ := h
  obtain ⟨assignedEq, assignedOnce, members⟩ := assignCells_ok inv.assignedOnce hAssigned
  have sameWave : ∀ id ∈ batch.cells, ∀ cell, Keyed.get? cells id = some cell →
      benchmarkWave cell.suite = .ok wave := by
    intro id hid cell found
    have member : cell ∈ batch.cells.filterMap (Keyed.get? cells) :=
      List.mem_filterMap.mpr ⟨id, hid, found⟩
    obtain ⟨w, hw, measured⟩ := mapM_ok hWaves cell member
    rw [measured, soleWave_ok hWave w hw]
  have added : Keyed.add scan.batchIds batch.id = scan.batchIds ++ [batch.id] := add_fresh fresh
  refine ⟨?_, Keyed.nodup_add inv.idsDistinct _, ?_, assignedOnce, ?_⟩
  · rw [added, inv.ids, List.map_append]
    rfl
  · simp [assignedEq, inv.assigned]
  · simp only [List.mem_append, List.mem_singleton]
    rintro b (hb | rfl)
    · obtain ⟨w, hw, sound⟩ := inv.sound b hb
      have other : batch.id ≠ b.id := by
        intro same
        rw [inv.ids] at fresh
        exact fresh (same ▸ List.mem_map_of_mem hb)
      exact ⟨w, by simp [other, hw], sound⟩
    · refine ⟨wave, by simp, members, sameWave, account, hAccount, by omega, ?_⟩
      simpa using budget

theorem checkBatches_ok {accounts : List (String × ExperimentAccount)}
    {cells : List (String × ExperimentCell)} {scan : BatchScan}
    (h : plan.batches.foldlM (checkBatch accounts cells) ⟨[], [], [], []⟩ = .ok scan) :
    BatchInvariant accounts cells plan.batches scan := by
  refine foldlM_invariant (BatchInvariant accounts cells) ⟨rfl, by simp, rfl, by simp, by simp⟩ ?_ h
  intro pre batch post s s' _ inv step
  exact checkBatch_keeps inv step

/-! ### Scheduling batches in rounds -/

/-- A batch id of a round: planned, of the round's quota domain, of one wave. -/
def Scheduled (plan : ExperimentPlan) (batchWaves : List (String × BenchmarkWave))
    (quotaDomain : String) (wave : BenchmarkWave) (id : String) : Prop :=
  (∃ batch, plan.batches.find? (fun entry => entry.id = id) = some batch ∧
    batch.quotaDomain = quotaDomain) ∧ Keyed.get? batchWaves id = some wave

lemma scheduleBatches_ok {batchWaves : List (String × BenchmarkWave)} {round : ExperimentRound}
    {ids scheduled : List String} {seen : List BenchmarkWave × List String}
    (nodup : scheduled.Nodup)
    (h : ids.foldlM (scheduleBatch plan batchWaves round) ([], scheduled) = .ok seen) :
    seen.2 = scheduled ++ ids ∧ seen.2.Nodup ∧
      ∀ id ∈ ids, ∃ wave ∈ seen.1, Scheduled plan batchWaves round.quotaDomain wave id := by
  refine foldlM_invariant (fun passed s => s.2 = scheduled ++ passed ∧ s.2.Nodup ∧
    ∀ id ∈ passed, ∃ wave ∈ s.1, Scheduled plan batchWaves round.quotaDomain wave id)
    ⟨by simp, nodup, by simp⟩ ?_ h
  rintro pre id post ⟨waves, s⟩ s' _ ⟨split, distinct, ok⟩ step
  simp only [scheduleBatch, bind_eq_ok, require_eq_ok, throwIf_eq_ok, pure_eq_ok, not_or,
    not_not] at step
  obtain ⟨batch, found, _, ⟨domain, fresh⟩, wave, hWave, rfl⟩ := step
  simp only at split distinct fresh
  refine ⟨?_, Keyed.nodup_add distinct id, ?_⟩
  · rw [add_fresh fresh, split, List.append_assoc]
  · simp only [List.mem_append, List.mem_singleton]
    rintro i (hi | rfl)
    · obtain ⟨w, hw, sched⟩ := ok i hi
      exact ⟨w, Or.inl hw, sched⟩
    · exact ⟨wave, Or.inr rfl, ⟨batch, found, domain⟩, hWave⟩

lemma advanceWave_ok {ranks ranks' : List (String × Nat)} {quotaDomain error : String}
    {wave : BenchmarkWave} (h : advanceWave ranks quotaDomain wave error = .ok ranks') :
    (∀ previous, Keyed.get? ranks quotaDomain = some previous →
      previous ≤ requiredWaveRank wave) ∧
      ranks' = Keyed.set ranks quotaDomain (requiredWaveRank wave) := by
  simp only [advanceWave, bind_eq_ok, throwIf_eq_ok, pure_eq_ok] at h
  obtain ⟨_, rises, rfl⟩ := h
  refine ⟨?_, rfl⟩
  intro previous found
  simpa [found] using rises

/-- A round with the wave found for it. -/
structure TaggedRound where
  round : ExperimentRound
  wave : BenchmarkWave

/-- Later rounds of one domain never have an earlier wave. -/
def InWaveOrder (a b : TaggedRound) : Prop :=
  a.round.quotaDomain = b.round.quotaDomain → requiredWaveRank a.wave ≤ requiredWaveRank b.wave

/-- What the loop over rounds keeps. -/
structure RoundInvariant (plan : ExperimentPlan) (batchWaves : List (String × BenchmarkWave))
    (passed : List ExperimentRound) (scan : RoundScan) : Prop where
  scheduled : scan.scheduled = passed.flatMap (·.batches)
  scheduledOnce : scan.scheduled.Nodup
  tagged : ∃ rounds : List TaggedRound, rounds.map (·.round) = passed ∧
    rounds.Pairwise InWaveOrder ∧
    (∀ r ∈ rounds, ∀ id ∈ r.round.batches,
      Scheduled plan batchWaves r.round.quotaDomain r.wave id) ∧
    ∀ r ∈ rounds, ∃ last, Keyed.get? scan.lastWaveRank r.round.quotaDomain = some last ∧
      requiredWaveRank r.wave ≤ last

lemma checkRound_keeps {batchWaves : List (String × BenchmarkWave)}
    {passed : List ExperimentRound} {scan scan' : RoundScan} {round : ExperimentRound}
    (inv : RoundInvariant plan batchWaves passed scan)
    (h : checkRound plan batchWaves scan round = .ok scan') :
    RoundInvariant plan batchWaves (passed ++ [round]) scan' := by
  simp only [checkRound, bind_eq_ok, throwIf_eq_ok, pure_eq_ok] at h
  obtain ⟨_, _, ⟨waves, scheduled⟩, hScheduled, wave, hWave, ranks, hRanks, rfl⟩ := h
  obtain ⟨scheduledEq, scheduledOnce, members⟩ := scheduleBatches_ok inv.scheduledOnce hScheduled
  obtain ⟨rises, rfl⟩ := advanceWave_ok hRanks
  obtain ⟨rounds, tags, ordered, sound, lasts⟩ := inv.tagged
  simp only at scheduledEq scheduledOnce members
  refine ⟨by simp [scheduledEq, inv.scheduled], scheduledOnce, rounds ++ [⟨round, wave⟩],
    by simp [tags], ?_, ?_, ?_⟩
  · rw [List.pairwise_append]
    refine ⟨ordered, by simp, ?_⟩
    intro r hr s hs same
    rw [List.mem_singleton] at hs
    subst hs
    obtain ⟨last, found, below⟩ := lasts r hr
    exact below.trans (rises last (same ▸ found))
  · simp only [List.mem_append, List.mem_singleton]
    rintro r (hr | rfl) id hid
    · exact sound r hr id hid
    · obtain ⟨w, hw, sched⟩ := members id hid
      rw [soleWave_ok hWave w hw] at sched
      exact sched
  · simp only [List.mem_append, List.mem_singleton]
    rintro r (hr | rfl)
    · obtain ⟨last, found, below⟩ := lasts r hr
      by_cases same : round.quotaDomain = r.round.quotaDomain
      · exact ⟨requiredWaveRank wave, by simp [same], below.trans (rises last (same ▸ found))⟩
      · exact ⟨last, by simp [same, found], below⟩
    · exact ⟨requiredWaveRank wave, by simp, Nat.le_refl _⟩

theorem checkRounds_ok {batchWaves : List (String × BenchmarkWave)} {scan : RoundScan}
    (h : plan.rounds.foldlM (checkRound plan batchWaves) ⟨[], [], []⟩ = .ok scan) :
    RoundInvariant plan batchWaves plan.rounds scan := by
  refine foldlM_invariant (RoundInvariant plan batchWaves)
    ⟨rfl, by simp, [], rfl, by simp, by simp, by simp⟩ ?_ h
  intro pre round post s s' _ inv step
  exact checkRound_keeps inv step

/-! ### The plan as a whole -/

/-- `wave` is the wave of every cell of `batch`. -/
def BatchHasWave (plan : ExperimentPlan) (batch : ExperimentBatch) (wave : BenchmarkWave) : Prop :=
  ∀ cell ∈ plan.cells, cell.id ∈ batch.cells → benchmarkWave cell.suite = .ok wave

/-- Cells of one batch that may run at the same time. -/
structure InFlight (plan : ExperimentPlan) (batch : ExperimentBatch)
    (cells : List ExperimentCell) : Prop where
  distinct : cells.Nodup
  members : ∀ cell ∈ cells, cell ∈ plan.cells ∧ cell.id ∈ batch.cells
  admitted : cells.length ≤ batch.maxConcurrency

/-- The account's sandbox, vCPU and memory limits hold for these cells together. -/
structure Fits (account : ExperimentAccount) (cells : List ExperimentCell) : Prop where
  sandboxes : cells.length ≤ account.sandboxes
  vcpus : ∀ limit, account.vcpus = some limit → (cells.map (·.target.vcpus)).sum ≤ limit
  memoryGb : ∀ limit, account.memoryGb = some limit → (cells.map (·.target.memoryGb)).sum ≤ limit

structure ScheduleSound (plan : ExperimentPlan) : Prop where
  cellIds : (plan.cells.map (·.id)).Nodup
  batchIds : (plan.batches.map (·.id)).Nodup
  accountDomains : (plan.accounts.map (·.quotaDomain)).Nodup
  eligible_once : ∀ cell ∈ plan.cells, cell.eligible = true →
    (plan.batches.flatMap (·.cells)).count cell.id = 1
  excluded_never : ∀ cell ∈ plan.cells, cell.eligible = false →
    cell.id ∉ plan.batches.flatMap (·.cells)
  batch_once : ∀ batch ∈ plan.batches, (plan.rounds.flatMap (·.batches)).count batch.id = 1
  members : ∀ batch ∈ plan.batches, ∀ id ∈ batch.cells,
    ∃ cell ∈ plan.cells, cell.id = id ∧ cell.quotaDomain = batch.quotaDomain
  one_wave : ∀ batch ∈ plan.batches, ∃ wave, BatchHasWave plan batch wave
  wave_order : (plan.rounds.flatMap (·.batches)).Pairwise (fun i j =>
    ∀ batch ∈ plan.batches, ∀ later ∈ plan.batches, batch.id = i → later.id = j →
      batch.quotaDomain = later.quotaDomain → ∀ wave wave', BatchHasWave plan batch wave →
      BatchHasWave plan later wave' → requiredWaveRank wave ≤ requiredWaveRank wave')
  capacity : ∀ batch ∈ plan.batches, ∃ account ∈ plan.accounts,
    account.quotaDomain = batch.quotaDomain ∧ ∀ cells, InFlight plan batch cells →
      Fits account cells

/-- The map of a list under distinct keys looks up exactly the list's entries. -/
lemma get?_mapOf_iff {α : Type} {l : List α} {key : α → String}
    (size : (Keyed.mapOf (l.map (fun x => (key x, x)))).length = l.length) {k : String} {x : α} :
    Keyed.get? (Keyed.mapOf (l.map (fun x => (key x, x)))) k = some x ↔ x ∈ l ∧ key x = k := by
  have nodup : ((l.map (fun x => (key x, x))).map Prod.fst).Nodup := by
    apply Keyed.length_mapOf_eq_iff.mp
    simpa using size
  rw [Keyed.mapOf_of_nodup nodup]
  constructor
  · intro h
    obtain ⟨y, hy, same⟩ := List.mem_map.mp (Keyed.mem_of_get? h)
    simp only [Prod.mk.injEq] at same
    obtain ⟨rfl, rfl⟩ := same
    exact ⟨hy, rfl⟩
  · rintro ⟨hx, rfl⟩
    exact Keyed.get?_of_mem nodup (List.mem_map.mpr ⟨x, hx, rfl⟩)

lemma keys_nodup {α : Type} {l : List α} {key : α → String}
    (size : (Keyed.mapOf (l.map (fun x => (key x, x)))).length = l.length) :
    (l.map key).Nodup := by
  have h := Keyed.length_mapOf_eq_iff.mp (size.trans (List.length_map _).symm)
  rwa [List.map_map] at h

/-- Distinct members of a duplicate-free list, as many as it has, are all of it. -/
lemma count_of_covering {inner : List String} (outer : List String) (nodup : inner.Nodup)
    (sub : ∀ x ∈ inner, x ∈ outer) (size : inner.length = outer.length) {x : String}
    (hx : x ∈ outer) : inner.count x = 1 := by
  have perm := (List.subperm_of_subset nodup sub).perm_of_length_le (Nat.le_of_eq size.symm)
  exact List.count_eq_one_of_mem nodup (perm.mem_iff.mpr hx)

/-- What a run of the verifier established, stage by stage. -/
structure Verified (runtime : Runtime) (registry : Registry) (plan : ExperimentPlan) : Prop where
  schema : experimentPlanSchema plan = true
  targets : ∃ domains, checkTargets runtime registry plan = .ok domains
  cells : (Keyed.mapOf (plan.cells.map (fun cell => (cell.id, cell)))).length = plan.cells.length
  accounts : (Keyed.mapOf (plan.accounts.map (fun account => (account.quotaDomain, account)))).length
    = plan.accounts.length
  batches : ∃ scan, BatchInvariant
      (Keyed.mapOf (plan.accounts.map (fun account => (account.quotaDomain, account))))
      (Keyed.mapOf (plan.cells.map (fun cell => (cell.id, cell)))) plan.batches scan ∧
    scan.assigned.length = (plan.cells.filter (·.eligible)).length ∧
    ∃ rounds, RoundInvariant plan scan.batchWaves plan.rounds rounds ∧
      rounds.scheduled.length = plan.batches.length

theorem verified_of_ok {plan' : ExperimentPlan}
    (h : verifyExperimentPlan runtime registry plan = .ok plan') :
    plan' = plan ∧ Verified runtime registry plan := by
  simp only [verifyExperimentPlan, bind_eq_ok, throwIf_eq_ok, pure_eq_ok, not_not] at h
  obtain ⟨_, schema, _, _, _, _, _, _, domains, targets, _, cells, _, _, _, _, _, accounts, scan,
    batches, _, assigned, rounds, scheduled, _, all, _, _, same⟩ := h
  refine ⟨same.symm, ⟨by simpa using schema, ⟨domains, targets⟩, cells, accounts, scan,
    checkBatches_ok batches, assigned, rounds, checkRounds_ok scheduled, all⟩⟩

namespace Verified

variable (v : Verified runtime registry plan)
include v

lemma batch_size {batch : ExperimentBatch} (hb : batch ∈ plan.batches) : batch.cells ≠ [] := by
  have schema := v.schema
  simp only [experimentPlanSchema, Bool.and_eq_true, List.all_eq_true] at schema
  have ok := schema.1.1.2 batch hb
  simp only [experimentBatchSchema, Bool.and_eq_true, decide_eq_true_eq] at ok
  have one := ok.1.1.2
  intro none
  simp [none] at one

lemma target_pos {cell : ExperimentCell} (hc : cell ∈ plan.cells) :
    0 < cell.target.vcpus ∧ 0 < cell.target.memoryGb := by
  have schema := v.schema
  simp only [experimentPlanSchema, Bool.and_eq_true, List.all_eq_true] at schema
  have ok := schema.1.1.1.1.2 cell hc
  simp only [experimentCellSchema, targetSpecSchema, Bool.and_eq_true, decide_eq_true_eq] at ok
  tauto

lemma get_cell {id : String} {cell : ExperimentCell} :
    Keyed.get? (Keyed.mapOf (plan.cells.map (fun cell => (cell.id, cell)))) id = some cell ↔
      cell ∈ plan.cells ∧ cell.id = id :=
  get?_mapOf_iff v.cells

lemma get_account {domain : String} {account : ExperimentAccount} :
    Keyed.get? (Keyed.mapOf (plan.accounts.map (fun a => (a.quotaDomain, a)))) domain =
      some account ↔ account ∈ plan.accounts ∧ account.quotaDomain = domain :=
  get?_mapOf_iff v.accounts

lemma members_planned {batch : ExperimentBatch} (hb : batch ∈ plan.batches) :
    ∀ id ∈ batch.cells, ∃ cell ∈ plan.cells, cell.id = id ∧ cell.eligible = true ∧
      cell.quotaDomain = batch.quotaDomain := by
  obtain ⟨scan, inv, _⟩ := v.batches
  obtain ⟨wave, _, sound⟩ := inv.sound batch hb
  intro id hid
  obtain ⟨cell, found, eligible, domain⟩ := sound.members id hid
  obtain ⟨hc, rfl⟩ := v.get_cell.mp found
  exact ⟨cell, hc, rfl, eligible, domain⟩

lemma assigned_once {cell : ExperimentCell} (hc : cell ∈ plan.cells)
    (eligible : cell.eligible = true) : (plan.batches.flatMap (·.cells)).count cell.id = 1 := by
  obtain ⟨scan, inv, size, _⟩ := v.batches
  have once := inv.assignedOnce
  rw [inv.assigned] at once size
  refine count_of_covering ((plan.cells.filter (·.eligible)).map (·.id)) once ?_ ?_ ?_
  · intro id hid
    obtain ⟨batch, hb, member⟩ := List.mem_flatMap.mp hid
    obtain ⟨c, hc, same, ok, _⟩ := v.members_planned hb id member
    exact List.mem_map.mpr ⟨c, List.mem_filter.mpr ⟨hc, ok⟩, same⟩
  · rw [List.length_map, size]
  · exact List.mem_map_of_mem (List.mem_filter.mpr ⟨hc, eligible⟩)

lemma excluded_unassigned {cell : ExperimentCell} (hc : cell ∈ plan.cells)
    (excluded : cell.eligible = false) : cell.id ∉ plan.batches.flatMap (·.cells) := by
  intro hid
  obtain ⟨batch, hb, member⟩ := List.mem_flatMap.mp hid
  obtain ⟨c, hc', same, ok, _⟩ := v.members_planned hb _ member
  have : c = cell := List.inj_on_of_nodup_map (keys_nodup v.cells) hc' hc same
  rw [this, excluded] at ok
  exact absurd ok (by simp)

lemma batch_ids : (plan.batches.map (·.id)).Nodup := by
  obtain ⟨scan, inv, _⟩ := v.batches
  exact inv.ids ▸ inv.idsDistinct

lemma scheduled_once {batch : ExperimentBatch} (hb : batch ∈ plan.batches) :
    (plan.rounds.flatMap (·.batches)).count batch.id = 1 := by
  obtain ⟨scan, _, _, rounds, inv, size⟩ := v.batches
  have once := inv.scheduledOnce
  rw [inv.scheduled] at once size
  obtain ⟨tagged, tags, _, sound, _⟩ := inv.tagged
  refine count_of_covering (plan.batches.map (·.id)) once ?_ ?_ ?_
  · intro id hid
    obtain ⟨round, hr, member⟩ := List.mem_flatMap.mp hid
    rw [← tags] at hr
    obtain ⟨r, inTags, rfl⟩ := List.mem_map.mp hr
    obtain ⟨⟨b, found, _⟩, _⟩ := sound r inTags id member
    have here := List.find?_some found
    exact List.mem_map.mpr ⟨b, List.mem_of_find?_eq_some found, by simpa using here⟩
  · rw [List.length_map, size]
  · exact List.mem_map_of_mem hb

/-- The wave recorded for a batch is the wave of its cells, and of no other wave's. -/
lemma recorded_wave {scan : BatchScan}
    (inv : BatchInvariant
      (Keyed.mapOf (plan.accounts.map (fun account => (account.quotaDomain, account))))
      (Keyed.mapOf (plan.cells.map (fun cell => (cell.id, cell)))) plan.batches scan)
    {batch : ExperimentBatch} (hb : batch ∈ plan.batches) :
    ∃ recorded, Keyed.get? scan.batchWaves batch.id = some recorded ∧
      BatchHasWave plan batch recorded ∧
      ∀ wave, BatchHasWave plan batch wave → wave = recorded := by
  obtain ⟨recorded, found, sound⟩ := inv.sound batch hb
  have here : BatchHasWave plan batch recorded := by
    intro cell hc member
    exact sound.sameWave _ member cell (v.get_cell.mpr ⟨hc, rfl⟩)
  refine ⟨recorded, found, here, ?_⟩
  intro wave other
  obtain ⟨id, rest, split⟩ := List.exists_cons_of_ne_nil (v.batch_size hb)
  have member : id ∈ batch.cells := by simp [split]
  obtain ⟨cell, hc, rfl, _⟩ := v.members_planned hb id member
  have same := (other cell hc member).symm.trans (here cell hc member)
  exact Except.ok.inj same

lemma rounds_in_order : (plan.rounds.flatMap (·.batches)).Pairwise (fun i j =>
    ∀ batch ∈ plan.batches, ∀ later ∈ plan.batches, batch.id = i → later.id = j →
      batch.quotaDomain = later.quotaDomain → ∀ wave wave', BatchHasWave plan batch wave →
      BatchHasWave plan later wave' → requiredWaveRank wave ≤ requiredWaveRank wave') := by
  obtain ⟨scan, inv, _, rounds, roundInv, _⟩ := v.batches
  obtain ⟨tagged, tags, ordered, sound, _⟩ := roundInv.tagged
  -- Each listed batch has the quota domain and the wave its round was tagged with.
  have tag : ∀ r ∈ tagged, ∀ batch ∈ plan.batches, batch.id ∈ r.round.batches →
      batch.quotaDomain = r.round.quotaDomain ∧
        ∀ wave, BatchHasWave plan batch wave → wave = r.wave := by
    intro r hr batch hb member
    obtain ⟨⟨b, found, domain⟩, recorded⟩ := sound r hr _ member
    have same : b = batch := by
      have here := List.find?_some found
      exact List.inj_on_of_nodup_map v.batch_ids (List.mem_of_find?_eq_some found) hb
        (by simpa using here)
    subst same
    obtain ⟨w, hw, _, only⟩ := v.recorded_wave inv hb
    rw [hw, Option.some.injEq] at recorded
    exact ⟨domain, fun wave h => (only wave h).trans recorded⟩
  rw [← tags, List.flatMap_map, List.pairwise_flatMap]
  constructor
  · intro r hr
    apply List.pairwise_of_forall_mem_list
    rintro i hi j hj batch hb later hl rfl rfl _ wave wave' hw hw'
    rw [(tag r hr batch hb hi).2 wave hw, (tag r hr later hl hj).2 wave' hw']
  · refine ordered.imp_of_mem ?_
    rintro r s hr hs inOrder i hi j hj batch hb later hl rfl rfl domains wave wave' hw hw'
    obtain ⟨domain, same⟩ := tag r hr batch hb hi
    obtain ⟨domain', same'⟩ := tag s hs later hl hj
    rw [same wave hw, same' wave' hw']
    exact inOrder (domain.symm.trans (domains.trans domain'))

lemma fits (hash : Function.Injective runtime.sha256) {batch : ExperimentBatch}
    (hb : batch ∈ plan.batches) : ∃ account ∈ plan.accounts,
      account.quotaDomain = batch.quotaDomain ∧
      ∀ cells, InFlight plan batch cells → Fits account cells := by
  obtain ⟨scan, inv, _⟩ := v.batches
  obtain ⟨_, _, sound⟩ := inv.sound batch hb
  obtain ⟨account, found, concurrency, budget⟩ := sound.capacity
  obtain ⟨hAccount, domain⟩ := v.get_account.mp found
  refine ⟨account, hAccount, domain, ?_⟩
  intro cells flight
  obtain ⟨domains, targets⟩ := v.targets
  have equal := targets_equal hash targets
  simp only [overBudget] at budget
  split at budget
  · exact absurd budget (by simp)
  · rename_i sample head
    obtain ⟨id, _, foundSample⟩ := List.mem_filterMap.mp (List.mem_of_head? head)
    obtain ⟨hSample, _⟩ := v.get_cell.mp foundSample
    obtain ⟨vcpusPos, memoryPos⟩ := v.target_pos hSample
    simp only [Bool.or_eq_false_iff, exceeds] at budget
    have admitted : (cells.length : ℚ) ≤ batch.maxConcurrency := by
      exact_mod_cast flight.admitted
    have vcpus : (cells.map (·.target.vcpus)).sum = cells.length * sample.target.vcpus := by
      rw [List.sum_eq_card_nsmul _ sample.target.vcpus, List.length_map, nsmul_eq_mul]
      intro x hx
      obtain ⟨c, hc, rfl⟩ := List.mem_map.mp hx
      rw [equal c (flight.members c hc).1 sample hSample]
    have memoryGb : (cells.map (·.target.memoryGb)).sum =
        cells.length * sample.target.memoryGb := by
      rw [List.sum_eq_card_nsmul _ sample.target.memoryGb, List.length_map, nsmul_eq_mul]
      intro x hx
      obtain ⟨c, hc, rfl⟩ := List.mem_map.mp hx
      rw [equal c (flight.members c hc).1 sample hSample]
    refine ⟨flight.admitted.trans concurrency, ?_, ?_⟩
    · intro limit hLimit
      have bound := budget.1.1.2
      simp only [hLimit, Option.any_some, decide_eq_false_iff_not, not_lt] at bound
      rw [vcpus]
      have := mul_le_mul_of_nonneg_right admitted vcpusPos.le
      linarith
    · intro limit hLimit
      have bound := budget.1.2
      simp only [hLimit, Option.any_some, decide_eq_false_iff_not, not_lt] at bound
      rw [memoryGb]
      have := mul_le_mul_of_nonneg_right admitted memoryPos.le
      linarith

end Verified

/-- An accepted plan runs each eligible cell once, in wave order, within capacity. -/
theorem verifyExperimentPlan_schedule {runtime : Runtime}
    (hash : Function.Injective runtime.sha256) (registry : Registry) {value plan : ExperimentPlan}
    (accepted : verifyExperimentPlan runtime registry value = .ok plan) : ScheduleSound plan := by
  obtain ⟨rfl, v⟩ := verified_of_ok accepted
  refine ⟨keys_nodup v.cells, v.batch_ids, keys_nodup v.accounts, ?_, ?_, ?_, ?_, ?_,
    v.rounds_in_order, ?_⟩
  · exact fun cell hc eligible => v.assigned_once hc eligible
  · exact fun cell hc excluded => v.excluded_unassigned hc excluded
  · exact fun batch hb => v.scheduled_once hb
  · intro batch hb id hid
    obtain ⟨cell, hc, same, _, domain⟩ := v.members_planned hb id hid
    exact ⟨cell, hc, same, domain⟩
  · intro batch hb
    obtain ⟨scan, inv, _⟩ := v.batches
    obtain ⟨wave, _, has, _⟩ := v.recorded_wave inv hb
    exact ⟨wave, has⟩
  · exact fun batch hb => v.fits hash hb

def samplePlan : ExperimentPlan where
  id := "7"
  sha := "aaaaaaaaaaaaaaaaaaaaaaaaaaaaaaaaaaaaaaaa"
  createdOn := "2026-01-31"
  digest := "sha256:0000000000000000000000000000000000000000000000000000000000000000"
  maxPremeasurementRetries := 1
  accounts := [⟨"e2b", 2, some 8, some 16, none⟩]
  cells := [
    ⟨"c0", "e2b", "e2b", "memory", 0, "w", "a", "v", ⟨4, 8, none⟩, none, ["m"], [], 2, 5, 40, 5⟩,
    ⟨"c1", "e2b", "e2b", "memory", 1, "w", "a", "v", ⟨4, 8, none⟩, none, ["m"], [], 2, 5, 40, 5⟩]
  batches := [⟨"b0", "e2b", none, ["c0", "c1"], 2, 70⟩]
  rounds := [⟨"r0", "e2b", none, ["b0"]⟩]

def sampleRegistry : Registry := ⟨fun id => some id⟩



/-- The cohort every cell of the sample belongs to. -/
def sampleCohort : Value :=
  .obj [("workloadRevision", .str "w"), ("metrics", strings ["m"]), ("exclusions", .arr []),
    ("environmentRevision", .str "v"), ("passes", natural 2)]

lemma samplePlan_targets {runtime : Runtime} {digest : String}
    (target : evidenceDigest runtime (TargetSpec.toJson ⟨4, 8, none⟩) = .ok digest) :
    checkTargets runtime sampleRegistry samplePlan = .ok [("e2b", "e2b")] := by
  simp [checkTargets, checkTarget, samplePlan, sampleRegistry, target, throwIf, require, Keyed.has,
    Keyed.get?, Keyed.set, pure, Except.pure]

lemma samplePlan_cohorts {runtime : Runtime} {digest : String}
    (cohort : evidenceDigest runtime sampleCohort = .ok digest) :
    samplePlan.cells.foldlM (checkCohort runtime samplePlan) [] = .ok [("memory", digest)] := by
  simp only [sampleCohort] at cohort
  simp [samplePlan, checkCohort, ExperimentCell.eligibility, sortedExclusions, CodeUnits.sorted,
    cohort, throwIf, Keyed.has, Keyed.get?, Keyed.set, Keyed.setOf, Keyed.add, pure, Except.pure]

lemma samplePlan_accepted {runtime : Runtime} {targetDigest cohortDigest : String}
    (body : evidenceDigest runtime samplePlan.body = .ok samplePlan.digest)
    (target : evidenceDigest runtime (TargetSpec.toJson ⟨4, 8, none⟩) = .ok targetDigest)
    (cohort : evidenceDigest runtime sampleCohort = .ok cohortDigest) :
    verifyExperimentPlan runtime sampleRegistry samplePlan = .ok samplePlan := by
  simp only [verifyExperimentPlan, bind_eq_ok, throwIf_eq_ok, pure_eq_ok, and_true]
  refine ⟨(), by decide +kernel, _, body, (), by simp, (), by decide +kernel, _,
    samplePlan_targets target, (), by decide +kernel, (), by decide +kernel, (), by decide +kernel,
    (), by decide +kernel, ⟨["b0"], ["c0", "c1"], [("b0", .syntheticMemory)], [("e2b", 0)]⟩,
    by decide +kernel, (), by decide +kernel, ⟨["b0"], ["r0"], [("e2b", 0)]⟩, by decide +kernel,
    (), by decide +kernel, _, samplePlan_cohorts cohort⟩

/-- Two replicates of one suite, both in flight at once. -/
theorem samplePlan_schedule : ScheduleSound samplePlan ∧ samplePlan.cells.length = 2 := by
  obtain ⟨_, body⟩ := canonicalJsonString_of_visit plainJson evidenceLimits samplePlan.body rfl
    (by decide +kernel)
  obtain ⟨_, target⟩ := canonicalJsonString_of_visit plainJson evidenceLimits
    (TargetSpec.toJson ⟨4, 8, none⟩) rfl (by decide +kernel)
  obtain ⟨_, cohort⟩ := canonicalJsonString_of_visit plainJson evidenceLimits sampleCohort rfl
    (by decide +kernel)
  obtain ⟨_, hTarget⟩ := digest_exists samplePlan.body target
  obtain ⟨_, hCohort⟩ := digest_exists samplePlan.body cohort
  refine ⟨verifyExperimentPlan_schedule (sealing_injective samplePlan.body) sampleRegistry
    (samplePlan_accepted ?_ hTarget hCohort), rfl⟩
  rw [sealing_digest body]
  decide +kernel

end PlanSchedule
