import SandboxBenchmarks.PlanRules
import SandboxBenchmarks.RepairExperiment

/-!
# Repairs are planned as they are verified

What a repairable experiment says of its cells is enough for the planner to
plan the missing ones and for the aggregation to accept that selection.
-/

namespace RepairExperiment

open Aggregate CanonicalJson Checks EvaluateExperiment ExperimentRecords JsonText PlanAcceptance
  PlanExperiment PlanSchedule PlanVerification PublishExperiment RunModel

variable {runtime : Runtime} {catalog : Catalog} {source : ExperimentPlan}
  {attempts : List AttemptWithRun} {coverage : CoverageReport}

/-! ### Coverage -/

/-- How an evaluation covers one cell. -/
structure Covers (cell : ExperimentCell) (covered : CoverageCell) : Prop where
  id : covered.id = cell.id
  eligible : covered.status ≠ .excluded → cell.eligible = true
  attempt : covered.attemptId.all evidenceIdentifier = true

lemma eligible_of_metrics {cell : ExperimentCell} (some : ExperimentCell.eligibleMetrics cell ≠ []) :
    cell.eligible = true := by
  obtain ⟨metric, member⟩ := List.exists_mem_of_ne_nil _ some
  obtain ⟨listed, kept⟩ := List.mem_filter.mp member
  exact List.any_eq_true.mpr ⟨metric, listed, kept⟩

lemma mem_lineageOf {cell : ExperimentCell} {attempt : AttemptWithRun}
    (member : attempt ∈ lineageOf runtime attempts cell) : attempt ∈ attempts := by
  have sorted := (List.perm_insertionSort _ _).mem_iff.mp member
  exact (List.mem_filter.mp sorted).1

lemma covers_of_evaluateCell {plan : ExperimentPlan} {cell : ExperimentCell} {outcome : CellOutcome}
    (named : ∀ attempt ∈ attempts, evidenceIdentifier attempt.evidence.id = true)
    (h : evaluateCell runtime catalog plan attempts cell = .ok outcome) :
    Covers cell outcome.cell := by
  simp only [evaluateCell] at h
  split at h
  · obtain rfl := Except.ok.inj h
    exact ⟨rfl, fun other => absurd rfl other, rfl⟩
  · rename_i some
    simp only [evaluateEligible, bind_eq_ok, pure_eq_ok] at h
    obtain ⟨_, _, _, _, _, _, rfl⟩ := h
    refine ⟨rfl, fun _ => eligible_of_metrics some, ?_⟩
    rw [Option.all_map, Option.all_eq_true]
    intro attempt last
    exact named attempt (mem_lineageOf (List.mem_of_getLast? last))

/-- What an evaluation that returns has established. -/
structure Evaluated (runtime : Runtime) (catalog : Catalog) (plan : ExperimentPlan)
    (coverage : CoverageReport) : Prop where
  verified : verifyExperimentPlan runtime catalog.toRegistry plan = .ok plan
  ids : coverage.cells.map (·.id) = plan.cells.map (·.id)
  covers : ∀ covered ∈ coverage.cells, ∃ cell ∈ plan.cells, Covers cell covered

theorem evaluated_of_ok (h : evaluateExperiment runtime catalog source attempts = .ok coverage) :
    Evaluated runtime catalog source coverage := by
  simp only [evaluateExperiment, bind_eq_ok, pure_eq_ok] at h
  obtain ⟨plan, verified, seen, checked, outcomes, evaluated, rfl⟩ := h
  obtain rfl := (verified_of_ok verified).1
  have named : ∀ attempt ∈ attempts, evidenceIdentifier attempt.evidence.id = true := by
    intro attempt member
    have sorted : attempt ∈ byLocale runtime (·.evidence.id) attempts :=
      (List.perm_insertionSort _ _).mem_iff.mpr member
    obtain ⟨before, after, step⟩ := foldlM_each checked sorted
    simp only [checkAttempt, bind_eq_ok, throwIf_eq_ok, Bool.not_eq_false] at step
    obtain ⟨_, schema, _⟩ := step
    simp only [experimentAttemptSchema, Bool.and_eq_true] at schema
    tauto
  refine ⟨verified, ?_, ?_⟩
  · have same := (mapM_eq_ok.mp evaluated).imp fun cell outcome made =>
      (covers_of_evaluateCell named made).id.symm
    rw [List.map_map, ← List.forall₂_eq_eq_eq, List.forall₂_map_left_iff, List.forall₂_map_right_iff]
    exact same.flip.imp fun _ _ equal => equal.symm
  · intro covered member
    obtain ⟨outcome, made, rfl⟩ := List.mem_map.mp member
    obtain ⟨cell, listed, returns⟩ := mem_mapM evaluated made
    exact ⟨cell, listed, covers_of_evaluateCell named returns⟩

lemma coverage_of_render {plan : ExperimentPlan} {partly : Bool} {repair : Option ExperimentRepair}
    {unstarted : List UnstartedBatch} {result : ExperimentAggregation}
    (h : renderExperiment runtime catalog plan attempts coverage partly repair unstarted =
      .ok result) : result.coverage = coverage := by
  simp only [renderExperiment, bind_eq_ok] at h
  obtain ⟨_, _, _, _, _, _, _, _, h⟩ := h
  split at h
  all_goals
    simp only [bind_eq_ok, pure_eq_ok] at h
    obtain ⟨_, _, _, _, rfl⟩ := h
    rfl

lemma coverage_of_aggregate {plan : ExperimentPlan} {allowPartial : Bool}
    {result : ExperimentAggregation}
    (h : aggregateExperiment runtime catalog plan attempts allowPartial = .ok result) :
    evaluateExperiment runtime catalog plan attempts = .ok result.coverage := by
  simp only [aggregateExperiment, bind_eq_ok] at h
  obtain ⟨coverage, evaluated, _, _, h⟩ := h
  split at h
  · obtain rfl := Except.ok.inj h
    exact evaluated
  · rw [coverage_of_render h]
    exact evaluated

theorem evaluated_of_repairable
    (h : repairableCoverage runtime catalog source attempts = .ok coverage) :
    Evaluated runtime catalog source coverage := by
  simp only [repairableCoverage, bind_eq_ok, pure_eq_ok] at h
  obtain ⟨result, aggregated, _, _, rfl⟩ := h
  exact evaluated_of_ok (coverage_of_aggregate aggregated)

/-! ### Targets -/

lemma filter_mem_sublist {some all : List String} (part : some.Sublist all) (distinct : all.Nodup) :
    all.filter (some.contains ·) = some := by
  have kept : some.filter (some.contains ·) = some := by
    rw [List.filter_eq_self]
    exact fun x member => List.contains_iff_mem.mpr member
  have below : some.Sublist (all.filter (some.contains ·)) := by
    have filtered := part.filter (some.contains ·)
    rwa [kept] at filtered
  have inside : all.filter (some.contains ·) ⊆ some := by
    intro x member
    exact List.contains_iff_mem.mp (List.mem_filter.mp member).2
  exact (below.eq_of_length_le
    (List.subperm_of_subset (distinct.filter _) inside).length_le).symm

/-- The planned cells that a repair asks for. -/
def targetCells (source : ExperimentPlan) (coverage : CoverageReport) : List ExperimentCell :=
  source.cells.filter fun cell => ((repairTargets coverage).map (·.id)).contains cell.id

lemma ids_nodup (h : Evaluated runtime catalog source coverage) :
    (source.cells.map (·.id)).Nodup :=
  (cellRules_of_ok h.verified).ids

lemma target_ids (h : Evaluated runtime catalog source coverage) :
    (targetCells source coverage).map (·.id) = (repairTargets coverage).map (·.id) := by
  have part : ((repairTargets coverage).map (·.id)).Sublist (source.cells.map (·.id)) :=
    h.ids ▸ List.filter_sublist.map _
  have both := filter_mem_sublist part (ids_nodup h)
  rw [List.filter_map] at both
  exact both

lemma covers_of_target (h : Evaluated runtime catalog source coverage) {target : CoverageCell}
    (member : target ∈ repairTargets coverage) :
    ∃ cell ∈ targetCells source coverage, Covers cell target ∧ cell.eligible = true := by
  obtain ⟨listed, unsettled⟩ := List.mem_filter.mp member
  obtain ⟨cell, planned, covers⟩ := h.covers target listed
  refine ⟨cell, List.mem_filter.mpr ⟨planned, ?_⟩, covers, covers.eligible ?_⟩
  · rw [List.contains_iff_mem, ← covers.id]
    exact List.mem_map_of_mem member
  · intro excluded
    simp [CoverageCell.settled, excluded] at unsettled

lemma targetCells_eligible (h : Evaluated runtime catalog source coverage) {cell : ExperimentCell}
    (member : cell ∈ targetCells source coverage) :
    cell ∈ source.cells ∧ cell.eligible = true := by
  obtain ⟨planned, named⟩ := List.mem_filter.mp member
  obtain ⟨target, listed, same⟩ := List.mem_map.mp (List.contains_iff_mem.mp named)
  obtain ⟨other, found, covers, eligible⟩ := covers_of_target h listed
  have here : other = cell := List.inj_on_of_nodup_map (ids_nodup h) (List.mem_filter.mp found).1
    planned (covers.id.symm.trans same)
  exact ⟨planned, here ▸ eligible⟩

/-! ### The policy -/

/-- The accounts of a plan as a policy that declares nothing but capacities. -/
def declaredPolicy (source : ExperimentPlan) : List (String × AccountCapacity) :=
  source.accounts.map fun account =>
    (account.quotaDomain, ⟨account.sandboxes, account.vcpus, account.memoryGb, account.gpus, []⟩)

/-- The first policy names each quota domain again inside its entry. -/
def Redeclares (policy declared : List (String × AccountCapacity)) : Prop :=
  ∀ domain, capacityOf policy domain = capacityOf declared domain ∨
    ∃ c, capacityOf declared domain = some c ∧ c.undeclared = [] ∧
      capacityOf policy domain = some { c with undeclared := [("quotaDomain", .str domain)] }

lemma accountJson_redeclared (domain : String) {c : AccountCapacity} (none : c.undeclared = []) :
    accountJson domain (some { c with undeclared := [("quotaDomain", .str domain)] }) =
      accountJson domain (some c) := by
  obtain ⟨sandboxes, vcpus, memoryGb, gpus, undeclared⟩ := c
  obtain rfl := none
  cases vcpus <;> cases memoryGb <;> cases gpus <;>
    simp [accountJson, optionalField, Keyed.mapOf, Keyed.set]

variable {registry : Registry} {request : PlanRequest}

lemma prepare_redeclared {policy declared : List (String × AccountCapacity)}
    (same : Redeclares policy declared) : prepare runtime policy = prepare runtime declared := by
  funext cell
  rcases same cell.quotaDomain with equal | ⟨c, found, _, again⟩
  · simp only [prepare, equal]
  · simp only [prepare, found, again, require]
    rfl

lemma written_redeclared {policy declared : List (String × AccountCapacity)}
    (same : Redeclares policy declared) (domain : String) :
    accountJson domain (capacityOf policy domain) =
      accountJson domain (capacityOf declared domain) := by
  rcases same domain with equal | ⟨c, found, none, again⟩
  · rw [equal]
  · rw [found, again, accountJson_redeclared domain none]

lemma draftPlan_redeclared {policy declared : List (String × AccountCapacity)}
    (same : Redeclares policy declared) {draft : PlanDraft}
    (drafted : draftPlan runtime declared request = .ok draft) :
    ∃ draft', draftPlan runtime policy request = .ok draft' ∧ draft'.body = draft.body := by
  simp only [draftPlan, bind_eq_ok, pure_eq_ok] at drafted ⊢
  obtain ⟨_, valid, ordered, orders, prepared, prepares, rfl⟩ := drafted
  rw [← prepare_redeclared same] at prepares
  refine ⟨_, ⟨_, valid, ordered, orders, prepared, prepares, rfl⟩, ?_⟩
  simp only [PlanDraft.body, List.map_map, Function.comp_def, written_redeclared same]

lemma planExperiment_redeclared {policy declared : List (String × AccountCapacity)}
    (same : Redeclares policy declared) :
    planExperiment runtime registry policy request =
      planExperiment runtime registry declared request := by
  have parsed : ∀ domain, parseAccount domain (capacityOf policy domain) =
      parseAccount domain (capacityOf declared domain) := by
    intro domain
    rcases same domain with equal | ⟨c, found, none, again⟩
    · rw [equal]
    · simp [parseAccount, found, again, none]
  simp only [planExperiment, draftPlan, prepare_redeclared same, bind_assoc, pure_bind,
    PlanDraft.body, PlanDraft.sealed, List.map_map, Function.comp_def, written_redeclared same,
    List.mapM_map, parsed]

/-- The policy of some accounts has the entries of those accounts and no others. -/
lemma capacityOf_entries {accounts : List ExperimentAccount}
    {capacity : ExperimentAccount → AccountCapacity}
    (distinct : (accounts.map (·.quotaDomain)).Nodup) :
    (∀ account ∈ accounts,
      capacityOf (accounts.map fun a => (a.quotaDomain, capacity a)) account.quotaDomain =
        some (capacity account)) ∧
    ∀ domain, (∀ account ∈ accounts, account.quotaDomain ≠ domain) →
      capacityOf (accounts.map fun a => (a.quotaDomain, capacity a)) domain =
        capacityOf [] domain := by
  have keys : (accounts.map fun a => (a.quotaDomain, capacity a)).map Prod.fst =
      accounts.map (·.quotaDomain) := by
    rw [List.map_map]
    rfl
  constructor
  · intro account listed
    have found := Keyed.get?_of_mem (keys ▸ distinct)
      (List.mem_map_of_mem (f := fun a => (a.quotaDomain, capacity a)) listed)
    simp only [capacityOf, found]
  · intro domain other
    have missing : Keyed.get? (accounts.map fun a => (a.quotaDomain, capacity a)) domain = none := by
      rw [Keyed.get?_eq_none_iff, keys]
      intro listed
      obtain ⟨account, member, same⟩ := List.mem_map.mp listed
      exact other account member same
    simp only [capacityOf, missing]
    rfl

lemma redeclares_accountPolicy (distinct : (source.accounts.map (·.quotaDomain)).Nodup) :
    Redeclares (accountPolicy source) (declaredPolicy source) := by
  intro domain
  have own : accountPolicy source = source.accounts.map fun account => (account.quotaDomain,
      ⟨account.sandboxes, account.vcpus, account.memoryGb, account.gpus,
        [("quotaDomain", .str account.quotaDomain)]⟩) := by
    apply Keyed.mapOf_of_nodup
    rw [List.map_map]
    exact distinct
  rw [own, declaredPolicy]
  by_cases listed : ∃ account ∈ source.accounts, account.quotaDomain = domain
  · obtain ⟨account, member, rfl⟩ := listed
    right
    exact ⟨_, (capacityOf_entries distinct).1 account member, rfl,
      (capacityOf_entries distinct).1 account member⟩
  · push Not at listed
    left
    rw [(capacityOf_entries distinct).2 domain listed, (capacityOf_entries distinct).2 domain listed]

/-! ### The request -/

/-- What the schemas and guards of the planner ask of a repair, beyond what the source is. -/
structure Given (source : ExperimentPlan) (coverage : CoverageReport) (identity : RepairIdentity) :
    Prop where
  run : evidenceIdentifier identity.run = true
  fresh : source.id ≠ identity.run
  operator : nonempty identity.operator = true
  reason : nonempty identity.reason = true
  date : validDate identity.createdOn = true
  live : ∀ cell ∈ targetCells source coverage, ∀ exclusion ∈ cell.exclusions,
    CodeUnits.le exclusion.expires identity.createdOn = false
  safe : ∀ cell ∈ targetCells source coverage, ∀ account ∈ source.accounts,
    account.quotaDomain = cell.quotaDomain → account.sandboxes ≤ maxSafeInteger
  gpus : ∀ cell ∈ targetCells source coverage, ∀ account ∈ source.accounts,
    account.quotaDomain = cell.quotaDomain → ∀ gpu, cell.gpu = some gpu →
      gpu.count ≤ account.gpus.getD 0

/-- The hash keeps the records that planning compares apart. -/
structure Apart (runtime : Runtime) (cells : List ExperimentCell) : Prop where
  targets : TargetsApart runtime cells
  allocations : CollisionFree runtime cells

variable {identity : RepairIdentity}

lemma accounts_nodup (h : Evaluated runtime catalog source coverage) :
    (source.accounts.map (·.quotaDomain)).Nodup :=
  keys_nodup (verified_of_ok h.verified).2.accounts

/-- A target and the capacity that the policy has for it. -/
lemma capacity_of_target (apart : TargetsApart runtime source.cells)
    (h : Evaluated runtime catalog source coverage) {cell : ExperimentCell}
    (member : cell ∈ targetCells source coverage) :
    ∃ account, Charged source cell account ∧ capacityOf (declaredPolicy source) cell.quotaDomain =
      some ⟨account.sandboxes, account.vcpus, account.memoryGb, account.gpus, []⟩ := by
  obtain ⟨planned, eligible⟩ := targetCells_eligible h member
  obtain ⟨account, charged⟩ := charged_of_ok apart h.verified planned eligible
  refine ⟨account, charged, ?_⟩
  rw [← charged.domain]
  exact (capacityOf_entries (accounts_nodup h)).1 account charged.listed

/-- The request, as the planner reads it under its own policy. -/
structure Requestable (runtime : Runtime) (registry : Registry) (source : ExperimentPlan)
    (coverage : CoverageReport) (identity : RepairIdentity) : Prop where
  requested : Requested runtime registry (declaredPolicy source)
    (repairRequest source (repairTargets coverage) identity)
  suites : ∀ cell ∈ targetCells source coverage, ∃ wave, benchmarkWave cell.suite = .ok wave
  safe : ∀ cell ∈ targetCells source coverage, ∀ capacity,
    capacityOf (declaredPolicy source) cell.quotaDomain = some capacity →
      capacity.sandboxes ≤ maxSafeInteger
  declared : ∀ cell ∈ targetCells source coverage, ∃ capacity,
    capacityOf (declaredPolicy source) cell.quotaDomain = some capacity ∧ capacity.undeclared = []

lemma capacities_declared (h : Evaluated runtime catalog source coverage) :
    accountCapacityPolicySchema (declaredPolicy source) = true := by
  have schema := (verified_of_ok h.verified).2.schema
  simp only [experimentPlanSchema, Bool.and_eq_true, List.all_eq_true] at schema
  rw [accountCapacityPolicySchema, List.all_eq_true]
  intro entry member
  obtain ⟨account, listed, rfl⟩ := List.mem_map.mp member
  have valid := schema.1.1.1.1.1.1.2 account listed
  simp only [experimentAccountSchema, Bool.and_eq_true] at valid
  simp only [accountCapacitySchema, Bool.and_eq_true]
  exact ⟨⟨valid.1.1.2, valid.1.2⟩, valid.2⟩

theorem requestable (apart : TargetsApart runtime source.cells)
    (h : Evaluated runtime catalog source coverage) (work : repairTargets coverage ≠ [])
    (given : Given source coverage identity) :
    Requestable runtime catalog.toRegistry source coverage identity := by
  obtain ⟨target, listed⟩ := List.exists_mem_of_ne_nil _ work
  obtain ⟨first, found, _, eligible⟩ := covers_of_target h listed
  have rules : CellRules runtime catalog.toRegistry identity.createdOn
      (targetCells source coverage) :=
    (cellRules_of_ok h.verified).restrict List.filter_sublist given.date given.live
      ⟨first, found, eligible⟩
  refine ⟨⟨rules, capacities_declared h, ?_⟩, ?_, ?_, ?_⟩
  · intro cell member _
    obtain ⟨account, charged, capacity⟩ := capacity_of_target apart h member
    have one := charged.schema
    simp only [experimentAccountSchema, Bool.and_eq_true, decide_eq_true_eq] at one
    exact ⟨_, capacity, one.1.1.2, charged.vcpus, charged.memoryGb,
      given.gpus cell member account charged.listed charged.domain, charged.minutes⟩
  · intro cell member
    obtain ⟨account, charged, _⟩ := capacity_of_target apart h member
    exact charged.wave
  · intro cell member capacity found
    obtain ⟨account, charged, known⟩ := capacity_of_target apart h member
    obtain rfl := Option.some.inj (known.symm.trans found)
    exact given.safe cell member account charged.listed charged.domain
  · intro cell member
    obtain ⟨account, _, known⟩ := capacity_of_target apart h member
    exact ⟨_, known, rfl⟩

/-! ### The plan -/

/-- Where no digest is refused an allocation record, every one has its identity. -/
lemma records_or_error (h : Requestable runtime registry source coverage identity)
    (eligible : ∀ cell ∈ targetCells source coverage, cell.eligible = true) :
    (∀ cell ∈ targetCells source coverage, ∃ digest, allocationIdentity runtime cell = .ok digest) ∨
      ∃ cell ∈ targetCells source coverage, ∃ error,
        allocationIdentity runtime cell = .error error ∧
        planExperiment runtime registry (declaredPolicy source)
          (repairRequest source (repairTargets coverage) identity) = .error error := by
  have all : (targetCells source coverage).filter (·.eligible) = targetCells source coverage :=
    List.filter_eq_self.mpr eligible
  obtain ⟨ordered, orders, perm, _⟩ := inWaveOrder_accepts h.suites
  have prepares : ∀ cell ∈ targetCells source coverage, ∃ cap wave,
      prepare runtime (declaredPolicy source) cell =
        (allocationIdentity runtime cell >>= fun digest =>
          .ok ⟨cell, cap, budgetOf cell, wave, digest⟩) := by
    intro cell member
    obtain ⟨wave, known⟩ := h.suites cell member
    obtain ⟨cap, equal⟩ := prepare_fitting (h.requested.cells.schema cell member)
      h.requested.capacities (h.requested.fits cell member (eligible cell member))
      (h.safe cell member) known
    exact ⟨cap, wave, equal⟩
  cases prepared : ordered.mapM (prepare runtime (declaredPolicy source)) with
  | ok entries =>
    left
    intro cell member
    obtain ⟨entry, _, made⟩ := mapM_mem prepared (perm.mem_iff.mpr member)
    obtain ⟨cap, wave, equal⟩ := prepares cell member
    rw [equal, bind_eq_ok] at made
    obtain ⟨digest, digested, _⟩ := made
    exact ⟨digest, digested⟩
  | error error =>
    right
    obtain ⟨cell, listed, failed⟩ := mapM_eq_error prepared
    have member := perm.mem_iff.mp listed
    obtain ⟨cap, wave, equal⟩ := prepares cell member
    refine ⟨cell, member, error, ?_, ?_⟩
    · rw [equal] at failed
      cases digested : allocationIdentity runtime cell with
      | ok digest =>
        rw [digested, ok_bind] at failed
        cases failed
      | error refused =>
        rw [digested, error_bind] at failed
        rw [Except.error.inj failed]
    · have schema : (targetCells source coverage).all experimentCellSchema = true :=
        List.all_eq_true.mpr h.requested.cells.schema
      have cells : (repairRequest source (repairTargets coverage) identity).cells =
        targetCells source coverage := rfl
      simp only [planExperiment, draftPlan, cells, schema, all, orders, prepared, throwIf, ok_bind,
        error_bind, Bool.true_eq_false, if_false]

/-- The documents that a repair takes digests of. -/
inductive RepairDocument (runtime : Runtime) (source : ExperimentPlan)
    (attempts : List AttemptWithRun) (coverage : CoverageReport) (identity : RepairIdentity) :
    Value → Prop
  | allocation {cell : ExperimentCell} : cell ∈ targetCells source coverage →
    RepairDocument runtime source attempts coverage identity (allocation cell)
  | plan {draft : PlanDraft} :
    draftPlan runtime (accountPolicy source)
      (repairRequest source (repairTargets coverage) identity) = .ok draft →
    RepairDocument runtime source attempts coverage identity draft.body
  | attempts : RepairDocument runtime source attempts coverage identity
    (.arr ((byLocale runtime (·.evidence.id) attempts).map attemptJson))
  | manifest (plan : ExperimentPlan) (digest : String) :
    RepairDocument runtime source attempts coverage identity
      (manifestOf source plan digest (repairTargets coverage) identity "").body

theorem planned_or_error (attempts : List AttemptWithRun)
    (known : Registered catalog.toRegistry)
    (hex : ∀ text, sha256Digest ("sha256:" ++ runtime.sha256 text) = true)
    (apart : Apart runtime source.cells) (h : Evaluated runtime catalog source coverage)
    (work : repairTargets coverage ≠ []) (given : Given source coverage identity) :
    (∃ plan, planExperiment runtime catalog.toRegistry (accountPolicy source)
      (repairRequest source (repairTargets coverage) identity) = .ok plan) ∨
    ∃ document error, RepairDocument runtime source attempts coverage identity document ∧
      evidenceDigest runtime document = .error error ∧
      planExperiment runtime catalog.toRegistry (accountPolicy source)
        (repairRequest source (repairTargets coverage) identity) = .error error := by
  have asked := requestable apart.targets h work given
  have redeclares := redeclares_accountPolicy (accounts_nodup h)
  rw [planExperiment_redeclared redeclares]
  rcases records_or_error asked (fun cell member => (targetCells_eligible h member).2) with
    records | ⟨cell, member, error, refused, failed⟩
  · have schema := (verified_of_ok h.verified).2.schema
    simp only [experimentPlanSchema, Bool.and_eq_true] at schema
    have plannable : Plannable runtime catalog.toRegistry (declaredPolicy source)
        (repairRequest source (repairTargets coverage) identity) :=
      { asked.requested with
        id := given.run
        sha := schema.1.1.1.1.1.1.1.1.1.1.2
        suites := fun cell member _ => asked.suites cell member
        records := fun cell member _ => records cell member
        safe := fun cell member _ => asked.safe cell member
        declared := asked.declared }
    have separate : CollisionFree runtime (targetCells source coverage) := fun c hc d hd =>
      apart.allocations c (targetCells_eligible h hc).1 d (targetCells_eligible h hd).1
    obtain ⟨draft, accounts, drafted, returns, refuses⟩ :=
      planExperiment_returns known hex separate plannable
    cases digested : evidenceDigest runtime draft.body with
    | ok digest => exact Or.inl ⟨_, returns digest digested⟩
    | error error =>
      right
      obtain ⟨draft', drafted', body⟩ := draftPlan_redeclared redeclares drafted
      exact ⟨draft.body, error, body ▸ .plan drafted', digested, refuses error digested⟩
  · exact Or.inr ⟨allocation cell, error, .allocation member, refused, failed⟩

/-- What is known of a plan that the planner has returned. -/
structure PlannedFor (runtime : Runtime) (registry : Registry) (request : PlanRequest)
    (plan : ExperimentPlan) : Prop where
  id : plan.id = request.id
  sha : plan.sha = request.sha
  cells : plan.cells = request.cells
  verified : verifyExperimentPlan runtime registry plan = .ok plan

lemma plannedFor_of_ok {policy : List (String × AccountCapacity)} {plan : ExperimentPlan}
    (planned : planExperiment runtime registry policy request = .ok plan) :
    PlannedFor runtime registry request plan := by
  simp only [planExperiment, bind_eq_ok, require_eq_ok] at planned
  obtain ⟨draft, drafted, digest, _, accounts, _, verified⟩ := planned
  obtain rfl := (verified_of_ok verified).1
  simp only [draftPlan, bind_eq_ok, pure_eq_ok] at drafted
  obtain ⟨_, _, _, _, _, _, rfl⟩ := drafted
  exact ⟨rfl, rfl, rfl, verified⟩

/-! ### The selection -/

lemma hex_of_digest (hex : ∀ text, sha256Digest ("sha256:" ++ runtime.sha256 text) = true)
    {document : Value} {digest : String} (digested : evidenceDigest runtime document = .ok digest) :
    sha256Digest digest = true := by
  simp only [evidenceDigest, bind_eq_ok, pure_eq_ok] at digested
  obtain ⟨json, _, rfl⟩ := digested
  exact hex json

lemma nonempty_of_identifier {id : String} (valid : evidenceIdentifier id = true) :
    nonempty id = true := by
  rw [nonempty, bne_iff_ne]
  rintro rfl
  cases valid

/-- No attempt is dropped from the manifest for an empty id. -/
lemma kept_attempt {cell : ExperimentCell} {target : CoverageCell} (covers : Covers cell target) :
    target.attemptId.filter nonempty = target.attemptId := by
  have valid := covers.attempt
  cases attempt : target.attemptId with
  | none => rfl
  | some id =>
    rw [attempt, Option.all_some] at valid
    rw [Option.filter_some, nonempty_of_identifier valid]
    rfl

/-- A plan's document holds the record of each cell, so each has a digest. -/
lemma cell_digest {plan : ExperimentPlan} {registry : Registry}
    (verified : verifyExperimentPlan runtime registry plan = .ok plan) {cell : ExperimentCell}
    (member : cell ∈ plan.cells) : ∃ digest, evidenceDigest runtime cell.toJson = .ok digest := by
  simp only [verifyExperimentPlan, bind_eq_ok] at verified
  obtain ⟨_, _, digest, digested, _⟩ := verified
  have inside : Inside cell.toJson plan.body :=
    @Inside.field _ _ "cells" (.arr (plan.cells.map (·.toJson))) (by simp)
      (.item (List.mem_map_of_mem member) .here)
  exact evidenceDigest_inside inside rfl digested

variable {plan : ExperimentPlan} {digest sourceAttemptsDigest : String}

lemma checkTarget_accepts (h : Evaluated runtime catalog source coverage)
    (cells : plan.cells = targetCells source coverage) {target : CoverageCell}
    (member : target ∈ repairTargets coverage) :
    checkTarget runtime source plan
      (manifestOf source plan sourceAttemptsDigest (repairTargets coverage) identity digest) target =
        .ok () := by
  obtain ⟨cell, listed, covers, _⟩ := covers_of_target h member
  have planned := (targetCells_eligible h listed).1
  obtain ⟨record, recorded⟩ := cell_digest h.verified planned
  have distinct : ((repairTargets coverage).map (·.id)).Nodup := by
    rw [← target_ids h]
    exact (ids_nodup h).sublist (List.filter_sublist.map _)
  have binding : (manifestOf source plan sourceAttemptsDigest (repairTargets coverage) identity
      digest).cells.find? (fun c => c.id == target.id) = some ⟨target.id, target.attemptId⟩ := by
    rw [manifestOf, List.find?_map]
    have found := Keyed.find?_of_nodup distinct member
    simp only [Function.comp_def, beq_eq_decide, found, Option.map_some, kept_attempt covers]
  have before : source.cells.find? (fun c => c.id == target.id) = some cell := by
    have found := Keyed.find?_of_nodup (ids_nodup h) planned
    simpa only [beq_eq_decide, covers.id] using found
  have after : plan.cells.find? (fun c => c.id == target.id) = some cell := by
    have found := Keyed.find?_of_nodup ((target_ids h).symm ▸ distinct) listed
    simpa only [cells, beq_eq_decide, covers.id] using found
  simp [checkTarget, binding, before, after, recorded, require, throwIf]

lemma manifest_schema (h : Evaluated runtime catalog source coverage)
    (work : repairTargets coverage ≠ []) (given : Given source coverage identity)
    (verified : verifyExperimentPlan runtime registry plan = .ok plan)
    (attested : sha256Digest sourceAttemptsDigest = true) (hashed : sha256Digest digest = true) :
    experimentRepairSchema
      (manifestOf source plan sourceAttemptsDigest (repairTargets coverage) identity digest) =
        true := by
  have before := (verified_of_ok h.verified).2.schema
  have after := (verified_of_ok verified).2.schema
  simp only [experimentPlanSchema, Bool.and_eq_true] at before after
  have cells : (manifestOf source plan sourceAttemptsDigest (repairTargets coverage) identity
      digest).cells.all (fun c => evidenceIdentifier c.id &&
        c.previousAttempt.all evidenceIdentifier) = true := by
    rw [manifestOf, List.all_map, List.all_eq_true]
    intro target member
    obtain ⟨cell, listed, covers, _⟩ := covers_of_target h member
    have named := (cellRules_of_ok h.verified).schema cell (targetCells_eligible h listed).1
    simp only [experimentCellSchema, Bool.and_eq_true] at named
    have id : evidenceIdentifier target.id = true := by
      rw [covers.id]
      tauto
    simp only [Function.comp_apply, kept_attempt covers, id, covers.attempt, Bool.and_self]
  simp only [experimentRepairSchema, cells, Bool.and_eq_true, and_true]
  simp only [manifestOf, List.length_map, decide_eq_true_eq]
  exact ⟨⟨⟨⟨⟨⟨⟨⟨⟨before.1.1.1.1.1.1.1.1.1.1.1, before.1.1.1.1.1.1.1.1.1.1.2⟩,
    before.1.1.1.1.1.1.1.1.2⟩, attested⟩, after.1.1.1.1.1.1.1.1.1.1.1⟩,
    after.1.1.1.1.1.1.1.1.2⟩, given.operator⟩, given.reason⟩, List.length_pos_iff.mpr work⟩, hashed⟩

/-- A plan for the targets, under the manifest that binds it, is the frozen selection. -/
theorem verifySelection_accepts
    (covered : repairableCoverage runtime catalog source attempts = .ok coverage)
    (given : Given source coverage identity)
    (planned : PlannedFor runtime catalog.toRegistry
      (repairRequest source (repairTargets coverage) identity) plan)
    (attested : repairAttemptsDigest runtime attempts = .ok sourceAttemptsDigest)
    (digested : evidenceDigest runtime
      (manifestOf source plan sourceAttemptsDigest (repairTargets coverage) identity "").body =
        .ok digest)
    (schema : experimentRepairSchema
      (manifestOf source plan sourceAttemptsDigest (repairTargets coverage) identity digest) = true) :
    verifySelection runtime catalog source attempts plan
      (manifestOf source plan sourceAttemptsDigest (repairTargets coverage) identity digest) =
        .ok coverage := by
  have h := evaluated_of_repairable covered
  have cells : plan.cells = targetCells source coverage := planned.cells
  have count : plan.cells.length = (repairTargets coverage).length := by
    rw [cells, ← List.length_map (f := fun cell : ExperimentCell => cell.id), target_ids h,
      List.length_map]
  have distinct : ((repairTargets coverage).map (·.id)).Nodup := by
    rw [← target_ids h]
    exact (ids_nodup h).sublist (List.filter_sublist.map _)
  have names : (manifestOf source plan sourceAttemptsDigest (repairTargets coverage) identity
      digest).cells.map (·.id) = (repairTargets coverage).map (·.id) := by
    rw [manifestOf, List.map_map]
    rfl
  have different : source.id ≠ plan.id := planned.id ▸ given.fresh
  have same : source.sha = plan.sha := planned.sha.symm
  have targets : forM (repairTargets coverage) (checkTarget runtime source plan
      (manifestOf source plan sourceAttemptsDigest (repairTargets coverage) identity digest)) =
        .ok () :=
    forM_eq_ok.mpr fun target member => checkTarget_accepts h cells member
  have size : (manifestOf source plan sourceAttemptsDigest (repairTargets coverage) identity
      digest).cells.length = (repairTargets coverage).length := List.length_map _
  have digested' : evidenceDigest runtime (manifestOf source plan sourceAttemptsDigest
      (repairTargets coverage) identity digest).body = .ok digest := digested
  have fields : ∃ repair, manifestOf source plan sourceAttemptsDigest (repairTargets coverage)
      identity digest = repair ∧ repair.sourceRun = source.id ∧ repair.sourceSha = source.sha ∧
        repair.sourcePlanDigest = source.digest ∧
        repair.sourceAttemptsDigest = sourceAttemptsDigest ∧ repair.recoveryRun = plan.id ∧
        repair.recoveryPlanDigest = plan.digest ∧ repair.digest = digest :=
    ⟨_, rfl, rfl, rfl, rfl, rfl, rfl, rfl, rfl⟩
  obtain ⟨repair, made, run, sha, source_digest, attempts_digest, recovery, recovery_digest, own⟩ :=
    fields
  rw [made] at schema names targets size digested' ⊢
  simp only [verifySelection, throwIf, schema, digested', h.verified, planned.verified, covered,
    attested, targets, names, Keyed.setOf_of_nodup distinct, List.length_map, size, count, run, sha,
    source_digest, attempts_digest, recovery, recovery_digest, own, same, ne_eq, not_true_eq_false,
    different, or_self, Bool.true_eq_false, if_false, ok_bind]
  rfl

/-- The aggregation goes on to the replacements, whatever they are, and finds a recovered cell for
each target. -/
structure Accepted (runtime : Runtime) (catalog : Catalog) (source : ExperimentPlan)
    (attempts : List AttemptWithRun) (coverage : CoverageReport) (plan : ExperimentPlan)
    (repair : ExperimentRepair) : Prop where
  verified : verifyExperimentPlan runtime catalog.toRegistry plan = .ok plan
  selection : ∀ replacements options,
    aggregateRepairedExperiment runtime catalog source attempts plan replacements repair options =
      replaceTargets runtime catalog source attempts plan replacements repair options coverage
  recovered : ∀ replacements result,
    aggregateExperiment runtime catalog plan replacements true = .ok result →
      ∃ cells, coverage.cells.mapM (repairedCell (repair.cells.map (·.id)) result.coverage) =
        .ok cells

lemma recovered_cells (h : Evaluated runtime catalog source coverage)
    (cells : plan.cells = targetCells source coverage) {recovered : CoverageReport}
    (again : Evaluated runtime catalog plan recovered) (covered : CoverageCell) :
    ∃ cell, repairedCell ((repairTargets coverage).map (·.id)) recovered covered = .ok cell := by
  rw [repairedCell]
  split
  · rename_i replaced
    have listed : covered.id ∈ recovered.cells.map (·.id) := by
      rw [again.ids, cells, target_ids h]
      exact List.contains_iff_mem.mp replaced
    obtain ⟨cell, member, same⟩ := List.mem_map.mp listed
    have found : (recovered.cells.find? fun n => n.id == covered.id).isSome := by
      rw [List.find?_isSome]
      exact ⟨cell, member, by simpa using same⟩
    obtain ⟨cell, here⟩ := Option.isSome_iff_exists.mp found
    exact ⟨cell, by rw [here]; rfl⟩
  · exact ⟨covered, rfl⟩

/-- The sample plan on an account of so many sandboxes. -/
def sampleSource (sandboxes : ℕ) : ExperimentPlan :=
  { samplePlan with accounts := [⟨"e2b", sandboxes, some 8, some 16, none⟩] }

/-- The sample source's document hashes to the digest that it declares. -/
def sealingSource (sandboxes : ℕ) : Runtime :=
  { measuring with
    sha256 := fun text =>
      if canonicalJsonString plainJson evidenceLimits (sampleSource sandboxes).body = .ok text then
        String.ofList (List.replicate 64 '0')
      else measuring.sha256 text }

lemma sealingSource_hex (sandboxes : ℕ) (text : String) :
    sha256Digest ("sha256:" ++ (sealingSource sandboxes).sha256 text) = true := by
  simp only [sealingSource]
  split
  · decide +kernel
  · exact measuring_hex text

/-- A small account, and one beyond the safe integers. -/
def Sampled (sandboxes : ℕ) : Prop := sandboxes = 2 ∨ sandboxes = maxSafeInteger + 1

lemma sealing_digest {sandboxes : ℕ} (sampled : Sampled sandboxes) :
    evidenceDigest (sealingSource sandboxes) (sampleSource sandboxes).body = .ok samplePlan.digest := by
  have fits : (visit plainJson evidenceLimits (evidenceLimits.maxDepth + 1)
      (sampleSource sandboxes).body ⟨0, 0⟩).isOk = true := by
    rcases sampled with rfl | rfl <;> decide +kernel
  obtain ⟨json, printed⟩ := canonicalJsonString_of_visit plainJson evidenceLimits _ rfl fits
  have same : canonicalJsonString (sealingSource sandboxes).toJsonRuntime evidenceLimits
      (sampleSource sandboxes).body = .ok json := printed
  simp only [evidenceDigest, same, ok_bind]
  simp only [sealingSource, printed, if_true]
  decide +kernel

lemma sealing_digests (sandboxes : ℕ) {value : Value} (container : isContainer value = true)
    (fits : (visit plainJson evidenceLimits (evidenceLimits.maxDepth + 1) value ⟨0, 0⟩).isOk =
      true) : ∃ digest, evidenceDigest (sealingSource sandboxes) value = .ok digest := by
  obtain ⟨json, printed⟩ := canonicalJsonString_of_visit plainJson evidenceLimits value container
    fits
  have same : canonicalJsonString (sealingSource sandboxes).toJsonRuntime evidenceLimits value =
      .ok json := printed
  refine ⟨"sha256:" ++ (sealingSource sandboxes).sha256 json, ?_⟩
  simp only [evidenceDigest, same, ok_bind]
  rfl

lemma sampleSource_accepted {sandboxes : ℕ} (sampled : Sampled sandboxes) :
    verifyExperimentPlan (sealingSource sandboxes) plainCatalog.toRegistry (sampleSource sandboxes) =
      .ok (sampleSource sandboxes) := by
  obtain ⟨target, hTarget⟩ := @sealing_digests sandboxes (TargetSpec.toJson ⟨4, 8, none⟩) rfl
    (by decide +kernel)
  obtain ⟨cohort, hCohort⟩ := @sealing_digests sandboxes sampleCohort rfl (by decide +kernel)
  have body := sealing_digest sampled
  simp only [verifyExperimentPlan, bind_eq_ok, throwIf_eq_ok, pure_eq_ok, and_true]
  rcases sampled with rfl | rfl <;>
    exact ⟨(), by decide +kernel, _, body, (), fun other => other rfl, (), by decide +kernel, _,
      samplePlan_targets hTarget, (), by decide +kernel, (), by decide +kernel, (),
      by decide +kernel, (), by decide +kernel,
      ⟨["b0"], ["c0", "c1"], [("b0", .syntheticMemory)], [("e2b", 0)]⟩, by decide +kernel, (),
      by decide +kernel, ⟨["b0"], ["r0"], [("e2b", 0)]⟩, by decide +kernel, (), by decide +kernel, _,
      samplePlan_cohorts hCohort⟩

def missingCell (id : String) : CoverageCell := ⟨id, .missing, ["m"], [], none, some [], none⟩

def missingCells : CoverageReport :=
  ⟨samplePlan.digest, false, [], [missingCell "c0", missingCell "c1"], []⟩

/-- Nothing has run: both cells are missing, and nothing else is wrong. -/
lemma sampleSource_covered {sandboxes : ℕ} (sampled : Sampled sandboxes) :
    repairableCoverage (sealingSource sandboxes) plainCatalog (sampleSource sandboxes) [] =
      .ok missingCells := by
  simp only [repairableCoverage, aggregateExperiment, evaluateExperiment,
    sampleSource_accepted sampled, ok_bind]
  rcases sampled with rfl | rfl <;> decide +kernel

lemma missing_targets : repairTargets missingCells ≠ [] := by decide

def sampleIdentity (run reason : String) : RepairIdentity := ⟨run, "op", reason, "2026-01-31"⟩

lemma sample_given : Given (sampleSource 2) missingCells (sampleIdentity "8" "why") := by
  have plain : ∀ cell ∈ targetCells (sampleSource 2) missingCells,
      cell.gpu = none ∧ cell.exclusions = [] := by
    decide
  refine ⟨by decide, by decide, by decide, by decide, by decide +kernel, ?_, ?_, ?_⟩
  · intro cell member exclusion listed
    rw [(plain cell member).2] at listed
    cases listed
  · intro cell _ account listed _
    rw [List.mem_singleton.mp listed]
    decide
  · intro cell member account _ _ gpu present
    rw [(plain cell member).1] at present
    cases present

lemma sampleSource_apart : Apart (sealingSource 2) (sampleSource 2).cells := by
  have targets : ∀ cell ∈ (sampleSource 2).cells, cell.target = ⟨4, 8, none⟩ := by
    simp [sampleSource, samplePlan]
  have records : ∀ cell ∈ (sampleSource 2).cells,
      allocation cell = allocation (sampleCell "memory" "a" 0) := by
    simp [sampleSource, samplePlan, allocation, sampleCell]
  constructor
  · intro c hc d hd json json' hJson hJson' _
    rw [targets c hc] at hJson
    rw [targets d hd, hJson] at hJson'
    exact Except.ok.inj hJson'
  · intro c hc d hd _ _ json json' hJson hJson' _
    rw [records c hc] at hJson
    rw [records d hd, hJson] at hJson'
    exact Except.ok.inj hJson'

lemma long_reason_refused {run : String} {result : ExperimentPlan × ExperimentRepair} :
    planExperimentRepair runtime catalog source attempts (sampleIdentity run longName) ≠
      .ok result := by
  intro returned
  simp only [planExperimentRepair, bind_eq_ok] at returned
  obtain ⟨coverage, _, _, _, _, _, plan, _, attested, _, digest, digested, _⟩ := returned
  have inside : HasString longName (manifestOf source plan attested (repairTargets coverage)
      (sampleIdentity run longName) "").body :=
    @HasString.field _ _ "reason" (.str longName)
      (by simp [sampleIdentity, manifestOf]) .here
  obtain ⟨error, refused⟩ := @evidenceDigest_refuses runtime _ _ inside longName_long
  rw [digested] at refused
  cases refused

end RepairExperiment
