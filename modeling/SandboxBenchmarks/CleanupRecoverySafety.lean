import SandboxBenchmarks.AccountRecoverySafety
import SandboxBenchmarks.CanonicalKeys
import SandboxBenchmarks.CleanupRecovery

/-!
# Cleanup recovery keeps the journal coherent

What `recoverExperimentCleanup` appends continues the story of its attempt: the
allocation that was lost, then one release or one attestation.
-/

namespace CleanupRecovery

open AccountJournal AccountRecovery CanonicalJson Checks ExperimentRecords Interaction JsonText
  PlanVerification
open AccountReconciliation (Observation SandboxDriver)

/-! ### Programs that leave the journal alone -/

section
variable {clock : Clock} {account : String} {α β : Type}

def Inert (clock : Clock) (account : String) (x : Recovering α) : Prop :=
  ∀ s, Maintains (served clock account) (Careful account) (Still s) x s

theorem inert_pure (a : α) : Inert clock account (pure a) := fun _ => rfl

theorem inert_computed (value : Except String α) : Inert clock account (computed value) :=
  fun _ => rfl

theorem Inert.bind {x : Recovering α} {f : α → Recovering β} (first : Inert clock account x)
    (rest : ∀ a, Inert clock account (f a)) : Inert clock account (x >>= f) := by
  intro s
  refine (first s).bind (fun t e same => same) ?_
  intro t a same
  exact (rest a t).mono fun u r later => Eq.trans later same

theorem inert_question {q : Query} {next : Answer q → Recovering α} (harmless : q.harmless = true)
    (rest : ∀ answer, Inert clock account (next answer)) : Inert clock account (question q next) := by
  intro s
  rw [maintains_question]
  refine ⟨lenient_careful _ _ harmless, ?_⟩
  rintro answer t ⟨-, effect⟩
  have same : t.held = s.held := by
    cases q with
    | await operation =>
      cases operation with
      | append record => cases harmless
      | read name => exact effect.1
      | _ => exact effect
    | _ => exact effect
  exact (rest answer t).mono fun u r later => Eq.trans later same

theorem inert_throwIfAborted : Inert clock account throwIfAborted :=
  fun _ => (steady_throwIfAborted lenient_careful).mono fun _ _ h => h.held

theorem inert_awaiting {operation : Operation} (harmless : operation.harmless = true) :
    Inert clock account (awaiting operation) :=
  inert_question harmless inert_computed

theorem inert_withinSignal {operation : Operation} (harmless : operation.harmless = true) :
    Inert clock account (withinSignal operation) :=
  inert_throwIfAborted.bind fun _ => inert_throwIfAborted.bind fun _ => inert_awaiting harmless

theorem inert_readAttemptRecords (cell : ExperimentCell) (evidence : ExperimentAttempt) :
    Inert clock account (readAttemptRecords cell evidence) :=
  (inert_awaiting rfl).bind fun _ => inert_pure _

variable {runtime : Runtime}

theorem inert_assertJournalUnchanged (cell : ExperimentCell) (evidence : ExperimentAttempt)
    (records : List AccountRecord) :
    Inert clock account (assertJournalUnchanged runtime cell evidence records) :=
  (inert_readAttemptRecords cell evidence).bind fun _ => (inert_computed _).bind fun _ =>
    (inert_computed _).bind fun _ => inert_computed _

theorem inert_persist (recovery : CleanupRecovery) :
    Inert clock account (persist runtime recovery) := by
  refine inert_question rfl fun stored => (inert_computed _).bind fun found => ?_
  cases found with
  | some json =>
    exact (inert_computed _).bind fun _ => (inert_computed _).bind fun _ => inert_computed _
  | none => exact inert_question rfl inert_computed

theorem inert_observeName (options : Options) (name : String) :
    Inert clock account (observeName options name) :=
  (inert_computed _).bind fun _ => (inert_withinSignal rfl).bind fun _ =>
    (inert_computed _).bind fun _ => inert_pure _

theorem inert_observeApp (options : Options) (cell : ExperimentCell) (attempt : AttemptWithRun) :
    Inert clock account (observeApp options cell attempt) :=
  (inert_computed _).bind fun _ => (inert_computed _).bind fun _ =>
    (inert_withinSignal rfl).bind fun _ => (inert_computed _).bind fun _ => inert_pure _

/-! ### The observed sandbox is the allocated one -/

/-- A digest of an allocation record determines its sandbox. -/
theorem ref_of_digest (hash : Function.Injective runtime.sha256) {a b : AccountRecord}
    {r r' : SandboxRef} {digest : String} (ha : a.body = .allocated r) (hb : b.body = .allocated r')
    (da : evidenceDigest runtime (recordJson a) = .ok digest)
    (db : evidenceDigest runtime (recordJson b) = .ok digest) : r = r' := by
  have same := evidenceDigest_injective hash da db
  simp only [recordJson, ha, hb, bodyFields, List.cons_append, List.nil_append] at same
  have refs : sortKeys (keyOrder runtime.toJsonRuntime) (refJson r) =
      sortKeys (keyOrder runtime.toJsonRuntime) (refJson r') :=
    each_of_sortKeys (k := "ref") (by simp) same (by simp [Keyed.get?]) (by simp [Keyed.get?])
  simp only [refJson] at refs
  have provider := each_of_sortKeys (k := "provider") (x := .str r.provider)
    (y := .str r'.provider) (by simp) refs (by simp [Keyed.get?]) (by simp [Keyed.get?])
  have id := each_of_sortKeys (k := "id") (x := .str r.id) (y := .str r'.id) (by simp) refs
    (by simp [Keyed.get?]) (by simp [Keyed.get?])
  obtain ⟨rp, ri⟩ := r
  obtain ⟨rp', ri'⟩ := r'
  simp only [sortKeys, Value.str.injEq] at provider id
  rw [provider, id]

theorem id_of_cellOf {plan : ExperimentPlan} {attempt : AttemptWithRun} {cell : ExperimentCell}
    (found : cellOf plan attempt = some cell) : cell.id = attempt.evidence.cellId :=
  by simpa using List.find?_some found

/-- What the retained allocation is verified against. -/
theorem verifiedRetainedAllocation_ok {plan : ExperimentPlan} {attempt : AttemptWithRun}
    {cell : ExperimentCell} {allocation : RetainedAllocation}
    (found : cellOf plan attempt = some cell)
    (verified : verifiedRetainedAllocation plan attempt = .ok allocation) :
    recordOf allocation =
        (⟨cell.quotaDomain, attempt.evidence.id, cell.id, plan.digest⟩ : Provenance).record
          (.allocated allocation.ref) ∧
      allocation.ref.provider = cell.provider := by
  simp only [verifiedRetainedAllocation, bind_eq_ok, require_eq_ok, throwIf_eq_ok, pure_eq_ok,
    not_or, not_not] at verified
  obtain ⟨_, -, cell', here, _, ⟨-, hAttempt, hCell, hPlan, -, hAccount, hProvider⟩, rfl⟩ := verified
  obtain rfl : cell' = cell := Option.some.inj (here.symm.trans found)
  refine ⟨?_, hProvider⟩
  rw [recordOf, Provenance.record, hAttempt, hCell, hPlan, hAccount]

theorem maintains_observeAllocation (hash : Function.Injective runtime.sha256)
    {plan : ExperimentPlan} {cell : ExperimentCell} {attempt : AttemptWithRun}
    (found : cellOf plan attempt = some cell) {allocation : AccountRecord} {ref : SandboxRef}
    (body : allocation.body = .allocated ref) (rounds : Nat) (s : Site) :
    Maintains (served clock account) (Careful account)
      (fun t r => t.held = s.held ∧ ∀ observation, r = .ok observation →
        ∃ state, observation = .sandbox ref.provider ref.id state)
      (observeAllocation runtime plan rounds cell attempt allocation ref) s := by
  have unread : ∀ (t : Site) (e : String), t.held = s.held →
      t.held = s.held ∧ ∀ observation : CleanupObservation, Except.error e = .ok observation →
        ∃ state, observation = .sandbox ref.provider ref.id state :=
    fun t e same => ⟨same, nofun⟩
  rw [observeAllocation]
  refine maintains_computed_bind (fun e _ => unread s e rfl) fun retained verified => ?_
  refine maintains_computed_bind (fun e _ => unread s e rfl) fun expected ours => ?_
  refine maintains_computed_bind (fun e _ => unread s e rfl) fun digest theirs => ?_
  refine maintains_computed_bind (fun e _ => unread s e rfl) fun _ same => ?_
  refine maintains_computed_bind (fun e _ => unread s e rfl) fun original _ => ?_
  refine maintains_computed_bind (fun e _ => unread s e rfl) fun _ _ => ?_
  simp only [throwIf_eq_ok, not_not] at same
  subst same
  have known := verifiedRetainedAllocation_ok found verified
  have refs : retained.ref = ref := ref_of_digest hash (a := recordOf retained) rfl body ours theirs
  refine (inert_withinSignal rfl s).bind (fun t e still => unread t e still) fun t driver still => ?_
  refine maintains_computed_bind (fun e _ => unread t e still) fun _ _ => ?_
  refine (still_confirmRemoval driver ref rounds).bind (fun u e h => unread u e (h.trans still)) ?_
  intro u _ removed
  refine (inert_withinSignal rfl u).bind
    (fun v e h => unread v e (Eq.trans h (removed.trans still))) ?_
  intro v state seen
  have last : v.held = s.held := Eq.trans seen (removed.trans still)
  refine maintains_computed_bind (fun e _ => unread v e last) fun _ _ => ?_
  refine ⟨last, ?_⟩
  rintro _ ⟨⟩
  exact ⟨stateText state, by rw [← refs, known.2]⟩

/-! ### The records of an attempt to be settled -/

/-- An unresolved attempt, or one with its plain release. -/
def Settling (bodies : List RecordBody) : Prop :=
  bodies = [.intent] ∨ (∃ ref, bodies = [.intent, .allocated ref]) ∨
    ∃ ref, bodies = [.intent, .allocated ref, .absent ref none]

theorem settling_of_story {p : Provenance} {bodies : List RecordBody} (story : Story p bodies)
    {supplemental : Option CleanupRecovery} (intended : bodies ≠ [])
    (fresh : previousRecovery supplemental (bodies.map p.record) = none)
    (matched : mismatched (bodies.map p.record) = false) : Settling bodies := by
  rw [previousRecovery, p.bodyOf_record] at fresh
  rw [mismatched, p.bodyOf_record] at matched
  cases story with
  | untouched => exact absurd rfl intended
  | intended => exact .inl rfl
  | allocated ref => exact .inr (.inl ⟨ref, rfl⟩)
  | absent ref recovery =>
    cases recovery with
    | none => exact .inr (.inr ⟨ref, rfl⟩)
    | some recovery => simp [RecordBody.kind] at fresh
  | attested ref recovery attests => simp [RecordBody.kind] at matched
  | notAllocated => simp [RecordBody.kind] at matched
  | reconciled evidence => simp [RecordBody.kind] at matched

/-- What is known of the attempt's records if they are read from the account's journal. -/
def Known (account : String) (plan : ExperimentPlan) (cell : ExperimentCell)
    (evidence : ExperimentAttempt) (held records : List AccountRecord) (intent : AccountRecord) :
    Prop :=
  cell.quotaDomain = account → ∃ bodies,
    let p : Provenance := ⟨account, evidence.id, cell.id, plan.digest⟩
    Settling bodies ∧ intent = p.record .intent ∧ records = bodies.map p.record ∧
      ofAttempt evidence.id held = records

theorem maintains_replayAllocation {plan : ExperimentPlan} {cell : ExperimentCell}
    {attempt : AttemptWithRun} (found : cellOf plan attempt = some cell) {intent : AccountRecord}
    {records : List AccountRecord} {s : Site}
    (known : Known account plan cell attempt.evidence s.held records intent)
    (unallocated : ofKind .allocated records = none) :
    Maintains (served clock account) (Careful account)
      (fun t r => ∀ retained, r = .ok retained →
        Known account plan cell attempt.evidence t.held (records ++ [retained]) intent)
      (replayAllocation runtime plan cell attempt records) s := by
  have sole : cell.quotaDomain = account →
      let p : Provenance := ⟨account, attempt.evidence.id, cell.id, plan.digest⟩
      intent = p.record .intent ∧ records = [p.record .intent] ∧
        ofAttempt attempt.evidence.id s.held = [p.record .intent] := by
    intro ours
    obtain ⟨bodies, settling, itself, told, held⟩ := known ours
    rcases settling with rfl | ⟨ref, rfl⟩ | ⟨ref, rfl⟩
    · exact ⟨itself, told, held.trans told⟩
    · rw [told, Provenance.ofKind_record] at unallocated
      cases unallocated
    · rw [told, Provenance.ofKind_record] at unallocated
      cases unallocated
  rw [replayAllocation]
  refine maintains_computed_bind (fun _ _ => nofun) fun _ _ => ?_
  refine maintains_computed_bind (fun _ _ => nofun) fun retained verified => ?_
  have record := (verifiedRetainedAllocation_ok found verified).1
  refine (inert_assertJournalUnchanged cell attempt.evidence records s).bind
    (fun _ _ _ => nofun) fun t _ still => ?_
  have same : t.held = s.held := still
  refine (appended_withinSignal lenient_careful ?_).bind (fun _ _ _ => nofun) fun u _ appended => ?_
  · intro u kept _
    refine careful_append fun ours => ?_
    have here : cell.quotaDomain = account := by rw [← ours, record]; rfl
    rw [record, here, kept, same]
    exact continues_of_story ⟨account, attempt.evidence.id, cell.id, plan.digest⟩ [.intent]
      (sole here).2.2 (.allocated retained.ref)
  · rintro _ ⟨⟩ ours
    obtain ⟨itself, told, held⟩ := sole ours
    have lands := (appended.lands rfl (by rw [record]; exact ours)).1
    refine ⟨[.intent, .allocated retained.ref], .inr (.inl ⟨_, rfl⟩), itself, ?_, ?_⟩
    · rw [told, record, ours]
      rfl
    · rw [lands, same, ofAttempt_append, held, told, record]
      exact congrArg _ (ofAttempt_singleton_self _)

theorem maintains_restoreAllocation {plan : ExperimentPlan} {cell : ExperimentCell}
    {attempt : AttemptWithRun} (found : cellOf plan attempt = some cell) {intent : AccountRecord}
    {records : List AccountRecord} {s : Site}
    (known : Known account plan cell attempt.evidence s.held records intent) :
    Maintains (served clock account) (Careful account)
      (fun t r => ∀ kept, r = .ok kept →
        Known account plan cell attempt.evidence t.held kept intent)
      (restoreAllocation runtime plan cell attempt records) s := by
  rw [restoreAllocation]
  split
  · rename_i lost
    rw [Bool.and_eq_true, Option.isNone_iff_eq_none] at lost
    refine (maintains_replayAllocation found known lost.1).bind (fun _ _ _ => nofun) ?_
    rintro u retained replayed _ ⟨⟩
    exact replayed retained rfl
  · rintro _ ⟨⟩
    exact known

/-- The observation made of an allocated sandbox is of that sandbox. -/
def Sighted (records : List AccountRecord) (observation : CleanupObservation) : Prop :=
  ∀ ref, allocatedRef records = some ref →
    ∃ state, observation = .sandbox ref.provider ref.id state

theorem body_of_ofKind {records : List AccountRecord} {allocation : AccountRecord}
    {ref : SandboxRef} (found : ofKind .allocated records = some allocation)
    (allocated : allocatedRef records = some ref) : allocation.body = .allocated ref := by
  rw [allocatedRef, bodyOf, found, Option.map_some] at allocated
  cases here : allocation.body <;> simp [here] at allocated
  rw [allocated]

theorem ofKind_of_allocatedRef {records : List AccountRecord} {ref : SandboxRef}
    (allocated : allocatedRef records = some ref) :
    ∃ allocation, ofKind .allocated records = some allocation := by
  cases found : ofKind .allocated records with
  | some allocation => exact ⟨allocation, rfl⟩
  | none => simp [allocatedRef, bodyOf, found] at allocated

theorem maintains_observeCleanup (hash : Function.Injective runtime.sha256) {options : Options}
    {cell : ExperimentCell} {attempt : AttemptWithRun}
    (found : cellOf options.plan attempt = some cell) (records : List AccountRecord)
    (rounds : Nat) (s : Site) :
    Maintains (served clock account) (Careful account)
      (fun t r => t.held = s.held ∧ ∀ observation, r = .ok observation → Sighted records observation)
      (observeCleanup runtime rounds options cell attempt records) s := by
  rw [observeCleanup]
  split
  · rename_i allocation ref kept allocated
    refine (maintains_observeAllocation hash found (body_of_ofKind kept allocated) rounds s).mono ?_
    rintro t r ⟨same, seen⟩
    refine ⟨same, fun observation told ref' here => ?_⟩
    obtain rfl : ref = ref' := Option.some.inj (allocated.symm.trans here)
    exact seen observation told
  · rename_i unallocated
    have blind : ∀ observation, Sighted records observation := by
      intro observation ref allocated
      obtain ⟨allocation, kept⟩ := ofKind_of_allocatedRef allocated
      exact (unallocated allocation ref kept allocated).elim
    have unseen : ∀ {p : Program Query Answer (Except String CleanupObservation)},
        Inert clock account p → Maintains (served clock account) (Careful account)
          (fun t r => t.held = s.held ∧ ∀ observation, r = .ok observation →
            Sighted records observation) p s := by
      intro p inert
      exact (inert s).mono fun t r same => ⟨same, fun observation _ => blind observation⟩
    split
    · exact unseen (inert_observeName options _)
    · exact unseen (inert_observeApp options cell attempt)

theorem maintains_readAttemptRecords (cell : ExperimentCell) (evidence : ExperimentAttempt)
    (s : Site) :
    Maintains (served clock account) (Careful account)
      (fun t r => t.held = s.held ∧ ∀ records, r = .ok records → cell.quotaDomain = account →
        records = ofAttempt evidence.id s.held) (readAttemptRecords cell evidence) s := by
  rw [readAttemptRecords]
  refine (answered_harmless lenient_careful rfl).bind (fun t e h => ⟨h.held, nofun⟩) ?_
  intro t records read
  refine ⟨read.held, ?_⟩
  rintro _ ⟨⟩ ours
  rw [(read.effect records rfl).2 ours records rfl]

/-- The record that closes the attempt continues its story. -/
theorem continues_closingRecord {plan : ExperimentPlan} {cell : ExperimentCell}
    {evidence : ExperimentAttempt} {held records : List AccountRecord} {intent : AccountRecord}
    (known : Known account plan cell evidence held records intent)
    (ours : cell.quotaDomain = account) {recovery : CleanupRecovery}
    (hAttempt : recovery.attemptId = evidence.id) (hCell : recovery.cellId = cell.id)
    (hPlan : recovery.planDigest = plan.digest) (sighted : Sighted records recovery.observation) :
    Continues account held (closingRecord intent (ofKind .released records).isSome
      (allocatedRef records) recovery) := by
  obtain ⟨bodies, settling, rfl, rfl, told⟩ := known ours
  rw [Sighted, allocatedRef, Provenance.bodyOf_record] at sighted
  rw [Provenance.ofKind_record, allocatedRef, Provenance.bodyOf_record]
  rcases settling with rfl | ⟨ref, rfl⟩ | ⟨ref, rfl⟩
  · exact continues_of_story ⟨account, evidence.id, cell.id, plan.digest⟩ [.intent] told
      (.reconciled (.recovery recovery))
  · exact continues_of_story ⟨account, evidence.id, cell.id, plan.digest⟩ [.intent, .allocated ref]
      told (.absent ref (some recovery))
  · exact continues_of_story ⟨account, evidence.id, cell.id, plan.digest⟩
      [.intent, .allocated ref, .absent ref none] told
      (.attested ref recovery ⟨hAttempt, hCell, hPlan, sighted ref rfl⟩)

theorem maintains_recordCleanup {options : Options} {cell : ExperimentCell}
    {attempt : AttemptWithRun} {intent : AccountRecord} {records : List AccountRecord} {s : Site}
    (known : Known account options.plan cell attempt.evidence s.held records intent)
    (owner : intent.account = cell.quotaDomain) {recovery : CleanupRecovery}
    (hAttempt : recovery.attemptId = attempt.evidence.id) (hCell : recovery.cellId = cell.id)
    (hPlan : recovery.planDigest = options.plan.digest)
    (sighted : Sighted records recovery.observation) :
    Maintains (served clock account) (Careful account) (fun _ _ => True)
      (recordCleanup runtime clock options cell attempt intent records recovery) s := by
  rw [recordCleanup]
  refine maintains_computed_bind (fun _ _ => trivial) fun _ _ => ?_
  refine maintains_computed_bind (fun _ _ => trivial) fun _ _ => ?_
  refine (inert_awaiting rfl s).bind (fun _ _ _ => trivial) fun t _ quiescent => ?_
  refine (inert_assertJournalUnchanged _ _ _ t).bind (fun _ _ _ => trivial) fun u _ unchanged => ?_
  refine (inert_throwIfAborted u).bind (fun _ _ _ => trivial) fun v _ silent => ?_
  refine maintains_computed_bind (fun _ _ => trivial) fun _ _ => ?_
  have same : v.held = s.held := Eq.trans silent (Eq.trans unchanged quiescent)
  refine (appended_withinSignal lenient_careful ?_).bind (fun _ _ _ => trivial) fun w _ _ => ?_
  · intro w kept _
    refine careful_append fun ours => ?_
    rw [kept, same]
    exact continues_closingRecord known (owner.symm.trans ours) hAttempt hCell hPlan sighted
  · exact (inert_persist _ w).bind (fun _ _ _ => trivial) fun _ _ _ => trivial

theorem maintains_settleCleanup (hash : Function.Injective runtime.sha256) {options : Options}
    {cell : ExperimentCell} {attempt : AttemptWithRun}
    (found : cellOf options.plan attempt = some cell) {intent : AccountRecord}
    {records : List AccountRecord} {s : Site}
    (known : Known account options.plan cell attempt.evidence s.held records intent)
    (owner : intent.account = cell.quotaDomain) (rounds : Nat) :
    Maintains (served clock account) (Careful account) (fun _ _ => True)
      (settleCleanup runtime clock rounds options cell attempt intent records) s := by
  rw [settleCleanup]
  generalize evidenceDigest runtime attempt.evidence.toJson = digested
  refine (inert_awaiting rfl s).bind (fun _ _ _ => trivial) fun t _ still => ?_
  have same : t.held = s.held := still
  rw [← same] at known
  refine (maintains_restoreAllocation found known).bind (fun _ _ _ => trivial)
    fun u kept restored => ?_
  have known' := restored kept rfl
  refine (maintains_observeCleanup hash found kept rounds u).bind (fun _ _ _ => trivial) ?_
  intro v observation seen
  refine maintains_computed_bind (fun _ _ => trivial) fun attemptDigest _ => ?_
  rw [maintains_question]
  refine ⟨lenient_careful _ _ rfl, ?_⟩
  rintro confirmedAt w ⟨-, now⟩
  have last : w.held = u.held := Eq.trans now seen.1
  rw [← last] at known'
  exact maintains_recordCleanup known' owner rfl (id_of_cellOf found).symm rfl
    (seen.2 observation rfl)

theorem maintains_recoverExperimentCleanup (hash : Function.Injective runtime.sha256)
    (options : Options) (rounds : Nat) {s : Site} (intact : Intact clock account s.held) :
    Maintains (served clock account) (Careful account) (fun _ _ => True)
      (recoverExperimentCleanup runtime clock rounds options) s := by
  rw [recoverExperimentCleanup]
  refine maintains_computed_bind (fun _ _ => trivial) fun attempt _ => ?_
  refine maintains_computed_bind (fun _ _ => trivial) fun cell found => ?_
  refine maintains_computed_bind (fun _ _ => trivial) fun _ _ => ?_
  rw [require_eq_ok] at found
  refine (maintains_readAttemptRecords cell attempt.evidence s).bind (fun _ _ _ => trivial) ?_
  rintro t records ⟨same, read⟩
  refine maintains_computed_bind (fun _ _ => trivial) fun supplemental _ => ?_
  refine maintains_computed_bind (fun _ _ => trivial) fun intent intended => ?_
  refine maintains_computed_bind (fun _ _ => trivial) fun _ provenance => ?_
  rw [require_eq_ok] at intended
  split
  · refine maintains_computed_bind (fun _ _ => trivial) fun _ _ => ?_
    refine maintains_computed_bind (fun _ _ => trivial) fun _ _ => ?_
    exact (inert_persist _ t).bind (fun _ _ _ => trivial) fun _ _ _ => trivial
  · rename_i fresh
    refine maintains_computed_bind (fun _ _ => trivial) fun _ matched => ?_
    have checked : ∀ record ∈ records, record.cellId = cell.id ∧
        record.planDigest = options.plan.digest ∧ record.account = cell.quotaDomain := by
      simpa [and_assoc] using provenance
    have first : intent ∈ records := List.mem_of_find?_eq_some intended
    refine maintains_settleCleanup hash found ?_ (checked intent first).2.2 rounds
    intro ours
    rw [same]
    have told := read records rfl ours
    obtain ⟨p, bodies, hAccount, hAttempt, story, whole⟩ := intact.coherent attempt.evidence.id
    rw [← told] at whole
    subst whole
    have kind : intent.kind = .intent := by simpa using List.find?_some intended
    obtain ⟨body, -, rfl⟩ := List.mem_map.mp first
    have itself : body = .intent := body_of_kind_intent kind
    obtain ⟨hCell, hPlan, -⟩ := checked _ first
    have whose : p = ⟨account, attempt.evidence.id, cell.id, options.plan.digest⟩ := by
      rw [← hAccount, ← hAttempt, ← hCell, ← hPlan]
      rfl
    subst whose
    refine ⟨bodies, settling_of_story story ?_ fresh ?_, ?_, rfl, told.symm⟩
    · rintro rfl
      cases first
    · simpa using matched
    · rw [itself]

end

end CleanupRecovery
