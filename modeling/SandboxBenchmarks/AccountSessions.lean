import SandboxBenchmarks.BatchHistory
import SandboxBenchmarks.Library.Grouping
import SandboxBenchmarks.NotAllocatedIntent

/-!
# The life of an account

Batches and recoveries take turns at one account, and each may die wherever it stands.
The journal they leave behind is one that recovery can read, and
`unresolvedJournalAttempts` of `account-journal.ts` reports what is left to recover.
-/

namespace AccountSessions

open AccountJournal AccountRecovery Checks ExperimentRecords Interaction PlanVerification Transition
open CanonicalJson (Runtime)
open CleanupRecovery (recoverExperimentCleanup maintains_recoverExperimentCleanup)
open ExecuteBatch (Prepared Setting World heldAfter batch_intact)
open NotAllocatedIntent (recoverNotAllocatedIntent maintains_recoverNotAllocatedIntent)

/-! ### The report -/

structure UnresolvedJournalAttempt where
  account : String
  attempt : String
  cellId : String
  planDigest : String
  allocated : Bool
  ref : Option SandboxRef
deriving DecidableEq, Repr

def unresolvedRow (rows : List AccountRecord) : Option UnresolvedJournalAttempt := do
  let intent ← ofKind .intent rows
  if rows.any (fun record => record.kind == .released) then none
  else
    some {
      account := intent.account
      attempt := intent.attempt
      cellId := intent.cellId
      planDigest := intent.planDigest
      allocated := (ofKind .allocated rows).isSome
      ref := allocatedRef rows }

/-- Report ownership still open in a journal snapshot. -/
def unresolvedJournalAttempts (records : List AccountRecord) : List UnresolvedJournalAttempt :=
  (Grouping.groups AccountRecord.attempt records).filterMap fun entry => unresolvedRow entry.2

def reportRow (p : Provenance) (ref : Option SandboxRef) : UnresolvedJournalAttempt :=
  ⟨p.account, p.attempt, p.cellId, p.planDigest, ref.isSome, ref⟩

/-- The attempt of a row was intended, and perhaps allocated, and nothing more. -/
def Reported (held : List AccountRecord) (row : UnresolvedJournalAttempt) : Prop :=
  ∃ p : Provenance, (ofAttempt p.attempt held = [p.record .intent] ∧ row = reportRow p none) ∨
    ∃ ref, Open p ref held ∧ row = reportRow p (some ref)

section
variable {account : String} {held : List AccountRecord}

theorem group_of_mem {attempt : String} {rows : List AccountRecord}
    (mem : (attempt, rows) ∈ Grouping.groups AccountRecord.attempt held) :
    rows = ofAttempt attempt held := Grouping.eq_filter_of_mem_groups mem

/-- On a coherent journal the report names what is open, and nothing else. -/
theorem mem_unresolvedJournalAttempts (coherent : Coherent account held)
    (row : UnresolvedJournalAttempt) :
    row ∈ unresolvedJournalAttempts held ↔ Reported held row := by
  constructor
  · intro mem
    obtain ⟨⟨attempt, rows⟩, grouped, found⟩ := List.mem_filterMap.mp mem
    obtain ⟨p, bodies, -, rfl, story, told⟩ := coherent attempt
    rw [group_of_mem grouped, told] at found
    refine ⟨p, ?_⟩
    cases story with
    | intended => exact .inl ⟨told, (Option.some.inj found).symm⟩
    | allocated ref => exact .inr ⟨ref, told, (Option.some.inj found).symm⟩
    | _ => cases found
  · rintro ⟨p, reported⟩
    have intended : p.record .intent ∈ ofAttempt p.attempt held := by
      rcases reported with ⟨told, -⟩ | ⟨ref, told, -⟩
      · rw [told]
        exact List.mem_cons_self
      · rw [told]
        exact List.mem_cons_self
    obtain ⟨rows, grouped, -⟩ :=
      Grouping.exists_group AccountRecord.attempt (mem_ofAttempt.mp intended).1
    refine List.mem_filterMap.mpr ⟨_, grouped, ?_⟩
    rw [group_of_mem grouped]
    rcases reported with ⟨told, rfl⟩ | ⟨ref, told, rfl⟩
    · exact congrArg unresolvedRow told
    · exact congrArg unresolvedRow told

/-- Nothing is reported once every attempt is released. -/
theorem unresolvedJournalAttempts_released (coherent : Coherent account held)
    (released : ∀ record ∈ held, Released record.attempt held) :
    unresolvedJournalAttempts held = [] := by
  rw [List.eq_nil_iff_forall_not_mem]
  intro row mem
  obtain ⟨p, reported⟩ := (mem_unresolvedJournalAttempts coherent row).mp mem
  rcases reported with ⟨told, -⟩ | ⟨ref, open_, -⟩
  · have intended : p.record .intent ∈ ofAttempt p.attempt held := by
      rw [told]
      exact List.mem_cons_self
    obtain ⟨record, kept, same, kind⟩ := released _ (mem_ofAttempt.mp intended).1
    have mine : record ∈ ofAttempt p.attempt held := mem_ofAttempt.mpr ⟨kept, same⟩
    rw [told, List.mem_singleton] at mine
    rw [mine] at kind
    cases kind
  · exact open_.not_released released

end

/-! ### Sessions -/

section
variable (runtime : Runtime) (clock : Clock) (account : String)

/-- One turn at the account's journal, up to where it stops or dies. -/
inductive Session : List AccountRecord → List AccountRecord → Prop
  | batch {held : List AccountRecord} (setting : Setting) (p : Prepared) {world : World}
      (fresh : ExecuteBatch.Fresh setting p held)
      (reached : ExecuteBatch.Reachable setting p held world) :
      Session held (heldAfter clock account held world.trace)
  | recoverAccount {held : List AccountRecord} (drivers) (rounds : Nat)
      {p : Program Query Answer (Except String Unit)} {t : Site}
      (run : RunsTo clock account (recoverAccount clock rounds account drivers) held p t) :
      Session held t.held
  | recoverAllocatedIntent {held : List AccountRecord} (rounds : Nat) (read) (retained)
      {p : Program Query Answer (Except String SandboxRef)} {t : Site}
      (run : RunsTo clock account (recoverAllocatedIntent clock rounds read retained) held p t) :
      Session held t.held
  | recoverNotAllocatedIntent {held : List AccountRecord} (sources)
      {p : Program Query Answer (Except String String)} {t : Site}
      (run : RunsTo clock account (recoverNotAllocatedIntent clock sources) held p t) :
      Session held t.held
  | recoverExperimentCleanup {held : List AccountRecord} (rounds : Nat) (options)
      {p : Program Query Answer (Except String CleanupRecovery)} {t : Site}
      (run : RunsTo clock account (recoverExperimentCleanup runtime clock rounds options) held p t) :
      Session held t.held

/-- Every journal that sessions one after another can leave behind. -/
abbrev History (held : List AccountRecord) : Prop := Leads (Session runtime clock account) [] held

end

section
variable {runtime : Runtime} {clock : Clock} {account : String} {held held' : List AccountRecord}
  (hash : Function.Injective runtime.sha256)
include hash

theorem Session.intact (intact : Intact clock account held)
    (session : Session runtime clock account held held') : Intact clock account held' := by
  cases session with
  | batch setting p fresh reached => exact batch_intact fresh intact reached
  | recoverAccount drivers rounds run => exact recoverAccount_intact intact run
  | recoverAllocatedIntent rounds read retained run =>
    exact intact.runsTo (maintains_recoverAllocatedIntent rounds read retained) (fun _ _ h => h) run
  | recoverNotAllocatedIntent sources run =>
    exact intact.runsTo (maintains_recoverNotAllocatedIntent sources) (fun _ _ h => h) run
  | recoverExperimentCleanup rounds options run =>
    exact intact.runsTo (maintains_recoverExperimentCleanup hash options rounds intact)
      (fun _ _ h => h) run

/-- Induction on the sessions. -/
theorem History.intact (history : History runtime clock account held) :
    Intact clock account held := by
  induction history with
  | refl => exact Intact.nil
  | tail _ session ih => exact session.intact hash ih

/-- Recovery touches open attempts only, the report lists exactly what is open, and once recovery
has succeeded the report is empty and the next recovery neither destroys nor appends. -/
theorem recovery_settles (history : History runtime clock account held) :
    (∀ row, row ∈ unresolvedJournalAttempts held ↔ Reported held row) ∧
    ∀ drivers rounds, (∀ q next t, RunsTo clock account (recoverAccount clock rounds account drivers)
        held (.ask q next) t → Releasing account drivers t q) ∧
      ∀ t, RunsTo clock account (recoverAccount clock rounds account drivers) held (.done (.ok ())) t →
        unresolvedJournalAttempts t.held = [] ∧
        ∀ drivers' rounds' q next u, RunsTo clock account
          (recoverAccount clock rounds' account drivers') t.held (.ask q next) u →
          q.harmless = true := by
  have intact := history.intact hash
  refine ⟨mem_unresolvedJournalAttempts intact.coherent, fun drivers rounds =>
    ⟨fun q next t run => recoverAccount_asks intact run, fun t run => ?_⟩⟩
  have after := recoverAccount_intact intact run
  have released := recoverAccount_releases intact run
  exact ⟨unresolvedJournalAttempts_released after.coherent released,
    fun drivers' rounds' q next u rerun => recoverAccount_harmless after released rerun⟩

end

/-! ### A batch that dies before its release -/

def sampleRuntime : Runtime :=
  { ExecuteBatch.sampleSetting.runtime with sha256 := id }

def sampleClock : Clock := ⟨fun _ => true, fun _ => none⟩

def samplePrepared : Prepared :=
  { ExecuteBatch.samplePrepared with
    plan := { ExecuteBatch.samplePrepared.plan with
      digest := "sha256:0000000000000000000000000000000000000000000000000000000000000000" } }

def sampleAttempt : Provenance :=
  ExecuteBatch.attemptOf ExecuteBatch.sampleSetting samplePrepared 0 ExecuteBatch.sampleCell

theorem sample_heldAfter : heldAfter sampleClock "e2b" []
    (ExecuteBatch.completedTrace ExecuteBatch.sampleSetting samplePrepared 0
      ExecuteBatch.sampleCell ⟨"e2b", "s1"⟩) =
    [sampleAttempt.record .intent, sampleAttempt.record (.allocated ⟨"e2b", "s1"⟩)] := by
  decide +kernel

theorem sample_history : History sampleRuntime sampleClock "e2b"
    [sampleAttempt.record .intent, sampleAttempt.record (.allocated ⟨"e2b", "s1"⟩)] := by
  have admission : ∃ world : World,
      Leads (ExecuteBatch.Step ExecuteBatch.sampleSetting samplePrepared [])
        (ExecuteBatch.initial ExecuteBatch.sampleSetting samplePrepared) world ∧
      world.stage = .running ∧ world.next = 0 ∧ world.shared = ExecuteBatch.sampleShared ∧
      world.trace = [] := by
    refine ⟨_, ((((Relation.ReflTransGen.refl.tail (.opens "e2b" [] (.obj []) rfl)).tail
      (.readsAccount rfl [] (fun _ h => by cases h))).tail
      (.readsHistory rfl [] (fun _ h => by cases h))).tail (.reconciled rfl)), rfl, rfl, rfl, rfl⟩
  obtain ⟨start, toStart, running, unlaunched, shared, silent⟩ := admission
  have planned : samplePrepared.cells[start.next]? = some ExecuteBatch.sampleCell := by
    rw [unlaunched]
    rfl
  have free : start.pending < samplePrepared.batch.maxConcurrency := by
    rw [World.pending, unlaunched]
    exact Nat.one_pos
  obtain ⟨a, toA, launched⟩ := ExecuteBatch.launch_at ExecuteBatch.sampleSetting [] running planned
    free (by rw [shared]; rfl) (by rw [shared]; exact ExecuteBatch.sample_admitted)
  obtain ⟨t, toT, trace⟩ :=
    ExecuteBatch.attempt_completes ExecuteBatch.sampleSetting [] launched ⟨"e2b", "s1"⟩
  rw [unlaunched, silent, List.append_nil] at trace
  have reached : ExecuteBatch.Reachable ExecuteBatch.sampleSetting samplePrepared [] t :=
    ⟨_, rfl, toStart.trans (toA.trans toT)⟩
  have fresh : ExecuteBatch.Fresh ExecuteBatch.sampleSetting samplePrepared [] := by
    refine ⟨?_, fun _ _ _ _ h => absurd h List.not_mem_nil⟩
    intro i j cell other here there _
    have one : ∀ {k : Nat} {c : ExperimentCell}, samplePrepared.cells[k]? = some c → k = 0 := by
      intro k c found
      obtain ⟨below, -⟩ := List.getElem?_eq_some_iff.mp found
      exact Nat.lt_one_iff.mp below
    rw [one here, one there]
  have left_ : Session sampleRuntime sampleClock "e2b" [] (heldAfter sampleClock "e2b" [] t.trace) :=
    .batch _ _ fresh reached
  rw [trace, sample_heldAfter] at left_
  exact .single left_

theorem recovery_settles_sample : ∃ held : List AccountRecord, held.length = 2 ∧
    reportRow sampleAttempt (some ⟨"e2b", "s1"⟩) ∈ unresolvedJournalAttempts held := by
  refine ⟨_, rfl, ((recovery_settles (fun _ _ same => same) sample_history).1 _).mpr ?_⟩
  exact ⟨sampleAttempt, .inr ⟨_, ExecuteBatch.told_allocated (q := sampleAttempt)
    (sample_history.intact (fun _ _ same => same)).coherent (by simp) (by simp [ExecuteBatch.Lacks,
      AccountRecord.kind, RecordBody.kind]), rfl⟩⟩

end AccountSessions
