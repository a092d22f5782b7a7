import SandboxBenchmarks.AccountRecoverySafety
import SandboxBenchmarks.ExecuteBatchSafety

/-!
# The history a batch leaves

The journal of an account keeps a landed record unless it contradicts what is there.
Wherever a batch stops, what has landed by then continues the story of each attempt:
an intent first, an allocation on top of it, then one release.
-/

namespace ExecuteBatch

open AccountJournal Checks PlanVerification Transition
open AccountRecovery (Intact accountRecordSchema bodySchema)
open ExperimentRecords (Clock)

/-! ### What an attempt's story can still become -/

section
variable {account : String} {held : List AccountRecord} {q : Provenance}

theorem provenance_of_mem {r : Provenance} {bodies : List RecordBody} {body : RecordBody}
    (mem : q.record body ∈ bodies.map r.record) : r = q ∧ body ∈ bodies := by
  obtain ⟨other, inside, same⟩ := List.mem_map.mp mem
  simp only [Provenance.record, AccountRecord.mk.injEq] at same
  obtain ⟨hAccount, hAttempt, hCell, hPlan, rfl⟩ := same
  refine ⟨?_, inside⟩
  cases r
  cases q
  simp_all

/-- The attempt's records of some kind are none. -/
def Lacks (attempt : String) (kind : RecordKind) (held : List AccountRecord) : Prop :=
  ∀ record ∈ held, record.attempt = attempt → record.kind ≠ kind

theorem Lacks.of_story {r : Provenance} {bodies : List RecordBody} {kind : RecordKind}
    (lacks : Lacks q.attempt kind held) (told : ofAttempt q.attempt held = bodies.map r.record) :
    ∀ body ∈ bodies, body.kind ≠ kind := by
  intro body inside
  have mem : r.record body ∈ ofAttempt q.attempt held := told ▸ List.mem_map_of_mem inside
  obtain ⟨kept, same⟩ := mem_ofAttempt.mp mem
  exact lacks _ kept same

/-- An attempt of which nothing but the intent is known. -/
theorem told_intended (coherent : Coherent account held) (intended : q.record .intent ∈ held)
    (unallocated : Lacks q.attempt .allocated held) (unreleased : Lacks q.attempt .released held) :
    ofAttempt q.attempt held = [.intent].map q.record := by
  obtain ⟨r, bodies, -, -, story, told⟩ := coherent q.attempt
  have mem : q.record .intent ∈ bodies.map r.record := by
    rw [← told]
    exact mem_ofAttempt.mpr ⟨intended, rfl⟩
  obtain ⟨rfl, inside⟩ := provenance_of_mem mem
  have noAllocation := unallocated.of_story told
  have noRelease := unreleased.of_story told
  rw [told]
  cases story with
  | untouched => cases inside
  | intended => rfl
  | allocated ref => exact absurd rfl (noAllocation (.allocated ref) (by simp))
  | absent ref recovery => exact absurd rfl (noAllocation (.allocated ref) (by simp))
  | attested ref recovery attests => exact absurd rfl (noAllocation (.allocated ref) (by simp))
  | notAllocated => exact absurd rfl (noRelease .notAllocated (by simp))
  | reconciled evidence => exact absurd rfl (noRelease (.reconciled evidence) (by simp))

theorem told_allocated {ref : SandboxRef} (coherent : Coherent account held)
    (allocated : q.record (.allocated ref) ∈ held) (unreleased : Lacks q.attempt .released held) :
    ofAttempt q.attempt held = [.intent, .allocated ref].map q.record := by
  obtain ⟨r, bodies, -, -, story, told⟩ := coherent q.attempt
  have mem : q.record (.allocated ref) ∈ bodies.map r.record := by
    rw [← told]
    exact mem_ofAttempt.mpr ⟨allocated, rfl⟩
  obtain ⟨rfl, inside⟩ := provenance_of_mem mem
  have noRelease := unreleased.of_story told
  rw [told]
  cases story with
  | allocated other =>
    obtain rfl : ref = other := by simpa using inside
    rfl
  | absent other recovery => exact absurd rfl (noRelease (.absent other recovery) (by simp))
  | attested other recovery attests => exact absurd rfl (noRelease (.absent other none) (by simp))
  | _ => simp at inside

theorem told_nothing (coherent : Coherent account held) {attempt : String}
    (unintended : Lacks attempt .intent held) : ofAttempt attempt held = [] := by
  obtain ⟨r, bodies, -, rfl, story, told⟩ := coherent attempt
  have noIntent := unintended.of_story (q := r) told
  rw [told]
  cases story with
  | untouched => rfl
  | _ => exact absurd rfl (noIntent .intent (by simp))

end

/-! ### The journal after a trace -/

section
variable (clock : Clock) (account : String)

/-- A record of the account, unless the attempt has another of its kind. -/
def accepts (held : List AccountRecord) (record : AccountRecord) : Bool :=
  record.account == account && accountRecordSchema clock record &&
    !held.any fun entry => entry.clashes record

/-- What the journal of the account holds, with the latest event first. -/
def heldAfter (journal : List AccountRecord) : List Event → List AccountRecord
  | [] => journal
  | .landed record :: earlier =>
    let held := heldAfter journal earlier
    if accepts clock account held record then held ++ [record] else held
  | _ :: earlier => heldAfter journal earlier

end

section
variable {clock : Clock} {account : String} {journal : List AccountRecord} {trace : List Event}
  {record entry : AccountRecord}

theorem accepts_iff {held : List AccountRecord} : accepts clock account held record = true ↔
    record.account = account ∧ accountRecordSchema clock record = true ∧
      Lacks record.attempt record.kind held := by
  simp [accepts, Lacks, AccountRecord.clashes, and_assoc]

theorem heldAfter_cons (event : Event) :
    heldAfter clock account journal trace <+: heldAfter clock account journal (event :: trace) := by
  cases event with
  | landed record =>
    rw [heldAfter]
    split
    · exact List.prefix_append _ _
    · exact List.prefix_rfl
  | _ => exact List.prefix_rfl

theorem heldAfter_append (later : List Event) :
    heldAfter clock account journal trace <+: heldAfter clock account journal (later ++ trace) := by
  induction later with
  | nil => exact List.prefix_rfl
  | cons event later ih => exact ih.trans (heldAfter_cons event)

theorem heldAfter_journal : journal <+: heldAfter clock account journal trace := by
  have grows : heldAfter clock account journal [] <+: heldAfter clock account journal (trace ++ []) :=
    heldAfter_append trace
  rwa [List.append_nil] at grows

theorem landed_of_heldAfter (mem : entry ∈ heldAfter clock account journal trace) :
    entry ∈ journal ∨ .landed entry ∈ trace := by
  induction trace with
  | nil => exact .inl mem
  | cons event trace ih =>
    cases event with
    | landed record =>
      rw [heldAfter] at mem
      split at mem
      · rcases List.mem_append.mp mem with before | last
        · exact (ih before).imp_right (List.mem_cons_of_mem _)
        · exact .inr (List.mem_singleton.mp last ▸ List.mem_cons_self)
      · exact (ih mem).imp_right (List.mem_cons_of_mem _)
    | _ => exact (ih mem).imp_right (List.mem_cons_of_mem _)

/-- A landed record is kept when nothing of its kind but itself is. -/
theorem heldAfter_of_landed (landed : .landed record ∈ trace) (ours : record.account = account)
    (valid : accountRecordSchema clock record = true)
    (sole : ∀ entry ∈ heldAfter clock account journal trace, entry.attempt = record.attempt →
      entry.kind = record.kind → entry = record) :
    record ∈ heldAfter clock account journal trace := by
  obtain ⟨later, earlier, rfl⟩ := List.append_of_mem landed
  refine (heldAfter_append later).subset ?_
  rw [heldAfter]
  split
  · exact List.mem_append_right _ List.mem_cons_self
  · rename_i refused
    rw [accepts_iff, not_and, not_and] at refused
    have clash := refused ours valid
    simp only [Lacks, not_forall, not_not] at clash
    obtain ⟨entry, mem, attempt, kind⟩ := clash
    have kept := (heldAfter_append later).subset ((heldAfter_cons (.landed record)).subset mem)
    rwa [← sole entry kept attempt kind]

end

/-! ### Who asked for a record -/

section
variable (setting : Setting) (p : Prepared) (journal : List AccountRecord)

/-- What the cell of an attempt asks the journal to keep, and when. -/
def AskedFor (earlier : List Event) (i : Nat) (cell : ExperimentCell) : RecordBody → Prop
  | .intent => True
  | .allocated ref => .resolved i ref ∈ earlier ∧
      .acknowledged (some i) (recordOf setting p i cell .intent) ∈ earlier
  | .absent _ recovery => recovery = none
  | .notAllocated => ∃ entry, Durable journal earlier entry ∧ entry.kind = .intent ∧
      entry.attempt = attemptId setting i cell
  | .cleanupAttested _ | .reconciled _ => False

/-- Records are asked for by the attempt they are about, or release what recovery found open. -/
def Asks (earlier : List Event) : Event → Prop
  | .asked (some i) record => ∃ cell body, p.cells[i]? = some cell ∧
      record = recordOf setting p i cell body ∧ AskedFor setting p journal earlier i cell body
  | .asked none record => ∃ ref, record.body = .absent ref none
  | .resolved i _ => ∀ ref, .resolved i ref ∉ earlier
  | _ => True

/-- Neither an append nor a session. -/
def Event.plain : Event → Bool
  | .asked _ _ | .resolved _ _ => false
  | _ => true

end

section
variable {setting : Setting} {p : Prepared} {journal : List AccountRecord} {trace : List Event}
  {leavesSandbox : CreateError → Prop}

theorem Asks.plain (asks : Explained (Asks setting p journal) trace) {events : List Event}
    (plain : events.all Event.plain = true) :
    Explained (Asks setting p journal) (events ++ trace) := by
  induction events with
  | nil => exact asks
  | cons event events ih =>
    rw [List.all_cons, Bool.and_eq_true] at plain
    refine ⟨?_, ih plain.2⟩
    cases event with
    | asked owner record => cases plain.1
    | resolved i ref => cases plain.1
    | _ => trivial

theorem close_plain (i : Nat) (cell : ExperimentCell) (cleanup : Cleanup) (run : Run) :
    (close p i cell cleanup run).events.all Event.plain = true := by
  simp only [close]
  split <;> rfl

/-- What one move of a cell asks for. -/
theorem Moves.asks {world : World} {i : Nat} {cell : ExperimentCell} {segment : Segment}
    (sound : world.Sound setting p journal leavesSandbox) (planned : p.cells[i]? = some cell)
    (asks : Explained (Asks setting p journal) world.trace)
    (move : Moves setting p journal world i cell (world.runs i) segment) :
    Explained (Asks setting p journal) (segment.events ++ world.trace) := by
  cases move with
  | createCalled here stop =>
    refine Asks.plain asks ?_
    simp only [callCreate]
    split <;> rfl
  | createRejects here error =>
    refine Asks.plain asks ?_
    simp only [createRejected]
    split <;> rfl
  | createResolves here ref stored =>
    have fresh : ∀ other, .resolved i other ∉ world.trace := by
      intro other mem
      have spent : (world.runs i).creation.spent = true := sound.seen _ mem
      rw [here] at spent
      cases spent
    have started := ((sound.runs i).pending here).1
    obtain ⟨later, earlier, split, why⟩ := sound.why.of_mem ((sound.runs i).started started)
    obtain ⟨other, planned', acked, -⟩ := why
    obtain rfl : other = cell := Option.some.inj (planned'.symm.trans planned)
    have acked' : .acknowledged (some i) (recordOf setting p i other .intent) ∈ world.trace := by
      rw [split]
      exact List.mem_append_right _ (List.mem_cons_of_mem _ acked)
    simp only [createResolved]
    split
    · exact ⟨⟨other, .allocated ref, planned, rfl, List.mem_cons_self, List.mem_cons_of_mem _ acked'⟩,
        fresh, asks⟩
    · exact ⟨trivial, fresh, asks⟩
  | releases here unreadable =>
    simp only [release]
    split
    · exact ⟨⟨cell, .absent _ none, planned, rfl, rfl⟩, asks⟩
    · split
      · exact asks
      · exact Asks.plain asks (close_plain _ _ _ _)
  | journalRead cleanup here records durable =>
    simp only [releaseUnallocated]
    split
    · rename_i found
      rw [List.any_eq_true] at found
      obtain ⟨entry, read, intended⟩ := found
      rw [Bool.and_eq_true, beq_iff_eq, beq_iff_eq] at intended
      exact ⟨⟨cell, .notAllocated, planned, rfl, entry, durable entry read, intended⟩, asks⟩
    · exact Asks.plain asks (close_plain _ _ _ _)
  | absentAcknowledged cleanup ref here allocated durable =>
    refine Asks.plain asks ?_
    simp [close_plain, Event.plain]
  | notAllocatedAcknowledged cleanup here durable =>
    refine Asks.plain asks ?_
    simp [close_plain, Event.plain]
  | absentFails cleanup here failure => exact Asks.plain asks (close_plain _ _ _ _)
  | readFails cleanup here failure => exact Asks.plain asks (close_plain _ _ _ _)
  | notAllocatedFails cleanup here failure => exact Asks.plain asks (close_plain _ _ _ _)
  | _ => exact Asks.plain asks rfl

theorem Step.asks {s t : World} (sound : s.Sound setting p journal leavesSandbox)
    (asks : Explained (Asks setting p journal) s.trace) (step : Step setting p journal s t) :
    Explained (Asks setting p journal) t.trace := by
  cases step with
  | readsAccount here records durable =>
    split
    · exact asks
    · exact asks
  | recovers records rest here =>
    unfold World.recover
    split
    · exact asks
    · exact asks
    · split
      · exact asks
      · exact asks
  | removalObserved intent ref rest here => exact ⟨⟨ref, rfl⟩, trivial, asks⟩
  | launches cell late here planned free =>
    simp only [World.commit, launch]
    split
    · exact asks
    · exact ⟨⟨cell, .intent, planned, rfl, trivial⟩, asks⟩
  | moves i cell segment launched planned move => exact move.asks sound planned asks
  | opens provider rest artifact here => exact asks
  | admissionFails here failure => exact asks
  | readsHistory here records durable => exact asks
  | reconciled here => exact asks
  | recoveryAcknowledged record rest here durable => exact ⟨trivial, asks⟩
  | lands owner record asked => exact ⟨trivial, asks⟩

theorem reachable_asks (contract : ∀ error, error.failedCleanup = false → ¬ leavesSandbox error)
    {world : World} (reached : Reachable setting p journal world) :
    world.Sound setting p journal leavesSandbox ∧ Explained (Asks setting p journal) world.trace := by
  refine reached.invariant (I := fun world => world.Sound setting p journal leavesSandbox ∧
    Explained (Asks setting p journal) world.trace) ?_ ?_
  · rintro _ rfl
    exact ⟨initial_sound, trivial⟩
  · rintro s t ⟨sound, asks⟩ step
    exact ⟨sound.step contract step, step.asks sound asks⟩

end

/-! ### What lands continues a story -/

/-- Attempts have names of their own. -/
structure Fresh (setting : Setting) (p : Prepared) (journal : List AccountRecord) : Prop where
  distinct : ∀ i j cell other, p.cells[i]? = some cell → p.cells[j]? = some other →
    attemptId setting i cell = attemptId setting j other → i = j
  unused : ∀ i cell, p.cells[i]? = some cell → ∀ record ∈ journal,
    record.attempt ≠ attemptId setting i cell

section
variable {setting : Setting} {p : Prepared} {journal : List AccountRecord} {trace : List Event}
  {leavesSandbox : CreateError → Prop} {clock : Clock} {account : String}

def attemptOf (setting : Setting) (p : Prepared) (i : Nat) (cell : ExperimentCell) : Provenance :=
  ⟨cell.quotaDomain, attemptId setting i cell, cell.id, p.plan.digest⟩

theorem recordOf_eq (i : Nat) (cell : ExperimentCell) (body : RecordBody) :
    recordOf setting p i cell body = (attemptOf setting p i cell).record body := rfl

theorem resolved_unique (asks : Explained (Asks setting p journal) trace) {i : Nat}
    {ref other : SandboxRef} (here : .resolved i ref ∈ trace) (there : .resolved i other ∈ trace) :
    ref = other := by
  induction trace with
  | nil => cases here
  | cons event earlier ih =>
    rcases List.mem_cons.mp here with rfl | here'
    · rcases List.mem_cons.mp there with same | there'
      · cases same
        rfl
      · exact absurd there' (asks.1 other)
    · rcases List.mem_cons.mp there with rfl | there'
      · exact absurd here' (asks.1 ref)
      · exact ih asks.2 here' there'

/-- Why a batch has asked the journal to keep a record. -/
inductive Purpose (setting : Setting) (p : Prepared) (journal : List AccountRecord)
    (trace : List Event) : AccountRecord → Prop
  | intent (i : Nat) (cell : ExperimentCell) (planned : p.cells[i]? = some cell) :
      Purpose setting p journal trace (recordOf setting p i cell .intent)
  | allocated (i : Nat) (cell : ExperimentCell) (planned : p.cells[i]? = some cell)
      (ref : SandboxRef) (resolved : .resolved i ref ∈ trace)
      (intended : Durable journal trace (recordOf setting p i cell .intent)) :
      Purpose setting p journal trace (recordOf setting p i cell (.allocated ref))
  | absent (q : Provenance) (ref : SandboxRef)
      (allocated : Durable journal trace (q.record (.allocated ref))) :
      Purpose setting p journal trace (q.record (.absent ref none))
  | notAllocated (i : Nat) (cell : ExperimentCell) (planned : p.cells[i]? = some cell)
      (unresolved : ∀ ref, .resolved i ref ∉ trace) (entry : AccountRecord)
      (intended : Durable journal trace entry) (kind : entry.kind = .intent)
      (attempt : entry.attempt = attemptId setting i cell) :
      Purpose setting p journal trace (recordOf setting p i cell .notAllocated)

theorem record_provenance (record : AccountRecord) :
    ∃ q : Provenance, ∀ body, q.record body = { record with body := body } :=
  ⟨⟨record.account, record.attempt, record.cellId, record.planDigest⟩, fun _ => rfl⟩

/-- No session comes of a create once its attempt is released as not allocated. -/
theorem unresolved_of_notAllocated (why : Explained (Why setting p journal leavesSandbox) trace)
    {later earlier : List Event} {i : Nat} {record : AccountRecord}
    (split : trace = later ++ .asked (some i) record :: earlier)
    (body : record.body = .notAllocated)
    (unheld : .created i ∉ earlier ∨ ∃ error, .rejected i error ∈ earlier) (ref : SandboxRef) :
    .resolved i ref ∉ trace := by
  rcases unheld with uncreated | ⟨error, rejected⟩
  · intro resolved
    obtain ⟨after, before, whole, created, -⟩ := why.of_mem resolved
    have mem : .created i ∈ trace := by
      rw [whole]
      exact List.mem_append_right _ (List.mem_cons_of_mem _ created)
    rw [split] at mem
    rcases List.mem_append.mp mem with above | mem
    · exact not_created_after why split body above
    · rcases List.mem_cons.mp mem with same | below
      · cases same
      · exact uncreated below
  · have listed : .rejected i error ∈ trace := by
      rw [split]
      exact List.mem_append_right _ (List.mem_cons_of_mem _ rejected)
    exact rejected_or_resolved why listed ref

theorem purpose_of_asked (why : Explained (Why setting p journal leavesSandbox) trace)
    (asks : Explained (Asks setting p journal) trace) {owner : Option Nat} {record : AccountRecord}
    (asked : .asked owner record ∈ trace) : Purpose setting p journal trace record := by
  obtain ⟨later, earlier, split, explained⟩ := asks.of_mem asked
  have reason : Why setting p journal leavesSandbox earlier (.asked owner record) :=
    (split ▸ why : Explained _ (later ++ .asked owner record :: earlier)).split
  have up : ∀ event ∈ earlier, event ∈ trace := by
    intro event mem
    rw [split]
    exact List.mem_append_right _ (List.mem_cons_of_mem _ mem)
  have durable : ∀ entry, Durable journal earlier entry → Durable journal trace entry :=
    fun entry h => h.imp_right (up _)
  obtain ⟨q, whole⟩ := record_provenance record
  have absent : ∀ ref, record.body = .absent ref none → Purpose setting p journal trace record := by
    intro ref body
    simp only [Why, body] at reason
    have itself : record = q.record (.absent ref none) := by rw [whole, ← body]
    rw [itself]
    refine .absent q ref (durable _ ?_)
    rw [whole]
    exact reason.1
  cases owner with
  | none =>
    obtain ⟨ref, body⟩ := explained
    exact absent ref body
  | some i =>
    obtain ⟨cell, body, planned, rfl, wanted⟩ := explained
    cases body with
    | intent => exact .intent i cell planned
    | allocated ref =>
      exact .allocated i cell planned ref (up _ wanted.1)
        (durable_of_acknowledged why (up _ wanted.2))
    | absent ref recovery =>
      obtain rfl : recovery = none := wanted
      exact absent ref rfl
    | notAllocated =>
      obtain ⟨entry, intended, kind, attempt⟩ := wanted
      obtain ⟨j, other, same, -, -, unheld⟩ := reason
      obtain rfl := Option.some.inj same
      refine .notAllocated i cell planned ?_ entry (durable _ intended) kind attempt
      refine unresolved_of_notAllocated why split rfl (unheld.imp_right ?_)
      rintro ⟨error, rejected, -⟩
      exact ⟨error, rejected⟩
    | cleanupAttested recovery => cases wanted
    | reconciled evidence => cases wanted

/-- A kept record of a cell's attempt has a purpose of its own. -/
theorem purpose_of_held (fresh : Fresh setting p journal)
    (why : Explained (Why setting p journal leavesSandbox) trace)
    (asks : Explained (Asks setting p journal) trace) {i : Nat} {cell : ExperimentCell}
    (planned : p.cells[i]? = some cell) {entry : AccountRecord}
    (kept : entry ∈ heldAfter clock account journal trace)
    (attempt : entry.attempt = attemptId setting i cell) : Purpose setting p journal trace entry := by
  rcases landed_of_heldAfter kept with before | landed
  · exact absurd attempt (fresh.unused i cell planned entry before)
  · obtain ⟨later, earlier, rfl, owner, asked⟩ := why.of_mem landed
    exact purpose_of_asked why asks (List.mem_append_right _ (List.mem_cons_of_mem _ asked))

theorem Purpose.of_intent {record : AccountRecord} (purpose : Purpose setting p journal trace record)
    (kind : record.kind = .intent) :
    ∃ i cell, p.cells[i]? = some cell ∧ record = recordOf setting p i cell .intent := by
  cases purpose with
  | intent i cell planned => exact ⟨i, cell, planned, rfl⟩
  | _ => cases kind

theorem Purpose.of_allocated {record : AccountRecord}
    (purpose : Purpose setting p journal trace record) (kind : record.kind = .allocated) :
    ∃ i cell ref, p.cells[i]? = some cell ∧ record = recordOf setting p i cell (.allocated ref) ∧
      .resolved i ref ∈ trace := by
  cases purpose with
  | allocated i cell planned ref resolved intended => exact ⟨i, cell, ref, planned, rfl, resolved⟩
  | _ => cases kind

theorem Purpose.of_released {record : AccountRecord}
    (purpose : Purpose setting p journal trace record) (kind : record.kind = .released) :
    (∃ (q : Provenance) (ref : SandboxRef), record = q.record (.absent ref none) ∧
      Durable journal trace (q.record (.allocated ref))) ∨
    ∃ i cell, p.cells[i]? = some cell ∧ record = recordOf setting p i cell .notAllocated ∧
      ∀ ref, .resolved i ref ∉ trace := by
  cases purpose with
  | absent q ref allocated => exact .inl ⟨q, ref, rfl, allocated⟩
  | notAllocated i cell planned unresolved entry intended kind attempt =>
    exact .inr ⟨i, cell, planned, rfl, unresolved⟩
  | _ => cases kind

/-- A record the journal accepts has a provenance it accepts with any other body of its own. -/
theorem accepted_intent {q : Provenance} {body : RecordBody}
    (valid : accountRecordSchema clock (q.record body) = true) :
    accountRecordSchema clock (q.record .intent) = true := by
  simp only [accountRecordSchema, Bool.and_eq_true] at valid ⊢
  exact ⟨valid.1, rfl⟩

theorem accepted_allocated {q : Provenance} {ref : SandboxRef}
    (valid : accountRecordSchema clock (q.record (.absent ref none)) = true) :
    accountRecordSchema clock (q.record (.allocated ref)) = true := by
  simp only [accountRecordSchema, Bool.and_eq_true] at valid ⊢
  refine ⟨valid.1, ?_⟩
  simpa [bodySchema] using valid.2

section
variable (fresh : Fresh setting p journal)
  (why : Explained (Why setting p journal leavesSandbox) trace)
  (asks : Explained (Asks setting p journal) trace)
include fresh why asks

theorem held_intent {i : Nat} {cell : ExperimentCell} (planned : p.cells[i]? = some cell)
    {entry : AccountRecord} (durable : Durable journal trace entry) (kind : entry.kind = .intent)
    (attempt : entry.attempt = attemptId setting i cell) (ours : cell.quotaDomain = account)
    (valid : accountRecordSchema clock (recordOf setting p i cell .intent) = true) :
    recordOf setting p i cell .intent ∈ heldAfter clock account journal trace := by
  have itself : ∀ entry : AccountRecord, Purpose setting p journal trace entry →
      entry.attempt = attemptId setting i cell → entry.kind = .intent →
      entry = recordOf setting p i cell .intent := by
    intro entry purpose attempt kind
    obtain ⟨j, other, planned', rfl⟩ := purpose.of_intent kind
    obtain rfl := fresh.distinct j i other cell planned' planned attempt
    rw [Option.some.inj (planned'.symm.trans planned)]
  rcases durable with before | landed
  · exact absurd attempt (fresh.unused i cell planned entry before)
  · obtain ⟨later, earlier, split, owner, asked⟩ := why.of_mem landed
    have listed : .asked owner entry ∈ trace := by
      rw [split]
      exact List.mem_append_right _ (List.mem_cons_of_mem _ asked)
    obtain rfl := itself entry (purpose_of_asked why asks listed) attempt kind
    refine heldAfter_of_landed landed ours valid ?_
    intro other kept same sort
    exact itself other (purpose_of_held fresh why asks planned kept same) same sort

theorem held_allocated {q : Provenance} {ref : SandboxRef}
    (durable : Durable journal trace (q.record (.allocated ref))) (ours : q.account = account)
    (valid : accountRecordSchema clock (q.record (.allocated ref)) = true) :
    q.record (.allocated ref) ∈ heldAfter clock account journal trace := by
  rcases durable with before | landed
  · exact heldAfter_journal.subset before
  · obtain ⟨later, earlier, split, owner, asked⟩ := why.of_mem landed
    have listed : .asked owner (q.record (.allocated ref)) ∈ trace := by
      rw [split]
      exact List.mem_append_right _ (List.mem_cons_of_mem _ asked)
    obtain ⟨i, cell, ref', planned, same, resolved⟩ :=
      (purpose_of_asked why asks listed).of_allocated rfl
    have attempt : q.attempt = attemptId setting i cell := congrArg AccountRecord.attempt same
    refine heldAfter_of_landed landed ours valid ?_
    intro other kept mine sort
    have whose : other.attempt = attemptId setting i cell := Eq.trans mine attempt
    obtain ⟨j, cell', ref'', planned', rfl, resolved'⟩ :=
      (purpose_of_held fresh why asks planned kept whose).of_allocated sort
    obtain rfl := fresh.distinct j i cell' cell planned' planned whose
    rw [same, Option.some.inj (planned'.symm.trans planned), resolved_unique asks resolved' resolved]

/-- The landing of an accepted record continues the story of its attempt. -/
theorem continues_of_accepted {record : AccountRecord}
    (intact : Intact clock account (heldAfter clock account journal trace))
    (purpose : Purpose setting p journal trace record)
    (accepted : accepts clock account (heldAfter clock account journal trace) record = true) :
    Continues account (heldAfter clock account journal trace) record := by
  obtain ⟨ours, valid, lacks⟩ := accepts_iff.mp accepted
  have coherent := intact.coherent
  cases purpose with
  | intent i cell planned =>
    obtain rfl : cell.quotaDomain = account := ours
    have told : ofAttempt (attemptOf setting p i cell).attempt
        (heldAfter clock cell.quotaDomain journal trace) = [] := told_nothing coherent lacks
    exact continues_of_story (attemptOf setting p i cell) [] told .intended
  | allocated i cell planned ref resolved intended =>
    obtain rfl : cell.quotaDomain = account := ours
    have base : accountRecordSchema clock (recordOf setting p i cell .intent) = true :=
      @accepted_intent _ (attemptOf setting p i cell) (.allocated ref) valid
    have kept : recordOf setting p i cell .intent ∈ heldAfter clock cell.quotaDomain journal trace :=
      held_intent fresh why asks planned intended rfl rfl rfl base
    have unreleased : Lacks (attemptOf setting p i cell).attempt .released
        (heldAfter clock cell.quotaDomain journal trace) := by
      intro entry mem mine kind
      rcases (purpose_of_held fresh why asks planned mem mine).of_released kind with
        ⟨q, other, rfl, durable⟩ | ⟨j, cell', planned', rfl, unresolved⟩
      · have there := held_allocated fresh why asks durable (coherent.owned mem)
          (accepted_allocated (intact.accepted _ mem))
        exact lacks _ there mine rfl
      · obtain rfl := fresh.distinct j i cell' cell planned' planned mine
        exact unresolved ref resolved
    have told := told_intended (q := attemptOf setting p i cell) coherent kept lacks unreleased
    exact continues_of_story (attemptOf setting p i cell) [.intent] told (.allocated ref)
  | absent q ref allocated =>
    obtain rfl : q.account = account := ours
    have kept := held_allocated fresh why asks allocated rfl (accepted_allocated valid)
    have told := told_allocated coherent kept lacks
    exact continues_of_story q [.intent, .allocated ref] told (.absent ref none)
  | notAllocated i cell planned unresolved entry intended kind attempt =>
    obtain rfl : cell.quotaDomain = account := ours
    have base : accountRecordSchema clock (recordOf setting p i cell .intent) = true :=
      @accepted_intent _ (attemptOf setting p i cell) .notAllocated valid
    have kept : recordOf setting p i cell .intent ∈ heldAfter clock cell.quotaDomain journal trace :=
      held_intent fresh why asks planned intended kind attempt rfl base
    have unallocated : Lacks (attemptOf setting p i cell).attempt .allocated
        (heldAfter clock cell.quotaDomain journal trace) := by
      intro other mem mine sort
      obtain ⟨j, cell', ref, planned', rfl, resolved⟩ :=
        (purpose_of_held fresh why asks planned mem mine).of_allocated sort
      obtain rfl := fresh.distinct j i cell' cell planned' planned mine
      exact unresolved ref resolved
    have told := told_intended (q := attemptOf setting p i cell) coherent kept unallocated lacks
    exact continues_of_story (attemptOf setting p i cell) [.intent] told .notAllocated

end

/-- Induction on the trace: wherever a batch stops, its account's journal is intact. -/
theorem intact_heldAfter (fresh : Fresh setting p journal) (intact : Intact clock account journal)
    (why : Explained (Why setting p journal leavesSandbox) trace)
    (asks : Explained (Asks setting p journal) trace) :
    Intact clock account (heldAfter clock account journal trace) := by
  induction trace with
  | nil => exact intact
  | cons event earlier ih =>
    have before := ih why.2 asks.2
    cases event with
    | landed record =>
      rw [heldAfter]
      split
      · rename_i accepted
        obtain ⟨owner, asked⟩ := why.1
        have purpose := purpose_of_asked why.2 asks.2 asked
        refine ⟨before.coherent.append
          (continues_of_accepted fresh why.2 asks.2 before purpose accepted), ?_⟩
        intro entry mem
        rcases List.mem_append.mp mem with kept | last
        · exact before.accepted entry kept
        · rw [List.mem_singleton.mp last]
          exact (accepts_iff.mp accepted).2.1
      · exact before
    | _ => exact before

/-- A batch may stop in any state it can reach. -/
theorem batch_intact {world : World} (fresh : Fresh setting p journal)
    (intact : Intact clock account journal) (reached : Reachable setting p journal world) :
    Intact clock account (heldAfter clock account journal world.trace) := by
  have sound : world.Sound setting p journal (fun error => error.failedCleanup = true) ∧
      Explained (Asks setting p journal) world.trace := by
    refine reachable_asks ?_ reached
    intro error settled leaves
    rw [settled] at leaves
    cases leaves
  exact intact_heldAfter fresh intact sound.1.why sound.2

end

end ExecuteBatch
