import SandboxBenchmarks.AccountRecovery

/-!
# Recovery keeps the journal coherent

Recovery is served by the journal of one account. A read returns its records, and an
append adds an accepted record at most once: it has landed when its caller hears of
success, and may have landed when its caller sees an error.
-/

namespace AccountRecovery

open AccountJournal Checks ExperimentRecords Interaction
open AccountReconciliation (Observation SandboxDriver)

/-- The journal of the account, and what a run has asked and been told. -/
structure Site where
  held : List AccountRecord
  events : Events

section
variable (clock : Clock) (account : String)

/-- What an answer may do to the records of the account; `after` is what it leaves. -/
def Effect (held after : List AccountRecord) : (q : Query) → Answer q → Prop
  | .await (.read other), answer =>
    after = held ∧ (other = account → ∀ records, answer = .ok records → records = held)
  | .await (.append record), answer =>
    if record.account = account then
      after = held ++ [record] ∧ accountRecordSchema clock record = true ∨
        after = held ∧ answer ≠ .ok ()
    else after = held
  | _, _ => after = held

/-- The journal and everything else outside the run. -/
def served : Service Site Query Answer := fun s q answer t =>
  t.events = s.events ++ [⟨q, answer⟩] ∧ Effect clock account s.held t.held q answer

/-- The records are accepted, and tell a story of every attempt. -/
structure Intact (held : List AccountRecord) : Prop where
  coherent : Coherent account held
  accepted : ∀ record ∈ held, accountRecordSchema clock record = true

/-- Records appended to the account continue the story of their attempt. -/
def Careful (s : Site) (q : Query) : Prop :=
  ∀ record, q = .await (.append record) → record.account = account → Continues account s.held record

end

section
variable {clock : Clock} {account : String} {guard : Site → Query → Prop} {s t : Site}

theorem Intact.nil : Intact clock account [] := ⟨.nil account, nofun⟩

theorem Intact.step {q : Query} {answer : Answer q} (intact : Intact clock account s.held)
    (careful : Careful account s q) (step : served clock account s q answer t) :
    Intact clock account t.held := by
  obtain ⟨-, effect⟩ := step
  cases q with
  | await operation =>
    cases operation with
    | append record =>
      simp only [Effect] at effect
      split at effect
      · rename_i ours
        rcases effect with ⟨lands, accepted⟩ | ⟨same, -⟩
        · rw [lands]
          refine ⟨intact.coherent.append (careful record rfl ours), ?_⟩
          intro entry member
          rcases List.mem_append.mp member with before | last
          · exact intact.accepted entry before
          · exact List.mem_singleton.mp last ▸ accepted
        · rwa [same]
      · rwa [effect]
    | read other => exact effect.1 ▸ intact
    | _ =>
      have same : t.held = s.held := effect
      rwa [same]
  | _ =>
    have same : t.held = s.held := effect
    rwa [same]

/-! ### One operation -/

/-- Something the run waited for did not come, or its signal was aborted. -/
def Failed (events : Events) : Prop :=
  (∃ operation error, (⟨.await operation, .error error⟩ : Sigma Answer) ∈ events) ∨
    ∃ reason, (⟨.aborted, some reason⟩ : Sigma Answer) ∈ events

theorem Failed.mono {events events' : Events} (failed : Failed events)
    (extends_ : events <+: events') : Failed events' := by
  rcases failed with ⟨operation, error, event⟩ | ⟨reason, event⟩
  · exact .inl ⟨operation, error, extends_.subset event⟩
  · exact .inr ⟨reason, extends_.subset event⟩

/-- The journal is as before, and an error came from outside. -/
structure Steady {α : Type} (s t : Site) (r : Except String α) : Prop where
  held : t.held = s.held
  events : s.events <+: t.events
  failed : ∀ e, r = .error e → Failed t.events

theorem Steady.trans {u : Site} {α β : Type} {a : α} {r : Except String β}
    (first : Steady s t (.ok a : Except String α)) (then_ : Steady t u r) : Steady s u r :=
  ⟨then_.held.trans first.held, first.events.trans then_.events, then_.failed⟩

theorem Steady.raise {α β : Type} {e : String} (failed : Steady s t (.error e : Except String α)) :
    Steady s t (.error e : Except String β) :=
  ⟨failed.held, failed.events, fun _ _ => failed.failed e rfl⟩

/-- Neither an append nor a destruction. -/
def Operation.harmless : Operation → Bool
  | .append _ | .destroyById _ _ => false
  | _ => true

def Query.harmless : Query → Bool
  | .await operation => operation.harmless
  | _ => true

/-- The guard has something to say of appends and destructions only. -/
def Lenient (guard : Site → Query → Prop) : Prop := ∀ s q, q.harmless = true → guard s q

theorem steady_throwIfAborted (lenient : Lenient guard) :
    Maintains (served clock account) guard (Steady s) throwIfAborted s := by
  rw [throwIfAborted, maintains_question]
  refine ⟨lenient _ _ rfl, ?_⟩
  rintro (_ | reason) t ⟨events, held⟩
  · exact ⟨held, events ▸ List.prefix_append _ _, nofun⟩
  · refine ⟨held, events ▸ List.prefix_append _ _, fun _ _ => .inr ⟨reason, ?_⟩⟩
    simp [events]

/-- What is known after an operation that is no append. -/
structure Answered (clock : Clock) (account : String) (operation : Operation) (s t : Site)
    (r : Except String operation.Result) : Prop extends Steady s t r where
  told : ∀ value, r = .ok value → (⟨.await operation, .ok value⟩ : Sigma Answer) ∈ t.events
  effect : ∀ value, r = .ok value → Effect clock account s.held t.held (.await operation) (.ok value)

theorem answered_awaiting {operation : Operation} (allowed : guard s (.await operation))
    (other : ∀ record, operation = .append record → False) :
    Maintains (served clock account) guard (Answered clock account operation s)
      (awaiting operation) s := by
  rw [awaiting, maintains_question]
  refine ⟨allowed, ?_⟩
  rintro answer t ⟨events, effect⟩
  have last : (⟨.await operation, answer⟩ : Sigma Answer) ∈ t.events := by simp [events]
  have held : t.held = s.held := by
    cases operation with
    | append record => exact (other record rfl).elim
    | read name => exact effect.1
    | _ => exact effect
  refine ⟨⟨held, events ▸ List.prefix_append _ _, ?_⟩, ?_, ?_⟩
  · rintro e rfl
    exact .inl ⟨operation, e, last⟩
  · rintro value rfl
    exact last
  · rintro value rfl
    exact effect

theorem answered_harmless (lenient : Lenient guard) {operation : Operation}
    (harmless : operation.harmless = true) :
    Maintains (served clock account) guard (Answered clock account operation s)
      (awaiting operation) s := by
  refine answered_awaiting (lenient _ _ harmless) ?_
  rintro record rfl
  cases harmless

theorem answered_withinSignal (lenient : Lenient guard) {operation : Operation}
    (harmless : operation.harmless = true) :
    Maintains (served clock account) guard (Answered clock account operation s)
      (withinSignal operation) s := by
  refine (steady_throwIfAborted lenient).bind (fun t e h => ⟨h.raise, nofun, nofun⟩) ?_
  intro t _ first
  refine (steady_throwIfAborted lenient).bind ?_ ?_
  · intro u e second
    exact ⟨first.trans second.raise, nofun, nofun⟩
  · intro u _ second
    refine (answered_harmless lenient harmless).mono ?_
    intro v r last
    refine ⟨first.trans (second.trans last.toSteady), last.told, ?_⟩
    rw [← first.held, ← second.held]
    exact last.effect

/-- What is known after an append. -/
structure Appended (clock : Clock) (account : String) (record : AccountRecord) (s t : Site)
    (r : Except String Unit) : Prop where
  events : s.events <+: t.events
  failed : ∀ e, r = .error e → Failed t.events
  lands : r = .ok () → record.account = account →
    t.held = s.held ++ [record] ∧ accountRecordSchema clock record = true

theorem appended_withinSignal (lenient : Lenient guard) {record : AccountRecord}
    (allowed : ∀ t : Site, t.held = s.held → s.events <+: t.events →
      guard t (.await (.append record))) :
    Maintains (served clock account) guard (Appended clock account record s)
      (withinSignal (.append record)) s := by
  refine (steady_throwIfAborted lenient).bind (fun t e h => ⟨h.events, h.failed, nofun⟩) ?_
  intro t _ first
  refine (steady_throwIfAborted lenient).bind ?_ ?_
  · intro u e second
    exact ⟨first.events.trans second.events, second.failed, nofun⟩
  · intro u _ second
    rw [awaiting, maintains_question]
    have before : s.events <+: u.events := first.events.trans second.events
    refine ⟨allowed u (second.held.trans first.held) before, ?_⟩
    rintro answer v ⟨events, effect⟩
    refine ⟨before.trans (events ▸ List.prefix_append _ _), ?_, ?_⟩
    · rintro e rfl
      exact .inl ⟨.append record, e, by simp [events]⟩
    · rintro rfl ours
      simpa [Effect, ours, second.held, first.held] using effect

/-! ### Removing a sandbox -/

/-- The driver reported the sandbox as not running. -/
def Observed (driver : SandboxDriver) (ref : SandboxRef) (events : Events) : Prop :=
  ∃ observation, observation ≠ .running ∧
    (⟨.await (.observe driver ref), .ok observation⟩ : Sigma Answer) ∈ events

structure Removed (driver : SandboxDriver) (ref : SandboxRef) (s t : Site) (r : Except String Unit) :
    Prop extends Steady s t r where
  observed : r = .ok () → Observed driver ref t.events

theorem Steady.removed {u : Site} {α : Type} {a : α} {driver : SandboxDriver} {ref : SandboxRef}
    {r : Except String Unit} (first : Steady s t (.ok a : Except String α))
    (then_ : Removed driver ref t u r) : Removed driver ref s u r :=
  ⟨first.trans then_.toSteady, then_.observed⟩

theorem Steady.unremoved {driver : SandboxDriver} {ref : SandboxRef} {α : Type} {e : String}
    (failed : Steady s t (.error e : Except String α)) :
    Removed driver ref s t (.error e) :=
  ⟨failed.raise, nofun⟩

theorem Answered.observed {driver : SandboxDriver} {ref : SandboxRef} {observation : Observation}
    (answered : Answered clock account (.observe driver ref) s t (.ok observation))
    (gone : observation ≠ .running) : Removed driver ref s t (.ok ()) :=
  ⟨⟨answered.held, answered.events, nofun⟩, fun _ => ⟨observation, gone, answered.told _ rfl⟩⟩

theorem removed_awaitRemoval (lenient : Lenient guard) (driver : SandboxDriver) (ref : SandboxRef)
    (rounds : Nat) :
    Maintains (served clock account) guard (Removed driver ref s)
      (awaitRemoval driver ref rounds) s := by
  induction rounds generalizing s with
  | zero => exact maintains_cut
  | succ rounds ih =>
    rw [awaitRemoval]
    refine (steady_throwIfAborted lenient).bind (fun t e h => h.unremoved) ?_
    intro t _ silent
    refine (answered_harmless lenient rfl).bind (fun u e h => silent.removed h.unremoved) ?_
    intro u observation seen
    split
    · refine (steady_throwIfAborted lenient).bind
        (fun v e h => silent.removed (seen.removed h.unremoved)) ?_
      intro v _ quiet
      refine (answered_harmless lenient rfl).bind
        (fun w e h => silent.removed (seen.removed (quiet.removed h.unremoved))) ?_
      intro w _ paused
      refine ih.mono ?_
      intro x r later
      exact silent.removed (seen.removed (quiet.removed (paused.removed later)))
    · rename_i gone
      exact silent.removed (seen.observed gone)

theorem removed_confirmRemoval (lenient : Lenient guard) {driver : SandboxDriver}
    (able : (driver.probes && driver.destroyById) = true) {ref : SandboxRef}
    (allowed : ∀ t : Site, t.held = s.held → guard t (.await (.destroyById driver ref)))
    (rounds : Nat) : Maintains (served clock account) guard (Removed driver ref s)
      (confirmRemoval rounds driver ref) s := by
  rw [confirmRemoval]
  refine maintains_computed_bind ?_ ?_
  · simp [able]
  · intro _ _
    refine (steady_throwIfAborted lenient).bind (fun t e h => h.unremoved) ?_
    intro t _ silent
    refine (answered_harmless lenient rfl).bind (fun u e h => silent.removed h.unremoved) ?_
    intro u observation seen
    split
    · refine (steady_throwIfAborted lenient).bind
        (fun v e h => silent.removed (seen.removed h.unremoved)) ?_
      intro v _ quiet
      have same : v.held = s.held := quiet.held.trans (seen.held.trans silent.held)
      refine (answered_awaiting (allowed v same) (fun _ same => by cases same)).bind
        (fun w e h => silent.removed (seen.removed (quiet.removed h.unremoved))) ?_
      intro w _ destroyed
      refine (removed_awaitRemoval lenient driver ref rounds).mono ?_
      intro x r later
      exact silent.removed (seen.removed (quiet.removed (destroyed.removed later)))
    · rename_i gone
      exact silent.removed (seen.observed gone)

/-! ### Recovering an account -/

/-- Some record of the attempt releases it. -/
def Released (attempt : String) (held : List AccountRecord) : Prop :=
  ∃ record ∈ held, record.attempt = attempt ∧ record.kind = .released

/-- The attempt is intended and allocated, and not released. -/
def Open (p : Provenance) (ref : SandboxRef) (held : List AccountRecord) : Prop :=
  ofAttempt p.attempt held = [p.record .intent, p.record (.allocated ref)]

/-- Recovery destroys sandboxes of open attempts only, and appends nothing but the release of an
open attempt whose sandbox it has observed to be gone. -/
def Releasing (account : String) (drivers : List (String × SandboxDriver)) (s : Site) :
    Query → Prop
  | .await (.append record) => ∃ p ref driver, p.account = account ∧ Open p ref s.held ∧
      record = p.record (.absent ref none) ∧ recoveryDriver drivers ref = some driver ∧
      Observed driver ref s.events
  | .await (.destroyById driver ref) => ∃ p : Provenance, p.account = account ∧ Open p ref s.held ∧
      recoveryDriver drivers ref = some driver
  | _ => True

/-- What keeps an account from being recovered. -/
def Blocked (drivers : List (String × SandboxDriver)) (s : Site) : Prop :=
  (∃ intent ∈ s.held, intent.kind = .intent ∧
    ∀ record ∈ s.held, record.attempt = intent.attempt → record = intent) ∨
  Failed s.events ∨
  ∃ record ∈ s.held, ∃ ref, record.body = .allocated ref ∧ recoveryDriver drivers ref = none

/-- The attempts recovery still has to look at; all others are released. -/
structure Pending (clock : Clock) (account : String) (attempts : List (String × List AccountRecord))
    (s : Site) : Prop where
  intact : Intact clock account s.held
  nodup : (attempts.map Prod.fst).Nodup
  groups : ∀ entry ∈ attempts, entry.2 = ofAttempt entry.1 s.held ∧ entry.2 ≠ []
  others : ∀ record ∈ s.held,
    record.attempt ∈ attempts.map Prod.fst ∨ Released record.attempt s.held

/-- Either so many attempts are left to look at, or recovery is blocked. -/
def Leaves (clock : Clock) (account : String) (drivers : List (String × SandboxDriver))
    (attempts : List (String × List AccountRecord)) (s : Site) : Except String Unit → Prop
  | .ok () => Pending clock account attempts s
  | .error _ => Blocked drivers s

theorem lenient_releasing (drivers : List (String × SandboxDriver)) :
    Lenient (Releasing account drivers) := by
  intro s q harmless
  cases q with
  | await operation => cases operation <;> first | exact trivial | cases harmless
  | _ => exact trivial

theorem Open.continues {p : Provenance} {ref : SandboxRef} {held : List AccountRecord}
    (hAccount : p.account = account) (open_ : Open p ref held) (recovery : Option CleanupRecovery) :
    Continues account held (p.record (.absent ref recovery)) :=
  hAccount ▸ continues_of_story p [.intent, .allocated ref] open_ (.absent ref recovery)

theorem Releasing.careful {drivers : List (String × SandboxDriver)} {q : Query}
    (releasing : Releasing account drivers s q) : Careful account s q := by
  rintro record rfl _
  obtain ⟨p, ref, driver, hAccount, open_, rfl, -⟩ := releasing
  exact open_.continues hAccount none

section
variable {drivers : List (String × SandboxDriver)} {attempts : List (String × List AccountRecord)}

theorem Pending.of_held (pending : Pending clock account attempts s) (same : t.held = s.held) :
    Pending clock account attempts t := by
  obtain ⟨intact, nodup, groups, others⟩ := pending
  exact ⟨same ▸ intact, nodup, same ▸ groups, same ▸ others⟩

theorem Released.append {attempt : String} {held : List AccountRecord}
    (released : Released attempt held) (record : AccountRecord) :
    Released attempt (held ++ [record]) := by
  obtain ⟨entry, member, same, kind⟩ := released
  exact ⟨entry, List.mem_append_left _ member, same, kind⟩

/-- A released attempt needs no more attention. -/
theorem Pending.skip {attempt : String} {records : List AccountRecord}
    (pending : Pending clock account ((attempt, records) :: attempts) s)
    (released : Released attempt s.held) : Pending clock account attempts s where
  intact := pending.intact
  nodup := (List.nodup_cons.mp pending.nodup).2
  groups entry member := pending.groups entry (List.mem_cons_of_mem _ member)
  others record member := by
    rcases pending.others record member with waiting | done
    · rcases List.mem_cons.mp waiting with same | later
      · exact .inr (same ▸ released)
      · exact .inl later
    · exact .inr done

theorem Pending.release {records : List AccountRecord} {record : AccountRecord}
    (pending : Pending clock account ((record.attempt, records) :: attempts) s)
    (lands : t.held = s.held ++ [record]) (kind : record.kind = .released)
    (intact : Intact clock account t.held) : Pending clock account attempts t where
  intact := intact
  nodup := (List.nodup_cons.mp pending.nodup).2
  groups entry member := by
    have apart : record.attempt ≠ entry.1 := by
      intro same
      exact (List.nodup_cons.mp pending.nodup).1 (List.mem_map.mpr ⟨entry, member, same.symm⟩)
    rw [lands, ofAttempt_append, ofAttempt_singleton_other apart, List.append_nil]
    exact pending.groups entry (List.mem_cons_of_mem _ member)
  others entry member := by
    rw [lands] at member ⊢
    have now : Released record.attempt (s.held ++ [record]) := ⟨record, by simp, rfl, kind⟩
    rcases List.mem_append.mp member with before | last
    · rcases pending.others entry before with waiting | done
      · rcases List.mem_cons.mp waiting with same | later
        · exact .inr (same ▸ now)
        · exact .inl later
      · exact .inr (done.append record)
    · rw [List.mem_singleton.mp last]
      exact .inr now

theorem blocked_of_unresolved {attempt : String} (unresolved : Unresolved (ofAttempt attempt s.held)) :
    Blocked drivers s := by
  obtain ⟨intent, only, kind⟩ := unresolved
  have mine : intent ∈ ofAttempt attempt s.held := by simp [only]
  obtain ⟨member, rfl⟩ := mem_ofAttempt.mp mine
  refine .inl ⟨intent, member, kind, ?_⟩
  intro record found same
  have here : record ∈ ofAttempt intent.attempt s.held := mem_ofAttempt.mpr ⟨found, same⟩
  rw [only] at here
  exact List.mem_singleton.mp here

/-- Removing an allocated sandbox and closing its attempt. -/
theorem maintains_close {p : Provenance} {ref : SandboxRef} {records : List AccountRecord}
    (rounds : Nat) {driver : SandboxDriver} (hAccount : p.account = account)
    (pending : Pending clock account ((p.attempt, records) :: attempts) s)
    (open_ : Open p ref s.held)
    (found : recoveryDriver drivers ref = some driver) :
    Maintains (served clock account) (Releasing account drivers)
      (Leaves clock account drivers attempts)
      (do
        confirmRemoval rounds driver ref
        withinSignal (.append (absentRecord (p.record .intent) ref)) : Recovering Unit) s := by
  have able : (driver.probes && driver.destroyById) = true := by
    rw [recoveryDriver, Option.filter_eq_some_iff, Bool.and_comm] at found
    exact found.2
  refine (removed_confirmRemoval (lenient_releasing drivers) able ?_ rounds).bind
    (fun t e h => .inr (.inl (h.failed e rfl))) ?_
  · intro t same
    exact ⟨p, hAccount, same ▸ open_, found⟩
  intro t _ removed
  obtain ⟨observation, gone, seen⟩ := removed.observed rfl
  refine (appended_withinSignal (lenient_releasing drivers) ?_).mono ?_
  · intro u held events
    refine ⟨p, ref, driver, hAccount, ?_, rfl, found, observation, gone, events.subset seen⟩
    exact (held.trans removed.held) ▸ open_
  · rintro u (e | ⟨⟩) appended
    · exact .inr (.inl (appended.failed e rfl))
    · obtain ⟨lands, accepted⟩ := appended.lands rfl hAccount
      have pending' : Pending clock account ((p.attempt, records) :: attempts) t :=
        pending.of_held removed.held
      refine pending'.release lands rfl ⟨?_, ?_⟩
      · rw [lands]
        have still : Open p ref t.held := removed.held ▸ open_
        exact pending'.intact.coherent.append (still.continues hAccount none)
      · intro record member
        rw [lands] at member
        rcases List.mem_append.mp member with before | last
        · exact pending'.intact.accepted record before
        · exact List.mem_singleton.mp last ▸ accepted

/-- Recovery of the next attempt leaves it released, or is blocked. -/
theorem maintains_recoverAttempt {attempt : String} {records : List AccountRecord} {rounds : Nat}
    (pending : Pending clock account ((attempt, records) :: attempts) s) :
    Maintains (served clock account) (Releasing account drivers)
      (Leaves clock account drivers attempts) (recoverAttempt rounds drivers records) s := by
  obtain ⟨group, nonempty⟩ := pending.groups (attempt, records) List.mem_cons_self
  rw [recoverAttempt]
  refine (steady_throwIfAborted (lenient_releasing drivers)).bind
    (fun t e h => .inr (.inl (h.failed e rfl))) ?_
  intro t _ silent
  replace pending : Pending clock account ((attempt, records) :: attempts) t :=
    pending.of_held silent.held
  replace group : records = ofAttempt attempt t.held := silent.held ▸ group
  have tells := pending.intact.coherent attempt
  rw [← group] at tells
  rcases tells.interrupted nonempty with ⟨e, judged, unresolved⟩ |
    ⟨p, ref, hAccount, rfl, whole, judged⟩ | ⟨judged, released⟩
  · rw [judged]
    exact blocked_of_unresolved (group ▸ unresolved)
  · rw [judged]
    refine maintains_computed_bind (fun _ h => by cases h) ?_
    rintro _ ⟨⟩
    refine maintains_computed_bind ?_ ?_
    · intro e missing
      refine .inr (.inr ⟨p.record (.allocated ref), ?_, ref, rfl, ?_⟩)
      · have mine : p.record (.allocated ref) ∈ records := by
          rw [whole]
          simp
        exact (mem_ofAttempt.mp (group ▸ mine)).1
      · cases found : recoveryDriver drivers ref with
        | none => rfl
        | some driver => simp [require, found] at missing
    · intro driver found
      exact maintains_close rounds hAccount pending (group.symm.trans whole)
        (require_eq_ok.mp found)
  · rw [judged]
    refine maintains_computed_bind (fun _ h => by cases h) ?_
    rintro _ ⟨⟩
    obtain ⟨record, member, kind⟩ := released
    obtain ⟨inside, same⟩ := mem_ofAttempt.mp (group ▸ member)
    exact pending.skip ⟨record, inside, same, kind⟩

/-- Induction on the attempts still to be looked at. -/
theorem maintains_recoverAttempts {rounds : Nat} (pending : Pending clock account attempts s) :
    Maintains (served clock account) (Releasing account drivers)
      (Leaves clock account drivers [])
      (recoverAttempts rounds drivers (attempts.map Prod.snd)) s := by
  induction attempts generalizing s with
  | nil => exact pending
  | cons entry attempts ih =>
    obtain ⟨attempt, records⟩ := entry
    exact (maintains_recoverAttempt pending).bind (fun t e blocked => blocked)
      fun t _ pending => ih pending

theorem foldlM_readRecord {records : List AccountRecord}
    (accepted : ∀ record ∈ records, accountRecordSchema clock record = true)
    (attempts : List (String × List AccountRecord)) :
    records.foldlM (readRecord clock account) attempts =
      records.foldlM (fileRecord account) attempts := by
  induction records generalizing attempts with
  | nil => rfl
  | cons record records ih =>
    rw [List.forall_mem_cons] at accepted
    have same : readRecord clock account attempts record = fileRecord account attempts record := by
      simp [readRecord, assertRecord, throwIf, accepted.1]
    rw [List.foldlM_cons, List.foldlM_cons, same]
    exact bind_congr fun next => ih accepted.2 next

/-- Recovery of an account with a coherent journal releases every attempt, or is blocked. -/
theorem maintains_recoverAccount {rounds : Nat} (intact : Intact clock account s.held) :
    Maintains (served clock account) (Releasing account drivers)
      (Leaves clock account drivers [])
      (recoverAccount clock rounds account drivers) s := by
  rw [recoverAccount]
  refine (answered_withinSignal (lenient_releasing drivers) rfl).bind
    (fun t e h => .inr (.inl (h.failed e rfl))) ?_
  intro t records read
  have whole : records = s.held := (read.effect records rfl).2 rfl records rfl
  subst whole
  obtain ⟨attempts, filed, grouped⟩ := intact.coherent.fileRecords
  rw [foldlM_readRecord intact.accepted, ← AccountJournal.fileRecords, filed]
  refine maintains_computed_bind nofun ?_
  rintro _ ⟨⟩
  refine maintains_recoverAttempts (Pending.of_held ?_ read.held)
  exact {
    intact := intact
    nodup := grouped.nodup
    groups := fun entry member => grouped.found _ _ (Keyed.get?_of_mem grouped.nodup member)
    others := fun record member => .inl (grouped.all record member) }

end

/-! ### Runs -/

/-- The run of a program on a journal, up to where it may stop or die. -/
abbrev RunsTo (clock : Clock) (account : String) {α : Type} (x : Recovering α)
    (held : List AccountRecord) (p : Program Query Answer (Except String α)) (t : Site) : Prop :=
  Transition.Leads (Program.Serves (served clock account)) (x.run, ⟨held, []⟩) (p, t)

variable {drivers : List (String × SandboxDriver)} {rounds : Nat} {held : List AccountRecord}

/-- Programs that only continue stories keep the journal intact wherever they stop. -/
theorem Intact.runsTo {α : Type} {x : Recovering α} {p : Program Query Answer (Except String α)}
    {post : Site → Except String α → Prop} (intact : Intact clock account held)
    (keeps : Maintains (served clock account) guard post x ⟨held, []⟩)
    (careful : ∀ s q, guard s q → Careful account s q) (run : RunsTo clock account x held p t) :
    Intact clock account t.held := by
  refine keeps.invariant (fun s => Intact clock account s.held) ?_ run intact
  intro s q answer t before asked step
  exact before.step (careful s q asked) step

section
variable (intact : Intact clock account held)
include intact

theorem recoverAccount_intact {p : Program Query Answer (Except String Unit)}
    (run : RunsTo clock account (recoverAccount clock rounds account drivers) held p t) :
    Intact clock account t.held :=
  intact.runsTo (maintains_recoverAccount intact) (fun _ _ releasing => releasing.careful) run

theorem recoverAccount_asks {q : Query} {next : Answer q → Program Query Answer (Except String Unit)}
    (run : RunsTo clock account (recoverAccount clock rounds account drivers) held (.ask q next) t) :
    Releasing account drivers t q :=
  Maintains.asks (maintains_recoverAccount intact) run

theorem recoverAccount_fails {e : String}
    (run : RunsTo clock account (recoverAccount clock rounds account drivers) held
      (.done (.error e)) t) : Blocked drivers t :=
  Maintains.returns (maintains_recoverAccount intact) run

/-- Once an account is recovered, every attempt in its journal is released. -/
theorem recoverAccount_releases
    (run : RunsTo clock account (recoverAccount clock rounds account drivers) held
      (.done (.ok ())) t) : ∀ record ∈ t.held, Released record.attempt t.held := by
  have pending : Pending clock account [] t :=
    Maintains.returns (maintains_recoverAccount intact) run
  intro record member
  exact (pending.others record member).resolve_left nofun

end

theorem Open.not_released {p : Provenance} {ref : SandboxRef} (open_ : Open p ref held) :
    ¬ ∀ record ∈ held, Released record.attempt held := by
  intro released
  have intended : p.record .intent ∈ ofAttempt p.attempt held := by
    rw [open_]
    exact List.mem_cons_self
  obtain ⟨record, member, same, kind⟩ := released _ (mem_ofAttempt.mp intended).1
  have mine : record ∈ ofAttempt p.attempt held := mem_ofAttempt.mpr ⟨member, same⟩
  rw [open_] at mine
  rcases List.mem_cons.mp mine with rfl | mine
  · cases kind
  · rw [List.mem_singleton.mp mine] at kind
    cases kind

/-- On a journal in which everything is released, recovery destroys and appends nothing. -/
theorem recoverAccount_harmless {q : Query}
    {next : Answer q → Program Query Answer (Except String Unit)}
    (intact : Intact clock account held) (released : ∀ record ∈ held, Released record.attempt held)
    (run : RunsTo clock account (recoverAccount clock rounds account drivers) held (.ask q next) t) :
    q.harmless = true := by
  have harmless : ∀ (s : Site) (q : Query), s.held = held → Releasing account drivers s q →
      q.harmless = true := by
    intro s q same releasing
    cases q with
    | await operation =>
      cases operation with
      | append record =>
        obtain ⟨p, ref, driver, -, open_, -⟩ := releasing
        exact absurd released (same ▸ open_).not_released
      | destroyById driver ref =>
        obtain ⟨p, -, open_, -⟩ := releasing
        exact absurd released (same ▸ open_).not_released
      | _ => rfl
    | _ => rfl
  have same : t.held = held := by
    refine (maintains_recoverAccount intact).invariant (fun s => s.held = held) ?_ run rfl
    intro s q answer u same releasing step
    have quiet := harmless s q same releasing
    cases q with
    | await operation =>
      cases operation with
      | append record => cases quiet
      | read name => exact step.2.1.trans same
      | _ => exact Eq.trans step.2 same
    | _ => exact Eq.trans step.2 same
  exact harmless t q same (recoverAccount_asks intact run)

/-! ### Recovering a retained allocation -/

theorem lenient_careful : Lenient (Careful account) := by
  rintro s q harmless record rfl
  cases harmless

theorem careful_append {record : AccountRecord}
    (continues : record.account = account → Continues account s.held record) :
    Careful account s (.await (.append record)) := by
  intro other asked
  rwa [← Operation.append.inj (Query.await.inj asked)]

/-- The journal is as before. -/
def Still {α : Type} (s t : Site) (_ : Except String α) : Prop := t.held = s.held

theorem still_confirmRemoval (driver : SandboxDriver) (ref : SandboxRef) (rounds : Nat) :
    Maintains (served clock account) (Careful account) (Still s)
      (confirmRemoval rounds driver ref) s := by
  cases able : driver.probes && driver.destroyById with
  | false =>
    rw [confirmRemoval, able]
    exact rfl
  | true =>
    refine (removed_confirmRemoval lenient_careful able ?_ rounds).mono fun t r h => h.held
    rintro t - record ⟨⟩

/-- What `readRecords` establishes about the account's own journal. -/
structure Matches (evidence : ExperimentAttempt) (expected : List RecordKind)
    (held : List AccountRecord) (intent : AccountRecord) : Prop where
  kinds : (ofAttempt evidence.id held).map AccountRecord.kind = expected
  head : (ofAttempt evidence.id held).head? = some intent
  kind : intent.kind = .intent
  cell : intent.cellId = evidence.cellId
  plan : intent.planDigest = evidence.planDigest

def provenanceOf (account : String) (evidence : ExperimentAttempt) : Provenance :=
  ⟨account, evidence.id, evidence.cellId, evidence.planDigest⟩

theorem body_of_kind_intent {record : AccountRecord} (kind : record.kind = .intent) :
    record.body = .intent := by
  cases here : record.body <;> simp [AccountRecord.kind, here, RecordBody.kind] at kind ⊢

theorem Matches.sole {evidence : ExperimentAttempt} {intent : AccountRecord}
    (matches_ : Matches evidence [.intent] held intent) :
    intent = (provenanceOf intent.account evidence).record .intent ∧
      ofAttempt evidence.id held = [(provenanceOf intent.account evidence).record .intent] := by
  obtain ⟨kinds, head, kind, cell, plan⟩ := matches_
  obtain ⟨only, whole⟩ := List.length_eq_one_iff.mp
    (by simpa using congrArg List.length kinds : (ofAttempt evidence.id held).length = 1)
  rw [whole, List.head?_cons, Option.some.injEq] at head
  subst head
  have mine : only.attempt = evidence.id := (mem_ofAttempt.mp (by rw [whole]; simp)).2
  have itself : only = (provenanceOf only.account evidence).record .intent := by
    rw [provenanceOf, Provenance.record, ← mine, ← cell, ← plan, ← body_of_kind_intent kind]
  exact ⟨itself, by rw [whole, ← itself]⟩

theorem retainedRef_some {evidence : ExperimentAttempt} {allocation : AccountRecord}
    {ref : SandboxRef} (identified : retainedRef evidence allocation = some ref) :
    allocation = (provenanceOf allocation.account evidence).record (.allocated ref) := by
  unfold retainedRef at identified
  split at identified
  · rename_i found body
    split at identified
    · rename_i same
      obtain rfl := Option.some.inj identified
      rw [provenanceOf, Provenance.record, ← same.1, ← same.2.1, ← same.2.2, ← body]
    · cases identified
  · cases identified

theorem maintains_readRecords (name : String) (evidence : ExperimentAttempt)
    (expected : List RecordKind) :
    Maintains (served clock account) (Careful account)
      (fun t r => t.held = s.held ∧ ∀ intent, r = .ok intent → intent.account = name ∧
        (name = account → Matches evidence expected s.held intent))
      (readRecords clock name evidence expected) s := by
  rw [readRecords]
  refine (answered_withinSignal lenient_careful rfl).bind (fun t e h => ⟨h.held, nofun⟩) ?_
  intro t records read
  refine maintains_computed_bind (fun e _ => ⟨read.held, nofun⟩) fun _ _ => ?_
  refine maintains_computed_bind (fun e _ => ⟨read.held, nofun⟩) fun intent first => ?_
  refine maintains_computed_bind (fun e _ => ⟨read.held, nofun⟩) fun _ checked => ?_
  simp only [throwIf_eq_ok, not_or, not_not] at checked
  obtain ⟨kinds, kind, owner, cell, plan⟩ := checked
  refine ⟨read.held, ?_⟩
  rintro _ ⟨⟩
  refine ⟨owner, ?_⟩
  rintro rfl
  obtain rfl : records = s.held := (read.effect records rfl).2 rfl records rfl
  exact ⟨kinds, require_eq_ok.mp first, kind, cell, plan⟩

theorem maintains_recoverAllocatedIntent (rounds : Nat) (read : Except String AttemptWithRun)
    (retained : Except String AccountRecord) :
    Maintains (served clock account) (Careful account) (fun _ _ => True)
      (recoverAllocatedIntent clock rounds read retained) s := by
  rw [recoverAllocatedIntent]
  refine maintains_computed_bind (fun _ _ => trivial) fun attempt _ => ?_
  refine maintains_computed_bind (fun _ _ => trivial) fun _ _ => ?_
  refine maintains_computed_bind (fun _ _ => trivial) fun allocation _ => ?_
  refine maintains_computed_bind (fun _ _ => trivial) fun _ _ => ?_
  refine maintains_computed_bind (fun _ _ => trivial) fun ref identified => ?_
  refine (answered_withinSignal lenient_careful rfl).bind (fun _ _ _ => trivial) ?_
  intro t driver opened
  refine maintains_computed_bind (fun _ _ => trivial) fun _ _ => ?_
  refine (maintains_readRecords _ _ _).bind (fun _ _ _ => trivial) ?_
  rintro u intent ⟨read, intended⟩
  obtain ⟨owner, matches_⟩ := intended intent rfl
  refine (answered_harmless lenient_careful rfl).bind (fun _ _ _ => trivial) ?_
  intro v _ quiescent
  have before : v.held = t.held := quiescent.held.trans read
  have known := retainedRef_some (require_eq_ok.mp identified)
  have intended' : allocation.account = account →
      intent = (provenanceOf account attempt.evidence).record .intent ∧
        ofAttempt attempt.evidence.id v.held =
          [(provenanceOf account attempt.evidence).record .intent] := by
    rintro ours
    rw [before, ← ours, ← owner]
    exact (matches_ ours).sole
  refine (appended_withinSignal lenient_careful ?_).bind (fun _ _ _ => trivial) ?_
  · intro w same _
    refine careful_append fun ours => ?_
    rw [ours] at known
    rw [known, same]
    exact continues_of_story (provenanceOf account attempt.evidence) [.intent]
      (intended' ours).2 (.allocated ref)
  intro w _ appended
  refine (still_confirmRemoval driver ref rounds).bind (fun _ _ _ => trivial) ?_
  intro x _ removed
  refine (answered_harmless lenient_careful rfl).bind (fun _ _ _ => trivial) ?_
  intro y _ still
  refine (maintains_readRecords _ _ _).bind (fun _ _ _ => trivial) ?_
  rintro z _ ⟨reread, -⟩
  refine (steady_throwIfAborted lenient_careful).bind (fun _ _ _ => trivial) ?_
  intro a _ silent
  refine maintains_computed_bind (fun _ _ => trivial) fun _ _ => ?_
  refine (appended_withinSignal lenient_careful ?_).bind (fun _ _ _ => trivial) fun _ _ _ => trivial
  intro b same _
  refine careful_append fun ours => ?_
  have mine : allocation.account = account := owner.symm.trans ours
  obtain ⟨itself, sole⟩ := intended' mine
  have held : b.held = v.held ++ [allocation] :=
    (((((same.trans silent.held).trans reread).trans still.held).trans removed).trans
      (appended.lands rfl mine).1)
  rw [mine] at known
  have open_ : Open (provenanceOf account attempt.evidence) ref b.held := by
    rw [Open, held, known, ofAttempt_append]
    exact congrArg₂ _ sole (ofAttempt_singleton_self _)
  rw [itself]
  exact open_.continues rfl none

end

end AccountRecovery
