import SandboxBenchmarks.ExecuteBatch

/-!
# The account journal stays truthful

Every call of a driver's `create` and every release a batch appends is
explained by what happened before it. The argument pairs a trace with the
variables of each cell: what a variable says has happened, and what has
happened the variables say.
-/

namespace ExecuteBatch

open AccountJournal CanonicalJson Checks PlanVerification Transition

/-! ### What recovery reads -/

/-- The records filed under one attempt are that attempt's, of this account, and were read. -/
structure Filed (account : String) (records : List AccountRecord) (attempt : String)
    (group : List AccountRecord) : Prop where
  read : ∀ record ∈ group, record ∈ records
  account : ∀ record ∈ group, record.account = account
  attempt : ∀ record ∈ group, record.attempt = attempt

theorem fileRecord_filed {account : String} {records : List AccountRecord} {record : AccountRecord}
    {attempts next : List (String × List AccountRecord)}
    (nodup : (attempts.map Prod.fst).Nodup)
    (filed : ∀ key group, Keyed.get? attempts key = some group → Filed account records key group)
    (run : fileRecord account attempts record = .ok next) :
    (next.map Prod.fst).Nodup ∧ ∀ key group, Keyed.get? next key = some group →
      Filed account (records ++ [record]) key group := by
  simp only [fileRecord, bind_eq_ok, throwIf_eq_ok, pure_eq_ok] at run
  obtain ⟨_, ours, _, -, rfl⟩ := run
  refine ⟨?_, ?_⟩
  · rw [Keyed.keys_set]
    exact Keyed.nodup_add nodup _
  · intro key group found
    rw [Keyed.get?_set] at found
    split at found
    · rename_i same
      cases found
      have before : Filed account records record.attempt
          ((Keyed.get? attempts record.attempt).getD []) := by
        cases here : Keyed.get? attempts record.attempt with
        | none =>
          exact ⟨fun _ h => absurd h List.not_mem_nil, fun _ h => absurd h List.not_mem_nil,
            fun _ h => absurd h List.not_mem_nil⟩
        | some group => exact filed _ _ here
      constructor
      · intro entry mem
        rcases List.mem_append.mp mem with mem | mem
        · exact List.mem_append_left _ (before.read entry mem)
        · exact List.mem_append_right _ mem
      · intro entry mem
        rcases List.mem_append.mp mem with mem | mem
        · exact before.account entry mem
        · rcases List.mem_singleton.mp mem with rfl
          exact not_not.mp ours
      · intro entry mem
        rcases List.mem_append.mp mem with mem | mem
        · exact (before.attempt entry mem).trans same
        · rcases List.mem_singleton.mp mem with rfl
          exact same
    · have before := filed key group found
      exact { before with read := fun entry mem => List.mem_append_left _ (before.read entry mem) }

theorem fileRecords_filed {account : String} {records : List AccountRecord}
    {attempts : List (String × List AccountRecord)}
    (run : fileRecords account records = .ok attempts) :
    ∀ group ∈ attempts.map Prod.snd, ∃ attempt, Filed account records attempt group := by
  have key := foldlM_invariant (f := fileRecord account)
    (fun pre attempts => (attempts.map Prod.fst).Nodup ∧
      ∀ key group, Keyed.get? attempts key = some group → Filed account pre key group)
    (by simp [Keyed.get?])
    (fun pre record post s s' _ inv step => fileRecord_filed inv.1 inv.2 step) run
  intro group mem
  obtain ⟨⟨attempt, _⟩, entry, rfl⟩ := List.mem_map.mp mem
  exact ⟨attempt, key.2 _ _ (Keyed.get?_of_mem key.1 entry)⟩

theorem mem_of_allocatedRef {records : List AccountRecord} {ref : SandboxRef}
    (h : allocatedRef records = some ref) : ∃ record ∈ records, record.body = .allocated ref := by
  unfold allocatedRef at h
  split at h
  · rename_i found body
    cases h
    obtain ⟨record, here, same⟩ := Option.map_eq_some_iff.mp body
    exact ⟨record, List.mem_of_find?_eq_some here, same⟩
  · cases h

/-- Recovery removes a sandbox only for a durable allocation of the attempt's own intent. -/
theorem interrupted_allocated {account attempt : String} {records group : List AccountRecord}
    {intent : AccountRecord} {ref : SandboxRef} (filed : Filed account records attempt group)
    (run : interrupted group = .ok (some (intent, ref))) :
    { intent with body := .allocated ref } ∈ records := by
  simp only [interrupted, bind_eq_ok, require_eq_ok, throwIf_eq_ok] at run
  obtain ⟨_, -, found, intended, _, straight, run⟩ := run
  have mem : found ∈ group := List.mem_of_find?_eq_some intended
  split at run
  · simp at run
  · simp at run
  · simp only [bind_eq_ok, require_eq_ok, pure_eq_ok, Option.some.injEq, Prod.mk.injEq] at run
    obtain ⟨_, allocated, same, rfl⟩ := run
    subst same
    obtain ⟨record, here, body⟩ := mem_of_allocatedRef allocated
    have kept : strays found record = false := by
      simp only [List.any_eq_true, not_exists, not_and, Bool.not_eq_true] at straight
      exact straight record here
    simp only [strays, Bool.or_eq_false_iff, bne_eq_false_iff_eq] at kept
    have whole : ({ found with body := record.body } : AccountRecord) = record := by
      have account := (filed.account found mem).trans (filed.account record here).symm
      have attempt := (filed.attempt found mem).trans (filed.attempt record here).symm
      rw [account, attempt, ← kept.1, ← kept.2]
    rw [← body, whole]
    exact filed.read record here

/-! ### What explains an event -/

theorem Durable.later {journal : List AccountRecord} {trace : List Event} {record : AccountRecord}
    (h : Durable journal trace record) (events : List Event) :
    Durable journal (events ++ trace) record :=
  h.imp_right (List.mem_append_right events)

section
variable (setting : Setting) (p : Prepared) (journal : List AccountRecord)
  (leavesSandbox : CreateError → Prop)

/-- What must have happened before an event, and what must not. -/
def Why (earlier : List Event) : Event → Prop
  | .created i => ∃ cell, p.cells[i]? = some cell ∧
      .acknowledged (some i) (recordOf setting p i cell .intent) ∈ earlier ∧
      (∀ k, .stopRefill k ∉ earlier) ∧ .created i ∉ earlier ∧
      ∀ record, record.body = .notAllocated → .asked (some i) record ∉ earlier
  | .rejected i _ => .created i ∈ earlier ∧ ∀ ref, .resolved i ref ∉ earlier
  | .resolved i _ => .created i ∈ earlier ∧ ∀ error, .rejected i error ∉ earlier
  | .asked owner record =>
    match record.body with
    | .notAllocated => ∃ i cell, owner = some i ∧ p.cells[i]? = some cell ∧
        record = recordOf setting p i cell .notAllocated ∧
        (.created i ∉ earlier ∨ ∃ error, .rejected i error ∈ earlier ∧ ¬ leavesSandbox error)
    | .absent ref _ =>
      Durable journal earlier { record with body := .allocated ref } ∧ .removed ref ∈ earlier
    | _ => True
  | .acknowledged _ record => Durable journal earlier record
  | .landed record => ∃ owner, .asked owner record ∈ earlier
  | .stopRefill _ | .removed _ => True

/-- The create is over, one way or the other. -/
def Creation.spent : Creation → Bool
  | .idle | .pending => false
  | _ => true

/-- The attempt has asked for its release, or asks for none. -/
def Position.closed : Position → Bool
  | .releasingNotAllocated _ | .uploading _ | .settled _ => true
  | _ => false

/-- The variables of an attempt say only what has happened. -/
structure Run.Sound (trace : List Event) (i : Nat) (run : Run) : Prop where
  early : run.position = .appendingIntent ∨ run.position = .replicating .starting →
    run.createStarted = false ∧ run.creation = .idle ∧ run.createRejectedCleanly = false ∧
      run.allocated = none
  starting : run.position = .replicating .starting → ∃ cell, p.cells[i]? = some cell ∧
    .acknowledged (some i) (recordOf setting p i cell .intent) ∈ trace
  started : run.createStarted = true → .created i ∈ trace
  pending : run.creation = .pending → run.createStarted = true ∧
    run.createRejectedCleanly = false ∧ run.allocated = none
  rejectedCleanly : run.createRejectedCleanly = true →
    ∃ error, .rejected i error ∈ trace ∧ ¬ leavesSandbox error
  recording : ∀ ref, run.creation = .recording ref → run.allocated = some ref
  returned : ∀ ref, run.creation = .returned ref → run.allocated = some ref
  recorded : run.allocationRecorded = true → ∃ cell ref, p.cells[i]? = some cell ∧
    run.allocated = some ref ∧ Durable journal trace (recordOf setting p i cell (.allocated ref))
  holding : ∀ ref, run.position = .replicating (.working ref) ∨
    run.position = .replicating (.observing ref) → run.allocated = some ref
  receipt : run.receipt = some ⟨true, true⟩ → ∃ ref, run.allocated = some ref ∧
    .removed ref ∈ trace
  unheld : (∃ cleanup, run.position = .readingJournal cleanup) →
    run.createStarted = false ∨ run.createRejectedCleanly = true

theorem Run.Sound.mono {trace : List Event} {i : Nat} {run : Run}
    (h : run.Sound setting p journal leavesSandbox trace i) (events : List Event) :
    run.Sound setting p journal leavesSandbox (events ++ trace) i where
  early := h.early
  starting here := by
    obtain ⟨cell, planned, acked⟩ := h.starting here
    exact ⟨cell, planned, List.mem_append_right _ acked⟩
  started here := List.mem_append_right _ (h.started here)
  pending := h.pending
  rejectedCleanly here := by
    obtain ⟨error, rejected, clean⟩ := h.rejectedCleanly here
    exact ⟨error, List.mem_append_right _ rejected, clean⟩
  recording := h.recording
  returned := h.returned
  recorded here := by
    obtain ⟨cell, ref, planned, allocated, durable⟩ := h.recorded here
    exact ⟨cell, ref, planned, allocated, durable.later events⟩
  holding := h.holding
  receipt here := by
    obtain ⟨ref, allocated, removed⟩ := h.receipt here
    exact ⟨ref, allocated, List.mem_append_right _ removed⟩
  unheld := h.unheld

/-- Positions that say nothing of the other variables. -/
def Position.plain : Position → Bool
  | .appendingIntent | .readingJournal _ => false
  | .replicating harness => harness == .creating
  | _ => true

def Creation.plain : Creation → Bool
  | .destroying _ | .failed => true
  | _ => false

/-- Either flow moves on, and learns nothing. -/
structure Run.Drifts (run run' : Run) : Prop where
  position : run'.position.plain = true ∨ run'.position = run.position ∧ run.creation ≠ .idle
  creation : run'.creation = run.creation ∨ run'.creation.plain = true
  started : run'.createStarted = run.createStarted
  clean : run'.createRejectedCleanly = run.createRejectedCleanly
  allocated : run'.allocated = run.allocated
  recorded : run'.allocationRecorded = run.allocationRecorded
  receipt : run'.receipt = some ⟨true, true⟩ → run.receipt = some ⟨true, true⟩

theorem Run.Sound.drift {trace : List Event} {i : Nat} {run run' : Run}
    (h : run.Sound setting p journal leavesSandbox trace i) (drift : run.Drifts run') :
    run'.Sound setting p journal leavesSandbox trace i where
  early here := by
    rcases drift.position with plain | ⟨same, busy⟩
    · rcases here with here | here <;> simp [here, Position.plain] at plain
    · exact absurd (h.early (same ▸ here)).2.1 busy
  starting here := by
    rcases drift.position with plain | ⟨same, -⟩
    · simp [here, Position.plain] at plain
    · exact h.starting (same ▸ here)
  started here := h.started (drift.started ▸ here)
  pending here := by
    rcases drift.creation with same | plain
    · rw [drift.started, drift.clean, drift.allocated]
      exact h.pending (same ▸ here)
    · simp [here, Creation.plain] at plain
  rejectedCleanly here := h.rejectedCleanly (drift.clean ▸ here)
  recording ref here := by
    rcases drift.creation with same | plain
    · exact drift.allocated ▸ h.recording ref (same ▸ here)
    · simp [here, Creation.plain] at plain
  returned ref here := by
    rcases drift.creation with same | plain
    · exact drift.allocated ▸ h.returned ref (same ▸ here)
    · simp [here, Creation.plain] at plain
  recorded here := drift.allocated ▸ h.recorded (drift.recorded ▸ here)
  holding ref here := by
    rcases drift.position with plain | ⟨same, -⟩
    · rcases here with here | here <;> simp [here, Position.plain] at plain
    · exact drift.allocated ▸ h.holding ref (same ▸ here)
  receipt here := drift.allocated ▸ h.receipt (drift.receipt here)
  unheld here := by
    obtain ⟨cleanup, here⟩ := here
    rcases drift.position with plain | ⟨same, -⟩
    · simp [here, Position.plain] at plain
    · rw [drift.started, drift.clean]
      exact h.unheld ⟨cleanup, same ▸ here⟩

theorem Run.Sound.of_fresh (trace : List Event) (i : Nat) :
    Run.fresh.Sound setting p journal leavesSandbox trace i := by
  constructor <;> simp [Run.fresh]

end

/-- The variables of an attempt say all of what has happened to it. -/
def Event.Seen (refill : Option String) (runs : Nat → Run) : Event → Prop
  | .created i => (runs i).createStarted = true
  | .rejected i _ => (runs i).creation.spent = true
  | .resolved i _ => (runs i).creation.spent = true
  | .asked (some i) record => record.body = .notAllocated → (runs i).position.closed = true
  | .stopRefill _ => refill.isSome = true
  | _ => True

/-- What no step takes back. -/
structure Run.Later (before after : Run) : Prop where
  started : before.createStarted = true → after.createStarted = true
  spent : before.creation.spent = true → after.creation.spent = true
  closed : before.position.closed = true → after.position.closed = true

theorem Run.Later.of_fresh (run : Run) : Run.fresh.Later run := by
  constructor <;> simp [Run.fresh, Creation.spent, Position.closed]

theorem Event.Seen.later {refill refill' : Option String} {runs runs' : Nat → Run} {event : Event}
    (h : event.Seen refill runs) (stops : refill.isSome = true → refill'.isSome = true)
    (later : ∀ i, (runs i).Later (runs' i)) : event.Seen refill' runs' := by
  cases event with
  | created i => exact (later i).started h
  | rejected i error => exact (later i).spent h
  | resolved i ref => exact (later i).spent h
  | stopRefill i => exact stops h
  | asked owner record =>
    cases owner with
    | none => trivial
    | some i => exact fun body => (later i).closed (h body)
  | _ => trivial

/-! ### One segment of one attempt -/

section
variable {setting : Setting} {p : Prepared} {journal : List AccountRecord}
  {leavesSandbox : CreateError → Prop} {world : World} {i : Nat} {cell : ExperimentCell} {run : Run}

/-- A segment keeps variables and trace in step. -/
structure Segment.Good (setting : Setting) (p : Prepared) (journal : List AccountRecord)
    (leavesSandbox : CreateError → Prop) (world : World) (i : Nat) (segment : Segment) : Prop where
  why : Explained (Why setting p journal leavesSandbox) (segment.events ++ world.trace)
  run : segment.run.Sound setting p journal leavesSandbox (segment.events ++ world.trace) i
  later : (world.runs i).Later segment.run
  seen : ∀ event ∈ segment.events, event.Seen (world.shared.refillFailure <|> segment.refill)
    (fun k => if k = i then segment.run else world.runs k)

theorem quiet_good (why : Explained (Why setting p journal leavesSandbox) world.trace)
    (sound : run.Sound setting p journal leavesSandbox world.trace i)
    (later : (world.runs i).Later run) :
    (Segment.quiet run).Good setting p journal leavesSandbox world i :=
  ⟨why, sound, later, fun _ mem => nomatch mem⟩

theorem stop_good {refill : Option String}
    (why : Explained (Why setting p journal leavesSandbox) world.trace)
    (sound : run.Sound setting p journal leavesSandbox world.trace i)
    (later : (world.runs i).Later run) (stops : refill.isSome = true) :
    (Segment.mk run [.stopRefill i] refill).Good setting p journal leavesSandbox world i where
  why := ⟨trivial, why⟩
  run := sound.mono setting p journal leavesSandbox [.stopRefill i]
  later := later
  seen event mem := by
    rcases List.mem_singleton.mp mem with rfl
    simp [Event.Seen, stops]

theorem close_good (why : Explained (Why setting p journal leavesSandbox) world.trace)
    (sound : run.Sound setting p journal leavesSandbox world.trace i)
    (later : (world.runs i).Later run) (cleanup : Cleanup) :
    (close p i cell cleanup run).Good setting p journal leavesSandbox world i := by
  have sound' : Run.Sound setting p journal leavesSandbox world.trace i { run with
      position := .uploading ⟨run.failure.isNone && cleanup == .confirmed, cleanup⟩ } :=
    sound.drift setting p journal leavesSandbox ⟨.inl rfl, .inl rfl, rfl, rfl, rfl, rfl, id⟩
  have later' : (world.runs i).Later { run with
      position := .uploading ⟨run.failure.isNone && cleanup == .confirmed, cleanup⟩ } :=
    { later with closed := fun _ => rfl }
  simp only [close]
  split
  · exact stop_good why sound' later' rfl
  · exact quiet_good why sound' later'

theorem Run.Later.refl (run : Run) : run.Later run := ⟨id, id, id⟩

/-- What the cell can rely on when one of its awaits is over. -/
structure Before (setting : Setting) (p : Prepared) (journal : List AccountRecord)
    (leavesSandbox : CreateError → Prop) (world : World) (i : Nat) (cell : ExperimentCell) :
    Prop where
  why : Explained (Why setting p journal leavesSandbox) world.trace
  sound : (world.runs i).Sound setting p journal leavesSandbox world.trace i
  seen : ∀ event ∈ world.trace, event.Seen world.shared.refillFailure world.runs
  planned : p.cells[i]? = some cell

/-- Either flow moves on without a word to the outside. -/
theorem Before.drift (h : Before setting p journal leavesSandbox world i cell) {run' : Run}
    (drift : (world.runs i).Drifts run')
    (spent : (world.runs i).creation.spent = true → run'.creation.spent = true)
    (closed : (world.runs i).position.closed = true → run'.position.closed = true) :
    (Segment.quiet run').Good setting p journal leavesSandbox world i :=
  quiet_good h.why (h.sound.drift setting p journal leavesSandbox drift)
    ⟨fun was => drift.started.trans was, spent, closed⟩

theorem Before.not_created (h : Before setting p journal leavesSandbox world i cell)
    (unstarted : (world.runs i).createStarted = false) : Event.created i ∉ world.trace := by
  intro mem
  have started := h.seen _ mem
  simp only [Event.Seen, unstarted, Bool.false_eq_true] at started

theorem Before.not_spent (h : Before setting p journal leavesSandbox world i cell)
    (pending : (world.runs i).creation = .pending) :
    (∀ error, Event.rejected i error ∉ world.trace) ∧
      ∀ ref, Event.resolved i ref ∉ world.trace := by
  constructor
  · intro error mem
    simpa [Event.Seen, Creation.spent, pending] using h.seen _ mem
  · intro ref mem
    simpa [Event.Seen, Creation.spent, pending] using h.seen _ mem

/-- The driver is called after the durable intent, and before any stop. -/
theorem callCreate_good (h : Before setting p journal leavesSandbox world i cell)
    (here : (world.runs i).position = .replicating .starting) (stop : Option String) :
    (callCreate world.shared i stop (world.runs i)).Good setting p journal leavesSandbox world i := by
  obtain ⟨unstarted, idle, unallocated⟩ := h.sound.early (.inr here)
  obtain ⟨cell', planned, acked⟩ := h.sound.starting here
  simp only [callCreate]
  split
  · exact h.drift ⟨.inl rfl, .inr rfl, rfl, rfl, rfl, rfl, id⟩ (fun _ => rfl)
      (fun closed => by simp [here, Position.closed] at closed)
  · rename_i unstopped
    have running : world.shared.refillFailure = none := by
      cases failure : world.shared.refillFailure with
      | none => rfl
      | some reason => simp [failure] at unstopped
    refine ⟨⟨⟨cell', planned, acked, ?_, h.not_created unstarted, ?_⟩, h.why⟩, ?_, ?_, ?_⟩
    · intro k mem
      simpa [Event.Seen, running] using h.seen _ mem
    · intro record body mem
      simpa [Event.Seen, body, here, Position.closed] using h.seen _ mem
    · have sound := h.sound.mono setting p journal leavesSandbox [.created i]
      exact { sound with
        early := by simp
        starting := by simp
        started := fun _ => List.mem_cons_self
        pending := fun _ => ⟨rfl, unallocated⟩
        recording := nofun
        returned := nofun
        holding := by simp
        unheld := by simp }
    · refine ⟨fun _ => rfl, ?_, ?_⟩
      · simp [idle, Creation.spent]
      · simp [here, Position.closed]
    · simp [Event.Seen]

/-- While the driver's `create` is pending, nothing downstream of it has happened. -/
structure Run.Waits (run : Run) : Prop where
  late : ¬ (run.position = .appendingIntent ∨ run.position = .replicating .starting)
  unread : ¬ ∃ cleanup, run.position = .readingJournal cleanup
  unrecorded : run.allocationRecorded ≠ true
  unheld : ∀ ref, ¬ (run.position = .replicating (.working ref) ∨
    run.position = .replicating (.observing ref))
  unconfirmed : run.receipt ≠ some ⟨true, true⟩

theorem Run.Sound.waits {trace : List Event}
    (h : run.Sound setting p journal leavesSandbox trace i) (here : run.creation = .pending) :
    run.Waits := by
  obtain ⟨started, unclean, unallocated⟩ := h.pending here
  refine ⟨?_, ?_, ?_, ?_, ?_⟩
  · intro early
    have := (h.early early).2.1
    simp [here] at this
  · intro reading
    rcases h.unheld reading with unstarted | clean
    · simp [started] at unstarted
    · simp [unclean] at clean
  · intro recorded
    obtain ⟨_, ref, -, allocated, -⟩ := h.recorded recorded
    simp [unallocated] at allocated
  · intro ref holding
    have := h.holding ref holding
    simp [unallocated] at this
  · intro receipt
    obtain ⟨ref, allocated, -⟩ := h.receipt receipt
    simp [unallocated] at allocated

theorem createRejected_good (contract : ∀ error, error.failedCleanup = false → ¬ leavesSandbox error)
    (h : Before setting p journal leavesSandbox world i cell)
    (here : (world.runs i).creation = .pending) (error : CreateError) :
    (createRejected p i cell error (world.runs i)).Good setting p journal leavesSandbox world i := by
  obtain ⟨started, -, unallocated⟩ := h.sound.pending here
  have waits := h.sound.waits here
  have why : Explained (Why setting p journal leavesSandbox) (.rejected i error :: world.trace) :=
    ⟨⟨h.sound.started started, (h.not_spent here).2⟩, h.why⟩
  have sound : ({ world.runs i with
      creation := .failed, createRejectedCleanly := !error.failedCleanup } : Run).Sound
        setting p journal leavesSandbox (.rejected i error :: world.trace) i := by
    have before := h.sound.mono setting p journal leavesSandbox [.rejected i error]
    exact { before with
      early := fun early => absurd early waits.late
      pending := nofun
      rejectedCleanly := fun clean =>
        ⟨error, List.mem_cons_self, contract error (by simpa using clean)⟩
      recording := nofun
      returned := nofun
      unheld := fun reading => absurd reading waits.unread }
  have later : (world.runs i).Later { world.runs i with
      creation := .failed, createRejectedCleanly := !error.failedCleanup } :=
    ⟨id, fun _ => rfl, id⟩
  simp only [createRejected]
  split
  · refine ⟨⟨trivial, why⟩, sound.mono setting p journal leavesSandbox [.stopRefill i], later, ?_⟩
    simp [Event.Seen, stopped, Creation.spent]
  · refine ⟨why, sound, later, ?_⟩
    simp [Event.Seen, Creation.spent]

theorem createResolved_good (h : Before setting p journal leavesSandbox world i cell)
    (here : (world.runs i).creation = .pending) (ref : SandboxRef) (stored : Bool) :
    (createResolved setting p i cell ref stored (world.runs i)).Good setting p journal
      leavesSandbox world i := by
  obtain ⟨started, unclean, unallocated⟩ := h.sound.pending here
  have waits := h.sound.waits here
  have why : Explained (Why setting p journal leavesSandbox) (.resolved i ref :: world.trace) :=
    ⟨⟨h.sound.started started, (h.not_spent here).1⟩, h.why⟩
  have sound : ∀ creation events, (creation = .recording ref ∨ creation = .destroying ref) →
      ({ world.runs i with allocated := some ref, creation := creation } : Run).Sound
        setting p journal leavesSandbox (events ++ world.trace) i := by
    intro creation events next
    have before := h.sound.mono setting p journal leavesSandbox events
    exact { before with
      early := fun early => absurd early waits.late
      pending := fun pending => by
        rcases next with rfl | rfl <;> cases pending
      recording := fun other recording => by
        rcases next with rfl | rfl <;> cases recording
        rfl
      returned := fun other returned => by
        rcases next with rfl | rfl <;> cases returned
      recorded := fun recorded => absurd recorded waits.unrecorded
      holding := fun other holding => absurd holding (waits.unheld other)
      receipt := fun receipt => absurd receipt waits.unconfirmed }
  simp only [createResolved]
  split
  · refine ⟨⟨trivial, why⟩, sound _ [_, _] (.inl rfl), ⟨id, fun _ => rfl, id⟩, ?_⟩
    simp [Event.Seen, recordOf, Creation.spent]
  · refine ⟨⟨trivial, why⟩, sound _ [_, _] (.inr rfl), ⟨id, fun _ => rfl, id⟩, ?_⟩
    simp [Event.Seen, stopped, Creation.spent]

theorem cleanup_confirmed {receipt : Option CleanupReceipt}
    (h : run.cleanup receipt = .confirmed) : receipt = some ⟨true, true⟩ := by
  unfold Run.cleanup at h
  split at h
  · rename_i confirmed
    cases receipt with
    | none => cases confirmed
    | some receipt =>
      obtain ⟨completed, confirmedAbsent⟩ := receipt
      simpa using confirmed
  · split at h <;> cases h

theorem release_good (h : Before setting p journal leavesSandbox world i cell)
    (here : (world.runs i).position = .replicated) (unreadable : Option String) :
    (release setting p world.shared i cell unreadable (world.runs i)).Good setting p journal
      leavesSandbox world i := by
  have drift : (world.runs i).Drifts ((world.runs i).fail unreadable) :=
    ⟨.inl (by simp [Run.fail, here, Position.plain]), .inl rfl, rfl, rfl, rfl, rfl, id⟩
  have sound := h.sound.drift setting p journal leavesSandbox drift
  have later : (world.runs i).Later ((world.runs i).fail unreadable) := ⟨id, id, id⟩
  have opened : (world.runs i).position.closed = false := by simp [here, Position.closed]
  simp only [release]
  split
  · rename_i ref found
    simp only [Option.filter_eq_some_iff, Bool.and_eq_true, beq_iff_eq] at found
    obtain ⟨allocated, recorded, confirmed⟩ := found
    obtain ⟨cell', ref', planned, allocated', durable⟩ := sound.recorded recorded
    cases planned.symm.trans h.planned
    cases allocated.symm.trans allocated'
    have receipt : ((world.runs i).fail unreadable).receipt = some ⟨true, true⟩ := by
      have := cleanup_confirmed confirmed
      split at this
      · cases this
      · exact this
    obtain ⟨ref', allocated', removed⟩ := sound.receipt receipt
    cases allocated.symm.trans allocated'
    refine ⟨⟨⟨durable, removed⟩, h.why⟩, ?_, ?_, ?_⟩
    · refine Run.Sound.mono setting p journal leavesSandbox ?_ [_]
      exact sound.drift setting p journal leavesSandbox
        ⟨.inl rfl, .inl rfl, rfl, rfl, rfl, rfl, id⟩
    · exact { later with closed := fun closed => by simp [opened] at closed }
    · simp [Segment.ask, Event.Seen, recordOf]
  · split
    · rename_i unheld
      simp only [Bool.and_eq_true, Bool.or_eq_true, Bool.not_eq_true'] at unheld
      refine quiet_good h.why ?_ { later with closed := fun closed => by simp [opened] at closed }
      exact { sound with
        early := by simp
        starting := by simp
        holding := by simp
        unheld := fun _ => unheld.1.1 }
    · exact close_good h.why sound later _

theorem releaseUnallocated_good (h : Before setting p journal leavesSandbox world i cell)
    (cleanup : Cleanup) (here : (world.runs i).position = .readingJournal cleanup)
    (records : List AccountRecord) :
    (releaseUnallocated setting p i cell cleanup records (world.runs i)).Good setting p journal
      leavesSandbox world i := by
  simp only [releaseUnallocated]
  split
  · have unheld : Event.created i ∉ world.trace ∨
        ∃ error, Event.rejected i error ∈ world.trace ∧ ¬ leavesSandbox error := by
      rcases h.sound.unheld ⟨cleanup, here⟩ with unstarted | clean
      · exact .inl (h.not_created unstarted)
      · exact .inr (h.sound.rejectedCleanly clean)
    refine ⟨⟨⟨i, cell, rfl, h.planned, rfl, unheld⟩, h.why⟩, ?_, ?_, ?_⟩
    · refine Run.Sound.mono setting p journal leavesSandbox ?_ [_]
      exact h.sound.drift setting p journal leavesSandbox
        ⟨.inl rfl, .inl rfl, rfl, rfl, rfl, rfl, id⟩
    · exact ⟨id, id, fun _ => rfl⟩
    · simp [Segment.ask, Event.Seen, recordOf, Position.closed]
  · exact close_good h.why h.sound (.refl _) cleanup

theorem releaseFailed_good (h : Before setting p journal leavesSandbox world i cell)
    (cleanup : Cleanup) (failure : String) :
    (releaseFailed p i cell cleanup failure (world.runs i)).Good setting p journal
      leavesSandbox world i := by
  have sound : ({ world.runs i with journalFailed := true }.fail (some failure)).Sound
      setting p journal leavesSandbox world.trace i := { h.sound with }
  exact close_good h.why sound ⟨id, id, id⟩ cleanup

/-- `close` right after an acknowledgement. -/
theorem acknowledged_good (h : Before setting p journal leavesSandbox world i cell)
    (cleanup : Cleanup) {record : AccountRecord} (durable : Durable journal world.trace record) :
    (let segment := close p i cell cleanup (world.runs i)
    { segment with events := segment.events ++ [.acknowledged (some i) record] } : Segment).Good
      setting p journal leavesSandbox world i := by
  have sound := h.sound.mono setting p journal leavesSandbox [.acknowledged (some i) record]
  have why : Explained (Why setting p journal leavesSandbox)
      (.acknowledged (some i) record :: world.trace) := ⟨durable, h.why⟩
  have good : (close p i cell cleanup (world.runs i)).Good setting p journal leavesSandbox
      { world with trace := .acknowledged (some i) record :: world.trace } i :=
    close_good why sound (.refl _) cleanup
  refine ⟨?_, ?_, good.later, ?_⟩
  · simpa using good.why
  · simpa using good.run
  · intro event mem
    rcases List.mem_append.mp mem with mem | mem
    · exact good.seen event mem
    · rcases List.mem_singleton.mp mem with rfl
      trivial

/-- Every move of a cell is good. -/
theorem Moves.good (contract : ∀ error, error.failedCleanup = false → ¬ leavesSandbox error)
    (h : Before setting p journal leavesSandbox world i cell) {segment : Segment}
    (move : Moves setting p journal world i cell (world.runs i) segment) :
    segment.Good setting p journal leavesSandbox world i := by
  cases move with
  | intentAcknowledged here durable =>
    obtain ⟨unstarted, idle, rest⟩ := h.sound.early (.inl here)
    have sound := h.sound.mono setting p journal leavesSandbox
      [.acknowledged (some i) (recordOf setting p i cell .intent)]
    refine ⟨⟨durable, h.why⟩, ?_, ⟨id, id, by simp [here, Position.closed]⟩, by simp [Event.Seen]⟩
    exact { sound with
      early := fun _ => ⟨unstarted, idle, rest⟩
      starting := fun _ => ⟨cell, h.planned, List.mem_cons_self⟩
      holding := by simp
      unheld := by simp }
  | intentFails here failure =>
    refine stop_good h.why ?_ ⟨id, id, by simp [here, Position.closed]⟩ rfl
    exact h.sound.drift setting p journal leavesSandbox ⟨.inl rfl, .inl rfl, rfl, rfl, rfl, rfl, id⟩
  | suiteRefuses here failure | createAbandoned here failure =>
    exact h.drift ⟨.inl rfl, .inl rfl, rfl, rfl, rfl, rfl, id⟩ id (by simp [here, Position.closed])
  | createCalled here stop => exact callCreate_good h here stop
  | createThrows here =>
    refine h.drift ⟨.inr ⟨rfl, by simp [here]⟩, .inr rfl, rfl, rfl, rfl, rfl, id⟩ (fun _ => rfl) id
  | createRejects here error => exact createRejected_good contract h here error
  | createResolves here ref stored => exact createResolved_good h here ref stored
  | allocationAcknowledged ref here durable =>
    have sound := h.sound.mono setting p journal leavesSandbox
      [.acknowledged (some i) (recordOf setting p i cell (.allocated ref))]
    refine ⟨⟨durable, h.why⟩, ?_, ⟨id, fun _ => rfl, id⟩, by simp [Event.Seen]⟩
    exact { sound with
      early := fun early => by
        have := (h.sound.early early).2.1
        simp [here] at this
      pending := nofun
      recording := nofun
      returned := fun other same => by
        cases same
        exact h.sound.recording ref here
      recorded := fun _ => ⟨cell, ref, h.planned, h.sound.recording ref here, durable.later _⟩ }
  | allocationFails ref here =>
    refine stop_good h.why ?_ ⟨id, fun _ => rfl, id⟩ rfl
    exact h.sound.drift setting p journal leavesSandbox
      ⟨.inr ⟨rfl, by simp [here]⟩, .inr rfl, rfl, rfl, rfl, rfl, id⟩
  | destroySettles ref here =>
    exact h.drift ⟨.inr ⟨rfl, by simp [here]⟩, .inr rfl, rfl, rfl, rfl, rfl, id⟩ (fun _ => rfl) id
  | sessionArrives ref here session =>
    refine quiet_good h.why ?_ ⟨id, id, by simp [here, Position.closed]⟩
    exact { h.sound with
      early := by simp
      starting := by simp
      holding := fun other holding => by
        have : ref = other := by simpa using holding
        exact this ▸ h.sound.returned ref session
      unheld := by simp }
  | destroyed ref here =>
    refine quiet_good h.why ?_ ⟨id, id, by simp [here, Position.closed]⟩
    exact { h.sound with
      early := by simp
      starting := by simp
      holding := fun other holding => by
        have : ref = other := by simpa using holding
        exact this ▸ h.sound.holding ref (.inl here)
      unheld := by simp }
  | destroyFails ref here written failure | removalUnconfirmed ref here written failure =>
    refine h.drift ⟨.inl rfl, .inl rfl, rfl, rfl, rfl, rfl, ?_⟩ id (by simp [here, Position.closed])
    cases written <;> simp
  | removalConfirmed ref here written failure =>
    have sound := h.sound.mono setting p journal leavesSandbox [.removed ref]
    refine ⟨⟨trivial, h.why⟩, ?_, ⟨id, id, by simp [here, Position.closed]⟩, by simp [Event.Seen]⟩
    exact { sound with
      early := by simp
      starting := by simp
      holding := by simp
      receipt := fun _ => ⟨ref, h.sound.holding ref (.inr here), List.mem_cons_self⟩
      unheld := by simp }
  | releases here unreadable => exact release_good h here unreadable
  | absentAcknowledged cleanup ref here allocated durable => exact acknowledged_good h cleanup durable
  | notAllocatedAcknowledged cleanup here durable => exact acknowledged_good h cleanup durable
  | absentFails cleanup here failure | readFails cleanup here failure
  | notAllocatedFails cleanup here failure => exact releaseFailed_good h cleanup failure
  | journalRead cleanup here records durable => exact releaseUnallocated_good h cleanup here records
  | uploaded evidence here stored =>
    exact h.drift ⟨.inl rfl, .inl rfl, rfl, rfl, rfl, rfl, id⟩ id (fun _ => rfl)

end

/-! ### The whole batch -/

section
variable {setting : Setting} {p : Prepared} {journal : List AccountRecord}
  {leavesSandbox : CreateError → Prop}

/-- The attempts recovery still has to look at hold what a read of the journal returned. -/
def Backlog (journal : List AccountRecord) (trace : List Event)
    (attempts : List (List AccountRecord)) : Prop :=
  ∀ group ∈ attempts, ∃ account records attempt,
    Filed account records attempt group ∧ ∀ record ∈ records, Durable journal trace record

/-- What recovery knows at its awaits: the sandboxes it removes are durably allocated. -/
def Stage.Sound (journal : List AccountRecord) (trace : List Event) : Stage → Prop
  | .recovering attempts => Backlog journal trace attempts
  | .confirming intent ref attempts =>
    Durable journal trace { intent with body := .allocated ref } ∧ Backlog journal trace attempts
  | .closing _ attempts => Backlog journal trace attempts
  | _ => True

theorem Backlog.mono {trace : List Event} {attempts : List (List AccountRecord)}
    (h : Backlog journal trace attempts) (events : List Event) :
    Backlog journal (events ++ trace) attempts := by
  intro group mem
  obtain ⟨account, records, attempt, filed, durable⟩ := h group mem
  exact ⟨account, records, attempt, filed, fun record read => (durable record read).later events⟩

theorem Stage.Sound.mono {trace : List Event} {stage : Stage} (h : stage.Sound journal trace)
    (events : List Event) : stage.Sound journal (events ++ trace) := by
  cases stage with
  | recovering todo => exact Backlog.mono h events
  | confirming intent ref todo => exact ⟨h.1.later events, h.2.mono events⟩
  | closing record todo => exact Backlog.mono h events
  | _ => trivial

/-- What holds between any two steps. -/
structure World.Sound (setting : Setting) (p : Prepared) (journal : List AccountRecord)
    (leavesSandbox : CreateError → Prop) (world : World) : Prop where
  why : Explained (Why setting p journal leavesSandbox) world.trace
  runs : ∀ i, (world.runs i).Sound setting p journal leavesSandbox world.trace i
  seen : ∀ event ∈ world.trace, event.Seen world.shared.refillFailure world.runs
  fresh : ∀ i, world.next ≤ i → world.runs i = .fresh
  stage : world.stage.Sound journal world.trace

theorem initial_sound : (initial setting p).Sound setting p journal leavesSandbox where
  why := trivial
  runs i := Run.Sound.of_fresh setting p journal leavesSandbox [] i
  seen _ mem := nomatch mem
  fresh _ _ := rfl
  stage := trivial

/-- Admission adds events that no cell has to know of. -/
theorem World.Sound.proceed {world : World} (h : world.Sound setting p journal leavesSandbox)
    {stage : Stage} {events : List Event}
    (why : Explained (Why setting p journal leavesSandbox) (events ++ world.trace))
    (unseen : ∀ event ∈ events, ∀ refill runs, event.Seen refill runs)
    (sound : stage.Sound journal (events ++ world.trace)) :
    (world.proceed stage events).Sound setting p journal leavesSandbox where
  why := why
  runs i := (h.runs i).mono setting p journal leavesSandbox events
  seen event mem := by
    rcases List.mem_append.mp mem with mem | mem
    · exact unseen event mem _ _
    · exact h.seen event mem
  fresh := h.fresh
  stage := sound

theorem World.Sound.admitted {world : World} (h : world.Sound setting p journal leavesSandbox)
    (failure : Option String) :
    (world.admitted failure).Sound setting p journal leavesSandbox :=
  { h with stage := trivial }

theorem World.Sound.before {world : World} (h : world.Sound setting p journal leavesSandbox)
    {i : Nat} {cell : ExperimentCell} (planned : p.cells[i]? = some cell) :
    Before setting p journal leavesSandbox world i cell :=
  ⟨h.why, h.runs i, h.seen, planned⟩

/-- A good segment of a launched cell keeps the whole batch sound. -/
theorem World.Sound.commit {world : World} (h : world.Sound setting p journal leavesSandbox)
    {i : Nat} {segment : Segment} (good : segment.Good setting p journal leavesSandbox world i)
    (next : Nat) (grows : world.next ≤ next) (launched : i < next) :
    ({ world.commit i segment with next := next } : World).Sound setting p journal leavesSandbox := by
  refine ⟨good.why, ?_, ?_, ?_, h.stage.mono segment.events⟩
  · intro k
    by_cases same : k = i
    · subst same
      simpa [World.commit] using good.run
    · simpa [World.commit, same] using
        (h.runs k).mono setting p journal leavesSandbox segment.events
  · intro event mem
    rcases List.mem_append.mp mem with mem | mem
    · exact good.seen event mem
    · refine (h.seen event mem).later ?_ ?_
      · intro stopped
        cases failure : world.shared.refillFailure with
        | none => simp [failure] at stopped
        | some reason => simp [World.commit, failure]
      · intro k
        by_cases same : k = i
        · subst same
          simpa [World.commit] using good.later
        · simpa [World.commit, same] using Run.Later.refl (world.runs k)
  · intro k above
    have beyond : next ≤ k := above
    have apart : k ≠ i := by omega
    simpa [World.commit, apart] using h.fresh k (by omega)

theorem launch_good {world : World} (h : world.Sound setting p journal leavesSandbox)
    (cell : ExperimentCell) (late : Bool) :
    (launch setting p world.shared world.next cell late).Good setting p journal leavesSandbox world
      world.next := by
  have fresh := h.fresh world.next (Nat.le_refl _)
  have blank := Run.Sound.of_fresh setting p journal leavesSandbox world.trace world.next
  have later : ∀ run, (world.runs world.next).Later run := fun run => fresh ▸ Run.Later.of_fresh run
  simp only [launch]
  split
  · refine quiet_good h.why ?_ (later _)
    exact blank.drift setting p journal leavesSandbox
      ⟨.inl rfl, .inl rfl, rfl, rfl, rfl, rfl, id⟩
  · refine ⟨⟨trivial, h.why⟩, ?_, later _, by simp [Segment.ask, Event.Seen, recordOf]⟩
    refine Run.Sound.mono setting p journal leavesSandbox ?_ [_]
    exact { blank with
      early := fun _ => ⟨rfl, rfl, rfl, rfl⟩
      starting := nofun
      holding := by simp [Segment.ask]
      unheld := by simp [Segment.ask] }

theorem World.Sound.recover {world : World} (h : world.Sound setting p journal leavesSandbox)
    {records : List AccountRecord} {rest : List (List AccountRecord)}
    (here : world.stage = .recovering (records :: rest)) :
    (world.recover records rest).Sound setting p journal leavesSandbox := by
  have stage := h.stage
  rw [here] at stage
  have later : Backlog journal world.trace rest :=
    fun group mem => stage group (List.mem_cons_of_mem _ mem)
  unfold World.recover
  split
  · exact h.admitted _
  · exact h.proceed h.why (fun _ mem => nomatch mem) later
  · rename_i intent ref found
    obtain ⟨account, read, attempt, filed, durable⟩ := stage records List.mem_cons_self
    split
    · exact h.proceed h.why (fun _ mem => nomatch mem)
        ⟨durable _ (interrupted_allocated filed found), later⟩
    · exact h.admitted _

theorem World.Sound.step (contract : ∀ error, error.failedCleanup = false → ¬ leavesSandbox error)
    {s t : World} (h : s.Sound setting p journal leavesSandbox) (step : Step setting p journal s t) :
    t.Sound setting p journal leavesSandbox := by
  cases step with
  | opens provider rest artifact here => exact { h with stage := trivial }
  | admissionFails here failure => exact h.admitted _
  | readsAccount here records durable =>
    split
    · exact h.admitted _
    · rename_i attempts filed
      refine h.proceed h.why (fun _ mem => nomatch mem) ?_
      intro group mem
      obtain ⟨attempt, filed⟩ := fileRecords_filed filed group mem
      exact ⟨_, records, attempt, filed, durable⟩
  | recovers records rest here => exact h.recover here
  | removalObserved intent ref rest here =>
    have stage := h.stage
    rw [here] at stage
    refine h.proceed ⟨⟨?_, List.mem_cons_self⟩, trivial, h.why⟩ ?_ (stage.2.mono [_, _])
    · exact stage.1.later [.removed ref]
    · intro event mem refill runs
      rcases List.mem_cons.mp mem with rfl | mem
      · trivial
      · rcases List.mem_singleton.mp mem with rfl
        trivial
  | recoveryAcknowledged record rest here durable =>
    have stage := h.stage
    rw [here] at stage
    refine h.proceed ⟨durable, h.why⟩ ?_ (Backlog.mono stage [_])
    intro event mem refill runs
    rcases List.mem_singleton.mp mem with rfl
    trivial
  | readsHistory here records durable => exact { h with stage := trivial }
  | reconciled here => exact h.admitted _
  | lands owner record asked =>
    refine h.proceed ⟨⟨owner, asked⟩, h.why⟩ ?_ (h.stage.mono [_])
    intro event mem refill runs
    rcases List.mem_singleton.mp mem with rfl
    trivial
  | launches cell late here planned free =>
    exact h.commit (launch_good h cell late) _ (Nat.le_succ _) (Nat.lt_succ_self _)
  | moves i cell segment launched planned move =>
    exact h.commit (move.good contract (h.before planned)) s.next (Nat.le_refl _) launched

theorem reachable_sound (contract : ∀ error, error.failedCleanup = false → ¬ leavesSandbox error)
    {world : World} (reached : Reachable setting p journal world) :
    world.Sound setting p journal leavesSandbox := by
  refine reached.invariant ?_ fun _ _ h step => h.step contract step
  rintro _ rfl
  exact initial_sound

/-! ### What the trace shows -/

variable {trace : List Event}

theorem durable_of_acknowledged (why : Explained (Why setting p journal leavesSandbox) trace)
    {owner : Option Nat} {record : AccountRecord} (mem : .acknowledged owner record ∈ trace) :
    Durable journal trace record := by
  obtain ⟨later, earlier, rfl, durable⟩ := why.of_mem mem
  have held := durable.later (later ++ [.acknowledged owner record])
  rwa [List.append_assoc, List.singleton_append] at held

/-- A rejected `create` never resolves as well. -/
theorem rejected_or_resolved (why : Explained (Why setting p journal leavesSandbox) trace)
    {i : Nat} {error : CreateError} (rejected : .rejected i error ∈ trace) (ref : SandboxRef) :
    .resolved i ref ∉ trace := by
  intro resolved
  induction trace with
  | nil => cases resolved
  | cons event earlier ih =>
    rcases List.mem_cons.mp rejected with rfl | rejectedBefore
    · rcases List.mem_cons.mp resolved with same | resolvedBefore
      · cases same
      · exact why.1.2 ref resolvedBefore
    · rcases List.mem_cons.mp resolved with rfl | resolvedBefore
      · exact why.1.2 error rejectedBefore
      · exact ih why.2 rejectedBefore resolvedBefore

/-- Once an attempt is released as not allocated, its `create` is not called any more. -/
theorem not_created_after (why : Explained (Why setting p journal leavesSandbox) trace)
    {later earlier : List Event} {i : Nat} {record : AccountRecord}
    (split : trace = later ++ .asked (some i) record :: earlier)
    (body : record.body = .notAllocated) : .created i ∉ later := by
  intro mem
  obtain ⟨after, before, rfl⟩ := List.append_of_mem mem
  rw [split, List.append_assoc, List.cons_append] at why
  obtain ⟨-, -, -, -, -, unreleased⟩ := why.split
  exact unreleased record body (List.mem_append_right _ List.mem_cons_self)

/-! ### An attempt nothing goes wrong with -/

/-- Cell `i` is launched, with these variables, under this trace. -/
structure At (p : Prepared) (world : World) (i : Nat) (cell : ExperimentCell) (run : Run)
    (trace : List Event) : Prop where
  launched : i < world.next
  planned : p.cells[i]? = some cell
  admitted : world.shared.refillFailure = none
  run : world.runs i = run
  trace : world.trace = trace

theorem At.move {world : World} {i : Nat} {cell : ExperimentCell} {run : Run} {trace : List Event}
    (h : At p world i cell run trace) (segment : Segment) (unstopped : segment.refill = none)
    (move : Moves setting p journal world i cell run segment) :
    ∃ next : World, Leads (Step setting p journal) world next ∧
      At p next i cell segment.run (segment.events ++ trace) := by
  obtain ⟨launched, planned, admitted, rfl, rfl⟩ := h
  refine ⟨_, .single (.moves i cell segment launched planned move), launched, planned, ?_, ?_, rfl⟩
  · simp [World.commit, admitted, unstopped]
  · simp [World.commit]

theorem At.land {world : World} {i : Nat} {cell : ExperimentCell} {run : Run} {trace : List Event}
    (h : At p world i cell run trace) (setting : Setting) (journal : List AccountRecord)
    {record : AccountRecord} (asked : .asked (some i) record ∈ trace) :
    ∃ next : World, Leads (Step setting p journal) world next ∧
      At p next i cell run (.landed record :: trace) := by
  obtain ⟨launched, planned, admitted, rfl, rfl⟩ := h
  exact ⟨_, .single (.lands (some i) record asked), launched, planned, admitted, rfl, rfl⟩

theorem durable_now (journal : List AccountRecord) (record : AccountRecord) (trace : List Event) :
    Durable journal (.landed record :: trace) record :=
  .inr List.mem_cons_self

/-- The events of such an attempt, up to its release. -/
def completedTrace (setting : Setting) (p : Prepared) (i : Nat) (cell : ExperimentCell)
    (ref : SandboxRef) : List Event :=
  let record := recordOf setting p i cell
  [.asked (some i) (record (.absent ref none)), .removed ref,
    .acknowledged (some i) (record (.allocated ref)), .landed (record (.allocated ref)),
    .asked (some i) (record (.allocated ref)), .resolved i ref, .created i,
    .acknowledged (some i) (record .intent), .landed (record .intent),
    .asked (some i) (record .intent)]

theorem launch_at (setting : Setting) (journal : List AccountRecord) {world : World}
    {cell : ExperimentCell} (here : world.stage = .running)
    (planned : p.cells[world.next]? = some cell) (free : world.pending < p.batch.maxConcurrency)
    (open_ : world.shared.refillFailure = none)
    (admitted : admitCell setting p world.shared false cell = .ok ()) :
    ∃ t : World, Leads (Step setting p journal) world t ∧
      At p t world.next cell { Run.fresh with position := .appendingIntent }
        (.asked (some world.next) (recordOf setting p world.next cell .intent) :: world.trace) := by
  have asks : launch setting p world.shared world.next cell false =
      .ask world.next (recordOf setting p world.next cell .intent)
        { Run.fresh with position := .appendingIntent } := by
    simp only [launch, admitted]
  refine ⟨_, .single (.launches cell false here planned free), Nat.lt_succ_self _, planned, ?_, ?_, ?_⟩
  · simp [World.commit, asks, Segment.ask, open_]
  · simp [World.commit, asks, Segment.ask]
  · simp [World.commit, asks, Segment.ask]

theorem callCreate_open {shared : Shared} (admitted : shared.refillFailure = none) (i : Nat)
    (run : Run) : callCreate shared i none run =
      ⟨{ run with
          position := .replicating .creating, creation := .pending, createStarted := true },
        [.created i], none⟩ := by
  simp [callCreate, admitted]

theorem attempt_completes (setting : Setting) (journal : List AccountRecord) {world : World}
    {i : Nat} {cell : ExperimentCell}
    (launched : At p world i cell { Run.fresh with position := .appendingIntent }
      (.asked (some i) (recordOf setting p i cell .intent) :: trace)) (ref : SandboxRef) :
    ∃ t : World, Leads (Step setting p journal) world t ∧
      t.trace = completedTrace setting p i cell ref ++ trace := by
  obtain ⟨w, toW, here⟩ := launched.land setting journal List.mem_cons_self
  obtain ⟨x, toX, here⟩ := here.move _ rfl
    (.intentAcknowledged rfl (here.trace ▸ durable_now journal _ _))
  have created : Moves setting p journal x i cell
      { Run.fresh with position := .replicating .starting } _ := .createCalled rfl none
  rw [callCreate_open here.admitted] at created
  obtain ⟨y, toY, here⟩ := here.move _ rfl created
  obtain ⟨z, toZ, here⟩ := here.move _ rfl (.createResolves rfl ref true)
  obtain ⟨a, toA, here⟩ := here.land setting journal List.mem_cons_self
  obtain ⟨b, toB, here⟩ := here.move _ rfl
    (.allocationAcknowledged ref rfl (here.trace ▸ durable_now journal _ _))
  obtain ⟨c, toC, here⟩ := here.move _ rfl (.sessionArrives ref rfl rfl)
  obtain ⟨d, toD, here⟩ := here.move _ rfl (.destroyed ref rfl)
  obtain ⟨e, toE, here⟩ := here.move _ rfl (.removalConfirmed ref rfl true none)
  obtain ⟨t, toT, here⟩ := here.move _ rfl (.releases rfl none)
  refine ⟨t, ?_, here.trace⟩
  exact toW.trans (toX.trans (toY.trans (toZ.trans (toA.trans (toB.trans (toC.trans
    (toD.trans (toE.trans toT))))))))

/-- The journal stays truthful in every order of outcomes, timeouts and stops. -/
theorem executeExperimentBatch_truthful
    (contract : ∀ error, error.failedCleanup = false → ¬ leavesSandbox error)
    {world : World} (reached : Reachable setting p journal world)
    {later earlier : List Event} {event : Event} (split : world.trace = later ++ event :: earlier) :
    (∀ i, event = .created i → ∃ cell, p.cells[i]? = some cell ∧
      .acknowledged (some i) (recordOf setting p i cell .intent) ∈ earlier ∧
      Durable journal earlier (recordOf setting p i cell .intent) ∧
      (∀ k, .stopRefill k ∉ earlier) ∧ .created i ∉ earlier) ∧
    (∀ owner record, event = .asked owner record → record.body = .notAllocated →
      ∃ i cell, owner = some i ∧ p.cells[i]? = some cell ∧
        record = recordOf setting p i cell .notAllocated ∧
        (.created i ∉ world.trace ∨
          ∃ error, .rejected i error ∈ earlier ∧ ¬ leavesSandbox error ∧
            ∀ ref, .resolved i ref ∉ world.trace)) ∧
    (∀ owner record ref recovery, event = .asked owner record →
      record.body = .absent ref recovery →
      Durable journal earlier { record with body := .allocated ref } ∧ .removed ref ∈ earlier) := by
  have why := (reachable_sound contract reached).why
  have here : Explained (Why setting p journal leavesSandbox) (later ++ event :: earlier) :=
    split ▸ why
  have explained := here.split
  have before := here.earlier.2
  refine ⟨?_, ?_, ?_⟩
  · rintro i rfl
    obtain ⟨cell, planned, acked, running, first, -⟩ := explained
    exact ⟨cell, planned, acked, durable_of_acknowledged before acked, running, first⟩
  · rintro owner record rfl body
    simp only [Why, body] at explained
    obtain ⟨i, cell, rfl, planned, same, unheld⟩ := explained
    refine ⟨i, cell, rfl, planned, same, ?_⟩
    rcases unheld with unstarted | ⟨error, rejected, clean⟩
    · left
      rw [split]
      intro mem
      rcases List.mem_append.mp mem with mem | mem
      · exact not_created_after why split body mem
      · rcases List.mem_cons.mp mem with same | mem
        · cases same
        · exact unstarted mem
    · have kept : .rejected i error ∈ world.trace := by
        rw [split]
        exact List.mem_append_right _ (List.mem_cons_of_mem _ rejected)
      exact .inr ⟨error, rejected, clean, rejected_or_resolved why kept⟩
  · rintro owner record ref recovery rfl body
    simpa only [Why, body] using explained

end

def sampleSetting : Setting where
  runtime := { plainJson with
    sha256 := fun _ => "0", localeCompare := byCodeUnits, collation := instTransCmpStringByCodeUnits }
  registry := ⟨some⟩
  providers := [("e2b", "e2b")]
  suites := [("memory", .obj [])]
  targetSpec := ⟨4, 8, some 40⟩
  workflowAttempt := 1
  uuid := fun i => toString i

def sampleCell : ExperimentCell where
  id := "c0"
  provider := "e2b"
  quotaDomain := "e2b"
  suite := "memory"
  replicate := 0
  workloadRevision := "sha256:0"
  artifactIdentity := "sha256:0"
  environmentRevision := "v"
  target := ⟨4, 8, some 40⟩
  gpu := none
  metrics := ["m"]
  exclusions := []
  passes := 2
  startupMinutes := 5
  workloadMinutes := 40
  finishMinutes := 5

def samplePrepared : Prepared where
  plan := ⟨"7", "v", "2026-01-31", "sha256:0", 1, [], [sampleCell], [], []⟩
  batch := ⟨"b0", "e2b", none, ["c0"], 1, 70⟩
  cells := [sampleCell]
  account := ⟨"e2b", 1, none, none, none⟩

def sampleShared : Shared := ⟨none, [⟨"e2b", .obj []⟩], [], none⟩

theorem sample_admitted : admitCell sampleSetting samplePrepared sampleShared false sampleCell =
    .ok () := by
  decide +kernel

theorem executeExperimentBatch_truthful_sample :
    ∃ (world : World) (earlier : List Event) (record : AccountRecord),
      Reachable sampleSetting samplePrepared [] world ∧
      world.trace = .asked (some 0) record :: earlier ∧
      record.body = .absent ⟨"e2b", "s1"⟩ none ∧
      Durable [] earlier { record with body := .allocated ⟨"e2b", "s1"⟩ } ∧
      .removed ⟨"e2b", "s1"⟩ ∈ earlier := by
  have admission : ∃ world : World, Leads (Step sampleSetting samplePrepared [])
      (initial sampleSetting samplePrepared) world ∧ world.stage = .running ∧ world.next = 0 ∧
      world.shared = sampleShared ∧ world.trace = [] := by
    refine ⟨_, ((((Relation.ReflTransGen.refl.tail (.opens "e2b" [] (.obj []) rfl)).tail
      (.readsAccount rfl [] nofun)).tail (.readsHistory rfl [] nofun)).tail (.reconciled rfl)),
      rfl, rfl, rfl, rfl⟩
  obtain ⟨start, toStart, running, none_launched, shared, silent⟩ := admission
  have planned : samplePrepared.cells[start.next]? = some sampleCell := by
    rw [none_launched]
    rfl
  have free : start.pending < samplePrepared.batch.maxConcurrency := by
    simp [World.pending, none_launched, samplePrepared]
  obtain ⟨a, toA, launched⟩ := launch_at sampleSetting [] running planned free
    (by rw [shared]; rfl) (by rw [shared]; exact sample_admitted)
  obtain ⟨t, toT, trace⟩ := attempt_completes sampleSetting [] launched ⟨"e2b", "s1"⟩
  rw [none_launched, silent] at trace
  have reached : Reachable sampleSetting samplePrepared [] t :=
    ⟨_, rfl, toStart.trans (toA.trans toT)⟩
  have contract : ∀ error : CreateError, error.failedCleanup = false →
      ¬ error.failedCleanup = true := by
    simp
  have last : t.trace = [] ++ _ :: _ := trace
  have truthful := executeExperimentBatch_truthful contract reached last
  exact ⟨t, _, _, reached, trace, rfl, truthful.2.2 _ _ _ _ rfl rfl⟩

end ExecuteBatch
