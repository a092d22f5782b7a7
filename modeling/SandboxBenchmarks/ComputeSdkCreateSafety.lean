import SandboxBenchmarks.ComputeSdkCreate

/-!
# No create leaves an allocation behind unnoticed

What the events of a run say about the allocation, and that a create which fails
plainly has proof in its own events that nothing remains.
-/

namespace ComputeSdkCreate

open DriverPort Interaction

variable {driver : Driver} {events : Events}

/-! ### What events say -/

/-- The wrapper was called, with the recovery locator read before, and answered. -/
structure Started (driver : Driver) (events : Events) (locator : Locator)
    (answer : Except Thrown Returned) : Prop where
  read : ∃ options shape, (⟨.locator options, shape⟩ : Sigma Answer) ∈ events ∧
    driver.recoveryLocatorOf shape = .ok locator ∧
    (⟨.create options, answer⟩ : Sigma Answer) ∈ events

/-- Every observation through the locator says absent, and none contradicts an earlier one. -/
def Unseen (driver : Driver) (locator : Locator) (events : Events) : Prop :=
  ∀ shape, (⟨.cleanup locator, shape⟩ : Sigma Answer) ∈ events →
    driver.normalizeRecoveryObservation shape = .ok (.absent false)

/-- The sandbox was seen destroyed, or seen absent twice, the horizon apart and with no
contradiction between. -/
def Reconciled (driver : Driver) (locator : Locator) (events : Events) : Prop :=
  (∃ shape, (⟨.cleanup locator, shape⟩ : Sigma Answer) ∈ events ∧
    driver.normalizeRecoveryObservation shape = .ok .destroyed) ∨
  ∃ before first between last contradicted after, ∃ at_ at' : ℚ,
    events = before ++ [⟨.cleanup locator, first⟩, ⟨.now, at_⟩] ++ between ++
      [⟨.cleanup locator, last⟩, ⟨.now, at'⟩] ++ after ∧
    driver.normalizeRecoveryObservation first = .ok (.absent contradicted) ∧
    Unseen driver locator between ∧
    driver.normalizeRecoveryObservation last = .ok (.absent false) ∧
    at_ + driver.recovery.absenceConfirmationMs ≤ at'

/-- Proof that nothing remains allocated. -/
inductive Clear (driver : Driver) (events : Events) : Prop
  | definitive (locator : Locator) (caught : Thrown) (started : Started driver events locator (.error caught))
    (classified : (⟨.classify .isDefinitive caught, .yes⟩ : Sigma Answer) ∈ events)
  | rolledBack (locator : Locator) (sandbox : ℕ) (ref : SandboxRef)
    (started : Started driver events locator (.ok (.handle sandbox)))
    (destroyed : (⟨.destroy sandbox ref locator, .ok ()⟩ : Sigma Answer) ∈ events)
  | reconciled (locator : Locator) (answer : Except Thrown Returned)
    (started : Started driver events locator answer)
    (reconciled : Reconciled driver locator events)

/-- What the events of a cleanup say when it succeeds. -/
def Gone (driver : Driver) (events : Events) : Cleanup → Prop
  | .reconcile locator | .rollback _ none locator => Reconciled driver locator events
  | .rollback sandbox (some id) locator =>
    (⟨.destroy sandbox (some ⟨driver.provider, id⟩) locator, .ok ()⟩ : Sigma Answer) ∈ events
  | .vendor callback => (⟨.vendorCleanup callback, .ok ()⟩ : Sigma Answer) ∈ events

lemma Unseen.append {locator : Locator} {events' : Events} (h : Unseen driver locator events)
    (h' : Unseen driver locator events') : Unseen driver locator (events ++ events') := by
  intro shape member
  rcases List.mem_append.mp member with here | there
  · exact h shape here
  · exact h' shape there

lemma Started.mono {events' : Events} {locator : Locator} {answer : Except Thrown Returned}
    (h : Started driver events locator answer) (later : events <+: events') :
    Started driver events' locator answer := by
  obtain ⟨options, shape, read, valid, called⟩ := h.read
  exact ⟨options, shape, later.subset read, valid, later.subset called⟩

lemma Reconciled.append {locator : Locator} (h : Reconciled driver locator events)
    (earlier later : Events) : Reconciled driver locator (earlier ++ events ++ later) := by
  rcases h with ⟨shape, member, gone⟩ |
    ⟨before, first, between, last, contradicted, after, at_, at', rfl, absent, unseen, again, apart⟩
  · refine Or.inl ⟨shape, ?_, gone⟩
    exact List.mem_append_left _ (List.mem_append_right _ member)
  · refine Or.inr ⟨earlier ++ before, first, between, last, contradicted, after ++ later, at_, at', ?_,
      absent, unseen, again, apart⟩
    simp

lemma Clear.mono {events' : Events} (h : Clear driver events) (later : events <+: events') :
    Clear driver events' := by
  cases h with
  | definitive locator caught started classified =>
    exact .definitive locator caught (started.mono later) (later.subset classified)
  | rolledBack locator sandbox ref started destroyed =>
    exact .rolledBack locator sandbox ref (started.mono later) (later.subset destroyed)
  | reconciled locator answer started reconciled =>
    obtain ⟨new, rfl⟩ := later
    exact .reconciled locator answer (started.mono (List.prefix_append _ _))
      (by simpa using reconciled.append [] new)

/-! ### Reconciling -/

abbrev Free : Events → Query → Prop := fun _ _ => True

/-- Where the loop stands: nothing seen yet, or absent since. -/
def Waiting (driver : Driver) (locator : Locator) (seen : Events) : Option ℚ → Prop
  | none => True
  | some at_ => ∃ before first between, ∃ contradicted,
    seen = before ++ [⟨.cleanup locator, first⟩, ⟨.now, at_⟩] ++ between ∧
    driver.normalizeRecoveryObservation first = .ok (.absent contradicted) ∧
    Unseen driver locator between

/-- The run goes on from `base`, and succeeds only if the cleanup's own events say so. -/
def Cleans (driver : Driver) (cleanup : Cleanup) (base later : Events)
    (result : Except Thrown Unit) : Prop :=
  ∃ new, later = base ++ new ∧ (result = .ok () → Gone driver new cleanup)

lemma holds_ifAborted {post : Events → Except Thrown Unit → Prop} {signalled : Bool} {error : Thrown}
    (silent : signalled = false → post events (.ok ()))
    (answered : signalled = true → post (events ++ [⟨.aborted, false⟩]) (.ok ()))
    (aborted : post (events ++ [⟨.aborted, true⟩]) (.error error)) :
    Holds Free post (Driver.ifAborted signalled error) events := by
  cases signalled with
  | false => exact silent rfl
  | true =>
    refine ⟨trivial, ?_⟩
    rintro (_ | _)
    · exact answered rfl
    · exact aborted

lemma holds_observe {locator : Locator} :
    Holds Free (fun later result => ∃ shape, later = events ++ [⟨.cleanup locator, shape⟩] ∧
        ∀ observation, result = .ok observation →
          driver.normalizeRecoveryObservation shape = .ok observation)
      (driver.observe locator) events := by
  refine ⟨trivial, fun shape => ?_⟩
  dsimp only
  split
  · rename_i observation normalized
    refine ⟨shape, rfl, ?_⟩
    rintro _ ⟨⟩
    exact normalized
  · exact ⟨shape, rfl, fun _ impossible => by cases impossible⟩

lemma unseen_of_other {locator : Locator} {event : Sigma Answer}
    (other : ∀ shape, event ≠ ⟨.cleanup locator, shape⟩) : Unseen driver locator [event] := by
  intro shape member
  rw [List.mem_singleton] at member
  exact absurd member.symm (other shape)

lemma Waiting.append {locator : Locator} {seen extra : Events} {firstAbsentAt : Option ℚ}
    (h : Waiting driver locator seen firstAbsentAt) (unseen : Unseen driver locator extra) :
    Waiting driver locator (seen ++ extra) firstAbsentAt := by
  cases firstAbsentAt with
  | none => trivial
  | some at_ =>
    obtain ⟨before, first, between, contradicted, rfl, absent, quiet⟩ := h
    exact ⟨before, first, between ++ extra, contradicted, by simp, absent, quiet.append unseen⟩

/-- The time that an absence counts from, after one more observation. -/
lemma Waiting.observe {locator : Locator} {seen : Events} {firstAbsentAt : Option ℚ}
    {shape : Shape (Field × Field)} {contradicted : Bool} (at_ : ℚ)
    (h : Waiting driver locator seen firstAbsentAt)
    (absent : driver.normalizeRecoveryObservation shape = .ok (.absent contradicted)) :
    Waiting driver locator (seen ++ [⟨.cleanup locator, shape⟩, ⟨.now, at_⟩])
      (some (Driver.absentSince firstAbsentAt contradicted at_)) := by
  cases contradicted with
  | true => exact ⟨seen, shape, [], true, by simp [Driver.absentSince], absent, fun _ member => by cases member⟩
  | false =>
    cases firstAbsentAt with
    | none => exact ⟨seen, shape, [], false, by simp [Driver.absentSince], absent, fun _ member => by cases member⟩
    | some first =>
      have here : Unseen driver locator [⟨.cleanup locator, shape⟩, ⟨.now, at_⟩] := by
        intro other member
        rcases List.mem_cons.mp member with same | member
        · cases same
          exact absent
        · simp at member
      exact h.append here

lemma reconciled_of_apart {locator : Locator} {seen : Events} {firstAbsentAt : Option ℚ}
    {shape : Shape (Field × Field)} {contradicted : Bool} {at_ : ℚ}
    (h : Waiting driver locator seen firstAbsentAt)
    (absent : driver.normalizeRecoveryObservation shape = .ok (.absent contradicted))
    (apart : Driver.absentSince firstAbsentAt contradicted at_ +
      driver.recovery.absenceConfirmationMs ≤ at_) :
    Reconciled driver locator (seen ++ [⟨.cleanup locator, shape⟩, ⟨.now, at_⟩]) := by
  have positive : (0 : ℚ) < driver.recovery.absenceConfirmationMs := by
    exact_mod_cast driver.recovery.positive
  cases contradicted with
  | true =>
    simp only [Driver.absentSince, if_true] at apart
    linarith
  | false =>
    cases firstAbsentAt with
    | none =>
      simp only [Driver.absentSince, Bool.false_eq_true, if_false, Option.getD_none] at apart
      linarith
    | some first =>
      obtain ⟨before, earlier, between, contradicted, rfl, absent', unseen⟩ := h
      simp only [Driver.absentSince, Bool.false_eq_true, if_false, Option.getD_some] at apart
      exact Or.inr ⟨before, earlier, between, shape, contradicted, [], first, at_, by simp, absent',
        unseen, absent, apart⟩

lemma holds_reconcileFrom (signalled : Bool) (locator : Locator) (attempts : ℕ)
    (firstAbsentAt : Option ℚ) (base seen : Events)
    (waiting : Waiting driver locator seen firstAbsentAt) :
    Holds Free (Cleans driver (.reconcile locator) base)
      (driver.reconcileFrom signalled locator attempts firstAbsentAt) (base ++ seen) := by
  induction attempts generalizing firstAbsentAt seen with
  | zero => exact ⟨seen, rfl, fun impossible => by cases impossible⟩
  | succ attempts ih =>
    rw [Driver.reconcileFrom]
    have checked : Holds Free (fun later result => ∃ extra, later = base ++ seen ++ extra ∧
        (result = .ok () → Unseen driver locator extra))
        (Driver.ifAborted signalled
          (driver.wrapperAborted "failed-create reconciliation" .destroyFailed)) (base ++ seen) := by
      apply holds_ifAborted
      · exact fun _ => ⟨[], by simp, fun _ _ member => by cases member⟩
      · exact fun _ => ⟨_, rfl, fun _ => unseen_of_other (by simp)⟩
      · exact ⟨_, rfl, fun impossible => by cases impossible⟩
    refine checked.bind ?_ ?_
    · rintro later error _ ⟨extra, rfl, _⟩
      exact ⟨seen ++ extra, by simp, fun impossible => by cases impossible⟩
    rintro later ⟨⟩ _ ⟨extra, rfl, unseen⟩
    replace waiting := waiting.append (unseen rfl)
    refine holds_observe.bind ?_ ?_
    · rintro later error _ ⟨shape, rfl, _⟩
      exact ⟨seen ++ extra ++ [⟨.cleanup locator, shape⟩], by simp, fun impossible => by cases impossible⟩
    rintro later observation _ ⟨shape, rfl, normalized⟩
    replace normalized := normalized observation rfl
    cases observation with
    | destroyed =>
      refine ⟨seen ++ extra ++ [⟨.cleanup locator, shape⟩], by simp, fun _ => Or.inl ⟨shape, ?_, normalized⟩⟩
      simp
    | absent contradicted =>
      refine ⟨trivial, fun (observedAt : ℚ) => ?_⟩
      have here : base ++ seen ++ extra ++ [⟨.cleanup locator, shape⟩] ++ [⟨.now, observedAt⟩] =
          base ++ (seen ++ extra ++ [⟨.cleanup locator, shape⟩, ⟨.now, observedAt⟩]) := by simp
      rw [here]
      dsimp only
      split
      · rename_i apart
        exact ⟨_, rfl, fun _ => reconciled_of_apart waiting normalized apart⟩
      split
      · exact ⟨_, rfl, fun impossible => by cases impossible⟩
      refine ⟨trivial, fun (elapsed : Bool) => ?_⟩
      dsimp only
      split
      · exact ⟨_, List.append_assoc _ _ _, fun impossible => by cases impossible⟩
      · rw [List.append_assoc]
        apply ih
        exact (waiting.observe observedAt normalized).append (unseen_of_other (by simp))

lemma holds_reconcile (signalled : Bool) (locator : Locator) (base : Events) :
    Holds Free (Cleans driver (.reconcile locator) base)
      (driver.reconcileAmbiguousCreate signalled locator) base := by
  have h := @holds_reconcileFrom driver signalled locator driver.recovery.maxAttempts none
    base [] trivial
  rwa [List.append_nil] at h

/-! ### Retained cleanups -/

lemma Gone.append {cleanup : Cleanup} (h : Gone driver events cleanup) (earlier : Events) :
    Gone driver (earlier ++ events) cleanup := by
  cases cleanup with
  | reconcile locator => simpa [Gone] using Reconciled.append h earlier []
  | rollback sandbox parsedId locator =>
    cases parsedId with
    | none => simpa [Gone] using Reconciled.append h earlier []
    | some id => exact List.mem_append_right _ h
  | vendor callback => exact List.mem_append_right _ h

lemma holds_destroySandbox {sandbox : ℕ} {id : String} {locator : Locator} (base : Events) :
    Holds Free (Cleans driver (.rollback sandbox (some id) locator) base)
      (driver.destroySandbox sandbox (some ⟨driver.provider, id⟩) locator) base := by
  refine ⟨trivial, ?_⟩
  rintro (caught | ⟨⟩)
  · exact ⟨_, rfl, fun impossible => by cases impossible⟩
  · exact ⟨_, rfl, fun _ => List.mem_singleton.mpr rfl⟩

lemma holds_rollback (signalled : Bool) (sandbox : ℕ) (parsedId : Option String) (locator : Locator)
    (base : Events) : Holds Free (Cleans driver (.rollback sandbox parsedId locator) base)
      (driver.rollback signalled sandbox parsedId locator) base := by
  rw [Driver.rollback.eq_def]
  have checked : Holds Free (fun later _ => ∃ extra, later = base ++ extra)
      (Driver.ifAborted signalled
        (driver.wrapperAborted "failed-create cleanup" .destroyFailed)) base := by
    apply holds_ifAborted
    · exact fun _ => ⟨[], by simp⟩
    · exact fun _ => ⟨_, rfl⟩
    · exact ⟨_, rfl⟩
  refine checked.bind ?_ ?_
  · rintro later error _ ⟨extra, rfl⟩
    exact ⟨extra, rfl, fun impossible => by cases impossible⟩
  rintro later ⟨⟩ _ ⟨extra, rfl⟩
  rw [holds_tryCatch]
  refine Holds.mono (?_ : Holds Free (Cleans driver (.rollback sandbox parsedId locator)
    (base ++ extra)) _ (base ++ extra)) ?_
  · cases parsedId with
    | none => exact holds_reconcile signalled locator _
    | some id => exact holds_destroySandbox _
  rintro later (caught | ⟨⟩) _ ⟨new, rfl, gone⟩
  · exact ⟨extra ++ new, by simp, fun impossible => by cases impossible⟩
  · exact ⟨extra ++ new, by simp, fun _ => (gone rfl).append extra⟩

lemma holds_cleanupWith (signalled : Bool) (cleanup : Cleanup) (base : Events) :
    Holds Free (Cleans driver cleanup base) (driver.cleanupWith signalled cleanup) base := by
  cases cleanup with
  | reconcile locator => exact holds_reconcile signalled locator base
  | rollback sandbox parsedId locator => exact holds_rollback signalled sandbox parsedId locator base
  | vendor callback =>
    refine ⟨trivial, ?_⟩
    rintro (caught | ⟨⟩)
    · exact ⟨_, rfl, fun impossible => by cases impossible⟩
    · exact ⟨_, rfl, fun _ => List.mem_singleton.mpr rfl⟩

/-! ### Steps that leave the allocation alone -/

/-- No event calls the wrapper or removes anything. -/
def Quiet (events : Events) : Prop :=
  ∀ e ∈ events, (∀ options, e.1 ≠ .create options) ∧ (∀ sandbox ref locator, e.1 ≠ .destroy sandbox ref locator) ∧
    (∀ locator, e.1 ≠ .cleanup locator) ∧ ∀ callback, e.1 ≠ .vendorCleanup callback

/-- Wherever it runs, the program goes on by quiet events, to a result as `P` says. -/
def Quietly {α : Type} (P : Except Thrown α → Prop) (program : Creating α) : Prop :=
  ∀ base, Holds Free (fun later result => ∃ new, later = base ++ new ∧ Quiet new ∧ P result) program base

lemma Quiet.nil : Quiet [] := fun _ member => by cases member

lemma Quiet.append {events' : Events} (h : Quiet events) (h' : Quiet events') :
    Quiet (events ++ events') := by
  intro e member
  rcases List.mem_append.mp member with here | there
  · exact h e here
  · exact h' e there

lemma Quietly.computed {α : Type} {P : Except Thrown α → Prop} {value : Except Thrown α}
    (h : P value) : Quietly P (computed value) :=
  fun _ => ⟨[], by simp, .nil, h⟩

lemma Quietly.question {α : Type} {P : Except Thrown α → Prop} {query : Query}
    {next : Answer query → Creating α} (h : ∀ answer, Quietly P (next answer))
    (quiet : ∀ answer, Quiet [⟨query, answer⟩]) : Quietly P (question query next) := by
  intro base
  refine ⟨trivial, fun answer => (h answer _).mono ?_⟩
  rintro later result _ ⟨new, rfl, silent, holds⟩
  exact ⟨⟨query, answer⟩ :: new, by simp, (quiet answer).append silent, holds⟩

lemma Quietly.bind {α β : Type} {P : Except Thrown α → Prop} {R : Except Thrown β → Prop}
    {program : Creating α} {next : α → Creating β} (h : Quietly P program)
    (error : ∀ e, P (.error e) → R (.error e))
    (ok : ∀ a, P (.ok a) → Quietly R (next a)) : Quietly R (program >>= next) := by
  intro base
  refine (h base).bind ?_ ?_
  · rintro later e _ ⟨new, rfl, silent, holds⟩
    exact ⟨new, rfl, silent, error e holds⟩
  · rintro later a _ ⟨new, rfl, silent, holds⟩
    refine (ok a holds _).mono ?_
    rintro later result _ ⟨more, rfl, silent', holds'⟩
    exact ⟨new ++ more, by simp, silent.append silent', holds'⟩

/-- A result that asks neither for a retry nor for a cleanup. -/
def Terminal {α : Type} : Except Thrown α → Prop
  | .ok _ => True
  | .error (.driver error) | .error (.contract error) => isRetryableDriverCreate error = false
  | .error _ => False

lemma terminal_vendorContractFailure {α : Type} (operation detail : String)
    (ref : Option SandboxRef) :
    Terminal (.error (driver.vendorContractFailure operation detail ref) : Except Thrown α) := rfl

lemma quietly_ifAborted {P : Except Thrown Unit → Prop} {signalled : Bool} {error : Thrown}
    (ok : P (.ok ())) (aborted : P (.error error)) :
    Quietly P (Driver.ifAborted signalled error) := by
  cases signalled with
  | false => exact Quietly.computed ok
  | true =>
    refine Quietly.question ?_ (by simp [Quiet])
    rintro (_ | _)
    · exact Quietly.computed ok
    · exact Quietly.computed aborted

lemma quietly_mapCreateRequest : Quietly Terminal driver.mapCreateRequest := by
  refine Quietly.question ?_ (by simp [Quiet])
  rintro (detail | _ | _ | options)
  case options => exact Quietly.computed (P := Terminal) trivial
  all_goals
    refine Quietly.computed ?_
    rfl

lemma terminal_recoveryLocatorOf (shape : Shape (Field × Field × Field)) :
    Terminal (driver.recoveryLocatorOf shape) := by
  rw [Driver.recoveryLocatorOf.eq_def]
  repeat' split
  all_goals first | rfl | trivial

lemma quietly_parseSandboxId (boundary raw : String) :
    Quietly (fun _ => True) (driver.parseSandboxId boundary raw) := by
  refine Quietly.question ?_ (by simp [Quiet])
  intro parsed
  dsimp only
  repeat' split
  all_goals exact Quietly.computed trivial

lemma quietly_identify (signalled : Bool) (sandbox : ℕ) :
    Quietly (fun _ => True) (driver.identify signalled sandbox) := by
  refine (quietly_ifAborted (P := fun _ => True) trivial trivial).bind (fun _ _ => trivial) ?_
  intro _ _
  refine Quietly.question ?_ (by simp [Quiet])
  intro shape
  split
  · split
    · exact Quietly.computed trivial
    · refine (quietly_parseSandboxId _ _).bind (fun _ _ => trivial) ?_
      intro decoded _
      split
      · exact quietly_parseSandboxId _ _
      · exact Quietly.computed trivial
  · exact Quietly.computed trivial
  · exact Quietly.computed trivial

/-- What an attached handle is given out as. -/
def Attached (driver : Driver) (sandbox : ℕ) (id : String) : Except Thrown Created → Prop
  | .ok created => created.handle = sandbox ∧ created.sandboxRef = ⟨driver.provider, id⟩
  | .error _ => True

lemma quietly_requireFilesystem (sandbox : ℕ) (ref : SandboxRef) :
    Quietly (fun _ => True) (driver.requireFilesystem sandbox ref) := by
  refine Quietly.question ?_ (by simp [Quiet])
  rintro (_ | _ | _ | _ | _)
  all_goals exact Quietly.computed trivial

lemma quietly_prepareAndVerify (sandbox : ℕ) (ref : SandboxRef) :
    Quietly (fun _ => True) (driver.prepareAndVerifyCreatedRequest sandbox ref) := by
  refine Quietly.question ?_ (by simp [Quiet])
  intro settled
  dsimp only
  repeat' split
  all_goals exact Quietly.computed trivial

lemma quietly_attach (signalled : Bool) (sandbox : ℕ) (id : String) :
    Quietly (Attached driver sandbox id) (driver.attach signalled sandbox id) := by
  have files : Quietly (fun _ => True) (driver.files sandbox ⟨driver.provider, id⟩) := by
    rw [Driver.files]
    split
    · exact quietly_requireFilesystem _ _
    · exact Quietly.computed trivial
  refine files.bind (R := Attached driver sandbox id) (fun _ _ => trivial) ?_
  intro _ _
  refine Quietly.question ?_ (by simp [Quiet])
  rintro (_ | _)
  · exact Quietly.computed (trivial : Attached driver sandbox id (.error _))
  have hook : Quietly (fun _ => True) (driver.prepared sandbox ⟨driver.provider, id⟩) := by
    rw [Driver.prepared]
    split
    · exact quietly_prepareAndVerify _ _
    · exact Quietly.computed trivial
  refine hook.bind (R := Attached driver sandbox id) (fun _ _ => trivial) ?_
  intro reportedArtifact _
  refine (quietly_ifAborted (P := fun _ => True) trivial trivial).bind
    (R := Attached driver sandbox id) (fun _ _ => trivial) ?_
  intro _ _
  exact Quietly.computed (⟨rfl, rfl⟩ : Attached driver sandbox id (.ok _))

/-! ### Every way out of a create -/

/-- A cleanup that reaches this create's allocation, or that nothing needs. -/
inductive Retained (driver : Driver) (events : Events) : Cleanup → Prop
  | reconcile (locator : Locator) (answer : Except Thrown Returned)
    (started : Started driver events locator answer) : Retained driver events (.reconcile locator)
  | rollback (sandbox : ℕ) (parsedId : Option String) (locator : Locator)
    (started : Started driver events locator (.ok (.handle sandbox))) :
    Retained driver events (.rollback sandbox parsedId locator)
  /-- The wrapper's own error, passed on with the cleanup it came with. -/
  | passed (locator retained : Locator) (cleanupError createError : Thrown) (cleanup : Cleanup)
    (started : Started driver events locator (.error
      (.failedCreateCleanup driver.provider retained cleanupError createError cleanup))) :
    Retained driver events cleanup
  | clear (cleanup : Cleanup) (clear : Clear driver events) : Retained driver events cleanup

def NeverInvoked (events : Events) : Prop :=
  ∀ options answer, (⟨.create options, answer⟩ : Sigma Answer) ∉ events

def Untouched (events : Events) : Prop :=
  ∀ e ∈ events, (∀ sandbox ref locator, e.1 ≠ .destroy sandbox ref locator) ∧
    (∀ locator, e.1 ≠ .cleanup locator) ∧ ∀ callback, e.1 ≠ .vendorCleanup callback

/-- The error tells the harness that it may create again. -/
def Marked : Thrown → Prop
  | .driver error | .contract error => isRetryableDriverCreate error = true
  | _ => False

def Sound (driver : Driver) (events : Events) : Except Thrown Created → Prop
  | .ok created => Untouched events ∧ created.sandboxRef.provider = driver.provider ∧
    ∃ locator, Started driver events locator (.ok (.handle created.handle))
  | .error (.failedCreateCleanup _ _ _ _ cleanup) => Retained driver events cleanup
  | .error thrown => (NeverInvoked events ∨ Clear driver events) ∧ (Marked thrown → Clear driver events)

lemma sound_of_clear {thrown : Thrown} (clear : Clear driver events) :
    Sound driver events (.error thrown) := by
  cases thrown with
  | driver error => exact ⟨Or.inr clear, fun _ => clear⟩
  | contract error => exact ⟨Or.inr clear, fun _ => clear⟩
  | failedCreateCleanup provider locator cleanupError createError cleanup =>
    exact .clear cleanup clear
  | foreign message => exact ⟨Or.inr clear, fun _ => clear⟩

lemma holds_classifies (classifier : Classifier) (caught : Thrown) (base : Events) :
    Holds Free (fun later result => ∃ new, later = base ++ new ∧ (∀ e, result ≠ .error e) ∧
        (result = .ok true → (⟨.classify classifier caught, .yes⟩ : Sigma Answer) ∈ new))
      (driver.classifiesCreateRejection classifier caught) base := by
  rw [Driver.classifiesCreateRejection]
  split
  · refine ⟨trivial, ?_⟩
    intro reply
    refine ⟨_, rfl, by simp, fun yes => ?_⟩
    have : reply = .yes := by simpa using yes
    subst this
    exact List.mem_singleton.mpr rfl
  · exact ⟨[], by simp, by simp, fun yes => by cases yes⟩

/-- An error that may be thrown before anything is reconciled comes with a cleanup of its own. -/
lemma holds_rejectWithRecovery {locator : Locator} {answer : Except Thrown Returned}
    (signalled : Bool) (primary : Thrown) (started : Started driver events locator answer)
    (passes : ∀ provider retained cleanupError createError cleanup,
      primary = .failedCreateCleanup provider retained cleanupError createError cleanup →
      Retained driver events cleanup) :
    Holds Free (Sound driver) (driver.rejectWithRecovery signalled locator primary : Creating Created)
      events := by
  have recovers : Holds Free (Sound driver) (do
      tryCatch (driver.reconcileAmbiguousCreate signalled locator) fun cleanupError =>
        throw (.failedCreateCleanup driver.provider locator cleanupError primary
          (.reconcile locator))
      throw primary : Creating Created) events := by
    rw [holds_bind, holds_tryCatch]
    refine (holds_reconcile signalled locator events).mono ?_
    rintro later (cleanupError | ⟨⟩) extends_ ⟨new, rfl, reconciled⟩
    · exact .reconcile locator answer (started.mono extends_)
    · refine sound_of_clear (.reconciled locator answer (started.mono extends_) ?_)
      simpa using Reconciled.append (reconciled rfl) events []
  cases primary with
  | driver error => exact recovers
  | contract error => exact recovers
  | failedCreateCleanup provider retained cleanupError createError cleanup =>
    exact passes _ _ _ _ _ rfl
  | foreign message => exact recovers

lemma wrapperFailure_cleanup {code : DriverErrorCode} {operation : String} {ref : Option SandboxRef}
    {caught : Thrown} {provider : String} {locator : Locator} {cleanupError createError : Thrown}
    {cleanup : Cleanup} (h : driver.wrapperFailure code operation ref caught =
      .failedCreateCleanup provider locator cleanupError createError cleanup) :
    provider = driver.provider ∧
      caught = .failedCreateCleanup driver.provider locator cleanupError createError cleanup := by
  cases caught with
  | driver error => cases h
  | contract error => cases h
  | foreign message => cases h
  | failedCreateCleanup provider' locator' cleanupError' createError' cleanup' =>
    rw [Driver.wrapperFailure.eq_def] at h
    dsimp only at h
    split at h
    · rename_i own
      cases h
      obtain ⟨_, rfl⟩ := own
      exact ⟨rfl, rfl⟩
    · cases h

lemma mark_cleanup {thrown : Thrown} {provider : String} {locator : Locator}
    {cleanupError createError : Thrown} {cleanup : Cleanup}
    (h : Driver.mark thrown = .failedCreateCleanup provider locator cleanupError createError cleanup) :
    thrown = .failedCreateCleanup provider locator cleanupError createError cleanup := by
  cases thrown with
  | driver error => cases h
  | contract error => cases h
  | failedCreateCleanup _ _ _ _ _ => exact h
  | foreign message => cases h

lemma holds_rejected {locator : Locator} {caught : Thrown} (signalled : Bool)
    (started : Started driver events locator (.error caught)) :
    Holds Free (Sound driver) (driver.rejected signalled locator caught) events := by
  rw [Driver.rejected]
  refine (holds_classifies .isRetryableCreate caught events).bind ?_ ?_
  · rintro later e _ ⟨_, _, never, _⟩
    exact absurd rfl (never e)
  rintro later retryable extends_ ⟨new, rfl, _, _⟩
  replace started := started.mono extends_
  refine (holds_classifies .isDefinitive caught _).bind ?_ ?_
  · rintro later e _ ⟨_, _, never, _⟩
    exact absurd rfl (never e)
  rintro later definitive extends_ ⟨more, rfl, _, classified⟩
  replace started := started.mono extends_
  cases definitive with
  | true =>
    exact sound_of_clear (.definitive locator caught started
      (List.mem_append_right _ (classified rfl)))
  | false =>
    refine holds_rejectWithRecovery signalled _ started ?_
    intro provider retained cleanupError createError cleanup same
    have failure : driver.wrapperFailure .createFailed "create" none caught =
        .failedCreateCleanup provider retained cleanupError createError cleanup := by
      cases retryable with
      | true => exact mark_cleanup same
      | false => exact same
    obtain ⟨_, rfl⟩ := wrapperFailure_cleanup failure
    exact .passed locator retained cleanupError createError cleanup started

lemma clear_of_gone {locator : Locator} {sandbox : ℕ} {parsedId : Option String}
    (started : Started driver events locator (.ok (.handle sandbox)))
    (gone : Gone driver events (.rollback sandbox parsedId locator)) : Clear driver events := by
  cases parsedId with
  | none => exact .reconciled locator _ started gone
  | some id => exact .rolledBack locator sandbox _ started gone

/-- The program throws, and soundly. -/
def Fails {α : Type} (driver : Driver) (events : Events) (result : Except Thrown α) : Prop :=
  ∃ thrown, result = .error thrown ∧ Sound driver events (.error thrown)

lemma holds_abandon {α : Type} {locator : Locator} {sandbox : ℕ} (parsedId : Option String)
    (primary : Thrown) (started : Started driver events locator (.ok (.handle sandbox))) :
    Holds Free (Fails driver) (driver.abandon sandbox parsedId locator primary : Creating α)
      events := by
  rw [Driver.abandon.eq_def, holds_bind, holds_tryCatch]
  refine (holds_rollback false sandbox parsedId locator events).mono ?_
  rintro later (cleanupError | ⟨⟩) extends_ ⟨new, rfl, gone⟩
  · exact ⟨_, rfl, .rollback sandbox parsedId locator (started.mono extends_)⟩
  have clear := clear_of_gone (started.mono extends_) ((gone rfl).append events)
  refine (holds_classifies .isRetryableCreate primary _).bind ?_ ?_
  · rintro later e _ ⟨_, _, never, _⟩
    exact absurd rfl (never e)
  · rintro later retryable extends_ _
    exact ⟨_, rfl, sound_of_clear (clear.mono extends_)⟩

lemma Fails.sound {result : Except Thrown Created} (h : Fails driver events result) :
    Sound driver events result := by
  obtain ⟨thrown, rfl, sound⟩ := h
  exact sound

lemma Quiet.untouched (h : Quiet events) : Untouched events :=
  fun e member => (h e member).2

lemma Quiet.neverInvoked (h : Quiet events) : NeverInvoked events :=
  fun options _ member => (h _ member).1 options rfl

lemma Untouched.append {events' : Events} (h : Untouched events) (h' : Untouched events') :
    Untouched (events ++ events') := by
  intro e member
  rcases List.mem_append.mp member with here | there
  · exact h e here
  · exact h' e there

lemma holds_returned {locator : Locator} {value : Returned} (signalled : Bool)
    (untouched : Untouched events) (started : Started driver events locator (.ok value)) :
    Holds Free (Sound driver) (driver.returned signalled locator value) events := by
  cases value with
  | nonObject =>
    rw [Driver.returned]
    refine holds_rejectWithRecovery signalled _ started ?_
    rintro _ _ _ _ _ ⟨⟩
  | handle sandbox =>
    rw [Driver.returned, holds_bind, holds_tryCatch]
    refine (quietly_identify signalled sandbox events).mono ?_
    rintro later (primary | id) extends_ ⟨new, rfl, quiet, _⟩
    · -- the handle has no id, so its sandbox is followed up by the locator
      refine (holds_abandon none primary (started.mono extends_)).mono ?_
      rintro later _ _ ⟨thrown, rfl, sound⟩
      exact sound
    · refine holds_tryCatch.mpr ((quietly_attach signalled sandbox id _).mono ?_)
      rintro later (primary | created) further ⟨more, rfl, quiet', attached⟩
      · refine (holds_abandon (some id) primary ((started.mono extends_).mono further)).mono ?_
        exact fun later result _ fails => fails.sound
      · obtain ⟨handle, ref⟩ := attached
        refine ⟨(untouched.append quiet.untouched).append quiet'.untouched, by rw [ref], locator, ?_⟩
        rw [handle]
        exact (started.mono extends_).mono further

lemma sound_of_quiet {α : Type} {error : Thrown} (quiet : Quiet events)
    (terminal : Terminal (.error error : Except Thrown α)) : Sound driver events (.error error) := by
  cases error with
  | driver e =>
    refine ⟨Or.inl quiet.neverInvoked, fun marked => ?_⟩
    rw [Marked, show isRetryableDriverCreate e = false from terminal] at marked
    cases marked
  | contract e =>
    refine ⟨Or.inl quiet.neverInvoked, fun marked => ?_⟩
    rw [Marked, show isRetryableDriverCreate e = false from terminal] at marked
    cases marked
  | failedCreateCleanup _ _ _ _ _ => exact absurd terminal id
  | foreign message => exact absurd terminal id

lemma holds_create (driver : Driver) (signalled : Bool) :
    Holds Free (Sound driver) (driver.create signalled) [] := by
  rw [Driver.create]
  have checked : Quietly Terminal
      (Driver.ifAborted signalled (driver.wrapperAborted "create" .createFailed)) :=
    quietly_ifAborted trivial rfl
  refine (checked []).bind ?_ ?_
  · rintro later error _ ⟨new, rfl, quiet, terminal⟩
    exact sound_of_quiet quiet terminal
  rintro later ⟨⟩ _ ⟨before, rfl, quiet, _⟩
  refine (quietly_mapCreateRequest _).bind ?_ ?_
  · rintro later error _ ⟨new, rfl, quiet', terminal⟩
    exact sound_of_quiet (quiet.append quiet') terminal
  rintro later options _ ⟨mapped, rfl, quiet', _⟩
  replace quiet := quiet.append quiet'
  rw [Driver.readRecoveryLocator, holds_bind, holds_question]
  refine ⟨trivial, fun (shape : Shape (Field × Field × Field)) => ?_⟩
  rw [holds_computed]
  have read : Quiet [(⟨.locator options, shape⟩ : Sigma Answer)] := by simp [Quiet]
  replace quiet := quiet.append read
  have terminal := @terminal_recoveryLocatorOf driver shape
  cases located : driver.recoveryLocatorOf shape with
  | error error =>
    rw [located] at terminal
    exact sound_of_quiet quiet terminal
  | ok locator =>
    refine holds_question.mpr ⟨trivial, fun settled => ?_⟩
    have started : ∀ earlier : Events, ∀ answer, Started driver
        (earlier ++ [⟨.locator options, shape⟩] ++ [⟨.create options, answer⟩]) locator answer :=
      fun earlier answer => ⟨options, shape, by simp, located, by simp⟩
    cases settled with
    | error caught => exact holds_rejected signalled (started _ _)
    | ok value =>
      refine holds_returned signalled (quiet.untouched.append ?_) (started _ _)
      intro e member
      rw [List.mem_singleton] at member
      subst member
      simp

/-- A retained cleanup may be run whenever and as often as its holder likes; it only succeeds with
its own events saying that the allocation is gone. -/
def Retryable (driver : Driver) : Prop :=
  ∀ signalled cleanup events,
    (driver.cleanupWith signalled cleanup).run.Returns events (.ok ()) → Gone driver events cleanup

/-- A create resolves with a live sandbox, or has proof that nothing is left, or retains the
cleanup; and reconciling confirms an absence only by what it observed. -/
theorem create_sound (driver : Driver) (signalled : Bool) :
    (∀ events result, (driver.create signalled).run.Returns events result →
      Sound driver events result) ∧
    Retryable driver ∧
    ∀ locator events,
      (driver.reconcileAmbiguousCreate signalled locator).run.Returns events (.ok ()) →
      Reconciled driver locator events := by
  refine ⟨?_, ?_, ?_⟩
  · intro events result returns
    exact (holds_create driver signalled).returns returns
  · intro signalled cleanup events returns
    obtain ⟨new, rfl, gone⟩ := (holds_cleanupWith signalled cleanup []).returns returns
    exact gone rfl
  · intro locator events returns
    obtain ⟨new, rfl, gone⟩ := (@holds_reconcile driver signalled locator []).returns
      returns
    exact gone rfl

/-! ### A run to evaluate -/

def sampleDriver : Driver where
  provider := "e2b"
  sensitiveValues := []
  recovery := ⟨2000, 3, fun _ => true, by decide, by decide⟩
  wantsFiles := false
  lifecycle := true
  prepares := false
  transformed := false
  resolvedArtifact := .none

def sampleRefusal : Thrown := .foreign (some "too many sandboxes")

def absentAt (locator : Locator) (at_ : ℚ) : Events :=
  [⟨.cleanup locator, .record (.text "absent", .undefined)⟩, ⟨.now, at_⟩]

/-- The wrapper's create is refused for now, and its sandbox is twice not there. -/
def sampleEvents : Events :=
  [⟨.map, .options "options"⟩, ⟨.locator "options", .record (.text "name", .text "bench-1", .undefined)⟩,
    ⟨.create "options", .error sampleRefusal⟩, ⟨.classify .isRetryableCreate sampleRefusal, .yes⟩,
    ⟨.classify .isDefinitive sampleRefusal, .no⟩] ++
  absentAt (.name "bench-1") 10 ++ [⟨.delay 2000, true⟩] ++ absentAt (.name "bench-1") 2011

def samplePrimary : Thrown :=
  Driver.mark (sampleDriver.wrapperFailure .createFailed "create" none sampleRefusal)

theorem create_sound_sample :
    Sound sampleDriver sampleEvents (.error samplePrimary) ∧ Marked samplePrimary := by
  constructor
  · apply (create_sound sampleDriver false).1
    apply Program.returns_of_finishes
    decide +kernel
  · rfl

end ComputeSdkCreate
