import Mathlib.Data.List.ReduceOption
import SandboxBenchmarks.DriverPort
import SandboxBenchmarks.Library.Sequential
import SandboxBenchmarks.Library.Transition

/-!
# Sessions over a method table

`driverFromTable` keeps a session in a few variables that its methods and the
handlers of its promises read and write. A teardown waits for the accepted
operations, then calls the table's destroy; a `destroy()` call waits a bounded
time for it and otherwise leaves a `DeferredTeardownError` that can be disposed of
later. Handlers run one at a time and in any order.
-/

namespace TableSession

open DriverPort

def artifactsEqual (left right : ResolvedArtifact) : Bool :=
  if left.kind ≠ right.kind then false
  else left.kind == "none" || (right.kind ≠ "none" && left.ref == right.ref)

def artifactLabel (artifact : ResolvedArtifact) : String :=
  if artifact.kind = "none" then "none" else s!"{artifact.kind}:{artifact.ref}"

lemma artifactsEqual_iff {left right : ResolvedArtifact} :
    artifactsEqual left right = true ↔ left = right := by
  cases left <;> cases right <;> simp [artifactsEqual, ResolvedArtifact.kind, ResolvedArtifact.ref]

/-! ### The variables of a session -/

inductive Life
  | alive | destroying | destroyed
deriving DecidableEq, Repr

/-- How far a teardown promise has come. -/
inductive Teardown
  /-- Behind the drain of the operations accepted before it. -/
  | queued (drain : ℕ)
  /-- The table's destroy runs. -/
  | calling
  /-- It settled, and the handler that sets the state is still to run. -/
  | answered (ok : Bool)
  /-- The state is set, and the clearing handler is still to run. -/
  | handled (ok : Bool)
  | settled (ok : Bool)
deriving DecidableEq, Repr

/-- A new teardown, behind the drain of the operations accepted before it. -/
def Teardown.behind : Option ℕ → Teardown
  | none => calling
  | some drain => queued drain

inductive Outcome
  | destroyed | failed | deferred
deriving DecidableEq, Repr

/-- How far the promise of a `destroy()` call has come. -/
inductive Attempt
  | racing (drain teardown : ℕ)
  | following (teardown : ℕ)
  | bounded (outcome : Outcome)
  | settled (outcome : Outcome)
deriving DecidableEq, Repr

/-- A new attempt, which races a timer while there is a drain to wait for. -/
def Attempt.behind (teardown : ℕ) : Option ℕ → Attempt
  | none => following teardown
  | some drain => racing drain teardown

/-- Promises are numbered in the order they are made. -/
structure Session where
  ref : SandboxRef
  artifact : ResolvedArtifact
  state : Life
  destroyInFlight : Option ℕ
  teardownInFlight : Option ℕ
  teardownDrain : Option ℕ
  activeOperations : ℕ
  operationsDrained : Option ℕ
  /-- Accepted operations of the table that have not settled. -/
  running : ℕ
  /-- Accepted operations that settled, with their handler still to run. -/
  settling : ℕ
  drains : ℕ
  drained : List ℕ
  teardowns : List Teardown
  attempts : List Attempt
deriving DecidableEq, Repr

/-! ### Creation -/

structure Created where
  sandboxRef : SandboxRef
  artifact : Option ResolvedArtifact
  reportedArtifact : Option ResolvedArtifact
deriving Repr

inductive CreateError (ε : Type*)
  | mismatch (error : DriverError)
  /-- The sandbox may be left: its reference and both failures are kept. -/
  | failedCreateCleanup (teardown : ε) (suppressed : DriverError) (retained : SandboxRef)
deriving Repr

def contradiction (created : Created) (request : ResolvedArtifact) : Option ResolvedArtifact :=
  [created.artifact, created.reportedArtifact].reduceOption.find?
    (fun candidate => !artifactsEqual candidate request)

def openSession (created : Created) (request : ResolvedArtifact) : Session where
  ref := created.sandboxRef
  artifact := (created.artifact.or created.reportedArtifact).getD request
  state := .alive
  destroyInFlight := none
  teardownInFlight := none
  teardownDrain := none
  activeOperations := 0
  operationsDrained := none
  running := 0
  settling := 0
  drains := 0
  drained := []
  teardowns := []
  attempts := []

/-- The driver's create, once the table has created; `teardown` is what the table's destroy does
with a sandbox booted from another artifact. -/
def create {ε : Type*} (created : Created) (request : ResolvedArtifact)
    (teardown : Except ε Unit) : Except (CreateError ε) Session :=
  match contradiction created request with
  | none => .ok (openSession created request)
  | some booted =>
    let asked := artifactLabel request
    let got := artifactLabel booted
    let mismatch : DriverError :=
      { code := .artifactMismatch
        message := s!"artifact mismatch: request says {asked}, driver booted {got}"
        ref := some created.sandboxRef }
    match teardown with
    | .error error => .error (.failedCreateCleanup error mismatch created.sandboxRef)
    | .ok () => .error (.mismatch mismatch)

/-- A session only ever runs what was asked for. -/
lemma create_artifact {ε : Type*} {created : Created} {request : ResolvedArtifact}
    {teardown : Except ε Unit} {s : Session} (h : create created request teardown = .ok s) :
    s.artifact = request := by
  rw [create] at h
  split at h
  · rename_i agrees
    cases h
    have same : ∀ candidate ∈ [created.artifact, created.reportedArtifact].reduceOption,
        candidate = request := by
      intro candidate member
      have := List.find?_eq_none.mp agrees candidate member
      simpa [artifactsEqual_iff] using this
    rw [openSession]
    cases booted : created.artifact with
    | some artifact => exact same artifact (List.reduceOption_mem_iff.mpr (by simp [booted]))
    | none =>
      cases reported : created.reportedArtifact with
      | some artifact => exact same artifact (List.reduceOption_mem_iff.mpr (by simp [reported]))
      | none => rfl
  · split at h <;> cases h

namespace Session

/-! ### Methods and handlers -/

/-- An operation of the session, started at once when it is accepted. -/
def alive (s : Session) : Except DriverError Session :=
  if s.state ≠ .alive then
    let id := s.ref.id
    .error
      { code := .useAfterDestroy
        message := s!"sandbox {id} was used during/after destroy"
        ref := some s.ref }
  else
    let s := if s.activeOperations = 0 then
        { s with operationsDrained := some s.drains, drains := s.drains + 1 }
      else s
    .ok { s with activeOperations := s.activeOperations + 1, running := s.running + 1 }

def operationFinally (s : Session) : Session :=
  let s := { s with settling := s.settling - 1, activeOperations := s.activeOperations - 1 }
  if s.activeOperations = 0 then
    { s with drained := s.operationsDrained.toList ++ s.drained, operationsDrained := none }
  else s

/-- The teardown under way, or a new one. -/
def beginTeardown (s : Session) : Session × ℕ :=
  match s.teardownInFlight with
  | some teardown => (s, teardown)
  | none =>
    ({ s with
        state := .destroying
        teardownDrain := s.operationsDrained
        teardowns := s.teardowns ++ [.behind s.operationsDrained]
        teardownInFlight := some s.teardowns.length }, s.teardowns.length)

/-- A `destroy()` call with the attempt it waits for: none when it returns at once. -/
def destroy (s : Session) : Session × Option ℕ :=
  if s.state = .destroyed then (s, none)
  else match s.destroyInFlight with
    | some attempt => (s, some attempt)
    | none =>
      let (s, teardown) := s.beginTeardown
      ({ s with
          attempts := s.attempts ++ [.behind teardown s.teardownDrain]
          destroyInFlight := some s.attempts.length }, some s.attempts.length)

def setTeardown (s : Session) (t : ℕ) (teardown : Teardown) : Session :=
  { s with teardowns := s.teardowns.set t teardown }

def setAttempt (s : Session) (a : ℕ) (attempt : Attempt) : Session :=
  { s with attempts := s.attempts.set a attempt }

end Session

inductive Event
  /-- An operation is called, accepted or not. -/
  | operate
  | operationSettles
  | operationFinally
  | destroy
  | drainedThen (teardown : ℕ)
  | providerSettles (teardown : ℕ) (ok : Bool)
  | teardownThen (teardown : ℕ)
  | teardownFinally (teardown : ℕ)
  | drainWins (attempt : ℕ)
  | drainTimesOut (attempt : ℕ)
  | teardownWins (attempt : ℕ)
  | attemptFinally (attempt : ℕ)
deriving DecidableEq, Repr

/-- One event, where it can happen. -/
def step (s : Session) : Event → Option Session
  | .operate => match s.alive with
    | .ok s' => some s'
    | .error _ => some s
  | .operationSettles =>
    if s.running = 0 then none
    else some { s with running := s.running - 1, settling := s.settling + 1 }
  | .operationFinally => if s.settling = 0 then none else some s.operationFinally
  | .destroy => some s.destroy.1
  | .drainedThen t => match s.teardowns[t]? with
    | some (.queued drain) => if drain ∈ s.drained then some (s.setTeardown t .calling) else none
    | _ => none
  | .providerSettles t ok => match s.teardowns[t]? with
    | some .calling => some (s.setTeardown t (.answered ok))
    | _ => none
  | .teardownThen t => match s.teardowns[t]? with
    | some (.answered ok) =>
      some { s.setTeardown t (.handled ok) with state := if ok then .destroyed else .alive }
    | _ => none
  | .teardownFinally t => match s.teardowns[t]? with
    | some (.handled ok) =>
      some { s.setTeardown t (.settled ok) with teardownInFlight := none, teardownDrain := none }
    | _ => none
  | .drainWins a => match s.attempts[a]? with
    | some (.racing drain t) =>
      if drain ∈ s.drained then some (s.setAttempt a (.following t)) else none
    | _ => none
  | .drainTimesOut a => match s.attempts[a]? with
    | some (.racing drain _) =>
      if drain ∈ s.drained then none else some (s.setAttempt a (.bounded .deferred))
    | _ => none
  | .teardownWins a => match s.attempts[a]? with
    | some (.following t) => match s.teardowns[t]? with
      | some (.settled ok) =>
        some (s.setAttempt a (.bounded (if ok then .destroyed else .failed)))
      | _ => none
    | _ => none
  | .attemptFinally a => match s.attempts[a]? with
    | some (.bounded outcome) =>
      some { s.setAttempt a (.settled outcome) with destroyInFlight := none }
    | _ => none

/-! ### The invariant -/

/-- What the variables are while the last teardown is at a stage. -/
def Teardown.Agrees (s : Session) (t : ℕ) : Teardown → Prop
  | .queued d => s.state = .destroying ∧ s.teardownInFlight = some t ∧
      ((d ∈ s.drained ∧ s.activeOperations = 0) ∨ (d ∉ s.drained ∧ s.operationsDrained = some d))
  | .calling | .answered _ =>
    s.state = .destroying ∧ s.teardownInFlight = some t ∧ s.activeOperations = 0
  | .handled ok => s.state = (if ok then .destroyed else .alive) ∧ s.teardownInFlight = some t
  | .settled ok => s.state = (if ok then .destroyed else .alive) ∧ s.teardownInFlight = none

/-- What the variables are while the last attempt is at a stage. -/
def Attempt.Agrees (s : Session) (a : ℕ) : Attempt → Prop
  | .racing _ t | .following t => s.destroyInFlight = some a ∧ t + 1 = s.teardowns.length
  | .bounded outcome => s.destroyInFlight = some a ∧
      (outcome = .failed → s.state = .alive ∧ s.teardownInFlight = none) ∧
      (outcome = .destroyed → s.state = .destroyed)
  | .settled outcome => s.destroyInFlight = none ∧ (outcome = .destroyed → s.state = .destroyed)

/-- An attempt that is over, and that resolved only if the sandbox is destroyed. -/
def Attempt.Over (s : Session) (attempt : Attempt) : Prop :=
  ∃ outcome, attempt = .settled outcome ∧ (outcome = .destroyed → s.state = .destroyed)

abbrev TeardownsAgree (s : Session) : Prop :=
  Sequential.Serial (· = .settled false) (fun t teardown => teardown.Agrees s t)
    (s.state = .alive ∧ s.teardownInFlight = none) s.teardowns

abbrev AttemptsAgree (s : Session) : Prop :=
  Sequential.Serial (Attempt.Over s) (fun a attempt => attempt.Agrees s a)
    (s.destroyInFlight = none) s.attempts

structure Inv (s : Session) : Prop where
  counted : s.activeOperations = s.running + s.settling
  draining : s.operationsDrained = none ↔ s.activeOperations = 0
  fresh : ∀ d, s.operationsDrained = some d → d ∉ s.drained ∧ d < s.drains
  old : ∀ d ∈ s.drained, d < s.drains
  teardowns : TeardownsAgree s
  attempts : AttemptsAgree s

namespace Inv

variable {s s' : Session}

lemma openSession (created : Created) (request : ResolvedArtifact) :
    Inv (openSession created request) where
  counted := rfl
  draining := ⟨fun _ => rfl, fun _ => rfl⟩
  fresh := fun _ found => by cases found
  old := fun _ member => by cases member
  teardowns := Sequential.Serial.nil ⟨rfl, rfl⟩
  attempts := Sequential.Serial.nil rfl

/-- The teardown in flight is the last one made. -/
lemma teardown_last (inv : Inv s) {t : ℕ} (held : s.teardownInFlight = some t) :
    t + 1 = s.teardowns.length := by
  rcases List.eq_nil_or_concat s.teardowns with none | ⟨before, last, split⟩
  · have := (inv.teardowns.none none).2
    rw [held] at this
    cases this
  · have found : s.teardowns[before.length]? = some last := by simp [split]
    have latest : before.length + 1 = s.teardowns.length := by simp [split]
    have agrees := inv.teardowns.last _ _ found latest
    have same : s.teardownInFlight = some before.length := by
      cases last with
      | queued d => exact agrees.2.1
      | calling => exact agrees.2.1
      | answered ok => exact agrees.2.1
      | handled ok => exact agrees.2
      | settled ok =>
        rw [agrees.2] at held
        cases held
    rw [held, Option.some.injEq] at same
    omega

/-- Without a teardown in flight, every one made has failed unless the sandbox is destroyed. -/
lemma ended (idle : s.teardownInFlight = none) (live : s.state ≠ .destroyed) (t : ℕ)
    (teardown : Teardown) (agrees : teardown.Agrees s t) : teardown = .settled false := by
  cases teardown with
  | queued d => rw [agrees.2.1] at idle; cases idle
  | calling => rw [agrees.2.1] at idle; cases idle
  | answered ok => rw [agrees.2.1] at idle; cases idle
  | handled ok => rw [agrees.2] at idle; cases idle
  | settled ok =>
    cases ok with
    | false => rfl
    | true => exact absurd agrees.1 live

/-- Without a destroy call in flight, every attempt made is over. -/
lemma all_over (free : s.destroyInFlight = none) (a : ℕ) (attempt : Attempt)
    (agrees : attempt.Agrees s a) : attempt.Over s := by
  cases attempt with
  | racing d t => rw [agrees.1] at free; cases free
  | following t => rw [agrees.1] at free; cases free
  | bounded outcome => rw [agrees.1] at free; cases free
  | settled outcome => exact ⟨outcome, rfl, agrees.2⟩

lemma operate (inv : Inv s) (accepted : s.alive = .ok s') : Inv s' := by
  rw [Session.alive] at accepted
  split at accepted
  · cases accepted
  rename_i live
  rw [not_not] at live
  have teardown_agrees : ∀ (r : Session), r.state = s.state → r.teardownInFlight = s.teardownInFlight →
      ∀ t teardown, Teardown.Agrees s t teardown → Teardown.Agrees r t teardown := by
    intro r state held t teardown agrees
    cases teardown with
    | queued d => rw [agrees.1] at live; cases live
    | calling => rw [agrees.1] at live; cases live
    | answered ok => rw [agrees.1] at live; cases live
    | handled ok => exact ⟨state.trans agrees.1, held.trans agrees.2⟩
    | settled ok => exact ⟨state.trans agrees.1, held.trans agrees.2⟩
  have counted := inv.counted
  by_cases none : s.activeOperations = 0
  · rw [if_pos none, Except.ok.injEq] at accepted
    subst accepted
    refine ⟨?_, ?_, ?_, ?_, ?_, inv.attempts⟩
    · show s.activeOperations + 1 = s.running + 1 + s.settling
      omega
    · simp
    · intro d found
      obtain rfl : s.drains = d := Option.some.inj found
      refine ⟨fun member => ?_, Nat.lt_succ_self _⟩
      exact Nat.lt_irrefl _ (inv.old _ member)
    · intro d member
      exact Nat.lt_succ_of_lt (inv.old d member)
    · refine inv.teardowns.mono (fun _ done => done) ?_ id
      intro t teardown _ agrees
      apply teardown_agrees _ _ _ t teardown agrees <;> rfl
  · rw [if_neg none, Except.ok.injEq] at accepted
    subst accepted
    refine ⟨?_, ?_, inv.fresh, inv.old, ?_, inv.attempts⟩
    · show s.activeOperations + 1 = s.running + 1 + s.settling
      omega
    · show s.operationsDrained = Option.none ↔ s.activeOperations + 1 = 0
      rw [inv.draining]
      omega
    · refine inv.teardowns.mono (fun _ done => done) ?_ id
      intro t teardown _ agrees
      apply teardown_agrees _ _ _ t teardown agrees <;> rfl

lemma operationSettles (inv : Inv s) (some_runs : s.running ≠ 0) :
    Inv { s with running := s.running - 1, settling := s.settling + 1 } where
  counted := by
    have := inv.counted
    show s.activeOperations = s.running - 1 + (s.settling + 1)
    omega
  draining := inv.draining
  fresh := inv.fresh
  old := inv.old
  teardowns := inv.teardowns
  attempts := inv.attempts

lemma operationFinally (inv : Inv s) (some_settles : s.settling ≠ 0) : Inv s.operationFinally := by
  have counted := inv.counted
  rw [Session.operationFinally]
  by_cases drained : s.activeOperations - 1 = 0
  · rw [if_pos drained]
    refine ⟨?_, ?_, ?_, ?_, ?_, inv.attempts⟩
    · show s.activeOperations - 1 = s.running + (s.settling - 1)
      omega
    · exact ⟨fun _ => drained, fun _ => rfl⟩
    · intro d found
      cases found
    · intro d member
      rcases List.mem_append.mp member with new | old
      · exact (inv.fresh d (Option.mem_toList.mp new)).2
      · exact inv.old d old
    · refine inv.teardowns.mono (fun _ done => done) ?_ id
      intro t teardown _ agrees
      cases teardown with
      | queued d =>
        refine ⟨agrees.1, agrees.2.1, Or.inl ⟨?_, drained⟩⟩
        rcases agrees.2.2 with ⟨member, _⟩ | ⟨_, held⟩
        · exact List.mem_append_right _ member
        · exact List.mem_append_left _ (Option.mem_toList.mpr held)
      | calling => exact ⟨agrees.1, agrees.2.1, drained⟩
      | answered ok => exact ⟨agrees.1, agrees.2.1, drained⟩
      | handled ok => exact agrees
      | settled ok => exact agrees
  · rw [if_neg drained]
    refine ⟨?_, ?_, inv.fresh, inv.old, ?_, inv.attempts⟩
    · show s.activeOperations - 1 = s.running + (s.settling - 1)
      omega
    · show s.operationsDrained = none ↔ s.activeOperations - 1 = 0
      rw [inv.draining]
      omega
    · refine inv.teardowns.mono (fun _ done => done) ?_ id
      intro t teardown _ agrees
      cases teardown with
      | queued d =>
        refine ⟨agrees.1, agrees.2.1, ?_⟩
        rcases agrees.2.2 with ⟨_, idle⟩ | held
        · omega
        · exact Or.inr held
      | calling =>
        have := agrees.2.2
        omega
      | answered ok =>
        have := agrees.2.2
        omega
      | handled ok => exact agrees
      | settled ok => exact agrees

lemma beginTeardown (inv : Inv s) (live : s.state ≠ .destroyed) (free : s.destroyInFlight = none) :
    Inv s.beginTeardown.1 ∧ s.beginTeardown.2 + 1 = s.beginTeardown.1.teardowns.length := by
  rw [Session.beginTeardown]
  cases held : s.teardownInFlight with
  | some t => exact ⟨inv, inv.teardown_last held⟩
  | none =>
    refine ⟨⟨inv.counted, inv.draining, inv.fresh, inv.old, ?_, ?_⟩, by simp⟩
    · refine inv.teardowns.start (fun _ done => done) (ended held live) ?_
      cases drain : s.operationsDrained with
      | none => exact ⟨rfl, rfl, inv.draining.mp drain⟩
      | some d => exact ⟨rfl, rfl, Or.inr ⟨(inv.fresh d drain).1, rfl⟩⟩
    · have kept : ∀ attempt, Attempt.Over s attempt → ∃ outcome, attempt = .settled outcome ∧
          outcome ≠ .destroyed := by
        rintro _ ⟨outcome, rfl, resolved⟩
        exact ⟨outcome, rfl, fun destroyed => live (resolved destroyed)⟩
      refine inv.attempts.mono ?_ ?_ id
      · intro attempt done
        obtain ⟨outcome, rfl, not⟩ := kept attempt done
        exact ⟨outcome, rfl, fun destroyed => absurd destroyed not⟩
      · intro a attempt _ agrees
        obtain ⟨outcome, rfl, not⟩ := kept attempt (all_over free a attempt agrees)
        exact ⟨free, fun destroyed => absurd destroyed not⟩

lemma openAttempt (inv : Inv s) (free : s.destroyInFlight = none) {attempt : Attempt} {t : ℕ}
    (shape : (∃ d, attempt = .racing d t) ∨ attempt = .following t)
    (latest : t + 1 = s.teardowns.length) :
    Inv { s with
      attempts := s.attempts ++ [attempt]
      destroyInFlight := some s.attempts.length } where
  counted := inv.counted
  draining := inv.draining
  fresh := inv.fresh
  old := inv.old
  teardowns := inv.teardowns
  attempts := by
    refine inv.attempts.start (fun _ done => done) (all_over free) ?_
    rcases shape with ⟨d, rfl⟩ | rfl
    · exact ⟨rfl, latest⟩
    · exact ⟨rfl, latest⟩

lemma destroy (inv : Inv s) : Inv s.destroy.1 := by
  rw [Session.destroy]
  split
  · exact inv
  rename_i live
  cases free : s.destroyInFlight with
  | some a => exact inv
  | none =>
    obtain ⟨begun, latest⟩ := inv.beginTeardown live free
    refine begun.openAttempt ?_ ?_ latest
    · rw [Session.beginTeardown]
      cases s.teardownInFlight <;> exact free
    · cases s.beginTeardown.1.teardownDrain with
      | none => exact Or.inr rfl
      | some d => exact Or.inl ⟨d, rfl⟩

/-- A handler of a teardown moves it on and leaves the operations alone. -/
lemma moveTeardown (inv : Inv s) {t : ℕ} {old teardown : Teardown} {state : Life}
    {held drain : Option ℕ} (found : s.teardowns[t]? = some old) (unsettled : old ≠ .settled false)
    (agrees : Teardown.Agrees { s with state := state, teardownInFlight := held } t teardown)
    (overs : ∀ attempt, Attempt.Over s attempt →
      Attempt.Over { s with state := state, teardownInFlight := held } attempt)
    (attempts : ∀ a attempt, Attempt.Agrees s a attempt →
      Attempt.Agrees { s with state := state, teardownInFlight := held } a attempt) :
    Inv { s.setTeardown t teardown with
      state := state, teardownInFlight := held, teardownDrain := drain } where
  counted := inv.counted
  draining := inv.draining
  fresh := inv.fresh
  old := inv.old
  teardowns := by
    have latest := (inv.teardowns.unfinished found unsettled).1
    refine inv.teardowns.advance latest (fun _ done => done) ?_
    cases teardown <;> exact agrees
  attempts := by
    refine inv.attempts.mono overs ?_ id
    intro a attempt _ was
    have now := attempts a attempt was
    cases attempt with
    | racing d t' => exact ⟨now.1, now.2.trans (List.length_set).symm⟩
    | following t' => exact ⟨now.1, now.2.trans (List.length_set).symm⟩
    | bounded outcome => exact now
    | settled outcome => exact now

lemma drainedThen (inv : Inv s) {t d : ℕ} (found : s.teardowns[t]? = some (.queued d))
    (drained : d ∈ s.drained) : Inv (s.setTeardown t .calling) := by
  obtain ⟨_, state, held, drain⟩ := inv.teardowns.unfinished found (by simp)
  have idle : s.activeOperations = 0 := by
    rcases drain with ⟨_, idle⟩ | ⟨pending, _⟩
    · exact idle
    · exact absurd drained pending
  exact inv.moveTeardown found (by simp) ⟨state, held, idle⟩ (fun _ done => done)
    (fun _ _ agrees => agrees)

lemma providerSettles (inv : Inv s) {t : ℕ} (ok : Bool) (found : s.teardowns[t]? = some .calling) :
    Inv (s.setTeardown t (.answered ok)) := by
  obtain ⟨_, agrees⟩ := inv.teardowns.unfinished found (by simp)
  exact inv.moveTeardown found (by simp) agrees (fun _ done => done) (fun _ _ agrees => agrees)

lemma teardownThen (inv : Inv s) {t : ℕ} {ok : Bool}
    (found : s.teardowns[t]? = some (.answered ok)) :
    Inv { s.setTeardown t (.handled ok) with state := if ok then .destroyed else .alive } := by
  obtain ⟨_, state, held, _⟩ := inv.teardowns.unfinished found (by simp)
  have live : s.state ≠ .destroyed := by simp [state]
  refine inv.moveTeardown found (by simp) ⟨rfl, held⟩ ?_ ?_
  · rintro _ ⟨outcome, rfl, resolved⟩
    exact ⟨outcome, rfl, fun destroyed => absurd (resolved destroyed) live⟩
  · intro a attempt agrees
    cases attempt with
    | racing d t' => exact agrees
    | following t' => exact agrees
    | bounded outcome =>
      refine ⟨agrees.1, fun failed => ?_, fun destroyed => absurd (agrees.2.2 destroyed) live⟩
      have none := (agrees.2.1 failed).2
      rw [held] at none
      cases none
    | settled outcome => exact ⟨agrees.1, fun destroyed => absurd (agrees.2 destroyed) live⟩

lemma teardownFinally (inv : Inv s) {t : ℕ} {ok : Bool}
    (found : s.teardowns[t]? = some (.handled ok)) :
    Inv { s.setTeardown t (.settled ok) with teardownInFlight := none, teardownDrain := none } := by
  obtain ⟨_, state, _⟩ := inv.teardowns.unfinished found (by simp)
  refine inv.moveTeardown found (by simp) ⟨state, rfl⟩ (fun _ done => done) ?_
  intro a attempt agrees
  cases attempt with
  | racing d t' => exact agrees
  | following t' => exact agrees
  | bounded outcome => exact ⟨agrees.1, fun failed => ⟨(agrees.2.1 failed).1, rfl⟩, agrees.2.2⟩
  | settled outcome => exact agrees

/-- A handler of an attempt moves it on and leaves the teardown alone. -/
lemma moveAttempt (inv : Inv s) {a : ℕ} {old attempt : Attempt} {held : Option ℕ}
    (found : s.attempts[a]? = some old) (unsettled : ∀ outcome, old ≠ .settled outcome)
    (agrees : Attempt.Agrees { s with destroyInFlight := held } a attempt) :
    Inv { s.setAttempt a attempt with destroyInFlight := held } where
  counted := inv.counted
  draining := inv.draining
  fresh := inv.fresh
  old := inv.old
  teardowns := inv.teardowns
  attempts := by
    have open_ : ¬ Attempt.Over s old := by
      rintro ⟨outcome, same, _⟩
      exact unsettled outcome same
    refine inv.attempts.advance (inv.attempts.unfinished found open_).1 (fun _ done => done) ?_
    cases attempt <;> exact agrees

lemma attempt_agrees (inv : Inv s) {a : ℕ} {attempt : Attempt}
    (found : s.attempts[a]? = some attempt) (unsettled : ∀ outcome, attempt ≠ .settled outcome) :
    attempt.Agrees s a := by
  refine (inv.attempts.unfinished found ?_).2
  rintro ⟨outcome, same, _⟩
  exact unsettled outcome same

lemma drainWins (inv : Inv s) {a d t : ℕ} (found : s.attempts[a]? = some (.racing d t)) :
    Inv (s.setAttempt a (.following t)) := by
  have agrees := inv.attempt_agrees found (by simp)
  exact inv.moveAttempt found (by simp) ⟨agrees.1, agrees.2⟩

lemma drainTimesOut (inv : Inv s) {a d t : ℕ} (found : s.attempts[a]? = some (.racing d t)) :
    Inv (s.setAttempt a (.bounded .deferred)) := by
  have agrees := inv.attempt_agrees found (by simp)
  exact inv.moveAttempt found (by simp) ⟨agrees.1, by simp, by simp⟩

lemma teardownWins (inv : Inv s) {a t : ℕ} {ok : Bool}
    (found : s.attempts[a]? = some (.following t)) (settled : s.teardowns[t]? = some (.settled ok)) :
    Inv (s.setAttempt a (.bounded (if ok then .destroyed else .failed))) := by
  have agrees := inv.attempt_agrees found (by simp)
  have teardown := inv.teardowns.last t _ settled agrees.2
  refine inv.moveAttempt found (by simp) ⟨agrees.1, ?_, ?_⟩
  · cases ok with
    | false => exact fun _ => teardown
    | true => simp
  · cases ok with
    | false => simp
    | true => exact fun _ => teardown.1

lemma attemptFinally (inv : Inv s) {a : ℕ} {outcome : Outcome}
    (found : s.attempts[a]? = some (.bounded outcome)) :
    Inv { s.setAttempt a (.settled outcome) with destroyInFlight := none } := by
  have agrees := inv.attempt_agrees found (by simp)
  exact inv.moveAttempt found (by simp) ⟨rfl, agrees.2.2⟩

/-- Every event keeps the invariant. -/
lemma step (inv : Inv s) {event : Event} (h : TableSession.step s event = some s') : Inv s' := by
  cases event with
  | operate =>
    simp only [TableSession.step] at h
    cases called : s.alive with
    | ok r =>
      rw [called, Option.some.injEq] at h
      exact h ▸ inv.operate called
    | error e =>
      rw [called, Option.some.injEq] at h
      exact h ▸ inv
  | operationSettles =>
    simp only [TableSession.step, Option.ite_none_left_eq_some, Option.some.injEq] at h
    exact h.2 ▸ inv.operationSettles h.1
  | operationFinally =>
    simp only [TableSession.step, Option.ite_none_left_eq_some, Option.some.injEq] at h
    exact h.2 ▸ inv.operationFinally h.1
  | destroy =>
    simp only [TableSession.step, Option.some.injEq] at h
    exact h ▸ inv.destroy
  | drainedThen t =>
    simp only [TableSession.step] at h
    split at h
    · rename_i found
      rw [Option.ite_none_right_eq_some, Option.some.injEq] at h
      exact h.2 ▸ inv.drainedThen found h.1
    · cases h
  | providerSettles t ok =>
    simp only [TableSession.step] at h
    split at h
    · rename_i found
      exact Option.some.inj h ▸ inv.providerSettles ok found
    · cases h
  | teardownThen t =>
    simp only [TableSession.step] at h
    split at h
    · rename_i found
      exact Option.some.inj h ▸ inv.teardownThen found
    · cases h
  | teardownFinally t =>
    simp only [TableSession.step] at h
    split at h
    · rename_i found
      exact Option.some.inj h ▸ inv.teardownFinally found
    · cases h
  | drainWins a =>
    simp only [TableSession.step] at h
    split at h
    · rename_i found
      rw [Option.ite_none_right_eq_some, Option.some.injEq] at h
      exact h.2 ▸ inv.drainWins found
    · cases h
  | drainTimesOut a =>
    simp only [TableSession.step] at h
    split at h
    · rename_i found
      rw [Option.ite_none_left_eq_some, Option.some.injEq] at h
      exact h.2 ▸ inv.drainTimesOut found
    · cases h
  | teardownWins a =>
    simp only [TableSession.step] at h
    split at h
    · rename_i found
      split at h
      · rename_i settled
        exact Option.some.inj h ▸ inv.teardownWins found settled
      · cases h
    · cases h
  | attemptFinally a =>
    simp only [TableSession.step] at h
    split at h
    · rename_i found
      exact Option.some.inj h ▸ inv.attemptFinally found
    · cases h

end Inv

end TableSession
