import SandboxBenchmarks.TableSession

/-!
# What a session's teardown guarantees

Runs of a session from its creation: the table's destroy runs alone, once it has
succeeded nothing follows, and from every state some run ends with the sandbox
destroyed. Errors of timed-out destroy calls are part of the runs.
-/

namespace TableSession

/-! ### Runs -/

def Steps (s s' : Session) : Prop := ∃ event, step s event = some s'

lemma Inv.leads {s s' : Session} (inv : Inv s) (run : Transition.Leads Steps s s') : Inv s' := by
  induction run with
  | refl => exact inv
  | tail _ last ih =>
    obtain ⟨event, stepped⟩ := last
    exact ih.step stepped

/-- The teardown succeeded, whether or not its handlers have run. -/
def Teardown.Succeeded (teardown : Teardown) : Prop :=
  teardown = .answered true ∨ teardown = .handled true ∨ teardown = .settled true

/-- The stages of a teardown, in order. -/
inductive Advances : Teardown → Teardown → Prop
  | drained (drain : ℕ) : Advances (.queued drain) .calling
  | answered (ok : Bool) : Advances .calling (.answered ok)
  | handled (ok : Bool) : Advances (.answered ok) (.handled ok)
  | settled (ok : Bool) : Advances (.handled ok) (.settled ok)

/-- What one event can do to the teardowns. -/
inductive Moved (s : Session) : List Teardown → Prop
  | same : Moved s s.teardowns
  | on (t : ℕ) (old next : Teardown) (was : s.teardowns[t]? = some old)
    (advances : Advances old next) : Moved s (s.teardowns.set t next)
  | begun (next : Teardown) (idle : s.teardownInFlight = none) (live : s.state ≠ .destroyed) :
    Moved s (s.teardowns ++ [next])

lemma destroy_teardowns (s : Session) : Moved s s.destroy.1.teardowns := by
  rw [Session.destroy]
  split
  · exact .same
  rename_i live
  cases s.destroyInFlight with
  | some a => exact .same
  | none =>
    cases held : s.teardownInFlight with
    | some t =>
      simp only [Session.beginTeardown, held]
      exact .same
    | none =>
      simp only [Session.beginTeardown, held]
      exact .begun _ held live

lemma step_teardowns {s s' : Session} {event : Event} (h : step s event = some s') :
    Moved s s'.teardowns := by
  cases event with
  | operate =>
    simp only [step, Session.alive] at h
    split at h
    · rename_i r accepted
      split at accepted
      · cases accepted
      · cases accepted
        cases h
        dsimp only
        split <;> exact .same
    · cases h
      exact .same
  | operationSettles =>
    simp only [step, Option.ite_none_left_eq_some, Option.some.injEq] at h
    exact h.2 ▸ .same
  | operationFinally =>
    simp only [step, Option.ite_none_left_eq_some, Option.some.injEq] at h
    rw [← h.2, Session.operationFinally]
    split <;> exact .same
  | destroy => exact Option.some.inj h ▸ destroy_teardowns s
  | drainedThen t =>
    simp only [step] at h
    split at h
    · rename_i was
      rw [Option.ite_none_right_eq_some, Option.some.injEq] at h
      exact h.2 ▸ .on t _ _ was (by constructor)
    · cases h
  | providerSettles t ok =>
    simp only [step] at h
    split at h
    · rename_i was
      exact Option.some.inj h ▸ .on t _ _ was (by constructor)
    · cases h
  | teardownThen t =>
    simp only [step] at h
    split at h
    · rename_i ok was
      exact Option.some.inj h ▸ .on t _ _ was (.handled ok)
    · cases h
  | teardownFinally t =>
    simp only [step] at h
    split at h
    · rename_i ok was
      exact Option.some.inj h ▸ .on t _ _ was (.settled ok)
    · cases h
  | drainWins a =>
    simp only [step] at h
    split at h
    · rw [Option.ite_none_right_eq_some, Option.some.injEq] at h
      exact h.2 ▸ .same
    · cases h
  | drainTimesOut a =>
    simp only [step] at h
    split at h
    · rw [Option.ite_none_left_eq_some, Option.some.injEq] at h
      exact h.2 ▸ .same
    · cases h
  | teardownWins a =>
    simp only [step] at h
    split at h
    · split at h
      · exact Option.some.inj h ▸ .same
      · cases h
    · cases h
  | attemptFinally a =>
    simp only [step] at h
    split at h
    · exact Option.some.inj h ▸ .same
    · cases h

section
variable {s s' : Session}

/-- Some teardown has succeeded: the sandbox is gone, or its session is about to know. -/
def Gone (s : Session) : Prop :=
  ∃ (t : ℕ) (teardown : Teardown), s.teardowns[t]? = some teardown ∧ teardown.Succeeded

/-- A successful teardown is the last one, and stays as far as it has come. -/
lemma success_step (inv : Inv s) {P : Teardown → Prop} (success : ∀ td, P td → td.Succeeded)
    (keeps : ∀ old next, Advances old next → P old → P next) {t : ℕ} {teardown : Teardown}
    (found : s.teardowns[t]? = some teardown) (holds : P teardown) (h : Steps s s') :
    s'.teardowns.length = s.teardowns.length ∧ ∃ later, s'.teardowns[t]? = some later ∧ P later := by
  obtain ⟨event, h⟩ := h
  have succeeded := success teardown holds
  have unsettled : teardown ≠ .settled false := by rcases succeeded with rfl | rfl | rfl <;> simp
  obtain ⟨latest, agrees⟩ := inv.teardowns.unfinished found unsettled
  have moved := step_teardowns h
  generalize s'.teardowns = after at moved
  cases moved with
  | same => exact ⟨rfl, teardown, found, holds⟩
  | on u old next was advances =>
    refine ⟨List.length_set, ?_⟩
    by_cases here : u = t
    · subst here
      rw [was, Option.some.injEq] at found
      subst found
      exact ⟨next, List.getElem?_set_self (by omega), keeps _ _ advances holds⟩
    · exact ⟨teardown, by rw [List.getElem?_set_ne here, found], holds⟩
  | begun next idle live =>
    rcases succeeded with rfl | rfl | rfl
    · rw [agrees.2.1] at idle
      cases idle
    · rw [agrees.2] at idle
      cases idle
    · exact absurd agrees.1 live

lemma not_calling_of_gone (inv : Inv s) (gone : Gone s) :
    ∀ t : ℕ, s.teardowns[t]? ≠ some .calling := by
  obtain ⟨t, teardown, found, succeeded⟩ := gone
  have unsettled : teardown ≠ .settled false := by rcases succeeded with rfl | rfl | rfl <;> simp
  intro t' calling
  obtain ⟨latest, _⟩ := inv.teardowns.unfinished found unsettled
  obtain ⟨latest', _⟩ := inv.teardowns.unfinished calling (by simp)
  obtain rfl : t = t' := by omega
  rw [found, Option.some.injEq] at calling
  rcases succeeded with rfl | rfl | rfl <;> cases calling

lemma gone_leads (inv : Inv s) (gone : Gone s) (run : Transition.Leads Steps s s') :
    Gone s' ∧ s'.teardowns.length = s.teardowns.length := by
  induction run with
  | refl => exact ⟨gone, rfl⟩
  | tail before last ih =>
    obtain ⟨⟨t, teardown, found, succeeded⟩, length⟩ := ih
    obtain ⟨same, later, there, holds⟩ := success_step (inv.leads before) (fun _ h => h) (by
      rintro _ _ (_ | _ | _ | _) <;> simp [Teardown.Succeeded]) found succeeded last
    exact ⟨⟨t, later, there, holds⟩, same.trans length⟩

/-- The handler of a successful teardown has run. -/
def Teardown.Confirmed (teardown : Teardown) : Prop :=
  teardown = .handled true ∨ teardown = .settled true

lemma destroyed_iff (inv : Inv s) : s.state = .destroyed ↔
    ∃ (t : ℕ) (teardown : Teardown), s.teardowns[t]? = some teardown ∧ teardown.Confirmed := by
  constructor
  · intro destroyed
    rcases List.eq_nil_or_concat s.teardowns with nil | ⟨before, last, split⟩
    · have alive := (inv.teardowns.none nil).1
      rw [destroyed] at alive
      cases alive
    have found : s.teardowns[before.length]? = some last := by simp [split]
    have agrees := inv.teardowns.last _ _ found (by simp [split])
    refine ⟨before.length, last, found, ?_⟩
    cases last with
    | queued d => rw [agrees.1] at destroyed; cases destroyed
    | calling => rw [agrees.1] at destroyed; cases destroyed
    | answered ok => rw [agrees.1] at destroyed; cases destroyed
    | handled ok =>
      cases ok with
      | true => exact Or.inl rfl
      | false => rw [agrees.1] at destroyed; cases destroyed
    | settled ok =>
      cases ok with
      | true => exact Or.inr rfl
      | false => rw [agrees.1] at destroyed; cases destroyed
  · rintro ⟨t, teardown, found, rfl | rfl⟩
    · exact (inv.teardowns.unfinished found (by simp)).2.1
    · exact (inv.teardowns.unfinished found (by simp)).2.1

lemma destroyed_step (inv : Inv s) (destroyed : s.state = .destroyed) (h : Steps s s') :
    s'.state = .destroyed := by
  obtain ⟨t, teardown, found, confirmed⟩ := (destroyed_iff inv).mp destroyed
  obtain ⟨_, later, there, holds⟩ := success_step inv
    (P := Teardown.Confirmed) (fun _ h => Or.inr h)
    (by rintro _ _ (_ | _ | _ | _) <;> simp [Teardown.Confirmed]) found confirmed h
  obtain ⟨event, h⟩ := h
  exact (destroyed_iff (inv.step h)).mpr ⟨t, later, there, holds⟩

lemma attempt_resolved (inv : Inv s) {a : ℕ}
    (settled : s.attempts[a]? = some (.settled .destroyed)) : s.state = .destroyed := by
  by_cases last : a + 1 = s.attempts.length
  · exact (inv.attempts.last a _ settled last).2 rfl
  · obtain ⟨outcome, same, resolved⟩ := inv.attempts.earlier a _ settled last
    cases same
    exact resolved rfl

/-! ### A destroyed sandbox can always be reached -/

lemma leads_one (event : Event) (h : step s event = some s') :
    Transition.Leads Steps s s' := Relation.ReflTransGen.single ⟨event, h⟩

/-- Accepted operations settle. -/
lemma leads_quiet (inv : Inv s) : ∃ s', Transition.Leads Steps s s' ∧ s'.activeOperations = 0 := by
  generalize size : 2 * s.running + s.settling = n
  induction n using Nat.strongRecOn generalizing s with
  | ind n ih =>
    have counted := inv.counted
    by_cases runs : s.running = 0
    · by_cases settles : s.settling = 0
      · exact ⟨s, .refl, by omega⟩
      · have next : step s .operationFinally = some s.operationFinally := by
          rw [step, if_neg settles]
        have smaller : 2 * s.operationFinally.running + s.operationFinally.settling < n := by
          have : s.operationFinally.running = s.running ∧
              s.operationFinally.settling = s.settling - 1 := by
            rw [Session.operationFinally]
            split <;> exact ⟨rfl, rfl⟩
          omega
        obtain ⟨s', run, quiet⟩ := ih _ smaller (inv.step next) rfl
        exact ⟨s', (leads_one _ next).trans run, quiet⟩
    · have next : step s .operationSettles =
          some { s with running := s.running - 1, settling := s.settling + 1 } := by
        rw [step, if_neg runs]
      obtain ⟨s', run, quiet⟩ := ih (2 * (s.running - 1) + (s.settling + 1)) (by omega)
        (inv.step next) rfl
      exact ⟨s', (leads_one _ next).trans run, quiet⟩

lemma leads_of_answered {t : ℕ} (found : s.teardowns[t]? = some (.answered true)) :
    ∃ s', Transition.Leads Steps s s' ∧ s'.state = .destroyed := by
  have next : step s (.teardownThen t) =
      some { s.setTeardown t (.handled true) with state := .destroyed } := by
    simp only [step, found, if_true]
  exact ⟨_, leads_one _ next, rfl⟩

lemma setTeardown_found {t : ℕ} {old : Teardown} (found : s.teardowns[t]? = some old)
    (teardown : Teardown) : (s.setTeardown t teardown).teardowns[t]? = some teardown :=
  List.getElem?_set_self (List.getElem?_eq_some_iff.mp found).1

lemma leads_of_calling {t : ℕ} (found : s.teardowns[t]? = some .calling) :
    ∃ s', Transition.Leads Steps s s' ∧ s'.state = .destroyed := by
  have next : step s (.providerSettles t true) = some (s.setTeardown t (.answered true)) := by
    simp only [step, found]
  obtain ⟨s', run, destroyed⟩ := leads_of_answered (setTeardown_found found (.answered true))
  exact ⟨s', (leads_one _ next).trans run, destroyed⟩

/-- A teardown in flight runs to its end. -/
lemma leads_torn (inv : Inv s) (quiet : s.activeOperations = 0) :
    ∃ s', Transition.Leads Steps s s' ∧ (s'.state = .destroyed ∨
      s'.activeOperations = 0 ∧ s'.state = .alive ∧ s'.teardownInFlight = none) := by
  have idle : s.operationsDrained = none := inv.draining.mpr quiet
  rcases List.eq_nil_or_concat s.teardowns with nil | ⟨before, last, split⟩
  · exact ⟨s, .refl, Or.inr ⟨quiet, inv.teardowns.none nil⟩⟩
  have found : s.teardowns[before.length]? = some last := by simp [split]
  have agrees := inv.teardowns.last _ _ found (by simp [split])
  -- each stage is one event before the next
  cases last with
  | queued d =>
    have drained : d ∈ s.drained := by
      rcases agrees.2.2 with ⟨member, _⟩ | ⟨_, held⟩
      · exact member
      · rw [idle] at held
        cases held
    have next : step s (.drainedThen before.length) =
        some (s.setTeardown before.length .calling) := by
      simp only [step, found, if_pos drained]
    obtain ⟨s', run, destroyed⟩ := leads_of_calling (setTeardown_found found .calling)
    exact ⟨s', (leads_one _ next).trans run, Or.inl destroyed⟩
  | calling =>
    obtain ⟨s', run, destroyed⟩ := leads_of_calling found
    exact ⟨s', run, Or.inl destroyed⟩
  | answered ok =>
    cases ok with
    | true =>
      obtain ⟨s', run, destroyed⟩ := leads_of_answered found
      exact ⟨s', run, Or.inl destroyed⟩
    | false =>
      have first : step s (.teardownThen before.length) =
          some { s.setTeardown before.length (.handled false) with state := .alive } := by
        simp only [step, found, Bool.false_eq_true, if_false]
      have second : step { s.setTeardown before.length (.handled false) with state := .alive }
          (.teardownFinally before.length) = some
          { (s.setTeardown before.length (.handled false)).setTeardown before.length
              (.settled false) with
            state := .alive, teardownInFlight := none, teardownDrain := none } := by
        simp only [step, setTeardown_found found (.handled false)]
        rfl
      exact ⟨_, (leads_one _ first).trans (leads_one _ second), Or.inr ⟨quiet, rfl, rfl⟩⟩
  | handled ok =>
    cases ok with
    | true => exact ⟨s, .refl, Or.inl agrees.1⟩
    | false =>
      have next : step s (.teardownFinally before.length) = some
          { s.setTeardown before.length (.settled false) with
            teardownInFlight := none, teardownDrain := none } := by
        simp only [step, found]
      exact ⟨_, leads_one _ next, Or.inr ⟨quiet, agrees.1, rfl⟩⟩
  | settled ok =>
    cases ok with
    | true => exact ⟨s, .refl, Or.inl agrees.1⟩
    | false => exact ⟨s, .refl, Or.inr ⟨quiet, agrees⟩⟩

/-- A session without teardown or destroy call under way. -/
structure Open (s : Session) : Prop where
  state : s.state = .alive
  teardown : s.teardownInFlight = none
  destroy : s.destroyInFlight = none

lemma setAttempt_found {a : ℕ} {old : Attempt} (found : s.attempts[a]? = some old)
    (attempt : Attempt) : (s.setAttempt a attempt).attempts[a]? = some attempt :=
  List.getElem?_set_self (List.getElem?_eq_some_iff.mp found).1

lemma leads_of_bounded {a : ℕ} {outcome : Outcome} (alive : s.state = .alive)
    (idle : s.teardownInFlight = none) (found : s.attempts[a]? = some (.bounded outcome)) :
    ∃ s', Transition.Leads Steps s s' ∧ s'.activeOperations = s.activeOperations ∧ Open s' := by
  have next : step s (.attemptFinally a) =
      some { s.setAttempt a (.settled outcome) with destroyInFlight := none } := by
    simp only [step, found]
  exact ⟨_, leads_one _ next, rfl, alive, idle, rfl⟩

lemma leads_of_following (inv : Inv s) {a t : ℕ} (alive : s.state = .alive)
    (idle : s.teardownInFlight = none) (found : s.attempts[a]? = some (.following t)) :
    ∃ s', Transition.Leads Steps s s' ∧ s'.activeOperations = s.activeOperations ∧ Open s' := by
  have latest := (inv.attempt_agrees found (by simp)).2
  have settled : s.teardowns[t]? = some (.settled false) := by
    have bound : t < s.teardowns.length := by omega
    have there := List.getElem?_eq_getElem bound
    rw [there, Inv.ended idle (by simp [alive]) t _ (inv.teardowns.last t _ there latest)]
  have next : step s (.teardownWins a) = some (s.setAttempt a (.bounded .failed)) := by
    simp only [step, found, settled, Bool.false_eq_true, if_false]
  obtain ⟨s', run, same, opened⟩ := leads_of_bounded (s := s.setAttempt a (.bounded .failed)) alive
    idle (setAttempt_found found _)
  exact ⟨s', (leads_one _ next).trans run, same, opened⟩

/-- A destroy call in flight comes back. -/
lemma leads_open (inv : Inv s) (alive : s.state = .alive) (idle : s.teardownInFlight = none) :
    ∃ s', Transition.Leads Steps s s' ∧ s'.activeOperations = s.activeOperations ∧ Open s' := by
  rcases List.eq_nil_or_concat s.attempts with nil | ⟨before, last, split⟩
  · exact ⟨s, .refl, rfl, alive, idle, inv.attempts.none nil⟩
  have found : s.attempts[before.length]? = some last := by simp [split]
  have agrees := inv.attempts.last _ _ found (by simp [split])
  cases last with
  | racing d t =>
    by_cases drained : d ∈ s.drained
    · have next : step s (.drainWins before.length) =
          some (s.setAttempt before.length (.following t)) := by
        simp only [step, found, if_pos drained]
      obtain ⟨s', run, same, opened⟩ := leads_of_following (inv.step next) alive idle
        (setAttempt_found found _)
      exact ⟨s', (leads_one _ next).trans run, same, opened⟩
    · have next : step s (.drainTimesOut before.length) =
          some (s.setAttempt before.length (.bounded .deferred)) := by
        simp only [step, found, if_neg drained]
      obtain ⟨s', run, same, opened⟩ := leads_of_bounded
        (s := s.setAttempt before.length (.bounded .deferred)) alive idle (setAttempt_found found _)
      exact ⟨s', (leads_one _ next).trans run, same, opened⟩
  | following t => exact leads_of_following inv alive idle found
  | bounded outcome => exact leads_of_bounded alive idle found
  | settled outcome => exact ⟨s, .refl, rfl, alive, idle, agrees.1⟩

/-- What a destroy call of an open session issues. -/
lemma destroy_of_open (opened : Open s) :
    s.destroy.1.teardowns = s.teardowns ++ [.behind s.operationsDrained] := by
  rw [Session.destroy, if_neg (by simp [opened.state]), opened.destroy]
  simp only [Session.beginTeardown, opened.teardown]

theorem leads_destroyed (inv : Inv s) :
    ∃ s', Transition.Leads Steps s s' ∧ s'.state = .destroyed := by
  obtain ⟨s₁, run₁, quiet₁⟩ := leads_quiet inv
  have inv₁ := inv.leads run₁
  obtain ⟨s₂, run₂, destroyed | ⟨quiet₂, alive, idle⟩⟩ := leads_torn inv₁ quiet₁
  · exact ⟨s₂, run₁.trans run₂, destroyed⟩
  have inv₂ := inv₁.leads run₂
  obtain ⟨s₃, run₃, same, opened⟩ := leads_open inv₂ alive idle
  have inv₃ := inv₂.leads run₃
  have undrained : s₃.operationsDrained = none := inv₃.draining.mpr (same.trans quiet₂)
  have issued := destroy_of_open opened
  rw [undrained] at issued
  have found : s₃.destroy.1.teardowns[s₃.teardowns.length]? = some .calling := by
    rw [issued, List.getElem?_concat_length]
    rfl
  obtain ⟨s₄, run₄, destroyed⟩ := leads_of_calling found
  refine ⟨s₄, run₁.trans (run₂.trans (run₃.trans (.trans ?_ run₄))), destroyed⟩
  exact leads_one .destroy rfl

end

/-! ### Deferred teardowns -/

/-- How far disposing of a `DeferredTeardownError` has come. -/
inductive Disposal
  | idle
  /-- Behind the teardown that the error was made for. -/
  | awaiting
  /-- That teardown failed, and the session's destroy is called again. -/
  | retrying (attempt : Option ℕ)
  | cleaned
deriving DecidableEq, Repr

structure DeferredTeardownError where
  completion : ℕ
  disposal : Disposal
deriving DecidableEq, Repr

/-- A session with the errors of its timed-out destroy calls. -/
structure Owned where
  session : Session
  deferred : List DeferredTeardownError
deriving DecidableEq, Repr

inductive OwnedEvent
  | session (event : Event)
  | dispose (error : ℕ)
  | disposeThen (error : ℕ)
deriving DecidableEq, Repr

/-- The error that an event makes. -/
def deferredBy (s : Session) : Event → List DeferredTeardownError
  | .drainTimesOut a => match s.attempts[a]? with
    | some (.racing _ t) => [⟨t, .idle⟩]
    | _ => []
  | _ => []

/-- A disposal ends well only once the sandbox is destroyed. -/
def Disposal.Sound (s : Session) : Disposal → Prop
  | .cleaned | .retrying none => s.state = .destroyed
  | _ => True

lemma Disposal.Sound.later {s s' : Session} {disposal : Disposal} (sound : disposal.Sound s)
    (kept : s.state = .destroyed → s'.state = .destroyed) : disposal.Sound s' := by
  cases disposal with
  | idle => trivial
  | awaiting => trivial
  | retrying attempt =>
    cases attempt with
    | none => exact kept sound
    | some a => trivial
  | cleaned => exact kept sound

namespace Owned

def setDisposal (o : Owned) (e : ℕ) (error : DeferredTeardownError) (disposal : Disposal) : Owned :=
  { o with deferred := o.deferred.set e { error with disposal := disposal } }

def step (o : Owned) : OwnedEvent → Option Owned
  | .session event => (TableSession.step o.session event).map (fun session =>
      { session := session, deferred := o.deferred ++ deferredBy o.session event })
  | .dispose e => match o.deferred[e]? with
    | some error => match error.disposal with
      | .idle => some (o.setDisposal e error .awaiting)
      | _ => some o
    | none => none
  | .disposeThen e => match o.deferred[e]? with
    | some error => match error.disposal with
      | .awaiting => match o.session.teardowns[error.completion]? with
        | some (.settled true) => some (o.setDisposal e error .cleaned)
        | some (.settled false) =>
          let (session, attempt) := o.session.destroy
          some ({ o with session := session }.setDisposal e error (.retrying attempt))
        | _ => none
      | .retrying none => some (o.setDisposal e error .cleaned)
      | .retrying (some attempt) => match o.session.attempts[attempt]? with
        | some (.settled .destroyed) => some (o.setDisposal e error .cleaned)
        | some (.settled _) => some (o.setDisposal e error .idle)
        | _ => none
      | _ => none
    | none => none

def Steps (o o' : Owned) : Prop := ∃ event, o.step event = some o'

/-- A session as creation returns it. -/
def Built (o : Owned) : Prop :=
  ∃ created request, ∃ teardown : Except Unit Unit,
    create created request teardown = .ok o.session ∧ o.deferred = []

def Reachable : Owned → Prop := Transition.Reachable Built Steps

lemma built_inv {o : Owned} (built : Built o) : Inv o.session := by
  obtain ⟨created, request, teardown, opened, _⟩ := built
  rw [create] at opened
  split at opened
  · rw [← Except.ok.inj opened]
    exact Inv.openSession created request
  · split at opened <;> cases opened

/-- An event moves the session by at most one of its own. -/
lemma session_step {o o' : Owned} (h : Steps o o') :
    o'.session = o.session ∨ TableSession.Steps o.session o'.session := by
  obtain ⟨event, h⟩ := h
  cases event with
  | session event =>
    simp only [step, Option.map_eq_some_iff] at h
    obtain ⟨session, stepped, rfl⟩ := h
    exact Or.inr ⟨event, stepped⟩
  | dispose e =>
    simp only [step] at h
    split at h
    · split at h <;> cases h <;> exact Or.inl rfl
    · cases h
  | disposeThen e =>
    simp only [step] at h
    split at h
    · split at h
      · split at h
        · cases h
          exact Or.inl rfl
        · cases h
          exact Or.inr ⟨.destroy, rfl⟩
        · cases h
      · cases h
        exact Or.inl rfl
      · split at h
        · cases h
          exact Or.inl rfl
        · cases h
          exact Or.inl rfl
        · cases h
      · cases h
    · cases h

lemma session_leads {o o' : Owned} (run : Transition.Leads Steps o o') :
    Transition.Leads TableSession.Steps o.session o'.session := by
  induction run with
  | refl => exact .refl
  | tail _ last ih =>
    rcases session_step last with same | stepped
    · rwa [same]
    · exact ih.tail stepped

/-- The session may take its own events while nothing is disposed of. -/
lemma leads_lift {s s' : Session} (run : Transition.Leads TableSession.Steps s s') :
    ∀ deferred, ∃ deferred', Transition.Leads Steps ⟨s, deferred⟩ ⟨s', deferred'⟩ := by
  intro deferred
  induction run with
  | refl => exact ⟨deferred, .refl⟩
  | @tail middle after _ last ih =>
    obtain ⟨before, run⟩ := ih
    obtain ⟨event, stepped⟩ := last
    have next : Owned.step ⟨middle, before⟩ (.session event) =
        some ⟨after, before ++ deferredBy middle event⟩ := by
      simp only [step, stepped, Option.map_some]
    exact ⟨_, run.tail ⟨_, next⟩⟩

lemma reachable_inv {o : Owned} (reachable : Reachable o) : Inv o.session := by
  refine Transition.Reachable.invariant (I := fun o => Inv o.session) (fun _ => built_inv) ?_
    reachable
  intro o o' inv stepped
  rcases session_step stepped with same | session
  · exact same ▸ inv
  · obtain ⟨event, session⟩ := session
    exact inv.step session

def Disposed (o : Owned) : Prop := ∀ error ∈ o.deferred, error.disposal.Sound o.session

lemma disposed_set {o : Owned} {s : Session} {e : ℕ} {error : DeferredTeardownError}
    {disposal : Disposal} (disposed : Disposed o) (kept : o.session.state = .destroyed → s.state = .destroyed)
    (sound : disposal.Sound s) : Disposed ({ o with session := s }.setDisposal e error disposal) := by
  intro error' member
  rcases List.mem_or_eq_of_mem_set member with old | rfl
  · exact (disposed error' old).later kept
  · exact sound

lemma disposed_step {o o' : Owned} (inv : Inv o.session) (disposed : Disposed o) (h : Steps o o') :
    Disposed o' := by
  obtain ⟨event, h⟩ := h
  cases event with
  | session event =>
    simp only [step, Option.map_eq_some_iff] at h
    obtain ⟨session, stepped, rfl⟩ := h
    intro error member
    rcases List.mem_append.mp member with old | new
    · exact (disposed error old).later (fun gone => destroyed_step inv gone ⟨event, stepped⟩)
    · cases event with
      | drainTimesOut a =>
        simp only [deferredBy] at new
        split at new
        · rw [List.mem_singleton] at new
          subst new
          trivial
        · cases new
      | _ => cases new
  | dispose e =>
    simp only [step] at h
    split at h
    · split at h
      · cases h
        exact disposed_set disposed id trivial
      · cases h
        exact disposed
    · cases h
  | disposeThen e =>
    simp only [step] at h
    split at h
    · rename_i error found
      split at h
      · split at h
        · rename_i settled
          cases h
          have gone : o.session.state = .destroyed :=
            (destroyed_iff inv).mpr ⟨_, _, settled, Or.inr rfl⟩
          exact disposed_set disposed id gone
        · cases h
          refine disposed_set disposed (fun gone => destroyed_step inv gone ⟨.destroy, rfl⟩) ?_
          rw [Session.destroy]
          split
          · rename_i gone
            exact gone
          · cases o.session.destroyInFlight <;> trivial
        · cases h
      · rename_i retried
        cases h
        have sound := disposed error (List.mem_of_getElem? found)
        rw [retried] at sound
        exact disposed_set disposed id sound
      · split at h
        · rename_i settled
          cases h
          exact disposed_set disposed id (attempt_resolved inv settled)
        · cases h
          exact disposed_set disposed id trivial
        · cases h
      · cases h
    · cases h

lemma reachable_disposed {o : Owned} (reachable : Reachable o) : Disposed o := by
  refine (Transition.Reachable.invariant (I := fun o => Inv o.session ∧ Disposed o) ?_ ?_
    reachable).2
  · rintro o built
    refine ⟨built_inv built, fun error member => ?_⟩
    obtain ⟨_, _, _, _, none⟩ := built
    rw [none] at member
    cases member
  · rintro o o' ⟨inv, disposed⟩ stepped
    refine ⟨?_, disposed_step inv disposed stepped⟩
    rcases session_step stepped with same | ⟨event, session⟩
    · exact same ▸ inv
    · exact inv.step session

end Owned

/-! ### What holds of every session -/

section
variable {s : Session}

/-- The teardown has begun, and the session does not know of a failure. -/
def Teardown.Under (teardown : Teardown) : Prop :=
  teardown ≠ .handled false ∧ teardown ≠ .settled false

structure Guarded (s : Session) : Prop where
  alone : ∀ t : ℕ, s.teardowns[t]? = some .calling → s.running = 0
  single : ∀ t t' : ℕ, s.teardowns[t]? = some .calling → s.teardowns[t']? = some .calling → t = t'
  once : Gone s → ∀ s', Transition.Leads Steps s s' →
    s'.teardowns.length = s.teardowns.length ∧ ∀ t : ℕ, s'.teardowns[t]? ≠ some .calling
  refused : ∀ (t : ℕ) teardown, s.teardowns[t]? = some teardown → teardown.Under →
    ∃ error, s.alive = .error error ∧ error.code = .useAfterDestroy ∧ error.ref = some s.ref
  resolved : ∀ a : ℕ, s.attempts[a]? = some (.settled .destroyed) → s.state = .destroyed
  reopened : ∀ (a : ℕ) s', s.attempts[a]? = some (.bounded .failed) →
    step s (.attemptFinally a) = some s' → Open s'
  reissued : Open s → s.destroy.1.teardowns = s.teardowns ++ [.behind s.operationsDrained] ∧
    (s.operationsDrained = none ↔ s.activeOperations = 0)
  unlocked : s.state ≠ .destroyed → s.teardownInFlight = none → s.destroyInFlight = none → Open s
  deletable : ∃ s', Transition.Leads Steps s s' ∧ s'.state = .destroyed

lemma refused_of_under (inv : Inv s) {t : ℕ} {teardown : Teardown}
    (found : s.teardowns[t]? = some teardown) (under : teardown.Under) : s.state ≠ .alive := by
  obtain ⟨_, agrees⟩ := inv.teardowns.unfinished found under.2
  cases teardown with
  | queued d => simp [agrees.1]
  | calling => simp [agrees.1]
  | answered ok => simp [agrees.1]
  | handled ok =>
    cases ok with
    | true => simp [agrees.1]
    | false => exact absurd rfl under.1
  | settled ok =>
    cases ok with
    | true => simp [agrees.1]
    | false => exact absurd rfl under.2

lemma open_of_failed (inv : Inv s) {a : ℕ} {s' : Session}
    (found : s.attempts[a]? = some (.bounded .failed))
    (h : step s (.attemptFinally a) = some s') : Open s' := by
  obtain ⟨_, failed, _⟩ := inv.attempt_agrees found (by simp)
  obtain ⟨alive, idle⟩ := failed rfl
  simp only [step, found, Option.some.injEq] at h
  rw [← h]
  exact ⟨alive, idle, rfl⟩

lemma alive_of_idle (inv : Inv s) (live : s.state ≠ .destroyed) (idle : s.teardownInFlight = none) :
    s.state = .alive := by
  rcases List.eq_nil_or_concat s.teardowns with nil | ⟨before, last, split⟩
  · exact (inv.teardowns.none nil).1
  have agrees := inv.teardowns.last before.length last (by simp [split]) (by simp [split])
  rw [Inv.ended idle live _ _ agrees] at agrees
  exact agrees.1

lemma Inv.guarded (inv : Inv s) : Guarded s := by
  refine ⟨?_, ?_, ?_, ?_, fun a => attempt_resolved inv, fun a s' => open_of_failed inv, ?_, ?_,
    leads_destroyed inv⟩
  · intro t calling
    have idle := (inv.teardowns.unfinished calling (by simp)).2.2.2
    have := inv.counted
    omega
  · intro t t' calling calling'
    have := (inv.teardowns.unfinished calling (by simp)).1
    have := (inv.teardowns.unfinished calling' (by simp)).1
    omega
  · intro gone s' run
    obtain ⟨still, length⟩ := gone_leads inv gone run
    exact ⟨length, not_calling_of_gone (inv.leads run) still⟩
  · intro t teardown found under
    have refused := refused_of_under inv found under
    rw [Session.alive, if_pos refused]
    exact ⟨_, rfl, rfl, rfl⟩
  · intro opened
    exact ⟨destroy_of_open opened, inv.draining⟩
  · intro live idle free
    exact ⟨alive_of_idle inv live idle, idle, free⟩

end

/-- Whatever a session's callers and its table do. -/
theorem driverFromTable_guarded {o : Owned} (reachable : Owned.Reachable o) :
    Guarded o.session ∧
      ∀ error ∈ o.deferred, error.disposal = .cleaned → o.session.state = .destroyed := by
  refine ⟨(Owned.reachable_inv reachable).guarded, ?_⟩
  intro error member cleaned
  have sound := Owned.reachable_disposed reachable error member
  rwa [cleaned] at sound

/-- A destroy call times out behind an operation, its teardown then fails, and disposing of its
error destroys the sandbox. -/
def sampleEvents : List OwnedEvent :=
  [.session .operate, .session .destroy, .session (.drainTimesOut 0), .session (.attemptFinally 0),
    .dispose 0, .session .operationSettles, .session .operationFinally, .session (.drainedThen 0),
    .session (.providerSettles 0 false), .session (.teardownThen 0), .session (.teardownFinally 0),
    .disposeThen 0, .session (.providerSettles 1 true), .session (.teardownThen 1),
    .session (.teardownFinally 1), .session (.teardownWins 1), .session (.attemptFinally 1),
    .disposeThen 0]

def sampleCreated : Created where
  sandboxRef := ⟨"daytona-vm", "sbx-1"⟩
  artifact := none
  reportedArtifact := some (.image "base")

theorem driverFromTable_guarded_sample : ∃ o : Owned,
    o.session.teardowns = [.settled false, .settled true] ∧
      o.deferred = [⟨0, .cleaned⟩] ∧ Guarded o.session := by
  obtain ⟨o, ran⟩ : ∃ o, sampleEvents.foldlM Owned.step
      ⟨openSession sampleCreated (.image "base"), []⟩ = some o :=
    Option.isSome_iff_exists.mp (by decide)
  have built : Owned.Built ⟨openSession sampleCreated (.image "base"), []⟩ :=
    ⟨sampleCreated, .image "base", .ok (), rfl, rfl⟩
  have reachable : Owned.Reachable o := ⟨_, built, Transition.leads_of_foldlM ran⟩
  have seen : (sampleEvents.foldlM Owned.step
      ⟨openSession sampleCreated (.image "base"), []⟩).all (fun o =>
        decide (o.session.teardowns = [.settled false, .settled true] ∧
          o.deferred = [⟨0, .cleaned⟩])) = true := by decide
  rw [ran] at seen
  have ends : o.session.teardowns = [.settled false, .settled true] ∧
      o.deferred = [⟨0, .cleaned⟩] := by simpa using seen
  exact ⟨o, ends.1, ends.2, (driverFromTable_guarded reachable).1⟩

end TableSession
