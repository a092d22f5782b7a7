import SandboxBenchmarks.DetachedStep

/-!
# What a detached step settles with

Whatever the sandbox, the timers and the clocks do, a detached step that must not fail
returns only on its own receipt and its log, a lost sandbox is twelve failed polls in a
row, and one attempt leaves one entry in the step log.
-/

namespace DetachedStep

open Interaction RunModel
open Interaction.Action (Ensures)

/-! ### What a history shows -/

def polledOf : Ask → Option Outcome
  | .polled outcome => some outcome
  | _ => none

/-- What each poll came to, oldest first. -/
def polls (h : Events) : List Outcome := h.filterMap (fun e => polledOf e.1)

@[simp] lemma polls_append (h h' : Events) : polls (h ++ h') = polls h ++ polls h' :=
  List.filterMap_append

@[simp] lemma polls_singleton (q : Ask) (answer : Answer q) :
    polls [⟨q, answer⟩] = (polledOf q).toList := by
  cases q with
  | polled outcome => rfl
  | _ => rfl

def failuresAtEnd (outcomes : List Outcome) : ℕ :=
  (outcomes.reverse.takeWhile (fun outcome => outcome = .failed)).length

@[simp] lemma failuresAtEnd_failed (outcomes : List Outcome) :
    failuresAtEnd (outcomes ++ [.failed]) = failuresAtEnd outcomes + 1 := by
  simp [failuresAtEnd]

@[simp] lemma failuresAtEnd_seen (outcomes : List Outcome) (exitCode : Option (Option ℕ)) :
    failuresAtEnd (outcomes ++ [.seen exitCode]) = 0 := by
  simp [failuresAtEnd]

@[simp] lemma failuresAtEnd_overtaken (outcomes : List Outcome) :
    failuresAtEnd (outcomes ++ [.overtaken]) = 0 := by
  simp [failuresAtEnd]

/-- A `GapError` of kind `sandbox-lost`. -/
def isSandboxLost : Thrown → Bool
  | .gap _ (.sandboxLost _ _) => true
  | _ => false

namespace Step

variable {R : Type} (step : Step R)

/-- The sandbox answered a poll with a receipt of this step for `code`. -/
def Receipt (code : ℕ) (h : Events) : Prop :=
  ∃ raw, completionCode raw step.identity = some code ∧
    ((∃ ms, (⟨.observe (.fsReadFile step.donePath) ms, some (.returned raw)⟩ : Sigma Answer) ∈ h) ∨
      ∃ ms, (⟨.observe step.catDone ms, some (.returned ⟨some 0, some raw⟩)⟩ : Sigma Answer) ∈ h)

/-- The log was read back. -/
def LogRead (stdout : String) (h : Events) : Prop :=
  (∃ ms, (⟨.observe (.fsReadFile step.logPath) ms, some (.returned stdout)⟩ : Sigma Answer) ∈ h) ∨
    ∃ deadline, (⟨.catLogOrNull step.logPath deadline, some (some stdout)⟩ : Sigma Answer) ∈ h

variable {step} {h h' : Events}

lemma Receipt.mono {code : ℕ} (receipt : step.Receipt code h) (extends_ : h <+: h') :
    step.Receipt code h' := by
  obtain ⟨raw, own, ⟨ms, read⟩ | ⟨ms, read⟩⟩ := receipt
  · exact ⟨raw, own, Or.inl ⟨ms, extends_.subset read⟩⟩
  · exact ⟨raw, own, Or.inr ⟨ms, extends_.subset read⟩⟩

lemma LogRead.mono {stdout : String} (read : step.LogRead stdout h) (extends_ : h <+: h') :
    step.LogRead stdout h' := by
  rcases read with ⟨ms, read⟩ | ⟨deadline, read⟩
  · exact Or.inl ⟨ms, extends_.subset read⟩
  · exact Or.inr ⟨deadline, extends_.subset read⟩

/-! ### Clocks and calls -/

section
variable {ε α : Type} {v : Variables}

lemma clock_spec {post : Events → Variables → Except ε ℚ → Prop}
    (next : ∀ at_ : ℚ, post (h ++ [⟨.now, at_⟩]) v (.ok at_)) : Ensures post clock v h :=
  Action.ensures_question.mpr next

/-- Nothing is polled and no variable assigned. -/
structure Idle (h : Events) (v : Variables) (later : Events) (w : Variables) : Prop where
  unpolled : polls later = polls h
  kept : w = v

lemma Idle.asked {later : Events} {w : Variables} (idle : Idle h v later w) (q : Ask)
    (quiet : polledOf q = none) (answer : Answer q) : Idle h v (later ++ [⟨q, answer⟩]) w :=
  ⟨by simp [quiet, idle.unpolled], idle.kept⟩

lemma Idle.start : Idle h v h v := ⟨rfl, rfl⟩

lemma Idle.trans {h₁ h₂ h₃ : Events} {v₁ v₂ v₃ : Variables} (a : Idle h₁ v₁ h₂ v₂)
    (b : Idle h₂ v₂ h₃ v₃) : Idle h₁ v₁ h₃ v₃ :=
  ⟨b.unpolled.trans a.unpolled, b.kept.trans a.kept⟩

lemma isSandboxLost_fault {fault : Fault} : isSandboxLost fault.thrown = false := by
  cases fault with
  | error message => rfl
  | value described => rfl

/-- The errors of the sandbox and of its timers are not the harness's own. -/
def Found (r : Except Stopped α) : Prop :=
  ∀ thrown, r = .error (.threw thrown) → isSandboxLost thrown = false

lemma observationBudget_spec {deadline : ℚ} :
    Ensures (fun later w r => Idle h v later w ∧ Found r) (observationBudget deadline) v h := by
  rw [observationBudget, Action.ensures_bind]
  apply clock_spec
  intro at_
  dsimp only [Action.afterOk]
  split
  · refine ⟨Idle.start.asked .now rfl at_, ?_⟩
    rintro _ ⟨rfl⟩
    rfl
  · exact ⟨Idle.start.asked .now rfl at_, nofun⟩

lemma remaining_spec {deadline : ℚ} :
    Ensures (fun later w (r : Except ε ℚ) => Idle h v later w ∧ ∃ ms, r = .ok ms)
      (remaining deadline) v h := by
  rw [remaining, Action.ensures_bind]
  apply clock_spec
  intro at_
  exact ⟨Idle.start.asked .now rfl at_, _, rfl⟩

/-- What is returned was answered. -/
lemma observe_spec {deadline : ℚ} (call : Call) {message : String} :
    Ensures (fun later w r => Idle h v later w ∧ Found r ∧ ∀ reply, r = .ok reply →
        ∃ ms, (⟨.observe call ms, some (.returned reply)⟩ : Sigma Answer) ∈ later)
      (observe deadline call message) v h := by
  rw [observe]
  refine observationBudget_spec.bind (fun _ _ _ _ here => ⟨here.1, ?_, nofun⟩) ?_
  · rintro thrown ⟨rfl⟩
    exact here.2 thrown rfl
  · rintro later w ms _ ⟨idle, _⟩
    rw [Action.ensures_question]
    intro answer
    have idle := idle.asked (.observe call ms) rfl answer
    rcases answer with _ | answer | fault | _
    · exact ⟨idle, nofun, nofun⟩
    · refine ⟨idle, nofun, ?_⟩
      rintro _ ⟨rfl⟩
      exact ⟨ms, List.mem_append_right _ List.mem_cons_self⟩
    · refine ⟨idle, ?_, nofun⟩
      rintro _ ⟨rfl⟩
      exact isSandboxLost_fault
    · refine ⟨idle, ?_, nofun⟩
      rintro _ ⟨rfl⟩
      rfl

/-! ### One poll -/

/-- No variable but the filesystem is assigned. -/
structure Probed (h : Events) (v : Variables) (later : Events) (w : Variables) : Prop where
  unpolled : polls later = polls h
  evidence : w.evidence = v.evidence
  stepLog : w.stepLog = v.stepLog

lemma Idle.probed {later : Events} {w : Variables} (idle : Idle h v later w) :
    Probed h v later w := by
  obtain ⟨unpolled, rfl⟩ := idle
  exact ⟨unpolled, rfl, rfl⟩

lemma Probed.trans {h₁ h₂ h₃ : Events} {v₁ v₂ v₃ : Variables} (a : Probed h₁ v₁ h₂ v₂)
    (b : Probed h₂ v₂ h₃ v₃) : Probed h₁ v₁ h₃ v₃ :=
  ⟨b.unpolled.trans a.unpolled, b.evidence.trans a.evidence, b.stepLog.trans a.stepLog⟩

/-- What a poll may answer after `later`. -/
def Truthful (step : Step R) (later : Events) (r : Except Stopped (Option (Option ℕ))) : Prop :=
  ∀ code, r = .ok (some (some code)) → step.Receipt code later

lemma pollDoneViaFs_spec {deadline : ℚ} :
    Ensures (fun later w r => Idle h v later w ∧ Truthful step later r)
      (step.pollDoneViaFs deadline) v h := by
  rw [pollDoneViaFs]
  refine observationBudget_spec.bind (fun _ _ _ _ here => ⟨here.1, nofun⟩) ?_
  rintro h₁ v₁ _ _ ⟨first, _⟩
  refine (observe_spec _).bind (fun _ _ _ _ here => ⟨first.trans here.1, nofun⟩) ?_
  rintro h₂ v₂ present _ ⟨second, _, _⟩
  split
  · exact ⟨first.trans second, nofun⟩
  refine observationBudget_spec.bind
    (fun _ _ _ _ here => ⟨(first.trans second).trans here.1, nofun⟩) ?_
  rintro h₃ v₃ _ _ ⟨third, _⟩
  refine (observe_spec _).bind
    (fun _ _ _ _ here => ⟨((first.trans second).trans third).trans here.1, nofun⟩) ?_
  rintro h₄ v₄ raw _ ⟨fourth, _, answered⟩
  have idle := ((first.trans second).trans third).trans fourth
  split
  · exact ⟨idle, nofun⟩
  · refine ⟨idle, fun code same => ⟨raw, ?_, Or.inl (answered raw rfl)⟩⟩
    simpa using same

lemma pollDoneViaCat_spec {deadline : ℚ} :
    Ensures (fun later w r => Idle h v later w ∧ Truthful step later r)
      (step.pollDoneViaCat deadline) v h := by
  rw [pollDoneViaCat]
  refine observationBudget_spec.bind (fun _ _ _ _ here => ⟨here.1, nofun⟩) ?_
  rintro h₁ v₁ _ _ ⟨first, _⟩
  refine (observe_spec _).bind (fun _ _ _ _ here => ⟨first.trans here.1, nofun⟩) ?_
  rintro h₂ v₂ ⟨exitCode, stdout⟩ _ ⟨second, _, answered⟩
  have idle := first.trans second
  dsimp only
  split
  · exact ⟨idle, nofun⟩
  rename_i exited
  rw [not_not] at exited
  subst exited
  split
  · exact ⟨idle, nofun⟩
  rename_i ended
  cases stdout with
  | none => exact absurd (Or.inl rfl) ended
  | some out =>
    refine ⟨idle, fun code same => ⟨out, ?_, Or.inr (answered _ rfl)⟩⟩
    simpa using same

lemma degrade_spec {deadline : ℚ} {stopped : Stopped} :
    Ensures (fun later w r => Probed h v later w ∧ Truthful step later r)
      (step.degrade deadline stopped) v h := by
  cases stopped with
  | overtaken =>
    rw [degrade, Action.ensures_question]
    intro unsupported
    have asked := (Idle.start (h := h) (v := v)).asked .abandoned rfl unsupported
    cases unsupported with
    | false => exact ⟨asked.probed, nofun⟩
    | true => exact ⟨⟨asked.unpolled, rfl, rfl⟩, nofun⟩
  | threw thrown =>
    rw [degrade]
    split
    · rw [Action.ensures_bind, Action.ensures_assign]
      dsimp only [Action.afterOk]
      refine pollDoneViaCat_spec.mono ?_
      rintro later w r _ ⟨idle, truthful⟩
      obtain ⟨unpolled, rfl⟩ := idle
      exact ⟨⟨unpolled, rfl, rfl⟩, truthful⟩
    · exact ⟨Idle.start.probed, nofun⟩

theorem pollDoneOnce_spec {deadline : ℚ} :
    Ensures (fun later w r => Probed h v later w ∧ Truthful step later r)
      (step.pollDoneOnce deadline) v h := by
  rw [pollDoneOnce, Action.ensures_bind, Action.ensures_read]
  dsimp only [Action.afterOk]
  split
  · exact pollDoneViaCat_spec.mono (fun _ _ _ _ here => ⟨here.1.probed, here.2⟩)
  · rw [Action.ensures_tryCatch]
    refine pollDoneViaFs_spec.mono ?_
    rintro h₁ v₁ (stopped | exitCode) _ ⟨idle, truthful⟩
    · dsimp only [Action.afterError]
      refine degrade_spec.mono ?_
      rintro later w r _ ⟨probed, truthful⟩
      exact ⟨idle.probed.trans probed, truthful⟩
    · exact ⟨idle.probed, truthful⟩

/-! ### The timer of the step -/

/-- How a call under the timer of the step settles outside it. -/
def settledOf (step : Step R) (timeoutMs : ℚ) : Except Stopped α → Except Thrown α
  | .ok a => .ok a
  | .error (.threw thrown) => .error thrown
  | .error .overtaken => .error (stepTimeout step.label timeoutMs)

lemma withStepTimeout_spec {timeoutMs deadline : ℚ} {x : Act Stopped α}
    {post : Events → Variables → Except Thrown α → Prop}
    (inner : ∀ later, h <+: later → polls later = polls h →
      Ensures (fun later w r => post later w (step.settledOf timeoutMs r)) x v later) :
    Ensures post (step.withStepTimeout timeoutMs deadline x) v h := by
  rw [withStepTimeout]
  refine remaining_spec.bind (by rintro _ _ _ _ ⟨_, _, ⟨⟩⟩) ?_
  rintro h₁ v₁ ms extends_ ⟨⟨unpolled, rfl⟩, _⟩
  rw [Action.ensures_question]
  intro armed
  rw [Action.ensures_bind, Action.ensures_captured]
  refine (inner _ (extends_.trans (List.prefix_append _ _)) ?_).mono ?_
  · simp [polledOf, unpolled]
  · rintro later w ((_ | thrown) | a) _ here
    · exact here
    · exact here
    · exact here

/-! ### Evidence -/

lemma isSandboxLost_stepTimeout {label : String} {timeoutMs : ℚ} :
    isSandboxLost (stepTimeout label timeoutMs) = false := rfl

lemma isSandboxLost_of_isStepTimeout {thrown : Thrown} (timeout : isStepTimeout thrown = true) :
    isSandboxLost thrown = false := by
  unfold isStepTimeout at timeout
  split at timeout
  · rfl
  · cases timeout

def state (v : Variables) : Option StepState := v.evidence.map (·.state)

lemma state_onEvidence {f : DetachedStepEvidence → DetachedStepEvidence} {set : StepState}
    (sets : ∀ evidence, (f evidence).state = set) {other : StepState} (differs : set ≠ other) :
    state (onEvidence f v) ≠ some other := by
  cases evidence : v.evidence with
  | none => simp [state, onEvidence, evidence]
  | some evidence' => simp [state, onEvidence, evidence, sets, differs]

lemma readLogTail_spec :
    Ensures (fun later w (r : Except ε (Option String)) => Idle h v later w ∧ ∃ tail, r = .ok tail)
      step.readLogTail v h := by
  rw [readLogTail, Action.ensures_bind, Action.ensures_read]
  dsimp only [Action.afterOk]
  split
  · rw [Action.ensures_question]
    rintro (text | fault | _)
    · exact ⟨Idle.start.asked (.readTailFile step.logPath) rfl _, _, rfl⟩
    · exact ⟨Idle.start.asked (.readTailFile step.logPath) rfl _, _, rfl⟩
    · exact ⟨Idle.start.asked (.readTailFile step.logPath) rfl _, _, rfl⟩
  · rw [Action.ensures_question]
    exact fun text => ⟨Idle.start.asked (.catTail step.logPath) rfl _, _, rfl⟩

/-- The evidence of a timeout completes nothing and records nothing. -/
structure Recovered (h : Events) (v : Variables) (later : Events) (w : Variables) : Prop where
  unpolled : polls later = polls h
  stepLog : w.stepLog = v.stepLog
  state : state w = some .completed → state v = some .completed

lemma recoverTimeoutEvidence_spec :
    Ensures (fun later w (r : Except ε PUnit) => Recovered h v later w ∧ r = .ok .unit)
      step.recoverTimeoutEvidence v h := by
  rw [recoverTimeoutEvidence, Action.ensures_bind, Action.ensures_read]
  dsimp only [Action.afterOk]
  split
  · exact ⟨⟨rfl, rfl, id⟩, rfl⟩
  rw [Action.ensures_bind, Action.ensures_assign]
  dsimp only [Action.afterOk]
  rw [setState, Action.ensures_bind, Action.ensures_assign]
  dsimp only [Action.afterOk]
  refine readLogTail_spec.bind (by rintro _ _ _ _ ⟨_, _, ⟨⟩⟩) ?_
  rintro h₁ v₁ tail _ ⟨⟨unpolled, rfl⟩, _⟩
  rw [Action.ensures_bind, Action.ensures_assign]
  dsimp only [Action.afterOk]
  rw [Action.ensures_question]
  intro killed
  refine ⟨⟨by simp [polledOf, unpolled], rfl, fun completed => ?_⟩, rfl⟩
  cases evidence : v.evidence with
  | none => simp [Step.state, onEvidence, evidence] at completed
  | some evidence' => simp [Step.state, onEvidence, evidence] at completed

/-! ### The log -/

/-- What is read of the log was answered. -/
def ReadBack (step : Step R) (later : Events) (r : Except Stopped (Except String String)) : Prop :=
  ∀ stdout, r = .ok (.ok stdout) → step.LogRead stdout later

lemma readOnce_spec {deadline : ℚ} {fs : Bool} :
    Ensures (fun later w r => Idle h v later w ∧ Found r ∧ ReadBack step later r)
      (step.readOnce deadline fs) v h := by
  rw [readOnce]
  refine observationBudget_spec.bind (fun _ _ e _ here => ⟨here.1, ?_, nofun⟩) ?_
  · rintro thrown ⟨rfl⟩
    exact here.2 thrown rfl
  rintro h₁ v₁ _ _ ⟨first, _⟩
  cases fs with
  | true =>
    rw [if_pos rfl, Action.ensures_tryCatch, Action.ensures_bind]
    refine (observe_spec (.fsReadFile step.logPath)).mono ?_
    rintro h₂ v₂ (stopped | stdout) _ ⟨second, found, answered⟩
    · cases stopped with
      | threw thrown => exact ⟨first.trans second, nofun, nofun⟩
      | overtaken => exact ⟨first.trans second, nofun, nofun⟩
    · refine ⟨first.trans second, nofun, ?_⟩
      rintro _ ⟨rfl⟩
      exact Or.inl (answered stdout rfl)
  | false =>
    rw [if_neg Bool.false_ne_true, Action.ensures_question]
    intro answer
    have idle := first.asked (.catLogOrNull step.logPath deadline) rfl answer
    rcases answer with _ | _ | stdout
    · exact ⟨idle, nofun, nofun⟩
    · exact ⟨idle, nofun, nofun⟩
    · refine ⟨idle, nofun, ?_⟩
      rintro _ ⟨rfl⟩
      exact Or.inr ⟨deadline, List.mem_append_right _ List.mem_cons_self⟩

lemma readAttempts_spec {deadline : ℚ} {fs : Bool} (left : ℕ) {h : Events} {v : Variables} :
    Ensures (fun later w r => Idle h v later w ∧ Found r ∧ ReadBack step later r)
      (step.readAttempts deadline fs left) v h := by
  induction left generalizing h v with
  | zero => exact readOnce_spec
  | succ left ih =>
    rw [readAttempts]
    refine readOnce_spec.bind (fun _ _ e _ here => ⟨here.1, ?_, nofun⟩) ?_
    · rintro thrown ⟨rfl⟩
      exact here.2.1 thrown rfl
    rintro h₁ v₁ (failure | stdout) _ ⟨first, _, answered⟩
    · refine observationBudget_spec.bind (fun _ _ e _ here => ⟨first.trans here.1, ?_, nofun⟩) ?_
      · rintro thrown ⟨rfl⟩
        exact here.2 thrown rfl
      rintro h₂ v₂ ms _ ⟨second, _⟩
      rw [Action.ensures_question]
      intro slept
      have idle := (first.trans second).asked (.readbackSleep (min readbackDelayMs ms)) rfl slept
      cases slept with
      | none => exact ⟨idle, nofun, nofun⟩
      | some _ => exact ih.mono (fun _ _ _ _ here => ⟨idle.trans here.1, here.2⟩)
    · refine ⟨first, nofun, ?_⟩
      rintro _ ⟨rfl⟩
      exact answered stdout rfl

theorem readCompletedLog_spec {deadline : ℚ} {fs : Bool} :
    Ensures (fun later w r => Idle h v later w ∧ Found r ∧
        ∀ stdout, r = .ok stdout → step.LogRead stdout later)
      (step.readCompletedLog deadline fs) v h := by
  rw [readCompletedLog]
  refine (readAttempts_spec _).bind (fun _ _ e _ here => ⟨here.1, ?_, nofun⟩) ?_
  · rintro thrown ⟨rfl⟩
    exact here.2.1 thrown rfl
  rintro h₁ v₁ (failure | stdout) _ ⟨first, _, answered⟩
  · dsimp only
    split
    · rw [Action.ensures_question]
      intro answer
      have idle := first.asked (.catLogOrNull step.logPath deadline) rfl answer
      rcases answer with _ | _ | stdout
      · exact ⟨idle, nofun, nofun⟩
      · refine ⟨idle, ?_, nofun⟩
        rintro _ ⟨rfl⟩
        rfl
      · refine ⟨idle, nofun, ?_⟩
        rintro _ ⟨rfl⟩
        exact Or.inr ⟨deadline, List.mem_append_right _ List.mem_cons_self⟩
    · refine ⟨first, ?_, nofun⟩
      rintro _ ⟨rfl⟩
      rfl
  · refine ⟨first, nofun, ?_⟩
    rintro _ ⟨rfl⟩
    exact answered stdout rfl

/-! ### Collecting -/

/-- The step log has one entry more. -/
def Recorded (v w : Variables) : Prop := ∃ entry, w.stepLog = v.stepLog ++ [entry]

/-- An error that is not a lost sandbox. -/
def Other {β : Type} (r : Except Thrown β) : Prop :=
  ∀ thrown, r = .error thrown → isSandboxLost thrown = false

lemma finishStep_spec {started : ℚ} {result : R} :
    Ensures (fun later w r => polls later = polls h ∧ w.evidence = v.evidence ∧ Recorded v w ∧
        Other r ∧ ∀ result', r = .ok result' → result' = result ∧
          (step.allowFailure = false → step.facade.exitCode result = some 0))
      (step.finishStep started result) v h := by
  rw [finishStep, Action.ensures_bind]
  apply clock_spec
  intro at_
  have unpolled := (Idle.start.asked (h := h) (v := v) .now rfl at_).unpolled
  dsimp only [Action.afterOk]
  rw [recordStep, Action.ensures_bind, Action.ensures_assign]
  dsimp only [Action.afterOk]
  split
  · split
    · refine ⟨unpolled, rfl, ⟨_, rfl⟩, ?_, nofun⟩
      rintro _ ⟨rfl⟩
      rfl
    · refine ⟨unpolled, rfl, ⟨_, rfl⟩, ?_, nofun⟩
      rintro _ ⟨rfl⟩
      rfl
  · rename_i accepted
    rw [not_and_or, not_not, Bool.not_eq_false] at accepted
    refine ⟨unpolled, rfl, ⟨_, rfl⟩, nofun, ?_⟩
    rintro _ ⟨rfl⟩
    refine ⟨rfl, fun strict => ?_⟩
    rcases accepted with zero | allowed
    · exact zero
    · exact absurd (strict.symm.trans allowed) Bool.false_ne_true

/-- How the collection of a log ends. -/
structure Collected (step : Step R) (exitCode : Option ℕ) (h : Events) (v : Variables)
    (later : Events) (w : Variables) (r : Except Thrown R) : Prop where
  unpolled : polls later = polls h
  recorded : w.stepLog = v.stepLog ∨ Recorded v w
  completed : state w = some .completed →
    state v = some .completed ∧ ∃ stdout, step.LogRead stdout later
  other : Other r
  returned : ∀ result, r = .ok result → Recorded v w ∧
    (step.allowFailure = false → step.facade.exitCode result = some 0) ∧
    ∃ stdout ms, result = step.facade.completed exitCode stdout ms ∧ step.LogRead stdout later

lemma collectLog_spec {timeoutMs started deadline : ℚ} {exitCode : Option ℕ} :
    Ensures (Collected step exitCode h v) (step.collectLog timeoutMs started deadline exitCode)
      v h := by
  rw [collectLog, Action.ensures_finally]
  suffices collected : Ensures (Collected step exitCode h v) _ v h by
    refine collected.mono ?_
    rintro later w r _ ⟨unpolled, recorded, completed, other, returned⟩
    rw [Action.ensures_question]
    intro removed
    refine ⟨by simp [polledOf, unpolled], recorded, ?_, other, ?_⟩
    · intro done
      obtain ⟨before, stdout, read⟩ := completed done
      exact ⟨before, stdout, read.mono (List.prefix_append _ _)⟩
    · intro result ok
      obtain ⟨entry, zero, stdout, ms, built, read⟩ := returned result ok
      exact ⟨entry, zero, stdout, ms, built, read.mono (List.prefix_append _ _)⟩
  rw [Action.ensures_bind, Action.ensures_read]
  dsimp only [Action.afterOk]
  rw [Action.ensures_bind, Action.ensures_tryCatch]
  apply withStepTimeout_spec
  intro h₁ _ unpolled₁
  refine readCompletedLog_spec.mono ?_
  rintro h₂ v₂ r extends_ ⟨⟨unpolled₂, rfl⟩, found, read⟩
  have failed : ∀ thrown, isSandboxLost thrown = false →
      Ensures (Collected step exitCode h v₂) (do
        setState .collectionFailed
        throw thrown : Act Thrown R) v₂ h₂ := by
    intro thrown other
    rw [setState, Action.ensures_bind, Action.ensures_assign]
    refine ⟨unpolled₂.trans unpolled₁, Or.inl rfl, fun completed => ?_, ?_, nofun⟩
    · have differs : StepState.collectionFailed ≠ .completed := by decide
      exact absurd completed (state_onEvidence (by exact fun _ => rfl) differs)
    · rintro _ ⟨rfl⟩
      exact other
  rcases r with (_ | thrown) | stdout
  · exact failed _ rfl
  · exact failed thrown (found thrown rfl)
  dsimp only [settledOf, Action.afterError, Action.afterOk]
  rw [Action.ensures_bind]
  apply clock_spec
  intro at_
  dsimp only [Action.afterOk]
  refine finishStep_spec.mono ?_
  rintro h₃ v₃ r extends₃ ⟨unpolled₃, evidence, recorded, other, returned⟩
  have logged := (read stdout rfl).mono ((List.prefix_append _ _).trans extends₃)
  refine ⟨?_, Or.inr recorded, ?_, other, ?_⟩
  · rw [unpolled₃, polls_append, unpolled₂, unpolled₁]
    simp [polledOf]
  · intro completed
    rw [Step.state, evidence] at completed
    exact ⟨completed, stdout, logged⟩
  · intro result ok
    obtain ⟨rfl, zero⟩ := returned result ok
    exact ⟨recorded, zero, stdout, _, rfl, logged⟩

/-! ### Polling -/

/-- Between polls nothing is complete, and fewer polls in a row have failed than are allowed. -/
structure Polling (failures : ℕ) (h : Events) (v : Variables) : Prop where
  counted : failuresAtEnd (polls h) = failures
  few : failures < maxConsecutivePollFailures
  pending : state v ≠ some .completed

/-- How a round of polling ends. -/
inductive RoundEnds (step : Step R) (v : Variables) (later : Events) (w : Variables) :
    Except Thrown Round → Prop
  | finished (exitCode : Option ℕ) (stepLog : w.stepLog = v.stepLog)
      (answered : failuresAtEnd (polls later) = 0)
      (completed : state w = some .completed → exitCode ≠ none)
      (receipt : ∀ code, exitCode = some code → step.Receipt code later) :
      RoundEnds step v later w (.ok (.finished exitCode))
  | pending (failures : ℕ) (stepLog : w.stepLog = v.stepLog)
      (polling : Polling failures later w) : RoundEnds step v later w (.ok (.pending failures))
  | failed (thrown : Thrown) (stepLog : w.stepLog = v.stepLog)
      (incomplete : state w ≠ some .completed)
      (lost : isSandboxLost thrown = true ↔
        maxConsecutivePollFailures ≤ failuresAtEnd (polls later)) :
      RoundEnds step v later w (.error thrown)

lemma observed_spec {started : ℚ} {exitCode : Option (Option ℕ)} :
    Ensures (fun later w (r : Except ε PUnit) => polls later = polls h ∧ w.stepLog = v.stepLog ∧
        (∀ other, stateOf exitCode ≠ other → state w ≠ some other) ∧ r = .ok .unit)
      (observed started exitCode) v h := by
  rw [observed, Action.ensures_bind]
  apply clock_spec
  intro at_
  dsimp only [Action.afterOk]
  rw [Action.ensures_assign]
  refine ⟨(Idle.start.asked (h := h) (v := v) .now rfl at_).unpolled, rfl, ?_, rfl⟩
  exact fun other differs => state_onEvidence (by exact fun _ => rfl) differs

lemma roundOf_spec {started : ℚ} {failures : ℕ} {polled : Except Thrown (Option (Option ℕ))}
    {before : List Outcome} {w : Variables} (stepLog : w.stepLog = v.stepLog)
    (incomplete : state w ≠ some .completed) (counted : failuresAtEnd before = failures)
    (outcomes : polls h = before ++ [outcomeOf polled])
    (receipt : ∀ code, polled = .ok (some (some code)) → step.Receipt code h) :
    Ensures (RoundEnds step v) (step.roundOf started failures polled) w h := by
  cases polled with
  | ok exitCode =>
    have none_failed : failuresAtEnd (polls h) = 0 := by rw [outcomes, outcomeOf, failuresAtEnd_seen]
    unfold roundOf
    refine observed_spec.bind (by rintro _ _ _ _ ⟨_, _, _, ⟨⟩⟩) ?_
    rintro later w' _ extends_ ⟨unpolled, kept, differs, _⟩
    rw [← unpolled] at none_failed
    cases exitCode with
    | none =>
      have running : StepState.running ≠ .completed := by decide
      exact .pending 0 (kept.trans stepLog) ⟨none_failed, by decide, differs _ running⟩
    | some code =>
      refine .finished code (kept.trans stepLog) none_failed ?_ ?_
      · rintro completed rfl
        have unavailable : StepState.observationUnavailable ≠ .completed := by decide
        exact differs _ unavailable completed
      · rintro code rfl
        exact (receipt code rfl).mono extends_
  | error thrown =>
    rw [roundOf]
    split
    · rename_i timeout
      refine .failed thrown stepLog incomplete ?_
      rw [isSandboxLost_of_isStepTimeout timeout, outcomes, outcomeOf, if_pos timeout,
        failuresAtEnd_overtaken]
      exact ⟨nofun, fun many => absurd many (by decide)⟩
    · rename_i failed
      have more : failuresAtEnd (polls h) = failures + 1 := by
        rw [outcomes, outcomeOf, if_neg failed, failuresAtEnd_failed, counted]
      have unavailable : StepState.observationUnavailable ≠ .completed := by decide
      have incomplete' := state_onEvidence (v := w)
        (f := fun evidence => { evidence with state := .observationUnavailable })
        (by exact fun _ => rfl) unavailable
      rw [setState, Action.ensures_bind, Action.ensures_assign]
      dsimp only [Action.afterOk]
      split
      · rename_i many
        refine .failed _ stepLog incomplete' ?_
        rw [more]
        exact ⟨fun _ => many, fun _ => rfl⟩
      · rename_i few'
        exact .pending _ stepLog ⟨more, not_le.mp few', incomplete'⟩

theorem pollRound_spec {timeoutMs started deadline : ℚ} {failures : ℕ}
    (polling : Polling failures h v) :
    Ensures (RoundEnds step v) (step.pollRound timeoutMs started deadline failures) v h := by
  rw [pollRound, Action.ensures_bind, Action.ensures_captured]
  apply withStepTimeout_spec
  intro h₁ _ unpolled₁
  refine pollDoneOnce_spec.mono ?_
  rintro h₂ w r _ ⟨⟨unpolled₂, evidence, stepLog⟩, truthful⟩
  dsimp only [Action.afterOk]
  rw [Action.ensures_question]
  intro ended
  have incomplete : state w ≠ some .completed := by
    rw [Step.state, evidence]
    exact polling.pending
  refine roundOf_spec stepLog incomplete polling.counted ?_ ?_
  · rw [polls_append, unpolled₂, unpolled₁]
    rfl
  · rintro code same
    have answered : r = .ok (some (some code)) := by
      rcases r with (_ | thrown) | exitCode
      · cases same
      · cases same
      · simpa [settledOf] using same
    exact (truthful code answered).mono (List.prefix_append _ _)

/-! ### The loop and its exits -/

/-- How a launched step ends, before the outer `catch`. -/
structure Ending (step : Step R) (v : Variables) (later : Events) (w : Variables)
    (r : Except Thrown R) : Prop where
  recorded : w.stepLog = v.stepLog ∨ Recorded v w
  completed : state w = some .completed →
    ∃ code stdout, step.Receipt code later ∧ step.LogRead stdout later
  lost : (∃ thrown, r = .error thrown ∧ isSandboxLost thrown = true) ↔
    maxConsecutivePollFailures ≤ failuresAtEnd (polls later)
  returned : ∀ result, r = .ok result → Recorded v w ∧
    (step.allowFailure = false → step.facade.exitCode result = some 0) ∧
    ∃ exitCode stdout ms, result = step.facade.completed exitCode stdout ms ∧
      step.LogRead stdout later ∧ ∀ code, exitCode = some code → step.Receipt code later

lemma pause_spec {timeoutMs deadline pollDelayMs : ℚ} :
    Ensures (fun later w r => Recovered h v later w ∧ Other r)
      (step.pause timeoutMs deadline pollDelayMs) v h := by
  rw [pause, Action.ensures_bind]
  apply clock_spec
  intro at_
  have unpolled := (Idle.start.asked (h := h) (v := v) .now rfl at_).unpolled
  dsimp only [Action.afterOk]
  split
  · refine recoverTimeoutEvidence_spec.bind (by rintro _ _ _ _ ⟨_, ⟨⟩⟩) ?_
    rintro later w _ _ ⟨⟨unpolled', stepLog, incomplete⟩, _⟩
    refine ⟨⟨unpolled'.trans unpolled, stepLog, incomplete⟩, ?_⟩
    rintro _ ⟨rfl⟩
    rfl
  · refine remaining_spec.bind (by rintro _ _ _ _ ⟨_, _, ⟨⟩⟩) ?_
    rintro later w ms _ ⟨⟨unpolled', rfl⟩, _⟩
    rw [Action.ensures_question]
    intro slept
    refine ⟨⟨?_, rfl, id⟩, nofun⟩
    rw [polls_append, unpolled', unpolled, polls_singleton]
    exact List.append_nil _

/-- An error that leaves fewer failed polls than are allowed ends the loop as it should. -/
lemma Polling.ending {failures : ℕ} {w : Variables} {later : Events} {thrown : Thrown}
    (polling : Polling failures h v) (recovered : Recovered h v later w)
    (other : isSandboxLost thrown = false) : Ending step v later w (.error thrown) := by
  refine ⟨Or.inl recovered.stepLog, fun completed => ?_, ?_, nofun⟩
  · exact absurd (recovered.state completed) polling.pending
  · rw [recovered.unpolled, polling.counted]
    refine ⟨?_, fun many => absurd polling.few (not_lt.mpr many)⟩
    rintro ⟨_, ⟨rfl⟩, lost⟩
    exact absurd (other.symm.trans lost) Bool.false_ne_true

lemma Ending.congr {v' : Variables} {later : Events} {w : Variables} {r : Except Thrown R}
    (ending : Ending step v later w r) (stepLog : v.stepLog = v'.stepLog) :
    Ending step v' later w r := by
  obtain ⟨recorded, completed, lost, returned⟩ := ending
  rw [Recorded, stepLog] at recorded
  refine ⟨recorded, completed, lost, fun result ok => ?_⟩
  have built := returned result ok
  rwa [Recorded, stepLog] at built

theorem pollLoop_spec {timeoutMs started deadline : ℚ} (rounds : ℕ) {pollDelayMs : ℚ}
    {failures : ℕ} {h : Events} {v : Variables} (polling : Polling failures h v) :
    Ensures (Ending step v) (step.pollLoop timeoutMs started deadline rounds pollDelayMs failures)
      v h := by
  induction rounds generalizing pollDelayMs failures h v with
  | zero => exact Action.ensures_cut
  | succ rounds ih =>
    rw [pollLoop, Action.ensures_bind]
    refine (pollRound_spec polling).mono ?_
    rintro h₁ v₁ _ _ (⟨exitCode, stepLog, none_failed, answered, receipt⟩ |
      ⟨failures, stepLog, polling⟩ | ⟨thrown, stepLog, incomplete, lost⟩)
    · dsimp only [Action.afterOk]
      refine collectLog_spec.mono ?_
      rintro later w r extends_ ⟨unpolled, recorded, completed, other, returned⟩
      refine Ending.congr ⟨recorded, fun done => ?_, ?_, fun result ok => ?_⟩ stepLog
      · obtain ⟨before, stdout, read⟩ := completed done
        obtain ⟨code, some⟩ := Option.ne_none_iff_exists'.mp (answered before)
        exact ⟨code, stdout, (receipt code some).mono extends_, read⟩
      · rw [unpolled, none_failed]
        refine ⟨?_, fun many => absurd many (by decide)⟩
        rintro ⟨thrown, rfl, lost⟩
        exact absurd ((other thrown rfl).symm.trans lost) Bool.false_ne_true
      · obtain ⟨entry, zero, stdout, ms, built, read⟩ := returned result ok
        exact ⟨entry, zero, exitCode, stdout, ms, built, read,
          fun code some => (receipt code some).mono extends_⟩
    · dsimp only [Action.afterOk]
      refine pause_spec.bind ?_ ?_
      · rintro later w thrown _ ⟨recovered, other⟩
        exact (polling.ending recovered (other thrown rfl)).congr stepLog
      · rintro h₂ v₂ _ _ ⟨⟨unpolled, stepLog', incomplete⟩, _⟩
        have polling' : Polling failures h₂ v₂ :=
          ⟨by rw [unpolled, polling.counted], polling.few,
            fun completed => polling.pending (incomplete completed)⟩
        exact (ih polling').mono (fun _ _ _ _ ending => ending.congr (stepLog'.trans stepLog))
    · dsimp only [Action.afterOk]
      refine ⟨Or.inl stepLog, fun completed => absurd completed incomplete, ?_, nofun⟩
      rw [← lost]
      refine ⟨?_, fun here => ⟨thrown, rfl, here⟩⟩
      rintro ⟨_, ⟨rfl⟩, here⟩
      exact here

lemma launchStep_spec {timeoutMs deadline : ℚ} (incomplete : state v ≠ some .completed) :
    Ensures (fun later w r => polls later = polls h ∧ w.stepLog = v.stepLog ∧
        state w ≠ some .completed ∧ Other r) (step.launchStep timeoutMs deadline) v h := by
  rw [launchStep]
  split
  · rename_i thrown refused
    refine ⟨rfl, rfl, incomplete, ?_⟩
    rintro _ ⟨rfl⟩
    unfold detachedCommand at refused
    split at refused
    · cases refused
      rfl
    · cases refused
  · rename_i wrapped _
    refine remaining_spec.bind (by rintro _ _ _ _ ⟨_, _, ⟨⟩⟩) ?_
    rintro later w ms _ ⟨⟨unpolled, rfl⟩, _⟩
    rw [Action.ensures_question]
    intro answer
    have idle := (Idle.mk (w := w) unpolled rfl).asked (.launch wrapped ms) rfl answer
    rcases answer with _ | fault | _
    · have accepted : StepState.launchAccepted ≠ .completed := by decide
      exact ⟨idle.unpolled, rfl, state_onEvidence (by exact fun _ => rfl) accepted, nofun⟩
    · refine ⟨idle.unpolled, rfl, incomplete, ?_⟩
      rintro _ ⟨rfl⟩
      exact isSandboxLost_fault
    · refine ⟨idle.unpolled, rfl, incomplete, ?_⟩
      rintro _ ⟨rfl⟩
      rfl

/-- How an admitted step settles. -/
structure Settled (step : Step R) (v : Variables) (h : Events) (w : Variables)
    (r : Except Thrown R) : Prop where
  /-- Without `allowFailure` it returns only on its own receipt for 0 and its log. -/
  accepted : step.allowFailure = false → ∀ result, r = .ok result → ∃ stdout ms,
    result = step.facade.completed (some 0) stdout ms ∧ step.Receipt 0 h ∧ step.LogRead stdout h
  /-- No success is reported on any other receipt, whatever the step allows. -/
  genuine : ∀ result, r = .ok result → step.facade.exitCode result = some 0 → step.Receipt 0 h
  lost : (∃ thrown, r = .error thrown ∧ isSandboxLost thrown = true) ↔
    maxConsecutivePollFailures ≤ failuresAtEnd (polls h)
  completed : state w = some .completed → ∃ code stdout, step.Receipt code h ∧ step.LogRead stdout h
  recorded : Recorded v w

/-- An outcome returned stands as the loop left it. -/
lemma Ending.settled {later : Events} {w : Variables} {result : R}
    (ending : Ending step v later w (.ok result)) : Settled step v later w (.ok result) := by
  obtain ⟨entry, zero, exitCode, stdout, ms, rfl, read, receipt⟩ := ending.returned result rfl
  have exited := step.facade.exitCode_completed exitCode stdout ms
  refine ⟨?_, ?_, ending.lost, ending.completed, entry⟩
  · rintro strict _ ⟨rfl⟩
    obtain rfl := exited.mp (zero strict)
    exact ⟨stdout, ms, rfl, receipt 0 rfl, read⟩
  · rintro _ ⟨rfl⟩ success
    exact receipt 0 (exited.mp success)

lemma isLate_spec {deadline : ℚ} {thrown : Thrown} :
    Ensures (fun later w r => Idle h v later w ∧ ∃ late, r = .ok late) (isLate deadline thrown)
      v h := by
  rw [isLate]
  split
  · exact ⟨.start, _, rfl⟩
  · rw [Action.ensures_bind]
    apply clock_spec
    exact fun at_ => ⟨Idle.start.asked .now rfl at_, _, rfl⟩

lemma recoverLate_spec {deadline : ℚ} {thrown : Thrown} :
    Ensures (fun later w r => Recovered h v later w ∧ r = .ok .unit)
      (step.recoverLate deadline thrown) v h := by
  rw [recoverLate]
  refine isLate_spec.bind (by rintro _ _ _ _ ⟨_, _, ⟨⟩⟩) ?_
  rintro h₁ v₁ late _ ⟨⟨unpolled, rfl⟩, _⟩
  rw [evidenceState, Action.ensures_bind, Action.ensures_read]
  dsimp only [Action.afterOk]
  split
  · refine recoverTimeoutEvidence_spec.mono ?_
    rintro later w r _ ⟨⟨unpolled', stepLog, incomplete⟩, rfl⟩
    exact ⟨⟨unpolled'.trans unpolled, stepLog, incomplete⟩, rfl⟩
  · exact ⟨⟨unpolled, rfl, id⟩, rfl⟩

lemma recordMissing_spec {started : ℚ} {before : Variables}
    (recorded : v.stepLog = before.stepLog ∨ Recorded before v) :
    Ensures (fun later w r => polls later = polls h ∧ Recorded before w ∧
        w.evidence = v.evidence ∧ r = .ok .unit)
      (step.recordMissing started before.stepLog.length) v h := by
  rw [recordMissing, Action.ensures_bind, Action.ensures_read]
  dsimp only [Action.afterOk]
  split
  · rename_i same
    have unrecorded : v.stepLog = before.stepLog := by
      rcases recorded with same' | ⟨entry, more⟩
      · exact same'
      · rw [more, List.length_append, List.length_singleton] at same
        omega
    rw [Action.ensures_bind]
    apply clock_spec
    intro at_
    dsimp only [Action.afterOk]
    rw [Action.ensures_bind, Action.ensures_read]
    have unpolled := (Idle.start.asked (h := h) (v := v) .now rfl at_).unpolled
    exact ⟨unpolled, ⟨_, congrArg (· ++ [_]) unrecorded⟩, rfl, rfl⟩
  · rename_i more
    refine ⟨rfl, ?_, rfl, rfl⟩
    rcases recorded with same | recorded
    · exact absurd (congrArg List.length same) more
    · exact recorded

/-- The outer `catch` records what has no entry yet, and passes the error on. -/
lemma failStep_spec {started deadline : ℚ} {before : Variables} {thrown : Thrown}
    (ending : Ending step before h v (.error thrown)) :
    Ensures (Settled step before) (step.failStep started deadline before.stepLog.length thrown)
      v h := by
  rw [failStep]
  refine recoverLate_spec.bind (by rintro _ _ _ _ ⟨_, ⟨⟩⟩) ?_
  rintro h₁ v₁ _ extends₁ ⟨⟨unpolled₁, stepLog, incomplete⟩, _⟩
  have recorded : v₁.stepLog = before.stepLog ∨ Recorded before v₁ := by
    rw [Recorded, stepLog]
    exact ending.recorded
  refine (recordMissing_spec recorded).bind (by rintro _ _ _ _ ⟨_, _, _, ⟨⟩⟩) ?_
  rintro h₂ v₂ _ extends₂ ⟨unpolled₂, recorded, evidence, _⟩
  refine ⟨nofun, nofun, ?_, fun completed => ?_, recorded⟩
  · rw [unpolled₂, unpolled₁, ← ending.lost]
  · rw [Step.state, evidence] at completed
    obtain ⟨code, stdout, receipt, read⟩ := ending.completed (incomplete completed)
    have extends_ := extends₁.trans extends₂
    exact ⟨code, stdout, receipt.mono extends_, read.mono extends_⟩

theorem runAdmitted_spec {rounds : ℕ} {timeoutMs : ℚ} (unpolled : polls h = []) :
    Ensures (Settled step v) (step.runAdmitted rounds timeoutMs) v h := by
  rw [runAdmitted, Action.ensures_bind]
  apply clock_spec
  intro started
  dsimp only [Action.afterOk]
  rw [Action.ensures_bind, Action.ensures_assign]
  dsimp only [Action.afterOk]
  rw [Action.ensures_bind, Action.ensures_read]
  dsimp only [Action.afterOk]
  rw [Action.ensures_tryCatch]
  suffices ended : Ensures (Ending step v) _ _ _ by
    refine ended.mono ?_
    rintro h₁ v₁ (thrown | result) _ ending
    · exact failStep_spec ending
    · exact ending.settled
  refine (launchStep_spec (by simp [Step.state, pendingEvidence])).bind ?_ ?_
  · rintro h₁ v₁ thrown _ ⟨unpolled₁, stepLog, incomplete, other⟩
    have none_failed : failuresAtEnd (polls h₁) = 0 := by
      rw [unpolled₁, polls_append, unpolled]
      rfl
    refine ⟨Or.inl stepLog, fun completed => absurd completed incomplete, ?_, nofun⟩
    rw [none_failed]
    refine ⟨?_, fun many => absurd many (by decide)⟩
    rintro ⟨_, ⟨rfl⟩, lost⟩
    exact absurd ((other thrown rfl).symm.trans lost) Bool.false_ne_true
  · rintro h₁ v₁ _ _ ⟨unpolled₁, stepLog, incomplete, _⟩
    have none_failed : failuresAtEnd (polls h₁) = 0 := by
      rw [unpolled₁, polls_append, unpolled]
      rfl
    have polling : Polling 0 h₁ v₁ := ⟨none_failed, by decide, incomplete⟩
    exact (pollLoop_spec rounds polling).mono (fun _ _ _ _ ending => ending.congr stepLog)

/-- The phase deadline had passed when the step was to start. -/
structure Refused (step : Step R) (v : Variables) (h : Events) (w : Variables)
    (r : Except Thrown R) : Prop where
  unchanged : w = v
  thrown : r = .error (.error s!"{step.phase.text} phase deadline exceeded")
  passed : ∃ phaseDeadline at_, step.phaseDeadline = some phaseDeadline ∧ phaseDeadline ≤ at_ ∧
    h = [⟨.date, at_⟩]

theorem runDetached_spec {rounds : ℕ} :
    Ensures (fun later w r => Refused step v later w r ∨ Settled step v later w r)
      (step.runDetached rounds) v [] := by
  rw [runDetached, boundedTimeout, Action.ensures_bind]
  split
  · exact (runAdmitted_spec rfl).mono (fun _ _ _ _ settled => Or.inr settled)
  · rename_i phaseDeadline bounded
    rw [Action.ensures_question]
    intro at_
    split
    · rename_i passed
      exact Or.inl ⟨rfl, rfl, phaseDeadline, at_, bounded, by linarith, rfl⟩
    · exact (runAdmitted_spec rfl).mono (fun _ _ _ _ settled => Or.inr settled)

end

end Step

/-! ### Runs -/

/-- A step on a sandbox without a filesystem, with a budget of 70 s. -/
def sampleStep : Step CommandResult where
  facade := stepRunner
  phase := .benchmark
  phaseDeadline := none
  label := "bench"
  preamble := "set -e"
  script := "true"
  timeoutMs := 70000
  allowFailure := false
  uuid := "0"
  redactedTail := id

def sampleVariables : Variables := ⟨none, [], false, false⟩

/-- The clock is read, and shows `at_`. -/
def read (at_ : ℚ) : Sigma Answer := ⟨.now, at_⟩

/-- The launch, accepted at once. -/
def launched : Events :=
  [read 0, read 0, ⟨.launch ((sampleStep.detachedCommand "set -e; true").toOption.getD "") 70000,
    .returned ()⟩]

/-- A poll at `at_` with its answer, up to its end. -/
def polledAt (at_ : ℚ) (answer : Option (Race Executed)) (outcome : Outcome) : Events :=
  [read at_, ⟨.arm (max 1 (70000 - at_)), ()⟩, read at_, read at_,
    ⟨.observe sampleStep.catDone (min 10000 (70000 - at_)), answer⟩, ⟨.polled outcome, ()⟩]

/-- A receipt at the first poll, and the log. -/
def receivedEvents : Events :=
  launched ++
    polledAt 0 (some (.returned ⟨some 0, some "v1 bench-0 0\n"⟩)) (.seen (some (some 0))) ++
    [read 1, read 1, ⟨.arm 69999, ()⟩, read 1,
      ⟨.catLogOrNull sampleStep.logPath 70000, some (some "ok")⟩, read 1, read 1,
      ⟨.removeDetachedFiles sampleStep.logPath sampleStep.donePath, ()⟩]

/-- A poll that the sandbox rejects, and the pause after it. -/
def rejectedAt (at_ pollDelayMs : ℚ) : Events :=
  polledAt at_ (some (.threw (.error "gone"))) .failed ++
    [read at_, read at_, ⟨.sleep (min pollDelayMs (max 1 (70000 - at_))), ()⟩]

/-- The pauses of the loop, from the first. -/
def delays : ℕ → ℚ → List ℚ
  | 0, _ => []
  | n + 1, ms => ms :: delays n (min (ms * Step.pollBackoff) Step.pollCapMs)

/-- Eleven rejected polls, and a twelfth that the deadline leaves no budget for. -/
def lateEvents : Events :=
  launched ++
    ((delays 11 Step.pollStartMs).foldl (fun (run : ℚ × Events) ms =>
      (run.1 + ms, run.2 ++ rejectedAt run.1 ms)) (0, [])).2 ++
    [read 70000, ⟨.arm 1, ()⟩, read 70000, ⟨.polled .failed, ()⟩, read 70000,
      ⟨.catTail sampleStep.logPath, none⟩, ⟨.kill sampleStep.identity, ()⟩, read 70000]

/-- The first reading of the clock. -/
def startedAt (h : Events) : ℚ :=
  (h.findSome? (fun e => match e with
    | ⟨.now, at_⟩ => some at_
    | _ => none)).getD 0

/-- The last reading of the clock, and how many polls at the end failed before the deadline. -/
def timely (deadline : ℚ) (h : Events) : ℚ × ℕ :=
  h.foldl (fun run e => match e with
    | ⟨.now, at_⟩ => (at_, run.2)
    | ⟨.polled .failed, _⟩ => (run.1, if run.1 < deadline then run.2 + 1 else run.2)
    | ⟨.polled _, _⟩ => (run.1, 0)
    | _ => run) (0, 0)

/-- A sandbox is reported lost although the deadline passed before the twelfth poll failed. -/
theorem runDetached_lost_late : ¬ ∀ (step : Step CommandResult) (rounds : ℕ) (v : Variables)
    (h : Events) (r : Except Thrown CommandResult) (w : Variables), step.phaseDeadline = none →
    ((step.runDetached rounds).runFrom v).Returns h (r, w) →
    ((∃ thrown, r = .error thrown ∧ isSandboxLost thrown = true) ↔
      12 ≤ (timely (startedAt h + step.timeoutMs) h).2) := by
  intro exactly
  have ends : ((sampleStep.runDetached 12).runFrom sampleVariables).ends lateEvents (fun r =>
      match r.1 with
      | .error thrown => isSandboxLost thrown
      | .ok _ => false) = true := by decide +kernel
  obtain ⟨⟨r, w⟩, lost, returns⟩ := Program.returns_of_ends ends
  cases r with
  | ok result => cases lost
  | error thrown =>
    have few : ¬ 12 ≤ (timely (startedAt lateEvents + sampleStep.timeoutMs) lateEvents).2 := by
      decide +kernel
    exact few ((exactly sampleStep 12 sampleVariables lateEvents _ w rfl returns).mp
      ⟨thrown, rfl, lost⟩)

/-- Whatever the environment does, a step that its phase admits settles only as it should. -/
theorem runDetached_settles {R : Type} (step : Step R) (rounds : ℕ) (v : Variables) (h : Events)
    (r : Except Thrown R) (w : Variables)
    (returns : ((step.runDetached rounds).runFrom v).Returns h (r, w)) :
    step.Refused v h w r ∨ step.Settled v h w r :=
  Step.runDetached_spec.returns returns

theorem runDetached_settles_received : ∃ w,
    ((sampleStep.runDetached 1).runFrom sampleVariables).Returns receivedEvents
      (.ok ⟨0, some "ok"⟩, w) ∧
    sampleStep.Receipt 0 receivedEvents ∧ sampleStep.LogRead "ok" receivedEvents ∧
    w.stepLog.length = 1 := by
  have ends : ((sampleStep.runDetached 1).runFrom sampleVariables).ends receivedEvents (fun r =>
      match r.1 with
      | .error _ => false
      | .ok result => result = ⟨0, some "ok"⟩) = true := by decide +kernel
  obtain ⟨⟨r, w⟩, received, returns⟩ := Program.returns_of_ends ends
  cases r with
  | error thrown => cases received
  | ok result =>
    obtain rfl : result = ⟨0, some "ok"⟩ := of_decide_eq_true received
    have settles := runDetached_settles sampleStep 1 sampleVariables receivedEvents _ w returns
    rcases settles with refused | settled
    · cases refused.thrown
    · obtain ⟨stdout, ms, built, receipt, read⟩ := settled.accepted rfl _ rfl
      obtain rfl : "ok" = stdout := Option.some.inj (congrArg CommandResult.stdout built)
      obtain ⟨entry, recorded⟩ := settled.recorded
      exact ⟨w, returns, receipt, read, by rw [recorded]; rfl⟩

end DetachedStep
