import SandboxBenchmarks.SuiteWork

/-!
# What a suite fails with

The stages before the exit are asked one after another, and the suite is handed to the
exit with the first failure among them, or skipped, or completed.
-/

namespace SuiteWork

open Interaction JsonText RunModel

abbrev Past := History Ask Answer

variable {runtime : WorkRuntime} {ctx : WorkContext}

/-! ### What failed -/

/-- Questions of the suite itself, before the exit. -/
def isStage : Ask → Bool
  | .writeGapMarker outcome _ _ => outcome = .skipped
  | .writeExecution _ _ => false
  | .destroy => false
  | .confirmCleanup => false
  | .writeCleanup _ _ => false
  | .captureAfterTeardown _ _ => false
  | .writeProviderCostEvidence _ => false
  | _ => true

/-- What a stage's answer fails the suite with. A setup step with attempts left fails nothing. -/
def stageError (runtime : WorkRuntime) (ctx : WorkContext) (entry : Sigma Answer) : Option Thrown :=
  match entry with
  | ⟨.setup step attempt, .error e⟩ => if step.attempts ≤ attempt then some e else none
  | ⟨.captureArtifactFingerprint, .ok stdout⟩ =>
    match manifestFingerprint runtime stdout with
    | .ok _ => none
    | .error e => some e
  | ⟨.listResults, .ok found⟩ => if found then none else some (noPtsResult runtime ctx)
  | ⟨q, .error e⟩ => if isStage q then some e else none
  | ⟨_, .ok _⟩ => none

def isSkip : Ask → Bool
  | .writeGapMarker .skipped _ _ => true
  | _ => false

def skippedIn (h : Past) : Bool := h.any (fun entry => isSkip entry.1)

/-- The failure of the suite: the first one among its stages. -/
def firstFailure (runtime : WorkRuntime) (ctx : WorkContext) (h : Past) : Option Thrown :=
  match ctx.sandboxId with
  | none =>
    some (failure runtime "Sandbox id is unavailable; artifact attribution cannot be persisted")
  | some _ =>
    match h.findSome? (stageError runtime ctx), ctx.setupSteps with
    | some e, _ => some e
    | none, .error e => if skippedIn h then none else some e
    | none, .ok _ => none

/-- The suite went through to its results. -/
structure Completed (ctx : WorkContext) (h : Past) : Prop where
  setUp : ∃ steps, ctx.setupSteps = .ok steps ∧
    ∀ step ∈ steps, ∃ attempt, (⟨.setup step attempt, .ok ()⟩ : Sigma Answer) ∈ h
  ran : ∀ command ∈ ctx.commands,
    (⟨.benchmark command (ctx.commandTimeoutMinutes * minute), .ok ()⟩ : Sigma Answer) ∈ h
  collected : (⟨.collectResults, .ok ()⟩ : Sigma Answer) ∈ h
  found : ctx.setupPts = true → (⟨.listResults, .ok true⟩ : Sigma Answer) ∈ h

/-- Everything thrown counts as an error where the code tests it. -/
structure Truthy (ctx : WorkContext) (h : Past) : Prop where
  answers : ∀ q e, (⟨q, .error e⟩ : Sigma Answer) ∈ h → e.truthy = true
  steps : ∀ e, ctx.setupSteps = .error e → e.truthy = true

lemma Truthy.prefix {h h' : Past} (truthy : Truthy ctx (h ++ h')) : Truthy ctx h :=
  ⟨fun q e he => truthy.answers q e (List.mem_append_left _ he), truthy.steps⟩

/-! ### The stages -/

/-- Only stages so far, and none of them failed. -/
structure Going (runtime : WorkRuntime) (ctx : WorkContext) (h : Past) : Prop where
  stages : ∀ entry ∈ h, isStage entry.1 = true
  clean : h.findSome? (stageError runtime ctx) = none

/-- Only stages so far, and `e` is the first failure. -/
structure Failed (runtime : WorkRuntime) (ctx : WorkContext) (e : Thrown) (h : Past) : Prop where
  stages : ∀ entry ∈ h, isStage entry.1 = true
  first : h.findSome? (stageError runtime ctx) = some e

lemma Going.replied {h : Past} (going : Going runtime ctx h) (q : Ask) (reply : Reply q)
    (isStage_ : isStage q = true) (fine : stageError runtime ctx ⟨q, .ok reply⟩ = none) :
    Going runtime ctx (h ++ [⟨q, .ok reply⟩]) where
  stages := by
    intro entry he
    rcases List.mem_append.mp he with he | he
    · exact going.stages entry he
    · obtain rfl := List.mem_singleton.mp he
      exact isStage_
  clean := by simp [List.findSome?_append, going.clean, fine]

lemma Going.failed {h : Past} (going : Going runtime ctx h) (q : Ask) (answer : Answer q)
    {e : Thrown} (isStage_ : isStage q = true) (fails : stageError runtime ctx ⟨q, answer⟩ = some e) :
    Failed runtime ctx e (h ++ [⟨q, answer⟩]) where
  stages := by
    intro entry he
    rcases List.mem_append.mp he with he | he
    · exact going.stages entry he
    · obtain rfl := List.mem_singleton.mp he
      exact isStage_
  first := by simp [List.findSome?_append, going.clean, fails]

lemma Failed.more {h : Past} {e : Thrown} (failed : Failed runtime ctx e h) {q : Ask}
    (answer : Answer q) (isStage_ : isStage q = true) :
    Failed runtime ctx e (h ++ [⟨q, answer⟩]) where
  stages := by
    intro entry he
    rcases List.mem_append.mp he with he | he
    · exact failed.stages entry he
    · obtain rfl := List.mem_singleton.mp he
      exact isStage_
  first := by simp [List.findSome?_append, failed.first]

abbrev Ensures {α : Type} (post : Past → Except Thrown α → Prop) (x : Work α) (h : Past) : Prop :=
  Holds (fun _ _ => True) post x h

lemma ensures_attempted {α : Type} {q : Ask} {f : Except Thrown (Reply q) → Work α} {h : Past}
    {post : Past → Except Thrown α → Prop}
    (next : ∀ answer, Ensures post (f answer) (h ++ [⟨q, answer⟩])) :
    Ensures post (attempted q >>= f) h := by
  rw [Ensures, holds_bind]
  exact ⟨trivial, next⟩

/-- A value with nothing failed, or the first failure thrown. -/
def Proceeds (runtime : WorkRuntime) (ctx : WorkContext) {α : Type} (P : Past → α → Prop) (h : Past) :
    Except Thrown α → Prop
  | .ok a => Going runtime ctx h ∧ P h a
  | .error e => Failed runtime ctx e h

section
variable {α β : Type} {P : Past → α → Prop} {P' : Past → β → Prop} {h : Past}

lemma ensures_bind {x : Work α} {f : α → Work β} (first : Ensures (Proceeds runtime ctx P) x h)
    (next : ∀ later a, h <+: later → Going runtime ctx later → P later a →
      Ensures (Proceeds runtime ctx P') (f a) later) :
    Ensures (Proceeds runtime ctx P') (x >>= f) h := by
  refine Holds.bind first ?_ ?_
  · exact fun later e _ failed => failed
  · exact fun later a extends_ proceeds => next later a extends_ proceeds.1 proceeds.2

/-- A stage whose every error fails the suite. -/
lemma ensures_stage {q : Ask} {P : Past → Reply q → Prop} (going : Going runtime ctx h)
    (isStage_ : isStage q = true)
    (fails : ∀ e, stageError runtime ctx ⟨q, .error e⟩ = some e)
    (ok : ∀ reply, Proceeds runtime ctx P (h ++ [⟨q, .ok reply⟩]) (.ok reply)) :
    Ensures (Proceeds runtime ctx P) (stage q) h := by
  rw [stage, Ensures, holds_question]
  refine ⟨trivial, fun answer => ?_⟩
  rw [holds_computed]
  cases answer with
  | ok reply => exact ok reply
  | error e => exact going.failed q _ isStage_ (fails e)

end

/-- Nothing was skipped. -/
def Unskipped {α : Type} (h : Past) (_ : α) : Prop := skippedIn h = false

lemma unskipped_snoc {h : Past} (unskipped : skippedIn h = false) {q : Ask} (answer : Answer q)
    (other : isSkip q = false) : skippedIn (h ++ [⟨q, answer⟩]) = false := by
  rw [skippedIn] at unskipped ⊢
  rw [List.any_append, unskipped]
  simp [other]

/-- A plain stage: its errors fail the suite, its values do not. -/
lemma ensures_plain {q : Ask} {h : Past} (going : Going runtime ctx h)
    (unskipped : skippedIn h = false) (isStage_ : isStage q = true) (other : isSkip q = false)
    (fails : ∀ e, stageError runtime ctx ⟨q, .error e⟩ = some e)
    (fine : ∀ reply, stageError runtime ctx ⟨q, .ok reply⟩ = none) :
    Ensures (Proceeds runtime ctx Unskipped) (stage q) h :=
  ensures_stage going isStage_ fails
    (fun reply => ⟨going.replied q reply isStage_ (fine reply), unskipped_snoc unskipped _ other⟩)

/-- Nothing was skipped, and an attempt of the step succeeded. -/
def SetUp (step : SetupStep) (h : Past) (_ : Unit) : Prop :=
  skippedIn h = false ∧ ∃ attempt, (⟨.setup step attempt, .ok ()⟩ : Sigma Answer) ∈ h

lemma ensures_runSetup (step : SetupStep) : ∀ (left attempt : Nat) (h : Past),
    attempt + left = step.attempts → Going runtime ctx h → skippedIn h = false →
    Ensures (Proceeds runtime ctx (SetUp step)) (runSetup step left attempt) h := by
  intro left
  induction left with
  | zero =>
    intro attempt h last going unskipped
    have due : step.attempts ≤ attempt := by omega
    refine ensures_stage going rfl (fun e => if_pos due) (fun reply => ⟨going.replied _ _ rfl rfl, ?_⟩)
    exact ⟨unskipped_snoc unskipped _ rfl, attempt, by simp⟩
  | succ left ih =>
    intro attempt h last going unskipped
    rw [runSetup, Ensures, holds_question]
    refine ⟨trivial, fun answer => ?_⟩
    cases answer with
    | ok reply => exact ⟨going.replied _ _ rfl rfl, unskipped_snoc unskipped _ rfl, attempt, by simp⟩
    | error e =>
      -- an attempt that is not the last one fails nothing
      have early : ¬ step.attempts ≤ attempt := by omega
      have still : Going runtime ctx (h ++ [⟨.setup step attempt, .error e⟩]) := by
        constructor
        · intro entry he
          rcases List.mem_append.mp he with he | he
          · exact going.stages entry he
          · obtain rfl := List.mem_singleton.mp he
            rfl
        · simp [List.findSome?_append, going.clean, stageError, early]
      exact ih (attempt + 1) _ (by omega) still (unskipped_snoc unskipped _ rfl)

def AllSetUp (steps : List SetupStep) (h : Past) (_ : Unit) : Prop :=
  skippedIn h = false ∧
    ∀ step ∈ steps, ∃ attempt, (⟨.setup step attempt, .ok ()⟩ : Sigma Answer) ∈ h

lemma ensures_runSetups : ∀ (steps : List SetupStep) (h : Past), Going runtime ctx h →
    skippedIn h = false →
    Ensures (Proceeds runtime ctx (AllSetUp steps)) (runSetups steps) h := by
  intro steps
  induction steps with
  | nil => exact fun h going unskipped =>
      ⟨going, unskipped, fun step hs => absurd hs List.not_mem_nil⟩
  | cons step steps ih =>
    intro h going unskipped
    rw [runSetups]
    refine ensures_bind (ensures_runSetup step _ _ h ?_ going unskipped) ?_
    · rw [SetupStep.attempts, Nat.add_comm]
    intro later _ _ going ⟨unskipped, attempt, done⟩
    refine (ih later going unskipped).mono ?_
    intro last result extends_ proceeds
    cases result with
    | error e => exact proceeds
    | ok reply =>
      refine ⟨proceeds.1, proceeds.2.1, fun other ho => ?_⟩
      rcases List.mem_cons.mp ho with rfl | ho
      · exact ⟨attempt, extends_.subset done⟩
      · exact proceeds.2.2 other ho

def AllRan (ctx : WorkContext) (commands : List String) (h : Past) (_ : Unit) : Prop :=
  ∀ command ∈ commands,
    (⟨.benchmark command (ctx.commandTimeoutMinutes * minute), .ok ()⟩ : Sigma Answer) ∈ h

lemma ensures_runCommands : ∀ (commands : List String) (h : Past), Going runtime ctx h →
    Ensures (Proceeds runtime ctx (AllRan ctx commands)) (runCommands ctx commands) h := by
  intro commands
  induction commands with
  | nil => exact fun h going => ⟨going, fun command hc => absurd hc List.not_mem_nil⟩
  | cons command commands ih =>
    intro h going
    rw [runCommands]
    refine ensures_bind (P := AllRan ctx [command]) ?_ ?_
    · refine ensures_stage going rfl (fun _ => rfl) (fun reply => ⟨going.replied _ _ rfl rfl, ?_⟩)
      intro other ho
      obtain rfl := List.mem_singleton.mp ho
      simp
    intro later _ _ going done
    refine (ih later going).mono ?_
    intro last result extends_ proceeds
    cases result with
    | error e => exact proceeds
    | ok reply =>
      refine ⟨proceeds.1, fun other ho => ?_⟩
      rcases List.mem_cons.mp ho with rfl | ho
      · exact extends_.subset (done other List.mem_cons_self)
      · exact proceeds.2 other ho

/-! ### The end of the stages -/

/-- The failure a `try` block ends with. -/
def outcomeFailure : Except Thrown Thrown → Option Thrown
  | .error e => some e
  | .ok .undefined => none
  | .ok e => some e

/-- The `try` block asked stages only, and ended with the first failure among them, skipped
or completed. -/
structure Ends (runtime : WorkRuntime) (ctx : WorkContext) (h : Past)
    (result : Except Thrown Thrown) : Prop where
  stages : ∀ entry ∈ h, isStage entry.1 = true
  failure : Truthy ctx h → firstFailure runtime ctx h = outcomeFailure result
  through : Truthy ctx h → result = .ok .undefined → skippedIn h = true ∨ Completed ctx h

lemma firstFailure_of_first {h : Past} {id : String} (sandbox : ctx.sandboxId = some id)
    {e : Thrown} (first : h.findSome? (stageError runtime ctx) = some e) :
    firstFailure runtime ctx h = some e := by
  simp [firstFailure, sandbox, first]

lemma Failed.ends {h : Past} {e : Thrown} (failed : Failed runtime ctx e h) {id : String}
    (sandbox : ctx.sandboxId = some id) : Ends runtime ctx h (.error e) :=
  ⟨failed.stages, fun _ => firstFailure_of_first sandbox failed.first, nofun⟩

lemma Failed.ends_ok {h : Past} {e : Thrown} (failed : Failed runtime ctx e h) {id : String}
    (sandbox : ctx.sandboxId = some id) (truthy : e.truthy = true) : Ends runtime ctx h (.ok e) := by
  cases e with
  | error described cause =>
    exact ⟨failed.stages, fun _ => firstFailure_of_first sandbox failed.first, nofun⟩
  | undefined => cases truthy
  | falsy described => cases truthy

/-- A failed suite has a truthy error, when everything thrown is. -/
lemma stageError_truthy {entry : Sigma Answer} {e : Thrown}
    (fails : stageError runtime ctx entry = some e)
    (truthy : ∀ d, entry.2 = .error d → d.truthy = true) : e.truthy = true := by
  unfold stageError at fails
  split at fails
  · split at fails
    · cases fails
      exact truthy _ rfl
    · cases fails
  · rename_i stdout
    split at fails
    · cases fails
    · rename_i d parsed
      cases fails
      unfold manifestFingerprint at parsed
      split at parsed
      · cases parsed
        rfl
      · split at parsed
        · cases parsed
        · cases parsed
          rfl
      · cases parsed
        rfl
  · split at fails
    · cases fails
    · cases fails
      rfl
  · split at fails
    · cases fails
      exact truthy _ rfl
    · cases fails
  · cases fails

lemma Failed.truthy {h : Past} {e : Thrown} (failed : Failed runtime ctx e h)
    (truthy : Truthy ctx h) : e.truthy = true := by
  obtain ⟨entry, he, fails⟩ := List.exists_of_findSome?_eq_some failed.first
  refine stageError_truthy fails fun d hd => truthy.answers entry.1 d ?_
  rw [← hd]
  exact he

lemma Going.ends {h : Past} (going : Going runtime ctx h) {id : String}
    (sandbox : ctx.sandboxId = some id) (through : skippedIn h = true ∨ Completed ctx h) :
    Ends runtime ctx h (.ok .undefined) := by
  refine ⟨going.stages, fun _ => ?_, fun _ _ => through⟩
  simp only [firstFailure, sandbox, going.clean, outcomeFailure]
  rcases through with skipped | completed
  · cases ctx.setupSteps with
    | ok steps => rfl
    | error e => simp [skipped]
  · obtain ⟨steps, ready, _⟩ := completed.setUp
    simp [ready]

lemma ends_bind {α : Type} {P : Past → α → Prop} {x : Work α} {f : α → Work Thrown} {h : Past}
    {id : String} (sandbox : ctx.sandboxId = some id) (first : Ensures (Proceeds runtime ctx P) x h)
    (next : ∀ later a, h <+: later → Going runtime ctx later → P later a →
      Ensures (Ends runtime ctx) (f a) later) : Ensures (Ends runtime ctx) (x >>= f) h := by
  refine Holds.bind first ?_ ?_
  · exact fun later e _ failed => Failed.ends failed sandbox
  · exact fun later a extends_ proceeds => next later a extends_ proceeds.1 proceeds.2

/-- After a falsy error nothing is claimed but what was asked. -/
lemma ends_untruthy {h : Past} (stages : ∀ entry ∈ h, isStage entry.1 = true)
    (untruthy : ¬ Truthy ctx h) (e : Thrown) :
    Ensures (Ends runtime ctx) (checkResults runtime ctx e) h := by
  have vacuous : ∀ entry result, isStage entry.1 = true →
      Ends runtime ctx (h ++ [entry]) result := by
    intro entry result asked
    refine ⟨?_, fun truthy => absurd truthy.prefix untruthy,
      fun truthy => absurd truthy.prefix untruthy⟩
    intro other ho
    rcases List.mem_append.mp ho with ho | ho
    · exact stages other ho
    · obtain rfl := List.mem_singleton.mp ho
      exact asked
  rw [checkResults]
  split
  · rw [Ensures, holds_bind, stage, holds_question]
    refine ⟨trivial, fun answer => ?_⟩
    rw [holds_computed]
    cases answer with
    | error d => exact vacuous _ _ rfl
    | ok found =>
      cases found with
      | true => exact vacuous _ _ rfl
      | false => exact vacuous _ _ rfl
  · exact ⟨stages, fun truthy => absurd truthy untruthy, fun truthy => absurd truthy untruthy⟩

lemma ends_failed {h : Past} {e : Thrown} (failed : Failed runtime ctx e h) {id : String}
    (sandbox : ctx.sandboxId = some id) (truthy : e.truthy = true) :
    Ensures (Ends runtime ctx) (checkResults runtime ctx e) h := by
  rw [checkResults, if_neg (by simp [truthy])]
  exact failed.ends_ok sandbox truthy

/-- The last check of a suite that went through so far. -/
lemma ends_going {h : Past} (going : Going runtime ctx h) {id : String}
    (sandbox : ctx.sandboxId = some id)
    (completed : ∀ later, h <+: later →
      (ctx.setupPts = true → (⟨.listResults, .ok true⟩ : Sigma Answer) ∈ later) →
        Completed ctx later) :
    Ensures (Ends runtime ctx) (checkResults runtime ctx .undefined) h := by
  rw [checkResults]
  split
  · rw [Ensures, holds_bind, stage, holds_question]
    refine ⟨trivial, fun answer => ?_⟩
    rw [holds_computed]
    cases answer with
    | error e => exact (going.failed .listResults (.error e) rfl rfl).ends sandbox
    | ok found =>
      cases found with
      | true =>
        refine (going.replied .listResults true rfl rfl).ends sandbox (Or.inr ?_)
        exact completed _ (List.prefix_append _ _) (fun _ => by simp)
      | false =>
        exact (going.failed .listResults (.ok false) rfl rfl).ends_ok sandbox rfl
  · rename_i unchecked
    refine going.ends sandbox (Or.inr (completed h List.prefix_rfl fun pts => ?_))
    exact absurd ⟨rfl, pts⟩ unchecked

/-- What the benchmark left behind, with the answer of the collection. -/
lemma ends_collected {h : Past} {id : String} (sandbox : ctx.sandboxId = some id)
    {steps : List SetupStep} (ready : ctx.setupSteps = .ok steps)
    (setUp : ∀ step ∈ steps, ∃ attempt, (⟨.setup step attempt, .ok ()⟩ : Sigma Answer) ∈ h)
    {benchmarked : Except Thrown Unit}
    (here : Proceeds runtime ctx (AllRan ctx ctx.commands) h benchmarked)
    (collected : Answer .collectResults) :
    Ensures (Ends runtime ctx)
      (checkResults runtime ctx (withCollected (thrownBy benchmarked) collected))
      (h ++ [⟨.collectResults, collected⟩]) := by
  have either : ∀ {e h}, Failed runtime ctx e h →
      Ensures (Ends runtime ctx) (checkResults runtime ctx e) h := by
    intro e h failed
    by_cases truthy : e.truthy = true
    · exact ends_failed failed sandbox truthy
    · exact ends_untruthy failed.stages (fun all => truthy (failed.truthy all)) e
  cases benchmarked with
  | error e =>
    have failed := Failed.more here (q := .collectResults) collected rfl
    by_cases truthy : e.truthy = true
    · have kept : withCollected e collected = e := if_pos truthy
      rw [thrownBy, kept]
      exact ends_failed failed sandbox truthy
    · exact ends_untruthy failed.stages (fun all => truthy (failed.truthy all)) _
  | ok done =>
    cases collected with
    | error e => exact either (here.1.failed .collectResults (.error e) rfl rfl)
    | ok reply =>
      refine ends_going (here.1.replied .collectResults reply rfl rfl) sandbox ?_
      intro later extends_ found
      have kept : h ⊆ later := fun _ he => extends_.subset (List.mem_append_left _ he)
      exact {
        setUp := ⟨steps, ready, fun step hs => (setUp step hs).imp fun _ he => kept he⟩
        ran := fun command hc => kept (here.2 command hc)
        collected := extends_.subset (by simp)
        found := found }

lemma ends_measure {h : Past} (going : Going runtime ctx h) (unskipped : skippedIn h = false)
    {id : String} (sandbox : ctx.sandboxId = some id) :
    Ensures (Ends runtime ctx) (measure runtime ctx) h := by
  rw [measure]
  cases ready : ctx.setupSteps with
  | error e =>
    refine ⟨going.stages, fun _ => ?_, nofun⟩
    simp [firstFailure, sandbox, going.clean, ready, unskipped, outcomeFailure]
  | ok steps =>
    rw [Ensures, holds_bind, holds_computed]
    refine ends_bind sandbox (ensures_runSetups steps h going unskipped) ?_
    intro later _ _ going ⟨unskipped, setUp⟩
    refine ends_bind sandbox
      (ensures_plain going unskipped rfl rfl (fun _ => rfl) (fun _ => rfl)) ?_
    intro observed _ extends_ going unskipped
    rw [Ensures, holds_bind, holds_captured]
    refine (ensures_runCommands ctx.commands observed going).mono ?_
    intro last benchmarked extends_' here
    refine ensures_attempted (fun collected => ends_collected sandbox ready ?_ here collected)
    intro step hs
    exact (setUp step hs).imp fun _ he => extends_'.subset (extends_.subset he)

lemma ends_diskGate {h : Past} (going : Going runtime ctx h) (unskipped : skippedIn h = false) :
    Ensures (Proceeds runtime ctx (fun h skipped => skipped = skippedIn h)) (diskGate runtime ctx) h := by
  have same : ∀ later, Going runtime ctx later → skippedIn later = false →
      Ensures (Proceeds runtime ctx (fun h skipped => skipped = skippedIn h))
        (pure false : Work Bool) later :=
    fun later going unskipped => ⟨going, unskipped.symm⟩
  rw [diskGate]
  cases ctx.minDiskGb with
  | none => exact same h going unskipped
  | some required =>
    by_cases ungated : required = 0
    · simp only [if_pos ungated]
      exact same h going unskipped
    · simp only [if_neg ungated]
      refine ensures_bind
        (ensures_plain going unskipped rfl rfl (fun _ => rfl) (fun _ => rfl)) ?_
      intro later stdout _ going unskipped
      split
      · refine ensures_bind (P := fun h _ => skippedIn h = true) ?_ ?_
        · refine ensures_stage going rfl (fun _ => rfl) (fun reply => ⟨going.replied _ _ rfl rfl, ?_⟩)
          simp [skippedIn, isSkip]
        · exact fun last _ _ going skipped => ⟨going, skipped.symm⟩
      · exact same later going unskipped

section
variable {h : Past} (going : Going runtime ctx h) (unskipped : skippedIn h = false)

include going unskipped

lemma ensures_evidence (id : String) (provenance : ArtifactProvenance) :
    Ensures (Proceeds runtime ctx Unskipped)
      (stage (.writeProviderArtifactEvidence id provenance)) h :=
  ensures_plain going unskipped rfl rfl (fun _ => rfl) (fun _ => rfl)

lemma ensures_writeReported (id : String) :
    Ensures (Proceeds runtime ctx Unskipped) (writeReported ctx id) h := by
  rw [writeReported]
  cases ctx.reportedArtifact with
  | none => exact ⟨going, unskipped⟩
  | some reported => exact ensures_evidence going unskipped id _

lemma ensures_writeFingerprint (id : String) :
    Ensures (Proceeds runtime ctx Unskipped) (writeFingerprint runtime ctx id) h := by
  rw [writeFingerprint]
  cases runtime.expectedToolchainFingerprint ctx.cell.providerId ctx.artifact with
  | none => exact ⟨going, unskipped⟩
  | some expected =>
    show Holds _ _ (stage .captureArtifactFingerprint >>= _) h
    rw [holds_bind, stage, holds_question]
    refine ⟨trivial, fun answer => ?_⟩
    rw [holds_computed]
    cases answer with
    | error e => exact going.failed .captureArtifactFingerprint (.error e) rfl rfl
    | ok stdout =>
      show Holds _ _ (computed (manifestFingerprint runtime stdout) >>= _) _
      rw [holds_bind, holds_computed]
      cases parsed : manifestFingerprint runtime stdout with
      | error e =>
        refine going.failed .captureArtifactFingerprint (.ok stdout) rfl ?_
        simp [stageError, parsed]
      | ok fingerprint =>
        refine ensures_evidence (going.replied .captureArtifactFingerprint stdout rfl ?_)
          (unskipped_snoc unskipped _ rfl) id _
        simp [stageError, parsed]

end

/-- Whatever its stages answer, the `try` block ends with the first failure among them. -/
theorem ends_runStages : Ensures (Ends runtime ctx) (runStages runtime ctx) [] := by
  rw [runStages]
  cases sandbox : ctx.sandboxId with
  | none =>
    refine ⟨fun entry he => absurd he List.not_mem_nil, fun _ => ?_, nofun⟩
    simp [firstFailure, sandbox, outcomeFailure]
  | some id =>
    have start : Going runtime ctx [] := ⟨fun entry he => absurd he List.not_mem_nil, rfl⟩
    refine ends_bind sandbox (ensures_evidence start rfl id _) ?_
    intro h _ _ going unskipped
    refine ends_bind sandbox
      (ensures_plain going unskipped rfl rfl (fun _ => rfl) (fun _ => rfl)) ?_
    intro h _ _ going unskipped
    refine ends_bind sandbox
      (ensures_plain going unskipped rfl rfl (fun _ => rfl) (fun _ => rfl)) ?_
    intro h _ _ going unskipped
    refine ends_bind sandbox (ensures_writeReported going unskipped id) ?_
    intro h _ _ going unskipped
    refine ends_bind sandbox (ensures_writeFingerprint going unskipped id) ?_
    intro h _ _ going unskipped
    refine ends_bind sandbox (ends_diskGate going unskipped) ?_
    intro h skipped _ going same
    cases skipped with
    | true => exact going.ends sandbox (Or.inl same.symm)
    | false => exact ends_measure going same.symm sandbox

end SuiteWork
