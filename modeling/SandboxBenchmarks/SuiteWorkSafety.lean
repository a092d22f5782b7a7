import SandboxBenchmarks.SuiteWorkStages

/-!
# How a suite ends

Whatever the stages answer, the sandbox is torn down once, and the run ends in one of
three ways: with the error of persisting evidence, with the suite's own failure after
its marker, or resolved. The first of them is checked first.
-/

namespace SuiteWork

open Interaction JsonText RunModel

variable {runtime : WorkRuntime} {ctx : WorkContext}

/-! ### The exit -/

def cleanupError : Sigma Answer → Option String
  | ⟨.destroy, .error e⟩ => some e.described
  | ⟨.confirmCleanup, .error e⟩ => some e.described
  | _ => none

/-- Why the cleanup is unresolved, if it is. -/
def unresolved (h : Past) : Option String := h.findSome? cleanupError

def teardownOf : Option String → SandboxTeardown
  | none => ⟨true, none⟩
  | some diagnostic => ⟨false, some diagnostic⟩

/-- The sandbox was destroyed once, and removal confirmed where it is to be. -/
structure TornDown (ctx : WorkContext) (down : Past) (teardown : SandboxTeardown) : Prop where
  once : down.countP (fun entry => entry.1 = .destroy) = 1
  asked : ∀ entry ∈ down, entry.1 = .destroy ∨ entry.1 = .confirmCleanup
  teardown : teardown = teardownOf (unresolved down)
  confirmed : unresolved down = none → (⟨.destroy, .ok ()⟩ : Sigma Answer) ∈ down ∧
    (ctx.confirmCleanup = true → (⟨.confirmCleanup, .ok ()⟩ : Sigma Answer) ∈ down)

lemma ensures_tearDown (h : Past) : Ensures (fun later result => ∃ down teardown confirmedAbsent,
    later = h ++ down ∧ result = .ok (teardown, confirmedAbsent) ∧ TornDown ctx down teardown)
      (tearDown ctx) h := by
  refine ensures_attempted (fun destroyed => ?_)
  cases destroyed with
  | error e =>
    refine ⟨_, _, _, rfl, rfl, ⟨rfl, ?_, rfl, nofun⟩⟩
    intro entry he
    obtain rfl := List.mem_singleton.mp he
    exact Or.inl rfl
  | ok reply =>
    show Ensures _ (if ctx.confirmCleanup = true then _ else _) _
    by_cases confirms : ctx.confirmCleanup = true
    · rw [if_pos confirms]
      refine ensures_attempted (fun confirmed => ?_)
      have asked : ∀ entry ∈ [(⟨.destroy, .ok reply⟩ : Sigma Answer), ⟨.confirmCleanup, confirmed⟩],
          entry.1 = .destroy ∨ entry.1 = .confirmCleanup := by
        intro entry he
        rcases List.mem_cons.mp he with rfl | he
        · exact Or.inl rfl
        · obtain rfl := List.mem_singleton.mp he
          exact Or.inr rfl
      cases confirmed with
      | error e =>
        exact ⟨_, _, _, List.append_assoc .., rfl, ⟨rfl, asked, rfl, nofun⟩⟩
      | ok reply' =>
        exact ⟨_, _, _, List.append_assoc .., rfl, ⟨rfl, asked, rfl, fun _ =>
          ⟨List.mem_cons_self, fun _ => List.mem_cons_of_mem _ List.mem_cons_self⟩⟩⟩
    · rw [if_neg confirms]
      refine ⟨[⟨.destroy, .ok reply⟩], ⟨true, none⟩, false, rfl, rfl, ⟨rfl, ?_, rfl, ?_⟩⟩
      · intro entry he
        obtain rfl := List.mem_singleton.mp he
        exact Or.inl rfl
      · exact fun _ => ⟨List.mem_cons_self, fun due => absurd due confirms⟩

/-- The cost record was captured and written; its error counts only without a suite error. -/
structure Persisted (ctx : WorkContext) (suiteError before : Thrown) (cost : Past) (after : Thrown) :
    Prop where
  asked : ∀ entry ∈ cost, (∃ id teardown, entry.1 = .captureAfterTeardown id teardown) ∨
    ∃ record, entry.1 = .writeProviderCostEvidence record
  kept : suiteError ≠ .undefined → after = before
  raised : after = before ∨ ∃ record e,
    (⟨.writeProviderCostEvidence record, .error e⟩ : Sigma Answer) ∈ cost ∧ after = e
  written : suiteError = .undefined → Truthy ctx cost → after = .undefined →
    (∀ record answer, (⟨.writeProviderCostEvidence record, answer⟩ : Sigma Answer) ∈ cost →
      answer = .ok ()) ∧
    (ctx.costEvidence = true → ∃ record,
      (⟨.writeProviderCostEvidence record, .ok ()⟩ : Sigma Answer) ∈ cost)

lemma ensures_captureCost (teardown : SandboxTeardown) (h : Past) :
    Ensures (fun later result => ∃ capture record, later = h ++ capture ∧ result = .ok record ∧
      ∀ entry ∈ capture, ∃ id teardown, entry.1 = .captureAfterTeardown id teardown)
      (captureCost runtime ctx teardown) h := by
  rw [captureCost]
  cases ctx.sandboxId with
  | none => exact ⟨[], _, (List.append_nil h).symm, rfl, fun entry he => absurd he List.not_mem_nil⟩
  | some id =>
    refine ensures_attempted (fun returned => ?_)
    have asked : ∀ entry ∈ [(⟨.captureAfterTeardown id teardown, returned⟩ : Sigma Answer)],
        ∃ id teardown, entry.1 = .captureAfterTeardown id teardown := by
      intro entry he
      obtain rfl := List.mem_singleton.mp he
      exact ⟨id, teardown, rfl⟩
    cases returned with
    | error e => exact ⟨_, _, rfl, rfl, asked⟩
    | ok document =>
      cases document with
      | none => exact ⟨_, _, rfl, rfl, asked⟩
      | some document => exact ⟨_, _, rfl, rfl, asked⟩

lemma ensures_persistCost (teardown : SandboxTeardown) (suiteError before : Thrown) (h : Past) :
    Ensures (fun later result => ∃ cost after, later = h ++ cost ∧ result = .ok after ∧
      Persisted ctx suiteError before cost after)
      (persistCost runtime ctx teardown suiteError before) h := by
  rw [persistCost]
  by_cases capable : ctx.costEvidence = true
  · rw [if_pos capable]
    refine Holds.bind (ensures_captureCost teardown h) ?_ ?_
    · rintro later e _ ⟨_, _, _, bad, _⟩
      cases bad
    · rintro later record _ ⟨capture, _, rfl, same, captured_⟩
      cases same
      refine ensures_attempted (fun written => ?_)
      have asked : ∀ entry ∈ capture ++ [(⟨.writeProviderCostEvidence record, written⟩ : Sigma Answer)],
          (∃ id teardown, entry.1 = .captureAfterTeardown id teardown) ∨
            ∃ record, entry.1 = .writeProviderCostEvidence record := by
        intro entry he
        rcases List.mem_append.mp he with he | he
        · exact Or.inl (captured_ entry he)
        · obtain rfl := List.mem_singleton.mp he
          exact Or.inr ⟨record, rfl⟩
      have last : (⟨.writeProviderCostEvidence record, written⟩ : Sigma Answer) ∈
          capture ++ [(⟨.writeProviderCostEvidence record, written⟩ : Sigma Answer)] := by simp
      have only : ∀ other answer, (⟨.writeProviderCostEvidence other, answer⟩ : Sigma Answer) ∈
          capture ++ [(⟨.writeProviderCostEvidence record, written⟩ : Sigma Answer)] →
            HEq answer written := by
        intro other answer he
        rcases List.mem_append.mp he with he | he
        · obtain ⟨_, _, bad⟩ := captured_ _ he
          cases bad
        · cases List.mem_singleton.mp he
          rfl
      cases written with
      | ok reply =>
        refine ⟨_, before, List.append_assoc .., rfl, ⟨asked, fun _ => rfl, Or.inl rfl, ?_⟩⟩
        intro _ _ _
        exact ⟨fun other answer he => eq_of_heq (only other answer he), fun _ => ⟨record, last⟩⟩
      | error e =>
        show Ensures _ (if suiteError = .undefined then pure e else pure before) _
        by_cases silent : suiteError = .undefined
        · rw [if_pos silent]
          refine ⟨_, e, List.append_assoc .., rfl, ⟨asked, fun loud => absurd silent loud,
            Or.inr ⟨record, e, last, rfl⟩, ?_⟩⟩
          intro _ truthy unraised
          have loud := truthy.answers _ e last
          rw [unraised] at loud
          cases loud
        · rw [if_neg silent]
          exact ⟨_, before, List.append_assoc .., rfl, ⟨asked, fun _ => rfl, Or.inl rfl,
            fun unraised => absurd unraised silent⟩⟩
  · rw [if_neg capable]
    refine ⟨[], before, (List.append_nil h).symm, rfl,
      ⟨fun entry he => absurd he List.not_mem_nil, fun _ => rfl, Or.inl rfl, ?_⟩⟩
    exact fun _ _ _ => ⟨fun record answer he => absurd he List.not_mem_nil,
      fun due => absurd due capable⟩

/-- What is thrown at the exit, and the marker written before. -/
inductive Exited (suiteError : Thrown) : Thrown → Past → Except Thrown Unit → Prop
  | evidence (e : Thrown) (raised : e ≠ .undefined) : Exited suiteError e [] (.error e)
  | resolved (silent : suiteError.truthy = false) : Exited suiteError .undefined [] (.ok ())
  | failed (loud : suiteError.truthy = true) : Exited suiteError .undefined
      [⟨.writeGapMarker .failed suiteError.described suiteError.gapCause, .ok ()⟩] (.error suiteError)
  | unmarked (loud : suiteError.truthy = true) (e : Thrown) : Exited suiteError .undefined
      [⟨.writeGapMarker .failed suiteError.described suiteError.gapCause, .error e⟩] (.error e)

lemma ensures_exit (suiteError evidenceError : Thrown) (h : Past) :
    Ensures (fun later result => ∃ marker, later = h ++ marker ∧
      Exited suiteError evidenceError marker result) (exit suiteError evidenceError) h := by
  rw [exit]
  by_cases raised : evidenceError ≠ .undefined
  · rw [if_pos raised]
    exact ⟨[], (List.append_nil h).symm, .evidence evidenceError raised⟩
  · rw [if_neg raised]
    obtain rfl := not_not.mp raised
    by_cases loud : suiteError.truthy = true
    · rw [if_pos loud]
      show Ensures _ (stage _ >>= _) h
      rw [Ensures, holds_bind, stage, holds_question]
      refine ⟨trivial, fun written => ?_⟩
      rw [holds_computed]
      cases written with
      | ok reply => exact ⟨_, rfl, .failed loud⟩
      | error e => exact ⟨_, rfl, .unmarked loud e⟩
    · rw [if_neg loud]
      exact ⟨[], (List.append_nil h).symm, .resolved (by simpa using loud)⟩

/-! ### The run -/

/-- The first error of persisting the two receipts. -/
def receiptError (execution cleanup : Except Thrown Unit) : Thrown :=
  match thrownBy execution with
  | .undefined => thrownBy cleanup
  | first => first

/-- The two receipts around the teardown, then the cost record and the marker. -/
def exitOf (ctx : WorkContext) (suiteError : Thrown) (execution cleanup : Except Thrown Unit)
    (teardown : SandboxTeardown) (confirmedAbsent : Bool) (down cost marker : Past) : Past :=
  ⟨.writeExecution ctx.sandboxId (primaryFailure suiteError), execution⟩ :: (down ++
    ⟨.writeCleanup teardown confirmedAbsent, cleanup⟩ :: (cost ++ marker))

/-- What a run asks after its stages, and how it ends. -/
inductive Finishes (runtime : WorkRuntime) (ctx : WorkContext) (suiteError : Thrown) :
    Past → Except Thrown Unit → Prop
  | parts (execution cleanup : Except Thrown Unit) (confirmedAbsent : Bool) {down cost marker : Past} {teardown : SandboxTeardown}
    {evidenceError : Thrown} {result : Except Thrown Unit} (torn : TornDown ctx down teardown)
    (persisted : Persisted ctx (annotated runtime teardown suiteError)
      (receiptError execution cleanup) cost evidenceError)
    (exited : Exited (annotated runtime teardown suiteError) evidenceError marker result) :
    Finishes runtime ctx suiteError
      (exitOf ctx suiteError execution cleanup teardown confirmedAbsent down cost marker) result

lemma ensures_finish (suiteError : Thrown) (h : Past) :
    Ensures (fun later result => ∃ tail, later = h ++ tail ∧
      Finishes runtime ctx suiteError tail result) (finish runtime ctx suiteError) h := by
  refine ensures_attempted (fun execution => ?_)
  refine Holds.bind (ensures_tearDown _) ?_ ?_
  · rintro later e _ ⟨_, _, _, _, bad, _⟩
    cases bad
  rintro later _ _ ⟨down, teardown, confirmedAbsent, rfl, same, torn⟩
  cases same
  refine ensures_attempted (fun cleanup => ?_)
  refine Holds.bind (ensures_persistCost teardown _ (receiptError execution cleanup) _) ?_ ?_
  · rintro later e _ ⟨_, _, _, bad, _⟩
    cases bad
  rintro later _ _ ⟨cost, evidenceError, rfl, same, persisted⟩
  cases same
  refine (ensures_exit _ _ _).mono ?_
  rintro later result _ ⟨marker, rfl, exited⟩
  refine ⟨_, ?_, Finishes.parts execution cleanup confirmedAbsent torn persisted exited⟩
  simp [exitOf]

/-- Stages, then the exit with the error they ended with. -/
inductive Runs (runtime : WorkRuntime) (ctx : WorkContext) : Past → Except Thrown Unit → Prop
  | run {before tail : Past} {outcome : Except Thrown Thrown} {result : Except Thrown Unit}
    (ends : Ends runtime ctx before outcome)
    (finishes : Finishes runtime ctx (caught outcome) tail result) :
    Runs runtime ctx (before ++ tail) result

theorem ensures_runSuiteWork : Ensures (Runs runtime ctx) (runSuiteWork runtime ctx) [] := by
  rw [runSuiteWork, Ensures, holds_bind, holds_captured]
  refine ends_runStages.mono ?_
  intro before outcome _ ends
  refine (ensures_finish _ before).mono ?_
  rintro later result _ ⟨tail, rfl, finishes⟩
  exact .run ends finishes

/-! ### What the whole history says -/

lemma stageError_exit {entry : Sigma Answer} (exits : isStage entry.1 = false) :
    stageError runtime ctx entry = none := by
  unfold stageError
  split
  · cases exits
  · cases exits
  · cases exits
  · exact if_neg (Bool.eq_false_iff.mp exits)
  · rfl

lemma isStage_of_isSkip {q : Ask} (skip : isSkip q = true) : isStage q = true := by
  unfold isSkip at skip
  split at skip
  · rfl
  · cases skip

lemma cleanupError_stage {entry : Sigma Answer} (asked : isStage entry.1 = true) :
    cleanupError entry = none := by
  unfold cleanupError
  split
  · cases asked
  · cases asked
  · rfl

lemma skippedIn_append {before tail : Past}
    (exits : ∀ entry ∈ tail, isStage entry.1 = false) :
    skippedIn (before ++ tail) = skippedIn before := by
  have unskipped : tail.any (fun entry => isSkip entry.1) = false := by
    rw [List.any_eq_false]
    intro entry he skip
    exact Bool.eq_false_iff.mp (exits entry he) (isStage_of_isSkip skip)
  rw [skippedIn, skippedIn, List.any_append, unskipped, Bool.or_false]

lemma firstFailure_append {before tail : Past}
    (exits : ∀ entry ∈ tail, isStage entry.1 = false) :
    firstFailure runtime ctx (before ++ tail) = firstFailure runtime ctx before := by
  have clean : tail.findSome? (stageError runtime ctx) = none :=
    List.findSome?_eq_none_iff.mpr (fun entry he => stageError_exit (exits entry he))
  rw [firstFailure, firstFailure, List.findSome?_append, clean, Option.or_none,
    skippedIn_append exits]

lemma unresolved_append {before tail : Past}
    (stages : ∀ entry ∈ before, isStage entry.1 = true) :
    unresolved (before ++ tail) = unresolved tail := by
  have settled : before.findSome? cleanupError = none :=
    List.findSome?_eq_none_iff.mpr (fun entry he => cleanupError_stage (stages entry he))
  rw [unresolved, List.findSome?_append, settled, Option.none_or, unresolved]

lemma Completed.mono {h h' : Past} (completed : Completed ctx h) (kept : h ⊆ h') :
    Completed ctx h' where
  setUp := by
    obtain ⟨steps, ready, done⟩ := completed.setUp
    exact ⟨steps, ready, fun step hs => (done step hs).imp fun _ he => kept he⟩
  ran command hc := kept (completed.ran command hc)
  collected := kept completed.collected
  found pts := kept (completed.found pts)

/-- The suite's failure, noting an unresolved cleanup. -/
def noted (runtime : WorkRuntime) (h : Past) (e : Thrown) : Thrown :=
  match unresolved h with
  | none => e
  | some diagnostic =>
    let cleanupFailure := s!"Cleanup unresolved: {diagnostic}"
    failure runtime s!"{e.described}; {cleanupFailure}"

/-- A receipt or evidence to be kept of the run. -/
def isReceipt : Ask → Bool
  | .writeProviderArtifactEvidence _ _ => true
  | .writeExecution _ _ => true
  | .writeCleanup _ _ => true
  | .writeProviderCostEvidence _ => true
  | _ => false

/-- The two receipts of the exit. -/
def isExitReceipt : Ask → Bool
  | .writeExecution _ _ => true
  | .writeCleanup _ _ => true
  | _ => false

/-- Nothing of the kind failed. -/
def Kept (kind : Ask → Bool) (h : Past) : Prop :=
  ∀ entry ∈ h, kind entry.1 = true → ∀ e, entry.2 ≠ .error e

/-- The sandbox is confirmed to be gone, and everything to be kept is. -/
structure Settled (ctx : WorkContext) (h : Past) : Prop where
  destroyed : (⟨.destroy, .ok ()⟩ : Sigma Answer) ∈ h
  confirmed : ctx.confirmCleanup = true → (⟨.confirmCleanup, .ok ()⟩ : Sigma Answer) ∈ h
  persisted : Kept isReceipt h
  execution : ∃ primaryFailure,
    (⟨.writeExecution ctx.sandboxId primaryFailure, .ok ()⟩ : Sigma Answer) ∈ h
  cleanup : ∃ teardown confirmedAbsent,
    (⟨.writeCleanup teardown confirmedAbsent, .ok ()⟩ : Sigma Answer) ∈ h
  cost : ctx.costEvidence = true → ∃ record,
    (⟨.writeProviderCostEvidence record, .ok ()⟩ : Sigma Answer) ∈ h

/-- The suite's failure is thrown after its marker, unless the marker could not be written. -/
def Reported (h : Past) (result : Except Thrown Unit) (e : Thrown) : Prop :=
  let marker := Ask.writeGapMarker .failed e.described e.gapCause
  ((⟨marker, .ok ()⟩ : Sigma Answer) ∈ h ∧ result = .error e) ∨
    ∃ d, (⟨marker, .error d⟩ : Sigma Answer) ∈ h ∧ result = .error d

/-- What a run of a suite is to come to. -/
structure Accounted (runtime : WorkRuntime) (ctx : WorkContext) (h : Past)
    (result : Except Thrown Unit) : Prop where
  once : h.countP (fun entry => entry.1 = .destroy) = 1
  resolves : result = .ok () → firstFailure runtime ctx h = none ∧
    (skippedIn h = true ∨ Completed ctx h) ∧ Settled ctx h
  rejects : ∀ e, firstFailure runtime ctx h = some e → Reported h result (noted runtime h e)

/-! ### The exit in detail -/

lemma receiptError_undefined {execution cleanup : Except Thrown Unit}
    (loud : ∀ e, execution = .error e → e.truthy = true)
    (loud' : ∀ e, cleanup = .error e → e.truthy = true) :
    receiptError execution cleanup = .undefined ↔ execution = .ok () ∧ cleanup = .ok () := by
  cases execution with
  | error e =>
    have raised := loud e rfl
    cases e with
    | error described cause => simp [receiptError, thrownBy]
    | undefined => cases raised
    | falsy described => cases raised
  | ok reply =>
    cases cleanup with
    | error e =>
      have raised := loud' e rfl
      cases e with
      | error described cause => simp [receiptError, thrownBy]
      | undefined => cases raised
      | falsy described => cases raised
    | ok reply' => simp [receiptError, thrownBy]

/-- The questions after the two receipts. -/
structure Aside (q : Ask) : Prop where
  exits : isStage q = false
  destroy : q ≠ .destroy
  confirmCleanup : q ≠ .confirmCleanup
  receipt : isExitReceipt q = false

lemma Aside.cleanupError {entry : Sigma Answer} (aside : Aside entry.1) :
    cleanupError entry = none := by
  unfold SuiteWork.cleanupError
  split
  · exact absurd rfl aside.destroy
  · exact absurd rfl aside.confirmCleanup
  · rfl

section
variable {suiteError evidenceError evidenceError' : Thrown} {execution cleanup : Except Thrown Unit}
  {teardown : SandboxTeardown} {confirmedAbsent : Bool} {down cost marker : Past}
  {result : Except Thrown Unit}

lemma Persisted.aside (persisted : Persisted ctx suiteError evidenceError cost evidenceError') :
    ∀ entry ∈ cost, Aside entry.1 := by
  intro entry he
  rcases persisted.asked entry he with ⟨_, _, asked⟩ | ⟨_, asked⟩
  · rw [asked]
    exact ⟨rfl, nofun, nofun, rfl⟩
  · rw [asked]
    exact ⟨rfl, nofun, nofun, rfl⟩

lemma Exited.aside (exited : Exited suiteError evidenceError marker result) :
    ∀ entry ∈ marker, Aside entry.1 := by
  intro entry he
  cases exited with
  | evidence e raised => cases he
  | resolved silent => cases he
  | failed loud =>
    obtain rfl := List.mem_singleton.mp he
    exact ⟨rfl, nofun, nofun, rfl⟩
  | unmarked loud e =>
    obtain rfl := List.mem_singleton.mp he
    exact ⟨rfl, nofun, nofun, rfl⟩

variable (torn : TornDown ctx down teardown)
  (persisted : Persisted ctx suiteError evidenceError cost evidenceError')
  (exited : Exited suiteError evidenceError' marker result) (recorded : Thrown)

lemma mem_exitOf {entry : Sigma Answer} :
    entry ∈ exitOf ctx recorded execution cleanup teardown confirmedAbsent down cost marker ↔
      entry = ⟨.writeExecution ctx.sandboxId (primaryFailure recorded), execution⟩ ∨
        entry ∈ down ∨ entry = ⟨.writeCleanup teardown confirmedAbsent, cleanup⟩ ∨
        entry ∈ cost ∨ entry ∈ marker := by
  simp only [exitOf, List.mem_cons, List.mem_append]

include torn persisted exited

lemma exitOf_exits : ∀ entry ∈ exitOf ctx recorded execution cleanup teardown confirmedAbsent down
    cost marker, isStage entry.1 = false := by
  intro entry he
  rcases (mem_exitOf recorded).mp he with rfl | he | rfl | he | he
  · rfl
  · rcases torn.asked entry he with asked | asked
    · rw [asked]
      rfl
    · rw [asked]
      rfl
  · rfl
  · exact (persisted.aside entry he).exits
  · exact (exited.aside entry he).exits

lemma exitOf_once : (exitOf ctx recorded execution cleanup teardown confirmedAbsent down cost
    marker).countP (fun entry => entry.1 = .destroy) = 1 := by
  have cost_ : cost.countP (fun entry => entry.1 = .destroy) = 0 :=
    List.countP_eq_zero.mpr (fun entry he => by simpa using (persisted.aside entry he).destroy)
  have marker_ : marker.countP (fun entry => entry.1 = .destroy) = 0 :=
    List.countP_eq_zero.mpr (fun entry he => by simpa using (exited.aside entry he).destroy)
  rw [exitOf, List.countP_cons_of_neg (by simp), List.countP_append, torn.once,
    List.countP_cons_of_neg (by simp), List.countP_append, cost_, marker_]

omit torn in
lemma unresolved_exitOf : unresolved (exitOf ctx recorded execution cleanup teardown confirmedAbsent
    down cost marker) = unresolved down := by
  have cost_ : cost.findSome? cleanupError = none :=
    List.findSome?_eq_none_iff.mpr (fun entry he => (persisted.aside entry he).cleanupError)
  have marker_ : marker.findSome? cleanupError = none :=
    List.findSome?_eq_none_iff.mpr (fun entry he => (exited.aside entry he).cleanupError)
  simp [unresolved, exitOf, List.findSome?_cons, cost_, marker_, cleanupError]

/-- Among the exit's questions the two receipts are those of the exit. -/
lemma kept_exitOf : Kept isExitReceipt (exitOf ctx recorded execution cleanup teardown
    confirmedAbsent down cost marker) ↔ (∀ e, execution ≠ .error e) ∧ ∀ e, cleanup ≠ .error e := by
  constructor
  · intro kept
    exact ⟨kept _ ((mem_exitOf recorded).mpr (Or.inl rfl)) rfl,
      kept _ ((mem_exitOf recorded).mpr (Or.inr (Or.inr (Or.inl rfl)))) rfl⟩
  · rintro ⟨executed, cleaned⟩ entry he receipt
    rcases (mem_exitOf recorded).mp he with rfl | he | rfl | he | he
    · exact executed
    · rcases torn.asked entry he with asked | asked
      · rw [asked] at receipt
        cases receipt
      · rw [asked] at receipt
        cases receipt
    · exact cleaned
    · rw [(persisted.aside entry he).receipt] at receipt
      cases receipt
    · rw [(exited.aside entry he).receipt] at receipt
      cases receipt

end

lemma firstFailure_clean {h : Past} (none_ : firstFailure runtime ctx h = none) :
    h.findSome? (stageError runtime ctx) = none := by
  rw [firstFailure] at none_
  split at none_
  · cases none_
  · split at none_
    · cases none_
    · assumption
    · assumption

lemma firstFailure_truthy {h : Past} {e : Thrown} (first : firstFailure runtime ctx h = some e)
    (truthy : Truthy ctx h) : e.truthy = true := by
  rw [firstFailure] at first
  split at first
  · cases first
    rfl
  · split at first
    · rename_i d failed
      cases first
      obtain ⟨entry, he, fails⟩ := List.exists_of_findSome?_eq_some failed
      refine stageError_truthy fails fun d hd => truthy.answers entry.1 d ?_
      rw [← hd]
      exact he
    · rename_i d unready
      split at first
      · cases first
      · cases first
        exact truthy.steps e unready
    · cases first

/-- What the exit is entered with is the suite's failure, if there is one. -/
lemma Ends.caught {h : Past} {outcome : Except Thrown Thrown} (ends : Ends runtime ctx h outcome)
    (truthy : Truthy ctx h) :
    (firstFailure runtime ctx h = none ∧ outcome = .ok .undefined) ∨
      (firstFailure runtime ctx h = some (SuiteWork.caught outcome) ∧
        (SuiteWork.caught outcome).truthy = true) := by
  have same := ends.failure truthy
  cases outcome with
  | error e => exact Or.inr ⟨same, firstFailure_truthy same truthy⟩
  | ok e =>
    cases e with
    | undefined => exact Or.inl ⟨same, rfl⟩
    | falsy described => exact Or.inr ⟨same, firstFailure_truthy same truthy⟩
    | error described cause => exact Or.inr ⟨same, rfl⟩

/-- A suite's failure at the exit, where an unresolved cleanup is noted. -/
lemma annotated_truthy {h : Past} {e : Thrown} (loud : e.truthy = true) :
    annotated runtime (teardownOf (unresolved h)) e = noted runtime h e := by
  rw [noted]
  cases unresolved h with
  | none => rfl
  | some diagnostic =>
    cases e with
    | error described cause => rfl
    | undefined => cases loud
    | falsy described => cases loud

lemma noted_truthy {h : Past} {e : Thrown} (loud : e.truthy = true) :
    (noted runtime h e).truthy = true := by
  rw [noted]
  cases unresolved h with
  | none => exact loud
  | some diagnostic => rfl

/-- Without a failure of the suite, silence at the exit means a confirmed cleanup. -/
lemma annotated_silent {h : Past}
    (silent : (annotated runtime (teardownOf (unresolved h)) .undefined).truthy = false) :
    unresolved h = none := by
  cases resolved : unresolved h with
  | none => rfl
  | some diagnostic =>
    rw [resolved] at silent
    cases silent

/-- A failure that meets no error of evidence is thrown after its marker. -/
lemma Exited.reported {e : Thrown} {marker : Past} {result : Except Thrown Unit}
    (exited : Exited e .undefined marker result) (loud : e.truthy = true) :
    Reported marker result e := by
  cases exited with
  | evidence e raised => exact absurd rfl raised
  | resolved silent =>
    rw [loud] at silent
    cases silent
  | failed loud => exact Or.inl ⟨List.mem_singleton_self _, rfl⟩
  | unmarked loud d => exact Or.inr ⟨d, List.mem_singleton_self _, rfl⟩

lemma Reported.mono {h h' : Past} {result : Except Thrown Unit} {e : Thrown}
    (reported : Reported h result e) (kept : h ⊆ h') : Reported h' result e :=
  reported.imp (fun ok => ⟨kept ok.1, ok.2⟩) fun ⟨d, failed, thrown⟩ => ⟨d, kept failed, thrown⟩

/-- A stage that kept evidence of an unfailed suite did keep it. -/
lemma kept_of_clean {h : Past} (clean : h.findSome? (stageError runtime ctx) = none)
    {entry : Sigma Answer} (he : entry ∈ h) (asked : isStage entry.1 = true)
    (receipt : isReceipt entry.1 = true) (e : Thrown) : entry.2 ≠ .error e := by
  intro failed
  have fine := List.findSome?_eq_none_iff.mp clean entry he
  obtain ⟨q, answer⟩ := entry
  obtain rfl : answer = .error e := failed
  replace receipt : isReceipt q = true := receipt
  unfold isReceipt at receipt
  split at receipt
  · cases fine
  · cases asked
  · cases asked
  · cases asked
  · cases receipt

lemma Persisted.quiet {suiteError evidenceError : Thrown} {cost : Past}
    (persisted : Persisted ctx suiteError evidenceError cost .undefined)
    (truthy : Truthy ctx cost) : evidenceError = .undefined := by
  rcases persisted.raised with kept | ⟨record, e, failed, raised⟩
  · exact kept.symm
  · have loud := truthy.answers _ e failed
    rw [← raised] at loud
    cases loud

lemma Truthy.sublist {h h' : Past} (truthy : Truthy ctx h) (kept : h' ⊆ h) : Truthy ctx h' :=
  ⟨fun q e he => truthy.answers q e (kept he), truthy.steps⟩

/-- A run without a failure that nothing stopped has settled everything. -/
lemma settled_of_resolved {before down cost : Past} {recorded : Thrown}
    {execution cleanup : Except Thrown Unit} {confirmedAbsent : Bool} {teardown : SandboxTeardown}
    (truthy : Truthy ctx (before ++
      exitOf ctx recorded execution cleanup teardown confirmedAbsent down cost []))
    (stages : ∀ entry ∈ before, isStage entry.1 = true)
    (clean : before.findSome? (stageError runtime ctx) = none)
    (torn : TornDown ctx down teardown) (resolved : unresolved down = none)
    (persisted : Persisted ctx .undefined (receiptError execution cleanup) cost .undefined) :
    Settled ctx (before ++
      exitOf ctx recorded execution cleanup teardown confirmedAbsent down cost []) := by
  have exits : ∀ {entry}, (entry = ⟨.writeExecution ctx.sandboxId (primaryFailure recorded), execution⟩ ∨
      entry ∈ down ∨ entry = ⟨.writeCleanup teardown confirmedAbsent, cleanup⟩ ∨
      entry ∈ cost ∨ entry ∈ []) → entry ∈ before ++
        exitOf ctx recorded execution cleanup teardown confirmedAbsent down cost [] :=
    fun he => List.mem_append_right _ ((mem_exitOf recorded).mpr he)
  have costs : ∀ {entry}, entry ∈ cost → entry ∈ before ++
      exitOf ctx recorded execution cleanup teardown confirmedAbsent down cost [] :=
    fun he => exits (Or.inr (Or.inr (Or.inr (Or.inl he))))
  have truthy_ := truthy.sublist (fun _ he => costs he)
  obtain ⟨rfl, rfl⟩ := (receiptError_undefined
    (by rintro e rfl; exact truthy.answers _ e (exits (Or.inl rfl)))
    (by rintro e rfl; exact truthy.answers _ e (exits (Or.inr (Or.inr (Or.inl rfl)))))).mp
      (persisted.quiet truthy_)
  obtain ⟨written, costed⟩ := persisted.written rfl truthy_ rfl
  obtain ⟨destroyed, confirmed⟩ := torn.confirmed resolved
  exact {
    destroyed := exits (Or.inr (Or.inl destroyed))
    confirmed := fun due => exits (Or.inr (Or.inl (confirmed due)))
    persisted := by
      intro entry he receipt e failed
      rcases List.mem_append.mp he with he | he
      · exact kept_of_clean clean he (stages entry he) receipt e failed
      rcases (mem_exitOf recorded).mp he with rfl | he | rfl | he | he
      · cases failed
      · rcases torn.asked entry he with asked | asked
        · rw [asked] at receipt
          cases receipt
        · rw [asked] at receipt
          cases receipt
      · cases failed
      · rcases persisted.asked entry he with ⟨_, _, asked⟩ | ⟨record, asked⟩
        · rw [asked] at receipt
          cases receipt
        · obtain ⟨q, answer⟩ := entry
          cases asked
          cases (written record answer he).symm.trans failed
      · cases he
    execution := ⟨_, exits (Or.inl rfl)⟩
    cleanup := ⟨_, _, exits (Or.inr (Or.inr (Or.inl rfl)))⟩
    cost := fun due => (costed due).imp fun _ he => costs he }

lemma once_append {before tail : Past} (stages : ∀ entry ∈ before, isStage entry.1 = true) :
    (before ++ tail).countP (fun entry => entry.1 = .destroy) =
      tail.countP (fun entry => entry.1 = .destroy) := by
  have none_ : before.countP (fun entry => entry.1 = .destroy) = 0 := by
    rw [List.countP_eq_zero]
    intro entry he destroys
    have asked := stages entry he
    rw [of_decide_eq_true destroys] at asked
    cases asked
  rw [List.countP_append, none_, Nat.zero_add]

lemma kept_append {before tail : Past} (stages : ∀ entry ∈ before, isStage entry.1 = true) :
    Kept isExitReceipt (before ++ tail) ↔ Kept isExitReceipt tail := by
  constructor
  · exact fun kept entry he => kept entry (List.mem_append_right _ he)
  · intro kept entry he receipt
    rcases List.mem_append.mp he with he | he
    · have asked := stages entry he
      obtain ⟨q, answer⟩ := entry
      replace receipt : isExitReceipt q = true := receipt
      unfold isExitReceipt at receipt
      split at receipt
      · cases asked
      · cases asked
      · cases receipt
    · exact kept entry he receipt

/-- The marker of a failed suite is not written among its stages. -/
lemma marker_append {before tail : Past} (stages : ∀ entry ∈ before, isStage entry.1 = true)
    {reason : String} {cause : Option GapCause} {answer : Except Thrown Unit}
    (he : (⟨.writeGapMarker .failed reason cause, answer⟩ : Sigma Answer) ∈ before ++ tail) :
    (⟨.writeGapMarker .failed reason cause, answer⟩ : Sigma Answer) ∈ tail := by
  rcases List.mem_append.mp he with he | he
  · cases stages _ he
  · exact he

section
variable {before down cost marker : Past} {recorded evidenceError : Thrown}
  {execution cleanup : Except Thrown Unit} {confirmedAbsent : Bool} {teardown : SandboxTeardown}
  {result : Except Thrown Unit}

lemma no_marker (torn : TornDown ctx down teardown) {suiteError evidenceError' : Thrown}
    (persisted : Persisted ctx suiteError evidenceError cost evidenceError')
    {reason : String} {cause : Option GapCause} {answer : Except Thrown Unit} :
    (⟨.writeGapMarker .failed reason cause, answer⟩ : Sigma Answer) ∉
      exitOf ctx recorded execution cleanup teardown confirmedAbsent down cost [] := by
  intro he
  rcases (mem_exitOf recorded).mp he with same | he | same | he | he
  · cases same
  · rcases torn.asked _ he with asked | asked
    · cases asked
    · cases asked
  · cases same
  · rcases persisted.asked _ he with ⟨_, _, asked⟩ | ⟨_, asked⟩
    · cases asked
    · cases asked
  · cases he

end

variable {before tail : Past} {result : Except Thrown Unit}

lemma Finishes.exits {recorded : Thrown} (finishes : Finishes runtime ctx recorded tail result) :
    ∀ entry ∈ tail, isStage entry.1 = false := by
  cases finishes with
  | parts execution cleanup confirmedAbsent torn persisted exited =>
    exact exitOf_exits torn persisted exited recorded

lemma Finishes.once {recorded : Thrown} (finishes : Finishes runtime ctx recorded tail result) :
    tail.countP (fun entry => entry.1 = .destroy) = 1 := by
  cases finishes with
  | parts execution cleanup confirmedAbsent torn persisted exited =>
    exact exitOf_once torn persisted exited recorded

/-- The exit of a suite that did not fail. -/
lemma Finishes.settled (finishes : Finishes runtime ctx .undefined tail result)
    (stages : ∀ entry ∈ before, isStage entry.1 = true)
    (clean : before.findSome? (stageError runtime ctx) = none)
    (truthy : Truthy ctx (before ++ tail)) (ok : result = .ok ()) : Settled ctx (before ++ tail) := by
  cases finishes with
  | parts execution cleanup confirmedAbsent torn persisted exited =>
  subst ok
  cases exited with
  | resolved silent =>
    rw [torn.teardown] at silent
    have resolved := annotated_silent silent
    rw [torn.teardown, resolved] at persisted
    exact settled_of_resolved truthy stages clean torn resolved persisted

section
variable {e : Thrown} (finishes : Finishes runtime ctx e tail result) (loud : e.truthy = true)
  (truthy : Truthy ctx tail)

include finishes loud

lemma Finishes.rejects : result ≠ .ok () := by
  rintro rfl
  cases finishes with
  | parts execution cleanup confirmedAbsent torn persisted exited =>
  cases exited with
  | resolved silent =>
    rw [torn.teardown, annotated_truthy loud, noted_truthy loud] at silent
    cases silent

include truthy

/-- The exit of a failed suite reports it exactly if both receipts were written. -/
lemma Finishes.reported : Reported tail result (noted runtime tail e) ↔ Kept isExitReceipt tail := by
  cases finishes with
  | parts execution cleanup confirmedAbsent torn persisted exited =>
  rename_i down cost marker teardown evidenceError
  have same : annotated runtime teardown e = noted runtime (exitOf ctx e execution cleanup teardown
      confirmedAbsent down cost marker) e := by
    rw [torn.teardown, annotated_truthy loud, noted, noted, unresolved_exitOf persisted exited e]
  have quiet : receiptError execution cleanup = .undefined ↔
      execution = .ok () ∧ cleanup = .ok () := by
    refine receiptError_undefined ?_ ?_
    · rintro d rfl
      exact truthy.answers _ d ((mem_exitOf e).mpr (Or.inl rfl))
    · rintro d rfl
      exact truthy.answers _ d ((mem_exitOf e).mpr (Or.inr (Or.inr (Or.inl rfl))))
  have loud' : (annotated runtime teardown e).truthy = true := by
    rw [same]
    exact noted_truthy loud
  have named : annotated runtime teardown e ≠ .undefined := by
    intro silent
    rw [silent] at loud'
    cases loud'
  have first := persisted.kept named
  rw [← same, kept_exitOf torn persisted exited e]
  constructor
  · intro reported
    have unraised : evidenceError = .undefined := by
      cases exited with
      | evidence d raised =>
        -- nothing marks the failure, since the error of a receipt comes first
        rcases reported with ⟨marked, _⟩ | ⟨_, marked, _⟩
        · exact absurd marked (no_marker torn persisted)
        · exact absurd marked (no_marker torn persisted)
      | resolved silent => rfl
      | failed loud => rfl
      | unmarked loud d => rfl
    obtain ⟨rfl, rfl⟩ := quiet.mp (first.symm.trans unraised)
    exact ⟨nofun, nofun⟩
  · rintro ⟨executed, cleaned⟩
    have written : ∀ {answer : Except Thrown Unit}, (∀ d, answer ≠ .error d) → answer = .ok () := by
      intro answer fine
      cases answer with
      | ok reply => rfl
      | error d => exact absurd rfl (fine d)
    rw [quiet.mpr ⟨written executed, written cleaned⟩] at first
    subst first
    refine (exited.reported loud').mono (fun entry he => ?_)
    exact (mem_exitOf e).mpr (Or.inr (Or.inr (Or.inr (Or.inr he))))

end

/-- Whenever everything thrown is an error, a run comes to what it is to come to exactly if
its suite did not fail or both receipts of its exit were written. -/
lemma Runs.accounted {h : Past} (run : Runs runtime ctx h result) (truthy : Truthy ctx h) :
    Accounted runtime ctx h result ↔ firstFailure runtime ctx h = none ∨ Kept isExitReceipt h := by
  obtain ⟨ends, finishes⟩ := run
  rename_i before tail outcome
  have exits := finishes.exits
  have once := finishes.once
  rw [← once_append ends.stages] at once
  have early := truthy.prefix
  have late : Truthy ctx tail := truthy.sublist (fun _ he => List.mem_append_right _ he)
  rcases ends.caught early with ⟨none_, rfl⟩ | ⟨some_, loud⟩
  · have unfailed : firstFailure runtime ctx (before ++ tail) = none :=
      (firstFailure_append exits).trans none_
    refine iff_of_true ⟨once, fun ok => ⟨unfailed, ?_, ?_⟩, ?_⟩ (Or.inl unfailed)
    · rcases ends.through early rfl with skipped | completed
      · exact Or.inl ((skippedIn_append exits).trans skipped)
      · exact Or.inr (completed.mono (List.subset_append_left _ _))
    · exact finishes.settled ends.stages (firstFailure_clean none_) truthy ok
    · rw [unfailed]
      nofun
  · have failed : firstFailure runtime ctx (before ++ tail) = some (SuiteWork.caught outcome) :=
      (firstFailure_append exits).trans some_
    have same : noted runtime (before ++ tail) (SuiteWork.caught outcome) =
        noted runtime tail (SuiteWork.caught outcome) := by
      rw [noted, noted, unresolved_append ends.stages]
    rw [failed, kept_append ends.stages, ← finishes.reported loud late]
    constructor
    · intro accounted
      refine Or.inr ?_
      have reported := accounted.rejects _ failed
      rw [same] at reported
      exact reported.imp (fun ok => ⟨marker_append ends.stages ok.1, ok.2⟩)
        fun ⟨d, marked, thrown⟩ => ⟨d, marker_append ends.stages marked, thrown⟩
    · rintro (none_ | reported)
      · cases none_
      refine ⟨once, fun ok => absurd ok (finishes.rejects loud), fun e first => ?_⟩
      cases failed.symm.trans first
      rw [same]
      exact reported.mono (List.subset_append_right _ _)

def plainWork : WorkRuntime where
  describeMessage := id
  parse := fun _ => none
  toFixed1 := fun _ => "0.0"
  numberText := fun _ => "0"
  expectedToolchainFingerprint := fun _ _ => none
  sanitizeEvidenceDetail := Thrown.described

def plainCell : WorkContext where
  cell := ⟨"run-1", "e2b", "disk", none⟩
  sandboxId := some "sb-1"
  artifact := .none
  reportedArtifact := none
  setupSteps := .ok []
  commands := ["bench"]
  commandTimeoutMinutes := 10
  minDiskGb := none
  setupPts := false
  costEvidence := false
  confirmCleanup := false

def unready : Thrown := .error "Sandbox is not ready" none

/-- The sandbox never becomes ready, and the execution receipt is answered as given. -/
def unreadyRun (execution : Except Thrown Unit) : Past :=
  [⟨.writeProviderArtifactEvidence "sb-1" (.requestFallback .none), .ok ()⟩,
    ⟨.createRunner, .ok ()⟩, ⟨.verifyReadiness, .error unready⟩,
    ⟨.writeExecution (some "sb-1") (some "Sandbox is not ready"), execution⟩,
    ⟨.destroy, .ok ()⟩, ⟨.writeCleanup ⟨true, none⟩ false, .ok ()⟩]

def markedRun : Past :=
  unreadyRun (.ok ()) ++ [⟨.writeGapMarker .failed "Sandbox is not ready" none, .ok ()⟩]

def diskFull : Thrown := .error "ENOSPC" none

lemma truthy_unreadyRun : Truthy plainCell (unreadyRun (.error diskFull)) := by
  refine ⟨fun q e he => ?_, nofun⟩
  simp only [unreadyRun, List.mem_cons, List.not_mem_nil, or_false] at he
  rcases he with same | same | same | same | same | same
  · cases same
  · cases same
  · cases same
    rfl
  · cases same
    rfl
  · cases same
  · cases same

lemma truthy_markedRun : Truthy plainCell markedRun := by
  refine ⟨fun q e he => ?_, nofun⟩
  simp only [markedRun, unreadyRun, List.cons_append, List.nil_append, List.mem_cons,
    List.not_mem_nil, or_false] at he
  rcases he with same | same | same | same | same | same | same
  · cases same
  · cases same
  · cases same
    rfl
  all_goals cases same

end SuiteWork
