import SandboxBenchmarks.CliCreate
import SandboxBenchmarks.Library.Variables
import SandboxBenchmarks.RunModel

/-!
# A detached step

`runDetached` of `packages/harness/src/lib/execute.ts` with `completion.ts`: a step is
launched in the background of a sandbox, its receipt is polled for, and its log is read
back. Clocks, timers and the sandbox are the environment, and a promise it is handed
settles, rejects or hangs. Console output is left out, and reading a log over exec is
one question.
-/

namespace DetachedStep

open CliCreate (trim)
open Interaction RunModel

/-! ### Receipts -/

/-- `[a-zA-Z0-9-]` -/
def isIdentityChar (c : Char) : Bool := c.isAlphanum || c == '-'

def isLowerHex (c : Char) : Bool := c.isDigit || ('a' ≤ c && c ≤ 'f')

/-- `/^bench-[a-f0-9-]+$/` -/
def isDetachedIdentity (identity : String) : Bool :=
  let rest := identity.toList.drop 6
  identity.toList.take 6 == "bench-".toList && rest ≠ [] &&
    rest.all (fun c => isLowerHex c || c == '-')

def shellQuote (script : String) : String :=
  let quoted := script.toList.flatMap (fun c => if c = '\'' then "'\\''".toList else [c])
  String.ofList (['\''] ++ quoted ++ ['\''])

def decimalValue (digits : List Char) : ℕ :=
  digits.foldl (fun n c => 10 * n + (c.toNat - '0'.toNat)) 0

/-- `0|[1-9][0-9]*` -/
def isNumeral (digits : List Char) : Bool :=
  digits == ['0'] || (digits.all Char.isDigit && digits.head?.any (fun c => c ≠ '0'))

/-- `/^v1 ([a-zA-Z0-9-]+) (0|[1-9][0-9]*)\n?$/` -/
def matchReceipt (raw : String) : Option (String × ℕ) :=
  match raw.toList with
  | 'v' :: '1' :: ' ' :: rest =>
    let identity := rest.takeWhile isIdentityChar
    match rest.dropWhile isIdentityChar with
    | ' ' :: rest =>
      let digits := rest.takeWhile Char.isDigit
      let ended := rest.dropWhile Char.isDigit
      if identity ≠ [] ∧ isNumeral digits = true ∧ (ended = [] ∨ ended = ['\n']) then
        some (String.ofList identity, decimalValue digits)
      else none
    | _ => none
  | _ => none

/-- The exit code of a receipt of this very command. -/
def completionCode (raw identity : String) : Option ℕ :=
  match matchReceipt raw with
  | none => none
  | some (name, code) => if name = identity ∧ code ≤ 255 then some code else none

/-- A receipt with a code is this command's own, to the last character. -/
theorem completionCode_eq_some {raw identity : String} {code : ℕ}
    (h : completionCode raw identity = some code) : ∃ digits ended,
      raw.toList = "v1 ".toList ++ identity.toList ++ ' ' :: (digits ++ ended) ∧
      isNumeral digits = true ∧ decimalValue digits = code ∧ code ≤ 255 ∧
      (ended = [] ∨ ended = ['\n']) := by
  unfold completionCode matchReceipt at h
  split at h
  · cases h
  rename_i name found matched
  split at matched
  · rename_i rest text
    dsimp only at matched
    split at matched
    · rename_i rest' spaced
      split at matched
      · rename_i form
        simp only [Option.some.injEq, Prod.mk.injEq] at matched
        obtain ⟨rfl, rfl⟩ := matched
        split at h
        · rename_i own
          obtain ⟨rfl, small⟩ := own
          cases h
          refine ⟨rest'.takeWhile Char.isDigit, rest'.dropWhile Char.isDigit, ?_, form.2.1, rfl, small,
            form.2.2⟩
          have named : (String.ofList (rest.takeWhile isIdentityChar)).toList =
              rest.takeWhile isIdentityChar := String.toList_ofList
          rw [List.takeWhile_append_dropWhile, ← spaced, named, List.append_assoc,
            List.takeWhile_append_dropWhile, text]
          rfl
        · cases h
      · cases matched
    · cases matched
  · cases matched

/-! ### Values -/

inductive Phase | create | setup | benchmark | collect
deriving DecidableEq, Repr

def Phase.text : Phase → String
  | .create => "create"
  | .setup => "setup"
  | .benchmark => "benchmark"
  | .collect => "collect"

inductive Thrown
  /-- A `GapError`. -/
  | gap (message : String) (cause : GapCause)
  /-- A `LogReadbackError`. -/
  | readback (message : String)
  | error (message : String)
  /-- A value that is no `Error`, as `String` describes it. -/
  | value (described : String)
deriving DecidableEq

def Thrown.message : Thrown → String
  | .gap message _ => message
  | .readback message => message
  | .error message => message
  | .value described => described

/-- What a promise of the sandbox rejects with; the harness's own error classes are its own. -/
inductive Fault
  | error (message : String)
  | value (described : String)
deriving DecidableEq

def Fault.thrown : Fault → Thrown
  | .error message => .error message
  | .value described => .value described

/-- `Math.round` -/
def round (x : ℚ) : ℤ := ⌊x + 1 / 2⌋

def stepTimeout (label : String) (timeoutMs : ℚ) : Thrown :=
  let timeoutSeconds := max 1 (round (timeoutMs / 1000))
  .gap s!"Step \"{label}\" timed out after {timeoutSeconds}s" (.stepTimeout label timeoutSeconds)

def isStepTimeout : Thrown → Bool
  | .gap _ (.stepTimeout _ _) => true
  | _ => false

def isLineTerminator (c : Char) : Bool :=
  c == '\n' || c == '\r' || c.val == 0x2028 || c.val == 0x2029

def occursIn (pattern text : List Char) : Bool := text.tails.any (fun rest => pattern.isPrefixOf rest)

/-- `/not supported by .*sandbox environment/i` -/
def namesUnsupportedFilesystem (message : String) : Bool :=
  let lower := message.toList.map Char.toLower
  let phrase := "not supported by ".toList
  lower.tails.any (fun rest => phrase.isPrefixOf rest && occursIn "sandbox environment".toList
    ((rest.drop phrase.length).takeWhile (fun c => ! isLineTerminator c)))

def isUnsupportedFilesystem : Thrown → Bool
  | .value _ => false
  | thrown => namesUnsupportedFilesystem thrown.message

inductive StepState
  | launchPending | launchAccepted | running | observationUnavailable | completed
  | deadlineExceeded | collectionFailed
deriving DecidableEq, Repr

structure DetachedStepEvidence where
  identity : String
  label : String
  phase : Phase
  allowFailure : Bool
  state : StepState
  exitCode : Option ℕ
  lastObservationMs : Option ℤ
  logTail : Option (Option String)
deriving DecidableEq, Repr

structure StepLogEntry where
  phase : Phase
  label : String
  ms : ℤ
  exitCode : Option ℤ
  allowFailure : Bool
deriving DecidableEq, Repr

/-! ### Questions -/

/-- What the harness reads of the result of an exec. -/
structure Executed where
  exitCode : Option ℤ
  stdout : Option String
deriving DecidableEq, Repr

inductive Call
  | fsExists (path : String)
  | fsReadFile (path : String)
  | execute (command : String)
deriving DecidableEq, Repr

abbrev Reply : Call → Type
  | .fsExists _ => Bool
  | .fsReadFile _ => String
  | .execute _ => Executed

/-- `Promise.race` of a promise and a timer. -/
inductive Race (α : Type)
  | returned (a : α)
  | threw (fault : Fault)
  | timedOut
deriving DecidableEq

/-- What one poll came to. -/
inductive Outcome
  | seen (exitCode : Option (Option ℕ))
  | failed
  /-- The timer of the step fired first. -/
  | overtaken
deriving DecidableEq, Repr

inductive Ask
  /-- `Date.now()` -/
  | date
  /-- `performance.now()` -/
  | now
  | launch (command : String) (timeoutMs : ℚ)
  /-- The timer of the step is set, for what follows up to its end. -/
  | arm (timeoutMs : ℚ)
  /-- A call under the timer of the step, raced with a timer of its own. -/
  | observe (call : Call) (timeoutMs : ℚ)
  /-- Whether the poll that the timer abandoned still finds the filesystem unsupported. -/
  | abandoned
  /-- A poll has ended; asked of nobody, and kept for what is proved of polls. -/
  | polled (outcome : Outcome)
  | sleep (ms : ℚ)
  /-- A sleep under the timer of the step. -/
  | readbackSleep (ms : ℚ)
  /-- `catLogOrNull` under the timer of the step. -/
  | catLogOrNull (logPath : String) (deadline : ℚ)
  | readTailFile (logPath : String)
  | catTail (logPath : String)
  /-- `pkill -f`, whatever it comes to. -/
  | kill (tag : String)
  | removeDetachedFiles (logPath donePath : String)
deriving DecidableEq

/-- Under the timer of the step, `none` is that the timer fired first. -/
abbrev Answer : Ask → Type
  | .date => ℚ
  | .now => ℚ
  | .launch _ _ => Race Unit
  | .arm _ => Unit
  | .observe call _ => Option (Race (Reply call))
  | .abandoned => Bool
  | .polled _ => Unit
  | .sleep _ => Unit
  | .readbackSleep _ => Option Unit
  | .catLogOrNull _ _ => Option (Option String)
  | .readTailFile _ => Race String
  | .catTail _ => Option String
  | .kill _ => Unit
  | .removeDetachedFiles _ _ => Unit

abbrev Events := History Ask Answer

/-- What `runDetached` and the runner assign to. -/
structure Variables where
  evidence : Option DetachedStepEvidence
  stepLog : List StepLogEntry
  /-- `this.pollFs !== undefined` -/
  pollFs : Bool
  timeoutEvidenceCaptured : Bool
deriving DecidableEq, Repr

abbrev Act (ε α : Type) := Action Ask Answer Variables ε α

/-- Why a call under the timer of the step does not return. -/
inductive Stopped
  | overtaken
  | threw (thrown : Thrown)
deriving DecidableEq

/-! ### Facades -/

/-- A facade of `StepExecution`: how it reads the results of its commands. -/
structure Facade (R : Type) where
  exitCode : R → Option ℤ
  describeExit : R → String
  completed : Option ℕ → String → ℚ → R
  exitCode_completed : ∀ code stdout durationMs,
    exitCode (completed code stdout durationMs) = some 0 ↔ code = some 0

structure CommandResult where
  exitCode : ℤ
  stdout : Option String
deriving DecidableEq, Repr

/-- `StepRunner` -/
def stepRunner : Facade CommandResult where
  exitCode result := some result.exitCode
  describeExit result := toString result.exitCode
  completed code stdout _ := ⟨((code.getD 1 : ℕ) : ℤ), some stdout⟩
  exitCode_completed code stdout _ := by
    cases code with
    | none => simp
    | some code => simp

inductive Exit
  | exited (code : ℤ)
  | signalled (signal : String)
  | unknown (detail : String)
deriving DecidableEq, Repr

structure ExecResult where
  exit : Exit
  stdout : String
  stderr : String
  durationMs : ℚ
  truncated : Bool
deriving DecidableEq, Repr

/-- `SessionStepRunner` -/
def sessionStepRunner : Facade ExecResult where
  exitCode result := match result.exit with
    | .exited code => some code
    | _ => none
  describeExit result := match result.exit with
    | .exited code => toString code
    | .signalled signal => s!"signal {signal}"
    | .unknown detail => s!"unknown ({detail})"
  completed code stdout durationMs :=
    { exit := match code with
        | none => .unknown "invalid detached completion status"
        | some code => .exited code
      stdout := stdout
      stderr := ""
      durationMs := durationMs
      truncated := false }
  exitCode_completed code stdout _ := by
    cases code with
    | none => simp
    | some code => simp

/-- One call of `runDetached`. -/
structure Step (R : Type) where
  facade : Facade R
  phase : Phase
  phaseDeadline : Option ℚ
  label : String
  preamble : String
  script : String
  timeoutMs : ℚ
  allowFailure : Bool
  /-- The answer of `randomUUID()`. -/
  uuid : String
  /-- `redactDiagnosticText`, and what `slice(-8192)` leaves of it. -/
  redactedTail : String → String

namespace Step

variable {R : Type} (step : Step R)

def identity : String := s!"bench-{step.uuid}"

def directory : String := s!"/tmp/{step.identity}"

def logPath : String := s!"{step.directory}/output.log"

def donePath : String := s!"{step.directory}/completion.done"

def pollStartMs : ℚ := 1500

def pollBackoff : ℚ := 3 / 2

def pollCapMs : ℚ := 10000

def maxConsecutivePollFailures : ℕ := 12

def readbackAttempts : ℕ := 5

def readbackDelayMs : ℚ := 2000

def timeoutLogTailLines : ℕ := 50

def runningSentinel : String := "__RUNNING__"

/-! ### Clocks and timers -/

variable {ε : Type}

def clock : Act ε ℚ := Action.question .now (fun (at_ : ℚ) => pure at_)

/-- `Math.max(1, deadline - performance.now())` -/
def remaining (deadline : ℚ) : Act ε ℚ := do
  let at_ ← clock
  pure (max 1 (deadline - at_))

def boundedTimeout : Act Thrown ℚ :=
  match step.phaseDeadline with
  | none => pure step.timeoutMs
  | some phaseDeadline => Action.question .date (fun (at_ : ℚ) =>
      if phaseDeadline - at_ ≤ 0 then throw (.error s!"{step.phase.text} phase deadline exceeded")
      else pure (min step.timeoutMs (phaseDeadline - at_)))

def observationBudget (deadline : ℚ) : Act Stopped ℚ := do
  let at_ ← clock
  if deadline - at_ ≤ 0 then throw (.threw (.error "step observation deadline exceeded"))
  else pure (min pollCapMs (deadline - at_))

/-- A call raced with a timer of its own. It is under way before its budget is read. -/
def observe (deadline : ℚ) (call : Call) (message : String) : Act Stopped (Reply call) := do
  let ms ← observationBudget deadline
  Action.question (.observe call ms) (fun (answer : Option (Race (Reply call))) => match answer with
    | none => throw .overtaken
    | some (.returned a) => pure a
    | some (.threw fault) => throw (.threw fault.thrown)
    | some .timedOut => throw (.threw (.error message)))

/-- `withTimeout` around what is observed, with the timer of the step. -/
def withStepTimeout {α : Type} (timeoutMs deadline : ℚ) (x : Act Stopped α) : Act Thrown α := do
  let ms ← remaining deadline
  Action.question (.arm ms) (fun _ => do
    let outcome ← Action.captured x
    match outcome with
    | .ok a => pure a
    | .error (.threw thrown) => throw thrown
    | .error .overtaken => throw (stepTimeout step.label timeoutMs))

/-! ### Completion -/

/-- `donePath.split("/")[2]` is the identity, which has no slash once it is accepted. -/
def pollDoneViaFs (deadline : ℚ) : Act Stopped (Option (Option ℕ)) := do
  let _ ← observationBudget deadline
  let present : Bool ← observe deadline (.fsExists step.donePath) "done-file fs exists"
  if present = false then pure none
  else do
    let _ ← observationBudget deadline
    let raw : String ← observe deadline (.fsReadFile step.donePath) "done-file fs read"
    if raw = "" then pure none else pure (some (completionCode raw step.identity))

def catDone : Call :=
  let donePath := step.donePath
  let script := shellQuote s!"cat {donePath} 2>/dev/null || echo {runningSentinel}"
  .execute s!"bash -c {script}"

def exitText : Option ℤ → String
  | none => "null"
  | some code => toString code

def pollDoneViaCat (deadline : ℚ) : Act Stopped (Option (Option ℕ)) := do
  let _ ← observationBudget deadline
  let probe : Executed ← observe deadline step.catDone "done-file cat poll"
  if probe.exitCode ≠ some 0 then
    let code := exitText probe.exitCode
    throw (.threw (.error s!"done-file cat poll returned exit {code} — sandbox not responding"))
  else
    let out := probe.stdout.getD ""
    if out = "" ∨ trim out = runningSentinel then pure none
    else pure (some (completionCode out step.identity))

def loseFilesystem (v : Variables) : Variables := { v with pollFs := false }

/-- The filesystem is abandoned for good when it proves unsupported, in the same call. -/
def degrade (deadline : ℚ) : Stopped → Act Stopped (Option (Option ℕ))
  | .threw thrown =>
    if isUnsupportedFilesystem thrown then do
      Action.assign loseFilesystem
      step.pollDoneViaCat deadline
    else throw (.threw thrown)
  | .overtaken => Action.question .abandoned (fun (unsupported : Bool) => do
      if unsupported then Action.assign loseFilesystem
      throw .overtaken)

def pollDoneOnce (deadline : ℚ) : Act Stopped (Option (Option ℕ)) := do
  let fs ← Action.read (·.pollFs)
  if fs = false then step.pollDoneViaCat deadline
  else tryCatch (step.pollDoneViaFs deadline) (step.degrade deadline)

/-! ### Evidence -/

def onEvidence (f : DetachedStepEvidence → DetachedStepEvidence) (v : Variables) : Variables :=
  { v with evidence := v.evidence.map f }

def setState (state : StepState) : Act ε PUnit :=
  Action.assign (onEvidence (fun evidence => { evidence with state := state }))

def evidenceState : Act ε (Option StepState) := Action.read (fun v => v.evidence.map (·.state))

def stateOf : Option (Option ℕ) → StepState
  | none => .running
  | some none => .observationUnavailable
  | some (some _) => .completed

/-- The evidence of a poll that answered. -/
def observed (started : ℚ) (exitCode : Option (Option ℕ)) : Act ε PUnit := do
  let at_ ← clock
  Action.assign (onEvidence (fun evidence =>
    { evidence with
      lastObservationMs := some (round (at_ - started))
      state := stateOf exitCode
      exitCode := exitCode.join }))

def recordStep (ms : ℤ) (exitCode : Option ℤ) : Act ε PUnit :=
  Action.assign (fun v => { v with
    stepLog := v.stepLog ++ [⟨step.phase, step.label, ms, exitCode, step.allowFailure⟩] })

/-- `text.trimEnd().split("\n").slice(-50).join("\n")` -/
def lastLines (text : String) : String :=
  let lines := (text.toList.reverse.dropWhile CliCreate.isSpace).reverse.splitOn '\n'
  String.ofList (['\n'].intercalate (lines.drop (lines.length - timeoutLogTailLines)))

def readLogTail : Act ε (Option String) := do
  let fs ← Action.read (·.pollFs)
  if fs then Action.question (.readTailFile step.logPath) (fun (answer : Race String) =>
    match answer with
    | .returned text => pure (some (lastLines text))
    | _ => pure none)
  else Action.question (.catTail step.logPath) (fun (text : Option String) =>
    pure (text.map lastLines))

def recoverTimeoutEvidence : Act ε PUnit := do
  let captured ← Action.read (·.timeoutEvidenceCaptured)
  if captured then pure .unit
  else do
    Action.assign (fun v => { v with timeoutEvidenceCaptured := true })
    setState .deadlineExceeded
    let rawTail ← step.readLogTail
    Action.assign (onEvidence (fun evidence =>
      { evidence with logTail := some (rawTail.map step.redactedTail) }))
    Action.question (.kill step.identity) (fun _ => pure .unit)

/-! ### The log -/

/-- One attempt at the log, or why it failed. -/
def readOnce (deadline : ℚ) (fs : Bool) : Act Stopped (Except String String) := do
  let _ ← observationBudget deadline
  if fs then
    tryCatch (do
      let text : String ← observe deadline (.fsReadFile step.logPath) "log fs read"
      pure (.ok text))
      (fun stopped => match stopped with
        | .threw thrown => pure (.error thrown.message)
        | .overtaken => throw .overtaken)
  else
    Action.question (.catLogOrNull step.logPath deadline) (fun (answer : Option (Option String)) =>
      match answer with
      | none => throw .overtaken
      | some (some text) => pure (.ok text)
      | some none => pure (.error "log cat read failed"))

/-- The last failure of `left + 1` attempts, if none of them returned the log. -/
def readAttempts (deadline : ℚ) (fs : Bool) : ℕ → Act Stopped (Except String String)
  | 0 => step.readOnce deadline fs
  | left + 1 => do
    let attempt ← step.readOnce deadline fs
    match attempt with
    | .ok text => pure (.ok text)
    | .error _ => do
      let ms ← observationBudget deadline
      Action.question (.readbackSleep (min readbackDelayMs ms)) (fun (slept : Option Unit) =>
        match slept with
        | none => throw .overtaken
        | some _ => readAttempts deadline fs left)

def logReadback (lastFailure : String) : Stopped :=
  .threw (.readback (s!"Step \"{step.label}\" completed but its log could not be read back (transport failure): {readbackAttempts} reads failed (last: {lastFailure}) — the step's output still exists in the sandbox but no transport could reach it"))

/-- A filesystem that stays down falls back to exec once. -/
def readCompletedLog (deadline : ℚ) (fs : Bool) : Act Stopped String := do
  let log ← step.readAttempts deadline fs (readbackAttempts - 1)
  match log with
  | .ok text => pure text
  | .error lastFailure =>
    if fs then
      Action.question (.catLogOrNull step.logPath deadline) (fun (answer : Option (Option String)) =>
        match answer with
        | none => throw .overtaken
        | some (some text) => pure text
        | some none => throw (step.logReadback s!"{lastFailure}; exec fallback also failed"))
    else throw (step.logReadback lastFailure)

def finishStep (started : ℚ) (result : R) : Act Thrown R := do
  let at_ ← clock
  step.recordStep (round (at_ - started)) (step.facade.exitCode result)
  if step.facade.exitCode result ≠ some 0 ∧ step.allowFailure = false then
    let exit := step.facade.describeExit result
    match step.facade.exitCode result with
    | none => throw (.error s!"Step \"{step.label}\" failed: {exit}")
    | some code =>
      throw (.gap s!"Step \"{step.label}\" failed with exit code {exit}"
        (.stepFailed step.label (some code)))
  else pure result

/-- The log of a step with a receipt, which is removed once it is in memory. -/
def collectLog (timeoutMs started deadline : ℚ) (exitCode : Option ℕ) : Act Thrown R :=
  Action.finally_ (do
    let fs ← Action.read (·.pollFs)
    let stdout ← tryCatch
      (step.withStepTimeout timeoutMs deadline (step.readCompletedLog deadline fs))
      (fun thrown => do
        setState .collectionFailed
        throw thrown)
    let at_ ← clock
    step.finishStep started (step.facade.completed exitCode stdout (at_ - started)))
    (Action.question (.removeDetachedFiles step.logPath step.donePath) (fun _ => pure .unit))

/-! ### The poll loop -/

inductive Round
  | finished (exitCode : Option ℕ)
  | pending (consecutivePollFailures : ℕ)
deriving DecidableEq, Repr

def outcomeOf : Except Thrown (Option (Option ℕ)) → Outcome
  | .ok exitCode => .seen exitCode
  | .error thrown => if isStepTimeout thrown then .overtaken else .failed

def sandboxLost (failures : ℕ) (thrown : Thrown) : Thrown :=
  let reason := thrown.message
  .gap s!"Step \"{step.label}\" lost its sandbox: {failures} consecutive detached polls failed (last: {reason}) — the sandbox stopped responding, not a quiet long step"
    (.sandboxLost step.label (some failures))

def roundOf (started : ℚ) (failures : ℕ) : Except Thrown (Option (Option ℕ)) → Act Thrown Round
  | .ok exitCode => do
    observed started exitCode
    match exitCode with
    | some code => pure (.finished code)
    | none => pure (.pending 0)
  | .error thrown =>
    if isStepTimeout thrown then throw thrown
    else do
      setState .observationUnavailable
      if maxConsecutivePollFailures ≤ failures + 1 then throw (step.sandboxLost (failures + 1) thrown)
      else pure (.pending (failures + 1))

def pollRound (timeoutMs started deadline : ℚ) (failures : ℕ) : Act Thrown Round := do
  let polled ← Action.captured (step.withStepTimeout timeoutMs deadline (step.pollDoneOnce deadline))
  Action.question (.polled (outcomeOf polled)) (fun _ => step.roundOf started failures polled)

/-- The end of a round without a receipt: the deadline, or a pause. -/
def pause (timeoutMs deadline pollDelayMs : ℚ) : Act Thrown PUnit := do
  let at_ ← clock
  if deadline < at_ then do
    step.recoverTimeoutEvidence
    throw (stepTimeout step.label timeoutMs)
  else do
    let ms ← remaining deadline
    Action.question (.sleep (min pollDelayMs ms)) (fun _ => pure .unit)

/-- `rounds` bounds how many polls a run is followed for. -/
def pollLoop (timeoutMs started deadline : ℚ) : ℕ → ℚ → ℕ → Act Thrown R
  | 0, _, _ => Action.cut
  | rounds + 1, pollDelayMs, failures => do
    let round ← step.pollRound timeoutMs started deadline failures
    match round with
    | .finished exitCode => step.collectLog timeoutMs started deadline exitCode
    | .pending failures => do
      step.pause timeoutMs deadline pollDelayMs
      pollLoop timeoutMs started deadline rounds (min (pollDelayMs * pollBackoff) pollCapMs) failures

/-! ### The step -/

def detachedCommand (command : String) : Except Thrown String :=
  if isDetachedIdentity step.identity = false then
    .error (.error "invalid detached command identity")
  else
    let identity := step.identity
    let directory := step.directory
    let done := step.donePath
    let quoted := shellQuote command
    .ok (s!"umask 077; mkdir {directory} || exit 1; bash -c {quoted} > {directory}/output.log 2>&1 " ++
      s!"&& code=0 || code=$?; printf 'v1 {identity} %s\\n' \"$code\" > {done}.tmp && mv {done}.tmp {done}")

def launchStep (timeoutMs deadline : ℚ) : Act Thrown PUnit :=
  match step.detachedCommand s!"{step.preamble}; {step.script}" with
  | .error thrown => throw thrown
  | .ok wrapped => do
    let ms ← remaining deadline
    Action.question (.launch wrapped ms) (fun (answer : Race Unit) => match answer with
      | .returned _ => setState .launchAccepted
      | .threw fault => throw fault.thrown
      | .timedOut => throw (stepTimeout step.label timeoutMs))

/-- A timeout, or any error past the deadline; the clock is not read for the first. -/
def isLate (deadline : ℚ) (thrown : Thrown) : Act Thrown Bool :=
  if isStepTimeout thrown then pure true
  else do
    let at_ ← clock
    pure (decide (deadline ≤ at_))

def recoverLate (deadline : ℚ) (thrown : Thrown) : Act Thrown PUnit := do
  let late ← isLate deadline thrown
  let state ← evidenceState
  if late = true ∧ state ≠ some .completed ∧ state ≠ some .collectionFailed then
    step.recoverTimeoutEvidence
  else pure .unit

/-- An attempt that failed before it was recorded is recorded with what was observed of it. -/
def recordMissing (started : ℚ) (logCount : ℕ) : Act Thrown PUnit := do
  let recorded ← Action.read (fun v => v.stepLog.length)
  if recorded = logCount then do
    let at_ ← clock
    let exitCode ← Action.read (fun v => v.evidence.bind (·.exitCode))
    step.recordStep (round (at_ - started)) (exitCode.map (fun (code : ℕ) => (code : ℤ)))
  else pure .unit

/-- The outer `catch`. -/
def failStep (started deadline : ℚ) (logCount : ℕ) (thrown : Thrown) : Act Thrown R := do
  step.recoverLate deadline thrown
  step.recordMissing started logCount
  throw thrown

def pendingEvidence : DetachedStepEvidence where
  identity := step.identity
  label := step.label
  phase := step.phase
  allowFailure := step.allowFailure
  state := .launchPending
  exitCode := none
  lastObservationMs := none
  logTail := none

/-- What follows once the phase has admitted the step for `timeoutMs`. -/
def runAdmitted (rounds : ℕ) (timeoutMs : ℚ) : Act Thrown R := do
  let started ← clock
  let deadline := started + timeoutMs
  Action.assign (fun v => { v with
    evidence := some step.pendingEvidence
    timeoutEvidenceCaptured := false })
  let logCount ← Action.read (fun v => v.stepLog.length)
  tryCatch
    (do
      step.launchStep timeoutMs deadline
      step.pollLoop timeoutMs started deadline rounds pollStartMs 0)
    (step.failStep started deadline logCount)

def runDetached (rounds : ℕ) : Act Thrown R := do
  let timeoutMs ← step.boundedTimeout
  step.runAdmitted rounds timeoutMs

end Step

end DetachedStep
