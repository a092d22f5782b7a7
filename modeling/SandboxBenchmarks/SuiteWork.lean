import SandboxBenchmarks.Library.Interaction
import SandboxBenchmarks.RunModel

/-!
# One suite on one sandbox

`runSuiteWork` of `packages/harness/src/index.ts`. Every stage is a question to the
world, answered with a value or with what was thrown. Timestamps are left out, and a
captured cost record is answered as the document it is kept as.
-/

namespace SuiteWork

open Interaction JsonText RunModel

/-- A thrown value, as `describeDriverFailure` and `gapCauseOf` read it. -/
inductive Thrown where
  | undefined
  /-- `null`, `0`, `""` and the like. -/
  | falsy (described : String)
  | error (described : String) (gapCause : Option GapCause)
deriving DecidableEq

def Thrown.described : Thrown → String
  | .undefined => "Unknown failure"
  | .falsy described => described
  | .error described _ => described

def Thrown.gapCause : Thrown → Option GapCause
  | .error _ gapCause => gapCause
  | _ => none

def Thrown.truthy : Thrown → Bool
  | .error _ _ => true
  | _ => false

structure SetupStep where
  label : String
  script : String
  timeoutMs : Nat
  /-- Extra attempts for steps prone to transient network failures. -/
  retries : Option Nat
deriving DecidableEq

def SetupStep.attempts (step : SetupStep) : Nat := step.retries.getD 0 + 1

structure SandboxTeardown where
  completed : Bool
  diagnostic : Option String
deriving DecidableEq

inductive CostRecord where
  | missing (sandboxId : Option String) (reason detail : String)
  | captured (document : String)
deriving DecidableEq

structure WorkContext where
  cell : ProviderCostCell
  sandboxId : Option String
  artifact : ResolvedArtifact
  reportedArtifact : Option ResolvedArtifact
  /-- `setupSteps(suite, ctx.sourceRevision)` -/
  setupSteps : Except Thrown (List SetupStep)
  commands : List String
  commandTimeoutMinutes : Nat
  minDiskGb : Option ℚ
  setupPts : Bool
  /-- Whether the provider has a cost capability, and its callers confirm removal. -/
  costEvidence : Bool
  confirmCleanup : Bool

/-- What the code is given besides its context. -/
structure WorkRuntime where
  /-- `describeDriverFailure(new Error(message))` -/
  describeMessage : String → String
  /-- `JSON.parse` -/
  parse : String → Option Value
  /-- `x.toFixed(1)` -/
  toFixed1 : ℚ → String
  numberText : ℚ → String
  expectedToolchainFingerprint : String → ResolvedArtifact → Option GuestFingerprint
  sanitizeEvidenceDetail : Thrown → String

def minute : Nat := 60000

/-! ### Questions -/

inductive Ask where
  | writeProviderArtifactEvidence (sandboxId : String) (provenance : ArtifactProvenance)
  | createRunner
  | verifyReadiness
  /-- `cat /toolchain-manifest.json`, if it is small enough. -/
  | captureArtifactFingerprint
  /-- The free KiB where the disk-heavy suites write. -/
  | checkFreeDisk
  | writeGapMarker (outcome : GapOutcome) (reason : String) (cause : Option GapCause)
  | setup (step : SetupStep) (attempt : Nat)
  | captureObservedSpecs
  | benchmark (command : String) (timeoutMs : Nat)
  | collectResults
  /-- Whether `resultsDir` holds a PTS result file. -/
  | listResults
  | writeExecution (sandboxId : Option String) (primaryFailure : Option String)
  /-- `withTimeout(sandbox.destroy(), 60_000)` -/
  | destroy
  | confirmCleanup
  | writeCleanup (teardown : SandboxTeardown) (confirmedAbsent : Bool)
  /-- The hook's record, checked against the cell and sanitized; `none` when it fails these. -/
  | captureAfterTeardown (sandboxId : String) (teardown : SandboxTeardown)
  | writeProviderCostEvidence (record : CostRecord)
deriving DecidableEq

abbrev Reply : Ask → Type
  | .captureArtifactFingerprint => String
  | .checkFreeDisk => String
  | .listResults => Bool
  | .captureAfterTeardown _ _ => Option String
  | _ => Unit

abbrev Answer (q : Ask) : Type := Except Thrown (Reply q)

abbrev Work (α : Type) := Attempt Ask Answer Thrown α

/-- Await a stage; what it throws is thrown. -/
def stage (q : Ask) : Work (Reply q) := question q computed

/-- Await a stage in a `try` of its own. -/
def attempted (q : Ask) : Work (Except Thrown (Reply q)) := question q pure

/-! ### The suite -/

section
variable (runtime : WorkRuntime) (ctx : WorkContext)

def failure (message : String) : Thrown := .error (runtime.describeMessage message) none

/-- The two identity fields of the in-guest manifest. -/
def manifestFingerprint (data : String) : Except Thrown GuestFingerprint :=
  match runtime.parse data with
  | none => .error (failure runtime "Toolchain manifest is not valid JSON")
  | some (.obj fields) =>
    match Keyed.get? fields "image_name", Keyed.get? fields "image_version" with
    | some (.str imageName), some (.str imageVersion) => .ok ⟨imageName, imageVersion⟩
    | _, _ => .error
        (failure runtime "Toolchain manifest is missing string image_name/image_version fields")
  | some _ => .error (failure runtime "Toolchain manifest must be an object")

def digitsValue (digits : List Char) : Nat :=
  digits.foldl (fun n c => 10 * n + (c.toNat - 48)) 0

/-- `Number.parseInt(text.trim(), 10)`; `none` is `NaN`. -/
def parseInt (text : String) : Option Int :=
  match text.toList.dropWhile Char.isWhitespace with
  | '-' :: rest =>
    let digits := rest.takeWhile Char.isDigit
    if digits = [] then none else some (- (digitsValue digits : Int))
  | '+' :: rest =>
    let digits := rest.takeWhile Char.isDigit
    if digits = [] then none else some (digitsValue digits : Int)
  | chars =>
    let digits := chars.takeWhile Char.isDigit
    if digits = [] then none else some (digitsValue digits : Int)

/-- Whether the suite is skipped for want of disk. Output that is no number is no free disk. -/
def diskGate : Work Bool :=
  match ctx.minDiskGb with
  | none => pure false
  | some required =>
    if required = 0 then pure false
    else do
      let stdout : String ← stage .checkFreeDisk
      let freeGb : ℚ := (((parseInt stdout).getD 0 : Int) : ℚ) / 1024 / 1024
      if freeGb < required then do
        let free := runtime.toFixed1 freeGb
        let needed := runtime.numberText required
        stage (.writeGapMarker .skipped
          s!"Insufficient disk: {free} GiB free, suite needs {needed} GiB"
          (some (.diskShortfall freeGb required)))
        pure true
      else pure false

/-- One setup step, `left` attempts remaining after this one. -/
def runSetup (step : SetupStep) : (left attempt : Nat) → Work Unit
  | 0, attempt => stage (.setup step attempt)
  | left + 1, attempt =>
    question (.setup step attempt) (fun answer =>
      match answer with
      | .ok _ => pure ()
      | .error _ => runSetup step left (attempt + 1))

def runSetups : List SetupStep → Work Unit
  | [] => pure ()
  | step :: steps => do
    runSetup step (step.retries.getD 0) 1
    runSetups steps

def runCommands : List String → Work Unit
  | [] => pure ()
  | command :: commands => do
    stage (.benchmark command (ctx.commandTimeoutMinutes * minute))
    runCommands commands

def noPtsResult : Thrown :=
  failure runtime
    s!"Suite \"{ctx.cell.suite}\" on {ctx.cell.providerId} produced no pts_*.xml — PTS likely failed silently"

/-- What was thrown, or `undefined`. -/
def thrownBy {α : Type} : Except Thrown α → Thrown
  | .ok _ => .undefined
  | .error e => e

/-- A failed collection does not mask a benchmark error. -/
def withCollected (suiteError : Thrown) (collected : Answer .collectResults) : Thrown :=
  if suiteError.truthy then suiteError
  else match collected with
    | .ok _ => suiteError
    | .error e => e

/-- A PTS suite without a result file failed silently. -/
def checkResults (suiteError : Thrown) : Work Thrown :=
  if suiteError.truthy = false ∧ ctx.setupPts = true then do
    let found : Bool ← stage .listResults
    if found then pure suiteError else pure (noPtsResult runtime ctx)
  else pure suiteError

/-- Setup, benchmark and collection; what they record as the suite's error. -/
def measure : Work Thrown := do
  let steps ← computed ctx.setupSteps
  runSetups steps
  stage .captureObservedSpecs
  let benchmarked ← captured (runCommands ctx ctx.commands)
  let collected ← attempted .collectResults
  checkResults runtime ctx (withCollected (thrownBy benchmarked) collected)

/-- What the driver reported it booted. -/
def writeReported (sandboxId : String) : Work Unit :=
  match ctx.reportedArtifact with
  | some reported =>
    stage (.writeProviderArtifactEvidence sandboxId (.driverReported ctx.artifact reported))
  | none => pure ()

/-- What the guest says it runs, where the artifact has an expected fingerprint. -/
def writeFingerprint (sandboxId : String) : Work Unit :=
  match runtime.expectedToolchainFingerprint ctx.cell.providerId ctx.artifact with
  | some _ => do
    let stdout : String ← stage .captureArtifactFingerprint
    let fingerprint ← computed (manifestFingerprint runtime stdout)
    stage (.writeProviderArtifactEvidence sandboxId
      (.guestFingerprint ctx.artifact fingerprint ctx.reportedArtifact))
  | none => pure ()

/-- The body of the `try`: what it records as the suite's error, or what it throws. -/
def runStages : Work Thrown :=
  match ctx.sandboxId with
  | none =>
    throw (failure runtime "Sandbox id is unavailable; artifact attribution cannot be persisted")
  | some sandboxId => do
    stage (.writeProviderArtifactEvidence sandboxId (.requestFallback ctx.artifact))
    stage .createRunner
    stage .verifyReadiness
    writeReported ctx sandboxId
    writeFingerprint runtime ctx sandboxId
    let skipped ← diskGate runtime ctx
    if skipped then pure .undefined else measure runtime ctx

/-! ### The exit -/

/-- `destroySandbox`, with the confirmation of removal where there is one. -/
def tearDown : Work (SandboxTeardown × Bool) := do
  let destroyed ← attempted .destroy
  match destroyed with
  | .error e => pure (⟨false, some e.described⟩, false)
  | .ok _ =>
    if ctx.confirmCleanup then do
      let confirmed ← attempted .confirmCleanup
      match confirmed with
      | .error e => pure (⟨false, some e.described⟩, false)
      | .ok _ => pure (⟨true, none⟩, true)
    else pure (⟨true, none⟩, false)

/-- The suite's error with an unresolved cleanup noted. -/
def annotated (teardown : SandboxTeardown) (suiteError : Thrown) : Thrown :=
  if teardown.completed then suiteError
  else
    let diagnostic := teardown.diagnostic.getD "no successful destroy acknowledgement"
    let cleanupFailure := s!"Cleanup unresolved: {diagnostic}"
    failure runtime (match suiteError with
      | .undefined => cleanupFailure
      | other => s!"{other.described}; {cleanupFailure}")

def captureCost (teardown : SandboxTeardown) : Work CostRecord :=
  match ctx.sandboxId with
  | none => pure (.missing none "provider_api_error" "ComputeSDK sandboxId is unavailable.")
  | some sandboxId => do
    let returned ← attempted (.captureAfterTeardown sandboxId teardown)
    match returned with
    | .ok (some document) => pure (.captured document)
    | .ok none => pure (.missing (some sandboxId) "invalid_provider_response"
        "Provider response failed structural or requested-cell binding validation.")
    | .error e =>
      pure (.missing (some sandboxId) "provider_api_error" (runtime.sanitizeEvidenceDetail e))

/-- The error of persisting evidence after the cost record; a suite error keeps it back. -/
def persistCost (teardown : SandboxTeardown) (suiteError evidenceError : Thrown) : Work Thrown :=
  if ctx.costEvidence then do
    let record ← captureCost runtime ctx teardown
    let written ← attempted (.writeProviderCostEvidence record)
    match written with
    | .ok _ => pure evidenceError
    | .error e => if suiteError = .undefined then pure e else pure evidenceError
  else pure evidenceError

/-- The two errors that reach the exit, the error of persisting evidence thrown first. -/
def exit (suiteError evidenceError : Thrown) : Work Unit :=
  if evidenceError ≠ .undefined then throw evidenceError
  else if suiteError.truthy then do
    stage (.writeGapMarker .failed suiteError.described suiteError.gapCause)
    throw suiteError
  else pure ()

def primaryFailure (suiteError : Thrown) : Option String :=
  if suiteError = .undefined then none else some suiteError.described

/-- The `finally` and what follows it. -/
def finish (suiteError : Thrown) : Work Unit := do
  let execution ← attempted (.writeExecution ctx.sandboxId (primaryFailure suiteError))
  let (teardown, confirmedAbsent) ← tearDown ctx
  let suiteError := annotated runtime teardown suiteError
  let cleanup ← attempted (.writeCleanup teardown confirmedAbsent)
  let evidenceError := match thrownBy execution with
    | .undefined => thrownBy cleanup
    | first => first
  let evidenceError ← persistCost runtime ctx teardown suiteError evidenceError
  exit suiteError evidenceError

/-- `suiteError` after the `try` and its `catch`. -/
def caught : Except Thrown Thrown → Thrown
  | .ok recorded => recorded
  | .error e => e

def runSuiteWork : Work Unit := do
  let outcome ← captured (runStages runtime ctx)
  finish runtime ctx (caught outcome)

end

end SuiteWork
