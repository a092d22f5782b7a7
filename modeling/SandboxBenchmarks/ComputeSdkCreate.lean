import Mathlib.Algebra.Order.Floor.Ring
import Mathlib.Data.List.Infix
import Mathlib.Data.Rat.Floor
import SandboxBenchmarks.DriverPort
import SandboxBenchmarks.Library.CodeUnits
import SandboxBenchmarks.Library.Interaction

/-!
# Creating through a ComputeSDK wrapper

`create` of the ComputeSDK method table for a driver that declares `createRecovery`.
The wrapper, the module's callbacks, the clock and the abort signal are the
environment. A retained cleanup is named here and run by `cleanupWith`.
-/

namespace ComputeSdkCreate

open DriverPort Interaction

/-! ### Values that cross the boundary -/

/-- A cleanup that a `FailedCreateCleanupError` retains. -/
inductive Cleanup
  | reconcile (locator : Locator)
  | rollback (sandbox : ℕ) (parsedId : Option String) (locator : Locator)
  /-- One that the wrapper's own error came with. -/
  | vendor (callback : ℕ)
deriving DecidableEq, Repr

inductive Thrown
  | driver (error : DriverError)
  /-- A `ComputeSdkContractError`. -/
  | contract (error : DriverError)
  | failedCreateCleanup (provider : String) (locator : Locator) (cleanupError createError : Thrown)
    (cleanup : Cleanup)
  /-- Anything else, with its message if that is a string. -/
  | foreign (message : Option String)
deriving DecidableEq, Repr

/-- A property of an untrusted object. -/
inductive Field
  | undefined
  | text (value : String)
  | flag (value : Bool)
  | other
deriving DecidableEq, Repr

/-- What an untrusted callback gave, read field by field. -/
inductive Shape (α : Type)
  | threw
  | nonObject
  | unreadable
  | record (fields : α)
deriving DecidableEq, Repr

inductive Returned
  | nonObject
  | handle (sandbox : ℕ)
deriving DecidableEq, Repr

inductive Mapped
  /-- A coverage check or the mapper refused the request. -/
  | unsupported (detail : Option String)
  | threw
  | nonObject
  | options (options : String)
deriving DecidableEq, Repr

inductive Parsed
  | threw
  | unreadable
  /-- Schema errors with their summary, `none` when that cannot be read. -/
  | errors (summary : Option Field)
  | value (value : Field)
deriving DecidableEq, Repr

structure Hooked where
  status : Field
  detail : Field
  /-- The artifact that was reported, or why it is none. -/
  reportedArtifact : Option (Except Thrown ResolvedArtifact)

inductive Classifier
  | isDefinitive
  | isRetryableCreate
deriving DecidableEq, Repr

inductive Reply
  | yes
  | no
  | other
  | threw
deriving DecidableEq, Repr

inductive Query
  /-- `signal.aborted` -/
  | aborted
  | map
  | locator (options : String)
  | create (options : String)
  | classify (classifier : Classifier) (caught : Thrown)
  | sandboxId (sandbox : ℕ)
  | parse (boundary raw : String)
  | filesystem (sandbox : ℕ)
  | getInstance (sandbox : ℕ)
  | prepareAndVerify (sandbox : ℕ) (ref : SandboxRef)
  | destroy (sandbox : ℕ) (ref : Option SandboxRef) (locator : Locator)
  /-- One observation or removal of what the locator names. -/
  | cleanup (locator : Locator)
  | vendorCleanup (callback : ℕ)
  /-- `performance.now()` -/
  | now
  | delay (ms : ℤ)
deriving DecidableEq, Repr

abbrev Answer : Query → Type
  | .aborted => Bool
  | .map => Mapped
  | .locator _ => Shape (Field × Field × Field)
  | .create _ => Except Thrown Returned
  | .classify _ _ => Reply
  | .sandboxId _ => Shape Field
  | .parse _ _ => Parsed
  | .filesystem _ => Shape Bool
  | .getInstance _ => Bool
  | .prepareAndVerify _ _ => Except Thrown (Shape Hooked)
  | .destroy _ _ _ => Except Thrown Unit
  | .cleanup _ => Shape (Field × Field)
  | .vendorCleanup _ => Except Thrown Unit
  | .now => ℚ
  | .delay _ => Bool

abbrev Events := History Query Answer

abbrev Creating (α : Type) := Attempt Query Answer Thrown α

/-! ### The declared driver -/

/-- A number of the module: `none` when it is no safe integer. -/
structure RuntimeNumber where
  label : String
  safeInteger : Option ℤ

structure CreateRecovery where
  absenceConfirmationMs : ℕ
  maxAttempts : ℕ
  /-- Which classifiers the module declares. -/
  declares : Classifier → Bool
  positive : 0 < absenceConfirmationMs
  several : 2 ≤ maxAttempts

/-- The checks on `createRecovery` when the table is built. -/
def readRecovery (provider : String) (absenceConfirmationMs maxAttempts : RuntimeNumber)
    (declares : Classifier → Bool) : Except DriverError CreateRecovery :=
  let horizon := (absenceConfirmationMs.safeInteger.getD 0).toNat
  let attempts := (maxAttempts.safeInteger.getD 0).toNat
  let horizonLabel := absenceConfirmationMs.label
  let attemptsLabel := maxAttempts.label
  if positive : 0 < horizon then
    if several : 2 ≤ attempts then .ok ⟨horizon, attempts, declares, positive, several⟩
    else .error
      { code := .vendorContractViolation
        message := s!"computesdk createRecovery.maxAttempts must be a safe integer of at least 2, received {attemptsLabel}"
        provider := provider }
  else .error
    { code := .vendorContractViolation
      message := s!"computesdk createRecovery.absenceConfirmationMs must be a positive safe integer, received {horizonLabel}"
      provider := provider }

structure Driver where
  provider : String
  sensitiveValues : List String
  recovery : CreateRecovery
  wantsFiles : Bool
  /-- The module declares a `lifecycle`, and a post-create hook. -/
  lifecycle : Bool
  prepares : Bool
  /-- Its sandbox ids are decoded before they are canonical. -/
  transformed : Bool
  resolvedArtifact : ResolvedArtifact

structure Created where
  handle : ℕ
  sandboxRef : SandboxRef
  artifact : ResolvedArtifact
  reportedArtifact : Option ResolvedArtifact
deriving DecidableEq, Repr

variable (driver : Driver)

namespace Driver

/-! ### Errors -/

def redactKnownDiagnostic (detail : String) : String :=
  let unique := (driver.sensitiveValues.filter (· ≠ "")).eraseDups.insertionSort
    (fun left right => CodeUnits.utf16Length right ≤ CodeUnits.utf16Length left)
  unique.foldl (fun redacted value => redacted.replace value "[REDACTED]") detail

def providerCallbackFailure (operation : String) (code : DriverErrorCode) : Thrown :=
  let provider := driver.provider
  let error : DriverError :=
    { code := code
      message := s!"{provider} ComputeSDK {operation} callback failed"
      provider := provider }
  if code = .vendorContractViolation then .contract error else .driver error

def vendorContractFailure (operation detail : String) (ref : Option SandboxRef) : Thrown :=
  let redacted := driver.redactKnownDiagnostic detail
  .contract
    { code := .vendorContractViolation
      message := s!"computesdk {operation} violated its wrapper contract: {redacted}"
      provider := driver.provider
      ref := ref }

def wrapperAborted (operation : String) (code : DriverErrorCode) : Thrown :=
  let provider := driver.provider
  .driver
    { code := code
      message := s!"computesdk {operation} for {provider} was aborted"
      provider := provider }

def wrapperFailure (code : DriverErrorCode) (operation : String) (ref : Option SandboxRef) :
    Thrown → Thrown
  | .failedCreateCleanup provider locator cleanupError createError cleanup =>
    if code = .createFailed ∧ provider = driver.provider then
      .failedCreateCleanup provider locator cleanupError createError cleanup
    else
      let label := match locator with
        | .nativeHandle => "through its retained native handle"
        | .cleanupCallback => "through its retained cleanup callback"
        | .marker key value => s!"by marker {key}={value}"
        | .name value => s!"by name {value}"
        | .id value => s!"by id {value}"
      let detail := driver.redactKnownDiagnostic
        s!"failed to clean up {provider} sandbox {label} after create failure"
      .driver
        { code := code
          message := s!"computesdk {operation} failed: {detail}"
          provider := driver.provider
          ref := ref
          vendorMessage := detail }
  | .contract error => .contract error
  | .driver error => .driver
    { code := code
      message := driver.redactKnownDiagnostic error.message
      provider := driver.provider
      ref := ref
      vendorMessage := error.vendorMessage.map driver.redactKnownDiagnostic
      vendorExitCode := error.vendorExitCode
      vendorHttpStatus := error.vendorHttpStatus
      marked := code = .createFailed && isRetryableDriverCreate error }
  | .foreign message =>
    let detail := driver.redactKnownDiagnostic
      (message.getD "original diagnostic omitted to protect credentials")
    .driver
      { code := code
        message := s!"computesdk {operation} failed: {detail}"
        provider := driver.provider
        ref := ref
        vendorMessage := detail }

/-! ### Before the wrapper is called -/

/-- Only a call that was given a signal can be aborted. -/
def ifAborted (signalled : Bool) (error : Thrown) : Creating Unit :=
  if signalled then
    question .aborted fun (aborted : Bool) => if aborted then throw error else pure ()
  else pure ()

def mapCreateRequest : Creating String :=
  question .map fun (mapped : Mapped) =>
    let provider := driver.provider
    match mapped with
    | .unsupported detail =>
      let detail := driver.redactKnownDiagnostic
        (detail.getD "provider supplied no unsupported-request detail")
      throw (.driver
        { code := .invalidCreateRequest
          message := s!"{provider} cannot honor the requested sandbox shape: {detail}"
          provider := provider })
    | .threw => throw (driver.providerCallbackFailure "create-request mapper" .vendorContractViolation)
    | .nonObject => throw (.driver
        { code := .vendorContractViolation
          message := s!"{provider} create-request mapper must return an options object"
          provider := provider })
    | .options options => pure options

def locatorExposesSensitiveValue (candidate : String) : Bool :=
  driver.sensitiveValues.any (fun sensitive =>
    sensitive ≠ "" && decide (sensitive.toList <:+: candidate.toList))

/-- The locator that the module's callback gave. -/
def recoveryLocatorOf (shape : Shape (Field × Field × Field)) : Except Thrown Locator :=
  let invalid := driver.vendorContractFailure "failed-create recovery locator"
    "recovery locator must be a readable nonempty name or keyed marker" none
  match shape with
  | .threw => .error (driver.providerCallbackFailure "failed-create recovery locator"
      .vendorContractViolation)
  | .record (.text kind, .text value, key) =>
    if value = "" ∨ driver.locatorExposesSensitiveValue value then .error invalid
    else if kind = "name" then .ok (.name value)
    else if kind = "marker" then
      match key with
      | .text key =>
        if key = "" ∨ driver.locatorExposesSensitiveValue key then .error invalid
        else .ok (.marker key value)
      | _ => .error invalid
    else .error invalid
  | _ => .error invalid

def readRecoveryLocator (options : String) : Creating Locator :=
  question (.locator options) fun (shape : Shape (Field × Field × Field)) =>
    computed (driver.recoveryLocatorOf shape)

/-- Anything but an explicit yes proves nothing. -/
def classifiesCreateRejection (classifier : Classifier) (caught : Thrown) : Creating Bool :=
  if driver.recovery.declares classifier then
    question (.classify classifier caught) fun (reply : Reply) => pure (reply = .yes)
  else pure false

/-! ### Reconciling an ambiguous create -/

inductive Observation
  | destroyed
  | absent (contradictedPriorAbsence : Bool)
deriving DecidableEq, Repr

def normalizeRecoveryObservation : Shape (Field × Field) → Except Thrown Observation
  | .threw => .error (driver.providerCallbackFailure "failed-create recovery cleanup" .destroyFailed)
  | .nonObject => .error (driver.vendorContractFailure "failed-create reconciliation"
      "cleanup returned a non-object observation" none)
  | .unreadable => .error (driver.vendorContractFailure "failed-create reconciliation"
      "cleanup returned an unreadable observation" none)
  | .record (status, contradicted) =>
    if status = .text "destroyed" ∧ contradicted = .undefined then .ok .destroyed
    else if status ≠ .text "absent" then
      .error (driver.vendorContractFailure "failed-create reconciliation"
        "cleanup returned an invalid observation status" none)
    else match contradicted with
      | .undefined => .ok (.absent false)
      | .flag contradicted => .ok (.absent contradicted)
      | _ => .error (driver.vendorContractFailure "failed-create reconciliation"
          "cleanup returned an invalid contradictedPriorAbsence flag" none)

def observe (locator : Locator) : Creating Observation :=
  question (.cleanup locator) fun (shape : Shape (Field × Field)) =>
    match driver.normalizeRecoveryObservation shape with
    | .ok observation => pure observation
    | .error caught =>
      throw (driver.wrapperFailure .destroyFailed "failed-create reconciliation" none caught)

def didNotConverge : Thrown :=
  let attempts := driver.recovery.maxAttempts
  .driver
    { code := .destroyFailed
      message := s!"computesdk failed-create reconciliation did not converge after {attempts} attempts"
      provider := driver.provider }

/-- Since when absence counts, after one more observation of it. -/
def absentSince (firstAbsentAt : Option ℚ) (contradicted : Bool) (observedAt : ℚ) : ℚ :=
  if contradicted then observedAt else firstAbsentAt.getD observedAt

/-- The attempts that remain, and when absence was first observed. -/
def reconcileFrom (signalled : Bool) (locator : Locator) : ℕ → Option ℚ → Creating Unit
  | 0, _ => throw driver.didNotConverge
  | attempts + 1, firstAbsentAt => do
    ifAborted signalled (driver.wrapperAborted "failed-create reconciliation" .destroyFailed)
    match ← driver.observe locator with
    | .destroyed => pure ()
    | .absent contradictedPriorAbsence =>
      question .now fun (observedAt : ℚ) =>
        let firstAbsentAt := absentSince firstAbsentAt contradictedPriorAbsence observedAt
        let confirmationAt := firstAbsentAt + driver.recovery.absenceConfirmationMs
        if confirmationAt ≤ observedAt then pure ()
        else if attempts = 0 then throw driver.didNotConverge
        else question (.delay ⌈confirmationAt - observedAt⌉) fun (elapsed : Bool) =>
          if signalled && !elapsed then
            throw (driver.wrapperAborted "failed-create reconciliation" .destroyFailed)
          else reconcileFrom signalled locator attempts (some firstAbsentAt)

def reconcileAmbiguousCreate (signalled : Bool) (locator : Locator) : Creating Unit :=
  driver.reconcileFrom signalled locator driver.recovery.maxAttempts none

/-! ### After the wrapper was called -/

def destroySandbox (sandbox : ℕ) (ref : Option SandboxRef) (locator : Locator) : Creating Unit :=
  question (.destroy sandbox ref locator) fun (settled : Except Thrown Unit) =>
    match settled with
    | .ok () => pure ()
    | .error caught =>
      throw (if driver.lifecycle then
        driver.wrapperFailure .destroyFailed "lifecycle destroy" ref caught else caught)

/-- Cleaning up after a create that returned a handle: by its id, else by the locator. -/
def rollback (signalled : Bool) (sandbox : ℕ) (parsedId : Option String) (locator : Locator) :
    Creating Unit := do
  ifAborted signalled (driver.wrapperAborted "failed-create cleanup" .destroyFailed)
  tryCatch
    (match parsedId with
      | none => driver.reconcileAmbiguousCreate signalled locator
      | some id => driver.destroySandbox sandbox (some ⟨driver.provider, id⟩) locator)
    (fun caught => throw (driver.wrapperFailure .destroyFailed "failed-create cleanup" none caught))

/-- Running a retained cleanup again. -/
def cleanupWith (signalled : Bool) : Cleanup → Creating Unit
  | .reconcile locator => driver.reconcileAmbiguousCreate signalled locator
  | .rollback sandbox parsedId locator => driver.rollback signalled sandbox parsedId locator
  | .vendor callback =>
    question (.vendorCleanup callback) fun (settled : Except Thrown Unit) => computed settled

def rejectWithRecovery {α : Type} (signalled : Bool) (locator : Locator) : Thrown → Creating α
  | .failedCreateCleanup provider retained cleanupError createError cleanup =>
    throw (.failedCreateCleanup provider retained cleanupError createError cleanup)
  | primary => do
    tryCatch (driver.reconcileAmbiguousCreate signalled locator) fun cleanupError =>
      throw (.failedCreateCleanup driver.provider locator cleanupError primary (.reconcile locator))
    throw primary

/-- Only a `create-failed` driver error can carry the mark. -/
def mark : Thrown → Thrown
  | .driver error => .driver (markRetryableDriverCreate error)
  | .contract error => .contract (markRetryableDriverCreate error)
  | thrown => thrown

def rejected (signalled : Bool) (locator : Locator) (caught : Thrown) : Creating Created := do
  let failure := driver.wrapperFailure .createFailed "create" none caught
  let retryable ← driver.classifiesCreateRejection .isRetryableCreate caught
  let primary := if retryable then mark failure else failure
  let definitive ← driver.classifiesCreateRejection .isDefinitive caught
  if definitive then throw primary else driver.rejectWithRecovery signalled locator primary

def parseSandboxId (boundary raw : String) : Creating String :=
  question (.parse boundary raw) fun (parsed : Parsed) =>
    let provider := driver.provider
    match parsed with
    | .threw => throw (driver.providerCallbackFailure s!"{boundary} sandbox-id validator"
        .vendorContractViolation)
    | .unreadable => throw (driver.vendorContractFailure s!"{boundary} sandbox-id validator"
        "validator returned an unreadable schema result" none)
    | .errors none => throw (driver.vendorContractFailure s!"{boundary} sandbox-id validator"
        "validator returned unreadable schema diagnostics" none)
    | .errors (some (.text summary)) =>
      let detail := driver.redactKnownDiagnostic summary
      throw (.driver
        { code := .invalidSandboxRef
          message := s!"{provider} sandbox id {detail}"
          provider := provider })
    | .errors (some _) => throw (driver.vendorContractFailure s!"{boundary} sandbox-id validator"
        "validator returned non-string schema diagnostics" none)
    | .value (.text id) =>
      if id = "" then throw (.driver
        { code := .invalidSandboxRef
          message := s!"{provider} {boundary} sandbox-id validator returned an empty canonical id"
          provider := provider })
      else pure id
    | .value _ => throw (.contract
        { code := .vendorContractViolation
          message := s!"{provider} {boundary} sandbox-id validator returned a non-string canonical id"
          provider := provider })

def parseVendorSandboxId (raw : String) : Creating String := do
  let decoded ← driver.parseSandboxId "wrapper" raw
  if driver.transformed then driver.parseSandboxId "canonical" decoded else pure decoded

/-- The canonical id of a returned handle. -/
def identify (signalled : Bool) (sandbox : ℕ) : Creating String := do
  ifAborted signalled (driver.wrapperAborted "create" .createFailed)
  question (.sandboxId sandbox) fun (shape : Shape Field) =>
    match shape with
    | .record (.text id) =>
      if id = "" then throw (driver.vendorContractFailure "sandbox identity"
        "wrapper returned a sandbox without a nonempty string sandboxId" none)
      else driver.parseVendorSandboxId id
    | .record _ => throw (driver.vendorContractFailure "sandbox identity"
        "wrapper returned a sandbox without a nonempty string sandboxId" none)
    | _ => throw (driver.vendorContractFailure "sandbox identity"
        "wrapper returned an unreadable sandboxId" none)

def requireFilesystem (sandbox : ℕ) (ref : SandboxRef) : Creating Unit :=
  question (.filesystem sandbox) fun (shape : Shape Bool) =>
    match shape with
    | .record true => pure ()
    | .record false => throw (driver.vendorContractFailure "filesystem accessor"
        "wrapper declared a filesystem without every required callable method" ref)
    | _ => throw (driver.vendorContractFailure "filesystem accessor"
        "wrapper returned an unreadable filesystem" ref)

def prepareAndVerifyCreatedRequest (sandbox : ℕ) (ref : SandboxRef) :
    Creating (Option ResolvedArtifact) :=
  question (.prepareAndVerify sandbox ref) fun (settled : Except Thrown (Shape Hooked)) =>
    let operation := "created-request preparation and verification"
    let provider := driver.provider
    let failed := fun detail => driver.vendorContractFailure operation detail ref
    match settled with
    | .error caught => throw (driver.wrapperFailure .createFailed operation ref caught)
    | .ok (.record hooked) =>
      match hooked.status, hooked.detail with
      | .text "honored", .undefined => match hooked.reportedArtifact with
        | none => pure none
        | some (.ok artifact) => pure (some artifact)
        | some (.error caught) =>
          throw (driver.wrapperFailure .createFailed "created artifact observation" ref caught)
      | .text "unsupported", .text detail =>
        let shown := driver.redactKnownDiagnostic detail
        if detail = "" then throw (failed "post-create hook returned an invalid result")
        else throw (.driver
          { code := .invalidCreateRequest
            message := s!"{provider} cannot honor the requested sandbox shape: {shown}"
            provider := provider
            ref := ref })
      | _, _ => throw (failed "post-create hook returned an invalid result")
    | .ok .unreadable => throw (failed "post-create hook returned an unreadable result")
    | .ok _ => throw (failed "post-create hook returned a non-object result")

def files (sandbox : ℕ) (ref : SandboxRef) : Creating Unit :=
  if driver.wantsFiles then driver.requireFilesystem sandbox ref else pure ()

def prepared (sandbox : ℕ) (ref : SandboxRef) : Creating (Option ResolvedArtifact) :=
  if driver.prepares then driver.prepareAndVerifyCreatedRequest sandbox ref else pure none

/-- What is left to do for a handle whose id is known. -/
def attach (signalled : Bool) (sandbox : ℕ) (id : String) : Creating Created := do
  let ref : SandboxRef := ⟨driver.provider, id⟩
  driver.files sandbox ref
  question (.getInstance sandbox) fun (works : Bool) =>
    if works = false then
      throw (driver.vendorContractFailure "getInstance"
        "wrapper getInstance threw; original diagnostic omitted to protect credentials" ref)
    else do
      let reportedArtifact ← driver.prepared sandbox ref
      ifAborted signalled (driver.wrapperAborted "create" .createFailed)
      pure ⟨sandbox, ref, driver.resolvedArtifact, reportedArtifact⟩

/-- A failure after the handle was returned: the sandbox is torn down before it is reported. -/
def abandon {α : Type} (sandbox : ℕ) (parsedId : Option String) (locator : Locator)
    (primary : Thrown) : Creating α := do
  tryCatch (driver.rollback false sandbox parsedId locator) fun cleanupError =>
    throw (.failedCreateCleanup driver.provider (match parsedId with
        | none => locator
        | some id => .id id) cleanupError primary (.rollback sandbox parsedId locator))
  let retryable ← driver.classifiesCreateRejection .isRetryableCreate primary
  throw (if retryable then mark primary else primary)

def returned (signalled : Bool) (locator : Locator) : Returned → Creating Created
  | .nonObject => driver.rejectWithRecovery signalled locator (.driver
      { code := .vendorContractViolation
        message := "computesdk wrapper returned a non-object sandbox handle"
        provider := driver.provider })
  | .handle sandbox => do
    let id ← tryCatch (driver.identify signalled sandbox) (driver.abandon sandbox none locator)
    tryCatch (driver.attach signalled sandbox id) (driver.abandon sandbox (some id) locator)

/-- `create`; a signal comes with the operation options, or not. -/
def create (signalled : Bool) : Creating Created := do
  ifAborted signalled (driver.wrapperAborted "create" .createFailed)
  let options ← driver.mapCreateRequest
  let locator ← driver.readRecoveryLocator options
  question (.create options) fun (settled : Except Thrown Returned) =>
    match settled with
    | .error caught => driver.rejected signalled locator caught
    | .ok value => driver.returned signalled locator value

end Driver

end ComputeSdkCreate
