import Mathlib.Data.String.Basic
import Mathlib.Tactic.Common

/-!
# What drivers and the harness share

The references, artifacts and errors of `packages/driver/src/lib/port.ts` and
`errors.ts`. Error objects are values here, so the mark that a create may be retried
is a field of the error that carries it.
-/

namespace DriverPort

structure SandboxRef where
  provider : String
  id : String
deriving DecidableEq, Repr

inductive ResolvedArtifact
  | none
  | image (ref : String)
  | baked (ref : String)
  | mirror (ref : String)
  | built (ref : String)
deriving DecidableEq, Repr

def ResolvedArtifact.kind : ResolvedArtifact → String
  | none => "none"
  | image _ => "image"
  | baked _ => "baked"
  | mirror _ => "mirror"
  | built _ => "built"

def ResolvedArtifact.ref : ResolvedArtifact → String
  | none => ""
  | image ref | baked ref | mirror ref | built ref => ref

inductive DriverErrorCode
  | invalidSandboxRef | invalidCreateRequest | missingCredentials | artifactMismatch
  | useAfterDestroy | vendorContractViolation | createFailed | readinessTimeout
  | vendorOutputUnparseable | execFailed | filesystemFailed | probeFailed | snapshotFailed
  | invalidExecOptions | destroyFailed
deriving DecidableEq, Repr

structure DriverError where
  code : DriverErrorCode
  message : String
  provider : Option String := none
  ref : Option SandboxRef := none
  vendorMessage : Option String := none
  vendorExitCode : Option ℤ := none
  vendorHttpStatus : Option ℤ := none
  /-- The error is in `retryableCreates`. -/
  marked : Bool := false
deriving DecidableEq, Repr

def DriverError.retryable (error : DriverError) : Bool :=
  error.code = .createFailed && error.marked

def markRetryableDriverCreate (error : DriverError) : DriverError :=
  if error.code = .createFailed then { error with marked := true } else error

def isRetryableDriverCreate (error : DriverError) : Bool :=
  error.code = .createFailed && (error.retryable || error.vendorHttpStatus = some 429)

/-- Where an allocation can be found again. -/
inductive Locator
  | name (value : String)
  | id (value : String)
  | marker (key value : String)
  | nativeHandle
  | cleanupCallback
deriving DecidableEq, Repr

end DriverPort
