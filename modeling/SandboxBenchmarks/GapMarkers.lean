import SandboxBenchmarks.Library.JsonFields
import SandboxBenchmarks.RunSchema

/-!
# Gap markers

The file names and the marker bodies of `packages/schema/src/raw-files.ts`, with the
JSON side of `gapCauseSchema` of `run.ts`. The file name decides the outcome.
-/

namespace GapMarkers

open JsonText RunModel

/-! ### File names -/

def startsWith (text start : String) : Bool := start.toList.isPrefixOf text.toList

def endsWith (text ending : String) : Bool := ending.toList.isSuffixOf text.toList

def skipSuffix : String := "--skipped.json"

def failureSuffix : String := "--failed.json"

def isSkipMarkerFile (filename : String) : Bool := endsWith filename skipSuffix

def isFailureMarkerFile (filename : String) : Bool := endsWith filename failureSuffix

def isGapMarkerFile (filename : String) : Bool :=
  isSkipMarkerFile filename || isFailureMarkerFile filename

/-- What `.` does not match. -/
def isLineTerminator (c : Char) : Bool :=
  c == '\n' || c == '\r' || c == Char.ofNat 0x2028 || c == Char.ofNat 0x2029

/-- `/^pts_.*\.xml$/` -/
def isPtsResultFile (filename : String) : Bool :=
  let between := (filename.toList.drop 4).dropLast.dropLast.dropLast.dropLast
  startsWith filename "pts_" && endsWith filename ".xml" &&
    decide (8 ≤ filename.toList.length) && ! between.any isLineTerminator

/-- `text.slice(0, -n)` -/
def dropEnd (text : String) (n : ℕ) : String :=
  String.ofList (text.toList.take (text.toList.length - n))

/-- The outcome the suffix of a name states. -/
def markerOutcome (filename : String) : Option GapOutcome :=
  if isFailureMarkerFile filename then some .failed
  else if isSkipMarkerFile filename then some .skipped
  else none

/-- `base || undefined` -/
def orUndefined (text : String) : Option String := if text = "" then none else some text

def suiteFromGapMarkerFilename (filename providerId : String) : Option String :=
  match markerOutcome filename with
  | none => none
  | some outcome =>
    let suffix := if outcome = .failed then failureSuffix else skipSuffix
    let base := dropEnd filename suffix.toList.length
    let start := s!"sandbox-{providerId}-"
    if startsWith base start then
      orUndefined (String.ofList (base.toList.drop start.toList.length))
    else orUndefined base

/-! ### Bodies -/

def gapOutcome? : Value → Option GapOutcome
  | .str "skipped" => some .skipped
  | .str "failed" => some .failed
  | _ => none

/-- The arm of the taxonomy that a value's kind names. -/
def gapCauseArm (fields : List (String × Value)) : String → Option GapCause
  | "disk-shortfall" => do
    let freeGb ← required fields "freeGb" (·.number?)
    let requiredGb ← required fields "requiredGb" (·.number?)
    return .diskShortfall freeGb requiredGb
  | "missing-credentials" => do
    let names ← required fields "variables" (·.array? (·.string?))
    return .missingCredentials names
  | "sandbox-create-failed" => do
    let detail ← optional fields "detail" (·.string?)
    return .sandboxCreateFailed detail
  | "sandbox-lost" => do
    let step ← required fields "step" (·.string?)
    let consecutivePollFailures ← optional fields "consecutivePollFailures" (·.natural?)
    return .sandboxLost step consecutivePollFailures
  | "step-timeout" => do
    let step ← required fields "step" (·.string?)
    let timeoutSeconds ← required fields "timeoutSeconds" (·.number?)
    return .stepTimeout step timeoutSeconds
  | "step-failed" => do
    let step ← required fields "step" (·.string?)
    let exitCode ← optional fields "exitCode" (·.integer?)
    return .stepFailed step exitCode
  | "metrics-unrecorded" => do
    let metricIds ← required fields "metricIds" (·.array? (·.string?))
    let declared ← required fields "declared" (·.natural?)
    return .metricsUnrecorded metricIds declared
  | "duplicate-value-dedup" => do
    let metricIds ← required fields "metricIds" (·.array? (·.string?))
    return .duplicateValueDedup metricIds
  | "unsupported-operation" => do
    let detail ← optional fields "detail" (·.string?)
    return .unsupportedOperation detail
  | "measurement-disabled" => do
    let detail ← optional fields "detail" (·.string?)
    return .measurementDisabled detail
  | _ => none

/-- A cause this build understands; any other is no cause. -/
def parsedCause (cause : Value) : Option GapCause := do
  let fields ← cause.fields?
  let kind ← required fields "kind" (·.string?)
  let parsed ← gapCauseArm fields kind
  if gapCauseSchema parsed && (RunSchema.checkCause parsed).isOk then return parsed else none

structure GapMarkerBody where
  outcome : Option GapOutcome
  suite : Option String
  reason : String
  cause : Option GapCause
deriving DecidableEq, Repr

/-- Every body shape ever written, with the spellings of its fields unified. -/
def gapMarkerBody (data : Value) : Option GapMarkerBody := do
  let fields ← data.fields?
  let outcome ← optional fields "outcome" gapOutcome?
  let _ ← optional fields "skipped" (·.boolean?)
  let suite ← optional fields "suite" (·.string?)
  let benchmark ← optional fields "benchmark" (·.string?)
  let reason ← optional fields "reason" (·.string?)
  let skipReason ← optional fields "skip_reason" (·.string?)
  return {
    outcome := outcome
    suite := suite.bind orUndefined <|> benchmark.bind orUndefined
    reason := (reason <|> skipReason).getD "unknown"
    cause := (Keyed.get? fields "cause").bind parsedCause }

/-- A cause on the other side of the partition than the outcome is dropped. -/
def matchingCause (cause : Option GapCause) (outcome : GapOutcome) : Option GapCause :=
  cause.filter (fun cause => gapOutcomeOfCause cause = outcome)

/-- `data` is `none` where the file held no JSON. -/
def parseGapMarker (filename : String) (data : Option Value) (providerId : String) :
    Option ResultGap := do
  let outcome ← markerOutcome filename
  let body ← data.bind gapMarkerBody
  if body.outcome.any (fun stated => stated ≠ outcome) then none
  else return {
    scope := .suite
    id := (body.suite <|> suiteFromGapMarkerFilename filename providerId).getD filename
    outcome := outcome
    reason := body.reason
    cause := matchingCause body.cause outcome }

end GapMarkers
