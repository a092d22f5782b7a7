import SandboxBenchmarks.Library.Interaction
import Mathlib.Data.List.Infix
import Mathlib.Data.Rat.Defs

/-!
# Promoting a validated candidate

`promoteAll` of `apps/cli/src/lib/bake/promote.ts`, over the loop of
`apps/cli/src/lib/providers-run.ts`, the validate pass of `validate-run.ts` and the
image helpers of `image.ts`. The registry, the control planes of the providers, their
credentials and the clock are the environment. What is only logged is left out.
-/

namespace Promote

open Interaction

/-! ### The provider registry -/

inductive ProviderId
  | e2b | daytonaVm | daytonaContainer | blaxel | microsandboxCloud | modalGvisor | modalVm | novita
  | namespace_ | vercel | runcloud | tama | boat | freestyle | brezel | digitalocean
deriving DecidableEq, Repr

def ProviderId.name : ProviderId → String
  | .e2b => "e2b"
  | .daytonaVm => "daytona-vm"
  | .daytonaContainer => "daytona-container"
  | .blaxel => "blaxel"
  | .microsandboxCloud => "microsandbox-cloud"
  | .modalGvisor => "modal-gvisor"
  | .modalVm => "modal-vm"
  | .novita => "novita"
  | .namespace_ => "namespace"
  | .vercel => "vercel"
  | .runcloud => "runcloud"
  | .tama => "tama"
  | .boat => "boat"
  | .freestyle => "freestyle"
  | .brezel => "brezel"
  | .digitalocean => "digitalocean"

/-- The ids of `PROVIDERS`, which are those of `DRIVERS` as well. -/
def providers : List ProviderId :=
  [.e2b, .daytonaVm, .daytonaContainer, .blaxel, .microsandboxCloud, .modalGvisor, .modalVm, .novita,
    .namespace_, .vercel, .runcloud, .tama, .boat, .freestyle, .brezel, .digitalocean]

theorem mem_providers (id : ProviderId) : id ∈ providers := by cases id <;> decide

def isDriverProviderId (id : ProviderId) : Bool := id ∈ providers

inductive ProviderArtifact
  | none
  | image
  | baked (nameSuffix : String) (nativeSnapshot : Bool)
  | mirror
  | built (recipe : String)
deriving DecidableEq, Repr

/-- `REGISTRY[id].artifact` -/
def artifact : ProviderId → ProviderArtifact
  | .e2b | .daytonaVm | .blaxel | .novita => .baked "" false
  | .daytonaContainer => .baked "-container" false
  | .freestyle => .baked "" true
  | .vercel => .mirror
  | .boat | .brezel => .none
  | .microsandboxCloud | .modalGvisor | .modalVm | .namespace_ | .runcloud | .tama | .digitalocean =>
    .image

inductive BaseImageUse
  | bakes | boots | none
deriving DecidableEq, Repr

def baseImageUse (id : ProviderId) : BaseImageUse :=
  match artifact id with
  | .baked _ nativeSnapshot => if nativeSnapshot then .none else .bakes
  | .image | .built _ => .boots
  | .none | .mirror => .none

inductive ArtifactPhase
  | candidate | version
deriving DecidableEq, Repr

def toolchainImageName : String := "sandbox-benchmarks-toolchain"

def toolchainVersion : String := "v8"

def toolchainImageRef (phase : ArtifactPhase) : String :=
  let version := "ghcr.io/starslingdev/" ++ toolchainImageName ++ ":" ++ toolchainVersion
  if phase = .candidate then version ++ "-candidate" else version

def bakedArtifactName (id : ProviderId) (phase : ArtifactPhase) : String :=
  let suffix := match artifact id with
    | .baked nameSuffix _ => nameSuffix
    | _ => ""
  let versionName := toolchainImageName ++ "-" ++ toolchainVersion ++ suffix
  if phase = .candidate then versionName ++ "-candidate" else versionName

/-- What `config` reads from the environment here. -/
structure Config where
  vercelTeamSlug : String
  vercelProjectName : String
  vercelImageCandidate : String

/-- `vercelVcrImageRefs(..).version` -/
def Config.vercelImageVersion (config : Config) : String :=
  "vcr.vercel.com/" ++ config.vercelTeamSlug ++ "/" ++ config.vercelProjectName ++ "/" ++
    toolchainImageName ++ "-vercel" ++ ":" ++ toolchainVersion

/-! ### Image references -/

/-- `text.lastIndexOf(c)` -/
def lastIndexOf (c : Char) (text : List Char) : ℤ :=
  match text.reverse.idxOf? c with
  | none => -1
  | some back => text.length - 1 - back

def imageRepo (ref : String) : String :=
  let withoutDigest := ref.toList.takeWhile (· ≠ '@')
  let lastColon := lastIndexOf ':' withoutDigest
  let lastSlash := lastIndexOf '/' withoutDigest
  String.ofList (if lastColon > lastSlash then withoutDigest.take lastColon.toNat else withoutDigest)

def imageDigest (ref : String) : String :=
  let at_ := lastIndexOf '@' ref.toList
  if at_ = -1 then "" else String.ofList (ref.toList.drop (at_.toNat + 1))

def isHexDigit (c : Char) : Bool := ('a' ≤ c && c ≤ 'f') || ('0' ≤ c && c ≤ '9')

/-- `/^sha256:[a-f0-9]{64}$/` -/
def isSha256 (digest : List Char) : Bool :=
  digest.take 7 = "sha256:".toList && digest.length = 71 && (digest.drop 7).all isHexDigit

/-- `/@sha256:[a-f0-9]{64}$/` -/
def isDigestPinned (ref : List Char) : Bool :=
  72 ≤ ref.length && (ref.drop (ref.length - 72)).take 1 = ['@'] &&
    isSha256 (ref.drop (ref.length - 71))

/-- What an inspect says: why it says nothing, or the text at `manifest.digest`, if it is one. -/
abbrev Inspection := Except String (Option String)

def digestPinnedRef (ref : String) (inspection : Option String) : Except String String :=
  match inspection with
  | some digest =>
    if isSha256 digest.toList then .ok (imageRepo ref ++ "@" ++ digest)
    else .error ("imagetools inspect returned no valid manifest digest for " ++ ref)
  | none => .error ("imagetools inspect returned no valid manifest digest for " ++ ref)

def registryManifestAbsent (stderr : String) : Bool :=
  ["no such manifest", "manifest unknown", "name_unknown", "name unknown"].any fun phrase =>
    phrase.toList <:+: stderr.toList.map Char.toLower

/-- `digest` is the one an inspect answered with, and `pinned` the reference it pins. -/
def Pins (ref digest pinned : String) : Prop := digestPinnedRef ref (some digest) = .ok pinned

/-! ### The environment -/

structure SmokeResult where
  name : String
  ok : Bool
deriving DecidableEq, Repr

structure SmokeOutcome where
  checks : List SmokeResult
  error : Option String
deriving DecidableEq, Repr

def smokeOk (outcome : SmokeOutcome) : Bool :=
  outcome.error.isNone && !outcome.checks.isEmpty && outcome.checks.all (·.ok)

def smokeFailureReason (outcome : SmokeOutcome) : String :=
  match outcome.error with
  | some error => error
  | none =>
    let failed := (outcome.checks.filter (!·.ok)).length
    toString failed ++ "/" ++ toString outcome.checks.length ++ " checks failed"

inductive Query
  /-- `performance.now()` -/
  | now
  /-- `docker manifest inspect`: its exit code and what it wrote, trimmed. -/
  | manifestInspect (ref : String)
  /-- `docker buildx imagetools inspect` -/
  | imagetoolsInspect (ref : String)
  /-- `docker buildx imagetools create` -/
  | imagetoolsCreate (target source : String)
  /-- `missingDriverEnvNames` -/
  | missing (id : ProviderId)
  /-- Whether `FREESTYLE_API_KEY` is set. -/
  | freestyleKey
  /-- `api.vms.snapshots.get` -/
  | freestyleSnapshot (name : String)
  | bootAndSmoke (id : ProviderId) (ref : Option String)
  /-- `BAKED_ARTIFACT_BUILDERS[id]` -/
  | build (id : ProviderId) (name baseImage : String)
deriving DecidableEq, Repr

abbrev Answer : Query → Type
  | .now => ℚ
  | .manifestInspect _ => Except String (ℤ × String)
  | .imagetoolsInspect _ => Inspection
  | .imagetoolsCreate _ _ => Except String Unit
  | .missing _ => List String
  | .freestyleKey => Bool
  | .freestyleSnapshot _ => Except String String
  | .bootAndSmoke _ _ => SmokeOutcome
  | .build _ _ _ => Except String (Option String)

abbrev Events := History Query Answer

abbrev Promoting (α : Type) := Attempt Query Answer String α

def resolveImageDigestRef (ref : String) : Promoting String :=
  if isDigestPinned ref.toList then pure ref
  else question (.imagetoolsInspect ref) fun (inspection : Inspection) => do
    let digest ← computed inspection
    computed (digestPinnedRef ref digest)

def imageExistsInRegistry (ref : String) : Promoting Bool :=
  question (.manifestInspect ref) fun (answer : Except String (ℤ × String)) => do
    let (code, stderr) ← computed answer
    if code = 0 then pure true
    else if registryManifestAbsent stderr then pure false
    else throw ("docker manifest inspect " ++ ref ++ " failed (exit " ++ toString code ++ "): " ++
      if stderr = "" then "unknown error" else stderr)

/-- `promoteImage(log, source, target)` -/
def promoteImage (source target : String) : Promoting Unit :=
  question (.imagetoolsCreate target source) fun (answer : Except String Unit) => computed answer

/-! ### The loop over the providers -/

inductive Status
  | ok | skipped | failed
deriving DecidableEq, Repr

structure ProviderRun (β : Type) where
  provider : ProviderId
  status : Status
  reason : Option String := none
  durationMs : Option ℚ := none
  value : Option β := none
deriving DecidableEq, Repr

def selectedProviderIds (only : Option (List ProviderId)) : Except String (List ProviderId) :=
  match only with
  | none => .ok providers
  | some [] =>
    .error ("forEachProviderWithCreds: `only` is an empty list — pass at least one provider id, " ++
      "or omit `only` to visit every registered provider")
  | some ids => .ok (providers.filter (· ∈ ids))

def targetFor (id : ProviderId) : Except String ProviderId :=
  if isDriverProviderId id then .ok id
  else .error ("forEachProviderWithCreds: " ++ id.name ++ " has no DriverModule")

section
variable {β : Type} (body : ProviderId → Promoting β) (ok : β → Bool)
  (failureReason : β → Option String)

def visit (id : ProviderId) : Promoting (ProviderRun β) :=
  match targetFor id with
  | .error reason => pure { provider := id, status := .failed, reason := some reason }
  | .ok target =>
    question (.missing target) fun (missing : List String) =>
      if missing ≠ [] then
        pure { provider := id, status := .skipped,
               reason := some ("missing " ++ ", ".intercalate missing) }
      else question .now fun (start : ℚ) => do
        match ← captured (body target) with
        | .ok value =>
          question .now fun (stop : ℚ) =>
            pure { provider := id
                   status := if ok value then .ok else .failed
                   durationMs := some (stop - start)
                   value := some value
                   reason := if ok value then none else failureReason value }
        | .error message =>
          question .now fun (stop : ℚ) =>
            pure { provider := id, status := .failed, reason := some message,
                   durationMs := some (stop - start) }

def visitAll : List ProviderId → Promoting (List (ProviderRun β))
  | [] => pure []
  | id :: ids => do
    let run ← visit body ok failureReason id
    let runs ← visitAll ids
    pure (run :: runs)

def forEachProviderWithCreds (only : Option (List ProviderId)) :
    Promoting (List (ProviderRun β)) := do
  let ids ← computed (selectedProviderIds only)
  visitAll body ok failureReason ids

end

/-! ### The validate pass -/

structure CandidateRefs where
  freestyleSnapshotCandidate : Option String
  e2bTemplateCandidate : String
  daytonaSnapshotCandidate : String
  daytonaContainerSnapshotCandidate : String
  novitaTemplateCandidate : String
  blaxelImageCandidate : String
  toolchainImageCandidate : String
  vercelImageCandidate : String

/-- The reference a candidate boots from, if it has one of its own. -/
def candidateResolvedArtifact (id : ProviderId) (refs : CandidateRefs) :
    Except String (Option String) :=
  match id with
  | .e2b => .ok (some refs.e2bTemplateCandidate)
  | .daytonaVm => .ok (some refs.daytonaSnapshotCandidate)
  | .daytonaContainer => .ok (some refs.daytonaContainerSnapshotCandidate)
  | .modalGvisor | .modalVm | .microsandboxCloud => .ok (some refs.toolchainImageCandidate)
  | .blaxel => .ok (some refs.blaxelImageCandidate)
  | .boat | .brezel => .ok none
  | .freestyle =>
    match refs.freestyleSnapshotCandidate with
    | some ref =>
      if ref = "" then .error "Freestyle candidate snapshot ID was not resolved" else .ok (some ref)
    | none => .error "Freestyle candidate snapshot ID was not resolved"
  | .novita => .ok (some refs.novitaTemplateCandidate)
  | .namespace_ | .runcloud | .digitalocean | .tama => .ok (some refs.toolchainImageCandidate)
  | .vercel => .ok (some refs.vercelImageCandidate)

def bootAndSmokeCandidate (refs : CandidateRefs) (id : ProviderId) : Promoting SmokeOutcome := do
  let ref ← computed (candidateResolvedArtifact id refs)
  question (.bootAndSmoke id ref) fun (outcome : SmokeOutcome) => pure outcome

def validateCandidates (refs : CandidateRefs) (only : Option (List ProviderId)) :
    Promoting (List (ProviderRun SmokeOutcome)) :=
  forEachProviderWithCreds (bootAndSmokeCandidate refs) smokeOk
    (fun outcome => some (smokeFailureReason outcome)) only

/-! ### The transaction -/

structure BakeReport where
  provider : String
  status : Status
  reason : Option String := none
  durationMs : Option ℚ := none
  artifactRef : Option String := none
deriving DecidableEq, Repr

structure PromoteResult where
  reports : List BakeReport
  ok : Bool
deriving DecidableEq, Repr

def isPartialScope (selection : Option (List ProviderId)) : Bool :=
  match selection with
  | none => false
  | some ids => ids.length < providers.length

/-- `only ?? PROVIDERS.map((p) => p.id)` -/
def requested (only : Option (List ProviderId)) : List ProviderId := only.getD providers

def effectivePromotionRequirements (configured : List String) (only : Option (List ProviderId)) :
    List String :=
  (configured ++ if isPartialScope only then (only.getD []).map (·.name) else []).eraseDups

def unmetRequirements (reports : List BakeReport) (required : List String) : List String :=
  let passed := (reports.filter (·.status = .ok)).map (·.provider)
  required.filter (· ∉ passed)

/-- The providers to go on with, and the reports on those left behind. -/
def promotionScopeAfterValidation (requested : List ProviderId)
    (runs : List (ProviderRun SmokeOutcome)) : List ProviderId × List BakeReport :=
  -- a later run of a provider replaces an earlier one in the map
  let run (provider : ProviderId) := runs.reverse.find? (·.provider = provider)
  let validated (provider : ProviderId) : Bool := (run provider).any (·.status = .ok)
  (requested.filter validated,
    (requested.filter (!validated ·)).map fun provider =>
      { provider := provider.name
        status := ((run provider).map (·.status)).getD .failed
        reason := ((run provider).bind (·.reason)).getD "candidate re-validation produced no result"
        durationMs := (run provider).bind (·.durationMs) })

def releaseBaseTag (isPartial : Bool) : String :=
  if isPartial then toolchainImageRef .version else toolchainImageRef .candidate

def bakesFromBase (only : Option (List ProviderId)) : List ProviderId :=
  (requested only).filter (baseImageUse · = .bakes)

def names (ids : List ProviderId) : String := ", ".intercalate (ids.map (·.name))

/-- Step 1: throws the reason to refuse. -/
def checkPublished (force : Bool) (only : Option (List ProviderId)) : Promoting Unit :=
  if force then pure ()
  else do
    let isPartial := isPartialScope only
    let version := toolchainImageRef .version
    let alreadyPublished ← mapError (fun err =>
      "could not verify whether " ++ version ++ " is published, so refusing to " ++
        (if isPartial then "backfill onto it" else "publish") ++ ": " ++ err)
      (imageExistsInRegistry version)
    if alreadyPublished ≠ isPartial then
      throw (if isPartial then
        version ++ " is not published, so there is nothing to backfill " ++
          (only.map names).getD "every provider" ++ " onto — a scoped promote adds providers to " ++
          "an existing version and never writes the base; run a full release first"
      else
        version ++ " already exists — the public version is immutable; bump the version or " ++
          "dispatch with force_republish to publish again")
    else pure ()

/-- Step 2, up to the validations: the digest of the base, or the reason to refuse. -/
def pinBaseImage (only : Option (List ProviderId)) : Promoting String := do
  let isPartial := isPartialScope only
  let baseTag := releaseBaseTag isPartial
  let candidate := toolchainImageRef .candidate
  let pinnedBaseImage ← mapError (fun err =>
    "could not resolve immutable digest for " ++ baseTag ++ ": " ++ err ++ " (nothing published)")
    (resolveImageDigestRef baseTag)
  let baking := bakesFromBase only
  if isPartial ∧ baking ≠ [] then do
    let pinnedCandidate ← mapError (fun err =>
      "could not resolve immutable digest for " ++ candidate ++ ", which " ++ names baking ++
        " bake their version artifact from: " ++ err)
      (resolveImageDigestRef candidate)
    if imageDigest pinnedCandidate ≠ imageDigest pinnedBaseImage then
      throw ("the candidate base has drifted from the published version (" ++ pinnedCandidate ++
        " vs " ++ pinnedBaseImage ++ "), so a backfill of " ++ names baking ++ " would verify one " ++
        "image and publish an artifact built from another. Bump TOOLCHAIN_VERSION and cut a full " ++
        "release")
    else pure pinnedBaseImage
  else pure pinnedBaseImage

/-- `/^sh-[A-Za-z0-9_-]+$/` -/
def isSnapshotId (id : List Char) : Bool :=
  id.take 3 = "sh-".toList && 3 < id.length &&
    (id.drop 3).all fun c => c.isAlphanum || c = '_' || c = '-'

def resolveFreestyleSnapshotId (ref : String) : Promoting String :=
  question (.freestyleSnapshot ref) fun (answer : Except String String) => do
    let id ← computed answer
    if isSnapshotId id.toList then pure id else throw "Invalid Freestyle snapshot ID"

variable (config : Config)

def candidateRefs (pinnedBaseImage : String) (snapshot : Option String) : CandidateRefs where
  freestyleSnapshotCandidate := snapshot
  e2bTemplateCandidate := bakedArtifactName .e2b .candidate
  daytonaSnapshotCandidate := bakedArtifactName .daytonaVm .candidate
  daytonaContainerSnapshotCandidate := bakedArtifactName .daytonaContainer .candidate
  novitaTemplateCandidate := bakedArtifactName .novita .candidate
  blaxelImageCandidate := bakedArtifactName .blaxel .candidate
  toolchainImageCandidate := pinnedBaseImage
  vercelImageCandidate := config.vercelImageCandidate

/-- The candidate snapshot of Freestyle; one that cannot be resolved is left to fail its validation. -/
def freestyleCandidate (only : Option (List ProviderId)) : Promoting (Option String) :=
  if .freestyle ∈ requested only then
    question .freestyleKey fun (key : Bool) =>
      if key then do
        match ← captured (resolveFreestyleSnapshotId (bakedArtifactName .freestyle .candidate)) with
        | .ok id => pure (some id)
        | .error _ => pure none
      else pure none
  else pure none

/-- Step 3 for one provider. -/
def buildVersionArtifact (pinnedBaseImage : String) (snapshot : Option String) (id : ProviderId) :
    Promoting (Option String) :=
  match artifact id with
  | .baked _ _ =>
    let baseImage := if id = .freestyle then snapshot.getD "" else pinnedBaseImage
    question (.build id (bakedArtifactName id .version) baseImage)
      fun (answer : Except String (Option String)) => computed answer
  | .mirror => do
    promoteImage config.vercelImageCandidate config.vercelImageVersion
    pure none
  | .none | .image | .built _ => pure none

def buildVersionArtifacts (pinnedBaseImage : String) (snapshot : Option String)
    (eligible : List ProviderId) : Promoting (List (ProviderRun (Option String))) :=
  if eligible = [] then pure []
  else forEachProviderWithCreds (buildVersionArtifact config pinnedBaseImage snapshot)
    (fun _ => true) (fun _ => none) (some eligible)

/-- A run as it is reported; an empty reason is none. -/
def report {β : Type} (run : ProviderRun β) (artifactRef : Option String) : BakeReport where
  provider := run.provider.name
  status := run.status
  reason := run.reason.filter (· ≠ "")
  durationMs := run.durationMs
  artifactRef := artifactRef

def blocks (required : List String) (provider : String) (status : Status) : Bool :=
  status = .failed && (required = [] || provider ∈ required)

/-- A refusal, recorded as a failure of the image. -/
def refuse (reports : List BakeReport) (reason : String) : PromoteResult where
  reports := reports ++ [{ provider := "image", status := .failed, reason := some reason }]
  ok := false

def fullPromotionResult (reports : List BakeReport) : PromoteResult where
  reports := reports
  ok := reports.any (fun report => report.provider = "image" && report.status = .ok) &&
    !reports.any (fun report => report.provider = "image" && report.status = .failed)

/-- Step 4. -/
def publish (reports : List BakeReport) (pinnedBaseImage : String) : Promoting PromoteResult :=
  question .now fun (imageStart : ℚ) => do
    match ← captured (promoteImage pinnedBaseImage (toolchainImageRef .version)) with
    | .ok () =>
      question .now fun (stop : ℚ) =>
        pure (fullPromotionResult (reports ++
          [{ provider := "image", status := .ok, durationMs := some (stop - imageStart) }]))
    | .error reason =>
      question .now fun (stop : ℚ) =>
        pure (fullPromotionResult (reports ++
          [{ provider := "image", status := .failed, reason := some reason,
             durationMs := some (stop - imageStart) }]))

/-- The required-providers gate between the artifacts and the image. -/
def commit (required : List String) (only : Option (List ProviderId)) (pinnedBaseImage : String)
    (reports : List BakeReport) : Promoting PromoteResult :=
  if reports.any (fun report => blocks required report.provider report.status) then
    pure { reports := reports, ok := false }
  else
    let unmet := unmetRequirements reports required
    if required ≠ [] ∧ unmet ≠ [] then
      pure (refuse reports ("required providers did not promote: " ++ ", ".intercalate unmet ++
        " (--require / REQUIRE_PROVIDERS)"))
    else if isPartialScope only then pure { reports := reports, ok := true }
    else publish reports pinnedBaseImage

/-- Steps 2 to 4, once the base is pinned. -/
def release (required : List String) (only : Option (List ProviderId)) (pinnedBaseImage : String) :
    Promoting PromoteResult := do
  let snapshot ← freestyleCandidate only
  let validateRuns ← validateCandidates (candidateRefs config pinnedBaseImage snapshot) only
  if validateRuns.any (fun run => blocks required run.provider.name run.status) then
    pure { reports := validateRuns.map (report · none), ok := false }
  else do
    let promotionScope := promotionScopeAfterValidation (requested only) validateRuns
    let runs ← buildVersionArtifacts config pinnedBaseImage snapshot promotionScope.1
    commit required only pinnedBaseImage
      (promotionScope.2 ++ runs.map fun run => report run (run.value.join))

/-- `configured` is what `requiredProviders()` reads from the arguments and the environment. -/
def promoteAll (configured : List String) (force : Bool) (only : Option (List ProviderId)) :
    Promoting PromoteResult := do
  let pinned ← captured do
    checkPublished force only
    pinBaseImage only
  match pinned with
  | .error reason => pure (refuse [] reason)
  | .ok pinnedBaseImage =>
    release config (effectivePromotionRequirements configured only) only pinnedBaseImage

end Promote
