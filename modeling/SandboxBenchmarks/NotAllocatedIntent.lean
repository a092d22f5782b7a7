import SandboxBenchmarks.CleanupRecoverySafety
import SandboxBenchmarks.SuiteContract
import SandboxBenchmarks.WorkflowExperiment

/-!
# Recovering an intent that allocated nothing

`recoverNotAllocatedIntent` of `apps/cli/src/lib/not-allocated-intent-recovery.ts`
and `pre-create-stop.ts`: the texts with which the executor stops a cell before its
create are the proof that a lost release may be replayed.
-/

namespace NotAllocatedIntent

open AccountJournal AccountRecovery Checks ExperimentRecords Interaction PlanVerification
open CleanupRecovery (between Inert inert_awaiting inert_throwIfAborted)
open SuiteContract (includes)
open WorkflowExperiment (quotaDomain)

/-! ### Stops before a create -/

def startupDeadlineBeforeCreate : String := "startup deadline exceeded before create"

def admissionPrefix : String := "account "

def admissionMiddle : String := " admission stopped after "

def admissionSuffix : String := ": allocation ownership or journal release remains unresolved"

/-- The text before its own check. -/
def stopDetail (account cellId : String) : String :=
  admissionPrefix ++ account ++ admissionMiddle ++ cellId ++ admissionSuffix

/-- `ADMISSION_STOPPED.exec(detail)`: an identity has no blank, so the first one ends the account. -/
def admissionStopped (detail : String) : Option (String × String) := do
  let inner ← between admissionPrefix.toList admissionSuffix.toList detail.toList
  let account := inner.takeWhile (· != ' ')
  let rest := inner.dropWhile (· != ' ')
  if admissionMiddle.toList.isPrefixOf rest then
    some (String.ofList account, String.ofList (rest.drop admissionMiddle.toList.length))
  else none

/-- True only for the executor's own stops, not for a create the vendor may have accepted. -/
def isPreCreateStopDetail (detail : String) : Bool :=
  detail == startupDeadlineBeforeCreate ||
    (admissionStopped detail).any fun ids => evidenceIdentifier ids.1 && evidenceIdentifier ids.2

def admissionStoppedDetail (account cellId : String) : Except String String := do
  let detail := stopDetail account cellId
  throwIf (isPreCreateStopDetail detail = false) "invalid admission-stop identity"
  return detail

/-! ### The texts are exactly the executor's own -/

theorem between_append (before inner after : List Char) :
    between before after (before ++ (inner ++ after)) = some inner := by
  have whole : after <:+ before ++ (inner ++ after) :=
    (List.suffix_append inner after).trans (List.suffix_append before _)
  have kept : (before ++ (inner ++ after)).length - after.length = (before ++ inner).length := by
    simp only [List.length_append]
    omega
  rw [between, List.isPrefixOf_iff_prefix.mpr (List.prefix_append _ _),
    List.isSuffixOf_iff_suffix.mpr whole, kept, ← List.append_assoc, List.take_left,
    List.drop_left]
  rfl

theorem eq_of_between {before inner after text : List Char} (inside : inner ≠ [])
    (found : between before after text = some inner) : text = before ++ (inner ++ after) := by
  unfold between at found
  split at found
  · rename_i ends
    rw [Bool.and_eq_true, List.isPrefixOf_iff_prefix, List.isSuffixOf_iff_suffix] at ends
    obtain ⟨⟨rest, rfl⟩, start, same⟩ := ends
    obtain rfl := Option.some.inj found
    have long : before.length < (before ++ rest).length - after.length := by
      by_contra short
      exact inside (List.drop_eq_nil_of_le ((List.length_take_le _ _).trans (by omega)))
    have cut : start.length = (before ++ rest).length - after.length := by
      have := congrArg List.length same
      rw [List.length_append] at this
      omega
    have head : (before ++ rest).take start.length = start := by
      rw [← same, List.take_left]
    rw [← cut, head]
    have begins : before <+: start := by
      refine List.prefix_of_prefix_length_le (List.prefix_append before rest) ⟨after, same⟩ ?_
      omega
    obtain ⟨middle, rfl⟩ := begins
    rw [List.drop_left, ← same, List.append_assoc]
  · cases found

theorem no_blank {id : String} (valid : evidenceIdentifier id = true) :
    ∀ c ∈ id.toList, (c != ' ') = true := by
  unfold evidenceIdentifier at valid
  cases chars : id.toList with
  | nil => simp
  | cons first rest =>
    rw [chars] at valid
    simp only [Bool.and_eq_true, List.all_eq_true] at valid
    have clear : ∀ c : Char, c = ' ' → c.isAlphanum = false := by
      rintro c rfl
      decide
    intro c member
    rw [bne_iff_ne]
    intro blank
    have plain := clear c blank
    rcases List.mem_cons.mp member with rfl | member
    · rw [plain] at valid
      exact Bool.noConfusion valid.1
    · have allowed := valid.2 c member
      subst blank
      revert allowed
      decide

theorem admissionStopped_stopDetail {account : String} (cellId : String)
    (valid : evidenceIdentifier account = true) :
    admissionStopped (stopDetail account cellId) = some (account, cellId) := by
  have middle : admissionMiddle.toList = ' ' :: "admission stopped after ".toList := by decide
  have split : (stopDetail account cellId).toList = admissionPrefix.toList ++
      ((account.toList ++ (admissionMiddle.toList ++ cellId.toList)) ++ admissionSuffix.toList) := by
    simp [stopDetail]
  have taken : (account.toList ++ (admissionMiddle.toList ++ cellId.toList)).takeWhile (· != ' ') =
      account.toList := by
    rw [List.takeWhile_append_of_pos (no_blank valid), middle]
    simp
  have dropped : (account.toList ++ (admissionMiddle.toList ++ cellId.toList)).dropWhile (· != ' ') =
      admissionMiddle.toList ++ cellId.toList := by
    rw [List.dropWhile_append_of_pos (no_blank valid), middle]
    simp
  simp only [admissionStopped, split, between_append, Option.bind_eq_bind, Option.bind_some, taken,
    dropped, List.isPrefixOf_iff_prefix.mpr (List.prefix_append _ _), if_true, List.drop_left,
    String.ofList_toList]

theorem stopDetail_of_admissionStopped {detail account cellId : String}
    (found : admissionStopped detail = some (account, cellId)) :
    detail = stopDetail account cellId := by
  simp only [admissionStopped, Option.bind_eq_bind, Option.bind_eq_some_iff] at found
  obtain ⟨inner, within, rest⟩ := found
  split at rest
  · rename_i follows
    rw [List.isPrefixOf_iff_prefix] at follows
    obtain ⟨tail, same⟩ := follows
    rw [← same, List.drop_left, Option.some.injEq, Prod.mk.injEq] at rest
    obtain ⟨rfl, rfl⟩ := rest
    have pieces : inner = inner.takeWhile (· != ' ') ++ (admissionMiddle.toList ++ tail) := by
      rw [same]
      exact List.takeWhile_append_dropWhile.symm
    have inside : inner ≠ [] := by
      rintro rfl
      simp [admissionMiddle] at same
    have whole := eq_of_between inside within
    rw [← String.toList_inj, whole, pieces]
    simp only [stopDetail, String.toList_append, String.toList_ofList, ← pieces,
      List.append_assoc]
  · cases rest

/-- Recovery takes for a stop exactly what the executor writes for one. -/
theorem isPreCreateStopDetail_iff (detail : String) :
    isPreCreateStopDetail detail = true ↔ detail = startupDeadlineBeforeCreate ∨
      ∃ account cellId, evidenceIdentifier account = true ∧ evidenceIdentifier cellId = true ∧
        detail = stopDetail account cellId := by
  simp only [isPreCreateStopDetail, Bool.or_eq_true, beq_iff_eq, Option.any_eq_true,
    Bool.and_eq_true, Prod.exists]
  refine or_congr_right (exists_congr fun account => exists_congr fun cellId => ?_)
  constructor
  · rintro ⟨found, hAccount, hCell⟩
    exact ⟨hAccount, hCell, stopDetail_of_admissionStopped found⟩
  · rintro ⟨hAccount, hCell, rfl⟩
    exact ⟨admissionStopped_stopDetail cellId hAccount, hAccount, hCell⟩

/-! ### The recovery -/

/-- A failure marker as its schema accepts it. -/
structure CreateFailureMarker where
  provider : String
  suite : String
  reason : String
  detail : String
deriving DecidableEq, Repr

def createFailurePrefix : String := "Failed to create sandbox: "

def ambiguousCreate : String :=
  "original evidence does not prove create never started; do not append a not-allocated release for an ambiguous or vendor create"

/-- What `readExperimentAttempt` and the walk over `raw` return; each file of a marker is parsed, and
`none` when its schema refuses it. -/
structure Sources where
  read : Except String AttemptWithRun
  markers : Except String (List (Except String (Option CreateFailureMarker)))

/-- The attempt left nothing that a started create would have left. -/
def provesNothing (attempt : AttemptWithRun) : Bool :=
  let evidence := attempt.evidence
  evidence.outcome == .failed && !evidence.measurementStarted && evidence.cleanup == .notAllocated &&
    evidence.rawDigest.isSome && attempt.execution.isNone && attempt.cleanup.isNone

/-- The cell names the provider, the suite and a replicate. -/
def namesCell (marker : CreateFailureMarker) (cellId : String) : Bool :=
  let start := s!"{marker.provider}-{marker.suite}-r"
  start.toList.isPrefixOf cellId.toList &&
    workflowRunText (String.ofList (cellId.toList.drop start.toList.length))

/-- The marker is the executor's own stop, and the diagnostic carries it. -/
def provesStop (marker : CreateFailureMarker) (evidence : ExperimentAttempt) : Bool :=
  isPreCreateStopDetail marker.detail && marker.reason == createFailurePrefix ++ marker.detail &&
    evidence.diagnostic.any fun diagnostic => includes diagnostic marker.detail

def soleMarker (sources : Sources) : Except String CreateFailureMarker := do
  match ← sources.markers with
  | [marker] => require (← marker) ambiguousCreate
  | _ => throw ambiguousCreate

/-- Everything that is decided before the journal is read. -/
def provenStop (sources : Sources) : Except String (ExperimentAttempt × CreateFailureMarker) := do
  let attempt ← sources.read
  throwIf (attempt.allocation.isSome = true)
    "attempt retains allocation.json; recover with recover-allocated-intent"
  throwIf (provesNothing attempt = false) "attempt does not prove create never started"
  let marker ← soleMarker sources
  throwIf (namesCell marker attempt.evidence.cellId = false) "recovery marker identity mismatch"
  throwIf (provesStop marker attempt.evidence = false) ambiguousCreate
  return (attempt.evidence, marker)

section
variable (clock : Clock)

/-- `readIntent` -/
def readIntent (account : String) (evidence : ExperimentAttempt) : Recovering AccountRecord := do
  let read ← withinSignal (.read account)
  computed (forM read (assertRecord clock))
  let records := ofAttempt evidence.id read
  computed (throwIf (records.any (fun record => record.kind == .allocated) = true)
    "journal already records an allocation; recover with recover-allocated-intent")
  let error := "recovery requires a matching unresolved intent without a release"
  let intent ← computed (require records.head? error)
  computed (throwIf (records.length ≠ 1 ∨ intent.kind ≠ .intent ∨ intent.account ≠ account ∨
    intent.cellId ≠ evidence.cellId ∨ intent.planDigest ≠ evidence.planDigest) error)
  return intent

/-- `{ ...intent, kind: "released", outcome: "not-allocated" }` -/
def notAllocatedRecord (intent : AccountRecord) : AccountRecord :=
  { intent with body := .notAllocated }

/-- Replay a lost release of an attempt that never asked its vendor for anything. -/
def recoverNotAllocatedIntent (sources : Sources) : Recovering String := do
  let (evidence, marker) ← computed (provenStop sources)
  let account := quotaDomain marker.provider
  let _ ← readIntent clock account evidence
  awaiting (.assertQuiescent evidence.workflowRun evidence.sha)
  let intent ← readIntent clock account evidence
  awaiting (.assertQuiescent evidence.workflowRun evidence.sha)
  throwIfAborted
  throwIfAborted
  throwIfAborted
  computed (assertRecord clock (notAllocatedRecord intent))
  awaiting (.append (notAllocatedRecord intent))
  return evidence.id

end

/-! ### It continues the story of its attempt -/

section
variable {clock : Clock} {account : String} {s : Site}

theorem maintains_readIntent (name : String) (evidence : ExperimentAttempt) :
    Maintains (served clock account) (Careful account)
      (fun t r => t.held = s.held ∧ ∀ intent, r = .ok intent → intent.account = name ∧
        (name = account → intent = (provenanceOf account evidence).record .intent ∧
          ofAttempt evidence.id s.held = [(provenanceOf account evidence).record .intent]))
      (readIntent clock name evidence) s := by
  rw [readIntent]
  refine (answered_withinSignal lenient_careful rfl).bind (fun t e h => ⟨h.held, nofun⟩) ?_
  intro t records read
  refine maintains_computed_bind (fun e _ => ⟨read.held, nofun⟩) fun _ _ => ?_
  refine maintains_computed_bind (fun e _ => ⟨read.held, nofun⟩) fun _ _ => ?_
  refine maintains_computed_bind (fun e _ => ⟨read.held, nofun⟩) fun intent first => ?_
  refine maintains_computed_bind (fun e _ => ⟨read.held, nofun⟩) fun _ checked => ?_
  simp only [throwIf_eq_ok, not_or, not_not] at checked
  obtain ⟨sole, kind, owner, cell, plan⟩ := checked
  refine ⟨read.held, ?_⟩
  rintro _ ⟨⟩
  refine ⟨owner, ?_⟩
  rintro rfl
  obtain rfl : records = s.held := (read.effect records rfl).2 rfl records rfl
  rw [require_eq_ok] at first
  have kinds : (ofAttempt evidence.id s.held).map AccountRecord.kind = [.intent] := by
    obtain ⟨only, whole⟩ := List.length_eq_one_iff.mp sole
    rw [whole, List.head?_cons, Option.some.injEq] at first
    rw [whole, List.map_singleton, first, kind]
  have matching : Matches evidence [.intent] s.held intent := ⟨kinds, first, kind, cell, plan⟩
  have itself := matching.sole
  rwa [owner] at itself

theorem maintains_append {record : AccountRecord}
    (careful : Careful account s (.await (.append record))) :
    Maintains (served clock account) (Careful account) (fun _ _ => True)
      (awaiting (.append record)) s := by
  rw [awaiting, maintains_question]
  exact ⟨careful, fun _ _ _ => trivial⟩

theorem maintains_recoverNotAllocatedIntent (sources : Sources) :
    Maintains (served clock account) (Careful account) (fun _ _ => True)
      (recoverNotAllocatedIntent clock sources) s := by
  rw [recoverNotAllocatedIntent]
  refine maintains_computed_bind (fun _ _ => trivial) ?_
  rintro ⟨evidence, marker⟩ -
  refine (maintains_readIntent _ _).bind (fun _ _ _ => trivial) fun t _ _ => ?_
  refine (inert_awaiting rfl t).bind (fun _ _ _ => trivial) fun u _ _ => ?_
  refine (maintains_readIntent _ _).bind (fun _ _ _ => trivial) ?_
  rintro v intent ⟨same, told⟩
  obtain ⟨owner, intended⟩ := told intent rfl
  refine (inert_awaiting rfl v).bind (fun _ _ _ => trivial) fun w _ quiescent => ?_
  refine (inert_throwIfAborted w).bind (fun _ _ _ => trivial) fun x _ first => ?_
  refine (inert_throwIfAborted x).bind (fun _ _ _ => trivial) fun y _ second => ?_
  refine (inert_throwIfAborted y).bind (fun _ _ _ => trivial) fun z _ third => ?_
  refine maintains_computed_bind (fun _ _ => trivial) fun _ _ => ?_
  have held : z.held = u.held :=
    Eq.trans third (Eq.trans second (Eq.trans first (Eq.trans quiescent same)))
  refine (maintains_append (careful_append fun ours => ?_)).bind (fun _ _ _ => trivial)
    fun _ _ _ => trivial
  obtain ⟨itself, sole⟩ := intended (owner.symm.trans ours)
  rw [itself, held]
  exact continues_of_story (provenanceOf account evidence) [.intent] sole .notAllocated

end

end NotAllocatedIntent
