import SandboxBenchmarks.GapMarkers
import SandboxBenchmarks.Library.JsonPretty

/-!
# The round trip of gap markers

The writer's half of `packages/schema/src/raw-files.ts`: the names and the texts of the
markers of a whole suite, and what `parseGapMarker` makes of them and of any other text.
-/

namespace GapMarkers

open JsonText RunModel
open ExperimentRecords (texts)
open PlanVerification (optionalField strings natural)

/-! ### The writer -/

def skipMarkerFile (name : String) : String := name ++ skipSuffix

def failureMarkerFile (name : String) : String := name ++ failureSuffix

def sandboxResultName (provider suite : String) : String := s!"sandbox-{provider}-{suite}"

def sandboxSkipMarkerFile (provider suite : String) : String :=
  skipMarkerFile (sandboxResultName provider suite)

def sandboxFailureMarkerFile (provider suite : String) : String :=
  failureMarkerFile (sandboxResultName provider suite)

def sandboxGapMarkerFile (provider suite : String) (outcome : GapOutcome) : String :=
  if outcome = .failed then sandboxFailureMarkerFile provider suite
  else sandboxSkipMarkerFile provider suite

/-- A cause as an object, with its keys in some order. -/
structure CauseObject where
  cause : GapCause
  fields : List (String × Value)
  keys : fields.Perm cause.fields

/-- The fields of a marker. A cause on the other side than the outcome is not written. -/
def markerFields (provider suite : String) (outcome : GapOutcome) (reason : String)
    (cause : Option CauseObject) : List (String × Value) :=
  let matching := cause.filter (fun object => gapOutcomeOfCause object.cause = outcome)
  [("provider", .str provider), ("suite", .str suite), ("outcome", .str outcome.text),
    ("reason", .str reason)] ++ optionalField "cause" (matching.map fun object => .obj object.fields)

def harnessGapMarkerJson (numbers : NumberText) (provider suite : String) (outcome : GapOutcome)
    (reason : String) (cause : Option CauseObject) : List Char :=
  pretty numbers 0 (.obj (markerFields provider suite outcome reason cause)) ++ ['\n']

/-- The marker of a file of this text. -/
def readGapMarker (numbers : NumberCodec) (filename : String) (text : List Char)
    (providerId : String) : Option ResultGap :=
  parseGapMarker filename (parse numbers text) providerId

/-! ### Causes -/

/-- What the schema asks of a cause. -/
def Accepted (cause : GapCause) : Prop :=
  (gapCauseSchema cause && (RunSchema.checkCause cause).isOk) = true

instance (cause : GapCause) : Decidable (Accepted cause) :=
  inferInstanceAs (Decidable (_ = true))

theorem mapM_string? (l : List String) : (l.map Value.str).mapM Value.string? = some l := by
  induction l with
  | nil => rfl
  | cons s l ih =>
    rw [List.map_cons, List.mapM_cons, ih]
    rfl

theorem array?_strings (l : List String) : (strings l).array? Value.string? = some l :=
  mapM_string? l

theorem integer?_integer (z : ℤ) : (integer z).integer? = some z := by
  simp [integer, Value.integer?, Value.number?]

theorem natural?_natural (k : ℕ) : (natural k).natural? = some k := by
  simp [natural, Value.natural?, Value.integer?, Value.number?]

theorem gapCauseArm_congr {fields fields' : List (String × Value)}
    (same : ∀ key, Keyed.get? fields key = Keyed.get? fields' key) (kind : String) :
    gapCauseArm fields kind = gapCauseArm fields' kind := by
  unfold gapCauseArm
  simp only [required, JsonText.optional, same]

theorem parsedCause_congr {fields fields' : List (String × Value)}
    (same : ∀ key, Keyed.get? fields key = Keyed.get? fields' key) :
    parsedCause (.obj fields) = parsedCause (.obj fields') := by
  have arms : gapCauseArm fields = gapCauseArm fields' := funext (gapCauseArm_congr same)
  simp only [parsedCause, Value.fields?, Option.bind_eq_bind, Option.bind_some, required, same, arms]

/-- The arm that a cause's own kind names reads the cause back. -/
theorem gapCauseArm_fields (cause : GapCause) :
    gapCauseArm cause.fields cause.kind = some cause := by
  cases cause with
  | diskShortfall freeGb requiredGb => rfl
  | missingCredentials variableNames =>
    simp [GapCause.kind, GapCause.fields, gapCauseArm, required, Keyed.get?, array?_strings]
  | sandboxCreateFailed detail =>
    cases detail <;> rfl
  | sandboxLost step consecutivePollFailures =>
    cases consecutivePollFailures with
    | none => rfl
    | some k =>
      simp [GapCause.kind, GapCause.fields, gapCauseArm, required, JsonText.optional, optionalField,
        Keyed.get?, natural?_natural, Value.string?]
  | stepTimeout step timeoutSeconds => rfl
  | stepFailed step exitCode =>
    cases exitCode with
    | none => rfl
    | some code =>
      simp [GapCause.kind, GapCause.fields, gapCauseArm, required, JsonText.optional, optionalField,
        Keyed.get?, integer?_integer, Value.string?]
  | metricsUnrecorded metricIds declared =>
    simp [GapCause.kind, GapCause.fields, gapCauseArm, required, Keyed.get?, array?_strings,
      natural?_natural]
  | duplicateValueDedup metricIds =>
    simp [GapCause.kind, GapCause.fields, gapCauseArm, required, Keyed.get?, array?_strings]
  | unsupportedOperation detail => cases detail <;> rfl
  | measurementDisabled detail => cases detail <;> rfl

theorem get?_kind (cause : GapCause) : Keyed.get? cause.fields "kind" = some (.str cause.kind) := by
  cases cause with
  | diskShortfall freeGb requiredGb => rfl
  | missingCredentials variableNames => rfl
  | sandboxCreateFailed detail => cases detail <;> rfl
  | sandboxLost step consecutivePollFailures => cases consecutivePollFailures <;> rfl
  | stepTimeout step timeoutSeconds => rfl
  | stepFailed step exitCode => cases exitCode <;> rfl
  | metricsUnrecorded metricIds declared => rfl
  | duplicateValueDedup metricIds => rfl
  | unsupportedOperation detail => cases detail <;> rfl
  | measurementDisabled detail => cases detail <;> rfl

theorem parsedCause_fields (cause : GapCause) :
    parsedCause (.obj cause.fields) = if Accepted cause then some cause else none := by
  simp only [parsedCause, Value.fields?, Option.bind_eq_bind, Option.bind_some, required, get?_kind,
    Value.string?, gapCauseArm_fields]
  rfl

theorem nodup_fields (cause : GapCause) : (cause.fields.map Prod.fst).Nodup := by
  cases cause with
  | diskShortfall freeGb requiredGb => simp [GapCause.fields]
  | missingCredentials variableNames => simp [GapCause.fields]
  | sandboxCreateFailed detail => cases detail <;> simp [GapCause.fields, texts, optionalField]
  | sandboxLost step consecutivePollFailures =>
    cases consecutivePollFailures <;> simp [GapCause.fields, optionalField]
  | stepTimeout step timeoutSeconds => simp [GapCause.fields]
  | stepFailed step exitCode => cases exitCode <;> simp [GapCause.fields, optionalField]
  | metricsUnrecorded metricIds declared => simp [GapCause.fields]
  | duplicateValueDedup metricIds => simp [GapCause.fields]
  | unsupportedOperation detail => cases detail <;> simp [GapCause.fields, texts, optionalField]
  | measurementDisabled detail => cases detail <;> simp [GapCause.fields, texts, optionalField]

theorem merged_strings (l : List String) : merged (strings l) = strings l := by
  rw [strings, merged, mergedItems_eq_map, List.map_map]
  rfl

/-- No field of a cause holds a repeated key. -/
theorem merged_fields (cause : GapCause) : ∀ field ∈ cause.fields, merged field.2 = field.2 := by
  cases cause with
  | diskShortfall freeGb requiredGb => simp [GapCause.fields, merged]
  | missingCredentials variableNames => simp [GapCause.fields, merged, merged_strings]
  | sandboxCreateFailed detail =>
    cases detail <;> simp [GapCause.fields, texts, optionalField, merged]
  | sandboxLost step consecutivePollFailures =>
    cases consecutivePollFailures <;> simp [GapCause.fields, optionalField, natural, merged]
  | stepTimeout step timeoutSeconds => simp [GapCause.fields, merged]
  | stepFailed step exitCode =>
    cases exitCode <;> simp [GapCause.fields, optionalField, integer, merged]
  | metricsUnrecorded metricIds declared => simp [GapCause.fields, natural, merged, merged_strings]
  | duplicateValueDedup metricIds => simp [GapCause.fields, merged, merged_strings]
  | unsupportedOperation detail =>
    cases detail <;> simp [GapCause.fields, texts, optionalField, merged]
  | measurementDisabled detail =>
    cases detail <;> simp [GapCause.fields, texts, optionalField, merged]

theorem merged_obj {fields : List (String × Value)} (nodup : (fields.map Prod.fst).Nodup)
    (values : ∀ field ∈ fields, merged field.2 = field.2) : merged (.obj fields) = .obj fields := by
  have same : fields.map (fun f => (f.1, merged f.2)) = fields := by
    conv_rhs => rw [← List.map_id fields]
    apply List.map_congr_left
    intro field h
    rw [values field h]
    rfl
  rw [merged, mergedFields_eq_map, same, Keyed.mapOf_of_nodup nodup]

namespace CauseObject

variable (object : CauseObject)

theorem nodup : (object.fields.map Prod.fst).Nodup :=
  (object.keys.map Prod.fst).nodup_iff.mpr (nodup_fields object.cause)

theorem merged_eq : merged (.obj object.fields) = .obj object.fields :=
  merged_obj object.nodup fun field h => merged_fields object.cause field (object.keys.mem_iff.mp h)

/-- The order of its keys does not matter to the reader of a cause. -/
theorem parsedCause_eq : parsedCause (.obj object.fields) =
    if Accepted object.cause then some object.cause else none := by
  rw [← parsedCause_fields]
  exact parsedCause_congr (Keyed.get?_of_perm object.nodup object.keys)

end CauseObject

/-! ### File names -/

theorem endsWith_append (name suffix : String) : endsWith (name ++ suffix) suffix = true := by
  rw [endsWith, List.isSuffixOf_iff_suffix, String.toList_append]
  exact List.suffix_append _ _

/-- The name of a marker ends as its outcome says, and not as the other. -/
theorem markerOutcome_sandboxGapMarkerFile (provider suite : String) (outcome : GapOutcome) :
    markerOutcome (sandboxGapMarkerFile provider suite outcome) = some outcome := by
  cases outcome with
  | failed =>
    have ends : isFailureMarkerFile (sandboxGapMarkerFile provider suite .failed) = true :=
      endsWith_append _ _
    rw [markerOutcome, if_pos ends]
  | skipped =>
    have ends : isSkipMarkerFile (sandboxGapMarkerFile provider suite .skipped) = true :=
      endsWith_append _ _
    have other : ¬ isFailureMarkerFile (sandboxGapMarkerFile provider suite .skipped) = true := by
      intro failure
      have short := List.isSuffixOf_iff_suffix.mp failure
      have long := List.isSuffixOf_iff_suffix.mp ends
      have nested := List.suffix_of_suffix_length_le short long (by decide)
      exact absurd nested (by decide)
    rw [markerOutcome, if_neg other, if_pos ends]

theorem dropEnd_append (name suffix : String) :
    dropEnd (name ++ suffix) suffix.toList.length = name := by
  rw [dropEnd, String.toList_append, List.length_append, Nat.add_sub_cancel, List.take_left,
    String.ofList_toList]

theorem suiteFromGapMarkerFilename_eq (provider suite : String) (outcome : GapOutcome) :
    suiteFromGapMarkerFilename (sandboxGapMarkerFile provider suite outcome) provider =
      orUndefined suite := by
  have named : sandboxGapMarkerFile provider suite outcome = sandboxResultName provider suite ++
      (if outcome = .failed then failureSuffix else skipSuffix) := by
    cases outcome <;> rfl
  have split : (sandboxResultName provider suite).toList =
      (s!"sandbox-{provider}-").toList ++ suite.toList := String.toList_append
  have starts : startsWith (sandboxResultName provider suite) s!"sandbox-{provider}-" = true := by
    rw [startsWith, List.isPrefixOf_iff_prefix, split]
    exact List.prefix_append _ _
  rw [suiteFromGapMarkerFilename, markerOutcome_sandboxGapMarkerFile]
  simp only [named, dropEnd_append, starts, if_true]
  rw [split, List.drop_left, String.ofList_toList]

/-! ### Reading a marker back -/

/-- What a marker keeps of a cause: one the schema accepts, on the side of the outcome. -/
def keptCause (outcome : GapOutcome) (cause : Option CauseObject) : Option GapCause :=
  (cause.map CauseObject.cause).filter fun cause =>
    gapOutcomeOfCause cause = outcome ∧ Accepted cause

theorem parse_harnessGapMarkerJson (numbers : NumberCodec) (provider suite : String)
    (outcome : GapOutcome) (reason : String) (cause : Option CauseObject) :
    parse numbers (harnessGapMarkerJson numbers.toNumberText provider suite outcome reason cause) =
      some (.obj (markerFields provider suite outcome reason cause)) := by
  rw [harnessGapMarkerJson, parse_pretty, merged_obj]
  · simp only [markerFields]
    cases cause.filter (fun object => gapOutcomeOfCause object.cause = outcome) with
    | none => simp [optionalField]
    | some object => simp [optionalField]
  · simp only [markerFields]
    cases cause.filter (fun object => gapOutcomeOfCause object.cause = outcome) with
    | none => simp [optionalField, merged]
    | some object =>
      have inner := object.merged_eq
      rw [merged, Value.obj.injEq] at inner
      simp [optionalField, merged, inner]

theorem gapOutcome?_text (outcome : GapOutcome) : gapOutcome? (.str outcome.text) = some outcome := by
  cases outcome <;> rfl

theorem gapMarkerBody_written (provider suite : String) (outcome : GapOutcome) (reason : String)
    (cause : Option Value) :
    gapMarkerBody (.obj ([("provider", .str provider), ("suite", .str suite),
      ("outcome", .str outcome.text), ("reason", .str reason)] ++ optionalField "cause" cause)) =
      some ⟨some outcome, orUndefined suite, reason, cause.bind parsedCause⟩ := by
  cases cause with
  | none =>
    simp [gapMarkerBody, Value.fields?, JsonText.optional, optionalField, Keyed.get?,
      gapOutcome?_text, Value.string?]
  | some value =>
    simp [gapMarkerBody, Value.fields?, JsonText.optional, optionalField, Keyed.get?,
      gapOutcome?_text, Value.string?]

theorem gapMarkerBody_markerFields (provider suite : String) (outcome : GapOutcome) (reason : String)
    (cause : Option CauseObject) :
    gapMarkerBody (.obj (markerFields provider suite outcome reason cause)) =
      some ⟨some outcome, orUndefined suite, reason, keptCause outcome cause⟩ := by
  rw [markerFields, gapMarkerBody_written]
  congr 2
  cases cause with
  | none => rfl
  | some object =>
    by_cases matching : gapOutcomeOfCause object.cause = outcome
    · by_cases accepted : Accepted object.cause
      · simp [keptCause, Option.filter, matching, accepted, object.parsedCause_eq]
      · simp [keptCause, Option.filter, matching, accepted, object.parsedCause_eq]
    · simp [keptCause, Option.filter, matching]

theorem matchingCause_keptCause (outcome : GapOutcome) (cause : Option CauseObject) :
    matchingCause (keptCause outcome cause) outcome = keptCause outcome cause := by
  cases kept : keptCause outcome cause with
  | none => rfl
  | some found =>
    have side := (Option.filter_eq_some_iff.mp kept).2
    simp only [decide_eq_true_eq] at side
    rw [matchingCause, Option.filter_some, side.1]
    exact if_pos (decide_eq_true rfl)

/-- What is read of a marker that the writer named and wrote. -/
theorem readGapMarker_written (numbers : NumberCodec) (provider suite : String)
    (outcome : GapOutcome) (reason : String) (cause : Option CauseObject) (reader : String) :
    readGapMarker numbers (sandboxGapMarkerFile provider suite outcome)
      (harnessGapMarkerJson numbers.toNumberText provider suite outcome reason cause) reader =
      some {
        scope := .suite
        id := (orUndefined suite <|> suiteFromGapMarkerFilename
          (sandboxGapMarkerFile provider suite outcome) reader).getD
            (sandboxGapMarkerFile provider suite outcome)
        outcome := outcome
        reason := reason
        cause := keptCause outcome cause } := by
  rw [readGapMarker, parse_harnessGapMarkerJson, parseGapMarker]
  simp only [markerOutcome_sandboxGapMarkerFile, gapMarkerBody_markerFields, Option.bind_eq_bind,
    Option.bind_some, matchingCause_keptCause]
  simp

/-! ### Any text -/

theorem outcome_of_parseGapMarker {filename providerId : String} {data : Option Value}
    {gap : ResultGap} (h : parseGapMarker filename data providerId = some gap) :
    markerOutcome filename = some gap.outcome := by
  simp only [parseGapMarker, Option.bind_eq_bind, Option.bind_eq_some_iff] at h
  obtain ⟨outcome, named, body, -, h⟩ := h
  split at h
  · cases h
  · rw [named, ← Option.some.inj h]

theorem accepted_of_parsedCause {value : Value} {cause : GapCause}
    (h : parsedCause value = some cause) : Accepted cause := by
  simp only [parsedCause, Option.bind_eq_bind, Option.bind_eq_some_iff] at h
  obtain ⟨fields, -, kind, -, parsed, -, h⟩ := h
  split at h
  · rename_i accepted
    rw [← Option.some.inj h]
    exact accepted
  · cases h

theorem cause_of_gapMarkerBody {data : Value} {body : GapMarkerBody} {cause : GapCause}
    (h : gapMarkerBody data = some body) (caused : body.cause = some cause) : Accepted cause := by
  simp only [gapMarkerBody, Option.bind_eq_bind, Option.bind_eq_some_iff, Option.pure_def,
    Option.some.injEq] at h
  obtain ⟨fields, -, _, -, _, -, _, -, _, -, _, -, _, -, rfl⟩ := h
  obtain ⟨value, -, parsed⟩ := Option.bind_eq_some_iff.mp caused
  exact accepted_of_parsedCause parsed

theorem cause_of_parseGapMarker {filename providerId : String} {data : Option Value}
    {gap : ResultGap} {cause : GapCause} (h : parseGapMarker filename data providerId = some gap)
    (caused : gap.cause = some cause) : gapOutcomeOfCause cause = gap.outcome ∧ Accepted cause := by
  simp only [parseGapMarker, Option.bind_eq_bind, Option.bind_eq_some_iff] at h
  obtain ⟨outcome, -, body, ⟨value, -, read⟩, h⟩ := h
  split at h
  · cases h
  · rw [← Option.some.inj h] at caused ⊢
    obtain ⟨held, side⟩ := Option.filter_eq_some_iff.mp caused
    exact ⟨of_decide_eq_true side, cause_of_gapMarkerBody read held⟩

/-- The fields without the cause. -/
def withoutCause (fields : List (String × Value)) : List (String × Value) :=
  fields.filter fun field => field.1 ≠ "cause"

/-- A cause that does not parse, or describes the other outcome. -/
def Unusable (outcome : GapOutcome) (cause : Value) : Prop :=
  ∀ parsed, parsedCause cause = some parsed → gapOutcomeOfCause parsed ≠ outcome

theorem get?_withoutCause (fields : List (String × Value)) {key : String} (other : key ≠ "cause") :
    Keyed.get? (withoutCause fields) key = Keyed.get? fields key := by
  induction fields with
  | nil => rfl
  | cons field fields ih =>
    obtain ⟨name, value⟩ := field
    rw [withoutCause] at ih ⊢
    by_cases named : name = "cause"
    · have apart : name ≠ key := fun same => other (same.symm.trans named)
      simp only [List.filter_cons, named, ne_eq, not_true_eq_false, decide_false,
        Bool.false_eq_true, if_false, ih, Keyed.get?]
      rw [if_neg (named ▸ apart)]
    · simp only [List.filter_cons, named, ne_eq, not_false_eq_true, decide_true, if_true,
        Keyed.get?, ih]

theorem get?_cause_withoutCause (fields : List (String × Value)) :
    Keyed.get? (withoutCause fields) "cause" = none := by
  rw [Keyed.get?_eq_none_iff]
  intro member
  obtain ⟨field, held, named⟩ := List.mem_map.mp member
  exact absurd named (of_decide_eq_true (List.mem_filter.mp held).2)

theorem optional_withoutCause {α : Type} (fields : List (String × Value)) {key : String}
    (other : key ≠ "cause") (read : Value → Option α) :
    JsonText.optional (withoutCause fields) key read = JsonText.optional fields key read := by
  rw [JsonText.optional, JsonText.optional, get?_withoutCause fields other]

theorem gapMarkerBody_withoutCause (fields : List (String × Value)) :
    gapMarkerBody (.obj (withoutCause fields)) =
      (gapMarkerBody (.obj fields)).map fun body => { body with cause := none } := by
  simp only [gapMarkerBody, Value.fields?, Option.bind_eq_bind, Option.bind_some,
    get?_cause_withoutCause, Option.bind_none, ne_eq, String.reduceEq, not_false_eq_true,
    optional_withoutCause, Option.map_bind, Function.comp_def, Option.pure_def, Option.map_some]

theorem cause_of_body {fields : List (String × Value)} {cause : Value} {body : GapMarkerBody}
    (held : Keyed.get? fields "cause" = some cause)
    (h : gapMarkerBody (.obj fields) = some body) : body.cause = parsedCause cause := by
  simp only [gapMarkerBody, Value.fields?, Option.bind_eq_bind, Option.bind_eq_some_iff,
    Option.pure_def, Option.some.injEq] at h
  obtain ⟨_, rfl, _, -, _, -, _, -, _, -, _, -, _, -, rfl⟩ := h
  rw [held, Option.bind_some]

/-- An unusable cause changes nothing: the marker reads as if it had none. -/
theorem parseGapMarker_withoutCause {filename : String} {fields : List (String × Value)}
    {cause : Value} {outcome : GapOutcome} (named : markerOutcome filename = some outcome)
    (held : Keyed.get? fields "cause" = some cause) (unusable : Unusable outcome cause)
    (providerId : String) : parseGapMarker filename (some (.obj fields)) providerId =
      parseGapMarker filename (some (.obj (withoutCause fields))) providerId := by
  simp only [parseGapMarker, named, Option.bind_eq_bind, Option.bind_some, gapMarkerBody_withoutCause]
  cases read : gapMarkerBody (.obj fields) with
  | none => rfl
  | some body =>
    have dropped : matchingCause body.cause outcome = none := by
      rw [cause_of_body held read, matchingCause]
      cases parsed : parsedCause cause with
      | none => rfl
      | some found =>
        rw [Option.filter_some]
        exact if_neg (by simpa using unusable found parsed)
    simp only [Option.map_some, Option.bind_some, dropped]
    rfl

/-! ### What the two halves keep of each other -/

/-- Markers carry all of a gap but the provider, who is told to the reader and not asked for where
the suite has a name. Of any text, the outcome is the file name's. -/
structure Agreement (numbers : NumberCodec) : Prop where
  recovers : ∀ provider suite outcome reason cause reader, suite ≠ "" →
    readGapMarker numbers (sandboxGapMarkerFile provider suite outcome)
      (harnessGapMarkerJson numbers.toNumberText provider suite outcome reason cause) reader =
      some ⟨.suite, suite, outcome, reason, keptCause outcome cause⟩
  /-- A suite without a name is read as the name of the file. -/
  unnamed : ∀ provider outcome reason cause,
    readGapMarker numbers (sandboxGapMarkerFile provider "" outcome)
      (harnessGapMarkerJson numbers.toNumberText provider "" outcome reason cause) provider =
      some ⟨.suite, sandboxGapMarkerFile provider "" outcome, outcome, reason,
        keptCause outcome cause⟩
  outcome : ∀ filename text reader gap, readGapMarker numbers filename text reader = some gap →
    markerOutcome filename = some gap.outcome
  cause : ∀ filename text reader gap cause, readGapMarker numbers filename text reader = some gap →
    gap.cause = some cause → gapOutcomeOfCause cause = gap.outcome ∧ Accepted cause
  /-- An unreadable or mismatching cause is dropped, and nothing else. -/
  dropped : ∀ filename text reader fields cause outcome,
    parse numbers text = some (.obj fields) → Keyed.get? fields "cause" = some cause →
    markerOutcome filename = some outcome → Unusable outcome cause →
    readGapMarker numbers filename text reader =
      parseGapMarker filename (some (.obj (withoutCause fields))) reader

theorem gapMarkers_agree (numbers : NumberCodec) : Agreement numbers where
  recovers provider suite outcome reason cause reader named := by
    rw [readGapMarker_written, orUndefined, if_neg named]
    rfl
  unnamed provider outcome reason cause := by
    rw [readGapMarker_written, suiteFromGapMarkerFilename_eq]
    rfl
  outcome _ _ _ _ read := outcome_of_parseGapMarker read
  cause _ _ _ _ _ read caused := cause_of_parseGapMarker read caused
  dropped filename text reader fields cause outcome parsed held named unusable := by
    rw [readGapMarker, parsed]
    exact parseGapMarker_withoutCause named held unusable reader

/-- The marker of a suite without a name is not read as one of that suite, and markers of two
providers are read as the same gap. -/
theorem marker_forgets :
    (∃ gap, readGapMarker decimalCodec (sandboxGapMarkerFile "e2b" "" .skipped)
      (harnessGapMarkerJson decimalCodec.toNumberText "e2b" "" .skipped "disk" none) "e2b" =
        some gap ∧ gap.id ≠ "") ∧
    readGapMarker decimalCodec (sandboxGapMarkerFile "e2b" "build" .failed)
      (harnessGapMarkerJson decimalCodec.toNumberText "e2b" "build" .failed "lost" none) "e2b" =
    readGapMarker decimalCodec (sandboxGapMarkerFile "daytona" "build" .failed)
      (harnessGapMarkerJson decimalCodec.toNumberText "daytona" "build" .failed "lost" none)
        "daytona" := by
  constructor
  · refine ⟨_, readGapMarker_written _ _ _ _ _ _ _, ?_⟩
    rw [suiteFromGapMarkerFilename_eq]
    decide
  · rw [readGapMarker_written, readGapMarker_written]
    rfl

end GapMarkers
