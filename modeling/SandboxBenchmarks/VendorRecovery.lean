import SandboxBenchmarks.Polling

/-!
# Looking a marker up and tearing a sandbox down

`recoveryIds` and `destroy` of the vendor lifecycle. The control plane, the clock and
the signals are the environment; the bounds that the kit puts on single calls show in
the answers these calls get.
-/

namespace VendorRecovery

open Interaction

inductive Phase
  | pending | ready | failed | deleting | gone
deriving DecidableEq, Repr

structure VendorRecord where
  id : String
  phase : Phase
  marker : Option String
deriving DecidableEq, Repr

structure VendorPage where
  records : List VendorRecord
  next : Option String
deriving DecidableEq, Repr

inductive Thrown
  /-- A read that the kit abandoned at its own bound. -/
  | controlReadTimeout
  | readinessTimeout
  | error (message : String)
deriving DecidableEq, Repr

inductive Removal
  | removed
  | accepted
deriving DecidableEq, Repr

inductive Query
  /-- `Date.now()` -/
  | now
  /-- The signal of the poll or listing, and the caller's own. -/
  | aborted
  | outerAborted
  | race
  | delay (ms : ℚ)
  | get (id : String)
  | remove (id : String)
  | page (cursor : Option String)
  | find (marker : String) (cursor : Option String)
  /-- Whether a listing came in within its budget. -/
  | listed
deriving DecidableEq, Repr

abbrev Answer : Query → Type
  | .now => ℚ
  | .aborted => Option Thrown
  | .outerAborted => Bool
  | .race => Polling.Race Thrown
  | .delay _ => Option Thrown
  | .get _ => Except Thrown (Option VendorRecord)
  | .remove _ => Except Thrown Removal
  | .page _ => Except Thrown VendorPage
  | .find _ _ => Except Thrown VendorPage
  | .listed => Option Thrown

abbrev Events := History Query Answer

def markerPrefix : String := "benchmark-"

structure MarkerSpelling where
  toVendor : String → String
  fromVendor : String → Option String

/-- Spell the marker of an attempt under another prefix at the vendor. -/
def markerSpelling (spelled : String) : MarkerSpelling where
  toVendor := fun marker => spelled ++ String.ofList (marker.toList.drop markerPrefix.length)
  fromVendor := fun value =>
    if spelled.toList.isPrefixOf value.toList ∧ spelled.length < value.length then
      some (markerPrefix ++ String.ofList (value.toList.drop spelled.length))
    else none

/-- What a module declares about its vendor. -/
structure Vendor where
  provider : String
  spelling : MarkerSpelling
  dedicated : Bool
  /-- The control plane looks markers up, else its whole listing is searched. -/
  finds : Bool
  dedicated_finds : dedicated = true → finds = true
  provesAbsence : Bool
  /-- `control.refused`: whether a retry is useful, for an error that proves a refusal. -/
  refused : Option (Thrown → Except Thrown (Option Bool))
  transient : Thrown → Bool
  /-- The sandbox-id schema. -/
  assert : String → Except Thrown String
  pageCap : ℕ
  deleteTimeoutMs : ℚ
  deletePollMs : ℚ
  removeRetryMs : ℚ

variable (vendor : Vendor)

def isGone : Option VendorRecord → Bool
  | none => true
  | some record => record.phase = .gone

/-- The variables of `drainPages`. -/
structure Drained where
  records : List VendorRecord
  seen : List String
  ids : List String
  cursor : Option String

/-- The variables of `destroy`. -/
structure Teardown where
  requested : Bool
  accepted : Bool
  lastRequest : Option ℚ
  refusal : Option Thrown
deriving DecidableEq, Repr

namespace Vendor

/-! ### Listings -/

/-- A sandbox listed twice is a listing that shifted. -/
def checkIds (ids : List String) : List VendorRecord → Except Thrown (List String)
  | [] => .ok ids
  | record :: records =>
    let provider := vendor.provider
    if record.id ∈ ids then .error (.error s!"{provider} listing returned a duplicate sandbox id")
    else checkIds (record.id :: ids) records

/-- `pages` is how many pages the cap still allows. -/
def drainFrom (fetch : Option String → Query) (read : (cursor : Option String) → Answer (fetch cursor) →
      Except Thrown VendorPage) (inspect : List VendorRecord → Except Thrown Unit) :
    ℕ → Drained → Attempt Query Answer Thrown (List VendorRecord)
  | pages, drained => question .aborted fun (aborted : Option Thrown) =>
    let provider := vendor.provider
    let cap := vendor.pageCap
    match aborted with
    | some reason => throw reason
    | none => match pages with
      | 0 => throw (.error s!"{provider} listing exceeded {cap} pages")
      | pages + 1 => question (fetch drained.cursor) fun answer => do
        let page ← computed (read drained.cursor answer)
        computed (inspect page.records)
        let ids ← computed (vendor.checkIds drained.ids page.records)
        let records := drained.records ++ page.records
        match page.next with
        | none => pure records
        | some next =>
          if next = "" ∨ next ∈ drained.seen then
            throw (.error s!"{provider} listing repeated or omitted a continuation cursor")
          else drainFrom fetch read inspect pages ⟨records, next :: drained.seen, ids, some next⟩

/-- One whole listing within its budget. -/
def listing (drain : Attempt Query Answer Thrown (List VendorRecord)) :
    Attempt Query Answer Thrown (List VendorRecord) := do
  let records ← drain
  question .listed fun (late : Option Thrown) =>
    match late with
    | some expired => throw expired
    | none => pure records

/-- Whether a lookup may attribute a record to the marker. -/
def attributes (marker : String) (record : VendorRecord) : Bool :=
  record.marker = some marker || (vendor.dedicated && record.marker = none)

def inspect (marker : String) (records : List VendorRecord) : Except Thrown Unit :=
  let provider := vendor.provider
  if records.all (vendor.attributes marker) then .ok ()
  else .error (.error s!"{provider} recovery returned an unrelated sandbox")

def live (records : List VendorRecord) : List VendorRecord :=
  records.filter (fun record => !isGone (some record))

def recoveryRecords (marker : String) : Attempt Query Answer Thrown (List VendorRecord) :=
  if vendor.finds then
    listing (vendor.drainFrom (fun cursor => .find marker cursor) (fun _ answer => answer)
      (vendor.inspect marker) vendor.pageCap ⟨[], [], [], none⟩)
  else do
    let records ← listing (vendor.drainFrom (fun cursor => .page cursor) (fun _ answer => answer)
      (fun _ => .ok ()) vendor.pageCap ⟨[], [], [], none⟩)
    pure ((live records).filter (fun record => record.marker = some marker))

/-- The live allocations that the marker attributes to a create, as parsed vendor ids. -/
def recoveryIds (marker : String) : Attempt Query Answer Thrown (List String) := do
  let records ← vendor.recoveryRecords marker
  computed ((live records).mapM (fun record => vendor.assert record.id))

/-! ### Tearing down -/

abbrev Tearing (α : Type) := Attempt Query Answer (Teardown × Thrown) α

/-- Ask for the removal: `some` once the vendor has proved it. -/
def request (id : String) (teardown : Teardown) : Tearing (Teardown × Option Unit) :=
  question .now fun (lastRequest : ℚ) =>
    let teardown := { teardown with requested := true, lastRequest := some lastRequest }
    question (.remove id) fun (settled : Except Thrown Removal) =>
      match settled with
      | .ok outcome =>
        let teardown := { teardown with accepted := true, refusal := none }
        pure (teardown, if outcome = .removed then some () else none)
      | .error error =>
        if error ≠ .controlReadTimeout ∧ vendor.transient error = false then throw (teardown, error)
        else pure ({ teardown with refusal := some error }, none)

/-- One read of the sandbox, and a further request when one is due. -/
def observe (id : String) (first : Bool) (teardown : Teardown) : Tearing (Teardown × Option Unit) :=
  question (.get id) fun (settled : Except Thrown (Option VendorRecord)) =>
    match settled with
    | .error error => if error = .controlReadTimeout then pure (teardown, none) else throw (teardown, error)
    | .ok record =>
      if isGone record then pure (teardown, some ())
      else question .now fun (at_ : ℚ) =>
        let due := teardown.lastRequest.all (fun last => vendor.removeRetryMs ≤ at_ - last)
        if first = false ∧ teardown.accepted = false ∧ due = true ∧
            record.map VendorRecord.phase ≠ some .deleting then vendor.request id teardown
        else pure (teardown, none)

/-- The poll of `destroy`; `removeFirst` for a session that the kit itself holds. -/
def tear (id : String) (removeFirst : Bool) (teardown : Teardown) : Tearing (Teardown × Option Unit) :=
  if removeFirst = true ∧ teardown.requested = false then do
    match ← vendor.request id teardown with
    | (teardown, some ()) => pure (teardown, some ())
    | (teardown, none) => vendor.observe id true teardown
  else vendor.observe id false teardown

def tearing (id : String) (removeFirst : Bool) :
    Polling.Strategy Query Answer Teardown Teardown Thrown Unit where
  now := Program.question Query.now
  aborted := Program.question Query.aborted
  race := Program.question Query.race
  delay := fun ms => Program.question (Query.delay ms)
  timeoutError := .readinessTimeout
  deadlineMs := vendor.deleteTimeoutMs
  intervalMs := vendor.deletePollMs
  start := fun teardown => pure teardown
  finish := vendor.tear id removeFirst

/-- How `within` reports a poll that failed. -/
def expired (id : String) (fault : Polling.Fault Teardown Teardown Thrown) :
    Attempt Query Answer Thrown Bool :=
  question .aborted fun (aborted : Option Thrown) =>
    question .outerAborted fun (outer : Bool) =>
      let provider := vendor.provider
      let ms := toString vendor.deleteTimeoutMs
      if outer ∨ ¬ (aborted.isSome ∨ fault.error = .readinessTimeout) then throw fault.error
      else throw (fault.state.refusal.getD
        (.error s!"{provider} sandbox {id} was not observed removed within {ms}ms"))

/-- Whether this teardown asked for the removal, once the sandbox is observed gone. -/
def destroy (id : String) (removeFirst : Bool) (rounds : ℕ) : Attempt Query Answer Thrown Bool :=
  ExceptT.mk (((vendor.tearing id removeFirst).pollUntilReady rounds
    ⟨false, false, none, none⟩).run.bind fun result =>
      match result with
      | .ok (teardown, ()) => .done (.ok teardown.requested)
      | .error fault => (vendor.expired id fault).run)

end Vendor

/-! ### What a teardown proves -/

/-- The vendor proved the removal, or the sandbox was read as gone. -/
def TornDown (id : String) (events : Events) : Prop :=
  (⟨.remove id, .ok .removed⟩ : Sigma Answer) ∈ events ∨
    ∃ record, (⟨.get id, .ok record⟩ : Sigma Answer) ∈ events ∧ isGone record = true

theorem TornDown.mono {id : String} {earlier later : Events} (torn : TornDown id earlier)
    (extends_ : earlier <+: later) : TornDown id later := by
  rcases torn with removed | ⟨record, gone⟩
  · left
    exact extends_.subset removed
  · right
    exact ⟨record, extends_.subset gone.1, gone.2⟩

def free : Events → Query → Prop := fun _ _ => True

/-- After a probe that saw the end, the end was seen. -/
def seen (id : String) (h : Events) (result : Teardown × Option Unit) : Prop :=
  result.2 = some () → TornDown id h

theorem holds_request (id : String) (teardown : Teardown) (h : Events) :
    Holds free (returning (seen id)) (vendor.request id teardown) h := by
  refine ⟨trivial, fun lastRequest => ⟨trivial, fun settled => ?_⟩⟩
  rcases settled with error | outcome
  · dsimp only
    split
    · exact trivial
    · intro done
      cases done
  · intro done
    left
    cases outcome with
    | removed => exact List.mem_append_right _ (List.mem_singleton_self _)
    | accepted => cases done

theorem holds_observe (id : String) (first : Bool) (teardown : Teardown) (h : Events) :
    Holds free (returning (seen id)) (vendor.observe id first teardown) h := by
  refine ⟨trivial, fun settled => ?_⟩
  rcases settled with error | record
  · dsimp only
    split
    · intro done
      cases done
    · exact trivial
  · dsimp only
    split
    · rename_i gone
      intro _
      right
      exact ⟨record, List.mem_append_right _ (List.mem_singleton_self _), gone⟩
    · refine ⟨trivial, fun at_ => ?_⟩
      dsimp only
      split
      · exact holds_request vendor id teardown _
      · intro done
        cases done

theorem holds_tear (id : String) (removeFirst : Bool) (teardown : Teardown) (h : Events) :
    Holds free (returning (seen id)) (vendor.tear id removeFirst teardown) h := by
  rw [Vendor.tear]
  split
  · refine (holds_request vendor id teardown h).andThen ?_
    rintro later ⟨teardown', _ | ⟨⟩⟩ _ asked
    · exact holds_observe vendor id true teardown' later
    · exact asked
  · exact holds_observe vendor id false teardown h

/-- Between the probes of a teardown nothing is known; at its end the sandbox is down. -/
theorem tearing_rule (id : String) (removeFirst : Bool) :
    (vendor.tearing id removeFirst).Rule free (fun _ _ => True) (fun _ _ _ => True)
      (fun h _ _ => TornDown id h) (fun _ _ => True) where
  stable_between := fun state => by
    constructor <;> intros <;> exact ⟨trivial, fun _ => trivial⟩
  stable_during := fun state probe => by
    constructor <;> intros <;> exact ⟨trivial, fun _ => trivial⟩
  stable_ready := fun state a => by
    constructor
    · exact fun h torn => ⟨trivial, fun _ => torn.mono (List.prefix_append _ _)⟩
    · exact fun h torn => ⟨trivial, fun _ => torn.mono (List.prefix_append _ _)⟩
    · exact fun h torn => ⟨trivial, fun _ => torn.mono (List.prefix_append _ _)⟩
    · exact fun ms h torn => ⟨trivial, fun _ => torn.mono (List.prefix_append _ _)⟩
  start := fun _ _ _ => trivial
  finish := fun h _ probe _ => by
    refine (holds_tear vendor id removeFirst probe h).mono ?_
    rintro later (error | ⟨teardown, _ | ⟨⟩⟩) _ result
    · exact trivial
    · exact trivial
    · exact result rfl
  failed_between := fun _ _ _ _ => trivial
  failed_during := fun _ _ _ _ _ => trivial
  failed_late := fun _ _ _ _ => trivial

/-- A teardown returns only once its sandbox is down. -/
theorem holds_destroy (id : String) (removeFirst : Bool) (rounds : ℕ) (h : Events) :
    Holds free (returning (fun later _ => TornDown id later)) (vendor.destroy id removeFirst rounds)
      h := by
  refine Program.safe_bind.mpr
    (((tearing_rule vendor id removeFirst).pollUntilReady rounds _ trivial).mono ?_)
  rintro later (fault | ⟨teardown, ⟨⟩⟩) _ result
  · refine ⟨trivial, fun aborted => ⟨trivial, fun outer => ?_⟩⟩
    dsimp only
    split <;> exact trivial
  · exact result

/-! ### What a lookup proves -/

/-- The records of the pages read, in order. -/
def pagesRead (events : Events) : List VendorRecord :=
  events.flatMap fun event => match event with
    | ⟨.page _, .ok page⟩ => page.records
    | ⟨.find _ _, .ok page⟩ => page.records
    | _ => []

/-- The lookup returned the live sandboxes that it attributes to the marker, each one's id parsed. -/
def Found (marker : String) (events : Events) (ids : List String) : Prop :=
  ((Vendor.live (pagesRead events)).filter (vendor.attributes marker)).mapM
    (fun record => vendor.assert record.id) = .ok ids

lemma pagesRead_append (h events : Events) :
    pagesRead (h ++ events) = pagesRead h ++ pagesRead events :=
  List.flatMap_append

section
variable {fetch : Option String → Query}
  {read : (cursor : Option String) → Answer (fetch cursor) → Except Thrown VendorPage}
  {inspect : List VendorRecord → Except Thrown Unit} {good : VendorRecord → Prop}

/-- What a listing that has read some pages goes on to return. -/
def Drains (good : VendorRecord → Prop) (before : Events) (records : List VendorRecord)
    (later : Events) (all : List VendorRecord) : Prop :=
  ∃ more, all = records ++ more ∧ pagesRead later = pagesRead before ++ more ∧ ∀ r ∈ more, good r

theorem holds_drainFrom (fetches : ∀ cursor answer page, read cursor answer = .ok page →
      pagesRead [⟨fetch cursor, answer⟩] = page.records)
    (inspects : ∀ records, inspect records = .ok () → ∀ r ∈ records, good r)
    (pages : ℕ) (drained : Drained) (h : Events) :
    Holds free (returning (Drains good h drained.records))
      (vendor.drainFrom fetch read inspect pages drained) h := by
  induction pages generalizing drained h with
  | zero =>
    rw [Vendor.drainFrom]
    refine ⟨trivial, fun aborted => ?_⟩
    cases aborted <;> exact trivial
  | succ pages ih =>
    rw [Vendor.drainFrom]
    refine ⟨trivial, fun aborted => ?_⟩
    cases aborted with
    | some reason => exact trivial
    | none =>
      refine ⟨trivial, fun answer => ?_⟩
      refine holds_computed_andThen fun page fetched => holds_computed_andThen fun _ inspected =>
        holds_computed_andThen fun ids _ => ?_
      have pages_read : pagesRead (h ++ [⟨.aborted, none⟩] ++ [⟨fetch drained.cursor, answer⟩]) =
          pagesRead h ++ page.records := by
        rw [pagesRead_append, pagesRead_append, fetches _ _ _ fetched]
        exact congrArg (· ++ page.records) (List.append_nil _)
      have good_page := inspects _ inspected
      dsimp only
      split
      · exact ⟨page.records, rfl, pages_read, good_page⟩
      · split
        · exact trivial
        · refine (ih _ _).mono ?_
          rintro later (error | all) _ drains
          · exact trivial
          · obtain ⟨more, rfl, read_more, good_more⟩ := drains
            refine ⟨page.records ++ more, List.append_assoc _ _ _, ?_, ?_⟩
            · rw [read_more, pages_read, List.append_assoc]
            · intro r mem
              rcases List.mem_append.mp mem with early | late
              · exact good_page r early
              · exact good_more r late

theorem holds_listing {drain : Attempt Query Answer Thrown (List VendorRecord)} {h : Events}
    {records : List VendorRecord} (drains : Holds free (returning (Drains good h records)) drain h) :
    Holds free (returning (Drains good h records)) (Vendor.listing drain) h := by
  rw [Vendor.listing]
  refine drains.andThen fun later all _ found => ⟨trivial, fun late => ?_⟩
  cases late with
  | some expired => exact trivial
  | none =>
    obtain ⟨more, whole, read_more, good_more⟩ := found
    refine ⟨more, whole, ?_, good_more⟩
    rw [pagesRead_append, read_more]
    exact List.append_nil _

end

lemma inspect_ok {marker : String} {records : List VendorRecord}
    (h : vendor.inspect marker records = .ok ()) :
    ∀ r ∈ records, vendor.attributes marker r = true := by
  rw [Vendor.inspect] at h
  split at h
  · rename_i all
    exact List.all_eq_true.mp all
  · cases h

/-- On a shared account only the marker itself attributes a record. -/
lemma attributes_shared {marker : String} (shared : vendor.finds = false) (record : VendorRecord) :
    vendor.attributes marker record = decide (record.marker = some marker) := by
  have not_dedicated : vendor.dedicated = false := by
    cases declared : vendor.dedicated with
    | false => rfl
    | true => exact absurd (vendor.dedicated_finds declared) (by simp [shared])
  simp [Vendor.attributes, not_dedicated]

theorem holds_recoveryRecords (marker : String) :
    Holds free (returning fun later records => Vendor.live records =
        (Vendor.live (pagesRead later)).filter (vendor.attributes marker))
      (vendor.recoveryRecords marker) [] := by
  rw [Vendor.recoveryRecords]
  split
  · refine Holds.mono (holds_listing (holds_drainFrom vendor (fun _ _ _ answered => ?_)
      (fun _ => inspect_ok vendor) vendor.pageCap ⟨[], [], [], none⟩ [])) ?_
    · subst answered
      exact List.append_nil _
    · rintro later (error | records) _ drains
      · exact trivial
      · obtain ⟨more, rfl, read_more, attributed⟩ := drains
        rw [returning_ok, read_more]
        refine (List.filter_eq_self.mpr fun r mem => attributed r ?_).symm
        exact (List.mem_filter.mp mem).1
  · rename_i shared
    refine Holds.andThen (holds_listing (@holds_drainFrom vendor _ _ _ (fun _ => True)
      (fun _ _ _ answered => ?_) (fun _ _ _ _ => trivial) vendor.pageCap ⟨[], [], [], none⟩ [])) ?_
    · subst answered
      exact List.append_nil _
    · rintro later records _ ⟨more, rfl, read_more, -⟩
      have attributed := funext (@attributes_shared vendor marker (by simpa using shared))
      rw [holds_pure, returning_ok, read_more, attributed]
      simp only [Vendor.live, List.nil_append, pagesRead, List.flatMap_nil, List.filter_filter]
      exact List.filter_congr fun r _ => by cases isGone (some r) <;> simp

/-- A lookup returns the live sandboxes that it attributes to the marker. -/
theorem holds_recoveryIds (marker : String) :
    Holds free (returning (Found vendor marker)) (vendor.recoveryIds marker) [] := by
  rw [Vendor.recoveryIds]
  refine (holds_recoveryRecords vendor marker).andThen fun later records _ looked => ?_
  rw [holds_computed]
  cases parsed : (Vendor.live records).mapM (fun record => vendor.assert record.id) with
  | error e => exact trivial
  | ok ids =>
    rw [looked] at parsed
    exact parsed

end VendorRecovery
