import SandboxBenchmarks.VendorRecovery

/-!
# Markers without an allocation verdict

`create`, the start of `prepareAndVerifyCreatedRequest` and the recovery cleanup of
`packages/driver/src/lib/vendor-driver.ts`, as far as they mutate `unresolved`. Creates,
preparations and cleanups of any markers interleave at their awaits; lookups and
teardowns are the programs of `VendorRecovery`, with any answers.
-/

namespace VendorMarkers

open Interaction VendorRecovery Transition

inductive Rejection
  | thrown (error : Thrown)
  | aggregate (errors : List Thrown) (message : String)
deriving DecidableEq, Repr

inductive Report
  | absent
  /-- Absent, with `contradictedPriorAbsence`. -/
  | contradicted
  | destroyed
deriving DecidableEq, Repr

/-- One call of `create` that reached the vendor. -/
structure Creation where
  marker : String
  outcome : Option (Except Thrown String)
deriving DecidableEq

/-- One call of the recovery cleanup; `found` and `outcomes` once sandboxes are torn down. -/
structure Cleanup where
  marker : String
  found : Option (List String)
  outcomes : List (Option (Except Thrown Bool))
  result : Option (Except Rejection Report)
deriving DecidableEq

inductive Event
  | created (marker : String)
  | rejected (marker : String) (error : Thrown)
  | allocated (marker id : String)
  | prepared (marker : String)
  | misspelled (value : String)
  | looked (cleanup : ℕ) (marker : String) (events : Events) (ids : List String)
  | tore (cleanup position : ℕ) (id : String) (events : Events) (outcome : Except Thrown Bool)
  | reported (cleanup : ℕ) (marker : String) (report : Report)
  | failed (cleanup : ℕ) (marker : String) (rejection : Rejection)

/-- The trace, latest first, is a ghost. -/
structure State where
  unresolved : List String
  creations : List Creation
  cleanups : List Cleanup
  trace : List Event

def State.initial : State := ⟨[], [], [], []⟩

variable (vendor : Vendor)

def State.delete (s : State) (marker : String) : State :=
  { s with unresolved := s.unresolved.filter (· ≠ marker) }

def State.record (s : State) (event : Event) : State := { s with trace := event :: s.trace }

def State.setCleanup (s : State) (k : ℕ) (cleanup : Cleanup) : State :=
  { s with cleanups := s.cleanups.set k cleanup }

/-- `provesAbsence || refused?.(error) !== undefined` -/
def verdict (error : Thrown) : Except Thrown Bool :=
  if vendor.provesAbsence then .ok true
  else match vendor.refused with
    | none => .ok false
    | some refused => (refused error).map Option.isSome

/-- `create` up to the vendor call, where the signal is not aborted yet. -/
def State.create (s : State) (marker : String) : State :=
  let creation : Creation := ⟨marker, none⟩
  let unresolved := s.unresolved.insert marker
  { s with unresolved, creations := s.creations ++ [creation] }.record (.created marker)

def State.setCreation (s : State) (k : ℕ) (marker : String) (outcome : Except Thrown String) :
    State :=
  { s with creations := s.creations.set k ⟨marker, some outcome⟩ }

def State.createSettles (s : State) (k : ℕ) (marker : String) : Except Thrown String → State
  | .ok id => (s.setCreation k marker (.ok id)).record (.allocated marker id)
  | .error error =>
    let s := s.record (.rejected marker error)
    match verdict vendor error with
    | .ok true => (s.delete marker).setCreation k marker (.error error)
    | .ok false => s.setCreation k marker (.error error)
    | .error thrown => s.setCreation k marker (.error thrown)

/-- The preparation of a created allocation, up to its attachment. -/
def State.prepare (s : State) (marker : String) : State :=
  (s.delete marker).record (.prepared marker)

def State.throw_ (s : State) (k : ℕ) (cleanup : Cleanup) (rejection : Rejection) : State :=
  (s.setCleanup k { cleanup with result := some (.error rejection) }).record
    (.failed k cleanup.marker rejection)

def State.report (s : State) (k : ℕ) (cleanup : Cleanup) (report : Report) : State :=
  (s.setCleanup k { cleanup with result := some (.ok report) }).record
    (.reported k cleanup.marker report)

/-- The cleanup once its lookup has settled. -/
def State.look (s : State) (k : ℕ) (cleanup : Cleanup) (events : Events) :
    Except Thrown (List String) → State
  | .error error => s.throw_ k cleanup (.thrown error)
  | .ok ids =>
    let s := s.record (.looked k cleanup.marker events ids)
    let provider := vendor.provider
    if ids = [] then
      if cleanup.marker ∈ s.unresolved then
        s.throw_ k cleanup (.thrown (.error
          s!"{provider} create has no allocation verdict; an empty lookup cannot prove it absent"))
      else s.report k cleanup .absent
    else s.setCleanup k { cleanup with found := some ids, outcomes := ids.map (fun _ => none) }

def State.tear (s : State) (k : ℕ) (cleanup : Cleanup) (j : ℕ) (id : String) (events : Events)
    (outcome : Except Thrown Bool) : State :=
  (s.setCleanup k { cleanup with outcomes := cleanup.outcomes.set j (some outcome) }).record
    (.tore k j id events outcome)

def failures (outcomes : List (Option (Except Thrown Bool))) : List Thrown :=
  outcomes.filterMap fun outcome => match outcome with
    | some (.error error) => some error
    | _ => none

/-- The cleanup once every teardown has settled. -/
def State.settle (s : State) (k : ℕ) (cleanup : Cleanup) : State :=
  let failed := failures cleanup.outcomes
  let provider := vendor.provider
  let count := failed.length
  let total := cleanup.outcomes.length
  if failed ≠ [] then
    s.throw_ k cleanup (.aggregate failed
      s!"{provider} recovery could not tear down {count} of {total} sandboxes")
  else (s.delete cleanup.marker).report k cleanup
    (if some (.ok true) ∈ cleanup.outcomes then .destroyed else .contradicted)

/-- The environment calls in and settles what is awaited, in any order. -/
inductive Step : State → State → Prop
  | create (s : State) (marker : String) : Step s (s.create marker)
  | createSettles (s : State) (k : ℕ) (marker : String) (outcome : Except Thrown String)
    (calling : s.creations[k]? = some ⟨marker, none⟩) :
    Step s (s.createSettles vendor k marker outcome)
  | prepare (s : State) (k : ℕ) (marker id : String)
    (allocated : s.creations[k]? = some ⟨marker, some (.ok id)⟩) : Step s (s.prepare marker)
  | misspelled (s : State) (value : String) (spells : vendor.spelling.fromVendor value = none) :
    Step s (s.record (.misspelled value))
  | cleanup (s : State) (value marker : String)
    (spells : vendor.spelling.fromVendor value = some marker) :
    Step s { s with cleanups := s.cleanups ++ [(⟨marker, none, [], none⟩ : Cleanup)] }
  | look (s : State) (k : ℕ) (cleanup : Cleanup) (events : Events)
    (outcome : Except Thrown (List String)) (at_ : s.cleanups[k]? = some cleanup)
    (looking : cleanup.found = none) (unsettled : cleanup.result = none)
    (returns : Program.Returns (vendor.recoveryIds cleanup.marker).run events outcome) :
    Step s (s.look vendor k cleanup events outcome)
  | tear (s : State) (k : ℕ) (cleanup : Cleanup) (ids : List String) (j : ℕ) (id : String)
    (rounds : ℕ) (events : Events) (outcome : Except Thrown Bool)
    (at_ : s.cleanups[k]? = some cleanup) (found : cleanup.found = some ids)
    (listed : ids[j]? = some id) (tearing : cleanup.outcomes[j]? = some none)
    (returns : Program.Returns (vendor.destroy id false rounds).run events outcome) :
    Step s (s.tear k cleanup j id events outcome)
  | settle (s : State) (k : ℕ) (cleanup : Cleanup) (ids : List String)
    (at_ : s.cleanups[k]? = some cleanup) (found : cleanup.found = some ids)
    (unsettled : cleanup.result = none) (settled : ∀ outcome ∈ cleanup.outcomes, outcome ≠ none) :
    Step s (s.settle vendor k cleanup)

/-! ### What a trace says -/

/-- Events that settle whether the create left an allocation behind. -/
def Resolves (marker : String) : Event → Prop
  | .rejected m error => m = marker ∧ verdict vendor error = .ok true
  | .prepared m => m = marker
  | .reported _ m report => m = marker ∧ report ≠ .absent
  | _ => False

/-- The vendor was never called for the marker, or the outcome of its last call is settled. -/
def Resolved (marker : String) (trace : List Event) : Prop :=
  .created marker ∉ trace ∨
    ∃ after event before, trace = after ++ event :: before ∧ Resolves vendor marker event ∧
      .created marker ∉ after

/-- The lookup of this cleanup found sandboxes, and each of them was torn down. -/
def AllTorn (earlier : List Event) (k : ℕ) (marker : String) : Prop :=
  ∃ events ids, .looked k marker events ids ∈ earlier ∧ ids ≠ [] ∧
    ∀ j id, ids[j]? = some id →
      ∃ torn asked, .tore k j id torn (.ok asked) ∈ earlier ∧ TornDown id torn

/-- What the events before an event say about it. -/
def Justified (earlier : List Event) : Event → Prop
  | .rejected marker _ => .created marker ∈ earlier
  | .allocated marker _ => .created marker ∈ earlier
  | .prepared marker => ∃ id, .allocated marker id ∈ earlier
  | .looked _ marker events ids => Found vendor marker events ids
  | .tore _ _ id events (.ok _) => TornDown id events
  | .reported k marker .absent =>
    Resolved vendor marker earlier ∧ ∃ events, .looked k marker events [] ∈ earlier
  | .reported k marker _ => AllTorn earlier k marker
  | _ => True

end VendorMarkers
