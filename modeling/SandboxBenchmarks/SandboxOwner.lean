import Mathlib.Algebra.Order.Floor.Ring
import Mathlib.Data.Rat.Floor
import SandboxBenchmarks.Library.Transition

/-!
# Sandboxes owned by the process

`packages/harness/src/lib/sandbox-owner.ts`: the registry, the destroy that is put in
place of a provider's own, and the bounded drains. The environment calls the exported
functions and settles what is awaited, in any order. Cancellation signals and the
handlers of the process are left out, since they only ask for what may happen anyway.
-/

namespace SandboxOwner

open Transition

inductive Phase
  /-- `create` is not invoked yet. -/
  | registered
  | creating
  | live
  /-- Created, but the handle could not be read, so that no destroy is installed. -/
  | unusable
  /-- Rejected with a cleanup left; whether it has more than its disposal. -/
  | recoverable (cleanup : Bool)
  | rejected
deriving DecidableEq, Repr

/-- One run of an entry's destroy or cleanup. -/
inductive Op
  | queued
  | running
  | resolved
  | rejected
deriving DecidableEq, Repr

structure Entry where
  /-- There is no bridge, or it does nothing but call the destroy it is given. -/
  forwards : Bool
  phase : Phase
  /-- Oldest first. -/
  ops : List Op
  /-- Calls of the provider's destroy that have not settled. -/
  providerDestroys : ℕ
  handle : Option ℕ
deriving DecidableEq, Repr

/-- One call of `createOwnedSandbox`, and the entry it registered. -/
structure Call where
  whileStopping : Bool
  entry : Option ℕ
deriving DecidableEq, Repr

inductive Failure
  | timedOut (entry : ℕ)
  | rejected (entry : ℕ)
  | remaining (count : ℕ)
  | operations
deriving DecidableEq, Repr

inductive TaskStage
  /-- Waits for the create of its entry. -/
  | waiting
  /-- Waits for a run of the entry's destroy. -/
  | joined (op : ℕ)
  /-- Waits for a cleanup of its own, beside the one in flight. -/
  | extra
  | done
deriving DecidableEq, Repr

structure Task where
  entry : ℕ
  stage : TaskStage
deriving DecidableEq, Repr

inductive CleanupStage
  | running
  | delaying
  | returned
deriving DecidableEq, Repr

/-- One call of `cleanupOwnedSandboxes`. -/
structure Cleanup where
  /-- The registry when it began, a ghost. -/
  existed : List ℕ
  attempts : ℤ
  deadline : ℚ
  attempt : ℤ
  tasks : List Task
  failures : List Failure
  stage : CleanupStage
deriving DecidableEq, Repr

/-- One call of `shutdownOwnedSandboxes`. -/
structure Shutdown where
  cleanup : ℕ
  result : Option (List Failure)
deriving DecidableEq, Repr

structure State where
  /-- In insertion order. -/
  owned : List ℕ
  entriesByHandle : List (ℕ × ℕ)
  entries : List Entry
  stopping : Bool
  calls : List Call
  cleanups : List Cleanup
  shutdowns : List Shutdown
deriving DecidableEq, Repr

def State.initial : State := ⟨[], [], [], false, [], [], []⟩

/-! ### Entries -/

def State.setEntry (s : State) (i : ℕ) (entry : Entry) : State :=
  { s with entries := s.entries.set i entry }

def State.release (s : State) (i : ℕ) (entry : Entry) : State :=
  { s with
    owned := s.owned.filter (· ≠ i)
    entriesByHandle := s.entriesByHandle.filter (fun tracked => entry.handle ≠ some tracked.1)
    entries := s.entries.set i { entry with handle := none } }

def State.trackHandle (s : State) (i : ℕ) (entry : Entry) (handle : ℕ) : State :=
  { s with
    entriesByHandle := (handle, i) :: s.entriesByHandle.filter (fun tracked => handle ≠ tracked.1)
    entries := s.entries.set i { entry with phase := .live, handle := some handle } }

/-- `createOwnedSandbox` -/
def State.create (s : State) (forwards : Bool) : State :=
  if s.stopping then { s with calls := s.calls ++ [(⟨true, none⟩ : Call)] }
  else
    { s with
      owned := s.owned ++ [s.entries.length]
      entries := s.entries ++ [(⟨forwards, .registered, [], 0, none⟩ : Entry)]
      calls := s.calls ++ [(⟨false, some s.entries.length⟩ : Call)] }

def State.createRejects (s : State) (i : ℕ) (entry : Entry) : Option Bool → State
  | none => s.release i { entry with phase := .rejected }
  | some cleanup => s.setEntry i { entry with phase := .recoverable cleanup }

/-- `destroying` or `cleanupInFlight`: a run that was not rejected stays. -/
def Entry.current (entry : Entry) : Option ℕ :=
  match entry.ops.getLast? with
  | none => none
  | some .rejected => none
  | some _ => some (entry.ops.length - 1)

def Entry.setLast (entry : Entry) (op : Op) : Entry :=
  { entry with ops := entry.ops.dropLast ++ [op] }

/-- The guarded destroy or cleanup of an entry is called. -/
def Entry.destroy (entry : Entry) : Entry :=
  match entry.current with
  | some _ => entry
  | none => { entry with ops := entry.ops ++ [.queued] }

/-- The call that a run makes, once its turn comes. -/
def Entry.runs (entry : Entry) : Entry :=
  if entry.phase = .live ∧ entry.forwards = true then
    { entry.setLast .running with providerDestroys := entry.providerDestroys + 1 }
  else entry.setLast .running

def Entry.settles (entry : Entry) (op : Op) : Entry :=
  if entry.phase = .live ∧ entry.forwards = true then
    { entry.setLast op with providerDestroys := entry.providerDestroys - 1 }
  else entry.setLast op

def State.destroySettles (s : State) (i : ℕ) (entry : Entry) : Bool → State
  | true => s.release i (entry.settles .resolved)
  | false => s.setEntry i (entry.settles .rejected)

/-! ### Cleanups -/

def positiveInteger (value : Option ℚ) (fallback : ℤ) : ℤ :=
  match value with
  | some value => if 0 < value then ⌊value⌋ else fallback
  | none => fallback

/-- `withinDeadline` for each entry; `readings` are the times it reads. -/
def startTasks (deadline : ℚ) (owned : List ℕ) (readings : List ℚ) : List Task :=
  List.zipWith (fun entry (at_ : ℚ) => if deadline - at_ ≤ 0 then ⟨entry, .done⟩ else ⟨entry, .waiting⟩)
    owned readings

def expiredTasks (tasks : List Task) : List Failure :=
  tasks.filterMap fun task => if task.stage = .done then some (.timedOut task.entry) else none

/-- The test of the loop, then its next round or the return. -/
def Cleanup.loop (c : Cleanup) (owned : List ℕ) (readings : List ℚ) : Cleanup :=
  if c.attempt ≤ c.attempts ∧ owned ≠ [] then
    let tasks := startTasks c.deadline owned readings
    { c with tasks, failures := expiredTasks tasks, stage := .running }
  else
    { c with
      failures := if owned ≠ [] ∧ c.failures = [] then [.remaining owned.length] else c.failures
      stage := .returned }

def startCleanup (owned : List ℕ) (attempts timeoutMs : Option ℚ) (at_ : ℚ) (readings : List ℚ) :
    Cleanup :=
  let cleanup : Cleanup :=
    { existed := owned
      attempts := positiveInteger attempts 3
      deadline := at_ + positiveInteger timeoutMs 15000
      attempt := 1
      tasks := []
      failures := []
      stage := .running }
  cleanup.loop owned readings

/-- What follows the tasks of a round; the delay is as long as it is. -/
def Cleanup.round (c : Cleanup) (owned : List ℕ) (at_ : ℚ) (readings : List ℚ) : Cleanup :=
  if owned = [] then { c with failures := [], stage := .returned }
  else
    let next := { c with attempt := c.attempt + 1 }
    if c.attempt < c.attempts ∧ 0 < c.deadline - at_ then { next with stage := .delaying }
    else next.loop owned readings

def Cleanup.setTask (c : Cleanup) (j : ℕ) (task : Task) (failures : List Failure) : Cleanup :=
  { c with tasks := c.tasks.set j task, failures := c.failures ++ failures }

def State.setCleanup (s : State) (k : ℕ) (cleanup : Cleanup) : State :=
  { s with cleanups := s.cleanups.set k cleanup }

/-- `destroyEntry` once the create has settled: what the entry's destroy is, and what to wait for. -/
def Entry.joins (entry : Entry) : TaskStage :=
  match entry.phase, entry.current with
  | .live, some op => .joined op
  | .live, none => .joined entry.ops.length
  | .recoverable _, none => .joined entry.ops.length
  | .recoverable true, some _ => .extra
  | .recoverable false, some op => .joined op
  | _, _ => .done

def Entry.destroyable (entry : Entry) : Bool :=
  match entry.phase with
  | .live | .recoverable _ => true
  | _ => false

def Entry.settled (entry : Entry) : Bool :=
  match entry.phase with
  | .registered | .creating => false
  | _ => true

def State.taskDestroys (s : State) (k : ℕ) (cleanup : Cleanup) (j : ℕ) (task : Task) (entry : Entry) :
    State :=
  let s := if entry.destroyable then s.setEntry task.entry entry.destroy else s
  s.setCleanup k (cleanup.setTask j ⟨task.entry, entry.joins⟩ [])

/-- The result of `shutdownOwnedSandboxes`, whose wait for release operations may time out. -/
def shutdownResult (cleanup : Cleanup) (timedOut : Bool) : List Failure :=
  cleanup.failures ++ if timedOut then [.operations] else []

/-! ### Runs -/

inductive Action
  | create (forwards : Bool)
  | createRuns (i : ℕ)
  | createResolves (i handle : ℕ)
  | createBreaks (i : ℕ)
  /-- The rejection has a cleanup, and with more than its disposal. -/
  | createRejects (i : ℕ) (recoverable : Option Bool)
  | destroy (i : ℕ)
  | destroyRuns (i : ℕ)
  | destroySettles (i : ℕ) (ok : Bool)
  /-- A bridge of another kind calls the provider's destroy, and that call settles. -/
  | bridgeCalls (i : ℕ)
  | bridgeSettles (i : ℕ)
  /-- `releaseOwnedSandbox` of a tracked handle. -/
  | release (handle : ℕ)
  | cleanup
  | taskDestroys (k j : ℕ)
  | taskSettles (k j : ℕ)
  | taskTimesOut (k j : ℕ)
  | round (k : ℕ)
  | wakes (k : ℕ)
  | shutdown
  | shutdownReturns (j : ℕ)
deriving DecidableEq, Repr

/-- Work that a cleanup no longer waits for goes on as `destroy`. -/
inductive Step : State → Action → State → Prop
  | create (s : State) (forwards : Bool) : Step s (.create forwards) (s.create forwards)
  | createRuns (s : State) (i : ℕ) (entry : Entry) (at_ : s.entries[i]? = some entry)
    (phase : entry.phase = .registered) :
    Step s (.createRuns i) (s.setEntry i { entry with phase := .creating })
  | createResolves (s : State) (i : ℕ) (entry : Entry) (handle : ℕ)
    (at_ : s.entries[i]? = some entry) (phase : entry.phase = .creating) :
    Step s (.createResolves i handle) (s.trackHandle i entry handle)
  | createBreaks (s : State) (i : ℕ) (entry : Entry) (at_ : s.entries[i]? = some entry)
    (phase : entry.phase = .creating) :
    Step s (.createBreaks i) (s.setEntry i { entry with phase := .unusable })
  | createRejects (s : State) (i : ℕ) (entry : Entry) (recoverable : Option Bool)
    (at_ : s.entries[i]? = some entry) (phase : entry.phase = .creating) :
    Step s (.createRejects i recoverable) (s.createRejects i entry recoverable)
  | destroy (s : State) (i : ℕ) (entry : Entry) (at_ : s.entries[i]? = some entry)
    (installed : entry.destroyable = true) : Step s (.destroy i) (s.setEntry i entry.destroy)
  | destroyRuns (s : State) (i : ℕ) (entry : Entry) (at_ : s.entries[i]? = some entry)
    (queued : entry.ops.getLast? = some .queued) : Step s (.destroyRuns i) (s.setEntry i entry.runs)
  | destroySettles (s : State) (i : ℕ) (entry : Entry) (ok : Bool)
    (at_ : s.entries[i]? = some entry) (running : entry.ops.getLast? = some .running) :
    Step s (.destroySettles i ok) (s.destroySettles i entry ok)
  | bridgeCalls (s : State) (i : ℕ) (entry : Entry) (at_ : s.entries[i]? = some entry)
    (live : entry.phase = .live) (bridged : entry.forwards = false) :
    Step s (.bridgeCalls i)
      (s.setEntry i { entry with providerDestroys := entry.providerDestroys + 1 })
  | bridgeSettles (s : State) (i : ℕ) (entry : Entry) (at_ : s.entries[i]? = some entry)
    (bridged : entry.forwards = false) :
    Step s (.bridgeSettles i)
      (s.setEntry i { entry with providerDestroys := entry.providerDestroys - 1 })
  | release (s : State) (handle i : ℕ) (entry : Entry)
    (tracked : s.entriesByHandle.lookup handle = some i) (at_ : s.entries[i]? = some entry) :
    Step s (.release handle) (s.release i entry)
  | cleanup (s : State) (attempts timeoutMs : Option ℚ) (at_ : ℚ) (readings : List ℚ)
    (reads : readings.length = s.owned.length) :
    Step s .cleanup
      { s with cleanups := s.cleanups ++ [startCleanup s.owned attempts timeoutMs at_ readings] }
  | taskDestroys (s : State) (k j : ℕ) (cleanup : Cleanup) (task : Task) (entry : Entry)
    (at_ : s.cleanups[k]? = some cleanup) (running : cleanup.stage = .running)
    (task_at : cleanup.tasks[j]? = some task) (waiting : task.stage = .waiting)
    (entry_at : s.entries[task.entry]? = some entry) (settled : entry.settled = true) :
    Step s (.taskDestroys k j) (s.taskDestroys k cleanup j task entry)
  | taskSettles (s : State) (k j : ℕ) (cleanup : Cleanup) (task : Task) (entry : Entry) (op : ℕ)
    (ok : Bool) (at_ : s.cleanups[k]? = some cleanup) (running : cleanup.stage = .running)
    (task_at : cleanup.tasks[j]? = some task) (joined : task.stage = .joined op)
    (entry_at : s.entries[task.entry]? = some entry)
    (settled : entry.ops[op]? = some (if ok then .resolved else .rejected)) :
    Step s (.taskSettles k j) (s.setCleanup k (cleanup.setTask j ⟨task.entry, .done⟩
      (if ok then [] else [.rejected task.entry])))
  | extraSettles (s : State) (k j : ℕ) (cleanup : Cleanup) (task : Task) (ok : Bool)
    (at_ : s.cleanups[k]? = some cleanup) (running : cleanup.stage = .running)
    (task_at : cleanup.tasks[j]? = some task) (extra : task.stage = .extra) :
    Step s (.taskSettles k j) (s.setCleanup k (cleanup.setTask j ⟨task.entry, .done⟩
      (if ok then [] else [.rejected task.entry])))
  | taskTimesOut (s : State) (k j : ℕ) (cleanup : Cleanup) (task : Task)
    (at_ : s.cleanups[k]? = some cleanup) (running : cleanup.stage = .running)
    (task_at : cleanup.tasks[j]? = some task) (unfinished : task.stage ≠ .done) :
    Step s (.taskTimesOut k j)
      (s.setCleanup k (cleanup.setTask j ⟨task.entry, .done⟩ [.timedOut task.entry]))
  | round (s : State) (k : ℕ) (cleanup : Cleanup) (time : ℚ) (readings : List ℚ)
    (at_ : s.cleanups[k]? = some cleanup) (running : cleanup.stage = .running)
    (finished : ∀ task ∈ cleanup.tasks, task.stage = .done)
    (reads : readings.length = s.owned.length) :
    Step s (.round k) (s.setCleanup k (cleanup.round s.owned time readings))
  | wakes (s : State) (k : ℕ) (cleanup : Cleanup) (readings : List ℚ)
    (at_ : s.cleanups[k]? = some cleanup) (delaying : cleanup.stage = .delaying)
    (reads : readings.length = s.owned.length) :
    Step s (.wakes k) (s.setCleanup k (cleanup.loop s.owned readings))
  | shutdown (s : State) (at_ : ℚ) (readings : List ℚ) (reads : readings.length = s.owned.length) :
    Step s .shutdown
      { s with
        stopping := true
        cleanups := s.cleanups ++ [startCleanup s.owned none none at_ readings]
        shutdowns := s.shutdowns ++ [(⟨s.cleanups.length, none⟩ : Shutdown)] }
  | shutdownReturns (s : State) (j : ℕ) (shutdown : Shutdown) (cleanup : Cleanup) (timedOut : Bool)
    (at_ : s.shutdowns[j]? = some shutdown) (waiting : shutdown.result = none)
    (cleanup_at : s.cleanups[shutdown.cleanup]? = some cleanup) (returned : cleanup.stage = .returned) :
    Step s (.shutdownReturns j)
      { s with
        shutdowns := s.shutdowns.set j
          { shutdown with result := some (shutdownResult cleanup timedOut) } }

abbrev Runs : State → Prop := Reachable (· = State.initial) (fun s t => ∃ action, Step s action t)

end SandboxOwner
