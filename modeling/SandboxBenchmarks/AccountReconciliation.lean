import Mathlib.Algebra.Order.Group.Unbundled.Abs
import Mathlib.Algebra.Order.Ring.Rat
import SandboxBenchmarks.Library.Checks
import SandboxBenchmarks.Library.Interaction

/-!
# Reconciling an account

`reconcileAccount` of `apps/cli/src/lib/account-reconciliation.ts`. The vendors,
the deadline and the caller's signal are the environment: it answers every call,
lets the abort win any race, and repeats observations as often as it likes.
-/

namespace AccountReconciliation

open Checks Interaction

structure SandboxRef where
  provider : String
  /-- `none` when what the vendor put there is no string. -/
  id : Option String
deriving DecidableEq, Repr

/-- What a vendor returned for an inventory. -/
structure InventorySnapshot where
  /-- `none` when `owned` is no array. -/
  owned : Option (List SandboxRef)
  /-- `none` when it is no finite number. -/
  foreignCount : Option ℚ
deriving DecidableEq, Repr

inductive Observation where
  | running
  | terminal
  | absent
deriving DecidableEq, Repr

/-- A driver object, and which optional capabilities it has. -/
structure SandboxDriver where
  object : Nat
  inventory : Bool
  destroyById : Bool
  probes : Bool
deriving DecidableEq, Repr

structure AccountDriver where
  id : String
  driver : SandboxDriver
deriving DecidableEq, Repr

/-! ### The environment -/

/-- What `bounded` runs. -/
inductive Operation where
  | list (entry : AccountDriver)
  | destroyById (entry : AccountDriver) (ref : SandboxRef)
  | observe (entry : AccountDriver) (ref : SandboxRef)
  | pause
deriving DecidableEq, Repr

abbrev Operation.Result : Operation → Type
  | .list _ => InventorySnapshot
  | .destroyById _ _ => Unit
  | .observe _ _ => Observation
  | .pause => Unit

/-- How the race of an operation against the abort signal ends. -/
inductive Settled (α : Type) where
  | resolved (value : α)
  | rejected (error : String)
  | aborted (reason : String)

inductive Query where
  /-- `controller.signal.aborted`, with the reason. -/
  | aborted
  | run (operation : Operation)
  /-- `new Date().toISOString()` -/
  | now
deriving DecidableEq, Repr

abbrev Answer : Query → Type
  | .aborted => Option String
  | .run operation => Settled operation.Result
  | .now => String

abbrev Events := History Query Answer

abbrev Reconciling (α : Type) := Attempt Query Answer String α

/-! ### The code -/

def throwIfAborted {α : Type} (next : Reconciling α) : Reconciling α :=
  question .aborted fun (reason : Option String) =>
    match reason with
    | some reason => throw reason
    | none => next

/-- An operation is only issued while the signal is silent, and loses the race against it. -/
def bounded (operation : Operation) : Reconciling operation.Result :=
  throwIfAborted (throwIfAborted (question (.run operation) fun (settled : Settled _) =>
    match settled with
    | .resolved value => pure value
    | .rejected error => throw error
    | .aborted reason => throw reason))

def isSafeInteger (number : Option ℚ) : Bool :=
  number.any (fun q => q.den == 1 && decide (|q| ≤ 9007199254740991))

/-- Reviewed inventory scopes: the other accounts hold nothing but what this repository made. -/
def accountInventoryScope (quotaDomain : String → String) (id : String) : String :=
  if quotaDomain id = "daytona" ∨ quotaDomain id = "novita" ∨ quotaDomain id = "modal" then
    "benchmark"
  else "account"

structure ReconciliationEvidence where
  confirmedAt : String
  removed : List SandboxRef
deriving DecidableEq, Repr

section
variable (quotaDomain : String → String)

def checkRef (id : String) (ids : List String) (ref : SandboxRef) : Except String (List String) :=
  match ref.id with
  | none => .error s!"{id} inventory returned invalid or duplicate ownership"
  | some refId => do
    throwIf (ref.provider ≠ id ∨ refId = "" ∨ refId ∈ ids)
      s!"{id} inventory returned invalid or duplicate ownership"
    return refId :: ids

/-- What makes a snapshot usable; the refs it attributes to the account. -/
def checkInventory (id : String) (snapshot : InventorySnapshot) : Except String (List SandboxRef) := do
  throwIf (isSafeInteger snapshot.foreignCount = false ∨ snapshot.foreignCount.any (· < 0) = true)
    s!"{id} returned invalid account inventory"
  let owned ← require snapshot.owned s!"{id} returned invalid account inventory"
  throwIf (snapshot.foreignCount.any (0 < ·) = true ∧ accountInventoryScope quotaDomain id = "account")
    s!"{id} account-scoped inventory contains unowned resources; allocation blocked"
  let _ ← owned.foldlM (checkRef id) []
  return owned

def list (entry : AccountDriver) : Reconciling (List SandboxRef) := do
  computed (throwIf (entry.driver.inventory = false) s!"{entry.id} inventory disappeared")
  let snapshot ← bounded (.list entry)
  computed (checkInventory quotaDomain entry.id snapshot)

/-- Every variant is inspected before any destructive recovery. -/
def inspect : List AccountDriver → Reconciling (List (AccountDriver × List SandboxRef))
  | [] => pure []
  | entry :: drivers => do
    let owned ← list quotaDomain entry
    let snapshots ← inspect drivers
    pure ((entry, owned) :: snapshots)

/-- Only the control plane's own observation ends the wait. -/
def awaitGone (entry : AccountDriver) (ref : SandboxRef) : Nat → Reconciling Unit
  | 0 => cut
  | rounds + 1 => do
    let observation ← bounded (.observe entry ref)
    if observation = .running then
      bounded .pause
      awaitGone entry ref rounds
    else pure ()

variable (rounds : Nat)

def removeAll (entry : AccountDriver) : List SandboxRef → Reconciling (List SandboxRef)
  | [] => pure []
  | ref :: owned => do
    bounded (.destroyById entry ref)
    awaitGone entry ref rounds
    let removed ← removeAll entry owned
    pure (ref :: removed)

def recover : List (AccountDriver × List SandboxRef) → Reconciling (List SandboxRef)
  | [] => pure []
  | (entry, owned) :: snapshots => do
    computed (throwIf ((entry.driver.destroyById && entry.driver.probes) = false)
      "managed recovery capability disappeared")
    let removed ← removeAll rounds entry owned
    let rest ← recover snapshots
    pure (removed ++ rest)

def confirmEmpty : List AccountDriver → Reconciling Unit
  | [] => pure ()
  | entry :: drivers => do
    let owned ← list quotaDomain entry
    computed (throwIf (owned ≠ [])
      s!"{entry.id} inventory changed during reconciliation; allocation blocked")
    confirmEmpty drivers

/-- `rounds` bounds how many observations of one sandbox a run is followed for. -/
def reconcileAccount (drivers : List AccountDriver) (timeoutMs : Option ℚ) :
    Reconciling ReconciliationEvidence := do
  computed (throwIf (drivers = []) "account reconciliation requires at least one driver")
  computed (throwIf (isSafeInteger timeoutMs = false ∨ timeoutMs.any (· ≤ 0) = true)
    "invalid reconciliation budget")
  computed (forM drivers (fun entry =>
    throwIf ((entry.driver.inventory && entry.driver.destroyById && entry.driver.probes) = false)
      s!"{entry.id} has no complete managed inventory/recovery capability"))
  let snapshots ← inspect quotaDomain drivers
  let removed ← recover rounds snapshots
  confirmEmpty quotaDomain drivers
  question .now (fun confirmedAt => pure ⟨confirmedAt, removed⟩)

end

/-! ### What the events of a run say -/

def event (operation : Operation) (settled : Settled operation.Result) : Sigma Answer :=
  ⟨.run operation, settled⟩

/-- A variant's inventory was read and is valid. -/
def Inspected (quotaDomain : String → String) (events : Events) (entry : AccountDriver) : Prop :=
  ∃ snapshot owned, event (.list entry) (.resolved snapshot) ∈ events ∧
    checkInventory quotaDomain entry.id snapshot = .ok owned

/-- A sandbox was destroyed, and then observed not running. -/
def Removed (events : Events) (entry : AccountDriver) (ref : SandboxRef) : Prop :=
  ∃ before after, events = before ++ event (.destroyById entry ref) (.resolved ()) :: after ∧
    ∃ gone, gone ≠ .running ∧ event (.observe entry ref) (.resolved gone) ∈ after

def Harmless (events : Events) : Prop :=
  ∀ e ∈ events, ∀ entry ref, e.1 ≠ .run (.destroyById entry ref)

/-- The events read every variant's inventory, with these owned sandboxes, and destroy nothing. -/
structure Listed (quotaDomain : String → String) (drivers : List AccountDriver) (events : Events)
    (snapshots : List (AccountDriver × List SandboxRef)) : Prop where
  entries : snapshots.map Prod.fst = drivers
  listed : ∀ pair ∈ snapshots, ∃ snapshot, event (.list pair.1) (.resolved snapshot) ∈ events ∧
    checkInventory quotaDomain pair.1.id snapshot = .ok pair.2
  all : ∀ entry snapshot, event (.list entry) (.resolved snapshot) ∈ events →
    ∃ owned, checkInventory quotaDomain entry.id snapshot = .ok owned ∧ (entry, owned) ∈ snapshots
  harmless : Harmless events

/-- Destroying waits for the inventory of every variant. -/
def Guarded (quotaDomain : String → String) (drivers : List AccountDriver) (events : Events)
    (query : Query) : Prop :=
  ∀ entry ref, query = .run (.destroyById entry ref) →
    ∀ d ∈ drivers, Inspected quotaDomain events d

variable {quotaDomain : String → String} {drivers : List AccountDriver} {events : Events}

lemma Inspected.mono {events' : Events} {entry : AccountDriver} (extends_ : events <+: events')
    (h : Inspected quotaDomain events entry) : Inspected quotaDomain events' entry := by
  obtain ⟨snapshot, owned, read, valid⟩ := h
  exact ⟨snapshot, owned, extends_.subset read, valid⟩

lemma Removed.append {entry : AccountDriver} {ref : SandboxRef} (h : Removed events entry ref)
    (earlier later : Events) : Removed (earlier ++ events ++ later) entry ref := by
  obtain ⟨before, after, rfl, gone, notRunning, observed⟩ := h
  refine ⟨earlier ++ before, after ++ later, by simp, gone, notRunning, ?_⟩
  exact List.mem_append_left later observed

lemma Listed.inspected {snapshots : List (AccountDriver × List SandboxRef)}
    (h : Listed quotaDomain drivers events snapshots) {entry : AccountDriver}
    (member : entry ∈ drivers) : Inspected quotaDomain events entry := by
  rw [← h.entries] at member
  obtain ⟨⟨entry, owned⟩, hpair, rfl⟩ := List.mem_map.mp member
  obtain ⟨snapshot, read, valid⟩ := h.listed _ hpair
  exact ⟨snapshot, owned, read, valid⟩

/-! ### One operation -/

lemma guarded_other {query : Query} (other : ∀ entry ref, query ≠ .run (.destroyById entry ref)) :
    Guarded quotaDomain drivers events query :=
  fun entry ref same => absurd same (other entry ref)

def silent : Events := [⟨.aborted, none⟩, ⟨.aborted, none⟩]

def resolvedAs (operation : Operation) (value : operation.Result) : Events :=
  silent ++ [event operation (.resolved value)]

lemma holds_bounded {operation : Operation} {P : Events → operation.Result → Prop}
    (issue : Guarded quotaDomain drivers (events ++ silent) (.run operation))
    (ok : ∀ value, P (events ++ resolvedAs operation value) value) :
    Holds (Guarded quotaDomain drivers) (returning P) (bounded operation) events := by
  rw [bounded, throwIfAborted, holds_question]
  refine ⟨guarded_other (by simp), ?_⟩
  rintro (_ | reason)
  · dsimp only
    rw [throwIfAborted, holds_question]
    refine ⟨guarded_other (by simp), ?_⟩
    rintro (_ | reason)
    · dsimp only
      rw [holds_question]
      refine ⟨by simpa [silent] using issue, ?_⟩
      rintro (value | error | reason)
      · simpa [resolvedAs, silent, event] using ok value
      · exact trivial
      · exact trivial
    · exact trivial
  · exact trivial

lemma harmless_resolvedAs {operation : Operation} {value : operation.Result}
    (other : ∀ entry ref, operation ≠ .destroyById entry ref) :
    Harmless (resolvedAs operation value) := by
  intro e he entry ref
  simp only [resolvedAs, silent, List.cons_append, List.nil_append, List.mem_cons,
    List.not_mem_nil, or_false] at he
  rcases he with rfl | rfl | rfl
  · simp
  · simp
  · simpa [event] using other entry ref

lemma holds_list (entry : AccountDriver) :
    Holds (Guarded quotaDomain drivers) (returning fun later owned => ∃ snapshot,
        later = events ++ resolvedAs (.list entry) snapshot ∧
          checkInventory quotaDomain entry.id snapshot = .ok owned)
      (list quotaDomain entry) events := by
  rw [list, holds_bind, holds_computed]
  cases throwIf (entry.driver.inventory = false) s!"{entry.id} inventory disappeared" with
  | error e => exact trivial
  | ok u =>
    refine Holds.andThen (P := fun later snapshot =>
      later = events ++ resolvedAs (.list entry) snapshot) ?_ ?_
    · exact holds_bounded (guarded_other (by simp)) (fun _ => rfl)
    · rintro later snapshot _ rfl
      rw [holds_computed]
      cases valid : checkInventory quotaDomain entry.id snapshot with
      | error e => exact trivial
      | ok owned => exact ⟨snapshot, rfl, valid⟩

/-! ### Inspecting -/

lemma mem_resolvedAs_list {entry entry' : AccountDriver} {snapshot snapshot' : InventorySnapshot}
    (h : event (.list entry') (.resolved snapshot') ∈ resolvedAs (.list entry) snapshot) :
    entry' = entry ∧ snapshot' = snapshot := by
  simp only [resolvedAs, silent, event, List.cons_append, List.nil_append, List.mem_cons,
    List.not_mem_nil, or_false, Sigma.mk.injEq, reduceCtorEq, false_and, false_or,
    Query.run.injEq, Operation.list.injEq] at h
  obtain ⟨rfl, same⟩ := h
  simpa using same

lemma listed_nil : Listed quotaDomain [] [] [] := by
  constructor
  all_goals simp [Harmless]

lemma Listed.cons {snapshots : List (AccountDriver × List SandboxRef)} {entry : AccountDriver}
    {owned : List SandboxRef} {snapshot : InventorySnapshot}
    (h : Listed quotaDomain drivers events snapshots)
    (valid : checkInventory quotaDomain entry.id snapshot = .ok owned) :
    Listed quotaDomain (entry :: drivers) (resolvedAs (.list entry) snapshot ++ events)
      ((entry, owned) :: snapshots) where
  entries := by simp [h.entries]
  listed := by
    intro pair hpair
    rcases List.mem_cons.mp hpair with rfl | hpair
    · exact ⟨snapshot, List.mem_append_left _ (by simp [resolvedAs]), valid⟩
    · obtain ⟨other, read, validOther⟩ := h.listed pair hpair
      exact ⟨other, List.mem_append_right _ read, validOther⟩
  all := by
    intro entry' snapshot' read
    rcases List.mem_append.mp read with here | later
    · obtain ⟨rfl, rfl⟩ := mem_resolvedAs_list here
      exact ⟨owned, valid, List.mem_cons_self⟩
    · obtain ⟨owned', valid', hpair⟩ := h.all entry' snapshot' later
      exact ⟨owned', valid', List.mem_cons_of_mem _ hpair⟩
  harmless := by
    intro e he
    rcases List.mem_append.mp he with here | later
    · exact harmless_resolvedAs (by simp) e here
    · exact h.harmless e later

lemma holds_inspect (entries : List AccountDriver) :
    Holds (Guarded quotaDomain drivers) (returning fun later snapshots => ∃ new,
        later = events ++ new ∧ Listed quotaDomain entries new snapshots)
      (inspect quotaDomain entries) events := by
  induction entries generalizing events with
  | nil => exact ⟨[], by simp, listed_nil⟩
  | cons entry entries ih =>
    rw [inspect]
    refine (holds_list entry).andThen ?_
    rintro later owned _ ⟨snapshot, rfl, valid⟩
    refine ih.andThen ?_
    rintro later snapshots _ ⟨new, rfl, listed⟩
    exact ⟨resolvedAs (.list entry) snapshot ++ new, by simp, listed.cons valid⟩

lemma holds_confirmEmpty (entries : List AccountDriver) :
    Holds (Guarded quotaDomain drivers) (returning fun later _ => ∃ new,
        later = events ++ new ∧
          Listed quotaDomain entries new (entries.map (fun entry => (entry, []))))
      (confirmEmpty quotaDomain entries) events := by
  induction entries generalizing events with
  | nil => exact ⟨[], by simp, listed_nil⟩
  | cons entry entries ih =>
    rw [confirmEmpty]
    refine (holds_list entry).andThen ?_
    rintro later owned _ ⟨snapshot, rfl, valid⟩
    rw [holds_bind, holds_computed]
    by_cases empty : owned = []
    · subst empty
      simp only [throwIf, ne_eq, not_true_eq_false, if_false, afterOk]
      refine ih.mono ?_
      rintro later (e | u) _ post
      · exact trivial
      · obtain ⟨new, rfl, listed⟩ := post
        exact ⟨resolvedAs (.list entry) snapshot ++ new, by simp, listed.cons valid⟩
    · simp [throwIf, empty, afterOk]

/-! ### Removing -/

lemma holds_awaitGone (entry : AccountDriver) (ref : SandboxRef) (rounds : Nat) :
    Holds (Guarded quotaDomain drivers) (returning fun later _ => ∃ new gone,
        later = events ++ new ∧ gone ≠ .running ∧
          event (.observe entry ref) (.resolved gone) ∈ new)
      (awaitGone entry ref rounds) events := by
  induction rounds generalizing events with
  | zero => exact trivial
  | succ rounds ih =>
    rw [awaitGone]
    refine Holds.andThen (P := fun later observation =>
      later = events ++ resolvedAs (.observe entry ref) observation) ?_ ?_
    · exact holds_bounded (guarded_other (by simp)) (fun _ => rfl)
    · rintro later observation _ rfl
      by_cases running : observation = .running
      · rw [if_pos running]
        have paused : ∀ before : Events, Holds (Guarded quotaDomain drivers)
            (returning fun later _ => ∃ new, later = before ++ new) (bounded .pause) before :=
          fun _ => holds_bounded (guarded_other (by simp)) (fun _ => ⟨_, rfl⟩)
        refine (paused _).andThen ?_
        rintro later _ _ ⟨new, rfl⟩
        refine ih.mono ?_
        rintro later (e | u) _ post
        · exact trivial
        · obtain ⟨rest, gone, rfl, notRunning, observed⟩ := post
          exact ⟨resolvedAs (.observe entry ref) observation ++ new ++ rest, gone, by simp,
            notRunning, List.mem_append_right _ observed⟩
      · rw [if_neg running]
        exact ⟨_, observation, rfl, running, by simp [resolvedAs]⟩

lemma holds_removeAll (rounds : Nat) (entry : AccountDriver) (owned : List SandboxRef)
    (inspected : ∀ d ∈ drivers, Inspected quotaDomain events d) :
    Holds (Guarded quotaDomain drivers) (returning fun later removed => ∃ new,
        later = events ++ new ∧ removed = owned ∧ ∀ ref ∈ owned, Removed new entry ref)
      (removeAll rounds entry owned) events := by
  induction owned generalizing events with
  | nil => exact ⟨[], by simp⟩
  | cons ref owned ih =>
    rw [removeAll]
    have destroyed : Holds (Guarded quotaDomain drivers) (returning fun later _ =>
        later = events ++ resolvedAs (.destroyById entry ref) ())
        (bounded (.destroyById entry ref)) events := by
      refine holds_bounded ?_ (fun _ => rfl)
      intro _ _ _ d hd
      exact (inspected d hd).mono (List.prefix_append _ _)
    refine destroyed.andThen ?_
    rintro later _ _ rfl
    refine (holds_awaitGone entry ref rounds).andThen ?_
    rintro later _ _ ⟨waited, gone, rfl, notRunning, observed⟩
    have still : ∀ d ∈ drivers, Inspected quotaDomain
        (events ++ resolvedAs (.destroyById entry ref) () ++ waited) d := fun d hd =>
      (inspected d hd).mono ((List.prefix_append _ _).trans (List.prefix_append _ _))
    refine (ih still).andThen ?_
    rintro later removed _ ⟨rest, rfl, rfl, each⟩
    have here : Removed (resolvedAs (.destroyById entry ref) () ++ waited) entry ref :=
      ⟨silent, waited, by simp [resolvedAs], gone, notRunning, observed⟩
    refine ⟨resolvedAs (.destroyById entry ref) () ++ waited ++ rest, by simp, rfl, ?_⟩
    intro r hr
    rcases List.mem_cons.mp hr with rfl | hr
    · simpa using here.append [] rest
    · simpa using (each r hr).append (resolvedAs (.destroyById entry ref) () ++ waited) []

lemma holds_recover (rounds : Nat) (snapshots : List (AccountDriver × List SandboxRef))
    (inspected : ∀ d ∈ drivers, Inspected quotaDomain events d) :
    Holds (Guarded quotaDomain drivers) (returning fun later removed => ∃ new,
        later = events ++ new ∧ removed = snapshots.flatMap Prod.snd ∧
          ∀ pair ∈ snapshots, ∀ ref ∈ pair.2, Removed new pair.1 ref)
      (recover rounds snapshots) events := by
  induction snapshots generalizing events with
  | nil => exact ⟨[], by simp⟩
  | cons pair snapshots ih =>
    obtain ⟨entry, owned⟩ := pair
    rw [recover, holds_bind, holds_computed]
    cases throwIf ((entry.driver.destroyById && entry.driver.probes) = false)
        "managed recovery capability disappeared" with
    | error e => exact trivial
    | ok u =>
      refine (holds_removeAll rounds entry owned inspected).andThen ?_
      rintro later removed _ ⟨new, rfl, rfl, each⟩
      have still : ∀ d ∈ drivers, Inspected quotaDomain (events ++ new) d := fun d hd =>
        (inspected d hd).mono (List.prefix_append _ _)
      refine (ih still).andThen ?_
      rintro later rest _ ⟨more, rfl, rfl, others⟩
      refine ⟨new ++ more, by simp, by simp, ?_⟩
      intro pair hpair ref href
      rcases List.mem_cons.mp hpair with rfl | hpair
      · simpa using (each ref href).append [] more
      · simpa using (others pair hpair ref href).append new []

/-! ### The whole run -/

/-- The events of a run that succeeded: every inventory, then every removal, then every inventory
again, and all of them empty. -/
def Reconciled (quotaDomain : String → String) (drivers : List AccountDriver) (events : Events)
    (evidence : ReconciliationEvidence) : Prop :=
  ∃ snapshots inspection recovery closing,
    events = inspection ++ recovery ++ closing ++ [⟨.now, evidence.confirmedAt⟩] ∧
    Listed quotaDomain drivers inspection snapshots ∧
    (∀ pair ∈ snapshots, ∀ ref ∈ pair.2, Removed recovery pair.1 ref) ∧
    evidence.removed = snapshots.flatMap Prod.snd ∧
    Listed quotaDomain drivers closing (drivers.map (fun entry => (entry, [])))

lemma holds_reconcileAccount (quotaDomain : String → String) (rounds : Nat)
    (drivers : List AccountDriver) (timeoutMs : Option ℚ) :
    Holds (Guarded quotaDomain drivers) (returning (Reconciled quotaDomain drivers))
      (reconcileAccount quotaDomain rounds drivers timeoutMs) [] := by
  have entry : ∀ (check : Except String Unit) (rest : Reconciling ReconciliationEvidence),
      Holds (Guarded quotaDomain drivers) (returning (Reconciled quotaDomain drivers)) rest [] →
      Holds (Guarded quotaDomain drivers) (returning (Reconciled quotaDomain drivers))
        (computed check >>= fun _ => rest) [] := by
    intro check rest holds
    rw [holds_bind, holds_computed]
    cases check with
    | error e => exact trivial
    | ok u => exact holds
  refine entry _ _ (entry _ _ (entry _ _ ?_))
  refine (holds_inspect drivers).andThen ?_
  rintro inspection snapshots _ ⟨_, rfl, listed⟩
  refine (holds_recover rounds snapshots fun d hd => listed.inspected hd).andThen ?_
  rintro later removed _ ⟨recovery, rfl, rfl, each⟩
  refine (holds_confirmEmpty drivers).andThen ?_
  rintro later _ _ ⟨closing, rfl, empty⟩
  refine ⟨guarded_other (by simp), ?_⟩
  intro confirmedAt
  exact ⟨snapshots, inspection, recovery, closing, rfl, listed, each, rfl, empty⟩

/-- No destroy is issued before every inventory has been read and validated; a run that resolves
removed all it found and then found every inventory empty. -/
theorem reconcileAccount_sound (quotaDomain : String → String) (rounds : Nat)
    (drivers : List AccountDriver) (timeoutMs : Option ℚ) :
    (∀ events entry ref,
      (reconcileAccount quotaDomain rounds drivers timeoutMs).run.Asks events
        (.run (.destroyById entry ref)) →
      ∀ d ∈ drivers, Inspected quotaDomain events d) ∧
    ∀ events evidence,
      (reconcileAccount quotaDomain rounds drivers timeoutMs).run.Returns events (.ok evidence) →
      Reconciled quotaDomain drivers events evidence := by
  have holds := holds_reconcileAccount quotaDomain rounds drivers timeoutMs
  constructor
  · intro events entry ref asks
    exact holds.asks asks entry ref rfl
  · intro events evidence returns
    exact holds.returns returns

/-! ### A run to evaluate -/

def sampleDriver : AccountDriver := ⟨"novita", ⟨0, true, true, true⟩⟩

def sampleRef : SandboxRef := ⟨"novita", some "sandbox"⟩

/-- One sandbox is found, destroyed and observed absent. -/
def sampleEvents : Events :=
  resolvedAs (.list sampleDriver) ⟨some [sampleRef], some 1⟩ ++
    (resolvedAs (.destroyById sampleDriver sampleRef) () ++
      resolvedAs (.observe sampleDriver sampleRef) .absent) ++
    resolvedAs (.list sampleDriver) ⟨some [], some 1⟩ ++ [⟨.now, "2026-01-01T00:00:00.000Z"⟩]

theorem reconcileAccount_sound_sample :
    Reconciled id [sampleDriver] sampleEvents ⟨"2026-01-01T00:00:00.000Z", [sampleRef]⟩ := by
  apply (reconcileAccount_sound id 1 [sampleDriver] (some 1000)).2
  apply Program.returns_of_follow
  rfl

end AccountReconciliation
