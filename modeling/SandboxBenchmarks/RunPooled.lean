import Mathlib.Algebra.Order.Floor.Ring
import Mathlib.Algebra.Order.Ring.Rat
import Mathlib.Data.List.Range
import Mathlib.Data.Rat.Floor
import Mathlib.Order.Interval.Finset.Nat
import Mathlib.Tactic.Linarith
import Mathlib.Tactic.Positivity
import Mathlib.Tactic.Ring
import SandboxBenchmarks.Library.Transition

/-!
# A bounded pool of tasks

`runPooled` and `fleetWaves` of `apps/cli/src/lib/replicates.ts`. Workers are
launched one after another; after that the environment settles tasks in any
order and lets time pass, though never past `deadline` after a task's start. A
settlement runs its worker up to the next task.
-/

namespace RunPooled

/-- A number, where infinities and `NaN` may come in. -/
inductive Number where
  | nan
  | finite (q : ℚ)
  | infinity
  | negInfinity
deriving DecidableEq, Repr

/-- `Math.min` -/
def mathMin : Number → Number → Number
  | .nan, _ => .nan
  | _, .nan => .nan
  | .negInfinity, _ => .negInfinity
  | _, .negInfinity => .negInfinity
  | .infinity, b => b
  | a, .infinity => a
  | .finite a, .finite b => .finite (min a b)

/-- `Math.max` -/
def mathMax : Number → Number → Number
  | .nan, _ => .nan
  | _, .nan => .nan
  | .infinity, _ => .infinity
  | _, .infinity => .infinity
  | .negInfinity, b => b
  | a, .negInfinity => a
  | .finite a, .finite b => .finite (max a b)

def divide : Number → Number → Number
  | .finite a, .finite b =>
    if b ≠ 0 then .finite (a / b)
    else if a = 0 then .nan
    else if 0 < a then .infinity else .negInfinity
  | .finite _, .infinity => .finite 0
  | .finite _, .negInfinity => .finite 0
  | .infinity, .finite b => if 0 ≤ b then .infinity else .negInfinity
  | .negInfinity, .finite b => if 0 ≤ b then .negInfinity else .infinity
  | _, _ => .nan

def ceil : Number → Number
  | .finite q => .finite ⌈q⌉
  | x => x

def floor : Number → Number
  | .finite q => .finite ⌊q⌋
  | x => x

/-- How many elements `Array.from({ length })` has. -/
def toLength : Number → Nat
  | .finite q => ⌊q⌋.toNat
  | .infinity => 9007199254740991
  | _ => 0

def fleetWaves (replicates maxConcurrency : Number) : Number :=
  ceil (divide replicates (mathMin maxConcurrency replicates))

/-- `Math.max(1, Math.min(items.length, limit))` workers. -/
def workerCount (items : Nat) (limit : Number) : Nat :=
  toLength (mathMax (.finite 1) (mathMin (.finite items) limit))

/-- How a task ends: with a value, with an error converted to one, or in a converter that throws. -/
inductive Outcome (ρ ξ : Type) where
  | value (result : ρ)
  | converted (result : ρ)
  | threw (error : ξ)
deriving DecidableEq, Repr

def Outcome.result {ρ ξ : Type} : Outcome ρ ξ → Option ρ
  | .value result => some result
  | .converted result => some result
  | .threw _ => none

def Outcome.error {ρ ξ : Type} : Outcome ρ ξ → Option ξ
  | .threw error => some error
  | _ => none

structure Pool (ρ ξ : Type) where
  next : Nat
  /-- Workers that `Array.from` has still to create. -/
  toLaunch : Nat
  /-- What each worker awaits; `none` once it has returned. -/
  workers : List (Option Nat)
  /-- An array with holes. -/
  results : List (Option ρ)
  converterError : Option ξ
  now : ℚ
  /-- When each task was started, in order. -/
  started : List (Nat × ℚ)
  settled : List (Nat × Outcome ρ ξ)
deriving DecidableEq, Repr

variable {ρ ξ : Type}

def Pool.initial (items : Nat) (limit : Number) : Pool ρ ξ where
  next := 0
  toLaunch := workerCount items limit
  workers := []
  results := List.replicate items none
  converterError := none
  now := 0
  started := []
  settled := []

/-- `const index = next++; if (index >= items.length) return;`, then the call of `fn`. -/
def Pool.take (items : Nat) (pool : Pool ρ ξ) : Option Nat × Pool ρ ξ :=
  if pool.next < items then
    (some pool.next,
      { pool with next := pool.next + 1, started := pool.started ++ [(pool.next, pool.now)] })
  else (none, { pool with next := pool.next + 1 })

/-- A task's outcome goes to its own slot; the first error of a converter is held. -/
def Pool.record (pool : Pool ρ ξ) (index : Nat) (outcome : Outcome ρ ξ) : Pool ρ ξ :=
  { pool with
    results :=
      match outcome.result with
      | some result => pool.results.set index (some result)
      | none => pool.results
    converterError := pool.converterError <|> outcome.error
    settled := pool.settled ++ [(index, outcome)] }

def Pool.inFlight (pool : Pool ρ ξ) : List Nat := pool.workers.filterMap id

/-- `Promise.all` has every worker's return. -/
def Pool.finished (pool : Pool ρ ξ) : Prop := pool.toLaunch = 0 ∧ pool.inFlight = []

/-- What the pool's promise settles with; holes stay out of reach behind the rejection. -/
def Pool.settlement (pool : Pool ρ ξ) : Except ξ (List (Option ρ)) :=
  match pool.converterError with
  | some error => .error error
  | none => .ok pool.results

inductive Event (ρ ξ : Type) where
  | launch
  | settle (worker : Nat) (outcome : Outcome ρ ξ)
  | tick (time : ℚ)
deriving DecidableEq, Repr

/-- Time may pass while the pool waits, but not beyond the deadline of a task in flight. -/
def Pool.waits (deadline : ℚ) (pool : Pool ρ ξ) (time : ℚ) : Prop :=
  pool.toLaunch = 0 ∧ pool.inFlight ≠ [] ∧ pool.now ≤ time ∧
    ∀ start ∈ pool.started, start.1 ∈ pool.inFlight → time ≤ start.2 + deadline

instance (deadline : ℚ) (pool : Pool ρ ξ) (time : ℚ) : Decidable (pool.waits deadline time) :=
  inferInstanceAs (Decidable (_ ∧ _ ∧ _ ∧ _))

def step (items : Nat) (deadline : ℚ) (pool : Pool ρ ξ) : Event ρ ξ → Option (Pool ρ ξ)
  | .launch =>
    match pool.toLaunch with
    | 0 => none
    | toLaunch + 1 =>
      let (task, pool) := pool.take items
      some { pool with toLaunch := toLaunch, workers := pool.workers ++ [task] }
  | .settle worker outcome =>
    match pool.workers[worker]? with
    | some (some index) =>
      let (task, pool) := (pool.record index outcome).take items
      some { pool with workers := pool.workers.set worker task }
    | _ => none
  | .tick time => if pool.waits deadline time then some { pool with now := time } else none

def Steps (items : Nat) (deadline : ℚ) (pool pool' : Pool ρ ξ) : Prop :=
  ∃ event, step items deadline pool event = some pool'

def Reachable (items : Nat) (limit : Number) (deadline : ℚ) (pool : Pool ρ ξ) : Prop :=
  Transition.Reachable (fun start => start = Pool.initial items limit) (Steps items deadline) pool

/-- The width of a pool: `limit` in whole workers, and at least one. -/
def poolWidth (limit : Number) : Number := floor (mathMax (.finite 1) limit)

/-! ### What every reachable pool satisfies -/

/-- The result a task's settlement left. -/
def resultOf (settled : List (Nat × Outcome ρ ξ)) (index : Nat) : Option ρ :=
  (settled.find? (fun entry => entry.1 == index)).bind (fun entry => entry.2.result)

structure Sound (items width : Nat) (deadline : ℚ) (pool : Pool ρ ξ) : Prop where
  launched : pool.workers.length + pool.toLaunch = width
  taken : pool.workers.length ≤ pool.next
  started : pool.started.map Prod.fst = List.range (min pool.next items)
  split : (pool.inFlight ++ pool.settled.map Prod.fst).Perm (List.range (min pool.next items))
  returned : none ∈ pool.workers → items ≤ pool.next
  length : pool.results.length = items
  results : ∀ index, index < items → pool.results[index]? = some (resultOf pool.settled index)
  converterError : pool.converterError = (pool.settled.filterMap (fun entry => entry.2.error)).head?
  starts : ∀ start ∈ pool.started, start.2 ≤ (start.1 / width : ℕ) * deadline
  punctual : ∀ start ∈ pool.started, start.1 ∈ pool.inFlight → pool.now ≤ start.2 + deadline
  launching : pool.toLaunch ≠ 0 → pool.now = 0
  late : pool.now ≤ 0 ∨ ∃ start ∈ pool.started, pool.now ≤ start.2 + deadline

variable {items width : Nat} {deadline : ℚ} {pool pool' : Pool ρ ξ}

lemma perm_set {α : Type} {l : List α} {i : Nat} {a : α} (h : l[i]? = some a) (b : α) :
    (a :: l.set i b).Perm (b :: l) := by
  induction l generalizing i with
  | nil => cases h
  | cons c l ih =>
    cases i with
    | zero =>
      rw [List.getElem?_cons_zero, Option.some.injEq] at h
      subst h
      exact List.Perm.swap b c l
    | succ i =>
      rw [List.getElem?_cons_succ] at h
      rw [List.set_cons_succ]
      exact (List.Perm.swap c a _).trans (((ih h).cons c).trans (List.Perm.swap b c l))

/-- A worker's task is replaced by its next one. -/
lemma inFlight_set {workers : List (Option Nat)} {worker index : Nat}
    (h : workers[worker]? = some (some index)) (task : Option Nat) :
    (index :: (workers.set worker task).filterMap id).Perm (task.toList ++ workers.filterMap id) := by
  have moved := (perm_set h task).filterMap id
  cases task with
  | none => simpa using moved
  | some next => simpa using moved

lemma mem_inFlight {worker index : Nat} (h : pool.workers[worker]? = some (some index)) :
    index ∈ pool.inFlight :=
  List.mem_filterMap.mpr ⟨some index, List.mem_of_getElem? h, rfl⟩

lemma length_inFlight_le : pool.inFlight.length ≤ pool.workers.length :=
  List.length_filterMap_le _ _

lemma length_filterMap_of_no_none {l : List (Option Nat)} (h : none ∉ l) :
    (l.filterMap id).length = l.length := by
  induction l with
  | nil => rfl
  | cons a l ih =>
    rw [List.mem_cons, not_or] at h
    cases a with
    | none => exact absurd rfl h.1
    | some i => simpa using ih h.2

/-- Among distinct numbers below `n` the least is at least their count below `n`. -/
lemma exists_early {l : List Nat} {n : Nat} (nodup : l.Nodup) (below : ∀ j ∈ l, j < n)
    (nonempty : l ≠ []) : ∃ j ∈ l, j + l.length ≤ n := by
  by_contra late
  push Not at late
  have inside : l.toFinset ⊆ Finset.Ico (n + 1 - l.length) n := by
    intro j hj
    rw [List.mem_toFinset] at hj
    have := below j hj
    have := late j hj
    rw [Finset.mem_Ico]
    omega
  have count := Finset.card_le_card inside
  rw [List.toFinset_card_of_nodup nodup, Nat.card_Ico] at count
  have positive := List.length_pos_of_ne_nil nonempty
  omega

namespace Sound

variable (h : Sound items width deadline pool)
include h

lemma nodup : (pool.inFlight ++ pool.settled.map Prod.fst).Nodup :=
  h.split.nodup_iff.mpr List.nodup_range

lemma inFlight_lt {index : Nat} (member : index ∈ pool.inFlight) : index < min pool.next items :=
  List.mem_range.mp (h.split.mem_iff.mp (List.mem_append_left _ member))

lemma start_of_inFlight {index : Nat} (member : index ∈ pool.inFlight) :
    ∃ time, (index, time) ∈ pool.started := by
  have known : index ∈ pool.started.map Prod.fst := by
    rw [h.started, List.mem_range]
    exact h.inFlight_lt member
  obtain ⟨⟨i, time⟩, hstart, rfl⟩ := List.mem_map.mp known
  exact ⟨time, hstart⟩

lemma start_lt {start : Nat × ℚ} (member : start ∈ pool.started) : start.1 < min pool.next items := by
  have known : start.1 ∈ pool.started.map Prod.fst := List.mem_map_of_mem member
  rwa [h.started, List.mem_range] at known

/-- While items are left, every launched worker has a task. -/
lemma busy (left : pool.next < items) : pool.inFlight.length = pool.workers.length := by
  apply length_filterMap_of_no_none
  intro idle
  have := h.returned idle
  omega

/-- The next task would not start late. -/
lemma next_start (left : pool.next < items) (positive : 0 < width) (nonneg : 0 ≤ deadline) :
    pool.now ≤ (pool.next / width : ℕ) * deadline := by
  by_cases launching : pool.toLaunch = 0
  · have count : pool.inFlight.length = width := by
      have := h.busy left
      have := h.launched
      omega
    have nonempty : pool.inFlight ≠ [] := by
      intro empty
      rw [empty, List.length_nil] at count
      omega
    have below : ∀ j ∈ pool.inFlight, j < pool.next := by
      intro j hj
      have := h.inFlight_lt hj
      omega
    obtain ⟨j, hj, early⟩ := exists_early (List.nodup_append.mp h.nodup).1 below nonempty
    rw [count] at early
    obtain ⟨time, hstart⟩ := h.start_of_inFlight hj
    have wave : j / width + 1 ≤ pool.next / width := by
      rw [← Nat.add_div_right j positive]
      exact Nat.div_le_div_right early
    have began := h.starts _ hstart
    have due := h.punctual _ hstart hj
    have cast : ((j / width : ℕ) : ℚ) + 1 ≤ (pool.next / width : ℕ) := by exact_mod_cast wave
    calc pool.now ≤ time + deadline := due
      _ ≤ (j / width : ℕ) * deadline + deadline := by linarith
      _ = ((j / width : ℕ) + 1) * deadline := by ring
      _ ≤ (pool.next / width : ℕ) * deadline := mul_le_mul_of_nonneg_right cast nonneg
  · rw [h.launching launching]
    positivity

end Sound

lemma initial_sound (items : Nat) (limit : Number) (deadline : ℚ) :
    Sound items (workerCount items limit) deadline (Pool.initial items limit : Pool ρ ξ) where
  launched := by simp [Pool.initial]
  taken := by simp [Pool.initial]
  started := by simp [Pool.initial]
  split := by simp [Pool.initial, Pool.inFlight]
  returned := by simp [Pool.initial]
  length := by simp [Pool.initial]
  results := by
    intro index inside
    simp [Pool.initial, resultOf, inside]
  converterError := rfl
  starts := by simp [Pool.initial]
  punctual := by simp [Pool.initial]
  launching := fun _ => rfl
  late := Or.inl le_rfl

/-! ### One step -/

lemma take_of_lt (left : pool.next < items) : pool.take items = (some pool.next,
    { pool with next := pool.next + 1, started := pool.started ++ [(pool.next, pool.now)] }) := by
  rw [Pool.take, if_pos left]

lemma take_of_le (none_left : items ≤ pool.next) :
    pool.take items = (none, { pool with next := pool.next + 1 }) := by
  rw [Pool.take, if_neg (Nat.not_lt.mpr none_left)]

lemma launch_sound (h : Sound items width deadline pool) (nonneg : 0 ≤ deadline)
    (launch : step items deadline pool .launch = some pool') :
    Sound items width deadline pool' := by
  simp only [step] at launch
  split at launch
  · cases launch
  · rename_i toLaunch more
    have quiet : pool.now = 0 := h.launching (by omega)
    have launched := h.launched
    have taken := h.taken
    by_cases left : pool.next < items
    · simp only [take_of_lt left, Option.some.injEq] at launch
      subst launch
      have here : min (pool.next + 1) items = min pool.next items + 1 := by omega
      have index : min pool.next items = pool.next := by omega
      constructor
      · simp only [List.length_append, List.length_singleton]
        omega
      · simp only [List.length_append, List.length_singleton]
        omega
      · rw [here, List.range_succ, List.map_append, h.started, index]
        rfl
      · have added : (pool.inFlight ++ [pool.next] ++ pool.settled.map Prod.fst).Perm
            (pool.inFlight ++ pool.settled.map Prod.fst ++ [pool.next]) := by
          rw [List.append_assoc, List.append_assoc]
          exact List.perm_append_comm.append_left _
        rw [here, List.range_succ, index]
        simpa [Pool.inFlight, index] using added.trans (h.split.append_right [pool.next])
      · simp only [List.mem_append, List.mem_singleton, reduceCtorEq, or_false]
        intro idle
        have := h.returned idle
        omega
      · exact h.length
      · exact h.results
      · exact h.converterError
      · intro start member
        rcases List.mem_append.mp member with old | new
        · exact h.starts start old
        · rw [List.mem_singleton.mp new]
          simp only [quiet]
          positivity
      · intro start member flying
        rcases List.mem_append.mp member with old | new
        · have before := h.start_lt old
          apply h.punctual start old
          simp only [Pool.inFlight, List.filterMap_append, List.filterMap_cons, id_eq,
            List.filterMap_nil, List.mem_append, List.mem_singleton] at flying
          rcases flying with flying | same
          · exact flying
          · omega
        · rw [List.mem_singleton.mp new]
          simpa using nonneg
      · exact fun _ => quiet
      · exact Or.inl quiet.le
    · have none_left : items ≤ pool.next := Nat.not_lt.mp left
      simp only [take_of_le none_left, Option.some.injEq] at launch
      subst launch
      have here : min (pool.next + 1) items = min pool.next items := by omega
      have flying : (pool.workers ++ [none]).filterMap id = pool.inFlight := by
        simp [Pool.inFlight]
      constructor
      · simp only [List.length_append, List.length_singleton]
        omega
      · simp only [List.length_append, List.length_singleton]
        omega
      · rw [here]
        exact h.started
      · rw [here]
        simpa only [Pool.inFlight, flying] using h.split
      · intro _
        dsimp only
        omega
      · exact h.length
      · exact h.results
      · exact h.converterError
      · exact h.starts
      · intro start member now_flying
        apply h.punctual start member
        rwa [Pool.inFlight, flying] at now_flying
      · exact fun _ => quiet
      · exact Or.inl quiet.le

lemma resultOf_snoc {settled : List (Nat × Outcome ρ ξ)} {index : Nat} {outcome : Outcome ρ ξ}
    (fresh : index ∉ settled.map Prod.fst) (other : Nat) :
    resultOf (settled ++ [(index, outcome)]) other =
      if index = other then outcome.result else resultOf settled other := by
  by_cases same : index = other
  · subst same
    have missing : settled.find? (fun entry => entry.1 == index) = none := by
      rw [List.find?_eq_none]
      intro entry member hit
      exact fresh (List.mem_map.mpr ⟨entry, member, by simpa using hit⟩)
    simp [resultOf, List.find?_append, missing]
  · simp [resultOf, List.find?_append, same]

/-- Recording an outcome fills the slot of its own task. -/
lemma record_results {index : Nat} {outcome : Outcome ρ ξ} (length : pool.results.length = items)
    (results : ∀ i, i < items → pool.results[i]? = some (resultOf pool.settled i))
    (fresh : index ∉ pool.settled.map Prod.fst) :
    (pool.record index outcome).results.length = items ∧ ∀ i, i < items →
      (pool.record index outcome).results[i]? =
        some (resultOf (pool.record index outcome).settled i) := by
  have empty : resultOf pool.settled index = none := by
    have missing : pool.settled.find? (fun entry => entry.1 == index) = none := by
      rw [List.find?_eq_none]
      intro entry member hit
      exact fresh (List.mem_map.mpr ⟨entry, member, by simpa using hit⟩)
    rw [resultOf, missing]
    rfl
  simp only [Pool.record]
  cases kept : outcome.result with
  | none =>
    refine ⟨length, ?_⟩
    intro i inside
    rw [resultOf_snoc fresh]
    by_cases same : index = i
    · subst same
      rw [if_pos rfl, kept, results _ inside, empty]
    · rw [if_neg same, results _ inside]
  | some result =>
    refine ⟨by simpa using length, ?_⟩
    intro i inside
    rw [resultOf_snoc fresh, List.getElem?_set]
    by_cases same : index = i
    · subst same
      simp [kept, length, inside]
    · simp [same, results _ inside]

lemma settle_sound (h : Sound items width deadline pool) (positive : 0 < width)
    (nonneg : 0 ≤ deadline) {worker : Nat} {outcome : Outcome ρ ξ}
    (settle : step items deadline pool (.settle worker outcome) = some pool') :
    Sound items width deadline pool' := by
  simp only [step] at settle
  split at settle
  · rename_i index awaits
    have launched := h.launched
    have taken := h.taken
    have flying := mem_inFlight awaits
    have fresh : index ∉ pool.settled.map Prod.fst := by
      intro again
      exact (List.nodup_append.mp h.nodup).2.2 index flying index again rfl
    have filled := @record_results _ _ _ _ index outcome h.length h.results fresh
    have error : (pool.record index outcome).converterError =
        ((pool.record index outcome).settled.filterMap (fun entry => entry.2.error)).head? := by
      simp only [Pool.record, h.converterError, List.filterMap_append, List.head?_append]
      cases outcome with
      | value result => simp [Outcome.error]
      | converted result => simp [Outcome.error]
      | threw e => simp [Outcome.error, Option.or]
    have moves : ∀ task : Option Nat,
        ((pool.workers.set worker task).filterMap id ++
          (pool.record index outcome).settled.map Prod.fst).Perm
        (task.toList ++ (pool.inFlight ++ pool.settled.map Prod.fst)) := by
      intro task
      simp only [Pool.record, List.map_append, List.map_cons, List.map_nil]
      have rotate : ((pool.workers.set worker task).filterMap id ++
          (pool.settled.map Prod.fst ++ [index])).Perm
          (index :: (pool.workers.set worker task).filterMap id ++ pool.settled.map Prod.fst) := by
        rw [← List.append_assoc]
        exact List.perm_append_comm
      refine rotate.trans ?_
      rw [← List.append_assoc]
      exact (inFlight_set awaits task).append_right _
    have stays : ∀ {task : Option Nat} {i : Nat},
        i ∈ (pool.workers.set worker task).filterMap id → task = some i ∨ i ∈ pool.inFlight := by
      intro task i member
      have moved := (inFlight_set awaits task).mem_iff.mp (List.mem_cons_of_mem index member)
      rcases List.mem_append.mp moved with new | old
      · exact Or.inl (Option.mem_toList.mp new)
      · exact Or.inr old
    by_cases left : pool.next < items
    · have left' : (pool.record index outcome).next < items := left
      simp only [take_of_lt left', Option.some.injEq] at settle
      subst settle
      have here : min (pool.next + 1) items = min pool.next items + 1 := by omega
      have atNext : min pool.next items = pool.next := by omega
      have noIdle : none ∉ pool.workers := by
        intro idle
        have := h.returned idle
        omega
      constructor
      · simpa [Pool.record] using launched
      · simp only [Pool.record, List.length_set]
        omega
      · simp only [Pool.record, List.map_append, h.started, here, List.range_succ, atNext]
        rfl
      · simp only [Pool.inFlight, Pool.record, here, List.range_succ]
        refine (moves (some pool.next)).trans ?_
        rw [atNext]
        refine (List.perm_append_comm).trans ?_
        have before := h.split
        rw [atNext] at before
        exact before.append_right _
      · intro idle
        rcases List.mem_or_eq_of_mem_set idle with idle | bad
        · exact absurd idle noIdle
        · cases bad
      · exact filled.1
      · exact filled.2
      · exact error
      · intro start member
        rcases List.mem_append.mp member with old | new
        · exact h.starts start old
        · rw [List.mem_singleton.mp new]
          exact h.next_start left positive nonneg
      · intro start member now_flying
        rcases List.mem_append.mp member with old | new
        · have before := h.start_lt old
          apply h.punctual start old
          rcases stays now_flying with same | flying
          · simp only [Pool.record, Option.some.injEq] at same
            omega
          · exact flying
        · rw [List.mem_singleton.mp new]
          simpa [Pool.record] using nonneg
      · exact h.launching
      · rcases h.late with early | ⟨start, member, due⟩
        · exact Or.inl early
        · exact Or.inr ⟨start, List.mem_append_left _ member, due⟩
    · have none_left : items ≤ (pool.record index outcome).next := Nat.not_lt.mp left
      simp only [take_of_le none_left, Option.some.injEq] at settle
      subst settle
      have here : min (pool.next + 1) items = min pool.next items := by omega
      constructor
      · simpa [Pool.record] using launched
      · simp only [Pool.record, List.length_set]
        omega
      · simp only [Pool.record, here]
        exact h.started
      · simp only [Pool.inFlight, Pool.record, here]
        exact (moves none).trans h.split
      · intro _
        simp only [Pool.record]
        omega
      · exact filled.1
      · exact filled.2
      · exact error
      · exact h.starts
      · intro start member now_flying
        apply h.punctual start member
        rcases stays now_flying with same | flying
        · cases same
        · exact flying
      · exact h.launching
      · exact h.late
  · cases settle

lemma tick_sound (h : Sound items width deadline pool) {time : ℚ}
    (tick : step items deadline pool (.tick time) = some pool') :
    Sound items width deadline pool' := by
  simp only [step, Option.ite_none_right_eq_some, Option.some.injEq] at tick
  obtain ⟨⟨launched, busy, later, due⟩, rfl⟩ := tick
  obtain ⟨index, member⟩ := List.exists_mem_of_ne_nil _ busy
  obtain ⟨began, hstart⟩ := h.start_of_inFlight member
  exact {
    launched := h.launched
    taken := h.taken
    started := h.started
    split := h.split
    returned := h.returned
    length := h.length
    results := h.results
    converterError := h.converterError
    starts := h.starts
    punctual := due
    launching := fun bad => absurd launched bad
    late := Or.inr ⟨(index, began), hstart, due _ hstart member⟩ }

theorem reachable_sound {limit : Number} (positive : 0 < workerCount items limit)
    (nonneg : 0 ≤ deadline) (reachable : Reachable items limit deadline pool) :
    Sound items (workerCount items limit) deadline pool := by
  refine reachable.invariant ?_ ?_
  · rintro _ rfl
    exact initial_sound items limit deadline
  · rintro s s' sound ⟨event, stepped⟩
    cases event with
    | launch => exact launch_sound sound nonneg stepped
    | settle worker outcome => exact settle_sound sound positive nonneg stepped
    | tick time => exact tick_sound sound stepped

/-! ### Widths -/

/-- A count that a number does not fall below. -/
def atMost (count : Nat) : Number → Prop
  | .finite q => (count : ℚ) ≤ q
  | .infinity => True
  | _ => False

@[simp] lemma mathMin_infinity (q : ℚ) : mathMin .infinity (.finite q) = .finite q := rfl

/-- How many workers a limit stands for. -/
inductive Width (items : Nat) (limit : Number) : Prop
  | unbounded (width : poolWidth limit = .infinity) (workers : workerCount items limit = max 1 items)
  | bounded (k : Nat) (positive : 1 ≤ k) (width : poolWidth limit = .finite k)
      (workers : workerCount items limit = max 1 (min items k))

lemma width_of (items : Nat) {limit : Number} (proper : limit ≠ .nan) : Width items limit := by
  cases limit with
  | nan => exact absurd rfl proper
  | infinity =>
    apply Width.unbounded rfl
    simp only [workerCount, mathMin, mathMax, toLength]
    rw [Int.floor_mono.map_max, Int.floor_one, Int.floor_natCast]
    omega
  | negInfinity =>
    refine Width.bounded 1 le_rfl ?_ ?_
    · simp [poolWidth, mathMax, floor]
    · simp only [workerCount, mathMin, mathMax, toLength, Int.floor_one]
      omega
  | finite q =>
    have floors : ⌊max 1 q⌋ = max 1 ⌊q⌋ := by rw [Int.floor_mono.map_max, Int.floor_one]
    obtain ⟨k, hk⟩ := Int.eq_ofNat_of_zero_le (a := ⌊max 1 q⌋) (by omega)
    refine Width.bounded k (by omega) ?_ ?_
    · simp only [poolWidth, mathMax, floor]
      rw [hk]
      simp
    · simp only [workerCount, mathMin, mathMax, toLength]
      rw [Int.floor_mono.map_max, Int.floor_mono.map_min, Int.floor_one, Int.floor_natCast]
      omega

lemma Width.positive {limit : Number} (h : Width items limit) : 0 < workerCount items limit := by
  cases h with
  | unbounded _ workers => omega
  | bounded k _ _ workers => omega

/-- A wave of a nonempty pool is as wide as the pool. -/
lemma Width.wave {limit : Number} (h : Width items limit) (nonempty : 0 < items) :
    mathMin (poolWidth limit) (.finite items) = .finite (workerCount items limit) := by
  cases h with
  | unbounded width workers =>
    rw [width, workers, mathMin_infinity, Nat.max_eq_right nonempty]
  | bounded k positive width workers =>
    have same : workerCount items limit = min k items := by omega
    rw [width, same, mathMin, Nat.cast_min]

namespace Sound

variable {limit : Number} (h : Sound items (workerCount items limit) deadline pool)
include h

lemma count : pool.inFlight.length + pool.settled.length = min pool.next items := by
  simpa using h.split.length_eq

/-- Launched workers keep the pool as full as the limit and the tasks left allow. -/
lemma full (width : Width items limit) (launched : pool.toLaunch = 0) :
    Number.finite pool.inFlight.length =
      mathMin (poolWidth limit) (.finite (items - pool.settled.length : ℕ)) := by
  have count := h.count
  have workers := h.launched
  have taken := h.taken
  have few : pool.inFlight.length ≤ pool.workers.length := length_inFlight_le
  have busy := h.busy
  cases width with
  | unbounded same wide =>
    rw [same, mathMin_infinity]
    congr 2
    omega
  | bounded k positive same wide =>
    rw [same, mathMin, ← Nat.cast_min]
    congr 2
    by_cases left : pool.next < items
    · have := busy left
      omega
    · omega

lemma narrow (width : Width items limit) : atMost pool.inFlight.length (poolWidth limit) := by
  have workers := h.launched
  have few : pool.inFlight.length ≤ pool.workers.length := length_inFlight_le
  cases width with
  | unbounded same wide =>
    rw [same]
    exact trivial
  | bounded k positive same wide =>
    rw [same, atMost, Nat.cast_le]
    omega

/-- Every settlement so far fell within the waves. -/
lemma waves (width : Width items limit) (nonneg : 0 ≤ deadline) (nonempty : 0 < items) :
    ∃ waves : ℚ, fleetWaves (.finite items) (poolWidth limit) = .finite waves ∧
      pool.now ≤ waves * deadline := by
  have positive := width.positive
  have nonzero : ((workerCount items limit : ℕ) : ℚ) ≠ 0 := by exact_mod_cast positive.ne'
  refine ⟨⌈(items : ℚ) / workerCount items limit⌉, ?_, ?_⟩
  · rw [fleetWaves, width.wave nonempty, divide, if_pos nonzero, ceil]
  · rcases h.late with early | ⟨start, member, due⟩
    · have : (0 : ℤ) ≤ ⌈(items : ℚ) / workerCount items limit⌉ := Int.ceil_nonneg (by positivity)
      have cast : (0 : ℚ) ≤ ⌈(items : ℚ) / workerCount items limit⌉ := by exact_mod_cast this
      calc pool.now ≤ 0 := early
        _ ≤ _ := mul_nonneg cast nonneg
    · have below : start.1 < items := by
        have := h.start_lt member
        omega
      have quotient : ((start.1 / workerCount items limit : ℕ) : ℚ) <
          (items : ℚ) / workerCount items limit := by
        rw [lt_div_iff₀ (by exact_mod_cast positive)]
        have whole := Nat.div_mul_le_self start.1 (workerCount items limit)
        exact_mod_cast Nat.lt_of_le_of_lt whole below
      have wave : ((start.1 / workerCount items limit : ℕ) : ℤ) + 1 ≤
          ⌈(items : ℚ) / workerCount items limit⌉ := by
        rw [Int.add_one_le_iff, Int.lt_ceil, Int.cast_natCast]
        exact quotient
      have cast : ((start.1 / workerCount items limit : ℕ) : ℚ) + 1 ≤
          (⌈(items : ℚ) / workerCount items limit⌉ : ℤ) := by
        have whole := (Int.cast_le (R := ℚ)).mpr wave
        simpa only [Int.cast_add, Int.cast_natCast, Int.cast_one] using whole
      have began := h.starts _ member
      calc pool.now ≤ start.2 + deadline := due
        _ ≤ (start.1 / workerCount items limit : ℕ) * deadline + deadline := by linarith
        _ = ((start.1 / workerCount items limit : ℕ) + 1) * deadline := by ring
        _ ≤ _ := mul_le_mul_of_nonneg_right cast nonneg

/-- When the last worker has returned, every item was run. -/
lemma drained (positive : 0 < workerCount items limit) (finished : pool.finished) :
    (pool.settled.map Prod.fst).Perm (List.range items) := by
  obtain ⟨launched, idle⟩ := finished
  have whole : items ≤ pool.next := by
    by_contra left
    have busy := h.busy (Nat.lt_of_not_le left)
    have workers := h.launched
    rw [idle, List.length_nil] at busy
    omega
  have split := h.split
  rw [idle, List.nil_append, Nat.min_eq_right whole] at split
  exact split

omit h in
/-- A task in flight can settle either way, whatever the others did. -/
lemma settles {index : Nat} (member : index ∈ pool.inFlight) (outcome : Outcome ρ ξ) :
    ∃ pool', Steps items deadline pool pool' ∧ (index, outcome) ∈ pool'.settled := by
  obtain ⟨task, htask, same⟩ := List.mem_filterMap.mp member
  obtain ⟨worker, inside, rfl⟩ := List.getElem_of_mem htask
  have awaits : pool.workers[worker]? = some (some index) := by
    rw [List.getElem?_eq_getElem inside]
    exact congrArg some same
  by_cases left : (pool.record index outcome).next < items
  · refine ⟨_, ⟨.settle worker outcome, by simp only [step, awaits]; rfl⟩, ?_⟩
    rw [take_of_lt left]
    simp [Pool.record]
  · refine ⟨_, ⟨.settle worker outcome, by simp only [step, awaits]; rfl⟩, ?_⟩
    rw [take_of_le (Nat.not_lt.mp left)]
    simp [Pool.record]

lemma result_of_settled {index : Nat} {outcome : Outcome ρ ξ}
    (member : (index, outcome) ∈ pool.settled) :
    pool.results[index]? = some outcome.result := by
  have inside : index < items := by
    have known := List.mem_append_right pool.inFlight
      (List.mem_map_of_mem (f := Prod.fst) member)
    have := List.mem_range.mp (h.split.mem_iff.mp known)
    omega
  rw [h.results index inside]
  have distinct := (List.nodup_append.mp h.nodup).2.1
  cases found : pool.settled.find? (fun entry => entry.1 == index) with
  | none =>
    rw [List.find?_eq_none] at found
    exact absurd (found _ member) (by simp)
  | some entry =>
    have key : entry.1 = index := by simpa using List.find?_some found
    have same : entry = (index, outcome) :=
      List.inj_on_of_nodup_map distinct (List.mem_of_find?_eq_some found) member key
    simp [resultOf, found, same]

end Sound

/-! ### The whole pool -/

/-- What a pool of `items` tasks under `limit` keeps to, in every state of every run. -/
structure Pooled (items : Nat) (limit : Number) (deadline : ℚ) (pool : Pool ρ ξ) : Prop where
  once : (pool.started.map Prod.fst).Nodup
  known : ∀ start ∈ pool.started, start.1 < items
  bounded : atMost pool.inFlight.length (poolWidth limit)
  full : pool.toLaunch = 0 → Number.finite pool.inFlight.length =
    mathMin (poolWidth limit) (.finite (items - pool.settled.length : ℕ))
  peers : ∀ index ∈ pool.inFlight, ∀ outcome : Outcome ρ ξ, ∃ pool',
    Steps items deadline pool pool' ∧ (index, outcome) ∈ pool'.settled
  drained : pool.finished → (pool.started.map Prod.fst).Perm (List.range items) ∧
    (pool.settled.map Prod.fst).Perm (List.range items)
  resolves : pool.finished → (∀ entry ∈ pool.settled, entry.2.error = none) →
    ∃ results, pool.settlement = .ok results ∧ results.length = items ∧
      ∀ index outcome, (index, outcome) ∈ pool.settled →
        ∃ result, outcome.result = some result ∧ results[index]? = some (some result)
  rejects : ∀ entry ∈ pool.settled, entry.2.error ≠ none → ∃ error, pool.settlement = .error error
  punctual : 0 < items → ∃ waves : ℚ,
    fleetWaves (.finite items) (poolWidth limit) = .finite waves ∧ pool.now ≤ waves * deadline
  immediate : items = 0 → pool.now ≤ 0

lemma result_of_no_error {outcome : Outcome ρ ξ} (h : outcome.error = none) :
    ∃ result, outcome.result = some result := by
  cases outcome with
  | value result => exact ⟨result, rfl⟩
  | converted result => exact ⟨result, rfl⟩
  | threw error => cases h

/-- `deadline` bounds how long a task takes; `limit` counts in whole workers. -/
theorem runPooled_pooled {items : Nat} {limit : Number} {deadline : ℚ} {pool : Pool ρ ξ}
    (proper : limit ≠ .nan) (nonneg : 0 ≤ deadline)
    (reachable : Reachable items limit deadline pool) : Pooled items limit deadline pool := by
  have width : Width items limit := width_of items proper
  have sound := reachable_sound width.positive nonneg reachable
  have nodup : (pool.started.map Prod.fst).Nodup := by
    rw [sound.started]
    exact List.nodup_range
  refine ⟨nodup, ?_, sound.narrow width, sound.full width, ?_, ?_, ?_, ?_,
    sound.waves width nonneg, ?_⟩
  · intro start member
    have := sound.start_lt member
    omega
  · intro index member outcome
    exact Sound.settles member outcome
  · intro finished
    have settled := sound.drained width.positive finished
    have split := sound.split
    rw [finished.2, List.nil_append] at split
    rw [sound.started]
    exact ⟨split.symm.trans settled, settled⟩
  · intro finished clean
    have none_held : pool.converterError = none := by
      rw [sound.converterError, List.head?_eq_none_iff, List.filterMap_eq_nil_iff]
      exact clean
    refine ⟨pool.results, by rw [Pool.settlement, none_held], sound.length, ?_⟩
    intro index outcome member
    obtain ⟨result, kept⟩ := result_of_no_error (clean _ member)
    exact ⟨result, kept, by rw [sound.result_of_settled member, kept]⟩
  · intro entry member threw
    cases held : pool.converterError with
    | none =>
      rw [sound.converterError, List.head?_eq_none_iff, List.filterMap_eq_nil_iff] at held
      exact absurd (held entry member) threw
    | some error => exact ⟨error, by rw [Pool.settlement, held]⟩
  · rintro rfl
    rcases sound.late with early | ⟨start, member, _⟩
    · exact early
    · have := sound.start_lt member
      omega

/-! ### Runs to evaluate -/

def run (items : Nat) (deadline : ℚ) (pool : Pool ρ ξ) (events : List (Event ρ ξ)) :
    Option (Pool ρ ξ) := events.foldlM (step items deadline) pool

lemma leads_of_run {events : List (Event ρ ξ)} {items : Nat} {deadline : ℚ} {pool pool' : Pool ρ ξ}
    (h : run items deadline pool events = some pool') :
    Transition.Leads (Steps items deadline) pool pool' :=
  Transition.leads_of_foldlM h

/-- Three tasks under a limit of two; the second one fails and its error is converted. -/
def sampleEvents : List (Event String String) :=
  [.launch, .launch, .tick 1, .settle 1 (.converted "failed"), .settle 0 (.value "first"), .tick 2,
    .settle 1 (.value "third")]

theorem runPooled_pooled_sample : ∃ pool : Pool String String,
    pool.settlement = .ok [some "first", some "failed", some "third"] ∧
      Pooled 3 (.finite 2) 1 pool := by
  obtain ⟨pool, ran⟩ : ∃ pool, run 3 1 (Pool.initial 3 (.finite 2)) sampleEvents = some pool :=
    Option.isSome_iff_exists.mp (by decide +kernel)
  refine ⟨pool, ?_, runPooled_pooled (by decide) (by decide) ⟨_, rfl, leads_of_run ran⟩⟩
  have settled : (run 3 1 (Pool.initial 3 (.finite 2)) sampleEvents).map Pool.settlement =
      some (.ok [some "first", some "failed", some "third"]) := by decide +kernel
  rw [ran] at settled
  exact Option.some.inj settled

/-- Five tasks of one unit each, started as soon as a worker is free. -/
def fractionalEvents : List (Event Unit Unit) :=
  [.launch, .launch, .tick 1, .settle 0 (.value ()), .settle 1 (.value ()), .tick 2,
    .settle 0 (.value ()), .settle 1 (.value ()), .tick 3, .settle 0 (.value ())]

/-- A fractional limit: two tasks in flight where the least of limit and items left is more, and
three rounds of tasks where the waves of the limit are two. -/
theorem runPooled_fractional_limit :
    (∃ pool : Pool Unit Unit, Reachable 5 (.finite (5 / 2)) 1 pool ∧ pool.toLaunch = 0 ∧
      Number.finite pool.inFlight.length ≠
        mathMin (mathMax (.finite 1) (.finite (5 / 2))) (.finite (5 - pool.settled.length : ℕ))) ∧
    fleetWaves (.finite 5) (.finite (5 / 2)) = .finite 2 ∧
    ∃ pool : Pool Unit Unit, Reachable 5 (.finite (5 / 2)) 1 pool ∧ pool.finished ∧
      pool.now = 3 := by
  refine ⟨?_, by decide +kernel, ?_⟩
  · obtain ⟨pool, ran⟩ : ∃ pool, run 5 1 (Pool.initial 5 (.finite (5 / 2)) : Pool Unit Unit)
        [.launch, .launch] = some pool := Option.isSome_iff_exists.mp (by decide +kernel)
    refine ⟨pool, ⟨_, rfl, leads_of_run ran⟩, ?_⟩
    have seen : (run 5 1 (Pool.initial 5 (.finite (5 / 2)) : Pool Unit Unit)
        [.launch, .launch]).all (fun pool => decide (pool.toLaunch = 0 ∧
          Number.finite pool.inFlight.length ≠ mathMin (mathMax (.finite 1) (.finite (5 / 2)))
            (.finite (5 - pool.settled.length : ℕ)))) = true := by decide +kernel
    rw [ran] at seen
    simpa using seen
  · obtain ⟨pool, ran⟩ : ∃ pool, run 5 1 (Pool.initial 5 (.finite (5 / 2)) : Pool Unit Unit)
        fractionalEvents = some pool := Option.isSome_iff_exists.mp (by decide +kernel)
    refine ⟨pool, ⟨_, rfl, leads_of_run ran⟩, ?_⟩
    have seen : (run 5 1 (Pool.initial 5 (.finite (5 / 2)) : Pool Unit Unit)
        fractionalEvents).all (fun pool => decide ((pool.toLaunch = 0 ∧ pool.inFlight = []) ∧
          pool.now = 3)) = true := by decide +kernel
    rw [ran] at seen
    simpa [Pool.finished] using seen

end RunPooled
