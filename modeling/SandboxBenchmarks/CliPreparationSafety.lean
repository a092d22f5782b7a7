import SandboxBenchmarks.CliPreparation

/-!
# One preparation at a time, and no failure but its own

What holds between the tasks, the contexts, the locks and the callers in every run. The
tasks and the callers are followed apart: a step of a caller leaves every phase as it
was, and a step of a task no caller.
-/

namespace CliPreparation

open Interaction CliCreate

/-! ### Phases -/

def Phase.unsettled : Phase → Bool
  | .settled _ => false
  | _ => true

/-- Under way, or successful. -/
def Phase.stands : Phase → Bool
  | .settled (.error _) => false
  | _ => true

/-- The commands are being run. -/
def Phase.performing : Phase → Bool
  | .running _ => true
  | _ => false

def Phase.queues : Phase → Bool
  | .queued _ _ => true
  | _ => false

lemma Phase.unsettled_iff {phase : Phase} :
    phase.unsettled = true ↔ ∀ outcome, phase ≠ .settled outcome := by
  cases phase with
  | settled outcome => simp [Phase.unsettled]
  | queued prior program => simp [Phase.unsettled]
  | running program => simp [Phase.unsettled]
  | finished outcome => simp [Phase.unsettled]

lemma Phase.stands_iff {phase : Phase} :
    phase.stands = true ↔ ∀ error, phase ≠ .settled (.error error) := by
  cases phase with
  | settled outcome =>
    cases outcome with
    | ok done => simp [Phase.stands]
    | error e => simp [Phase.stands]
  | queued prior program => simp [Phase.stands]
  | running program => simp [Phase.stands]
  | finished outcome => simp [Phase.stands]

/-! ### Tasks -/

variable {drivers : ℕ → Driver} {prepare : ℕ → Prepared} {locks : String → Option ℕ}
  {tasks tasks' : List Task} {callers : List Caller} {s t : State}

def lockOf (drivers : ℕ → Driver) (task : Task) : Option String := (drivers task.context).lock

/-- Every earlier task with the lock has given it up. -/
def ReleasedBefore (drivers : ℕ → Driver) (tasks : List Task) (k : ℕ) (binary : String) : Prop :=
  ∀ (j : ℕ) other, j < k → tasks[j]? = some other → lockOf drivers other = some binary →
    other.phase.released = true

/-- The task a queued one waits for is the last with its lock before it. -/
def Behind (drivers : ℕ → Driver) (tasks : List Task) (k : ℕ) (binary : String) : Option ℕ → Prop
  | none => ReleasedBefore drivers tasks k binary
  | some p => p < k ∧ (∃ before, tasks[p]? = some before ∧ lockOf drivers before = some binary) ∧
    ∀ (j : ℕ) other, j < k → tasks[j]? = some other → lockOf drivers other = some binary → j ≤ p

/-- The tasks of each context, and what it says of them. -/
structure ContextInv (prepare : ℕ → Prepared) (tasks : List Task) : Prop where
  inFlight : ∀ x (k : ℕ), prepare x = .inFlight k ↔
    ∃ task, tasks[k]? = some task ∧ task.context = x ∧ task.phase.unsettled = true
  done : ∀ x, prepare x = .done ↔
    ∃ (k : ℕ) (task : Task), tasks[k]? = some task ∧ task.context = x ∧ task.phase = .settled (.ok ())
  latest : ∀ (k : ℕ) task, tasks[k]? = some task → task.phase.stands = true →
    ∀ (j : ℕ) other, tasks[j]? = some other → other.context = task.context → j ≤ k

/-- The tasks of each lock, and which of them holds it. -/
structure LockInv (drivers : ℕ → Driver) (locks : String → Option ℕ) (tasks : List Task) : Prop where
  held : ∀ binary (k : ℕ), locks binary = some k →
    (∃ task, tasks[k]? = some task ∧ lockOf drivers task = some binary) ∧
      ∀ (j : ℕ) other, tasks[j]? = some other → lockOf drivers other = some binary → j ≤ k
  free : ∀ binary, locks binary = none → ∀ (k : ℕ) task, tasks[k]? = some task →
    lockOf drivers task = some binary → task.phase.released = true
  queue : ∀ (k : ℕ) task prior program, tasks[k]? = some task →
    task.phase = .queued prior program → ∀ binary, lockOf drivers task = some binary →
      Behind drivers tasks k binary prior
  order : ∀ (k : ℕ) task, tasks[k]? = some task → task.phase.queues = false →
    ∀ binary, lockOf drivers task = some binary → ReleasedBefore drivers tasks k binary

/-- A change of a task that neither queues it nor takes a lock back. -/
structure Moves (task task' : Task) : Prop where
  context : task'.context = task.context
  released : task.phase.released = true → task'.phase.released = true
  queued : ∀ prior program, task'.phase = .queued prior program → task.phase = .queued prior program

/-- A change that does not settle it either. -/
structure Continues (task task' : Task) : Prop extends Moves task task' where
  settled : ∀ outcome, task'.phase = .settled outcome ↔ task.phase = .settled outcome

lemma Continues.refl (task : Task) : Continues task task :=
  ⟨⟨rfl, id, fun _ _ => id⟩, fun _ => Iff.rfl⟩

lemma Continues.unsettled {task task' : Task} (continues : Continues task task') :
    task'.phase.unsettled = task.phase.unsettled := by
  rw [Bool.eq_iff_iff, Phase.unsettled_iff, Phase.unsettled_iff]
  exact forall_congr' fun outcome => not_congr (continues.settled outcome)

lemma Continues.stands {task task' : Task} (continues : Continues task task') :
    task'.phase.stands = task.phase.stands := by
  rw [Bool.eq_iff_iff, Phase.stands_iff, Phase.stands_iff]
  exact forall_congr' fun error => not_congr (continues.settled (.error error))

lemma Moves.lockOf {task task' : Task} (moves : Moves task task') :
    lockOf drivers task' = CliPreparation.lockOf drivers task := by
  rw [CliPreparation.lockOf, CliPreparation.lockOf, moves.context]

lemma getElem?_set_cases {α : Type} {xs : List α} {k j : ℕ} {x y : α}
    (h : (xs.set k x)[j]? = some y) : (j = k ∧ y = x) ∨ (j ≠ k ∧ xs[j]? = some y) := by
  rw [List.getElem?_set] at h
  split at h
  · rename_i same
    split at h
    · exact Or.inl ⟨same.symm, (Option.some.inj h).symm⟩
    · cases h
  · rename_i other
    exact Or.inr ⟨fun same => other same.symm, h⟩

/-- Tasks that stay in their places and change as `R` says. -/
structure Follows (R : Task → Task → Prop) (tasks tasks' : List Task) : Prop where
  forth : ∀ (j : ℕ) task, tasks[j]? = some task → ∃ task', tasks'[j]? = some task' ∧ R task task'
  back : ∀ (j : ℕ) task', tasks'[j]? = some task' → ∃ task, tasks[j]? = some task ∧ R task task'

lemma follows_set {R : Task → Task → Prop} (refl : ∀ task, R task task) {k : ℕ} {task task' : Task}
    (at_ : tasks[k]? = some task) (moves : R task task') : Follows R tasks (tasks.set k task') where
  forth j other other_at := by
    by_cases same : j = k
    · subst same
      cases at_.symm.trans other_at
      have bound := (List.getElem?_eq_some_iff.mp at_).1
      exact ⟨task', List.getElem?_set_self bound, moves⟩
    · exact ⟨other, by rw [List.getElem?_set_ne (Ne.symm same), other_at], refl other⟩
  back j other other_at := by
    rcases getElem?_set_cases other_at with ⟨rfl, rfl⟩ | ⟨_, old⟩
    · exact ⟨task, at_, moves⟩
    · exact ⟨other, old, refl other⟩

lemma Follows.mono {R S : Task → Task → Prop} (follows : Follows R tasks tasks')
    (imp : ∀ task task', R task task' → S task task') : Follows S tasks tasks' where
  forth j task at_ := by
    obtain ⟨task', at_', moves⟩ := follows.forth j task at_
    exact ⟨task', at_', imp task task' moves⟩
  back j task' at_' := by
    obtain ⟨task, at_, moves⟩ := follows.back j task' at_'
    exact ⟨task, at_, imp task task' moves⟩

/-! ### Locks -/

lemma ReleasedBefore.follows {k : ℕ} {binary : String} (before : ReleasedBefore drivers tasks k binary)
    (follows : Follows Moves tasks tasks') : ReleasedBefore drivers tasks' k binary := by
  intro j other earlier at_ lock
  obtain ⟨old, old_at, moves⟩ := follows.back j other at_
  rw [moves.lockOf] at lock
  exact moves.released (before j old earlier old_at lock)

lemma Behind.follows {k : ℕ} {binary : String} {prior : Option ℕ}
    (behind : Behind drivers tasks k binary prior) (follows : Follows Moves tasks tasks') :
    Behind drivers tasks' k binary prior := by
  cases prior with
  | none => exact ReleasedBefore.follows behind follows
  | some p =>
    obtain ⟨earlier, ⟨before, at_, lock⟩, last⟩ := behind
    obtain ⟨before', at_', moves⟩ := follows.forth p before at_
    refine ⟨earlier, ⟨before', at_', ?_⟩, ?_⟩
    · rw [moves.lockOf]
      exact lock
    · intro j other here other_at other_lock
      obtain ⟨old, old_at, moves⟩ := follows.back j other other_at
      rw [moves.lockOf] at other_lock
      exact last j old here old_at other_lock

/-- Tasks that move keep the invariant, once what leaves the queue may do so. -/
lemma LockInv.follows (h : LockInv drivers locks tasks) (follows : Follows Moves tasks tasks')
    (opens : ∀ (k : ℕ) task task', tasks[k]? = some task → tasks'[k]? = some task' →
      task'.phase.queues = false → task.phase.queues = true →
        ∀ binary, lockOf drivers task = some binary → ReleasedBefore drivers tasks k binary) :
    LockInv drivers locks tasks' where
  held binary k lock := by
    obtain ⟨⟨task, at_, here⟩, last⟩ := h.held binary k lock
    obtain ⟨task', at_', moves⟩ := follows.forth k task at_
    refine ⟨⟨task', at_', moves.lockOf.trans here⟩, fun j other' other_at' other_lock => ?_⟩
    obtain ⟨other, other_at, moves'⟩ := follows.back j other' other_at'
    exact last j other other_at (moves'.lockOf.symm.trans other_lock)
  free binary lock k task' at_' here := by
    obtain ⟨task, at_, moves⟩ := follows.back k task' at_'
    exact moves.released (h.free binary lock k task at_ (moves.lockOf.symm.trans here))
  queue k task' prior program at_' queued binary lock := by
    obtain ⟨task, at_, moves⟩ := follows.back k task' at_'
    exact (h.queue k task prior program at_ (moves.queued _ _ queued) binary
      (moves.lockOf.symm.trans lock)).follows follows
  order k task' at_' unqueued binary lock := by
    obtain ⟨task, at_, moves⟩ := follows.back k task' at_'
    have lock' := moves.lockOf.symm.trans lock
    by_cases queued : task.phase.queues = true
    · exact (opens k task task' at_ at_' unqueued queued binary lock').follows follows
    · exact (h.order k task at_ (by simpa using queued) binary lock').follows follows

/-- Where a task keeps its place in the queue or out of it, nothing opens. -/
lemma LockInv.set (h : LockInv drivers locks tasks) {k : ℕ} {task task' : Task}
    (at_ : tasks[k]? = some task) (moves : Moves task task')
    (queues : task'.phase.queues = task.phase.queues) : LockInv drivers locks (tasks.set k task') := by
  refine h.follows (follows_set (fun task => (Continues.refl task).toMoves) at_ moves) ?_
  intro j old new old_at new_at unqueued queued
  rcases getElem?_set_cases new_at with ⟨rfl, rfl⟩ | ⟨_, new_at⟩
  · cases at_.symm.trans old_at
    rw [queues, queued] at unqueued
    cases unqueued
  · cases new_at.symm.trans old_at
    rw [queued] at unqueued
    cases unqueued

lemma Phase.released_unqueued {phase : Phase} (released : phase.released = true) :
    phase.queues = false := by
  cases phase with
  | queued prior program => cases released
  | running program => rfl
  | finished outcome => rfl
  | settled outcome => rfl

/-- The task a queued one waits for has given the lock up, and so have all before it. -/
lemma LockInv.opens (h : LockInv drivers locks tasks) {k : ℕ} {binary : String} {prior : Option ℕ}
    (behind : Behind drivers tasks k binary prior)
    (freed : ∀ p, prior = some p → ∃ before, tasks[p]? = some before ∧ before.phase.released = true) :
    ReleasedBefore drivers tasks k binary := by
  cases prior with
  | none => exact behind
  | some p =>
    obtain ⟨_, ⟨before, before_at, lock⟩, last⟩ := behind
    obtain ⟨freed_before, freed_at, released⟩ := freed p rfl
    cases before_at.symm.trans freed_at
    intro j other earlier other_at other_lock
    rcases (last j other earlier other_at other_lock).lt_or_eq with sooner | rfl
    · have unqueued := Phase.released_unqueued released
      exact h.order p before before_at unqueued binary lock j other sooner other_at other_lock
    · cases before_at.symm.trans other_at
      exact released

lemma LockInv.dequeue (h : LockInv drivers locks tasks) {k : ℕ} {task task' : Task}
    {prior : Option ℕ} {program : Running} (at_ : tasks[k]? = some task)
    (queued : task.phase = .queued prior program) (moves : Moves task task')
    (freed : ∀ p, prior = some p → ∃ before, tasks[p]? = some before ∧ before.phase.released = true) :
    LockInv drivers locks (tasks.set k task') := by
  refine h.follows (follows_set (fun task => (Continues.refl task).toMoves) at_ moves) ?_
  intro j old new old_at new_at unqueued queues binary lock
  rcases getElem?_set_cases new_at with ⟨rfl, rfl⟩ | ⟨_, new_at⟩
  · cases at_.symm.trans old_at
    exact h.opens (h.queue j task prior program at_ queued binary lock) freed
  · cases new_at.symm.trans old_at
    rw [queues] at unqueued
    cases unqueued

lemma LockInv.unlock (h : LockInv drivers locks tasks) {k : ℕ} {task : Task} {binary : String}
    (at_ : tasks[k]? = some task) (lock : lockOf drivers task = some binary)
    (released : task.phase.released = true) (held : locks binary = some k) :
    LockInv drivers (Function.update locks binary none) tasks where
  held other j other_held := by
    rcases eq_or_ne other binary with rfl | differs
    · rw [Function.update_self] at other_held
      cases other_held
    · rw [Function.update_of_ne differs] at other_held
      exact h.held other j other_held
  free other unheld j task' at_' lock' := by
    rcases eq_or_ne other binary with rfl | differs
    · rcases ((h.held other k held).2 j task' at_' lock').lt_or_eq with earlier | rfl
      · exact h.order k task at_ (Phase.released_unqueued released) other lock j task' earlier at_' lock'
      · cases at_.symm.trans at_'
        exact released
    · rw [Function.update_of_ne differs] at unheld
      exact h.free other unheld j task' at_' lock'
  queue := h.queue
  order := h.order

lemma getElem?_concat_cases {α : Type} {xs : List α} {j : ℕ} {x y : α}
    (h : (xs ++ [x])[j]? = some y) : (j = xs.length ∧ y = x) ∨ (j < xs.length ∧ xs[j]? = some y) := by
  rcases lt_trichotomy j xs.length with before | rfl | after
  · rw [List.getElem?_append_left before] at h
    exact Or.inr ⟨before, h⟩
  · rw [List.getElem?_concat_length] at h
    exact Or.inl ⟨rfl, (Option.some.inj h).symm⟩
  · rw [List.getElem?_eq_none (by simp; omega)] at h
    cases h

lemma getElem?_concat_of {α : Type} {xs : List α} {j : ℕ} {x y : α} (h : xs[j]? = some y) :
    (xs ++ [x])[j]? = some y := by
  rw [List.getElem?_append_left (List.getElem?_eq_some_iff.mp h).1, h]

lemma ReleasedBefore.concat {k : ℕ} {binary : String} {new : Task}
    (before : ReleasedBefore drivers tasks k binary) (inside : k ≤ tasks.length) :
    ReleasedBefore drivers (tasks ++ [new]) k binary := by
  intro j other earlier at_ lock
  rcases getElem?_concat_cases at_ with ⟨rfl, _⟩ | ⟨_, old⟩
  · omega
  · exact before j other earlier old lock

lemma Behind.concat {k : ℕ} {binary : String} {prior : Option ℕ} {new : Task}
    (behind : Behind drivers tasks k binary prior) (inside : k ≤ tasks.length) :
    Behind drivers (tasks ++ [new]) k binary prior := by
  cases prior with
  | none => exact ReleasedBefore.concat behind inside
  | some p =>
    obtain ⟨earlier, ⟨before, at_, lock⟩, last⟩ := behind
    refine ⟨earlier, ⟨before, getElem?_concat_of at_, lock⟩, fun j other here other_at other_lock => ?_⟩
    rcases getElem?_concat_cases other_at with ⟨rfl, _⟩ | ⟨_, old⟩
    · omega
    · exact last j other here old other_lock

/-- A new task without a lock runs at once. -/
lemma LockInv.startUnlocked (h : LockInv drivers locks tasks) {new : Task}
    (unlocked : lockOf drivers new = none) (unqueued : new.phase.queues = false) :
    LockInv drivers locks (tasks ++ [new]) where
  held binary k held := by
    obtain ⟨⟨task, at_, lock⟩, last⟩ := h.held binary k held
    refine ⟨⟨task, getElem?_concat_of at_, lock⟩, fun j other other_at other_lock => ?_⟩
    rcases getElem?_concat_cases other_at with ⟨_, rfl⟩ | ⟨_, old⟩
    · rw [unlocked] at other_lock
      cases other_lock
    · exact last j other old other_lock
  free binary unheld k task at_ lock := by
    rcases getElem?_concat_cases at_ with ⟨_, rfl⟩ | ⟨_, old⟩
    · rw [unlocked] at lock
      cases lock
    · exact h.free binary unheld k task old lock
  queue k task prior program at_ queued binary lock := by
    rcases getElem?_concat_cases at_ with ⟨_, rfl⟩ | ⟨inside, old⟩
    · rw [unlocked] at lock
      cases lock
    · exact (h.queue k task prior program old queued binary lock).concat inside.le
  order k task at_ queues binary lock := by
    rcases getElem?_concat_cases at_ with ⟨_, rfl⟩ | ⟨inside, old⟩
    · rw [unlocked] at lock
      cases lock
    · exact (h.order k task old queues binary lock).concat inside.le

/-- A new task with a lock goes behind the one that has it. -/
lemma LockInv.startLocked (h : LockInv drivers locks tasks) {new : Task} {mine : String}
    {program : Running} (locked : lockOf drivers new = some mine)
    (queued : new.phase = .queued (locks mine) program) :
    LockInv drivers (Function.update locks mine (some tasks.length)) (tasks ++ [new]) where
  held binary k held := by
    rcases eq_or_ne binary mine with rfl | differs
    · rw [Function.update_self] at held
      cases held
      refine ⟨⟨new, List.getElem?_concat_length, locked⟩, fun j other other_at _ => ?_⟩
      rcases getElem?_concat_cases other_at with ⟨rfl, _⟩ | ⟨inside, _⟩
      · exact le_rfl
      · exact inside.le
    · rw [Function.update_of_ne differs] at held
      obtain ⟨⟨task, at_, lock⟩, last⟩ := h.held binary k held
      refine ⟨⟨task, getElem?_concat_of at_, lock⟩, fun j other other_at other_lock => ?_⟩
      rcases getElem?_concat_cases other_at with ⟨_, rfl⟩ | ⟨_, old⟩
      · rw [locked] at other_lock
        exact absurd (Option.some.inj other_lock).symm differs
      · exact last j other old other_lock
  free binary unheld k task at_ lock := by
    rcases eq_or_ne binary mine with rfl | differs
    · rw [Function.update_self] at unheld
      cases unheld
    · rw [Function.update_of_ne differs] at unheld
      rcases getElem?_concat_cases at_ with ⟨_, rfl⟩ | ⟨_, old⟩
      · rw [locked] at lock
        exact absurd (Option.some.inj lock).symm differs
      · exact h.free binary unheld k task old lock
  queue k task prior program' at_ queued' binary lock := by
    rcases getElem?_concat_cases at_ with ⟨rfl, rfl⟩ | ⟨inside, old⟩
    · rw [locked] at lock
      cases lock
      rw [queued] at queued'
      cases queued'
      refine Behind.concat ?_ le_rfl
      match found : locks mine with
      | none => exact fun j other _ other_at other_lock => h.free mine found j other other_at other_lock
      | some p =>
        obtain ⟨⟨before, before_at, before_lock⟩, last⟩ := h.held mine p found
        exact ⟨(List.getElem?_eq_some_iff.mp before_at).1, ⟨before, before_at, before_lock⟩,
          fun j other _ => last j other⟩
    · exact (h.queue k task prior program' old queued' binary lock).concat inside.le
  order k task at_ queues binary lock := by
    rcases getElem?_concat_cases at_ with ⟨_, rfl⟩ | ⟨inside, old⟩
    · rw [queued] at queues
      cases queues
    · exact (h.order k task old queues binary lock).concat inside.le

/-! ### Contexts -/

lemma ContextInv.follows (h : ContextInv prepare tasks) (follows : Follows Continues tasks tasks') :
    ContextInv prepare tasks' where
  inFlight x k := by
    rw [h.inFlight]
    constructor
    · rintro ⟨task, at_, here, unsettled⟩
      obtain ⟨task', at_', moves⟩ := follows.forth k task at_
      exact ⟨task', at_', moves.context.trans here, moves.unsettled.trans unsettled⟩
    · rintro ⟨task', at_', here, unsettled⟩
      obtain ⟨task, at_, moves⟩ := follows.back k task' at_'
      exact ⟨task, at_, moves.context.symm.trans here, moves.unsettled.symm.trans unsettled⟩
  done x := by
    rw [h.done]
    constructor
    · rintro ⟨k, task, at_, here, done⟩
      obtain ⟨task', at_', moves⟩ := follows.forth k task at_
      exact ⟨k, task', at_', moves.context.trans here, (moves.settled _).mpr done⟩
    · rintro ⟨k, task', at_', here, done⟩
      obtain ⟨task, at_, moves⟩ := follows.back k task' at_'
      exact ⟨k, task, at_, moves.context.symm.trans here, (moves.settled _).mp done⟩
  latest k task' at_' stands j other' other_at' same := by
    obtain ⟨task, at_, moves⟩ := follows.back k task' at_'
    obtain ⟨other, other_at, moves'⟩ := follows.back j other' other_at'
    refine h.latest k task at_ (moves.stands.symm.trans stands) j other other_at ?_
    rw [← moves'.context, same, moves.context]

/-- Nothing stands in a context that has no preparation. -/
lemma ContextInv.unset_falls (h : ContextInv prepare tasks) {k : ℕ} {task : Task}
    (unset : prepare task.context = .unset) (at_ : tasks[k]? = some task) :
    ∃ error, task.phase = .settled (.error error) := by
  by_contra stands
  push Not at stands
  match phase : task.phase with
  | .settled (.error error) => exact stands error phase
  | .settled (.ok ()) =>
    have done := (h.done task.context).mpr ⟨k, task, at_, rfl, phase⟩
    rw [unset] at done
    cases done
  | .queued _ _ | .running _ | .finished _ =>
    have inFlight := (h.inFlight task.context k).mpr ⟨task, at_, rfl, by rw [phase]; rfl⟩
    rw [unset] at inFlight
    cases inFlight

lemma ContextInv.start (h : ContextInv prepare tasks) {new : Task}
    (unset : prepare new.context = .unset) (fresh : new.phase.unsettled = true) :
    ContextInv (Function.update prepare new.context (.inFlight tasks.length)) (tasks ++ [new]) where
  inFlight x k := by
    rcases eq_or_ne x new.context with rfl | differs
    · rw [Function.update_self]
      constructor
      · rintro ⟨⟩
        exact ⟨new, List.getElem?_concat_length, rfl, fresh⟩
      · rintro ⟨task, at_, here, unsettled⟩
        rcases getElem?_concat_cases at_ with ⟨rfl, _⟩ | ⟨_, old⟩
        · rfl
        · have inFlight := (h.inFlight new.context k).mpr ⟨task, old, here, unsettled⟩
          rw [unset] at inFlight
          cases inFlight
    · rw [Function.update_of_ne differs, h.inFlight]
      constructor
      · rintro ⟨task, at_, here⟩
        exact ⟨task, getElem?_concat_of at_, here⟩
      · rintro ⟨task, at_, here, unsettled⟩
        rcases getElem?_concat_cases at_ with ⟨_, rfl⟩ | ⟨_, old⟩
        · exact absurd here.symm differs
        · exact ⟨task, old, here, unsettled⟩
  done x := by
    rcases eq_or_ne x new.context with rfl | differs
    · rw [Function.update_self]
      constructor
      · rintro ⟨⟩
      · rintro ⟨k, task, at_, here, done⟩
        rcases getElem?_concat_cases at_ with ⟨_, rfl⟩ | ⟨_, old⟩
        · rw [done] at fresh
          cases fresh
        · have done := (h.done new.context).mpr ⟨k, task, old, here, done⟩
          rw [unset] at done
          cases done
    · rw [Function.update_of_ne differs, h.done]
      constructor
      · rintro ⟨k, task, at_, here⟩
        exact ⟨k, task, getElem?_concat_of at_, here⟩
      · rintro ⟨k, task, at_, here, done⟩
        rcases getElem?_concat_cases at_ with ⟨_, rfl⟩ | ⟨_, old⟩
        · exact absurd here.symm differs
        · exact ⟨k, task, old, here, done⟩
  latest k task at_ stands j other other_at same := by
    rcases getElem?_concat_cases at_ with ⟨rfl, _⟩ | ⟨_, old⟩
    · rcases getElem?_concat_cases other_at with ⟨rfl, _⟩ | ⟨inside, _⟩
      · exact le_rfl
      · exact inside.le
    · rcases getElem?_concat_cases other_at with ⟨_, rfl⟩ | ⟨_, other_old⟩
      · rw [same] at unset
        obtain ⟨error, fell⟩ := h.unset_falls unset old
        exact absurd fell (Phase.stands_iff.mp stands error)
      · exact h.latest k task old stands j other other_old same

/-- What a context is left with. -/
def Prepared.after : Except Thrown Unit → Prepared
  | .ok _ => .done
  | .error _ => .unset

lemma ContextInv.settle (h : ContextInv prepare tasks) {k : ℕ} {task task' : Task}
    {outcome : Except Thrown Unit} (at_ : tasks[k]? = some task) (same : task'.context = task.context)
    (unsettled : task.phase.unsettled = true) (settled : task'.phase = .settled outcome) :
    ContextInv (Function.update prepare task.context (.after outcome)) (tasks.set k task') := by
  have inFlight : prepare task.context = .inFlight k :=
    (h.inFlight task.context k).mpr ⟨task, at_, rfl, unsettled⟩
  have bound := (List.getElem?_eq_some_iff.mp at_).1
  have now : (tasks.set k task')[k]? = some task' := List.getElem?_set_self bound
  have elsewhere : ∀ (j : ℕ) other, tasks[j]? = some other → other.context ≠ task.context →
      (tasks.set k task')[j]? = some other := by
    intro j other other_at differs
    rw [List.getElem?_set_ne, other_at]
    rintro rfl
    cases at_.symm.trans other_at
    exact differs rfl
  refine ⟨fun x j => ?_, fun x => ?_, fun j new at_' stands i other other_at here => ?_⟩
  · rcases eq_or_ne x task.context with rfl | differs
    · rw [Function.update_self]
      constructor
      · cases outcome with
        | ok done => rintro ⟨⟩
        | error e => rintro ⟨⟩
      · rintro ⟨new, at_', here, unsettled'⟩
        rcases getElem?_set_cases at_' with ⟨rfl, rfl⟩ | ⟨other, old⟩
        · rw [settled] at unsettled'
          cases unsettled'
        · have again := (h.inFlight task.context j).mpr ⟨new, old, here, unsettled'⟩
          cases inFlight.symm.trans again
          exact absurd rfl other
    · rw [Function.update_of_ne differs, h.inFlight]
      constructor
      · rintro ⟨other, other_at, rfl, other_unsettled⟩
        exact ⟨other, elsewhere j other other_at differs, rfl, other_unsettled⟩
      · rintro ⟨new, at_', rfl, unsettled'⟩
        rcases getElem?_set_cases at_' with ⟨rfl, rfl⟩ | ⟨other, old⟩
        · exact absurd same differs
        · exact ⟨new, old, rfl, unsettled'⟩
  · rcases eq_or_ne x task.context with rfl | differs
    · rw [Function.update_self]
      constructor
      · cases outcome with
        | ok done => exact fun _ => ⟨k, task', now, same, settled⟩
        | error e => rintro ⟨⟩
      · rintro ⟨j, new, at_', here, done⟩
        rcases getElem?_set_cases at_' with ⟨rfl, rfl⟩ | ⟨_, old⟩
        · cases settled.symm.trans done
          rfl
        · have done' := (h.done task.context).mpr ⟨j, new, old, here, done⟩
          rw [inFlight] at done'
          cases done'
    · rw [Function.update_of_ne differs, h.done]
      constructor
      · rintro ⟨j, other, other_at, rfl, done⟩
        exact ⟨j, other, elsewhere j other other_at differs, rfl, done⟩
      · rintro ⟨j, new, at_', rfl, done⟩
        rcases getElem?_set_cases at_' with ⟨rfl, rfl⟩ | ⟨_, old⟩
        · exact absurd same differs
        · exact ⟨j, new, old, rfl, done⟩
  · -- the tasks of a context are those before, and no other of them stands
    have before : ∀ (i : ℕ) other, (tasks.set k task')[i]? = some other →
        ∃ old, tasks[i]? = some old ∧ old.context = other.context := by
      intro i other other_at
      rcases getElem?_set_cases other_at with ⟨rfl, rfl⟩ | ⟨_, old⟩
      · exact ⟨task, at_, same.symm⟩
      · exact ⟨other, old, rfl⟩
    obtain ⟨old, old_at, old_context⟩ := before i other other_at
    have stood : ∃ was, tasks[j]? = some was ∧ was.context = new.context ∧ was.phase.stands = true := by
      rcases getElem?_set_cases at_' with ⟨rfl, rfl⟩ | ⟨_, was⟩
      · refine ⟨task, at_, same.symm, Phase.stands_iff.mpr fun error fell => ?_⟩
        exact Phase.unsettled_iff.mp unsettled _ fell
      · exact ⟨new, was, rfl, stands⟩
    obtain ⟨was, was_at, was_context, stood⟩ := stood
    exact h.latest j was was_at stood i old old_at (by rw [old_context, here, was_context])

/-! ### Callers -/

/-- The task a caller counts as a waiter of. -/
def Stage.waitsFor : Stage → Option ℕ
  | .waiting k => some k
  | .leaving k _ => some k
  | _ => none

/-- What a call has come to, returned or not. -/
def Stage.result : Stage → Option (Except Failure Unit)
  | .leaving _ result => some result
  | .draining _ result => some result
  | .returned result => some result
  | _ => none

/-- A waiter is in the set of its task, and the task is its context's. -/
def Waits (tasks : List Task) (callers : List Caller) : Prop :=
  ∀ (c : ℕ) caller k, callers[c]? = some caller → caller.stage.waitsFor = some k →
    ∃ task, tasks[k]? = some task ∧ task.context = caller.context ∧ c ∈ task.waiters

def FailedTask (tasks : List Task) (context k : ℕ) (error : Thrown) : Prop :=
  ∃ task, tasks[k]? = some task ∧ task.context = context ∧ task.phase = .settled (.error error) ∧
    task.cancelled = false

/-- A preparation that a call fails by has failed, with its owners. -/
def Blames (tasks : List Task) (callers : List Caller) : Prop :=
  ∀ (c : ℕ) caller k error, callers[c]? = some caller →
    caller.stage.result = some (.error (.preparation k error)) →
      FailedTask tasks caller.context k error

/-- A change of a task that leaves its waiters, and its failure once it has failed. -/
structure Serves (task task' : Task) : Prop where
  context : task'.context = task.context
  failed : ∀ error, task.phase = .settled (.error error) → task.cancelled = false →
    task'.phase = .settled (.error error) ∧ task'.cancelled = false
  waiters : ∀ c ∈ task.waiters, c ∈ task'.waiters

lemma Serves.refl (task : Task) : Serves task task := ⟨rfl, fun _ fell live => ⟨fell, live⟩, fun _ => id⟩

lemma FailedTask.follows {context k : ℕ} {error : Thrown} (failed : FailedTask tasks context k error)
    (forth : ∀ task, tasks[k]? = some task → ∃ task', tasks'[k]? = some task' ∧
      task'.context = task.context ∧ (task.phase = .settled (.error error) → task.cancelled = false →
        task'.phase = .settled (.error error) ∧ task'.cancelled = false)) :
    FailedTask tasks' context k error := by
  obtain ⟨task, at_, here, fell, live⟩ := failed
  obtain ⟨task', at_', same, kept⟩ := forth task at_
  obtain ⟨fell', live'⟩ := kept fell live
  exact ⟨task', at_', same.trans here, fell', live'⟩

lemma Waits.follows (h : Waits tasks callers) (forth : ∀ (k : ℕ) task, tasks[k]? = some task →
    ∃ task', tasks'[k]? = some task' ∧ Serves task task') : Waits tasks' callers := by
  intro c caller k at_ waits
  obtain ⟨task, task_at, here, waiter⟩ := h c caller k at_ waits
  obtain ⟨task', task_at', serves⟩ := forth k task task_at
  exact ⟨task', task_at', serves.context.trans here, serves.waiters c waiter⟩

lemma Blames.follows (h : Blames tasks callers) (forth : ∀ (k : ℕ) task, tasks[k]? = some task →
    ∃ task', tasks'[k]? = some task' ∧ Serves task task') : Blames tasks' callers := by
  intro c caller k error at_ blames
  refine (h c caller k error at_ blames).follows fun task task_at => ?_
  obtain ⟨task', task_at', serves⟩ := forth k task task_at
  exact ⟨task', task_at', serves.context, serves.failed error⟩

lemma Waits.setCaller {c : ℕ} {caller : Caller} {stage : Stage} (h : Waits tasks callers)
    (mine : ∀ k, stage.waitsFor = some k →
      ∃ task, tasks[k]? = some task ∧ task.context = caller.context ∧ c ∈ task.waiters) :
    Waits tasks (callers.set c { caller with stage }) := by
  intro c' caller' k at_' waits
  rcases getElem?_set_cases at_' with ⟨rfl, rfl⟩ | ⟨_, old⟩
  · exact mine k waits
  · exact h c' caller' k old waits

lemma Blames.setCaller {c : ℕ} {caller : Caller} {stage : Stage} (h : Blames tasks callers)
    (mine : ∀ k error, stage.result = some (.error (.preparation k error)) →
      FailedTask tasks caller.context k error) :
    Blames tasks (callers.set c { caller with stage }) := by
  intro c' caller' k error at_' blames
  rcases getElem?_set_cases at_' with ⟨rfl, rfl⟩ | ⟨_, old⟩
  · exact mine k error blames
  · exact h c' caller' k error old blames

/-! ### Steps -/

structure Inv (drivers : ℕ → Driver) (s : State) : Prop where
  contexts : ContextInv s.prepare s.tasks
  locks : LockInv drivers s.preparationLocks s.tasks
  cancelled : ∀ (k : ℕ) task, s.tasks[k]? = some task → task.cancelled = true → task.waiters = []
  waits : Waits s.tasks s.callers
  blames : Blames s.tasks s.callers

lemma Inv.initial : Inv drivers .initial where
  contexts :=
    { inFlight := by simp [State.initial]
      done := by simp [State.initial]
      latest := by simp [State.initial] }
  locks :=
    { held := by simp [State.initial]
      free := by simp [State.initial]
      queue := by simp [State.initial]
      order := by simp [State.initial] }
  cancelled := by simp [State.initial]
  waits := by simp [Waits, State.initial]
  blames := by simp [Blames, State.initial]

/-- A call that goes on alone. -/
lemma Inv.own {c : ℕ} {caller : Caller} {stage : Stage} (h : Inv drivers s)
    (waits : ∀ k, stage.waitsFor = some k →
      ∃ task, s.tasks[k]? = some task ∧ task.context = caller.context ∧ c ∈ task.waiters)
    (blames : ∀ k error, stage.result = some (.error (.preparation k error)) →
      FailedTask s.tasks caller.context k error) : Inv drivers (s.setCaller c caller stage) :=
  ⟨h.contexts, h.locks, h.cancelled, h.waits.setCaller waits, h.blames.setCaller blames⟩

/-- A call that fails by nothing but itself, if at all. -/
lemma Inv.alone {c : ℕ} {caller : Caller} {stage : Stage} (h : Inv drivers s)
    (waits : stage.waitsFor = none) (own : ∀ k error, stage.result ≠ some (.error (.preparation k error))) :
    Inv drivers (s.setCaller c caller stage) := by
  refine h.own (fun k waitsFor => ?_) fun k error blames => absurd blames (own k error)
  rw [waits] at waitsFor
  cases waitsFor

/-- A task that goes on alone, without settling. -/
lemma Inv.task {k : ℕ} {task task' : Task} (h : Inv drivers s) (at_ : s.tasks[k]? = some task)
    (continues : Continues task task') (waiters : task'.waiters = task.waiters)
    (cancelled : task'.cancelled = task.cancelled)
    (locks : LockInv drivers s.preparationLocks (s.tasks.set k task')) :
    Inv drivers (s.setTask k task') := by
  have serves : Follows Serves s.tasks (s.tasks.set k task') := by
    refine follows_set Serves.refl at_ ⟨continues.context, fun error fell live => ?_, fun c => ?_⟩
    · exact ⟨(continues.settled _).mpr fell, cancelled.trans live⟩
    · rw [waiters]
      exact id
  refine ⟨h.contexts.follows (follows_set Continues.refl at_ continues), locks, ?_,
    h.waits.follows serves.forth, h.blames.follows serves.forth⟩
  intro j new new_at new_cancelled
  rcases getElem?_set_cases new_at with ⟨rfl, rfl⟩ | ⟨_, old⟩
  · rw [waiters]
    exact h.cancelled j task at_ (cancelled.symm.trans new_cancelled)
  · exact h.cancelled j new old new_cancelled

lemma Inv.settle {k : ℕ} {task : Task} {outcome : Except Thrown Unit} (h : Inv drivers s)
    (at_ : s.tasks[k]? = some task) (finished : task.phase = .finished outcome) :
    Inv drivers (s.settle k task outcome) := by
  have unsettled : task.phase.unsettled = true := by rw [finished]; rfl
  have inFlight : s.prepare task.context = .inFlight k :=
    (h.contexts.inFlight task.context k).mpr ⟨task, at_, rfl, unsettled⟩
  have serves : Follows Serves s.tasks (s.tasks.set k { task with phase := .settled outcome }) := by
    refine follows_set Serves.refl at_ ⟨rfl, fun error fell => ?_, fun c => id⟩
    rw [finished] at fell
    cases fell
  have prepared : (s.settle k task outcome).prepare =
      Function.update s.prepare task.context (.after outcome) := by
    simp only [State.settle, if_pos inFlight]
    cases outcome with
    | ok done => rfl
    | error e => rfl
  refine ⟨?_, ?_, fun j new new_at cancelled => ?_, h.waits.follows serves.forth,
    h.blames.follows serves.forth⟩
  · rw [prepared]
    exact h.contexts.settle at_ rfl unsettled rfl
  · refine h.locks.set at_ ⟨rfl, fun _ => rfl, fun prior program queued => ?_⟩ ?_
    · cases queued
    · rw [finished]
      rfl
  · rcases getElem?_set_cases new_at with ⟨rfl, rfl⟩ | ⟨_, old⟩
    · exact h.cancelled j task at_ cancelled
    · exact h.cancelled j new old cancelled

lemma Inv.start {c : ℕ} {caller : Caller} {preparation : Preparation} {now : ℚ} (h : Inv drivers s)
    (unset : s.prepare caller.context = .unset) :
    Inv drivers (s.start drivers c caller preparation now) := by
  have forth : ∀ (new : Task) (k : ℕ) task, s.tasks[k]? = some task →
      ∃ task', (s.tasks ++ [new])[k]? = some task' ∧ Serves task task' :=
    fun new k task at_ => ⟨task, getElem?_concat_of at_, .refl task⟩
  refine ⟨?_, ?_, fun j task at_ cancelled => ?_, (h.waits.follows (forth _)).setCaller fun k waits => ?_,
    (h.blames.follows (forth _)).setCaller fun k error blames => ?_⟩
  · have fresh : ∀ phase : Phase, phase.unsettled = true →
        ContextInv (Function.update s.prepare caller.context (.inFlight s.tasks.length))
          (s.tasks ++ [⟨caller.context, phase, false, [c]⟩]) := by
      intro phase unsettled
      let new : Task := ⟨caller.context, phase, false, [c]⟩
      have unset_new : s.prepare new.context = .unset := unset
      exact h.contexts.start unset_new unsettled
    refine fresh _ ?_
    cases (drivers caller.context).lock with
    | none => rfl
    | some binary => rfl
  · match locked : (drivers caller.context).lock with
    | none =>
      simp only [State.start, locked]
      exact h.locks.startUnlocked locked rfl
    | some binary =>
      simp only [State.start, locked]
      exact h.locks.startLocked locked rfl
  · rcases getElem?_concat_cases at_ with ⟨_, rfl⟩ | ⟨_, old⟩
    · cases cancelled
    · exact h.cancelled j task old cancelled
  · cases waits
    exact ⟨_, List.getElem?_concat_length, rfl, List.mem_singleton_self c⟩
  · cases blames

lemma Inv.join {c k : ℕ} {caller : Caller} {task : Task} (h : Inv drivers s)
    (inFlight : s.prepare caller.context = .inFlight k) (at_ : s.tasks[k]? = some task)
    (live : task.cancelled = false) :
    Inv drivers ((s.setTask k { task with waiters := task.waiters ++ [c] }).setCaller c caller
      (.waiting k)) := by
  obtain ⟨_, at_', here, _⟩ := (h.contexts.inFlight caller.context k).mp inFlight
  cases at_.symm.trans at_'
  have continues : Continues task { task with waiters := task.waiters ++ [c] } :=
    ⟨⟨rfl, id, fun _ _ => id⟩, fun _ => Iff.rfl⟩
  have serves : Follows Serves s.tasks (s.tasks.set k { task with waiters := task.waiters ++ [c] }) :=
    follows_set Serves.refl at_
      ⟨rfl, fun error fell live => ⟨fell, live⟩, fun _ => List.mem_append_left _⟩
  refine ⟨h.contexts.follows (follows_set Continues.refl at_ continues),
    h.locks.set at_ continues.toMoves rfl, fun j new new_at cancelled => ?_,
    (h.waits.follows serves.forth).setCaller fun k waits => ?_,
    (h.blames.follows serves.forth).setCaller fun k error blames => ?_⟩
  · rcases getElem?_set_cases new_at with ⟨rfl, rfl⟩ | ⟨_, old⟩
    · rw [live] at cancelled
      cases cancelled
    · exact h.cancelled j new old cancelled
  · cases waits
    have bound := (List.getElem?_eq_some_iff.mp at_).1
    exact ⟨_, List.getElem?_set_self bound, here, by simp⟩
  · cases blames

/-- A waiter leaves; the task is as it was but for being cancelled, if it has not settled. -/
lemma Inv.leave {c k : ℕ} {caller : Caller} {task task' : Task} {stage : Stage}
    {result : Except Failure Unit} (h : Inv drivers s) (caller_at : s.callers[c]? = some caller)
    (leaving : caller.stage = .leaving k result) (at_ : s.tasks[k]? = some task)
    (context : task'.context = task.context) (phase : task'.phase = task.phase)
    (waiters : task'.waiters = task.waiters.filter (· ≠ c))
    (cancels : task'.cancelled = true → task'.waiters = [])
    (spares : ∀ outcome, task.phase = .settled outcome → task'.cancelled = task.cancelled)
    (waits : stage.waitsFor = none) (same : stage.result = some result) :
    Inv drivers ((s.setTask k task').setCaller c caller stage) := by
  have continues : Continues task task' := by
    refine ⟨⟨context, ?_, ?_⟩, ?_⟩
    · rw [phase]
      exact id
    · rw [phase]
      exact fun _ _ => id
    · rw [phase]
      exact fun _ => Iff.rfl
  have failed : ∀ {context j : ℕ} {error : Thrown}, FailedTask s.tasks context j error →
      FailedTask (s.tasks.set k task') context j error := by
    intro context' j error failed
    refine failed.follows fun old old_at => ?_
    have kept : ∀ error, task.phase = .settled (.error error) → task.cancelled = false →
        task'.phase = .settled (.error error) ∧ task'.cancelled = false :=
      fun error fell live => ⟨phase.trans fell, (spares _ fell).trans live⟩
    rcases eq_or_ne j k with rfl | other
    · cases at_.symm.trans old_at
      have bound := (List.getElem?_eq_some_iff.mp at_).1
      exact ⟨task', List.getElem?_set_self bound, context, kept error⟩
    · exact ⟨old, by rw [List.getElem?_set_ne (Ne.symm other), old_at], rfl, fun fell live => ⟨fell, live⟩⟩
  refine ⟨h.contexts.follows (follows_set Continues.refl at_ continues),
    h.locks.set at_ continues.toMoves (by rw [phase]), fun j new new_at cancelled => ?_, ?_, ?_⟩
  · rcases getElem?_set_cases new_at with ⟨rfl, rfl⟩ | ⟨_, old⟩
    · exact cancels cancelled
    · exact h.cancelled j new old cancelled
  · intro c' caller' j at_' waits'
    rcases getElem?_set_cases at_' with ⟨rfl, rfl⟩ | ⟨other, old⟩
    · rw [waits] at waits'
      cases waits'
    · obtain ⟨old_task, old_at, here, waiter⟩ := h.waits c' caller' j old waits'
      rcases eq_or_ne j k with rfl | elsewhere
      · cases at_.symm.trans old_at
        have bound := (List.getElem?_eq_some_iff.mp at_).1
        refine ⟨task', List.getElem?_set_self bound, context.trans here, ?_⟩
        rw [waiters]
        exact List.mem_filter.mpr ⟨waiter, by simpa using other⟩
      · exact ⟨old_task, by rw [State.setCaller, State.setTask, List.getElem?_set_ne (Ne.symm elsewhere),
          old_at], here, waiter⟩
  · intro c' caller' j error at_' blames
    rcases getElem?_set_cases at_' with ⟨rfl, rfl⟩ | ⟨_, old⟩
    · refine failed (h.blames c' caller j error caller_at ?_)
      rw [leaving, ← blames, same]
      rfl
    · exact failed (h.blames c' caller' j error old blames)

lemma checked_own {caller : Caller} {aborted : Bool} {budget : ℚ} {k : ℕ} {error : Thrown} :
    caller.checked drivers aborted budget ≠ .error (.preparation k error) := by
  intro same
  simp only [Caller.checked, Caller.aborted, Caller.timedOut] at same
  split at same
  · cases same
  · split at same
    · cases same
    · cases same

lemma lost_own {caller : Caller} {timer : Bool} {k : ℕ} {error : Thrown} :
    caller.lost drivers timer ≠ .preparation k error := by
  cases timer with
  | true => simp [Caller.lost, Caller.timedOut]
  | false => simp [Caller.lost, Caller.aborted]

lemma Inv.step {action : Action} (h : Inv drivers s) (step : Step drivers s action t) :
    Inv drivers t := by
  cases step with
  | calls context deadlineMs =>
    refine ⟨h.contexts, h.locks, h.cancelled, fun c caller k at_ waits => ?_,
      fun c caller k error at_ blames => ?_⟩
    · rcases getElem?_concat_cases at_ with ⟨_, rfl⟩ | ⟨_, old⟩
      · cases waits
      · exact h.waits c caller k old waits
    · rcases getElem?_concat_cases at_ with ⟨_, rfl⟩ | ⟨_, old⟩
      · cases blames
      · exact h.blames c caller k error old blames
  | unprepared c caller at_ arriving none_ => exact h.alone rfl (by simp [Stage.result])
  | prepared c caller preparation aborted budget at_ arriving some_ done =>
    exact h.alone rfl fun k error same => checked_own (Option.some.inj same)
  | exhausted c caller preparation budget at_ arriving some_ undone spent =>
    exact h.alone rfl (by simp [Stage.result, Caller.timedOut])
  | starts c caller preparation budget now at_ arriving some_ unset left => exact h.start unset
  | joins c caller preparation budget k task at_ arriving some_ inFlight left task_at live =>
    exact h.join inFlight task_at live
  | retires c caller preparation budget k task at_ arriving some_ inFlight left task_at cancelled =>
    exact h.alone rfl (by simp [Stage.result])
  | drained c caller k task outcome at_ retiring task_at settled =>
    exact h.alone rfl (by simp [Stage.result])
  | losesRetirement c caller k timer at_ retiring =>
    exact h.alone rfl fun k error same => lost_own (Except.error.inj (Option.some.inj same))
  | loses c caller k timer at_ waiting =>
    refine h.own (fun j waits => ?_) fun j error same => ?_
    · exact h.waits c caller j at_ (by rw [waiting]; exact waits)
    · exact absurd (Except.error.inj (Option.some.inj same)) lost_own
  | learnsDone c caller k task aborted budget at_ waiting task_at settled =>
    refine h.own (fun j waits => ?_) fun j error same => ?_
    · exact h.waits c caller j at_ (by rw [waiting]; exact waits)
    · exact absurd (Option.some.inj same) checked_own
  | learnsFailure c caller k task error at_ waiting task_at settled =>
    refine h.own (fun j waits => ?_) fun j error' same => ?_
    · exact h.waits c caller j at_ (by rw [waiting]; exact waits)
    · cases same
      obtain ⟨task', task_at', here, waiter⟩ := h.waits c caller k at_ (by rw [waiting]; rfl)
      cases task_at.symm.trans task_at'
      refine ⟨task, task_at, here, settled, ?_⟩
      cases live : task.cancelled with
      | false => rfl
      | true =>
        rw [h.cancelled k task task_at live] at waiter
        cases waiter
  | leaves c caller k task result at_ leaving task_at =>
    rw [State.leave]
    split
    · rename_i last
      refine h.leave at_ leaving task_at rfl rfl rfl (fun _ => last.1) (fun outcome settled => ?_) rfl rfl
      -- a settled task is not in flight
      obtain ⟨task', task_at', _, unsettled⟩ := (h.contexts.inFlight _ k).mp last.2
      cases task_at.symm.trans task_at'
      exact absurd settled (Phase.unsettled_iff.mp unsettled outcome)
    · refine h.leave at_ leaving task_at rfl rfl rfl (fun cancelled => ?_) (fun _ _ => rfl) rfl rfl
      rw [h.cancelled k task task_at cancelled]
      rfl
  | returns c caller k task result outcome at_ draining task_at settled =>
    refine h.own (fun j waits => ?_) fun j error same => ?_
    · cases waits
    · exact h.blames c caller j error at_ (by rw [draining]; exact same)
  | dequeues k task prior program at_ queued free =>
    have continues : Continues task { task with
        phase := if task.cancelled then .finished (.error (noRemainingOwner (drivers task.context).table))
          else .running program } := by
      refine ⟨⟨rfl, fun released => ?_, fun prior' program' same => ?_⟩, fun outcome => ?_⟩
      · rw [queued] at released
        cases released
      · dsimp only at same
        split at same
        · cases same
        · cases same
      · dsimp only
        rw [queued]
        split
        · simp
        · simp
    exact h.task at_ continues rfl rfl (h.locks.dequeue at_ queued continues.toMoves free)
  | answers k task q next answer at_ running =>
    have continues : Continues task { task with phase := .running (next answer) } := by
      refine ⟨⟨rfl, fun released => ?_, fun prior' program' same => ?_⟩, fun outcome => ?_⟩
      · rw [running] at released
        cases released
      · cases same
      · rw [running]
        simp
    exact h.task at_ continues rfl rfl (h.locks.set at_ continues.toMoves (by rw [running]; rfl))
  | finishes k task outcome at_ running =>
    have continues : Continues task { task with phase := .finished outcome } := by
      refine ⟨⟨rfl, fun released => rfl, fun prior' program' same => ?_⟩, fun outcome => ?_⟩
      · cases same
      · rw [running]
        simp
    exact h.task at_ continues rfl rfl (h.locks.set at_ continues.toMoves (by rw [running]; rfl))
  | settles k task outcome at_ finished => exact h.settle at_ finished
  | unlocks k task binary at_ lock released held =>
    exact ⟨h.contexts, h.locks.unlock at_ lock released held, h.cancelled, h.waits, h.blames⟩

lemma Runs.inv (runs : Runs drivers s) : Inv drivers s := by
  refine Transition.Reachable.invariant (fun s initial => ?_) (fun s t h step => ?_) runs
  · rw [initial]
    exact Inv.initial
  · obtain ⟨action, step⟩ := step
    exact h.step step

/-! ### What an uncancelled preparation comes to -/

/-- The commands of a preparation that a call at `now` starts. -/
def sharedPreparation (drivers : ℕ → Driver) (context : ℕ) (preparation : Preparation) (now : ℚ) :
    Running :=
  let table := (drivers context).table
  (performPreparation table preparation (sharedBudgetMs table) (now + sharedBudgetMs table)).run

/-- What is left of some preparation of the context. -/
def Residue (drivers : ℕ → Driver) (context : ℕ) (program : Running) : Prop :=
  ∃ preparation now h, (drivers context).prepare = some preparation ∧
    Transition.Leads Program.Answers (sharedPreparation drivers context preparation now, []) (program, h)

def Phase.residue : Phase → Running
  | .queued _ program => program
  | .running program => program
  | .finished outcome => .done outcome
  | .settled outcome => .done outcome

def Action.task : Action → Option ℕ
  | .dequeues k => some k
  | .answers k => some k
  | .finishes k => some k
  | .settles k => some k
  | _ => none

/-- The last waiter of a task leaves, and cancels it. -/
structure LastLeaves (s : State) (action : Action) (k : ℕ) (task task' : Task) : Prop where
  cancelled : task'.cancelled = true
  waiters : task'.waiters = []
  last : ∃ c caller result, action = .leaves c ∧ s.callers[c]? = some caller ∧
    caller.stage = .leaving k result ∧ task.waiters.filter (· ≠ c) = []

/-- What a step may make of a task. -/
structure Changed (s : State) (action : Action) (k : ℕ) (task task' : Task) : Prop where
  context : task'.context = task.context
  phase : task'.phase = task.phase ∨ action.task = some k ∧ task.phase.unsettled = true
  residue : task'.cancelled = false →
    ∀ h, ∃ h', Transition.Leads Program.Answers (task.phase.residue, h) (task'.phase.residue, h')
  cancelled : task'.cancelled = task.cancelled ∨ LastLeaves s action k task task'

/-- A change that leaves the phase as it is. -/
lemma Changed.steady {action : Action} {k : ℕ} {task task' : Task} (context : task'.context = task.context)
    (phase : task'.phase = task.phase)
    (cancelled : task'.cancelled = task.cancelled ∨ LastLeaves s action k task task') :
    Changed s action k task task' := by
  refine ⟨context, Or.inl phase, fun _ h => ⟨h, ?_⟩, cancelled⟩
  rw [phase]

/-- What a step makes of the tasks: nothing, a new one, or one of them changed. -/
lemma Step.makes {action : Action} (step : Step drivers s action t) :
    t.tasks = s.tasks ∨
    (∃ x phase preparation now c, t.tasks = s.tasks ++ [⟨x, phase, false, [c]⟩] ∧
      (drivers x).prepare = some preparation ∧
      phase.residue = sharedPreparation drivers x preparation now) ∨
    ∃ k task task', s.tasks[k]? = some task ∧ t.tasks = s.tasks.set k task' ∧
      Changed s action k task task' := by
  cases step with
  | calls context deadlineMs => exact Or.inl rfl
  | unprepared c caller at_ arriving none_ => exact Or.inl rfl
  | prepared c caller preparation aborted budget at_ arriving some_ done => exact Or.inl rfl
  | exhausted c caller preparation budget at_ arriving some_ undone spent => exact Or.inl rfl
  | starts c caller preparation budget now at_ arriving some_ unset left =>
    refine Or.inr (Or.inl ⟨caller.context, _, preparation, now, c, rfl, some_, ?_⟩)
    cases (drivers caller.context).lock with
    | none => rfl
    | some binary => rfl
  | joins c caller preparation budget k task at_ arriving some_ inFlight left task_at live =>
    exact Or.inr (Or.inr ⟨k, task, _, task_at, rfl, .steady rfl rfl (Or.inl rfl)⟩)
  | retires c caller preparation budget k task at_ arriving some_ inFlight left task_at cancelled =>
    exact Or.inl rfl
  | drained c caller k task outcome at_ retiring task_at settled => exact Or.inl rfl
  | losesRetirement c caller k timer at_ retiring => exact Or.inl rfl
  | loses c caller k timer at_ waiting => exact Or.inl rfl
  | learnsDone c caller k task aborted budget at_ waiting task_at settled => exact Or.inl rfl
  | learnsFailure c caller k task error at_ waiting task_at settled => exact Or.inl rfl
  | leaves c caller k task result at_ leaving task_at =>
    rw [State.leave]
    split
    · rename_i last
      have lastLeaves : LastLeaves s (.leaves c) k task
          { task with waiters := task.waiters.filter (· ≠ c), cancelled := true } :=
        ⟨rfl, last.1, c, caller, result, rfl, at_, leaving, last.1⟩
      exact Or.inr (Or.inr ⟨k, task, _, task_at, rfl, .steady rfl rfl (Or.inr lastLeaves)⟩)
    · exact Or.inr (Or.inr ⟨k, task, _, task_at, rfl, .steady rfl rfl (Or.inl rfl)⟩)
  | returns c caller k task result outcome at_ draining task_at settled => exact Or.inl rfl
  | dequeues k task prior program at_ queued free =>
    refine Or.inr (Or.inr ⟨k, task, _, at_, rfl, rfl, Or.inr ⟨rfl, ?_⟩, fun live h => ⟨h, ?_⟩, Or.inl rfl⟩)
    · rw [queued]
      rfl
    · dsimp only at live ⊢
      rw [queued, live]
      exact Relation.ReflTransGen.refl
  | answers k task q next answer at_ running =>
    refine Or.inr (Or.inr ⟨k, task, _, at_, rfl, rfl, Or.inr ⟨rfl, ?_⟩,
      fun _ h => ⟨h ++ [⟨q, answer⟩], ?_⟩, Or.inl rfl⟩)
    · rw [running]
      rfl
    · rw [running]
      exact Relation.ReflTransGen.single (.answer q next answer h)
  | finishes k task outcome at_ running =>
    refine Or.inr (Or.inr ⟨k, task, _, at_, rfl, rfl, Or.inr ⟨rfl, ?_⟩, fun _ h => ⟨h, ?_⟩, Or.inl rfl⟩)
    · rw [running]
      rfl
    · rw [running]
      exact Relation.ReflTransGen.refl
  | settles k task outcome at_ finished =>
    refine Or.inr (Or.inr ⟨k, task, _, at_, rfl, rfl, Or.inr ⟨rfl, ?_⟩, fun _ h => ⟨h, ?_⟩, Or.inl rfl⟩)
    · rw [finished]
      rfl
    · rw [finished]
      exact Relation.ReflTransGen.refl
  | unlocks k task binary at_ lock released held => exact Or.inl rfl

/-- A task that nobody has cancelled is what is left of its own commands. -/
def Faithful (drivers : ℕ → Driver) (tasks : List Task) : Prop :=
  ∀ (k : ℕ) task, tasks[k]? = some task → task.cancelled = false →
    Residue drivers task.context task.phase.residue

lemma Faithful.step {action : Action} (h : Faithful drivers s.tasks)
    (step : Step drivers s action t) : Faithful drivers t.tasks := by
  intro j other at_ live
  rcases step.makes with same | ⟨x, phase, preparation, now, c, started, some_, fresh⟩ |
    ⟨k, task, task', task_at, set, changed⟩
  · rw [same] at at_
    exact h j other at_ live
  · rw [started] at at_
    rcases getElem?_concat_cases at_ with ⟨_, rfl⟩ | ⟨_, old⟩
    · refine ⟨preparation, now, [], some_, ?_⟩
      rw [fresh]
    · exact h j other old live
  · rw [set] at at_
    rcases getElem?_set_cases at_ with ⟨rfl, rfl⟩ | ⟨_, old⟩
    · have uncancelled : task.cancelled = false := by
        rcases changed.cancelled with same | lastLeaves
        · exact same.symm.trans live
        · rw [lastLeaves.cancelled] at live
          cases live
      obtain ⟨preparation, now, events, some_, run⟩ := h j task task_at uncancelled
      obtain ⟨later, continues⟩ := changed.residue live events
      rw [changed.context]
      exact ⟨preparation, now, later, some_, run.trans continues⟩
    · exact h j other old live

lemma Runs.faithful (runs : Runs drivers s) : Faithful drivers s.tasks := by
  refine Transition.Reachable.invariant (I := fun s => Faithful drivers s.tasks) (fun s initial => ?_)
    (fun s t h step => ?_) runs
  · rw [initial]
    simp [Faithful, State.initial]
  · obtain ⟨action, step⟩ := step
    exact h.step step

/-! ### What holds in every run -/

/-- At most one preparation of a context is in flight. -/
def OnePerContext (s : State) : Prop :=
  ∀ (j k : ℕ) x y, s.tasks[j]? = some x → s.tasks[k]? = some y → x.context = y.context →
    x.phase.unsettled = true → y.phase.unsettled = true → j = k

/-- At most one of a binary runs commands, where the table authenticates first. -/
def OnePerBinary (drivers : ℕ → Driver) (s : State) : Prop :=
  ∀ (j k : ℕ) x y binary, s.tasks[j]? = some x → s.tasks[k]? = some y →
    lockOf drivers x = some binary → lockOf drivers y = some binary →
    x.phase.performing = true → y.phase.performing = true → j = k

/-- Nobody waits for a cancelled task. -/
def Unwaited (s : State) : Prop :=
  ∀ (k : ℕ) task, s.tasks[k]? = some task → task.cancelled = true →
    ∀ (c : ℕ) caller, s.callers[c]? = some caller → caller.stage.waitsFor ≠ some k

/-- The phase of a task changes by its own steps only, and not once it has settled. -/
def KeepsPhases (action : Action) (s t : State) : Prop :=
  ∀ (k : ℕ) task, s.tasks[k]? = some task → ∃ task', t.tasks[k]? = some task' ∧
    task'.context = task.context ∧
      (task'.phase = task.phase ∨ action.task = some k ∧ task.phase.unsettled = true)

/-- A step cancels a task only as the one caller that still waits for it leaves. -/
def CancelsLast (s : State) (action : Action) (t : State) : Prop :=
  ∀ (k : ℕ) task task', s.tasks[k]? = some task → t.tasks[k]? = some task' →
    task.cancelled = false → task'.cancelled = true → ∃ c, action = .leaves c ∧
      (∃ caller, s.callers[c]? = some caller ∧ caller.stage.waitsFor = some k) ∧
      ∀ (c' : ℕ) caller, s.callers[c']? = some caller → caller.stage.waitsFor = some k → c' = c

/-- A call fails by itself, or by a preparation of its context that failed by its own commands. -/
def FailsFairly (drivers : ℕ → Driver) (s : State) : Prop :=
  ∀ (c : ℕ) caller k error, s.callers[c]? = some caller →
    caller.stage = .returned (.error (.preparation k error)) →
      FailedTask s.tasks caller.context k error ∧
      ∃ preparation now h, (drivers caller.context).prepare = some preparation ∧
        (sharedPreparation drivers caller.context preparation now).Returns h (.error error)

/-- No preparation is in flight, and none starts. -/
def Finished (k : ℕ) (context : ℕ) (s : State) : Prop :=
  ∀ (j : ℕ) task, s.tasks[j]? = some task → task.context = context →
    j ≤ k ∧ task.phase.unsettled = false

/-- A preparation of the context has been started for this call. -/
def StartsFresh (drivers : ℕ → Driver) (s t : State) (x c : ℕ) : Prop :=
  ∃ phase preparation now, t.tasks = s.tasks ++ [⟨x, phase, false, [c]⟩] ∧
    (drivers x).prepare = some preparation ∧
    phase.residue = sharedPreparation drivers x preparation now

/-- What a call comes to as it arrives. -/
def Arrival (drivers : ℕ → Driver) (s t : State) (x c : ℕ) : Stage → Prop
  | .returned (.ok _) => (drivers x).prepare = none ∨
    ∃ (k : ℕ) (task : Task), s.tasks[k]? = some task ∧ task.context = x ∧ task.phase = .settled (.ok ())
  | .returned (.error reason) => ∃ error, reason = .own error
  | .waiting k => ∃ task, t.tasks[k]? = some task ∧ task.context = x ∧ task.cancelled = false ∧
    task.phase.unsettled = true ∧ c ∈ task.waiters
  | .retiring k => ∃ task, s.tasks[k]? = some task ∧ task.context = x ∧ task.cancelled = true ∧
    task.phase.unsettled = true
  | _ => False

/-- The last preparation of a context has failed. -/
def LastFailed (s : State) (x : ℕ) : Prop :=
  ∃ (k : ℕ) (task : Task) (error : Thrown), s.tasks[k]? = some task ∧ task.context = x ∧
    task.phase = .settled (.error error) ∧
    ∀ (j : ℕ) other, s.tasks[j]? = some other → other.context = x → j ≤ k

/-- An arrival, which starts afresh after a failure. -/
def Arrives (drivers : ℕ → Driver) (s : State) (c : ℕ) (t : State) : Prop :=
  ∃ caller stage, s.callers[c]? = some caller ∧ t.callers[c]? = some { caller with stage } ∧
    Arrival drivers s t caller.context c stage ∧
    (LastFailed s caller.context → (drivers caller.context).prepare ≠ none →
      (∃ error, stage = .returned (.error (.own error))) ∨
      stage = .waiting s.tasks.length ∧ StartsFresh drivers s t caller.context c)

lemma Inv.onePerContext (h : Inv drivers s) : OnePerContext s := by
  intro j k x y x_at y_at same x_unsettled y_unsettled
  have first := (h.contexts.inFlight y.context j).mpr ⟨x, x_at, same, x_unsettled⟩
  have second := (h.contexts.inFlight y.context k).mpr ⟨y, y_at, rfl, y_unsettled⟩
  cases first.symm.trans second
  rfl

lemma Phase.performing_unqueued {phase : Phase} (performing : phase.performing = true) :
    phase.queues = false ∧ phase.released = false := by
  cases phase with
  | running program => exact ⟨rfl, rfl⟩
  | queued prior program => cases performing
  | finished outcome => cases performing
  | settled outcome => cases performing

lemma Inv.onePerBinary (h : Inv drivers s) : OnePerBinary drivers s := by
  -- the earlier of two has given the lock up once the later is out of the queue
  have earlier : ∀ (j k : ℕ) x y binary, s.tasks[j]? = some x → s.tasks[k]? = some y →
      lockOf drivers x = some binary → lockOf drivers y = some binary →
      x.phase.performing = true → y.phase.performing = true → ¬ j < k := by
    intro j k x y binary x_at y_at x_lock y_lock x_performing y_performing before
    have released := h.locks.order k y y_at (Phase.performing_unqueued y_performing).1 binary y_lock
      j x before x_at x_lock
    rw [(Phase.performing_unqueued x_performing).2] at released
    cases released
  intro j k x y binary x_at y_at x_lock y_lock x_performing y_performing
  have notBefore := earlier j k x y binary x_at y_at x_lock y_lock x_performing y_performing
  have notAfter := earlier k j y x binary y_at x_at y_lock x_lock y_performing x_performing
  omega

lemma Inv.unwaited (h : Inv drivers s) : Unwaited s := by
  intro k task at_ cancelled c caller caller_at waits
  obtain ⟨task', at_', _, waiter⟩ := h.waits c caller k caller_at waits
  cases at_.symm.trans at_'
  rw [h.cancelled k task at_ cancelled] at waiter
  cases waiter

lemma Step.keepsPhases {action : Action} (step : Step drivers s action t) : KeepsPhases action s t := by
  intro j old old_at
  rcases step.makes with same | ⟨x, phase, preparation, now, c, started, _, _⟩ |
    ⟨k, task, task', task_at, set, changed⟩
  · rw [same]
    exact ⟨old, old_at, rfl, Or.inl rfl⟩
  · rw [started]
    exact ⟨old, getElem?_concat_of old_at, rfl, Or.inl rfl⟩
  · rw [set]
    rcases eq_or_ne j k with rfl | differs
    · cases task_at.symm.trans old_at
      have bound := (List.getElem?_eq_some_iff.mp task_at).1
      exact ⟨task', List.getElem?_set_self bound, changed.context, changed.phase⟩
    · exact ⟨old, by rw [List.getElem?_set_ne (Ne.symm differs), old_at], rfl, Or.inl rfl⟩

lemma Inv.cancelsLast {action : Action} (h : Inv drivers s) (step : Step drivers s action t) :
    CancelsLast s action t := by
  intro j old new old_at new_at live cancelled
  rcases step.makes with same | ⟨x, phase, preparation, now, c, started, _, _⟩ |
    ⟨k, task, task', task_at, set, changed⟩
  · rw [same, old_at] at new_at
    cases new_at
    rw [live] at cancelled
    cases cancelled
  · rw [started, getElem?_concat_of old_at] at new_at
    cases new_at
    rw [live] at cancelled
    cases cancelled
  · rw [set] at new_at
    rcases getElem?_set_cases new_at with ⟨rfl, rfl⟩ | ⟨_, new_old⟩
    · cases task_at.symm.trans old_at
      rcases changed.cancelled with same | ⟨_, _, c, caller, result, leaves, caller_at, leaving, last⟩
      · rw [same, live] at cancelled
        cases cancelled
      · refine ⟨c, leaves, ⟨caller, caller_at, by rw [leaving]; rfl⟩, ?_⟩
        intro c' caller' caller_at' waits
        obtain ⟨task, at_, _, waiter⟩ := h.waits c' caller' j caller_at' waits
        cases task_at.symm.trans at_
        by_contra other
        have stays := (List.mem_filter (p := fun x => decide (x ≠ c))).mpr
          ⟨waiter, decide_eq_true other⟩
        rw [last] at stays
        cases stays
    · cases new_old.symm.trans old_at
      rw [live] at cancelled
      cases cancelled

lemma Inv.failsFairly (h : Inv drivers s) (faithful : Faithful drivers s.tasks) :
    FailsFairly drivers s := by
  intro c caller k error at_ returned
  have failed := h.blames c caller k error at_ (by rw [returned]; rfl)
  obtain ⟨task, task_at, here, fell, live⟩ := failed
  refine ⟨⟨task, task_at, here, fell, live⟩, ?_⟩
  obtain ⟨preparation, now, events, some_, run⟩ := faithful k task task_at live
  rw [here] at some_ run
  rw [fell] at run
  exact ⟨preparation, now, events, some_, run⟩

lemma Inv.finished {k : ℕ} {task : Task} (h : Inv drivers s) (at_ : s.tasks[k]? = some task)
    (done : task.phase = .settled (.ok ())) : Finished k task.context s := by
  intro j other other_at same
  refine ⟨h.contexts.latest k task at_ (by rw [done]; rfl) j other other_at same, ?_⟩
  cases unsettled : other.phase.unsettled with
  | false => rfl
  | true =>
    have inFlight := (h.contexts.inFlight task.context j).mpr ⟨other, other_at, same, unsettled⟩
    have prepared := (h.contexts.done task.context).mpr ⟨k, task, at_, rfl, done⟩
    rw [prepared] at inFlight
    cases inFlight

/-- A task that has settled stays as it is. -/
lemma settled_stays {k x : ℕ} {outcome : Except Thrown Unit}
    (settled : ∃ task, s.tasks[k]? = some task ∧ task.context = x ∧ task.phase = .settled outcome)
    (run : Transition.Leads (fun s t => ∃ action, Step drivers s action t) s t) :
    ∃ task, t.tasks[k]? = some task ∧ task.context = x ∧ task.phase = .settled outcome := by
  induction run with
  | refl => exact settled
  | tail _ step ih =>
    obtain ⟨task, at_, here, settled⟩ := ih
    obtain ⟨action, step⟩ := step
    obtain ⟨task', at_', same, kept⟩ := step.keepsPhases k task at_
    refine ⟨task', at_', same.trans here, ?_⟩
    rcases kept with kept | ⟨_, unsettled⟩
    · exact kept.trans settled
    · rw [settled] at unsettled
      cases unsettled

lemma checked_ok_or_own {caller : Caller} {aborted : Bool} {budget : ℚ} :
    caller.checked drivers aborted budget = .ok () ∨
      ∃ error, caller.checked drivers aborted budget = .error (.own error) := by
  simp only [Caller.checked, Caller.aborted, Caller.timedOut]
  split
  · exact Or.inr ⟨_, rfl⟩
  · split
    · exact Or.inr ⟨_, rfl⟩
    · exact Or.inl rfl

lemma Inv.unset_of_lastFailed {x : ℕ} (h : Inv drivers s) (failed : LastFailed s x) :
    s.prepare x = .unset := by
  obtain ⟨k, task, error, at_, here, fell, last⟩ := failed
  -- a task that stands would be the last one, and the last one fell
  have none_stands : ∀ (j : ℕ) other, s.tasks[j]? = some other → other.context = x →
      other.phase.stands = true → False := by
    intro j other other_at same stands
    have later := h.contexts.latest j other other_at stands k task at_ (here.trans same.symm)
    cases le_antisymm later (last j other other_at same)
    cases at_.symm.trans other_at
    exact Phase.stands_iff.mp stands error fell
  match prepared : s.prepare x with
  | .unset => rfl
  | .inFlight j =>
    obtain ⟨other, other_at, same, unsettled⟩ := (h.contexts.inFlight x j).mp prepared
    refine (none_stands j other other_at same (Phase.stands_iff.mpr fun error fell => ?_)).elim
    exact Phase.unsettled_iff.mp unsettled _ fell
  | .done =>
    obtain ⟨j, other, other_at, same, done⟩ := (h.contexts.done x).mp prepared
    refine (none_stands j other other_at same ?_).elim
    rw [done]
    rfl

lemma Inv.arrives {c : ℕ} (h : Inv drivers s) (step : Step drivers s (.enters c) t) :
    Arrives drivers s c t := by
  have placed : ∀ {caller : Caller} {stage : Stage}, s.callers[c]? = some caller →
      (s.callers.set c { caller with stage })[c]? = some { caller with stage } :=
    fun at_ => List.getElem?_set_self (List.getElem?_eq_some_iff.mp at_).1
  cases step with
  | unprepared _ caller at_ arriving none_ =>
    exact ⟨caller, _, at_, placed at_, Or.inl none_, fun _ some_ => absurd none_ some_⟩
  | prepared _ caller preparation aborted budget at_ arriving some_ done =>
    refine ⟨caller, _, at_, placed at_, ?_, fun failed _ => ?_⟩
    · rcases checked_ok_or_own with ok | ⟨error, own⟩
      · rw [ok]
        exact Or.inr ((h.contexts.done caller.context).mp done)
      · rw [own]
        exact ⟨error, rfl⟩
    · rw [h.unset_of_lastFailed failed] at done
      cases done
  | exhausted _ caller preparation budget at_ arriving some_ undone spent =>
    exact ⟨caller, _, at_, placed at_, ⟨_, rfl⟩, fun _ _ => Or.inl ⟨_, rfl⟩⟩
  | starts _ caller preparation budget now at_ arriving some_ unset left =>
    have fresh : ∀ phase : Phase, phase.unsettled = true → ∃ task,
        (s.tasks ++ [⟨caller.context, phase, false, [c]⟩])[s.tasks.length]? = some task ∧
          task.context = caller.context ∧ task.cancelled = false ∧ task.phase.unsettled = true ∧
          c ∈ task.waiters :=
      fun phase unsettled =>
        ⟨_, List.getElem?_concat_length, rfl, rfl, unsettled, List.mem_singleton_self c⟩
    refine ⟨caller, _, at_, placed at_, fresh _ ?_, fun _ _ => Or.inr ⟨rfl, _, preparation, now, rfl,
      some_, ?_⟩⟩
    · cases (drivers caller.context).lock with
      | none => rfl
      | some binary => rfl
    · cases (drivers caller.context).lock with
      | none => rfl
      | some binary => rfl
  | joins _ caller preparation budget k task at_ arriving some_ inFlight left task_at live =>
    obtain ⟨_, task_at', here, unsettled⟩ := (h.contexts.inFlight caller.context k).mp inFlight
    cases task_at.symm.trans task_at'
    have bound := (List.getElem?_eq_some_iff.mp task_at).1
    refine ⟨caller, _, at_, placed at_,
      ⟨_, List.getElem?_set_self bound, here, live, unsettled, by simp⟩, fun failed _ => ?_⟩
    rw [h.unset_of_lastFailed failed] at inFlight
    cases inFlight
  | retires _ caller preparation budget k task at_ arriving some_ inFlight left task_at cancelled =>
    obtain ⟨_, task_at', here, unsettled⟩ := (h.contexts.inFlight caller.context k).mp inFlight
    cases task_at.symm.trans task_at'
    refine ⟨caller, _, at_, placed at_, ⟨task, task_at, here, cancelled, unsettled⟩, fun failed _ => ?_⟩
    rw [h.unset_of_lastFailed failed] at inFlight
    cases inFlight

/-- A call behind a cancelled task waits for it to drain and arrives again, or fails by itself. -/
def Retires (s t : State) : Prop :=
  ∀ (c : ℕ) caller k, s.callers[c]? = some caller → caller.stage = .retiring k →
    ∃ caller', t.callers[c]? = some caller' ∧ caller'.context = caller.context ∧
      (caller'.stage = .retiring k ∨
        (caller'.stage = .arriving ∧ ∃ (task : Task) (outcome : _),
          s.tasks[k]? = some task ∧ task.phase = .settled outcome) ∨
        ∃ error, caller'.stage = .returned (.error (.own error)))

/-- What a step makes of the callers: nothing, a new one, or one of them goes on. -/
lemma Step.goes {action : Action} (step : Step drivers s action t) :
    t.callers = s.callers ∨ (∃ new, t.callers = s.callers ++ [new]) ∨
    ∃ (c : ℕ) (caller : Caller) (stage : Stage), s.callers[c]? = some caller ∧
      t.callers = s.callers.set c { caller with stage } ∧
      ∀ k, caller.stage = .retiring k →
        (stage = .arriving ∧ ∃ (task : Task) (outcome : _),
          s.tasks[k]? = some task ∧ task.phase = .settled outcome) ∨
        ∃ error, stage = .returned (.error (.own error)) := by
  have goes : ∀ {c : ℕ} {caller : Caller} {stage : Stage}, s.callers[c]? = some caller →
      (∀ k, caller.stage ≠ .retiring k) →
      ∃ (c' : ℕ) (caller' : Caller) (stage' : Stage), s.callers[c']? = some caller' ∧
        s.callers.set c { caller with stage } = s.callers.set c' { caller' with stage := stage' } ∧
        ∀ k, caller'.stage = .retiring k →
          (stage' = .arriving ∧ ∃ (task : Task) (outcome : _),
            s.tasks[k]? = some task ∧ task.phase = .settled outcome) ∨
          ∃ error, stage' = .returned (.error (.own error)) := by
    intro c caller stage at_ other
    exact ⟨c, caller, stage, at_, rfl, fun k retiring => absurd retiring (other k)⟩
  cases step with
  | calls context deadlineMs => exact Or.inr (Or.inl ⟨_, rfl⟩)
  | unprepared c caller at_ arriving none_ =>
    exact Or.inr (Or.inr (goes at_ (by simp [arriving])))
  | prepared c caller preparation aborted budget at_ arriving some_ done =>
    exact Or.inr (Or.inr (goes at_ (by simp [arriving])))
  | exhausted c caller preparation budget at_ arriving some_ undone spent =>
    exact Or.inr (Or.inr (goes at_ (by simp [arriving])))
  | starts c caller preparation budget now at_ arriving some_ unset left =>
    exact Or.inr (Or.inr (goes at_ (by simp [arriving])))
  | joins c caller preparation budget k task at_ arriving some_ inFlight left task_at live =>
    exact Or.inr (Or.inr (goes at_ (by simp [arriving])))
  | retires c caller preparation budget k task at_ arriving some_ inFlight left task_at cancelled =>
    exact Or.inr (Or.inr (goes at_ (by simp [arriving])))
  | drained c caller k task outcome at_ retiring task_at settled =>
    refine Or.inr (Or.inr ⟨c, caller, _, at_, rfl, fun j same => Or.inl ⟨rfl, task, outcome, ?_, settled⟩⟩)
    cases retiring.symm.trans same
    exact task_at
  | losesRetirement c caller k timer at_ retiring =>
    refine Or.inr (Or.inr ⟨c, caller, _, at_, rfl, fun j same => Or.inr ?_⟩)
    cases timer with
    | true => exact ⟨_, rfl⟩
    | false => exact ⟨_, rfl⟩
  | loses c caller k timer at_ waiting => exact Or.inr (Or.inr (goes at_ (by simp [waiting])))
  | learnsDone c caller k task aborted budget at_ waiting task_at settled =>
    exact Or.inr (Or.inr (goes at_ (by simp [waiting])))
  | learnsFailure c caller k task error at_ waiting task_at settled =>
    exact Or.inr (Or.inr (goes at_ (by simp [waiting])))
  | leaves c caller k task result at_ leaving task_at =>
    rw [State.leave]
    split
    · exact Or.inr (Or.inr (goes at_ (by simp [leaving])))
    · exact Or.inr (Or.inr (goes at_ (by simp [leaving])))
  | returns c caller k task result outcome at_ draining task_at settled =>
    exact Or.inr (Or.inr (goes at_ (by simp [draining])))
  | dequeues k task prior program at_ queued free => exact Or.inl rfl
  | answers k task q next answer at_ running => exact Or.inl rfl
  | finishes k task outcome at_ running => exact Or.inl rfl
  | settles k task outcome at_ finished => exact Or.inl rfl
  | unlocks k task binary at_ lock released held => exact Or.inl rfl

lemma Step.behind {action : Action} (step : Step drivers s action t) : Retires s t := by
  intro j old k old_at retiring
  rcases step.goes with same | ⟨new, more⟩ | ⟨c, caller, stage, at_, set, goes⟩
  · exact ⟨old, by rw [same, old_at], rfl, Or.inl retiring⟩
  · exact ⟨old, by rw [more, getElem?_concat_of old_at], rfl, Or.inl retiring⟩
  · rw [set]
    rcases eq_or_ne j c with rfl | differs
    · cases at_.symm.trans old_at
      have bound := (List.getElem?_eq_some_iff.mp at_).1
      exact ⟨_, List.getElem?_set_self bound, rfl, Or.inr (goes k retiring)⟩
    · exact ⟨old, by rw [List.getElem?_set_ne (Ne.symm differs), old_at], rfl, Or.inl retiring⟩

/-- In any interleaving: one preparation at a time for a context, and one at work for a
binary; only the last waiter cancels, and no caller fails by another; what has succeeded
is not run again, and what has failed is started afresh by the next caller. -/
theorem ensurePreparedOnce_safe (runs : Runs drivers s) :
    OnePerContext s ∧ OnePerBinary drivers s ∧ Unwaited s ∧ FailsFairly drivers s ∧
      (∀ action t, Step drivers s action t →
        KeepsPhases action s t ∧ CancelsLast s action t ∧ Retires s t) ∧
      (∀ c t, Step drivers s (.enters c) t → Arrives drivers s c t) ∧
      ∀ (k : ℕ) task, s.tasks[k]? = some task → task.phase = .settled (.ok ()) →
        ∀ t, Transition.Leads (fun s t => ∃ action, Step drivers s action t) s t →
          Finished k task.context t := by
  have h := runs.inv
  refine ⟨h.onePerContext, h.onePerBinary, h.unwaited, h.failsFairly runs.faithful,
    fun action t step => ⟨step.keepsPhases, h.cancelsLast step, step.behind⟩,
    fun c t step => h.arrives step, fun k task at_ done t run => ?_⟩
  obtain ⟨task', at_', here, done'⟩ := settled_stays ⟨task, at_, rfl, done⟩ run
  have finished := (Runs.inv (runs.later run)).finished at_' done'
  rw [here] at finished
  exact finished

def sampleTable : CliTable where
  provider := "sample"
  binary := "sample"
  commandTimeoutMs := 1000
  commandTimeout_pos := by decide
  createCommandTimeoutMs := none
  createAttemptCeilingMs := none
  readyPoll := []
  pollIntervalMs := none
  cleanupCreated := .command
  absenceConfirmationMs := 1000
  absenceConfirmation_pos := by decide
  matchesNotFound := fun _ => false
  redactArgs := id
  redact := fun text _ => text

def samplePreparation : Preparation := ⟨true, ["whoami"], ["login"]⟩

def sampleDrivers : ℕ → Driver := fun _ => ⟨sampleTable, some samplePreparation⟩

/-- A preparation that is killed only after its budget. -/
lemma samplePreparation_spent : ∃ next,
    sharedPreparation sampleDrivers 0 samplePreparation 0 = .ask .now next ∧
      next (5000 : ℚ) = .done (.error (createDeadlineError sampleTable (sharedBudgetMs sampleTable))) := by
  refine ⟨_, rfl, ?_⟩
  have spent : max 0 (0 + sharedBudgetMs sampleTable - 5000) < 1 := by
    norm_num [sharedBudgetMs, sampleTable]
  exact congrArg ExceptT.run (if_pos spent)

/-- The first caller gives up and cancels; the second waits for the drain, and starts afresh. -/
theorem ensurePreparedOnce_safe_sample : ∃ s, Runs sampleDrivers s ∧
    s.tasks.map (fun task => (task.cancelled, task.waiters)) = [(true, []), (false, [1])] ∧
      OnePerContext s ∧ OnePerBinary sampleDrivers s ∧ Unwaited s ∧ FailsFairly sampleDrivers s := by
  obtain ⟨next, asked, ended⟩ := samplePreparation_spent
  have left : (1 : ℚ) ≤ 1000 := by norm_num
  have run : ∃ s, Runs sampleDrivers s ∧
      s.tasks.map (fun task => (task.cancelled, task.waiters)) = [(true, []), (false, [1])] := by
    refine ⟨_, ⟨_, rfl, Relation.ReflTransGen.refl
      |>.tail ⟨_, .calls _ 0 1000⟩
      |>.tail ⟨_, .calls _ 0 1000⟩
      |>.tail ⟨_, .starts _ 0 _ samplePreparation 1000 0 rfl rfl rfl rfl left⟩
      |>.tail ⟨_, .dequeues _ 0 _ none _ rfl rfl nofun⟩
      |>.tail ⟨_, .loses _ 0 _ 0 true rfl rfl⟩
      |>.tail ⟨_, .leaves _ 0 _ 0 _ _ rfl rfl rfl⟩
      |>.tail ⟨_, .retires _ 1 _ samplePreparation 1000 0 _ rfl rfl rfl rfl left rfl rfl⟩
      |>.tail ⟨_, .answers _ 0 _ .now next (5000 : ℚ) rfl (congrArg Phase.running asked)⟩
      |>.tail ⟨_, .finishes _ 0 _ _ rfl (congrArg Phase.running ended)⟩
      |>.tail ⟨_, .settles _ 0 _ _ rfl rfl⟩
      |>.tail ⟨_, .drained _ 1 _ 0 _ _ rfl rfl rfl rfl⟩
      |>.tail ⟨_, .starts _ 1 _ samplePreparation 1000 5000 rfl rfl rfl rfl left⟩⟩, rfl⟩
  obtain ⟨s, runs, tasks⟩ := run
  have safe := ensurePreparedOnce_safe runs
  exact ⟨s, runs, tasks, safe.1, safe.2.1, safe.2.2.1, safe.2.2.2.1⟩

end CliPreparation
