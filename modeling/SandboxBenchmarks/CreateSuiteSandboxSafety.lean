import Mathlib.Data.List.Induction
import SandboxBenchmarks.CreateSuiteSandbox

/-!
# One attempt at a time, and none forgotten

An attempt that failed is settled before the next one starts, since only a rejection is
retried. What the owner does meanwhile never unsettles an entry.
-/

namespace CreateSuiteSandbox

open RunModel

/-! ### The owner's entries -/

/-- What the owner does to an entry, as far as its promise and its destroys are concerned. -/
structure Grows (entry entry' : SandboxOwner.Entry) : Prop where
  phase : entry.settled = true → entry'.phase = entry.phase
  ops : entry.ops ≠ [] → entry'.ops ≠ []

variable {o o' : SandboxOwner.State} {entry entry' : SandboxOwner.Entry} {i j : ℕ}

lemma Grows.refl (entry : SandboxOwner.Entry) : Grows entry entry := ⟨fun _ => rfl, id⟩

lemma grows_unsettled (unsettled : entry.settled = false) (same : entry'.ops = entry.ops) :
    Grows entry entry' where
  phase settled := by
    rw [unsettled] at settled
    cases settled
  ops filled := by
    rw [same]
    exact filled

lemma grows_setLast (op : SandboxOwner.Op) : Grows entry (entry.setLast op) :=
  ⟨fun _ => rfl, fun _ => by simp [SandboxOwner.Entry.setLast]⟩

lemma destroy_ops (entry : SandboxOwner.Entry) : entry.destroy.ops ≠ [] := by
  rw [SandboxOwner.Entry.destroy]
  split
  · rename_i op current
    intro empty
    simp [SandboxOwner.Entry.current, empty] at current
  · simp

lemma grows_destroy (entry : SandboxOwner.Entry) : Grows entry entry.destroy where
  phase _ := by
    rw [SandboxOwner.Entry.destroy]
    split <;> rfl
  ops _ := destroy_ops entry

lemma grows_runs (entry : SandboxOwner.Entry) : Grows entry entry.runs := by
  rw [SandboxOwner.Entry.runs]
  split
  · exact ⟨fun _ => rfl, (grows_setLast .running).ops⟩
  · exact grows_setLast .running

lemma grows_settles (entry : SandboxOwner.Entry) (op : SandboxOwner.Op) :
    Grows entry (entry.settles op) := by
  rw [SandboxOwner.Entry.settles]
  split
  · exact ⟨fun _ => rfl, (grows_setLast op).ops⟩
  · exact grows_setLast op

/-- Each entry there is grows. -/
def AllGrow (entries entries' : List SandboxOwner.Entry) : Prop :=
  ∀ (i : ℕ) entry, entries[i]? = some entry → ∃ entry', entries'[i]? = some entry' ∧ Grows entry entry'

lemma AllGrow.refl (entries : List SandboxOwner.Entry) : AllGrow entries entries :=
  fun _ entry at_ => ⟨entry, at_, .refl entry⟩

lemma allGrow_set {entries : List SandboxOwner.Entry} (at_ : entries[j]? = some entry)
    (grows : Grows entry entry') : AllGrow entries (entries.set j entry') := by
  intro i other other_at
  rw [List.getElem?_set]
  split
  · rename_i same
    subst same
    cases at_.symm.trans other_at
    have bound := (List.getElem?_eq_some_iff.mp at_).1
    exact ⟨entry', by simp [bound], grows⟩
  · exact ⟨other, other_at, .refl other⟩

lemma allGrow_create (forwards : Bool) : AllGrow o.entries (o.create forwards).entries := by
  rw [SandboxOwner.State.create]
  split
  · exact .refl _
  · intro i entry at_
    have bound := (List.getElem?_eq_some_iff.mp at_).1
    exact ⟨entry, (List.getElem?_append_left bound).trans at_, .refl entry⟩

lemma allGrow_release (at_ : o.entries[j]? = some entry) (grows : Grows entry entry') :
    AllGrow o.entries (o.release j entry').entries :=
  allGrow_set at_ ⟨grows.phase, grows.ops⟩

theorem allGrow_step {action : SandboxOwner.Action} (step : SandboxOwner.Step o action o') :
    AllGrow o.entries o'.entries := by
  cases step with
  | create forwards => exact allGrow_create forwards
  | createRuns j entry at_ phase =>
    exact allGrow_set at_ (grows_unsettled (by simp [SandboxOwner.Entry.settled, phase]) rfl)
  | createResolves j entry handle at_ phase =>
    exact allGrow_set at_ (grows_unsettled (by simp [SandboxOwner.Entry.settled, phase]) rfl)
  | createBreaks j entry at_ phase =>
    exact allGrow_set at_ (grows_unsettled (by simp [SandboxOwner.Entry.settled, phase]) rfl)
  | createRejects j entry recoverable at_ phase =>
    have grows : ∀ phase', Grows entry { entry with phase := phase' } := fun _ =>
      grows_unsettled (by simp [SandboxOwner.Entry.settled, phase]) rfl
    cases recoverable with
    | none => exact allGrow_release at_ (grows _)
    | some cleanup => exact allGrow_set at_ (grows _)
  | destroy j entry at_ => exact allGrow_set at_ (grows_destroy entry)
  | destroyRuns j entry at_ => exact allGrow_set at_ (grows_runs entry)
  | destroySettles j entry ok at_ =>
    cases ok with
    | true => exact allGrow_release at_ (grows_settles entry _)
    | false => exact allGrow_set at_ (grows_settles entry _)
  | bridgeCalls j entry at_ => exact allGrow_set at_ ⟨fun _ => rfl, id⟩
  | bridgeSettles j entry at_ => exact allGrow_set at_ ⟨fun _ => rfl, id⟩
  | release handle j entry tracked at_ => exact allGrow_release at_ (.refl entry)
  | taskDestroys k j cleanup task entry at_ running task_at waiting entry_at =>
    rw [SandboxOwner.State.taskDestroys]
    split
    · exact allGrow_set entry_at (grows_destroy entry)
    · exact .refl _
  | cleanup => exact .refl _
  | taskSettles => exact .refl _
  | extraSettles => exact .refl _
  | taskTimesOut => exact .refl _
  | round => exact .refl _
  | wakes => exact .refl _
  | shutdown => exact .refl _
  | shutdownReturns => exact .refl _

/-! ### The invariant -/

variable {plan : Plan} {ctx : Context} {s t : State}

/-- The promise of an attempt has settled, if the owner took it at all. -/
def Settled (owner : SandboxOwner.State) (attempt : Attempt) : Prop :=
  ∀ i, attempt.entry = some i →
    ∃ entry, owner.entries[i]? = some entry ∧ entry.settled = true

lemma Settled.grows {attempt : Attempt} (settled : Settled o attempt)
    (grows : AllGrow o.entries o'.entries) : Settled o' attempt := by
  intro i owned
  obtain ⟨entry, at_, done⟩ := settled i owned
  obtain ⟨entry', at_', growth⟩ := grows i entry at_
  refine ⟨entry', at_', ?_⟩
  rw [SandboxOwner.Entry.settled, growth.phase done]
  exact done

/-- An attempt after which the loop goes on. -/
structure Retried (plan : Plan) (owner : SandboxOwner.State) (attempt : Attempt) (error : CreateError) :
    Prop where
  outcome : attempt.outcome = some (.failed error)
  retryable : plan.retryable error = true
  settled : Settled owner attempt

/-- A destroy of the late arrival was called. -/
def Destroyed (owner : SandboxOwner.State) (attempt : Attempt) : Prop :=
  ∃ i entry, attempt.entry = some i ∧ owner.entries[i]? = some entry ∧ entry.ops ≠ []

lemma Destroyed.grows {attempt : Attempt} (destroyed : Destroyed o attempt)
    (grows : AllGrow o.entries o'.entries) : Destroyed o' attempt := by
  obtain ⟨i, entry, owned, at_, filled⟩ := destroyed
  obtain ⟨entry', at_', growth⟩ := grows i entry at_
  exact ⟨i, entry', owned, at_', growth.ops filled⟩

/-- What the last attempt and the markers are at a stage of the loop. -/
def StageOk (plan : Plan) (ctx : Context) (s : State) (last : Attempt) : Prop :=
  match s.stage with
  | .idle => False
  | .awaiting => last.outcome = none ∧ s.markers = []
  | .sleeping error before => Retried plan s.owner last error ∧
      s.fitsInBudget ctx before ctx.delayMs ∧ s.markers = []
  | .returned i => last.outcome = some .session ∧ last.entry = some i ∧ s.markers = []
  | .thrown error => last.outcome = some (.failed error) ∧
      ∃ written, s.markers = [marker ctx error written]

/-- A later attempt was started within the budget, before its backoff and after it. -/
def Fits (ctx : Context) (s : State) (attempt : Attempt) : Prop :=
  ∃ before after, attempt.readings = some (before, after) ∧
    s.fitsInBudget ctx before ctx.delayMs ∧ s.fitsInBudget ctx after 0

structure Inv (plan : Plan) (ctx : Context) (s : State) : Prop where
  earlier : ∀ (k : ℕ) attempt, s.attempts[k]? = some attempt → k + 1 < s.attempts.length →
    ∃ error, Retried plan s.owner attempt error
  fits : ∀ (k : ℕ) attempt, s.attempts[k + 1]? = some attempt → Fits ctx s attempt
  started : s.attempts = [] → s.stage = .idle ∧ s.markers = []
  last : ∀ (k : ℕ) attempt, s.attempts[k]? = some attempt → k + 1 = s.attempts.length →
    StageOk plan ctx s attempt
  late : ∀ (k : ℕ) attempt, s.attempts[k]? = some attempt → attempt.late = true →
    Destroyed s.owner attempt

lemma Retried.grows {attempt : Attempt} {error : CreateError}
    (retried : Retried plan o attempt error) (grows : AllGrow o.entries o'.entries) :
    Retried plan o' attempt error :=
  ⟨retried.outcome, retried.retryable, retried.settled.grows grows⟩

lemma Inv.initial (owner : SandboxOwner.State) : Inv plan ctx (.initial owner) where
  earlier k attempt at_ := by cases at_
  fits k attempt at_ := by cases at_
  started _ := ⟨rfl, rfl⟩
  last k attempt at_ := by cases at_
  late k attempt at_ := by cases at_

/-- A further attempt, where every one so far was given up to be retried. -/
lemma inv_startAttempt {readings : Option (ℚ × ℚ)}
    (prior : ∀ (k : ℕ) attempt, s.attempts[k]? = some attempt →
      ∃ error, Retried plan s.owner attempt error)
    (fits : ∀ (k : ℕ) attempt, s.attempts[k + 1]? = some attempt → Fits ctx s attempt)
    (late : ∀ (k : ℕ) attempt, s.attempts[k]? = some attempt → attempt.late = true →
      Destroyed s.owner attempt)
    (within : s.attempts ≠ [] → ∃ before after, readings = some (before, after) ∧
      s.fitsInBudget ctx before ctx.delayMs ∧ s.fitsInBudget ctx after 0)
    (unmarked : s.markers = []) : Inv plan ctx (s.startAttempt plan readings) := by
  have grows : AllGrow s.owner.entries (s.owner.create plan.forwards).entries :=
    allGrow_create plan.forwards
  have cases_ : ∀ {k : ℕ} {attempt : Attempt}, (s.startAttempt plan readings).attempts[k]? =
      some attempt → s.attempts[k]? = some attempt ∨ (k = s.attempts.length ∧
        attempt.readings = readings ∧ attempt.outcome = none ∧ attempt.late = false) := by
    intro k attempt at_
    rw [State.startAttempt, List.getElem?_append] at at_
    split at at_
    · exact Or.inl at_
    · rename_i beyond
      obtain ⟨bound, same⟩ := List.getElem?_eq_some_iff.mp at_
      simp only [List.length_cons, List.length_nil] at bound
      have here : k = s.attempts.length := by omega
      subst here
      simp only [Nat.sub_self, List.getElem_cons_zero] at same
      subst same
      exact Or.inr ⟨rfl, rfl, rfl, rfl⟩
  have length : (s.startAttempt plan readings).attempts.length = s.attempts.length + 1 := by
    simp [State.startAttempt]
  constructor
  · intro k attempt at_ before
    rw [length] at before
    rcases cases_ at_ with old | ⟨here, _⟩
    · obtain ⟨error, retried⟩ := prior k attempt old
      exact ⟨error, retried.grows grows⟩
    · omega
  · intro k attempt at_
    rcases cases_ at_ with old | ⟨here, same, _⟩
    · exact fits k attempt old
    · have some_ : s.attempts ≠ [] := by
        rintro empty
        simp [empty] at here
      rw [Fits, same]
      exact within some_
  · intro empty
    simp [empty] at length
  · intro k attempt at_ last
    rw [length] at last
    rcases cases_ at_ with old | ⟨_, _, fresh, _⟩
    · have bound := (List.getElem?_eq_some_iff.mp old).1
      omega
    · exact ⟨fresh, unmarked⟩
  · intro k attempt at_ torn
    rcases cases_ at_ with old | ⟨_, _, _, untorn⟩
    · exact (late k attempt old torn).grows grows
    · rw [untorn] at torn
      cases torn

/-- A change of the last attempt and of the stage, while the owner goes on. -/
lemma Inv.update (h : Inv plan ctx s) {k : ℕ} {attempt attempt' : Attempt} {stage : Stage}
    {markers : List Marker} (at_ : s.attempts[k]? = some attempt)
    (last : k + 1 = s.attempts.length) (readings : attempt'.readings = attempt.readings)
    (grows : AllGrow s.owner.entries o.entries)
    (late : attempt'.late = true → Destroyed o attempt')
    (ok : StageOk plan ctx ⟨o, s.began, s.attempts.set k attempt', stage, markers⟩ attempt') :
    Inv plan ctx ⟨o, s.began, s.attempts.set k attempt', stage, markers⟩ := by
  have cases_ : ∀ {j : ℕ} {other : Attempt}, (s.attempts.set k attempt')[j]? = some other →
      (j = k ∧ other = attempt') ∨ s.attempts[j]? = some other := by
    intro j other other_at
    rw [List.getElem?_set] at other_at
    split at other_at
    · rename_i same
      split at other_at
      · exact Or.inl ⟨same.symm, (Option.some.inj other_at).symm⟩
      · cases other_at
    · exact Or.inr other_at
  constructor
  · intro j other other_at before
    simp only [List.length_set] at before
    rcases cases_ other_at with ⟨rfl, _⟩ | old
    · omega
    · obtain ⟨error, retried⟩ := h.earlier j other old before
      exact ⟨error, retried.grows grows⟩
  · intro j other other_at
    rcases cases_ other_at with ⟨rfl, rfl⟩ | old
    · rw [Fits, readings]
      exact h.fits j attempt at_
    · exact h.fits j other old
  · intro empty
    have none_ : s.attempts = [] := by simpa using empty
    simp [none_] at at_
  · intro j other other_at here
    simp only [List.length_set] at here
    have same : j = k := by omega
    subst same
    have bound : j < s.attempts.length := by omega
    rw [List.getElem?_set_self bound] at other_at
    cases other_at
    exact ok
  · intro j other other_at torn
    rcases cases_ other_at with ⟨rfl, rfl⟩ | old
    · exact late torn
    · exact (h.late j other old torn).grows grows

/-! ### Steps -/

lemma set_same {α : Type} {xs : List α} {k : ℕ} {x : α} (at_ : xs[k]? = some x) : xs.set k x = xs := by
  obtain ⟨bound, rfl⟩ := List.getElem?_eq_some_iff.mp at_
  exact List.set_getElem_self bound

lemma Inv.idle (h : Inv plan ctx s) (idle : s.stage = .idle) : s.attempts = [] := by
  by_contra some_
  have positive := List.length_pos_of_ne_nil some_
  have ok := h.last (s.attempts.length - 1) (s.attempts.getLast some_)
    (by rw [List.getElem?_eq_getElem (by omega), List.getLast_eq_getElem]) (by omega)
  rw [StageOk, idle] at ok
  exact ok

lemma Inv.awaiting (h : Inv plan ctx s) {k : ℕ} {attempt : Attempt} (awaiting : s.stage = .awaiting)
    (last : k + 1 = s.attempts.length) (at_ : s.attempts[k]? = some attempt) : s.markers = [] := by
  have ok := h.last k attempt at_ last
  rw [StageOk, awaiting] at ok
  exact ok.2

lemma Inv.owner (h : Inv plan ctx s) (grows : AllGrow s.owner.entries o.entries) :
    Inv plan ctx { s with owner := o } where
  earlier k attempt at_ before :=
    (h.earlier k attempt at_ before).imp fun _ retried => retried.grows grows
  fits := h.fits
  started := h.started
  last k attempt at_ here := by
    have ok := h.last k attempt at_ here
    rw [StageOk] at ok ⊢
    cases stage : s.stage with
    | idle => simp [stage] at ok
    | awaiting =>
      simp only [stage] at ok ⊢
      exact ok
    | sleeping error before =>
      simp only [stage] at ok ⊢
      exact ⟨ok.1.grows grows, ok.2⟩
    | returned i =>
      simp only [stage] at ok ⊢
      exact ok
    | thrown error =>
      simp only [stage] at ok ⊢
      exact ok
  late k attempt at_ torn := (h.late k attempt at_ torn).grows grows

/-- A failed attempt, which is to be retried only if it has settled. -/
lemma Inv.fails (h : Inv plan ctx s) {k : ℕ} {attempt : Attempt} {error : CreateError} {now : ℚ}
    {written : Bool} (awaiting : s.stage = .awaiting) (last : k + 1 = s.attempts.length)
    (at_ : s.attempts[k]? = some attempt)
    (settled : plan.retryable error = true → Settled s.owner attempt) :
    Inv plan ctx (s.fails plan ctx k attempt error now written) := by
  have unmarked := h.awaiting awaiting last at_
  have late : ({ attempt with outcome := some (.failed error) } : Attempt).late = true →
      Destroyed s.owner { attempt with outcome := some (.failed error) } := h.late k attempt at_
  rw [State.fails]
  split
  · rename_i going
    exact h.update at_ last rfl (.refl _) late
      ⟨⟨rfl, going.1, settled going.1⟩, going.2, unmarked⟩
  · refine h.update at_ last rfl (.refl _) late ⟨rfl, written, ?_⟩
    show s.markers ++ _ = _
    rw [unmarked]
    rfl

lemma settled_of_rejects {phase : SandboxOwner.Phase} {error : ProviderError}
    (rejected : RejectsWith phase error) (same : entry.phase = phase) : entry.settled = true := by
  rw [SandboxOwner.Entry.settled, same]
  cases phase with
  | registered => cases rejected
  | creating => cases rejected
  | live => rfl
  | unusable => rfl
  | recoverable cleanup => rfl
  | rejected => rfl

lemma Inv.wakes (h : Inv plan ctx s) {error : CreateError} {before now : ℚ} {written : Bool}
    (sleeping : s.stage = .sleeping error before) :
    Inv plan ctx (s.wakes plan ctx error before now written) := by
  have some_ : s.attempts ≠ [] := by
    intro empty
    rw [(h.started empty).1] at sleeping
    cases sleeping
  have positive := List.length_pos_of_ne_nil some_
  have last : s.attempts.length - 1 + 1 = s.attempts.length := by omega
  have at_ : s.attempts[s.attempts.length - 1]? = some (s.attempts.getLast some_) := by
    rw [List.getElem?_eq_getElem (by omega), List.getLast_eq_getElem]
  have ok := h.last _ _ at_ last
  rw [StageOk, sleeping] at ok
  obtain ⟨retried, reserved, unmarked⟩ := ok
  rw [State.wakes]
  split
  · rename_i fits
    refine inv_startAttempt ?_ h.fits h.late (fun _ => ⟨before, now, rfl, reserved, fits⟩) unmarked
    intro k attempt here
    have bound := (List.getElem?_eq_some_iff.mp here).1
    by_cases final : k + 1 = s.attempts.length
    · have same : k = s.attempts.length - 1 := by omega
      subst same
      cases at_.symm.trans here
      exact ⟨error, retried⟩
    · exact h.earlier k attempt here (by omega)
  · have kept : Inv plan ctx ⟨s.owner, s.began, s.attempts.set _ (s.attempts.getLast some_),
        .thrown error, s.markers ++ [marker ctx error written]⟩ :=
      h.update at_ last rfl (.refl _) (h.late _ _ at_)
        ⟨retried.outcome, written, by rw [unmarked]; rfl⟩
    rw [set_same at_] at kept
    exact kept

/-- Only the last attempt can have been given up while it went on. -/
lemma Inv.abandoned (h : Inv plan ctx s) {k : ℕ} {attempt : Attempt}
    (at_ : s.attempts[k]? = some attempt)
    (abandoned : attempt.outcome = some (.failed .allocationTimeout)) :
    k + 1 = s.attempts.length := by
  have bound := (List.getElem?_eq_some_iff.mp at_).1
  by_contra earlier
  obtain ⟨error, retried⟩ := h.earlier k attempt at_ (by omega)
  cases abandoned.symm.trans retried.outcome
  cases retried.retryable

lemma Inv.late_ (h : Inv plan ctx s) {k : ℕ} {attempt : Attempt}
    (at_ : s.attempts[k]? = some attempt)
    (abandoned : attempt.outcome = some (.failed .allocationTimeout))
    (owned : attempt.entry = some i) (entry_at : s.owner.entries[i]? = some entry) :
    Inv plan ctx { s.setAttempt k { attempt with late := true } with
      owner := s.owner.setEntry i entry.destroy } := by
  have last := h.abandoned at_ abandoned
  have grows : AllGrow s.owner.entries (s.owner.setEntry i entry.destroy).entries :=
    allGrow_set entry_at (grows_destroy entry)
  have ok := h.last k attempt at_ last
  have bound := (List.getElem?_eq_some_iff.mp entry_at).1
  refine h.update at_ last rfl grows ?_ ?_
  · exact fun _ => ⟨i, entry.destroy, owned, by simp [SandboxOwner.State.setEntry, bound],
      destroy_ops entry⟩
  · rw [StageOk] at ok ⊢
    cases stage : s.stage with
    | idle => simp [stage] at ok
    | awaiting =>
      simp only [stage] at ok
      cases abandoned.symm.trans ok.1
    | sleeping error before =>
      simp only [stage] at ok
      cases abandoned.symm.trans ok.1.outcome
      cases ok.1.retryable
    | returned j =>
      simp only [stage] at ok
      cases abandoned.symm.trans ok.1
    | thrown error =>
      simp only [State.setAttempt, stage] at ok ⊢
      exact ok

theorem Inv.step {action : Action} (h : Inv plan ctx s) (step : Step plan ctx s action t) :
    Inv plan ctx t := by
  cases step with
  | owner action owner step => exact h.owner (allGrow_step step)
  | begins now idle =>
    have empty := h.idle idle
    have unmarked := (h.started empty).2
    refine inv_startAttempt ?_ ?_ ?_ (fun some_ => absurd empty some_) unmarked
    · intro k attempt at_
      simp [empty] at at_
    · intro k attempt at_
      simp [empty] at at_
    · intro k attempt at_
      simp [empty] at at_
  | resolves k attempt i entry awaiting last at_ owned =>
    exact h.update at_ last rfl (.refl _) (h.late k attempt at_)
      ⟨rfl, owned, h.awaiting awaiting last at_⟩
  | rejects k attempt i entry error now written awaiting last at_ owned entry_at rejected =>
    refine h.fails awaiting last at_ (fun _ j owned' => ?_)
    cases owned.symm.trans owned'
    exact ⟨entry, entry_at, settled_of_rejects rejected rfl⟩
  | refused k attempt now written awaiting last at_ refused =>
    refine h.fails awaiting last at_ (fun _ j owned => ?_)
    cases refused.symm.trans owned
  | timesOut k attempt now written awaiting last at_ bounded =>
    exact h.fails awaiting last at_ nofun
  | wakes error before now written sleeping => exact h.wakes sleeping
  | late k attempt i entry at_ abandoned due owned entry_at live =>
    exact h.late_ at_ abandoned owned entry_at

theorem Runs.inv (runs : Runs plan ctx s) : Inv plan ctx s := by
  refine runs.invariant ?_ (fun s t h step => step.elim fun _ step => h.step step)
  rintro s ⟨owner, _, rfl⟩
  exact .initial owner

/-! ### One attempt, the budget, late arrivals and the exit -/

/-- The attempt's create may still be going on. -/
def outstanding (owner : SandboxOwner.State) (attempt : Attempt) : Bool :=
  match attempt.entry with
  | none => false
  | some i => (owner.entries[i]?).any fun entry => !entry.settled

lemma not_outstanding {attempt : Attempt} (settled : Settled o attempt) :
    outstanding o attempt = false := by
  rw [outstanding]
  cases owned : attempt.entry with
  | none => rfl
  | some i =>
    obtain ⟨entry, at_, done⟩ := settled i owned
    simp [at_, done]

/-- At most the last one has a property that no earlier one has. -/
lemma countP_le_one {α : Type} {p : α → Bool} {xs : List α}
    (earlier : ∀ (k : ℕ) x, xs[k]? = some x → k + 1 < xs.length → p x = false) :
    xs.countP p ≤ 1 := by
  induction xs using List.reverseRecOn with
  | nil => simp
  | append_singleton ys y _ =>
    have none_ : ys.countP p = 0 := by
      rw [List.countP_eq_zero]
      intro x hx
      obtain ⟨k, bound, rfl⟩ := List.getElem_of_mem hx
      rw [Bool.not_eq_true]
      refine earlier k _ ?_ (by simp [bound])
      rw [List.getElem?_append_left bound, List.getElem?_eq_getElem bound]
    rw [List.countP_append, none_, Nat.zero_add]
    exact List.countP_le_length

/-- The attempt failed in a way after which another is safe to start. -/
structure GivenUp (plan : Plan) (attempt : Attempt) (error : CreateError) : Prop where
  outcome : attempt.outcome = some (.failed error)
  timely : error ≠ .allocationTimeout
  resolved : ∀ described, error ≠ .provider (.failedCreateCleanup described)
  retryable : plan.isRetryable error = true

lemma Retried.givenUp {attempt : Attempt} {error : CreateError}
    (retried : Retried plan o attempt error) : GivenUp plan attempt error := by
  have retryable := retried.retryable
  refine ⟨retried.outcome, ?_, ?_, ?_⟩
  · rintro rfl
    cases retryable
  · rintro described rfl
    cases retryable
  · unfold Plan.retryable at retryable
    split at retryable
    · cases retryable
    · cases retryable
    · exact retryable

/-- Without an exit nothing is marked; the exit throws the last attempt's error, marked once. -/
def Exits (ctx : Context) (s : State) : Prop :=
  match s.stage with
  | .thrown error =>
    (∃ attempt, s.attempts.getLast? = some attempt ∧ attempt.outcome = some (.failed error)) ∧
      ∃ written, s.markers = [marker ctx error written]
  | _ => s.markers = []

lemma Inv.exits (h : Inv plan ctx s) : Exits ctx s := by
  by_cases empty : s.attempts = []
  · obtain ⟨idle, unmarked⟩ := h.started empty
    rw [Exits, idle]
    exact unmarked
  have positive := List.length_pos_of_ne_nil empty
  have ok := h.last (s.attempts.length - 1) (s.attempts.getLast empty)
    (by rw [List.getElem?_eq_getElem (by omega), List.getLast_eq_getElem]) (by omega)
  rw [StageOk] at ok
  rw [Exits]
  cases stage : s.stage with
  | idle => simp [stage] at ok
  | awaiting =>
    simp only [stage] at ok ⊢
    exact ok.2
  | sleeping error before =>
    simp only [stage] at ok ⊢
    exact ok.2.2
  | returned i =>
    simp only [stage] at ok ⊢
    exact ok.2.2
  | thrown error =>
    simp only [stage] at ok ⊢
    exact ⟨⟨_, List.getLast?_eq_getLast_of_ne_nil empty, ok.1⟩, ok.2⟩

/-- In every run, whatever the clock shows and the owner does: one attempt at a time, a further
one only after a settled failure that is to be retried and within the budget, a teardown of
every session that arrives after its attempt was given up, and one marker at every exit. -/
theorem createSuiteSandbox_safe (runs : Runs plan ctx s) :
    s.attempts.countP (outstanding s.owner) ≤ 1 ∧
      (∀ (k : ℕ) earlier attempt, s.attempts[k]? = some earlier →
        s.attempts[k + 1]? = some attempt →
        (∃ error, GivenUp plan earlier error) ∧
          ∃ before after, attempt.readings = some (before, after) ∧
            before + ctx.delayMs + ctx.attemptCeilingMs ≤ s.began + ctx.budgetMs ∧
            after + ctx.attemptCeilingMs ≤ s.began + ctx.budgetMs) ∧
      (∀ (k : ℕ) attempt (i : ℕ) entry, s.attempts[k]? = some attempt →
        attempt.outcome = some (.failed .allocationTimeout) → attempt.entry = some i →
        s.owner.entries[i]? = some entry → entry.phase = .live →
        (attempt.late = true ∧ entry.ops ≠ []) ∨ ∃ t, Step plan ctx s (.late k) t) ∧
      Exits ctx s := by
  have inv := runs.inv
  refine ⟨?_, ?_, ?_, inv.exits⟩
  · refine countP_le_one (fun k attempt at_ before => ?_)
    obtain ⟨error, retried⟩ := inv.earlier k attempt at_ before
    exact not_outstanding retried.settled
  · intro k earlier attempt at_ next
    have bound := (List.getElem?_eq_some_iff.mp next).1
    obtain ⟨error, retried⟩ := inv.earlier k earlier at_ bound
    obtain ⟨before, after, readings, reserved, fits⟩ := inv.fits k attempt next
    refine ⟨⟨error, retried.givenUp⟩, before, after, readings, reserved, ?_⟩
    rw [State.fitsInBudget, add_zero] at fits
    exact fits
  · intro k attempt i entry at_ abandoned owned entry_at live
    by_cases torn : attempt.late = true
    · obtain ⟨j, other, owned', other_at, filled⟩ := inv.late k attempt at_ torn
      cases owned.symm.trans owned'
      cases entry_at.symm.trans other_at
      exact Or.inl ⟨torn, filled⟩
    · exact Or.inr ⟨_, .late s k attempt i entry at_ abandoned (by simpa using torn) owned entry_at
        live⟩

/-! ### A run with a late arrival -/

def samplePlan : Plan := ⟨fun _ => true, true⟩

def sampleContext : Context where
  suiteName := "disk"
  providerName := "e2b"
  createTimeoutMs := some (some 10)
  createAttemptCeilingMs := none
  retryDelayMs := some 5
  retryBudgetMs := some 100

def sampleOwner (entries : List SandboxOwner.Entry) (owned : List ℕ)
    (handles : List (ℕ × ℕ)) : SandboxOwner.State where
  owned := owned
  entriesByHandle := handles
  entries := entries
  stopping := false
  calls := (List.range entries.length).map fun i => ⟨false, some i⟩
  cleanups := []
  shutdowns := []

def sampleEntry (phase : SandboxOwner.Phase) (ops : List SandboxOwner.Op) (handle : Option ℕ) :
    SandboxOwner.Entry :=
  ⟨true, phase, ops, 0, handle⟩

def sampleError : CreateError := .provider (.other "no capacity" none)

def firstAttempt (outcome : Option Outcome) : Attempt := ⟨some 0, none, outcome, false⟩

def retried : Attempt := firstAttempt (some (.failed sampleError))

def secondAttempt (outcome : Option Outcome) (late : Bool) : Attempt :=
  ⟨some 1, some (1, 6), outcome, late⟩

/-- The first attempt is under way, up to its rejection. -/
def sampleFirst (phase : SandboxOwner.Phase) (owned : List ℕ) : State where
  owner := sampleOwner [sampleEntry phase [] none] owned []
  began := 0
  attempts := [firstAttempt none]
  stage := .awaiting
  markers := []

def sampleSleeping : State :=
  { sampleFirst .rejected [] with attempts := [retried], stage := .sleeping sampleError 1 }

def sampleSecond : State where
  owner := sampleOwner [sampleEntry .rejected [] none, sampleEntry .registered [] none] [1] []
  began := 0
  attempts := [retried, secondAttempt none false]
  stage := .awaiting
  markers := []

/-- The second attempt was given up before its session arrived. -/
def sampleGivenUp (phase : SandboxOwner.Phase) (ops : List SandboxOwner.Op)
    (handle : Option ℕ) (late : Bool) : State where
  owner := sampleOwner [sampleEntry .rejected [] none, sampleEntry phase ops handle] [1]
    (handle.toList.map fun handle => (handle, 1))
  began := 0
  attempts := [retried, secondAttempt (some (.failed .allocationTimeout)) late]
  stage := .thrown .allocationTimeout
  markers := [marker sampleContext .allocationTimeout true]

lemma sample_reaches {u : State} {action : Action}
    (step : Step samplePlan sampleContext s action t) (same : t = u) :
    ∃ action, Step samplePlan sampleContext s action u :=
  ⟨action, same ▸ step⟩

lemma sample_owner {u : State} {action : SandboxOwner.Action}
    (step : SandboxOwner.Step s.owner action o) (same : { s with owner := o } = u) :
    ∃ action, Step samplePlan sampleContext s action u :=
  sample_reaches (.owner s action o step) same

lemma sample_runs :
    Runs samplePlan sampleContext (sampleGivenUp .live [.queued] (some 7) true) := by
  have begins := sample_reaches (.begins (State.initial .initial) 0 rfl)
    (u := sampleFirst .registered [0]) (by decide +kernel)
  have runs := sample_owner
    (SandboxOwner.Step.createRuns (sampleFirst .registered [0]).owner 0 _ rfl rfl)
    (u := sampleFirst .creating [0]) (by decide +kernel)
  have fails := sample_owner
    (SandboxOwner.Step.createRejects (sampleFirst .creating [0]).owner 0 _ none rfl rfl)
    (u := sampleFirst .rejected []) (by decide +kernel)
  have rejects := sample_reaches (.rejects (sampleFirst .rejected []) 0 (firstAttempt none) 0
    (sampleEntry .rejected [] none) (.other "no capacity" none) 1 true rfl rfl rfl rfl rfl rfl)
    (u := sampleSleeping) (by decide +kernel)
  have wakes := sample_reaches (.wakes sampleSleeping sampleError 1 6 true rfl)
    (u := sampleSecond) (by decide +kernel)
  have timesOut := sample_reaches (.timesOut sampleSecond 1 (secondAttempt none false) 20 true rfl
    rfl rfl (by decide +kernel)) (u := sampleGivenUp .registered [] none false) (by decide +kernel)
  have runs' := sample_owner
    (SandboxOwner.Step.createRuns (sampleGivenUp .registered [] none false).owner 1 _ rfl rfl)
    (u := sampleGivenUp .creating [] none false) (by decide +kernel)
  have resolves := sample_owner
    (SandboxOwner.Step.createResolves (sampleGivenUp .creating [] none false).owner 1 _ 7 rfl rfl)
    (u := sampleGivenUp .live [] (some 7) false) (by decide +kernel)
  have late := sample_reaches (.late (sampleGivenUp .live [] (some 7) false) 1 _ 1 _ rfl rfl rfl
    rfl rfl rfl) (u := sampleGivenUp .live [.queued] (some 7) true) (by decide +kernel)
  have start : Runs samplePlan sampleContext (State.initial .initial) :=
    .start ⟨_, .start rfl, rfl⟩
  exact start.later (.head begins (.head runs (.head fails (.head rejects (.head wakes
    (.head timesOut (.head runs' (.head resolves (.single late)))))))))

theorem createSuiteSandbox_safe_sample :
    (sampleGivenUp .live [.queued] (some 7) true).attempts.countP
        (outstanding (sampleGivenUp .live [.queued] (some 7) true).owner) ≤ 1 ∧
      Exits sampleContext (sampleGivenUp .live [.queued] (some 7) true) :=
  ⟨(createSuiteSandbox_safe sample_runs).1, (createSuiteSandbox_safe sample_runs).2.2.2⟩

end CreateSuiteSandbox
