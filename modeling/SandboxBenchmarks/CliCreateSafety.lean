import SandboxBenchmarks.CliCreate

/-!
# A create is plainly rejected only once its name is gone

Every run of a create and its later retries starts a subprocess only when none runs,
and gives the name up only after an acknowledged destroy or two absences that are far
enough apart.
-/

namespace CliCreate

open Interaction DriverPort

variable {Row : Type} {table : CliTable} {h later : Events Row} {e : Sigma (@Answer Row)}

/-! ### What a history says -/

def Starts : Sigma (@Answer Row) → Prop
  | ⟨.start _ _ _, _⟩ => True
  | _ => False

def flight (running : Bool) : Sigma (@Answer Row) → Bool
  | ⟨.start _ _ _, _⟩ => true
  | ⟨.settle _, _⟩ => false
  | _ => running

/-- A subprocess has been started and has not settled. -/
def running (h : Events Row) : Bool :=
  h.foldl flight false

/-- A lookup of a cleanup found the sandbox. -/
def Located : Sigma (@Answer Row) → Prop
  | ⟨.locate _, .ok (some _)⟩ => True
  | _ => False

def NotFound (table : CliTable) (result : CliRunResult) : Prop :=
  table.matchesNotFound result.stderr = true ∨ table.matchesNotFound result.stdout = true

/-- A destroy answered that there is no such sandbox, or a lookup found none. -/
def Absence (table : CliTable) : Sigma (@Answer Row) → Prop
  | ⟨.settle .destroy, .ok result⟩ => NotFound table result
  | ⟨.locate _, .ok none⟩ => True
  | _ => False

/-- A destroy that the vendor acknowledged. -/
def Acknowledged (table : CliTable) : Sigma (@Answer Row) → Prop
  | ⟨.settle .destroy, .ok result⟩ => result.code = 0 ∧ ¬ NotFound table result
  | _ => False

def nowAt (t : ℚ) : Sigma (@Answer Row) := ⟨.now, t⟩

/-- An absence completed at `t`, and no lookup has found the sandbox since. -/
def Missing (table : CliTable) (h : Events Row) (t : ℚ) : Prop :=
  ∃ before absence since, h = before ++ absence :: nowAt t :: since ∧ Absence table absence ∧
    ∀ e ∈ since, ¬ Located e

/-- The last subprocess was an acknowledged destroy, or completed the second of two absences that
are far enough apart, with no lookup between them that found the sandbox. -/
def Cleaned (table : CliTable) (h : Events Row) : Prop :=
  (∃ before destroy after, h = before ++ destroy :: after ∧ Acknowledged table destroy ∧
    ∀ e ∈ after, ¬ Starts e) ∨
  ∃ t₁ t₂ before first between second after,
    h = before ++ first :: nowAt t₁ :: between ++ second :: nowAt t₂ :: after ∧
      Absence table first ∧ Absence table second ∧ (∀ e ∈ between, ¬ Located e) ∧
      (table.absenceConfirmationMs : ℚ) ≤ t₂ - t₁ ∧ ∀ e ∈ after, ¬ Starts e

/-- No subprocess starts while another one runs, and no error is marked before the name is gone. -/
def Guard (table : CliTable) (h : Events Row) : Query Row → Prop
  | .start _ _ _ => running h = false
  | .mark _ => Cleaned table h
  | _ => True

/-- An event that neither starts a subprocess nor finds the sandbox. -/
def Plain (e : Sigma (@Answer Row)) : Prop := ¬ Starts e ∧ ¬ Located e

lemma running_ask : running (h ++ [e]) = flight (running h) e := by
  rw [running, List.foldl_append]
  rfl

lemma Plain.idle (plain : Plain e) (idle : running h = false) : running (h ++ [e]) = false := by
  obtain ⟨q, answer⟩ := e
  rw [running_ask, idle]
  cases q <;> first | rfl | exact absurd trivial plain.1

lemma forall_mem_ask {P : Sigma (@Answer Row) → Prop} {since : Events Row}
    (all : ∀ e ∈ since, P e) (last : P e) : ∀ e' ∈ since ++ [e], P e' := by
  intro e' mem
  rcases List.mem_append.mp mem with old | new
  · exact all e' old
  · rwa [List.mem_singleton.mp new]

lemma Missing.ask {t : ℚ} (missing : Missing table h t) (unseen : ¬ Located e) :
    Missing table (h ++ [e]) t := by
  obtain ⟨before, absence, since, rfl, absent, none_seen⟩ := missing
  refine ⟨before, absence, since ++ [e], ?_, absent, forall_mem_ask none_seen unseen⟩
  rw [List.append_assoc, List.cons_append, List.cons_append]

lemma Cleaned.ask (cleaned : Cleaned table h) (none_started : ¬ Starts e) :
    Cleaned table (h ++ [e]) := by
  rcases cleaned with ⟨before, destroy, after, rfl, acknowledged, quiet⟩ |
      ⟨t₁, t₂, before, first, between, second, after, rfl, facts⟩
  · left
    refine ⟨before, destroy, after ++ [e], ?_, acknowledged, forall_mem_ask quiet none_started⟩
    rw [List.append_assoc, List.cons_append]
  · right
    obtain ⟨absent₁, absent₂, unseen, far, quiet⟩ := facts
    refine ⟨t₁, t₂, before, first, between, second, after ++ [e], ?_, absent₁, absent₂, unseen, far,
      forall_mem_ask quiet none_started⟩
    simp only [List.append_assoc, List.cons_append]

def EndsWith (P : Sigma (@Answer Row) → Prop) (h : Events Row) : Prop :=
  ∃ before e, h = before ++ [e] ∧ P e

lemma Cleaned.of_acknowledged (ends : EndsWith (Acknowledged table) h) : Cleaned table h := by
  obtain ⟨before, destroy, rfl, acknowledged⟩ := ends
  left
  exact ⟨before, destroy, [], rfl, acknowledged, fun _ => nofun⟩

lemma Missing.of_absence {t : ℚ} (ends : EndsWith (Absence table) h) :
    Missing table (h ++ [nowAt t]) t := by
  obtain ⟨before, absence, rfl, absent⟩ := ends
  refine ⟨before, absence, [], ?_, absent, fun _ => nofun⟩
  rw [List.append_assoc]
  rfl

/-- A further absence confirms one that is old enough. -/
lemma Cleaned.of_missing {t₁ t₂ : ℚ} (missing : Missing table h t₁)
    (ends : EndsWith (Absence table) h) (far : (table.absenceConfirmationMs : ℚ) ≤ t₂ - t₁) :
    Cleaned table (h ++ [nowAt t₂]) := by
  obtain ⟨before, first, since, rfl, absent, unseen⟩ := missing
  obtain ⟨front, second, split, absent'⟩ := ends
  rcases List.eq_nil_or_concat since with rfl | ⟨between, last, rfl⟩
  · have same : nowAt t₁ = second := by
      have := congrArg List.getLast? split
      simpa using this
    rw [← same] at absent'
    exact absurd absent' not_false
  · have whole : (before ++ first :: nowAt t₁ :: between) ++ [last] = front ++ [second] := by
      simpa using split
    obtain rfl := List.singleton_inj.mp (List.append_inj' whole rfl).2
    right
    refine ⟨t₁, t₂, before, first, between, last, [], ?_, absent, absent', ?_, far, fun _ => nofun⟩
    · simp only [List.concat_eq_append, List.append_assoc, List.cons_append, List.nil_append]
    · intro e mem
      exact unseen e (by simp [mem])

/-! ### Subprocesses and clocks -/

/-- What a cleanup may rely on: nothing runs, and the remembered absence still stands. -/
structure Knows (table : CliTable) (h : Events Row) (state : Cleanup) : Prop where
  idle : running h = false
  missing : ∀ t, state.firstMissingAt = some t → Missing table h t

lemma Knows.ask {state : Cleanup} (knows : Knows table h state) (plain : Plain e) :
    Knows table (h ++ [e]) state where
  idle := plain.idle knows.idle
  missing := fun t is => (knows.missing t is).ask plain.2

/-- The queries that neither start a subprocess nor look the sandbox up. -/
def Query.plain : Query Row → Bool
  | .start _ _ _ => false
  | .locate _ => false
  | _ => true

lemma plain_of {q : Query Row} (answer : Answer q) (plain : q.plain = true) :
    Plain (⟨q, answer⟩ : Sigma (@Answer Row)) := by
  constructor <;> cases q <;> first | exact not_false | cases plain

lemma Knows.answered {state : Cleanup} (knows : Knows table h state) (q : Query Row)
    (answer : Answer q) (plain : q.plain = true) : Knows table (h ++ [⟨q, answer⟩]) state :=
  knows.ask (plain_of answer plain)

theorem holds_remaining {ε : Type} {post : Events Row → Except ε ℚ → Prop} {deadline : ℚ}
    (next : ∀ t : ℚ, post (h ++ [nowAt t]) (.ok (max 0 (deadline - t)))) :
    Holds (Guard table) post (remaining deadline) h :=
  ⟨trivial, next⟩

theorem holds_settled {post : Events Row → Except RunFault CliRunResult → Prop} {purpose : Purpose}
    (next : ∀ r, post (h ++ [⟨.settle purpose, r⟩]) r) :
    Holds (Guard table) post (settled purpose) h :=
  ⟨trivial, next⟩

/-- How a subprocess ended, if it was started at all. -/
def Settled (table : CliTable) (state : Cleanup) (purpose : Purpose) (later : Events Row)
    (r : Except RunFault CliRunResult) : Prop :=
  Knows table later state ∧
    ∀ result, r = .ok result → EndsWith (· = ⟨.settle purpose, .ok result⟩) later

theorem holds_call {state : Cleanup} (knows : Knows table h state) (purpose : Purpose)
    (args : CliArgv) (timeoutMs : ℚ) :
    Holds (Guard table) (Settled table state purpose) (call purpose args timeoutMs) h := by
  rw [call, launch]
  split
  · exact ⟨knows, fun _ => nofun⟩
  · refine ⟨knows.idle, fun _ => ⟨trivial, fun result => ⟨⟨?_, ?_⟩, ?_⟩⟩⟩
    · rw [running_ask]
      rfl
    · intro t is
      refine ((knows.missing t is).ask ?_).ask ?_ <;> exact not_false
    · rintro _ rfl
      exact ⟨_, _, rfl, rfl⟩

/-! ### One observation -/

/-- What an observation leaves behind. -/
def Observed (table : CliTable) (later : Events Row) :
    Except (Cleanup × Thrown) (Cleanup × Observation) → Prop
  | .ok (_, .destroyed) => EndsWith (Acknowledged table) later
  | .ok (state, .absent _ _ _) => Knows table later state ∧ EndsWith (Absence table) later
  | .error (state, _) => Knows table later state

/-- An answer that is thrown on, or used. -/
theorem holds_orThrow {σ α β : Type} {state : σ} {answer : Except Thrown α}
    {f : α → Cli Row (σ × Thrown) β} {post : Events Row → Except (σ × Thrown) β → Prop}
    (error : ∀ e, post h (.error (state, e))) (ok : ∀ a, Holds (Guard table) post (f a) h) :
    Holds (Guard table) post (orThrow state answer >>= f) h := by
  rw [holds_bind, orThrow, holds_computed]
  cases answer with
  | ok a => exact ok a
  | error e => exact error e

theorem holds_destroyByArgs {state : Cleanup} (knows : Knows table h state) (args : CliArgv)
    (timeoutMs : ℚ) (diagnosticArgs : List CliArgv) :
    Holds (Guard table) (fun later r => Observed table later (r.map fun outcome => (state, outcome)))
      (destroyByArgs table state args timeoutMs diagnosticArgs) h := by
  rw [destroyByArgs]
  refine holds_bind.mpr (holds_captured.mpr ((holds_call knows .destroy args timeoutMs).mono ?_))
  rintro later (fault | result) _ ⟨knows, settled⟩
  · exact knows
  · obtain ⟨before, e, rfl, rfl⟩ := settled result rfl
    dsimp only [afterOk]
    split
    · rename_i not_found
      exact ⟨knows, _, _, rfl, not_found⟩
    · rename_i found
      split
      · exact knows
      · rename_i zero
        exact ⟨_, _, rfl, not_not.mp zero, found⟩

lemma Knows.fresh {state : Cleanup} (idle : running h = false) :
    Knows table h { state with firstMissingAt := none } :=
  ⟨idle, fun _ => nofun⟩

theorem holds_diagnose {state : Cleanup} (idle : running h = false) (row : Row) :
    Holds (Guard table) (fun later r => running later = false ∧ ∃ state', r = .ok state')
      (diagnose table state row) h := by
  rw [diagnose]
  split
  · split
    · refine ⟨trivial, fun answer => ?_⟩
      have asked : running (h ++ [⟨.diagnose row, answer⟩]) = false :=
        (plain_of answer rfl).idle idle
      rcases answer with error | _ | _ | _ <;> exact ⟨asked, _, rfl⟩
    · exact ⟨idle, _, rfl⟩
  · exact ⟨idle, _, rfl⟩

theorem holds_destroyRow (argvs : Argvs) (deadline : ℚ) {state : Cleanup}
    (idle : running h = false) (row : Row) :
    Holds (Guard table) (Observed table) (destroyRow table argvs deadline state row) h := by
  rw [destroyRow]
  refine holds_bind.mpr ((holds_diagnose idle row).mono ?_)
  rintro h r _ ⟨idle, diagnosed, rfl⟩
  refine ⟨trivial, fun parsed => ?_⟩
  have knows : Knows table (h ++ [⟨.sandboxId row, parsed⟩])
      { diagnosed with firstMissingAt := none } :=
    (Knows.fresh idle).answered _ parsed rfl
  refine holds_orThrow (fun _ => knows) fun id => ⟨trivial, fun built => ?_⟩
  have knows := knows.answered (.destroyArgv id) built rfl
  refine holds_orThrow (fun _ => knows) fun args => holds_bind.mpr (holds_remaining fun t => ?_)
  have knows := knows.answered .now t rfl
  dsimp only [afterOk]
  split
  · exact knows
  · refine holds_bind.mpr ((holds_destroyByArgs knows args _ _).mono ?_)
    rintro later (error | outcome) _ observed
    · exact observed
    · exact observed

theorem holds_lookUp (argvs : Argvs) (deadline : ℚ) {state : Cleanup}
    (knows : Knows table h state) :
    Holds (Guard table) (Observed table) (@lookUp Row table argvs deadline state) h := by
  rw [lookUp]
  refine holds_bind.mpr (holds_remaining fun t => ?_)
  have knows := knows.answered .now t rfl
  refine holds_bind.mpr (holds_captured.mpr ((holds_call knows .lookup _ _).mono ?_))
  rintro h (fault | listed) _ ⟨knows, -⟩
  · exact knows
  dsimp only [afterOk]
  split
  · exact knows
  refine ⟨trivial, fun parsed => ?_⟩
  have knows := knows.answered (.parse listed.stdout) parsed rfl
  refine holds_orThrow (fun _ => knows) fun rows => ⟨trivial, fun located => ?_⟩
  rcases located with error | _ | row
  · exact knows.ask ⟨not_false, not_false⟩
  · exact ⟨knows.ask ⟨not_false, not_false⟩, _, _, rfl, trivial⟩
  · refine holds_destroyRow argvs deadline ?_ row
    rw [running_ask]
    exact knows.idle

theorem holds_observeCleanup (argvs : Argvs) (timeoutMs : ℚ) {state : Cleanup}
    (knows : Knows table h state) :
    Holds (Guard table) (Observed table)
      (@observeCleanup Row table argvs timeoutMs state) h := by
  rw [observeCleanup]
  refine ⟨trivial, fun at_ => ?_⟩
  have knows := knows.answered .now at_ rfl
  dsimp only
  split
  · exact knows
  · refine holds_bind.mpr (holds_remaining fun t => ?_)
    have knows := knows.answered .now t rfl
    refine holds_bind.mpr ((holds_destroyByArgs knows _ _ _).mono ?_)
    rintro later (error | outcome) _ observed
    · exact observed
    · exact observed
  · exact holds_lookUp argvs _ knows

/-! ### One cleanup -/

/-- What a cleanup leaves behind. -/
def Retried (table : CliTable) (later : Events Row) : Except (Cleanup × Thrown) Cleanup → Prop
  | .ok _ => running later = false ∧ Cleaned table later
  | .error (state, _) => Knows table later state

lemma Cleanup.confirms_iff {state : Cleanup} {t : ℚ} : state.confirms table t = true ↔
    ∃ missing, state.firstMissingAt = some missing ∧
      (table.absenceConfirmationMs : ℚ) ≤ t - missing := by
  simp [Cleanup.confirms, Option.any_eq_true]

lemma cleaned_of_acknowledged (ends : EndsWith (Acknowledged table) h) :
    running h = false ∧ Cleaned table h := by
  refine ⟨?_, Cleaned.of_acknowledged ends⟩
  obtain ⟨before, ⟨q, answer⟩, rfl, acknowledged⟩ := ends
  rw [running_ask]
  cases q <;> first | rfl | exact absurd acknowledged not_false

/-- A second absence confirms the one that is remembered. -/
lemma Knows.confirms {state : Cleanup} {t : ℚ} (knows : Knows table h state)
    (ends : EndsWith (Absence table) h) (confirms : state.confirms table t = true) :
    running (h ++ [nowAt t]) = false ∧ Cleaned table (h ++ [nowAt t]) := by
  obtain ⟨missing, remembered, far⟩ := Cleanup.confirms_iff.mp confirms
  refine ⟨(knows.answered .now t rfl).idle, ?_⟩
  exact Cleaned.of_missing (knows.missing missing remembered) ends far

theorem holds_confirmAbsence (argvs : Argvs) (deadline : ℚ) {state : Cleanup}
    (knows : Knows table h state) (args : CliArgv) (result : CliRunResult)
    (diagnosticArgs : List CliArgv) :
    Holds (Guard table) (Retried table)
      (@confirmAbsence Row table argvs deadline state args result diagnosticArgs) h := by
  rw [confirmAbsence]
  refine holds_bind.mpr (holds_remaining fun t => ?_)
  have knows := knows.answered .now t rfl
  dsimp only [afterOk]
  split
  · exact knows
  refine holds_bind.mpr ((holds_observeCleanup argvs _ knows).mono ?_)
  rintro h (⟨state, error⟩ | ⟨state, _ | ⟨args, result, diagnosticArgs⟩⟩) _ observed
  · exact observed
  · exact cleaned_of_acknowledged observed
  · obtain ⟨knows, ends⟩ := observed
    refine ⟨trivial, fun at_ => ?_⟩
    dsimp only
    split
    · rename_i confirms
      exact knows.confirms ends confirms
    · exact knows.answered .now at_ rfl

theorem holds_awaitAbsence (argvs : Argvs) (deadline : ℚ) {state : Cleanup}
    (knows : Knows table h state) (ends : EndsWith (Absence table) h) (args : CliArgv)
    (result : CliRunResult) (diagnosticArgs : List CliArgv) :
    Holds (Guard table) (Retried table)
      (@awaitAbsence Row table argvs deadline state args result diagnosticArgs) h := by
  rw [awaitAbsence]
  refine ⟨trivial, fun observedAt => ?_⟩
  dsimp only
  split
  · rename_i confirms
    exact knows.confirms ends confirms
  have remembers : Knows table (h ++ [nowAt observedAt])
      { state with firstMissingAt := some (state.firstMissingAt.getD observedAt) } := by
    refine ⟨(knows.answered .now observedAt rfl).idle, ?_⟩
    rintro t ⟨⟩
    cases first : state.firstMissingAt with
    | none => exact Missing.of_absence ends
    | some missing => exact (knows.missing missing first).ask not_false
  refine holds_bind.mpr (holds_remaining fun t => ?_)
  have knows := remembers.answered .now t rfl
  refine holds_bind.mpr (holds_remaining fun t' => ?_)
  have knows := knows.answered .now t' rfl
  dsimp only [afterOk]
  split
  · exact knows
  split
  · refine ⟨trivial, fun aborted => ?_⟩
    cases aborted with
    | some reason => exact knows.answered (.delay _) _ rfl
    | none => exact holds_confirmAbsence argvs deadline (knows.answered (.delay _) _ rfl) _ _ _
  · exact holds_confirmAbsence argvs deadline knows _ _ _

theorem holds_retryCleanup (argvs : Argvs) (timeoutMs : ℚ) {state : Cleanup}
    (knows : Knows table h state) :
    Holds (Guard table) (Retried table) (@retryCleanup Row table argvs timeoutMs state)
      h := by
  rw [retryCleanup]
  refine ⟨trivial, fun aborted => ?_⟩
  have knows := knows.answered .aborted aborted rfl
  cases aborted with
  | some reason => exact knows
  | none =>
    refine ⟨trivial, fun at_ => ?_⟩
    have knows := knows.answered .now at_ rfl
    refine holds_bind.mpr (holds_remaining fun t => ?_)
    have knows := knows.answered .now t rfl
    dsimp only [afterOk]
    split
    · exact knows
    refine holds_bind.mpr ((holds_observeCleanup argvs _ knows).mono ?_)
    rintro h (⟨state, error⟩ | ⟨state, _ | ⟨args, result, diagnosticArgs⟩⟩) _ observed
    · exact observed
    · exact cleaned_of_acknowledged observed
    · exact holds_awaitAbsence argvs _ observed.1 observed.2 _ _ _

/-! ### Readiness -/

/-- The row was classified as ready. -/
def Ready (h : Events Row) (row : Row) : Prop :=
  (⟨.classify row, .ok .ready⟩ : Sigma (@Answer Row)) ∈ h

/-- After a probe that ran to its end. -/
def Probed (later : Events Row) (r : Except (Bool × Thrown) (Bool × Option Row)) : Prop :=
  running later = false ∧ ∀ retryable row, r = .ok (retryable, some row) → Ready later row

theorem holds_probeStart (deadlineMs readinessDeadline : ℚ) (retryable : Bool)
    (idle : running h = false) :
    Holds (Guard table) (fun later r => running later = match r with
        | .ok _ => true
        | .error _ => false)
      (@probeStart Row table deadlineMs readinessDeadline retryable) h := by
  rw [probeStart]
  refine holds_bind.mpr (holds_remaining fun t => ?_)
  have idle : running (h ++ [nowAt t]) = false := (plain_of (q := .now) t rfl).idle idle
  dsimp only [afterOk]
  split
  · exact idle
  refine holds_bind.mpr (holds_captured.mpr ?_)
  rw [launch]
  split
  · exact idle
  · refine ⟨idle, fun _ => ?_⟩
    exact running_ask

theorem holds_probeFinish (argvs : Argvs) (deadlineMs : ℚ) (probe : Probe) :
    Holds (Guard table) Probed (@probeFinish Row table argvs deadlineMs probe) h := by
  rw [probeFinish]
  refine holds_bind.mpr (holds_captured.mpr (holds_settled fun settled => ?_))
  have idle : running (h ++ [⟨.settle .readiness, settled⟩]) = false := running_ask
  rcases settled with fault | polled
  · exact ⟨idle, fun _ _ => nofun⟩
  dsimp only [afterOk]
  split
  · exact ⟨idle, fun _ _ => nofun⟩
  refine ⟨trivial, fun parsed => ?_⟩
  have idle := (plain_of (q := .parse polled.stdout) parsed rfl).idle idle
  refine holds_orThrow (fun _ => ⟨idle, fun _ _ => nofun⟩) fun rows => ⟨trivial, fun selected => ?_⟩
  have idle := (plain_of (q := .select rows) selected rfl).idle idle
  refine holds_orThrow (fun _ => ⟨idle, fun _ _ => nofun⟩) fun picked => ?_
  cases picked with
  | none => exact ⟨idle, fun _ _ => nofun⟩
  | some row =>
    refine ⟨trivial, fun classified => ?_⟩
    have idle := (plain_of (q := .classify row) classified rfl).idle idle
    rcases classified with error | _ | _ | _
    · exact ⟨idle, fun _ _ => nofun⟩
    · refine ⟨idle, ?_⟩
      rintro _ _ ⟨⟩
      exact List.mem_append_right _ (List.mem_singleton_self _)
    · exact ⟨idle, fun _ _ => nofun⟩
    · exact ⟨idle, fun _ _ => nofun⟩

lemma Ready.ask {row : Row} (ready : Ready h row) : Ready (h ++ [e]) row :=
  List.mem_append_left _ ready

/-- Clocks, signals and timers change nothing about the subprocess that runs. -/
lemma readiness_stable {P : Events Row → Prop} {argvs : Argvs}
    {deadlineMs budget readinessDeadline : ℚ}
    (keeps : ∀ h e, (∀ b, flight b e = b) → P h → P (h ++ [e])) :
    (@readiness Row table argvs deadlineMs budget readinessDeadline).Stable (Guard table)
      P where
  now := fun _ holds => ⟨trivial, fun _ => keeps _ _ (fun _ => rfl) holds⟩
  aborted := fun _ holds => ⟨trivial, fun _ => keeps _ _ (fun _ => rfl) holds⟩
  race := fun _ holds => ⟨trivial, fun _ => keeps _ _ (fun _ => rfl) holds⟩
  delay := fun _ _ holds => ⟨trivial, fun _ => keeps _ _ (fun _ => rfl) holds⟩

/-- A probe runs from its start to its finish, and polling fails with one or none running. -/
theorem readiness_rule (argvs : Argvs) (deadlineMs budget readinessDeadline : ℚ) :
    (@readiness Row table argvs deadlineMs budget readinessDeadline).Rule (Guard table)
      (fun h _ => running h = false) (fun h _ _ => running h = true)
      (fun h _ row => running h = false ∧ Ready h row)
      (fun h fault => running h = fault.inFlight.isSome) where
  stable_between := fun _ => readiness_stable fun _ _ same idle =>
    running_ask.trans ((same _).trans idle)
  stable_during := fun _ _ => readiness_stable fun _ _ same runs =>
    running_ask.trans ((same _).trans runs)
  stable_ready := fun _ _ => readiness_stable fun _ _ same finished =>
    ⟨running_ask.trans ((same _).trans finished.1), finished.2.ask⟩
  start := fun h state idle => by
    refine (holds_probeStart deadlineMs readinessDeadline state idle).mono ?_
    rintro later (error | probe) _ started
    · exact started
    · exact started
  finish := fun h state probe _ => by
    refine (holds_probeFinish argvs deadlineMs probe).mono ?_
    rintro later (error | ⟨state, _ | row⟩) _ ⟨idle, ready⟩
    · exact idle
    · exact idle
    · exact ⟨idle, ready state row rfl⟩
  failed_between := fun _ _ _ idle => idle
  failed_during := fun _ _ _ _ runs => runs
  failed_late := fun _ _ _ finished => finished.1

theorem holds_drain {ε : Type} (argvs : Argvs) (deadlineMs : ℚ)
    (fault : Polling.Fault Bool Probe Thrown) (fails : running h = fault.inFlight.isSome) :
    Holds (Guard table) (fun later (r : Except ε Bool) => running later = false ∧ ∃ b, r = .ok b)
      (@drain Row table _ argvs deadlineMs fault) h := by
  rw [drain]
  split
  · rename_i none_left
    rw [none_left] at fails
    exact ⟨fails, _, rfl⟩
  · refine holds_bind.mpr (holds_captured.mpr ((holds_probeFinish argvs deadlineMs _).mono ?_))
    rintro later (⟨retryable, error⟩ | ⟨retryable, row⟩) _ ⟨idle, -⟩
    · exact ⟨idle, _, rfl⟩
    · exact ⟨idle, _, rfl⟩

/-! ### The attempt -/

/-- What the body of the outer `try` leaves behind. -/
def Attempted (table : CliTable) (later : Events Row) :
    Except (Bool × Thrown) (Row × SandboxRef) → Prop
  | .ok (row, ref) => Ready later row ∧
    ∃ id, (⟨.sandboxId row, .ok id⟩ : Sigma (@Answer Row)) ∈ later ∧ ref = ⟨table.provider, id⟩
  | .error _ => running later = false

theorem holds_awaitReady (argvs : Argvs) (deadlineMs pollBudget : ℚ) (rounds : ℕ)
    (idle : running h = false) :
    Holds (Guard table) (Attempted table)
      (@awaitReady Row table argvs deadlineMs pollBudget rounds) h := by
  rw [awaitReady]
  refine ⟨trivial, fun at_ => ?_⟩
  have idle := (plain_of (q := .now) at_ rfl).idle idle
  refine holds_bind.mpr (holds_captured.mpr
    (((readiness_rule argvs deadlineMs _ _).pollUntilReady rounds false idle).mono ?_))
  rintro h (fault | ⟨retryable, row⟩) _ ended
  · refine holds_bind.mpr ((holds_drain argvs deadlineMs fault ended).mono ?_)
    rintro later r _ ⟨idle, b, rfl⟩
    dsimp only [afterOk]
    split
    · exact idle
    · exact idle
  · refine ⟨trivial, fun answer => ?_⟩
    have idle := (plain_of (q := .sandboxId row) answer rfl).idle ended.1
    cases answer with
    | error error => exact idle
    | ok id =>
      exact ⟨ended.2.ask, id, List.mem_append_right _ (List.mem_singleton_self _), rfl⟩

theorem holds_attempt (argvs : Argvs) (deadlineMs deadline : ℚ) (rounds : ℕ)
    (idle : running h = false) :
    Holds (Guard table) (Attempted table)
      (@attempt Row table argvs deadlineMs deadline rounds) h := by
  rw [attempt]
  refine holds_bind.mpr (holds_remaining fun t => ?_)
  have knows : Knows table (h ++ [nowAt t]) ⟨none, false, .runAborted⟩ :=
    ⟨(plain_of (q := .now) t rfl).idle idle, fun _ => nofun⟩
  dsimp only [afterOk]
  split
  · exact knows.idle
  refine holds_bind.mpr (holds_captured.mpr ((holds_call knows .create _ _).mono ?_))
  rintro h (fault | created) _ ⟨knows, -⟩
  · exact knows.idle
  dsimp only [afterOk]
  split
  · exact knows.idle
  refine holds_bind.mpr (holds_remaining fun t => ?_)
  have knows := knows.answered .now t rfl
  dsimp only [afterOk]
  split
  · exact knows.idle
  · exact holds_awaitReady argvs deadlineMs _ rounds knows.idle

/-! ### How a create ends -/

/-- What a create leaves behind. -/
def Created (table : CliTable) (later : Events Row) : Except Rejection (Row × SandboxRef) → Prop
  | .ok (row, ref) => Ready later row ∧
    ∃ id, (⟨.sandboxId row, .ok id⟩ : Sigma (@Answer Row)) ∈ later ∧ ref = ⟨table.provider, id⟩
  | .error (.plain _) => (∀ e ∈ later, ¬ Starts e) ∨ Cleaned table later
  | .error (.cleanupFailed _ _ state) => Knows table later state

/-- The classifier of the table, asked about an error that may be marked already. -/
lemma holds_mark {error : DriverError} (cleaned : Cleaned table h) :
    Holds (Guard table) (fun later r => Cleaned table later ∧ ∃ error, r = .ok error)
      (question (.isRetryableCreate error) fun (answer : Except Thrown Bool) => match answer with
        | .ok true => question (.mark error) fun _ => pure (.driver (markRetryableDriverCreate error))
        | _ => pure (.driver error) : Cli Row Rejection Thrown) h := by
  refine ⟨trivial, fun answer => ?_⟩
  have asked : Cleaned table (h ++ [⟨.isRetryableCreate error, answer⟩]) := cleaned.ask not_false
  rcases answer with thrown | _ | _
  · exact ⟨asked, _, rfl⟩
  · exact ⟨asked, _, rfl⟩
  · exact ⟨asked, fun _ => ⟨asked.ask not_false, _, rfl⟩⟩

theorem holds_classifyFailure (retryableReadiness : Bool) (primary : Thrown)
    (cleaned : Cleaned table h) :
    Holds (Guard table) (fun later r => Cleaned table later ∧ ∃ error, r = .ok error)
      (@classifyFailure Row retryableReadiness primary) h := by
  cases primary with
  | driver error =>
    rw [classifyFailure]
    split
    · cases retryableReadiness with
      | false => exact holds_bind.mpr (holds_mark cleaned)
      | true => exact holds_bind.mpr ⟨cleaned, fun _ => holds_mark (cleaned.ask not_false)⟩
    · exact ⟨cleaned, _, rfl⟩
  | runAborted => exact ⟨cleaned, _, rfl⟩
  | other label => exact ⟨cleaned, _, rfl⟩

theorem holds_reconcile (argvs : Argvs) (deadline : ℚ) (retryableReadiness : Bool) (caught : Thrown)
    (idle : running h = false) :
    Holds (Guard table) (Created table)
      (@reconcile Row table _ argvs deadline retryableReadiness caught) h := by
  rw [reconcile]
  have knows : Knows table h ⟨none, false, caught⟩ := ⟨idle, fun _ => nofun⟩
  refine holds_bind.mpr (holds_remaining fun t => ⟨trivial, fun aborted => ?_⟩)
  have knows := (knows.answered .now t rfl).answered .aborted aborted rfl
  dsimp only
  split
  · exact knows
  split
  · exact knows
  refine holds_bind.mpr (holds_captured.mpr ((holds_retryCleanup argvs _ knows).mono ?_))
  rintro h (⟨state, error⟩ | state) _ retried
  · exact retried
  · refine holds_bind.mpr ((holds_classifyFailure retryableReadiness _ retried.2).mono ?_)
    rintro later r _ ⟨cleaned, error, rfl⟩
    right
    exact cleaned

/-- Before the attempt nothing is started. -/
def Unstarted (later : Events Row) : Except Rejection Argvs → Prop
  | .error (.cleanupFailed _ _ _) => False
  | _ => ∀ e ∈ later, ¬ Starts e

lemma running_of_unstarted (unstarted : ∀ e ∈ h, ¬ Starts e) : running h = false := by
  induction h with
  | nil => rfl
  | cons e h ih =>
    have first : flight false e = false := by
      have not_start := unstarted e List.mem_cons_self
      obtain ⟨q, answer⟩ := e
      cases q <;> first | rfl | exact absurd trivial not_start
    rw [running, List.foldl_cons, first]
    exact ih fun e mem => unstarted e (List.mem_cons_of_mem _ mem)

theorem holds_cleanupArgv (unstarted : ∀ e ∈ h, ¬ Starts e) :
    Holds (Guard table) (fun later r => (∀ e ∈ later, ¬ Starts e) ∧
        ∀ a b c, r ≠ .error (.cleanupFailed a b c)) (@cleanupArgv Row table) h := by
  rw [cleanupArgv]
  split
  · refine ⟨trivial, fun built => ?_⟩
    have unstarted := forall_mem_ask (e := ⟨.cleanupArgv, built⟩) unstarted not_false
    cases built with
    | error error => exact ⟨unstarted, fun _ _ _ => nofun⟩
    | ok args => exact ⟨unstarted, fun _ _ _ => nofun⟩
  · exact ⟨unstarted, fun _ _ _ => nofun⟩

theorem holds_preflight (unstarted : ∀ e ∈ h, ¬ Starts e) :
    Holds (Guard table) Unstarted (@preflight Row table) h := by
  rw [preflight]
  refine holds_bind.mpr ((holds_cleanupArgv unstarted).mono ?_)
  rintro h (rejection | cleanup) _ ⟨unstarted, only_plain⟩
  · cases rejection with
    | plain error => exact unstarted
    | cleanupFailed a b c => exact only_plain a b c rfl
  refine ⟨trivial, fun built => ?_⟩
  have unstarted := forall_mem_ask (e := ⟨.createArgv, built⟩) unstarted not_false
  cases built with
  | error error => exact unstarted
  | ok create =>
    refine ⟨trivial, fun prepared => ?_⟩
    have unstarted := forall_mem_ask (e := ⟨.prepare, prepared⟩) unstarted not_false
    cases prepared <;> exact unstarted

theorem holds_create (requestDeadlineMs : ℚ) (rounds : ℕ) :
    Holds (Guard table) (Created table) (@create Row table requestDeadlineMs rounds) [] := by
  rw [create]
  refine ⟨trivial, fun validated => ?_⟩
  have unstarted : ∀ e ∈ [⟨.validate, validated⟩], ¬ @Starts Row e := by
    intro e member
    rw [List.mem_singleton.mp member]
    exact not_false
  cases validated with
  | error error => exact Or.inl unstarted
  | ok u =>
    refine ⟨trivial, fun at_ => ?_⟩
    have unstarted := forall_mem_ask (e := ⟨.now, at_⟩) unstarted not_false
    refine holds_bind.mpr ((holds_preflight unstarted).mono ?_)
    rintro h (rejection | argvs) _ unstarted
    · cases rejection with
      | plain error => exact Or.inl unstarted
      | cleanupFailed a b c => exact absurd unstarted not_false
    · refine holds_bind.mpr (holds_captured.mpr
        ((holds_attempt argvs _ _ rounds (running_of_unstarted unstarted)).mono ?_))
      rintro h (⟨retryable, caught⟩ | ⟨row, ref⟩) _ attempted
      · exact holds_reconcile argvs _ retryable caught attempted
      · exact attempted

/-! ### A create and its later retries -/

/-- How a run of a create, and of the retries of its cleanup, may end. -/
def Ends (table : CliTable) (later : Events Row) : Ending Row → Prop
  | .returned row ref => Ready later row ∧
    ∃ id, (⟨.sandboxId row, .ok id⟩ : Sigma (@Answer Row)) ∈ later ∧ ref = ⟨table.provider, id⟩
  | .rejected _ => (∀ e ∈ later, ¬ Starts e) ∨ Cleaned table later
  | .cleaned => Cleaned table later
  | .retained state => Knows table later state

theorem safe_retryLater (argvs : Argvs) (retries : ℕ) {state : Cleanup}
    (knows : Knows table h state) :
    (@retryLater Row table argvs retries state).Safe (Guard table) (Ends table) h := by
  induction retries generalizing state h with
  | zero => exact knows
  | succ retries ih =>
    rw [retryLater]
    refine Program.safe_bind.mpr ((holds_retryCleanup argvs _ knows).mono ?_)
    rintro later (⟨state, error⟩ | state) _ retried
    · exact ih retried
    · exact retried.2

theorem safe_createAndRetry (requestDeadlineMs : ℚ) (rounds retries : ℕ) :
    (@createAndRetry Row table requestDeadlineMs rounds retries).Safe (Guard table)
      (Ends table) [] := by
  rw [createAndRetry]
  refine Program.safe_bind.mpr ((holds_create requestDeadlineMs rounds).mono ?_)
  rintro later (rejection | ⟨row, ref⟩) _ created
  · cases rejection with
    | plain error => exact created
    | cleanupFailed error argvs state => exact safe_retryLater argvs retries created
  · exact created

/-- Every run of a create and its retries guards its subprocesses and marks, and ends as it may. -/
theorem create_guarded (table : CliTable) (requestDeadlineMs : ℚ) (rounds retries : ℕ) :
    (∀ (h : Events Row) (q : Query Row),
      (createAndRetry table requestDeadlineMs rounds retries).Asks h q → Guard table h q) ∧
    ∀ (h : Events Row) (ending : Ending Row),
      (createAndRetry table requestDeadlineMs rounds retries).Returns h ending →
        Ends table h ending :=
  ⟨fun _ _ asks => (safe_createAndRetry requestDeadlineMs rounds retries).asks asks,
    fun _ _ returns => (safe_createAndRetry requestDeadlineMs rounds retries).returns returns⟩

/-! ### A sample run -/

def sampleTable : CliTable where
  provider := "tensorlake"
  binary := "tl"
  commandTimeoutMs := 10000
  commandTimeout_pos := by decide
  createCommandTimeoutMs := none
  createAttemptCeilingMs := none
  readyPoll := ["ls"]
  pollIntervalMs := none
  cleanupCreated := .command
  absenceConfirmationMs := 60000
  absenceConfirmation_pos := by decide
  matchesNotFound := fun text => text = "not found"
  redactArgs := id
  redact := fun text _ => text

def sampleNotFound : Except RunFault CliRunResult := .ok ⟨1, "", "not found"⟩

/-- A create that failed, a first absence, and a second one in a later retry. -/
def sampleEvents : Events String :=
  [⟨.validate, .ok ()⟩, nowAt 0, ⟨.cleanupArgv, .ok ["rm", "bench"]⟩, ⟨.createArgv, .ok ["new"]⟩,
    ⟨.prepare, .ok ()⟩, nowAt 0, ⟨.start .create ["new"] 10000, ()⟩,
    ⟨.settle .create, .ok ⟨1, "", "refused"⟩⟩, nowAt 0, ⟨.aborted, none⟩, ⟨.aborted, none⟩, nowAt 0,
    nowAt 0, nowAt 0, nowAt 0, ⟨.start .destroy ["rm", "bench"] 10000, ()⟩,
    ⟨.settle .destroy, sampleNotFound⟩, nowAt 5, nowAt 5, nowAt 5, ⟨.aborted, none⟩, nowAt 70000,
    nowAt 70000, nowAt 70000, nowAt 70000, ⟨.start .destroy ["rm", "bench"] 10000, ()⟩,
    ⟨.settle .destroy, sampleNotFound⟩, nowAt 70005]

theorem create_guarded_sample :
    (createAndRetry sampleTable 100000 0 1).Returns sampleEvents .cleaned ∧
      Cleaned sampleTable sampleEvents := by
  have returns : (createAndRetry sampleTable 100000 0 1).Returns sampleEvents .cleaned :=
    Program.returns_of_finishes (by decide +kernel)
  exact ⟨returns, (create_guarded sampleTable 100000 0 1).2 _ _ returns⟩

end CliCreate
