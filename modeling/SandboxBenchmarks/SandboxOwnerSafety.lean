import SandboxBenchmarks.SandboxOwner

/-!
# No owned sandbox is lost

What removes an entry from the registry, how many destroys of one provider sandbox may
run, and what a cleanup without failures has achieved, in every run.
-/

namespace SandboxOwner

open Transition

variable {s t : State} {i k : ℕ} {entry entry' : Entry} {c c' : Cleanup} {action : Action}

/-! ### Entries -/

/-- Where the provider's destroy is only called by a run of the entry's own. -/
structure EntryOk (entry : Entry) : Prop where
  destroys : entry.forwards = true → entry.providerDestroys =
    if entry.phase = .live ∧ entry.ops.getLast? = some .running then 1 else 0
  pending : entry.settled = false → entry.ops = []

lemma setLast_last (entry : Entry) (op : Op) : (entry.setLast op).ops.getLast? = some op :=
  List.getLast?_concat

lemma EntryOk.not_live (ok : EntryOk entry) (phase : entry.phase ≠ .live)
    (forwards : entry.forwards = true) : entry.providerDestroys = 0 := by
  rw [ok.destroys forwards, if_neg]
  exact fun live => phase live.1

/-- A phase other than `live`, reached before any destroy. -/
lemma EntryOk.setPhase (ok : EntryOk entry) (pending : entry.settled = false) {phase : Phase}
    (handle : Option ℕ) : EntryOk { entry with phase, handle } where
  destroys := fun forwards => by
    have empty : entry.ops = [] := ok.pending pending
    have none_running := ok.destroys forwards
    simp [empty] at none_running ⊢
    exact none_running
  pending := fun _ => ok.pending pending

lemma EntryOk.destroy (ok : EntryOk entry) (installed : entry.destroyable = true) :
    EntryOk entry.destroy := by
  rw [Entry.destroy]
  split
  · exact ok
  · rename_i none_current
    refine ⟨fun forwards => ?_, fun pending => ?_⟩
    · rw [ok.destroys forwards, if_neg, if_neg]
      · simp
      · rintro ⟨-, running⟩
        simp [Entry.current, running] at none_current
    · have settled : entry.settled = false := pending
      cases phase : entry.phase <;> simp [Entry.settled, Entry.destroyable, phase] at settled installed

lemma EntryOk.runs (ok : EntryOk entry) (queued : entry.ops.getLast? = some .queued) :
    EntryOk entry.runs := by
  have filled : entry.ops ≠ [] := by
    rintro empty
    simp [empty] at queued
  rw [Entry.runs]
  split
  · rename_i live
    refine ⟨fun forwards => ?_, fun pending => absurd (ok.pending pending) filled⟩
    have idle := ok.destroys forwards
    rw [if_neg fun running => by simp [queued] at running] at idle
    rw [if_pos ⟨live.1, setLast_last entry .running⟩]
    change entry.providerDestroys + 1 = 1
    omega
  · rename_i not_live
    refine ⟨fun forwards => ?_, fun pending => absurd (ok.pending pending) filled⟩
    have phase : entry.phase ≠ .live := fun live => not_live ⟨live, forwards⟩
    rw [if_neg fun live => phase live.1]
    exact ok.not_live phase forwards

lemma EntryOk.settles (ok : EntryOk entry) (running : entry.ops.getLast? = some .running) {op : Op}
    (settled : op ≠ .running) : EntryOk (entry.settles op) := by
  have filled : entry.ops ≠ [] := by
    rintro empty
    simp [empty] at running
  rw [Entry.settles]
  split
  · rename_i live
    refine ⟨fun forwards => ?_, fun pending => absurd (ok.pending pending) filled⟩
    have one := ok.destroys forwards
    rw [if_pos ⟨live.1, running⟩] at one
    rw [if_neg fun still => settled (Option.some.inj ((setLast_last entry op).symm.trans still.2))]
    change entry.providerDestroys - 1 = 0
    omega
  · rename_i not_live
    refine ⟨fun forwards => ?_, fun pending => absurd (ok.pending pending) filled⟩
    have phase : entry.phase ≠ .live := fun live => not_live ⟨live, forwards⟩
    rw [if_neg fun live => phase live.1]
    exact ok.not_live phase forwards

/-! ### The invariant -/

structure Inv (s : State) : Prop where
  owned : ∀ i ∈ s.owned, i < s.entries.length
  entries : ∀ entry ∈ s.entries, EntryOk entry
  refused : ∀ call ∈ s.calls, call.whileStopping = true → call.entry = none
  called : ∀ i < s.entries.length, (⟨false, some i⟩ : Call) ∈ s.calls
  existed : ∀ c ∈ s.cleanups, ∀ i ∈ c.existed, i < s.entries.length
  drained : ∀ c ∈ s.cleanups, c.stage = .returned → c.failures = [] → ∀ i ∈ c.existed, i ∉ s.owned
  shutdowns : ∀ shutdown ∈ s.shutdowns, ∀ failures, shutdown.result = some failures →
    ∃ c more, s.cleanups[shutdown.cleanup]? = some c ∧ c.stage = .returned ∧
      failures = c.failures ++ more
  stopping : s.stopping = true ↔ s.shutdowns ≠ []

theorem Inv.initial : Inv State.initial := by
  constructor <;> simp [State.initial]

theorem Inv.setEntry (h : Inv s) (ok : EntryOk entry) : Inv (s.setEntry i entry) where
  owned := fun j mem => by
    rw [State.setEntry, List.length_set]
    exact h.owned j mem
  entries := fun e mem => by
    rcases List.mem_or_eq_of_mem_set mem with old | rfl
    · exact h.entries e old
    · exact ok
  refused := h.refused
  called := fun j lt => h.called j (by rwa [State.setEntry, List.length_set] at lt)
  existed := fun c mem j there => by
    rw [State.setEntry, List.length_set]
    exact h.existed c mem j there
  drained := h.drained
  shutdowns := h.shutdowns
  stopping := h.stopping

/-- To drop entries from the registry is always safe. -/
theorem Inv.shrink (h : Inv s) {owned : List ℕ} (fewer : owned ⊆ s.owned)
    (entriesByHandle : List (ℕ × ℕ)) : Inv { s with owned, entriesByHandle } where
  owned := fun j mem => h.owned j (fewer mem)
  entries := h.entries
  refused := h.refused
  called := h.called
  existed := h.existed
  drained := fun c mem returned none_failed j there owns =>
    h.drained c mem returned none_failed j there (fewer owns)
  shutdowns := h.shutdowns
  stopping := h.stopping

theorem Inv.release (h : Inv s) (ok : EntryOk entry) : Inv (s.release i entry) := by
  have ok' : EntryOk { entry with handle := none } := ⟨ok.destroys, ok.pending⟩
  exact (h.shrink (List.filter_sublist.subset) _).setEntry ok'

theorem Inv.create (h : Inv s) (forwards : Bool) : Inv (s.create forwards) := by
  rw [State.create]
  split
  · refine ⟨h.owned, h.entries, fun call mem stopping => ?_, fun j lt => ?_, h.existed, h.drained,
      h.shutdowns, h.stopping⟩
    · rcases List.mem_append.mp mem with old | new
      · exact h.refused call old stopping
      · rw [List.mem_singleton.mp new]
    · exact List.mem_append_left _ (h.called j lt)
  · have longer : ∀ {j}, j < s.entries.length →
        j < (s.entries ++ [(⟨forwards, .registered, [], 0, none⟩ : Entry)]).length :=
      fun lt => lt.trans (by simp)
    refine ⟨fun j mem => ?_, fun e mem => ?_, fun call mem stopping => ?_, fun j lt => ?_,
      fun c mem j there => longer (h.existed c mem j there), fun c mem returned none_failed j there owns => ?_,
      h.shutdowns, h.stopping⟩
    · rcases List.mem_append.mp mem with old | new
      · exact longer (h.owned j old)
      · rw [List.mem_singleton.mp new]
        simp
    · rcases List.mem_append.mp mem with old | new
      · exact h.entries e old
      · rw [List.mem_singleton.mp new]
        exact ⟨fun _ => rfl, fun _ => rfl⟩
    · rcases List.mem_append.mp mem with old | new
      · exact h.refused call old stopping
      · rw [List.mem_singleton.mp new] at stopping
        cases stopping
    · rcases Nat.lt_or_ge j s.entries.length with old | new
      · exact List.mem_append_left _ (h.called j old)
      · have last : j = s.entries.length := by
          simp at lt
          omega
        rw [last]
        exact List.mem_append_right _ (List.mem_singleton_self _)
    · rcases List.mem_append.mp owns with old | new
      · exact h.drained c mem returned none_failed j there old
      · have lt := h.existed c mem j there
        rw [List.mem_singleton.mp new] at lt
        omega

/-! ### Cleanups -/

lemma loop_returned {owned : List ℕ} {readings : List ℚ}
    (returned : (c.loop owned readings).stage = .returned)
    (none_failed : (c.loop owned readings).failures = []) : owned = [] := by
  rw [Cleanup.loop] at returned none_failed
  split at none_failed
  · rename_i goes_on
    rw [if_pos goes_on] at returned
    cases returned
  · by_contra some_left
    dsimp only at none_failed
    split at none_failed
    · cases none_failed
    · rename_i failed
      exact failed ⟨some_left, none_failed⟩

lemma loop_existed {owned : List ℕ} {readings : List ℚ} :
    (c.loop owned readings).existed = c.existed := by
  rw [Cleanup.loop]
  split <;> rfl

lemma round_returned {owned : List ℕ} {time : ℚ} {readings : List ℚ}
    (returned : (c.round owned time readings).stage = .returned)
    (none_failed : (c.round owned time readings).failures = []) : owned = [] := by
  rw [Cleanup.round] at returned none_failed
  split at none_failed
  · assumption
  · rename_i some_left
    rw [if_neg some_left] at returned
    dsimp only at returned none_failed
    split at none_failed
    · rename_i waits
      rw [if_pos waits] at returned
      cases returned
    · rename_i goes_on
      rw [if_neg goes_on] at returned
      exact loop_returned returned none_failed

lemma round_existed {owned : List ℕ} {time : ℚ} {readings : List ℚ} :
    (c.round owned time readings).existed = c.existed := by
  rw [Cleanup.round]
  split
  · rfl
  · dsimp only
    split
    · rfl
    · exact loop_existed

/-- A cleanup that has not returned moves on. -/
theorem Inv.setCleanup (h : Inv s) (at_ : s.cleanups[k]? = some c) (going : c.stage ≠ .returned)
    (existed : c'.existed = c.existed)
    (drained : c'.stage = .returned → c'.failures = [] → s.owned = []) : Inv (s.setCleanup k c') where
  owned := h.owned
  entries := h.entries
  refused := h.refused
  called := h.called
  existed := fun d mem j there => by
    rcases List.mem_or_eq_of_mem_set mem with old | rfl
    · exact h.existed d old j there
    · rw [existed] at there
      exact h.existed c (List.mem_of_getElem? at_) j there
  drained := fun d mem returned none_failed j there owns => by
    rcases List.mem_or_eq_of_mem_set mem with old | rfl
    · exact h.drained d old returned none_failed j there owns
    · have empty : s.owned = [] := drained returned none_failed
      change j ∈ s.owned at owns
      rw [empty] at owns
      cases owns
  shutdowns := fun shutdown mem failures result => by
    obtain ⟨d, more, at_d, returned, split⟩ := h.shutdowns shutdown mem failures result
    refine ⟨d, more, ?_, returned, split⟩
    have other : k ≠ shutdown.cleanup := by
      rintro rfl
      obtain rfl := Option.some.inj (at_.symm.trans at_d)
      exact going returned
    exact (List.getElem?_set_ne other).trans at_d
  stopping := h.stopping

theorem Inv.addCleanup (h : Inv s) (attempts timeoutMs : Option ℚ) (time : ℚ) (readings : List ℚ) :
    Inv { s with cleanups := s.cleanups ++ [startCleanup s.owned attempts timeoutMs time readings] } where
  owned := h.owned
  entries := h.entries
  refused := h.refused
  called := h.called
  existed := fun d mem j there => by
    rcases List.mem_append.mp mem with old | new
    · exact h.existed d old j there
    · rw [List.mem_singleton.mp new, startCleanup, loop_existed] at there
      exact h.owned j there
  drained := fun d mem returned none_failed j there owns => by
    rcases List.mem_append.mp mem with old | new
    · exact h.drained d old returned none_failed j there owns
    · rw [List.mem_singleton.mp new, startCleanup] at returned none_failed
      have empty : s.owned = [] := loop_returned returned none_failed
      change j ∈ s.owned at owns
      rw [empty] at owns
      cases owns
  shutdowns := fun shutdown mem failures result => by
    obtain ⟨d, more, at_d, facts⟩ := h.shutdowns shutdown mem failures result
    refine ⟨d, more, ?_, facts⟩
    exact (List.getElem?_append_left (List.getElem?_eq_some_iff.mp at_d).1).trans at_d
  stopping := h.stopping

/-- A shutdown begins with the cleanup just added. -/
theorem Inv.stop (h : Inv s) (k : ℕ) :
    Inv { s with stopping := true, shutdowns := s.shutdowns ++ [(⟨k, none⟩ : Shutdown)] } where
  owned := h.owned
  entries := h.entries
  refused := h.refused
  called := h.called
  existed := h.existed
  drained := h.drained
  shutdowns := fun shutdown mem failures result => by
    rcases List.mem_append.mp mem with old | new
    · exact h.shutdowns shutdown old failures result
    · rw [List.mem_singleton.mp new] at result
      cases result
  stopping := by simp

theorem Inv.shutdownReturns (h : Inv s) {j : ℕ} {shutdown : Shutdown} (at_ : s.shutdowns[j]? = some shutdown)
    (cleanup_at : s.cleanups[shutdown.cleanup]? = some c) (returned : c.stage = .returned)
    (timedOut : Bool) :
    Inv { s with
      shutdowns := s.shutdowns.set j { shutdown with result := some (shutdownResult c timedOut) } } where
  owned := h.owned
  entries := h.entries
  refused := h.refused
  called := h.called
  existed := h.existed
  drained := h.drained
  shutdowns := fun shutdown' mem failures result => by
    rcases List.mem_or_eq_of_mem_set mem with old | rfl
    · exact h.shutdowns shutdown' old failures result
    · obtain rfl := Option.some.inj result
      exact ⟨c, _, cleanup_at, returned, rfl⟩
  stopping := by
    have some_ : s.shutdowns ≠ [] := List.ne_nil_of_mem (List.mem_of_getElem? at_)
    simp [h.stopping, some_]

/-! ### Steps -/

theorem Inv.taskDestroys (h : Inv s) {j : ℕ} {task : Task} (at_ : s.cleanups[k]? = some c)
    (running : c.stage = .running) (entry_at : s.entries[task.entry]? = some entry) :
    Inv (s.taskDestroys k c j task entry) := by
  have going : c.stage ≠ .returned := by simp [running]
  have ok := h.entries entry (List.mem_of_getElem? entry_at)
  rw [State.taskDestroys]
  split
  · rename_i installed
    refine (h.setEntry (ok.destroy installed)).setCleanup at_ going rfl ?_
    exact fun returned => absurd returned going
  · exact h.setCleanup at_ going rfl (fun returned => absurd returned going)

/-- A task that ends, in a round that goes on. -/
theorem Inv.taskEnds (h : Inv s) (at_ : s.cleanups[k]? = some c) (running : c.stage = .running)
    (j : ℕ) (task : Task) (failures : List Failure) :
    Inv (s.setCleanup k (c.setTask j task failures)) := by
  have going : c.stage ≠ .returned := by simp [running]
  exact h.setCleanup at_ going rfl (fun returned => absurd returned going)

theorem Inv.step (h : Inv s) (step : Step s action t) : Inv t := by
  cases step with
  | create forwards => exact h.create forwards
  | createRuns i entry at_ phase =>
    have ok := h.entries entry (List.mem_of_getElem? at_)
    exact h.setEntry (ok.setPhase (by simp [Entry.settled, phase]) entry.handle)
  | createResolves i entry handle at_ phase =>
    have ok := h.entries entry (List.mem_of_getElem? at_)
    have shrunk := h.shrink (List.Subset.refl s.owned)
      ((handle, i) :: s.entriesByHandle.filter (fun tracked => handle ≠ tracked.1))
    exact shrunk.setEntry (ok.setPhase (by simp [Entry.settled, phase]) (some handle))
  | createBreaks i entry at_ phase =>
    have ok := h.entries entry (List.mem_of_getElem? at_)
    exact h.setEntry (ok.setPhase (by simp [Entry.settled, phase]) entry.handle)
  | createRejects i entry recoverable at_ phase =>
    have ok := h.entries entry (List.mem_of_getElem? at_)
    have pending : entry.settled = false := by simp [Entry.settled, phase]
    cases recoverable with
    | none => exact h.release (ok.setPhase pending entry.handle)
    | some cleanup => exact h.setEntry (ok.setPhase pending entry.handle)
  | destroy i entry at_ installed =>
    exact h.setEntry ((h.entries entry (List.mem_of_getElem? at_)).destroy installed)
  | destroyRuns i entry at_ queued =>
    exact h.setEntry ((h.entries entry (List.mem_of_getElem? at_)).runs queued)
  | destroySettles i entry ok at_ running =>
    have sound := h.entries entry (List.mem_of_getElem? at_)
    cases ok with
    | true => exact h.release (sound.settles running (by decide))
    | false => exact h.setEntry (sound.settles running (by decide))
  | bridgeCalls i entry at_ live bridged =>
    have ok := h.entries entry (List.mem_of_getElem? at_)
    refine h.setEntry ⟨fun forwards => ?_, ok.pending⟩
    rw [bridged] at forwards
    cases forwards
  | bridgeSettles i entry at_ bridged =>
    have ok := h.entries entry (List.mem_of_getElem? at_)
    refine h.setEntry ⟨fun forwards => ?_, ok.pending⟩
    rw [bridged] at forwards
    cases forwards
  | release handle i entry tracked at_ =>
    exact h.release (h.entries entry (List.mem_of_getElem? at_))
  | cleanup attempts timeoutMs time readings => exact h.addCleanup attempts timeoutMs time readings
  | taskDestroys k j cleanup task entry at_ running task_at waiting entry_at =>
    exact h.taskDestroys at_ running entry_at
  | taskSettles k j cleanup task entry op ok at_ running => exact h.taskEnds at_ running j _ _
  | extraSettles k j cleanup task ok at_ running => exact h.taskEnds at_ running j _ _
  | taskTimesOut k j cleanup task at_ running => exact h.taskEnds at_ running j _ _
  | round k cleanup time readings at_ running =>
    exact h.setCleanup at_ (by simp [running]) round_existed round_returned
  | wakes k cleanup readings at_ delaying =>
    exact h.setCleanup at_ (by simp [delaying]) loop_existed loop_returned
  | shutdown time readings => exact (h.addCleanup none none time readings).stop s.cleanups.length
  | shutdownReturns j shutdown cleanup timedOut at_ waiting cleanup_at returned =>
    exact h.shutdownReturns at_ cleanup_at returned timedOut

theorem Runs.inv (h : Runs s) : Inv s := by
  refine h.invariant ?_ (fun s t inv step => step.elim fun _ step => inv.step step)
  rintro s rfl
  exact Inv.initial

/-! ### Leaving the registry -/

/-- A rejected create without a cleanup, a resolved destroy or cleanup, or an explicit release. -/
def Leaves (s : State) (i : ℕ) : Action → Prop
  | .createRejects j none => j = i
  | .destroySettles j true => j = i
  | .release handle => s.entriesByHandle.lookup handle = some i
  | _ => False

lemma owned_of_release {j : ℕ} (mem : i ∈ s.owned) (gone : i ∉ (s.release j entry).owned) :
    j = i := by
  by_contra other
  exact gone (List.mem_filter.mpr ⟨mem, by simpa using Ne.symm other⟩)

theorem Step.leaves (step : Step s action t) (mem : i ∈ s.owned) (gone : i ∉ t.owned) :
    Leaves s i action := by
  cases step with
  | createRejects j entry recoverable =>
    cases recoverable with
    | none => exact owned_of_release mem gone
    | some cleanup => exact absurd mem gone
  | destroySettles j entry ok =>
    cases ok with
    | true => exact owned_of_release mem gone
    | false => exact absurd mem gone
  | release handle j entry tracked =>
    rw [Leaves, tracked, owned_of_release mem gone]
  | create forwards =>
    rw [State.create] at gone
    split at gone
    · exact absurd mem gone
    · exact absurd (List.mem_append_left _ mem) gone
  | taskDestroys k j cleanup task entry =>
    rw [State.taskDestroys] at gone
    split at gone <;> exact absurd mem gone
  | createRuns => exact absurd mem gone
  | createResolves => exact absurd mem gone
  | createBreaks => exact absurd mem gone
  | destroy => exact absurd mem gone
  | destroyRuns => exact absurd mem gone
  | bridgeCalls => exact absurd mem gone
  | bridgeSettles => exact absurd mem gone
  | cleanup => exact absurd mem gone
  | taskSettles => exact absurd mem gone
  | extraSettles => exact absurd mem gone
  | taskTimesOut => exact absurd mem gone
  | round => exact absurd mem gone
  | wakes => exact absurd mem gone
  | shutdown => exact absurd mem gone
  | shutdownReturns => exact absurd mem gone

/-! ### The owner -/

lemma EntryOk.le_one (ok : EntryOk entry) (forwards : entry.forwards = true) :
    entry.providerDestroys ≤ 1 := by
  rw [ok.destroys forwards]
  split <;> omega

/-- A shutdown without failures left nothing of what was owned when it began. -/
theorem Inv.shutdown_drained (h : Inv s) {shutdown : Shutdown} (mem : shutdown ∈ s.shutdowns)
    (result : shutdown.result = some []) :
    ∃ c, s.cleanups[shutdown.cleanup]? = some c ∧ ∀ i ∈ c.existed, i ∉ s.owned := by
  obtain ⟨c, more, at_, returned, split⟩ := h.shutdowns shutdown mem [] result
  have none_failed : c.failures = [] := (List.append_eq_nil_iff.mp split.symm).1
  exact ⟨c, at_, h.drained c (List.mem_of_getElem? at_) returned none_failed⟩

lemma Step.reaches {u : State} (step : Step s action t) (same : t = u) :
    ∃ action, Step s action u :=
  ⟨action, same ▸ step⟩

def sampleCreated : State where
  owned := [0]
  entriesByHandle := [(7, 0)]
  entries := [⟨true, .live, [], 0, some 7⟩]
  stopping := false
  calls := [⟨false, some 0⟩]
  cleanups := []
  shutdowns := []

def sampleDraining (stage : TaskStage) : Cleanup where
  existed := [0]
  attempts := 3
  deadline := 15000
  attempt := 1
  tasks := [⟨0, stage⟩]
  failures := []
  stage := .running

/-- The shutdown of the one sandbox there is, while it is owned. -/
def sampleStopping (ops : List Op) (providerDestroys : ℕ) (stage : TaskStage) : State :=
  { sampleCreated with
    entries := [⟨true, .live, ops, providerDestroys, some 7⟩]
    stopping := true
    cleanups := [sampleDraining stage]
    shutdowns := [⟨0, none⟩] }

/-- And once it is destroyed. -/
def sampleStopped (cleanup : Cleanup) (result : Option (List Failure)) : State :=
  { sampleCreated with
    owned := []
    entriesByHandle := []
    entries := [⟨true, .live, [.resolved], 0, none⟩]
    stopping := true
    cleanups := [cleanup]
    shutdowns := [⟨0, result⟩] }

def sampleDrained : Cleanup := { sampleDraining .done with stage := .returned }

lemma sample_runs : Runs (sampleStopped sampleDrained (some [])) := by
  have resolved := (Step.createResolves ((State.initial.create true).setEntry 0
    ⟨true, .creating, [], 0, none⟩) 0 _ 7 rfl rfl).reaches (u := sampleCreated) (by decide +kernel)
  have created : Runs sampleCreated := ⟨State.initial, rfl,
    .head ⟨_, .create _ true⟩ (.head ⟨_, .createRuns _ 0 _ rfl rfl⟩ (.single resolved))⟩
  have stops := (Step.shutdown sampleCreated 0 [0] rfl).reaches
    (u := sampleStopping [] 0 .waiting) (by decide +kernel)
  have joins := (Step.taskDestroys (sampleStopping [] 0 .waiting) 0 0 (sampleDraining .waiting)
    ⟨0, .waiting⟩ ⟨true, .live, [], 0, some 7⟩ rfl rfl rfl rfl rfl rfl).reaches
    (u := sampleStopping [.queued] 0 (.joined 0)) (by decide +kernel)
  have runs := (Step.destroyRuns (sampleStopping [.queued] 0 (.joined 0)) 0 _ rfl rfl).reaches
    (u := sampleStopping [.running] 1 (.joined 0)) (by decide +kernel)
  have resolves := (Step.destroySettles (sampleStopping [.running] 1 (.joined 0)) 0 _ true rfl
    rfl).reaches (u := sampleStopped (sampleDraining (.joined 0)) none) (by decide +kernel)
  have settles := (Step.taskSettles (sampleStopped (sampleDraining (.joined 0)) none) 0 0
    (sampleDraining (.joined 0)) ⟨0, .joined 0⟩ _ 0 true rfl rfl rfl rfl rfl rfl).reaches
    (u := sampleStopped (sampleDraining .done) none) (by decide +kernel)
  have drains := (Step.round (sampleStopped (sampleDraining .done) none) 0 (sampleDraining .done) 1
    [] rfl rfl (by decide) rfl).reaches (u := sampleStopped sampleDrained none) (by decide +kernel)
  have returns := (Step.shutdownReturns (sampleStopped sampleDrained none) 0 ⟨0, none⟩ sampleDrained
    false rfl rfl rfl rfl).reaches (u := sampleStopped sampleDrained (some [])) (by decide +kernel)
  exact created.later (.head stops (.head joins (.head runs (.head resolves (.head settles
    (.head drains (.single returns)))))))

end SandboxOwner
