import SandboxBenchmarks.VendorRecovery

/-!
# The order of deletes

What `destroy` sends, over every answer, clock and signal. A probe that loses its
race may go on after polling has failed, so its requests count as well.
-/

namespace VendorTeardown

open Interaction VendorRecovery

/-- The clock as read so far, its reading at the last delete sent, and what the last read showed. -/
structure Trace where
  readings : List ℚ
  sent : Option ℚ
  read : Option VendorRecord

def note (trace : Trace) : Sigma Answer → Trace
  | ⟨.now, at_⟩ => { trace with readings := trace.readings ++ [at_] }
  | ⟨.remove _, _⟩ => { trace with sent := trace.readings.getLast? }
  | ⟨.get _, .ok record⟩ => { trace with read := record }
  | _ => trace

def traced (h : Events) : Trace := h.foldl note ⟨[], none, none⟩

lemma traced_append (h : Events) (event : Sigma Answer) :
    traced (h ++ [event]) = note (traced h) event := by
  simp [traced, List.foldl_append]

/-- What stands behind a delete: none was accepted before it, the last read showed the sandbox live
and not already going, and the clock had passed the retry interval since the last delete. -/
structure Careful (vendor : Vendor) (id : String) (removeFirst : Bool) (h : Events) : Prop where
  unaccepted : ∀ outcome, (⟨.remove id, .ok outcome⟩ : Sigma Answer) ∉ h
  live : removeFirst = false ∨ (traced h).sent ≠ none →
    ∃ record, (traced h).read = some record ∧ record.phase ≠ .gone ∧ record.phase ≠ .deleting
  spaced : ∀ last, (traced h).sent = some last → ∃ earlier checked sent,
    (traced h).readings = earlier ++ [checked, sent] ∧ vendor.removeRetryMs ≤ checked - last

/-- On a clock that does not run backwards, deletes are the interval apart. -/
lemma Careful.apart {vendor : Vendor} {id : String} {removeFirst : Bool} {h : Events}
    (careful : Careful vendor id removeFirst h) (forward : (traced h).readings.Pairwise (· ≤ ·))
    {last sent : ℚ} (before : (traced h).sent = some last)
    (now : (traced h).readings.getLast? = some sent) : vendor.removeRetryMs ≤ sent - last := by
  obtain ⟨earlier, checked, sent', read, interval⟩ := careful.spaced last before
  rw [read, List.getLast?_append] at now
  have same : sent' = sent := by simpa using now
  rw [read, List.pairwise_append] at forward
  have order : checked ≤ sent' := by simpa using forward.2.1
  rw [← same]
  exact interval.trans (sub_le_sub_right order last)

/-- The variables of a teardown agree with what it has sent. -/
structure Tracks (id : String) (h : Events) (teardown : Teardown) : Prop where
  sent : (traced h).sent = teardown.lastRequest
  accepted : teardown.accepted = false → ∀ outcome, (⟨.remove id, .ok outcome⟩ : Sigma Answer) ∉ h
  unasked : teardown.requested = false → teardown.lastRequest = none ∧ teardown.accepted = false

def sends (vendor : Vendor) (id : String) (removeFirst : Bool) (h : Events) : Query → Prop
  | .remove other => other = id ∧ Careful vendor id removeFirst h
  | _ => True

/-- A teardown goes on after a probe, unless the probe saw the sandbox down or failed. -/
def Probed (id : String) (h : Events) : Except (Teardown × Thrown) (Teardown × Option Unit) → Prop
  | .ok (teardown, none) => Tracks id h teardown
  | .ok (_, some ()) => TornDown id h
  | .error _ => True

section
variable {vendor : Vendor} {id : String} {removeFirst : Bool} {h : Events} {teardown : Teardown}

/-- Reading clocks and signals, racing and waiting send nothing. -/
lemma Tracks.append (tracks : Tracks id h teardown) (event : Sigma Answer)
    (silent : ∀ other, event.1 ≠ .remove other) : Tracks id (h ++ [event]) teardown := by
  have sent : (traced (h ++ [event])).sent = (traced h).sent := by
    rw [traced_append]
    obtain ⟨q, answer⟩ := event
    cases q with
    | remove other => exact absurd rfl (silent other)
    | get other => cases answer <;> rfl
    | _ => rfl
  refine ⟨sent.trans tracks.sent, ?_, tracks.unasked⟩
  intro open_ outcome member
  rcases List.mem_append.mp member with before | here
  · exact tracks.accepted open_ outcome before
  · rw [List.mem_singleton] at here
    exact silent id (congrArg Sigma.fst here).symm

lemma holds_request (tracks : Tracks id h teardown) (open_ : teardown.accepted = false)
    (live : removeFirst = false ∨ teardown.lastRequest ≠ none →
      ∃ record, (traced h).read = some record ∧ record.phase ≠ .gone ∧ record.phase ≠ .deleting)
    (spaced : ∀ last, teardown.lastRequest = some last → ∃ earlier checked,
      (traced h).readings = earlier ++ [checked] ∧ vendor.removeRetryMs ≤ checked - last) :
    Holds (sends vendor id removeFirst) (Probed id) (vendor.request id teardown) h := by
  refine ⟨trivial, fun at_ => ⟨⟨rfl, ?_⟩, fun settled => ?_⟩⟩
  · have later := tracks.append ⟨.now, at_⟩ (fun _ => nofun)
    refine ⟨later.accepted open_, ?_, ?_⟩
    · intro asked
      rw [later.sent] at asked
      rw [traced_append]
      exact live asked
    · intro last before
      rw [later.sent] at before
      obtain ⟨earlier, checked, read, interval⟩ := spaced last before
      refine ⟨earlier, checked, at_, ?_, interval⟩
      rw [traced_append]
      exact (congrArg (· ++ [at_]) read).trans (List.append_assoc _ _ _)
  · -- the delete is answered: what it leaves depends on the answer
    have asked : ∀ accepted refusal, (accepted = false → ∀ outcome,
        (⟨.remove id, .ok outcome⟩ : Sigma Answer) ∉ h ++ [⟨.now, at_⟩] ++ [⟨.remove id, settled⟩]) →
        Tracks id (h ++ [⟨.now, at_⟩] ++ [⟨.remove id, settled⟩]) ⟨true, accepted, some at_, refusal⟩ := by
      intro accepted refusal unaccepted
      refine ⟨?_, unaccepted, nofun⟩
      rw [traced_append, traced_append]
      exact List.getLast?_concat
    rcases settled with error | outcome
    · dsimp only
      split
      · exact trivial
      · refine asked teardown.accepted (some error) ?_
        intro _ outcome member
        rcases List.mem_append.mp member with before | here
        · exact (tracks.append ⟨.now, at_⟩ (fun _ => nofun)).accepted open_ outcome before
        · cases List.mem_singleton.mp here
    · cases outcome with
      | removed => exact Or.inl (List.mem_append_right _ (List.mem_singleton_self _))
      | accepted => exact asked true none nofun

lemma holds_observe (first : Bool) (tracks : Tracks id h teardown) :
    Holds (sends vendor id removeFirst) (Probed id) (vendor.observe id first teardown) h := by
  refine ⟨trivial, fun settled => ?_⟩
  rcases settled with error | record
  · dsimp only
    split
    · exact tracks.append _ (fun _ => nofun)
    · exact trivial
  · dsimp only
    split
    · rename_i gone
      exact Or.inr ⟨record, List.mem_append_right _ (List.mem_singleton_self _), gone⟩
    · rename_i present
      refine ⟨trivial, fun at_ => ?_⟩
      have read := (tracks.append ⟨.get id, .ok record⟩ (fun _ => nofun)).append
        ⟨.now, at_⟩ (fun _ => nofun)
      dsimp only
      split
      · rename_i request
        obtain ⟨_, open_, due, deleting⟩ := request
        refine holds_request read open_ ?_ ?_
        · intro _
          cases record with
          | none => exact absurd rfl present
          | some record =>
            refine ⟨record, ?_, ?_, ?_⟩
            · rw [traced_append, traced_append]
              rfl
            · intro gone
              exact present (decide_eq_true gone)
            · intro going
              exact deleting (congrArg some going)
        · intro last before
          refine ⟨(traced (h ++ [⟨.get id, .ok record⟩])).readings, at_, ?_, ?_⟩
          · rw [traced_append]
            rfl
          · rw [before] at due
            simpa using due
      · exact read

lemma holds_tear (tracks : Tracks id h teardown) :
    Holds (sends vendor id removeFirst) (Probed id) (vendor.tear id removeFirst teardown) h := by
  rw [Vendor.tear]
  split
  · rename_i first
    obtain ⟨asksFirst, unasked⟩ := first
    obtain ⟨never, open_⟩ := tracks.unasked unasked
    refine Holds.bind (holds_request tracks open_ ?_ ?_) ?_ ?_
    · intro later
      rw [asksFirst, never] at later
      exact absurd later (by simp)
    · intro last before
      rw [never] at before
      cases before
    · exact fun _ _ _ _ => trivial
    · rintro later ⟨teardown', _ | ⟨⟩⟩ _ probed
      · exact holds_observe true probed
      · exact probed
  · exact holds_observe false tracks

end

/-- Polling keeps the variables of a teardown in step, whether or not a probe outlives it. -/
theorem tearing_rule (vendor : Vendor) (id : String) (removeFirst : Bool) :
    (vendor.tearing id removeFirst).Rule (sends vendor id removeFirst) (Tracks id) (fun h _ => Tracks id h)
      (fun h _ _ => TornDown id h)
      (fun h fault => ∀ probe, fault.inFlight = some probe → Tracks id h probe) where
  stable_between := fun state => by
    constructor <;> intros <;> exact ⟨trivial, fun _ => Tracks.append (by assumption) _ (fun _ => nofun)⟩
  stable_during := fun state probe => by
    constructor <;> intros <;> exact ⟨trivial, fun _ => Tracks.append (by assumption) _ (fun _ => nofun)⟩
  stable_ready := fun state a => by
    constructor <;> intros <;>
      exact ⟨trivial, fun _ => TornDown.mono (by assumption) (List.prefix_append _ _)⟩
  start := fun _ _ tracks => tracks
  finish := fun h _ probe tracks => by
    refine (holds_tear tracks).mono ?_
    rintro later (error | ⟨teardown, _ | ⟨⟩⟩) _ probed
    · exact nofun
    · exact probed
    · exact probed
  failed_between := fun _ _ _ _ => nofun
  failed_during := fun _ _ _ _ tracks probe same => Option.some.inj same ▸ tracks
  failed_late := fun _ _ _ _ => nofun

/-- A probe that lost its race runs on; nothing reads what it returns. -/
def runOn (vendor : Vendor) (id : String) (removeFirst : Bool) (outcome : Except Thrown Bool) :
    Option Teardown → Program Query Answer (Except Thrown Bool)
  | none => .done outcome
  | some probe => (vendor.tear id removeFirst probe).run.bind fun _ => .done outcome

/-- `destroy`, and the probe that it may have left running. -/
def teardown (vendor : Vendor) (id : String) (removeFirst : Bool) (rounds : ℕ) :
    Program Query Answer (Except Thrown Bool) :=
  ((vendor.tearing id removeFirst).pollUntilReady rounds ⟨false, false, none, none⟩).run.bind
    fun result => match result with
      | .ok (teardown, ()) => .done (.ok teardown.requested)
      | .error fault => (vendor.expired id fault).run.bind fun outcome =>
        runOn vendor id removeFirst outcome fault.inFlight

lemma safe_teardown (vendor : Vendor) (id : String) (removeFirst : Bool) (rounds : ℕ) :
    (teardown vendor id removeFirst rounds).Safe (sends vendor id removeFirst)
      (fun _ _ => True) [] := by
  have start : Tracks id [] ⟨false, false, none, none⟩ := ⟨rfl, nofun, fun _ => ⟨rfl, rfl⟩⟩
  refine Program.safe_bind.mpr
    (((tearing_rule vendor id removeFirst).pollUntilReady rounds _ start).mono ?_)
  rintro later (fault | ⟨teardown, ⟨⟩⟩) _ failed
  swap
  · exact trivial
  -- reporting the failure reads the two signals; the lost probe goes on after them
  have reported : (vendor.expired id fault).run.Safe (sends vendor id removeFirst)
      (fun h _ => ∀ probe, fault.inFlight = some probe → Tracks id h probe) later := by
    refine ⟨trivial, fun aborted => ⟨trivial, fun outer => ?_⟩⟩
    have kept : ∀ probe, fault.inFlight = some probe → Tracks id
        (later ++ [⟨.aborted, aborted⟩] ++ [⟨.outerAborted, outer⟩]) probe := fun probe running =>
      ((failed probe running).append ⟨.aborted, aborted⟩ (fun _ => nofun)).append
        ⟨.outerAborted, outer⟩ (fun _ => nofun)
    dsimp only
    split <;> exact kept
  refine Program.safe_bind.mpr (reported.mono ?_)
  intro h outcome _ kept
  cases running : fault.inFlight with
  | none => exact trivial
  | some probe =>
    exact Program.safe_bind.mpr ((holds_tear (kept probe running)).mono fun _ _ _ _ => trivial)

/-- A teardown resolves only once its sandbox is down, and every delete it sends, also one sent
after it has failed, stands behind an open request, a read of a live sandbox unless it held the
session, and the retry interval. -/
theorem destroy_orders (vendor : Vendor) (id : String) (removeFirst : Bool) (rounds : ℕ) :
    (∀ (h : Events) (asked : Bool),
      (vendor.destroy id removeFirst rounds).run.Returns h (.ok asked) → TornDown id h) ∧
    ∀ (h : Events) (other : String),
      (teardown vendor id removeFirst rounds).Asks h (.remove other) →
        other = id ∧ Careful vendor id removeFirst h ∧
        ((traced h).readings.Pairwise (· ≤ ·) → ∀ last sent, (traced h).sent = some last →
          (traced h).readings.getLast? = some sent → vendor.removeRetryMs ≤ sent - last) := by
  constructor
  · intro h asked returns
    exact (holds_destroy vendor id removeFirst rounds []).returns returns
  · intro h other asks
    obtain ⟨same, careful⟩ := (safe_teardown vendor id removeFirst rounds).asks asks
    exact ⟨same, careful, fun forward last sent before now => careful.apart forward before now⟩

end VendorTeardown
