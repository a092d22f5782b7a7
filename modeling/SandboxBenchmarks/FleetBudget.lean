import Mathlib.Algebra.Order.Floor.Semiring
import Mathlib.Data.Rat.Floor
import Mathlib.Order.Bounds.Basic

/-!
# The budget of a fan-out

`fleetWaves` and `fleetBudgetError` of `apps/cli/src/lib/replicates.ts`: a cap on
concurrency makes the replicates of a cell run in serial waves, and all waves share the
budget of one job. Numbers are whole and exact.
-/

namespace FleetBudget

/-- `WORKFLOW_TIMEOUT_MARGIN_MINUTES` -/
def workflowTimeoutMarginMinutes : ℕ := 15

/-- `Math.min(maxConcurrency, replicates)`; without a cap all replicates run at once. -/
def inFlight (maxConcurrency : WithTop ℕ) (replicates : ℕ) : ℕ :=
  match maxConcurrency with
  | none => replicates
  | some cap => min cap replicates

/-- How many serial waves a fan-out runs in. -/
def fleetWaves (replicates : ℕ) (maxConcurrency : WithTop ℕ) : ℕ :=
  ⌈(replicates : ℚ) / inFlight maxConcurrency replicates⌉₊

structure FleetOptions where
  replicates : ℕ
  maxConcurrency : WithTop ℕ
  suite : String
  suiteTimeoutMinutes : ℕ
  budgetMinutes : ℕ

inductive Remedy where
  | raise (cap : ℕ)
  | leaveBlank
deriving DecidableEq, Repr

structure FleetBudgetError where
  opts : FleetOptions
  waves : ℕ
  worstCase : ℕ
  remedy : Remedy

/-- `String(maxConcurrency)` -/
def capText : WithTop ℕ → String
  | none => "Infinity"
  | some cap => toString cap

def Remedy.text (opts : FleetOptions) : Remedy → String
  | .raise cap =>
    let replicates := opts.replicates
    s!"raise --max-concurrency to at least {cap} (or leave it blank for all {replicates} at once)"
  | .leaveBlank =>
    let suite := opts.suite
    let budgetMinutes := opts.budgetMinutes
    s!"leave --max-concurrency blank — suite \"{suite}\" alone does not fit the {budgetMinutes}-minute job budget"

/-- What the operator reads. -/
def FleetBudgetError.text (error : FleetBudgetError) : String :=
  let maxConcurrency := capText error.opts.maxConcurrency
  let replicates := error.opts.replicates
  let suite := error.opts.suite
  let suiteTimeoutMinutes := error.opts.suiteTimeoutMinutes
  let budgetMinutes := error.opts.budgetMinutes
  let waves := error.waves
  let worstCase := error.worstCase
  let margin := workflowTimeoutMarginMinutes
  let remedy := error.remedy.text error.opts
  s!"--max-concurrency {maxConcurrency} splits {replicates} replicates of suite \"{suite}\" into {waves} serial waves × {suiteTimeoutMinutes} minutes + {margin} minutes of host margin = up to {worstCase} minutes, past the cell's {budgetMinutes}-minute job budget. The job would be cancelled mid-fan-out and ALL {replicates} shards lost, so this is rejected before any sandbox is created: {remedy}."

/-- Why the fan-out cannot fit its job, with the smallest cap that would. -/
def fleetBudgetError (opts : FleetOptions) : Option FleetBudgetError :=
  let waves := fleetWaves opts.replicates opts.maxConcurrency
  let worstCase := waves * opts.suiteTimeoutMinutes + workflowTimeoutMarginMinutes
  if worstCase ≤ opts.budgetMinutes then none
  else
    let maxWaves := ⌊((opts.budgetMinutes : ℚ) - workflowTimeoutMarginMinutes) /
      opts.suiteTimeoutMinutes⌋
    let remedy := if 1 ≤ maxWaves then .raise ⌈(opts.replicates : ℚ) / maxWaves⌉₊ else .leaveBlank
    some ⟨opts, waves, worstCase, remedy⟩

/-! ### Rounding -/

lemma ceil_div_le_iff {a b n : ℕ} (positive : 0 < b) : ⌈(a : ℚ) / b⌉₊ ≤ n ↔ a ≤ n * b := by
  rw [Nat.ceil_le, div_le_iff₀ (by exact_mod_cast positive)]
  norm_cast

lemma ceil_div_pos {a b : ℕ} (some : 0 < a) (positive : 0 < b) : 0 < ⌈(a : ℚ) / b⌉₊ := by
  rw [Nat.ceil_pos]
  exact div_pos (by exact_mod_cast some) (by exact_mod_cast positive)

section
variable {replicates : ℕ} {cap : WithTop ℕ}

lemma inFlight_pos (some : 0 < replicates) (positive : 0 < cap) : 0 < inFlight cap replicates := by
  cases cap with
  | top => exact some
  | coe cap => exact lt_min (WithTop.coe_pos.mp positive) some

lemma inFlight_mono {cap' : WithTop ℕ} (le : cap ≤ cap') :
    inFlight cap replicates ≤ inFlight cap' replicates := by
  cases cap' with
  | top =>
    cases cap with
    | top => exact le_rfl
    | coe cap => exact min_le_right cap replicates
  | coe cap' =>
    cases cap with
    | top => exact absurd le (WithTop.not_top_le_coe cap')
    | coe cap => exact min_le_min_right replicates (WithTop.coe_le_coe.mp le)

/-- Serial waves hold all replicates exactly from this number of waves on. -/
lemma fleetWaves_le_iff (some : 0 < replicates) (positive : 0 < cap) {waves : ℕ} :
    fleetWaves replicates cap ≤ waves ↔ replicates ≤ waves * inFlight cap replicates :=
  ceil_div_le_iff (inFlight_pos some positive)

lemma fleetWaves_pos (some : 0 < replicates) (positive : 0 < cap) : 0 < fleetWaves replicates cap :=
  ceil_div_pos some (inFlight_pos some positive)

lemma fleetWaves_anti {cap' : WithTop ℕ} (some : 0 < replicates) (positive : 0 < cap)
    (le : cap ≤ cap') : fleetWaves replicates cap' ≤ fleetWaves replicates cap := by
  rw [fleetWaves_le_iff some (positive.trans_le le)]
  calc replicates ≤ fleetWaves replicates cap * inFlight cap replicates :=
        (fleetWaves_le_iff some positive).mp le_rfl
    _ ≤ fleetWaves replicates cap * inFlight cap' replicates :=
        Nat.mul_le_mul_left _ (inFlight_mono le)

/-- A number of waves suffices from the rounded quotient on, however the quotient falls. -/
lemma fleetWaves_le_iff_cap (some : 0 < replicates) (positive : 0 < cap) {waves : ℕ}
    (several : 0 < waves) : fleetWaves replicates cap ≤ waves ↔
      WithTop.some ⌈(replicates : ℚ) / waves⌉₊ ≤ cap := by
  rw [fleetWaves_le_iff some positive]
  have alone : replicates ≤ waves * replicates := Nat.le_mul_of_pos_left replicates several
  cases cap with
  | top => simp [inFlight, alone]
  | coe cap =>
    rw [WithTop.coe_le_coe, ceil_div_le_iff several, mul_comm cap waves]
    change replicates ≤ waves * min cap replicates ↔ replicates ≤ waves * cap
    rw [← Nat.mul_min_mul_left, le_min_iff, and_iff_left alone]

end

/-! ### The check -/

/-- The same fan-out under another cap. -/
def FleetOptions.capped (opts : FleetOptions) (cap : WithTop ℕ) : FleetOptions :=
  { opts with maxConcurrency := cap }

def Accepted (opts : FleetOptions) (cap : WithTop ℕ) : Prop :=
  fleetBudgetError (opts.capped cap) = none

/-- How many suite budgets the job budget holds beside the margin. -/
def maxWaves (opts : FleetOptions) : ℤ :=
  ⌊((opts.budgetMinutes : ℚ) - workflowTimeoutMarginMinutes) / opts.suiteTimeoutMinutes⌋

variable {opts : FleetOptions} {cap : WithTop ℕ}

lemma accepted_iff : Accepted opts cap ↔ fleetWaves opts.replicates cap * opts.suiteTimeoutMinutes +
    workflowTimeoutMarginMinutes ≤ opts.budgetMinutes := by
  unfold Accepted fleetBudgetError FleetOptions.capped
  dsimp only
  split
  · rename_i fits
    exact iff_of_true rfl fits
  · rename_i late
    exact iff_of_false (Option.some_ne_none _) late

/-- Waves fit the job budget exactly while they are no more than it holds. -/
lemma fits_iff (timeout : 0 < opts.suiteTimeoutMinutes) {waves : ℕ} :
    waves * opts.suiteTimeoutMinutes + workflowTimeoutMarginMinutes ≤ opts.budgetMinutes ↔
      (waves : ℤ) ≤ maxWaves opts := by
  have positive : (0 : ℚ) < opts.suiteTimeoutMinutes := by exact_mod_cast timeout
  rw [maxWaves, Int.le_floor, le_div_iff₀ positive, le_sub_iff_add_le]
  norm_cast

/-- A job that holds a suite budget accepts the caps from the rounded quotient on. -/
lemma accepted_iff_cap (some : 0 < opts.replicates) (timeout : 0 < opts.suiteTimeoutMinutes)
    (positive : 0 < cap) (room : 1 ≤ maxWaves opts) :
    Accepted opts cap ↔ WithTop.some ⌈(opts.replicates : ℚ) / maxWaves opts⌉₊ ≤ cap := by
  obtain ⟨waves, held⟩ := Int.eq_ofNat_of_zero_le (le_trans Int.one_nonneg room)
  rw [accepted_iff, fits_iff timeout, held]
  have several : 0 < waves := by omega
  rw [Nat.cast_le, fleetWaves_le_iff_cap some positive several]
  rfl

lemma not_accepted_of_no_room (some : 0 < opts.replicates)
    (timeout : 0 < opts.suiteTimeoutMinutes) (positive : 0 < cap) (full : ¬ 1 ≤ maxWaves opts) :
    ¬ Accepted opts cap := by
  have one := fleetWaves_pos some positive
  rw [accepted_iff, fits_iff timeout]
  omega

lemma remedy_of_refused {error : FleetBudgetError} (refused : fleetBudgetError opts = some error) :
    error.remedy = if 1 ≤ maxWaves opts then .raise ⌈(opts.replicates : ℚ) / maxWaves opts⌉₊
      else .leaveBlank := by
  unfold fleetBudgetError at refused
  dsimp only at refused
  split at refused
  · cases refused
  · rw [← Option.some.inj refused]
    rfl

/-- What the check is for: it refuses what does not fit, and names the least cap that does. -/
structure Exact (opts : FleetOptions) : Prop where
  serial : ∀ cap, 0 < cap → IsLeast {waves | opts.replicates ≤ waves * inFlight cap opts.replicates}
    (fleetWaves opts.replicates cap)
  refused : ∀ cap, 0 < cap → ((∃ error, fleetBudgetError (opts.capped cap) = some error) ↔
    opts.budgetMinutes < fleetWaves opts.replicates cap * opts.suiteTimeoutMinutes +
      workflowTimeoutMarginMinutes)
  monotone : ∀ cap, 0 < cap → ∀ cap', cap ≤ cap' → Accepted opts cap → Accepted opts cap'
  named : ∀ cap, 0 < cap → ∀ error, fleetBudgetError (opts.capped cap) = some error →
    ∀ least, error.remedy = .raise least → IsLeast {cap | 0 < cap ∧ Accepted opts cap} least
  unnamed : ∀ cap, 0 < cap → ∀ error, fleetBudgetError (opts.capped cap) = some error →
    (error.remedy = .leaveBlank ↔ ∀ cap', 0 < cap' → ¬ Accepted opts cap')

theorem fleetBudgetError_exact (some : 0 < opts.replicates)
    (timeout : 0 < opts.suiteTimeoutMinutes) : Exact opts := by
  refine ⟨fun cap positive => ?_, fun cap positive => ?_, fun cap positive cap' le accepted => ?_,
    fun cap positive error refused least named => ?_, fun cap positive error refused => ?_⟩
  · refine ⟨(fleetWaves_le_iff some positive).mp le_rfl, fun waves enough => ?_⟩
    exact (fleetWaves_le_iff some positive).mpr enough
  · rw [← Option.ne_none_iff_exists', ← not_le, ← accepted_iff]
    rfl
  · rw [accepted_iff] at accepted ⊢
    have fewer := fleetWaves_anti some positive le
    calc fleetWaves opts.replicates cap' * opts.suiteTimeoutMinutes + workflowTimeoutMarginMinutes
        ≤ fleetWaves opts.replicates cap * opts.suiteTimeoutMinutes + workflowTimeoutMarginMinutes :=
          Nat.add_le_add_right (Nat.mul_le_mul_right _ fewer) _
      _ ≤ opts.budgetMinutes := accepted
  · rw [remedy_of_refused refused] at named
    split at named
    · rename_i room
      rw [← Remedy.raise.inj named]
      have least : 0 < ⌈(opts.replicates : ℚ) / maxWaves opts⌉₊ := by
        rw [Nat.ceil_pos]
        have held : (0 : ℚ) < maxWaves opts := by exact_mod_cast Int.lt_of_lt_of_le one_pos room
        exact div_pos (by exact_mod_cast some) held
      refine ⟨⟨WithTop.coe_pos.mpr least, ?_⟩, fun cap' fits => ?_⟩
      · exact (accepted_iff_cap some timeout (WithTop.coe_pos.mpr least) room).mpr le_rfl
      · exact (accepted_iff_cap some timeout fits.1 room).mp fits.2
    · cases named
  · rw [remedy_of_refused refused]
    split
    · rename_i room
      have whole : Accepted opts ⊤ := (accepted_iff_cap some timeout WithTop.top_pos room).mpr le_top
      refine iff_of_false (by simp) fun none => none ⊤ WithTop.top_pos whole
    · rename_i full
      exact iff_of_true rfl fun cap' positive' =>
        not_accepted_of_no_room some timeout positive' full

/-- Twelve replicates of a ninety-minute suite do not fit a three-hour job under a cap of five. -/
def realworldOptions : FleetOptions := ⟨12, WithTop.some 5, "realworld-mastra", 90, 180⟩

theorem fleetBudgetError_exact_realworld : Exact realworldOptions :=
  fleetBudgetError_exact (by decide) (by decide)

example : (fleetBudgetError realworldOptions).map (·.remedy) = some (.raise 12) := by
  decide +kernel

end FleetBudget
