import SandboxBenchmarks.AggregateSamples
import SandboxBenchmarks.Library.CodeUnits
import SandboxBenchmarks.SelectMedian

/-!
# Bootstrapped intervals around a median

`bootstrapMedianInterval`, `clusterMedianInterval` and
`hierarchicalBootstrapMedianInterval` of `packages/schema/src/analysis.ts`. The
draws are a parameter, numbered in the order of the calls. A read that would give
`undefined` and a write that a typed array would drop stop the computation.
-/

namespace BootstrapIntervals

open AggregateSamples Checks OrderStatistics RunModel SelectMedian

inductive Failure where
  | thrown (message : String)
  /-- outside a sample or an array -/
  | outside
  /-- a selection was cut off -/
  | unfinished
deriving DecidableEq, Repr

def defaultResamples : ℚ := 10000

/-- The options without the seed, and how a number is printed in a message. -/
structure Options where
  resamples : Option ℚ
  level : Option ℚ
  numberText : ℚ → String

structure MedianInterval where
  median : ℚ
  lo : ℚ
  hi : ℚ
  level : ℚ
  resamples : ℕ
deriving DecidableEq, Repr

def refuseIf (bad : Prop) [Decidable bad] (message : String) : Except Failure Unit :=
  throwIf bad (.thrown message)

def assertFiniteSamples (fn : String) (samples : List ℚ) : Except Failure Unit :=
  refuseIf (samples.length = 0) s!"{fn}() requires at least one sample"

def assertReplicates (fn : String) (replicates : List (List ℚ)) : Except Failure Unit := do
  refuseIf (replicates.length = 0) s!"{fn}() requires at least one replicate"
  replicates.forM (assertFiniteSamples fn)

def coverageLevel (fn : String) (options : Options) : Except Failure ℚ := do
  let resolved := options.level.getD ninetyFifth
  let got := options.numberText resolved
  refuseIf (¬(0 < resolved ∧ resolved < 1)) s!"{fn}() requires level in (0, 1); got {got}"
  return resolved

def resampleCount (fn : String) (options : Options) : Except Failure ℕ := do
  let resamples := options.resamples.getD defaultResamples
  let got := options.numberText resamples
  refuseIf (resamples.den ≠ 1 ∨ resamples < 1)
    s!"{fn}() requires resamples to be a positive integer; got {got}"
  return resamples.num.toNat

/-! ### Random numbers -/

/-- The state that the seed is hashed to. -/
def seedState (seed : String) : UInt32 :=
  (CodeUnits.units seed).foldl (fun h unit => (h ^^^ UInt32.ofNat unit) * 16777619) 2166136261

/-- The `n`-th draw, counted from zero: `state` has been increased `n + 1` times. -/
def seededRng (seed : String) (n : ℕ) : ℚ :=
  let t := seedState seed + UInt32.ofNat (n + 1) * 0x6d2b79f5
  let t := (t ^^^ (t >>> 15)) * (t ||| 1)
  let t := t ^^^ (t + (t ^^^ (t >>> 7)) * (t ||| 61))
  ((t ^^^ (t >>> 14)).toNat : ℚ) / 4294967296

/-! ### Resampling -/

section Resampling

variable (rng : ℕ → ℚ)

/-- `source[Math.floor(rng() * source.length)]` -/
def pick {α : Type} (source : List α) (u : ℚ) : Except Failure α :=
  let i := ⌊u * source.length⌋
  if 0 ≤ i then require source[i.toNat]? .outside else .error .outside

def store (buffer : List ℚ) (i : ℕ) (x : ℚ) : Except Failure (List ℚ) :=
  if i < buffer.length then .ok (buffer.set i x) else .error .outside

/-- `count` draws with replacement, written from `start` on. -/
def drawInto (source : List ℚ) : ℕ → ℕ → ℕ → List ℚ → Except Failure (ℕ × List ℚ)
  | 0, _, calls, buffer => .ok (calls, buffer)
  | count + 1, start, calls, buffer => do
    let x ← pick source (rng calls)
    let buffer ← store buffer start x
    drawInto source count (start + 1) (calls + 1) buffer

def median (buffer : List ℚ) (length : ℕ) : Except Failure (ℚ × List ℚ) :=
  require (medianInPlace buffer length) .unfinished

/-- A flat resample: its median, the calls made so far and the scratch buffer left. -/
def resampleMedian (source : List ℚ) (calls : ℕ) (draw : List ℚ) :
    Except Failure (ℚ × ℕ × List ℚ) := do
  let (calls, draw) ← drawInto rng source source.length 0 calls draw
  let (value, draw) ← median draw source.length
  return (value, calls, draw)

/-- The clusters drawn one after the other into the pool. -/
def drawClusters (replicates : List (List ℚ)) :
    ℕ → ℕ → ℕ → List ℚ → Except Failure (ℕ × ℕ × List ℚ)
  | 0, size, calls, pool => .ok (size, calls, pool)
  | count + 1, size, calls, pool => do
    let chosen ← pick replicates (rng calls)
    let (calls, pool) ← drawInto rng chosen chosen.length size (calls + 1) pool
    drawClusters replicates count (size + chosen.length) calls pool

def hierarchicalResampleMedian (replicates : List (List ℚ)) (calls : ℕ) (pool : List ℚ) :
    Except Failure (ℚ × ℕ × List ℚ) := do
  let (size, calls, pool) ← drawClusters rng replicates replicates.length 0 calls pool
  let (value, pool) ← median pool size
  return (value, calls, pool)

def resamplePool (replicates : List (List ℚ)) : List ℚ :=
  let longest := replicates.foldl (fun longest replicate => max longest replicate.length) 0
  List.replicate (replicates.length * longest) 0

/-- The loop that fills `medians`. -/
def fillMedians (one : ℕ → List ℚ → Except Failure (ℚ × ℕ × List ℚ)) :
    ℕ → ℕ → ℕ → List ℚ → List ℚ → Except Failure (List ℚ)
  | 0, _, _, _, medians => .ok medians
  | count + 1, b, calls, scratch, medians => do
    let (value, calls, scratch) ← one calls scratch
    let medians ← store medians b value
    fillMedians one count (b + 1) calls scratch medians

def resampledMedians (one : ℕ → List ℚ → Except Failure (ℚ × ℕ × List ℚ)) (scratch : List ℚ)
    (resamples : ℕ) : Except Failure (List ℚ) :=
  fillMedians one resamples 0 0 scratch (List.replicate resamples 0)

def flatMedians (source : List ℚ) : ℕ → Except Failure (List ℚ) :=
  resampledMedians (resampleMedian rng source) (List.replicate source.length 0)

def hierarchicalMedians (replicates : List (List ℚ)) : ℕ → Except Failure (List ℚ) :=
  resampledMedians (hierarchicalResampleMedian rng replicates) (resamplePool replicates)

/-! ### The intervals -/

/-- The interval of the resampled medians, a point where there is one value only. -/
def envelope (observed : List ℚ) (medians : ℕ → Except Failure (List ℚ)) (level : ℚ)
    (resamples : ℕ) : Except Failure MedianInterval := do
  let median := percentileOf observed (1 / 2)
  if observed.length = 1 then
    return { median, lo := median, hi := median, level, resamples := 0 }
  let medians ← medians resamples
  let sorted := sort medians
  let tail := (1 - level) / 2
  return { median, lo := percentile sorted tail, hi := percentile sorted (1 - tail), level, resamples }

def bootstrapMedianInterval (samples : List ℚ) (options : Options) :
    Except Failure MedianInterval := do
  assertFiniteSamples "bootstrapMedianInterval" samples
  let level ← coverageLevel "bootstrapMedianInterval" options
  let resamples ← resampleCount "bootstrapMedianInterval" options
  envelope samples (flatMedians rng samples) level resamples

def sandboxMedians (replicates : List (List ℚ)) : List ℚ :=
  replicates.map (fun replicate => percentileOf replicate (1 / 2))

def clusterMedianInterval (replicates : List (List ℚ)) (options : Options) :
    Except Failure MedianInterval := do
  assertReplicates "clusterMedianInterval" replicates
  let level ← coverageLevel "clusterMedianInterval" options
  let resamples ← resampleCount "clusterMedianInterval" options
  let summaries := sandboxMedians replicates
  envelope summaries (flatMedians rng summaries) level resamples

def hierarchicalBootstrapMedianInterval (replicates : List (List ℚ)) (options : Options) :
    Except Failure MedianInterval := do
  assertReplicates "hierarchicalBootstrapMedianInterval" replicates
  let level ← coverageLevel "hierarchicalBootstrapMedianInterval" options
  let resamples ← resampleCount "hierarchicalBootstrapMedianInterval" options
  envelope replicates.flatten (hierarchicalMedians rng replicates) level resamples

end Resampling

/-! ### Bounds -/

/-- Between the least and the greatest of the values. -/
def Within (values : List ℚ) (x : ℚ) : Prop := (∃ y ∈ values, y ≤ x) ∧ ∃ y ∈ values, x ≤ y

/-- A draw in `[0, 1)`. -/
def UnitDraws (rng : ℕ → ℚ) : Prop := ∀ n, 0 ≤ rng n ∧ rng n < 1

lemma seededRng_unit (seed : String) : UnitDraws (seededRng seed) := by
  have fraction (t : UInt32) :
      0 ≤ (t.toNat : ℚ) / 4294967296 ∧ (t.toNat : ℚ) / 4294967296 < 1 := by
    have bound : (t.toNat : ℚ) < 4294967296 := by exact_mod_cast t.toNat_lt
    exact ⟨by positivity, (div_lt_one (by norm_num)).mpr bound⟩
  exact fun n => fraction _

variable {rng : ℕ → ℚ} {source values : List ℚ}

lemma Within.trans {x : ℚ} (inner : Within source x) (outer : ∀ y ∈ source, Within values y) :
    Within values x := by
  obtain ⟨⟨low, low_mem, low_le⟩, high, high_mem, le_high⟩ := inner
  obtain ⟨⟨y, hy, below⟩, -⟩ := outer low low_mem
  obtain ⟨-, z, hz, above⟩ := outer high high_mem
  exact ⟨⟨y, hy, below.trans low_le⟩, z, hz, le_high.trans above⟩

lemma within_of_mem {x : ℚ} (member : x ∈ values) : Within values x :=
  ⟨⟨x, member, le_refl x⟩, x, member, le_refl x⟩

lemma percentile_within {p : ℚ} (nonempty : values ≠ []) (low : 0 ≤ p) (high : p ≤ 1) :
    Within values (percentile (sort values) p) := by
  have some := sort_ne_nil nonempty
  obtain ⟨above, below⟩ := percentile_mem_range (sort_sorted values) some low high
  exact ⟨⟨_, mem_sort.mp (List.head_mem some), above⟩,
    ⟨_, mem_sort.mp (List.getLast_mem some), below⟩⟩

lemma pick_mem {α : Type} {source : List α} {u : ℚ} (nonempty : source ≠ [])
    (unit : 0 ≤ u ∧ u < 1) :
    ∃ x ∈ source, pick source u = .ok x := by
  have size : (0 : ℚ) < source.length := by exact_mod_cast List.length_pos_iff.mpr nonempty
  have nonneg : 0 ≤ ⌊u * source.length⌋ := Int.floor_nonneg.mpr (mul_nonneg unit.1 size.le)
  have below : ⌊u * source.length⌋.toNat < source.length := by
    rw [Int.toNat_lt nonneg, Int.floor_lt]
    exact mul_lt_of_lt_one_left size unit.2
  refine ⟨source[⌊u * source.length⌋.toNat], List.getElem_mem below, ?_⟩
  rw [pick, if_pos nonneg, require_eq_ok, List.getElem?_eq_getElem below]

lemma store_ok {buffer : List ℚ} {i : ℕ} (inside : i < buffer.length) (x : ℚ) :
    store buffer i x = .ok (buffer.set i x) := if_pos inside

lemma take_set_succ {buffer : List ℚ} {i : ℕ} (inside : i < buffer.length) (x : ℚ) :
    (buffer.set i x).take (i + 1) = buffer.take i ++ [x] := by
  rw [List.take_add_one, List.take_set_of_le (le_refl i), List.getElem?_set_self inside]
  rfl

/-- The prefix that has been written grows by one draw at a time. -/
lemma drawInto_ok (unit : UnitDraws rng) (nonempty : source ≠ []) {count start : ℕ} (calls : ℕ)
    {buffer : List ℚ} (room : start + count ≤ buffer.length) :
    ∃ drawn buffer', drawInto rng source count start calls buffer = .ok (calls + count, buffer') ∧
      buffer'.length = buffer.length ∧ drawn.length = count ∧ (∀ x ∈ drawn, x ∈ source) ∧
      buffer'.take (start + count) = buffer.take start ++ drawn := by
  induction count generalizing start calls buffer with
  | zero => exact ⟨[], buffer, rfl, rfl, rfl, fun x hx => (List.not_mem_nil hx).elim, by simp⟩
  | succ count ih =>
    obtain ⟨x, member, picked⟩ := pick_mem nonempty (unit calls)
    have here : start < buffer.length := by omega
    have after : start + 1 + count ≤ (buffer.set start x).length := by
      rw [List.length_set]
      omega
    obtain ⟨drawn, buffer', ran, size, long, all, written⟩ := ih (calls + 1) after
    refine ⟨x :: drawn, buffer', ?_, by rw [size, List.length_set], by rw [List.length_cons, long],
      ?_, ?_⟩
    · have calls' : calls + (count + 1) = calls + 1 + count := by omega
      rw [drawInto, picked, calls', ← ran]
      dsimp only [bind, Except.bind]
      rw [store_ok here]
    · intro y hy
      rcases List.mem_cons.mp hy with rfl | later
      · exact member
      · exact all y later
    · have shift : start + (count + 1) = start + 1 + count := by omega
      rw [shift, written, take_set_succ here, List.append_assoc, List.singleton_append]

lemma median_ok {buffer : List ℚ} {length : ℕ} (live : 1 ≤ length) (fits : length ≤ buffer.length) :
    ∃ value buffer', median buffer length = .ok (value, buffer') ∧
      buffer'.length = buffer.length ∧ Within (buffer.take length) value := by
  obtain ⟨buffer', value, permuted⟩ := medianInPlace_spec live fits
  have some : buffer.take length ≠ [] := by
    rw [← List.length_pos_iff, List.length_take]
    omega
  refine ⟨_, buffer', ?_, permuted.perm.length_eq, percentile_within some (p := 1 / 2) ?_ ?_⟩
  · rw [median, value]
    rfl
  · norm_num
  · norm_num

/-- What one resample does, of whatever kind. -/
def Resamples (values : List ℚ) (size : ℕ)
    (one : ℕ → List ℚ → Except Failure (ℚ × ℕ × List ℚ)) : Prop :=
  ∀ calls scratch, scratch.length = size → ∃ value calls' scratch',
    one calls scratch = .ok (value, calls', scratch') ∧ scratch'.length = size ∧ Within values value

lemma resampleMedian_resamples (unit : UnitDraws rng) (nonempty : source ≠ []) :
    Resamples source source.length (resampleMedian rng source) := by
  intro calls scratch size
  have room : 0 + source.length ≤ scratch.length := by omega
  obtain ⟨drawn, draw, ran, size', long, all, written⟩ := drawInto_ok unit nonempty calls room
  have fits : source.length ≤ draw.length := by omega
  obtain ⟨value, draw', got, size'', within⟩ :=
    median_ok (List.length_pos_iff.mpr nonempty) fits
  rw [Nat.zero_add, List.take_zero, List.nil_append] at written
  refine ⟨value, calls + source.length, draw', ?_, by omega, ?_⟩
  · rw [resampleMedian, ran]
    dsimp only [bind, Except.bind]
    rw [got]
    rfl
  · rw [written] at within
    exact within.trans (fun y hy => within_of_mem (all y hy))

lemma fillMedians_ok {size : ℕ} {one : ℕ → List ℚ → Except Failure (ℚ × ℕ × List ℚ)}
    (resamples : Resamples values size one) {count b : ℕ} (calls : ℕ) {scratch medians : List ℚ}
    (fits : scratch.length = size) (room : b + count = medians.length)
    (sofar : ∀ m ∈ medians.take b, Within values m) :
    ∃ medians', fillMedians one count b calls scratch medians = .ok medians' ∧
      medians'.length = medians.length ∧ ∀ m ∈ medians', Within values m := by
  induction count generalizing b calls scratch medians with
  | zero =>
    rw [List.take_of_length_le (by omega)] at sofar
    exact ⟨medians, rfl, rfl, sofar⟩
  | succ count ih =>
    obtain ⟨value, calls', scratch', ran, fits', within⟩ := resamples calls scratch fits
    have here : b < medians.length := by omega
    have room' : b + 1 + count = (medians.set b value).length := by
      rw [List.length_set]
      omega
    have sofar' : ∀ m ∈ (medians.set b value).take (b + 1), Within values m := by
      rw [take_set_succ here]
      intro m hm
      rcases List.mem_append.mp hm with earlier | last
      · exact sofar m earlier
      · rw [List.mem_singleton.mp last]
        exact within
    obtain ⟨medians', filled, size', all⟩ := ih calls' fits' room' sofar'
    refine ⟨medians', ?_, by rw [size', List.length_set], all⟩
    rw [fillMedians, ran, ← filled]
    dsimp only [bind, Except.bind]
    rw [store_ok here]

lemma resampledMedians_ok {one : ℕ → List ℚ → Except Failure (ℚ × ℕ × List ℚ)} {scratch : List ℚ}
    (resamples : Resamples values scratch.length one) (count : ℕ) :
    ∃ medians, resampledMedians one scratch count = .ok medians ∧ medians.length = count ∧
      ∀ m ∈ medians, Within values m := by
  have room : 0 + count = (List.replicate count (0 : ℚ)).length := by
    rw [List.length_replicate, Nat.zero_add]
  have filled := fillMedians_ok resamples 0 rfl room
    (fun m hm => by rw [List.take_zero] at hm; cases hm)
  rwa [List.length_replicate] at filled

/-! ### The pool -/

variable {replicates : List (List ℚ)}

def longest (replicates : List (List ℚ)) : ℕ :=
  replicates.foldl (fun longest replicate => max longest replicate.length) 0

lemma length_resamplePool (replicates : List (List ℚ)) :
    (resamplePool replicates).length = replicates.length * longest replicates :=
  List.length_replicate

lemma le_foldl_longest (start : ℕ) (replicates : List (List ℚ)) :
    start ≤ replicates.foldl (fun longest replicate => max longest replicate.length) start := by
  induction replicates generalizing start with
  | nil => exact le_refl start
  | cons first rest ih => exact (le_max_left start first.length).trans (ih _)

lemma length_le_foldl_longest {replicate : List ℚ} (member : replicate ∈ replicates) (start : ℕ) :
    replicate.length ≤
      replicates.foldl (fun longest replicate => max longest replicate.length) start := by
  induction replicates generalizing start with
  | nil => cases member
  | cons first rest ih =>
    rcases List.mem_cons.mp member with rfl | later
    · exact (le_max_right start replicate.length).trans (le_foldl_longest _ rest)
    · exact ih later _

lemma length_le_longest {replicate : List ℚ} (member : replicate ∈ replicates) :
    replicate.length ≤ longest replicates := length_le_foldl_longest member 0

/-- Every drawn cluster still fits, were all of them the longest. -/
lemma drawClusters_ok (unit : UnitDraws rng) (nonempty : replicates ≠ [])
    (each : ∀ replicate ∈ replicates, replicate ≠ []) {count size : ℕ} (calls : ℕ) {pool : List ℚ}
    (room : size + count * longest replicates ≤ pool.length) :
    ∃ drawn calls' pool', drawClusters rng replicates count size calls pool =
        .ok (size + drawn.length, calls', pool') ∧
      pool'.length = pool.length ∧ count ≤ drawn.length ∧
      size + drawn.length ≤ pool.length ∧ (∀ x ∈ drawn, x ∈ replicates.flatten) ∧
      pool'.take (size + drawn.length) = pool.take size ++ drawn := by
  induction count generalizing size calls pool with
  | zero =>
    exact ⟨[], calls, pool, rfl, rfl, le_refl _, by simpa using room,
      fun x hx => (List.not_mem_nil hx).elim, by simp⟩
  | succ count ih =>
    obtain ⟨chosen, member, picked⟩ := pick_mem nonempty (unit calls)
    have live := List.length_pos_iff.mpr (each chosen member)
    have fits := length_le_longest member
    rw [Nat.succ_mul] at room
    have here : size + chosen.length ≤ pool.length := by omega
    obtain ⟨first, pool₁, ran, size₁, long₁, all₁, written₁⟩ :=
      drawInto_ok unit (each chosen member) (calls + 1) here
    have later : size + chosen.length + count * longest replicates ≤ pool₁.length := by omega
    obtain ⟨rest, calls', pool', ran', size', most, fits', all', written'⟩ :=
      ih (calls + 1 + chosen.length) later
    have together : size + (first ++ rest).length = size + chosen.length + rest.length := by
      rw [List.length_append, long₁, Nat.add_assoc]
    refine ⟨first ++ rest, calls', pool', ?_, by omega, ?_, by omega, ?_, ?_⟩
    · rw [drawClusters, picked, together, ← ran']
      dsimp only [bind, Except.bind]
      rw [ran]
    · rw [List.length_append]
      omega
    · intro x hx
      rcases List.mem_append.mp hx with here | later
      · exact List.mem_flatten.mpr ⟨chosen, member, all₁ x here⟩
      · exact all' x later
    · rw [together, written', written₁, List.append_assoc]

lemma hierarchicalResampleMedian_resamples (unit : UnitDraws rng) (nonempty : replicates ≠ [])
    (each : ∀ replicate ∈ replicates, replicate ≠ []) :
    Resamples replicates.flatten (resamplePool replicates).length
      (hierarchicalResampleMedian rng replicates) := by
  intro calls pool size
  rw [length_resamplePool] at size ⊢
  have room : 0 + replicates.length * longest replicates ≤ pool.length := by omega
  obtain ⟨drawn, calls', pool', ran, size', most, fits, all, written⟩ :=
    drawClusters_ok unit nonempty each calls room
  have some := List.length_pos_iff.mpr nonempty
  rw [Nat.zero_add] at ran fits written
  have live : 1 ≤ drawn.length := by omega
  have fits' : drawn.length ≤ pool'.length := by omega
  obtain ⟨value, pool'', got, size'', within⟩ := median_ok live fits'
  rw [List.take_zero, List.nil_append] at written
  refine ⟨value, calls', pool'', ?_, by omega, ?_⟩
  · rw [hierarchicalResampleMedian, ran]
    dsimp only [bind, Except.bind]
    rw [got]
    rfl
  · rw [written] at within
    exact within.trans (fun y hy => within_of_mem (all y hy))

/-! ### The envelope -/

/-- Options that pass their checks. -/
structure Options.Valid (options : Options) : Prop where
  level : 0 < options.level.getD ninetyFifth ∧ options.level.getD ninetyFifth < 1
  resamples : ∃ n : ℕ, 1 ≤ n ∧ options.resamples.getD defaultResamples = n

variable {fn : String} {options : Options}

/-- Nothing but a refusal can stop it. -/
def Safe {α : Type} (computation : Except Failure α) : Prop :=
  ∀ failure, computation = .error failure → ∃ message, failure = .thrown message

lemma safe_ok {α : Type} (a : α) : Safe (.ok a) := fun _ stopped => by cases stopped

lemma safe_refuseIf (bad : Prop) [Decidable bad] (message : String) :
    Safe (refuseIf bad message) := by
  intro failure stopped
  exact ⟨message, (throwIf_eq_error.mp stopped).2.symm⟩

lemma Safe.bind {α β : Type} {first : Except Failure α} {next : α → Except Failure β}
    (safe : Safe first) (rest : ∀ a, first = .ok a → Safe (next a)) : Safe (first >>= next) := by
  cases first with
  | error failure =>
    intro failure' stopped
    cases stopped
    exact safe failure rfl
  | ok a => exact rest a rfl

lemma safe_assertReplicates (replicates : List (List ℚ)) : Safe (assertReplicates fn replicates) := by
  have each : Safe (replicates.forM (assertFiniteSamples fn)) := by
    induction replicates with
    | nil => exact safe_ok _
    | cons first rest ih => exact (safe_refuseIf _ _).bind fun _ _ => ih
  exact (safe_refuseIf _ _).bind fun _ _ => each

lemma assertReplicates_eq_ok {u : Unit} :
    assertReplicates fn replicates = .ok u ↔
      replicates ≠ [] ∧ ∀ replicate ∈ replicates, replicate ≠ [] := by
  simp [assertReplicates, refuseIf, assertFiniteSamples, bind_eq_ok, forM_eq_ok]

lemma coverageLevel_eq_ok {level : ℚ} :
    coverageLevel fn options = .ok level ↔
      (0 < options.level.getD ninetyFifth ∧ options.level.getD ninetyFifth < 1) ∧
        options.level.getD ninetyFifth = level := by
  simp [coverageLevel, refuseIf]

lemma resampleCount_eq_ok {n : ℕ} :
    resampleCount fn options = .ok n ↔
      1 ≤ n ∧ options.resamples.getD defaultResamples = n := by
  simp only [resampleCount, refuseIf, bind_eq_ok, throwIf_eq_ok, pure_eq_ok, not_or, not_not, not_lt]
  generalize options.resamples.getD defaultResamples = q
  constructor
  · rintro ⟨-, ⟨whole, positive⟩, rfl⟩
    have value := Rat.coe_int_num_of_den_eq_one whole
    have nonneg : 0 < q.num := by
      rw [Rat.num_pos]
      linarith
    have same : ((q.num.toNat : ℕ) : ℚ) = q := by
      rw [← value]
      exact_mod_cast Int.toNat_of_nonneg nonneg.le
    exact ⟨by omega, same.symm⟩
  · rintro ⟨positive, rfl⟩
    exact ⟨(), ⟨Rat.den_natCast n, by exact_mod_cast positive⟩, by simp⟩

/-- Both ends between the least and the greatest of the values, in their order. -/
structure Bounded (values : List ℚ) (interval : MedianInterval) : Prop where
  order : interval.lo ≤ interval.hi
  lo : Within values interval.lo
  hi : Within values interval.hi

/-- Every resampling of any number of rounds runs to its end between the values. -/
def Bounding (values : List ℚ) (medians : ℕ → Except Failure (List ℚ)) : Prop :=
  ∀ count, ∃ found, medians count = .ok found ∧ found.length = count ∧
    ∀ m ∈ found, Within values m

lemma flatMedians_bounding (unit : UnitDraws rng) (nonempty : source ≠ []) :
    Bounding source (flatMedians rng source) := by
  have resamples := resampleMedian_resamples unit nonempty
  rw [← List.length_replicate (n := source.length) (a := (0 : ℚ))] at resamples
  exact resampledMedians_ok resamples

lemma hierarchicalMedians_bounding (unit : UnitDraws rng) (nonempty : replicates ≠ [])
    (each : ∀ replicate ∈ replicates, replicate ≠ []) :
    Bounding replicates.flatten (hierarchicalMedians rng replicates) :=
  resampledMedians_ok (hierarchicalResampleMedian_resamples unit nonempty each)

lemma envelope_ok {medians : ℕ → Except Failure (List ℚ)} {level : ℚ} {resamples : ℕ}
    (some : values ≠ []) (bounding : Bounding values medians) (low : 0 < level) (high : level < 1)
    (positive : 1 ≤ resamples) :
    ∃ interval, envelope values medians level resamples = .ok interval ∧ Bounded values interval := by
  rw [envelope]
  split
  · have within : Within values (percentileOf values (1 / 2)) :=
      percentile_within some (by norm_num) (by norm_num)
    exact ⟨_, rfl, le_refl _, within, within⟩
  · obtain ⟨found, ran, long, all⟩ := bounding resamples
    have nonempty : found ≠ [] := by
      rw [← List.length_pos_iff]
      omega
    have between {p : ℚ} (low : 0 ≤ p) (high : p ≤ 1) :
        Within values (percentile (sort found) p) :=
      (percentile_within nonempty low high).trans all
    rw [ran]
    refine ⟨_, rfl, ?_, between (by linarith) (by linarith), between (by linarith) (by linarith)⟩
    exact percentile_mono (sort_sorted found) (sort_ne_nil nonempty) (by linarith) (by linarith)
      (by linarith)

/-- What is promised of an interval: it is returned where its checks pass, it is bounded, and
nothing but a failed check prevents it. -/
structure Settles (accepts : Prop) (values : List ℚ) (result : Except Failure MedianInterval) :
    Prop where
  runs : accepts → ∃ interval, result = .ok interval
  bounded : ∀ interval, result = .ok interval → Bounded values interval
  safe : Safe result

lemma settles_of_check {check : Except Failure Unit} {medians : ℕ → Except Failure (List ℚ)}
    {accepts : Prop} (safe : Safe check) (passes : check = .ok () ↔ accepts)
    (ready : accepts → values ≠ [] ∧ Bounding values medians) :
    Settles (accepts ∧ options.Valid) values (do
      check
      let level ← coverageLevel fn options
      let resamples ← resampleCount fn options
      envelope values medians level resamples) := by
  refine ⟨?_, ?_, ?_⟩
  · rintro ⟨accepted, ⟨low, high⟩, n, positive, same⟩
    obtain ⟨some, bounding⟩ := ready accepted
    obtain ⟨interval, ran, -⟩ := envelope_ok some bounding low high positive
    refine ⟨interval, ?_⟩
    rw [passes.mpr accepted, ok_bind, coverageLevel_eq_ok.mpr ⟨⟨low, high⟩, rfl⟩, ok_bind,
      resampleCount_eq_ok.mpr ⟨positive, same⟩, ok_bind, ran]
  · intro interval returned
    simp only [bind_eq_ok] at returned
    obtain ⟨_, passed, level, covered, n, counted, ran⟩ := returned
    obtain ⟨⟨low, high⟩, rfl⟩ := coverageLevel_eq_ok.mp covered
    obtain ⟨some, bounding⟩ := ready (passes.mp passed)
    obtain ⟨interval', ran', bounded⟩ := envelope_ok some bounding low high
      (resampleCount_eq_ok.mp counted).1
    rw [ran'] at ran
    exact Except.ok.inj ran ▸ bounded
  · refine safe.bind fun _ passed => ?_
    refine Safe.bind ((safe_refuseIf _ _).bind fun _ _ => safe_ok _) fun level covered => ?_
    refine Safe.bind ((safe_refuseIf _ _).bind fun _ _ => safe_ok _) fun n counted => ?_
    obtain ⟨⟨low, high⟩, rfl⟩ := coverageLevel_eq_ok.mp covered
    obtain ⟨some, bounding⟩ := ready (passes.mp passed)
    obtain ⟨interval, ran, -⟩ := envelope_ok some bounding low high (resampleCount_eq_ok.mp counted).1
    rw [ran]
    exact safe_ok interval

/-- At least one sandbox, and each with at least one sample. -/
def Sampled (replicates : List (List ℚ)) : Prop :=
  replicates ≠ [] ∧ ∀ replicate ∈ replicates, replicate ≠ []

lemma sandboxMedians_ne_nil (nonempty : replicates ≠ []) : sandboxMedians replicates ≠ [] := by
  rwa [sandboxMedians, ne_eq, List.map_eq_nil_iff]

lemma flatten_ne_nil (sampled : Sampled replicates) : replicates.flatten ≠ [] := by
  obtain ⟨some, each⟩ := sampled
  obtain ⟨first, rest, rfl⟩ := List.exists_cons_of_ne_nil some
  rw [List.flatten_cons]
  exact List.append_ne_nil_of_left_ne_nil (each first List.mem_cons_self) _

end BootstrapIntervals
