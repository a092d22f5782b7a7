import Mathlib

/-!
# Sums of doubles

What doubles added from the left come to. The double of a sum is its exact value as long as
no addition rounds, and none does between multiples of one power of two that stay below
`2 ^ 53` of it.
-/

namespace DoubleSums

open Float.Model Float.Model.UnpackedFloat

/-- The number a finite double stands for. -/
def unpackedValue : UnpackedFloat → ℚ
  | .finite sign mantissa exponent _ => sign.apply mantissa * 2 ^ exponent
  | _ => 0

@[simp]
theorem unpackedValue_zero (sign : Sign) : unpackedValue (.zero sign) = 0 := rfl

@[simp]
theorem unpackedValue_finite (sign : Sign) (mantissa : ℕ) (exponent : ℤ)
    (positive : 0 < mantissa) : unpackedValue (.finite sign mantissa exponent positive) =
      sign.apply mantissa * 2 ^ exponent := rfl

def value (x : Float) : ℚ := unpackedValue x.toModel.unpack

/-- The sum of doubles from the left, as long as it is finite. -/
def runningSum (sum : Float) : List Float → Option Float
  | [] => some sum
  | amount :: rest =>
    if (sum + amount).isFinite then runningSum (sum + amount) rest else none

/-- No addition of the sum rounds. -/
def Unrounded (sum : Float) : List Float → Prop
  | [] => True
  | amount :: rest =>
    value (sum + amount) = value sum + value amount ∧ Unrounded (sum + amount) rest

theorem value_runningSum {amounts : List Float} {sum total : Float}
    (exact : Unrounded sum amounts) (h : runningSum sum amounts = some total) :
    value total = value sum + (amounts.map value).sum := by
  induction amounts generalizing sum with
  | nil => rw [← Option.some.inj h, List.map_nil, List.sum_nil, add_zero]
  | cons amount rest ih =>
    rw [runningSum] at h
    split at h
    · rw [ih exact.2 h, exact.1, List.map_cons, List.sum_cons, add_assoc]
    · cases h

/-! ### Canonical mantissas -/

/-- The mantissa and exponent of a double other than zero. -/
structure Canonical (mantissa : ℕ) (exponent : ℤ) : Prop where
  positive : 0 < mantissa
  short : mantissa < 2 ^ 53
  least : -1074 ≤ exponent
  normal : 2 ^ 52 ≤ mantissa ∨ exponent = -1074

theorem targetExponent_eq (mantissa : ℕ) (exponent : ℤ) :
    Format.binary64.targetExponent (totalExponent mantissa exponent) =
      max (mantissa.log2 + exponent - 52) (-1074) := by
  simp only [Format.targetExponent, totalExponent, Format.mantissaBits, Format.minExponent]
  norm_num
  omega

theorem Canonical.target {mantissa : ℕ} {exponent : ℤ} (canonical : Canonical mantissa exponent) :
    max (mantissa.log2 + exponent - 52) (-1074) = exponent := by
  have below : mantissa.log2 < 53 := (Nat.log2_lt canonical.positive.ne').mpr canonical.short
  have least := canonical.least
  rcases canonical.normal with normal | lowest
  · have above : 52 ≤ mantissa.log2 := (Nat.le_log2 canonical.positive.ne').mpr normal
    omega
  · omega

theorem log2_mul_two_pow {n : ℕ} (nonzero : n ≠ 0) (k : ℕ) : (n * 2 ^ k).log2 = n.log2 + k := by
  have bounds := (Nat.log2_eq_iff nonzero).mp rfl
  refine (Nat.log2_eq_iff (Nat.mul_ne_zero nonzero (by positivity))).mpr ⟨?_, ?_⟩
  · rw [pow_add]
    exact Nat.mul_le_mul_right _ bounds.1
  · rw [Nat.add_right_comm, pow_add]
    exact Nat.mul_lt_mul_of_pos_right bounds.2 (by positivity)

/-- A number of units in canonical form. -/
theorem exists_canonical {n : ℕ} {unit : ℤ} (positive : 0 < n) (short : n < 2 ^ 53)
    (least : -1074 ≤ unit) :
    ∃ k : ℕ, Canonical (n * 2 ^ k) (unit - k) := by
  have below : n.log2 < 53 := (Nat.log2_lt positive.ne').mpr short
  refine ⟨min (52 - n.log2) (unit + 1074).toNat, ?_⟩
  generalize held : min (52 - n.log2) (unit + 1074).toNat = k
  have scaled : (n * 2 ^ k).log2 = n.log2 + k := log2_mul_two_pow positive.ne' k
  have nonzero : n * 2 ^ k ≠ 0 := by positivity
  refine ⟨Nat.pos_of_ne_zero nonzero, ?_, by omega, ?_⟩
  · rw [← Nat.log2_lt nonzero, scaled]
    omega
  · rcases Nat.lt_or_ge (unit + 1074).toNat (52 - n.log2) with low | high
    · right
      omega
    · left
      rw [← Nat.le_log2 nonzero, scaled]
      omega

/-! ### Rounding an exact value -/

theorem shiftRight_exact (mantissa shift : ℕ) :
    (ExtendedMantissa.ofMantissaAndAccuracy (mantissa * 2 ^ shift) .exact) >>> shift =
      ⟨mantissa, false, false⟩ := by
  change shift.repeat ExtendedMantissa.shiftRightOne ⟨mantissa * 2 ^ shift, false, false⟩ = _
  induction shift generalizing mantissa with
  | zero => rw [pow_zero, mul_one, Nat.repeat]
  | succ shift ih =>
    rw [pow_succ', ← mul_assoc, Nat.repeat, ih (mantissa * 2)]
    simp [ExtendedMantissa.shiftRightOne]

/-- Shifting a canonical value that was written with a smaller exponent takes it back. -/
theorem shiftToTargetExponent_canonical {mantissa : ℕ} {exponent : ℤ}
    (canonical : Canonical mantissa exponent) (shift : ℕ) :
    shiftToTargetExponent .binary64 (mantissa * 2 ^ shift) (exponent - shift) .exact =
      (⟨mantissa, false, false⟩, exponent) := by
  have target := canonical.target
  have scaled := log2_mul_two_pow canonical.positive.ne' shift
  have amount : (max (((mantissa * 2 ^ shift).log2 : ℤ) + (exponent - shift) - 52) (-1074) -
      (exponent - shift)).toNat = shift := by
    rw [scaled]
    omega
  rw [shiftToTargetExponent, targetExponent_eq, shiftToExponent]
  simp only [amount, shiftRight_exact, sub_add_cancel]

theorem roundWithAccuracy_canonical {mantissa : ℕ} {exponent : ℤ}
    (canonical : Canonical mantissa exponent) (sign : Sign) (shift : ℕ) :
    roundWithAccuracy .binary64 sign (mantissa * 2 ^ shift) (exponent - shift) .exact =
      .finite sign mantissa exponent canonical.positive := by
  have once := shiftToTargetExponent_canonical canonical shift
  have again := shiftToTargetExponent_canonical canonical 0
  rw [pow_zero, mul_one, Nat.cast_zero, sub_zero] at again
  have kept : (ExtendedMantissa.mk mantissa false false).roundedMantissa = mantissa := rfl
  simp only [roundWithAccuracy, once, kept, again, canonical.positive.ne', dite_false]

/-- Rounding keeps a canonical value, however it is written. -/
theorem round_canonical {mantissa mantissa' : ℕ} {exponent exponent' : ℤ}
    (canonical : Canonical mantissa exponent) (sign : Sign)
    (same : (mantissa' : ℚ) * 2 ^ exponent' = mantissa * 2 ^ exponent) :
    UnpackedFloat.round .binary64 sign mantissa' exponent' =
      .finite sign mantissa exponent canonical.positive := by
  have target := canonical.target
  rcases le_total exponent' exponent with lower | higher
  · obtain ⟨shift, rfl⟩ : ∃ shift : ℕ, exponent' = exponent - shift :=
      ⟨(exponent - exponent').toNat, by omega⟩
    have scaled : mantissa' = mantissa * 2 ^ shift := by
      rw [sub_eq_add_neg, zpow_add₀ two_ne_zero, zpow_neg, zpow_natCast] at same
      field_simp at same
      rw [mul_comm]
      exact_mod_cast same
    have none : (exponent - shift - exponent).toNat = 0 := by omega
    have logs := log2_mul_two_pow canonical.positive.ne' shift
    have held : max (((mantissa * 2 ^ shift).log2 : ℤ) + (exponent - shift) - 52) (-1074) =
        exponent := by
      rw [logs]
      omega
    rw [UnpackedFloat.round, targetExponent_eq, scaled, held]
    simp only [decreaseExponent, none, Nat.shiftLeft_zero, Nat.cast_zero, sub_zero]
    exact roundWithAccuracy_canonical canonical sign shift
  · obtain ⟨shift, rfl⟩ : ∃ shift : ℕ, exponent' = exponent + shift :=
      ⟨(exponent' - exponent).toNat, by omega⟩
    have scaled : mantissa = mantissa' * 2 ^ shift := by
      rw [zpow_add₀ two_ne_zero, zpow_natCast] at same
      field_simp at same
      exact_mod_cast same.symm
    have nonzero : mantissa' ≠ 0 := by
      rintro rfl
      exact canonical.positive.ne' (by rw [scaled, zero_mul])
    have logs := log2_mul_two_pow nonzero shift
    rw [← scaled] at logs
    have held : max ((mantissa'.log2 : ℤ) + (exponent + shift) - 52) (-1074) = exponent := by
      rw [logs] at target
      omega
    have amount : (exponent + shift - exponent).toNat = shift := by omega
    rw [UnpackedFloat.round, targetExponent_eq, held]
    simp only [decreaseExponent, amount, Nat.shiftLeft_eq, ← scaled, add_sub_cancel_right]
    have exact := roundWithAccuracy_canonical canonical sign 0
    rwa [pow_zero, mul_one, Nat.cast_zero, sub_zero] at exact

/-! ### Words -/

theorem implicitBit_append (fraction : BitVec 52) :
    (1#1 ++ fraction).toNat = 2 ^ 52 + fraction.toNat := by
  rw [BitVec.toNat_append, ← Nat.shiftLeft_add_eq_or_of_lt fraction.isLt]
  rfl

theorem canonical_unpack {x : Float.Model} {sign : Sign} {mantissa : ℕ} {exponent : ℤ}
    {positive : 0 < mantissa} (h : x.unpack = .finite sign mantissa exponent positive) :
    Canonical mantissa exponent ∧ exponent ≤ 971 := by
  have fraction : (@unpackMantissa .binary64 x.toBits.toBitVec).toNat < 2 ^ 52 := BitVec.isLt _
  have biased : (@unpackExponent .binary64 x.toBits.toBitVec).toNat < 2 ^ 11 := BitVec.isLt _
  unfold Float.Model.unpack UnpackedFloat.unpack at h
  simp only at h
  split at h
  · split at h <;> cases h
  · rename_i bounded
    split at h
    · rename_i subnormal
      split at h
      · cases h
      · injection h with _ held lowest
        subst held lowest
        simp only [subnormal]
        exact ⟨⟨positive, by omega, by decide, Or.inr (by decide)⟩, by decide⟩
    · rename_i normal
      injection h with _ held raised
      have least : 0 < (@unpackExponent .binary64 x.toBits.toBitVec).toNat := by
        rw [Nat.pos_iff_ne_zero]
        exact fun zero => normal (BitVec.eq_of_toNat_eq zero)
      have most : (@unpackExponent .binary64 x.toBits.toBitVec).toNat ≠ 2047 :=
        fun last => bounded (BitVec.eq_of_toNat_eq last)
      have bias : ((Format.binary64.exponentBias : ℤ) +
          Format.binary64.mantissaBitsWithoutImplicit) = 1075 := by decide
      rw [implicitBit_append] at held
      rw [bias] at raised
      subst held raised
      exact ⟨⟨positive, by omega, by omega, Or.inl (by omega)⟩, by omega⟩

theorem sign_packComponents {spec : Format} (sign : Sign) (exponent : BitVec spec.exponentBits)
    (fraction : BitVec spec.mantissaBitsWithoutImplicit) :
    Sign.ofBitVec (unpackSign (packComponents spec sign exponent fraction)) = sign := by
  have bit : unpackSign (packComponents spec sign exponent fraction) = sign.toBitVec := by
    ext i hi
    obtain rfl : i = 0 := by omega
    simp [unpackSign, packComponents, BitVec.getLsbD_append, BitVec.getElem_append]
  rw [bit]
  cases sign <;> rfl

theorem unpack_normal (sign : Sign) {exponent : BitVec 11} (fraction : BitVec 52)
    (least : exponent ≠ 0#11) (bounded : exponent ≠ -1#11) :
    UnpackedFloat.unpack .binary64 (packComponents .binary64 sign exponent fraction) =
      .finite sign (2 ^ 52 + fraction.toNat) (exponent.toNat - 1075) (by omega) := by
  unfold UnpackedFloat.unpack
  simp only [unpackMantissa_packComponents, unpackExponent_packComponents, sign_packComponents]
  rw [if_neg bounded, if_neg least]
  congr 1
  exact implicitBit_append fraction

theorem unpack_subnormal (sign : Sign) {fraction : BitVec 52} (nonzero : 0 < fraction.toNat) :
    UnpackedFloat.unpack .binary64 (packComponents .binary64 sign 0#11 fraction) =
      .finite sign fraction.toNat (-1074) nonzero := by
  have some : fraction ≠ 0#52 := by
    rintro rfl
    exact absurd nonzero (by decide)
  unfold UnpackedFloat.unpack
  simp only [unpackMantissa_packComponents, unpackExponent_packComponents, sign_packComponents]
  rw [if_neg (by decide), if_pos trivial, dif_neg some]
  congr 1

theorem unpack_pack {mantissa : ℕ} {exponent : ℤ} (canonical : Canonical mantissa exponent)
    (bounded : exponent ≤ 971) (sign : Sign) :
    (Float.Model.pack (.finite sign mantissa exponent canonical.positive)).unpack =
      .finite sign mantissa exponent canonical.positive := by
  have word : ∀ unpacked, (Float.Model.pack unpacked).unpack =
    UnpackedFloat.unpack .binary64 (UnpackedFloat.pack .binary64 unpacked) := fun _ => rfl
  have short := canonical.short
  have least := canonical.least
  have bias : exponent + Format.binary64.exponentBias +
      Format.binary64.mantissaBitsWithoutImplicit = exponent + 1075 := by
    rw [add_assoc]
    congr 1
  have fits : ¬ 2 ^ Format.binary64.exponentBits ≤ (exponent + 1075).toNat + 1 := by
    change ¬ 2 ^ 11 ≤ _
    omega
  rw [word, UnpackedFloat.pack]
  simp only [bias, if_neg fits]
  by_cases normal : 2 ^ 52 ≤ mantissa
  · have bits : mantissa.log2 + 1 = Format.binary64.mantissaBits := by
      change _ = 53
      rw [(Nat.log2_eq_iff canonical.positive.ne').mpr ⟨normal, short⟩]
    have biased : (BitVec.ofNat 11 (exponent + 1075).toNat).toNat = (exponent + 1075).toNat := by
      rw [BitVec.toNat_ofNat]
      omega
    have low : BitVec.ofNat 11 (exponent + 1075).toNat ≠ 0#11 := by
      intro zero
      rw [zero, BitVec.toNat_zero] at biased
      omega
    have high : BitVec.ofNat 11 (exponent + 1075).toNat ≠ -1#11 := by
      intro last
      rw [last, show (-1#11).toNat = 2047 from by decide] at biased
      omega
    have fraction : 2 ^ 52 + (BitVec.ofNat 52 mantissa).toNat = mantissa := by
      rw [BitVec.toNat_ofNat]
      omega
    have taken : ((exponent + 1075).toNat : ℤ) - 1075 = exponent := by omega
    rw [if_pos bits, unpack_normal sign _ low high]
    simp only [fraction, biased, taken]
  · have lowest := canonical.normal.resolve_left normal
    have bits : mantissa.log2 + 1 ≠ Format.binary64.mantissaBits := by
      change _ ≠ 53
      have below := (Nat.log2_lt canonical.positive.ne').mpr (Nat.lt_of_not_le normal)
      omega
    have held : (BitVec.ofNat 52 mantissa).toNat = mantissa := by
      rw [BitVec.toNat_ofNat, Nat.mod_eq_of_lt (Nat.lt_of_not_le normal)]
    rw [if_neg bits, unpack_subnormal sign (by rw [held]; exact canonical.positive)]
    simp only [held, lowest]

/-! ### Sums in units -/

/-- A finite double that is a number of units of `2 ^ unit`. -/
structure InUnits (unit : ℤ) (n : ℕ) (x : Float) : Prop where
  finite : x.isFinite = true
  value_eq : value x = n * 2 ^ unit

theorem unpack_add (x y : Float) : (x + y).toModel.unpack = (Float.Model.pack
    (UnpackedFloat.add .binary64 x.toModel.unpack y.toModel.unpack)).unpack := rfl

theorem InUnits.of_finite {x : Float} {mantissa n : ℕ} {exponent unit : ℤ}
    {positive : 0 < mantissa}
    (held : x.toModel.unpack = .finite .positive mantissa exponent positive)
    (same : (mantissa : ℚ) * 2 ^ exponent = n * 2 ^ unit) : InUnits unit n x := by
  refine ⟨?_, ?_⟩
  · change x.toModel.unpack.isFinite = true
    rw [held]
    rfl
  · rw [value, held, unpackedValue_finite, ← same]
    rfl

theorem InUnits.of_zero {x : Float} {sign : Sign} {unit : ℤ}
    (held : x.toModel.unpack = .zero sign) : InUnits unit 0 x := by
  refine ⟨?_, ?_⟩
  · change x.toModel.unpack.isFinite = true
    rw [held]
    rfl
  · rw [value, held, unpackedValue_zero, Nat.cast_zero, zero_mul]

/-- A number of units is zero, or has a positive mantissa. -/
theorem InUnits.unpack {unit : ℤ} {n : ℕ} {x : Float} (units : InUnits unit n x) :
    (n = 0 ∧ ∃ sign, x.toModel.unpack = .zero sign) ∨
      ∃ mantissa exponent positive, 0 < n ∧
        x.toModel.unpack = .finite .positive mantissa exponent positive ∧
        (mantissa : ℚ) * 2 ^ exponent = n * 2 ^ unit := by
  have finite : x.toModel.unpack.isFinite = true := units.finite
  have same := units.value_eq
  have scale : (0 : ℚ) < 2 ^ unit := zpow_pos two_pos unit
  rw [value] at same
  cases held : x.toModel.unpack with
  | infinity sign => rw [held] at finite; cases finite
  | notANumber => rw [held] at finite; cases finite
  | zero sign =>
    rw [held, unpackedValue_zero] at same
    have none : (n : ℚ) = 0 := by
      rcases mul_eq_zero.mp same.symm with none | none
      · exact none
      · exact absurd none scale.ne'
    exact Or.inl ⟨by exact_mod_cast none, sign, rfl⟩
  | finite sign mantissa exponent positive =>
    rw [held, unpackedValue_finite] at same
    have more : (0 : ℚ) < mantissa * 2 ^ exponent :=
      mul_pos (by exact_mod_cast positive) (zpow_pos two_pos exponent)
    have least : (0 : ℚ) ≤ n * 2 ^ unit := mul_nonneg (Nat.cast_nonneg n) scale.le
    cases sign with
    | negative =>
      simp only [Sign.apply, Int.cast_neg, Int.cast_natCast, neg_mul] at same
      linarith
    | positive =>
      simp only [Sign.apply, Int.cast_natCast] at same
      refine Or.inr ⟨mantissa, exponent, positive, ?_, rfl, same⟩
      rw [Nat.pos_iff_ne_zero]
      rintro rfl
      rw [Nat.cast_zero, zero_mul] at same
      linarith

theorem unpack_pack_zero (sign : Sign) : (Float.Model.pack (.zero sign)).unpack = .zero sign := by
  cases sign <;> rfl

theorem decreaseExponent_value {mantissa : ℕ} {exponent target : ℤ} (lower : target ≤ exponent) :
    ((decreaseExponent mantissa exponent target).1 : ℚ) * 2 ^ target = mantissa * 2 ^ exponent := by
  obtain ⟨shift, rfl⟩ : ∃ shift : ℕ, exponent = target + shift :=
    ⟨(exponent - target).toNat, by omega⟩
  have amount : (target + shift - target).toNat = shift := by omega
  simp only [decreaseExponent, amount, Nat.shiftLeft_eq, Nat.cast_mul, Nat.cast_pow,
    Nat.cast_ofNat]
  rw [zpow_add₀ two_ne_zero, zpow_natCast]
  ring

theorem add_zero_left (sign sign' : Sign) {mantissa : ℕ} {exponent : ℤ}
    (positive : 0 < mantissa) :
    UnpackedFloat.add .binary64 (.zero sign) (.finite sign' mantissa exponent positive) =
      .finite sign' mantissa exponent positive := rfl

theorem add_zero_right (sign sign' : Sign) {mantissa : ℕ} {exponent : ℤ}
    (positive : 0 < mantissa) :
    UnpackedFloat.add .binary64 (.finite sign mantissa exponent positive) (.zero sign') =
      .finite sign mantissa exponent positive := rfl

theorem normalize_positive {mantissa : ℕ} (positive : 0 < mantissa) (exponent : ℤ) :
    UnpackedFloat.normalize .binary64 mantissa exponent .positive =
      UnpackedFloat.round .binary64 .positive mantissa exponent := by
  have greater : compare (mantissa : ℤ) 0 = .gt := by
    rw [compare_gt_iff_gt]
    exact_mod_cast positive
  simp only [UnpackedFloat.normalize, greater, Int.toNat_natCast]

theorem add_finite {mantissa mantissa' : ℕ} {exponent exponent' : ℤ}
    {positive : 0 < mantissa} {positive' : 0 < mantissa'} {total : ℕ} {common : ℤ}
    (canonical : Canonical total common)
    (same : (mantissa : ℚ) * 2 ^ exponent + mantissa' * 2 ^ exponent' = total * 2 ^ common) :
    UnpackedFloat.add .binary64 (.finite .positive mantissa exponent positive)
      (.finite .positive mantissa' exponent' positive') =
        .finite .positive total common canonical.positive := by
  have left := @decreaseExponent_value mantissa _ _ (min_le_left exponent exponent')
  have right := @decreaseExponent_value mantissa' _ _ (min_le_right exponent exponent')
  rw [← left, ← right, ← add_mul, ← Nat.cast_add] at same
  have unfolded : UnpackedFloat.add .binary64 (.finite .positive mantissa exponent positive)
      (.finite .positive mantissa' exponent' positive') =
      UnpackedFloat.normalize .binary64
        (((decreaseExponent mantissa exponent (min exponent exponent')).1 +
          (decreaseExponent mantissa' exponent' (min exponent exponent')).1 : ℕ) : ℤ)
        (min exponent exponent') .positive := rfl
  rw [unfolded, normalize_positive]
  · exact round_canonical canonical .positive same
  · rw [Nat.pos_iff_ne_zero]
    intro none
    have more : (0 : ℚ) < total * 2 ^ common :=
      mul_pos (by exact_mod_cast canonical.positive) (zpow_pos two_pos common)
    rw [← same, none, Nat.cast_zero, zero_mul] at more
    exact lt_irrefl _ more

/-- The sum of two numbers of units is exact. -/
theorem InUnits.add {unit : ℤ} {m n : ℕ} {x y : Float} (units : InUnits unit m x)
    (units' : InUnits unit n y) (least : -1074 ≤ unit) (most : unit ≤ 971)
    (short : m + n < 2 ^ 53) : InUnits unit (m + n) (x + y) := by
  have word := unpack_add x y
  rcases units.unpack with ⟨rfl, sign, zero⟩ | ⟨mantissa, exponent, positive, some, held, same⟩
  · rcases units'.unpack with
      ⟨rfl, sign', zero'⟩ | ⟨mantissa', exponent', positive', _, held', same'⟩
    · rw [zero, zero', UnpackedFloat.add] at word
      split at word
      · exact InUnits.of_zero (word.trans (unpack_pack_zero _))
      · exact InUnits.of_zero (word.trans (unpack_pack_zero _))
    · obtain ⟨canonical, bounded⟩ := canonical_unpack held'
      rw [zero, held', add_zero_left, unpack_pack canonical bounded] at word
      rw [zero_add]
      exact InUnits.of_finite word same'
  · rcases units'.unpack with
      ⟨rfl, sign', zero'⟩ | ⟨mantissa', exponent', positive', _, held', same'⟩
    · obtain ⟨canonical, bounded⟩ := canonical_unpack held
      rw [zero', held, add_zero_right, unpack_pack canonical bounded] at word
      exact InUnits.of_finite word same
    · obtain ⟨k, canonical⟩ := exists_canonical (n := m + n) (by omega) short least
      have scaled : ((m + n) * 2 ^ k : ℕ) * (2 : ℚ) ^ (unit - k) = (m + n : ℕ) * 2 ^ unit := by
        rw [Nat.cast_mul, Nat.cast_pow, Nat.cast_ofNat, zpow_sub₀ two_ne_zero, zpow_natCast]
        field_simp
      have total : (mantissa : ℚ) * 2 ^ exponent + mantissa' * 2 ^ exponent' =
          ((m + n) * 2 ^ k : ℕ) * 2 ^ (unit - k : ℤ) := by
        rw [same, same', scaled, Nat.cast_add, add_mul]
      rw [held, held', add_finite canonical total, unpack_pack canonical (by omega)] at word
      exact InUnits.of_finite word scaled

/-- Numbers of units that stay below `2 ^ 53` sum up exactly. -/
theorem runningSum_inUnits {amounts : List Float} {counts : List ℕ} {unit : ℤ} {m : ℕ}
    {sum : Float} (least : -1074 ≤ unit) (most : unit ≤ 971) (units : InUnits unit m sum)
    (each : List.Forall₂ (InUnits unit) counts amounts) (short : m + counts.sum < 2 ^ 53) :
    ∃ total, runningSum sum amounts = some total ∧ InUnits unit (m + counts.sum) total := by
  induction each generalizing m sum with
  | nil => exact ⟨sum, rfl, units⟩
  | @cons n amount counts amounts here each ih =>
    rw [List.sum_cons, ← Nat.add_assoc] at short ⊢
    have next := units.add here least most (by omega)
    rw [runningSum, if_pos next.finite]
    exact ih next short

theorem exists_counts {amounts : List Float} {unit : ℤ}
    (each : ∀ amount ∈ amounts, ∃ n, InUnits unit n amount) :
    ∃ counts, List.Forall₂ (InUnits unit) counts amounts ∧
      (amounts.map value).sum = (counts.sum : ℕ) * 2 ^ unit := by
  induction amounts with
  | nil => exact ⟨[], .nil, by simp⟩
  | cons amount amounts ih =>
    obtain ⟨n, here⟩ := each amount List.mem_cons_self
    obtain ⟨counts, rest, sum⟩ := ih fun a member => each a (List.mem_cons_of_mem _ member)
    refine ⟨n :: counts, .cons here rest, ?_⟩
    rw [List.map_cons, List.sum_cons, List.sum_cons, sum, here.value_eq, Nat.cast_add, add_mul]

/-- Doubles that are multiples of one unit, and together less than `2 ^ 53` of it, have their
exact sum. -/
theorem runningSum_exact {amounts : List Float} {unit : ℤ} (least : -1074 ≤ unit)
    (most : unit ≤ 971) (each : ∀ amount ∈ amounts, ∃ n, InUnits unit n amount)
    (short : (amounts.map value).sum < 2 ^ 53 * 2 ^ unit) :
    ∃ total, runningSum 0 amounts = some total ∧ value total = (amounts.map value).sum := by
  obtain ⟨counts, counted, sum⟩ := exists_counts each
  have zero : InUnits unit 0 0 := @InUnits.of_zero 0 .positive unit rfl
  have few : 0 + counts.sum < 2 ^ 53 := by
    rw [sum, mul_lt_mul_iff_left₀ (zpow_pos two_pos unit)] at short
    rw [zero_add]
    exact_mod_cast short
  obtain ⟨total, added, units⟩ := runningSum_inUnits least most zero counted few
  refine ⟨total, added, ?_⟩
  rw [units.value_eq, zero_add, sum]

end DoubleSums
