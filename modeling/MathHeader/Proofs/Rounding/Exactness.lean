import MathHeader.Rounding
import Mathlib.Algebra.Order.Floor.Ring
import Mathlib.Data.Rat.Floor
import Mathlib.Order.Bounds.Defs
import Mathlib.Tactic.FieldSimp
import Mathlib.Tactic.Linarith
import Mathlib.Tactic.Positivity
import Mathlib.Tactic.Ring

/-!
# The roundings are exact

Every rounding formula starts from the truncation, which casts a number to an integer and back if
its magnitude is below a threshold, and leaves it alone from there on.  Over the rational numbers
that is right for each number that the threshold `Covers`: one below it, or one that is an integer
already.  All that the other formulas need to know of the truncation is that it is an integer less
than one away, on the side of zero (`abs_sub_towardZero_lt`).

The threshold of a float type covers all its numbers.  A finite float is a mantissa times a power
of two, and the mantissa has one bit more than the threshold has zeros; if the power is negative
the number lies below the threshold, and otherwise it is an integer (`covers_of_unpack`).  So all
roundings are what they are meant to be: `roundings_exact`.
-/

namespace MathHeader

namespace Format

/-! ## Numbers that a threshold is right for -/

/-- A threshold covers the numbers of a smaller magnitude, and all integers. -/
def Covers (exact x : ℚ) : Prop :=
  |x| < exact ∨ ∃ n : ℤ, x = n

lemma Covers.abs {exact x : ℚ} (h : Covers exact x) : Covers exact |x| := by
  rcases h with hlt | ⟨n, rfl⟩
  · exact .inl ((abs_abs x).trans_lt hlt)
  · exact .inr ⟨|n|, Int.cast_abs.symm⟩

lemma Covers.neg {exact x : ℚ} (h : Covers exact x) : Covers exact (-x) := by
  rcases h with hlt | ⟨n, rfl⟩
  · exact .inl ((abs_neg x).trans_lt hlt)
  · exact .inr ⟨-n, (Int.cast_neg n).symm⟩

lemma abs_eq (exact x : ℚ) : (rational exact).abs x = |x| := by
  change (if x < 0 then -x else x) = |x|
  split
  next hneg => exact (abs_of_neg hneg).symm
  next hpos => exact (abs_of_nonneg (not_lt.1 hpos)).symm

/-! ## The truncation -/

/-- The number rounded toward zero. -/
def towardZero (x : ℚ) : ℤ :=
  if x < 0 then ⌈x⌉ else ⌊x⌋

lemma towardZero_intCast (n : ℤ) : towardZero n = n := by
  simp [towardZero]

lemma towardZero_neg (x : ℚ) : towardZero (-x) = -towardZero x := by
  rcases lt_trichotomy x 0 with hneg | rfl | hpos
  · rw [towardZero, towardZero, if_pos hneg, if_neg (by linarith), Int.floor_neg]
  · rfl
  · rw [towardZero, towardZero, if_pos (by linarith), if_neg (by linarith), Int.ceil_neg]

/-- The quotient of numerator and denominator is truncated like the number. -/
lemma throughInt_eq (exact x : ℚ) : (rational exact).throughInt x = towardZero x := by
  change ((x.num.tdiv x.den : ℤ) : ℚ) = towardZero x
  rw [towardZero, Int.cast_inj]
  split
  next hneg =>
    have hnum : 0 ≤ -x.num := Int.neg_nonneg.2 (Rat.num_neg.2 hneg).le
    have hceil : ⌈x⌉ = -((-x.num) / x.den) := by
      rw [← Rat.num_neg_eq_neg_num, ← Rat.den_neg_eq_den x, ← Rat.floor_def', Int.floor_neg,
        neg_neg]
    rw [hceil, ← Int.tdiv_eq_ediv_of_nonneg hnum, Int.neg_tdiv, neg_neg]
  next hpos =>
    have hnum : 0 ≤ x.num := Rat.num_nonneg.2 (not_lt.1 hpos)
    rw [Rat.floor_def', Int.tdiv_eq_ediv_of_nonneg hnum]

/-- The truncation is less than one away. -/
lemma abs_sub_towardZero_lt (x : ℚ) : |x - towardZero x| < 1 := by
  unfold towardZero
  rw [abs_lt]
  split
  · have := Int.le_ceil x
    have := Int.ceil_lt_add_one x
    constructor <;> linarith
  · have := Int.floor_le x
    have := Int.lt_floor_add_one x
    constructor <;> linarith

lemma towardZero_le {x : ℚ} (h : 0 ≤ x) : (towardZero x : ℚ) ≤ x := by
  rw [towardZero, if_neg (not_lt.2 h)]
  exact Int.floor_le x

lemma le_towardZero {x : ℚ} (h : x ≤ 0) : x ≤ towardZero x := by
  unfold towardZero
  split
  next => exact Int.le_ceil x
  next hpos =>
    obtain rfl : x = 0 := le_antisymm h (not_lt.1 hpos)
    simp

lemma trunc_eq {exact x : ℚ} (h : Covers exact x) : (rational exact).trunc x = towardZero x := by
  unfold trunc
  rw [abs_eq, throughInt_eq]
  split
  next => rfl
  next hlarge =>
    -- From the threshold on only integers are covered.
    obtain ⟨n, rfl⟩ := h.resolve_left hlarge
    rw [towardZero_intCast]

/-! ## Rounding down and up -/

section Covers

variable {exact x : ℚ} (h : Covers exact x)
include h

lemma floor_eq : (rational exact).floor x = ⌊x⌋ := by
  have hnear := abs_lt.1 (abs_sub_towardZero_lt x)
  simp only [floor, trunc_eq h]
  split
  next hbelow =>
    have hfloor : ⌊x⌋ = towardZero x - 1 := by
      rw [Int.floor_eq_iff]
      push_cast
      constructor <;> linarith
    rw [hfloor]
    push_cast
    rfl
  next habove =>
    have hfloor : ⌊x⌋ = towardZero x := by
      rw [Int.floor_eq_iff]
      exact ⟨not_lt.1 habove, by linarith⟩
    rw [hfloor]

lemma ceil_eq : (rational exact).ceil x = ⌈x⌉ := by
  have hnear := abs_lt.1 (abs_sub_towardZero_lt x)
  simp only [ceil, trunc_eq h]
  split
  next habove =>
    have hceil : ⌈x⌉ = towardZero x + 1 := by
      rw [Int.ceil_eq_iff]
      push_cast
      constructor <;> linarith
    rw [hceil]
    push_cast
    rfl
  next hbelow =>
    have hceil : ⌈x⌉ = towardZero x := by
      rw [Int.ceil_eq_iff]
      exact ⟨by linarith, not_lt.1 hbelow⟩
    rw [hceil]

lemma fract_eq : (rational exact).fract x = Int.fract x := by
  rw [fract, floor_eq h]
  rfl

end Covers

/-! ## Rounding to the nearest integer -/

/-- An integer is nearest to a number if no other is nearer, and it is the one farther from zero
where two are as near. -/
structure IsNearest (x : ℚ) (n : ℤ) : Prop where
  nearest : ∀ m : ℤ, |x - n| ≤ |x - m|
  away : ∀ m : ℤ, |x - m| = |x - n| → |m| ≤ |n|

lemma IsNearest.neg {x : ℚ} {n : ℤ} (h : IsNearest x n) : IsNearest (-x) (-n) := by
  have hdistance (m : ℤ) : |-x - m| = |x - (-m : ℤ)| := by
    rw [← abs_neg]
    push_cast
    congr 1
    ring
  constructor
  · intro m
    rw [hdistance, hdistance, neg_neg]
    exact h.nearest (-m)
  · intro m htie
    rw [hdistance, hdistance, neg_neg] at htie
    rw [← abs_neg m, abs_neg n]
    exact h.away (-m) htie

/-- Of a number that is not negative, the integer below the number and a half is nearest. -/
lemma isNearest_floor_add_half {x : ℚ} (h : 0 ≤ x) : IsNearest x ⌊x + 1 / 2⌋ := by
  set n := ⌊x + 1 / 2⌋
  have hle : (n : ℚ) ≤ x + 1 / 2 := Int.floor_le _
  have hlt : x + 1 / 2 < n + 1 := Int.lt_floor_add_one _
  have hnear : |x - n| ≤ 1 / 2 := abs_le.2 ⟨by linarith, by linarith⟩
  -- An integer on the far side is more than a half away, one on the near side at least a half.
  have habove {m : ℤ} (hm : n < m) : 1 / 2 < |x - m| := by
    have hcast : (n : ℚ) + 1 ≤ m := by exact_mod_cast hm
    rw [lt_abs]
    exact .inr (by linarith)
  have hbelow {m : ℤ} (hm : m < n) : 1 / 2 ≤ |x - m| ∧ x - m = |x - m| := by
    have hcast : (m : ℚ) + 1 ≤ n := by exact_mod_cast hm
    rw [abs_of_nonneg (by linarith)]
    exact ⟨by linarith, rfl⟩
  constructor
  · intro m
    rcases lt_trichotomy m n with hm | rfl | hm
    · exact hnear.trans (hbelow hm).1
    · exact le_rfl
    · exact hnear.trans (habove hm).le
  · intro m htie
    have hn : 0 ≤ n := Int.floor_nonneg.2 (by linarith)
    rcases lt_trichotomy m n with hm | rfl | hm
    · have hfar : x - m ≤ 1 / 2 := (hbelow hm).2.trans_le (htie.trans_le hnear)
      have hm0 : 0 ≤ m := by
        by_contra hneg
        have hcast : (m : ℚ) ≤ -1 := by exact_mod_cast Int.le_sub_one_of_lt (not_le.1 hneg)
        linarith
      rw [abs_of_nonneg hm0, abs_of_nonneg hn]
      exact hm.le
    · exact le_rfl
    · exact absurd ((habove hm).trans_le (htie.trans_le hnear)) (lt_irrefl _)

/-- The number is rounded like its magnitude. -/
lemma round_eq {exact x : ℚ} (h : Covers exact x) :
    (rational exact).round x = if x < 0 then -(⌊|x| + 1 / 2⌋ : ℚ) else ⌊|x| + 1 / 2⌋ := by
  have hstep : (if 1 / 2 ≤ |x| - ⌊|x|⌋ then (⌊|x|⌋ : ℚ) + 1 else ⌊|x|⌋) = ⌊|x| + 1 / 2⌋ := by
    have hle := Int.floor_le |x|
    have hlt := Int.lt_floor_add_one |x|
    split
    next hup =>
      have hfloor : ⌊|x| + 1 / 2⌋ = ⌊|x|⌋ + 1 := by
        rw [Int.floor_eq_iff]
        push_cast
        constructor <;> linarith
      rw [hfloor]
      push_cast
      rfl
    next hdown =>
      have hfloor : ⌊|x| + 1 / 2⌋ = ⌊|x|⌋ := by
        rw [Int.floor_eq_iff]
        constructor <;> linarith
      rw [hfloor]
  simp only [round, abs_eq, floor_eq h.abs]
  rw [← hstep]
  rfl

lemma exists_round_eq {exact x : ℚ} (h : Covers exact x) :
    ∃ n : ℤ, (rational exact).round x = n ∧ IsNearest x n := by
  have hnearest := isNearest_floor_add_half (abs_nonneg x)
  rw [round_eq h]
  split
  next hneg =>
    refine ⟨-⌊|x| + 1 / 2⌋, by push_cast; rfl, ?_⟩
    have hx : x = -|x| := by rw [abs_of_neg hneg, neg_neg]
    rw [hx, abs_neg, abs_abs]
    exact hnearest.neg
  next hpos =>
    rw [abs_of_nonneg (not_lt.1 hpos)] at hnearest ⊢
    exact ⟨_, rfl, hnearest⟩

end Format

/-! ## The numbers of a float type -/

open Float.Model (UnpackedFloat)

/-- The number that a float stands for, if it is finite. -/
def floatValue? : UnpackedFloat → Option ℚ
  | .zero _ => some 0
  | .finite sign mantissa exponent _ => some (sign.apply mantissa * 2 ^ exponent)
  | .infinity _ => none
  | .notANumber => none

lemma floatValue?_finite (sign : UnpackedFloat.Sign) (mantissa : ℕ) (exponent : ℤ)
    (hpos : 0 < mantissa) :
    floatValue? (.finite sign mantissa exponent hpos) =
      some (((sign.apply mantissa : ℤ) : ℚ) * 2 ^ exponent) := rfl

namespace Format

lemma abs_apply (sign : UnpackedFloat.Sign) (mantissa : ℕ) :
    |((sign.apply mantissa : ℤ) : ℚ)| = mantissa := by
  cases sign <;> simp [UnpackedFloat.Sign.apply]

/-- The mantissa has one bit in front of those that are stored. -/
lemma mantissa_lt_of_unpack {spec : Float.Model.Format} {bits : BitVec spec.numBits}
    {sign : UnpackedFloat.Sign} {mantissa : ℕ} {exponent : ℤ} {hpos : 0 < mantissa}
    (h : UnpackedFloat.unpack spec bits = .finite sign mantissa exponent hpos) :
    mantissa < 2 ^ (1 + spec.mantissaBitsWithoutImplicit) := by
  unfold UnpackedFloat.unpack at h
  dsimp only at h
  by_cases hones : UnpackedFloat.unpackExponent bits = -BitVec.ofNat _ 1
  · rw [if_pos hones] at h
    by_cases hzero : UnpackedFloat.unpackMantissa bits = BitVec.ofNat _ 0
    · rw [if_pos hzero] at h
      cases h
    · rw [if_neg hzero] at h
      cases h
  · rw [if_neg hones] at h
    by_cases hzeros : UnpackedFloat.unpackExponent bits = BitVec.ofNat _ 0
    · rw [if_pos hzeros] at h
      by_cases hzero : UnpackedFloat.unpackMantissa bits = BitVec.ofNat _ 0
      · rw [dif_pos hzero] at h
        cases h
      · -- A subnormal mantissa is what is stored.
        rw [dif_neg hzero] at h
        cases h
        exact (BitVec.isLt _).trans (Nat.pow_lt_pow_right one_lt_two (by omega))
    · rw [if_neg hzeros] at h
      cases h
      exact BitVec.isLt _

/-- A mantissa with one bit more than the threshold has zeros gives a number that is covered. -/
lemma covers_of_mantissa_lt {bits mantissa : ℕ} (h : mantissa < 2 ^ (1 + bits))
    (sign : UnpackedFloat.Sign) (exponent : ℤ) :
    Covers (2 ^ bits) (sign.apply mantissa * 2 ^ exponent) := by
  rcases le_or_gt 0 exponent with hexponent | hexponent
  · obtain ⟨k, rfl⟩ := Int.eq_ofNat_of_zero_le hexponent
    exact .inr ⟨sign.apply mantissa * 2 ^ k, by push_cast; rfl⟩
  · have hhalf : (2 : ℚ) ^ exponent ≤ 2⁻¹ := by
      rw [← zpow_neg_one]
      exact zpow_le_zpow_right₀ (by norm_num) (by omega)
    have hmantissa : (mantissa : ℚ) < 2 ^ (1 + bits) := by exact_mod_cast h
    refine .inl ?_
    calc |((sign.apply mantissa : ℤ) : ℚ) * 2 ^ exponent|
        = mantissa * 2 ^ exponent := by
          rw [abs_mul, abs_apply, abs_of_pos (zpow_pos two_pos exponent)]
      _ ≤ mantissa * 2⁻¹ := mul_le_mul_of_nonneg_left hhalf (Nat.cast_nonneg mantissa)
      _ < 2 ^ (1 + bits) * 2⁻¹ := mul_lt_mul_of_pos_right hmantissa (by norm_num)
      _ = 2 ^ bits := by rw [add_comm, pow_succ, mul_inv_cancel_right₀ two_ne_zero]

/-- **The numbers of a float type.**  The threshold covers every finite float. -/
lemma covers_of_unpack {spec : Float.Model.Format} {bits : BitVec spec.numBits} {x : ℚ}
    (h : floatValue? (UnpackedFloat.unpack spec bits) = some x) :
    Covers (2 ^ spec.mantissaBitsWithoutImplicit) x := by
  cases hunpack : UnpackedFloat.unpack spec bits with
  | infinity sign => rw [hunpack] at h; cases h
  | notANumber => rw [hunpack] at h; cases h
  | zero sign =>
      rw [hunpack] at h
      obtain rfl : 0 = x := Option.some.inj h
      exact .inr ⟨0, Int.cast_zero.symm⟩
  | finite sign mantissa exponent hpos =>
      have hmantissa := mantissa_lt_of_unpack hunpack
      rw [hunpack] at h
      obtain rfl := Option.some.inj h
      exact covers_of_mantissa_lt hmantissa sign exponent

/-! ## All roundings -/

/-- The roundings of a number are what their names say. -/
structure RoundsExactly (f : Format ℚ) (x : ℚ) : Prop where
  trunc : f.trunc x = towardZero x
  floor : ∃ n : ℤ, f.floor x = n ∧ IsGreatest {m : ℤ | (m : ℚ) ≤ x} n
  ceil : ∃ n : ℤ, f.ceil x = n ∧ IsLeast {m : ℤ | x ≤ m} n
  round : ∃ n : ℤ, f.round x = n ∧ IsNearest x n
  fract : f.fract x ∈ Set.Ico 0 1
  whole : ∃ n : ℤ, x - f.fract x = n

lemma roundsExactly {exact x : ℚ} (h : Covers exact x) : RoundsExactly (rational exact) x where
  trunc := trunc_eq h
  floor := ⟨⌊x⌋, floor_eq h, Int.floor_le x, fun _ hm => Int.le_floor.2 hm⟩
  ceil := ⟨⌈x⌉, ceil_eq h, Int.le_ceil x, fun _ hm => Int.ceil_le.2 hm⟩
  round := exists_round_eq h
  fract := by
    rw [fract_eq h]
    exact ⟨Int.fract_nonneg x, Int.fract_lt_one x⟩
  whole := ⟨⌊x⌋, by rw [fract_eq h, Int.self_sub_fract]⟩

/-- **The roundings are exact.**  A number that the threshold covers is truncated toward zero,
rounded down to the greatest integer that is not above it, up to the least that is not below it, and
to the nearest one with ties away from zero; the fraction lies from zero up to one, and what it
leaves is an integer.  The thresholds of the float types are powers of two, and cover every finite
float of the type. -/
theorem roundings_exact :
    (∀ exact x : ℚ, Covers exact x → RoundsExactly (rational exact) x) ∧
    (floatValue? single.exact.toModel.unpack = some (2 ^ 23) ∧
      ∀ (x : Float32) (q : ℚ), floatValue? x.toModel.unpack = some q → Covers (2 ^ 23) q) ∧
    (floatValue? double.exact.toModel.unpack = some (2 ^ 52) ∧
      ∀ (x : Float) (q : ℚ), floatValue? x.toModel.unpack = some q → Covers (2 ^ 52) q) := by
  have hsingle : single.exact.toModel.unpack = .finite .positive (2 ^ 23) 0 (by decide) := rfl
  have hdouble : double.exact.toModel.unpack = .finite .positive (2 ^ 52) 0 (by decide) := rfl
  refine ⟨fun exact x h => roundsExactly h, ⟨?_, fun x q h => covers_of_unpack h⟩, ?_,
    fun x q h => covers_of_unpack h⟩
  · rw [hsingle, floatValue?_finite, UnpackedFloat.Sign.apply]
    norm_num
  · rw [hdouble, floatValue?_finite, UnpackedFloat.Sign.apply]
    norm_num

example : (rational (2 ^ 23)).round (-5 / 2) = -3 ∧ (rational (2 ^ 23)).floor (-5 / 2) = -3 ∧
    (rational (2 ^ 23)).ceil (-5 / 2) = -2 ∧ (rational (2 ^ 23)).fract (-5 / 2) = 1 / 2 := by
  decide +kernel

/-- A negative number between two integers, which a float stands for, and an integer above the
threshold. -/
theorem roundings_exact_tie :
    (floatValue? (Float32.ofBits 0xC0200000).toModel.unpack = some (-5 / 2) ∧
      Covers (2 ^ 23) (-5 / 2) ∧ RoundsExactly (rational (2 ^ 23)) (-5 / 2)) ∧
    (Covers (2 ^ 52) (2 ^ 60) ∧ RoundsExactly (rational (2 ^ 52)) (2 ^ 60)) := by
  have hunpack : (Float32.ofBits 0xC0200000).toModel.unpack =
      .finite .negative 10485760 (-22) (by decide) := rfl
  have hvalue : floatValue? (Float32.ofBits 0xC0200000).toModel.unpack = some (-5 / 2) := by
    rw [hunpack, floatValue?_finite, UnpackedFloat.Sign.apply]
    norm_num
  have htie : Covers (2 ^ 23) (-5 / 2) := roundings_exact.2.1.2 _ _ hvalue
  have hlarge : Covers (2 ^ 52) (2 ^ 60) := .inr ⟨2 ^ 60, by norm_num⟩
  exact ⟨⟨hvalue, htie, roundings_exact.1 _ _ htie⟩, hlarge, roundings_exact.1 _ _ hlarge⟩

end Format

end MathHeader
