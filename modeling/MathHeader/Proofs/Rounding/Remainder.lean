import MathHeader.Proofs.Rounding.Exactness
import Mathlib.Algebra.Order.ToIntervalMod
import Mathlib.Data.Sign.Basic

/-!
# Remainders and wrapping

The remainder takes the truncated quotient off, so it has the sign of the dividend and can be
negative.  Wrapping a number into a range takes such a remainder of the distance from the lower
end, adds the length of the range, and takes a second remainder: after the addition nothing is
negative, and the second remainder takes the length off again where it was too much
(`fmod_nonneg`).

What comes out is the one number of the half-open range that differs by a multiple of the length,
`toIcoMod` (`wrap_eq`).  That a second wrapping changes nothing follows from there:
`remainders_exact`.
-/

namespace MathHeader.Format

/-! ## The remainder -/

section Remainder

variable {exact a b : ℚ} (h : Covers exact (a / b))
include h

lemma fmod_eq : (rational exact).fmod a b = a - towardZero (a / b) * b := by
  rw [fmod, trunc_eq h]

/-- The remainder is the part of the quotient behind the point, times the divisor. -/
lemma fmod_eq_mul (hb : b ≠ 0) :
    (rational exact).fmod a b = (a / b - towardZero (a / b)) * b := by
  rw [fmod_eq h, sub_mul, div_mul_cancel₀ a hb]

lemma exists_sub_fmod_eq : ∃ n : ℤ, a - (rational exact).fmod a b = n * b :=
  ⟨towardZero (a / b), by rw [fmod_eq h, sub_sub_cancel]⟩

lemma abs_fmod_lt (hb : b ≠ 0) : |(rational exact).fmod a b| < |b| := by
  rw [fmod_eq_mul h hb, abs_mul]
  exact mul_lt_of_lt_one_left (abs_pos.2 hb) (abs_sub_towardZero_lt (a / b))

/-- The remainder of a number that is not negative is not negative. -/
lemma fmod_nonneg (hb : b ≠ 0) (ha : 0 ≤ a) : 0 ≤ (rational exact).fmod a b := by
  rw [fmod_eq_mul h hb]
  rcases hb.lt_or_gt with hneg | hpos
  · have hquotient : a / b ≤ 0 := div_nonpos_of_nonneg_of_nonpos ha hneg.le
    exact mul_nonneg_of_nonpos_of_nonpos (sub_nonpos.2 (le_towardZero hquotient)) hneg.le
  · have hquotient : 0 ≤ a / b := div_nonneg ha hpos.le
    exact mul_nonneg (sub_nonneg.2 (towardZero_le hquotient)) hpos.le

end Remainder

/-- The remainder of the opposite number is the opposite. -/
lemma fmod_neg {exact a b : ℚ} (h : Covers exact (a / b)) :
    (rational exact).fmod (-a) b = -(rational exact).fmod a b := by
  have hneg : Covers exact (-a / b) := neg_div b a ▸ h.neg
  rw [fmod_eq h, fmod_eq hneg, neg_div, towardZero_neg]
  push_cast
  ring

/-- **The remainder.**  It is zero or has the sign of the dividend. -/
lemma sign_fmod {exact a b : ℚ} (h : Covers exact (a / b)) (hb : b ≠ 0) :
    (rational exact).fmod a b = 0 ∨
      SignType.sign ((rational exact).fmod a b) = SignType.sign a := by
  refine or_iff_not_imp_left.2 fun hne => ?_
  have ha : a ≠ 0 := by
    rintro rfl
    simp [fmod_eq h, towardZero] at hne
  rcases ha.lt_or_gt with hneg | hpos
  · have hremainder := fmod_nonneg (neg_div b a ▸ h.neg) hb (neg_nonneg.2 hneg.le)
    rw [fmod_neg h, neg_nonneg] at hremainder
    rw [sign_neg hneg, sign_neg (lt_of_le_of_ne hremainder hne)]
  · have hremainder := fmod_nonneg h hb hpos.le
    rw [sign_pos hpos, sign_pos (lt_of_le_of_ne hremainder (Ne.symm hne))]

/-! ## Wrapping -/

section Wrapping

variable {exact v lo hi : ℚ}

/-- **Wrapping.**  A number is wrapped to the one in the range that differs from it by a multiple of
the length. -/
lemma wrap_eq (hexact : 2 ≤ exact) (hrange : lo < hi)
    (h : Covers exact ((v - lo) / (hi - lo))) :
    (rational exact).wrap v lo hi = toIcoMod (sub_pos.2 hrange) lo v := by
  set span := hi - lo
  have hspan : 0 < span := sub_pos.2 hrange
  set inner := (rational exact).fmod (v - lo) span
  obtain ⟨n, hn⟩ := exists_sub_fmod_eq h
  have hinner := abs_lt.1 (abs_fmod_lt h hspan.ne')
  rw [abs_of_pos hspan] at hinner
  -- With the length added, the quotient lies between zero and two.
  have hlow : 0 < (span + inner) / span := div_pos (by linarith) hspan
  have hhigh : (span + inner) / span < 2 := by
    rw [div_lt_iff₀ hspan]
    linarith
  have hcovers : Covers exact ((span + inner) / span) :=
    .inl ((abs_of_pos hlow).trans_lt (hhigh.trans_le hexact))
  obtain ⟨m, hm⟩ := exists_sub_fmod_eq hcovers
  have houter := abs_lt.1 (abs_fmod_lt hcovers hspan.ne')
  rw [abs_of_pos hspan] at houter
  have hnonneg := fmod_nonneg hcovers hspan.ne' (by linarith)
  refine ((toIcoMod_eq_iff hspan).2 ⟨⟨?_, ?_⟩, n + m - 1, ?_⟩).symm
  · exact le_add_of_nonneg_right hnonneg
  · exact add_lt_add_right houter.2 lo
  · have hwrap : (rational exact).wrap v lo hi = lo + (rational exact).fmod (span + inner) span :=
      rfl
    rw [hwrap, zsmul_eq_mul]
    push_cast
    linarith

/-- A number in the range is covered, whatever the threshold. -/
lemma covers_of_mem (hexact : 2 ≤ exact) (hv : v ∈ Set.Ico lo hi) :
    Covers exact ((v - lo) / (hi - lo)) := by
  have hspan : 0 < hi - lo := sub_pos.2 (hv.1.trans_lt hv.2)
  have hlow : 0 ≤ (v - lo) / (hi - lo) := div_nonneg (sub_nonneg.2 hv.1) hspan.le
  have hhigh : (v - lo) / (hi - lo) < 1 := by
    rw [div_lt_one hspan]
    exact sub_lt_sub_right hv.2 lo
  refine .inl ?_
  rw [abs_of_nonneg hlow]
  linarith

lemma wrap_of_mem (hexact : 2 ≤ exact) (hv : v ∈ Set.Ico lo hi) :
    (rational exact).wrap v lo hi = v := by
  rw [wrap_eq hexact (hv.1.trans_lt hv.2) (covers_of_mem hexact hv), toIcoMod_eq_self,
    add_sub_cancel]
  exact hv

end Wrapping

/-! ## Both -/

/-- **Remainders and wrapping.**  If the quotient is covered, the remainder is smaller than the
divisor, zero or of the sign of the dividend, and differs from the dividend by a multiple of the
divisor.  If the distance from the lower end, measured in lengths of the range, is covered, wrapping
leads into the half-open range, by a multiple of its length, and a second wrapping changes nothing.
No number in the range is changed. -/
theorem remainders_exact {exact : ℚ} (hexact : 2 ≤ exact) :
    (∀ a b : ℚ, b ≠ 0 → Covers exact (a / b) →
      |(rational exact).fmod a b| < |b| ∧
      ((rational exact).fmod a b = 0 ∨
        SignType.sign ((rational exact).fmod a b) = SignType.sign a) ∧
      ∃ n : ℤ, a - (rational exact).fmod a b = n * b) ∧
    (∀ v lo hi : ℚ, lo < hi → Covers exact ((v - lo) / (hi - lo)) →
      (rational exact).wrap v lo hi ∈ Set.Ico lo hi ∧
      (∃ n : ℤ, v - (rational exact).wrap v lo hi = n * (hi - lo)) ∧
      (rational exact).wrap ((rational exact).wrap v lo hi) lo hi =
        (rational exact).wrap v lo hi) ∧
    ∀ v lo hi : ℚ, v ∈ Set.Ico lo hi → (rational exact).wrap v lo hi = v := by
  refine ⟨fun a b hb h => ⟨abs_fmod_lt h hb, sign_fmod h hb, exists_sub_fmod_eq h⟩, ?_,
    fun v lo hi hv => wrap_of_mem hexact hv⟩
  intro v lo hi hrange h
  have hspan : 0 < hi - lo := sub_pos.2 hrange
  have hwrap := wrap_eq hexact hrange h
  have hmem : (rational exact).wrap v lo hi ∈ Set.Ico lo hi := by
    have hmod := toIcoMod_mem_Ico hspan lo v
    rwa [add_sub_cancel, ← hwrap] at hmod
  refine ⟨hmem, ⟨toIcoDiv hspan lo v, ?_⟩, wrap_of_mem hexact hmem⟩
  rw [hwrap, self_sub_toIcoMod, zsmul_eq_mul]

example : (rational (2 ^ 52)).wrap (-10) 0 360 = 350 ∧ (rational (2 ^ 23)).wrap 5 (-1) 1 = -1 := by
  decide +kernel

/-- The remainder of a negative number, and a number on the upper end of a range below zero. -/
theorem remainders_exact_negative :
    (2 : ℚ) ≤ 2 ^ 23 ∧ Covers (2 ^ 23) (-11 / 2 / 2) ∧
      |(rational (2 ^ 23)).fmod (-11 / 2) 2| < |(2 : ℚ)| ∧
      Covers (2 ^ 23) ((-1 - -3) / (-1 - -3)) ∧
      (rational (2 ^ 23)).wrap (-1) (-3) (-1) ∈ Set.Ico (-3 : ℚ) (-1) ∧
      (rational (2 ^ 23)).wrap (-2) (-3) (-1) = -2 := by
  have hexact : (2 : ℚ) ≤ 2 ^ 23 := by norm_num
  have hquotient : Covers (2 ^ 23) (-11 / 2 / 2) := .inl (by norm_num [abs_of_neg])
  have hlength : Covers (2 ^ 23) ((-1 - -3) / (-1 - -3)) := .inr ⟨1, by norm_num⟩
  obtain ⟨hfmod, hwrap, hinside⟩ := remainders_exact hexact
  exact ⟨hexact, hquotient, (hfmod _ _ (by norm_num) hquotient).1, hlength,
    (hwrap _ _ _ (by norm_num) hlength).1, hinside _ _ _ ⟨by norm_num, by norm_num⟩⟩

end MathHeader.Format
