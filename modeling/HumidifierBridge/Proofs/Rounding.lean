import HumidifierBridge.Proofs.JsonNumbers
import Mathlib.Algebra.Order.Field.Basic
import Mathlib.Algebra.Order.Field.Power
import Mathlib.Data.Rat.Cast.Order
import Mathlib.Tactic.FieldSimp
import Mathlib.Tactic.Linarith
import Mathlib.Tactic.Positivity
import Mathlib.Tactic.Ring

/-!
# Rounding keeps the order

Of two fractions, the lesser is rounded to the lesser double or to the same one
(`Binary64.roundRatio_mono`). A double grows with its pattern, and so do rounded products and the
doubles of integers with what they are made of. What becomes of all numbers of a range is therefore
settled at its ends.

`JsonNumber.toInt64_integer` draws one conclusion: an integer is clamped to 64 bits in the same way
whether it is compared with the limits or first rounded to a double.
-/

namespace HumidifierBridge

namespace Binary64

/-! ### Rounding to integers -/

/-- The integer is nearest to the number, and even if another one is as near. -/
structure IsNearest (x : ℚ) (q : ℕ) : Prop where
  below : x ≤ q + 1 / 2
  above : (q : ℚ) ≤ x + 1 / 2
  even_of_tie : x = q + 1 / 2 ∨ (q : ℚ) = x + 1 / 2 → q % 2 = 0

theorem isNearest_natCast (n : ℕ) : IsNearest n n :=
  ⟨by linarith, by linarith, by rintro (h | h) <;> linarith⟩

theorem IsNearest.mono {x y : ℚ} {q r : ℕ} (hq : IsNearest x q) (hr : IsNearest y r)
    (h : x ≤ y) : q ≤ r := by
  by_contra hlt
  have hnext : (r : ℚ) + 1 ≤ q := by exact_mod_cast Nat.lt_of_not_le hlt
  have hqx := hq.above
  have hyr := hr.below
  -- Both numbers lie in the middle between the two integers, of which only one is even.
  have hx : (q : ℚ) = x + 1 / 2 := by linarith
  have hy : y = r + 1 / 2 := by linarith
  have hsucc : q = r + 1 := by
    have : (q : ℚ) = r + 1 := by linarith
    exact_mod_cast this
  have := hq.even_of_tie (.inr hx)
  have := hr.even_of_tie (.inl hy)
  omega

theorem isNearest_roundDiv (num : ℕ) {den : ℕ} (h : 0 < den) :
    IsNearest (num / den : ℚ) (roundDiv num den) := by
  have hden : (0 : ℚ) < den := by exact_mod_cast h
  obtain ⟨f, hf⟩ : ∃ f : ℚ, (num % den : ℕ) / (den : ℚ) = f := ⟨_, rfl⟩
  have hx : (num : ℚ) / den = (num / den : ℕ) + f := by
    have hsplit : (den : ℚ) * (num / den : ℕ) + (num % den : ℕ) = num := by
      exact_mod_cast Nat.div_add_mod num den
    rw [← hf, ← hsplit]
    field_simp
  have hf0 : 0 ≤ f := by rw [← hf]; positivity
  have hlt : f < 1 ↔ num % den < den := by rw [← hf, div_lt_one hden]; norm_cast
  have hmore : 1 / 2 < f ↔ den < 2 * (num % den) := by
    rw [← hf, div_lt_div_iff₀ two_pos hden, one_mul, mul_comm]
    norm_cast
  have htie : f = 1 / 2 ↔ 2 * (num % den) = den := by
    rw [← hf, div_eq_div_iff hden.ne' two_ne_zero, one_mul, mul_comm]
    norm_cast
  have hf1 : f < 1 := hlt.2 (Nat.mod_lt _ h)
  rw [hx]
  simp only [roundDiv]
  split
  · rename_i hup
    have hhalf : 1 / 2 ≤ f := by
      rcases hup with hup | ⟨hup, -⟩
      · exact (hmore.2 hup).le
      · exact (htie.2 hup).ge
    have hsucc : ((num / den + 1 : ℕ) : ℚ) = (num / den : ℕ) + 1 := Nat.cast_succ _
    refine ⟨by rw [hsucc]; linarith, by rw [hsucc]; linarith, ?_⟩
    rw [hsucc]
    rintro (heq | heq)
    · linarith
    · have := htie.1 (by linarith)
      omega
  · rename_i hdown
    rw [not_or, not_and] at hdown
    have hhalf : f ≤ 1 / 2 := not_lt.1 fun hlt => hdown.1 (hmore.1 hlt)
    refine ⟨by linarith, by linarith, ?_⟩
    rintro (heq | heq)
    · have := hdown.2 (htie.1 (by linarith))
      omega
    · linarith

/-! ### Rounding to doubles -/

/-- Shifting numerator or denominator scales a fraction by a power of two. -/
theorem shifted_ratio (num den : ℕ) (e : ℤ) :
    ((num <<< (-e).toNat : ℕ) : ℚ) / (den <<< e.toNat : ℕ) = num / den / 2 ^ e := by
  simp only [Nat.shiftLeft_eq, Nat.cast_mul, Nat.cast_pow, Nat.cast_ofNat]
  obtain ⟨n, rfl | rfl⟩ := e.eq_nat_or_neg
  · simp [div_div]
  · simp
    ring

theorem two_pow_mul_zpow (n : ℕ) (e : ℤ) : ((2 ^ n : ℕ) : ℚ) * 2 ^ e = 2 ^ (e + n) := by
  rw [Nat.cast_pow, Nat.cast_ofNat, ← zpow_natCast, ← zpow_add₀ two_ne_zero, add_comm]

/-- The difference of two logarithms is that of the fraction, or one more. -/
theorem log2_sub_log2_spec {num den : ℕ} (hnum : 0 < num) (hden : 0 < den) :
    (2 : ℚ) ^ ((Nat.log2 num : ℤ) - Nat.log2 den - 1) ≤ num / den ∧
      (num / den : ℚ) < 2 ^ ((Nat.log2 num : ℤ) - Nat.log2 den + 1) := by
  have hden' : (0 : ℚ) < den := by exact_mod_cast hden
  obtain ⟨a, ha⟩ : ∃ a, Nat.log2 num = a := ⟨_, rfl⟩
  obtain ⟨b, hb⟩ : ∃ b, Nat.log2 den = b := ⟨_, rfl⟩
  have hnum_le : ((2 ^ a : ℕ) : ℚ) ≤ num := by
    exact_mod_cast ha ▸ Nat.log2_self_le hnum.ne'
  have hnum_lt : (num : ℚ) < (2 ^ (a + 1) : ℕ) := by
    exact_mod_cast ha ▸ Nat.lt_log2_self (n := num)
  have hden_le : ((2 ^ b : ℕ) : ℚ) ≤ den := by
    exact_mod_cast hb ▸ Nat.log2_self_le hden.ne'
  have hden_lt : (den : ℚ) < (2 ^ (b + 1) : ℕ) := by
    exact_mod_cast hb ▸ Nat.lt_log2_self (n := den)
  rw [ha, hb]
  constructor
  · rw [le_div_iff₀ hden']
    calc (2 : ℚ) ^ ((a : ℤ) - b - 1) * den ≤ 2 ^ ((a : ℤ) - b - 1) * (2 ^ (b + 1) : ℕ) := by gcongr
      _ = (2 ^ a : ℕ) * 2 ^ (0 : ℤ) := by
        rw [mul_comm, two_pow_mul_zpow, two_pow_mul_zpow]
        congr 1
        push_cast
        omega
      _ ≤ num := by rwa [zpow_zero, mul_one]
  · rw [div_lt_iff₀ hden']
    calc (num : ℚ) < (2 ^ (a + 1) : ℕ) * 2 ^ (0 : ℤ) := by rwa [zpow_zero, mul_one]
      _ = 2 ^ ((a : ℤ) - b + 1) * (2 ^ b : ℕ) := by
        rw [mul_comm (_ ^ ((a : ℤ) - b + 1)), two_pow_mul_zpow, two_pow_mul_zpow]
        congr 1
        push_cast
        omega
      _ ≤ 2 ^ ((a : ℤ) - b + 1) * den := by gcongr

theorem floorLog2_spec {num den : ℕ} (hnum : 0 < num) (hden : 0 < den) :
    (2 : ℚ) ^ floorLog2 num den ≤ num / den ∧
      (num / den : ℚ) < 2 ^ (floorLog2 num den + 1) := by
  obtain ⟨hlow, hhigh⟩ := log2_sub_log2_spec hnum hden
  obtain ⟨l, hl⟩ : ∃ l : ℤ, (Nat.log2 num : ℤ) - Nat.log2 den = l := ⟨_, rfl⟩
  have hden_shift : (0 : ℚ) < (den <<< l.toNat : ℕ) := by
    rw [Nat.shiftLeft_eq]
    positivity
  have hless : num <<< (-l).toNat < den <<< l.toNat ↔ (num / den : ℚ) < 2 ^ l := by
    have hcast : ((num <<< (-l).toNat : ℕ) : ℚ) < (den <<< l.toNat : ℕ) ↔ _ := Nat.cast_lt
    rw [← hcast, ← div_lt_one hden_shift, shifted_ratio, div_lt_one (zpow_pos two_pos l)]
  rw [hl] at hlow hhigh
  simp only [floorLog2, hl, hless]
  split
  · rename_i hlt
    rw [sub_add_cancel]
    exact ⟨hlow, hlt⟩
  · rename_i hge
    exact ⟨not_lt.1 hge, hhigh⟩

/-- The pattern of a rounded fraction counts steps of a grid: `k` tells how wide they are, and `q`
is the nearest number of them. On every grid but the finest the fraction is at least half as great
as what the grid is for. -/
theorem roundRatio_spec {num den : ℕ} (hnum : 0 < num) (hden : 0 < den) :
    ∃ k q : ℕ, IsNearest ((num / den : ℚ) / 2 ^ ((k : ℤ) - 1074)) q ∧
      (num / den : ℚ) < 2 ^ ((k : ℤ) - 1021) ∧
      (0 < k → (2 : ℚ) ^ ((k : ℤ) - 1022) ≤ num / den) ∧
      roundRatio num den = min (k * leadingBit + q) infinityPattern := by
  obtain ⟨hlow, hhigh⟩ := floorLog2_spec hnum hden
  obtain ⟨e, he⟩ : ∃ e, max (floorLog2 num den - 52) (-1074) = e := ⟨_, rfl⟩
  obtain ⟨k, hk⟩ : ∃ k : ℕ, (k : ℤ) = e + 1074 := ⟨(e + 1074).toNat, by omega⟩
  have hden_shift : 0 < den <<< e.toNat := by
    rw [Nat.shiftLeft_eq]
    positivity
  refine ⟨k, roundDiv (num <<< (-e).toNat) (den <<< e.toNat), ?_, ?_, ?_, ?_⟩
  · rw [show (k : ℤ) - 1074 = e by omega, ← shifted_ratio]
    exact isNearest_roundDiv _ hden_shift
  · exact hhigh.trans_le (zpow_le_zpow_right₀ one_le_two (by omega))
  · intro hk0
    exact (zpow_le_zpow_right₀ one_le_two (by omega)).trans hlow
  · simp only [roundRatio, if_neg hnum.ne', he]
    rw [show (e + 1074).toNat = k by omega]

/-- **Rounding is monotone.** -/
theorem roundRatio_mono {num den num' den' : ℕ} (hden : 0 < den) (hden' : 0 < den')
    (h : (num / den : ℚ) ≤ num' / den') : roundRatio num den ≤ roundRatio num' den' := by
  obtain rfl | hnum := Nat.eq_zero_or_pos num
  · simp [roundRatio]
  have hpos : (0 : ℚ) < num / den := by positivity
  have hnum' : 0 < num' := by
    refine Nat.pos_of_ne_zero ?_
    rintro rfl
    rw [Nat.cast_zero, zero_div] at h
    exact absurd hpos h.not_gt
  obtain ⟨k, q, hq, hlt, hge, heq⟩ := roundRatio_spec hnum hden
  obtain ⟨m, r, hr, hlt', hge', heq'⟩ := roundRatio_spec hnum' hden'
  rw [heq, heq']
  refine min_le_min ?_ (le_refl _)
  rcases lt_trichotomy k m with hkm | rfl | hmk
  · -- On a finer grid there are at most `2 ^ 53` steps, on a coarser one at least half of that.
    have hstep : ∀ j : ℕ, (0 : ℚ) < 2 ^ ((j : ℤ) - 1074) := fun j => zpow_pos two_pos _
    have hmost : q ≤ 2 ^ 53 := by
      refine hq.mono (isNearest_natCast _) ?_
      rw [div_le_iff₀ (hstep k)]
      rw [two_pow_mul_zpow]
      exact hlt.le.trans (zpow_le_zpow_right₀ one_le_two (by omega))
    have hleast : 2 ^ 52 ≤ r := by
      refine (isNearest_natCast _).mono hr ?_
      rw [le_div_iff₀ (hstep m)]
      rw [two_pow_mul_zpow]
      exact (zpow_le_zpow_right₀ one_le_two (by omega)).trans (hge' (by omega))
    simp only [leadingBit]
    omega
  · refine Nat.add_le_add_left (hq.mono hr ?_) _
    gcongr
  · -- The greater fraction would be on the finer grid.
    have hcoarse : (2 : ℚ) ^ ((m : ℤ) - 1021) ≤ 2 ^ ((k : ℤ) - 1022) :=
      zpow_le_zpow_right₀ one_le_two (by omega)
    have hfine := hge (by omega)
    linarith

theorem roundRatio_one_mono {m n : ℕ} (h : m ≤ n) : roundRatio m 1 ≤ roundRatio n 1 := by
  refine roundRatio_mono one_pos one_pos ?_
  gcongr

/-! ### Signs and magnitudes -/

@[simp] theorem magnitude_ofRatio (negative : Bool) (num den : ℕ) :
    (ofRatio negative num den).magnitude = roundRatio num den :=
  magnitude_ofMagnitude negative ((roundRatio_le num den).trans_lt (by decide))

@[simp] theorem magnitude_neg (x : Binary64) : x.neg.magnitude = x.magnitude :=
  magnitude_ofMagnitude _ (Nat.mod_lt _ (by decide))

theorem isNegative_ofMagnitude (negative : Bool) {pattern : ℕ} (h : pattern < signBit) :
    (ofMagnitude negative pattern).isNegative = negative := by
  simp only [signBit] at h
  cases negative with
  | false =>
    simp only [ofMagnitude, isNegative, signBit, Bool.false_eq_true, if_false,
      UInt64.toNat_ofNat', decide_eq_false_iff_not]
    omega
  | true =>
    simp only [ofMagnitude, isNegative, signBit, if_true, UInt64.toNat_ofNat', decide_eq_true_eq]
    omega

@[simp] theorem isNegative_ofRatio (negative : Bool) (num den : ℕ) :
    (ofRatio negative num den).isNegative = negative :=
  isNegative_ofMagnitude negative ((roundRatio_le num den).trans_lt (by decide))

@[simp] theorem isNegative_neg (x : Binary64) : x.neg.isNegative = !x.isNegative :=
  isNegative_ofMagnitude _ (Nat.mod_lt _ (by decide))

/-- The sign of a number: none of a zero of either sign, nor of a NaN. -/
def sign (x : Binary64) : Int :=
  if x.isNaN ∨ x.magnitude = 0 then 0 else if x.isNegative then -1 else 1

theorem leadingBit_eq : leadingBit = 2 ^ 52 := by decide

/-- The absolute value of a finite number. -/
def absValue (x : Binary64) : ℚ := x.significand * 2 ^ x.exponent

theorem absValue_nonneg (x : Binary64) : 0 ≤ x.absValue := by
  unfold absValue
  positivity

theorem mul_zpow_le {a b : ℕ} {d e : ℤ} (hab : a ≤ b) (hde : d ≤ e) :
    (a : ℚ) * 2 ^ d ≤ b * 2 ^ e := by
  have hpow : (2 : ℚ) ^ d ≤ 2 ^ e := zpow_le_zpow_right₀ one_le_two hde
  gcongr

theorem absValue_of_lt {x : Binary64} (h : x.magnitude < 2 ^ 52) :
    x.absValue = x.magnitude * 2 ^ (-1074 : ℤ) := by
  rw [absValue, significand, exponent, leadingBit_eq, if_pos h, if_pos h]

theorem absValue_of_le {x : Binary64} (h : 2 ^ 52 ≤ x.magnitude) :
    x.absValue = (x.magnitude % 2 ^ 52 + 2 ^ 52 : ℕ) *
      2 ^ ((x.magnitude / 2 ^ 52 : ℕ) - 1075 : ℤ) := by
  rw [absValue, significand, exponent, leadingBit_eq, if_neg (not_lt.2 h), if_neg (not_lt.2 h)]

/-- The pattern without its sign grows with the absolute value. -/
theorem absValue_mono {x y : Binary64} (h : x.magnitude ≤ y.magnitude) :
    x.absValue ≤ y.absValue := by
  rcases Nat.lt_or_ge y.magnitude (2 ^ 52) with hy | hy
  · rw [absValue_of_lt hy, absValue_of_lt (h.trans_lt hy)]
    exact mul_zpow_le h (le_refl _)
  rw [absValue_of_le hy]
  rcases Nat.lt_or_ge x.magnitude (2 ^ 52) with hx | hx
  · rw [absValue_of_lt hx]
    exact mul_zpow_le (by omega) (by omega)
  rw [absValue_of_le hx]
  by_cases hsame : x.magnitude / 2 ^ 52 = y.magnitude / 2 ^ 52
  · exact mul_zpow_le (by omega) (by omega)
  · -- The greatest significand of one exponent is below the least one of the next.
    refine (mul_zpow_le (b := 2 ^ 53) (by omega) (le_refl _)).trans ?_
    refine le_trans ?_ (mul_zpow_le (a := 2 ^ 52) (by omega) (le_refl _))
    rw [two_pow_mul_zpow, two_pow_mul_zpow]
    exact zpow_le_zpow_right₀ one_le_two (by omega)

/-! ### Products -/

theorem magnitude_mul (x y : Binary64) : ∃ num den : ℕ, 0 < den ∧
    (num / den : ℚ) = x.absValue * y.absValue ∧ (x.mul y).magnitude = roundRatio num den := by
  refine ⟨_, _, ?_, ?_, magnitude_ofRatio _ _ _⟩
  · rw [Nat.shiftLeft_eq]
    positivity
  · have hratio := shifted_ratio (x.significand * y.significand) 1 (-(x.exponent + y.exponent))
    rw [neg_neg] at hratio
    rw [hratio, absValue, absValue, zpow_neg, zpow_add₀ two_ne_zero]
    push_cast
    field_simp

/-- The rounded product grows with both factors. -/
theorem magnitude_mul_mono {x y x' y' : Binary64} (hx : x.magnitude ≤ x'.magnitude)
    (hy : y.magnitude ≤ y'.magnitude) : (x.mul y).magnitude ≤ (x'.mul y').magnitude := by
  obtain ⟨num, den, hden, hratio, hmul⟩ := magnitude_mul x y
  obtain ⟨num', den', hden', hratio', hmul'⟩ := magnitude_mul x' y'
  rw [hmul, hmul']
  refine roundRatio_mono hden hden' ?_
  rw [hratio, hratio']
  exact mul_le_mul (absValue_mono hx) (absValue_mono hy) y.absValue_nonneg x'.absValue_nonneg

/-! ### Signed 64-bit integers -/

/-- From `2 ^ 63` on, the integer part is beyond the signed 64-bit integers. -/
theorem toInt64_of_le_magnitude {x : Binary64} (hnumber : x.isNaN = false)
    (h : 0x43E0000000000000 ≤ x.magnitude) : x.toInt64 =
      if x.isNegative then -9223372036854775808 else 9223372036854775807 := by
  have hwhole : 9223372036854775808 ≤ (if x.isInfinite then UInt64.size
      else (x.significand <<< x.exponent.toNat) >>> (-x.exponent).toNat) := by
    split
    · decide
    · have hnormal : ¬ x.magnitude < 2 ^ 52 := by omega
      obtain ⟨n, hn⟩ : ∃ n : ℕ, x.magnitude / 2 ^ 52 = n + 1086 :=
        ⟨x.magnitude / 2 ^ 52 - 1086, by omega⟩
      rw [significand, exponent, leadingBit_eq, if_neg hnormal, if_neg hnormal, hn,
        show ((n + 1086 : ℕ) - 1075 : ℤ).toNat = n + 11 by omega,
        show (-((n + 1086 : ℕ) - 1075 : ℤ)).toNat = 0 by omega, Nat.shiftRight_zero,
        Nat.shiftLeft_eq]
      calc 9223372036854775808 = 2 ^ 52 * 2 ^ 11 := by norm_num
        _ ≤ (x.magnitude % 2 ^ 52 + 2 ^ 52) * 2 ^ (n + 11) :=
          Nat.mul_le_mul (by omega) (Nat.pow_le_pow_right (by decide) (by omega))
  simp only [toInt64, hnumber, Bool.false_eq_true, if_false, clampInt64]
  split <;> omega

theorem toInt64_of_magnitude_eq_zero {x : Binary64} (h : x.magnitude = 0) : x.toInt64 = 0 := by
  simp [toInt64, isNaN, isInfinite, significand, h, infinityPattern, leadingBit, clampInt64]

theorem sign_of_magnitude_eq_zero {x : Binary64} (h : x.magnitude = 0) : x.sign = 0 := by
  rw [sign, if_pos (.inr h)]

theorem sign_of_magnitude_pos {x : Binary64} (hnumber : x.isNaN = false) (h : 0 < x.magnitude) :
    x.sign = if x.isNegative then -1 else 1 := by
  rw [sign, if_neg (by simp [hnumber, h.ne'])]

theorem magnitude_ofInt_mono {m n : ℤ} (h : m.natAbs ≤ n.natAbs) :
    (ofInt m).magnitude ≤ (ofInt n).magnitude := by
  rw [ofInt, ofInt, magnitude_ofRatio, magnitude_ofRatio]
  exact roundRatio_one_mono h

@[simp] theorem isNegative_ofInt (n : ℤ) : (ofInt n).isNegative = decide (n < 0) :=
  isNegative_ofRatio _ _ _

@[simp] theorem sign_ofInt (n : ℤ) : (ofInt n).sign = n.sign := by
  obtain rfl | hn := eq_or_ne n 0
  · decide
  · have hone : 0 < (ofInt 1).magnitude := by decide +kernel
    have hpos := hone.trans_le (magnitude_ofInt_mono (m := 1) (n := n) (by omega))
    rw [sign_of_magnitude_pos (isNaN_ofInt n) hpos, isNegative_ofInt]
    obtain hlt | hgt := lt_or_gt_of_ne hn
    · simp [hlt, Int.sign_eq_neg_one_of_neg hlt]
    · simp [hgt.not_gt, Int.sign_eq_one_of_pos hgt]

end Binary64

/-- Every integer is clamped, also where it goes through a double. -/
theorem JsonNumber.toInt64_integer (n : ℤ) :
    (integer n).toInt64 = max (-9223372036854775808) (min n 9223372036854775807) := by
  rw [toInt64]
  split
  · omega
  · have hlimit : (Binary64.ofInt 9223372036854775808).magnitude = 0x43E0000000000000 := by
      decide +kernel
    have hle := Binary64.magnitude_ofInt_mono (m := 9223372036854775808) (n := n) (by omega)
    rw [Binary64.toInt64_of_le_magnitude (Binary64.isNaN_ofInt n) (hlimit ▸ hle),
      Binary64.isNegative_ofInt]
    simp only [decide_eq_true_eq]
    split <;> omega

end HumidifierBridge
