import CrdToolset.Number.Double
import Mathlib.Algebra.Order.Field.Power
import Mathlib.Algebra.Order.Field.Rat
import Mathlib.Data.Int.Log
import Mathlib.Data.Rat.Floor
import Mathlib.Tactic.FieldSimp
import Mathlib.Tactic.NormNum
import Mathlib.Tactic.Positivity
import Mathlib.Tactic.Ring

/-!
# The number nearest to a decimal

Reading a decimal in exact arithmetic depends on its value only, not on the digits and the exponent by
which it is given. This holds also where the value is so large or so small that no power is computed.
-/

namespace CrdToolset.Number

variable {num den num' den' k a b m n digits digits' : Nat} {negative : Bool}
  {e exponent exponent' : Int}

/-! ### Powers -/

/-- A power with any whole exponent is a fraction of two powers with natural exponents, one of which
is one. Reading works with such fractions. -/
theorem zpow_eq_div {base : Nat} (h : 0 < base) (e : Int) :
    (base : ℚ) ^ e = (base ^ e.toNat : ℕ) / (base ^ (-e).toNat : ℕ) := by
  have hbase : (base : ℚ) ≠ 0 := by exact_mod_cast h.ne'
  rw [eq_div_iff (by positivity)]
  push_cast
  rw [← zpow_natCast, ← zpow_natCast, ← zpow_add₀ hbase]
  congr 1
  omega

/-- Whether a fraction is below a power of two can be told by comparing natural numbers, as reading
does it. -/
theorem div_lt_two_zpow_iff (hden : 0 < den) (e : Int) :
    (num : ℚ) / den < 2 ^ e ↔ num * 2 ^ (-e).toNat < den * 2 ^ e.toNat := by
  have hpow := zpow_eq_div (by decide : 0 < 2) e
  have hden' : (0 : ℚ) < den := by exact_mod_cast hden
  rw [Nat.cast_ofNat] at hpow
  rw [hpow, div_lt_div_iff₀ hden' (by positivity)]
  norm_cast
  rw [Nat.mul_comm (2 ^ e.toNat)]

/-- A power of ten is at most a power of two whose exponent is ten thirds of its own. -/
theorem ten_pow_le_two_pow (h : 10 * m ≤ 3 * n) : 10 ^ m ≤ 2 ^ n := by
  refine (Nat.pow_le_pow_iff_left (by decide : 10 ≠ 0)).mp ?_
  calc (10 ^ m) ^ 10 = 10 ^ (10 * m) := by rw [← Nat.pow_mul, Nat.mul_comm]
    _ ≤ 10 ^ (3 * n) := Nat.pow_le_pow_right (by decide) h
    _ = (10 ^ 3) ^ n := Nat.pow_mul ..
    _ ≤ (2 ^ 10) ^ n := Nat.pow_le_pow_left (by decide) n
    _ = (2 ^ n) ^ 10 := by rw [← Nat.pow_mul, ← Nat.pow_mul, Nat.mul_comm]

/-- A power of two is at most a power of ten whose exponent is 31 hundredths of its own. -/
theorem two_pow_le_ten_pow (h : 31 * n ≤ 100 * m) : 2 ^ n ≤ 10 ^ m := by
  refine (Nat.pow_le_pow_iff_left (by decide : 100 ≠ 0)).mp ?_
  calc (2 ^ n) ^ 100 = (2 ^ 100) ^ n := by rw [← Nat.pow_mul, ← Nat.pow_mul, Nat.mul_comm]
    _ ≤ (10 ^ 31) ^ n := Nat.pow_le_pow_left (by norm_num) n
    _ = 10 ^ (31 * n) := (Nat.pow_mul ..).symm
    _ ≤ 10 ^ (100 * m) := Nat.pow_le_pow_right (by decide) h
    _ = (10 ^ m) ^ 100 := by rw [← Nat.pow_mul, Nat.mul_comm]

/-! ### Logarithms -/

/-- The logarithm of a fraction is that of the numerator less that of the denominator, or one less. -/
theorem log_div_mem (hnum : 0 < num) (hden : 0 < den) :
    (num.log2 : Int) - den.log2 - 1 ≤ Int.log 2 ((num : ℚ) / den) ∧
      Int.log 2 ((num : ℚ) / den) ≤ num.log2 - den.log2 := by
  have hnumlow : (2 : ℚ) ^ (num.log2 : Int) ≤ num := by
    exact_mod_cast Nat.log2_self_le hnum.ne'
  have hnumhigh : (num : ℚ) < 2 ^ (num.log2 + 1 : Int) := by
    exact_mod_cast Nat.lt_log2_self
  have hdenlow : (2 : ℚ) ^ (den.log2 : Int) ≤ den := by
    exact_mod_cast Nat.log2_self_le hden.ne'
  have hdenhigh : (den : ℚ) < 2 ^ (den.log2 + 1 : Int) := by
    exact_mod_cast Nat.lt_log2_self
  have hden' : (0 : ℚ) < den := by exact_mod_cast hden
  have hpos : (0 : ℚ) < num / den := by positivity
  have hzpow (i j : Int) : (2 : ℚ) ^ (i - j) = 2 ^ i / 2 ^ j := zpow_sub₀ two_ne_zero i j
  constructor
  · refine (Int.zpow_le_iff_le_log (by decide : 1 < 2) hpos).mp ?_
    rw [Nat.cast_ofNat, sub_sub, hzpow]
    exact div_le_div₀ (by positivity) hnumlow hden' hdenhigh.le
  · refine Int.lt_add_one_iff.mp ((Int.lt_zpow_iff_log_lt (by decide : 1 < 2) hpos).mp ?_)
    rw [Nat.cast_ofNat, sub_add_eq_add_sub, hzpow]
    exact div_lt_div₀ hnumhigh hdenlow (by positivity) (by positivity)

/-- The whole logarithm of a fraction is the exponent of the power of two below it. -/
theorem log2Div_eq (hnum : 0 < num) (hden : 0 < den) :
    log2Div num den = Int.log 2 ((num : ℚ) / den) := by
  obtain ⟨hlow, hhigh⟩ := log_div_mem hnum hden
  have hpos : (0 : ℚ) < num / den := by positivity
  have hless : (num : ℚ) / den < 2 ^ ((num.log2 : Int) - den.log2) ↔ _ := div_lt_two_zpow_iff hden _
  rw [← Nat.cast_ofNat, Int.lt_zpow_iff_log_lt (by decide : 1 < 2) hpos] at hless
  simp only [log2Div, Nat.pow_eq]
  split
  case isTrue h =>
    have := hless.mpr h
    omega
  case isFalse h =>
    have := mt hless.mp h
    omega

/-! ### Rounding -/

/-- Rounding a fraction to a whole number gives the same after the fraction has been expanded. -/
theorem roundDiv_mul (hk : 0 < k) : roundDiv (num * k) (den * k) = roundDiv num den := by
  have hdiv : num * k / (den * k) = num / den := Nat.mul_div_mul_right num den hk
  have hmod : num * k % (den * k) = num % den * k := Nat.mul_mod_mul_right k num den
  have hlt : 2 * (num % den * k) < den * k ↔ 2 * (num % den) < den := by
    rw [← Nat.mul_assoc]
    exact Nat.mul_lt_mul_right hk
  have heq : 2 * (num % den * k) = den * k ↔ 2 * (num % den) = den := by
    rw [← Nat.mul_assoc]
    exact Nat.mul_left_inj hk.ne'
  simp only [roundDiv, hdiv, hmod, hlt, heq]

/-- Fractions of one value are rounded to the same whole number, so only the value matters. -/
theorem roundDiv_congr (hden : 0 < den) (hden' : 0 < den') (h : num * den' = num' * den) :
    roundDiv num den = roundDiv num' den' := by
  calc roundDiv num den = roundDiv (num * den') (den * den') := (roundDiv_mul hden').symm
    _ = roundDiv (num' * den) (den' * den) := by rw [h, Nat.mul_comm den]
    _ = roundDiv num' den' := roundDiv_mul hden

/-- Fractions of one value have the same nearest magnitude, because their logarithms and what is
rounded are the same. -/
theorem nearestPlace_congr (hden : 0 < den) (hden' : 0 < den') (h : num * den' = num' * den) :
    nearestPlace num den = nearestPlace num' den' := by
  have hzero : num = 0 ↔ num' = 0 := by
    have := congrArg (· = 0) h
    simpa [hden.ne', hden'.ne'] using this
  by_cases hnum : num = 0
  · simp [nearestPlace, hnum, hzero.mp hnum]
  · have hnum' := mt hzero.mpr hnum
    have hvalue : (num : ℚ) / den = num' / den' := by
      rw [div_eq_div_iff (by positivity) (by positivity)]
      exact_mod_cast h
    have hlog : log2Div num den = log2Div num' den' := by
      rw [log2Div_eq (by omega) hden, log2Div_eq (by omega) hden', hvalue]
    have hround (x y : ℕ) (hy : 0 < y) :
        roundDiv (num * x) (den * y) = roundDiv (num' * x) (den' * y) := by
      refine roundDiv_congr (Nat.mul_pos hden hy) (Nat.mul_pos hden' hy) ?_
      rw [Nat.mul_mul_mul_comm, h, Nat.mul_mul_mul_comm]
    simp only [nearestPlace, if_neg hnum, if_neg hnum', hlog, Nat.pow_eq]
    rw [hround _ _ (Nat.pow_pos (by decide))]

/-! ### Values outside the range -/

/-- A fraction below one half is rounded to zero, whether it is a reduced one or not. -/
theorem roundDiv_eq_zero (h : 2 * num < den) : roundDiv num den = 0 := by
  have hdiv : num / den = 0 := Nat.div_eq_of_lt (by omega)
  have hmod : num % den = num := Nat.mod_eq_of_lt (by omega)
  simp only [roundDiv, hdiv, hmod, h, if_true]

/-- A value below half of the least magnitude that is not zero is nearest to zero. -/
theorem nearestPlace_eq_zero (hm : 1075 ≤ m) (h : num * 2 ^ m < den) : nearestPlace num den = 0 := by
  by_cases hnum : num = 0
  · rw [nearestPlace, if_pos hnum]
  have hden : 0 < den := by omega
  have hpos : (0 : ℚ) < num / den := by positivity
  have hlog : log2Div num den < -(m : Int) := by
    rw [log2Div_eq (by omega) hden]
    refine (Int.lt_zpow_iff_log_lt (by decide : 1 < 2) hpos).mp ?_
    have hup : (-(m : Int)).toNat = 0 := by omega
    have hdown : (- -(m : Int)).toNat = m := by omega
    rwa [Nat.cast_ofNat, div_lt_two_zpow_iff hden, hup, hdown, Nat.pow_zero, Nat.mul_one]
  have hblock : (log2Div num den + 1022).toNat = 0 := by omega
  have hround : roundDiv (num * 2 ^ (1074 - 0)) (den * 2 ^ (0 - 1074)) = 0 := by
    refine roundDiv_eq_zero ?_
    have hdouble (i : Nat) : 2 * (num * 2 ^ i) = num * 2 ^ (i + 1) := by
      rw [Nat.pow_succ, Nat.mul_comm 2, Nat.mul_assoc]
    calc 2 * (num * 2 ^ (1074 - 0)) = num * 2 ^ (1074 - 0 + 1) := hdouble _
      _ ≤ num * 2 ^ m := Nat.mul_le_mul_left _ (Nat.pow_le_pow_right (by decide) hm)
      _ < den := h
      _ = den * 2 ^ (0 - 1074) := (Nat.mul_one den).symm
  simp only [nearestPlace, if_neg hnum, hblock, Nat.pow_eq, hround, Nat.zero_mul]

/-- A value far beyond the last finite magnitude has no finite magnitude nearest to it, and is read
as an infinity. -/
theorem magnitudes_le_nearestPlace (hm : 1025 ≤ m) (hden : 0 < den) (h : den * 2 ^ m ≤ num) :
    magnitudes ≤ nearestPlace num den := by
  have hnum : 0 < num := lt_of_lt_of_le (by positivity) h
  have hpos : (0 : ℚ) < num / den := by positivity
  have hlog : (m : Int) ≤ log2Div num den := by
    rw [log2Div_eq hnum hden]
    refine not_lt.mp fun hlt => ?_
    have hlt' := (Int.lt_zpow_iff_log_lt (by decide : 1 < 2) hpos).mpr hlt
    have hup : (m : Int).toNat = m := by omega
    have hdown : (-(m : Int)).toNat = 0 := by omega
    rw [Nat.cast_ofNat, div_lt_two_zpow_iff hden, hup, hdown, Nat.pow_zero, Nat.mul_one] at hlt'
    exact not_le.mpr hlt' h
  have hblock : 2047 ≤ (log2Div num den + 1022).toNat := by omega
  calc magnitudes ≤ (log2Div num den + 1022).toNat * blockSize := Nat.mul_le_mul_right _ hblock
    _ ≤ nearestPlace num den := by
      rw [nearestPlace, if_neg hnum.ne']
      exact Nat.le_add_right _ _

/-! ### Decimals -/

/-- A fraction is read as the number in its nearest place, so fractions with the same nearest place are
read alike. -/
theorem ofRatio_congr (h : nearestPlace num den = nearestPlace num' den') :
    Double.ofRatio negative num den = .ofRatio negative num' den' := by
  simp only [Double.ofRatio, h]

/-- A number with few digits in front of a power far below the least magnitude is nearest to zero. -/
theorem nearestPlace_eq_zero_of_log
    (h : ((digits.log2 : Int) + 1) * 31 / 100 + 1 + exponent < -400) :
    nearestPlace (digits * 10 ^ exponent.toNat) (10 ^ (-exponent).toNat) = 0 := by
  obtain ⟨places, hplaces⟩ : ∃ places : Nat, exponent = -(places : Int) := ⟨exponent.natAbs, by omega⟩
  subst hplaces
  have hup : (-(places : Int)).toNat = 0 := by omega
  have hdown : (- -(places : Int)).toNat = places := by omega
  rw [hup, hdown, Nat.pow_zero, Nat.mul_one]
  -- The digits take up `m` places at most, and each of the other places is worth three bits.
  obtain ⟨m, hm⟩ : ∃ m, m = (digits.log2 + 1) * 31 / 100 + 1 := ⟨_, rfl⟩
  have hdigits : digits < 10 ^ m :=
    calc digits < 2 ^ (digits.log2 + 1) := Nat.lt_log2_self
      _ ≤ 10 ^ m := two_pow_le_ten_pow (by omega)
  obtain ⟨bits, hbits⟩ : ∃ bits, bits = (places - m) * 3 := ⟨_, rfl⟩
  refine nearestPlace_eq_zero (m := bits) (by omega) ?_
  calc digits * 2 ^ bits < 10 ^ m * 2 ^ bits :=
        Nat.mul_lt_mul_of_pos_right hdigits (Nat.pow_pos (by decide))
    _ ≤ 10 ^ m * 10 ^ (places - m) := Nat.mul_le_mul_left _ (two_pow_le_ten_pow (by omega))
    _ = 10 ^ places := by
      rw [← Nat.pow_add]
      congr 1
      omega

/-- A decimal whose digits and exponent together are so great that reading does not compute the
power has no finite magnitude nearest to it. -/
theorem magnitudes_le_nearestPlace_of_log (hdigits : digits ≠ 0)
    (h : 400 < (digits.log2 : Int) * 3 / 10 + exponent) :
    magnitudes ≤ nearestPlace (digits * 10 ^ exponent.toNat) (10 ^ (-exponent).toNat) := by
  obtain ⟨m, hm⟩ : ∃ m, m = digits.log2 * 3 / 10 := ⟨_, rfl⟩
  have hlow : 10 ^ m ≤ digits :=
    calc 10 ^ m ≤ 2 ^ digits.log2 := ten_pow_le_two_pow (by omega)
      _ ≤ digits := Nat.log2_self_le hdigits
  obtain ⟨bits, hbits⟩ : ∃ bits, bits = (m + exponent.toNat - (-exponent).toNat) * 3 := ⟨_, rfl⟩
  refine magnitudes_le_nearestPlace (m := bits) (by omega) (Nat.pow_pos (by decide)) ?_
  calc 10 ^ (-exponent).toNat * 2 ^ bits
    _ ≤ 10 ^ (-exponent).toNat * 10 ^ (m + exponent.toNat - (-exponent).toNat) :=
        Nat.mul_le_mul_left _ (two_pow_le_ten_pow (by omega))
    _ = 10 ^ (m + exponent.toNat) := by
      rw [← Nat.pow_add]
      congr 1
      omega
    _ = 10 ^ m * 10 ^ exponent.toNat := Nat.pow_add ..
    _ ≤ digits * 10 ^ exponent.toNat := Nat.mul_le_mul_right _ hlow

/-- Reading a decimal is rounding its value, also where the value is so large or so small that no
power is computed. The shortcuts change no result. -/
theorem ofDecimal_eq (negative : Bool) (digits : Nat) (exponent : Int) :
    Double.ofDecimal negative digits exponent =
      .ofRatio negative (digits * 10 ^ exponent.toNat) (10 ^ (-exponent).toNat) := by
  have hzero : nearestPlace 0 1 = 0 := rfl
  simp only [Double.ofDecimal, Nat.pow_eq]
  split_ifs with hsmall hlarge
  · refine ofRatio_congr (hzero.trans ?_)
    rcases hsmall with rfl | hsmall
    · rw [Nat.zero_mul, nearestPlace, if_pos rfl]
    · exact (nearestPlace_eq_zero_of_log hsmall).symm
  · have hdigits : digits ≠ 0 := fun h => hsmall (.inl h)
    rw [Double.ofRatio, dif_neg (not_lt.mpr (magnitudes_le_nearestPlace_of_log hdigits hlarge))]
  · rfl

/-- A decimal is read as the number nearest to any fraction of its value, and so independently of
how it is written. -/
theorem ofDecimal_eq_ofRatio (hden : 0 < den) (h : (digits : ℚ) * 10 ^ exponent = num / den) :
    Double.ofDecimal negative digits exponent = .ofRatio negative num den := by
  have hpow := zpow_eq_div (by decide : 0 < 10) exponent
  rw [← Nat.cast_ofNat, hpow, mul_div_assoc', div_eq_div_iff (by positivity) (by positivity)] at h
  rw [ofDecimal_eq]
  exact ofRatio_congr (nearestPlace_congr (by positivity) hden (by exact_mod_cast h))

/-- Decimals of one value are read as the same number, though their digits and exponents may
differ. -/
theorem ofDecimal_congr (h : (digits : ℚ) * 10 ^ exponent = digits' * 10 ^ exponent') :
    Double.ofDecimal negative digits exponent = .ofDecimal negative digits' exponent' := by
  rw [ofDecimal_eq negative digits']
  refine ofDecimal_eq_ofRatio (by positivity) (h.trans ?_)
  rw [← Nat.cast_ofNat, zpow_eq_div (by decide : 0 < 10), mul_div_assoc', Nat.cast_mul]

end CrdToolset.Number
