import CrdToolset.Number.Shortest
import CrdToolset.Proofs.Number.Nearest

/-!
# The shortest decimal reads back

A finite number is the nearest one to its own magnitude. Its shortest decimal is read as the number: on
each grid only such a decimal is taken, the exact one at the end of the search has the value of the
number, and moving zeros into the exponent changes no value.
-/

namespace CrdToolset.Number

variable {x : Finite} {d : Decimal} {tie : Tie} {num den n : Nat} {exponent : Int}

/-! ### Magnitudes -/

/-- The place of a number among all magnitudes is given by its block and its significand, block
after block. -/
theorem Finite.block_mul_add_significand (x : Finite) :
    x.block * blockSize + x.significand = x.place := by
  unfold significand block blockSize
  simp only [Nat.pow_eq]
  omega

/-- The significand of a finite number has 53 bits at most, in the first block and in the others. -/
theorem Finite.significand_lt (x : Finite) : x.significand < 2 ^ 53 := by
  unfold significand block blockSize
  simp only [Nat.pow_eq]
  omega

/-- Beyond the first block the significand of a number has exactly 53 bits, so the block can be told
from its magnitude. -/
theorem Finite.le_significand (h : 0 < x.block) : 2 ^ 52 ≤ x.significand := by
  unfold significand block blockSize at *
  simp only [Nat.pow_eq] at *
  omega

/-- The magnitude of a number as a fraction has the value of the significand and the exponent. -/
theorem Finite.ratio_div (x : Finite) :
    (x.ratio.1 : ℚ) / x.ratio.2 = x.significand * 2 ^ x.exponent := by
  have hpow := zpow_eq_div (by decide : 0 < 2) x.exponent
  rw [Nat.cast_ofNat] at hpow
  simp only [ratio, Nat.pow_eq]
  rw [hpow, Nat.cast_mul, mul_div_assoc]

/-- The denominator in the magnitude of a number is a power of two, and so it is positive. -/
theorem Finite.ratio_snd_pos (x : Finite) : 0 < x.ratio.2 := by
  simp only [ratio, Nat.pow_eq]
  positivity

/-- The block of a number can be told from the logarithm of its magnitude, and the first block from
a logarithm that is too low. -/
theorem Finite.log2Div_ratio (h : x.significand ≠ 0) :
    (log2Div x.ratio.1 x.ratio.2 + 1022).toNat = x.block := by
  have hnum : 0 < x.ratio.1 := by
    simp only [ratio, Nat.pow_eq]
    positivity
  have hpos : (0 : ℚ) < x.ratio.1 / x.ratio.2 := div_pos (by exact_mod_cast hnum)
    (by exact_mod_cast x.ratio_snd_pos)
  have hexponent : x.exponent = (x.block : Int) - 1074 := rfl
  have hsplit (i : Int) : (2 : ℚ) ^ (i + x.exponent) = 2 ^ i * 2 ^ x.exponent :=
    zpow_add₀ two_ne_zero ..
  have hhigh : log2Div x.ratio.1 x.ratio.2 < 53 + x.exponent := by
    rw [log2Div_eq hnum x.ratio_snd_pos]
    refine (Int.lt_zpow_iff_log_lt (by decide : 1 < 2) hpos).mp ?_
    rw [ratio_div, Nat.cast_ofNat, hsplit]
    exact mul_lt_mul_of_pos_right (by exact_mod_cast x.significand_lt) (by positivity)
  have hlow (hblock : 0 < x.block) : 52 + x.exponent ≤ log2Div x.ratio.1 x.ratio.2 := by
    rw [log2Div_eq hnum x.ratio_snd_pos]
    refine (Int.zpow_le_iff_le_log (by decide : 1 < 2) hpos).mp ?_
    rw [ratio_div, Nat.cast_ofNat, hsplit]
    exact mul_le_mul_of_nonneg_right (by exact_mod_cast le_significand hblock) (by positivity)
  omega

/-- A fraction that is a whole number is rounded to this number. -/
theorem roundDiv_mul_self (hden : 0 < den) : roundDiv (n * den) den = n := by
  have hdiv : n * den / den = n := Nat.mul_div_cancel n hden
  have hmod : n * den % den = 0 := Nat.mul_mod_left n den
  simp only [roundDiv, hdiv, hmod, Nat.mul_zero, hden, if_true]

/-- The magnitude nearest to that of a finite number is its own, so the place of the number is found
again. -/
theorem Finite.nearestPlace_ratio (x : Finite) : nearestPlace x.ratio.1 x.ratio.2 = x.place := by
  by_cases h : x.significand = 0
  · have hblock : x.block = 0 := by
      by_contra hne
      have := le_significand (Nat.pos_of_ne_zero hne)
      omega
    have hplace := x.block_mul_add_significand
    simp only [nearestPlace, ratio, h, Nat.zero_mul, if_true]
    simpa [h, hblock] using hplace
  · have hnum : x.ratio.1 ≠ 0 := by
      simp only [ratio, Nat.pow_eq]
      positivity
    have hup : x.exponent.toNat = x.block - 1074 := by
      unfold exponent
      omega
    have hdown : (-x.exponent).toNat = 1074 - x.block := by
      unfold exponent
      omega
    have hround : roundDiv (x.ratio.1 * 2 ^ (1074 - x.block)) (x.ratio.2 * 2 ^ (x.block - 1074)) =
        x.significand := by
      simp only [ratio, Nat.pow_eq, hup, hdown]
      rw [Nat.mul_assoc, Nat.mul_comm (2 ^ (1074 - x.block))]
      exact roundDiv_mul_self (by positivity)
    simp only [nearestPlace, if_neg hnum, log2Div_ratio h, Nat.pow_eq, hround,
      block_mul_add_significand]

/-- A finite number is the nearest one to its own magnitude with its own sign. -/
theorem Finite.ofRatio_ratio (x : Finite) :
    Double.ofRatio x.negative x.ratio.1 x.ratio.2 = .finite x := by
  simp only [Double.ofRatio, nearestPlace_ratio, dif_pos x.place_lt]

/-! ### Decimals -/

/-- The value of a decimal: its digits as a whole number, times the power of ten that its exponent
says. -/
def Decimal.value (d : Decimal) : ℚ := d.digits * 10 ^ d.exponent

/-- Whether a decimal is read back as a number depends on the value of the decimal only. -/
theorem Decimal.readsAs_congr {d' : Decimal} (h : d.value = d'.value) :
    d.readsAs x = d'.readsAs x := by
  rw [readsAs, readsAs, ofDecimal_congr h]

/-- A decimal whose value is the magnitude of a number is read back as that number. -/
theorem Decimal.readsAs_of_value (h : d.value = x.significand * 2 ^ x.exponent) :
    d.readsAs x = true := by
  rw [readsAs, beq_iff_eq, ← x.ofRatio_ratio]
  exact ofDecimal_eq_ofRatio x.ratio_snd_pos (h.trans x.ratio_div.symm)

/-- The exact decimal of a number has the magnitude of the number for its value, whatever the
exponent of two is. -/
theorem Finite.value_exactDecimal (x : Finite) :
    x.exactDecimal.value = x.significand * 2 ^ x.exponent := by
  simp only [exactDecimal, Decimal.value, Nat.pow_eq]
  rcases le_total 0 x.exponent with h | h
  · obtain ⟨n, hn⟩ := Int.eq_ofNat_of_zero_le h
    simp [hn]
  · obtain ⟨n, hn⟩ := Int.exists_eq_neg_ofNat h
    have hten : (10 : ℚ) ^ n = 2 ^ n * 5 ^ n := by rw [← mul_pow]; norm_num
    simp [hn, hten]
    field_simp

/-- Moving zeros from the end of the digits into the exponent leaves the value of a decimal as it
is. -/
theorem Decimal.value_trim (fuel : Nat) (d : Decimal) : (d.trim fuel).value = d.value := by
  induction fuel generalizing d with
  | zero => rfl
  | succ fuel ih =>
    rw [trim]
    split
    case isTrue h =>
      have hdigits : (d.digits : ℚ) = (d.digits / 10 : ℕ) * 10 := by
        exact_mod_cast (Nat.div_mul_cancel (Nat.dvd_of_mod_eq_zero h.2)).symm
      rw [ih, value, value, hdigits, zpow_add_one₀ (by norm_num)]
      ring
    case isFalse => rfl

/-- The search takes a neighbour of the magnitude on a grid only if it is read back as the
number. -/
theorem readsAs_of_neighbour? (h : neighbour? tie x num den exponent = some d) :
    d.readsAs x = true := by
  unfold neighbour? at h
  dsimp only at h
  split at h
  case h_1 hbelow habove =>
    cases tie <;> dsimp only at h <;> split_ifs at h <;> obtain rfl := Option.some.inj h <;>
      assumption
  case h_2 hbelow _ => exact Option.some.inj h ▸ hbelow
  case h_3 _ habove => exact Option.some.inj h ▸ habove
  case h_4 => cases h

/-- The shortest decimal of a number is read back as the number, whether the search has found it or
the exact decimal was taken. -/
theorem Finite.readsAs_shortest (tie : Tie) (x : Finite) : (x.shortest tie).readsAs x = true := by
  unfold shortest
  split
  case isTrue h =>
    have hplace := x.block_mul_add_significand
    have hzero : x.significand = 0 := by omega
    refine Decimal.readsAs_of_value ?_
    simp [Decimal.value, hzero]
  case isFalse =>
    dsimp only
    rw [Decimal.readsAs_congr (Decimal.value_trim _ _)]
    cases hfound : (List.range 17).findSome? fun (more : Nat) =>
      neighbour? tie x x.ratio.1 x.ratio.2 (log10Div x.ratio.1 x.ratio.2 - (more : Int)) with
    | none => exact Decimal.readsAs_of_value x.value_exactDecimal
    | some d =>
      obtain ⟨more, _, hmore⟩ := List.exists_of_findSome?_eq_some hfound
      exact readsAs_of_neighbour? hmore

/-- The digits and the exponent of the shortest decimal of a number are read as the number
itself. -/
theorem Finite.ofDecimal_shortest (tie : Tie) (x : Finite) :
    Double.ofDecimal x.negative (x.shortest tie).digits (x.shortest tie).exponent = .finite x :=
  beq_iff_eq.mp (x.readsAs_shortest tie)

end CrdToolset.Number
