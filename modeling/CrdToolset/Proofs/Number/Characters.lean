import CrdToolset.Number.Layout
import CrdToolset.Number.Numeral
import Mathlib.Data.List.Basic

/-!
# Characters of numbers

Numbers are written with a few characters only, none of which has a meaning between the numbers of a
list. So a number ends where the first other character stands. The digits of a natural number
determine it, which tells different numbers apart.
-/

namespace CrdToolset.Number

variable {c : Char} {n : Nat} {d : Decimal} {x : Finite}

/-- The characters that numbers are written with; letters are those of exponents and of the numbers that
are not finite. -/
def numeralChars : List Char :=
  ['0', '1', '2', '3', '4', '5', '6', '7', '8', '9', '+', '-', '.', 'e', 'i', 'n', 'f', 'N', 'a']

/-- A decimal digit is one of the characters that numbers are written with. -/
theorem digit_mem_numeralChars (h : n < 10) : digit n ∈ numeralChars := by
  revert n
  decide

/-- The digits of a natural number are among the characters of numbers. -/
theorem mem_numeralChars_of_mem_digitsOf (h : c ∈ digitsOf n) : c ∈ numeralChars := by
  induction n using digitsOf.induct with
  | case1 n hlt =>
    rw [digitsOf, if_pos hlt] at h
    obtain rfl := List.mem_singleton.mp h
    exact digit_mem_numeralChars hlt
  | case2 n hge ih =>
    rw [digitsOf, if_neg hge, List.mem_append, List.mem_singleton] at h
    rcases h with h | rfl
    · exact ih h
    · exact digit_mem_numeralChars (Nat.mod_lt n (by decide))

/-- A whole number is written with the characters of numbers, its minus sign included. -/
theorem mem_numeralChars_of_mem_signedDigitsOf {n : Int} (h : c ∈ signedDigitsOf n) :
    c ∈ numeralChars := by
  unfold signedDigitsOf at h
  split at h
  · rcases List.mem_cons.mp h with rfl | h
    · decide
    · exact mem_numeralChars_of_mem_digitsOf h
  · exact mem_numeralChars_of_mem_digitsOf h

/-- The sign in front of a number, if it has one, is among the characters of numbers. -/
theorem mem_numeralChars_of_mem_sign {negative : Bool} (h : c ∈ sign negative) : c ∈ numeralChars := by
  cases negative with
  | false => cases h
  | true =>
    obtain rfl := List.mem_singleton.mp h
    decide

/-- A decimal that is written out without an exponent has only the characters of numbers in it. -/
theorem mem_numeralChars_of_mem_positional (h : c ∈ d.positional) : c ∈ numeralChars := by
  have hzeros : ∀ count, c ∈ List.replicate count '0' → c ∈ numeralChars := by
    intro count hc
    rw [List.eq_of_mem_replicate hc]
    decide
  have hpadded : ∀ count, c ∈ List.replicate count '0' ++ digitsOf d.digits → c ∈ numeralChars := by
    intro count hc
    exact (List.mem_append.mp hc).elim (hzeros count) mem_numeralChars_of_mem_digitsOf
  unfold Decimal.positional at h
  dsimp only at h
  split at h
  · exact (List.mem_append.mp h).elim mem_numeralChars_of_mem_digitsOf (hzeros _)
  · rw [List.mem_append, List.mem_cons] at h
    rcases h with h | rfl | h
    · exact hpadded _ (List.mem_of_mem_take h)
    · decide
    · exact hpadded _ (List.mem_of_mem_drop h)

/-- A decimal that is written with an exponent has only the characters of numbers in it, the letter
before the exponent included. -/
theorem mem_numeralChars_of_mem_scientific (h : c ∈ d.scientific) : c ∈ numeralChars := by
  unfold Decimal.scientific at h
  simp only [List.mem_append] at h
  rcases h with ((h | h) | h) | h
  · exact mem_numeralChars_of_mem_digitsOf (List.mem_of_mem_take h)
  · split at h
    · cases h
    · rcases List.mem_cons.mp h with rfl | h
      · decide
      · exact mem_numeralChars_of_mem_digitsOf (List.mem_of_mem_drop h)
  · rcases List.mem_pair.mp h with rfl | rfl
    · decide
    · split <;> decide
  · exact mem_numeralChars_of_mem_digitsOf h

/-- A finite number in a JSON text has only the characters of numbers in it, whichever layout its
digits get. -/
theorem mem_numeralChars_of_mem_inJson (h : c ∈ x.inJson) : c ∈ numeralChars := by
  unfold Finite.inJson at h
  dsimp only at h
  rcases List.mem_append.mp h with h | h
  · exact mem_numeralChars_of_mem_sign h
  · split at h
    · rcases List.mem_append.mp h with h | h
      · exact mem_numeralChars_of_mem_positional h
      · split at h
        · rcases List.mem_pair.mp h with rfl | rfl <;> decide
        · cases h
    · exact mem_numeralChars_of_mem_scientific h

/-- The bound of a range, as it stands in a literal, has only the characters of numbers in it. So it
breaks no line and ends at the comma behind it. -/
theorem mem_numeralChars_of_mem_asBound {x : Double} (h : c ∈ x.asBound.toList) : c ∈ numeralChars := by
  cases x with
  | finite x =>
    rw [Double.asBound, String.toList_ofList] at h
    exact (List.mem_append.mp h).elim mem_numeralChars_of_mem_sign mem_numeralChars_of_mem_positional
  | infinite negative =>
    rw [Double.asBound, String.toList_ofList] at h
    rcases List.mem_append.mp h with h | h
    · exact mem_numeralChars_of_mem_sign h
    · simp only [List.mem_cons, List.not_mem_nil, or_false] at h
      rcases h with rfl | rfl | rfl <;> decide
  | nan =>
    have hchars : Double.nan.asBound.toList = ['N', 'a', 'N'] := by decide
    rw [hchars] at h
    simp only [List.mem_cons, List.not_mem_nil, or_false] at h
    rcases h with rfl | rfl | rfl <;> decide

/-- The character of a digit below ten stands for that digit: its code point lies as far behind that
of zero. -/
theorem toNat_digit (h : n < 10) : (digit n).toNat - 48 = n := by
  revert n
  decide

/-- Reading the digits of a natural number gives the number back. -/
theorem wholeValue_digitsOf (n : Nat) : wholeValue (digitsOf n) = n := by
  induction n using digitsOf.induct with
  | case1 n hlt =>
    rw [digitsOf, if_pos hlt, wholeValue, List.foldl_cons, List.foldl_nil, toNat_digit hlt]
    omega
  | case2 n hge ih =>
    rw [wholeValue] at ih
    rw [digitsOf, if_neg hge, wholeValue, List.foldl_append, ih, List.foldl_cons, List.foldl_nil,
      toNat_digit (Nat.mod_lt n (by decide))]
    omega

/-- Natural numbers with the same digits are equal, since the digits can be read back. -/
theorem digitsOf_injective : Function.Injective digitsOf :=
  Function.LeftInverse.injective wholeValue_digitsOf

end CrdToolset.Number
