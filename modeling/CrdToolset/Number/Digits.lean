/-!
# Digits

Natural numbers written in decimal, without leading zeros, and read back in any base up to sixteen.
What is written in decimal reads back as the same number.
-/

namespace CrdToolset.Number

/-- The character of the decimal digit for a number below ten. -/
def digit (n : Nat) : Char := Char.ofNat (48 + n)

/-- A number in decimal, without leading zeros. Zero has one digit. -/
def digitsOf (n : Nat) : List Char :=
  if n < 10 then [digit n] else digitsOf (n / 10) ++ [digit (n % 10)]

/-- A whole number in decimal, with a minus sign in front if it is negative. -/
def signedDigitsOf (n : Int) : List Char :=
  if n < 0 then '-' :: digitsOf n.natAbs else digitsOf n.natAbs

/-- The value of a digit, if the character is one. Letters of either case go on after nine. -/
def digitValue? (c : Char) : Option Nat :=
  if '0' ≤ c ∧ c ≤ '9' then some (c.toNat - 48)
  else if 'a' ≤ c ∧ c ≤ 'f' then some (c.toNat - 87)
  else if 'A' ≤ c ∧ c ≤ 'F' then some (c.toNat - 55)
  else none

/-- Reads one more digit in the base after those that gave `value`. A digit that is too great for
the base is none. -/
def readDigit? (base : Nat) (value : Nat) (c : Char) : Option Nat :=
  (digitValue? c).bind fun d => if d < base then some (value * base + d) else none

/-- The number that a text of digits in the base stands for; there must be a digit, and nothing
else. -/
def readDigits? (base : Nat) (cs : List Char) : Option Nat :=
  if cs.isEmpty then none else cs.foldlM (readDigit? base) 0

end CrdToolset.Number
