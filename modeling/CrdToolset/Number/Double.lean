/-!
# Double-precision numbers

The numbers of the IEEE double format, given exactly. They are only read, compared for equality and
printed here, never computed with, so a finite one is its sign and the place of its magnitude in the
increasing list of all finite magnitudes. Reading a decimal picks the nearest of them in exact
arithmetic, and of two that are equally near the one in an even place.
-/

namespace CrdToolset.Number

/-- How many magnitudes share an exponent: one for each way to fill the 52 bits of the fraction. -/
def blockSize : Nat := Nat.pow 2 52

/-- How many finite magnitudes there are, which are 2047 blocks of those that share an exponent. -/
def magnitudes : Nat := 2047 * blockSize

/-- A finite number of the double format. Equal magnitudes have equal places, so numbers can be
compared by them. -/
structure Finite where
  /-- A minus sign is written, which zero may have too. -/
  negative : Bool
  /-- The place of the magnitude among all finite magnitudes, zero being the first. -/
  place : Nat
  /-- The place is one of those there are. -/
  place_lt : place < magnitudes
  deriving DecidableEq

/-- A number of the double format: a finite one, an infinity, or the value that is not a number. -/
inductive Double where
  /-- A finite number. -/
  | finite (x : Finite)
  /-- One of the two infinities. -/
  | infinite (negative : Bool)
  /-- Not a number. -/
  | nan
  deriving DecidableEq

/-- The number of the block that the magnitude is in; the first two blocks share their exponent and count as
one. -/
def Finite.block (x : Finite) : Nat := x.place / blockSize - 1

/-- The significand of a finite number, whose magnitude is `significand * 2 ^ exponent`. -/
def Finite.significand (x : Finite) : Nat := x.place - x.block * blockSize

/-- The exponent of a finite number, whose magnitude is `significand * 2 ^ exponent`. -/
def Finite.exponent (x : Finite) : Int := (x.block : Int) - 1074

/-- The whole number nearest to `num / den`, of two equally near ones the even. -/
def roundDiv (num den : Nat) : Nat :=
  let q := num / den
  let r := num % den
  if 2 * r < den then q
  else if 2 * r = den then (if q % 2 = 0 then q else q + 1)
  else q + 1

/-- The greatest `l` with `2 ^ l ≤ num / den`, where both are positive. -/
def log2Div (num den : Nat) : Int :=
  let guess : Int := (num.log2 : Int) - den.log2
  if num * Nat.pow 2 (-guess).toNat < den * Nat.pow 2 guess.toNat then guess - 1 else guess

/-- The place of the magnitude nearest to `num / den`; the places go on past the finite ones. -/
def nearestPlace (num den : Nat) : Nat :=
  if num = 0 then 0
  else
    let block := (log2Div num den + 1022).toNat
    block * blockSize + roundDiv (num * Nat.pow 2 (1074 - block)) (den * Nat.pow 2 (block - 1074))

/-- The number nearest to `num / den` with the given sign; past the last finite one, an infinity. -/
def Double.ofRatio (negative : Bool) (num den : Nat) : Double :=
  if h : nearestPlace num den < magnitudes then .finite ⟨negative, nearestPlace num den, h⟩
  else .infinite negative

/-- The number nearest to `digits * 10 ^ exponent`. A number far outside the range of the format becomes
infinity or zero without the power being computed. -/
def Double.ofDecimal (negative : Bool) (digits : Nat) (exponent : Int) : Double :=
  let atLeast : Int := (digits.log2 : Int) * 3 / 10
  let atMost : Int := ((digits.log2 : Int) + 1) * 31 / 100 + 1
  if digits = 0 ∨ atMost + exponent < -400 then .ofRatio negative 0 1
  else if 400 < atLeast + exponent then .infinite negative
  else .ofRatio negative (digits * Nat.pow 10 exponent.toNat) (Nat.pow 10 (-exponent).toNat)

end CrdToolset.Number
