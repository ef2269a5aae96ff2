import CrdToolset.Number.Double

/-!
# The shortest decimal of a number

A finite number is written with the fewest decimal digits that read back as the same number. On the grid
of each length, one digit first, the two neighbours of the number are tried; the first grid on which one
of them reads back decides, and of two that do the nearer is taken. Every number has an exact decimal as
well, which stands at the end of the search.
-/

namespace CrdToolset.Number

/-- A decimal number: the product of its digits, read as one number, and a power of ten. -/
structure Decimal where
  /-- The significant digits, as one number. -/
  digits : Nat
  /-- The power of ten they are multiplied by. -/
  exponent : Int
  deriving DecidableEq

/-- Which of two decimals is taken that are equally near to a number. Different writers of numbers
decide differently. -/
inductive Tie where
  /-- The one with an even last digit. -/
  | toEven
  /-- The greater one. -/
  | up

/-- The magnitude of a finite number as a fraction with a power of two below or above the line. -/
def Finite.ratio (x : Finite) : Nat × Nat :=
  (x.significand * Nat.pow 2 x.exponent.toNat, Nat.pow 2 (-x.exponent).toNat)

/-- The greatest `e` with `10 ^ e ≤ num / den`, where both are positive. -/
def log10Div (num den : Nat) : Int :=
  let guess := (log2Div num den * 30103).fdiv 100000
  let reaches (e : Int) : Bool := den * Nat.pow 10 e.toNat ≤ num * Nat.pow 10 (-e).toNat
  if reaches (guess + 1) then guess + 1 else if reaches guess then guess else guess - 1

/-- The decimal reads back as the number, with the sign of the number in front. -/
def Decimal.readsAs (d : Decimal) (x : Finite) : Bool :=
  Double.ofDecimal x.negative d.digits d.exponent == .finite x

/-- The neighbour of `num / den` among the multiples of `10 ^ exponent` that reads back as the number, and
the nearer one if both do. -/
def neighbour? (tie : Tie) (x : Finite) (num den : Nat) (exponent : Int) : Option Decimal :=
  let num := num * Nat.pow 10 (-exponent).toNat
  let den := den * Nat.pow 10 exponent.toNat
  let below : Decimal := ⟨num / den, exponent⟩
  let above : Decimal := ⟨num / den + 1, exponent⟩
  let rest := num % den
  match below.readsAs x, above.readsAs x with
  | true, true =>
    if 2 * rest < den then some below
    else if den < 2 * rest then some above
    else match tie with
      | .up => some above
      | .toEven => if below.digits % 2 = 0 then some below else some above
  | true, false => some below
  | false, true => some above
  | false, false => none

/-- The finite number written out exactly, which takes more digits than are needed to read it
back. -/
def Finite.exactDecimal (x : Finite) : Decimal :=
  ⟨x.significand * Nat.pow 2 x.exponent.toNat * Nat.pow 5 (-x.exponent).toNat, min x.exponent 0⟩

/-- Moves zeros at the end of the digits into the exponent, at most `fuel` of them. -/
def Decimal.trim : Nat → Decimal → Decimal
  | 0, d => d
  | fuel + 1, d =>
    if d.digits ≠ 0 ∧ d.digits % 10 = 0 then Decimal.trim fuel ⟨d.digits / 10, d.exponent + 1⟩ else d

/-- The magnitude of a finite number with the fewest digits that read back as the number, and
without zeros at the end. -/
def Finite.shortest (tie : Tie) (x : Finite) : Decimal :=
  if x.place = 0 then ⟨0, 0⟩
  else
    let (num, den) := x.ratio
    let leading := log10Div num den
    let found := (List.range 17).findSome? fun (more : Nat) =>
      neighbour? tie x num den (leading - (more : Int))
    let d := found.getD x.exactDecimal
    d.trim d.digits.log2

end CrdToolset.Number
