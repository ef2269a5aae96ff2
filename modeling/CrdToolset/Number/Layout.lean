import CrdToolset.Number.Digits
import CrdToolset.Number.Shortest

/-!
# How a number is laid out

The digits of a number are laid out in one of two ways. A bound of a range is written positionally
whatever its size, and as a whole number where it is one. A number in a JSON text always shows a
fraction or an exponent, and is written positionally only while its leading digit stands between the
fifth place after the point and the sixteenth before it.
-/

namespace CrdToolset.Number

/-- A decimal with a point and no exponent, whatever its size. Whole numbers have no point. -/
def Decimal.positional (d : Decimal) : List Char :=
  let ds := digitsOf d.digits
  if 0 ≤ d.exponent then ds ++ List.replicate d.exponent.toNat '0'
  else
    let places := (-d.exponent).toNat
    let ds := List.replicate (places + 1 - ds.length) '0' ++ ds
    ds.take (ds.length - places) ++ '.' :: ds.drop (ds.length - places)

/-- A decimal with one digit before the point and an exponent that always has a sign. -/
def Decimal.scientific (d : Decimal) : List Char :=
  let ds := digitsOf d.digits
  let exponent := d.exponent + (ds.length - 1 : Nat)
  ds.take 1 ++ (if ds.length = 1 then [] else '.' :: ds.drop 1) ++
    ['e', if exponent < 0 then '-' else '+'] ++ digitsOf exponent.natAbs

/-- The sign in front of a number, which is written for negative numbers only. -/
def sign (negative : Bool) : List Char := if negative then ['-'] else []

/-- A finite number as a JSON text has it. A fraction or an exponent tells it apart from a whole
number. -/
def Finite.inJson (x : Finite) : List Char :=
  let d := x.shortest .toEven
  let leading := d.exponent + ((digitsOf d.digits).length - 1 : Nat)
  sign x.negative ++
    if -5 ≤ leading ∧ leading ≤ 15 then
      d.positional ++ (if 0 ≤ d.exponent then ['.', '0'] else [])
    else d.scientific

/-- A number as the bound of a range stands in generated code, positional whatever its size. -/
def Double.asBound : Double → String
  | .finite x => String.ofList (sign x.negative ++ (x.shortest .up).positional)
  | .infinite negative => String.ofList (sign negative ++ ['i', 'n', 'f'])
  | .nan => "NaN"

end CrdToolset.Number
