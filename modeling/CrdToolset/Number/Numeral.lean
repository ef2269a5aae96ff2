import CrdToolset.Number.Digits
import CrdToolset.Number.Double

/-!
# Numerals

Reads a number of the double format from its decimal numeral: an optional sign, digits with an optional
point among or beside them, and an optional exponent. The infinities and the value that is not a number
have names instead of digits, in capital or small letters.
-/

namespace CrdToolset.Number

/-- Takes an optional sign off a text; the result says whether it was a minus sign. -/
def takeSign : List Char → Bool × List Char
  | '-' :: rest => (true, rest)
  | '+' :: rest => (false, rest)
  | cs => (false, cs)

/-- The value of a text of decimal digits, which may be empty and then has the value zero. -/
def wholeValue (ds : List Char) : Nat := ds.foldl (fun n c => n * 10 + (c.toNat - 48)) 0

/-- Reads what stands after the digits of a numeral: nothing, or an exponent with a digit in it. -/
def readExponent? : List Char → Option Int
  | [] => some 0
  | e :: rest =>
    if e = 'e' ∨ e = 'E' then
      let (negative, ds) := takeSign rest
      if !ds.isEmpty && ds.all Char.isDigit then
        some (if negative then -(wholeValue ds : Int) else (wholeValue ds : Int))
      else none
    else none

/-- Reads digits, a point among them, and an exponent; there must be a digit before or after the
point. -/
def readMagnitude? (negative : Bool) (cs : List Char) : Option Double :=
  let whole := cs.takeWhile Char.isDigit
  let rest := cs.dropWhile Char.isDigit
  let (part, rest) := match rest with
    | '.' :: more => (more.takeWhile Char.isDigit, more.dropWhile Char.isDigit)
    | _ => ([], rest)
  if whole.isEmpty && part.isEmpty then none
  else (readExponent? rest).map fun e =>
    .ofDecimal negative (wholeValue (whole ++ part)) (e - part.length)

/-- Reads a number of the double format, or one of the names of its special values. -/
def Double.read? (cs : List Char) : Option Double :=
  let (negative, rest) := takeSign cs
  let name := String.ofList (rest.map Char.toLower)
  if name = "inf" ∨ name = "infinity" then some (.infinite negative)
  else if name = "nan" then some .nan
  else readMagnitude? negative rest

end CrdToolset.Number
