import CrdToolset.Number.Numeral
import CrdToolset.Yaml.Token

/-!
# What a scalar means

A scalar is a text, and may mean something else: nothing at all, a truth value, or a number. Its tag says
so, or else the way it is written does. Whole numbers fit into 64 bits, with or without a sign.
-/

namespace CrdToolset.Yaml

/-- The meaning of a scalar. The two kinds of whole numbers differ in how they are written. -/
inductive Scalar where
  /-- Nothing. -/
  | null
  /-- A truth value. -/
  | bool (b : Bool)
  /-- A whole number that is written without a minus sign. -/
  | natural (n : Nat)
  /-- A whole number that is written with a minus sign. -/
  | negated (n : Nat)
  /-- Any other number. -/
  | number (x : Number.Double)
  /-- A text. -/
  | text (s : String)

namespace Scalar

/-- The tag of a meaning in the core of YAML, by the short name of the meaning. -/
def coreTag (name : String) : String := "tag:yaml.org,2002:" ++ name

/-- The tag is one that only the writer of the document knows, so nothing follows from it. -/
def isLocalTag (tag : Option String) : Bool := tag.any fun t => t.startsWith "!"

/-- The text is one of the words that mean nothing at all. -/
def isNullWord (text : String) : Bool := ["null", "Null", "NULL", "~"].contains text

/-- The truth value that a text stands for, if it is one of the words for them. -/
def truth? (text : String) : Option Bool :=
  if ["true", "True", "TRUE"].contains text then some true
  else if ["false", "False", "FALSE"].contains text then some false
  else none

/-- Takes one plus sign off a text, after which no other sign may follow. Without a plus sign the
text stays. -/
def unsigned? (cs : List Char) : Option (List Char) :=
  match cs with
  | '+' :: rest => if rest.head?.any (fun c => c == '+' || c == '-') then none else some rest
  | _ => some cs

/-- More than one digit, the first of them a zero, after an optional sign. Such a text is no number. -/
def isPadded (cs : List Char) : Bool :=
  let ds := (Number.takeSign cs).2
  1 < ds.length && ds.head? == some '0' && ds.all Char.isDigit

/-- The whole number with the given digits, which may be in another base if they say so. -/
def digits? (cs : List Char) : Option Nat :=
  match cs with
  | '0' :: 'x' :: ds => Number.readDigits? 16 ds
  | '0' :: 'o' :: ds => Number.readDigits? 8 ds
  | '0' :: 'b' :: ds => Number.readDigits? 2 ds
  | ds => Number.readDigits? 10 ds

/-- The whole number that a text without a minus sign stands for, of any size. -/
def natural? (text : String) : Option Nat :=
  let cs := text.toList
  if isPadded cs then none else (unsigned? cs).bind digits?

/-- The magnitude of the whole number that a text with a minus sign stands for, of any size. -/
def negated? (text : String) : Option Nat :=
  match text.toList with
  | '-' :: ds => if isPadded ds then none else digits? ds
  | _ => none

/-- A number of the double format. It must be finite unless it has one of the names of the other
values. -/
def number? (text : String) : Option Number.Double :=
  if ["-.inf", "-.Inf", "-.INF"].contains text then some (.infinite true)
  else if [".nan", ".NaN", ".NAN"].contains text then some .nan
  else (unsigned? text.toList).bind fun cs =>
    if [".inf", ".Inf", ".INF"].contains (String.ofList cs) then some (.infinite false)
    else match Number.Double.read? cs with
      | some (.finite x) => some (.finite x)
      | _ => none

/-- The whole number that a text stands for, of any size, with or without a minus sign. -/
def whole? (text : String) : Option Scalar :=
  match natural? text with
  | some n => some (.natural n)
  | none => (negated? text).map .negated

/-- A whole number can be held in so many bits, of which one is for the sign if it has a minus
sign. -/
def fits (bits : Nat) : Scalar → Bool
  | .natural n => n < Nat.pow 2 bits
  | .negated n => n ≤ Nat.pow 2 (bits - 1)
  | _ => true

/-- The meaning of a text that is no whole number: another number, or the text itself. -/
def numberOrText (text : String) : Scalar :=
  if isPadded text.toList then .text text
  else match number? text with
    | some x => .number x
    | none => .text text

/-- The meaning of a text without quotes and tag. A whole number that needs more than 64 bits is refused, but
one that needs more than 128 is taken for one of the other numbers. -/
def ofPlain? (text : String) : Option Scalar :=
  if text.isEmpty || isNullWord text then some .null
  else match truth? text, whole? text with
    | some b, _ => some (.bool b)
    | none, some n => if n.fits 64 then some n else if n.fits 128 then none else some (numberOrText text)
    | none, none => some (numberOrText text)

/-- The meaning of a scalar; it fails if the tag does not fit the text. -/
def of? (tag : Option String) (style : Style) (text : String) : Option Scalar :=
  match tag with
  | none => if style = .plain then ofPlain? text else some (.text text)
  | some t =>
    if isLocalTag tag then none
    else if t = coreTag "bool" then (truth? text).map .bool
    else if t = coreTag "int" then (whole? text).filter (fits 64)
    else if t = coreTag "float" then (number? text).map .number
    else if t = coreTag "null" then (if isNullWord text then some .null else none)
    else some (.text text)

/-- The scalar is written so that it may mean what the tag is for: without quotes, or as a literal block
with the tag. -/
def mayMean (name : String) (tag : Option String) (style : Style) : Bool :=
  style == .plain || (style == .literal && tag == some (coreTag name))

end Scalar

end CrdToolset.Yaml
