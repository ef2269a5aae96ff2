import CrdToolset.Number.Layout
import CrdToolset.Text.Shown

/-!
# JSON values

The values a schema may list as allowed, and their compact text. Numbers are whole numbers or finite
numbers of the double format, and the two are told apart in the text. The fields of an object stand in
increasing order of their names, each name once.
-/

namespace CrdToolset

open Text (hexDigit)

/-- A JSON value, as a schema may list it among the allowed ones. -/
inductive Json where
  /-- The null value. -/
  | null
  /-- A truth value. -/
  | bool (b : Bool)
  /-- A whole number. -/
  | integer (n : Int)
  /-- A number with a fraction or an exponent. -/
  | float (x : Number.Finite)
  /-- A text. -/
  | text (s : String)
  /-- A list of values. -/
  | array (items : List Json)
  /-- Named values. -/
  | object (fields : List (String × Json))

/-- Puts a field among fields that are in order; a field of the same name gives way. -/
def Json.insertField (name : String) (value : Json) : List (String × Json) → List (String × Json)
  | [] => [(name, value)]
  | (other, old) :: rest =>
    if name < other then (name, value) :: (other, old) :: rest
    else if name = other then (name, value) :: rest
    else (other, old) :: insertField name value rest

/-- The object with the given fields; of several fields with one name the last counts. -/
def Json.ofFields (fields : List (String × Json)) : Json :=
  .object (fields.foldl (fun acc field => insertField field.1 field.2 acc) [])

/-- How one character of a JSON text is written. Only quotes, backslashes and control characters are
escaped. -/
def Json.escape (c : Char) : List Char :=
  if c = '"' then ['\\', '"']
  else if c = '\\' then ['\\', '\\']
  else if c = '\n' then ['\\', 'n']
  else if c = '\r' then ['\\', 'r']
  else if c = '\t' then ['\\', 't']
  else if c.toNat = 0x08 then ['\\', 'b']
  else if c.toNat = 0x0C then ['\\', 'f']
  else if c.toNat < 0x20 then
    ['\\', 'u', '0', '0', hexDigit (c.toNat / 16), hexDigit (c.toNat % 16)]
  else [c]

/-- A text between quotes, as it stands in a JSON text. -/
def Json.quote (s : String) : List Char :=
  '"' :: s.toList.flatMap escape ++ ['"']

mutual

/-- The characters of the compact text of a value, which has no spaces between its parts. -/
def Json.compact : Json → List Char
  | .null => ['n', 'u', 'l', 'l']
  | .bool true => ['t', 'r', 'u', 'e']
  | .bool false => ['f', 'a', 'l', 's', 'e']
  | .integer n => Number.signedDigitsOf n
  | .float x => x.inJson
  | .text s => quote s
  | .array items => '[' :: [','].intercalate (compactItems items) ++ [']']
  | .object fields => '\x7b' :: [','].intercalate (compactFields fields) ++ ['\x7d']

/-- The compact texts of the items of a list, one for each. -/
def Json.compactItems : List Json → List (List Char)
  | [] => []
  | value :: rest => value.compact :: compactItems rest

/-- The compact texts of the fields of an object, each with its name and a colon before the
value. -/
def Json.compactFields : List (String × Json) → List (List Char)
  | [] => []
  | (name, value) :: rest => (quote name ++ ':' :: value.compact) :: compactFields rest

end

/-- The compact text of a value as a string, which is how generated code mentions lists and
objects. -/
def Json.toText (value : Json) : String := String.ofList value.compact

end CrdToolset
