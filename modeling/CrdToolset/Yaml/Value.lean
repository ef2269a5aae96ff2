import CrdToolset.Yaml.Reading
import CrdToolset.Yaml.Source

/-!
# Values

What a part of a document means, read without knowing what to expect. A value serves as a source for
structures: there a text must really be a text, and the fields of a structure may be named, counted or
listed in order.
-/

namespace CrdToolset.Yaml

/-- What a part of a document means, with everything that is in it. -/
inductive Value where
  /-- A scalar. -/
  | scalar (s : Scalar)
  /-- A list. -/
  | sequence (items : List Value)
  /-- Keys with values, in order. -/
  | mapping (entries : List (Value × Value))

namespace Scalar

/-- A scalar as a JSON value. Numbers that JSON does not have, such as the infinities, become
null. -/
def toJson : Scalar → Json
  | .null => .null
  | .bool b => .bool b
  | .natural n => .integer n
  | .negated n => .integer (-(n : Int))
  | .number (.finite x) => .float x
  | .number _ => .null
  | .text s => .text s

/-- A number of the double format, or a whole number taken for the nearest of them. -/
def toNumber? : Scalar → Option Number.Double
  | .natural n => some (.ofRatio false n 1)
  | .negated n => some (.ofRatio (n ≠ 0) n 1)
  | .number x => some x
  | _ => none

end Scalar

/-- Reads the value of a node, where so many nested collections may be entered. References are
followed as they are met. -/
def Node.value (levels : Nat) (node : Node) : Read Value := do
  match (← node.target), levels with
  | .scalar tag style text, _ => Read.lift ((Scalar.of? tag style text).map .scalar)
  | .sequence tag items, levels + 1 =>
    if Scalar.isLocalTag tag then failure else .sequence <$> items.mapM (value levels)
  | .mapping tag entries, levels + 1 =>
    if Scalar.isLocalTag tag then failure
    else .mapping <$> entries.mapM fun (k, v) => return (← value levels k, ← value levels v)
  | _, _ => failure

/-- Reads the value of a node as a JSON value, where so many nested collections may be entered. Keys are
texts, whatever they may mean. -/
def Node.json (levels : Nat) (node : Node) : Read Json := do
  match (← node.target), levels with
  | .scalar tag style text, _ => Read.lift ((Scalar.of? tag style text).map Scalar.toJson)
  | .sequence tag items, levels + 1 =>
    if Scalar.isLocalTag tag then failure else .array <$> items.mapM (json levels)
  | .mapping tag entries, levels + 1 =>
    if Scalar.isLocalTag tag then failure
    else Json.ofFields <$> entries.mapM fun (k, v) => return (← k.text, ← json levels v)
  | _, _ => failure

namespace Part

/-- Reads the value of a part, as deep as may be read from there. -/
def value (p : Part) : Read Value := p.node.value p.levels

/-- Reads a part as a JSON value, in which the keys of mappings must be texts. -/
def json (p : Part) : Read Json := p.node.json p.levels

/-- How the parts of a document are read when a structure is read from it. -/
def source : Source Read Part where
  fail := failure
  text := text
  natural := natural
  number := number
  json := json
  items := items
  entries := entries
  record := record
  present := present

end Part

namespace Value

/-- The text that a value is, if it means a text and nothing else. -/
def text? : Value → Option String
  | .scalar (.text s) => some s
  | _ => none

/-- The whole number that a value is, if it is not negative and fits into 64 bits. -/
def natural? : Value → Option Nat
  | .scalar (.natural n) => some n
  | .scalar (.negated 0) => some 0
  | _ => none

/-- The number that a value is, whether it is a whole number or not. -/
def number? : Value → Option Number.Double
  | .scalar s => s.toNumber?
  | _ => none

mutual

/-- A value as a JSON value, if all keys in it are texts. -/
def json? : Value → Option Json
  | .scalar s => some s.toJson
  | .sequence items => (jsonItems? items).map .array
  | .mapping entries => (jsonFields? entries).map Json.ofFields

/-- The items of a list as JSON values, if each of them is one. -/
def jsonItems? : List Value → Option (List Json)
  | [] => some []
  | item :: rest => do some ((← json? item) :: (← jsonItems? rest))

/-- The entries of a mapping as the fields of a JSON object, if all their keys are texts. -/
def jsonFields? : List (Value × Value) → Option (List (String × Json))
  | [] => some []
  | (key, value) :: rest => do some ((← text? key, ← json? value) :: (← jsonFields? rest))

end

/-- The items of a list, if the value is one. -/
def items? : Value → Option (List Value)
  | .sequence items => some items
  | _ => none

/-- The entries of a map from texts, if the value is one. All its keys must be texts. -/
def entries? : Value → Option (List (String × Value))
  | .mapping entries => entries.mapM fun (key, value) => (text? key).map fun name => (name, value)
  | _ => none

/-- The name that a key of a structure stands for: a text, or the place of a known name. A place past all
names stands for none. -/
def fieldName? (known : List String) : Value → Option (Option String)
  | .scalar (.text s) => some (some s)
  | .scalar (.natural n) => some known[n]?
  | _ => none

/-- The fields of a structure. In a list they stand in the order of the known names, and the last of them
may be missing. -/
def record? (known : List String) : Value → Option (Record Value)
  | .sequence items => if items.length ≤ known.length then some ⟨known.zip items⟩ else none
  | .mapping entries => do
    let named ← entries.mapM fun (key, value) => (fieldName? known key).map fun name => (name, value)
    Record.ofEntries? known (named.filterMap fun (name, value) => name.map fun name => (name, value))
  | _ => none

/-- The value, if it does not mean nothing. A missing value may be written out as nothing. -/
def present? : Value → Option (Option Value)
  | .scalar .null => some none
  | value => some (some value)

/-- How the parts of a value are read when a structure is read from it. -/
def source : Source Option Value where
  fail := none
  text := text?
  natural := natural?
  number := number?
  json := json?
  items := items?
  entries := entries?
  record := record?
  present := present?

mutual

/-- How deep collections are nested in a value, where a scalar has no depth. -/
def depth : Value → Nat
  | .scalar _ => 0
  | .sequence items => itemDepth items + 1
  | .mapping entries => entryDepth entries + 1

/-- The greatest depth of the items of a list, or zero if it has none. -/
def itemDepth : List Value → Nat
  | [] => 0
  | item :: rest => max item.depth (itemDepth rest)

/-- The greatest depth of the values of a mapping, or zero if it has none. -/
def entryDepth : List (Value × Value) → Nat
  | [] => 0
  | (_, value) :: rest => max value.depth (entryDepth rest)

end

end Value

end CrdToolset.Yaml
