import CrdToolset.Schema.Basic
import CrdToolset.Yaml.Value

/-!
# Reading schemas

A schema is read from its node in a document. Where either a truth value or a schema may stand, the node is
read as a value first, and the schema is then read from that value.
-/

namespace CrdToolset

open Yaml

namespace Schema

/-- The fields of a schema, in the order in which they stand if they are listed without names. -/
def fieldNames : List String := [
  "type", "format", "description", "properties", "required", "items", "enum", "minimum", "maximum",
  "minLength", "maxLength", "pattern", "additionalProperties"]

/-- Of several entries with one name, the last. The entries that are left keep their order. -/
def lastOfEach {α : Type} : List (String × α) → List (String × α)
  | [] => []
  | entry :: rest =>
    if (rest.lookup entry.1).isSome then lastOfEach rest else entry :: lastOfEach rest

/-- Reads a schema whose schemas are nested less than `depth` deep. What stands for additional properties is
read by `additional`, which is given the reader for a schema there. -/
def readFrom {m : Type → Type} [Monad m] {π : Type} (s : Source m π)
    (additional : (π → m Schema) → π → m (Additional Schema)) (depth : Nat) (part : π) : m Schema :=
  match depth with
  | 0 => s.fail
  | depth + 1 => do
    let inner := readFrom s additional depth
    let fields ← s.record fieldNames part
    let constraints : Constraints := {
      description := ← fields.get "description" "" s.text
      pattern := ← fields.get "pattern" "" s.text
      enum := ← fields.get "enum" [] fun part => do (← s.items part).mapM s.json
      minimum := ← fields.get "minimum" none (s.optional s.number)
      maximum := ← fields.get "maximum" none (s.optional s.number)
      minLength := ← fields.get "minLength" none (s.optional s.natural)
      maxLength := ← fields.get "maxLength" none (s.optional s.natural) }
    return {
      type := ← fields.get "type" "" s.text
      format := ← fields.get "format" "" s.text
      constraints := constraints
      properties := ← fields.get "properties" [] fun part => do
        let entries ← s.entries part
        lastOfEach <$> entries.mapM fun (name, part) => return (name, ← inner part)
      required := ← fields.get "required" [] s.texts
      items := ← fields.get "items" none (s.optional inner)
      additional := ← fields.get "additionalProperties" none (s.optional (additional inner)) }

/-- What a value says about additional properties: a truth value as it is, or a schema read from
it. -/
def additionalOf (inner : Value → Option Schema) : Value → Option (Additional Schema)
  | .scalar (.bool b) => some (.allowed b)
  | value => (inner value).map .schema

/-- The schema that a value describes, read as deep as the value goes. -/
def ofValue? (value : Value) : Option Schema :=
  readFrom Value.source additionalOf (value.depth + 1) value

/-- Reads the schema in a part of a document. What is said about additional properties is read as a
value first. -/
def read (part : Part) : Read Schema :=
  let additional (_ : Part → Read Schema) (part : Part) : Read (Additional Schema) := do
    Read.lift (additionalOf ofValue? (← part.value))
  readFrom Part.source additional (part.levels + 1) part

end Schema

end CrdToolset
