import CrdToolset.Schema.Basic

/-!
# The form of a schema

A schema is classified by its type and its parts: a scalar, an object with known fields, a list, a
map from texts to values, or a value of which nothing is known.

The classes are what a walker decides by. Every schema is in one of them, so no schema is refused
for what it describes.
-/

namespace CrdToolset

/-- The scalar types that a schema can stand for, each of which is a type of the generated
language. -/
inductive Primitive where
  /-- A text. -/
  | string
  /-- A whole number of 32 bits. -/
  | int32
  /-- A whole number of 64 bits. -/
  | int64
  /-- A number of single precision. -/
  | float32
  /-- A number of double precision. -/
  | float64
  /-- A truth value. -/
  | bool
  deriving DecidableEq

/-- The coarse classes of schemas and of the types that are made from them. -/
inductive Form where
  /-- A scalar. -/
  | primitive
  /-- An object with known fields. -/
  | object
  /-- A list. -/
  | array
  /-- A map from texts to values. -/
  | map
  /-- Nothing is known. -/
  | unknown
  deriving DecidableEq

/-- The name of a form, as faults about types have it. -/
def Form.name : Form → String
  | .primitive => "Primitive"
  | .object => "Object"
  | .array => "Array"
  | .map => "Map"
  | .unknown => "Unknown"

/-- The scalar type of a schema, if it describes scalars. The format decides between types of
different size. -/
def Schema.primitive? (s : Schema) : Option Primitive :=
  if s.type = "string" then some .string
  else if s.type = "integer" then some (if s.format = "int64" then .int64 else .int32)
  else if s.type = "number" then some (if s.format = "double" then .float64 else .float32)
  else if s.type = "boolean" then some .bool
  else none

/-- The form of a schema. The type decides and, where it is left open, the parts that are there. -/
def Schema.form (s : Schema) : Form :=
  if s.primitive?.isSome then .primitive
  else if s.type = "object" then (if s.properties.isEmpty then .map else .object)
  else if s.type = "array" then .array
  else if s.type = "" then
    if !s.properties.isEmpty then .object
    else if s.items.isSome then .array
    else if s.additionalSchema.isSome then .map
    else .unknown
  else .unknown

end CrdToolset
