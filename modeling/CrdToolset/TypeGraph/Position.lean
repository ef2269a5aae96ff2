import CrdToolset.Naming.Case
import CrdToolset.Schema.Form

/-!
# Positions in a schema

A position is a place in a schema where a type arises, with the path that leads to it and the name that
its type will have. The position of an object has one position below it for each property, in the order of
the property names; a list has one for its elements, which are unknown if the schema does not describe
them; and a map has one for its values if the schema describes those.
-/

namespace CrdToolset

/-- A place in a schema where a type arises, with everything that is needed to make the type but the
types below it. -/
structure Position where
  /-- The schema at the place. -/
  schema : Schema
  /-- The name of the type. -/
  name : String
  /-- The property that leads to the place; empty if it is not a property that does. -/
  field : String
  /-- The steps from the root to the place. -/
  path : String

/-- The name for the type of the elements of a list: a plural loses its last letter, but not where the
letter is doubled. -/
def itemName (listName : String) : String :=
  let cs := listName.toList
  if cs.getLast? = some 's' ∧ cs.dropLast.getLast? ≠ some 's' then
    String.ofList cs.dropLast ++ "Item"
  else listName ++ "Item"

namespace Position

/-- The position of a property, whose name in the case of types goes behind the name of the
object. -/
def property (p : Position) (name : String) (schema : Schema) : Position :=
  ⟨schema, p.name ++ Naming.pascal name, name, p.path ++ "." ++ name⟩

/-- The position of the elements of a list. Where the schema says nothing about them, theirs is the
empty schema. -/
def element (p : Position) : Position :=
  ⟨p.schema.items.getD {}, itemName p.name, "", p.path ++ "[]"⟩

/-- The position of the values of a map, if a schema describes them. -/
def value (p : Position) (schema : Schema) : Position :=
  ⟨schema, p.name ++ "Value", "", p.path ++ "\x7b\x7d"⟩

/-- The positions directly below, in the order in which they are visited. Properties are visited in
the order of their names. -/
def children (p : Position) : List Position :=
  match p.schema.form with
  | .object => p.schema.sortedProperties.map fun property => p.property property.1 property.2
  | .array => [p.element]
  | .map => p.schema.additionalSchema.toList.map p.value
  | _ => []

end Position

end CrdToolset
