import CrdToolset.Schema.Form

/-!
# Type graphs

The types of a resource are kept in one list, and a type refers to another by its place in the list. A
type stands after all types that it refers to, so values can be computed for all types in one pass.
-/

namespace CrdToolset

/-- The reference from an object to the type of one of its fields. -/
structure Property where
  /-- The name of the field, as the schema has it. -/
  name : String
  /-- The place of the type of the field. -/
  type : Nat
  /-- The field must be present. -/
  required : Bool
  deriving DecidableEq

/-- What a type is made of, with the places of the types that it refers to. -/
inductive Shape where
  /-- A scalar. -/
  | primitive (p : Primitive)
  /-- An object with fields, in the order of the names of their types. -/
  | object (properties : List Property)
  /-- A list, with the place of the type of its elements. -/
  | array (element : Nat)
  /-- A map from texts, with the place of the type of its values where that is known. -/
  | map (value : Option Nat)
  /-- Nothing is known. -/
  | unknown

/-- The form of a shape, in which the places of other types do not matter. -/
def Shape.form : Shape → Form
  | .primitive _ => .primitive
  | .object _ => .object
  | .array _ => .array
  | .map _ => .map
  | .unknown => .unknown

/-- A type with the name that generated code gives to it. No two types of a graph have the same
name. -/
structure TypeNode where
  /-- The name that generated code gives to it. -/
  name : String
  /-- The field it was first found at; empty for anything but the value of a field. -/
  field : String
  /-- What it is made of. -/
  shape : Shape
  /-- What the schema says about single values. -/
  constraints : Constraints

namespace TypeNode

/-- The form of a type, which is that of its shape. -/
def form (t : TypeNode) : Form := t.shape.form

/-- The fields of an object, in the order of the names of their types. Other types have none. -/
def properties (t : TypeNode) : List Property :=
  match t.shape with
  | .object properties => properties
  | _ => []

/-- The field of an object with the given name, if it has one. -/
def property? (t : TypeNode) (name : String) : Option Property :=
  t.properties.find? fun p => p.name == name

/-- The places of the types that a type refers to, in the order in which it does. -/
def references (t : TypeNode) : List Nat :=
  match t.shape with
  | .object properties => properties.map Property.type
  | .array element => [element]
  | .map value => value.toList
  | _ => []

end TypeNode

/-- Types in the order of their places, which is the order in which they were finished. -/
abbrev TypeGraph := Array TypeNode

/-- Computes a value for every type from its place and the values of the types before it. -/
def TypeGraph.fold {α : Type} (f : Nat → TypeNode → (Nat → Option α) → α) (g : TypeGraph) : Array α :=
  g.foldl (fun done node => done.push (f done.size node fun i => done[i]?)) #[]

end CrdToolset
