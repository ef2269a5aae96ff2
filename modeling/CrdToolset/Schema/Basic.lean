import CrdToolset.Json

/-!
# Structural schemas

A schema describes the values of one field of a resource: a type, constraints on the values, and the
schemas of the parts. The properties stand in the order in which they were written, each name once;
whoever needs an order that does not depend on the writer sorts them.
-/

namespace CrdToolset

/-- What a schema says about single values, beside their type. None of it changes which types are
made. -/
structure Constraints where
  /-- A text for readers. -/
  description : String := ""
  /-- A regular expression for texts. -/
  pattern : String := ""
  /-- The values that are allowed; none listed means that all are. -/
  enum : List Json := []
  /-- The least number allowed. -/
  minimum : Option Number.Double := none
  /-- The greatest number allowed. -/
  maximum : Option Number.Double := none
  /-- The least length of a text. -/
  minLength : Option Nat := none
  /-- The greatest length of a text. -/
  maxLength : Option Nat := none

/-- What a schema says about properties that it does not name: whether they are allowed, or what their
values are like. -/
inductive Additional (σ : Type) where
  /-- They are allowed, or not. -/
  | allowed (yes : Bool)
  /-- They are allowed and their values follow the schema. -/
  | schema (s : σ)

/-- A structural schema, with what it says about single values and the schemas of the parts of a
value. -/
structure Schema where
  /-- The name of the type; empty where it is left open. -/
  type : String := ""
  /-- A refinement of the type. -/
  format : String := ""
  /-- What it says about single values. -/
  constraints : Constraints := {}
  /-- The named properties of an object. -/
  properties : List (String × Schema) := []
  /-- The names of the properties that must be present, as written. -/
  required : List String := []
  /-- The schema of the elements of a list. -/
  items : Option Schema := none
  /-- What holds for properties that are not named. -/
  additional : Option (Additional Schema) := none

/-- The schema of the properties that are not named, if there is one. A truth value alone gives no
schema. -/
def Schema.additionalSchema (s : Schema) : Option Schema :=
  match s.additional with
  | some (.schema t) => some t
  | _ => none

/-- The properties in increasing order of their names, in which the walker visits them. -/
def Schema.sortedProperties (s : Schema) : List (String × Schema) :=
  s.properties.mergeSort fun a b => a.1 ≤ b.1

/-- Removes neighbours that are equal, so that a sorted list has each member once. -/
def dropRepeats : List String → List String
  | [] => []
  | [a] => [a]
  | a :: b :: rest => if a = b then dropRepeats (b :: rest) else a :: dropRepeats (b :: rest)

/-- The names of the required properties in increasing order, each once, whichever way the schema
lists them. -/
def Schema.sortedRequired (s : Schema) : List String :=
  dropRepeats (s.required.mergeSort fun a b => a ≤ b)

end CrdToolset
