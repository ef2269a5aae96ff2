import CrdToolset.Schema.Basic
import Mathlib.Data.List.Nodup

/-!
# Conditions on a schema and all schemas inside it

A schema is a tree, and what is asked of its property names is asked at every level. The two
conditions that matter here are that every object names each of its properties once, and that no
name contains a character with which a path goes on.
-/

namespace CrdToolset

/-- The condition holds of a schema and of every schema in it: those of its properties, of its
elements, and of the values of a map. -/
inductive Schema.Everywhere (P : Schema → Prop) : Schema → Prop
  | intro {s : Schema} (here : P s) (properties : ∀ entry ∈ s.properties, Everywhere P entry.2)
      (items : ∀ t, s.items = some t → Everywhere P t)
      (additional : ∀ t, s.additionalSchema = some t → Everywhere P t) : Everywhere P s

namespace Schema

/-- At every level of the schema, each property is named once. Schemas that are read from documents
are of this kind. -/
def KeysDistinct : Schema → Prop := Everywhere fun s => (s.properties.map Prod.fst).Nodup

/-- None of the characters with which a step in a path begins occurs in the name. -/
def PlainName (name : String) : Prop := ∀ c ∈ name.toList, c ≠ '.' ∧ c ≠ '[' ∧ c ≠ '\x7b'

/-- At every level of the schema, the names of the properties are plain, so that the path of a
property shows how it was reached. -/
def PlainNames : Schema → Prop := Everywhere fun s => ∀ entry ∈ s.properties, PlainName entry.1

variable {P : Schema → Prop} {s t : Schema}

/-- A condition that holds everywhere in a schema holds of the schema itself. -/
theorem Everywhere.here (h : s.Everywhere P) : P s := by
  cases h with
  | intro here => exact here

/-- A condition that holds everywhere in a schema holds everywhere in the schema of each of its
properties. -/
theorem Everywhere.property (h : s.Everywhere P) {name : String} (hmem : (name, t) ∈ s.properties) :
    t.Everywhere P := by
  cases h with
  | intro _ properties => exact properties _ hmem

/-- A condition that holds everywhere in a schema holds everywhere in the schema of its elements. -/
theorem Everywhere.items (h : s.Everywhere P) (ht : s.items = some t) : t.Everywhere P := by
  cases h with
  | intro _ _ items => exact items t ht

/-- A condition that holds everywhere in a schema holds everywhere in the schema of the values of a
map. -/
theorem Everywhere.additional (h : s.Everywhere P) (ht : s.additionalSchema = some t) :
    t.Everywhere P := by
  cases h with
  | intro _ _ _ additional => exact additional t ht

/-- A schema without items and without a schema for unnamed properties has only its properties in
it. -/
theorem Everywhere.of_properties (here : P s)
    (hproperties : ∀ entry ∈ s.properties, entry.2.Everywhere P)
    (hitems : s.items = none) (hadditional : s.additionalSchema = none) : s.Everywhere P :=
  .intro here hproperties (by simp [hitems]) (by simp [hadditional])

/-- A schema without properties, elements and values has no schema in it but itself, so the
condition need only hold of that one. -/
theorem Everywhere.of_leaf (here : P s) (hproperties : s.properties = []) (hitems : s.items = none)
    (hadditional : s.additionalSchema = none) : s.Everywhere P :=
  .of_properties here (by simp [hproperties]) hitems hadditional

/-- A schema with one property and nothing else has in it what is in the schema of the property. -/
theorem Everywhere.of_property {name : String} (here : P s) (hproperties : s.properties = [(name, t)])
    (ht : t.Everywhere P) (hitems : s.items = none) (hadditional : s.additionalSchema = none) :
    s.Everywhere P := by
  refine .of_properties here (fun entry hentry => ?_) hitems hadditional
  rw [hproperties] at hentry
  obtain rfl := List.mem_singleton.mp hentry
  exact ht

end Schema

end CrdToolset
