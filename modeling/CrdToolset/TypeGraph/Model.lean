import CrdToolset.Resource.Basic
import CrdToolset.TypeGraph.Walker

/-!
# The type model of a resource

All types of one resource, with the places of those that generated code starts from: the root, the
desired state and the observed state.

The name of the list type is set aside before the schema is analysed, because generated code
declares that type, too.
-/

namespace CrdToolset

/-- The types of a resource, with the places of the three types that generated code starts from. -/
structure TypeModel where
  /-- All types. -/
  graph : TypeGraph
  /-- The place of the resource itself. -/
  root : Nat
  /-- The place of the desired state. -/
  spec : Option Nat
  /-- The place of the observed state. -/
  status : Option Nat
  /-- The kind of a list of instances. -/
  listKind : String
  /-- Where instances live. -/
  scope : Scope

namespace TypeModel

/-- Who owns the name of the list type. No path of a schema has this text. -/
def listOwner : String := "<list kind>"

/-- Walks the schema of a resource, after the name of its list type has been set aside. -/
def walkResource (r : Resource) (schema : Schema) : Walk Property := do
  Walker.reserve r.listKind listOwner
  Walker.analyze (some schema) r.kind "" true

/-- The type model of a resource. It fails where the resource has no schema and where the analysis
of the schema fails. -/
def build (r : Resource) : Except Fault TypeModel := do
  let schema ← r.storageSchema
  let (result, walker) := (walkResource r schema).run {}
  let root ← result
  let part (name : String) : Option Nat :=
    (walker.graph[root.type]?.bind fun node => node.property? name).map Property.type
  pure {
    graph := walker.graph
    root := root.type
    spec := part "spec"
    status := part "status"
    listKind := r.listKind
    scope := r.scope }

/-- The type at a place of the graph, if there is one. -/
def node? (m : TypeModel) (place : Nat) : Option TypeNode := m.graph[place]?

/-- The objects at or below a type, outer ones first, from those below the types it refers to; an object
that two of them lead to is listed where it comes first. -/
def objectsFrom (place : Nat) (node : TypeNode) (below : Nat → Option (List Nat)) : List Nat :=
  let inner := (node.references.flatMap fun i => (below i).getD []).eraseDups
  if node.form = .object then place :: inner else inner

/-- The places of the objects that the desired and the observed state lead to, each at its first
occurrence. -/
def objectTypes (m : TypeModel) : List Nat :=
  let lists := m.graph.fold objectsFrom
  ((m.spec.toList ++ m.status.toList).flatMap fun i => (lists[i]?).getD []).eraseDups

end TypeModel

end CrdToolset
