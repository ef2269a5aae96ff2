import CrdToolset.TypeGraph.Model

/-!
# Outlines

The types of a resource as an indented outline, one line for each type below the type that refers to
it. A type that is referred to twice has its lines twice. A label in front of a line says by which
reference the type was reached.
-/

namespace CrdToolset

/-- The types that a type refers to, each with the label by which the outline mentions the
reference. -/
def TypeNode.branches (t : TypeNode) : List (String × Nat) :=
  match t.shape with
  | .object properties => properties.map fun p => (p.name ++ (if p.required then "*" else ""), p.type)
  | .array element => [("[]", element)]
  | .map value => value.toList.map fun place => ("\x7b\x7d", place)
  | _ => []

/-- The outline of a type, given the outlines of the types it refers to. Each outline depends on the label
in front of its first line. -/
def TypeNode.outline (_place : Nat) (t : TypeNode) (inner : Nat → Option (String → List String))
    (label : String) : List String :=
  let head := (if label.isEmpty then "" else label ++ ": ") ++ t.name ++ " [" ++ t.form.name ++ "]"
  let below := t.branches.flatMap fun (label, place) => ((inner place).map fun lines => lines label).getD []
  head :: below.map ("  " ++ ·)

/-- The outline of all types that the resource leads to, with the resource itself in the first
line. -/
def TypeModel.outline (m : TypeModel) : List String :=
  (((m.graph.fold TypeNode.outline)[m.root]?).map fun lines => lines "").getD []

end CrdToolset
