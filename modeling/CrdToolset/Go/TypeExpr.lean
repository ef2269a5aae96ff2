import CrdToolset.TypeGraph.Model

/-!
# Go type expressions

How generated code refers to a type. Objects are declared by name, and everything else is spelled
out at each place where it is used. The expressions for all types are computed in one pass over the
graph.
-/

namespace CrdToolset.Go

/-- The type expressions of generated code. Only objects are referred to by name. -/
inductive TypeExpr where
  /-- A scalar type. -/
  | primitive (p : Primitive)
  /-- A type that is declared elsewhere. -/
  | named (name : String)
  /-- A list. -/
  | slice (element : TypeExpr)
  /-- A map from texts. -/
  | map (value : TypeExpr)
  /-- A pointer. -/
  | pointer (target : TypeExpr)
  /-- The type of which nothing is known. -/
  | any
  deriving DecidableEq

/-- The name of a scalar type in the generated language. -/
def primitiveName : Primitive → String
  | .string => "string"
  | .int32 => "int32"
  | .int64 => "int64"
  | .float32 => "float32"
  | .float64 => "float64"
  | .bool => "bool"

/-- A type expression as it stands in code, written from the outside to the inside. -/
def TypeExpr.text : TypeExpr → String
  | .primitive p => primitiveName p
  | .named name => name
  | .slice element => "[]" ++ element.text
  | .map value => "map[string]" ++ value.text
  | .pointer target => "*" ++ target.text
  | .any => "interface\x7b\x7d"

/-- The expression for a type, given the expressions for the types it refers to. It is one step of
the pass over the graph. -/
def typeExprFrom (_place : Nat) (node : TypeNode) (inner : Nat → Option TypeExpr) : TypeExpr :=
  match node.shape with
  | .primitive p => .primitive p
  | .object _ => .named node.name
  | .array element => .slice ((inner element).getD .any)
  | .map none => .map .any
  | .map (some value) => .map ((inner value).getD .any)
  | .unknown => .any

/-- The expressions for all types of a graph, each at the place of its type. -/
def typeExprs (g : TypeGraph) : Array TypeExpr := g.fold typeExprFrom

/-- The expression for the type at a place. Where there is no type, it is the one for unknown
values. -/
def typeExpr (g : TypeGraph) (place : Nat) : TypeExpr := ((typeExprs g)[place]?).getD .any

/-- There is a type at the place, and it has the given form. -/
def hasForm (g : TypeGraph) (place : Nat) (form : Form) : Bool :=
  g[place]?.any fun node => node.form = form

/-- The type of a field. An object that may be absent is referred to by a pointer. -/
def fieldType (g : TypeGraph) (p : Property) : TypeExpr :=
  if !p.required && hasForm g p.type .object then .pointer (typeExpr g p.type) else typeExpr g p.type

end CrdToolset.Go
