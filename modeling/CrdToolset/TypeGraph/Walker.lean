import CrdToolset.Fault
import CrdToolset.TypeGraph.Basic
import CrdToolset.TypeGraph.Position

/-!
# Walking a schema

A walker turns the positions of a schema into types. It remembers the type it made for each path, and
which path claimed each name first, so that two different paths never share a name. A call that fails
leaves behind the names it claimed and the types it finished.
-/

namespace CrdToolset

/-- How many levels below the root a position may lie. What lies deeper is refused. -/
def maxDepth : Nat := 64

/-- The types made so far, with what is known about paths and names. A new walker knows nothing. -/
structure Walker where
  /-- The types, in the order in which they were finished. -/
  graph : TypeGraph := #[]
  /-- The place of the type made for a path. -/
  cache : List (String × Nat) := []
  /-- Which path, or other owner, claimed a name first. -/
  owners : List (String × String) := []

/-- A step of a walker: it may fail, and changes the walker also when it does. -/
abbrev Walk := ExceptT Fault (StateM Walker)

namespace Walker

/-- Claims a name for an owner. A name that has an owner can only be claimed by it again. -/
def claim (name owner : String) : Walk Unit := do
  match (← get).owners.lookup name with
  | some first => if first = owner then pure () else throw (.nameCollision name first owner)
  | none => modify fun w => { w with owners := (name, owner) :: w.owners }

/-- Adds a type for a path at the next place of the graph, and gives back the place. -/
def push (path : String) (node : TypeNode) : Walk Nat := do
  let place := (← get).graph.size
  modify fun w => { w with graph := w.graph.push node, cache := (path, place) :: w.cache }
  pure place

/-- A name and a form in one text, as the fault about types that disagree has them. -/
def describe (name : String) (form : Form) : String := name ++ " (" ++ form.name ++ ")"

/-- The type found for a path has the name and the form that the position asks for. -/
def reuse (p : Position) (place : Nat) : Walk Nat := do
  match (← get).graph[place]? with
  | some node =>
    if node.name = p.name ∧ node.form = p.schema.form then pure place
    else throw (.cacheMismatch p.path (describe p.name p.schema.form) (describe node.name node.form))
  | none => throw (.cacheMismatch p.path (describe p.name p.schema.form) "")

/-- The fields of an object, put into the order of the names of their types. -/
def fields (p : Position) (places : List Nat) : List Property :=
  let named := (p.children.zip places).map fun (child, place) =>
    (child.name, ({ name := child.field, type := place,
                    required := p.schema.required.contains child.field } : Property))
  (named.mergeSort fun a b => a.1 ≤ b.1).map Prod.snd

/-- What the type of a position is made of, given the places of the types below it. -/
def shape (p : Position) (places : List Nat) : Shape :=
  match p.schema.form with
  | .primitive => p.schema.primitive?.elim .unknown .primitive
  | .object => .object (fields p places)
  | .array => places.head?.elim .unknown .array
  | .map => .map places.head?
  | .unknown => .unknown

/-- Makes the type of a position after the types of all positions below it, at most `levels` deep. -/
def walk : Nat → Position → Walk Nat
  | 0, p => throw (.tooDeep p.path maxDepth)
  | levels + 1, p => do
    match (← get).cache.lookup p.path with
    | some place => reuse p place
    | none =>
      claim p.name p.path
      let places ← p.children.mapM (walk levels)
      push p.path ⟨p.name, p.field, shape p places, p.schema.constraints⟩

/-- Claims a name for a type that does not come from the schema, so that no position can claim
it. -/
def reserve (name owner : String) : Walk Unit := claim name owner

/-- Makes the types of a schema whose root has the given name. The field and whether it is required
describe the reference to the root that is returned. -/
def analyze (schema : Option Schema) (name field : String) (required : Bool) : Walk Property := do
  match schema with
  | none => throw (.missingSchema name)
  | some schema =>
    let place ← walk (maxDepth + 1) ⟨schema, name, field, name⟩
    pure ⟨field, place, required⟩

end Walker

end CrdToolset
