import CrdToolset.Go.Literal
import CrdToolset.Naming.Plural

/-!
# Tools

Each selected operation on a resource becomes one tool. Listing works on all instances, so its names are
made from the plural of the kind; all other names are made from the kind itself.
-/

namespace CrdToolset

open Naming (pascal camel snake pluralize)

/-- The name of the method for an operation, such as `CreateWidget` and `ListWidgets`. -/
def methodName (operation : Operation) (kind : String) : String :=
  if operation = .list then "List" ++ pascal (pluralize kind)
  else pascal operation.name ++ pascal kind

/-- The name of the tool for an operation, such as `widget_create` and `widgets_list`. -/
def toolName (operation : Operation) (kind : String) : String :=
  if operation = .list then snake (pluralize kind) ++ "_list"
  else snake kind ++ "_" ++ operation.name

/-- What the tool for an operation does, in words for the people and programs that choose a tool. -/
def toolDescription (operation : Operation) (kind : String) : String :=
  match operation with
  | .create => "Create a new " ++ kind ++ " resource"
  | .get => "Get a " ++ kind ++ " resource by name"
  | .list => "List " ++ pluralize kind ++ " resources"
  | .update => "Update the spec of an existing " ++ kind ++ " resource"
  | .delete => "Delete a " ++ kind ++ " resource by name"

/-- A tool of a toolset, with everything that generated code says about it. -/
structure Tool where
  /-- The operation it performs. -/
  operation : Operation
  /-- The name of its method. -/
  method : String
  /-- Its name. -/
  tool : String
  /-- The name of the function that handles a call. -/
  handler : String
  /-- The name of the type of its input. -/
  inputType : String
  /-- What it does. -/
  description : String
  /-- The name of the variable that holds the schema of its input. -/
  schemaVar : String
  /-- The schema of its input, as a Go expression. -/
  inputSchema : String
  /-- Its input names an instance. -/
  needsName : Bool
  /-- Its input holds a desired state. -/
  needsSpec : Bool

/-- The tool for an operation on a kind. All its names are made from those of the operation and the
kind. -/
def Tool.of (m : TypeModel) (kind : String) (operation : Operation) : Tool :=
  let method := methodName operation kind
  { operation := operation
    method := method
    tool := toolName operation kind
    handler := "handle" ++ method
    inputType := method ++ "Input"
    description := toolDescription operation kind
    schemaVar := camel method ++ "InputSchema"
    inputSchema := (Go.Literal.input m kind operation).render 0
    needsName := operation ≠ .list
    needsSpec := m.spec.isSome ∧ (operation = .create ∨ operation = .update) }

end CrdToolset
