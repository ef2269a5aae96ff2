import CrdToolset.Toolset.Lines

/-!
# The file of the handlers

For each tool the type of its input and the function that handles a call. The types of all inputs
come before the functions, and a function that all handlers share stands at the end.
-/

namespace CrdToolset.Toolset

/-- The input of a tool as a struct, with a field for each parameter that the operation takes. -/
def inputStruct (t : Toolset) (tool : Tool) : Go.Struct :=
  let field (condition : Bool) (name : String) (type : Go.TypeExpr) (tag : Go.JsonTag) : List Go.Field :=
    if condition then [⟨name, type, tag, []⟩] else []
  { name := tool.inputType
    comment := ["// " ++ tool.inputType ++ " is the input of the " ++ tool.tool ++ " tool"]
    fields :=
      field tool.needsName "Name" (.primitive .string) ⟨"name", false⟩ ++
      field t.resource.isNamespaced "Namespace" (.primitive .string) ⟨"namespace", true⟩ ++
      field (tool.operation == .list) "LabelSelector" (.primitive .string) ⟨"labelSelector", true⟩ ++
      field tool.needsSpec "Spec" (t.specInputType.getD .any) ⟨"spec", true⟩ }

/-- What a handler does when an operation fails: it returns an error that says which action
failed. -/
def failure (action : String) (detail : String) : List String := [
  "\tif err != nil \x7b",
  "\t\treturn nil, nil, fmt.Errorf(\"" ++ action ++ ": %w\", " ++ detail ++ "err)",
  "\t\x7d"]

/-- Copies the desired state from the input to the object, if it is there. Other tools have no such
lines. -/
def copySpec (t : Toolset) (tool : Tool) : List String :=
  linesIf tool.needsSpec [
    "\tif in.Spec != nil \x7b",
    "\t\tobj.Spec = " ++ (if t.specIsPointer then "*" else "") ++ "in.Spec",
    "\t\x7d"]

/-- What a handler does for its operation, between the lines that begin and end its function. -/
def handlerBody (t : Toolset) (tool : Tool) : List String :=
  let kind := t.resource.kind
  let place := t.ifNamespaced ", in.Namespace"
  let fetch :=
    ["\tobj, err := t.client.Get(ctx, in.Name" ++ place ++ ")"] ++
      failure ("get " ++ kind ++ " %q") "in.Name, "
  match tool.operation with
  | .create => [
      "\tobj := &" ++ kind ++ "\x7b",
      "\t\tTypeMeta:   metav1.TypeMeta\x7bAPIVersion: APIVersion, Kind: Kind\x7d,",
      "\t\tObjectMeta: metav1.ObjectMeta\x7bName: in.Name" ++ t.ifNamespaced ", Namespace: in.Namespace" ++
        "\x7d,",
      "\t\x7d"] ++
    copySpec t tool ++ [
      "\tif err := t.client.Create(ctx, obj); err != nil \x7b",
      "\t\treturn nil, nil, fmt.Errorf(\"create " ++ kind ++ " %q: %w\", in.Name, err)",
      "\t\x7d",
      "\treturn jsonResult(obj)"]
  | .get => fetch ++ ["\treturn jsonResult(obj)"]
  | .list =>
    ["\tlist, err := t.client.List(ctx" ++ place ++ ", in.LabelSelector)"] ++
      failure ("list " ++ t.resource.plural) "" ++ ["\treturn jsonResult(list)"]
  | .update =>
    fetch ++ copySpec t tool ++ [
      "\tif err := t.client.Update(ctx, obj); err != nil \x7b",
      "\t\treturn nil, nil, fmt.Errorf(\"update " ++ kind ++ " %q: %w\", in.Name, err)",
      "\t\x7d",
      "\treturn jsonResult(obj)"]
  | .delete => [
      "\tif err := t.client.Delete(ctx, in.Name" ++ place ++ "); err != nil \x7b",
      "\t\treturn nil, nil, fmt.Errorf(\"delete " ++ kind ++ " %q: %w\", in.Name, err)",
      "\t\x7d",
      "\treturn textResult(fmt.Sprintf(\"deleted " ++ kind ++ " %q\", in.Name)), nil, nil"]

/-- The function that handles a call of a tool, with the comment above it. -/
def handlerFunction (t : Toolset) (tool : Tool) : List String :=
  [ "",
    "// " ++ tool.handler ++ " implements the " ++ tool.tool ++ " tool",
    "func (t *" ++ t.toolsetType ++ ") " ++ tool.handler ++
      "(ctx context.Context, req *mcp.CallToolRequest, in " ++ tool.inputType ++
      ") (*mcp.CallToolResult, any, error) \x7b"] ++
  handlerBody t tool ++ ["\x7d"]

/-- The lines of the file of the handlers: the inputs, the functions, and the function that they
share. -/
def handlersFile (t : Toolset) : List String :=
  t.header t.imports.handlers ++ (t.tools.flatMap fun tool => (inputStruct t tool).lines) ++
  t.tools.flatMap (handlerFunction t) ++ [
    "",
    "// jsonResult returns v as indented JSON text content",
    "func jsonResult(v any) (*mcp.CallToolResult, any, error) \x7b",
    "\tdata, err := json.MarshalIndent(v, \"\", \"  \")",
    "\tif err != nil \x7b",
    "\t\treturn nil, nil, fmt.Errorf(\"encode result: %w\", err)",
    "\t\x7d",
    "\treturn textResult(string(data)), nil, nil",
    "\x7d",
    "",
    "func textResult(text string) *mcp.CallToolResult \x7b",
    "\treturn &mcp.CallToolResult\x7b",
    "\t\tContent: []mcp.Content\x7b&mcp.TextContent\x7bText: text\x7d\x7d,",
    "\t\x7d",
    "\x7d"]

end CrdToolset.Toolset
