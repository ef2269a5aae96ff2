import CrdToolset.Toolset.Lines

/-!
# The file of the toolset type

The type that holds the client, and the registration of the tools with a server. One call of the
registering method makes all tools of the toolset known.
-/

namespace CrdToolset.Toolset

/-- The lines that register one tool with a server, by its name, its description and the schema of
its input. -/
def registration (tool : Tool) : List String := [
  "\tmcp.AddTool(server, &mcp.Tool\x7b",
  "\t\tName:        \"" ++ tool.tool ++ "\",",
  "\t\tDescription: \"" ++ tool.description ++ "\",",
  "\t\tInputSchema: " ++ tool.schemaVar ++ ",",
  "\t\x7d, t." ++ tool.handler ++ ")"]

/-- The lines of the file of the toolset type: the type, its constructor, and the method that
registers its tools. -/
def toolsetFile (t : Toolset) : List String :=
  let toolset := t.toolsetType
  let client := t.clientType
  let receiver := "func (t *" ++ toolset ++ ") "
  t.header t.imports.toolset ++ [
    "",
    "// " ++ toolset ++ " provides MCP tools for managing " ++ t.resource.kind ++ " custom resources",
    "type " ++ toolset ++ " struct \x7b",
    "\tclient *" ++ client,
    "\x7d",
    "",
    "// New" ++ toolset ++ " creates a toolset backed by c",
    "func New" ++ toolset ++ "(c client.Client" ++ t.ifNamespaced ", namespace string" ++ ") *" ++
      toolset ++ " \x7b",
    "\treturn &" ++ toolset ++ "\x7bclient: New" ++ client ++ "(c" ++ t.ifNamespaced ", namespace" ++
      ")\x7d",
    "\x7d",
    "",
    "// GetName returns the name of this toolset",
    receiver ++ "GetName() string \x7b",
    "\treturn \"" ++ t.name ++ "\"",
    "\x7d",
    "",
    "// GetDescription returns the description of this toolset",
    receiver ++ "GetDescription() string \x7b",
    "\treturn \"" ++ t.description ++ "\"",
    "\x7d",
    "",
    "// ToolNames returns the names of the tools this toolset registers",
    receiver ++ "ToolNames() []string \x7b",
    "\treturn []string\x7b"] ++
  t.tools.map (fun tool => "\t\t\"" ++ tool.tool ++ "\",") ++ [
    "\t\x7d",
    "\x7d",
    "",
    "// Register adds the " ++ t.resource.kind ++ " tools to server",
    receiver ++ "Register(server *mcp.Server) \x7b"] ++
  t.tools.flatMap registration ++ ["\x7d"]

end CrdToolset.Toolset
