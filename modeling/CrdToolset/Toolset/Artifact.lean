import CrdToolset.Toolset.ToolsetFile
import CrdToolset.Toolset.TypesFile
import CrdToolset.Toolset.ClientFile
import CrdToolset.Toolset.HandlersFile

/-!
# Artifacts

The files that make up a generated toolset, in the order in which they are written out. Each
artifact has a name by which it is selected and the name of its file, and its text depends on the
toolset alone.
-/

namespace CrdToolset

/-- One of the files of a toolset. Any of them can be wanted without the others. -/
inductive Artifact where
  /-- The toolset type and the registration of its tools. -/
  | toolset
  /-- The types of the resource. -/
  | types
  /-- The typed client. -/
  | clientWrapper
  /-- The handlers of the tools. -/
  | handlers
  /-- The schemas of the inputs of the tools. -/
  | schemaValidators
  /-- The documentation of the package. -/
  | doc
  deriving DecidableEq

namespace Artifact

/-- Every artifact, in the order in which they are written out whatever the order of the wish. -/
def all : List Artifact := [.toolset, .types, .clientWrapper, .handlers, .schemaValidators, .doc]

/-- The name by which an artifact is selected on a command line. -/
def id : Artifact → String
  | .toolset => "toolset"
  | .types => "types"
  | .clientWrapper => "client-wrapper"
  | .handlers => "handlers"
  | .schemaValidators => "schema-validators"
  | .doc => "doc"

/-- The name of the file that an artifact is written to. -/
def fileName : Artifact → String
  | .toolset => "toolset.go"
  | .types => "types.go"
  | .clientWrapper => "client.go"
  | .handlers => "handlers.go"
  | .schemaValidators => "schema.go"
  | .doc => "doc.go"

/-- The artifact with the given name, if one has it. -/
def ofId? (text : String) : Option Artifact := all.find? fun artifact => artifact.id == text

end Artifact

namespace Toolset

/-- The lines of the file of the schemas: one variable for each tool, which holds the schema of its
input. -/
def schemaFile (t : Toolset) : List String :=
  t.header t.imports.schema ++ t.tools.flatMap fun tool => [
    "",
    "// " ++ tool.schemaVar ++ " describes the input of the " ++ tool.tool ++ " tool",
    "var " ++ tool.schemaVar ++ " = " ++ tool.inputSchema]

/-- The lines of the file of the documentation, which is a constant beside the comment of the
package. -/
def docFile (t : Toolset) : List String := [
  "// Package " ++ t.package ++ " provides MCP tools for managing " ++ t.resource.kind ++
    " custom resources",
  "// (" ++ t.resource.groupVersionKind ++ ").",
  "package " ++ t.package,
  "",
  "// Documentation describes the tools of this package",
  "const Documentation = " ++ t.documentation]

/-- The lines of an artifact. Each artifact has a definition of its own, and they share the header
only. -/
def artifactLines (t : Toolset) : Artifact → List String
  | .toolset => t.toolsetFile
  | .types => t.typesFile
  | .clientWrapper => t.clientFile
  | .handlers => t.handlersFile
  | .schemaValidators => t.schemaFile
  | .doc => t.docFile

/-- The text of an artifact, which is what is written to its file. -/
def body (t : Toolset) (artifact : Artifact) : String := fileText (t.artifactLines artifact)

end Toolset

/-- The texts of generated files by artifact, in the order in which they are written out. -/
abbrev Code := List (Artifact × String)

/-- The listed artifacts of a toolset, in the order in which they are written out. -/
def generateOnly (m : TypeModel) (r : Resource) (request : Request) (artifacts : List Artifact) : Code :=
  let t := Toolset.of m r request
  (Artifact.all.filter artifacts.contains).map fun artifact => (artifact, t.body artifact)

/-- All artifacts of the toolset of a resource, for a request. -/
def generate (m : TypeModel) (r : Resource) (request : Request) : Code :=
  generateOnly m r request Artifact.all

end CrdToolset
