import CrdToolset.Go.Struct
import CrdToolset.Toolset.Request
import CrdToolset.Toolset.Tool

/-!
# Toolsets

A toolset is everything that the generated files say about one resource: names, type expressions, struct
fields with their tags and comments, and the tools. All texts are final; the files only arrange them.
-/

namespace CrdToolset

/-- The packages that each file imports, as they stand in the import list. A file imports only what
it uses. -/
structure Imports where
  /-- For the file of the toolset type. -/
  toolset : List String
  /-- For the file of the resource types. -/
  types : List String
  /-- For the file of the client. -/
  client : List String
  /-- For the file of the handlers. -/
  handlers : List String
  /-- For the file of the schemas. -/
  schema : List String

/-- The texts of a toolset for one resource. The files arrange them and add nothing of their own
about the resource. -/
structure Toolset where
  /-- The package of the generated files. -/
  package : String
  /-- The module the package belongs to. -/
  modulePath : String
  /-- Types and fields have comments. -/
  includeComments : Bool
  /-- The resource. -/
  resource : Resource
  /-- The name of the toolset type. -/
  toolsetType : String
  /-- The name of the client type. -/
  clientType : String
  /-- The name of the toolset. -/
  name : String
  /-- What the toolset is for, ready to stand in a literal. -/
  description : String
  /-- The type of the desired state. -/
  specType : Option Go.TypeExpr
  /-- The type of a desired state in the input of a tool, which can always be absent. -/
  specInputType : Option Go.TypeExpr
  /-- A desired state is passed by a pointer. -/
  specIsPointer : Bool
  /-- The type of the observed state. -/
  statusType : Option Go.TypeExpr
  /-- The structs below the desired and the observed state. -/
  structs : List Go.Struct
  /-- The tools, in the order of selection. -/
  tools : List Tool
  /-- What the client can do. -/
  clientMethods : List Operation
  /-- The imported packages. -/
  imports : Imports
  /-- The documentation as a literal. -/
  documentation : String

namespace Toolset

/-- What the client must be able to do: everything selected, and reading where something is to be
changed. -/
def methodsFor (operations : List Operation) : List Operation :=
  Operation.all.filter fun method =>
    operations.contains method || (method == .get && operations.contains .update)

/-- The imported packages of every file for a selection of operations. -/
def importsFor (operations : List Operation) : Imports :=
  let contextPackage := "\"context\""
  let jsonPackage := "\"encoding/json\""
  let formatPackage := "\"fmt\""
  let metaPackage := "metav1 \"k8s.io/apimachinery/pkg/apis/meta/v1\""
  let runtimePackage := "\"k8s.io/apimachinery/pkg/runtime\""
  let labelsPackage := "\"k8s.io/apimachinery/pkg/labels\""
  let clientPackage := "\"sigs.k8s.io/controller-runtime/pkg/client\""
  let toolPackage := "\"github.com/modelcontextprotocol/go-sdk/mcp\""
  let schemaPackage := "\"github.com/google/jsonschema-go/jsonschema\""
  let only (operation : Operation) (package : String) : List String :=
    if operations.contains operation then [package] else []
  { toolset := [toolPackage, clientPackage]
    types := [jsonPackage, metaPackage, runtimePackage]
    client := [contextPackage] ++ only .list formatPackage ++ only .delete metaPackage ++
      only .list labelsPackage ++ [clientPackage]
    handlers := [contextPackage, jsonPackage, formatPackage] ++ only .create metaPackage ++ [toolPackage]
    schema := [schemaPackage] }

/-- Documentation made from the resource and its tools, for a request that brings none of its
own. -/
def defaultDocumentation (r : Resource) (operations : List Operation) : String :=
  "# " ++ r.kind ++ " tools\n\nMCP tools for " ++ Naming.pluralize r.kind ++ " (" ++
    r.groupVersionKind ++ ") resources.\n\nScope: " ++ r.scope.name ++ "\n" ++
    (if r.shortNames.isEmpty then ""
      else "Short names: " ++ ", ".intercalate r.shortNames ++ "\n") ++
    "\n## Tools\n\n" ++
    String.join (operations.map fun operation =>
      "- `" ++ toolName operation r.kind ++ "`: " ++ operation.name ++ "\n")

/-- The type at the place has no absent value of its own, so that a value which may be missing is
passed by a pointer. -/
def byPointer (g : TypeGraph) (place : Nat) : Bool :=
  Go.hasForm g place .object || Go.hasForm g place .primitive

/-- The toolset of a resource for a request: all names, expressions, structs and tools that the
files need. -/
def of (m : TypeModel) (r : Resource) (request : Request) : Toolset :=
  let pointer := m.spec.any (byPointer m.graph)
  let specType := m.spec.map (Go.typeExpr m.graph)
  { package := request.packageName
    modulePath := request.modulePath
    includeComments := request.includeComments
    resource := r
    toolsetType := r.kind ++ "Toolset"
    clientType := r.kind ++ "Client"
    name := Text.lowercase r.plural
    description := Go.flatten ("Tools for managing " ++ r.kind ++ " custom resources")
    specType := specType
    specInputType := specType.map fun type => if pointer then .pointer type else type
    specIsPointer := pointer
    statusType := m.status.map (Go.typeExpr m.graph)
    structs := (m.objectTypes.filterMap m.node?).map (Go.Struct.ofNode m.graph request.includeComments)
    tools := request.operations.map (Tool.of m r.kind)
    clientMethods := methodsFor request.operations
    imports := importsFor request.operations
    documentation := Go.quote (request.doc.getD (defaultDocumentation r request.operations)) }

end Toolset

end CrdToolset
