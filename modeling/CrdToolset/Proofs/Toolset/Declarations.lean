import CrdToolset.Proofs.Toolset.Closed
import CrdToolset.Toolset.Artifact

/-!
# Declarations of a package

The files of a toolset make up one package. Each of them declares types, functions, variables or
constants for the whole package, and every one of these is declared by a line of the file. So the
identifiers of the package can be read off the lines.
-/

namespace CrdToolset.Toolset

/-- The names of the constants in the file of the types. They are the same for every resource. -/
def constantNames : List String := ["Group", "Version", "APIVersion", "Kind", "Plural", "Scope"]

/-- The identifiers that a file declares for its package. Methods are left out, because they belong
to their types. -/
def declared (t : Toolset) : Artifact → List String
  | .toolset => [t.toolsetType, "New" ++ t.toolsetType]
  | .types =>
    constantNames ++ [t.resource.kind, t.resource.listKind, "deepCopyJSON"] ++ t.structNames
  | .clientWrapper => [t.clientType, "New" ++ t.clientType]
  | .handlers => t.tools.map Tool.inputType ++ ["jsonResult", "textResult"]
  | .schemaValidators => t.tools.map Tool.schemaVar
  | .doc => ["Documentation"]

/-- The identifiers that all files of a package declare, file by file, with their repetitions. -/
def identifiers (t : Toolset) : List String := Artifact.all.flatMap t.declared

/-- A line begins a declaration of a name: the name stands after a keyword, or after the indentation
in a group of constants, and a blank or a parenthesis comes next. -/
def Declares (line name : String) : Prop :=
  ∃ keyword ∈ ["type ", "func ", "var ", "const ", "\t"], ∃ rest,
    line = keyword ++ name ++ rest ∧ rest.toList.head? ∈ [some ' ', some '(']

variable {t : Toolset} {name : String}

/-- The line that a struct begins with declares the type under the name of the struct. -/
theorem declares_struct (name : String) : Declares ("type " ++ name ++ " struct \x7b") name :=
  ⟨"type ", by simp, " struct \x7b", rfl, by decide⟩

/-- The line that declares the type of a struct is one of the lines that are written for the
struct. -/
theorem mem_lines_struct (s : Go.Struct) : "type " ++ s.name ++ " struct \x7b" ∈ s.lines := by
  simp [Go.Struct.lines]

/-- The line that gives the value of a constant declares it, as it stands in a group of
constants. -/
theorem declares_constant (name value : String) :
    Declares ("\t" ++ name ++ " = \"" ++ value ++ "\"") name := by
  refine ⟨"\t", by simp, " = \"" ++ value ++ "\"", ?_, by simp⟩
  simp only [String.append_assoc]

/-- The line that opens the list of its parameters declares a function of the package. -/
theorem declares_func (name parameters : String) :
    Declares ("func " ++ name ++ "(" ++ parameters) name :=
  ⟨"func ", by simp, "(" ++ parameters, String.append_assoc .., by simp⟩

/-- The function that makes a value of a type is declared under the name of the type with a word in
front of it. -/
theorem declares_new (name parameters : String) :
    Declares ("func New" ++ name ++ "(c client.Client" ++ parameters) ("New" ++ name) := by
  have hname : "func New" = "func " ++ "New" := rfl
  have hparameters : "(c client.Client" = "(" ++ "c client.Client" := rfl
  have hdeclares := declares_func ("New" ++ name) ("c client.Client" ++ parameters)
  rw [hname, hparameters]
  simpa only [String.append_assoc] using hdeclares

/-- Lines with a struct and the function that makes it declare both. The toolset and the client are
made from the same parameters. -/
theorem exists_line_of_mem_type_new {lines : List String} {type : String}
    (hstruct : "type " ++ type ++ " struct \x7b" ∈ lines)
    (hnew : "func New" ++ type ++ "(c client.Client" ++
      (t.ifNamespaced ", namespace string" ++ ") *" ++ type ++ " \x7b") ∈ lines)
    (h : name ∈ [type, "New" ++ type]) : ∃ line ∈ lines, Declares line name := by
  simp only [List.mem_cons, List.not_mem_nil, or_false] at h
  rcases h with rfl | rfl
  · exact ⟨_, hstruct, declares_struct _⟩
  · exact ⟨_, hnew, declares_new _ _⟩

/-- Every constant of a resource is declared by a line of the group of constants. -/
theorem exists_line_of_mem_constantNames (r : Resource) (h : name ∈ constantNames) :
    ∃ line ∈ constantLines r, Declares line name := by
  have hline (value : String)
      (hmem : "\t" ++ name ++ " = \"" ++ value ++ "\"" ∈ constantLines r) :
      ∃ line ∈ constantLines r, Declares line name := ⟨_, hmem, declares_constant name value⟩
  simp only [constantNames, List.mem_cons, List.not_mem_nil, or_false] at h
  rcases h with rfl | rfl | rfl | rfl | rfl | rfl
  · exact hline r.group (by simp [constantLines])
  · exact hline r.storageVersion (by simp [constantLines])
  · exact hline r.apiVersion (by simp [constantLines])
  · exact hline r.kind (by simp [constantLines])
  · exact hline r.plural (by simp [constantLines])
  · exact hline r.scope.name (by simp [constantLines])

/-- Every identifier that the file of the types declares is declared by one of its lines. -/
theorem exists_line_of_mem_typesFile (h : name ∈ t.declared .types) :
    ∃ line ∈ t.typesFile, Declares line name := by
  simp only [declared, List.mem_append, List.mem_cons, List.not_mem_nil, or_false] at h
  rcases h with (hconstant | rfl | rfl | rfl) | hstruct
  · obtain ⟨line, hline, hdeclares⟩ := exists_line_of_mem_constantNames t.resource hconstant
    exact ⟨line, by simp [typesFile, hline], hdeclares⟩
  · exact ⟨_, by simp [typesFile], declares_struct _⟩
  · exact ⟨_, by simp [typesFile], declares_struct _⟩
  · exact ⟨"func deepCopyJSON(in, out any) \x7b", by simp [typesFile],
      declares_func "deepCopyJSON" "in, out any) \x7b"⟩
  · obtain ⟨struct, hmem, rfl⟩ := List.mem_map.mp hstruct
    refine ⟨_, List.mem_append_right _ ?_, declares_struct _⟩
    exact List.mem_flatMap.mpr ⟨struct, hmem, mem_lines_struct struct⟩

/-- Every identifier that the file of the handlers declares is declared by one of its lines. -/
theorem exists_line_of_mem_handlersFile (h : name ∈ t.declared .handlers) :
    ∃ line ∈ t.handlersFile, Declares line name := by
  simp only [declared, List.mem_append, List.mem_cons, List.not_mem_nil, or_false] at h
  rcases h with hinput | rfl | rfl
  · obtain ⟨tool, htool, rfl⟩ := List.mem_map.mp hinput
    have hstruct : "type " ++ tool.inputType ++ " struct \x7b" ∈
        t.tools.flatMap fun tool => (inputStruct t tool).lines :=
      List.mem_flatMap.mpr ⟨tool, htool, mem_lines_struct (inputStruct t tool)⟩
    refine ⟨_, ?_, declares_struct _⟩
    exact List.mem_append_left _ (List.mem_append_left _ (List.mem_append_right _ hstruct))
  · exact ⟨"func jsonResult(v any) (*mcp.CallToolResult, any, error) \x7b", by simp [handlersFile],
      declares_func "jsonResult" "v any) (*mcp.CallToolResult, any, error) \x7b"⟩
  · exact ⟨"func textResult(text string) *mcp.CallToolResult \x7b", by simp [handlersFile],
      declares_func "textResult" "text string) *mcp.CallToolResult \x7b"⟩

/-- Every identifier that the file of the schemas declares is declared by one of its lines. -/
theorem exists_line_of_mem_schemaFile (h : name ∈ t.declared .schemaValidators) :
    ∃ line ∈ t.schemaFile, Declares line name := by
  obtain ⟨tool, htool, rfl⟩ := List.mem_map.mp h
  refine ⟨"var " ++ tool.schemaVar ++ " = " ++ tool.inputSchema, ?_, ?_⟩
  · exact List.mem_append_right _ (List.mem_flatMap.mpr ⟨tool, htool, by simp⟩)
  · exact ⟨"var ", by simp, " = " ++ tool.inputSchema, String.append_assoc .., by simp⟩

/-- Every identifier that the file of the documentation declares is declared by one of its lines. -/
theorem exists_line_of_mem_docFile (h : name ∈ t.declared .doc) :
    ∃ line ∈ t.docFile, Declares line name := by
  obtain rfl := List.mem_singleton.mp h
  refine ⟨"const Documentation = " ++ t.documentation, by simp [docFile], ?_⟩
  refine ⟨"const ", by simp, " = " ++ t.documentation, ?_, by simp⟩
  rw [← String.append_assoc]
  rfl

/-- Every identifier that a file is said to declare is declared by one of its lines, so `declared`
is no list beside the code. -/
theorem exists_line_of_mem_declared {artifact : Artifact}
    (h : name ∈ t.declared artifact) : ∃ line ∈ t.artifactLines artifact, Declares line name := by
  cases artifact with
  | toolset =>
    refine exists_line_of_mem_type_new (t := t) ?_ ?_ h
    · simp [artifactLines, toolsetFile]
    · simp [artifactLines, toolsetFile, String.append_assoc]
  | types => exact exists_line_of_mem_typesFile h
  | clientWrapper =>
    refine exists_line_of_mem_type_new (t := t) ?_ ?_ h
    · simp [artifactLines, clientFile]
    · simp [artifactLines, clientFile, String.append_assoc]
  | handlers => exact exists_line_of_mem_handlersFile h
  | schemaValidators => exact exists_line_of_mem_schemaFile h
  | doc => exact exists_line_of_mem_docFile h

end CrdToolset.Toolset
