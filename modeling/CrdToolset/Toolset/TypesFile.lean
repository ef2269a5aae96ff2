import CrdToolset.Toolset.Lines

/-!
# The file of the resource types

The constants that identify the resource, its type and the type of a list of instances, and the
structs of the objects below them. The two types have the methods that make them known to a client.
-/

namespace CrdToolset.Toolset

/-- The constants that identify the resource: its group, its version and both in one. -/
def constantLines (r : Resource) : List String := [
  "const (",
  "\t// Group is the API group of " ++ r.kind,
  "\tGroup = \"" ++ r.group ++ "\"",
  "\t// Version is the storage version the types were generated from",
  "\tVersion = \"" ++ r.storageVersion ++ "\"",
  "\t// APIVersion is the apiVersion of " ++ r.kind ++ " objects",
  "\tAPIVersion = \"" ++ r.apiVersion ++ "\"",
  "\t// Kind is the resource kind",
  "\tKind = \"" ++ r.kind ++ "\"",
  "\t// Plural is the resource name used in API paths",
  "\tPlural = \"" ++ r.plural ++ "\"",
  "\t// Scope is either Namespaced or Cluster",
  "\tScope = \"" ++ r.scope.name ++ "\"",
  ")"]

/-- The method that copies a value of a type, after which the copy shares nothing with the
original. -/
def copyMethod (type : String) : List String := [
  "// DeepCopyObject implements runtime.Object",
  "func (in *" ++ type ++ ") DeepCopyObject() runtime.Object \x7b",
  "\tout := new(" ++ type ++ ")",
  "\tdeepCopyJSON(in, out)",
  "\treturn out",
  "\x7d"]

/-- The lines of the file of the resource types: constants, the resource, the list, and the structs
below. -/
def typesFile (t : Toolset) : List String :=
  let kind := t.resource.kind
  let listKind := t.resource.listKind
  let spec := t.specType.toList.flatMap fun type => ["", "\tSpec " ++ type.text ++ " `json:\"spec,omitempty\"`"]
  let status := t.statusType.toList.map fun type => "\tStatus " ++ type.text ++ " `json:\"status,omitempty\"`"
  t.header t.imports.types ++ [""] ++ constantLines t.resource ++ [
    "",
    "// " ++ kind ++ " is the Schema for the " ++ t.resource.plural ++ " API",
    "type " ++ kind ++ " struct \x7b",
    "\tmetav1.TypeMeta   `json:\",inline\"`",
    "\tmetav1.ObjectMeta `json:\"metadata,omitempty\"`"] ++
  spec ++ status ++ [
    "\x7d",
    "",
    "// " ++ listKind ++ " contains a list of " ++ kind,
    "type " ++ listKind ++ " struct \x7b",
    "\tmetav1.TypeMeta `json:\",inline\"`",
    "\tmetav1.ListMeta `json:\"metadata,omitempty\"`",
    "\tItems           []" ++ kind ++ " `json:\"items\"`",
    "\x7d",
    ""] ++
  copyMethod kind ++ [""] ++ copyMethod listKind ++ [
    "",
    "// deepCopyJSON copies in to out through their JSON encoding",
    "func deepCopyJSON(in, out any) \x7b",
    "\tdata, err := json.Marshal(in)",
    "\tif err != nil \x7b",
    "\t\tpanic(err)",
    "\t\x7d",
    "\tif err := json.Unmarshal(data, out); err != nil \x7b",
    "\t\tpanic(err)",
    "\t\x7d",
    "\x7d"] ++
  t.structs.flatMap Go.Struct.lines

end CrdToolset.Toolset
