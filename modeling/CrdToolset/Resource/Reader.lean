import CrdToolset.Resource.Basic
import CrdToolset.Schema.Reader

/-!
# Reading definitions

The fields of a definition that matter here are read from a document; whatever else the document
says is passed over. A field that is missing has its default, but a field of the wrong form makes
the document unreadable.
-/

namespace CrdToolset

open Yaml

/-- Reads a version. The schema is the field of a structure that may be missing itself. -/
def Version.read (part : Part) : Read Version := do
  let fields ← part.record ["name", "served", "storage", "schema"]
  let schema (part : Part) : Read (Option Schema) := do
    (← part.record ["openAPIV3Schema"]).get "openAPIV3Schema" none (Part.source.optional Schema.read)
  return {
    name := ← fields.get "name" "" Part.text
    served := ← fields.get "served" false Part.truth
    storage := ← fields.get "storage" false Part.truth
    schema := Option.join (← fields.get "schema" none (Part.source.optional schema)) }

/-- Reads a definition from a part of a document: the kind of the document, its name, and what it
says about the resource. -/
def Definition.read (part : Part) : Read Definition := do
  let none : Record Part := ⟨[]⟩
  let fields ← part.record ["kind", "metadata", "spec"]
  let documentMeta ← fields.get "metadata" none (Part.record ["name"])
  let spec ← fields.get "spec" none (Part.record ["group", "names", "scope", "versions"])
  let names ← spec.get "names" none
    (Part.record ["kind", "plural", "singular", "shortNames", "listKind"])
  return {
    documentKind := ← fields.get "kind" "" Part.text
    name := ← documentMeta.get "name" "" Part.text
    group := ← spec.get "group" "" Part.text
    kind := ← names.get "kind" "" Part.text
    plural := ← names.get "plural" "" Part.text
    singular := ← names.get "singular" "" Part.text
    shortNames := ← names.get "shortNames" [] Part.source.texts
    listKind := ← names.get "listKind" "" Part.text
    scope := ← spec.get "scope" "" Part.text
    versions := ← spec.get "versions" [] fun part => do (← part.items).mapM Version.read }

/-- The resource that the text of a definition defines. The path is only named in a fault. -/
def Resource.parse (path text : String) : Except Fault Resource :=
  match Document.parse? Definition.read text with
  | some definition => Resource.ofDefinition definition
  | none => .error (.malformed path)

end CrdToolset
