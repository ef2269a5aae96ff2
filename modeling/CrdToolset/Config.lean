import CrdToolset.Files.Find
import CrdToolset.Resource.Basic
import CrdToolset.Toolset.Request
import CrdToolset.Yaml.Value

/-!
# Configuration

Settings that hold for every resource of a run. They come from a file, where each may be missing,
and give the request for one resource.

What the command line says goes before the file, and what neither says has a default.
-/

namespace CrdToolset

open Yaml

/-- The settings of a run, each with the default that holds where nothing is said. -/
structure Config where
  /-- The module that generated packages belong to. -/
  modulePath : String := "github.com/example/project"
  /-- The name of the package, if it is not made from the resource. -/
  packageName : Option String := none
  /-- The letters of the selected operations; without them all are selected. -/
  crud : Option String := none
  /-- Types and fields get comments. -/
  includeComments : Bool := true
  /-- The file that holds the documentation, if it is not to be written from the resource. -/
  docFile : Option String := none

namespace Config

/-- Reads settings from a part of a document. A setting that is missing has its default. -/
def read (part : Part) : Read Config := do
  let fields ← part.record ["modulePath", "packageName", "crud", "includeComments", "docFile"]
  let text := Part.source.optional Part.text
  return {
    modulePath := ← fields.get "modulePath" ({} : Config).modulePath Part.text
    packageName := ← fields.get "packageName" none text
    crud := ← fields.get "crud" none text
    includeComments := ← fields.get "includeComments" true Part.truth
    docFile := ← fields.get "docFile" none text }

/-- The settings in the text of a file. The path is only named in a fault. -/
def parse (path text : String) : Except Fault Config :=
  match Document.parse? read text with
  | some config => .ok config
  | none => .error (.badConfig path)

/-- The settings in a file, which must be readable and of the right form. -/
def load {m : Type → Type} [Monad m] (access : FileAccess m) (path : String) : Work m Config := do
  MonadExcept.ofExcept (parse path (← access.textOf path))

/-- The request for one resource, without documentation. The package is named after the resource,
unless the settings name it. -/
def request (config : Config) (r : Resource) : Except Fault Request :=
  (Operation.select config.crud).map fun operations => {
    operations := operations
    packageName := (config.packageName.filter fun name => name ≠ "").getD r.packageName
    modulePath := config.modulePath
    includeComments := config.includeComments }

end Config

end CrdToolset
