import CrdToolset.Fault
import CrdToolset.Files.Path

/-!
# Finding definitions

The files at and below a directory whose extension is that of a YAML text, in the order of their
paths. Directories, links and whatever else a walk meets are passed over, also where their names
have such an extension.

A walk that meets an entry which cannot be looked at fails as a whole, before any definition is
read.
-/

namespace CrdToolset

/-- Work that looks at files and may find a fault, after which it does not go on. -/
abbrev Work (m : Type → Type) := ExceptT Fault m

/-- The name has the extension of a YAML text, of which there are two. Capital letters make it
another extension. -/
def isYamlName (name : String) : Bool :=
  Path.extension? name == some "yaml" || Path.extension? name == some "yml"

/-- The last name of what lies at some names below a directory is that of a YAML text. Without names it is
the directory itself. -/
def namedYaml (dir : String) (names : List String) : Bool :=
  isYamlName (names.getLast?.getD (Path.fileName dir))

/-- The names that lead to the YAML files among what a walk meets, in the order of the walk. An entry that
is no regular file is passed over, however it is named, and the first error ends the walk. -/
def yamlFiles (dir : String) : List (Except WalkError Entry) → Except Fault (List (List String))
  | [] => .ok []
  | .error e :: _ => .error (.unlistable dir (Path.join dir e.names) e.cause)
  | .ok entry :: rest =>
    if entry.kind ≠ .file then yamlFiles dir rest
    else if namedYaml dir entry.names then (yamlFiles dir rest).map (entry.names :: ·)
    else yamlFiles dir rest

namespace FileAccess

/-- The text of a file. A file that cannot be read is a fault that names it. -/
def textOf {m : Type → Type} [Monad m] (access : FileAccess m) (path : String) : Work m String := do
  match (← access.read path) with
  | .ok text => pure text
  | .error cause => throw (.unreadable path cause)

/-- The paths of the YAML files at and below a directory, in the order of their names. -/
def find {m : Type → Type} [Monad m] (access : FileAccess m) (dir : String) : Work m (List String) := do
  let files ← MonadExcept.ofExcept (yamlFiles dir (← access.below dir))
  pure ((files.mergeSort Path.atMost).map (Path.join dir))

end FileAccess

end CrdToolset
