import CrdToolset.Toolset.Basic

/-!
# Lines of generated files

A generated file is a list of lines, most of them fixed text around names of the toolset. The parts
that all files have in common stand here, and so does the way in which lines become a text.
-/

namespace CrdToolset.Toolset

/-- The package line and the import list at the top of every generated file. -/
def header (t : Toolset) (imports : List String) : List String :=
  ["package " ++ t.package, "", "import ("] ++ imports.map ("\t" ++ ·) ++ [")"]

/-- The lines, if the condition holds, and no lines otherwise. -/
def linesIf (condition : Bool) (lines : List String) : List String :=
  if condition then lines else []

/-- A text that only stands in code for resources whose instances live in namespaces. -/
def ifNamespaced (t : Toolset) (text : String) : String :=
  if t.resource.isNamespaced then text else ""

/-- Lines as the text of a file. Every line is ended by a line feed, also the last. -/
def fileText (lines : List String) : String :=
  "\n".intercalate lines ++ "\n"

end CrdToolset.Toolset
