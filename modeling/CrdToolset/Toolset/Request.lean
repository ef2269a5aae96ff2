import CrdToolset.Operation

/-!
# Requests

What is asked for when a toolset is generated for one resource. A request does not say which files
are wanted, since that does not change what is in them.
-/

namespace CrdToolset

/-- What a toolset is to contain, and how it is packaged. It holds for one resource. -/
structure Request where
  /-- The operations that get a tool, in order. -/
  operations : List Operation
  /-- The package of the generated files. -/
  packageName : String
  /-- The module the package belongs to. -/
  modulePath : String
  /-- Types and fields get comments. -/
  includeComments : Bool := true
  /-- The documentation, if it is not to be written from the resource. -/
  doc : Option String := none

end CrdToolset
