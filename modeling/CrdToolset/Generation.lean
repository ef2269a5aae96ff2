import CrdToolset.Config
import CrdToolset.Files.Find
import CrdToolset.Resource.Reader
import CrdToolset.Toolset.Artifact

/-!
# Generating and checking

What can be done with one definition: check that its types can be made, or generate its toolset. Generating
looks at the request before the schema, so an invalid request is found first.
-/

namespace CrdToolset

variable {m : Type → Type} [Monad m]

/-- A resource with its types, which is what a check finds and what generating goes on from. -/
structure Checked where
  /-- The resource. -/
  resource : Resource
  /-- Its types. -/
  model : TypeModel

/-- How many structs are declared for the nested objects of the resource. -/
def Checked.structCount (c : Checked) : Nat := c.model.objectTypes.length

/-- Checks the text of a definition: the resource must be valid, and its types must be such that
they can be made. -/
def checkText (path text : String) : Except Fault Checked := do
  let resource ← Resource.parse path text
  let model ← TypeModel.build resource
  pure ⟨resource, model⟩

/-- Checks the definition in a file, which must be readable. -/
def checkFile (access : FileAccess m) (path : String) : Work m Checked := do
  MonadExcept.ofExcept (checkText path (← access.textOf path))

/-- A generated toolset with the resource it is for and the request that it answers. -/
structure Generated where
  /-- The resource. -/
  resource : Resource
  /-- What was asked for. -/
  request : Request
  /-- The files. -/
  code : Code

/-- The settings of a run with the artifacts that are wanted. It holds for all definitions of the
run. -/
structure Plan where
  /-- The settings. -/
  config : Config := {}
  /-- The artifacts; none listed means that all are wanted. -/
  artifacts : List Artifact := []

namespace Plan

/-- The artifacts that are wanted. If none is listed, they are all artifacts in their order. -/
def wanted (plan : Plan) : List Artifact :=
  if plan.artifacts.isEmpty then Artifact.all else plan.artifacts

/-- The documentation from the file that the settings name, if they name one. -/
def documentation (plan : Plan) (access : FileAccess m) : Work m (Option String) := do
  match plan.config.docFile with
  | some path => some <$> access.textOf path
  | none => pure none

/-- Generates the toolset of a definition from its text. An invalid request is found before the
schema is looked at. -/
def generateText (plan : Plan) (access : FileAccess m) (path text : String) : Work m Generated := do
  let resource ← MonadExcept.ofExcept (Resource.parse path text)
  let request ← MonadExcept.ofExcept (plan.config.request resource)
  let request := { request with doc := ← plan.documentation access }
  let model ← MonadExcept.ofExcept (TypeModel.build resource)
  pure ⟨resource, request, generateOnly model resource request plan.wanted⟩

/-- Generates the toolset of the definition in a file, which must be readable. -/
def generateFile (plan : Plan) (access : FileAccess m) (path : String) : Work m Generated := do
  plan.generateText access path (← access.textOf path)

end Plan

end CrdToolset
