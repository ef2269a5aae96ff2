import CrdToolset.Go.Comment
import CrdToolset.Go.TypeExpr
import CrdToolset.Naming.Case

/-!
# Go structs

A struct type with its fields. Each field has a tag that says how it stands in a JSON text, and
fields and structs may have comment lines above them. A struct is kept in parts until its lines are
written, so that what it declares can be compared with a schema.
-/

namespace CrdToolset.Go

/-- How a field stands in a JSON text: under which name, and whether it is left out when it is
empty. -/
structure JsonTag where
  /-- The name of the field there. -/
  key : String
  /-- The field is left out when it is empty. -/
  omitEmpty : Bool
  deriving DecidableEq

/-- A tag as it stands in code, between back quotes. -/
def JsonTag.text (tag : JsonTag) : String :=
  "`json:\"" ++ tag.key ++ (if tag.omitEmpty then ",omitempty" else "") ++ "\"`"

/-- A field of a struct, with its tag and with the comment lines above it. -/
structure Field where
  /-- The name of the field. -/
  name : String
  /-- Its type. -/
  type : TypeExpr
  /-- Its tag. -/
  tag : JsonTag
  /-- The comment lines above it. -/
  comment : List String := []

/-- A struct type with its fields in order and with the comment lines above it. -/
structure Struct where
  /-- The name of the type. -/
  name : String
  /-- The comment lines above it. -/
  comment : List String
  /-- The fields, in order. -/
  fields : List Field

/-- The lines of a field inside its struct: the comment above it, and then its name, its type and
its tag. -/
def Field.lines (f : Field) : List String :=
  f.comment.map ("\t" ++ ·) ++ ["\t" ++ f.name ++ " " ++ f.type.text ++ " " ++ f.tag.text]

/-- The lines of a struct with the comment above it, after an empty line. -/
def Struct.lines (s : Struct) : List String :=
  [""] ++ s.comment ++ ["type " ++ s.name ++ " struct \x7b"] ++ s.fields.flatMap Field.lines ++ ["\x7d"]

/-- The name of the field for a property, which is the name of the property in the case of types. -/
def fieldName (property : String) : String := Naming.pascal property

/-- The tag of the field for a property. A property that is not required is left out when it is
empty. -/
def jsonTag (p : Property) : JsonTag := ⟨p.name, !p.required⟩

/-- The field for a property. A comment is one byte narrower than that of a struct, for the tab before it. -/
def Field.ofProperty (g : TypeGraph) (comments : Bool) (p : Property) : Field :=
  let description := (g[p.type]?.map fun node => node.constraints.description).getD ""
  { name := fieldName p.name
    type := fieldType g p
    tag := jsonTag p
    comment := if comments then Go.comment (commentWidth - 1) description else [] }

/-- The struct for an object type, with one field for each field of the object and in the same
order. -/
def Struct.ofNode (g : TypeGraph) (comments : Bool) (node : TypeNode) : Struct :=
  let text :=
    if node.constraints.description.isEmpty then
      node.name ++ " defines a nested object of the resource"
    else node.name ++ " " ++ node.constraints.description
  { name := node.name
    comment := if comments then Go.comment commentWidth text else []
    fields := node.properties.map (Field.ofProperty g comments) }

end CrdToolset.Go
