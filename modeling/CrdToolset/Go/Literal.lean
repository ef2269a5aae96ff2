import CrdToolset.Go.Quoted
import CrdToolset.Operation
import CrdToolset.TypeGraph.Model

/-!
# JSON schemas as Go literals

The input of a tool is checked against a JSON schema, which generated code holds as a composite literal.
A literal describes the values of a type of the graph, with its properties and required names in
increasing order.
-/

namespace CrdToolset.Go

/-- The types of JSON Schema that the values of a type graph can have. -/
inductive JsonType where
  /-- A text. -/
  | string
  /-- A whole number. -/
  | integer
  /-- A number. -/
  | number
  /-- A truth value. -/
  | boolean
  /-- An object. -/
  | object
  /-- A list. -/
  | array

/-- The name of a JSON type, as a schema spells it. -/
def JsonType.name : JsonType → String
  | .string => "string"
  | .integer => "integer"
  | .number => "number"
  | .boolean => "boolean"
  | .object => "object"
  | .array => "array"

/-- A JSON schema, as the generated code holds it in a composite literal. What is left out says
nothing. -/
structure Literal where
  /-- The type, if it is known. -/
  type : Option JsonType := none
  /-- What holds for single values. -/
  constraints : Constraints := {}
  /-- The properties of an object. -/
  properties : List (String × Literal) := []
  /-- The names of the properties that must be present. -/
  required : List String := []
  /-- The schema of the elements of a list. -/
  items : Option Literal := none
  /-- The schema of the values of a map. -/
  additional : Option Literal := none

/-- The JSON type of the values of a shape, if the shape allows values of one type only. -/
def jsonType : Shape → Option JsonType
  | .primitive .string => some .string
  | .primitive .int32 => some .integer
  | .primitive .int64 => some .integer
  | .primitive .float32 => some .number
  | .primitive .float64 => some .number
  | .primitive .bool => some .boolean
  | .object _ => some .object
  | .map _ => some .object
  | .array _ => some .array
  | .unknown => none

namespace Literal

/-- The same schema with its properties and required names in increasing order, each required name
once. -/
def sorted (l : Literal) : Literal :=
  { l with
    properties := l.properties.mergeSort fun a b => a.1 ≤ b.1
    required := dropRepeats (l.required.mergeSort fun a b => a ≤ b) }

/-- The schema of a type, given the schemas of the types it refers to. It is one step of the pass
over the graph. -/
def fromNode (_place : Nat) (node : TypeNode) (inner : Nat → Option Literal) : Literal :=
  let plain : Literal := { type := jsonType node.shape, constraints := node.constraints }
  match node.shape with
  | .object properties =>
    sorted { plain with
      properties := properties.map fun p => (p.name, (inner p.type).getD {})
      required := (properties.filter Property.required).map Property.name }
  | .array element => { plain with items := some ((inner element).getD {}) }
  | .map (some value) => { plain with additional := some ((inner value).getD {}) }
  | _ => plain

/-- The schema of the type at a place of the graph, which describes everything below the type as
well. -/
def ofType (g : TypeGraph) (place : Nat) : Literal := ((g.fold fromNode)[place]?).getD {}

/-- A value that is allowed, as a Go expression. Lists and objects are given by their JSON text. -/
def valueExpr : Json → String
  | .null => "nil"
  | .text s => quote s
  | .array items => quote (Json.array items).toText
  | .object fields => quote (Json.object fields).toText
  | value => value.toText

/-- As many tabs as the indentation asks for, which begin a line of generated code. -/
def tabs (indent : Nat) : String := String.ofList (List.replicate indent '\t')

/-- One line of a literal for each thing that is said about single values. What is not said has no
line. -/
def constraintLines (c : Constraints) : List String :=
  let text := if c.description.isEmpty then [] else ["Description: \"" ++ flatten c.description ++ "\","]
  let values :=
    if c.enum.isEmpty then []
    else ["Enum: []any\x7b" ++ ", ".intercalate (c.enum.map valueExpr) ++ "\x7d,"]
  let bound (name : String) (b : Option Number.Double) : List String :=
    b.toList.map fun x => name ++ ": jsonschema.Ptr(float64(" ++ x.asBound ++ ")),"
  let length (name : String) (n : Option Nat) : List String :=
    n.toList.map fun n => name ++ ": jsonschema.Ptr(" ++ String.ofList (Number.digitsOf n) ++ "),"
  let pattern := if c.pattern.isEmpty then [] else ["Pattern: " ++ quote c.pattern ++ ","]
  text ++ values ++ bound "Minimum" c.minimum ++ bound "Maximum" c.maximum ++
    length "MinLength" c.minLength ++ length "MaxLength" c.maxLength ++ pattern

/-- A literal with the given lines in it, if there are any. The closing brace is indented like the
line that opens the literal. -/
def enclose (indent : Nat) (lines : List String) : String :=
  if lines.isEmpty then "&jsonschema.Schema\x7b\x7d"
  else "&jsonschema.Schema\x7b\n" ++ "\n".intercalate lines ++ "\n" ++ tabs indent ++ "\x7d"

mutual

/-- The composite literal of a schema; the lines inside it stand one tab further in than `indent`. -/
def render (indent : Nat) : Literal → String
  | ⟨type, constraints, properties, required, items, additional⟩ =>
    let pad := tabs (indent + 1)
    let typeLine := type.toList.map fun t => "Type: \"" ++ t.name ++ "\","
    let propertyLines :=
      if properties.isEmpty then []
      else [pad ++ "Properties: map[string]*jsonschema.Schema\x7b"] ++
        renderProperties (indent + 2) properties ++ [pad ++ "\x7d,"]
    let requiredLine :=
      if required.isEmpty then []
      else [pad ++ "Required: []string\x7b" ++ ", ".intercalate (required.map quote) ++ "\x7d,"]
    enclose indent <|
      (typeLine ++ constraintLines constraints).map (pad ++ ·) ++ propertyLines ++ requiredLine ++
        renderOption (indent + 1) "Items: " items ++
        renderOption (indent + 1) "AdditionalProperties: " additional

/-- One entry of a literal for each property, with its name as the key. -/
def renderProperties (indent : Nat) : List (String × Literal) → List String
  | [] => []
  | (name, literal) :: rest =>
    (tabs indent ++ quote name ++ ": " ++ render indent literal ++ ",") :: renderProperties indent rest

/-- An entry of a literal for a part that may be absent, under a label. An absent part has no
entry. -/
def renderOption (indent : Nat) (label : String) : Option Literal → List String
  | none => []
  | some literal => [tabs indent ++ label ++ render indent literal ++ ","]

end

/-- A schema with a type and a description and nothing else, as the tools need it for their own
parameters. -/
def typed (type : JsonType) (description : String) : Literal :=
  { type := some type, constraints := { description := description } }

/-- A property that is a text, whose schema says what it is for. -/
def textProperty (name description : String) : String × Literal := (name, typed .string description)

/-- The schema of the input of a tool. Resources of the cluster have no namespace to ask for. -/
def input (m : TypeModel) (kind : String) (operation : Operation) : Literal :=
  let name :=
    if operation = .list then [] else [textProperty "name" ("Name of the " ++ kind)]
  let namespaceProperty :=
    if m.scope = .namespaced then
      [textProperty "namespace" ("Namespace of the " ++ kind ++ "; defaults to the client namespace")]
    else []
  let selector :=
    if operation = .list then [textProperty "labelSelector" "Label selector to filter results"] else []
  let spec :=
    if operation = .create ∨ operation = .update then
      m.spec.toList.map fun place => ("spec", ofType m.graph place)
    else []
  let specRequired := if operation = .create then spec.map Prod.fst else []
  sorted {
    type := some .object
    properties := name ++ namespaceProperty ++ selector ++ spec
    required := name.map Prod.fst ++ specRequired }

end Literal

end CrdToolset.Go
