import CrdToolset.Generation
import CrdToolset.Text.Shown
import CrdToolset.TypeGraph.Outline

/-!
# Reports

What a run tells about a definition, for people who look into it: the resource with an outline of
its types, or the cause why there are none, with all that is known about it.

What is known about a cause is shown in quotes, so that every character of it can be seen, also
those that do not print.
-/

namespace CrdToolset

/-- A name with named values, written as a record. Without values it is the name alone. -/
def shownRecord (name : String) (fields : List (String × String)) : String :=
  if fields.isEmpty then name
  else name ++ " \x7b " ++ ", ".intercalate (fields.map fun (field, value) => field ++ ": " ++ value) ++ " \x7d"

/-- A character between apostrophes, escaped as in a text, except that the apostrophe is escaped and
the double quote is not. -/
def shownChar (c : Char) : String :=
  let inside := if c = '\'' then ['\\', '\''] else if c = '"' then [c] else Text.showChar c
  String.ofList ('\'' :: inside ++ ['\''])

/-- What is known about a fault, field by field, with the values as they are shown. -/
def Fault.shownFields : Fault → List (String × String)
  | .unreadable file cause => [("path", Text.shownPath file), ("message", Text.shown cause.message)]
  | .unlistable dir entry cause =>
    [("path", Text.shownPath dir), ("message", Text.shown (walkMessage entry cause))]
  | .malformed file | .badConfig file => [("path", Text.shownPath file)]
  | .missingSchema place => [("path", Text.shown place)]
  | .missingStorageSchema version => [("version", Text.shown version)]
  | .tooDeep place limit => [("path", Text.shown place), ("depth", toString limit)]
  | .noOperations | .noVersions => []
  | .unknownLetter letter | .repeatedLetter letter => [("ch", shownChar letter)]
  | .missingIdentity field => [("field", Text.shown field)]
  | .notDefinition kind => [("kind", Text.shown kind)]
  | .nameCollision name first second =>
    [("name", Text.shown name), ("first", Text.shown first), ("second", Text.shown second)]
  | .cacheMismatch place expected found =>
    [("path", Text.shown place), ("expected", Text.shown expected), ("found", Text.shown found)]

/-- A fault with all that is known about it, written as a record under its name. -/
def Fault.shown (fault : Fault) : String := shownRecord fault.name fault.shownFields

/-- A resource with an outline of its types, line by line. -/
def Checked.lines (c : Checked) : List String :=
  let r := c.resource
  let versions := ", ".intercalate (r.versions.map Text.shown)
  [ "Kind: " ++ r.kind ++ " (" ++ r.groupVersionKind ++ ")",
    "Scope: " ++ r.scope.name,
    "Versions: [" ++ versions ++ "] (storage: " ++ r.storageVersion ++ ")",
    "List kind: " ++ r.listKind,
    "",
    "Types:"] ++ c.model.outline.map ("  " ++ ·)

/-- The report about a definition that was checked: the resource and its types, or the fault. -/
def report (result : Except Fault Checked) : String :=
  let lines := match result with
    | .ok checked => checked.lines
    | .error fault => ["Error: " ++ fault.shown]
  String.join (lines.map (· ++ "\n"))

end CrdToolset
