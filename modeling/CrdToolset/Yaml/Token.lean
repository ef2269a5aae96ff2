import CrdToolset.Yaml.Cursor

/-!
# YAML tokens

The units that a YAML text is cut into. Block structure is given by indentation in the text and by
start and end tokens here, so that nodes can be built from the tokens without another look at the
text.
-/

namespace CrdToolset.Yaml

/-- How a scalar is written, as far as anything depends on it: without quotes, as a block that keeps
its lines, or in any other way. -/
inductive Style where
  /-- Without quotes. -/
  | plain
  /-- As a block that keeps its lines. -/
  | literal
  /-- In quotes, or as a block whose lines are joined. -/
  | other
  deriving DecidableEq

/-- The units of a YAML text, in which the structure is spelled out and white space is gone. -/
inductive Token where
  /-- The version that the document is written for. -/
  | version (major minor : Nat)
  /-- An abbreviation for tags. -/
  | tagDirective (handle start : String)
  /-- A document starts. -/
  | documentStart
  /-- A document ends. -/
  | documentEnd
  /-- A sequence starts whose items are marked by hyphens. -/
  | blockSequenceStart
  /-- A mapping starts whose keys stand on lines of their own. -/
  | blockMappingStart
  /-- A sequence or a mapping ends that has no bracket to end it. -/
  | blockEnd
  /-- An opening square bracket. -/
  | flowSequenceStart
  /-- A closing square bracket. -/
  | flowSequenceEnd
  /-- An opening brace. -/
  | flowMappingStart
  /-- A closing brace. -/
  | flowMappingEnd
  /-- An item of a sequence starts. -/
  | blockEntry
  /-- A comma between items. -/
  | flowEntry
  /-- A key follows. -/
  | key
  /-- A value follows. -/
  | value
  /-- A reference to a node. -/
  | alias (name : String)
  /-- The name of the node that follows. -/
  | anchor (name : String)
  /-- The tag of the node that follows. -/
  | tag (handle suffix : String)
  /-- A scalar. -/
  | scalar (text : String) (style : Style)
  deriving DecidableEq

end CrdToolset.Yaml
