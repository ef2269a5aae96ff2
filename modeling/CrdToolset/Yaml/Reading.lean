import CrdToolset.Yaml.Meaning
import CrdToolset.Yaml.Node
import CrdToolset.Yaml.Record

/-!
# Reading a document

A document is read part by part, from its root, where the reader knows what it expects. Nothing written, where
a collection is expected, counts as a collection without parts. References are followed as they are met, and
two bounds keep short documents from having endless contents: collections may be nested 128 deep along every
way that is followed, and the number of references that are followed is limited by the length of the document.
-/

namespace CrdToolset.Yaml

/-- A reader. It knows the document and how many references may still be followed, and it may fail. -/
abbrev Read := ReaderT Document (StateT Nat Option)

/-- A part of a document, together with how deep a reader may still go from there. -/
structure Part where
  /-- What stands there. -/
  node : Node
  /-- How many nested collections may be entered from there. -/
  levels : Nat

/-- How deep the collections that are read may be nested. What lies deeper cannot be read. -/
def maxNesting : Nat := 128

/-- How many references may be followed for each mark of a document, so that longer documents may
have more. -/
def followsPerMark : Nat := 100

/-- Goes on with a value that may be missing, and fails if it is. -/
def Read.lift {α : Type} : Option α → Read α
  | some a => pure a
  | none => failure

/-- The node itself or, for a reference, the one that it refers to. Following a reference uses up
one of those allowed. -/
def Node.target : Node → Read Node
  | .reference anchor => do
    match (← get), (← read).anchored.lookup anchor with
    | left + 1, some node =>
      set left
      pure node
    | _, _ => failure
  | node => pure node

/-- The node is a scalar for which nothing is written, not even quotes. -/
def Node.isBlank : Node → Bool
  | .scalar _ style text => style = .plain ∧ text = ""
  | _ => false

/-- Reads a scalar as its text, whatever it may mean. A collection has no text. -/
def Node.text (node : Node) : Read String := do
  match (← node.target) with
  | .scalar _ _ text => pure text
  | _ => failure

/-- Reads a scalar that may mean what the tag is for, which depends on its own tag and on how it is
written. -/
def Node.meaning {α : Type} (tagName : String) (read : String → Option α) (node : Node) : Read α := do
  match (← node.target) with
  | .scalar tag style text => if Scalar.mayMean tagName tag style then Read.lift (read text) else failure
  | _ => failure

namespace Part

/-- Reads a part as a text, which every scalar has. -/
def text (p : Part) : Read String := p.node.text

/-- Reads a part as a truth value, which only certain words are. -/
def truth (p : Part) : Read Bool := p.node.meaning "bool" Scalar.truth?

/-- Reads a part as a whole number of 64 bits that is not negative. -/
def natural (p : Part) : Read Nat :=
  p.node.meaning "int" fun text => (Scalar.natural? text).filter fun n => n < Nat.pow 2 64

/-- Reads a part as a number of the double format. -/
def number (p : Part) : Read Number.Double := p.node.meaning "float" Scalar.number?

/-- The part, if it does not mean nothing. A missing value may be written out as nothing. -/
def present (p : Part) : Read (Option Part) := do
  let node ← p.node.target
  let here : Part := { p with node := node }
  match node with
  | .scalar tag .plain text =>
    if tag = some (Scalar.coreTag "null") then
      if Scalar.isNullWord text then pure none else failure
    else if tag.isNone && (text.isEmpty || Scalar.isNullWord text) then pure none
    else pure (some here)
  | _ => pure (some here)

/-- A part inside the collection that `p` is, from which one level less is left. -/
def inside (p : Part) (node : Node) : Part := ⟨node, p.levels - 1⟩

/-- Reads a part as a collection, of which `parts` gives what is in it. A blank part is a collection
with nothing in it. -/
def collection {α : Type} (parts : Node → Option (List α)) (p : Part) : Read (List α) := do
  let node ← p.node.target
  if node.isBlank then pure []
  else if p.levels = 0 then failure
  else Read.lift (parts node)

/-- Reads the items of a list, each as a part of its own. -/
def items (p : Part) : Read (List Part) :=
  p.collection fun
    | .sequence _ items => some (items.map p.inside)
    | _ => none

/-- Reads the entries of a map from texts, in the order in which they are written. -/
def entries (p : Part) : Read (List (String × Part)) := do
  let pairs ← p.collection fun
    | .mapping _ entries => some entries
    | _ => none
  pairs.mapM fun (key, value) => return (← key.text, p.inside value)

/-- Reads the fields with the given names, and passes over all others. -/
def record (names : List String) (p : Part) : Read (Record Part) := do
  Read.lift (Record.ofEntries? names (← p.entries))

end Part

/-- Reads a whole document from a text. The text must hold a document, and the reader must find in
it what it expects. -/
def Document.parse? {α : Type} (read : Part → Read α) (text : String) : Option α := do
  let document ← Document.read? text
  let root := document.root.getD Node.empty
  let (value, _) ← ((read ⟨root, maxNesting⟩).run document).run (followsPerMark * root.marks)
  some value

end CrdToolset.Yaml
