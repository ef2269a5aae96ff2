import CrdToolset.Yaml.Tokens

/-!
# YAML nodes

A document is a tree of scalars, sequences and mappings. A reference to an anchored node stands in the tree as
a leaf and is only followed by a reader, so a document whose nodes contain themselves is a value like any
other.
-/

namespace CrdToolset.Yaml

/-- A part of a document, with the tags and the styles on which its meaning depends. -/
inductive Node where
  /-- A scalar with its tag. -/
  | scalar (tag : Option String) (style : Style) (text : String)
  /-- A sequence with its tag. -/
  | sequence (tag : Option String) (items : List Node)
  /-- A mapping with its tag. -/
  | mapping (tag : Option String) (entries : List (Node × Node))
  /-- A reference to the node with a number. -/
  | reference (anchor : Nat)

/-- The node that stands where nothing is written, which is a scalar without a text. -/
def Node.empty : Node := .scalar none .plain ""

mutual

/-- How many marks it takes to write a node down: one for a scalar or a reference, one for the start and one
for the end of anything else. -/
def Node.marks : Node → Nat
  | .scalar _ _ _ => 1
  | .reference _ => 1
  | .sequence _ items => 2 + itemMarks items
  | .mapping _ entries => 2 + entryMarks entries

/-- The marks of the items of a sequence, counted together. -/
def Node.itemMarks : List Node → Nat
  | [] => 0
  | node :: rest => node.marks + itemMarks rest

/-- The marks of the entries of a mapping, counted together for keys and values. -/
def Node.entryMarks : List (Node × Node) → Nat
  | [] => 0
  | (key, value) :: rest => key.marks + value.marks + entryMarks rest

end

/-- A document, with its root and with the nodes that can be referred to. -/
structure Document where
  /-- The whole document; nothing, if the text holds no document. -/
  root : Option Node := none
  /-- The anchored nodes by number. -/
  anchored : List (Nat × Node) := []

/-- What is known while nodes are built from tokens: the tokens ahead, and what was named before. -/
structure Builder where
  /-- The tokens ahead. -/
  tokens : List Token
  /-- The handles of tags with what they stand for. -/
  handles : List (String × String)
  /-- The number of each anchor. -/
  anchors : List (String × Nat) := []
  /-- How many nodes with an anchor have started. -/
  started : Nat := 0
  /-- For each number, which of those nodes bears it; the last to start counts. -/
  bearers : List (Nat × Nat) := []
  /-- Those nodes that are complete. -/
  complete : List (Nat × Node) := []

namespace Builder

/-- A step of a builder, which may give up. Then the whole text has no document. -/
abbrev Build := StateT Builder Option

/-- The token ahead, if there is one, which is not passed. -/
def peek : Build (Option Token) := do pure (← get).tokens.head?

/-- Goes past the token ahead, which has been read. -/
def advance : Build Unit := modify fun b => { b with tokens := b.tokens.drop 1 }

/-- Gives up, since the tokens do not make up a document. -/
def fail {α : Type} : Build α := fun _ => none

/-- Goes past the token ahead if it is the given one, and says whether it was. -/
def accept (token : Token) : Build Bool := do
  if (← peek) == some token then
    advance
    pure true
  else pure false

/-- The token ahead is one of those given, any of which would end a node. -/
def ahead (tokens : List Token) : Build Bool := do
  pure ((← peek).any tokens.contains)

/-- The tag that a handle and a suffix stand for. A handle has to be known from a directive, unless
it is one of the default handles. -/
def expandTag (handle suffix : String) : Build String := do
  if handle.isEmpty then pure suffix
  else match (← get).handles.lookup handle with
    | some start => pure (start ++ suffix)
    | none => fail

/-- What may stand before the content of a node: a name for it, and a tag. -/
structure Mark where
  /-- The name of the node. -/
  anchor : Option String := none
  /-- The tag of the node. -/
  tag : Option String := none

/-- Reads an anchor and a tag, in either order. Each of them may be missing, and neither may be
there twice. -/
def readMark : Nat → Mark → Build Mark
  | 0, m => pure m
  | n + 1, m => do
    match (← peek), m with
    | some (.anchor name), ⟨none, _⟩ =>
      advance
      readMark n { m with anchor := some name }
    | some (.tag handle suffix), ⟨_, none⟩ =>
      advance
      let tag ← expandTag handle suffix
      readMark n { m with tag := some tag }
    | _, _ => pure m

/-- Numbers the node that starts here, if it has a name, and gives back which of the named nodes it is. A
name that is used again is numbered anew. -/
def start (m : Mark) : Build (Option Nat) := do
  match m.anchor with
  | none => pure none
  | some name =>
    let b ← get
    let number := b.anchors.length
    let anchors :=
      if (b.anchors.lookup name).isSome then b.anchors.map fun (other, n) =>
        (other, if other == name then number else n)
      else (name, number) :: b.anchors
    set { b with
      anchors := anchors
      started := b.started + 1
      bearers := (number, b.started) :: b.bearers }
    pure (some b.started)

/-- Keeps the node if it is one of those with a name, so that it can be referred to. -/
def finish (which : Option Nat) (node : Node) : Build Node := do
  match which with
  | none => pure node
  | some n =>
    modify fun b => { b with complete := (n, node) :: b.complete }
    pure node

mutual

/-- Reads a node. Outside brackets it may be a block, and in a mapping a sequence may stand without being
indented. -/
def node (inBlock entries : Bool) : Nat → Build Node
  | 0 => fail
  | fuel + 1 => do
    match (← peek) with
    | some (.alias name) =>
      advance
      match (← get).anchors.lookup name with
      | some number => pure (.reference number)
      | none => fail
    | _ =>
      let m ← readMark 2 {}
      let which ← start m
      match (← peek) with
      | some .blockEntry =>
        if entries then finish which (.sequence m.tag (← looseItems fuel))
        else if m.anchor.isSome || m.tag.isSome then finish which (.scalar m.tag .plain "")
        else fail
      | some (.scalar text style) =>
        advance
        finish which (.scalar m.tag style text)
      | some .flowSequenceStart =>
        advance
        finish which (.sequence m.tag (← flowItems true fuel))
      | some .flowMappingStart =>
        advance
        finish which (.mapping m.tag (← flowEntries true fuel))
      | other =>
        if inBlock && other == some .blockSequenceStart then do
          advance
          finish which (.sequence m.tag (← blockItems fuel))
        else if inBlock && other == some .blockMappingStart then do
          advance
          finish which (.mapping m.tag (← blockEntries fuel))
        else if m.anchor.isSome || m.tag.isSome then finish which (.scalar m.tag .plain "")
        else fail

/-- Reads a node that may be missing before one of the given tokens or the end. -/
def nodeUnless (inBlock entries : Bool) (tokens : List Token) : Nat → Build Node
  | 0 => fail
  | fuel + 1 => do
    if (← peek).isNone || (← ahead tokens) then pure Node.empty else node inBlock entries fuel

/-- Reads the items of a sequence that is indented, up to the end of its block. -/
def blockItems : Nat → Build (List Node)
  | 0 => fail
  | fuel + 1 => do
    if ← accept .blockEntry then
      let item ← nodeUnless true false [.blockEntry, .blockEnd] fuel
      pure (item :: (← blockItems fuel))
    else if ← accept .blockEnd then pure []
    else fail

/-- Reads the items of a sequence that is not indented, which ends where no further item comes. -/
def looseItems : Nat → Build (List Node)
  | 0 => fail
  | fuel + 1 => do
    if ← accept .blockEntry then
      let item ← nodeUnless true false [.blockEntry, .key, .value, .blockEnd] fuel
      pure (item :: (← looseItems fuel))
    else pure []

/-- Reads the entries of a mapping outside brackets, up to the end of its block. A key may lack its
value. -/
def blockEntries : Nat → Build (List (Node × Node))
  | 0 => fail
  | fuel + 1 => do
    if ← accept .key then
      let key ← nodeUnless true true [.key, .value, .blockEnd] fuel
      let value ←
        if ← accept .value then nodeUnless true true [.key, .value, .blockEnd] fuel
        else pure Node.empty
      pure ((key, value) :: (← blockEntries fuel))
    else if ← accept .blockEnd then pure []
    else fail

/-- Reads the items of a sequence in brackets; all but the first follow a comma. -/
def flowItems (first : Bool) : Nat → Build (List Node)
  | 0 => fail
  | fuel + 1 => do
    if ← accept .flowSequenceEnd then pure []
    else
      let comma ← if first then pure true else accept .flowEntry
      if !comma then fail
      else if ← accept .flowSequenceEnd then pure []
      else
        let item ← if ← accept .key then flowPair fuel else node false false fuel
        pure (item :: (← flowItems false fuel))

/-- Reads a mapping of a single pair that stands in a sequence in brackets. A colon right after the sign of
the key counts as the missing key itself, so the value is missing too. -/
def flowPair : Nat → Build Node
  | 0 => fail
  | fuel + 1 => do
    let ends : List Token := [.flowEntry, .flowSequenceEnd]
    let key ←
      if ← ahead (.value :: ends) then do
        advance
        pure Node.empty
      else node false false fuel
    let value ← if ← accept .value then nodeUnless false false ends fuel else pure Node.empty
    pure (.mapping none [(key, value)])

/-- Reads the entries of a mapping in braces; all but the first follow a comma. -/
def flowEntries (first : Bool) : Nat → Build (List (Node × Node))
  | 0 => fail
  | fuel + 1 => do
    if ← accept .flowMappingEnd then pure []
    else
      let comma ← if first then pure true else accept .flowEntry
      if !comma then fail
      else if ← accept .flowMappingEnd then pure []
      else
        let ends : List Token := [.flowEntry, .flowMappingEnd]
        let signed ← accept .key
        let key ← if signed then nodeUnless false false (.value :: ends) fuel else node false false fuel
        let hasValue ← if signed then accept .value else pure false
        let value ← if hasValue then nodeUnless false false ends fuel else pure Node.empty
        pure ((key, value) :: (← flowEntries false fuel))

end

/-- Reads the directives before a document: at most one version, which must be one of those known, and
each handle at most once. -/
def directives (version : Bool) : List Token → List (String × String) →
    Option (List Token × List (String × String))
  | .version major minor :: rest, handles =>
    if version || major ≠ 1 || (minor ≠ 1 && minor ≠ 2) then none else directives true rest handles
  | .tagDirective handle start :: rest, handles =>
    if (handles.lookup handle).isSome then none else directives version rest ((handle, start) :: handles)
  | tokens, handles => some (tokens, handles)

/-- The handles that need no directive, with what they stand for. -/
def defaultHandles : List (String × String) := [("!", "!"), ("!!", "tag:yaml.org,2002:")]

/-- Reads the content of a document; after the sign of its start it may be missing. -/
def content (signed : Bool) (fuel : Nat) : Build Node := do
  match (← peek) with
  | none => if signed then pure Node.empty else fail
  | some (.version _ _) => if signed then pure Node.empty else fail
  | some (.tagDirective _ _) => if signed then pure Node.empty else fail
  | some .documentStart => if signed then pure Node.empty else fail
  | some .documentEnd => if signed then pure Node.empty else fail
  | _ => node true false fuel

end Builder

/-- The document that tokens make up. There may be no document, but no more than one. -/
def Document.ofTokens? (tokens : List Token) : Option Document :=
  match tokens with
  | [] => some {}
  | _ => do
    let (rest, handles) ← Builder.directives false tokens []
    let signed := rest.head? == some .documentStart
    if !signed && rest.length < tokens.length then none
    else
      let b : Builder := {
        tokens := if signed then rest.drop 1 else rest
        handles := handles ++ Builder.defaultHandles }
      let (root, b) ← (Builder.content signed (4 * tokens.length + 8)).run b
      if (b.tokens.dropWhile (· == .documentEnd)).isEmpty then
        some {
          root := some root
          anchored := b.bearers.filterMap fun (number, which) =>
            (b.complete.lookup which).map fun node => (number, node) }
      else none

/-- The document in a text, if the text can be cut into tokens and these make up a document. -/
def Document.read? (text : String) : Option Document := do
  Document.ofTokens? (← Token.scan? text)

end CrdToolset.Yaml
