import CrdToolset.Yaml.Tag

/-!
# Cutting a YAML text into tokens

A text is cut into tokens from front to back. Whether a scalar is a key is only seen at the colon after it,
so every scalar that may turn out to be one keeps a slot before it among the tokens, which the colon fills.
A key of this kind has to stand on one line and may not be longer than 1024 characters.
-/

namespace CrdToolset.Yaml

/-- A place where a key may have started, which is decided when a colon comes or can no longer
come. -/
structure PossibleKey where
  /-- The slot to fill if it is a key. -/
  slot : Nat
  /-- It must be a key, for it stands where the block mapping around it has its keys. -/
  required : Bool
  /-- Where it started. -/
  start : Cursor

/-- The state between two tokens: the text ahead, the tokens so far, and what the structure around
the cursor is. -/
structure Cutter where
  /-- The text ahead. -/
  cur : Cursor
  /-- The tokens so far; each slot holds as many as are known. -/
  slots : Array (List Token) := #[]
  /-- The indentation of the block around the cursor, with -1 for no block. -/
  indent : Int := -1
  /-- The indentations of the blocks around that one, inner ones first. -/
  outer : List Int := []
  /-- A key without a sign may start here. -/
  keyAllowed : Bool := true
  /-- For each open bracket, and for what is outside all of them, the key that may have started there;
  inner ones first. -/
  keys : List (Option PossibleKey) := [none]

namespace Cutter

/-- The cursor is between brackets, where indentation does not matter. -/
def inFlow (s : Cutter) : Bool := 1 < s.keys.length

/-- Adds a token in a slot of its own at the end. -/
def emit (s : Cutter) (token : Token) : Cutter := { s with slots := s.slots.push [token] }

/-- Opens a block at a column if that is further in than the block around it. -/
def openBlock (s : Cutter) (column : Nat) : Cutter :=
  if !s.inFlow && s.indent < column then { s with indent := column, outer := s.indent :: s.outer } else s

/-- Opens a block at a column, with a token for its start, if that is further in. -/
def startBlock (s : Cutter) (column : Nat) (token : Token) : Cutter :=
  if !s.inFlow && s.indent < column then (s.openBlock column).emit token else s

/-- Ends the blocks that are further in than a column. Between brackets there are none to end. -/
def endBlocks (s : Cutter) (column : Int) : Cutter :=
  if s.inFlow then s
  else
    let rec go (s : Cutter) : List Int → Cutter
      | [] => s
      | indent :: outer =>
        if column < s.indent then go ({ s with indent := indent, outer := outer }.emit .blockEnd) outer else s
    go s s.outer

/-- Forgets the key that may have started at this level; it may not have been required. -/
def dropKey (s : Cutter) : Option Cutter :=
  match s.keys with
  | some key :: rest => if key.required then none else some { s with keys := none :: rest }
  | _ => some s

/-- Notes that a key may start here, if one is allowed, and keeps a slot for it among the tokens. -/
def noteKey (s : Cutter) : Option Cutter :=
  if !s.keyAllowed then some s
  else
    s.dropKey.map fun s =>
      let key : PossibleKey := ⟨s.slots.size, !s.inFlow && s.indent == (s.cur.column : Int), s.cur⟩
      { s with slots := s.slots.push [], keys := some key :: s.keys.drop 1 }

/-- Forgets the keys that can no longer be one, because the line ended or they grew too long; none of them
may have been required. -/
def dropStale (s : Cutter) : Option Cutter :=
  let stale (key : PossibleKey) : Bool :=
    key.start.line < s.cur.line || key.start.index + 1024 < s.cur.index
  if s.keys.any fun key => key.any fun key => stale key && key.required then none
  else some { s with keys := s.keys.map fun key => key.filter fun key => !stale key }

/-- Passes over blanks, comments and empty lines. Tabs count as blanks only where no key may start. A byte order
mark at the beginning of a line is passed over too, but it takes up a column like any other character. -/
def passBlanks : Nat → Cutter → Cutter
  | 0, s => s
  | fuel + 1, s =>
    let cur := if s.cur.column = 0 && s.cur.sees '\ufeff' then s.cur.next else s.cur
    let tabs := s.inFlow || !s.keyAllowed
    let cur := cur.skipRun fun c => c == ' ' || (tabs && c == '\t')
    let cur := if cur.sees '#' then cur.skipRun fun c => !isBreak c else cur
    if cur.peek.any isBreak then
      passBlanks fuel { s with cur := cur.next, keyAllowed := s.keyAllowed || !s.inFlow }
    else { s with cur := cur }

/-- Adds the token for what starts or ends a document, outside all blocks, which are ended
before. -/
def atMargin (s : Cutter) (token : Token) (cur : Cursor) : Option Cutter :=
  (s.endBlocks (-1)).dropKey.map fun s => { s with keyAllowed := false, cur := cur }.emit token

/-- Adds an opening bracket, after which indentation does not matter until it is closed. -/
def openFlow (s : Cutter) (token : Token) : Option Cutter :=
  s.noteKey.map fun s =>
    { s with keys := none :: s.keys, keyAllowed := true, cur := s.cur.next }.emit token

/-- Adds a closing bracket, which may be the end of a key. -/
def closeFlow (s : Cutter) (token : Token) : Option Cutter :=
  s.dropKey.map fun s =>
    { s with
      keys := if s.inFlow then s.keys.drop 1 else s.keys
      keyAllowed := false
      cur := s.cur.next }.emit token

/-- Adds the comma between two parts of a collection in brackets. -/
def comma (s : Cutter) : Option Cutter :=
  s.dropKey.map fun s => { s with keyAllowed := true, cur := s.cur.next }.emit .flowEntry

/-- Adds the sign of an item of a sequence, and starts the sequence if the item is further in than
the block around it. -/
def entry (s : Cutter) : Option Cutter :=
  if !s.inFlow && !s.keyAllowed then none
  else
    (s.startBlock s.cur.column .blockSequenceStart).dropKey.map fun s =>
      { s with keyAllowed := true, cur := s.cur.next }.emit .blockEntry

/-- Adds the sign of a key, and starts the mapping if the key is further in than the block around
it. -/
def keySign (s : Cutter) : Option Cutter :=
  if !s.inFlow && !s.keyAllowed then none
  else
    (s.startBlock s.cur.column .blockMappingStart).dropKey.map fun s =>
      { s with keyAllowed := !s.inFlow, cur := s.cur.next }.emit .key

/-- Adds the colon before a value, and makes what came before it a key where it may be one. -/
def valueSign (s : Cutter) : Option Cutter :=
  match s.keys with
  | some key :: rest =>
    let column := key.start.column
    let before := if !s.inFlow && s.indent < column then [.blockMappingStart, .key] else [.key]
    let s := { s with slots := s.slots.set! key.slot before }.openBlock column
    some ({ s with keys := none :: rest, keyAllowed := false, cur := s.cur.next }.emit .value)
  | _ =>
    if !s.inFlow && !s.keyAllowed then none
    else
      let s := s.startBlock s.cur.column .blockMappingStart
      some ({ s with keyAllowed := !s.inFlow, cur := s.cur.next }.emit .value)

/-- Adds a token that may start a key, and goes on behind it. After it no other key may start on the
line. -/
def content (s : Cutter) (read : Cutter → Option (Token × Cursor)) : Option Cutter := do
  let s ← s.noteKey
  let (token, cur) ← read s
  some ({ s with keyAllowed := false, cur := cur }.emit token)

/-- Adds a scalar in quotes, which is a text whatever stands in it. -/
def quoted (s : Cutter) (double : Bool) : Option Cutter :=
  s.content fun s => (quotedScalar double s.cur.next).map fun (text, cur) =>
    (.scalar (String.ofList text) .other, cur)

/-- Adds a scalar without quotes, after which a key may start if the scalar went over a line
break. -/
def plain (s : Cutter) : Option Cutter := do
  let s ← s.noteKey
  let (text, broken, cur) ← plainScalar s.inFlow (s.indent + 1).toNat s.cur
  some ({ s with keyAllowed := broken, cur := cur }.emit (.scalar (String.ofList text) .plain))

/-- Adds a block scalar, which cannot be a key. After it a line begins, so a key may start. -/
def block (s : Cutter) (literal : Bool) : Option Cutter := do
  let s ← s.dropKey
  let (text, cur) ← blockScalar literal s.indent s.cur.next
  some ({ s with keyAllowed := true, cur := cur }.emit
    (.scalar (String.ofList text) (if literal then .literal else .other)))

/-- The character may start a scalar without quotes, where `s` stands before it. What indicates
structure may not. -/
def startsPlain (s : Cutter) (c : Char) : Bool :=
  let indicator := "-?:,[]\x7b\x7d#&*!|>'\"%@`".toList.contains c
  (!indicator && !isSpace c) ||
    (c == '-' && !(s.cur.peek 1).any isSpace) ||
    (!s.inFlow && (c == '?' || c == ':') && !s.cur.atGap 1)

/-- Adds what starts with the character at the cursor, which decides what is read. -/
def fetch (s : Cutter) (c : Char) : Option Cutter :=
  let signHere := s.inFlow || s.cur.atGap 1
  if s.cur.column = 0 ∧ c = '%' then do
    let s ← (s.endBlocks (-1)).dropKey
    let (token, cur) ← directive s.cur.next
    some ({ s with keyAllowed := false, cur := cur }.emit token)
  else if s.cur.atMarker '-' then s.atMargin .documentStart (s.cur.skip 3)
  else if s.cur.atMarker '.' then s.atMargin .documentEnd (s.cur.skip 3)
  else if c = '[' then s.openFlow .flowSequenceStart
  else if c = '\x7b' then s.openFlow .flowMappingStart
  else if c = ']' then s.closeFlow .flowSequenceEnd
  else if c = '\x7d' then s.closeFlow .flowMappingEnd
  else if c = ',' then s.comma
  else if c = '-' ∧ s.cur.atGap 1 then s.entry
  else if c = '?' ∧ signHere then s.keySign
  else if c = ':' ∧ signHere then s.valueSign
  else if c = '*' then
    s.content fun s => (anchorName s.cur.next).map fun (name, cur) => (.alias name, cur)
  else if c = '&' then
    s.content fun s => (anchorName s.cur.next).map fun (name, cur) => (.anchor name, cur)
  else if c = '!' then s.content fun s => tagToken s.inFlow s.cur
  else if c = '|' ∧ !s.inFlow then s.block true
  else if c = '>' ∧ !s.inFlow then s.block false
  else if c = '\'' then s.quoted false
  else if c = '"' then s.quoted true
  else if s.startsPlain c then s.plain
  else none

/-- Cuts off token after token up to the end of the text, where all blocks are ended. -/
def run : Nat → Cutter → Option (List Token)
  | 0, _ => none
  | fuel + 1, s => do
    let s ← (passBlanks (s.cur.left + 1) s).dropStale
    let s := s.endBlocks s.cur.column
    match s.cur.peek with
    | some c => run fuel (← s.fetch c)
    | none =>
      let s ← (s.endBlocks (-1)).dropKey
      some s.slots.toList.flatten

end Cutter

/-- The tokens of a text, if every character of it is allowed and it can be cut into tokens. -/
def Token.scan? (text : String) : Option (List Token) :=
  let cs := text.toList
  if cs.all isAllowed then
    let cs := plainBreaks cs
    Cutter.run (cs.length + 1) { cur := { rest := cs } }
  else none

end CrdToolset.Yaml
