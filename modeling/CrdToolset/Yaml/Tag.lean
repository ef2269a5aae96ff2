import CrdToolset.Yaml.Scalar

/-!
# Tags, anchors and directives in a YAML text

Reads the parts of a YAML text that are not content: names of nodes, tags with their handles, and
the directives before a document. They decide what a node means and what can be referred to, but
nothing of them is in the value that is read.
-/

namespace CrdToolset.Yaml

/-- Reads the name of an anchor or alias after its sign. The name must end where a name can end. -/
def anchorName (cur : Cursor) : Option (String × Cursor) :=
  let name := cur.run isNameChar
  let cur := cur.skip name.length
  let ends := cur.atGap || cur.peek.any fun c =>
    c == '?' || c == ':' || c == ',' || c == ']' || c == '\x7d' || c == '%' || c == '@' || c.toNat == 0x60
  if name.isEmpty || !ends then none else some (String.ofList name, cur)

/-- Reads an escaped byte of a tag, which is two hexadecimal digits after a percent sign. -/
def escapedByte? (cs : List Char) : Option Nat :=
  match cs with
  | '%' :: a :: b :: _ => hexValue? [a, b]
  | _ => none

/-- Reads the further bytes of an escaped character of a tag, each of which adds six bits. -/
def escapedTail? : Nat → Nat → Cursor → Option (Nat × Cursor)
  | 0, code, cur => some (code, cur)
  | n + 1, code, cur =>
    match escapedByte? cur.rest with
    | some b => if b / 64 = 2 then escapedTail? n (code * 64 + b % 64) (cur.skip 3) else none
    | none => none

/-- Reads an escaped character of a tag, whose first byte says how many of up to four it takes. -/
def escapedChar? (cur : Cursor) : Option (Char × Cursor) :=
  match escapedByte? cur.rest with
  | none => none
  | some b =>
    let decode (more code : Nat) : Option (Char × Cursor) :=
      (escapedTail? more code (cur.skip 3)).map fun (code, cur) => (Char.ofNat code, cur)
    if b < 0x80 then decode 0 b
    else if b / 32 = 6 then decode 1 (b % 32)
    else if b / 16 = 14 then decode 2 (b % 16)
    else if b / 8 = 30 then decode 3 (b % 8)
    else none

/-- The character may stand in a tag; brackets and commas only if the tag is given in full. -/
def isTagChar (full : Bool) (c : Char) : Bool :=
  isNameChar c || ";/?:@&=+$.%!~*'()".toList.contains c || (full && (c == ',' || c == '[' || c == ']'))

/-- Reads the characters of a tag up to the first that cannot stand in one. -/
def tagChars (full : Bool) : Nat → Cursor → Option (List Char × Cursor)
  | 0, cur => some ([], cur)
  | fuel + 1, cur =>
    match cur.peek with
    | none => some ([], cur)
    | some c =>
      if !isTagChar full c then some ([], cur)
      else
        match (if c == '%' then escapedChar? cur else some (c, cur.next)) with
        | none => none
        | some (d, cur) => (tagChars full fuel cur).map fun (text, cur) => (d :: text, cur)

/-- Reads the characters of a tag that goes on from `start`; there must be one, in it or before it. -/
def tagText (full : Bool) (start : List Char) (cur : Cursor) : Option (List Char × Cursor) := do
  let (text, cur) ← tagChars full cur.left cur
  if start.isEmpty && text.isEmpty then none else some (start.drop 1 ++ text, cur)

/-- Reads a handle of a tag, which begins with an exclamation mark. In a directive it must end with one,
unless it is nothing else. -/
def tagHandle (directive : Bool) (cur : Cursor) : Option (List Char × Cursor) :=
  if !cur.sees '!' then none
  else
    let name := cur.next.run isNameChar
    let after := cur.next.skip name.length
    if after.sees '!' then some ('!' :: name ++ ['!'], after.next)
    else if directive && !name.isEmpty then none
    else some ('!' :: name, after)

/-- Reads a tag at the cursor: its handle and its suffix, or a tag that is written out in full. -/
def tagToken (flow : Bool) (cur : Cursor) : Option (Token × Cursor) := do
  let (handle, suffix, cur) ← (show Option (List Char × List Char × Cursor) from do
    if cur.sees '<' 1 then
      let (text, cur) ← tagText true [] (cur.skip 2)
      if cur.sees '>' then some ([], text, cur.next) else none
    else
      let (handle, after) ← tagHandle false cur
      if 1 < handle.length && handle.getLast? == some '!' then
        let (text, cur) ← tagText false [] after
        some (handle, text, cur)
      else
        let (text, cur) ← tagText false handle after
        some (if text.isEmpty then ([], ['!'], cur) else (['!'], text, cur)))
  if cur.atGap || (flow && cur.sees ',') then
    some (.tag (String.ofList handle) (String.ofList suffix), cur)
  else none

/-- Reads a number of at most nine digits, as it stands in a directive. -/
def versionNumber (cur : Cursor) : Option (Nat × Cursor) :=
  let ds := cur.run Char.isDigit
  if ds.isEmpty || 9 < ds.length then none
  else some (ds.foldl (fun n c => n * 10 + (c.toNat - 48)) 0, cur.skip ds.length)

/-- Reads a directive after its percent sign, to the end of its line. Only two directives are
known. -/
def directive (cur : Cursor) : Option (Token × Cursor) := do
  let name := cur.run isNameChar
  let cur := cur.skip name.length
  let (token, cur) ← (show Option (Token × Cursor) from
    if !cur.atGap then none
    else if name = ['Y', 'A', 'M', 'L'] then do
      let (major, cur) ← versionNumber (cur.skipRun isSpace)
      if !cur.sees '.' then none
      else
        let (minor, cur) ← versionNumber cur.next
        some (.version major minor, cur)
    else if name = ['T', 'A', 'G'] then do
      let (handle, cur) ← tagHandle true (cur.skipRun isSpace)
      if !cur.peek.any isSpace then none
      else
        let (start, cur) ← tagText true [] (cur.skipRun isSpace)
        if !cur.atGap then none
        else some (.tagDirective (String.ofList handle) (String.ofList start), cur)
    else none)
  let cur := cur.skipRun isSpace
  let cur := if cur.sees '#' then cur.skipRun fun c => !isBreak c else cur
  if cur.atLineEnd then some (token, cur.next) else none

end CrdToolset.Yaml
