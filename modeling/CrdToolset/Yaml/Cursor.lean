/-!
# A place in a YAML text

The text that is still ahead, with the number of its line and column. Line breaks are made alike when the
text is opened, except for the two separators that keep their identity.
-/

namespace CrdToolset.Yaml

/-- The character may stand in a YAML text. A text with any other character is refused. -/
def isAllowed (c : Char) : Bool :=
  let n := c.toNat
  n == 0x09 || n == 0x0A || n == 0x0D || (0x20 ≤ n && n ≤ 0x7E) || n == 0x85 ||
    (0xA0 ≤ n && n ≤ 0xD7FF) || (0xE000 ≤ n && n ≤ 0xFFFD) || 0x10000 ≤ n

/-- Writes every line break that is not a separator as a line feed, so that there is one way to end
a line. -/
def plainBreaks : List Char → List Char
  | [] => []
  | '\r' :: '\n' :: rest => '\n' :: plainBreaks rest
  | c :: rest => (if c = '\r' ∨ c = '\u0085' then '\n' else c) :: plainBreaks rest

/-- The character ends a line, after line breaks have been made alike. -/
def isBreak (c : Char) : Bool := c == '\n' || c == '\u2028' || c == '\u2029'

/-- The character is a space or a tab, which may stand between the parts of a line. -/
def isSpace (c : Char) : Bool := c == ' ' || c == '\t'

/-- A letter, a digit, a hyphen or an underscore, of which names of nodes and handles are made. -/
def isNameChar (c : Char) : Bool := c.isAlphanum || c == '-' || c == '_'

/-- The text ahead and where it begins. Lines and columns are counted because structure depends on
them. -/
structure Cursor where
  /-- The characters ahead. -/
  rest : List Char
  /-- How many characters are ahead. -/
  left : Nat := rest.length
  /-- How many characters came before. -/
  index : Nat := 0
  /-- How many line breaks came before. -/
  line : Nat := 0
  /-- How many characters came before on this line. -/
  column : Nat := 0

namespace Cursor

/-- The character that is `ahead` places on, if the text goes on so far. -/
def peek (cur : Cursor) (ahead : Nat := 0) : Option Char := cur.rest[ahead]?

/-- The cursor one character further, with its line and column kept in step. At the end of the text
it stays. -/
def next (cur : Cursor) : Cursor :=
  match cur.rest with
  | [] => cur
  | c :: rest =>
    let left := cur.left - 1
    if isBreak c then ⟨rest, left, cur.index + 1, cur.line + 1, 0⟩
    else ⟨rest, left, cur.index + 1, cur.line, cur.column + 1⟩

/-- The cursor a number of characters further, or at the end of the text. -/
def skip (cur : Cursor) : Nat → Cursor
  | 0 => cur
  | n + 1 => cur.next.skip n

/-- The characters ahead up to the first that does not satisfy `p`, which are not passed. -/
def run (p : Char → Bool) (cur : Cursor) : List Char := cur.rest.takeWhile p

/-- The cursor past all characters ahead that satisfy `p`. -/
def skipRun (p : Char → Bool) (cur : Cursor) : Cursor := cur.skip (cur.run p).length

/-- The character `ahead` places on is `c`, so the text goes on at least so far. -/
def sees (cur : Cursor) (c : Char) (ahead : Nat := 0) : Bool := cur.peek ahead == some c

/-- A space, a tab, a line break or the end of the text is `ahead` places on. -/
def atGap (cur : Cursor) (ahead : Nat := 0) : Bool :=
  (cur.peek ahead).all fun c => isSpace c || isBreak c

/-- A line break or the end of the text is ahead, so nothing more comes on the line. -/
def atLineEnd (cur : Cursor) : Bool := cur.peek.all isBreak

/-- The three characters that start or end a document stand alone at the beginning of a line. -/
def atMarker (cur : Cursor) (c : Char) : Bool :=
  cur.column == 0 && cur.sees c && cur.sees c 1 && cur.sees c 2 && cur.atGap 3

/-- A marker that starts or ends a document stands at the cursor. -/
def atDocumentMarker (cur : Cursor) : Bool := cur.atMarker '-' || cur.atMarker '.'

end Cursor

end CrdToolset.Yaml
