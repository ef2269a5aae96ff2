import CrdToolset.Yaml.Token

/-!
# Scalars in a YAML text

Reads one scalar at the cursor. Inside a scalar that goes over several lines the first line break becomes a
space if no other follows it, and goes away if others do; a separator that ends a line stays.
-/

namespace CrdToolset.Yaml

/-- What the line breaks between two words of a scalar stand for: a space if there is one, and
otherwise all but the first. -/
def foldBreaks : List Char → List Char
  | [] => []
  | '\n' :: [] => [' ']
  | '\n' :: more => more
  | breaks => breaks

/-- What was passed over between two words of a scalar: blanks on one line, or line breaks with
blanks around them. -/
structure Between where
  /-- Blanks, as long as no line break was met. -/
  blanks : List Char := []
  /-- The line breaks, in order. -/
  breaks : List Char := []
  /-- A line break was met. -/
  broken : Bool := false
  /-- The first line break was escaped and does not count. -/
  escaped : Bool := false

/-- What stands for the passage between two words in the text of the scalar. -/
def Between.joined (b : Between) : List Char :=
  if b.escaped then b.breaks else if b.broken then foldBreaks b.breaks else b.blanks

/-- Passes over blanks and line breaks. A tab may not stand where a line is indented by less than
`indent`. -/
def passBetween (indent : Nat) : Nat → Between → Cursor → Option (Between × Cursor)
  | 0, b, cur => some (b, cur)
  | fuel + 1, b, cur =>
    match cur.peek with
    | none => some (b, cur)
    | some c =>
      if isBreak c then
        passBetween indent fuel { b with blanks := [], breaks := b.breaks ++ [c], broken := true } cur.next
      else if isSpace c then
        if b.broken && cur.column < indent && c == '\t' then none
        else if b.broken then passBetween indent fuel b cur.next
        else passBetween indent fuel { b with blanks := b.blanks ++ [c] } cur.next
      else some (b, cur)

/-- Passes over blanks and line breaks from the cursor on. Lines that go on must be indented
enough. -/
def between (indent : Nat) (b : Between) (cur : Cursor) : Option (Between × Cursor) :=
  passBetween indent cur.left b cur

/-- A bracket, a brace or a comma, which has a meaning of its own inside brackets. -/
def isFlowIndicator (c : Char) : Bool :=
  c == ',' || c == '[' || c == ']' || c == '\x7b' || c == '\x7d'

/-- The plain word at the cursor. Between brackets a colon may not stand right before another
indicator. -/
def plainWord (flow : Bool) : List Char → Option (List Char)
  | [] => some []
  | c :: rest =>
    if isSpace c || isBreak c then some []
    else if flow && c == ':' && rest.head?.any (fun d => isFlowIndicator d || d == '?') then none
    else if c == ':' && rest.head?.all (fun d => isSpace d || isBreak d) then some []
    else if flow && isFlowIndicator c then some []
    else (plainWord flow rest).map (c :: ·)

/-- Reads words of a plain scalar, where `b` was passed over before them. The result says whether a line
break was passed over after the last word. -/
def plainWords (flow : Bool) (indent : Nat) :
    Nat → Between → Cursor → Option (List Char × Bool × Cursor)
  | 0, b, cur => some ([], b.broken, cur)
  | fuel + 1, b, cur =>
    if cur.atDocumentMarker || cur.sees '#' then some ([], b.broken, cur)
    else
      match plainWord flow cur.rest with
      | none => none
      | some [] => some ([], b.broken, cur)
      | some word =>
        match between indent {} (cur.skip word.length) with
        | none => none
        | some (after, cur) =>
          if !flow && cur.column < indent then some (b.joined ++ word, after.broken, cur)
          else (plainWords flow indent fuel after cur).map fun (text, broken, cur) =>
            (b.joined ++ word ++ text, broken, cur)

/-- Reads a plain scalar; the result says whether a line break was passed at its end. -/
def plainScalar (flow : Bool) (indent : Nat) (cur : Cursor) : Option (List Char × Bool × Cursor) :=
  plainWords flow indent (cur.left + 1) {} cur

/-- The number that hexadecimal digits stand for, if all characters are such digits. -/
def hexValue? (cs : List Char) : Option Nat :=
  cs.foldlM (fun n c =>
    if '0' ≤ c ∧ c ≤ '9' then some (n * 16 + (c.toNat - 48))
    else if 'a' ≤ c ∧ c ≤ 'f' then some (n * 16 + (c.toNat - 87))
    else if 'A' ≤ c ∧ c ≤ 'F' then some (n * 16 + (c.toNat - 55))
    else none) 0

/-- The character that a letter after a backslash stands for, if the letter stands for one. -/
def namedEscape? (c : Char) : Option Char :=
  let table : List (Char × Char) := [
    ('0', '\x00'), ('a', '\x07'), ('b', '\x08'), ('t', '\t'), ('\t', '\t'), ('n', '\n'), ('v', '\x0b'),
    ('f', '\x0c'), ('r', '\r'), ('e', '\x1b'), (' ', ' '), ('"', '"'), ('/', '/'), ('\\', '\\'),
    ('N', '\u0085'), ('_', '\u00a0'), ('L', '\u2028'), ('P', '\u2029')]
  table.lookup c

/-- How many hexadecimal digits follow a letter after a backslash, if the letter asks for a code
point. -/
def escapeDigits? (c : Char) : Option Nat :=
  if c = 'x' then some 2 else if c = 'u' then some 4 else if c = 'U' then some 8 else none

/-- Reads the rest of an escape after its backslash: the character, and how many characters it took. -/
def escape? (cs : List Char) : Option (Char × Nat) :=
  match cs with
  | [] => none
  | c :: rest =>
    match namedEscape? c, escapeDigits? c with
    | some d, _ => some (d, 1)
    | none, some n =>
      let digits := rest.take n
      if digits.length < n then none
      else match hexValue? digits with
        | some code => if code.isValidChar then some (Char.ofNat code, n + 1) else none
        | none => none
    | none, none => none

/-- Reads the word of a quoted scalar at the cursor. The result says whether the line goes on after an
escaped break. -/
def quotedWord (double : Bool) : Nat → Cursor → Option (List Char × Bool × Cursor)
  | 0, cur => some ([], false, cur)
  | fuel + 1, cur =>
    let take (c : Char) (cur : Cursor) : Option (List Char × Bool × Cursor) :=
      (quotedWord double fuel cur).map fun (text, continued, cur) => (c :: text, continued, cur)
    match cur.peek with
    | none => some ([], false, cur)
    | some c =>
      if isSpace c || isBreak c then some ([], false, cur)
      else if !double && c == '\'' then
        if cur.sees '\'' 1 then take '\'' (cur.skip 2) else some ([], false, cur)
      else if double && c == '"' then some ([], false, cur)
      else if double && c == '\\' then
        if (cur.peek 1).any isBreak then some ([], true, cur.skip 2)
        else match escape? cur.next.rest with
          | some (d, n) => take d (cur.skip (n + 1))
          | none => none
      else take c cur.next

/-- Reads words of a quoted scalar up to the closing quote, and joins them with what stands
between. -/
def quotedWords (double : Bool) : Nat → Cursor → Option (List Char × Cursor)
  | 0, _ => none
  | fuel + 1, cur =>
    if cur.atDocumentMarker || cur.peek.isNone then none
    else match quotedWord double (cur.left + 1) cur with
      | none => none
      | some (word, continued, cur) =>
        if cur.sees (if double then '"' else '\'') then some (word, cur.next)
        else match between 0 { broken := continued, escaped := continued } cur with
          | none => none
          | some (b, cur) =>
            (quotedWords double fuel cur).map fun (text, cur) => (word ++ b.joined ++ text, cur)

/-- Reads a quoted scalar after its opening quote, and goes past the closing one. -/
def quotedScalar (double : Bool) (cur : Cursor) : Option (List Char × Cursor) :=
  quotedWords double (cur.left + 1) cur

/-- What becomes of the line breaks at the end of a block, which the head of the block can say. -/
inductive Chomping where
  /-- All go away. -/
  | strip
  /-- One stays. -/
  | clip
  /-- All stay. -/
  | keep
  deriving DecidableEq

/-- The head of a block scalar: what becomes of its last breaks, and an indentation if one is given. -/
structure BlockHead where
  /-- What becomes of the last breaks. -/
  chomping : Chomping := .clip
  /-- By how much the lines are indented; zero if it is not said. -/
  indent : Nat := 0

/-- Reads the signs after the indicator of a block scalar: a chomping sign and a digit, in either
order. -/
def blockHead? (cur : Cursor) : Option (BlockHead × Cursor) :=
  let chomp (cur : Cursor) : Option (Chomping × Cursor) :=
    if cur.sees '+' then some (.keep, cur.next)
    else if cur.sees '-' then some (.strip, cur.next)
    else none
  let digit (cur : Cursor) : Option (Option (Nat × Cursor)) :=
    match cur.peek with
    | some c =>
      if c == '0' then none
      else if c.isDigit then some (some (c.toNat - 48, cur.next))
      else some none
    | none => some none
  match chomp cur with
  | some (chomping, cur) =>
    (digit cur).map fun
      | some (n, cur) => (⟨chomping, n⟩, cur)
      | none => (⟨chomping, 0⟩, cur)
  | none =>
    (digit cur).map fun
      | some (n, cur) =>
        match chomp cur with
        | some (chomping, cur) => (⟨chomping, n⟩, cur)
        | none => (⟨.clip, n⟩, cur)
      | none => ({}, cur)

/-- Passes over the indentation of lines and over empty lines. The result holds the breaks passed and the
greatest column met. A tab may not stand in the indentation. -/
def passIndents (indent : Nat) :
    Nat → List Char → Nat → Cursor → Option (List Char × Nat × Cursor)
  | 0, breaks, widest, cur => some (breaks, widest, cur)
  | fuel + 1, breaks, widest, cur =>
    let inIndent (column : Nat) : Bool := indent == 0 || column < indent
    match cur.peek with
    | some ' ' =>
      if inIndent cur.column then passIndents indent fuel breaks widest cur.next
      else some (breaks, max widest cur.column, cur)
    | some c =>
      if c == '\t' && inIndent cur.column then none
      else if isBreak c then
        passIndents indent fuel (breaks ++ [c]) (max widest cur.column) cur.next
      else some (breaks, max widest cur.column, cur)
    | none => some (breaks, max widest cur.column, cur)

/-- The text of a block so far, with what is held back at its end. -/
structure Block where
  /-- The lines before with what joins them, the last one first. -/
  parts : List (List Char) := []
  /-- The break at the end of the last line. -/
  lastBreak : List Char := []
  /-- The breaks of the empty lines since. -/
  emptyBreaks : List Char := []
  /-- The last line began with a blank. -/
  afterBlank : Bool := false

/-- Reads the lines of a block scalar that are indented by `indent`, up to the first that is not. -/
def blockLines (literal : Bool) (indent : Nat) : Nat → Block → Cursor → Option (Block × Cursor)
  | 0, b, cur => some (b, cur)
  | fuel + 1, b, cur =>
    if cur.column ≠ indent ∨ cur.peek.isNone then some (b, cur)
    else
      let beginsBlank := cur.peek.any isSpace
      let kept :=
        if !literal && b.lastBreak == ['\n'] && !b.afterBlank && !beginsBlank then
          if b.emptyBreaks.isEmpty then [' '] else []
        else b.lastBreak
      let line := cur.run fun c => !isBreak c
      let cur := cur.skip line.length
      let lastBreak := cur.peek.toList
      let parts := (kept ++ b.emptyBreaks ++ line) :: b.parts
      match passIndents indent (cur.left + 1) [] 0 cur.next with
      | none => none
      | some (breaks, _, cur) => blockLines literal indent fuel ⟨parts, lastBreak, breaks, beginsBlank⟩ cur

/-- Reads a block scalar after its indicator, where the block around it is indented by `parent`. -/
def blockScalar (literal : Bool) (parent : Int) (cur : Cursor) : Option (List Char × Cursor) := do
  let (head, cur) ← blockHead? cur
  let cur := cur.skipRun isSpace
  let cur := if cur.sees '#' then cur.skipRun fun c => !isBreak c else cur
  if !cur.atLineEnd then none
  else
    let cur := cur.next
    let given := if head.indent = 0 then 0 else (max parent 0).toNat + head.indent
    let (breaks, widest, cur) ← passIndents given (cur.left + 1) [] 0 cur
    let indent := if given = 0 then max (max widest (parent + 1).toNat) 1 else given
    let (b, cur) ← blockLines literal indent (cur.left + 1) { emptyBreaks := breaks } cur
    let tail :=
      match head.chomping with
      | .strip => []
      | .clip => b.lastBreak
      | .keep => b.lastBreak ++ b.emptyBreaks
    some (b.parts.reverse.flatten ++ tail, cur)

end CrdToolset.Yaml
