import CrdToolset.Text.Blank

/-!
# Go comments

The words of a text are filled into comment lines. A line takes the next word as long as it then has at
most as many bytes as the width allows; a word that is too long for any line has a line of its own.
-/

namespace CrdToolset.Go

/-- The width of generated comments in bytes, with the two slashes and the spaces counted. -/
def commentWidth : Nat := 80

/-- Divides words into those that go on the line that is being filled, which has `used` bytes, and the
lines after it. -/
def fill (width used : Nat) : List String → List String × List (List String)
  | [] => ([], [])
  | word :: words =>
    if used + 1 + word.utf8ByteSize ≤ width then
      let (line, lines) := fill width (used + 1 + word.utf8ByteSize) words
      (word :: line, lines)
    else
      let (line, lines) := fill width (3 + word.utf8ByteSize) words
      ([], (word :: line) :: lines)

/-- Divides words into lines, each of which is filled as long as the next word fits. -/
def breakLines (width : Nat) : List String → List (List String)
  | [] => []
  | word :: words =>
    let (line, lines) := fill width (3 + word.utf8ByteSize) words
    (word :: line) :: lines

/-- The comment line with the given words, each after a space. -/
def commentLine (words : List String) : String :=
  "//" ++ String.join (words.map fun word => " " ++ word)

/-- The words of a text in comment lines of at most the width, where words allow. -/
def comment (width : Nat) (text : String) : List String :=
  (breakLines width (Text.words text)).map commentLine

end CrdToolset.Go
