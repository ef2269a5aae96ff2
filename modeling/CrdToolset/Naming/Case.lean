import CrdToolset.Naming.Word
import CrdToolset.Text.Lowercase

/-!
# Names in a given case

A name is put into one of four cases by joining its words again. In the two cases that mark words by
capitals, a word whose capital would follow another capital with no small letter after it could not be
found again, so it loses its capital and joins the word before it: `a`, `b` gives `Ab`.
-/

namespace CrdToolset.Naming

open Text (isCapital isSmall small capital lower)

/-- The ways in which a name may mark its words: by capitals or by a separator between them. -/
inductive Case where
  /-- `fooBarBaz` -/
  | camel
  /-- `FooBarBaz` -/
  | pascal
  /-- `foo_bar_baz` -/
  | snake
  /-- `foo-bar-baz` -/
  | kebab

/-- Every case that a name can be put into. -/
def Case.all : List Case := [.camel, .pascal, .snake, .kebab]

/-- A word with its first letter as a capital and the others small. -/
def capitalize : List Char → List Char
  | [] => []
  | c :: cs => capital c :: cs.flatMap small

/-- The piece could not be told from the one before it: a capital would follow a capital, and no small
letter comes after. -/
def melts (before piece : List Char) : Bool :=
  before.getLast?.any isCapital && piece.head?.any isCapital && !(piece[1]?).any isSmall

/-- Joins words to a name behind its last piece. Every word is capitalised, unless it could then not
be told from the piece before it. -/
def joinAfter (last : List Char) : List (List Char) → List Char
  | [] => last
  | word :: words =>
    if melts last (capitalize word) then joinAfter (last ++ lower word) words
    else last ++ joinAfter (capitalize word) words

/-- Joins words into one name that marks them by capitals; `first` treats the first of them. -/
def joinHumps (first : List Char → List Char) : List (List Char) → List Char
  | [] => []
  | word :: words => joinAfter (first word) words

/-- Joins words in small letters with a separator between them, which marks where they end. -/
def joinLower (sep : Char) (words : List (List Char)) : List Char :=
  [sep].intercalate (words.map lower)

/-- The words joined in the given case, with capitals or separators to mark where they begin. -/
def Case.join : Case → List (List Char) → List Char
  | .camel => joinHumps lower
  | .pascal => joinHumps capitalize
  | .snake => joinLower '_'
  | .kebab => joinLower '-'

/-- A name in the given case: it is cut into words, and the words are joined again. -/
def Case.convert (case : Case) (name : String) : String :=
  String.ofList (case.join (split name.toList))

/-- A name in the case of `fooBarBaz`, where the first word begins with a small letter. -/
def camel (name : String) : String := Case.camel.convert name

/-- A name in the case of `FooBarBaz`, which is the case of types and fields. -/
def pascal (name : String) : String := Case.pascal.convert name

/-- A name in the case of `foo_bar_baz`, with an underscore between its words. -/
def snake (name : String) : String := Case.snake.convert name

/-- A name in the case of `foo-bar-baz`, with a hyphen between its words. -/
def kebab (name : String) : String := Case.kebab.convert name

end CrdToolset.Naming
