import CrdToolset.Text.Blank
import CrdToolset.Text.Letter

/-!
# The words of a name

A name is cut into words at separators and at changes of capitalisation. A capital begins a word when
it follows anything but a capital (`fooBar`, `v1Alpha`), and the last capital of a run of capitals does
so when a small letter comes after it, so that `HTTPServer` is `HTTP` and `Server`.
-/

namespace CrdToolset.Naming

open Text (isCapital isSmall isBlank stretches)

/-- A hyphen, an underscore, a full stop or white space separates words and belongs to none of
them. -/
def isSeparator (c : Char) : Bool :=
  c == '-' || c == '_' || c == '.' || isBlank c

/-- A word ends between `before` and `c`, where `next` is the character after `c`, if any. -/
def breaksBetween (before c : Char) (next : Option Char) : Bool :=
  isCapital c && (!isCapital before || next.any isSmall)

/-- Cuts a part without separators at its changes of capitalisation, and nowhere else. -/
def humps : List Char → List (List Char)
  | [] => []
  | [c] => [[c]]
  | c :: d :: rest =>
    if breaksBetween c d rest.head? then [c] :: humps (d :: rest)
    else (humps (d :: rest)).modifyHead (c :: ·)

/-- The words of a name, in order: its parts between separators, each cut at its changes of
capitalisation. -/
def split (name : List Char) : List (List Char) :=
  (stretches isSeparator name).flatMap humps

/-- The words of a name as texts, in the order in which they stand in the name. -/
def splitWords (name : String) : List String :=
  (split name.toList).map String.ofList

end CrdToolset.Naming
