import CrdToolset.Text.Letter
import CrdToolset.Text.CasedTable

/-!
# Texts in small letters

A whole text is put into small letters one character at a time, with one exception: the Greek
capital sigma becomes the final sigma at the end of a word. Whether it stands there depends on the
characters on both sides of it, of which some do not count.
-/

namespace CrdToolset.Text

/-- Past the characters that do not count, the next one is a cased letter, so that the word goes
on. -/
def casedAhead (cs : List Char) : Bool :=
  match cs.dropWhile (onRuns caseIgnorableRuns) with
  | c :: _ => onRuns casedRuns c
  | [] => false

/-- The capital sigma stands at the end of a word: a cased letter lies before it and none after it.
The characters before it are given nearest first. -/
def endsWord (before after : List Char) : Bool :=
  casedAhead before && !casedAhead after

/-- The small form of each character of a text; `before` holds what was read already, nearest first. -/
def lowerFrom (before : List Char) : List Char → List Char
  | [] => []
  | c :: rest =>
    (if c = 'Σ' then [if endsWord before rest then 'ς' else 'σ'] else small c) ++
      lowerFrom (c :: before) rest

/-- The characters of a text in small letters, with nothing before the text. -/
def lower (cs : List Char) : List Char := lowerFrom [] cs

/-- A text in small letters, letter by letter but for the final sigma. -/
def lowercase (text : String) : String := String.ofList (lower text.toList)

end CrdToolset.Text
