import CrdToolset.Text.Pieces
import CrdToolset.Text.Shown

/-!
# Go string literals

Two ways to put a text between double quotes. A quoted text keeps every character and decodes to itself.
A flattened text is meant for readers: line breaks and tabs become spaces, runs of spaces become one, and
spaces at the ends go away.
-/

namespace CrdToolset.Go

open Text (hexDigit stretches)

/-- How one character stands in a quoted text. What would end the literal or break its line is
escaped. -/
def escape (c : Char) : List Char :=
  if c = '\\' then ['\\', '\\']
  else if c = '"' then ['\\', '"']
  else if c = '\n' then ['\\', 'n']
  else if c = '\r' then ['\\', 'r']
  else if c = '\t' then ['\\', 't']
  else if c.toNat < 0x20 ∨ c.toNat = 0x7F then
    ['\\', 'x', hexDigit (c.toNat / 16), hexDigit (c.toNat % 16)]
  else [c]

/-- A text as a literal that decodes to it, with the quotes around it. -/
def quote (text : String) : String :=
  String.ofList ('"' :: text.toList.flatMap escape ++ ['"'])

/-- How one character stands in a flattened text, before spaces are joined. Carriage returns go
away. -/
def flattenChar (c : Char) : List Char :=
  if c = '\\' then ['\\', '\\']
  else if c = '"' then ['\\', '"']
  else if c = '\n' ∨ c = '\t' then [' ']
  else if c = '\r' then []
  else [c]

/-- The inside of a literal with the text on one line, and with single spaces between its words. -/
def flatten (text : String) : String :=
  String.ofList ([' '].intercalate (stretches (· == ' ') (text.toList.flatMap flattenChar)))

end CrdToolset.Go
