import CrdToolset.Text.PrintTable

/-!
# Texts shown in quotes

A text is shown between double quotes so that every character of it can be seen: quotes and
backslashes are escaped, the common control characters have their letters, and whatever does not
print, or would melt into the character before it, is given by its code point.
-/

namespace CrdToolset.Text

/-- One hexadecimal digit, with small letters after nine. -/
def hexDigit (n : Nat) : Char :=
  if n < 10 then Char.ofNat (48 + n) else Char.ofNat (87 + n)

/-- A number in hexadecimal, without leading zeros. Zero has one digit. -/
def hex (n : Nat) : List Char :=
  if n < 16 then [hexDigit n] else hex (n / 16) ++ [hexDigit (n % 16)]

/-- The character stands for itself when a text is shown, because it prints and does not join the
one before it. -/
def printsAlone (c : Char) : Bool :=
  if c.toNat < 0x80 then 0x20 ≤ c.toNat && c.toNat < 0x7F
  else !onRuns unprintableRuns c && !onRuns extenderRuns c

/-- How one character of a shown text is written: as it is, by a letter after a backslash, or by its
code point. -/
def showChar (c : Char) : List Char :=
  if c = '"' then ['\\', '"']
  else if c = '\\' then ['\\', '\\']
  else if c = '\n' then ['\\', 'n']
  else if c = '\r' then ['\\', 'r']
  else if c = '\t' then ['\\', 't']
  else if c.toNat = 0 then ['\\', '0']
  else if printsAlone c then [c]
  else ['\\', 'u', '\x7b'] ++ hex c.toNat ++ ['\x7d']

/-- The text between double quotes, every character of it visible. -/
def shown (text : String) : String :=
  String.ofList ('"' :: text.toList.flatMap showChar ++ ['"'])

/-- A path between double quotes. In paths, apostrophes are escaped as well. -/
def shownPath (path : String) : String :=
  let showPathChar (c : Char) : List Char := if c = '\'' then ['\\', '\''] else showChar c
  String.ofList ('"' :: path.toList.flatMap showPathChar ++ ['"'])

end CrdToolset.Text
