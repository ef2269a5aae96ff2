import CrdToolset.Text.LetterTable

/-!
# Capital and small letters

Letters of every script. A small form may take two characters, so `small` gives a list; a capital
form is used only where it is a single character.

In ASCII a letter is found by its code point, and beyond it in the tables.
-/

namespace CrdToolset.Text

/-- The character is a capital letter, of whatever script. -/
def isCapital (c : Char) : Bool :=
  if c.toNat < 0x80 then c.isUpper else onRuns capitalRuns c

/-- The character is a small letter, of whatever script. -/
def isSmall (c : Char) : Bool :=
  if c.toNat < 0x80 then c.isLower else onRuns smallRuns c

/-- The small form of one character. Only the capital I with a dot above takes two characters. -/
def small (c : Char) : List Char :=
  if c.toNat < 0x80 then [c.toLower]
  else if c.toNat = 0x130 then ['i', '\u0307']
  else [shiftBy toSmallShifts c]

/-- The capital form of one character where that is a single character, else the character. -/
def capital (c : Char) : Char :=
  if c.toNat < 0x80 then c.toUpper else shiftBy toCapitalShifts c

end CrdToolset.Text
