import CrdToolset.Text.Pieces

/-!
# Blank characters

White space in the sense of the Unicode property, which is wider than the four or five characters of
ASCII: it takes in the no-break space, the line and paragraph separators and the typographic spaces.
-/

namespace CrdToolset.Text

/-- The character is white space, by the code points that have the property. -/
def isBlank (c : Char) : Bool :=
  let n := c.toNat
  (9 ≤ n && n ≤ 13) || n == 0x20 || n == 0x85 || n == 0xA0 || n == 0x1680 ||
    (0x2000 ≤ n && n ≤ 0x200A) || n == 0x2028 || n == 0x2029 || n == 0x202F || n == 0x205F ||
    n == 0x3000

/-- The words of a text, which are its longest parts without white space. -/
def words (text : String) : List String :=
  (stretches isBlank text.toList).map String.ofList

end CrdToolset.Text
