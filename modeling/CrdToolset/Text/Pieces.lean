/-!
# Cutting a text at separators

Every separator ends a piece, so that neighbouring separators have an empty piece between them, and
a text without separators is one piece. The stretches are the pieces that are not empty.
-/

namespace CrdToolset.Text

/-- The parts between separators, in order; there is one more of them than there are separators. -/
def pieces (sep : Char → Bool) : List Char → List (List Char)
  | [] => [[]]
  | c :: cs => if sep c then [] :: pieces sep cs else (pieces sep cs).modifyHead (c :: ·)

/-- The longest parts of a text without a separator, in order. None of them is empty. -/
def stretches (sep : Char → Bool) (cs : List Char) : List (List Char) :=
  (pieces sep cs).filter fun piece => !piece.isEmpty

end CrdToolset.Text
