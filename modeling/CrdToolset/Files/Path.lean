import CrdToolset.Text.Pieces

/-!
# Paths

Paths are texts with slashes between names. The order of two paths goes name by name, so a directory
stands before a file whose name continues the directory's name with a character below the slash.
-/

namespace CrdToolset.Path

/-- The parts of a path between slashes. Empty parts are kept, so that the path can be put together
again. -/
def segments (path : String) : List String :=
  (Text.pieces (· == '/') path.toList).map String.ofList

/-- The names of one path are those of another or stand before them, compared name by name from the
left. -/
def atMost : List String → List String → Bool
  | [], _ => true
  | _ :: _, [] => false
  | a :: as, b :: bs => if a = b then atMost as bs else a < b

/-- The path of something below a directory, given by the names that lead to it. -/
def join (dir : String) (names : List String) : String :=
  let rest := "/".intercalate names
  if names.isEmpty then dir
  else if dir.isEmpty || dir.endsWith "/" then dir ++ rest
  else dir ++ "/" ++ rest

/-- What stands after the last full stop of a file name; a name has no extension if it has no full stop
or only one at its beginning. -/
def extension? (name : String) : Option String :=
  let parts := Text.pieces (· == '.') name.toList
  match parts.reverse with
  | last :: before :: more =>
    if more.isEmpty && before.isEmpty then none else some (String.ofList last)
  | _ => none

/-- The last name of a path, which is the path itself if there is no slash in it. -/
def fileName (path : String) : String :=
  (segments path).getLast?.getD ""

end CrdToolset.Path
