import CrdToolset.Files.Entry

/-!
# Access to files

What a run may ask of the place where its input lies: the text of a file, and the entries below a
directory. Nothing is ever written. The answers come in a monad, so that the same run can be made against
a file system or against a tree held in memory.
-/

namespace CrdToolset

/-- Why a file or a directory could not be read, as far as a run can tell causes apart. -/
inductive FileError where
  /-- Nothing has this path. -/
  | notFound
  /-- A file stands where the path needs a directory. -/
  | notDirectory
  /-- The path leads to a directory, where a file is needed. -/
  | isDirectory
  /-- A name in the path is longer than names can be. -/
  | nameTooLong
  /-- The path holds the character that ends paths. -/
  | nulInPath
  /-- The file may not be read. -/
  | denied
  /-- The bytes of the file are not text. -/
  | notText
  deriving DecidableEq

/-- The wording of a file error, which is that of the system for the causes that the system
knows. -/
def FileError.message : FileError → String
  | .notFound => "No such file or directory (os error 2)"
  | .notDirectory => "Not a directory (os error 20)"
  | .isDirectory => "Is a directory (os error 21)"
  | .nameTooLong => "File name too long (os error 36)"
  | .nulInPath => "file name contained an unexpected NUL byte"
  | .denied => "Permission denied (os error 13)"
  | .notText => "stream did not contain valid UTF-8"

/-- Why a walk through a directory cannot go on: the names that lead to where it stopped, and the cause.
-/
structure WalkError where
  /-- The names that lead from the start of the walk to the entry that cannot be looked at. -/
  names : List String
  /-- Why it cannot be looked at. -/
  cause : FileError

/-- Access to files in a monad: what a run may ask, and what it is told. Nothing else is known of
the file system. -/
structure FileAccess (m : Type → Type) where
  /-- The text of the file with a path. -/
  read : String → m (Except FileError String)
  /-- What a walk from a path meets, entry by entry: the path itself and everything below it, each with
  its kind, in any order. Links are not followed. Where an entry cannot be looked at, the walk meets an
  error in its place. -/
  below : String → m (List (Except WalkError Entry))

end CrdToolset
