import CrdToolset.Files.Access
import CrdToolset.Files.Path

/-!
# File trees in memory

A directory with its files as a value, and access to them by the rules of a file system: every step of
a path but the last must lead to a directory, a full stop stays where it is and two go back up.
-/

namespace CrdToolset

/-- A regular file with its bytes, or a directory with its named entries. There are no links in such
a tree. -/
inductive FileTree where
  /-- A regular file. -/
  | file (bytes : ByteArray)
  /-- A directory. -/
  | directory (entries : List (String × FileTree))

namespace FileTree

/-- The greatest number of bytes that a name in a path may have. -/
def maxName : Nat := 255

/-- The greatest number of bytes that a whole path may have. -/
def maxPath : Nat := 4095

/-- Takes the steps of a path, where `above` holds the directories passed through, the nearest first. Nothing
is known of what lies above the tree but that it is a directory. -/
def follow (above : List FileTree) (here : FileTree) : List String → Except FileError FileTree
  | [] => .ok here
  | step :: steps =>
    match here with
    | .file _ => .error .notDirectory
    | .directory entries =>
      if step = "" ∨ step = "." then follow above here steps
      else if step = ".." then follow above.tail (above.head?.getD (.directory [])) steps
      else if maxName < step.utf8ByteSize then .error .nameTooLong
      else
        match entries.lookup step with
        | none => .error .notFound
        | some next => follow (here :: above) next steps

/-- What a path leads to. The empty path leads nowhere, and one that starts with a slash does not start in the
tree. -/
def resolve (tree : FileTree) (path : String) : Except FileError FileTree :=
  if path.contains '\x00' then .error .nulInPath
  else if path = "" then .error .notFound
  else if maxPath < path.utf8ByteSize then .error .nameTooLong
  else follow [] (if path.startsWith "/" then .directory [] else tree) (Path.segments path)

/-- The text of the file with a path, which must lead to a file whose bytes are those of a text. -/
def read (tree : FileTree) (path : String) : Except FileError String :=
  match tree.resolve path with
  | .error e => .error e
  | .ok (.directory _) => .error .isDirectory
  | .ok (.file bytes) =>
    match String.fromUTF8? bytes with
    | some text => .ok text
    | none => .error .notText

mutual

/-- What a walk can tell of a tree: everything but the bytes of its files. -/
def outline : FileTree → EntryTree
  | .file _ => .file
  | .directory entries => .directory (outlines entries)

/-- What a walk can tell of the entries of a directory, which is everything but the bytes of the
files. -/
def outlines : List (String × FileTree) → List (String × EntryTree)
  | [] => []
  | (name, tree) :: rest => (name, tree.outline) :: outlines rest

end

/-- Access to the files of a tree, where every answer is there at once. A walk meets the entries in
the order in which the tree has them. -/
def access (tree : FileTree) : FileAccess Id where
  read path := tree.read path
  below path :=
    match tree.resolve path with
    | .ok place => place.outline.entries.map .ok
    | .error cause => [.error ⟨[], cause⟩]

mutual

/-- Puts a tree at the place that the names lead to. Directories on the way are made, and what stood at
the place before gives way, but a directory takes the place of nothing. -/
def insert (new : FileTree) : List String → FileTree → FileTree
  | [], .directory entries =>
    match new with
    | .directory [] => .directory entries
    | other => other
  | [], .file _ => new
  | name :: names, .directory entries => .directory (insertEntry new name names entries)
  | name :: names, .file _ => .directory (insertEntry new name names [])

/-- Puts a tree below the entry with the given name, which is made if there is none. -/
def insertEntry (new : FileTree) (name : String) (names : List String) :
    List (String × FileTree) → List (String × FileTree)
  | [] => [(name, insert new names (.directory []))]
  | (other, tree) :: rest =>
    if other = name then (other, insert new names tree) :: rest
    else (other, tree) :: insertEntry new name names rest

end

end FileTree

end CrdToolset
