/-!
# Entries of directories

What lies at and below a place in a file system, as a walk meets it: every entry with the names that
lead to it and with its kind. A walk does not follow symbolic links, so a link is an entry like any
other, whatever it leads to, and only a directory has entries below it.
-/

namespace CrdToolset

/-- The kind of an entry, as the file system records it for the entry itself and not for what a link
leads to. -/
inductive FileKind where
  /-- A regular file, the only kind of entry that is read as a definition. -/
  | file
  /-- A directory, which has entries below it. -/
  | directory
  /-- A symbolic link, whatever it leads to. -/
  | link
  /-- Anything else: a pipe, a socket or a device. -/
  | other
  deriving DecidableEq

/-- An entry that a walk meets, which can be of any kind, with the names that lead to it. -/
@[ext]
structure Entry where
  /-- The names that lead to the entry from the place where the walk starts; the place itself has
  none. -/
  names : List String
  /-- The kind of the entry. -/
  kind : FileKind
  deriving DecidableEq

/-- A place in a file system with everything below it, as far as a walk can tell: kinds and names, but
not what is in the files. -/
inductive EntryTree where
  /-- A regular file. -/
  | file
  /-- A directory with its entries by name. -/
  | directory (entries : List (String × EntryTree))
  /-- A symbolic link, which is not followed. -/
  | link
  /-- Anything else. -/
  | other

namespace EntryTree

/-- The kind of the entry at the top of a tree, which is what a walk is told of it. -/
def kind : EntryTree → FileKind
  | .file => .file
  | .directory _ => .directory
  | .link => .link
  | .other => .other

mutual

/-- Every entry at and below the top of a tree, the top itself first and each directory before what is
in it. -/
def entries : EntryTree → List Entry
  | .directory inside => ⟨[], .directory⟩ :: entriesOf inside
  | tree => [⟨[], tree.kind⟩]

/-- Every entry at and below the named entries of a directory, entry after entry, with the names
that lead to it from the directory. -/
def entriesOf : List (String × EntryTree) → List Entry
  | [] => []
  | (name, tree) :: rest =>
    tree.entries.map (fun entry => { entry with names := name :: entry.names }) ++ entriesOf rest

end

end EntryTree

end CrdToolset
