import CrdToolset.Fault

/-!
# Operations on a resource

The five things a tool can do with a resource, and the selection of some of them by a short text
over four letters, where the letter for reading stands for both ways of reading.

The letters are taken from left to right. The first that is unknown, or that was met before, makes
the selection invalid.
-/

namespace CrdToolset

/-- Something a tool can do with a resource. Every tool of a toolset is for one operation. -/
inductive Operation where
  /-- Makes a new resource. -/
  | create
  /-- Reads one resource. -/
  | get
  /-- Reads all resources. -/
  | list
  /-- Changes a resource. -/
  | update
  /-- Removes a resource. -/
  | delete
  deriving DecidableEq

namespace Operation

/-- Every operation, in canonical order, which is the order of tools and methods without a
selection. -/
def all : List Operation := [.create, .get, .list, .update, .delete]

/-- The name of an operation, from which the names of tools and functions are made. -/
def name : Operation → String
  | .create => "create"
  | .get => "get"
  | .list => "list"
  | .update => "update"
  | .delete => "delete"

/-- The operations that one letter of a selection stands for. Only four letters stand for any. -/
def ofLetter? (letter : Char) : Option (List Operation) :=
  if letter = 'c' then some [.create]
  else if letter = 'r' then some [.get, .list]
  else if letter = 'u' then some [.update]
  else if letter = 'd' then some [.delete]
  else none

/-- Puts operations behind those that are selected already. One that is selected already is passed over. -/
def addNew : List Operation → List Operation → List Operation
  | selected, [] => selected
  | selected, operation :: rest =>
    addNew (if selected.contains operation then selected else selected ++ [operation]) rest

/-- Reads the letters of a selection one after the other, where `seen` holds the letters that came before and
`selected` what they stand for. -/
def expandAfter (seen : List Char) (selected : List Operation) : List Char → Except Fault (List Operation)
  | [] => .ok selected
  | letter :: letters =>
    match ofLetter? letter with
    | none => .error (.unknownLetter letter)
    | some operations =>
      if seen.contains letter then .error (.repeatedLetter letter)
      else expandAfter (letter :: seen) (addNew selected operations) letters

/-- The operations that a selection stands for, in the order of its letters. The empty selection is
refused. -/
def expand (letters : String) : Except Fault (List Operation) :=
  if letters.isEmpty then .error .noOperations else expandAfter [] [] letters.toList

/-- The selected operations of a setting that may be missing. Without a selection they are all
operations. -/
def select : Option String → Except Fault (List Operation)
  | none => .ok all
  | some letters => expand letters

/-- Operations as one text, which is their names with commas between them. -/
def listing (operations : List Operation) : String :=
  ",".intercalate (operations.map name)

end Operation

end CrdToolset
