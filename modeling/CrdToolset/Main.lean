import CrdToolset.CommandLine.Outcome

/-!
# The program

Carries out a command line on the files of the system. What lies below a directory is taken from standard
input, one entry to a line: a letter for its kind, a blank, and its path as seen from that directory, which is
empty for the directory itself. So whoever calls the program says what is there, and the program decides which of
the entries it reads.
-/

namespace CrdToolset

/-- The error with a number, which some parts of the system give with the opposite sign. -/
def FileError.ofNumber (number : UInt32) : FileError :=
  match (min number (-number)).toNat with
  | 13 => .denied
  | 20 => .notDirectory
  | 21 => .isDirectory
  | 22 => .nulInPath
  | 36 => .nameTooLong
  | _ => .notFound

/-- The cause behind an error of the system, by the number that the system gives it. Errors without
a number are taken for a missing file. -/
def FileError.ofSystem : IO.Error → FileError
  | .permissionDenied _ number _ => .ofNumber number
  | .inappropriateType _ number _ => .ofNumber number
  | .invalidArgument _ number _ => .ofNumber number
  | _ => .notFound

/-- The text of a file of the system, whose bytes must be those of a text. -/
def readFile (path : String) : IO (Except FileError String) := do
  match (← (IO.FS.readBinFile path).toBaseIO) with
  | .error e => pure (.error (.ofSystem e))
  | .ok bytes => pure ((String.fromUTF8? bytes).elim (.error .notText) .ok)

/-- The lines of a stream, up to its end. -/
partial def readLines (stream : IO.FS.Stream) (lines : Array String) : IO (Array String) := do
  let line ← stream.getLine
  if line.isEmpty then pure lines else readLines stream (lines.push (line.trimAsciiEnd.toString))

/-- The kind that a letter stands for. -/
def FileKind.ofLetter : Char → FileKind
  | 'f' => .file
  | 'd' => .directory
  | 'l' => .link
  | _ => .other

/-- The entry that a line describes: a letter for the kind, a blank, and the path. -/
def Entry.ofLine (line : String) : Entry :=
  let path := String.ofList (line.toList.drop 2)
  { names := (Path.segments path).filter fun name => name ≠ "" ∧ name ≠ "."
    kind := FileKind.ofLetter (line.toList.headD ' ') }

/-- What a walk from a path meets: the entries on standard input, if there is anything at the path. -/
def listEntries (path : String) : IO (List (Except WalkError Entry)) := do
  match (← readFile path) with
  | .ok _ | .error .notText | .error .isDirectory | .error .denied =>
    let lines ← readLines (← IO.getStdin) #[]
    pure (lines.toList.map fun line => .ok (.ofLine line))
  | .error cause => pure [.error ⟨[], cause⟩]

/-- Access to the files of the system. Their texts are read from it, and what lies below a directory
is read from standard input. -/
def systemFiles : FileAccess IO where
  read := readFile
  below := listEntries

/-- Carries out what a command line asks for, and gives back the exit code: zero for success, one
for a failed run, two for a command line that is wrong. -/
def carryOut (invocation : CommandLine.Invocation) : IO UInt32 := do
  let start ← IO.monoMsNow
  match invocation with
  | .misuse =>
    IO.eprintln ("error: the arguments are not understood\n\nFor more information, try '--help'.")
    pure 2
  | .tell text =>
    IO.print text
    pure 0
  | .run command =>
    let outcome ← command.run systemFiles (do return (← IO.monoMsNow) - start)
    IO.print outcome.output
    IO.eprint outcome.notes
    match outcome.failure with
    | some message =>
      IO.eprintln ("Error: " ++ message)
      pure 1
    | none => pure 0

end CrdToolset

/-- Carries out the command line that the program is called with. -/
def main (words : List String) : IO UInt32 :=
  CrdToolset.carryOut (CrdToolset.CommandLine.Invocation.ofWords words)
