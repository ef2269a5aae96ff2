import CrdToolset.CommandLine.Command

/-!
# Notes

What is told beside the generated code: what would be generated, what a check found, and how many
resources were done. Notes go to another place than code, so that the code can be passed on as it
is.

Each kind of note has a mark at the beginning of its first line, and details are indented below it.
-/

namespace CrdToolset.CommandLine

/-- A note that something was done, with its mark. -/
def doneNote (text : String) : String := "  ◉ " ++ text ++ "\n"

/-- A note about a fault, or the name of the program, with the mark that both share. -/
def markedNote (text : String) : String := "  ◆ " ++ text ++ "\n"

/-- A note that only informs, with its mark. -/
def plainNote (text : String) : String := "  ◇ " ++ text ++ "\n"

/-- A note about a detail of the one before it, which is indented and has no mark of its own. -/
def detailNote (text : String) : String := "    " ++ text ++ "\n"

/-- The head of a run over a directory: the name and the version of the program, and an empty
line. -/
def headNote : String := markedNote (programName ++ " v" ++ programVersion) ++ "\n"

/-- How many lines a text has; a line break at its end begins no further line. -/
def lineCount (text : String) : Nat :=
  let lines := Text.pieces (· == '\n') text.toList
  if lines.getLast?.any List.isEmpty then lines.length - 1 else lines.length

/-- A text with spaces after it up to a width. A text that is as wide already stays as it is. -/
def padded (width : Nat) (text : String) : String :=
  text ++ String.ofList (List.replicate (width - text.length) ' ')

/-- What would be generated for a resource: its names, the selected operations, and each file with
the number of its lines. -/
def planNote (g : Generated) : String :=
  plainNote (g.resource.kind ++ " · " ++ g.resource.groupVersionKind ++ " · package " ++
    g.request.packageName) ++
  detailNote ("operations: " ++ Operation.listing g.request.operations) ++
  String.join (g.code.map fun (artifact, body) =>
    detailNote ("▸ " ++ padded 20 artifact.fileName ++ " " ++ toString (lineCount body) ++ " lines"))

/-- What a check found about a resource: its versions, how many structs its types take, and its
short names, if it has any. -/
def checkNote (c : Checked) : String :=
  let r := c.resource
  let list (texts : List String) : String := ", ".intercalate texts
  doneNote (r.kind ++ " (" ++ r.apiVersion ++ ", " ++ r.scope.name ++ ")") ++
  detailNote ("versions: " ++ list r.versions) ++
  detailNote ("served: " ++ list r.servedVersions) ++
  detailNote ("storage version: " ++ r.storageVersion) ++
  detailNote ("structs: " ++ toString c.structCount) ++
  (if r.shortNames.isEmpty then "" else detailNote ("short names: " ++ list r.shortNames))

/-- How many resources were done and how many failed, and the time it took in milliseconds. -/
def summaryNote (done failed milliseconds : Nat) : String :=
  let time := toString milliseconds ++ "ms"
  "\n" ++
  if failed = 0 then doneNote (toString done ++ " resources generated " ++ time)
  else markedNote (toString done ++ " generated, " ++ toString failed ++ " failed") ++ detailNote time

end CrdToolset.CommandLine
