import CrdToolset.CommandLine.Switch

/-!
# Help

The text that says how to call a command: what the command does, a pattern of its command line, and
tables of what may stand there. The columns of a table are as wide as their longest entry, so the
text depends on nothing but the manual.
-/

namespace CrdToolset.CommandLine

/-- What help says about a command. The switches are the ones by which the command line is read. -/
structure Manual where
  /-- What the command does. -/
  about : String
  /-- The pattern of its command line. -/
  usage : String
  /-- The commands below it, each with what it does. -/
  commands : List (String × String) := []
  /-- The words it takes besides switches, each with what it is for. -/
  words : List (String × String) := []
  /-- Its switches, in the order in which they are shown. -/
  switches : List Switch := []

/-- The name by which help calls the value of a switch. A switch that takes no value has no such
name. -/
def Switch.valueName? (s : Switch) : Option String :=
  match s.takes with
  | .nothing | .question _ => none
  | .text name | .path name | .artifact name => some name

/-- How a switch is written in help: the letter, if it has one, the long name, and the name of its
value. -/
def Switch.label (s : Switch) : String :=
  (match s.letter with
    | some letter => "-" ++ letter.toString ++ ", "
    | none => "    ") ++ "--" ++ s.name ++
  (match s.valueName? with
    | some name => " <" ++ name ++ ">"
    | none => "")

/-- A table of labels with explanations under a heading. All explanations begin in one column, and
without rows there is no heading either. -/
def table (heading : String) (rows : List (String × String)) : List String :=
  let width := (rows.map fun row => row.1.length).foldl max 0
  let pad (label : String) : String := String.ofList (List.replicate (width - label.length) ' ')
  if rows.isEmpty then []
  else ["", heading ++ ":"] ++ rows.map fun (label, text) => "  " ++ label ++ pad label ++ "  " ++ text

/-- The text of a manual: what the command does, the pattern of its command line, and the tables
that have rows. -/
def Manual.text (m : Manual) : String :=
  let lines := [m.about, "", "Usage: " ++ m.usage] ++ table "Commands" m.commands ++
    table "Arguments" m.words ++ table "Options" (m.switches.map fun s => (s.label, s.help))
  String.join (lines.map (· ++ "\n"))

end CrdToolset.CommandLine
