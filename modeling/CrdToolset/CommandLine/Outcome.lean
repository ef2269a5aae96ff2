import CrdToolset.CommandLine.Notes

/-!
# Outcomes

What comes of a command: generated code, notes, and a failure that ends the run. A run over a directory takes the
files one after the other, counts those that succeed and those that fail, and goes on after a file that fails.
-/

namespace CrdToolset.CommandLine

variable {m : Type → Type} [Monad m]

/-- What comes of a command: generated code, notes beside it, and the reason why the run failed, if
it did. -/
structure Outcome where
  /-- The generated code. -/
  output : String := ""
  /-- What is told beside it. -/
  notes : String := ""
  /-- Why the run failed, if it did. -/
  failure : Option String := none

/-- The code of a toolset in one text, each file under a line with the name of its package and its
own. -/
def sources (g : Generated) : String :=
  String.join (g.code.map fun (artifact, body) =>
    "// ==> " ++ g.request.packageName ++ "/" ++ artifact.fileName ++ "\n" ++ body)

/-- What comes of one definition: its code or, in a trial run, a note about what would be
generated. -/
def Outcome.ofGenerated (dryRun : Bool) : Except Fault Generated → Outcome
  | .ok g => if dryRun then { notes := planNote g } else { output := sources g }
  | .error fault => { failure := some fault.message }

/-- What a run over a directory has come to after some of the files. The run goes on from it with
the next file. -/
structure Progress where
  /-- The code that was generated. -/
  output : String := ""
  /-- What was told beside it. -/
  notes : String := ""
  /-- How many files succeeded. -/
  succeeded : Nat := 0
  /-- How many files failed. -/
  failed : Nat := 0

/-- The progress after one more file. What a file that succeeds comes to is put behind what there is; a file
that fails is only reported. -/
def Progress.add (dryRun : Bool) (p : Progress) (path : String) : Except Fault Generated → Progress
  | .ok g =>
    let o := Outcome.ofGenerated dryRun (.ok g)
    { p with output := p.output ++ o.output, notes := p.notes ++ o.notes, succeeded := p.succeeded + 1 }
  | .error fault =>
    { p with notes := p.notes ++ markedNote (path ++ ": " ++ fault.message), failed := p.failed + 1 }

/-- What comes of a run over a number of files that has come to its end. -/
def Progress.outcome (p : Progress) (count milliseconds : Nat) : Outcome where
  output := p.output
  notes := headNote ++ p.notes ++ summaryNote p.succeeded p.failed milliseconds
  failure :=
    if 0 < p.failed then some (toString p.failed ++ " of " ++ toString count ++ " resources failed") else none

/-- The settings of a run: those of the configuration file, except where the command line has its own. -/
def Settings.plan (s : Settings) (access : FileAccess m) : Work m Plan := do
  let config ← match s.configFile with
    | some path => Config.load access path
    | none => pure {}
  pure {
    config := {
      modulePath := s.modulePath.getD config.modulePath
      packageName := s.packageName <|> config.packageName
      crud := s.crud <|> config.crud
      includeComments := config.includeComments && !s.noComments
      docFile := s.docFile <|> config.docFile }
    artifacts := s.artifacts }

/-- Generates the toolset of the definition in a file and says what comes of it. -/
def runFile (plan : Plan) (access : FileAccess m) (dryRun : Bool) (path : String) : m Outcome := do
  pure (.ofGenerated dryRun (← (plan.generateFile access path).run))

/-- Generates the toolsets of the definitions in files, one after the other. A file that fails is
counted, and the run goes on with the next. -/
def runFiles (plan : Plan) (access : FileAccess m) (dryRun : Bool) : List String → Progress → m Progress
  | [], p => pure p
  | path :: rest, p => do
    runFiles plan access dryRun rest (p.add dryRun path (← (plan.generateFile access path).run))

/-- Generates the toolsets of the definitions below a directory. The clock gives the time since the start in
milliseconds. -/
def runDirectory (plan : Plan) (access : FileAccess m) (clock : m Nat) (dryRun : Bool) (dir : String) :
    m Outcome := do
  match (← (access.find dir).run) with
  | .error fault => pure { notes := headNote, failure := some fault.message }
  | .ok paths =>
    if paths.isEmpty then pure { notes := headNote ++ plainNote ("no CRD files found in " ++ dir) }
    else
      let p ← runFiles plan access dryRun paths {}
      pure (p.outcome paths.length (← clock))

/-- Carries out a command. A fault in the settings ends the run before any definition is read. -/
def Command.run (access : FileAccess m) (clock : m Nat) : Command → m Outcome
  | .generate input settings => do
    match (← (settings.plan access).run), input with
    | .error fault, _ => pure { failure := some fault.message }
    | .ok plan, .file path => runFile plan access settings.dryRun path
    | .ok plan, .directory dir => runDirectory plan access clock settings.dryRun dir
  | .check path => do
    match (← (checkFile access path).run) with
    | .ok checked => pure { notes := checkNote checked }
    | .error fault => pure { failure := some fault.message }

end CrdToolset.CommandLine
