import CrdToolset.CommandLine.Help
import CrdToolset.Generation

/-!
# Commands

What the program can be told to do, and how a command line says it. A command line names one of the
commands and gives switches to it, or asks a question that is answered with a text.

The words are read by the switches that the command knows. What is shown as help is made from the
same switches, so that both always agree.
-/

namespace CrdToolset.CommandLine

/-- Where definitions are taken from: a single file, or every file below a directory. -/
inductive Input where
  /-- One file. -/
  | file (path : String)
  /-- All files below a directory. -/
  | directory (path : String)

/-- Settings on the command line, which go before those of the configuration file. -/
structure Settings where
  /-- The configuration file. -/
  configFile : Option String := none
  /-- The module that generated packages belong to. -/
  modulePath : Option String := none
  /-- The name of the package. -/
  packageName : Option String := none
  /-- The letters of the selected operations. -/
  crud : Option String := none
  /-- The file that holds the documentation. -/
  docFile : Option String := none
  /-- Types and fields get no comments. -/
  noComments : Bool := false
  /-- The artifacts that are wanted; none listed means all. -/
  artifacts : List Artifact := []
  /-- Only say what would be generated. -/
  dryRun : Bool := false

/-- What the program can be told to do: generate toolsets, or check a definition without
generating. -/
inductive Command where
  /-- Generate toolsets. -/
  | generate (input : Input) (settings : Settings)
  /-- Check a definition. -/
  | check (path : String)

/-- What a command line asks for: a command to carry out, or a text to show. A command line that is
wrong asks for nothing. -/
inductive Invocation where
  /-- That a command be carried out. -/
  | run (command : Command)
  /-- That a text be shown. -/
  | tell (text : String)
  /-- Nothing that is understood. -/
  | misuse

/-- The name of the program, as it stands in help and in notes. -/
def programName : String := "mcp-toolgen"

/-- The version of the program, which it tells when it is asked for it. -/
def programVersion : String := "0.1.0"

/-- The switch that asks for more messages. It may be given to every command; the messages are about the work
itself, so they change nothing here. -/
def verbose : Switch := { name := "verbose", letter := 'v', help := "Log debug output to stderr" }

/-- The switch that asks for help. Every command has it, with the same name and letter. -/
def helpSwitch : Switch :=
  { name := "help", letter := 'h', takes := .question .help, help := "Print help" }

/-- What help says about generating, with all the switches that generating takes. -/
def generateManual : Manual where
  about := "Generate toolset source for one CRD or a directory of CRDs"
  usage := programName ++ " generate [OPTIONS]"
  switches := [
    { name := "crd", takes := .path "CRD", help := "CRD file" },
    verbose,
    { name := "crd-dir", takes := .path "CRD_DIR", help := "Directory searched recursively for CRD files" },
    { name := "crud", takes := .text "CRUD"
      help := "Operation tokens: c (create), r (get + list), u (update), d (delete)" },
    { name := "package", takes := .text "PACKAGE", help := "Go package name (defaults to the CRD plural)" },
    { name := "module-path", takes := .text "MODULE_PATH", help := "Go module path of the generated package" },
    { name := "config", takes := .path "CONFIG", help := "YAML config file; flags override its values" },
    { name := "doc-file", takes := .path "DOC_FILE", help := "File embedded in the doc artifact" },
    { name := "no-comments", help := "Skip doc comments in generated code" },
    { name := "artifact", takes := .artifact "ARTIFACTS"
      help := "Only emit these artifacts (" ++ ", ".intercalate (Artifact.all.map Artifact.id) ++ ")" },
    { name := "dry-run", help := "Report what would be generated without printing source" },
    helpSwitch]

/-- What help says about checking, with the few switches that checking takes. -/
def checkManual : Manual where
  about := "Parse and analyse a CRD without generating code"
  usage := programName ++ " check [OPTIONS] --crd <CRD>"
  switches := [{ name := "crd", takes := .path "CRD", help := "CRD file" }, verbose, helpSwitch]

/-- What help says about asking for help, which is a command like the others. -/
def helpManual : Manual where
  about := "Print this message or the help of the given subcommand(s)"
  usage := programName ++ " help [COMMAND]..."
  words := [("[COMMAND]...", "Print help for the subcommand(s)")]

/-- What help says about the program as a whole: its commands, and the switches that may stand
before a command. -/
def programManual : Manual where
  about := "Generate Go MCP toolsets from Kubernetes CRDs"
  usage := programName ++ " [OPTIONS] <COMMAND>"
  commands := [
    ("generate", generateManual.about), ("check", checkManual.about), ("help", helpManual.about)]
  switches := [
    verbose, helpSwitch,
    { name := "version", letter := 'V', takes := .question .version, help := "Print version" }]

/-- What is shown when reading has stopped: the help of the command, the version of the program, or
nothing but that the command line is wrong. -/
def Manual.stopped (manual : Manual) : Stop → Invocation
  | .misuse => .misuse
  | .asked .help => .tell manual.text
  | .asked .version => .tell (programName ++ " " ++ programVersion ++ "\n")

/-- The invocation that the words after a command give, all of which must be switches. -/
def Manual.invoke (manual : Manual) (command? : Given → Option Command) (words : List String) : Invocation :=
  match readSwitches manual.switches words with
  | .error stop => manual.stopped stop
  | .ok (given, []) => ((command? given).map .run).getD .misuse
  | .ok (_, _ :: _) => .misuse

/-- The command to generate, with the given switches. There must be either a file or a directory,
and not both. -/
def generateWith? (given : Given) : Option Command :=
  let settings : Settings := {
    configFile := given.lookup "config"
    modulePath := given.lookup "module-path"
    packageName := given.lookup "package"
    crud := given.lookup "crud"
    docFile := given.lookup "doc-file"
    noComments := (given.lookup "no-comments").isSome
    artifacts := given.filterMap fun (name, value) => if name = "artifact" then Artifact.ofId? value else none
    dryRun := (given.lookup "dry-run").isSome }
  match given.lookup "crd", given.lookup "crd-dir" with
  | some path, none => some (.generate (.file path) settings)
  | none, some path => some (.generate (.directory path) settings)
  | _, _ => none

/-- The command to check, with the given switches. There must be a file to check. -/
def checkWith? (given : Given) : Option Command := (given.lookup "crd").map .check

/-- The help about the command that the words name. Without words, it is the help about the
program. -/
def helpAbout : List String → Invocation
  | [] => .tell programManual.text
  | ["generate"] => .tell generateManual.text
  | ["check"] => .tell checkManual.text
  | ["help"] => .tell helpManual.text
  | _ => .misuse

/-- What the words of a command line ask for. Switches before the command belong to the program, and
those after it to the command. -/
def Invocation.ofWords (words : List String) : Invocation :=
  match readSwitches programManual.switches words with
  | .error stop => programManual.stopped stop
  | .ok (_, "generate" :: rest) => generateManual.invoke generateWith? rest
  | .ok (_, "check" :: rest) => checkManual.invoke checkWith? rest
  | .ok (_, "help" :: rest) => helpAbout rest
  | .ok _ => .misuse

end CrdToolset.CommandLine
