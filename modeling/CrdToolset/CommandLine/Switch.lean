import CrdToolset.Toolset.Artifact

/-!
# Switches

A command line consists of switches, some of which take a value, and of other words. A switch is given by its
long name after two hyphens, or by a letter after one, and letters may be given together. The value is the next
word or stands after an equals sign.
-/

namespace CrdToolset.CommandLine

/-- What can be asked for in place of work. The answer is a text, and nothing else on the command
line matters. -/
inductive Question where
  /-- How to call the program. -/
  | help
  /-- Which version it has. -/
  | version

/-- What a switch takes: nothing, or a value of a kind that the switch checks. A question ends the
reading instead. -/
inductive Takes where
  /-- It takes nothing. -/
  | nothing
  /-- It takes a text, which help calls by the name. -/
  | text (valueName : String)
  /-- It takes the path of a file, which is not empty. -/
  | path (valueName : String)
  /-- It takes the name of an artifact, and may be given again. -/
  | artifact (valueName : String)
  /-- It takes nothing and asks a question. -/
  | question (q : Question)

/-- A switch of a command line, with its names, what it takes and what help says about it. -/
structure Switch where
  /-- The long name. -/
  name : String
  /-- The letter. -/
  letter : Option Char := none
  /-- What it takes. -/
  takes : Takes := .nothing
  /-- What it is for. -/
  help : String

/-- Why reading ended before the end of the command line: it is wrong, or a question was asked. -/
inductive Stop where
  /-- The command line is wrong. -/
  | misuse
  /-- A question was asked. -/
  | asked (q : Question)

/-- The switches that were given, with their values; a switch that takes nothing has an empty value. -/
abbrev Given := List (String × String)

namespace Switch

/-- The switch takes a value, which is the next word or stands after an equals sign. -/
def takesValue (s : Switch) : Bool :=
  match s.takes with
  | .nothing | .question _ => false
  | _ => true

/-- The switch takes the text as its value, after those that were given. All switches but those for
artifacts may be given only once. -/
def admits (s : Switch) (given : Given) (value : String) : Bool :=
  match s.takes with
  | .artifact _ => (Artifact.ofId? value).isSome
  | .path _ => value ≠ "" && (given.lookup s.name).isNone
  | _ => (given.lookup s.name).isNone

/-- Adds the switch with its value to those that were given. A question stops the reading, and so
does a value that the switch does not admit. -/
def give (s : Switch) (value : String) (given : Given) : Except Stop Given :=
  match s.takes with
  | .question q => .error (.asked q)
  | _ => if s.admits given value then .ok (given ++ [(s.name, value)]) else .error .misuse

end Switch

/-- The name in a word with two hyphens, and the value after an equals sign. -/
def longName? (word : String) : Option (String × Option String) :=
  match word.toList with
  | '-' :: '-' :: cs =>
    let name := cs.takeWhile (· ≠ '=')
    let value := match cs.dropWhile (· ≠ '=') with
      | _ :: value => some (String.ofList value)
      | [] => none
    some (String.ofList name, value)
  | _ => none

/-- The letters in a word with one hyphen, of which each stands for a switch. Other words have no
letters. -/
def letters? (word : String) : Option (List Char) :=
  match word.toList with
  | '-' :: c :: cs => some (c :: cs)
  | _ => none

/-- The word can be the value of the switch before it, because it does not begin like switches
do. -/
def isValue (word : String) : Bool := (letters? word).isNone

/-- Gives the switches that the letters stand for, one after the other and without values. An
unknown letter makes the command line wrong. -/
def giveLetters (switches : List Switch) (letters : List Char) (given : Given) : Except Stop Given :=
  letters.foldlM (fun given letter =>
    match switches.find? fun s => s.letter == some letter with
    | some s => s.give "" given
    | none => .error .misuse) given

/-- Reads switches up to the first word that is none, and gives back the words from there. Two hyphens alone
say that no switch follows. A switch that still waits for its value is `waiting`. -/
def readAfter (switches : List Switch) (waiting : Option Switch) :
    List String → Given → Except Stop (Given × List String)
  | [], given => if waiting.isSome then .error .misuse else .ok (given, [])
  | word :: rest, given =>
    match waiting, longName? word, letters? word with
    | some s, _, _ =>
      if isValue word then (s.give word given).bind fun g => readAfter switches none rest g else .error .misuse
    | none, some ("", none), _ => if rest.isEmpty then .ok (given, []) else .error .misuse
    | none, some (name, value), _ =>
      match switches.find? fun s => s.name == name, value with
      | none, _ => .error .misuse
      | some s, some value =>
        if s.takesValue then (s.give value given).bind fun g => readAfter switches none rest g
        else .error .misuse
      | some s, none =>
        if s.takesValue then readAfter switches (some s) rest given
        else (s.give "" given).bind fun g => readAfter switches none rest g
    | none, none, some letters =>
      (giveLetters switches letters given).bind fun g => readAfter switches none rest g
    | none, none, none => .ok (given, word :: rest)

/-- Reads switches up to the first word that is none, and gives back the words from there. -/
def readSwitches (switches : List Switch) (words : List String) : Except Stop (Given × List String) :=
  readAfter switches none words []

end CrdToolset.CommandLine
