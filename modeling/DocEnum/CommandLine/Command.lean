import DocEnum.CommandLine.Arguments
import DocEnum.File.Path
import DocEnum.Java.Naming

/-!
# Commands

The five commands with their arguments, and how they are read from the command line.

**Order of faults.** Switches that are given are checked first, in the order in which they were
given; then the arguments in their order; then switches that are missing; and last arguments that
nobody asked for. A path with a null character is a fault where it is checked.

**Help.** Every command has a switch for help, and so has the program. It comes before all checks.
The texts of help are not part of this library: asking for help does nothing and succeeds.
-/

namespace DocEnum.CommandLine

inductive Command where
  | parse (comment : Path) (output : Option Path)
  | generate (comment : Path) (typeName package : Text) (outputDirectory : Path)
      (lombok force stdout : Bool)
  | field (source : Path) (fieldName : Text) (outputDirectory : Option Path) (suffix : Text)
      (lombok force : Bool)
  | batch (manifest : Path) (output : Option Path)
  | sampleManifest (format : Text)
  /-- Help, or what a shell needs to complete command lines. -/
  | help
deriving DecidableEq, Repr

/-- A command, and whether the log is shown in full. -/
structure Invocation where
  verbose : Bool
  command : Command
deriving DecidableEq, Repr

/-! ## Switches -/

def valued (key : Key) (names : List Text) : Switch := ⟨names, key, none⟩

def flagged (key : Key) (on : Bool) (names : List Text) : Switch := ⟨names, key, some on⟩

def helpSwitch : Switch := flagged .help true ["--help"]

def mainSwitches : List Switch := [
  flagged .verbose true ["--verbose", "-v"],
  flagged .completion true ["--install-completion"],
  flagged .completion true ["--show-completion"],
  helpSwitch]

def outputSwitch : Switch := valued .output ["--output", "-o"]

/-- The switches that both commands that make an enum have. -/
def enumSwitches : List Switch := [
  valued .outputDirectory ["--output-dir", "-d"],
  flagged .lombok true ["--lombok"],
  flagged .lombok false ["--no-lombok"],
  flagged .force true ["--force"]]

def generateSwitches : List Switch :=
  [valued .typeName ["--type-name", "-t"], valued .package ["--namespace", "-n"],
    flagged .stdout true ["--stdout"]] ++ enumSwitches

def fieldSwitches : List Switch :=
  valued .suffix ["--suffix"] :: enumSwitches

def formatSwitch : Switch := valued .format ["--format", "-f"]

/-! ## Reading a command -/

/-- The path of a parameter, which must have bytes and no null character. -/
def pathOf (parameter t : Text) : Except UsageFault Path :=
  match File.refusal? t with
  | some cause => .error (.invalidPath parameter cause)
  | none => .ok (.ofText t)

/-- The first of the arguments, which has a name, and the others. -/
def expect (name : Text) : List Text → Except UsageFault (Text × List Text)
  | [] => .error (.missingArgument name)
  | argument :: rest => .ok (argument, rest)

def expectPath (name : Text) (arguments : List Text) : Except UsageFault (Path × List Text) := do
  let (argument, rest) ← expect name arguments
  return (← pathOf ("'" ++ name ++ "'") argument, rest)

/-- How a switch whose value is a path is called in messages. -/
def Key.pathParameter? : Key → Option Text
  | output => some "'--output' / '-o'"
  | outputDirectory => some "'--output-dir' / '-d'"
  | _ => none

namespace Settings

def checkPaths (settings : Settings) : Except UsageFault Unit :=
  settings.forM fun (key, _) =>
    match key.pathParameter?, settings.value? key with
    | some parameter, some t => (pathOf parameter t).map fun _ => ()
    | _, _ => .ok ()

def path? (settings : Settings) (key : Key) : Option Path :=
  (settings.value? key).map Path.ofText

end Settings

namespace Command

/-- How a command is made of its settings and arguments, with the arguments that are left. -/
abbrev Reader := Settings → List Text → Except UsageFault (Command × List Text)

def readParse : Reader := fun settings arguments => do
  let (comment, rest) ← expectPath "comment" arguments
  return (.parse comment (settings.path? .output), rest)

def readGenerate : Reader := fun settings arguments => do
  let (comment, rest) ← expectPath "comment" arguments
  match settings.value? .typeName with
  | none => throw (.missingSwitch "'--type-name' / '-t'")
  | some typeName =>
    let command := Command.generate comment typeName ((settings.value? .package).getD [])
      ((settings.path? .outputDirectory).getD .current) (settings.flag .lombok true)
      (settings.flag .force false) (settings.flag .stdout false)
    return (command, rest)

def readField : Reader := fun settings arguments => do
  let (source, rest) ← expectPath "source" arguments
  let (fieldName, rest) ← expect "field_name" rest
  let command := Command.field source fieldName (settings.path? .outputDirectory)
    ((settings.value? .suffix).getD Java.defaultSuffix) (settings.flag .lombok true)
    (settings.flag .force false)
  return (command, rest)

def readBatch : Reader := fun settings arguments => do
  let (manifest, rest) ← expectPath "manifest" arguments
  return (.batch manifest (settings.path? .output), rest)

def readSample : Reader := fun settings arguments =>
  return (.sampleManifest ((settings.value? .format).getD "yaml"), arguments)

/-- A command by its name, with its switches. -/
structure Usage where
  name : Text
  switches : List Switch
  reader : Reader

def all : List Usage := [
  ⟨"parse", [outputSwitch], readParse⟩,
  ⟨"generate", generateSwitches, readGenerate⟩,
  ⟨"field", fieldSwitches, readField⟩,
  ⟨"batch", [outputSwitch], readBatch⟩,
  ⟨"sample-manifest", [formatSwitch], readSample⟩]

def Usage.read (command : Usage) (arguments : List Text) : Except UsageFault Command := do
  let (settings, rest) ← CommandLine.read (command.switches ++ [helpSwitch]) false arguments
  -- Where help is asked for, no other argument is looked at.
  if settings.flag .help false then return .help
  settings.checkPaths
  let (command, rest) ← command.reader settings rest
  if rest.isEmpty then return command else throw (.extraArguments rest)

end Command

namespace Invocation

/-- The fault of a name that is no command: what is wrong with the arguments from there on as
switches of the program, if anything is, and else that there is no such command. -/
def unknownCommand (name : Text) (rest : List Text) : UsageFault :=
  let fault := match CommandLine.read mainSwitches true (name :: rest) with
    | .error fault => fault
    | .ok _ => .noSuchCommand name
  .atCommand fault (Text.similar name (Command.all.map Command.Usage.name))

def read (arguments : List Text) : Except UsageFault Invocation := do
  let (settings, rest) ← CommandLine.read mainSwitches true arguments
  let verbose := settings.flag .verbose false
  if settings.flag .help false || settings.flag .completion false then return ⟨verbose, .help⟩
  match rest with
  | [] => throw .missingCommand
  | name :: rest =>
    match Command.all.find? fun command => command.name == name with
    | none => throw (unknownCommand name rest)
    | some command => return ⟨verbose, ← command.read rest⟩

end Invocation

end DocEnum.CommandLine
