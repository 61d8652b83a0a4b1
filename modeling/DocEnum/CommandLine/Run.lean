import DocEnum.CommandLine.Command
import DocEnum.Manifest

/-!
# Running a command

**Output.** What a command prints is collected in order, also when the command stops early.

**Endings.** A command ends with an exit code, with a usage fault, or with an error that it does
not handle. It warns and ends with code one when there is nothing to make or when a file is in
the way, and reports invalid input as a usage fault.
-/

namespace DocEnum.CommandLine

inductive Ending where
  | exit (code : Nat)
  | usage (fault : UsageFault)
  | error (error : Error)

structure Report where
  output : Text
  ending : Ending

variable {m : Type → Type} [Monad m] [Workspace m] [Display] [JsonWriter] [YamlLibrary]

/-- The work of a command: it prints, and stops early with an ending. -/
abbrev Work (m : Type → Type) := ExceptT Ending (StateT Text m)

/-! ## Messages -/

/-- Styled words, and a text behind them. -/
def headed (words t : Text) : Text :=
  "[bold green]" ++ words ++ "[/]" ++ t

def warning (message : Text) : Text :=
  "[bold yellow]" ++ Display.protect message ++ "[/]"

def announcement (path : Path) (constants : Nat) : Text :=
  headed "Generated enum" (" " ++ path.text ++ " (" ++ Text.ofNat constants ++ " constants)")

def entriesMessage (entries : List Entry) (path : Path) : Text :=
  headed ("Wrote " ++ Text.ofNat entries.length ++ " entries") (" to " ++ path.text)

def summaryMessage (path : Path) : Text :=
  headed "Wrote batch summary" (" to " ++ path.text)

def countMessage (summary : Manifest.Summary) : Text :=
  headed "Generated" (" " ++ Text.ofNat summary.written ++ " of " ++
    Text.ofNat summary.results.length ++ " enums.")

namespace Work

/-! ## Steps -/

/-- Prints what a display makes of something, and a line feed. -/
def print (shown : Except Display.Fault Text) : Work m Unit :=
  match shown with
  | .ok t => modify (· ++ t ++ "\n")
  | .error fault => throw (.error fault.error)

def printMessage (markup : Text) : Work m Unit :=
  print (Display.message markup)

/-- Prints a warning and ends with code one. -/
def warn {α : Type} (message : Text) : Work m α := do
  printMessage (warning message)
  throw (.exit 1)

def refuse {α : Type} (reason : Text) : Work m α :=
  throw (.usage (.invalidValue reason))

/-- Does a piece of work and hands its error over. -/
def attempt {α : Type} (work : ExceptT Error m α) : Work m (Except Error α) :=
  ExceptT.lift (StateT.lift work.run)

/-- Does a piece of work; its errors are not handled. -/
def perform {α : Type} (work : ExceptT Error m α) : Work m α := do
  match ← attempt work with
  | .ok a => return a
  | .error error => throw (.error error)

def jsonText (value : Value) : Work m Text := do
  match JsonWriter.text? value with
  | some t => return t
  | none => throw (.error .notWritable)

/-- Shows a JSON text, or writes it to a file and tells so. -/
def putOut (json : Text) (message : Path → Text) : (output : Option Path) → Work m Unit
  | some path => do
    perform (Workspace.writeBytes path (Utf8.bytes json))
    printMessage (message path)
  | none => print (Display.data json)

def expectFile (path : Path) (reason : Text) : Work m Unit := do
  unless ← perform (Workspace.isFile path) do refuse (reason ++ path.text)

/-- The text of a comment file, or of the input stream for a single hyphen. -/
def readComment (path : Path) : Work m Text := do
  if path.text = ("-" : Text) then
    let bytes ← ExceptT.lift (StateT.lift (Workspace.input (m := m)))
    perform (ExceptT.mk (pure (Workspace.text bytes)))
  else
    expectFile path "Input file not found: "
    perform (Workspace.readText path)

def readEntries (path : Path) : Work m (List Entry) := do
  let text ← readComment path
  perform (ExceptT.lift (Java.Request.entriesOf (m := m) text))

/-! ## Entries -/

def entryValue (entry : Entry) : Value :=
  .mapping [(.text "name", .text entry.name), (.text "code", .int entry.code),
    (.text "description", .text entry.description)]

def expectEntries (entries : List Entry) : Work m Unit :=
  if entries.isEmpty then warn "No valid enum entries found in the comment." else pure ()

/-- Shows entries, or writes them to a file. -/
def showEntries (output : Option Path) (entries : List Entry) : Work m Unit := do
  let json ← jsonText (.list (entries.map entryValue))
  putOut json (entriesMessage entries) output
  -- Even an empty list is shown before the warning about it.
  expectEntries entries

def parse (comment : Path) (output : Option Path) : Work m Unit := do
  showEntries output (← readEntries comment)

/-! ## Enums -/

def announce (path : Path) (request : Java.Request) : Work m Unit :=
  printMessage (announcement path request.entries.length)

/-- Ends because of an error while an enum was made. -/
def failGeneration {α : Type} (error : Error) : Work m α :=
  if error.isPresent then warn error.message
  else if error.isInvalid then refuse error.message
  else throw (.error error)

def printSource (style : Java.Style) (request : Java.Request) : Work m Unit :=
  match Java.synthesize style request with
  | .error fault => failGeneration (.request fault)
  | .ok source =>
    match Display.data source.content with
    | .ok shown => print (.ok shown)
    | .error fault => failGeneration fault.error

/-- Tells what came of writing a request. -/
def conclude (request : Java.Request) : (outcome : Except Error Path) → Work m Unit
  | .ok path => announce path request
  | .error error => failGeneration error

def writeSource (directory : Path) (style : Java.Style) (force : Bool) (request : Java.Request) :
    Work m Unit := do
  conclude request (← attempt (request.writeFile directory style force))

def produce (directory : Path) (style : Java.Style) (force stdout : Bool)
    (request : Java.Request) : Work m Unit :=
  if stdout then printSource style request else writeSource directory style force request

def generate (comment : Path) (typeName package : Text) (outputDirectory : Path)
    (lombok force stdout : Bool) : Work m Unit := do
  let entries ← readEntries comment
  expectEntries entries
  produce outputDirectory { lombok } force stdout ⟨package, typeName, entries⟩

/-- Makes an enum from a field, and tells the request and the file. -/
def makeField (source : Path) (fieldName suffix : Text) (directory : Path) (style : Java.Style)
    (force : Bool) : ExceptT Error m (Java.Request × Path) := do
  let request ← Java.Request.forField source fieldName suffix
  let path ← request.writeFile directory style force
  return (request, path)

def field (source : Path) (fieldName : Text) (outputDirectory : Option Path) (suffix : Text)
    (lombok force : Bool) : Work m Unit := do
  expectFile source "Input file not found: "
  let directory := outputDirectory.getD source.parent
  match ← attempt (makeField source fieldName suffix directory { lombok } force) with
  | .ok (request, path) => announce path request
  | .error (.undocumented name) => warn (Error.undocumented name).message
  | .error (.noEntries _) => warn "No valid enum entries found in the Javadoc."
  | .error error => failGeneration error

/-! ## Manifests -/

def showSummary (output : Option Path) (summary : Manifest.Summary) : Work m Unit := do
  let json ← jsonText summary.toValue
  putOut json summaryMessage output
  printMessage (countMessage summary)

def batch (manifest : Path) (output : Option Path) : Work m Unit := do
  expectFile manifest "Manifest not found: "
  match ← attempt (Manifest.run (m := m) manifest) with
  | .error error => if error.isInvalid then refuse error.message else throw (.error error)
  | .ok summary => showSummary output summary

def sampleManifest (format : Text) : Work m Unit := do
  let name := Text.lowerAscii format
  if name = ("json" : Text) then print (Display.data (← jsonText Manifest.sample))
  else if name = ("yaml" : Text) ∨ name = ("yml" : Text) then
    print (Display.data (YamlLibrary.dump Manifest.sample))
  else refuse ("Unsupported format '" ++ format ++ "'. Choose yaml or json.")

end Work

def Command.work : Command → Work m Unit
  | parse comment output => Work.parse comment output
  | generate comment typeName package outputDirectory lombok force stdout =>
    Work.generate comment typeName package outputDirectory lombok force stdout
  | field source fieldName outputDirectory suffix lombok force =>
    Work.field source fieldName outputDirectory suffix lombok force
  | batch manifest output => Work.batch manifest output
  | sampleManifest format => Work.sampleManifest format
  | help => pure ()

def Command.run (command : Command) : m Report := do
  match ← (command.work (m := m)).run.run [] with
  | (.ok (), output) => return ⟨output, .exit 0⟩
  | (.error ending, output) => return ⟨output, ending⟩

/-- Runs a command line; the level is the one from which the log is shown. -/
def main (arguments : List Text) : m (Report × Level) := do
  match Invocation.read arguments with
  | .error fault => return (⟨[], .usage fault⟩, .warning)
  | .ok invocation => return (← invocation.command.run, Level.ofVerbose invocation.verbose)

end DocEnum.CommandLine
