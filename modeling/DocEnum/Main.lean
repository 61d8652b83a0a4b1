import DocEnum.CommandLine.Run
import DocEnum.Console.LogLines
import DocEnum.Console.Markup
import DocEnum.Json.Printer
import DocEnum.Yaml.Reader

/-!
# The program

Runs a command line on the files of the system. The output goes to the output stream, and what the
log holds from its level on goes to the error stream, with escapes for what has no bytes.

**Names.** The system's names are texts here, so a path with a half of a surrogate pair is refused
even if the half stands for a byte.
-/

namespace DocEnum.Program

/-- The files of the system, with the log so far. -/
abbrev System := StateT (List Record) IO

/-- The system's number for a directory where a file was expected. -/
def directoryCode : UInt32 := 21

/-- Why the system refused an operation on a path; other refusals end the program. -/
def refusal (path : Path) (error : IO.Error) : IO File.Fault :=
  match error with
  | .noFileOrDirectory .. | .noSuchThing .. => return ⟨.notFound, path⟩
  | .alreadyExists .. => return ⟨.alreadyExists, path⟩
  | .inappropriateType _ code _ =>
    return ⟨if code = directoryCode then .isDirectory else .notDirectory, path⟩
  | error => throw error

/-- A text as a string, with escapes for halves of surrogate pairs. -/
def stringOf (t : Text) : String :=
  String.ofList (t.flatMap fun
    | .char c => [c]
    | .half unit => '\\' :: 'u' :: Nat.toDigits 16 (CodePoint.firstHalf + unit))

def systemName (path : Path) : String :=
  stringOf path.text

/-- Why the system is not asked about a path. -/
def invalid? (path : Path) : Option File.Cause :=
  match Utf8.encode path.text with
  | .error fault => some (.unencodable fault)
  | .ok _ => if path.text.contains (.char '\x00') then some .nullCharacter else none

/-- Does an operation on a path, with a refusal as its result. -/
def attempt {α : Type} (path : Path) (operation : IO α) : IO (Except File.Fault α) := do
  if let some cause := invalid? path then return .error ⟨cause, path⟩
  try return .ok (← operation)
  catch error => return .error (← refusal path error)

/-- All bytes of a stream after those already read. -/
partial def readAll (stream : IO.FS.Stream) (bytes : ByteArray) : IO ByteArray := do
  let chunk ← stream.read 65536
  if chunk.isEmpty then return bytes else readAll stream (bytes ++ chunk)

instance : Workspace System where
  kind path := do
    match ← attempt path (IO.FS.withFile (systemName path) .read fun file => file.read 1) with
    | .ok _ => return .ok .file
    | .error ⟨.isDirectory, _⟩ => return .ok .directory
    | .error fault => return .error fault
  read path := attempt path do return (← IO.FS.readBinFile (systemName path)).toList
  makeDirectory path := attempt path (IO.FS.createDir (systemName path))
  write path bytes := attempt path (IO.FS.writeBinFile (systemName path) ⟨bytes.toArray⟩)
  input := do return (← readAll (← IO.getStdin) .empty).toList
  record r := modify (· ++ [r])

/-- The columns of a console of unknown width. -/
def usualWidth : Nat := 80

def consoleWidth : IO Nat := do
  let columns ← IO.getEnv "COLUMNS"
  return (columns.bind String.toNat?).getD usualWidth

def run (arguments : List Text) : IO UInt32 := do
  let width ← consoleWidth
  let _ : Display := Console.display width
  let _ : JsonWriter := Json.writer
  let _ : YamlLibrary := Yaml.library
  let ((report, level), log) ← (CommandLine.main arguments : System _).run []
  IO.print (stringOf report.output)
  for line in Console.logLines width level log do
    IO.eprintln (stringOf line)
  match report.ending with
  | .exit code => return code.toUInt32
  | .usage fault => do
    IO.eprintln (stringOf fault.message)
    return 2
  | .error error => do
    IO.eprintln (stringOf error.message)
    return 1

end DocEnum.Program

def main (arguments : List String) : IO UInt32 :=
  DocEnum.Program.run (arguments.map fun (argument : String) => (argument : DocEnum.Text))
