import DocEnum.Error
import DocEnum.File.Store

/-!
# Workspaces

What the work needs around it: files, an input stream and a log. The work is written over any
monad that offers these operations; `World` offers them in memory.

**Directories.** `makeDirectories` makes a directory with all that are missing above it, and is
content with one that exists.

**Delivery.** `deliver` writes a generated text into a directory. The directory is made first, and
a file that exists is only replaced on request. The file is opened before the text is encoded, so a
text without bytes leaves an empty file behind.
-/

namespace DocEnum

/-- The surroundings of the work. -/
class Workspace (m : Type → Type) where
  kind : Path → m (Except File.Fault File.Kind)
  read : Path → m (Except File.Fault (List UInt8))
  makeDirectory : Path → m (Except File.Fault Unit)
  /-- Writes a file, new or not. -/
  write : Path → List UInt8 → m (Except File.Fault Unit)
  /-- All bytes of the input stream. -/
  input : m (List UInt8)
  record : Record → m Unit

namespace Workspace

variable {m : Type → Type} [Monad m] [Workspace m]

/-! ## Log and texts -/

def recordAll : List Record → m Unit
  | [] => pure ()
  | r :: rest => do
    record r
    recordAll rest

/-- The text of bytes, or the error that they have none. -/
def text (bytes : List UInt8) : Except Error Text :=
  match Utf8.decodeLines bytes with
  | .ok t => .ok t
  | .error fault => .error (.encoding fault)

def readText (path : Path) : ExceptT Error m Text := do
  match ← read (m := m) path with
  | .error fault => throw (.file fault)
  | .ok bytes => ExceptT.mk (pure (text bytes))

/-! ## Directories -/

def isDirectory (path : Path) : m Bool := do
  match ← kind path with
  | .ok .directory => pure true
  | _ => pure false

def isFile (path : Path) : ExceptT Error m Bool := do
  match ← kind (m := m) path with
  | .ok kind => pure (kind == .file)
  | .error ⟨.nameTooLong, path⟩ => throw (.file ⟨.nameTooLong, path⟩)
  | .error _ => pure false

def isPresent (path : Path) : ExceptT Error m Bool := do
  match ← kind (m := m) path with
  | .ok _ => pure true
  | .error ⟨.nameTooLong, path⟩ => throw (.file ⟨.nameTooLong, path⟩)
  | .error _ => pure false

/-- Overlooks that a directory could not be made because it is there. -/
def overlook (path : Path) : Except File.Fault Unit → m (Except File.Fault Unit)
  | .ok () => pure (.ok ())
  | .error fault => do
    if fault.cause = .notFound ∨ fault.cause.isInvalid then pure (.error fault)
    else if ← isDirectory path then pure (.ok ())
    else pure (.error fault)

/-- Makes a directory unless it is there. -/
def ensureDirectory (path : Path) : m (Except File.Fault Unit) := do
  overlook path (← makeDirectory path)

/-- Makes the directory of a path given by its names in reverse. -/
def makeDirectoriesFrom (root : Nat) : (names : List Text) → m (Except File.Fault Unit)
  | [] => ensureDirectory ⟨root, []⟩
  | name :: above => do
    let path : Path := ⟨root, (name :: above).reverse⟩
    match ← makeDirectory path with
    -- A parent is made only once it turns out to be missing.
    | .error ⟨.notFound, _⟩ =>
      match ← makeDirectoriesFrom root above with
      | .error fault => pure (.error fault)
      | .ok () => ensureDirectory path
    | outcome => overlook path outcome

/-- Makes a directory and all that are missing above it. -/
def makeDirectories (path : Path) : m (Except File.Fault Unit) :=
  makeDirectoriesFrom path.root path.parts.reverse

/-! ## Delivery -/

def writeBytes (path : Path) (content : List UInt8) : ExceptT Error m Unit := do
  match ← write (m := m) path content with
  | .ok () => pure ()
  | .error fault => throw (.file fault)

/-- Writes a text into a file, and gives the number of its bytes. -/
def writeText (path : Path) (content : Text) : ExceptT Error m Nat := do
  match Utf8.encode content with
  | .ok bytes => do
    writeBytes path bytes
    return bytes.length
  | .error fault => do
    -- The file is opened before the text is refused, so that it is left new or emptied.
    writeBytes path []
    throw (.unencodable fault)

/-- Writes a text to a path where nothing stands, or a file that may be replaced. -/
def place (target : Path) (content : Text) (overwrite : Bool) : ExceptT Error m Path := do
  if (← isPresent target) && !overwrite then throw (.targetExists target)
  let size ← writeText target content
  record (m := m) ⟨.info, "wrote " ++ target.text ++ " (" ++ Text.ofNat size ++ " bytes)"⟩
  return target

/-- Writes a text into a file of a directory. -/
def deliver (directory : Path) (fileName content : Text) (overwrite : Bool) :
    ExceptT Error m Path := do
  match ← makeDirectories (m := m) directory with
  | .error fault => throw (.file fault)
  | .ok () => place (directory.join fileName) content overwrite

end Workspace

/-! ## In memory -/

/-- Surroundings in memory. -/
structure World where
  store : File.Store
  input : List UInt8
  log : List Record

namespace World

def change (f : File.Store → Except File.Fault File.Store) :
    StateM World (Except File.Fault Unit) :=
  fun w =>
    match f w.store with
    | .ok store => (.ok (), { w with store })
    | .error fault => (.error fault, w)

instance : Workspace (StateM World) where
  kind path := fun w => (w.store.kind path, w)
  read path := fun w => (w.store.read path, w)
  makeDirectory path := change fun store => store.makeDirectory path
  write path content := change fun store => store.write path content
  input := fun w => (w.input, w)
  record r := fun w => ((), { w with log := w.log ++ [r] })

end World

end DocEnum
