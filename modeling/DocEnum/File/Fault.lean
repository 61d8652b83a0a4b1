import DocEnum.File.Path
import DocEnum.Text.Quoted
import DocEnum.Text.Utf8

/-!
# File faults

Why an operation on files fails, and on which path.

**Invalid paths.** A path with a null character, or with a code point that has no bytes, is refused
before any file is looked at. The other faults are those of the files.
-/

namespace DocEnum.File

/-- Why an operation on a file fails. -/
inductive Cause where
  | notFound
  | alreadyExists
  | notDirectory
  | isDirectory
  | nameTooLong
  /-- A path with a null character. -/
  | nullCharacter
  | unencodable (fault : Utf8.EncodeFault)
deriving DecidableEq, Repr

structure Fault where
  cause : Cause
  path : Path
deriving DecidableEq, Repr

/-- Why a path is refused before any file is looked at. -/
def refusal? (path : Text) : Option Cause :=
  match Utf8.nameFault? path with
  | some fault => some (.unencodable fault)
  | none => if path.contains (.char '\x00') then some .nullCharacter else none

/-- The path itself is refused. -/
def Cause.isInvalid : Cause → Bool
  | nullCharacter | unencodable _ => true
  | _ => false

def Cause.wording : Cause → Text
  | notFound => "[Errno 2] No such file or directory"
  | alreadyExists => "[Errno 17] File exists"
  | notDirectory => "[Errno 20] Not a directory"
  | isDirectory => "[Errno 21] Is a directory"
  | nameTooLong => "[Errno 36] File name too long"
  | nullCharacter => "embedded null byte"
  | unencodable fault => fault.message

def Fault.message (fault : Fault) : Text :=
  if fault.cause.isInvalid then fault.cause.wording
  else fault.cause.wording ++ ": " ++ Text.quoted fault.path.text

inductive Kind where
  | file
  | directory
deriving DecidableEq, Repr

end DocEnum.File
