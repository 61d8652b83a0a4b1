import DocEnum.Generation
import DocEnum.Job.Basic

/-!
# Running a job

**Draft.** The entries of a job come from its field if it has a source and a field, else from its
comment, else from its comment file. A type name of the job replaces the one made from the field.

**Outcome.** A job either writes one file or ends with one warning. Errors that no warning covers
stop the run.
-/

namespace DocEnum

/-- Why a job wrote nothing. -/
inductive Warning where
  | inputMissing
  | fieldNotDocumented
  | inputNotUtf8
  | noEntries
  | fileExists
  | invalidRequest (reason : Text)
deriving DecidableEq, Repr

def Warning.label : Warning → Text
  | inputMissing => "input_missing"
  | fieldNotDocumented => "field_not_documented"
  | inputNotUtf8 => "input_not_utf8"
  | noEntries => "no_entries"
  | fileExists => "file_exists"
  | invalidRequest _ => "invalid_request"

inductive Outcome where
  | written (file : Path)
  | warned (warning : Warning)
deriving DecidableEq, Repr

structure Result where
  name : Text
  typeName : Value
  entries : Nat
  outcome : Outcome

/-- A request whose type name may be any value. -/
structure Draft where
  package : Text
  typeName : Value
  entries : List Entry

variable {m : Type → Type} [Monad m] [Workspace m]

/-! ## Draft -/

/-- The text of a comment; what counts as false is empty. -/
def Job.commentText (comment : Value) : Except Error Text :=
  if !comment.isTrue then .ok []
  else match comment with
    | .text t => .ok t
    | .bytes _ => .error .commentBytes
    | _ => .error .commentNotText

/-- The comment of a job, from its file if there is none. -/
def Job.readComment (job : Job) : ExceptT Error m Text := do
  match job.comment, job.commentFile with
  | .null, some path => Workspace.readText path
  | comment, _ => ExceptT.mk (pure (Job.commentText comment))

/-- The request for the field of a job; only a text can name a field. -/
def Job.fieldRequest (job : Job) (source : Path) : ExceptT Error m Java.Request := do
  match job.field with
  | .text name => Java.Request.forField source name job.suffix
  | field => do
    -- The source is read all the same, and its faults come first.
    let _ ← Workspace.readText source
    let name ← ExceptT.mk (pure (Job.written field.plain?))
    throw (.undocumented name)

/-- What a job asks for whose entries are in a comment. -/
def Job.commentDraft (job : Job) : ExceptT Error m Draft := do
  let comment ← job.readComment
  let entries ← Java.Request.entriesOf (m := m) comment
  return ⟨job.package, job.typeName.orElse (.text []), entries⟩

/-- What a job asks for whose entries are in its source. -/
def Job.fieldDraft (job : Job) (source : Path) : ExceptT Error m Draft := do
  let request ← job.fieldRequest source
  return ⟨request.package, job.typeName.orElse (.text request.typeName), request.entries⟩

def Job.draft (job : Job) : ExceptT Error m Draft :=
  match job.source, job.field with
  | none, _ | _, .null => job.commentDraft
  | some source, _ => job.fieldDraft source

/-! ## Outcome -/

def Draft.writeFile (draft : Draft) (directory : Path) (style : Java.Style) (overwrite : Bool) :
    ExceptT Error m Path := do
  match draft.typeName with
  | .text typeName =>
    Java.Request.writeFile ⟨draft.package, typeName, draft.entries⟩ directory style overwrite
  | typeName =>
    if !draft.entries.isEmpty then throw .typeNameNotText
    -- The error about missing entries shows the type name, whatever value it is.
    let name ← ExceptT.mk (pure (Job.written typeName.plain?))
    throw (.noEntries name)

/-- The warning for an error while the input is read. -/
def Warning.ofInputError? : Error → Option Warning
  | .file ⟨.notFound, _⟩ => some .inputMissing
  | .undocumented _ => some .fieldNotDocumented
  | .encoding _ => some .inputNotUtf8
  | _ => none

/-- The warning for an error while the source is written. -/
def Warning.ofOutputError? (error : Error) : Option Warning :=
  match error with
  | .noEntries _ => some .noEntries
  | _ =>
    if error.isPresent then some .fileExists
    else if error.isInvalid then some (.invalidRequest error.message)
    else none

def Warning.record (warning : Warning) (jobName : Text) : Record :=
  ⟨.warning, "job " ++ jobName ++ ": " ++ warning.label⟩

def Job.run (job : Job) : ExceptT Error m Result := ExceptT.mk do
  match ← job.draft.run with
  | .error error =>
    match Warning.ofInputError? error with
    | none => return .error error
    | some warning => return .ok ⟨job.name, job.typeName, 0, .warned warning⟩
  | .ok draft =>
    let result := Result.mk job.name draft.typeName draft.entries.length
    match ← (draft.writeFile job.outputDirectory job.style job.overwrite).run with
    | .ok file => return .ok (result (.written file))
    | .error error =>
      match Warning.ofOutputError? error with
      | none => return .error error
      | some warning => do
        Workspace.record (warning.record job.name)
        return .ok (result (.warned warning))

namespace Result

def file? (result : Result) : Option Path :=
  match result.outcome with
  | .written file => some file
  | .warned _ => none

/-- The warnings of a result: one or none. -/
def warnings (result : Result) : List Warning :=
  match result.outcome with
  | .written _ => []
  | .warned warning => [warning]

/-- The reason of an invalid request. -/
def error? (result : Result) : Option Text :=
  match result.outcome with
  | .warned (.invalidRequest reason) => some reason
  | _ => none

/-- A result as a mapping; the reason is present only for an invalid request. -/
def toValue (result : Result) : Value :=
  let pairs : List (Value × Value) := [
    (.text "name", .text result.name),
    (.text "type_name", result.typeName),
    (.text "entries", .int result.entries),
    (.text "file", (result.file?.map fun file => Value.text file.text).getD .null),
    (.text "warnings", .list (result.warnings.map fun warning => .text warning.label))]
  .mapping (match result.error? with
    | none => pairs
    | some reason => pairs ++ [(.text "error", .text reason)])

end Result

end DocEnum
