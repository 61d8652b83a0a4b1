import DocEnum.Error
import DocEnum.Java.Naming
import DocEnum.Value.Shown

/-!
# Jobs

A job says which enum to make from what: a documented field of a source file, a comment given
directly, or a comment in a file.

**Validation.** `Job.ofPayload` reads a job from what a manifest says about it. A job needs a source
with a field, or a comment with a type name; what counts as false counts as missing. Paths are
seen from a base directory, and the output goes beside the source unless the job says otherwise.
-/

namespace DocEnum

/-- What to make, and from what. -/
structure Job where
  name : Text
  outputDirectory : Path
  comment : Value
  commentFile : Option Path
  source : Option Path
  field : Value
  typeName : Value
  package : Text
  suffix : Text
  overwrite : Bool
  lombok : Bool

def Job.style (job : Job) : Java.Style :=
  { lombok := job.lombok }

namespace Value

/-- The first of two values unless it counts as false. -/
def orElse (a b : Value) : Value :=
  if a.isTrue then a else b

end Value

/-- What is said about a job: a value for each name that is given. -/
abbrev Payload := Text → Option Value

namespace Payload

def ofPairs (pairs : List (Value × Value)) : Payload :=
  fun name => Value.lookup? (.text name) pairs

/-- What a value says about a job; only a mapping says anything. -/
def ofValue? : Value → Option Payload
  | .mapping pairs => some (ofPairs pairs)
  | _ => none

/-- The value for a name, null for none. -/
def get (payload : Payload) (name : Text) : Value :=
  (payload name).getD .null

/-- The path for a name, seen from a base directory. -/
def path? (base : Path) (payload : Payload) (name : Text) : Except Error (Option Path) :=
  let value := payload.get name
  if !value.isTrue then .ok none
  else match value with
    | .text t => .ok (some (base.join t))
    | _ => .error .pathNotText

end Payload

namespace Job

/-- A text that a value must have. -/
def written : Option Text → Except Error Text
  | some t => .ok t
  | none => .error (.value .tooLong)

/-- What a job lacks: the error, which shows the job's name. -/
def lack? (source : Option Path) (payload : Payload) : Option (Text → Error) :=
  let isGiven (name : Text) : Bool := (payload.get name).isTrue
  if source.isNone && !(isGiven "comment" || isGiven "comment_file") then some .jobWithoutInput
  else if source.isSome && !isGiven "field" then some .jobWithoutField
  else if source.isNone && !isGiven "type_name" then some .jobWithoutTypeName
  else none

def ofPayload (base : Path) (payload : Payload) : Except Error Job := do
  let get := payload.get
  let source ← payload.path? base "source"
  if let some error := lack? source payload then throw (error (← written (get "name").shown?))
  let name ← written (((get "name").orElse (get "field")).orElse (get "type_name")).plain?
  let outputDirectory ← payload.path? base "output_dir"
  let commentFile ← payload.path? base "comment_file"
  let package ← written ((get "namespace").orElse (.text [])).plain?
  let suffix ← written ((payload "suffix").getD (.text Java.defaultSuffix)).plain?
  return {
    name
    outputDirectory := outputDirectory.getD ((source.map Path.parent).getD base)
    comment := get "comment"
    commentFile
    source
    field := get "field"
    typeName := get "type_name"
    package
    suffix
    overwrite := (get "overwrite").isTrue
    lombok := ((payload "lombok").getD (.bool true)).isTrue }

def ofValue (base : Path) (value : Value) : Except Error Job :=
  match Payload.ofValue? value with
  | some payload => ofPayload base payload
  | none => .error .jobNotMapping

end Job

end DocEnum
