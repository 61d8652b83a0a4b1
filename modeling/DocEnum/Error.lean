import DocEnum.File.Fault
import DocEnum.Java.Enum
import DocEnum.Json.Reader
import DocEnum.Libraries

/-!
# Errors

Everything that can stop a piece of work, by cause, with its wording.

**Kinds.** `isInvalid` picks the errors that tell that a request, a manifest or a text was not
acceptable as given, and `isPresent` those that tell that something is in the way. The others are
faults of the files around the work, or values of the wrong kind.
-/

namespace DocEnum

/-- Why a piece of work stops. -/
inductive Error where
  | request (fault : Java.Fault)
  /-- A comment that lists nothing. -/
  | noEntries (typeName : Text)
  /-- A field that is not declared with a documentation comment. -/
  | undocumented (field : Text)
  | encoding (fault : Utf8.Fault)
  | unencodable (fault : Utf8.EncodeFault)
  | unprintable (fault : Utf8.EncodeFault)
  | file (fault : File.Fault)
  | targetExists (target : Path)
  /-- A job without a source and without a comment; its name is as shown in messages. -/
  | jobWithoutInput (name : Text)
  | jobWithoutField (name : Text)
  | jobWithoutTypeName (name : Text)
  | jobNotMapping
  | pathNotText
  | commentNotText
  | commentBytes
  | typeNameNotText
  | manifestNotList (path : Path)
  | json (fault : Json.Fault)
  | yaml (fault : Yaml.Fault)
  | value (fault : Value.Fault)
  /-- A text with values too deep in each other. -/
  | tooDeep
  | notWritable
  /-- A markup tag that closes nothing. -/
  | markup

def Display.Fault.error : Display.Fault → Error
  | .tag => .markup
  | .value fault => .value fault
  | .unencodable fault => .unprintable fault

namespace Error

def message : Error → Text
  | request fault => fault.message
  | noEntries typeName => "No enum entries found for " ++ typeName
  | undocumented field => "Field '" ++ field ++ "' has no Javadoc comment or does not exist"
  | encoding fault => fault.message
  | unencodable fault => fault.message
  | unprintable fault =>
    fault.message ++ "\n*** You may need to add PYTHONIOENCODING=utf-8 to your environment ***"
  | file fault => fault.message
  | targetExists target => "File already exists: " ++ target.text
  | jobWithoutInput name => "Job " ++ name ++ " needs 'source' or 'comment'/'comment_file'"
  | jobWithoutField name => "Job " ++ name ++ " sets 'source' without 'field'"
  | jobWithoutTypeName name => "Job " ++ name ++ " needs 'type_name' for comment input"
  | jobNotMapping => "a job must be a mapping"
  | pathNotText => "a path must be a text"
  | commentNotText | commentBytes => "a comment must be a text"
  | typeNameNotText => "a type name must be a text"
  | manifestNotList path => "Manifest " ++ path.text ++ " must contain a list of jobs"
  | json fault => fault.message
  | yaml fault => fault.message
  | value fault => fault.message
  | tooDeep => "values are nested too deep"
  | notWritable => "the value has no JSON text"
  | markup => "a closing tag has nothing to close"

/-- Whether something was not acceptable as given. -/
def isInvalid : Error → Bool
  | request _ | noEntries _ | encoding _ | unencodable _ | unprintable _ | jobWithoutInput _
  | jobWithoutField _ | jobWithoutTypeName _ | manifestNotList _ | json _ | value _ => true
  | file fault => fault.cause.isInvalid
  | _ => false

/-- Whether something is in the way of a new file or directory. -/
def isPresent : Error → Bool
  | targetExists _ => true
  | file fault => fault.cause == .alreadyExists
  | _ => false

end Error

end DocEnum
