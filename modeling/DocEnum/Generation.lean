import DocEnum.Java.CompilationUnit
import DocEnum.Java.Naming
import DocEnum.Workspace

/-!
# Generation

From a documented field of a source file to a request, and from a request to a file.
-/

namespace DocEnum.Java.Request

variable {m : Type → Type} [Monad m] [Workspace m]

/-- The entries of a comment, with a record for each segment that was dropped. -/
def entriesOf (comment : Text) : m (List Entry) := do
  Workspace.recordAll (Entry.parseLog comment)
  return Entry.parse comment

def ofField (unit : CompilationUnit) (field : Field) (suffix : Text) : Request :=
  { package := packageOf unit.qualifiedName
    typeName := enumTypeName unit.className field.name suffix
    entries := Entry.parse field.doc }

def forField (source : Path) (fieldName suffix : Text) : ExceptT Error m Request := do
  let unit := CompilationUnit.scan (← Workspace.readText source)
  match unit.field? fieldName with
  | none => throw (.undocumented fieldName)
  | some field => do
    Workspace.record (m := m)
      ⟨.debug, "found Javadoc for " ++ fieldName ++ " at line " ++ Text.ofNat field.line⟩
    Workspace.recordAll (m := m) (Entry.parseLog field.doc)
    return ofField unit field suffix

def writeFile (request : Request) (directory : Path) (style : Style) (overwrite : Bool) :
    ExceptT Error m Path := do
  if request.entries.isEmpty then throw (.noEntries request.typeName)
  match synthesize style request with
  | .error fault => throw (.request fault)
  | .ok source => Workspace.deliver directory source.fileName source.content overwrite

end DocEnum.Java.Request
