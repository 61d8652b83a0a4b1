import DocEnum.Entry
import DocEnum.Java.Identifier

/-!
# Java enums

**Request.** What to generate: a package, a type name and the entries, one constant each.

**Check.** `fault?` finds the first fault of a request: no entries, a name that is no identifier, a
constant that is repeated, or one that is named like the lookup table.

**Source.** A request without fault has a source text, which `render` writes line by line: the
package, the imports, the constants in order, the lookup table that is filled once, and two static
methods that look a code up. Without Lombok the constructor and the getters are written out.
-/

namespace DocEnum.Java

/-! ## Requests -/

/-- An enum to generate. -/
structure Request where
  package : Text
  typeName : Text
  entries : List Entry
deriving DecidableEq, Repr

structure Style where
  /-- Lombok annotations instead of a constructor and getters. -/
  lombok : Bool := true
  indent : Text := "    "
  findMethod : Text := "find"
  requireMethod : Text := "require"
  lookupField : Text := "ENUM_MAP"
deriving DecidableEq, Repr

/-- A generated source and the file it belongs in. -/
structure Source where
  typeName : Text
  fileName : Text
  content : Text
deriving DecidableEq, Repr

/-- The names of the members that a style chooses. -/
def Style.members (style : Style) : List Text :=
  [style.findMethod, style.requireMethod, style.lookupField]

def extension : Text := ".java"

/-! ## Check -/

/-- Why a request has no source. -/
inductive Fault where
  | noEntries
  | typeName (name : Text)
  | packageName (name : Text)
  | memberName (name : Text)
  | constantName (name : Text)
  | duplicateConstant (name : Text)
  | lookupClash (name : Text)
deriving DecidableEq, Repr

namespace Fault

def message : Fault → Text
  | noEntries => "at least one enum entry is required"
  | typeName name => "invalid Java type name: " ++ Text.quoted name
  | packageName name => "invalid Java package name: " ++ Text.quoted name
  | memberName name => "invalid Java member name: " ++ Text.quoted name
  | constantName name => "invalid enum constant name: " ++ Text.quoted name
  | duplicateConstant name => "duplicate enum constant name: " ++ name
  | lookupClash name =>
    "enum constant " ++ name ++ " clashes with the lookup field; set a different lookup_field"

end Fault

/-- The first fault of the constants after those named in `seen`. -/
def constantFault? (lookupField : Text) (seen : List Text) : List Entry → Option Fault
  | [] => none
  | entry :: rest =>
    if !isIdentifier entry.name then some (.constantName entry.name)
    else if entry.name ∈ seen then some (.duplicateConstant entry.name)
    else if entry.name = lookupField then some (.lookupClash entry.name)
    else constantFault? lookupField (entry.name :: seen) rest

def fault? (style : Style) (request : Request) : Option Fault :=
  if request.entries.isEmpty then some .noEntries
  else if !isIdentifier request.typeName then some (.typeName request.typeName)
  else if !isPackage request.package then some (.packageName request.package)
  else match style.members.find? fun member => !isIdentifier member with
    | some member => some (.memberName member)
    | none => constantFault? style.lookupField [] request.entries

/-! ## Source -/

namespace Style

def line (style : Style) (steps : Nat) (t : Text) : Text :=
  (List.replicate steps style.indent).flatten ++ t

def lookupImports : List Text :=
  ["java.util.Collections", "java.util.HashMap", "java.util.Map", "java.util.Optional"]

def lombokImports : List Text := ["lombok.Getter", "lombok.RequiredArgsConstructor"]

def lombokAnnotations : List Text := ["@Getter", "@RequiredArgsConstructor"]

/-- The types imported, by their full names. -/
def imports (style : Style) : List Text :=
  if style.lombok then lombokImports ++ lookupImports else lookupImports

def constant (style : Style) (entry : Entry) : Text :=
  style.line 1 (entry.name ++ "(" ++ Text.ofInt entry.code ++ ", " ++
    literal entry.description ++ ")")

/-- One line for each constant, with a comma between two of them and a semicolon at the end. -/
def constants (style : Style) : List Entry → List Text
  | [] => []
  | [entry] => [style.constant entry ++ ";"]
  | entry :: rest => (style.constant entry ++ ",") :: style.constants rest

/-- The package line and an empty one, if there is a package. -/
def packageLines (package : Text) : List Text :=
  if package.isEmpty then [] else ["package " ++ package ++ ";", []]

def importLine (name : Text) : Text :=
  "import " ++ name ++ ";"

def opening (typeName : Text) : Text :=
  "public enum " ++ typeName ++ " \x7b"

/-- The fields and the lookup table. -/
def table (style : Style) (typeName : Text) : List Text := [
  style.line 1 "private final int code;",
  [],
  style.line 1 "private final String description;",
  [],
  style.line 1 ("private static final Map<Integer, " ++ typeName ++ "> " ++
    style.lookupField ++ ";"),
  [],
  style.line 1 "static \x7b",
  style.line 2 ("Map<Integer, " ++ typeName ++ "> m = new HashMap<>();"),
  style.line 2 ("for (" ++ typeName ++ " e : values()) \x7b"),
  style.line 3 "m.put(e.code, e);",
  style.line 2 "\x7d",
  style.line 2 (style.lookupField ++ " = Collections.unmodifiableMap(m);"),
  style.line 1 "\x7d",
  []]

/-- The constructor and the getters. -/
def accessors (style : Style) (typeName : Text) : List Text := [
  style.line 1 (typeName ++ "(int code, String description) \x7b"),
  style.line 2 "this.code = code;",
  style.line 2 "this.description = description;",
  style.line 1 "\x7d",
  [],
  style.line 1 "public int getCode() \x7b",
  style.line 2 "return code;",
  style.line 1 "\x7d",
  [],
  style.line 1 "public String getDescription() \x7b",
  style.line 2 "return description;",
  style.line 1 "\x7d",
  []]

/-- The two methods that look a code up, and the end of the enum. -/
def lookups (style : Style) (typeName : Text) : List Text := [
  style.line 1 ("public static Optional<" ++ typeName ++ "> " ++ style.findMethod ++
    "(int code) \x7b"),
  style.line 2 ("return Optional.ofNullable(" ++ style.lookupField ++ ".get(code));"),
  style.line 1 "\x7d",
  [],
  style.line 1 ("public static " ++ typeName ++ " " ++ style.requireMethod ++ "(int code) \x7b"),
  style.line 2 (typeName ++ " e = " ++ style.lookupField ++ ".get(code);"),
  style.line 2 "if (e == null) \x7b",
  style.line 3 "throw new IllegalArgumentException(\"Unknown code: \" + code);",
  style.line 2 "\x7d",
  style.line 2 "return e;",
  style.line 1 "\x7d",
  "\x7d"]

def sourceLines (style : Style) (request : Request) : List Text :=
  packageLines request.package ++ style.imports.map importLine ++ [[]] ++
    (if style.lombok then lombokAnnotations else []) ++
    [opening request.typeName, []] ++ style.constants request.entries ++ [[]] ++
    style.table request.typeName ++
    (if style.lombok then [] else style.accessors request.typeName) ++
    style.lookups request.typeName

end Style

def render (style : Style) (request : Request) : Text :=
  (style.sourceLines request).flatMap fun line => line ++ "\n"

/-- The source text of a request, or its first fault. -/
def generate (style : Style) (request : Request) : Except Fault Text :=
  match fault? style request with
  | some fault => .error fault
  | none => .ok (render style request)

def fileName (typeName extension : Text) : Text :=
  typeName ++ extension

def synthesize (style : Style) (request : Request) : Except Fault Source :=
  (generate style request).map fun content =>
    ⟨request.typeName, fileName request.typeName extension, content⟩

end DocEnum.Java
