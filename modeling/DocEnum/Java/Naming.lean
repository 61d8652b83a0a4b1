import DocEnum.Java.Enum
import DocEnum.Text.Upper

/-!
# Names of generated types

An enum made from a field is named after the field's class, without the marker of a data object,
followed by the field's name with a capital and a suffix. It goes into the package of the class.
-/

namespace DocEnum.Java

/-- The endings that mark a data object. -/
def objectMarkers : List Text := ["DO", "DTO", "VO", "PO", "POJO", "Entity"]

def dropMarker (t : Text) : Text :=
  (objectMarkers.findSome? fun marker => Text.dropEnding? marker t).getD t

/-- A class name without the marker of a data object; the marker is also found before a line feed
that ends the name. -/
def stripMarker (className : Text) : Text :=
  match Text.dropEnding? [.char '\n'] className with
  | some line => dropMarker line ++ [.char '\n']
  | none => dropMarker className

/-- A field name with its first character in upper case, or `Field` for none. -/
def capitalize : Text → Text
  | [] => "Field"
  | c :: rest => Text.upper c ++ rest

def defaultSuffix : Text := "Enum"

/-- The name of the enum for a field; a class without a name counts as `Unknown`. -/
def enumTypeName (className : Option Text) (field suffix : Text) : Text :=
  let owner := match className with
    | none | some [] => "Unknown"
    | some name => name
  stripMarker owner ++ capitalize field ++ suffix

/-- The package of a qualified name: what stands before the last point. -/
def packageOf : Option Text → Text
  | none => []
  | some name =>
    match name.reverse.dropWhile (· != .char '.') with
    | [] => []
    | _ :: package => package.reverse

end DocEnum.Java
