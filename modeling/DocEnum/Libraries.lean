import DocEnum.Text.Utf8
import DocEnum.Yaml.Document

/-!
# Libraries

What the program is built on and does not do itself: a display, a writer of JSON and a library for
YAML. The program is written over any of each. What is documented of them is stated as laws beside
the results that need it.
-/

namespace DocEnum

/-- Why a display does not print something. -/
inductive Display.Fault where
  /-- A tag in markup that closes nothing, or whose parameters have no meaning. -/
  | tag
  /-- A style in markup with a number that is none. -/
  | value (fault : Value.Fault)
  | unencodable (fault : Utf8.EncodeFault)

/-- What commands print on. -/
class Display where
  width : Nat
  /-- What is printed of a message in markup. -/
  message (markup : Text) : Except Display.Fault Text
  /-- Markup that stands for a text. -/
  protect (t : Text) : Text
  /-- What is printed of data. -/
  data (t : Text) : Except Display.Fault Text

/-- A writer of JSON. -/
class JsonWriter where
  text? (value : Value) : Option Text

/-- A library for YAML. -/
class YamlLibrary where
  load (t : Text) : Except Yaml.Fault Yaml.Document
  dump (value : Value) : Text

end DocEnum
