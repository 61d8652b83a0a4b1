import DocEnum.Text.Basic

/-!
# Java names and literals

**Names.** `isIdentifier` accepts ASCII identifiers that are not reserved; `isPackage` accepts the
empty package and identifiers joined by points.

**Literals.** `escape` doubles backslashes and puts one before each double quote.
-/

namespace DocEnum.Java

/-! ## Names -/

/-- A character an identifier may start with. -/
def isIdentifierStart (c : CodePoint) : Bool :=
  c.isAlpha || c == '_' || c == '$'

def isIdentifierPart (c : CodePoint) : Bool :=
  c.isAlphanum || c == '_' || c == '$'

/-- The reserved words, the literals spelled like words, and the single underscore. -/
def reservedWords : List Text := [
  "abstract", "assert", "boolean", "break", "byte", "case", "catch", "char", "class", "const",
  "continue", "default", "do", "double", "else", "enum", "extends", "final", "finally", "float",
  "for", "goto", "if", "implements", "import", "instanceof", "int", "interface", "long", "native",
  "new", "package", "private", "protected", "public", "return", "short", "static", "strictfp",
  "super", "switch", "synchronized", "this", "throw", "throws", "transient", "try", "void",
  "volatile", "while", "true", "false", "null", "_"].map fun (word : String) => (word : Text)

def isIdentifierForm : Text → Bool
  | [] => false
  | c :: rest => isIdentifierStart c && rest.all isIdentifierPart

/-- Whether a text may name a type, a member or a constant. -/
def isIdentifier (t : Text) : Bool :=
  isIdentifierForm t && !reservedWords.contains t

/-- Whether a text may name a package; the empty text names the default package. -/
def isPackage (t : Text) : Bool :=
  t.isEmpty || (Text.splitOn (· == .char '.') t).all isIdentifier

/-! ## Literals -/

/-- One character inside a string literal. -/
def escapeChar (c : CodePoint) : Text :=
  if c == '\\' || c == '"' then ['\\', c] else [c]

/-- The inside of a string literal for a text. -/
def escape (t : Text) : Text :=
  t.flatMap escapeChar

def literal (t : Text) : Text :=
  '"' :: (escape t ++ "\"")

end DocEnum.Java
