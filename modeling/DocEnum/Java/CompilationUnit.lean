import DocEnum.Java.Declaration

/-!
# Compilation units

What a source file says about its types: the package, the name of the first type, and the
documented fields of the first level of braces.

**Package and type.** The package is declared at the start of a line of the raw text, the type
anywhere in the text without its noise.

**Fields.** `fieldsFrom` walks over the raw text and the blanked text together. It counts braces of
the blanked text and lines of the raw text on the way, takes each declaration that starts at brace
depth one, and goes on after a declaration whether it was taken or not.
-/

namespace DocEnum.Java

structure Field where
  name : Text
  doc : Text
  /-- The number, from one, of the line that holds the name. -/
  line : Nat
deriving DecidableEq, Repr

/-- What a source file declares. -/
structure CompilationUnit where
  package : Text
  className : Option Text
  fields : List Field
deriving DecidableEq, Repr

/-- The class name with its package in front. -/
def CompilationUnit.qualifiedName (unit : CompilationUnit) : Option Text :=
  unit.className.map fun name =>
    if unit.package.isEmpty then name else unit.package ++ "." ++ name

/-! ## Package -/

/-- The package declared at the start of a text, after blanks. -/
def packageAt? (t : Text) : Option Text := do
  let rest ← Text.dropBeginning? "package" (Text.trimStart t)
  let rest ← afterBlanks? rest
  let name := rest.takeWhile isTypeChar
  if name.isEmpty then none
  else match Text.trimStart (rest.drop name.length) with
    | ';' :: _ => some name
    | _ => none

/-- The first package declared at the start of a line. -/
def packageFrom? (lineStart : Bool) : Text → Option Text
  | [] => none
  | c :: rest =>
    match if lineStart then packageAt? (c :: rest) else none with
    | some name => some name
    | none => packageFrom? (c == '\n') rest

/-! ## Type -/

def typeWords : List Text := ["class", "interface", "enum", "record"]

/-- The type declared at the start of a text. -/
def typeAt? (t : Text) : Option Text :=
  typeWords.findSome? fun word =>
    ((Text.dropBeginning? word t).bind afterBlanks?).bind nameAt?

/-- The first type declared in a text; `inWord` says that the text goes on in a word. -/
def typeFrom? (inWord : Bool) : Text → Option Text
  | [] => none
  | c :: rest =>
    match if inWord then none else typeAt? (c :: rest) with
    | some name => some name
    | none => typeFrom? (Text.isWord c) rest

/-! ## Fields -/

/-- How a character of code changes the depth of braces. -/
def braceStep (c : CodePoint) : Int :=
  if c == '{' then 1 else if c == '}' then -1 else 0

def lineFeeds (t : Text) : Nat :=
  t.count (.char '\n')

/-- The documented fields of a text at brace depth one, given the characters still to skip, the
depth and the line at its start, and the text with its noise blanked. -/
def fieldsFrom (skip : Nat) (depth : Int) (line : Nat) : Text → (code : Text) → List Field
  | c :: text, b :: code =>
    let depth' := depth + braceStep b
    let line' := line + lineFeeds [c]
    match skip with
    | skip + 1 => fieldsFrom skip depth' line' text code
    | 0 =>
      match Declaration.at? (c :: text) with
      | none => fieldsFrom 0 depth' line' text code
      | some found =>
        let before := (c :: text).take (text.length + 1 - found.fromName.length)
        -- What a declaration takes up is skipped at every depth.
        let fields := fieldsFrom (text.length - found.rest.length) depth' line' text code
        if depth = 1 then ⟨found.name, found.doc, line + lineFeeds before⟩ :: fields else fields
  | _, _ => []

/-- What a source text declares. -/
def CompilationUnit.scan (text : Text) : CompilationUnit :=
  let code := blank text
  { package := (packageFrom? true text).getD []
    className := typeFrom? false code
    fields := fieldsFrom 0 0 1 text code }

/-- The first documented field of a name. -/
def CompilationUnit.field? (unit : CompilationUnit) (name : Text) : Option Field :=
  unit.fields.find? fun field => field.name = name

end DocEnum.Java
