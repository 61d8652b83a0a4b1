import DocEnum.Java.Noise
import DocEnum.Text.Blank
import DocEnum.Text.Word

/-!
# Documented declarations

A documented declaration is a comment that opens with a slash and two stars, then annotations,
modifiers, a type and the name of a field, up to the semicolon.

**Choice.** The form is ambiguous: the last annotation may give up the end of its name, the type
may be spelled like a modifier, and type arguments may end at any closing bracket in reach. Each
function here lists the places where the next part may start, the preferred place first, and
`Declaration.at?` takes the first combination that leads to a name and a semicolon.
-/

namespace DocEnum.Java

structure Declaration where
  doc : Text
  name : Text
  /-- The source text from the name on. -/
  fromName : Text
  /-- The source text after the semicolon. -/
  rest : Text
deriving DecidableEq, Repr

/-! ## Characters -/

/-- A character of a type name, which may be qualified. -/
def isTypeChar (c : CodePoint) : Bool :=
  Text.isWord c || c == '$' || c == '.'

def isNameStart (c : CodePoint) : Bool :=
  c.isAlpha || c == '_' || c == '$'

def isNamePart (c : CodePoint) : Bool :=
  Text.isWord c || c == '$'

/-- Without the blanks at the start, of which there must be one. -/
def afterBlanks? : Text → Option Text
  | [] => none
  | c :: rest => if Text.isBlank c then some (Text.trimStart rest) else none

def nameAt? : Text → Option Text
  | [] => none
  | c :: rest => if isNameStart c then some (c :: rest.takeWhile isNamePart) else none

/-! ## Places where a part may start -/

/-- The places after the first character of an annotation's name where the name may end, the last
first; `length` counts the characters of the name. -/
def shortened (length : Nat) (t : Text) : List Text :=
  (List.range (length - 1)).map fun k => t.drop (length - 1 - k)

/-- Where modifiers may start, after annotations with or without arguments. -/
def afterAnnotations : (fuel : Nat) → Text → (fallback : List Text) → List Text
  | fuel + 1, '@' :: rest, _ =>
    let name := rest.takeWhile isTypeChar
    if name.isEmpty then []
    else match Text.trimStart (rest.drop name.length) with
      | '(' :: arguments =>
        -- The first closing parenthesis ends the arguments, also inside a literal.
        match arguments.dropWhile (· != .char ')') with
        | [] => []
        | _ :: rest => afterAnnotations fuel (Text.trimStart rest) []
      | next => afterAnnotations fuel next (shortened name.length rest)
  | _, t, fallback => t :: fallback

/-- The words that may stand before a field's type. -/
def modifiers : List Text :=
  ["public", "protected", "private", "static", "final", "transient", "volatile"]

def afterModifier? (t : Text) : Option Text :=
  modifiers.findSome? fun modifier => (Text.dropBeginning? modifier t).bind afterBlanks?

/-- Where the type may start, after as many modifiers as possible first. -/
def afterModifiers : (fuel : Nat) → Text → List Text
  | 0, t => [t]
  | fuel + 1, t =>
    match afterModifier? t with
    | some rest => afterModifiers fuel rest ++ [t]
    | none => [t]

/-- A character that type arguments do not contain. -/
def endsArguments (c : CodePoint) : Bool :=
  c == ';' || c == '{' || c == '}' || c == '(' || c == ')' || c == '='

/-- The places after each closing bracket that type arguments may end with, the last first. -/
def closings : Text → List Text
  | [] => []
  | c :: rest =>
    if endsArguments c then []
    else if c == '>' then closings rest ++ [rest]
    else closings rest

/-- Where the brackets of an array type may start, after a type name and its arguments. -/
def afterType (t : Text) : List Text :=
  let name := t.takeWhile isTypeChar
  if name.isEmpty then []
  else
    let rest := t.drop name.length
    match Text.trimStart rest with
    | '<' :: arguments => closings arguments ++ [rest]
    | _ => [rest]

/-- Without the brackets of an array type. -/
def dropArrays : (fuel : Nat) → Text → Text
  | 0, t => t
  | fuel + 1, t =>
    match Text.trimStart t with
    | '[' :: rest =>
      match Text.trimStart rest with
      | ']' :: rest => dropArrays fuel rest
      | _ => t
    | _ => t

/-- The text after the initial value, if there is one, and the semicolon. -/
def afterSemicolon? (t : Text) : Option Text :=
  match Text.trimStart t with
  | ';' :: rest => some rest
  | '=' :: value => (value.dropWhile (· != .char ';')).tail?
  | _ => none

/-! ## Declarations -/

/-- The name and the end of a declaration, after its type. -/
def Declaration.ending? (doc t : Text) : Option Declaration := do
  let fromName ← afterBlanks? (dropArrays t.length t)
  let name ← nameAt? fromName
  let rest ← afterSemicolon? (fromName.drop name.length)
  return ⟨doc, name, fromName, rest⟩

/-- The length of a documentation comment at the start of a text. -/
def docLength? : Text → Option Nat
  | '/' :: '*' :: '*' :: rest => (blockLength? rest).map (· + 3)
  | _ => none

/-- The documented declaration at the start of a text. -/
def Declaration.at? (t : Text) : Option Declaration := do
  let length ← docLength? t
  let body := Text.trimStart (t.drop length)
  (afterAnnotations body.length body []).findSome? fun t' =>
    (afterModifiers t'.length t').findSome? fun t' =>
      (afterType t').findSome? (Declaration.ending? (t.take length))

end DocEnum.Java
