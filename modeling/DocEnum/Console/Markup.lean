import DocEnum.Console.Emoji
import DocEnum.Console.Literal
import DocEnum.Console.Style
import DocEnum.Console.Wrap
import DocEnum.Libraries

/-!
# Console markup

Messages are written in markup: a tag in brackets styles what follows it until it is closed, and
emoji may be written by name. A console without colors shows the text alone.

**Tags.** A tag starts with a small letter, a number sign, a slash or an at sign, and holds no
opening bracket. A backslash before it makes it text, and two backslashes before it are one. A tag
with a slash closes the last open tag of its name, or the last one if it has no name; names are
compared in normal form. Parameters of a closed tag with an at sign must be literals.

**Protection.** `protect` puts backslashes before all tags, so that `render` shows the text itself.
-/

namespace DocEnum.Console

/-! ## Pieces -/

def isTagStart (c : CodePoint) : Bool :=
  ('a' ≤ c && c ≤ 'z') || c == '#' || c == '/' || c == '@'

/-- The inside of the tag at the start of a text, and the text after it. -/
def tagAt? : Text → Option (Text × Text)
  | '[' :: c :: rest =>
    if !isTagStart c then none
    else
      let inside := rest.takeWhile fun (c : CodePoint) => c != '[' && c != ']'
      match rest.drop inside.length with
      | ']' :: rest => some (c :: inside, rest)
      | _ => none
  | _ => none

/-- A piece of markup: plain text, or the inside of a tag. -/
inductive Piece where
  | text (t : Text)
  | tag (inside : Text)

/-- The pieces of markup after some plain text, which is given reversed. -/
def piecesFrom : (fuel : Nat) → (before : Text) → Text → List Piece
  | 0, before, t => [.text (before.reverse ++ t)]
  | _, before, [] => [.text before.reverse]
  | fuel + 1, before, c :: rest =>
    let slashes := ((c :: rest).takeWhile (· == .char '\\')).length
    match tagAt? ((c :: rest).drop slashes) with
    | none => piecesFrom fuel (c :: before) rest
    | some (inside, after) =>
      -- Backslashes escape each other in pairs; one that is left over escapes the tag.
      let piece : Piece :=
        if slashes % 2 = 0 then .tag inside else .text (.char '[' :: inside ++ [.char ']'])
      .text before.reverse :: .text (List.replicate (slashes / 2) '\\') :: piece ::
        piecesFrom fuel [] after

def pieces (markup : Text) : List Piece :=
  piecesFrom markup.length [] markup

/-- Text without the backslashes before opening brackets. -/
def unescape : Text → Text
  | '\\' :: '[' :: rest => '[' :: unescape rest
  | c :: rest => c :: unescape rest
  | [] => []

/-! ## Tags -/

/-- A tag with its parameters, which follow an equals sign. -/
structure Tag where
  name : Text
  parameters : Option Text

namespace Tag

def ofText (inside : Text) : Tag :=
  let name := inside.takeWhile (· != .char '=')
  ⟨name, if name.length = inside.length then none else some (inside.drop (name.length + 1))⟩

def styleText (tag : Tag) : Text :=
  match tag.parameters with
  | none => tag.name
  | some parameters => tag.name ++ " " ++ parameters

/-- What of the parameters of a tag must be a literal: the part in brackets after a name, or all. -/
def literalPart (parameters : Text) : Text :=
  let t := Text.strip parameters
  let rest := t.dropWhile fun c => Text.isWord c || c == '.'
  if rest.isEmpty then "()"
  else if rest.head? = some (.char '(') && rest.getLast? = some (.char ')') &&
    !rest.contains (.char '\n') then rest
  else t

def isClosable (tag : Tag) : Bool :=
  match tag.name, tag.parameters with
  | '@' :: _, some (c :: rest) => isLiteral (literalPart (c :: rest))
  | _, _ => true

end Tag

/-- The normal form of the name of a tag. -/
def normalName (name : Text) : Except Display.Fault Text :=
  (Style.normalize name).mapError .value

/-- The open tags, the last one first, after a tag that closes the last one of a name, or the last
one of all for no name. -/
def closeTag (openTags : List Tag) (name : Text) : Except Display.Fault (List Tag) := do
  let isClosed ←
    if name.isEmpty then pure fun _ => true
    else do
      let name ← normalName name
      pure fun (tag : Tag) => tag.name == name
  match openTags.find? isClosed with
  | none => throw .tag
  | some tag => if tag.isClosable then return openTags.eraseP isClosed else throw .tag

/-- The open tags, the last one first, after one more tag. -/
def applyTag (openTags : List Tag) (tag : Tag) : Except Display.Fault (List Tag) := do
  match tag.name with
  | '/' :: name => closeTag openTags (Text.strip name)
  | name => return ⟨← normalName name, tag.parameters⟩ :: openTags

/-- Fails unless the numbers in the style of a tag are numbers. -/
def checkStyle (tag : Tag) : Except Display.Fault Unit :=
  match Style.parse tag.styleText with
  | .error (.number fault) => .error (.value fault)
  | _ => .ok ()

/-! ## Rendering -/

def tags (pieces : List Piece) : List Tag :=
  pieces.filterMap fun
    | .tag inside => some (.ofText inside)
    | .text _ => none

def plainText (pieces : List Piece) : Text :=
  pieces.flatMap fun
    | .tag _ => []
    | .text t => withEmoji (unescape t)

/-- The text of markup as a console shows it in lines of a width. -/
def render (width : Nat) (markup : Text) : Except Display.Fault Text := do
  let pieces := pieces markup
  let tags := tags pieces
  let _ ← tags.foldlM applyTag []
  tags.forM checkStyle
  return Text.joinWith [.char '\n'] (shownLines width (plainText pieces))

/-! ## Protection -/

/-- The length of the tag at the start of a text, zero for none. -/
def tagLength (t : Text) : Nat :=
  (tagAt? t).elim 0 fun (inside, _) => inside.length + 2

/-- Markup with a backslash before each tag, after the `skip` characters of the one before. -/
def protectFrom : (skip : Nat) → Text → Text
  | _, [] => []
  | skip + 1, c :: rest => c :: protectFrom skip rest
  | 0, c :: rest =>
    let slashes := ((c :: rest).takeWhile (· == .char '\\')).length
    match tagLength ((c :: rest).drop slashes) with
    | 0 => c :: protectFrom 0 rest
    | length + 1 =>
      (List.replicate (slashes + 1) '\\' : Text) ++ c :: protectFrom (slashes + length) rest

/-- Markup that is rendered as the given text. -/
def protect (t : Text) : Text :=
  let markup := protectFrom 0 t
  match markup.reverse with
  | '\\' :: '\\' :: _ => markup
  | '\\' :: _ => markup ++ "\\"
  | _ => markup

/-! ## The display -/

/-- A text that is printed as it is, if it has bytes. -/
def printed (t : Text) : Except Display.Fault Text :=
  match Utf8.encode t with
  | .error fault => .error (.unencodable fault)
  | .ok _ => .ok t

/-- A console with lines of a width. -/
@[reducible] def display (width : Nat) : Display where
  width := width
  message markup := do printed (← render width markup)
  protect := protect
  data t := printed (shown t)

end DocEnum.Console
