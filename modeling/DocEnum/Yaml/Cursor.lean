import DocEnum.Text.Utf8
import DocEnum.Yaml.Fault

/-!
# A cursor in a YAML text

Where a token starts decides what it means, so reading keeps the text that is left together with
its place: the number of characters passed, the line and the column.

**Line breaks.** A line feed, a next-line character or one of the two Unicode separators ends a
line; a carriage return does unless a line feed follows. The separators stand for themselves in
a scalar, every other break for a line feed.
-/

namespace DocEnum.Yaml

/-- What is left of a text, and where that starts. -/
structure Cursor where
  rest : Text
  index : Nat
  line : Nat
  column : Nat

/-! ## Characters -/

/-- A character that ends a line. -/
def isBreak (c : CodePoint) : Bool :=
  c == '\r' || c == '\n' || c == '\x85' || c == '\u2028' || c == '\u2029'

/-- What follows an indicator that stands alone: a blank, a line break or the end. -/
def isGap : Option CodePoint → Bool
  | none => true
  | some c => c == ' ' || c == '\t' || isBreak c

def isLineEnd : Option CodePoint → Bool
  | none => true
  | some c => isBreak c

def isSpaceEnd (c : Option CodePoint) : Bool :=
  c == some (.char ' ') || isLineEnd c

/-- A character of a name: an ASCII letter, a digit, a hyphen or an underscore. -/
def isNameChar (c : CodePoint) : Bool :=
  c.isAlphanum || c == '-' || c == '_'

namespace Cursor

/-! ## Moving -/

def start (t : Text) : Cursor := ⟨t, 0, 0, 0⟩

def peek (c : Cursor) : Option CodePoint := c.rest.head?

def peekAt (c : Cursor) (n : Nat) : Option CodePoint := c.rest[n]?

def next (c : Cursor) : Cursor :=
  match c.rest with
  | [] => c
  | ch :: rest =>
    let endsLine := isBreak ch && !(ch == '\r' && rest.head? == some (.char '\n'))
    if endsLine then ⟨rest, c.index + 1, c.line + 1, 0⟩
    else if ch == '\ufeff' then ⟨rest, c.index + 1, c.line, c.column⟩
    else ⟨rest, c.index + 1, c.line, c.column + 1⟩

def advance (c : Cursor) : Nat → Cursor
  | 0 => c
  | n + 1 => c.next.advance n

/-- The characters up to the first that fails the test, and the cursor there. -/
def span (c : Cursor) (p : CodePoint → Bool) : Text × Cursor :=
  let t := c.rest.takeWhile p
  (t, c.advance t.length)

/-- The cursor at the first character that fails the test. -/
def skip (c : Cursor) (p : CodePoint → Bool) : Cursor :=
  (c.span p).2

def skipSpaces (c : Cursor) : Cursor :=
  c.skip (· == .char ' ')

/-- What a line break stands for, and the cursor after it; nothing where there is no break. -/
def lineBreak (c : Cursor) : Text × Cursor :=
  match c.rest with
  | '\r' :: '\n' :: _ => (['\n'], c.next.next)
  | ch :: _ =>
    if ch == '\u2028' || ch == '\u2029' then ([ch], c.next)
    else if isBreak ch then (['\n'], c.next)
    else ([], c)
  | [] => ([], c)

/-- Whether three given characters and then a gap come next. -/
def atMarker (c : Cursor) (marker : Text) : Bool :=
  Text.startsWith marker c.rest && isGap (c.peekAt 3)

/-- Whether a line that starts or ends a document comes next. -/
def atDocumentMarker (c : Cursor) : Bool :=
  c.atMarker "---" || c.atMarker "..."

/-- The cursor after the rest of a line that may only hold a comment. -/
def endOfLine (c : Cursor) : Except Fault Cursor :=
  let c := c.skipSpaces
  let c := if c.peek == some (.char '#') then c.skip fun ch => !isBreak ch else c
  if isLineEnd c.peek then .ok c.lineBreak.2 else .error .malformed

end Cursor

end DocEnum.Yaml
